import Mathlib.Data.List.Infix
import WaterCare.Py.Pattern

/-!
What the case mappings, the normal forms and the character classes of Python read of the Unicode
tables.
-/

namespace Py

/-- The tables. -/
structure Unicode where
  nfkc : List Char → List Char
  caseFolding : Char → List Char
  upperCase : Char → List Char
  /-- `str.lower`. -/
  lower : List Char → List Char
  /-- The category `Cf`. -/
  isFormat : Char → Bool
  /-- `\d`. -/
  isDigit : Char → Bool
  /-- `\w`. -/
  isWord : Char → Bool

namespace Unicode

/-- `str.casefold`. -/
def casefold (u : Unicode) (cs : List Char) : List Char := cs.flatMap u.caseFolding

/-- `str.upper`. -/
def upper (u : Unicode) (cs : List Char) : List Char := cs.flatMap u.upperCase

/-- The tables on the printable characters of ASCII and the Hangul syllables. -/
def basic : Unicode where
  nfkc cs := cs
  caseFolding c := [c.toLower]
  upperCase c := [c.toUpper]
  lower cs := cs.map Char.toLower
  isFormat _ := false
  isDigit c := c.isDigit
  isWord c := c.isAlphanum || c == '_' || decide ('가' ≤ c ∧ c ≤ '힣')

end Unicode

namespace Pattern

/-- A character of a text that is written in the pattern. -/
def among (s : String) : Pattern := one s.toList.contains

/-- `{m,}`. -/
def atLeast (m : Nat) (r : Pattern) : Pattern := seq (all (List.replicate m r)) (star r)

end Pattern

/-- `needle in haystack`. -/
def contained (needle : String) (haystack : List Char) : Bool :=
  decide (needle.toList <:+: haystack)

end Py
