import Mathlib.Data.List.Dedup
import Mathlib.Data.List.TakeWhile

/-!
Text operations of the Python standard library, as far as contract documents
use them: `str.strip`, the blank test built on it, `repr` of a string, the
`in` operator between strings and the code point order of `sorted`.
All of them run on the list of characters, so that they reduce on literals.
-/

namespace Py

instance lawfulChars : LawfulBEq (List Char) := inferInstance

/-- `str.isspace` for one character, including the Unicode spaces. -/
def isSpace (c : Char) : Bool :=
  let n := c.toNat
  (9 ≤ n && n ≤ 13) || (28 ≤ n && n ≤ 32) || n == 0x85 || n == 0xA0 ||
    n == 0x1680 || (0x2000 ≤ n && n ≤ 0x200A) || n == 0x2028 || n == 0x2029 ||
    n == 0x202F || n == 0x205F || n == 0x3000

def stripLeft (cs : List Char) : List Char := cs.dropWhile isSpace

def stripChars (cs : List Char) : List Char :=
  (stripLeft (stripLeft cs).reverse).reverse

def strip (s : String) : String := String.ofList (stripChars s.toList)

/-- `bool(value.strip())` for a string value. -/
def hasText (s : String) : Bool := !(stripChars s.toList).isEmpty

theorem mem_stripLeft {c : Char} {cs : List Char} (member : c ∈ cs) (visible : isSpace c = false) :
    c ∈ stripLeft cs := by
  induction cs with
  | nil => exact member
  | cons first rest ih =>
    unfold stripLeft
    rw [List.dropWhile_cons]
    split
    · rename_i space
      refine ih ((List.mem_cons.1 member).resolve_left fun same => ?_)
      rw [← same, visible] at space
      contradiction
    · exact member

theorem mem_stripChars {c : Char} {cs : List Char} (member : c ∈ cs) (visible : isSpace c = false) :
    c ∈ stripChars cs := by
  have inner := List.mem_reverse.2 (mem_stripLeft member visible)
  exact List.mem_reverse.2 (mem_stripLeft inner visible)

theorem length_stripChars (cs : List Char) : (stripChars cs).length ≤ cs.length := by
  have outer := (List.dropWhile_sublist isSpace (l := (stripLeft cs).reverse)).length_le
  have inner := (List.dropWhile_sublist isSpace (l := cs)).length_le
  unfold stripChars stripLeft at *
  simp only [List.length_reverse] at *
  omega

/-- A text is one with a character that is not a space. -/
theorem hasText_iff (s : String) : hasText s = true ↔ ∃ c ∈ s.toList, isSpace c = false := by
  unfold hasText
  constructor
  · intro filled
    refine Classical.byContradiction fun blank => ?_
    have spaces : ∀ c ∈ s.toList, isSpace c = true := fun c member =>
      (Bool.not_eq_false _).mp fun visible => blank ⟨c, member, visible⟩
    have empty : stripLeft s.toList = [] := List.dropWhile_eq_nil_iff.2 spaces
    rw [stripChars, empty] at filled
    contradiction
  · intro ⟨c, member, visible⟩
    have kept := mem_stripChars member visible
    cases stripped : stripChars s.toList with
    | nil => rw [stripped] at kept; exact absurd kept List.not_mem_nil
    | cons first rest => rfl

/-- Stripping a text leaves a text. -/
theorem hasText_strip {s : String} (filled : hasText s = true) : hasText (strip s) = true := by
  have ⟨c, member, visible⟩ := (hasText_iff s).1 filled
  refine (hasText_iff _).2 ⟨c, ?_, visible⟩
  rw [strip, String.toList_ofList]
  exact mem_stripChars member visible

private def hexDigit (n : Nat) : Char :=
  if n < 10 then Char.ofNat (48 + n) else Char.ofNat (87 + n)

private def escape (c : Char) : List Char := [Char.ofNat 92, c]

private def reprChar (quote : Char) (c : Char) : List Char :=
  if c = quote ∨ c.toNat = 92 then escape c
  else if c.toNat = 10 then escape 'n'
  else if c.toNat = 13 then escape 'r'
  else if c.toNat = 9 then escape 't'
  else if c.toNat < 32 ∨ c.toNat = 127 then
    escape 'x' ++ [hexDigit (c.toNat / 16), hexDigit (c.toNat % 16)]
  else [c]

/-- `repr` of a string: single quotes unless only these occur in the text.
Characters above ASCII are taken as printable. -/
def pyRepr (s : String) : String :=
  let cs := s.toList
  let single := Char.ofNat 39
  let double := Char.ofNat 34
  let quote := if cs.contains single && !cs.contains double then double else single
  String.ofList (quote :: cs.flatMap (reprChar quote) ++ [quote])

/-- `needle in haystack` for two strings. -/
def isSubstring (needle haystack : String) : Bool :=
  haystack.toList.tails.any fun rest => needle.toList.isPrefixOf rest

section Sorting
variable {α : Type} (before : α → α → Bool)

def insertSorted (x : α) : List α → List α
  | [] => [x]
  | y :: ys => if before x y then x :: y :: ys else y :: insertSorted x ys

/-- `sorted`, by insertion: stable, and structural so that it reduces. -/
def sorted : List α → List α
  | [] => []
  | x :: xs => insertSorted before x (sorted xs)

variable {before}

theorem mem_insertSorted {x y : α} {xs : List α} :
    y ∈ insertSorted before x xs ↔ y = x ∨ y ∈ xs := by
  induction xs with
  | nil => simp [insertSorted]
  | cons z zs ih =>
      rw [insertSorted]
      split
      · exact List.mem_cons
      · rw [List.mem_cons, ih, List.mem_cons, or_left_comm]

theorem mem_sorted {y : α} {xs : List α} : y ∈ sorted before xs ↔ y ∈ xs := by
  induction xs with
  | nil => rfl
  | cons x xs ih => rw [sorted, mem_insertSorted, ih, List.mem_cons]

end Sorting

def sortedStrings (xs : List String) : List String :=
  sorted (fun a b => decide (a ≤ b)) xs.dedup

end Py
