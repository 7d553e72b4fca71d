import WaterCare.Py.Text

/-!
Python's `re`. A pattern gives the ends of its matches at a place of a text, in the order in which
the engine tries them.
-/

namespace Py

/-- A place of a text: the text before it, read backwards, and the text after it. -/
structure Place where
  before : List Char
  after : List Char
  deriving DecidableEq

def Place.start (text : List Char) : Place := ⟨[], text⟩

/-- The text from one place to a later one. -/
def Place.upTo (p q : Place) : List Char :=
  (q.before.take (q.before.length - p.before.length)).reverse

def Pattern := Place → List Place

namespace Pattern

/-- A character of a class. -/
def one (p : Char → Bool) : Pattern := fun z =>
  match z.after with
  | [] => []
  | c :: rest => if p c then [⟨c :: z.before, rest⟩] else []

def empty : Pattern := fun z => [z]

def seq (r s : Pattern) : Pattern := fun z => (r z).flatMap s

def or (r s : Pattern) : Pattern := fun z => r z ++ s z

/-- The patterns in a row. -/
def all (rs : List Pattern) : Pattern := rs.foldr seq empty

/-- `|`. -/
def any (rs : List Pattern) : Pattern := fun z => rs.flatMap fun r => r z

def char (c : Char) : Pattern := one (· == c)

def text (s : String) : Pattern := all (s.toList.map char)

def texts (ss : List String) : Pattern := any (ss.map text)

/-- `{0,n}`, the longest first. -/
def upTo : Nat → Pattern → Pattern
  | 0, _ => empty
  | n + 1, r => or (seq r (upTo n r)) empty

/-- `{0,n}?`, the shortest first. -/
def upToLazy : Nat → Pattern → Pattern
  | 0, _ => empty
  | n + 1, r => or empty (seq r (upToLazy n r))

/-- `{m,n}`. -/
def between (m n : Nat) (r : Pattern) : Pattern := all (List.replicate m r ++ [upTo (n - m) r])

/-- `*`, of a pattern that takes a character at least. -/
def star (r : Pattern) : Pattern := fun z => upTo z.after.length r z

/-- `+`. -/
def plus (r : Pattern) : Pattern := seq r (star r)

/-- `?`. -/
def opt (r : Pattern) : Pattern := or r empty

/-- `\s`. -/
def space : Pattern := one isSpace

/-- `\s*`. -/
def spaces : Pattern := star space

/-- `.`. -/
def dot : Pattern := one (· != '\n')

/-- `(?=r)`. -/
def ahead (r : Pattern) : Pattern := fun z => if (r z).isEmpty then [] else [z]

/-- `(?!r)`. -/
def notAhead (r : Pattern) : Pattern := fun z => if (r z).isEmpty then [z] else []

/-- `(?<=p)`, for a class of characters. -/
def behind (p : Char → Bool) : Pattern := fun z => if z.before.head?.any p then [z] else []

/-- `(?<!p)`. -/
def notBehind (p : Char → Bool) : Pattern := fun z => if z.before.head?.any p then [] else [z]

/-- `$`: the end, or the newline before it. -/
def stop : Pattern := fun z => if z.after = [] ∨ z.after = ['\n'] then [z] else []

/-- `\b`, for the word characters. -/
def boundary (isWord : Char → Bool) : Pattern := fun z =>
  if z.before.head?.any isWord == z.after.head?.any isWord then [] else [z]

/-- A Hangul syllable. -/
def hangul : Pattern := one fun c => decide ('가' ≤ c ∧ c ≤ '힣')

/-! ### Functions of a pattern -/

/-- The first match from a place on. -/
def find (r : Pattern) (before : List Char) : List Char → Option (Place × Place)
  | [] => (r ⟨before, []⟩).head?.map (Prod.mk ⟨before, []⟩)
  | c :: rest =>
      match (r ⟨before, c :: rest⟩).head? with
      | some z => some (⟨before, c :: rest⟩, z)
      | none => find r (c :: before) rest

/-- The matches from a place on, of a pattern that takes a character at least. -/
def finditer (r : Pattern) (z : Place) : List (Place × Place) :=
  go z.after.length z
where
  go : Nat → Place → List (Place × Place)
    | 0, _ => []
    | n + 1, z =>
        match find r z.before z.after with
        | none => []
        | some span => span :: go n span.2

/-- `re.search(r, s) is not None`. -/
def search (r : Pattern) (s : String) : Bool := (find r [] s.toList).isSome

/-- `re.search(r, s) is not None`, of a list of characters. -/
def within (r : Pattern) (cs : List Char) : Bool := (find r [] cs).isSome

/-- `re.search(r, s).group(0)`. -/
def group (r : Pattern) (cs : List Char) : Option (List Char) :=
  (find r [] cs).map fun span => span.1.upTo span.2

/-- `re.fullmatch(r, s) is not None`. -/
def fullmatch (r : Pattern) (s : String) : Bool := (r (.start s.toList)).any (·.after.isEmpty)

/-- `re.sub`, of a pattern that takes a character at least. -/
def sub (r : Pattern) (replace : List Char → List Char) (cs : List Char) : List Char :=
  let last := (finditer r (.start cs)).foldl
    (fun acc span => (acc.1 ++ acc.2.upTo span.1 ++ replace (span.1.upTo span.2), span.2))
    (([] : List Char), Place.start cs)
  last.1 ++ last.2.after

/-- `re.split`, of a pattern that takes a character at least. -/
def split (r : Pattern) (cs : List Char) : List (List Char) :=
  let last := (finditer r (.start cs)).foldl
    (fun acc span => (acc.1 ++ [acc.2.upTo span.1], span.2)) (([] : List (List Char)), Place.start cs)
  last.1 ++ [last.2.after]

end Pattern

/-- `s.split()`. -/
def words (cs : List Char) : List (List Char) :=
  (Pattern.split (.plus .space) cs).filter (· ≠ [])

/-- `" ".join(s.split())`. -/
def collapse (cs : List Char) : List Char := [' '].intercalate (words cs)

def removePrefix (start : String) (cs : List Char) : List Char :=
  if start.toList.isPrefixOf cs then cs.drop start.toList.length else cs

def removeSuffix (ending : String) (cs : List Char) : List Char :=
  if ending.toList.isSuffixOf cs then cs.take (cs.length - ending.toList.length) else cs

end Py
