import Mathlib.Data.List.Sort
import WaterCare.Py.Text

/-!
The functions of the Kotlin standard library on strings that the mobile client uses.
-/

namespace WaterCare.Client.Kotlin

/-- `Char.isWhitespace`: unlike Python's, it leaves out the next line character. -/
def isWhitespace (c : Char) : Bool := Py.isSpace c && c.toNat != 0x85

def trimStart (cs : List Char) : List Char := cs.dropWhile isWhitespace

def trimChars (cs : List Char) : List Char := (trimStart (trimStart cs).reverse).reverse

/-- `trim`. -/
def trim (s : String) : String := String.ofList (trimChars s.toList)

/-- `isBlank`. -/
def isBlank (s : String) : Bool := s.toList.all isWhitespace

/-- `removePrefix`. -/
def removePrefix (start s : String) : String :=
  if start.toList.isPrefixOf s.toList then String.ofList (s.toList.drop start.toList.length) else s

/-- `trimEnd(c)`. -/
def trimEndOf (c : Char) (s : String) : String :=
  String.ofList (s.toList.reverse.dropWhile (· == c)).reverse

def startsWith (start s : String) : Bool := start.toList.isPrefixOf s.toList

def endsWith (ending s : String) : Bool := ending.toList.isSuffixOf s.toList

/-- `joinToString(separator)`. -/
def joinToString (separator : String) (xs : List String) : String :=
  String.ofList (separator.toList.intercalate (xs.map String.toList))

/-- The UTF-16 code units of a character. -/
def units (c : Char) : List Nat :=
  if c.toNat < 0x10000 then [c.toNat]
  else [0xD800 + (c.toNat - 0x10000) / 0x400, 0xDC00 + (c.toNat - 0x10000) % 0x400]

/-- `compareTo`: the order of the code units. -/
def unitsLe : List Nat → List Nat → Bool
  | [], _ => true
  | _ :: _, [] => false
  | x :: xs, y :: ys => decide (x < y) || (decide (x = y) && unitsLe xs ys)

def stringLe (s t : String) : Bool := unitsLe (s.toList.flatMap units) (t.toList.flatMap units)

/-- `sorted`. -/
def sorted (xs : List String) : List String := xs.insertionSort fun s t => stringLe s t = true

/-! ### Joined texts -/

/-- The joined text determines its parts when the separator occurs in none of them. -/
theorem joinToString_inj {c : Char} {xs ys : List String}
    (same : joinToString (String.singleton c) xs = joinToString (String.singleton c) ys)
    (free : ∀ x ∈ xs, c ∉ x.toList) (free' : ∀ y ∈ ys, c ∉ y.toList) (some : xs ≠ [])
    (some' : ys ≠ []) : xs = ys := by
  have chars : [c].intercalate (xs.map String.toList) = [c].intercalate (ys.map String.toList) := by
    have joined := String.ofList_inj.1 same
    rwa [String.toList_singleton] at joined
  have split {zs : List String} (free : ∀ z ∈ zs, c ∉ z.toList) (some : zs ≠ []) :
      ([c].intercalate (zs.map String.toList)).splitOn c = zs.map String.toList := by
    refine List.splitOn_intercalate c ?_ (fun empty => some (List.map_eq_nil_iff.1 empty))
    intro l mem
    obtain ⟨z, there, rfl⟩ := List.mem_map.1 mem
    exact free z there
  have parts : xs.map String.toList = ys.map String.toList :=
    (split free some).symm.trans ((congrArg (List.splitOn c) chars).trans (split free' some'))
  exact List.map_injective_iff.2 (fun _ _ h => String.toList_injective h) parts

/-- A character of a joined text is one of the separator or of a part. -/
theorem mem_joinToString {c : Char} {separator : String} {xs : List String}
    (mem : c ∈ (joinToString separator xs).toList) :
    c ∈ separator.toList ∨ ∃ x ∈ xs, c ∈ x.toList := by
  unfold joinToString at mem
  rw [String.toList_ofList] at mem
  induction xs with
  | nil => cases mem
  | cons x rest ih =>
      cases rest with
      | nil =>
          rw [List.map_singleton, List.intercalate_singleton] at mem
          exact .inr ⟨x, List.mem_cons_self, mem⟩
      | cons y rest =>
          rw [List.map_cons, List.map_cons, List.intercalate_cons_cons, List.mem_append,
            List.mem_append] at mem
          rcases mem with (own | sep) | later
          · exact .inr ⟨x, List.mem_cons_self, own⟩
          · exact .inl sep
          · refine (ih later).imp_right ?_
            intro ⟨z, there, inside⟩
            exact ⟨z, List.mem_cons_of_mem _ there, inside⟩

/-- A joined text is empty when it has no parts, and otherwise only if a part is. -/
theorem joinToString_ne_empty {separator : String} {xs : List String} (some : xs ≠ [])
    (filled : ∀ x ∈ xs, x ≠ "") : joinToString separator xs ≠ "" := by
  intro empty
  have chars : separator.toList.intercalate (xs.map String.toList) = [] := String.ofList_inj.1 empty
  cases xs with
  | nil => exact some rfl
  | cons x rest =>
      have own : x.toList = [] := by
        cases rest with
        | nil => simpa using chars
        | cons y rest =>
            rw [List.map_cons, List.map_cons, List.intercalate_cons_cons] at chars
            exact (List.append_eq_nil_iff.1 (List.append_eq_nil_iff.1 chars).1).1
      exact filled x List.mem_cons_self (String.toList_injective own)

theorem sorted_perm (xs : List String) : (sorted xs).Perm xs := List.perm_insertionSort _ xs

theorem sorted_of_sorted {xs : List String} (ordered : xs.Pairwise fun s t => stringLe s t = true) :
    sorted xs = xs := List.Pairwise.insertionSort_eq ordered

end WaterCare.Client.Kotlin
