import Mathlib.Data.List.Sort
import Mathlib.Data.String.Basic

/-!
`json.dumps` with sorted keys, compact separators and no ASCII escapes. The text of a value
determines the value, so two values whose objects have distinct keys get one text exactly
when they are the same up to the order of keys.
-/

namespace Py

/-- What the encoder takes: a dict with string keys is its list of entries. -/
inductive Json
  | null
  | bool (b : Bool)
  | int (n : Int)
  | str (s : String)
  | arr (items : List Json)
  | obj (entries : List (String × Json))

namespace Json

/-! ### The text -/

def quote : Char := Char.ofNat 34

def backslash : Char := Char.ofNat 92

def hexDigit (n : Nat) : Char :=
  if n < 10 then Char.ofNat (48 + n) else Char.ofNat (87 + n)

/-- `ESCAPE_DCT`, for the characters that `ESCAPE` finds. -/
def escaped (c : Char) : List Char :=
  if c = quote then [backslash, quote]
  else if c = backslash then [backslash, backslash]
  else if c.toNat = 8 then [backslash, 'b']
  else if c.toNat = 12 then [backslash, 'f']
  else if c.toNat = 10 then [backslash, 'n']
  else if c.toNat = 13 then [backslash, 'r']
  else if c.toNat = 9 then [backslash, 't']
  else if c.toNat < 32 then
    [backslash, 'u', '0', '0', hexDigit (c.toNat / 16), hexDigit (c.toNat % 16)]
  else [c]

/-- The text of a string after its opening quote. -/
def body : List Char → List Char
  | [] => [quote]
  | c :: cs => escaped c ++ body cs

def string (s : String) : List Char := quote :: body s.toList

mutual
def chars : Json → List Char
  | null => ['n', 'u', 'l', 'l']
  | bool true => ['t', 'r', 'u', 'e']
  | bool false => ['f', 'a', 'l', 's', 'e']
  | int n => (toString n).toList
  | str s => string s
  | arr [] => ['[', ']']
  | arr (x :: xs) => '[' :: (x.chars ++ laterItems xs)
  | obj [] => ['{', '}']
  | obj ((key, v) :: es) => '{' :: (string key ++ ':' :: (v.chars ++ laterEntries es))

/-- The items after the first, each behind its separator. -/
def laterItems : List Json → List Char
  | [] => [']']
  | x :: xs => ',' :: (x.chars ++ laterItems xs)

def laterEntries : List (String × Json) → List Char
  | [] => ['}']
  | (key, v) :: es => ',' :: (string key ++ ':' :: (v.chars ++ laterEntries es))
end

/-! ### Strings -/

section
variable {c d : Char} {r r' : List Char}

/-- The characters that are escaped. -/
def special : List Char := (List.range 32).map Char.ofNat ++ [quote, backslash]

theorem escaped_special : ∀ c ∈ special, (escaped c).head? = some backslash := by
  have checked : (special.all fun c => (escaped c).head? == some backslash) = true := by decide
  intro c mem
  exact eq_of_beq (List.all_eq_true.1 checked c mem)

/-- No escape is the beginning of another. -/
theorem escaped_prefix_free : ∀ c ∈ special, ∀ d ∈ special, escaped c <+: escaped d → c = d := by
  have checked : (special.all fun c => special.all fun d =>
      !(escaped c).isPrefixOf (escaped d) || c == d) = true := by decide +kernel
  intro c mem d mem' starts
  have pair := List.all_eq_true.1 (List.all_eq_true.1 checked c mem) d mem'
  rw [List.isPrefixOf_iff_prefix.2 starts] at pair
  exact eq_of_beq pair

theorem escaped_plain (plain : c ∉ special) : escaped c = [c] := by
  have inside : c.toNat < 32 → c ∈ special := fun small =>
    List.mem_append_left _ (List.mem_map.2 ⟨c.toNat, List.mem_range.2 small, Char.ofNat_toNat c⟩)
  have large : ¬c.toNat < 32 := fun small => plain (inside small)
  have notQuote : c ≠ quote := fun same => plain (same ▸ by decide)
  have notBackslash : c ≠ backslash := fun same => plain (same ▸ by decide)
  unfold escaped
  rw [if_neg notQuote, if_neg notBackslash, if_neg (by omega), if_neg (by omega),
    if_neg (by omega), if_neg (by omega), if_neg (by omega), if_neg large]

theorem special_ne_plain (special_ : c ∈ special) (plain : d ∉ special) :
    escaped c ++ r ≠ escaped d ++ r' := by
  intro same
  rw [escaped_plain plain] at same
  have head := escaped_special c special_
  cases code : escaped c with
  | nil => rw [code] at head; exact nomatch head
  | cons first rest =>
    rw [code] at same head
    have first_ : first = d := (List.cons.inj same).1
    have backslash_ : first = backslash := Option.some.inj head
    exact plain (first_.symm.trans backslash_ ▸ by decide)

theorem escaped_append_inj (same : escaped c ++ r = escaped d ++ r') : c = d ∧ r = r' := by
  have chars : c = d := by
    by_cases cs : c ∈ special <;> by_cases ds : d ∈ special
    · have prefixes : escaped c <+: escaped d ∨ escaped d <+: escaped c :=
        List.prefix_or_prefix_of_prefix ⟨r, rfl⟩ ⟨r', same.symm⟩
      refine prefixes.elim (escaped_prefix_free c cs d ds) fun other => ?_
      exact (escaped_prefix_free d ds c cs other).symm
    · exact absurd same (special_ne_plain cs ds)
    · exact absurd same.symm (special_ne_plain ds cs)
    · rw [escaped_plain cs, escaped_plain ds] at same
      exact (List.cons.inj same).1
  rw [chars] at same
  exact ⟨chars, List.append_cancel_left same⟩

/-- No escape begins with the quote that ends a string. -/
theorem escaped_ne_quote : escaped c ++ r ≠ quote :: r' := by
  intro same
  have head : (escaped c).head? ≠ some quote ∧ escaped c ≠ [] := by
    by_cases cs : c ∈ special
    · have head := escaped_special c cs
      refine ⟨fun other => ?_, fun none => ?_⟩
      · exact absurd (Option.some.inj (head.symm.trans other)) (by decide)
      · rw [none] at head
        exact nomatch head
    · rw [escaped_plain cs]
      refine ⟨fun other => cs ?_, List.cons_ne_nil _ _⟩
      rw [Option.some.inj other]
      decide
  cases code : escaped c with
  | nil => exact head.2 code
  | cons first rest =>
    rw [code] at same head
    exact head.1 (congrArg Option.some (List.cons.inj same).1)

theorem body_append_inj {cs ds : List Char} (same : body cs ++ r = body ds ++ r') :
    cs = ds ∧ r = r' := by
  induction cs generalizing ds with
  | nil =>
    cases ds with
    | nil => exact ⟨rfl, (List.cons.inj same).2⟩
    | cons d ds =>
      unfold body at same
      rw [List.append_assoc] at same
      exact absurd same.symm escaped_ne_quote
  | cons c cs ih =>
    cases ds with
    | nil =>
      unfold body at same
      rw [List.append_assoc] at same
      exact absurd same escaped_ne_quote
    | cons d ds =>
      unfold body at same
      rw [List.append_assoc, List.append_assoc] at same
      have ⟨first, rest⟩ := escaped_append_inj same
      have ⟨later, ends⟩ := ih rest
      exact ⟨by rw [first, later], ends⟩

theorem string_append_inj {s t : String} (same : string s ++ r = string t ++ r') :
    s = t ∧ r = r' := by
  have ⟨chars, ends⟩ := body_append_inj (List.cons.inj same).2
  exact ⟨String.toList_inj.1 chars, ends⟩

end

/-! ### Numbers -/

def numeral (c : Char) : Bool := c.isDigit || c == '-'

/-- What follows a value does not go on with a number. -/
def Ends (r : List Char) : Prop := ∀ c ∈ r.head?, numeral c = false

theorem isDigit_repr (m : Nat) : ∀ c ∈ m.repr.toList, c.isDigit = true := by
  intro c mem
  rw [Nat.toList_repr] at mem
  exact Nat.isDigit_of_mem_toDigits (by omega) (by omega) mem

theorem repr_injective {m n : Nat} (same : m.repr = n.repr) : m = n := by
  have digits : Nat.toDigits 10 m = Nat.toDigits 10 n := by
    rw [← Nat.toList_repr, same, Nat.toList_repr]
  rw [← Nat.ofDigitChars_ten_toDigits (n := m), digits, Nat.ofDigitChars_ten_toDigits]

theorem toList_int (n : Int) : (toString n).toList =
    if 0 ≤ n then n.toNat.repr.toList else '-' :: (-n).toNat.repr.toList := by
  rw [Int.toString_eq_repr, Int.repr_eq_if, apply_ite String.toList, String.toList_append]
  rfl

theorem numeral_int (n : Int) : ∀ c ∈ (toString n).toList, numeral c = true := by
  have digits : ∀ m : Nat, ∀ c ∈ m.repr.toList, numeral c = true := by
    intro m c mem
    unfold numeral
    rw [isDigit_repr m c mem]
    rfl
  intro c mem
  rw [toList_int] at mem
  split at mem
  · exact digits _ c mem
  · refine (List.mem_cons.1 mem).elim (fun minus => ?_) (digits _ c)
    rw [minus]
    rfl

theorem int_injective {m n : Int} (same : (toString m).toList = (toString n).toList) : m = n := by
  have minus : ∀ {k : Nat} {cs : List Char}, k.repr.toList ≠ '-' :: cs := by
    intro k cs text
    have digit := isDigit_repr k '-' (by rw [text]; exact List.mem_cons_self)
    exact absurd digit (by decide)
  rw [toList_int, toList_int] at same
  split at same <;> split at same
  · have naturals := repr_injective (String.toList_inj.1 same)
    omega
  · exact absurd same minus
  · exact absurd same.symm minus
  · have naturals := repr_injective (String.toList_inj.1 (List.cons.inj same).2)
    omega

theorem int_append_inj {m n : Int} {r r' : List Char} (ends : Ends r) (ends' : Ends r')
    (same : (toString m).toList ++ r = (toString n).toList ++ r') : m = n ∧ r = r' := by
  have span : ∀ {n : Int} {r : List Char}, Ends r →
      ((toString n).toList ++ r).takeWhile numeral = (toString n).toList := by
    intro n r ends
    rw [List.takeWhile_append_of_pos (numeral_int n)]
    cases r with
    | nil => exact List.append_nil _
    | cons c r =>
      rw [List.takeWhile_cons, ends c rfl]
      exact List.append_nil _
  have texts : (toString m).toList = (toString n).toList := by
    rw [← span ends, same, span ends']
  rw [texts] at same
  exact ⟨int_injective texts, List.append_cancel_left same⟩

/-! ### Values -/

/-- The first character tells the kind of a value. -/
def kindOf (c : Char) : Nat :=
  if c = 'n' then 0
  else if c = 't' then 1
  else if c = 'f' then 2
  else if c = quote then 3
  else if c = '[' then 4
  else if c = '{' then 5
  else if numeral c then 6
  else 7

def kind : Json → Nat
  | null => 0
  | bool true => 1
  | bool false => 2
  | str _ => 3
  | arr _ => 4
  | obj _ => 5
  | int _ => 6

theorem kindOf_numeral {c : Char} (is : numeral c = true) : kindOf c = 6 := by
  have ne : ∀ d, numeral d = false → c ≠ d := fun d not same =>
    absurd (same ▸ is) (ne_true_of_eq_false not)
  unfold kindOf
  rw [if_neg (ne _ (by decide)), if_neg (ne _ (by decide)), if_neg (ne _ (by decide)),
    if_neg (ne _ (by decide)), if_neg (ne _ (by decide)), if_neg (ne _ (by decide)), if_pos is]

theorem toList_int_ne_nil (n : Int) : (toString n).toList ≠ [] := by
  rw [toList_int]
  split
  · rw [Nat.toList_repr]
    exact Nat.toDigits_ne_nil
  · exact List.cons_ne_nil _ _

theorem chars_head (a : Json) : ∃ c cs, a.chars = c :: cs ∧ kindOf c = a.kind := by
  cases a with
  | null => exact ⟨_, _, rfl, by decide⟩
  | bool b => cases b <;> exact ⟨_, _, rfl, by decide⟩
  | int n =>
    cases text : (toString n).toList with
    | nil => exact absurd text (toList_int_ne_nil n)
    | cons c cs =>
      refine ⟨c, cs, text, kindOf_numeral (numeral_int n c ?_)⟩
      rw [text]
      exact List.mem_cons_self
  | str s => exact ⟨quote, _, rfl, (by decide : kindOf quote = 3)⟩
  | arr items => cases items <;> exact ⟨'[', _, rfl, (by decide : kindOf '[' = 4)⟩
  | obj entries => cases entries <;> exact ⟨'{', _, rfl, (by decide : kindOf '{' = 5)⟩

theorem kind_eq {a b : Json} {r r' : List Char} (same : a.chars ++ r = b.chars ++ r') :
    a.kind = b.kind := by
  have ⟨c, cs, text, kind⟩ := chars_head a
  have ⟨d, ds, text', kind'⟩ := chars_head b
  rw [text, text'] at same
  rw [← kind, ← kind', (List.cons.inj same).1]

theorem ends_laterItems (xs : List Json) (r : List Char) : Ends (laterItems xs ++ r) := by
  cases xs <;> exact fun c head => Option.some.inj head ▸ by decide

theorem ends_laterEntries (es : List (String × Json)) (r : List Char) :
    Ends (laterEntries es ++ r) := by
  cases es <;> exact fun c head => Option.some.inj head ▸ by decide

/-- No value begins with the bracket that closes an empty list. -/
theorem chars_ne_bracket {a : Json} {r r' : List Char} : a.chars ++ r ≠ ']' :: r' := by
  have ⟨c, cs, text, kind⟩ := chars_head a
  intro same
  rw [text] at same
  rw [(List.cons.inj same).1] at kind
  have bracket : kindOf ']' = 7 := by decide
  rw [bracket] at kind
  revert kind
  cases a with
  | bool b => cases b <;> exact nofun
  | null | int | str | arr | obj => exact nofun

section
variable {b : Json}

theorem null_of_kind (same : null.kind = b.kind) : b = null := by
  cases b with
  | null => rfl
  | bool x => cases x <;> exact nomatch same
  | int | str | arr | obj => exact nomatch same

theorem bool_of_kind {x : Bool} (same : (bool x).kind = b.kind) : b = bool x := by
  cases b with
  | bool y => cases x <;> cases y <;> first | rfl | exact nomatch same
  | null | int | str | arr | obj => cases x <;> exact nomatch same

theorem int_of_kind {n : Int} (same : (int n).kind = b.kind) : ∃ m, b = int m := by
  cases b with
  | int m => exact ⟨m, rfl⟩
  | bool x => cases x <;> exact nomatch same
  | null | str | arr | obj => exact nomatch same

theorem str_of_kind {s : String} (same : (str s).kind = b.kind) : ∃ t, b = str t := by
  cases b with
  | str t => exact ⟨t, rfl⟩
  | bool x => cases x <;> exact nomatch same
  | null | int | arr | obj => exact nomatch same

theorem arr_of_kind {xs : List Json} (same : (arr xs).kind = b.kind) : ∃ ys, b = arr ys := by
  cases b with
  | arr ys => exact ⟨ys, rfl⟩
  | bool x => cases x <;> exact nomatch same
  | null | int | str | obj => exact nomatch same

theorem obj_of_kind {es : List (String × Json)} (same : (obj es).kind = b.kind) :
    ∃ fs, b = obj fs := by
  cases b with
  | obj fs => exact ⟨fs, rfl⟩
  | bool x => cases x <;> exact nomatch same
  | null | int | str | arr => exact nomatch same

end

mutual
/-- A text and what follows it are the text of one value only. -/
theorem chars_append_inj : ∀ (a b : Json) (r r' : List Char), Ends r → Ends r' →
    a.chars ++ r = b.chars ++ r' → a = b ∧ r = r'
  | null, b, r, r', _, _, same => by
    have is := null_of_kind (kind_eq same)
    rw [is] at same ⊢
    exact ⟨rfl, List.append_cancel_left same⟩
  | bool x, b, r, r', _, _, same => by
    have is := bool_of_kind (kind_eq same)
    rw [is] at same ⊢
    exact ⟨rfl, List.append_cancel_left same⟩
  | int n, b, r, r', ends, ends', same => by
    have ⟨m, is⟩ := int_of_kind (kind_eq same)
    rw [is] at same ⊢
    have ⟨numbers, after⟩ := int_append_inj ends ends' same
    exact ⟨by rw [numbers], after⟩
  | str s, b, r, r', _, _, same => by
    have ⟨t, is⟩ := str_of_kind (kind_eq same)
    rw [is] at same ⊢
    have ⟨texts, after⟩ := string_append_inj same
    exact ⟨by rw [texts], after⟩
  | arr [], b, r, r', _, _, same => by
    have ⟨ys, is⟩ := arr_of_kind (kind_eq same)
    rw [is] at same ⊢
    cases ys with
    | nil => exact ⟨rfl, List.append_cancel_left same⟩
    | cons y ys =>
      have texts : ']' :: r = y.chars ++ (laterItems ys ++ r') := by
        simpa [chars] using same
      exact absurd texts.symm chars_ne_bracket
  | arr (x :: xs), b, r, r', _, _, same => by
    have ⟨ys, is⟩ := arr_of_kind (kind_eq same)
    rw [is] at same ⊢
    cases ys with
    | nil =>
      have texts : x.chars ++ (laterItems xs ++ r) = ']' :: r' := by
        simpa [chars] using same
      exact absurd texts chars_ne_bracket
    | cons y ys =>
      have texts : x.chars ++ (laterItems xs ++ r) = y.chars ++ (laterItems ys ++ r') := by
        simpa [chars] using same
      have ⟨first, rest⟩ :=
        chars_append_inj x y _ _ (ends_laterItems xs r) (ends_laterItems ys r') texts
      have ⟨later, after⟩ := laterItems_append_inj xs ys r r' rest
      exact ⟨by rw [first, later], after⟩
  | obj [], b, r, r', _, _, same => by
    have ⟨fs, is⟩ := obj_of_kind (kind_eq same)
    rw [is] at same ⊢
    cases fs with
    | nil => exact ⟨rfl, List.append_cancel_left same⟩
    | cons f fs => exact absurd (List.cons.inj (List.cons.inj same).2).1 (by decide)
  | obj ((key, v) :: es), b, r, r', _, _, same => by
    have ⟨fs, is⟩ := obj_of_kind (kind_eq same)
    rw [is] at same ⊢
    cases fs with
    | nil => exact absurd (List.cons.inj (List.cons.inj same).2).1 (by decide)
    | cons f fs =>
      have ⟨key', w⟩ := f
      have texts : string key ++ (':' :: (v.chars ++ (laterEntries es ++ r))) =
          string key' ++ (':' :: (w.chars ++ (laterEntries fs ++ r'))) := by
        simpa [chars] using same
      have ⟨keys, texts⟩ := string_append_inj texts
      have ⟨values, rest⟩ := chars_append_inj v w _ _ (ends_laterEntries es r)
        (ends_laterEntries fs r') (List.cons.inj texts).2
      have ⟨later, after⟩ := laterEntries_append_inj es fs r r' rest
      exact ⟨by rw [keys, values, later], after⟩

theorem laterItems_append_inj : ∀ (xs ys : List Json) (r r' : List Char),
    laterItems xs ++ r = laterItems ys ++ r' → xs = ys ∧ r = r'
  | [], [], r, r', same => ⟨rfl, (List.cons.inj same).2⟩
  | [], y :: ys, r, r', same => absurd (List.cons.inj same).1 (by decide)
  | x :: xs, [], r, r', same => absurd (List.cons.inj same).1 (by decide)
  | x :: xs, y :: ys, r, r', same => by
    have texts : x.chars ++ (laterItems xs ++ r) = y.chars ++ (laterItems ys ++ r') := by
      simpa [laterItems] using same
    have ⟨first, rest⟩ :=
      chars_append_inj x y _ _ (ends_laterItems xs r) (ends_laterItems ys r') texts
    have ⟨later, after⟩ := laterItems_append_inj xs ys r r' rest
    exact ⟨by rw [first, later], after⟩

theorem laterEntries_append_inj : ∀ (es fs : List (String × Json)) (r r' : List Char),
    laterEntries es ++ r = laterEntries fs ++ r' → es = fs ∧ r = r'
  | [], [], r, r', same => ⟨rfl, (List.cons.inj same).2⟩
  | [], (key, v) :: es, r, r', same => absurd (List.cons.inj same).1 (by decide)
  | (key, v) :: es, [], r, r', same => absurd (List.cons.inj same).1 (by decide)
  | (key, v) :: es, (key', w) :: fs, r, r', same => by
    have texts : string key ++ (':' :: (v.chars ++ (laterEntries es ++ r))) =
        string key' ++ (':' :: (w.chars ++ (laterEntries fs ++ r'))) := by
      simpa [laterEntries] using same
    have ⟨keys, texts⟩ := string_append_inj texts
    have ⟨values, rest⟩ := chars_append_inj v w _ _ (ends_laterEntries es r)
      (ends_laterEntries fs r') (List.cons.inj texts).2
    have ⟨later, after⟩ := laterEntries_append_inj es fs r r' rest
    exact ⟨by rw [keys, values, later], after⟩
end

theorem chars_injective {a b : Json} (same : a.chars = b.chars) : a = b := by
  have ends : Ends [] := fun c head => nomatch head
  have ⟨values, _⟩ := chars_append_inj a b [] [] ends ends (by rw [same])
  exact values

/-! ### The order of keys -/

def keyLe (e f : String × Json) : Prop := e.1 ≤ f.1

instance : DecidableRel keyLe := fun e f => inferInstanceAs (Decidable (e.1 ≤ f.1))

instance : IsTrans (String × Json) keyLe := ⟨fun _ _ _ => le_trans⟩

instance : Std.Total keyLe := ⟨fun e f => le_total e.1 f.1⟩

mutual
/-- `sort_keys`, at every level. -/
def sortKeys : Json → Json
  | arr xs => arr (sortItems xs)
  | obj es => obj ((sortEntries es).insertionSort keyLe)
  | null => null
  | bool b => bool b
  | int n => int n
  | str s => str s

def sortItems : List Json → List Json
  | [] => []
  | x :: xs => x.sortKeys :: sortItems xs

def sortEntries : List (String × Json) → List (String × Json)
  | [] => []
  | (key, v) :: es => (key, v.sortKeys) :: sortEntries es
end

/-- `json.dumps` as it is called. -/
def dumps (a : Json) : String := String.ofList a.sortKeys.chars

/-! ### What a value says -/

/-- A JSON value with its objects as finite maps. -/
inductive Plain
  | null
  | bool (b : Bool)
  | int (n : Int)
  | str (s : String)
  | arr (items : List Plain)
  | obj (entries : String → Option Plain)

mutual
def meaning : Json → Plain
  | null => .null
  | bool b => .bool b
  | int n => .int n
  | str s => .str s
  | arr xs => .arr (meanings xs)
  | obj es => .obj (meaningOf es)

def meanings : List Json → List Plain
  | [] => []
  | x :: xs => x.meaning :: meanings xs

/-- What the entries say for a key. -/
def meaningOf : List (String × Json) → String → Option Plain
  | [], _ => none
  | (key, v) :: es, k => if k = key then some v.meaning else meaningOf es k
end

mutual
/-- The keys of every object are distinct. -/
def Keyed : Json → Prop
  | arr xs => KeyedItems xs
  | obj es => (es.map (·.1)).Nodup ∧ KeyedEntries es
  | _ => True

def KeyedItems : List Json → Prop
  | [] => True
  | x :: xs => x.Keyed ∧ KeyedItems xs

def KeyedEntries : List (String × Json) → Prop
  | [] => True
  | (_, v) :: es => v.Keyed ∧ KeyedEntries es
end

section
variable {es fs : List (String × Json)} {key : String}

theorem sortItems_eq (xs : List Json) : sortItems xs = xs.map sortKeys := by
  induction xs with
  | nil => rfl
  | cons x xs ih => rw [sortItems, ih, List.map_cons]

theorem sortEntries_eq (es : List (String × Json)) :
    sortEntries es = es.map fun e => (e.1, e.2.sortKeys) := by
  induction es with
  | nil => rfl
  | cons e es ih => rw [sortEntries, ih, List.map_cons]

theorem meanings_eq (xs : List Json) : meanings xs = xs.map meaning := by
  induction xs with
  | nil => rfl
  | cons x xs ih => rw [meanings, ih, List.map_cons]

theorem keyedItems_iff {xs : List Json} : KeyedItems xs ↔ ∀ x ∈ xs, x.Keyed := by
  induction xs with
  | nil => simp [KeyedItems]
  | cons x xs ih => rw [KeyedItems, ih, List.forall_mem_cons]

theorem keyedEntries_iff : KeyedEntries es ↔ ∀ e ∈ es, e.2.Keyed := by
  induction es with
  | nil => simp [KeyedEntries]
  | cons e es ih => rw [KeyedEntries, ih, List.forall_mem_cons]

/-- Entries with distinct keys say of a key what its entry says. -/
theorem meaningOf_eq_some {p : Plain} (distinct : (es.map (·.1)).Nodup) :
    meaningOf es key = some p ↔ ∃ v, (key, v) ∈ es ∧ v.meaning = p := by
  induction es with
  | nil => simp [meaningOf]
  | cons e es ih =>
    have ⟨k, v⟩ := e
    have ⟨fresh, distinct⟩ := List.nodup_cons.1 distinct
    unfold meaningOf
    split
    · rename_i same
      rw [same, Option.some.injEq]
      constructor
      · exact fun means => ⟨v, List.mem_cons_self, means⟩
      · intro ⟨w, mem, means⟩
        refine (List.mem_cons.1 mem).elim (fun is => ?_) fun later => ?_
        · exact (Prod.mk.inj is).2 ▸ means
        · exact absurd (List.mem_map_of_mem later) fresh
    · rename_i other
      rw [ih distinct]
      refine exists_congr fun w => and_congr_left fun _ => ?_
      rw [List.mem_cons]
      exact ⟨.inr, fun mem => mem.resolve_left fun is => other (Prod.mk.inj is).1⟩

end

mutual
/-- Induction that reaches the items of a list and the values of an object by membership. -/
theorem induction {motive : Json → Prop} (null_ : motive null) (bool_ : ∀ b, motive (bool b))
    (int_ : ∀ n, motive (int n)) (str_ : ∀ s, motive (str s))
    (arr_ : ∀ xs, (∀ x ∈ xs, motive x) → motive (arr xs))
    (obj_ : ∀ es : List (String × Json), (∀ e ∈ es, motive e.2) → motive (obj es)) :
    ∀ a, motive a
  | null => null_
  | bool b => bool_ b
  | int n => int_ n
  | str s => str_ s
  | arr xs => arr_ xs (induction_items null_ bool_ int_ str_ arr_ obj_ xs)
  | obj es => obj_ es (induction_entries null_ bool_ int_ str_ arr_ obj_ es)

theorem induction_items {motive : Json → Prop} (null_ : motive null)
    (bool_ : ∀ b, motive (bool b)) (int_ : ∀ n, motive (int n)) (str_ : ∀ s, motive (str s))
    (arr_ : ∀ xs, (∀ x ∈ xs, motive x) → motive (arr xs))
    (obj_ : ∀ es : List (String × Json), (∀ e ∈ es, motive e.2) → motive (obj es)) :
    ∀ xs : List Json, ∀ x ∈ xs, motive x
  | [] => fun _ mem => absurd mem List.not_mem_nil
  | x :: xs => List.forall_mem_cons.2 ⟨induction null_ bool_ int_ str_ arr_ obj_ x,
      induction_items null_ bool_ int_ str_ arr_ obj_ xs⟩

theorem induction_entries {motive : Json → Prop} (null_ : motive null)
    (bool_ : ∀ b, motive (bool b)) (int_ : ∀ n, motive (int n)) (str_ : ∀ s, motive (str s))
    (arr_ : ∀ xs, (∀ x ∈ xs, motive x) → motive (arr xs))
    (obj_ : ∀ es : List (String × Json), (∀ e ∈ es, motive e.2) → motive (obj es)) :
    ∀ es : List (String × Json), ∀ e ∈ es, motive e.2
  | [] => fun _ mem => absurd mem List.not_mem_nil
  | (_, v) :: es => List.forall_mem_cons.2 ⟨induction null_ bool_ int_ str_ arr_ obj_ v,
      induction_entries null_ bool_ int_ str_ arr_ obj_ es⟩
end

section
variable {es fs : List (String × Json)} {key : String}

/-- The entries of an object as they are printed. -/
def sorted (es : List (String × Json)) : List (String × Json) :=
  (sortEntries es).insertionSort keyLe

theorem sorted_perm (es : List (String × Json)) :
    (sorted es).Perm (es.map fun e => (e.1, e.2.sortKeys)) :=
  sortEntries_eq es ▸ List.perm_insertionSort keyLe (sortEntries es)

theorem sorted_keys (es : List (String × Json)) :
    ((sorted es).map (·.1)).Perm (es.map (·.1)) := by
  have keys := (sorted_perm es).map (·.1)
  rwa [List.map_map] at keys

theorem mem_sorted {v : Json} :
    (key, v) ∈ sorted es ↔ ∃ w, (key, w) ∈ es ∧ w.sortKeys = v := by
  rw [(sorted_perm es).mem_iff, List.mem_map]
  constructor
  · intro ⟨e, mem, is⟩
    have ⟨keys, values⟩ := Prod.mk.inj is
    exact ⟨e.2, keys ▸ mem, values⟩
  · intro ⟨w, mem, is⟩
    exact ⟨(key, w), mem, by rw [is]⟩

/-- Sorting the keys leaves what a value says. -/
theorem meaning_sortKeys (a : Json) : a.Keyed → a.sortKeys.meaning = a.meaning := by
  induction a using induction with
  | null_ | bool_ | int_ | str_ => exact fun _ => rfl
  | arr_ xs ih =>
    intro keyed
    unfold sortKeys meaning
    rw [sortItems_eq, meanings_eq, meanings_eq, List.map_map]
    refine congrArg Plain.arr (List.map_congr_left fun x mem => ?_)
    exact ih x mem (keyedItems_iff.1 keyed x mem)
  | obj_ es ih =>
    intro ⟨distinct, keyed⟩
    have distinct' := (sorted_keys es).nodup_iff.2 distinct
    refine congrArg Plain.obj (funext fun key => Option.ext fun p => ?_)
    refine (meaningOf_eq_some distinct').trans (Iff.trans ?_ (meaningOf_eq_some distinct).symm)
    constructor
    · intro ⟨v, mem, means⟩
      have ⟨w, there, is⟩ := mem_sorted.1 mem
      have same := ih (key, w) there (keyedEntries_iff.1 keyed (key, w) there)
      exact ⟨w, there, same.symm.trans (is ▸ means)⟩
    · intro ⟨w, there, means⟩
      have same := ih (key, w) there (keyedEntries_iff.1 keyed (key, w) there)
      exact ⟨w.sortKeys, mem_sorted.2 ⟨w, there, rfl⟩, same.trans means⟩

/-- Sorted entries with the same distinct keys and values stand in the same order. -/
theorem sorted_eq (distinct : (es.map (·.1)).Nodup) (distinct' : (fs.map (·.1)).Nodup)
    (same : ∀ e, e ∈ sorted es ↔ e ∈ sorted fs) : sorted es = sorted fs := by
  have nodup : ∀ {es : List (String × Json)}, (es.map (·.1)).Nodup → (sorted es).Nodup :=
    fun distinct => List.Nodup.of_map _ ((sorted_keys _).nodup_iff.2 distinct)
  have perm := (List.perm_ext_iff_of_nodup (nodup distinct) (nodup distinct')).2 same
  have ordered : ∀ es, (sorted es).Pairwise keyLe := fun es =>
    List.pairwise_insertionSort keyLe (sortEntries es)
  refine List.Perm.eq_of_pairwise (fun e f mem mem' le ge => ?_) (ordered es) (ordered fs) perm
  have keys : e.1 = f.1 := le_antisymm le ge
  exact List.inj_on_of_nodup_map ((sorted_keys es).nodup_iff.2 distinct) mem
    ((same f).2 mem') keys

/-- Values that say the same are sorted to the same value. -/
theorem sortKeys_of_meaning (a : Json) :
    ∀ b : Json, a.Keyed → b.Keyed → a.meaning = b.meaning → a.sortKeys = b.sortKeys := by
  induction a using induction with
  | null_ =>
    intro b _ _ same
    cases b with
    | null => rfl
    | bool | int | str | arr | obj => exact nomatch same
  | bool_ x =>
    intro b _ _ same
    cases b with
    | bool y => exact congrArg bool (Plain.bool.inj same)
    | null | int | str | arr | obj => exact nomatch same
  | int_ n =>
    intro b _ _ same
    cases b with
    | int m => exact congrArg int (Plain.int.inj same)
    | null | bool | str | arr | obj => exact nomatch same
  | str_ s =>
    intro b _ _ same
    cases b with
    | str t => exact congrArg str (Plain.str.inj same)
    | null | bool | int | arr | obj => exact nomatch same
  | arr_ xs ih =>
    intro b keyed keyed' same
    cases b with
    | arr ys =>
      have items : xs.map meaning = ys.map meaning := by
        rw [← meanings_eq, ← meanings_eq]
        exact Plain.arr.inj same
      have sorted : xs.map sortKeys = ys.map sortKeys := by
        clear same
        induction xs generalizing ys with
        | nil => rw [List.map_eq_nil_iff.1 items.symm]
        | cons x xs later =>
          cases ys with
          | nil => exact nomatch items
          | cons y ys =>
            have ⟨first, rest⟩ := List.cons.inj items
            have head := ih x List.mem_cons_self y keyed.1 keyed'.1 first
            have tail := later (fun x mem => ih x (List.mem_cons_of_mem _ mem)) keyed.2 ys
              keyed'.2 rest
            rw [List.map_cons, List.map_cons, head, tail]
      unfold sortKeys
      rw [sortItems_eq, sortItems_eq, sorted]
    | null | bool | int | str | obj => exact nomatch same
  | obj_ es ih =>
    intro b ⟨distinct, keyed⟩ keyed' same
    cases b with
    | obj fs =>
      have ⟨distinct', keyed'⟩ := keyed'
      have maps : meaningOf es = meaningOf fs := Plain.obj.inj same
      -- an entry of one side is one of the other, with a value that says the same
      have entry : ∀ key v, (key, v) ∈ es → ∃ w, (key, w) ∈ fs ∧ v.sortKeys = w.sortKeys := by
        intro key v mem
        have means := (meaningOf_eq_some distinct).2 ⟨v, mem, rfl⟩
        rw [maps] at means
        have ⟨w, there, means'⟩ := (meaningOf_eq_some distinct').1 means
        exact ⟨w, there, ih (key, v) mem w (keyedEntries_iff.1 keyed _ mem)
          (keyedEntries_iff.1 keyed' _ there) means'.symm⟩
      have entry' : ∀ key w, (key, w) ∈ fs → ∃ v, (key, v) ∈ es ∧ v.sortKeys = w.sortKeys := by
        intro key w mem
        have means := (meaningOf_eq_some distinct').2 ⟨w, mem, rfl⟩
        rw [← maps] at means
        have ⟨v, there, means'⟩ := (meaningOf_eq_some distinct).1 means
        exact ⟨v, there, ih (key, v) there w (keyedEntries_iff.1 keyed _ there)
          (keyedEntries_iff.1 keyed' _ mem) means'⟩
      refine congrArg obj (sorted_eq distinct distinct' fun (key, v) => ?_)
      rw [mem_sorted, mem_sorted]
      constructor
      · intro ⟨w, mem, is⟩
        have ⟨w', there, agree⟩ := entry key w mem
        exact ⟨w', there, agree.symm.trans is⟩
      · intro ⟨w, mem, is⟩
        have ⟨w', there, agree⟩ := entry' key w mem
        exact ⟨w', there, agree.trans is⟩
    | null | bool | int | str | arr => exact nomatch same

end

/-- Two values with distinct keys are printed alike exactly when they say the same. -/
theorem dumps_eq_iff {a b : Json} (keyed : a.Keyed) (keyed' : b.Keyed) :
    a.dumps = b.dumps ↔ a.meaning = b.meaning := by
  unfold dumps
  rw [String.ofList_inj]
  constructor
  · intro texts
    rw [← meaning_sortKeys a keyed, chars_injective texts, meaning_sortKeys b keyed']
  · intro means
    rw [sortKeys_of_meaning a b keyed keyed' means]

end Json
end Py
