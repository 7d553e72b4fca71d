import Mathlib
import WaterCare.Py.Json
import WaterCare.Store.World

/-!
`canonical_request_hash`: the digest under which a request is stored with its idempotency
key. Up to collisions of the digest it identifies what the request says.
-/

namespace WaterCare.Service.RequestHash
open Py

/-! ### Values of a request -/

/-- `'%0*x'` for a number that fits the width. -/
def hexText : Nat → Nat → List Char
  | 0, _ => []
  | width + 1, n => hexText width (n / 16) ++ [Json.hexDigit (n % 16)]

/-- `'%0*d'`. -/
def padded (width n : Nat) : List Char := (Nat.toDigits 10 n).leftpad width '0'

/-- A `UUID` is its 128-bit integer. -/
structure UUID where
  int : BitVec 128
  deriving DecidableEq

/-- `str(value)`. -/
def UUID.text (id : UUID) : String :=
  let hex := hexText 32 id.int.toNat
  String.ofList (hex.take 8 ++ '-' :: (hex.drop 8).take 4 ++ '-' :: (hex.drop 12).take 4 ++
    '-' :: (hex.drop 16).take 4 ++ '-' :: hex.drop 20)

structure Date where
  year : Nat
  month : Nat
  day : Nat
  deriving DecidableEq

def Date.chars (d : Date) : List Char :=
  padded 4 d.year ++ '-' :: padded 2 d.month ++ '-' :: padded 2 d.day

def Date.isoformat (d : Date) : String := String.ofList d.chars

/-- A `datetime`, with its offset from UTC in microseconds when it is aware. -/
structure DateTime where
  date : Date
  hour : Nat
  minute : Nat
  second : Nat
  microsecond : Nat
  utcoffset : Option Int
  deriving DecidableEq

/-- `_format_offset`. -/
def offsetChars (offset : Int) : List Char :=
  let size := offset.natAbs
  let seconds := size / 1000000
  let microseconds := size % 1000000
  (if offset < 0 then '-' else '+') :: padded 2 (seconds / 3600) ++
    ':' :: padded 2 (seconds / 60 % 60) ++
    (if seconds % 60 ≠ 0 ∨ microseconds ≠ 0 then ':' :: padded 2 (seconds % 60) else []) ++
    (if microseconds ≠ 0 then '.' :: padded 6 microseconds else [])

def DateTime.isoformat (t : DateTime) : String :=
  String.ofList (t.date.chars ++ 'T' :: padded 2 t.hour ++ ':' :: padded 2 t.minute ++
    ':' :: padded 2 t.second ++
    (if t.microsecond ≠ 0 then '.' :: padded 6 t.microsecond else []) ++
    t.utcoffset.elim [] offsetChars)

/-- What a canonical request is built from. -/
inductive RequestValue
  | none
  | bool (b : Bool)
  | int (n : Int)
  | str (s : String)
  | uuid (id : UUID)
  | date (d : Date)
  | datetime (t : DateTime)
  | list (items : List RequestValue)
  | tuple (items : List RequestValue)
  | mapping (entries : List (Atom × RequestValue))

/-! ### The digest -/

/-- `made[key] = value`: an equal key keeps its place. -/
def setEntry (made : List (String × Json)) (key : String) (value : Json) : List (String × Json) :=
  if made.any fun e => e.1 == key then
    made.map fun e => if e.1 = key then (e.1, value) else e
  else made ++ [(key, value)]

mutual
/-- `_json_value`. -/
def jsonValue : RequestValue → Json
  | .mapping es => .obj (jsonEntries es [])
  | .list xs => .arr (jsonItems xs)
  | .tuple xs => .arr (jsonItems xs)
  | .uuid id => .str id.text
  | .date d => .str d.isoformat
  | .datetime t => .str t.isoformat
  | .none => .null
  | .bool b => .bool b
  | .int n => .int n
  | .str s => .str s

def jsonItems : List RequestValue → List Json
  | [] => []
  | x :: xs => jsonValue x :: jsonItems xs

/-- The dict comprehension over `value.items()`. -/
def jsonEntries : List (Atom × RequestValue) → List (String × Json) → List (String × Json)
  | [], made => made
  | (key, v) :: es, made => jsonEntries es (setEntry made key.text (jsonValue v))
end

/-- `sha256` is the hex digest of some bytes. -/
def canonicalRequestHash (sha256 : ByteArray → String) (value : RequestValue) : String :=
  sha256 (jsonValue value).dumps.toUTF8

/-! ### What a request says -/

mutual
/-- A request with UUIDs and dates replaced by their text and tuples by lists; a mapping is a
finite map, so that the order of its keys is lost. -/
def meaning : RequestValue → Json.Plain
  | .none => .null
  | .bool b => .bool b
  | .int n => .int n
  | .str s => .str s
  | .uuid id => .str id.text
  | .date d => .str d.isoformat
  | .datetime t => .str t.isoformat
  | .list xs => .arr (meanings xs)
  | .tuple xs => .arr (meanings xs)
  | .mapping es => .obj (meaningOf es)

def meanings : List RequestValue → List Json.Plain
  | [] => []
  | x :: xs => meaning x :: meanings xs

def meaningOf : List (Atom × RequestValue) → String → Option Json.Plain
  | [], _ => Option.none
  | (key, v) :: es, k => if key = .str k then some (meaning v) else meaningOf es k
end

mutual
/-- Every mapping in it is a dict whose keys are strings. -/
def StringKeyed : RequestValue → Prop
  | .list xs => StringKeyedItems xs
  | .tuple xs => StringKeyedItems xs
  | .mapping es =>
      (es.map (·.1)).Nodup ∧ (∀ e ∈ es, ∃ s, e.1 = .str s) ∧ StringKeyedEntries es
  | _ => True

def StringKeyedItems : List RequestValue → Prop
  | [] => True
  | x :: xs => StringKeyed x ∧ StringKeyedItems xs

def StringKeyedEntries : List (Atom × RequestValue) → Prop
  | [] => True
  | (_, v) :: es => StringKeyed v ∧ StringKeyedEntries es
end

/-! ### The normal form -/

section
variable {es : List (Atom × RequestValue)}

theorem setEntry_fresh {made : List (String × Json)} {key : String} {value : Json}
    (fresh : key ∉ made.map (·.1)) : setEntry made key value = made ++ [(key, value)] := by
  refine if_neg fun has => fresh ?_
  have ⟨e, mem, same⟩ := List.any_eq_true.1 has
  exact List.mem_map.2 ⟨e, mem, eq_of_beq same⟩

/-- The entries of a dict whose keys have distinct texts keep their order. -/
theorem jsonEntries_eq (es : List (Atom × RequestValue)) (made : List (String × Json))
    (distinct : (made.map (·.1) ++ es.map fun e => e.1.text).Nodup) :
    jsonEntries es made = made ++ es.map fun e => (e.1.text, jsonValue e.2) := by
  induction es generalizing made with
  | nil => exact (List.append_nil made).symm
  | cons e es ih =>
    have ⟨key, v⟩ := e
    have fresh : key.text ∉ made.map (·.1) := by
      intro mem
      exact (List.nodup_append.1 distinct).2.2 _ mem _ List.mem_cons_self rfl
    unfold jsonEntries
    rw [setEntry_fresh fresh, ih, List.append_assoc]
    · rfl
    · rw [List.map_append, List.append_assoc]
      exact distinct

theorem text_keys (strings : ∀ e ∈ es, ∃ s, e.1 = .str s) (distinct : (es.map (·.1)).Nodup) :
    (es.map fun e => e.1.text).Nodup := by
  have texts : es.map (fun e => e.1.text) = (es.map (·.1)).map Atom.text := by
    rw [List.map_map]
    rfl
  rw [texts]
  refine distinct.map_on fun k mem k' mem' same => ?_
  have ⟨e, there, is⟩ := List.mem_map.1 mem
  have ⟨e', there', is'⟩ := List.mem_map.1 mem'
  have ⟨s, key⟩ := strings e there
  have ⟨s', key'⟩ := strings e' there'
  rw [← is, ← is', key, key'] at same ⊢
  exact congrArg Atom.str same

theorem jsonValue_mapping (keyed : StringKeyed (.mapping es)) :
    jsonValue (.mapping es) = .obj (es.map fun e => (e.1.text, jsonValue e.2)) := by
  have ⟨distinct, strings, _⟩ := keyed
  have entries := jsonEntries_eq es [] (text_keys strings distinct)
  exact congrArg Json.obj entries

end

mutual
/-- The normal form says what the request says, and its objects have distinct keys. -/
theorem jsonValue_spec : ∀ v : RequestValue, StringKeyed v →
    (jsonValue v).Keyed ∧ (jsonValue v).meaning = meaning v
  | .none, _ | .bool _, _ | .int _, _ | .str _, _ => ⟨trivial, rfl⟩
  | .uuid _, _ | .date _, _ | .datetime _, _ => ⟨trivial, rfl⟩
  | .list xs, keyed | .tuple xs, keyed =>
    have ⟨items, same⟩ := jsonItems_spec xs keyed
    ⟨items, congrArg Json.Plain.arr same⟩
  | .mapping es, keyed => by
    have ⟨values, same⟩ := jsonEntries_spec es keyed.2.1 keyed.2.2
    rw [jsonValue_mapping keyed]
    refine ⟨⟨?_, values⟩, congrArg Json.Plain.obj (funext same)⟩
    rw [List.map_map]
    exact text_keys keyed.2.1 keyed.1

theorem jsonItems_spec : ∀ xs : List RequestValue, StringKeyedItems xs →
    Json.KeyedItems (jsonItems xs) ∧ Json.meanings (jsonItems xs) = meanings xs
  | [], _ => ⟨trivial, rfl⟩
  | x :: xs, ⟨first, later⟩ => by
    have ⟨head, same⟩ := jsonValue_spec x first
    have ⟨tail, rest⟩ := jsonItems_spec xs later
    refine ⟨⟨head, tail⟩, ?_⟩
    unfold jsonItems Json.meanings meanings
    rw [same, rest]

theorem jsonEntries_spec : ∀ es : List (Atom × RequestValue),
    (∀ e ∈ es, ∃ s, e.1 = .str s) → StringKeyedEntries es →
      Json.KeyedEntries (es.map fun e => (e.1.text, jsonValue e.2)) ∧
        ∀ k, Json.meaningOf (es.map fun e => (e.1.text, jsonValue e.2)) k = meaningOf es k
  | [], _, _ => ⟨trivial, fun _ => rfl⟩
  | (key, v) :: es, strings, ⟨first, later⟩ => by
    have ⟨head, same⟩ := jsonValue_spec v first
    have ⟨tail, rest⟩ := jsonEntries_spec es (fun e mem => strings e (List.mem_cons_of_mem _ mem)) later
    refine ⟨⟨head, tail⟩, fun k => ?_⟩
    have ⟨s, is⟩ := strings (key, v) List.mem_cons_self
    have keys : (k = key.text) = (key = .str k) := by
      have is : key = .str s := is
      rw [is]
      exact propext ⟨fun same => congrArg Atom.str same.symm, fun same => (Atom.str.inj same).symm⟩
    rw [List.map_cons]
    unfold Json.meaningOf meaningOf
    dsimp only
    rw [same, rest k]
    exact if_congr (iff_of_eq keys) rfl rfl
end

section
variable {sha256 : ByteArray → String} {a b : RequestValue}

theorem dumps_jsonValue_eq_iff (keyed : StringKeyed a) (keyed' : StringKeyed b) :
    (jsonValue a).dumps = (jsonValue b).dumps ↔ meaning a = meaning b := by
  have ⟨distinct, means⟩ := jsonValue_spec a keyed
  have ⟨distinct', means'⟩ := jsonValue_spec b keyed'
  rw [Json.dumps_eq_iff distinct distinct', means, means']

theorem canonicalRequestHash_eq (noCollision : Function.Injective sha256) :
    canonicalRequestHash sha256 a = canonicalRequestHash sha256 b ↔
      (jsonValue a).dumps = (jsonValue b).dumps := by
  unfold canonicalRequestHash
  rw [noCollision.eq_iff, String.toUTF8_eq_toByteArray, String.toUTF8_eq_toByteArray,
    String.toByteArray_inj]

/-- A stored answer is given only to a request that says what the stored request said. -/
theorem meaning_of_replay {record : Store.IdempotencyRecord} {answer : Store.Answer}
    (noCollision : Function.Injective sha256) (keyed : StringKeyed a) (keyed' : StringKeyed b)
    (stored : record.requestHash = canonicalRequestHash sha256 a)
    (answered : record.replayOrConflict (canonicalRequestHash sha256 b) = .ok answer) :
    meaning a = meaning b := by
  have same : record.requestHash = canonicalRequestHash sha256 b := by
    refine Classical.byContradiction fun differs => ?_
    unfold Store.IdempotencyRecord.replayOrConflict at answered
    rw [if_pos differs] at answered
    exact nomatch answered
  have texts := (canonicalRequestHash_eq noCollision).1 (stored.symm.trans same)
  exact (dumps_jsonValue_eq_iff keyed keyed').1 texts

end

/-- Without collisions of SHA-256, two requests have one digest exactly when they say the same. -/
theorem canonicalRequestHash_eq_iff (sha256 : ByteArray → String)
    (noCollision : Function.Injective sha256) (a b : RequestValue) (keyed : StringKeyed a)
    (keyed' : StringKeyed b) :
    canonicalRequestHash sha256 a = canonicalRequestHash sha256 b ↔ meaning a = meaning b :=
  (canonicalRequestHash_eq noCollision).trans (dumps_jsonValue_eq_iff keyed keyed')

namespace Sample

def ordered : RequestValue :=
  .mapping [(.str "id", .str "00000000-0000-0000-0000-000000000001"), (.str "n", .int 1)]

def reordered : RequestValue := .mapping [(.str "n", .int 1), (.str "id", .uuid ⟨1⟩)]

def bytes : ByteArray :=
  "\x7b\"id\":\"00000000-0000-0000-0000-000000000001\",\"n\":1\x7d".toUTF8

def digest : String := "7a591898b8dbad5514ba6ec5297843652666b1237662fec04d2fc18d2561df30"

/-- The digest of one text, and the bytes themselves for the others. -/
def sha256 (data : ByteArray) : String :=
  if data = bytes then digest
  else String.ofList ('-' :: data.data.toList.map fun byte => Char.ofNat byte.toNat)

theorem sha256_injective : Function.Injective sha256 := by
  have first : digest.toList.head? ≠ some '-' := by decide
  have plain : ∀ bytes : List UInt8,
      digest ≠ String.ofList ('-' :: bytes.map fun byte => Char.ofNat byte.toNat) := by
    intro bytes same
    rw [same, String.toList_ofList] at first
    exact first rfl
  have byte : Function.Injective fun byte : UInt8 => Char.ofNat byte.toNat := by
    intro b c same
    have code : ∀ b : UInt8, (Char.ofNat b.toNat).toNat = b.toNat := by
      intro b
      have valid : b.toNat.isValidChar := .inl (b.toNat_lt.trans (by omega))
      unfold Char.ofNat
      rw [dif_pos valid]
      rfl
    exact UInt8.toNat_inj.1 ((code b).symm.trans ((congrArg Char.toNat same).trans (code c)))
  intro a b same
  unfold sha256 at same
  split at same <;> split at same
  · rename_i is is'
    exact is.trans is'.symm
  · exact absurd same (plain _)
  · exact absurd same.symm (plain _)
  · have lists := byte.list_map (List.cons.inj (String.ofList_inj.1 same)).2
    exact ByteArray.ext (Array.toList_inj.1 lists)

end Sample

theorem canonicalRequestHash_reordered :
    canonicalRequestHash Sample.sha256 Sample.ordered = Sample.digest ∧
      canonicalRequestHash Sample.sha256 Sample.reordered = Sample.digest := by
  have text : (jsonValue Sample.ordered).dumps.toUTF8 = Sample.bytes :=
    congrArg String.toUTF8 (by decide +kernel)
  have hashed : canonicalRequestHash Sample.sha256 Sample.ordered = Sample.digest := by
    unfold canonicalRequestHash Sample.sha256
    rw [if_pos text]
  have keyed : StringKeyed Sample.ordered :=
    ⟨by decide, by simp, trivial, trivial, trivial⟩
  have keyed' : StringKeyed Sample.reordered :=
    ⟨by decide, by simp, trivial, trivial, trivial⟩
  refine ⟨hashed, (canonicalRequestHash_eq_iff Sample.sha256 Sample.sha256_injective
    Sample.reordered Sample.ordered keyed' keyed).2 ?_ |>.trans hashed⟩
  refine congrArg Json.Plain.obj (funext fun key => ?_)
  have id : UUID.text ⟨1⟩ = "00000000-0000-0000-0000-000000000001" := by decide +kernel
  simp only [meaningOf, meaning, id]
  by_cases first : Atom.str "id" = .str key
  · rw [if_pos first, if_pos first]
    refine if_neg fun second => ?_
    exact absurd (Atom.str.inj (first.trans second.symm)) (by decide)
  · rw [if_neg first, if_neg first]

end WaterCare.Service.RequestHash
