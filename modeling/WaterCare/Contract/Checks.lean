import WaterCare.Py.Audit

/-!
The helper checks of `contract_validator.py`. Each returns what the source
returns and appends the source's messages; the lemma beside it says what a
value looks like when the check appended nothing.
-/

namespace WaterCare.Contract
open Py Py.Audit

/-- `_is_nonempty_string`, with the raw string. -/
def nonemptyString? (value : Value) : Option String :=
  match value.asStr? with
  | some s => if hasText s then some s else none
  | none => none

theorem nonemptyString?_eq_some {value : Value} {s : String} :
    nonemptyString? value = some s ↔ value = .str s ∧ hasText s = true := by
  unfold nonemptyString?
  cases h : value.asStr? with
  | none =>
      have : value ≠ .str s := fun e => by rw [Value.asStr?_eq_some.mpr e] at h; cases h
      simp [this]
  | some t =>
      rw [Value.asStr?_eq_some] at h
      subst h
      by_cases ht : hasText t = true
      · simp only [ht, ite_true, Option.some.injEq, Value.str_inj]
        exact ⟨fun e => ⟨e, e ▸ ht⟩, fun e => e.1⟩
      · simp only [ht, Bool.false_eq_true, ite_false, Value.str_inj, reduceCtorEq, false_iff]
        exact fun e => ht (e.1 ▸ e.2)

/-- `_duplicate_values`. -/
def duplicateValues (values : List String) : List String :=
  sortedStrings (values.filter fun v => decide (1 < values.count v))

private def stringItem (path : String) (index : Nat) (result : List String) (item : Value) :
    Audit (List String) :=
  match nonemptyString? item with
  | some s => pure (result ++ [strip s])
  | none => do
      report s!"{path}[{index}]: 비어 있지 않은 문자열이어야 합니다."
      pure result

theorem stringItem_some {path : String} {i : Nat} {acc : List String} {item : Value} {s : String}
    (filled : nonemptyString? item = some s) :
    stringItem path i acc item = pure (acc ++ [strip s]) := by
  unfold stringItem
  rw [filled]

theorem stringItem_none {path : String} {i : Nat} {acc : List String} {item : Value}
    (empty : nonemptyString? item = none) :
    stringItem path i acc item =
      (report s!"{path}[{i}]: 비어 있지 않은 문자열이어야 합니다." >>= fun _ => pure acc) := by
  unfold stringItem
  rw [empty]

/-- `_string_list`. -/
def stringList (value : Value) (path : String) (requireNonempty : Bool) : Audit (List String) :=
  match value with
  | .list items =>
      if requireNonempty && items.isEmpty then do
        report s!"{path}: 하나 이상의 값이 필요합니다."
        pure []
      else do
        let result ← foldIdx (stringItem path) 0 [] items
        forEach (fun duplicate => report s!"{path}: 중복 값 {pyRepr duplicate}이 있습니다.")
          (duplicateValues result)
        pure result
  | _ => do
      report s!"{path}: list여야 합니다."
      pure []

/-- `_required_string`. -/
def requiredString (entry : Dict) (key path : String) : Audit (Option String) :=
  match nonemptyString? (entry.get key) with
  | some s => pure (some (strip s))
  | none => do
      report s!"{path}.{key}: 비어 있지 않은 문자열이어야 합니다."
      pure none

/-- `_required_mapping`. -/
def requiredMapping (value : Value) (path : String) : Audit Dict :=
  match value with
  | .dict (entry :: entries) => pure (entry :: entries)
  | _ => do
      report s!"{path}: 비어 있지 않은 mapping이어야 합니다."
      pure []

private def mappingItem (path : String) (index : Nat) (entries : List Dict) (item : Value) :
    Audit (List Dict) :=
  match item with
  | .dict (e :: es) => pure (entries ++ [e :: es])
  | _ => do
      report s!"{path}[{index}]: 비어 있지 않은 mapping이어야 합니다."
      pure entries

/-- `_mapping_entries`. -/
def mappingEntries (value : Value) (path : String) (requireNonempty : Bool) : Audit (List Dict) :=
  match value with
  | .list items =>
      if requireNonempty && items.isEmpty then do
        report s!"{path}: 하나 이상의 항목이 필요합니다."
        pure []
      else foldIdx (mappingItem path) 0 [] items
  | _ => do
      report s!"{path}: list여야 합니다."
      pure []

/-- `_document`. -/
def document (documents : Dict) (name : String) : Audit Dict :=
  match documents.get name with
  | .dict (entry :: entries) => pure (entry :: entries)
  | _ => do
      report s!"{name}: 비어 있지 않은 mapping 계약이어야 합니다."
      pure []

/-- `_validate_contract_header`; `expectedName` is `CONTRACT_NAMES[document_name]`. -/
def validateContractHeader (doc : Dict) (documentName expectedName : String) : Audit Unit := do
  let header ← requiredMapping (doc.get "contract") s!"{documentName}.contract"
  if header.isEmpty then pure ()
  else
    let contractName ← requiredString header "name" s!"{documentName}.contract"
    match contractName with
    | some name =>
        reportIf (name != expectedName)
          s!"{documentName}.contract.name: {pyRepr expectedName}이어야 합니다."
    | none => pure ()
    forEach (fun key => do
      let _ ← requiredString header key s!"{documentName}.contract"
      pure ()) ["version", "status", "owner"]

/-- A registry of entries under their stripped code. -/
abbrev Index := List (String × Dict)

namespace Index

def codes (index : Index) : List String := index.map (·.1)

/-- `index.get(code)`. -/
def entry? (index : Index) (code : String) : Option Dict :=
  (index.find? fun p => p.1 == code).map (·.2)

end Index

private def indexItem (path key : String) (i : Nat) (result : Index) (entry : Dict) :
    Audit Index := do
  let code ← requiredString entry key s!"{path}[{i}]"
  match code with
  | none => pure result
  | some code =>
      if result.codes.contains code then do
        report s!"{path}: {key} {pyRepr code}가 중복됩니다."
        pure result
      else pure (result ++ [(code, entry)])

/-- `_code_index`. -/
def codeIndex (entries : List Dict) (path key : String) : Audit Index :=
  foldIdx (indexItem path key) 0 [] entries

/-- `_validate_reference`. -/
def validateReference (value : Option String) (registry : List String)
    (path registryName : String) : Audit Unit :=
  match value with
  | some v =>
      reportIf (!registry.contains v) s!"{path}: 등록되지 않은 {registryName} {pyRepr v}입니다."
  | none => pure ()

def boolField (entry : Dict) (key path : String) : Audit Unit :=
  reportIf (!(entry.get key).asBool?.isSome) s!"{path}.{key}: boolean이어야 합니다."

/-! A value as `_freeze` makes it hashable. A frozen dict is the tuple of its
pairs in key order, so it equals the frozen list of the same pairs. -/

inductive Frozen
  | atom (a : Atom)
  | tuple (items : List Frozen)

mutual
def freeze : Value → Frozen
  | .atom a => .atom a
  | .list items => .tuple (freezeItems items)
  | .dict entries =>
      .tuple ((sorted (fun p q => decide (p.1 ≤ q.1)) (freezeEntries entries)).map fun p =>
        .tuple [.atom (.str p.1), p.2])

def freezeItems : List Value → List Frozen
  | [] => []
  | v :: vs => freeze v :: freezeItems vs

def freezeEntries : List (Atom × Value) → List (String × Frozen)
  | [] => []
  | (k, v) :: es => (k.text, freeze v) :: freezeEntries es
end

mutual
def Frozen.eq : Frozen → Frozen → Bool
  | .atom a, .atom b => a.eq b
  | .tuple xs, .tuple ys => Frozen.eqItems xs ys
  | _, _ => false

def Frozen.eqItems : List Frozen → List Frozen → Bool
  | [], [] => true
  | x :: xs, y :: ys => x.eq y && Frozen.eqItems xs ys
  | _, _ => false
end

/-! What a passed check says about the value it read. -/

theorem duplicateValues_eq_nil {values : List String} (h : duplicateValues values = []) :
    values.Nodup := by
  have none (v : String) (hv : v ∈ values) : values.count v ≤ 1 := by
    by_contra many
    have mem : v ∈ (values.filter fun v => decide (1 < values.count v)).dedup := by
      simp only [List.mem_dedup, List.mem_filter, decide_eq_true_eq]
      exact ⟨hv, by omega⟩
    have mem' := (@mem_sorted _ (fun a b => decide (a ≤ b)) _ _).mpr mem
    rw [show sorted _ _ = duplicateValues values from rfl, h] at mem'
    cases mem'
  rw [List.nodup_iff_count_le_one]
  intro v
  by_cases hv : v ∈ values
  · exact none v hv
  · rw [List.count_eq_zero.mpr hv]
    exact Nat.zero_le 1

private theorem stringItem_passes {path : String} {i : Nat} {acc result : List String}
    {item : Value} (h : Passes (stringItem path i acc item) result) :
    ∃ s, item = .str s ∧ hasText s = true ∧ result = acc ++ [strip s] := by
  unfold stringItem at h
  split at h
  · rename_i s hs
    obtain ⟨rfl, text⟩ := nonemptyString?_eq_some.mp hs
    exact ⟨s, rfl, text, (passes_pure.mp h).symm⟩
  · obtain ⟨_, bad, _⟩ := passes_bind.mp h
    exact absurd bad (not_passes_report _ _)

/-- A passed list holds strings with text, distinct once stripped. -/
theorem stringList_passes {value : Value} {path : String} {required : Bool}
    {result : List String} (h : Passes (stringList value path required) result) :
    ∃ raws : List String, value = .list (raws.map .str) ∧ (∀ s ∈ raws, hasText s = true) ∧
      result = raws.map strip ∧ result.Nodup ∧ (required = true → raws ≠ []) := by
  unfold stringList at h
  split at h
  · rename_i items
    split at h
    · obtain ⟨_, bad, _⟩ := passes_bind.mp h
      exact absurd bad (not_passes_report _ _)
    · rename_i nonempty
      obtain ⟨strings, loop, rest⟩ := passes_bind.mp h
      obtain ⟨_, unique, last⟩ := passes_bind.mp rest
      obtain rfl := passes_pure.mp last
      have items_eq : ∃ raws : List String, items = raws.map .str ∧
          (∀ s ∈ raws, hasText s = true) ∧ strings = raws.map strip := by
        have := passes_foldIdx_invariant (motive := fun seen acc =>
          ∃ raws : List String, seen = raws.map .str ∧
            (∀ s ∈ raws, hasText s = true) ∧ acc = raws.map strip) loop
          ⟨[], rfl, by simp, rfl⟩ ?_
        · exact this
        · rintro i seen acc item next ⟨raws, rfl, text, rfl⟩ step
          obtain ⟨s, rfl, hs, rfl⟩ := stringItem_passes step
          refine ⟨raws ++ [s], by simp, ?_, by simp⟩
          intro t ht
          rcases List.mem_append.mp ht with ht | ht
          · exact text t ht
          · rwa [List.mem_singleton.mp ht]
      obtain ⟨raws, rfl, text, rfl⟩ := items_eq
      have distinct : duplicateValues (raws.map strip) = [] := by
        cases hd : duplicateValues (raws.map strip) with
        | nil => rfl
        | cons d ds =>
            rw [hd, passes_forEach] at unique
            exact absurd (unique d List.mem_cons_self) (not_passes_report _ _)
      refine ⟨raws, rfl, text, rfl, duplicateValues_eq_nil distinct, ?_⟩
      rintro rfl rfl
      exact nonempty rfl
  · obtain ⟨_, bad, _⟩ := passes_bind.mp h
    exact absurd bad (not_passes_report _ _)

theorem requiredString_passes {entry : Dict} {key path : String} {result : Option String}
    (h : Passes (requiredString entry key path) result) :
    ∃ s, entry.find key = some (.str s) ∧ hasText s = true ∧ result = some (strip s) := by
  unfold requiredString at h
  split at h
  · rename_i s hs
    obtain ⟨value, text⟩ := nonemptyString?_eq_some.mp hs
    exact ⟨s, Dict.find_of_get value (Value.str_ne_none s), text, (passes_pure.mp h).symm⟩
  · obtain ⟨_, bad, _⟩ := passes_bind.mp h
    exact absurd bad (not_passes_report _ _)

theorem requiredMapping_passes {value : Value} {path : String} {result : Dict}
    (h : Passes (requiredMapping value path) result) : value = .dict result ∧ result ≠ [] := by
  unfold requiredMapping at h
  split at h
  · rw [← passes_pure.mp h]
    exact ⟨rfl, List.cons_ne_nil _ _⟩
  · obtain ⟨_, bad, _⟩ := passes_bind.mp h
    exact absurd bad (not_passes_report _ _)

private theorem mappingItem_passes {path : String} {i : Nat} {acc result : List Dict}
    {item : Value} (h : Passes (mappingItem path i acc item) result) :
    ∃ d, item = .dict d ∧ d ≠ [] ∧ result = acc ++ [d] := by
  unfold mappingItem at h
  split at h
  · exact ⟨_, rfl, List.cons_ne_nil _ _, (passes_pure.mp h).symm⟩
  · obtain ⟨_, bad, _⟩ := passes_bind.mp h
    exact absurd bad (not_passes_report _ _)

theorem mappingEntries_passes {value : Value} {path : String} {required : Bool}
    {result : List Dict} (h : Passes (mappingEntries value path required) result) :
    value = .list (result.map .dict) ∧ (∀ d ∈ result, d ≠ []) ∧
      (required = true → result ≠ []) := by
  unfold mappingEntries at h
  split at h
  · rename_i items
    split at h
    · obtain ⟨_, bad, _⟩ := passes_bind.mp h
      exact absurd bad (not_passes_report _ _)
    · rename_i nonempty
      have loop := passes_foldIdx_invariant (motive := fun seen acc =>
        seen = acc.map Value.dict ∧ ∀ d ∈ acc, d ≠ []) h ⟨rfl, by simp⟩ ?_
      · obtain ⟨items_eq, entries⟩ := loop
        subst items_eq
        refine ⟨rfl, entries, ?_⟩
        rintro rfl rfl
        exact nonempty rfl
      · rintro i seen acc item next ⟨rfl, entries⟩ step
        obtain ⟨d, rfl, hd, rfl⟩ := mappingItem_passes step
        refine ⟨by simp, ?_⟩
        intro e he
        rcases List.mem_append.mp he with he | he
        · exact entries e he
        · rwa [List.mem_singleton.mp he]
  · obtain ⟨_, bad, _⟩ := passes_bind.mp h
    exact absurd bad (not_passes_report _ _)

theorem document_passes {documents : Dict} {name : String} {result : Dict}
    (h : Passes (document documents name) result) : documents.find name = some (.dict result) := by
  unfold document at h
  split at h
  · rename_i e es hd
    rw [← passes_pure.mp h]
    exact Dict.find_of_get hd (by simp)
  · obtain ⟨_, bad, _⟩ := passes_bind.mp h
    exact absurd bad (not_passes_report _ _)

/-- The registered form of an entry: its stripped code, read from `key`. -/
def Registered (key : String) (entry : Dict) (p : String × Dict) : Prop :=
  ∃ code, entry.find key = some (.str code) ∧ hasText code = true ∧ p = (strip code, entry)

/-- A passed index registers every entry, in order and under distinct codes. -/
theorem codeIndex_passes {entries : List Dict} {path key : String} {index : Index}
    (h : Passes (codeIndex entries path key) index) :
    List.Forall₂ (Registered key) entries index ∧ index.codes.Nodup := by
  have loop := passes_foldIdx_invariant (motive := fun seen (acc : Index) =>
    List.Forall₂ (Registered key) seen acc ∧ acc.codes.Nodup) h ⟨.nil, List.nodup_nil⟩ ?_
  · exact loop
  · rintro i seen acc entry next ⟨registered, distinct⟩ step
    obtain ⟨code, required, rest⟩ := passes_bind.mp step
    obtain ⟨raw, found, text, rfl⟩ := requiredString_passes required
    by_cases known : acc.codes.contains (strip raw) = true
    · simp only [known, ite_true] at rest
      obtain ⟨_, bad, _⟩ := passes_bind.mp rest
      exact absurd bad (not_passes_report _ _)
    · simp only [known, Bool.false_eq_true, ite_false] at rest
      obtain rfl := passes_pure.mp rest
      refine ⟨List.rel_append registered (.cons ⟨raw, found, text, rfl⟩ .nil), ?_⟩
      have absent : strip raw ∉ acc.codes := by simpa using known
      simp only [Index.codes, List.map_append, List.map_cons, List.map_nil] at absent ⊢
      rw [List.nodup_append]
      refine ⟨distinct, List.nodup_singleton _, ?_⟩
      rintro a ha b hb rfl
      exact absent (List.mem_singleton.mp hb ▸ ha)

@[simp] theorem validateReference_passes {v : String} {registry : List String}
    {path name : String} {u : Unit} :
    Passes (validateReference (some v) registry path name) u ↔ v ∈ registry := by
  simp [validateReference]

@[simp] theorem boolField_passes {entry : Dict} {key path : String} {u : Unit} :
    Passes (boolField entry key path) u ↔ ∃ b, entry.get key = .bool b := by
  rw [boolField, passes_reportIf, Bool.not_eq_false', Value.asBool?_isSome]

end WaterCare.Contract
