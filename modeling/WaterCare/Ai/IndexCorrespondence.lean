import WaterCare.Ai.IndexReadiness
import Mathlib.Data.List.Perm.Basic

/-!
What a report of the index check says. The ids of the rows and of the canonical chunks are the same
set, each without a repetition, and the loop compares each row with the chunk of its id; so the rows
and the chunks correspond one to one, whatever their orders are.
-/

namespace WaterCare.Ai.IndexReadiness
open Machine Py

/-! ### Counters -/

/-- The counts of a list of texts. -/
structure Counts (counts : List (Atom × Nat)) (names : List String) : Prop where
  distinct : (counts.map (·.1)).Nodup
  mem : ∀ e, e ∈ counts ↔ ∃ name ∈ names, e = (.str name, names.count name)

section
variable {counts others : List (Atom × Nat)} {names more : List String} {name : String} {n : Nat}

theorem Counts.find (h : Counts counts names) (present : name ∈ names) :
    lookup counts (.str name) = some (names.count name) := by
  unfold lookup
  have there : (.str name, names.count name) ∈ counts := (h.mem _).2 ⟨name, present, rfl⟩
  cases found : counts.find? fun e => e.1.eq (.str name) with
  | none =>
      have absent := List.find?_eq_none.1 found _ there
      exact absurd (Atom.eq_str_iff.2 rfl) absent
  | some e =>
      have held := @List.find?_some _ (fun e : Atom × Nat => e.1.eq (.str name)) _ _ found
      have same := Atom.eq_str_iff.1 held
      have ⟨other, _, is⟩ := (h.mem e).1 (List.mem_of_find?_eq_some found)
      rw [is] at same
      rw [Option.map_some, is, Atom.str.inj same]

theorem Counts.find_none (h : Counts counts names) (absent : name ∉ names) :
    lookup counts (.str name) = none := by
  unfold lookup
  cases found : counts.find? fun e => e.1.eq (.str name) with
  | none => rfl
  | some e =>
      have held := @List.find?_some _ (fun e : Atom × Nat => e.1.eq (.str name)) _ _ found
      have same := Atom.eq_str_iff.1 held
      have ⟨other, mem, is⟩ := (h.mem e).1 (List.mem_of_find?_eq_some found)
      rw [is] at same
      rw [Atom.str.inj same] at mem
      exact absurd mem absent

theorem Counts.count_eq (h : Counts counts names) (name : String) :
    count counts (.str name) = names.count name := by
  unfold count
  by_cases present : name ∈ names
  · rw [h.find present, Option.getD_some]
  · rw [h.find_none present, Option.getD_none, List.count_eq_zero_of_not_mem present]

theorem Counts.any_iff (h : Counts counts names) :
    (counts.any fun e => e.1.eq (.str name)) = true ↔ name ∈ names := by
  rw [List.any_eq_true]
  constructor
  · intro ⟨e, mem, same⟩
    have ⟨other, present, is⟩ := (h.mem e).1 mem
    rw [is] at same
    rw [← Atom.str.inj (Atom.eq_str_iff.1 same)]
    exact present
  · intro present
    exact ⟨_, (h.mem _).2 ⟨name, present, rfl⟩, Atom.eq_str_iff.2 rfl⟩

/-- One more occurrence is counted. -/
theorem Counts.add (h : Counts counts names) (name : String) :
    Counts (assign counts (.str name) (count counts (.str name) + 1)) (names ++ [name]) := by
  have own : (names ++ [name]).count name = names.count name + 1 := by
    rw [List.count_append, List.count_singleton_self]
  have kept {other : String} (apart : other ≠ name) :
      (names ++ [name]).count other = names.count other := by
    rw [List.count_append, List.count_singleton, if_neg (by simpa using apart.symm), Nat.add_zero]
  rw [h.count_eq]
  unfold assign
  by_cases present : name ∈ names
  · rw [if_pos (h.any_iff.2 present)]
    constructor
    · rw [List.map_map]
      have keys : ((·.1) ∘ fun e : Atom × Nat =>
          if e.1.eq (.str name) then (e.1, names.count name + 1) else e) = (·.1) := by
        funext e
        by_cases same : e.1.eq (.str name) = true <;> simp [same]
      rw [keys]
      exact h.distinct
    · intro e
      rw [List.mem_map]
      constructor
      · intro ⟨f, mem, is⟩
        have ⟨other, there, was⟩ := (h.mem f).1 mem
        refine ⟨other, List.mem_append_left _ there, ?_⟩
        rw [← is, was]
        by_cases same : other = name
        · rw [same, if_pos (Atom.eq_str_iff.2 rfl), own]
        · rw [if_neg (by simpa using same), kept same]
      · intro ⟨other, there, is⟩
        have old : other ∈ names := by
          rcases List.mem_append.1 there with before | last
          · exact before
          · rw [List.mem_singleton.1 last]
            exact present
        refine ⟨(.str other, names.count other), (h.mem _).2 ⟨other, old, rfl⟩, ?_⟩
        rw [is]
        by_cases same : other = name
        · rw [same, if_pos (Atom.eq_str_iff.2 rfl), own]
        · rw [if_neg (by simpa using same), kept same]
  · rw [if_neg fun any => present (h.any_iff.1 any)]
    constructor
    · rw [List.map_append, List.nodup_append]
      refine ⟨h.distinct, List.nodup_singleton _, fun key mem last single same => ?_⟩
      have ⟨e, there, is⟩ := List.mem_map.1 mem
      rw [List.mem_singleton.1 single] at same
      exact present (h.any_iff.1 (List.any_eq_true.2
        ⟨e, there, Atom.eq_str_iff.2 (is.trans same)⟩))
    · intro e
      rw [List.mem_append, List.mem_singleton, h.mem]
      constructor
      · intro old
        rcases old with ⟨other, there, is⟩ | is
        · refine ⟨other, List.mem_append_left _ there, ?_⟩
          rw [kept fun same => present (same ▸ there)]
          exact is
        · refine ⟨name, List.mem_append_right _ (List.mem_singleton_self name), ?_⟩
          rw [own]
          exact is
      · intro ⟨other, there, is⟩
        rcases List.mem_append.1 there with before | last
        · refine .inl ⟨other, before, ?_⟩
          rw [← kept fun same => present (same ▸ before)]
          exact is
        · refine .inr ?_
          rw [List.mem_singleton.1 last, own] at is
          exact is

theorem counter_counts (names : List String) : Counts (counter (names.map .str)) names := by
  induction names using List.reverseRecOn with
  | nil => exact ⟨List.nodup_nil, fun e => by simp [counter]⟩
  | append_singleton before last ih =>
      have step : counter ((before ++ [last]).map .str) =
          assign (counter (before.map .str)) (.str last)
            (count (counter (before.map .str)) (.str last) + 1) := by
        unfold counter
        rw [List.map_append, List.foldl_append]
        rfl
      rw [step]
      exact ih.add last

theorem Counts.perm (h : Counts counts names) (h' : Counts others more) (perm : names.Perm more) :
    counts.Perm others := by
  have first : counts.Nodup := h.distinct.of_map
  have second : others.Nodup := h'.distinct.of_map
  refine (List.perm_ext_iff_of_nodup first second).2 fun e => ?_
  rw [h.mem, h'.mem]
  constructor
  · intro ⟨name, mem, is⟩
    exact ⟨name, perm.subset mem, is.trans (by rw [perm.count_eq])⟩
  · intro ⟨name, mem, is⟩
    exact ⟨name, perm.symm.subset mem, is.trans (by rw [perm.count_eq])⟩

/-- Equal counts are those of a permutation. -/
theorem sameCounts_iff (h : Counts counts names) (h' : Counts others more) :
    sameCounts counts others = true ↔ names.Perm more := by
  unfold sameCounts
  rw [List.all_eq_true, List.perm_iff_count]
  constructor
  · intro same name
    by_cases present : name ∈ names ∨ name ∈ more
    · have listed : ∃ k, ((.str name, k) : Atom × Nat) ∈ counts ++ others := by
        rcases present with first | second
        · exact ⟨_, List.mem_append_left _ ((h.mem _).2 ⟨name, first, rfl⟩)⟩
        · exact ⟨_, List.mem_append_right _ ((h'.mem _).2 ⟨name, second, rfl⟩)⟩
      have ⟨k, mem⟩ := listed
      have equal := beq_iff_eq.1 (same _ mem)
      rw [h.count_eq, h'.count_eq] at equal
      exact equal
    · have ⟨first, second⟩ := not_or.1 present
      rw [List.count_eq_zero_of_not_mem first, List.count_eq_zero_of_not_mem second]
  · intro same e mem
    have name : ∃ name, e.1 = .str name := by
      rcases List.mem_append.1 mem with left | right
      · have ⟨name, _, is⟩ := (h.mem e).1 left
        exact ⟨name, by rw [is]⟩
      · have ⟨name, _, is⟩ := (h'.mem e).1 right
        exact ⟨name, by rw [is]⟩
    have ⟨name, is⟩ := name
    rw [is, h.count_eq, h'.count_eq, same name]
    exact beq_self_eq_true _

/-- A key that is no text leaves a key that is none. -/
theorem counter_other {keys : List Atom} {key : Atom} (mem : key ∈ keys)
    (other : ∀ name, key ≠ .str name) :
    ∃ e ∈ counter keys, ∀ name, e.1 ≠ .str name := by
  induction keys using List.reverseRecOn with
  | nil => cases mem
  | append_singleton before last ih =>
      unfold counter
      rw [List.foldl_append, List.foldl_cons, List.foldl_nil]
      generalize value_eq : (lookup (counter before) last).getD 0 + 1 = value
      change ∃ e ∈ assign (counter before) last ((lookup (counter before) last).getD 0 + 1), _
      rw [value_eq]
      have kept (e : Atom × Nat) (there : e ∈ counter before) :
          ∃ f ∈ assign (counter before) last value, f.1 = e.1 := by
        unfold assign
        split
        · by_cases same : e.1.eq last = true
          · refine ⟨(e.1, value), List.mem_map.2 ⟨e, there, ?_⟩, rfl⟩
            rw [if_pos same]
          · refine ⟨e, List.mem_map.2 ⟨e, there, ?_⟩, rfl⟩
            rw [if_neg same]
        · exact ⟨e, List.mem_append_left _ there, rfl⟩
      rcases List.mem_append.1 mem with old | new
      · have ⟨e, there, is⟩ := ih old
        have ⟨f, present, same⟩ := kept e there
        refine ⟨f, present, ?_⟩
        rw [same]
        exact is
      · rw [List.mem_singleton.1 new] at other
        by_cases known : ((counter before).any fun e => e.1.eq last) = true
        · have ⟨e, there, same⟩ := List.any_eq_true.1 known
          have ⟨f, present, is⟩ := kept e there
          refine ⟨f, present, fun name named => ?_⟩
          rw [is] at named
          rw [named] at same
          cases last with
          | str s => exact other s rfl
          | none | bool _ | int _ | float _ _ => simp [Atom.eq, Atom.number?] at same
        · refine ⟨(last, value), ?_, other⟩
          unfold assign
          rw [if_neg known]
          exact List.mem_append_right _ (List.mem_singleton_self _)

end
/-! ### The canonical identity -/

namespace IsJson
variable {d : Dict} {key : String}

theorem get (json : IsJson (.dict d)) : IsJson (d.get key) := by
  unfold Dict.get Dict.find
  cases found : d.find? fun e => e.1.eq (.str key) with
  | none => exact .atom .none
  | some e =>
      cases json with
      | dict _ _ _ inside => exact inside e (List.mem_of_find?_eq_some found)

theorem keys (json : IsJson (.dict d)) : ∀ e ∈ d, ∃ name, e.1 = .str name := by
  cases json with
  | dict _ texts _ _ => exact texts

end IsJson

theorem eqEntries_eq_all (entries other : Dict) : Value.eqEntries entries other =
    entries.all fun e =>
      match other.find? fun f => f.1.eq e.1 with
      | some f => e.2.eq f.2
      | none => false := by
  induction entries with
  | nil => rfl
  | cons e rest ih =>
      rw [Value.eqEntries, ih]
      rfl

section
variable {counts others : List (Atom × Nat)} {value : Value}

theorem countsValue_perm (perm : counts.Perm others) :
    (countsValue counts).eq value = (countsValue others).eq value := by
  cases value with
  | atom _ | list _ => rfl
  | dict d =>
      unfold countsValue
      have mapped := perm.map fun e : Atom × Nat => (e.1, Value.atom (.int e.2))
      rw [Value.eq, Value.eq, mapped.length_eq, eqEntries_eq_all, eqEntries_eq_all, mapped.all_eq]

/-- Counts that a JSON object states are counts of texts. -/
theorem texts_of_countsValue {codes : List Atom} (json : IsJson value)
    (same : (countsValue (counter codes)).eq value = true) :
    ∃ names : List String, codes = names.map .str := by
  have all (code : Atom) (mem : code ∈ codes) : ∃ name, code = .str name := by
    by_contra other
    obtain ⟨e, there, text⟩ := counter_other mem fun name is => other ⟨name, is⟩
    cases value with
    | atom _ | list _ => cases same
    | dict d =>
        unfold countsValue at same
        rw [Value.eq, Bool.and_eq_true, eqEntries_eq_all, List.all_eq_true] at same
        have held := same.2 _ (List.mem_map.2 ⟨e, there, rfl⟩)
        cases found : d.find? fun f => f.1.eq e.1 with
        | none =>
            rw [found] at held
            cases held
        | some f =>
            have equal := @List.find?_some _ (fun f : Atom × Value => f.1.eq e.1) _ _ found
            obtain ⟨name, is⟩ := json.keys f (List.mem_of_find?_eq_some found)
            rw [is] at equal
            cases key : e.1 with
            | str s => exact text s key
            | none | bool _ | int _ | float _ _ =>
                rw [key] at equal
                simp [Atom.eq, Atom.number?] at equal
  clear same
  induction codes with
  | nil => exact ⟨[], rfl⟩
  | cons code rest ih =>
      obtain ⟨name, is⟩ := all code List.mem_cons_self
      obtain ⟨names, are⟩ := ih fun c mem => all c (List.mem_cons_of_mem code mem)
      exact ⟨name :: names, by rw [is, are, List.map_cons]⟩

end

/-- A mapping that may miss an item. -/
theorem mapM_option {α β : Type} (f : α → Option β) (xs : List α) :
    xs.mapM f = if (xs.all fun x => (f x).isSome) = true then some (xs.filterMap f) else none := by
  induction xs with
  | nil => rfl
  | cons x rest ih =>
      rw [List.mapM_cons, ih, List.all_cons, List.filterMap_cons]
      cases f x with
      | none => rfl
      | some y =>
          by_cases others : (rest.all fun x => (f x).isSome) = true <;> simp [others]

/-- The scalar that a value is hashed as. -/
def atom? (value : Value) : Option Atom :=
  match value with
  | .atom a => some a
  | _ => none

theorem modelCodes_eq (chunks : List (String × Dict)) : modelCodes chunks =
    match chunks.mapM fun chunk => atom? (chunk.2.get "model_code") with
    | some codes => .ok codes
    | none => .error (.builtin .typeError) := by
  induction chunks with
  | nil => rfl
  | cons chunk rest ih =>
      unfold modelCodes at ih ⊢
      rw [List.mapM_cons, List.mapM_cons, ih]
      cases chunk.2.get "model_code" with
      | list _ | dict _ => rfl
      | atom a => cases rest.mapM fun chunk => atom? (chunk.2.get "model_code") <;> rfl

/-- A permutation of the items permutes the results of a mapping, or misses as before. -/
theorem mapM_perm {α β : Type} {f : α → Option β} {xs ys : List α} (perm : xs.Perm ys) :
    (xs.mapM f = none ∧ ys.mapM f = none) ∨
      ∃ zs ws, xs.mapM f = some zs ∧ ys.mapM f = some ws ∧ zs.Perm ws := by
  rw [mapM_option, mapM_option, perm.all_eq]
  by_cases all : (ys.all fun y => (f y).isSome) = true
  · rw [if_pos all, if_pos all]
    exact .inr ⟨_, _, rfl, rfl, perm.filterMap f⟩
  · rw [if_neg all, if_neg all]
    exact .inl ⟨rfl, rfl⟩

section
variable {chunks others : List (String × Dict)} {acc : List (Atom × Dict)} {id : String}

theorem mem_keys_assign (acc : List (Atom × Dict)) (id : String) (chunk : Dict) (key : Atom) :
    key ∈ (assign acc (.str id) chunk).map (·.1) ↔ key ∈ acc.map (·.1) ∨ key = .str id := by
  have keys : ((·.1) ∘ fun e : Atom × Dict => if e.1.eq (.str id) then (e.1, chunk) else e) =
      (·.1) := by
    funext e
    by_cases same : e.1.eq (.str id) = true <;> simp [same]
  unfold assign
  split
  · rename_i known
    rw [List.map_map, keys]
    refine ⟨.inl, fun either => ?_⟩
    rcases either with old | same
    · exact old
    · have ⟨e, there, is⟩ := List.any_eq_true.1 known
      rw [same, ← Atom.eq_str_iff.1 is]
      exact List.mem_map_of_mem there
  · rw [List.map_append, List.mem_append]
    exact or_congr_right List.mem_singleton

theorem nodup_keys_assign {chunk : Dict} (distinct : (acc.map (·.1)).Nodup) :
    ((assign acc (.str id) chunk).map (·.1)).Nodup := by
  have keys : ((·.1) ∘ fun e : Atom × Dict => if e.1.eq (.str id) then (e.1, chunk) else e) =
      (·.1) := by
    funext e
    by_cases same : e.1.eq (.str id) = true <;> simp [same]
  unfold assign
  split
  · rw [List.map_map, keys]
    exact distinct
  · rename_i new
    rw [List.map_append, List.nodup_append]
    refine ⟨distinct, List.nodup_singleton _, fun key mem last single same => new ?_⟩
    have ⟨e, there, is⟩ := List.mem_map.1 mem
    rw [List.mem_singleton.1 single] at same
    exact List.any_eq_true.2 ⟨e, there, Atom.eq_str_iff.2 (is.trans same)⟩

/-- The keys of the canonical chunks: their ids, each once. -/
theorem keys_chunksById (chunks : List (String × Dict)) :
    ((chunksById chunks).map (·.1)).Nodup ∧
      ∀ key, key ∈ (chunksById chunks).map (·.1) ↔ ∃ chunk ∈ chunks, key = .str chunk.1 := by
  induction chunks using List.reverseRecOn with
  | nil => exact ⟨List.nodup_nil, fun key => by simp [chunksById]⟩
  | append_singleton before last ih =>
      have step : chunksById (before ++ [last]) =
          assign (chunksById before) (.str last.1) last.2 := by
        unfold chunksById
        rw [List.foldl_append]
        rfl
      rw [step]
      refine ⟨nodup_keys_assign ih.1, fun key => ?_⟩
      rw [mem_keys_assign, ih.2]
      simp only [List.mem_append, List.mem_singleton, or_and_right, exists_or, exists_eq_left]

/-- While the ids are distinct, nothing is overwritten. -/
theorem chunksById_of_nodup (distinct : (chunks.map (·.1)).Nodup) :
    chunksById chunks = chunks.map fun chunk => (.str chunk.1, chunk.2) := by
  induction chunks using List.reverseRecOn with
  | nil => rfl
  | append_singleton before last ih =>
      rw [List.map_append, List.nodup_append] at distinct
      have earlier := ih distinct.1
      have step : chunksById (before ++ [last]) =
          assign (chunksById before) (.str last.1) last.2 := by
        unfold chunksById
        rw [List.foldl_append]
        rfl
      rw [step, earlier, List.map_append]
      unfold assign
      rw [if_neg]
      · rfl
      · intro known
        have ⟨e, there, same⟩ := List.any_eq_true.1 known
        have ⟨chunk, mem, is⟩ := List.mem_map.1 there
        rw [← is] at same
        have equal := Atom.str.inj (Atom.eq_str_iff.1 same)
        exact distinct.2.2 _ (List.mem_map_of_mem mem) _ List.mem_cons_self equal

/-- As many keys as chunks: no id is repeated. -/
theorem length_chunksById : chunks.length = (chunksById chunks).length ↔
    (chunks.map (·.1)).Nodup := by
  constructor
  · intro same
    have ⟨distinct, keys⟩ := keys_chunksById chunks
    have sets : ((chunksById chunks).map (·.1)).toFinset =
        (chunks.map fun chunk => Atom.str chunk.1).toFinset := by
      ext key
      rw [List.mem_toFinset, List.mem_toFinset, keys, List.mem_map]
      exact ⟨fun ⟨chunk, mem, is⟩ => ⟨chunk, mem, is.symm⟩,
        fun ⟨chunk, mem, is⟩ => ⟨chunk, mem, is.symm⟩⟩
    have card : (chunks.map fun chunk => Atom.str chunk.1).toFinset.card =
        (chunks.map fun chunk => Atom.str chunk.1).length := by
      rw [← sets, List.toFinset_card_of_nodup distinct, List.length_map, List.length_map, same]
    have atoms : (chunks.map fun chunk => Atom.str chunk.1).Nodup :=
      Multiset.toFinset_card_eq_card_iff_nodup.1 card
    have mapped : ((chunks.map (·.1)).map Atom.str).Nodup := by
      rw [List.map_map]
      exact atoms
    exact mapped.of_map
  · intro distinct
    rw [chunksById_of_nodup distinct, List.length_map]

theorem lookup_chunksById (distinct : (chunks.map (·.1)).Nodup) {chunk : Dict} :
    lookup (chunksById chunks) (.str id) = some chunk ↔ (id, chunk) ∈ chunks := by
  rw [chunksById_of_nodup distinct]
  unfold lookup
  constructor
  · intro found
    have ⟨e, there, is⟩ := Option.map_eq_some_iff.1 found
    have held := @List.find?_some _ (fun e : Atom × Dict => e.1.eq (.str id)) _ _ there
    have ⟨c, mem, was⟩ := List.mem_map.1 (List.mem_of_find?_eq_some there)
    rw [← was] at held is
    rw [← Atom.str.inj (Atom.eq_str_iff.1 held), ← is]
    exact mem
  · intro mem
    cases found : (chunks.map fun chunk => ((.str chunk.1, chunk.2) : Atom × Dict)).find?
        fun e => e.1.eq (.str id) with
    | none =>
        have absent := List.find?_eq_none.1 found _ (List.mem_map_of_mem mem)
        exact absurd (Atom.eq_str_iff.2 rfl) absent
    | some e =>
        have held := @List.find?_some _ (fun e : Atom × Dict => e.1.eq (.str id)) _ _ found
        have ⟨c, there, was⟩ := List.mem_map.1 (List.mem_of_find?_eq_some found)
        rw [← was] at held
        have same : c.1 = (id, chunk).1 := Atom.str.inj (Atom.eq_str_iff.1 held)
        have equal := List.inj_on_of_nodup_map distinct there mem same
        rw [Option.map_some, ← was, equal]

end

/-! ### The verdict -/

section
variable (u : Unicode) (profile : RagRuntimeProfile) (manifest : IndexManifest)

def reportOf (rows : List ReadonlyIndexRow) : Report where
  indexVersion := manifest.indexVersion
  chunkSetSha256 := manifest.chunkSetSha256
  indexRowCount := rows.length
  modelRowCounts := (counter (rows.map fun row => .str row.modelCode)).insertionSort
    fun e f => e.1.text ≤ f.1.text
  approvedModelCodes := profile.approvedModelCodes.sort (· ≤ ·)
  approvedModelRowCount := ∑ code ∈ profile.approvedModelCodes,
    count (counter (rows.map fun row => .str row.modelCode)) (.str code)

/-- The check of the model codes of the chunks. -/
def modelScope (counts : Value) (expectedCounts : List (Atom × Nat)) : Bool :=
  (countsValue expectedCounts).eq counts &&
    decide (∀ code ∈ profile.approvedModelCodes, (lookup expectedCounts (.str code)).isSome = true)

/-- The ids of the rows are those of the chunks, each once. -/
def sameIds (rows : List ReadonlyIndexRow) (expected : List (Atom × Dict)) : Bool :=
  decide ((rows.map (·.chunkId)).dedup.length = rows.length) &&
    decide ((rows.map fun row => Atom.str row.chunkId).toFinset = (expected.map (·.1)).toFinset)

/-- The check once the chunks are known, against the counts that the identity states. -/
def verdict (counts : Value) (chunks : List (String × Dict)) (rows : List ReadonlyIndexRow) :
    Except Failure Report := do
  require (decide (chunks.length = (chunksById chunks).length) &&
    decide (((chunksById chunks).length : Int) = manifest.chunkCount)) .canonicalIdentityInvalid
  let codes ← modelCodes chunks
  require (modelScope profile counts (counter codes)) .canonicalModelScopeMismatch
  require (decide ((rows.length : Int) = manifest.chunkCount)) .viewRowCountMismatch
  require (sameIds rows (chunksById chunks)) .viewCanonicalChildSetMismatch
  require (sameCounts (counter (rows.map fun row => .str row.modelCode)) (counter codes))
    .viewModelDistributionMismatch
  rows.forM (checkRow u manifest (chunksById chunks))
  pure (reportOf profile manifest rows)

/-- The identity is that of the index of the manifest. -/
def sameManifest (identity : Dict) : Bool :=
  (identity.get "chunk_count").eq (.atom (.int manifest.chunkCount)) &&
    (identity.get "index_version").eqStr manifest.indexVersion &&
    decide (sha256 u (identity.get "chunk_set_sha256") = sha256 u (.str manifest.chunkSetSha256))

theorem validateReadonlyIndex_eq (identity : Dict) (rows : List ReadonlyIndexRow) :
    validateReadonlyIndex u profile manifest identity rows =
      (validateRuntimeManifest u profile manifest >>= fun _ =>
        require (sameManifest u manifest identity) .canonicalManifestMismatch >>= fun _ =>
          canonicalChunks identity >>= fun chunks =>
            verdict u profile manifest (identity.get "model_chunk_counts") chunks rows) := rfl

/-- What has held when the check reports. -/
structure Passes (counts : Value) (chunks : List (String × Dict)) (rows : List ReadonlyIndexRow)
    (codes : List Atom) : Prop where
  distinct : (chunks.map (·.1)).Nodup
  chunkCount : (chunks.length : Int) = manifest.chunkCount
  found : modelCodes chunks = .ok codes
  scope : modelScope profile counts (counter codes) = true
  rowCount : (rows.length : Int) = manifest.chunkCount
  ids : sameIds rows (chunksById chunks) = true
  models : sameCounts (counter (rows.map fun row => .str row.modelCode)) (counter codes) = true
  rows : ∀ row ∈ rows, checkRow u manifest (chunksById chunks) row = .ok ()

variable {u profile manifest} {counts : Value} {chunks others : List (String × Dict)}
  {rows more : List ReadonlyIndexRow} {report : Report} {identity : Dict}

theorem lengths_iff : (decide (chunks.length = (chunksById chunks).length) &&
    decide (((chunksById chunks).length : Int) = manifest.chunkCount)) = true ↔
      (chunks.map (·.1)).Nodup ∧ (chunks.length : Int) = manifest.chunkCount := by
  rw [Bool.and_eq_true, decide_eq_true_iff, decide_eq_true_iff, ← length_chunksById]
  constructor
  · intro ⟨same, counted⟩
    exact ⟨same, same ▸ counted⟩
  · intro ⟨same, counted⟩
    exact ⟨same, same ▸ counted⟩

theorem verdict_eq_ok : verdict u profile manifest counts chunks rows = .ok report ↔
    ∃ codes, Passes u profile manifest counts chunks rows codes ∧
      reportOf profile manifest rows = report := by
  unfold verdict
  rw [require_bind_eq_ok, lengths_iff, bind_eq_ok]
  constructor
  · intro ⟨⟨distinct, counted⟩, codes, found, rest⟩
    obtain ⟨scope, rest⟩ := require_bind_eq_ok.1 rest
    obtain ⟨size, rest⟩ := require_bind_eq_ok.1 rest
    obtain ⟨ids, rest⟩ := require_bind_eq_ok.1 rest
    obtain ⟨models, rest⟩ := require_bind_eq_ok.1 rest
    obtain ⟨_, checked, last⟩ := bind_eq_ok.1 rest
    exact ⟨codes, ⟨distinct, counted, found, scope, of_decide_eq_true size, ids, models,
      forM_eq_ok.1 checked⟩, Except.ok.inj last⟩
  · intro ⟨codes, h, same⟩
    refine ⟨⟨h.distinct, h.chunkCount⟩, codes, h.found, ?_⟩
    rw [require_bind_eq_ok, require_bind_eq_ok, require_bind_eq_ok, require_bind_eq_ok,
      bind_eq_ok]
    exact ⟨h.scope, decide_eq_true h.rowCount, h.ids, h.models, (), forM_eq_ok.2 h.rows,
      congrArg Except.ok same⟩

/-! ### The order of the rows -/

theorem require_bind_congr {ε α : Type} {holds : Bool} {fault : ε} {f g : Unit → Except ε α}
    (same : holds = true → f () = g ()) :
    (Machine.require holds fault >>= f) = (Machine.require holds fault >>= g) := by
  cases holds with
  | true => exact same rfl
  | false => rfl

theorem counter_perm {names more : List String} (perm : names.Perm more) :
    (counter (names.map .str)).Perm (counter (more.map .str)) :=
  (counter_counts names).perm (counter_counts more) perm

theorem codes_map (rows : List ReadonlyIndexRow) :
    (rows.map fun row => Atom.str row.modelCode) = (rows.map (·.modelCode)).map .str := by
  rw [List.map_map]
  rfl

theorem sorted_perm {names more : List String} (perm : names.Perm more) :
    (counter (names.map .str)).insertionSort (fun e f => e.1.text ≤ f.1.text) =
      (counter (more.map .str)).insertionSort fun e f => e.1.text ≤ f.1.text := by
  have total : ∀ a b : Atom × Nat, a.1.text ≤ b.1.text ∨ b.1.text ≤ a.1.text :=
    fun a b => le_total _ _
  have trans : ∀ a b c : Atom × Nat, a.1.text ≤ b.1.text → b.1.text ≤ c.1.text →
      a.1.text ≤ c.1.text := fun _ _ _ => le_trans
  have : Std.Total fun e f : Atom × Nat => e.1.text ≤ f.1.text := ⟨total⟩
  have : IsTrans (Atom × Nat) fun e f => e.1.text ≤ f.1.text := ⟨trans⟩
  have first := List.pairwise_insertionSort (fun e f : Atom × Nat => e.1.text ≤ f.1.text)
    (counter (names.map .str))
  have second := List.pairwise_insertionSort (fun e f : Atom × Nat => e.1.text ≤ f.1.text)
    (counter (more.map .str))
  have same := ((List.perm_insertionSort (fun e f : Atom × Nat => e.1.text ≤ f.1.text) _).trans
    (counter_perm perm)).trans
      (List.perm_insertionSort (fun e f : Atom × Nat => e.1.text ≤ f.1.text) _).symm
  refine List.Perm.eq_of_pairwise ?_ first second same
  intro e f left right le ge
  have ⟨name, _, is⟩ := ((counter_counts names).mem e).1
    ((List.mem_insertionSort (fun e f : Atom × Nat => e.1.text ≤ f.1.text)).1 left)
  have ⟨other, _, was⟩ := ((counter_counts more).mem f).1
    ((List.mem_insertionSort (fun e f : Atom × Nat => e.1.text ≤ f.1.text)).1 right)
  rw [is, was] at le ge ⊢
  have text : name = other := le_antisymm le ge
  rw [text, perm.count_eq]

theorem reportOf_perm (perm : rows.Perm more) :
    reportOf profile manifest rows = reportOf profile manifest more := by
  have models := perm.map (·.modelCode)
  unfold reportOf
  rw [codes_map, codes_map, perm.length_eq, sorted_perm models]
  congr 1
  refine Finset.sum_congr rfl fun code _ => ?_
  rw [(counter_counts _).count_eq, (counter_counts _).count_eq, models.count_eq]

theorem sameIds_perm {expected : List (Atom × Dict)} (perm : rows.Perm more) :
    sameIds rows expected = sameIds more expected := by
  have ids := (perm.map (·.chunkId)).dedup.length_eq
  have keys := List.toFinset_eq_of_perm _ _ (perm.map fun row => Atom.str row.chunkId)
  unfold sameIds
  rw [ids, keys, perm.length_eq]

theorem sameCounts_perm {names ns ms : List String} (perm : ns.Perm ms) :
    sameCounts (counter (ns.map .str)) (counter (names.map .str)) =
      sameCounts (counter (ms.map .str)) (counter (names.map .str)) := by
  rw [Bool.eq_iff_iff, sameCounts_iff (counter_counts _) (counter_counts _),
    sameCounts_iff (counter_counts _) (counter_counts _)]
  exact ⟨perm.symm.trans, perm.trans⟩

/-- The counts that a JSON object states are those of texts. -/
theorem texts_of_modelScope {codes : List Atom} (json : IsJson counts)
    (scope : modelScope profile counts (counter codes) = true) :
    ∃ names : List String, codes = names.map .str := by
  unfold modelScope at scope
  rw [Bool.and_eq_true] at scope
  exact texts_of_countsValue json scope.1

variable (u profile manifest) in
/-- The checks before the loop over the rows. -/
def comparison (counts : Value) (chunks : List (String × Dict)) (rows : List ReadonlyIndexRow) :
    Except Failure Unit := do
  require (decide (chunks.length = (chunksById chunks).length) &&
    decide (((chunksById chunks).length : Int) = manifest.chunkCount)) .canonicalIdentityInvalid
  let codes ← modelCodes chunks
  require (modelScope profile counts (counter codes)) .canonicalModelScopeMismatch
  require (decide ((rows.length : Int) = manifest.chunkCount)) .viewRowCountMismatch
  require (sameIds rows (chunksById chunks)) .viewCanonicalChildSetMismatch
  require (sameCounts (counter (rows.map fun row => .str row.modelCode)) (counter codes))
    .viewModelDistributionMismatch

theorem verdict_eq : verdict u profile manifest counts chunks rows =
    (comparison profile manifest counts chunks rows >>= fun _ =>
      rows.forM (checkRow u manifest (chunksById chunks)) >>= fun _ =>
        .ok (reportOf profile manifest rows)) := by
  unfold verdict comparison
  simp only [bind_assoc]
  rfl

theorem comparison_perm (json : IsJson counts) (perm : rows.Perm more) :
    comparison profile manifest counts chunks rows =
      comparison profile manifest counts chunks more := by
  unfold comparison
  refine require_bind_congr fun _ => ?_
  congr 1
  funext codes
  refine require_bind_congr fun scope => ?_
  have ⟨names, are⟩ := texts_of_modelScope json scope
  rw [perm.length_eq, sameIds_perm perm, are, codes_map, codes_map,
    sameCounts_perm (perm.map (·.modelCode))]

theorem verdict_rows (json : IsJson counts) (perm : rows.Perm more)
    (reported : verdict u profile manifest counts chunks rows = .ok report) :
    verdict u profile manifest counts chunks more = .ok report := by
  rw [verdict_eq] at reported ⊢
  obtain ⟨_, compared, reported⟩ := bind_eq_ok.1 reported
  obtain ⟨_, checked, same⟩ := bind_eq_ok.1 reported
  rw [comparison_perm json perm] at compared
  refine bind_eq_ok.2 ⟨(), compared, bind_eq_ok.2 ⟨(), forM_eq_ok.2 fun row mem => ?_, ?_⟩⟩
  · exact forM_eq_ok.1 checked row (perm.symm.subset mem)
  · rw [← reportOf_perm perm]
    exact same

/-- A failure is that of every order of the rows, or that of the first row that is refused. -/
theorem verdict_failed {failure : Failure} (json : IsJson counts)
    (failed : verdict u profile manifest counts chunks rows = .error failure) :
    (∀ more, rows.Perm more → verdict u profile manifest counts chunks more = .error failure) ∨
      ∃ before row after, rows = before ++ row :: after ∧
        (∀ other ∈ before, checkRow u manifest (chunksById chunks) other = .ok ()) ∧
        checkRow u manifest (chunksById chunks) row = .error failure := by
  rw [verdict_eq] at failed
  cases compared : comparison profile manifest counts chunks rows with
  | error early =>
      rw [compared] at failed
      refine .inl fun more perm => ?_
      rw [verdict_eq, ← comparison_perm json perm, compared]
      exact congrArg Except.error (Except.error.inj failed)
  | ok _ =>
      rw [bind_of_ok compared] at failed
      cases checked : rows.forM (checkRow u manifest (chunksById chunks)) with
      | error refused =>
          rw [checked] at failed
          rw [Except.error.inj failed] at checked
          exact .inr (forM_failed checked)
      | ok _ =>
          rw [bind_of_ok checked] at failed
          cases failed

variable (u profile manifest) in
/-- The checks before the chunks are looked into. -/
def header (identity : Dict) : Except Failure (List (String × Dict)) := do
  validateRuntimeManifest u profile manifest
  require (sameManifest u manifest identity) .canonicalManifestMismatch
  canonicalChunks identity

theorem validateReadonlyIndex_header : validateReadonlyIndex u profile manifest identity rows =
    (header u profile manifest identity >>= fun chunks =>
      verdict u profile manifest (identity.get "model_chunk_counts") chunks rows) := by
  rw [validateReadonlyIndex_eq]
  unfold header
  simp only [bind_assoc]

theorem validate_failed {failure : Failure} (json : ∀ key, IsJson (identity.get key))
    (failed : validateReadonlyIndex u profile manifest identity rows = .error failure) :
    (∀ more, rows.Perm more →
      validateReadonlyIndex u profile manifest identity more = .error failure) ∨
      ∃ chunks before row after, canonicalChunks identity = .ok chunks ∧
        rows = before ++ row :: after ∧
        (∀ other ∈ before, checkRow u manifest (chunksById chunks) other = .ok ()) ∧
        checkRow u manifest (chunksById chunks) row = .error failure := by
  rw [validateReadonlyIndex_header] at failed
  cases head : header u profile manifest identity with
  | error early =>
      rw [head] at failed
      refine .inl fun more _ => ?_
      rw [validateReadonlyIndex_header, head]
      exact failed
  | ok chunks =>
      rw [bind_of_ok head] at failed
      have ⟨_, _, rest⟩ := bind_eq_ok.1 head
      have ⟨_, canonical⟩ := require_bind_eq_ok.1 rest
      rcases verdict_failed (json "model_chunk_counts") failed with always | refused
      · refine .inl fun more perm => ?_
        rw [validateReadonlyIndex_header, bind_of_ok head]
        exact always more perm
      · have ⟨before, row, after, same, passed, first⟩ := refused
        exact .inr ⟨chunks, before, row, after, canonical, same, passed, first⟩

end

/-! ### The order of the chunks -/

section
variable {u : Unicode} {profile : RagRuntimeProfile} {manifest : IndexManifest} {counts : Value}
  {chunks others : List (String × Dict)} {rows : List ReadonlyIndexRow} {codes more : List Atom}

theorem lengths_perm (perm : chunks.Perm others) :
    (decide (chunks.length = (chunksById chunks).length) &&
      decide (((chunksById chunks).length : Int) = manifest.chunkCount)) =
    (decide (others.length = (chunksById others).length) &&
      decide (((chunksById others).length : Int) = manifest.chunkCount)) := by
  rw [Bool.eq_iff_iff, lengths_iff, lengths_iff, (perm.map (·.1)).nodup_iff, perm.length_eq]

theorem texts_perm {names : List String} (perm : codes.Perm more) (are : codes = names.map .str) :
    ∃ texts : List String, more = texts.map .str ∧ names.Perm texts := by
  have each : ∀ code ∈ more, Atom.str code.text = code := by
    intro code mem
    have there := perm.symm.subset mem
    rw [are] at there
    have ⟨name, _, is⟩ := List.mem_map.1 there
    rw [← is]
    rfl
  have back : (names.map Atom.str).map Atom.text = names := by
    rw [List.map_map]
    exact List.map_id names
  refine ⟨more.map Atom.text, ?_, ?_⟩
  · rw [List.map_map]
    exact ((List.map_congr_left each).trans (List.map_id more)).symm
  · have mapped := perm.map Atom.text
    rw [are, back] at mapped
    exact mapped

theorem modelScope_of_perm (json : IsJson counts) (perm : codes.Perm more)
    (scope : modelScope profile counts (counter codes) = true) :
    modelScope profile counts (counter more) = true := by
  have ⟨names, are⟩ := texts_of_modelScope json scope
  have ⟨texts, were, same⟩ := texts_perm perm are
  rw [are] at scope
  rw [were]
  unfold modelScope at scope ⊢
  rw [Bool.and_eq_true, decide_eq_true_iff] at scope ⊢
  refine ⟨(countsValue_perm (counter_perm same)).symm.trans scope.1, fun code approved => ?_⟩
  have listed := scope.2 code approved
  have present : code ∈ names := by
    by_contra absent
    rw [(counter_counts names).find_none absent] at listed
    cases listed
  rw [(counter_counts texts).find (same.subset present)]
  rfl

theorem modelScope_perm (json : IsJson counts) (perm : codes.Perm more) :
    modelScope profile counts (counter codes) = modelScope profile counts (counter more) := by
  rw [Bool.eq_iff_iff]
  exact ⟨modelScope_of_perm json perm, modelScope_of_perm json perm.symm⟩

theorem lookup_perm (distinct : (chunks.map (·.1)).Nodup) (perm : chunks.Perm others)
    (id : String) : lookup (chunksById chunks) (.str id) = lookup (chunksById others) (.str id) := by
  have distinct' : (others.map (·.1)).Nodup := (perm.map (·.1)).nodup_iff.1 distinct
  refine Option.ext fun chunk => ?_
  rw [lookup_chunksById distinct, lookup_chunksById distinct', perm.mem_iff]

theorem checkRow_perm (distinct : (chunks.map (·.1)).Nodup) (perm : chunks.Perm others) :
    checkRow u manifest (chunksById chunks) = checkRow u manifest (chunksById others) := by
  funext row
  unfold checkRow
  rw [lookup_perm distinct perm]

theorem sameIds_chunks (perm : chunks.Perm others) :
    sameIds rows (chunksById chunks) = sameIds rows (chunksById others) := by
  have keys : ((chunksById chunks).map (·.1)).toFinset =
      ((chunksById others).map (·.1)).toFinset := by
    ext key
    rw [List.mem_toFinset, List.mem_toFinset, (keys_chunksById chunks).2,
      (keys_chunksById others).2]
    constructor
    · intro ⟨chunk, mem, is⟩
      exact ⟨chunk, perm.subset mem, is⟩
    · intro ⟨chunk, mem, is⟩
      exact ⟨chunk, perm.symm.subset mem, is⟩
  unfold sameIds
  rw [keys]

theorem verdict_chunks (json : IsJson counts) (perm : chunks.Perm others) :
    verdict u profile manifest counts chunks rows =
      verdict u profile manifest counts others rows := by
  unfold verdict
  rw [← lengths_perm perm]
  refine require_bind_congr fun lengths => ?_
  have distinct := (lengths_iff.1 lengths).1
  rw [modelCodes_eq, modelCodes_eq]
  rcases mapM_perm perm with ⟨first, second⟩ | ⟨codes, more, first, second, same⟩
  · rw [first, second]
    rfl
  · rw [first, second]
    refine Eq.trans (bind_of_ok rfl) (Eq.trans ?_ (bind_of_ok rfl).symm)
    rw [← modelScope_perm json same]
    refine require_bind_congr fun scope => ?_
    have ⟨names, are⟩ := texts_of_modelScope json scope
    have ⟨texts, were, texts_same⟩ := texts_perm same are
    have models : sameCounts (counter (rows.map fun row => .str row.modelCode)) (counter codes) =
        sameCounts (counter (rows.map fun row => .str row.modelCode)) (counter more) := by
      rw [are, were, codes_map, Bool.eq_iff_iff,
        sameCounts_iff (counter_counts _) (counter_counts _),
        sameCounts_iff (counter_counts _) (counter_counts _)]
      exact ⟨fun h => h.trans texts_same, fun h => h.trans texts_same.symm⟩
    rw [sameIds_chunks perm, models, checkRow_perm distinct perm]

/-- The items of `chunks` are put in another order. -/
def withChunks (identity : Dict) (items : List Value) : Dict :=
  identity.map fun e => if e.1 = .str "chunks" then (e.1, .list items) else e

theorem get_withChunks {identity : Dict} {items : List Value} {key : String}
    (other : key ≠ "chunks") : (withChunks identity items).get key = identity.get key := by
  unfold Dict.get Dict.find withChunks
  rw [List.find?_map, Option.map_map]
  have keys : ((fun e : Atom × Value => e.1.eq (.str key)) ∘ fun e : Atom × Value =>
      if e.1 = .str "chunks" then (e.1, .list items) else e) = fun e => e.1.eq (.str key) := by
    funext e
    by_cases same : e.1 = .str "chunks" <;> simp [same]
  rw [keys]
  cases found : identity.find? fun e => e.1.eq (.str key) with
  | none => rfl
  | some e =>
      have held := @List.find?_some _ (fun e : Atom × Value => e.1.eq (.str key)) _ _ found
      have named := Atom.eq_str_iff.1 held
      have apart : e.1 ≠ .str "chunks" := by
        rw [named]
        exact fun same => other (Atom.str.inj same)
      simp [apart]

theorem chunks_withChunks {identity : Dict} {items new : List Value}
    (listed : identity.get "chunks" = .list items) :
    (withChunks identity new).get "chunks" = .list new := by
  unfold Dict.get Dict.find at listed ⊢
  unfold withChunks
  rw [List.find?_map, Option.map_map]
  have keys : ((fun e : Atom × Value => e.1.eq (.str "chunks")) ∘ fun e : Atom × Value =>
      if e.1 = .str "chunks" then (e.1, .list new) else e) = fun e => e.1.eq (.str "chunks") := by
    funext e
    by_cases same : e.1 = .str "chunks" <;> simp [same]
  rw [keys]
  cases found : identity.find? fun e => e.1.eq (.str "chunks") with
  | none =>
      rw [found] at listed
      cases listed
  | some e =>
      have held := @List.find?_some _ (fun e : Atom × Value => e.1.eq (.str "chunks")) _ _ found
      simp [Atom.eq_str_iff.1 held]

theorem canonicalChunks_of_list {identity : Dict} {items : List Value}
    (listed : identity.get "chunks" = .list items) : canonicalChunks identity =
      match items.mapM identified with
      | none => .error (.readiness .canonicalIdentityInvalid)
      | some chunks => .ok chunks := by
  unfold canonicalChunks
  rw [listed]
  rfl

theorem validate_chunks (identity : JsonObject) {items new : List Value}
    (listed : identity.entries.get "chunks" = .list items) (perm : items.Perm new) :
    validateReadonlyIndex u profile manifest (withChunks identity.entries new) rows =
      validateReadonlyIndex u profile manifest identity.entries rows := by
  have header : sameManifest u manifest (withChunks identity.entries new) =
      sameManifest u manifest identity.entries := by
    unfold sameManifest
    rw [get_withChunks (by decide), get_withChunks (by decide), get_withChunks (by decide)]
  rw [validateReadonlyIndex_eq, validateReadonlyIndex_eq, header, get_withChunks (by decide),
    canonicalChunks_of_list listed, canonicalChunks_of_list (chunks_withChunks listed)]
  rcases mapM_perm perm with ⟨first, second⟩ | ⟨chunks, others, first, second, same⟩
  · rw [first, second]
  · rw [first, second]
    congr 1
    funext _
    congr 1
    funext _
    exact (verdict_chunks identity.json.get same).symm

end

/-! ### What a report says -/

section
variable {u : Unicode} {profile : RagRuntimeProfile} {manifest : IndexManifest}
  {identity : Dict} {chunks : List (String × Dict)} {rows : List ReadonlyIndexRow}

/-- A row and a canonical chunk agree. Hashes are compared as the digests they stand for; a value
that is no digest stands for none. -/
structure Agrees (u : Unicode) (manifest : IndexManifest) (row : ReadonlyIndexRow)
    (metadata chunk : Dict) : Prop where
  object : row.metadata = .dict metadata
  chunkId : chunk.get "chunk_id" = .str row.chunkId
  model : chunk.get "model_code" = .str row.modelCode ∧
    metadata.get "model_code" = .str row.modelCode
  generation : chunk.get "product_generation" = .str row.productGeneration ∧
    metadata.get "product_generation" = .str row.productGeneration
  /-- The document is one of the manifest, and its hash is that of the source. -/
  document : ∃ id hash digest, chunk.get "document_id" = .str id ∧
    metadata.get "document_id" = .str id ∧ (id, hash) ∈ manifest.documentHashes ∧
    sha256 u (.str hash) = some digest ∧
    sha256 u (chunk.get "source_file_sha256") = some digest ∧
    sha256 u (metadata.get "source_hash") = some digest
  pages : (metadata.get "page_refs").eq (chunk.get "page_refs") = true
  text : ∃ digest, sha256 u (chunk.get "chunk_text_sha256") = some digest ∧
    sha256 u (.str row.contentSha256) = some digest
  embedding : row.dimension = manifest.dimension ∧
    metadata.get "embedding_model" = .str manifest.modelName ∧
    metadata.get "embedding_model_revision" = .str manifest.modelRevision ∧
    metadata.get "index_version" = .str manifest.indexVersion ∧
    sha256 u (metadata.get "chunk_set_sha256") = sha256 u (.str manifest.chunkSetSha256)
  verified : chunk.get "verification_status" = .str "TEXT_AND_VISUAL_VERIFIED"
  eligible : eligible row metadata = true

/-- The rows and the canonical chunks correspond one to one by their ids, and agree. -/
def OneToOne (u : Unicode) (manifest : IndexManifest) (identity : Dict)
    (rows : List ReadonlyIndexRow) : Prop :=
  ∃ chunks paired : List Dict, identity.get "chunks" = .list (chunks.map .dict) ∧
    paired.Perm chunks ∧ (rows.map (·.chunkId)).Nodup ∧
    List.Forall₂ (fun row chunk => ∃ metadata, Agrees u manifest row metadata chunk) rows paired

theorem eq_str_of_eq {value : Value} {text : String} (same : value.eq (.str text) = true) :
    value = .str text := by
  cases value with
  | atom a => exact congrArg Value.atom (Atom.eq_str_iff.1 same)
  | list _ | dict _ => cases same

/-- The chunk of an item that has an id. -/
theorem of_identified {items : List Value} (found : items.mapM identified = some chunks) :
    items = chunks.map (fun chunk => .dict chunk.2) ∧
      ∀ chunk ∈ chunks, chunk.2.get "chunk_id" = .str chunk.1 := by
  have each := mapM_eq_some found
  clear found
  induction each with
  | nil => exact ⟨rfl, fun chunk mem => by cases mem⟩
  | @cons item chunk items chunks first _ ih =>
      unfold identified at first
      have ⟨d, object, rest⟩ := Option.bind_eq_some_iff.1 first
      have ⟨id, text, is⟩ := Option.map_eq_some_iff.1 rest
      have whole := Value.asDict?_eq_some.1 object
      rw [← is]
      refine ⟨?_, fun other mem => ?_⟩
      · rw [List.map_cons, ← ih.1, whole]
      · rcases List.mem_cons.1 mem with here | later
        · rw [here]
          exact Value.asStr?_eq_some.1 text
        · exact ih.2 other later

theorem canonicalChunks_eq_ok (found : canonicalChunks identity = .ok chunks) :
    identity.get "chunks" = .list (chunks.map fun chunk => .dict chunk.2) ∧
      ∀ chunk ∈ chunks, chunk.2.get "chunk_id" = .str chunk.1 := by
  unfold canonicalChunks at found
  cases listed : (identity.get "chunks").asList? with
  | none =>
      rw [listed] at found
      cases found
  | some items =>
      rw [listed] at found
      dsimp only at found
      cases mapped : items.mapM identified with
      | none =>
          rw [mapped] at found
          cases found
      | some others =>
          rw [mapped] at found
          cases Except.ok.inj found
          have ⟨whole, ids⟩ := of_identified mapped
          refine ⟨?_, ids⟩
          rw [Value.asList?_eq_some.1 listed, whole]

/-- The document of a valid canonical chunk is one of the manifest. -/
theorem of_canonicalValid {chunk : Dict} (valid : canonicalValid u manifest chunk = .ok true) :
    chunk.get "verification_status" = .str "TEXT_AND_VISUAL_VERIFIED" ∧
      (∃ id hash digest, chunk.get "document_id" = .str id ∧ (id, hash) ∈ manifest.documentHashes ∧
        sha256 u (.str hash) = some digest ∧
        sha256 u (chunk.get "source_file_sha256") = some digest) ∧
      ∃ digest, sha256 u (chunk.get "chunk_text_sha256") = some digest := by
  unfold canonicalValid at valid
  dsimp only at valid
  split at valid
  · rename_i passed
    rw [Bool.and_eq_true, Value.eqStr_iff] at passed
    obtain ⟨hash, found, rest⟩ := bind_eq_ok.1 valid
    have both := Except.ok.inj rest
    rw [Bool.and_eq_true, decide_eq_true_iff] at both
    have ⟨digest, source⟩ := Option.isSome_iff_exists.1 passed.2
    refine ⟨passed.1, ?_, Option.isSome_iff_exists.1 both.2⟩
    unfold documentHash at found
    obtain ⟨key, hashed, looked⟩ := bind_eq_ok.1 found
    have looked := Except.ok.inj looked
    have document : chunk.get "document_id" = .atom key := by
      cases value : chunk.get "document_id" with
      | atom a =>
          rw [value] at hashed
          cases Except.ok.inj hashed
          rfl
      | list _ | dict _ =>
          rw [value] at hashed
          cases hashed
    cases entry : manifest.documentHashes.find? fun e => key.eq (.str e.1) with
    | none =>
        rw [entry] at looked
        rw [source, ← looked] at both
        cases both.1
    | some e =>
        rw [entry] at looked
        have held := @List.find?_some _ (fun e : String × String => key.eq (.str e.1)) _ _ entry
        rw [Atom.eq_str_iff.1 held] at document
        have same : sha256 u (.str e.2) = some digest := by
          have digested := both.1
          rw [source, ← looked] at digested
          exact digested.symm
        exact ⟨e.1, e.2, digest, document, List.mem_of_find?_eq_some entry, same, source⟩
  · cases Except.ok.inj valid

/-- A row that passes agrees with the chunk of its id. -/
theorem agrees_of_checkRow {row : ReadonlyIndexRow} {chunk : Dict}
    (found : lookup (chunksById chunks) (.str row.chunkId) = some chunk)
    (named : chunk.get "chunk_id" = .str row.chunkId)
    (passed : checkRow u manifest (chunksById chunks) row = .ok ()) :
    ∃ metadata, Agrees u manifest row metadata chunk := by
  unfold checkRow at passed
  rw [found] at passed
  dsimp only at passed
  cases object : row.metadata.asDict? with
  | none =>
      rw [object] at passed
      cases passed
  | some metadata =>
      rw [object] at passed
      dsimp only at passed
      obtain ⟨valid, canonical, passed⟩ := bind_eq_ok.1 passed
      obtain ⟨holds, passed⟩ := require_bind_eq_ok.1 passed
      obtain ⟨same, passed⟩ := require_bind_eq_ok.1 passed
      obtain ⟨index, passed⟩ := require_bind_eq_ok.1 passed
      have usable := require_eq_ok.1 passed
      rw [holds] at canonical
      have ⟨verified, ⟨id, hash, digest, document, listed, digested, source⟩, text, hashed⟩ :=
        of_canonicalValid canonical
      unfold sameIdentity at same
      simp only [Bool.and_eq_true, decide_eq_true_iff, Value.eqStr_iff] at same
      obtain ⟨⟨⟨⟨⟨⟨⟨model, generation⟩, model'⟩, generation'⟩, document'⟩, pages⟩, source'⟩, text'⟩ :=
        same
      unfold sameIndex at index
      simp only [Bool.and_eq_true, decide_eq_true_iff, Value.eqStr_iff] at index
      obtain ⟨⟨⟨⟨dimension, name⟩, revision⟩, version⟩, chunkSet⟩ := index
      rw [document] at document'
      exact ⟨metadata, {
        object := Value.asDict?_eq_some.1 object
        chunkId := named
        model := ⟨model, model'⟩
        generation := ⟨generation, generation'⟩
        document := ⟨id, hash, digest, document, eq_str_of_eq document', listed, digested, source,
          source'.trans source⟩
        pages := pages
        text := ⟨text, hashed, text'.trans hashed⟩
        embedding := ⟨dimension, name, revision, version, chunkSet⟩
        verified := verified
        eligible := usable }⟩

theorem nodup_of_dedup {xs : List String} (same : xs.dedup.length = xs.length) : xs.Nodup := by
  rw [← List.dedup_eq_self]
  exact (List.dedup_sublist xs).eq_of_length same

theorem Passes.oneToOne {counts : Value} {codes : List Atom}
    (h : Passes u profile manifest counts chunks rows codes)
    (canonical : canonicalChunks identity = .ok chunks) : OneToOne u manifest identity rows := by
  have ⟨listed, named⟩ := canonicalChunks_eq_ok canonical
  have ids := h.ids
  unfold sameIds at ids
  rw [Bool.and_eq_true, decide_eq_true_iff, decide_eq_true_iff] at ids
  have distinct : (rows.map (·.chunkId)).Nodup := by
    refine nodup_of_dedup (ids.1.trans ?_)
    rw [List.length_map]
  have keys (id : String) : (∃ row ∈ rows, row.chunkId = id) ↔ ∃ chunk ∈ chunks, chunk.1 = id := by
    have member := Finset.ext_iff.1 ids.2 (.str id)
    rw [List.mem_toFinset, List.mem_toFinset, (keys_chunksById chunks).2, List.mem_map] at member
    constructor
    · intro ⟨row, mem, is⟩
      have ⟨chunk, there, same⟩ := member.1 ⟨row, mem, by rw [is]⟩
      exact ⟨chunk, there, (Atom.str.inj same).symm⟩
    · intro ⟨chunk, mem, is⟩
      have ⟨row, there, same⟩ := member.2 ⟨chunk, mem, by rw [is]⟩
      exact ⟨row, there, Atom.str.inj same⟩
  -- The chunk that the loop compares each row with.
  have each : ∀ row ∈ rows, ∃ chunk, (row.chunkId, chunk) ∈ chunks ∧
      ∃ metadata, Agrees u manifest row metadata chunk := by
    intro row mem
    have ⟨chunk, there, is⟩ := (keys row.chunkId).1 ⟨row, mem, rfl⟩
    have inside : (row.chunkId, chunk.2) ∈ chunks := by
      rw [← is]
      exact there
    have found := (lookup_chunksById h.distinct).2 inside
    refine ⟨chunk.2, inside, ?_⟩
    exact agrees_of_checkRow found ((named chunk there).trans (by rw [is])) (h.rows row mem)
  choose! chunkOf inside agrees using each
  refine ⟨chunks.map (·.2), rows.map chunkOf, ?_, ?_, distinct, ?_⟩
  · rw [listed, List.map_map]
    rfl
  · have pairs : (rows.map fun row => (row.chunkId, chunkOf row)).Perm chunks := by
      have first : (rows.map fun row => (row.chunkId, chunkOf row)).Nodup := by
        refine List.Nodup.of_map Prod.fst ?_
        rw [List.map_map]
        exact distinct
      refine (List.perm_ext_iff_of_nodup first h.distinct.of_map).2 fun e => ?_
      rw [List.mem_map]
      constructor
      · intro ⟨row, mem, is⟩
        rw [← is]
        exact inside row mem
      · intro mem
        have ⟨row, there, is⟩ := (keys e.1).2 ⟨e, mem, rfl⟩
        refine ⟨row, there, ?_⟩
        exact List.inj_on_of_nodup_map h.distinct (inside row there) mem is
    have second := pairs.map Prod.snd
    rw [List.map_map] at second
    exact second
  · rw [List.forall₂_map_right_iff, List.forall₂_same]
    exact agrees

end

/-! ### Exceptions -/

/-- The model code and the document id of each chunk can be the key of a dict. -/
def HashableKeys (identity : Dict) : Prop :=
  ∀ items, identity.get "chunks" = .list items → ∀ chunk : Dict, .dict chunk ∈ items →
    (atom? (chunk.get "model_code")).isSome = true ∧ (atom? (chunk.get "document_id")).isSome = true

section
variable {u : Unicode} {profile : RagRuntimeProfile} {manifest : IndexManifest}
  {chunks : List (String × Dict)} {rows : List ReadonlyIndexRow} {exn : Exn} {chunk : Dict}

theorem require_avoids {holds : Bool} {reason : Reason} :
    Avoids (.builtin exn) (require holds reason) := Avoids.require nofun

theorem builtin_hashed {value : Value} (hashable : (atom? value).isSome = true) :
    ∃ key, builtin value.hashed = .ok key := by
  cases value with
  | atom a => exact ⟨a, rfl⟩
  | list _ | dict _ => cases hashable

theorem canonicalValid_avoids (hashable : (atom? (chunk.get "document_id")).isSome = true) :
    Avoids (.builtin exn) (canonicalValid u manifest chunk) := by
  have ⟨key, hashed⟩ := builtin_hashed hashable
  unfold canonicalValid documentHash
  dsimp only
  split
  · rw [hashed]
    exact Avoids.ok _
  · exact Avoids.ok _

theorem checkRow_avoids {expected : List (Atom × Dict)} {row : ReadonlyIndexRow}
    (found : lookup expected (.str row.chunkId) = some chunk)
    (hashable : (atom? (chunk.get "document_id")).isSome = true) :
    Avoids (.builtin exn) (checkRow u manifest expected row) := by
  unfold checkRow
  rw [found]
  dsimp only
  cases row.metadata.asDict? with
  | none => exact Avoids.error nofun
  | some metadata =>
      refine (canonicalValid_avoids hashable).bind fun valid _ => ?_
      refine require_avoids.bind fun _ _ => ?_
      refine require_avoids.bind fun _ _ => ?_
      refine require_avoids.bind fun _ _ => ?_
      exact require_avoids

theorem modelCodes_avoids
    (hashable : ∀ chunk ∈ chunks, (atom? (chunk.2.get "model_code")).isSome = true) :
    Avoids (.builtin exn) (modelCodes chunks) := by
  refine Avoids.mapM fun chunk mem => ?_
  have ⟨key, hashed⟩ := builtin_hashed (hashable chunk mem)
  rw [hashed]
  exact Avoids.ok key

theorem verdict_avoids {counts : Value}
    (hashable : ∀ chunk ∈ chunks, (atom? (chunk.2.get "model_code")).isSome = true ∧
      (atom? (chunk.2.get "document_id")).isSome = true) :
    Avoids (.builtin exn) (verdict u profile manifest counts chunks rows) := by
  refine require_avoids.bind fun _ lengths => ?_
  have distinct := (lengths_iff.1 (require_eq_ok.1 lengths)).1
  refine (modelCodes_avoids fun chunk mem => (hashable chunk mem).1).bind fun codes _ => ?_
  refine require_avoids.bind fun _ _ => ?_
  refine require_avoids.bind fun _ _ => ?_
  refine require_avoids.bind fun _ ids => ?_
  refine require_avoids.bind fun _ _ => ?_
  refine (Avoids.forM fun row mem => ?_).bind fun _ _ => Avoids.ok _
  have same := require_eq_ok.1 ids
  unfold sameIds at same
  rw [Bool.and_eq_true, decide_eq_true_iff, decide_eq_true_iff] at same
  have key : Atom.str row.chunkId ∈ (chunksById chunks).map (·.1) := by
    rw [← List.mem_toFinset, ← same.2, List.mem_toFinset]
    exact List.mem_map_of_mem mem
  have ⟨other, there, is⟩ := ((keys_chunksById chunks).2 _).1 key
  have found : lookup (chunksById chunks) (.str row.chunkId) = some other.2 := by
    rw [lookup_chunksById distinct, Atom.str.inj is]
    exact there
  exact checkRow_avoids found (hashable other there).2

theorem validate_avoids {identity : Dict} (hashable : HashableKeys identity) :
    Avoids (.builtin exn) (validateReadonlyIndex u profile manifest identity rows) := by
  rw [validateReadonlyIndex_eq]
  have runtime : Avoids (.builtin exn) (validateRuntimeManifest u profile manifest) := by
    unfold validateRuntimeManifest
    split
    · exact Avoids.ok ()
    · exact Avoids.error nofun
  refine runtime.bind fun _ _ => ?_
  refine require_avoids.bind fun _ _ => ?_
  cases found : canonicalChunks identity with
  | error failure =>
      unfold canonicalChunks at found
      split at found
      · rw [← Except.error.inj found]
        exact Avoids.error nofun
      · split at found
        · rw [← Except.error.inj found]
          exact Avoids.error nofun
        · cases found
  | ok chunks =>
      have ⟨listed, _⟩ := canonicalChunks_eq_ok found
      refine verdict_avoids fun chunk mem => ?_
      exact hashable _ listed chunk.2 (List.mem_map.2 ⟨chunk, mem, rfl⟩)

end

/-! ### The check -/

/-- The check reports only where rows and chunks correspond one to one and agree. The order of the
chunks does not matter for its outcome, and the order of the rows not for a report; a failure does
not depend on it either, unless it is that of the first row that is refused. The check raises no
foreign exception unless a chunk has a list or an object where the code needs a key. -/
theorem index_readiness (u : Unicode) (profile : RagRuntimeProfile) (manifest : IndexManifest)
    (identity : JsonObject) (rows : List ReadonlyIndexRow) :
    (HashableKeys identity.entries → ∀ failure,
      validateReadonlyIndex u profile manifest identity.entries rows = .error failure →
        failure.isConfigurationError = true) ∧
    (∀ report, validateReadonlyIndex u profile manifest identity.entries rows = .ok report →
      OneToOne u manifest identity.entries rows) ∧
    (∀ report more, validateReadonlyIndex u profile manifest identity.entries rows = .ok report →
      rows.Perm more →
        validateReadonlyIndex u profile manifest identity.entries more = .ok report) ∧
    (∀ failure, validateReadonlyIndex u profile manifest identity.entries rows = .error failure →
      (∀ more, rows.Perm more →
        validateReadonlyIndex u profile manifest identity.entries more = .error failure) ∨
      ∃ chunks before row after, canonicalChunks identity.entries = .ok chunks ∧
        rows = before ++ row :: after ∧
        (∀ other ∈ before, checkRow u manifest (chunksById chunks) other = .ok ()) ∧
        checkRow u manifest (chunksById chunks) row = .error failure) ∧
    ∀ items new, identity.entries.get "chunks" = .list items → items.Perm new →
      validateReadonlyIndex u profile manifest (withChunks identity.entries new) rows =
        validateReadonlyIndex u profile manifest identity.entries rows := by
  refine ⟨?_, ?_, ?_, fun failure failed => ?_, ?_⟩
  · intro hashable failure failed
    cases failure with
    | configuration _ | readiness _ => rfl
    | builtin exn => exact absurd failed (validate_avoids hashable)
  · intro report reported
    rw [validateReadonlyIndex_eq] at reported
    obtain ⟨_, _, reported⟩ := bind_eq_ok.1 reported
    obtain ⟨_, reported⟩ := require_bind_eq_ok.1 reported
    obtain ⟨chunks, canonical, reported⟩ := bind_eq_ok.1 reported
    have ⟨_, passes, _⟩ := verdict_eq_ok.1 reported
    exact passes.oneToOne canonical
  · intro report more reported perm
    rw [validateReadonlyIndex_eq] at reported ⊢
    obtain ⟨_, runtime, reported⟩ := bind_eq_ok.1 reported
    obtain ⟨header, reported⟩ := require_bind_eq_ok.1 reported
    obtain ⟨chunks, canonical, reported⟩ := bind_eq_ok.1 reported
    refine bind_eq_ok.2 ⟨(), runtime, require_bind_eq_ok.2 ⟨header, ?_⟩⟩
    exact bind_eq_ok.2 ⟨chunks, canonical, verdict_rows identity.json.get perm reported⟩
  · exact validate_failed (fun _ => identity.json.get) failed
  · intro items new listed perm
    exact validate_chunks identity listed perm

/-! ### Samples -/

theorem IsJson.mapping {entries : List (String × Value)} (distinct : (entries.map (·.1)).Nodup)
    (inside : ∀ e ∈ entries, IsJson e.2) : IsJson (mapping entries) := by
  refine .dict _ ?_ ?_ ?_
  · intro e mem
    have ⟨f, _, is⟩ := List.mem_map.1 mem
    exact ⟨f.1, by rw [← is]⟩
  · have keys := distinct.map fun _ _ same => Atom.str.inj same
    rw [List.map_map] at keys ⊢
    exact keys
  · intro e mem
    have ⟨f, there, is⟩ := List.mem_map.1 mem
    rw [← is]
    exact inside f there

namespace IndexSample

def digest (c : Char) : String := String.ofList (List.replicate 64 c)

def profile (chunkSet : String) (chunks : Nat) : RagRuntimeProfile :=
  ⟨{"W"}, "2.0.0", chunks, chunkSet, {"M"}⟩

def manifest (chunkSet : String) (chunks : Nat) : IndexManifest :=
  ⟨"BAAI/bge-m3", "5617a9f61b028005a4858fdac845db406aefb181", 1024, "exact_search", "2.0.0", chunks,
    chunkSet, [("M", digest 'a')]⟩

def chunk (id : String) (modelCode : Value) : List (String × Value) :=
  [("chunk_id", .str id), ("model_code", modelCode), ("product_generation", .str "D"),
    ("document_id", .str "M"), ("page_refs", .list [.atom (.int 1)]),
    ("source_file_sha256", .str (digest 'a')), ("chunk_text_sha256", .str (digest 'b')),
    ("verification_status", .str "TEXT_AND_VISUAL_VERIFIED")]

def entries (chunkSet : String) (ids : List String) (modelCode : Value) : List (String × Value) :=
  [("chunk_count", .atom (.int ids.length)), ("index_version", .str "2.0.0"),
    ("chunk_set_sha256", .str chunkSet),
    ("chunks", .list (ids.map fun id => mapping (chunk id modelCode))),
    ("model_chunk_counts", mapping [("W", .atom (.int ids.length))])]

theorem isJson_chunk {id : String} {modelCode : Value} (json : IsJson modelCode) :
    IsJson (mapping (chunk id modelCode)) := by
  refine .mapping (by simp [chunk]) fun e mem => ?_
  simp only [chunk, List.mem_cons, List.not_mem_nil, or_false] at mem
  rcases mem with rfl | rfl | rfl | rfl | rfl | rfl | rfl | rfl
  all_goals first
    | exact json
    | exact .atom _
    | exact .list _ fun item mem => by rw [List.mem_singleton.1 mem]; exact .atom _

def identity (chunkSet : String) (ids : List String) (modelCode : Value)
    (json : IsJson modelCode) : JsonObject where
  entries := (entries chunkSet ids modelCode).map fun e => (.str e.1, e.2)
  json := by
    refine .mapping (by simp [entries]) fun e mem => ?_
    simp only [entries, List.mem_cons, List.not_mem_nil, or_false] at mem
    rcases mem with rfl | rfl | rfl | rfl | rfl
    · exact .atom _
    · exact .atom _
    · exact .atom _
    · refine .list _ fun item mem => ?_
      have ⟨id, _, is⟩ := List.mem_map.1 mem
      rw [← is]
      exact isJson_chunk json
    · refine .mapping (List.nodup_singleton _) fun e mem => ?_
      rw [List.mem_singleton.1 mem]
      exact .atom _

def metadata (chunkSet : String) : Value :=
  mapping [("model_code", .str "W"), ("product_generation", .str "D"), ("document_id", .str "M"),
    ("page_refs", .list [.atom (.int 1)]), ("source_hash", .str (digest 'a')),
    ("embedding_model", .str "BAAI/bge-m3"),
    ("embedding_model_revision", .str "5617a9f61b028005a4858fdac845db406aefb181"),
    ("index_version", .str "2.0.0"), ("chunk_set_sha256", .str chunkSet),
    ("verification_status", .str "official_verified"), ("allowed_use", .bool true),
    ("retrieval_role", .str "SEARCH_CANDIDATE"), ("evidence_group_id", .str "G"),
    ("source_variant_id", .str "V"), ("parent_id", .str "P")]

def row (id : String) (dimension : Int) (metadata : Value) : ReadonlyIndexRow :=
  ⟨id, "W", "D", "official_verified", true, dimension, digest 'b', metadata⟩

def outcome (chunkSet : String) (ids : List String) (modelCode : Value)
    (rows : List ReadonlyIndexRow) : Except Failure Report :=
  validateReadonlyIndex .basic (profile chunkSet ids.length) (manifest chunkSet ids.length)
    ((entries chunkSet ids modelCode).map fun e => (.str e.1, e.2)) rows

end IndexSample

section
open IndexSample

theorem index_readiness_report : ∃ (identity : JsonObject) (rows more : List ReadonlyIndexRow)
    (report : Report), HashableKeys identity.entries ∧ rows.Perm more ∧
      validateReadonlyIndex .basic (profile (digest 'c') 2) (manifest (digest 'c') 2)
        identity.entries rows = .ok report ∧
      validateReadonlyIndex .basic (profile (digest 'c') 2) (manifest (digest 'c') 2)
        identity.entries more = .ok report ∧
      OneToOne .basic (manifest (digest 'c') 2) identity.entries rows := by
  let rows := [row "1" 1024 (metadata (digest 'c')), row "2" 1024 (metadata (digest 'c'))]
  have reported : (outcome (digest 'c') ["1", "2"] (.str "W") rows).isOk = true := by
    decide +kernel
  cases reports : outcome (digest 'c') ["1", "2"] (.str "W") rows with
  | error _ =>
      rw [reports] at reported
      cases reported
  | ok report =>
      have ⟨_, sound, ordered, _, _⟩ := index_readiness .basic (profile (digest 'c') 2)
        (manifest (digest 'c') 2) (identity (digest 'c') ["1", "2"] (.str "W") (.atom _)) rows
      unfold outcome at reports
      have perm : rows.Perm [row "2" 1024 (metadata (digest 'c')),
          row "1" 1024 (metadata (digest 'c'))] := .swap _ _ _
      refine ⟨identity (digest 'c') ["1", "2"] (.str "W") (.atom _), rows, _, report, ?_, perm,
        reports, ordered report _ reports perm, sound report reports⟩
      intro items listed chunk mem
      cases Value.list.inj listed
      have ⟨id, _, is⟩ := List.mem_map.1 mem
      cases is
      exact ⟨rfl, rfl⟩

/-- A list as a model code ends the check with a foreign exception; two rows that are refused for
different reasons are refused for the reason of the first; and where the manifest carries no digest
of the chunks, any text of a row passes for it. -/
theorem readiness_broken :
    (∃ (identity : JsonObject) (rows : List ReadonlyIndexRow),
      validateReadonlyIndex .basic (profile (digest 'c') 1) (manifest (digest 'c') 1)
        identity.entries rows = .error (.builtin .typeError)) ∧
    (∃ (identity : JsonObject) (rows more : List ReadonlyIndexRow), rows.Perm more ∧
      validateReadonlyIndex .basic (profile (digest 'c') 2) (manifest (digest 'c') 2)
        identity.entries rows = .error (.readiness .viewCanonicalIdentityMismatch) ∧
      validateReadonlyIndex .basic (profile (digest 'c') 2) (manifest (digest 'c') 2)
        identity.entries more = .error (.readiness .viewIndexIdentityMismatch)) ∧
    ∃ identity : JsonObject,
      (validateReadonlyIndex .basic (profile (digest 'z') 1) (manifest (digest 'z') 1)
        identity.entries [row "1" 1024 (metadata "other")]).isOk = true := by
  refine ⟨⟨identity (digest 'c') ["1"] (.list []) (.list _ nofun),
    [row "1" 1024 (metadata (digest 'c'))], ?_⟩,
    ⟨identity (digest 'c') ["1", "2"] (.str "W") (.atom _),
      [row "1" 1024 (mapping []), row "2" 512 (metadata (digest 'c'))],
      [row "2" 512 (metadata (digest 'c')), row "1" 1024 (mapping [])], .swap _ _ _, ?_, ?_⟩,
    identity (digest 'z') ["1"] (.str "W") (.atom _), ?_⟩
  · change outcome (digest 'c') ["1"] (.list []) _ = _
    decide +kernel
  · change outcome (digest 'c') ["1", "2"] (.str "W") _ = _
    decide +kernel
  · change outcome (digest 'c') ["1", "2"] (.str "W") _ = _
    decide +kernel
  · change (outcome (digest 'z') ["1"] (.str "W") _).isOk = true
    decide +kernel

end

end WaterCare.Ai.IndexReadiness
