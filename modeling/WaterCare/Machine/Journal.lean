import Mathlib.Data.List.Chain
import Mathlib.Data.List.Count
import Mathlib.Data.List.Nodup

/-!
The journal of a versioned state: an entry for each version, leading from the
state the entry before it led to. A quiet version keeps the state and has no entry.
-/

namespace Machine
variable {σ : Type*}

structure Entry (σ : Type*) where
  version : Nat
  source : Option σ
  target : σ

/-- The journal of a state that is in `s` at version `n`, with its quiet versions. -/
inductive Journal : List (Entry σ) → List Nat → Nat → σ → Prop
  | first (s : σ) : Journal [⟨1, none, s⟩] [] 1 s
  | next {entries : List (Entry σ)} {quiet : List Nat} {n : Nat} {s : σ} (t : σ) :
      Journal entries quiet n s → Journal (entries ++ [⟨n + 1, some s, t⟩]) quiet (n + 1) t
  | quiet {entries : List (Entry σ)} {quiet : List Nat} {n : Nat} {s : σ} :
      Journal entries quiet n s → Journal entries (quiet ++ [n + 1]) (n + 1) s

namespace Journal
variable {entries : List (Entry σ)} {quiet : List Nat} {n : Nat} {s : σ}

/-- The entries and the quiet versions divide the versions up among them. -/
theorem versions (journal : Journal entries quiet n s) :
    (entries.map (·.version) ++ quiet).Perm (List.range' 1 n) := by
  induction journal with
  | first s => exact .refl _
  | @next entries quiet n s t _ ih =>
      rw [List.range'_concat, List.map_append, List.append_assoc, Nat.one_mul, Nat.add_comm 1 n]
      have swap : (entries.map (·.version) ++ ([n + 1] ++ quiet)).Perm
          (entries.map (·.version) ++ (quiet ++ [n + 1])) :=
        .append_left _ List.perm_append_comm
      rw [← List.append_assoc _ quiet] at swap
      exact swap.trans (.append_right _ ih)
  | @quiet entries quiet n s _ ih =>
      rw [List.range'_concat, ← List.append_assoc, Nat.one_mul, Nat.add_comm 1 n]
      exact .append_right _ ih

theorem bounds (journal : Journal entries quiet n s) {e : Entry σ} (mem : e ∈ entries) :
    1 ≤ e.version ∧ e.version ≤ n := by
  have listed : e.version ∈ entries.map (·.version) ++ quiet :=
    List.mem_append_left _ (List.mem_map_of_mem mem)
  rw [journal.versions.mem_iff, List.mem_range'_1] at listed
  omega

/-- A version has exactly one entry, or it is quiet. -/
theorem one_entry (journal : Journal entries quiet n s) {v : Nat} (low : 1 ≤ v) (high : v ≤ n)
    (loud : v ∉ quiet) : (entries.filter fun e => decide (e.version = v)).length = 1 := by
  have counted : (entries.map (·.version) ++ quiet).count v = 1 := by
    rw [journal.versions.count_eq]
    refine List.count_eq_one_of_mem (List.nodup_range' 1) ?_
    rw [List.mem_range'_1]
    omega
  rw [List.count_append, List.count_eq_zero_of_not_mem loud, Nat.add_zero] at counted
  rw [← counted, List.count, List.countP_map, List.countP_eq_length_filter]
  rfl

theorem starts (journal : Journal entries quiet n s) :
    ∃ t rest, entries = ⟨1, none, t⟩ :: rest := by
  induction journal with
  | first s => exact ⟨s, [], rfl⟩
  | next t _ ih =>
      obtain ⟨u, rest, split⟩ := ih
      exact ⟨u, rest ++ [_], by rw [split, List.cons_append]⟩
  | quiet _ ih => exact ih

theorem ends (journal : Journal entries quiet n s) :
    ∃ older e, entries = older ++ [e] ∧ e.target = s := by
  induction journal with
  | first s => exact ⟨[], _, rfl, rfl⟩
  | next t _ _ => exact ⟨_, _, rfl, rfl⟩
  | quiet _ ih => exact ih

/-- An entry starts where the entry before it has ended, at a greater version. -/
theorem chained (journal : Journal entries quiet n s) :
    entries.IsChain fun e f => e.version < f.version ∧ f.source = some e.target := by
  induction journal with
  | first s => exact .singleton _
  | next t earlier ih =>
      obtain ⟨older, e, split, ends⟩ := earlier.ends
      refine ih.append (.singleton _) ?_
      intro f last g new
      rw [split, List.getLast?_concat] at last
      cases last
      cases new
      have high := (earlier.bounds (e := e) (by rw [split]; simp)).2
      exact ⟨Nat.lt_succ_of_le high, congrArg some ends.symm⟩
  | quiet _ ih => exact ih

end Journal
end Machine
