import Mathlib.Data.Finset.Card
import Mathlib.Data.List.Pairwise

/-!
A table in the order of its last uses, with the log of all uses, newest first. When entries leave
the table only from its old end and only while it is too long, a key that has left it has been
followed by as many other keys as the table may hold.
-/

namespace Machine.Recency
variable {κ α : Type*} [DecidableEq κ]

/-- The uses since the last one of a key. -/
def since (k : κ) (log : List κ) : List κ := log.takeWhile (· ≠ k)

/-- `OrderedDict.move_to_end`, in a table from its oldest entry to its newest. -/
def moveToEnd (k : κ) (table : List (κ × α)) : List (κ × α) :=
  table.filter (·.1 ≠ k) ++ table.filter (·.1 = k)

/-- Entries leave from the old end while there are too many and the oldest may leave. -/
def evict (limit : Nat) (done : α → Bool) : List (κ × α) → List (κ × α)
  | [] => []
  | e :: rest => if limit < (e :: rest).length ∧ done e.2 = true then evict limit done rest
      else e :: rest

/-- The keys stand in the order of their last uses. -/
structure Ordered (log keys : List κ) : Prop where
  nodup : keys.Nodup
  used : keys ⊆ log
  later : keys.Pairwise fun k k' => k' ∈ since k log

/-- A key that has left the table has been followed by as many others. -/
def Followed (limit : Nat) (log keys : List κ) : Prop :=
  ∀ k ∈ log, k ∉ keys → limit ≤ (since k log).toFinset.card

variable {k k' : κ} {log keys : List κ} {limit : Nat} {table : List (κ × α)} {done : α → Bool}
  {e : κ × α}

theorem since_self : since k (k :: log) = [] := by simp [since]

theorem since_other (other : k' ≠ k) : since k (k' :: log) = k' :: since k log := by
  simp [since, other]

theorem not_mem_since : k ∉ since k log := by
  induction log with
  | nil => exact List.not_mem_nil
  | cons x older ih =>
      by_cases own : x = k
      · subst own
        rw [since_self]
        exact List.not_mem_nil
      · rw [since_other own]
        intro mem
        exact ih ((List.mem_cons.1 mem).resolve_left (Ne.symm own))

/-- A further use is one since the last use of every other key. -/
theorem since_cons (other : k' ≠ k) : since k log ⊆ since k (k' :: log) := by
  rw [since_other other]
  exact List.subset_cons_self _ _

/-- The last use of a used key, and the uses before it. -/
theorem since_eq_append (used : k ∈ log) : ∃ older, log = since k log ++ k :: older := by
  induction log with
  | nil => cases used
  | cons x older ih =>
      by_cases own : x = k
      · subst own
        rw [since_self]
        exact ⟨older, rfl⟩
      · obtain ⟨rest, split⟩ := ih ((List.mem_cons.1 used).resolve_left (Ne.symm own))
        rw [since_other own]
        exact ⟨rest, congrArg (x :: ·) split⟩

/-! ### Keys in order -/

theorem Ordered.nil : Ordered (κ := κ) log [] where
  nodup := List.nodup_nil
  used := List.nil_subset _
  later := List.Pairwise.nil

theorem Ordered.tail (h : Ordered log (k :: keys)) : Ordered log keys where
  nodup := h.nodup.of_cons
  used _ mem := h.used (List.mem_cons_of_mem _ mem)
  later := h.later.of_cons

/-- The last use of one key moves it to the end. -/
theorem Ordered.use (h : Ordered log keys) :
    Ordered (k :: log) (keys.filter (· ≠ k) ++ [k]) where
  nodup := by
    refine (h.nodup.filter _).append (List.nodup_singleton k) ?_
    intro x mem last
    rw [List.mem_singleton.1 last] at mem
    simp at mem
  used := by
    intro x mem
    rcases List.mem_append.1 mem with old | last
    · exact List.mem_cons_of_mem _ (h.used (List.mem_of_mem_filter old))
    · rw [List.mem_singleton.1 last]
      exact List.mem_cons_self
  later := by
    have other {x : κ} (mem : x ∈ keys.filter (· ≠ k)) : k ≠ x := by
      have := List.of_mem_filter mem
      exact fun same => by simp [same] at this
    refine List.pairwise_append.2 ⟨?_, List.pairwise_singleton _ _, ?_⟩
    · refine (h.later.filter _).imp_of_mem ?_
      intro x y memX _ late
      exact since_cons (other memX) late
    · intro x mem y last
      rw [List.mem_singleton.1 last, since_other (other mem)]
      exact List.mem_cons_self

/-- The oldest of too many keys has been followed by all the others. -/
theorem Ordered.oldest (h : Ordered log (k :: keys)) (long : limit ≤ keys.length) :
    limit ≤ (since k log).toFinset.card := by
  have distinct : keys.toFinset.card = keys.length := List.toFinset_card_of_nodup h.tail.nodup
  have followed : keys.toFinset ⊆ (since k log).toFinset := by
    intro x mem
    rw [List.mem_toFinset] at mem ⊢
    exact (List.pairwise_cons.1 h.later).1 x mem
  have := Finset.card_le_card followed
  omega

/-! ### Keys that have left -/

theorem Followed.nil : Followed limit ([] : List κ) keys := by
  intro k used
  cases used

theorem Followed.use (h : Followed limit log keys) :
    Followed limit (k :: log) (keys.filter (· ≠ k) ++ [k]) := by
  intro x used left
  have other : k ≠ x := by
    rintro rfl
    exact left (List.mem_append_right _ (List.mem_singleton_self _))
  have used' : x ∈ log := (List.mem_cons.1 used).resolve_left (Ne.symm other)
  have left' : x ∉ keys := by
    intro mem
    exact left (List.mem_append_left _ (List.mem_filter.2 ⟨mem, by simpa using other.symm⟩))
  refine (h x used' left').trans (Finset.card_le_card ?_)
  intro y mem
  rw [List.mem_toFinset] at mem ⊢
  exact since_cons other mem

/-- The oldest of too many keys may leave. -/
theorem Followed.leave (h : Followed limit log (k :: keys)) (ordered : Ordered log (k :: keys))
    (long : limit ≤ keys.length) : Followed limit log keys := by
  intro x used left
  by_cases own : x = k
  · subst own
    exact ordered.oldest long
  · exact h x used fun mem => left ((List.mem_cons.1 mem).resolve_left own)

/-! ### Tables -/

theorem keys_moveToEnd (nodup : (table.map Prod.fst).Nodup) (mem : k ∈ table.map Prod.fst) :
    (moveToEnd k table).map Prod.fst = (table.map Prod.fst).filter (· ≠ k) ++ [k] := by
  have rest : (table.filter (·.1 ≠ k)).map Prod.fst = (table.map Prod.fst).filter (· ≠ k) := by
    rw [List.filter_map]
    rfl
  have own : (table.filter (·.1 = k)).map Prod.fst = [k] := by
    have same : (table.filter (·.1 = k)).map Prod.fst = (table.map Prod.fst).filter (· = k) := by
      rw [List.filter_map]
      rfl
    rw [same, List.filter_eq, List.count_eq_one_of_mem nodup mem]
    rfl
  unfold moveToEnd
  rw [List.map_append, rest, own]

theorem mem_moveToEnd : e ∈ moveToEnd k table ↔ e ∈ table := by
  unfold moveToEnd
  simp only [List.mem_append, List.mem_filter, ne_eq, decide_not, Bool.not_eq_eq_eq_not,
    Bool.not_true, decide_eq_false_iff_not, decide_eq_true_eq]
  by_cases own : e.1 = k
  · simp [own]
  · simp [own]

omit [DecidableEq κ] in
theorem evict_subset : ∀ {e : κ × α}, e ∈ evict limit done table → e ∈ table := by
  intro e
  induction table with
  | nil => exact id
  | cons first rest ih =>
      intro mem
      unfold evict at mem
      split at mem
      · exact List.mem_cons_of_mem _ (ih mem)
      · exact mem

omit [DecidableEq κ] in
/-- What may not leave stays. -/
theorem mem_evict (mem : e ∈ table) (undone : done e.2 = false) : e ∈ evict limit done table := by
  induction table with
  | nil => cases mem
  | cons first rest ih =>
      unfold evict
      split
      · rename_i leaves
        rcases List.mem_cons.1 mem with rfl | later
        · rw [undone] at leaves
          cases leaves.2
        · exact ih later
      · exact mem

theorem Ordered.evict (h : Ordered log (table.map Prod.fst)) :
    Ordered log ((evict limit done table).map Prod.fst) := by
  induction table with
  | nil => exact h
  | cons first rest ih =>
      unfold Recency.evict
      split
      · exact ih h.tail
      · exact h

theorem Followed.evict (h : Followed limit log (table.map Prod.fst))
    (ordered : Ordered log (table.map Prod.fst)) :
    Followed limit log ((evict limit done table).map Prod.fst) := by
  induction table with
  | nil => exact h
  | cons first rest ih =>
      unfold Recency.evict
      split
      · rename_i leaves
        refine ih (h.leave ordered ?_) ordered.tail
        rw [List.length_map]
        exact Nat.lt_succ_iff.1 leaves.1
      · exact h

end Machine.Recency
