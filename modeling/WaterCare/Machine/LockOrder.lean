import WaterCare.Machine.Locks
import WaterCare.Machine.Run

/-!
Transactions that lock rows one by one and keep them to their end. Where each of them locks a
given root row first or second, or no more than one row, a cycle of waits needs two open
transactions that lock the root and another row in opposite orders.
-/

namespace Machine
variable {α ρ : Type*}

/-- An open transaction: the rows it has locked and the rows it has still to lock. -/
structure Locking (ρ : Type*) where
  taken : List ρ
  pending : List ρ

/-- The rows of a transaction in the order of their locks. -/
def Locking.path (t : Locking ρ) : List ρ := t.taken ++ t.pending

inductive LockLabel (α ρ : Type*)
  | opened (operation : α) (path : List ρ)
  | acquire (k : Nat)
  | finish (k : Nat)

/-- One step of the transactions: one is opened, locks its next row if nobody else holds it, or
commits or rolls back and gives its locks up. -/
inductive LockStep [DecidableEq ρ] (begins : α → List ρ → Prop) :
    List (Locking ρ) → LockLabel α ρ → List (Locking ρ) → Prop
  | opened {s : List (Locking ρ)} {operation : α} {path : List ρ} (h : begins operation path) :
      LockStep begins s (.opened operation path) (s ++ [⟨[], path⟩])
  | acquire {s : List (Locking ρ)} {k : Nat} {taken rest : List ρ} {row : ρ}
      (there : s[k]? = some ⟨taken, row :: rest⟩)
      (free : available Locking.taken s k [row] = true) :
      LockStep begins s (.acquire k) (s.set k ⟨taken ++ [row], rest⟩)
  | finish {s : List (Locking ρ)} {k : Nat} {t : Locking ρ} (there : s[k]? = some t) :
      LockStep begins s (.finish k) (s.set k ⟨[], []⟩)

/-- The transaction at the first place is blocked by the one at the second place. -/
def WaitsFor (s : List (Locking ρ)) (j k : Nat) : Prop :=
  j ≠ k ∧ ∃ taken row rest, s[j]? = some ⟨taken, row :: rest⟩ ∧ Holds Locking.taken s k row

/-- The row `a` is locked before the row `b` is locked for the first time. -/
def LocksBefore (a b : ρ) (path : List ρ) : Prop :=
  ∃ before after, path = before ++ b :: after ∧ a ∈ before ∧ b ∉ before

/-- The first path locks a row before the root, the second one after it. -/
def Opposed (root : ρ) (p q : List ρ) : Prop :=
  ∃ row, LocksBefore row root p ∧ LocksBefore root row q

/-- A path of one row at most, or with the root in the first or the second place. -/
def Shaped (root : ρ) (path : List ρ) : Prop :=
  path.length ≤ 1 ∨ ∃ rest, path = root :: rest ∨ ∃ first, path = first :: root :: rest

/-- No transaction is opened next to one that is opposed to it. -/
def Orderly (root : ρ) (s : List (Locking ρ)) : LockLabel α ρ → Prop
  | .opened _ path => ∀ t ∈ s, ¬Opposed root path t.path ∧ ¬Opposed root t.path path
  | .acquire _ | .finish _ => True

/-- The invariant of an orderly run. -/
structure Ordered (root : ρ) (s : List (Locking ρ)) : Prop where
  exclusive : Exclusive Locking.taken s
  shaped : ∀ t ∈ s, Shaped root t.path
  unopposed : ∀ (j k : Nat) (t u : Locking ρ), s[j]? = some t → s[k]? = some u → j ≠ k →
    ¬Opposed root t.path u.path

section
variable {root row : ρ} {s t : List (Locking ρ)} {j k l : Nat} {worker after : Locking ρ}

theorem not_opposed_nil_left {q : List ρ} : ¬Opposed root [] q := by
  intro ⟨row, ⟨before, rest, empty, _⟩, _⟩
  simp at empty

theorem not_opposed_nil_right {p : List ρ} : ¬Opposed root p [] := by
  intro ⟨row, _, before, rest, empty, _⟩
  simp at empty

/-- What a place of a changed list holds is the new transaction or an old one. -/
theorem getElem?_set_cases {u : Locking ρ} (found : (s.set k after)[j]? = some u) :
    (j = k ∧ u = after) ∨ (j ≠ k ∧ s[j]? = some u) := by
  rw [List.getElem?_set] at found
  by_cases same : k = j
  · rw [if_pos same] at found
    split at found
    · exact .inl ⟨same.symm, (Option.some.inj found).symm⟩
    · cases found
  · rw [if_neg same] at found
    exact .inr ⟨fun equal => same equal.symm, found⟩

namespace Ordered

/-- A transaction that goes on with its path, or ends. -/
theorem set (ordered : Ordered root s) (there : s[k]? = some worker)
    (exclusive : Exclusive Locking.taken (s.set k after))
    (goes : after.path = worker.path ∨ after.path = []) : Ordered root (s.set k after) := by
  have known {i : Nat} {u : Locking ρ} (found : (s.set k after)[i]? = some u) :
      u.path = [] ∨ ∃ old, s[i]? = some old ∧ u.path = old.path := by
    rcases getElem?_set_cases found with ⟨rfl, rfl⟩ | ⟨_, old⟩
    · cases goes with
      | inl same => exact .inr ⟨worker, there, same⟩
      | inr ended => exact .inl ended
    · exact .inr ⟨u, old, rfl⟩
  refine ⟨exclusive, fun u mem => ?_, fun i j t u first second other => ?_⟩
  · have ⟨i, found⟩ := List.mem_iff_getElem?.1 mem
    rcases known found with ended | ⟨old, before, same⟩
    · rw [ended]
      exact .inl (Nat.zero_le _)
    · rw [same]
      exact ordered.shaped old (List.mem_of_getElem? before)
  · rcases known first with ended | ⟨t', before, same⟩
    · rw [ended]
      exact not_opposed_nil_left
    · rcases known second with ended | ⟨u', before', same'⟩
      · rw [ended]
        exact not_opposed_nil_right
      · rw [same, same']
        exact ordered.unopposed i j t' u' before before' other

theorem step [DecidableEq ρ] {begins : α → List ρ → Prop} {e : LockLabel α ρ}
    (ordered : Ordered root s) (shape : ∀ operation path, begins operation path → Shaped root path)
    (orderly : Orderly root s e) (step : LockStep begins s e t) : Ordered root t := by
  cases step with
  | @opened operation path h =>
      have place {i : Nat} {u : Locking ρ} (found : (s ++ [⟨[], path⟩])[i]? = some u) :
          s[i]? = some u ∨ (i = s.length ∧ u = ⟨[], path⟩) := by
        rw [List.getElem?_append] at found
        split at found
        · exact .inl found
        · have there := List.getElem?_eq_some_iff.1 found
          have ⟨short, same⟩ := there
          simp only [List.length_singleton, List.getElem_singleton] at short same
          exact .inr ⟨by omega, same.symm⟩
      refine ⟨ordered.exclusive.append rfl, fun u mem => ?_, fun i j t u first second other => ?_⟩
      · rcases List.mem_append.1 mem with old | new
        · exact ordered.shaped u old
        · rw [List.mem_singleton.1 new]
          exact shape operation path h
      · rcases place first with old | ⟨last, rfl⟩
        · rcases place second with old' | ⟨last', rfl⟩
          · exact ordered.unopposed i j t u old old' other
          · exact (orderly t (List.mem_of_getElem? old)).2
        · rcases place second with old' | ⟨last', rfl⟩
          · exact (orderly u (List.mem_of_getElem? old')).1
          · exact absurd (last.trans last'.symm) other
  | @acquire k taken rest row there free =>
      refine ordered.set there (ordered.exclusive.set there fun key mem => ?_) (.inl ?_)
      · rcases List.mem_append.1 mem with before | new
        · exact .inl before
        · refine .inr fun i held => ?_
          rw [List.mem_singleton.1 new] at held
          exact available_holds free List.mem_cons_self held
      · simp [Locking.path]
  | finish there =>
      refine ordered.set there (ordered.exclusive.set there fun key mem => ?_) (.inr rfl)
      exact absurd mem List.not_mem_nil

/-- A transaction that holds a row and waits holds the root or waits for it. -/
theorem root_first (ordered : Ordered root s) {taken rest : List ρ}
    (there : s[j]? = some ⟨taken, row :: rest⟩) (some' : taken ≠ []) :
    root ∈ taken ∨ row = root := by
  have shaped := ordered.shaped _ (List.mem_of_getElem? there)
  cases taken with
  | nil => exact absurd rfl some'
  | cons a others =>
      rcases shaped with short | ⟨tail, first | ⟨b, second⟩⟩
      · simp [Locking.path] at short
      · exact .inl (by simp [(List.cons.inj first).1])
      · cases others with
        | nil => exact .inr (List.cons.inj (List.cons.inj second).2).1
        | cons c _ => exact .inl (by simp [(List.cons.inj (List.cons.inj second).2).1])

theorem waits_root (ordered : Ordered root s) (waits : WaitsFor s j k)
    (holding : ∃ key, Holds Locking.taken s j key) (without : ¬Holds Locking.taken s j root) :
    Holds Locking.taken s k root := by
  have ⟨_, taken, row, rest, there, held⟩ := waits
  have ⟨key, found, there', mem⟩ := holding
  cases Option.some.inj (there.symm.trans there')
  rcases ordered.root_first there (List.ne_nil_of_mem mem) with own | next
  · exact absurd ⟨_, there, own⟩ without
  · rwa [next] at held

/-- Two transactions do not wait for each other. -/
theorem no_pair (ordered : Ordered root s) (first : WaitsFor s j k) (second : WaitsFor s k j)
    (own : Holds Locking.taken s j root) : False := by
  have ⟨other, taken, row, rest, there, held⟩ := first
  have ⟨_, taken', row', rest', there', _⟩ := second
  have without : ¬Holds Locking.taken s k root := fun both => other (ordered.exclusive own both)
  have ⟨found, same, mem⟩ := held
  cases Option.some.inj (there'.symm.trans same)
  have ⟨found, same, root_mem⟩ := own
  cases Option.some.inj (there.symm.trans same)
  have free : row ∉ taken := fun mem => other (ordered.exclusive ⟨_, there, mem⟩ held)
  have next : row' = root := by
    refine (ordered.root_first there' (List.ne_nil_of_mem mem)).resolve_left ?_
    exact fun mem' => without ⟨_, there', mem'⟩
  refine ordered.unopposed k j _ _ there' there second.1 ⟨row, ?_, ?_⟩
  · refine ⟨taken', rest', ?_, mem, fun mem' => without ⟨_, there', mem'⟩⟩
    rw [← next]
    rfl
  · exact ⟨taken, rest, rfl, root_mem, free⟩

/-- No transaction waits for itself through others. -/
theorem no_cycle (ordered : Ordered root s) : ¬∃ j, Relation.TransGen (WaitsFor s) j j := by
  intro ⟨j, cycle⟩
  -- every place the cycle reaches waits again, so there are three more edges to look at
  have onwards {i : Nat} (reaches : Relation.ReflTransGen (WaitsFor s) i j) :
      ∃ k, WaitsFor s i k ∧ Relation.ReflTransGen (WaitsFor s) k j := by
    rcases Relation.ReflTransGen.cases_head reaches with rfl | edge
    · exact Relation.TransGen.head'_iff.1 cycle
    · exact edge
  have holds {i k : Nat} (waits : WaitsFor s i k) : ∃ key, Holds Locking.taken s k key := by
    have ⟨_, _, row, _, _, held⟩ := waits
    exact ⟨row, held⟩
  have ⟨k, toK, fromK⟩ := onwards .refl
  have ⟨l, toL, fromL⟩ := onwards fromK
  have ⟨m, toM, fromM⟩ := onwards fromL
  have ⟨n, toN, _⟩ := onwards fromM
  by_cases own : Holds Locking.taken s k root
  · have without : ¬Holds Locking.taken s l root :=
      fun both => toL.1 (ordered.exclusive own both)
    have back := ordered.exclusive (ordered.waits_root toM (holds toL) without) own
    rw [back] at toM
    exact ordered.no_pair toL toM own
  · have own' := ordered.waits_root toL (holds toK) own
    have without : ¬Holds Locking.taken s m root :=
      fun both => toM.1 (ordered.exclusive own' both)
    have back := ordered.exclusive (ordered.waits_root toN (holds toM) without) own'
    rw [back] at toN
    exact ordered.no_pair toM toN own'

end Ordered

/-- In an orderly run no state has a cycle of waits. -/
theorem run_no_cycle [DecidableEq ρ] {begins : α → List ρ → Prop} {labels : List (LockLabel α ρ)}
    (shape : ∀ operation path, begins operation path → Shaped root path)
    (run : Run (Restrict (Orderly root) (LockStep begins)) [] labels s) :
    ¬∃ j, Relation.TransGen (WaitsFor s) j j := by
  refine (run.invariant (fun _ _ _ ordered step => ?_) ?_ : Ordered root s).no_cycle
  · exact ordered.step shape step.1 step.2
  · exact ⟨fun _ _ _ held => absurd held.choose_spec.1 (by simp),
      fun _ mem => absurd mem List.not_mem_nil, fun _ _ _ _ found => by simp at found⟩

end
end Machine
