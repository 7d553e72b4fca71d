import Mathlib.Data.List.Basic

/-!
Locks held by the workers of a list until the end of their transactions. A worker is known
by its place in the list; it may take keys that nobody else holds.
-/

namespace Machine
variable {ω κ : Type*} (locks : ω → List κ)

/-- The worker at a place of the list holds the key. -/
def Holds (workers : List ω) (k : Nat) (key : κ) : Prop :=
  ∃ worker, workers[k]? = some worker ∧ key ∈ locks worker

/-- No key is held at two places. -/
def Exclusive (workers : List ω) : Prop :=
  ∀ ⦃j k : Nat⦄ ⦃key : κ⦄, Holds locks workers j key → Holds locks workers k key → j = k

/-- Nobody at another place holds one of the keys. -/
def available [DecidableEq κ] (workers : List ω) (k : Nat) (keys : List κ) : Bool :=
  (workers.eraseIdx k).all fun other => keys.all fun key => !(locks other).contains key

section
variable {locks} {workers : List ω} {worker after : ω} {j k : Nat} {key : κ}

theorem holds_set (holds : Holds locks (workers.set k after) j key) :
    j = k ∧ key ∈ locks after ∨ j ≠ k ∧ Holds locks workers j key := by
  have ⟨found, there, mem⟩ := holds
  rw [List.getElem?_set] at there
  by_cases same : k = j
  · rw [if_pos same] at there
    split at there
    · rw [← Option.some.inj there] at mem
      exact .inl ⟨same.symm, mem⟩
    · cases there
  · rw [if_neg same] at there
    exact .inr ⟨fun equal => same equal.symm, found, there, mem⟩

theorem available_holds [DecidableEq κ] {keys : List κ} (free : available locks workers k keys = true)
    (mem : key ∈ keys) (holds : Holds locks workers j key) : j = k := by
  by_contra other
  have ⟨found, there, held⟩ := holds
  have listed : found ∈ workers.eraseIdx k :=
    List.mem_eraseIdx_iff_getElem?.2 ⟨j, other, there⟩
  have open_ := List.all_eq_true.1 (List.all_eq_true.1 free found listed) key mem
  simp [held] at open_

namespace Exclusive

/-- A step keeps the locks apart if it takes only keys that nobody else holds. -/
theorem set (exclusive : Exclusive locks workers) (there : workers[k]? = some worker)
    (taken : ∀ key ∈ locks after, key ∈ locks worker ∨ ∀ j, Holds locks workers j key → j = k) :
    Exclusive locks (workers.set k after) := by
  have own {i : Nat} {key : κ} (mem : key ∈ locks after) (held : Holds locks workers i key) :
      i = k := by
    cases taken key mem with
    | inl before => exact exclusive held ⟨worker, there, before⟩
    | inr free => exact free i held
  intro i j key mine yours
  cases holds_set mine with
  | inl new =>
    cases holds_set yours with
    | inl new' => exact new.1.trans new'.1.symm
    | inr old => exact absurd (own new.2 old.2) old.1
  | inr old =>
    cases holds_set yours with
    | inl new => exact absurd (own new.2 old.2) old.1
    | inr old' => exact exclusive old.2 old'.2

/-- Locks that are given up leave the others apart. -/
theorem of_holds (exclusive : Exclusive locks workers) {after : List ω}
    (sub : ∀ {j : Nat} {key : κ}, Holds locks after j key → Holds locks workers j key) :
    Exclusive locks after :=
  fun _ _ _ mine yours => exclusive (sub mine) (sub yours)

/-- A worker that has no lock yet can be added. -/
theorem append (exclusive : Exclusive locks workers) {fresh : ω} (free : locks fresh = []) :
    Exclusive locks (workers ++ [fresh]) := by
  have older {i : Nat} {key : κ} (held : Holds locks (workers ++ [fresh]) i key) :
      Holds locks workers i key := by
    have ⟨found, there, mem⟩ := held
    rw [List.getElem?_append] at there
    split at there
    · exact ⟨found, there, mem⟩
    · rw [List.mem_singleton.1 (List.mem_of_getElem? there), free] at mem
      exact absurd mem List.not_mem_nil
  intro i j key mine yours
  exact exclusive (older mine) (older yours)

end Exclusive
end
end Machine
