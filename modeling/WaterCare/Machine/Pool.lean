import Mathlib.Data.List.Basic

/-!
The tasks of a concurrent program, numbered in the order of their start. A step starts a task
or changes one, so a property of all tasks is kept when the step keeps it for the others and
establishes it for its own.
-/

namespace Machine.Pool
variable {α : Type*}

/-- Every task has the property, which may speak of its number. -/
def Each (P : Nat → α → Prop) (pool : List α) : Prop := ∀ i c, pool[i]? = some c → P i c

variable {P Q : Nat → α → Prop} {pool : List α} {i j : Nat} {c d : α}

theorem each_nil : Each P [] := by
  intro i c found
  cases found

theorem Each.mono (each : Each P pool) (keep : ∀ i c, P i c → Q i c) : Each Q pool :=
  fun i c found => keep i c (each i c found)

theorem set_self (found : pool[i]? = some c) : (pool.set i d)[i]? = some d := by
  have inside := (List.getElem?_eq_some_iff.1 found).1
  exact List.getElem?_set_self inside

theorem set_other (other : j ≠ i) : (pool.set i d)[j]? = pool[j]? := List.getElem?_set_ne other.symm

/-- After a change there is the changed task, and the others are as before. -/
theorem of_set (there : (pool.set i d)[j]? = some c) :
    j = i ∧ c = d ∨ j ≠ i ∧ pool[j]? = some c := by
  by_cases same : j = i
  · subst same
    have inside : j < (pool.set j d).length := (List.getElem?_eq_some_iff.1 there).1
    rw [List.length_set] at inside
    rw [List.getElem?_set_self inside] at there
    exact .inl ⟨rfl, (Option.some.inj there).symm⟩
  · rw [set_other same] at there
    exact .inr ⟨same, there⟩

/-- A change of one task that keeps what is read of it. -/
theorem map_set {β : Type*} {f : α → β} (found : pool[i]? = some c) (same : f d = f c) :
    (pool.set i d).map f = pool.map f := by
  refine List.ext_getElem? fun j => ?_
  rw [List.getElem?_map, List.getElem?_map]
  by_cases own : j = i
  · subst own
    rw [set_self found, found, Option.map_some, Option.map_some, same]
  · rw [set_other own]

/-- A task changes. -/
theorem Each.set (each : Each P pool) (own : Q i d) (keep : ∀ j c, j ≠ i → P j c → Q j c) :
    Each Q (pool.set i d) := by
  intro j c there
  rcases of_set there with ⟨rfl, rfl⟩ | ⟨other, old⟩
  · exact own
  · exact keep j c other (each j c old)

/-- After a start there is the new task, and the others are as before. -/
theorem of_spawn (there : (pool ++ [d])[i]? = some c) :
    pool[i]? = some c ∨ i = pool.length ∧ c = d := by
  by_cases old : i < pool.length
  · rw [List.getElem?_append_left old] at there
    exact .inl there
  · have inside := (List.getElem?_eq_some_iff.1 there).1
    rw [List.length_append, List.length_singleton] at inside
    obtain rfl : i = pool.length := by omega
    rw [List.getElem?_concat_length] at there
    exact .inr ⟨rfl, (Option.some.inj there).symm⟩

/-- A task starts. -/
theorem Each.spawn (each : Each P pool) (own : Q pool.length d) (keep : ∀ j c, P j c → Q j c) :
    Each Q (pool ++ [d]) := by
  intro j c found
  rcases of_spawn found with old | ⟨rfl, rfl⟩
  · exact keep j c (each j c old)
  · exact own

theorem spawn_old (found : pool[i]? = some c) : (pool ++ [d])[i]? = some c := by
  have inside := (List.getElem?_eq_some_iff.1 found).1
  rwa [List.getElem?_append_left inside]

end Machine.Pool
