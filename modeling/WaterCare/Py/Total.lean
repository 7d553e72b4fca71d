import WaterCare.Py.Audit

/-!
Checkers that raise nothing. `Returns x a` says that the checker gets to its end with `a`,
whatever it reports, and `Total x` that it gets there at all.
-/

namespace Py.Audit
variable {α β : Type}

/-- The checker returns `a`, whatever it reports. -/
def Returns (x : Audit α) (a : α) : Prop := ∃ messages, x = .ok (a, messages)

/-- The checker raises nothing. -/
def Total (x : Audit α) : Prop := ∃ a, Returns x a

theorem Returns.unique {x : Audit α} {a b : α} (h : Returns x a) (h' : Returns x b) : a = b := by
  have ⟨_, eq⟩ := h
  have ⟨_, eq'⟩ := h'
  exact (Prod.mk.inj (Except.ok.inj (eq.symm.trans eq'))).1

theorem returns_pure (a : α) : Returns (pure a) a := ⟨[], rfl⟩

theorem returns_bind {x : Audit α} {f : α → Audit β} {b : β} :
    Returns (x >>= f) b ↔ ∃ a, Returns x a ∧ Returns (f a) b := by
  change (∃ messages, andThen x f = .ok (b, messages)) ↔ _
  constructor
  · intro ⟨messages, eq⟩
    unfold andThen at eq
    split at eq
    · exact nomatch eq
    · rename_i a before
      split at eq
      · exact nomatch eq
      · rename_i c after result
        have same : c = b := (Prod.mk.inj (Except.ok.inj eq)).1
        exact ⟨a, ⟨before, rfl⟩, after, same ▸ result⟩
  · intro ⟨a, ⟨before, eq⟩, after, result⟩
    refine ⟨before ++ after, ?_⟩
    rw [eq]
    unfold andThen
    dsimp only
    rw [result]

theorem Total.pure (a : α) : Total (pure a) := ⟨a, returns_pure a⟩

theorem Total.bind {x : Audit α} {f : α → Audit β} (first : Total x)
    (next : ∀ a, Returns x a → Total (f a)) : Total (x >>= f) := by
  have ⟨a, returned⟩ := first
  have ⟨b, result⟩ := next a returned
  exact ⟨b, returns_bind.2 ⟨a, returned, result⟩⟩

theorem Total.next {x : Audit α} {f : α → Audit β} (first : Total x) (next : ∀ a, Total (f a)) :
    Total (x >>= f) := first.bind fun a _ => next a

theorem Returns.total {x : Audit α} {a : α} (h : Returns x a) : Total x := ⟨a, h⟩

/-- A step that returns `a` for sure is passed over. -/
theorem total_bind_returns {x : Audit α} {f : α → Audit β} {a : α} (returned : Returns x a) :
    Total (x >>= f) ↔ Total (f a) := by
  refine ⟨fun ⟨b, result⟩ => ?_, fun ⟨b, result⟩ => ⟨b, returns_bind.2 ⟨a, returned, result⟩⟩⟩
  have ⟨a', first, result⟩ := returns_bind.1 result
  exact ⟨b, returned.unique first ▸ result⟩

theorem total_bind_unit {x : Audit Unit} {f : Unit → Audit β} :
    Total (x >>= f) ↔ Total x ∧ Total (f ()) := by
  refine ⟨fun ⟨b, result⟩ => ?_, fun ⟨first, next⟩ => first.bind fun _ _ => next⟩
  have ⟨_, first, result⟩ := returns_bind.1 result
  exact ⟨⟨_, first⟩, b, result⟩

theorem Total.report (message : String) : Total (report message) := ⟨(), [message], rfl⟩

theorem Total.reportIf (b : Bool) (message : String) : Total (reportIf b message) := by
  cases b
  · exact Total.pure ()
  · exact Total.report message

theorem returns_liftExn {x : Except Exn α} {a : α} : Returns (liftExn x) a ↔ x = .ok a := by
  cases x with
  | error e => exact iff_of_false (fun ⟨_, eq⟩ => nomatch eq) nofun
  | ok b =>
    refine ⟨fun ⟨_, eq⟩ => ?_, fun eq => ⟨[], congrArg (Except.map fun a => (a, [])) eq⟩⟩
    exact congrArg Except.ok (Prod.mk.inj (Except.ok.inj eq)).1

theorem total_liftExn {x : Except Exn α} : Total (liftExn x) ↔ ∃ a, x = .ok a :=
  exists_congr fun _ => returns_liftExn

theorem total_forEach {f : α → Audit Unit} {xs : List α} :
    Total (forEach f xs) ↔ ∀ x ∈ xs, Total (f x) := by
  induction xs with
  | nil => exact iff_of_true (Total.pure ()) fun _ mem => absurd mem List.not_mem_nil
  | cons x xs ih => rw [forEach, total_bind_unit, ih, List.forall_mem_cons]

theorem Total.forEach {f : α → Audit Unit} {xs : List α} (each : ∀ x, Total (f x)) :
    Total (forEach f xs) := total_forEach.2 fun x _ => each x

theorem Total.foldIdx {f : Nat → β → α → Audit β} {xs : List α} {index : Nat} {acc : β}
    (each : ∀ i acc, ∀ x ∈ xs, Total (f i acc x)) : Total (foldIdx f index acc xs) := by
  induction xs generalizing index acc with
  | nil => exact Total.pure acc
  | cons x xs ih =>
    refine (each index acc x List.mem_cons_self).bind fun next _ => ?_
    exact ih fun i acc y mem => each i acc y (List.mem_cons_of_mem x mem)

/-- A loop whose steps are total whatever the accumulator. -/
theorem total_foldIdx {f : Nat → β → α → Audit β} {xs : List α} {index : Nat} {acc : β}
    {P : α → Prop} (step : ∀ i acc x, Total (f i acc x) ↔ P x) :
    Total (foldIdx f index acc xs) ↔ ∀ x ∈ xs, P x := by
  induction xs generalizing index acc with
  | nil => exact iff_of_true (Total.pure acc) fun _ mem => absurd mem List.not_mem_nil
  | cons x xs ih =>
    rw [List.forall_mem_cons]
    constructor
    · intro ⟨b, result⟩
      have ⟨next, first, rest⟩ := returns_bind.1 result
      exact ⟨(step index acc x).1 ⟨next, first⟩, ih.1 ⟨b, rest⟩⟩
    · exact fun ⟨first, rest⟩ => ((step index acc x).2 first).bind fun _ _ => ih.2 rest

/-- A loop whose steps return the next accumulator for sure. -/
theorem returns_foldIdx {f : Nat → β → α → Audit β} {next : β → α → β}
    (step : ∀ i acc x, Returns (f i acc x) (next acc x)) (xs : List α) (index : Nat) (acc : β) :
    Returns (foldIdx f index acc xs) (xs.foldl next acc) := by
  induction xs generalizing index acc with
  | nil => exact returns_pure acc
  | cons x xs ih => exact returns_bind.2 ⟨_, step index acc x, ih (index + 1) (next acc x)⟩

theorem messages_ok_iff {x : Audit α} : (∃ errors, x.messages = .ok errors) ↔ Total x := by
  match x with
  | .error e => exact iff_of_false nofun fun ⟨_, _, eq⟩ => nomatch eq
  | .ok (a, collected) => exact iff_of_true ⟨collected, rfl⟩ ⟨a, collected, rfl⟩

end Py.Audit
