import WaterCare.Py.Value

/-!
Checkers that append to a list of error messages and go on, and that can still
be cut short by an exception. `Passes x a` says that the checker returns `a`
with no message: a checker made of several passes exactly when each part does,
whatever the order in which the messages are collected.
-/

namespace Py

def Audit (α : Type) : Type := Except Exn (α × List String)

namespace Audit
variable {α β γ : Type}

def value (a : α) : Audit α := .ok (a, [])

def andThen (x : Audit α) (f : α → Audit β) : Audit β :=
  match x with
  | .error e => .error e
  | .ok (a, messages) =>
      match f a with
      | .error e => .error e
      | .ok (b, more) => .ok (b, messages ++ more)

instance : Monad Audit where
  pure := value
  bind := andThen

/-- `errors.append(message)`. -/
def report (message : String) : Audit Unit := .ok ((), [message])

def liftExn (x : Except Exn α) : Audit α := x.map fun a => (a, [])

def reportIf (b : Bool) (message : String) : Audit Unit :=
  if b then report message else pure ()

/-- `for item in items`, with no state of its own. -/
def forEach (f : α → Audit Unit) : List α → Audit Unit
  | [] => pure ()
  | x :: xs => do f x; forEach f xs

/-- `for index, item in enumerate(items)`, carrying an accumulator. -/
def foldIdx (f : Nat → β → α → Audit β) (index : Nat) (acc : β) : List α → Audit β
  | [] => pure acc
  | x :: xs => do
      let acc ← f index acc x
      foldIdx f (index + 1) acc xs

/-- The collected messages, or the exception. -/
def messages : Audit α → Except Exn (List String)
  | .error e => .error e
  | .ok (_, collected) => .ok collected

def Passes (x : Audit α) (a : α) : Prop := x = .ok (a, [])

theorem passes_of_messages_nil {x : Audit α} (h : x.messages = .ok []) : ∃ a, Passes x a := by
  match x, h with
  | .ok (a, _), rfl => exact ⟨a, rfl⟩

instance [DecidableEq α] (x : Audit α) (a : α) : Decidable (Passes x a) :=
  match x with
  | .error _ => isFalse fun h => by cases h
  | .ok (b, messages) =>
      if h : b = a ∧ messages = [] then isTrue (by rw [h.1, h.2]; rfl)
      else isFalse fun passes => h (by cases passes; exact ⟨rfl, rfl⟩)

@[simp] theorem passes_pure {a b : α} : Passes (pure a) b ↔ a = b := by
  change (Except.ok (a, ([] : List String)) : Except Exn _) = .ok (b, []) ↔ a = b
  simp

theorem passes_bind {x : Audit α} {f : α → Audit β} {b : β} :
    Passes (x >>= f) b ↔ ∃ a, Passes x a ∧ Passes (f a) b := by
  change andThen x f = .ok (b, []) ↔ ∃ a, x = .ok (a, []) ∧ f a = .ok (b, [])
  constructor
  · intro h
    unfold andThen at h
    split at h
    · cases h
    · rename_i a messages
      split at h
      · cases h
      · rename_i c more hf
        cases h' : messages ++ more with
        | cons m ms => rw [h'] at h; cases h
        | nil =>
            obtain ⟨rfl, rfl⟩ := List.append_eq_nil_iff.mp h'
            cases h
            exact ⟨a, rfl, hf⟩
  · rintro ⟨a, rfl, hf⟩
    simp only [andThen, hf]
    rfl

@[simp] theorem not_passes_report (message : String) (u : Unit) : ¬ Passes (report message) u := by
  intro h
  cases h

@[simp] theorem passes_reportIf {b : Bool} {message : String} {u : Unit} :
    Passes (reportIf b message) u ↔ b = false := by
  cases b <;> simp [reportIf]

theorem passes_forEach {f : α → Audit Unit} {xs : List α} {u : Unit} :
    Passes (forEach f xs) u ↔ ∀ x ∈ xs, Passes (f x) () := by
  induction xs with
  | nil => simp [forEach]
  | cons x xs ih =>
      rw [forEach, passes_bind, List.forall_mem_cons]
      exact ⟨fun ⟨_, hx, hxs⟩ => ⟨hx, ih.mp hxs⟩, fun ⟨hx, hxs⟩ => ⟨(), hx, ih.mpr hxs⟩⟩

/-- Every item of a passing loop passed, at its index and with some accumulator. -/
theorem passes_foldIdx_item {f : Nat → β → α → Audit β} {xs : List α} {index : Nat}
    {acc result : β} (h : Passes (foldIdx f index acc xs) result) {x : α} (hx : x ∈ xs) :
    ∃ i before after, Passes (f i before x) after := by
  induction xs generalizing index acc with
  | nil => cases hx
  | cons y ys ih =>
      obtain ⟨next, hy, rest⟩ := passes_bind.mp h
      rcases List.mem_cons.mp hx with rfl | hmem
      · exact ⟨index, acc, next, hy⟩
      · exact ih rest hmem

private theorem passes_foldIdx_from {f : Nat → β → α → Audit β} {motive : List α → β → Prop}
    {xs done : List α} {index : Nat} {acc result : β}
    (h : Passes (foldIdx f index acc xs) result) (start : motive done acc)
    (step : ∀ i seen a x b, motive seen a → Passes (f i a x) b → motive (seen ++ [x]) b) :
    motive (done ++ xs) result := by
  induction xs generalizing index acc done with
  | nil =>
      obtain rfl := passes_pure.mp h
      simpa using start
  | cons y ys ih =>
      obtain ⟨next, hy, rest⟩ := passes_bind.mp h
      simpa using ih rest (step index done acc y next start hy)

/-- The invariant rule of a passing loop over its accumulator. -/
theorem passes_foldIdx_invariant {f : Nat → β → α → Audit β} {motive : List α → β → Prop}
    {xs : List α} {index : Nat} {acc result : β}
    (h : Passes (foldIdx f index acc xs) result) (start : motive [] acc)
    (step : ∀ i seen a x b, motive seen a → Passes (f i a x) b → motive (seen ++ [x]) b) :
    motive xs result :=
  passes_foldIdx_from h start step

end Audit
end Py
