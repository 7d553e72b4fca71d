import Mathlib.Logic.Basic

/-!
Computations that keep the state they reached when they raise, and what two of them have in
common: they raise alike, or they end in states that are related.
-/

namespace Machine

/-- How a computation ends, and the state it leaves. -/
abbrev Flow (ε σ α : Type) := σ → Except ε α × σ

namespace Flow

section Rules
variable {ε δ σ τ α α' β β' γ : Type} {raises : ε → δ → Prop}
  {start start' : σ → τ → Prop} {ends ends' : α → σ → β → τ → Prop}

def andThen (first : Flow ε σ α) (next : α → Flow ε σ β) : Flow ε σ β := fun s =>
  match first s with
  | (.error failure, s) => (.error failure, s)
  | (.ok a, s) => next a s

theorem andThen_ok {first : Flow ε σ α} {next : α → Flow ε σ β} {s t : σ} {a : α}
    (ran : first s = (.ok a, t)) : first.andThen next s = next a t := by
  unfold andThen
  rw [ran]

theorem andThen_error {first : Flow ε σ α} {next : α → Flow ε σ β} {s t : σ} {failure : ε}
    (ran : first s = (.error failure, t)) : first.andThen next s = (.error failure, t) := by
  unfold andThen
  rw [ran]

theorem andThen_eq_ok {first : Flow ε σ α} {next : α → Flow ε σ β} {s t : σ} {b : β}
    (ran : first.andThen next s = (.ok b, t)) :
    ∃ a s', first s = (.ok a, s') ∧ next a s' = (.ok b, t) := by
  cases started : first s with
  | mk result s' =>
      cases result with
      | error failure =>
          rw [andThen_error started] at ran
          cases (Prod.mk.inj ran).1
      | ok a =>
          rw [andThen_ok started] at ran
          exact ⟨a, s', rfl, ran⟩

theorem andThen_assoc (first : Flow ε σ α) (next : α → Flow ε σ β) (last : β → Flow ε σ γ) :
    (first.andThen next).andThen last = first.andThen fun a => (next a).andThen last := by
  funext s
  cases ran : first s with
  | mk result t =>
      cases result with
      | error failure => rw [andThen_error ran, andThen_error (andThen_error ran)]
      | ok a =>
          rw [andThen_ok ran]
          unfold andThen
          rw [ran]

/-- Two computations end alike. -/
inductive Alike (raises : ε → δ → Prop) (ends : α → σ → β → τ → Prop) :
    Except ε α × σ → Except δ β × τ → Prop
  | error {failure : ε} {failure' : δ} {s : σ} {t : τ} (raised : raises failure failure') :
      Alike raises ends (.error failure, s) (.error failure', t)
  | ok {a : α} {b : β} {s : σ} {t : τ} (ended : ends a s b t) :
      Alike raises ends (.ok a, s) (.ok b, t)

/-- From related states the computations end alike. -/
def Both (raises : ε → δ → Prop) (start : σ → τ → Prop) (f : Flow ε σ α) (g : Flow δ τ β)
    (ends : α → σ → β → τ → Prop) : Prop :=
  ∀ s t, start s t → Alike raises ends (f s) (g t)

theorem Alike.weaken (weaker : ∀ a s b t, ends a s b t → ends' a s b t) {x : Except ε α × σ}
    {y : Except δ β × τ} (alike : Alike raises ends x y) : Alike raises ends' x y := by
  cases alike with
  | error raised => exact .error raised
  | ok ended => exact .ok (weaker _ _ _ _ ended)

theorem Both.weaken {f : Flow ε σ α} {g : Flow δ τ β} (both : Both raises start f g ends)
    (stronger : ∀ s t, start' s t → start s t)
    (weaker : ∀ a s b t, ends a s b t → ends' a s b t) : Both raises start' f g ends' :=
  fun s t related => (both s t (stronger s t related)).weaken weaker

theorem Both.andThen {f : Flow ε σ α} {g : Flow δ τ β} {f' : α → Flow ε σ α'}
    {g' : β → Flow δ τ β'} {last : α' → σ → β' → τ → Prop} (first : Both raises start f g ends)
    (next : ∀ a b, Both raises (fun s t => ends a s b t) (f' a) (g' b) last) :
    Both raises start (f.andThen f') (g.andThen g') last := by
  intro s t related
  have alike := first s t related
  cases left : f s with
  | mk result s' =>
      cases right : g t with
      | mk result' t' =>
          rw [left, right] at alike
          cases alike with
          | error raised =>
              rw [andThen_error left, andThen_error right]
              exact .error raised
          | ok ended =>
              rw [andThen_ok left, andThen_ok right]
              exact next _ _ _ _ ended

/-- A step of the right computation alone, which does not raise. -/
theorem Both.right {f : Flow ε σ α} {h : Flow δ τ γ} {g : γ → Flow δ τ β}
    {middle : γ → σ → τ → Prop}
    (runs : ∀ s t, start s t → ∃ c t', h t = (.ok c, t') ∧ middle c s t')
    (next : ∀ c, Both raises (middle c) f (g c) ends) : Both raises start f (h.andThen g) ends := by
  intro s t related
  have ⟨c, t', ran, between⟩ := runs s t related
  rw [andThen_ok ran]
  exact next c s t' between

/-- A step of the left computation alone, which does not raise. -/
theorem Both.left {f : γ → Flow ε σ α} {h : Flow ε σ γ} {g : Flow δ τ β}
    {middle : γ → σ → τ → Prop}
    (runs : ∀ s t, start s t → ∃ c s', h s = (.ok c, s') ∧ middle c s' t)
    (next : ∀ c, Both raises (middle c) (f c) g ends) : Both raises start (h.andThen f) g ends := by
  intro s t related
  have ⟨c, s', ran, between⟩ := runs s t related
  rw [andThen_ok ran]
  exact next c s' t between

/-- A last step of the right computation alone, which does not raise. -/
theorem Both.after {f : Flow ε σ α} {g : Flow δ τ β} {h : β → Flow δ τ γ}
    {last : α → σ → γ → τ → Prop} (both : Both raises start f g ends)
    (runs : ∀ a s b t, ends a s b t → ∃ c t', h b t = (.ok c, t') ∧ last a s c t') :
    Both raises start f (g.andThen h) last := by
  intro s t related
  have alike := both s t related
  cases left : f s with
  | mk result s' =>
      cases right : g t with
      | mk result' t' =>
          rw [left, right] at alike
          cases alike with
          | error raised =>
              rw [andThen_error right]
              exact .error raised
          | ok ended =>
              have ⟨c, t₁, ran, later⟩ := runs _ _ _ _ ended
              rw [andThen_ok right, ran]
              exact .ok later

/-- A last step of the left computation alone, which does not raise. -/
theorem Both.afterLeft {f : Flow ε σ α} {h : α → Flow ε σ γ} {g : Flow δ τ β}
    {last : γ → σ → β → τ → Prop} (both : Both raises start f g ends)
    (runs : ∀ a s b t, ends a s b t → ∃ c s', h a s = (.ok c, s') ∧ last c s' b t) :
    Both raises start (f.andThen h) g last := by
  intro s t related
  have alike := both s t related
  cases left : f s with
  | mk result s' =>
      cases right : g t with
      | mk result' t' =>
          rw [left, right] at alike
          cases alike with
          | error raised =>
              rw [andThen_error left]
              exact .error raised
          | ok ended =>
              have ⟨c, s₁, ran, later⟩ := runs _ _ _ _ ended
              rw [andThen_ok left, ran]
              exact .ok later

end Rules

section Within
variable {ε δ κ σ τ υ α β : Type}

/-- A part of a state, and how it is put back. -/
structure Part (σ τ : Type) where
  get : τ → σ
  set : τ → σ → τ
  get_set : ∀ t s, get (set t s) = s

/-- A computation on a part of the state. -/
def within (part : Part σ τ) (raise : ε → δ) (flow : Flow ε σ α) : Flow δ τ α := fun t =>
  match flow (part.get t) with
  | (.error failure, s) => (.error (raise failure), part.set t s)
  | (.ok a, s) => (.ok a, part.set t s)

/-- The right computation on a part of a larger state. -/
theorem Both.inside {raises : ε → δ → Prop} {raises' : ε → κ → Prop} {start : σ → τ → Prop}
    {f : Flow ε σ α} {g : Flow δ τ β} {ends : α → σ → β → τ → Prop} (part : Part τ υ)
    (raise : δ → κ) {keeps : υ → Prop} (both : Both raises start f g ends)
    (raised : ∀ failure failure', raises failure failure' → raises' failure (raise failure'))
    (frame : ∀ u t, keeps u → keeps (part.set u t)) :
    Both raises' (fun s u => start s (part.get u) ∧ keeps u) f (within part raise g)
      (fun a s b u => ends a s b (part.get u) ∧ keeps u) := by
  intro s u related
  have ⟨started, kept⟩ := related
  have alike := both s (part.get u) started
  unfold within
  cases left : f s with
  | mk result s' =>
      cases right : g (part.get u) with
      | mk result' t =>
          rw [left, right] at alike
          cases alike with
          | error failed => exact .error (raised _ _ failed)
          | ok ended =>
              refine .ok ⟨?_, frame u t kept⟩
              rw [part.get_set]
              exact ended

theorem Both.refl (f : Flow ε σ α) : Both Eq Eq f f (fun a s b t => a = b ∧ s = t) := by
  intro s t same
  subst same
  cases f s with
  | mk result s' =>
      cases result with
      | error failure => exact .error rfl
      | ok a => exact .ok ⟨rfl, rfl⟩

end Within

end Flow

end Machine
