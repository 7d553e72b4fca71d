import Mathlib.Data.List.Forall2

/-!
How a computation that may fail ends: inversion lemmas for its sequencing, and the
rules for the failures it does not end in.
-/

namespace Machine
variable {ε α β : Type}

theorem bind_eq_ok {x : Except ε α} {f : α → Except ε β} {b : β} :
    (x >>= f) = .ok b ↔ ∃ a, x = .ok a ∧ f a = .ok b := by
  cases x with
  | error e => exact iff_of_false (by intro h; cases h) (by rintro ⟨a, h, _⟩; cases h)
  | ok a =>
      constructor
      · intro h
        exact ⟨a, rfl, h⟩
      · rintro ⟨_, same, h⟩
        cases same
        exact h

/-- A guard that refuses with an error has not refused where there is a value. -/
theorem ite_error_eq_ok {c : Prop} [Decidable c] {e : ε} {x : Except ε α} {a : α} :
    (if c then .error e else x) = .ok a ↔ ¬c ∧ x = .ok a := by
  by_cases h : c
  · rw [if_pos h]
    exact ⟨nofun, fun both => absurd h both.1⟩
  · rw [if_neg h]
    exact ⟨fun same => ⟨h, same⟩, fun both => both.2⟩

theorem map_eq_ok {x : Except ε α} {f : α → β} {b : β} :
    x.map f = .ok b ↔ ∃ a, x = .ok a ∧ f a = b := by
  cases x with
  | error e => exact iff_of_false (by intro h; cases h) (by rintro ⟨a, h, _⟩; cases h)
  | ok a =>
      constructor
      · intro h
        exact ⟨a, rfl, Except.ok.inj h⟩
      · rintro ⟨_, same, rfl⟩
        cases same
        rfl

/-- A list is mapped without an error item by item. -/
theorem mapM_eq_ok {f : β → Except ε α} {xs : List β} {ys : List α} (h : xs.mapM f = .ok ys) :
    List.Forall₂ (fun x y => f x = .ok y) xs ys := by
  induction xs generalizing ys with
  | nil =>
      cases h
      exact .nil
  | cons x xs ih =>
      rw [List.mapM_cons] at h
      obtain ⟨y, first, h⟩ := bind_eq_ok.1 h
      obtain ⟨rest, mapped, h⟩ := bind_eq_ok.1 h
      cases h
      exact .cons first (ih mapped)

theorem mapM_eq_some {f : β → Option α} {xs : List β} {ys : List α} (h : xs.mapM f = some ys) :
    List.Forall₂ (fun x y => f x = some y) xs ys := by
  induction xs generalizing ys with
  | nil =>
      cases h
      exact .nil
  | cons x xs ih =>
      rw [List.mapM_cons] at h
      obtain ⟨y, first, h⟩ := Option.bind_eq_some_iff.1 h
      obtain ⟨rest, mapped, h⟩ := Option.bind_eq_some_iff.1 h
      cases h
      exact .cons first (ih mapped)

/-- A mapping that fails on no item of a list is a plain one. -/
theorem mapM_of_ok {f : β → Except ε α} {g : β → α} {xs : List β}
    (h : ∀ x ∈ xs, f x = .ok (g x)) : xs.mapM f = .ok (xs.map g) := by
  induction xs with
  | nil => rfl
  | cons x xs ih =>
      have first := h x List.mem_cons_self
      have rest := ih fun y mem => h y (List.mem_cons_of_mem x mem)
      rw [List.mapM_cons, first, rest]
      rfl

theorem filterAuxM_of_ok {f : β → Except ε Bool} {p : β → Bool} {xs kept : List β}
    (h : ∀ x ∈ xs, f x = .ok (p x)) :
    xs.filterAuxM f kept = .ok ((xs.filter p).reverse ++ kept) := by
  induction xs generalizing kept with
  | nil => rfl
  | cons x xs ih =>
      have first := h x List.mem_cons_self
      have rest : ∀ kept, xs.filterAuxM f kept = .ok ((xs.filter p).reverse ++ kept) :=
        fun kept => ih fun y mem => h y (List.mem_cons_of_mem x mem)
      rw [List.filterAuxM, first, List.filter_cons]
      refine (rest _).trans ?_
      cases p x with
      | true => simp
      | false => simp

theorem filterM_of_ok {f : β → Except ε Bool} {p : β → Bool} {xs : List β}
    (h : ∀ x ∈ xs, f x = .ok (p x)) : xs.filterM f = .ok (xs.filter p) := by
  rw [List.filterM, filterAuxM_of_ok h]
  simp [pure, Except.pure, bind, Except.bind]

/-- What the mapping of a list yields comes from an item of it. -/
theorem forall₂_mem {R : β → α → Prop} {xs : List β} {ys : List α} {y : α}
    (related : List.Forall₂ R xs ys) (mem : y ∈ ys) : ∃ x ∈ xs, R x y := by
  induction related with
  | nil => cases mem
  | cons head _ ih =>
      rcases List.mem_cons.1 mem with rfl | later
      · exact ⟨_, List.mem_cons_self, head⟩
      · obtain ⟨x, there, h⟩ := ih later
        exact ⟨x, List.mem_cons_of_mem _ there, h⟩

/-- The first row with a property is found again, if the mapping keeps the property. -/
theorem forall₂_find {R : β → α → Prop} {p : β → Bool} {q : α → Bool} {xs : List β} {ys : List α}
    {x : β} (keep : ∀ x y, R x y → q y = p x) (related : List.Forall₂ R xs ys)
    (found : xs.find? p = some x) : ∃ y, ys.find? q = some y ∧ R x y := by
  induction related with
  | nil => cases found
  | @cons a b xs ys head _ ih =>
      rw [List.find?_cons] at found ⊢
      rw [keep a b head]
      cases here : p a with
      | true =>
          rw [here] at found
          cases found
          exact ⟨b, rfl, head⟩
      | false =>
          rw [here] at found
          exact ih found

/-- A computation that does not fail hands its value on. -/
theorem bind_of_ok {x : Except ε α} {f : α → Except ε β} {a : α} (h : x = .ok a) :
    (x >>= f) = f a := by
  rw [h]
  rfl

/-- A check that fails unless the condition holds. -/
def require (holds : Bool) (fault : ε) : Except ε Unit :=
  if holds then .ok () else .error fault

theorem require_eq_ok {holds : Bool} {fault : ε} {u : Unit} :
    require holds fault = .ok u ↔ holds = true := by
  cases holds with
  | true => exact iff_of_true rfl rfl
  | false => exact iff_of_false nofun nofun

theorem require_bind_eq_ok {holds : Bool} {fault : ε} {rest : Unit → Except ε α} {a : α} :
    (require holds fault >>= rest) = .ok a ↔ holds = true ∧ rest () = .ok a := by
  cases holds with
  | true => exact (and_iff_right rfl).symm
  | false => exact iff_of_false nofun nofun

/-- A loop over a list fails on no item of it. -/
theorem forM_eq_ok {f : β → Except ε Unit} {xs : List β} :
    xs.forM f = .ok () ↔ ∀ x ∈ xs, f x = .ok () := by
  induction xs with
  | nil => exact iff_of_true rfl fun _ mem => absurd mem List.not_mem_nil
  | cons x rest ih =>
      change (f x >>= fun _ => rest.forM f) = .ok () ↔ _
      rw [bind_eq_ok, List.forall_mem_cons]
      exact ⟨fun ⟨_, first, others⟩ => ⟨first, ih.1 others⟩,
        fun both => ⟨(), both.1, ih.2 both.2⟩⟩

/-- A loop that fails has failed on its first item that does, after the items that pass. -/
theorem forM_failed {f : β → Except ε Unit} {xs : List β} {e : ε} (failed : xs.forM f = .error e) :
    ∃ before x after, xs = before ++ x :: after ∧ (∀ y ∈ before, f y = .ok ()) ∧
      f x = .error e := by
  induction xs with
  | nil => cases failed
  | cons x rest ih =>
      change (f x >>= fun _ => rest.forM f) = .error e at failed
      cases first : f x with
      | error e' =>
          rw [first] at failed
          exact ⟨[], x, rest, rfl, nofun, first.trans failed⟩
      | ok _ =>
          rw [bind_of_ok first] at failed
          have ⟨before, y, after, same, passed, refused⟩ := ih failed
          refine ⟨x :: before, y, after, congrArg (x :: ·) same, ?_, refused⟩
          exact List.forall_mem_cons.2 ⟨first, passed⟩

/-- What a mapping yields item by item, if every item determines its result. -/
theorem eq_map_of_mapM {f : β → Except ε α} {g : β → α} {xs : List β} {ys : List α}
    (mapped : xs.mapM f = .ok ys) (h : ∀ x ∈ xs, ∀ y, f x = .ok y → y = g x) : ys = xs.map g := by
  induction xs generalizing ys with
  | nil =>
      cases mapped
      rfl
  | cons x xs ih =>
      rw [List.mapM_cons] at mapped
      obtain ⟨y, first, others⟩ := bind_eq_ok.1 mapped
      obtain ⟨rest, later, same⟩ := bind_eq_ok.1 others
      cases same
      rw [h x List.mem_cons_self y first,
        ih later fun z mem => h z (List.mem_cons_of_mem x mem), List.map_cons]

/-- The computation does not end in the given failure. -/
def Avoids (bad : ε) (x : Except ε α) : Prop := x ≠ .error bad

namespace Avoids
variable {bad : ε} {x : Except ε α}

theorem ok (a : α) : Avoids bad (.ok a : Except ε α) := nofun

theorem error {e : ε} (h : e ≠ bad) : Avoids bad (.error e : Except ε α) := by
  intro same
  exact h (Except.error.inj same)

theorem bind {f : α → Except ε β} (first : Avoids bad x)
    (rest : ∀ a, x = .ok a → Avoids bad (f a)) : Avoids bad (x >>= f) := by
  cases x with
  | error e => exact fun same => first (congrArg Except.error (Except.error.inj same))
  | ok a => exact rest a rfl

theorem map {f : α → β} (h : Avoids bad x) : Avoids bad (x.map f) := by
  cases x with
  | error e => exact fun same => h (congrArg Except.error (Except.error.inj same))
  | ok a => exact ok (f a)

theorem mapM {f : β → Except ε α} {xs : List β} (h : ∀ b ∈ xs, Avoids bad (f b)) :
    Avoids bad (xs.mapM f) := by
  induction xs with
  | nil => exact ok []
  | cons b xs ih =>
      rw [List.mapM_cons]
      refine (h b List.mem_cons_self).bind ?_
      intro a _
      refine (ih fun c mem => h c (List.mem_cons_of_mem b mem)).bind ?_
      intro as _
      exact ok _

theorem require {holds : Bool} {fault : ε} (other : fault ≠ bad) :
    Avoids bad (Machine.require holds fault) := by
  cases holds with
  | true => exact ok ()
  | false => exact error other

theorem forM {f : β → Except ε Unit} {xs : List β} (h : ∀ b ∈ xs, Avoids bad (f b)) :
    Avoids bad (xs.forM f) := by
  induction xs with
  | nil => exact ok ()
  | cons b xs ih =>
      have rest := ih fun c mem => h c (List.mem_cons_of_mem b mem)
      exact (h b List.mem_cons_self).bind fun _ _ => rest

end Avoids
end Machine
