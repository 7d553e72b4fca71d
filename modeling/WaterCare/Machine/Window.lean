import Mathlib.Data.List.Basic

/-!
Counting in windows of a fixed length. An entry knows its time and the beginning of its window,
and the windows of two entries are the same one or do not overlap.
-/

namespace Machine

structure Tick where
  at_ : Nat
  window : Nat

/-- The entry lies in the interval of a length that begins at `x`, ends included. -/
def Tick.inside (x length : Nat) (e : Tick) : Bool :=
  decide (x ≤ e.at_ ∧ e.at_ ≤ x + length)

/-- Windows of a length, with at most so many entries in each. -/
structure Windowed (length limit : Nat) (entries : List Tick) : Prop where
  within : ∀ e ∈ entries, e.window ≤ e.at_ ∧ e.at_ < e.window + length
  apart : ∀ e ∈ entries, ∀ e' ∈ entries,
    e.window = e'.window ∨ e.window + length ≤ e'.window ∨ e'.window + length ≤ e.window
  full : ∀ w, entries.countP (fun e => decide (e.window = w)) ≤ limit

/-- What the counter of the current window knows of the entries. -/
structure Current (length : Nat) (entries : List Tick) (window count : Nat) : Prop where
  windows : ∀ e ∈ entries, e.window = window ∨ e.window + length ≤ window
  counted : entries.countP (fun e => decide (e.window = window)) ≤ count

variable {length limit window count x : Nat} {entries : List Tick}

theorem countP_le_add {α : Type*} {l : List α} {p q r : α → Bool}
    (split : ∀ a ∈ l, p a = true → q a = true ∨ r a = true) :
    l.countP p ≤ l.countP q + l.countP r := by
  induction l with
  | nil => exact Nat.zero_le _
  | cons a rest ih =>
    have tail := ih fun b mem => split b (List.mem_cons_of_mem a mem)
    have head := split a List.mem_cons_self
    simp only [List.countP_cons]
    by_cases here : p a = true
    · rw [if_pos here]
      cases head here with
      | inl own => rw [if_pos own]; omega
      | inr own => rw [if_pos own]; omega
    · rw [if_neg here]
      omega

theorem Windowed.nil : Windowed length limit [] :=
  ⟨fun _ mem => absurd mem List.not_mem_nil, fun _ mem => absurd mem List.not_mem_nil,
    fun _ => Nat.zero_le limit⟩

theorem Current.nil : Current length [] window count :=
  ⟨fun _ mem => absurd mem List.not_mem_nil, Nat.zero_le count⟩

/-- A new window begins when the one before it is over. -/
theorem Current.renew (current : Current length entries window count) {now : Nat}
    (pos : 0 < length) (elapsed : window + length ≤ now) : Current length entries now 0 := by
  have before (e : Tick) (mem : e ∈ entries) : e.window + length ≤ now := by
    cases current.windows e mem with
    | inl same => omega
    | inr earlier => omega
  refine ⟨fun e mem => .inr (before e mem), Nat.le_of_eq (List.countP_eq_zero.2 fun e mem same => ?_)⟩
  have ended := before e mem
  have same : e.window = now := of_decide_eq_true same
  omega

/-- One more entry in the current window, whose counter is below the limit. -/
theorem Windowed.push (windowed : Windowed length limit entries)
    (current : Current length entries window count) {now : Nat} (started : window ≤ now)
    (open_ : now < window + length) (below : count < limit) :
    Windowed length limit (⟨now, window⟩ :: entries) := by
  refine ⟨fun e mem => ?_, fun e mem e' mem' => ?_, fun w => ?_⟩
  · cases mem with
    | head => exact ⟨started, open_⟩
    | tail _ old => exact windowed.within e old
  · cases mem with
    | head =>
      cases mem' with
      | head => exact .inl rfl
      | tail _ old => exact (current.windows e' old).imp Eq.symm .inr
    | tail _ old =>
      cases mem' with
      | head => exact (current.windows e old).imp id .inl
      | tail _ old' => exact windowed.apart e old e' old'
  · rw [List.countP_cons]
    have counted := current.counted
    have full := windowed.full w
    dsimp only
    by_cases own : window = w
    · rw [own] at counted
      rw [decide_eq_true own, if_pos rfl]
      omega
    · rw [decide_eq_false own, if_neg Bool.false_ne_true]
      exact full

theorem Current.push (current : Current length entries window count) (now : Nat) :
    Current length (⟨now, window⟩ :: entries) window (count + 1) := by
  refine ⟨fun e mem => ?_, ?_⟩
  · cases mem with
    | head => exact .inl rfl
    | tail _ old => exact current.windows e old
  · rw [List.countP_cons, decide_eq_true rfl, if_pos rfl]
    exact Nat.succ_le_succ current.counted

/-- An interval of the length of a window meets two windows at most. -/
theorem Windowed.interval (windowed : Windowed length limit entries) (x : Nat) :
    entries.countP (Tick.inside x length) ≤ 2 * limit := by
  by_cases some_ : ∃ e ∈ entries, Tick.inside x length e = true
  · have ⟨e, mem, inside⟩ := some_
    -- the window of a second entry, if there is one in another window
    have second : ∃ w, ∀ e' ∈ entries, Tick.inside x length e' = true →
        e'.window = e.window ∨ e'.window = w := by
      by_cases other : ∃ d ∈ entries, Tick.inside x length d = true ∧ d.window ≠ e.window
      · have ⟨d, mem', inside', ne⟩ := other
        refine ⟨d.window, fun c mem'' inside'' => ?_⟩
        have first := windowed.within e mem
        have second := windowed.within d mem'
        have third := windowed.within c mem''
        have apart := windowed.apart e mem d mem'
        have apart' := windowed.apart e mem c mem''
        have apart'' := windowed.apart d mem' c mem''
        have inside : x ≤ e.at_ ∧ e.at_ ≤ x + length := of_decide_eq_true inside
        have inside' : x ≤ d.at_ ∧ d.at_ ≤ x + length := of_decide_eq_true inside'
        have inside'' : x ≤ c.at_ ∧ c.at_ ≤ x + length := of_decide_eq_true inside''
        omega
      · refine ⟨e.window, fun c mem' inside' => .inl ?_⟩
        by_contra ne
        exact other ⟨c, mem', inside', ne⟩
    have ⟨w, two⟩ := second
    have split := @countP_le_add Tick entries (Tick.inside x length)
      (fun c => decide (c.window = e.window)) (fun c => decide (c.window = w))
      fun c mem' inside' => by
        rw [decide_eq_true_eq, decide_eq_true_eq]
        exact two c mem' inside'
    have full := windowed.full e.window
    have full' := windowed.full w
    omega
  · have none_ : entries.countP (Tick.inside x length) = 0 :=
      List.countP_eq_zero.2 fun e mem inside => some_ ⟨e, mem, inside⟩
    rw [none_]
    exact Nat.zero_le _

end Machine
