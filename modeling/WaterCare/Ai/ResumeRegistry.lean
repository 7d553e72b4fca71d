import Mathlib.Data.List.Basic
import WaterCare.Machine.Pool
import WaterCare.Machine.Recency
import WaterCare.Machine.Run

/-!
`_ProcessResumeRegistry` of `human_review_resume_routes.py`: a resume request is executed once for
its key. The locked section of `run_once` and the completion of a future are steps of their own.
-/

namespace WaterCare.Ai.ResumeRegistry
open Machine Pool Recency

/-- `_MAX_PROCESS_RECEIPTS`. -/
def maxProcessReceipts : Nat := 2048

/-- `_ResumeEntry`, with the key that it was made for. A binding is a digest in hexadecimal, so
`compare_digest` is equality. -/
structure ResumeEntry (κ β ε ρ : Type*) where
  key : κ
  bindingSha256 : β
  future : Option (Except ε ρ)

/-- Where a call of `run_once` stands after its locked section. -/
inductive Phase (ε ρ : Type*)
  | running
  | waiting
  | conflict
  | returned (result : Except ε ρ) (created : Bool)

structure Call (κ β ε ρ : Type*) where
  key : κ
  bindingSha256 : β
  created : Bool
  entry : Nat
  phase : Phase ε ρ

/-- The calls are listed in the order of their locked sections. -/
structure State (κ β ε ρ : Type*) where
  made : List (ResumeEntry κ β ε ρ)
  /-- `_entries`, from the oldest use to the newest. -/
  entries : List (κ × Nat)
  calls : List (Call κ β ε ρ)

variable {κ β ε ρ : Type*}

def initial : State κ β ε ρ := ⟨[], [], []⟩

namespace State
variable (s : State κ β ε ρ)

/-- `future.done()`. -/
def done (entry : Nat) : Bool := (s.made[entry]?.bind (·.future)).isSome

def addCall (c : Call κ β ε ρ) : State κ β ε ρ := { s with calls := s.calls ++ [c] }

def setPhase (i : Nat) (c : Call κ β ε ρ) (phase : Phase ε ρ) : State κ β ε ρ :=
  { s with calls := s.calls.set i { c with phase := phase } }

end State

/-! ### The calls so far -/

/-- The keys of the calls before the one with the number, the newest first. -/
def presented (s : State κ β ε ρ) (i : Nat) : List κ := ((s.calls.take i).map (·.key)).reverse

section
variable {s : State κ β ε ρ} {c : Call κ β ε ρ} {i : Nat}

theorem presented_addCall : presented (s.addCall c) (s.addCall c).calls.length =
    c.key :: presented s s.calls.length := by
  unfold presented State.addCall
  simp

theorem presented_addCall_old (old : i ≤ s.calls.length) :
    presented (s.addCall c) i = presented s i := by
  unfold presented State.addCall
  rw [List.take_append_of_le_length old]

theorem presented_setPhase {phase : Phase ε ρ} (found : s.calls[i]? = some c) (j : Nat) :
    presented (s.setPhase i c phase) j = presented s j := by
  have keys : (s.calls.set i { c with phase := phase }).map (·.key) = s.calls.map (·.key) :=
    map_set found rfl
  unfold presented State.setPhase
  rw [List.map_take, keys, List.map_take]

end
/-! ### `run_once` -/

variable [DecidableEq κ]

namespace State
variable (s : State κ β ε ρ)

def lookup (key : κ) : Option Nat := (s.entries.find? (·.1 = key)).map Prod.snd

/-- A new entry, and `_evict_completed`. -/
def create (key : κ) (bindingSha256 : β) : State κ β ε ρ :=
  let t : State κ β ε ρ := { s with made := s.made ++ [⟨key, bindingSha256, none⟩] }
  { t with entries := evict maxProcessReceipts t.done (s.entries ++ [(key, s.made.length)]) }

end State

section
variable {s : State κ β ε ρ} {key : κ} {e : Nat}

theorem lookup_eq_some (found : s.lookup key = some e) : (key, e) ∈ s.entries := by
  obtain ⟨entry, there, rfl⟩ := Option.map_eq_some_iff.1 found
  have own : entry.1 = key := by simpa using List.find?_some there
  have mem := List.mem_of_find?_eq_some there
  rw [← own]
  exact mem

theorem lookup_eq_none (absent : s.lookup key = none) : key ∉ s.entries.map Prod.fst := by
  intro mem
  obtain ⟨entry, there, own⟩ := List.mem_map.1 mem
  have none := List.find?_eq_none.1 (Option.map_eq_none_iff.1 absent) entry there
  simp [own] at none

end

namespace State
variable (s : State κ β ε ρ)

/-- The locked section. -/
def present [DecidableEq β] (key : κ) (bindingSha256 : β) : Option (State κ β ε ρ) :=
  match s.lookup key with
  | none => some
      ((s.create key bindingSha256).addCall ⟨key, bindingSha256, true, s.made.length, .running⟩)
  | some e => s.made[e]?.map fun entry =>
      { s with entries := moveToEnd key s.entries }.addCall
        ⟨key, bindingSha256, false, e,
          if entry.bindingSha256 = bindingSha256 then .waiting else .conflict⟩

/-- The operation of a call ends: `set_result` or `set_exception` on a future that is not done. -/
def complete (i : Nat) (result : Except ε ρ) : Option (State κ β ε ρ) :=
  s.calls[i]?.bind fun c =>
    match c.phase with
    | .running => s.made[c.entry]?.bind fun entry =>
        if entry.future.isSome then none
        else some ({ s with made := s.made.set c.entry { entry with future := some result } }.setPhase
          i c (.returned result true))
    | .waiting | .conflict | .returned _ _ => none

/-- `future.result()` of a call that has joined an entry. -/
def join (i : Nat) : Option (State κ β ε ρ) :=
  s.calls[i]?.bind fun c =>
    match c.phase with
    | .waiting => (s.made[c.entry]?.bind (·.future)).map fun result =>
        s.setPhase i c (.returned result false)
    | .running | .conflict | .returned _ _ => none

end State

inductive Action (κ β ε ρ : Type*)
  | present (key : κ) (bindingSha256 : β)
  | complete (call : Nat) (result : Except ε ρ)
  | join (call : Nat)

def State.perform [DecidableEq β] (s : State κ β ε ρ) : Action κ β ε ρ → Option (State κ β ε ρ)
  | .present key bindingSha256 => s.present key bindingSha256
  | .complete i result => s.complete i result
  | .join i => s.join i

def Step [DecidableEq β] (s : State κ β ε ρ) (a : Action κ β ε ρ) (t : State κ β ε ρ) : Prop :=
  s.perform a = some t

/-! ### The property -/

/-- What a call has received from its entry. -/
def Received (c : Call κ β ε ρ) (entry : ResumeEntry κ β ε ρ) : Prop :=
  match c.phase with
  | .running => c.created = true ∧ entry.bindingSha256 = c.bindingSha256 ∧ entry.future = none
  | .waiting => c.created = false ∧ entry.bindingSha256 = c.bindingSha256
  | .conflict => c.created = false ∧ entry.bindingSha256 ≠ c.bindingSha256
  | .returned result created => c.created = created ∧ entry.bindingSha256 = c.bindingSha256 ∧
      entry.future = some result

structure OncePerKey (s : State κ β ε ρ) : Prop where
  /-- Between two executions for a key many other keys are presented after its last use. -/
  apart : ∀ (i j : Nat) c d, s.calls[i]? = some c → s.calls[j]? = some d → i < j →
    c.created = true → d.created = true → c.key = d.key →
    ∃ recent older, presented s j = recent ++ d.key :: older ∧ d.key ∉ recent ∧
      maxProcessReceipts ≤ recent.toFinset.card
  /-- A call has the outcome of the entry that it has found or made, or a conflict with it. -/
  received : ∀ c ∈ s.calls, ∃ entry, s.made[c.entry]? = some entry ∧ entry.key = c.key ∧
    Received c entry
  /-- An entry is executed by the one call that has made it. -/
  executed : ∀ (e : Nat) entry, s.made[e]? = some entry →
    ∃ c ∈ s.calls, c.entry = e ∧ c.created = true
  single : ∀ (i j : Nat) c d, s.calls[i]? = some c → s.calls[j]? = some d → c.created = true →
    d.created = true → c.entry = d.entry → i = j
  /-- An entry whose operation is running is cached. -/
  cached : ∀ (e : Nat) entry, s.made[e]? = some entry → entry.future = none →
    (entry.key, e) ∈ s.entries

/-! ### The invariant -/

structure Invariant (s : State κ β ε ρ) : Prop extends OncePerKey s where
  ordered : Ordered (presented s s.calls.length) (s.entries.map Prod.fst)
  followed : Followed maxProcessReceipts (presented s s.calls.length) (s.entries.map Prod.fst)
  entries : ∀ e ∈ s.entries, ∃ entry, s.made[e.2]? = some entry ∧ entry.key = e.1

section
variable {s t : State κ β ε ρ} {i e : Nat} {c : Call κ β ε ρ} {key : κ} {bindingSha256 : β}

theorem Invariant.initial : Invariant (initial : State κ β ε ρ) where
  apart _ _ _ _ found := by cases found
  received _ mem := by cases mem
  executed _ _ found := by cases found
  single _ _ _ _ found := by cases found
  cached _ _ found := by cases found
  ordered := Ordered.nil
  followed := Followed.nil
  entries _ mem := by cases mem

/-- A call is added that joins an entry, or makes one for a key that has left the table. -/
theorem Invariant.addCall (h : Invariant s) {made : List (ResumeEntry κ β ε ρ)}
    {entries : List (κ × Nat)}
    (kept : ∀ (e : Nat) entry, s.made[e]? = some entry → made[e]? = some entry)
    (own : ∃ entry, made[c.entry]? = some entry ∧ entry.key = c.key ∧ Received c entry)
    (executed : ∀ (e : Nat) entry, made[e]? = some entry →
      s.made[e]? = some entry ∨ c.entry = e ∧ c.created = true)
    (unmade : c.created = true → s.made[c.entry]? = none ∧ c.key ∉ s.entries.map Prod.fst)
    (cached : ∀ (e : Nat) entry, made[e]? = some entry → entry.future = none →
      (entry.key, e) ∈ entries) :
    OncePerKey ({ s with made := made, entries := entries }.addCall c) where
  apart := by
    intro i j d d' found found' before made made' same
    rcases of_spawn found' with old' | ⟨rfl, rfl⟩
    · have inside := (List.getElem?_eq_some_iff.1 old').1
      rw [presented_addCall_old inside.le]
      rcases of_spawn found with old | ⟨rfl, rfl⟩
      · exact h.apart i j d d' old old' before made made' same
      · exact absurd (Nat.lt_trans before inside) (Nat.lt_irrefl _)
    · rw [presented_addCall_old le_rfl]
      have old := (of_spawn found).resolve_right fun new => Nat.lt_irrefl _ (new.1 ▸ before)
      have used : d'.key ∈ presented s s.calls.length := by
        unfold presented
        rw [List.take_length, List.mem_reverse, ← same]
        exact List.mem_map_of_mem (List.mem_of_getElem? old)
      obtain ⟨older, split⟩ := since_eq_append used
      exact ⟨_, older, split, not_mem_since, h.followed _ used (unmade made').2⟩
  received := by
    intro d mem
    rcases List.mem_append.1 mem with old | new
    · obtain ⟨entry, there, rest⟩ := h.received d old
      exact ⟨entry, kept _ _ there, rest⟩
    · rw [List.mem_singleton.1 new]
      exact own
  executed := by
    intro e entry found
    rcases executed e entry found with old | ⟨new, made⟩
    · obtain ⟨d, mem, rest⟩ := h.executed e entry old
      exact ⟨d, List.mem_append_left _ mem, rest⟩
    · exact ⟨c, List.mem_append_right _ (List.mem_singleton_self _), new, made⟩
  single := by
    have other {d : Call κ β ε ρ} (mem : d ∈ s.calls) (made : c.created = true) :
        d.entry ≠ c.entry := by
      intro same
      obtain ⟨entry, there, _⟩ := h.received d mem
      rw [same, (unmade made).1] at there
      cases there
    intro i j d d' found found' made made' same
    rcases of_spawn found with old | ⟨rfl, rfl⟩
    · rcases of_spawn found' with old' | ⟨rfl, rfl⟩
      · exact h.single i j d d' old old' made made' same
      · exact absurd same (other (List.mem_of_getElem? old) made')
    · rcases of_spawn found' with old' | ⟨rfl, rfl⟩
      · exact absurd same.symm (other (List.mem_of_getElem? old') made)
      · rfl
  cached := cached

/-- An entry is made, and old ones that are done leave the table. -/
theorem Invariant.create (h : Invariant s) (absent : s.lookup key = none) :
    Invariant ((s.create key bindingSha256).addCall
      ⟨key, bindingSha256, true, s.made.length, .running⟩) := by
  have left := lookup_eq_none absent
  have keys : (s.entries ++ [(key, s.made.length)]).map Prod.fst =
      (s.entries.map Prod.fst).filter (· ≠ key) ++ [key] := by
    have all : (s.entries.map Prod.fst).filter (· ≠ key) = s.entries.map Prod.fst := by
      refine List.filter_eq_self.2 fun k mem => ?_
      have other : k ≠ key := fun same => left (same ▸ mem)
      simpa using other
    rw [List.map_append, all]
    rfl
  have ordered := h.ordered.use (k := key)
  have followed := h.followed.use (k := key)
  rw [← keys] at ordered followed
  have last : (s.made ++ [⟨key, bindingSha256, none⟩])[s.made.length]? =
      some ⟨key, bindingSha256, none⟩ := List.getElem?_concat_length
  refine ⟨h.addCall (fun _ _ => spawn_old) ⟨_, last, rfl, rfl, rfl, rfl⟩ ?_ ?_ ?_, ?_, ?_, ?_⟩
  · intro e entry found
    exact (of_spawn found).imp_right fun new => ⟨new.1.symm, rfl⟩
  · intro _
    exact ⟨List.getElem?_eq_none le_rfl, left⟩
  · intro e entry found undone
    refine mem_evict ?_ ?_
    · rcases of_spawn found with old | ⟨rfl, rfl⟩
      · exact List.mem_append_left _ (h.cached e entry old undone)
      · exact List.mem_append_right _ (List.mem_singleton_self _)
    · unfold State.done
      rw [found, Option.bind_some, undone]
      rfl
  · rw [presented_addCall]
    exact ordered.evict
  · rw [presented_addCall]
    exact followed.evict ordered
  · intro e mem
    rcases List.mem_append.1 (evict_subset mem) with old | new
    · obtain ⟨entry, there, same⟩ := h.entries e old
      exact ⟨entry, spawn_old there, same⟩
    · rw [List.mem_singleton.1 new]
      exact ⟨_, last, rfl⟩

/-- A call finds an entry, which becomes the newest. -/
theorem Invariant.found (h : Invariant s) [DecidableEq β] (found : s.lookup key = some e)
    {entry : ResumeEntry κ β ε ρ} (there : s.made[e]? = some entry) :
    Invariant ({ s with entries := moveToEnd key s.entries }.addCall
      ⟨key, bindingSha256, false, e,
        if entry.bindingSha256 = bindingSha256 then .waiting else .conflict⟩) := by
  have mem := lookup_eq_some found
  have keys := keys_moveToEnd h.ordered.nodup (List.mem_map_of_mem mem)
  have named : entry.key = key := by
    obtain ⟨entry', there', same⟩ := h.entries _ mem
    cases there.symm.trans there'
    exact same
  have ordered := h.ordered.use (k := key)
  have followed := h.followed.use (k := key)
  rw [← keys] at ordered followed
  refine ⟨h.addCall (fun _ _ old => old) ⟨entry, there, named, ?_⟩ (fun _ _ old => .inl old)
    (fun made => by cases made) ?_, ?_, ?_, ?_⟩
  · by_cases same : entry.bindingSha256 = bindingSha256
    · rw [if_pos same]
      exact ⟨rfl, same⟩
    · rw [if_neg same]
      exact ⟨rfl, same⟩
  · intro e' entry' old undone
    exact mem_moveToEnd.2 (h.cached e' entry' old undone)
  · rw [presented_addCall]
    exact ordered
  · rw [presented_addCall]
    exact followed
  · intro e' mem'
    exact h.entries e' (mem_moveToEnd.1 mem')

theorem Invariant.present (h : Invariant s) [DecidableEq β]
    (performed : s.present key bindingSha256 = some t) : Invariant t := by
  unfold State.present at performed
  cases found : s.lookup key with
  | none =>
      rw [found] at performed
      cases performed
      exact h.create found
  | some e =>
      rw [found] at performed
      obtain ⟨entry, there, rfl⟩ := Option.map_eq_some_iff.1 performed
      exact h.found found there

/-- A call proceeds, and an entry may get its outcome. -/
theorem Invariant.setPhase (h : Invariant s) (found : s.calls[i]? = some c) {phase : Phase ε ρ}
    {made : List (ResumeEntry κ β ε ρ)}
    (same : ∀ (e : Nat) entry, s.made[e]? = some entry →
      ∃ entry', made[e]? = some entry' ∧ entry'.key = entry.key)
    (old : ∀ (e : Nat) entry', made[e]? = some entry' → ∃ entry, s.made[e]? = some entry ∧
      entry.key = entry'.key ∧ (entry'.future = none → entry.future = none))
    (own : ∃ entry, made[c.entry]? = some entry ∧ entry.key = c.key ∧
      Received { c with phase := phase } entry)
    (others : ∀ (j : Nat) d, j ≠ i → s.calls[j]? = some d → ∃ entry, made[d.entry]? = some entry ∧
      entry.key = d.key ∧ Received d entry) :
    Invariant ({ s with made := made }.setPhase i c phase) := by
  have of_call : ∀ (j : Nat) d, (s.calls.set i { c with phase := phase })[j]? = some d →
      ∃ d', s.calls[j]? = some d' ∧ d'.key = d.key ∧ d'.created = d.created ∧
        d'.entry = d.entry := by
    intro j d there
    rcases of_set there with ⟨rfl, rfl⟩ | ⟨_, there⟩
    · exact ⟨c, found, rfl, rfl, rfl⟩
    · exact ⟨d, there, rfl, rfl, rfl⟩
  have length : (s.calls.set i { c with phase := phase }).length = s.calls.length :=
    List.length_set
  have before : ∀ j, presented ({ s with made := made }.setPhase i c phase) j = presented s j :=
    presented_setPhase found
  refine ⟨⟨?_, ?_, ?_, ?_, ?_⟩, ?_, ?_, ?_⟩
  · intro j k d d' there there' first made made' same
    obtain ⟨x, old, key, created, _⟩ := of_call j d there
    obtain ⟨x', old', key', created', _⟩ := of_call k d' there'
    rw [before, ← key']
    exact h.apart j k x x' old old' first (created.trans made) (created'.trans made')
      (key.trans (same.trans key'.symm))
  · intro d mem
    obtain ⟨j, there⟩ := List.mem_iff_getElem?.1 mem
    rcases of_set there with ⟨rfl, rfl⟩ | ⟨other, there⟩
    · exact own
    · exact others j d other there
  · intro e entry' there
    obtain ⟨entry, there', _⟩ := old e entry' there
    obtain ⟨d, mem, rest⟩ := h.executed e entry there'
    obtain ⟨j, placed⟩ := List.mem_iff_getElem?.1 mem
    by_cases moved : j = i
    · subst moved
      cases found.symm.trans placed
      exact ⟨_, List.mem_of_getElem? (set_self found), rest⟩
    · exact ⟨d, List.mem_of_getElem? ((set_other moved).trans placed), rest⟩
  · intro j k d d' there there' made made' same
    obtain ⟨x, old, _, created, entry⟩ := of_call j d there
    obtain ⟨x', old', _, created', entry'⟩ := of_call k d' there'
    exact h.single j k x x' old old' (created.trans made) (created'.trans made')
      (entry.trans (same.trans entry'.symm))
  · intro e entry' there undone
    obtain ⟨entry, there', same, undone'⟩ := old e entry' there
    rw [← same]
    exact h.cached e entry there' (undone' undone)
  · rw [before]
    exact length ▸ h.ordered
  · rw [before]
    exact length ▸ h.followed
  · intro e mem
    obtain ⟨entry, there, named⟩ := h.entries e mem
    obtain ⟨entry', there', keyed⟩ := same _ entry there
    exact ⟨entry', there', keyed.trans named⟩

theorem Invariant.complete (h : Invariant s) {result : Except ε ρ}
    (performed : s.complete i result = some t) : Invariant t := by
  obtain ⟨c, found, performed⟩ := Option.bind_eq_some_iff.1 performed
  obtain ⟨entry, there, key, own⟩ := h.received c (List.mem_of_getElem? found)
  unfold Received at own
  cases phase : c.phase with
  | running =>
      rw [phase] at performed own
      obtain ⟨created, bound, undone⟩ := own
      obtain ⟨entry', there', performed⟩ := Option.bind_eq_some_iff.1 performed
      cases there.symm.trans there'
      rw [undone] at performed
      cases performed
      refine h.setPhase found ?_ ?_ ⟨_, set_self there, key, created, bound, rfl⟩ ?_
      · intro e old stored
        by_cases same : e = c.entry
        · subst same
          cases there.symm.trans stored
          exact ⟨_, set_self there, rfl⟩
        · exact ⟨old, (set_other same).trans stored, rfl⟩
      · intro e new stored
        rcases of_set stored with ⟨rfl, rfl⟩ | ⟨_, stored⟩
        · exact ⟨entry, there, rfl, fun none => by cases none⟩
        · exact ⟨new, stored, rfl, fun none => none⟩
      · intro j d other placed
        obtain ⟨entry', stored, keyed, received⟩ := h.received d (List.mem_of_getElem? placed)
        by_cases same : d.entry = c.entry
        · rw [same] at stored ⊢
          cases there.symm.trans stored
          refine ⟨_, set_self there, keyed, ?_⟩
          unfold Received at received ⊢
          cases phase' : d.phase with
          | running =>
              rw [phase'] at received
              exact absurd (h.single j i d c placed found received.1 created same) other
          | waiting | conflict =>
              rw [phase'] at received
              exact received
          | returned _ _ =>
              rw [phase'] at received
              exact absurd (undone.symm.trans received.2.2) (by simp)
        · exact ⟨entry', (set_other same).trans stored, keyed, received⟩
  | waiting | conflict | returned _ _ =>
      rw [phase] at performed
      cases performed

theorem Invariant.join (h : Invariant s) (performed : s.join i = some t) : Invariant t := by
  obtain ⟨c, found, performed⟩ := Option.bind_eq_some_iff.1 performed
  obtain ⟨entry, there, key, own⟩ := h.received c (List.mem_of_getElem? found)
  unfold Received at own
  cases phase : c.phase with
  | waiting =>
      rw [phase] at performed own
      obtain ⟨result, done, rfl⟩ := Option.map_eq_some_iff.1 performed
      rw [there] at done
      exact h.setPhase found (fun _ entry stored => ⟨entry, stored, rfl⟩)
        (fun _ entry stored => ⟨entry, stored, rfl, fun none => none⟩)
        ⟨entry, there, key, own.1, own.2, done⟩
        (fun _ d _ placed => h.received d (List.mem_of_getElem? placed))
  | running | conflict | returned _ _ =>
      rw [phase] at performed
      cases performed

theorem Invariant.step [DecidableEq β] {a : Action κ β ε ρ} (h : Invariant s) (step : Step s a t) :
    Invariant t := by
  cases a with
  | present _ _ => exact h.present step
  | complete _ _ => exact h.complete step
  | join _ => exact h.join step

end

/-! ### A repeated request -/

/-- Two requests under one key, of which one executes, and a third with another binding. -/
def repeated : List (Action String String String Nat) :=
  [.present "key" "digest", .present "key" "digest", .complete 0 (.ok 7), .join 1,
    .present "key" "other"]

end WaterCare.Ai.ResumeRegistry
