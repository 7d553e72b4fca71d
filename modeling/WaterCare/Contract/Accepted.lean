import WaterCare.Contract.Permissions

/-!
What an accepted contract looks like to a reader of the raw documents: for
every entry the engine reads, the raw strings behind the validator's stripped
ones, with the equations a lookup needs.
-/

namespace WaterCare.Contract
open Py Py.Audit

/-- The visit statuses a rule's visit mapping matches, by its mode. -/
inductive VisitCondition
  | any
  | absent
  | exactly (status : Option String)
  | never
  deriving DecidableEq

def VisitCondition.covers : VisitCondition → Option String → Bool
  | any, _ => true
  | absent, v => v.isNone
  | exactly status, v => decide (v = status)
  | never, _ => false

structure StateEntry where
  entry : Dict
  code : String
  allowed : List String
  code_eq : entry.find "code" = some (.str code)
  allowed_eq : entry.find "allowed_visit_statuses" = some (.list (allowed.map .str))

structure EventEntry where
  entry : Dict
  code : String
  actorRoles : List String
  code_eq : entry.find "code" = some (.str code)
  roles_eq : entry.find "actor_roles" = some (.list (actorRoles.map .str))
  roles_ne : actorRoles ≠ []

structure GuardEntry where
  entry : Dict
  id : String
  category : String
  failure : Dict
  httpStatus : Int
  errorCode : String
  message : String
  id_eq : entry.find "id" = some (.str id)
  category_eq : entry.find "category" = some (.str category)
  failure_eq : entry.find "failure" = some (.dict failure)
  status_eq : failure.find "http_status" = some (.atom (.int httpStatus))
  error_eq : failure.find "error_code" = some (.str errorCode)
  message_eq : failure.find "message" = some (.str message)

/-- A transition rule. `toStatus` is `none` when the visit has no such key. -/
structure Rule where
  entry : Dict
  id : String
  event : String
  fromState : Option String
  toState : String
  visit : Dict
  mode : String
  requiredStatus : Option String
  fromStatus : Option String
  toStatus : Option (Option String)
  guardRefs : List String
  history : Dict
  id_eq : entry.find "id" = some (.str id)
  event_eq : entry.find "event" = some (.str event)
  fromState_eq : entry.find "from_inquiry_state" = some (.ofOption fromState)
  toState_eq : entry.find "to_inquiry_state" = some (.str toState)
  visit_eq : entry.find "visit" = some (.dict visit)
  mode_eq : visit.find "mode" = some (.str mode)
  required_eq : visit.get "required_status" = .ofOption requiredStatus
  fromStatus_eq : visit.get "from_status" = .ofOption fromStatus
  toStatus_eq : visit.find "to_status" = toStatus.map .ofOption
  guardRefs_eq : entry.find "guard_refs" = some (.list (guardRefs.map .str))
  history_eq : entry.find "history" = some (.dict history)
  event_text : hasText event = true
  from_text : ∀ s, fromState = some s → hasText s = true
  required_text : ∀ s, requiredStatus = some s → hasText s = true
  fromStatus_text : ∀ s, fromStatus = some s → hasText s = true
  initial_iff : entry.get "version_action" = .str "INITIALIZE_1" ↔ fromState = none

def Rule.condition (r : Rule) : VisitCondition :=
  if r.mode = "REQUIRE_ABSENT" ∨ r.mode = "CREATE" then .absent
  else if r.mode = "PRESERVE" then .any
  else if r.mode = "PRESERVE_REQUIRE_STATUS" then .exactly r.requiredStatus
  else if r.mode = "TRANSITION" then .exactly r.fromStatus
  else .never

/-! One lemma for each entry loop: a passed entry has a view. -/

theorem stringList_find {d : Dict} {key path : String} {required : Bool}
    {result : List String} (h : Passes (stringList (d.get key) path required) result) :
    ∃ raws : List String, d.find key = some (.list (raws.map .str)) ∧
      (∀ s ∈ raws, hasText s = true) ∧ result = raws.map strip ∧ result.Nodup ∧
      (required = true → raws ≠ []) := by
  obtain ⟨raws, value, text, stripped, distinct, nonempty⟩ := stringList_passes h
  exact ⟨raws, Dict.find_of_get value (by simp), text, stripped, distinct, nonempty⟩

theorem stateEntry_passes {ownerTypes visitStatuses flags result : List String} {i : Nat}
    {entry : Dict} {code : String} (found : entry.find "code" = some (.str code))
    (h : Passes (stateEntry ownerTypes visitStatuses i flags entry) result) :
    ∃ s : StateEntry, s.entry = entry ∧ s.code = code := by
  obtain ⟨_, _, h⟩ := passes_bind.mp h
  obtain ⟨_, _, h⟩ := passes_bind.mp h
  obtain ⟨_, _, h⟩ := passes_bind.mp h
  obtain ⟨_, list, _⟩ := passes_bind.mp h
  obtain ⟨allowed, value, _⟩ := stringList_find list
  exact ⟨⟨entry, code, allowed, found, value⟩, rfl, rfl⟩

theorem eventEntry_passes {categories scopes roleCodes : List String} {i : Nat} {u v : Unit}
    {entry : Dict} {code : String} (found : entry.find "code" = some (.str code))
    (h : Passes (eventEntry categories scopes roleCodes i u entry) v) :
    ∃ e : EventEntry, e.entry = entry ∧ e.code = code := by
  obtain ⟨_, _, h⟩ := passes_bind.mp h
  obtain ⟨_, _, h⟩ := passes_bind.mp h
  obtain ⟨_, _, h⟩ := passes_bind.mp h
  obtain ⟨_, _, h⟩ := passes_bind.mp h
  obtain ⟨_, list, _⟩ := passes_bind.mp h
  obtain ⟨roles, value, _, _, _, nonempty⟩ := stringList_find list
  exact ⟨⟨entry, code, roles, found, value, nonempty rfl⟩, rfl, rfl⟩

theorem guardFailure_passes {entry : Dict} {path : String} {u : Unit}
    (h : Passes (guardFailure entry path) u) :
    ∃ (failure : Dict) (status : Int) (code message : String),
      entry.find "failure" = some (.dict failure) ∧
      failure.find "http_status" = some (.atom (.int status)) ∧
      failure.find "error_code" = some (.str code) ∧
      failure.find "message" = some (.str message) := by
  obtain ⟨failure, mapping, h⟩ := passes_bind.mp h
  obtain ⟨value, nonempty⟩ := requiredMapping_passes mapping
  rw [if_neg (by simpa using nonempty)] at h
  have parts : (∃ n, failure.get "http_status" = .atom (.int n)) ∧
      ∀ key ∈ ["error_code", "message"],
        Passes (do let _ ← requiredString failure key s!"{path}.failure"; pure ()) () := by
    cases hs : (failure.get "http_status").asInt? with
    | none =>
        simp only [hs] at h
        obtain ⟨_, bad, _⟩ := passes_bind.mp h
        exact absurd bad (not_passes_report _ _)
    | some n =>
        simp only [hs] at h
        obtain ⟨_, _, texts⟩ := passes_bind.mp h
        exact ⟨⟨n, Value.asInt?_eq_some.mp hs⟩, passes_forEach.mp texts⟩
  obtain ⟨⟨n, hn⟩, texts⟩ := parts
  have text (key : String) (hk : key ∈ ["error_code", "message"]) :
      ∃ s, failure.find key = some (.str s) := by
    obtain ⟨_, required, _⟩ := passes_bind.mp (texts key hk)
    obtain ⟨s, found, _⟩ := requiredString_passes required
    exact ⟨s, found⟩
  obtain ⟨code, hc⟩ := text "error_code" (by simp)
  obtain ⟨message, hm⟩ := text "message" (by simp)
  exact ⟨failure, n, code, message, Dict.find_of_get value (by simp),
    Dict.find_of_get hn (by simp), hc, hm⟩

theorem guardEntry_passes {categories : List String} {i : Nat} {u v : Unit} {entry : Dict}
    {id : String} (found : entry.find "id" = some (.str id))
    (h : Passes (guardEntry categories i u entry) v) :
    ∃ g : GuardEntry, g.entry = entry ∧ g.id = id := by
  obtain ⟨_, named, h⟩ := passes_bind.mp h
  obtain ⟨_, _, h⟩ := passes_bind.mp h
  obtain ⟨_, _, h⟩ := passes_bind.mp h
  obtain ⟨category, hcategory, _⟩ := requiredString_passes named
  obtain ⟨failure, status, code, message, hf, hs, hc, hm⟩ := guardFailure_passes h
  exact ⟨⟨entry, id, category, failure, status, code, message, found, hcategory, hf, hs, hc, hm⟩,
    rfl, rfl⟩

theorem ruleFromState_passes {stateCodes : List String} {entry : Dict} {path : String}
    {result : Option String} (h : Passes (ruleFromState stateCodes entry path) result) :
    ∃ raw : Option String, entry.find "from_inquiry_state" = some (.ofOption raw) ∧
      (∀ s, raw = some s → hasText s = true) ∧ result = raw.map strip := by
  unfold ruleFromState at h
  split at h
  · obtain ⟨_, bad, _⟩ := passes_bind.mp h
    exact absurd bad (not_passes_report _ _)
  · rename_i present
    have isSome : (entry.find "from_inquiry_state").isSome := by
      rw [← Dict.has_iff_find]
      simpa using present
    obtain ⟨v, hv⟩ := Option.isSome_iff_exists.mp isSome
    rw [Dict.get_of_find hv] at h
    rw [hv]
    by_cases hnone : v.isNone = true
    · simp only [hnone, ite_true] at h
      refine ⟨none, by rw [Value.isNone_iff.mp hnone]; rfl, by simp, ?_⟩
      exact (passes_pure.mp h).symm
    · simp only [hnone, Bool.false_eq_true, ite_false] at h
      cases hs : nonemptyString? v with
      | none =>
          simp only [hs] at h
          obtain ⟨_, bad, _⟩ := passes_bind.mp h
          exact absurd bad (not_passes_report _ _)
      | some s =>
          simp only [hs] at h
          obtain ⟨rfl, text⟩ := nonemptyString?_eq_some.mp hs
          obtain ⟨_, _, h⟩ := passes_bind.mp h
          refine ⟨some s, rfl, ?_, (passes_pure.mp h).symm⟩
          rintro t ⟨⟩
          exact text

theorem ruleVersionStart_passes {terminalStates : List String} {entry : Dict}
    {fromState : Option String} {path : String} {u : Unit}
    (h : Passes (ruleVersionStart terminalStates entry fromState path) u) :
    (entry.get "version_action" = .str "INITIALIZE_1" ↔ fromState = none) ∧
      ∀ s, fromState = some s → s ∉ terminalStates := by
  rw [← Value.eqStr_iff]
  unfold ruleVersionStart at h
  cases hs : (entry.get "version_action").eqStr "INITIALIZE_1" <;> cases fromState with
  | none => simp_all [passes_bind]
  | some s => simp_all [passes_bind]

theorem ruleVisitStatus_passes {visitStatuses : List String} {visit : Dict}
    {path key : String} {u : Unit} (h : Passes (ruleVisitStatus visitStatuses visit path key) u) :
    ∃ status : Option String, visit.get key = .ofOption status ∧
      ∀ s, status = some s → hasText s = true := by
  unfold ruleVisitStatus at h
  split at h
  · rename_i absent
    exact ⟨none, Value.isNone_iff.mp absent, by simp⟩
  · obtain ⟨_, required, _⟩ := passes_bind.mp h
    obtain ⟨s, found, text, _⟩ := requiredString_passes required
    refine ⟨some s, Dict.get_of_find found, ?_⟩
    rintro t ⟨⟩
    exact text

/-- The statuses named by a passed visit mapping, behind its stripped mode. -/
theorem ruleVisit_passes {visitModes : List Atom} {visitStatuses : List String} {entry : Dict}
    {path : String} {visit : Dict} {mode : Option String}
    (h : Passes (ruleVisit visitModes visitStatuses entry path) (visit, mode)) :
    entry.find "visit" = some (.dict visit) ∧ (∃ raw, visit.find "mode" = some (.str raw)) ∧
      ∀ key ∈ ["from_status", "to_status", "required_status"],
        ∃ status : Option String, visit.get key = .ofOption status ∧
          ∀ s, status = some s → hasText s = true := by
  obtain ⟨mapping, passed, h⟩ := passes_bind.mp h
  obtain ⟨value, nonempty⟩ := requiredMapping_passes passed
  rw [if_neg (by simpa using nonempty)] at h
  obtain ⟨_, required, h⟩ := passes_bind.mp h
  obtain ⟨_, _, h⟩ := passes_bind.mp h
  obtain ⟨_, statuses, h⟩ := passes_bind.mp h
  cases passes_pure.mp h
  obtain ⟨raw, found, _⟩ := requiredString_passes required
  refine ⟨Dict.find_of_get value (by simp), ⟨raw, found⟩, ?_⟩
  intro key hk
  exact ruleVisitStatus_passes (passes_forEach.mp statuses key hk)

/-- A key that reads as a string or null is missing or holds that value. -/
theorem find_of_get_option {d : Dict} {key : String} {s : Option String}
    (h : d.get key = .ofOption s) :
    ∃ present : Option (Option String), d.find key = present.map .ofOption := by
  cases hf : d.find key with
  | none => exact ⟨none, rfl⟩
  | some v => exact ⟨some s, by rw [Option.map_some, ← h, Dict.get_of_find hf]⟩

theorem transitionEntry_passes {registries : TransitionRegistries}
    {visitModes versionActions : List Atom} {i : Nat} {seen result : SeenTransitions}
    {entry : Dict} {id : String} (found : entry.find "id" = some (.str id))
    (h : Passes (transitionEntry registries visitModes versionActions i seen entry) result) :
    ∃ r : Rule, r.entry = entry ∧ r.id = id ∧
      ∀ s, r.fromState = some s → strip s ∉ registries.terminalStates := by
  obtain ⟨_, event, h⟩ := passes_bind.mp h
  obtain ⟨_, _, h⟩ := passes_bind.mp h
  obtain ⟨_, from_, h⟩ := passes_bind.mp h
  obtain ⟨_, to_, h⟩ := passes_bind.mp h
  obtain ⟨_, _, h⟩ := passes_bind.mp h
  obtain ⟨_, start, h⟩ := passes_bind.mp h
  obtain ⟨⟨visit, mode⟩, visited, h⟩ := passes_bind.mp h
  obtain ⟨_, _, h⟩ := passes_bind.mp h
  obtain ⟨_, refs, h⟩ := passes_bind.mp h
  obtain ⟨_, history, _⟩ := passes_bind.mp h
  obtain ⟨eventRaw, event_eq, event_text, _⟩ := requiredString_passes event
  obtain ⟨fromState, from_eq, from_text, rfl⟩ := ruleFromState_passes from_
  obtain ⟨toState, to_eq, _⟩ := requiredString_passes to_
  obtain ⟨initial, open_⟩ := ruleVersionStart_passes start
  obtain ⟨visit_eq, ⟨rawMode, mode_eq⟩, statuses⟩ := ruleVisit_passes visited
  obtain ⟨required, required_eq, required_text⟩ := statuses "required_status" (by simp)
  obtain ⟨fromStatus, fromStatus_eq, fromStatus_text⟩ := statuses "from_status" (by simp)
  obtain ⟨_, to_status, _⟩ := statuses "to_status" (by simp)
  obtain ⟨toStatus, toStatus_eq⟩ := find_of_get_option to_status
  obtain ⟨_, list, _⟩ := passes_bind.mp refs
  obtain ⟨guardRefs, refs_eq, _⟩ := stringList_find list
  obtain ⟨historyMap, mapping, _⟩ := passes_bind.mp history
  obtain ⟨history_eq, _⟩ := requiredMapping_passes mapping
  have initial_iff : entry.get "version_action" = .str "INITIALIZE_1" ↔ fromState = none := by
    rw [initial, Option.map_eq_none_iff]
  refine ⟨{
    entry := entry, id := id, event := eventRaw, fromState := fromState, toState := toState
    visit := visit, mode := rawMode, requiredStatus := required, fromStatus := fromStatus
    toStatus := toStatus, guardRefs := guardRefs, history := historyMap
    id_eq := found, event_eq := event_eq, fromState_eq := from_eq, toState_eq := to_eq
    visit_eq := visit_eq, mode_eq := mode_eq, required_eq := required_eq
    fromStatus_eq := fromStatus_eq, toStatus_eq := toStatus_eq, guardRefs_eq := refs_eq
    history_eq := Dict.find_of_get history_eq (by simp), event_text := event_text
    from_text := from_text, required_text := required_text
    fromStatus_text := fromStatus_text, initial_iff := initial_iff }, rfl, rfl, ?_⟩
  rintro s rfl
  exact open_ (strip s) rfl

/-! Whole sections: the entries are the views', with distinct codes. -/

/-- Views of the entries of a passed, indexed list. -/
theorem views_of_registered {α : Type} {key : String} {entries : List Dict} {index : Index}
    (entry : α → Dict) (code : α → String)
    (code_eq : ∀ a, (entry a).find key = some (.str (code a)))
    (registered : List.Forall₂ (Registered key) entries index)
    (view : ∀ e ∈ entries, ∀ c, e.find key = some (.str c) → ∃ a, entry a = e) :
    ∃ views : List α, entries = views.map entry ∧
      index.codes = views.map fun a => strip (code a) := by
  induction registered with
  | nil => exact ⟨[], rfl, rfl⟩
  | @cons e p es ps head tail ih =>
      obtain ⟨c, found, text, rfl⟩ := head
      obtain ⟨a, rfl⟩ := view e List.mem_cons_self c found
      obtain ⟨views, rfl, codes⟩ := ih fun e he => view e (List.mem_cons_of_mem _ he)
      have same : code a = c := by simpa [code_eq a] using found
      refine ⟨a :: views, rfl, ?_⟩
      simpa [Index.codes, same] using codes

theorem nodup_of_strip {α : Type} {code : α → String} {views : List α}
    (h : (views.map fun a => strip (code a)).Nodup) : (views.map code).Nodup := by
  refine List.Nodup.of_map strip ?_
  rwa [List.map_map]

structure AcceptedStates (doc : Dict) where
  states : List StateEntry
  terminal : List String
  states_eq : doc.find "states" = some (.list (states.map fun s => .dict s.entry))
  terminal_eq : doc.find "terminal_states" = some (.list (terminal.map .str))
  codes_nodup : (states.map (·.code)).Nodup

theorem validateStates_passes {doc : Dict} {result : StateSection}
    (h : Passes (validateStates doc) result) :
    ∃ a : AcceptedStates doc, result.terminalStates = a.terminal.map strip := by
  obtain ⟨entries, mappings, h⟩ := passes_bind.mp h
  obtain ⟨index, indexed, h⟩ := passes_bind.mp h
  obtain ⟨_, _, h⟩ := passes_bind.mp h
  obtain ⟨_, _, h⟩ := passes_bind.mp h
  obtain ⟨terminalStates, terminals, h⟩ := passes_bind.mp h
  obtain ⟨_, _, h⟩ := passes_bind.mp h
  obtain ⟨_, _, h⟩ := passes_bind.mp h
  obtain ⟨_, _, h⟩ := passes_bind.mp h
  obtain ⟨_, loop, h⟩ := passes_bind.mp h
  obtain ⟨_, _, h⟩ := passes_bind.mp h
  obtain ⟨_, _, h⟩ := passes_bind.mp h
  obtain rfl := passes_pure.mp h
  obtain ⟨entries_eq, _⟩ := mappingEntries_passes mappings
  obtain ⟨registered, distinct⟩ := codeIndex_passes indexed
  obtain ⟨terminal, terminal_eq, _, rfl, _⟩ := stringList_find terminals
  obtain ⟨states, rfl, codes⟩ := views_of_registered _ _ StateEntry.code_eq registered
    fun e he c found => by
      obtain ⟨_, _, _, passed⟩ := passes_foldIdx_item loop he
      obtain ⟨s, hs, _⟩ := stateEntry_passes found passed
      exact ⟨s, hs⟩
  refine ⟨⟨states, terminal, ?_, terminal_eq, ?_⟩, rfl⟩
  · refine Dict.find_of_get ?_ (by simp)
    rw [entries_eq, List.map_map]
    rfl
  · rw [codes] at distinct
    exact nodup_of_strip distinct

structure AcceptedEvents (doc : Dict) where
  events : List EventEntry
  events_eq : doc.find "events" = some (.list (events.map fun e => .dict e.entry))
  codes_nodup : (events.map (·.code)).Nodup

theorem validateEvents_passes {doc : Dict} {result : EventSection}
    (h : Passes (validateEvents doc) result) : Nonempty (AcceptedEvents doc) := by
  obtain ⟨_, _, h⟩ := passes_bind.mp h
  obtain ⟨_, _, h⟩ := passes_bind.mp h
  obtain ⟨_, _, h⟩ := passes_bind.mp h
  obtain ⟨entries, mappings, h⟩ := passes_bind.mp h
  obtain ⟨index, indexed, h⟩ := passes_bind.mp h
  obtain ⟨_, loop, _⟩ := passes_bind.mp h
  obtain ⟨entries_eq, _⟩ := mappingEntries_passes mappings
  obtain ⟨registered, distinct⟩ := codeIndex_passes indexed
  obtain ⟨events, rfl, codes⟩ := views_of_registered _ _ EventEntry.code_eq registered
    fun e he c found => by
      obtain ⟨_, _, _, passed⟩ := passes_foldIdx_item loop he
      obtain ⟨v, hv, _⟩ := eventEntry_passes found passed
      exact ⟨v, hv⟩
  refine ⟨⟨events, ?_, ?_⟩⟩
  · refine Dict.find_of_get ?_ (by simp)
    rw [entries_eq, List.map_map]
    rfl
  · rw [codes] at distinct
    exact nodup_of_strip distinct

structure AcceptedGuards (doc : Dict) where
  guards : List GuardEntry
  categories : List String
  guards_eq : doc.find "guards" = some (.list (guards.map fun g => .dict g.entry))
  categories_eq : doc.find "guard_categories" = some (.list (categories.map .str))
  ids_nodup : (guards.map (·.id)).Nodup

theorem validateGuards_passes {doc : Dict} {result : Index}
    (h : Passes (validateGuards doc) result) : Nonempty (AcceptedGuards doc) := by
  obtain ⟨_, list, h⟩ := passes_bind.mp h
  obtain ⟨entries, mappings, h⟩ := passes_bind.mp h
  obtain ⟨index, indexed, h⟩ := passes_bind.mp h
  obtain ⟨_, loop, _⟩ := passes_bind.mp h
  obtain ⟨categories, categories_eq, _⟩ := stringList_find list
  obtain ⟨entries_eq, _⟩ := mappingEntries_passes mappings
  obtain ⟨registered, distinct⟩ := codeIndex_passes indexed
  obtain ⟨guards, rfl, codes⟩ := views_of_registered _ _ GuardEntry.id_eq registered
    fun e he c found => by
      obtain ⟨_, _, _, passed⟩ := passes_foldIdx_item loop he
      obtain ⟨g, hg, _⟩ := guardEntry_passes found passed
      exact ⟨g, hg⟩
  refine ⟨⟨guards, categories, ?_, categories_eq, ?_⟩⟩
  · refine Dict.find_of_get ?_ (by simp)
    rw [entries_eq, List.map_map]
    rfl
  · rw [codes] at distinct
    exact nodup_of_strip distinct

structure AcceptedTransitions (doc : Dict) where
  rules : List Rule
  rules_eq : doc.find "transitions" = some (.list (rules.map fun r => .dict r.entry))

theorem validateTransitions_passes {doc : Dict} {registries : TransitionRegistries}
    {result : Index} (h : Passes (validateTransitions doc registries) result) :
    ∃ a : AcceptedTransitions doc, ∀ r ∈ a.rules, ∀ s, r.fromState = some s →
      strip s ∉ registries.terminalStates := by
  obtain ⟨entries, mappings, h⟩ := passes_bind.mp h
  obtain ⟨index, indexed, h⟩ := passes_bind.mp h
  obtain ⟨_, _, h⟩ := passes_bind.mp h
  obtain ⟨_, _, h⟩ := passes_bind.mp h
  obtain ⟨_, _, h⟩ := passes_bind.mp h
  obtain ⟨_, loop, _⟩ := passes_bind.mp h
  obtain ⟨entries_eq, _⟩ := mappingEntries_passes mappings
  obtain ⟨registered, _⟩ := codeIndex_passes indexed
  obtain ⟨views, rfl, _⟩ := views_of_registered
    (α := { r : Rule // ∀ s, r.fromState = some s → strip s ∉ registries.terminalStates })
    (fun r => r.1.entry) (fun r => r.1.id) (fun r => r.1.id_eq) registered
    fun e he c found => by
      obtain ⟨_, _, _, passed⟩ := passes_foldIdx_item loop he
      obtain ⟨r, hr, _, open_⟩ := transitionEntry_passes found passed
      exact ⟨⟨r, open_⟩, hr⟩
  refine ⟨⟨views.map (·.1), ?_⟩, ?_⟩
  · refine Dict.find_of_get ?_ (by simp)
    rw [entries_eq, List.map_map, List.map_map]
    rfl
  · intro r hr
    obtain ⟨v, _, rfl⟩ := List.mem_map.mp hr
    exact v.2

/-- An accepted contract, read back from its documents. -/
structure Accepted (documents : Value) where
  root : Dict
  statesDoc : Dict
  eventsDoc : Dict
  transitionsDoc : Dict
  guardsDoc : Dict
  root_eq : documents = .dict root
  states_eq : root.find "states" = some (.dict statesDoc)
  events_eq : root.find "events" = some (.dict eventsDoc)
  transitions_eq : root.find "transitions" = some (.dict transitionsDoc)
  guards_eq : root.find "guards" = some (.dict guardsDoc)
  states : AcceptedStates statesDoc
  events : AcceptedEvents eventsDoc
  transitions : AcceptedTransitions transitionsDoc
  guards : AcceptedGuards guardsDoc
  from_open : ∀ r ∈ transitions.rules, ∀ s, r.fromState = some s → s ∉ states.terminal

theorem accepted_of_no_errors {documents : Value}
    (h : collectContractErrors documents = .ok []) : Nonempty (Accepted documents) := by
  obtain ⟨root, rfl, audit⟩ := auditContract_passes h
  obtain ⟨docs, read, h⟩ := passes_bind.mp audit
  obtain ⟨_, _, h⟩ := passes_bind.mp h
  obtain ⟨stateSection, states, h⟩ := passes_bind.mp h
  obtain ⟨_, events, h⟩ := passes_bind.mp h
  obtain ⟨_, guards, h⟩ := passes_bind.mp h
  obtain ⟨_, transitions, _⟩ := passes_bind.mp h
  obtain ⟨_, states_eq, read⟩ := passes_bind.mp read
  obtain ⟨_, events_eq, read⟩ := passes_bind.mp read
  obtain ⟨_, transitions_eq, read⟩ := passes_bind.mp read
  obtain ⟨_, guards_eq, read⟩ := passes_bind.mp read
  obtain ⟨_, _, read⟩ := passes_bind.mp read
  obtain ⟨_, _, read⟩ := passes_bind.mp read
  obtain rfl := passes_pure.mp read
  obtain ⟨s, terminal⟩ := validateStates_passes states
  obtain ⟨e⟩ := validateEvents_passes events
  obtain ⟨g⟩ := validateGuards_passes guards
  obtain ⟨t, open_⟩ := validateTransitions_passes transitions
  refine ⟨⟨root, _, _, _, _, rfl, document_passes states_eq, document_passes events_eq,
    document_passes transitions_eq, document_passes guards_eq, s, e, t, g, ?_⟩⟩
  intro r hr code hcode listed
  apply open_ r hr code hcode
  rw [terminal]
  exact List.mem_map_of_mem listed

end WaterCare.Contract
