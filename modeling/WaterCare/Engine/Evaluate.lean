import WaterCare.Engine.Resolve
import WaterCare.Engine.GuardEvaluator

/-!
The guard evaluator over an accepted contract: which contracts it can be built
from, and which references make its evaluation fail for some context.
-/

namespace WaterCare.Engine
open Py Contract

/-! ### The precedence of guard categories -/

theorem mem_insertBefore {next value x : Value} {items : List Value} :
    x ∈ insertBefore next value items ↔ x = value ∨ x ∈ items := by
  induction items with
  | nil => simp [insertBefore]
  | cons item rest ih =>
      rw [insertBefore]
      split
      · exact List.mem_cons
      · rw [List.mem_cons, ih, List.mem_cons, or_left_comm]

/-- Filling in categories adds no other item and drops none. -/
theorem fillPrecedence_mem (categories effective : List Value) :
    ∃ filled, fillPrecedence true effective categories = .ok filled ∧
      ∀ x ∈ filled, x ∈ effective ∨ x ∈ categories := by
  induction categories generalizing effective with
  | nil => exact ⟨effective, rfl, fun x hx => .inl hx⟩
  | cons category later ih =>
      rw [fillPrecedence]
      split_ifs with known slice
      · obtain ⟨filled, eq, mem⟩ := ih effective
        exact ⟨filled, eq, fun x hx => (mem x hx).imp_right (List.mem_cons_of_mem _)⟩
      · cases slice
      · cases later.find? fun candidate => inItems candidate effective with
        | none =>
            obtain ⟨filled, eq, mem⟩ := ih (effective ++ [category])
            refine ⟨filled, eq, fun x hx => ?_⟩
            have := mem x hx
            simp only [List.mem_append, List.mem_cons] at this ⊢
            tauto
        | some next =>
            obtain ⟨filled, eq, mem⟩ := ih (insertBefore next category effective)
            refine ⟨filled, eq, fun x hx => ?_⟩
            have := mem x hx
            simp only [mem_insertBefore, List.mem_cons] at this ⊢
            tauto

theorem fillPrecedence_keeps {sliceable : Bool} {categories effective filled : List Value}
    (h : fillPrecedence sliceable effective categories = .ok filled) :
    ∀ x ∈ effective, x ∈ filled := by
  induction categories generalizing effective with
  | nil => cases h; exact fun x hx => hx
  | cons category later ih =>
      rw [fillPrecedence] at h
      split_ifs at h
      · exact ih h
      · intro x hx
        cases hf : later.find? fun candidate => inItems candidate effective with
        | none => rw [hf] at h; exact ih h x (List.mem_append_left _ hx)
        | some next => rw [hf] at h; exact ih h x (mem_insertBefore.mpr (.inr hx))

theorem precedenceIndex_ok_iff (items : List Value) (index : Nat) (acc : List (Atom × Nat)) :
    (∃ result, precedenceIndex index acc items = .ok result) ↔
      ∀ item ∈ items, ∃ a, item = .atom a := by
  induction items generalizing index acc with
  | nil => simp [precedenceIndex]
  | cons item rest ih =>
      rw [precedenceIndex, List.forall_mem_cons]
      cases item with
      | atom a =>
          change (∃ result, precedenceIndex (index + 1) (assign acc a index) rest = .ok result) ↔ _
          rw [ih]
          simp
      | list _ | dict _ => simp [Value.hashed, bind, Except.bind]

/-- A declared precedence the evaluator can index: a string, a mapping, or a
list of scalars. -/
def IndexablePrecedence (declared : Value) : Prop :=
  ∃ items, declared.iter = .ok items ∧ ∀ item ∈ items, ∃ a, item = .atom a

theorem effectiveGuardPrecedence_ok_iff (declared : Value) (categories : List String) :
    (∃ result, effectiveGuardPrecedence declared (.list (categories.map .str)) = .ok result) ↔
      IndexablePrecedence declared := by
  rw [effectiveGuardPrecedence, IndexablePrecedence]
  cases declared.iter with
  | error e => simp [bind, Except.bind]
  | ok items =>
      obtain ⟨filled, eq, mem⟩ := fillPrecedence_mem (categories.map .str) items
      have filled_ok : (∃ result, precedenceIndex 0 [] filled = .ok result) ↔
          ∀ item ∈ items, ∃ a, item = .atom a := by
        rw [precedenceIndex_ok_iff]
        constructor
        · exact fun h x hx => h x (fillPrecedence_keeps eq x hx)
        · intro h x hx
          rcases mem x hx with hx | hx
          · exact h x hx
          · obtain ⟨s, _, rfl⟩ := List.mem_map.mp hx
            exact ⟨.str s, rfl⟩
      simp only [bind, Except.bind, Value.iter_list, Value.asDict?, Option.isNone_none, eq,
        filled_ok, Except.ok.injEq, exists_eq_left']

section Accepted
variable {documents : Value} (A : Accepted documents)

/-- `evaluation_policy["security_precedence"]` of the guard document. -/
def declaredPrecedence (documents : Value) : Except Exn Value := do
  (← (docSection documents "guards").item "evaluation_policy").item "security_precedence"

def evaluatorOf (precedence : List (Atom × Nat)) : GuardEvaluator where
  events := A.events.events.map fun e => (.str e.code, .dict e.entry)
  guards := A.guards.guards.map fun g => (.str g.id, .dict g.entry)
  defaults := defaultsOf documents
  guardPrecedence := precedence

theorem evaluator_init_eq :
    GuardEvaluator.init documents = (do
      let declared ← declaredPrecedence documents
      let precedence ← effectiveGuardPrecedence declared (.list (A.guards.categories.map .str))
      pure (evaluatorOf A precedence)) := by
  have events : (Value.dict A.eventsDoc).item "events" = .ok _ :=
    Dict.item_eq_ok_iff.mpr A.events.events_eq
  have guards : (Value.dict A.guardsDoc).item "guards" = .ok _ :=
    Dict.item_eq_ok_iff.mpr A.guards.guards_eq
  have categories : (Value.dict A.guardsDoc).item "guard_categories" = .ok _ :=
    Dict.item_eq_ok_iff.mpr A.guards.categories_eq
  have keyedEvents := keyedBy_views EventEntry.code_eq A.events.codes_nodup
  have keyedGuards := keyedBy_views GuardEntry.id_eq A.guards.ids_nodup
  simp only [GuardEvaluator.init, documents_item A A.events_eq, documents_item A A.transitions_eq,
    documents_item A A.guards_eq, events, guards, categories, keyedEvents, keyedGuards,
    Value.iter_list, Value.getOr, bind, Except.bind, declaredPrecedence,
    A.docSection_eq A.guards_eq, Value.item_dict]
  cases Dict.item A.guardsDoc "evaluation_policy" with
  | error e => rfl
  | ok policy =>
      dsimp only
      cases policy.item "security_precedence" with
      | error e => rfl
      | ok declared =>
          dsimp only
          cases effectiveGuardPrecedence declared (.list (A.guards.categories.map .str)) with
          | error e => rfl
          | ok precedence =>
              simp only [evaluatorOf, defaultsOf, A.docSection_eq A.transitions_eq]

include A in
theorem evaluator_init_ok_iff :
    (∃ g, GuardEvaluator.init documents = .ok g) ↔
      ∃ declared, declaredPrecedence documents = .ok declared ∧ IndexablePrecedence declared := by
  rw [evaluator_init_eq A]
  cases declaredPrecedence documents with
  | error e => simp [bind, Except.bind]
  | ok declared =>
      simp only [bind, Except.bind, Except.ok.injEq, exists_eq_left']
      rw [← effectiveGuardPrecedence_ok_iff declared A.guards.categories]
      cases effectiveGuardPrecedence declared (.list (A.guards.categories.map .str)) with
      | error e => simp
      | ok precedence => simp [pure, Except.pure]

/-! ### Evaluation -/

variable (precedence : List (Atom × Nat))

def guardIds (documents : Value) : List String :=
  (docEntries documents "guards" "guards").filterMap fun g => (g.get "id").asStr?

theorem guardIds_eq : guardIds documents = A.guards.guards.map (·.id) := by
  have entries : docEntries documents "guards" "guards" = A.guards.guards.map (·.entry) := by
    rw [docEntries, A.docSection_eq A.guards_eq, Dict.get_of_find A.guards.guards_eq]
    exact asDict?_views _ _
  rw [guardIds, entries, List.filterMap_map]
  have read (g : GuardEntry) : (g.entry.get "id").asStr? = some g.id := by
    rw [Dict.get_of_find g.id_eq]
    rfl
  simp only [Function.comp_def, read]
  exact congrFun List.filterMap_eq_map _

theorem guard_registered {id : String} (h : id ∈ guardIds documents) :
    ∃ g : GuardEntry, (evaluatorOf A precedence).guard (.str id) = .ok (.dict g.entry) := by
  rw [guardIds_eq A] at h
  obtain ⟨g, hg, same⟩ := List.mem_map.mp h
  have some_found : (A.guards.guards.find? fun g => decide (g.id = id)).isSome := by
    rw [List.find?_isSome]
    exact ⟨g, hg, by simpa using same⟩
  obtain ⟨f, hf⟩ := Option.isSome_iff_exists.mp some_found
  refine ⟨f, ?_⟩
  simp only [GuardEvaluator.guard, evaluatorOf, lookup_views, hf, Option.map_some]

theorem guard_unregistered {id : String} (h : id ∉ guardIds documents) :
    (evaluatorOf A precedence).guard (.str id) = .error (.keyError id) := by
  rw [guardIds_eq A] at h
  have absent : A.guards.guards.find? (fun g => decide (g.id = id)) = none := by
    rw [List.find?_eq_none]
    intro g hg same
    exact h (List.mem_map.mpr ⟨g, hg, by simpa using same⟩)
  simp only [GuardEvaluator.guard, evaluatorOf, lookup_views, absent, Option.map_none, Atom.text]

theorem contractFailure_ok (g : GuardEntry) (reason : GuardReason) :
    ∃ failure, contractFailure (.dict g.entry) reason = .ok failure := by
  have failure : (Value.dict g.entry).item "failure" = .ok (.dict g.failure) :=
    Dict.item_eq_ok_iff.mpr g.failure_eq
  have id : (Value.dict g.entry).item "id" = .ok (.str g.id) := Dict.item_eq_ok_iff.mpr g.id_eq
  have category : (Value.dict g.entry).item "category" = .ok (.str g.category) :=
    Dict.item_eq_ok_iff.mpr g.category_eq
  have status : (Value.dict g.failure).item "http_status" = .ok (.atom (.int g.httpStatus)) :=
    Dict.item_eq_ok_iff.mpr g.status_eq
  have error : (Value.dict g.failure).item "error_code" = .ok (.str g.errorCode) :=
    Dict.item_eq_ok_iff.mpr g.error_eq
  have message : (Value.dict g.failure).item "message" = .ok (.str g.message) :=
    Dict.item_eq_ok_iff.mpr g.message_eq
  simp only [contractFailure, failure, id, category, status, error, message, bind, Except.bind,
    pure, Except.pure, Except.ok.injEq, exists_eq']

theorem refRank_ok {ref : String} (registered : ref ∈ guardIds documents) :
    ∃ rank, (evaluatorOf A precedence).refRank (.str ref) = .ok rank := by
  obtain ⟨g, found⟩ := guard_registered A precedence registered
  have category : (Value.dict g.entry).item "category" = .ok (.str g.category) :=
    Dict.item_eq_ok_iff.mpr g.category_eq
  rw [GuardEvaluator.refRank, found]
  simp only [category, Value.hashed_str, bind, Except.bind, pure, Except.pure, Except.ok.injEq,
    exists_eq']

theorem rankedRefs_ok {refs : List String} (registered : ∀ ref ∈ refs, ref ∈ guardIds documents) :
    ∃ ranked, (evaluatorOf A precedence).rankedRefs (refs.map .str) = .ok ranked ∧
      ∀ p ∈ ranked, ∃ ref ∈ refs, p.2 = .str ref := by
  induction refs with
  | nil => exact ⟨[], rfl, by simp⟩
  | cons ref rest ih =>
      obtain ⟨ranked, eq, mem⟩ := ih fun r hr => registered r (List.mem_cons_of_mem _ hr)
      obtain ⟨rank, ranks⟩ := refRank_ok A precedence (registered ref List.mem_cons_self)
      refine ⟨(rank, .str ref) :: ranked, ?_, ?_⟩
      · simp only [List.map_cons, GuardEvaluator.rankedRefs, Value.hashed_str, ranks, eq, bind,
          Except.bind, pure, Except.pure]
      · intro p hp
        rcases List.mem_cons.mp hp with rfl | hp
        · exact ⟨ref, List.mem_cons_self, rfl⟩
        · obtain ⟨r, hr, same⟩ := mem p hp
          exact ⟨r, List.mem_cons_of_mem _ hr, same⟩

theorem rankedRefs_error {refs : List String} {ref : String} (listed : ref ∈ refs)
    (unregistered : ref ∉ guardIds documents) :
    ∃ e, (evaluatorOf A precedence).rankedRefs (refs.map .str) = .error e := by
  induction refs with
  | nil => cases listed
  | cons head rest ih =>
      rw [List.map_cons, GuardEvaluator.rankedRefs]
      simp only [Value.hashed_str, bind, Except.bind]
      by_cases known : head ∈ guardIds documents
      · have : ref ∈ rest := by
          rcases List.mem_cons.mp listed with rfl | h
          · exact absurd known unregistered
          · exact h
        obtain ⟨e, he⟩ := ih this
        rw [he]
        cases (evaluatorOf A precedence).refRank (.str head) with
        | error e' => exact ⟨e', rfl⟩
        | ok rank => exact ⟨e, rfl⟩
      · rw [GuardEvaluator.refRank, guard_unregistered A precedence known]
        exact ⟨_, rfl⟩

theorem evaluateGuard_ok (guardId : Atom) (event : Dict) (snapshot : WorkflowSnapshot)
    (context : GuardContext) :
    ∃ reason, GuardEvaluator.evaluateGuard guardId (.dict event) snapshot context = .ok reason := by
  unfold GuardEvaluator.evaluateGuard
  split
  · exact ⟨_, rfl⟩
  · exact ⟨_, rfl⟩
  · split_ifs
    · change ∃ reason, (if (event.getD "requires_state_version" .none).isTrue then _ else _) = _
      split_ifs <;> exact ⟨_, rfl⟩
    · exact ⟨_, rfl⟩
    · split
      · split <;> exact ⟨_, rfl⟩
      · exact ⟨_, rfl⟩

theorem firstFailure_ok (event : Dict) (snapshot : WorkflowSnapshot) (context : GuardContext)
    {ids : List Atom} (registered : ∀ id ∈ ids, ∃ ref ∈ guardIds documents, id = .str ref) :
    ∃ failure, (evaluatorOf A precedence).firstFailure (.dict event) snapshot context ids =
      .ok failure := by
  induction ids with
  | nil => exact ⟨none, rfl⟩
  | cons id rest ih =>
      obtain ⟨ref, known, rfl⟩ := registered id List.mem_cons_self
      obtain ⟨g, found⟩ := guard_registered A precedence known
      obtain ⟨reason, held⟩ := evaluateGuard_ok (.str ref) event snapshot context
      obtain ⟨failure, later⟩ := ih fun r hr => registered r (List.mem_cons_of_mem _ hr)
      rw [GuardEvaluator.firstFailure, found]
      simp only [held, bind, Except.bind]
      cases reason with
      | none => exact ⟨failure, later⟩
      | some reason =>
          obtain ⟨f, hf⟩ := contractFailure_ok g reason
          exact ⟨some f, by simp only [hf]; rfl⟩

/-- The role guard a mismatch names is one of the references. -/
theorem roleGuardRef_ok (refs : List String) :
    ∃ found, roleGuardRef (refs.map .str) = .ok found ∧
      ∀ id, found = some id → ∃ ref ∈ refs, id = .str ref := by
  induction refs with
  | nil => exact ⟨none, rfl, by simp⟩
  | cons ref rest ih =>
      obtain ⟨found, eq, mem⟩ := ih
      rw [List.map_cons, roleGuardRef]
      simp only [Value.hashed_str, bind, Except.bind]
      split_ifs
      · refine ⟨some (.str ref), rfl, ?_⟩
        rintro id ⟨⟩
        exact ⟨ref, List.mem_cons_self, rfl⟩
      · refine ⟨found, eq, fun id h => ?_⟩
        obtain ⟨r, hr, same⟩ := mem id h
        exact ⟨r, List.mem_cons_of_mem _ hr, same⟩

theorem actorRoles_contains (e : EventEntry) (role : Option String) :
    (do (← (Value.dict e.entry).getOr "actor_roles" (.list [])).contains role) =
      (Except.ok ((e.actorRoles.map fun r => Atom.str r).any fun a => a.eq (.ofOption role)) :
        Except Exn Bool) := by
  have roles : (Value.dict e.entry).getOr "actor_roles" (.list []) =
      .ok (.list (e.actorRoles.map .str)) := congrArg Except.ok (Dict.getD_of_find e.roles_eq)
  rw [roles]
  simp only [bind, Except.bind, Value.contains, List.any_map]
  rfl

theorem evaluateEventActor_ok (e : EventEntry) (context : GuardContext) {refs : List String}
    (registered : ∀ ref ∈ refs, ref ∈ guardIds documents) :
    ∃ failure, (evaluatorOf A precedence).evaluateEventActor (.dict e.entry) (refs.map .str)
      context = .ok failure := by
  unfold GuardEvaluator.evaluateEventActor
  dsimp only
  split_ifs
  · exact ⟨_, rfl⟩
  · simp only [evaluatorOf, lookup_views]
    cases A.guards.guards.find? fun g => decide (g.id = "G-ACTOR-SYSTEM") with
    | none => exact ⟨_, rfl⟩
    | some g =>
        obtain ⟨f, hf⟩ := contractFailure_ok g .untrustedInternalActor
        exact ⟨some f, by simp only [Option.map_some, hf]; rfl⟩
  · have contains := actorRoles_contains e context.actorRole
    simp only [bind, Except.bind] at contains ⊢
    cases hr : (Value.dict e.entry).getOr "actor_roles" (.list []) with
    | error err => rw [hr] at contains; cases contains
    | ok roles =>
        rw [hr] at contains
        dsimp only at contains ⊢
        rw [contains]
        dsimp only
        split_ifs
        · exact ⟨_, rfl⟩
        · obtain ⟨found, eq, mem⟩ := roleGuardRef_ok refs
          rw [eq]
          cases found with
          | none => exact ⟨_, rfl⟩
          | some id =>
              obtain ⟨ref, hr, rfl⟩ := mem id rfl
              obtain ⟨g, found⟩ := guard_registered A precedence (registered ref hr)
              obtain ⟨f, hf⟩ := contractFailure_ok g .eventRoleMismatch
              exact ⟨some f, by simp only [found, hf]; rfl⟩

/-- A version or idempotency guard the event requires is missing from the references. -/
def requiredMissing (event : Dict) (refs : List String) : Bool :=
  ((event.get "requires_state_version").isTrue && !refs.contains "G-STATE-VERSION") ||
    ((event.get "requires_idempotency_key").isTrue && !refs.contains "G-IDEMPOTENCY-KEY")

theorem any_eqStr (refs : List String) (id : String) :
    ((refs.map Value.str).any fun ref => ref.eqStr id) = refs.contains id := by
  rw [List.any_map, Bool.eq_iff_iff, List.any_eq_true, List.contains_iff_mem]
  simp [Value.eqStr_iff]

theorem missingRequiredGuard_eq (event : Dict) (refs : List String) :
    ∃ missing, missingRequiredGuard (.dict event) (refs.map .str) = .ok missing ∧
      missing.isSome = requiredMissing event refs := by
  have requires_eq (key : String) : requires (.dict event) key = .ok (event.get key).isTrue := rfl
  rw [missingRequiredGuard, requires_eq, requires_eq]
  refine ⟨_, rfl, ?_⟩
  simp only [any_eqStr, requiredMissing, List.isSome_find?]
  cases (event.get "requires_state_version").isTrue <;>
    cases (event.get "requires_idempotency_key").isTrue <;> simp

/-- The evaluation of a transition of an accepted rule ends for every context
when its references are registered, or a required one is missing. -/
theorem evaluate_ok {defaults : Dict} (mapping : defaultsOf documents = .dict defaults)
    {transition : Transition} {e : EventEntry} {refs : List String}
    (event : lookup (evaluatorOf A precedence).events (.str transition.eventCode) =
      some (.dict e.entry))
    (refs_eq : transition.guardRefs = refs.map .str)
    (registered : requiredMissing e.entry refs = false → ∀ ref ∈ refs, ref ∈ guardIds documents)
    (snapshot : WorkflowSnapshot) (context : GuardContext) :
    ∃ evaluation, (evaluatorOf A precedence).evaluate transition snapshot context =
      .ok evaluation := by
  obtain ⟨missing, missing_eq, some_iff⟩ := missingRequiredGuard_eq e.entry refs
  have defaults_eq : (evaluatorOf A precedence).defaults = .dict defaults := mapping
  rw [GuardEvaluator.evaluate, event, refs_eq, defaults_eq]
  simp only [missing_eq, bind, Except.bind]
  cases missing with
  | some id => exact ⟨_, rfl⟩
  | none =>
      have known := registered some_iff.symm
      obtain ⟨failure, actor⟩ := evaluateEventActor_ok A precedence e context known
      simp only [actor]
      cases failure with
      | some f => exact ⟨_, rfl⟩
      | none =>
          obtain ⟨ranked, ranks, mem⟩ := rankedRefs_ok A precedence known
          have ids : ∀ id ∈ (sorted (fun (p q : Nat × Atom) => decide (p.1 ≤ q.1)) ranked).map (·.2),
              ∃ ref ∈ guardIds documents, id = .str ref := by
            intro id hid
            obtain ⟨p, hp, rfl⟩ := List.mem_map.mp hid
            obtain ⟨ref, hr, same⟩ := mem p (mem_sorted.mp hp)
            exact ⟨ref, known ref hr, same⟩
          obtain ⟨f, failed⟩ := firstFailure_ok A precedence e.entry snapshot context ids
          simp only [Value.getOr, requires, bind, Except.bind, pure, Except.pure,
            GuardEvaluator.orderedGuardRefs, ranks, failed]
          split_ifs <;> exact ⟨_, rfl⟩

/-- A context that passes the actor and key checks of an event. -/
def admittedContext (role : String) : GuardContext where
  actorRole := some role
  isAuthenticated := true
  correlationId := some "request"
  idempotencyKey := some "key"
  requestedStateVersion := none
  trustedInternalActor := true
  domainResults := fun _ => none

/-- Otherwise an unregistered reference is looked up for some context. -/
theorem evaluate_error {defaults : Dict} (mapping : defaultsOf documents = .dict defaults)
    (transition : Transition) {e : EventEntry} {refs : List String}
    (event : lookup (evaluatorOf A precedence).events (.str transition.eventCode) =
      some (.dict e.entry))
    (refs_eq : transition.guardRefs = refs.map .str)
    (present : requiredMissing e.entry refs = false) {ref : String} (listed : ref ∈ refs)
    (unregistered : ref ∉ guardIds documents) (snapshot : WorkflowSnapshot) :
    ∃ context err, (evaluatorOf A precedence).evaluate transition snapshot context =
      .error err := by
  obtain ⟨missing, missing_eq, some_iff⟩ := missingRequiredGuard_eq e.entry refs
  obtain ⟨err, ranks⟩ := rankedRefs_error A precedence listed unregistered
  have defaults_eq : (evaluatorOf A precedence).defaults = .dict defaults := mapping
  cases missing with
  | some id => rw [present] at some_iff; cases some_iff
  | none =>
      cases hroles : e.actorRoles with
      | nil => exact absurd hroles e.roles_ne
      | cons role rest =>
          have actor : (evaluatorOf A precedence).evaluateEventActor (.dict e.entry)
              (refs.map .str) (admittedContext role) = .ok none := by
            have contains := actorRoles_contains e (some role)
            rw [hroles] at contains
            simp only [List.map_cons, List.any_cons, Atom.ofOption_some, Atom.eq_str, decide_true,
              Bool.true_or] at contains
            unfold GuardEvaluator.evaluateEventActor
            rw [if_neg (by simp [admittedContext]), if_neg (by simp [admittedContext])]
            simp only [bind, Except.bind] at contains ⊢
            cases hr : (Value.dict e.entry).getOr "actor_roles" (.list []) with
            | error err => rw [hr] at contains; cases contains
            | ok roles =>
                rw [hr] at contains
                dsimp only [admittedContext] at contains ⊢
                rw [contains]
                rfl
          have text : hasTextOption (admittedContext role).correlationId = true := rfl
          have key : validIdempotencyKey (admittedContext role).idempotencyKey = true := rfl
          refine ⟨admittedContext role, err, ?_⟩
          rw [GuardEvaluator.evaluate, event, refs_eq, defaults_eq]
          simp only [missing_eq, actor, text, key, Value.getOr, requires, bind, Except.bind, pure,
            Except.pure, GuardEvaluator.orderedGuardRefs, ranks, Bool.not_true, Bool.and_false,
            Bool.false_eq_true, if_false]

end Accepted
end WaterCare.Engine
