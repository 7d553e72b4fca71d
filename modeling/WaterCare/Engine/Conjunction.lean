import WaterCare.Engine.Executable

/-!
What `GuardEvaluator.evaluate` decides over an accepted contract: the conjunction of its
checks, whatever the order of the references, and which failing guard it reports.
-/

namespace WaterCare.Engine
open Py Contract

/-! ### Sorting by rank -/

section
variable {α : Type} (rank : α → Nat)

def rankLe (x y : α) : Bool := decide (rank x ≤ rank y)

theorem pairwise_insertSorted (x : α) {ys : List α} (ordered : ys.Pairwise (rank · ≤ rank ·)) :
    (insertSorted (rankLe rank) x ys).Pairwise (rank · ≤ rank ·) := by
  induction ys with
  | nil => exact List.pairwise_singleton _ _
  | cons y ys ih =>
      have ⟨first, later⟩ := List.pairwise_cons.1 ordered
      rw [insertSorted]
      split
      · rename_i le
        have le : rank x ≤ rank y := of_decide_eq_true le
        refine List.pairwise_cons.2 ⟨fun z hz => ?_, ordered⟩
        exact (List.mem_cons.1 hz).elim (fun same => same ▸ le) fun hz => le.trans (first z hz)
      · rename_i gt
        have gt : ¬rank x ≤ rank y := fun le => gt (decide_eq_true le)
        refine List.pairwise_cons.2 ⟨fun z hz => ?_, ih later⟩
        refine (mem_insertSorted.1 hz).elim (fun same => ?_) (first z)
        rw [same]
        omega

theorem pairwise_sorted (xs : List α) :
    (sorted (rankLe rank) xs).Pairwise (rank · ≤ rank ·) := by
  induction xs with
  | nil => exact .nil
  | cons x xs ih => exact pairwise_insertSorted rank x ih

end

theorem map_insertSorted {α β : Type} (before : β → β → Bool) (f : α → β) (x : α) (ys : List α) :
    insertSorted before (f x) (ys.map f) =
      (insertSorted (fun a b => before (f a) (f b)) x ys).map f := by
  induction ys with
  | nil => rfl
  | cons y ys ih =>
      rw [List.map_cons, insertSorted, insertSorted, ih]
      split <;> rfl

theorem map_sorted {α β : Type} (before : β → β → Bool) (f : α → β) (xs : List α) :
    sorted before (xs.map f) = (sorted (fun a b => before (f a) (f b)) xs).map f := by
  induction xs with
  | nil => rfl
  | cons x xs ih => rw [List.map_cons, sorted, sorted, ih, map_insertSorted]

/-! ### The checks -/

/-- The category that the guard document gives a guard. -/
def guardCategory (documents : Value) (id : String) : Option String :=
  ((docEntries documents "guards" "guards").find? fun g => (g.get "id").eqStr id).bind
    fun g => (g.get "category").asStr?

namespace GuardEvaluator

/-- The place of a category in the effective order; the unknown ones come last. -/
def categoryRank (g : GuardEvaluator) (category : String) : Nat :=
  (lookup g.guardPrecedence (.str category)).getD g.guardPrecedence.length

end GuardEvaluator

/-- A trusted system actor or an authenticated one, whose role the event names. -/
def ActorPasses (event : Dict) (context : GuardContext) : Prop :=
  (if context.actorRole = some "SYSTEM" then context.trustedInternalActor = true
    else context.isAuthenticated = true) ∧
    ∃ role roles, context.actorRole = some role ∧ event.get "actor_roles" = .list roles ∧
      Value.str role ∈ roles

/-- A reference whose guard holds. -/
def GuardPasses (event : Dict) (snapshot : WorkflowSnapshot) (context : GuardContext)
    (ref : String) : Prop :=
  GuardEvaluator.evaluateGuard (.str ref) (.dict event) snapshot context = .ok none

/-- The checks before the guards. -/
structure Admitted (defaults event : Dict) (refs : List String) (context : GuardContext) : Prop where
  stateVersion : (event.get "requires_state_version").isTrue = true → "G-STATE-VERSION" ∈ refs
  idempotencyKey : (event.get "requires_idempotency_key").isTrue = true → "G-IDEMPOTENCY-KEY" ∈ refs
  actor : ActorPasses event context
  correlationId : (defaults.get "require_correlation_id").isTrue = true →
    hasTextOption context.correlationId = true
  key : (event.get "requires_idempotency_key").isTrue = true →
    validIdempotencyKey context.idempotencyKey = true

section Accepted
variable {documents : Value} (A : Accepted documents) (precedence : List (Atom × Nat))

theorem guard_found {ref : String} (registered : ref ∈ guardIds documents) :
    ∃ g : GuardEntry, g.id = ref ∧
      (evaluatorOf A precedence).guard (.str ref) = .ok (.dict g.entry) ∧
      guardCategory documents ref = some g.category := by
  rw [guardIds_eq A] at registered
  have ⟨h, mem, is⟩ := List.mem_map.1 registered
  have some_found : (A.guards.guards.find? fun g => decide (g.id = ref)).isSome := by
    rw [List.find?_isSome]
    exact ⟨h, mem, decide_eq_true is⟩
  have ⟨g, found⟩ := Option.isSome_iff_exists.1 some_found
  have named : g.id = ref := by
    have held := List.find?_some found
    exact of_decide_eq_true held
  refine ⟨g, named, ?_, ?_⟩
  · simp only [GuardEvaluator.guard, evaluatorOf, lookup_views, found, Option.map_some]
  · have entries : docEntries documents "guards" "guards" = A.guards.guards.map (·.entry) := by
      rw [docEntries, A.docSection_eq A.guards_eq, Dict.get_of_find A.guards.guards_eq]
      exact asDict?_views _ _
    have same : (fun g : GuardEntry => (g.entry.get "id").eqStr ref) =
        fun g => decide (g.id = ref) := by
      funext g
      rw [Dict.get_of_find g.id_eq]
      rfl
    unfold guardCategory
    rw [entries, List.find?_map]
    simp only [Function.comp_def, same, found, Option.map_some, Option.bind_some]
    rw [Dict.get_of_find g.category_eq]
    rfl

theorem event_found {code : String} {event : Value}
    (found : lookup (evaluatorOf A precedence).events (.str code) = some event) :
    ∃ e : EventEntry, event = .dict e.entry := by
  simp only [evaluatorOf, lookup_views, Option.map_eq_some_iff] at found
  obtain ⟨e, _, is⟩ := found
  exact ⟨e, is.symm⟩

theorem refRank_eq {ref category : String} (registered : ref ∈ guardIds documents)
    (has : guardCategory documents ref = some category) :
    (evaluatorOf A precedence).refRank (.str ref) =
      .ok ((evaluatorOf A precedence).categoryRank category) := by
  have ⟨g, _, found, is⟩ := guard_found A precedence registered
  have same : g.category = category := Option.some.inj (is.symm.trans has)
  have read : (Value.dict g.entry).item "category" = .ok (.str g.category) :=
    Dict.item_eq_ok_iff.mpr g.category_eq
  rw [GuardEvaluator.refRank, found]
  simp only [read, same, Value.hashed_str, bind, Except.bind, pure, Except.pure,
    GuardEvaluator.categoryRank]

/-- The rank of a reference, through the category of its guard. -/
def rankOf (ref : String) : Nat :=
  (guardCategory documents ref).elim 0 (evaluatorOf A precedence).categoryRank

theorem rankedRefs_eq {refs : List String} (registered : ∀ ref ∈ refs, ref ∈ guardIds documents) :
    (evaluatorOf A precedence).rankedRefs (refs.map .str) =
      .ok (refs.map fun ref => (rankOf A precedence ref, .str ref)) := by
  induction refs with
  | nil => rfl
  | cons ref rest ih =>
      have later := ih fun r hr => registered r (List.mem_cons_of_mem _ hr)
      have known := registered ref List.mem_cons_self
      have ⟨g, _, _, has⟩ := guard_found A precedence known
      have rank : (evaluatorOf A precedence).refRank (.str ref) =
          .ok (rankOf A precedence ref) := by
        rw [refRank_eq A precedence known has, rankOf, has]
        rfl
      simp only [List.map_cons, GuardEvaluator.rankedRefs, Value.hashed_str, rank, later, bind,
        Except.bind, pure, Except.pure]

/-- The references in the order of their ranks, each as often as before. -/
theorem orderedGuardRefs_eq {refs : List String}
    (registered : ∀ ref ∈ refs, ref ∈ guardIds documents) :
    ∃ ordered : List String,
      (evaluatorOf A precedence).orderedGuardRefs (refs.map .str) = .ok (ordered.map .str) ∧
        (∀ ref, ref ∈ ordered ↔ ref ∈ refs) ∧
        ordered.Pairwise (rankOf A precedence · ≤ rankOf A precedence ·) := by
  have ranked := rankedRefs_eq A precedence registered
  refine ⟨sorted (rankLe (rankOf A precedence)) refs, ?_, fun ref => mem_sorted,
    pairwise_sorted _ refs⟩
  unfold GuardEvaluator.orderedGuardRefs
  rw [ranked]
  simp only [bind, Except.bind, pure, Except.pure, Except.ok.injEq]
  rw [map_sorted, List.map_map]
  rfl

theorem contractFailure_eq (g : GuardEntry) (reason : GuardReason) :
    ∃ f, contractFailure (.dict g.entry) reason = .ok f ∧ f.guardId = .str g.id ∧
      f.category = .str g.category := by
  have ⟨f, made⟩ := contractFailure_ok g reason
  have id : (Value.dict g.entry).item "id" = .ok (.str g.id) := Dict.item_eq_ok_iff.mpr g.id_eq
  have category : (Value.dict g.entry).item "category" = .ok (.str g.category) :=
    Dict.item_eq_ok_iff.mpr g.category_eq
  have failure : (Value.dict g.entry).item "failure" = .ok (.dict g.failure) :=
    Dict.item_eq_ok_iff.mpr g.failure_eq
  have status : (Value.dict g.failure).item "http_status" = .ok (.atom (.int g.httpStatus)) :=
    Dict.item_eq_ok_iff.mpr g.status_eq
  have error : (Value.dict g.failure).item "error_code" = .ok (.str g.errorCode) :=
    Dict.item_eq_ok_iff.mpr g.error_eq
  have message : (Value.dict g.failure).item "message" = .ok (.str g.message) :=
    Dict.item_eq_ok_iff.mpr g.message_eq
  refine ⟨f, made, ?_⟩
  simp only [contractFailure, failure, id, category, status, error, message, bind, Except.bind,
    pure, Except.pure, Except.ok.injEq] at made
  rw [← made]
  exact ⟨rfl, rfl⟩

/-- What the loop over ordered references reports. -/
structure Reports (event : Dict) (snapshot : WorkflowSnapshot) (context : GuardContext)
    (refs : List String) (f : GuardFailure) : Prop where
  least : ∃ ref ∈ refs, ¬GuardPasses event snapshot context ref ∧ f.guardId = .str ref ∧
    (∃ c, guardCategory documents ref = some c ∧ f.category = .str c) ∧
      ∀ other ∈ refs, ¬GuardPasses event snapshot context other →
        rankOf A precedence ref ≤ rankOf A precedence other

theorem firstFailure_eq (event : Dict) (snapshot : WorkflowSnapshot) (context : GuardContext)
    {refs : List String} (registered : ∀ ref ∈ refs, ref ∈ guardIds documents)
    (ordered : refs.Pairwise (rankOf A precedence · ≤ rankOf A precedence ·)) :
    ∃ failure, (evaluatorOf A precedence).firstFailure (.dict event) snapshot context
        (refs.map .str) = .ok failure ∧
      (failure = none ↔ ∀ ref ∈ refs, GuardPasses event snapshot context ref) ∧
      ∀ f, failure = some f → Reports A precedence event snapshot context refs f := by
  induction refs with
  | nil => exact ⟨none, rfl, by simp, fun f is => absurd is.symm (Option.some_ne_none f)⟩
  | cons ref rest ih =>
      obtain ⟨first, later⟩ := List.pairwise_cons.1 ordered
      have known := registered ref List.mem_cons_self
      obtain ⟨g, named, found, has⟩ := guard_found A precedence known
      obtain ⟨reason, held⟩ := evaluateGuard_ok (.str ref) event snapshot context
      rw [List.map_cons, GuardEvaluator.firstFailure, found]
      simp only [held, bind, Except.bind]
      cases reason with
      | none =>
          obtain ⟨failure, rest_, all, reports⟩ :=
            ih (fun r hr => registered r (List.mem_cons_of_mem _ hr)) later
          refine ⟨failure, rest_, ?_, fun f is => ?_⟩
          · rw [all, List.forall_mem_cons]
            exact (and_iff_right held).symm
          · obtain ⟨other, mem, fails, named, category, least⟩ := (reports f is).least
            refine ⟨other, List.mem_cons_of_mem _ mem, fails, named, category, ?_⟩
            intro r hr failing
            refine (List.mem_cons.1 hr).elim (fun same => ?_) fun hr => least r hr failing
            exact absurd held (same ▸ failing)
      | some reason =>
          obtain ⟨f, made, id, category⟩ := contractFailure_eq g reason
          have fails : ¬GuardPasses event snapshot context ref := fun passes =>
            Option.some_ne_none reason (Except.ok.inj (held.symm.trans passes))
          refine ⟨some f, by simp only [made]; rfl,
            ⟨fun none => absurd none (Option.some_ne_none f), fun all => ?_⟩, fun f' is => ?_⟩
          · exact absurd (all ref List.mem_cons_self) fails
          · rw [← Option.some.inj is]
            refine ⟨ref, List.mem_cons_self, fails, named ▸ id, ⟨_, has, category⟩, ?_⟩
            intro other hr _
            refine (List.mem_cons.1 hr).elim (fun same => ?_) (first other)
            rw [same]

theorem missingRequiredGuard_none_iff (event : Dict) (refs : List String) :
    requiredMissing event refs = false ↔
      ((event.get "requires_state_version").isTrue = true → "G-STATE-VERSION" ∈ refs) ∧
        ((event.get "requires_idempotency_key").isTrue = true → "G-IDEMPOTENCY-KEY" ∈ refs) := by
  unfold requiredMissing
  simp

theorem contains_role (e : EventEntry) (role : Option String) :
    ((e.actorRoles.map fun r => Atom.str r).any fun a => a.eq (.ofOption role)) = true ↔
      ∃ r roles, role = some r ∧ e.entry.get "actor_roles" = .list roles ∧ Value.str r ∈ roles := by
  rw [Dict.get_of_find e.roles_eq, List.any_map, List.any_eq_true]
  constructor
  · intro ⟨r, mem, same⟩
    cases role with
    | none => exact absurd same (by simp)
    | some s =>
        have same : r = s := by simpa using same
        exact ⟨s, _, rfl, rfl, List.mem_map.2 ⟨r, mem, congrArg Value.str same⟩⟩
  · intro ⟨s, roles, is, list, mem⟩
    rw [← Value.list.inj list] at mem
    have ⟨r, mem, same⟩ := List.mem_map.1 mem
    refine ⟨r, mem, ?_⟩
    rw [is, Value.str_inj.1 same]
    simp

theorem map_some_ne_none {ε α : Type} {x : Except ε α} : some <$> x ≠ .ok none := by
  cases x <;> exact nofun

/-- The actor check refuses exactly the actors that do not pass. -/
theorem evaluateEventActor_eq (e : EventEntry) (context : GuardContext) {refs : List String}
    (registered : ∀ ref ∈ refs, ref ∈ guardIds documents) :
    ∃ failure, (evaluatorOf A precedence).evaluateEventActor (.dict e.entry) (refs.map .str)
      context = .ok failure ∧ (failure = none ↔ ActorPasses e.entry context) := by
  have ⟨failure, evaluated⟩ := evaluateEventActor_ok A precedence e context registered
  refine ⟨failure, evaluated, ?_⟩
  have roles := actorRoles_contains e context.actorRole
  have named := contains_role e context.actorRole
  unfold GuardEvaluator.evaluateEventActor at evaluated
  unfold ActorPasses
  simp only [bind, Except.bind] at evaluated roles
  rw [← named]
  cases read : (Value.dict e.entry).getOr "actor_roles" (.list []) with
  | error err =>
      rw [read] at roles
      exact nomatch roles
  | ok value =>
      rw [read] at roles evaluated
      dsimp only at roles evaluated
      rw [roles] at evaluated
      dsimp only at evaluated
      split at evaluated
      · rename_i refused
        rw [← Except.ok.inj evaluated, if_neg refused.1]
        simp [refused.2]
      · rename_i known
        split at evaluated
        · rename_i refused
          have some_ : failure ≠ none := by
            intro none
            rw [none] at evaluated
            revert evaluated
            split
            · exact map_some_ne_none
            · exact nofun
          rw [if_pos refused.1]
          simp [refused.2, some_]
        · rename_i trusted
          have admitted : if context.actorRole = some "SYSTEM" then
              context.trustedInternalActor = true else context.isAuthenticated = true := by
            split
            · rename_i system
              exact (Bool.not_eq_false _).mp fun distrusted => trusted ⟨system, distrusted⟩
            · rename_i user
              exact (Bool.not_eq_false _).mp fun anonymous => known ⟨user, anonymous⟩
          rw [and_iff_right admitted]
          split at evaluated
          · rename_i listed
            rw [← Except.ok.inj evaluated]
            exact iff_of_true rfl listed
          · rename_i unlisted
            refine iff_of_false (fun none => ?_) unlisted
            rw [none] at evaluated
            revert evaluated
            split
            · exact nofun
            · split
              · split
                · exact nofun
                · exact map_some_ne_none
              · exact nofun

/-- A failure answers what is not admitted. -/
theorem some_of_refuted {α : Type*} {f : α} {p q : Prop} (refuted : ¬p) : some f = none ↔ p ∧ q :=
  iff_of_false (Option.some_ne_none f) fun both => refuted both.1

/-- For a registered event the evaluation is the conjunction of its checks. -/
theorem evaluate_eq {defaults : Dict} (mapping : defaultsOf documents = .dict defaults)
    {transition : Transition} {e : EventEntry} {refs : List String}
    (event : lookup (evaluatorOf A precedence).events (.str transition.eventCode) =
      some (.dict e.entry))
    (refs_eq : transition.guardRefs = refs.map .str)
    (registered : ∀ ref ∈ refs, ref ∈ guardIds documents)
    (snapshot : WorkflowSnapshot) (context : GuardContext) :
    ∃ failure, (evaluatorOf A precedence).evaluate transition snapshot context = .ok ⟨failure⟩ ∧
      (failure = none ↔ Admitted defaults e.entry refs context ∧
        ∀ ref ∈ refs, GuardPasses e.entry snapshot context ref) ∧
      (Admitted defaults e.entry refs context → ∀ f, failure = some f →
        Reports A precedence e.entry snapshot context refs f) := by
  obtain ⟨missing, missing_eq, some_iff⟩ := missingRequiredGuard_eq e.entry refs
  obtain ⟨refused, actor_eq, actor⟩ := evaluateEventActor_eq A precedence e context registered
  obtain ⟨ordered, ordered_eq, member, ranks⟩ := orderedGuardRefs_eq A precedence registered
  obtain ⟨failed, failed_eq, all, reports⟩ := firstFailure_eq A precedence e.entry snapshot context
    (fun ref mem => registered ref ((member ref).1 mem)) ranks
  have defaults_eq : (evaluatorOf A precedence).defaults = .dict defaults := mapping
  have passes : (∀ ref ∈ ordered, GuardPasses e.entry snapshot context ref) ↔
      ∀ ref ∈ refs, GuardPasses e.entry snapshot context ref :=
    forall_congr' fun ref => imp_congr_left (member ref)
  rw [GuardEvaluator.evaluate, event, refs_eq, defaults_eq]
  simp only [missing_eq, actor_eq, bind, Except.bind]
  cases missing with
  | some id =>
      have absent : requiredMissing e.entry refs = true := some_iff.symm
      have refuted : ¬Admitted defaults e.entry refs context := fun admitted => by
        have present := (missingRequiredGuard_none_iff e.entry refs).2
          ⟨admitted.stateVersion, admitted.idempotencyKey⟩
        exact absurd absent (ne_true_of_eq_false present)
      exact ⟨_, rfl, some_of_refuted refuted, fun admitted => absurd admitted refuted⟩
  | none =>
      have present := (missingRequiredGuard_none_iff e.entry refs).1 some_iff.symm
      cases refused with
      | some f =>
          have refuted : ¬Admitted defaults e.entry refs context := fun admitted =>
            Option.some_ne_none f (actor.2 admitted.actor)
          exact ⟨_, rfl, some_of_refuted refuted, fun admitted => absurd admitted refuted⟩
      | none =>
          have actor := actor.1 rfl
          simp only [Value.getOr, Value.getD_none, requires, bind, Except.bind, pure, Except.pure,
            ordered_eq, failed_eq]
          by_cases traced : (defaults.get "require_correlation_id").isTrue = true ∧
              hasTextOption context.correlationId = false
          · have first : ((defaults.get "require_correlation_id").isTrue &&
                !hasTextOption context.correlationId) = true := by
              rw [traced.1, traced.2]
              rfl
            rw [if_pos first]
            have refuted : ¬Admitted defaults e.entry refs context := fun admitted =>
              absurd (admitted.correlationId traced.1) (ne_true_of_eq_false traced.2)
            exact ⟨_, rfl, some_of_refuted refuted, fun admitted => absurd admitted refuted⟩
          · have first : ¬((defaults.get "require_correlation_id").isTrue &&
                !hasTextOption context.correlationId) = true := by
              simpa using traced
            rw [if_neg first]
            by_cases keyed : (e.entry.get "requires_idempotency_key").isTrue = true ∧
                validIdempotencyKey context.idempotencyKey = false
            · have second : ((e.entry.get "requires_idempotency_key").isTrue &&
                  !validIdempotencyKey context.idempotencyKey) = true := by
                rw [keyed.1, keyed.2]
                rfl
              rw [if_pos second]
              have refuted : ¬Admitted defaults e.entry refs context := fun admitted =>
                absurd (admitted.key keyed.1) (ne_true_of_eq_false keyed.2)
              exact ⟨_, rfl, some_of_refuted refuted, fun admitted => absurd admitted refuted⟩
            · have second : ¬((e.entry.get "requires_idempotency_key").isTrue &&
                  !validIdempotencyKey context.idempotencyKey) = true := by
                simpa using keyed
              rw [if_neg second]
              have admitted : Admitted defaults e.entry refs context := {
                stateVersion := present.1
                idempotencyKey := present.2
                actor := actor
                correlationId := fun needed => (Bool.not_eq_false _).mp fun no => traced ⟨needed, no⟩
                key := fun needed => (Bool.not_eq_false _).mp fun no => keyed ⟨needed, no⟩ }
              refine ⟨failed, rfl, ?_, fun _ f is => ?_⟩
              · rw [all, passes, and_iff_right admitted]
              · obtain ⟨ref, mem, rest, named, category, least⟩ := (reports f is).least
                refine ⟨ref, (member ref).1 mem, rest, named, category, fun other mem => ?_⟩
                exact least other ((member other).2 mem)

end Accepted

/-! ### The verdict -/

namespace GuardEvaluator

/-- `evaluate` allows the transition. -/
def Allows (g : GuardEvaluator) (transition : Transition) (snapshot : WorkflowSnapshot)
    (context : GuardContext) : Prop :=
  g.evaluate transition snapshot context = .ok ⟨none⟩

end GuardEvaluator

/-- `evaluation_policy.security_precedence` of `transition-guards.yaml`. -/
def securityPrecedence : List String :=
  ["AUTHENTICATION", "ROLE", "RESOURCE_ACCESS", "CONCURRENCY", "IDEMPOTENCY", "PAYLOAD",
    "BUSINESS_RULE", "SAFETY_AND_EVIDENCE", "COMPLETION"]

/-- `guard_categories` of `transition-guards.yaml`. -/
def guardCategories : List String :=
  ["AUTHENTICATION", "ROLE", "RESOURCE_ACCESS", "ASSIGNMENT", "CONCURRENCY", "IDEMPOTENCY",
    "PAYLOAD", "BUSINESS_RULE", "SAFETY_AND_EVIDENCE", "COMPLETION"]

/-- The categories that come after resource access in that order. -/
def hiddenCategories : List String :=
  ["ASSIGNMENT", "CONCURRENCY", "IDEMPOTENCY", "PAYLOAD", "BUSINESS_RULE",
    "SAFETY_AND_EVIDENCE", "COMPLETION"]

/-- The contract declares that order and these categories. -/
def DeclaresOrder (documents : Value) : Prop :=
  declaredPrecedence documents = .ok (texts securityPrecedence) ∧
    (docSection documents "guards").get "guard_categories" = texts guardCategories

/-- The order, with the missing category in its place. -/
def effectiveOrder : List (Atom × Nat) := guardCategories.zipIdx.map fun e => (.str e.1, e.2)

theorem effectiveGuardPrecedence_declared :
    effectiveGuardPrecedence (texts securityPrecedence) (texts guardCategories) =
      .ok effectiveOrder := rfl

theorem guardPrecedence_declared {documents : Value} (A : Accepted documents) {g : GuardEvaluator}
    (built : GuardEvaluator.init documents = .ok g) (order : DeclaresOrder documents) :
    g.guardPrecedence = effectiveOrder := by
  have ⟨declared, listed⟩ := order
  have categories : Value.list (A.guards.categories.map .str) = texts guardCategories := by
    rw [A.docSection_eq A.guards_eq, Dict.get_of_find A.guards.categories_eq] at listed
    exact listed
  rw [evaluator_init_eq A, declared, categories] at built
  simp only [bind, Except.bind] at built
  rw [effectiveGuardPrecedence_declared] at built
  rw [← Except.ok.inj built]
  rfl

/-- The order ranks resource access before every hidden category. -/
theorem rank_hidden : ∀ c ∈ hiddenCategories,
    ((lookup effectiveOrder (.str "RESOURCE_ACCESS")).getD effectiveOrder.length) <
      (lookup effectiveOrder (.str c)).getD effectiveOrder.length := by decide

section
variable {documents : Value} (accepted : collectContractErrors documents = .ok [])
  {g : GuardEvaluator} (built : GuardEvaluator.init documents = .ok g) {defaults : Dict}
  (mapping : defaultsOf documents = .dict defaults) {transition : Transition} {refs : List String}
  (refs_eq : transition.guardRefs = refs.map .str)
  (registered : ∀ ref ∈ refs, ref ∈ guardIds documents) (snapshot : WorkflowSnapshot)
  (context : GuardContext)

include accepted built mapping refs_eq registered

theorem allows_iff : g.Allows transition snapshot context ↔
    ∃ event, lookup g.events (.str transition.eventCode) = some (.dict event) ∧
      Admitted defaults event refs context ∧
        ∀ ref ∈ refs, GuardPasses event snapshot context ref := by
  obtain ⟨A⟩ := accepted_of_no_errors accepted
  obtain ⟨precedence, is⟩ := evaluator_eq A built
  rw [← is]
  unfold GuardEvaluator.Allows
  cases found : lookup (evaluatorOf A precedence).events (.str transition.eventCode) with
  | none =>
      rw [GuardEvaluator.evaluate, found]
      refine iff_of_false (fun allowed => ?_) fun both => ?_
      · cases allowed
      · obtain ⟨event, other, _⟩ := both
        cases other
  | some event =>
      obtain ⟨e, entry⟩ := event_found A precedence found
      rw [entry] at found
      obtain ⟨failure, evaluated, all, _⟩ :=
        evaluate_eq A precedence mapping found refs_eq registered snapshot context
      rw [evaluated]
      constructor
      · intro allowed
        have none : failure = none := congrArg GuardEvaluation.failure (Except.ok.inj allowed)
        exact ⟨e.entry, by rw [entry], all.1 none⟩
      · rintro ⟨event', same, checks⟩
        have same : event' = e.entry :=
          (Value.dict.inj ((Option.some.inj same).symm.trans entry))
        rw [all.2 (same ▸ checks)]

theorem reported_least {event : Dict} {f : GuardFailure}
    (found : lookup g.events (.str transition.eventCode) = some (.dict event))
    (admitted : Admitted defaults event refs context)
    (refused : g.evaluate transition snapshot context = .ok ⟨some f⟩) :
    ∃ ref ∈ refs, ¬GuardPasses event snapshot context ref ∧ f.guardId = .str ref ∧
      ∃ c, guardCategory documents ref = some c ∧ f.category = .str c ∧
        ∀ other ∈ refs, ¬GuardPasses event snapshot context other →
          ∃ c', guardCategory documents other = some c' ∧ g.categoryRank c ≤ g.categoryRank c' := by
  have ⟨A⟩ := accepted_of_no_errors accepted
  have ⟨precedence, is⟩ := evaluator_eq A built
  rw [← is] at found refused ⊢
  have ⟨e, entry⟩ := event_found A precedence found
  have same : event = e.entry := Value.dict.inj entry
  rw [same] at found admitted ⊢
  have ⟨failure, evaluated, _, reports⟩ :=
    evaluate_eq A precedence mapping found refs_eq registered snapshot context
  have failed : failure = some f :=
    congrArg GuardEvaluation.failure (Except.ok.inj (evaluated.symm.trans refused))
  have ⟨ref, mem, fails, named, ⟨c, has, category⟩, least⟩ := (reports admitted f failed).least
  refine ⟨ref, mem, fails, named, c, has, category, fun other mem failing => ?_⟩
  have ⟨_, _, _, has'⟩ := guard_found A precedence (registered other mem)
  refine ⟨_, has', ?_⟩
  have le := least other mem failing
  unfold rankOf at le
  rw [has, has'] at le
  exact le

end

/-- The verdict is the conjunction of the checks, and a refusal of the guard loop reports a
failing guard of least rank. -/
theorem evaluate_conjunction (documents : Value) (accepted : collectContractErrors documents = .ok [])
    (g : GuardEvaluator) (built : GuardEvaluator.init documents = .ok g) (defaults : Dict)
    (mapping : defaultsOf documents = .dict defaults) (transition : Transition)
    (refs : List String) (refs_eq : transition.guardRefs = refs.map .str)
    (registered : ∀ ref ∈ refs, ref ∈ guardIds documents) (snapshot : WorkflowSnapshot)
    (context : GuardContext) :
    (g.Allows transition snapshot context ↔
      ∃ event, lookup g.events (.str transition.eventCode) = some (.dict event) ∧
        Admitted defaults event refs context ∧
          ∀ ref ∈ refs, GuardPasses event snapshot context ref) ∧
    (∀ refs' : List String, (∀ ref, ref ∈ refs' ↔ ref ∈ refs) →
      (g.Allows { transition with guardRefs := refs'.map .str } snapshot context ↔
        g.Allows transition snapshot context)) ∧
    ∀ event f, lookup g.events (.str transition.eventCode) = some (.dict event) →
      Admitted defaults event refs context →
      g.evaluate transition snapshot context = .ok ⟨some f⟩ →
      (∃ ref ∈ refs, ¬GuardPasses event snapshot context ref ∧ f.guardId = .str ref ∧
        ∃ c, guardCategory documents ref = some c ∧ f.category = .str c ∧
          ∀ other ∈ refs, ¬GuardPasses event snapshot context other →
            ∃ c', guardCategory documents other = some c' ∧
              g.categoryRank c ≤ g.categoryRank c') ∧
      (DeclaresOrder documents →
        (∃ other ∈ refs, ¬GuardPasses event snapshot context other ∧
          guardCategory documents other = some "RESOURCE_ACCESS") →
        ∀ c ∈ hiddenCategories, f.category ≠ .str c) := by
  have allows := allows_iff accepted built mapping refs_eq registered snapshot context
  refine ⟨allows, fun refs' same => ?_, fun event f found admitted refused => ?_⟩
  · have registered' : ∀ ref ∈ refs', ref ∈ guardIds documents := fun ref mem =>
      registered ref ((same ref).1 mem)
    rw [allows, allows_iff accepted built mapping rfl registered' snapshot context]
    refine exists_congr fun event => and_congr_right fun _ => and_congr ?_ ?_
    · constructor
      · exact fun h => ⟨fun needed => (same _).1 (h.stateVersion needed),
          fun needed => (same _).1 (h.idempotencyKey needed), h.actor, h.correlationId, h.key⟩
      · exact fun h => ⟨fun needed => (same _).2 (h.stateVersion needed),
          fun needed => (same _).2 (h.idempotencyKey needed), h.actor, h.correlationId, h.key⟩
    · exact forall_congr' fun ref => imp_congr_left (same ref)
  · have least := reported_least accepted built mapping refs_eq registered snapshot context found
      admitted refused
    refine ⟨least, fun order ⟨other, mem, fails, access⟩ c hidden is => ?_⟩
    have ⟨A⟩ := accepted_of_no_errors accepted
    have ⟨ref, _, _, _, c', _, category, least⟩ := least
    have ⟨c'', access', le⟩ := least other mem fails
    have access' : c'' = "RESOURCE_ACCESS" := Option.some.inj (access'.symm.trans access)
    have reported : c' = c := Value.str_inj.1 (category.symm.trans is)
    rw [access', reported] at le
    unfold GuardEvaluator.categoryRank at le
    rw [guardPrecedence_declared A built order] at le
    exact absurd le (Nat.not_le.2 (rank_hidden c hidden))

namespace Sample

def ownedGuard (id category : String) : Value :=
  mapping [("id", .str id), ("category", .str category), ("conditions", texts ["checked"]),
    ("failure", mapping [("http_status", .atom (.int 409)), ("error_code", .str "CONFLICT"),
      ("message", .str "다시 확인해 주세요.")])]

/-- A contract that ranks concurrency before resource access. -/
def concurrencyFirst : Value :=
  match smallContract [smallRule "TR-1" [("mode", .str "PRESERVE")]] with
  | .dict entries => .dict (assign entries (.str "guards") (mapping [header "transition-guards",
      ("evaluation_policy", mapping
        [("security_precedence", texts ["CONCURRENCY", "RESOURCE_ACCESS"])]),
      ("guard_categories", texts ["RESOURCE_ACCESS", "CONCURRENCY"]),
      ("guards", .list [ownedGuard "G-INQUIRY-OWNER" "RESOURCE_ACCESS",
        ownedGuard "G-CANCELLATION-REASON" "CONCURRENCY"])]))
  | other => other

def cancelling (refs : List String) : Transition where
  ruleId := .str "TR-1"
  eventCode := "CANCEL_INQUIRY"
  inquiryStateBefore := some "SUBMITTED"
  inquiryStateAfter := .str "CANCELLED"
  visitMode := .str "PRESERVE"
  visitStatusBefore := none
  visitStatusAfter := .none
  stateVersionBefore := some 1
  stateVersionAfter := 2
  versionAction := .str "INCREMENT"
  guardRefs := refs.map .str
  effects := []
  recordInquiryStateHistory := true
  recordVisitStateHistory := true
  recordBusinessEvent := true

/-- The customer, for whom no guard of the domain holds. -/
def customer : GuardContext where
  actorRole := some "CUSTOMER"
  isAuthenticated := true
  correlationId := some "request"
  idempotencyKey := none
  requestedStateVersion := none
  trustedInternalActor := false
  domainResults := fun _ => some false

end Sample

set_option maxRecDepth 10000 in
/-- Both guards fail, and the failing resource access hides nothing. -/
theorem concurrencyFirst_reports : collectContractErrors Sample.concurrencyFirst = .ok [] ∧
    guardCategory Sample.concurrencyFirst "G-INQUIRY-OWNER" = some "RESOURCE_ACCESS" ∧
    (∀ event, ¬GuardPasses event submitted Sample.customer "G-INQUIRY-OWNER") ∧
    ∃ g, GuardEvaluator.init Sample.concurrencyFirst = .ok g ∧
      ∃ f, g.evaluate (Sample.cancelling ["G-INQUIRY-OWNER", "G-CANCELLATION-REASON"]) submitted
          Sample.customer = .ok ⟨some f⟩ ∧
        f.guardId = .str "G-CANCELLATION-REASON" ∧ f.category = .str "CONCURRENCY" :=
  ⟨rfl, rfl, fun _ => nofun, _, rfl, _, rfl, rfl, rfl⟩

set_option maxRecDepth 10000 in
theorem evaluate_conjunction_concurrencyFirst : ∃ g,
    GuardEvaluator.init Sample.concurrencyFirst = .ok g ∧
      (g.Allows { Sample.cancelling ["G-INQUIRY-OWNER"] with
          guardRefs := ["G-INQUIRY-OWNER", "G-INQUIRY-OWNER"].map .str } submitted
        Sample.customer ↔ g.Allows (Sample.cancelling ["G-INQUIRY-OWNER"]) submitted
        Sample.customer) := by
  refine ⟨_, rfl, ?_⟩
  have registered : ∀ ref ∈ ["G-INQUIRY-OWNER"], ref ∈ guardIds Sample.concurrencyFirst := by
    decide
  exact (evaluate_conjunction Sample.concurrencyFirst rfl _ rfl _ rfl
    (Sample.cancelling ["G-INQUIRY-OWNER"]) ["G-INQUIRY-OWNER"] rfl registered submitted
    Sample.customer).2.1 ["G-INQUIRY-OWNER", "G-INQUIRY-OWNER"] (by simp)

end WaterCare.Engine
