import WaterCare.Runtime.Publications

/-!
Published is visible and visible is published: in every run, what a decision shows the
customer is what the reader accepts, and the reader accepts nothing else of a caution.
-/

namespace WaterCare.Runtime
open Machine Workflow Store Service Py Analysis
open HumanReviewService (guidanceOf consultationOrigin runOf)
open CustomerInquiryService

/-- What stands around the services: the serializer refuses an empty reason, and the rows
of the evidence hold the hash of their document. -/
def IsConstrained (_ : World) : Action → Prop
  | .request _ (.decide _ values) => values.reasonCode ≠ some ""
  | .internal _ (.onRun _ _ (.persistValidatedResult v)) =>
      v.linksStored = true → ∀ chunk ∈ v.evidenceIds, v.documentSha256 chunk ≠ ""
  | _ => True

/-- A result of the run of a guidance asks for what the review has recorded. -/
def AsksFor (a : Aggregate) (r : HumanReview) (g : Guidance) : Prop :=
  ∀ run ∈ a.runs, g.run = some run.1.id → ∀ x, run.1.result = some x →
    x.safetyAssessment.requiresConsultation = r.originalRequiresConsultation

/-- A decision that publishes has its guidance there; a review that waits has not been shown. -/
structure Publishing (a : Aggregate) : Prop where
  cited : ∀ g ∈ a.guidances, ∀ link ∈ g.1.evidenceLinks,
    isVerifiedLink link = true ∧ link.documentSha256 ≠ ""
  reason : ∀ r ∈ a.reviews, r.1.origin = .nonSafetyResolvable →
    isHarnessReason r.1.originReason = true
  waiting : ∀ r ∈ a.reviews, r.1.status = .pending → ∀ g ∈ a.guidances, g.1.id = r.1.guidance →
    g.1.reviewStatus = "PENDING"
  asked : ∀ r ∈ a.reviews, ∀ g ∈ a.guidances, g.1.id = r.1.guidance → AsksFor a r.1 g.1
  decided : ∀ r ∈ a.reviews, r.1.decision.any isPublication = true →
    r.1.publishedGuidance.isSome = true ∧ isPublicationStatus r.1.status = true
  shown : ∀ r ∈ a.reviews, ∀ i, r.1.publishedGuidance = some i →
    ∃ g ∈ a.guidances, g.1.id = i ∧ Published a r.1 g.1

section
variable {settings : Settings} {w : World} {act : Action} {a b : Aggregate}
  {inquiry used limit : Nat} {r r' : HumanReview} {g : Stored Guidance} {x : Guidance}

theorem AsksFor.later (settled : Settled limit a) (kept : ResultsKept limit a b)
    (there : g ∈ a.guidances) (asks : AsksFor a r g.1) (run : x.run = g.1.run)
    (original : r'.originalRequiresConsultation = r.originalRequiresConsultation) :
    AsksFor b r' x := by
  intro ran mem runs y result
  rw [run] at runs
  rw [original]
  exact asks ran ((settled.result_of kept there mem runs).2 y result) runs y result

theorem Published.moved (published : Published a r x)
    (run : ∀ original ∈ b.guidances, original.1.id = r.guidance → original.1.run = x.run) :
    Published b r x where
  approved := published.approved
  sufficient := published.sufficient
  cited := published.cited
  run := run
  audited := published.audited
  effective := published.effective
  recorded := published.recorded

theorem Publishing.kept (publishing : Publishing a) (settled : Settled limit a)
    (results : ResultsKept limit a b) (guidances : b.guidances = a.guidances)
    (reviews : b.reviews = a.reviews) : Publishing b := by
  refine ⟨?_, ?_, ?_, ?_, ?_, ?_⟩
  all_goals
    try rw [guidances]
    try rw [reviews]
  · exact publishing.cited
  · exact publishing.reason
  · exact publishing.waiting
  · exact fun r mem g there named =>
      (publishing.asked r mem g there named).later settled results there rfl rfl
  · exact publishing.decided
  · intro r mem i shows
    have ⟨g, there, number, published⟩ := publishing.shown r mem i shows
    exact ⟨g, there, number, published.moved (guidances ▸ published.run)⟩

/-- A failed resume leaves what the review has published. -/
theorem Publishing.failed {r row : Stored HumanReview} {now : Instant}
    (publishing : Publishing a) (mem : r ∈ a.reviews)
    (is : row.1 = { r.1 with
      status := .resumeFailed, reviewStateVersion := r.1.reviewStateVersion + 1
      updatedAt := now })
    (same : b = { a with reviews := replaceRow (·.1.id) row a.reviews }) : Publishing b := by
  subst same
  have member {p : Stored HumanReview} (there : p ∈ replaceRow (·.1.id) row a.reviews) :
      p ∈ a.reviews ∨ p = row := (mem_replaceRow_cases there).imp_left (·.1)
  have asked : ∀ g ∈ a.guidances, g.1.id = row.1.guidance → AsksFor a row.1 g.1 := by
    rw [is]
    exact publishing.asked r mem
  refine ⟨publishing.cited, fun p there => ?_, fun p there waits => ?_, fun p there => ?_,
    fun p there => ?_, fun p there => ?_⟩
  · cases member there with
    | inl old => exact publishing.reason p old
    | inr new =>
      rw [new, is]
      exact publishing.reason r mem
  · cases member there with
    | inl old => exact publishing.waiting p old waits
    | inr new =>
      rw [new, is] at waits
      cases waits
  · cases member there with
    | inl old => exact publishing.asked p old
    | inr new =>
      rw [new]
      exact asked
  · cases member there with
    | inl old => exact publishing.decided p old
    | inr new =>
      rw [new, is]
      exact fun publishes => ⟨(publishing.decided r mem publishes).1, rfl⟩
  · cases member there with
    | inl old =>
      intro i shows
      have ⟨g, there, number, published⟩ := publishing.shown p old i shows
      exact ⟨g, there, number, published.moved published.run⟩
    | inr new =>
      rw [new, is]
      intro i shows
      have ⟨g, there, number, published⟩ := publishing.shown r mem i shows
      exact ⟨g, there, number, published.approved, published.sufficient, published.cited,
        published.run, published.audited, published.effective, published.recorded⟩

/-- A decision takes a review that waits, and shows at most the guidance it publishes. -/
theorem Publishing.decides {request : Request} {reviewId : Nat}
    {values : HumanReviewService.DecisionValues} {review row : HumanReview} {g : Stored Guidance}
    {audit : HumanReviewService.ConsultationAudit} {plan : Plan} (publishing : Publishing a)
    (filed : Filed w.nextId a) (numbered : Numbered w.nextId a) (settled : Settled w.nextId a)
    (results : ResultsKept w.nextId a b) (filled : values.reasonCode ≠ some "")
    (decides : Decides settings w request reviewId values inquiry a review g audit plan b row) :
    Publishing b := by
  have ⟨r, located, is⟩ := lockVisible_review decides.visible
  subst is
  have mem := List.mem_of_find?_eq_some located
  have waits : r.1.status = .pending := isDecidable_status decides.isDecidable
  have ⟨there, named⟩ := guidanceOf_mem decides.guidance
  have ⟨applied, stored, shown, applies, same, is, all⟩ := decision_applied decides
  have applies := applyGuidanceDecision_applies applies
  have row_is := same.trans is
  have guidances : b.guidances = applied.guidances := all.guidances
  have reviews : b.reviews = replaceRow (·.1.id) stored a.reviews := all.reviews
  have number : stored.1.id = r.1.id := by rw [row_is]; rfl
  have sameReview : SameReview r.1 stored.1 := by
    rw [row_is]
    exact ⟨rfl, rfl, rfl, rfl, rfl⟩
  have decided : stored.1.status ≠ .pending := by
    rw [row_is]
    exact decided_pending r.1 values audit shown request
  -- a review that is not the decided one is as it was
  have older {p : Stored HumanReview} (found : p ∈ b.reviews) :
      p ∈ a.reviews ∧ p.1.id ≠ r.1.id ∨ p = stored := by
    rw [reviews] at found
    exact (mem_replaceRow_cases found).imp_left fun old => ⟨old.1, number ▸ old.2⟩
  have source {p : Stored HumanReview} (found : p ∈ b.reviews) :
      ∃ old ∈ a.reviews, SameReview old.1 p.1 := by
    rw [reviews] at found
    exact mem_replaced mem sameReview found
  have fresh {p : Stored HumanReview} {y : Stored Guidance} (found : p ∈ a.reviews)
      (copy : y.1.id = w.nextId + 1) (subject : y.1.id = p.1.guidance) : False := by
    have below := filed.guidance_below found
    omega
  have kinds {y : Stored Guidance} (found : y ∈ b.guidances) := applies.mem (guidances ▸ found)
  -- the original of a review keeps its run
  have run_of {p : Stored HumanReview} {y : Stored Guidance} (known : p ∈ a.reviews)
      (found : y ∈ b.guidances) (subject : y.1.id = p.1.guidance) :
      ∃ o ∈ a.guidances, o.1.id = p.1.guidance ∧ y.1.run = o.1.run := by
    rcases kinds found with old | marked | copy
    · exact ⟨y, old.1, subject, rfl⟩
    · exact ⟨g, there, marked.id ▸ subject, marked.run⟩
    · exact (fresh known copy.1 subject).elim
  refine ⟨fun y found => ?_, fun p found => ?_, fun p found waits' y found' subject => ?_,
    fun p found y found' subject => ?_, fun p found publishes => ?_, fun p found i shows => ?_⟩
  · rcases kinds found with old | marked | copy
    · exact publishing.cited y old.1
    · rw [marked.evidenceLinks]
      exact publishing.cited g there
    · intro link listed
      have ⟨origin, listed', n, like⟩ := copy.2.2 link listed
      rw [like]
      exact publishing.cited g there origin listed'
  · have ⟨old, was, like⟩ := source found
    rw [like.origin, like.originReason]
    exact publishing.reason old was
  · rcases older found with old | new
    · rcases kinds found' with kept | marked | copy
      · exact publishing.waiting p old.1 waits' y kept.1 subject
      · have same : p.1.guidance = r.1.guidance := by rw [← subject, marked.id, named]
        exact absurd (numbered.apart p old.1 r mem same) old.2
      · exact (fresh old.1 copy.1 subject).elim
    · exact absurd (new ▸ waits') decided
  · have ⟨old, was, like⟩ := source found
    have ⟨o, there', named', run⟩ := run_of was found' (like.guidance ▸ subject)
    exact (publishing.asked old was o there' named').later settled results there' run like.original
  · rcases older found with old | new
    · exact publishing.decided p old.1 publishes
    · rw [new, row_is] at publishes ⊢
      have publishes' : values.decision ≠ .reject := by
        intro rejects
        unfold HumanReviewService.decided at publishes
        rw [rejects] at publishes
        cases publishes
      refine ⟨applies.shown_isSome.2 publishes', ?_⟩
      unfold HumanReviewService.decided
      cases decision : values.decision with
      | approve | modify => rfl
      | reject => exact absurd decision publishes'
  · rcases older found with old | new
    · have ⟨y, there', number', published⟩ := publishing.shown p old.1 i shows
      have other : y.1.id ≠ g.1.id := by
        intro same
        have waiting := publishing.waiting r mem waits y there' (same.trans named)
        rw [published.approved] at waiting
        exact absurd waiting (by decide)
      refine ⟨y, guidances ▸ applies.keeps there' other, number', published.moved ?_⟩
      intro o found' subject
      have ⟨o', there'', named', run⟩ := run_of old.1 found' subject
      rw [run]
      exact published.run o' there'' named'
    · rw [new] at shows ⊢
      have shows' : shown = some i := by
        rw [row_is] at shows
        exact shows
      rw [shows'] at applies
      have publishes := applies.shown_isSome.1 rfl
      have ready := decides.ready publishes
      unfold HumanReviewService.evidenceReady at ready
      rw [Bool.and_eq_true, Bool.not_eq_true', List.isEmpty_eq_false_iff] at ready
      have ⟨y, found', number', approved, sufficient, run, requires, cites⟩ := applies.shows there
      have cites' : ∀ link ∈ HumanReviewService.verifiedEvidence g.1,
          fingerprint link ∈ y.1.evidenceLinks.map fingerprint ∧ link.documentSha256 ≠ "" :=
        fun link listed => ⟨cites link listed,
          (publishing.cited g there link (mem_verifiedEvidence listed).1).2⟩
      have ⟨run₀, _, usable⟩ := (Option.any_eq_true _ _).1 ready.2
      rw [Bool.and_eq_true, beq_iff_eq] at usable
      refine ⟨y, guidances ▸ found', number', approved, sufficient.trans usable.2, ?_, ?_, ?_, ?_,
        ?_⟩
      · intro empty
        have ⟨link, listed⟩ := List.exists_mem_of_ne_nil _ ready.1
        have cited := cites link listed
        rw [empty] at cited
        cases cited
      · intro o found subject
        rw [run]
        rcases kinds found with old | marked | copy
        · exact absurd (subject.trans (sameReview.guidance.trans named.symm)) old.2
        · exact marked.run
        · exact copy.2.1
      · rw [row_is]
        refine ⟨rfl, rfl, ?_, ?_, rfl⟩
        · unfold HumanReviewService.decided
          dsimp only [Option.any_some]
          rw [bne_iff_ne]
          cases reason : values.reasonCode with
          | none => decide
          | some code => exact fun empty => filled (reason.trans (congrArg some empty))
        · unfold HumanReviewService.decided
          dsimp only [Option.any_some]
          rw [bne_iff_ne]
          exact key_ne_empty request.idempotencyKey
      · rw [requires, row_is]
        rfl
      · rw [sameReview.original]
        refine (consultationAudit_audited publishes decides.audited).recorded requires ?_ ?_ ?_
          sameReview.origin ?_ cites'
        · rw [row_is]; rfl
        · rw [row_is]; rfl
        · rw [row_is]; rfl
        · rw [sameReview.origin, sameReview.originReason]
          exact publishing.reason r mem

/-- A persisted result adds a guidance with verified evidence, and a review that waits. -/
theorem Publishing.persists {run : Stored AIRun} {r : SymptomAnalysisResult}
    {v : InquiryAIService.Verification} {guidances : List (Stored Guidance)}
    {reviews : List (Stored HumanReview)} (publishing : Publishing a) (filed : Filed w.nextId a)
    (table : RunTable w.nextId inquiry a) (mem : run ∈ a.runs) (result : run.1.result = some r)
    (runs : b.runs = a.runs) (adds : Adds a b guidances reviews)
    (hashed : v.linksStored = true → ∀ chunk ∈ v.evidenceIds, v.documentSha256 chunk ≠ "")
    (bundle : Bundle a run.1 r v (w.nextId + 1) guidances reviews) : Publishing b := by
  -- the new guidance, whose number no review has had
  have guidance_new {g : Stored Guidance} (found : g ∈ guidances) : g.1.id = w.nextId + 2 ∧
      g.1.run = some run.1.id ∧ g.1.reviewStatus = InquiryAIService.initialStatus r ∧
      g.1.requiresConsultation = r.safetyAssessment.requiresConsultation ∧
      ∀ link ∈ g.1.evidenceLinks, isVerifiedLink link = true ∧ link.documentSha256 ≠ "" := by
    have made {g : Stored Guidance} {x : Aggregate} (stored : guidanceIsStored r v = true)
        (is : g.1 = InquiryAIService.guidanceOfResult x run.1 r v (w.nextId + 1 + 1)) :
        g.1.id = w.nextId + 2 ∧ g.1.run = some run.1.id ∧
        g.1.reviewStatus = InquiryAIService.initialStatus r ∧
        g.1.requiresConsultation = r.safetyAssessment.requiresConsultation ∧
        ∀ link ∈ g.1.evidenceLinks, isVerifiedLink link = true ∧ link.documentSha256 ≠ "" := by
      rw [is]
      refine ⟨rfl, rfl, rfl, rfl, fun link listed => ?_⟩
      have ⟨i, bound, same⟩ := List.mem_mapIdx.1 listed
      unfold guidanceIsStored at stored
      rw [Bool.and_eq_true] at stored
      rw [← same]
      exact ⟨rfl, hashed stored.2 _ (List.getElem_mem bound)⟩
    cases bundle with
    | dropped => cases found
    | decided _ stored is _ | pending _ stored is _ _ _ =>
      rw [List.mem_singleton.1 found]
      exact made stored is
  have review_new {p : Stored HumanReview} (found : p ∈ reviews) :
      ∃ g ∈ guidances, IsPendingReview g.1 (w.nextId + 1) p.1 ∧
        InquiryAIService.initialStatus r = "PENDING" := by
    cases bundle with
    | dropped | decided => cases found
    | pending _ _ _ waits _ opens =>
      rw [List.mem_singleton.1 found]
      exact ⟨_, List.mem_singleton_self _, opens, waits⟩
  have guidance {g : Stored Guidance} (found : g ∈ b.guidances) :
      g ∈ a.guidances ∨ g ∈ guidances := by
    rw [adds.guidances] at found
    exact List.mem_append.1 found
  have review {p : Stored HumanReview} (found : p ∈ b.reviews) : p ∈ a.reviews ∨ p ∈ reviews := by
    rw [adds.reviews] at found
    exact List.mem_append.1 found
  have apart {p : Stored HumanReview} {g : Stored Guidance} (old : p ∈ a.reviews)
      (new : g ∈ guidances) (subject : g.1.id = p.1.guidance) : False := by
    have below := filed.guidance_below old
    rw [← subject, (guidance_new new).1] at below
    omega
  have apart' {p : Stored HumanReview} {g : Stored Guidance} (new : p ∈ reviews)
      (old : g ∈ a.guidances) (subject : g.1.id = p.1.guidance) : False := by
    have ⟨g', new', opens, _⟩ := review_new new
    have below := filed.below g old
    rw [subject, opens.guidance, (guidance_new new').1] at below
    omega
  have blank {p : Stored HumanReview} (new : p ∈ reviews) :
      p.1.decision = none ∧ p.1.publishedGuidance = none := by
    have ⟨_, _, opens, _⟩ := review_new new
    exact pending_blank opens.status
  refine ⟨fun g found => ?_, fun p found => ?_, fun p found waits g found' subject => ?_,
    fun p found g found' subject => ?_, fun p found => ?_, fun p found i shows => ?_⟩
  · cases guidance found with
    | inl old => exact publishing.cited g old
    | inr new => exact (guidance_new new).2.2.2.2
  · cases review found with
    | inl old => exact publishing.reason p old
    | inr new =>
      have ⟨g, _, opens, _⟩ := review_new new
      have ⟨x, origin⟩ := opens.origin
      have first : p.1.origin = (consultationOrigin x g.1).1 := congrArg Prod.fst origin
      have second : p.1.originReason = (consultationOrigin x g.1).2 := congrArg Prod.snd origin
      rw [first, second]
      exact consultationOrigin_reason
  · cases review found with
    | inl old =>
      cases guidance found' with
      | inl old' => exact publishing.waiting p old waits g old' subject
      | inr new' => exact (apart old new' subject).elim
    | inr new =>
      cases guidance found' with
      | inl old' => exact (apart' new old' subject).elim
      | inr new' =>
        have ⟨_, _, _, pending⟩ := review_new new
        exact (guidance_new new').2.2.1.trans pending
  · unfold AsksFor
    rw [runs]
    cases review found with
    | inl old =>
      cases guidance found' with
      | inl old' => exact publishing.asked p old g old' subject
      | inr new' => exact (apart old new' subject).elim
    | inr new =>
      cases guidance found' with
      | inl old' => exact (apart' new old' subject).elim
      | inr new' =>
        have ⟨g', new'', opens, _⟩ := review_new new
        intro run' there named x found''
        have same : run' = run := List.inj_on_of_nodup_map table.nodup there mem
          (Option.some.inj (named.symm.trans (guidance_new new').2.1))
        rw [same, result] at found''
        rw [opens.original, (guidance_new new'').2.2.2.1, Option.some.inj found'']
  · cases review found with
    | inl old => exact publishing.decided p old
    | inr new =>
      rw [(blank new).1]
      exact nofun
  · cases review found with
    | inl old =>
      have ⟨g, there, number, published⟩ := publishing.shown p old i shows
      refine ⟨g, ?_, number, published.moved fun o found' subject => ?_⟩
      · rw [adds.guidances]
        exact List.mem_append_left _ there
      · cases guidance found' with
        | inl old' => exact published.run o old' subject
        | inr new' => exact (apart old new' subject).elim
    | inr new =>
      rw [(blank new).2] at shows
      cases shows

theorem Publishing.writes (publishing : Publishing a) (filed : Filed w.nextId a)
    (numbered : Numbered w.nextId a) (settled : Settled w.nextId a)
    (table : RunTable w.nextId inquiry a) (constrained : IsConstrained w act)
    (writes : Writes settings w act inquiry a b used) : Publishing b := by
  cases writes.recording with
  | kept same => exact publishing.kept settled writes.results same.guidances same.reviews
  | failed mem _ is same => exact publishing.failed mem is same
  | decided is _ decides =>
    subst is
    exact publishing.decides filed numbered settled writes.results constrained decides
  | persisted is _ mem result persisted =>
    subst is
    have ⟨guidances, reviews, adds, made⟩ := persist_bundle persisted
    have runs := persist_runs persisted
    cases made with
    | inl late =>
      refine publishing.kept settled writes.results ?_ ?_
      · rw [adds.guidances, late.2.1, List.append_nil]
      · rw [adds.reviews, late.2.2, List.append_nil]
    | inr current => exact publishing.persists filed table mem result runs adds constrained current.2

end

/-! ### Every run -/

section
variable {settings : Settings} {start w t : World} {labels : List Event} {e : Event}
  {act : Action} {inquiry used : Nat} {a b : Aggregate} {ok : World → Action → Prop}

theorem reachable_settled (initial : Initial start)
    (run : Run (Allowed settings ok) start labels w) (found : w.aggregate inquiry = some a) :
    Settled w.nextId a := by
  refine aggregate_invariant (P := fun limit _ a => Settled limit a) initial
    (fun le settled => settled.mono le) ?_ ?_ run inquiry a found
  · intro w act b _ opens
    have table := opens.table
    have none_guided {g : Stored Guidance} : g ∉ b.guidances := by
      rw [opens.records.1]
      exact List.not_mem_nil
    refine ⟨fun r mem => ?_, fun g mem => absurd mem none_guided,
      fun g mem => absurd mem none_guided⟩
    rw [opens.runs] at mem
    cases mem
  · intro w before act i used a b earlier _ settled writes
    exact settled.writes (reachable_runs initial earlier writes.found) writes

theorem reachable_numbered (initial : Initial start)
    (run : Run (Allowed settings ok) start labels w) (found : w.aggregate inquiry = some a) :
    Numbered w.nextId a := by
  refine aggregate_invariant (P := fun limit _ a => Numbered limit a) initial
    (fun le numbered => ⟨fun r mem => Nat.lt_of_lt_of_le (numbered.below r mem) le,
      numbered.unique, numbered.apart⟩) ?_ ?_ run inquiry a found
  · intro _ _ b _ opens
    have none_filed {r : Stored HumanReview} : r ∉ b.reviews := by
      rw [opens.records.2]
      exact List.not_mem_nil
    exact ⟨fun r mem => absurd mem none_filed, fun r mem => absurd mem none_filed,
      fun r mem => absurd mem none_filed⟩
  · intro _ _ _ _ _ _ _ earlier _ numbered writes
    exact numbered.writes (reachable_filed initial earlier writes.found) writes

theorem reachable_publishing (initial : Initial start)
    (run : Run (Allowed settings IsConstrained) start labels w)
    (found : w.aggregate inquiry = some a) : Publishing a := by
  refine aggregate_invariant (P := fun _ _ a => Publishing a) initial (fun _ h => h) ?_ ?_
    run inquiry a found
  · intro _ _ b _ opens
    have none_guided {g : Stored Guidance} : g ∉ b.guidances := by
      rw [opens.records.1]
      exact List.not_mem_nil
    have none_filed {r : Stored HumanReview} : r ∉ b.reviews := by
      rw [opens.records.2]
      exact List.not_mem_nil
    exact ⟨fun g mem => absurd mem none_guided, fun r mem => absurd mem none_filed,
      fun r mem => absurd mem none_filed, fun r mem => absurd mem none_filed,
      fun r mem => absurd mem none_filed, fun r mem => absurd mem none_filed⟩
  · intro _ _ _ _ _ _ _ earlier constrained publishing writes
    have found := writes.found
    exact publishing.writes (reachable_filed initial earlier found)
      (reachable_numbered initial earlier found) (reachable_settled initial earlier found)
      (reachable_runs initial earlier found) constrained writes

/-- What one step makes of an inquiry that is there: it stays, or it is written. -/
theorem Effect.forward (table : RunTable w.nextId inquiry a)
    (effect : Effect settings w act t) (found : w.aggregate inquiry = some a) :
    t.aggregate inquiry = some a ∨
      ∃ b used, Writes settings w act inquiry a b used ∧ t.aggregate inquiry = some b := by
  cases effect with
  | untouched same _ =>
    rw [World.aggregate, same]
    exact .inl found
  | opened b opens inserted _ =>
    rw [World.aggregate, inserted, AList.lookup_insert_ne (Nat.ne_of_lt table.below)]
    exact .inl found
  | wrote j a' b used writes inserted _ =>
    by_cases own : inquiry = j
    · subst own
      have same : a' = a := Option.some.inj (writes.found.symm.trans found)
      refine .inr ⟨b, used, same ▸ writes, ?_⟩
      rw [World.aggregate, inserted, AList.lookup_insert]
    · rw [World.aggregate, inserted, AList.lookup_insert_ne own]
      exact .inl found

end

/-! ### The decisions of a run -/

/-- The row records the decision the review had. -/
structure SameDecision (r row : HumanReview) : Prop where
  id : row.id = r.id
  decision : row.decision = r.decision
  publishedGuidance : row.publishedGuidance = r.publishedGuidance
  effective : row.effectiveRequiresConsultation = r.effectiveRequiresConsultation

/-- A committed request has decided the review, and has published what the review names. -/
def DecidedBy (inquiry : Nat) (r : HumanReview) (_ : World) (e : Event) (t : World)
    (_ : List Event) : Prop :=
  e.Commits ∧ ∃ request values, e.action = .request request (.decide r.id values) ∧
    r.decision = some values.decision ∧
    ∃ b row, t.aggregate inquiry = some b ∧ row ∈ b.reviews ∧ SameDecision row.1 r

section
variable {settings : Settings} {start w t : World} {labels : List Event} {e : Event}
  {act : Action} {inquiry used : Nat} {a b : Aggregate}

theorem SameDecision.refl (r : HumanReview) : SameDecision r r := ⟨rfl, rfl, rfl, rfl⟩

/-- A review that has a decision keeps it. -/
theorem Recording.review_kept (numbered : Numbered w.nextId a)
    (recording : Recording settings w act inquiry a b used) {x : Stored HumanReview}
    (mem : x ∈ a.reviews) (decided : x.1.decision.isSome = true) :
    ∃ y ∈ b.reviews, SameDecision x.1 y.1 := by
  have same_there : b.reviews = a.reviews → ∃ y ∈ b.reviews, SameDecision x.1 y.1 :=
    fun same => ⟨x, same ▸ mem, .refl _⟩
  cases recording with
  | kept same => exact same_there same.reviews
  | @failed r row now there _ is same =>
    have number : row.1.id = r.1.id := by rw [is]
    rw [same]
    by_cases own : x.1.id = row.1.id
    · have is' : x = r := numbered.unique x mem r there (own.trans number)
      refine ⟨row, mem_replaceRow_self mem own, ?_⟩
      rw [is, is']
      exact ⟨rfl, rfl, rfl, rfl⟩
    · exact ⟨x, mem_replaceRow_other mem own, .refl _⟩
  | decided _ _ decides =>
    have ⟨r, located, named⟩ := lockVisible_review decides.visible
    have ⟨applied, stored, shown, _, same, is, all⟩ := decision_applied decides
    have number : stored.1.id = r.1.id := by rw [same, is, named]; rfl
    refine ⟨x, ?_, .refl _⟩
    rw [all.reviews]
    refine mem_replaceRow_other mem fun own => ?_
    have is' := numbered.unique x mem r (List.mem_of_find?_eq_some located) (own.trans number)
    have waits := (isDecidable_status decides.isDecidable).symm
    rw [← named, ← is'] at waits
    rw [(pending_blank waits.symm).1] at decided
    cases decided
  | persisted _ _ _ _ persisted =>
    have ⟨guidances, reviews, adds, _⟩ := persist_bundle persisted
    refine ⟨x, ?_, .refl _⟩
    rw [adds.reviews]
    exact List.mem_append_left _ mem

/-- A review with a decision had it before, or is decided now. -/
theorem Recording.review_from (recording : Recording settings w act inquiry a b used)
    {y : Stored HumanReview} (mem : y ∈ b.reviews) (decided : y.1.decision.isSome = true) :
    (∃ x ∈ a.reviews, SameDecision x.1 y.1) ∨
      ∃ request values, act = .request request (.decide y.1.id values) ∧
        y.1.decision = some values.decision := by
  cases recording with
  | kept same => exact .inl ⟨y, same.reviews ▸ mem, .refl _⟩
  | @failed r row now there _ is same =>
    rw [same] at mem
    cases mem_replaceRow mem with
    | inl old => exact .inl ⟨y, old, .refl _⟩
    | inr new =>
      refine .inl ⟨r, there, ?_⟩
      rw [new.1, is]
      exact ⟨rfl, rfl, rfl, rfl⟩
  | @decided request reviewId values _ _ _ _ _ is _ decides =>
    have ⟨r, located, named⟩ := lockVisible_review decides.visible
    have ⟨applied, stored, shown, _, same, row_is, all⟩ := decision_applied decides
    rw [all.reviews] at mem
    cases mem_replaceRow mem with
    | inl old => exact .inl ⟨y, old, .refl _⟩
    | inr new =>
      refine .inr ⟨request, values, ?_, ?_⟩
      · rw [is, new.1, same, row_is, ← named]
        have number : r.1.id = reviewId := by simpa using List.find?_some located
        rw [← number]
        rfl
      · rw [new.1, same, row_is]
        rfl
  | persisted _ _ _ _ persisted =>
    have ⟨guidances, reviews, adds, made⟩ := persist_bundle persisted
    rw [adds.reviews] at mem
    cases List.mem_append.1 mem with
    | inl old => exact .inl ⟨y, old, .refl _⟩
    | inr new =>
      cases made with
      | inl late => rw [late.2.2] at new; cases new
      | inr current =>
        cases current.2 with
        | dropped | decided => cases new
        | pending _ _ _ _ _ opens =>
          rw [List.mem_singleton.1 new] at decided
          rw [(pending_blank opens.status).1] at decided
          cases decided

/-- A decision that is not committed anew leaves the database. -/
theorem decision_replayed (step : Step settings w e t) {request : Request} {reviewId : Nat}
    {values : HumanReviewService.DecisionValues}
    (is : e.action = .request request (.decide reviewId values)) : e.Commits ∨ t = w := by
  cases step_cases step with
  | inr refused => exact .inr refused.1
  | inl accepted =>
    have ⟨answer, performed, outcome⟩ := accepted
    rw [is] at performed
    have ⟨⟨t', answered⟩, decided, same⟩ := map_eq_ok.1 performed
    cases same
    cases fresh : answered.replayed with
    | false =>
      refine .inl ⟨_, outcome, ?_⟩
      rw [Option.all_some, fresh]
      rfl
    | true =>
      cases decide_ok decided with
      | inl replayed => exact .inr replayed.1
      | inr commits =>
        have ⟨_, _, _, _, _, _, _, _, _, _, _, written⟩ := commits
        rw [written] at fresh
        cases fresh

/-- Every decision stays on its review. -/
theorem decision_stays (initial : Initial start) (run : Run (Step settings) start labels t)
    {after : List Event} (later : Run (Step settings) t after w) {row : Stored HumanReview}
    (found : t.aggregate inquiry = some b) (mem : row ∈ b.reviews)
    (decided : row.1.decision.isSome = true) :
    ∃ a r, w.aggregate inquiry = some a ∧ r ∈ a.reviews ∧ SameDecision row.1 r.1 := by
  induction later with
  | refl => exact ⟨b, row, found, mem, .refl _⟩
  | snoc rest last ih =>
    have ⟨a, r, found, there, same⟩ := ih
    have reached := Run.allowed (run.trans rest)
    cases (step_effect last).forward (reachable_runs initial reached found) found with
    | inl still => exact ⟨a, r, still, there, same⟩
    | inr written =>
      have ⟨a', used, writes, found'⟩ := written
      have numbered := reachable_numbered initial reached found
      have ⟨y, there', same'⟩ :=
        writes.recording.review_kept numbered there (same.decision ▸ decided)
      exact ⟨a', y, found', there', same'.id.trans same.id, same'.decision.trans same.decision,
        same'.publishedGuidance.trans same.publishedGuidance, same'.effective.trans same.effective⟩

/-- A committed decision is on its review. -/
theorem committed_review (step : Step settings w e t) {request : Request} {reviewId : Nat}
    {values : HumanReviewService.DecisionValues}
    (is : e.action = .request request (.decide reviewId values)) (commits : e.Commits) :
    ∃ i b row, t.aggregate i = some b ∧ row ∈ b.reviews ∧ row.1.id = reviewId ∧
      row.1.decision = some values.decision := by
  have ⟨i, a, review, g, audit, plan, b, row, decides, found⟩ := committed_decision step is commits
  have ⟨r, located, named⟩ := lockVisible_review decides.visible
  have ⟨applied, stored, shown, _, same, row_is, all⟩ := decision_applied decides
  have number : r.1.id = reviewId := by simpa using List.find?_some located
  have own : stored.1.id = r.1.id := by rw [same, row_is, ← named]; rfl
  refine ⟨i, b, stored, found, ?_, own.trans number, by rw [same, row_is]; rfl⟩
  rw [all.reviews]
  exact mem_replaceRow_self (List.mem_of_find?_eq_some located) own.symm

/-- Every decision on a review was committed. -/
theorem run_deciding (initial : Initial start) (run : Run (Step settings) start labels w) :
    ∀ i a, w.aggregate i = some a → ∀ r ∈ a.reviews, r.1.decision.isSome = true →
      Passes (Step settings) start labels w (DecidedBy i r.1) := by
  induction run with
  | refl =>
    intro i a found
    rw [World.aggregate, initial.1] at found
    cases found
  | @snoc before s t e earlier last ih =>
    intro i b found r mem decided
    have later {a : Aggregate} {x : Stored HumanReview} (found : s.aggregate i = some a)
        (there : x ∈ a.reviews) (same : SameDecision x.1 r.1) :
        Passes (Step settings) start (before ++ [e]) t (DecidedBy i r.1) := by
      refine (ih i a found x there (by rw [← same.decision]; exact decided)).later last ?_
      intro _ _ d _ _ h
      obtain ⟨commits, request, values, is, decision, b', row, found', there', kept⟩ := h
      exact ⟨commits, request, values, same.id ▸ is, same.decision.trans decision, b', row, found',
        there', same.id.trans kept.id, same.decision.trans kept.decision,
        same.publishedGuidance.trans kept.publishedGuidance, same.effective.trans kept.effective⟩
    rcases (step_effect last).aggregate found with same | ⟨_, opens⟩ | ⟨a, used, writes⟩
    · exact later same mem (.refl _)
    · rw [opens.records.2] at mem
      cases mem
    · cases writes.recording.review_from mem decided with
      | inl old =>
        obtain ⟨x, there, same⟩ := old
        exact later writes.found there same
      | inr new =>
        obtain ⟨request, values, is, decision⟩ := new
        cases decision_replayed last is with
        | inl commits =>
          exact .here earlier last ⟨commits, request, values, is, decision, b, r, found, mem,
            .refl _⟩
        | inr still =>
          rw [still] at found
          exact later found mem (.refl _)

/-- The result of the run of a published guidance asks for what its review has recorded. -/
theorem Publishing.asks_original {limit : Nat} (publishing : Publishing a) (filed : Filed limit a)
    {r : Stored HumanReview} {g : Guidance} (mem : r ∈ a.reviews) (published : Published a r.1 g)
    {result : SymptomAnalysisResult} (ran : (runOf a g).bind (·.result) = some result) :
    result.safetyAssessment.requiresConsultation = r.1.originalRequiresConsultation := by
  have ⟨original, there, named⟩ := List.mem_map.1 (filed.known r mem)
  have ⟨run, runs, found⟩ := Option.bind_eq_some_iff.1 ran
  unfold HumanReviewService.runOf at runs
  have ⟨row, located, same⟩ := Option.map_eq_some_iff.1 runs
  have ⟨id, of_run, located⟩ := Option.bind_eq_some_iff.1 located
  have number : row.1.id = id := by simpa using List.find?_some located
  refine publishing.asked r mem original there named row (List.mem_of_find?_eq_some located) ?_
    result (same ▸ found)
  rw [published.run original there named, of_run, number]

/-- The rows of a published guidance are what the reader looks for. -/
theorem Publishing.accepted (publishing : Publishing a) (filed : Filed w.nextId a)
    {r : Stored HumanReview} {g : Stored Guidance} (mem : r ∈ a.reviews)
    (publishes : r.1.decision.any isPublication = true) (there : g ∈ a.guidances)
    (shown : r.1.publishedGuidance = some g.1.id) (published : Published a r.1 g.1)
    (human : Bool) :
    effectiveConsultationIsValid a g.1 r.1.originalRequiresConsultation human = true := by
  have all_verified : g.1.evidenceLinks.filter isVerifiedLink = g.1.evidenceLinks :=
    List.filter_eq_self.2 fun link listed => (publishing.cited g there link listed).1
  have ⟨original, there', named⟩ := List.mem_map.1 (filed.known r mem)
  have sourced : (guidanceOf a r.1.guidance).any
      (fun original => decide (original.1.run = g.1.run)) = true := by
    cases found : guidanceOf a r.1.guidance with
    | none =>
      have missing := List.find?_eq_none.1 found original there'
      rw [named] at missing
      exact absurd (decide_eq_true rfl) missing
    | some o =>
      have ⟨there'', named'⟩ := guidanceOf_mem found
      exact decide_eq_true (published.run o there'' named')
  have proves : provesPublication a g.1 r.1.originalRequiresConsultation
      (g.1.evidenceLinks.map fingerprint) r.1 = true := by
    unfold provesPublication
    have ⟨reviewer, time, code, key, correlation⟩ := published.audited
    rw [(publishing.decided r mem publishes).2, publishes, reviewer, time, code, key, correlation,
      sourced, published.effective, published.recorded, beq_self_eq_true, beq_self_eq_true]
    rfl
  unfold effectiveConsultationIsValid
  dsimp only
  rw [all_verified, published.sufficient, decide_eq_true rfl, decide_eq_true rfl,
    List.isEmpty_eq_false_iff.2 published.cited]
  refine Bool.or_eq_true_iff.2 (.inr ?_)
  refine List.any_eq_true.2 ⟨r, List.mem_filter.2 ⟨mem, decide_eq_true shown⟩, proves⟩

end

/-- The reader accepts the guidance, with what the result of its run asks for. -/
def Accepts (a : Aggregate) (g : Guidance) (result : SymptomAnalysisResult) : Prop :=
  effectiveConsultationIsValid a g result.safetyAssessment.requiresConsultation
    (decide (result.safetyAssessment.riskLevel = .caution)) = true

/-- The review a decision has left keeps the decision, and the reader accepts the guidance
it has published. -/
def IsVisible (t last : World) (reviewId : Nat) : Prop :=
  ∃ i b row a r g, t.aggregate i = some b ∧ row ∈ b.reviews ∧ row.1.id = reviewId ∧
    last.aggregate i = some a ∧ r ∈ a.reviews ∧ SameDecision row.1 r.1 ∧
    isPublicationStatus r.1.status = true ∧
    g ∈ a.guidances ∧ r.1.publishedGuidance = some g.1.id ∧
    (∀ human, effectiveConsultationIsValid a g.1 r.1.originalRequiresConsultation human = true) ∧
    ∀ result, (runOf a g.1).bind (·.result) = some result → Accepts a g.1 result

/-- A committed decision has published the guidance, with the need it shows. -/
def PublishedBy (inquiry : Nat) (g : Guidance) (_ : World) (e : Event) (t : World)
    (_ : List Event) : Prop :=
  e.Commits ∧ ∃ request reviewId values, e.action = .request request (.decide reviewId values) ∧
    isPublication values.decision = true ∧
    ∃ b row, t.aggregate inquiry = some b ∧ row ∈ b.reviews ∧ row.1.id = reviewId ∧
      row.1.decision = some values.decision ∧ row.1.publishedGuidance = some g.id ∧
      row.1.effectiveRequiresConsultation = g.requiresConsultation

/-- In every run, the reader accepts what a committed decision has published, at every later
time; and of the guidances of a caution it accepts only what a committed decision has
published, with the need for a consultation that decision has recorded. -/
theorem run_publications {settings : Settings} {start w : World} {labels : List Event}
    (initial : Initial start) (run : Run (Step settings) start labels w) :
    (∀ before e after s t, labels = before ++ e :: after →
      Run (Allowed settings IsConstrained) start before s → Allowed settings IsConstrained s e t →
      Run (Allowed settings IsConstrained) t after w → e.Commits →
      ∀ request reviewId values, e.action = .request request (.decide reviewId values) →
        isPublication values.decision = true → IsVisible t w reviewId) ∧
    ∀ i a, w.aggregate i = some a → ∀ g ∈ a.guidances, ∀ result,
      (runOf a g.1).bind (·.result) = some result →
      result.safetyAssessment.riskLevel = .caution → Accepts a g.1 result →
      Passes (Step settings) start labels w (PublishedBy i g.1) := by
  refine ⟨?_, ?_⟩
  · intro before e after s t _ earlier step later commits request reviewId values is publishes
    have ⟨i, b, row, found, there, number, decision⟩ := committed_review step.2 is commits
    have reached := Run.snoc earlier step
    have ⟨a, r, found', mem, same⟩ := decision_stays initial reached.of_restrict later.of_restrict
      found there (by rw [decision]; rfl)
    have whole := reached.trans later
    have publishing := reachable_publishing initial whole found'
    have decided : r.1.decision.any isPublication = true := by
      rw [same.decision, decision]
      exact publishes
    have ⟨shows, status⟩ := publishing.decided r mem decided
    have ⟨id, shown⟩ := Option.isSome_iff_exists.1 shows
    have ⟨g, listed, named, published⟩ := publishing.shown r mem id shown
    have accepted := publishing.accepted (reachable_filed initial whole found') mem decided listed
      (named ▸ shown) published
    refine ⟨i, b, row, a, r, g, found, there, number, found', mem, same, status, listed,
      named ▸ shown, accepted, fun result ran => ?_⟩
    unfold Accepts
    rw [publishing.asks_original (reachable_filed initial whole found') mem published ran]
    exact accepted _
  · intro i a found g there result ran caution accepts
    unfold Accepts effectiveConsultationIsValid at accepts
    rw [caution, decide_eq_true rfl, Bool.not_true, Bool.false_and, Bool.false_or] at accepts
    dsimp only at accepts
    rw [Bool.and_eq_true] at accepts
    have ⟨r, listed, proves⟩ := List.any_eq_true.1 accepts.2
    have ⟨mem, shown⟩ := List.mem_filter.1 listed
    unfold provesPublication at proves
    simp only [Bool.and_eq_true, beq_iff_eq] at proves
    have decides : r.1.decision.any isPublication = true := proves.1.1.1.1.1.1.1.1.1.2
    have effective : r.1.effectiveRequiresConsultation = g.1.requiresConsultation := proves.1.2
    have ⟨decision, decided, publishes⟩ := (Option.any_eq_true _ _).1 decides
    refine (run_deciding initial run i a found r mem (by rw [decided]; rfl)).mono ?_
    intro s e t after _ h
    have ⟨commits, request, values, is, same, b, row, found', there, kept⟩ := h
    have own : decision = values.decision := Option.some.inj (decided.symm.trans same)
    exact ⟨commits, request, r.1.id, values, is, own ▸ publishes, b, row, found', there,
      kept.id.symm, kept.decision.symm.trans same,
      kept.publishedGuidance.symm.trans (of_decide_eq_true shown), kept.effective.symm.trans effective⟩

/-- The consultant resolves the consultation of the guidance under review, and it is shown. -/
theorem run_publications_resolving :
    IsVisible (eventOf Sample.settings (trace Sample.settings Sample.world
        (Sample.reviewing [])).2 resolving).2
      (eventOf Sample.settings (trace Sample.settings Sample.world
        (Sample.reviewing [])).2 resolving).2 14 ∧
    ∃ g, Passes (Step Sample.settings) Sample.world
      ((trace Sample.settings Sample.world (Sample.reviewing [])).1 ++
        [(eventOf Sample.settings (trace Sample.settings Sample.world
          (Sample.reviewing [])).2 resolving).1])
      (eventOf Sample.settings (trace Sample.settings Sample.world
        (Sample.reviewing [])).2 resolving).2 (PublishedBy 10 g) := by
  have constrained : ∀ act ∈ Sample.reviewing [], ∀ s, IsConstrained s act := by
    intro act mem s
    simp only [Sample.reviewing, Sample.analysing, List.cons_append, List.nil_append,
      List.mem_cons, List.not_mem_nil, or_false] at mem
    rcases mem with rfl | rfl | rfl | rfl | rfl | rfl
    · trivial
    · trivial
    · trivial
    · trivial
    · trivial
    · intro _ chunk _
      change "sha" ≠ ""
      decide
  have earlier : Run (Allowed Sample.settings IsConstrained) Sample.world
      (trace Sample.settings Sample.world (Sample.reviewing [])).1
      (trace Sample.settings Sample.world (Sample.reviewing [])).2 :=
    trace_restrict (by decide +kernel) constrained
  have last : Step Sample.settings (trace Sample.settings Sample.world (Sample.reviewing [])).2
      (eventOf Sample.settings (trace Sample.settings Sample.world (Sample.reviewing [])).2
        resolving).1
      (eventOf Sample.settings (trace Sample.settings Sample.world (Sample.reviewing [])).2
        resolving).2 := eventOf_step (by decide +kernel)
  have is : (eventOf Sample.settings (trace Sample.settings Sample.world
      (Sample.reviewing [])).2 resolving).1.action = resolving := eventOf_action
  have allowed : Allowed Sample.settings IsConstrained
      (trace Sample.settings Sample.world (Sample.reviewing [])).2
      (eventOf Sample.settings (trace Sample.settings Sample.world (Sample.reviewing [])).2
        resolving).1
      (eventOf Sample.settings (trace Sample.settings Sample.world (Sample.reviewing [])).2
        resolving).2 := by
    refine ⟨?_, last⟩
    change IsConstrained _ (Event.action _)
    rw [is]
    intro same
    cases same
  have commits : (eventOf Sample.settings (trace Sample.settings Sample.world
      (Sample.reviewing [])).2 resolving).1.Commits := by decide +kernel
  obtain ⟨visible, published⟩ := run_publications Sample.world_initial (earlier.of_restrict.snoc last)
  refine ⟨visible _ _ _ _ _ rfl earlier allowed .refl commits _ _ _ is rfl, ?_⟩
  have there : ((eventOf Sample.settings (trace Sample.settings Sample.world
      (Sample.reviewing [])).2 resolving).2.aggregate 10).any (fun a => a.guidances.any fun g =>
        ((runOf a g.1).bind (·.result)).any fun result =>
          decide (result.safetyAssessment.riskLevel = .caution) &&
            effectiveConsultationIsValid a g.1 result.safetyAssessment.requiresConsultation
              (decide (result.safetyAssessment.riskLevel = .caution))) = true := by decide +kernel
  obtain ⟨a, found, holds⟩ := (Option.any_eq_true _ _).1 there
  obtain ⟨g, mem, holds⟩ := List.any_eq_true.1 holds
  obtain ⟨result, ran, holds⟩ := (Option.any_eq_true _ _).1 holds
  rw [Bool.and_eq_true, decide_eq_true_eq] at holds
  exact ⟨g.1, published 10 a found g mem result ran holds.1 holds.2⟩

end WaterCare.Runtime
