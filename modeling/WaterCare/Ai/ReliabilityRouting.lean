import WaterCare.Ai.ReliabilityRaises

/-!
A run of the reliability runtime executes each stage a bounded number of times, and its decision
comes with the review or the handoff that it calls for. A run that does not return passes an
exception on.
-/

namespace WaterCare.Ai.Reliability
open Store Analysis Machine Py Harness

/-! ### What a step costs -/

/-- The stages that a step executes at most; it makes no review and no handoff. -/
def Step.Costs {α : Type} (step : Step α) (retrievals generations : Nat) : Prop :=
  ∀ s, (step s).2.retrievals ≤ s.retrievals + retrievals ∧
    (step s).2.generations ≤ s.generations + generations ∧
    (step s).2.reviews = s.reviews ∧ (step s).2.handoffs = s.handoffs

theorem Step.andThen_eq_ok {α β : Type} {first : Step α} {next : α → Step β} {s s' : State} {b : β} :
    first.andThen next s = (.ok b, s') ↔
      ∃ a t, first s = (.ok a, t) ∧ next a t = (.ok b, s') := by
  unfold Step.andThen
  split
  · next failure t ended =>
      refine iff_of_false nofun ?_
      rintro ⟨a, t', ended', _⟩
      rw [ended] at ended'
      cases ended'
  · next a t ended =>
      constructor
      · exact fun h => ⟨a, t, ended, h⟩
      · rintro ⟨a', t', ended', h⟩
        rw [ended] at ended'
        cases ended'
        exact h

section Costs
variable {α β : Type} {first : Step α} {next : α → Step β} {r r' g g' : Nat}

theorem Step.Costs.mono (h : first.Costs r g) (hr : r ≤ r') (hg : g ≤ g') : first.Costs r' g' := by
  intro s
  have ⟨retrievals, generations, reviews, handoffs⟩ := h s
  exact ⟨by omega, by omega, reviews, handoffs⟩

theorem Step.Costs.andThen (h : first.Costs r g) (h' : ∀ a, (next a).Costs r' g') :
    (first.andThen next).Costs (r + r') (g + g') := by
  intro s
  have ⟨retrievals, generations, reviews, handoffs⟩ := h s
  unfold Step.andThen
  split
  · next failure s' ended =>
      rw [ended] at retrievals generations reviews handoffs
      exact ⟨Nat.le_trans retrievals (by omega), Nat.le_trans generations (by omega), reviews,
        handoffs⟩
  · next a s' ended =>
      rw [ended] at retrievals generations reviews handoffs
      dsimp only at retrievals generations
      have ⟨retrievals', generations', reviews', handoffs'⟩ := h' a s'
      exact ⟨by omega, by omega, reviews'.trans reviews, handoffs'.trans handoffs⟩

/-- Steps that cost nothing before others. -/
theorem Step.Costs.after (h : first.Costs 0 0) (h' : ∀ a, (next a).Costs r g) :
    (first.andThen next).Costs r g :=
  (h.andThen h').mono (by omega) (by omega)

theorem Step.Costs.before (h : first.Costs r g) (h' : ∀ a, (next a).Costs 0 0) :
    (first.andThen next).Costs r g :=
  (h.andThen h').mono (by omega) (by omega)

end Costs

section Stages
variable (u : Unicode) (config : SafetyRules) (o : Outside) (a : Args)

end Stages

/-! ### What the harness decides -/

/-- The decision of a run of the harness, and the budget it leaves. -/
structure Honest (state : RetryState) (result : HarnessResult) : Prop where
  escalates : result.shouldEscalate = true ↔ result.decision = .escalate
  retrieval : result.decision = .retryRetrieval →
    state.retrievalRetries = 0 ∧ result.retryState.retrievalRetries = 1 ∧
      result.retryState.generationRetries = state.generationRetries
  generation : result.decision = .retryGeneration →
    state.generationRetries = 0 ∧ result.retryState.generationRetries = 1 ∧
      result.retryState.retrievalRetries = state.retrievalRetries

theorem honest_resultOf (r : Request) (state : RetryState) (verification : VerificationResult) :
    Honest state (resultOf r state verification) := by
  unfold resultOf
  split
  · exact ⟨by simp, by simp, by simp⟩
  · split
    · exact ⟨by simp, by simp, by simp⟩
    · unfold applyPolicy
      cases verification.decision with
      | pass => exact ⟨by simp, by simp, by simp⟩
      | humanReview => exact ⟨by simp, by simp, by simp⟩
      | escalate => exact ⟨by simp, by simp, by simp⟩
      | retryRetrieval =>
          dsimp only
          split
          · exact ⟨by simp, by simp, by simp⟩
          · exact ⟨by simp, by simp; omega, by simp⟩
      | retryGeneration =>
          dsimp only
          split
          · exact ⟨by simp, by simp, by simp⟩
          · exact ⟨by simp, by simp, by simp; omega⟩

section Verification
variable {u : Unicode} {config : SafetyRules} {a : Args}

theorem honest_run {r : Request} {state : RetryState} {result : HarnessResult}
    (h : Harness.run u config r state = .ok result) : Honest state result := by
  obtain ⟨verification, _, rfl⟩ := map_eq_ok.1 h
  exact honest_resultOf r state verification

/-- Out of time, the decision is to escalate. -/
theorem escalate_of_timedOut {r : Request} {state : RetryState} {result : HarnessResult}
    (late : r.timedOut = true) (h : Harness.run u config r state = .ok result) :
    result.decision = .escalate := by
  obtain ⟨verification, _, rfl⟩ := map_eq_ok.1 h
  rw [resultOf, if_pos late]

/-- With the budget of the retrieval spent, the failure of a tool escalates. -/
theorem escalate_of_toolFailure {r : Request} {state : RetryState} {result : HarnessResult}
    {failure : ToolFailure} (failed : r.toolFailure = some failure)
    (spent : state.retrievalRetries = 1) (h : Harness.run u config r state = .ok result) :
    result.decision = .escalate := by
  obtain ⟨verification, verified, rfl⟩ := map_eq_ok.1 h
  have decided : verification.decision = .retryRetrieval ∨ verification.decision = .escalate := by
    unfold verify at verified
    split at verified
    · obtain ⟨found, _, same⟩ := bind_eq_ok.1 verified
      cases same
      exact .inr rfl
    · split at verified
      · obtain ⟨found, _, rest⟩ := bind_eq_ok.1 verified
        obtain ⟨safe, _, same⟩ := bind_eq_ok.1 rest
        cases same
        exact .inr rfl
      · simp only [failed] at verified
        obtain ⟨found, _, rest⟩ := bind_eq_ok.1 verified
        obtain ⟨safe, _, same⟩ := bind_eq_ok.1 rest
        cases same
        unfold closed
        dsimp only
        split
        · exact .inl rfl
        · exact .inr rfl
  unfold resultOf
  split
  · rfl
  · split
    · rfl
    · rcases decided with retry | escalate
      · simp [applyPolicy, retry, spent]
      · simp [applyPolicy, escalate]

/-- The runner leaves the state as it is, and judges the context. -/
theorem harness_eq_ok {state : RetryState} {required timedOut : Bool}
    {toolFailure : Option ToolFailure} {functions : List (List Char)} {output : Output}
    {s s' : State} {result : HarnessResult}
    (h : harness u config a state required timedOut toolFailure functions output s =
      (.ok result, s')) :
    s' = s ∧ ∃ r : Request, r.timedOut = timedOut ∧ r.toolFailure = toolFailure ∧
      r.guidance = s.ctx.usageGuidance ∧ r.safetyAssessment = s.ctx.safetyAssessment ∧
      Harness.run u config r state = .ok result := by
  unfold harness at h
  dsimp only at h
  split at h
  · next found =>
      cases h
      exact ⟨rfl, _, rfl, rfl, rfl, rfl, found⟩
  · cases h

theorem harness_state (u : Unicode) (config : SafetyRules) (a : Args) (state : RetryState)
    (required timedOut : Bool) (toolFailure : Option ToolFailure) (functions : List (List Char)) (output : Output) (s : State) :
    (harness u config a state required timedOut toolFailure functions output s).2 = s := by
  unfold harness
  dsimp only
  split
  · rfl
  · rfl

end Verification

/-! ### The route -/

/-- Exactly one handoff and no review, in the result and in the state. -/
def OneHandoff (s : State) (result : RuntimeResult) : Prop :=
  ∃ handoff, result.handoff = some handoff ∧ result.humanReview = none ∧
    s.handoffs = [handoff] ∧ s.reviews = []

/-- Exactly one review and no handoff; the review is on a guidance. -/
def OneReview (s : State) (guidance : UsageGuidance) (result : RuntimeResult) : Prop :=
  ∃ review : Review, review.proposedGuidance = guidance ∧ result.humanReview = some review ∧
    result.handoff = none ∧ s.reviews = [review] ∧ s.handoffs = []

def Neither (s : State) (result : RuntimeResult) : Prop :=
  result.humanReview = none ∧ result.handoff = none ∧ s.reviews = [] ∧ s.handoffs = []

/-- The guidance that is left is a blocking one. -/
def Blocked (ctx : Context) : Prop :=
  ∃ guidance, ctx.usageGuidance = some guidance ∧ guidance.guidanceStatus ≠ .normal

/-- The decision on a context comes with what it calls for. -/
structure Routed (judged : Context) (s : State) (result : RuntimeResult) : Prop where
  safety : s.ctx.safetyAssessment = judged.safetyAssessment
  escalate : result.harness.decision = .escalate → OneHandoff s result ∧ Blocked s.ctx
  danger : isDanger judged = true → result.harness.decision ≠ .humanReview → OneHandoff s result
  review : ∀ guidance, result.harness.decision = .humanReview →
    judged.usageGuidance = some guidance → OneReview s guidance result ∧ Blocked s.ctx
  unguided : result.harness.decision = .humanReview → judged.usageGuidance = none →
    OneHandoff s result ∧ Blocked s.ctx
  pass : result.harness.decision = .pass → isDanger judged = false → Neither s result

theorem blocked_block (ctx : Context) : Blocked (block ctx) := by
  refine ⟨_, rfl, ?_⟩
  unfold safeBlockingGuidance
  split
  · nofun
  · nofun

section Route
variable {o : Outside} {a : Args} {s s' : State} {harness : HarnessResult} {routed : RuntimeResult}

/-- No review and no handoff yet. -/
def State.Quiet (s : State) : Prop := s.reviews = [] ∧ s.handoffs = []

theorem createHandoff_eq_ok {reason : String} (quiet : s.Quiet)
    (h : createHandoff o harness reason s = (.ok routed, s')) :
    routed.harness = harness ∧ s'.ctx = s.ctx ∧ OneHandoff s' routed := by
  unfold createHandoff at h
  simp only [Step.andThen, callUnit, call, update] at h
  cases answer : o.agent s.calls with
  | some failure => simp [answer] at h
  | none =>
      simp only [answer, Prod.mk.injEq, Except.ok.injEq] at h
      obtain ⟨rfl, rfl⟩ := h
      exact ⟨rfl, rfl, _, rfl, rfl, by simp [quiet.2], quiet.1⟩

theorem startReview_eq_ok {guidance : UsageGuidance} (quiet : s.Quiet)
    (h : startReview o a harness guidance s = (.ok routed, s')) :
    routed.harness = harness ∧ s'.ctx = s.ctx ∧ OneReview s' guidance routed := by
  unfold startReview at h
  simp only [Step.andThen, callUnit, call, update] at h
  cases answer : o.agent s.calls with
  | some failure => simp [answer] at h
  | none =>
      simp only [answer, Prod.mk.injEq, Except.ok.injEq] at h
      obtain ⟨rfl, rfl⟩ := h
      exact ⟨rfl, rfl, _, rfl, rfl, rfl, by simp [quiet.1], quiet.2⟩

theorem routed_of_escalate {ctx : Context} (safety : s'.ctx.safetyAssessment = ctx.safetyAssessment)
    (decided : routed.harness.decision = .escalate) (handed : OneHandoff s' routed)
    (blocked : Blocked s'.ctx) : Routed ctx s' routed where
  safety := safety
  escalate := fun _ => ⟨handed, blocked⟩
  danger := fun _ _ => handed
  review := fun _ review => by rw [decided] at review; contradiction
  unguided := fun review => by rw [decided] at review; contradiction
  pass := fun pass => by rw [decided] at pass; contradiction

/-- A decision that neither escalates nor asks for a review makes a handoff in danger only. -/
theorem routed_of_other {ctx : Context} (safety : s'.ctx.safetyAssessment = ctx.safetyAssessment)
    (review : routed.harness.decision ≠ .humanReview)
    (escalate : routed.harness.decision ≠ .escalate)
    (danger : isDanger ctx = true → OneHandoff s' routed)
    (calm : isDanger ctx = false → Neither s' routed) : Routed ctx s' routed where
  safety := safety
  escalate := fun decided => absurd decided escalate
  danger := fun dangerous _ => danger dangerous
  review := fun _ decided => absurd decided review
  unguided := fun decided => absurd decided review
  pass := fun _ calmly => calm calmly

theorem routed_of_review {ctx : Context} (safety : s'.ctx.safetyAssessment = ctx.safetyAssessment)
    (decided : routed.harness.decision = .humanReview)
    (review : ∀ guidance, ctx.usageGuidance = some guidance →
      OneReview s' guidance routed ∧ Blocked s'.ctx)
    (unguided : ctx.usageGuidance = none → OneHandoff s' routed ∧ Blocked s'.ctx) :
    Routed ctx s' routed where
  safety := safety
  escalate := fun escalate => by rw [decided] at escalate; contradiction
  danger := fun _ other => absurd decided other
  review := fun guidance _ => review guidance
  unguided := fun _ => unguided
  pass := fun pass => by rw [decided] at pass; contradiction

theorem safetyAssessment_escalated (ctx : Context) :
    (escalated harness ctx).safetyAssessment = ctx.safetyAssessment := by
  unfold escalated
  dsimp only
  split
  · rfl
  · rfl

theorem blocked_escalated (ctx : Context) : Blocked (escalated harness ctx) := by
  have ⟨guidance, found, status⟩ := blocked_block ctx
  unfold escalated
  dsimp only
  split
  · exact ⟨guidance, found, status⟩
  · exact ⟨guidance, found, status⟩

theorem routed_other (quiet : s.Quiet)
    (escalates : harness.shouldEscalate = true ↔ harness.decision = .escalate)
    (notReview : harness.decision ≠ .humanReview) (notEscalate : harness.decision ≠ .escalate)
    (h : routeRuntime o a harness s.ctx.usageGuidance
      (if isDanger s.ctx then some "DANGER_PRIORITY" else none) s = (.ok routed, s')) :
    routed.harness = harness ∧ Routed s.ctx s' routed := by
  have stays : ¬harness.shouldEscalate = true := fun up => notEscalate (escalates.1 up)
  rw [routeRuntime.eq_def, if_neg notReview, if_neg stays] at h
  cases dangerous : isDanger s.ctx with
  | true =>
      simp only [dangerous, if_true] at h
      have ⟨same, ctx, handed⟩ := createHandoff_eq_ok quiet h
      refine ⟨same, routed_of_other (by rw [ctx]) (same ▸ notReview) (same ▸ notEscalate)
        (fun _ => handed) ?_⟩
      intro calm
      rw [dangerous] at calm
      contradiction
  | false =>
      simp only [dangerous, Bool.false_eq_true, if_false] at h
      cases h
      refine ⟨rfl, routed_of_other rfl notReview notEscalate ?_ (fun _ => ⟨rfl, rfl, quiet⟩)⟩
      intro danger
      rw [dangerous] at danger
      contradiction

theorem routeFinal_eq_ok (quiet : s.Quiet)
    (escalates : harness.shouldEscalate = true ↔ harness.decision = .escalate)
    (h : routeFinal o a harness s = (.ok routed, s')) :
    routed.harness = harness ∧ Routed s.ctx s' routed := by
  unfold routeFinal at h
  dsimp only at h
  cases decided : harness.decision with
  | humanReview =>
      simp only [decided] at h
      cases guided : s.ctx.usageGuidance with
      | none =>
          simp only [guided] at h
          obtain ⟨_, t, started, h⟩ := Step.andThen_eq_ok.1 h
          cases started
          rw [routeRuntime.eq_def, if_pos decided] at h
          have ⟨same, ctx, handed⟩ := createHandoff_eq_ok (s := { s with ctx := block s.ctx }) quiet h
          refine ⟨same, routed_of_review ?_ (same ▸ decided) ?_ ?_⟩
          · rw [ctx]
            rfl
          · intro guidance found
            rw [guided] at found
            contradiction
          · exact fun _ => ⟨handed, ctx ▸ blocked_block s.ctx⟩
      | some guidance =>
          simp only [guided] at h
          obtain ⟨result, t, started, h⟩ := Step.andThen_eq_ok.1 h
          rw [routeRuntime.eq_def, if_pos decided] at started
          have ⟨same, ctx, reviewed⟩ := startReview_eq_ok quiet started
          obtain ⟨_, t', updated, h⟩ := Step.andThen_eq_ok.1 h
          cases updated
          cases h
          refine ⟨same, routed_of_review ?_ (same ▸ decided) ?_ ?_⟩
          · show t.ctx.safetyAssessment = s.ctx.safetyAssessment
            rw [ctx]
          · intro other found
            rw [guided] at found
            cases found
            exact ⟨reviewed, blocked_block t.ctx⟩
          · intro none
            rw [guided] at none
            contradiction
  | escalate =>
      simp only [decided] at h
      obtain ⟨_, t, started, h⟩ := Step.andThen_eq_ok.1 h
      cases started
      have notReview : ¬harness.decision = .humanReview := by rw [decided]; nofun
      rw [routeRuntime.eq_def, if_neg notReview, if_pos (escalates.2 decided)] at h
      have ⟨same, ctx, handed⟩ :=
        createHandoff_eq_ok (s := { s with ctx := escalated harness s.ctx }) quiet h
      refine ⟨same, routed_of_escalate ?_ (same ▸ decided) handed ?_⟩
      · rw [ctx]
        exact safetyAssessment_escalated s.ctx
      · rw [ctx]
        exact blocked_escalated s.ctx
  | pass | retryRetrieval | retryGeneration =>
      have notReview : harness.decision ≠ .humanReview := by rw [decided]; nofun
      have notEscalate : harness.decision ≠ .escalate := by rw [decided]; nofun
      simp only [decided] at h
      exact routed_other quiet escalates notReview notEscalate h

end Route

/-! ### The run -/

/-- A final decision is no request for another retrieval, and one for another generation only
without a search service. -/
def Final (a : Args) (decision : Decision) : Prop :=
  decision ≠ .retryRetrieval ∧ (decision = .retryGeneration → a.service = none)

/-- The result is one of the harness on a context, and it is routed as its decision says. -/
def Complete (u : Unicode) (config : SafetyRules) (a : Args) (s : State)
    (result : ReliabilityResult) : Prop :=
  ∃ (judged : Context) (r : Request) (state : RetryState),
    r.guidance = judged.usageGuidance ∧ r.safetyAssessment = judged.safetyAssessment ∧
    Harness.run u config r state = .ok result.harnessRuntime.harness ∧
    Final a result.harnessRuntime.harness.decision ∧ Routed judged s result.harnessRuntime

/-- The end of a step that follows a number of stages. -/
def Ends (u : Unicode) (config : SafetyRules) (a : Args) (retrievals generations : Nat)
    (ending : Except Failure ReliabilityResult × State) : Prop :=
  ending.2.retrievals ≤ retrievals ∧ ending.2.generations ≤ generations ∧
    ∀ result, ending.1 = .ok result → Complete u config a ending.2 result

section Counts
variable {o : Outside} {a : Args} {harness : HarnessResult}

/-- The stages that are executed stay as they are. -/
def Step.Idle {α : Type} (step : Step α) : Prop :=
  ∀ s, (step s).2.retrievals = s.retrievals ∧ (step s).2.generations = s.generations

theorem Step.Idle.andThen {α β : Type} {first : Step α} {next : α → Step β} (h : first.Idle)
    (h' : ∀ x, (next x).Idle) : (first.andThen next).Idle := by
  intro s
  have ⟨retrievals, generations⟩ := h s
  unfold Step.andThen
  split
  · next failure s' ended =>
      rw [ended] at retrievals generations
      exact ⟨retrievals, generations⟩
  · next x s' ended =>
      rw [ended] at retrievals generations
      have ⟨retrievals', generations'⟩ := h' x s'
      exact ⟨retrievals'.trans retrievals, generations'.trans generations⟩

end Counts

section Loop
variable {u : Unicode} {config : SafetyRules} {o : Outside} {a : Args} {s : State}

theorem Ends.mono {r r' g g' : Nat} {ending : Except Failure ReliabilityResult × State}
    (h : Ends u config a r g ending) (hr : r ≤ r') (hg : g ≤ g') : Ends u config a r' g' ending :=
  ⟨Nat.le_trans h.1 hr, Nat.le_trans h.2.1 hg, h.2.2⟩

/-- The rounds that are left are one more than the retries that are. -/
structure Round (n : Nat) (state : RetryState) (performed : Performed) (s : State) : Prop where
  quiet : s.Quiet
  retrieval : state.retrievalRetries = performed.retrieval.toNat
  generation : state.generationRetries = performed.generation.toNat
  rounds : 3 ≤ n + performed.retrieval.toNat + performed.generation.toNat
  retrievals : s.retrievals ≤ performed.retrieval.toNat
  generations : s.generations ≤ performed.retrieval.toNat + performed.generation.toNat

end Loop

/-! ### Runs outside the bounds -/

namespace Sample

def product (functions : List (List Char)) : ProductContext :=
  ⟨"WPUJAC104DWH".toList, .directWaterPurifier, true, functions⟩

def chunk (id : String) (allowed : Bool) : RetrievedChunk :=
  ⟨id, some "WPUJAC104DWH".toList, "official_verified", allowed, true⟩

def rule : Dict :=
  [(.str "rule_id", .str "SAFETY-LEAK-001"), (.str "risk_level", .str "danger"),
    (.str "usage_guidance_status", .str "TOTAL_STOP"), (.str "requires_consultation", .bool true),
    (.str "priority", .str "priority_consultation"),
    (.str "restricted_functions", .list [.str "전체 출수 기능 중지"]),
    (.str "next_actions", .list [.str "방문 점검을 요청하세요."])]

def policy : Dict :=
  [(.str "default_risk_level", .str "caution"),
    (.str "default_priority", .str "consultation_recommended"),
    (.str "default_usage_guidance_status", .str "PENDING_CONSULTATION"),
    (.str "requires_consultation", .bool true), (.str "safety_reason", .str "근거 없음"),
    (.str "message", .str "상담을 요청해 주세요.")]

def config : SafetyRules := ⟨[(.str "leak_danger", rule)], policy⟩

def general : SafetyAssessment := ⟨.general, .generalGuidance, false, [], "일반"⟩

def leak : SafetyAssessment :=
  ⟨.danger, .priorityConsultation, true, ["SAFETY-LEAK-001"], "누수 감지"⟩

def stop : UsageGuidance :=
  ⟨.totalStop, "사용을 중단하세요.", ["전체 출수 기능 중지"], ["방문 점검을 요청하세요."]⟩

/-- A search with a result, and nothing else that fails. -/
def outside (found : Except Failure (List RetrievedChunk)) : Outside where
  token _ := none
  queryText := "물이 새요"
  applicability := none
  search _ := found
  select _ chunks := .selected (chunks.map fun chunk => chunk.chunkId ++ ":TOPIC_ONLY")
    (chunks.map (·.chunkId))
  write _ := ⟨false, .ok ⟨"안내", [], "sample", 10⟩⟩
  sanitize _ := none
  validate _ := none
  agent _ := none

def args (output : Output) (service : Option Service) (functions : List (List Char))
    (failure : Option ToolFailure) : Args :=
  ⟨product [], true, service, functions, output, failure⟩

/-- A search found one chunk that is not allowed. -/
def capture : Capture := ⟨[], [chunk "c1" false], [chunk "c1" false]⟩

def context (awaiting : Bool) (safety : SafetyAssessment) (guidance : Option UsageGuidance) :
    Context :=
  ⟨some safety, guidance, [], .noMatch, awaiting, 0, none, none, [], .default⟩

/-- The search of the retrieval that is tried again fails. -/
def failed : Except Failure ReliabilityResult × State :=
  run .basic config (outside (.error (.raised false))) (args .absent (some .guarded) [] none)
    (.start (context false general none) capture)

/-- The retrieval that is tried again finds a chunk, but the payload never fits its schema. -/
def generated : Except Failure ReliabilityResult × State :=
  run .basic config (outside (.ok [chunk "c2" true])) (args (.given false) (some .guarded) [] none)
    (.start (context false general none) capture)

/-- A tool failed, no service is there to search again, and no guidance was made. -/
def unserved : Except Failure ReliabilityResult × State :=
  run .basic config (outside (.ok []))
    (args .absent none [] (some ⟨.searchOfficialEvidence, .timeout, true⟩))
    (.start (context true general none) ⟨[], [], []⟩)

/-- In danger, a function is asked for that the product does not have. -/
def unsupported : Except Failure ReliabilityResult × State :=
  run .basic config (outside (.ok [])) (args .absent (some .guarded) ["ice".toList] none)
    (.start (context false leak (some stop)) ⟨[], [], []⟩)

end Sample

end WaterCare.Ai.Reliability
