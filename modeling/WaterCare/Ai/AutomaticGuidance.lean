import WaterCare.Ai.ClarificationRounds
import WaterCare.Ai.EvidenceVerdict

/-!
When a run over a general symptom ends in guidance that goes out by itself: the search found
evidence, the harness passes it, and the routing looks at the fields that are missing.
-/

namespace WaterCare.Ai.Pipeline
open Store Analysis Machine Py SymptomStructurer Clarification Harness Reliability

/-! ### The registry and the search -/

/-- What `str.upper` does to the characters of the model codes. -/
def UpperOnCodes (u : Unicode) : Prop :=
  ∀ c : Char, (c.isUpper || c.isDigit) = true → u.upperCase c = [c]

section Registry
variable {u : Unicode} {codes : List (List Char)} {modelCode : List Char}

theorem upper_of_codes (upper : UpperOnCodes u) {code : List Char}
    (plain : ∀ c ∈ code, (c.isUpper || c.isDigit) = true) : u.upper code = code := by
  unfold Unicode.upper
  induction code with
  | nil => rfl
  | cons c rest ih =>
      rw [List.flatMap_cons, upper c (plain c List.mem_cons_self),
        ih fun other member => plain other (List.mem_cons_of_mem _ member)]
      rfl

theorem plain_codes : (knownExactModelCodes.all fun entry =>
    entry.1.toList.all fun c => c.isUpper || c.isDigit) = true := by
  decide +kernel

theorem inferred_codes : (knownExactModelCodes.all fun entry =>
    decide (((some entry.1.toList).filter (· ≠ [])).isSome = true ∧
      (match (some entry.1.toList).filter (· ≠ []) with
        | none => none
        | some normalized =>
            if contained "IAC425" normalized || contained "IAC606" normalized then
              some ProductFamily.iceWaterPurifier
            else if contained "JAC104" normalized || contained "JCC104" normalized then
              some .directWaterPurifier
            else none) = some entry.2)) = true := by
  decide +kernel

/-- The harness infers the family of a known code as the registry has it. -/
theorem registered_resolve (upper : UpperOnCodes u) (codes : List (List Char))
    (modelCode : List Char) : Registered u (resolveProductContext u codes modelCode) := by
  intro known
  unfold resolveProductContext at known ⊢
  dsimp only at known ⊢
  generalize u.upper (stripChars modelCode) = code at known ⊢
  cases found : knownExactModelCodes.find? fun entry => entry.1.toList == code with
  | none =>
      rw [found] at known
      exact absurd rfl known
  | some entry =>
      have member := List.mem_of_find?_eq_some found
      have same := eq_of_beq (List.find?_some (p := fun entry : String × ProductFamily =>
        entry.1.toList == code) found)
      have plain : (entry.1.toList.all fun c => c.isUpper || c.isDigit) = true :=
        List.all_eq_true.1 plain_codes entry member
      have kept : u.upper code = code := by
        refine upper_of_codes upper fun c inside => ?_
        rw [← same] at inside
        exact List.all_eq_true.1 plain c inside
      have whole : (code.filter fun c => c.isUpper || c.isDigit) = code := by
        rw [← same]
        exact List.filter_eq_self.2 (List.all_eq_true.1 plain)
      dsimp only
      unfold inferProductFamily normalizeModelCode
      rw [Option.map_some, kept, whole, ← same]
      exact of_decide_eq_true (List.all_eq_true.1 inferred_codes entry member)

end Registry

section Found
variable {r : Router} {modelCode : List Char} {analysed : Analysed} {request : Request}

/-- The references that the filters of a request leave of some chunks. -/
def referencesOf (r : Router) (analysed : Analysed) (request : Request)
    (chunks : List RetrievedChunk) : List String :=
  selectEvidence r.world analysed.symptom.symptomType
    (classifyForSymptom r.nfc analysed.symptom.symptomType request.previousAnswers) chunks

/-- The chunks that a search finds in the table. -/
def foundIn (r : Router) (modelCode : List Char) (rows : Rows) : List RetrievedChunk :=
  vectorSearch r.world.admits (r.product modelCode).modelCode rows

theorem sound_foundIn (rows : Rows) : Sound (r.product modelCode) (foundIn r modelCode rows) where
  nodup := (List.filter_sublist.map _).nodup rows.nodup
  named chunk member := rows.named chunk (List.mem_filter.1 member).1
  model chunk member := by
    have passed := (List.mem_filter.1 member).2
    simp only [Bool.and_eq_true, beq_iff_eq] at passed
    exact passed.1.1.1

theorem selectEvidence_total (n : Nat) (chunks : List RetrievedChunk) :
    ∃ references,
      ((r.outside modelCode analysed request).select n chunks).references = .ok references :=
  ⟨_, rfl⟩

theorem ignoresGuidance_references :
    IgnoresGuidance fun s : State => s.ctx.evidenceReferences :=
  ⟨fun _ _ => rfl, fun _ _ => rfl, fun _ _ => rfl, fun _ _ => rfl, fun _ _ => rfl, fun _ => rfl⟩

/-- A run over a general symptom whose search found evidence and whose guidance was accepted. -/
structure Guided (r : Router) (modelCode : List Char) (analysed : Analysed) (request : Request)
    (s : State) (rows : Rows) : Prop where
  capture : s.capture = captured r.u (r.product modelCode) (foundIn r modelCode rows)
  references : s.ctx.evidenceReferences = referencesOf r analysed request
    (captured r.u (r.product modelCode) (foundIn r modelCode rows)).forwarded
  assessed : s.ctx.safetyAssessment = some analysed.safety
  normal : ∃ guidance, s.ctx.usageGuidance = some guidance ∧ guidance.guidanceStatus = .normal
  awaits : s.ctx.awaitingCustomerInput = false
  retries : s.ctx.retryCount ≤ 1

theorem pipeline_guided (general : analysed.safety.riskLevel = .general)
    (required : requiredOf r analysed request = [])
    (approved : (r.product modelCode).runtimeApproved = true) (guarded : r.service = some .guarded)
    {clarified : Clarified} {s : State}
    (piped : r.pipeline modelCode analysed request (.start analysed.context ⟨[], [], []⟩) =
      (.ok clarified, s)) (kept : s.ctx.evidenceReferences ≠ []) :
    clarified = clarifiedOf r analysed request ∧
      ∃ rows, Guided r modelCode analysed request s rows := by
  have calm : analysed.safety.riskLevel ≠ .danger := by rw [general]; nofun
  rw [pipeline_searches calm required] at piped
  have ⟨_, s₁, checked, ran⟩ := Step.andThen_eq_ok.1 piped
  have ⟨_, s₂, retrieved, ran⟩ := Step.andThen_eq_ok.1 ran
  have ⟨_, s₃, generated, ran⟩ := Step.andThen_eq_ok.1 ran
  have ⟨_, s₄, validated, returned⟩ := Step.andThen_eq_ok.1 ran
  have ⟨same, state⟩ := Prod.mk.inj returned
  subst state
  refine ⟨(Except.ok.inj same).symm, ?_⟩
  have ⟨t₁, first, checkedState⟩ := deadlineScope_eq_ok checked
  have ⟨t₂, retrieval, retrievedState⟩ := deadlineScope_eq_ok retrieved
  have ⟨t₃, generation, generatedState⟩ := deadlineScope_eq_ok generated
  have start : t₁ = { State.start analysed.context ⟨[], [], []⟩ with calls := 1 } :=
    (Prod.mk.inj first).2.symm
  rw [checkedState, start] at retrieval
  have found := retrievalStage_eq_ok (a := r.args modelCode) approved guarded selectEvidence_total
    rfl retrieval
  have left := keeps_validation (r.outside modelCode analysed request) s₃
  rw [validated] at left
  unfold Pipeline.validated at left
  simp only [Prod.mk.injEq] at left
  have ⟨status, safety, awaits, references, _, retries, capture, _, _⟩ := left
  have evidence : t₂.ctx.evidenceReferences ≠ [] := by
    have through := keeps_generationStage r.config (r.outside modelCode analysed request)
      ignoresGuidance_references { s₂ with calls := s₂.calls + 1 }
    rw [generation] at through
    rw [references, generatedState] at kept
    rw [retrievedState] at through
    exact fun none => kept (through.trans none)
  have assessed : t₂.ctx.safetyAssessment = some analysed.safety := found.safety
  rw [retrievedState] at generation
  have ⟨⟨guidance, guided, normal⟩, safety', references', awaits', retries', _, capture', _, _⟩ :=
    generationStage_general (s := { t₂ with calls := t₂.calls + 1 + 1 }) assessed general evidence
      generation
  have ⟨n, chunks, searched, captures, m, selected⟩ := found.searched
  have ⟨rows, stored, same⟩ := map_eq_ok.1 searched
  have own : chunks = foundIn r modelCode rows := same.symm
  subst own
  rw [generatedState] at status safety awaits references retries capture
  refine ⟨rows, ⟨?_, ?_, ?_, ?_, ?_, ?_⟩⟩
  · exact capture.trans (capture'.trans captures)
  · exact references.trans (references'.trans (Except.ok.inj selected).symm)
  · exact safety.trans safety'
  · rw [guided] at status
    have ⟨other, written, same⟩ := Option.map_eq_some_iff.1 status
    exact ⟨other, written, same.trans normal⟩
  · exact awaits.trans (awaits'.trans found.awaits)
  · have once : t₂.ctx.retryCount ≤ 1 := found.retries
    rw [retries]
    exact Nat.le_trans retries' (Nat.max_le.2 ⟨once, Nat.le_refl 1⟩)

/-- The references come from the chunks that the guard forwarded. -/
theorem mem_referencesOf {chunks : List RetrievedChunk} {id : String}
    (member : id ∈ referencesOf r analysed request chunks) :
    ∃ chunk ∈ chunks, chunk.chunkId = id := by
  have ⟨chunk, kept, same⟩ := List.mem_map.1 member
  have listed := (List.mem_filter.1 kept).1
  unfold filterChunks at listed
  split at listed
  · exact ⟨chunk, (List.mem_filter.1 listed).1, same⟩
  · split at listed
    · exact ⟨chunk, (List.mem_filter.1 listed).1, same⟩
    · exact absurd listed List.not_mem_nil

theorem nodup_referencesOf {chunks : List RetrievedChunk}
    (nodup : (chunks.map (·.chunkId)).Nodup) : (referencesOf r analysed request chunks).Nodup := by
  have sublist : (filterChunks analysed.symptom.symptomType
      (classifyForSymptom r.nfc analysed.symptom.symptomType request.previousAnswers)
      (chunks.filter r.world.topical)).Sublist chunks := by
    unfold filterChunks
    split
    · exact List.filter_sublist
    · split
      · exact List.filter_sublist
      · exact List.nil_sublist chunks
  exact ((List.filter_sublist.trans sublist).map _).nodup nodup

/-- The public references are the accepted ones. -/
theorem accepted_references {u : Unicode} {product : ProductContext} {chunks : List RetrievedChunk}
    {references : List String} (sound : Sound product chunks) (nodup : references.Nodup)
    (used : ∀ id ∈ references, ∃ chunk ∈ chunks.filter (forwards u product), chunk.chunkId = id)
    (response : SymptomAnalysisResult) (shown : response.evidenceReferences = references) :
    ResponseRoutingPolicy.acceptedEvidenceMatches response
      (some (((chunks.filter (forwards u product)).filter fun chunk =>
        references.contains chunk.chunkId).map (·.chunkId))) = true := by
  unfold ResponseRoutingPolicy.acceptedEvidenceMatches
  rw [shown]
  simp only [Bool.and_eq_true, decide_eq_true_eq, List.all_eq_true, List.contains_iff_mem]
  refine ⟨⟨⟨nodup, ?_⟩, fun id member => ?_⟩, fun id member => ?_⟩
  · exact ((List.filter_sublist.trans List.filter_sublist).map _).nodup sound.nodup
  · have ⟨chunk, forwarded, same⟩ := used id member
    refine List.mem_map.2 ⟨chunk, List.mem_filter.2 ⟨forwarded, ?_⟩, same⟩
    rw [same]
    exact List.contains_iff_mem.2 member
  · have ⟨chunk, kept, same⟩ := List.mem_map.1 member
    have passed := (List.mem_filter.1 kept).2
    rw [same] at passed
    simpa using passed

end Found

/-! ### The public result -/

section Public
variable {result : PipelineResult} {request : Request}

/-- No reason is found among issues about unverified evidence. -/
theorem resolve_unverified {issues : List VerificationIssue}
    (codes : ∀ found ∈ issues, found.code = .unverifiedEvidence) :
    resolveFallbackReasonCode issues false false = none := by
  have silent : fallbackPrecedence.find? (fun reason =>
      issues.any (·.code.text == reason.code)) = none := by
    refine List.find?_eq_none.2 fun reason listed named => ?_
    have ⟨found, member, same⟩ := List.any_eq_true.1 named
    rw [codes found member] at same
    have other : ∀ reason ∈ fallbackPrecedence,
        (IssueCode.unverifiedEvidence.text == reason.code) = false := by decide
    rw [other reason listed] at same
    cases same
  unfold resolveFallbackReasonCode
  rw [silent]
  rfl

/-- A run that is passed with evidence succeeds. -/
theorem analysisResult_passed {safety : SafetyAssessment} {guidance : UsageGuidance}
    (passed : result.reliability.harnessRuntime.harness.decision = .pass)
    (codes : ∀ found ∈ result.reliability.harnessRuntime.harness.verification.issues,
      found.code = .unverifiedEvidence)
    (awaits : result.context.awaitingCustomerInput = false)
    (evidence : result.context.evidenceReferences ≠ [])
    (assessed : result.context.safetyAssessment = some safety)
    (guided : result.context.usageGuidance = some guidance)
    (retries : result.context.retryCount ≤ 1) :
    ∃ response, result.analysisResult request = .ok response ∧ response.status = .succeeded ∧
      response.safetyAssessment = safety ∧ response.usageGuidance = guidance ∧
      response.evidenceReferences = result.context.evidenceReferences ∧
      response.missingFields = result.clarified.missingFields.map (·.field.name) ∧
      response.followupQuestions = result.clarified.followupQuestions := by
  have noEvidence : result.noEvidenceFallback = false := by
    unfold PipelineResult.noEvidenceFallback
    rw [List.isEmpty_eq_false_iff.2 evidence, Bool.and_false, Bool.false_and, Bool.false_and]
  have reliability : result.reliabilityFallback = false := by
    unfold PipelineResult.reliabilityFallback
    rw [passed]
    rfl
  have clarification : result.clarificationFallback request = false := by
    unfold PipelineResult.clarificationFallback
    rw [awaits, Bool.false_and, Bool.false_and]
  have succeeded : result.status request = .succeeded := by
    unfold PipelineResult.status PipelineResult.isFallback
    rw [noEvidence, reliability, clarification]
    rfl
  have reason : result.fallbackReasonCode request = none := by
    unfold PipelineResult.fallbackReasonCode
    rw [noEvidence, reliability, clarification, resolve_unverified codes]
    rfl
  have reason_iff : (result.fallbackReasonCode request).isSome =
      decide (result.status request = .fallback) := by
    rw [reason, succeeded]
    rfl
  unfold PipelineResult.analysisResult
  rw [assessed, guided]
  dsimp only
  rw [dif_pos reason_iff, if_pos retries]
  exact ⟨_, rfl, succeeded, rfl, rfl, rfl, rfl, rfl⟩

/-- Without a missing field there is no question. -/
theorem followupQuestions_nil {nfc : Text → Text} {wording : Wording} {symptom : StructuredSymptom}
    {previous : List PreviousAnswer}
    (complete : (missingFieldsStage nfc wording symptom previous).missingFields = []) :
    (missingFieldsStage nfc wording symptom previous).followupQuestions = [] := by
  unfold missingFieldsStage at complete ⊢
  dsimp only at complete ⊢
  rw [complete]
  refine List.append_eq_nil_iff.2 ⟨rfl, ?_⟩
  unfold followupQuestion
  split
  · next asked =>
      have unsupported : supported (classifyForSymptom nfc
          (withApplicability nfc symptom previous).symptomType previous) = false := by
        unfold classifyForSymptom
        rw [if_pos asked.1, Option.isNone_iff_eq_none.1 asked.2]
        rfl
      have ⟨item, member, _⟩ := mem_missingOf_gate.2 ⟨asked.1, unsupported⟩
      rw [complete] at member
      exact absurd member List.not_mem_nil
  · rfl

/-- What `classify` returns where no rule raises the level and none matched. -/
def generalAssessment (reason : String) : SafetyAssessment :=
  ⟨.general, .generalGuidance, false, [], reason⟩

/-- The routing sends a general result with evidence on iff nothing is missing. -/
theorem apply_general {response : SymptomAnalysisResult} {accepted : Option (List String)}
    {reason : String} (succeeded : response.status = .succeeded)
    (general : response.safetyAssessment = generalAssessment reason)
    (evidence : response.evidenceReferences ≠ [])
    (normal : response.usageGuidance.guidanceStatus = .normal)
    (accepts : ResponseRoutingPolicy.acceptedEvidenceMatches response accepted = true)
    (complete : response.missingFields = [] → response.followupQuestions = []) :
    (ResponseRoutingPolicy.apply response accepted).1 =
      if response.missingFields = [] then response
      else ResponseRoutingPolicy.invalidSuccessFallback response := by
  have risk : response.safetyAssessment.riskLevel = .general := by rw [general]; rfl
  unfold ResponseRoutingPolicy.apply
  dsimp only
  rw [if_neg (by rw [succeeded]; nofun), if_neg (by rw [risk]; nofun),
    if_neg (fun both => evidence both.2), if_neg (by rw [risk]; nofun), if_pos risk]
  by_cases missing : response.missingFields = []
  · rw [if_pos missing, if_pos ⟨evidence, by rw [general]; rfl, by rw [general]; rfl, missing,
      complete missing, normal, accepts⟩]
  · rw [if_neg missing, if_neg fun all => missing all.2.2.2.1]

end Public

/-! ### The run -/

section Run
variable {r : Router} {modelCode : List Char} {analysed : Analysed} {request : Request}

/-- A run of an approved product over a general symptom without a required field missing, whose
search found evidence that the filters keep and whose guidance was accepted, ends in the normal
guidance where no field at all is missing, and in a fallback to the consultation anywhere else. -/
theorem automatic_guidance (upper : UpperOnCodes r.u)
    (approved : (r.product modelCode).runtimeApproved = true) (guarded : r.service = some .guarded)
    {reason : String} (general : analysed.safety = generalAssessment reason)
    (required : requiredOf r analysed request = []) {clarified : Clarified} {s : State}
    (piped : r.pipeline modelCode analysed request (.start analysed.context ⟨[], [], []⟩) =
      (.ok clarified, s)) (kept : s.ctx.evidenceReferences ≠ []) :
    ∃ result shown, r.runPipeline modelCode analysed request = .ok result ∧
      result.toAnalysisResult request = .ok shown ∧
      (if (clarifiedOf r analysed request).missingFields = [] then
        shown.status = .succeeded ∧ shown.usageGuidance.guidanceStatus = .normal
      else
        shown.status = .fallback ∧ shown.fallbackReasonCode = some .outputSchemaInvalid ∧
          shown.usageGuidance.guidanceStatus = .pendingConsultation) := by
  have risk : analysed.safety.riskLevel = .general := by rw [general]; rfl
  have ⟨same, rows, found⟩ := pipeline_guided risk required approved guarded piped kept
  have ⟨guidance, guided, normal⟩ := found.normal
  have calm : analysed.safety.riskLevel ≠ .danger := by rw [risk]; nofun
  have sound : Sound (r.product modelCode) (foundIn r modelCode rows) := sound_foundIn rows
  have used : ∀ id ∈ s.ctx.evidenceReferences,
      ∃ chunk ∈ (foundIn r modelCode rows).filter (forwards r.u (r.product modelCode)),
        chunk.chunkId = id := by
    intro id member
    rw [found.references] at member
    exact mem_referencesOf member
  have ⟨chunk, forwarded, referenced⟩ : ∃ chunk ∈ foundIn r modelCode rows,
      forwards r.u (r.product modelCode) chunk = true ∧
        s.ctx.evidenceReferences.contains chunk.chunkId = true := by
    have ⟨id, member⟩ := List.exists_mem_of_ne_nil _ kept
    have ⟨chunk, forwarded, same⟩ := used id member
    have ⟨listed, passed⟩ := List.mem_filter.1 forwarded
    refine ⟨chunk, listed, passed, ?_⟩
    rw [same]
    exact List.contains_iff_mem.2 member
  have known : (r.product modelCode).productFamily ≠ .unknown := by
    have passed := referenced.1
    unfold forwards at passed
    simp only [Bool.and_eq_true, bne_iff_ne] at passed
    exact passed.1.1
  have captures : (r.args modelCode).captured = true := by
    show r.service.isSome = true
    rw [guarded]
    rfl
  have plain : Plain (r.args modelCode) := plain_args
  have registered : Registered r.u (r.product modelCode) :=
    registered_resolve upper r.approvedModelCodes modelCode
  have ⟨reliability, ran, passes, accepted, codes⟩ :=
    @run_found r.u r.config s (foundIn r modelCode rows) (r.outside modelCode analysed request)
      (r.args modelCode) plain captures approved registered known sound found.capture
      ⟨chunk, forwarded, referenced⟩ analysed.safety guidance found.assessed calm guided
  let result : PipelineResult :=
    ⟨(r.product modelCode).modelCode, clarified, reliability, s.ctx⟩
  have finished : r.runPipeline modelCode analysed request = .ok result := by
    unfold Router.runPipeline
    rw [piped]
    dsimp only
    rw [ran]
  have ⟨response, analysed_, succeeded, assessed, guides, references, missing, questions⟩ :=
    @analysisResult_passed result request analysed.safety guidance passes codes found.awaits kept
      found.assessed guided found.retries
  have distinct : s.ctx.evidenceReferences.Nodup := by
    rw [found.references]
    exact nodup_referencesOf ((List.filter_sublist.map _).nodup sound.nodup)
  have accepts : ResponseRoutingPolicy.acceptedEvidenceMatches response (some
      reliability.harnessRuntime.harness.verification.acceptedEvidenceChunkIds) = true := by
    rw [accepted]
    exact accepted_references sound distinct used response references
  have general_ : response.safetyAssessment = generalAssessment reason := assessed.trans general
  have evidence : response.evidenceReferences ≠ [] := by
    rw [references]
    exact kept
  have normal_ : response.usageGuidance.guidanceStatus = .normal := by
    rw [guides]
    exact normal
  have named :
      response.missingFields = [] ↔ (clarifiedOf r analysed request).missingFields = [] := by
    rw [missing]
    dsimp only [result]
    rw [same]
    exact List.map_eq_nil_iff
  have complete : response.missingFields = [] → response.followupQuestions = [] := by
    intro none
    rw [questions]
    dsimp only [result]
    rw [same]
    exact followupQuestions_nil (named.1 none)
  have routed := apply_general succeeded general_ evidence normal_ accepts complete
  refine ⟨result, (ResponseRoutingPolicy.apply response
    (some reliability.harnessRuntime.harness.verification.acceptedEvidenceChunkIds)).1, finished,
    ?_, ?_⟩
  · unfold PipelineResult.toAnalysisResult
    rw [analysed_]
    rfl
  · rw [routed]
    by_cases none : (clarifiedOf r analysed request).missingFields = []
    · rw [if_pos none, if_pos (named.2 none)]
      exact ⟨succeeded, normal_⟩
    · rw [if_neg none, if_neg fun empty => none (named.1 empty)]
      have held : response.safetyAssessment.riskLevel ≠ .danger := by
        rw [assessed]
        exact calm
      unfold ResponseRoutingPolicy.invalidSuccessFallback
      dsimp only
      rw [if_pos held]
      exact ⟨rfl, rfl, rfl⟩

end Run

namespace Sample

/-- A noise under a known condition, of which only the time and the actions are unknown. -/
def medium : Analysed := noise (some "항상".toList) none []

/-- A noise of which everything is known. -/
def complete : Analysed := noise (some "항상".toList) (some "오늘".toList) ["필터 확인".toList]

def piped (analysed : Analysed) : Except Failure Clarified × State :=
  router.pipeline modelCode analysed (request []) (.start analysed.context ⟨[], [], []⟩)

/-- The status and the guidance of the public result. -/
def shownOf (analysed : Analysed) : Option (ExecutionStatus × UsageGuidanceStatus) :=
  match router.runPipeline modelCode analysed (request []) with
  | .error _ => none
  | .ok result => ((result.toAnalysisResult (request [])).toOption).map fun shown =>
      (shown.status, shown.usageGuidance.guidanceStatus)

theorem upper_basic : UpperOnCodes .basic := by
  intro c plain
  have lower : ¬(97 ≤ c.val ∧ c.val ≤ 122) := by
    intro between
    have capital : c.isUpper = decide (c.val ≥ 65 ∧ c.val ≤ 90) := rfl
    simp only [capital, Char.isDigit, Bool.or_eq_true, Bool.and_eq_true, decide_eq_true_eq,
      ge_iff_le, UInt32.le_iff_toNat_le] at plain between
    have bounds : c.val.toNat ≤ 90 := by
      cases plain with
      | inl upper => exact upper.2
      | inr digit => exact Nat.le_trans digit.2 (by decide)
    exact absurd (Nat.le_trans between.1 bounds) (by decide)
  have kept : c.toUpper = c := dif_neg lower
  show [c.toUpper] = [c]
  rw [kept]

end Sample

/-- Only a medium and a low field are missing, and yet the customer gets no guidance. -/
theorem guidance_withheld :
    requiredOf Sample.router Sample.medium (Sample.request []) = [] ∧
      (Sample.piped Sample.medium).2.ctx.evidenceReferences = ["c1"] ∧
      Sample.shownOf Sample.medium = some (.fallback, .pendingConsultation) := by
  refine ⟨?_, ?_, ?_⟩
  · decide +kernel
  · decide +kernel
  · decide +kernel

theorem automatic_guidance_complete : ∃ result shown,
    Sample.router.runPipeline Sample.modelCode Sample.complete (Sample.request []) = .ok result ∧
      result.toAnalysisResult (Sample.request []) = .ok shown ∧ shown.status = .succeeded ∧
        shown.usageGuidance.guidanceStatus = .normal := by
  have required : requiredOf Sample.router Sample.complete (Sample.request []) = [] := by
    decide +kernel
  have kept : (Sample.piped Sample.complete).2.ctx.evidenceReferences ≠ [] := by decide +kernel
  have calm : ((Sample.piped Sample.complete).1.toOption).isSome = true := by decide +kernel
  cases ran : Sample.piped Sample.complete with
  | mk answer s =>
      rw [ran] at kept calm
      cases answer with
      | error failure => cases calm
      | ok clarified =>
          have ⟨result, shown, finished, public_, guided⟩ := automatic_guidance Sample.upper_basic
            (by decide +kernel) rfl rfl required ran kept
          rw [if_pos (by decide +kernel)] at guided
          exact ⟨result, shown, finished, public_, guided⟩

end WaterCare.Ai.Pipeline
