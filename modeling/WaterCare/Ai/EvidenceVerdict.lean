import WaterCare.Ai.ReliabilityPass

/-!
What a search of the guard leaves behind, and the verdict of the reliability runtime on it: the
evidence of a registered product is passed, and the run is left as it is.
-/

namespace WaterCare.Ai.Reliability
open Store Analysis Machine Py Harness

/-! ### What a search leaves -/

section Search
variable {u : Unicode} {o : Outside} {a : Args} {s t : State}

/-- The guard of the search lets a chunk through. -/
def forwards (u : Unicode) (product : ProductContext) (chunk : RetrievedChunk) : Bool :=
  product.productFamily != .unknown && chunk.approved &&
    normalizeModelCode u chunk.modelCode == normalizeModelCode u (some product.modelCode)

/-- The capture of one search. -/
def captured (u : Unicode) (product : ProductContext) (chunks : List RetrievedChunk) : Capture where
  forwarded := chunks.filter (forwards u product)
  rejected := chunks.filter fun chunk => !forwards u product chunk
  allRejected := chunks.filter fun chunk => !forwards u product chunk

theorem callUnit_eq_ok {answer : Nat → Option Failure} {x : Unit}
    (ran : callUnit answer s = (.ok x, t)) : t = { s with calls := s.calls + 1 } :=
  (Prod.mk.inj ran).2.symm

theorem deadlineScope_eq_ok {body : Step Unit} {x : Unit}
    (ran : deadlineScope o body s = (.ok x, t)) :
    ∃ s', body { s with calls := s.calls + 1 } = (.ok (), s') ∧
      t = { s' with calls := s'.calls + 1 } := by
  have ⟨_, s₁, before, ran⟩ := Step.andThen_eq_ok.1 ran
  have ⟨_, s₂, inside, after⟩ := Step.andThen_eq_ok.1 ran
  rw [callUnit_eq_ok before] at inside
  exact ⟨s₂, inside, callUnit_eq_ok after⟩

/-- A search of the guard over an empty capture. -/
theorem guardedSearch_eq_ok {forwarded : List RetrievedChunk}
    (approved : a.product.runtimeApproved = true) (empty : s.capture = ⟨[], [], []⟩)
    (ran : guardedSearch u o a s = (.ok forwarded, t)) :
    ∃ chunks, o.search s.calls = .ok chunks ∧ forwarded = (captured u a.product chunks).forwarded ∧
      t = { s with calls := s.calls + 1, capture := captured u a.product chunks } := by
  unfold guardedSearch call at ran
  rw [approved] at ran
  dsimp only at ran
  cases found : o.search s.calls with
  | error failure =>
      rw [found] at ran
      cases (Prod.mk.inj ran).1
  | ok chunks =>
      rw [found] at ran
      simp only [Bool.not_true, Bool.false_eq_true, if_false, List.partition_eq_filter_filter,
        empty, List.nil_append] at ran
      have ⟨same, state⟩ := Prod.mk.inj ran
      exact ⟨chunks, rfl, (Except.ok.inj same).symm, state.symm⟩

theorem guardedSearch_error {failure : Failure} (approved : a.product.runtimeApproved = true)
    (ran : guardedSearch u o a s = (.error failure, t)) : t = { s with calls := s.calls + 1 } := by
  unfold guardedSearch call at ran
  rw [approved] at ran
  dsimp only at ran
  cases found : o.search s.calls with
  | error other =>
      rw [found] at ran
      exact (Prod.mk.inj ran).2.symm
  | ok chunks =>
      rw [found] at ran
      cases (Prod.mk.inj ran).1

/-- What a retrieval has found. -/
structure Found (u : Unicode) (o : Outside) (a : Args) (s t : State) (references : List String) :
    Prop where
  searched : ∃ n chunks, o.search n = .ok chunks ∧ t.capture = captured u a.product chunks ∧
    ∃ m, (o.select m (captured u a.product chunks).forwarded).references = .ok references
  safety : t.ctx.safetyAssessment = s.ctx.safetyAssessment
  awaits : t.ctx.awaitingCustomerInput = s.ctx.awaitingCustomerInput
  retries : t.ctx.retryCount ≤ max s.ctx.retryCount 1
  reviews : t.reviews = s.reviews
  handoffs : t.handoffs = s.handoffs

theorem attempt_eq_ok {references : List String} (approved : a.product.runtimeApproved = true)
    (empty : s.capture = ⟨[], [], []⟩) (ran : attempt u o a .guarded s = (.ok references, t)) :
    Found u o a s t references := by
  have ⟨_, s₁, token, ran⟩ := Step.andThen_eq_ok.1 ran
  have ⟨forwarded, s₂, search, ran⟩ := Step.andThen_eq_ok.1 ran
  have first := callUnit_eq_ok token
  have still : s₁.capture = ⟨[], [], []⟩ := by
    rw [first]
    exact empty
  have ⟨chunks, found, same, state⟩ := guardedSearch_eq_ok approved still search
  have ⟨applicability, reasons, filtered⟩ := filterEvidence_state o forwarded s₂
  rw [ran] at filtered
  dsimp only at filtered
  have selected : (o.select s₂.calls forwarded).references = .ok references := (Prod.mk.inj ran).1
  rw [same] at selected
  rw [filtered, state, first]
  exact ⟨⟨_, chunks, found, rfl, _, selected⟩, rfl, rfl, Nat.le_max_left _ _, rfl, rfl⟩

/-- A failed attempt leaves the context and the capture, where the filters do not fail. -/
theorem attempt_error {failure : Failure} (approved : a.product.runtimeApproved = true)
    (total : ∀ n chunks, ∃ references, (o.select n chunks).references = .ok references)
    (ran : attempt u o a .guarded s = (.error failure, t)) :
    t.ctx = s.ctx ∧ t.capture = s.capture ∧ t.reviews = s.reviews ∧ t.handoffs = s.handoffs := by
  cases Step.andThen_error ran with
  | inl token =>
      rw [← (Prod.mk.inj token).2]
      exact ⟨rfl, rfl, rfl, rfl⟩
  | inr rest =>
      have ⟨_, s₁, token, ran⟩ := rest
      have first := callUnit_eq_ok token
      cases Step.andThen_error ran with
      | inl search =>
          have second := guardedSearch_error approved search
          rw [second, first]
          exact ⟨rfl, rfl, rfl, rfl⟩
      | inr rest =>
          have ⟨chunks, s₂, _, ran⟩ := rest
          have ⟨references, selected⟩ := total s₂.calls chunks
          have answer : (o.select s₂.calls chunks).references = .error failure :=
            (Prod.mk.inj ran).1
          rw [selected] at answer
          cases answer

theorem attempts_eq_ok {references : List String} (approved : a.product.runtimeApproved = true)
    (total : ∀ n chunks, ∃ references, (o.select n chunks).references = .ok references) (n : Nat)
    (empty : s.capture = ⟨[], [], []⟩)
    (ran : attempts u o a .guarded n s = (.ok references, t)) : Found u o a s t references := by
  induction n generalizing s with
  | zero => exact attempt_eq_ok approved empty ran
  | succ n ih =>
      simp only [attempts] at ran
      split at ran
      · next s₁ failed =>
          obtain ⟨ctx, capture, reviews, handoffs⟩ := attempt_error approved total failed
          obtain ⟨_, s₂, token, ran⟩ := Step.andThen_eq_ok.1 ran
          obtain ⟨_, s₃, updated, ran⟩ := Step.andThen_eq_ok.1 ran
          have first := callUnit_eq_ok token
          have second : s₃ = { s₂ with
              ctx := { s₂.ctx with retryCount := max s₂.ctx.retryCount 1 } } :=
            (Prod.mk.inj updated).2.symm
          have still : s₃.capture = ⟨[], [], []⟩ := by
            rw [second, first]
            exact capture.trans empty
          have found := ih still ran
          have safety : s₃.ctx.safetyAssessment = s.ctx.safetyAssessment := by
            rw [second, first, ← ctx]
          have awaits : s₃.ctx.awaitingCustomerInput = s.ctx.awaitingCustomerInput := by
            rw [second, first, ← ctx]
          have retries : s₃.ctx.retryCount = max s.ctx.retryCount 1 := by
            rw [second, first, ← ctx]
          have reviews' : s₃.reviews = s.reviews := by
            rw [second, first]
            exact reviews
          have handoffs' : s₃.handoffs = s.handoffs := by
            rw [second, first]
            exact handoffs
          refine ⟨found.searched, found.safety.trans safety, found.awaits.trans awaits, ?_,
            found.reviews.trans reviews', found.handoffs.trans handoffs'⟩
          have bound := found.retries
          omega
      · exact attempt_eq_ok approved empty ran

/-- The retrieval of a run: the references are those that the filters leave of one search. -/
theorem retrievalStage_eq_ok {x : Unit} (approved : a.product.runtimeApproved = true)
    (guarded : a.service = some .guarded)
    (total : ∀ n chunks, ∃ references, (o.select n chunks).references = .ok references)
    (empty : s.capture = ⟨[], [], []⟩) (ran : retrievalStage u o a s = (.ok x, t)) :
    Found u o a s t t.ctx.evidenceReferences := by
  unfold retrievalStage at ran
  rw [guarded] at ran
  dsimp only at ran
  split at ran
  · cases (Prod.mk.inj ran).1
  have ⟨references, s₁, searched, updated⟩ := Step.andThen_eq_ok.1 ran
  have found : Found u o a (queried o s) s₁ references :=
    attempts_eq_ok approved total 1 empty searched
  have last := (Prod.mk.inj updated).2
  rw [← last]
  exact ⟨found.searched, found.safety, found.awaits, found.retries, found.reviews, found.handoffs⟩

/-- A guidance that is written keeps its status, and counts one retry at most. -/
theorem generateGuidance_eq_ok {guidance written : UsageGuidance}
    (ran : generateGuidance o guidance s = (.ok written, t)) :
    written.guidanceStatus = guidance.guidanceStatus ∧ ∃ retries metadata,
      retries ≤ max s.ctx.retryCount 1 ∧ t = { s with
        calls := s.calls + 1
        ctx := { s.ctx with retryCount := retries, modelMetadata := metadata } } := by
  unfold generateGuidance at ran
  dsimp only at ran
  split at ran
  · cases (Prod.mk.inj ran).1
  · have ⟨same, state⟩ := Prod.mk.inj ran
    rw [← Except.ok.inj same, ← state]
    refine ⟨rfl, ?_⟩
    split
    · exact ⟨max s.ctx.retryCount 1, _, Nat.le_refl _, rfl⟩
    · exact ⟨s.ctx.retryCount, _, Nat.le_max_left _ _, rfl⟩

/-- With evidence, the guidance for a general symptom is the normal one, whatever is written. -/
theorem generationStage_general {config : SafetyRules} {x : Unit} {safety : SafetyAssessment}
    (assessed : s.ctx.safetyAssessment = some safety) (general : safety.riskLevel = .general)
    (evidence : s.ctx.evidenceReferences ≠ []) (ran : generationStage config o s = (.ok x, t)) :
    (∃ guidance, t.ctx.usageGuidance = some guidance ∧ guidance.guidanceStatus = .normal) ∧
      t.ctx.safetyAssessment = some safety ∧
      t.ctx.evidenceReferences = s.ctx.evidenceReferences ∧
      t.ctx.awaitingCustomerInput = s.ctx.awaitingCustomerInput ∧
      t.ctx.retryCount ≤ max s.ctx.retryCount 1 ∧ t.ctx.retrievalOutcome = s.ctx.retrievalOutcome ∧
      t.capture = s.capture ∧ t.reviews = s.reviews ∧ t.handoffs = s.handoffs := by
  have some_ : s.ctx.evidenceReferences.isEmpty = false := List.isEmpty_eq_false_iff.2 evidence
  have ⟨guidance, determined, normal⟩ : ∃ guidance : UsageGuidance,
      assessmentAndGuidance config safety true = .ok (safety, guidance) ∧
        guidance.guidanceStatus = .normal := by
    unfold assessmentAndGuidance SafetyRules.determineGuidance
    rw [general]
    exact ⟨_, rfl, rfl⟩
  unfold generationStage at ran
  dsimp only at ran
  rw [assessed, Option.map_some, some_, Bool.not_false, determined] at ran
  dsimp only at ran
  rw [general] at ran
  have ⟨written, s₁, wrote, ran⟩ := Step.andThen_eq_ok.1 ran
  have ⟨same, count, metadata, retries, state⟩ := generateGuidance_eq_ok wrote
  have last := (Prod.mk.inj ran).2
  rw [← last, state]
  exact ⟨⟨_, rfl, same.trans normal⟩, rfl, rfl, rfl, retries, rfl, rfl, rfl, rfl⟩

end Search

/-! ### The verdict on the evidence of a search -/

theorem foldl_distinct (kept chunks : List RetrievedChunk)
    (nodup : ((kept ++ chunks).map (·.chunkId)).Nodup) :
    chunks.foldl (fun kept chunk =>
      if kept.any (·.chunkId == chunk.chunkId) then kept else kept ++ [chunk]) kept =
        kept ++ chunks := by
  induction chunks generalizing kept with
  | nil => exact (List.append_nil kept).symm
  | cons chunk rest ih =>
      have new : kept.any (·.chunkId == chunk.chunkId) = false := by
        refine List.any_eq_false.2 fun other member same => ?_
        rw [List.map_append, List.nodup_append] at nodup
        exact nodup.2.2 _ (List.mem_map_of_mem member) _
          (List.mem_map_of_mem List.mem_cons_self) (eq_of_beq same)
      rw [List.foldl_cons, new]
      simp only [Bool.false_eq_true, if_false]
      have grouped : (kept ++ [chunk]) ++ rest = kept ++ chunk :: rest := by
        rw [List.append_assoc, List.singleton_append]
      rw [ih (kept ++ [chunk]) (grouped ▸ nodup), grouped]

/-- The chunks of a search, as the table and the search promise them. -/
structure Sound (product : ProductContext) (chunks : List RetrievedChunk) : Prop where
  nodup : (chunks.map (·.chunkId)).Nodup
  named : ∀ chunk ∈ chunks, 1 ≤ (strip chunk.chunkId).length ∧ (strip chunk.chunkId).length ≤ 200
  model : ∀ chunk ∈ chunks, chunk.modelCode = some product.modelCode

/-- The registry knows a product by its code, and the harness infers the same family. -/
def Registered (u : Unicode) (product : ProductContext) : Prop :=
  product.productFamily ≠ .unknown →
    (normalizeModelCode u (some product.modelCode)).isSome = true ∧
      inferProductFamily u (some product.modelCode) = some product.productFamily

/-- The chunks of a search that the harness is shown. -/
def shownChunks (u : Unicode) (product : ProductContext) (references : List String)
    (chunks : List RetrievedChunk) : List RetrievedChunk :=
  (chunks.filter (forwards u product)).filter (fun chunk => references.contains chunk.chunkId) ++
    chunks.filter fun chunk => !forwards u product chunk

section Verdict
variable {u : Unicode} {config : SafetyRules} {product : ProductContext} {s : State}
  {chunks : List RetrievedChunk} {references : List String}

theorem mem_shownChunks {chunk : RetrievedChunk}
    (member : chunk ∈ shownChunks u product references chunks) : chunk ∈ chunks := by
  cases List.mem_append.1 member with
  | inl used => exact (List.mem_filter.1 (List.mem_filter.1 used).1).1
  | inr rejected => exact (List.mem_filter.1 rejected).1

theorem shownChunks_subperm (u : Unicode) (product : ProductContext) (references : List String)
    (chunks : List RetrievedChunk) : (shownChunks u product references chunks).Subperm chunks := by
  have parts : (chunks.filter (forwards u product) ++
      chunks.filter fun chunk => !forwards u product chunk).Perm chunks :=
    List.filter_append_perm _ _
  have shown : (shownChunks u product references chunks).Sublist
      (chunks.filter (forwards u product) ++
        chunks.filter fun chunk => !forwards u product chunk) :=
    List.Sublist.append List.filter_sublist (List.Sublist.refl _)
  exact shown.subperm.trans parts.subperm

theorem evidenceForHarness_captured (sound : Sound product chunks)
    (capture : s.capture = captured u product chunks) :
    evidenceForHarness s = shownChunks u product s.ctx.evidenceReferences chunks := by
  have distinct : ((shownChunks u product s.ctx.evidenceReferences chunks).map
      (·.chunkId)).Nodup := by
    have ⟨same, perm, sublist⟩ := shownChunks_subperm u product s.ctx.evidenceReferences chunks
    exact (perm.map _).nodup_iff.1 ((sublist.map _).nodup sound.nodup)
  unfold evidenceForHarness
  rw [capture]
  exact foldl_distinct [] _ distinct

/-- A chunk of the product that the guard rejected is not approved. -/
theorem forwards_of_approved (known : product.productFamily ≠ .unknown)
    (sound : Sound product chunks) {chunk : RetrievedChunk} (member : chunk ∈ chunks) :
    forwards u product chunk = chunk.approved := by
  unfold forwards
  rw [sound.model chunk member, beq_self_eq_true, Bool.and_true, bne_iff_ne.2 known, Bool.true_and]

theorem filter_approved (known : product.productFamily ≠ .unknown) (sound : Sound product chunks) :
    (shownChunks u product references chunks).filter (·.approved) =
      (chunks.filter (forwards u product)).filter fun chunk =>
        references.contains chunk.chunkId := by
  have used : ∀ chunk ∈ (chunks.filter (forwards u product)).filter
      (fun chunk => references.contains chunk.chunkId), chunk.approved = true := by
    intro chunk member
    have ⟨listed, passed⟩ := List.mem_filter.1 (List.mem_filter.1 member).1
    rw [← forwards_of_approved known sound listed]
    exact passed
  have rejected : ∀ chunk ∈ chunks.filter (fun chunk => !forwards u product chunk),
      ¬chunk.approved = true := by
    intro chunk member
    have ⟨listed, refused⟩ := List.mem_filter.1 member
    rw [← forwards_of_approved (u := u) known sound listed]
    simpa using refused
  unfold shownChunks
  rw [List.filter_append, List.filter_eq_self.2 used, List.filter_eq_nil_iff.2 rejected,
    List.append_nil]

theorem fits_of_registered (registered : Registered u product)
    (known : product.productFamily ≠ .unknown) {chunk : RetrievedChunk}
    (model : chunk.modelCode = some product.modelCode) : Fits u product chunk := by
  have ⟨named, family⟩ := registered known
  rw [← model] at named family
  refine ⟨named, by rw [model], fun inferred found => ?_⟩
  rw [family] at found
  exact (Option.some.inj found).symm

/-- The harness passes a general guidance over the evidence of a search. -/
theorem passes_found (registered : Registered u product) (known : product.productFamily ≠ .unknown)
    (sound : Sound product chunks) {safety : SafetyAssessment} {guidance : UsageGuidance}
    (calm : safety.riskLevel ≠ .danger)
    (used : ∃ chunk ∈ chunks, forwards u product chunk = true ∧
      references.contains chunk.chunkId = true) (required : Bool) :
    Passes u config ⟨product, shownChunks u product references chunks, some safety, some guidance,
      [], .absent, false, required, none⟩ where
  functions := rfl
  fit chunk member _ :=
    fits_of_registered registered known (sound.model chunk (mem_shownChunks member))
  named chunk member := sound.named chunk (mem_shownChunks member)
  present _ := by
    have ⟨chunk, listed, passed, referenced⟩ := used
    have kept : chunk ∈ (shownChunks u product references chunks).filter (·.approved) := by
      rw [filter_approved known sound]
      exact List.mem_filter.2 ⟨List.mem_filter.2 ⟨listed, passed⟩, referenced⟩
    exact ⟨chunk, List.mem_filter.1 kept⟩
  safe := safetyIsConsistent_calm _ calm
  schema := rfl

/-- The runtime passes such a run and leaves it as it is. -/
theorem run_found {o : Outside} {a : Args} (plain : Plain a) (captures : a.captured = true)
    (approved : a.product.runtimeApproved = true) (registered : Registered u a.product)
    (known : a.product.productFamily ≠ .unknown) (sound : Sound a.product chunks)
    (capture : s.capture = captured u a.product chunks)
    (used : ∃ chunk ∈ chunks, forwards u a.product chunk = true ∧
      s.ctx.evidenceReferences.contains chunk.chunkId = true)
    {safety : SafetyAssessment} {guidance : UsageGuidance}
    (assessed : s.ctx.safetyAssessment = some safety) (calm : safety.riskLevel ≠ .danger)
    (guided : s.ctx.usageGuidance = some guidance) :
    ∃ result, run u config o a s = (.ok result, s) ∧
      result.harnessRuntime.harness.decision = .pass ∧
      result.harnessRuntime.harness.verification.acceptedEvidenceChunkIds =
        ((chunks.filter (forwards u a.product)).filter fun chunk =>
          s.ctx.evidenceReferences.contains chunk.chunkId).map (·.chunkId) ∧
      ∀ found ∈ result.harnessRuntime.harness.verification.issues,
        found.code = .unverifiedEvidence := by
  have passes : Passes u config ⟨a.product, shownChunks u a.product s.ctx.evidenceReferences chunks,
      some safety, some guidance, [], .absent, false, evidenceRequired s.ctx, none⟩ :=
    passes_found registered known sound calm used _
  have ⟨harness, ran, decided, stays, accepted, codes⟩ :=
    run_passes ⟨0, 0⟩ approved rfl rfl passes
  have verified : verifyRound u config a ⟨0, 0⟩ none s = (.ok harness, s) := by
    unfold verifyRound Reliability.harness
    dsimp only
    rw [captures, if_pos rfl, evidenceForHarness_captured sound capture, assessed, guided,
      plain.functions, plain.output, ran]
  have calmly : isDanger s.ctx = false := by
    unfold isDanger
    rw [assessed, Option.any_some]
    exact beq_eq_false_iff_ne.2 calm
  have routed : routeFinal o a harness s = (.ok ⟨harness, none, none⟩, s) := by
    unfold routeFinal
    dsimp only
    rw [decided]
    dsimp only
    rw [calmly]
    unfold routeRuntime
    rw [if_neg (by rw [decided]; nofun), stays]
    rfl
  refine ⟨⟨⟨harness, none, none⟩, false, false,
    if a.captured then (s.capture.allRejected.map (·.chunkId)).eraseDups else [], none⟩, ?_,
    decided,
    accepted.trans (by rw [filter_approved known sound]), codes⟩
  · unfold run
    rw [plain.toolFailure]
    unfold rounds Step.andThen
    rw [verified]
    dsimp only
    rw [decided]
    dsimp only
    unfold finish Step.andThen
    rw [routed]

end Verdict

end WaterCare.Ai.Reliability
