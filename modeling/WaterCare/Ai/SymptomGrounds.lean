import WaterCare.Ai.SymptomStructurer

/-!
What a structured symptom says comes from the customer: by the rules, by a value of a field's own
vocabulary that a quote supports, or by a quote itself.
-/

namespace WaterCare.Ai.SymptomStructurer
open Machine Py SymptomNormalizer SignalDetector

/-! ### Vocabularies -/

/-- The closed vocabulary of a field. -/
def FieldName.vocabulary : FieldName → List Text
  | .symptomType | .accompanyingSymptoms => allowedSymptomTypes
  | .targetWaterType => allowedWaterTypes
  | .actionsTaken => actionRules.map (·.1.toList)
  | .occurrenceTime | .occurrenceCondition | .errorCode => []

section Vocabulary
variable {u : Unicode} {value text : Text}

theorem mem_of_canonical (h : canonicalSelectedSymptom u text = some value) :
    value ∈ allowedSymptomTypes := by
  have codes : selectedSymptomCodes.all (fun entry => symptomLabels.contains entry.2.toList) =
      true := by decide +kernel
  unfold canonicalSelectedSymptom at h
  split at h
  · next entry found =>
      cases h
      have listed := List.all_eq_true.1 codes entry (List.mem_of_find?_eq_some found)
      exact List.contains_iff_mem.1 listed
  · split at h
    · next listed =>
        cases h
        exact listed
    · contradiction

theorem mem_of_normalizeSymptomType : normalizeSymptomType u text [] ∈ allowedSymptomTypes := by
  have labels : symptomRules.all (fun rule => symptomLabels.contains rule.1.toList) = true := by
    decide +kernel
  have other : symptomLabels.contains otherSymptom = true := by decide +kernel
  unfold normalizeSymptomType
  dsimp only
  split
  · next rule found =>
      have listed := List.all_eq_true.1 labels rule (List.mem_of_find?_eq_some found)
      exact List.contains_iff_mem.1 listed
  · exact List.contains_iff_mem.1 other

theorem mem_of_normalizeWaterType (h : normalizeWaterType text = some value) :
    value ∈ allowedWaterTypes := by
  have labels : waterRules.all (fun rule => allowedWaterTypes.contains rule.1.toList) = true := by
    decide +kernel
  have whole : allowedWaterTypes.contains "전체".toList = true := by decide +kernel
  unfold normalizeWaterType at h
  simp only at h
  split at h
  · contradiction
  · next rule found =>
      cases h
      have mem : rule ∈ waterRules := (List.mem_filter.1 (found ▸ List.mem_singleton_self rule)).1
      exact List.contains_iff_mem.1 (List.all_eq_true.1 labels rule mem)
  · cases h
    exact List.contains_iff_mem.1 whole

theorem mem_of_extractActions (h : value ∈ extractActions text) :
    value ∈ actionRules.map (·.1.toList) := by
  have sub : (actionRules.filter fun rule => anyIn rule.2 text).Sublist actionRules :=
    List.filter_sublist
  exact (sub.map _).subset h

/-- The rules of the text come before those of the selected symptoms. -/
theorem normalizeSymptomType_eq {selected : List Text}
    (h : normalizeSymptomType u text [] ≠ otherSymptom) :
    normalizeSymptomType u text selected = normalizeSymptomType u text [] := by
  unfold normalizeSymptomType at *
  dsimp only at *
  split
  · rfl
  · next none =>
      simp only [none] at h
      exact absurd rfl h

end Vocabulary

/-! ### Grounds -/

section Grounds
variable (u : Unicode) (sources : Sources) (claims : List SymptomEvidenceClaim)

/-- The claim is on the field, and its quote is found, in normal form, in the raw text, in a
selected symptom that is known, or in an answer to the field's question that is accepted. -/
def Quoted (fieldName : FieldName) (claim : SymptomEvidenceClaim) : Prop :=
  claim.fieldName = fieldName ∧
  let found (text : Text) : Prop :=
    normalizeEvidenceText u claim.evidenceQuote <:+: normalizeEvidenceText u text
  match claim.source with
  | .rawSymptom => found sources.rawText
  | .selectedSymptom => ∃ item ∈ sources.selectedSymptoms,
      (canonicalSelectedSymptom u item).isSome ∧ found item
  | .previousAnswer => ∃ answer ∈ sources.previousAnswers,
      questionField answer.questionId = some fieldName ∧
      (validatedPreviousAnswer u fieldName answer.answerText).isSome ∧ found answer.answerText

/-- What a quote says of the type of a symptom. -/
inductive SupportsType (value quote : Text) : Prop
  | label (canonical : canonicalSelectedSymptom u quote = some value)
  | rule (typed : normalizeSymptomType u quote [] = value)
  | wording (r : Pattern) (pattern : ∃ name, (name, r) ∈ symptomEvidencePatterns ∧ name.toList = value)
      (found : r.within quote = true)

/-- The quote supports a value of the field's vocabulary. -/
def Supports (fieldName : FieldName) (value quote : Text) : Prop :=
  match fieldName with
  | .symptomType => SupportsType u value quote
  | .accompanyingSymptoms => canonicalSelectedSymptom u quote = some value
  | .targetWaterType => normalizeWaterType quote = some value
  | .actionsTaken => value ∈ extractActions quote
  | .occurrenceTime | .occurrenceCondition | .errorCode => False

/-- Where a value of a field comes from. -/
inductive Grounded (fieldName : FieldName) (value : Text) : Prop
  | rules (mem : value ∈ fieldName.values (structureWithRules u sources.rawText
      sources.selectedSymptoms sources.previousAnswers))
  | canonical (claim : SymptomEvidenceClaim) (mem : claim ∈ claims)
      (quoted : Quoted u sources fieldName claim) (listed : value ∈ fieldName.vocabulary)
      (supported : Supports u fieldName value claim.evidenceQuote)
  | time (claim : SymptomEvidenceClaim) (mem : claim ∈ claims)
      (quoted : Quoted u sources fieldName claim) (onTime : fieldName = .occurrenceTime)
      (extracted : ∃ found, extractOccurrenceTime u claim.evidenceQuote = some found ∧
        normalizeEvidenceText u found = normalizeEvidenceText u value)
  | quote (claim : SymptomEvidenceClaim) (mem : claim ∈ claims)
      (quoted : Quoted u sources fieldName claim)
      (same : normalizeEvidenceText u value = normalizeEvidenceText u claim.evidenceQuote)

/-- What the rules find in the text, the answers and no selected symptom alone is kept. -/
structure Keeps (symptom : StructuredSymptom) : Prop where
  symptomType : normalizeSymptomType u sources.rawText [] ≠ otherSymptom →
    symptom.symptomType = normalizeSymptomType u sources.rawText []
  targetWaterType : ∀ value, (structureWithRules u sources.rawText sources.selectedSymptoms
      sources.previousAnswers).targetWaterType = some value → symptom.targetWaterType = some value
  errorCode : symptom.errorCode = extractErrorCode u sources.rawText

end Grounds

section Evidence
variable {u : Unicode} {sources : Sources} {claims : List SymptomEvidenceClaim}
  {fieldName : FieldName} {value : Text} {claim : SymptomEvidenceClaim}

theorem quoted_of_matches (on : claim.fieldName = fieldName)
    (h : claimSourceMatches u sources claim fieldName = true) : Quoted u sources fieldName claim := by
  refine ⟨on, ?_⟩
  unfold claimSourceMatches at h
  cases source : claim.source with
  | rawSymptom =>
      simp only [source] at h ⊢
      exact of_decide_eq_true h
  | selectedSymptom =>
      simp only [source] at h ⊢
      obtain ⟨item, mem, known⟩ := List.any_eq_true.1 (Bool.and_eq_true_iff.1 h).2
      have both := Bool.and_eq_true_iff.1 known
      exact ⟨item, mem, both.1, of_decide_eq_true both.2⟩
  | previousAnswer =>
      simp only [source] at h ⊢
      obtain ⟨answer, mem, known⟩ := List.any_eq_true.1 h
      obtain ⟨asked, found⟩ := Bool.and_eq_true_iff.1 known
      obtain ⟨question, valid⟩ := Bool.and_eq_true_iff.1 asked
      exact ⟨answer, mem, eq_of_beq question, valid, of_decide_eq_true found⟩

theorem supportsType_of_matches {quote : Text}
    (h : symptomTypeMatchesEvidence u value quote = true) : SupportsType u value quote := by
  unfold symptomTypeMatchesEvidence at h
  have h := (Bool.and_eq_true_iff.1 h).2
  simp only at h
  split at h
  · exact .rule (eq_of_beq h)
  · next other =>
      split at h
      · next same => exact .rule (by rw [same]; exact not_not.1 other)
      · obtain ⟨entry, found, matched⟩ := (Option.any_eq_true _ _).1 h
        have named := List.find?_some found
        exact .wording entry.2 ⟨entry.1, List.mem_of_find?_eq_some found, eq_of_beq named⟩ matched

theorem mem_of_supports {quote : Text} (h : Supports u fieldName value quote) :
    value ∈ fieldName.vocabulary := by
  cases fieldName with
  | symptomType =>
      cases h with
      | label canonical => exact mem_of_canonical canonical
      | rule typed => exact typed ▸ mem_of_normalizeSymptomType
      | wording r pattern found =>
          have names : symptomEvidencePatterns.all
              (fun entry => symptomLabels.contains entry.1.toList) = true := by decide +kernel
          obtain ⟨name, mem, rfl⟩ := pattern
          exact List.contains_iff_mem.1 (List.all_eq_true.1 names (name, r) mem)
  | accompanyingSymptoms => exact mem_of_canonical h
  | targetWaterType => exact mem_of_normalizeWaterType h
  | actionsTaken => exact mem_of_extractActions h
  | occurrenceTime => exact h.elim
  | occurrenceCondition => exact h.elim
  | errorCode => exact h.elim

/-- What a claim supports is grounded by it, except for an error code, which no claim supports. -/
theorem grounded_of_evidence (code : fieldName ≠ .errorCode) (mem : claim ∈ claims)
    (h : isEvidence u sources fieldName value claim = true) :
    Grounded u sources claims fieldName value := by
  unfold isEvidence at h
  simp only [Bool.and_eq_true] at h
  obtain ⟨⟨⟨⟨⟨on, _⟩, found⟩, _⟩, _⟩, matched⟩ := h
  have quoted : Quoted u sources fieldName claim := quoted_of_matches (eq_of_beq on) found
  have canonical (supported : Supports u fieldName value claim.evidenceQuote) :
      Grounded u sources claims fieldName value :=
    .canonical claim mem quoted (mem_of_supports supported) supported
  have quote (same : (normalizeEvidenceText u value == normalizeEvidenceText u
      claim.evidenceQuote) = true) : Grounded u sources claims fieldName value :=
    .quote claim mem quoted (eq_of_beq same)
  unfold claimValueMatchesEvidence at matched
  cases fieldName with
  | targetWaterType => exact canonical (eq_of_beq matched)
  | occurrenceTime =>
      rcases Bool.or_eq_true_iff.1 matched with same | extracted
      · exact quote same
      · obtain ⟨time, extracted, same⟩ := (Option.any_eq_true _ _).1 extracted
        exact .time claim mem quoted rfl ⟨time, extracted, eq_of_beq same⟩
  | occurrenceCondition => exact quote matched
  | errorCode => exact absurd rfl code
  | actionsTaken =>
      rcases Bool.or_eq_true_iff.1 matched with same | listed
      · exact quote same
      · exact canonical (List.contains_iff_mem.1 listed)
  | accompanyingSymptoms =>
      rcases Bool.or_eq_true_iff.1 matched with same | labelled
      · exact quote same
      · exact canonical (eq_of_beq (Bool.and_eq_true_iff.1 labelled).2)
  | symptomType =>
      cases source : claim.source with
      | rawSymptom =>
          simp only [source] at matched
          exact canonical (supportsType_of_matches matched)
      | selectedSymptom =>
          simp only [source] at matched
          exact canonical (.label (eq_of_beq matched))
      | previousAnswer => simp only [source, Bool.false_eq_true] at matched

theorem grounded_of_valid (code : fieldName ≠ .errorCode)
    (h : hasValidEvidence u sources claims fieldName value = true) :
    Grounded u sources claims fieldName value := by
  obtain ⟨claim, mem, evidence⟩ := List.any_eq_true.1 h
  exact grounded_of_evidence code mem evidence

end Evidence

/-! ### The merged symptom -/

section Merge
variable {u : Unicode} {sources : Sources} {claims : List SymptomEvidenceClaim}

/-- The symptom of the rules. -/
def Sources.fallback (u : Unicode) (sources : Sources) : StructuredSymptom :=
  structureWithRules u sources.rawText sources.selectedSymptoms sources.previousAnswers

theorem grounded_of_acceptedScalar {fieldName : FieldName} {candidate : Option Text} {value : Text}
    (code : fieldName ≠ .errorCode) {rule : Option Text}
    (rules : rule.toList ⊆ fieldName.values (sources.fallback u))
    (h : acceptedScalar u sources claims fieldName candidate rule = some value) :
    Grounded u sources claims fieldName value := by
  have fallback (same : rule = some value) : Grounded u sources claims fieldName value :=
    .rules (rules (by simp [same]))
  unfold acceptedScalar at h
  split at h
  · exact fallback h
  · split at h
    · next valid =>
        cases h
        exact grounded_of_valid code valid
    · exact fallback h

theorem toList_subset_or (a b : Option Text) : a.toList ⊆ (a.or b).toList := by
  cases a with
  | none => exact List.nil_subset _
  | some value => exact List.Subset.refl _

theorem grounded_of_or {fieldName : FieldName} {rule rest : Option Text} {value : Text}
    (rules : rule.toList ⊆ fieldName.values (sources.fallback u))
    (others : rest = some value → Grounded u sources claims fieldName value)
    (h : rule.or rest = some value) : Grounded u sources claims fieldName value := by
  cases rule with
  | none => exact others h
  | some first =>
      have same : first = value := Option.some.inj h
      exact .rules (rules (by simp [same]))

/-- Every answer on what was done is among the actions of the rules. -/
theorem mem_actions {value : Text} {answers actions : List Text}
    (h : value ∈ actions ∨ value ∈ answers) :
    value ∈ answers.foldl (fun actions answer =>
      if answer ∈ actions then actions else actions ++ [answer]) actions := by
  induction answers generalizing actions with
  | nil => exact h.resolve_right List.not_mem_nil
  | cons answer rest ih =>
      rw [List.foldl_cons]
      apply ih
      split
      · next known =>
          rcases h with old | new
          · exact .inl old
          · rcases List.mem_cons.1 new with rfl | later
            · exact .inl known
            · exact .inr later
      · rcases h with old | new
        · exact .inl (List.mem_append_left _ old)
        · rcases List.mem_cons.1 new with rfl | later
          · exact .inl (List.mem_append_right _ (List.mem_singleton_self _))
          · exact .inr later

theorem grounded_of_merge (candidate : StructuredSymptom) (fieldName : FieldName) (value : Text)
    (h : value ∈ fieldName.values (merge u sources claims candidate (sources.fallback u))) :
    Grounded u sources claims fieldName value := by
  cases fieldName with
  | symptomType =>
      have h := List.mem_singleton.1 h
      simp only [merge] at h
      split at h
      · next valid => exact h ▸ grounded_of_valid nofun valid
      · exact .rules (List.mem_singleton.2 h)
  | occurrenceTime =>
      refine grounded_of_or (toList_subset_or _ _) (fun accepted => ?_) (Option.mem_toList.1 h)
      exact grounded_of_acceptedScalar nofun (List.Subset.refl _) accepted
  | targetWaterType =>
      have h := Option.mem_toList.1 h
      simp only [merge, ← Option.or_assoc] at h
      refine grounded_of_or (List.Subset.refl _) (fun accepted => ?_) h
      exact grounded_of_acceptedScalar nofun (List.Subset.refl _) accepted
  | occurrenceCondition =>
      refine grounded_of_or (toList_subset_or _ _) (fun accepted => ?_) (Option.mem_toList.1 h)
      exact grounded_of_acceptedScalar nofun (List.Subset.refl _) accepted
  | errorCode => exact .rules h
  | accompanyingSymptoms =>
      rcases List.mem_append.1 (List.mem_eraseDups.1 h) with selected | accepted
      · exact .rules selected
      · exact grounded_of_valid nofun (List.mem_filter.1 accepted).2
  | actionsTaken =>
      rcases List.mem_append.1 (List.mem_eraseDups.1 h) with accepted | known
      · exact grounded_of_valid nofun (List.mem_filter.1 accepted).2
      · rcases List.mem_append.1 known with ruled | answered
        · exact .rules ruled
        · exact .rules (mem_actions (.inr answered))

/-- A type is accepted only if it is the one the text has by the rules, where there is one. -/
theorem symptomType_of_valid {value : Text}
    (typed : normalizeSymptomType u sources.rawText [] ≠ otherSymptom)
    (h : hasValidEvidence u sources claims .symptomType value = true) :
    value = normalizeSymptomType u sources.rawText [] := by
  obtain ⟨claim, _, evidence⟩ := List.any_eq_true.1 h
  unfold isEvidence at evidence
  simp only [Bool.and_eq_true, Bool.not_eq_true', Bool.and_eq_false_iff] at evidence
  have kept := evidence.1.1.2
  by_contra other
  have differs : (normalizeSymptomType u sources.rawText [] != value) = true :=
    bne_iff_ne.2 fun same => other same.symm
  simp [typed, differs] at kept

theorem fallback_symptomType :
    (sources.fallback u).symptomType =
      normalizeSymptomType u sources.rawText sources.selectedSymptoms := rfl

theorem keeps_fallback : Keeps u sources (sources.fallback u) where
  symptomType := by
    intro typed
    rw [fallback_symptomType]
    exact normalizeSymptomType_eq typed
  targetWaterType := fun _ found => found
  errorCode := rfl

theorem keeps_merge (candidate : StructuredSymptom) :
    Keeps u sources (merge u sources claims candidate (sources.fallback u)) where
  symptomType := by
    intro typed
    simp only [merge]
    split
    · next valid => exact symptomType_of_valid typed valid
    · rw [fallback_symptomType]
      exact normalizeSymptomType_eq typed
  targetWaterType := by
    intro value found
    have found : (sources.fallback u).targetWaterType = some value := found
    have merged : (merge u sources claims candidate (sources.fallback u)).targetWaterType =
        (sources.fallback u).targetWaterType.or (acceptedScalar u sources claims .targetWaterType
          candidate.targetWaterType (sources.fallback u).targetWaterType) :=
      (Option.or_assoc ..).symm
    rw [merged, found, Option.some_or]
  errorCode := rfl

end Merge

/-! ### The structurer -/

/-- The claims of the model's answer, if there is one. -/
def claimsOf : Option LLMCall → List SymptomEvidenceClaim
  | some (.answered response) => response.evidenceClaims
  | _ => []

/-- The symptom is that of the rules, or one merged into it. -/
theorem structureSymptom_cases {u : Unicode} {client : Option LLMCall} {sources : Sources}
    {symptom : StructuredSymptom} {signals : SafetySignals}
    (h : structureSymptom u client sources = .ok (symptom, signals)) :
    symptom = sources.fallback u ∨
      ∃ response, client = some (.answered response) ∧
        symptom = merge u sources response.evidenceClaims response.output (sources.fallback u) := by
  obtain ⟨found, _, h⟩ := bind_eq_ok.1 h
  cases client with
  | none => exact .inl (Prod.mk.inj (Except.ok.inj h)).1.symm
  | some call =>
      cases call with
      | failed => exact .inl (Prod.mk.inj (Except.ok.inj h)).1.symm
      | answered response =>
          dsimp only at h
          split at h
          · exact .inl (Prod.mk.inj (Except.ok.inj h)).1.symm
          · next accepted rejected checked =>
              obtain ⟨_, _, merged⟩ := bind_eq_ok.1 checked
              have accepted_eq := (Prod.mk.inj (Except.ok.inj merged)).1
              have symptom_eq := (Prod.mk.inj (Except.ok.inj h)).1
              exact .inr ⟨response, rfl, symptom_eq ▸ accepted_eq.symm⟩

/-- Every value of a structured symptom is grounded, what the rules find in the text and the
answers is kept, and without an answer of the model the symptom is that of the rules. -/
theorem symptom_grounded {u : Unicode} {client : Option LLMCall} {sources : Sources}
    {symptom : StructuredSymptom} {signals : SafetySignals}
    (h : structureSymptom u client sources = .ok (symptom, signals)) :
    (∀ fieldName : FieldName, ∀ value ∈ fieldName.values symptom,
      Grounded u sources (claimsOf client) fieldName value) ∧
    Keeps u sources symptom ∧
    ((∀ response, client ≠ some (.answered response)) → symptom = structureWithRules u
      sources.rawText sources.selectedSymptoms sources.previousAnswers) := by
  rcases structureSymptom_cases h with rfl | ⟨response, rfl, rfl⟩
  · exact ⟨fun _ _ mem => .rules mem, keeps_fallback, fun _ => rfl⟩
  · exact ⟨grounded_of_merge response.output, keeps_merge response.output,
      fun absent => absurd rfl (absent response)⟩

/-! ### A selected leak -/

namespace Sample

/-- A customer selects a leak and writes of a noise. -/
def sources : Sources where
  rawText := "기계에서 소리가 이상하게 나요".toList
  selectedSymptoms := ["LEAK".toList]
  previousAnswers := []

/-- A type that the text has by the wording of a quote, though not by the rules. -/
def response : LLMResponse where
  output := ⟨"소음 이상".toList, none, none, none, none, [], []⟩
  evidenceClaims :=
    [⟨.symptomType, "소음 이상".toList, .rawSymptom, "소리가 이상하게 나요".toList⟩]
  safetySignals := .ofEvidence []

def symptom : StructuredSymptom :=
  ⟨"소음 이상".toList, none, none, none, none, ["LEAK".toList], []⟩

end Sample

theorem structured_sample :
    ∃ signals, structureSymptom .basic (some (.answered Sample.response)) Sample.sources =
      .ok (Sample.symptom, signals) := by
  have found : (structureSymptom .basic (some (.answered Sample.response)) Sample.sources).map
      Prod.fst = .ok Sample.symptom := by decide +kernel
  obtain ⟨pair, same, first⟩ := map_eq_ok.1 found
  exact ⟨pair.2, by rw [same, ← first]⟩

theorem symptom_grounded_noise :
    ∃ signals, structureSymptom .basic (some (.answered Sample.response)) Sample.sources =
      .ok (Sample.symptom, signals) ∧
    (∀ fieldName : FieldName, ∀ value ∈ fieldName.values Sample.symptom,
      Grounded .basic Sample.sources Sample.response.evidenceClaims fieldName value) := by
  obtain ⟨signals, found⟩ := structured_sample
  exact ⟨signals, found, (symptom_grounded found).1⟩

/-- The rules find the leak that is selected, and the claim of the model replaces it. -/
theorem selected_leak_replaced :
    ∃ signals, structureSymptom .basic (some (.answered Sample.response)) Sample.sources =
      .ok (Sample.symptom, signals) ∧
    (structureWithRules .basic Sample.sources.rawText Sample.sources.selectedSymptoms
      Sample.sources.previousAnswers).symptomType = "제품 누수".toList ∧
    Sample.symptom.symptomType ≠ "제품 누수".toList := by
  obtain ⟨signals, found⟩ := structured_sample
  exact ⟨signals, found, by decide +kernel, by decide +kernel⟩

end WaterCare.Ai.SymptomStructurer
