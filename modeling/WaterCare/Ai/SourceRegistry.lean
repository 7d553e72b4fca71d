import WaterCare.Ai.ConsultationContext

/-!
What holds of the sources that `prepare` registers: their ids are distinct and numbered by
kind, their texts are stripped and within bounds, and the kinds stand in a fixed order.
-/

namespace WaterCare.Ai.ConsultationContext
open Machine Py

/-! ### Texts -/

theorem dropWhile_rdropWhile {p : Char → Bool} {cs : List Char} (h : cs.dropWhile p = cs) :
    (cs.rdropWhile p).dropWhile p = cs.rdropWhile p := by
  cases cs with
  | nil => rfl
  | cons c cs =>
      have first : ¬p c = true := by
        intro blank
        rw [List.dropWhile_cons_of_pos blank] at h
        have shorter := List.length_dropWhile_le p cs
        rw [h, List.length_cons] at shorter
        omega
      cases kept : (c :: cs).rdropWhile p with
      | nil => rfl
      | cons d rest =>
          have isPrefix := List.rdropWhile_prefix p (l := c :: cs)
          rw [kept, List.cons_prefix_cons] at isPrefix
          rw [isPrefix.1, List.dropWhile_cons_of_neg first]

theorem trim_trim (s : Text) : trim (trim s) = trim s := by
  rw [trim, trim, dropWhile_rdropWhile (List.dropWhile_idempotent _ _),
    List.rdropWhile_idempotent]

/-! ### Numbered ids -/

theorem leftpad_inj {m n : Nat}
    (same : (Nat.toDigits 10 m).leftpad 3 '0' = (Nat.toDigits 10 n).leftpad 3 '0') : m = n := by
  have read : ∀ n, Nat.ofDigitChars 10 ((Nat.toDigits 10 n).leftpad 3 '0') 0 = n := by
    intro n
    rw [List.leftpad, Nat.ofDigitChars_append, Nat.ofDigitChars_replicate_zero, Nat.mul_zero,
      Nat.ofDigitChars_ten_toDigits]
  rw [← read m, same, read n]

theorem toList_sourceId (kind : ContextSourceKind) (n : Nat) :
    (sourceId kind n).toList =
      (kind.idPrefix ++ "-").toList ++ (Nat.toDigits 10 n).leftpad 3 '0' := by
  rw [sourceId, String.toList_append, String.toList_ofList]

/-- No prefix of a kind starts the ids of another. -/
theorem isPrefixOf_idPrefix (kind other : ContextSourceKind) (rest : List Char) :
    (kind.idPrefix ++ "-").toList.isPrefixOf ((other.idPrefix ++ "-").toList ++ rest) =
      (kind == other) := by
  cases kind <;> cases other <;> rfl

theorem sourceId_inj {kind other : ContextSourceKind} {m n : Nat}
    (same : sourceId kind m = sourceId other n) : kind = other ∧ m = n := by
  have texts := congrArg String.toList same
  rw [toList_sourceId, toList_sourceId] at texts
  have kinds : kind = other := by
    have starts := isPrefixOf_idPrefix kind other ((Nat.toDigits 10 n).leftpad 3 '0')
    rw [← texts, List.isPrefixOf_iff_prefix.2 (List.prefix_append _ _)] at starts
    exact eq_of_beq starts.symm
  subst kinds
  exact ⟨rfl, leftpad_inj (List.append_cancel_left texts)⟩

/-! ### The registry -/

variable {isDecimal : Char → Bool} {masks : Masks} {sources : List ContextSource}
  {kind : ContextSourceKind} {source : ContextSource}

variable (isDecimal) in
structure Whole (source : ContextSource) : Prop where
  named : (providerSourceId isDecimal).fullmatch source.sourceId = true
  stripped : trim source.text = source.text
  filled : isFilled 2000 source.text = true

variable (isDecimal) in
structure Registered (sources : List ContextSource) : Prop where
  whole : ∀ source ∈ sources, Whole isDecimal source
  numbered : ∀ source ∈ sources, ∃ n ≤ sources.countP (·.kind == source.kind),
    source.sourceId = sourceId source.kind n
  nodup : (sources.map (·.sourceId)).Nodup

theorem contextSource_eq_ok {id : String} {label text : Text}
    (h : contextSource isDecimal id kind label text = .ok source) :
    Whole isDecimal source ∧ source.sourceId = id ∧ source.kind = kind ∧
      source.text = trim text := by
  rw [contextSource, require_bind_eq_ok, require_bind_eq_ok, require_bind_eq_ok] at h
  obtain ⟨named, -, filled, h⟩ := h
  cases h
  exact ⟨⟨named, trim_trim text, filled⟩, rfl, rfl, rfl⟩

namespace Registered

theorem nil : Registered isDecimal [] := ⟨nofun, nofun, List.nodup_nil⟩

/-- The next number of a kind is new. -/
theorem snoc (h : Registered isDecimal sources) (whole : Whole isDecimal source)
    (named : source.sourceId = sourceId source.kind (sources.countP (·.kind == source.kind) + 1)) :
    Registered isDecimal (sources ++ [source]) := by
  refine ⟨?_, ?_, ?_⟩
  · intro other mem
    rcases List.mem_append.1 mem with before | here
    · exact h.whole other before
    · rw [List.mem_singleton.1 here]
      exact whole
  · intro other mem
    rw [List.countP_append]
    rcases List.mem_append.1 mem with before | here
    · have ⟨n, below, numbered⟩ := h.numbered other before
      exact ⟨n, below.trans (Nat.le_add_right _ _), numbered⟩
    · rw [List.mem_singleton.1 here]
      refine ⟨_, ?_, named⟩
      simp
  · rw [List.map_append, List.nodup_append]
    refine ⟨h.nodup, List.nodup_singleton _, ?_⟩
    intro id mem other here same
    obtain ⟨old, before, rfl⟩ := List.mem_map.1 mem
    rw [List.map_singleton, List.mem_singleton] at here
    have ⟨n, below, numbered⟩ := h.numbered old before
    rw [same, here, named] at numbered
    have ⟨kinds, numbers⟩ := sourceId_inj numbered
    rw [← kinds] at below
    omega

theorem hasPrefix_eq (h : Registered isDecimal sources) (mem : source ∈ sources) :
    hasPrefix kind source = (source.kind == kind) := by
  have ⟨n, _, numbered⟩ := h.numbered source mem
  rw [hasPrefix, numbered, toList_sourceId, isPrefixOf_idPrefix, Bool.beq_comm]

theorem count (h : Registered isDecimal sources) (kind : ContextSourceKind) :
    (sources.filter (hasPrefix kind)).length = sources.countP (·.kind == kind) := by
  rw [← List.countP_eq_length_filter]
  exact List.countP_congr fun source mem => by rw [h.hasPrefix_eq mem]

end Registered

/-- The sources that a step adds are of its kind. -/
structure Adds (isDecimal : Char → Bool) (kind : ContextSourceKind)
    (before after : List ContextSource) : Prop where
  registered : Registered isDecimal after
  added : ∃ added, after = before ++ added ∧ ∀ source ∈ added, source.kind = kind

theorem Adds.refl (h : Registered isDecimal sources) : Adds isDecimal kind sources sources :=
  ⟨h, [], (List.append_nil _).symm, nofun⟩

theorem Adds.trans {before middle after : List ContextSource}
    (first : Adds isDecimal kind before middle) (second : Adds isDecimal kind middle after) :
    Adds isDecimal kind before after := by
  obtain ⟨added, rfl, kinds⟩ := first.added
  obtain ⟨more, rfl, kinds'⟩ := second.added
  refine ⟨second.registered, added ++ more, List.append_assoc _ _ _, fun source mem => ?_⟩
  exact (List.mem_append.1 mem).elim (kinds source) (kinds' source)

theorem addSource_adds {acc acc' : List ContextSource × List (Text × Text)}
    {item : Text × Text} (h : Registered isDecimal acc.1)
    (added : addSource isDecimal masks kind acc item = .ok acc') :
    Adds isDecimal kind acc.1 acc'.1 := by
  obtain ⟨sources, seen⟩ := acc
  obtain ⟨label, rawText⟩ := item
  simp only [addSource] at added
  split at added
  · cases added
    exact .refl h
  · obtain ⟨source, made, added⟩ := bind_eq_ok.1 added
    cases added
    have ⟨whole, named, kinds, _⟩ := contextSource_eq_ok made
    rw [h.count] at named
    refine ⟨h.snoc whole (by rw [kinds]; exact named), [source], rfl, fun other mem => ?_⟩
    rw [List.mem_singleton.1 mem, kinds]

theorem addSources_adds {items : List (Text × Text)} {after : List ContextSource}
    (h : Registered isDecimal sources)
    (added : addSources isDecimal masks kind items sources = .ok after) :
    Adds isDecimal kind sources after := by
  have fold : ∀ (items : List (Text × Text)) acc acc', Registered isDecimal acc.1 →
      items.foldlM (addSource isDecimal masks kind) acc = .ok acc' →
      Adds isDecimal kind acc.1 acc'.1 := by
    intro items
    induction items with
    | nil =>
        intro acc acc' h done
        cases done
        exact .refl h
    | cons item items ih =>
        intro acc acc' h done
        rw [List.foldlM_cons] at done
        obtain ⟨next, first, rest⟩ := bind_eq_ok.1 done
        have step := addSource_adds h first
        exact step.trans (ih next acc' step.registered rest)
  obtain ⟨acc, folded, same⟩ := bind_eq_ok.1 added
  cases same
  exact fold items (sources, []) acc h folded

theorem evidence_adds {entries : List ContextSynthesisEvidence} {added : List ContextSource}
    (h : Registered isDecimal sources)
    (mapped : (entries.zipIdx (sources.countP (·.kind == .evidence) + 1)).mapM
      (evidenceSource isDecimal masks) = .ok added) :
    Adds isDecimal .evidence sources (sources ++ added) := by
  induction entries generalizing sources added with
  | nil =>
      rw [List.zipIdx_nil, List.mapM_nil] at mapped
      cases mapped
      rw [List.append_nil]
      exact .refl h
  | cons entry entries ih =>
      rw [List.zipIdx_cons, List.mapM_cons] at mapped
      obtain ⟨source, made, others⟩ := bind_eq_ok.1 mapped
      obtain ⟨rest, later, same⟩ := bind_eq_ok.1 others
      cases same
      have ⟨whole, named, kinds, _⟩ := contextSource_eq_ok made
      have step : Adds isDecimal .evidence sources (sources ++ [source]) := by
        refine ⟨h.snoc whole (by rw [kinds]; exact named), [source], rfl, fun other mem => ?_⟩
        rw [List.mem_singleton.1 mem, kinds]
      have counted : (sources ++ [source]).countP (·.kind == .evidence) =
          sources.countP (·.kind == .evidence) + 1 := by
        rw [List.countP_append, List.countP_singleton, kinds]
        rfl
      rw [← counted] at later
      have more := ih step.registered later
      rw [List.append_assoc, List.singleton_append] at more
      exact step.trans more

/-- What the notes and the findings read off the registry of an input. -/
structure Registry (isDecimal : Char → Bool) (masks : Masks) (input : SynthesisInput)
    (sources : List ContextSource) : Prop where
  registered : Registered isDecimal sources
  reported : sources.filter isReported =
    sources.filter (·.kind == .customerReported) ++ sources.filter (·.kind == .questionnaire)
  evidence : (input.evidence.zipIdx 1).mapM (evidenceSource isDecimal masks) =
    .ok (sources.filter (·.kind == .evidence))

theorem filter_of_kind {p : ContextSource → Bool} {q : ContextSourceKind → Bool}
    (reads : ∀ source, p source = q source.kind) {kind : ContextSourceKind}
    {sources : List ContextSource} (kinds : ∀ source ∈ sources, source.kind = kind) :
    sources.filter p = if q kind then sources else [] := by
  cases holds : q kind with
  | true =>
      refine List.filter_eq_self.2 fun source mem => ?_
      rw [reads, kinds source mem, holds]
  | false =>
      refine List.filter_eq_nil_iff.2 fun source mem => ?_
      rw [reads, kinds source mem, holds]
      exact Bool.false_ne_true

/-- A predicate that the added kind does not have selects what it did before. -/
theorem Adds.filter {before after : List ContextSource} (h : Adds isDecimal kind before after)
    {p : ContextSource → Bool} (q : ContextSourceKind → Bool)
    (reads : ∀ source, p source = q source.kind) (outside : q kind = false) :
    after.filter p = before.filter p := by
  obtain ⟨added, same, kinds⟩ := h.added
  rw [same, List.filter_append, filter_of_kind reads kinds, outside, if_neg Bool.false_ne_true,
    List.append_nil]

theorem registry_spec {input : SynthesisInput}
    (h : registry isDecimal masks input = .ok sources) : Registry isDecimal masks input sources := by
  obtain ⟨s₁, add₁, h⟩ := bind_eq_ok.1 h
  obtain ⟨s₂, add₂, h⟩ := bind_eq_ok.1 h
  obtain ⟨s₃, add₃, h⟩ := bind_eq_ok.1 h
  obtain ⟨evidence, made, h⟩ := bind_eq_ok.1 h
  obtain ⟨s₄, add₄, h⟩ := bind_eq_ok.1 h
  obtain ⟨s₅, add₅, h⟩ := bind_eq_ok.1 h
  obtain ⟨s₆, add₆, add₇⟩ := bind_eq_ok.1 h
  have step₁ := addSources_adds .nil add₁
  have step₂ := addSources_adds step₁.registered add₂
  have step₃ := addSources_adds step₂.registered add₃
  -- the evidence is selected by no step but its own
  let isEvidence (kind : ContextSourceKind) : Bool := kind == .evidence
  have none : s₃.filter (·.kind == .evidence) = [] := by
    rw [step₃.filter isEvidence (fun _ => rfl) rfl, step₂.filter isEvidence (fun _ => rfl) rfl,
      step₁.filter isEvidence (fun _ => rfl) rfl, List.filter_nil]
  have zero : s₃.countP (·.kind == .evidence) = 0 := by
    rw [List.countP_eq_length_filter, none, List.length_nil]
  have stepE := evidence_adds step₃.registered (by rw [zero]; exact made)
  have step₄ := addSources_adds stepE.registered add₄
  have step₅ := addSources_adds step₄.registered add₅
  have step₆ := addSources_adds step₅.registered add₆
  have step₇ := addSources_adds step₆.registered add₇
  have later : ∀ {p : ContextSource → Bool} (q : ContextSourceKind → Bool),
      (∀ source, p source = q source.kind) → q .safety = false → q .unresolved = false →
      q .priority = false → q .escalation = false →
      sources.filter p = (s₃ ++ evidence).filter p := by
    intro p q reads h₄ h₅ h₆ h₇
    rw [step₇.filter q reads h₇, step₆.filter q reads h₆, step₅.filter q reads h₅,
      step₄.filter q reads h₄]
  refine ⟨step₇.registered, ?_, ?_⟩
  · have early : ∀ {p : ContextSource → Bool} (q : ContextSourceKind → Bool),
        (∀ source, p source = q source.kind) → q .safety = false → q .unresolved = false →
        q .priority = false → q .escalation = false → q .evidence = false →
        q .attemptedAction = false → sources.filter p = s₂.filter p := by
      intro p q reads h₄ h₅ h₆ h₇ hE h₃
      rw [later q reads h₄ h₅ h₆ h₇, stepE.filter q reads hE, step₃.filter q reads h₃]
    obtain ⟨facts, same₁, factKinds⟩ := step₁.added
    obtain ⟨answers, same₂, answerKinds⟩ := step₂.added
    rw [List.nil_append] at same₁
    rw [same₁] at same₂
    let isReportedKind (kind : ContextSourceKind) : Bool :=
      kind == .customerReported || kind == .questionnaire
    have all : sources.filter isReported = s₂.filter isReported :=
      early isReportedKind (fun _ => rfl) rfl rfl rfl rfl rfl rfl
    rw [all, early (· == .customerReported) (fun _ => rfl) rfl rfl rfl rfl rfl rfl,
      early (· == .questionnaire) (fun _ => rfl) rfl rfl rfl rfl rfl rfl, same₂,
      List.filter_append, List.filter_append, List.filter_append,
      filter_of_kind (p := isReported) (q := isReportedKind) (fun _ => rfl) factKinds,
      filter_of_kind (p := isReported) (q := isReportedKind) (fun _ => rfl) answerKinds,
      filter_of_kind (p := (·.kind == .customerReported)) (q := (· == .customerReported)) (fun _ => rfl) factKinds,
      filter_of_kind (p := (·.kind == .customerReported)) (q := (· == .customerReported)) (fun _ => rfl) answerKinds,
      filter_of_kind (p := (·.kind == .questionnaire)) (q := (· == .questionnaire)) (fun _ => rfl) factKinds,
      filter_of_kind (p := (·.kind == .questionnaire)) (q := (· == .questionnaire)) (fun _ => rfl) answerKinds]
    exact congrArg (· ++ answers) (List.append_nil facts).symm
  · obtain ⟨added, same, kinds⟩ := stepE.added
    rw [later isEvidence (fun _ => rfl) rfl rfl rfl rfl, List.filter_append, none, List.nil_append,
      List.append_cancel_left same, filter_of_kind (q := isEvidence) (fun _ => rfl) kinds,
      ← List.append_cancel_left same]
    exact made

end WaterCare.Ai.ConsultationContext
