import Mathlib.Data.List.Perm.Subperm
import WaterCare.Ai.SourceRegistry

/-!
What the validator's brief keeps of the deterministic one: all statements and findings, for
every candidate of the language model. The note on a conflict is joined in two ways, in full
and with every text cut to its share, and is kept where the two agree.
-/

namespace WaterCare.Ai.ConsultationContext
open Machine Py

/-- What each of some texts may take of the 2000 characters of a statement. -/
def share (count : Nat) : Nat := max 1 ((2000 - 3 * (count - 1)) / max 1 count)

/-- Cutting the texts to their share does not show in the note on their conflict. -/
def Fits (texts : List Text) : Prop :=
  trim (("상충 정보: ".toList ++ join texts).take 2000) =
    trim (("상충 정보: ".toList ++ join (texts.map (·.take (share texts.length)))).take 2000)

instance (texts : List Text) : Decidable (Fits texts) := inferInstanceAs (Decidable (_ = _))

/-- The statement has nothing but a fixed label and texts of the sources it names, or it is
the fixed one on the lack of evidence. -/
inductive Composed (sources : List ContextSource) (statement : SourcedBriefStatement) : Prop
  | joined (label : String) (chosen : List ContextSource) (n : Nat)
      (fixed : label ∈ ["", "조치 결과 미확인: ", "상충 정보: "])
      (known : chosen ⊆ sources)
      (ids : statement.sourceIds = chosen.map (·.sourceId))
      (text : statement.text = trim ((label.toList ++ join (chosen.map fun source =>
        source.text.take n)).take 2000))
  | noEvidence (text : statement.text = noEvidenceText)

/-- The statement of a source, with its full text. -/
def ContextSource.exact (source : ContextSource) : SourcedBriefStatement :=
  ⟨source.text, [source.sourceId]⟩

def ofKinds (kinds : List ContextSourceKind) (sources : List ContextSource) : List ContextSource :=
  sources.filter fun source => kinds.contains source.kind

/-- A list of the brief is the deterministic one up to order, and states each source of its
kinds once. -/
structure Exact (sources : List ContextSource) (kinds : List ContextSourceKind)
    (built deterministic : List SourcedBriefStatement) : Prop where
  perm : built.Perm deterministic
  whole : deterministic = (ofKinds kinds sources).map (·.exact)

def CounselorContextBrief.statements (brief : CounselorContextBrief) :
    List SourcedBriefStatement :=
  brief.issueSummary :: (brief.safetyConstraints ++ brief.customerReportedFacts ++
    brief.attemptedActionsAndOutcomes ++ brief.unresolvedQuestions ++
    brief.evidenceBasedFindings.map (·.toSourcedBriefStatement) ++
    brief.consultantPriorityChecks ++ brief.uncertaintyNotes)

structure Faithful (input : SynthesisInput) (prepared : PreparedContextSynthesis)
    (brief : CounselorContextBrief) : Prop where
  safety : Exact prepared.sourcesById [.safety] brief.safetyConstraints
    prepared.deterministicBrief.safetyConstraints
  facts : Exact prepared.sourcesById [.customerReported, .questionnaire]
    brief.customerReportedFacts prepared.deterministicBrief.customerReportedFacts
  attempted : Exact prepared.sourcesById [.attemptedAction] brief.attemptedActionsAndOutcomes
    prepared.deterministicBrief.attemptedActionsAndOutcomes
  unresolved : Exact prepared.sourcesById [.unresolved] brief.unresolvedQuestions
    prepared.deterministicBrief.unresolvedQuestions
  priority : Exact prepared.sourcesById [.priority] brief.consultantPriorityChecks
    prepared.deterministicBrief.consultantPriorityChecks
  evidence : (ofKinds [.evidence] prepared.sourcesById).length = input.evidence.length
  findings : brief.evidenceBasedFindings.Perm
    (List.zipWith (fun source evidence => ⟨source.exact, [evidence.chunkId]⟩)
      (ofKinds [.evidence] prepared.sourcesById) input.evidence)
  notes : prepared.deterministicBrief.uncertaintyNotes ⊆ brief.uncertaintyNotes
  composed : ∀ statement ∈ brief.statements, Composed prepared.sourcesById statement

variable {isDecimal : Char → Bool} {masks : Masks} {sources : List ContextSource}
  {kinds : List ContextSourceKind} {source : ContextSource} {note : SourcedBriefStatement}

/-! ### Texts -/

theorem take_append_take {α : Type} (n : Nat) (xs ys : List α) :
    (xs ++ ys.take n).take n = (xs ++ ys).take n := by
  rw [List.take_append, List.take_append, List.take_take]
  congr 2
  omega

theorem join_singleton (s : Text) : join [s] = s := List.append_nil s

theorem isFilled_iff {n : Nat} {s : Text} : isFilled n s = true ↔ s ≠ [] ∧ s.length ≤ n := by
  rw [isFilled, Bool.and_eq_true, decide_eq_true_iff, decide_eq_true_iff]

theorem length_trim (s : Text) : (trim s).length ≤ s.length :=
  (List.rdropWhile_prefix _ _).length_le.trans (List.length_dropWhile_le _ _)

/-- A text that starts with a visible character is not blank. -/
theorem trim_ne_nil {c : Char} {cs : Text} (visible : isBlank c = false) : trim (c :: cs) ≠ [] := by
  rw [trim, List.dropWhile_cons_of_neg (by rw [visible]; exact Bool.false_ne_true)]
  intro none
  have blank := List.rdropWhile_eq_nil_iff.1 none c List.mem_cons_self
  rw [visible] at blank
  cases blank

/-! ### Statements -/

theorem statement_eq_ok {text : Text} {ids : List String} :
    statement isDecimal text ids = .ok note ↔
      isFilled 2000 (trim text) = true ∧ (!ids.isEmpty && decide (ids.length ≤ 20)) = true ∧
        ids.all (providerSourceId isDecimal).fullmatch = true ∧ decide ids.Nodup = true ∧
          note = ⟨trim text, ids⟩ := by
  rw [statement, require_bind_eq_ok, require_bind_eq_ok, require_bind_eq_ok, require_bind_eq_ok]
  refine and_congr_right fun _ => and_congr_right fun _ => and_congr_right fun _ =>
    and_congr_right fun _ => ?_
  exact ⟨fun same => (Except.ok.inj same).symm, fun same => congrArg Except.ok same.symm⟩

theorem statement_text {text : Text} {ids : List String}
    (h : statement isDecimal text ids = .ok note) : note = ⟨trim text, ids⟩ :=
  (statement_eq_ok.1 h).2.2.2.2

theorem Whole.short (h : Whole isDecimal source) : source.text.length ≤ 2000 :=
  (isFilled_iff.1 h.filled).2

theorem Whole.exactStatement_eq (h : Whole isDecimal source) :
    exactStatement isDecimal source = .ok source.exact := by
  refine statement_eq_ok.2 ⟨?_, rfl, ?_, ?_, ?_⟩
  · rw [h.stripped]
    exact h.filled
  · simp [h.named]
  · exact decide_eq_true (List.nodup_singleton _)
  · rw [h.stripped]
    rfl

theorem Whole.composed (h : Whole isDecimal source) (mem : source ∈ sources) :
    Composed sources source.exact := by
  refine .joined "" [source] 2000 List.mem_cons_self ?_ rfl ?_
  · exact List.cons_subset.2 ⟨mem, List.nil_subset _⟩
  · rw [List.map_singleton, join_singleton, List.take_of_length_le h.short]
    refine Eq.trans ?_ (congrArg trim (List.take_of_length_le h.short).symm)
    exact h.stripped.symm

/-! ### Looking sources up -/

namespace Registered

theorem eq_of_id (h : Registered isDecimal sources) {other : ContextSource}
    (mem : source ∈ sources) (mem' : other ∈ sources) (same : source.sourceId = other.sourceId) :
    source = other := List.inj_on_of_nodup_map h.nodup mem mem' same

/-- A source is found by its id among any of the registered ones. -/
theorem sourceOf_among (h : Registered isDecimal sources) {some : List ContextSource}
    (known : some ⊆ sources) (mem : source ∈ some) :
    sourceOf some source.sourceId = .ok source := by
  rw [sourceOf]
  cases found : some.find? (·.sourceId == source.sourceId) with
  | none =>
      have missing := List.find?_eq_none.1 found source mem
      exact absurd (beq_self_eq_true _) missing
  | some other =>
      have same := List.find?_some found
      have there := known (List.mem_of_find?_eq_some found)
      exact congrArg Except.ok (h.eq_of_id there (known mem) (eq_of_beq same))

theorem sourceOf_eq (h : Registered isDecimal sources) (mem : source ∈ sources) :
    sourceOf sources source.sourceId = .ok source := h.sourceOf_among (List.Subset.refl _) mem

theorem exactStatements_eq (h : Registered isDecimal sources) (kinds : List ContextSourceKind) :
    exactStatements isDecimal kinds sources = .ok ((ofKinds kinds sources).map (·.exact)) :=
  mapM_of_ok fun source mem =>
    (h.whole source (List.mem_of_mem_filter mem)).exactStatement_eq

theorem resolveExact_eq (h : Registered isDecimal sources) {chosen : List ContextSource}
    (known : chosen ⊆ sources) :
    resolveExact isDecimal sources (chosen.map (·.sourceId)) = .ok (chosen.map (·.exact)) := by
  rw [resolveExact, List.mapM_map]
  refine mapM_of_ok fun source mem => ?_
  refine (bind_of_ok (h.sourceOf_eq (known mem))).trans ?_
  exact (h.whole source (known mem)).exactStatement_eq

end Registered

/-- Registered sources are told apart by their ids, also as lists. -/
theorem Registered.eq_of_ids (h : Registered isDecimal sources) {xs ys : List ContextSource}
    (known : xs ⊆ sources) (known' : ys ⊆ sources)
    (same : xs.map (·.sourceId) = ys.map (·.sourceId)) : xs = ys := by
  induction xs generalizing ys with
  | nil => exact (List.map_eq_nil_iff.1 same.symm).symm
  | cons x xs ih =>
      cases ys with
      | nil => cases same
      | cons y ys =>
          have ⟨first, rest⟩ := List.cons_subset.1 known
          have ⟨first', rest'⟩ := List.cons_subset.1 known'
          rw [List.map_cons, List.map_cons, List.cons.injEq] at same
          rw [h.eq_of_id first first' same.1, ih rest rest' same.2]

theorem sourceOf_eq_ok {id : String} (h : sourceOf sources id = .ok source) :
    source ∈ sources ∧ source.sourceId = id := by
  rw [sourceOf] at h
  split at h
  · next found =>
      cases h
      have same := List.find?_some found
      exact ⟨List.mem_of_find?_eq_some found, eq_of_beq same⟩
  · cases h

/-- The sources looked up by some ids have them. -/
theorem mapM_sourceOf {ids : List String} {chosen : List ContextSource}
    (h : ids.mapM (sourceOf sources) = .ok chosen) :
    chosen ⊆ sources ∧ ids = chosen.map (·.sourceId) := by
  have related := mapM_eq_ok h
  induction related with
  | nil => exact ⟨List.nil_subset _, rfl⟩
  | cons first _ ih =>
      rw [List.mapM_cons, bind_of_ok first] at h
      obtain ⟨rest, later, same⟩ := bind_eq_ok.1 h
      cases same
      have ⟨known, same⟩ := ih later
      have ⟨mem, named⟩ := sourceOf_eq_ok first
      exact ⟨List.cons_subset.2 ⟨mem, known⟩, by rw [List.map_cons, ← same, named]⟩

/-! ### What the candidate may select -/

/-- The sources that the provider is shown. -/
def shown (sources : List ContextSource) : List ContextSource :=
  sources.filter fun source =>
    ((sources.filter isProviderEligible).map (·.sourceId)).contains source.sourceId

theorem Registered.mem_shown (h : Registered isDecimal sources) :
    source ∈ shown sources ↔ source ∈ sources ∧ isProviderEligible source = true := by
  rw [shown, List.mem_filter, List.contains_iff_mem, List.mem_map]
  refine and_congr_right fun mem => ⟨?_, fun eligible => ?_⟩
  · rintro ⟨other, mem', same⟩
    have ⟨declared, eligible⟩ := List.mem_filter.1 mem'
    rwa [h.eq_of_id declared mem same] at eligible
  · exact ⟨source, List.mem_filter.2 ⟨mem, eligible⟩, rfl⟩

theorem requireSafeSubset_eq_ok {name : String} {selected expected : List String} {u : Unit} :
    requireSafeSubset name selected expected = .ok u ↔ selected.Nodup ∧ selected ⊆ expected := by
  rw [requireSafeSubset, require_bind_eq_ok, require_eq_ok, decide_eq_true_iff, List.all_eq_true]
  exact and_congr_right fun _ => forall₂_congr fun id _ => List.contains_iff_mem

theorem exists_map_of_subset {α β : Type} {f : α → β} {xs : List α} {ys : List β}
    (subset : ys ⊆ xs.map f) : ∃ chosen ⊆ xs, ys = chosen.map f := by
  induction ys with
  | nil => exact ⟨[], List.nil_subset _, rfl⟩
  | cons y ys ih =>
      have ⟨first, rest⟩ := List.cons_subset.1 subset
      obtain ⟨x, mem, rfl⟩ := List.mem_map.1 first
      obtain ⟨chosen, known, rfl⟩ := ih rest
      exact ⟨x :: chosen, List.cons_subset.2 ⟨mem, known⟩, rfl⟩

theorem Registered.nodup_sources (h : Registered isDecimal sources) : sources.Nodup :=
  h.nodup.of_map _

/-- What is selected and what is merged to it make up the kinds, each source once. -/
theorem Registered.resolved (h : Registered isDecimal sources) {selected : List String}
    {name : String} {u : Unit}
    (checked : requireSafeSubset name selected (categoryIds (shown sources) kinds) = .ok u)
    {statements : List SourcedBriefStatement}
    (built : resolveExact isDecimal sources (mergeWithInternalIds selected kinds sources) =
      .ok statements) : statements.Perm ((ofKinds kinds sources).map (·.exact)) := by
  have ⟨nodup, subset⟩ := requireSafeSubset_eq_ok.1 checked
  obtain ⟨chosen, known, rfl⟩ := exists_map_of_subset subset
  have ofKind : ∀ source ∈ chosen, source ∈ ofKinds kinds sources := by
    intro source mem
    have ⟨there, kind⟩ := List.mem_filter.1 (known mem)
    exact List.mem_filter.2 ⟨(h.mem_shown.1 there).1, kind⟩
  have inSources : ∀ source ∈ chosen, source ∈ sources :=
    fun source mem => List.mem_of_mem_filter (ofKind source mem)
  let rest := sources.filter fun source =>
    kinds.contains source.kind && !(chosen.map (·.sourceId)).contains source.sourceId
  have mem_rest : ∀ source, source ∈ rest ↔ source ∈ ofKinds kinds sources ∧ source ∉ chosen := by
    intro source
    rw [List.mem_filter, ofKinds, List.mem_filter, Bool.and_eq_true, and_assoc]
    refine and_congr_right fun mem => and_congr_right fun _ => ?_
    rw [Bool.not_eq_true', ← Bool.not_eq_true, List.contains_iff_mem, List.mem_map]
    refine not_congr ⟨?_, fun there => ⟨source, there, rfl⟩⟩
    rintro ⟨other, there, same⟩
    rwa [← h.eq_of_id (inSources other there) mem same]
  have merged : mergeWithInternalIds (chosen.map (·.sourceId)) kinds sources =
      (chosen ++ rest).map (·.sourceId) := by
    rw [mergeWithInternalIds, List.map_append]
  have all : chosen ++ rest ⊆ sources := by
    intro source mem
    rcases List.mem_append.1 mem with there | there
    · exact inSources source there
    · exact List.mem_of_mem_filter there
  rw [merged, h.resolveExact_eq all] at built
  rw [← Except.ok.inj built]
  refine List.Perm.map _ ?_
  have apart : (chosen ++ rest).Nodup := by
    refine List.nodup_append.2 ⟨nodup.of_map _, h.nodup_sources.filter _, ?_⟩
    intro source there other there' same
    exact ((mem_rest other).1 there').2 (same ▸ there)
  refine (List.perm_ext_iff_of_nodup apart (h.nodup_sources.filter _)).2 fun source => ?_
  rw [List.mem_append, mem_rest]
  constructor
  · rintro (there | ⟨there, _⟩)
    · exact ofKind source there
    · exact there
  · intro there
    by_cases selected : source ∈ chosen
    · exact .inl selected
    · exact .inr ⟨there, selected⟩

/-- The provider is shown no evidence, so the candidate has no group of it. -/
theorem Registered.no_evidence_groups (h : Registered isDecimal sources)
    {groups : List ContextSourceGroup}
    (subset : groups.flatMap (·.sourceIds) ⊆ categoryIds (shown sources) [.evidence]) :
    groups = [] := by
  have none : categoryIds (shown sources) [.evidence] = [] := by
    rw [categoryIds, List.map_eq_nil_iff, List.filter_eq_nil_iff]
    intro source mem isEvidence
    have eligible := (h.mem_shown.1 mem).2
    have kind : source.kind = .evidence := by simpa using isEvidence
    rw [isProviderEligible, kind] at eligible
    cases eligible
  rw [none] at subset
  cases groups with
  | nil => rfl
  | cons group groups =>
      have flat := List.eq_nil_of_subset_nil subset
      rw [List.flatMap_cons] at flat
      exact absurd (List.append_eq_nil_iff.1 flat).1 group.filled

/-! ### Notes -/

theorem mem_conflicts {group reported : List ContextSource} (h : group ∈ conflicts reported) :
    group ⊆ reported := by
  obtain ⟨all, mem, slice⟩ := List.mem_flatMap.1 h
  obtain ⟨label, _, rfl⟩ := List.mem_map.1 (List.mem_of_mem_filter mem)
  obtain ⟨i, _, rfl⟩ := List.mem_map.1 slice
  intro source there
  exact List.mem_of_mem_filter (List.mem_of_mem_drop (List.mem_of_mem_take there))

/-- The text that the validator joins, cut once. -/
theorem conflict_text (texts : List Text) :
    trim (("상충 정보: ".toList ++ joinSourceTexts texts).take 2000) =
      trim (("상충 정보: ".toList ++ join (texts.map (·.take (share texts.length)))).take 2000) := by
  rw [joinSourceTexts, take_append_take]
  rfl

theorem outcomeNote_composed (h : outcomeNote isDecimal source = .ok note)
    (mem : source ∈ sources) (whole : Whole isDecimal source) : Composed sources note := by
  rw [statement_text h]
  refine .joined "조치 결과 미확인: " [source] 2000 (by simp) ?_ rfl ?_
  · exact List.cons_subset.2 ⟨mem, List.nil_subset _⟩
  · rw [List.map_singleton, join_singleton, List.take_of_length_le whole.short]

theorem conflictNote_composed {group : List ContextSource}
    (h : conflictNote isDecimal joinSourceTexts group = .ok note) (known : group ⊆ sources) :
    Composed sources note := by
  rw [statement_text h]
  refine .joined "상충 정보: " group (share group.length) (by simp) known rfl ?_
  rw [conflict_text, List.map_map, List.length_map]
  rfl

theorem materializeGroup_composed {ids : List String}
    (h : materializeGroup isDecimal sources ids = .ok note) : Composed sources note := by
  obtain ⟨chosen, found, made⟩ := bind_eq_ok.1 h
  have ⟨known, same⟩ := mapM_sourceOf found
  rw [statement_text made]
  refine .joined "" chosen (share chosen.length) List.mem_cons_self known same ?_
  rw [joinSourceTexts, List.map_map, List.length_map]
  rfl

theorem escalationNote_eq_ok {notes : List SourcedBriefStatement}
    (h : escalationNote isDecimal sources = .ok notes) :
    ∀ note ∈ notes, note.text = noEvidenceText ∧
      ∃ source ∈ sources, source.kind = .escalation ∧ note.sourceIds = [source.sourceId] := by
  rw [escalationNote] at h
  split at h
  · cases h
    exact nofun
  · split at h
    · next source found =>
        intro note mem
        have ⟨other, single, made⟩ := forall₂_mem (mapM_eq_ok h) mem
        rw [List.mem_singleton.1 single] at made
        rw [statement_text made]
        have kind := List.find?_some found
        exact ⟨rfl, source, List.mem_of_find?_eq_some found, eq_of_beq kind, rfl⟩
    · cases h

theorem mem_stableUniqueStatements {statements : List SourcedBriefStatement} :
    note ∈ stableUniqueStatements statements ↔ note ∈ statements := by
  have fold : ∀ unique : List SourcedBriefStatement,
      note ∈ statements.foldl (fun unique statement =>
        if statement ∈ unique then unique else unique ++ [statement]) unique ↔
      note ∈ unique ∨ note ∈ statements := by
    induction statements with
    | nil => simp
    | cons statement statements ih =>
        intro unique
        rw [List.foldl_cons, ih, List.mem_cons]
        by_cases there : statement ∈ unique
        · rw [if_pos there]
          constructor
          · exact fun h => h.imp_right .inr
          · rintro (h | rfl | h)
            · exact .inl h
            · exact .inl there
            · exact .inr h
        · rw [if_neg there, List.mem_append, List.mem_singleton, or_assoc]
  rw [stableUniqueStatements, fold, or_iff_right List.not_mem_nil]

theorem length_stableUniqueStatements (statements : List SourcedBriefStatement) :
    (stableUniqueStatements statements).length ≤ statements.length := by
  have fold : ∀ unique : List SourcedBriefStatement,
      (statements.foldl (fun unique statement =>
        if statement ∈ unique then unique else unique ++ [statement]) unique).length ≤
      unique.length + statements.length := by
    induction statements with
    | nil => simp
    | cons statement statements ih =>
        intro unique
        rw [List.foldl_cons, List.length_cons]
        refine (ih _).trans ?_
        split
        · omega
        · rw [List.length_append, List.length_singleton]
          omega
  have bound := fold []
  rwa [List.length_nil, Nat.zero_add] at bound

/-! ### Findings -/

theorem chunkOf_eq {input : SynthesisInput} {evidence : ContextSynthesisEvidence} {n : Nat}
    (mem : (evidence, n) ∈ input.evidence.zipIdx 1) :
    chunkOf (evidenceChunkIds input) (sourceId .evidence n) = .ok evidence.chunkId := by
  rw [chunkOf]
  cases found : (evidenceChunkIds input).find? (·.1 == sourceId .evidence n) with
  | none =>
      have missing := List.find?_eq_none.1 found _ (List.mem_map_of_mem mem)
      exact absurd (beq_self_eq_true _) missing
  | some entry =>
      have same := List.find?_some found
      obtain ⟨⟨other, m⟩, mem', rfl⟩ := List.mem_map.1 (List.mem_of_find?_eq_some found)
      have number : m = n := (sourceId_inj (eq_of_beq same)).2
      rw [number] at mem'
      have here := (List.mk_mem_zipIdx_iff_le_and_getElem?_sub.1 mem).2
      have there := (List.mk_mem_zipIdx_iff_le_and_getElem?_sub.1 mem').2
      rw [here] at there
      rw [Option.some.inj there]

theorem sourceFinding_eq_ok {chunkIds : List (String × Text)} {found : EvidenceBriefFinding}
    (whole : Whole isDecimal source) (h : sourceFinding isDecimal chunkIds source = .ok found) :
    ∃ chunkId, chunkOf chunkIds source.sourceId = .ok chunkId ∧
      found = ⟨source.exact, [trim chunkId]⟩ := by
  obtain ⟨chunkId, chunk, made⟩ := bind_eq_ok.1 h
  have stated : statement isDecimal source.text [source.sourceId] = .ok source.exact :=
    whole.exactStatement_eq
  rw [finding, bind_of_ok stated, require_bind_eq_ok, require_bind_eq_ok] at made
  exact ⟨chunkId, chunk, (Except.ok.inj made.2.2).symm⟩

/-- The findings name the sources of the evidence, each with its own chunk. -/
theorem findings_eq {input : SynthesisInput} {k : Nat} {entries : List ContextSynthesisEvidence}
    {findings : List EvidenceBriefFinding} (registered : ∀ source ∈ sources, Whole isDecimal source)
    (part : entries.zipIdx k ⊆ input.evidence.zipIdx 1)
    (made : (entries.zipIdx k).mapM (evidenceSource isDecimal masks) = .ok sources)
    (found : sources.mapM (sourceFinding isDecimal (evidenceChunkIds input)) = .ok findings) :
    sources.length = entries.length ∧ findings = List.zipWith
      (fun source evidence => ⟨source.exact, [evidence.chunkId]⟩) sources entries := by
  induction entries generalizing k sources findings with
  | nil =>
      rw [List.zipIdx_nil, List.mapM_nil] at made
      cases made
      cases found
      exact ⟨rfl, rfl⟩
  | cons entry entries ih =>
      rw [List.zipIdx_cons, List.mapM_cons] at made
      obtain ⟨source, first, others⟩ := bind_eq_ok.1 made
      obtain ⟨rest, later, same⟩ := bind_eq_ok.1 others
      cases same
      rw [List.mapM_cons] at found
      obtain ⟨head, firstFound, othersFound⟩ := bind_eq_ok.1 found
      obtain ⟨tail, laterFound, same⟩ := bind_eq_ok.1 othersFound
      cases same
      rw [List.zipIdx_cons] at part
      have ⟨here, there⟩ := List.cons_subset.1 part
      have ⟨length, tails⟩ := ih (fun source mem => registered source (List.mem_cons_of_mem _ mem))
        there later laterFound
      have ⟨whole, named, _, _⟩ := contextSource_eq_ok first
      have ⟨chunkId, chunk, heads⟩ := sourceFinding_eq_ok whole firstFound
      rw [named, chunkOf_eq here] at chunk
      rw [List.length_cons, List.length_cons, length, List.zipWith_cons_cons, tails, heads,
        ← Except.ok.inj chunk, entry.stripped]
      exact ⟨rfl, rfl⟩

/-! ### The deterministic brief -/

theorem checkBrief_eq_ok {brief checked : CounselorContextBrief} :
    checkBrief brief = .ok checked ↔ checked = brief ∧
      brief.safetyConstraints.length ≤ 70 ∧ brief.customerReportedFacts.length ≤ 60 ∧
      brief.attemptedActionsAndOutcomes.length ≤ 20 ∧ brief.unresolvedQuestions.length ≤ 30 ∧
      brief.evidenceBasedFindings.length ≤ 10 ∧ brief.consultantPriorityChecks.length ≤ 30 ∧
      brief.uncertaintyNotes.length ≤ 80 := by
  rw [checkBrief]
  simp only [require_bind_eq_ok, decide_eq_true_iff]
  constructor
  · rintro ⟨h₁, h₂, h₃, h₄, h₅, h₆, h₇, same⟩
    exact ⟨(Except.ok.inj same).symm, h₁, h₂, h₃, h₄, h₅, h₆, h₇⟩
  · rintro ⟨rfl, h₁, h₂, h₃, h₄, h₅, h₆, h₇⟩
    exact ⟨h₁, h₂, h₃, h₄, h₅, h₆, h₇, rfl⟩

/-- The parts of the deterministic brief of a registry. -/
structure Deterministic (isDecimal : Char → Bool) (sources : List ContextSource)
    (chunkIds : List (String × Text)) (brief : CounselorContextBrief) : Prop where
  bounds : checkBrief brief = .ok brief
  safety : brief.safetyConstraints = (ofKinds [.safety] sources).map (·.exact)
  facts : brief.customerReportedFacts =
    (ofKinds [.customerReported, .questionnaire] sources).map (·.exact)
  attempted : brief.attemptedActionsAndOutcomes =
    (ofKinds [.attemptedAction] sources).map (·.exact)
  unresolved : brief.unresolvedQuestions = (ofKinds [.unresolved] sources).map (·.exact)
  priority : brief.consultantPriorityChecks = (ofKinds [.priority] sources).map (·.exact)
  findings : (sources.filter (·.kind == .evidence)).mapM (sourceFinding isDecimal chunkIds) =
    .ok brief.evidenceBasedFindings
  notes : ∃ outcomes conflicting lacking,
    (sources.filter lacksOutcome).mapM (outcomeNote isDecimal) = .ok outcomes ∧
    (conflicts (sources.filter isReported)).mapM (conflictNote isDecimal join) = .ok conflicting ∧
    escalationNote isDecimal sources = .ok lacking ∧
    brief.uncertaintyNotes = outcomes ++ conflicting ++ lacking

theorem uncertaintyNotes_eq_ok {joined : List Text → Text} {reported : List ContextSource}
    {notes : List SourcedBriefStatement} :
    uncertaintyNotes isDecimal joined sources reported = .ok notes ↔
      ∃ outcomes conflicting,
        (sources.filter lacksOutcome).mapM (outcomeNote isDecimal) = .ok outcomes ∧
        (conflicts reported).mapM (conflictNote isDecimal joined) = .ok conflicting ∧
        notes = outcomes ++ conflicting := by
  rw [uncertaintyNotes]
  constructor
  · intro h
    obtain ⟨outcomes, first, h⟩ := bind_eq_ok.1 h
    obtain ⟨conflicting, second, h⟩ := bind_eq_ok.1 h
    exact ⟨outcomes, conflicting, first, second, (Except.ok.inj h).symm⟩
  · rintro ⟨outcomes, conflicting, first, second, rfl⟩
    rw [bind_of_ok first, bind_of_ok second]
    rfl

theorem Registry.deterministic {input : SynthesisInput} {chunkIds : List (String × Text)}
    {brief : CounselorContextBrief} (h : Registry isDecimal masks input sources)
    (made : deterministicBrief isDecimal sources chunkIds = .ok brief) :
    Deterministic isDecimal sources chunkIds brief := by
  rw [deterministicBrief] at made
  obtain ⟨issue, _, made⟩ := bind_eq_ok.1 made
  obtain ⟨findings, found, made⟩ := bind_eq_ok.1 made
  obtain ⟨notes, noted, made⟩ := bind_eq_ok.1 made
  obtain ⟨lacking, lacked, made⟩ := bind_eq_ok.1 made
  rw [bind_of_ok (h.registered.exactStatements_eq _), bind_of_ok (h.registered.exactStatements_eq _),
    bind_of_ok (h.registered.exactStatements_eq _), bind_of_ok (h.registered.exactStatements_eq _),
    bind_of_ok (h.registered.exactStatements_eq _)] at made
  have ⟨same, _⟩ := checkBrief_eq_ok.1 made
  subst same
  rw [← h.reported] at noted
  obtain ⟨outcomes, conflicting, first, second, rfl⟩ := uncertaintyNotes_eq_ok.1 noted
  exact ⟨made, rfl, rfl, rfl, rfl, rfl, found, outcomes, conflicting, lacking, first, second,
    lacked, rfl⟩

/-! ### The brief of a candidate -/

/-- What the validator puts into a brief. -/
structure Built (isDecimal : Char → Bool) (sources : List ContextSource)
    (chunkIds : List (String × Text)) (brief : CounselorContextBrief) : Prop where
  safety : brief.safetyConstraints.Perm ((ofKinds [.safety] sources).map (·.exact))
  facts : brief.customerReportedFacts.Perm
    ((ofKinds [.customerReported, .questionnaire] sources).map (·.exact))
  attempted : brief.attemptedActionsAndOutcomes.Perm
    ((ofKinds [.attemptedAction] sources).map (·.exact))
  unresolved : brief.unresolvedQuestions.Perm ((ofKinds [.unresolved] sources).map (·.exact))
  priority : brief.consultantPriorityChecks.Perm ((ofKinds [.priority] sources).map (·.exact))
  issue : Composed sources brief.issueSummary
  shows : ∃ source ∈ sources, source.kind = .customerReported ∧ isProviderEligible source = true
  findings : (sources.filter (·.kind == .evidence)).mapM (sourceFinding isDecimal chunkIds) =
    .ok brief.evidenceBasedFindings
  notes : ∃ grouped outcomes conflicting lacking,
    (∀ note ∈ grouped, Composed sources note) ∧
    (sources.filter lacksOutcome).mapM (outcomeNote isDecimal) = .ok outcomes ∧
    (conflicts (sources.filter isReported)).mapM (conflictNote isDecimal joinSourceTexts) =
      .ok conflicting ∧
    escalationNote isDecimal sources = .ok lacking ∧
    brief.uncertaintyNotes =
      stableUniqueStatements (grouped ++ (outcomes ++ conflicting) ++ lacking)

/-- The issue is summed up from a reported source that the provider is shown. -/
theorem Registered.shows (h : Registered isDecimal sources) {ids : List String} {u : Unit}
    (checked : validateGroupIds (shown sources)
      [.customerReported, .questionnaire, .unresolved, .escalation] ids = .ok u)
    (made : materializeGroup isDecimal sources ids = .ok note) :
    ∃ source ∈ sources, source.kind = .customerReported ∧ isProviderEligible source = true := by
  rw [validateGroupIds, require_bind_eq_ok, require_bind_eq_ok] at checked
  obtain ⟨chosen, found, kinds⟩ := bind_eq_ok.1 checked.2.2
  have ⟨known, same⟩ := mapM_sourceOf found
  obtain ⟨_, _, stated⟩ := bind_eq_ok.1 made
  have ⟨_, few, _⟩ := statement_eq_ok.1 stated
  cases chosen with
  | nil =>
      rw [same] at few
      cases few
  | cons source chosen =>
      have ⟨mem, eligible⟩ := h.mem_shown.1 (known List.mem_cons_self)
      have kind := List.all_eq_true.1 (require_eq_ok.1 kinds) source List.mem_cons_self
      refine ⟨source, mem, ?_, eligible⟩
      rw [isProviderEligible] at eligible
      cases here : source.kind with
      | customerReported => rfl
      | safety =>
          rw [here] at kind
          cases kind
      | questionnaire | attemptedAction | evidence | unresolved | priority | escalation =>
          rw [here] at eligible
          cases eligible

theorem Registered.built (h : Registered isDecimal sources) {chunkIds : List (String × Text)}
    {candidate : SynthesisCandidate} {brief : CounselorContextBrief}
    (made : validateAndBuild isDecimal candidate sources chunkIds
      ((sources.filter isProviderEligible).map (·.sourceId)) = .ok brief) :
    Built isDecimal sources chunkIds brief := by
  rw [validateAndBuild, require_bind_eq_ok, require_bind_eq_ok] at made
  obtain ⟨_, checked, made⟩ := bind_eq_ok.1 made.2.2
  -- the checks of the candidate
  obtain ⟨_, factIds, checked⟩ := bind_eq_ok.1 checked
  obtain ⟨_, attemptedIds, checked⟩ := bind_eq_ok.1 checked
  obtain ⟨_, unresolvedIds, checked⟩ := bind_eq_ok.1 checked
  obtain ⟨_, safetyIds, checked⟩ := bind_eq_ok.1 checked
  obtain ⟨_, priorityIds, checked⟩ := bind_eq_ok.1 checked
  obtain ⟨_, issueIds, checked⟩ := bind_eq_ok.1 checked
  obtain ⟨_, _, checked⟩ := bind_eq_ok.1 checked
  obtain ⟨_, evidenceIds, _⟩ := bind_eq_ok.1 checked
  have noGroups := h.no_evidence_groups (requireSafeSubset_eq_ok.1 evidenceIds).2
  -- the parts of the brief
  obtain ⟨grouped, group, made⟩ := bind_eq_ok.1 made
  obtain ⟨notes, noted, made⟩ := bind_eq_ok.1 made
  obtain ⟨lacking, lacked, made⟩ := bind_eq_ok.1 made
  rw [noGroups] at made
  obtain ⟨selected, none, made⟩ := bind_eq_ok.1 made
  cases none
  obtain ⟨others, found, made⟩ := bind_eq_ok.1 made
  obtain ⟨safety, resolvedSafety, made⟩ := bind_eq_ok.1 made
  obtain ⟨issue, materialized, made⟩ := bind_eq_ok.1 made
  obtain ⟨facts, resolvedFacts, made⟩ := bind_eq_ok.1 made
  obtain ⟨attempted, resolvedAttempted, made⟩ := bind_eq_ok.1 made
  obtain ⟨unresolved, resolvedUnresolved, made⟩ := bind_eq_ok.1 made
  obtain ⟨priority, resolvedPriority, made⟩ := bind_eq_ok.1 made
  have ⟨same, _⟩ := checkBrief_eq_ok.1 made
  subst same
  obtain ⟨outcomes, conflicting, first, second, rfl⟩ := uncertaintyNotes_eq_ok.1 noted
  refine ⟨h.resolved safetyIds resolvedSafety, h.resolved factIds resolvedFacts,
    h.resolved attemptedIds resolvedAttempted, h.resolved unresolvedIds resolvedUnresolved,
    h.resolved priorityIds resolvedPriority, materializeGroup_composed materialized,
    h.shows issueIds materialized, ?_, grouped, outcomes, conflicting, lacking, ?_, first, second, lacked, rfl⟩
  · have all : (sources.filter fun source => source.kind == .evidence &&
        !(([] : List EvidenceBriefFinding).flatMap (·.sourceIds)).contains source.sourceId) =
        sources.filter (·.kind == .evidence) :=
      List.filter_congr fun source _ => Bool.and_true _
    rw [← all]
    exact found
  · intro note mem
    have ⟨_, _, materialized⟩ := forall₂_mem (mapM_eq_ok group) mem
    exact materializeGroup_composed materialized

/-- The note on a conflict, with its texts joined in a way. -/
def noteOf (joined : List Text → Text) (group : List ContextSource) : SourcedBriefStatement :=
  ⟨trim (("상충 정보: ".toList ++ joined (group.map (·.text))).take 2000), group.map (·.sourceId)⟩

/-- The notes agree where the conflicts fit. -/
theorem conflicting_eq {groups : List (List ContextSource)} {full shared : List SourcedBriefStatement}
    (fits : ∀ group ∈ groups, Fits (group.map (·.text)))
    (first : groups.mapM (conflictNote isDecimal join) = .ok full)
    (second : groups.mapM (conflictNote isDecimal joinSourceTexts) = .ok shared) :
    full = shared := by
  have fullNotes : full = groups.map (noteOf join) :=
    eq_map_of_mapM first fun group _ note made => statement_text made
  have sharedNotes : shared = groups.map (noteOf join) := by
    refine eq_map_of_mapM second fun group mem note made => ?_
    rw [statement_text made, conflict_text]
    exact congrArg (SourcedBriefStatement.mk · _) (fits group mem).symm
  rw [fullNotes, sharedNotes]

theorem Built.faithful {input : SynthesisInput} {prepared : PreparedContextSynthesis}
    {brief : CounselorContextBrief}
    (reg : Registry isDecimal masks input prepared.sourcesById)
    (det : Deterministic isDecimal prepared.sourcesById (evidenceChunkIds input)
      prepared.deterministicBrief)
    (h : Built isDecimal prepared.sourcesById (evidenceChunkIds input) brief)
    (fits : ∀ group ∈ conflicts (prepared.sourcesById.filter isReported),
      Fits (group.map (·.text))) : Faithful input prepared brief := by
  have evidence : ofKinds [.evidence] prepared.sourcesById =
      prepared.sourcesById.filter (·.kind == .evidence) :=
    List.filter_congr fun source _ => Bool.or_false _
  have whole : ∀ source ∈ prepared.sourcesById.filter (·.kind == .evidence),
      Whole isDecimal source :=
    fun source mem => reg.registered.whole source (List.mem_of_mem_filter mem)
  have ⟨length, findings⟩ := findings_eq whole (List.Subset.refl _) reg.evidence h.findings
  have exactComposed : ∀ kinds, ∀ note ∈ (ofKinds kinds prepared.sourcesById).map (·.exact),
      Composed prepared.sourcesById note := by
    intro kinds note stated
    obtain ⟨source, mem, rfl⟩ := List.mem_map.1 stated
    have there := List.mem_of_mem_filter mem
    exact (reg.registered.whole source there).composed there
  obtain ⟨grouped, outcomes, conflicting, lacking, composed, first, second, lacked, notes⟩ := h.notes
  obtain ⟨outcomes', conflicting', lacking', first', second', lacked', notes'⟩ := det.notes
  rw [first] at first'
  rw [lacked] at lacked'
  cases first'
  cases lacked'
  refine ⟨⟨det.safety ▸ h.safety, det.safety⟩, ⟨det.facts ▸ h.facts, det.facts⟩,
    ⟨det.attempted ▸ h.attempted, det.attempted⟩, ⟨det.unresolved ▸ h.unresolved, det.unresolved⟩,
    ⟨det.priority ▸ h.priority, det.priority⟩, ?_, ?_, ?_, ?_⟩
  · rw [evidence, length]
  · rw [evidence, findings]
  · intro note mem
    rw [notes, mem_stableUniqueStatements]
    rw [notes', conflicting_eq fits second' second] at mem
    rw [List.append_assoc]
    exact List.mem_append_right _ mem
  · intro note mem
    simp only [CounselorContextBrief.statements, List.mem_cons, List.mem_append] at mem
    rcases mem with rfl | (((((mem | mem) | mem) | mem) | mem) | mem) | mem
    · exact h.issue
    · exact exactComposed _ note (h.safety.mem_iff.1 mem)
    · exact exactComposed _ note (h.facts.mem_iff.1 mem)
    · exact exactComposed _ note (h.attempted.mem_iff.1 mem)
    · exact exactComposed _ note (h.unresolved.mem_iff.1 mem)
    · obtain ⟨found, there, rfl⟩ := List.mem_map.1 mem
      have ⟨source, selected, made⟩ := forall₂_mem (mapM_eq_ok h.findings) there
      have ⟨_, _, same⟩ := sourceFinding_eq_ok (whole source selected) made
      rw [same]
      exact (whole source selected).composed (List.mem_of_mem_filter selected)
    · exact exactComposed _ note (h.priority.mem_iff.1 mem)
    · rw [notes, mem_stableUniqueStatements, List.mem_append, List.mem_append,
        List.mem_append] at mem
      rcases mem with (mem | mem | mem) | mem
      · exact composed note mem
      · have ⟨source, selected, made⟩ := forall₂_mem (mapM_eq_ok first) mem
        have there := List.mem_of_mem_filter selected
        exact outcomeNote_composed made there (reg.registered.whole source there)
      · have ⟨group, conflict, made⟩ := forall₂_mem (mapM_eq_ok second) mem
        exact conflictNote_composed made fun source there =>
          List.mem_of_mem_filter (mem_conflicts conflict there)
      · exact .noEvidence (escalationNote_eq_ok lacked note mem).1

/-! ### The other way round -/

/-- A selection of one source that the provider is shown. -/
def oneSource (source : ContextSource) : SynthesisCandidate :=
  ⟨[source.sourceId], [], [], [], [], [], [], []⟩

theorem conflictNote_eq {joined : List Text → Text} {group : List ContextSource}
    (h : conflictNote isDecimal join group = .ok note) :
    conflictNote isDecimal joined group = .ok (noteOf joined group) := by
  have ⟨_, few, named, nodup, _⟩ := statement_eq_ok.1 h
  refine statement_eq_ok.2 ⟨isFilled_iff.2 ⟨?_, ?_⟩, few, named, nodup, rfl⟩
  · exact trim_ne_nil (c := '상') (by decide)
  · exact (length_trim _).trans (List.length_take_le _ _)

theorem joinSourceTexts_singleton {text : Text} (short : text.length ≤ 2000) :
    joinSourceTexts [text] = text := by
  have all : max 1 ((2000 - 3 * ([text].length - 1)) / max 1 [text].length) = 2000 := by
    rw [List.length_singleton]
    decide
  simp only [joinSourceTexts, all]
  rw [List.map_singleton, join_singleton, List.take_of_length_le short,
    List.take_of_length_le short]

namespace Registered

theorem resolved_nil (h : Registered isDecimal sources) (kinds : List ContextSourceKind) :
    resolveExact isDecimal sources (mergeWithInternalIds [] kinds sources) =
      .ok ((ofKinds kinds sources).map (·.exact)) := by
  have all : mergeWithInternalIds [] kinds sources = (ofKinds kinds sources).map (·.sourceId) := by
    rw [mergeWithInternalIds, List.nil_append, ofKinds]
    refine congrArg _ (List.filter_congr fun source _ => ?_)
    rw [List.contains_nil, Bool.not_false, Bool.and_true]
  rw [all]
  exact h.resolveExact_eq fun source mem => List.mem_of_mem_filter mem

theorem materialized (h : Registered isDecimal sources) (mem : source ∈ sources) :
    materializeGroup isDecimal sources [source.sourceId] = .ok source.exact := by
  have whole := h.whole source mem
  have chosen : [source.sourceId].mapM (sourceOf sources) = .ok [source] := by
    rw [List.mapM_cons, h.sourceOf_eq mem, List.mapM_nil]
    rfl
  rw [materializeGroup, bind_of_ok chosen, List.map_singleton, joinSourceTexts_singleton whole.short]
  exact whole.exactStatement_eq

theorem checked (h : Registered isDecimal sources) (mem : source ∈ sources)
    (reported : source.kind = .customerReported) (eligible : isProviderEligible source = true) :
    checkCandidate (oneSource source) (shown sources) = .ok () := by
  have none : ∀ name expected, requireSafeSubset name [] expected = .ok () :=
    fun name expected => requireSafeSubset_eq_ok.2 ⟨List.nodup_nil, List.nil_subset _⟩
  have there : source ∈ shown sources := h.mem_shown.2 ⟨mem, eligible⟩
  have issue : validateGroupIds (shown sources)
      [.customerReported, .questionnaire, .unresolved, .escalation] [source.sourceId] = .ok () := by
    have found : [source.sourceId].mapM (sourceOf (shown sources)) = .ok [source] := by
      have known : shown sources ⊆ sources := fun other mem => List.mem_of_mem_filter mem
      rw [List.mapM_cons, h.sourceOf_among known there, List.mapM_nil]
      rfl
    rw [validateGroupIds, require_bind_eq_ok, require_bind_eq_ok, bind_of_ok found, require_eq_ok]
    refine ⟨decide_eq_true (List.nodup_singleton _), ?_, ?_⟩
    · rw [List.all_cons, List.all_nil, Bool.and_true]
      exact List.any_eq_true.2 ⟨source, there, beq_self_eq_true _⟩
    · rw [List.all_cons, List.all_nil, Bool.and_true, reported]
      rfl
  rw [checkCandidate, oneSource, bind_of_ok (none _ _), bind_of_ok (none _ _),
    bind_of_ok (none _ _), bind_of_ok (none _ _), bind_of_ok (none _ _), bind_of_ok issue]
  exact bind_of_ok (none "evidence_finding_source_groups"
    (categoryIds (shown sources) [.evidence]))

end Registered

/-- With a source to show, there is a brief that loses the note on a conflict that does not fit. -/
theorem Registry.loses {input : SynthesisInput} {chunkIds : List (String × Text)}
    {deterministic : CounselorContextBrief} (reg : Registry isDecimal masks input sources)
    (det : Deterministic isDecimal sources chunkIds deterministic) (mem : source ∈ sources)
    (reported : source.kind = .customerReported) (eligible : isProviderEligible source = true)
    {group : List ContextSource} (conflict : group ∈ conflicts (sources.filter isReported))
    (unfit : ¬Fits (group.map (·.text))) :
    ∃ brief, validateAndBuild isDecimal (oneSource source) sources chunkIds
        ((sources.filter isProviderEligible).map (·.sourceId)) = .ok brief ∧
      ¬deterministic.uncertaintyNotes ⊆ brief.uncertaintyNotes := by
  have h := reg.registered
  obtain ⟨outcomes, conflicting, lacking, first, second, lacked, notes⟩ := det.notes
  have full : conflicting = (conflicts (sources.filter isReported)).map (noteOf join) :=
    eq_map_of_mapM second fun group _ note made => statement_text made
  have shared : (conflicts (sources.filter isReported)).mapM
      (conflictNote isDecimal joinSourceTexts) =
      .ok ((conflicts (sources.filter isReported)).map (noteOf joinSourceTexts)) := by
    refine mapM_of_ok fun group mem => ?_
    have ⟨note, _, made⟩ := forall₂_mem (mapM_eq_ok second).flip mem
    exact conflictNote_eq made
  have all : (sources.filter fun source => source.kind == .evidence &&
      !(([] : List EvidenceBriefFinding).flatMap (·.sourceIds)).contains source.sourceId) =
      sources.filter (·.kind == .evidence) :=
    List.filter_congr fun source _ => Bool.and_true _
  have noted : uncertaintyNotes isDecimal joinSourceTexts sources (sources.filter isReported) =
      .ok (outcomes ++ (conflicts (sources.filter isReported)).map (noteOf joinSourceTexts)) :=
    uncertaintyNotes_eq_ok.2 ⟨_, _, first, shared, rfl⟩
  have ⟨_, h₁, h₂, h₃, h₄, h₅, h₆, h₇⟩ := checkBrief_eq_ok.1 det.bounds
  refine ⟨⟨deterministic.safetyConstraints, source.exact, deterministic.customerReportedFacts,
    deterministic.attemptedActionsAndOutcomes, deterministic.unresolvedQuestions,
    deterministic.evidenceBasedFindings, deterministic.consultantPriorityChecks,
    stableUniqueStatements ([] ++ (outcomes ++
      (conflicts (sources.filter isReported)).map (noteOf joinSourceTexts)) ++ lacking)⟩, ?_, ?_⟩
  · rw [validateAndBuild, require_bind_eq_ok, require_bind_eq_ok]
    refine ⟨?_, ?_, ?_⟩
    · cases sources with
      | nil => cases mem
      | cons _ _ => rfl
    · refine List.all_eq_true.2 fun id given => ?_
      obtain ⟨other, selected, rfl⟩ := List.mem_map.1 given
      exact List.any_eq_true.2 ⟨other, List.mem_of_mem_filter selected, beq_self_eq_true _⟩
    · refine (bind_of_ok (h.checked mem reported eligible)).trans ?_
      refine (bind_of_ok (a := []) rfl).trans ?_
      rw [bind_of_ok noted, bind_of_ok lacked]
      refine (bind_of_ok (a := []) rfl).trans ?_
      refine (bind_of_ok (all ▸ det.findings)).trans ?_
      refine (bind_of_ok (h.resolved_nil _)).trans ?_
      refine (bind_of_ok (h.materialized mem)).trans ?_
      refine (bind_of_ok (h.resolved_nil _)).trans ?_
      refine (bind_of_ok (h.resolved_nil _)).trans ?_
      refine (bind_of_ok (h.resolved_nil _)).trans ?_
      refine (bind_of_ok (h.resolved_nil _)).trans ?_
      rw [← det.safety, ← det.facts, ← det.attempted, ← det.unresolved, ← det.priority]
      refine checkBrief_eq_ok.2 ⟨rfl, h₁, h₂, h₃, h₄, h₅, h₆, ?_⟩
      refine (length_stableUniqueStatements _).trans ?_
      rw [notes, full] at h₇
      simpa using h₇
  · intro kept
    have there : noteOf join group ∈ deterministic.uncertaintyNotes := by
      rw [notes, full]
      exact List.mem_append_left _ (List.mem_append_right _ (List.mem_map_of_mem conflict))
    have reportedGroup := mem_conflicts conflict
    have isSingle : ∀ other ∈ sources, isReported other = false →
        (noteOf join group).sourceIds ≠ [other.sourceId] := by
      intro other mem unreported same
      obtain ⟨member, single, named⟩ := List.map_eq_singleton_iff.1 same
      have known := reportedGroup (single ▸ List.mem_singleton_self member)
      have ⟨declared, isMember⟩ := List.mem_filter.1 known
      rw [h.eq_of_id declared mem named, unreported] at isMember
      cases isMember
    have lost := mem_stableUniqueStatements.1 (kept there)
    rw [List.nil_append, List.mem_append, List.mem_append] at lost
    rcases lost with (outcome | conflicted) | lack
    · have ⟨other, selected, made⟩ := forall₂_mem (mapM_eq_ok first) outcome
      have ⟨declared, lacksIt⟩ := List.mem_filter.1 selected
      refine isSingle other declared ?_ (congrArg (·.sourceIds) (statement_text made))
      have kind : other.kind = .attemptedAction := by
        rw [lacksOutcome, Bool.and_eq_true] at lacksIt
        exact eq_of_beq lacksIt.1
      rw [isReported, kind]
      rfl
    · obtain ⟨other, conflict', same⟩ := List.mem_map.1 conflicted
      have sameIds : other.map (·.sourceId) = group.map (·.sourceId) := congrArg (·.sourceIds) same
      have sameGroup : other = group :=
        h.eq_of_ids (fun _ mem => List.mem_of_mem_filter (mem_conflicts conflict' mem))
          (fun _ mem => List.mem_of_mem_filter (reportedGroup mem)) sameIds
      have texts := congrArg (·.text) same
      rw [sameGroup] at texts
      have texts : trim (("상충 정보: ".toList ++ joinSourceTexts (group.map (·.text))).take 2000) =
          trim (("상충 정보: ".toList ++ join (group.map (·.text))).take 2000) := texts
      rw [conflict_text] at texts
      exact unfit texts.symm
    · have ⟨_, other, declared, kind, ids⟩ := escalationNote_eq_ok lacked _ lack
      refine isSingle other declared ?_ ids
      rw [isReported, kind]
      rfl

/-- The validator keeps everything of the deterministic brief for every candidate exactly if
nothing the customer reported is shown to the provider, or cutting the texts of a conflict to
their share never shows. -/
theorem brief_faithful (isDecimal : Char → Bool) (masks : Masks) (input : SynthesisInput)
    (prepared : PreparedContextSynthesis) (made : prepare isDecimal masks input = .ok prepared) :
    (∀ candidate brief, validateAndBuild isDecimal candidate prepared.sourcesById
        prepared.evidenceChunkIdsBySourceId prepared.providerSourceIds = .ok brief →
      Faithful input prepared brief) ↔
    (∀ source ∈ prepared.sourcesById, source.kind = .customerReported →
      ¬isProviderEligible source = true) ∨
    ∀ group ∈ conflicts (prepared.sourcesById.filter isReported), Fits (group.map (·.text)) := by
  obtain ⟨sources, registered, made⟩ := bind_eq_ok.1 made
  obtain ⟨deterministic, stated, made⟩ := bind_eq_ok.1 made
  obtain ⟨request, _, made⟩ := bind_eq_ok.1 made
  cases made
  have reg := registry_spec registered
  have det := reg.deterministic stated
  constructor
  · intro faithful
    by_contra broken
    rw [not_or] at broken
    obtain ⟨hasShown, unfit⟩ := broken
    simp only [not_forall, not_not] at hasShown unfit
    obtain ⟨source, mem, reported, eligible⟩ := hasShown
    obtain ⟨group, conflict, unfit⟩ := unfit
    have ⟨brief, built, lost⟩ := reg.loses det mem reported eligible conflict unfit
    exact lost (faithful _ brief built).notes
  · rintro (noneShown | fits) candidate brief built
    · have ⟨source, mem, reported, eligible⟩ := (reg.registered.built built).shows
      exact absurd eligible (noneShown source mem reported)
    · exact (reg.registered.built built).faithful reg det fits

/-- Rules that find nothing to mask, as in the texts of the sample. -/
def plainMasks : Masks := ⟨fun _ => false, fun _ _ text => text⟩

/-- A customer who reports symptoms, and answers nothing yet. -/
def sampleInput (symptoms : List String) : SynthesisInput where
  modelCode := "WP-100".toList
  runtimeProductApproved := true
  productFamily := "DIRECT_WATER_PURIFIER".toList
  symptomFacts := symptoms.map fun text => ⟨"accompanying_symptom".toList, text.toList⟩
  questionnaireAnswers := []
  attemptedActions := ["전원을 껐다 켰습니다.".toList]
  evidence := [⟨"chunk-1".toList, "필터를 점검하세요.".toList, by decide +kernel⟩]
  safetyLevel := "general"
  safetyRequiresConsultation := true
  matchedSafetyRuleIds := []
  safetyNotes := []
  safetyConstraints := []
  escalationReason := "상담사 확인 필요".toList
  unresolvedQuestions := []
  consultantPriorityChecks := []

/-- A candidate that shows the first symptom alone. -/
def leakCandidate : SynthesisCandidate := ⟨["symptom-001"], [], [], [], [], [], [], []⟩

/-- Two symptoms that contradict each other are noted in full. -/
theorem brief_faithful_leak : ∃ prepared brief,
    prepare Char.isDigit plainMasks (sampleInput ["제품 누수", "소음 이상"]) = .ok prepared ∧
    (conflicts (prepared.sourcesById.filter isReported)).length = 1 ∧
    validateAndBuild Char.isDigit leakCandidate prepared.sourcesById
      prepared.evidenceChunkIdsBySourceId prepared.providerSourceIds = .ok brief ∧
    Faithful (sampleInput ["제품 누수", "소음 이상"]) prepared brief := by
  have checked : (do
      let prepared ← prepare Char.isDigit plainMasks (sampleInput ["제품 누수", "소음 이상"])
      let brief ← validateAndBuild Char.isDigit leakCandidate prepared.sourcesById
        prepared.evidenceChunkIdsBySourceId prepared.providerSourceIds
      let groups := conflicts (prepared.sourcesById.filter isReported)
      return (groups.length, decide (∀ group ∈ groups, Fits (group.map ContextSource.text)))) =
      .ok (1, true) := by decide +kernel
  obtain ⟨prepared, made, checked⟩ := bind_eq_ok.1 checked
  obtain ⟨brief, built, checked⟩ := bind_eq_ok.1 checked
  have ⟨one, fits⟩ := Prod.mk.inj (Except.ok.inj checked)
  have faithful := (brief_faithful Char.isDigit plainMasks _ prepared made).2
    (.inr (of_decide_eq_true fits))
  exact ⟨prepared, brief, made, one, built, faithful leakCandidate brief built⟩

/-- A long symptom among twenty. -/
def longSymptoms : List String :=
  ["제품 누수", "물이 졸졸 나오다가 한참 뒤에 멈추고 다시 나오기를 되풀이하며 소리가 함께 크게 나는 일이 " ++
    "하루에 여러 번 반복되어 물을 받기가 어렵고 컵이 금방 넘칩니다", "가", "나", "다", "라", "마", "바",
    "사", "아", "자", "차", "카", "타", "파", "하", "거", "너", "더", "러"]

theorem note_lost : ∃ prepared brief,
    prepare Char.isDigit plainMasks (sampleInput longSymptoms) = .ok prepared ∧
    validateAndBuild Char.isDigit leakCandidate prepared.sourcesById
      prepared.evidenceChunkIdsBySourceId prepared.providerSourceIds = .ok brief ∧
    ¬Faithful (sampleInput longSymptoms) prepared brief := by
  have checked : (do
      let prepared ← prepare Char.isDigit plainMasks (sampleInput longSymptoms)
      let brief ← validateAndBuild Char.isDigit leakCandidate prepared.sourcesById
        prepared.evidenceChunkIdsBySourceId prepared.providerSourceIds
      return prepared.deterministicBrief.uncertaintyNotes.all brief.uncertaintyNotes.contains) =
      .ok false := by decide +kernel
  obtain ⟨prepared, made, checked⟩ := bind_eq_ok.1 checked
  obtain ⟨brief, built, checked⟩ := bind_eq_ok.1 checked
  refine ⟨prepared, brief, made, built, fun faithful => ?_⟩
  have kept : prepared.deterministicBrief.uncertaintyNotes.all brief.uncertaintyNotes.contains =
      true := List.all_eq_true.2 fun note mem => List.contains_iff_mem.2 (faithful.notes mem)
  have lost := Except.ok.inj checked
  rw [kept] at lost
  cases lost

end WaterCare.Ai.ConsultationContext
