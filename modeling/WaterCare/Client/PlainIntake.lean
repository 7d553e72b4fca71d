import WaterCare.Client.IntakeRepository

/-!
Plain requests: their fingerprint determines them, so a run in which every request is plain meets
the condition that `IntakeRepository` puts on its starts.
-/

namespace WaterCare.Client
open Kotlin Machine

namespace SymptomIntakeRequest

/-! ### Requests with one fingerprint -/

section
variable {r r' : SymptomIntakeRequest}

theorem filled_option (label : String) (text : Option String) :
    ((text.map trim).filter (· ≠ "")).toList.map (label ++ ·) =
      IntakeContent.backendRawText.filled label (trim (text.getD "")) := by
  cases text with
  | none => rfl
  | some t =>
      unfold IntakeContent.backendRawText.filled
      by_cases empty : trim t = "" <;> simp [empty]

/-- The text of the body depends on the content alone. -/
theorem toBackendRawText_eq : r.toBackendRawText = r.content.backendRawText := by
  have raw : [trim r.rawText].filter (· ≠ "") =
      IntakeContent.backendRawText.filled "" (trim r.rawText) := by
    unfold IntakeContent.backendRawText.filled
    by_cases empty : trim r.rawText = "" <;> simp [empty]
  unfold toBackendRawText IntakeContent.backendRawText
  rw [raw, filled_option, filled_option]
  rfl

/-- Requests with one content have one body when their first symptoms agree. -/
theorem createBody_eq (content : r.content = r'.content)
    (first : r.symptomCodes.head? = r'.symptomCodes.head?) : r.createBody = r'.createBody := by
  have subscription : r.subscriptionId = r'.subscriptionId :=
    congrArg IntakeContent.subscriptionId content
  unfold createBody
  rw [toBackendRawText_eq, toBackendRawText_eq, content, subscription, first]

/-- No text holds a separator, and the symptom codes are named and in order. -/
structure IsPlain (r : SymptomIntakeRequest) : Prop where
  texts : ∀ text ∈ [r.subscriptionId, trim r.rawText, trim (r.occurrenceCondition.getD ""),
    trim (r.displayText.getD ""), r.entryMode], separator ∉ text.toList
  codes : ∀ code ∈ r.symptomCodes, separator ∉ code.toList ∧ ',' ∉ code.toList ∧ code ≠ ""
  ordered : r.symptomCodes.Pairwise fun s t => stringLe s t = true

theorem IsPlain.code (plain : r.IsPlain) {code : String} (mem : code ∈ r.content.symptomCodes) :
    separator ∉ code.toList ∧ ',' ∉ code.toList ∧ code ≠ "" :=
  plain.codes code ((sorted_perm r.symptomCodes).mem_iff.1 mem)

theorem IsPlain.parts (plain : r.IsPlain) : ∀ part ∈ r.content.parts, separator ∉ part.toList := by
  intro part mem inside
  have texts := plain.texts part
  by_cases joined : part = joinToString "," r.content.symptomCodes
  · rw [joined] at inside
    rcases mem_joinToString inside with comma | ⟨code, there, inside⟩
    · exact absurd comma (by decide)
    · exact (plain.code there).1 inside
  · refine texts ?_ inside
    simp only [IntakeContent.parts, List.mem_cons, List.not_mem_nil, or_false] at mem
    simp only [List.mem_cons, List.not_mem_nil, or_false]
    exact mem.imp_right fun rest => rest.resolve_left joined

/-- Joined symptom codes determine the codes. -/
theorem IsPlain.codes_inj (plain : r.IsPlain) (plain' : r'.IsPlain)
    (same : joinToString "," r.content.symptomCodes = joinToString "," r'.content.symptomCodes) :
    r.content.symptomCodes = r'.content.symptomCodes := by
  have filled {q : SymptomIntakeRequest} (plain : q.IsPlain) (some : q.content.symptomCodes ≠ []) :
      joinToString "," q.content.symptomCodes ≠ "" :=
    joinToString_ne_empty some fun code mem => (plain.code mem).2.2
  by_cases none : r.content.symptomCodes = []
  · rw [none] at same
    rw [none]
    by_contra some'
    exact filled plain' (Ne.symm some') same.symm
  · have some' : r'.content.symptomCodes ≠ [] := by
      intro none'
      rw [none'] at same
      exact filled plain none same
    exact joinToString_inj (c := ',') same (fun code mem => (plain.code mem).2.1)
      (fun code mem => (plain'.code mem).2.1) none some'

/-- Among such requests, as the intake screen makes them unless a separator is typed, the
fingerprint determines the content and the body. -/
theorem eq_of_fingerprint (plain : r.IsPlain) (plain' : r'.IsPlain)
    (same : r.fingerprint = r'.fingerprint) :
    r.content = r'.content ∧ r.createBody = r'.createBody := by
  have parts : r.content.parts = r'.content.parts :=
    joinToString_inj same plain.parts plain'.parts (List.cons_ne_nil _ _) (List.cons_ne_nil _ _)
  simp only [IntakeContent.parts, List.cons.injEq, and_true] at parts
  obtain ⟨subscription, joined, raw, occurrence, display, entry⟩ := parts
  have codes := plain.codes_inj plain' joined
  have content : r.content = r'.content := by
    cases h : r.content
    cases h' : r'.content
    rw [h, h'] at subscription codes raw occurrence display entry
    simp only at subscription codes raw occurrence display entry
    rw [subscription, codes, raw, occurrence, display, entry]
  refine ⟨content, createBody_eq content ?_⟩
  have listed : r.symptomCodes = r'.symptomCodes := by
    have sorted' := codes
    change sorted r.symptomCodes = sorted r'.symptomCodes at sorted'
    rwa [sorted_of_sorted plain.ordered, sorted_of_sorted plain'.ordered] at sorted'
  rw [listed]

end

end SymptomIntakeRequest

namespace IntakeRepository

/-! ### The requests that opened the operations -/

/-- The content and the body of the request that opened each operation. -/
def State.opened (s : State) : List (IntakeContent × CreateInquiryRequest) :=
  s.operations.map fun op => (op.content, op.body)

section
variable {uppercase : String → String} {s t : State} {o i m : Nat}
  {op op' : PendingIntakeOperation} {c : Call} {r : SymptomIntakeRequest}

theorem opened_setOperation (found : s.operations[o]? = some op) (content : op'.content = op.content)
    (body : op'.body = op.body) : (s.setOperation o op').opened = s.opened := by
  unfold State.opened State.setOperation
  rw [List.map_set, content, body]
  refine List.ext_getElem? fun k => ?_
  by_cases own : o = k
  · subst own
    rw [List.getElem?_set_self', List.getElem?_map, found]
    rfl
  · rw [List.getElem?_set_ne own]

theorem opened_refuse (o : Nat) : (s.refuse o).opened = s.opened := by
  unfold State.refuse
  split
  · rfl
  · next op found => exact opened_setOperation found rfl rfl

theorem opened_remove (fingerprint : String) (o : Nat) :
    (s.remove fingerprint o).opened = s.opened := by
  unfold State.remove
  split
  · rfl
  · rfl

theorem opened_patch (fingerprint : String) (o : Nat) (inquiry : InquiryResponse)
    (conflict : StateConflictSnapshot) (version : Int) :
    (s.patch fingerprint o inquiry conflict version).opened = s.opened := by
  unfold State.patch
  split
  · rfl
  · next op found =>
      split
      · exact opened_setOperation found rfl rfl
      · rfl

theorem opened_refuseSubmit {message : SubmitMessage} {f : Failure} :
    (s.refuseSubmit uppercase m message f).opened = s.opened := by
  unfold State.refuseSubmit
  dsimp only
  split
  · exact opened_refuse message.operation
  · exact opened_refuse message.operation

theorem opened_serveCreate {message : CreateMessage} {decision : Except Failure InquiryResponse}
    (served : s.serveCreate m message decision = some t) : t.opened = s.opened := by
  unfold State.serveCreate at served
  split at served
  · split at served
    · cases served
      rfl
    · split at served
      · cases served
      · cases served
        exact opened_refuse message.operation
  · split at served
    · cases served
    · have ⟨content, _, same⟩ := Option.map_eq_some_iff.1 served
      rw [← same]
      rfl
  · cases served
    exact opened_refuse message.operation

theorem opened_serveSubmit {message : SubmitMessage}
    {decision : Except Failure SubmitSymptomResponse}
    (served : s.serveSubmit uppercase m message decision = some t) : t.opened = s.opened := by
  unfold State.serveSubmit at served
  split at served
  · split at served
    · cases served
      rfl
    · split at served
      · cases served
      · cases served
        exact opened_refuseSubmit
  · split at served
    · have ⟨content, _, same⟩ := Option.map_eq_some_iff.1 served
      rw [← same]
      rfl
    · cases served
  · cases served
    exact opened_refuseSubmit

theorem opened_onCreate {answer : Except Failure InquiryResponse}
    (received : s.onCreate i c answer = some t) : t.opened = s.opened := by
  cases answer with
  | error f =>
      cases received
      rfl
  | ok inquiry =>
      have ⟨op, found, same⟩ := Option.map_eq_some_iff.1 received
      rw [← same]
      show (s.setOperation c.operation { op with createdInquiry := some inquiry }).opened = _
      exact opened_setOperation found rfl rfl

theorem opened_onSubmit {inquiry : InquiryResponse}
    {answer : Except Failure SubmitSymptomResponse} :
    (s.onSubmit uppercase i c inquiry answer).opened = s.opened := by
  cases answer with
  | ok response => exact opened_remove c.request.fingerprint c.operation
  | error f =>
      unfold State.onSubmit
      dsimp only
      split
      · exact opened_patch _ _ _ _ _
      · split
        · exact opened_remove c.request.fingerprint c.operation
        · rfl

/-- A start opens an operation for its request, or none. -/
theorem opened_start (started : s.start r = some t) :
    t.opened = s.opened ∨ t.opened = s.opened ++ [(r.content, r.createBody)] := by
  unfold State.start State.getOrPut at started
  have ⟨op, _, same⟩ := Option.map_eq_some_iff.1 started
  rw [← same]
  cases s.pending r.fingerprint with
  | some o =>
      refine .inl ?_
      dsimp only
      split
      · rfl
      · rfl
  | none =>
      refine .inr ?_
      dsimp only
      split
      · exact List.map_append
      · exact List.map_append

/-- Only a start opens operations. -/
theorem opened_step {a : Action} (step : Step uppercase s a t) :
    t.opened = s.opened ∨ ∃ r, a = .start r ∧ t.opened = s.opened ++ [(r.content, r.createBody)] := by
  have performed : s.perform uppercase a = some t := step
  cases a with
  | start r => exact (opened_start performed).imp_right fun opened => ⟨r, rfl, opened⟩
  | serveCreate m decision =>
      have ⟨message, _, served⟩ := Option.bind_eq_some_iff.1 performed
      split at served
      · cases served
      · exact .inl (opened_serveCreate served)
  | serveSubmit m decision =>
      have ⟨message, _, served⟩ := Option.bind_eq_some_iff.1 performed
      split at served
      · cases served
      · exact .inl (opened_serveSubmit served)
  | receive i =>
      have ⟨c, _, received⟩ := Option.bind_eq_some_iff.1 performed
      split at received
      · have ⟨answer, _, created⟩ := Option.bind_eq_some_iff.1 received
        exact .inl (opened_onCreate created)
      · have ⟨answer, _, same⟩ := Option.map_eq_some_iff.1 received
        rw [← same]
        exact .inl opened_onSubmit
      · cases received
      · cases received
  | lose i f =>
      simp only [State.perform] at performed
      split at performed
      · have ⟨c, _, lost⟩ := Option.bind_eq_some_iff.1 performed
        split at lost
        · exact .inl (opened_onCreate lost)
        · cases lost
          exact .inl opened_onSubmit
        · cases lost
        · cases lost
      · cases performed
  | cancel i =>
      have ⟨c, _, cancelled⟩ := Option.bind_eq_some_iff.1 performed
      split at cancelled
      · cases cancelled
        exact .inl rfl
      · cases cancelled
        exact .inl rfl
      · cases cancelled
      · cases cancelled

/-! ### Runs of plain requests -/

/-- Every request that starts is plain, and the Backend submits nothing for an inquiry that it
called gone. -/
def Plain (s : State) : Action → Prop
  | .start r => r.IsPlain
  | a => Orderly s a

/-- Every operation was opened by a plain request. -/
def PlainOpened (s : State) : Prop :=
  ∀ pair ∈ s.opened, ∃ r : SymptomIntakeRequest, r.IsPlain ∧ pair = (r.content, r.createBody)

theorem PlainOpened.step {a : Action} (opened : PlainOpened s) (plain : Plain s a)
    (step : Step uppercase s a t) : PlainOpened t := by
  intro pair member
  rcases opened_step step with same | ⟨r, start, more⟩
  · rw [same] at member
    exact opened pair member
  · rw [more] at member
    cases List.mem_append.1 member with
    | inl old => exact opened pair old
    | inr new =>
        rw [start] at plain
        exact ⟨r, plain, List.mem_singleton.1 new⟩

/-- A plain request that finds an operation is the one that opened it. -/
theorem PlainOpened.orderly {a : Action} (opened : PlainOpened s) (h : Invariant uppercase s)
    (plain : Plain s a) : Orderly s a := by
  cases a with
  | start r =>
      intro o op pending found
      have ⟨op', found', fingerprint⟩ := h.pending r.fingerprint o pending
      cases found.symm.trans found'
      have member : (op.content, op.body) ∈ s.opened :=
        List.mem_map.2 ⟨op, List.mem_of_getElem? found, rfl⟩
      have ⟨r', plain', same⟩ := opened _ member
      have ⟨content, body⟩ := Prod.mk.inj same
      rw [content] at fingerprint
      have ⟨content', body'⟩ := SymptomIntakeRequest.eq_of_fingerprint plain' plain fingerprint
      exact ⟨content.trans content', fun _ => body.trans body'⟩
  | serveCreate _ _ | serveSubmit _ _ | receive _ | lose _ _ | cancel _ => exact plain

/-- Every run of plain requests is orderly. -/
theorem orderly_of_plain {actions : List Action}
    (run : Run (Restrict Plain (Step uppercase)) initial actions s) :
    Run (Restrict Orderly (Step uppercase)) initial actions s := by
  suffices kept : Run (Restrict Orderly (Step uppercase)) initial actions s ∧
      Invariant uppercase s ∧ PlainOpened s from kept.1
  induction run with
  | refl => exact ⟨.refl, invariant_initial, fun _ member => absurd member List.not_mem_nil⟩
  | snoc _ last ih =>
      have ⟨run, h, opened⟩ := ih
      have orderly := opened.orderly h last.1
      exact ⟨.snoc run ⟨orderly, last.2⟩, h.step orderly last.2, opened.step last.1 last.2⟩

end

end IntakeRepository
end WaterCare.Client
