import WaterCare.Client.SaveConsultation

/-!
The idempotency keys of the actions of a consultant. Requests with one key are one request, in
every run; which key a retry carries is decided by how the request before it ended.
-/

namespace WaterCare.Client.SaveConsultation
open Machine

/-! ### What the signature stands for -/

/-- The payload that is signed determines the request that is sent. -/
theorem content_eq_of_payload {o o' : Operation} (h : o.payload = o'.payload) :
    o.content = o'.content := by
  have inquiryId : o.inquiryId = o'.inquiryId := congrArg RequestPayload.inquiryId h
  have code : o.action.code = o'.action.code := congrArg RequestPayload.actionCode h
  have version : o.stateVersion = o'.stateVersion := congrArg RequestPayload.stateVersion h
  have note : trim o.values.consultationNote = trim o'.values.consultationNote :=
    congrArg RequestPayload.consultationNote h
  have check : trim o.values.additionalCheck = trim o'.values.additionalCheck :=
    congrArg RequestPayload.additionalCheck h
  have guidance : trim o.values.customerGuidance = trim o'.values.customerGuidance :=
    congrArg RequestPayload.customerGuidance h
  have summary : trim o.values.summaryRevision = trim o'.values.summaryRevision :=
    congrArg RequestPayload.summaryRevision h
  have visit : o.values.visitRequired = o'.values.visitRequired :=
    congrArg RequestPayload.visitRequired h
  have usage : o.values.usageStatus = o'.values.usageStatus :=
    congrArg RequestPayload.usageGuidanceStatus h
  have result : resultCode o.values = resultCode o'.values := by
    simp only [resultCode, visit]
  simp only [Operation.content, inquiryId, code, version, note, check, guidance, summary, usage,
    result]

/-! ### What the end of a request leaves -/

/-- A reply of the Backend in its form: a result that is accepted, or an error that is not. -/
def Delivery.wellFormed : Delivery → Bool
  | .response status (.reply true .absent (.result value)) => isOk status && value.isComplete
  | .response status (.reply false (.payload _) _) => !isOk status
  | _ => false

/-- The ends of a request after which the key stays: no response, a reply of status 5xx, or a
result whose actions cannot be read. -/
def Delivery.leavesKey : Delivery → Bool
  | .rejected | .aborted => true
  | .response _ .unreadable | .response _ .foreign => false
  | .response status (.reply success error data) =>
      if isOk status && success && error == .absent then data == .malformed
      else decide (status ≥ 500)

/-- What is read of a request that ended without a reply in its form keeps the key or drops it. -/
def keepsKey (view : RuntimeInquiry) : Except Caught TransitionResult → Bool
  | .ok _ => false
  | .error caught => isRetryable (nextError view caught).kind

theorem nextError_kind (view : RuntimeInquiry) (caught : ClientError) :
    (nextError view (.client caught)).kind =
      if caught.kind = .parseError then .unknownError else caught.kind := by
  obtain ⟨kind, status, error⟩ := caught
  cases kind with
  | conflict =>
      simp only [nextError]
      split
      · rfl
      · rfl
  | _ => rfl

theorem isRetryable_getApiErrorKind (status : Nat) :
    isRetryable (if getApiErrorKind status = .parseError then .unknownError
      else getApiErrorKind status) = decide (status ≥ 500) := by
  unfold getApiErrorKind
  by_cases h400 : status = 400
  · simp [h400, isRetryable]
  by_cases h401 : status = 401
  · simp [h401, isRetryable]
  by_cases h403 : status = 403
  · simp [h403, isRetryable]
  by_cases h404 : status = 404
  · simp [h404, isRetryable]
  by_cases h409 : status = 409
  · simp [h409, isRetryable]
  by_cases h422 : status = 422
  · simp [h422, isRetryable]
  by_cases h500 : status ≥ 500
  · simp [h400, h401, h403, h404, h409, h422, h500, isRetryable]
  · simp [h400, h401, h403, h404, h409, h422, h500, isRetryable]

/-- What is read keeps the key as `leavesKey` says. -/
theorem keepsKey_readResult (view : RuntimeInquiry) (last : Delivery) :
    keepsKey view (readResult (executeApiRequest last)) = last.leavesKey := by
  cases last with
  | rejected => rfl
  | aborted => rfl
  | response status body =>
      cases body with
      | unreadable => rfl
      | foreign => rfl
      | reply success error data =>
          by_cases accepted : (isOk status && success && error == .absent) = true
          · simp only [executeApiRequest, accepted, if_true, Delivery.leavesKey]
            cases data with
            | missing => rfl
            | malformed => rfl
            | result value => rfl
          · simp only [executeApiRequest, accepted, Bool.false_eq_true, if_false, Delivery.leavesKey, readResult,
              keepsKey, nextError_kind]
            exact isRetryable_getApiErrorKind status

/-- Whether the key of a call that has ended stays. -/
def Ended.leavesKey (e : Ended) : Bool := e.orphaned || e.last.leavesKey

/-! ### The keys of a run -/

/-- What the hook keeps of the operations: keys are new, a key stands for one payload, and the
payload that is pending is the one of its key. -/
structure Tracked (s : Hook) : Prop where
  fresh : ∀ r ∈ s.sent, r.idempotencyKey < s.keys
  bound : ∀ p, s.pending = some p → p.key < s.keys
  signed : ∀ p, s.pending = some p →
    ∀ r ∈ s.sent, r.idempotencyKey = p.key → r.operation.payload = p.signature
  agreed : ∀ r ∈ s.sent, ∀ r' ∈ s.sent,
    r.idempotencyKey = r'.idempotencyKey → r.operation.payload = r'.operation.payload
  composed : ∀ r ∈ s.sent, r.operation.content = some r.content

/-- The operation a request is sent for, as the tracker has it. -/
def Request.tracked (r : Request) : PendingOperation := ⟨r.idempotencyKey, r.operation.payload⟩

/-- The hook between its steps. -/
structure Sound (s : Hook) : Prop where
  tracked : Tracked s
  rendered : s.rendered.inquiryId = s.inquiry.inquiryId
  calling : ∀ call, s.saving = some call →
    s.ended = none ∧ s.pending = some call.request.tracked ∧
      call.request.operation.content = some call.request.content ∧
      call.request.operation.inquiryId = s.inquiry.inquiryId
  closed : ∀ e, s.ended = some e →
    e.request.operation.content = some e.request.content ∧ e.request.idempotencyKey < s.keys ∧
      e.request.operation.inquiryId = s.inquiry.inquiryId ∧
      s.pending = if e.leavesKey then some e.request.tracked else none

section Begin
variable {s : Hook} (signature : RequestPayload)

/-- The tracker's `begin` changes the pending operation and the supply of keys, and no more. -/
theorem beginOperation_frame :
    (s.beginOperation signature).2 =
      { s with
        pending := some ⟨(s.beginOperation signature).1, signature⟩
        keys := (s.beginOperation signature).2.keys } := by
  unfold Hook.beginOperation
  split
  · next pending found =>
    split
    · next signed =>
        rw [← signed]
        exact congrArg (fun p => { s with pending := p }) found
    · rfl
  · rfl

/-- The key of an operation is below the supply and carried by none of another payload. -/
theorem Tracked.beginOperation (tracked : Tracked s) :
    s.keys ≤ (s.beginOperation signature).2.keys ∧
    (s.beginOperation signature).1 < (s.beginOperation signature).2.keys ∧
    ∀ r ∈ s.sent, r.idempotencyKey = (s.beginOperation signature).1 →
      r.operation.payload = signature := by
  have unused : ∀ r ∈ s.sent, r.idempotencyKey = s.keys → r.operation.payload = signature := by
    intro r mem same
    have below := tracked.fresh r mem
    omega
  unfold Hook.beginOperation
  split
  · next pending found =>
      split
      · next signed =>
          refine ⟨Nat.le_refl _, tracked.bound pending found, ?_⟩
          intro r mem same
          rw [← signed]
          exact tracked.signed pending found r mem same
      · exact ⟨Nat.le_succ _, Nat.lt_succ_self _, unused⟩
  · exact ⟨Nat.le_succ _, Nat.lt_succ_self _, unused⟩

end Begin

section Send
variable {s t : Hook} {request : Request}

/-- A request may be sent whose key is below the supply and carried by none of another payload. -/
theorem Tracked.send (tracked : Tracked s) (keys : s.keys ≤ t.keys)
    (below : request.idempotencyKey < t.keys)
    (alone : ∀ r ∈ s.sent, r.idempotencyKey = request.idempotencyKey →
      r.operation.payload = request.operation.payload)
    (content : request.operation.content = some request.content)
    (pending : t.pending = some request.tracked) (sent : t.sent = s.sent ++ [request]) :
    Tracked t := by
  have cases_sent : ∀ r ∈ t.sent, r ∈ s.sent ∨ r = request := by
    intro r mem
    rw [sent] at mem
    rcases List.mem_append.1 mem with old | new
    · exact .inl old
    · exact .inr (List.mem_singleton.1 new)
  have carried : ∀ r ∈ t.sent, r.idempotencyKey = request.idempotencyKey →
      r.operation.payload = request.operation.payload := by
    intro r mem same
    rcases cases_sent r mem with old | rfl
    · exact alone r old same
    · rfl
  refine ⟨?_, ?_, ?_, ?_, ?_⟩
  · intro r mem
    rcases cases_sent r mem with old | rfl
    · exact Nat.lt_of_lt_of_le (tracked.fresh r old) keys
    · exact below
  · intro p found
    rw [pending] at found
    cases found
    exact below
  · intro p found
    rw [pending] at found
    cases found
    exact carried
  · intro r mem r' mem' same
    rcases cases_sent r mem with old | rfl
    · rcases cases_sent r' mem' with old' | rfl
      · exact tracked.agreed r old r' old' same
      · exact carried r mem same
    · exact (carried r' mem' same.symm).symm
  · intro r mem
    rcases cases_sent r mem with old | rfl
    · exact tracked.composed r old
    · exact content

/-- What drops the pending operation, or keeps it, and sends nothing keeps the rest. -/
theorem Tracked.settle (tracked : Tracked s) (keys : s.keys ≤ t.keys) (sent : t.sent = s.sent)
    (pending : ∀ p, t.pending = some p → s.pending = some p) : Tracked t := by
  refine ⟨?_, ?_, ?_, ?_, ?_⟩
  · intro r mem
    exact Nat.lt_of_lt_of_le (tracked.fresh r (sent ▸ mem)) keys
  · intro p found
    exact Nat.lt_of_lt_of_le (tracked.bound p (pending p found)) keys
  · intro p found r mem
    exact tracked.signed p (pending p found) r (sent ▸ mem)
  · intro r mem r' mem'
    exact tracked.agreed r (sent ▸ mem) r' (sent ▸ mem')
  · intro r mem
    exact tracked.composed r (sent ▸ mem)

end Send

/-! ### One step -/

section Steps
variable {s t : Hook}

/-- The start of an action that has a request sends it. -/
theorem start_eq_send {action : AllowedAction} {values : FormValues} {content : Content}
    (found : (s.operation action values).content = some content) :
    s.start action values =
      let operation := s.operation action values
      let begun := s.beginOperation operation.payload
      let request : Request := ⟨operation, content, begun.1, s.correlations⟩
      { s with
        pending := some request.tracked
        keys := begun.2.keys
        saving := some ⟨s.rendered, request, .requesting⟩
        success := none
        error := none
        correlations := s.correlations + 1
        sent := s.sent ++ [request]
        ended := none } := by
  simp only [Hook.start, found]
  rw [beginOperation_frame]
  rfl

/-- The start of an action without a request drops what is pending. -/
theorem start_eq_blocked {action : AllowedAction} {values : FormValues}
    (found : (s.operation action values).content = none) :
    s.start action values =
      { s with
        pending := none
        keys := (s.beginOperation (s.operation action values).payload).2.keys
        success := none
        error := some ⟨.runtimeBlocked, "방문 관련 작업은 방문 전환 화면에서 진행해 주세요.", none⟩
        ended := none } := by
  simp only [Hook.start, found]
  rw [beginOperation_frame]

theorem Sound.start (sound : Sound s) (idle : s.saving = none) (action : AllowedAction)
    (values : FormValues) : Sound (s.start action values) := by
  have ⟨keys, below, alone⟩ :=
    sound.tracked.beginOperation (s.operation action values).payload
  cases found : (s.operation action values).content with
  | none =>
      rw [start_eq_blocked found]
      refine ⟨?_, sound.rendered, ?_, ?_⟩
      · exact sound.tracked.settle keys rfl (fun _ absurd => nomatch absurd)
      · intro call calling
        rw [idle] at calling
        contradiction
      · exact fun _ absurd => nomatch absurd
  | some content =>
      rw [start_eq_send found]
      refine ⟨?_, sound.rendered, ?_, ?_⟩
      · exact sound.tracked.send keys below alone found rfl rfl
      · intro call calling
        cases calling
        exact ⟨rfl, rfl, found, sound.rendered⟩
      · exact fun _ absurd => nomatch absurd

/-- The end of a call leaves what was pending, or nothing. -/
theorem conclude_pending (call : Call) (last : Delivery) :
    (s.conclude call last).pending =
      if keepsKey call.view (s.outcome call last) then s.pending else none := by
  unfold Hook.conclude keepsKey
  cases s.outcome call last with
  | ok result => rfl
  | error caught => rfl

theorem conclude_frame (call : Call) (last : Delivery) :
    (s.conclude call last).saving = none ∧ (s.conclude call last).sent = s.sent ∧
      (s.conclude call last).keys = s.keys ∧ (s.conclude call last).inquiry = s.inquiry ∧
      (s.conclude call last).rendered = s.rendered ∧
      (s.conclude call last).ended = some ⟨call.request, last, s.orphans call last⟩ := by
  unfold Hook.conclude
  cases s.outcome call last with
  | ok result => exact ⟨rfl, rfl, rfl, rfl, rfl, rfl⟩
  | error caught => exact ⟨rfl, rfl, rfl, rfl, rfl, rfl⟩

/-- What the call ends in keeps the key as `Ended.leavesKey` says. -/
theorem keepsKey_outcome (call : Call) (last : Delivery) :
    keepsKey call.view (s.outcome call last) =
      Ended.leavesKey ⟨call.request, last, s.orphans call last⟩ := by
  unfold Hook.outcome Ended.leavesKey
  cases orphaned : s.orphans call last with
  | true => rfl
  | false =>
      rw [if_neg Bool.false_ne_true, Bool.false_or]
      exact keepsKey_readResult call.view last

theorem Sound.conclude {call : Call} (sound : Sound s) (saving : s.saving = some call)
    (last : Delivery) : Sound (s.conclude call last) := by
  have ⟨_, pending, content, inquiryId⟩ := sound.calling call saving
  have ⟨idle, sent, keys, inquiry, rendered, ended⟩ := conclude_frame (s := s) call last
  refine ⟨?_, ?_, ?_, ?_⟩
  · refine sound.tracked.settle (Nat.le_of_eq keys.symm) sent ?_
    intro p found
    rw [conclude_pending] at found
    split at found
    · exact found
    · contradiction
  · rw [rendered, inquiry]
    exact sound.rendered
  · intro other calling
    rw [idle] at calling
    contradiction
  · intro e found
    rw [ended] at found
    cases found
    rw [keys, inquiry]
    refine ⟨content, sound.tracked.bound _ pending, inquiryId, ?_⟩
    rw [conclude_pending, keepsKey_outcome call last, pending]

theorem Sound.deliver {call : Call} {delivery : Delivery} (sound : Sound s)
    (saving : s.saving = some call) (performed : s.deliver call delivery = some t) : Sound t := by
  have ⟨ended, pending, content, inquiryId⟩ := sound.calling call saving
  unfold Hook.deliver at performed
  cases phase : call.phase with
  | requesting =>
      simp only [phase] at performed
      split at performed
      · cases performed
        refine ⟨⟨sound.tracked.fresh, sound.tracked.bound, sound.tracked.signed,
          sound.tracked.agreed, sound.tracked.composed⟩, sound.rendered, ?_, sound.closed⟩
        intro other calling
        cases calling
        exact ⟨ended, pending, content, inquiryId⟩
      · cases performed
        exact sound.conclude saving delivery
  | refreshing first => simp only [phase, reduceCtorEq] at performed
  | retrying =>
      simp only [phase] at performed
      cases performed
      exact sound.conclude saving delivery

/-- A request that is sent again has the key and the operation of the first. -/
theorem Sound.refresh {call : Call} {token : Option String} (sound : Sound s)
    (saving : s.saving = some call) (performed : s.refresh call token = some t) : Sound t := by
  have ⟨ended, pending, content, inquiryId⟩ := sound.calling call saving
  unfold Hook.refresh at performed
  cases phase : call.phase with
  | requesting => simp only [phase, reduceCtorEq] at performed
  | retrying => simp only [phase, reduceCtorEq] at performed
  | refreshing first =>
      simp only [phase] at performed
      split at performed
      · cases performed
        exact sound.conclude saving first
      · cases performed
        refine ⟨?_, sound.rendered, ?_, ?_⟩
        · exact @Tracked.send s _ { call.request with correlationId := s.correlations }
            sound.tracked (Nat.le_refl _) (sound.tracked.bound _ pending)
            (sound.tracked.signed _ pending) content pending rfl
        · intro other calling
          cases calling
          exact ⟨ended, pending, content, inquiryId⟩
        · intro e found
          rw [ended] at found
          contradiction

theorem Sound.perform {event : Event} (sound : Sound s) (step : Step s event t) : Sound t := by
  have step : SaveConsultation.perform s event = some t := step
  cases event with
  | update status stateVersion allowedActions =>
      cases step
      exact ⟨⟨sound.tracked.fresh, sound.tracked.bound, sound.tracked.signed,
        sound.tracked.agreed, sound.tracked.composed⟩, sound.rendered, sound.calling, sound.closed⟩
  | render =>
      cases step
      refine ⟨⟨sound.tracked.fresh, sound.tracked.bound, sound.tracked.signed,
        sound.tracked.agreed, sound.tracked.composed⟩, ?_, sound.calling, sound.closed⟩
      show s.view.inquiryId = s.inquiry.inquiryId
      unfold Hook.view
      split
      · split
        · next newer => exact newer.1
        · rfl
      · rfl
  | configureAuth handled =>
      cases step
      exact ⟨⟨sound.tracked.fresh, sound.tracked.bound, sound.tracked.signed,
        sound.tracked.agreed, sound.tracked.composed⟩, sound.rendered, sound.calling, sound.closed⟩
  | execute action values confirmed =>
      simp only [SaveConsultation.perform] at step
      split at step
      · cases step
        exact sound
      · next free =>
          cases step
          have idle : s.saving = none := by
            cases saving : s.saving with
            | none => rfl
            | some call => simp [saving] at free
          exact sound.start idle action values
  | deliver delivery =>
      obtain ⟨call, saving, performed⟩ := Option.bind_eq_some_iff.1 step
      exact sound.deliver saving performed
  | refresh token =>
      obtain ⟨call, saving, performed⟩ := Option.bind_eq_some_iff.1 step
      exact sound.refresh saving performed

end Steps

theorem Sound.mount (inquiry : RuntimeInquiry) (authConfigured : Bool) :
    Sound (mount inquiry authConfigured) where
  tracked := ⟨by simp [SaveConsultation.mount], by simp [SaveConsultation.mount],
    by simp [SaveConsultation.mount], by simp [SaveConsultation.mount],
    by simp [SaveConsultation.mount]⟩
  rendered := rfl
  calling := fun _ absurd => nomatch absurd
  closed := fun _ absurd => nomatch absurd

/-! ### The retries of a consultant -/

/-- Requests with one key have one operation and one content. -/
def Hook.KeysAgree (s : Hook) : Prop :=
  ∀ r ∈ s.sent, ∀ r' ∈ s.sent, r.idempotencyKey = r'.idempotencyKey →
    r.operation.payload = r'.operation.payload ∧ r.content = r'.content

/-- The next step executes the operation of a call that has just ended: the same action and the
same form, on the same version of the inquiry. -/
def Hook.Repeats (s : Hook) (e : Ended) (t : Hook) : Prop :=
  s.rendered.stateVersion = e.request.operation.stateVersion ∧
    Step s (.execute e.request.operation.action e.request.operation.values true) t

/-- The step sends a request with a key. -/
def Hook.Sends (s : Hook) (key : Nat) (t : Hook) : Prop :=
  ∃ request, t.sent = s.sent ++ [request] ∧ request.idempotencyKey = key

theorem Sound.keysAgree {s : Hook} (sound : Sound s) : s.KeysAgree := by
  intro r mem r' mem' same
  have payload := sound.tracked.agreed r mem r' mem' same
  refine ⟨payload, ?_⟩
  have content := content_eq_of_payload payload
  rw [sound.tracked.composed r mem, sound.tracked.composed r' mem'] at content
  exact Option.some.inj content

/-- The operation of a call that has ended is begun again with its key if that is pending, and
with a new key if nothing is. -/
theorem Sound.sends_iff {s t : Hook} {e : Ended} (sound : Sound s) (ended : s.ended = some e)
    (repeated : s.Repeats e t) : s.Sends e.request.idempotencyKey t ↔ e.leavesKey = true := by
  have ⟨content, below, inquiryId, pending⟩ := sound.closed e ended
  obtain ⟨version, step⟩ := repeated
  have same : s.operation e.request.operation.action e.request.operation.values =
      e.request.operation := by
    simp only [Hook.operation, sound.rendered, version, ← inquiryId]
  have idle : s.saving = none := by
    cases saving : s.saving with
    | none => rfl
    | some call =>
        have none := (sound.calling call saving).1
        rw [ended] at none
        contradiction
  have started : t = s.start e.request.operation.action e.request.operation.values := by
    have step : SaveConsultation.perform s _ = some t := step
    simp only [SaveConsultation.perform, idle] at step
    simpa using step.symm
  rw [← same] at content
  rw [start_eq_send content, same] at started
  have key : s.Sends e.request.idempotencyKey t ↔
      (s.beginOperation e.request.operation.payload).1 = e.request.idempotencyKey := by
    subst started
    constructor
    · rintro ⟨request, sent, carried⟩
      have only := List.append_cancel_left sent
      cases only
      exact carried
    · exact fun carried => ⟨_, rfl, carried⟩
  rw [key]
  unfold Hook.beginOperation
  cases kept : e.leavesKey with
  | true =>
      rw [kept, if_pos rfl] at pending
      simp [pending, Request.tracked]
  | false =>
      rw [kept, if_neg Bool.false_ne_true] at pending
      simp only [pending, Bool.false_eq_true, iff_false]
      omega

/-- In every run, requests with one key are one request; and where a call ended without a reply in
its form, executing the same again sends its key exactly if that call had no response, a reply of
status 5xx or an unreadable result, or left its 401 to a handler that is gone. -/
theorem keys_of_run {inquiry : RuntimeInquiry} {authConfigured : Bool} {events : List Event}
    {s : Hook} (run : Run Step (mount inquiry authConfigured) events s) :
    s.KeysAgree ∧
    ∀ e t, s.ended = some e → e.last.wellFormed = false → s.Repeats e t →
      (s.Sends e.request.idempotencyKey t ↔ e.leavesKey = true) := by
  have sound : Sound s :=
    run.invariant (fun _ _ _ sound step => sound.perform step) (.mount inquiry authConfigured)
  exact ⟨sound.keysAgree, fun e t ended _ repeated => sound.sends_iff ended repeated⟩

/-! ### A reply that breaks off -/

namespace Sample

def start : AllowedAction := ⟨.startConsultation, "상담 시작", "startConsultation", false, none⟩

def form : FormValues := ⟨"", "", "", "", "", false, .undecided, "NOT_APPLICABLE"⟩

def inquiry : RuntimeInquiry := ⟨"INQ-1", some "WAITING", 4, [start]⟩

/-- The start of a consultation, and how its request ends. -/
def events (last : Delivery) : List Event := [.execute start form true, .deliver last]

end Sample

/-- After a timeout the next try carries the key again. -/
theorem keys_of_run_lost :
    ∃ s e t, Run Step (mount Sample.inquiry true) (Sample.events .aborted) s ∧
      s.ended = some e ∧ e.last.wellFormed = false ∧ s.Repeats e t ∧ e.leavesKey = true ∧
      s.Sends e.request.idempotencyKey t := by
  refine ⟨_, _, _, Run.foldlM (fun _ _ _ h => h) .refl (by rfl), by rfl, by rfl, ⟨by rfl, by rfl⟩,
    by rfl, ?_⟩
  have run : Run Step (mount Sample.inquiry true) (Sample.events .aborted) _ :=
    Run.foldlM (fun _ _ _ h => h) .refl (by rfl)
  exact ((keys_of_run run).2 _ _ (by rfl) (by rfl) ⟨by rfl, by rfl⟩).2 (by rfl)

/-- Where the reply breaks off, the Backend may have started the consultation, but the next try
carries a new key. -/
theorem key_of_lost_reply :
    ∃ s e t, Run Step (mount Sample.inquiry true) (Sample.events (.response 200 .unreadable)) s ∧
      s.ended = some e ∧ e.last.wellFormed = false ∧ s.Repeats e t ∧
      ¬ s.Sends e.request.idempotencyKey t := by
  refine ⟨_, _, _, Run.foldlM (fun _ _ _ h => h) .refl (by rfl), by rfl, by rfl, ⟨by rfl, by rfl⟩, ?_⟩
  rintro ⟨request, sent, carried⟩
  have only := List.append_cancel_left sent
  cases only
  contradiction

end WaterCare.Client.SaveConsultation
