import WaterCare.Machine.Run
import WaterCare.Service.Operation

/-!
The run of a list of actions, computed, and a small database to run actions on: a
customer with a subscription, two consultants and the supervisor.
-/

namespace WaterCare.Runtime
open Machine Workflow Store Service Py Analysis

section
variable (settings : Settings)

/-- The event of an action, with the database after it. -/
def eventOf (w : World) (act : Action) : Event × World :=
  match act.perform settings w with
  | .ok (t, answer) => (⟨act, .ok answer⟩, t)
  | .error failure => (⟨act, .error failure⟩, w)

/-- The events of a list of actions, with the database after them. -/
def trace (w : World) : List Action → List Event × World
  | [] => ([], w)
  | act :: rest =>
      let (e, t) := eventOf settings w act
      let (events, last) := trace t rest
      (e :: events, last)

instance (w : World) (act : Action) : Decidable (act.IsAuthenticated w) :=
  match act with
  | .request r _ | .supervise r _ =>
      inferInstanceAs (Decidable (w.directory.user r.actor.id = some r.actor))
  | .internal _ _ | .administer _ _ => isTrue trivial

/-- Every action is authenticated in the database it finds. -/
def authenticated (w : World) : List Action → Bool
  | [] => true
  | act :: rest =>
      decide (act.IsAuthenticated w) && authenticated (eventOf settings w act).2 rest

instance (e : Event) : Decidable e.Commits :=
  match e with
  | ⟨_, .ok answer⟩ =>
      decidable_of_iff (answer.all (fun answer => !answer.replayed) = true)
        ⟨fun h => ⟨answer, rfl, h⟩, fun ⟨_, same, h⟩ => Except.ok.inj same ▸ h⟩
  | ⟨_, .error _⟩ => isFalse fun ⟨_, same, _⟩ => nomatch same

variable {settings}

theorem eventOf_action {w : World} {act : Action} : (eventOf settings w act).1.action = act := by
  unfold eventOf
  split <;> rfl

theorem eventOf_step {w : World} {act : Action} (h : act.IsAuthenticated w) :
    Step settings w (eventOf settings w act).1 (eventOf settings w act).2 := by
  unfold eventOf
  cases performed : act.perform settings w with
  | ok written =>
      obtain ⟨t, answer⟩ := written
      refine ⟨h, ?_⟩
      change match act.perform settings w with | _ => _
      rw [performed]
      exact ⟨rfl, rfl⟩
  | error failure =>
      refine ⟨h, ?_⟩
      change match act.perform settings w with | _ => _
      rw [performed]
      exact ⟨rfl, rfl⟩

theorem trace_run {w : World} {acts : List Action} (h : authenticated settings w acts = true) :
    Run (Step settings) w (trace settings w acts).1 (trace settings w acts).2 := by
  induction acts generalizing w with
  | nil => exact .refl
  | cons act rest ih =>
      unfold authenticated at h
      rw [Bool.and_eq_true, decide_eq_true_eq] at h
      have first : Run (Step settings) w [(eventOf settings w act).1] (eventOf settings w act).2 :=
        .snoc .refl (eventOf_step h.1)
      exact first.trans (ih h.2)

/-- A condition on the actions is met by the steps of their run. -/
theorem trace_restrict {ok : World → Action → Prop} {w : World} {acts : List Action}
    (h : authenticated settings w acts = true) (allowed : ∀ act ∈ acts, ∀ s, ok s act) :
    Run (Restrict (fun s e => ok s e.action) (Step settings)) w (trace settings w acts).1
      (trace settings w acts).2 := by
  induction acts generalizing w with
  | nil => exact .refl
  | cons act rest ih =>
    unfold authenticated at h
    rw [Bool.and_eq_true, decide_eq_true_eq] at h
    have first : Run (Restrict (fun s e => ok s e.action) (Step settings)) w
        [(eventOf settings w act).1] (eventOf settings w act).2 := by
      refine .snoc .refl ⟨?_, eventOf_step h.1⟩
      change ok w (eventOf settings w act).1.action
      rw [eventOf_action]
      exact allowed act List.mem_cons_self w
    exact first.trans (ih h.2 fun act mem => allowed act (List.mem_cons_of_mem _ mem))

end

/-! ### A small database -/

namespace Sample
open Engine (validIdempotencyKey)

def account (id : Nat) (username : String) (role : UserRole) (isSupervisor : Bool) : User where
  id := id
  username := username
  role := role
  isActive := true
  isSynthetic := true
  isStaff := isSupervisor
  isSuperuser := isSupervisor
  hasUsablePassword := true
  mayCancelInquiry := isSupervisor
  fullName := username
  phone := "010-0000-0000"

def customer : User := account 1 "SYN-CUSTOMER" .customer false

def consultant : User := account 2 "SKN-101" .consultant false

def colleague : User := account 3 "SKN-102" .consultant false

def supervisor : User := account 4 "SYN-WATERBRIDGE-SUPERVISOR" .operator true

/-- The accounts with one subscription of the customer. -/
def directory : Directory where
  user id := [customer, consultant, colleague, supervisor].find? fun user => decide (user.id = id)
  customer id :=
    if id = 1 then some ⟨⟨1, some 1, true, none⟩, rfl⟩ else none
  subscription id :=
    if id = 1 then some ⟨1, "SYN-CONTRACT-101", 1, "WPUJAC104DWH", .active⟩ else none

/-- A text that tells two values apart, in the place of their digest. -/
def textOf : Value → String
  | .atom a => a.repr
  | .list values => "[" ++ items values ++ "]"
  | .dict entries => "(" ++ fields entries ++ ")"
where
  items : List Value → String
    | [] => ""
    | value :: rest => textOf value ++ "," ++ items rest
  fields : List (Atom × Value) → String
    | [] => ""
    | (key, value) :: rest => key.repr ++ ":" ++ textOf value ++ "," ++ fields rest

def settings : Settings where
  canonicalRequestHash := textOf
  supervisorUsername := "SYN-WATERBRIDGE-SUPERVISOR"
  casefold s := String.ofList (s.toList.map Char.toLower)
  upper s := String.ofList (s.toList.map Char.toUpper)
  startOfDay day := 86400 * day

def world : World where
  directory := directory
  sessions := ∅
  inquiries := ∅
  records := ∅
  nextId := 10

theorem world_initial : Initial world := ⟨rfl, rfl⟩

def key (n : Nat) : IdempotencyKey :=
  if h : validIdempotencyKey (some ("key-" ++ toString n)) = true then ⟨_, h⟩
  else ⟨"key", by decide⟩

theorem hasText_correlation : hasText "correlation" = true := by decide

def correlation : Uuid := ⟨"correlation", hasText_correlation⟩

/-- A request of an account at a time, with a key of its own. -/
def request (actor : User) (now : Instant) : Request := ⟨actor, key now, correlation, now⟩

def send (actor : User) (now : Instant) (operation : Operation) : Action :=
  .request (request actor now) operation

def supervise (now : Instant) (operation : SupervisorOperation) : Action :=
  .supervise (request supervisor now) operation

/-- The consultant takes an inquiry of the customer on the phone; it gets the number 10. -/
def phoneInquiry (now : Instant) : Action :=
  send consultant now (.register ⟨1, "no cold water", "COLD_WATER", .normal⟩)

/-- A value of the summary for each field that is sent. -/
def summaryOf (summary : String) (outcome : Option Outcome) : SummaryValues :=
  ⟨some summary, none, none, none, outcome, none⟩

/-- The consultant starts the consultation of the phone inquiry and confirms its summary. -/
def confirming : List Action :=
  [ phoneInquiry 100,
    send consultant 101 (.act (.startConsultation 10 1)),
    send consultant 102 (.act (.saveSummary 10 2 (summaryOf " valve replaced "
      (some .completedNoVisit)))),
    send consultant 103 (.act (.confirmSummary 10 3)) ]

/-- The customer starts the inquiry 10 and submits its symptom; its analysis is the run 12. -/
def analysing : List Action :=
  [ send customer 100 (.start ⟨1, .web, "no cold water", none, none⟩),
    send customer 101 (.act (.submitSymptom 10 1)),
    .internal 102 (.createRun 10 ⟨"request-1", "digest-1", 2, "WPUJAC104DWH", correlation⟩),
    .internal 103 (.onRun 10 12 .markRunning) ]

/-- The analysis fails, the customer asks for a consultation and the consultant completes it. -/
def completing : List Action :=
  analysing ++
  [ .internal 104 (.onRun 10 12 (.markFailed ⟨"AI-FAILED-01", false, 0, false, none⟩)),
    .internal 105 (.onRun 10 12 .applyUnusableAiFailureEvent),
    send customer 106 (.act (.requestConsultation 10 3)),
    send consultant 107 (.claim 10 4),
    send consultant 108 (.act (.startConsultation 10 5)),
    send consultant 109 (.act (.saveSummary 10 6 (summaryOf " valve replaced "
      (some .completedNoVisit)))),
    send consultant 110 (.act (.confirmSummary 10 7)),
    send consultant 111 (.act (.completeConsultation 10 8)) ]

/-- A cautious result for the analysis, with evidence and the questions it asks. -/
def cautionResult (questions : List FollowUpQuestion) : SymptomAnalysisResult where
  inquiryId := 10
  correlationId := correlation
  aiRequestId := "request-1"
  stateVersion := 2
  modelCode := "WPUJAC104DWH"
  status := .succeeded
  fallbackReasonCode := none
  failureStage := none
  retryCount := 0
  missingFields := []
  followupQuestions := questions
  safetyAssessment := ⟨.caution, .consultationRecommended, true, [], "the water is too warm"⟩
  usageGuidance := ⟨.partialStop, "do not use the cold water", ["cold water"], []⟩
  evidenceReferences := ["chunk-1"]
  reason_iff := rfl

/-- Its evidence is verified, and its ledger holds a cause a review may resolve. -/
def verification : InquiryAIService.Verification :=
  ⟨["chunk-1"], fun _ => "sha", fun _ => 4, fun _ => 50, true,
    some (.ok [⟨"HARNESS_UNSUPPORTED_FUNCTION", "NON_SAFETY_RESOLVABLE"⟩])⟩

/-- The analysis ends with the result, whose guidance 15 waits for the review 14. -/
def reviewing (questions : List FollowUpQuestion) : List Action :=
  analysing ++
  [ .internal 104 (.onRun 10 12 (.markSucceeded (cautionResult questions))),
    .internal 105 (.onRun 10 12 (.persistValidatedResult verification)) ]

end Sample
end WaterCare.Runtime
