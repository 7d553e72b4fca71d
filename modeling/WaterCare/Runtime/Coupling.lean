import WaterCare.Runtime.Change

/-!
What every reachable inquiry satisfies: its status says how its last consultation
stands and whether there is a visit. Every change keeps the two in step.
-/

namespace WaterCare.Runtime
open Machine Workflow Store Service Py Analysis

/-- How far the consultations of an inquiry are in a status. -/
inductive Stage
  | intake
  | queue
  | desk
  | done
  | closed
  deriving DecidableEq

def stage : InquiryState → Stage
  | .draft | .questionnaireInProgress | .aiGuidance => .intake
  | .consultationRequired => .queue
  | .consultationInProgress | .visitReviewPending | .visitScheduling | .visitScheduled
  | .revisitRequired => .desk
  | .completionPending | .reopened | .resolved => .done
  | .cancelled => .closed

/-- How the last consultation stands at a stage; at the desk it belongs to the
assigned user. -/
def Stands (assigned : Option Nat) (last : Option Consultation) : Stage → Prop
  | .intake => last = none
  | .queue => ∀ c, last = some c → c.status.isPending = true
  | .desk => ∃ c, last = some c ∧ c.status = .inProgress ∧ c.consultant = assigned
  | .done => ∃ c, last = some c ∧ c.status = .completed
  | .closed => ∀ c, last = some c → c.status.isActive = false

/-- The consultation with the greatest sequence of a desk. -/
def lastConsultation (cs : List (Stored Consultation)) : Option Consultation :=
  cs.getLast?.map (·.1)

/-- The statuses in which a visit is planned. -/
def hasVisit : InquiryState → Bool
  | .visitScheduling | .visitScheduled => true
  | _ => false

/-- The statuses a visit can have before a technician has started it. -/
def isPlanned : VisitStatus → Bool
  | .assigning | .scheduling | .confirmed => true
  | .inProgress | .completed | .followUpRequired | .cancelled => false

structure Coupled (limit : Nat) (a : Aggregate) : Prop where
  desk : Desk limit a.consultations
  stands : Stands a.q.assignedUser (lastConsultation a.consultations) (stage a.q.status)
  unvisited : hasVisit a.q.status = false → a.visits = []
  planned : ∀ v ∈ a.visits, isPlanned v.1.status = true
  recorded : ∀ h ∈ a.history, h.1.stateVersion ≤ a.q.stateVersion

/-! ### The rules -/

theorem asks_target : ∀ rule ∈ shipped.transitions, asksConsultation rule.event = true →
    rule.target = .consultationRequired := by
  decide

/-- The stages an event that edits a consultation leads between. -/
theorem edit_stages : ∀ rule ∈ shipped.transitions,
    (rule.event = .claimConsultation → rule.target = .consultationRequired) ∧
    (rule.event = .startConsultation →
      rule.source = some .consultationRequired ∧ rule.target = .consultationInProgress) ∧
    (rule.event = .updateConsultationSummary ∨ rule.event = .confirmConsultationSummary ∨
        rule.event = .visitReviewRequired →
      rule.source = some .consultationInProgress ∧ stage rule.target = .desk) ∧
    (rule.event = .consultationCompleted ∨ rule.event = .visitNotNeeded →
      rule.target = .completionPending) ∧
    (rule.event = .cancelInquiry → rule.target = .cancelled) := by
  decide

/-- An event that leaves the consultations alone leaves the stage, or ends the intake. -/
theorem keep_stages : ∀ rule ∈ shipped.transitions, keepsConsultations rule.event = true →
    ∀ source, rule.source = some source →
      stage rule.target = stage source ∨ stage source = .intake ∧ stage rule.target = .queue := by
  decide

/-- The events of the technician, which no service takes. -/
def ofTechnician : EventCode → Bool
  | .updatePrevisitReport | .confirmPrevisitReport | .startVisit | .visitCompleted
  | .revisitNeeded => true
  | _ => false

theorem visit_rules : ∀ rule ∈ shipped.transitions,
    (writesVisit rule.event = true → hasVisit rule.target = true) ∧
    ∀ source, rule.source = some source → hasVisit source = true →
      writesVisit rule.event = true ∨ ofTechnician rule.event = true := by
  decide

/-! ### One change -/

section
variable {assigned : Option Nat} {now : Instant} {limit : Nat} {event : Option EventCode}
  {x y : Consultation} {cs cs' : List (Stored Consultation)} {a b : Aggregate}

theorem Edited.frame (edit : Edited assigned now event x y) :
    y.id = x.id ∧ y.sequence = x.sequence := by
  cases edit <;> exact ⟨rfl, rfl⟩

theorem Edited.served {e : EventCode} (edit : Edited assigned now (some e) x y) :
    ofTechnician e = false := by
  cases edit with
  | refreshed _ _ asks _ => cases e <;> first | rfl | cases asks
  | _ => rfl

theorem Added.served {e : EventCode} (add : Added assigned now limit cs e y) :
    ofTechnician e = false := by
  cases add with
  | waiting _ _ _ asks _ => cases e <;> first | rfl | cases asks
  | running _ _ => rfl

theorem Added.frame {e : EventCode} (add : Added assigned now limit cs e y) :
    y.id = limit ∧ y.sequence = cs.length + 1 := by
  cases add <;> exact ⟨rfl, rfl⟩

/-- A new consultation has no result yet. -/
theorem Added.blank {e : EventCode} (add : Added assigned now limit cs e y) :
    y.summary = "" ∧ y.confirmedSummary = none ∧ y.summaryConfirmedAt = none ∧
      y.outcome = .pending ∧ y.completedAt = none ∧ y.status ≠ .completed := by
  cases add <;> exact ⟨rfl, rfl, rfl, rfl, rfl, nofun⟩

theorem Added.notKept {e : EventCode} (add : Added assigned now limit cs e y) :
    keepsConsultations e = false := by
  cases add with
  | waiting _ _ _ asks _ => cases e <;> first | rfl | cases asks
  | running _ _ => rfl

theorem Edited.notKept {e : EventCode} (edit : Edited assigned now (some e) x y) :
    keepsConsultations e = false := by
  cases edit with
  | refreshed _ _ asks _ => cases e <;> first | rfl | cases asks
  | _ => rfl

theorem Consulted.kept_of {e : EventCode} (keeps : keepsConsultations e = true)
    (consulted : Consulted assigned now limit (some e) cs cs') : cs' = cs := by
  cases consulted with
  | kept _ => rfl
  | edited older edit =>
      rw [edit.notKept] at keeps
      cases keeps
  | added same add =>
      cases same
      rw [add.notKept] at keeps
      cases keeps

/-- A row is added after one that is not pending, and not running either unless the
event starts a consultation. -/
theorem Added.idle {e : EventCode} (add : Added assigned now limit cs e y) :
    ∀ c ∈ cs.getLast?, c.1.status.isPending = false ∧
      (e = .startConsultation ∨ c.1.status ≠ .inProgress) := by
  intro c mem
  cases add with
  | waiting _ _ _ _ idle => exact ⟨(idle c mem).1, .inr (idle c mem).2⟩
  | running _ pending => exact ⟨pending c mem, .inl rfl⟩

theorem Consulted.served {e : EventCode} (consulted : Consulted assigned now limit (some e) cs cs') :
    ofTechnician e = false := by
  cases consulted with
  | kept keeps =>
      rcases keeps e rfl with keeps | ⟨rfl, _⟩
      · cases e <;> first | rfl | cases keeps
      · rfl
  | edited older edit => exact edit.served
  | added same add =>
      cases same
      exact add.served

/-- The rows stay numbered, and closed but for the last one, when a new row follows
only an inactive one and there is room for its identifier. -/
theorem Desk.consulted {used : Nat} (desk : Desk limit cs)
    (consulted : Consulted assigned now limit event cs cs')
    (room : 1 ≤ used ∨ ∀ e, event = some e → keepsConsultations e = true)
    (idle : event = some .startConsultation → ∀ c ∈ cs.getLast?, c.1.status ≠ .inProgress) :
    Desk (limit + used) cs' := by
  cases consulted with
  | kept _ => exact desk.mono (Nat.le_add_right _ _)
  | @edited older c row edit =>
      obtain ⟨sameId, sameNumber⟩ := edit.frame
      refine ⟨(desk.numbered.change sameId sameNumber).mono (Nat.le_add_right _ _), ?_⟩
      have closed := desk.closed
      rw [List.dropLast_concat] at closed
      rwa [List.dropLast_concat]
  | @added cs row e same add =>
      obtain ⟨id, number⟩ := add.frame
      have fits : row.1.id < limit + used := by
        rcases room with some_room | keeps
        · omega
        · have none_added := keeps e same
          rw [add.notKept] at none_added
          cases none_added
      refine ⟨desk.numbered.add number (Nat.le_of_eq id.symm) fits, ?_⟩
      rw [List.dropLast_concat]
      intro c mem
      rcases List.eq_nil_or_concat cs with rfl | ⟨older, last, split⟩
      · cases mem
      · rw [List.concat_eq_append] at split
        subst split
        rcases List.mem_append.1 mem with old | new
        · exact desk.closed c (by rwa [List.dropLast_concat])
        · rw [List.mem_singleton.1 new]
          have found : last ∈ (older ++ [last]).getLast? := by
            rw [List.getLast?_concat]
            rfl
          obtain ⟨pending, running⟩ := add.idle last found
          have stopped : last.1.status ≠ .inProgress := by
            rcases running with starts | stopped
            · exact idle (same.trans (congrArg some starts)) last found
            · exact stopped
          cases status : last.1.status with
          | waiting | assigned =>
              rw [status] at pending
              cases pending
          | inProgress => exact absurd status stopped
          | completed | cancelled => rfl

@[simp] theorem lastConsultation_concat (cs : List (Stored Consultation))
    (c : Stored Consultation) : lastConsultation (cs ++ [c]) = some c.1 := by
  rw [lastConsultation, List.getLast?_concat]
  rfl

/-- The last consultation after an edit stands as the target of the event says. -/
theorem Edited.stands {rule : TransitionRule} {source : InquiryState} {before : Option Nat}
    {e : EventCode} (listed : rule ∈ shipped.transitions) (fires : rule.event = e)
    (from_ : rule.source = some source) (kept : e = .claimConsultation ∨ assigned = before)
    (stood : Stands before (some x) (stage source))
    (edit : Edited assigned now (some e) x y) : Stands assigned (some y) (stage rule.target) := by
  obtain ⟨claim, start, edits, ends, cancel⟩ := edit_stages rule listed
  rw [fires] at claim start edits ends cancel
  have queue (pending : y.status.isPending = true) : Stands assigned (some y) .queue := by
    intro d found
    cases found
    exact pending
  have desk (stays : source = .consultationInProgress) (other : e ≠ .claimConsultation)
      (status : y.status = x.status) (consultant : y.consultant = x.consultant) :
      Stands assigned (some y) .desk := by
    subst stays
    obtain ⟨d, found, running, own⟩ := stood
    cases found
    refine ⟨y, rfl, status.trans running, consultant.trans (own.trans ?_)⟩
    rcases kept with claims | same
    · exact absurd claims other
    · exact same.symm
  have leaves {state : InquiryState} (h : rule.source = some state) : source = state :=
    Option.some.inj (from_.symm.trans h)
  cases edit with
  | refreshed stamp draft asks pending =>
      rw [asks_target rule listed (by rw [fires]; exact asks)]
      exact queue pending
  | claimed stamp waiting free =>
      rw [claim rfl]
      exact queue rfl
  | started stamp pending =>
      rw [(start rfl).2]
      exact ⟨_, rfl, rfl, rfl⟩
  | summarized stamp values =>
      obtain ⟨fromDesk, toDesk⟩ := edits (.inl rfl)
      rw [toDesk]
      exact desk (leaves fromDesk) nofun rfl rfl
  | confirmed stamp text unconfirmed =>
      obtain ⟨fromDesk, toDesk⟩ := edits (.inr (.inl rfl))
      rw [toDesk]
      exact desk (leaves fromDesk) nofun rfl rfl
  | completed stamp outcome filled confirmed open_ =>
      rw [ends (.inl rfl)]
      exact ⟨_, rfl, rfl⟩
  | reviewed stamp reason detail outcome filled =>
      obtain ⟨fromDesk, toDesk⟩ := edits (.inr (.inr rfl))
      rw [toDesk]
      exact desk (leaves fromDesk) nofun rfl rfl
  | notNeeded stamp reason detail outcome filled confirmed =>
      rw [ends (.inr rfl)]
      exact ⟨_, rfl, rfl⟩
  | cancelled stamp active =>
      rw [cancel rfl]
      intro d found
      cases found
      rfl

theorem Added.stands {rule : TransitionRule} {e : EventCode}
    (listed : rule ∈ shipped.transitions) (fires : rule.event = e)
    (add : Added assigned now limit cs e y) : Stands assigned (some y) (stage rule.target) := by
  cases add with
  | waiting stamp draft isSynthetic asks idle =>
      rw [asks_target rule listed (by rw [fires]; exact asks)]
      intro d found
      cases found
      rfl
  | running stamp pending =>
      obtain ⟨_, start, _⟩ := edit_stages rule listed
      rw [(start fires).2]
      exact ⟨_, rfl, rfl, rfl⟩

theorem Consulted.stands {rule : TransitionRule} {source : InquiryState} {before : Option Nat}
    {e : EventCode} (listed : rule ∈ shipped.transitions) (fires : rule.event = e)
    (from_ : rule.source = some source) (kept : e = .claimConsultation ∨ assigned = before)
    (stood : Stands before (lastConsultation cs) (stage source))
    (consulted : Consulted assigned now limit (some e) cs cs') :
    Stands assigned (lastConsultation cs') (stage rule.target) := by
  cases consulted with
  | kept keeps =>
      rcases keeps e rfl with keeps | ⟨rfl, idle⟩
      · have same : assigned = before := by
          rcases kept with claims | same
          · rw [claims] at keeps
            cases keeps
          · exact same
        subst same
        rcases keep_stages rule listed (by rw [fires]; exact keeps) source from_ with
          stays | ⟨intake, queue⟩
        · rw [stays]
          exact stood
        · rw [intake] at stood
          rw [queue]
          intro c found
          rw [show lastConsultation cs = none from stood] at found
          cases found
      · obtain ⟨_, _, _, _, cancel⟩ := edit_stages rule listed
        rw [cancel fires]
        intro c found
        obtain ⟨d, mem, rfl⟩ := Option.map_eq_some_iff.1 found
        exact idle d (List.mem_of_getLast? mem)
  | @edited older c row edit =>
      rw [lastConsultation_concat] at stood ⊢
      exact edit.stands listed fires from_ kept stood
  | @added cs row e' same add =>
      cases same
      rw [lastConsultation_concat]
      exact add.stands listed fires

/-! ### Every change -/

theorem Visited.kept_of {e : EventCode} {vs vs' : List (Stored Visit)}
    (visited : Visited limit now e vs vs') (plain : writesVisit e = false) : vs' = vs := by
  cases visited with
  | kept _ => rfl
  | created => cases plain
  | updated _ _ _ written => rcases written with ⟨rfl, _⟩ | ⟨rfl, _⟩ <;> cases plain

theorem Visited.planned {e : EventCode} {vs vs' : List (Stored Visit)}
    (visited : Visited limit now e vs vs') (all : ∀ v ∈ vs, isPlanned v.1.status = true) :
    ∀ v ∈ vs', isPlanned v.1.status = true := by
  cases visited with
  | kept _ => exact all
  | created _ status _ _ =>
      intro v mem
      rcases List.mem_append.1 mem with old | new
      · exact all v old
      · rw [List.mem_singleton.1 new, status]
        rfl
  | updated _ _ _ status =>
      intro z mem
      obtain ⟨other, old, same⟩ := List.mem_map.1 mem
      rw [← same]
      split
      · rcases status with ⟨_, status⟩ | ⟨_, status⟩ <;> rw [status] <;> rfl
      · exact all other old

/-- A transition keeps status, consultations, visits and history in step. -/
theorem Transition.coupled {e : EventCode} {plan : Plan} {used : Nat}
    (move : Transition limit now e plan a b) (room : 1 ≤ used ∨ keepsConsultations e = true)
    (coupled : Coupled limit a) : Coupled (limit + used) b := by
  obtain ⟨listed, fires, source⟩ := move.rule_mem
  obtain ⟨writes, stays⟩ := visit_rules plan.rule listed
  rw [fires] at writes stays
  have kept : e = .claimConsultation ∨ b.q.assignedUser = a.q.assignedUser :=
    move.assignment.imp_right And.left
  refine ⟨coupled.desk.consulted move.consultations ?_ ?_, ?_, ?_,
    move.visits.planned coupled.planned, ?_⟩
  · refine room.imp_right ?_
    intro keeps e' same
    cases same
    exact keeps
  · intro starts c last running
    cases starts
    obtain ⟨_, start, _⟩ := edit_stages plan.rule listed
    have queue := coupled.stands
    rw [Option.some.inj (source.symm.trans (start fires).1)] at queue
    have pending := queue c.1 (Option.map_eq_some_iff.2 ⟨c, last, rfl⟩)
    rw [running] at pending
    cases pending
  · rw [move.status]
    exact move.consultations.stands listed fires source kept coupled.stands
  · intro unvisited
    rw [move.status] at unvisited
    have plain : writesVisit e = false := by
      cases written : writesVisit e with
      | false => rfl
      | true =>
          rw [writes written] at unvisited
          cases unvisited
    have none_before : hasVisit a.q.status = false := by
      cases visited : hasVisit a.q.status with
      | false => rfl
      | true =>
          rcases stays _ source visited with written | technician
          · rw [plain] at written
            cases written
          · rw [move.consultations.served] at technician
            cases technician
    have empty := coupled.unvisited none_before
    rw [move.visits.kept_of plain]
    exact empty
  · intro h mem
    rw [move.version_succ]
    rcases move.history with ⟨_, same⟩ | ⟨_, row, grown, _, _, _, version⟩
    · rw [same] at mem
      exact Nat.le_succ_of_le (coupled.recorded h mem)
    · rw [grown] at mem
      rcases List.mem_append.1 mem with old | new
      · exact Nat.le_succ_of_le (coupled.recorded h old)
      · rw [List.mem_singleton.1 new, version, ← move.version, move.version_succ]

theorem Coupled.mono {more : Nat} (coupled : Coupled limit a) (h : limit ≤ more) :
    Coupled more a :=
  ⟨coupled.desk.mono h, coupled.stands, coupled.unvisited, coupled.planned, coupled.recorded⟩

theorem Coupled.same {used : Nat} (coupled : Coupled limit a) (same : SameCase a b) :
    Coupled (limit + used) b where
  desk := same.consultations ▸ coupled.desk.mono (Nat.le_add_right _ _)
  stands := by
    rw [same.assignedUser, same.consultations, same.status]
    exact coupled.stands
  unvisited := by
    rw [same.status, same.visits]
    exact coupled.unvisited
  planned := by
    rw [same.visits]
    exact coupled.planned
  recorded := by
    rw [same.history, same.version]
    exact coupled.recorded

/-- The last consultation is changed without a transition, in place. -/
theorem Coupled.edited {used : Nat} {older : List (Stored Consultation)}
    {c row : Stored Consultation} (coupled : Coupled limit a)
    (split : a.consultations = older ++ [c]) (split' : b.consultations = older ++ [row])
    (id : row.1.id = c.1.id) (number : row.1.sequence = c.1.sequence)
    (status : b.q.status = a.q.status) (version : b.q.stateVersion = a.q.stateVersion)
    (history : b.history = a.history) (visits : b.visits = a.visits)
    (stands : Stands a.q.assignedUser (some c.1) (stage a.q.status) →
      Stands b.q.assignedUser (some row.1) (stage a.q.status)) :
    Coupled (limit + used) b where
  desk := by
    have desk := coupled.desk
    rw [split] at desk
    rw [split']
    refine ⟨(desk.numbered.change id number).mono (Nat.le_add_right _ _), ?_⟩
    have closed := desk.closed
    rw [List.dropLast_concat] at closed
    rwa [List.dropLast_concat]
  stands := by
    have stood := coupled.stands
    rw [split, lastConsultation_concat] at stood
    rw [split', lastConsultation_concat, status]
    exact stands stood
  unvisited := by
    rw [status, visits]
    exact coupled.unvisited
  planned := by
    rw [visits]
    exact coupled.planned
  recorded := by
    rw [history, version]
    exact coupled.recorded

/-- A reassigned consultation stands as before, and belongs to the new user. -/
theorem reassigned_stands {target : Nat} {before : Option Nat} (s : InquiryState)
    (unfinished : s ≠ .resolved ∧ s ≠ .cancelled)
    (running : x.status ≠ .completed ∧ x.status ≠ .cancelled)
    (stood : Stands before (some x) (stage s)) :
    Stands (some target) (some (SupervisorConsultationService.reassigned x target)) (stage s) := by
  have status : (SupervisorConsultationService.reassigned x target).status =
      if x.status = .waiting then .assigned else x.status := rfl
  cases found : stage s with
  | intake =>
      rw [found] at stood
      cases stood
  | queue =>
      rw [found] at stood
      have pending := stood x rfl
      intro c same
      cases same
      rw [status]
      split_ifs
      · rfl
      · exact pending
  | desk =>
      rw [found] at stood
      obtain ⟨c, same, started, _⟩ := stood
      cases same
      refine ⟨_, rfl, ?_, rfl⟩
      rw [status, started]
      rfl
  | done =>
      rw [found] at stood
      obtain ⟨c, same, completed⟩ := stood
      cases same
      exact absurd completed running.1
  | closed =>
      cases s <;> first | exact absurd rfl unfinished.2 | cases found

theorem Change.coupled {causes : EventCode → Plan → Prop} {used : Nat}
    (change : Change causes limit used now a b)
    (coupled : Coupled limit a) : Coupled (limit + used) b := by
  cases change with
  | moved event plan _ move room => exact move.coupled room coupled
  | reported status inquiry history consultations visits followups =>
      have stays : b.q.status = a.q.status := by rw [inquiry]; rfl
      have user : b.q.assignedUser = a.q.assignedUser := by rw [inquiry]; rfl
      have version : b.q.stateVersion = a.q.stateVersion + 1 := by rw [inquiry]; rfl
      refine ⟨?_, ?_, ?_, ?_, ?_⟩
      · rw [consultations]
        exact coupled.desk.mono (Nat.le_add_right _ _)
      · rw [user, consultations, stays]
        exact coupled.stands
      · rw [stays, visits]
        exact coupled.unvisited
      · rw [visits]
        exact coupled.planned
      · intro h mem
        rw [history] at mem
        rw [version]
        exact Nat.le_succ_of_le (coupled.recorded h mem)
  | reassigned target inquiry unfinished history consultations visits followups =>
      obtain ⟨older, c, row, split, split', same, running⟩ := consultations
      have user : b.q.assignedUser = some target := by rw [inquiry]
      refine coupled.edited split split' (by rw [same]; rfl) (by rw [same]; rfl)
        (by rw [inquiry]) (by rw [inquiry]) history visits ?_
      intro stood
      rw [user, same]
      exact reassigned_stands _ unfinished running stood
  | still same => exact coupled.same same
  | drafted inquiry history visits followups consultations =>
      obtain ⟨older, c, row, draft, split, split', _, same⟩ := consultations
      have q : b.q = a.q := congrArg Subtype.val inquiry
      refine coupled.edited split split' (by rw [same]) (by rw [same]) (by rw [q]) (by rw [q])
        history visits ?_
      intro stood
      rw [q, same]
      cases found : stage a.q.status with
      | intake =>
          rw [found] at stood
          cases stood
      | queue | closed =>
          rw [found] at stood
          intro d equal
          cases equal
          exact stood c.1 rfl
      | desk | done =>
          rw [found] at stood
          obtain ⟨d, equal, rest⟩ := stood
          cases equal
          exact ⟨_, rfl, rest⟩

end

/-! ### Every run -/

section
variable {settings : Settings} {ok : World → Action → Prop} {start w : World}
  {labels : List Event} {act : Action} {a b : Aggregate}

theorem Opened.coupled {request : Request} {q : Inquiry} {event : EventCode} {limit : Nat}
    (opened : Opened request q event b)
    (new : stage q.status = .intake ∨ stage q.status = .queue) : Coupled limit b := by
  obtain ⟨stored, row, same, recorded, rfl⟩ := opened
  subst same
  have desk : Desk limit [] := ⟨.nil, fun _ mem => absurd mem List.not_mem_nil⟩
  have stands : Stands stored.1.assignedUser none (stage stored.1.status) := by
    rcases new with intake | queue
    · rw [intake]
      rfl
    · rw [queue]
      intro c found
      cases found
  have version : row.1.stateVersion = stored.1.stateVersion := by rw [recorded]
  refine ⟨desk, stands, fun _ => rfl, fun _ mem => absurd mem List.not_mem_nil, ?_⟩
  intro h mem
  rw [List.mem_singleton.1 mem]
  exact Nat.le_of_eq version

/-- A new inquiry has no consultation yet. -/
theorem Opens.consultations (opens : Opens w act b) : b.consultations = [] := by
  cases opens with
  | start _ opened | register _ _ _ opened =>
      obtain ⟨_, _, _, _, rfl⟩ := opened
      rfl

theorem Opens.coupled {limit : Nat} (opens : Opens w act b) : Coupled limit b := by
  cases opens with
  | start _ opened => exact opened.coupled (.inl rfl)
  | @register request values subscription plan _ _ resolved _ opened =>
      obtain ⟨listed, fires, _⟩ := resolve_ok resolved
      have target : ∀ rule ∈ shipped.transitions, rule.event = .registerPhoneInquiry →
          rule.target = .consultationRequired := by decide
      refine opened.coupled (.inr ?_)
      change stage plan.rule.target = .queue
      rw [target _ listed fires]
      rfl

theorem Run.allowed (run : Run (Step settings) start labels w) :
    Run (Allowed settings fun _ _ => True) start labels w :=
  run.mono fun _ _ _ step => ⟨trivial, step⟩

theorem reachable_coupled (initial : Initial start) (run : Run (Allowed settings ok) start labels w)
    {i : Nat} (found : w.aggregate i = some a) : Coupled w.nextId a := by
  refine aggregate_invariant (P := fun limit _ a => Coupled limit a) initial ?_ ?_ ?_ run i a found
  · intro n m _ _ le coupled
    exact coupled.mono le
  · intro _ _ _ _ opens
    exact opens.coupled
  · intro _ _ _ _ _ _ _ _ _ coupled writes
    exact (writes.change coupled.desk).coupled coupled

end
end WaterCare.Runtime
