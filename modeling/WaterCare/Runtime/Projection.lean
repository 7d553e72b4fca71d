import WaterCare.Runtime.Coupling
import WaterCare.Runtime.Trace
import WaterCare.Service.Handoff

/-!
The hand-offs of an inquiry and the drafts of its consultations. A hand-off is attached to
one consultation for good, and the draft of an active consultation is the one of the newest
hand-off that no earlier consultation has.
-/

namespace WaterCare.Runtime
open Machine Workflow Store Service Py Analysis
open ConsultationHandoffRepository

/-! ### The attachment -/

/-- An attachment is refused for a newer hand-off that is attached, or it makes the hand-off
the draft. The consultation is the last one. -/
inductive Attaches (a : Aggregate) (older : List (Stored Consultation)) (c : Consultation)
    (h : ConsultationHandoff) (b : Aggregate) : Prop
  | refused (same : b = a) (newer : ∃ g ∈ a.handoffs, g.consultation = some c.id ∧
      projectionRank a h < projectionRank a g)
  | linked {row : Stored Consultation} (is : row.1 = { c with aiDraftSummary := some h.aiDraftSummary })
      (newest : ∀ g ∈ a.handoffs, g.consultation = some c.id →
        projectionRank a g ≤ projectionRank a h)
      (consultations : b.consultations = older ++ [row])
      (handoffs : b.handoffs =
        replaceRow (·.id) { h with consultation := some c.id } a.handoffs)
      (runs : b.runs = a.runs)

section
variable {limit : Nat} {a b : Aggregate} {older : List (Stored Consultation)}
  {c row : Stored Consultation} {h g : ConsultationHandoff}

/-- The rank of a hand-off is of its run, and does not depend on its consultation. -/
theorem projectionRank_of_runs (runs : b.runs = a.runs) (i : Option Nat) :
    projectionRank b { h with consultation := i } = projectionRank a h := by
  unfold projectionRank
  rw [runs]

theorem projectionRank_id (same : projectionRank a g = projectionRank a h) : g.id = h.id := by
  unfold projectionRank at same
  have second := congrArg Prod.snd (toLex.injective same)
  exact congrArg Prod.snd (toLex.injective second)

theorem attach_attaches (desk : Desk limit a.consultations)
    (split : a.consultations = older ++ [c]) (nodup : (a.handoffs.map (·.id)).Nodup)
    (there : h ∈ a.handoffs) (attached : attach a c h = .ok (b, row)) : Attaches a older c.1 h b := by
  unfold attach at attached
  dsimp only at attached
  split at attached
  · rename_i newer
    cases attached
    have ⟨g, found, later⟩ := (Option.any_eq_true _ _).1 newer
    have mem := List.mem_filter.1 (List.argmax_mem found)
    rw [Bool.and_eq_true, decide_eq_true_eq] at mem
    exact .refused rfl ⟨g, mem.1, mem.2.1, of_decide_eq_true later⟩
  · rename_i newest
    have greatest : ∀ g ∈ a.handoffs, g.consultation = some c.1.id →
        projectionRank a g ≤ projectionRank a h := by
      intro g mem own
      by_cases same : g.id = h.id
      · rw [List.inj_on_of_nodup_map nodup mem there same]
      · have listed : g ∈ a.handoffs.filter fun other =>
            decide (other.consultation = some c.1.id) && decide (other.id ≠ h.id) := by
          rw [List.mem_filter, Bool.and_eq_true, decide_eq_true_eq, decide_eq_true_eq]
          exact ⟨mem, own, same⟩
        cases found : Store.newest (projectionRank a) (a.handoffs.filter fun other =>
            decide (other.consultation = some c.1.id) && decide (other.id ≠ h.id)) with
        | none =>
          rw [List.argmax_eq_none.1 found] at listed
          cases listed
        | some x =>
          rw [found, Option.any_some, decide_eq_true_eq, not_lt] at newest
          exact le_trans (List.le_of_mem_argmax listed found) newest
    split at attached
    · rename_i same
      cases attached
      exact .linked (by rw [← same]) greatest split rfl rfl
    · have ⟨is, written⟩ := consultation_update_ok.1 attached
      subst written
      refine .linked is greatest ?_ rfl rfl
      exact desk.put row split (by rw [is])

end

/-! ### What holds of the drafts -/

/-- The draft of a consultation is of the newest hand-off it has. -/
def Drafted (a : Aggregate) : Prop :=
  ∀ c ∈ a.consultations, ∀ g ∈ a.handoffs, g.consultation = some c.1.id →
    (∀ h ∈ a.handoffs, h.consultation = some c.1.id → projectionRank a h ≤ projectionRank a g) →
    c.1.aiDraftSummary = some g.aiDraftSummary

/-- A consultation has a hand-off no older than the given one. -/
def Outranked (a : Aggregate) (c : Consultation) (h : ConsultationHandoff) : Prop :=
  ∃ g ∈ a.handoffs, g.consultation = some c.id ∧ projectionRank a h ≤ projectionRank a g

/-- The rows of the hand-offs: each has a number of its own and is attached to a consultation
of the inquiry, if to any. -/
structure Linked (limit : Nat) (a : Aggregate) : Prop where
  nodup : (a.handoffs.map (·.id)).Nodup
  below : ∀ h ∈ a.handoffs, h.id < limit
  linked : ∀ h ∈ a.handoffs, ∀ i, h.consultation = some i →
    isProjectionEligible h = true ∧ ∃ c ∈ a.consultations, c.1.id = i

/-- The drafts are of the newest hand-offs: an active consultation has one no older than each
that it could have. -/
structure Projected (limit : Nat) (a : Aggregate) : Prop where
  desk : Desk limit a.consultations
  rows : Linked limit a
  drafted : Drafted a
  outranked : ∀ c ∈ a.consultations, c.1.status.isActive = true → ∀ h ∈ a.handoffs,
    isCandidate c h = true → Outranked a c.1 h

section
variable {limit more : Nat} {a b : Aggregate} {older : List (Stored Consultation)}
  {c row : Stored Consultation} {h g : ConsultationHandoff}

theorem isCandidate_iff : isCandidate c h = true ↔
    (h.consultation = none ∨ h.consultation = some c.1.id) ∧ isProjectionEligible h = true := by
  unfold isCandidate
  rw [Bool.and_eq_true, Bool.or_eq_true, Option.isNone_iff_eq_none, decide_eq_true_eq]

theorem Desk.change_last (desk : Desk limit (older ++ [c])) (id : row.1.id = c.1.id)
    (sequence : row.1.sequence = c.1.sequence) : Desk limit (older ++ [row]) := by
  refine ⟨desk.numbered.change id sequence, ?_⟩
  have closed := desk.closed
  rw [List.dropLast_concat] at closed
  rwa [List.dropLast_concat]

theorem Desk.last_of_active (desk : Desk limit (older ++ [c])) {d : Stored Consultation}
    (mem : d ∈ older ++ [c]) (active : d.1.status.isActive = true) : d = c := by
  have ⟨older', split⟩ := desk.active_last mem active
  exact (List.singleton_inj.1 (List.append_inj_right' split rfl)).symm

/-- An attachment of a candidate leaves the last consultation with the newest hand-off. -/
theorem Projected.attach (desk : Desk limit a.consultations) (rows : Linked limit a)
    (drafted : Drafted a) (split : a.consultations = older ++ [c]) (there : h ∈ a.handoffs)
    (candidate : isCandidate c h = true)
    (covers : ∀ x ∈ a.handoffs, isCandidate c x = true →
      projectionRank a x ≤ projectionRank a h ∨ Outranked a c.1 x)
    (attached : ConsultationHandoffRepository.attach a c h = .ok (b, row)) : Projected limit b := by
  have whole := desk
  rw [split] at whole
  cases attach_attaches desk split rows.nodup there attached with
  | refused same newer =>
    rw [same]
    refine ⟨desk, rows, drafted, fun d mem active x listed could => ?_⟩
    rw [whole.last_of_active (split ▸ mem) active] at could ⊢
    cases covers x listed could with
    | inr outranked => exact outranked
    | inl below =>
      have ⟨g, mem, own, above⟩ := newer
      exact ⟨g, mem, own, le_trans below (le_of_lt above)⟩
  | @linked row is newest consultations handoffs runs =>
    have own : row.1.id = c.1.id := by rw [is]
    have ⟨free, eligible⟩ := isCandidate_iff.1 candidate
    have rank (x : ConsultationHandoff) : projectionRank b x = projectionRank a x :=
      projectionRank_of_runs runs x.consultation
    have apart : ∀ d ∈ older, d.1.id ≠ c.1.id := fun d mem same =>
      (whole.numbered.older_of_concat).2.2 (same ▸ List.mem_map_of_mem mem)
    have linked : { h with consultation := some c.1.id } ∈ b.handoffs := by
      rw [handoffs]
      exact mem_replaceRow_self there rfl
    have kept {x : ConsultationHandoff} (mem : x ∈ a.handoffs) (other : x.id ≠ h.id) :
        x ∈ b.handoffs := by
      rw [handoffs]
      exact mem_replaceRow_other mem other
    have member {x : ConsultationHandoff} (mem : x ∈ b.handoffs) :
        x ∈ a.handoffs ∧ x.id ≠ h.id ∨ x = { h with consultation := some c.1.id } := by
      rw [handoffs] at mem
      exact mem_replaceRow_cases mem
    have above {x : ConsultationHandoff} (outranked : Outranked a c.1 x) : Outranked b row.1 x := by
      have ⟨g, mem, attached, above⟩ := outranked
      by_cases same : g.id = h.id
      · rw [List.inj_on_of_nodup_map rows.nodup mem there same] at above
        refine ⟨_, linked, by rw [own], ?_⟩
        rw [rank, projectionRank_of_runs runs]
        exact above
      · refine ⟨g, kept mem same, own ▸ attached, ?_⟩
        rw [rank, rank]
        exact above
    refine ⟨?_, ⟨?_, fun x mem => ?_, fun x mem i attached => ?_⟩,
      fun d mem g listed attached greatest => ?_, fun d mem active x listed could => ?_⟩
    · rw [consultations]
      exact whole.change_last own (by rw [is])
    · rw [handoffs, map_replaceRow]
      exact rows.nodup
    · cases member mem with
      | inl old => exact rows.below x old.1
      | inr new => rw [new]; exact rows.below h there
    · rw [consultations]
      cases member mem with
      | inl old =>
        have ⟨eligible, d, listed, named⟩ := rows.linked x old.1 i attached
        rw [split] at listed
        refine ⟨eligible, ?_⟩
        cases List.mem_append.1 listed with
        | inl before => exact ⟨d, List.mem_append_left _ before, named⟩
        | inr last =>
          refine ⟨row, List.mem_append_right _ (List.mem_singleton_self row), own.trans ?_⟩
          rw [← List.mem_singleton.1 last, named]
      | inr new =>
        rw [new] at attached ⊢
        refine ⟨eligible, row, List.mem_append_right _ (List.mem_singleton_self row), own.trans ?_⟩
        exact Option.some.inj attached
    · rw [consultations] at mem
      cases List.mem_append.1 mem with
      | inl before =>
        have other {x : ConsultationHandoff} (mem : x ∈ a.handoffs)
            (attached : x.consultation = some d.1.id) : x.id ≠ h.id := by
          intro same
          rw [List.inj_on_of_nodup_map rows.nodup mem there same] at attached
          rw [attached] at free
          cases free with
          | inl none_free => cases none_free
          | inr same => exact apart d before (Option.some.inj same)
        cases member listed with
        | inr new =>
          rw [new] at attached
          exact absurd (Option.some.inj attached).symm (apart d before)
        | inl old =>
          refine drafted d (split ▸ List.mem_append_left _ before) g old.1 attached ?_
          intro x mem attached'
          have below := greatest x (kept mem (other mem attached')) attached'
          rwa [rank, rank] at below
      | inr last =>
        rw [List.mem_singleton.1 last] at attached greatest ⊢
        cases member listed with
        | inr new => rw [new, is]
        | inl old =>
          have first := newest g old.1 (own ▸ attached)
          have second := greatest _ linked (by rw [own])
          rw [rank, rank, projectionRank_of_runs rfl] at second
          exact absurd (projectionRank_id (le_antisymm first second)) old.2
    · rw [consultations] at mem
      have final : d = row := by
        have changed : Desk limit (older ++ [row]) := whole.change_last own (by rw [is])
        exact changed.last_of_active mem active
      rw [final] at could ⊢
      cases member listed with
      | inr new =>
        rw [new]
        exact ⟨_, linked, by rw [own], le_refl _⟩
      | inl old =>
        have could' : isCandidate c x = true := by
          rw [isCandidate_iff] at could ⊢
          rw [← own]
          exact could
        cases covers x old.1 could' with
        | inr outranked => exact above outranked
        | inl below =>
          refine ⟨_, linked, by rw [own], ?_⟩
          rw [rank, projectionRank_of_runs runs]
          exact below

/-- A delivered hand-off is attached to the active consultation, if it may be. -/
theorem Projected.attachHandoff (desk : Desk limit a.consultations) (rows : Linked limit a)
    (drafted : Drafted a) (there : h ∈ a.handoffs)
    (others : ∀ c ∈ a.consultations, c.1.status.isActive = true → ∀ x ∈ a.handoffs, x ≠ h →
      isCandidate c x = true → Outranked a c.1 x)
    (attached : ConsultationHandoffRepository.attachHandoff a h = .ok b) : Projected limit b := by
  unfold ConsultationHandoffRepository.attachHandoff at attached
  split at attached
  · rename_i inactive
    cases attached
    have none_active := List.filter_eq_nil_iff.1 (List.argmax_eq_none.1 inactive)
    exact ⟨desk, rows, drafted, fun c mem active => absurd active (none_active c mem)⟩
  · rename_i c found
    have ⟨mem, active⟩ := List.mem_filter.1 (List.argmax_mem found)
    have ⟨older, split⟩ := desk.active_last mem active
    split at attached
    · rename_i candidate
      have ⟨⟨b', row⟩, linked, same⟩ := map_eq_ok.1 attached
      subst same
      refine Projected.attach desk rows drafted split there candidate ?_ linked
      intro x listed could
      by_cases own : x = h
      · rw [own]
        exact .inl (le_refl _)
      · exact .inr (others c mem active x listed own could)
    · rename_i refused
      cases attached
      refine ⟨desk, rows, drafted, fun d mem active x listed could => ?_⟩
      by_cases own : x = h
      · have whole := desk
        rw [split] at whole
        rw [whole.last_of_active (split ▸ mem) active, own] at could
        exact absurd could refused
      · exact others d mem active x listed own could

/-- A consultation that is opened has the newest hand-off it could have. -/
theorem Projected.attachToLatest (desk : Desk limit a.consultations) (rows : Linked limit a)
    (drafted : Drafted a) (split : a.consultations = older ++ [c])
    (attached : attachToLatestConsultation a c = .ok (b, row)) : Projected limit b := by
  unfold attachToLatestConsultation at attached
  split at attached
  · rename_i unclaimed
    cases attached
    have none_could := List.filter_eq_nil_iff.1 (List.argmax_eq_none.1 unclaimed)
    have whole := desk
    rw [split] at whole
    refine ⟨desk, rows, drafted, fun d mem active x listed could => ?_⟩
    rw [whole.last_of_active (split ▸ mem) active] at could
    exact absurd could (none_could x listed)
  · rename_i h found
    have ⟨there, candidate⟩ := List.mem_filter.1 (List.argmax_mem found)
    refine Projected.attach desk rows drafted split there candidate ?_ attached
    intro x listed could
    exact .inl (List.le_of_mem_argmax (List.mem_filter.2 ⟨listed, could⟩) found)

/-- A consultation is the one it was, active only if it was, with the same draft. -/
structure Followed (x y : Stored Consultation) : Prop where
  id : y.1.id = x.1.id
  sequence : y.1.sequence = x.1.sequence
  draft : y.1.aiDraftSummary = x.1.aiDraftSummary
  active : y.1.status.isActive = true → x.1.status.isActive = true

theorem Followed.refl (x : Stored Consultation) : Followed x x :=
  ⟨rfl, rfl, rfl, fun active => active⟩

theorem Desk.followed {cs cs' : List (Stored Consultation)} (desk : Desk limit cs)
    (followed : List.Forall₂ Followed cs cs') : Desk limit cs' := by
  have same {β : Type} {f : Stored Consultation → β}
      (keeps : ∀ x y, Followed x y → f x = f y) : cs'.map f = cs.map f := by
    have mapped := List.forall₂_eq_eq_eq ▸
      List.forall₂_map_left_iff.2 (List.forall₂_map_right_iff.2 (followed.imp keeps))
    exact Eq.symm mapped
  refine ⟨⟨?_, ?_, fun y mem => ?_⟩, fun y mem => ?_⟩
  · rw [same fun x y follows => follows.sequence.symm, desk.numbered.numbers, followed.length_eq]
  · rw [same fun x y follows => follows.id.symm]
    exact desk.numbered.nodup
  · have ⟨x, there, follows⟩ := forall₂_mem followed mem
    rw [follows.id]
    exact desk.numbered.below x there
  · rw [List.dropLast_eq_take, ← followed.length_eq] at mem
    have ⟨x, there, follows⟩ := forall₂_mem (List.forall₂_take _ followed) mem
    rw [← List.dropLast_eq_take] at there
    have closed := desk.closed x there
    by_contra active
    rw [follows.active (Bool.eq_true_of_not_eq_false active)] at closed
    cases closed

theorem Projected.followed (projected : Projected limit a) (room : limit ≤ more)
    (handoffs : b.handoffs = a.handoffs)
    (ranks : ∀ h ∈ a.handoffs, projectionRank b h = projectionRank a h)
    (followed : List.Forall₂ Followed a.consultations b.consultations) : Projected more b := by
  have source {y : Stored Consultation} (mem : y ∈ b.consultations) := forall₂_mem followed mem
  refine ⟨(projected.desk.followed followed).mono room, ⟨?_, fun h mem => ?_, fun h mem i own => ?_⟩,
    fun y mem g listed own greatest => ?_, fun y mem active h listed could => ?_⟩
  · rw [handoffs]
    exact projected.rows.nodup
  · rw [handoffs] at mem
    exact Nat.lt_of_lt_of_le (projected.rows.below h mem) room
  · rw [handoffs] at mem
    have ⟨eligible, c, there, named⟩ := projected.rows.linked h mem i own
    have ⟨y, there', follows⟩ := forall₂_mem followed.flip there
    exact ⟨eligible, y, there', follows.id.trans named⟩
  · have ⟨x, there, follows⟩ := source mem
    rw [handoffs] at listed
    rw [follows.draft]
    rw [follows.id] at own
    refine projected.drafted x there g listed own fun h mem own' => ?_
    have below := greatest h (handoffs ▸ mem) (follows.id.symm ▸ own')
    rwa [ranks h mem, ranks g listed] at below
  · have ⟨x, there, follows⟩ := source mem
    rw [handoffs] at listed
    have could' : isCandidate x h = true := by
      rw [isCandidate_iff] at could ⊢
      rw [← follows.id]
      exact could
    have ⟨g, mem', own, above⟩ := projected.outranked x there (follows.active active) h listed could'
    refine ⟨g, handoffs ▸ mem', follows.id.symm ▸ own, ?_⟩
    rw [ranks h listed, ranks g mem']
    exact above

end

/-! ### The hand-offs stay -/

/-- A hand-off is as it was, but for a consultation it had not. -/
structure Kept (h h' : ConsultationHandoff) : Prop where
  same : h' = { h with consultation := h'.consultation }
  stays : ∀ i, h.consultation = some i → h'.consultation = some i

theorem Kept.refl (h : ConsultationHandoff) : Kept h h := ⟨rfl, fun _ own => own⟩

theorem Kept.trans {f g h : ConsultationHandoff} (first : Kept f g) (second : Kept g h) :
    Kept f h := by
  refine ⟨?_, fun i own => second.stays i (first.stays i own)⟩
  rw [second.same, first.same]

section
variable {a b : Aggregate} {c row : Stored Consultation} {h : ConsultationHandoff}

theorem attach_kept (nodup : (a.handoffs.map (·.id)).Nodup) (there : h ∈ a.handoffs)
    (candidate : isCandidate c h = true)
    (attached : ConsultationHandoffRepository.attach a c h = .ok (b, row)) :
    List.Forall₂ Kept a.handoffs b.handoffs := by
  have linked : List.Forall₂ Kept a.handoffs
      (replaceRow (·.id) { h with consultation := some c.1.id } a.handoffs) := by
    unfold replaceRow
    rw [List.forall₂_map_right_iff, List.forall₂_same]
    intro x mem
    by_cases own : x.id = h.id
    · rw [if_pos own, List.inj_on_of_nodup_map nodup mem there own]
      refine ⟨rfl, fun i held => ?_⟩
      have free := (isCandidate_iff.1 candidate).1
      rw [held] at free
      cases free with
      | inl none_held => cases none_held
      | inr same => exact same.symm
    · rw [if_neg own]
      exact .refl x
  unfold ConsultationHandoffRepository.attach at attached
  dsimp only at attached
  split at attached
  · cases attached
    exact List.forall₂_same.2 fun x _ => .refl x
  · split at attached
    · cases attached
      exact linked
    · have ⟨_, written⟩ := consultation_update_ok.1 attached
      rw [written]
      exact linked

theorem attachHandoff_kept (nodup : (a.handoffs.map (·.id)).Nodup) (there : h ∈ a.handoffs)
    (attached : ConsultationHandoffRepository.attachHandoff a h = .ok b) :
    List.Forall₂ Kept a.handoffs b.handoffs := by
  have still : List.Forall₂ Kept a.handoffs a.handoffs := List.forall₂_same.2 fun x _ => .refl x
  unfold ConsultationHandoffRepository.attachHandoff at attached
  split at attached
  · cases attached
    exact still
  · split at attached
    · rename_i candidate
      have ⟨⟨b', row⟩, linked, same⟩ := map_eq_ok.1 attached
      subst same
      exact attach_kept nodup there candidate linked
    · cases attached
      exact still

theorem attachToLatest_kept (nodup : (a.handoffs.map (·.id)).Nodup)
    (attached : attachToLatestConsultation a c = .ok (b, row)) :
    List.Forall₂ Kept a.handoffs b.handoffs := by
  unfold attachToLatestConsultation at attached
  split at attached
  · cases attached
    exact List.forall₂_same.2 fun x _ => .refl x
  · rename_i h found
    have ⟨there, candidate⟩ := List.mem_filter.1 (List.argmax_mem found)
    exact attach_kept nodup there candidate attached

end

/-! ### The steps -/

/-- What happens to the hand-offs and the consultations of an inquiry. -/
inductive Handling
  | delivery (payload : HandoffPayload)
  | creation
  | completion
  | other

/-- A hand-off is delivered; a consultation is asked for and takes its hand-off; the last one
is completed; or something else happens, which leaves the drafts and the ranks. -/
inductive Handles (inquiry : Nat) (w : World) : Handling → World → Prop
  | delivered {t : World} {payload : HandoffPayload} {idempotencyKey : String}
      {correlationId : Uuid} {checkEvidence : AIRun → Except Failure Unit} {now : Instant}
      (persists : ConsultationHandoffService.persist w inquiry payload idempotencyKey correlationId
        checkEvidence now = .ok t) :
      Handles inquiry w (.delivery payload) t
  | created {a requested attached : Aggregate} {c final : Stored Consultation} {stamp : Stamp}
      {now : Instant} (found : w.aggregate inquiry = some a)
      (requests : ConsultationRepository.request w.directory a stamp
        (ConsultationRepository.lockLatest a) w.nextId now = .ok (requested, c))
      (attaches : attachToLatestConsultation requested c = .ok (attached, final)) :
      Handles inquiry w .creation { w.put inquiry attached with nextId := w.nextId + 1 }
  | completed {a b : Aggregate} {c row : Stored Consultation} {stamp : Stamp} {now : Instant}
      (found : w.aggregate inquiry = some a)
      (latest : ConsultationRepository.lockLatest a = some c)
      (completes : ConsultationRepository.complete a c stamp now = .ok (b, row)) :
      Handles inquiry w .completion (w.put inquiry b)
  | other {t : World} {a b : Aggregate} (found : w.aggregate inquiry = some a)
      (after : t.aggregate inquiry = some b) (room : w.nextId ≤ t.nextId)
      (handoffs : b.handoffs = a.handoffs)
      (ranks : ∀ h ∈ a.handoffs, projectionRank b h = projectionRank a h)
      (followed : List.Forall₂ Followed a.consultations b.consultations) :
      Handles inquiry w .other t

/-- A row holds what was delivered. -/
structure OfPayload (payload : HandoffPayload) (h : ConsultationHandoff) : Prop where
  aiRequestId : h.aiRequestId = payload.aiRequestId
  schemaVersion : h.schemaVersion = payload.schemaVersion
  routingReason : h.routingReason = payload.routingReason
  payloadStateVersion : h.payloadStateVersion = payload.stateVersion
  payloadSha256 : h.payloadSha256 = payload.payloadSha256
  aiDraftSummary : h.aiDraftSummary = payload.aiDraftSummary

/-- The hand-offs after a step: the older ones stay, and a delivery has its row. -/
structure Grows (handling : Handling) (a b : Aggregate) : Prop where
  kept : ∀ h ∈ a.handoffs, ∃ h' ∈ b.handoffs, Kept h h'
  sources : ∀ h' ∈ b.handoffs, (∃ h ∈ a.handoffs, Kept h h') ∨
    ∃ payload, handling = .delivery payload ∧ OfPayload payload h'
  stored : ∀ payload, handling = .delivery payload → ∃ h' ∈ b.handoffs,
    h'.aiRequestId = payload.aiRequestId ∧ h'.payloadSha256 = payload.payloadSha256

section
variable {w t : World} {inquiry limit : Nat} {handling : Handling} {a b : Aggregate}
  {payload : HandoffPayload}

theorem Kept.ofPayload {h h' : ConsultationHandoff} (kept : Kept h h')
    (of : OfPayload payload h) : OfPayload payload h' := by
  rw [kept.same]
  exact ⟨of.aiRequestId, of.schemaVersion, of.routingReason, of.payloadStateVersion,
    of.payloadSha256, of.aiDraftSummary⟩

theorem Grows.of_kept (kept : List.Forall₂ Kept a.handoffs b.handoffs)
    (stored : ∀ payload, handling = .delivery payload → ∃ h ∈ a.handoffs,
      h.aiRequestId = payload.aiRequestId ∧ h.payloadSha256 = payload.payloadSha256) :
    Grows handling a b := by
  have onward {h : ConsultationHandoff} (mem : h ∈ a.handoffs) : ∃ h' ∈ b.handoffs, Kept h h' :=
    forall₂_mem kept.flip mem
  refine ⟨fun h mem => onward mem, fun h' mem => .inl (forall₂_mem kept mem), fun payload is => ?_⟩
  have ⟨h, mem, request, same⟩ := stored payload is
  have ⟨h', mem', stays⟩ := onward mem
  refine ⟨h', mem', ?_, ?_⟩
  · rw [stays.same]
    exact request
  · rw [stays.same]
    exact same

theorem Projected.delivers {now : Instant} (projected : Projected w.nextId a)
    (found : w.aggregate inquiry = some a) (delivers : Delivers w inquiry payload now a t) :
    ∃ b, t.aggregate inquiry = some b ∧ Projected t.nextId b ∧ Grows (.delivery payload) a b := by
  have stored {h : ConsultationHandoff} (mem : h ∈ a.handoffs)
      (request : h.aiRequestId = payload.aiRequestId)
      (same : h.payloadSha256 = payload.payloadSha256) (other : HandoffPayload)
      (is : Handling.delivery payload = .delivery other) : ∃ h ∈ a.handoffs,
        h.aiRequestId = other.aiRequestId ∧ h.payloadSha256 = other.payloadSha256 := by
    cases is
    exact ⟨h, mem, request, same⟩
  cases delivers with
  | replayed mem request same still =>
    rw [still]
    exact ⟨a, found, projected, .of_kept (List.forall₂_same.2 fun x _ => .refl x)
      (stored mem request same)⟩
  | @attached h b mem request same attached written =>
    rw [written]
    refine ⟨b, World.aggregate_put .., ?_, .of_kept (attachHandoff_kept projected.rows.nodup mem
      attached) (stored mem request same)⟩
    exact Projected.attachHandoff projected.desk projected.rows projected.drafted mem
      (fun c there active x listed _ could => projected.outranked c there active x listed could)
      attached
  | @created run h b row attached written =>
    have number : h.id = w.nextId := by rw [row]; rfl
    have free : h.consultation = none := by rw [row]; rfl
    have room : w.nextId ≤ w.nextId + 1 := Nat.le_succ _
    have member {x : ConsultationHandoff} (mem : x ∈ a.handoffs ++ [h]) : x ∈ a.handoffs ∨ x = h :=
      (List.mem_append.1 mem).imp_right List.mem_singleton.1
    have old {x : ConsultationHandoff} (mem : x ∈ a.handoffs) : x ∈ a.handoffs ++ [h] :=
      List.mem_append_left _ mem
    have new : h ∈ a.handoffs ++ [h] := List.mem_append_right _ (List.mem_singleton_self h)
    have rows : Linked (w.nextId + 1) { a with handoffs := a.handoffs ++ [h] } := by
      refine ⟨?_, fun x mem => ?_, fun x mem i own => ?_⟩
      · rw [List.map_append, List.nodup_append]
        refine ⟨projected.rows.nodup, List.nodup_singleton _, fun i listed j last same => ?_⟩
        have ⟨x, mem, is⟩ := List.mem_map.1 listed
        have below := projected.rows.below x mem
        rw [List.map_singleton, List.mem_singleton] at last
        omega
      · cases member mem with
        | inl there => exact Nat.lt_succ_of_lt (projected.rows.below x there)
        | inr is => rw [is, number]; exact Nat.lt_succ_self _
      · cases member mem with
        | inl there => exact projected.rows.linked x there i own
        | inr is => rw [is, free] at own; cases own
    have drafted : Drafted { a with handoffs := a.handoffs ++ [h] } := by
      intro c mem g listed own greatest
      cases member listed with
      | inl there =>
        exact projected.drafted c mem g there own fun x mem' own' => greatest x (old mem') own'
      | inr is => rw [is, free] at own; cases own
    have kept := attachHandoff_kept rows.nodup new attached
    have desk := projected.desk.mono room
    have others : ∀ c ∈ a.consultations, c.1.status.isActive = true →
        ∀ x ∈ a.handoffs ++ [h], x ≠ h → isCandidate c x = true →
          Outranked { a with handoffs := a.handoffs ++ [h] } c.1 x := by
      intro c mem active x listed differs could
      cases member listed with
      | inr is => exact absurd is differs
      | inl there =>
        have ⟨g, mem', own, above⟩ := projected.outranked c mem active x there could
        exact ⟨g, old mem', own, above⟩
    have ready : Projected (w.nextId + 1) b :=
      Projected.attachHandoff (a := { a with handoffs := a.handoffs ++ [h] }) desk rows drafted new
        others attached
    rw [written]
    refine ⟨b, World.aggregate_put .., ready, fun x mem => ?_, fun x' mem => ?_, fun other is => ?_⟩
    · exact forall₂_mem kept.flip (old mem)
    · have ⟨x, mem', stays⟩ := forall₂_mem kept mem
      cases member mem' with
      | inl there => exact .inl ⟨x, there, stays⟩
      | inr is =>
        refine .inr ⟨payload, rfl, stays.ofPayload ?_⟩
        rw [is, row]
        exact ⟨rfl, rfl, rfl, rfl, rfl, rfl⟩
    · cases is
      have ⟨x', mem, stays⟩ := forall₂_mem kept.flip new
      refine ⟨x', mem, ?_, ?_⟩
      · rw [stays.same, row]
        rfl
      · rw [stays.same, row]
        rfl

theorem Projected.creates {requested attached : Aggregate} {c final : Stored Consultation}
    {d : Directory} {stamp : Stamp} {now : Instant} (projected : Projected limit a)
    (requests : ConsultationRepository.request d a stamp (ConsultationRepository.lockLatest a)
      limit now = .ok (requested, c))
    (attaches : attachToLatestConsultation requested c = .ok (attached, final)) :
    Projected (limit + 1) attached ∧ List.Forall₂ Kept a.handoffs attached.handoffs := by
  have room : limit ≤ limit + 1 := Nat.le_succ _
  cases request_ok requests with
  | inl refreshed =>
    have ⟨old, latest, _, is, written⟩ := refreshed
    subst written
    have ⟨older, split⟩ := projected.desk.latest_some latest
    have put := projected.desk.put c split (by rw [is]; rfl)
    have ready : Projected (limit + 1) (a.putConsultation c) := by
      refine projected.followed room rfl (fun _ _ => rfl) ?_
      rw [put, split]
      refine List.rel_append (List.forall₂_same.2 fun x _ => Followed.refl x) (.cons ?_ .nil)
      refine ⟨by rw [is]; rfl, by rw [is]; rfl, by rw [is]; rfl, fun active => ?_⟩
      rw [is] at active
      exact active
    exact ⟨Projected.attachToLatest ready.desk ready.rows ready.drafted put attaches,
      attachToLatest_kept (a := a.putConsultation c) projected.rows.nodup attaches⟩
  | inr opened =>
    have ⟨isSynthetic, closed, is, written⟩ := opened
    subst written
    have number : c.1.id = limit := by rw [is]; rfl
    have consulted : Consulted none now limit (some .requestConsultation) a.consultations
        (a.consultations ++ [c]) := by
      refine .added rfl ?_
      rw [is, projected.desk.lastSequence_eq]
      exact Added.waiting stamp none isSynthetic rfl (projected.desk.getLast closed)
    have desk : Desk (limit + 1) (a.consultations ++ [c]) :=
      projected.desk.consulted consulted (.inl (Nat.le_refl 1)) nofun
    have rows : Linked (limit + 1) { a with consultations := a.consultations ++ [c] } := by
      refine ⟨projected.rows.nodup, fun h mem => Nat.lt_succ_of_lt (projected.rows.below h mem),
        fun h mem i own => ?_⟩
      have ⟨eligible, x, there, named⟩ := projected.rows.linked h mem i own
      exact ⟨eligible, x, List.mem_append_left _ there, named⟩
    have drafted : Drafted { a with consultations := a.consultations ++ [c] } := by
      intro x mem g listed own greatest
      cases List.mem_append.1 mem with
      | inl there => exact projected.drafted x there g listed own greatest
      | inr new =>
        rw [List.mem_singleton.1 new, number] at own
        have ⟨_, y, there, named⟩ := projected.rows.linked g listed limit own
        exact absurd named (Nat.ne_of_lt (projected.desk.numbered.below y there))
    exact ⟨Projected.attachToLatest desk rows drafted rfl attaches,
      attachToLatest_kept (a := { a with consultations := a.consultations ++ [c] })
        projected.rows.nodup attaches⟩

/-- Every step keeps the drafts the newest, and its hand-offs stay. -/
theorem Handles.projected (projected : Projected w.nextId a) (found : w.aggregate inquiry = some a)
    (step : Handles inquiry w handling t) :
    ∃ b, t.aggregate inquiry = some b ∧ Projected t.nextId b ∧ Grows handling a b := by
  cases step with
  | delivered persists =>
    have ⟨a', found', delivers⟩ := persist_delivers persists
    have same : a' = a := Option.some.inj (found'.symm.trans found)
    rw [same] at delivers
    exact projected.delivers found delivers
  | @created a' requested attached c final stamp now found' requests attaches =>
    have same : a' = a := Option.some.inj (found'.symm.trans found)
    subst same
    have ⟨ready, kept⟩ := projected.creates requests attaches
    exact ⟨attached, World.aggregate_put .., ready, .of_kept kept nofun⟩
  | @completed a' b c row stamp now found' latest completes =>
    have same : a' = a := Option.some.inj (found'.symm.trans found)
    subst same
    have ⟨is, written⟩ := consultation_update_ok.1 completes
    subst written
    have ⟨older, split⟩ := projected.desk.latest_some latest
    have put := projected.desk.put row split (by rw [is]; rfl)
    refine ⟨a'.putConsultation row, World.aggregate_put .., ?_,
      .of_kept (List.forall₂_same.2 fun x _ => .refl x) nofun⟩
    refine projected.followed (Nat.le_refl _) rfl (fun _ _ => rfl) ?_
    rw [put, split]
    refine List.rel_append (List.forall₂_same.2 fun x _ => Followed.refl x) (.cons ?_ .nil)
    refine ⟨by rw [is]; rfl, by rw [is]; rfl, by rw [is]; rfl, fun active => ?_⟩
    rw [is] at active
    cases active
  | @other t a' b found' after room handoffs ranks followed =>
    have same : a' = a := Option.some.inj (found'.symm.trans found)
    subst same
    refine ⟨b, after, projected.followed room handoffs ranks followed, .of_kept ?_ nofun⟩
    rw [handoffs]
    exact List.forall₂_same.2 fun x _ => .refl x

end

/-! ### Every run -/

/-- The inquiry is there, and has no hand-off and no consultation yet. -/
def Unhandled (inquiry : Nat) (w : World) : Prop :=
  ∃ a, w.aggregate inquiry = some a ∧ a.handoffs = [] ∧ a.consultations = []

/-- The hand-offs are the delivered ones. -/
structure Delivered (labels : List Handling) (a : Aggregate) : Prop where
  stored : ∀ payload, .delivery payload ∈ labels → ∃ h ∈ a.handoffs,
    h.aiRequestId = payload.aiRequestId ∧ h.payloadSha256 = payload.payloadSha256
  sources : ∀ h ∈ a.handoffs, ∃ payload, .delivery payload ∈ labels ∧ OfPayload payload h

/-- The hand-off has the greatest rank of those that meet the condition. -/
def IsNewest (a : Aggregate) (meets : ConsultationHandoff → Bool) (g : ConsultationHandoff) : Prop :=
  g ∈ a.handoffs ∧ meets g = true ∧
    ∀ h ∈ a.handoffs, meets h = true → projectionRank a h ≤ projectionRank a g

section
variable {start w s : World} {inquiry limit : Nat} {labels after : List Handling}
  {handling : Handling} {a b : Aggregate} {c : Stored Consultation} {g : ConsultationHandoff}

theorem Unhandled.projected (unhandled : Unhandled inquiry start) :
    ∃ a, start.aggregate inquiry = some a ∧ Projected start.nextId a ∧ Delivered [] a := by
  have ⟨a, found, handoffs, consultations⟩ := unhandled
  have unsent {h : ConsultationHandoff} : h ∉ a.handoffs := by
    rw [handoffs]
    exact List.not_mem_nil
  have unopened {c : Stored Consultation} : c ∉ a.consultations := by
    rw [consultations]
    exact List.not_mem_nil
  have desk : Desk start.nextId a.consultations := by
    rw [consultations]
    exact ⟨.nil, fun c mem => absurd mem List.not_mem_nil⟩
  have nodup : (a.handoffs.map (·.id)).Nodup := by
    rw [handoffs]
    exact List.nodup_nil
  refine ⟨a, found, ⟨desk, ⟨nodup, fun h mem => absurd mem unsent, fun h mem => absurd mem unsent⟩,
    fun c mem => absurd mem unopened, fun c mem => absurd mem unopened⟩,
    fun payload mem => absurd mem List.not_mem_nil, fun h mem => absurd mem unsent⟩

theorem Delivered.grows (delivered : Delivered labels a) (grows : Grows handling a b) :
    Delivered (labels ++ [handling]) b := by
  refine ⟨fun payload mem => ?_, fun h' mem => ?_⟩
  · cases List.mem_append.1 mem with
    | inl old =>
      have ⟨h, there, request, same⟩ := delivered.stored payload old
      have ⟨h', there', kept⟩ := grows.kept h there
      refine ⟨h', there', ?_, ?_⟩
      · rw [kept.same]
        exact request
      · rw [kept.same]
        exact same
    | inr new => exact grows.stored payload (List.mem_singleton.1 new).symm
  · cases grows.sources h' mem with
    | inl old =>
      have ⟨h, there, kept⟩ := old
      have ⟨payload, sent, of⟩ := delivered.sources h there
      exact ⟨payload, List.mem_append_left _ sent, kept.ofPayload of⟩
    | inr new =>
      have ⟨payload, is, of⟩ := new
      exact ⟨payload, List.mem_append_right _ (List.mem_singleton.2 is.symm), of⟩

theorem run_projected (unhandled : Unhandled inquiry start)
    (run : Run (Handles inquiry) start labels w) :
    ∃ a, w.aggregate inquiry = some a ∧ Projected w.nextId a ∧ Delivered labels a := by
  induction run with
  | refl => exact unhandled.projected
  | snoc _ last ih =>
    have ⟨a, found, projected, delivered⟩ := ih
    have ⟨b, found', projected', grows⟩ := last.projected projected found
    exact ⟨b, found', projected', delivered.grows grows⟩

/-- The hand-offs of a run stay, each with the consultation it has. -/
theorem run_kept (unhandled : Unhandled inquiry start) (run : Run (Handles inquiry) start labels s)
    (rest : Run (Handles inquiry) s after w) (found : s.aggregate inquiry = some b) :
    ∃ a, w.aggregate inquiry = some a ∧ ∀ h ∈ b.handoffs, ∃ h' ∈ a.handoffs, Kept h h' := by
  induction rest with
  | refl => exact ⟨b, found, fun h mem => ⟨h, mem, .refl h⟩⟩
  | snoc earlier last ih =>
    have ⟨a, found', kept⟩ := ih
    have ⟨a', found'', projected, _⟩ := run_projected unhandled (run.trans earlier)
    have same : a' = a := Option.some.inj (found''.symm.trans found')
    have ⟨d, final, _, grows⟩ := last.projected (same ▸ projected) found'
    refine ⟨d, final, fun h mem => ?_⟩
    have ⟨h', mem', first⟩ := kept h mem
    have ⟨h'', mem'', second⟩ := grows.kept h' mem'
    exact ⟨h'', mem'', first.trans second⟩

/-- The newest candidate of an active consultation is attached to it. -/
theorem Projected.newest (projected : Projected limit a) (mem : c ∈ a.consultations)
    (active : c.1.status.isActive = true) (newest : IsNewest a (isCandidate c) g) :
    g.consultation = some c.1.id ∧ c.1.aiDraftSummary = some g.aiDraftSummary := by
  have ⟨there, could, greatest⟩ := newest
  have attached_below {x : ConsultationHandoff} (mem' : x ∈ a.handoffs)
      (own : x.consultation = some c.1.id) : projectionRank a x ≤ projectionRank a g := by
    refine greatest x mem' (isCandidate_iff.2 ⟨.inr own, ?_⟩)
    exact (projected.rows.linked x mem' c.1.id own).1
  have ⟨x, mem', own, above⟩ := projected.outranked c mem active g there could
  have same : x = g := by
    refine List.inj_on_of_nodup_map projected.rows.nodup mem' there ?_
    exact projectionRank_id (le_antisymm (attached_below mem' own) above)
  rw [same] at own
  exact ⟨own, projected.drafted c mem g there own fun h mem' own' => attached_below mem' own'⟩

/-- All the eligible hand-offs are candidates of a first consultation. -/
theorem Projected.first (projected : Projected limit a) (mem : c ∈ a.consultations)
    (first : c.1.sequence = 1) (active : c.1.status.isActive = true)
    (newest : IsNewest a isProjectionEligible g) : IsNewest a (isCandidate c) g := by
  have ⟨older, split⟩ := projected.desk.active_last mem active
  have whole := projected.desk
  rw [split] at whole
  have none_older : older = [] := by
    have number := whole.numbered.older_of_concat.2.1
    exact List.eq_nil_of_length_eq_zero (by omega)
  have could {x : ConsultationHandoff} (there : x ∈ a.handoffs)
      (eligible : isProjectionEligible x = true) : isCandidate c x = true := by
    refine isCandidate_iff.2 ⟨?_, eligible⟩
    cases own : x.consultation with
    | none => exact .inl rfl
    | some i =>
      have ⟨_, d, listed, named⟩ := projected.rows.linked x there i own
      rw [split, none_older] at listed
      rw [← named, List.mem_singleton.1 listed]
      exact .inr rfl
  have ⟨there, eligible, greatest⟩ := newest
  exact ⟨there, could there eligible, fun h mem' could' =>
    greatest h mem' (isCandidate_iff.1 could').2⟩

end

/-- In every run, the draft of the first consultation is of the newest hand-off delivered so
far, while it is active; and the draft of any consultation of the newest that no earlier one
has. A hand-off stays with the consultation it has. -/
theorem run_projection {start w : World} {inquiry : Nat} {labels : List Handling}
    (unhandled : Unhandled inquiry start) (run : Run (Handles inquiry) start labels w) :
    ∃ a, w.aggregate inquiry = some a ∧ Delivered labels a ∧ Drafted a ∧
      (∀ c ∈ a.consultations, c.1.sequence = 1 → c.1.status.isActive = true →
        ∀ g, IsNewest a isProjectionEligible g → c.1.aiDraftSummary = some g.aiDraftSummary) ∧
      (∀ c ∈ a.consultations, c.1.status.isActive = true → ∀ g, IsNewest a (isCandidate c) g →
        g.consultation = some c.1.id ∧ c.1.aiDraftSummary = some g.aiDraftSummary) ∧
      ∀ before after s b, labels = before ++ after → Run (Handles inquiry) start before s →
        Run (Handles inquiry) s after w → s.aggregate inquiry = some b →
        ∀ h ∈ b.handoffs, ∃ h' ∈ a.handoffs, Kept h h' := by
  have ⟨a, found, projected, delivered⟩ := run_projected unhandled run
  refine ⟨a, found, delivered, projected.drafted, fun c mem first active g newest => ?_,
    fun c mem active g newest => projected.newest mem active newest, ?_⟩
  · exact (projected.newest mem active (projected.first mem first active newest)).2
  · intro before after s b _ earlier rest there
    have ⟨a', found', kept⟩ := run_kept unhandled earlier rest there
    have same : a' = a := Option.some.inj (found'.symm.trans found)
    rw [same] at kept
    exact kept

/-! ### An inquiry with two hand-offs -/

namespace Sample

/-- Two analyses of the inquiry 10 have failed, the run 13 after the run 12. -/
def failingTwice : List Action :=
  analysing ++
  [ .internal 104 (.onRun 10 12 (.markFailed ⟨"AI-FAILED-01", false, 0, false, none⟩)),
    .internal 105 (.createRun 10 ⟨"request-2", "digest-2", 2, "WPUJAC104DWH", correlation⟩),
    .internal 106 (.onRun 10 13 .markRunning),
    .internal 107 (.onRun 10 13 (.markFailed ⟨"AI-FAILED-01", false, 0, false, none⟩)) ]

def failedWorld : World := (trace settings world failingTwice).2

/-- The hand-off of a request, with its draft. -/
def handoff (aiRequestId draft : String) : HandoffPayload :=
  ⟨"1.0.0", aiRequestId, none, "WPUJAC104DWH", none, "caution", true, "NO_EVIDENCE", [],
    aiRequestId, draft⟩

def newer : HandoffPayload := handoff "request-2" "the newer draft"

def older : HandoffPayload := handoff "request-1" "the older draft"

def stamp : Stamp := ⟨2, "key", "correlation"⟩

def delivery (payload : HandoffPayload) (w : World) : Except Failure World :=
  ConsultationHandoffService.persist w 10 payload payload.aiRequestId correlation
    (fun _ => .ok ()) 110

def creation (w : World) : Except Failure World :=
  match w.aggregate 10 with
  | none => .error .notFound
  | some a => do
      let (requested, c) ← ConsultationRepository.request w.directory a stamp
        (ConsultationRepository.lockLatest a) w.nextId 111
      let (attached, _) ← attachToLatestConsultation requested c
      pure { w.put 10 attached with nextId := w.nextId + 1 }

/-- The consultant takes the consultation and notes its result. -/
def working (w : World) : Except Failure World :=
  match w.aggregate 10 with
  | none => .error .notFound
  | some a => do
      let (started, c) ← ConsultationRepository.start a consultant stamp
        (ConsultationRepository.lockLatest a) w.nextId 112
      let (saved, _) ← ConsultationRepository.saveSummary started c
        (summaryOf "valve replaced" (some .completedNoVisit)) stamp
      pure (w.put 10 saved)

def completion (w : World) : Except Failure World :=
  match w.aggregate 10, (w.aggregate 10).bind ConsultationRepository.lockLatest with
  | some a, some c => do
      let (completed, _) ← ConsultationRepository.complete a c stamp 113
      pure (w.put 10 completed)
  | _, _ => .error .notFound

instance (x y : Stored Consultation) : Decidable (Followed x y) :=
  decidable_of_iff (y.1.id = x.1.id ∧ y.1.sequence = x.1.sequence ∧
      y.1.aiDraftSummary = x.1.aiDraftSummary ∧
      (y.1.status.isActive = true → x.1.status.isActive = true))
    ⟨fun ⟨id, sequence, draft, active⟩ => ⟨id, sequence, draft, active⟩,
      fun h => ⟨h.id, h.sequence, h.draft, h.active⟩⟩

/-- The drafts and the ranks are the same in both. -/
def sameDrafts (w t : World) : Bool :=
  (w.aggregate 10).any fun a => (t.aggregate 10).any fun b =>
    decide (w.nextId ≤ t.nextId ∧ b.handoffs = a.handoffs ∧
      (∀ h ∈ a.handoffs, projectionRank b h = projectionRank a h) ∧
      List.Forall₂ Followed a.consultations b.consultations)

/-- The newer hand-off comes before the older one, and both before the consultation. -/
def projecting : Except Failure World :=
  do creation (← delivery older (← delivery newer failedWorld))

/-- The consultation is completed, and another one is asked for. -/
def regressing : Except Failure World :=
  do creation (← completion (← working (← projecting)))

section
variable {w t : World} {payload : HandoffPayload}

theorem creation_handles (h : creation w = .ok t) : Handles 10 w .creation t := by
  unfold creation at h
  split at h
  · cases h
  · rename_i a found
    have ⟨⟨requested, c⟩, requests, h⟩ := bind_eq_ok.1 h
    have ⟨⟨attached, final⟩, attaches, h⟩ := bind_eq_ok.1 h
    cases h
    exact .created found requests attaches

theorem completion_handles (h : completion w = .ok t) : Handles 10 w .completion t := by
  unfold completion at h
  split at h
  · rename_i a c found latest
    rw [found] at latest
    have ⟨⟨completed, row⟩, completes, h⟩ := bind_eq_ok.1 h
    cases h
    exact .completed found latest completes
  · cases h

theorem sameDrafts_handles (same : sameDrafts w t = true) : Handles 10 w .other t := by
  have ⟨a, found, same⟩ := (Option.any_eq_true _ _).1 same
  have ⟨b, after, same⟩ := (Option.any_eq_true _ _).1 same
  have ⟨room, handoffs, ranks, followed⟩ := of_decide_eq_true same
  exact .other found after room handoffs ranks followed

theorem projecting_run (h : projecting = .ok w) :
    Run (Handles 10) failedWorld [.delivery newer, .delivery older, .creation] w := by
  have ⟨first, delivers, h⟩ := bind_eq_ok.1 h
  have ⟨second, delivers', h⟩ := bind_eq_ok.1 h
  exact ((Run.refl.snoc (.delivered delivers)).snoc (.delivered delivers')).snoc
    (creation_handles h)

theorem failed_unhandled : Unhandled 10 failedWorld := by
  have there : (failedWorld.aggregate 10).any (fun a =>
      decide (a.handoffs = [] ∧ a.consultations = [])) = true := by decide +kernel
  have ⟨a, found, empty⟩ := (Option.any_eq_true _ _).1 there
  exact ⟨a, found, of_decide_eq_true empty⟩

end
end Sample

theorem ok_of_any {r : Except Failure World} {p : World → Bool}
    (h : r.toOption.any p = true) : ∃ w, r = .ok w ∧ p w = true := by
  have ⟨w, found, holds⟩ := (Option.any_eq_true _ _).1 h
  cases r with
  | error failure => cases found
  | ok t =>
    cases found
    exact ⟨_, rfl, holds⟩

/-- The consultation that is opened has the newer draft, although it was delivered first. -/
theorem run_projection_projecting : ∃ w a c, Sample.projecting = .ok w ∧
    w.aggregate 10 = some a ∧ c ∈ a.consultations ∧
    c.1.aiDraftSummary = some "the newer draft" := by
  have there : Sample.projecting.toOption.any (fun w => (w.aggregate 10).any fun a =>
      a.consultations.any fun c => decide (c.1.sequence = 1 ∧ c.1.status.isActive = true) &&
        a.handoffs.any fun g => decide (g.aiDraftSummary = "the newer draft" ∧
          isProjectionEligible g = true ∧ ∀ h ∈ a.handoffs, isProjectionEligible h = true →
            projectionRank a h ≤ projectionRank a g)) = true := by decide +kernel
  have ⟨w, computed, holds⟩ := ok_of_any there
  have ⟨a, found, holds⟩ := (Option.any_eq_true _ _).1 holds
  have ⟨c, mem, holds⟩ := List.any_eq_true.1 holds
  rw [Bool.and_eq_true, decide_eq_true_eq] at holds
  have ⟨g, listed, newest⟩ := List.any_eq_true.1 holds.2
  have ⟨draft, newest⟩ := of_decide_eq_true newest
  have ⟨a', found', _, _, first, _⟩ :=
    run_projection Sample.failed_unhandled (Sample.projecting_run computed)
  have same : a' = a := Option.some.inj (found'.symm.trans found)
  rw [same] at first
  exact ⟨w, a, c, computed, found, mem,
    draft ▸ first c mem holds.1.1 holds.1.2 g ⟨listed, newest⟩⟩

/-- The version of its request and the time its analysis was completed. -/
def sourceRank (a : Aggregate) (h : ConsultationHandoff) : Nat × Nat :=
  ((ofLex (projectionRank a h)).1, (ofLex (ofLex (projectionRank a h)).2).1)

/-- A hand-off that was refused for a newer one becomes the draft of the next consultation. -/
theorem projection_regresses : ∃ labels w a c d g h, Unhandled 10 Sample.failedWorld ∧
    Run (Handles 10) Sample.failedWorld labels w ∧ w.aggregate 10 = some a ∧
    c ∈ a.consultations ∧ d ∈ a.consultations ∧ c.1.sequence < d.1.sequence ∧
    g ∈ a.handoffs ∧ h ∈ a.handoffs ∧ sourceRank a h ≠ sourceRank a g ∧
    g.consultation = some c.1.id ∧ h.consultation = some d.1.id ∧
    projectionRank a h < projectionRank a g := by
  have there : Sample.regressing.toOption.any (fun w => (w.aggregate 10).any fun a =>
      a.consultations.any fun c => a.consultations.any fun d => a.handoffs.any fun g =>
        a.handoffs.any fun h => decide (c.1.sequence < d.1.sequence ∧
          sourceRank a h ≠ sourceRank a g ∧ g.consultation = some c.1.id ∧
          h.consultation = some d.1.id ∧ projectionRank a h < projectionRank a g)) = true := by
    decide +kernel
  have worked : (Sample.projecting.toOption.any fun w => (Sample.working w).toOption.any fun t =>
      Sample.sameDrafts w t) = true := by decide +kernel
  have ⟨w, computed, holds⟩ := ok_of_any there
  have ⟨a, found, holds⟩ := (Option.any_eq_true _ _).1 holds
  have ⟨c, mem, holds⟩ := List.any_eq_true.1 holds
  have ⟨d, mem', holds⟩ := List.any_eq_true.1 holds
  have ⟨g, listed, holds⟩ := List.any_eq_true.1 holds
  have ⟨h, listed', holds⟩ := List.any_eq_true.1 holds
  have ⟨later, differ, own, own', below⟩ := of_decide_eq_true holds
  have ⟨first, projects, rest⟩ := bind_eq_ok.1 computed
  have ⟨second, works, rest⟩ := bind_eq_ok.1 rest
  have ⟨third, completes, creates⟩ := bind_eq_ok.1 rest
  have ⟨first', projects', same⟩ := ok_of_any worked
  have ⟨second', works', same⟩ := ok_of_any same
  have still : first' = first := Except.ok.inj (projects'.symm.trans projects)
  rw [still] at works' same
  have still' : second' = second := Except.ok.inj (works'.symm.trans works)
  rw [still'] at same
  have run := (((Sample.projecting_run projects).snoc (Sample.sameDrafts_handles same)).snoc
    (Sample.completion_handles completes)).snoc (Sample.creation_handles creates)
  exact ⟨_, w, a, c, d, g, h, Sample.failed_unhandled, run, found, mem, mem', later, listed,
    listed', differ, own, own', below⟩

end WaterCare.Runtime
