import WaterCare.Machine.Result
import WaterCare.Machine.Run
import WaterCare.Service.AccountLifecycle

/-!
Runs of account changes. A change that takes an administrator away has found another one. The
policy group is repaired before the call is authorized: no one's membership is taken, and its
members get the permissions of the policy.
-/

namespace WaterCare.Runtime.Administrators
open Machine Store Service Py
open AccountLifecycleService (Change Findings changed authorizeActor)
open AccountLifecycle

def Step (settings : LifecycleSettings) (s : Accounts) (r : Request) (t : Accounts) : Prop :=
  t = (execute settings s r).1

/-- `is_active`, `is_staff`, `is_superuser` and a usable password. -/
def IsSuperuser (user : User) : Prop :=
  user.isActive = true ∧ user.isStaff = true ∧ user.isSuperuser = true ∧
    user.hasUsablePassword = true

instance (user : User) : Decidable (IsSuperuser user) := inferInstanceAs (Decidable (_ ∧ _))

def HasPracticalAdmin (s : Accounts) : Prop :=
  ∃ user ∈ s.users, isPracticalAdmin s user = true

def HasSuperuser (s : Accounts) : Prop := ∃ user ∈ s.users, IsSuperuser user.toUser

section
variable {settings : LifecycleSettings}

/-! ### The locked rows -/

section
variable {found : Findings} {actor target row : Account} {change : Change}
  {session : SessionSettings}

theorem protectLastSuperuser_ok
    (ok : AccountLifecycleService.protectLastSuperuser found target = .ok ()) :
    IsSuperuser target.toUser → found.otherSuperuser = true := by
  intro ⟨active, staff, superuser, usable⟩
  unfold AccountLifecycleService.protectLastSuperuser at ok
  rw [active, staff, superuser, usable] at ok
  cases other : found.otherSuperuser with
  | true => rfl
  | false =>
    rw [other] at ok
    cases ok

theorem protectLastPracticalAdmin_ok
    (ok : AccountLifecycleService.protectLastPracticalAdmin found target = .ok ()) :
    AccountLifecycleService.isPracticalAdmin target = true → found.otherPracticalAdmin = true := by
  intro practical
  unfold AccountLifecycleService.protectLastPracticalAdmin at ok
  rw [practical] at ok
  cases other : found.otherPracticalAdmin with
  | true => rfl
  | false =>
    rw [other] at ok
    cases ok

/-- What a change that is not refused says of its rows. -/
structure Changes (found : Findings) (actor target row : Account) : Prop where
  synthetic : target.isSynthetic = true
  key : row.id = target.id
  version : row.authVersion = target.authVersion + 1
  /-- No one changes the own account. -/
  apart : actor ≠ target ∨ actor.id ≠ target.id
  practical : AccountLifecycleService.isPracticalAdmin target = true →
    found.otherPracticalAdmin = true
  superuser : IsSuperuser target.toUser → IsSuperuser row.toUser ∨ found.otherSuperuser = true

theorem authorizeActor_ok (ok : authorizeActor actor = .ok ()) :
    actor.isActive = true ∧ actor.role = .operator ∧
      (actor.isSuperuser = true ∨ AccountLifecycleService.isPracticalAdmin actor = true) := by
  have ⟨staff, ok⟩ := ite_error_eq_ok.1 ok
  rw [Bool.not_eq_true, Bool.not_eq_false'] at staff
  simp only [Bool.and_eq_true, decide_eq_true_eq] at staff
  refine ⟨staff.1.1.1.1, staff.1.2, ?_⟩
  by_cases superuser : actor.isSuperuser = true
  · exact .inl superuser
  · rw [if_neg superuser] at ok
    have ⟨practical, _⟩ := ite_error_eq_ok.1 ok
    rw [Bool.not_eq_true, Bool.not_eq_false'] at practical
    exact .inr practical

theorem isPracticalAdmin_parts (practical : AccountLifecycleService.isPracticalAdmin target = true) :
    target.isActive = true ∧ target.isSynthetic = true ∧ target.isStaff = true ∧
      target.role = .operator ∧ target.hasUsablePassword = true ∧ target.isAccountAdmin = true := by
  unfold AccountLifecycleService.isPracticalAdmin at practical
  simp only [Bool.and_eq_true, decide_eq_true_eq] at practical
  have ⟨⟨⟨⟨⟨active, synthetic⟩, staff⟩, role⟩, usable⟩, admin⟩ := practical
  exact ⟨active, synthetic, staff, role, usable, admin⟩

theorem changed_ok (ok : changed session found actor target change = .ok row) :
    Changes found actor target row := by
  have ⟨_, ok⟩ := ite_error_eq_ok.1 ok
  have ⟨_, authorized, ok⟩ := bind_eq_ok.1 ok
  have ⟨active, operator, admin⟩ := authorizeActor_ok authorized
  have ⟨synthetic, ok⟩ := ite_error_eq_ok.1 ok
  rw [Bool.not_eq_true, Bool.not_eq_false'] at synthetic
  cases change with
  | deactivate =>
    have ⟨own, ok⟩ := ite_error_eq_ok.1 ok
    have ⟨_, ok⟩ := ite_error_eq_ok.1 ok
    have ⟨_, superuser, ok⟩ := bind_eq_ok.1 ok
    have ⟨_, practical, ok⟩ := bind_eq_ok.1 ok
    cases ok
    exact ⟨synthetic, rfl, rfl, .inr own, protectLastPracticalAdmin_ok practical,
      fun is => .inr (protectLastSuperuser_ok superuser is)⟩
  | reactivate =>
    have ⟨inactive, ok⟩ := ite_error_eq_ok.1 ok
    cases ok
    refine ⟨synthetic, rfl, rfl, .inl ?_, fun practical => ?_, fun superuser => ?_⟩
    · intro same
      rw [same] at active
      exact inactive active
    · exact absurd (isPracticalAdmin_parts practical).1 inactive
    · exact absurd superuser.1 inactive
  | updateConsultantCredentials username newPassword =>
    have ⟨consultant, ok⟩ := ite_error_eq_ok.1 ok
    have consultant : target.role = .consultant := not_not.1 consultant
    have row_ : ∃ name usable, row = { target with
        username := name
        hasUsablePassword := usable || target.hasUsablePassword
        authVersion := target.authVersion + 1 } := by
      split at ok
      · cases ok
      · have ⟨_, ok⟩ := ite_error_eq_ok.1 ok
        have ⟨_, ok⟩ := ite_error_eq_ok.1 ok
        have ⟨_, ok⟩ := ite_error_eq_ok.1 ok
        have ⟨_, ok⟩ := ite_error_eq_ok.1 ok
        cases ok
        exact ⟨_, _, rfl⟩
    have ⟨name, usable, is⟩ := row_
    rw [is]
    refine ⟨synthetic, rfl, rfl, .inl ?_, fun practical => ?_, fun superuser => .inl ?_⟩
    · intro same
      rw [same, consultant] at operator
      cases operator
    · have role := (isPracticalAdmin_parts practical).2.2.2.1
      rw [consultant] at role
      cases role
    · have ⟨active, staff, superuser, usable_⟩ := superuser
      exact ⟨active, staff, superuser, by rw [usable_, Bool.or_true]⟩
  | grantAccountAdmin =>
    have ⟨plain, ok⟩ := ite_error_eq_ok.1 ok
    have ⟨_, ok⟩ := ite_error_eq_ok.1 ok
    have ⟨_, ok⟩ := ite_error_eq_ok.1 ok
    have ⟨other, ok⟩ := ite_error_eq_ok.1 ok
    cases ok
    refine ⟨synthetic, rfl, rfl, .inl ?_, fun practical => absurd practical other,
      fun superuser => absurd (.inl superuser.2.2.1) plain⟩
    intro same
    rw [same] at admin
    cases admin with
    | inl superuser => exact plain (.inl superuser)
    | inr practical => exact other practical
  | revokeAccountAdmin =>
    have ⟨own, ok⟩ := ite_error_eq_ok.1 ok
    have ⟨plain, ok⟩ := ite_error_eq_ok.1 ok
    have ⟨_, ok⟩ := ite_error_eq_ok.1 ok
    have ⟨_, practical, ok⟩ := bind_eq_ok.1 ok
    cases ok
    exact ⟨synthetic, rfl, rfl, .inr own, protectLastPracticalAdmin_ok practical,
      fun superuser => absurd superuser.2.2.1 plain⟩

end

/-! ### The policy group -/

section
variable {dir dir' : Accounts} {group : Group}

theorem sameCodes_iff {found codes : List String} :
    sameCodes found codes = true ↔ (∀ code ∈ found, code ∈ codes) ∧ ∀ code ∈ codes, code ∈ found := by
  unfold sameCodes
  rw [Bool.and_eq_true, List.all_eq_true, List.all_eq_true]
  simp only [List.contains_iff_mem]

/-- The codenames of the group's permissions are those of the policy, whatever their model is. -/
def NamesPolicy (dir : Accounts) (group : Group) : Prop :=
  ∀ code, code ∈ (permissionsOf dir group).map (·.codename) ↔ code ∈ accountAdminPermissionCodes

theorem namesPolicy_iff :
    sameCodes ((permissionsOf dir group).map (·.codename)) accountAdminPermissionCodes = true ↔
      NamesPolicy dir group := by
  rw [sameCodes_iff]
  exact ⟨fun ⟨known, all⟩ code => ⟨known code, all code⟩,
    fun names => ⟨fun code => (names code).1, fun code => (names code).2⟩⟩

/-- The policy group after a call. It is the one from before where that names the policy; else it
has got the permissions of the policy, and so have its members. No other group and no permission
is touched. -/
structure Repaired (dir dir' : Accounts) (group : Group) : Prop where
  policy : policyGroup dir' = some group
  permissions : dir'.permissions = dir.permissions
  others : ∀ other, other.id ≠ group.id → (other ∈ dir'.groups ↔ other ∈ dir.groups)
  own : policyGroup dir = some group ∧ NamesPolicy dir group ∧ dir'.groups = dir.groups ∨
    (∀ old, policyGroup dir = some old → old.id = group.id ∧ ¬NamesPolicy dir old) ∧
      group.permissions = (policyPermissions dir).map (·.id) ∧ grantsPolicy dir' group = true

/-- The users, and the group that stands for the policy from now on. -/
structure Ensured (dir dir' : Accounts) (group : Group) : Prop where
  users : dir'.users = dir.users
  events : dir'.events = dir.events
  repaired : Repaired dir dir' group

theorem find_put {group' : Group} {groups : List Group} {name : String}
    (found : groups.find? (fun g => decide (g.name = name)) = some group)
    (named : group'.name = group.name) (same : group'.id = group.id) :
    (replaceRow (·.id) group' groups).find? (fun g => decide (g.name = name)) = some group' := by
  have own_ : decide (group.name = name) = true :=
    @List.find?_some Group (fun g => decide (g.name = name)) group groups found
  have name_ : group'.name = name := named.trans (of_decide_eq_true own_)
  induction groups with
  | nil => cases found
  | cons first rest ih =>
    unfold replaceRow
    rw [List.map_cons]
    by_cases own : first.id = group'.id
    · rw [if_pos own, List.find?_cons, decide_eq_true name_]
    · rw [if_neg own]
      rw [List.find?_cons] at found ⊢
      by_cases here : first.name = name
      · rw [decide_eq_true here] at found
        cases found
        exact absurd same.symm own
      · rw [decide_eq_false here] at found ⊢
        exact ih found

theorem getOrCreateGroup_ok :
    (getOrCreateGroup dir).1.users = dir.users ∧ (getOrCreateGroup dir).1.events = dir.events ∧
      (getOrCreateGroup dir).1.permissions = dir.permissions ∧
        policyGroup (getOrCreateGroup dir).1 = some (getOrCreateGroup dir).2 := by
  unfold getOrCreateGroup
  cases found : policyGroup dir with
  | some group => exact ⟨rfl, rfl, rfl, found⟩
  | none =>
    refine ⟨rfl, rfl, rfl, ?_⟩
    unfold policyGroup at found ⊢
    rw [List.find?_append, found, Option.none_or]
    exact List.find?_cons_of_pos (decide_eq_true rfl)

/-- The group is there, or it is made without a permission. -/
theorem getOrCreateGroup_cases :
    policyGroup dir = some (getOrCreateGroup dir).2 ∧
        (getOrCreateGroup dir).1.groups = dir.groups ∨
      policyGroup dir = none ∧ (getOrCreateGroup dir).2.permissions = [] ∧
        (getOrCreateGroup dir).1.groups = dir.groups ++ [(getOrCreateGroup dir).2] := by
  unfold getOrCreateGroup
  cases found : policyGroup dir with
  | some group => exact .inl ⟨rfl, rfl⟩
  | none => exact .inr ⟨rfl, rfl, rfl⟩

theorem not_namesPolicy_nil (empty : group.permissions = []) : ¬NamesPolicy dir group := by
  intro names
  have mem := (names "add_user").2 (by decide)
  have ⟨p, there, _⟩ := List.mem_map.1 mem
  have held := (List.mem_filter.1 there).2
  rw [empty] at held
  cases held

/-- A group with the permissions of the policy grants it. -/
theorem grantsPolicy_of_policy
    (complete : ∀ code ∈ accountAdminPermissionCodes,
      code ∈ (policyPermissions dir).map (·.codename))
    (permissions : dir'.permissions = dir.permissions)
    (has : group.permissions = (policyPermissions dir).map (·.id)) :
    grantsPolicy dir' group = true := by
  refine List.all_eq_true.2 fun code mem => List.contains_iff_mem.2 ?_
  have ⟨p, there, named⟩ := List.mem_map.1 (complete code mem)
  have ⟨listed, policy⟩ := List.mem_filter.1 there
  refine List.mem_map.2 ⟨p, List.mem_filter.2 ⟨?_, (Bool.and_eq_true_iff.1 policy).1⟩, named⟩
  unfold permissionsOf
  rw [permissions, has]
  exact List.mem_filter.2 ⟨listed, List.contains_iff_mem.2 (List.mem_map_of_mem there)⟩

/-- What a practical administrator is in one state of the tables, by the group. -/
theorem practical_transport {group' : Group} {user : Member}
    (practical : AccountLifecycleService.isPracticalAdmin (account dir group user) = true)
    (same : group'.id = group.id)
    (policy : grantsPolicy dir group = true → grantsPolicy dir' group' = true) :
    AccountLifecycleService.isPracticalAdmin (account dir' group' user) = true := by
  unfold AccountLifecycleService.isPracticalAdmin account at practical ⊢
  dsimp only at practical ⊢
  rw [Bool.and_eq_true] at practical ⊢
  have ⟨rest, admin⟩ := practical
  have ⟨member, grants⟩ := Bool.and_eq_true_iff.1 admin
  rw [same]
  exact ⟨rest, Bool.and_eq_true_iff.2 ⟨member, policy grants⟩⟩

theorem ensure_ok (ok : ensurePolicyGroup dir = some (dir', group)) : Ensured dir dir' group := by
  have ⟨users, events, permissions, there⟩ := @getOrCreateGroup_ok dir
  have made := @getOrCreateGroup_cases dir
  unfold ensurePolicyGroup at ok
  split at ok
  · cases ok
  · rename_i complete
    rw [Bool.not_eq_true, Bool.not_eq_false'] at complete
    have complete := (sameCodes_iff.1 complete).2
    generalize getOrCreateGroup dir = got at ok users events permissions there made
    have ⟨dir₁, group₁⟩ := got
    dsimp only at ok users events permissions there made
    have named {g : Group} : NamesPolicy dir₁ g ↔ NamesPolicy dir g := by
      unfold NamesPolicy permissionsOf
      rw [permissions]
    have others {g : Group} (apart : g.id ≠ group₁.id) : g ∈ dir₁.groups ↔ g ∈ dir.groups := by
      rcases made with ⟨_, same⟩ | ⟨_, _, added⟩
      · rw [same]
      · rw [added, List.mem_append, List.mem_singleton]
        exact or_iff_left fun same => apart (same ▸ rfl)
    split at ok
    · rename_i names
      cases ok
      have names := named.1 (namesPolicy_iff.1 names)
      refine ⟨users, events, there, permissions, fun g apart => others apart, ?_⟩
      rcases made with ⟨found, same⟩ | ⟨_, empty, _⟩
      · exact .inl ⟨found, names, same⟩
      · exact absurd names (not_namesPolicy_nil empty)
    · rename_i names
      cases ok
      have names : ¬NamesPolicy dir group₁ := fun is => names (namesPolicy_iff.2 (named.2 is))
      have policy_ : policyPermissions dir₁ = policyPermissions dir := by
        unfold policyPermissions
        rw [permissions]
      have has := congrArg (List.map fun p : Permission => p.id) policy_
      refine ⟨users, events, find_put there rfl rfl, permissions, fun g apart => ?_, .inr ⟨?_, has, ?_⟩⟩
      · rw [← others apart]
        constructor
        · intro mem
          rcases mem_replaceRow mem with old | ⟨is, _⟩
          · exact old
          · exact absurd (is ▸ rfl) apart
        · exact fun mem => mem_replaceRow_other mem apart
      · intro old found
        rcases made with ⟨is, _⟩ | ⟨absent, _⟩
        · cases Option.some.inj (found.symm.trans is)
          exact ⟨rfl, names⟩
        · rw [absent] at found
          cases found
      · exact @grantsPolicy_of_policy dir _ _ complete permissions has

/-- Who was a practical administrator is one after the repair. -/
theorem Repaired.keeps (repaired : Repaired dir dir' group) {user : Member}
    (practical : isPracticalAdmin dir user = true) :
    AccountLifecycleService.isPracticalAdmin (account dir' group user) = true := by
  have ⟨old, found, practical⟩ := (Option.any_eq_true _ _).1 practical
  rcases repaired.own with ⟨is, _, _⟩ | ⟨own, _, grants⟩
  · cases Option.some.inj (found.symm.trans is)
    refine practical_transport practical rfl fun grants => ?_
    unfold grantsPolicy permissionsOf at grants ⊢
    rwa [repaired.permissions]
  · exact practical_transport practical (own old found).1.symm fun _ => grants

/-- Only a repair makes a practical administrator of a row, and of members only. -/
theorem Repaired.gains (repaired : Repaired dir dir' group) {user : Member}
    (practical : isPracticalAdmin dir' user = true) :
    isPracticalAdmin dir user = true ∨
      group.id ∈ user.groups ∧ ∀ old, policyGroup dir = some old → ¬NamesPolicy dir old := by
  unfold isPracticalAdmin at practical ⊢
  rw [repaired.policy, Option.any_some] at practical
  rcases repaired.own with ⟨is, _, _⟩ | ⟨own, _, _⟩
  · left
    rw [is, Option.any_some]
    refine practical_transport practical rfl fun grants => ?_
    unfold grantsPolicy permissionsOf at grants ⊢
    rwa [repaired.permissions] at grants
  · right
    have ⟨_, _, _, _, _, admin⟩ := isPracticalAdmin_parts practical
    exact ⟨List.contains_iff_mem.1 (Bool.and_eq_true_iff.1 admin).1,
      fun old found => (own old found).2⟩

/-- The repair is about the groups and the permissions. -/
theorem Repaired.congr {after : Accounts} (repaired : Repaired dir dir' group)
    (groups : after.groups = dir'.groups) (permissions : after.permissions = dir'.permissions) :
    Repaired dir after group := by
  have ⟨policy, same, others, own⟩ := repaired
  refine ⟨?_, permissions.trans same, ?_, ?_⟩
  · unfold policyGroup at policy ⊢
    rwa [groups]
  · rwa [groups]
  · unfold grantsPolicy permissionsOf at own ⊢
    rwa [groups, permissions]

end

/-! ### One call -/

section
variable {s t dir : Accounts} {group : Group} {actor target : Member} {r : Request}

/-- A call that is not refused: the row of its target is replaced, and one event is added. -/
structure Performed (settings : LifecycleSettings) (dir : Accounts) (group : Group)
    (actor target : Member) (after : Accounts) : Prop where
  row : ∃ change row, Changes (findings dir settings group target change)
      (account dir group actor) (account dir group target) row ∧
    after.users = replaceRow (·.id) (saved group target change row) dir.users
  groups : after.groups = dir.groups
  permissions : after.permissions = dir.permissions
  event : ∃ event, after.events = dir.events ++ [event] ∧ event.actor = actor.id ∧
    event.target = target.id

theorem perform_ok {change : Change} {reason : String} {correlationId : Nat} {after : Accounts}
    (ok : perform settings dir group actor target change reason correlationId = .ok after) :
    Performed settings dir group actor target after := by
  unfold perform at ok
  split at ok
  · cases ok
  · rename_i row is
    have changes := changed_ok is
    dsimp only at ok
    split at ok
    · cases ok
      exact ⟨⟨change, row, changes, rfl⟩, rfl, rfl, _, rfl, rfl, rfl⟩
    · cases ok

/-- A call is refused, or its rows are there and the group stands for the policy. -/
theorem attempt_ok {after : Accounts} (ok : attempt settings s r = .ok after) :
    ∃ actor target dir group, memberOf s r.actor = some actor ∧
      memberOf s r.target = some target ∧ Ensured s dir group ∧
        Performed settings dir group actor target after := by
  unfold attempt at ok
  dsimp only at ok
  split at ok
  · cases ok
  · split at ok
    · cases ok
    · split at ok
      · rename_i actor target actor_ target_
        split at ok
        · cases ok
        · rename_i dir group ensured
          exact ⟨actor, target, dir, group, actor_, target_, ensure_ok ensured, perform_ok ok⟩
      · cases ok

theorem memberOf_some {id : Nat} {user : Member} (found : memberOf s id = some user) :
    user ∈ s.users ∧ user.id = id :=
  ⟨List.mem_of_find?_eq_some found, of_decide_eq_true (@List.find?_some Member _ user s.users found)⟩

/-- A user is known by the key. -/
theorem eq_of_id {user user' : Member} (mem : user ∈ s.users) (mem' : user' ∈ s.users)
    (same : user.id = user'.id) : user = user' :=
  List.inj_on_of_nodup_map s.keys mem mem' same

/-- The other administrator that a query has found is there after the call. -/
theorem Performed.practical {after : Accounts} (performed : Performed settings dir group actor target after)
    (mem : target ∈ dir.users) (policy : policyGroup dir = some group)
    (some_ : ∃ user ∈ dir.users,
      AccountLifecycleService.isPracticalAdmin (account dir group user) = true) :
    HasPracticalAdmin after := by
  have ⟨⟨change, row, changes, users⟩, groups, permissions, _⟩ := performed
  have policy' : policyGroup after = some group := by
    unfold policyGroup
    rw [groups]
    exact policy
  have grants (is : grantsPolicy dir group = true) : grantsPolicy after group = true := by
    unfold grantsPolicy permissionsOf at is ⊢
    rwa [permissions]
  have key : (saved group target change row).id = target.id := changes.key
  have stays {user : Member} (there : user ∈ dir.users) (other : user.id ≠ target.id)
      (practical : AccountLifecycleService.isPracticalAdmin (account dir group user) = true) :
      HasPracticalAdmin after := by
    refine ⟨user, ?_, ?_⟩
    · rw [users]
      exact mem_replaceRow_other there (by rw [key]; exact other)
    · unfold isPracticalAdmin
      rw [policy', Option.any_some]
      exact practical_transport practical rfl grants
  have ⟨user, there, practical⟩ := some_
  by_cases own : user.id = target.id
  · have is : user = target := eq_of_id there mem own
    rw [is] at practical
    have other := changes.practical practical
    have ⟨_, _, _, _, _, admin⟩ := isPracticalAdmin_parts practical
    have policy_ : grantsPolicy dir group = true := (Bool.and_eq_true_iff.1 admin).2
    have ⟨user', there', is'⟩ := List.any_eq_true.1 other
    simp only [Bool.and_eq_true, decide_eq_true_eq] at is'
    have ⟨⟨⟨⟨⟨⟨active, synthetic⟩, staff⟩, role⟩, member⟩, ne⟩, usable⟩ := is'
    refine stays there' ne ?_
    unfold AccountLifecycleService.isPracticalAdmin account
    dsimp only
    rw [active, synthetic, staff, role, usable, member, policy_]
    rfl
  · exact stays there own practical

theorem Performed.superuser {after : Accounts} (performed : Performed settings dir group actor target after)
    (mem : target ∈ dir.users) (some_ : HasSuperuser dir) : HasSuperuser after := by
  have ⟨⟨change, row, changes, users⟩, _, _, _⟩ := performed
  have key : (saved group target change row).id = target.id := changes.key
  have stays {user : Member} (there : user ∈ dir.users) (other : user.id ≠ target.id)
      (superuser : IsSuperuser user.toUser) : HasSuperuser after := by
    refine ⟨user, ?_, superuser⟩
    rw [users]
    exact mem_replaceRow_other there (by rw [key]; exact other)
  have ⟨user, there, superuser⟩ := some_
  by_cases own : user.id = target.id
  · have is : user = target := eq_of_id there mem own
    rw [is] at superuser
    cases changes.superuser superuser with
    | inl kept =>
      refine ⟨saved group target change row, ?_, kept⟩
      rw [users]
      exact mem_replaceRow_self mem key.symm
    | inr other =>
      have ⟨user', there', is'⟩ := List.any_eq_true.1 other
      simp only [Bool.and_eq_true, decide_eq_true_eq] at is'
      have ⟨⟨⟨⟨active, staff⟩, superuser'⟩, ne⟩, usable⟩ := is'
      exact stays there' ne ⟨active, staff, superuser', usable⟩
  · exact stays there own superuser

/-- What a call that is committed has done. -/
structure Committed (s : Accounts) (r : Request) (t : Accounts) : Prop where
  /-- The groups are as they were but for a repair of the policy group, and only its members can
  become practical administrators by it. -/
  policy : ∃ group, Repaired s t group ∧
    ∀ user, (isPracticalAdmin s user = true → isPracticalAdmin t user = true) ∧
      (isPracticalAdmin t user = true → isPracticalAdmin s user = true ∨
        group.id ∈ user.groups ∧ ∀ old, policyGroup s = some old → ¬NamesPolicy s old)
  /-- Only the target's row is another one. -/
  others : ∀ id, id ≠ r.target → memberOf t id = memberOf s id
  apart : r.actor ≠ r.target
  target : ∃ before after, memberOf s r.target = some before ∧ memberOf t r.target = some after ∧
    before.isSynthetic = true ∧ before.authVersion < after.authVersion
  event : ∃ event, t.events = s.events ++ [event] ∧ event.actor = r.actor ∧
    event.target = r.target

theorem find_other {user : Member} {users : List Member} {id : Nat} (other : id ≠ user.id) :
    (replaceRow (·.id) user users).find? (fun row => decide (row.id = id)) =
      users.find? fun row => decide (row.id = id) := by
  induction users with
  | nil => rfl
  | cons first rest ih =>
    unfold replaceRow
    rw [List.map_cons]
    by_cases own : first.id = user.id
    · rw [if_pos own, List.find?_cons, List.find?_cons, decide_eq_false (Ne.symm other),
        decide_eq_false (fun is => other (is.symm.trans own))]
      exact ih
    · rw [if_neg own, List.find?_cons, List.find?_cons]
      cases decide (first.id = id) with
      | true => rfl
      | false => exact ih

theorem Performed.committed {after : Accounts} (actor_ : memberOf s r.actor = some actor)
    (target_ : memberOf s r.target = some target) (ensured : Ensured s dir group)
    (performed : Performed settings dir group actor target after) : Committed s r after := by
  have ⟨⟨change, row, changes, users⟩, groups, permissions, event⟩ := performed
  have repaired := ensured.repaired.congr groups permissions
  have key : (saved group target change row).id = target.id := changes.key
  have ⟨mem, named⟩ := memberOf_some target_
  have ⟨_, named'⟩ := memberOf_some actor_
  have apart : r.actor ≠ r.target := by
    intro same
    have is : actor = target := by
      rw [same, target_] at actor_
      exact (Option.some.inj actor_).symm
    cases changes.apart with
    | inl other => exact other (congrArg (account dir group) is)
    | inr other => exact other (congrArg (fun user : Member => user.id) is)
  refine ⟨⟨group, repaired, fun user => ⟨fun practical => ?_, repaired.gains⟩⟩, fun id other => ?_,
    apart, ⟨target, saved group target change row, target_, ?_, changes.synthetic, ?_⟩, ?_⟩
  · unfold isPracticalAdmin
    rw [repaired.policy, Option.any_some]
    exact repaired.keeps practical
  · unfold memberOf
    rw [users, ensured.users]
    refine find_other ?_
    rw [key, named]
    exact other
  · unfold memberOf
    rw [users, ensured.users]
    exact find_replaceRow target_ (key.trans named)
  · have version : (saved group target change row).authVersion = target.authVersion + 1 :=
      changes.version
    rw [version]
    exact Nat.lt_succ_self _
  · have ⟨event, is, actor, target⟩ := event
    rw [ensured.events] at is
    exact ⟨event, is, actor.trans named', target.trans named⟩

/-- A call is refused and changes nothing, or it is committed. -/
theorem execute_ok (s : Accounts) (r : Request) :
    ((execute settings s r).1 = s ∧ (execute settings s r).2.isSome = true) ∨
      ((execute settings s r).2 = none ∧ Committed s r (execute settings s r).1 ∧
        (HasPracticalAdmin s → HasPracticalAdmin (execute settings s r).1) ∧
          (HasSuperuser s → HasSuperuser (execute settings s r).1)) := by
  unfold execute
  cases is : attempt settings s r with
  | error refusal => exact .inl ⟨rfl, rfl⟩
  | ok after =>
    have ⟨actor, target, dir, group, actor_, target_, ensured, performed⟩ := attempt_ok is
    have mem := (memberOf_some target_).1
    rw [← ensured.users] at mem
    refine .inr ⟨rfl, performed.committed actor_ target_ ensured, fun some_ => ?_, fun some_ => ?_⟩
    · refine performed.practical mem ensured.repaired.policy ?_
      have ⟨user, there, practical⟩ := some_
      rw [ensured.users]
      exact ⟨user, there, ensured.repaired.keeps practical⟩
    · refine performed.superuser mem ?_
      unfold HasSuperuser
      rw [ensured.users]
      exact some_

/-! ### Runs -/

theorem run_administered {labels : List Request} (run : Run (Step settings) s labels t) :
    (HasPracticalAdmin s → HasPracticalAdmin t) ∧ (HasSuperuser s → HasSuperuser t) ∧
      ∀ r, ((execute settings t r).1 = t ∧ (execute settings t r).2.isSome = true) ∨
        ((execute settings t r).2 = none ∧ Committed t r (execute settings t r).1) := by
  have step (s : Accounts) (r : Request) (t : Accounts) (step : Step settings s r t) :
      (HasPracticalAdmin s → HasPracticalAdmin t) ∧ (HasSuperuser s → HasSuperuser t) := by
    rw [step]
    cases @execute_ok settings s r with
    | inl refused =>
      rw [refused.1]
      exact ⟨id, id⟩
    | inr done => exact done.2.2
  refine ⟨fun base => run.invariant (fun s r t is next => (step s r t next).1 is) base,
    fun base => run.invariant (fun s r t is next => (step s r t next).2 is) base, fun r => ?_⟩
  cases @execute_ok settings t r with
  | inl refused => exact .inl refused
  | inr done => exact .inr ⟨done.1, done.2.1⟩

end

end

/-! ### Three accounts -/

namespace AdministratorsSample

def settings : LifecycleSettings where
  accessLifetime := 300
  refreshLifetime := 3600
  normalizeSyntheticUsername name := some name
  isConsultantPassword _ := true
  isClean _ _ := true
  upper c := c.toUpper

def member (id : Nat) (username : String) (staff superuser : Bool) (groups : List Nat) : Member where
  id := id
  username := username
  role := .operator
  isActive := true
  isSynthetic := true
  isStaff := staff
  isSuperuser := superuser
  hasUsablePassword := true
  mayCancelInquiry := false
  fullName := username
  phone := ""
  authVersion := 1
  groups := groups
  userPermissions := []

def permissions : List Permission :=
  [⟨1, "accounts", "user", "add_user"⟩, ⟨2, "accounts", "user", "change_user"⟩,
    ⟨3, "accounts", "user", "view_user"⟩]

/-- Two account administrators. -/
def start : Accounts where
  users := [member 1 "DEMO-A" true false [7], member 2 "DEMO-B" true false [7]]
  groups := [⟨7, accountAdminGroup, [1, 2, 3]⟩]
  permissions := permissions
  events := []
  nextGroup := 8
  keys := by decide

/-- An account administrator, and a superuser who is no staff. -/
def withSuperuser : Accounts where
  users := [member 1 "DEMO-A" true false [7], member 2 "DEMO-B" false true []]
  groups := [⟨7, accountAdminGroup, [1, 2, 3]⟩]
  permissions := permissions
  events := []
  nextGroup := 8
  keys := by decide

/-- The group has lost its permissions. -/
def withoutPolicy : Accounts where
  users := [member 1 "DEMO-A" true false [7], member 2 "DEMO-B" true false []]
  groups := [⟨7, accountAdminGroup, []⟩]
  permissions := permissions
  events := []
  nextGroup := 8
  keys := by decide

def deactivation : Request := ⟨.deactivate, 1, 2, "leave", some 1⟩

end AdministratorsSample

open AdministratorsSample in
/-- One of two administrators is deactivated. -/
theorem run_administered_two :
    ∃ t, Run (Step settings) start [deactivation] t ∧
      (execute settings start deactivation).2 = none ∧
        t.events.length = 1 ∧ HasPracticalAdmin t := by
  have committed : (execute settings start deactivation).2 = none := by
    decide +kernel
  have one : (execute settings start deactivation).1.events.length = 1 := by
    decide +kernel
  have run : Run (Step settings) start ([] ++ [deactivation])
      (execute settings start deactivation).1 := .snoc .refl rfl
  have practical : HasPracticalAdmin start :=
    ⟨member 1 "DEMO-A" true false [7], List.mem_cons_self, by decide +kernel⟩
  have ⟨kept, _, _⟩ := run_administered run
  exact ⟨_, run, committed, one, kept practical⟩

open AdministratorsSample in
/-- The only superuser is deactivated, who is no staff; and a member of the group that has
lost its permissions becomes an administrator by the own call. -/
theorem not_administered :
    ((∃ user ∈ withSuperuser.users, user.isActive = true ∧ user.isSuperuser = true ∧
        user.hasUsablePassword = true) ∧
      ∃ t, Run (Step settings) withSuperuser [deactivation] t ∧
        ¬∃ user ∈ t.users, user.isActive = true ∧ user.isSuperuser = true ∧
          user.hasUsablePassword = true) ∧
    ∃ t, Step settings withoutPolicy deactivation t ∧
      ∃ user user', memberOf withoutPolicy deactivation.actor = some user ∧
        memberOf t deactivation.actor = some user' ∧
          isPracticalAdmin withoutPolicy user = false ∧ isPracticalAdmin t user' = true := by
  have run : Run (Step settings) withSuperuser ([] ++ [deactivation])
      (execute settings withSuperuser deactivation).1 := .snoc .refl rfl
  refine ⟨⟨⟨member 2 "DEMO-B" false true [], by decide, rfl, rfl, rfl⟩, _, run, ?_⟩, _, rfl,
    member 1 "DEMO-A" true false [7], member 1 "DEMO-A" true false [7], ?_⟩
  · decide +kernel
  · decide +kernel

end WaterCare.Runtime.Administrators
