import Mathlib.Data.List.MinMax
import WaterCare.Py.Value
import WaterCare.Service.Review

/-!
`_consultation_origin_from_ledger` over the stored JSON of a ledger, whose entries may be of
any shape. For the rows that the other services read it is `originFromLedger`.
-/

namespace WaterCare.Service.CauseLedger
open Store Py

def ledgerCausePriority : List (String × Nat) :=
  [ ("DANGER_ASSESSMENT", 0),
    ("EXPLICIT_SAFETY_RULE", 1),
    ("FAIL_CLOSED_AI_RESULT", 2),
    ("UNCLASSIFIED_AI_SIGNAL", 3),
    ("HARNESS_UNSUPPORTED_FUNCTION", 4),
    ("HARNESS_SCOPE_EXCEEDED", 5) ]

def ledgerOriginByCause : List (String × ConsultationOrigin) :=
  [ ("DANGER_ASSESSMENT", .safetyLocked),
    ("EXPLICIT_SAFETY_RULE", .safetyLocked),
    ("FAIL_CLOSED_AI_RESULT", .failClosedLocked),
    ("UNCLASSIFIED_AI_SIGNAL", .unknownLocked),
    ("HARNESS_UNSUPPORTED_FUNCTION", .nonSafetyResolvable),
    ("HARNESS_SCOPE_EXCEEDED", .nonSafetyResolvable) ]

def ledgerLockByCause : List (String × String) :=
  [ ("DANGER_ASSESSMENT", "SAFETY_LOCKED"),
    ("EXPLICIT_SAFETY_RULE", "SAFETY_LOCKED"),
    ("FAIL_CLOSED_AI_RESULT", "FAIL_CLOSED_LOCKED"),
    ("UNCLASSIFIED_AI_SIGNAL", "UNKNOWN_LOCKED"),
    ("HARNESS_UNSUPPORTED_FUNCTION", "NON_SAFETY_RESOLVABLE"),
    ("HARNESS_SCOPE_EXCEEDED", "NON_SAFETY_RESOLVABLE") ]

/-- The codes of the entries that are objects. -/
def causeCodes (causes : List Value) : List Value :=
  causes.filterMap fun cause => cause.asDict?.map fun d => d.get "cause_code"

/-- The codes that `LEDGER_CAUSE_PRIORITY` has; what cannot be hashed cannot be looked up. -/
def supportedCodes : List Value → Except Exn (List String)
  | [] => .ok []
  | code :: rest => do
      let key ← code.hashed
      let later ← supportedCodes rest
      match key with
      | .str s => pure (if (ledgerCausePriority.lookup s).isSome then s :: later else later)
      | _ => pure later

/-- `cause.get("lock_class") != LEDGER_LOCK_BY_CAUSE.get(cause.get("cause_code"))`. -/
def lockDiffers (cause : Value) : Except Exn Bool := do
  let lock ← cause.getOr "lock_class" .none
  let key ← (← cause.getOr "cause_code" .none).hashed
  let expected := match key with
    | .str s => ledgerLockByCause.lookup s
    | _ => none
  pure (!lock.eq (.ofOption expected))

/-- `any` over the causes, up to the first that differs. -/
def anyLockDiffers : List Value → Except Exn Bool
  | [] => .ok false
  | cause :: rest => do
      if ← lockDiffers cause then pure true else anyLockDiffers rest

def unclassified : ConsultationOrigin × String := (.unknownLocked, "UNCLASSIFIED_AI_SIGNAL")

def priorityOf (code : String) : Nat := (ledgerCausePriority.lookup code).getD 0

def originOf (code : String) : ConsultationOrigin :=
  (ledgerOriginByCause.lookup code).getD .unknownLocked

def consultationOriginFromLedger (causes : List Value) :
    Except Exn (ConsultationOrigin × String) := do
  let codes := causeCodes causes
  let supported ← supportedCodes codes
  if supported.isEmpty || codes.length ≠ causes.length || supported.length ≠ codes.length then
    pure unclassified
  else if ← anyLockDiffers causes then pure unclassified
  else
    match supported.argmin priorityOf with
    | none => pure unclassified
    | some selected => pure (originOf selected, selected)

/-! ### Causes -/

/-- An object with a supported code and the lock class of the code. -/
def IsCause (code : String) (cause : Value) : Prop :=
  ∃ d : Dict, cause = .dict d ∧ Dict.get d "cause_code" = Value.str code ∧
    ∃ lock, ledgerLockByCause.lookup code = some lock ∧ Dict.get d "lock_class" = Value.str lock

def Valid (cause : Value) : Prop := ∃ code, IsCause code cause

/-- An object of one of the two HARNESS codes, with their lock class. -/
def IsHarness (cause : Value) : Prop :=
  ∃ d : Dict, cause = .dict d ∧
    (Dict.get d "cause_code" = Value.str "HARNESS_UNSUPPORTED_FUNCTION" ∨
      Dict.get d "cause_code" = Value.str "HARNESS_SCOPE_EXCEEDED") ∧
    Dict.get d "lock_class" = Value.str "NON_SAFETY_RESOLVABLE"

/-- The code of an object can be hashed. -/
def Readable (cause : Value) : Prop :=
  ∀ d : Dict, cause = .dict d → ∃ key, Dict.get d "cause_code" = .atom key

/-- A rank for the origins: the stricter ones come first. -/
def strictness : ConsultationOrigin → Nat
  | .safetyLocked => 0
  | .failClosedLocked => 1
  | .unknownLocked => 2
  | .nonSafetyResolvable => 3
  | .notRequired => 4

/-! ### The tables -/

def knownCodes : List String := ledgerCausePriority.map (·.1)

section
variable {code : String}

theorem lookup_known {β : Type} (table : List (String × β)) :
    (table.lookup code).isSome = true ↔ code ∈ table.map (·.1) := by
  rw [List.lookup_isSome_iff]
  constructor
  · intro ⟨e, mem, same⟩
    exact List.mem_map.2 ⟨e, mem, (eq_of_beq same).symm⟩
  · intro mem
    have ⟨e, there, same⟩ := List.mem_map.1 mem
    exact ⟨e, there, beq_iff_eq.2 same.symm⟩

theorem priorityOf_injective : ∀ code ∈ knownCodes, ∀ code' ∈ knownCodes,
    priorityOf code = priorityOf code' → code = code' := by decide

/-- The stricter origin has the smaller priority. -/
theorem strictness_mono : ∀ code ∈ knownCodes, ∀ code' ∈ knownCodes,
    priorityOf code ≤ priorityOf code' → strictness (originOf code) ≤ strictness (originOf code') := by
  decide

/-- The lock class of a code is the code of its origin. -/
theorem lock_of_known : ∀ code ∈ knownCodes,
    ledgerLockByCause.lookup code = some (originOf code).code := by decide

theorem harness_of_origin : ∀ code ∈ knownCodes, originOf code = .nonSafetyResolvable →
    code = "HARNESS_UNSUPPORTED_FUNCTION" ∨ code = "HARNESS_SCOPE_EXCEEDED" := by decide

end

/-! ### What one cause gives -/

section
variable {cause : Value} {causes codes : List Value} {code code' : String}

/-- `isinstance(code, str)`, and it is one of the codes. -/
def knownCode (code : Value) : Option String :=
  code.asStr?.filter fun s => (ledgerCausePriority.lookup s).isSome

theorem knownCode_eq_some {v : Value} :
    knownCode v = some code ↔ v = .str code ∧ code ∈ knownCodes := by
  unfold knownCode
  rw [Option.filter_eq_some_iff, Value.asStr?_eq_some, lookup_known ledgerCausePriority]
  rfl

theorem supportedCodes_ok (hashable : ∀ v ∈ codes, ∃ key, v = .atom key) :
    supportedCodes codes = .ok (codes.filterMap knownCode) := by
  induction codes with
  | nil => rfl
  | cons v rest ih =>
    have ⟨key, is⟩ := hashable v List.mem_cons_self
    have ih := ih fun w mem => hashable w (List.mem_cons_of_mem v mem)
    unfold supportedCodes
    rw [ih, is]
    cases key with
    | str s =>
      have known : knownCode (.atom (.str s)) =
          if (ledgerCausePriority.lookup s).isSome then some s else none := rfl
      rw [List.filterMap_cons, known]
      by_cases supported : (ledgerCausePriority.lookup s).isSome = true
      · rw [if_pos supported]
        exact congrArg Except.ok (if_pos supported)
      · rw [if_neg supported]
        exact congrArg Except.ok (if_neg supported)
    | none | bool | int | float => rfl

/-- What is a cause but for its lock class. -/
def HasCode (code : String) (cause : Value) : Prop :=
  ∃ d : Dict, cause = .dict d ∧ Dict.get d "cause_code" = Value.str code ∧ code ∈ knownCodes

theorem IsCause.hasCode (is : IsCause code cause) : HasCode code cause := by
  have ⟨d, dict, code_, lock, known, _⟩ := is
  refine ⟨d, dict, code_, ?_⟩
  have some_ : (ledgerLockByCause.lookup code).isSome = true := by rw [known]; rfl
  exact (lookup_known ledgerLockByCause).1 some_

theorem HasCode.unique (has : HasCode code cause) (has' : HasCode code' cause) : code = code' := by
  have ⟨d, dict, code_, _⟩ := has
  have ⟨d', dict', code'_, _⟩ := has'
  have same : d = d' := by
    rw [dict] at dict'
    exact Value.dict.inj dict'
  rw [← same, code_] at code'_
  exact Value.str_inj.1 code'_

theorem lockDiffers_eq (has : HasCode code cause) :
    lockDiffers cause = .ok false ∧ IsCause code cause ∨
      lockDiffers cause = .ok true ∧ ¬Valid cause := by
  have ⟨d, dict, code_, known⟩ := has
  have lock := lock_of_known code known
  have differs : lockDiffers cause =
      .ok (!(Dict.get d "lock_class").eq (.str (originOf code).code)) := by
    have hashed : (Dict.getD d "cause_code" .none).hashed = .ok (.str code) := by
      rw [Value.getD_none, code_]
      rfl
    rw [dict]
    unfold lockDiffers Value.getOr
    dsimp only [bind, Except.bind]
    rw [hashed]
    dsimp only
    rw [lock]
    rfl
  have eqStr : (Dict.get d "lock_class").eq (.str (originOf code).code) =
      (Dict.get d "lock_class").eqStr (originOf code).code := by
    cases Dict.get d "lock_class" <;> rfl
  rw [differs, eqStr]
  cases same : (Dict.get d "lock_class").eqStr (originOf code).code with
  | true => exact .inl ⟨rfl, d, dict, code_, _, lock, Value.eqStr_iff.1 same⟩
  | false =>
    refine .inr ⟨rfl, fun ⟨code', is⟩ => ?_⟩
    have codes : code' = code := is.hasCode.unique has
    have ⟨d', dict', _, lock', known', class'⟩ := is
    have same' : d' = d := by
      rw [dict] at dict'
      exact (Value.dict.inj dict').symm
    rw [codes, lock] at known'
    rw [same', ← Option.some.inj known'] at class'
    exact absurd (Value.eqStr_iff.2 class') (ne_true_of_eq_false same)

theorem IsCause.known (is : IsCause code cause) : code ∈ knownCodes := by
  have ⟨_, _, _, known⟩ := is.hasCode
  exact known

end

/-! ### What a list of causes gives -/

section
variable {causes : List Value} {code : String}

/-- The code of a supported cause, whatever its lock class. -/
def codeOf (cause : Value) : Option String :=
  (cause.asDict?.map fun d => Dict.get d "cause_code").bind knownCode

theorem codeOf_eq_some {cause : Value} : codeOf cause = some code ↔ HasCode code cause := by
  unfold codeOf
  rw [Option.bind_eq_some_iff]
  constructor
  · intro ⟨v, got, known⟩
    have ⟨d, dict, read⟩ := Option.map_eq_some_iff.1 got
    have ⟨is, known⟩ := knownCode_eq_some.1 known
    exact ⟨d, Value.asDict?_eq_some.1 dict, read.trans is, known⟩
  · intro ⟨d, dict, read, known⟩
    refine ⟨Value.str code, ?_, knownCode_eq_some.2 ⟨rfl, known⟩⟩
    exact Option.map_eq_some_iff.2 ⟨d, Value.asDict?_eq_some.2 dict, read⟩

theorem supported_ok (readable : ∀ cause ∈ causes, Readable cause) :
    supportedCodes (causeCodes causes) = .ok (causes.filterMap codeOf) := by
  have hashable : ∀ v ∈ causeCodes causes, ∃ key, v = .atom key := by
    intro v mem
    have ⟨cause, mem, got⟩ := List.mem_filterMap.1 mem
    have ⟨d, dict, read⟩ := Option.map_eq_some_iff.1 got
    have ⟨key, is⟩ := readable cause mem d (Value.asDict?_eq_some.1 dict)
    exact ⟨key, read.symm.trans is⟩
  rw [supportedCodes_ok hashable]
  unfold causeCodes
  rw [List.filterMap_filterMap]
  rfl

/-- The three lengths agree when every cause has a code. -/
theorem lengths_iff : (causeCodes causes).length = causes.length ∧
      (causes.filterMap codeOf).length = (causeCodes causes).length ↔
    ∀ cause ∈ causes, ∃ code, HasCode code cause := by
  have all : (causes.filterMap codeOf).length = causes.length ↔
      ∀ cause ∈ causes, ∃ code, HasCode code cause := by
    rw [List.filterMap_length_eq_length]
    refine forall₂_congr fun cause _ => ?_
    rw [Option.isSome_iff_exists]
    exact exists_congr fun code => codeOf_eq_some
  have codes : (causeCodes causes).length ≤ causes.length := List.length_filterMap_le ..
  have supported : (causes.filterMap codeOf).length ≤ (causeCodes causes).length := by
    have split : causes.filterMap codeOf = (causeCodes causes).filterMap knownCode := by
      unfold causeCodes
      rw [List.filterMap_filterMap]
      rfl
    rw [split]
    exact List.length_filterMap_le ..
  rw [← all]
  omega

theorem anyLockDiffers_ok (coded : ∀ cause ∈ causes, ∃ code, HasCode code cause) :
    ∃ differs, anyLockDiffers causes = .ok differs ∧
      (differs = false ↔ ∀ cause ∈ causes, Valid cause) := by
  induction causes with
  | nil => exact ⟨false, rfl, fun _ _ mem => absurd mem List.not_mem_nil, fun _ => rfl⟩
  | cons cause rest ih =>
    have ⟨code, has⟩ := coded cause List.mem_cons_self
    have ⟨differs, later, valid⟩ := ih fun c mem => coded c (List.mem_cons_of_mem _ mem)
    unfold anyLockDiffers
    refine (lockDiffers_eq has).elim (fun ⟨same, is⟩ => ?_) fun ⟨differ, not⟩ => ?_
    · rw [same]
      refine ⟨differs, later, ?_⟩
      rw [valid, List.forall_mem_cons]
      exact (and_iff_right ⟨code, is⟩).symm
    · rw [differ]
      refine ⟨true, rfl, nofun, fun all => ?_⟩
      exact absurd (all cause List.mem_cons_self) not

/-- A code of the causes, and none of them has a smaller priority. -/
def Strictest (code : String) (causes : List Value) : Prop :=
  (∃ cause ∈ causes, IsCause code cause) ∧
    ∀ code', (∃ cause ∈ causes, IsCause code' cause) → priorityOf code ≤ priorityOf code'

theorem origin_unclassified (readable : ∀ cause ∈ causes, Readable cause)
    (bad : causes = [] ∨ ∃ cause ∈ causes, ¬Valid cause) :
    consultationOriginFromLedger causes = .ok unclassified := by
  unfold consultationOriginFromLedger
  dsimp only
  rw [supported_ok readable]
  dsimp only [bind, Except.bind]
  split
  · rfl
  · rename_i whole
    have ⟨nonempty, codes, lengths⟩ : ¬(causes.filterMap codeOf).isEmpty = true ∧
        (causeCodes causes).length = causes.length ∧
        (causes.filterMap codeOf).length = (causeCodes causes).length := by
      simpa [not_or, and_assoc] using whole
    have coded := lengths_iff.1 ⟨codes, lengths⟩
    have ⟨differs, checked, valid⟩ := anyLockDiffers_ok coded
    have differ : differs = true := by
      refine Bool.eq_true_of_not_eq_false fun same => ?_
      have all := valid.1 same
      refine bad.elim (fun none => nonempty (by rw [none]; rfl)) fun ⟨cause, mem, not⟩ => ?_
      exact not (all cause mem)
    rw [checked, differ]
    rfl

theorem origin_strictest (readable : ∀ cause ∈ causes, Readable cause) (some_ : causes ≠ [])
    (valid : ∀ cause ∈ causes, Valid cause) :
    ∃ code, Strictest code causes ∧
      consultationOriginFromLedger causes = .ok (originOf code, code) := by
  have coded : ∀ cause ∈ causes, ∃ code, HasCode code cause := fun cause mem =>
    have ⟨code, is⟩ := valid cause mem
    ⟨code, is.hasCode⟩
  have ⟨codes, lengths⟩ := lengths_iff.2 coded
  have member : ∀ code, code ∈ causes.filterMap codeOf ↔ ∃ cause ∈ causes, IsCause code cause := by
    intro code
    rw [List.mem_filterMap]
    refine exists_congr fun cause => and_congr_right fun mem => ?_
    rw [codeOf_eq_some]
    refine ⟨fun has => ?_, IsCause.hasCode⟩
    have ⟨code', is⟩ := valid cause mem
    exact has.unique is.hasCode ▸ is
  have nonempty : causes.filterMap codeOf ≠ [] := by
    intro none
    rw [none] at lengths
    exact some_ (List.length_eq_zero_iff.1 (codes.symm.trans lengths.symm))
  have ⟨differs, checked, iff⟩ := anyLockDiffers_ok coded
  cases least : (causes.filterMap codeOf).argmin priorityOf with
  | none => exact absurd (List.argmin_eq_none.1 least) nonempty
  | some selected =>
    refine ⟨selected, ⟨(member selected).1 (List.argmin_mem least), fun code' has => ?_⟩, ?_⟩
    · exact List.le_of_mem_argmin ((member code').2 has) least
    · unfold consultationOriginFromLedger
      dsimp only
      rw [supported_ok readable]
      dsimp only [bind, Except.bind]
      rw [if_neg (by simp [nonempty, codes, lengths]), checked, iff.2 valid]
      dsimp only
      rw [if_neg Bool.false_ne_true, least]
      rfl

theorem Strictest.known (strictest : Strictest code causes) : code ∈ knownCodes :=
  have ⟨⟨_, _, is⟩, _⟩ := strictest
  is.known

theorem Strictest.unique {code' : String} (strictest : Strictest code causes)
    (other : Strictest code' causes) : code = code' := by
  have le := strictest.2 code' other.1
  have ge := other.2 code strictest.1
  exact priorityOf_injective code strictest.known code' other.known (le_antisymm le ge)

theorem isHarness_iff {cause : Value} : IsHarness cause ↔
    IsCause "HARNESS_UNSUPPORTED_FUNCTION" cause ∨ IsCause "HARNESS_SCOPE_EXCEEDED" cause := by
  constructor
  · intro ⟨d, dict, code, lock⟩
    exact code.imp (fun code => ⟨d, dict, code, _, rfl, lock⟩)
      fun code => ⟨d, dict, code, _, rfl, lock⟩
  · refine fun is => is.elim (fun ⟨d, dict, code, lock, known, read⟩ => ?_)
      fun ⟨d, dict, code, lock, known, read⟩ => ?_
    · exact ⟨d, dict, .inl code, Option.some.inj known ▸ read⟩
    · exact ⟨d, dict, .inr code, Option.some.inj known ▸ read⟩

/-- The two HARNESS codes come last, so they decide only when every cause has one of them. -/
theorem Strictest.harness (strictest : Strictest code causes)
    (valid : ∀ cause ∈ causes, Valid cause) :
    originOf code = .nonSafetyResolvable ↔ ∀ cause ∈ causes, IsHarness cause := by
  constructor
  · intro resolvable cause mem
    have ⟨code', is⟩ := valid cause mem
    have le := strictness_mono code strictest.known code' is.known (strictest.2 code' ⟨cause, mem, is⟩)
    have last : ∀ code' ∈ knownCodes, 3 ≤ strictness (originOf code') →
        originOf code' = .nonSafetyResolvable := by decide
    rw [resolvable] at le
    refine isHarness_iff.2 ?_
    refine (harness_of_origin code' is.known (last code' is.known le)).imp ?_ ?_
    · exact fun same => same ▸ is
    · exact fun same => same ▸ is
  · intro harness
    have ⟨⟨cause, mem, is⟩, _⟩ := strictest
    refine (isHarness_iff.1 (harness cause mem)).elim (fun has => ?_) fun has => ?_
    · rw [is.hasCode.unique has.hasCode]
      rfl
    · rw [is.hasCode.unique has.hasCode]
      rfl

theorem IsHarness.valid {cause : Value} (is : IsHarness cause) : Valid cause :=
  (isHarness_iff.1 is).elim (fun is => ⟨_, is⟩) fun is => ⟨_, is⟩

/-- The result is that of the members, and no valid cause added to some causes weakens it. -/
theorem origin_mono {more : List Value} {cause : Value}
    (readable : ∀ c ∈ causes, Readable c) (readable' : ∀ c ∈ more, Readable c)
    (some_ : causes ≠ []) (valid : Valid cause) (adds : ∀ c, c ∈ more ↔ c = cause ∨ c ∈ causes) :
    ∃ origin code origin' code', consultationOriginFromLedger causes = .ok (origin, code) ∧
      consultationOriginFromLedger more = .ok (origin', code') ∧
        strictness origin' ≤ strictness origin := by
  have nonempty : more ≠ [] := List.ne_nil_of_mem ((adds cause).2 (.inl rfl))
  by_cases all : ∀ c ∈ causes, Valid c
  · have all' : ∀ c ∈ more, Valid c := fun c mem =>
      ((adds c).1 mem).elim (fun same => same ▸ valid) (all c)
    have ⟨code, strictest, result⟩ := origin_strictest readable some_ all
    have ⟨code', strictest', result'⟩ := origin_strictest readable' nonempty all'
    refine ⟨_, code, _, code', result, result', ?_⟩
    have ⟨⟨c, mem, is⟩, _⟩ := strictest
    refine strictness_mono code' strictest'.known code strictest.known ?_
    exact strictest'.2 code ⟨c, (adds c).2 (.inr mem), is⟩
  · have bad : ∃ c ∈ causes, ¬Valid c := by simpa using all
    have ⟨c, mem, not⟩ := bad
    have result := origin_unclassified readable (.inr bad)
    have result' := origin_unclassified readable' (.inr ⟨c, (adds c).2 (.inr mem), not⟩)
    exact ⟨_, _, _, _, result, result', le_refl _⟩

theorem valid_or_not (causes : List Value) : (causes ≠ [] ∧ ∀ c ∈ causes, Valid c) ∨
    causes = [] ∨ ∃ c ∈ causes, ¬Valid c := by
  by_cases none : causes = []
  · exact .inr (.inl none)
  · by_cases all : ∀ c ∈ causes, Valid c
    · exact .inl ⟨none, all⟩
    · exact .inr (.inr (by simpa using all))

theorem origin_members {others : List Value} (readable : ∀ c ∈ causes, Readable c)
    (same : ∀ c, c ∈ others ↔ c ∈ causes) :
    consultationOriginFromLedger others = consultationOriginFromLedger causes := by
  have readable' : ∀ c ∈ others, Readable c := fun c mem => readable c ((same c).1 mem)
  refine (valid_or_not causes).elim (fun ⟨some_, valid⟩ => ?_) fun bad => ?_
  · have ⟨c, mem⟩ := List.exists_mem_of_ne_nil causes some_
    have ⟨code, strictest, result⟩ := origin_strictest readable some_ valid
    have ⟨code', strictest', result'⟩ := origin_strictest readable'
      (List.ne_nil_of_mem ((same c).2 mem)) fun c mem => valid c ((same c).1 mem)
    have strictest'' : Strictest code' causes := by
      simpa only [Strictest, same] using strictest'
    rw [result, result', strictest.unique strictest'']
  · rw [origin_unclassified readable bad]
    refine origin_unclassified readable' (bad.imp (fun none => ?_) fun ⟨c, mem, not⟩ => ?_)
    · exact List.eq_nil_iff_forall_not_mem.2 fun c mem => by
        have mem := (same c).1 mem
        rw [none] at mem
        exact List.not_mem_nil mem
    · exact ⟨c, (same c).2 mem, not⟩

theorem Valid.readable {cause : Value} (valid : Valid cause) : Readable cause := by
  intro d dict
  have ⟨code, d', dict', read, _⟩ := valid
  have same : d' = d := Value.dict.inj (dict'.symm.trans dict)
  exact ⟨.str code, same ▸ read⟩

/-! ### The rows of a ledger -/

/-- The entry that a row stands for. -/
def causeValue (cause : LedgerCause) : Value :=
  mapping [("cause_code", .str cause.causeCode), ("lock_class", .str cause.lockClass)]

theorem isCause_row {row : LedgerCause} : IsCause code (causeValue row) ↔
    row.causeCode = code ∧ ledgerLockByCause.lookup code = some row.lockClass := by
  have read : ∀ d : Dict, causeValue row = .dict d →
      Dict.get d "cause_code" = Value.str row.causeCode ∧
        Dict.get d "lock_class" = Value.str row.lockClass := by
    intro d dict
    rw [← Value.dict.inj dict]
    exact ⟨rfl, rfl⟩
  constructor
  · intro ⟨d, dict, code_, lock, known, class_⟩
    have ⟨codes, classes⟩ := read d dict
    have same := Value.str_inj.1 (classes.symm.trans class_)
    exact ⟨Value.str_inj.1 (codes.symm.trans code_), same ▸ known⟩
  · intro ⟨same, known⟩
    have ⟨codes, classes⟩ := read _ rfl
    exact ⟨_, rfl, same ▸ codes, row.lockClass, known, classes⟩

/-- The causes stand at the place of their priority. -/
theorem ledgerCauses_at : ∀ code ∈ knownCodes,
    (HumanReviewService.ledgerCauses[priorityOf code]?).map (fun e => (e.1, e.2.1, e.2.2.code)) =
      some (code, originOf code, code) := by decide

theorem ledgerCauses_known : ∀ e ∈ HumanReviewService.ledgerCauses, e.1 ∈ knownCodes := by decide

theorem priorityOf_ledgerCauses : ∀ i : Fin HumanReviewService.ledgerCauses.length,
    priorityOf HumanReviewService.ledgerCauses[i].1 = i := by decide

/-- The first of the codes in the order of the priorities is the strictest. -/
theorem find_strictest {p : String → Bool} (mem : code ∈ knownCodes) (holds : p code = true)
    (least : ∀ code' ∈ knownCodes, p code' = true → priorityOf code ≤ priorityOf code') :
    ∃ reason : OriginReason, reason.code = code ∧
      HumanReviewService.ledgerCauses.find? (fun entry => p entry.1) = some (code, originOf code, reason) := by
  have ⟨(code', origin, reason), at_, is⟩ := Option.map_eq_some_iff.1 (ledgerCauses_at code mem)
  have ⟨codes, origins, reasons⟩ : code' = code ∧ origin = originOf code ∧ reason.code = code := by
    simpa using is
  rw [codes, origins] at at_
  refine ⟨reason, reasons, List.find?_eq_some_iff_getElem.2 ⟨holds, ?_⟩⟩
  have ⟨lt, eq⟩ := List.getElem?_eq_some_iff.1 at_
  refine ⟨priorityOf code, lt, eq, fun j before => ?_⟩
  have bound := before.trans lt
  refine (Bool.not_eq_eq_eq_not ..).2 (Bool.eq_false_iff.2 fun has => ?_)
  have le := least _ (ledgerCauses_known _ (List.getElem_mem bound)) has
  have place := priorityOf_ledgerCauses ⟨j, bound⟩
  exact absurd (le.trans_eq place) (Nat.not_le.2 before)

theorem lookup_map_snd {β γ : Type} (f : β → γ) (table : List (String × β)) (key : String) :
    (table.map fun e => (e.1, f e.2)).lookup key = (table.lookup key).map f := by
  induction table with
  | nil => rfl
  | cons e rest ih =>
    rw [List.map_cons, List.lookup_cons, List.lookup_cons, ih]
    cases key == e.1 <;> rfl

/-- On rows, whose fields are strings, the ledger is read as `originFromLedger` reads it. -/
theorem originFromLedger_eq (rows : List LedgerCause) :
    consultationOriginFromLedger (rows.map causeValue) =
      .ok ((HumanReviewService.originFromLedger rows).1,
        (HumanReviewService.originFromLedger rows).2.code) := by
  have locks : ledgerLockByCause =
      HumanReviewService.ledgerCauses.map fun e => (e.1, e.2.1.code) := rfl
  have valid_iff : ∀ row : LedgerCause,
      Valid (causeValue row) ↔ HumanReviewService.isSupported row = true := by
    intro row
    have lookup : Valid (causeValue row) ↔
        ledgerLockByCause.lookup row.causeCode = some row.lockClass := by
      refine ⟨fun ⟨code, is⟩ => ?_, fun known => ⟨_, isCause_row.2 ⟨rfl, known⟩⟩⟩
      have ⟨same, known⟩ := isCause_row.1 is
      exact same ▸ known
    rw [lookup, locks, lookup_map_snd fun e : ConsultationOrigin × OriginReason => e.1.code]
    unfold HumanReviewService.isSupported
    cases HumanReviewService.ledgerCauses.lookup row.causeCode <;> simp
  have readable : ∀ c ∈ rows.map causeValue, Readable c := by
    intro c mem d dict
    have ⟨row, _, is⟩ := List.mem_map.1 mem
    rw [← is] at dict
    rw [← Value.dict.inj dict]
    exact ⟨.str row.causeCode, rfl⟩
  unfold HumanReviewService.originFromLedger
  refine (valid_or_not (rows.map causeValue)).elim (fun ⟨some_, valid⟩ => ?_) fun bad => ?_
  · have ⟨code, strictest, result⟩ := origin_strictest readable some_ valid
    have codes : ∀ code, (rows.map (·.causeCode)).contains code = true ↔
        ∃ c ∈ rows.map causeValue, IsCause code c := by
      intro code
      rw [List.contains_iff_mem, List.mem_map]
      constructor
      · intro ⟨row, mem, same⟩
        have there : causeValue row ∈ rows.map causeValue := List.mem_map_of_mem mem
        have ⟨code', is⟩ := valid (causeValue row) there
        have same' : code' = code := (isCause_row.1 is).1.symm.trans same
        exact ⟨causeValue row, there, same' ▸ is⟩
      · intro ⟨c, mem, is⟩
        have ⟨row, there, eq⟩ := List.mem_map.1 mem
        rw [← eq] at is
        exact ⟨row, there, (isCause_row.1 is).1⟩
    have ⟨reason, named, found⟩ := find_strictest strictest.known ((codes code).2 strictest.1)
      fun code' _ has => strictest.2 code' ((codes code').1 has)
    have all : (!rows.isEmpty && rows.all HumanReviewService.isSupported) = true := by
      have nonempty : rows ≠ [] := fun none => some_ (by rw [none]; rfl)
      have supported : ∀ row ∈ rows, HumanReviewService.isSupported row = true :=
        fun row mem => (valid_iff row).1 (valid _ (List.mem_map_of_mem mem))
      rw [Bool.and_eq_true, List.all_eq_true]
      exact ⟨by simpa using nonempty, supported⟩
    rw [result, if_pos all, found, ← named]
    rfl
  · have notAll : ¬(!rows.isEmpty && rows.all HumanReviewService.isSupported) = true := by
      intro all
      have ⟨nonempty, supported⟩ : rows ≠ [] ∧
          ∀ row ∈ rows, HumanReviewService.isSupported row = true := by
        simpa using all
      refine bad.elim (fun none => nonempty (List.map_eq_nil_iff.1 none)) fun ⟨c, mem, not⟩ => ?_
      have ⟨row, mem, is⟩ := List.mem_map.1 mem
      exact not (is ▸ (valid_iff row).2 (supported row mem))
    rw [origin_unclassified readable bad, if_neg notAll]
    rfl

end

/-! ### The rule -/

/-- Readable causes give one origin: that of the smallest priority when all are valid, the
unclassified one otherwise. It is the same for the same members, and a valid cause added to
some causes never weakens it. -/
theorem strictest_cause_rule (causes : List Value) (readable : ∀ c ∈ causes, Readable c) :
    ∃ origin reason, consultationOriginFromLedger causes = .ok (origin, reason) ∧
      (origin = .nonSafetyResolvable ↔ causes ≠ [] ∧ ∀ c ∈ causes, IsHarness c) ∧
      ((∃ c ∈ causes, ¬Valid c) → origin = .unknownLocked) ∧
      (causes = [] → origin = .unknownLocked) ∧
      (causes ≠ [] → (∀ c ∈ causes, Valid c) →
        ∃ code, Strictest code causes ∧ origin = originOf code) ∧
      (∀ others, (∀ c, c ∈ others ↔ c ∈ causes) →
        consultationOriginFromLedger others = .ok (origin, reason)) ∧
      (causes ≠ [] → ∀ cause more, Valid cause → (∀ c, c ∈ more ↔ c = cause ∨ c ∈ causes) →
        ∃ origin' reason', consultationOriginFromLedger more = .ok (origin', reason') ∧
          strictness origin' ≤ strictness origin) := by
  have mono : ∀ origin reason, consultationOriginFromLedger causes = .ok (origin, reason) →
      causes ≠ [] → ∀ cause more, Valid cause → (∀ c, c ∈ more ↔ c = cause ∨ c ∈ causes) →
        ∃ origin' reason', consultationOriginFromLedger more = .ok (origin', reason') ∧
          strictness origin' ≤ strictness origin := by
    intro origin reason result some_ cause more valid adds
    have readable' : ∀ c ∈ more, Readable c := fun c mem =>
      ((adds c).1 mem).elim (fun same => same ▸ valid.readable) (readable c)
    have ⟨before, _, after, code', result₁, result₂, le⟩ :=
      origin_mono readable readable' some_ valid adds
    have same : before = origin := (Prod.mk.inj (Except.ok.inj (result₁.symm.trans result))).1
    exact ⟨after, code', result₂, same ▸ le⟩
  refine (valid_or_not causes).elim (fun ⟨some_, valid⟩ => ?_) fun bad => ?_
  · have ⟨code, strictest, result⟩ := origin_strictest readable some_ valid
    refine ⟨_, _, result, ?_, ?_, ?_, ?_, ?_, mono _ _ result⟩
    · rw [strictest.harness valid]
      exact (and_iff_right some_).symm
    · intro ⟨c, mem, not⟩
      exact absurd (valid c mem) not
    · intro none
      exact absurd none some_
    · intro _ _
      exact ⟨code, strictest, rfl⟩
    · intro others same
      rw [origin_members readable same, result]
  · have result := origin_unclassified readable bad
    refine ⟨_, _, result, ?_, fun _ => rfl, fun _ => rfl, ?_, ?_, mono _ _ result⟩
    · refine ⟨nofun, fun ⟨some_, harness⟩ => ?_⟩
      refine bad.elim (fun none => absurd none some_) fun ⟨c, mem, not⟩ => ?_
      exact absurd (harness c mem).valid not
    · intro some_ valid
      refine bad.elim (fun none => absurd none some_) fun ⟨c, mem, not⟩ => ?_
      exact absurd (valid c mem) not
    · intro others same
      rw [origin_members readable same, result]
      rfl

namespace Sample

def harness : Value :=
  causeValue ⟨"HARNESS_SCOPE_EXCEEDED", "NON_SAFETY_RESOLVABLE"⟩

def unhashable : Value := mapping [("cause_code", .list []), ("lock_class", .none)]

theorem harness_is : IsHarness harness := isHarness_iff.2 (.inr (isCause_row.2 ⟨rfl, rfl⟩))

/-- Four causes of three codes. -/
def rows : List LedgerCause :=
  [⟨"HARNESS_SCOPE_EXCEEDED", "NON_SAFETY_RESOLVABLE"⟩,
    ⟨"FAIL_CLOSED_AI_RESULT", "FAIL_CLOSED_LOCKED"⟩,
    ⟨"HARNESS_UNSUPPORTED_FUNCTION", "NON_SAFETY_RESOLVABLE"⟩,
    ⟨"HARNESS_SCOPE_EXCEEDED", "NON_SAFETY_RESOLVABLE"⟩]

def causes : List Value := rows.map causeValue

/-- The same without the repetition, in another order. -/
def reordered : List Value := rows.tail.reverse.map causeValue

theorem causes_valid : ∀ c ∈ causes, Valid c := by
  have locked : ∀ row ∈ rows, ledgerLockByCause.lookup row.causeCode = some row.lockClass := by
    decide
  intro c mem
  have ⟨row, listed, same⟩ := List.mem_map.1 mem
  rw [← same]
  exact ⟨_, isCause_row.2 ⟨rfl, locked row listed⟩⟩

theorem causes_strictest : Strictest "FAIL_CLOSED_AI_RESULT" causes := by
  have least : ∀ row ∈ rows, priorityOf "FAIL_CLOSED_AI_RESULT" ≤ priorityOf row.causeCode := by
    decide
  refine ⟨⟨_, List.mem_cons_of_mem _ List.mem_cons_self, isCause_row.2 ⟨rfl, rfl⟩⟩, ?_⟩
  intro code ⟨c, mem, is⟩
  have ⟨row, listed, same⟩ := List.mem_map.1 mem
  rw [← same] at is
  rw [← (isCause_row.1 is).1]
  exact least row listed

end Sample

/-- The failed result decides, in every order and however often the others are repeated. -/
theorem strictest_cause_rule_harness : ∃ reason,
    consultationOriginFromLedger Sample.causes = .ok (.failClosedLocked, reason) ∧
      consultationOriginFromLedger Sample.reordered = .ok (.failClosedLocked, reason) := by
  have valid := Sample.causes_valid
  have some_ : Sample.causes ≠ [] := List.cons_ne_nil _ _
  have ⟨origin, reason, result, _, _, _, strictest, members, _⟩ :=
    strictest_cause_rule Sample.causes fun c mem => (valid c mem).readable
  have ⟨code, strictest, same⟩ := strictest some_ valid
  rw [strictest.unique Sample.causes_strictest] at same
  rw [same] at result members
  refine ⟨reason, result, members Sample.reordered fun c => ?_⟩
  simp only [Sample.reordered, Sample.causes, Sample.rows, List.tail_cons, List.reverse_cons,
    List.reverse_nil, List.nil_append, List.cons_append, List.map_cons, List.map_nil,
    List.mem_cons, List.not_mem_nil, or_false]
  tauto

/-- A HARNESS cause added to no causes unlocks the consultation, and a code that is a list
raises where an unknown one would lock it. -/
theorem first_cause_unlocks :
    Valid Sample.harness ∧
      consultationOriginFromLedger [] = .ok (.unknownLocked, "UNCLASSIFIED_AI_SIGNAL") ∧
      consultationOriginFromLedger [Sample.harness] =
        .ok (.nonSafetyResolvable, "HARNESS_SCOPE_EXCEEDED") ∧
      ¬strictness .nonSafetyResolvable ≤ strictness .unknownLocked ∧
      ¬Valid Sample.unhashable ∧
      consultationOriginFromLedger [Sample.unhashable] = .error .typeError := by
  refine ⟨Sample.harness_is.valid, rfl, rfl, by decide, ?_, rfl⟩
  intro ⟨code, d, dict, read, _⟩
  have same : Dict.get d "cause_code" = .list [] := by
    rw [← Value.dict.inj dict]
    rfl
  exact nomatch same.symm.trans read

end WaterCare.Service.CauseLedger
