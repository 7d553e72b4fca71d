import WaterCare.Ai.SafetyRules

/-!
Which danger assessments the generator and the validator agree on. The loader does not
look at the keys `priority`, `restricted_functions` and `next_actions`, and where they are
absent the generator has its defaults and the validator has none.
-/

namespace WaterCare.Ai.SafetyRules
open Store Analysis Machine Py

/-! ### The effective rules -/

/-- A rule of danger that the assessment names. -/
structure Matched (config : SafetyRules) (ids : List String) (rule : Dict) : Prop where
  declared : rule ∈ config.rules.map Prod.snd
  danger : rule.find "risk_level" = some (.str "danger")
  named : ∃ id ∈ ids, rule.find "rule_id" = some (.str id)

def HasStatus (rule : Dict) (status : UsageGuidanceStatus) : Prop :=
  rule.find "usage_guidance_status" = some (.str status.code)

/-- A matched rule that no other restricts more than. -/
structure Effective (config : SafetyRules) (ids : List String) (rule : Dict) : Prop where
  matched : Matched config ids rule
  strongest : ∃ status, HasStatus rule status ∧ ∀ other otherStatus,
    Matched config ids other → HasStatus other otherStatus →
      statusPrecedence otherStatus ≤ statusPrecedence status

/-- What the loader makes sure of in a rule. -/
structure Accepted (rule : Dict) : Prop where
  ruleId : ∃ id, rule.find "rule_id" = some (.str id)
  status : ∃ status, HasStatus rule status

variable {isDecimal : Char → Bool} {config : SafetyRules} {ids : List String} {rule : Dict}

/-! ### What the readers of a rule return -/

theorem raising_eq_ok {α : Type} {x : Except Exn α} {a : α} : raising x = .ok a ↔ x = .ok a := by
  cases x with
  | ok b => exact ⟨fun h => congrArg _ (Except.ok.inj h), fun h => congrArg _ (Except.ok.inj h)⟩
  | error e => exact iff_of_false nofun nofun

theorem item_eq_ok {key : String} {value : Value} :
    item rule key = .ok value ↔ rule.find key = some value := by
  rw [item, raising_eq_ok, Dict.item_eq_ok_iff]

theorem statusOf_eq_ok {value : Value} {status : UsageGuidanceStatus} :
    statusOf value = .ok status ↔ value = .str status.code := by
  constructor
  · intro h
    unfold statusOf at h
    split at h
    · next found =>
        cases h
        have same := List.find?_some found
        exact Value.eqStr_iff.1 same
    · cases h
  · rintro rfl
    cases status with
    | _ => rfl

theorem priorityOf_eq_ok {value : Value} {priority : SafetyPriority} :
    priorityOf value = .ok priority ↔ value = .str (priorityCode priority) := by
  constructor
  · intro h
    unfold priorityOf at h
    split at h
    · next found =>
        cases h
        have same := List.find?_some found
        exact Value.eqStr_iff.1 same
    · cases h
  · rintro rfl
    cases priority with
    | _ => rfl

theorem status_eq_ok {status : UsageGuidanceStatus} :
    (item rule "usage_guidance_status" >>= statusOf) = .ok status ↔ HasStatus rule status := by
  rw [bind_eq_ok]
  constructor
  · rintro ⟨value, read, h⟩
    rw [statusOf_eq_ok.1 h] at read
    exact item_eq_ok.1 read
  · intro h
    exact ⟨_, item_eq_ok.2 h, statusOf_eq_ok.2 rfl⟩

theorem priority_eq_ok {priority : SafetyPriority} :
    (item rule "priority" >>= priorityOf) = .ok priority ↔
      rule.find "priority" = some (.str (priorityCode priority)) := by
  rw [bind_eq_ok]
  constructor
  · rintro ⟨value, read, h⟩
    rw [priorityOf_eq_ok.1 h] at read
    exact item_eq_ok.1 read
  · intro h
    exact ⟨_, item_eq_ok.2 h, priorityOf_eq_ok.2 rfl⟩

/-! ### What the loader accepts -/

theorem checkRule_eq_ok {seen seen' : List String} {key : Atom}
    (h : checkRule isDecimal seen key rule = .ok seen') :
    Accepted rule ∧ sortKey rule ∉ seen ∧ seen' = seen ++ [sortKey rule] := by
  simp only [checkRule, bind_eq_ok, require_eq_ok] at h
  obtain ⟨_, -, ruleId, read, _, formed, _, fresh, _, -, status, hasStatus, h⟩ := h
  obtain ⟨_, -, _, -, _, -, _, -, h⟩ := h
  obtain ⟨id, isText, -⟩ := (Option.any_eq_true _ _).1 formed
  have found : rule.find "rule_id" = some (.str id) := by
    rw [item_eq_ok.1 read, Value.asStr?_eq_some.1 isText]
  have key : sortKey rule = id := by
    rw [sortKey, Dict.get_of_find found]
    rfl
  rw [isText] at fresh h
  rw [key]
  refine ⟨⟨⟨id, found⟩, status, status_eq_ok.1 (bind_eq_ok.2 hasStatus)⟩, ?_, (Except.ok.inj h).symm⟩
  simpa using fresh

theorem foldlM_checkRule {rules : List (Atom × Dict)} {seen seen' : List String}
    (h : rules.foldlM (fun seen entry => checkRule isDecimal seen entry.1 entry.2) seen =
      .ok seen') :
    (∀ entry ∈ rules, Accepted entry.2) ∧
      (seen.Nodup → (seen ++ rules.map fun entry => sortKey entry.2).Nodup) := by
  induction rules generalizing seen with
  | nil => exact ⟨nofun, fun nodup => by simpa using nodup⟩
  | cons entry rules ih =>
      rw [List.foldlM_cons] at h
      obtain ⟨seen₁, checked, h⟩ := bind_eq_ok.1 h
      obtain ⟨accepted, fresh, rfl⟩ := checkRule_eq_ok checked
      have ⟨all, nodup⟩ := ih h
      refine ⟨List.forall_mem_cons.2 ⟨accepted, all⟩, fun before => ?_⟩
      have longer : (seen ++ [sortKey entry.2]).Nodup := by
        refine List.nodup_append.2 ⟨before, List.nodup_singleton _, ?_⟩
        intro id mem other single
        rw [List.mem_singleton.1 single]
        exact fun same => fresh (same ▸ mem)
      have nodup := nodup longer
      rwa [List.append_assoc] at nodup

theorem accepted_of_validate (h : validate isDecimal config = .ok ()) :
    (∀ rule ∈ config.rules.map Prod.snd, Accepted rule) ∧
      ((config.rules.map Prod.snd).map sortKey).Nodup := by
  simp only [validate, bind_eq_ok] at h
  obtain ⟨_, -, seen, checked, -⟩ := h
  have ⟨accepted, nodup⟩ := foldlM_checkRule checked
  constructor
  · intro rule declared
    obtain ⟨entry, mem, rfl⟩ := List.mem_map.1 declared
    exact accepted entry mem
  · have nodup := nodup List.nodup_nil
    rwa [List.nil_append, ← Function.comp_def, ← List.map_map] at nodup

/-! ### The selection -/

theorem le_foldl_max (ns : List Nat) (m : Nat) :
    m ≤ ns.foldl max m ∧ ∀ n ∈ ns, n ≤ ns.foldl max m := by
  induction ns generalizing m with
  | nil => exact ⟨le_rfl, nofun⟩
  | cons n ns ih =>
      have ⟨start, rest⟩ := ih (max m n)
      refine ⟨(le_max_left m n).trans start, ?_⟩
      exact List.forall_mem_cons.2 ⟨(le_max_right m n).trans start, rest⟩

theorem foldl_max_mem (ns : List Nat) (m : Nat) :
    ns.foldl max m = m ∨ ns.foldl max m ∈ ns := by
  induction ns generalizing m with
  | nil => exact .inl rfl
  | cons n ns ih =>
      rw [List.foldl_cons]
      rcases ih (max m n) with start | mem
      · rcases Nat.le_total n m with below | above
        · exact .inl (start.trans (Nat.max_eq_left below))
        · rw [start, Nat.max_eq_right above]
          exact .inr List.mem_cons_self
      · exact .inr (List.mem_cons_of_mem n mem)

theorem zip_filter {α : Type} (xs : List α) (f : α → Nat) (n : Nat) :
    ((xs.zip (xs.map f)).filter fun both => both.2 == n).map Prod.fst =
      xs.filter fun x => f x == n := by
  induction xs with
  | nil => rfl
  | cons x xs ih =>
      rw [List.map_cons, List.zip_cons_cons, List.filter_cons, List.filter_cons]
      by_cases here : (f x == n) = true
      · rw [if_pos here, if_pos here, List.map_cons, ih]
      · rw [if_neg here, if_neg here, ih]

def restriction (rule : Dict) : Nat := (precedence rule).toOption.getD 0

theorem HasStatus.precedence_eq {status : UsageGuidanceStatus} (h : HasStatus rule status) :
    precedence rule = .ok (statusPrecedence status) := by
  rw [precedence, bind_of_ok (status_eq_ok.2 h)]
  rfl

theorem HasStatus.restriction_eq {status : UsageGuidanceStatus} (h : HasStatus rule status) :
    restriction rule = statusPrecedence status := by
  rw [restriction, h.precedence_eq]
  rfl

theorem Accepted.precedence_eq (h : Accepted rule) : precedence rule = .ok (restriction rule) := by
  have ⟨status, hasStatus⟩ := h.status
  rw [hasStatus.precedence_eq, hasStatus.restriction_eq]

theorem sortKey_of_find {id : String} (h : rule.find "rule_id" = some (.str id)) :
    sortKey rule = id := by
  rw [sortKey, Dict.get_of_find h]
  rfl

/-- The matched rules in the order of the configuration. -/
def named (config : SafetyRules) (ids : List String) : List Dict :=
  (config.rules.map Prod.snd).filter fun rule =>
    ids.contains (sortKey rule) && (rule.get "risk_level").eqStr RiskLevel.danger.code

theorem candidates_eq (accepted : ∀ rule ∈ config.rules.map Prod.snd, Accepted rule) :
    config.candidates ids .danger = .ok (named config ids) := by
  refine filterM_of_ok fun rule declared => ?_
  have ⟨id, found⟩ := (accepted rule declared).ruleId
  have matched : isMatched ids rule = .ok (ids.contains (sortKey rule)) := by
    rw [isMatched, Dict.get_of_find found, sortKey_of_find found, List.contains_eq_any_beq]
    simp only [Value.hashed_str, raising]
    rfl
  rw [bind_of_ok matched]
  rfl

theorem mem_named (accepted : ∀ rule ∈ config.rules.map Prod.snd, Accepted rule) :
    rule ∈ named config ids ↔ Matched config ids rule := by
  rw [named, List.mem_filter, Bool.and_eq_true, Value.eqStr_iff, List.contains_iff_mem]
  constructor
  · rintro ⟨declared, mem, danger⟩
    obtain ⟨id, found⟩ := (accepted rule declared).ruleId
    rw [sortKey_of_find found] at mem
    exact ⟨declared, Dict.find_of_get danger (by simp [Value.str]), id, mem, found⟩
  · intro h
    obtain ⟨id, mem, found⟩ := h.named
    rw [sortKey_of_find found]
    exact ⟨h.declared, mem, Dict.get_of_find h.danger⟩

/-- The selection succeeds on an accepted configuration, with the effective rules by id. -/
theorem select_spec (ids : List String) (accepted : ∀ rule ∈ config.rules.map Prod.snd, Accepted rule) :
    ∃ rules, config.selectEffectiveSafetyRules ids .danger = .ok rules ∧
      (∀ rule, rule ∈ rules ↔ Effective config ids rule) ∧
      rules.Pairwise fun rule other => sortKey rule ≤ sortKey other := by
  have ranked : (named config ids).mapM precedence = .ok ((named config ids).map restriction) :=
    mapM_of_ok fun rule mem => (accepted rule ((mem_named accepted).1 mem).declared).precedence_eq
  have selected : config.selectEffectiveSafetyRules ids .danger = .ok
      (((named config ids).filter fun rule =>
        restriction rule == ((named config ids).map restriction).foldl max 0).insertionSort
          fun rule other => sortKey rule ≤ sortKey other) := by
    rw [selectEffectiveSafetyRules, bind_of_ok (candidates_eq accepted), bind_of_ok ranked]
    exact congrArg (fun rules : List Dict => Except.ok (rules.insertionSort
      fun rule other => sortKey rule ≤ sortKey other)) (zip_filter _ _ _)
  refine ⟨_, selected, fun rule => ?_, ?_⟩
  · rw [(List.perm_insertionSort _ _).mem_iff, List.mem_filter, mem_named accepted, beq_iff_eq]
    have ⟨_, above⟩ := le_foldl_max ((named config ids).map restriction) 0
    constructor
    · rintro ⟨matched, highest⟩
      have ⟨status, hasStatus⟩ := (accepted rule matched.declared).status
      refine ⟨matched, status, hasStatus, fun other otherStatus otherMatched otherHas => ?_⟩
      rw [← hasStatus.restriction_eq, ← otherHas.restriction_eq, highest]
      exact above _ (List.mem_map_of_mem ((mem_named accepted).2 otherMatched))
    · intro h
      have ⟨status, hasStatus, most⟩ := h.strongest
      have mem := List.mem_map_of_mem (f := restriction) ((mem_named accepted).2 h.matched)
      refine ⟨h.matched, Nat.le_antisymm (above _ mem) ?_⟩
      rcases foldl_max_mem ((named config ids).map restriction) 0 with zero | attained
      · rw [zero]
        exact Nat.zero_le _
      · obtain ⟨other, otherMem, same⟩ := List.mem_map.1 attained
        have otherMatched := (mem_named accepted).1 otherMem
        have ⟨otherStatus, otherHas⟩ := (accepted other otherMatched.declared).status
        rw [← same, hasStatus.restriction_eq, otherHas.restriction_eq]
        exact most other otherStatus otherMatched otherHas
  · exact List.pairwise_insertionSort _ _

/-- The order of the matched ids is not read. -/
theorem select_perm {ids' : List String} (same : ids'.Perm ids) (riskLevel : RiskLevel) :
    config.selectEffectiveSafetyRules ids' riskLevel =
      config.selectEffectiveSafetyRules ids riskLevel := by
  have matched : isMatched ids' = isMatched ids := by
    funext rule
    rw [isMatched, isMatched]
    congr 1
    funext ruleId
    congr 1
    exact same.any_eq
  rw [selectEffectiveSafetyRules, selectEffectiveSafetyRules, candidates, candidates, matched]

/-! ### The merged lists -/

def IsText (value : Value) : Prop := ∃ s, value = .str s

theorem map_str_of_isText {values : List Value} (h : ∀ value ∈ values, IsText value) :
    ∃ texts : List String, values = texts.map .str := by
  induction values with
  | nil => exact ⟨[], rfl⟩
  | cons value values ih =>
      have ⟨⟨s, first⟩, rest⟩ := List.forall_mem_cons.1 h
      have ⟨texts, same⟩ := ih rest
      exact ⟨s :: texts, by rw [first, same, List.map_cons]⟩

theorem isText_of_eq {value other : Value} (same : value.eq other = true) (text : IsText value) :
    IsText other := by
  obtain ⟨s, rfl⟩ := text
  cases other with
  | atom a =>
      cases a with
      | str t => exact ⟨t, rfl⟩
      | none | bool _ | int _ | float _ _ => simp [Value.str, Value.eq, Atom.eq, Atom.number?] at same
  | list _ | dict _ => simp [Value.str, Value.eq] at same

theorem mem_of_mem_merged {values merged : List Value} {value : Value}
    (h : value ∈ values.foldl addItem merged) : value ∈ merged ∨ value ∈ values := by
  induction values generalizing merged with
  | nil => exact .inl h
  | cons other values ih =>
      rcases ih h with before | later
      · rw [addItem] at before
        split at before
        · exact .inl before
        · rcases List.mem_append.1 before with before | here
          · exact .inl before
          · rw [List.mem_singleton.1 here]
            exact .inr List.mem_cons_self
      · exact .inr (List.mem_cons_of_mem other later)

theorem mem_addItem {merged : List Value} {value other : Value} (h : value ∈ merged) :
    value ∈ addItem merged other := by
  rw [addItem]
  split
  · exact h
  · exact List.mem_append_left _ h

theorem mem_merged {values merged : List Value} {value : Value} (h : value ∈ merged) :
    value ∈ values.foldl addItem merged := by
  induction values generalizing merged with
  | nil => exact h
  | cons other values ih => exact ih (mem_addItem h)

/-- Nothing that is merged is lost up to equality. -/
theorem merged_of_mem {values : List Value} {value : Value} (merged : List Value)
    (h : value ∈ values) :
    ∃ kept ∈ values.foldl addItem merged, kept = value ∨ kept.eq value = true := by
  induction values generalizing merged with
  | nil => cases h
  | cons other values ih =>
      rcases List.mem_cons.1 h with rfl | later
      · by_cases there : merged.any (·.eq value) = true
        · obtain ⟨kept, before, same⟩ := List.any_eq_true.1 there
          refine ⟨kept, ?_, .inr same⟩
          rw [List.foldl_cons]
          exact mem_merged (mem_addItem before)
        · have here : value ∈ addItem merged value := by
            rw [addItem, if_neg there]
            exact List.mem_append_right _ (List.mem_singleton_self value)
          refine ⟨value, ?_, .inl rfl⟩
          rw [List.foldl_cons]
          exact mem_merged here
      · exact ih _ later

theorem merged_texts {values : List Value} :
    (∀ value ∈ values.foldl addItem [], IsText value) ↔ ∀ value ∈ values, IsText value := by
  constructor
  · intro texts value mem
    have ⟨kept, there, same⟩ := merged_of_mem [] mem
    rcases same with rfl | same
    · exact texts kept there
    · exact isText_of_eq same (texts kept there)
  · intro texts value mem
    exact texts value ((mem_of_mem_merged mem).resolve_left List.not_mem_nil)

theorem merged_eq_nil {values : List Value} : values.foldl addItem [] = [] ↔ values = [] := by
  constructor
  · intro none
    refine List.eq_nil_iff_forall_not_mem.2 fun value mem => ?_
    have ⟨kept, there, _⟩ := merged_of_mem [] mem
    rw [none] at there
    cases there
  · rintro rfl
    rfl

/-- The rules hold texts under the key, if anything, and one of them does. -/
structure Listed (rules : Dict → Prop) (fieldName : String) : Prop where
  texts : ∀ rule, rules rule → ∃ texts : List String,
    (rule.getD fieldName (.list [])).iter = .ok (texts.map .str)
  filled : ∃ rule, rules rule ∧ (rule.getD fieldName (.list [])).iter ≠ .ok []

/-- The effective rules that the next actions are taken from. -/
structure Acting (config : SafetyRules) (ids : List String) (rule : Dict) : Prop where
  effective : Effective config ids rule
  exclusive : isExclusive rule ∨ ∀ other, Effective config ids other → ¬isExclusive other

theorem mem_selectedRules_actions {rules : List Dict}
    (effective : ∀ rule, rule ∈ rules ↔ Effective config ids rule) :
    rule ∈ selectedRules rules "next_actions" ↔ Acting config ids rule := by
  have mem : rule ∈ selectedRules rules "next_actions" ↔
      rule ∈ rules ∧ (isExclusive rule ∨ rules.filter isExclusive = []) := by
    rw [selectedRules]
    by_cases none : rules.filter isExclusive = []
    · rw [none]
      simp
    · simp [none, List.mem_filter]
  rw [mem, List.filter_eq_nil_iff, effective]
  constructor
  · rintro ⟨mem, exclusive⟩
    exact ⟨mem, exclusive.imp_right fun none other mem => none other ((effective other).2 mem)⟩
  · intro h
    exact ⟨h.effective, h.exclusive.imp_right fun none other mem =>
      none other ((effective other).1 mem)⟩

/-- The merge gives texts where the rules hold texts, and some where they hold some. -/
theorem mergeRuleListField_spec {rules : List Dict} (fieldName : String) {selected : Dict → Prop}
    (members : ∀ rule, rule ∈ selectedRules rules fieldName ↔ selected rule) :
    (∃ texts : List String, texts ≠ [] ∧
      mergeRuleListField rules fieldName = .ok (texts.map .str)) ↔ Listed selected fieldName := by
  constructor
  · rintro ⟨texts, filled, merged⟩
    obtain ⟨fields, mapped, merged⟩ := bind_eq_ok.1 merged
    have merged : fields.flatten.foldl addItem [] = texts.map .str := Except.ok.inj merged
    have all : ∀ value ∈ fields.flatten, IsText value := by
      refine merged_texts.1 fun value mem => ?_
      rw [merged] at mem
      obtain ⟨s, -, rfl⟩ := List.mem_map.1 mem
      exact ⟨s, rfl⟩
    have related := mapM_eq_ok mapped
    constructor
    · intro rule h
      have ⟨items, mem, read⟩ := forall₂_mem related.flip ((members rule).2 h)
      have ⟨texts, same⟩ := map_str_of_isText fun value there =>
        all value (List.mem_flatten_of_mem mem there)
      exact ⟨texts, same ▸ raising_eq_ok.1 read⟩
    · have some : fields.flatten ≠ [] := by
        intro none
        rw [merged_eq_nil.2 none] at merged
        exact filled (List.map_eq_nil_iff.1 merged.symm)
      obtain ⟨value, there⟩ := List.exists_mem_of_ne_nil _ some
      obtain ⟨items, mem, there⟩ := List.mem_flatten.1 there
      have ⟨rule, selectedRule, read⟩ := forall₂_mem related mem
      refine ⟨rule, (members rule).1 selectedRule, fun none => ?_⟩
      rw [Except.ok.inj ((raising_eq_ok.1 read).symm.trans none)] at there
      cases there
  · intro listed
    let itemsOf (rule : Dict) : List Value := (fieldItems fieldName rule).toOption.getD []
    have read : ∀ rule, selected rule →
        fieldItems fieldName rule = .ok (itemsOf rule) ∧ ∀ value ∈ itemsOf rule, IsText value := by
      intro rule h
      have ⟨texts, items⟩ := listed.texts rule h
      have items : fieldItems fieldName rule = .ok (texts.map .str) := raising_eq_ok.2 items
      have same : itemsOf rule = texts.map .str := by
        simp only [itemsOf, items]
        rfl
      rw [items, same]
      refine ⟨rfl, fun value mem => ?_⟩
      obtain ⟨s, -, rfl⟩ := List.mem_map.1 mem
      exact ⟨s, rfl⟩
    have merged : mergeRuleListField rules fieldName =
        .ok (((selectedRules rules fieldName).map itemsOf).flatten.foldl addItem []) := by
      rw [mergeRuleListField, bind_of_ok (mapM_of_ok fun rule mem =>
        (read rule ((members rule).1 mem)).1)]
      rfl
    have all : ∀ value ∈ ((selectedRules rules fieldName).map itemsOf).flatten, IsText value := by
      intro value mem
      obtain ⟨items, there, mem⟩ := List.mem_flatten.1 mem
      obtain ⟨rule, selectedRule, rfl⟩ := List.mem_map.1 there
      exact (read rule ((members rule).1 selectedRule)).2 value mem
    have ⟨texts, same⟩ := map_str_of_isText (merged_texts.2 all)
    refine ⟨texts, ?_, merged.trans (congrArg _ same)⟩
    rintro rfl
    have none := merged_eq_nil.1 same
    have ⟨rule, selectedRule, holds⟩ := listed.filled
    have empty : itemsOf rule = [] := List.flatten_eq_nil_iff.1 none _
      (List.mem_map_of_mem ((members rule).2 selectedRule))
    refine holds (raising_eq_ok.1 ?_)
    exact (read rule selectedRule).1.trans (congrArg _ empty)

/-! ### Generator and validator -/

theorem sameTexts_iff {texts : List String} {values : List Value} :
    sameTexts texts values = true ↔ values = texts.map .str := by
  rw [sameTexts]
  induction texts generalizing values with
  | nil => cases values with
    | nil => exact iff_of_true rfl rfl
    | cons _ _ => exact iff_of_false nofun nofun
  | cons s texts ih => cases values with
    | nil => exact iff_of_false nofun nofun
    | cons value values =>
        have head : (Value.str s).eq value = true ↔ value = .str s := by
          constructor
          · intro same
            obtain ⟨t, rfl⟩ := isText_of_eq same ⟨s, rfl⟩
            exact congrArg _ (of_decide_eq_true same).symm
          · rintro rfl
            exact decide_eq_true rfl
        rw [List.map_cons, Value.eqItems, Bool.and_eq_true, head, ih, List.cons.injEq]

theorem mapM_asStr?_eq_some {values : List Value} {texts : List String} :
    values.mapM Value.asStr? = some texts ↔ values = texts.map .str := by
  constructor
  · intro h
    have related := mapM_eq_some h
    induction related with
    | nil => rfl
    | @cons value s values texts first _ ih =>
        have rest : values.mapM Value.asStr? = some texts := by
          rw [List.mapM_cons, first] at h
          obtain ⟨_, _, h⟩ := Option.bind_eq_some_iff.1 h
          obtain ⟨others, mapped, same⟩ := Option.bind_eq_some_iff.1 h
          exact mapped.trans (congrArg some (List.cons.inj (Option.some.inj same)).2)
        rw [Value.asStr?_eq_some.1 first, ih rest, List.map_cons]
  · rintro rfl
    induction texts with
    | nil => rfl
    | cons s texts ih =>
        rw [List.map_cons, List.mapM_cons, ih]
        rfl

theorem usageGuidance_eq_ok {status : UsageGuidanceStatus} {message : String}
    {restricted actions : List Value} {guidance : UsageGuidance} :
    usageGuidance status (.str message) restricted actions = .ok guidance ↔
      guidance.guidanceStatus = status ∧ guidance.message = message ∧
        restricted = guidance.restrictedFunctions.map .str ∧
          actions = guidance.nextActions.map .str := by
  rw [← mapM_asStr?_eq_some, ← mapM_asStr?_eq_some, usageGuidance]
  cases restricted.mapM Value.asStr? with
  | none => exact iff_of_false nofun nofun
  | some texts =>
      cases actions.mapM Value.asStr? with
      | none => exact iff_of_false nofun nofun
      | some others =>
          constructor
          · intro h
            cases h
            exact ⟨rfl, rfl, rfl, rfl⟩
          · rintro ⟨rfl, rfl, same, same'⟩
            cases same
            cases same'
            rfl

/-- The condition under which the validator accepts what the generator returns. -/
structure Aligned (config : SafetyRules) (safety : SafetyAssessment) : Prop where
  consulted : safety.requiresConsultation = true
  prior : ∃ rule, Effective config safety.matchedSafetyRuleIds rule ∧
    (∀ other, Effective config safety.matchedSafetyRuleIds other → sortKey rule ≤ sortKey other) ∧
      rule.find "priority" = some (.str (priorityCode safety.priority))
  consulting : ∀ rule, Effective config safety.matchedSafetyRuleIds rule →
    rule.find "requires_consultation" = some (.bool true)
  restrictions : Listed (Effective config safety.matchedSafetyRuleIds) "restricted_functions"
  actions : Listed (Acting config safety.matchedSafetyRuleIds) "next_actions"

variable {safety : SafetyAssessment} {guidance : UsageGuidance}

theorem determineGuidance_danger (config : SafetyRules) (safety : SafetyAssessment) (danger : safety.riskLevel = .danger) (hasEvidence : Bool) :
    config.determineGuidance safety hasEvidence =
      config.dangerGuidance safety.matchedSafetyRuleIds := by
  rw [determineGuidance, danger]
  cases hasEvidence with
  | _ => rfl

/-- The guidance where rules are effective. -/
theorem dangerGuidance_eq_ok {first : Dict} {rest : List Dict} {status : UsageGuidanceStatus}
    (selected : config.selectEffectiveSafetyRules ids .danger = .ok (first :: rest))
    (hasStatus : HasStatus first status) :
    config.dangerGuidance ids = .ok guidance ↔
      ∃ restricted actions,
        mergeRuleListField (first :: rest) "restricted_functions" = .ok restricted ∧
        mergeRuleListField (first :: rest) "next_actions" = .ok actions ∧
        guidance.guidanceStatus = status ∧
        guidance.message =
          "위험 신호가 감지되어 정수기 사용 제한 및 안전 조치가 필요합니다." ∧
        orElse restricted defaultRestrictions = guidance.restrictedFunctions.map .str ∧
        orElse actions defaultActions = guidance.nextActions.map .str := by
  have read : statusOf (first.getD "usage_guidance_status" (.str "TOTAL_STOP")) = .ok status := by
    rw [Dict.getD_of_find hasStatus]
    exact statusOf_eq_ok.2 rfl
  rw [dangerGuidance, bind_of_ok selected]
  simp only [bind_of_ok read, bind_eq_ok, usageGuidance_eq_ok]
  constructor
  · rintro ⟨restricted, merged, actions, merged', h⟩
    exact ⟨restricted, actions, merged, merged', h⟩
  · rintro ⟨restricted, actions, merged, merged', h⟩
    exact ⟨restricted, merged, actions, merged', h⟩

/-- What the validator compares where rules are effective. -/
theorem align_eq_ok {first : Dict} {rest : List Dict} {status : UsageGuidanceStatus}
    (danger : safety.riskLevel = .danger)
    (selected : config.selectEffectiveSafetyRules safety.matchedSafetyRuleIds .danger =
      .ok (first :: rest))
    (hasStatus : HasStatus first status) {hashes : List Atom}
    (configured : (config.rules.mapM fun entry => raising (entry.2.get "rule_id").hashed) =
      .ok hashes) :
    config.align safety guidance = .ok () ↔
      safety.requiresConsultation = true ∧ safety.matchedSafetyRuleIds ≠ [] ∧
        (∀ id ∈ safety.matchedSafetyRuleIds, ∃ hash ∈ hashes, hash.eq (.str id) = true) ∧
        (∀ rule ∈ first :: rest, (rule.get "requires_consultation").isTrue = true) ∧
        first.find "priority" = some (.str (priorityCode safety.priority)) ∧
        guidance.guidanceStatus = status ∧
        mergeRuleListField (first :: rest) "restricted_functions" =
          .ok (guidance.restrictedFunctions.map .str) ∧
        mergeRuleListField (first :: rest) "next_actions" =
          .ok (guidance.nextActions.map .str) := by
  rw [align, danger, if_neg (by decide), require_bind_eq_ok, require_bind_eq_ok,
    bind_of_ok configured, require_bind_eq_ok, bind_of_ok selected]
  simp only [require_bind_eq_ok, bind_of_ok (status_eq_ok.2 hasStatus)]
  rw [Bool.not_eq_true', List.isEmpty_eq_false_iff, List.all_eq_true, List.all_eq_true]
  refine and_congr_right fun _ => and_congr_right fun _ => ?_
  refine and_congr (forall₂_congr fun id _ => List.any_eq_true) (and_congr_right fun _ => ?_)
  constructor
  · intro h
    obtain ⟨priority, found, h⟩ := bind_eq_ok.1 h
    obtain ⟨restricted, merged, h⟩ := bind_eq_ok.1 h
    obtain ⟨actions, merged', h⟩ := bind_eq_ok.1 h
    obtain ⟨samePriority, h⟩ := require_bind_eq_ok.1 h
    obtain ⟨sameStatus, h⟩ := require_bind_eq_ok.1 h
    obtain ⟨sameRestricted, h⟩ := require_bind_eq_ok.1 h
    refine ⟨?_, eq_of_beq sameStatus, ?_, ?_⟩
    · rw [eq_of_beq samePriority]
      exact priority_eq_ok.1 found
    · rw [merged, sameTexts_iff.1 sameRestricted]
    · rw [merged', sameTexts_iff.1 (require_eq_ok.1 h)]
  · rintro ⟨priority, sameStatus, merged, merged'⟩
    rw [bind_of_ok (priority_eq_ok.2 priority), bind_of_ok merged, bind_of_ok merged',
      require_bind_eq_ok, require_bind_eq_ok, require_bind_eq_ok, require_eq_ok]
    exact ⟨beq_self_eq_true _, beq_iff_eq.2 sameStatus, sameTexts_iff.2 rfl, sameTexts_iff.2 rfl⟩

/-- The generator returns a guidance that the validator accepts, and reads no order of the ids. -/
structure Agreement (config : SafetyRules) (safety : SafetyAssessment) (hasEvidence : Bool) :
    Prop where
  accepted : ∃ guidance, config.determineGuidance safety hasEvidence = .ok guidance ∧
    config.align safety guidance = .ok ()
  order : ∀ ids : List String, ids.Perm safety.matchedSafetyRuleIds →
    config.determineGuidance { safety with matchedSafetyRuleIds := ids } hasEvidence =
      config.determineGuidance safety hasEvidence

theorem isTrue_get : (rule.get "requires_consultation").isTrue = true ↔
    rule.find "requires_consultation" = some (.bool true) := by
  constructor
  · intro h
    refine Dict.find_of_get ?_ (by simp [Value.bool])
    unfold Value.isTrue at h
    split at h
    · assumption
    · cases h
  · intro h
    rw [Dict.get_of_find h]
    rfl

theorem align_none (danger : safety.riskLevel = .danger)
    (selected : config.selectEffectiveSafetyRules safety.matchedSafetyRuleIds .danger = .ok []) :
    config.align safety guidance ≠ .ok () := by
  intro h
  rw [align, danger, if_neg (by decide), require_bind_eq_ok, require_bind_eq_ok] at h
  obtain ⟨_, _, h⟩ := bind_eq_ok.1 h.2.2
  rw [require_bind_eq_ok, bind_of_ok selected] at h
  cases h.2

theorem orElse_of_ne {items others : List Value} (h : items ≠ []) : orElse items others = items := by
  rw [orElse, if_neg (by simpa using h)]

/-- Where the items are kept, they are some: the others are. -/
theorem ne_of_orElse {items others : List Value} (some : others ≠ [])
    (h : orElse items others = items) : items ≠ [] := by
  rintro rfl
  exact some h

/-- A guidance is accepted exactly if the effective rules name what the generator would
otherwise make up, and the assessment has their priority. -/
theorem accepted_iff_aligned (hasEvidence : Bool) (danger : safety.riskLevel = .danger)
    (loaded : validate isDecimal config = .ok ())
    (known : ∀ id ∈ safety.matchedSafetyRuleIds, ∃ rule ∈ config.rules.map Prod.snd,
      rule.find "rule_id" = some (.str id)) :
    (∃ guidance, config.determineGuidance safety hasEvidence = .ok guidance ∧
      config.align safety guidance = .ok ()) ↔ Aligned config safety := by
  have ⟨accepted, nodup⟩ := accepted_of_validate loaded
  have ⟨rules, selected, members, ordered⟩ :=
    select_spec safety.matchedSafetyRuleIds accepted
  cases rules with
  | nil =>
      refine iff_of_false ?_ fun h => ?_
      · rintro ⟨guidance, _, aligned⟩
        exact align_none danger selected aligned
      · have ⟨rule, effective, _⟩ := h.prior
        cases (members rule).2 effective
  | cons first rest =>
      have effective := (members first).1 List.mem_cons_self
      have ⟨status, hasStatus, _⟩ := effective.strongest
      have least : ∀ other, Effective config safety.matchedSafetyRuleIds other →
          sortKey first ≤ sortKey other := by
        intro other h
        rcases List.mem_cons.1 ((members other).2 h) with rfl | later
        · exact String.le_refl _
        · exact (List.pairwise_cons.1 ordered).1 other later
      have restrictions := mergeRuleListField_spec "restricted_functions" members
      have acting : ∀ rule, rule ∈ selectedRules (first :: rest) "next_actions" ↔
          Acting config safety.matchedSafetyRuleIds rule :=
        fun rule => mem_selectedRules_actions members
      have actions := mergeRuleListField_spec "next_actions" acting
      have configured : (config.rules.mapM fun entry => raising (entry.2.get "rule_id").hashed) =
          .ok (config.rules.map fun entry => .str (sortKey entry.2)) := by
        refine mapM_of_ok fun entry mem => ?_
        have ⟨id, found⟩ := (accepted entry.2 (List.mem_map_of_mem mem)).ruleId
        rw [Dict.get_of_find found, sortKey_of_find found]
        rfl
      rw [determineGuidance_danger config safety danger]
      constructor
      · rintro ⟨guidance, determined, aligned⟩
        obtain ⟨restricted, acts, merged, merged', -, -, texts, texts'⟩ :=
          (dangerGuidance_eq_ok selected hasStatus).1 determined
        obtain ⟨consulted, -, -, consulting, priority, -, same, same'⟩ :=
          (align_eq_ok danger selected hasStatus configured).1 aligned
        rw [← Except.ok.inj (merged.symm.trans same)] at texts
        rw [← Except.ok.inj (merged'.symm.trans same')] at texts'
        refine ⟨consulted, ⟨first, effective, least, priority⟩, ?_, ?_, ?_⟩
        · intro rule h
          exact isTrue_get.1 (consulting rule ((members rule).2 h))
        · have kept : restricted ≠ [] := ne_of_orElse (List.cons_ne_nil _ _) texts
          refine restrictions.1 ⟨_, fun none => kept ?_, same⟩
          rw [Except.ok.inj (merged.symm.trans same), none, List.map_nil]
        · have kept : acts ≠ [] := ne_of_orElse (List.cons_ne_nil _ _) texts'
          refine actions.1 ⟨_, fun none => kept ?_, same'⟩
          rw [Except.ok.inj (merged'.symm.trans same'), none, List.map_nil]
      · intro h
        obtain ⟨texts, filled, merged⟩ := restrictions.2 h.restrictions
        obtain ⟨texts', filled', merged'⟩ := actions.2 h.actions
        have ⟨rule, ruleEffective, ruleLeast, priority⟩ := h.prior
        have same : rule = first := by
          refine List.inj_on_of_nodup_map nodup ruleEffective.matched.declared
            effective.matched.declared ?_
          exact String.le_antisymm (ruleLeast first effective) (least rule ruleEffective)
        rw [same] at priority
        refine ⟨⟨status, "위험 신호가 감지되어 정수기 사용 제한 및 안전 조치가 필요합니다.",
          texts, texts'⟩, ?_, ?_⟩
        · refine (dangerGuidance_eq_ok selected hasStatus).2
            ⟨_, _, merged, merged', rfl, rfl, orElse_of_ne ?_, orElse_of_ne ?_⟩
          · exact fun none => filled (List.map_eq_nil_iff.1 none)
          · exact fun none => filled' (List.map_eq_nil_iff.1 none)
        · refine (align_eq_ok danger selected hasStatus configured).2
            ⟨h.consulted, ?_, ?_, ?_, priority, rfl, merged, merged'⟩
          · obtain ⟨id, mem, _⟩ := effective.matched.named
            exact List.ne_nil_of_mem mem
          · intro id mem
            obtain ⟨rule, declared, found⟩ := known id mem
            obtain ⟨entry, mem, rfl⟩ := List.mem_map.1 declared
            refine ⟨_, List.mem_map_of_mem mem, ?_⟩
            rw [sortKey_of_find found]
            exact decide_eq_true rfl
          · intro other mem
            exact isTrue_get.2 (h.consulting other ((members other).1 mem))

/-- For loaded rules the generator and the validator agree on a danger assessment of known
ids exactly if it is aligned; the order of the ids is never read. -/
theorem agreement_iff_aligned (isDecimal : Char → Bool) (config : SafetyRules)
    (safety : SafetyAssessment) (hasEvidence : Bool) (danger : safety.riskLevel = .danger)
    (loaded : validate isDecimal config = .ok ())
    (known : ∀ id ∈ safety.matchedSafetyRuleIds, ∃ rule ∈ config.rules.map Prod.snd,
      rule.find "rule_id" = some (.str id)) :
    Agreement config safety hasEvidence ↔ Aligned config safety := by
  rw [← accepted_iff_aligned hasEvidence danger loaded known]
  refine ⟨fun h => h.accepted, fun accepted => ⟨accepted, fun ids same => ?_⟩⟩
  have reordered := determineGuidance_danger config { safety with matchedSafetyRuleIds := ids }
    danger hasEvidence
  rw [reordered, determineGuidance_danger config safety danger, dangerGuidance, dangerGuidance,
    select_perm same]

/-- A rule of danger without the keys that the loader does not look at. -/
def bareRule (ruleId : String) (status : UsageGuidanceStatus) : Dict :=
  [(.str "rule_id", .str ruleId), (.str "risk_level", .str "danger"),
    (.str "usage_guidance_status", .str status.code), (.str "keywords", .list [.str "누수"]),
    (.str "requires_consultation", .bool true)]

def wholeRule (ruleId : String) (status : UsageGuidanceStatus) : Dict :=
  bareRule ruleId status ++ [(.str "priority", .str "priority_consultation"),
    (.str "restricted_functions", .list [.str "전체 출수 기능 중지"]),
    (.str "next_actions", .list [.str "전문 기사 방문 점검을 요청하세요."])]

def samplePolicy : Dict :=
  [(.str "default_risk_level", .str "caution"),
    (.str "default_priority", .str "consultation_recommended"),
    (.str "default_usage_guidance_status", .str "PENDING_CONSULTATION"),
    (.str "requires_consultation", .bool true), (.str "safety_reason", .str "근거 없음"),
    (.str "message", .str "상담을 요청해 주세요.")]

def sampleAssessment : SafetyAssessment :=
  ⟨.danger, .priorityConsultation, true, ["SAFETY-LEAK-001"], "누수 감지"⟩

/-- Two rules that restrict the same and one that restricts less, named in another order. -/
def leakRules : SafetyRules :=
  ⟨[(.str "leak_danger", wholeRule "SAFETY-LEAK-001" .totalStop),
    (.str "noise_danger", wholeRule "SAFETY-NOISE-001" .partialStop),
    (.str "electric_danger", wholeRule "SAFETY-ELECTRIC-001" .totalStop)], samplePolicy⟩

def leakAssessment : SafetyAssessment :=
  { sampleAssessment with
    matchedSafetyRuleIds := ["SAFETY-NOISE-001", "SAFETY-LEAK-001", "SAFETY-ELECTRIC-001"] }

theorem leakRules_loaded : validate Char.isDigit leakRules = .ok () := by decide +kernel

theorem leakRules_known : ∀ id ∈ leakAssessment.matchedSafetyRuleIds,
    ∃ rule ∈ leakRules.rules.map Prod.snd, rule.find "rule_id" = some (.str id) := by
  have known : ∀ id ∈ leakAssessment.matchedSafetyRuleIds,
      ∃ rule ∈ leakRules.rules.map Prod.snd,
        (rule.find "rule_id").any (·.eqStr id) = true := by decide +kernel
  intro id mem
  have ⟨rule, declared, found⟩ := known id mem
  refine ⟨rule, declared, ?_⟩
  have ⟨value, found, same⟩ := (Option.any_eq_true _ _).1 found
  rw [found, Value.eqStr_iff.1 same]

theorem leakRules_aligned : Aligned leakRules leakAssessment := by
  refine (accepted_iff_aligned true rfl leakRules_loaded leakRules_known).1 ?_
  have ran : (leakRules.determineGuidance leakAssessment true >>=
    leakRules.align leakAssessment) = .ok () := by decide +kernel
  exact bind_eq_ok.1 ran

theorem agreement_iff_aligned_leak : Agreement leakRules leakAssessment true :=
  (agreement_iff_aligned Char.isDigit leakRules leakAssessment true rfl leakRules_loaded
    leakRules_known).2 leakRules_aligned

/-- A loaded rule without a priority, restrictions and actions. -/
def bareRules : SafetyRules :=
  ⟨[(.str "leak_danger", bareRule "SAFETY-LEAK-001" .totalStop)], samplePolicy⟩

/-- The generator has its defaults, the validator fails to look the priority up. -/
theorem agreement_broken :
    validate Char.isDigit bareRules = .ok () ∧
    (∃ guidance, determineGuidance bareRules sampleAssessment true = .ok guidance ∧
      align bareRules sampleAssessment guidance = .error (.raised (.keyError "priority"))) ∧
    ¬Agreement bareRules sampleAssessment true := by
  refine ⟨by decide +kernel, ⟨_, rfl, rfl⟩, fun h => ?_⟩
  obtain ⟨guidance, determined, aligned⟩ := h.accepted
  cases determined
  cases aligned

end WaterCare.Ai.SafetyRules
