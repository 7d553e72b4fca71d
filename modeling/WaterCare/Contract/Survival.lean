import WaterCare.Contract.Permissions
import WaterCare.Contract.Reading
import WaterCare.Py.Total

/-!
Which documents `collect_contract_errors` gets through. Its sections go on after a malformed
field, and later ones read that field again: a document is survived when every such reading
finds a value that Python can iterate, search, hash or order.
-/

namespace WaterCare.Contract
open Py Py.Audit

/-! ### The helper checks -/

/-- The stripped text of a value, when it is a string with some. -/
def text? (value : Value) : Option String := (nonemptyString? value).map strip

/-- The texts of a list. -/
def textsOf (value : Value) : List String := (value.asList?.getD []).filterMap text?

/-- A value that is a mapping and not empty. -/
def filled? : Value → Option Dict
  | .dict (e :: es) => some (e :: es)
  | _ => none

def entriesOf (value : Value) : List Dict := (value.asList?.getD []).filterMap filled?

/-- The first of the entries whose field has the text. -/
def firstWith (key code : String) (entries : List Dict) : Option Dict :=
  entries.find? fun entry => text? (entry.get key) == some code

theorem foldl_toList {α β : Type} (f : α → Option β) (xs : List α) (acc : List β) :
    xs.foldl (fun acc x => acc ++ (f x).toList) acc = acc ++ xs.filterMap f := by
  induction xs generalizing acc with
  | nil => exact (List.append_nil acc).symm
  | cons x xs ih =>
    rw [List.foldl_cons, ih, List.append_assoc, List.filterMap_cons]
    cases f x <;> rfl

theorem returns_report {α : Type} (message : String) (a : α) :
    Returns (do report message; pure a) a :=
  ⟨_, rfl⟩

theorem returns_stringList (value : Value) (path : String) (required : Bool) :
    Returns (stringList value path required) (textsOf value) := by
  cases value with
  | atom _ | dict _ => exact ⟨_, rfl⟩
  | list items =>
    unfold stringList
    dsimp only
    split
    · rename_i empty
      have none : items = [] := List.isEmpty_iff.1 (Bool.and_eq_true_iff.1 empty).2
      rw [none]
      exact ⟨_, rfl⟩
    · refine returns_bind.2 ⟨textsOf (.list items), ?_, ?_⟩
      · rw [show textsOf (.list items) = _ from (foldl_toList text? items []).symm]
        refine returns_foldIdx (fun i acc item => ?_) items 0 []
        unfold text?
        cases filled : nonemptyString? item with
        | none =>
          rw [stringItem_none filled]
          exact (List.append_nil acc).symm ▸ returns_report _ acc
        | some s =>
          rw [stringItem_some filled]
          exact returns_pure _
      · obtain ⟨_, each⟩ : Total (forEach (fun duplicate =>
            report s!"{path}: 중복 값 {pyRepr duplicate}이 있습니다.")
              (duplicateValues (textsOf (.list items)))) := Total.forEach fun _ => Total.report _
        exact returns_bind.2 ⟨_, each, returns_pure _⟩

theorem returns_mappingEntries (value : Value) (path : String) (required : Bool) :
    Returns (mappingEntries value path required) (entriesOf value) := by
  cases value with
  | atom _ | dict _ => exact ⟨_, rfl⟩
  | list items =>
    unfold mappingEntries
    dsimp only
    split
    · rename_i empty
      have none : items = [] := List.isEmpty_iff.1 (Bool.and_eq_true_iff.1 empty).2
      rw [none]
      exact ⟨_, rfl⟩
    · rw [show entriesOf (.list items) = _ from (foldl_toList filled? items []).symm]
      refine returns_foldIdx (fun i acc item => ?_) items 0 []
      cases item with
      | atom _ | list _ => exact (List.append_nil acc).symm ▸ returns_report _ acc
      | dict d =>
        cases d with
        | nil => exact (List.append_nil acc).symm ▸ returns_report _ acc
        | cons e es => exact returns_pure _

theorem returns_document (documents : Dict) (name : String) :
    Returns (document documents name) (docSection (.dict documents) name) := by
  unfold document docSection
  dsimp only [Value.asDict?, Option.getD]
  cases documents.get name with
  | atom _ | list _ => exact returns_report _ _
  | dict d =>
    cases d with
    | nil => exact returns_report _ _
    | cons e es => exact returns_pure _

theorem returns_requiredString (entry : Dict) (key path : String) :
    Returns (requiredString entry key path) (text? (entry.get key)) := by
  unfold requiredString text?
  cases nonemptyString? (entry.get key) with
  | none => exact returns_report _ none
  | some s => exact returns_pure _

/-! ### Registries -/

/-- One turn of `_code_index`. -/
def addEntry (key : String) (index : Index) (entry : Dict) : Index :=
  match text? (entry.get key) with
  | none => index
  | some code => if index.codes.contains code then index else index ++ [(code, entry)]

def indexBy (key : String) (entries : List Dict) : Index := entries.foldl (addEntry key) []

theorem returns_codeIndex (entries : List Dict) (path key : String) :
    Returns (codeIndex entries path key) (indexBy key entries) := by
  refine returns_foldIdx (fun i index entry => ?_) entries 0 []
  refine returns_bind.2 ⟨_, returns_requiredString entry key s!"{path}[{i}]", ?_⟩
  unfold addEntry
  cases text? (entry.get key) with
  | none => exact returns_pure index
  | some code =>
    change Returns (if (Index.codes index).contains code then do
        report s!"{path}: {key} {pyRepr code}가 중복됩니다."
        pure index
      else pure (index ++ [(code, entry)])) _
    dsimp only
    split
    · exact returns_report _ index
    · exact returns_pure _

section
variable {key code : String} {entries : List Dict} {index : Index} {entry : Dict}

theorem entry?_append (index other : Index) (code : String) :
    Index.entry? (index ++ other) code = (index.entry? code).or (other.entry? code) := by
  unfold Index.entry?
  rw [List.find?_append]
  cases index.find? fun p => p.1 == code <;> rfl

theorem entry?_isSome (h : code ∈ index.codes) : (index.entry? code).isSome = true := by
  have ⟨p, mem, is⟩ := List.mem_map.1 h
  unfold Index.entry?
  rw [Option.isSome_map, List.find?_isSome]
  exact ⟨p, mem, beq_iff_eq.2 is⟩

theorem entry?_addEntry : Index.entry? (addEntry key index entry) code =
    (index.entry? code).or (firstWith key code [entry]) := by
  unfold addEntry firstWith
  cases text : text? (entry.get key) with
  | none => simp [text]
  | some c =>
    dsimp only
    split
    · rename_i known
      have known : c ∈ index.codes := List.contains_iff_mem.1 known
      by_cases same : c = code
      · have ⟨e, found⟩ := Option.isSome_iff_exists.1 (entry?_isSome (same ▸ known))
        rw [found]
        rfl
      · simp [text, same]
    · rw [entry?_append]
      by_cases same : c = code
      · simp [text, same, Index.entry?]
      · simp [text, same, Index.entry?]

theorem firstWith_cons (entry : Dict) (entries : List Dict) : firstWith key code (entry :: entries) =
    (firstWith key code [entry]).or (firstWith key code entries) := by
  have append := @List.find?_append _ [entry] entries
    (p := fun entry => text? (entry.get key) == some code)
  exact append

theorem entry?_foldl (entries : List Dict) (index : Index) :
    Index.entry? (entries.foldl (addEntry key) index) code =
      (index.entry? code).or (firstWith key code entries) := by
  induction entries generalizing index with
  | nil => exact (Option.or_none).symm
  | cons entry rest ih => rw [List.foldl_cons, ih, entry?_addEntry, firstWith_cons entry rest,
      Option.or_assoc]

/-- `index.get(code)` is the first entry with that code. -/
theorem entry?_indexBy (key code : String) (entries : List Dict) :
    Index.entry? (indexBy key entries) code = firstWith key code entries :=
  entry?_foldl entries []

theorem codes_nodup (entries : List Dict) (index : Index) (distinct : index.codes.Nodup) :
    (entries.foldl (addEntry key) index).codes.Nodup := by
  induction entries generalizing index with
  | nil => exact distinct
  | cons entry rest ih =>
    refine ih _ ?_
    unfold addEntry
    split
    · exact distinct
    · rename_i c _
      split
      · exact distinct
      · rename_i fresh
        have fresh : c ∉ index.codes := fun mem => fresh (List.contains_iff_mem.2 mem)
        unfold Index.codes
        rw [List.map_append, List.nodup_append]
        refine ⟨distinct, List.nodup_singleton _, fun a mem b mem' same => fresh ?_⟩
        have is : a = c := same.trans (List.mem_singleton.1 mem')
        exact is ▸ mem

/-- The registered entries are the first ones with their code. -/
theorem mem_indexBy : (code, entry) ∈ indexBy key entries ↔
    firstWith key code entries = some entry := by
  rw [← entry?_indexBy]
  have distinct : (indexBy key entries).codes.Nodup := codes_nodup entries [] List.nodup_nil
  unfold Index.entry?
  constructor
  · intro mem
    have some_ : ((indexBy key entries).find? fun p => p.1 == code).isSome = true :=
      List.find?_isSome.2 ⟨_, mem, beq_self_eq_true code⟩
    have ⟨p, found⟩ := Option.isSome_iff_exists.1 some_
    have held := List.find?_some found
    have same := List.inj_on_of_nodup_map distinct (List.mem_of_find?_eq_some found) mem
      (eq_of_beq held)
    rw [found, same]
    rfl
  · intro found
    have ⟨p, found, is⟩ := Option.map_eq_some_iff.1 found
    have held := List.find?_some found
    have same : p.1 = code := eq_of_beq held
    have mem := List.mem_of_find?_eq_some found
    rw [← same, ← is]
    exact mem

end

/-! ### The sections that raise nothing -/

theorem total_stringList (value : Value) (path : String) (required : Bool) :
    Total (stringList value path required) := (returns_stringList value path required).total

theorem total_requiredString (entry : Dict) (key path : String) :
    Total (requiredString entry key path) := (returns_requiredString entry key path).total

theorem total_requiredMapping (value : Value) (path : String) :
    Total (requiredMapping value path) := by
  unfold requiredMapping
  split
  · exact Total.pure _
  · exact (returns_report _ _).total

theorem total_validateReference (value : Option String) (registry : List String)
    (path name : String) : Total (validateReference value registry path name) := by
  cases value with
  | none => exact Total.pure ()
  | some v => exact Total.reportIf _ _

theorem total_validateAtomReference (value : Option String) (registry : List Atom)
    (path name : String) : Total (validateAtomReference value registry path name) := by
  cases value with
  | none => exact Total.pure ()
  | some v => exact Total.reportIf _ _

theorem total_validateReferences (values registry : List String) (path name : String) :
    Total (validateReferences values registry path name) :=
  Total.forEach fun _ => total_validateReference _ _ _ _

theorem total_reportEach (message : String → String) (values : List String) :
    Total (reportEach message values) := Total.forEach fun _ => Total.report _

theorem total_boolField (entry : Dict) (key path : String) : Total (boolField entry key path) :=
  Total.reportIf _ _

theorem total_validateContractHeader (doc : Dict) (name expected : String) :
    Total (validateContractHeader doc name expected) := by
  refine (total_requiredMapping _ _).next fun header => ?_
  split
  · exact Total.pure ()
  · refine (total_requiredString _ _ _).next fun contractName => ?_
    have rest : Total (forEach (fun key => do
        let _ ← requiredString header key s!"{name}.contract"
        pure ()) ["version", "status", "owner"]) :=
      Total.forEach fun _ => (total_requiredString _ _ _).next fun _ => Total.pure ()
    cases contractName with
    | none => exact rest
    | some _ => exact (Total.reportIf _ _).next fun _ => rest

theorem total_stateEntry (ownerTypes visitStatuses : List String) (index : Nat)
    (flags : List String) (entry : Dict) :
    Total (stateEntry ownerTypes visitStatuses index flags entry) := by
  refine (total_requiredString _ _ _).next fun _ => ?_
  refine (total_validateReference _ _ _ _).next fun _ => ?_
  refine (total_boolField _ _ _).next fun _ => ?_
  refine (total_stringList _ _ _).next fun _ => ?_
  exact (total_validateReferences _ _ _ _).next fun _ => Total.pure _

theorem total_validateStates (doc : Dict) : Total (validateStates doc) := by
  refine (returns_mappingEntries _ _ _).total.next fun entries => ?_
  refine (returns_codeIndex _ _ _).total.next fun _ => ?_
  refine (total_stringList _ _ _).next fun _ => ?_
  refine (total_stringList _ _ _).next fun _ => ?_
  refine (total_stringList _ _ _).next fun _ => ?_
  refine (Total.reportIf _ _).next fun _ => ?_
  refine (total_validateReference _ _ _ _).next fun _ => ?_
  refine (total_validateReferences _ _ _ _).next fun _ => ?_
  refine (Total.foldIdx fun _ _ _ _ => total_stateEntry _ _ _ _ _).next fun _ => ?_
  refine (total_reportEach _ _).next fun _ => ?_
  exact (total_reportEach _ _).next fun _ => Total.pure _

theorem total_externalAction (entry : Dict) (path : String) :
    Total (externalAction entry path) := by
  refine (total_requiredMapping _ _).next fun action => ?_
  split
  · exact Total.pure ()
  · dsimp only
    split
    · exact Total.report _
    · exact Total.reportIf _ _
    · exact Total.reportIf _ _

theorem total_eventEntry (categories scopes actorRoleCodes : List String) (index : Nat) (u : Unit)
    (entry : Dict) : Total (eventEntry categories scopes actorRoleCodes index u entry) := by
  refine (total_requiredString _ _ _).next fun _ => ?_
  refine (total_requiredString _ _ _).next fun _ => ?_
  refine (total_validateReference _ _ _ _).next fun _ => ?_
  refine (total_validateReference _ _ _ _).next fun _ => ?_
  refine (total_stringList _ _ _).next fun _ => ?_
  refine (total_validateReferences _ _ _ _).next fun _ => ?_
  refine (Total.forEach fun _ => total_boolField _ _ _).next fun _ => ?_
  exact total_externalAction _ _

/-- The events of a document under their codes. -/
def eventIndex (doc : Dict) : Index := indexBy "code" (entriesOf (doc.get "events"))

theorem returns_validateEvents (doc : Dict) :
    ∃ codes, Returns (validateEvents doc) ⟨eventIndex doc, codes⟩ := by
  have ⟨_, loop⟩ : Total (foldIdx (eventEntry (textsOf (doc.get "categories"))
      (textsOf (doc.get "scopes")) (textsOf (doc.get "actor_roles"))) 0 ()
        (entriesOf (doc.get "events"))) :=
    Total.foldIdx fun _ _ _ _ => total_eventEntry _ _ _ _ _ _
  refine ⟨textsOf (doc.get "actor_roles"), returns_bind.2 ⟨_, returns_stringList _ _ _, ?_⟩⟩
  refine returns_bind.2 ⟨_, returns_stringList _ _ _, ?_⟩
  refine returns_bind.2 ⟨_, returns_stringList _ _ _, ?_⟩
  refine returns_bind.2 ⟨_, returns_mappingEntries _ _ _, ?_⟩
  refine returns_bind.2 ⟨_, returns_codeIndex _ _ _, ?_⟩
  exact returns_bind.2 ⟨_, loop, returns_pure _⟩

theorem total_guardConditions (conditions : Value) (path : String) :
    Total (guardConditions conditions path) := by
  cases conditions with
  | atom _ | list _ => exact (total_stringList _ _ _).next fun _ => Total.pure ()
  | dict d =>
    refine (total_requiredString _ _ _).next fun _ => ?_
    refine (Total.reportIf _ _).next fun _ => ?_
    exact (total_stringList _ _ _).next fun _ => Total.pure ()

theorem total_guardFailure (entry : Dict) (path : String) : Total (guardFailure entry path) := by
  refine (total_requiredMapping _ _).next fun failure => ?_
  split
  · exact Total.pure ()
  · have rest : Total (forEach (fun key => do
        let _ ← requiredString failure key s!"{path}.failure"
        pure ()) ["error_code", "message"]) :=
      Total.forEach fun _ => (total_requiredString _ _ _).next fun _ => Total.pure ()
    cases (failure.get "http_status").asInt? with
    | none => exact (Total.report _).next fun _ => rest
    | some _ => exact (Total.reportIf _ _).next fun _ => rest

theorem total_guardEntry (categories : List String) (index : Nat) (u : Unit) (entry : Dict) :
    Total (guardEntry categories index u entry) := by
  refine (total_requiredString _ _ _).next fun _ => ?_
  refine (total_validateReference _ _ _ _).next fun _ => ?_
  exact (total_guardConditions _ _).next fun _ => total_guardFailure _ _

theorem total_validateGuards (doc : Dict) : Total (validateGuards doc) := by
  refine (total_stringList _ _ _).next fun _ => ?_
  refine (returns_mappingEntries _ _ _).total.next fun _ => ?_
  refine (returns_codeIndex _ _ _).total.next fun _ => ?_
  exact (Total.foldIdx fun _ _ _ _ => total_guardEntry _ _ _ _).next fun _ => Total.pure _

theorem total_ruleFromState (stateCodes : List String) (entry : Dict) (path : String) :
    Total (ruleFromState stateCodes entry path) := by
  unfold ruleFromState
  split
  · exact (returns_report _ _).total
  · dsimp only
    split
    · exact Total.pure _
    · split
      · exact (total_validateReference _ _ _ _).next fun _ => Total.pure _
      · exact (returns_report _ _).total

theorem total_ruleVersionStart (terminalStates : List String) (entry : Dict)
    (fromState : Option String) (path : String) :
    Total (ruleVersionStart terminalStates entry fromState path) := by
  unfold ruleVersionStart
  cases fromState with
  | none =>
    dsimp only
    split
    · exact (Total.reportIf _ _).next fun _ => Total.pure ()
    · exact (Total.reportIf _ _).next fun _ => Total.pure ()
  | some s =>
    dsimp only
    split
    · exact (Total.reportIf _ _).next fun _ => Total.reportIf _ _
    · exact (Total.reportIf _ _).next fun _ => Total.reportIf _ _

theorem total_ruleVisit (visitModes : List Atom) (visitStatuses : List String) (entry : Dict)
    (path : String) : Total (ruleVisit visitModes visitStatuses entry path) := by
  refine (total_requiredMapping _ _).next fun visit => ?_
  split
  · exact Total.pure _
  · refine (total_requiredString _ _ _).next fun _ => ?_
    refine (total_validateAtomReference _ _ _ _).next fun _ => ?_
    refine (Total.forEach fun key => ?_).next fun _ => Total.pure _
    unfold ruleVisitStatus
    split
    · exact Total.pure ()
    · exact (total_requiredString _ _ _).next fun _ => total_validateReference _ _ _ _

theorem total_ruleGuardRefs (registries : TransitionRegistries) (entry : Dict)
    (event : Option String) (path : String) :
    Total (ruleGuardRefs registries entry event path) := by
  refine (total_stringList _ _ _).next fun _ => ?_
  refine (total_validateReferences _ _ _ _).next fun _ => ?_
  exact (Total.reportIf _ _).next fun _ => Total.reportIf _ _

theorem total_ruleHistory (entry visit : Dict) (fromState toState mode : Option String)
    (path : String) : Total (ruleHistory entry visit fromState toState mode path) := by
  refine (total_requiredMapping _ _).next fun history => ?_
  split
  · exact Total.pure ()
  · refine (Total.forEach fun _ => total_boolField _ _ _).next fun _ => ?_
    exact (Total.reportIf _ _).next fun _ => Total.reportIf _ _

theorem total_ruleVersionAction (versionActions : List Atom) (entry : Dict) (path : String) :
    Total (ruleVersionAction versionActions entry path) := by
  unfold ruleVersionAction
  dsimp only
  split
  · exact Total.pure ()
  · split
    · exact Total.report _
    · exact total_validateAtomReference _ _ _ _

theorem total_seeCombination (seen : SeenTransitions) (fromState event : Option String)
    (visit : Dict) (path : String) : Total (seeCombination seen fromState event visit path) := by
  cases event with
  | none => exact Total.pure _
  | some _ => exact (Total.reportIf _ _).next fun _ => Total.pure _

theorem total_transitionEntry (registries : TransitionRegistries)
    (visitModes versionActions : List Atom) (index : Nat) (seen : SeenTransitions)
    (entry : Dict) :
    Total (transitionEntry registries visitModes versionActions index seen entry) := by
  refine (total_requiredString _ _ _).next fun _ => ?_
  refine (total_validateReference _ _ _ _).next fun _ => ?_
  refine (total_ruleFromState _ _ _).next fun _ => ?_
  refine (total_requiredString _ _ _).next fun _ => ?_
  refine (total_validateReference _ _ _ _).next fun _ => ?_
  refine (total_ruleVersionStart _ _ _ _).next fun _ => ?_
  refine (total_ruleVisit _ _ _ _).next fun (visit, mode) => ?_
  refine (total_seeCombination _ _ _ _ _).next fun _ => ?_
  refine (total_ruleGuardRefs _ _ _ _).next fun _ => ?_
  refine (total_ruleHistory _ _ _ _ _ _).next fun _ => ?_
  exact (total_ruleVersionAction _ _ _).next fun _ => Total.pure _

theorem total_excludedEntry (eventByCode : Index) (index : Nat) (excluded : List String)
    (entry : Dict) : Total (excludedEntry eventByCode index excluded entry) := by
  refine (total_requiredString _ _ _).next fun event => ?_
  refine (total_validateReference _ _ _ _).next fun _ => ?_
  cases event with
  | none => exact Total.pure _
  | some _ => exact (Total.reportIf _ _).next fun _ => Total.pure _

/-- The transition rules of a document under their ids. -/
def ruleIndex (doc : Dict) : Index := indexBy "id" (entriesOf (doc.get "transitions"))

theorem returns_validateTransitions (doc : Dict) (registries : TransitionRegistries) :
    Returns (validateTransitions doc registries) (ruleIndex doc) := by
  have total : Total (validateTransitions doc registries) := by
    refine (returns_mappingEntries _ _ _).total.next fun _ => ?_
    refine (returns_codeIndex _ _ _).total.next fun _ => ?_
    refine (total_requiredMapping _ _).next fun _ => ?_
    refine ((Total.reportIf _ _).next fun _ => Total.pure _).next fun _ => ?_
    refine ((Total.reportIf _ _).next fun _ => Total.pure _).next fun _ => ?_
    refine (Total.foldIdx fun _ _ _ _ => total_transitionEntry _ _ _ _ _ _).next fun _ => ?_
    refine (returns_mappingEntries _ _ _).total.next fun _ => ?_
    refine (Total.foldIdx fun _ _ _ _ => total_excludedEntry _ _ _ _).next fun _ => ?_
    refine (total_reportEach _ _).next fun _ => ?_
    exact (total_reportEach _ _).next fun _ => Total.pure _
  have ⟨index, returned⟩ := total
  have ⟨entries, first, rest⟩ := returns_bind.1 returned
  have ⟨byId, second, rest⟩ := returns_bind.1 rest
  have ⟨_, _, rest⟩ := returns_bind.1 rest
  have ⟨_, _, rest⟩ := returns_bind.1 rest
  have ⟨_, _, rest⟩ := returns_bind.1 rest
  have ⟨_, _, rest⟩ := returns_bind.1 rest
  have ⟨_, _, rest⟩ := returns_bind.1 rest
  have ⟨_, _, rest⟩ := returns_bind.1 rest
  have ⟨_, _, rest⟩ := returns_bind.1 rest
  have ⟨_, _, last⟩ := returns_bind.1 rest
  have entries_eq := first.unique (returns_mappingEntries _ _ _)
  have byId_eq := second.unique (returns_codeIndex _ _ _)
  have is : byId = index := (returns_pure byId).unique last
  rw [← is, byId_eq, entries_eq] at returned
  exact returned

/-! ### Role permissions -/

/-- `event.get("actor_roles", [])`. -/
def rolesValue (event : Dict) : Value := event.getD "actor_roles" (.list [])

/-- What a `for` can go through: a list, a mapping or a string. -/
def Iterable (value : Value) : Prop := ∃ items, value.iter = .ok items

theorem actorRoles_ok_iff (event : Dict) :
    (∃ roles, actorRoles event = .ok roles) ↔ Iterable (rolesValue event) := by
  unfold actorRoles Iterable rolesValue
  cases (event.getD "actor_roles" (.list [])).iter with
  | error e => exact iff_of_false nofun nofun
  | ok items => exact iff_of_true ⟨_, rfl⟩ ⟨items, rfl⟩

theorem eventRolePairs_ok_iff (index : Index) :
    (∃ pairs, eventRolePairs index = .ok pairs) ↔ ∀ p ∈ index, Iterable (rolesValue p.2) := by
  induction index with
  | nil => exact iff_of_true ⟨[], rfl⟩ fun _ mem => absurd mem List.not_mem_nil
  | cons p rest ih =>
    rw [List.forall_mem_cons, ← ih, ← actorRoles_ok_iff p.2]
    have ⟨code, event⟩ := p
    rw [eventRolePairs]
    cases actorRoles event with
    | error e => exact iff_of_false nofun fun ⟨⟨_, eq⟩, _⟩ => nomatch eq
    | ok roles =>
      cases eventRolePairs rest with
      | error e => exact iff_of_false nofun fun ⟨_, _, eq⟩ => nomatch eq
      | ok pairs => exact iff_of_true ⟨_, rfl⟩ ⟨⟨_, rfl⟩, _, rfl⟩

theorem total_requiredPermissions (allowedEvents : List String) (path : String) (value : Value) :
    Total (requiredPermissions allowedEvents path value) := by
  unfold requiredPermissions
  split
  · exact Total.pure ()
  · refine Total.forEach fun e => (Total.reportIf _ _).next fun _ => ?_
    exact (total_stringList _ _ _).next fun _ => Total.pure ()
  · exact Total.report _

theorem total_roleEntry (eventByCode : Index) (actorRoleCodes : List String) (index : Nat)
    (pairs : List (String × String)) (entry : Dict) :
    Total (roleEntry eventByCode actorRoleCodes index pairs entry) := by
  refine (total_validateReference _ _ _ _).next fun _ => ?_
  refine (total_stringList _ _ _).next fun _ => ?_
  refine (total_validateReferences _ _ _ _).next fun _ => ?_
  exact (total_requiredPermissions _ _ _).next fun _ => Total.pure _

theorem total_rolesOf {event : Dict} (iterable : Iterable (rolesValue event))
    (expected : List String) (message : String) : Total (rolesOf event expected message) :=
  (total_liftExn.2 ((actorRoles_ok_iff event).2 iterable)).next fun _ => Total.reportIf _ _

/-- The section reads the roles of every registered event. -/
theorem total_validateRolePermissions (doc : Dict) (eventByCode : Index)
    (actorRoleCodes : List String) :
    Total (validateRolePermissions doc eventByCode actorRoleCodes) ↔
      ∀ p ∈ eventByCode, Iterable (rolesValue p.2) := by
  constructor
  · intro ⟨_, returned⟩
    have ⟨_, _, rest⟩ := returns_bind.1 returned
    have ⟨_, _, rest⟩ := returns_bind.1 rest
    have ⟨pairs, first, _⟩ := returns_bind.1 rest
    exact (eventRolePairs_ok_iff eventByCode).1 ⟨pairs, returns_liftExn.1 first⟩
  · intro iterable
    refine (returns_mappingEntries _ _ _).total.next fun _ => ?_
    refine (returns_codeIndex _ _ _).total.next fun _ => ?_
    refine (total_liftExn.2 ((eventRolePairs_ok_iff eventByCode).2 iterable)).next fun _ => ?_
    refine (Total.foldIdx fun _ _ _ _ => total_roleEntry _ _ _ _ _).next fun _ => ?_
    refine (Total.forEach fun _ => Total.report _).next fun _ => ?_
    refine (Total.forEach fun _ => Total.report _).next fun _ => ?_
    have system : Total (forEach (fun (p : String × Dict) =>
        if (p.2.get "category").eqStr "SYSTEM_EVENT" then
          rolesOf p.2 ["SYSTEM"]
            s!"events.events.{p.1}: SYSTEM_EVENT는 SYSTEM 역할에만 허용되어야 합니다."
        else pure ()) eventByCode) := by
      refine total_forEach.2 fun p mem => ?_
      split
      · exact total_rolesOf (iterable p mem) _ _
      · exact Total.pure ()
    refine system.next fun _ => ?_
    cases finalize : eventByCode.entry? "FINALIZE_INQUIRY" with
    | none => exact Total.pure _
    | some event =>
      have ⟨p, found, is⟩ := Option.map_eq_some_iff.1 finalize
      have mem := iterable p (List.mem_of_find?_eq_some found)
      exact (total_rolesOf (is ▸ mem) _ _).next fun _ => Total.pure _

/-! ### Allowed actions -/

theorem total_catalogEntry (styles : List String) (eventByCode : Index) (index : Nat) (u : Unit)
    (entry : Dict) : Total (catalogEntry styles eventByCode index u entry) := by
  have rest : ∀ path : String, Total (do
      let style ← requiredString entry "style" path
      validateReference style styles s!"{path}.style" "action style"
      boolField entry "requires_confirmation" path) := fun path => by
    refine (total_requiredString _ _ _).next fun _ => ?_
    exact (total_validateReference _ _ _ _).next fun _ => total_boolField _ _ _
  unfold catalogEntry
  dsimp only
  cases (nonemptyString? (entry.get "code")).map strip with
  | none => exact rest _
  | some actionCode =>
    dsimp only
    cases eventByCode.entry? actionCode with
    | none => exact (Total.report _).next fun _ => rest _
    | some event =>
      exact (Total.reportIf _ _).next fun _ => (Total.reportIf _ _).next fun _ => rest _

theorem total_validateActionCatalog (doc : Dict) (eventByCode : Index) :
    Total (validateActionCatalog doc eventByCode) := by
  refine (total_stringList _ _ _).next fun _ => ?_
  refine (returns_mappingEntries _ _ _).total.next fun _ => ?_
  refine (returns_codeIndex _ _ _).total.next fun _ => ?_
  exact (Total.foldIdx fun _ _ _ _ => total_catalogEntry _ _ _ _ _).next fun _ => Total.pure _

/-- The entries of a value that is a mapping. -/
def dictOrEmpty (value : Value) : Dict := value.asDict?.getD []

theorem returns_mappingOrReport (value : Value) (path : String) :
    Returns (mappingOrReport value path) (dictOrEmpty value) := by
  cases value with
  | dict d => exact returns_pure d
  | atom _ | list _ => exact returns_report _ _

theorem total_stateKeys (entries : Dict) (stateCodes : List String) (path : String) :
    Total (stateKeys entries stateCodes path) :=
  (total_reportEach _ _).next fun _ => total_reportEach _ _

theorem total_actionRule (transitionById : Index) (state : String) (action : Option String)
    (path ruleId : String) : Total (actionRule transitionById state action path ruleId) := by
  unfold actionRule
  cases transitionById.entry? ruleId with
  | none => exact Total.report _
  | some rule =>
    cases action with
    | none => exact Total.reportIf _ _
    | some action => exact (Total.reportIf _ _).next fun _ => Total.reportIf _ _

/-- The roles of an event can be searched for a role. -/
def Searchable (event : Dict) (role : Option String) : Prop :=
  ∃ listed, (rolesValue event).contains role = .ok listed

theorem total_roleAction (registries : ActionRegistries) (actionByCode : Index) (state : String)
    (role : Option String) (path : String) (index : Nat) (seen : List String) (entry : Dict) :
    Total (roleAction registries actionByCode state role path index seen entry) ↔
      ∀ action event, text? (entry.get "action") = some action →
        registries.eventByCode.entry? action = some event → Searchable event role := by
  have rest : ∀ (action : Option String) (entryPath : String), Total (do
      let ruleIds ← stringList (entry.get "transition_rule_ids")
        s!"{entryPath}.transition_rule_ids" true
      forEach (actionRule registries.transitionById state action entryPath) ruleIds
      pure (seen ++ action.toList)) := fun action entryPath => by
    refine (total_stringList _ _ _).next fun _ => ?_
    exact (Total.forEach fun _ => total_actionRule _ _ _ _ _).next fun _ => Total.pure _
  unfold roleAction
  dsimp only
  rw [total_bind_returns (returns_requiredString _ _ _), total_bind_unit,
    and_iff_right (total_validateReference _ _ _ _)]
  cases text? (entry.get "action") with
  | none => exact iff_of_true (rest none _) nofun
  | some action =>
    dsimp only
    rw [total_bind_unit, and_iff_right (Total.reportIf _ _)]
    cases found : registries.eventByCode.entry? action with
    | none =>
      refine iff_of_true ?_ fun _ event same other => ?_
      · refine (total_liftExn.2 ⟨_, rfl⟩).next fun _ => ?_
        exact (Total.reportIf _ _).next fun _ => (Total.reportIf _ _).next fun _ => rest _ _
      · rw [← Option.some.inj same, found] at other
        exact nomatch other
    | some event =>
      constructor
      · intro ⟨_, returned⟩ _ event' same other
        have ⟨listed, first, _⟩ := returns_bind.1 returned
        rw [← Option.some.inj same, found] at other
        exact ⟨listed, Option.some.inj other ▸ returns_liftExn.1 first⟩
      · intro searchable
        refine (total_liftExn.2 (searchable action event rfl found)).next fun _ => ?_
        exact (Total.reportIf _ _).next fun _ => (Total.reportIf _ _).next fun _ => rest _ _

/-- What the actions of a state need of the roles they are listed for. -/
def ActionsSearchable (eventByCode : Index) (e : Atom × Value) : Prop :=
  ∀ action ∈ entriesOf e.2, ∀ name event, text? (action.get "action") = some name →
    eventByCode.entry? name = some event → Searchable event (text? (.atom e.1))

theorem total_stateRoleEntry (registries : ActionRegistries) (actionByCode : Index)
    (state : String) (e : Atom × Value) :
    Total (stateRoleEntry registries actionByCode state e) ↔
      ActionsSearchable registries.eventByCode e := by
  unfold stateRoleEntry
  dsimp only
  rw [total_bind_unit, and_iff_right (total_validateReference _ _ _ _),
    total_bind_returns (returns_mappingEntries _ _ _)]
  have loop : Total (foldIdx (roleAction registries actionByCode state (text? (.atom e.1))
      s!"allowed_actions.state_role_actions.{state}.{e.1.text}") 0 [] (entriesOf e.2)) ↔
        ActionsSearchable registries.eventByCode e :=
    total_foldIdx fun i acc action => total_roleAction registries actionByCode state _ _ i acc action
  rw [← loop]
  constructor
  · intro ⟨_, returned⟩
    have ⟨seen, first, _⟩ := returns_bind.1 returned
    exact ⟨seen, first⟩
  · exact fun total => total.next fun _ => Total.pure ()

theorem total_stateRoleActions (registries : ActionRegistries) (actionByCode : Index)
    (e : Atom × Value) : Total (stateRoleActions registries actionByCode e) ↔
      ∀ state, text? (.atom e.1) = some state → ∀ r ∈ dictOrEmpty e.2,
        ActionsSearchable registries.eventByCode r := by
  unfold stateRoleActions text?
  cases nonemptyString? (.atom e.1) with
  | none => exact iff_of_true (Total.report _) nofun
  | some raw =>
    have state : (∀ state, (some raw).map strip = some state → ∀ r ∈ dictOrEmpty e.2,
        ActionsSearchable registries.eventByCode r) ↔ ∀ r ∈ dictOrEmpty e.2,
          ActionsSearchable registries.eventByCode r :=
      ⟨fun h => h _ rfl, fun h _ _ => h⟩
    rw [state]
    dsimp only
    cases e.2 with
    | atom _ | list _ => exact iff_of_true (Total.report _) fun _ mem => absurd mem List.not_mem_nil
    | dict roleMap =>
      dsimp only
      rw [total_bind_unit, and_iff_right (Total.reportIf _ _), total_forEach]
      exact forall₂_congr fun r _ => total_stateRoleEntry _ _ _ r

/-! ### Internal events -/

/-- A registered event of the category `SYSTEM_EVENT`. -/
def SystemEvent (eventByCode : Index) (code : String) : Prop :=
  (((eventByCode.entry? code).getD []).get "category").eqStr "SYSTEM_EVENT" = true

/-- The fields of a rule that are hashed can be hashed. -/
def RuleHashable (eventByCode : Index) (rule : Dict) : Prop :=
  (rule.get "from_inquiry_state").isNone = false →
    ∃ event, rule.get "event" = .atom event ∧
      ∀ code, event = .str code → SystemEvent eventByCode code →
        ∃ state, rule.get "from_inquiry_state" = .atom state

/-- The rule takes a state by a system event. -/
def SystemRule (eventByCode : Index) (rule : Dict) (state : Atom) (code : String) : Prop :=
  rule.get "from_inquiry_state" = .atom state ∧ state ≠ .none ∧
    rule.get "event" = .str code ∧ SystemEvent eventByCode code

/-- What a rule adds to `expected_internal_pairs`. -/
def rulePairs (eventByCode : Index) (rule : Dict) : Except Exn (List (Atom × String)) :=
  let raw := rule.get "from_inquiry_state"
  if raw.isNone then pure []
  else do
    match ← (rule.get "event").hashed with
    | .str code =>
        if (((eventByCode.entry? code).getD []).get "category").eqStr "SYSTEM_EVENT" then do
          let state ← raw.hashed
          pure [(state, code)]
        else pure []
    | _ => pure []

theorem expectedInternalPairs_cons (eventByCode : Index) (p : String × Dict) (rest : Index) :
    expectedInternalPairs eventByCode (p :: rest) = (do
      let pair ← rulePairs eventByCode p.2
      let pairs ← expectedInternalPairs eventByCode rest
      pure (pair ++ pairs)) := by
  have ⟨id, rule⟩ := p
  rw [expectedInternalPairs]
  unfold rulePairs
  dsimp only
  cases (rule.get "from_inquiry_state").isNone with
  | true => rfl
  | false =>
    cases rule.get "event" with
    | list _ | dict _ => rfl
    | atom key =>
      cases key with
      | none | bool _ | int _ | float _ _ => rfl
      | str code =>
        cases h : (((eventByCode.entry? code).getD []).get "category").eqStr "SYSTEM_EVENT" with
        | false => simp only [Value.hashed, bind, Except.bind, h, Bool.false_eq_true, if_false]
        | true =>
          simp only [Value.hashed, bind, Except.bind, h, if_true]
          cases rule.get "from_inquiry_state" <;> rfl

theorem rulePairs_spec (eventByCode : Index) (rule : Dict) :
    ((∃ pairs, rulePairs eventByCode rule = .ok pairs) ↔ RuleHashable eventByCode rule) ∧
      ∀ pairs, rulePairs eventByCode rule = .ok pairs → ∀ state code,
        ((state, code) ∈ pairs ↔ SystemRule eventByCode rule state code) := by
  unfold rulePairs RuleHashable SystemRule
  dsimp only
  split
  · rename_i none
    have none := Value.isNone_iff.1 none
    refine ⟨iff_of_true ⟨[], rfl⟩ fun some_ => ?_, fun pairs is state code => ?_⟩
    · rw [none] at some_
      exact nomatch some_
    · rw [← Except.ok.inj is]
      refine iff_of_false List.not_mem_nil fun ⟨same, ne, _⟩ => ne ?_
      exact (Value.atom.inj (none.symm.trans same)).symm
  · rename_i some_
    have some_ : (rule.get "from_inquiry_state").isNone = false := Bool.eq_false_iff.2 some_
    cases event : rule.get "event" with
    | list _ | dict _ =>
      refine ⟨iff_of_false nofun fun hashable => ?_, nofun⟩
      have ⟨_, same, _⟩ := hashable some_
      exact nomatch same
    | atom key =>
      have hashed : (Value.atom key).hashed = .ok key := rfl
      rw [hashed]
      simp only [bind, Except.bind]
      cases key with
      | none | bool _ | int _ | float _ _ =>
        refine ⟨iff_of_true ⟨[], rfl⟩ fun _ => ⟨_, rfl, nofun⟩, fun pairs is state code => ?_⟩
        rw [← Except.ok.inj is]
        exact iff_of_false List.not_mem_nil fun ⟨_, _, same, _⟩ => nomatch same
      | str code =>
        dsimp only
        split
        · rename_i system
          cases raw : rule.get "from_inquiry_state" with
          | list _ | dict _ =>
            refine ⟨iff_of_false nofun fun hashable => ?_, nofun⟩
            have ⟨_, same, states⟩ := hashable rfl
            have ⟨_, atom⟩ := states code (Value.atom.inj same).symm system
            exact nomatch atom
          | atom a =>
            refine ⟨iff_of_true ⟨_, rfl⟩ fun _ => ⟨_, rfl, fun _ _ _ => ⟨a, rfl⟩⟩,
              fun pairs is state c => ?_⟩
            have ne : a ≠ .none := by
              intro none
              rw [raw, none] at some_
              exact nomatch some_
            rw [← Except.ok.inj is, List.mem_singleton, Prod.mk.injEq]
            constructor
            · intro ⟨states, codes⟩
              exact ⟨by rw [states], states ▸ ne, by rw [codes]; rfl, codes ▸ system⟩
            · intro ⟨states, _, codes, _⟩
              exact ⟨(Value.atom.inj states).symm, (Value.str_inj.1 codes).symm⟩
        · rename_i other
          refine ⟨iff_of_true ⟨[], rfl⟩ fun _ => ⟨_, rfl, fun c same system => ?_⟩,
            fun pairs is state c => ?_⟩
          · rw [← Atom.str.inj same] at system
            exact absurd system other
          · rw [← Except.ok.inj is]
            refine iff_of_false List.not_mem_nil fun ⟨_, _, same, system⟩ => other ?_
            rw [Value.str_inj.1 same]
            exact system

theorem expectedInternalPairs_ok_iff (eventByCode index : Index) :
    (∃ pairs, expectedInternalPairs eventByCode index = .ok pairs) ↔
      ∀ p ∈ index, RuleHashable eventByCode p.2 := by
  induction index with
  | nil => exact iff_of_true ⟨[], rfl⟩ fun _ mem => absurd mem List.not_mem_nil
  | cons p rest ih =>
    rw [List.forall_mem_cons, ← ih, ← (rulePairs_spec eventByCode p.2).1,
      expectedInternalPairs_cons]
    cases rulePairs eventByCode p.2 with
    | error e => exact iff_of_false nofun fun ⟨⟨_, eq⟩, _⟩ => nomatch eq
    | ok pair =>
      cases expectedInternalPairs eventByCode rest with
      | error e => exact iff_of_false nofun fun ⟨_, _, eq⟩ => nomatch eq
      | ok pairs => exact iff_of_true ⟨_, rfl⟩ ⟨⟨_, rfl⟩, _, rfl⟩

theorem mem_expectedInternalPairs {eventByCode index : Index} {pairs : List (Atom × String)}
    (expected : expectedInternalPairs eventByCode index = .ok pairs) {state : Atom} {code : String} :
    (state, code) ∈ pairs ↔ ∃ p ∈ index, SystemRule eventByCode p.2 state code := by
  induction index generalizing pairs with
  | nil =>
    rw [← Except.ok.inj expected]
    exact iff_of_false List.not_mem_nil fun ⟨_, mem, _⟩ => absurd mem List.not_mem_nil
  | cons p rest ih =>
    rw [expectedInternalPairs_cons] at expected
    cases first : rulePairs eventByCode p.2 with
    | error e =>
      rw [first] at expected
      exact nomatch expected
    | ok pair =>
      cases later : expectedInternalPairs eventByCode rest with
      | error e =>
        rw [first, later] at expected
        exact nomatch expected
      | ok others =>
        rw [first, later] at expected
        rw [← Except.ok.inj expected, List.mem_append, ih later,
          (rulePairs_spec eventByCode p.2).2 pair first state code]
        simp only [List.mem_cons, exists_eq_or_imp]

/-! ### The order of the internal pairs -/

/-- Python orders the two scalars: two strings or two numbers. -/
def Comparable (a b : Atom) : Prop := a.eq b = true ∨ (a.lt? b).isSome = true

theorem comparable_str (s t : String) : Comparable (.str s) (.str t) := .inr rfl

theorem sortInternalPairs_ok_iff (pairs : List (Atom × String)) :
    (∃ ordered, sortInternalPairs pairs = .ok ordered) ↔
      ∀ p ∈ pairs, ∀ q ∈ pairs, Comparable p.1 q.1 := by
  unfold sortInternalPairs Comparable
  dsimp only
  split
  · rename_i all
    refine iff_of_true ⟨_, rfl⟩ fun p mem q mem' => ?_
    have held := List.all_eq_true.1 (List.all_eq_true.1 all p mem) q mem'
    exact Bool.or_eq_true_iff.1 held
  · rename_i some_
    refine iff_of_false nofun fun all => some_ ?_
    refine List.all_eq_true.2 fun p mem => List.all_eq_true.2 fun q mem' => ?_
    exact Bool.or_eq_true_iff.2 (all p mem q mem')

/-- The pair is listed under `internal_events_by_state`. -/
def Listed (eventByCode : Index) (internal : Dict) (state : Atom) (code : String) : Prop :=
  ∃ e ∈ internal, ∃ name, text? (.atom e.1) = some name ∧ state = .str name ∧
    code ∈ textsOf e.2 ∧ (eventByCode.entry? code).isSome = true

/-- The pairs that one entry of `internal_events_by_state` adds. -/
def listedPairs (eventByCode : Index) (e : Atom × Value) : List (Atom × String) :=
  ((text? (.atom e.1)).map fun name =>
    ((textsOf e.2).filter fun code => (eventByCode.entry? code).isSome).map fun code =>
      (Atom.str name, code)).getD []

theorem returns_internalEvents (eventByCode : Index) (i : Nat) (pairs : List (Atom × String))
    (e : Atom × Value) :
    Returns (internalEvents eventByCode i pairs e) (pairs ++ listedPairs eventByCode e) := by
  unfold internalEvents listedPairs text?
  cases nonemptyString? (.atom e.1) with
  | none => exact (List.append_nil pairs).symm ▸ returns_pure pairs
  | some raw =>
    refine returns_bind.2 ⟨_, returns_stringList _ _ _, ?_⟩
    have ⟨_, each⟩ : Total (forEach (internalEvent eventByCode (strip raw)) (textsOf e.2)) := by
      refine Total.forEach fun code => ?_
      unfold internalEvent
      split
      · exact Total.report _
      · exact Total.reportIf _ _
    exact returns_bind.2 ⟨_, each, returns_pure _⟩

theorem mem_listedPairs {eventByCode : Index} {e : Atom × Value} {state : Atom} {code : String} :
    (state, code) ∈ listedPairs eventByCode e ↔ ∃ name, text? (.atom e.1) = some name ∧
      state = .str name ∧ code ∈ textsOf e.2 ∧ (eventByCode.entry? code).isSome = true := by
  unfold listedPairs
  cases text? (.atom e.1) with
  | none => exact iff_of_false List.not_mem_nil nofun
  | some name =>
    simp only [Option.map_some, Option.getD_some, List.mem_map, List.mem_filter, Prod.mk.injEq,
      Option.some.injEq, exists_eq_left']
    constructor
    · intro ⟨c, ⟨mem, known⟩, states, codes⟩
      exact ⟨states.symm, codes ▸ mem, codes ▸ known⟩
    · intro ⟨states, mem, known⟩
      exact ⟨code, ⟨mem, known⟩, states.symm, rfl⟩

/-- `actual_internal_pairs`. -/
def actualPairs (eventByCode : Index) (internal : Dict) : List (Atom × String) :=
  internal.foldl (fun pairs e => pairs ++ listedPairs eventByCode e) []

theorem mem_actualPairs {eventByCode : Index} {internal : Dict} {state : Atom} {code : String} :
    (state, code) ∈ actualPairs eventByCode internal ↔ Listed eventByCode internal state code := by
  have flat : actualPairs eventByCode internal = internal.flatMap (listedPairs eventByCode) := by
    unfold actualPairs
    rw [List.foldl_append_eq_append]
    rfl
  rw [flat, List.mem_flatMap]
  exact exists_congr fun e => and_congr_right fun _ => mem_listedPairs

/-! ### The documents that are survived -/

section
variable (root : Dict)

/-- `event_by_code.get(code)`. -/
def eventNamed (code : String) : Option Dict :=
  firstWith "code" code (entriesOf ((docSection (.dict root) "events").get "events"))

/-- `transition_by_id.get(id)`. -/
def ruleNamed (id : String) : Option Dict :=
  firstWith "id" id (entriesOf ((docSection (.dict root) "transitions").get "transitions"))

def actionField (key : String) : Dict :=
  dictOrEmpty ((docSection (.dict root) "allowed_actions").get key)

def IsSystemEvent (code : String) : Prop :=
  ∃ event, eventNamed root code = some event ∧
    (event.get "category").eqStr "SYSTEM_EVENT" = true

/-- A rule that takes a state by a system event, and the pair is not listed for the state. -/
def MissingPair (state : Atom) (code : String) : Prop :=
  (∃ id rule, ruleNamed root id = some rule ∧ rule.get "from_inquiry_state" = .atom state ∧
    state ≠ .none ∧ rule.get "event" = .str code ∧ IsSystemEvent root code) ∧
  ¬∃ e ∈ actionField root "internal_events_by_state", ∃ name, text? (.atom e.1) = some name ∧
    state = .str name ∧ code ∈ textsOf e.2

/-- What the later sections read again has a shape they can use. -/
structure Survived : Prop where
  /-- The roles of a registered event are iterated. -/
  roles : ∀ code event, eventNamed root code = some event → Iterable (rolesValue event)
  /-- A role without text is searched in roles that are no string. -/
  roleKeys : ∀ e ∈ actionField root "state_role_actions", ∀ state, text? (.atom e.1) = some state →
    ∀ r ∈ dictOrEmpty e.2, text? (.atom r.1) = none → ∀ action ∈ entriesOf r.2, ∀ name event,
      text? (action.get "action") = some name → eventNamed root name = some event →
        (rolesValue event).asStr? = none
  /-- The event of a rule with a state is hashed, and so is the state of a system event. -/
  rules : ∀ id rule, ruleNamed root id = some rule →
    (rule.get "from_inquiry_state").isNone = false →
      ∃ event, rule.get "event" = .atom event ∧ ∀ code, event = .str code →
        IsSystemEvent root code → ∃ state, rule.get "from_inquiry_state" = .atom state
  /-- The states of the missing pairs are sorted. -/
  states : ∀ state code state' code', MissingPair root state code → MissingPair root state' code' →
    Comparable state state'

end

section
variable {root : Dict}

theorem systemEvent_iff (code : String) :
    SystemEvent (eventIndex (docSection (.dict root) "events")) code ↔ IsSystemEvent root code := by
  unfold SystemEvent IsSystemEvent eventNamed eventIndex
  rw [entry?_indexBy]
  cases firstWith "code" code (entriesOf ((docSection (.dict root) "events").get "events")) with
  | none => exact iff_of_false nofun nofun
  | some event =>
    exact ⟨fun system => ⟨event, rfl, system⟩, fun ⟨_, same, system⟩ => Option.some.inj same ▸ system⟩

/-- Roles that can be iterated can be searched, but for no name in a string. -/
theorem searchable_iff {event : Dict} (iterable : Iterable (rolesValue event))
    (role : Option String) :
    Searchable event role ↔ (role = none → (rolesValue event).asStr? = none) := by
  unfold Searchable
  have ⟨items, iter⟩ := iterable
  cases value : rolesValue event with
  | list _ | dict _ => exact iff_of_true ⟨_, rfl⟩ fun _ => rfl
  | atom a =>
    rw [value] at iter
    cases a with
    | none | bool _ | int _ | float _ _ => exact nomatch iter
    | str s =>
      cases role with
      | none => exact iff_of_false nofun fun h => nomatch h rfl
      | some r => exact iff_of_true ⟨_, rfl⟩ nofun

/-- A pair that equals a listed one is that one, since a listed state is a string. -/
theorem any_pairEq_iff {eventByCode : Index} {internal : Dict} {state : Atom} {code : String} :
    (actualPairs eventByCode internal).any (pairEq (state, code)) = true ↔
      Listed eventByCode internal state code := by
  rw [List.any_eq_true, ← mem_actualPairs]
  constructor
  · intro ⟨(state', code'), mem, same⟩
    have ⟨states, codes⟩ := Bool.and_eq_true_iff.1 same
    have ⟨_, _, name, _, is, _⟩ := mem_actualPairs.1 mem
    have states : state = state' := is ▸ Atom.eq_str_iff.1 (is ▸ states)
    have codes : code = code' := eq_of_beq codes
    rw [states, codes]
    exact mem
  · intro mem
    have ⟨_, _, name, _, is, _⟩ := mem_actualPairs.1 mem
    refine ⟨(state, code), mem, Bool.and_eq_true_iff.2 ⟨?_, beq_self_eq_true code⟩⟩
    rw [is]
    exact Atom.eq_str_iff.2 rfl

theorem total_validateAllowedActions (doc : Dict) (registries : ActionRegistries) :
    Total (validateAllowedActions doc registries) ↔
      (∀ e ∈ dictOrEmpty (doc.get "state_role_actions"), ∀ state,
        text? (.atom e.1) = some state → ∀ r ∈ dictOrEmpty e.2,
          ActionsSearchable registries.eventByCode r) ∧
      (∀ p ∈ registries.transitionById, RuleHashable registries.eventByCode p.2) ∧
      ∀ state code state' code',
        (∃ p ∈ registries.transitionById, SystemRule registries.eventByCode p.2 state code) →
        ¬Listed registries.eventByCode (dictOrEmpty (doc.get "internal_events_by_state")) state
          code →
        (∃ p ∈ registries.transitionById, SystemRule registries.eventByCode p.2 state' code') →
        ¬Listed registries.eventByCode (dictOrEmpty (doc.get "internal_events_by_state")) state'
          code' →
        Comparable state state' := by
  have ⟨catalog, read⟩ := total_validateActionCatalog doc registries.eventByCode
  have actual : Returns (foldIdx (internalEvents registries.eventByCode) 0 []
      (dictOrEmpty (doc.get "internal_events_by_state")))
        (actualPairs registries.eventByCode (dictOrEmpty (doc.get "internal_events_by_state"))) :=
    returns_foldIdx (returns_internalEvents registries.eventByCode) _ 0 []
  unfold validateAllowedActions
  rw [total_bind_returns read, total_bind_returns (returns_mappingOrReport _ _), total_bind_unit,
    and_iff_right (total_stateKeys _ _ _), total_bind_unit, total_forEach,
    total_bind_returns (returns_mappingOrReport _ _), total_bind_unit,
    and_iff_right (total_stateKeys _ _ _), total_bind_returns actual]
  refine and_congr (forall₂_congr fun e _ => total_stateRoleActions registries catalog e) ?_
  rw [← expectedInternalPairs_ok_iff]
  cases hashed : expectedInternalPairs registries.eventByCode registries.transitionById with
  | error e => exact iff_of_false (fun ⟨_, _, eq⟩ => nomatch eq) fun ⟨⟨_, eq⟩, _⟩ => nomatch eq
  | ok expected =>
    rw [total_bind_returns (returns_liftExn.2 rfl), and_iff_right ⟨expected, rfl⟩]
    have missing : ∀ p : Atom × String,
        p ∈ expected.filter (fun p => !(actualPairs registries.eventByCode
          (dictOrEmpty (doc.get "internal_events_by_state"))).any (pairEq p)) ↔
        (∃ r ∈ registries.transitionById, SystemRule registries.eventByCode r.2 p.1 p.2) ∧
          ¬Listed registries.eventByCode (dictOrEmpty (doc.get "internal_events_by_state")) p.1
            p.2 := by
      intro (state, code)
      rw [List.mem_filter, mem_expectedInternalPairs hashed, ← any_pairEq_iff, Bool.not_eq_true',
        Bool.eq_false_iff]
    have extra : ∃ ordered, sortInternalPairs ((actualPairs registries.eventByCode
        (dictOrEmpty (doc.get "internal_events_by_state"))).filter
          fun p => !expected.any (pairEq p)) = .ok ordered := by
      refine (sortInternalPairs_ok_iff _).2 fun p mem q mem' => ?_
      have ⟨_, _, s, _, is, _⟩ := mem_actualPairs.1 (List.mem_filter.1 mem).1
      have ⟨_, _, t, _, is', _⟩ := mem_actualPairs.1 (List.mem_filter.1 mem').1
      rw [is, is']
      exact comparable_str s t
    have rest : ∀ ordered : List (Atom × String), Total (do
        forEach (fun (p : Atom × String) =>
          report ("allowed_actions.internal_events_by_state: " ++
            s!"{p.1.repr}의 SYSTEM_EVENT {pyRepr p.2}가 누락되었습니다.")) ordered
        let extra ← liftExn (sortInternalPairs ((actualPairs registries.eventByCode
          (dictOrEmpty (doc.get "internal_events_by_state"))).filter
            fun p => !expected.any (pairEq p)))
        forEach (fun (p : Atom × String) =>
          report ("allowed_actions.internal_events_by_state: " ++
            s!"{p.1.repr}의 event {pyRepr p.2}에 대응하는 전이가 없습니다.")) extra
        pure catalog) := fun ordered => by
      refine (Total.forEach fun _ => Total.report _).next fun _ => ?_
      refine (total_liftExn.2 extra).next fun _ => ?_
      exact (Total.forEach fun _ => Total.report _).next fun _ => Total.pure _
    have sorts := sortInternalPairs_ok_iff (expected.filter fun p =>
      !(actualPairs registries.eventByCode (dictOrEmpty (doc.get "internal_events_by_state"))).any
        (pairEq p))
    constructor
    · intro ⟨_, returned⟩ state code state' code' rule unlisted rule' unlisted'
      have ⟨ordered, first, _⟩ := returns_bind.1 returned
      exact sorts.1 ⟨ordered, returns_liftExn.1 first⟩ (state, code)
        ((missing (state, code)).2 ⟨rule, unlisted⟩) (state', code')
        ((missing (state', code')).2 ⟨rule', unlisted'⟩)
    · intro comparable
      refine (total_liftExn.2 (sorts.2 fun p mem q mem' => ?_)).next rest
      have ⟨rule, unlisted⟩ := (missing p).1 mem
      have ⟨rule', unlisted'⟩ := (missing q).1 mem'
      exact comparable p.1 p.2 q.1 q.2 rule unlisted rule' unlisted'

theorem returns_readDocuments (root : Dict) : Returns (readDocuments root)
    ⟨docSection (.dict root) "states", docSection (.dict root) "events",
      docSection (.dict root) "transitions", docSection (.dict root) "guards",
      docSection (.dict root) "allowed_actions", docSection (.dict root) "role_permissions"⟩ := by
  refine returns_bind.2 ⟨_, returns_document root "states", ?_⟩
  refine returns_bind.2 ⟨_, returns_document root "events", ?_⟩
  refine returns_bind.2 ⟨_, returns_document root "transitions", ?_⟩
  refine returns_bind.2 ⟨_, returns_document root "guards", ?_⟩
  refine returns_bind.2 ⟨_, returns_document root "allowed_actions", ?_⟩
  exact returns_bind.2 ⟨_, returns_document root "role_permissions", returns_pure _⟩

theorem total_validateHeaders (docs : Documents) : Total (validateHeaders docs) := by
  refine Total.forEach fun h => ?_
  split
  · exact Total.pure ()
  · exact total_validateContractHeader _ _ _

/-- The whole check is total when the three sections that can raise are. -/
theorem total_auditContract (root : Dict) : Total (auditContract root) ↔
    (∀ p ∈ eventIndex (docSection (.dict root) "events"), Iterable (rolesValue p.2)) ∧
      ∀ stateCodes terminalStates roleCodes,
        Total (validateAllowedActions (docSection (.dict root) "allowed_actions")
          ⟨stateCodes, terminalStates, eventIndex (docSection (.dict root) "events"), roleCodes,
            ruleIndex (docSection (.dict root) "transitions")⟩) := by
  have ⟨states, readStates⟩ := total_validateStates (docSection (.dict root) "states")
  have ⟨codes, readEvents⟩ := returns_validateEvents (docSection (.dict root) "events")
  have ⟨guards, readGuards⟩ := total_validateGuards (docSection (.dict root) "guards")
  unfold auditContract
  rw [total_bind_returns (returns_readDocuments root), total_bind_unit,
    and_iff_right (total_validateHeaders _), total_bind_returns readStates,
    total_bind_returns readEvents, total_bind_returns readGuards,
    total_bind_returns (returns_validateTransitions _ _), ← total_validateRolePermissions
      (docSection (.dict root) "role_permissions") _ codes]
  constructor
  · intro ⟨_, returned⟩
    have ⟨roles, first, rest⟩ := returns_bind.1 returned
    have ⟨actions, second, _⟩ := returns_bind.1 rest
    have conditions := (total_validateAllowedActions _ _).1 ⟨actions, second⟩
    exact ⟨⟨roles, first⟩, fun _ _ _ => (total_validateAllowedActions _ _).2 conditions⟩
  · intro ⟨first, second⟩
    exact first.next fun roles => (second _ _ _).next fun _ => Total.pure ()

theorem mem_eventIndex {code : String} {event : Dict} :
    (code, event) ∈ eventIndex (docSection (.dict root) "events") ↔
      eventNamed root code = some event := mem_indexBy

theorem mem_ruleIndex {id : String} {rule : Dict} :
    (id, rule) ∈ ruleIndex (docSection (.dict root) "transitions") ↔
      ruleNamed root id = some rule := mem_indexBy

theorem missingPair_iff (state : Atom) (code : String) : MissingPair root state code ↔
    (∃ p ∈ ruleIndex (docSection (.dict root) "transitions"),
      SystemRule (eventIndex (docSection (.dict root) "events")) p.2 state code) ∧
      ¬Listed (eventIndex (docSection (.dict root) "events"))
        (actionField root "internal_events_by_state") state code := by
  have rules : (∃ id rule, ruleNamed root id = some rule ∧
      rule.get "from_inquiry_state" = .atom state ∧ state ≠ .none ∧
        rule.get "event" = .str code ∧ IsSystemEvent root code) ↔
      ∃ p ∈ ruleIndex (docSection (.dict root) "transitions"),
        SystemRule (eventIndex (docSection (.dict root) "events")) p.2 state code := by
    unfold SystemRule
    rw [systemEvent_iff]
    constructor
    · exact fun ⟨id, rule, named, rest⟩ => ⟨(id, rule), mem_ruleIndex.2 named, rest⟩
    · exact fun ⟨(id, rule), mem, rest⟩ => ⟨id, rule, mem_ruleIndex.1 mem, rest⟩
  unfold MissingPair
  rw [rules]
  refine and_congr_right fun ⟨p, _, _, _, _, system⟩ => not_congr ?_
  have ⟨event, named, _⟩ := (systemEvent_iff code).1 system
  have known : (Index.entry? (eventIndex (docSection (.dict root) "events")) code).isSome = true := by
    have found : Index.entry? (eventIndex (docSection (.dict root) "events")) code = some event :=
      (entry?_indexBy _ _ _).trans named
    rw [found]
    rfl
  refine exists_congr fun e => and_congr_right fun _ => exists_congr fun name => ?_
  rw [and_iff_left known]

theorem total_iff_survived : Total (auditContract root) ↔ Survived root := by
  have entry : ∀ name event, Index.entry? (eventIndex (docSection (.dict root) "events")) name =
      some event ↔ eventNamed root name = some event := fun name event => by
    rw [← show _ = eventNamed root name from entry?_indexBy _ _ _]
    rfl
  have pairs := @missingPair_iff root
  rw [total_auditContract]
  constructor
  · intro ⟨iterable, actions⟩
    have roles : ∀ code event, eventNamed root code = some event →
        Iterable (rolesValue event) := fun code event named =>
      iterable (code, event) (mem_eventIndex.2 named)
    have ⟨keys, hashable, sortable⟩ := (total_validateAllowedActions _ _).1 (actions [] [] [])
    refine ⟨roles, ?_, ?_, ?_⟩
    · intro e mem state named r mem' blank action mem'' name event is found
      have searchable := keys e mem state named r mem' action mem'' name event is
        ((entry name event).2 found)
      exact (searchable_iff (roles name event found) _).1 searchable blank
    · intro id rule named some_
      have ⟨event, is, states⟩ := hashable (id, rule) (mem_ruleIndex.2 named) some_
      refine ⟨event, is, fun code same system => ?_⟩
      exact states code same ((systemEvent_iff code).2 system)
    · intro state code state' code' missing missing'
      have ⟨rule, unlisted⟩ := (pairs state code).1 missing
      have ⟨rule', unlisted'⟩ := (pairs state' code').1 missing'
      exact sortable state code state' code' rule unlisted rule' unlisted'
  · intro survived
    refine ⟨fun (code, event) mem => survived.roles code event (mem_eventIndex.1 mem), ?_⟩
    refine fun _ _ _ => (total_validateAllowedActions _ _).2 ⟨?_, ?_, ?_⟩
    · intro e mem state named r mem' action mem'' name event is found
      have found := (entry name event).1 found
      refine (searchable_iff (survived.roles name event found) _).2 fun blank => ?_
      exact survived.roleKeys e mem state named r mem' blank action mem'' name event is found
    · intro (id, rule) mem some_
      have ⟨event, is, states⟩ := survived.rules id rule (mem_ruleIndex.1 mem) some_
      refine ⟨event, is, fun code same system => ?_⟩
      exact states code same ((systemEvent_iff code).1 system)
    · intro state code state' code' rule unlisted rule' unlisted'
      exact survived.states state code state' code' ((pairs state code).2 ⟨rule, unlisted⟩)
        ((pairs state' code').2 ⟨rule', unlisted'⟩)

end

/-! ### The validator -/

/-- `validate_contract_documents`: the errors of `StateMachineContractValidationError`, if it is
raised. -/
def validateContractDocuments (documents : Value) : Except Exn (Option (List String)) := do
  let errors ← collectContractErrors documents
  pure (if errors.isEmpty then none else some errors)

/-- The validator reports on a document and raises nothing of its own exactly when the document
is survived. -/
theorem reports_iff_survived (documents : Value) :
    ((∃ errors, collectContractErrors documents = .ok errors) ∧
      ∃ outcome, validateContractDocuments documents = .ok outcome) ↔
        ∀ root, documents = .dict root → Survived root := by
  have validated : (∃ outcome, validateContractDocuments documents = .ok outcome) ↔
      ∃ errors, collectContractErrors documents = .ok errors := by
    unfold validateContractDocuments
    cases collectContractErrors documents with
    | error e => exact iff_of_false nofun nofun
    | ok errors => exact iff_of_true ⟨_, rfl⟩ ⟨errors, rfl⟩
  rw [validated, and_self_iff]
  cases documents with
  | atom _ | list _ => exact iff_of_true ⟨_, rfl⟩ nofun
  | dict root =>
    refine messages_ok_iff.trans (total_iff_survived.trans ?_)
    exact ⟨fun survived _ same => Value.dict.inj same ▸ survived, fun all => all root rfl⟩

namespace Sample

/-- An event whose roles are null. -/
def nullRoles : Value :=
  mapping [("events", mapping [("events", .list [mapping [("code", .str "CANCEL_INQUIRY"),
    ("actor_roles", .none)]])])]

end Sample

set_option maxRecDepth 10000 in
/-- The null is reported as no list, and then iterated. -/
theorem nullRoles_raises : collectContractErrors Sample.nullRoles = .error .typeError ∧
    validateContractDocuments Sample.nullRoles = .error .typeError :=
  ⟨rfl, rfl⟩

end WaterCare.Contract
