import WaterCare.Workflow.Guards
import Mathlib.Data.List.Nodup

/-!
The completion of the declared precedence of guard categories: a category that is not declared is
put into the list that is being scanned, ahead of the next one that is already there. What an
insertion keeps is the list before it as a sublist, so an order once made is never undone.
-/

namespace WaterCare.Workflow
open Py Engine

/-! ### The order -/

section Order
variable {α : Type} [DecidableEq α] {a b x next : α} {l declared effective categories : List α}

theorem mem_insertCategory : x ∈ insertCategory next a l ↔ x = a ∨ x ∈ l := by
  induction l with
  | nil => simp [insertCategory]
  | cons item rest ih =>
      rw [insertCategory]
      split
      · exact List.mem_cons
      · rw [List.mem_cons, ih, List.mem_cons, or_left_comm]

theorem sublist_insertCategory : l.Sublist (insertCategory next a l) := by
  induction l with
  | nil => exact List.nil_sublist _
  | cons item rest ih =>
      rw [insertCategory]
      split
      · exact List.sublist_cons_self a (item :: rest)
      · exact ih.cons_cons item

theorem nodup_insertCategory (nodup : l.Nodup) (new : a ∉ l) :
    (insertCategory next a l).Nodup := by
  induction l with
  | nil => exact List.nodup_singleton a
  | cons item rest ih =>
      have ⟨first, others⟩ := List.nodup_cons.1 nodup
      have distinct : a ≠ item := fun same => new (List.mem_cons.2 (.inl same))
      have absent : a ∉ rest := fun mem => new (List.mem_cons.2 (.inr mem))
      rw [insertCategory]
      split
      · exact List.nodup_cons.2 ⟨new, nodup⟩
      · refine List.nodup_cons.2 ⟨fun mem => ?_, ih others absent⟩
        rcases mem_insertCategory.1 mem with same | old
        · exact distinct same.symm
        · exact first old

/-- The inserted category stands ahead of the one it is inserted at. -/
theorem before_insertCategory (present : next ∈ l) : [a, next].Sublist (insertCategory next a l) := by
  induction l with
  | nil => cases present
  | cons item rest ih =>
      rw [insertCategory]
      split
      · rename_i same
        rw [same]
        exact ((List.nil_sublist rest).cons_cons item).cons_cons a
      · rename_i other
        rcases List.mem_cons.1 present with same | later
        · exact absurd same other
        · exact (ih later).cons item

/-- One pass of the loop. -/
def placeCategory (effective : List α) (category : α) (later : List α) : List α :=
  if category ∈ effective then effective
  else
    match later.find? fun candidate => decide (candidate ∈ effective) with
    | none => effective ++ [category]
    | some next => insertCategory next category effective

theorem fillCategories_cons (category : α) (later : List α) :
    fillCategories effective (category :: later) =
      fillCategories (placeCategory effective category later) later := by
  rw [fillCategories, placeCategory]
  split
  · rfl
  · cases later.find? fun candidate => decide (candidate ∈ effective) <;> rfl

theorem mem_placeCategory {category : α} {later : List α} :
    x ∈ placeCategory effective category later ↔ x ∈ effective ∨ x = category := by
  unfold placeCategory
  split
  · rename_i known
    refine ⟨.inl, fun mem => ?_⟩
    rcases mem with old | same
    · exact old
    · rw [same]
      exact known
  · split
    · rw [List.mem_append, List.mem_singleton]
    · rw [mem_insertCategory, or_comm]

theorem sublist_placeCategory {category : α} {later : List α} :
    effective.Sublist (placeCategory effective category later) := by
  unfold placeCategory
  split
  · exact List.Sublist.refl effective
  · split
    · exact List.sublist_append_left effective [category]
    · exact sublist_insertCategory

theorem nodup_placeCategory {category : α} {later : List α} (nodup : effective.Nodup) :
    (placeCategory effective category later).Nodup := by
  unfold placeCategory
  split
  · exact nodup
  · rename_i new
    split
    · rw [List.nodup_append]
      refine ⟨nodup, List.nodup_singleton category, fun x mem y single same => ?_⟩
      rw [List.mem_singleton.1 single] at same
      rw [same] at mem
      exact new mem
    · exact nodup_insertCategory nodup new

theorem mem_fillCategories : x ∈ fillCategories effective categories ↔
    x ∈ effective ∨ x ∈ categories := by
  induction categories generalizing effective with
  | nil => simp [fillCategories]
  | cons category later ih =>
      rw [fillCategories_cons, ih, mem_placeCategory, List.mem_cons, or_assoc]

theorem sublist_fillCategories (effective categories : List α) :
    effective.Sublist (fillCategories effective categories) := by
  induction categories generalizing effective with
  | nil => exact List.Sublist.refl effective
  | cons category later ih =>
      rw [fillCategories_cons]
      exact sublist_placeCategory.trans (ih _)

theorem nodup_fillCategories (categories : List α) (nodup : effective.Nodup) :
    (fillCategories effective categories).Nodup := by
  induction categories generalizing effective with
  | nil => exact nodup
  | cons category later ih =>
      rw [fillCategories_cons]
      exact ih (nodup_placeCategory nodup)

/-- Where a category that is not declared comes to stand: ahead of the first one after it that is
there when it is placed, and behind all that are there if none of them is. -/
theorem placed_fillCategories {earlier later : List α} {category : α}
    (distinct : (earlier ++ category :: later).Nodup) (new : category ∉ effective) :
    match later.find? fun next => decide (next ∈ effective ∨ next ∈ earlier) with
    | some next => [category, next].Sublist (fillCategories effective (earlier ++ category :: later))
    | none => ∀ other, other ∈ effective ∨ other ∈ earlier →
        [other, category].Sublist (fillCategories effective (earlier ++ category :: later)) := by
  induction earlier generalizing effective with
  | nil =>
      rw [List.nil_append, fillCategories_cons, placeCategory, if_neg new]
      simp only [List.not_mem_nil, or_false]
      split
      · rename_i next found
        rw [found]
        have present : next ∈ effective := by
          simpa using List.find?_some found
        exact (before_insertCategory present).trans (sublist_fillCategories _ later)
      · rename_i missing
        rw [missing]
        intro other there
        have behind : [other, category].Sublist (effective ++ [category]) :=
          (List.singleton_sublist.2 there).append (List.Sublist.refl [category])
        exact behind.trans (sublist_fillCategories _ later)
  | cons first rest ih =>
      obtain ⟨apart, others⟩ := List.nodup_cons.1 distinct
      have other : category ≠ first := by
        intro same
        refine apart ?_
        rw [← same]
        exact List.mem_append_right rest List.mem_cons_self
      have still : category ∉ placeCategory effective first (rest ++ category :: later) := by
        intro mem
        rcases mem_placeCategory.1 mem with old | same
        · exact new old
        · exact other same
      have both (x : α) :
          (x ∈ placeCategory effective first (rest ++ category :: later) ∨ x ∈ rest) ↔
            x ∈ effective ∨ x ∈ first :: rest := by
        rw [mem_placeCategory, List.mem_cons, or_assoc]
      have placed := ih others still
      simp only [both] at placed
      rw [List.cons_append, fillCategories_cons]
      exact placed

end Order

/-! ### The ranks -/

section Ranks
variable {l declared categories : List String}

theorem eq_str (c d : String) : (Value.str c).eq (.str d) = decide (c = d) := rfl

theorem inItems_str {c : String} : inItems (.str c) (l.map .str) = decide (c ∈ l) := by
  induction l with
  | nil => rfl
  | cons item rest ih =>
      have tail : (rest.map Value.str).any (fun item => (Value.str c).eq item) = decide (c ∈ rest) :=
        ih
      unfold inItems
      rw [List.map_cons, List.any_cons, tail, eq_str]
      by_cases same : c = item <;> simp [same]

theorem insertBefore_str {next c : String} :
    insertBefore (.str next) (.str c) (l.map .str) = (insertCategory next c l).map .str := by
  induction l with
  | nil => rfl
  | cons item rest ih =>
      rw [List.map_cons, insertBefore, insertCategory, eq_str, ih]
      by_cases same : next = item <;> simp [same]

/-- The loop over texts never raises and is the loop over their categories. -/
theorem fillPrecedence_str : fillPrecedence true (declared.map .str) (categories.map .str) =
    .ok ((fillCategories declared categories).map .str) := by
  induction categories generalizing declared with
  | nil => rfl
  | cons category later ih =>
      have found : (later.map Value.str).find? (fun candidate =>
          inItems candidate (declared.map .str)) =
            (later.find? fun candidate => decide (candidate ∈ declared)).map .str := by
        rw [List.find?_map]
        congr 2
        funext candidate
        exact inItems_str
      rw [List.map_cons, fillPrecedence, fillCategories, inItems_str, found]
      by_cases known : category ∈ declared
      · rw [if_pos (decide_eq_true known), if_pos known]
        exact ih
      · rw [if_neg (by simpa using known), if_neg known, if_neg (by simp)]
        cases later.find? fun candidate => decide (candidate ∈ declared) with
        | none =>
            have longer : declared.map Value.str ++ [.str category] =
                (declared ++ [category]).map .str := by
              rw [List.map_append]
              rfl
            exact (congrArg (fillPrecedence true · _) longer).trans ih
        | some next => exact (congrArg (fillPrecedence true · _) insertBefore_str).trans ih

/-- Fresh keys are appended with their positions. -/
theorem precedenceIndex_str {index : Nat} {acc : List (Atom × Nat)} (distinct : l.Nodup)
    (fresh : ∀ c ∈ l, ∀ e ∈ acc, e.1 ≠ .str c) :
    precedenceIndex index acc (l.map .str) =
      .ok (acc ++ (l.zipIdx index).map fun e => (.str e.1, e.2)) := by
  induction l generalizing index acc with
  | nil => simp [precedenceIndex]
  | cons first rest ih =>
      obtain ⟨apart, others⟩ := List.nodup_cons.1 distinct
      have new : assign acc (.str first) index = acc ++ [(.str first, index)] := by
        unfold assign
        rw [if_neg]
        intro known
        obtain ⟨e, mem, same⟩ := List.any_eq_true.1 known
        exact fresh first List.mem_cons_self e mem (Atom.eq_str_iff.1 same)
      have next : precedenceIndex (index + 1) (assign acc (.str first) index) (rest.map .str) =
          .ok (acc ++ ((first :: rest).zipIdx index).map fun e => (.str e.1, e.2)) := by
        rw [new, ih others]
        · rw [List.zipIdx_cons, List.map_cons, List.append_assoc]
          rfl
        · intro c mem e old
          rcases List.mem_append.1 old with before | last
          · exact fresh c (List.mem_cons_of_mem first mem) e before
          · rw [List.mem_singleton.1 last]
            intro same
            refine apart ?_
            rw [Atom.str.inj same]
            exact mem
      exact next

theorem idxOf_lt_idxOf {a b : String} (distinct : l.Nodup) (ordered : [a, b].Sublist l) :
    l.idxOf a < l.idxOf b := by
  induction l with
  | nil => cases ordered
  | cons first rest ih =>
      have ⟨apart, others⟩ := List.nodup_cons.1 distinct
      cases ordered with
      | cons _ inside =>
          have left : first ≠ a := by
            intro same
            rw [same] at apart
            exact apart (inside.subset List.mem_cons_self)
          have right : first ≠ b := by
            intro same
            rw [same] at apart
            exact apart (inside.subset (List.mem_cons_of_mem a List.mem_cons_self))
          rw [List.idxOf_cons_ne rest left, List.idxOf_cons_ne rest right]
          have smaller := ih others inside
          omega
      | cons_cons _ inside =>
          have right : a ≠ b := by
            intro same
            rw [same] at apart
            exact apart (inside.subset List.mem_cons_self)
          rw [List.idxOf_cons_self, List.idxOf_cons_ne rest right]
          omega

/-- The rank that the map gives a category, or one behind all of them. -/
def rankIn (ranks : List (Atom × Nat)) (category : String) : Nat :=
  (lookup ranks (.str category)).getD ranks.length

/-- The map of the source for an order. -/
def ranksOf (order : List String) : List (Atom × Nat) :=
  order.zipIdx.map fun e => (.str e.1, e.2)

theorem lookup_zipIdx {c : String} (index : Nat) (mem : c ∈ l) :
    lookup ((l.zipIdx index).map fun e => ((.str e.1, e.2) : Atom × Nat)) (.str c) =
      some (index + l.idxOf c) := by
  induction l generalizing index with
  | nil => cases mem
  | cons first rest ih =>
      unfold lookup
      rw [List.zipIdx_cons, List.map_cons, List.find?_cons]
      by_cases same : first = c
      · simp [same]
      · have further : c ∈ rest := by
          rcases List.mem_cons.1 mem with here | there
          · exact absurd here.symm same
          · exact there
        have tail := ih (index + 1) further
        unfold lookup at tail
        rw [List.idxOf_cons_ne rest same]
        simp only [Atom.eq_str, decide_eq_false same]
        rw [tail]
        congr 1
        omega

theorem rankIn_ranksOf {c : String} (mem : c ∈ l) : rankIn (ranksOf l) c = l.idxOf c := by
  unfold rankIn ranksOf
  rw [lookup_zipIdx 0 mem, Option.getD_some, Nat.zero_add]

/-- `_effective_guard_precedence` over texts. -/
theorem effectiveGuardPrecedence_texts (distinct : declared.Nodup) :
    effectiveGuardPrecedence (texts declared) (texts categories) =
      .ok (ranksOf (fillCategories declared categories)) := by
  have filled : fillPrecedence (texts categories).asDict?.isNone (declared.map .str)
      (categories.map .str) = .ok ((fillCategories declared categories).map .str) :=
    fillPrecedence_str
  have indexed : precedenceIndex 0 [] ((fillCategories declared categories).map .str) =
      .ok (ranksOf (fillCategories declared categories)) :=
    precedenceIndex_str (nodup_fillCategories categories distinct) fun _ _ _ old => by cases old
  unfold effectiveGuardPrecedence
  simp only [texts, Value.iter_list, bind, Except.bind] at filled ⊢
  rw [filled]
  exact indexed

/-- What the completed map says about the declared categories and those of the contract. -/
structure CompletesPrecedence (declared categories : List String) (ranks : List (Atom × Nat)) :
    Prop where
  /-- Every category of both lists has a rank, and nothing else has. -/
  ranked : ∀ key, key ∈ ranks.map (·.1) ↔ ∃ c, (c ∈ declared ∨ c ∈ categories) ∧ key = .str c
  once : (ranks.map (·.1)).Nodup
  consecutive : ranks.map (·.2) = List.range ranks.length
  /-- The declared categories keep their order. -/
  kept : declared.Pairwise fun a b => rankIn ranks a < rankIn ranks b
  /-- A category that is not declared comes ahead of the first one after it that was declared or
  already placed. If there is none, it comes behind all that were. -/
  placed : ∀ earlier category later, categories = earlier ++ category :: later →
    category ∉ declared →
      match later.find? fun next => decide (next ∈ declared ∨ next ∈ earlier) with
      | some next => rankIn ranks category < rankIn ranks next
      | none => ∀ other, other ∈ declared ∨ other ∈ earlier →
          rankIn ranks other < rankIn ranks category

theorem effectiveGuardPrecedence_completes (declared categories : List String)
    (distinct : declared.Nodup) (apart : categories.Nodup) :
    ∃ ranks, effectiveGuardPrecedence (texts declared) (texts categories) = .ok ranks ∧
      CompletesPrecedence declared categories ranks := by
  refine ⟨_, effectiveGuardPrecedence_texts distinct, ?_⟩
  have nodup := nodup_fillCategories categories distinct
  have less {a b : String} (ordered : [a, b].Sublist (fillCategories declared categories)) :
      rankIn (ranksOf (fillCategories declared categories)) a <
        rankIn (ranksOf (fillCategories declared categories)) b := by
    have first := ordered.subset List.mem_cons_self
    have second := ordered.subset (List.mem_cons_of_mem a List.mem_cons_self)
    rw [rankIn_ranksOf first, rankIn_ranksOf second]
    exact idxOf_lt_idxOf nodup ordered
  have keys : (ranksOf (fillCategories declared categories)).map (·.1) =
      (fillCategories declared categories).map .str := by
    have names := List.zipIdx_map_fst 0 (fillCategories declared categories)
    have texts := congrArg (List.map Atom.str) names
    rw [List.map_map] at texts
    unfold ranksOf
    rw [List.map_map]
    exact texts
  constructor
  · intro key
    rw [keys, List.mem_map]
    constructor
    · intro ⟨c, mem, same⟩
      exact ⟨c, mem_fillCategories.1 mem, same.symm⟩
    · intro ⟨c, mem, same⟩
      exact ⟨c, mem_fillCategories.2 mem, same.symm⟩
  · rw [keys]
    exact nodup.map fun _ _ same => Atom.str.inj same
  · unfold ranksOf
    rw [List.map_map, List.length_map, List.length_zipIdx]
    exact List.zipIdx_map_snd 0 _ |>.trans List.range_eq_range'.symm
  · have kept := sublist_fillCategories declared categories
    rw [List.pairwise_iff_forall_sublist]
    intro a b ordered
    exact less (ordered.trans kept)
  · intro earlier category later split' new
    subst split'
    have placed := placed_fillCategories apart new
    split <;> rename_i found <;> rw [found] at placed
    · exact less placed
    · exact fun other there => less (placed other there)

theorem effectiveGuardPrecedence_completes_assignment :
    ["ROLE", "PAYLOAD"].Nodup ∧ ["ROLE", "ASSIGNMENT", "PAYLOAD", "COMPLETION"].Nodup ∧
      ∃ ranks, effectiveGuardPrecedence (texts ["ROLE", "PAYLOAD"])
          (texts ["ROLE", "ASSIGNMENT", "PAYLOAD", "COMPLETION"]) = .ok ranks ∧
        CompletesPrecedence ["ROLE", "PAYLOAD"] ["ROLE", "ASSIGNMENT", "PAYLOAD", "COMPLETION"]
          ranks :=
  ⟨by decide, by decide, effectiveGuardPrecedence_completes _ _ (by decide) (by decide)⟩

/-- No category after `ASSIGNMENT` is declared or placed when it is, but it does not stay the last
one: the next category is appended behind it. -/
theorem assignment_not_last : ([] : List String).Nodup ∧ ["ASSIGNMENT", "COMPLETION"].Nodup ∧
    ∃ ranks, effectiveGuardPrecedence (texts []) (texts ["ASSIGNMENT", "COMPLETION"]) = .ok ranks ∧
      (["COMPLETION"].find? fun next => decide (next ∈ ([] : List String))) = none ∧
      rankIn ranks "ASSIGNMENT" < rankIn ranks "COMPLETION" :=
  ⟨by decide, by decide, [(.str "ASSIGNMENT", 0), (.str "COMPLETION", 1)], rfl, rfl, by decide⟩

end Ranks
end WaterCare.Workflow
