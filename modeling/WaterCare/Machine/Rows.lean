import Mathlib.Data.List.Lex
import Mathlib.Data.List.MinMax
import Mathlib.Data.List.Nodup
import Mathlib.Data.Prod.Lex

/-!
The rows of a table in the order of their insertion, numbered from one. Writes
concern the last row: it is changed in place, or a new one follows it.
-/

namespace Machine
variable {α β : Type*}

/-- A row with a greater key than all before it is the one `argmax` selects. -/
theorem argmax_concat_of_lt [LinearOrder β] {key : α → β} {older : List α} {x : α}
    (greater : ∀ y ∈ older, key y < key x) : (older ++ [x]).argmax key = some x := by
  rw [List.argmax_concat]
  cases found : older.argmax key with
  | none => rfl
  | some y =>
      have mem : y ∈ older := List.argmax_mem found
      exact if_pos (greater y mem)

/-- Rows with the numbers from one on and identifiers of their own below a limit. -/
structure Numbered (number id : α → Nat) (limit : Nat) (rows : List α) : Prop where
  numbers : rows.map number = List.range' 1 rows.length
  nodup : (rows.map id).Nodup
  below : ∀ x ∈ rows, id x < limit

namespace Numbered
variable {number id : α → Nat} {limit more : Nat} {rows older : List α} {x y : α}

theorem nil : Numbered number id limit [] := ⟨rfl, List.nodup_nil, fun _ h => by cases h⟩

theorem mono (numbered : Numbered number id limit rows) (h : limit ≤ more) :
    Numbered number id more rows :=
  ⟨numbered.numbers, numbered.nodup, fun x mem => Nat.lt_of_lt_of_le (numbered.below x mem) h⟩

theorem number_bounds (numbered : Numbered number id limit rows) (mem : x ∈ rows) :
    1 ≤ number x ∧ number x ≤ rows.length := by
  have listed : number x ∈ rows.map number := List.mem_map_of_mem mem
  rw [numbered.numbers, List.mem_range'_1] at listed
  omega

/-- A row is known by its identifier. -/
theorem eq_of_id (numbered : Numbered number id limit rows) (mem : x ∈ rows) (mem' : y ∈ rows)
    (same : id x = id y) : x = y :=
  List.inj_on_of_nodup_map numbered.nodup mem mem' same

theorem older_of_concat (numbered : Numbered number id limit (older ++ [x])) :
    Numbered number id limit older ∧ number x = older.length + 1 ∧ id x ∉ older.map id := by
  obtain ⟨numbers, nodup, below⟩ := numbered
  rw [List.map_append, List.length_append, List.range'_append_1.symm] at numbers
  obtain ⟨front, back⟩ := List.append_inj numbers (by simp)
  rw [List.map_append, List.nodup_append] at nodup
  refine ⟨⟨front, nodup.1, fun y mem => below y (List.mem_append_left _ mem)⟩, ?_, ?_⟩
  · have last : number x = 1 + older.length := by simpa using back
    omega
  · intro mem
    exact nodup.2.2 _ mem _ (List.mem_singleton_self _) rfl

/-- The last row is the one with the greatest number. -/
theorem newest (numbered : Numbered number id limit (older ++ [x])) :
    (older ++ [x]).argmax (fun y => toLex (number y, id y)) = some x := by
  obtain ⟨front, last, _⟩ := numbered.older_of_concat
  refine argmax_concat_of_lt ?_
  intro y mem
  rw [Prod.Lex.toLex_lt_toLex]
  have := (front.number_bounds mem).2
  exact .inl (by simp only; omega)

/-- An update by identifier concerns the row that has it. -/
theorem replace_last (numbered : Numbered number id limit (older ++ [x])) (same : id y = id x) :
    (older ++ [x]).map (fun z => if id z = id y then y else z) = older ++ [y] := by
  obtain ⟨_, _, apart⟩ := numbered.older_of_concat
  rw [List.map_append, List.map_singleton, if_pos same.symm]
  congr 1
  conv_rhs => rw [← List.map_id older]
  refine List.map_congr_left ?_
  intro z mem
  refine if_neg ?_
  intro equal
  exact apart (same ▸ equal ▸ List.mem_map_of_mem mem)

theorem change (numbered : Numbered number id limit (older ++ [x])) (sameId : id y = id x)
    (sameNumber : number y = number x) : Numbered number id limit (older ++ [y]) := by
  obtain ⟨numbers, nodup, below⟩ := numbered
  rw [List.map_append, List.map_singleton] at numbers nodup
  refine ⟨?_, ?_, ?_⟩
  · rw [List.map_append, List.map_singleton, sameNumber, numbers]
    simp
  · rw [List.map_append, List.map_singleton, sameId]
    exact nodup
  · intro z mem
    rcases List.mem_append.1 mem with old | new
    · exact below z (List.mem_append_left _ old)
    · rw [List.mem_singleton.1 new, sameId]
      exact below x (by simp)

theorem add (numbered : Numbered number id limit rows) (number_eq : number y = rows.length + 1)
    (fresh : limit ≤ id y) (next : id y < more) : Numbered number id more (rows ++ [y]) := by
  refine ⟨?_, ?_, ?_⟩
  · rw [List.map_append, numbered.numbers, List.length_append, List.length_singleton,
      List.range'_concat, List.map_singleton, number_eq]
    simp [Nat.add_comm]
  · rw [List.map_append, List.nodup_append]
    refine ⟨numbered.nodup, List.nodup_singleton _, ?_⟩
    intro i old j new equal
    obtain ⟨z, mem, rfl⟩ := List.mem_map.1 old
    have below := numbered.below z mem
    rw [List.map_singleton, List.mem_singleton] at new
    omega
  · intro z mem
    rcases List.mem_append.1 mem with old | new
    · have := numbered.below z old
      omega
    · rw [List.mem_singleton.1 new]
      exact next

/-- The greatest number is the number of rows. -/
theorem greatest (numbered : Numbered number id limit rows) :
    (rows.map number).foldr max 0 = rows.length := by
  rw [numbered.numbers]
  induction rows.length with
  | zero => rfl
  | succ n ih =>
      rw [List.range'_concat, List.foldr_append]
      have shifted (m : Nat) (xs : List Nat) : xs.foldr max m = max (xs.foldr max 0) m := by
        induction xs with
        | nil => simp
        | cons x xs ihx => simp only [List.foldr_cons, ihx]; omega
      rw [shifted, ih]
      simp only [List.foldr_cons, List.foldr_nil]
      omega

end Numbered
end Machine
