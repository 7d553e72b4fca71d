import Mathlib.Order.Lattice
import Mathlib.Order.Nat
import Mathlib.Order.Hom.Basic

/-!
Dates of the proleptic Gregorian calendar between the years 1 and 9999, in their order, and the
date that lies a number of months after another.
-/

namespace Machine.Calendar

def isLeap (year : Nat) : Bool := year % 4 == 0 && (year % 100 != 0 || year % 400 == 0)

/-- The number of days of a month, the months counted from one. -/
def daysInMonth (year month : Nat) : Nat :=
  if month = 2 then (if isLeap year then 29 else 28)
  else if month = 4 ∨ month = 6 ∨ month = 9 ∨ month = 11 then 30
  else 31

theorem daysInMonth_pos (year month : Nat) : 1 ≤ daysInMonth year month := by
  unfold daysInMonth
  split
  · split
    · omega
    · omega
  · split
    · omega
    · omega

theorem daysInMonth_le (year month : Nat) : daysInMonth year month ≤ 31 := by
  unfold daysInMonth
  split
  · split
    · omega
    · omega
  · split
    · omega
    · omega

structure Date where
  year : Nat
  month : Nat
  day : Nat
  year_mem : 1 ≤ year ∧ year ≤ 9999
  month_mem : 1 ≤ month ∧ month ≤ 12
  day_mem : 1 ≤ day ∧ day ≤ daysInMonth year month
  deriving DecidableEq

namespace Date

/-- The months before a date. -/
def months (d : Date) : Nat := d.year * 12 + (d.month - 1)

/-- The place of a date in the order. -/
def place (d : Date) : Nat := d.months * 32 + d.day

theorem day_lt (d : Date) : d.day < 32 := by
  have := d.day_mem.2
  have := daysInMonth_le d.year d.month
  omega

theorem place_injective : Function.Injective place := by
  intro d e same
  have hd := d.day_lt
  have he := e.day_lt
  have md := d.month_mem
  have me := e.month_mem
  have days : d.day = e.day := by
    unfold place at same
    omega
  have whole : d.months = e.months := by
    unfold place at same
    omega
  have year : d.year = e.year := by
    unfold months at whole
    omega
  have month : d.month = e.month := by
    unfold months at whole
    omega
  cases d
  cases e
  simp only [Date.mk.injEq]
  exact ⟨year, month, days⟩

instance : LinearOrder Date := LinearOrder.lift' place place_injective

/-- The same day of the month some months later, or the last of the month where it has fewer days.
There is none after the year 9999. -/
def addMonths (d : Date) (n : Nat) : Option Date :=
  let index := d.months + n
  if h : index / 12 ≤ 9999 then
    some
      { year := index / 12
        month := index % 12 + 1
        day := min d.day (daysInMonth (index / 12) (index % 12 + 1))
        year_mem := by
          refine ⟨?_, h⟩
          have := d.year_mem.1
          have : index = d.year * 12 + (d.month - 1) + n := rfl
          omega
        month_mem := by omega
        day_mem := by
          refine ⟨?_, Nat.min_le_right _ _⟩
          exact Nat.le_min.2 ⟨d.day_mem.1, daysInMonth_pos _ _⟩ }
  else none

end Date

end Machine.Calendar
