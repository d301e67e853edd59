import Mathlib.Tactic.Common
import Mathlib.Algebra.Order.Ring.Int
import Catalog.Time

/-!
Days are counted the way they are named: the day of a number has that number.
-/

namespace Catalog.Time.Date

/-! ### Four hundred years -/

/-- A day of a turn lies in a century, in four years of it, and has a place among their days. The
last century has a day more than the others. -/
lemma exists_cycles {day : ℕ} (h : day < 146097) :
    ∃ century four place, day = 36524 * century + 1461 * four + place
      ∧ century ≤ 3 ∧ four ≤ 24 ∧ place ≤ 1460
      ∧ (century ≤ 2 → 1461 * four + place < 36524) := by
  refine ⟨min 3 (day / 36524), (day - 36524 * min 3 (day / 36524)) / 1461,
    (day - 36524 * min 3 (day / 36524)) % 1461, ?_⟩
  omega

/-- The year of the turn that a day lies in. -/
lemma year_eq {century four place day : ℕ} (hcentury : century ≤ 3) (hfour : four ≤ 24)
    (hplace : place ≤ 1460) (hlast : century ≤ 2 → 1461 * four + place < 36524)
    (h : day = 36524 * century + 1461 * four + place) :
    (day - day / 1460 + day / 36524 - day / 146096) / 365
      = 100 * century + 4 * four + min 3 (place / 365) := by
  have hleap : day / 1460
      = 25 * century + four + (24 * century + four + place) / 1460 := by omega
  have hone : (24 * century + four + place) / 1460 ≤ 1 := by omega
  have hcount : day / 36524 - day / 146096 = century := by omega
  have hle : day / 146096 ≤ day / 36524 := by omega
  have hdays : day - day / 1460 + day / 36524 - day / 146096
      = 36500 * century + 1460 * four + (place - (24 * century + four + place) / 1460) := by
    omega
  rw [hdays]
  omega

/-- A day of a turn is a day of its year. -/
lemma dayOfTurn {day year : ℕ} (h : day < 146097)
    (hyear : year = (day - day / 1460 + day / 36524 - day / 146096) / 365) :
    365 * year + year / 4 - year / 100 ≤ day ∧ year ≤ 399
      ∧ day - (365 * year + year / 4 - year / 100) ≤ 365 := by
  obtain ⟨century, four, place, hday, hcentury, hfour, hplace, hlast⟩ := exists_cycles h
  rw [year_eq hcentury hfour hplace hlast hday] at hyear
  have hfours : year / 4 = 25 * century + four := by omega
  have hhundreds : year / 100 = century := by omega
  rw [hfours, hhundreds]
  omega

/-! ### Days -/

/-- The days up to a day of a year that starts in March. -/
lemma toDays_eq {turn : Int} {year month inYear : ℕ} (hyear : year ≤ 399) (hmonth : month ≤ 11)
    (hin : (153 * month + 2) / 5 ≤ inYear) :
    (if month < 10 then
        (⟨turn * 400 + year, month + 3, inYear - (153 * month + 2) / 5 + 1⟩ : Date)
      else ⟨turn * 400 + year + 1, month - 9, inYear - (153 * month + 2) / 5 + 1⟩).toDays
      = turn * 146097 + (365 * year + year / 4 - year / 100 : ℕ) + inYear - 719468 := by
  have hturn : (turn * 400 + year) / 400 = turn := by omega
  have hinTurn : (turn * 400 + year) % 400 = year := by omega
  have hday : (153 * month + 2) / 5 + (inYear - (153 * month + 2) / 5 + 1) - 1 = inYear := by omega
  split
  · have hlate : ¬month + 3 ≤ 2 := by omega
    simp only [toDays, hlate, if_false, Nat.add_sub_cancel, hturn, hinTurn]
    omega
  · have hearly : month - 9 ≤ 2 := by omega
    have hback : month - 9 + 9 = month := by omega
    simp only [toDays, hearly, if_true, hback, add_sub_cancel_right, hturn, hinTurn]
    omega

/-- The day of a number has that number. -/
theorem toDays_ofDays (n : Int) : (ofDays n).toDays = n := by
  obtain ⟨day, hday⟩ : ∃ day : ℕ, day = ((n + 719468) % 146097).toNat := ⟨_, rfl⟩
  obtain ⟨year, hyear⟩ : ∃ year : ℕ,
    year = (day - day / 1460 + day / 36524 - day / 146096) / 365 := ⟨_, rfl⟩
  obtain ⟨hle, hlast, hin⟩ := dayOfTurn (by omega) hyear
  obtain ⟨inYear, hinYear⟩ : ∃ inYear : ℕ,
    inYear = day - (365 * year + year / 4 - year / 100) := ⟨_, rfl⟩
  have hof : ofDays n
      = if (5 * inYear + 2) / 153 < 10 then
          ⟨(n + 719468) / 146097 * 400 + year, (5 * inYear + 2) / 153 + 3,
            inYear - (153 * ((5 * inYear + 2) / 153) + 2) / 5 + 1⟩
        else
          ⟨(n + 719468) / 146097 * 400 + year + 1, (5 * inYear + 2) / 153 - 9,
            inYear - (153 * ((5 * inYear + 2) / 153) + 2) / 5 + 1⟩ := by
    simp only [ofDays, ← hday, ← hyear, ← hinYear]
  clear hyear
  rw [hof, toDays_eq hlast (by omega) (by omega)]
  omega

end Catalog.Time.Date
