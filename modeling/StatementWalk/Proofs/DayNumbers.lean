import Mathlib.Data.List.Range
import StatementWalk.Calendar.Date

/-!
# Day numbers

The calendar repeats after 400 years of 146097 days. The date of a day number has this number again,
so different numbers have different dates, and the days of a week are different days.
-/

namespace StatementWalk.Calendar

def numberOf (date : Nat × Nat × Nat) : Nat := dayNumber date.1 date.2.1 date.2.2

theorem isLeap_iff {year : Nat} :
    isLeap year = true ↔ year % 4 = 0 ∧ (year % 100 ≠ 0 ∨ year % 400 = 0) := by
  simp [isLeap]

theorem daysBeforeMonth_succ (year : Nat) {month : Nat} (h : 1 ≤ month) :
    daysBeforeMonth year (month + 1) = daysBeforeMonth year month + daysInMonth year month := by
  cases month with
  | zero => cases h
  | succ month => rfl

theorem daysBeforeMonth_december (year : Nat) :
    daysBeforeMonth year 12 = if isLeap year then 335 else 334 := by
  cases hleap : isLeap year <;> simp [daysBeforeMonth, daysInMonth, hleap]

/-- The month that is found holds the day, if one of the months that are looked at does. -/
theorem monthOfDay_range (year : Nat) {first count n : Nat} (hfirst : 1 ≤ first)
    (hn : daysBeforeMonth year first + n < daysBeforeMonth year (first + count)) :
    daysBeforeMonth year (monthOfDay year (List.range' first count) n).1 +
      (monthOfDay year (List.range' first count) n).2 = daysBeforeMonth year first + n + 1 := by
  induction count generalizing first n with
  | zero => exact absurd hn (by rw [Nat.add_zero]; omega)
  | succ count ih =>
      have hnext := daysBeforeMonth_succ year hfirst
      rw [List.range'_succ, monthOfDay]
      split
      · rfl
      · rw [ih (by omega) (by rw [Nat.add_right_comm, Nat.add_assoc]; omega)]
        omega

theorem numberOf_monthOfDay (year : Nat) {n : Nat} (hn : n < 365) :
    numberOf (year, monthOfDay year [1, 2, 3, 4, 5, 6, 7, 8, 9, 10, 11, 12] n) =
      daysBeforeYear year + n + 1 := by
  have hend : daysBeforeMonth year 13 = daysBeforeMonth year 12 + 31 := rfl
  have hdecember := daysBeforeMonth_december year
  have hfirst : daysBeforeMonth year 1 = 0 := rfl
  have hbound : daysBeforeMonth year 1 + n < daysBeforeMonth year (1 + 12) := by
    rw [hfirst, show 1 + 12 = 13 from rfl, hend, hdecember]
    split <;> omega
  have hfound := monthOfDay_range year (Nat.le_refl 1) hbound
  rw [hfirst] at hfound
  rw [numberOf, dayNumber, show [1, 2, 3, 4, 5, 6, 7, 8, 9, 10, 11, 12] = List.range' 1 12 from rfl]
  dsimp only
  omega

/-- The days before a year, by the four centuries, the centuries, the four years and the years
before it. -/
theorem daysBeforeYear_eq {a b c d : Nat} (hb : b < 4) (hc : c < 25) (hd : d < 4) :
    daysBeforeYear (a * 400 + b * 100 + c * 4 + d + 1) =
      146097 * a + 36524 * b + 1461 * c + 365 * d := by
  unfold daysBeforeYear
  dsimp only
  omega

theorem numberOf_leapEnd {year : Nat} (h : isLeap year = true) :
    numberOf (year, 12, 31) = daysBeforeYear year + 366 := by
  rw [numberOf, dayNumber]
  dsimp only
  rw [daysBeforeMonth_december, h]
  rfl

theorem numberOf_ofDayNumber {number : Nat} (h : 1 ≤ number) :
    numberOf (ofDayNumber number) = number := by
  unfold ofDayNumber
  dsimp only
  generalize ha : (number - 1) / 146097 = a
  generalize hb : (number - 1) % 146097 / 36524 = b
  generalize hc : (number - 1) % 146097 % 36524 / 1461 = c
  generalize hd : (number - 1) % 146097 % 36524 % 1461 / 365 = d
  generalize hn : (number - 1) % 146097 % 36524 % 1461 % 365 = n
  have hsplit : number = 146097 * a + 36524 * b + 1461 * c + 365 * d + n + 1 := by omega
  split
  · -- The last day of four years, or of four centuries, is counted as the first one of a fifth.
    rename_i hfifth
    by_cases hcentury : b = 4
    · obtain ⟨rfl, rfl, rfl⟩ : c = 0 ∧ d = 0 ∧ n = 0 := by omega
      have hyear : a * 400 + b * 100 + 0 * 4 + 0 + 1 - 1 = a * 400 + 3 * 100 + 24 * 4 + 3 + 1 := by
        omega
      have hleap : isLeap (a * 400 + 3 * 100 + 24 * 4 + 3 + 1) = true := isLeap_iff.mpr (by omega)
      have hdays := daysBeforeYear_eq (a := a) (show 3 < 4 by decide) (show 24 < 25 by decide)
        (show 3 < 4 by decide)
      rw [hyear, numberOf_leapEnd hleap, hdays]
      omega
    · obtain ⟨rfl, rfl⟩ : d = 4 ∧ n = 0 := by omega
      have hyear : a * 400 + b * 100 + c * 4 + 4 + 1 - 1 = a * 400 + b * 100 + c * 4 + 3 + 1 := by
        omega
      have hleap : isLeap (a * 400 + b * 100 + c * 4 + 3 + 1) = true := isLeap_iff.mpr (by omega)
      rw [hyear, numberOf_leapEnd hleap, daysBeforeYear_eq (by omega) (by omega) (by decide)]
      omega
  · rename_i hfifth
    rw [numberOf_monthOfDay _ (by omega), daysBeforeYear_eq (by omega) (by omega) (by omega)]
    omega

theorem ofDayNumber_inj {m n : Nat} (hm : 1 ≤ m) (hn : 1 ≤ n) (h : ofDayNumber m = ofDayNumber n) :
    m = n := by
  rw [← numberOf_ofDayNumber hm, ← numberOf_ofDayNumber hn, h]

theorem one_le_firstMonday {year : Nat} (h : 1 ≤ year) : 1 ≤ firstMonday year := by
  have hfirst : dayNumber year 1 1 = daysBeforeYear year + 1 := rfl
  have hyears : 2 ≤ year → 365 ≤ daysBeforeYear year := by
    intro htwo
    have hcenturies : (year - 1) / 100 ≤ (year - 1) / 4 :=
      Nat.div_le_div_left (by decide) (by decide)
    unfold daysBeforeYear
    dsimp only
    omega
  unfold firstMonday
  dsimp only
  have hweek : weekday year 1 1 < 7 := Nat.mod_lt _ (by decide)
  rcases Nat.lt_or_ge year 2 with hone | htwo
  · obtain rfl : year = 1 := by omega
    decide
  · have := hyears htwo
    split <;> omega

theorem ofWeek?_day_inj {year week day day' : Nat} {date : Nat × Nat × Nat} (hyear : 1 ≤ year)
    (h : ofWeek? year week day = some date) (h' : ofWeek? year week day' = some date) :
    day = day' := by
  have hmonday := one_le_firstMonday hyear
  unfold ofWeek? at h h'
  rw [if_neg (show ¬year = 0 by omega)] at h h'
  split at h
  · cases h
  · rename_i hweek
    rw [if_neg hweek] at h'
    split at h
    · cases h
    · rename_i hday
      split at h'
      · cases h'
      · rename_i hday'
        have hnumber := ofDayNumber_inj (by omega) (by omega) (Option.some.inj (h.trans h'.symm))
        omega

end StatementWalk.Calendar
