import Mathlib.Order.Nat
import TaskDaemon.Time.Calendar

/-!
# Days and dates

The date of a day exists, and its day is the one it was taken from
(`TaskDaemon.Date.isValid_ofDays`, `TaskDaemon.Date.toDays_ofDays`).

A day is taken apart twice: into a year counted from March and a day of that year
(`TaskDaemon.Date.yearParts`), and that day into a month and a day of the month
(`TaskDaemon.Date.ofParts`). Each of the two steps is undone by a lemma of its own, and the last day
of a year of 366 is the one to look after: it is the leap day.
-/

namespace TaskDaemon

namespace Date

/-! ### Years -/

/-- The day within four hundred years, and the century, the four years and the year it is in. -/
structure YearParts where
  /-- The number of four hundred years. -/
  era : Int
  /-- The century of those. -/
  century : Int
  /-- The four years of the century. -/
  quad : Int
  /-- The year of the four. -/
  year : Int
  /-- The day of the year, from 1 March. -/
  day : Int

/-- **A day taken apart** into years, centuries and a day of the year. -/
def yearParts (days : Int) : YearParts :=
  let z := days + epochDay
  let dayOfEra := z % daysPerEra
  let century := min (dayOfEra / 36524) 3
  let dayOfCentury := dayOfEra - century * 36524
  let dayOfQuad := dayOfCentury % 1461
  let yearOfQuad := min (dayOfQuad / 365) 3
  ⟨z / daysPerEra, century, dayOfCentury / 1461, yearOfQuad, dayOfQuad - yearOfQuad * 365⟩

namespace YearParts

/-- The year counted from March. -/
def marchYear (parts : YearParts) : Int :=
  parts.era * 400 + parts.century * 100 + parts.quad * 4 + parts.year

/-- **The parts of a day lie within their bounds**, and only the last day of a leap year is the
366th of its year. -/
structure Fit (parts : YearParts) : Prop where
  century : 0 ≤ parts.century ∧ parts.century ≤ 3
  quad : 0 ≤ parts.quad ∧ parts.quad ≤ 24
  year : 0 ≤ parts.year ∧ parts.year ≤ 3
  day : 0 ≤ parts.day ∧ parts.day ≤ 365
  leap : parts.day = 365 → parts.year = 3 ∧ (parts.quad = 24 → parts.century = 3)

end YearParts

theorem fit_yearParts (days : Int) : (yearParts days).Fit := by
  unfold yearParts daysPerEra
  constructor <;> dsimp only <;> omega

theorem days_of_yearParts (days : Int) :
    (yearParts days).era * 146097 + (yearParts days).century * 36524 +
      (yearParts days).quad * 1461 + (yearParts days).year * 365 + (yearParts days).day =
      days + epochDay := by
  unfold yearParts daysPerEra
  dsimp only
  omega

/-! ### Months -/

/-- **The month from March** of a day of the year. -/
def monthFromMarch (dayOfYear : Nat) : Nat :=
  (5 * dayOfYear + 2) / 153

/-- The month of a month from March. -/
def monthOf (fromMarch : Nat) : Nat :=
  if fromMarch < 10 then fromMarch + 3 else fromMarch - 9

/-- **A date by its year from March and its day in it.** -/
def ofParts (parts : YearParts) : Date :=
  let day := parts.day.toNat
  let month := monthOf (monthFromMarch day)
  ⟨parts.marchYear + if month ≤ 2 then 1 else 0, month,
    day - (153 * monthFromMarch day + 2) / 5 + 1⟩

theorem ofDays_eq (days : Int) : ofDays days = ofParts (yearParts days) :=
  rfl

section

variable {parts : YearParts}

theorem marchYear_ofParts (parts : YearParts) :
    (ofParts parts).marchYear = parts.marchYear := by
  unfold ofParts marchYear
  dsimp only
  split <;> omega

/-- **The day of the year is found again** from the month and its day. -/
theorem marchDay_ofParts (h : parts.Fit) : ((ofParts parts).marchDay : Int) = parts.day := by
  obtain ⟨hleast, hgreatest⟩ := h.day
  have hmonth : (ofParts parts).marchMonth = monthFromMarch parts.day.toNat := by
    unfold ofParts marchMonth monthOf monthFromMarch
    dsimp only
    split <;> split <;> omega
  unfold marchDay
  rw [hmonth]
  unfold ofParts monthFromMarch
  dsimp only
  omega

/-- **The day of a date is the one that it was taken from.** -/
theorem toDays_ofDays (days : Int) : (ofDays days).toDays = days := by
  have hfit := fit_yearParts days
  obtain ⟨hcentury, hcentury'⟩ := hfit.century
  obtain ⟨hquad, hquad'⟩ := hfit.quad
  obtain ⟨hyear, hyear'⟩ := hfit.year
  have hdays := days_of_yearParts days
  unfold toDays
  rw [ofDays_eq, marchYear_ofParts, marchDay_ofParts hfit]
  unfold YearParts.marchYear daysPerEra
  dsimp only
  omega

/-- A year counted from March ends with a leap day only if the year it ends in is a leap year. -/
theorem isLeap_of_day (h : parts.Fit) (hday : parts.day = 365) :
    isLeap (parts.marchYear + 1) = true := by
  obtain ⟨hcentury, hcentury'⟩ := h.century
  obtain ⟨hquad, hquad'⟩ := h.quad
  obtain ⟨hyear, hlast⟩ := h.leap hday
  have hfour : (parts.marchYear + 1) % 4 = 0 := by
    unfold YearParts.marchYear
    omega
  have hhundred : (parts.marchYear + 1) % 100 ≠ 0 ∨ (parts.marchYear + 1) % 400 = 0 := by
    unfold YearParts.marchYear
    by_cases hquad : parts.quad = 24
    · have := hlast hquad
      omega
    · omega
  unfold isLeap
  rw [decide_eq_true hfour, Bool.true_and, Bool.or_eq_true, decide_eq_true_iff, decide_eq_true_iff]
  exact hhundred

/-- **The days of a year counted from March** are those of its twelve months, February being the
last. -/
theorem day_le_monthLength : ∀ day < 366,
    let month := monthOf (monthFromMarch day)
    1 ≤ month ∧ month ≤ 12 ∧
      day - (153 * monthFromMarch day + 2) / 5 + 1 ≤
        if month = 2 then if day = 365 then 29 else 28 else monthLength 0 month := by
  decide +kernel

/-- **The date of a day exists.** -/
theorem isValid_ofDays (days : Int) : (ofDays days).IsValid := by
  have hfit := fit_yearParts days
  rw [ofDays_eq]
  generalize yearParts days = parts at hfit
  obtain ⟨hleast, hgreatest⟩ := hfit.day
  obtain ⟨hmonth, hmonth', hday⟩ := day_le_monthLength parts.day.toNat (by omega)
  refine ⟨hmonth, hmonth', Nat.succ_pos _, hday.trans ?_⟩
  change _ ≤ monthLength (parts.marchYear + if monthOf (monthFromMarch parts.day.toNat) ≤ 2 then 1
    else 0) (monthOf (monthFromMarch parts.day.toNat))
  generalize monthOf (monthFromMarch parts.day.toNat) = month
  unfold monthLength
  by_cases hfebruary : month = 2
  · subst hfebruary
    rw [if_pos rfl, if_pos rfl, if_pos le_rfl]
    by_cases hlast : parts.day.toNat = 365
    · rw [if_pos hlast, isLeap_of_day hfit (by omega)]
      decide
    · rw [if_neg hlast]
      split <;> decide
  · simp only [if_neg hfebruary]
    exact le_rfl

end

end Date

end TaskDaemon
