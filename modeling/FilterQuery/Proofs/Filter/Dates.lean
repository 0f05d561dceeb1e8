import FilterQuery.Filter.Format
import FilterQuery.Proofs.Text.Decimal
import Mathlib.Tactic.SplitIfs

/-!
# Values that are dates

A value in the format of dates is a year, a year and a month, or a year, a month and a day, in
decimal digits of fixed widths. It is accepted exactly if the first day that it covers is in the
Gregorian calendar. The reason to refuse it tells whether its form is wrong or only its day.
-/

namespace FilterQuery

/-! ## The calendar -/

/-- The days of the Gregorian calendar, extended to all years. -/
structure IsGregorianDay (year month day : Nat) : Prop where
  month_pos : 1 ≤ month
  month_le : month ≤ 12
  day_pos : 1 ≤ day
  day_le : day ≤ 31
  day_le_of_short : month ∈ [4, 6, 9, 11] → day ≤ 30
  day_le_of_february : month = 2 → day ≤ 29
  /-- A year with a 29 February is divisible by 4, and by 400 if by 100. -/
  leap : month = 2 → day = 29 → 4 ∣ year ∧ (100 ∣ year → 400 ∣ year)

/-- `isDay` tells which days exist in years of four digits. -/
def TellsDays (isDay : Nat → Nat → Nat → Bool) : Prop :=
  ∀ year month day, year ≤ 9999 →
    (isDay year month day = true ↔ IsGregorianDay year month day)

variable {year month day : Nat}

theorem isLeapYear_iff :
    isLeapYear year = true ↔ 4 ∣ year ∧ (100 ∣ year → 400 ∣ year) := by
  simp only [isLeapYear, Bool.and_eq_true, Bool.or_eq_true, beq_iff_eq, bne_iff_ne]
  omega

theorem daysInMonth_of_not (hmonth : ¬ (1 ≤ month ∧ month ≤ 12)) :
    daysInMonth year month = 0 := by
  rw [daysInMonth] <;> omega

theorem daysInMonth_of_ne_two (hmonth : 1 ≤ month ∧ month ≤ 12) (hne : month ≠ 2) :
    daysInMonth year month = if month ∈ [4, 6, 9, 11] then 30 else 31 := by
  obtain ⟨hfirst, hlast⟩ := hmonth
  interval_cases month <;> simp_all [daysInMonth]

theorem le_daysInMonth_two :
    day ≤ daysInMonth year 2 ↔ day ≤ 29 ∧ (day = 29 → isLeapYear year = true) := by
  rw [daysInMonth]
  split_ifs with hleap
  · simp [hleap]
  · simp only [hleap, imp_false, Bool.false_eq_true]
    omega

/-- A day is in the calendar if its month has so many days. -/
theorem isGregorianDay_iff :
    IsGregorianDay year month day ↔ 1 ≤ day ∧ day ≤ daysInMonth year month := by
  constructor
  · intro h
    refine ⟨h.day_pos, ?_⟩
    by_cases htwo : month = 2
    · subst htwo
      rw [le_daysInMonth_two, isLeapYear_iff]
      exact ⟨h.day_le_of_february rfl, h.leap rfl⟩
    · rw [daysInMonth_of_ne_two ⟨h.month_pos, h.month_le⟩ htwo]
      split_ifs with hshort
      · exact h.day_le_of_short hshort
      · exact h.day_le
  · rintro ⟨hpos, hle⟩
    have hmonth : 1 ≤ month ∧ month ≤ 12 := by
      by_contra hnot
      rw [daysInMonth_of_not hnot] at hle
      omega
    obtain ⟨hfirst, hlast⟩ := hmonth
    by_cases htwo : month = 2
    · subst htwo
      rw [le_daysInMonth_two, isLeapYear_iff] at hle
      exact ⟨hfirst, hlast, hpos, by omega, by simp, fun _ => hle.1, fun _ => hle.2⟩
    · rw [daysInMonth_of_ne_two ⟨hfirst, hlast⟩ htwo] at hle
      have hshort : month ∈ [4, 6, 9, 11] → day ≤ 30 := fun hmem => by rwa [if_pos hmem] at hle
      refine ⟨hfirst, hlast, hpos, ?_, hshort, fun h => absurd h htwo, fun h => absurd h htwo⟩
      split_ifs at hle <;> omega

theorem tellsDays_isCalendarDay : TellsDays isCalendarDay := by
  intro year month day _
  rw [isCalendarDay, Bool.and_eq_true, decide_eq_true_eq, decide_eq_true_eq, isGregorianDay_iff]

/-! ## Written dates -/

open Text (numeral isDigits decimalValue splitAtChar)

/-- What is in the form of a date: a year, a month of a year, or a day, whether it exists or not. -/
inductive WrittenDate where
  | year (year : Fin 10000)
  | month (year : Fin 10000) (month : Fin 100)
  | day (year : Fin 10000) (month day : Fin 100)
  deriving DecidableEq, Repr

namespace WrittenDate

/-- The date in the form `YYYY`, `YYYY-MM` or `YYYY-MM-DD`. -/
def text : WrittenDate → String
  | .year year => String.ofList (numeral 4 year)
  | .month year month => String.ofList (numeral 4 year ++ '-' :: numeral 2 month)
  | .day year month day =>
    String.ofList (numeral 4 year ++ '-' :: (numeral 2 month ++ '-' :: numeral 2 day))

/-- Whether there is such a year, month or day. -/
def IsReal : WrittenDate → Prop
  | .year _ => True
  | .month _ month => 1 ≤ month.val ∧ month.val ≤ 12
  | .day year month day => IsGregorianDay year month day

/-- Year, month and day of the first day that the date covers. -/
def firstDay : WrittenDate → Nat × Nat × Nat
  | .year year => (year, 1, 1)
  | .month year month => (year, month, 1)
  | .day year month day => (year, month, day)

theorem firstDay_year_le (date : WrittenDate) : date.firstDay.1 ≤ 9999 := by
  cases date <;> exact Nat.le_of_lt_succ (Fin.isLt _)

/-- The first day of every month exists. -/
theorem isReal_iff (date : WrittenDate) :
    date.IsReal ↔ IsGregorianDay date.firstDay.1 date.firstDay.2.1 date.firstDay.2.2 := by
  have hfirst {year month : Nat} : IsGregorianDay year month 1 ↔ 1 ≤ month ∧ month ≤ 12 := by
    constructor
    · intro h
      exact ⟨h.month_pos, h.month_le⟩
    · rintro ⟨hpos, hle⟩
      exact ⟨hpos, hle, by decide, by decide, fun _ => by decide, fun _ => by decide, by simp⟩
  cases date with
  | year year => exact iff_of_true trivial (hfirst.2 ⟨le_refl 1, Nat.le_add_left 1 11⟩)
  | month year month => exact hfirst.symm
  | day year month day => exact Iff.rfl

theorem hyphen_not_mem_numeral (width n : Nat) : '-' ∉ numeral width n := by
  intro hmem
  exact absurd (Text.isDigit_of_mem_numeral hmem) (by decide)

theorem isDigits_numeral {width n : Nat} (hwidth : 0 < width) (hn : n < 10 ^ width) :
    isDigits width (numeral width n) = true :=
  (Text.isDigits_iff hwidth).2 ⟨n, hn, rfl⟩

theorem dateParts?_text (date : WrittenDate) :
    ValueFormat.dateParts? date.text = some date.firstDay := by
  have hyear (year : Fin 10000) : isDigits 4 (numeral 4 year) = true :=
    isDigits_numeral (by decide) year.isLt
  have hpair (part : Fin 100) : isDigits 2 (numeral 2 part) = true :=
    isDigits_numeral (by decide) part.isLt
  have hcut (width n : Nat) (rest : List Char) :
      splitAtChar '-' (numeral width n ++ '-' :: rest) = numeral width n :: splitAtChar '-' rest :=
    Text.splitAtChar_append_cons (hyphen_not_mem_numeral width n) rest
  have hlast (width n : Nat) : splitAtChar '-' (numeral width n) = [numeral width n] :=
    Text.splitAtChar_of_not_mem (hyphen_not_mem_numeral width n)
  cases date <;>
    simp [ValueFormat.dateParts?, text, firstDay, hcut, hlast, hyear, hpair,
      Text.decimalValue_numeral]

theorem exists_text_of_dateParts? {value : String} {parts : Nat × Nat × Nat}
    (hparts : ValueFormat.dateParts? value = some parts) :
    ∃ date : WrittenDate, date.text = value := by
  have hjoined : value = String.ofList (['-'].intercalate (splitAtChar '-' value.toList)) := by
    rw [Text.intercalate_splitAtChar, String.ofList_toList]
  have hyear {digits : List Char} (hdigits : isDigits 4 digits = true) :
      ∃ year : Fin 10000, numeral 4 year = digits := by
    obtain ⟨n, hn, rfl⟩ := (Text.isDigits_iff (by decide)).1 hdigits
    exact ⟨⟨n, hn⟩, rfl⟩
  have hpair {digits : List Char} (hdigits : isDigits 2 digits = true) :
      ∃ part : Fin 100, numeral 2 part = digits := by
    obtain ⟨n, hn, rfl⟩ := (Text.isDigits_iff (by decide)).1 hdigits
    exact ⟨⟨n, hn⟩, rfl⟩
  rw [ValueFormat.dateParts?] at hparts
  split at hparts
  · next hcut =>
    split_ifs at hparts with hdigits
    obtain ⟨year, rfl⟩ := hyear hdigits
    refine ⟨.year year, ?_⟩
    rw [hjoined, hcut]
    simp [text, List.intercalate]
  · next hcut =>
    split_ifs at hparts with hdigits
    rw [Bool.and_eq_true] at hdigits
    obtain ⟨year, rfl⟩ := hyear hdigits.1
    obtain ⟨month, rfl⟩ := hpair hdigits.2
    refine ⟨.month year month, ?_⟩
    rw [hjoined, hcut]
    simp [text, List.intercalate]
  · next hcut =>
    split_ifs at hparts with hdigits
    simp only [Bool.and_eq_true] at hdigits
    obtain ⟨year, rfl⟩ := hyear hdigits.1.1
    obtain ⟨month, rfl⟩ := hpair hdigits.1.2
    obtain ⟨day, rfl⟩ := hpair hdigits.2
    refine ⟨.day year month day, ?_⟩
    rw [hjoined, hcut]
    simp [text, List.intercalate]
  · cases hparts

end WrittenDate

/-! ## Refusals -/

namespace ValueFormat

variable {isDay : Nat → Nat → Nat → Bool} {value : String}

theorem calendarReason_ne_dateShapeReason (value : String) :
    calendarReason value ≠ dateShapeReason := by
  intro heq
  have hlast := congrArg (fun reason => reason.toList.getLast?) heq
  simp [calendarReason, dateShapeReason] at hlast

theorem refusalBy?_text (hdays : TellsDays isDay) (date : WrittenDate) :
    (date.IsReal ∧ refusalBy? isDay .date date.text = none) ∨
      (¬ date.IsReal ∧ refusalBy? isDay .date date.text = some (calendarReason date.text)) := by
  have hreal := hdays _ date.firstDay.2.1 date.firstDay.2.2 date.firstDay_year_le
  rw [← date.isReal_iff] at hreal
  have hrefusal : refusalBy? isDay .date date.text =
      if isDay date.firstDay.1 date.firstDay.2.1 date.firstDay.2.2 then none
      else some (calendarReason date.text) := by
    rw [refusalBy?, date.dateParts?_text]
  by_cases h : date.IsReal
  · exact .inl ⟨h, by rw [hrefusal, if_pos (hreal.2 h)]⟩
  · exact .inr ⟨h, by rw [hrefusal, if_neg (mt hreal.1 h)]⟩

theorem refusalBy?_of_not_text (hvalue : ¬ ∃ date : WrittenDate, date.text = value) :
    refusalBy? isDay .date value = some dateShapeReason := by
  cases hparts : dateParts? value with
  | none => rw [refusalBy?, hparts]
  | some parts => exact absurd (WrittenDate.exists_text_of_dateParts? hparts) hvalue

theorem refusalBy?_date_eq_none_iff (hdays : TellsDays isDay) :
    refusalBy? isDay .date value = none ↔
      ∃ date : WrittenDate, date.text = value ∧ date.IsReal := by
  constructor
  · intro hnone
    by_cases hvalue : ∃ date : WrittenDate, date.text = value
    · obtain ⟨date, rfl⟩ := hvalue
      rcases refusalBy?_text hdays date with ⟨hreal, _⟩ | ⟨_, hrefusal⟩
      · exact ⟨date, rfl, hreal⟩
      · simp [hnone] at hrefusal
    · simp [refusalBy?_of_not_text hvalue] at hnone
  · rintro ⟨date, rfl, hreal⟩
    rcases refusalBy?_text hdays date with ⟨_, hnone⟩ | ⟨hnot, _⟩
    · exact hnone
    · exact absurd hreal hnot

/-- Where the calendar is known, the values accepted as dates are those that name a year, a month or
a day that there is. Of the others, those in the form of a date are refused for the calendar and the
rest for their form. -/
theorem dates_accepted_iff_real (hdays : TellsDays isDay) (value : String) :
    (refusalBy? isDay .date value = none ↔
        ∃ date : WrittenDate, date.text = value ∧ date.IsReal) ∧
      ∀ reason, refusalBy? isDay .date value = some reason →
        (reason = calendarReason value ↔ ∃ date : WrittenDate, date.text = value) ∧
          (reason = dateShapeReason ↔ ¬ ∃ date : WrittenDate, date.text = value) := by
  refine ⟨refusalBy?_date_eq_none_iff hdays, fun reason hreason => ?_⟩
  -- The form decides which of the two reasons it is, and they are never the same text.
  have hne := calendarReason_ne_dateShapeReason value
  by_cases hvalue : ∃ date : WrittenDate, date.text = value
  · have hcalendar : reason = calendarReason value := by
      obtain ⟨date, rfl⟩ := hvalue
      rcases refusalBy?_text hdays date with ⟨_, hnone⟩ | ⟨_, hrefusal⟩
      · simp [hnone] at hreason
      · exact Option.some.inj (hreason.symm.trans hrefusal)
    exact ⟨iff_of_true hcalendar hvalue,
      iff_of_false (hcalendar ▸ hne) (not_not_intro hvalue)⟩
  · have hshape : reason = dateShapeReason :=
      Option.some.inj (hreason.symm.trans (refusalBy?_of_not_text hvalue))
    exact ⟨iff_of_false (hshape ▸ hne.symm) hvalue, iff_of_true hshape hvalue⟩

/-- The year 1900 has no 29 February. -/
theorem dates_accepted_iff_real_century :
    let value := "1900-02-29"
    TellsDays isCalendarDay ∧ refusal? .date value = some (calendarReason value) ∧
      (refusal? .date value = none ↔ ∃ date : WrittenDate, date.text = value ∧ date.IsReal) ∧
        ∀ reason, refusal? .date value = some reason →
          (reason = calendarReason value ↔ ∃ date : WrittenDate, date.text = value) ∧
            (reason = dateShapeReason ↔ ¬ ∃ date : WrittenDate, date.text = value) := by
  intro value
  have hrefusal : refusal? .date value = some (calendarReason value) := by decide +kernel
  exact ⟨tellsDays_isCalendarDay, hrefusal, dates_accepted_iff_real tellsDays_isCalendarDay value⟩

end ValueFormat

end FilterQuery
