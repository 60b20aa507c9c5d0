/-
The proleptic Gregorian calendar.

A date is a day of a month that has that day (`Date`), and its number counts the days from
1 January of the year 1 on. Two things make the number useful: the next date has the next number
(`day_number_next`), and earlier dates have smaller numbers (`day_number_lt_iff`). With the time
of day, the same holds of seconds (`DateTime`). Timestamps count these from the beginning of the
year 1970.
-/
import Mathlib.Algebra.BigOperators.Intervals
import Mathlib.Algebra.Order.BigOperators.Group.Finset
import Mathlib.Order.Interval.Finset.Nat
import RenecLedger.Lib.Numeral

set_option autoImplicit false

namespace GregorianLib

/-! ## Months and years -/

/-- Every fourth year, but of those that end a century only every fourth. -/
def LeapYear (year : ℕ) : Prop := 4 ∣ year ∧ (100 ∣ year → 400 ∣ year)

instance (year : ℕ) : Decidable (LeapYear year) := inferInstanceAs (Decidable (_ ∧ _))

def days_in_month (year month : ℕ) : ℕ :=
  if month = 2 then if LeapYear year then 29 else 28
  else if month ∈ [4, 6, 9, 11] then 30
  else 31

/-- The days of a year before a month of it. -/
def days_before_month (year month : ℕ) : ℕ := ∑ m ∈ Finset.Ico 1 month, days_in_month year m

def days_in_year (year : ℕ) : ℕ := days_before_month year 13

/-- The days from the beginning of the year 1 on. -/
def days_before_year (year : ℕ) : ℕ := ∑ y ∈ Finset.Ico 1 year, days_in_year y

theorem days_in_month_pos (year month : ℕ) : 1 ≤ days_in_month year month := by
  rw [days_in_month]
  split_ifs <;> decide

theorem days_in_month_le (year month : ℕ) : days_in_month year month ≤ 31 := by
  rw [days_in_month]
  split_ifs <;> decide

theorem days_before_month_succ (year : ℕ) {month : ℕ} (h : 1 ≤ month) :
    days_before_month year (month + 1) =
      days_before_month year month + days_in_month year month :=
  Finset.sum_Ico_succ_top h _

theorem days_before_year_succ {year : ℕ} (h : 1 ≤ year) :
    days_before_year (year + 1) = days_before_year year + days_in_year year :=
  Finset.sum_Ico_succ_top h _

theorem days_before_month_mono (year : ℕ) : Monotone (days_before_month year) :=
  fun _ _ h => Finset.sum_le_sum_of_subset (Finset.Ico_subset_Ico_right h)

theorem days_before_year_mono : Monotone days_before_year :=
  fun _ _ h => Finset.sum_le_sum_of_subset (Finset.Ico_subset_Ico_right h)

/-- There are two years: one with a leap day, and one without. -/
theorem days_in_month_eq (year : ℕ) :
    days_in_month year = days_in_month (if LeapYear year then 4 else 1) := by
  have hfour : LeapYear 4 := by decide
  have hone : ¬LeapYear 1 := by decide
  funext month
  by_cases hleap : LeapYear year
  · rw [if_pos hleap, days_in_month, days_in_month, if_pos hleap, if_pos hfour]
  · rw [if_neg hleap, days_in_month, days_in_month, if_neg hleap, if_neg hone]

/-- The months of a year that is no leap year, and a day more from March on in one that is. -/
theorem days_before_month_eq (year : ℕ) {month : ℕ} (hpos : 1 ≤ month) (hle : month ≤ 13) :
    days_before_month year month =
      [0, 0, 31, 59, 90, 120, 151, 181, 212, 243, 273, 304, 334, 365].getD month 0 +
        if 2 < month ∧ LeapYear year then 1 else 0 := by
  have hall : ∀ month ≤ 13, 1 ≤ month →
      days_before_month 1 month =
          [0, 0, 31, 59, 90, 120, 151, 181, 212, 243, 273, 304, 334, 365].getD month 0 ∧
        days_before_month 4 month = days_before_month 1 month + if 2 < month then 1 else 0 := by
    decide +kernel
  obtain ⟨hcommon, hleap_day⟩ := hall month hle hpos
  have heq : days_before_month year month =
      days_before_month (if LeapYear year then 4 else 1) month := by
    rw [days_before_month, days_in_month_eq]
    rfl
  rw [heq, ← hcommon]
  by_cases hleap : LeapYear year
  · simp only [hleap, and_true, if_true, hleap_day]
  · simp only [hleap, and_false, if_false, Nat.add_zero]

theorem days_in_year_eq (year : ℕ) :
    days_in_year year = 365 + if LeapYear year then 1 else 0 := by
  rw [days_in_year, days_before_month_eq year (by decide) (by decide)]
  simp

/-- One leap day in four years, less one in a century, and one in four centuries again. -/
theorem days_before_year_eq (n : ℕ) :
    days_before_year (n + 1) + n / 100 = 365 * n + n / 4 + n / 400 := by
  induction n with
  | zero => decide
  | succ n ih =>
    rw [days_before_year_succ (Nat.le_add_left 1 n), days_in_year_eq]
    by_cases hleap : LeapYear (n + 1)
    · rw [if_pos hleap]
      obtain ⟨hfour, hcentury⟩ := hleap
      omega
    · rw [if_neg hleap]
      rw [LeapYear, not_and] at hleap
      omega

/-! ## Dates -/

/-- A day that the calendar has. -/
structure Date where
  year : ℕ
  month : ℕ
  day : ℕ
  year_pos : 1 ≤ year
  month_pos : 1 ≤ month
  month_le : month ≤ 12
  day_pos : 1 ≤ day
  day_le : day ≤ days_in_month year month
deriving DecidableEq

namespace Date

/-- The number of a date, which is 1 for the first day of the year 1. -/
def day_number (date : Date) : ℕ :=
  days_before_year date.year + days_before_month date.year date.month + date.day

theorem day_number_eq_of_year (date : Date) {n : ℕ} (h : date.year = n + 1) :
    date.day_number + n / 100 =
      365 * n + n / 4 + n / 400 + days_before_month date.year date.month + date.day := by
  have hyears := days_before_year_eq n
  rw [← h] at hyears
  rw [day_number]
  omega

/-- The day after. -/
def next (date : Date) : Date :=
  if h : date.day < days_in_month date.year date.month then
    { date with day := date.day + 1, day_pos := Nat.succ_pos _, day_le := h }
  else if h : date.month < 12 then
    { date with month := date.month + 1, day := 1, month_pos := Nat.succ_pos _, month_le := h
                day_pos := Nat.le_refl 1, day_le := days_in_month_pos _ _ }
  else
    { year := date.year + 1, month := 1, day := 1, year_pos := Nat.succ_pos _
      month_pos := Nat.le_refl 1, month_le := by decide
      day_pos := Nat.le_refl 1, day_le := days_in_month_pos _ _ }

/-- **The next date has the next number.** -/
theorem day_number_next (date : Date) : date.next.day_number = date.day_number + 1 := by
  have hlast := date.day_le
  rw [next]
  split_ifs with hday hmonth
  · rfl
  · have hmonths := days_before_month_succ date.year date.month_pos
    simp only [day_number]
    omega
  · have hdecember : date.month = 12 := by
      have hle := date.month_le
      omega
    have hmonths := days_before_month_succ date.year date.month_pos
    have hyears := days_before_year_succ date.year_pos
    have hjanuary : days_before_month (date.year + 1) 1 = 0 := rfl
    rw [hdecember] at hmonths hday hlast
    change days_in_year date.year = _ at hmonths
    simp only [day_number, hdecember]
    omega

/-- Every number is one of a date. -/
theorem exists_day_number (n : ℕ) : ∃ date : Date, date.day_number = n + 1 := by
  induction n with
  | zero =>
    exact ⟨⟨1, 1, 1, by decide, by decide, by decide, by decide, by decide⟩, by decide⟩
  | succ n ih =>
    obtain ⟨date, hnumber⟩ := ih
    exact ⟨date.next, by rw [day_number_next, hnumber]⟩

/-- Year, month and day, in the order in which they are compared. -/
def fields (date : Date) : List ℕ := [date.year, date.month, date.day]

theorem fields_lt_iff {d e : Date} : d.fields < e.fields ↔
    d.year < e.year ∨ d.year = e.year ∧
      (d.month < e.month ∨ d.month = e.month ∧ d.day < e.day) := by
  simp [fields, List.cons_lt_cons_iff]

theorem day_number_pos (date : Date) : 1 ≤ date.day_number :=
  Nat.le_trans date.day_pos (Nat.le_add_left _ _)

/-- A date is in its month. -/
theorem day_number_le_month (date : Date) : date.day_number ≤
    days_before_year date.year + days_before_month date.year (date.month + 1) := by
  have hday := date.day_le
  rw [day_number, days_before_month_succ date.year date.month_pos]
  omega

/-- A date is in its year. -/
theorem day_number_le_year (date : Date) :
    date.day_number ≤ days_before_year (date.year + 1) := by
  have hmonth : date.month + 1 ≤ 13 := Nat.succ_le_succ date.month_le
  calc date.day_number
      ≤ days_before_year date.year + days_before_month date.year (date.month + 1) :=
        date.day_number_le_month
    _ ≤ days_before_year date.year + days_in_year date.year :=
        Nat.add_le_add_left (days_before_month_mono date.year hmonth) _
    _ = days_before_year (date.year + 1) := (days_before_year_succ date.year_pos).symm

/-- A date is behind all days before its month. -/
theorem lt_day_number (date : Date) :
    days_before_year date.year + days_before_month date.year date.month < date.day_number :=
  Nat.lt_add_of_pos_right date.day_pos

theorem day_number_lt {d e : Date} (h : d.fields < e.fields) : d.day_number < e.day_number := by
  rcases fields_lt_iff.mp h with hyear | ⟨hyear, hmonth | ⟨hmonth, hday⟩⟩
  · calc d.day_number ≤ days_before_year (d.year + 1) := d.day_number_le_year
      _ ≤ days_before_year e.year := days_before_year_mono hyear
      _ ≤ days_before_year e.year + days_before_month e.year e.month := Nat.le_add_right _ _
      _ < e.day_number := e.lt_day_number
  · calc d.day_number
        ≤ days_before_year d.year + days_before_month d.year (d.month + 1) :=
          d.day_number_le_month
      _ ≤ days_before_year d.year + days_before_month d.year e.month :=
          Nat.add_le_add_left (days_before_month_mono d.year hmonth) _
      _ < e.day_number := by
        rw [hyear]
        exact e.lt_day_number
  · rw [day_number, day_number, hyear, hmonth]
    exact Nat.add_lt_add_left hday _

/-- **Numbers are in the order of the dates.** -/
theorem day_number_lt_iff {d e : Date} : d.day_number < e.day_number ↔ d.fields < e.fields := by
  refine ⟨fun h => ?_, day_number_lt⟩
  rcases lt_trichotomy d.fields e.fields with hlt | heq | hgt
  · exact hlt
  · obtain ⟨hyear, hmonth, hday⟩ : d.year = e.year ∧ d.month = e.month ∧ d.day = e.day := by
      simpa [fields] using heq
    rw [day_number, day_number, hyear, hmonth, hday] at h
    exact absurd h (Nat.lt_irrefl _)
  · exact absurd (day_number_lt hgt) (Nat.lt_asymm h)

theorem day_number_eq {d e : Date} (h : d.day_number = e.day_number) : d.fields = e.fields := by
  rcases lt_trichotomy d.fields e.fields with hlt | heq | hgt
  · exact absurd h (Nat.ne_of_lt (day_number_lt hlt))
  · exact heq
  · exact absurd h.symm (Nat.ne_of_lt (day_number_lt hgt))

end Date

/-! ## Dates with a time of day -/

/-- A second that the calendar has. -/
structure DateTime where
  date : Date
  hour : ℕ
  minute : ℕ
  second : ℕ
  hour_lt : hour < 24
  minute_lt : minute < 60
  second_lt : second < 60
deriving DecidableEq

namespace DateTime

def second_of_day (t : DateTime) : ℕ := 3600 * t.hour + 60 * t.minute + t.second

theorem second_of_day_lt (t : DateTime) : t.second_of_day < 86400 := by
  have hhour := t.hour_lt
  have hminute := t.minute_lt
  have hsecond := t.second_lt
  rw [second_of_day]
  omega

/-- The number of a second. -/
def seconds (t : DateTime) : ℕ := 86400 * t.date.day_number + t.second_of_day

/-- Every second of a day is one of a time. -/
theorem exists_seconds {n : ℕ} (h : 86400 ≤ n) : ∃ t : DateTime, t.seconds = n := by
  obtain ⟨date, hdate⟩ := Date.exists_day_number (n / 86400 - 1)
  refine ⟨⟨date, n % 86400 / 3600, n / 60 % 60, n % 60, by omega, by omega, by omega⟩, ?_⟩
  simp only [seconds, second_of_day, hdate]
  omega

/-- The date, then the time of day. -/
def fields (t : DateTime) : List ℕ := t.date.fields ++ [t.hour, t.minute, t.second]

/-- **A later second has a later date, or a later time on the same date.** -/
theorem fields_lt {t u : DateTime} (h : t.seconds < u.seconds) : t.fields < u.fields := by
  have ht := t.second_of_day_lt
  have hu := u.second_of_day_lt
  refine NumeralLib.append_lt_append rfl ?_
  rw [seconds, seconds] at h
  rcases Nat.lt_or_eq_of_le (by omega : t.date.day_number ≤ u.date.day_number) with hlt | heq
  · exact Or.inl (Date.day_number_lt_iff.mp hlt)
  · refine Or.inr ⟨Date.day_number_eq heq, ?_⟩
    have htime : t.second_of_day < u.second_of_day := by omega
    have htminute := t.minute_lt
    have htsecond := t.second_lt
    have huminute := u.minute_lt
    have husecond := u.second_lt
    rw [second_of_day, second_of_day] at htime
    simp only [List.cons_lt_cons_iff, List.not_lt_nil, and_false, or_false]
    omega

/-- The beginning of a date. -/
def midnight (date : Date) : DateTime := ⟨date, 0, 0, 0, by decide, by decide, by decide⟩

/-- 1970-01-01 00:00:00. -/
def unix_epoch : DateTime :=
  midnight ⟨1970, 1, 1, by decide, by decide, by decide, by decide, by decide⟩

/-- The seconds since, or before, the beginning of the year 1970. -/
def unix_time (t : DateTime) : ℤ := t.seconds - unix_epoch.seconds

/-- 0001-01-01 00:00:00. -/
def first : DateTime :=
  midnight ⟨1, 1, 1, by decide, by decide, by decide, by decide, by decide⟩

/-- 9999-12-31 23:59:59. -/
def last : DateTime :=
  ⟨⟨9999, 12, 31, by decide, by decide, by decide, by decide, by decide⟩, 23, 59, 59,
    by decide, by decide, by decide⟩

theorem unix_epoch_seconds : unix_epoch.seconds = 62135683200 := by
  have hday := unix_epoch.date.day_number_eq_of_year (n := 1969) rfl
  have hmonths : days_before_month unix_epoch.date.year unix_epoch.date.month = 0 := rfl
  have hfirst : unix_epoch.date.day = 1 := rfl
  have htime : unix_epoch.second_of_day = 0 := rfl
  rw [seconds]
  omega

theorem first_unix_time : first.unix_time = -62135596800 := by
  have hseconds : first.seconds = 86400 := by decide
  rw [unix_time, unix_epoch_seconds, hseconds]
  omega

theorem last_unix_time : last.unix_time = 253402300799 := by
  have hday := last.date.day_number_eq_of_year (n := 9998) rfl
  have hmonths : days_before_month last.date.year last.date.month = 334 := by decide +kernel
  have hlast : last.date.day = 31 := rfl
  have htime : last.second_of_day = 86399 := rfl
  rw [unix_time, unix_epoch_seconds, seconds]
  omega

/-- Every second from the first one on is one of a time. -/
theorem exists_unix_time {n : ℤ} (h : first.unix_time ≤ n) :
    ∃ t : DateTime, t.unix_time = n := by
  rw [first_unix_time] at h
  obtain ⟨t, ht⟩ := exists_seconds (by omega : 86400 ≤ (n + 62135683200).toNat)
  refine ⟨t, ?_⟩
  rw [unix_time, unix_epoch_seconds, ht]
  omega

/-- What is not behind the year 9999 is of one of its years. -/
theorem year_le {t : DateTime} (h : t.unix_time ≤ last.unix_time) : t.date.year ≤ 9999 := by
  by_contra hyear
  have hlt : last.date.fields < t.date.fields :=
    Date.fields_lt_iff.mpr (Or.inl (Nat.lt_of_not_le hyear))
  have hday := Date.day_number_lt hlt
  have hlast := last.second_of_day_lt
  have hseconds : t.seconds ≤ last.seconds := by
    rw [unix_time, unix_time] at h
    omega
  rw [seconds, seconds.eq_def last] at hseconds
  omega

/-- No second is before the first one. -/
theorem first_le (t : DateTime) : first.unix_time ≤ t.unix_time := by
  have hpos := t.date.day_number_pos
  rw [first_unix_time, unix_time, unix_epoch_seconds, seconds]
  omega

/-- Every second of the years up to 9999 is at most the last one. -/
theorem le_last {t : DateTime} (h : t.date.year ≤ 9999) : t.unix_time ≤ last.unix_time := by
  have hday := t.date.day_number_le_year.trans (days_before_year_mono (Nat.succ_le_succ h))
  have hyears := days_before_year_eq 9999
  have htime := t.second_of_day_lt
  rw [last_unix_time, unix_time, unix_epoch_seconds, seconds]
  generalize days_before_year (9999 + 1) = n at hyears hday
  omega

end DateTime

end GregorianLib
