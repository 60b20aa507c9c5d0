/-
A timestamp in the calendar is printed exactly.

`rdn_to_ymd` undoes the count of days with two divisions, by the mean length of a century and by
that of a year, both in hundredths of a day. They are right because the years begin in March: a
leap day is the last day of its year, so a quotient is only due to change where it does. With the
count itself stated by the leap rules (`Date.day_number`), the result is the date that has this
number (`rdn_to_ymd_date`), and the text is its fields (`print_timestamp_exact`).
-/
import RenecLedger.Lib.Gregorian
import RenecLedger.Calendar
import RenecLedger.TextSpec

set_option autoImplicit false

open NumeralLib GregorianLib

namespace RenecLedger

/-! ## The day number of a date -/

/-- The year that begins in March. -/
def march_year (date : Date) : ℕ := date.year - if date.month ≤ 2 then 1 else 0

/-- The day of that year. -/
def march_day (date : Date) : ℕ := (DayOffset.getD date.month 0).toNat + date.day

/-- The table, by the days before each month. -/
theorem day_offset_eq (date : Date) :
    (DayOffset.getD date.month 0).toNat + (if 2 < date.month ∧ LeapYear date.year then 1 else 0) +
        (if 2 < date.month then 59 else 0) =
      days_before_month date.year date.month + if date.month ≤ 2 then 306 else 0 := by
  have hpos := date.month_pos
  have hle := date.month_le
  rw [days_before_month_eq date.year hpos (by omega)]
  generalize date.month = month at hpos hle ⊢
  have hall : ∀ month ≤ 12, 1 ≤ month →
      (DayOffset.getD month 0).toNat + (if 2 < month then 59 else 0) =
        [0, 0, 31, 59, 90, 120, 151, 181, 212, 243, 273, 304, 334, 365].getD month 0 +
          if month ≤ 2 then 306 else 0 := by
    decide
  have htable := hall month hle hpos
  omega

/-- The number of a date, by the year that begins in March. -/
theorem day_number_march (date : Date) :
    date.day_number + 306 + march_year date / 100 =
      365 * march_year date + march_year date / 4 + march_year date / 400 + march_day date := by
  obtain ⟨n, hn⟩ : ∃ n, date.year = n + 1 := ⟨date.year - 1, by have := date.year_pos; omega⟩
  have hyears := days_before_year_eq n
  have htable := day_offset_eq date
  rw [Date.day_number, march_year, march_day]
  rw [hn] at htable ⊢
  by_cases hmonth : date.month ≤ 2
  · rw [if_neg (by omega), if_neg (by omega), if_pos hmonth] at htable
    rw [if_pos hmonth]
    omega
  · have hlate : 2 < date.month := Nat.lt_of_not_le hmonth
    rw [if_pos hlate, if_neg hmonth] at htable
    rw [if_neg hmonth, Nat.sub_zero]
    by_cases hleap : LeapYear (n + 1)
    · rw [if_pos ⟨hlate, hleap⟩] at htable
      obtain ⟨hfour, hcentury⟩ := hleap
      omega
    · rw [if_neg fun h => hleap h.2] at htable
      by_cases hfour : 4 ∣ n + 1
      · -- the last year of a century, but not of four of them
        obtain ⟨hcentury, hnot⟩ := Classical.not_imp.mp fun h => hleap ⟨hfour, h⟩
        omega
      · omega

/-- The months of the two kinds of years: the day of the year is 366 only on a leap day, and it
determines the month. -/
theorem march_table : ∀ year ∈ [1, 4], ∀ month ≤ 12, 1 ≤ month →
    ∀ day ≤ days_in_month year month, 1 ≤ day →
      let D := (DayOffset.getD month 0).toNat + day
      1 ≤ D ∧ D ≤ 366 ∧ (D = 366 → month = 2 ∧ LeapYear year) ∧
        month_of_day D = if month ≤ 2 then month + 12 else month := by
  decide +kernel

theorem march_day_spec (date : Date) :
    1 ≤ march_day date ∧ march_day date ≤ 366 ∧
      (march_day date = 366 → LeapYear (march_year date + 1)) ∧
      month_of_day (march_day date) =
        if date.month ≤ 2 then date.month + 12 else date.month := by
  have hdays := date.day_le
  rw [days_in_month_eq] at hdays
  have hkind : (if LeapYear date.year then 4 else 1) ∈ [1, 4] := by
    split_ifs <;> decide
  obtain ⟨hfirst, hlast, hleap, hmonth⟩ :=
    march_table _ hkind date.month date.month_le date.month_pos date.day hdays date.day_pos
  refine ⟨hfirst, hlast, fun hend => ?_, hmonth⟩
  obtain ⟨hfebruary, hfour⟩ := hleap hend
  have hyear := date.year_pos
  rw [march_year, if_pos (by omega), Nat.sub_add_cancel hyear]
  by_contra hno
  rw [if_neg hno] at hfour
  exact absurd hfour (by decide)

/-! ## From the number to the date -/

section Divisions

variable {Y D : ℕ} (hpos : 1 ≤ D) (hle : D ≤ 366) (hleap : D = 366 → LeapYear (Y + 1))

include hpos hle hleap in
/-- **The century** is the quotient of the days by its mean length: only a leap day in the last
year of a century is behind what this allows, if not for the leap day of four centuries. -/
theorem julian_shift_march {Z : ℕ} (hyear : Y ≤ 9999)
    (hZ : Z + Y / 100 = 365 * Y + Y / 4 + Y / 400 + D) :
    julian_shift Z = Y / 100 - Y / 400 := by
  -- `Y` is year `4 * q + r` of century `4 * c + t`
  obtain ⟨c, t, q, r, hY, ht, hr, hq⟩ : ∃ c t q r,
      Y = 100 * (4 * c + t) + (4 * q + r) ∧ t < 4 ∧ r < 4 ∧ q < 25 :=
    ⟨Y / 400, Y / 100 % 4, Y % 100 / 4, Y % 4, by omega⟩
  have hcentury : Y / 100 = 4 * c + t := by omega
  have hfour : Y / 4 = 25 * (4 * c + t) + q := by omega
  have hfour_hundred : Y / 400 = c := by omega
  rw [hcentury, hfour, hfour_hundred] at hZ
  have hlast : D = 366 → r = 3 ∧ (q = 24 → t = 3) := by
    intro h
    obtain ⟨hdvd, hdvd'⟩ := hleap h
    refine ⟨by omega, fun hend => ?_⟩
    have hcenturies := hdvd' (by omega)
    omega
  have hfirst : 1 ≤ Z := by omega
  have hword : (100 * Z + (2 ^ 32 - 25)) % 2 ^ 32 = 100 * Z - 25 := by omega
  have hquotient : (100 * Z - 25) / 3652425 = 4 * c + t := by
    refine Nat.div_eq_of_lt_le ?_ ?_
    · omega
    · omega
  rw [julian_shift, hword, hquotient, hcentury, hfour_hundred]
  omega

include hpos hle hleap in
/-- **The year** is the quotient of the days by its mean length, when every fourth year has a
leap day, and what is left is the day. -/
theorem julian_year_march (hyear : Y ≤ 9999) :
    julian_year (365 * Y + Y / 4 + D) = Y ∧ day_of_year (365 * Y + Y / 4 + D) = D := by
  have hyears : 1461 * Y / 4 = 365 * Y + Y / 4 := by omega
  have hlast : D = 366 → (Y + 1) % 4 = 0 := fun h => Nat.mod_eq_zero_of_dvd (hleap h).1
  have hquotient : julian_year (365 * Y + Y / 4 + D) = Y := by
    have hword : (100 * (365 * Y + Y / 4 + D) + (2 ^ 32 - 25)) % 2 ^ 32 =
        100 * (365 * Y + Y / 4 + D) - 25 := by
      omega
    rw [julian_year, hword]
    omega
  refine ⟨hquotient, ?_⟩
  rw [day_of_year, hquotient, hyears]
  omega

end Divisions

/-- **The day number of a date gives the date.** -/
theorem rdn_to_ymd_date {date : Date} (h : date.year ≤ 9999) {rdn : UInt32}
    (hrdn : rdn.toNat = date.day_number) :
    rdn_to_ymd rdn = some (date.year, date.month, date.day) := by
  obtain ⟨hpos, hle, hleap, hmonth⟩ := march_day_spec date
  have hnumber := day_number_march date
  have hyear : march_year date ≤ 9999 := (Nat.sub_le _ _).trans h
  have hsmall : rdn.toNat + 306 < 2 ^ 32 := by omega
  have hday : julian_day rdn.toNat =
      365 * march_year date + march_year date / 4 + march_day date := by
    rw [julian_day, Nat.mod_eq_of_lt hsmall, hrdn,
      julian_shift_march hpos hle hleap hyear hnumber]
    omega
  obtain ⟨hy, hd⟩ := julian_year_march hpos hle hleap hyear
  have hdays := days_in_month_le date.year date.month
  refine rdn_to_ymd_eq h date.month_pos date.month_le (date.day_le.trans hdays) ?_ ?_ ?_
  · rw [hday, hy, march_year]
    have hyear := date.year_pos
    split_ifs <;> omega
  · rw [hday, hd, march_day]
  · rw [hday, hd, hmonth]

/-! ## The text -/

/-- `YYYY-MM-DD hh:mm:ss`. -/
def timestamp_text (t : DateTime) : List UInt8 :=
  field digit 10 4 t.date.year ++ [char '-'] ++ field digit 10 2 t.date.month ++ [char '-'] ++
    field digit 10 2 t.date.day ++ [char ' '] ++ field digit 10 2 t.hour ++ [char ':'] ++
    field digit 10 2 t.minute ++ [char ':'] ++ field digit 10 2 t.second

/-- Only the last digit of a number is written. -/
theorem digit_congr {m n : ℕ} (h : m % 10 = n % 10) : digit m = digit n := by
  rw [digit, digit, h]

theorem field_two {n : ℕ} (h : n < 100) : field digit 10 2 n = [digit (n / 10), digit n] := by
  have hnone : field digit 10 0 (n / 10 / 10) = [] :=
    List.eq_nil_of_length_eq_zero (field_length (by decide) (by omega))
  rw [field_succ (by decide), field_succ (by decide), hnone, digit_mod, digit_mod]
  rfl

theorem field_four {n : ℕ} (h : n < 10000) :
    field digit 10 4 n = [digit (n / 1000), digit (n / 100), digit (n / 10), digit n] := by
  have hhundreds : n / 10 / 10 = n / 100 := by omega
  have hthousands : n / 100 / 10 = n / 1000 := by omega
  rw [field_succ (by decide), field_succ (by decide), field_two (by omega), hhundreds, hthousands,
    digit_mod, digit_mod]
  rfl

/-- What `rfc3339_format` writes. -/
theorem rfc3339_text_eq {t : DateTime} (h : t.date.year ≤ 9999) :
    rfc3339_text t.date.year t.date.month t.date.day t.second_of_day = timestamp_text t ++ [0] := by
  have hmonth := t.date.month_le
  have hdays : days_in_month t.date.year t.date.month ≤ 31 := days_in_month_le _ _
  have hday := t.date.day_le
  have hhour := t.hour_lt
  have hminute := t.minute_lt
  have hsecond := t.second_lt
  rw [timestamp_text, field_four (by omega), field_two (by omega), field_two (by omega),
    field_two (by omega), field_two (by omega), field_two (by omega), rfc3339_text,
    DateTime.second_of_day]
  have hhour_tens : digit ((3600 * t.hour + 60 * t.minute + t.second) / 36000) =
      digit (t.hour / 10) := digit_congr (by omega)
  have hhour_ones : digit ((3600 * t.hour + 60 * t.minute + t.second) / 3600) = digit t.hour :=
    digit_congr (by omega)
  have hminute_tens : digit ((3600 * t.hour + 60 * t.minute + t.second) / 600 % 6) =
      digit (t.minute / 10) := digit_congr (by omega)
  have hminute_ones : digit ((3600 * t.hour + 60 * t.minute + t.second) / 60) =
      digit t.minute := digit_congr (by omega)
  have hsecond_tens : digit ((3600 * t.hour + 60 * t.minute + t.second) / 10 % 6) =
      digit (t.second / 10) := digit_congr (by omega)
  have hsecond_ones : digit (3600 * t.hour + 60 * t.minute + t.second) = digit t.second :=
    digit_congr (by omega)
  rw [hhour_tens, hhour_ones, hminute_tens, hminute_ones, hsecond_tens, hsecond_ones]
  rfl

theorem timestamp_text_length {t : DateTime} (h : t.date.year ≤ 9999) :
    (timestamp_text t).length = 19 := by
  have hlength := congrArg List.length (rfc3339_text_eq h)
  rw [List.length_append] at hlength
  exact (Nat.succ.inj hlength).symm

theorem zero_notMem_field (d n : ℕ) : 0 ∉ field digit 10 d n := by
  intro h
  obtain ⟨x, -, hx⟩ := List.mem_map.mp h
  exact digit_ne_zero x hx

theorem zero_notMem_timestamp_text (t : DateTime) : 0 ∉ timestamp_text t := by
  simp only [timestamp_text, List.mem_append, zero_notMem_field, List.mem_singleton, false_or,
    or_false]
  decide

/-- A larger digit is a later character. -/
theorem digit_lt : ∀ x < 10, ∀ y < 10, x < y → digit x < digit y := by
  decide

/-- **A later second has the later text.** -/
theorem timestamp_text_lt {t u : DateTime} (h : t.seconds < u.seconds)
    (ht : t.date.year ≤ 9999) (hu : u.date.year ≤ 9999) :
    timestamp_text t < timestamp_text u := by
  have hfields := DateTime.fields_lt h
  simp only [DateTime.fields, Date.fields, List.cons_append, List.nil_append,
    List.cons_lt_cons_iff, List.not_lt_nil, and_false, or_false] at hfields
  have htmonth := t.date.month_le
  have humonth := u.date.month_le
  have htday := t.date.day_le.trans (days_in_month_le _ _)
  have huday := u.date.day_le.trans (days_in_month_le _ _)
  have hthour := t.hour_lt
  have huhour := u.hour_lt
  have htminute := t.minute_lt
  have huminute := u.minute_lt
  have husecond := u.second_lt
  simp only [timestamp_text, List.append_assoc]
  -- one field after the other, as long as they are the same
  refine field_append_lt (by decide) digit_lt (by omega) (by omega)
    (hfields.imp_right (And.imp_right fun hfields => List.append_left_lt ?_))
  refine field_append_lt (by decide) digit_lt (by omega) (by omega)
    (hfields.imp_right (And.imp_right fun hfields => List.append_left_lt ?_))
  refine field_append_lt (by decide) digit_lt (by omega) (by omega)
    (hfields.imp_right (And.imp_right fun hfields => List.append_left_lt ?_))
  refine field_append_lt (by decide) digit_lt (by omega) (by omega)
    (hfields.imp_right (And.imp_right fun hfields => List.append_left_lt ?_))
  refine field_append_lt (by decide) digit_lt (by omega) (by omega)
    (hfields.imp_right (And.imp_right fun hsecond => List.append_left_lt ?_))
  exact field_lt (by decide) digit_lt (by omega) hsecond

/-! ## Printing it -/

/-- A timestamp of the calendar, written. -/
theorem print_timestamp_eq {timestamp : Int64} {t : DateTime} (ht : t.unix_time = timestamp.toInt)
    (hyear : t.date.year ≤ 9999) {out : List UInt8} {out_length : ℕ} (hlen : 20 ≤ out_length)
    (hroom : out_length ≤ out.length) :
    print_timestamp timestamp out out_length = some (0, timestamp_text t ++ 0 :: out.drop 20) := by
  have hepoch : EPOCH.toInt = 62135683200 := by decide
  have hmax : Int64.maxValue.toInt = 2 ^ 63 - 1 := Int64.toInt_maxValue
  have htime := t.second_of_day_lt
  have hnumber := day_number_march t.date
  have hday := march_day_spec t.date
  have hmarch : march_year t.date ≤ 9999 := (Nat.sub_le _ _).trans hyear
  rw [DateTime.unix_time, DateTime.unix_epoch_seconds, DateTime.seconds] at ht
  have hsmall : t.date.day_number < 2 ^ 32 := by omega
  have hseconds : rfc3339_seconds timestamp = 86400 * t.date.day_number + t.second_of_day := by
    have hsum := rfc3339_seconds_eq timestamp
    omega
  have hrdn : (UInt32.ofNat (rfc3339_seconds timestamp / 86400)).toNat = t.date.day_number := by
    rw [UInt32.toNat_ofNat', hseconds]
    omega
  have hsecond : rfc3339_seconds timestamp % 86400 = t.second_of_day := by omega
  rw [print_timestamp, rfc3339_format, if_neg (by omega), if_neg (by omega),
    rdn_to_ymd_date hyear hrdn]
  dsimp only
  rw [hsecond, rfc3339_text_eq hyear, copy_at, if_pos (by
    rw [List.length_append, timestamp_text_length hyear, List.length_singleton]; omega)]
  simp [timestamp_text_length hyear]

/-- **A timestamp in the calendar is printed exactly**: as the date and the time of day of its
second, with a terminator behind them and the rest of the buffer as it was. So a later timestamp
has the later text. -/
theorem print_timestamp_exact (timestamp : Int64) (out : List UInt8) (out_length : ℕ)
    (hfirst : DateTime.first.unix_time ≤ timestamp.toInt)
    (hlast : timestamp.toInt ≤ DateTime.last.unix_time) (hlen : 20 ≤ out_length)
    (hroom : out_length ≤ out.length) :
    (∃ t : DateTime, t.unix_time = timestamp.toInt ∧ (timestamp_text t).length = 19 ∧
      print_timestamp timestamp out out_length =
        some (0, timestamp_text t ++ 0 :: out.drop 20)) ∧
    ∀ (later : Int64) (out₂ : List UInt8) (out_length₂ : ℕ),
      timestamp.toInt < later.toInt → later.toInt ≤ DateTime.last.unix_time →
      20 ≤ out_length₂ → out_length₂ ≤ out₂.length →
      ∃ written written₂, print_timestamp timestamp out out_length = some (0, written) ∧
        print_timestamp later out₂ out_length₂ = some (0, written₂) ∧
        c_str written < c_str written₂ := by
  obtain ⟨t, ht⟩ := DateTime.exists_unix_time hfirst
  have hyear : t.date.year ≤ 9999 := DateTime.year_le (ht.le.trans hlast)
  have hprint := print_timestamp_eq ht hyear hlen hroom
  refine ⟨⟨t, ht, timestamp_text_length hyear, hprint⟩, ?_⟩
  intro later out₂ out_length₂ hlater hlast₂ hlen₂ hroom₂
  obtain ⟨u, hu⟩ := DateTime.exists_unix_time (hfirst.trans hlater.le)
  have hyear₂ : u.date.year ≤ 9999 := DateTime.year_le (hu.le.trans hlast₂)
  refine ⟨_, _, hprint, print_timestamp_eq hu hyear₂ hlen₂ hroom₂, ?_⟩
  rw [c_str_append_zero (zero_notMem_timestamp_text t),
    c_str_append_zero (zero_notMem_timestamp_text u)]
  refine timestamp_text_lt ?_ hyear hyear₂
  rw [← ht, ← hu, DateTime.unix_time, DateTime.unix_time] at hlater
  omega

/-- A time of the year 2020, and the last one. -/
theorem print_timestamp_now :
    (∃ t : DateTime, t.unix_time = (1588374349 : Int64).toInt ∧ (timestamp_text t).length = 19 ∧
      print_timestamp 1588374349 (List.replicate 20 0) 20 = some (0, timestamp_text t ++ [0])) ∧
    ∃ written written₂,
      print_timestamp 1588374349 (List.replicate 20 0) 20 = some (0, written) ∧
        print_timestamp 253402300799 (List.replicate 20 0) 20 = some (0, written₂) ∧
        c_str written < c_str written₂ := by
  obtain ⟨htext, hlater⟩ := print_timestamp_exact 1588374349 (List.replicate 20 0) 20
    (by rw [DateTime.first_unix_time]; decide) (by rw [DateTime.last_unix_time]; decide)
    (by decide) (by decide)
  exact ⟨htext, hlater 253402300799 (List.replicate 20 0) 20 (by decide)
    (by rw [DateTime.last_unix_time]; decide) (by decide) (by decide)⟩

end RenecLedger
