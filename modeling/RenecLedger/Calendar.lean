/-
Which days have a date.

`rdn_to_ymd` works in 32-bit words, and its sums and products wrap. All that it computes depends
on one word, the day of a calendar in which every fourth year is a leap year (`julian_day`). So
the days with a date are those for which this word is small enough: the days up to the end of
the year 9999, and a few at the end of the word that wrap around to the first years.
-/
import Mathlib.Algebra.Ring.Int.Defs
import Mathlib.Data.List.GetD
import RenecLedger.Printer

set_option autoImplicit false

namespace RenecLedger

/-! ## The words of `rdn_to_ymd` -/

/-- The leap days up to day `Z` that only every fourth century has. -/
def julian_shift (Z : ℕ) : ℕ :=
  let A := (100 * Z + (2 ^ 32 - 25)) % 2 ^ 32 / 3652425
  A - A / 4

/-- The day, with these leap days for all centuries. -/
def julian_day (rdn : ℕ) : ℕ :=
  let Z := (rdn + 306) % 2 ^ 32
  (julian_shift Z + Z) % 2 ^ 32

/-- The year of a day, which begins in March. -/
def julian_year (e : ℕ) : ℕ := (100 * e + (2 ^ 32 - 25)) % 2 ^ 32 / 36525

def day_of_year (e : ℕ) : ℕ := (e + (2 ^ 32 - 1461 * julian_year e / 4)) % 2 ^ 32

def month_of_day (d : ℕ) : ℕ := (535 * d + 48950) % 2 ^ 32 / 16384

/-- The last check of `rdn_to_ymd`. -/
def HasDate (y m d : ℕ) : Prop :=
  if 12 < m then y + 1 ≤ 9999 ∧ m - 12 ≤ 12 ∧ d ≤ 31 + (DayOffset.getD (m - 12) 0).toNat
  else y ≤ 9999 ∧ d ≤ 31 + (DayOffset.getD m 0).toNat

/-- No month ends later in the year. -/
theorem day_offset_le (m : ℕ) : (DayOffset.getD m 0).toNat ≤ 337 := by
  by_cases hm : m < 13
  · have hall : ∀ m < 13, (DayOffset.getD m 0).toNat ≤ 337 := by decide
    exact hall m hm
  · rw [List.getD_eq_default _ _ (Nat.not_lt.mp hm)]
    decide

/-- So adding an offset does not wrap. -/
theorem day_offset_add (m : ℕ) :
    (31 + DayOffset.getD m 0 : UInt32).toNat = 31 + (DayOffset.getD m 0).toNat := by
  have hle := day_offset_le m
  rw [UInt32.toNat_add]
  change (31 + (DayOffset.getD m 0).toNat) % 2 ^ 32 = _
  omega

/-- The check, on words. -/
theorem has_date_words (y m d : UInt32) (hy : y.toNat + 1 < 2 ^ 32) :
    ¬((if m > 12 then (y + 1, m - 12) else (y, m)).1 > 9999 ∨
        (if m > 12 then (y + 1, m - 12) else (y, m)).2 > 12 ∨
        d > 31 + DayOffset.getD (if m > 12 then (y + 1, m - 12) else (y, m)).2.toNat 0) ↔
      HasDate y.toNat m.toNat d.toNat := by
  rw [HasDate]
  by_cases hm : m > 12
  · have hlt : 12 < m.toNat := UInt32.lt_iff_toNat_lt.mp hm
    have hm' : (m - 12).toNat = m.toNat - 12 := UInt32.toNat_sub_of_le _ _ (Nat.le_of_lt hlt)
    have hy' : (y + 1).toNat = y.toNat + 1 := by
      rw [UInt32.toNat_add]
      exact Nat.mod_eq_of_lt hy
    rw [if_pos hm, if_pos hlt]
    simp only [gt_iff_lt, UInt32.lt_iff_toNat_lt, day_offset_add, hm', hy', not_or, Nat.not_lt,
      UInt32.reduceToNat]
  · have hle : ¬12 < m.toNat := UInt32.lt_iff_toNat_lt.not.mp hm
    rw [if_neg hm, if_neg hle]
    simp only [gt_iff_lt, UInt32.lt_iff_toNat_lt, day_offset_add, not_or, Nat.not_lt,
      UInt32.reduceToNat]
    omega

/-- The words are computed one from the other, and all of them from the Julian day. -/
theorem rdn_words {rdn Z H A B y d m : UInt32} (hZ : Z = rdn + 306) (hH : H = 100 * Z - 25)
    (hA : A = H / 3652425) (hB : B = A - (A >>> 2)) (hy : y = (100 * B + H) / 36525)
    (hd : d = B + Z - ((1461 * y) >>> 2)) (hm : m = (535 * d + 48950) >>> 14) :
    y.toNat = julian_year (julian_day rdn.toNat) ∧ d.toNat = day_of_year (julian_day rdn.toNat) ∧
      m.toNat = month_of_day (day_of_year (julian_day rdn.toNat)) := by
  have hZn := congrArg UInt32.toNat hZ
  have hHn := congrArg UInt32.toNat hH
  have hAn := congrArg UInt32.toNat hA
  have hBn := congrArg UInt32.toNat hB
  have hyn := congrArg UInt32.toNat hy
  have hdn := congrArg UInt32.toNat hd
  have hmn := congrArg UInt32.toNat hm
  simp only [UInt32.toNat_add, UInt32.toNat_sub, UInt32.toNat_mul, UInt32.toNat_div,
    UInt32.toNat_shiftRight, UInt32.reduceToNat, Nat.shiftRight_eq_div_pow, Nat.reduceMod]
    at hZn hHn hAn hBn hyn hdn hmn
  -- Each word is read as a number of the step before it; `omega` sees one wrap at a time.
  have hshift : B.toNat = julian_shift Z.toNat := by
    have hword : H.toNat = (100 * Z.toNat + (2 ^ 32 - 25)) % 2 ^ 32 := by omega
    rw [julian_shift, ← hword, ← hAn]
    omega
  have hday : julian_day rdn.toNat = (B.toNat + Z.toNat) % 2 ^ 32 := by
    rw [julian_day, ← hZn, hshift]
  have hyear : y.toNat = julian_year (julian_day rdn.toNat) := by
    have hword : (100 * B.toNat % 2 ^ 32 + H.toNat) % 2 ^ 32 =
        (100 * ((B.toNat + Z.toNat) % 2 ^ 32) + (2 ^ 32 - 25)) % 2 ^ 32 := by omega
    rw [hyn, hday, julian_year, hword]
  have hdate : d.toNat = day_of_year (julian_day rdn.toNat) := by
    rw [day_of_year, ← hyear, hday, hdn]
    -- The year is a quotient by 36525, small enough for the product not to wrap.
    have hsmall : y.toNat ≤ 117591 := by omega
    have hproduct : 1461 * y.toNat % 2 ^ 32 = 1461 * y.toNat := by omega
    rw [hproduct]
    omega
  have hmonth : m.toNat = month_of_day (day_of_year (julian_day rdn.toNat)) := by
    have hword : (535 * d.toNat % 2 ^ 32 + 48950) % 2 ^ 32 = (535 * d.toNat + 48950) % 2 ^ 32 := by
      omega
    rw [← hdate, month_of_day, hmn, hword]
  exact ⟨hyear, hdate, hmonth⟩

/-- The year is a quotient, so it does not overflow when one is added. -/
theorem julian_year_lt (e : ℕ) : julian_year e + 1 < 2 ^ 32 := by
  rw [julian_year]
  omega

/-- The result, of these words. -/
theorem rdn_to_ymd_words (rdn : UInt32) : ∃ y m d : UInt32,
    y.toNat = julian_year (julian_day rdn.toNat) ∧ d.toNat = day_of_year (julian_day rdn.toNat) ∧
    m.toNat = month_of_day (day_of_year (julian_day rdn.toNat)) ∧
    rdn_to_ymd rdn =
      match if m > 12 then (y + 1, m - 12) else (y, m) with
      | (y, m) =>
        if y > 9999 ∨ m > 12 ∨ d > 31 + DayOffset.getD m.toNat 0 then none
        else
          some (y.toUInt16.toNat, m.toUInt16.toNat,
            (d - DayOffset.getD m.toNat 0).toUInt16.toNat) := by
  -- unfolded by itself: the kernel would evaluate the words of an unfolded application
  generalize hf : rdn_to_ymd = f
  delta rdn_to_ymd at hf
  rw [← hf]
  beta_reduce
  extract_lets Z H A B y d m
  obtain ⟨hyear, hdate, hmonth⟩ : _ ∧ _ ∧ _ :=
    rdn_words (show Z = rdn + 306 from rfl) (show H = 100 * Z - 25 from rfl)
      (show A = H / 3652425 from rfl) (show B = A - (A >>> 2) from rfl)
      (show y = (100 * B + H) / 36525 from rfl) (show d = B + Z - ((1461 * y) >>> 2) from rfl)
      (show m = (535 * d + 48950) >>> 14 from rfl)
  -- from here on, the words are what these three facts say
  clear_value m d y B A H Z
  exact ⟨y, m, d, hyear, hdate, hmonth, rfl⟩

theorem rdn_to_ymd_isSome (rdn : UInt32) :
    (rdn_to_ymd rdn).isSome ↔ HasDate (julian_year (julian_day rdn.toNat))
      (month_of_day (day_of_year (julian_day rdn.toNat)))
      (day_of_year (julian_day rdn.toNat)) := by
  obtain ⟨y, m, d, hyear, hdate, hmonth, hresult⟩ := rdn_to_ymd_words rdn
  have hlt := julian_year_lt (julian_day rdn.toNat)
  rw [← hyear] at hlt
  rw [hresult, ← hmonth, ← hdate, ← hyear, ← has_date_words y m d hlt]
  generalize (if m > 12 then (y + 1, m - 12) else (y, m)) = ym
  rcases ym with ⟨y', m'⟩
  exact Option.isSome_ite'

/-- The year and the month of a day, where the year begins in January: the last two months are
of the year after. -/
theorem year_month_words {y m : UInt32} {year month : ℕ} (hlt : y.toNat + 1 < 2 ^ 32)
    (hmonth : month ≤ 12) (hy : y.toNat + (if month ≤ 2 then 1 else 0) = year)
    (hm : m.toNat = if month ≤ 2 then month + 12 else month) (hpos : 1 ≤ month) :
    ∃ y' m' : UInt32, (if m > 12 then (y + 1, m - 12) else (y, m)) = (y', m') ∧
      y'.toNat = year ∧ m'.toNat = month := by
  by_cases hnext : month ≤ 2
  · rw [if_pos hnext] at hy hm
    have hbig : m > 12 := UInt32.lt_iff_toNat_lt.mpr (by rw [hm]; change 12 < _; omega)
    refine ⟨y + 1, m - 12, if_pos hbig, ?_, ?_⟩
    · rw [UInt32.toNat_add, ← hy]
      exact Nat.mod_eq_of_lt hlt
    · have hle : (12 : UInt32) ≤ m := UInt32.le_of_lt hbig
      rw [UInt32.toNat_sub_of_le _ _ hle, hm]
      rfl
  · rw [if_neg hnext] at hy hm
    have hsmall : ¬m > 12 := UInt32.lt_iff_toNat_lt.not.mpr (by rw [hm]; change ¬12 < _; omega)
    exact ⟨y, m, if_neg hsmall, hy, hm⟩

/-- **The result, for a day of the calendar**: what was computed of the year that begins in March
is the year, month and day. -/
theorem rdn_to_ymd_eq {rdn : UInt32} {year month day : ℕ} (hyear : year ≤ 9999)
    (hpos : 1 ≤ month) (hmonth : month ≤ 12) (hday : day ≤ 31)
    (hy : julian_year (julian_day rdn.toNat) + (if month ≤ 2 then 1 else 0) = year)
    (hd : day_of_year (julian_day rdn.toNat) = (DayOffset.getD month 0).toNat + day)
    (hm : month_of_day (day_of_year (julian_day rdn.toNat)) =
      if month ≤ 2 then month + 12 else month) :
    rdn_to_ymd rdn = some (year, month, day) := by
  obtain ⟨y, m, d, hyw, hdw, hmw, hresult⟩ := rdn_to_ymd_words rdn
  have hlt := julian_year_lt (julian_day rdn.toNat)
  rw [← hyw] at hlt hy
  rw [← hdw] at hd
  rw [← hmw] at hm
  obtain ⟨y', m', hwords, rfl, rfl⟩ := year_month_words hlt hmonth hy hm hpos
  have hoffset : DayOffset.getD m'.toNat 0 ≤ d := UInt32.le_iff_toNat_le.mpr (by omega)
  have hcheck : ¬(y' > 9999 ∨ m' > 12 ∨ d > 31 + DayOffset.getD m'.toNat 0) := by
    simp only [gt_iff_lt, UInt32.lt_iff_toNat_lt, day_offset_add, not_or, Nat.not_lt,
      UInt32.reduceToNat]
    omega
  have hday' : (d - DayOffset.getD m'.toNat 0).toNat = day := by
    rw [UInt32.toNat_sub_of_le _ _ hoffset]
    omega
  rw [hresult, hwords]
  dsimp only
  rw [if_neg hcheck]
  simp only [UInt32.toNat_toUInt16, hday']
  rw [Nat.mod_eq_of_lt (by omega), Nat.mod_eq_of_lt (by omega), Nat.mod_eq_of_lt (by omega)]

/-! ## The days with a date -/

/-- A day of a year has a month, from 3 to 14, and it is not behind its end. -/
theorem month_of_day_spec : ∀ d < 367, 1 ≤ d →
    (12 < month_of_day d ↔ 307 ≤ d) ∧
      if 12 < month_of_day d then
        month_of_day d - 12 ≤ 12 ∧ d ≤ 31 + (DayOffset.getD (month_of_day d - 12) 0).toNat
      else d ≤ 31 + (DayOffset.getD (month_of_day d) 0).toNat := by
  decide +kernel

/-- A date is not far behind the beginning of its year. -/
theorem HasDate.le {y m d : ℕ} (h : HasDate y m d) : y ≤ 9999 ∧ d ≤ 368 := by
  rw [HasDate] at h
  have hoffset := day_offset_le (m - 12)
  have hoffset' := day_offset_le m
  split at h <;> omega

/-- While the word of the year does not wrap, it is the year, and what is left is the day of it. -/
theorem julian_year_spec {e : ℕ} (hpos : 1 ≤ e) (he : 100 * e - 25 < 2 ^ 32) :
    julian_year e = (100 * e - 25) / 36525 ∧ day_of_year e + 1461 * julian_year e / 4 = e ∧
      1 ≤ day_of_year e ∧ day_of_year e < 367 := by
  have hyear : julian_year e = (100 * e - 25) / 36525 := by
    have hword : (100 * e + (2 ^ 32 - 25)) % 2 ^ 32 = 100 * e - 25 := by omega
    rw [julian_year, hword]
  have hday : day_of_year e = e - 1461 * julian_year e / 4 := by
    rw [day_of_year]
    omega
  refine ⟨hyear, ?_, ?_, ?_⟩ <;> omega

/-- The days up to the end of the year 9999. Its year begins in March, so the last two months
are of the year before. -/
theorem has_date_iff {e : ℕ} (he : e < 2 ^ 32) :
    HasDate (julian_year e) (month_of_day (day_of_year e)) (day_of_year e) ↔
      1 ≤ e ∧ e ≤ 3652440 := by
  by_cases hzero : e = 0
  · refine iff_of_false (fun h => ?_) fun h => absurd hzero (Nat.one_le_iff_ne_zero.mp h.1)
    have hyear : julian_year 0 = 117589 := by decide
    rw [hzero, hyear] at h
    exact absurd h.le.1 (by decide)
  have hpos : 1 ≤ e := Nat.one_le_iff_ne_zero.mpr hzero
  by_cases hwrap : 100 * e - 25 < 2 ^ 32
  · obtain ⟨hyear, hsum, hfirst, hlast⟩ := julian_year_spec hpos hwrap
    obtain ⟨hmonth, hend⟩ := month_of_day_spec (day_of_year e) hlast hfirst
    rw [HasDate]
    by_cases hnext : 12 < month_of_day (day_of_year e)
    · rw [if_pos hnext] at hend ⊢
      have hlate : 307 ≤ day_of_year e := hmonth.mp hnext
      constructor
      · rintro ⟨hle, -⟩
        omega
      · intro hle
        exact ⟨by omega, hend⟩
    · rw [if_neg hnext] at hend ⊢
      have hearly : ¬307 ≤ day_of_year e := hmonth.not.mp hnext
      constructor
      · rintro ⟨hle, -⟩
        omega
      · intro hle
        exact ⟨by omega, hend⟩
  · -- the year has wrapped, and the day is far behind it
    refine iff_of_false (fun h => ?_) fun h => by omega
    obtain ⟨hyear, hday⟩ := h.le
    have hbegin : 1461 * julian_year e / 4 ≤ 3652134 := by omega
    have hdiff : day_of_year e = e - 1461 * julian_year e / 4 := by
      rw [day_of_year]
      omega
    omega

theorem julian_shift_le (Z : ℕ) : julian_shift Z ≤ 882 := by
  rw [julian_shift]
  omega

/-- While its word does not wrap, the shift grows with the days. -/
theorem julian_shift_spec {Z : ℕ} (hpos : 1 ≤ Z) (h : 100 * Z - 25 < 2 ^ 32) :
    (Z ≤ 3652365 → julian_shift Z ≤ 75) ∧ (3652366 ≤ Z → 75 ≤ julian_shift Z) := by
  have hword : (100 * Z + (2 ^ 32 - 25)) % 2 ^ 32 = 100 * Z - 25 := by omega
  rw [julian_shift, hword]
  constructor <;> (intro hZ; omega)

/-- At the two ends of the word it has wrapped, and is what it is at most. -/
theorem julian_shift_wrapped {Z : ℕ} (hZ : Z < 2 ^ 32) (h : Z = 0 ∨ 4294966415 ≤ Z) :
    julian_shift Z = 882 := by
  rcases h with rfl | h
  · decide
  · have hword : (100 * Z + (2 ^ 32 - 25)) % 2 ^ 32 = 100 * Z + (2 ^ 32 - 25) - 100 * 2 ^ 32 := by
      omega
    have hquotient : (100 * Z + (2 ^ 32 - 25) - 100 * 2 ^ 32) / 3652425 = 1175 := by omega
    rw [julian_shift, hword, hquotient]

theorem julian_day_iff {rdn : ℕ} (h : rdn < 2 ^ 32) :
    1 ≤ julian_day rdn ∧ julian_day rdn ≤ 3652440 ↔ rdn ≤ 3652059 ∨ 4294966109 ≤ rdn := by
  obtain ⟨Z, hZ⟩ : ∃ Z, Z = (rdn + 306) % 2 ^ 32 := ⟨_, rfl⟩
  have hlt : Z < 2 ^ 32 := by omega
  have hmax := julian_shift_le Z
  rw [julian_day, ← hZ]
  by_cases hwrapped : Z = 0 ∨ 4294966415 ≤ Z
  · rw [julian_shift_wrapped hlt hwrapped]
    omega
  by_cases hword : 100 * Z - 25 < 2 ^ 32
  · obtain ⟨hearly, hlate⟩ := julian_shift_spec (by omega) hword
    omega
  · omega

/-- **A day has a date** exactly when it is not behind the end of the year 9999, or wraps around
to one of the first years. -/
theorem rdn_to_ymd_isSome_iff (rdn : UInt32) :
    (rdn_to_ymd rdn).isSome ↔ rdn.toNat ≤ 3652059 ∨ 4294966109 ≤ rdn.toNat := by
  have hlt : julian_day rdn.toNat < 2 ^ 32 := Nat.mod_lt _ (by decide)
  rw [rdn_to_ymd_isSome, has_date_iff hlt, julian_day_iff rdn.toNat_lt]

/-! ## Timestamps -/

/-- The seconds since the year 1 are an `int64_t`, and the day, in 32 bits, has a date. -/
def HasTimestamp (seconds : Int64) : Prop :=
  let sum := seconds.toInt + 62135683200
  let rdn := sum % 2 ^ 64 / 86400 % 2 ^ 32
  sum < 2 ^ 63 ∧ (rdn ≤ 3652059 ∨ 4294966109 ≤ rdn)

instance (seconds : Int64) : Decidable (HasTimestamp seconds) :=
  inferInstanceAs (Decidable (_ ∧ _))

theorem toNat_toUInt64 (x : Int64) : (x.toUInt64.toNat : ℤ) = x.toInt % 2 ^ 64 := by
  have hint : x.toInt = Int.bmod x.toUInt64.toNat (2 ^ 64) := BitVec.toInt_eq_toNat_bmod _
  have hlt := x.toUInt64.toNat_lt
  rw [hint]
  change _ = Int.bmod x.toUInt64.toNat (2 ^ 64) % ((2 ^ 64 : ℕ) : ℤ)
  rw [Int.bmod_emod]
  omega

/-- The sum wraps around the word. -/
theorem rfc3339_seconds_eq (seconds : Int64) :
    (rfc3339_seconds seconds : ℤ) = (seconds.toInt + 62135683200) % 2 ^ 64 := by
  have hseconds := toNat_toUInt64 seconds
  have hepoch : EPOCH.toUInt64.toNat = 62135683200 := by decide
  rw [rfc3339_seconds, Int64.toUInt64_add, UInt64.toNat_add, hepoch]
  omega

/-- The day number of a timestamp. -/
theorem timestamp_rdn (seconds : Int64) :
    ((UInt32.ofNat (rfc3339_seconds seconds / 86400)).toNat : ℤ) =
      (seconds.toInt + 62135683200) % 2 ^ 64 / 86400 % 2 ^ 32 := by
  have hseconds := rfc3339_seconds_eq seconds
  rw [UInt32.toNat_ofNat']
  omega

theorem has_timestamp_iff (seconds : Int64) :
    HasTimestamp seconds ↔ ¬seconds.toInt + EPOCH.toInt > Int64.maxValue.toInt ∧
      (rdn_to_ymd (UInt32.ofNat (rfc3339_seconds seconds / 86400))).isSome := by
  have hepoch : EPOCH.toInt = 62135683200 := by decide
  have hmax : Int64.maxValue.toInt = 2 ^ 63 - 1 := Int64.toInt_maxValue
  have hrdn := timestamp_rdn seconds
  rw [rdn_to_ymd_isSome_iff, HasTimestamp, ← hrdn, hepoch, hmax]
  omega

end RenecLedger
