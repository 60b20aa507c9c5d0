/-
Which timestamps outside of the calendar are refused.

`rfc3339_format` has a test for this: a day behind the year 9999 has no date. But the day it looks
at is a word of 32 bits, and a timestamp has more days than that. They are counted modulo the word,
so every 2^32 days the whole calendar comes back, and a timestamp there is shown as a date that it
is not (`out_of_range_refused_iff`). Here the sum of two `int64_t` is taken to wrap around, as it
does on the device (`print_timestamp_wrapping`); as long as it does not, this is the printer of the
display (`print_timestamp_eq_wrapping`), and in the calendar it does not
(`print_timestamp_wrapping_calendar`).
-/
import RenecLedger.Rendering
import RenecLedger.Timestamps

set_option autoImplicit false

open GregorianLib

namespace RenecLedger

/-! ## The sum that wraps around -/

def rfc3339_format_wrapping (dst : List UInt8) (len : ℕ) (seconds : Int64) : PrintResult :=
  if 19 ≥ len then some (1, dst)
  else
    match rdn_to_ymd (UInt32.ofNat (rfc3339_seconds seconds / 86400)) with
    | none => some (1, dst)
    | some (y, m, d) =>
      (copy_at dst 0 (rfc3339_text y m d (rfc3339_seconds seconds % 86400))).map (0, ·)

def print_timestamp_wrapping (timestamp : Int64) (out : List UInt8) (out_length : ℕ) :
    PrintResult :=
  rfc3339_format_wrapping out out_length timestamp

/-- Where the sum is an `int64_t`, nothing wraps. -/
theorem print_timestamp_eq_wrapping {timestamp : Int64}
    (h : timestamp.toInt + EPOCH.toInt ≤ Int64.maxValue.toInt) (out : List UInt8)
    (out_length : ℕ) :
    print_timestamp timestamp out out_length =
      print_timestamp_wrapping timestamp out out_length := by
  unfold print_timestamp print_timestamp_wrapping rfc3339_format rfc3339_format_wrapping
  exact congrArg (fun shown => if 19 ≥ out_length then some (1, out) else shown)
    (if_neg (Int.not_lt.mpr h))

/-- In the calendar nothing wraps, so what the device prints is the date of the second. -/
theorem print_timestamp_wrapping_calendar {timestamp : Int64} {t : DateTime}
    (ht : t.unix_time = timestamp.toInt) (hyear : t.date.year ≤ 9999) {out : List UInt8}
    {out_length : ℕ} (hlen : 20 ≤ out_length) (hroom : out_length ≤ out.length) :
    print_timestamp_wrapping timestamp out out_length =
      some (0, timestamp_text t ++ 0 :: out.drop 20) := by
  have hsum : timestamp.toInt + EPOCH.toInt ≤ Int64.maxValue.toInt := by
    have hlast := DateTime.le_last hyear
    have hepoch : EPOCH.toInt = 62135683200 := by decide
    have hmax : Int64.maxValue.toInt = 9223372036854775807 := by decide
    rw [ht, DateTime.last_unix_time] at hlast
    omega
  rw [← print_timestamp_eq_wrapping hsum]
  exact print_timestamp_eq ht hyear hlen hroom

/-! ## The day in its word -/

/-- The day number of a timestamp, in 32 bits. -/
def timestamp_day (timestamp : Int64) : ℤ :=
  (timestamp.toInt + 62135683200) % 2 ^ 64 / 86400 % 2 ^ 32

/-- The day is one that `rdn_to_ymd` has no date for. -/
def NoDate (timestamp : Int64) : Prop :=
  3652059 < timestamp_day timestamp ∧ timestamp_day timestamp < 4294966109

instance (timestamp : Int64) : Decidable (NoDate timestamp) :=
  inferInstanceAs (Decidable (_ ∧ _))

theorem no_date_iff (timestamp : Int64) :
    NoDate timestamp ↔
      rdn_to_ymd (UInt32.ofNat (rfc3339_seconds timestamp / 86400)) = none := by
  have hrdn := timestamp_rdn timestamp
  rw [← Option.isNone_iff_eq_none, ← Option.not_isSome, Bool.not_eq_true', ← Bool.not_eq_true,
    rdn_to_ymd_isSome_iff, NoDate, timestamp_day, ← hrdn]
  omega

/-- **What is refused**: a buffer without room for the text, and a day without a date. -/
theorem refuses_timestamp_iff (timestamp : Int64) (out : List UInt8) (out_length : ℕ) :
    (∃ rc out', print_timestamp_wrapping timestamp out out_length = some (rc, out') ∧ rc ≠ 0) ↔
      out_length < 20 ∨ NoDate timestamp := by
  rw [no_date_iff, print_timestamp_wrapping, rfc3339_format_wrapping]
  by_cases hshort : 19 ≥ out_length
  · rw [if_pos hshort]
    exact iff_of_true ⟨1, out, rfl, Nat.one_ne_zero⟩ (Or.inl (Nat.lt_succ_of_le hshort))
  · rw [if_neg hshort, or_iff_right (by omega)]
    rcases rdn_to_ymd (UInt32.ofNat (rfc3339_seconds timestamp / 86400)) with _ | ⟨y, m, d⟩
    · exact iff_of_true ⟨1, out, rfl, Nat.one_ne_zero⟩ rfl
    · refine iff_of_false ?_ (Option.some_ne_none _)
      rintro ⟨rc, out', hprint, hrc⟩
      obtain ⟨written, -, hwritten⟩ := Option.map_eq_some_iff.mp hprint
      exact hrc (congrArg Prod.fst hwritten).symm

/-! ## Outside of the calendar -/

/-- Whatever the fields are, there are 19 characters. -/
theorem c_str_rfc3339_text (y m d v : ℕ) (rest : List UInt8) :
    (c_str (rfc3339_text y m d v ++ rest)).length = 19 := by
  have hsplit : rfc3339_text y m d v = (rfc3339_text y m d v).dropLast ++ [0] := rfl
  have hchars : 0 ∉ (rfc3339_text y m d v).dropLast := by
    simp [rfc3339_text, (digit_ne_zero _).symm, char]
  rw [hsplit, List.append_assoc, List.singleton_append, c_str_append_zero hchars]
  rfl

theorem written_text_length {timestamp : Int64} {out out' : List UInt8} {out_length : ℕ}
    (h : print_timestamp_wrapping timestamp out out_length = some (0, out')) :
    (c_str out').length = 19 := by
  rw [print_timestamp_wrapping, rfc3339_format_wrapping] at h
  by_cases hshort : 19 ≥ out_length
  · rw [if_pos hshort] at h
    cases h
  · rw [if_neg hshort] at h
    cases hdate : rdn_to_ymd (UInt32.ofNat (rfc3339_seconds timestamp / 86400)) with
    | none =>
      rw [hdate] at h
      cases h
    | some date =>
      rw [hdate] at h
      obtain ⟨written, hcopy, hwritten⟩ := Option.map_eq_some_iff.mp h
      obtain rfl : written = out' := congrArg Prod.snd hwritten
      rw [copy_at] at hcopy
      split at hcopy
      · cases hcopy
        exact c_str_rfc3339_text _ _ _ _ _
      · cases hcopy

/-- The text of a second behind the calendar is longer. -/
theorem timestamp_text_length_lt {t : DateTime} (h : 9999 < t.date.year) :
    19 < (timestamp_text t).length := by
  have hmonth := t.date.month_le
  have hday := t.date.day_le.trans (days_in_month_le _ _)
  have hhour := t.hour_lt
  have hminute := t.minute_lt
  have hsecond := t.second_lt
  have hyear := NumeralLib.field_length_lt (f := digit) (b := 10) (d := 4) (by decide) h
  rw [timestamp_text, field_two (by omega), field_two (by omega), field_two (by omega),
    field_two (by omega), field_two (by omega)]
  simp only [List.length_append, List.length_cons, List.length_nil]
  omega

/-- **A timestamp outside of the calendar is refused** exactly when the word of its day has no
date, or the buffer has no room. The same decides whether the item of a lock-up time is shown.
What is printed otherwise is never the text of its second. -/
theorem out_of_range_refused_iff (timestamp : Int64)
    (hrange : timestamp.toInt < DateTime.first.unix_time - 86400 ∨
      DateTime.last.unix_time < timestamp.toInt) :
    (∀ (out : List UInt8) (out_length : ℕ),
      (∃ rc out', print_timestamp_wrapping timestamp out out_length = some (rc, out') ∧ rc ≠ 0) ↔
        out_length < 20 ∨ NoDate timestamp) ∧
    (timestamp.toInt + EPOCH.toInt ≤ Int64.maxValue.toInt →
      ∀ title, SummaryItem.Fails ⟨title, .SummaryItemTimestamp timestamp⟩ ↔ NoDate timestamp) ∧
    ∀ (out out' : List UInt8) (out_length : ℕ),
      print_timestamp_wrapping timestamp out out_length = some (0, out') →
      ∀ t : DateTime, t.unix_time = timestamp.toInt → c_str out' ≠ timestamp_text t := by
  refine ⟨refuses_timestamp_iff timestamp, ?_, ?_⟩
  · intro hsum title
    rw [fails_timestamp, has_timestamp_iff, no_date_iff, not_and, Option.not_isSome_iff_eq_none,
      forall_prop_of_true (Int.not_lt.mpr hsum)]
  · intro out out' out_length hprint t ht heq
    rcases hrange with hbefore | hbehind
    · have hfirst := t.first_le
      rw [ht] at hfirst
      omega
    · have hyear : 9999 < t.date.year := by
        by_contra hle
        have hlast := DateTime.le_last (Nat.le_of_not_lt hle)
        rw [ht] at hlast
        omega
      have hlength := timestamp_text_length_lt hyear
      rw [← heq, written_text_length hprint] at hlength
      exact Nat.lt_irrefl _ hlength

/-- The first second of the year 10000. -/
theorem year_10000_refused :
    (∃ rc out', print_timestamp_wrapping 253402300800 (List.replicate 45 0) 45 = some (rc, out') ∧
      rc ≠ 0) ∧
    SummaryItem.Fails ⟨"Lockup time", .SummaryItemTimestamp 253402300800⟩ := by
  obtain ⟨hrefused, hfails, -⟩ := out_of_range_refused_iff 253402300800
    (Or.inr (by rw [DateTime.last_unix_time]; decide))
  exact ⟨(hrefused (List.replicate 45 0) 45).mpr (Or.inr (by decide)),
    (hfails (by decide) "Lockup time").mpr (by decide)⟩

/-- 2^32 days after the beginning of the year 1970, it is shown once more. -/
theorem epoch_comes_back :
    print_timestamp_wrapping 371085174374400 (List.replicate 45 0) 45 =
      some (0, c_string "1970-01-01 00:00:00" ++ List.replicate 26 0) ∧
    ¬∀ (timestamp : Int64) (out : List UInt8) (out_length : ℕ),
      timestamp.toInt < DateTime.first.unix_time - 86400 ∨
        DateTime.last.unix_time < timestamp.toInt →
      ∃ rc out', print_timestamp_wrapping timestamp out out_length = some (rc, out') ∧ rc ≠ 0 := by
  have hshown : print_timestamp_wrapping 371085174374400 (List.replicate 45 0) 45 =
      some (0, c_string "1970-01-01 00:00:00" ++ List.replicate 26 0) := by
    decide +kernel
  refine ⟨hshown, fun h => ?_⟩
  obtain ⟨rc, out', hprint, hrc⟩ := h 371085174374400 (List.replicate 45 0) 45
    (Or.inr (by rw [DateTime.last_unix_time]; decide))
  rw [hshown] at hprint
  cases hprint
  exact hrc rfl

end RenecLedger
