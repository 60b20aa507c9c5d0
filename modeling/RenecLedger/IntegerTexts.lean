/-
Integers on the display.

The digit loop fills the buffer from its front, last digit first, and stops where the buffer ends.
`u64_digits_run` says what it leaves, `print_u64_fits` and `print_u64_refused` what becomes of it:
the decimal text if it fits with its terminator. A buffer of one byte is not given to the loop, and
holds the empty text.
-/
import RenecLedger.TextSpec

set_option autoImplicit false

open ReaderLib NumeralLib

namespace RenecLedger

/-! ## Decimal texts -/

/-- A number as it is written. -/
def decimal (n : ℕ) : List UInt8 := c_string (toString n)

def decimal_int (i : ℤ) : List UInt8 := c_string (toString i)

theorem c_string_append (s t : String) : c_string (s ++ t) = c_string s ++ c_string t := by
  rw [c_string, String.toList_append, List.map_append]
  rfl

theorem decimal_int_nonneg {i : ℤ} (h : 0 ≤ i) : decimal_int i = decimal i.toNat := by
  rw [decimal_int, Int.toString_eq_repr, Int.repr_eq_if, if_pos h]
  rfl

theorem decimal_int_neg {i : ℤ} (h : i < 0) :
    decimal_int i = char '-' :: decimal (-i).toNat := by
  rw [decimal_int, Int.toString_eq_repr, Int.repr_eq_if, if_neg (by omega), c_string_append]
  rfl

theorem char_digitChar {n : ℕ} (h : n < 10) : char n.digitChar = digit n := by
  have hall : ∀ k < 10, char (Nat.digitChar k) = digit k := by decide +kernel
  exact hall n h

/-- The digits of the loop are those of the text, the last one first. -/
theorem decimal_eq (n : ℕ) : decimal n = ((numeral 10 n).map digit).reverse := by
  have htext : decimal n = (Nat.toDigits 10 n).map char := by
    rw [decimal, c_string, Nat.toString_eq_repr, Nat.toList_repr]
  rw [htext]
  clear htext
  induction n using Nat.strongRecOn with
  | ind n ih =>
    rw [Nat.toDigits_eq_if (by decide), numeral_map_digit]
    by_cases hn : n < 10
    · rw [if_pos hn, if_pos (Nat.div_eq_of_lt hn), List.map_singleton, char_digitChar hn,
        List.reverse_singleton]
    · rw [if_neg hn, if_neg (by omega), List.map_append, ih (n / 10) (by omega),
        List.map_singleton, char_digitChar (Nat.mod_lt n (by decide)), digit_mod,
        List.reverse_cons]

theorem length_decimal (n : ℕ) : (decimal n).length = ((numeral 10 n).map digit).length := by
  rw [decimal_eq, List.length_reverse]

/-! ## The digit loop -/

theorem u64_digit (v : ℕ) :
    (if v > 0 then UInt8.ofNat (v % 10) + char '0' else char '0') = digit v := by
  split
  · rfl
  · rename_i hv
    obtain rfl : v = 0 := by omega
    rfl

/-- What the loop writes behind `w`: the digits, as far as there is room for them. The induction is
on the room. -/
theorem u64_digits_run {w r : List UInt8} {rounds v : ℕ} (hr : r ≠ [])
    (hrounds : r.length ≤ rounds) :
    u64_digits (w ++ r).length rounds (w ++ r) w.length v =
      some (w ++ ((numeral 10 v).map digit).take r.length ++
          r.drop ((numeral 10 v).map digit).length,
        w.length + min ((numeral 10 v).map digit).length r.length) := by
  induction r generalizing w rounds v with
  | nil => exact absurd rfl hr
  | cons x r ih =>
    rw [List.length_cons] at hrounds
    obtain ⟨rounds, rfl⟩ : ∃ k, rounds = k + 1 := ⟨rounds - 1, by omega⟩
    have hlen : (w ++ x :: r).length = (w ++ [digit v] ++ r).length := by
      simp only [List.length_append, List.length_cons, List.length_nil]
      omega
    rw [u64_digits, u64_digit, write_at_append, Option.bind_eq_bind, Option.bind_some,
      numeral_map_digit]
    by_cases hlast : v / 10 = 0
    · rw [if_neg (by omega), if_pos hlast, List.length_cons, List.length_cons, List.length_nil,
        List.take_succ_cons, List.take_nil, List.drop_succ_cons, List.drop_zero, List.append_assoc,
        List.singleton_append, Nat.zero_add, Nat.min_eq_left (by omega)]
    · cases r with
      | nil =>
        rw [if_neg, if_neg hlast]
        · simp only [List.length_cons, List.length_nil, List.take_succ_cons, List.take_zero,
            List.drop_succ_cons, List.drop_nil, List.append_nil]
          rw [Nat.min_eq_right (by omega)]
        · rintro ⟨-, hroom⟩
          rw [List.length_append] at hroom
          exact Nat.lt_irrefl _ hroom
      | cons y r =>
        have hw : (w ++ [digit v]).length = w.length + 1 := by
          rw [List.length_append, List.length_singleton]
        have hstep := ih (w := w ++ [digit v]) (v := v / 10)
          (List.cons_ne_nil y r) (Nat.le_of_succ_le_succ hrounds)
        rw [← hlen, hw, List.append_assoc, List.singleton_append] at hstep
        rw [if_pos, if_neg hlast, hstep]
        · simp only [List.length_cons, List.take_succ_cons, List.drop_succ_cons,
            List.append_assoc, List.singleton_append]
          rw [Nat.add_min_add_right, Nat.add_assoc, Nat.add_comm 1]
        · refine ⟨Nat.pos_of_ne_zero hlast, ?_⟩
          simp only [List.length_append, List.length_cons]
          omega

/-- The digits that were written, turned round in front of what follows them. -/
theorem reverse_digits (n : ℕ) (z : List UInt8) :
    reverse_between (decimal n).length ((numeral 10 n).map digit ++ z) 0
        ((decimal n).length - 1) =
      some (decimal n ++ z) := by
  have hreverse := reverse_between_append (decimal n).length [] ((numeral 10 n).map digit) z
    (by rw [length_decimal]; omega)
  rw [List.nil_append, List.nil_append, List.length_nil, Nat.zero_add, ← length_decimal,
    ← decimal_eq] at hreverse
  exact hreverse

theorem print_u64_fits {u64 : UInt64} {out : List UInt8} (hmax : out.length ≤ INT_MAX)
    (hone : out.length ≠ 1) (hfits : (decimal u64.toNat).length < out.length) :
    print_u64 u64 out out.length =
      some (0, decimal u64.toNat ++ 0 :: out.drop ((decimal u64.toNat).length + 1)) := by
  have hempty : out ≠ [] := List.ne_nil_of_length_pos (Nat.zero_lt_of_lt hfits)
  have hrun := u64_digits_run (w := []) (v := u64.toNat) hempty (Nat.le_refl _)
  rw [List.nil_append, List.nil_append, List.length_nil, Nat.zero_add, ← length_decimal,
    List.take_of_length_le (by rw [← length_decimal]; omega),
    Nat.min_eq_left (by omega)] at hrun
  -- the byte behind the digits takes the terminator
  obtain ⟨x, rest, hrest⟩ := List.exists_cons_of_length_pos
    (by rw [List.length_drop]; omega : 0 < (out.drop (decimal u64.toNat).length).length)
  have htail : out.drop ((decimal u64.toNat).length + 1) = rest := by
    rw [← List.drop_drop, hrest, List.drop_one, List.tail_cons]
  have hwrite : write_at ((numeral 10 u64.toNat).map digit ++ x :: rest) _ 0 = _ :=
    write_at_append x 0
  rw [← length_decimal] at hwrite
  rw [print_u64, if_neg (Nat.not_lt.mpr hmax)]
  dsimp only
  rw [if_pos (by omega), hrun, Option.bind_eq_bind, Option.bind_some, hrest]
  dsimp only
  rw [if_neg (by omega), hwrite, Option.bind_eq_bind, Option.bind_some, reverse_digits,
    Option.bind_some, htail]
  rfl

/-- A text that does not fit is refused, with the buffer full of its last digits. -/
theorem print_u64_refused {u64 : UInt64} {out : List UInt8} (hmax : out.length ≤ INT_MAX)
    (hone : out.length ≠ 1) (hfits : ¬(decimal u64.toNat).length < out.length) :
    print_u64 u64 out out.length =
      some (1, ((numeral 10 u64.toNat).map digit).take out.length) := by
  by_cases hempty : out = []
  · subst hempty
    rfl
  have hrun := u64_digits_run (w := []) (v := u64.toNat) hempty (Nat.le_refl _)
  rw [List.nil_append, List.nil_append, List.length_nil, Nat.zero_add, ← length_decimal,
    Nat.min_eq_right (by omega), List.drop_eq_nil_of_le (by omega), List.append_nil] at hrun
  have hpos := List.length_pos_iff.mpr hempty
  rw [print_u64, if_neg (Nat.not_lt.mpr hmax)]
  dsimp only
  rw [if_pos (by omega), hrun, Option.bind_eq_bind, Option.bind_some]
  exact if_pos (Nat.le_refl _)

/-! ## Negative numbers -/

theorem int64_toInt_eq (i64 : Int64) :
    i64.toInt = if 2 * i64.toUInt64.toNat < 2 ^ 64 then (i64.toUInt64.toNat : ℤ)
      else (i64.toUInt64.toNat : ℤ) - (2 ^ 64 : ℕ) :=
  BitVec.toInt_eq_toNat_cond i64.toBitVec

/-- The two's complement of a negative number is its magnitude, also for the least one. -/
theorem magnitude_toNat {i64 : Int64} (h : i64 < 0) :
    ((i64.toUInt64 ^^^ 0xffffffffffffffff) + 1).toNat = (-i64.toInt).toNat := by
  have hneg : (i64.toUInt64 ^^^ 0xffffffffffffffff) + 1 = -i64.toUInt64 := by
    rw [show (0xffffffffffffffff : UInt64) = -1 by decide, UInt64.xor_neg_one,
      ← UInt64.neg_eq_not_add]
  have hvalue := int64_toInt_eq i64
  have hlt : i64.toInt < 0 := Int64.lt_iff_toInt_lt.mp h
  have hbound := i64.toUInt64.toNat_lt
  have hsize : UInt64.size = 2 ^ 64 := rfl
  rw [hneg, UInt64.toNat_neg, hsize]
  split at hvalue <;> omega

theorem toUInt64_toNat {i64 : Int64} (h : ¬i64 < 0) : i64.toUInt64.toNat = i64.toInt.toNat := by
  have hvalue := int64_toInt_eq i64
  have hnonneg : ¬i64.toInt < 0 := fun hlt => h (Int64.lt_iff_toInt_lt.mpr hlt)
  have hbound := i64.toUInt64.toNat_lt
  split at hvalue <;> omega

/-! ## Every buffer -/

/-- What printing a text into the whole of `out` comes to, when `sign` of its bytes are written in
front of the digits. Nothing outside the buffer is accessed; and if the digits are not left with
a single byte, the return code is 0 exactly when the text fits with its terminator and the room
for the digits is an `int`, and then the buffer holds the text. -/
def PrintsInteger (result : PrintResult) (text out : List UInt8) (sign : ℕ) : Prop :=
  ∃ rc out', result = some (rc, out') ∧ out'.length = out.length ∧
    (out.length ≠ sign + 1 →
      (rc = 0 ↔ text.length + 1 ≤ out.length ∧ out.length ≤ INT_MAX + sign) ∧
      (rc = 0 → ∃ rest, out' = text ++ 0 :: rest))

theorem prints_integer_u64 (u64 : UInt64) (out : List UInt8) :
    PrintsInteger (print_u64 u64 out out.length) (decimal u64.toNat) out 0 := by
  by_cases hone : out.length = 1
  · obtain ⟨x, rfl⟩ := List.length_eq_one_iff.mp hone
    exact ⟨0, [0], rfl, rfl, fun hne => absurd rfl hne⟩
  by_cases hmax : out.length ≤ INT_MAX
  · by_cases hfits : (decimal u64.toNat).length < out.length
    · refine ⟨_, _, print_u64_fits hmax hone hfits, ?_, fun _ =>
        ⟨iff_of_true rfl ⟨hfits, hmax⟩, fun _ => ⟨_, rfl⟩⟩⟩
      simp only [List.length_append, List.length_cons, List.length_drop]
      omega
    · refine ⟨_, _, print_u64_refused hmax hone hfits, ?_, fun _ =>
        ⟨iff_of_false Nat.one_ne_zero fun h => hfits h.1,
          fun hzero => absurd hzero Nat.one_ne_zero⟩⟩
      rw [List.length_take, ← length_decimal]
      omega
  · have hprint : print_u64 u64 out out.length = some (1, out) := by
      rw [print_u64, if_pos (Nat.not_le.mp hmax)]
      rfl
    exact ⟨1, out, hprint, rfl, fun _ => ⟨iff_of_false Nat.one_ne_zero fun h => hmax h.2,
      fun hzero => absurd hzero Nat.one_ne_zero⟩⟩

/-- A sign in front. -/
theorem PrintsInteger.cons {result : PrintResult} {text out : List UInt8}
    (h : PrintsInteger result text out 0) (x c : UInt8) :
    PrintsInteger (result.map fun r => (r.1, c :: r.2)) (c :: text) (x :: out) 1 := by
  obtain ⟨rc, out', rfl, hlen, h⟩ := h
  refine ⟨rc, c :: out', rfl, congrArg Nat.succ hlen, fun hne => ?_⟩
  simp only [List.length_cons] at hne ⊢
  obtain ⟨hcode, htext⟩ := h (by omega)
  refine ⟨hcode.trans (and_congr (by omega) (by omega)), fun hzero => ?_⟩
  obtain ⟨rest, rfl⟩ := htext hzero
  exact ⟨rest, rfl⟩

theorem print_i64_negative {i64 : Int64} (h : i64 < 0) (x : UInt8) (out : List UInt8) :
    print_i64 i64 (x :: out) (x :: out).length =
      (print_u64 ((i64.toUInt64 ^^^ 0xffffffffffffffff) + 1) out out.length).map
        fun r => (r.1, char '-' :: r.2) := by
  rw [print_i64, if_neg (by rw [List.length_cons]; omega)]
  dsimp only
  rw [if_pos h, Option.map_eq_bind]
  rfl

theorem print_i64_nonneg {i64 : Int64} (h : ¬i64 < 0) (out : List UInt8) :
    print_i64 i64 out out.length = print_u64 i64.toUInt64 out out.length := by
  cases out with
  | nil => rfl
  | cons x out =>
    rw [print_i64, if_neg (by rw [List.length_cons]; omega)]
    exact if_neg h

theorem prints_integer_i64 (i64 : Int64) (out : List UInt8) :
    PrintsInteger (print_i64 i64 out out.length) (decimal_int i64.toInt) out
      (if i64 < 0 then 1 else 0) := by
  by_cases hnegative : i64 < 0
  · have hvalue : i64.toInt < 0 := Int64.lt_iff_toInt_lt.mp hnegative
    rw [if_pos hnegative, decimal_int_neg hvalue, ← magnitude_toNat hnegative]
    cases out with
    | nil =>
      exact ⟨1, [], rfl, rfl, fun _ => ⟨iff_of_false Nat.one_ne_zero fun h =>
        absurd h.1 (Nat.not_succ_le_zero _), fun hzero => absurd hzero Nat.one_ne_zero⟩⟩
    | cons x out =>
      rw [print_i64_negative hnegative]
      exact (prints_integer_u64 _ out).cons x (char '-')
  · have hvalue : 0 ≤ i64.toInt :=
      Int.not_lt.mp fun h => hnegative (Int64.lt_iff_toInt_lt.mpr h)
    rw [if_neg hnegative, decimal_int_nonneg hvalue, ← toUInt64_toNat hnegative,
      print_i64_nonneg hnegative]
    exact prints_integer_u64 _ out

/-- **The integer printers stay inside their buffer**, and where the digits have no or at least
two bytes of room, they succeed exactly when the text fits and the room is an `int`, and leave
the text. -/
theorem print_integers_exact (out : List UInt8) :
    (∀ u64 : UInt64, PrintsInteger (print_u64 u64 out out.length) (decimal u64.toNat) out 0) ∧
      ∀ i64 : Int64, PrintsInteger (print_i64 i64 out out.length) (decimal_int i64.toInt) out
        (if i64 < 0 then 1 else 0) :=
  ⟨fun u64 => prints_integer_u64 u64 out, fun i64 => prints_integer_i64 i64 out⟩

/-- A buffer whose length is no `int` is refused, however short the text is. -/
theorem print_u64_beyond_int :
    ¬((∃ out', print_u64 7 (List.replicate (INT_MAX + 1) 0) (INT_MAX + 1) = some (0, out')) ↔
      (decimal 7).length + 1 ≤ INT_MAX + 1) := by
  have hprint : print_u64 7 (List.replicate (INT_MAX + 1) 0) (INT_MAX + 1) =
      some (1, List.replicate (INT_MAX + 1) 0) := by
    rw [print_u64, if_pos (Nat.lt_succ_self INT_MAX), Option.pure_def]
  rw [hprint]
  intro h
  obtain ⟨out', hcode⟩ := h.mpr (by decide)
  exact absurd (congrArg Prod.fst (Option.some.inj hcode)) Nat.one_ne_zero

example : print_i64 (-9223372036854775808) (List.replicate 21 1) 21 =
    some (0, c_string "-9223372036854775808" ++ [0]) := by
  decide

end RenecLedger
