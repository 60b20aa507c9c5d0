/-
What `encode_base58` writes.

The encoding is stated on its own (`base58`): one `1` for each zero byte in front, then
the digits of the number that the bytes say, the first one being no zero digit. The
source computes it by long division, one digit a round. A round takes a zero byte off the
front of the quotient, but no more than one, so the loop may write zero digits at last;
these are skipped again. Two rounds are enough for each byte, which is why the digits of
32 bytes fit in the buffer of 64 (`encode_base58_eq`).
-/
import Mathlib.Data.Nat.Digits.Lemmas
import RenecLedger.TextSpec

set_option autoImplicit false

namespace RenecLedger

/-! ## The encoding -/

/-- The number that bytes say, the most significant one first. -/
def big_endian (bytes : List UInt8) : ℕ := Nat.ofDigits 256 (bytes.reverse.map UInt8.toNat)

def base58_char (digit : ℕ) : UInt8 := BASE58_ALPHABET.getD digit 0

/-- A number in base 58, without zero digits in front: zero has no digits. -/
def base58_number (n : ℕ) : List UInt8 := ((Nat.digits 58 n).map base58_char).reverse

def base58 (bytes : List UInt8) : List UInt8 :=
  List.replicate (bytes.takeWhile (· = 0)).length (base58_char 0) ++
    base58_number (big_endian bytes)

theorem big_endian_cons (b : UInt8) (bytes : List UInt8) :
    big_endian (b :: bytes) = b.toNat * 256 ^ bytes.length + big_endian bytes := by
  rw [big_endian, big_endian, List.reverse_cons, List.map_append, Nat.ofDigits_append,
    List.length_map, List.length_reverse, List.map_singleton, Nat.ofDigits_singleton,
    Nat.mul_comm, Nat.add_comm]

theorem big_endian_zeros (bytes : List UInt8) :
    big_endian (bytes.drop (bytes.takeWhile (· = 0)).length) = big_endian bytes := by
  induction bytes with
  | nil => rfl
  | cons b bytes ih =>
    by_cases hb : b = 0
    · subst hb
      rw [List.takeWhile_cons_of_pos (by simp), List.length_cons, List.drop_succ_cons, ih,
        big_endian_cons, UInt8.toNat_zero, Nat.zero_mul, Nat.zero_add]
    · rw [List.takeWhile_cons_of_neg (by simp [hb]), List.length_nil, List.drop_zero]

theorem base58_char_ne_zero {n : ℕ} (h : n < 58) : base58_char n ≠ 0 := by
  have hall : ∀ k < 58, base58_char k ≠ 0 := by decide +kernel
  exact hall n h

/-- Only the digit 0 is written `1`. -/
theorem base58_char_eq_one {n : ℕ} (h : n < 58) : base58_char n = base58_char 0 ↔ n = 0 := by
  have hall : ∀ k < 58, base58_char k = base58_char 0 ↔ k = 0 := by decide +kernel
  exact hall n h

theorem zero_notMem_base58 (bytes : List UInt8) : 0 ∉ base58 bytes := by
  rw [base58, List.mem_append, not_or]
  constructor
  · intro h
    exact base58_char_ne_zero (by decide) (List.eq_of_mem_replicate h).symm
  · intro h
    rw [base58_number, List.mem_reverse] at h
    obtain ⟨n, hn, hzero⟩ := List.mem_map.mp h
    exact base58_char_ne_zero (Nat.digits_lt_base (by decide) hn) hzero

/-! ## Long division -/

/-- The quotient has as many digits, and the remainder is one in base 58. -/
theorem base58_divide_spec (remainder : ℕ) (hrem : remainder < 58) (tmp : List UInt8) :
    (base58_divide remainder tmp).1.length = tmp.length ∧
      (base58_divide remainder tmp).2 < 58 ∧
      remainder * 256 ^ tmp.length + big_endian tmp =
        58 * big_endian (base58_divide remainder tmp).1 + (base58_divide remainder tmp).2 := by
  induction tmp generalizing remainder with
  | nil =>
    refine ⟨rfl, hrem, ?_⟩
    rw [base58_divide]
    simp [big_endian]
  | cons b tmp ih =>
    have hlt := UInt8.toNat_lt b
    set tmp_div := remainder * 256 + b.toNat with htmp_div
    obtain ⟨hlen, hr, hvalue⟩ := ih (tmp_div % 58) (Nat.mod_lt _ (by decide))
    have hquotient : (UInt8.ofNat (tmp_div / 58)).toNat = tmp_div / 58 := by
      rw [UInt8.toNat_ofNat', Nat.mod_eq_of_lt (by omega)]
    have hdiv := Nat.div_add_mod tmp_div 58
    refine ⟨by rw [base58_divide, List.length_cons, hlen, List.length_cons], hr, ?_⟩
    rw [base58_divide]
    simp only [big_endian_cons, List.length_cons, hlen, hquotient, ← htmp_div]
    calc remainder * 256 ^ (tmp.length + 1) + (b.toNat * 256 ^ tmp.length + big_endian tmp)
        = tmp_div * 256 ^ tmp.length + big_endian tmp := by rw [htmp_div]; ring
      _ = (58 * (tmp_div / 58) + tmp_div % 58) * 256 ^ tmp.length + big_endian tmp := by rw [hdiv]
      _ = 58 * (tmp_div / 58) * 256 ^ tmp.length +
            (tmp_div % 58 * 256 ^ tmp.length + big_endian tmp) := by ring
      _ = _ := by rw [hvalue]; ring

/-! ## The digit loop -/

/-- How many rounds bytes take at most: two for each, and one less for a small one in
front. -/
def base58_rounds : List UInt8 → ℕ
  | [] => 0
  | b :: bytes => 2 * bytes.length + if b.toNat < 58 then 1 else 2

theorem base58_rounds_le (tmp : List UInt8) : base58_rounds tmp ≤ 2 * tmp.length := by
  cases tmp with
  | nil => exact Nat.le_refl 0
  | cons b tmp =>
    rw [base58_rounds, List.length_cons]
    split <;> omega

/-- The bytes that a round leaves: the quotient, without one zero byte in front. -/
def base58_round (tmp : List UInt8) : List UInt8 :=
  if (base58_divide 0 tmp).1.headD 0 = 0 then (base58_divide 0 tmp).1.tail
  else (base58_divide 0 tmp).1

/-- A round takes one digit off the number, and one of the rounds that are left. -/
theorem base58_round_spec (b : UInt8) (tmp : List UInt8) :
    big_endian (b :: tmp) =
        58 * big_endian (base58_round (b :: tmp)) + (base58_divide 0 (b :: tmp)).2 ∧
      base58_rounds (base58_round (b :: tmp)) + 1 ≤ base58_rounds (b :: tmp) := by
  obtain ⟨hlen, -, hvalue⟩ := base58_divide_spec 0 (by decide) (b :: tmp)
  obtain ⟨hlen', -, -⟩ := base58_divide_spec (b.toNat % 58) (Nat.mod_lt _ (by decide)) tmp
  have hlt := UInt8.toNat_lt b
  have hquotient : (base58_divide 0 (b :: tmp)).1 =
      UInt8.ofNat (b.toNat / 58) :: (base58_divide (b.toNat % 58) tmp).1 := by
    simp only [base58_divide, Nat.zero_mul, Nat.zero_add]
  have hhead : (UInt8.ofNat (b.toNat / 58)).toNat = b.toNat / 58 := by
    rw [UInt8.toNat_ofNat', Nat.mod_eq_of_lt (by omega)]
  have hzero : UInt8.ofNat (b.toNat / 58) = 0 ↔ b.toNat < 58 := by
    rw [← UInt8.toNat_inj, hhead, UInt8.toNat_zero, Nat.div_eq_zero_iff]
    omega
  rw [Nat.zero_mul, Nat.zero_add] at hvalue
  rw [hvalue, base58_round, hquotient, List.headD_cons, List.tail_cons, base58_rounds]
  by_cases hb : b.toNat < 58
  · -- the byte in front is used up
    rw [if_pos (hzero.mpr hb), if_pos hb, big_endian_cons, hzero.mpr hb, UInt8.toNat_zero,
      Nat.zero_mul, Nat.zero_add]
    have hle := base58_rounds_le (base58_divide (b.toNat % 58) tmp).1
    exact ⟨rfl, by omega⟩
  · rw [if_neg (hzero.not.mpr hb), if_neg hb, base58_rounds, hhead, if_pos (by omega), hlen']
    exact ⟨rfl, Nat.le_refl _⟩

/-- Digits with zero digits in front. -/
theorem base58_number_snoc {n n' r : ℕ} (hr : r < 58) (h : n = 58 * n' + r) (k : ℕ) :
    ∃ k', List.replicate k (base58_char 0) ++ base58_number n' ++ [base58_char r] =
      List.replicate k' (base58_char 0) ++ base58_number n := by
  by_cases hn : n = 0
  · obtain ⟨hn', rfl⟩ : n' = 0 ∧ r = 0 := by omega
    refine ⟨k + 1, ?_⟩
    rw [hn, hn', base58_number, Nat.digits_zero, List.map_nil, List.reverse_nil, List.append_nil,
      List.append_nil, List.replicate_succ']
  · refine ⟨k, ?_⟩
    have hdigits : Nat.digits 58 n = r :: Nat.digits 58 n' := by
      rw [Nat.digits_def' (by decide) (Nat.pos_of_ne_zero hn), h, Nat.mul_add_mod,
        Nat.mod_eq_of_lt hr, Nat.mul_add_div (by decide), Nat.div_eq_of_lt hr, Nat.add_zero]
    rw [base58_number, base58_number, hdigits, List.map_cons, List.reverse_cons, List.append_assoc]

theorem push_front_append {front written : List UInt8} (x c : UInt8) (h : front.length < 255) :
    push_front (front ++ x :: written) (front.length + 1) c =
      some (front ++ c :: written, front.length) := by
  have hj : (front.length + 1 + 255) % 256 = front.length := by omega
  rw [push_front, hj, write_at_append]
  rfl

theorem base58_digits_cons (rounds : ℕ) (b : UInt8) (tmp buffer : List UInt8) (j : ℕ) :
    base58_digits (rounds + 1) (b :: tmp) buffer j =
      (push_front buffer j (base58_char (base58_divide 0 (b :: tmp)).2)).bind fun next =>
        base58_digits rounds (base58_round (b :: tmp)) next.1 next.2 := rfl

/-- **The digit loop** writes the digits of the number in front of what is written, perhaps
with zero digits before them. The induction is on the rounds that are left. -/
theorem base58_digits_spec (rounds : ℕ) (tmp front written : List UInt8)
    (hrounds : base58_rounds tmp < rounds) (hfront : base58_rounds tmp ≤ front.length)
    (hbuffer : front.length ≤ 255) :
    ∃ front' k, base58_digits rounds tmp (front ++ written) front.length =
        some (front' ++ (List.replicate k (base58_char 0) ++ base58_number (big_endian tmp) ++
          written), front'.length) ∧
      front'.length + k + (base58_number (big_endian tmp)).length = front.length ∧
      front.length ≤ front'.length + base58_rounds tmp := by
  induction rounds generalizing tmp front written with
  | zero => exact absurd hrounds (Nat.not_lt_zero _)
  | succ rounds ih =>
    match tmp with
    | [] =>
      refine ⟨front, 0, ?_, ?_, Nat.le_add_right _ _⟩
      · rw [base58_digits]
        rfl
      · rfl
    | b :: tmp =>
      obtain ⟨hvalue, hless⟩ := base58_round_spec b tmp
      obtain ⟨-, hr, -⟩ := base58_divide_spec 0 (by decide) (b :: tmp)
      -- the last byte of the front is written
      obtain ⟨front, x, rfl⟩ : ∃ front₀ x, front = front₀ ++ [x] :=
        ⟨_, _, (List.dropLast_append_getLast (List.ne_nil_of_length_pos (by omega))).symm⟩
      rw [List.length_append, List.length_singleton] at hfront hbuffer ⊢
      obtain ⟨front', k, hrun, hcount, hleft⟩ := ih (base58_round (b :: tmp)) front
        (base58_char (base58_divide 0 (b :: tmp)).2 :: written) (by omega) (by omega) (by omega)
      obtain ⟨k', hk⟩ := base58_number_snoc hr hvalue k
      have hpush : push_front (front ++ x :: written) (front.length + 1)
          (base58_char (base58_divide 0 (b :: tmp)).2) = some (_, front.length) :=
        push_front_append x _ (by omega)
      have hlen := congrArg List.length hk
      simp only [List.length_append, List.length_replicate, List.length_singleton] at hlen
      refine ⟨front', k', ?_, by omega, by omega⟩
      rw [List.append_assoc front, List.singleton_append, base58_digits_cons, hpush,
        Option.bind_some, hrun, ← hk, List.append_assoc _ [_], List.singleton_append]

/-! ## Skipping and pushing ones -/

theorem base58_number_head (n : ℕ) (c : UInt8) (rest : List UInt8)
    (h : base58_number n = c :: rest) : c ≠ base58_char 0 := by
  have hn : n ≠ 0 := by
    rintro rfl
    rw [base58_number, Nat.digits_zero] at h
    cases h
  have hne : Nat.digits 58 n ≠ [] := Nat.digits_ne_nil_iff_ne_zero.mpr hn
  rw [base58_number, ← List.dropLast_append_getLast hne, List.map_append, List.reverse_append,
    List.map_singleton, List.reverse_singleton, List.singleton_append, List.cons.injEq] at h
  rw [← h.1, Ne, base58_char_eq_one (Nat.digits_lt_base (by decide) (List.getLast_mem hne))]
  exact Nat.getLast_digit_ne_zero 58 hn

/-- The zero digits in front are skipped, and nothing else is. -/
theorem skip_ones_spec (k : ℕ) (front number written : List UInt8)
    (hnumber : ∀ c rest, number = c :: rest → c ≠ base58_char 0) :
    skip_ones (front ++ (List.replicate k (base58_char 0) ++ number ++ written))
      (k + number.length) front.length = some (front.length + k) := by
  induction k generalizing front with
  | zero =>
    rw [List.replicate_zero, List.nil_append]
    -- The scan ends at the first digit that is not zero, or at the end of the number.
    match number with
    | [] => rfl
    | c :: number =>
      have hget : (front ++ (c :: number ++ written))[front.length]? = some c := by
        rw [List.getElem?_append_right (Nat.le_refl _), Nat.sub_self]
        rfl
      rw [List.length_cons, ← Nat.add_assoc, skip_ones, hget, Option.bind_eq_bind,
        Option.bind_some]
      exact if_neg (hnumber c number rfl)
  | succ k ih =>
    have hget : (front ++ (List.replicate (k + 1) (base58_char 0) ++ number ++
        written))[front.length]? = some (base58_char 0) := by
      rw [List.getElem?_append_right (Nat.le_refl _), Nat.sub_self]
      rfl
    have hrec := ih (front ++ [base58_char 0])
    rw [List.length_append, List.length_singleton, List.append_assoc front,
      List.singleton_append] at hrec
    rw [show k + 1 + number.length = k + number.length + 1 by omega, skip_ones, hget,
      Option.bind_eq_bind, Option.bind_some]
    change (if base58_char 0 = base58_char 0 then _ else _) = _
    rw [if_pos rfl, List.replicate_succ, List.cons_append, List.cons_append, hrec]
    exact congrArg some (by omega)

theorem push_ones_spec (zero_count : ℕ) (front written : List UInt8)
    (h : zero_count ≤ front.length) (hbuffer : front.length ≤ 255) :
    ∃ front', push_ones zero_count (front ++ written) front.length =
        some (front' ++ (List.replicate zero_count (base58_char 0) ++ written), front'.length) ∧
      front'.length + zero_count = front.length := by
  induction zero_count generalizing front written with
  | zero => exact ⟨front, rfl, rfl⟩
  | succ zero_count ih =>
    obtain ⟨front, x, rfl⟩ : ∃ front₀ x, front = front₀ ++ [x] :=
      ⟨_, _, (List.dropLast_append_getLast (List.ne_nil_of_length_pos (by omega))).symm⟩
    rw [List.length_append, List.length_singleton] at h hbuffer ⊢
    obtain ⟨front', hrun, hlen⟩ := ih front (base58_char 0 :: written) (by omega) (by omega)
    have hpush : push_front (front ++ x :: written) (front.length + 1) (base58_char 0) =
        some (_, front.length) := push_front_append x _ (by omega)
    refine ⟨front', ?_, by omega⟩
    rw [List.append_assoc front, List.singleton_append, push_ones]
    change (push_front _ _ (base58_char 0)).bind _ = _
    rw [hpush, Option.bind_some]
    change push_ones zero_count _ _ = _
    rw [hrun, List.replicate_succ', List.append_assoc (List.replicate _ _), List.singleton_append]

/-! ## The whole -/

/-- The zeros in front, and the bytes behind them. -/
theorem split_zeros (bytes : List UInt8) :
    (bytes.take (bytes.takeWhile (· = 0)).length).length = (bytes.takeWhile (· = 0)).length ∧
    (bytes.take (bytes.takeWhile (· = 0)).length).length +
      (bytes.drop (bytes.takeWhile (· = 0)).length).length = bytes.length := by
  have hzeros := (List.takeWhile_sublist (fun b : UInt8 => b = 0) (l := bytes)).length_le
  rw [← List.length_append, List.take_append_drop, List.length_take]
  exact ⟨Nat.min_eq_left hzeros, rfl⟩

/-- **The three loops**, on a buffer with any contents: what lies between the cursor and the
place where it started is the encoding. -/
theorem base58_loops {bytes buffer : List UInt8} (h : bytes.length ≤ 32)
    (hbuffer : buffer.length = 64) :
    ∃ buffer₁ j₁ j₂ buffer₂ j₃,
      base58_digits (2 * bytes.length + 1) (bytes.drop (bytes.takeWhile (· = 0)).length) buffer
        (2 * bytes.length) = some (buffer₁, j₁) ∧
      skip_ones buffer₁ (2 * bytes.length - j₁) j₁ = some j₂ ∧
      push_ones (bytes.takeWhile (· = 0)).length buffer₁ j₂ = some (buffer₂, j₃) ∧
      j₃ + (base58 bytes).length = 2 * bytes.length ∧ 2 * bytes.length ≤ buffer₂.length ∧
      (buffer₂.drop j₃).take (2 * bytes.length - j₃) = base58 bytes := by
  obtain ⟨hzeros, htmp_length⟩ := split_zeros bytes
  rw [hzeros] at htmp_length
  set zero_count := (bytes.takeWhile (· = 0)).length with hzero
  set tmp := bytes.drop zero_count with htmp
  have hvalue : big_endian tmp = big_endian bytes := big_endian_zeros bytes
  have hle := base58_rounds_le tmp
  -- the buffer, split where the digits end
  have hsplit := List.take_append_drop (2 * bytes.length) buffer
  have hfront : (buffer.take (2 * bytes.length)).length = 2 * bytes.length := by
    rw [List.length_take]
    omega
  obtain ⟨front₁, k, hdigits, hcount, hleft⟩ := base58_digits_spec (2 * bytes.length + 1) tmp
    (buffer.take (2 * bytes.length)) (buffer.drop (2 * bytes.length)) (by omega) (by omega)
    (by omega)
  rw [hfront] at hdigits hcount hleft
  rw [hsplit] at hdigits
  set written := buffer.drop (2 * bytes.length)
  have hskip := skip_ones_spec k front₁ (base58_number (big_endian tmp)) written
    (base58_number_head _)
  have hplaces : 2 * bytes.length - front₁.length =
      k + (base58_number (big_endian tmp)).length := by omega
  -- the ones are written over what was skipped and over the front
  have hskipped : front₁.length + k = (front₁ ++ List.replicate k (base58_char 0)).length := by
    rw [List.length_append, List.length_replicate]
  obtain ⟨front₂, hones, hfront₂⟩ := push_ones_spec zero_count
    (front₁ ++ List.replicate k (base58_char 0)) (base58_number (big_endian tmp) ++ written)
    (by omega) (by omega)
  rw [← hskipped] at hones hfront₂
  have htext : base58 bytes =
      List.replicate zero_count (base58_char 0) ++ base58_number (big_endian tmp) := by
    rw [hvalue, base58]
  have hlength : front₂.length + (base58 bytes).length = 2 * bytes.length := by
    rw [htext, List.length_append, List.length_replicate]
    omega
  rw [← hplaces] at hskip
  simp only [List.append_assoc] at hdigits hskip hones
  refine ⟨_, _, _, _, _, hdigits, hskip, hones, hlength, ?_, ?_⟩
  · rw [← List.append_assoc (List.replicate zero_count _), ← htext, List.length_append,
      List.length_append]
    omega
  · rw [List.drop_left, ← List.append_assoc, ← htext]
    exact List.take_left' (by omega)

/-- **`encode_base58` writes the encoding**, whenever it fits in the output together with
its terminator. -/
theorem encode_base58_eq (bytes out : List UInt8) (maxoutlen : ℕ) (h : bytes.length ≤ 32) :
    encode_base58 bytes out maxoutlen =
      if maxoutlen < (base58 bytes).length + 1 then some (EXCEPTION_OVERFLOW, out)
      else do
        let out ← copy_at out 0 (base58 bytes)
        let out ← write_at out (base58 bytes).length 0
        return (0, out) := by
  obtain ⟨buffer₁, j₁, j₂, buffer₂, j₃, hdigits, hskip, hones, -, -, htaken⟩ :=
    base58_loops h (List.length_replicate : (List.replicate 64 (0 : UInt8)).length = 64)
  rw [encode_base58, if_neg (by omega)]
  simp only [Option.bind_eq_bind]
  rw [hdigits, Option.bind_some, hskip, Option.bind_some, hones, Option.bind_some, htaken]
  rfl

/-- A text that is written is the encoding. -/
theorem encode_base58_text {bytes out out' : List UInt8} {maxoutlen : ℕ}
    (h : bytes.length ≤ 32) (hrun : encode_base58 bytes out maxoutlen = some (0, out')) :
    c_str out' = base58 bytes := by
  rw [encode_base58_eq bytes out maxoutlen h] at hrun
  split at hrun
  · cases hrun
  · rw [Option.bind_eq_bind, Option.bind_eq_some_iff] at hrun
    obtain ⟨out₁, hcopy, hrun⟩ := hrun
    rw [Option.bind_eq_some_iff] at hrun
    obtain ⟨out₂, hwrite, hrun⟩ := hrun
    cases hrun
    have hfront : copy_at ([] ++ out) ([] : List UInt8).length (base58 bytes) = some out₁ := hcopy
    obtain ⟨-, rfl⟩ := copy_at_append_eq_some.mp hfront
    rw [List.nil_append] at hwrite
    obtain ⟨-, rfl⟩ := write_at_append_eq_some.mp hwrite
    rw [List.append_assoc, List.singleton_append, c_str_append_zero (zero_notMem_base58 bytes)]

end RenecLedger
