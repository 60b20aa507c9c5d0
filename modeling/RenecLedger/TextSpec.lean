/-
What the text printers write.

A printer that returns 0 leaves a C string in its buffer; the rules below say which one.
The digit loops fill the buffer from its front, so a buffer is taken apart as what has
been written and the rest. `print_token_amount_text` puts the steps of the token amounts
together: the loop, the reversal, the zeros and the point that are stripped, and the
asset. The text is the number's canonical one, so it says which number it was
(`amount_text_injective`).
-/
import RenecLedger.Lib.Numeral
import RenecLedger.Printer

set_option autoImplicit false

open NumeralLib

namespace RenecLedger

/-! ## Lengths -/

theorem to_size_natCast {n : ℕ} (h : n ≤ SIZE_MAX) : to_size n = n := by
  rw [to_size, ← Int.natCast_emod, Int.toNat_natCast, Nat.mod_eq_of_lt (by omega)]

theorem to_int_natCast {n : ℕ} (h : n ≤ INT_MAX) : to_int n = n := by
  have hmax : INT_MAX = 2147483647 := rfl
  have hsize : SIZE_MAX = 4294967295 := rfl
  rw [to_int, Int.bmod_eq_of_le] <;> omega

/-! ## C strings -/

/-- A string, its terminator, and whatever follows. -/
theorem c_str_append_zero {s : List UInt8} (hs : 0 ∉ s) (rest : List UInt8) :
    c_str (s ++ 0 :: rest) = s := by
  rw [c_str, List.takeWhile_append_of_pos]
  · rw [List.takeWhile_cons_of_neg (by simp), List.append_nil]
  · intro a ha
    rw [decide_eq_true_eq]
    rintro rfl
    exact hs ha

/-- A string without a terminator in the list that holds it. -/
theorem c_str_of_notMem {s : List UInt8} (hs : 0 ∉ s) : c_str s = s := by
  rw [c_str, List.takeWhile_eq_self_iff]
  intro a ha
  rw [decide_eq_true_eq]
  rintro rfl
  exact hs ha

theorem zero_notMem_c_str (buf : List UInt8) : 0 ∉ c_str buf := by
  intro h
  have hne := List.mem_takeWhile_imp h
  exact of_decide_eq_true hne rfl

@[simp] theorem c_str_c_str (buf : List UInt8) : c_str (c_str buf) = c_str buf :=
  c_str_of_notMem (zero_notMem_c_str buf)

/-! ## Buffers

A buffer is `written ++ rest`, and the next write is at `written.length`. -/

section Buffers

variable {written rest out : List UInt8}

theorem write_at_append (x c : UInt8) :
    write_at (written ++ x :: rest) written.length c = some (written ++ c :: rest) := by
  rw [write_at, if_pos (by simp), List.set_append_right _ _ (Nat.le_refl _), Nat.sub_self,
    List.set_cons_zero]

/-- Behind the end of the buffer. -/
theorem write_at_end (c : UInt8) : write_at written written.length c = none := by
  rw [write_at, if_neg (Nat.lt_irrefl _)]

/-- A write at the end of what has been written takes the first byte of the rest. -/
theorem write_at_append_eq_some {c : UInt8} :
    write_at (written ++ rest) written.length c = some out ↔
      rest ≠ [] ∧ out = (written ++ [c]) ++ rest.tail := by
  cases rest with
  | nil => simp [write_at]
  | cons x rest =>
    rw [write_at_append, Option.some.injEq, List.append_assoc, List.singleton_append,
      List.tail_cons, eq_comm]
    exact ⟨fun h => ⟨List.cons_ne_nil _ _, h⟩, And.right⟩

theorem copy_at_append_eq_some {bytes : List UInt8} :
    copy_at (written ++ rest) written.length bytes = some out ↔
      bytes.length ≤ rest.length ∧ out = written ++ bytes ++ rest.drop bytes.length := by
  have hdrop : (written ++ rest).drop (written.length + bytes.length) =
      rest.drop bytes.length := by
    rw [List.drop_append, List.drop_eq_nil_of_le (Nat.le_add_right _ _), List.nil_append,
      Nat.add_sub_cancel_left]
  rw [copy_at, List.take_left, hdrop]
  by_cases hle : bytes.length ≤ rest.length
  · rw [if_pos (by rw [List.length_append]; omega), Option.some.injEq, eq_comm]
    exact ⟨fun h => ⟨hle, h⟩, And.right⟩
  · rw [if_neg (by rw [List.length_append]; omega)]
    exact ⟨nofun, fun h => absurd h.1 hle⟩

end Buffers

/-- A string that is copied with a bound, into the front of a buffer. -/
theorem strlcpy_eq {buf string : List UInt8} {n : ℕ} (hn : 0 < n) (hbuf : n ≤ buf.length) :
    strlcpy buf string n =
      some ((c_str string).take (n - 1) ++
        0 :: buf.drop (((c_str string).take (n - 1)).length + 1)) := by
  have hlen : ((c_str string).take (n - 1) ++ [0]).length ≤ buf.length := by
    rw [List.length_append, List.length_take, List.length_singleton]
    omega
  rw [strlcpy, if_neg (Nat.ne_of_gt hn), copy_at, if_pos (by omega), List.take_zero,
    List.nil_append, Nat.zero_add, List.length_append, List.length_singleton, List.append_assoc,
    List.singleton_append]

/-- What such a copy holds. -/
theorem strlcpy_text {buf : List UInt8} (string : List UInt8) {n : ℕ} (hn : 0 < n)
    (hbuf : n ≤ buf.length) :
    ∃ out, strlcpy buf string n = some out ∧ c_str out = (c_str string).take (n - 1) :=
  ⟨_, strlcpy_eq hn hbuf, c_str_append_zero
    (fun hzero => zero_notMem_c_str string (List.mem_of_mem_take hzero)) _⟩

/-- A round of the swapping loop: the bytes at the two ends change places. -/
theorem reverse_between_swap (rounds : ℕ) (a m z : List UInt8) (x y : UInt8) :
    reverse_between (rounds + 1) (a ++ x :: (m ++ y :: z)) a.length (a.length + m.length + 1) =
      reverse_between rounds (a ++ y :: (m ++ x :: z)) (a.length + 1) (a.length + m.length) := by
  have hlast : (a ++ x :: m).length = a.length + m.length + 1 := by
    rw [List.length_append, List.length_cons, Nat.add_assoc]
  have hlast' : (a ++ y :: m).length = a.length + m.length + 1 := by
    rw [List.length_append, List.length_cons, Nat.add_assoc]
  have hget₀ : (a ++ x :: (m ++ y :: z))[a.length]? = some x := by
    rw [List.getElem?_append_right (Nat.le_refl _), Nat.sub_self, List.getElem?_cons_zero]
  have hget₁ : (a ++ x :: (m ++ y :: z))[a.length + m.length + 1]? = some y := by
    rw [← List.cons_append, ← List.append_assoc, ← hlast,
      List.getElem?_append_right (Nat.le_refl _), Nat.sub_self, List.getElem?_cons_zero]
  have hwrite₁ : write_at (a ++ y :: (m ++ y :: z)) (a.length + m.length + 1) x =
      some (a ++ y :: (m ++ x :: z)) := by
    rw [← List.cons_append, ← List.append_assoc, ← hlast', write_at_append, List.append_assoc,
      List.cons_append]
  rw [reverse_between, if_pos (by omega), hget₀, hget₁]
  simp only [Option.bind_eq_bind, Option.bind_some, write_at_append, hwrite₁,
    Nat.add_sub_cancel]

/-- The loop that swaps from both ends reverses what lies between them. The induction is on
the rounds; each takes one byte from either end. -/
theorem reverse_between_append (rounds : ℕ) (a m z : List UInt8)
    (h : m.length ≤ 2 * rounds + 1) :
    reverse_between rounds (a ++ (m ++ z)) a.length (a.length + m.length - 1) =
      some (a ++ (m.reverse ++ z)) := by
  induction rounds generalizing a m z with
  | zero =>
    match m, h with
    | [], _ => rfl
    | [x], _ => rfl
  | succ rounds ih =>
    match m with
    | [] => rw [reverse_between, if_neg (by simp), List.reverse_nil]
    | [x] => rw [reverse_between, if_neg (by simp), List.reverse_singleton]
    | x :: w :: m =>
      obtain ⟨m', y, hm⟩ : ∃ m' y, w :: m = m' ++ [y] :=
        ⟨_, _, (List.dropLast_append_getLast (List.cons_ne_nil w m)).symm⟩
      rw [hm] at h ⊢
      rw [List.length_cons, List.length_append, List.length_singleton] at h ⊢
      have hswap := reverse_between_swap rounds a m' z x y
      have hrest := ih (a ++ [y]) m' (x :: z) (by omega)
      rw [List.length_append, List.length_singleton, List.append_assoc, List.singleton_append,
        List.append_assoc, List.singleton_append] at hrest
      rw [show a.length + (m'.length + 1 + 1) - 1 = a.length + m'.length + 1 by omega,
        List.cons_append, List.append_assoc, List.singleton_append, hswap,
        show a.length + m'.length = a.length + 1 + m'.length - 1 by omega, hrest,
        List.reverse_cons, List.reverse_append, List.reverse_singleton, List.append_assoc,
        List.append_assoc, List.singleton_append, List.singleton_append]

/-! ## Digits -/

theorem digit_mod (n : ℕ) : digit (n % 10) = digit n := by
  rw [digit, digit, Nat.mod_mod]

theorem digit_ne_point (n : ℕ) : digit n ≠ char '.' := by
  have hall : ∀ k < 10, digit k ≠ char '.' := by decide +kernel
  rw [← digit_mod]
  exact hall _ (Nat.mod_lt n (by decide))

theorem digit_ne_zero (n : ℕ) : digit n ≠ 0 := by
  have hall : ∀ k < 10, digit k ≠ 0 := by decide +kernel
  rw [← digit_mod]
  exact hall _ (Nat.mod_lt n (by decide))

theorem digit_inj : ∀ x < 10, ∀ y < 10, digit x = digit y → x = y := by decide +kernel

/-- Only the digit 0 is a `0`. -/
theorem digit_eq_zero_char {x : ℕ} (h : x < 10) : digit x = char '0' ↔ x = 0 := by
  have hall : ∀ k < 10, digit k = char '0' ↔ k = 0 := by decide +kernel
  exact hall x h

/-! ## The digit loop of the token amounts -/

/-- What the loop writes from place `i` on, the last digit first: the digits of the
fraction that are still missing, the point, and the whole part. -/
def token_amount_tail (decimals i v : ℕ) : List UInt8 :=
  if i ≤ decimals then
    (Nat.digitsAppend 10 (decimals - i) (v % 10 ^ (decimals - i))).map digit ++
      char '.' :: (numeral 10 (v / 10 ^ (decimals - i))).map digit
  else (numeral 10 v).map digit

section Tail

variable {decimals i v : ℕ}

theorem token_amount_tail_lt (h : i < decimals) :
    token_amount_tail decimals i v = digit v :: token_amount_tail decimals (i + 1) (v / 10) := by
  obtain ⟨d, rfl⟩ : ∃ d, decimals = i + d + 1 := ⟨decimals - i - 1, by omega⟩
  rw [token_amount_tail, token_amount_tail, if_pos (by omega), if_pos (by omega),
    show i + d + 1 - i = d + 1 by omega, show i + d + 1 - (i + 1) = d by omega,
    digitsAppend_succ (by decide), List.map_cons, List.cons_append, Nat.pow_succ',
    Nat.mod_mul_right_mod, digit_mod, Nat.mod_mul_right_div_self, Nat.div_div_eq_div_mul]

theorem token_amount_tail_self :
    token_amount_tail decimals decimals v = char '.' :: (numeral 10 v).map digit := by
  rw [token_amount_tail, if_pos (Nat.le_refl _), Nat.sub_self, Nat.pow_zero, Nat.div_one,
    Nat.mod_one]
  rfl

theorem token_amount_tail_gt (h : decimals < i) :
    token_amount_tail decimals i v = (numeral 10 v).map digit := by
  rw [token_amount_tail, if_neg (by omega)]

end Tail

theorem numeral_map_digit (v : ℕ) :
    (numeral 10 v).map digit = digit v :: if v / 10 = 0 then [] else
      (numeral 10 (v / 10)).map digit := by
  rw [numeral_step (by decide), List.map_cons, digit_mod]
  split <;> rfl

/-- What a round writes: the point at its place, and a digit. -/
def token_amount_chunk (decimals i v : ℕ) : List UInt8 :=
  if i = decimals then [char '.', digit v] else [digit v]

/-- Go on, or return what has been written and where. -/
def token_amount_next (decimals outlen rounds : ℕ) (w r : List UInt8) (v : ℕ) :
    Option (List UInt8 × ℕ) :=
  if (v > 0 ∨ w.length < decimals + 1) ∧ w.length < outlen then
    token_amount_digits decimals outlen rounds (w ++ r) w.length v
  else some (w ++ r, w.length)

/-- A round of the loop: it writes what it has to at the end of what has been written, as
far as the buffer goes, and goes on with the rest of the number. -/
theorem token_amount_digits_round (decimals outlen rounds v : ℕ) (w r : List UInt8) :
    token_amount_digits decimals outlen (rounds + 1) (w ++ r) w.length v =
      if (token_amount_chunk decimals w.length v).length ≤ r.length then
        token_amount_next decimals outlen rounds (w ++ token_amount_chunk decimals w.length v)
          (r.drop (token_amount_chunk decimals w.length v).length) (v / 10)
      else none := by
  have hone : ∀ (w : List UInt8) (c : UInt8), w.length + 1 = (w ++ [c]).length := fun w c => by
    rw [List.length_append, List.length_singleton]
  have hdigit : UInt8.ofNat (v % 10) + char '0' = digit v := rfl
  rw [token_amount_digits, token_amount_chunk, hdigit]
  simp only [Option.bind_eq_bind]
  -- A round at the point writes two bytes and any other round one; each write is tried
  -- against what is left of the buffer.
  by_cases hi : w.length = decimals
  · rw [if_pos hi, if_pos hi]
    match r with
    | [] => rw [List.append_nil, write_at_end, if_neg (by simp)]; rfl
    | [x] =>
      rw [write_at_append, Option.map_some, Option.bind_some, List.append_cons, List.append_nil,
        hone w (char '.'), write_at_end, if_neg (by simp)]
      rfl
    | x :: y :: r =>
      have hroom : ([char '.', digit v] : List UInt8).length ≤ (x :: y :: r).length := by simp
      rw [if_pos hroom, write_at_append, Option.map_some, Option.bind_some, List.append_cons w,
        hone w (char '.'), write_at_append, Option.bind_some, hone _ (digit v),
        List.append_cons _ (digit v) r, List.append_assoc w]
      rfl
  · rw [if_neg hi, if_neg hi]
    match r with
    | [] => rw [List.append_nil, Option.bind_some, write_at_end, if_neg (by simp)]; rfl
    | x :: r =>
      have hroom : ([digit v] : List UInt8).length ≤ (x :: r).length := by simp
      rw [if_pos hroom, Option.bind_some, write_at_append, Option.bind_some, hone _ (digit v),
        List.append_cons w (digit v) r]
      rfl

theorem token_amount_chunk_length (decimals i v : ℕ) :
    (token_amount_chunk decimals i v).length = if i = decimals then 2 else 1 := by
  rw [token_amount_chunk]
  split <;> rfl

/-- What is to be written is what a round writes, and what is left then. -/
theorem token_amount_tail_round {decimals i : ℕ} (hi : i ≠ decimals + 1) (v : ℕ) :
    let c := token_amount_chunk decimals i v
    token_amount_tail decimals i v =
      c ++ if v / 10 > 0 ∨ i + c.length < decimals + 1 then
        token_amount_tail decimals (i + c.length) (v / 10) else [] := by
  intro c
  have hlen : c.length = if i = decimals then 2 else 1 := token_amount_chunk_length _ _ _
  have hwhole : (numeral 10 v).map digit = [digit v] ++ if v / 10 > 0 then
      (numeral 10 (v / 10)).map digit else [] := by
    rw [numeral_map_digit]
    by_cases hv : v / 10 = 0
    · rw [if_pos hv, if_neg (by omega), List.append_nil]
    · rw [if_neg hv, if_pos (by omega), List.singleton_append]
  rcases Nat.lt_trichotomy i decimals with hlt | rfl | hgt
  · -- a digit of the fraction
    rw [if_neg hlt.ne] at hlen
    have hc : c = [digit v] := if_neg hlt.ne
    rw [if_pos (by omega), hlen, hc, token_amount_tail_lt hlt, List.singleton_append]
  · -- the point and the last digit of the whole part
    rw [if_pos rfl] at hlen
    have hc : c = [char '.', digit v] := if_pos rfl
    rw [hlen, hc, token_amount_tail_self, token_amount_tail_gt (by omega), hwhole]
    by_cases hv : v / 10 > 0
    · rw [if_pos hv, if_pos (Or.inl hv)]
      rfl
    · rw [if_neg hv, if_neg (by omega)]
      rfl
  · rw [if_neg hgt.ne'] at hlen
    have hc : c = [digit v] := if_neg hgt.ne'
    rw [hlen, hc, token_amount_tail_gt hgt, token_amount_tail_gt (by omega), hwhole]
    by_cases hv : v / 10 > 0
    · rw [if_pos hv, if_pos (Or.inl hv)]
    · rw [if_neg hv, if_neg (by omega)]

/-- **The digit loop**: when it ends before the end of the buffer, it has written all of
the number. The induction is on the rounds, along which `w` grows. -/
theorem token_amount_digits_ok {decimals outlen rounds v i' : ℕ} {w r out' : List UInt8}
    (hi : w.length ≠ decimals + 1)
    (h : token_amount_digits decimals outlen rounds (w ++ r) w.length v = some (out', i'))
    (hlt : i' < outlen) :
    ∃ r', out' = w ++ token_amount_tail decimals w.length v ++ r' ∧
      i' = (w ++ token_amount_tail decimals w.length v).length := by
  induction rounds generalizing w r v with
  | zero => cases h
  | succ rounds ih =>
    rw [token_amount_digits_round] at h
    split at h
    case isFalse => cases h
    rw [token_amount_tail_round hi, ← List.append_assoc]
    have hlen := token_amount_chunk_length decimals w.length v
    rw [token_amount_next, List.length_append] at h
    split at h
    · rename_i hnext
      rw [← List.length_append] at h
      rw [if_pos hnext.1, ← List.length_append]
      refine ih ?_ h
      rw [List.length_append, hlen]
      split <;> omega
    · rename_i hend
      cases h
      rw [if_neg (by tauto), List.append_nil]
      exact ⟨_, rfl, List.length_append.symm⟩

/-! ## Token amounts -/

/-- Zeros at the end of the text are in front of its digits here. The loop stops at the
latest at the point. -/
theorem strip_trailing_zeros_reverse (digits rest : List UInt8)
    (h : digits.dropWhile (· = char '0') ≠ []) :
    strip_trailing_zeros (digits.reverse ++ rest) (digits.length - 1) =
      some ((digits.dropWhile (· = char '0')).length - 1) := by
  induction digits generalizing rest with
  | nil => exact absurd rfl h
  | cons c digits ih =>
    rw [List.reverse_cons, List.append_assoc, List.singleton_append, List.length_cons,
      Nat.add_sub_cancel]
    simp only [List.dropWhile_cons, decide_eq_true_eq] at h ⊢
    by_cases hc : c = char '0'
    · rw [if_pos hc] at h ⊢
      -- A zero is passed over: the loop goes on with the byte in front of it.
      have hrec := ih (c :: rest) h
      match digits with
      | [] => exact absurd rfl h
      | c' :: digits =>
        rw [← hrec, List.length_cons, strip_trailing_zeros, Nat.add_sub_cancel]
        have hlast : ((c' :: digits).reverse ++ c :: rest)[digits.length + 1]? = some c := by
          rw [List.getElem?_append_right (by simp)]
          simp
        rw [hlast, Option.bind_eq_bind, Option.bind_some, if_neg (by rw [not_not]; exact hc)]
    · rw [if_neg hc, List.length_cons, Nat.add_sub_cancel]
      match digits with
      | [] => rfl
      | c' :: digits =>
        have hlast : ((c' :: digits).reverse ++ c :: rest)[digits.length + 1]? = some c := by
          rw [List.getElem?_append_right (by simp)]
          simp
        rw [List.length_cons, strip_trailing_zeros, hlast, Option.bind_eq_bind, Option.bind_some,
          if_pos hc]

/-- The text of an amount: the number of whole tokens, and the fraction if there is one. -/
def amount_text (amount decimals : ℕ) : List UInt8 :=
  (fixed_point digit (char '.') 10 decimals amount).reverse

theorem dropWhile_map_digit {xs : List ℕ} (h : ∀ x ∈ xs, x < 10) :
    (xs.map digit).dropWhile (· = char '0') = (xs.dropWhile (· = 0)).map digit := by
  induction xs with
  | nil => rfl
  | cons x xs ih =>
    simp only [List.map_cons, List.dropWhile_cons, decide_eq_true_eq,
      digit_eq_zero_char (h x List.mem_cons_self)]
    split
    · exact ih fun y hy => h y (List.mem_cons_of_mem _ hy)
    · rfl

/-- What the digit loop has written, without its zeros. -/
theorem token_amount_tail_strip (decimals v : ℕ) :
    (token_amount_tail decimals 0 v).dropWhile (· = char '0') =
      (fraction 10 decimals (v % 10 ^ decimals)).map digit ++
        char '.' :: (numeral 10 (v / 10 ^ decimals)).map digit := by
  have hpoint : ¬char '.' = char '0' := by decide
  rw [token_amount_tail, if_pos (Nat.zero_le _), Nat.sub_zero, List.dropWhile_append,
    dropWhile_map_digit fun x hx => Nat.lt_of_mem_digitsAppend (by decide) _ x hx, ← fraction]
  split
  · rename_i hempty
    rw [List.isEmpty_iff] at hempty
    simp only [List.dropWhile_cons, decide_eq_true_eq, if_neg hpoint, hempty, List.nil_append]
  · rfl

/-- Stripping, in terms of what is left when the zeros are gone. -/
theorem token_amount_strip_reverse {digits left : List UInt8} {c : UInt8}
    (h : digits.dropWhile (· = char '0') = c :: left) (rest : List UInt8) :
    (∃ rest', digits.reverse ++ rest = left.reverse ++ c :: rest') ∧
      token_amount_strip (digits.reverse ++ rest) digits.length =
        some (if c = char '.' then left.length else left.length + 1) := by
  have hsplit : digits.takeWhile (· = char '0') ++ c :: left = digits := by
    rw [← h, List.takeWhile_append_dropWhile]
  have hout : digits.reverse ++ rest =
      left.reverse ++ c :: ((digits.takeWhile (· = char '0')).reverse ++ rest) := by
    conv_lhs => rw [← hsplit]
    simp
  have hpos : ¬digits.length = 0 := by
    rw [← hsplit, List.length_append, List.length_cons]
    omega
  have hstrip := strip_trailing_zeros_reverse digits rest (by rw [h]; exact List.cons_ne_nil _ _)
  have hlast : (digits.reverse ++ rest)[left.length]? = some c := by
    rw [hout, List.getElem?_append_right (by rw [List.length_reverse]), List.length_reverse,
      Nat.sub_self, List.getElem?_cons_zero]
  refine ⟨⟨_, hout⟩, ?_⟩
  rw [token_amount_strip, if_neg hpos, hstrip, h, List.length_cons, Nat.add_sub_cancel,
    Option.map_some, Option.bind_eq_bind, Option.bind_some, Nat.add_sub_cancel, hlast,
    Option.bind_eq_bind, Option.bind_some]
  rfl

/-- Zeros and then the point are stripped: what is left is the text of the amount. -/
theorem token_amount_strip_tail (decimals v : ℕ) (rest : List UInt8) :
    (∃ rest', (token_amount_tail decimals 0 v).reverse ++ rest =
      amount_text v decimals ++ rest') ∧
      token_amount_strip ((token_amount_tail decimals 0 v).reverse ++ rest)
        (token_amount_tail decimals 0 v).length = some (amount_text v decimals).length := by
  have hleft := token_amount_tail_strip decimals v
  rw [amount_text, fixed_point, List.length_reverse]
  cases hfrac : fraction 10 decimals (v % 10 ^ decimals) with
  | nil =>
    -- no fraction: the point goes too
    rw [hfrac, List.map_nil, List.nil_append] at hleft
    obtain ⟨⟨rest', hout⟩, hstrip⟩ := token_amount_strip_reverse hleft rest
    rw [if_pos rfl] at hstrip
    exact ⟨⟨_, hout⟩, hstrip⟩
  | cons x xs =>
    rw [hfrac, List.map_cons, List.cons_append] at hleft
    obtain ⟨⟨rest', hout⟩, hstrip⟩ := token_amount_strip_reverse hleft rest
    rw [if_neg (digit_ne_point x)] at hstrip
    refine ⟨⟨rest', ?_⟩, hstrip⟩
    rw [hout]
    simp

/-- What the loop has written is reversed and stripped to the text of the amount. -/
theorem token_amount_digits_text {decimals outlen rounds v i : ℕ} {out out₁ : List UInt8}
    (h : token_amount_digits decimals outlen rounds out 0 v = some (out₁, i)) (hlt : i < outlen) :
    ∃ rest, (amount_text v decimals ++ rest).length = out₁.length ∧
      reverse_between i out₁ 0 (i - 1) = some (amount_text v decimals ++ rest) ∧
      token_amount_strip (amount_text v decimals ++ rest) i =
        some (amount_text v decimals).length := by
  obtain ⟨rest, rfl, rfl⟩ := token_amount_digits_ok (w := []) (Nat.succ_ne_zero _).symm h hlt
  rw [List.length_nil, List.nil_append]
  have hrev := reverse_between_append (token_amount_tail decimals 0 v).length []
    (token_amount_tail decimals 0 v) rest (by omega)
  obtain ⟨⟨rest', hout⟩, hstrip⟩ := token_amount_strip_tail decimals v rest
  rw [List.length_nil, Nat.zero_add, List.nil_append, List.nil_append] at hrev
  have hlen := congrArg List.length hout
  rw [List.length_append, List.length_reverse, ← List.length_append] at hlen
  rw [hout] at hrev hstrip
  exact ⟨rest', hlen.symm, hrev, hstrip⟩

/-- What comes behind the number. -/
def amount_suffix : Option (List UInt8) → List UInt8
  | some asset => char ' ' :: asset
  | none => []

/-- A string that an `int` can count. -/
def CountedString (asset : List UInt8) : Prop := 0 ∉ asset ∧ asset.length ≤ INT_MAX

theorem CountedString.length {asset : List UInt8} (h : CountedString asset) :
    to_int (c_str asset).length = asset.length ∧
      to_size ((asset.length : ℤ) + 1) = asset.length + 1 := by
  obtain ⟨hzero, hmax⟩ := h
  have hint : INT_MAX + 1 ≤ SIZE_MAX := by decide
  rw [c_str_of_notMem hzero, to_int_natCast hmax]
  exact ⟨rfl, to_size_natCast (n := asset.length + 1) (by omega)⟩

/-- The length of a string goes through an `int` and comes back, with one added. -/
theorem to_size_to_int_succ {n : ℕ} (h : n < SIZE_MAX) : to_size (to_int n + 1) = n + 1 := by
  have hsize : SIZE_MAX = 4294967295 := rfl
  rw [hsize] at h
  rw [to_size, to_int, Int.bmod, hsize]
  split <;> omega

/-- The end of the text, for every string that can be an asset. -/
theorem token_amount_end_eq {asset : Option (List UInt8)} {text rest out' : List UInt8}
    {outlen : ℕ} (hasset : ∀ a ∈ asset, 0 ∉ a ∧ a.length < SIZE_MAX)
    (h : token_amount_end asset (text ++ rest) text.length outlen = some (0, out')) :
    ∃ rest', out' = text ++ amount_suffix asset ++ 0 :: rest' := by
  cases asset with
  | none =>
    rw [token_amount_end, Option.bind_eq_bind, Option.bind_eq_some_iff] at h
    obtain ⟨out, hwrite, h⟩ := h
    cases h
    obtain ⟨-, rfl⟩ := write_at_append_eq_some.mp hwrite
    refine ⟨rest.tail, ?_⟩
    rw [List.append_assoc, List.singleton_append, amount_suffix, List.append_nil]
  | some asset =>
    obtain ⟨hzero, hmax⟩ := hasset asset rfl
    rw [token_amount_end] at h
    dsimp only at h
    rw [c_str_of_notMem hzero, to_size_to_int_succ hmax] at h
    split at h
    · cases h
    split at h
    · cases h
    · rw [Option.bind_eq_bind, Option.bind_eq_some_iff] at h
      obtain ⟨out₁, hwrite, h⟩ := h
      rw [Option.bind_eq_some_iff] at h
      obtain ⟨out₂, hcopy, h⟩ := h
      cases h
      obtain ⟨-, rfl⟩ := write_at_append_eq_some.mp hwrite
      -- `strncpy` is given one byte more than the asset has, and fills it with the terminator.
      have hbytes : (c_str asset).take (asset.length + 1) = asset := by
        rw [c_str_of_notMem hzero, List.take_of_length_le (Nat.le_succ _)]
      have hlen : text.length + 1 = (text ++ [char ' ']).length := by
        rw [List.length_append, List.length_singleton]
      rw [strncpy, hbytes, Nat.add_sub_cancel_left, List.replicate_one, hlen,
        copy_at_append_eq_some] at hcopy
      obtain ⟨-, rfl⟩ := hcopy
      refine ⟨rest.tail.drop (asset ++ [0]).length, ?_⟩
      simp only [amount_suffix, List.append_assoc, List.cons_append, List.nil_append]

theorem zero_notMem_amount_text (amount decimals : ℕ) : 0 ∉ amount_text amount decimals := by
  have hdigits : ∀ xs : List ℕ, 0 ∉ xs.map digit := by
    intro xs h
    obtain ⟨x, -, hx⟩ := List.mem_map.mp h
    exact digit_ne_zero x hx
  rw [amount_text, List.mem_reverse, fixed_point]
  cases fraction 10 decimals (amount % 10 ^ decimals) with
  | nil => exact hdigits _
  | cons x xs =>
    have hx := hdigits (x :: xs)
    have hwhole := hdigits (numeral 10 (amount / 10 ^ decimals))
    simp only [List.mem_append, List.mem_cons, not_or]
    rw [List.map_cons, List.mem_cons, not_or] at hx
    exact ⟨hx, by decide, hwhole⟩

theorem zero_notMem_amount_suffix {asset : Option (List UInt8)} (h : ∀ a ∈ asset, 0 ∉ a) :
    0 ∉ amount_suffix asset := by
  cases asset with
  | none => exact List.not_mem_nil
  | some asset =>
    rw [amount_suffix, List.mem_cons, not_or]
    exact ⟨by decide, h asset rfl⟩

/-- **A token amount that is printed** is the number with its point, the asset behind it, and a
terminator. -/
theorem print_token_amount_eq {amount : UInt64} {asset : Option (List UInt8)}
    {decimals : UInt8} {out out' : List UInt8} {out_length : ℕ}
    (hasset : ∀ a ∈ asset, 0 ∉ a ∧ a.length < SIZE_MAX)
    (h : print_token_amount amount asset decimals out out_length = some (0, out')) :
    ∃ rest, out' =
      amount_text amount.toNat decimals.toNat ++ amount_suffix asset ++ 0 :: rest := by
  rw [print_token_amount] at h
  simp only [Option.bind_eq_bind] at h
  split at h
  · cases h
  rw [Option.bind_eq_some_iff] at h
  obtain ⟨⟨out₁, i⟩, hwrite, h⟩ := h
  split at h
  · cases h
  rename_i hlt
  rw [Option.bind_eq_some_iff] at h
  obtain ⟨out₂, hreverse, h⟩ := h
  rw [Option.bind_eq_some_iff] at h
  obtain ⟨i₂, hstrip, h⟩ := h
  rw [token_amount_write] at hwrite
  split at hwrite
  · obtain ⟨rest, -, hreverse', hstrip'⟩ :=
      token_amount_digits_text hwrite (Nat.lt_of_not_ge hlt)
    rw [hreverse'] at hreverse
    cases hreverse
    rw [hstrip'] at hstrip
    cases hstrip
    exact token_amount_end_eq hasset h
  · -- a buffer with no room for a digit
    cases hwrite
    rw [token_amount_strip, if_pos rfl] at hstrip
    cases hstrip

/-- The string that such a buffer holds. -/
theorem print_token_amount_text {amount : UInt64} {asset : Option (List UInt8)}
    {decimals : UInt8} {out out' : List UInt8} {out_length : ℕ}
    (hasset : ∀ a ∈ asset, 0 ∉ a ∧ a.length < SIZE_MAX)
    (h : print_token_amount amount asset decimals out out_length = some (0, out')) :
    c_str out' = amount_text amount.toNat decimals.toNat ++ amount_suffix asset := by
  obtain ⟨rest, rfl⟩ := print_token_amount_eq hasset h
  refine c_str_append_zero ?_ rest
  rw [List.mem_append, not_or]
  exact ⟨zero_notMem_amount_text _ _, zero_notMem_amount_suffix fun a ha => (hasset a ha).1⟩

/-- Different amounts have different texts. -/
theorem amount_text_injective (decimals : ℕ) :
    Function.Injective fun amount => amount_text amount decimals := by
  intro m n h
  have hpoint : ∀ x < 10, digit x ≠ char '.' := fun x _ => digit_ne_point x
  exact fixed_point_injective (by decide) digit_inj hpoint (List.reverse_injective h)

theorem print_amount_text {amount : UInt64} {out out' : List UInt8} {out_length : ℕ}
    (h : print_amount amount out out_length = some (0, out')) :
    c_str out' = amount_text amount.toNat RENEC_DECIMALS.toNat ++ c_string " RENEC" := by
  refine print_token_amount_text ?_ h
  intro a ha
  obtain rfl : c_string "RENEC" = a := Option.some.inj ha
  exact ⟨by decide +kernel, by decide +kernel⟩

/-- Two amounts that are printed as the same text are the same amount. -/
theorem print_amount_inj {amount amount' : UInt64} {out out' buf buf' : List UInt8}
    {out_length out_length' : ℕ} (h : print_amount amount out out_length = some (0, buf))
    (h' : print_amount amount' out' out_length' = some (0, buf')) (hsame : c_str buf = c_str buf') :
    amount = amount' := by
  rw [print_amount_text h, print_amount_text h', List.append_cancel_right_eq] at hsame
  exact UInt64.toNat_inj.mp (amount_text_injective _ hsame)

/-! ## Strings -/

/-- What `strncpy` leaves at the front of a buffer. -/
theorem strncpy_zero_eq_some {string out out' : List UInt8} {n : ℕ} :
    strncpy out 0 string n = some out' ↔ n ≤ out.length ∧
      out' = (c_str string).take n ++ List.replicate (n - (c_str string).length) 0 ++
        out.drop n := by
  have hcount : n - ((c_str string).take n).length = n - (c_str string).length := by
    rw [List.length_take]
    omega
  have hlen : ((c_str string).take n ++
      List.replicate (n - (c_str string).length) (0 : UInt8)).length = n := by
    rw [List.length_append, List.length_take, List.length_replicate]
    omega
  rw [strncpy, hcount]
  have hcopy : copy_at ([] ++ out) ([] : List UInt8).length ((c_str string).take n ++
      List.replicate (n - (c_str string).length) 0) = some out' ↔ _ := copy_at_append_eq_some
  rw [hlen] at hcopy
  exact hcopy

/-- What fits in `n` bytes with its terminator: the whole string, or a part of it with the
mark of truncation behind it. -/
def truncated (n : ℕ) (string : List UInt8) : List UInt8 :=
  if string.length < n then string
  else if 2 ≤ n then string.take (n - 2) ++ [char '~']
  else []

/-- The mark is put over the end of a text that fills the buffer. -/
theorem signal_truncation_eq {text : List UInt8} (htext : 0 ∉ text) (hlen : text ≠ [])
    (rest : List UInt8) :
    ∃ out', signal_truncation (text ++ rest) text.length = some (1, out') ∧
      c_str out' = if 2 ≤ text.length then text.take (text.length - 2) ++ [char '~'] else [] := by
  -- Two bytes at the end are replaced: the mark and the terminator.
  match h : text.reverse with
  | [] => exact absurd (List.reverse_eq_nil_iff.mp h) hlen
  | [x] =>
    rw [List.reverse_eq_iff, List.reverse_singleton] at h
    subst h
    exact ⟨0 :: rest, rfl, rfl⟩
  | x :: y :: front =>
    rw [List.reverse_eq_iff, List.reverse_cons, List.reverse_cons] at h
    subst h
    set w := front.reverse
    have hwrite₁ : write_at (w ++ [y] ++ [x] ++ rest) (w ++ [y]).length 0 =
        some (w ++ [y] ++ 0 :: rest) := by
      rw [List.append_assoc (w ++ [y]), List.singleton_append, write_at_append]
    have hwrite₂ : write_at (w ++ [y] ++ 0 :: rest) w.length (char '~') =
        some (w ++ char '~' :: 0 :: rest) := by
      rw [List.append_assoc, List.singleton_append, write_at_append]
    have hlast : (w ++ [y] ++ [x]).length - 1 = (w ++ [y]).length := by simp
    have hlast' : (w ++ [y] ++ [x]).length - 2 = w.length := by simp
    have hmark : 0 ∉ w ++ [char '~'] := by
      simp only [List.mem_append, List.mem_singleton, not_or] at htext ⊢
      exact ⟨htext.1.1, by decide⟩
    refine ⟨w ++ char '~' :: 0 :: rest, ?_, ?_⟩
    · rw [signal_truncation, if_neg (by simp), hlast, hlast', hwrite₁, Option.bind_eq_bind,
        Option.bind_some, if_pos (by simp), hwrite₂]
      rfl
    · rw [List.append_cons, c_str_append_zero hmark, hlast', if_pos (by simp),
        List.append_assoc w, List.take_left]

/-- **A string that is printed** is what the buffer holds as far as it fits, and the return
code says whether it does. -/
theorem print_string_text {string out out' : List UInt8} {out_length rc : ℕ}
    (h : print_string string out out_length = some (rc, out')) :
    c_str out' = truncated out_length (c_str string) ∧
      (rc = 0 ↔ (c_str string).length < out_length) := by
  rw [print_string] at h
  simp only [Option.bind_eq_bind] at h
  rw [Option.bind_eq_some_iff] at h
  obtain ⟨out₁, hcopy, h⟩ := h
  obtain ⟨-, rfl⟩ := strncpy_zero_eq_some.mp hcopy
  have hzero := zero_notMem_c_str string
  split at h
  · cases h
  rename_i hpos
  rw [Option.bind_eq_some_iff] at h
  obtain ⟨last, hlast, h⟩ := h
  by_cases hfits : (c_str string).length < out_length
  · -- the rest is filled with zeros
    obtain ⟨k, hk⟩ : ∃ k, out_length - (c_str string).length = k + 1 :=
      ⟨out_length - (c_str string).length - 1, by omega⟩
    rw [List.take_of_length_le hfits.le, hk] at hlast h
    have hend : last = 0 := by
      rw [List.append_assoc, List.getElem?_append_right (by omega),
        List.getElem?_append_left (by rw [List.length_replicate]; omega)] at hlast
      exact (List.eq_of_mem_replicate (List.mem_of_getElem? hlast))
    rw [if_neg (not_not.mpr hend)] at h
    cases h
    rw [truncated, if_pos hfits, List.replicate_succ, List.append_assoc, List.cons_append,
      c_str_append_zero hzero]
    exact ⟨rfl, iff_of_true rfl hfits⟩
  · have hlen : ((c_str string).take out_length).length = out_length := by
      rw [List.length_take]
      omega
    have htext : 0 ∉ (c_str string).take out_length := fun h => hzero (List.mem_of_mem_take h)
    rw [Nat.sub_eq_zero_of_le (Nat.not_lt.mp hfits), List.replicate_zero, List.append_nil]
      at hlast h
    have hend : last ≠ 0 := by
      rintro rfl
      rw [List.getElem?_append_left (by omega)] at hlast
      exact htext (List.mem_of_getElem? hlast)
    rw [if_pos hend] at h
    obtain ⟨out₂, hsignal, htext₂⟩ := signal_truncation_eq htext
      (List.ne_nil_of_length_pos (by omega)) (out.drop out_length)
    rw [hlen] at hsignal htext₂
    rw [hsignal] at h
    cases h
    rw [htext₂, truncated, if_neg hfits, List.take_take, Nat.min_eq_left (Nat.sub_le _ _)]
    exact ⟨rfl, iff_of_false Nat.one_ne_zero hfits⟩

end RenecLedger
