/-
Where a token amount leaves its buffer.

The digit loop checks its place once a round, and a round writes one byte or, with the point,
two. `token_amount_digits_run` follows the loop to its end: it leaves the buffer exactly when
the point takes the last byte. The rules on `print_token_amount` say from this how it ends, and
`token_amount_in_bounds_iff` for which arguments every access is in the buffer.
-/
import RenecLedger.TextSpec

set_option autoImplicit false

open NumeralLib

namespace RenecLedger

/-! ## The digit loop to its end -/

/-- The digits of an amount, as many as there are behind the point and at least one in front of
it, with the point. -/
def amount_width (amount decimals : ℕ) : ℕ :=
  decimals + 1 + (numeral 10 (amount / 10 ^ decimals)).length

theorem token_amount_tail_length (decimals v : ℕ) :
    (token_amount_tail decimals 0 v).length = amount_width v decimals := by
  have hfraction : v % 10 ^ decimals < 10 ^ decimals := Nat.mod_lt _ (Nat.pow_pos (by decide))
  rw [token_amount_tail, if_pos (Nat.zero_le _), Nat.sub_zero, List.length_append,
    List.length_map, Nat.length_digitsAppend (by decide) _ hfraction, List.length_cons,
    List.length_map, amount_width]
  omega

theorem amount_text_length (amount decimals : ℕ) :
    (amount_text amount decimals).length =
      (fraction 10 decimals (amount % 10 ^ decimals)).length +
        (if fraction 10 decimals (amount % 10 ^ decimals) = [] then 0 else 1) +
          (numeral 10 (amount / 10 ^ decimals)).length := by
  rw [amount_text, List.length_reverse, fixed_point_length]

/-- Stripping makes the text no longer. -/
theorem amount_text_length_le (amount decimals : ℕ) :
    (amount_text amount decimals).length ≤ amount_width amount decimals := by
  have hmod : amount % 10 ^ decimals < 10 ^ decimals := Nat.mod_lt _ (Nat.pow_pos (by decide))
  have hfraction : (fraction 10 decimals (amount % 10 ^ decimals)).length ≤ decimals := by
    rw [fraction_length_le_iff (by decide) hmod, Nat.sub_self]
    exact one_dvd _
  rw [amount_text_length, amount_width]
  split <;> omega

/-- A loop that stops inside of the buffer has nothing left to write. -/
theorem stops_inside_iff {w c rest : List UInt8} {outlen : ℕ} {more : Prop} [Decidable more]
    (h : ¬(more ∧ (w ++ c).length < outlen)) :
    (w ++ c).length < outlen ↔ (w ++ (c ++ if more then rest else [])).length < outlen := by
  by_cases hlt : (w ++ c).length < outlen
  · have hdone : ¬more := fun hmore => h ⟨hmore, hlt⟩
    rw [if_neg hdone, List.append_nil]
  · have hprefix := (List.prefix_append (w ++ c) (if more then rest else [])).length_le
    rw [← List.append_assoc]
    exact iff_of_false hlt (by omega)

/-- The loop runs to its end, unless the point is due at the last byte: then the digit behind
it is written out of the buffer. It ends before the end of the buffer if all of the number has
been written there. The induction is on the rounds. -/
theorem token_amount_digits_run {decimals outlen rounds v : ℕ} {w r : List UInt8}
    (hi : w.length ≠ decimals + 1) (hlen : (w ++ r).length = outlen) (hr : r ≠ [])
    (hrounds : r.length ≤ rounds) :
    if decimals + 1 = outlen ∧ w.length ≤ decimals then
      token_amount_digits decimals outlen rounds (w ++ r) w.length v = none
    else ∃ out' i',
      token_amount_digits decimals outlen rounds (w ++ r) w.length v = some (out', i') ∧
        out'.length = outlen ∧
        (i' < outlen ↔ (w ++ token_amount_tail decimals w.length v).length < outlen) := by
  have hpos : 0 < r.length := List.length_pos_of_ne_nil hr
  rw [List.length_append] at hlen
  induction rounds generalizing w r v with
  | zero => omega
  | succ rounds ih =>
    have hchunk := token_amount_chunk_length decimals w.length v
    set c := token_amount_chunk decimals w.length v with hc
    have htail := token_amount_tail_round hi v
    dsimp only at htail
    rw [← hc] at htail
    rw [token_amount_digits_round, ← hc]
    by_cases hroom : c.length ≤ r.length
    · rw [if_pos hroom, token_amount_next]
      have hwritten : (w ++ c).length = w.length + c.length := List.length_append
      have hleft : (r.drop c.length).length = r.length - c.length := List.length_drop
      have hsome : 0 < c.length := by
        split at hchunk <;> omega
      have hcond : decimals + 1 = outlen ∧ w.length ≤ decimals ↔
          decimals + 1 = outlen ∧ (w ++ c).length ≤ decimals := by
        split at hchunk <;> omega
      by_cases hnext : (v / 10 > 0 ∨ (w ++ c).length < decimals + 1) ∧ (w ++ c).length < outlen
      · have hne : (w ++ c).length ≠ decimals + 1 := by
          split at hchunk <;> omega
        have hnonempty : 0 < (r.drop c.length).length := by omega
        have hrest : r.drop c.length ≠ [] := List.ne_nil_of_length_pos hnonempty
        have hrec := ih (v := v / 10) hne (by omega) hrest (by omega) hnonempty
        rw [← hwritten, if_pos hnext.1] at htail
        rw [if_pos hnext, htail, ← List.append_assoc]
        simp only [hcond]
        exact hrec
      · rw [if_neg hnext]
        have hfits : ¬(decimals + 1 = outlen ∧ (w ++ c).length ≤ decimals) := by omega
        rw [if_neg (hcond.not.mpr hfits)]
        refine ⟨_, _, rfl, by rw [List.length_append]; omega, ?_⟩
        rw [htail, ← hwritten]
        exact stops_inside_iff hnext
    · -- the point is written, and there is no byte for the digit
      have hpoint : w.length = decimals := by
        by_contra hne
        rw [if_neg hne] at hchunk
        omega
      rw [if_pos hpoint] at hchunk
      rw [if_neg hroom, if_pos (by omega)]

/-! ## The end of the text -/

/-- What `strncpy` writes, cut off or filled up, has the length it is given. -/
theorem strncpy_length (string : List UInt8) (n : ℕ) :
    ((c_str string).take n ++
      List.replicate (n - ((c_str string).take n).length) (0 : UInt8)).length = n := by
  rw [List.length_append, List.length_replicate, List.length_take]
  omega

theorem strncpy_isSome {buf string : List UInt8} {i n : ℕ} :
    (strncpy buf i string n).isSome ↔ i + n ≤ buf.length := by
  rw [strncpy, copy_at, strncpy_length]
  split
  · rename_i hle
    exact iff_of_true rfl hle
  · rename_i hle
    exact iff_of_false Bool.false_ne_true hle

/-- The length of a string as an `int` is enough to count the text with it. -/
def CountsText (length : ℕ) (asset : List UInt8) : Prop :=
  -1 ≤ to_int (c_str asset).length ∧ length + to_int (c_str asset).length + 2 ≤ INT_MAX

/-- A length of 2^31 or more is negative as an `int`, and then it is a huge number of bytes to
copy. -/
theorem to_size_of_negative {n : ℕ} (h : to_int n < -1) : INT_MAX < to_size (to_int n + 1) := by
  have hmax : INT_MAX = 2147483647 := rfl
  have hsize : SIZE_MAX = 4294967295 := rfl
  have hlow : -(2147483648 : ℤ) ≤ to_int n := by
    have hbmod : -(((SIZE_MAX + 1 : ℕ) : ℤ) / 2) ≤ Int.bmod n (SIZE_MAX + 1) :=
      Int.le_bmod (by omega)
    rw [hsize] at hbmod
    exact hbmod
  rw [to_size, hsize]
  omega

theorem to_size_of_nonneg {i : ℤ} (h : 0 ≤ i) (hmax : i ≤ INT_MAX + 1) : (to_size i : ℤ) = i := by
  have hint : INT_MAX + 1 ≤ SIZE_MAX := by decide
  obtain ⟨n, rfl⟩ := Int.eq_ofNat_of_zero_le h
  rw [to_size_natCast (by omega)]

/-- The end of the text, when there is a byte left for its terminator. -/
theorem token_amount_end_isSome {asset : Option (List UInt8)} {text rest : List UInt8}
    (hrest : rest ≠ []) (hmax : (text ++ rest).length ≤ INT_MAX) :
    (token_amount_end asset (text ++ rest) text.length (text ++ rest).length).isSome ↔
      ∀ a ∈ asset, CountsText text.length a := by
  obtain ⟨x, tail, rfl⟩ := List.exists_cons_of_ne_nil hrest
  have hlen : (text ++ x :: tail).length = text.length + tail.length + 1 := by
    rw [List.length_append, List.length_cons, Nat.add_assoc]
  cases asset with
  | none =>
    rw [token_amount_end, write_at_append]
    exact iff_of_true rfl fun a ha => absurd ha (Option.not_mem_none a)
  | some asset =>
    have hall : (∀ a ∈ some asset, CountsText text.length a) ↔ CountsText text.length asset := by
      simp only [Option.mem_def, Option.some.injEq, forall_eq']
    rw [hall, CountsText, token_amount_end]
    dsimp only
    set k := to_int (c_str asset).length with hk
    -- The sum of the space check is an `int`, and above `INT_MAX` it is undefined.
    by_cases hsum : (text.length : ℤ) + 1 + k + 1 > INT_MAX
    · rw [if_pos hsum]
      refine iff_of_false Bool.false_ne_true ?_
      rintro ⟨-, hle⟩
      omega
    rw [if_neg hsum]
    by_cases hspace : (text.length : ℤ) + 1 + k + 1 > (text ++ x :: tail).length
    · rw [if_pos hspace]
      exact iff_of_true rfl ⟨by omega, by omega⟩
    rw [if_neg hspace, write_at_append, Option.bind_eq_bind, Option.bind_some]
    have hcopied : ∀ copied : Option (List UInt8),
        (copied.bind fun out => pure (0, out) : PrintResult).isSome = copied.isSome := by
      intro copied
      cases copied <;> rfl
    have hlen' : (text ++ char ' ' :: tail).length = text.length + tail.length + 1 := by
      rw [List.length_append, List.length_cons, Nat.add_assoc]
    rw [hcopied, strncpy_isSome]
    -- A negative length passes the space check and becomes a huge `size_t` for `strncpy`.
    by_cases hneg : k < -1
    · have hhuge := to_size_of_negative hneg
      rw [← hk] at hhuge
      refine iff_of_false (fun hcopy => ?_) fun h => absurd h.1 (by omega)
      rw [hlen'] at hcopy
      omega
    · have hcopy := to_size_of_nonneg (by omega : 0 ≤ k + 1) (by omega)
      rw [hlen']
      exact iff_of_true (by omega) ⟨by omega, by omega⟩

/-! ## How `print_token_amount` ends -/

/-- The whole loop, in a buffer with room for a digit. -/
theorem token_amount_write_run (amount : UInt64) (decimals : UInt8) {out : List UInt8}
    (hpos : 2 ≤ out.length) :
    if decimals.toNat + 1 = out.length then
      token_amount_write decimals.toNat out.length out amount.toNat = none
    else ∃ out' i, token_amount_write decimals.toNat out.length out amount.toNat = some (out', i) ∧
      out'.length = out.length ∧
        (i < out.length ↔ amount_width amount.toNat decimals.toNat < out.length) := by
  have hout : out ≠ [] := List.ne_nil_of_length_pos (by omega)
  have hdigits := token_amount_digits_run (w := []) (v := amount.toNat)
    (Nat.succ_ne_zero decimals.toNat).symm rfl hout (Nat.le_refl _)
  have hroom : 0 < out.length - 1 := by omega
  rw [token_amount_write, if_pos hroom, ← token_amount_tail_length]
  rw [List.nil_append, List.nil_append, List.length_nil] at hdigits
  simp only [Nat.zero_le, and_true] at hdigits
  exact hdigits

theorem token_amount_write_run_of_ne (amount : UInt64) (decimals : UInt8) {out : List UInt8}
    (hpos : 2 ≤ out.length) (hpoint : decimals.toNat + 1 ≠ out.length) :
    ∃ out' i, token_amount_write decimals.toNat out.length out amount.toNat = some (out', i) ∧
      out'.length = out.length ∧
        (i < out.length ↔ amount_width amount.toNat decimals.toNat < out.length) := by
  have hwrite := token_amount_write_run amount decimals hpos
  rw [if_neg hpoint] at hwrite
  exact hwrite

section Ends

variable (amount : UInt64) (asset : Option (List UInt8)) (decimals : UInt8) {out : List UInt8}

/-- What follows the digit loop. -/
theorem print_token_amount_written {out₁ : List UInt8} {i : ℕ} (hmax : out.length ≤ INT_MAX)
    (hwrite : token_amount_write decimals.toNat out.length out amount.toNat = some (out₁, i)) :
    print_token_amount amount asset decimals out out.length =
      if i ≥ out.length then some (1, out₁)
      else (reverse_between i out₁ 0 (i - 1)).bind fun out₂ =>
        (token_amount_strip out₂ i).bind fun i => token_amount_end asset out₂ i out.length := by
  rw [print_token_amount, if_neg (by omega), hwrite]
  rfl

/-- No buffer, or one whose length is not an `int`. -/
theorem print_token_amount_refused (h : out.length = 0 ∨ INT_MAX < out.length) :
    print_token_amount amount asset decimals out out.length = some (1, out) := by
  rcases h with h | h
  · have hwrite :
        token_amount_write decimals.toNat out.length out amount.toNat = some (out, 0) := by
      rw [token_amount_write, if_neg (by omega)]
    rw [print_token_amount_written amount asset decimals (by omega) hwrite, if_pos (by omega)]
  · rw [print_token_amount, if_pos h]
    rfl

/-- Without room for a digit, the byte in front of the buffer is read. -/
theorem print_token_amount_one (h : out.length = 1) :
    print_token_amount amount asset decimals out out.length = none := by
  have hmax : out.length ≤ INT_MAX := by
    rw [h]
    decide
  have hwrite : token_amount_write decimals.toNat out.length out amount.toNat = some (out, 0) := by
    rw [token_amount_write, if_neg (by omega)]
  rw [print_token_amount_written amount asset decimals hmax hwrite, if_neg (by omega),
    reverse_between, Option.bind_some, token_amount_strip, if_pos rfl, Option.bind_none]

variable (hpos : 2 ≤ out.length) (hmax : out.length ≤ INT_MAX)

include hpos hmax

/-- The point is due at the last byte. -/
theorem print_token_amount_point (h : decimals.toNat + 1 = out.length) :
    print_token_amount amount asset decimals out out.length = none := by
  have hwrite := token_amount_write_run amount decimals hpos
  rw [if_pos h] at hwrite
  rw [print_token_amount, if_neg (by omega), hwrite]
  rfl

/-- The digits do not fit. -/
theorem print_token_amount_wide (hpoint : decimals.toNat + 1 ≠ out.length)
    (h : out.length ≤ amount_width amount.toNat decimals.toNat) :
    ∃ out', print_token_amount amount asset decimals out out.length = some (1, out') := by
  obtain ⟨out', i, hwrite, -, hend⟩ := token_amount_write_run_of_ne amount decimals hpos hpoint
  refine ⟨out', ?_⟩
  rw [print_token_amount_written amount asset decimals hmax hwrite, if_pos (by omega)]

/-- The digits fit, so they have been written and stripped before the text is ended. -/
theorem print_token_amount_fits (h : amount_width amount.toNat decimals.toNat < out.length) :
    ∃ rest, rest ≠ [] ∧
      (amount_text amount.toNat decimals.toNat ++ rest).length = out.length ∧
      print_token_amount amount asset decimals out out.length =
        token_amount_end asset (amount_text amount.toNat decimals.toNat ++ rest)
          (amount_text amount.toNat decimals.toNat).length out.length := by
  have hpoint : decimals.toNat + 1 ≠ out.length := by
    rw [amount_width] at h
    omega
  obtain ⟨out', i, hwrite, hlen, hend⟩ := token_amount_write_run_of_ne amount decimals hpos hpoint
  have hlt : i < out.length := hend.mpr h
  have hdigits := hwrite
  rw [token_amount_write, if_pos (by omega)] at hdigits
  obtain ⟨rest, htext, hreverse, hstrip⟩ := token_amount_digits_text hdigits hlt
  rw [hlen] at htext
  refine ⟨rest, ?_, htext, ?_⟩
  · have hle := amount_text_length_le amount.toNat decimals.toNat
    rw [List.length_append] at htext
    exact List.ne_nil_of_length_pos (by omega)
  · rw [print_token_amount_written amount asset decimals hmax hwrite, if_neg (by omega), hreverse,
      Option.bind_some, hstrip, Option.bind_some]

end Ends

/-! ## In the buffer -/

/-- **`print_token_amount` stays in its buffer** exactly when the buffer does not have a single
byte, the point is not due at its last byte, and, where the digits fit, the length of the asset
can be counted with them. No buffer at all, and one of more than `INT_MAX` bytes, are refused at
once. -/
theorem token_amount_in_bounds_iff (amount : UInt64) (asset : Option (List UInt8))
    (decimals : UInt8) (out : List UInt8) :
    print_token_amount amount asset decimals out out.length ≠ none ↔
      out.length = 0 ∨ INT_MAX < out.length ∨
        (out.length ≠ 1 ∧ decimals.toNat + 1 ≠ out.length ∧
          (amount_width amount.toNat decimals.toNat < out.length →
            ∀ a ∈ asset, CountsText (amount_text amount.toNat decimals.toNat).length a)) := by
  by_cases hrefused : out.length = 0 ∨ INT_MAX < out.length
  · rw [print_token_amount_refused amount asset decimals hrefused, ← or_assoc]
    exact iff_of_true (Option.some_ne_none _) (Or.inl hrefused)
  rw [← or_assoc, or_iff_right hrefused]
  rw [not_or, Nat.not_lt] at hrefused
  obtain ⟨hzero, hmax⟩ := hrefused
  -- A single byte leaves the digit loop no room, and the strip reads in front of it.
  by_cases hone : out.length = 1
  · rw [print_token_amount_one amount asset decimals hone]
    exact iff_of_false (not_not.mpr rfl) fun h => h.1 hone
  have hpos : 2 ≤ out.length := by omega
  -- The loop looks for room once a round, and the round of the point writes two bytes.
  by_cases hpoint : decimals.toNat + 1 = out.length
  · rw [print_token_amount_point amount asset decimals hpos hmax hpoint]
    exact iff_of_false (not_not.mpr rfl) fun h => h.2.1 hpoint
  rw [and_iff_right hone, and_iff_right hpoint]
  by_cases hfits : amount_width amount.toNat decimals.toNat < out.length
  · obtain ⟨rest, hrest, hlen, hprint⟩ :=
      print_token_amount_fits amount asset decimals hpos hmax hfits
    rw [forall_prop_of_true hfits, hprint, ← Option.isSome_iff_ne_none, ← hlen]
    exact token_amount_end_isSome hrest (hlen.trans_le hmax)
  · obtain ⟨out', hprint⟩ :=
      print_token_amount_wide amount asset decimals hpos hmax hpoint (Nat.not_lt.mp hfits)
    rw [hprint]
    exact iff_of_true (Option.some_ne_none _) fun h => absurd h hfits

/-- One token of 44 decimals, in the buffer of the summary: the point is its last byte, and the
digit is written behind it. -/
theorem token_amount_leaves_buffer :
    ¬∀ (amount : UInt64) (asset : Option (List UInt8)) (decimals : UInt8) (out : List UInt8),
      print_token_amount amount asset decimals out out.length ≠ none := by
  intro h
  exact h 1 (some (c_string "???")) 44 (List.replicate 45 0) (by decide +kernel)

end RenecLedger
