/-
Numerals: the digits of a number in a base, as they are written.

A numeral is kept with its last digit first, as a digit loop produces it. `numeral` is
the one without superfluous zeros, which still has a digit when the number is zero.
`fixed_point` is the one with a point: the number is a count of fractions of `b ^ d`, and
the zeros at the end of the fraction are left out. Neither loses anything
(`numeral_injective`, `fixed_point_injective`).
-/
import Mathlib.Data.List.TakeWhile
import Mathlib.Data.Nat.Digits.Lemmas

set_option autoImplicit false

namespace NumeralLib

variable {b : ℕ}

/-! ## Whole numbers -/

/-- The digits of a number, the last one first. Zero has the digit 0. -/
def numeral (b n : ℕ) : List ℕ := if n = 0 then [0] else b.digits n

/-- A round of a digit loop. -/
theorem numeral_step (hb : 1 < b) (n : ℕ) :
    numeral b n = n % b :: if n / b = 0 then [] else numeral b (n / b) := by
  rw [numeral]
  by_cases hn : n = 0
  · rw [if_pos hn, hn, Nat.zero_mod, Nat.zero_div, if_pos rfl]
  · rw [if_neg hn, Nat.digits_def' hb (Nat.pos_of_ne_zero hn)]
    by_cases hq : n / b = 0
    · rw [if_pos hq, hq, Nat.digits_zero]
    · rw [if_neg hq, numeral, if_neg hq]

theorem numeral_ne_nil (hb : 1 < b) (n : ℕ) : numeral b n ≠ [] := by
  rw [numeral_step hb]
  exact List.cons_ne_nil _ _

theorem lt_of_mem_numeral (hb : 1 < b) {n x : ℕ} (h : x ∈ numeral b n) : x < b := by
  rw [numeral] at h
  split at h
  · rw [List.mem_singleton.mp h]
    exact Nat.lt_of_succ_lt hb
  · exact Nat.digits_lt_base hb h

theorem numeral_length_le (hb : 1 < b) {k n : ℕ} (hk : 0 < k) (h : n < b ^ k) :
    (numeral b n).length ≤ k := by
  rw [numeral]
  split
  · exact hk
  · exact (Nat.digits_length_le_iff hb n).mpr h

theorem ofDigits_numeral (b n : ℕ) : Nat.ofDigits b (numeral b n) = n := by
  rw [numeral]
  split
  · rename_i hn
    rw [hn, Nat.ofDigits_singleton]
  · exact Nat.ofDigits_digits b n

theorem numeral_injective (b : ℕ) : Function.Injective (numeral b) :=
  Function.LeftInverse.injective (ofDigits_numeral b)

/-! ## Digits in a field of fixed width -/

/-- The last digit, and the digits in front of it. -/
theorem digitsAppend_succ (hb : 1 < b) (d n : ℕ) :
    b.digitsAppend (d + 1) n = n % b :: b.digitsAppend d (n / b) := by
  rw [Nat.digitsAppend, Nat.digitsAppend]
  by_cases hn : n = 0
  · rw [hn, Nat.zero_mod, Nat.zero_div, Nat.digits_zero, List.nil_append, List.nil_append,
      List.length_nil, Nat.sub_zero, Nat.sub_zero, List.replicate_succ]
  · rw [Nat.digits_def' hb (Nat.pos_of_ne_zero hn), List.cons_append, List.length_cons,
      Nat.add_sub_add_right]

theorem ofDigits_digitsAppend (b d n : ℕ) : Nat.ofDigits b (b.digitsAppend d n) = n := by
  rw [Nat.digitsAppend, Nat.ofDigits_append_replicate_zero, Nat.ofDigits_digits]

/-- A fraction of `d` digits, the last one first, without the zeros at its end. -/
def fraction (b d n : ℕ) : List ℕ := (b.digitsAppend d n).dropWhile (· = 0)

theorem lt_of_mem_fraction (hb : 1 < b) {d n x : ℕ} (h : x ∈ fraction b d n) : x < b :=
  Nat.lt_of_mem_digitsAppend hb d x (List.dropWhile_subset _ h)

/-- The zeros that were left out are those that fill the field. -/
theorem digitsAppend_of_fraction (hb : 1 < b) {d n : ℕ} (hn : n < b ^ d) :
    b.digitsAppend d n =
      List.replicate (d - (fraction b d n).length) 0 ++ fraction b d n := by
  have hsplit : (b.digitsAppend d n).takeWhile (· = 0) ++ fraction b d n = b.digitsAppend d n :=
    List.takeWhile_append_dropWhile
  have hlen := congrArg List.length hsplit
  rw [List.length_append, Nat.length_digitsAppend hb d hn] at hlen
  have hzeros : (b.digitsAppend d n).takeWhile (· = 0) =
      List.replicate (d - (fraction b d n).length) 0 := by
    refine List.eq_replicate_iff.mpr ⟨by omega, fun x hx => ?_⟩
    have hzero := List.mem_takeWhile_imp hx
    exact of_decide_eq_true hzero
  rw [← hzeros, hsplit]

/-- A fraction of at most `k` digits is a multiple of the last place that they need. The
induction is on the digits, from the last one. -/
theorem fraction_length_le_iff (hb : 1 < b) {k d n : ℕ} (hn : n < b ^ d) :
    (fraction b d n).length ≤ k ↔ b ^ (d - k) ∣ n := by
  induction d generalizing n with
  | zero =>
    rw [Nat.pow_zero, Nat.lt_one_iff] at hn
    rw [hn, fraction, Nat.digitsAppend, Nat.digits_zero]
    exact iff_of_true (Nat.zero_le k) (dvd_zero _)
  | succ d ih =>
    have hdiv : n / b < b ^ d := by
      rw [Nat.pow_succ] at hn
      exact Nat.div_lt_of_lt_mul (by rwa [Nat.mul_comm])
    have hsplit := Nat.div_add_mod n b
    rw [fraction, digitsAppend_succ hb, List.dropWhile_cons]
    -- A last digit of zero is dropped and the rest is a shorter fraction of the quotient;
    -- any other keeps all the digits, and the base does not divide the number.
    by_cases hlast : n % b = 0
    · rw [if_pos (decide_eq_true hlast), ← fraction, ih hdiv]
      by_cases hk : d + 1 ≤ k
      · rw [Nat.sub_eq_zero_of_le hk, Nat.sub_eq_zero_of_le (by omega : d ≤ k)]
        exact iff_of_true (one_dvd _) (one_dvd _)
      · rw [show d + 1 - k = d - k + 1 by omega, Nat.pow_succ',
          show n = b * (n / b) by omega, Nat.mul_dvd_mul_iff_left (by omega),
          Nat.mul_div_cancel_left _ (by omega)]
    · rw [if_neg (by simpa using hlast), List.length_cons, Nat.length_digitsAppend hb d hdiv]
      by_cases hk : d + 1 ≤ k
      · rw [Nat.sub_eq_zero_of_le hk]
        exact iff_of_true hk (one_dvd _)
      · refine iff_of_false hk fun hdvd => hlast ?_
        have hbase : b ∣ b ^ (d + 1 - k) := dvd_pow_self b (by omega)
        exact Nat.mod_eq_zero_of_dvd (hbase.trans hdvd)

theorem fraction_injOn (hb : 1 < b) {d m n : ℕ} (hm : m < b ^ d) (hn : n < b ^ d)
    (h : fraction b d m = fraction b d n) : m = n := by
  have hdigits : b.digitsAppend d m = b.digitsAppend d n := by
    rw [digitsAppend_of_fraction hb hm, digitsAppend_of_fraction hb hn, h]
  rw [← ofDigits_digitsAppend b d m, hdigits, ofDigits_digitsAppend]

/-! ## Fields and their order -/

/-- What comes first decides, if it is equally long. -/
theorem append_lt_append {α : Type*} [LT α] {l₁ l₂ r₁ r₂ : List α} (hlen : l₁.length = l₂.length)
    (h : l₁ < l₂ ∨ l₁ = l₂ ∧ r₁ < r₂) : l₁ ++ r₁ < l₂ ++ r₂ := by
  induction l₁ generalizing l₂ with
  | nil =>
    rw [List.eq_nil_of_length_eq_zero hlen.symm] at h ⊢
    rcases h with hlt | ⟨-, hlt⟩
    · exact absurd hlt (List.not_lt_nil _)
    · exact hlt
  | cons a l₁ ih =>
    cases l₂ with
    | nil => cases hlen
    | cons b l₂ =>
      rw [List.cons_append, List.cons_append, List.cons_lt_cons_iff]
      rcases h with hlt | ⟨heq, hlt⟩
      · rcases List.cons_lt_cons_iff.mp hlt with hhead | ⟨hhead, htail⟩
        · exact Or.inl hhead
        · exact Or.inr ⟨hhead, ih (Nat.succ.inj hlen) (Or.inl htail)⟩
      · obtain ⟨hhead, htail⟩ := List.cons.inj heq
        exact Or.inr ⟨hhead, ih (Nat.succ.inj hlen) (Or.inr ⟨htail, hlt⟩)⟩

section Field

variable {α : Type*} (f : ℕ → α)

/-- A number in a field of `d` characters, with zeros in front. -/
def field (b d n : ℕ) : List α := ((b.digitsAppend d n).reverse).map f

variable {f}

theorem field_succ (hb : 1 < b) (d n : ℕ) :
    field f b (d + 1) n = field f b d (n / b) ++ [f (n % b)] := by
  rw [field, digitsAppend_succ hb, List.reverse_cons, List.map_append]
  rfl

theorem field_length (hb : 1 < b) {d n : ℕ} (hn : n < b ^ d) : (field f b d n).length = d := by
  rw [field, List.length_map, List.length_reverse, Nat.length_digitsAppend hb d hn]

/-- A number that does not fit makes the field longer. -/
theorem field_length_lt (hb : 1 < b) {d n : ℕ} (hn : b ^ d ≤ n) : d < (field f b d n).length := by
  have hdigits : ¬(b.digits n).length ≤ d := by
    rw [Nat.digits_length_le_iff hb]
    exact Nat.not_lt.mpr hn
  rw [field, List.length_map, List.length_reverse, Nat.digitsAppend, List.length_append]
  omega

/-- **A larger number has the later field.** The induction is on the digits, from the last one,
which only counts when those in front of it are the same. -/
theorem field_lt [LT α] (hb : 1 < b) (hf : ∀ x < b, ∀ y < b, x < y → f x < f y) {d m n : ℕ}
    (hn : n < b ^ d) (h : m < n) : field f b d m < field f b d n := by
  induction d generalizing m n with
  | zero =>
    rw [Nat.pow_zero, Nat.lt_one_iff] at hn
    rw [hn] at h
    exact absurd h (Nat.not_lt_zero m)
  | succ d ih =>
    have hpos : 0 < b := Nat.lt_of_succ_lt hb
    rw [Nat.pow_succ, Nat.mul_comm] at hn
    have hnd : n / b < b ^ d := Nat.div_lt_of_lt_mul hn
    have hmd : m / b < b ^ d := Nat.div_lt_of_lt_mul (h.trans hn)
    rw [field_succ hb, field_succ hb]
    refine append_lt_append (by rw [field_length hb hmd, field_length hb hnd]) ?_
    rcases Nat.lt_or_eq_of_le (Nat.div_le_div_right (Nat.le_of_lt h) : m / b ≤ n / b) with
      hlt | heq
    · exact Or.inl (ih hnd hlt)
    · have hm := Nat.div_add_mod m b
      have hn := Nat.div_add_mod n b
      rw [heq] at hm
      refine Or.inr ⟨by rw [heq], List.cons_lt_cons_iff.mpr (Or.inl ?_)⟩
      exact hf _ (Nat.mod_lt m hpos) _ (Nat.mod_lt n hpos) (by omega)

/-- Two records that begin with a field. -/
theorem field_append_lt [LT α] (hb : 1 < b) (hf : ∀ x < b, ∀ y < b, x < y → f x < f y)
    {d m n : ℕ} {r s : List α} (hm : m < b ^ d) (hn : n < b ^ d)
    (h : m < n ∨ m = n ∧ r < s) : field f b d m ++ r < field f b d n ++ s := by
  refine append_lt_append (by rw [field_length hb hm, field_length hb hn]) ?_
  rcases h with hlt | ⟨heq, hrest⟩
  · exact Or.inl (field_lt hb hf hn hlt)
  · exact Or.inr ⟨by rw [heq], hrest⟩

end Field

/-! ## Numbers with a point -/

section Point

variable {α : Type*} (f : ℕ → α) (point : α)

/-- Digits with a point in front of the last `d` of them, the last one first: `f` writes a
digit. Zeros at the end of the fraction are left out, and a point with nothing behind it. -/
def fixed_point (b d n : ℕ) : List α :=
  let whole := (numeral b (n / b ^ d)).map f
  match fraction b d (n % b ^ d) with
  | [] => whole
  | x :: xs => f x :: xs.map f ++ point :: whole

variable {f point}

theorem fixed_point_length (b d n : ℕ) :
    (fixed_point f point b d n).length =
      (fraction b d (n % b ^ d)).length + (if fraction b d (n % b ^ d) = [] then 0 else 1) +
        (numeral b (n / b ^ d)).length := by
  rw [fixed_point]
  cases fraction b d (n % b ^ d) with
  | nil =>
    rw [if_pos rfl, List.length_map, List.length_nil, Nat.add_zero, Nat.zero_add]
  | cons x xs =>
    rw [if_neg (List.cons_ne_nil x xs), List.length_append, List.length_cons, List.length_cons,
      List.length_cons, List.length_map, List.length_map]
    omega

/-- No digit is written as the point. -/
theorem point_notMem {xs : List ℕ} (hpoint : ∀ x < b, f x ≠ point) (h : ∀ x ∈ xs, x < b) :
    point ∉ xs.map f := by
  rw [List.mem_map]
  rintro ⟨x, hx, hfx⟩
  exact hpoint x (h x hx) hfx

theorem map_injOn {xs ys : List ℕ} (hf : ∀ x < b, ∀ y < b, f x = f y → x = y)
    (hx : ∀ x ∈ xs, x < b) (hy : ∀ y ∈ ys, y < b) (h : xs.map f = ys.map f) : xs = ys := by
  induction xs generalizing ys with
  | nil => exact (List.map_eq_nil_iff.mp h.symm).symm
  | cons x xs ih =>
    obtain ⟨y, ys, rfl, hfy, htail⟩ := List.map_eq_cons_iff.mp h.symm
    rw [hf x (hx x List.mem_cons_self) y (hy y List.mem_cons_self) hfy.symm,
      ih (fun z hz => hx z (List.mem_cons_of_mem _ hz))
        (fun z hz => hy z (List.mem_cons_of_mem _ hz)) htail.symm]

/-- The point tells where the fraction ends. -/
theorem fixed_point_eq {d m n : ℕ} (hb : 1 < b) (hf : ∀ x < b, ∀ y < b, f x = f y → x = y)
    (hpoint : ∀ x < b, f x ≠ point) (h : fixed_point f point b d m = fixed_point f point b d n) :
    fraction b d (m % b ^ d) = fraction b d (n % b ^ d) ∧ m / b ^ d = n / b ^ d := by
  have hwhole : ∀ k, point ∉ (numeral b (k / b ^ d)).map f := fun k =>
    point_notMem hpoint fun x hx => lt_of_mem_numeral hb hx
  have hfraction : ∀ k, ∀ x ∈ fraction b d (k % b ^ d), x < b := fun k x hx =>
    lt_of_mem_fraction hb hx
  have hquotient : (numeral b (m / b ^ d)).map f = (numeral b (n / b ^ d)).map f →
      m / b ^ d = n / b ^ d := fun hmap =>
    numeral_injective b (map_injOn hf (fun x hx => lt_of_mem_numeral hb hx)
      (fun x hx => lt_of_mem_numeral hb hx) hmap)
  have hm := hfraction m
  have hn := hfraction n
  simp only [fixed_point] at h
  cases hfm : fraction b d (m % b ^ d) with
  | nil =>
    cases hfn : fraction b d (n % b ^ d) with
    | nil =>
      rw [hfm, hfn] at h
      exact ⟨rfl, hquotient h⟩
    | cons y ys =>
      -- only one of the two has a point
      rw [hfm, hfn] at h
      refine absurd ?_ (hwhole m)
      rw [show (numeral b (m / b ^ d)).map f = _ from h]
      exact List.mem_append_right _ List.mem_cons_self
  | cons x xs =>
    cases hfn : fraction b d (n % b ^ d) with
    | nil =>
      rw [hfm, hfn] at h
      refine absurd ?_ (hwhole n)
      rw [← show _ = (numeral b (n / b ^ d)).map f from h]
      exact List.mem_append_right _ List.mem_cons_self
    | cons y ys =>
      rw [hfm, hfn] at h
      rw [hfm] at hm
      rw [hfn] at hn
      have hx : point ∉ (y :: ys).map f := point_notMem hpoint hn
      have hx' : point ∉ (x :: xs).map f := point_notMem hpoint hm
      obtain ⟨hl, -, hr⟩ := (List.append_cons_inj_of_notMem hx' (hwhole m)).mp h
      exact ⟨map_injOn hf hm hn hl, hquotient hr⟩

/-- A number can be read back from its digits and the point. -/
theorem fixed_point_injective {d : ℕ} (hb : 1 < b)
    (hf : ∀ x < b, ∀ y < b, f x = f y → x = y) (hpoint : ∀ x < b, f x ≠ point) :
    Function.Injective (fixed_point f point b d) := by
  intro m n h
  have hpos : 0 < b ^ d := Nat.pow_pos (Nat.lt_of_succ_lt hb)
  obtain ⟨hfrac, hdiv⟩ := fixed_point_eq hb hf hpoint h
  have hmod := fraction_injOn hb (Nat.mod_lt m hpos) (Nat.mod_lt n hpos) hfrac
  rw [← Nat.mod_add_div m (b ^ d), hmod, hdiv, Nat.mod_add_div]

end Point

end NumeralLib
