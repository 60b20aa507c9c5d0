/-
Expansions: the digits of a number in front of and behind the point, in reading order.

An expansion is canonical when it has no superfluous zero: none in front of the whole part,
which has at least one digit, and none at the end of the fraction. A number has at most one
canonical expansion (`Expansion.Canonical.eq`), and a multiple of `1 / b ^ d` has one of at most
`d` places, the numeral with a point read from its other end (`expansion_value`,
`expansion_text`).
-/
import Mathlib.Algebra.Order.Field.Rat
import Mathlib.Tactic.FieldSimp
import RenecLedger.Lib.Numeral

set_option autoImplicit false

namespace NumeralLib

variable {b : ℕ}

/-- The digits in front of the point and those behind it. -/
structure Expansion where
  whole : List ℕ
  frac : List ℕ
deriving DecidableEq

attribute [ext] Expansion

namespace Expansion

/-- The number that the digits stand for. -/
def value (b : ℕ) (e : Expansion) : ℚ :=
  (Nat.ofDigits b e.whole.reverse : ℕ) +
    (Nat.ofDigits b e.frac.reverse : ℕ) / (b : ℚ) ^ e.frac.length

/-- No superfluous zeros, and a digit in front of the point. -/
structure Canonical (b : ℕ) (e : Expansion) : Prop where
  digits : ∀ x ∈ e.whole ++ e.frac, x < b
  whole : e.whole ≠ []
  leading : e.whole.head? = some 0 → e.whole = [0]
  trailing : e.frac.getLast? ≠ some 0

/-- How it is written: `f` writes a digit, and the point is left out with nothing behind it. -/
def text {α : Type*} (f : ℕ → α) (point : α) (e : Expansion) : List α :=
  e.whole.map f ++ if e.frac = [] then [] else point :: e.frac.map f

end Expansion

/-! ## One canonical expansion -/

/-- The digits of a whole part are the numeral of its value. -/
theorem numeral_of_whole (hb : 1 < b) {digits : List ℕ} (hdigits : ∀ x ∈ digits, x < b)
    (hne : digits ≠ []) (hleading : digits.head? = some 0 → digits = [0]) :
    numeral b (Nat.ofDigits b digits.reverse) = digits.reverse := by
  by_cases hzero : digits.head? = some 0
  · rw [hleading hzero]
    rfl
  · have hlast : ∀ h : digits.reverse ≠ [], digits.reverse.getLast h ≠ 0 := by
      intro h heq
      rw [List.getLast_reverse] at heq
      exact hzero (by rw [List.head?_eq_some_head hne, heq])
    have hread := Nat.digits_ofDigits b hb digits.reverse
      (fun x hx => hdigits x (List.mem_reverse.mp hx)) hlast
    rw [numeral, hread, if_neg]
    intro hvalue
    rw [hvalue, Nat.digits_zero] at hread
    exact hne (List.reverse_eq_nil_iff.mp hread.symm)

/-- The value of a fraction is less than its field, and not divisible by the base. -/
theorem fraction_value (hb : 1 < b) {digits : List ℕ} (hdigits : ∀ x ∈ digits, x < b)
    (htrailing : digits.getLast? ≠ some 0) :
    Nat.ofDigits b digits.reverse < b ^ digits.length ∧
      (digits ≠ [] → ¬b ∣ Nat.ofDigits b digits.reverse) := by
  have hmem : ∀ x ∈ digits.reverse, x < b := fun x hx => hdigits x (List.mem_reverse.mp hx)
  constructor
  · have hlt := Nat.ofDigits_lt_base_pow_length hb hmem
    rwa [List.length_reverse] at hlt
  · intro hne hdvd
    have hlast := List.dropLast_append_getLast hne
    rw [← hlast, List.reverse_append, List.reverse_singleton, List.singleton_append,
      Nat.ofDigits_cons, Nat.dvd_add_left (dvd_mul_right _ _)] at hdvd
    have hzero := Nat.eq_zero_of_dvd_of_lt hdvd (hdigits _ (List.getLast_mem hne))
    exact htrailing (by rw [List.getLast?_eq_some_getLast hne, hzero])

/-- A quotient and a remainder are those of their sum. -/
theorem quotient_remainder {m q q' r r' : ℕ} (hr : r < m) (hr' : r' < m)
    (h : m * q + r = m * q' + r') : q = q' ∧ r = r' := by
  have hpos : 0 < m := Nat.zero_lt_of_lt hr
  have hdiv := congrArg (· / m) h
  have hmod := congrArg (· % m) h
  simp only [Nat.mul_add_div hpos, Nat.div_eq_of_lt hr, Nat.div_eq_of_lt hr', Nat.add_zero] at hdiv
  simp only [Nat.mul_add_mod, Nat.mod_eq_of_lt hr, Nat.mod_eq_of_lt hr'] at hmod
  exact ⟨hdiv, hmod⟩

/-- Two expansions of one number, without the denominators. -/
theorem Expansion.value_eq (hb : 1 < b) {e e' : Expansion} (hvalue : e.value b = e'.value b) :
    (Nat.ofDigits b e.whole.reverse * b ^ e.frac.length + Nat.ofDigits b e.frac.reverse) *
        b ^ e'.frac.length =
      b ^ e.frac.length *
        (Nat.ofDigits b e'.whole.reverse * b ^ e'.frac.length +
          Nat.ofDigits b e'.frac.reverse) := by
  have hbase : (b : ℚ) ≠ 0 := Nat.cast_ne_zero.mpr (by omega)
  rw [Expansion.value, Expansion.value] at hvalue
  field_simp at hvalue
  exact_mod_cast hvalue

/-- **There is one canonical expansion** of a number. The fractions have the same length: one
that is longer than the other would be divisible by the base. -/
theorem Expansion.Canonical.eq (hb : 1 < b) {e e' : Expansion} (h : e.Canonical b)
    (h' : e'.Canonical b) (hvalue : e.value b = e'.value b) : e = e' := by
  wlog hle : e.frac.length ≤ e'.frac.length generalizing e e'
  · exact (this h' h hvalue.symm (by omega)).symm
  obtain ⟨j, hj⟩ := Nat.exists_eq_add_of_le hle
  have hpos : 0 < b ^ e.frac.length := Nat.pow_pos (by omega)
  have hdigits := fun x hx => h.digits x (List.mem_append_right _ hx)
  have hdigits' := fun x hx => h'.digits x (List.mem_append_right _ hx)
  have hwdigits := fun x hx => h.digits x (List.mem_append_left _ hx)
  have hwdigits' := fun x hx => h'.digits x (List.mem_append_left _ hx)
  obtain ⟨hlt, -⟩ := fraction_value hb hdigits h.trailing
  obtain ⟨hlt', hndvd⟩ := fraction_value hb hdigits' h'.trailing
  have hcross := Expansion.value_eq hb hvalue
  rw [hj, Nat.pow_add] at hcross hlt'
  have hnat : b ^ e.frac.length * b ^ j * Nat.ofDigits b e.whole.reverse +
      Nat.ofDigits b e.frac.reverse * b ^ j =
        b ^ e.frac.length * b ^ j * Nat.ofDigits b e'.whole.reverse +
          Nat.ofDigits b e'.frac.reverse := by
    refine Nat.eq_of_mul_eq_mul_right hpos ?_
    linarith
  obtain ⟨hwhole, hfrac⟩ := quotient_remainder
    (Nat.mul_lt_mul_of_pos_right hlt (Nat.pow_pos (by omega))) hlt' hnat
  have hj0 : j = 0 := by
    by_contra hne
    have hdvd : b ∣ Nat.ofDigits b e.frac.reverse * b ^ j :=
      (dvd_pow_self b hne).mul_left _
    rw [hfrac] at hdvd
    refine hndvd ?_ hdvd
    rintro hnil
    rw [hnil, List.length_nil] at hj
    omega
  rw [hj0, Nat.pow_zero, Nat.mul_one] at hfrac
  have hsame : e.frac.reverse = e'.frac.reverse :=
    Nat.ofDigits_inj_of_len_eq hb (by simp [hj, hj0]) (fun x hx => hdigits x (by simpa using hx))
      (fun x hx => hdigits' x (by simpa using hx)) hfrac
  have hread := numeral_of_whole hb hwdigits h.whole h.leading
  rw [hwhole, numeral_of_whole hb hwdigits' h'.whole h'.leading] at hread
  exact Expansion.ext (List.reverse_injective hread.symm) (List.reverse_injective hsame)

/-! ## The expansion of a multiple of the last place -/

/-- The expansion of `n / b ^ d`. -/
def expansion (b d n : ℕ) : Expansion where
  whole := (numeral b (n / b ^ d)).reverse
  frac := (fraction b d (n % b ^ d)).reverse

theorem expansion_canonical (hb : 1 < b) (d n : ℕ) : (expansion b d n).Canonical b where
  digits := by
    intro x hx
    rw [expansion, List.mem_append, List.mem_reverse, List.mem_reverse] at hx
    exact hx.elim (lt_of_mem_numeral hb) (lt_of_mem_fraction hb)
  whole := by
    rw [expansion, ne_eq, List.reverse_eq_nil_iff]
    exact numeral_ne_nil hb _
  leading := by
    rw [expansion, List.head?_reverse]
    intro hlast
    by_cases hzero : n / b ^ d = 0
    · rw [hzero]
      rfl
    · rw [numeral, if_neg hzero, List.getLast?_eq_some_getLast (Nat.digits_ne_nil_iff_ne_zero.mpr
        hzero)] at hlast
      exact absurd (Option.some.inj hlast) (Nat.getLast_digit_ne_zero b hzero)
  trailing := by
    rw [expansion, List.getLast?_reverse, fraction]
    intro hhead
    have hnot := List.head?_dropWhile_not (fun x : ℕ => decide (x = 0))
      (b.digitsAppend d (n % b ^ d))
    rw [hhead] at hnot
    exact absurd hnot (by decide)

/-- The zeros that a fraction leaves out. -/
theorem ofDigits_fraction (hb : 1 < b) {d n : ℕ} (hn : n < b ^ d) :
    (fraction b d n).length ≤ d ∧
      b ^ (d - (fraction b d n).length) * Nat.ofDigits b (fraction b d n) = n := by
  constructor
  · rw [fraction_length_le_iff hb hn, Nat.sub_self, Nat.pow_zero]
    exact one_dvd n
  · have hdigits := ofDigits_digitsAppend b d n
    rwa [digitsAppend_of_fraction hb hn, Nat.ofDigits_append, Nat.ofDigits_replicate_zero,
      Nat.zero_add, List.length_replicate] at hdigits

theorem expansion_value (hb : 1 < b) (d n : ℕ) :
    (expansion b d n).value b = (n : ℚ) / (b : ℚ) ^ d := by
  have hbase : (b : ℚ) ≠ 0 := Nat.cast_ne_zero.mpr (by omega)
  obtain ⟨hle, hfrac⟩ := ofDigits_fraction hb (Nat.mod_lt n (Nat.pow_pos (by omega) : 0 < b ^ d))
  have hn := Nat.div_add_mod n (b ^ d)
  rw [← hfrac] at hn
  rw [Expansion.value, expansion, List.reverse_reverse, List.reverse_reverse, List.length_reverse,
    ofDigits_numeral]
  generalize Nat.ofDigits b (fraction b d (n % b ^ d)) = f at hn ⊢
  generalize (fraction b d (n % b ^ d)).length = k at hn hle ⊢
  generalize n / b ^ d = q at hn ⊢
  obtain ⟨j, rfl⟩ := Nat.exists_eq_add_of_le hle
  rw [Nat.add_sub_cancel_left] at hn
  have hcast : (n : ℚ) = (b : ℚ) ^ (k + j) * q + (b : ℚ) ^ j * f := by exact_mod_cast hn.symm
  rw [hcast]
  field_simp
  ring

theorem expansion_text {α : Type*} (f : ℕ → α) (point : α) (d n : ℕ) :
    (expansion b d n).text f point = (fixed_point f point b d n).reverse := by
  rw [Expansion.text, expansion, fixed_point]
  cases hfrac : fraction b d (n % b ^ d) with
  | nil => simp
  | cons x xs => simp

end NumeralLib
