/-
What `is_data_utf8` accepts.

The function is written once more as it works on memory, with an index and checked reads
(`Raw.is_data_utf8`): it reads only inside the data, and returns what the list of the bytes
gives. That list is accepted exactly when it is the encoding of characters other than U+FFFE
and U+FFFF (`utf8_exact`), by an induction that takes off one character at a time.
-/
import RenecLedger.Lib.Utf8
import RenecLedger.SignOffchainMessage

set_option autoImplicit false

open Utf8Lib

namespace RenecLedger

/-! ## On memory -/

namespace Raw

/-- One round of the loop: the index after the sequence, or `none` to return `false`. A read
outside of the data gives no result. The sums are not reduced: no object ends so near to the
largest `size_t`. -/
def utf8_round (data : List UInt8) (length i : ℕ) : Option (Option ℕ) := do
  let b₀ ← data[i]?
  if b₀ < 0x80 then
    -- 0xxxxxxx
    return some (i + 1)
  else if b₀ &&& 0xe0 = 0xc0 then
    -- 110XXXXx 10xxxxxx
    if i + 1 ≥ length then return none
    let b₁ ← data[i + 1]?
    if !is_continuation b₁ ∨ b₀ &&& 0xfe = 0xc0 then return none
    return some (i + 2)
  else if b₀ &&& 0xf0 = 0xe0 then
    -- 1110XXXX 10Xxxxxx 10xxxxxx
    if i + 2 ≥ length then return none
    let b₁ ← data[i + 1]?
    let b₂ ← data[i + 2]?
    if !is_continuation b₁ ∨ !is_continuation b₂ ∨
        -- overlong? surrogate? U+FFFE or U+FFFF?
        (b₀ = 0xe0 ∧ b₁ &&& 0xe0 = 0x80) ∨ (b₀ = 0xed ∧ b₁ &&& 0xe0 = 0xa0) ∨
        (b₀ = 0xef ∧ b₁ = 0xbf ∧ b₂ &&& 0xfe = 0xbe) then return none
    return some (i + 3)
  else if b₀ &&& 0xf8 = 0xf0 then
    -- 11110XXX 10XXxxxx 10xxxxxx 10xxxxxx
    if i + 3 ≥ length then return none
    let b₁ ← data[i + 1]?
    let b₂ ← data[i + 2]?
    let b₃ ← data[i + 3]?
    if !is_continuation b₁ ∨ !is_continuation b₂ ∨ !is_continuation b₃ ∨
        -- overlong? > U+10FFFF?
        (b₀ = 0xf0 ∧ b₁ &&& 0xf0 = 0x80) ∨ (b₀ = 0xf4 ∧ b₁ > 0x8f) ∨ b₀ > 0xf4 then return none
    return some (i + 4)
  else
    return none

/-- `while (i < length)`, for a number of rounds; more rounds than that give no result. -/
def utf8_loop (data : List UInt8) (length : ℕ) : ℕ → ℕ → Option Bool
  | 0, i => if i < length then none else some true
  | rounds + 1, i =>
    if i < length then
      match utf8_round data length i with
      | none => none
      | some none => some false
      | some (some i) => utf8_loop data length rounds i
    else some true

/-- A `NULL` pointer is `none`. -/
def is_data_utf8 (data : Option (List UInt8)) (length : ℕ) : Option Bool :=
  match data with
  | none => some false
  | some data => utf8_loop data length length 0

end Raw

/-! ## The bytes of a sequence -/

/-- A mask of the high bits clears the low ones. -/
theorem masked_iff (mask : UInt8) (k : ℕ) (hk : k < 9) (hmask : mask = UInt8.ofNat (256 - 2 ^ k))
    (b v : UInt8) : b &&& mask = v ↔ b.toNat / 2 ^ k * 2 ^ k = v.toNat := by
  have hall : ∀ k < 9, ∀ n < 256,
      (UInt8.ofNat n &&& UInt8.ofNat (256 - 2 ^ k)).toNat = n / 2 ^ k * 2 ^ k := by decide +kernel
  have hbits := hall k hk b.toNat b.toNat_lt
  rw [UInt8.ofNat_toNat] at hbits
  rw [hmask, ← UInt8.toNat_inj, hbits]

theorem is_continuation_iff (b : UInt8) : is_continuation b = true ↔ Tail b := by
  rw [is_continuation, decide_eq_true_eq, masked_iff 0xc0 6 (by decide) rfl, Tail]
  change b.toNat / 64 * 64 = 128 ↔ _
  omega

/-- A character that is accepted. -/
def Accepted (n : ℕ) : Prop := n ≠ 0xFFFE ∧ n ≠ 0xFFFF

/-- The data begins with an accepted sequence of `width` bytes. -/
def Begins (data : List UInt8) (width : ℕ) : Prop :=
  ∃ n bytes, Sequence n bytes ∧ Accepted n ∧ bytes.length = width ∧ bytes <+: data

/-- The three bytes of a character that is not accepted. -/
theorem accepted_three_iff {a b c : UInt8} (ha : 224 ≤ a.toNat) (hb : Tail b) (hc : Tail c) :
    Accepted ((a.toNat - 224) * 4096 + (b.toNat - 128) * 64 + (c.toNat - 128)) ↔
      ¬(a.toNat = 239 ∧ b.toNat = 191 ∧ 190 ≤ c.toNat) := by
  rw [Tail] at hb hc
  rw [Accepted]
  omega

/-- The accepted sequences, by the first byte. -/
theorem begins_iff {a : UInt8} {data : List UInt8} {width : ℕ} :
    Begins (a :: data) width ↔
      (a.toNat < 128 ∧ width = 1) ∨
      (194 ≤ a.toNat ∧ a.toNat < 224 ∧ width = 2 ∧ ∃ b, Tail b ∧ [b] <+: data) ∨
      (224 ≤ a.toNat ∧ a.toNat < 240 ∧ width = 3 ∧ ∃ b c, Tail b ∧ Tail c ∧
        (a.toNat = 224 → 160 ≤ b.toNat) ∧ (a.toNat = 237 → b.toNat < 160) ∧
        ¬(a.toNat = 239 ∧ b.toNat = 191 ∧ 190 ≤ c.toNat) ∧ [b, c] <+: data) ∨
      (240 ≤ a.toNat ∧ a.toNat < 245 ∧ width = 4 ∧ ∃ b c d, Tail b ∧ Tail c ∧ Tail d ∧
        (a.toNat = 240 → 144 ≤ b.toNat) ∧ (a.toNat = 244 → b.toNat < 144) ∧
        [b, c, d] <+: data) := by
  constructor
  · rintro ⟨n, bytes, hsequence, haccepted, rfl, hprefix⟩
    cases hsequence with
    | one a' ha =>
      obtain ⟨rfl, -⟩ := List.cons_prefix_cons.mp hprefix
      exact Or.inl ⟨ha, rfl⟩
    | two a' b ha hb =>
      obtain ⟨rfl, htail⟩ := List.cons_prefix_cons.mp hprefix
      exact Or.inr (Or.inl ⟨ha.1, ha.2, rfl, b, hb, htail⟩)
    | three a' b c ha hb hc hshort hscalar =>
      obtain ⟨rfl, htail⟩ := List.cons_prefix_cons.mp hprefix
      rw [accepted_three_iff ha.1 hb hc] at haccepted
      exact Or.inr (Or.inr (Or.inl ⟨ha.1, ha.2, rfl, b, c, hb, hc, hshort, hscalar, haccepted,
        htail⟩))
    | four a' b c d ha hb hc hd hshort hscalar =>
      obtain ⟨rfl, htail⟩ := List.cons_prefix_cons.mp hprefix
      exact Or.inr (Or.inr (Or.inr ⟨ha.1, ha.2, rfl, b, c, d, hb, hc, hd, hshort, hscalar,
        htail⟩))
  · rintro (⟨ha, rfl⟩ | ⟨ha, ha', rfl, b, hb, hprefix⟩ |
      ⟨ha, ha', rfl, b, c, hb, hc, hshort, hscalar, haccepted, hprefix⟩ |
      ⟨ha, ha', rfl, b, c, d, hb, hc, hd, hshort, hscalar, hprefix⟩)
    · refine ⟨_, _, Sequence.one a ha, ?_, rfl, List.prefix_append [a] data⟩
      rw [Accepted]
      omega
    · refine ⟨_, _, Sequence.two a b ⟨ha, ha'⟩ hb, ?_, rfl,
        List.cons_prefix_cons.mpr ⟨rfl, hprefix⟩⟩
      rw [Tail] at hb
      rw [Accepted]
      omega
    · refine ⟨_, _, Sequence.three a b c ⟨ha, ha'⟩ hb hc hshort hscalar, ?_, rfl,
        List.cons_prefix_cons.mpr ⟨rfl, hprefix⟩⟩
      exact (accepted_three_iff ha hb hc).mpr haccepted
    · refine ⟨_, _, Sequence.four a b c d ⟨ha, ha'⟩ hb hc hd hshort hscalar, ?_, rfl,
        List.cons_prefix_cons.mpr ⟨rfl, hprefix⟩⟩
      rw [Tail] at hb hc hd
      rw [Accepted]
      omega

section FirstByte

variable {a : UInt8} {data : List UInt8} {width : ℕ}

theorem begins_one (h : a.toNat < 128) : Begins (a :: data) width ↔ width = 1 := by
  rw [begins_iff]
  constructor
  · rintro (⟨-, hwidth⟩ | ⟨ha, -⟩ | ⟨ha, -⟩ | ⟨ha, -⟩)
    · exact hwidth
    all_goals omega
  · intro hwidth
    exact Or.inl ⟨h, hwidth⟩

theorem begins_two (h : 192 ≤ a.toNat ∧ a.toNat < 224) : Begins (a :: data) width ↔
    194 ≤ a.toNat ∧ width = 2 ∧ ∃ b, Tail b ∧ [b] <+: data := by
  rw [begins_iff]
  constructor
  · rintro (⟨ha, -⟩ | ⟨ha, -, htail⟩ | ⟨ha, -⟩ | ⟨ha, -⟩)
    on_goal 2 => exact ⟨ha, htail⟩
    all_goals omega
  · rintro ⟨ha, htail⟩
    exact Or.inr (Or.inl ⟨ha, h.2, htail⟩)

theorem begins_three (h : 224 ≤ a.toNat ∧ a.toNat < 240) : Begins (a :: data) width ↔
    width = 3 ∧ ∃ b c, Tail b ∧ Tail c ∧ (a.toNat = 224 → 160 ≤ b.toNat) ∧
      (a.toNat = 237 → b.toNat < 160) ∧
      ¬(a.toNat = 239 ∧ b.toNat = 191 ∧ 190 ≤ c.toNat) ∧ [b, c] <+: data := by
  rw [begins_iff]
  constructor
  · rintro (⟨ha, -⟩ | ⟨-, ha, -⟩ | ⟨-, -, htail⟩ | ⟨ha, -⟩)
    on_goal 3 => exact htail
    all_goals omega
  · intro htail
    exact Or.inr (Or.inr (Or.inl ⟨h.1, h.2, htail⟩))

theorem begins_four (h : 240 ≤ a.toNat) : Begins (a :: data) width ↔
    a.toNat < 245 ∧ width = 4 ∧ ∃ b c d, Tail b ∧ Tail c ∧ Tail d ∧
      (a.toNat = 240 → 144 ≤ b.toNat) ∧ (a.toNat = 244 → b.toNat < 144) ∧
      [b, c, d] <+: data := by
  rw [begins_iff]
  constructor
  · rintro (⟨ha, -⟩ | ⟨-, ha, -⟩ | ⟨-, ha, -⟩ | ⟨-, htail⟩)
    on_goal 4 => exact htail
    all_goals omega
  · intro htail
    exact Or.inr (Or.inr (Or.inr ⟨h, htail⟩))

end FirstByte

/-- The bit patterns of the first byte. -/
theorem first_byte (b : UInt8) :
    (b < 0x80 ↔ b.toNat < 128) ∧ (b &&& 0xe0 = 0xc0 ↔ 192 ≤ b.toNat ∧ b.toNat < 224) ∧
      (b &&& 0xf0 = 0xe0 ↔ 224 ≤ b.toNat ∧ b.toNat < 240) ∧
      (b &&& 0xf8 = 0xf0 ↔ 240 ≤ b.toNat ∧ b.toNat < 248) ∧
      (b &&& 0xfe = 0xc0 ↔ 192 ≤ b.toNat ∧ b.toNat < 194) := by
  rw [masked_iff 0xe0 5 (by decide) rfl, masked_iff 0xf0 4 (by decide) rfl,
    masked_iff 0xf8 3 (by decide) rfl, masked_iff 0xfe 1 (by decide) rfl]
  simp only [UInt8.reduceToNat, Nat.reducePow, UInt8.lt_iff_toNat_lt]
  refine ⟨trivial, ?_, ?_, ?_, ?_⟩ <;> omega

/-- What a round finds: a sequence that is accepted, with which the list goes on as well, or
nothing that is. -/
def RoundFinds (data : List UInt8) (r : Option ℕ) : Prop :=
  Raw.utf8_round data data.length 0 = some r ∧
    is_data_utf8 data = r.elim false (fun n => is_data_utf8 (data.drop n)) ∧
    ∀ n, r = some n ↔ Begins data n

/-- A round that ends with one test. -/
theorem round_tests {data : List UInt8} (c : Prop) [Decidable c] (width : ℕ)
    (hround : Raw.utf8_round data data.length 0 = some (if c then none else some width))
    (hdata : is_data_utf8 data = if c then false else is_data_utf8 (data.drop width))
    (hbegins : ∀ n, Begins data n ↔ n = width ∧ ¬c) : ∃ r, RoundFinds data r := by
  refine ⟨_, hround, ?_, fun n => ?_⟩
  · rw [hdata]
    split <;> rfl
  · rw [hbegins]
    split
    · rename_i hc
      exact iff_of_false nofun fun h => h.2 hc
    · rename_i hc
      rw [Option.some.injEq, and_iff_left hc, eq_comm]

/-- A round that refuses the data without a test: too few bytes are left, or the first one
begins no sequence. -/
theorem round_refuses {data : List UInt8}
    (hround : Raw.utf8_round data data.length 0 = some none)
    (hdata : is_data_utf8 data = false) (h : ∀ n, ¬Begins data n) : ∃ r, RoundFinds data r :=
  ⟨none, hround, hdata, fun n => iff_of_false nofun (h n)⟩

section Rounds

variable {b₀ : UInt8} {data : List UInt8}

theorem round_one (h : b₀.toNat < 128) : ∃ r, RoundFinds (b₀ :: data) r := by
  have hbyte : b₀ < 0x80 := UInt8.lt_iff_toNat_lt.mpr h
  refine round_tests False 1 ?_ ?_ fun n => ?_
  · rw [Raw.utf8_round, List.getElem?_cons_zero, Option.bind_eq_bind, Option.bind_some,
      if_pos hbyte]
    rfl
  · rw [is_data_utf8.eq_def]
    dsimp only
    rw [if_pos hbyte]
    rfl
  · rw [begins_one h, and_iff_left not_false]

theorem round_two (h : 192 ≤ b₀.toNat ∧ b₀.toNat < 224) : ∃ r, RoundFinds (b₀ :: data) r := by
  obtain ⟨hone, htwo, -, -, hshort⟩ := first_byte b₀
  have hone' : ¬b₀ < 0x80 := hone.not.mpr (by omega)
  have htwo' := htwo.mpr h
  match data with
  | [] =>
    refine round_refuses ?_ ?_ fun n => ?_
    · rw [Raw.utf8_round, List.getElem?_cons_zero, Option.bind_eq_bind, Option.bind_some,
        if_neg hone', if_pos htwo']
      rfl
    · rw [is_data_utf8.eq_def]
      dsimp only
      rw [if_neg hone', if_pos htwo']
    · simp [begins_two h]
  | b₁ :: data =>
    refine round_tests (!is_continuation b₁ ∨ b₀ &&& 0xfe = 0xc0) 2 ?_ ?_ fun n => ?_
    · rw [Raw.utf8_round, List.getElem?_cons_zero, Option.bind_eq_bind, Option.bind_some,
        if_neg hone', if_pos htwo', if_neg (by simp)]
      exact (apply_ite some _ _ _).symm
    · rw [is_data_utf8.eq_def]
      dsimp only
      rw [if_neg hone', if_pos htwo']
      rfl
    · rw [begins_two h, Bool.not_eq_true', ← Bool.not_eq_true, is_continuation_iff, hshort]
      simp only [List.cons_prefix_cons, List.nil_prefix, and_true, exists_eq_right, Tail]
      omega

/-- The tests of the bytes behind the first one of three. -/
theorem bytes_of_three (b₁ b₂ : UInt8) :
    ((!is_continuation b₁) = true ∨ (!is_continuation b₂) = true ∨
      (b₀ = 0xe0 ∧ b₁ &&& 0xe0 = 0x80) ∨ (b₀ = 0xed ∧ b₁ &&& 0xe0 = 0xa0) ∨
      (b₀ = 0xef ∧ b₁ = 0xbf ∧ b₂ &&& 0xfe = 0xbe)) ↔
    ¬(Tail b₁ ∧ Tail b₂ ∧ (b₀.toNat = 224 → 160 ≤ b₁.toNat) ∧
      (b₀.toNat = 237 → b₁.toNat < 160) ∧
      ¬(b₀.toNat = 239 ∧ b₁.toNat = 191 ∧ 190 ≤ b₂.toNat)) := by
  rw [Bool.not_eq_true', Bool.not_eq_true', ← Bool.not_eq_true, ← Bool.not_eq_true,
    is_continuation_iff, is_continuation_iff, masked_iff 0xe0 5 (by decide) rfl,
    masked_iff 0xe0 5 (by decide) rfl, masked_iff 0xfe 1 (by decide) rfl]
  simp only [← UInt8.toNat_inj, UInt8.reduceToNat, Nat.reducePow, Tail]
  omega

theorem first_byte_three (h : 224 ≤ b₀.toNat ∧ b₀.toNat < 240) :
    ¬b₀ < 0x80 ∧ ¬b₀ &&& 0xe0 = 0xc0 ∧ b₀ &&& 0xf0 = 0xe0 := by
  obtain ⟨hone, htwo, hthree, -, -⟩ := first_byte b₀
  exact ⟨hone.not.mpr (by omega), htwo.not.mpr (by omega), hthree.mpr h⟩

theorem round_three_short (h : 224 ≤ b₀.toNat ∧ b₀.toNat < 240) (hlen : data.length < 2) :
    ∃ r, RoundFinds (b₀ :: data) r := by
  obtain ⟨hone, htwo, hthree⟩ := first_byte_three h
  refine round_refuses ?_ ?_ fun n => ?_
  · rw [Raw.utf8_round, List.getElem?_cons_zero, Option.bind_eq_bind, Option.bind_some,
      if_neg hone, if_neg htwo, if_pos hthree, if_pos (by rw [List.length_cons]; omega)]
    rfl
  · rw [is_data_utf8.eq_def]
    dsimp only
    rw [if_neg hone, if_neg htwo, if_pos hthree]
    split
    · rw [List.length_cons, List.length_cons] at hlen
      omega
    · rfl
  · rw [begins_three h]
    rintro ⟨-, b, c, -, -, -, -, -, hprefix⟩
    have hle := hprefix.length_le
    rw [List.length_cons, List.length_singleton] at hle
    omega

theorem round_three (h : 224 ≤ b₀.toNat ∧ b₀.toNat < 240) : ∃ r, RoundFinds (b₀ :: data) r := by
  obtain ⟨hone, htwo, hthree⟩ := first_byte_three h
  match data with
  | [] => exact round_three_short h (by simp)
  | [b₁] => exact round_three_short h (by simp)
  | b₁ :: b₂ :: data =>
    refine round_tests (!is_continuation b₁ ∨ !is_continuation b₂ ∨
      (b₀ = 0xe0 ∧ b₁ &&& 0xe0 = 0x80) ∨ (b₀ = 0xed ∧ b₁ &&& 0xe0 = 0xa0) ∨
      (b₀ = 0xef ∧ b₁ = 0xbf ∧ b₂ &&& 0xfe = 0xbe)) 3 ?_ ?_ fun n => ?_
    · rw [Raw.utf8_round, List.getElem?_cons_zero, Option.bind_eq_bind, Option.bind_some,
        if_neg hone, if_neg htwo, if_pos hthree, if_neg (by simp)]
      exact (apply_ite some _ _ _).symm
    · rw [is_data_utf8.eq_def]
      dsimp only
      rw [if_neg hone, if_neg htwo, if_pos hthree]
      rfl
    · rw [begins_three h, bytes_of_three, not_not]
      simp

/-- The tests of the bytes behind the first one of four. -/
theorem bytes_of_four (b₁ b₂ b₃ : UInt8) (h : 240 ≤ b₀.toNat) :
    ((!is_continuation b₁) = true ∨ (!is_continuation b₂) = true ∨
      (!is_continuation b₃) = true ∨ (b₀ = 0xf0 ∧ b₁ &&& 0xf0 = 0x80) ∨
      (b₀ = 0xf4 ∧ b₁ > 0x8f) ∨ b₀ > 0xf4) ↔
    ¬(b₀.toNat < 245 ∧ Tail b₁ ∧ Tail b₂ ∧ Tail b₃ ∧ (b₀.toNat = 240 → 144 ≤ b₁.toNat) ∧
      (b₀.toNat = 244 → b₁.toNat < 144)) := by
  rw [Bool.not_eq_true', Bool.not_eq_true', Bool.not_eq_true', ← Bool.not_eq_true,
    ← Bool.not_eq_true, ← Bool.not_eq_true, is_continuation_iff, is_continuation_iff,
    is_continuation_iff, masked_iff 0xf0 4 (by decide) rfl]
  simp only [← UInt8.toNat_inj, gt_iff_lt, UInt8.lt_iff_toNat_lt, UInt8.reduceToNat,
    Nat.reducePow, Tail]
  omega

theorem first_byte_four (h : 240 ≤ b₀.toNat ∧ b₀.toNat < 248) :
    ¬b₀ < 0x80 ∧ ¬b₀ &&& 0xe0 = 0xc0 ∧ ¬b₀ &&& 0xf0 = 0xe0 ∧ b₀ &&& 0xf8 = 0xf0 := by
  obtain ⟨hone, htwo, hthree, hfour, -⟩ := first_byte b₀
  exact ⟨hone.not.mpr (by omega), htwo.not.mpr (by omega), hthree.not.mpr (by omega),
    hfour.mpr h⟩

theorem round_four_short (h : 240 ≤ b₀.toNat ∧ b₀.toNat < 248) (hlen : data.length < 3) :
    ∃ r, RoundFinds (b₀ :: data) r := by
  obtain ⟨hone, htwo, hthree, hfour⟩ := first_byte_four h
  refine round_refuses ?_ ?_ fun n => ?_
  · rw [Raw.utf8_round, List.getElem?_cons_zero, Option.bind_eq_bind, Option.bind_some,
      if_neg hone, if_neg htwo, if_neg hthree, if_pos hfour,
      if_pos (by rw [List.length_cons]; omega)]
    rfl
  · rw [is_data_utf8.eq_def]
    dsimp only
    rw [if_neg hone, if_neg htwo, if_neg hthree, if_pos hfour]
    split
    · rw [List.length_cons, List.length_cons, List.length_cons] at hlen
      omega
    · rfl
  · rw [begins_four h.1]
    rintro ⟨-, -, b, c, d, -, -, -, -, -, hprefix⟩
    have hle := hprefix.length_le
    rw [List.length_cons, List.length_cons, List.length_singleton] at hle
    omega

theorem round_four (h : 240 ≤ b₀.toNat ∧ b₀.toNat < 248) : ∃ r, RoundFinds (b₀ :: data) r := by
  obtain ⟨hone, htwo, hthree, hfour⟩ := first_byte_four h
  match data with
  | [] => exact round_four_short h (by simp)
  | [b₁] => exact round_four_short h (by simp)
  | [b₁, b₂] => exact round_four_short h (by simp)
  | b₁ :: b₂ :: b₃ :: data =>
    refine round_tests (!is_continuation b₁ ∨ !is_continuation b₂ ∨ !is_continuation b₃ ∨
      (b₀ = 0xf0 ∧ b₁ &&& 0xf0 = 0x80) ∨ (b₀ = 0xf4 ∧ b₁ > 0x8f) ∨ b₀ > 0xf4) 4 ?_ ?_
      fun n => ?_
    · rw [Raw.utf8_round, List.getElem?_cons_zero, Option.bind_eq_bind, Option.bind_some,
        if_neg hone, if_neg htwo, if_neg hthree, if_pos hfour, if_neg (by simp)]
      exact (apply_ite some _ _ _).symm
    · rw [is_data_utf8.eq_def]
      dsimp only
      rw [if_neg hone, if_neg htwo, if_neg hthree, if_pos hfour]
      rfl
    · rw [begins_four h.1, bytes_of_four b₁ b₂ b₃ h.1, not_not]
      simp only [List.cons_prefix_cons, List.nil_prefix, and_true]
      constructor
      · rintro ⟨ha, hn, b, c, d, hb, hc, hd, hshort, hscalar, rfl, rfl, rfl⟩
        exact ⟨hn, ha, hb, hc, hd, hshort, hscalar⟩
      · rintro ⟨hn, ha, hb, hc, hd, hshort, hscalar⟩
        exact ⟨ha, hn, b₁, b₂, b₃, hb, hc, hd, hshort, hscalar, rfl, rfl, rfl⟩

/-- **Every round** finds an accepted sequence or refuses the data. -/
theorem round_finds (b₀ : UInt8) (data : List UInt8) : ∃ r, RoundFinds (b₀ :: data) r := by
  by_cases hone : b₀.toNat < 128
  · exact round_one hone
  by_cases htwo : 192 ≤ b₀.toNat ∧ b₀.toNat < 224
  · exact round_two htwo
  by_cases hthree : 224 ≤ b₀.toNat ∧ b₀.toNat < 240
  · exact round_three hthree
  by_cases hfour : 240 ≤ b₀.toNat ∧ b₀.toNat < 248
  · exact round_four hfour
  -- a byte that goes on with a sequence, or none of UTF-8
  obtain ⟨hone', htwo', hthree', hfour', -⟩ := first_byte b₀
  refine round_refuses ?_ ?_ fun n => ?_
  · rw [Raw.utf8_round, List.getElem?_cons_zero, Option.bind_eq_bind, Option.bind_some,
      if_neg (hone'.not.mpr hone), if_neg (htwo'.not.mpr htwo), if_neg (hthree'.not.mpr hthree),
      if_neg (hfour'.not.mpr hfour)]
    rfl
  · rw [is_data_utf8.eq_def]
    dsimp only
    rw [if_neg (hone'.not.mpr hone), if_neg (htwo'.not.mpr htwo), if_neg (hthree'.not.mpr hthree),
      if_neg (hfour'.not.mpr hfour)]
  · rw [begins_iff]
    rintro (⟨ha, -⟩ | ⟨ha, ha', -⟩ | ⟨ha, ha', -⟩ | ⟨ha, ha', -⟩)
    all_goals omega

end Rounds

/-! ## The loop -/

/-- A round at an index is one at the start of what lies from there on. -/
theorem utf8_round_drop {data : List UInt8} {i : ℕ} (hi : i ≤ data.length) :
    Raw.utf8_round data data.length i =
      (Raw.utf8_round (data.drop i) (data.drop i).length 0).map (Option.map (i + ·)) := by
  have hlen : ∀ k, i + k ≥ data.length ↔ 0 + k ≥ (data.drop i).length := by
    intro k
    rw [List.length_drop]
    omega
  -- the map is moved into the branches, where the two sides read the same bytes
  simp only [Raw.utf8_round, List.getElem?_drop, hlen, Nat.add_zero, Nat.zero_add,
    Option.bind_eq_bind, Option.map_bind, Option.pure_def, Function.comp_def,
    apply_ite (Option.map (Option.map (i + ·))), Option.map_some, Option.map_none]

/-- A sequence has at least one byte, all of them in the data. -/
theorem begins_width {data : List UInt8} {width : ℕ} (h : Begins data width) :
    1 ≤ width ∧ width ≤ data.length := by
  obtain ⟨n, bytes, hsequence, -, rfl, hprefix⟩ := h
  refine ⟨?_, hprefix.length_le⟩
  cases hsequence <;> simp

/-- **The loop from an index** decides the bytes from there on, with a round for each of them
at most. -/
theorem utf8_loop_eq (data : List UInt8) (rounds i : ℕ) (hi : i ≤ data.length)
    (hrounds : data.length - i ≤ rounds) :
    Raw.utf8_loop data data.length rounds i = some (is_data_utf8 (data.drop i)) := by
  induction rounds generalizing i with
  | zero =>
    have hend : i = data.length := by omega
    rw [Raw.utf8_loop, if_neg (by omega), hend, List.drop_length]
    rfl
  | succ rounds ih =>
    by_cases hmore : i < data.length
    · rw [Raw.utf8_loop, if_pos hmore, utf8_round_drop hi]
      obtain ⟨r, hround, hdata, hbegins⟩ := round_finds data[i] (data.drop (i + 1))
      rw [List.getElem_cons_drop] at hround hdata hbegins
      rw [hround, hdata]
      cases r with
      | none => rfl
      | some width =>
        obtain ⟨hpos, hle⟩ := begins_width ((hbegins width).mp rfl)
        rw [List.length_drop] at hle
        change Raw.utf8_loop data data.length rounds (i + width) = _
        rw [ih (i + width) (by omega) (by omega), Option.elim_some, List.drop_drop]
    · have hend : i = data.length := by omega
      rw [Raw.utf8_loop, if_neg hmore, hend, List.drop_length]
      rfl

/-! ## What is accepted -/

/-- The bytes of characters, none of them U+FFFE or U+FFFF. -/
def WellFormed (data : List UInt8) : Prop :=
  ∃ chars : List Char, (∀ c ∈ chars, Accepted c.toNat) ∧
    data = chars.flatMap String.utf8EncodeChar

/-- The data is accepted exactly when it begins with a sequence after which it is accepted. -/
theorem is_data_utf8_cons (b₀ : UInt8) (data : List UInt8) :
    is_data_utf8 (b₀ :: data) = true ↔
      ∃ width, Begins (b₀ :: data) width ∧ is_data_utf8 ((b₀ :: data).drop width) = true := by
  obtain ⟨r, -, hdata, hbegins⟩ := round_finds b₀ data
  rw [hdata]
  simp only [← hbegins]
  cases r with
  | none => simp
  | some width => simp

/-- **Only well-formed data is accepted**, by induction on its length. -/
theorem well_formed_of_accepted (n : ℕ) (data : List UInt8) (hn : data.length = n)
    (h : is_data_utf8 data = true) : WellFormed data := by
  induction n using Nat.strongRecOn generalizing data with
  | ind n ih =>
    cases data with
    | nil => exact ⟨[], nofun, rfl⟩
    | cons b₀ data =>
      obtain ⟨width, hbegins, hrest⟩ := (is_data_utf8_cons b₀ data).mp h
      obtain ⟨hpos, -⟩ := begins_width hbegins
      obtain ⟨code, bytes, hsequence, haccepted, rfl, hprefix⟩ := hbegins
      obtain ⟨c, rfl, rfl⟩ := hsequence.exists_char
      obtain ⟨rest, hdata⟩ := hprefix
      rw [← hdata, List.drop_left] at hrest
      rw [← hdata, List.length_append] at hn
      obtain ⟨chars, hchars, rfl⟩ := ih rest.length (by omega) rest rfl hrest
      refine ⟨c :: chars, ?_, hdata.symm⟩
      rw [List.forall_mem_cons]
      exact ⟨haccepted, hchars⟩

/-- **All well-formed data is accepted**, character by character. -/
theorem accepted_of_well_formed (chars : List Char) (h : ∀ c ∈ chars, Accepted c.toNat) :
    is_data_utf8 (chars.flatMap String.utf8EncodeChar) = true := by
  induction chars with
  | nil => rfl
  | cons c chars ih =>
    obtain ⟨hc, hchars⟩ := List.forall_mem_cons.mp h
    have hsequence := sequence_encode c
    rw [List.flatMap_cons]
    have hbegins : Begins (String.utf8EncodeChar c ++ chars.flatMap String.utf8EncodeChar)
        (String.utf8EncodeChar c).length :=
      ⟨_, _, hsequence, hc, rfl, List.prefix_append _ _⟩
    obtain ⟨hpos, -⟩ := begins_width hbegins
    obtain ⟨b₀, bytes, hbytes⟩ := List.exists_cons_of_length_pos hpos
    rw [hbytes, List.cons_append] at hbegins ⊢
    rw [is_data_utf8_cons]
    refine ⟨_, hbegins, ?_⟩
    rw [← List.cons_append, List.drop_left]
    exact ih hchars

theorem is_data_utf8_iff (data : List UInt8) : is_data_utf8 data = true ↔ WellFormed data := by
  constructor
  · intro h
    exact well_formed_of_accepted data.length data rfl h
  · rintro ⟨chars, hchars, rfl⟩
    exact accepted_of_well_formed chars hchars

theorem WellFormed.append {data data' : List UInt8} (h : WellFormed data)
    (h' : WellFormed data') : WellFormed (data ++ data') := by
  obtain ⟨chars, hchars, rfl⟩ := h
  obtain ⟨chars', hchars', rfl⟩ := h'
  refine ⟨chars ++ chars', ?_, List.flatMap_append.symm⟩
  intro c hc
  rw [List.mem_append] at hc
  exact hc.elim (hchars c) (hchars' c)

/-- Printable ASCII is UTF-8, every byte a sequence. -/
theorem utf8_of_ascii (data : List UInt8) (h : is_data_ascii data = true) :
    is_data_utf8 data = true := by
  induction data with
  | nil => rfl
  | cons b₀ data ih =>
    rw [is_data_ascii, List.all_cons, Bool.and_eq_true] at h
    obtain ⟨hbyte, hrest⟩ := h
    rw [Bool.not_eq_true', decide_eq_false_iff_not, not_or, gt_iff_lt, UInt8.not_lt,
      UInt8.not_lt, UInt8.le_iff_toNat_le, UInt8.le_iff_toNat_le] at hbyte
    have hsmall : b₀.toNat < 128 := Nat.lt_of_le_of_lt hbyte.2 (by decide)
    exact (is_data_utf8_cons b₀ data).mpr ⟨1, (begins_one hsmall).mpr rfl, ih hrest⟩

/-- **`is_data_utf8` accepts exactly well-formed UTF-8**: on memory it ends and reads inside the
data only, and it returns `true` exactly on the encodings of characters other than U+FFFE and
U+FFFF. What it accepts can be joined, and printable ASCII is among it. -/
theorem utf8_exact (data : List UInt8) :
    Raw.is_data_utf8 (some data) data.length = some (is_data_utf8 data) ∧
      (is_data_utf8 data = true ↔
        ∃ chars : List Char, (∀ c ∈ chars, c.toNat ≠ 0xFFFE ∧ c.toNat ≠ 0xFFFF) ∧
          data = chars.flatMap String.utf8EncodeChar) ∧
      (∀ data', is_data_utf8 data = true → is_data_utf8 data' = true →
        is_data_utf8 (data ++ data') = true) ∧
      (is_data_ascii data = true → is_data_utf8 data = true) := by
  refine ⟨?_, is_data_utf8_iff data, fun data' h h' => ?_, utf8_of_ascii data⟩
  · have hloop := utf8_loop_eq data data.length 0 (Nat.zero_le _) (by omega)
    rwa [List.drop_zero] at hloop
  · rw [is_data_utf8_iff] at h h' ⊢
    exact h.append h'

end RenecLedger
