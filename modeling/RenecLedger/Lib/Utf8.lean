/-
The byte sequences of UTF-8.

`Sequence n bytes` says that `bytes` is the shortest form of the scalar value `n`, as ranges of
the bytes in it: one constructor for each length. It is the encoding of a character
(`sequence_iff`), so a decoder that tests its bytes by such ranges is verified one sequence at a
time.
-/
import Mathlib.Data.Nat.Notation

set_option autoImplicit false

namespace Utf8Lib

/-- A byte that goes on with a sequence. -/
def Tail (b : UInt8) : Prop := 128 ≤ b.toNat ∧ b.toNat < 192

/-- The shortest form of a scalar value. A sequence of three bytes may not be a surrogate. -/
inductive Sequence : ℕ → List UInt8 → Prop
  | one (a : UInt8) (ha : a.toNat < 128) : Sequence a.toNat [a]
  | two (a b : UInt8) (ha : 194 ≤ a.toNat ∧ a.toNat < 224) (hb : Tail b) :
    Sequence ((a.toNat - 192) * 64 + (b.toNat - 128)) [a, b]
  | three (a b c : UInt8) (ha : 224 ≤ a.toNat ∧ a.toNat < 240) (hb : Tail b) (hc : Tail c)
      (hshort : a.toNat = 224 → 160 ≤ b.toNat) (hscalar : a.toNat = 237 → b.toNat < 160) :
    Sequence ((a.toNat - 224) * 4096 + (b.toNat - 128) * 64 + (c.toNat - 128)) [a, b, c]
  | four (a b c d : UInt8) (ha : 240 ≤ a.toNat ∧ a.toNat < 245) (hb : Tail b) (hc : Tail c)
      (hd : Tail d) (hshort : a.toNat = 240 → 144 ≤ b.toNat)
      (hscalar : a.toNat = 244 → b.toNat < 144) :
    Sequence ((a.toNat - 240) * 262144 + (b.toNat - 128) * 4096 + (c.toNat - 128) * 64 +
      (d.toNat - 128)) [a, b, c, d]

/-- A byte is what its number says. -/
theorem ofNat_eq {n : ℕ} {b : UInt8} (h : n % 256 = b.toNat) : UInt8.ofNat n = b := by
  apply UInt8.toNat.inj
  rw [UInt8.toNat_ofNat']
  exact h

/-- The scalar values. -/
theorem char_scalar (c : Char) : c.toNat < 55296 ∨ 57343 < c.toNat ∧ c.toNat < 1114112 := c.valid

theorem exists_char {n : ℕ} (h : n < 55296 ∨ 57343 < n ∧ n < 1114112) :
    ∃ c : Char, c.toNat = n := by
  refine ⟨Char.ofNat n, ?_⟩
  rw [Char.ofNat, dif_pos h]
  rfl

/-- The bytes that are computed are bytes. -/
theorem toNat_ofNat {n : ℕ} (h : n < 256) : (UInt8.ofNat n).toNat = n := by
  rw [UInt8.toNat_ofNat']
  exact Nat.mod_eq_of_lt h

/-- The bytes of the character `v`, as it is encoded. -/
def encode (v : ℕ) : List UInt8 :=
  if v ≤ 127 then [UInt8.ofNat v]
  else if v ≤ 2047 then [UInt8.ofNat (v / 64 % 32 + 192), UInt8.ofNat (v % 64 + 128)]
  else if v ≤ 65535 then
    [UInt8.ofNat (v / 4096 % 16 + 224), UInt8.ofNat (v / 64 % 64 + 128),
      UInt8.ofNat (v % 64 + 128)]
  else
    [UInt8.ofNat (v / 262144 % 8 + 240), UInt8.ofNat (v / 4096 % 64 + 128),
      UInt8.ofNat (v / 64 % 64 + 128), UInt8.ofNat (v % 64 + 128)]

theorem utf8EncodeChar_eq (c : Char) : String.utf8EncodeChar c = encode c.toNat := rfl

/-- The encoding of a character is a sequence. -/
theorem sequence_encode (c : Char) : Sequence c.toNat (String.utf8EncodeChar c) := by
  have hvalid := char_scalar c
  rw [utf8EncodeChar_eq]
  generalize c.toNat = v at hvalid ⊢
  rw [encode]
  have ha₂ := toNat_ofNat (show v / 64 % 32 + 192 < 256 by omega)
  have ha₃ := toNat_ofNat (show v / 4096 % 16 + 224 < 256 by omega)
  have ha₄ := toNat_ofNat (show v / 262144 % 8 + 240 < 256 by omega)
  have hb₄ := toNat_ofNat (show v / 4096 % 64 + 128 < 256 by omega)
  have hb₃ := toNat_ofNat (show v / 64 % 64 + 128 < 256 by omega)
  have hb₂ := toNat_ofNat (show v % 64 + 128 < 256 by omega)
  split
  · rename_i hone
    have hseq := Sequence.one (UInt8.ofNat v)
    rw [toNat_ofNat (by omega)] at hseq
    exact hseq (by omega)
  split
  · rename_i hone htwo
    have hseq := Sequence.two (UInt8.ofNat (v / 64 % 32 + 192)) (UInt8.ofNat (v % 64 + 128))
    rw [Tail, ha₂, hb₂] at hseq
    have hvalue : (v / 64 % 32 + 192 - 192) * 64 + (v % 64 + 128 - 128) = v := by omega
    rw [hvalue] at hseq
    exact hseq (by omega) (by omega)
  split
  · rename_i hone htwo hthree
    have hseq := Sequence.three (UInt8.ofNat (v / 4096 % 16 + 224))
      (UInt8.ofNat (v / 64 % 64 + 128)) (UInt8.ofNat (v % 64 + 128))
    rw [Tail, Tail, ha₃, hb₃, hb₂] at hseq
    have hvalue : (v / 4096 % 16 + 224 - 224) * 4096 + (v / 64 % 64 + 128 - 128) * 64 +
        (v % 64 + 128 - 128) = v := by omega
    rw [hvalue] at hseq
    exact hseq (by omega) (by omega) (by omega) (by omega) (by omega)
  · rename_i hone htwo hthree
    have hseq := Sequence.four (UInt8.ofNat (v / 262144 % 8 + 240))
      (UInt8.ofNat (v / 4096 % 64 + 128)) (UInt8.ofNat (v / 64 % 64 + 128))
      (UInt8.ofNat (v % 64 + 128))
    rw [Tail, Tail, Tail, ha₄, hb₄, hb₃, hb₂] at hseq
    have hvalue : (v / 262144 % 8 + 240 - 240) * 262144 + (v / 4096 % 64 + 128 - 128) * 4096 +
        (v / 64 % 64 + 128 - 128) * 64 + (v % 64 + 128 - 128) = v := by omega
    rw [hvalue] at hseq
    exact hseq (by omega) (by omega) (by omega) (by omega) (by omega) (by omega)

/-- Every sequence is the encoding of a character. -/
theorem Sequence.exists_char {n : ℕ} {bytes : List UInt8} (h : Sequence n bytes) :
    ∃ c : Char, c.toNat = n ∧ String.utf8EncodeChar c = bytes := by
  have hencode : (n < 55296 ∨ 57343 < n ∧ n < 1114112) ∧ encode n = bytes := by
    cases h with
    | one a ha =>
      refine ⟨by omega, ?_⟩
      rw [encode, if_pos (by omega), UInt8.ofNat_toNat]
    | two a b ha hb =>
      rw [Tail] at hb
      refine ⟨by omega, ?_⟩
      rw [encode, if_neg (by omega), if_pos (by omega), ofNat_eq (b := a) (by omega),
        ofNat_eq (b := b) (by omega)]
    | three a b c ha hb hc hshort hscalar =>
      rw [Tail] at hb hc
      refine ⟨by omega, ?_⟩
      rw [encode, if_neg (by omega), if_neg (by omega), if_pos (by omega),
        ofNat_eq (b := a) (by omega), ofNat_eq (b := b) (by omega), ofNat_eq (b := c) (by omega)]
    | four a b c d ha hb hc hd hshort hscalar =>
      rw [Tail] at hb hc hd
      refine ⟨by omega, ?_⟩
      rw [encode, if_neg (by omega), if_neg (by omega), if_neg (by omega),
        ofNat_eq (b := a) (by omega), ofNat_eq (b := b) (by omega), ofNat_eq (b := c) (by omega),
        ofNat_eq (b := d) (by omega)]
  obtain ⟨hscalar, hbytes⟩ := hencode
  obtain ⟨c, hc⟩ := Utf8Lib.exists_char hscalar
  refine ⟨c, hc, ?_⟩
  rw [utf8EncodeChar_eq, hc, hbytes]

end Utf8Lib
