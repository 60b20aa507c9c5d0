/-
A text in base 58 stands for one byte string.

`encode_base58` writes the encoding whenever it fits, with its terminator, and `copies_text` says
what it leaves in the output. The encoding keeps the leading zero bytes apart from the number of
the others, and can be read back (`base58_injective`).
-/
import RenecLedger.TextBounds

set_option autoImplicit false

namespace RenecLedger

/-! ## Reading the encoding back -/

theorem drop_takeWhile {α : Type} (p : α → Bool) (l : List α) :
    l.drop (l.takeWhile p).length = l.dropWhile p :=
  calc l.drop (l.takeWhile p).length
      = (l.takeWhile p ++ l.dropWhile p).drop (l.takeWhile p).length := by
        rw [List.takeWhile_append_dropWhile]
    _ = l.dropWhile p := List.drop_left

/-- Bytes that do not begin with zero are the digits of their number. -/
theorem digits_big_endian {bytes : List UInt8} (h : bytes.head? ≠ some 0) :
    Nat.digits 256 (big_endian bytes) = bytes.reverse.map UInt8.toNat := by
  refine Nat.digits_ofDigits 256 (by decide) _ ?_ fun hne hlast => ?_
  · intro x hx
    obtain ⟨b, -, rfl⟩ := List.mem_map.mp hx
    exact b.toNat_lt
  · rw [List.getLast_map, List.getLast_reverse] at hlast
    have hbytes : bytes ≠ [] := by
      rintro rfl
      exact hne rfl
    have hzero : bytes.head hbytes = 0 := UInt8.toNat_inj.mp hlast
    exact h (by rw [List.head?_eq_some_head hbytes, hzero])

/-- Bytes are told by the number of their leading zeros and by their number. -/
theorem bytes_eq {bytes bytes' : List UInt8}
    (hzeros : (bytes.takeWhile (· = 0)).length = (bytes'.takeWhile (· = 0)).length)
    (hvalue : big_endian bytes = big_endian bytes') : bytes = bytes' := by
  have hrest : ∀ bytes : List UInt8, (bytes.dropWhile (· = 0)).head? ≠ some 0 := by
    intro bytes hhead
    have hnot := List.head?_dropWhile_not (fun b : UInt8 => decide (b = 0)) bytes
    rw [hhead] at hnot
    exact absurd hnot (by decide)
  have hfront : ∀ bytes : List UInt8, bytes.takeWhile (· = 0) =
      List.replicate (bytes.takeWhile (· = 0)).length 0 := fun bytes =>
    List.eq_replicate_iff.mpr ⟨rfl, fun b hb => by simpa using List.mem_takeWhile_imp hb⟩
  rw [← big_endian_zeros bytes, ← big_endian_zeros bytes', drop_takeWhile, drop_takeWhile]
    at hvalue
  have hdigits := digits_big_endian (hrest bytes)
  rw [hvalue, digits_big_endian (hrest bytes')] at hdigits
  have htail : bytes'.dropWhile (· = 0) = bytes.dropWhile (· = 0) :=
    List.reverse_injective (List.map_injective_iff.mpr
      (fun a b hab => UInt8.toNat_inj.mp hab) hdigits)
  rw [← List.takeWhile_append_dropWhile (p := fun b : UInt8 => decide (b = 0)) (l := bytes),
    ← htail, hfront bytes, hzeros, ← hfront bytes', List.takeWhile_append_dropWhile]

theorem base58_char_inj : ∀ m < 58, ∀ n < 58, base58_char m = base58_char n → m = n := by
  decide +kernel

theorem base58_number_injective : Function.Injective base58_number := by
  intro m n h
  have hdigits : ∀ n, ∀ x ∈ Nat.digits 58 n, x < 58 := fun n x hx =>
    Nat.digits_lt_base (by decide) hx
  exact Nat.digits_inj_iff.mp (NumeralLib.map_injOn base58_char_inj (hdigits m) (hdigits n)
    (List.reverse_injective h))

/-- The ones in front of an encoding are the zeros in front of the bytes. -/
theorem takeWhile_base58 (bytes : List UInt8) :
    ((base58 bytes).takeWhile (· = base58_char 0)).length =
      (bytes.takeWhile (· = 0)).length := by
  have hnumber : (base58_number (big_endian bytes)).takeWhile (· = base58_char 0) = [] := by
    cases hdigits : base58_number (big_endian bytes) with
    | nil => rfl
    | cons c rest =>
      have hc := base58_number_head _ c rest hdigits
      rw [List.takeWhile_cons_of_neg (by simpa using hc)]
  rw [base58, List.takeWhile_append_of_pos fun c hc =>
    decide_eq_true (List.eq_of_mem_replicate hc), hnumber, List.append_nil, List.length_replicate]

/-- **Different byte strings** have different encodings, of whatever lengths they are. -/
theorem base58_injective : Function.Injective base58 := by
  intro bytes bytes' h
  have hzeros : (bytes.takeWhile (· = 0)).length = (bytes'.takeWhile (· = 0)).length := by
    rw [← takeWhile_base58 bytes, h, takeWhile_base58]
  rw [base58, base58, hzeros, List.append_cancel_left_eq] at h
  exact bytes_eq hzeros (base58_number_injective h)

/-! ## Writing it -/

/-- The encoding and its terminator, where the output has room for them. -/
theorem copies_text {text out : List UInt8} (h : text.length < out.length) :
    (do
      let out ← copy_at out 0 text
      let out ← write_at out text.length 0
      return (0, out) : PrintResult) =
        some (0, text ++ 0 :: out.drop (text.length + 1)) := by
  have hcopy : copy_at out 0 text = some (text ++ out.drop text.length) := by
    rw [copy_at, if_pos (by omega), List.take_zero, List.nil_append, Nat.zero_add]
  rw [hcopy, ← List.cons_getElem_drop_succ (h := h)]
  change (write_at (text ++ _ :: _) text.length 0).bind _ = _
  rw [write_at_append]
  rfl

/-- **`encode_base58` is exact**: it returns 0 exactly when the encoding and its terminator fit,
and then writes them. The encoding of 32 bytes has at most 44 characters, and no other bytes have
it. -/
theorem encode_base58_exact {bytes out : List UInt8} {maxoutlen : ℕ}
    (hlength : bytes.length ≤ 32) (hout : maxoutlen ≤ out.length) :
    (encode_base58 bytes out maxoutlen =
      if (base58 bytes).length < maxoutlen then
        some (0, base58 bytes ++ 0 :: out.drop ((base58 bytes).length + 1))
      else some (EXCEPTION_OVERFLOW, out)) ∧
    ((∃ out', encode_base58 bytes out maxoutlen = some (0, out')) ↔
      (base58 bytes).length < maxoutlen) ∧
    (bytes.length = 32 → (base58 bytes).length ≤ 44) ∧
    ∀ bytes', base58 bytes' = base58 bytes → bytes' = bytes := by
  have hrun : encode_base58 bytes out maxoutlen =
      if (base58 bytes).length < maxoutlen then
        some (0, base58 bytes ++ 0 :: out.drop ((base58 bytes).length + 1))
      else some (EXCEPTION_OVERFLOW, out) := by
    rw [encode_base58_eq bytes out maxoutlen hlength]
    by_cases hfits : (base58 bytes).length < maxoutlen
    · rw [if_neg (by omega), if_pos hfits]
      exact copies_text (by omega)
    · rw [if_pos (by omega), if_neg hfits]
  refine ⟨hrun, ?_, fun hkey => Nat.le_of_lt_succ (base58_length_lt hkey), fun bytes' h =>
    base58_injective h⟩
  rw [hrun]
  split
  · rename_i hfits
    exact iff_of_true ⟨_, rfl⟩ hfits
  · rename_i hfits
    refine iff_of_false ?_ hfits
    rintro ⟨out', h⟩
    cases h

/-- The key of the system program. -/
theorem system_program_encoded :
    encode_base58 (List.replicate 32 0) (List.replicate 45 0) 45 =
      some (0, List.replicate 32 (char '1') ++ 0 :: List.replicate 12 0) := by
  obtain ⟨hrun, -⟩ := encode_base58_exact
    (by decide : (List.replicate 32 (0 : UInt8)).length ≤ 32)
    (by decide : 45 ≤ (List.replicate 45 (0 : UInt8)).length)
  have htext : base58 (List.replicate 32 0) = List.replicate 32 (char '1') := by
    decide +kernel
  rw [hrun, htext, if_pos (by decide)]
  decide +kernel

end RenecLedger
