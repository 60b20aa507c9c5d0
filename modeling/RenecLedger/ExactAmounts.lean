/-
A token amount is printed exactly.

The loops of `print_token_amount` leave the text of `fixed_point`. Here it is stated without
them: the text is the canonical expansion of the amount over a power of ten, with the asset
behind it (`print_token_amount_exact`), so a text stands for one amount.
-/
import RenecLedger.Lib.Expansion
import RenecLedger.TextSpec

set_option autoImplicit false

open NumeralLib

namespace RenecLedger

/-- An expansion in decimal digits, with a point. -/
def decimal_text (e : Expansion) : List UInt8 := e.text digit (char '.')

theorem amount_text_expansion (amount decimals : ℕ) :
    amount_text amount decimals = decimal_text (expansion 10 decimals amount) := by
  rw [decimal_text, expansion_text, amount_text]

/-- An asset that is a C string. -/
theorem asset_string (asset : Option CString) :
    ∀ a ∈ asset.map CString.chars, 0 ∉ a ∧ a.length < SIZE_MAX := by
  intro a ha
  rw [Option.mem_map] at ha
  obtain ⟨string, -, rfl⟩ := ha
  exact ⟨string.no_nul, string.size⟩

/-- **The exact amount is printed.** What is printed is the one canonical expansion of the amount
over the power of ten, a space and the asset if there is one, and a terminator. Two amounts with
the same decimals and asset have the same text only when they are the same. -/
theorem print_token_amount_exact {amount : UInt64} {asset : Option CString} {decimals : UInt8}
    {out out' : List UInt8} {out_length : ℕ}
    (h : print_token_amount amount (asset.map CString.chars) decimals out out_length =
      some (0, out')) :
    (∃ e : Expansion,
      (∀ e' : Expansion, e'.Canonical 10 ∧
        e'.value 10 = (amount.toNat : ℚ) / 10 ^ decimals.toNat ↔ e' = e) ∧
      (∃ rest, out' =
        decimal_text e ++ amount_suffix (asset.map CString.chars) ++ 0 :: rest) ∧
      c_str out' = decimal_text e ++ amount_suffix (asset.map CString.chars)) ∧
    ∀ (amount₂ : UInt64) (out₂ out₂' : List UInt8) (out_length₂ : ℕ),
      print_token_amount amount₂ (asset.map CString.chars) decimals out₂ out_length₂ =
        some (0, out₂') →
      c_str out₂' = c_str out' → amount₂ = amount := by
  have hasset := asset_string asset
  have htext := print_token_amount_text hasset h
  refine ⟨⟨expansion 10 decimals.toNat amount.toNat, fun e' => ⟨?_, ?_⟩, ?_, ?_⟩, ?_⟩
  · rintro ⟨hcanonical, hvalue⟩
    refine hcanonical.eq (by decide) (expansion_canonical (by decide) _ _) ?_
    rw [hvalue, expansion_value (by decide)]
    rfl
  · rintro rfl
    exact ⟨expansion_canonical (by decide) _ _, expansion_value (by decide) _ _⟩
  · rw [← amount_text_expansion]
    exact print_token_amount_eq hasset h
  · rw [← amount_text_expansion]
    exact htext
  · intro amount₂ out₂ out₂' out_length₂ h₂ hsame
    rw [htext, print_token_amount_text hasset h₂, List.append_cancel_right_eq] at hsame
    exact UInt64.toNat_inj.mp (amount_text_injective _ hsame)

def renec : CString := ⟨c_string "RENEC", by decide, by decide⟩

/-- A billion and a half of the smallest unit is one and a half. -/
theorem printed_amount_exact : ∃ e : Expansion,
    e.Canonical 10 ∧ e.value 10 = (1500000000 : ℚ) / 10 ^ 9 ∧
      decimal_text e ++ c_string " RENEC" = c_string "1.5 RENEC" := by
  have hprint : print_token_amount 1500000000 ((some renec).map CString.chars) 9
      (List.replicate 20 0) 20 =
        some (0, c_string "1.5 RENEC" ++ 0 :: char '0' :: List.replicate 9 0) := by
    decide +kernel
  obtain ⟨⟨e, hunique, -, htext⟩, -⟩ := print_token_amount_exact hprint
  obtain ⟨hcanonical, hvalue⟩ := (hunique e).mpr rfl
  have hstring : c_str (c_string "1.5 RENEC" ++ 0 :: char '0' :: List.replicate 9 0) =
      c_string "1.5 RENEC" := by
    decide +kernel
  exact ⟨e, hcanonical, hvalue, htext.symm.trans hstring⟩

end RenecLedger
