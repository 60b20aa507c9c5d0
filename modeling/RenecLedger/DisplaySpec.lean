/-
What the screen shows.

The items of a summary are counted in one place and found in another; the two agree
(`transaction_summary_find_item_eq`). An item that is displayed leaves its title and its
text in the two buffers, the title as far as it fits.
-/
import RenecLedger.Base58
import RenecLedger.SummaryDisplay
import RenecLedger.SummarySpec

set_option autoImplicit false

namespace RenecLedger

/-! ## Finding an item -/

/-- Walking over items finds the one with the number, or tells how many there are. -/
theorem walk_items_eq (item_index : ℕ) (items : List (Option SummaryItem)) (current_index : ℕ)
    (h : current_index ≤ item_index) :
    walk_items item_index items current_index =
      match items.reduceOption[item_index - current_index]? with
      | some item => .inl item
      | none => .inr (current_index + items.reduceOption.length) := by
  induction items generalizing current_index with
  | nil => rfl
  | cons item items ih =>
    cases item with
    | none =>
      rw [walk_items, List.reduceOption_cons_of_none]
      exact ih current_index h
    | some item =>
      rw [walk_items, List.reduceOption_cons_of_some]
      by_cases hhere : current_index = item_index
      · rw [if_pos hhere, hhere, Nat.sub_self]
        rfl
      · obtain ⟨k, hk⟩ : ∃ k, item_index - current_index = k + 1 :=
          ⟨item_index - current_index - 1, by omega⟩
        rw [if_neg hhere, ih (current_index + 1) (by omega), hk, List.getElem?_cons_succ,
          show item_index - (current_index + 1) = k by omega, List.length_cons,
          show current_index + 1 + items.reduceOption.length =
            current_index + (items.reduceOption.length + 1) by omega]

/-- The items between the primary one and the fee payer. -/
def TransactionSummary.middle_items (summary : TransactionSummary) : List SummaryItem :=
  (summary.general ++ [summary.nonce_account, summary.nonce_authority]).reduceOption

theorem items_eq_middle (summary : TransactionSummary) :
    summary.items =
      summary.primary.toList ++ summary.middle_items ++ summary.fee_payer.toList := by
  have hpair : [summary.nonce_account, summary.nonce_authority].reduceOption =
      summary.nonce_account.toList ++ summary.nonce_authority.toList := by
    cases summary.nonce_account <;> cases summary.nonce_authority <;> rfl
  rw [TransactionSummary.items, TransactionSummary.middle_items, List.reduceOption_append, hpair]
  simp only [List.append_assoc]

/-- **The item that is displayed** under a number is the one that was counted there. -/
theorem transaction_summary_find_item_eq {summary : TransactionSummary} {i : ℕ}
    {item : SummaryItem} (hprimary : summary.primary ≠ none)
    (h : summary.items[i]? = some item) :
    transaction_summary_find_item summary i = some (some item) := by
  obtain ⟨primary, hp⟩ := Option.ne_none_iff_exists'.mp hprimary
  rw [items_eq_middle, hp, Option.toList_some, List.singleton_append, List.cons_append] at h
  rw [transaction_summary_find_item]
  match i with
  | 0 =>
    rw [List.getElem?_cons_zero] at h
    rw [if_pos rfl, hp, ← h]
  | i + 1 =>
    rw [List.getElem?_cons_succ] at h
    rw [if_neg (Nat.succ_ne_zero i), walk_items_eq _ _ _ (Nat.le_add_left 1 i),
      Nat.add_sub_cancel, ← TransactionSummary.middle_items]
    by_cases hi : i < summary.middle_items.length
    · rw [List.getElem?_append_left hi] at h
      rw [h]
    · -- behind the others, only the fee payer
      rw [List.getElem?_append_right (Nat.not_lt.mp hi)] at h
      rw [List.getElem?_eq_none (Nat.not_lt.mp hi)]
      cases hfee : summary.fee_payer with
      | none =>
        rw [hfee] at h
        cases h
      | some fee_payer =>
        rw [hfee, Option.toList_some, List.getElem?_singleton] at h
        have hlast : i - summary.middle_items.length = 0 := by
          by_contra hne
          rw [if_neg hne] at h
          cases h
        rw [if_pos hlast] at h
        change (if 1 + summary.middle_items.length = i + 1 then some (some fee_payer) else none) = _
        rw [if_pos (by omega), h]

/-! ## Displaying an item -/

/-- An item that can be printed leaves its title and its text; any other one leaves the
title as it was. -/
theorem transaction_summary_update_display_cases {item : SummaryItem} {flags : DisplayFlags}
    {display display' : SummaryDisplay} {rc : ℕ}
    (h : transaction_summary_update_display_for_item (some item) flags display =
      some (rc, display')) :
    (rc ≠ 0 ∧ display'.title = display.title) ∨
      (rc = 0 ∧ item.value.print flags display.text = some (0, display'.text) ∧
        c_str display'.title = truncated TITLE_SIZE (c_str (c_string item.title))) := by
  rw [transaction_summary_update_display_for_item, Option.bind_eq_bind,
    Option.bind_eq_some_iff] at h
  obtain ⟨⟨rc', text⟩, hprint, h⟩ := h
  dsimp only at h
  by_cases hrc : rc' = 0
  · rw [if_neg (not_not.mpr hrc), Option.bind_eq_some_iff] at h
    obtain ⟨⟨rc'', title⟩, htitle, h⟩ := h
    cases h
    rw [hrc] at hprint
    exact Or.inr ⟨rfl, hprint, (print_string_text htitle).1⟩
  · rw [if_pos hrc] at h
    cases h
    exact Or.inl ⟨hrc, rfl⟩

/-- A whole key that is printed. -/
theorem print_pubkey_text {pubkey : PubkeyRef} {text text' : List UInt8}
    (h : print_pubkey pubkey ⟨true⟩ text = some (0, text')) :
    c_str text' = base58 pubkey.key.data := by
  rw [print_pubkey, Option.bind_eq_bind, Option.bind_eq_some_iff] at h
  obtain ⟨⟨rc, tmp_buf⟩, hencode, h⟩ := h
  dsimp only at h
  by_cases hrc : rc = 0
  · rw [if_neg (not_not.mpr hrc)] at h
    change print_string (c_str tmp_buf) text TEXT_BUFFER_LENGTH = some (0, text') at h
    rw [hrc] at hencode
    have hsize : pubkey.key.data.length ≤ 32 := Nat.le_of_eq pubkey.key.size
    obtain ⟨htext, hfits⟩ := print_string_text h
    rw [htext, truncated, if_pos (hfits.mp rfl), c_str_c_str, encode_base58_text hsize hencode]
  · rw [if_pos hrc] at h
    cases h
    exact absurd rfl hrc

/-- A title that is shown in full is the item's. -/
theorem title_of_truncated {title shown : List UInt8} (h : shown = truncated TITLE_SIZE title)
    (hlen : shown.length < TITLE_SIZE - 1) : shown = title := by
  rw [truncated] at h
  split at h
  · exact h
  · rename_i hlong
    have hlength := congrArg List.length h
    rw [if_pos (by decide), List.length_append, List.length_take, List.length_singleton]
      at hlength
    rw [TITLE_SIZE] at *
    omega

end RenecLedger
