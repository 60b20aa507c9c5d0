/-
The order in which the summary displays its items.

Every slot shows what was set in it, in the order of setting (`write_all_held`): the general
items are used from the first one on, so the one that is used next comes last.
-/
import RenecLedger.SummarySpec

set_option autoImplicit false

namespace RenecLedger

/-! ## The order of the items -/

/-- The items that are set in one slot, in order. -/
def slot_items (slot : SummarySlot) (ws : List SummaryWrite) : List SummaryItem :=
  (ws.filter (·.slot = slot)).map SummaryWrite.item

theorem slot_items_cons (slot : SummarySlot) (w : SummaryWrite) (ws : List SummaryWrite) :
    slot_items slot (w :: ws) = (if w.slot = slot then [w.item] else []) ++ slot_items slot ws := by
  by_cases h : w.slot = slot
  · rw [slot_items, List.filter_cons_of_pos (by rw [h, decide_eq_true_eq]), if_pos h]
    rfl
  · rw [slot_items, List.filter_cons_of_neg (by rw [decide_eq_true_eq]; exact h), if_neg h]
    rfl

@[simp] theorem slot_items_nil (slot : SummarySlot) : slot_items slot [] = [] := rfl

@[simp] theorem slot_items_append (slot : SummarySlot) (ws ws' : List SummaryWrite) :
    slot_items slot (ws ++ ws') = slot_items slot ws ++ slot_items slot ws' := by
  rw [slot_items, List.filter_append, List.map_append]
  rfl

/-- The items that a slot holds. -/
def TransactionSummary.held (s : TransactionSummary) : SummarySlot → List SummaryItem
  | .primary => s.primary.toList
  | .fee_payer => s.fee_payer.toList
  | .nonce_account => s.nonce_account.toList
  | .nonce_authority => s.nonce_authority.toList
  | .general => s.general.reduceOption

theorem items_eq_held (s : TransactionSummary) :
    s.items = s.held .primary ++ s.held .general ++ s.held .nonce_account ++
      s.held .nonce_authority ++ s.held .fee_payer := rfl

/-- The general items are used from the first one on. -/
def TransactionSummary.Packed (s : TransactionSummary) : Prop :=
  ∃ (used : List SummaryItem) (n : ℕ), s.general = used.map some ++ List.replicate n none

theorem packed_reset : transaction_summary_reset.Packed := ⟨[], NUM_GENERAL_ITEMS, rfl⟩

theorem held_reset (slot : SummarySlot) : transaction_summary_reset.held slot = [] := by
  cases slot <;> rfl

/-- The first unused general item comes right after the used ones. -/
theorem packed_general_item {used : List SummaryItem} {n i : ℕ}
    (h : (used.map some ++ List.replicate n none).findIdx? Option.isNone = some i) :
    i = used.length ∧ 0 < n := by
  have hused : (used.map some).findIdx? Option.isNone = none := by
    rw [List.findIdx?_eq_none_iff]
    intro x hx
    obtain ⟨item, -, rfl⟩ := List.mem_map.mp hx
    rfl
  rw [List.findIdx?_append, hused, Option.none_or, List.length_map] at h
  cases n with
  | zero => cases h
  | succ n =>
    rw [List.replicate_succ, List.findIdx?_cons, Option.isNone_none, if_pos rfl,
      Option.map_some, Option.some.injEq] at h
    omega

/-- Using the first unused general item keeps them packed and puts the item last. -/
theorem set_general_held {s : TransactionSummary} {i : ℕ} (hs : s.Packed)
    (h : transaction_summary_general_item s = some i) (item : SummaryItem) :
    (s.set_general i item).Packed ∧
      (s.set_general i item).held .general = s.held .general ++ [item] := by
  obtain ⟨used, n, hgeneral⟩ := hs
  rw [transaction_summary_general_item, hgeneral] at h
  obtain ⟨rfl, hn⟩ := packed_general_item h
  obtain ⟨n, rfl⟩ : ∃ m, n = m + 1 := ⟨n - 1, by omega⟩
  have hset : (s.set_general used.length item).general =
      (used ++ [item]).map some ++ List.replicate n none := by
    have hlen : used.length = (used.map some).length := (List.length_map some).symm
    change s.general.set used.length (some item) = _
    rw [hgeneral, hlen, List.set_append_right _ _ (Nat.le_refl _), Nat.sub_self,
      List.replicate_succ, List.set_cons_zero, List.map_append, List.append_assoc]
    rfl
  refine ⟨⟨used ++ [item], n, hset⟩, ?_⟩
  change List.reduceOption _ = List.reduceOption _ ++ _
  rw [hset, hgeneral, List.reduceOption_append, List.reduceOption_append,
    List.reduceOption_replicate_none, List.reduceOption_replicate_none, List.append_nil,
    List.append_nil, List.map_append, List.reduceOption_append]
  rfl

/-- One item more in its slot, behind those it holds. -/
theorem write_held {s t : TransactionSummary} {w : SummaryWrite} (hs : s.Packed)
    (h : s.write w = some t) :
    t.Packed ∧ ∀ slot, t.held slot = s.held slot ++ if w.slot = slot then [w.item] else [] := by
  obtain ⟨slot, item⟩ := w
  cases slot with
  | general =>
    simp only [TransactionSummary.write] at h
    split at h
    · rename_i i hi
      cases h
      obtain ⟨hpacked, hgeneral⟩ := set_general_held hs hi item
      refine ⟨hpacked, fun slot => ?_⟩
      by_cases hslot : .general = slot
      · subst hslot
        rw [if_pos rfl, hgeneral]
      · rw [if_neg hslot, List.append_nil]
        cases slot with
        | general => exact absurd rfl hslot
        | _ => rfl
    · cases h
  | _ =>
    simp only [TransactionSummary.write, Option.ite_none_right_eq_some,
      Option.isNone_iff_eq_none] at h
    obtain ⟨hfree, h⟩ := h
    cases h
    refine ⟨hs, fun slot => ?_⟩
    cases slot <;> simp [TransactionSummary.held, hfree]

theorem write_all_held {s t : TransactionSummary} {ws : List SummaryWrite} (hs : s.Packed)
    (h : s.write_all ws = some t) (slot : SummarySlot) :
    t.held slot = s.held slot ++ slot_items slot ws := by
  induction ws generalizing s with
  | nil =>
    cases h
    rw [slot_items_nil, List.append_nil]
  | cons w ws ih =>
    simp only [TransactionSummary.write_all, List.foldlM_cons, Option.bind_eq_bind,
      Option.bind_eq_some_iff] at h
    obtain ⟨u, hw, hrest⟩ := h
    obtain ⟨hpacked, hheld⟩ := write_held hs hw
    rw [ih hpacked hrest, hheld slot, slot_items_cons, List.append_assoc]

/-- What a printer displays in each slot, when it starts with an empty summary. -/
theorem SummaryM.exec_held {α : Type} {p : SummaryM α} {r : Option α} {t : TransactionSummary}
    (h : p.exec transaction_summary_reset = some (r, t)) (slot : SummarySlot) :
    t.held slot = slot_items slot p.writes := by
  simp only [SummaryM.exec, Option.map_eq_some_iff, Prod.mk.injEq] at h
  obtain ⟨u, hu, -, rfl⟩ := h
  rw [write_all_held packed_reset hu, held_reset, List.nil_append]

end RenecLedger
