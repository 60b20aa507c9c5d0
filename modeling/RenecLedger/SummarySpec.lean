/-
What a printer displays, and that it fits in the summary.

`SummaryM.sets` is the meaning of a printer: the items it sets, whatever their order
and slots. Run on a summary, a printer adds exactly these to what is displayed
(`SummaryM.exec_items`). It runs without meeting a taken slot as soon as it asks for
no more items of a slot than are free (`SummaryM.exec_of_fits`).
-/
import Mathlib.Data.List.ReduceOption
import RenecLedger.Summary

set_option autoImplicit false

namespace RenecLedger

/-! ## Composing printers -/

section Compose

variable {α : Type} (p q : SummaryM Unit) (f : Unit → SummaryM α)

/-- A sequence sets what its first part sets, and the rest unless the first part failed.
With the next lemma this takes any printer apart into its `summary_item_set_*` calls. -/
@[simp] theorem SummaryM.bind_writes :
    (p >>= f).writes = p.writes ++ p.result.elim [] fun _ => (f ()).writes := by
  obtain ⟨writes, result⟩ := p
  cases result with
  | none => exact (List.append_nil writes).symm
  | some u => rfl

/-- A sequence returns what its last part returns, or the first failure. -/
@[simp] theorem SummaryM.bind_result :
    (p >>= f).result = p.result.bind fun _ => (f ()).result := by
  obtain ⟨writes, result⟩ := p
  cases result with
  | none => rfl
  | some u => rfl

/-- Returning sets nothing. -/
@[simp] theorem SummaryM.pure_writes (a : α) : (pure a : SummaryM α).writes = [] := rfl

/-- Returning does not fail. -/
@[simp] theorem SummaryM.pure_result (a : α) : (pure a : SummaryM α).result = some a := rfl

/-- Failing sets nothing of its own; what was set before it stays, as it does in the C
code, which never takes an item back. -/
@[simp] theorem SummaryM.fail_writes : (SummaryM.fail : SummaryM α).writes = [] := rfl

/-- `SummaryM.fail` is a return code other than zero. -/
@[simp] theorem SummaryM.fail_result : (SummaryM.fail : SummaryM α).result = none := rfl

/-- A call whose return code is ignored sets what it would set. -/
@[simp] theorem SummaryM.ignore_rc_writes : p.ignore_rc.writes = p.writes := rfl

/-- A call whose return code is ignored cannot fail its caller, although it may have set
only some of its items. -/
@[simp] theorem SummaryM.ignore_rc_result : p.ignore_rc.result = some () := rfl

variable (c : Prop) [Decidable c]

/-- A branch sets what the branch taken sets. -/
@[simp] theorem SummaryM.ite_writes (p q : SummaryM α) :
    (if c then p else q).writes = if c then p.writes else q.writes :=
  apply_ite SummaryM.writes c p q

/-- A branch returns what the branch taken returns. -/
@[simp] theorem SummaryM.ite_result (p q : SummaryM α) :
    (if c then p else q).result = if c then p.result else q.result :=
  apply_ite SummaryM.result c p q

/-- The same for a branch that uses its condition, as the lockup's custodian does. -/
@[simp] theorem SummaryM.dite_writes (p : c → SummaryM α) (q : ¬c → SummaryM α) :
    (if h : c then p h else q h).writes = if h : c then (p h).writes else (q h).writes :=
  apply_dite SummaryM.writes c p q

/-- The same for a branch that uses its condition, as the lockup's custodian does. -/
@[simp] theorem SummaryM.dite_result (p : c → SummaryM α) (q : ¬c → SummaryM α) :
    (if h : c then p h else q h).result = if h : c then (p h).result else (q h).result :=
  apply_dite SummaryM.result c p q

end Compose

/-- `BAIL_IF` sets nothing, whether it bails or not. -/
@[simp] theorem SummaryM.bail_if_writes (c : Bool) : (SummaryM.bail_if c).writes = [] := by
  cases c <;> rfl

/-- `BAIL_IF` fails when its condition holds, and is passed over otherwise. -/
@[simp] theorem SummaryM.bail_if_result (c : Bool) :
    (SummaryM.bail_if c).result = if c then none else some () := by
  cases c <;> rfl

/-- A value that may be missing fails no more than its printer does. -/
@[simp] theorem SummaryM.if_set_result {β : Type} (value : Option β) {p : β → SummaryM Unit}
    (h : ∀ x, (p x).result = some ()) : (SummaryM.if_set value p).result = some () := by
  cases value with
  | none => rfl
  | some x => exact h x

/-- Setting an item is one write. -/
@[simp] theorem set_item_writes (slot : SummarySlot) (title : String) (value : SummaryItemValue) :
    (set_item slot title value).writes = [⟨slot, title, value⟩] := rfl

/-- Setting an item returns nothing, so it cannot fail. -/
@[simp] theorem set_item_result (slot : SummarySlot) (title : String) (value : SummaryItemValue) :
    (set_item slot title value).result = some () := by
  rw [set_item]

attribute [simp] summary_item_set_amount summary_item_set_token_amount summary_item_set_i64
  summary_item_set_u64 summary_item_set_pubkey summary_item_set_hash
  summary_item_set_sized_string summary_item_set_string summary_item_set_timestamp

/-! ## What a printer sets -/

/-- The printer sets an item with the property `P`. Most results about a summary are of
this form, with the property of showing a key, an amount or a title. -/
def SummaryM.sets {α : Type} (p : SummaryM α) (P : SummaryItem → Prop) : Prop :=
  ∃ w ∈ p.writes, P w.item

section Sets

variable {α : Type} {P : SummaryItem → Prop}

/-- A sequence sets the items of both parts, those of the second only after a success:
the return code of the first part decides about what follows it. -/
@[simp] theorem SummaryM.sets_bind (p : SummaryM Unit) (f : Unit → SummaryM α) :
    (p >>= f).sets P ↔ p.sets P ∨ (p.result = some () ∧ (f ()).sets P) := by
  rw [SummaryM.sets, SummaryM.bind_writes]
  cases hp : p.result with
  | none => simp [SummaryM.sets]
  | some u => simp [SummaryM.sets, or_and_right, exists_or]

/-- Returning sets no item. -/
@[simp] theorem SummaryM.sets_pure (a : α) : ¬(pure a : SummaryM α).sets P := by
  simp [SummaryM.sets]

/-- Failing sets no item. -/
@[simp] theorem SummaryM.sets_fail : ¬(SummaryM.fail : SummaryM α).sets P := by
  simp [SummaryM.sets]

/-- `BAIL_IF` sets no item. -/
@[simp] theorem SummaryM.sets_bail_if (c : Bool) : ¬(SummaryM.bail_if c).sets P := by
  simp [SummaryM.sets]

/-- Whether a return code is ignored changes nothing about the items. -/
@[simp] theorem SummaryM.sets_ignore_rc (p : SummaryM Unit) : p.ignore_rc.sets P ↔ p.sets P :=
  Iff.rfl

/-- A branch sets the items of one side, under its condition. -/
@[simp] theorem SummaryM.sets_ite (c : Prop) [Decidable c] (p q : SummaryM α) :
    (if c then p else q).sets P ↔ (c ∧ p.sets P) ∨ (¬c ∧ q.sets P) := by
  by_cases h : c
  · simp [h]
  · simp [h]

/-- The same for a branch that uses its condition. -/
@[simp] theorem SummaryM.sets_dite (c : Prop) [Decidable c] (p : c → SummaryM α)
    (q : ¬c → SummaryM α) :
    (if h : c then p h else q h).sets P ↔ (∃ h, (p h).sets P) ∨ (∃ h, (q h).sets P) := by
  by_cases h : c
  · simp [h]
  · simp [h]

/-- A value that may be missing sets its items when it is there. -/
@[simp] theorem SummaryM.sets_if_set {β : Type} (value : Option β) (p : β → SummaryM Unit) :
    (SummaryM.if_set value p).sets P ↔ ∃ x, value = some x ∧ (p x).sets P := by
  cases value <;> simp [SummaryM.if_set]

/-- The leaf of every printer: an item with its title and value. After the rules above,
nothing else is left of a question about a printer. -/
@[simp] theorem sets_set_item (slot : SummarySlot) (title : String) (value : SummaryItemValue) :
    (set_item slot title value).sets P ↔ P ⟨title, value⟩ := by
  simp [SummaryM.sets]

end Sets

/-! ## What the summary holds -/

/-- The displayed items are those of the five slots, wherever they come in the order of
the display. Membership is all that most results ask for. -/
theorem mem_items {s : TransactionSummary} {item : SummaryItem} :
    item ∈ s.items ↔ s.primary = some item ∨ some item ∈ s.general ∨
      s.nonce_account = some item ∨ s.nonce_authority = some item ∨ s.fee_payer = some item := by
  simp only [TransactionSummary.items, List.mem_append, Option.mem_toList,
    List.reduceOption_mem_iff, or_assoc]

/-- A reset summary displays nothing. -/
theorem mem_items_reset (item : SummaryItem) : item ∉ transaction_summary_reset.items := by
  rw [mem_items]
  simp [transaction_summary_reset]

/-- Filling an unused place of a list adds one element. -/
private theorem mem_set_unused {α : Type} {l : List (Option α)} {i : ℕ} (x y : α)
    (hi : l[i]? = some none) : some y ∈ l.set i (some x) ↔ some y ∈ l ∨ x = y := by
  obtain ⟨hlt, hnone⟩ := List.getElem?_eq_some_iff.mp hi
  constructor
  · intro h
    rcases List.mem_or_eq_of_mem_set h with h | h
    · exact Or.inl h
    · exact Or.inr (Option.some.inj h).symm
  · rintro (h | rfl)
    · obtain ⟨j, hj, hjy⟩ := List.mem_iff_getElem.mp h
      have hne : i ≠ j := by
        rintro rfl
        rw [hnone] at hjy
        cases hjy
      refine List.mem_iff_getElem.mpr ⟨j, by rwa [List.length_set], ?_⟩
      rw [List.getElem_set_ne hne, hjy]
    · exact List.mem_set hlt (some x)

/-- The first unused general item is unused. -/
theorem transaction_summary_general_item_unused {s : TransactionSummary} {i : ℕ}
    (h : transaction_summary_general_item s = some i) : s.general[i]? = some none := by
  obtain ⟨hlt, hnone, -⟩ := List.findIdx?_eq_some_iff_getElem.mp h
  rw [List.getElem?_eq_getElem hlt, Option.isNone_iff_eq_none.mp hnone]

/-- Setting an item adds it, and nothing else changes. The hypothesis is that the write
goes through: it finds an unused place of its slot. -/
theorem write_items {s t : TransactionSummary} {w : SummaryWrite} (h : s.write w = some t)
    (item : SummaryItem) : item ∈ t.items ↔ item ∈ s.items ∨ w.item = item := by
  obtain ⟨slot, x⟩ := w
  cases slot with
  | general =>
    simp only [TransactionSummary.write] at h
    split at h
    · rename_i i hi
      cases h
      have hset := mem_set_unused x item (transaction_summary_general_item_unused hi)
      simp only [mem_items, TransactionSummary.set_general, hset]
      tauto
    · cases h
  | _ =>
    simp only [TransactionSummary.write, Option.ite_none_right_eq_some,
      Option.isNone_iff_eq_none] at h
    obtain ⟨hfree, h⟩ := h
    cases h
    simp only [mem_items, hfree, Option.some.injEq, reduceCtorEq]
    tauto

/-- A list of writes that goes through adds just its items. -/
theorem write_all_items {s t : TransactionSummary} {ws : List SummaryWrite}
    (h : s.write_all ws = some t) (item : SummaryItem) :
    item ∈ t.items ↔ item ∈ s.items ∨ ∃ w ∈ ws, w.item = item := by
  induction ws generalizing s with
  | nil =>
    cases h
    simp
  | cons w ws ih =>
    simp only [TransactionSummary.write_all, List.foldlM_cons, Option.bind_eq_bind,
      Option.bind_eq_some_iff] at h
    obtain ⟨u, hw, hrest⟩ := h
    rw [ih hrest, write_items hw]
    simp only [List.mem_cons, exists_eq_or_imp, or_assoc]

/-- A printer that runs adds its items. -/
theorem SummaryM.exec_mem {α : Type} {p : SummaryM α} {r : Option α} {s t : TransactionSummary}
    (h : p.exec s = some (r, t)) (item : SummaryItem) :
    item ∈ t.items ↔ item ∈ s.items ∨ ∃ w ∈ p.writes, w.item = item := by
  simp only [SummaryM.exec, Option.map_eq_some_iff, Prod.mk.injEq] at h
  obtain ⟨u, hu, -, rfl⟩ := h
  exact write_all_items hu item

/-- The summary after a printer that started from a reset one holds exactly the items
the printer set. This leads from the writes of a printer, which can be computed, to what
the user sees. -/
theorem SummaryM.exec_items {α : Type} {p : SummaryM α} {r : Option α} {t : TransactionSummary}
    (h : p.exec transaction_summary_reset = some (r, t)) (P : SummaryItem → Prop) :
    (∃ item ∈ t.items, P item) ↔ p.sets P := by
  simp only [SummaryM.exec_mem h, mem_items_reset, false_or]
  constructor
  · rintro ⟨item, ⟨w, hw, rfl⟩, hP⟩
    exact ⟨w, hw, hP⟩
  · rintro ⟨w, hw, hP⟩
    exact ⟨w.item, ⟨w, hw, rfl⟩, hP⟩

/-! ## Keys that are shown -/

/-- The key of a pubkey item. -/
def SummaryItem.pubkey (item : SummaryItem) : Option Pubkey :=
  match item.value with
  | .SummaryItemPubkey pubkey => some pubkey.key
  | _ => none

/-- The item shows this key. Keys are compared by their 32 bytes, as the user reads
them, and not by where they lie in the message. -/
def ShowsPubkey (pubkey : PubkeyRef) (item : SummaryItem) : Prop := item.pubkey = some pubkey.key

instance (pubkey : PubkeyRef) (item : SummaryItem) : Decidable (ShowsPubkey pubkey item) :=
  inferInstanceAs (Decidable (item.pubkey = _))

/-- A pubkey item shows a key when it holds an equal one, wherever the two lie in the
message. -/
@[simp] theorem showsPubkey_pubkey (pubkey other : PubkeyRef) (title : String) :
    ShowsPubkey pubkey ⟨title, .SummaryItemPubkey other⟩ ↔ other.key = pubkey.key := by
  simp [ShowsPubkey, SummaryItem.pubkey]

/-- An amount shows no key. -/
@[simp] theorem not_showsPubkey_amount (pubkey : PubkeyRef) (title : String) (value : UInt64) :
    ¬ShowsPubkey pubkey ⟨title, .SummaryItemAmount value⟩ := nofun

/-- Setting a pubkey item shows that key, and no other. -/
@[simp] theorem sets_pubkey_showsPubkey (slot : SummarySlot) (title : String)
    (pubkey other : PubkeyRef) :
    (summary_item_set_pubkey slot title other).sets (ShowsPubkey pubkey) ↔
      other.key = pubkey.key := by
  rw [summary_item_set_pubkey, sets_set_item, showsPubkey_pubkey]

/-- A printer that begins with a key shows it, whatever it goes on with. -/
theorem sets_first_pubkey (slot : SummarySlot) (title : String) (pubkey : PubkeyRef)
    (f : Unit → SummaryM Unit) :
    (summary_item_set_pubkey slot title pubkey >>= f).sets (ShowsPubkey pubkey) := by
  rw [SummaryM.sets_bind, sets_pubkey_showsPubkey]
  exact Or.inl rfl

/-! ## Room for the items -/

/-- How many items of a slot are unused. Four of the slots have a single item, and the
general slot has a fixed number of them. -/
def TransactionSummary.free (s : TransactionSummary) : SummarySlot → ℕ
  | .primary => if s.primary.isNone then 1 else 0
  | .fee_payer => if s.fee_payer.isNone then 1 else 0
  | .nonce_account => if s.nonce_account.isNone then 1 else 0
  | .nonce_authority => if s.nonce_authority.isNone then 1 else 0
  | .general => s.general.countP Option.isNone

/-- How many items of a slot are set. -/
def slot_count (slot : SummarySlot) (ws : List SummaryWrite) : ℕ :=
  ws.countP fun w => w.slot = slot

/-- The first write counts for its own slot. -/
theorem slot_count_cons (slot : SummarySlot) (w : SummaryWrite) (ws : List SummaryWrite) :
    slot_count slot (w :: ws) = slot_count slot ws + if w.slot = slot then 1 else 0 := by
  simp [slot_count, List.countP_cons]

/-- Setting an item that is free takes it, and nothing else: the slot has one unused
item less, and the other slots have as many as before. -/
theorem write_free {s : TransactionSummary} {w : SummaryWrite} (h : 0 < s.free w.slot) :
    ∃ t, s.write w = some t ∧
      ∀ slot, t.free slot + (if w.slot = slot then 1 else 0) = s.free slot := by
  obtain ⟨slot, x⟩ := w
  cases slot with
  | general =>
    -- A general item that is unused is found, and setting it lowers the count by one.
    obtain ⟨i, hi⟩ : ∃ i, transaction_summary_general_item s = some i := by
      rw [← Option.isSome_iff_exists, transaction_summary_general_item, List.findIdx?_isSome,
        List.any_eq_true]
      exact List.countP_pos_iff.mp h
    refine ⟨s.set_general i x, by simp only [TransactionSummary.write, hi], ?_⟩
    obtain ⟨hlt, hnone⟩ :=
      List.getElem?_eq_some_iff.mp (transaction_summary_general_item_unused hi)
    have hset := List.countP_set (p := Option.isNone) (l := s.general) (a := some x) hlt
    rw [hnone] at hset
    simp only [TransactionSummary.free] at h
    intro slot
    cases slot with
    | general =>
      simp only [TransactionSummary.free, TransactionSummary.set_general, hset]
      simp
      omega
    | _ => simp [TransactionSummary.free, TransactionSummary.set_general]
  | _ =>
    simp only [TransactionSummary.free] at h
    split at h
    · rename_i hfree
      refine ⟨_, by rw [TransactionSummary.write, if_pos hfree], ?_⟩
      intro slot
      cases slot <;> simp [TransactionSummary.free, hfree]
    · exact absurd h (Nat.lt_irrefl 0)

/-- What is set was free. -/
theorem free_of_write {s t : TransactionSummary} {w : SummaryWrite} (h : s.write w = some t) :
    0 < s.free w.slot := by
  obtain ⟨slot, x⟩ := w
  cases slot with
  | general =>
    simp only [TransactionSummary.write] at h
    split at h
    · rename_i i hi
      refine List.countP_pos_iff.mpr ⟨none, ?_, rfl⟩
      exact List.mem_of_getElem? (transaction_summary_general_item_unused hi)
    · cases h
  | _ =>
    simp only [TransactionSummary.write, Option.ite_none_right_eq_some] at h
    simp only [TransactionSummary.free, if_pos h.1]
    exact Nat.one_pos

/-- Setting items takes as many of each slot as they ask for. -/
theorem write_all_free {s t : TransactionSummary} {ws : List SummaryWrite}
    (h : s.write_all ws = some t) (slot : SummarySlot) :
    t.free slot + slot_count slot ws = s.free slot := by
  induction ws generalizing s with
  | nil =>
    cases h
    rfl
  | cons w ws ih =>
    simp only [TransactionSummary.write_all, List.foldlM_cons, Option.bind_eq_bind,
      Option.bind_eq_some_iff] at h
    obtain ⟨u, hw, hrest⟩ := h
    obtain ⟨u', hw', hfree⟩ := write_free (free_of_write hw)
    rw [hw] at hw'
    cases hw'
    rw [← hfree slot, slot_count_cons, ← Nat.add_assoc, ih hrest]

/-- Writes that ask for no more of each slot than is free go through. The induction
carries the room that the first write leaves. So a bound on the counts of a printer,
which can be computed, is enough for it never to write through a null pointer. -/
theorem write_all_fits {s : TransactionSummary} {ws : List SummaryWrite}
    (h : ∀ slot, slot_count slot ws ≤ s.free slot) : ∃ t, s.write_all ws = some t := by
  induction ws generalizing s with
  | nil => exact ⟨s, rfl⟩
  | cons w ws ih =>
    have hw := h w.slot
    rw [slot_count_cons, if_pos rfl] at hw
    obtain ⟨u, hu, hfree⟩ := write_free (Nat.lt_of_lt_of_le (Nat.succ_pos _) hw)
    obtain ⟨t, ht⟩ := ih fun slot => by
      have hslot := h slot
      rw [slot_count_cons, ← hfree slot] at hslot
      exact Nat.le_of_add_le_add_right hslot
    exact ⟨t, by rw [TransactionSummary.write_all, List.foldlM_cons, hu]; exact ht⟩

/-! ## Counting what a printer sets -/

/-- How many items of a slot a printer sets. A printer that fails has set the items of
the parts before the failure, and they count too. -/
def SummaryM.count {α : Type} (p : SummaryM α) (slot : SummarySlot) : ℕ := slot_count slot p.writes

section Count

variable {α : Type} (slot : SummarySlot)

/-- A sequence takes the room of both parts, that of the second only after a success. -/
@[simp] theorem SummaryM.count_bind (p : SummaryM Unit) (f : Unit → SummaryM α) :
    (p >>= f).count slot = p.count slot + p.result.elim 0 fun _ => (f ()).count slot := by
  rw [SummaryM.count, SummaryM.bind_writes, slot_count, List.countP_append]
  cases p.result <;> rfl

/-- Returning takes no room. -/
@[simp] theorem SummaryM.count_pure (a : α) : (pure a : SummaryM α).count slot = 0 := rfl

/-- Failing takes no room. -/
@[simp] theorem SummaryM.count_fail : (SummaryM.fail : SummaryM α).count slot = 0 := rfl

/-- `BAIL_IF` takes no room. -/
@[simp] theorem SummaryM.count_bail_if (c : Bool) : (SummaryM.bail_if c).count slot = 0 := by
  cases c <;> rfl

/-- Whether a return code is ignored changes nothing about the room. -/
@[simp] theorem SummaryM.count_ignore_rc (p : SummaryM Unit) :
    p.ignore_rc.count slot = p.count slot := rfl

/-- A value that may be missing takes room when it is there. -/
@[simp] theorem SummaryM.count_if_set {β : Type} (value : Option β) (p : β → SummaryM Unit) :
    (SummaryM.if_set value p).count slot =
      match value with
      | some x => (p x).count slot
      | none => 0 := by
  cases value <;> rfl

/-- A branch takes the room of the branch taken. -/
@[simp] theorem SummaryM.count_ite (c : Prop) [Decidable c] (p q : SummaryM α) :
    (if c then p else q).count slot = if c then p.count slot else q.count slot :=
  apply_ite (fun p => SummaryM.count p slot) c p q

/-- The same for a branch that uses its condition. -/
@[simp] theorem SummaryM.count_dite (c : Prop) [Decidable c] (p : c → SummaryM α)
    (q : ¬c → SummaryM α) :
    (if h : c then p h else q h).count slot =
      if h : c then (p h).count slot else (q h).count slot :=
  apply_dite (fun p => SummaryM.count p slot) c p q

/-- An item takes one place of its own slot and none of the others. -/
@[simp] theorem count_set_item (s : SummarySlot) (title : String) (value : SummaryItemValue) :
    (set_item s title value).count slot = if s = slot then 1 else 0 := by
  simp [SummaryM.count, slot_count, List.countP_singleton]

end Count

/-- A printer that sets at most `primary` primary and `general` general items, and none
of the others. The nonce items and the fee payer are set by their own callers. -/
structure SummaryM.Within {α : Type} (p : SummaryM α) (primary general : ℕ) : Prop where
  primary_le : p.count .primary ≤ primary
  general_le : p.count .general ≤ general
  fee_payer : p.count .fee_payer = 0
  nonce_account : p.count .nonce_account = 0
  nonce_authority : p.count .nonce_authority = 0

/-- The bounds of a printer may be raised. -/
theorem SummaryM.Within.mono {α : Type} {p : SummaryM α} {m n m' n' : ℕ} (h : p.Within m n)
    (hm : m ≤ m') (hn : n ≤ n') : p.Within m' n' :=
  { h with
    primary_le := Nat.le_trans h.primary_le hm
    general_le := Nat.le_trans h.general_le hn }

/-- In a sequence the bounds add up, so that the bounds of a merged printer are found
from those of its parts without computing its writes. -/
theorem SummaryM.Within.bind {α : Type} {p : SummaryM Unit} {f : Unit → SummaryM α}
    {m n m' n' : ℕ} (hp : p.Within m n) (hf : (f ()).Within m' n') :
    (p >>= f).Within (m + m') (n + n') := by
  cases hr : p.result with
  | none =>
    constructor <;> simp only [SummaryM.count_bind, hr, Option.elim_none, Nat.add_zero]
    · exact Nat.le_add_right_of_le hp.primary_le
    · exact Nat.le_add_right_of_le hp.general_le
    · exact hp.fee_payer
    · exact hp.nonce_account
    · exact hp.nonce_authority
  | some u =>
    constructor <;> simp only [SummaryM.count_bind, hr, Option.elim_some]
    · exact Nat.add_le_add hp.primary_le hf.primary_le
    · exact Nat.add_le_add hp.general_le hf.general_le
    · rw [hp.fee_payer, hf.fee_payer]
    · rw [hp.nonce_account, hf.nonce_account]
    · rw [hp.nonce_authority, hf.nonce_authority]

/-- The bounds do not depend on the return code. -/
theorem SummaryM.Within.ignore_rc {p : SummaryM Unit} {m n : ℕ} (h : p.Within m n) :
    p.ignore_rc.Within m n := ⟨h.1, h.2, h.3, h.4, h.5⟩

/-- The primary item alone is within its bounds, whatever its title and value. -/
theorem within_set_primary (title : String) (value : SummaryItemValue) :
    (set_item .primary title value).Within 1 0 := by
  constructor <;> simp

/-- A printer whose items fit in an empty summary. -/
structure SummaryM.Fits {α : Type} (p : SummaryM α) : Prop where
  primary : p.count .primary ≤ 1
  fee_payer : p.count .fee_payer ≤ 1
  nonce_account : p.count .nonce_account ≤ 1
  nonce_authority : p.count .nonce_authority ≤ 1
  general : p.count .general ≤ NUM_GENERAL_ITEMS

/-- A printer that fits runs to its end, and returns its own return code: no write of it
is refused. -/
theorem SummaryM.exec_of_fits {α : Type} {p : SummaryM α} (h : p.Fits) :
    ∃ t, p.exec transaction_summary_reset = some (p.result, t) := by
  obtain ⟨t, ht⟩ : ∃ t, transaction_summary_reset.write_all p.writes = some t := by
    apply write_all_fits
    intro slot
    cases slot with
    | primary => exact h.primary
    | fee_payer => exact h.fee_payer
    | nonce_account => exact h.nonce_account
    | nonce_authority => exact h.nonce_authority
    | general => exact h.general
  exact ⟨t, by rw [SummaryM.exec, ht]; rfl⟩

end RenecLedger
