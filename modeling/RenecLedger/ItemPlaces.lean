/-
Counting the items and finding them.

`transaction_summary_finalize` fills an array with the kinds of the used items, and
`transaction_summary_find_item` gives a pointer to the item with an index. They are written
once more as they work on memory (`Raw.…`): the array is filled from an index, and an item is
found as a place in the summary. Both go through the used places in display order
(`TransactionSummary.used_places`), so that what is counted is what is found
(`finalize_display_agree`).
-/
import RenecLedger.DisplaySpec

set_option autoImplicit false

namespace RenecLedger

def MAX_TRANSACTION_SUMMARY_ITEMS : ℕ := 1 + NUM_GENERAL_ITEMS + 1 + 1 + 1

/-- A pointer into the summary: `&summary->primary` and so on. -/
inductive SummaryPlace
  | primary
  | general (i : Fin NUM_GENERAL_ITEMS)
  | nonce_account
  | nonce_authority
  | fee_payer
deriving DecidableEq

/-- The item a pointer points to. -/
def TransactionSummary.item_at (summary : TransactionSummary) :
    SummaryPlace → Option SummaryItem
  | .primary => summary.primary
  | .general i => summary.general.get (i.cast summary.general_length.symm)
  | .nonce_account => summary.nonce_account
  | .nonce_authority => summary.nonce_authority
  | .fee_payer => summary.fee_payer

/-- `is_summary_item_used`. -/
def TransactionSummary.used (summary : TransactionSummary) (place : SummaryPlace) : Bool :=
  (summary.item_at place).isSome

/-- The places whose items are shown when they are used. -/
def middle_places : List SummaryPlace :=
  (List.finRange NUM_GENERAL_ITEMS).map SummaryPlace.general ++ [.nonce_account, .nonce_authority]

/-! ## On memory -/

namespace Raw

/-- Go through the places, counting those that are used: the one where the count is at the
index, or the count after all of them. -/
def walk_places (summary : TransactionSummary) (item_index : ℕ) :
    List SummaryPlace → ℕ → SummaryPlace ⊕ ℕ
  | [], current_index => .inr current_index
  | place :: places, current_index =>
    if summary.used place then
      if current_index = item_index then .inl place
      else walk_places summary item_index places (current_index + 1)
    else walk_places summary item_index places current_index

/-- The pointer that `transaction_summary_find_item` returns; `none` is `NULL`. -/
def transaction_summary_find_item (summary : TransactionSummary) (item_index : ℕ) :
    Option SummaryPlace :=
  if item_index = 0 then some .primary
  else
    match walk_places summary item_index middle_places 1 with
    | .inl place => some place
    | .inr current_index => if current_index = item_index then some .fee_payer else none

/-- `SET_IF_USED`: a used item appends its kind. There is no result when the array ends. -/
def set_if_used (item : Option SummaryItem) :
    List SummaryItemKind × ℕ → Option (List SummaryItemKind × ℕ)
  | (item_kinds, index) =>
    match item with
    | none => some (item_kinds, index)
    | some item =>
      if index < item_kinds.length then some (item_kinds.set index item.kind, index + 1) else none

/-- The return code, the array and `*item_kinds_len`. -/
def transaction_summary_finalize (summary : TransactionSummary)
    (item_kinds : List SummaryItemKind) (item_kinds_len : ℕ) :
    Option (ℕ × List SummaryItemKind × ℕ) := do
  if summary.primary.isNone then return (1, item_kinds, item_kinds_len)
  let state ← set_if_used summary.primary (item_kinds, 0)
  let state ← summary.general.foldlM (fun state item => set_if_used item state) state
  let state ← set_if_used summary.nonce_account state
  let state ← set_if_used summary.nonce_authority state
  let (item_kinds, index) ← set_if_used summary.fee_payer state
  return (0, item_kinds, index)

end Raw

/-! ## The places in display order -/

/-- What `transaction_summary_find_item` can find, by index. -/
def TransactionSummary.found_places (summary : TransactionSummary) : List SummaryPlace :=
  .primary :: middle_places.filter summary.used ++ [.fee_payer]

/-- Every place, in display order. -/
def all_places : List SummaryPlace := .primary :: middle_places ++ [.fee_payer]

/-- The places of the items that are shown. -/
def TransactionSummary.used_places (summary : TransactionSummary) : List SummaryPlace :=
  all_places.filter summary.used

theorem mem_all_places (place : SummaryPlace) : place ∈ all_places := by
  cases place with
  | general i =>
    have hgeneral : SummaryPlace.general i ∈
        (List.finRange NUM_GENERAL_ITEMS).map SummaryPlace.general :=
      List.mem_map_of_mem (List.mem_finRange i)
    exact List.mem_append_left _ (List.mem_cons_of_mem _ (List.mem_append_left _ hgeneral))
  | _ => decide

theorem nodup_all_places : all_places.Nodup := by decide

theorem mem_used_places {summary : TransactionSummary} {place : SummaryPlace} :
    place ∈ summary.used_places ↔ summary.item_at place ≠ none := by
  rw [TransactionSummary.used_places, List.mem_filter, TransactionSummary.used,
    Option.isSome_iff_ne_none, and_iff_right (mem_all_places place)]

/-- The general items, one place after the other. -/
theorem map_general (summary : TransactionSummary) :
    ((List.finRange NUM_GENERAL_ITEMS).map SummaryPlace.general).map summary.item_at =
      summary.general := by
  refine List.ext_getElem ?_ fun i hi hi' => ?_
  · rw [List.length_map, List.length_map, List.length_finRange, summary.general_length]
  · rw [List.getElem_map, List.getElem_map, List.getElem_finRange]
    rfl

theorem map_middle (summary : TransactionSummary) :
    middle_places.map summary.item_at =
      summary.general ++ [summary.nonce_account, summary.nonce_authority] := by
  rw [middle_places, List.map_append, map_general]
  rfl

/-- The used values of a function, read off the places where it has one. -/
theorem map_filter_isSome {α β : Type} (f : α → Option β) (l : List α) :
    (l.filter fun a => (f a).isSome).map f = (l.map f).reduceOption.map some := by
  induction l with
  | nil => rfl
  | cons a l ih =>
    rw [List.filter_cons, List.map_cons]
    cases ha : f a with
    | none =>
      rw [List.reduceOption_cons_of_none, ← ih]
      rfl
    | some b =>
      rw [List.reduceOption_cons_of_some, List.map_cons, ← ih, if_pos (by rfl), List.map_cons, ha]

/-- The slots of the summary in display order, used or not. -/
def TransactionSummary.all_items (summary : TransactionSummary) : List (Option SummaryItem) :=
  summary.primary :: (summary.general ++ [summary.nonce_account, summary.nonce_authority]) ++
    [summary.fee_payer]

theorem map_all_places (summary : TransactionSummary) :
    all_places.map summary.item_at = summary.all_items := by
  rw [all_places, List.map_append, List.map_cons, map_middle]
  rfl

theorem reduceOption_all_items (summary : TransactionSummary) :
    summary.all_items.reduceOption = summary.items := by
  rw [TransactionSummary.all_items, List.cons_append, ← List.singleton_append,
    List.reduceOption_append, List.reduceOption_append, List.reduceOption_singleton,
    List.reduceOption_singleton, items_eq_middle, TransactionSummary.middle_items,
    List.append_assoc]

/-- The items in display order are those at the used places. -/
theorem items_eq_places (summary : TransactionSummary) :
    summary.used_places.map summary.item_at = summary.items.map some := by
  rw [← reduceOption_all_items, ← map_all_places]
  exact map_filter_isSome summary.item_at all_places

/-! ## Finding -/

/-- Walking over places finds the used one with the index, or counts them. -/
theorem walk_places_eq (summary : TransactionSummary) (item_index : ℕ)
    (places : List SummaryPlace) (current_index : ℕ) (h : current_index ≤ item_index) :
    Raw.walk_places summary item_index places current_index =
      match (places.filter summary.used)[item_index - current_index]? with
      | some place => .inl place
      | none => .inr (current_index + (places.filter summary.used).length) := by
  induction places generalizing current_index with
  | nil => rfl
  | cons place places ih =>
    rw [Raw.walk_places, List.filter_cons]
    by_cases hused : summary.used place = true
    · rw [if_pos hused, if_pos hused]
      by_cases hhere : current_index = item_index
      · rw [if_pos hhere, hhere, Nat.sub_self]
        rfl
      · obtain ⟨k, hk⟩ : ∃ k, item_index - current_index = k + 1 :=
          ⟨item_index - current_index - 1, by omega⟩
        rw [if_neg hhere, ih (current_index + 1) (by omega), hk, List.getElem?_cons_succ,
          show item_index - (current_index + 1) = k by omega, List.length_cons,
          Nat.add_assoc, Nat.add_comm 1]
    · rw [if_neg hused, if_neg hused]
      exact ih current_index h

/-- **What is found** under an index. -/
theorem find_item_eq (summary : TransactionSummary) (i : ℕ) :
    Raw.transaction_summary_find_item summary i = summary.found_places[i]? := by
  rw [Raw.transaction_summary_find_item, TransactionSummary.found_places, List.cons_append]
  match i with
  | 0 => rfl
  | i + 1 =>
    rw [if_neg (Nat.succ_ne_zero i), walk_places_eq _ _ _ _ (Nat.le_add_left 1 i),
      Nat.add_sub_cancel, List.getElem?_cons_succ]
    by_cases hi : i < (middle_places.filter summary.used).length
    · rw [List.getElem?_append_left hi, List.getElem?_eq_getElem hi]
    · -- behind the others, only the fee payer
      rw [List.getElem?_append_right (Nat.not_lt.mp hi), List.getElem?_eq_none (Nat.not_lt.mp hi),
        List.getElem?_singleton]
      refine ite_congr ?_ (fun _ => rfl) fun _ => rfl
      rw [eq_iff_iff]
      omega

/-- The walk over items is the one over their places. -/
theorem walk_items_map (summary : TransactionSummary) (item_index : ℕ)
    (places : List SummaryPlace) (current_index : ℕ) :
    (walk_items item_index (places.map summary.item_at) current_index).map some id =
      (Raw.walk_places summary item_index places current_index).map summary.item_at id := by
  induction places generalizing current_index with
  | nil => rfl
  | cons place places ih =>
    rw [List.map_cons, Raw.walk_places, TransactionSummary.used]
    cases hitem : summary.item_at place with
    | none => exact ih current_index
    | some item =>
      have hused : (some item).isSome = true := rfl
      rw [walk_items, if_pos hused]
      by_cases hhere : current_index = item_index
      · rw [if_pos hhere, if_pos hhere, Sum.map_inl, Sum.map_inl, hitem]
      · rw [if_neg hhere, if_neg hhere]
        exact ih (current_index + 1)

/-- The item that is found is the one the pointer points to. -/
theorem find_item_deref (summary : TransactionSummary) (i : ℕ) :
    transaction_summary_find_item summary i =
      (Raw.transaction_summary_find_item summary i).map summary.item_at := by
  rw [transaction_summary_find_item, Raw.transaction_summary_find_item]
  by_cases hi : i = 0
  · rw [if_pos hi, if_pos hi]
    rfl
  · rw [if_neg hi, if_neg hi]
    have hwalk := walk_items_map summary i middle_places 1
    rw [map_middle] at hwalk
    cases hitem : walk_items i _ 1 with
    | inl item =>
      cases hplace : Raw.walk_places summary i middle_places 1 with
      | inl place =>
        rw [hitem, hplace, Sum.map_inl, Sum.map_inl, Sum.inl.injEq] at hwalk
        exact congrArg some hwalk
      | inr n =>
        rw [hitem, hplace] at hwalk
        cases hwalk
    | inr n =>
      cases hplace : Raw.walk_places summary i middle_places 1 with
      | inl place =>
        rw [hitem, hplace] at hwalk
        cases hwalk
      | inr n' =>
        rw [hitem, hplace, Sum.map_inr, Sum.map_inr, Sum.inr.injEq] at hwalk
        obtain rfl : n = n' := hwalk
        dsimp only
        rw [apply_ite (Option.map summary.item_at)]
        rfl

/-- Only the fee payer is found without being used, behind the others. -/
theorem found_places_cases (summary : TransactionSummary) (hprimary : summary.primary ≠ none) :
    ∃ unused, summary.found_places = summary.used_places ++ unused ∧
      ∀ place ∈ unused, summary.item_at place = none := by
  have hused : summary.used .primary = true := Option.isSome_iff_ne_none.mpr hprimary
  rw [TransactionSummary.found_places, TransactionSummary.used_places, all_places,
    List.filter_append, List.filter_cons, if_pos hused, List.filter_singleton]
  cases hfee : summary.used .fee_payer with
  | true => exact ⟨[], by simp, nofun⟩
  | false =>
    refine ⟨[.fee_payer], by simp, ?_⟩
    rw [List.forall_mem_singleton]
    exact Option.not_isSome_iff_eq_none.mp (Bool.eq_false_iff.mp hfee)

/-! ## Counting -/

/-- A run of `SET_IF_USED` puts the kinds behind what was set before. -/
theorem set_if_used_run (items : List (Option SummaryItem)) (set rest : List SummaryItemKind)
    (hroom : items.reduceOption.length ≤ rest.length) :
    items.foldlM (fun state item => Raw.set_if_used item state) (set ++ rest, set.length) =
      some (set ++ items.reduceOption.map SummaryItem.kind ++
        rest.drop items.reduceOption.length, set.length + items.reduceOption.length) := by
  induction items generalizing set rest with
  | nil =>
    rw [List.reduceOption_nil, List.map_nil, List.append_nil]
    rfl
  | cons item items ih =>
    rw [List.foldlM_cons]
    cases item with
    | none => exact ih set rest hroom
    | some item =>
      rw [List.reduceOption_cons_of_some, List.length_cons] at hroom ⊢
      match rest with
      | [] => exact absurd hroom (Nat.not_succ_le_zero _)
      | kind :: rest =>
        have hset : Raw.set_if_used (some item) (set ++ kind :: rest, set.length) =
            some (set ++ [item.kind] ++ rest, (set ++ [item.kind]).length) := by
          rw [Raw.set_if_used, if_pos (by simp), List.set_append_right _ _ (Nat.le_refl _),
            Nat.sub_self, List.set_cons_zero, List.append_assoc, List.singleton_append,
            List.length_append, List.length_singleton]
        rw [List.length_cons] at hroom
        rw [hset, Option.bind_eq_bind, Option.bind_some,
          ih (set ++ [item.kind]) rest (Nat.le_of_succ_le_succ hroom), List.map_cons,
          List.drop_succ_cons, List.length_append, List.length_singleton, Nat.add_assoc,
          Nat.add_comm 1, List.append_assoc set, List.singleton_append]

/-- There are never more items than the callers' arrays hold. -/
theorem items_length_le (summary : TransactionSummary) :
    summary.items.length ≤ MAX_TRANSACTION_SUMMARY_ITEMS := by
  rw [← reduceOption_all_items, ← map_all_places]
  exact List.reduceOption_length_le (all_places.map summary.item_at)

/-- With a primary item, the array is filled by one run over the slots. -/
theorem finalize_eq_run {summary : TransactionSummary} (hprimary : summary.primary ≠ none)
    (item_kinds : List SummaryItemKind) (item_kinds_len : ℕ) :
    Raw.transaction_summary_finalize summary item_kinds item_kinds_len =
      (summary.all_items.foldlM (fun state item => Raw.set_if_used item state)
        (item_kinds, 0)).map fun state => (0, state.1, state.2) := by
  have hset : summary.primary.isNone = false := by
    rwa [Option.isNone_eq_false_iff, Option.isSome_iff_ne_none]
  rw [Raw.transaction_summary_finalize, hset, TransactionSummary.all_items]
  simp only [List.foldlM_cons, List.foldlM_append, List.foldlM_nil, List.cons_append,
    Option.bind_eq_bind, Option.map_eq_bind, Option.bind_assoc, Option.pure_def,
    Option.bind_fun_some, Function.comp_def, Bool.false_eq_true, if_false]

/-- **The array that is filled**: the kinds of the items in display order. -/
theorem finalize_fills {summary : TransactionSummary} (hprimary : summary.primary ≠ none)
    {item_kinds : List SummaryItemKind} (item_kinds_len : ℕ)
    (hsize : MAX_TRANSACTION_SUMMARY_ITEMS ≤ item_kinds.length) :
    Raw.transaction_summary_finalize summary item_kinds item_kinds_len =
      some (0, summary.items.map SummaryItem.kind ++ item_kinds.drop summary.items.length,
        summary.items.length) := by
  have hroom : summary.all_items.reduceOption.length ≤ item_kinds.length := by
    rw [reduceOption_all_items]
    exact Nat.le_trans (items_length_le summary) hsize
  have hrun := set_if_used_run summary.all_items [] item_kinds hroom
  rw [reduceOption_all_items, List.nil_append, List.nil_append, List.length_nil,
    Nat.zero_add] at hrun
  rw [finalize_eq_run hprimary, hrun]
  rfl

/-! ## Both together -/

section Agree

variable {summary : TransactionSummary}

theorem used_places_length (summary : TransactionSummary) :
    summary.used_places.length = summary.items.length := by
  rw [← List.length_map summary.item_at, items_eq_places, List.length_map]

theorem item_at_used_place {i : ℕ} (hi : i < summary.items.length)
    (hplace : i < summary.used_places.length) :
    summary.item_at summary.used_places[i] = some summary.items[i] := by
  have hat := congrArg (·[i]?) (items_eq_places summary)
  simpa only [List.getElem?_map, List.getElem?_eq_getElem hplace, List.getElem?_eq_getElem hi,
    Option.map_some, Option.some.injEq] using hat

/-- Below the number of items, the used place with the index is found. -/
theorem find_item_used (hprimary : summary.primary ≠ none) {i : ℕ}
    (hi : i < summary.items.length) :
    Raw.transaction_summary_find_item summary i = summary.used_places[i]? := by
  obtain ⟨unused, hfound, -⟩ := found_places_cases summary hprimary
  rw [find_item_eq, hfound, List.getElem?_append_left]
  rwa [used_places_length]

theorem find_item_inj (hprimary : summary.primary ≠ none) {i j : ℕ}
    (hi : i < summary.items.length) (hj : j < summary.items.length)
    (h : Raw.transaction_summary_find_item summary i =
      Raw.transaction_summary_find_item summary j) : i = j := by
  have hnodup : summary.used_places.Nodup := nodup_all_places.filter _
  rw [find_item_used hprimary hi, find_item_used hprimary hj] at h
  refine (List.getElem?_inj ?_ hnodup).mp h
  rwa [used_places_length]

/-- A used item is found under one index. -/
theorem find_item_once (hprimary : summary.primary ≠ none) {place : SummaryPlace}
    (hplace : summary.item_at place ≠ none) :
    ∃! i, i < summary.items.length ∧
      Raw.transaction_summary_find_item summary i = some place := by
  obtain ⟨i, hi, hat⟩ := List.mem_iff_getElem.mp (mem_used_places.mpr hplace)
  have hlt : i < summary.items.length := by rwa [← used_places_length]
  have hhere : Raw.transaction_summary_find_item summary i = some place := by
    rw [find_item_used hprimary hlt, List.getElem?_eq_getElem hi, hat]
  refine ⟨i, ⟨hlt, hhere⟩, ?_⟩
  rintro j ⟨hj, hthere⟩
  exact find_item_inj hprimary hj hlt (hthere.trans hhere.symm)

/-- Behind the items there is nothing to display. -/
theorem display_item_behind (hprimary : summary.primary ≠ none) {i : ℕ}
    (hi : summary.items.length ≤ i) (flags : DisplayFlags) (display : SummaryDisplay) :
    transaction_summary_display_item summary i flags display = some (1, display) := by
  obtain ⟨unused, hfound, hunused⟩ := found_places_cases summary hprimary
  rw [← used_places_length] at hi
  rw [transaction_summary_display_item, find_item_deref, find_item_eq, hfound,
    List.getElem?_append_right hi]
  cases hrest : unused[i - summary.used_places.length]? with
  | none => rfl
  | some place =>
    rw [Option.map_some, hunused place (List.mem_of_getElem? hrest)]
    rfl

end Agree

/-- **Finalize and display agree**: the kinds that are counted are those of the items that are
found, every used item is found under exactly one of the indices, and nothing is displayed under
an index after them. -/
theorem finalize_display_agree (summary : TransactionSummary) (hprimary : summary.primary ≠ none)
    (item_kinds : List SummaryItemKind) (item_kinds_len : ℕ)
    (hsize : MAX_TRANSACTION_SUMMARY_ITEMS ≤ item_kinds.length) :
    ∃ item_kinds' n,
      Raw.transaction_summary_finalize summary item_kinds item_kinds_len =
        some (0, item_kinds', n) ∧
      transaction_summary_finalize summary = some (item_kinds'.take n) ∧
      (∀ i < n, ∃ place item,
        Raw.transaction_summary_find_item summary i = some place ∧
          summary.item_at place = some item ∧
          transaction_summary_find_item summary i = some (some item) ∧
          item_kinds'[i]? = some item.kind) ∧
      (∀ i < n, ∀ j < n, Raw.transaction_summary_find_item summary i =
        Raw.transaction_summary_find_item summary j → i = j) ∧
      (∀ place, summary.item_at place ≠ none →
        ∃! i, i < n ∧ Raw.transaction_summary_find_item summary i = some place) ∧
      ∀ i, n ≤ i → ∀ flags display,
        transaction_summary_display_item summary i flags display = some (1, display) := by
  refine ⟨_, _, finalize_fills hprimary item_kinds_len hsize, ?_, ?_, ?_, ?_, ?_⟩
  · have hset : ¬summary.primary.isNone = true := by
      rwa [Option.isNone_iff_eq_none]
    rw [transaction_summary_finalize, if_neg hset, List.take_left' (List.length_map _)]
  · intro i hi
    have hplace : i < summary.used_places.length := by rwa [used_places_length]
    have hitem := item_at_used_place hi hplace
    have hhere : Raw.transaction_summary_find_item summary i = some summary.used_places[i] := by
      rw [find_item_used hprimary hi, List.getElem?_eq_getElem hplace]
    refine ⟨_, _, hhere, hitem, ?_, ?_⟩
    · rw [find_item_deref, hhere, Option.map_some, hitem]
    · rw [List.getElem?_append_left (by rwa [List.length_map]), List.getElem?_map,
        List.getElem?_eq_getElem hi, Option.map_some]
  · intro i hi j hj hij
    exact find_item_inj hprimary hi hj hij
  · intro place hplace
    exact find_item_once hprimary hplace
  · intro i hi flags display
    exact display_item_behind hprimary hi flags display

/-- A transfer with a nonce authority, and nothing between them. -/
def transfer_with_nonce_authority : TransactionSummary :=
  { transaction_summary_reset with
    primary := some ⟨"Transfer", .SummaryItemAmount 42⟩
    nonce_authority := some ⟨"Nonce authority", .SummaryItemString "self"⟩ }

/-- It takes two screens. -/
theorem transfer_finalize_display :
    Raw.transaction_summary_finalize transfer_with_nonce_authority
        (List.replicate MAX_TRANSACTION_SUMMARY_ITEMS .SummaryItemNone) 0 =
      some (0, [.SummaryItemAmount, .SummaryItemString] ++ List.replicate 13 .SummaryItemNone, 2) ∧
    (∃! i, i < 2 ∧ Raw.transaction_summary_find_item transfer_with_nonce_authority i =
      some .nonce_authority) ∧
    ∀ flags display, transaction_summary_display_item transfer_with_nonce_authority 2 flags
      display = some (1, display) := by
  obtain ⟨item_kinds', n, hfinalize, -, -, -, honce, hend⟩ :=
    finalize_display_agree transfer_with_nonce_authority (by decide)
      (List.replicate MAX_TRANSACTION_SUMMARY_ITEMS .SummaryItemNone) 0 (by decide)
  have hn : n = 2 := by
    have hrun : Raw.transaction_summary_finalize transfer_with_nonce_authority
        (List.replicate MAX_TRANSACTION_SUMMARY_ITEMS .SummaryItemNone) 0 =
      some (0, [.SummaryItemAmount, .SummaryItemString] ++ List.replicate 13 .SummaryItemNone, 2) :=
      rfl
    rw [hrun] at hfinalize
    cases hfinalize
    rfl
  rw [hn] at honce hend
  exact ⟨rfl, honce .nonce_authority (by decide), hend 2 (Nat.le_refl 2)⟩

end RenecLedger
