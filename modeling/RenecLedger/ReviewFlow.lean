/-
The steps of a review: `flow_steps` of `src/ui/sign_message_bagl.c`, and the pairs of a transaction
in `src/ui/sign_message_nbgl.c`.

BAGL puts the steps of a review into an array of fixed size before it shows them. With as many
items as a summary can have, a transaction fills all of it; an off-chain message with a step for
its text would not fit then, but its summary has six items at most. The steps are those of the
items, in order, and both user interfaces show the same of them.
-/
import RenecLedger.Reviewable
import RenecLedger.OffchainReview
import RenecLedger.ItemPlaces

set_option autoImplicit false

open ProgramLib

namespace RenecLedger

/-! ## The array of steps -/

/-- What the entries of `flow_steps` point to. -/
inductive FlowStep
  | ux_summary_step
  | ux_sign_msg_text_step
  | ux_approve_step
  | ux_reject_step
  | FLOW_END_STEP
deriving DecidableEq

def MAX_FLOW_STEPS_ONCHAIN : ℕ := MAX_TRANSACTION_SUMMARY_ITEMS + 1 + 1 + 1
def MAX_FLOW_STEPS_OFFCHAIN : ℕ := 7 + 1 + 1 + 1

/-- The array, `none` where it is cleared, and `num_flow_steps`. -/
structure FlowSteps where
  flow_steps : List (Option FlowStep)
  num_flow_steps : ℕ
deriving DecidableEq

def FlowSteps.cleared : FlowSteps where
  flow_steps := List.replicate (max MAX_FLOW_STEPS_ONCHAIN MAX_FLOW_STEPS_OFFCHAIN) none
  num_flow_steps := 0

/-- `flow_steps[num_flow_steps++] = step`. There is no result behind the array. -/
def add_flow_step (step : FlowStep) (flow : FlowSteps) : Option FlowSteps :=
  if flow.num_flow_steps < flow.flow_steps.length then
    some ⟨flow.flow_steps.set flow.num_flow_steps step, flow.num_flow_steps + 1⟩
  else
    none

namespace Bagl

def start_sign_tx_ui (num_summary_steps : ℕ) : Option FlowSteps := do
  let flow ← (List.range num_summary_steps).foldlM
    (fun flow _ => add_flow_step .ux_summary_step flow) FlowSteps.cleared
  let flow ← add_flow_step .ux_approve_step flow
  let flow ← add_flow_step .ux_reject_step flow
  add_flow_step .FLOW_END_STEP flow

def start_sign_offchain_message_ui (is_ascii : Bool) (num_summary_steps : ℕ) :
    Option FlowSteps := do
  let flow ← (List.range num_summary_steps).foldlM
    (fun flow _ => add_flow_step .ux_summary_step flow) FlowSteps.cleared
  let flow ← if is_ascii then add_flow_step .ux_sign_msg_text_step flow else some flow
  let flow ← add_flow_step .ux_approve_step flow
  let flow ← add_flow_step .ux_reject_step flow
  add_flow_step .FLOW_END_STEP flow

end Bagl

/-- The array after these steps. -/
def FlowSteps.of (steps : List FlowStep) : FlowSteps where
  flow_steps := steps.map some ++
    List.replicate (max MAX_FLOW_STEPS_ONCHAIN MAX_FLOW_STEPS_OFFCHAIN - steps.length) none
  num_flow_steps := steps.length

theorem add_flow_step_of {steps : List FlowStep} {step : FlowStep}
    (h : steps.length < MAX_FLOW_STEPS_ONCHAIN) :
    add_flow_step step (FlowSteps.of steps) = some (FlowSteps.of (steps ++ [step])) := by
  have hmax : max MAX_FLOW_STEPS_ONCHAIN MAX_FLOW_STEPS_OFFCHAIN = MAX_FLOW_STEPS_ONCHAIN := rfl
  obtain ⟨n, hn⟩ : ∃ n, MAX_FLOW_STEPS_ONCHAIN = steps.length + n + 1 := Nat.exists_eq_add_of_lt h
  have hset : (steps.map some ++ none :: List.replicate n none).set steps.length (some step) =
      (steps ++ [step]).map some ++ List.replicate n none := by
    rw [List.set_append_right _ _ (by rw [List.length_map]), List.length_map, Nat.sub_self,
      List.set_cons_zero, List.map_append, List.map_singleton, List.append_assoc,
      List.singleton_append]
  have hroom : steps.length < (steps.map some ++ none :: List.replicate n none).length := by
    rw [List.length_append, List.length_map, List.length_cons]
    omega
  have hlength : (steps ++ [step]).length = steps.length + 1 := by
    rw [List.length_append, List.length_singleton]
  rw [FlowSteps.of, FlowSteps.of, hmax, hlength, hn, show steps.length + n + 1 - steps.length =
    n + 1 by omega, show steps.length + n + 1 - (steps.length + 1) = n by omega,
    List.replicate_succ, add_flow_step, if_pos hroom, hset]

/-- Steps that have room are put behind the others, by induction on them. -/
theorem add_flow_steps_of {steps added : List FlowStep}
    (h : (steps ++ added).length ≤ MAX_FLOW_STEPS_ONCHAIN) :
    added.foldlM (fun flow step => add_flow_step step flow) (FlowSteps.of steps) =
      some (FlowSteps.of (steps ++ added)) := by
  induction added generalizing steps with
  | nil =>
    rw [List.append_nil]
    rfl
  | cons step added ih =>
    have happend : steps ++ step :: added = steps ++ [step] ++ added := List.append_cons ..
    have hlength := h
    rw [List.length_append, List.length_cons] at hlength
    rw [List.foldlM_cons, add_flow_step_of (by omega), Option.bind_eq_bind, Option.bind_some,
      happend]
    exact ih (happend ▸ h)

theorem add_summary_steps (n : ℕ) (flow : FlowSteps) :
    (List.range n).foldlM (fun flow _ => add_flow_step .ux_summary_step flow) flow =
      (List.replicate n FlowStep.ux_summary_step).foldlM (fun flow step => add_flow_step step flow)
        flow := by
  have hreplicate : List.replicate n FlowStep.ux_summary_step =
      (List.range n).map fun _ => .ux_summary_step := by
    rw [List.map_const', List.length_range]
  rw [hreplicate, List.foldlM_map]

/-- The steps of a transaction. -/
def transaction_steps (num_summary_steps : ℕ) : List FlowStep :=
  List.replicate num_summary_steps .ux_summary_step ++
    [.ux_approve_step, .ux_reject_step, .FLOW_END_STEP]

/-- The steps of an off-chain message. -/
def offchain_steps (is_ascii : Bool) (num_summary_steps : ℕ) : List FlowStep :=
  List.replicate num_summary_steps .ux_summary_step ++
    (if is_ascii then [.ux_sign_msg_text_step] else []) ++
      [.ux_approve_step, .ux_reject_step, .FLOW_END_STEP]

theorem start_sign_tx_ui_eq {n : ℕ} (h : (transaction_steps n).length ≤ MAX_FLOW_STEPS_ONCHAIN) :
    Bagl.start_sign_tx_ui n = some (FlowSteps.of (transaction_steps n)) := by
  have hadd := add_flow_steps_of (show ([] ++ transaction_steps n).length ≤ _ from h)
  rw [transaction_steps, List.foldlM_append] at hadd
  simp only [List.foldlM_cons, List.foldlM_nil, bind_pure] at hadd
  rw [Bagl.start_sign_tx_ui, add_summary_steps]
  exact hadd

theorem start_sign_offchain_message_ui_eq {is_ascii : Bool} {n : ℕ}
    (h : (offchain_steps is_ascii n).length ≤ MAX_FLOW_STEPS_ONCHAIN) :
    Bagl.start_sign_offchain_message_ui is_ascii n =
      some (FlowSteps.of (offchain_steps is_ascii n)) := by
  have hadd := add_flow_steps_of (show ([] ++ offchain_steps is_ascii n).length ≤ _ from h)
  rw [offchain_steps, List.foldlM_append, List.foldlM_append, bind_assoc] at hadd
  rw [Bagl.start_sign_offchain_message_ui, add_summary_steps]
  cases is_ascii with
  | false =>
    simp only [Bool.false_eq_true, if_false, List.foldlM_cons, List.foldlM_nil, bind_pure,
      pure_bind] at hadd
    exact hadd
  | true =>
    simp only [if_true, List.foldlM_cons, List.foldlM_nil, bind_pure] at hadd
    exact hadd

/-! ## What a step shows -/

/-- What is displayed of an item: its title and its text, if they can be printed. -/
def page (t : AppState) (item : SummaryItem) : Except Exception DynamicSlot × AppState :=
  match transaction_summary_update_display_for_item (some item) t.display_flags
    t.G_transaction_summary_display with
  | none => (.error .stop, t)
  | some (rc, display) =>
    (if rc = 0 then .ok ⟨display.title, display.text⟩
      else .error (.THROW .ApduReplyRenecSummaryUpdateFailed),
      { t with G_transaction_summary_display := display })

section Pages

variable {t : AppState} {i : ℕ} {item : SummaryItem}

theorem display_item_page (hprimary : t.G_transaction_summary.primary ≠ none)
    (hitem : t.G_transaction_summary.items[i]? = some item) :
    transaction_summary_display_item t.G_transaction_summary i t.display_flags
      t.G_transaction_summary_display =
        transaction_summary_update_display_for_item (some item) t.display_flags
          t.G_transaction_summary_display := by
  rw [transaction_summary_display_item, transaction_summary_find_item_eq hprimary hitem]

/-- BAGL. -/
theorem ux_summary_step_page (hprimary : t.G_transaction_summary.primary ≠ none)
    (hitem : t.G_transaction_summary.items[i]? = some item) :
    (ux_summary_step i).run.run t = page t item := by
  have hdisplay := display_item_page hprimary hitem
  rw [page]
  split
  · rename_i hnone
    rw [ux_summary_step, get_bind, hdisplay, hnone]
    rfl
  · rename_i rc display hsome
    exact ux_summary_step_run (hdisplay.trans hsome)

/-- `start_sign_tx_ui` of NBGL. -/
def NbglReview.start_sign_tx_ui (review : NbglReview) (num_summary_steps : ℕ) : NbglReview :=
  { review with transaction_steps_number := num_summary_steps, last_step_is_ascii := false }

/-- NBGL, whatever is in the slots. -/
theorem review_pair_page {review : NbglReview} (h : review.Sized) {index : UInt8} (n : ℕ)
    (hprimary : t.G_transaction_summary.primary ≠ none)
    (hitem : t.G_transaction_summary.items[index.toNat]? = some item) :
    (Prod.snd <$> get_single_action_review_pair index (review.start_sign_tx_ui n)).run.run t =
      page t item := by
  have hslots : (review.start_sign_tx_ui n).Sized := ⟨h.slots, h.title, h.text⟩
  obtain ⟨slot, -, hget⟩ := hslots.slot index.toNat
  have hother : ¬(index.toNat = to_size ((review.start_sign_tx_ui n).transaction_steps_number
      - 1 : ℤ) ∧ (review.start_sign_tx_ui n).last_step_is_ascii = true) := fun hlast =>
    Bool.false_ne_true hlast.2
  have hdisplay := display_item_page hprimary hitem
  rw [map_eq_pure_bind, page]
  split
  · rename_i hnone
    refine bind_of_error ?_
    rw [get_single_action_review_pair, get_bind, or_stop_bind hget, if_neg hother, hdisplay, hnone]
    rfl
  · rename_i rc display hsome
    by_cases hrc : rc = 0
    · rw [if_pos hrc]
      have hpair : (get_single_action_review_pair index (review.start_sign_tx_ui n)).run.run t =
          (.ok ({ review.start_sign_tx_ui n with
            displayed_slots := review.displayed_slots.set
              (index.toNat % review.displayed_slots.length) ⟨display.title, display.text⟩ },
            ⟨display.title, display.text⟩),
            { t with G_transaction_summary_display := display }) := by
        rw [get_single_action_review_pair, get_bind, or_stop_bind hget, if_neg hother,
          or_stop_bind (hdisplay.trans hsome)]
        dsimp only
        rw [modify_bind, THROW_IF, bind_of_ok (throw_if_neg (not_not.mpr hrc) _ _), run_pure]
        rfl
      exact bind_of_ok hpair
    · rw [if_neg hrc]
      refine bind_of_error ?_
      rw [get_single_action_review_pair, get_bind, or_stop_bind hget, if_neg hother,
        or_stop_bind (hdisplay.trans hsome)]
      dsimp only
      rw [modify_bind, THROW_IF, bind_of_error (throw_if_pos hrc _ _)]

end Pages

/-! ## The steps of a review -/

/-- Every item is shown under its index on BAGL. -/
def StepsShowItems (t : AppState) : Prop :=
  ∀ i item, t.G_transaction_summary.items[i]? = some item →
    (ux_summary_step i).run.run t = page t item

/-- And on NBGL, where the index is a byte. -/
def PairsShowItems (t : AppState) (review : NbglReview) : Prop :=
  ∀ (index : UInt8) item, t.G_transaction_summary.items[index.toNat]? = some item →
    (Prod.snd <$> get_single_action_review_pair index review).run.run t = page t item

/-- A review is opened on a summary that has been finalized. -/
theorem sign_message_finalizes {device : Device} {s t : AppState}
    (hcalled : s.G_called_from_swap = false)
    (hrun : (handle_sign_message device).run.run s = (.ok (), t)) :
    ∃ kinds, transaction_summary_finalize t.G_transaction_summary = some kinds := by
  rw [handle_sign_message, bind_eq_ok] at hrun
  obtain ⟨result, u, hparse, hui⟩ := hrun
  have hkeeps := keeps_handle_sign_message_parse_message device s
  rw [hparse] at hkeeps
  have hcalled' : u.G_called_from_swap = false :=
    (congrArg AppCore.G_called_from_swap hkeeps).trans hcalled
  rw [handle_sign_message_ui, get_bind] at hui
  split at hui
  · cases hui
  · rename_i kinds hfinalize
    rw [hcalled'] at hui
    cases hui
    exact ⟨kinds, hfinalize⟩

/-- **The steps of a transaction are its items**: there is room for all of them, and each shows
its item, on both user interfaces. -/
theorem transaction_steps_show_items (device : Device) {s t : AppState}
    (hcalled : s.G_called_from_swap = false)
    (hrun : (handle_sign_message device).run.run s = (.ok (), t)) {review : NbglReview}
    (hreview : review.Sized) :
    ∃ kinds, transaction_summary_finalize t.G_transaction_summary = some kinds ∧
      kinds.length = t.G_transaction_summary.items.length ∧
      Bagl.start_sign_tx_ui kinds.length =
        some (FlowSteps.of (transaction_steps kinds.length)) ∧
      StepsShowItems t ∧ PairsShowItems t (review.start_sign_tx_ui kinds.length) := by
  obtain ⟨kinds, hfinalize⟩ := sign_message_finalizes hcalled hrun
  obtain ⟨hprimary, hlength⟩ := finalize_length hfinalize
  refine ⟨kinds, hfinalize, hlength, start_sign_tx_ui_eq ?_,
    fun i item => ux_summary_step_page hprimary,
    fun index item => review_pair_page hreview kinds.length hprimary⟩
  have hitems := items_length_le t.G_transaction_summary
  have hmax : MAX_FLOW_STEPS_ONCHAIN = MAX_TRANSACTION_SUMMARY_ITEMS + 3 := rfl
  rw [transaction_steps, List.length_append, List.length_replicate, hlength, hmax]
  exact Nat.add_le_add_right hitems 3

/-- A transfer is shown on both. -/
theorem own_transfer_steps : ∃ t kinds,
    (handle_sign_message nines_device).run.run own_transfer = (.ok (), t) ∧
    transaction_summary_finalize t.G_transaction_summary = some kinds ∧
    kinds.length = t.G_transaction_summary.items.length ∧
    Bagl.start_sign_tx_ui kinds.length = some (FlowSteps.of (transaction_steps kinds.length)) ∧
    StepsShowItems t ∧ PairsShowItems t (empty_review.start_sign_tx_ui kinds.length) := by
  obtain ⟨u, t, hrun, -⟩ := returns_any (p := handle_sign_message nines_device)
    (s := own_transfer) (P := fun _ => True) (by decide +kernel)
  obtain ⟨kinds, h⟩ := transaction_steps_show_items nines_device rfl hrun sized_empty_review
  exact ⟨t, kinds, hrun, h⟩

/-- The summary of an off-chain message leaves room for a step of its text. -/
theorem print_offchain_message_steps {header : OffchainMessageHeader} {is_ascii expert_mode : Bool}
    {message_hash : Hash} {signer : Pubkey} {summary : TransactionSummary}
    (h : (print_offchain_message header is_ascii expert_mode message_hash signer).exec
      transaction_summary_reset = some (some (), summary)) :
    ∃ kinds, transaction_summary_finalize summary = some kinds ∧
      (offchain_steps is_ascii kinds.length).length ≤ MAX_FLOW_STEPS_OFFCHAIN := by
  cases is_ascii <;> cases expert_mode <;> cases h
  · exact ⟨[.SummaryItemString, .SummaryItemHash], rfl, by decide⟩
  · exact ⟨[.SummaryItemString, .SummaryItemU64, .SummaryItemU64, .SummaryItemU64,
      .SummaryItemHash, .SummaryItemPubkey], rfl, by decide⟩
  · exact ⟨[.SummaryItemString], rfl, by decide⟩
  · exact ⟨[.SummaryItemString, .SummaryItemU64, .SummaryItemU64, .SummaryItemU64,
      .SummaryItemHash, .SummaryItemPubkey], rfl, by decide⟩

/-- **The steps of an off-chain message** are at most as many as are allowed for, with the one of
its text. -/
theorem offchain_steps_show_items (device : Device) {s t : AppState}
    (hrun : (handle_sign_offchain_message device).run.run s = (.ok (), t)) :
    ∃ kinds is_ascii, transaction_summary_finalize t.G_transaction_summary = some kinds ∧
      kinds.length = t.G_transaction_summary.items.length ∧
      is_ascii = is_data_ascii (s.G_command.payload.drop OFFCHAIN_MESSAGE_HEADER_LENGTH) ∧
      (offchain_steps is_ascii kinds.length).length ≤ MAX_FLOW_STEPS_OFFCHAIN ∧
      Bagl.start_sign_offchain_message_ui is_ascii kinds.length =
        some (FlowSteps.of (offchain_steps is_ascii kinds.length)) ∧
      StepsShowItems t := by
  obtain ⟨header, -, hexec⟩ := sign_offchain_message_prints hrun
  obtain ⟨kinds, hfinalize, hsteps⟩ := print_offchain_message_steps hexec
  obtain ⟨hprimary, hlength⟩ := finalize_length hfinalize
  have hmax : MAX_FLOW_STEPS_OFFCHAIN ≤ MAX_FLOW_STEPS_ONCHAIN := by decide
  exact ⟨kinds, _, hfinalize, hlength, rfl, hsteps,
    start_sign_offchain_message_ui_eq (hsteps.trans hmax),
    fun i item => ux_summary_step_page hprimary⟩

/-- A text that is to be reviewed in expert mode. -/
def expert_text : AppState :=
  { coin_main { user_settings with display_mode_expert := true } with
    G_command := (Assembly.mk .InsSignOffchainMessage false coin_path
      (OFFCHAIN_MESSAGE_SIGNING_DOMAIN ++ [0, 0, 4, 0] ++ c_string "Text") (by decide)).command
        .ApduStatePayloadComplete }

/-- It needs all of the steps. -/
theorem expert_text_steps : ∃ (t : AppState) (kinds : List SummaryItemKind),
    (handle_sign_offchain_message nines_device).run.run expert_text = (.ok (), t) ∧
    (offchain_steps true kinds.length).length = MAX_FLOW_STEPS_OFFCHAIN ∧
    Bagl.start_sign_offchain_message_ui true kinds.length =
      some (FlowSteps.of (offchain_steps true kinds.length)) ∧ StepsShowItems t := by
  have hsix : (match (handle_sign_offchain_message nines_device).run.run expert_text with
      | (.ok _, t) => decide (t.G_transaction_summary.items.length = 6)
      | (.error _, _) => false) = true := by
    decide +kernel
  rcases hrun : (handle_sign_offchain_message nines_device).run.run expert_text with ⟨e | u, t⟩
  · rw [hrun] at hsix
    cases hsix
  · rw [hrun] at hsix
    obtain ⟨kinds, is_ascii, -, hlength, hascii, -, hflow, hsteps⟩ :=
      offchain_steps_show_items nines_device hrun
    rw [of_decide_eq_true hsix] at hlength
    have htext : is_ascii = true := hascii.trans (by decide +kernel)
    rw [htext] at hflow
    exact ⟨t, kinds, rfl, by rw [hlength]; decide, hflow, hsteps⟩

end RenecLedger
