/-
The one signature of a swap.

In swap mode a message is signed without a review, when the two items of its summary pass
the checks. What this says of the message is worked out from the summary backwards, up to
the instructions that were parsed (`IsValidatedTransfer`). Along a run in which the user
approves no review nothing else is signed, and nothing follows the signature
(`swap_signs_validated`). A review can be open all the same: the handler of off-chain messages
does not ask who has started the app, and its approve button signs whatever the command holds
by then (`other_swap_is_signed`).
-/
import RenecLedger.Review
import RenecLedger.SwapSpec

set_option autoImplicit false

open MachineLib ProgramLib ReaderLib

namespace RenecLedger

variable {device : Device}

/-! ## The summary of a message -/

/-- A message that is summarized was accepted, or the summary says that it was not. -/
theorem summarize_message_cases {parser : Parser} {print_config : PrintConfig} {s u : AppState}
    (hreset : s.G_transaction_summary = transaction_summary_reset)
    (h : (summarize_message device parser print_config).run.run s = (.ok (), u)) :
    accepts parser print_config u.G_transaction_summary ∨
      ⟨"Unrecognized", .SummaryItemString "format"⟩ ∈ u.G_transaction_summary.items := by
  rw [summarize_message, bind_eq_ok] at h
  obtain ⟨processed, s₁, hprocess, h⟩ := h
  obtain ⟨summary, hexec, rfl⟩ := run_printer_eq_ok.mp hprocess
  rw [hreset] at hexec
  cases processed with
  | some done =>
    cases h
    exact Or.inl hexec
  -- The message was not processed: the blind-sign summary sets its first item here, and
  -- no later write removes an item.
  | none =>
    change (blind_sign device).run.run _ = _ at h
    rw [blind_sign, get_bind, THROW_IF, throw_if_bind_eq_ok] at h
    obtain ⟨-, h⟩ := h
    rw [bind_eq_ok] at h
    obtain ⟨r₁, s₂, hformat, h⟩ := h
    rw [modify_bind, bind_eq_ok] at h
    obtain ⟨r₂, s₃, hhash, h⟩ := h
    cases h
    obtain ⟨summary₁, hexec₁, rfl⟩ := run_printer_eq_ok.mp hformat
    obtain ⟨summary₂, hexec₂, rfl⟩ := run_printer_eq_ok.mp hhash
    right
    have hitem : ⟨"Unrecognized", .SummaryItemString "format"⟩ ∈ summary₁.items :=
      (SummaryM.exec_mem hexec₁ _).mpr (Or.inr ⟨_, List.mem_singleton_self _, rfl⟩)
    exact (SummaryM.exec_mem hexec₂ _).mpr (Or.inl hitem)

/-- The fee payer is added where the configuration shows it, and nothing else of the
summary changes. -/
theorem add_fee_payer_run (print_config : PrintConfig) (fee_payer : PubkeyRef) (u : AppState) :
    ((add_fee_payer print_config fee_payer).run.run u).2.G_transaction_summary =
      if print_config_show_authority print_config fee_payer then
        (transaction_summary_set_fee_payer_pubkey fee_payer u.G_transaction_summary).getD
          u.G_transaction_summary
      else u.G_transaction_summary := by
  rw [add_fee_payer, run_if]
  split <;> rfl

/-- The fee payer's item is added, if it is shown and its place is free; no item is lost. -/
theorem add_fee_payer_items {print_config : PrintConfig} {fee_payer : PubkeyRef} {u t : AppState}
    (h : (add_fee_payer print_config fee_payer).run.run u = (.ok (), t)) :
    (∀ item ∈ u.G_transaction_summary.items, item ∈ t.G_transaction_summary.items) ∧
      (∀ item ∈ t.G_transaction_summary.items, item ∈ u.G_transaction_summary.items ∨
        item = ⟨"Fee payer", .SummaryItemPubkey fee_payer⟩) ∧
      (print_config_show_authority print_config fee_payer = true →
        0 < u.G_transaction_summary.free .fee_payer →
        ⟨"Fee payer", .SummaryItemPubkey fee_payer⟩ ∈ t.G_transaction_summary.items) := by
  have hrun := add_fee_payer_run print_config fee_payer u
  rw [h] at hrun
  change t.G_transaction_summary = _ at hrun
  rw [hrun]
  split
  · cases hset : transaction_summary_set_fee_payer_pubkey fee_payer u.G_transaction_summary with
    | none =>
      refine ⟨fun item hitem => hitem, fun item hitem => Or.inl hitem, fun _ hfree => ?_⟩
      obtain ⟨summary, hwrite, -⟩ := write_free (w := ⟨.fee_payer, "Fee payer",
        .SummaryItemPubkey fee_payer⟩) hfree
      rw [transaction_summary_set_fee_payer_pubkey, hwrite] at hset
      cases hset
    | some summary =>
      have hmem := write_items hset
      refine ⟨fun item hitem => (hmem item).mpr (Or.inl hitem), fun item hitem => ?_,
        fun _ _ => (hmem _).mpr (Or.inr rfl)⟩
      exact ((hmem item).mp hitem).imp id Eq.symm
  · rename_i hshow
    exact ⟨fun item hitem => hitem, fun item hitem => Or.inl hitem,
      fun hshow' => absurd hshow' hshow⟩

/-! ## The message of a swap -/

/-- Two items that pass the checks, as a whole: nothing else is among them. What follows
for the message is found from their titles and kinds, since the checks look at nothing
else. -/
structure SwapItems (validated : SwapValidated) (items : List SummaryItem) : Prop where
  all : ∀ item ∈ items, IsValidatedAmount validated item ∨ IsValidatedRecipient validated item
  amount : ∃ item ∈ items, IsValidatedAmount validated item
  recipient : ∃ item ∈ items, IsValidatedRecipient validated item

/-- The checks pass only when the displayed items are the validated amount and
recipient. -/
theorem check_swap_validity_true {s t : AppState} {kinds : List SummaryItemKind}
    (hdisplay : s.G_transaction_summary_display = SummaryDisplay.reset)
    (hfinal : transaction_summary_finalize s.G_transaction_summary = some kinds)
    (h : (check_swap_validity kinds).run.run s = (.ok true, t)) :
    SwapItems s.G_swap_validated s.G_transaction_summary.items := by
  rw [transaction_summary_finalize] at hfinal
  split at hfinal
  · cases hfinal
  rename_i hprimary
  cases hfinal
  rw [check_swap_validity_run, List.length_map] at h
  split at h
  · cases h
  rename_i hlength
  rw [not_not] at hlength
  obtain ⟨a, b, hitems⟩ := List.length_eq_two.mp hlength
  split at h
  · cases h
  rename_i valid display hcheck
  cases h
  rw [hdisplay] at hcheck
  have hne : s.G_transaction_summary.primary ≠ none := by
    intro hnone
    rw [hnone] at hprimary
    exact hprimary rfl
  -- Two items passed the loop with both flags set, so one of them is the amount and the
  -- other one the recipient.
  have htwo := check_swap_items_true hne hitems hcheck
  rw [hitems]
  rcases htwo with ⟨ha, hb⟩ | ⟨ha, hb⟩
  · refine ⟨fun item hitem => ?_, ⟨a, by simp, ha⟩, ⟨b, by simp, hb⟩⟩
    rcases List.mem_pair.mp hitem with rfl | rfl
    · exact Or.inl ha
    · exact Or.inr hb
  · refine ⟨fun item hitem => ?_, ⟨b, by simp, hb⟩, ⟨a, by simp, ha⟩⟩
    rcases List.mem_pair.mp hitem with rfl | rfl
    · exact Or.inr ha
    · exact Or.inl hb

/-- A key under another title is not among them. -/
theorem SwapItems.pubkey_notMem {validated : SwapValidated} {items : List SummaryItem}
    (h : SwapItems validated items) {title : String} {pubkey : PubkeyRef}
    (htitle : c_str (c_string title) ≠ c_string "Recipient") :
    ⟨title, .SummaryItemPubkey pubkey⟩ ∉ items := by
  intro hitem
  rcases h.all _ hitem with hamount | hrecipient
  · cases hamount.value
  · exact htitle hrecipient.title

/-- Nor is a text. -/
theorem SwapItems.string_notMem {validated : SwapValidated} {items : List SummaryItem}
    (h : SwapItems validated items) (title string : String) :
    ⟨title, .SummaryItemString string⟩ ∉ items := by
  intro hitem
  rcases h.all _ hitem with hamount | hrecipient
  · cases hamount.value
  · obtain ⟨pubkey, hvalue, -⟩ := hrecipient.value
    cases hvalue

/-- The items of a transfer. -/
theorem transfer_sets_iff (print_config : PrintConfig) (transfer : SystemTransferInfo)
    (P : SummaryItem → Prop) :
    (print_transaction_nonce_processed print_config
        [.ProgramIdSystem (.SystemTransfer transfer)]).sets P ↔
      P ⟨"Transfer", .SummaryItemAmount transfer.lamports⟩ ∨
        (print_config_show_authority print_config transfer.from_ = true ∧
          P ⟨"Sender", .SummaryItemPubkey transfer.from_⟩) ∨
        P ⟨"Recipient", .SummaryItemPubkey transfer.to_⟩ := by
  simp [print_transaction_nonce_processed, print_one_instruction, print_system_info,
    print_system_transfer_info]

/-- An authority that is not shown is the signer, and the mode is for users. -/
theorem show_authority_false {print_config : PrintConfig} {authority : PubkeyRef}
    (h : ¬print_config_show_authority print_config authority = true) :
    print_config.expert_mode = false ∧ print_config.signer_pubkey.key = authority.key := by
  rw [print_config_show_authority, Bool.or_eq_true, not_or, Bool.not_eq_true, Bool.not_eq_true',
    Bool.not_eq_false] at h
  exact ⟨h.1, of_decide_eq_true h.2⟩

/-- A message besides whose memos and leading nonce instruction there is one transfer,
of what was confirmed, from the account of the signing key, which pays the fee as well.
It speaks of the bytes of the message and of the path they were signed with. -/
def IsValidatedTransfer (device : Device) (validated : SwapValidated)
    (derivation_path : List UInt32) (message : List UInt8) : Prop :=
  ∃ header message_body infos transfer,
    parse_message_header ⟨0, message⟩ = some (header, message_body) ∧
    (parse_message_body header).run' message_body = some infos ∧
    strip_nonce (display_instruction_info infos) =
      [.ProgramIdSystem (.SystemTransfer transfer)] ∧
    transfer.lamports = validated.amount ∧
    base58 transfer.to_.key.data = c_str validated.recipient ∧
    transfer.from_.key = device.get_public_key derivation_path ∧
    header.pubkeys.keys.head? = some (device.get_public_key derivation_path)

/-- An accepted body whose items pass the checks, with the fee payer's item added. -/
theorem accepted_transfer {message_body : Parser} {print_config : PrintConfig}
    {infos : List InstructionInfo} {validated : SwapValidated} {fee_payer : PubkeyRef}
    {u t : TransactionSummary}
    (hp : (parse_message_body print_config.header).run' message_body = some infos)
    (haccepts : accepts message_body print_config u)
    (hkept : ∀ item ∈ u.items, item ∈ t.items)
    (hadded : ∀ item ∈ t.items, item ∈ u.items ∨ item = ⟨"Fee payer", .SummaryItemPubkey fee_payer⟩)
    (hitems : SwapItems validated t.items) :
    ∃ transfer, strip_nonce (display_instruction_info infos) =
        [.ProgramIdSystem (.SystemTransfer transfer)] ∧
      transfer.lamports = validated.amount ∧
      base58 transfer.to_.key.data = c_str validated.recipient ∧
      print_config.signer_pubkey.key = transfer.from_.key := by
  have hsets := accepts_items hp haccepts
  have hrecognised := accepts_recognised hp haccepts
  have hpubkey : ∀ title pubkey, ¬IsTransferAmount ⟨title, .SummaryItemPubkey pubkey⟩ := by
    rintro title pubkey ⟨lamports, hvalue, -⟩
    cases hvalue
  -- the amount is one of a transfer
  obtain ⟨amount, hmem, hamount⟩ := hitems.amount
  have hamount_set : (print_transaction print_config (display_instruction_info infos)).sets
      IsTransferAmount := by
    refine (hsets _).mp ⟨amount, ?_, validated.amount, hamount.value, hamount.title⟩
    rcases hadded amount hmem with hmem | rfl
    · exact hmem
    · cases hamount.value
  rw [print_transaction_sets_iff print_config hpubkey] at hamount_set
  obtain ⟨transfer, hstrip⟩ := hrecognised.transfer_of_sets print_config hamount_set
  -- a sender that is shown would be one item more
  have hshow : ¬print_config_show_authority print_config transfer.from_ = true := by
    intro hshow
    obtain ⟨item, hmem, rfl⟩ := (hsets (· = ⟨"Sender", .SummaryItemPubkey transfer.from_⟩)).mpr
      (print_transaction_sets print_config (by
        rw [hstrip, transfer_sets_iff]
        exact Or.inr (Or.inl ⟨hshow, rfl⟩)))
    exact hitems.pubkey_notMem (by decide +kernel) (hkept _ hmem)
  obtain ⟨huser, hsigner⟩ := show_authority_false hshow
  have hprinted : ∀ P : SummaryItem → Prop, (∃ item ∈ u.items, P item) ↔
      P ⟨"Transfer", .SummaryItemAmount transfer.lamports⟩ ∨
        P ⟨"Recipient", .SummaryItemPubkey transfer.to_⟩ := by
    intro P
    rw [hsets, print_transaction_sets_user print_config huser, hstrip, transfer_sets_iff]
    simp only [hshow, Bool.false_eq_true, false_and, false_or]
  refine ⟨transfer, hstrip, ?_, ?_, hsigner⟩
  · have hmem' : amount ∈ u.items := by
      rcases hadded amount hmem with hmem | rfl
      · exact hmem
      · cases hamount.value
    rcases (hprinted (IsValidatedAmount validated)).mp ⟨amount, hmem', hamount⟩ with h | h
    · have hvalue := h.value
      rwa [SummaryItemValue.SummaryItemAmount.injEq] at hvalue
    · cases h.value
  · obtain ⟨recipient, hmem, hrecipient⟩ := hitems.recipient
    have hmem' : recipient ∈ u.items := by
      rcases hadded recipient hmem with hmem | rfl
      · exact hmem
      · exact absurd hmem (hitems.pubkey_notMem (by decide +kernel))
    rcases (hprinted (IsValidatedRecipient validated)).mp ⟨recipient, hmem', hrecipient⟩ with h | h
    · obtain ⟨pubkey, hvalue, -⟩ := h.value
      cases hvalue
    · obtain ⟨pubkey, hvalue, hkey⟩ := h.value
      cases hvalue
      exact hkey

/-- A body with an instruction has an account key: the one of its program. -/
theorem parse_message_body_pubkeys {header : MessageHeader} {message_body : Parser}
    {infos : List InstructionInfo}
    (hp : (parse_message_body header).run' message_body = some infos) (hne : infos ≠ []) :
    0 < header.pubkeys_header.pubkeys_length := by
  obtain ⟨-, -, instructions, -, hvalid, -, rfl⟩ := parse_message_body_iff.mp hp
  have hsome : instructions ≠ [] := by
    rintro rfl
    exact hne rfl
  obtain ⟨i, hi⟩ := List.exists_mem_of_ne_nil _ hsome
  have hindices := hvalid i hi
  rw [instruction_validate, Bool.and_eq_true, decide_eq_true_eq] at hindices
  omega

/-- A transaction with something to show has instructions. -/
theorem strip_nonce_ne_nil {infos : List InstructionInfo}
    (h : strip_nonce (display_instruction_info infos) ≠ []) : infos ≠ [] := by
  rintro rfl
  exact h rfl

/-- **A message whose summary passes the checks** is a transfer of what was confirmed. -/
theorem ParsesMessage.validated_transfer {s t : AppState} {header : MessageHeader}
    {message_body : Parser} {signer_index : ℕ} {validated : SwapValidated}
    (h : ParsesMessage device s header message_body signer_index t)
    (hitems : SwapItems validated t.G_transaction_summary.items) :
    IsValidatedTransfer device validated s.G_command.derivation_path s.G_command.payload := by
  obtain ⟨u, hsummarize, hfee⟩ := h.summarized
  obtain ⟨hkept, hadded, hshown⟩ := add_fee_payer_items hfee
  set print_config := sign_print_config device s header signer_index with hconfig
  rcases summarize_message_cases rfl hsummarize with haccepts | hformat
  · obtain ⟨infos, hp, hrecognised⟩ := accepts_iff.mp ⟨_, haccepts⟩
    obtain ⟨transfer, hstrip, hlamports, hto, hsigner⟩ :=
      accepted_transfer hp haccepts hkept hadded hitems
    -- the fee payer would be one item more, too
    have hfree := accepts_fee_payer_free hp haccepts
    have hshow : ¬print_config_show_authority print_config
        (pubkey_at device s header.pubkeys 0) = true := fun hshow =>
      hitems.pubkey_notMem (by decide +kernel) (hshown hshow hfree)
    have hfee_payer := (show_authority_false hshow).2
    have hkey : print_config.signer_pubkey.key =
        device.get_public_key s.G_command.derivation_path :=
      (scan_header_for_signer_found h.signer_found).2
    have hcount : 0 < header.pubkeys.keys.length := by
      rw [header.pubkeys_count]
      exact parse_message_body_pubkeys hp (strip_nonce_ne_nil (by rw [hstrip]; exact nofun))
    refine ⟨header, message_body, infos, transfer, h.parsed, hp, hstrip, hlamports, hto,
      hsigner.symm.trans hkey, ?_⟩
    rw [(pubkey_at_eq (parse_message_header_lies h.parsed) hcount).1,
      PubkeyTable.at_index_key hcount] at hfee_payer
    rw [List.head?_eq_getElem?, List.getElem?_eq_getElem hcount, ← hfee_payer, hkey]
  · exact absurd (hkept _ hformat) (hitems.string_notMem _ _)

/-! ## Handling a message for the exchange app -/

/-- The path and the message of a signature. -/
def Event.signed : Event → Option (List UInt32 × List UInt8)
  | .response (.signature derivation_path message) _ => some (derivation_path, message)
  | _ => none

/-- The paths and messages that were signed, in order. -/
def signatures (log : List Event) : List (List UInt32 × List UInt8) := log.filterMap Event.signed

/-- Signatures are collected in the order they were sent. -/
theorem signatures_append (log log' : List Event) :
    signatures (log ++ log') = signatures log ++ signatures log' := List.filterMap_append

/-- A response without a signature adds none. -/
theorem signatures_bytes (log : List Event) (data : List UInt8) (sw : ApduReply) :
    signatures (log ++ [.response (.bytes data) sw]) = signatures log := by
  rw [signatures_append]
  exact List.append_nil _

/-- Nor does a review. -/
theorem signatures_review (log : List Event) (derivation_path : List UInt32)
    (message : List UInt8) :
    signatures (log ++ [.review derivation_path message]) = signatures log := by
  rw [signatures_append]
  exact List.append_nil _

/-- A message is shown on the display that has just been cleared. -/
theorem ParsesMessage.display {s t : AppState} {header : MessageHeader} {message_body : Parser}
    {signer_index : ℕ} (h : ParsesMessage device s header message_body signer_index t) :
    t.G_transaction_summary_display = SummaryDisplay.reset := by
  obtain ⟨u, hsummarize, hfee⟩ := h.summarized
  have hkept : u.G_transaction_summary_display = SummaryDisplay.reset := by
    have hkeeps := keeps_summarize_message device (f := AppState.G_transaction_summary_display)
      (fun _ _ => rfl) (fun _ _ => rfl) message_body
      (sign_print_config device s header signer_index) s.with_reset_summary
    rw [hsummarize] at hkeeps
    exact hkeeps
  have hkeeps := keeps_add_fee_payer (f := AppState.G_transaction_summary_display)
    (fun _ _ => rfl) (sign_print_config device s header signer_index)
    (pubkey_at device s header.pubkeys 0) u
  rw [hfee] at hkeeps
  exact hkeeps.trans hkept

/-- **In swap mode** a message that ends the app was not signed, or it was signed because it
is a transfer of what was confirmed. -/
theorem handle_sign_message_swap {s t : AppState} (hcalled : s.G_called_from_swap = true)
    (hrun : (handle_sign_message device).run.run s = (.error .stop, t)) :
    signatures t.log = signatures s.log ∨
      signatures t.log = signatures s.log ++
          [(s.G_command.derivation_path, s.G_command.payload)] ∧
        IsValidatedTransfer device s.G_swap_validated s.G_command.derivation_path
          s.G_command.payload := by
  have hkeeps := keeps_handle_sign_message_parse_message device s
  rw [handle_sign_message, bind_eq_error] at hrun
  rcases hrun with hparse | ⟨⟨header, signer_index⟩, u, hparse, hui⟩
  -- Parsing itself signs nothing, whether it throws or returns.
  · rw [hparse] at hkeeps
    have hlog : t.log = s.log := congrArg AppCore.log hkeeps
    exact Or.inl (congrArg signatures hlog)
  · rw [hparse] at hkeeps
    have hlog : u.log = s.log := congrArg AppCore.log hkeeps
    have hcalled' : u.G_called_from_swap = true :=
      (congrArg AppCore.G_called_from_swap hkeeps).trans hcalled
    have hvalidated : u.G_swap_validated = s.G_swap_validated :=
      congrArg AppCore.G_swap_validated hkeeps
    have hcommand : (u.G_command.derivation_path, u.G_command.payload) =
        (s.G_command.derivation_path, s.G_command.payload) :=
      congrArg (fun core => core.G_command.to_sign) hkeeps
    rw [Prod.mk.injEq] at hcommand
    rw [handle_sign_message_ui, get_bind] at hui
    cases hfinal : transaction_summary_finalize u.G_transaction_summary with
    | none =>
      rw [hfinal] at hui
      cases hui
    | some kinds =>
      rw [hfinal] at hui
      dsimp only at hui
      rw [if_pos hcalled'] at hui
      obtain ⟨v, hrespond, hcases⟩ := respond_to_swap_run hcalled' kinds
      rw [hrespond] at hui
      cases hui
      rcases hcases with hsame | hrefused | ⟨-, ⟨w, hvalid⟩, hsigned⟩
      · rw [hsame, hlog]
        exact Or.inl rfl
      · rw [hrefused, signatures_bytes, hlog]
        exact Or.inl rfl
      · obtain ⟨message_body, hparses⟩ := parse_message_completes hparse
        have hitems := check_swap_validity_true (s := { u with G_swap_response_ready := true })
          hparses.display hfinal hvalid
        change SwapItems u.G_swap_validated u.G_transaction_summary.items at hitems
        rw [hvalidated] at hitems
        refine Or.inr ⟨?_, hparses.validated_transfer hitems⟩
        rw [hsigned, signatures_append, hlog, hcommand.1, hcommand.2]
        rfl

/-! ## Along a run -/

/-- What a handler adds to what was signed: nothing, or the transfer that ends the app.
In the second case the state before has signed nothing in this session, which the
invariant adds. -/
def AddsValidated (device : Device) (s t : AppState) : Prop :=
  signatures t.log = signatures s.log ∨
    t.stopped = true ∧ ∃ derivation_path message,
      signatures t.log = signatures s.log ++ [(derivation_path, message)] ∧
        IsValidatedTransfer device s.G_swap_validated derivation_path message

/-- A reply that is thrown carries bytes. -/
theorem end_round_signatures {t : AppState} {reply : ApduReply} {data : List UInt8}
    (htx : t.tx = .bytes data) :
    signatures (end_round (.error (.THROW reply), t)).log = signatures t.log := by
  rw [end_round, htx, signatures_bytes]

/-- What a handler signs in a swap session is the validated transfer. -/
theorem dispatch_adds_validated {s : AppState} {data : List UInt8}
    (hcalled : s.G_called_from_swap = true) (htx : s.tx = .bytes data) :
    AddsValidated device s (end_round ((dispatch_command device).run.run s)) := by
  have hanswers := answers_dispatch_command device s
  rw [Ensures] at hanswers
  rcases hrun : (dispatch_command device).run.run s with ⟨(reply | _) | u, t⟩
  · -- a reply
    rw [hrun] at hanswers
    obtain ⟨-, hlog, htx'⟩ := hanswers
    have hbytes : ∃ data, t.tx = .bytes data := by
      rcases htx' with hsame | hbytes
      · exact ⟨data, hsame.trans htx⟩
      · exact hbytes
    obtain ⟨data', hbytes⟩ := hbytes
    exact Or.inl ((end_round_signatures hbytes).trans (congrArg signatures hlog))
  · -- the end of the app
    rw [hrun] at hanswers
    rcases hanswers with hlog | ⟨-, hinstruction⟩
    · exact Or.inl (congrArg signatures hlog)
    · rw [dispatch_command, get_bind, hinstruction] at hrun
      rcases handle_sign_message_swap hcalled hrun with hsame | ⟨hsigned, hvalidated⟩
      · exact Or.inl hsame
      · exact Or.inr ⟨rfl, _, _, hsigned, hvalidated⟩
  · -- a review
    rw [hrun] at hanswers
    rcases hanswers with ⟨-, hlog⟩ | ⟨-, hlog⟩
    · exact Or.inl (congrArg signatures hlog)
    · exact Or.inl ((congrArg signatures hlog).trans (signatures_review _ _ _))

/-- What one APDU adds in swap mode. -/
theorem apdu_adds_validated {s t : AppState} {m : List UInt8}
    (hcalled : s.G_called_from_swap = true) (h : step device s (.apdu m) = some t) :
    AddsValidated device s t := by
  by_cases hm : m = []
  · subst hm
    obtain rfl := step_no_apdu h
    exact Or.inl (signatures_bytes _ _ _)
  · obtain rfl := step_apdu hm h
    rcases handleApdu_cases device m s.begin_round with ⟨reply, hrun⟩ | hrun
    · rw [hrun]
      exact Or.inl (signatures_bytes _ _ _)
    · rw [hrun]
      exact dispatch_adds_validated
        (s := s.begin_round.with_command (command_after m s.begin_round.G_command)) hcalled rfl

/-- A button that signs nothing: the user refuses, or approves the review of a key, or
there is no review. It is a condition on the state before the press. -/
def SignsNoReview (s : AppState) (i : Input) : Prop := i = .approve → s.screen ≠ .sign_review

instance (s : AppState) (i : Input) : Decidable (SignsNoReview s i) :=
  inferInstanceAs (Decidable (_ → _))

/-- Approving signs nothing unless a message is under review. -/
theorem approve_signs_nothing {s : AppState} (h : s.screen ≠ .sign_review) :
    signatures (approve.run.run s).2.log = signatures s.log := by
  rw [approve_log]
  cases hscreen : s.screen with
  | idle => rfl
  | sign_review => exact absurd hscreen h
  | pubkey_review => exact signatures_bytes _ _ _

/-- Rejecting signs nothing. -/
theorem reject_signs_nothing (s : AppState) :
    signatures (reject.run.run s).2.log = signatures s.log := by
  rw [reject, get_bind]
  split
  · rfl
  · rw [sendResponse_log, signatures_bytes]

/-- What one input adds in swap mode, if it does not approve a review to sign. -/
theorem step_adds_validated {s t : AppState} {i : Input} (hguard : SignsNoReview s i)
    (hcalled : s.G_called_from_swap = true) (h : step device s i = some t) :
    AddsValidated device s t := by
  cases i with
  | apdu m => exact apdu_adds_validated hcalled h
  | approve =>
    obtain ⟨-, rfl⟩ := step_eq_some.mp h
    left
    rw [finish_log]
    exact approve_signs_nothing (hguard rfl)
  | reject =>
    obtain ⟨-, rfl⟩ := step_eq_some.mp h
    left
    rw [finish_log]
    exact reject_signs_nothing s

/-- What holds in every state of a run for the exchange app: nothing was signed, or the
app is over and one transfer was. An app that is over takes no further input. -/
structure SwapInvariant (device : Device) (validated : SwapValidated) (s : AppState) : Prop where
  called : s.G_called_from_swap = true
  confirmed : s.G_swap_validated = validated
  signed : signatures s.log = [] ∨
    s.stopped = true ∧ ∃ derivation_path message,
      signatures s.log = [(derivation_path, message)] ∧
        IsValidatedTransfer device validated derivation_path message

/-- The step lemma: an input that does not approve a review keeps the invariant. -/
theorem SwapInvariant.step {validated : SwapValidated} {s t : AppState} {i : Input}
    (hinv : SwapInvariant device validated s) (hguard : SignsNoReview s i)
    (h : step device s i = some t) : SwapInvariant device validated t := by
  obtain ⟨hrunning, -⟩ := step_eq_some.mp h
  have hadds := step_adds_validated hguard hinv.called h
  obtain ⟨-, hcalled, hvalidated⟩ : t.settings = s.settings ∧
      t.G_called_from_swap = s.G_called_from_swap ∧ t.G_swap_validated = s.G_swap_validated := by
    simpa only [AppState.given, Prod.mk.injEq] using step_given h
  have hnone : signatures s.log = [] := by
    rcases hinv.signed with hnone | ⟨hstopped, -⟩
    · exact hnone
    · rw [hstopped] at hrunning
      cases hrunning
  refine ⟨hcalled.trans hinv.called, hvalidated.trans hinv.confirmed, ?_⟩
  rw [AddsValidated, hnone, hinv.confirmed] at hadds
  exact hadds

/-- The run lemma: the invariant holds along every run without such an approval. -/
theorem run_swap_invariant {settings : AppSettings} {validated : SwapValidated}
    {inputs : List Input} {t : AppState}
    (hrun : GuardedRun (step device) SignsNoReview (start_app_from_lib settings validated)
      inputs t) : SwapInvariant device validated t :=
  hrun.invariant ⟨rfl, rfl, Or.inl rfl⟩ fun _ _ _ hinv hguard h => hinv.step hguard h

/-- Of what was signed, at most one message, and that one was confirmed. -/
theorem SwapInvariant.signs_validated {validated : SwapValidated} {t : AppState}
    (hinv : SwapInvariant device validated t) : (signatures t.log).length ≤ 1 ∧
      ∀ signed ∈ signatures t.log, IsValidatedTransfer device validated signed.1 signed.2 := by
  rcases hinv.signed with hnone | ⟨-, derivation_path, message, hone, hvalidated⟩
  · rw [hnone]
    exact ⟨Nat.zero_le 1, fun _ h => absurd h List.not_mem_nil⟩
  · rw [hone]
    refine ⟨Nat.le_refl 1, fun signed h => ?_⟩
    rw [List.mem_singleton.mp h]
    exact hvalidated

/-- **A swap signs only the validated transfer, once.** Whatever the app receives when the
exchange app has started it, and whatever the user presses, it signs at most one message, and
that one is a transfer of what was confirmed, as long as no review to sign is approved. -/
theorem swap_signs_validated {settings : AppSettings} {validated : SwapValidated}
    {inputs : List Input} {t : AppState}
    (hrun : GuardedRun (step device) SignsNoReview (start_app_from_lib settings validated)
      inputs t) :
    (signatures t.log).length ≤ 1 ∧
      ∀ signed ∈ signatures t.log, IsValidatedTransfer device validated signed.1 signed.2 :=
  (run_swap_invariant hrun).signs_validated

/-- 5 lamports for an account have been confirmed in the exchange app. -/
def confirmed_swap : SwapValidated :=
  ⟨true, 5, c_string "8qbHbw2BbbTHBW1sbeqakYXVKRQM8Ne7pLK7m6CVfeR"⟩

/-- A key is approved, and the transfer of what was confirmed is signed. -/
theorem own_swap_is_signed : ∃ t,
    GuardedRun (step nines_device) SignsNoReview (start_app_from_lib user_settings confirmed_swap)
      [.apdu (chunk_apdu .InsGetPubkey P1_CONFIRM 0 coin_path.encode), .approve,
        sign_apdu (transfer_to (Pubkey.fill 2)) false] t ∧
    signatures t.log = [(coin_path.words, transfer_to (Pubkey.fill 2))] ∧
    IsValidatedTransfer nines_device confirmed_swap coin_path.words
      (transfer_to (Pubkey.fill 2)) := by
  have hany : ∃ t, GuardedRun (step nines_device) SignsNoReview
      (start_app_from_lib user_settings confirmed_swap)
      [.apdu (chunk_apdu .InsGetPubkey P1_CONFIRM 0 coin_path.encode), .approve,
        sign_apdu (transfer_to (Pubkey.fill 2)) false] t ∧
      signatures t.log = [(coin_path.words, transfer_to (Pubkey.fill 2))] :=
    GuardedRun.any (by decide +kernel)
  obtain ⟨t, hrun, hsigned⟩ := hany
  refine ⟨t, hrun, hsigned, ?_⟩
  have hvalidated := (swap_signs_validated hrun).2 (coin_path.words,
    transfer_to (Pubkey.fill 2)) (by rw [hsigned]; exact List.mem_singleton_self _)
  exact hvalidated

/-- **The APDUs alone** sign nothing else. -/
theorem swap_apdus_sign_validated {settings : AppSettings} {validated : SwapValidated}
    {apdus : List (List UInt8)} {t : AppState}
    (hrun : Run (step device) (start_app_from_lib settings validated) (apdus.map Input.apdu) t) :
    (signatures t.log).length ≤ 1 ∧
      ∀ signed ∈ signatures t.log, IsValidatedTransfer device validated signed.1 signed.2 := by
  refine (run_swap_invariant (hrun.guarded fun s i hi => ?_)).signs_validated
  obtain ⟨m, -, rfl⟩ := List.mem_map.mp hi
  intro h
  cases h

/-! ## A review in a swap -/

/-- The transfer of a message does not go to the account that was confirmed. -/
def goes_elsewhere (validated : SwapValidated) (message : List UInt8) : Bool :=
  (parse_message_header ⟨0, message⟩).all fun parsed =>
    ((parse_message_body parsed.1).run' parsed.2).all fun infos =>
      match strip_nonce (display_instruction_info infos) with
      | [.ProgramIdSystem (.SystemTransfer transfer)] =>
        base58 transfer.to_.key.data ≠ c_str validated.recipient
      | _ => true

/-- A transfer to another recipient is not the validated one, whatever the device. -/
theorem not_validated_of_goes_elsewhere {validated : SwapValidated} {path : List UInt32}
    {message : List UInt8} (h : goes_elsewhere validated message = true) :
    ¬IsValidatedTransfer device validated path message := by
  rintro ⟨header, message_body, infos, transfer, hparse, hinfos, hstrip, -, hto, -⟩
  rw [goes_elsewhere, hparse, Option.all_some] at h
  dsimp only at h
  rw [hinfos, Option.all_some, hstrip] at h
  exact of_decide_eq_true h hto

/-- An off-chain message of one letter, in one chunk. -/
def offchain_apdu : Input :=
  .apdu (chunk_apdu .InsSignOffchainMessage P1_CONFIRM (chunk_p2 false false)
    (1 :: (coin_path.encode ++ (OFFCHAIN_MESSAGE_SIGNING_DOMAIN ++ [0, 0, 1, 0, 97]))))

/-- An off-chain message is put up for review. Then a transfer to another account comes, with
more to follow, and the review is approved: that transfer is signed, and the one that was
confirmed is signed after it. -/
theorem other_swap_is_signed : ∃ t,
    Run (step nines_device) (start_app_from_lib user_settings confirmed_swap)
      [offchain_apdu, sign_apdu (transfer_to (Pubkey.fill 3)) true, .approve,
        sign_apdu (transfer_to (Pubkey.fill 2)) false] t ∧
    signatures t.log = [(coin_path.words, transfer_to (Pubkey.fill 3)),
      (coin_path.words, transfer_to (Pubkey.fill 2))] ∧
    ¬IsValidatedTransfer nines_device confirmed_swap coin_path.words
      (transfer_to (Pubkey.fill 3)) := by
  have hany : ∃ t, GuardedRun (step nines_device) (fun _ _ => True)
      (start_app_from_lib user_settings confirmed_swap)
      [offchain_apdu, sign_apdu (transfer_to (Pubkey.fill 3)) true, .approve,
        sign_apdu (transfer_to (Pubkey.fill 2)) false] t ∧
      signatures t.log = [(coin_path.words, transfer_to (Pubkey.fill 3)),
        (coin_path.words, transfer_to (Pubkey.fill 2))] :=
    GuardedRun.any (by decide +kernel)
  obtain ⟨t, hrun, hsigned⟩ := hany
  exact ⟨t, hrun.toRun, hsigned, not_validated_of_goes_elsewhere (by decide +kernel)⟩

end RenecLedger
