/-
Signing a transaction message: `src/handle_sign_message.c`.
-/
import RenecLedger.Message
import RenecLedger.Swap

set_option autoImplicit false

open ReaderLib ProgramLib

namespace RenecLedger

/-! ## The signer -/

/-- The byte at an address counted from the start of `G_command.message`. -/
def message_byte (device : Device) (s : AppState) (addr : ℕ) : UInt8 :=
  if addr < MAX_MESSAGE_LENGTH then s.G_command.message.getD addr 0
  else device.byte_after_message s (addr - MAX_MESSAGE_LENGTH)

/-- `&header->pubkeys[i]`, wherever that is: the index need not be in the table. -/
def pubkey_at (device : Device) (s : AppState) (pubkeys : PubkeyTable) (i : ℕ) : PubkeyRef :=
  let addr := pubkeys.addr + PUBKEY_SIZE * i
  ⟨addr, Pubkey.read ((List.range PUBKEY_SIZE).map fun k => message_byte device s (addr + k))⟩

/-- The first index below `num_required_signatures` whose key is the signer's. -/
def scan_header_for_signer (device : Device) (s : AppState) (header : MessageHeader) :
    Option ℕ :=
  let signer_pubkey := device.get_public_key s.G_command.derivation_path
  (List.range header.pubkeys_header.num_required_signatures.toNat).find? fun i =>
    (pubkey_at device s header.pubkeys i).key = signer_pubkey

/-! ## The summary -/

/-- Message not processed: throw if blind signing is not enabled. -/
def blind_sign (device : Device) : App Unit := do
  let s ← get
  THROW_IF (!s.settings.allow_blind_sign) .ApduReplySdkNotSupported
  let _ ← run_printer (summary_item_set_string .primary "Unrecognized" "format")
  let message_hash := device.cx_hash_sha256 s.G_command.payload
  modify fun s => { s with G_command := { s.G_command with message_hash } }
  -- the hash lies in G_command, after the message and its length
  let _ ← run_printer (summary_item_set_hash .general "Message Hash"
    ⟨MAX_MESSAGE_LENGTH + 4, message_hash⟩)

/-- Add the items of the message, or those of blind signing. -/
def summarize_message (device : Device) (parser : Parser) (print_config : PrintConfig) :
    App Unit := do
  let processed ← run_printer (process_message_body parser print_config)
  match processed with
  | some () => pure ()
  | none => blind_sign device

/-- Add fee payer to summary if needed; the return code is ignored. -/
def add_fee_payer (print_config : PrintConfig) (fee_payer : PubkeyRef) : App Unit :=
  run_if (print_config_show_authority print_config fee_payer)
    (modify fun s =>
      { s with
        G_transaction_summary :=
          (transaction_summary_set_fee_payer_pubkey fee_payer s.G_transaction_summary).getD
            s.G_transaction_summary })

/-- The header of the message that `G_command` holds, and what follows it. -/
def parse_command_header (s : AppState) : Except Exception (MessageHeader × Parser) :=
  match parse_message_header ⟨0, s.G_command.payload⟩ with
  | some parsed => .ok parsed
  | none => .error (.THROW .ApduReplyRenecInvalidMessage)

/-- Ensure the requested signer is present in the header. -/
def find_signer (device : Device) (s : AppState) (header : MessageHeader) : Except Exception ℕ :=
  match scan_header_for_signer device s header with
  | some signer_index => .ok signer_index
  | none => .error (.THROW .ApduReplyRenecInvalidMessageHeader)

/-- The print configuration, which lies on the stack of the source's function. The key of
the signer is the one that the scan has compared. -/
def sign_print_config (device : Device) (s : AppState) (header : MessageHeader)
    (signer_index : ℕ) : PrintConfig :=
  { header
    expert_mode := s.settings.display_mode_expert
    signer_pubkey := pubkey_at device s header.pubkeys signer_index }

/-- Returns the header and the index of the signer, which the source keeps on its stack
until it has set the summary. -/
def handle_sign_message_parse_message (device : Device) : App (MessageHeader × ℕ) := do
  let s ← get
  THROW_IF (s.G_command.instruction ≠ some .InsSignMessage ∨
    s.G_command.state ≠ .ApduStatePayloadComplete) .ApduReplySdkInvalidParameter
  let (header, parser) ← of_except (parse_command_header s)
  let signer_index ← of_except (find_signer device s header)
  THROW_IF s.G_command.non_confirm .ApduReplySdkNotSupported
  -- Set the transaction summary
  reset_summary
  summarize_message device parser (sign_print_config device s header signer_index)
  add_fee_payer (sign_print_config device s header signer_index)
    (pubkey_at device s header.pubkeys 0)
  return (header, signer_index)

/-! ## The review -/

/-- The loop over the two items, from the first one on; the display's return code is
ignored. -/
def check_swap_items (validated : SwapValidated) (summary : TransactionSummary) :
    List SummaryItemKind → ℕ → Bool × Bool → SummaryDisplay → Option (Bool × SummaryDisplay)
  | [], _, (amount_ok, recipient_ok), display => some (amount_ok && recipient_ok, display)
  | kind :: kinds, i, (amount_ok, recipient_ok), display => do
    let (_, display) ← transaction_summary_display_item summary i ⟨true⟩ display
    match kind with
    | .SummaryItemAmount =>
      let amount_ok ← check_swap_amount validated display.title display.text
      check_swap_items validated summary kinds (i + 1) (amount_ok, recipient_ok) display
    | .SummaryItemPubkey =>
      let recipient_ok := check_swap_recipient validated display.title display.text
      check_swap_items validated summary kinds (i + 1) (amount_ok, recipient_ok) display
    | _ => return (false, display)

def check_swap_validity (kinds : List SummaryItemKind) : App Bool :=
  if kinds.length ≠ 2 then pure false
  else do
    let s ← get
    let (valid, display) ← or_stop (check_swap_items s.G_swap_validated s.G_transaction_summary
      kinds 0 (false, false) s.G_transaction_summary_display)
    modify fun s => { s with G_transaction_summary_display := display }
    return valid

/-- In swap context the message was shown by the exchange app: the response is sent at
once, and is the last one. -/
def respond_to_swap (summary_step_kinds : List SummaryItemKind) : App Unit := do
  let s ← get
  -- Safety against trying to make the app sign multiple TX
  throw_if s.G_swap_response_ready .stop
  modify fun s => { s with G_swap_response_ready := true }
  let valid ← check_swap_validity summary_step_kinds
  if valid then do
    let tx ← set_result_sign_message
    sendResponse tx .ApduReplySuccess false
  else
    sendResponse (.bytes []) .ApduReplyRenecSummaryFinalizeFailed false

def handle_sign_message_ui : App Unit := do
  let s ← get
  match transaction_summary_finalize s.G_transaction_summary with
  | none => THROW .ApduReplyRenecSummaryFinalizeFailed
  | some summary_step_kinds =>
    if s.G_called_from_swap then respond_to_swap summary_step_kinds
    else start_sign_ui

end RenecLedger
