/-
Signing an off-chain message: `src/handle_sign_offchain_message.c`.
-/
import RenecLedger.App

set_option autoImplicit false

open ReaderLib ProgramLib

namespace RenecLedger

def MAX_OFFCHAIN_MESSAGE_LENGTH : ℕ :=
  if MAX_MESSAGE_LENGTH - 1 > 1212 then 1212 else MAX_MESSAGE_LENGTH - 1

def OFFCHAIN_MESSAGE_HEADER_LENGTH : ℕ := 19

/-- `(data[i + 1] & 0xc0) == 0x80`: the byte continues a sequence. -/
def is_continuation (b : UInt8) : Bool := b &&& 0xc0 = 0x80

/-- Checks if data is in UTF-8 format, one sequence after the other. -/
def is_data_utf8 : List UInt8 → Bool
  | [] => true
  | b₀ :: data =>
    if b₀ < 0x80 then
      -- 0xxxxxxx
      is_data_utf8 data
    else if b₀ &&& 0xe0 = 0xc0 then
      -- 110XXXXx 10xxxxxx
      match data with
      | b₁ :: data =>
        if !is_continuation b₁ ∨ b₀ &&& 0xfe = 0xc0 then false else is_data_utf8 data
      | _ => false
    else if b₀ &&& 0xf0 = 0xe0 then
      -- 1110XXXX 10Xxxxxx 10xxxxxx
      match data with
      | b₁ :: b₂ :: data =>
        if !is_continuation b₁ ∨ !is_continuation b₂ ∨
            -- overlong? surrogate? U+FFFE or U+FFFF?
            (b₀ = 0xe0 ∧ b₁ &&& 0xe0 = 0x80) ∨ (b₀ = 0xed ∧ b₁ &&& 0xe0 = 0xa0) ∨
            (b₀ = 0xef ∧ b₁ = 0xbf ∧ b₂ &&& 0xfe = 0xbe) then false
        else is_data_utf8 data
      | _ => false
    else if b₀ &&& 0xf8 = 0xf0 then
      -- 11110XXX 10XXxxxx 10xxxxxx 10xxxxxx
      match data with
      | b₁ :: b₂ :: b₃ :: data =>
        if !is_continuation b₁ ∨ !is_continuation b₂ ∨ !is_continuation b₃ ∨
            -- overlong? > U+10FFFF?
            (b₀ = 0xf0 ∧ b₁ &&& 0xf0 = 0x80) ∨ (b₀ = 0xf4 ∧ b₁ > 0x8f) ∨ b₀ > 0xf4 then false
        else is_data_utf8 data
      | _ => false
    else
      false

/-- Checks if data is in ASCII format. -/
def is_data_ascii (data : List UInt8) : Bool :=
  data.all fun b => !(b < 0x20 ∨ b > 0x7e)

/-- Where the file's own `G_publicKey` lies: not in the message. -/
def offchain_publicKey_addr : ℕ := SIZE_MAX

/-- The summary of an off-chain message. -/
def print_offchain_message (header : OffchainMessageHeader) (is_ascii expert_mode : Bool)
    (message_hash : Hash) (signer : Pubkey) : SummaryM Unit := do
  summary_item_set_string .primary "Sign" "Off-Chain Message"
  if expert_mode then
    summary_item_set_u64 .general "Version" header.version.toUInt64
    summary_item_set_u64 .general "Format" header.format.toUInt64
    summary_item_set_u64 .general "Size" header.length.toUInt64
    summary_item_set_hash .general "Hash" ⟨MAX_MESSAGE_LENGTH + 4, message_hash⟩
    summary_item_set_pubkey .general "Signer" ⟨offchain_publicKey_addr, signer⟩
  else if !is_ascii then
    summary_item_set_hash .general "Hash" ⟨MAX_MESSAGE_LENGTH + 4, message_hash⟩

/-- The checks of the header, and of the text that follows it. -/
def check_offchain_message (s : AppState) (header : OffchainMessageHeader) :
    Except Exception Bool :=
  if header.version ≠ 0 ∨ header.format > 1 ∨
      header.length.toNat > MAX_OFFCHAIN_MESSAGE_LENGTH ∨
      header.length.toNat + OFFCHAIN_MESSAGE_HEADER_LENGTH ≠ s.G_command.message_length then
    .error (.THROW .ApduReplyRenecInvalidMessageHeader)
  else
    let data := (s.G_command.message.drop OFFCHAIN_MESSAGE_HEADER_LENGTH).take header.length.toNat
    let is_ascii := is_data_ascii data
    let is_utf8 := if is_ascii then true else is_data_utf8 data
    if !is_ascii && (!is_utf8 || header.format = 0) then
      .error (.THROW .ApduReplyRenecInvalidMessageFormat)
    else if !is_ascii && !s.settings.allow_blind_sign then
      .error (.THROW .ApduReplySdkNotSupported)
    else
      .ok is_ascii

def parse_command_offchain_header (s : AppState) : Except Exception OffchainMessageHeader :=
  match parse_offchain_message_header ⟨0, s.G_command.payload⟩ with
  | some (header, _) => .ok header
  | none => .error (.THROW .ApduReplyRenecInvalidMessageHeader)

def handle_sign_offchain_message (device : Device) : App Unit := do
  let s ← get
  THROW_IF (s.G_command.instruction ≠ some .InsSignOffchainMessage ∨
    s.G_command.state ≠ .ApduStatePayloadComplete) .ApduReplySdkInvalidParameter
  THROW_IF s.G_command.non_confirm .ApduReplySdkNotSupported
  -- parse header
  let header ← of_except (parse_command_offchain_header s)
  -- validate message
  let is_ascii ← of_except (check_offchain_message s header)
  -- compute message hash if needed
  let expert_mode := s.settings.display_mode_expert
  run_if (!is_ascii || expert_mode)
    (modify fun s =>
      { s with
        G_command :=
          { s.G_command with message_hash := device.cx_hash_sha256 s.G_command.payload } })
  -- fill out UX steps
  reset_summary
  let message_hash ← gets fun s => s.G_command.message_hash
  let _ ← run_printer (print_offchain_message header is_ascii expert_mode message_hash
    (device.get_public_key s.G_command.derivation_path))
  let s ← get
  match transaction_summary_finalize s.G_transaction_summary with
  | none => THROW .ApduReplyRenecSummaryFinalizeFailed
  | some _ => start_sign_ui

end RenecLedger
