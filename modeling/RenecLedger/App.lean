/-
The state of the app, its input and output, and the public key command: `src/io.c`,
`src/utils.c` and `src/handle_get_pubkey.c`.

`AppState` holds the globals of the app that its logic reads or writes, the screen, and
a log of what left the device. A function that may `THROW` is a program in `App`: the
state it has changed by then stays changed. The parts of the system that are not in the
repository are a `Device`: key derivation, the hash, and the bytes that happen to lie
after the message buffer.
-/
import RenecLedger.Apdu
import RenecLedger.SummaryDisplay

set_option autoImplicit false

open ProgramLib

namespace RenecLedger

/-! ## State -/

structure AppSettings where
  allow_blind_sign : Bool
  pubkey_display_long : Bool
  display_mode_expert : Bool
deriving DecidableEq

/-- What the user confirmed in the exchange app. The recipient is a C string. -/
structure SwapValidated where
  initialized : Bool
  amount : UInt64
  recipient : List UInt8
deriving DecidableEq

/-- What the buttons act on. -/
inductive Screen
  | idle
  | sign_review
  | pubkey_review
deriving DecidableEq

/-- What is in `G_io_apdu_buffer` in front of the status word: bytes, or the signature
of a message with the key of a derivation path. -/
inductive ResponseData
  | bytes (data : List UInt8)
  | signature (derivation_path : List UInt32) (message : List UInt8)
deriving DecidableEq

/-- A response that is sent, or a review that is put on the screen, with the derivation
path and the message that `G_command` holds at that moment. -/
inductive Event
  | response (tx : ResponseData) (sw : ApduReply)
  | review (derivation_path : List UInt32) (message : List UInt8)
deriving DecidableEq

structure AppState where
  G_command : ApduCommand
  G_transaction_summary : TransactionSummary
  G_transaction_summary_display : SummaryDisplay
  G_publicKey : Pubkey
  G_publicKeyStr : List UInt8
  G_called_from_swap : Bool
  G_swap_response_ready : Bool
  G_swap_validated : SwapValidated
  settings : AppSettings
  screen : Screen
  tx : ResponseData
  log : List Event
  stopped : Bool
deriving DecidableEq

/-- How the steps of a review display keys, by the setting that is stored. -/
def AppState.display_flags (s : AppState) : DisplayFlags := ⟨s.settings.pubkey_display_long⟩

/-- What the app relies on and does not contain. -/
structure Device where
  get_public_key : List UInt32 → Pubkey
  cx_hash_sha256 : List UInt8 → Hash
  /-- The byte number `i` after the end of `G_command.message`. -/
  byte_after_message : AppState → ℕ → UInt8

/-! ## Programs -/

/-- How a function ends that does not return: it throws a reply, or the app is over.
The latter is `os_sched_exit`, `os_lib_end`, or a fault. -/
inductive Exception
  | THROW (reply : ApduReply)
  | stop
deriving DecidableEq

abbrev App := Program Exception AppState

def THROW {α : Type} (reply : ApduReply) : App α := throw (.THROW reply)

/-- `if (c) { THROW(reply); }`. -/
def THROW_IF (c : Prop) [Decidable c] (reply : ApduReply) : App Unit := throw_if c (.THROW reply)

def log_event (event : Event) : App Unit :=
  modify fun s => { s with log := s.log ++ [event] }

/-- A value computed from the state. -/
def gets {α : Type} (f : AppState → α) : App α := do
  let s ← get
  return f s

/-- The value, if there is one: else the app is over. -/
def or_stop {α : Type} (value : Option α) : App α :=
  match value with
  | some value => pure value
  | none => throw .stop

/-- Run a printer on the summary; it ends the app when it sets an item that is `NULL`. -/
def run_printer {α : Type} (p : SummaryM α) : App (Option α) := do
  let s ← get
  let (result, summary) ← or_stop (p.exec s.G_transaction_summary)
  modify fun s => { s with G_transaction_summary := summary }
  return result

/-- `transaction_summary_reset()`, which also clears the two display buffers. -/
def reset_summary : App Unit :=
  modify fun s =>
    { s with
      G_transaction_summary := transaction_summary_reset
      G_transaction_summary_display := SummaryDisplay.reset }

/-! ## Responses -/

def ui_idle : App Unit := modify fun s => { s with screen := .idle }

/-- In swap mode, the response to a signing request is the last one. -/
def sendResponse (tx : ResponseData) (sw : ApduReply) (display_menu : Bool) : App Unit := do
  log_event (.response tx sw)
  let s ← get
  -- finalize_exchange_sign_transaction does not return
  throw_if (s.G_called_from_swap && s.G_swap_response_ready) .stop
  run_if display_menu ui_idle

/-- The signature of whatever `G_command` holds now. -/
def set_result_sign_message : App ResponseData :=
  gets fun s => .signature s.G_command.derivation_path s.G_command.payload

/-- `start_sign_tx_ui` and `start_sign_offchain_message_ui`: a flow that ends with the
approve and reject steps replaces whatever is on the screen. -/
def start_sign_ui : App Unit := do
  let s ← get
  log_event (.review s.G_command.derivation_path s.G_command.payload)
  modify fun s => { s with screen := .sign_review }

/-! ## The public key command -/

def set_result_get_pubkey : App ResponseData := gets fun s => .bytes s.G_publicKey.data

def ui_get_public_key : App Unit := modify fun s => { s with screen := .pubkey_review }

def handle_get_pubkey (device : Device) : App Unit := do
  let s ← get
  THROW_IF (s.G_command.instruction ≠ some .InsGetPubkey ∨
    s.G_command.state ≠ .ApduStatePayloadComplete) .ApduReplySdkInvalidParameter
  let pubkey := device.get_public_key s.G_command.derivation_path
  -- the return code of encode_base58 is ignored
  let (_, G_publicKeyStr) ←
    or_stop (encode_base58 pubkey.data s.G_publicKeyStr BASE58_PUBKEY_LENGTH)
  modify fun s => { s with G_publicKey := pubkey, G_publicKeyStr }
  if s.G_command.non_confirm then do
    let tx ← set_result_get_pubkey
    modify fun s => { s with tx }
    THROW .ApduReplySuccess
  else
    ui_get_public_key

end RenecLedger
