/-
The main loop: `src/main.c`, and the buttons of `src/ui`.

An input is what reaches the app from outside: an APDU that `io_exchange` delivers, or
the user pressing a button. While a review is open, `io_exchange` may still deliver the
next APDU, and the review stays on the screen.
-/
import RenecLedger.Lib.Machine
import RenecLedger.SignMessage
import RenecLedger.SignOffchainMessage

set_option autoImplicit false

open ProgramLib

namespace RenecLedger

def MAJOR_VERSION : UInt8 := 0
def MINOR_VERSION : UInt8 := 1
def PATCH_VERSION : UInt8 := 0

/-- Read an APDU into `G_command`, which is cleared when there is an error. A command that
is not complete is answered at once. -/
def receive_apdu (apdu_message : List UInt8) : App Unit := do
  let s ← get
  match (apdu_handle_message apdu_message).run.run s.G_command with
  | (.error reply, _) => do
    modify fun s => { s with G_command := ApduCommand.cleared }
    THROW reply
  | (.ok _, G_command) => do
    modify fun s => { s with G_command }
    THROW_IF (G_command.state = .ApduStatePayloadInProgress) .ApduReplySuccess

def handle_get_app_configuration : App Unit := do
  let s ← get
  let tx : ResponseData := .bytes
    [s.settings.allow_blind_sign.toUInt8, (!s.settings.pubkey_display_long).toUInt8,
      MAJOR_VERSION, MINOR_VERSION, PATCH_VERSION]
  modify fun s => { s with tx }
  THROW .ApduReplySuccess

def handle_sign_message (device : Device) : App Unit := do
  let _ ← handle_sign_message_parse_message device
  handle_sign_message_ui

/-- The switch on the instruction of a complete command. -/
def dispatch_command (device : Device) : App Unit := do
  let s ← get
  match s.G_command.instruction with
  | some .InsGetAppConfiguration => handle_get_app_configuration
  | some .InsGetPubkey => handle_get_pubkey device
  | some .InsSignMessage => handle_sign_message device
  | some .InsSignOffchainMessage => handle_sign_offchain_message device
  | none => THROW .ApduReplyUnimplementedInstruction

def handleApdu (device : Device) (apdu_message : List UInt8) : App Unit := do
  receive_apdu apdu_message
  dispatch_command device

/-- `sw` of an exception `e`: a status word is sent as it is, and anything else is an internal
error. -/
def status_word (e : ℕ) : ℕ :=
  match e &&& 0xF000 with
  | 0x6000 => e
  | 0x9000 => e
  | _ => 0x6800 ||| (e &&& 0x7FF)

/-- Every reply of the app is a status word, so the switch changes none of them. -/
theorem status_word_code (reply : ApduReply) : status_word reply.code = reply.code := by
  cases reply <;> decide

/-- A reply that is thrown is sent in the next round, behind what has been put in the
buffer: its status word is its code (`status_word_code`). -/
def send_exception : Exception → App Unit
  | .THROW reply => do
    let s ← get
    log_event (.response s.tx reply)
  | .stop => throw .stop

/-- One round of the loop. -/
def app_main_round (device : Device) (apdu_message : List UInt8) : App Unit := do
  modify fun s => { s with tx := .bytes [] }
  tryCatch
    (do
      -- no apdu received
      THROW_IF (apdu_message.length = 0) .ApduReplyNoApduReceived
      handleApdu device apdu_message)
    send_exception

/-! ## The buttons -/

/-- The callback of the approve step of the review on the screen. -/
def approve : App Unit := do
  let s ← get
  match s.screen with
  | .idle => pure ()
  | .sign_review => do
    let tx ← set_result_sign_message
    sendResponse tx .ApduReplySuccess true
  | .pubkey_review => do
    let tx ← set_result_get_pubkey
    sendResponse tx .ApduReplySuccess true

/-- The callback of the reject step. -/
def reject : App Unit := do
  let s ← get
  match s.screen with
  | .idle => pure ()
  | _ => sendResponse (.bytes []) .ApduReplyUserRefusal true

/-! ## The machine -/

inductive Input
  | apdu (apdu_message : List UInt8)
  | approve
  | reject
deriving DecidableEq

/-- The code that an input runs. -/
def run_input (device : Device) : Input → App Unit
  | .apdu apdu_message => app_main_round device apdu_message
  | .approve => approve
  | .reject => reject

/-- The state after a program: an app that is over stays so. -/
def finish : Except Exception Unit × AppState → AppState
  | (.error .stop, s) => { s with stopped := true }
  | (_, s) => s

/-- An input is taken by running its code. A stopped app takes none. -/
def step (device : Device) (s : AppState) (input : Input) : Option AppState :=
  if s.stopped then none else some (finish ((run_input device input).run.run s))

/-- The app as `app_main` starts it: `reset_getpubkey_globals`, `reset_main_globals`. -/
def app_main_start (settings : AppSettings) (G_called_from_swap : Bool)
    (G_swap_validated : SwapValidated) : AppState where
  G_command := ApduCommand.cleared
  G_transaction_summary := transaction_summary_reset
  G_transaction_summary_display := SummaryDisplay.reset
  G_publicKey := Pubkey.zero
  G_publicKeyStr := List.replicate BASE58_PUBKEY_LENGTH 0
  G_called_from_swap
  G_swap_response_ready := false
  G_swap_validated
  settings
  screen := .idle
  tx := .bytes []
  log := []
  stopped := false

/-- Called from the dashboard. -/
def coin_main (settings : AppSettings) : AppState :=
  app_main_start settings false { initialized := false, amount := 0, recipient := [] }

/-- Called by the exchange app, with what the user has confirmed there. -/
def start_app_from_lib (settings : AppSettings) (G_swap_validated : SwapValidated) : AppState :=
  app_main_start settings true G_swap_validated

end RenecLedger
