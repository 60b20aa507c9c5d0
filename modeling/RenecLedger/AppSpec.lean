/-
What the parts of a handler leave alone, and the steps of the app.

`AppState.core` is the state apart from what the parts of a handler work on: the summary,
its display, the public key, and the hash in the command. Nothing else changes before a
handler answers or opens a review. `AppState.context` is the smaller view that whole
handlers and the buttons keep. The lemmas on `receive_apdu` and `step` take a round of
the loop apart.
-/
import RenecLedger.ApduSpec
import RenecLedger.Main

set_option autoImplicit false

open ReaderLib ProgramLib

namespace RenecLedger

/-- A command without the hash, which only blind signing and off-chain messages set.
Everything else in it comes from the APDUs. -/
def ApduCommand.without_hash (command : ApduCommand) : ApduCommand :=
  { command with message_hash := Hash.fill 0 }

/-- The state, without what is worked out for a review: without the summary and its
display, the key and its text, and the hash of the message. -/
structure AppCore where
  G_command : ApduCommand
  G_called_from_swap : Bool
  G_swap_response_ready : Bool
  G_swap_validated : SwapValidated
  settings : AppSettings
  screen : Screen
  tx : ResponseData
  log : List Event
  stopped : Bool

/-- What of a state no printer changes: everything but the summary and the hash of the
message. -/
def AppState.core (s : AppState) : AppCore :=
  { G_command := s.G_command.without_hash
    G_called_from_swap := s.G_called_from_swap
    G_swap_response_ready := s.G_swap_response_ready
    G_swap_validated := s.G_swap_validated
    settings := s.settings
    screen := s.screen
    tx := s.tx
    log := s.log
    stopped := s.stopped }

/-- What no handler changes: the command, the settings, and what the exchange app has
said. Handlers write to the log, the screen and the buffers only. -/
structure AppContext where
  G_command : ApduCommand
  G_called_from_swap : Bool
  G_swap_validated : SwapValidated
  settings : AppSettings

/-- What of the core no handler changes: the command, the settings and the swap's
parameters. -/
def AppCore.context (core : AppCore) : AppContext :=
  { G_command := core.G_command
    G_called_from_swap := core.G_called_from_swap
    G_swap_validated := core.G_swap_validated
    settings := core.settings }

/-- The context of a state. -/
def AppState.context (s : AppState) : AppContext := s.core.context

/-! ## The parts of a handler -/

section Parts

variable {τ α : Type} {f : AppState → τ}

/-- Throwing a status word keeps whatever is read. -/
theorem keeps_THROW (reply : ApduReply) : Keeps f (THROW reply : App α) := keeps_throw _

/-- So does a check. -/
theorem keeps_THROW_IF {c : Prop} [Decidable c] (reply : ApduReply) :
    Keeps f (THROW_IF c reply) := keeps_throw_if _

/-- So does reading a field. -/
theorem keeps_gets (g : AppState → α) : Keeps f (gets g) :=
  keeps_bind keeps_get fun _ => keeps_pure _

/-- A value that is there is passed on. Where it is missing the C code would dereference
a null pointer, and the app of the model stops. -/
theorem or_stop_bind {β : Type} {value : Option α} {a : α} (h : value = some a) (q : α → App β)
    (s : AppState) : (or_stop value >>= q).run.run s = (q a).run.run s := by
  rw [h]
  rfl

/-- A value that may be missing keeps whatever is read, also when the app stops for it. -/
theorem keeps_or_stop (value : Option α) : Keeps f (or_stop value) := by
  cases value with
  | none => exact keeps_throw _
  | some a => exact keeps_pure a

/-- A pure computation keeps whatever is read. -/
theorem keeps_of_except (r : Except Exception α) : Keeps f (of_except r : App α) := by
  cases r with
  | error e => exact keeps_throw e
  | ok a => exact keeps_pure a

end Parts

/-- A printer keeps what does not depend on the summary, which is all that it writes to. -/
theorem keeps_run_printer {α τ : Type} {f : AppState → τ} (p : SummaryM α)
    (h : ∀ s summary, f { s with G_transaction_summary := summary } = f s) :
    Keeps f (run_printer p) :=
  keeps_bind keeps_get fun _ => keeps_bind (keeps_or_stop _) fun _ =>
    keeps_bind (keeps_modify fun s => h s _) fun _ => keeps_pure _

/-- A printer that runs leaves its summary, and nothing else of the state is touched.
Its own return code is the value, for the caller to look at or to ignore. -/
theorem run_printer_eq_ok {α : Type} {p : SummaryM α} {s t : AppState} {r : Option α} :
    (run_printer p).run.run s = (.ok r, t) ↔
      ∃ summary, p.exec s.G_transaction_summary = some (r, summary) ∧
        t = { s with G_transaction_summary := summary } := by
  rw [run_printer, get_bind]
  cases hexec : p.exec s.G_transaction_summary with
  | none =>
    constructor
    · intro h
      cases h
    · rintro ⟨summary, h, -⟩
      cases h
  | some result =>
    obtain ⟨r', summary⟩ := result
    constructor
    · intro h
      cases h
      exact ⟨summary, rfl, rfl⟩
    · rintro ⟨summary', h, rfl⟩
      cases h
      rfl

section Responses

variable {τ : Type} {f : AppState → τ} (hlog : ∀ s log, f { s with log := log } = f s)
  (hscreen : ∀ s screen, f { s with screen := screen } = f s)
include hlog hscreen

/-- Sending a response writes to the log and may close the screen, nothing else. After
the answer of a swap it ends the app by an exception, and what was written stays. -/
theorem keeps_sendResponse (tx : ResponseData) (sw : ApduReply) (display_menu : Bool) :
    Keeps f (sendResponse tx sw display_menu) :=
  keeps_bind (keeps_modify fun s => hlog s _) fun _ => keeps_bind keeps_get fun _ =>
    keeps_bind (keeps_throw_if _) fun _ => keeps_run_if (keeps_modify fun s => hscreen s _)

/-- Opening a review notes it in the log and sets the screen, nothing else. -/
theorem keeps_start_sign_ui : Keeps f start_sign_ui :=
  keeps_bind keeps_get fun _ => keeps_bind (keeps_modify fun s => hlog s _) fun _ =>
    keeps_modify fun s => hscreen s _

/-- Approving keeps what sending a response does. -/
theorem keeps_approve : Keeps f approve := by
  refine keeps_bind keeps_get fun s => ?_
  split
  · exact keeps_pure _
  · exact keeps_bind (keeps_gets _) fun _ => keeps_sendResponse hlog hscreen _ _ _
  · exact keeps_bind (keeps_gets _) fun _ => keeps_sendResponse hlog hscreen _ _ _

/-- Rejecting keeps what sending a response does. -/
theorem keeps_reject : Keeps f reject := by
  refine keeps_bind keeps_get fun s => ?_
  split
  · exact keeps_pure _
  · exact keeps_sendResponse hlog hscreen _ _ _

end Responses

/-! ## The parts that only work out a review -/

variable (device : Device)

section Summarize

variable {τ : Type} {f : AppState → τ}
  (hsummary : ∀ s summary, f { s with G_transaction_summary := summary } = f s)
  (hhash : ∀ (s : AppState) message_hash,
    f { s with G_command := { s.G_command with message_hash := message_hash } } = f s)
include hsummary hhash

/-- A summary touches nothing but itself and the hash of the command. -/
theorem keeps_blind_sign : Keeps f (blind_sign device) := by
  refine keeps_bind keeps_get fun s => keeps_bind (keeps_THROW_IF _) fun _ => ?_
  refine keeps_bind (keeps_run_printer _ hsummary) fun _ => ?_
  refine keeps_bind (keeps_modify fun s => hhash s _) fun _ => ?_
  exact keeps_bind (keeps_run_printer _ hsummary) fun _ => keeps_pure _

/-- Summarizing a message keeps what depends neither on the summary nor on the hash. -/
theorem keeps_summarize_message (parser : Parser) (print_config : PrintConfig) :
    Keeps f (summarize_message device parser print_config) := by
  refine keeps_bind (keeps_run_printer _ hsummary) fun processed => ?_
  cases processed with
  | none => exact keeps_blind_sign device hsummary hhash
  | some u => exact keeps_pure _

end Summarize

/-- The fee payer is an item of the summary. -/
theorem keeps_add_fee_payer {τ : Type} {f : AppState → τ}
    (hsummary : ∀ s summary, f { s with G_transaction_summary := summary } = f s)
    (print_config : PrintConfig) (fee_payer : PubkeyRef) :
    Keeps f (add_fee_payer print_config fee_payer) :=
  keeps_run_if (keeps_modify fun s => hsummary s _)

/-- Parsing a message changes nothing of the core: what it works out goes into the
summary and the hash. It may throw in the middle, and what was worked out until then
stays. -/
theorem keeps_handle_sign_message_parse_message :
    Keeps AppState.core (handle_sign_message_parse_message device) := by
  refine keeps_bind keeps_get fun s => keeps_bind (keeps_THROW_IF _) fun _ => ?_
  refine keeps_bind (keeps_of_except _) fun _ => keeps_bind (keeps_of_except _) fun _ => ?_
  refine keeps_bind (keeps_THROW_IF _) fun _ => keeps_bind (keeps_modify fun _ => rfl) fun _ => ?_
  refine keeps_bind (keeps_summarize_message device (fun _ _ => rfl) (fun _ _ => rfl) _ _)
    fun _ => ?_
  exact keeps_bind (keeps_add_fee_payer (fun _ _ => rfl) _ _) fun _ => keeps_pure _

/-- The checks of a swap change nothing of the core. -/
theorem keeps_check_swap_validity (kinds : List SummaryItemKind) :
    Keeps AppState.core (check_swap_validity kinds) := by
  refine keeps_ite (keeps_pure _) (keeps_bind keeps_get fun _ => ?_)
  exact keeps_bind (keeps_or_stop _) fun _ => keeps_bind (keeps_modify fun _ => rfl) fun _ =>
    keeps_pure _

/-- The two checks of a swap: they say no, they say what the items say, or an item
cannot be printed and the app is over. Nothing but the display changes, and the message
itself is not looked at. -/
theorem check_swap_validity_run (kinds : List SummaryItemKind) (s : AppState) :
    (check_swap_validity kinds).run.run s =
      if kinds.length ≠ 2 then (.ok false, s)
      else
        match check_swap_items s.G_swap_validated s.G_transaction_summary kinds 0 (false, false)
          s.G_transaction_summary_display with
        | none => (.error .stop, s)
        | some (valid, display) =>
          (.ok valid, { s with G_transaction_summary_display := display }) := by
  rw [check_swap_validity]
  split
  · rfl
  · rw [get_bind]
    split
    · rename_i hnone
      rw [hnone]
      rfl
    · rename_i valid display hsome
      rw [hsome]
      rfl

/-! ## The handlers -/

/-- The configuration's handler changes no context. -/
theorem keeps_handle_get_app_configuration :
    Keeps AppState.context handle_get_app_configuration :=
  keeps_bind keeps_get fun _ => keeps_bind (keeps_modify fun _ => rfl) fun _ => keeps_THROW _

/-- The key's handler changes no context. -/
theorem keeps_handle_get_pubkey : Keeps AppState.context (handle_get_pubkey device) := by
  refine keeps_bind keeps_get fun s => keeps_bind (keeps_THROW_IF _) fun _ => ?_
  refine keeps_bind (keeps_or_stop _) fun _ => keeps_bind (keeps_modify fun _ => rfl) fun _ => ?_
  refine keeps_ite ?_ (keeps_modify fun _ => rfl)
  exact keeps_bind (keeps_gets _) fun _ => keeps_bind (keeps_modify fun _ => rfl) fun _ =>
    keeps_THROW _

/-- The swap's response changes no context. -/
theorem keeps_respond_to_swap (kinds : List SummaryItemKind) :
    Keeps AppState.context (respond_to_swap kinds) := by
  refine keeps_bind keeps_get fun _ => keeps_bind (keeps_throw_if _) fun _ => ?_
  refine keeps_bind (keeps_modify fun _ => rfl) fun _ => ?_
  refine keeps_bind ((keeps_check_swap_validity kinds).comp AppCore.context) fun _ => ?_
  refine keeps_ite (keeps_bind (keeps_gets _) fun _ => ?_) ?_
  · exact keeps_sendResponse (fun _ _ => rfl) (fun _ _ => rfl) _ _ _
  · exact keeps_sendResponse (fun _ _ => rfl) (fun _ _ => rfl) _ _ _

/-- Showing a message changes no context. -/
theorem keeps_handle_sign_message_ui : Keeps AppState.context handle_sign_message_ui := by
  refine keeps_bind keeps_get fun s => ?_
  split
  · exact keeps_THROW _
  · exact keeps_ite (keeps_respond_to_swap _)
      (keeps_start_sign_ui (fun _ _ => rfl) (fun _ _ => rfl))

/-- The message's handler changes no context. -/
theorem keeps_handle_sign_message : Keeps AppState.context (handle_sign_message device) :=
  keeps_bind ((keeps_handle_sign_message_parse_message device).comp AppCore.context) fun _ =>
    keeps_handle_sign_message_ui

/-- The off-chain handler changes no context. -/
theorem keeps_handle_sign_offchain_message :
    Keeps AppState.context (handle_sign_offchain_message device) := by
  refine keeps_bind keeps_get fun s => keeps_bind (keeps_THROW_IF _) fun _ => ?_
  refine keeps_bind (keeps_THROW_IF _) fun _ => keeps_bind (keeps_of_except _) fun _ => ?_
  refine keeps_bind (keeps_of_except _) fun _ => ?_
  refine keeps_bind (keeps_run_if (keeps_modify fun _ => rfl)) fun _ => ?_
  refine keeps_bind (keeps_modify fun _ => rfl) fun _ => keeps_bind (keeps_gets _) fun _ => ?_
  refine keeps_bind (keeps_run_printer _ fun _ _ => rfl) fun _ => keeps_bind keeps_get fun _ => ?_
  split
  · exact keeps_THROW _
  · exact keeps_start_sign_ui (fun _ _ => rfl) (fun _ _ => rfl)

/-- **No handler changes the context**, so after an APDU the command is what its chunks
have made of it, whichever handler it went to and however that ended. -/
theorem keeps_dispatch_command : Keeps AppState.context (dispatch_command device) := by
  refine keeps_bind keeps_get fun s => ?_
  split
  · exact keeps_handle_get_app_configuration
  · exact keeps_handle_get_pubkey device
  · exact keeps_handle_sign_message device
  · exact keeps_handle_sign_offchain_message device
  · exact keeps_THROW _

/-! ## Receiving an APDU -/

section Receive

variable {m : List UInt8} {s : AppState} {c : ApduCommand}

/-- A chunk that is refused clears the command, also one that was complete and under
review. -/
theorem receive_apdu_error {reply : ApduReply}
    (h : (apdu_handle_message m).run.run s.G_command = (.error reply, c)) :
    (receive_apdu m).run.run s =
      (.error (.THROW reply), { s with G_command := ApduCommand.cleared }) := by
  rw [receive_apdu, get_bind, h]
  rfl

/-- More chunks are expected: the command is kept, and the APDU is answered at once with
`0x9000` and no data. The screen stays as it is. -/
theorem receive_apdu_in_progress {u : Unit}
    (h : (apdu_handle_message m).run.run s.G_command = (.ok u, c))
    (hstate : c.state = .ApduStatePayloadInProgress) :
    (receive_apdu m).run.run s =
      (.error (.THROW .ApduReplySuccess), { s with G_command := c }) := by
  rw [receive_apdu, get_bind, h]
  change (modify _ >>= _ : App Unit).run.run s = _
  rw [modify_bind]
  exact throw_if_pos hstate _ _

/-- A command that is complete goes on to its handler. -/
theorem receive_apdu_complete {u : Unit}
    (h : (apdu_handle_message m).run.run s.G_command = (.ok u, c))
    (hstate : c.state ≠ .ApduStatePayloadInProgress) :
    (receive_apdu m).run.run s = (.ok (), { s with G_command := c }) := by
  rw [receive_apdu, get_bind, h]
  change (modify _ >>= _ : App Unit).run.run s = _
  rw [modify_bind]
  exact throw_if_neg hstate _ _

/-- An APDU gets to the switch on the instruction when it completes a command. In every
other case `receive_apdu` throws, and the round ends with the status word. -/
theorem receive_apdu_eq_ok {t : AppState} {u : Unit} :
    (receive_apdu m).run.run s = (.ok u, t) ↔
      ∃ c, (apdu_handle_message m).run.run s.G_command = (.ok (), c) ∧
        c.state ≠ .ApduStatePayloadInProgress ∧ t = { s with G_command := c } := by
  constructor
  · intro h
    rcases hrun : (apdu_handle_message m).run.run s.G_command with ⟨reply | v, c⟩
    · rw [receive_apdu_error hrun] at h
      cases h
    · by_cases hstate : c.state = .ApduStatePayloadInProgress
      · rw [receive_apdu_in_progress hrun hstate] at h
        cases h
      · rw [receive_apdu_complete hrun hstate] at h
        cases h
        exact ⟨c, rfl, hstate, rfl⟩
  · rintro ⟨c, hrun, hstate, rfl⟩
    exact receive_apdu_complete hrun hstate

end Receive

/-! ## Steps -/

/-- The state that `handleApdu` starts from: `app_main` resets `tx` at the beginning of
each round. -/
def AppState.begin_round (s : AppState) : AppState := { s with tx := .bytes [] }

/-- The state after `handleApdu`: a reply that was thrown is sent with what is in `tx`,
and an app that is over stays so. -/
def end_round : Except Exception Unit × AppState → AppState
  | (.ok _, t) => t
  | (.error (.THROW reply), t) => { t with log := t.log ++ [.response t.tx reply] }
  | (.error .stop, t) => { t with stopped := true }

variable {device}

/-- A step is a round of the app that has not stopped. -/
theorem step_eq_some {s t : AppState} {input : Input} :
    step device s input = some t ↔
      s.stopped = false ∧ t = finish ((run_input device input).run.run s) := by
  rw [step]
  cases hstopped : s.stopped with
  | true => simp
  | false => simp [eq_comm]

/-- The end of a round leaves the command. -/
theorem finish_G_command (r : Except Exception Unit × AppState) :
    (finish r).G_command = r.2.G_command := by
  rcases r with ⟨(reply | _) | u, t⟩ <;> rfl

/-- So does the status word that ends it. -/
theorem end_round_G_command (r : Except Exception Unit × AppState) :
    (end_round r).G_command = r.2.G_command := by
  rcases r with ⟨(reply | _) | u, t⟩ <;> rfl

/-- What catches an exception of a round. Together with `step_apdu` it turns a step of
the app into a run of its handler and the status word after it. -/
theorem app_main_round_run {p : App Unit} {s : AppState} :
    finish ((tryCatch p send_exception).run.run s) = end_round (p.run.run s) := by
  rcases h : p.run.run s with ⟨e | u, t⟩
  · rw [tryCatch_of_error h]
    cases e with
    | THROW reply => rfl
    | stop => rfl
  · rw [tryCatch_of_ok h]
    rfl

/-- One APDU: a round of the loop. An empty one does not get to `handleApdu`, and is
`step_no_apdu`. -/
theorem step_apdu {s t : AppState} {m : List UInt8} (hm : m ≠ [])
    (h : step device s (.apdu m) = some t) :
    t = end_round ((handleApdu device m).run.run s.begin_round) := by
  have hlen : ¬m.length = 0 := List.length_eq_zero_iff.not.mpr hm
  have hbody : (do
      THROW_IF (m.length = 0) .ApduReplyNoApduReceived
      handleApdu device m : App Unit).run.run s.begin_round =
        (handleApdu device m).run.run s.begin_round :=
    bind_of_ok (throw_if_neg hlen _ _)
  obtain ⟨-, rfl⟩ := step_eq_some.mp h
  rw [run_input, app_main_round, modify_bind, app_main_round_run]
  exact congrArg end_round hbody

/-- No APDU was received: that is all that is said. -/
theorem step_no_apdu {s t : AppState} (h : step device s (.apdu []) = some t) :
    t = { s.begin_round with
      log := s.log ++ [.response (.bytes []) .ApduReplyNoApduReceived] } := by
  obtain ⟨-, rfl⟩ := step_eq_some.mp h
  rfl

/-! ## What no input changes -/

/-- What the user and the exchange app have set: it is there when the app starts, and
the APDUs and the buttons cannot change it. -/
def AppState.given (s : AppState) : AppSettings × Bool × SwapValidated :=
  (s.settings, s.G_called_from_swap, s.G_swap_validated)

/-- Receiving an APDU writes to the command alone. -/
theorem keeps_given_receive_apdu (m : List UInt8) : Keeps AppState.given (receive_apdu m) := by
  refine keeps_bind keeps_get fun s => ?_
  split
  · exact keeps_bind (keeps_modify fun _ => rfl) fun _ => keeps_THROW _
  · exact keeps_bind (keeps_modify fun _ => rfl) fun _ => keeps_THROW_IF _

/-- Nor does any handler write to what is given, which is part of the context. -/
theorem keeps_given_handleApdu (m : List UInt8) : Keeps AppState.given (handleApdu device m) :=
  keeps_bind (keeps_given_receive_apdu m) fun _ => (keeps_dispatch_command device).comp
    fun context => (context.settings, context.G_called_from_swap, context.G_swap_validated)

/-- The end of a round leaves what the app was given at its start. -/
theorem finish_given (r : Except Exception Unit × AppState) : (finish r).given = r.2.given := by
  rcases r with ⟨(reply | _) | u, t⟩ <;> rfl

/-- So does the status word that ends it. -/
theorem end_round_given (r : Except Exception Unit × AppState) :
    (end_round r).given = r.2.given := by
  rcases r with ⟨(reply | _) | u, t⟩ <;> rfl

/-- **No input changes** what the app was given: not the settings, nor what the exchange app
has said. -/
theorem step_given {s t : AppState} {i : Input} (hstep : step device s i = some t) :
    t.given = s.given := by
  cases i with
  | approve =>
    obtain ⟨-, rfl⟩ := step_eq_some.mp hstep
    exact (finish_given _).trans (keeps_approve (fun _ _ => rfl) (fun _ _ => rfl) s)
  | reject =>
    obtain ⟨-, rfl⟩ := step_eq_some.mp hstep
    exact (finish_given _).trans (keeps_reject (fun _ _ => rfl) (fun _ _ => rfl) s)
  | apdu m =>
    by_cases hm : m = []
    · subst hm
      obtain rfl := step_no_apdu hstep
      rfl
    · obtain rfl := step_apdu hm hstep
      exact (end_round_given _).trans (keeps_given_handleApdu m s.begin_round)

end RenecLedger
