/-
How the handlers end.

A handler that returns has put up a review, one that throws leaves its answer to the
main loop, and one that ends the app has met a fault or has answered the exchange app.
`Answers` says so of all of them (`answers_dispatch_command`), and what each ending does
to the screen, the log and the response. The answer to the exchange app has a rule of its
own (`respond_to_swap_run`).
-/
import RenecLedger.SignerSpec

set_option autoImplicit false

open ProgramLib

namespace RenecLedger

/-- What is signed when the command is approved: a path and a message. -/
def ApduCommand.to_sign (command : ApduCommand) : List UInt32 × List UInt8 :=
  (command.derivation_path, command.payload)

theorem context_to_sign {s t : AppState} (h : t.context = s.context) :
    t.G_command.to_sign = s.G_command.to_sign :=
  congrArg (fun context => context.G_command.to_sign) h

/-! ## How a handler ends -/

/-- A handler that returns has put a review on the screen, of a public key or of what the
command holds. One that throws a reply has done nothing to see, and the response data are
bytes if they are not what they were. One that ends the app has sent nothing, unless it
has answered the exchange app. -/
def Answers (s : AppState) : Except Exception Unit → AppState → Prop
  | .ok _, t => t.screen = .pubkey_review ∧ t.log = s.log ∨
      t.screen = .sign_review ∧
        t.log = s.log ++ [.review t.G_command.derivation_path t.G_command.payload]
  | .error (.THROW _), t => t.screen = s.screen ∧ t.log = s.log ∧
      (t.tx = s.tx ∨ ∃ data, t.tx = .bytes data)
  | .error .stop, t => t.log = s.log ∨
      s.G_called_from_swap = true ∧ s.G_command.instruction = some .InsSignMessage

theorem Answers.of_core {s t : AppState} (h : t.core = s.core) {r : Except Exception Unit}
    {u : AppState} (hanswers : Answers t r u) : Answers s r u := by
  have hlog : t.log = s.log := congrArg AppCore.log h
  match r with
  | .ok _ =>
    rw [Answers, hlog] at hanswers
    exact hanswers
  | .error (.THROW _) =>
    have hscreen : t.screen = s.screen := congrArg AppCore.screen h
    have htx : t.tx = s.tx := congrArg AppCore.tx h
    rw [Answers, hscreen, hlog, htx] at hanswers
    exact hanswers
  | .error .stop =>
    have hcalled : t.G_called_from_swap = s.G_called_from_swap :=
      congrArg AppCore.G_called_from_swap h
    have hinstruction : t.G_command.instruction = s.G_command.instruction :=
      congrArg (fun core => core.G_command.instruction) h
    rw [Answers, hlog, hcalled, hinstruction] at hanswers
    exact hanswers

theorem Answers.error {s t : AppState} (h : t.core = s.core) (e : Exception) :
    Answers s (.error e) t := by
  cases e with
  | THROW reply =>
    exact ⟨congrArg AppCore.screen h, congrArg AppCore.log h, Or.inl (congrArg AppCore.tx h)⟩
  | stop => exact Or.inl (congrArg AppCore.log h)

/-- A first part that keeps the core, and then a handler. -/
theorem answers_bind {α : Type} {p : App α} {q : α → App Unit} {s : AppState}
    (hp : Keeps AppState.core p) (hq : ∀ a t, t.core = s.core → Ensures (q a) t (Answers t)) :
    Ensures (p >>= q) s (Answers s) :=
  ensures_keeps_bind hp (fun e _ h => Answers.error h e) fun a t _ h => (hq a t h).of_core h

theorem answers_THROW (reply : ApduReply) (s : AppState) :
    Ensures (THROW reply) s (Answers s) := ⟨rfl, rfl, Or.inl rfl⟩

theorem answers_start_sign_ui (s : AppState) : Ensures start_sign_ui s (Answers s) :=
  Or.inr ⟨rfl, rfl⟩

/-- In swap mode the app is over after its response. -/
theorem sendResponse_swap {s : AppState} (hcalled : s.G_called_from_swap = true)
    (hready : s.G_swap_response_ready = true) (tx : ResponseData) (sw : ApduReply)
    (display_menu : Bool) :
    (sendResponse tx sw display_menu).run.run s =
      (.error .stop, { s with log := s.log ++ [.response tx sw] }) := by
  rw [sendResponse, log_event, modify_bind, get_bind]
  exact bind_of_error (throw_if_pos (by rw [hcalled, hready]; rfl) _ _)

/-- The response to the exchange app is the last thing the app does, and it is a signature
only when the two checks have passed. -/
theorem respond_to_swap_run {s : AppState} (hcalled : s.G_called_from_swap = true)
    (kinds : List SummaryItemKind) :
    ∃ u, (respond_to_swap kinds).run.run s = (.error .stop, u) ∧
      (u.log = s.log ∨
        u.log = s.log ++ [.response (.bytes []) .ApduReplyRenecSummaryFinalizeFailed] ∨
        s.G_swap_response_ready = false ∧
          (∃ t, (check_swap_validity kinds).run.run { s with G_swap_response_ready := true } =
            (.ok true, t)) ∧
          u.log = s.log ++ [.response (.signature s.G_command.derivation_path
            s.G_command.payload) .ApduReplySuccess]) := by
  rw [respond_to_swap, get_bind]
  cases hready : s.G_swap_response_ready with
  | true => exact ⟨s, bind_of_error (throw_if_pos rfl _ _), Or.inl rfl⟩
  | false =>
    rw [bind_of_ok (throw_if_neg nofun _ _), modify_bind]
    have hkeep := keeps_check_swap_validity kinds { s with G_swap_response_ready := true }
    rcases hvalid : (check_swap_validity kinds).run.run
      { s with G_swap_response_ready := true } with ⟨e | valid, t⟩
    · -- only the end of the app
      rw [hvalid] at hkeep
      have he : e = .stop := by
        rw [check_swap_validity_run] at hvalid
        split at hvalid
        · cases hvalid
        · split at hvalid <;> cases hvalid
          rfl
      rw [bind_of_error hvalid, he]
      exact ⟨t, rfl, Or.inl (congrArg AppCore.log hkeep)⟩
    · rw [hvalid] at hkeep
      have hcalled' : t.G_called_from_swap = true :=
        (congrArg AppCore.G_called_from_swap hkeep).trans hcalled
      have hready' : t.G_swap_response_ready = true := congrArg AppCore.G_swap_response_ready hkeep
      have hlog : t.log = s.log := congrArg AppCore.log hkeep
      rw [bind_of_ok hvalid]
      cases valid with
      | false =>
        refine ⟨_, sendResponse_swap hcalled' hready' _ _ _, Or.inr (Or.inl ?_)⟩
        rw [hlog]
      | true =>
        have hsign : (t.G_command.derivation_path, t.G_command.payload) =
            (s.G_command.derivation_path, s.G_command.payload) :=
          congrArg (fun core => core.G_command.to_sign) hkeep
        rw [Prod.mk.injEq] at hsign
        refine ⟨_, sendResponse_swap hcalled' hready' _ _ _, Or.inr (Or.inr ⟨rfl, ⟨t, rfl⟩, ?_⟩)⟩
        change t.log ++ [.response (.signature t.G_command.derivation_path
          t.G_command.payload) .ApduReplySuccess] = _
        rw [hlog, hsign.1, hsign.2]

theorem answers_handle_sign_message_ui {s : AppState}
    (h : s.G_command.instruction = some .InsSignMessage) :
    Ensures handle_sign_message_ui s (Answers s) := by
  refine ensures_get_bind ?_
  split
  · exact answers_THROW _ s
  · rename_i kinds hfinal
    split
    · rename_i hcalled
      obtain ⟨u, hrun, -⟩ := respond_to_swap_run hcalled kinds
      rw [Ensures, hrun]
      exact Or.inr ⟨hcalled, h⟩
    · exact answers_start_sign_ui s

variable (device : Device)

theorem answers_handle_sign_message {s : AppState}
    (h : s.G_command.instruction = some .InsSignMessage) :
    Ensures (handle_sign_message device) s (Answers s) := by
  refine answers_bind (keeps_handle_sign_message_parse_message device) fun _ t hcore => ?_
  have hinstruction : t.G_command.instruction = s.G_command.instruction :=
    congrArg (fun core => core.G_command.instruction) hcore
  exact answers_handle_sign_message_ui (hinstruction.trans h)

theorem answers_handle_sign_offchain_message (s : AppState) :
    Ensures (handle_sign_offchain_message device) s (Answers s) := by
  refine answers_bind keeps_get fun _ t _ => ?_
  refine answers_bind (keeps_THROW_IF _) fun _ t _ => ?_
  refine answers_bind (keeps_THROW_IF _) fun _ t _ => ?_
  refine answers_bind (keeps_of_except _) fun _ t _ => ?_
  refine answers_bind (keeps_of_except _) fun _ t _ => ?_
  refine answers_bind (keeps_run_if (keeps_modify fun _ => rfl)) fun _ t _ => ?_
  refine answers_bind (keeps_modify fun _ => rfl) fun _ t _ => ?_
  refine answers_bind (keeps_gets _) fun _ t _ => ?_
  refine answers_bind (keeps_run_printer _ fun _ _ => rfl) fun _ t _ => ?_
  refine answers_bind keeps_get fun _ t _ => ?_
  split
  · exact answers_THROW _ t
  · exact answers_start_sign_ui t

theorem answers_handle_get_pubkey (s : AppState) :
    Ensures (handle_get_pubkey device) s (Answers s) := by
  refine answers_bind keeps_get fun _ t _ => ?_
  refine answers_bind (keeps_THROW_IF _) fun _ t _ => ?_
  refine answers_bind (keeps_or_stop _) fun _ t _ => ?_
  refine answers_bind (keeps_modify fun _ => rfl) fun _ t _ => ?_
  split
  · exact ⟨rfl, rfl, Or.inr ⟨_, rfl⟩⟩
  · exact Or.inl ⟨rfl, rfl⟩

/-- **Every handler** ends in one of these ways. -/
theorem answers_dispatch_command (s : AppState) :
    Ensures (dispatch_command device) s (Answers s) := by
  refine ensures_get_bind ?_
  split
  · exact ⟨rfl, rfl, Or.inr ⟨_, rfl⟩⟩
  · exact answers_handle_get_pubkey device s
  · rename_i hinstruction
    exact answers_handle_sign_message device hinstruction
  · exact answers_handle_sign_offchain_message device s
  · exact answers_THROW _ s

/-! ## Handling an APDU -/

/-- The command after an APDU has been received. -/
def command_after (m : List UInt8) (command : ApduCommand) : ApduCommand :=
  match (apdu_handle_message m).run.run command with
  | (.error _, _) => ApduCommand.cleared
  | (.ok _, command') => command'

/-- The state with a command that has been received. -/
def AppState.with_command (s : AppState) (command : ApduCommand) : AppState :=
  { s with G_command := command }

/-- An APDU is answered at once, or it completes a command, which is dispatched. -/
theorem handleApdu_cases (m : List UInt8) (s : AppState) :
    (∃ reply, (handleApdu device m).run.run s =
      (.error (.THROW reply), s.with_command (command_after m s.G_command))) ∨
    (handleApdu device m).run.run s =
      (dispatch_command device).run.run (s.with_command (command_after m s.G_command)) := by
  rcases hrun : (apdu_handle_message m).run.run s.G_command with ⟨reply | u, c⟩
  · rw [command_after, hrun]
    exact Or.inl ⟨reply, bind_of_error (receive_apdu_error hrun)⟩
  · rw [command_after, hrun]
    by_cases hstate : c.state = .ApduStatePayloadInProgress
    · exact Or.inl ⟨_, bind_of_error (receive_apdu_in_progress hrun hstate)⟩
    · exact Or.inr (bind_of_ok (receive_apdu_complete hrun hstate))

/-- An APDU ends as its handler does. Whatever that is, the command is the one that was
received. -/
theorem answers_handleApdu (m : List UInt8) (s : AppState) :
    Ensures (handleApdu device m) s fun r t =>
      Answers (s.with_command (command_after m s.G_command)) r t ∧
        t.G_command.to_sign = (command_after m s.G_command).to_sign := by
  rw [Ensures]
  rcases handleApdu_cases device m s with ⟨reply, hrun⟩ | hrun
  · rw [hrun]
    exact ⟨⟨rfl, rfl, Or.inl rfl⟩, rfl⟩
  · rw [hrun]
    exact ⟨answers_dispatch_command device _, context_to_sign (keeps_dispatch_command device _)⟩

end RenecLedger
