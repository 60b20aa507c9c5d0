/-
The review on the screen, and the command.

A review shows the command that `G_command` holds when it is put on the screen. The
approve button signs the command that `G_command` holds when it is pressed. The two are the
same while the state `Shows` what the command holds; no button takes that away. What the
APDUs between the review and the button do to it is the subject of `Approval`.
-/
import RenecLedger.HandlerSpec
import RenecLedger.Reassembly

set_option autoImplicit false

open MachineLib ProgramLib

namespace RenecLedger

/-! ## The review on the screen -/

def Event.reviewed : Event → Option (List UInt32 × List UInt8)
  | .review derivation_path message => some (derivation_path, message)
  | .response _ _ => none

/-- The path and the message of the last review that was put on the screen. -/
def last_review (log : List Event) : Option (List UInt32 × List UInt8) :=
  (log.filterMap Event.reviewed).getLast?

@[simp] theorem last_review_response (log : List Event) (tx : ResponseData) (sw : ApduReply) :
    last_review (log ++ [.response tx sw]) = last_review log := by
  have hnone : [Event.response tx sw].filterMap Event.reviewed = [] := rfl
  rw [last_review, List.filterMap_append, hnone, List.append_nil, last_review]

@[simp] theorem last_review_review (log : List Event) (derivation_path : List UInt32)
    (message : List UInt8) :
    last_review (log ++ [.review derivation_path message]) = some (derivation_path, message) := by
  have hsome : [Event.review derivation_path message].filterMap Event.reviewed =
      [(derivation_path, message)] := rfl
  rw [last_review, List.filterMap_append, hsome, List.getLast?_concat]

/-- The review on the screen is of what the command holds. -/
def AppState.Shows (s : AppState) : Prop :=
  s.screen = .sign_review → last_review s.log = some s.G_command.to_sign

/-! ## The buttons -/

theorem sendResponse_log (tx : ResponseData) (sw : ApduReply) (display_menu : Bool)
    (s : AppState) :
    ((sendResponse tx sw display_menu).run.run s).2.log = s.log ++ [.response tx sw] := by
  have hrest : Keeps AppState.log (do
      let s ← get
      throw_if (s.G_called_from_swap && s.G_swap_response_ready) .stop
      run_if display_menu ui_idle : App Unit) :=
    keeps_bind keeps_get fun _ => keeps_bind (keeps_throw_if _) fun _ =>
      keeps_run_if (keeps_modify fun _ => rfl)
  rw [sendResponse, log_event, modify_bind]
  exact hrest _

/-- The approve button signs what the command holds when a review to sign is on the screen. -/
theorem approve_log (s : AppState) :
    (approve.run.run s).2.log = match s.screen with
      | .idle => s.log
      | .sign_review => s.log ++ [.response (.signature s.G_command.derivation_path
          s.G_command.payload) .ApduReplySuccess]
      | .pubkey_review => s.log ++ [.response (.bytes s.G_publicKey.data) .ApduReplySuccess] := by
  rw [approve, get_bind]
  cases s.screen with
  | idle => rfl
  | sign_review => exact sendResponse_log _ _ _ s
  | pubkey_review => exact sendResponse_log _ _ _ s

theorem finish_log (r : Except Exception Unit × AppState) : (finish r).log = r.2.log := by
  rcases r with ⟨(reply | _) | u, t⟩ <;> rfl

/-- The review stays on the screen only when the app is over. -/
theorem sendResponse_screen (tx : ResponseData) (sw : ApduReply) (s : AppState) :
    ((sendResponse tx sw true).run.run s).2.screen = s.screen ∨
      ((sendResponse tx sw true).run.run s).2.screen = .idle := by
  rw [sendResponse, log_event, modify_bind, get_bind]
  by_cases hlast : (s.G_called_from_swap && s.G_swap_response_ready) = true
  · rw [bind_of_error (throw_if_pos hlast _ _)]
    exact Or.inl rfl
  · rw [bind_of_ok (throw_if_neg hlast _ _)]
    exact Or.inr rfl

/-- A button that sends a response leaves the command as it is, and the review with it, or
closes the review. -/
theorem response_shows {s : AppState} (hshows : s.Shows) (tx : ResponseData) (sw : ApduReply) :
    ((sendResponse tx sw true).run.run s).2.Shows := by
  have hcommand : Keeps AppState.G_command (sendResponse tx sw true) :=
    keeps_sendResponse (fun _ _ => rfl) (fun _ _ => rfl) _ _ _
  intro h
  rcases sendResponse_screen tx sw s with hscreen | hscreen
  · rw [sendResponse_log, last_review_response, hcommand s]
    exact hshows (hscreen.symm.trans h)
  · rw [hscreen] at h
    cases h

theorem approve_shows {s : AppState} (hshows : s.Shows) : (approve.run.run s).2.Shows := by
  rw [approve, get_bind]
  split
  · exact hshows
  · exact response_shows hshows _ _
  · exact response_shows hshows _ _

theorem reject_shows {s : AppState} (hshows : s.Shows) : (reject.run.run s).2.Shows := by
  rw [reject, get_bind]
  split
  · exact hshows
  · exact response_shows hshows _ _

theorem finish_shows {r : Except Exception Unit × AppState} (h : r.2.Shows) : (finish r).Shows := by
  rcases r with ⟨(reply | _) | u, t⟩ <;> exact h

/-! ## A command to sign -/

/-- A message to sign, in one chunk. -/
def sign_apdu_bytes (payload : List UInt8) (more : Bool) : List UInt8 :=
  chunk_apdu .InsSignMessage P1_CONFIRM (chunk_p2 false more)
    (1 :: (coin_path.encode ++ payload))

def sign_apdu (payload : List UInt8) (more : Bool) : Input :=
  .apdu (sign_apdu_bytes payload more)

/-- A transfer from the signer to an account. -/
def transfer_to (recipient : Pubkey) : List UInt8 :=
  (transfer_message 1 [Pubkey.fill 9, recipient, system_program_id]).encode

end RenecLedger
