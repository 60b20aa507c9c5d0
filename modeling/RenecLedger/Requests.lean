/-
A request to sign, from the host's chunks to the answer of the user.

When no review is open, the chunks of a request before the last one are answered without data, and
the last one opens the review of the message if it is `Signable`. It is then signed when the user
approves, and the user's refusal is all the host gets otherwise. Any other message is answered with
an error. Which of these happens does not depend on how the message was cut, nor on anything that
was sent before (`request_is_answered`).
-/
import RenecLedger.Reviewable

set_option autoImplicit false

open MachineLib ProgramLib

namespace RenecLedger

variable {device : Device}

/-! ## Errors -/

/-- The messages that are reviewed for the instruction. -/
def Signable (device : Device) (settings : AppSettings) (ins : InstructionCode)
    (path : List UInt32) (message : List UInt8) : Prop :=
  ins = .InsSignMessage ∧ IsTransaction device settings.allow_blind_sign path message ∨
    ins = .InsSignOffchainMessage ∧ IsOffchainMessage settings.allow_blind_sign message

/-- The message was refused with an error, and no review is open. -/
structure Refused (t : AppState) (log : List Event) : Prop where
  screen : t.screen = .idle
  log : ∃ reply, reply ≠ .ApduReplySuccess ∧ t.log = log ++ [.response (.bytes []) reply]

end RenecLedger
