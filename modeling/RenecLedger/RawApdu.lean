/-
Receiving commands, on buffers.

This is the code of `apdu_handle_message` once more, as it works on memory: the buffer of the
APDU with a pointer into it and a length beside it, and `G_command` with its two arrays and
their lengths. Every access is checked, and so is every subtraction of a length: what C does
not define, or does with a length that has wrapped, is a `fault`.
-/
import RenecLedger.Apdu

set_option autoImplicit false

open ProgramLib

namespace RenecLedger.Raw

/-- How a function ends that does not return 0: with an error code, or with an access outside
of a buffer or a length below zero. -/
inductive Failure
  | reply (reply : ApduReply)
  | fault
deriving DecidableEq

/-- `G_command`. Nothing is known of its fields but their types; the two arrays are lists. -/
structure ApduCommand where
  state : ApduState
  instruction : Option InstructionCode
  num_derivation_paths : UInt8
  derivation_path : List UInt32
  derivation_path_length : UInt32
  non_confirm : Bool
  message : List UInt8
  message_length : ℤ
  message_hash : Hash
deriving DecidableEq

/-- `explicit_bzero(apdu_command, sizeof(ApduCommand))`. -/
def ApduCommand.zeroed : ApduCommand where
  state := .ApduStateUninitialized
  instruction := none
  num_derivation_paths := 0
  derivation_path := List.replicate MAX_BIP32_PATH_LENGTH 0
  derivation_path_length := 0
  non_confirm := false
  message := List.replicate MAX_MESSAGE_LENGTH 0
  message_length := 0
  message_hash := Hash.fill 0

abbrev ApduM := Program Failure ApduCommand

/-! ## Checked accesses -/

/-- The value, if there is one. -/
def checked {α : Type} (value : Option α) : ApduM α :=
  match value with
  | some a => pure a
  | none => throw .fault

/-- `a - b` of two lengths. -/
def sub_length (a b : ℕ) : Option ℕ := if b ≤ a then some (a - b) else none

/-- `array[i] = a`. -/
def store {α : Type} (array : List α) (i : ℕ) (a : α) : Option (List α) :=
  if i < array.length then some (array.set i a) else none

/-- `n` elements from a position on. -/
def load {α : Type} (array : List α) (i n : ℕ) : Option (List α) :=
  if i + n ≤ array.length then some ((array.drop i).take n) else none

/-- `memcpy(array + i, bytes, …)`. -/
def copy {α : Type} (array : List α) (i : ℤ) (bytes : List α) : Option (List α) :=
  if 0 ≤ i ∧ i.toNat + bytes.length ≤ array.length then
    some (array.take i.toNat ++ bytes ++ array.drop (i.toNat + bytes.length))
  else none

/-- Return an error code when the condition holds. -/
def return_if (c : Prop) [Decidable c] (reply : ApduReply) : ApduM Unit := throw_if c (.reply reply)

/-! ## Handling a message -/

/-- The header that is parsed; `data` is a position in the APDU, or `NULL`. -/
structure ApduHeader where
  instruction : InstructionCode
  p1 : UInt8
  p2 : UInt8
  data : Option ℕ
  data_length : ℕ
deriving DecidableEq

def ApduHeader.non_confirm (header : ApduHeader) : Bool := header.p1 = P1_NON_CONFIRM

def ApduHeader.first_data_chunk (header : ApduHeader) : Bool := header.p2 &&& P2_EXTEND = 0

def ApduHeader.more (header : ApduHeader) : Bool := header.p2 &&& P2_MORE ≠ 0

/-- Parse the header. -/
def parse_apdu_header (apdu_message : List UInt8) : ApduM ApduHeader := do
  -- must at least hold the class and instruction
  return_if (apdu_message.length ≤ OFFSET_INS) .ApduReplyRenecInvalidMessageSize
  let apdu_class ← checked apdu_message[OFFSET_CLA]?
  return_if (apdu_class ≠ CLA) .ApduReplyRenecInvalidMessageHeader
  let instruction ← checked apdu_message[OFFSET_INS]?
  match InstructionCode.ofByte instruction with
  | none => throw (.reply .ApduReplyUnimplementedInstruction)
  | some instruction => do
    -- must at least hold a full modern header
    return_if (apdu_message.length < OFFSET_CDATA) .ApduReplyRenecInvalidMessageSize
    -- modern data may be up to 255B
    return_if (apdu_message.length > 255 + OFFSET_CDATA) .ApduReplyRenecInvalidMessageSize
    let data_length ← checked apdu_message[OFFSET_LC]?
    return_if (apdu_message.length ≠ data_length.toNat + OFFSET_CDATA)
      .ApduReplyRenecInvalidMessageSize
    let data := if data_length.toNat > 0 then some OFFSET_CDATA else none
    let p1 ← checked apdu_message[OFFSET_P1]?
    let p2 ← checked apdu_message[OFFSET_P2]?
    return { instruction, p1, p2, data, data_length := data_length.toNat }

/-- The loop over the indices of a path; `i` of them have been read. -/
def read_indices (apdu_message : List UInt8) : ℕ → ℕ → ℕ → ApduM Unit
  | 0, _, _ => pure ()
  | rounds + 1, i, data_buffer => do
    let b₀ ← checked apdu_message[data_buffer]?
    let b₁ ← checked apdu_message[data_buffer + 1]?
    let b₂ ← checked apdu_message[data_buffer + 2]?
    let b₃ ← checked apdu_message[data_buffer + 3]?
    let command ← get
    let derivation_path ← checked (store command.derivation_path i
      ((b₀.toUInt32 <<< 24) ||| (b₁.toUInt32 <<< 16) ||| (b₂.toUInt32 <<< 8) ||| b₃.toUInt32))
    set { command with derivation_path }
    read_indices apdu_message rounds (i + 1) (data_buffer + 4)

def read_derivation_path (apdu_message : List UInt8) (data_buffer : Option ℕ) (data_size : ℕ) :
    ApduM Unit :=
  match data_buffer with
  | none => throw (.reply .ApduReplySdkInvalidParameter)
  | some data_buffer => do
    return_if (data_size = 0) .ApduReplyRenecInvalidMessageSize
    let len ← checked apdu_message[data_buffer]?
    return_if (len.toNat < 1 ∨ len.toNat > MAX_BIP32_PATH_LENGTH) .ApduReplyRenecInvalidMessage
    return_if (1 + 4 * len.toNat > data_size) .ApduReplyRenecInvalidMessageSize
    read_indices apdu_message len.toNat 0 (data_buffer + 1)
    modify fun command => { command with derivation_path_length := len.toUInt32 }

/-- The number of derivation paths, which a public key command does not send. The pointer and
the length of what is left are returned. -/
def read_num_derivation_paths (apdu_message : List UInt8) (header : ApduHeader) :
    ApduM (Option ℕ × ℕ) :=
  if header.instruction ≠ .InsGetPubkey then do
    return_if (header.data_length = 0) .ApduReplyRenecInvalidMessageSize
    let data ← checked header.data
    let num_derivation_paths ← checked apdu_message[data]?
    modify fun command => { command with num_derivation_paths }
    let data_length ← checked (sub_length header.data_length 1)
    -- We only support one derivation path ATM
    return_if (num_derivation_paths ≠ 1) .ApduReplyRenecInvalidMessage
    return (some (data + 1), data_length)
  else do
    modify fun command => { command with num_derivation_paths := 1 }
    return (header.data, header.data_length)

def read_first_chunk (apdu_message : List UInt8) (header : ApduHeader) :
    ApduM (Option ℕ × ℕ) := do
  let (data, data_length) ← read_num_derivation_paths apdu_message header
  read_derivation_path apdu_message data data_length
  let command ← get
  let path_size := 1 + command.derivation_path_length.toNat * 4
  let data ← checked data
  let data_length ← checked (sub_length data_length path_size)
  return (some (data + path_size), data_length)

/-- Copy data to the buffer. -/
def copy_data (apdu_message : List UInt8) (header : ApduHeader) (data : Option ℕ)
    (data_length : ℕ) : ApduM Unit :=
  match data with
  | some data => do
    let command ← get
    return_if ((to_size command.message_length + data_length) % (SIZE_MAX + 1) > MAX_MESSAGE_LENGTH)
      .ApduReplyRenecInvalidMessageSize
    let bytes ← checked (load apdu_message data data_length)
    let message ← checked (copy command.message command.message_length bytes)
    set { command with message, message_length := command.message_length + data_length }
  | none => return_if (header.instruction ≠ .InsGetPubkey) .ApduReplyRenecInvalidMessageSize

/-- A chunk with `P2_EXTEND` has to go on with the command in progress. -/
def ApduCommand.in_progress (command : ApduCommand) (header : ApduHeader) : Bool :=
  command.state = .ApduStatePayloadInProgress ∧
    command.instruction = some header.instruction ∧
    command.non_confirm = header.non_confirm ∧
    command.num_derivation_paths = 1

/-- Clear the command, unless the chunk goes on with it. -/
def begin_chunk (header : ApduHeader) : ApduM Unit :=
  if header.instruction = .InsGetPubkey ∨ header.first_data_chunk then
    set ApduCommand.zeroed
  else do
    let command ← get
    return_if (!command.in_progress header) .ApduReplyRenecInvalidMessage

/-- What follows the checks of the header. -/
def handle_apdu_header (apdu_message : List UInt8) (header : ApduHeader) : ApduM Unit :=
  if header.instruction = .InsGetAppConfiguration then
    set
      { ApduCommand.zeroed with
        state := .ApduStatePayloadComplete
        instruction := some header.instruction
        non_confirm := header.non_confirm }
  else do
    begin_chunk header
    let (data, data_length) ←
      (if header.first_data_chunk then read_first_chunk apdu_message header
        else pure (header.data, header.data_length))
    modify fun command =>
      { command with
        state := .ApduStatePayloadInProgress
        instruction := some header.instruction
        non_confirm := header.non_confirm }
    copy_data apdu_message header data data_length
    -- check if more data is expected
    run_if (!header.more)
      (modify fun command => { command with state := .ApduStatePayloadComplete })

def apdu_handle_message (apdu_message : List UInt8) : ApduM Unit := do
  let header ← parse_apdu_header apdu_message
  handle_apdu_header apdu_message header

end RenecLedger.Raw
