/-
Receiving commands: `src/apdu.c` and the derivation paths of `src/utils.c`.

A command arrives in one or more APDUs and is put together in `G_command`. The out
parameters of `apdu_handle_message` are the state of `ApduM`, so what it wrote before it
returned an error is still there when its caller clears the command.
-/
import RenecLedger.Lib.Program
import RenecLedger.Parser

set_option autoImplicit false

open ProgramLib

namespace RenecLedger

/-! ## Constants -/

def CLA : UInt8 := 0xE0

def OFFSET_CLA : ℕ := 0
def OFFSET_INS : ℕ := 1
def OFFSET_P1 : ℕ := 2
def OFFSET_P2 : ℕ := 3
def OFFSET_LC : ℕ := 4
def OFFSET_CDATA : ℕ := 5

def P1_CONFIRM : UInt8 := 0x01
def P1_NON_CONFIRM : UInt8 := 0x00

def P2_EXTEND : UInt8 := 0x01
def P2_MORE : UInt8 := 0x02

def PACKET_DATA_SIZE : ℕ := 1280 - 40 - 8
def MAX_BIP32_PATH_LENGTH : ℕ := 5
def MAX_DERIVATION_PATH_BUFFER_LENGTH : ℕ := 1 + MAX_BIP32_PATH_LENGTH * 4
def TOTAL_SIGN_MESSAGE_BUFFER_LENGTH : ℕ := PACKET_DATA_SIZE + MAX_DERIVATION_PATH_BUFFER_LENGTH
def USB_SEGMENT_SIZE : ℕ := 64

def ROUND_TO_NEXT (x next : ℕ) : ℕ := if x = 0 then 0 else ((x - 1) / next + 1) * next

def MAX_MESSAGE_LENGTH : ℕ := ROUND_TO_NEXT TOTAL_SIGN_MESSAGE_BUFFER_LENGTH USB_SEGMENT_SIZE

example : MAX_MESSAGE_LENGTH = 1280 := by decide

/-- `enum ApduReply`, as far as the app sends it. -/
inductive ApduReply
  | ApduReplySdkInvalidParameter
  | ApduReplySdkNotSupported
  | ApduReplyNoApduReceived
  | ApduReplyUserRefusal
  | ApduReplyRenecInvalidMessage
  | ApduReplyRenecInvalidMessageHeader
  | ApduReplyRenecInvalidMessageFormat
  | ApduReplyRenecInvalidMessageSize
  | ApduReplyRenecSummaryFinalizeFailed
  | ApduReplyRenecSummaryUpdateFailed
  | ApduReplyUnimplementedInstruction
  | ApduReplySuccess
deriving DecidableEq

/-- The numbers of the status words. -/
def ApduReply.code : ApduReply → ℕ
  | .ApduReplySdkInvalidParameter => 0x6802
  | .ApduReplySdkNotSupported => 0x6808
  | .ApduReplyNoApduReceived => 0x6982
  | .ApduReplyUserRefusal => 0x6985
  | .ApduReplyRenecInvalidMessage => 0x6a80
  | .ApduReplyRenecInvalidMessageHeader => 0x6a81
  | .ApduReplyRenecInvalidMessageFormat => 0x6a82
  | .ApduReplyRenecInvalidMessageSize => 0x6a83
  | .ApduReplyRenecSummaryFinalizeFailed => 0x6f00
  | .ApduReplyRenecSummaryUpdateFailed => 0x6f01
  | .ApduReplyUnimplementedInstruction => 0x6d00
  | .ApduReplySuccess => 0x9000

/-- The instructions of the app. Any other byte is refused before the command is
touched. -/
inductive InstructionCode
  | InsGetAppConfiguration
  | InsGetPubkey
  | InsSignMessage
  | InsSignOffchainMessage
deriving DecidableEq

/-- The codes of the instructions; any other byte is none of them. -/
def InstructionCode.ofByte (b : UInt8) : Option InstructionCode :=
  match b.toNat with
  | 0x01 => some .InsGetAppConfiguration
  | 0x02 => some .InsGetPubkey
  | 0x03 => some .InsSignMessage
  | 0x04 => some .InsSignOffchainMessage
  | _ => none

/-- The byte that names an instruction. -/
def InstructionCode.byte : InstructionCode → UInt8
  | .InsGetAppConfiguration => 0x01
  | .InsGetPubkey => 0x02
  | .InsSignMessage => 0x03
  | .InsSignOffchainMessage => 0x04

/-! ## The command -/

/-- How far the command has come: nothing, some of its chunks, or all of them. -/
inductive ApduState
  | ApduStateUninitialized
  | ApduStatePayloadInProgress
  | ApduStatePayloadComplete
deriving DecidableEq

/-- The command in progress. The message buffer has a fixed size, and the length of the
message is within it. A cleared command has no instruction. -/
structure ApduCommand where
  state : ApduState
  instruction : Option InstructionCode
  num_derivation_paths : UInt8
  derivation_path : List UInt32
  non_confirm : Bool
  message : List UInt8
  message_length : ℕ
  message_hash : Hash
  message_size : message.length = MAX_MESSAGE_LENGTH
  message_length_le : message_length ≤ MAX_MESSAGE_LENGTH
deriving DecidableEq

/-- `explicit_bzero(apdu_command, sizeof(ApduCommand))`. -/
def ApduCommand.cleared : ApduCommand where
  state := .ApduStateUninitialized
  instruction := none
  num_derivation_paths := 0
  derivation_path := []
  non_confirm := false
  message := List.replicate MAX_MESSAGE_LENGTH 0
  message_length := 0
  message_hash := Hash.fill 0
  message_size := List.length_replicate
  message_length_le := Nat.zero_le _

/-- `message[0..message_length)`. -/
def ApduCommand.payload (command : ApduCommand) : List UInt8 :=
  command.message.take command.message_length

/-- `memcpy(message + message_length, data, …)` and the new length. -/
def ApduCommand.append (command : ApduCommand) (data : List UInt8)
    (h : command.message_length + data.length ≤ MAX_MESSAGE_LENGTH) : ApduCommand :=
  { command with
    message := command.payload ++ data ++
      command.message.drop (command.message_length + data.length)
    message_length := command.message_length + data.length
    message_size := by
      have hsize := command.message_size
      have hle := command.message_length_le
      simp only [ApduCommand.payload, List.length_append, List.length_take, List.length_drop]
      omega
    message_length_le := h }

/-! ## Handling a message -/

/-- A function that returns an `ApduReply` error code and has `G_command` as its out
parameter. -/
abbrev ApduM := Program ApduReply ApduCommand

/-- `length` big-endian words. -/
def read_u32_be : ℕ → List UInt8 → List UInt32
  | n + 1, b₀ :: b₁ :: b₂ :: b₃ :: data_buffer =>
    ((b₀.toUInt32 <<< 24) ||| (b₁.toUInt32 <<< 16) ||| (b₂.toUInt32 <<< 8) ||| b₃.toUInt32) ::
      read_u32_be n data_buffer
  | _, _ => []

/-- The derivation path at the front of a buffer; `none` for a buffer that is `NULL`. -/
def read_derivation_path (data_buffer : Option (List UInt8)) : Except ApduReply (List UInt32) :=
  match data_buffer with
  | none => .error .ApduReplySdkInvalidParameter
  | some [] => .error .ApduReplyRenecInvalidMessageSize
  | some (len :: data_buffer) =>
    if len.toNat < 1 ∨ len.toNat > MAX_BIP32_PATH_LENGTH then .error .ApduReplyRenecInvalidMessage
    else if 4 * len.toNat > data_buffer.length then .error .ApduReplyRenecInvalidMessageSize
    else .ok (read_u32_be len.toNat data_buffer)

/-- The header of an APDU; no data is a `NULL` pointer. -/
structure ApduHeader where
  instruction : InstructionCode
  p1 : UInt8
  p2 : UInt8
  data : Option (List UInt8)
deriving DecidableEq

/-- Whether the client asks for no confirmation: the byte 0 and no other. -/
def ApduHeader.non_confirm (header : ApduHeader) : Bool := header.p1 = P1_NON_CONFIRM

/-- `!(header.p2 & P2_EXTEND)`. -/
def ApduHeader.first_data_chunk (header : ApduHeader) : Bool := header.p2 &&& P2_EXTEND = 0

/-- `header.p2 & P2_MORE`. -/
def ApduHeader.more (header : ApduHeader) : Bool := header.p2 &&& P2_MORE ≠ 0

/-- The checks of the header, which do not touch the command. -/
def parse_apdu_header (apdu_message : List UInt8) : Except ApduReply ApduHeader :=
  -- must at least hold the class and instruction
  if apdu_message.length ≤ OFFSET_INS then .error .ApduReplyRenecInvalidMessageSize
  else if apdu_message.getD OFFSET_CLA 0 ≠ CLA then .error .ApduReplyRenecInvalidMessageHeader
  else
    match InstructionCode.ofByte (apdu_message.getD OFFSET_INS 0) with
    | none => .error .ApduReplyUnimplementedInstruction
    | some instruction =>
      -- must at least hold a full modern header
      if apdu_message.length < OFFSET_CDATA then .error .ApduReplyRenecInvalidMessageSize
      -- modern data may be up to 255B
      else if apdu_message.length > 255 + OFFSET_CDATA then .error .ApduReplyRenecInvalidMessageSize
      else
        let data_length := (apdu_message.getD OFFSET_LC 0).toNat
        if apdu_message.length ≠ data_length + OFFSET_CDATA then
          .error .ApduReplyRenecInvalidMessageSize
        else
          .ok { instruction
                p1 := apdu_message.getD OFFSET_P1 0
                p2 := apdu_message.getD OFFSET_P2 0
                data := if data_length > 0 then some (apdu_message.drop OFFSET_CDATA) else none }

/-- The number of derivation paths, which a public key command does not send. What is left
of the data is returned. -/
def read_num_derivation_paths (header : ApduHeader) : ApduM (Option (List UInt8)) :=
  if header.instruction ≠ .InsGetPubkey then
    match header.data with
    | some (num_derivation_paths :: data) => do
      modify fun command => { command with num_derivation_paths }
      -- We only support one derivation path ATM
      throw_if (num_derivation_paths ≠ 1) .ApduReplyRenecInvalidMessage
      return some data
    | _ => throw .ApduReplyRenecInvalidMessageSize
  else do
    modify fun command => { command with num_derivation_paths := 1 }
    return header.data

/-- The number of derivation paths and the path, which only the first chunk holds. -/
def read_first_chunk (header : ApduHeader) : ApduM (Option (List UInt8)) := do
  let data ← read_num_derivation_paths header
  let derivation_path ← of_except (read_derivation_path data)
  modify fun command => { command with derivation_path }
  return data.map (·.drop (1 + derivation_path.length * 4))

/-- Add the data of a chunk to the message. -/
def copy_data (header : ApduHeader) (data : Option (List UInt8)) : ApduM Unit :=
  match data with
  | some data => do
    let command ← get
    if h : command.message_length + data.length ≤ MAX_MESSAGE_LENGTH then
      set (command.append data h)
    else
      throw .ApduReplyRenecInvalidMessageSize
  | none => throw_if (header.instruction ≠ .InsGetPubkey) .ApduReplyRenecInvalidMessageSize

/-- A chunk with `P2_EXTEND` has to go on with the command in progress. -/
def ApduCommand.in_progress (command : ApduCommand) (header : ApduHeader) : Bool :=
  command.state = .ApduStatePayloadInProgress ∧
    command.instruction = some header.instruction ∧
    command.non_confirm = header.non_confirm ∧
    command.num_derivation_paths = 1

/-- Clear the command, unless the chunk goes on with it. -/
def begin_chunk (header : ApduHeader) : ApduM Unit :=
  if header.instruction = .InsGetPubkey ∨ header.first_data_chunk then
    set ApduCommand.cleared
  else do
    let command ← get
    throw_if (!command.in_progress header) .ApduReplyRenecInvalidMessage

/-- The command of an instruction for which no data is expected. -/
def ApduCommand.without_data (header : ApduHeader) : ApduCommand :=
  { ApduCommand.cleared with
    state := .ApduStatePayloadComplete
    instruction := some header.instruction
    non_confirm := header.non_confirm }

/-- What follows the checks of the header. -/
def handle_apdu_header (header : ApduHeader) : ApduM Unit :=
  if header.instruction = .InsGetAppConfiguration then
    set (ApduCommand.without_data header)
  else do
    begin_chunk header
    let data ← (if header.first_data_chunk then read_first_chunk header else pure header.data)
    modify fun command =>
      { command with
        state := .ApduStatePayloadInProgress
        instruction := some header.instruction
        non_confirm := header.non_confirm }
    copy_data header data
    -- check if more data is expected
    run_if (!header.more)
      (modify fun command => { command with state := .ApduStatePayloadComplete })

/-- `apdu_handle_message`: the header is checked before anything of the command changes,
and then its data is taken. -/
def apdu_handle_message (apdu_message : List UInt8) : ApduM Unit := do
  let header ← of_except (parse_apdu_header apdu_message)
  handle_apdu_header header

end RenecLedger
