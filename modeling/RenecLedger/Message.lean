/-
Processing a message body: `librenec/message.c`.

Parsing and printing are two phases of `process_message_body`: nothing is printed
before every instruction has been read, validated and recognised and the body is
known to end there. `parse_message_body` is the first phase, and its result is the
`instruction_info` array; `print_transaction` gets the infos that are displayed.
-/
import RenecLedger.TransactionPrinters

set_option autoImplicit false

open ReaderLib

namespace RenecLedger

def MAX_INSTRUCTIONS : ℕ := 4

/-- What the program named by the instruction makes of it. An instruction that its
program's parser rejects is left unknown. -/
def parse_instruction_info (instruction : Instruction) (header : MessageHeader) :
    InstructionInfo :=
  match instruction_program_id instruction header with
  | .ProgramIdRplAssociatedTokenAccount =>
    match parse_rpl_associated_token_account_instructions instruction header with
    | some create => .ProgramIdRplAssociatedTokenAccount create
    | none => .ProgramIdUnknown
  | .ProgramIdRplMemo => .ProgramIdRplMemo
  | .ProgramIdRplToken =>
    match parse_rpl_token_instructions instruction header with
    | some rpl_token => .ProgramIdRplToken rpl_token
    | none => .ProgramIdUnknown
  | .ProgramIdSystem =>
    match parse_system_instructions instruction header with
    | some system => .ProgramIdSystem system
    | none => .ProgramIdUnknown
  | .ProgramIdStake =>
    match parse_stake_instructions instruction header with
    | some stake => .ProgramIdStake stake
    | none => .ProgramIdUnknown
  | .ProgramIdVote =>
    match parse_vote_instructions instruction header with
    | some vote => .ProgramIdVote vote
    | none => .ProgramIdUnknown
  | .ProgramIdUnknown => .ProgramIdUnknown

/-- One round of the instruction loop. -/
def process_instruction (header : MessageHeader) : ParserM InstructionInfo := do
  let instruction ← parse_instruction
  bail_if (!instruction_validate instruction header)
  return parse_instruction_info instruction header

/-- What follows the instructions: the address table lookups of a versioned message,
which must be an empty list, and then the end of the body. -/
def parse_message_body_end (header : MessageHeader) : ParserM Unit := do
  if header.versioned then
    let account_tables_length ← parse_length
    bail_if (account_tables_length > 0)
  let parser ← get
  bail_if (!parser_is_empty parser)

/-- The first phase: the infos of all instructions, none of them unknown. -/
def parse_message_body (header : MessageHeader) : ParserM (List InstructionInfo) := do
  bail_if (header.instructions_length = 0)
  bail_if (header.instructions_length > MAX_INSTRUCTIONS)
  let instruction_info ← times (process_instruction header) header.instructions_length
  parse_message_body_end header
  bail_if (instruction_info.any fun info => info.kind = .ProgramIdUnknown)
  return instruction_info

/-- The infos that are displayed: all but the memos. -/
def display_instruction_info (instruction_info : List InstructionInfo) : List InstructionInfo :=
  instruction_info.filter fun info => info.kind ≠ .ProgramIdRplMemo

def process_message_body (message_body : Parser) (print_config : PrintConfig) : SummaryM Unit :=
  match (parse_message_body print_config.header).run' message_body with
  | some instruction_info =>
    print_transaction print_config (display_instruction_info instruction_info)
  | none => SummaryM.fail

end RenecLedger
