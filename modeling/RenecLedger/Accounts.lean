/-
The account iterator of `librenec/instruction.c`.

Every program's parser walks the account indices of its instruction with one
iterator, next to the byte parser over the instruction data. `InstructionM` is
the two side by side: a parse function fails as soon as either does.
-/
import RenecLedger.Parser

set_option autoImplicit false

open ReaderLib

namespace RenecLedger

/-- `instruction_accounts_length` is one byte wide, so a list of 256 or more
indices is walked only up to its length modulo 256. -/
structure InstructionAccountsIterator where
  message_header_pubkeys : PubkeyTable
  instruction_accounts_length : UInt8
  instruction_accounts : List UInt8
  current_instruction_account : ℕ
deriving DecidableEq

def instruction_accounts_iterator_init (header : MessageHeader) (instruction : Instruction) :
    InstructionAccountsIterator :=
  { message_header_pubkeys := header.pubkeys
    instruction_accounts_length := UInt8.ofNat instruction.accounts.length
    instruction_accounts := instruction.accounts
    current_instruction_account := 0 }

/-- The next account and the iterator after it; `none` for the return code 1. -/
def instruction_accounts_iterator_next (it : InstructionAccountsIterator) :
    Option (PubkeyRef × InstructionAccountsIterator) :=
  if it.current_instruction_account < it.instruction_accounts_length.toNat then
    let pubkeys_index := it.instruction_accounts.getD it.current_instruction_account 0
    some (it.message_header_pubkeys.at_index pubkeys_index.toNat,
      { it with current_instruction_account := it.current_instruction_account + 1 })
  else
    none

def instruction_accounts_iterator_remaining (it : InstructionAccountsIterator) : ℕ :=
  if it.current_instruction_account < it.instruction_accounts_length.toNat then
    it.instruction_accounts_length.toNat - it.current_instruction_account
  else
    0

/-! ## Parsing an instruction -/

/-- Parsing the data of an instruction while walking its accounts. -/
abbrev InstructionM := StateT InstructionAccountsIterator ParserM

/-- `BAIL_IF(instruction_accounts_iterator_next(&it, &account))`. -/
def next_account : InstructionM PubkeyRef := fun it =>
  match instruction_accounts_iterator_next it with
  | some next => pure next
  | none => bail

/-- `BAIL_IF(instruction_accounts_iterator_next(&it, NULL))`. -/
def skip_account : InstructionM Unit := do
  let _ ← next_account

/-- `instruction_accounts_iterator_next(&it, &account)` with its return code
ignored: the account stays `NULL` when there is none. -/
def optional_account : InstructionM (Option PubkeyRef) := fun it =>
  match instruction_accounts_iterator_next it with
  | some (account, it) => pure (some account, it)
  | none => pure (none, it)

/-- `instruction_accounts_iterator_remaining(&it)`. -/
def remaining_accounts : InstructionM ℕ := do
  return instruction_accounts_iterator_remaining (← get)

/-- Run a parse function from a fresh iterator over the instruction's accounts. -/
def with_accounts {α : Type} (instruction : Instruction) (header : MessageHeader)
    (parse : InstructionM α) : ParserM α :=
  parse.run' (instruction_accounts_iterator_init header instruction)

/-- `Parser parser = {instruction->data, instruction->data_length}`: parse the data
of an instruction and drop what is left of it. -/
def parse_instruction_data {α : Type} (instruction : Instruction) (parse : ParserM α) : Option α :=
  parse.run' instruction.data

end RenecLedger
