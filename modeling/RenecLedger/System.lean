/-
System program instructions: `librenec/system_instruction.c`.

The parse functions return the info struct of their instruction, the printers set
its summary items. `SystemInfo` is the tagged union of the source, one constructor
a kind; the kind that is known but not supported has no info.
-/
import RenecLedger.Accounts
import RenecLedger.Summary

set_option autoImplicit false

namespace RenecLedger

/-! ## Types -/

/-- The system program's address, 32 zero bytes. -/
def system_program_id : Pubkey := Pubkey.fill 0

/-- The instructions of the system program, in the order of their tags. The last is
known and not supported. -/
inductive SystemInstructionKind
  | SystemCreateAccount
  | SystemAssign
  | SystemTransfer
  | SystemCreateAccountWithSeed
  | SystemAdvanceNonceAccount
  | SystemWithdrawNonceAccount
  | SystemInitializeNonceAccount
  | SystemAuthorizeNonceAccount
  | SystemAllocate
  | SystemAllocateWithSeed
  | SystemAssignWithSeed
deriving DecidableEq

/-- `SystemCreateAccountInfo`: `from_` pays for the new account `to_`. Its space and
owner are in the data and the parser does not read them. -/
structure SystemCreateAccountInfo where
  from_ : PubkeyRef
  to_ : PubkeyRef
  lamports : UInt64
deriving DecidableEq

/-- `SystemCreateAccountWithSeedInfo`: the new account's address is derived from `base`
and `seed`. -/
structure SystemCreateAccountWithSeedInfo where
  from_ : PubkeyRef
  to_ : PubkeyRef
  base : PubkeyRef
  seed : SizedString
  lamports : UInt64
deriving DecidableEq

/-- `SystemTransferInfo`: `lamports` go from `from_`, which signs, to `to_`. -/
structure SystemTransferInfo where
  from_ : PubkeyRef
  to_ : PubkeyRef
  lamports : UInt64
deriving DecidableEq

/-- `SystemAdvanceNonceInfo`: the nonce account whose hash stands in for a blockhash,
and its authority. -/
structure SystemAdvanceNonceInfo where
  account : PubkeyRef
  authority : PubkeyRef
deriving DecidableEq

/-- `SystemInitializeNonceInfo`: a new account becomes a nonce account of this
authority. -/
structure SystemInitializeNonceInfo where
  account : PubkeyRef
  authority : PubkeyRef
deriving DecidableEq

/-- `SystemWithdrawNonceInfo`: `lamports` go from the nonce account to `to_`, under its
authority. -/
structure SystemWithdrawNonceInfo where
  account : PubkeyRef
  authority : PubkeyRef
  to_ : PubkeyRef
  lamports : UInt64
deriving DecidableEq

/-- `SystemAuthorizeNonceInfo`: the authority of a nonce account is replaced. -/
structure SystemAuthorizeNonceInfo where
  account : PubkeyRef
  authority : PubkeyRef
  new_authority : PubkeyRef
deriving DecidableEq

/-- `SystemAllocateInfo`: an account gets `space` bytes. -/
structure SystemAllocateInfo where
  account : PubkeyRef
  space : UInt64
deriving DecidableEq

/-- `SystemAssignInfo`: an account is given to a program. -/
structure SystemAssignInfo where
  account : PubkeyRef
  program_id : PubkeyRef
deriving DecidableEq

/-- `SystemAllocateWithSeedInfo`: space and owner in one, for an address derived from
`base` and `seed`. -/
structure SystemAllocateWithSeedInfo where
  account : PubkeyRef
  base : PubkeyRef
  seed : SizedString
  space : UInt64
  program_id : PubkeyRef
deriving DecidableEq

/-- `SystemInfo`, the tagged union of the source: one constructor a kind, with the
struct that the kind fills. -/
inductive SystemInfo
  | SystemTransfer (transfer : SystemTransferInfo)
  | SystemCreateAccount (create_account : SystemCreateAccountInfo)
  | SystemCreateAccountWithSeed (create_account_with_seed : SystemCreateAccountWithSeedInfo)
  | SystemAdvanceNonceAccount (advance_nonce : SystemAdvanceNonceInfo)
  | SystemInitializeNonceAccount (initialize_nonce : SystemInitializeNonceInfo)
  | SystemWithdrawNonceAccount (withdraw_nonce : SystemWithdrawNonceInfo)
  | SystemAuthorizeNonceAccount (authorize_nonce : SystemAuthorizeNonceInfo)
  | SystemAllocate (allocate : SystemAllocateInfo)
  | SystemAssign (assign : SystemAssignInfo)
  | SystemAllocateWithSeed (allocate_with_seed : SystemAllocateWithSeedInfo)
  | SystemAssignWithSeed
deriving DecidableEq

/-- The tag of the union, on which the recognizers of `transaction_printers.c` match. -/
def SystemInfo.kind : SystemInfo → SystemInstructionKind
  | .SystemTransfer _ => .SystemTransfer
  | .SystemCreateAccount _ => .SystemCreateAccount
  | .SystemCreateAccountWithSeed _ => .SystemCreateAccountWithSeed
  | .SystemAdvanceNonceAccount _ => .SystemAdvanceNonceAccount
  | .SystemInitializeNonceAccount _ => .SystemInitializeNonceAccount
  | .SystemWithdrawNonceAccount _ => .SystemWithdrawNonceAccount
  | .SystemAuthorizeNonceAccount _ => .SystemAuthorizeNonceAccount
  | .SystemAllocate _ => .SystemAllocate
  | .SystemAssign _ => .SystemAssign
  | .SystemAllocateWithSeed _ => .SystemAllocateWithSeed
  | .SystemAssignWithSeed => .SystemAssignWithSeed

/-! ## Parsing -/

/-- The first four bytes of the data name the instruction. A tag that the `switch` does
not list fails. -/
def parse_system_instruction_kind : ParserM SystemInstructionKind := do
  let maybe_kind ← parse_u32
  match maybe_kind.toNat with
  | 0 => return .SystemCreateAccount
  | 1 => return .SystemAssign
  | 2 => return .SystemTransfer
  | 3 => return .SystemCreateAccountWithSeed
  | 4 => return .SystemAdvanceNonceAccount
  | 5 => return .SystemWithdrawNonceAccount
  | 6 => return .SystemInitializeNonceAccount
  | 7 => return .SystemAuthorizeNonceAccount
  | 8 => return .SystemAllocate
  | 9 => return .SystemAllocateWithSeed
  | 10 => return .SystemAssignWithSeed
  | _ => bail

/-- Accounts: the sender and the recipient. The amount comes from the data. -/
def parse_system_transfer_instruction (instruction : Instruction) (header : MessageHeader) :
    ParserM SystemTransferInfo :=
  with_accounts instruction header do
    let from_ ← next_account
    let to_ ← next_account
    let lamports ← parse_u64
    return { from_, to_, lamports }

/-- Accounts: the payer and the new account. The data goes on with the space and the
owner, which are left unread. -/
def parse_system_create_account_instruction (instruction : Instruction)
    (header : MessageHeader) : ParserM SystemCreateAccountInfo :=
  with_accounts instruction header do
    let from_ ← next_account
    let to_ ← next_account
    let lamports ← parse_u64
    return { from_, to_, lamports }

/-- Accounts: the payer and the new account. The base is read from the data, and what
follows the amount is left unread. -/
def parse_system_create_account_with_seed_instruction (instruction : Instruction)
    (header : MessageHeader) : ParserM SystemCreateAccountWithSeedInfo :=
  with_accounts instruction header do
    let from_ ← next_account
    let to_ ← next_account
    let base ← parse_pubkey
    let seed ← parse_sized_string
    let lamports ← parse_u64
    return { from_, to_, base, seed, lamports }

/-- Accounts: the nonce account, the recent blockhashes sysvar and the authority. The
data ends at the tag. -/
def parse_system_advance_nonce_account_instruction (instruction : Instruction)
    (header : MessageHeader) : ParserM SystemAdvanceNonceInfo :=
  with_accounts instruction header do
    let account ← next_account
    -- recent blockhashes sysvar
    skip_account
    let authority ← next_account
    return { account, authority }

/-- Accounts: the nonce account and two sysvars. The authority comes from the data. -/
def parse_system_initialize_nonce_account_instruction (instruction : Instruction)
    (header : MessageHeader) : ParserM SystemInitializeNonceInfo :=
  with_accounts instruction header do
    let account ← next_account
    -- recent blockhashes sysvar, rent sysvar
    skip_account
    skip_account
    let authority ← parse_pubkey
    return { account, authority }

/-- Accounts: the nonce account, the recipient, two sysvars and the authority. The
amount comes from the data. -/
def parse_system_withdraw_nonce_account_instruction (instruction : Instruction)
    (header : MessageHeader) : ParserM SystemWithdrawNonceInfo :=
  with_accounts instruction header do
    let account ← next_account
    let to_ ← next_account
    -- recent blockhashes sysvar, rent sysvar
    skip_account
    skip_account
    let authority ← next_account
    let lamports ← parse_u64
    return { account, authority, to_, lamports }

/-- Accounts: the nonce account and its authority. The new authority comes from the
data. -/
def parse_system_authorize_nonce_account_instruction (instruction : Instruction)
    (header : MessageHeader) : ParserM SystemAuthorizeNonceInfo :=
  with_accounts instruction header do
    let account ← next_account
    let authority ← next_account
    let new_authority ← parse_pubkey
    return { account, authority, new_authority }

/-- One account, and its new length from the data. -/
def parse_system_allocate_instruction (instruction : Instruction) (header : MessageHeader) :
    ParserM SystemAllocateInfo :=
  with_accounts instruction header do
    let account ← next_account
    let space ← parse_u64
    return { account, space }

/-- One account, and its new owner from the data. -/
def parse_system_assign_instruction (instruction : Instruction) (header : MessageHeader) :
    ParserM SystemAssignInfo :=
  with_accounts instruction header do
    let account ← next_account
    let program_id ← parse_pubkey
    return { account, program_id }

/-- Accounts: the account and the base. The base the printers show is the one of the
data, which the parser does not compare with the account. -/
def parse_system_allocate_with_seed_instruction (instruction : Instruction)
    (header : MessageHeader) : ParserM SystemAllocateWithSeedInfo :=
  with_accounts instruction header do
    let account ← next_account
    -- base, which the instruction data repeats
    skip_account
    let base ← parse_pubkey
    let seed ← parse_sized_string
    let space ← parse_u64
    let program_id ← parse_pubkey
    return { account, base, seed, space, program_id }

/-- The entry point: the kind, then what the kind's own parser reads. An assignment with
a seed fails here. -/
def parse_system_instructions (instruction : Instruction) (header : MessageHeader) :
    Option SystemInfo :=
  parse_instruction_data instruction do
    match ← parse_system_instruction_kind with
    | .SystemTransfer =>
      return .SystemTransfer (← parse_system_transfer_instruction instruction header)
    | .SystemAdvanceNonceAccount =>
      return .SystemAdvanceNonceAccount
        (← parse_system_advance_nonce_account_instruction instruction header)
    | .SystemCreateAccount =>
      return .SystemCreateAccount (← parse_system_create_account_instruction instruction header)
    | .SystemCreateAccountWithSeed =>
      return .SystemCreateAccountWithSeed
        (← parse_system_create_account_with_seed_instruction instruction header)
    | .SystemInitializeNonceAccount =>
      return .SystemInitializeNonceAccount
        (← parse_system_initialize_nonce_account_instruction instruction header)
    | .SystemWithdrawNonceAccount =>
      return .SystemWithdrawNonceAccount
        (← parse_system_withdraw_nonce_account_instruction instruction header)
    | .SystemAuthorizeNonceAccount =>
      return .SystemAuthorizeNonceAccount
        (← parse_system_authorize_nonce_account_instruction instruction header)
    | .SystemAssign =>
      return .SystemAssign (← parse_system_assign_instruction instruction header)
    | .SystemAllocate =>
      return .SystemAllocate (← parse_system_allocate_instruction instruction header)
    | .SystemAllocateWithSeed =>
      return .SystemAllocateWithSeed
        (← parse_system_allocate_with_seed_instruction instruction header)
    | .SystemAssignWithSeed => bail

/-! ## Printing -/

/-- The primary title of both kinds of account creation. -/
def CREATE_ACCOUNT_TITLE : String := "Create account"

/-- `if (primary_title != NULL)` set the primary item to `pubkey` under it. -/
def print_primary_title (primary_title : Option String) (pubkey : PubkeyRef) : SummaryM Unit :=
  match primary_title with
  | some title => summary_item_set_pubkey .primary title pubkey
  | none => pure ()

/-- `if (print_config_show_authority(print_config, authority))` set the next general
item to it. -/
def print_authority (print_config : PrintConfig) (title : String) (authority : PubkeyRef) :
    SummaryM Unit :=
  if print_config_show_authority print_config authority then
    summary_item_set_pubkey .general title authority
  else
    pure ()

/-- The amount is the primary item. The recipient is always shown, the sender where the
configuration shows it. -/
def print_system_transfer_info (info : SystemTransferInfo) (print_config : PrintConfig) :
    SummaryM Unit := do
  summary_item_set_amount .primary "Transfer" info.lamports
  print_authority print_config "Sender" info.from_
  summary_item_set_pubkey .general "Recipient" info.to_

/-- The nonce account and, where the configuration shows it, the authority. This is the
printer of an advance that is the whole transaction. -/
def print_system_advance_nonce_account (info : SystemAdvanceNonceInfo)
    (print_config : PrintConfig) : SummaryM Unit := do
  summary_item_set_pubkey .primary "Advance nonce" info.account
  print_authority print_config "Authorized by" info.authority

/-- The amount is the primary item; then the two ends and, where the configuration shows
it, the authority. -/
def print_system_withdraw_nonce_info (info : SystemWithdrawNonceInfo)
    (print_config : PrintConfig) : SummaryM Unit := do
  summary_item_set_amount .primary "Nonce withdraw" info.lamports
  summary_item_set_pubkey .general "From" info.account
  summary_item_set_pubkey .general "To" info.to_
  print_authority print_config "Authorized by" info.authority

/-- The account, the new authority and, where the configuration shows it, the one that
signs. -/
def print_system_authorize_nonce_info (info : SystemAuthorizeNonceInfo)
    (print_config : PrintConfig) : SummaryM Unit := do
  summary_item_set_pubkey .primary "Set nonce auth" info.account
  summary_item_set_pubkey .general "New authority" info.new_authority
  print_authority print_config "Authorized by" info.authority

/-- The account and its length; the instruction names no authority. -/
def print_system_allocate_info (info : SystemAllocateInfo) : SummaryM Unit := do
  summary_item_set_pubkey .primary "Allocate acct" info.account
  summary_item_set_u64 .general "Data size" info.space

/-- The account and the program it goes to; the instruction names no authority. -/
def print_system_assign_info (info : SystemAssignInfo) : SummaryM Unit := do
  summary_item_set_pubkey .primary "Assign acct" info.account
  summary_item_set_pubkey .general "To program" info.program_id

/-- The new account, the deposit and, where the configuration shows it, the payer. A
pattern that has set its own primary item calls it with no title. -/
def print_system_create_account_info (primary_title : Option String)
    (info : SystemCreateAccountInfo) (print_config : PrintConfig) : SummaryM Unit := do
  print_primary_title primary_title info.to_
  summary_item_set_amount .general "Deposit" info.lamports
  print_authority print_config "From" info.from_

/-- As for an account without a seed; expert mode adds the base and the seed. -/
def print_system_create_account_with_seed_info (primary_title : Option String)
    (info : SystemCreateAccountWithSeedInfo) (print_config : PrintConfig) : SummaryM Unit := do
  print_primary_title primary_title info.to_
  summary_item_set_amount .general "Deposit" info.lamports
  print_authority print_config "From" info.from_
  if print_config.expert_mode then
    summary_item_set_pubkey .general "Base" info.base
    summary_item_set_sized_string .general "Seed" info.seed

/-- The nonce account and its authority, which is shown whoever it is. -/
def print_system_initialize_nonce_info (primary_title : Option String)
    (info : SystemInitializeNonceInfo) : SummaryM Unit := do
  print_primary_title primary_title info.account
  summary_item_set_pubkey .general "New authority" info.authority

/-- A title that is not `NULL` only switches the primary item on: its text is the
literal of the source. -/
def print_system_allocate_with_seed_info (primary_title : Option String)
    (info : SystemAllocateWithSeedInfo) (print_config : PrintConfig) : SummaryM Unit := do
  print_primary_title (primary_title.map fun _ => "Allocate acct") info.account
  summary_item_set_u64 .general "Data size" info.space
  if print_config.expert_mode then
    summary_item_set_pubkey .general "Base" info.base
    summary_item_set_sized_string .general "Seed" info.seed

/-- One printer a kind, with the primary titles the source passes. The kind without an
info returns an error. -/
def print_system_info (info : SystemInfo) (print_config : PrintConfig) : SummaryM Unit :=
  match info with
  | .SystemTransfer transfer => print_system_transfer_info transfer print_config
  | .SystemAdvanceNonceAccount advance_nonce =>
    print_system_advance_nonce_account advance_nonce print_config
  | .SystemCreateAccount create_account =>
    print_system_create_account_info (some CREATE_ACCOUNT_TITLE) create_account print_config
  | .SystemCreateAccountWithSeed create_account_with_seed =>
    print_system_create_account_with_seed_info (some CREATE_ACCOUNT_TITLE)
      create_account_with_seed print_config
  | .SystemInitializeNonceAccount initialize_nonce =>
    print_system_initialize_nonce_info (some "Init nonce acct") initialize_nonce
  | .SystemWithdrawNonceAccount withdraw_nonce =>
    print_system_withdraw_nonce_info withdraw_nonce print_config
  | .SystemAuthorizeNonceAccount authorize_nonce =>
    print_system_authorize_nonce_info authorize_nonce print_config
  | .SystemAssign assign => print_system_assign_info assign
  | .SystemAllocate allocate => print_system_allocate_info allocate
  | .SystemAllocateWithSeed allocate_with_seed =>
    print_system_allocate_with_seed_info (some "Allocate acct") allocate_with_seed print_config
  | .SystemAssignWithSeed => SummaryM.fail

/-- The nonce items, which only expert mode shows. -/
def print_system_nonced_transaction_sentinel (info : SystemAdvanceNonceInfo)
    (print_config : PrintConfig) : SummaryM Unit := do
  if print_config.expert_mode then
    summary_item_set_pubkey .nonce_account "Nonce account" info.account
    summary_item_set_pubkey .nonce_authority "Nonce authority" info.authority

end RenecLedger
