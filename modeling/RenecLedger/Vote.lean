/-
Vote program instructions: `librenec/vote_instruction.c`.
-/
import RenecLedger.System

set_option autoImplicit false

namespace RenecLedger

/-! ## Types -/

/-- The vote program's address: an instruction under this key is read by
`parse_vote_instructions` and by nothing else. -/
def vote_program_id : Pubkey :=
  ⟨[0x07, 0x61, 0x48, 0x1d, 0x35, 0x74, 0x74, 0xbb, 0x7c, 0x4d, 0x76, 0x24, 0xeb, 0xd3, 0xbd,
    0xb3, 0xd8, 0x35, 0x5e, 0x73, 0xd1, 0x10, 0x43, 0xfc, 0x0d, 0xa3, 0x53, 0x80, 0x00, 0x00,
    0x00, 0x00], by decide⟩

/-- The instructions of the vote program that the parser knows by name, in the order of
their tags. Two of them it reads no further: see `parse_vote_instructions`. -/
inductive VoteInstructionKind
  | VoteInitialize
  | VoteAuthorize
  | VoteVote
  | VoteWithdraw
  | VoteUpdateValidatorId
  | VoteUpdateCommission
  | VoteSwitchVote
  | VoteAuthorizeChecked
deriving DecidableEq

/-- `VoteInitData`: the identity, the two authorities and the commission a vote account
starts with. The commission is one byte on the wire and eight in the struct. -/
structure VoteInitData where
  validator_id : PubkeyRef
  vote_authority : PubkeyRef
  withdraw_authority : PubkeyRef
  commission : UInt64
deriving DecidableEq

/-- `VoteInitializeInfo`: the vote account that is initialized, and what it starts with. -/
structure VoteInitializeInfo where
  account : PubkeyRef
  vote_init : VoteInitData
deriving DecidableEq

/-- `VoteWithdrawInfo`: `lamports` go from the vote account to `to_`, under the withdraw
authority. -/
structure VoteWithdrawInfo where
  account : PubkeyRef
  authority : PubkeyRef
  to_ : PubkeyRef
  lamports : UInt64
deriving DecidableEq

/-- Which of a vote account's two authorities an instruction changes. -/
inductive VoteAuthorize
  | VoteAuthorizeVoter
  | VoteAuthorizeWithdrawer
deriving DecidableEq

/-- `VoteAuthorizeInfo`: the authority that changes, who holds it now and who shall. The
checked variant of the instruction fills the same struct. -/
structure VoteAuthorizeInfo where
  account : PubkeyRef
  authority : PubkeyRef
  new_authority : PubkeyRef
  authorize : VoteAuthorize
deriving DecidableEq

/-- `VoteUpdateValidatorIdInfo`: the identity of the validator behind a vote account is
replaced. -/
structure VoteUpdateValidatorIdInfo where
  account : PubkeyRef
  authority : PubkeyRef
  new_validator_id : PubkeyRef
deriving DecidableEq

/-- `VoteUpdateCommissionInfo`: the commission of a vote account is replaced, by the one
byte of the instruction. -/
structure VoteUpdateCommissionInfo where
  account : PubkeyRef
  authority : PubkeyRef
  commission : UInt8
deriving DecidableEq

/-- `VoteInfo`, the tagged union of the source: one constructor a kind, with the struct
that the kind fills. The two votes have none. -/
inductive VoteInfo
  | VoteInitialize (init : VoteInitializeInfo)
  | VoteWithdraw (withdraw : VoteWithdrawInfo)
  | VoteAuthorize (authorize : VoteAuthorizeInfo)
  | VoteAuthorizeChecked (authorize : VoteAuthorizeInfo)
  | VoteUpdateValidatorId (update_validator_id : VoteUpdateValidatorIdInfo)
  | VoteUpdateCommission (update_commission : VoteUpdateCommissionInfo)
  | VoteVote
  | VoteSwitchVote
deriving DecidableEq

/-- The tag of the union, on which the recognizers of `transaction_printers.c` match. -/
def VoteInfo.kind : VoteInfo → VoteInstructionKind
  | .VoteInitialize _ => .VoteInitialize
  | .VoteWithdraw _ => .VoteWithdraw
  | .VoteAuthorize _ => .VoteAuthorize
  | .VoteAuthorizeChecked _ => .VoteAuthorizeChecked
  | .VoteUpdateValidatorId _ => .VoteUpdateValidatorId
  | .VoteUpdateCommission _ => .VoteUpdateCommission
  | .VoteVote => .VoteVote
  | .VoteSwitchVote => .VoteSwitchVote

/-! ## Parsing -/

/-- The first four bytes of the data name the instruction. A tag that the `switch` does
not list fails. -/
def parse_vote_instruction_kind : ParserM VoteInstructionKind := do
  let maybe_kind ← parse_u32
  match maybe_kind.toNat with
  | 0 => return .VoteInitialize
  | 1 => return .VoteAuthorize
  | 2 => return .VoteVote
  | 3 => return .VoteWithdraw
  | 4 => return .VoteUpdateValidatorId
  | 5 => return .VoteUpdateCommission
  | 6 => return .VoteSwitchVote
  | 7 => return .VoteAuthorizeChecked
  | _ => bail

/-- The four bytes that say which authority changes: 0 the voter, 1 the withdrawer, and
nothing else. -/
def parse_vote_authorize : ParserM VoteAuthorize := do
  let maybe_authorize ← parse_u32
  match maybe_authorize.toNat with
  | 0 => return .VoteAuthorizeVoter
  | 1 => return .VoteAuthorizeWithdrawer
  | _ => bail

/-- Accounts: the vote account, the rent sysvar and the clock sysvar. The identity, the
authorities and the commission come from the data. -/
def parse_vote_initialize_instruction (instruction : Instruction) (header : MessageHeader) :
    ParserM VoteInitializeInfo :=
  with_accounts instruction header do
    let account ← next_account
    -- rent sysvar, clock sysvar
    skip_account
    skip_account
    let validator_id ← parse_pubkey
    let vote_authority ← parse_pubkey
    let withdraw_authority ← parse_pubkey
    let commission ← parse_u8
    return { account
             vote_init := { validator_id, vote_authority, withdraw_authority,
                            commission := commission.toUInt64 } }

/-- Accounts: the vote account, the recipient and the withdraw authority. The amount
comes from the data. -/
def parse_vote_withdraw_instruction (instruction : Instruction) (header : MessageHeader) :
    ParserM VoteWithdrawInfo :=
  with_accounts instruction header do
    let account ← next_account
    let to_ ← next_account
    let authority ← next_account
    let lamports ← parse_u64
    return { account, authority, to_, lamports }

/-- Accounts: the vote account, the clock sysvar and the authority. The new authority
comes from the data, before the tag that says which one it is. -/
def parse_vote_authorize_instruction (instruction : Instruction) (header : MessageHeader) :
    ParserM VoteAuthorizeInfo :=
  with_accounts instruction header do
    let account ← next_account
    -- clock sysvar
    skip_account
    let authority ← next_account
    let new_authority ← parse_pubkey
    let authorize ← parse_vote_authorize
    return { account, authority, new_authority, authorize }

/-- As `parse_vote_authorize_instruction`, except that the new authority is the fourth
account, since it has to sign too. -/
def parse_vote_authorize_checked_instruction (instruction : Instruction)
    (header : MessageHeader) : ParserM VoteAuthorizeInfo :=
  with_accounts instruction header do
    let account ← next_account
    -- clock sysvar
    skip_account
    let authority ← next_account
    let new_authority ← next_account
    let authorize ← parse_vote_authorize
    return { account, authority, new_authority, authorize }

/-- Two formats, told apart by the length of the instruction data: the new identity
is an account, or (before 1.0.8 and 1.1.3) an argument followed by a sysvar. -/
def parse_vote_update_validator_id_instruction (instruction : Instruction)
    (header : MessageHeader) : ParserM VoteUpdateValidatorIdInfo :=
  with_accounts instruction header do
    let account ← next_account
    let data_length := instruction.data.buffer.length
    if data_length = 4 then
      let new_validator_id ← next_account
      let authority ← next_account
      return { account, authority, new_validator_id }
    else if data_length = 4 + PUBKEY_SIZE then
      let new_validator_id ← parse_pubkey
      -- clock sysvar
      skip_account
      let authority ← next_account
      return { account, authority, new_validator_id }
    else
      (bail : ParserM VoteUpdateValidatorIdInfo)

/-- Accounts: the vote account and its authority. The commission is the one byte that
follows the tag. -/
def parse_vote_update_commission_instruction (instruction : Instruction)
    (header : MessageHeader) : ParserM VoteUpdateCommissionInfo :=
  with_accounts instruction header do
    let account ← next_account
    let authority ← next_account
    let commission ← parse_u8
    return { account, authority, commission }

/-- The entry point: the kind, then what the kind's own parser reads. A vote and a
switched vote are known and not supported, so they fail here. -/
def parse_vote_instructions (instruction : Instruction) (header : MessageHeader) :
    Option VoteInfo :=
  parse_instruction_data instruction do
    match ← parse_vote_instruction_kind with
    | .VoteInitialize =>
      return .VoteInitialize (← parse_vote_initialize_instruction instruction header)
    | .VoteWithdraw => return .VoteWithdraw (← parse_vote_withdraw_instruction instruction header)
    | .VoteAuthorize =>
      return .VoteAuthorize (← parse_vote_authorize_instruction instruction header)
    | .VoteAuthorizeChecked =>
      return .VoteAuthorizeChecked (← parse_vote_authorize_checked_instruction instruction header)
    | .VoteUpdateValidatorId =>
      return .VoteUpdateValidatorId
        (← parse_vote_update_validator_id_instruction instruction header)
    | .VoteUpdateCommission =>
      return .VoteUpdateCommission
        (← parse_vote_update_commission_instruction instruction header)
    | .VoteVote => bail
    | .VoteSwitchVote => bail

/-! ## Printing -/

/-- The amount is the primary item; then the two ends and, where the configuration shows
it, the authority. -/
def print_vote_withdraw_info (info : VoteWithdrawInfo) (print_config : PrintConfig) :
    SummaryM Unit := do
  summary_item_set_amount .primary "Vote withdraw" info.lamports
  summary_item_set_pubkey .general "From" info.account
  summary_item_set_pubkey .general "To" info.to_
  print_authority print_config "Authorized by" info.authority

/-- The account is the primary item. The title of the new authority tells the two kinds
apart. -/
def print_vote_authorize_info (info : VoteAuthorizeInfo) (print_config : PrintConfig) :
    SummaryM Unit := do
  summary_item_set_pubkey .primary "Set vote auth" info.account
  let new_authority_title :=
    match info.authorize with
    | .VoteAuthorizeVoter => "New vote auth"
    | .VoteAuthorizeWithdrawer => "New withdraw auth"
  summary_item_set_pubkey .general new_authority_title info.new_authority
  print_authority print_config "Authorized by" info.authority

/-- The account, the new identity and, where the configuration shows it, the authority. -/
def print_vote_update_validator_id_info (info : VoteUpdateValidatorIdInfo)
    (print_config : PrintConfig) : SummaryM Unit := do
  summary_item_set_pubkey .primary "Update validator" info.account
  summary_item_set_pubkey .general "New validator ID" info.new_validator_id
  print_authority print_config "Authorized by" info.authority

/-- The account, the new commission as a number without a sign for percent, and the
authority where the configuration shows it. -/
def print_vote_update_commission_info (info : VoteUpdateCommissionInfo)
    (print_config : PrintConfig) : SummaryM Unit := do
  summary_item_set_pubkey .primary "Update commission" info.account
  summary_item_set_u64 .general "Commission" info.commission.toUInt64
  print_authority print_config "Authorized by" info.authority

/-- The items of a new vote account. A pattern that has set its own primary item calls
it with no title. -/
def print_vote_initialize_info (primary_title : Option String) (info : VoteInitializeInfo) :
    SummaryM Unit := do
  print_primary_title primary_title info.account
  summary_item_set_pubkey .general "Validator ID" info.vote_init.validator_id
  summary_item_set_pubkey .general "New vote auth" info.vote_init.vote_authority
  summary_item_set_pubkey .general "New withdraw auth" info.vote_init.withdraw_authority
  summary_item_set_u64 .general "Commission" info.vote_init.commission

/-- One printer a kind. The checked variant prints as the unchecked one, and the two
kinds without an info return an error. -/
def print_vote_info (info : VoteInfo) (print_config : PrintConfig) : SummaryM Unit :=
  match info with
  | .VoteInitialize init => print_vote_initialize_info (some "Init vote acct") init
  | .VoteWithdraw withdraw => print_vote_withdraw_info withdraw print_config
  | .VoteAuthorize authorize => print_vote_authorize_info authorize print_config
  | .VoteAuthorizeChecked authorize => print_vote_authorize_info authorize print_config
  | .VoteUpdateValidatorId update_validator_id =>
    print_vote_update_validator_id_info update_validator_id print_config
  | .VoteUpdateCommission update_commission =>
    print_vote_update_commission_info update_commission print_config
  | .VoteVote => SummaryM.fail
  | .VoteSwitchVote => SummaryM.fail

end RenecLedger
