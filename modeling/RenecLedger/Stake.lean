/-
Stake program instructions: `librenec/stake_instruction.c`.

The checked variants share the info struct of the unchecked ones. A lockup's
custodian may be `NULL`; the invariants of `StakeLockup` and `StakeInitializeInfo`
say when it is not, which is whenever a printer shows it.
-/
import RenecLedger.System

set_option autoImplicit false

namespace RenecLedger

/-! ## Types -/

/-- The stake program's address: an instruction under this key is read by
`parse_stake_instructions` and by nothing else. -/
def stake_program_id : Pubkey :=
  ⟨[0x06, 0xa1, 0xd8, 0x17, 0x91, 0x37, 0x54, 0x2a, 0x98, 0x34, 0x37, 0xbd, 0xfe, 0x2a, 0x7a,
    0xb2, 0x55, 0x7f, 0x53, 0x5c, 0x8a, 0x78, 0x72, 0x2b, 0x68, 0xa4, 0x9d, 0xc0, 0x00, 0x00,
    0x00, 0x00], by decide⟩

/-- The instructions of the stake program, in the order of their tags. The two with a
seed are known and not supported. -/
inductive StakeInstructionKind
  | StakeInitialize
  | StakeAuthorize
  | StakeDelegate
  | StakeSplit
  | StakeWithdraw
  | StakeDeactivate
  | StakeSetLockup
  | StakeMerge
  | StakeAuthorizeWithSeed
  | StakeInitializeChecked
  | StakeAuthorizeChecked
  | StakeAuthorizeCheckedWithSeed
  | StakeSetLockupChecked
deriving DecidableEq

/-- `StakeDelegateInfo`: a stake account, the vote account its stake goes to, and the
stake authority. -/
structure StakeDelegateInfo where
  stake_pubkey : PubkeyRef
  vote_pubkey : PubkeyRef
  authorized_pubkey : PubkeyRef
deriving DecidableEq

/-- The flag word `StakeLockupPresent`, one field a bit. -/
structure StakeLockupPresent where
  has_timestamp : Bool
  has_epoch : Bool
  has_custodian : Bool
deriving DecidableEq

/-- No field of the lockup is present: what a checked initialization leaves in the
struct. -/
def StakeLockupHasNone : StakeLockupPresent := ⟨false, false, false⟩
/-- Every field of the lockup is present: an initialization passes a whole lockup. -/
def StakeLockupHasAll : StakeLockupPresent := ⟨true, true, true⟩

/-- A lockup whose custodian flag is set has a custodian. -/
structure StakeLockup where
  present : StakeLockupPresent
  unix_timestamp : Int64
  epoch : UInt64
  custodian : Option PubkeyRef
  custodian_present : present.has_custodian = true → custodian.isSome = true
deriving DecidableEq

/-- A lockup in force has a custodian. -/
structure StakeInitializeInfo where
  account : PubkeyRef
  stake_authority : PubkeyRef
  withdraw_authority : PubkeyRef
  lockup : StakeLockup
  lockup_custodian :
    lockup.unix_timestamp > 0 ∨ lockup.epoch > 0 → lockup.custodian.isSome = true
deriving DecidableEq

/-- `StakeWithdrawInfo`: `lamports` go from the stake account to `to_`, under the
withdraw authority. -/
structure StakeWithdrawInfo where
  account : PubkeyRef
  authority : PubkeyRef
  to_ : PubkeyRef
  lamports : UInt64
deriving DecidableEq

/-- Which of a stake account's two authorities an instruction changes. -/
inductive StakeAuthorize
  | StakeAuthorizeStaker
  | StakeAuthorizeWithdrawer
deriving DecidableEq

/-- `StakeAuthorizeInfo`: the authority that changes, who holds it now and who shall. A
lockup in force asks for its custodian's signature too, and the field is `NULL` without
one. -/
structure StakeAuthorizeInfo where
  account : PubkeyRef
  authority : PubkeyRef
  new_authority : PubkeyRef
  custodian : Option PubkeyRef
  authorize : StakeAuthorize
deriving DecidableEq

/-- `StakeDeactivateInfo`: the stake is taken back from its vote account. -/
structure StakeDeactivateInfo where
  account : PubkeyRef
  authority : PubkeyRef
deriving DecidableEq

/-- `StakeSetLockupInfo`: the current custodian changes some fields of the lockup, and
the others stay as they are. -/
structure StakeSetLockupInfo where
  account : PubkeyRef
  custodian : PubkeyRef
  lockup : StakeLockup
deriving DecidableEq

/-- `StakeSplitInfo`: `lamports` of a stake account move to another, which was made for
it. -/
structure StakeSplitInfo where
  account : PubkeyRef
  authority : PubkeyRef
  split_account : PubkeyRef
  lamports : UInt64
deriving DecidableEq

/-- `StakeMergeInfo`: the stake account `source` is emptied into `destination`. -/
structure StakeMergeInfo where
  destination : PubkeyRef
  source : PubkeyRef
  authority : PubkeyRef
deriving DecidableEq

/-- `StakeInfo`, the tagged union of the source: one constructor a kind, with the struct
that the kind fills. The two kinds with a seed have none. -/
inductive StakeInfo
  | StakeDelegate (delegate_stake : StakeDelegateInfo)
  | StakeInitialize (init : StakeInitializeInfo)
  | StakeInitializeChecked (init : StakeInitializeInfo)
  | StakeWithdraw (withdraw : StakeWithdrawInfo)
  | StakeAuthorize (authorize : StakeAuthorizeInfo)
  | StakeAuthorizeChecked (authorize : StakeAuthorizeInfo)
  | StakeDeactivate (deactivate : StakeDeactivateInfo)
  | StakeSetLockup (set_lockup : StakeSetLockupInfo)
  | StakeSetLockupChecked (set_lockup : StakeSetLockupInfo)
  | StakeSplit (split : StakeSplitInfo)
  | StakeMerge (merge : StakeMergeInfo)
  | StakeAuthorizeWithSeed
  | StakeAuthorizeCheckedWithSeed
deriving DecidableEq

/-- The tag of the union, on which the recognizers of `transaction_printers.c` match. -/
def StakeInfo.kind : StakeInfo → StakeInstructionKind
  | .StakeDelegate _ => .StakeDelegate
  | .StakeInitialize _ => .StakeInitialize
  | .StakeInitializeChecked _ => .StakeInitializeChecked
  | .StakeWithdraw _ => .StakeWithdraw
  | .StakeAuthorize _ => .StakeAuthorize
  | .StakeAuthorizeChecked _ => .StakeAuthorizeChecked
  | .StakeDeactivate _ => .StakeDeactivate
  | .StakeSetLockup _ => .StakeSetLockup
  | .StakeSetLockupChecked _ => .StakeSetLockupChecked
  | .StakeSplit _ => .StakeSplit
  | .StakeMerge _ => .StakeMerge
  | .StakeAuthorizeWithSeed => .StakeAuthorizeWithSeed
  | .StakeAuthorizeCheckedWithSeed => .StakeAuthorizeCheckedWithSeed

/-! ## Parsing -/

/-- The first four bytes of the data name the instruction. A tag that the `switch` does
not list fails. -/
def parse_stake_instruction_kind : ParserM StakeInstructionKind := do
  let maybe_kind ← parse_u32
  match maybe_kind.toNat with
  | 0 => return .StakeInitialize
  | 1 => return .StakeAuthorize
  | 2 => return .StakeDelegate
  | 3 => return .StakeSplit
  | 4 => return .StakeWithdraw
  | 5 => return .StakeDeactivate
  | 6 => return .StakeSetLockup
  | 7 => return .StakeMerge
  | 8 => return .StakeAuthorizeWithSeed
  | 9 => return .StakeInitializeChecked
  | 10 => return .StakeAuthorizeChecked
  | 11 => return .StakeAuthorizeCheckedWithSeed
  | 12 => return .StakeSetLockupChecked
  | _ => bail

/-- The four bytes that say which authority changes: 0 the staker, 1 the withdrawer, and
nothing else. -/
def parse_stake_authorize : ParserM StakeAuthorize := do
  let maybe_authorize ← parse_u32
  match maybe_authorize.toNat with
  | 0 => return .StakeAuthorizeStaker
  | 1 => return .StakeAuthorizeWithdrawer
  | _ => bail

/-- Accounts: the stake account, the vote account, the clock and stake history sysvars,
the stake config account and the authority. The data ends at the tag. -/
def parse_delegate_stake_instruction (instruction : Instruction) (header : MessageHeader) :
    ParserM StakeDelegateInfo :=
  with_accounts instruction header do
    let stake_pubkey ← next_account
    let vote_pubkey ← next_account
    -- clock sysvar, stake history sysvar, stake config account
    skip_account
    skip_account
    skip_account
    let authorized_pubkey ← next_account
    return { stake_pubkey, vote_pubkey, authorized_pubkey }

/-- Accounts: the stake account and the rent sysvar. The two authorities and the lockup
come from the data. -/
def parse_stake_initialize_instruction (instruction : Instruction) (header : MessageHeader) :
    ParserM StakeInitializeInfo :=
  with_accounts instruction header do
    let account ← next_account
    -- rent sysvar
    skip_account
    let stake_authority ← parse_pubkey
    let withdraw_authority ← parse_pubkey
    let unix_timestamp ← parse_i64
    let epoch ← parse_u64
    let custodian ← parse_pubkey
    return { account, stake_authority, withdraw_authority
             lockup := { present := StakeLockupHasAll, unix_timestamp, epoch,
                         custodian := some custodian, custodian_present := fun _ => rfl }
             lockup_custodian := fun _ => rfl }

/-- No lockup on checked instructions: the info struct was cleared before the call. -/
def parse_stake_initialize_checked_instruction (instruction : Instruction)
    (header : MessageHeader) : ParserM StakeInitializeInfo :=
  with_accounts instruction header do
    let account ← next_account
    -- rent sysvar
    skip_account
    let stake_authority ← next_account
    let withdraw_authority ← next_account
    return { account, stake_authority, withdraw_authority
             lockup := { present := StakeLockupHasNone, unix_timestamp := 0, epoch := 0,
                         custodian := none, custodian_present := by decide }
             lockup_custodian := by decide }

/-- Accounts: the stake account, the recipient, the clock and stake history sysvars and
the withdraw authority. The amount comes from the data. -/
def parse_stake_withdraw_instruction (instruction : Instruction) (header : MessageHeader) :
    ParserM StakeWithdrawInfo :=
  with_accounts instruction header do
    let account ← next_account
    let to_ ← next_account
    -- clock sysvar, stake history sysvar
    skip_account
    skip_account
    let authority ← next_account
    let lamports ← parse_u64
    return { account, authority, to_, lamports }

/-- Accounts: the stake account, the clock sysvar, the authority and perhaps a
custodian. The iterator's return code is ignored for the last, so a list that ends early
is accepted. -/
def parse_stake_authorize_instruction (instruction : Instruction) (header : MessageHeader) :
    ParserM StakeAuthorizeInfo :=
  with_accounts instruction header do
    let account ← next_account
    -- clock sysvar
    skip_account
    let authority ← next_account
    let custodian ← optional_account
    let new_authority ← parse_pubkey
    let authorize ← parse_stake_authorize
    return { account, authority, new_authority, custodian, authorize }

/-- As `parse_stake_authorize_instruction`, except that the new authority is the account
before the custodian, since it has to sign too. -/
def parse_stake_authorize_checked_instruction (instruction : Instruction)
    (header : MessageHeader) : ParserM StakeAuthorizeInfo :=
  with_accounts instruction header do
    let account ← next_account
    -- clock sysvar
    skip_account
    let authority ← next_account
    let new_authority ← next_account
    let custodian ← optional_account
    let authorize ← parse_stake_authorize
    return { account, authority, new_authority, custodian, authorize }

/-- Accounts: the stake account, the clock sysvar and the authority. The data ends at
the tag. -/
def parse_stake_deactivate_instruction (instruction : Instruction) (header : MessageHeader) :
    ParserM StakeDeactivateInfo :=
  with_accounts instruction header do
    let account ← next_account
    -- clock sysvar
    skip_account
    let authority ← next_account
    return { account, authority }

/-- Three optional fields, each a flag byte and then the value if the flag is set. The
checked instruction passes no custodian here. A field that is left out keeps the zero of
the cleared struct. -/
def parse_stake_lockupargs (parse_custodian : Bool) : ParserM StakeLockup := do
  let unix_timestamp ← parse_optional parse_i64
  let epoch ← parse_optional parse_u64
  let custodian ← if parse_custodian then parse_optional parse_pubkey else pure none
  return { present := ⟨unix_timestamp.isSome, epoch.isSome, custodian.isSome⟩
           unix_timestamp := unix_timestamp.getD 0
           epoch := epoch.getD 0
           custodian
           custodian_present := id }

/-- Accounts: the stake account and its custodian. The new fields come from the data. -/
def parse_stake_set_lockup_instruction (instruction : Instruction) (header : MessageHeader) :
    ParserM StakeSetLockupInfo :=
  with_accounts instruction header do
    let account ← next_account
    let custodian ← next_account
    let lockup ← parse_stake_lockupargs true
    return { account, custodian, lockup }

/-- Accounts: the stake account, its custodian and perhaps the new custodian, which sets
the custodian's flag when it is there. -/
def parse_stake_set_lockup_checked_instruction (instruction : Instruction)
    (header : MessageHeader) : ParserM StakeSetLockupInfo :=
  with_accounts instruction header do
    let account ← next_account
    let custodian ← next_account
    let lockup ← parse_stake_lockupargs false
    match ← optional_account with
    | some new_custodian =>
      return { account, custodian
               lockup := { lockup with
                 present := { lockup.present with has_custodian := true }
                 custodian := some new_custodian
                 custodian_present := fun _ => rfl } }
    | none => return { account, custodian, lockup }

/-- Accounts: the stake account, the account split off and the authority. The amount
comes from the data. -/
def parse_stake_split_instruction (instruction : Instruction) (header : MessageHeader) :
    ParserM StakeSplitInfo :=
  with_accounts instruction header do
    let account ← next_account
    let split_account ← next_account
    let authority ← next_account
    let lamports ← parse_u64
    return { account, authority, split_account, lamports }

/-- Accounts: the destination, the source, the clock and stake history sysvars and the
authority. The data ends at the tag. -/
def parse_stake_merge_instruction (instruction : Instruction) (header : MessageHeader) :
    ParserM StakeMergeInfo :=
  with_accounts instruction header do
    let destination ← next_account
    let source ← next_account
    -- clock sysvar, stake history sysvar
    skip_account
    skip_account
    let authority ← next_account
    return { destination, source, authority }

/-- The entry point: the kind, then what the kind's own parser reads. The two kinds with
a seed fail here. -/
def parse_stake_instructions (instruction : Instruction) (header : MessageHeader) :
    Option StakeInfo :=
  parse_instruction_data instruction do
    match ← parse_stake_instruction_kind with
    | .StakeDelegate =>
      return .StakeDelegate (← parse_delegate_stake_instruction instruction header)
    | .StakeInitialize =>
      return .StakeInitialize (← parse_stake_initialize_instruction instruction header)
    | .StakeInitializeChecked =>
      return .StakeInitializeChecked
        (← parse_stake_initialize_checked_instruction instruction header)
    | .StakeWithdraw =>
      return .StakeWithdraw (← parse_stake_withdraw_instruction instruction header)
    | .StakeAuthorize =>
      return .StakeAuthorize (← parse_stake_authorize_instruction instruction header)
    | .StakeAuthorizeChecked =>
      return .StakeAuthorizeChecked
        (← parse_stake_authorize_checked_instruction instruction header)
    | .StakeDeactivate =>
      return .StakeDeactivate (← parse_stake_deactivate_instruction instruction header)
    | .StakeSetLockup =>
      return .StakeSetLockup (← parse_stake_set_lockup_instruction instruction header)
    | .StakeSetLockupChecked =>
      return .StakeSetLockupChecked
        (← parse_stake_set_lockup_checked_instruction instruction header)
    | .StakeSplit => return .StakeSplit (← parse_stake_split_instruction instruction header)
    | .StakeMerge => return .StakeMerge (← parse_stake_merge_instruction instruction header)
    | .StakeAuthorizeWithSeed => bail
    | .StakeAuthorizeCheckedWithSeed => bail

/-! ## Printing -/

/-- The items of a delegation. A pattern that has set its own primary item calls it with
no title. -/
def print_delegate_stake_info (primary_title : Option String) (info : StakeDelegateInfo)
    (print_config : PrintConfig) : SummaryM Unit := do
  print_primary_title primary_title info.stake_pubkey
  print_authority print_config "Authorized by" info.authorized_pubkey
  summary_item_set_pubkey .general "Vote account" info.vote_pubkey

/-- The amount is the primary item; then the two ends and, where the configuration shows
it, the authority. -/
def print_stake_withdraw_info (info : StakeWithdrawInfo) (print_config : PrintConfig) :
    SummaryM Unit := do
  summary_item_set_amount .primary "Stake withdraw" info.lamports
  summary_item_set_pubkey .general "From" info.account
  summary_item_set_pubkey .general "To" info.to_
  print_authority print_config "Authorized by" info.authority

/-- The account is the primary item, and the new authority's title tells the two kinds
apart. A custodian is shown on the same terms as the authority. -/
def print_stake_authorize_info (info : StakeAuthorizeInfo) (print_config : PrintConfig) :
    SummaryM Unit := do
  summary_item_set_pubkey .primary "Set stake auth" info.account
  let new_authority_title :=
    match info.authorize with
    | .StakeAuthorizeStaker => "New stake auth"
    | .StakeAuthorizeWithdrawer => "New withdraw auth"
  summary_item_set_pubkey .general new_authority_title info.new_authority
  print_authority print_config "Authorized by" info.authority
  SummaryM.if_set info.custodian fun custodian =>
    print_authority print_config "Custodian" custodian

/-- The account and, where the configuration shows it, the authority. -/
def print_stake_deactivate_info (info : StakeDeactivateInfo) (print_config : PrintConfig) :
    SummaryM Unit := do
  summary_item_set_pubkey .primary "Deactivate stake" info.account
  print_authority print_config "Authorized by" info.authority

/-- One item for each field the instruction changes. The title of the new custodian is
the source's, which says authority. -/
def print_stake_set_lockup_info (info : StakeSetLockupInfo) (print_config : PrintConfig) :
    SummaryM Unit := do
  summary_item_set_pubkey .primary "Set lockup" info.account
  if info.lockup.present.has_timestamp then
    summary_item_set_timestamp .general "Time" info.lockup.unix_timestamp
  if info.lockup.present.has_epoch then
    summary_item_set_u64 .general "Epoch" info.lockup.epoch
  if h : info.lockup.present.has_custodian then
    summary_item_set_pubkey .general "New authority"
      (info.lockup.custodian.get (info.lockup.custodian_present h))
  print_authority print_config "Authorized by" info.custodian

/-- One item for the two authorities when they are equal, then the lockup if it is in
force. Only expert mode says that there is none. -/
def print_stake_initialize_info (primary_title : Option String) (info : StakeInitializeInfo)
    (print_config : PrintConfig) : SummaryM Unit := do
  let one_authority := pubkeys_equal info.withdraw_authority info.stake_authority
  print_primary_title primary_title info.account
  if one_authority then
    summary_item_set_pubkey .general "New authority" info.stake_authority
  else
    summary_item_set_pubkey .general "New stake auth" info.stake_authority
    summary_item_set_pubkey .general "New withdraw auth" info.withdraw_authority
  let lockup_time := info.lockup.unix_timestamp
  let lockup_epoch := info.lockup.epoch
  if h : lockup_time > 0 ∨ lockup_epoch > 0 then
    if lockup_time > 0 then
      summary_item_set_timestamp .general "Lockup time" lockup_time
    if lockup_epoch > 0 then
      summary_item_set_u64 .general "Lockup epoch" lockup_epoch
    summary_item_set_pubkey .general "Lockup authority"
      (info.lockup.custodian.get (info.lockup_custodian h))
  else if print_config.expert_mode then
    summary_item_set_string .general "Lockup" "None"

/-- The part of a split that its patterns print too: the amount and the two accounts. -/
def print_stake_split_info1 (info : StakeSplitInfo) : SummaryM Unit := do
  summary_item_set_amount .primary "Split stake" info.lamports
  summary_item_set_pubkey .general "From" info.account
  summary_item_set_pubkey .general "To" info.split_account

/-- The part of a split that stands at its end: the authority. -/
def print_stake_split_info2 (info : StakeSplitInfo) (print_config : PrintConfig) :
    SummaryM Unit :=
  print_authority print_config "Authorized by" info.authority

/-- A split on its own prints both parts, with nothing between them. -/
def print_stake_split_info (info : StakeSplitInfo) (print_config : PrintConfig) :
    SummaryM Unit := do
  print_stake_split_info1 info
  print_stake_split_info2 info print_config

/-- The source is the primary item: that account is gone afterwards. -/
def print_stake_merge_info (info : StakeMergeInfo) (print_config : PrintConfig) :
    SummaryM Unit := do
  summary_item_set_pubkey .primary "Merge" info.source
  summary_item_set_pubkey .general "Into" info.destination
  print_authority print_config "Authorized by" info.authority

/-- One printer a kind. A checked variant prints as the unchecked one, and the two kinds
without an info return an error. -/
def print_stake_info (info : StakeInfo) (print_config : PrintConfig) : SummaryM Unit :=
  match info with
  | .StakeDelegate delegate_stake =>
    print_delegate_stake_info (some "Delegate from") delegate_stake print_config
  | .StakeInitialize init =>
    print_stake_initialize_info (some "Init stake acct") init print_config
  | .StakeInitializeChecked init =>
    print_stake_initialize_info (some "Init stake acct") init print_config
  | .StakeWithdraw withdraw => print_stake_withdraw_info withdraw print_config
  | .StakeAuthorize authorize => print_stake_authorize_info authorize print_config
  | .StakeAuthorizeChecked authorize => print_stake_authorize_info authorize print_config
  | .StakeDeactivate deactivate => print_stake_deactivate_info deactivate print_config
  | .StakeSetLockup set_lockup => print_stake_set_lockup_info set_lockup print_config
  | .StakeSetLockupChecked set_lockup => print_stake_set_lockup_info set_lockup print_config
  | .StakeSplit split => print_stake_split_info split print_config
  | .StakeMerge merge => print_stake_merge_info merge print_config
  | .StakeAuthorizeWithSeed => SummaryM.fail
  | .StakeAuthorizeCheckedWithSeed => SummaryM.fail

end RenecLedger
