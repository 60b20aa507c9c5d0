/-
RPL token program instructions: `librenec/rpl_token_instruction.c`, the token
symbols of `librenec/token_info.c`, and the associated token account program of
`librenec/rpl_associated_token_account_instruction.c`.

The unchecked token instructions are deprecated: their tags are known, and
rejected while the tag is parsed.
-/
import RenecLedger.System

set_option autoImplicit false

namespace RenecLedger

/-! ## Types -/

/-- The token program's address. The source lists this key in `token_infos` too, as the
mint of the wrapped native token. -/
def rpl_token_program_id : Pubkey :=
  ⟨[0x06, 0xdd, 0xf6, 0xe1, 0xd7, 0x65, 0xa1, 0x93, 0xd9, 0xcb, 0xe1, 0x46, 0xce, 0xeb, 0x79,
    0xac, 0x1c, 0xb4, 0x85, 0xed, 0x5f, 0x5b, 0x37, 0x91, 0x3a, 0x8c, 0xf5, 0x85, 0x7e, 0xff,
    0x00, 0xa9], by decide⟩

/-- `Token_MAX_SIGNERS`. -/
def Token_MAX_SIGNERS : ℕ := 11

/-- The instructions of the token program, in the order of their tags. The four that
move tokens and name no mint are deprecated. -/
inductive RplTokenInstructionKind
  | InitializeMint
  | InitializeAccount
  | InitializeMultisig
  | Transfer
  | Approve
  | Revoke
  | SetAuthority
  | MintTo
  | Burn
  | CloseAccount
  | FreezeAccount
  | ThawAccount
  | TransferChecked
  | ApproveChecked
  | MintToChecked
  | BurnChecked
  | InitializeAccount2
  | SyncNative
deriving DecidableEq

/-- `RplTokenMultisigners`: where the signers begin in the table of keys, and how many
there are. Only the count is ever printed, so the pointer to the first one is never
followed. -/
structure RplTokenMultisigners where
  first : PubkeyRef
  count : UInt8
deriving DecidableEq

/-- The owner of a token account: a single signer, or a multisig account. -/
inductive RplTokenSign
  | RplTokenSignKindSingle (signer : PubkeyRef)
  | RplTokenSignKindMulti (account : PubkeyRef) (signers : RplTokenMultisigners)
deriving DecidableEq

/-- Which authority of a mint or an account an instruction changes. -/
inductive Token_AuthorityType
  | MintTokens
  | FreezeAccount
  | AccountOwner
  | CloseAccount
deriving DecidableEq

/-- `RplTokenInitializeMintInfo`: a new mint with its authorities and decimals. A mint
may have no freeze authority. -/
structure RplTokenInitializeMintInfo where
  mint_account : PubkeyRef
  mint_authority : PubkeyRef
  freeze_authority : Option PubkeyRef
  decimals : UInt8
deriving DecidableEq

/-- `RplTokenInitializeAccountInfo`: a new account of a mint. Both variants of the
instruction fill it, from the accounts or from the data. -/
structure RplTokenInitializeAccountInfo where
  token_account : PubkeyRef
  mint_account : PubkeyRef
  owner : PubkeyRef
deriving DecidableEq

/-- `RplTokenInitializeMultisigInfo`: a new multisig, of which `m` signers are needed. -/
structure RplTokenInitializeMultisigInfo where
  multisig_account : PubkeyRef
  signers : RplTokenMultisigners
  m : UInt8
deriving DecidableEq

/-- The body of the checked instructions that move tokens. -/
structure RplTokenAmountBody where
  amount : UInt64
  decimals : UInt8
deriving DecidableEq

/-- `RplTokenTransferInfo`: tokens of a mint go from one account to another. -/
structure RplTokenTransferInfo where
  src_account : PubkeyRef
  dest_account : PubkeyRef
  mint_account : PubkeyRef
  sign : RplTokenSign
  body : RplTokenAmountBody
deriving DecidableEq

/-- `RplTokenApproveInfo`: a delegate may spend an amount from a token account. -/
structure RplTokenApproveInfo where
  token_account : PubkeyRef
  delegate : PubkeyRef
  mint_account : PubkeyRef
  sign : RplTokenSign
  body : RplTokenAmountBody
deriving DecidableEq

/-- `RplTokenRevokeInfo`: a token account has no delegate any more. -/
structure RplTokenRevokeInfo where
  token_account : PubkeyRef
  sign : RplTokenSign
deriving DecidableEq

/-- `RplTokenSetAuthorityInfo`: an authority is replaced, or cleared when there is no
new one. -/
structure RplTokenSetAuthorityInfo where
  account : PubkeyRef
  new_authority : Option PubkeyRef
  authority_type : Token_AuthorityType
  sign : RplTokenSign
deriving DecidableEq

/-- `RplTokenMintToInfo`: new tokens of a mint go to an account. -/
structure RplTokenMintToInfo where
  mint_account : PubkeyRef
  token_account : PubkeyRef
  sign : RplTokenSign
  body : RplTokenAmountBody
deriving DecidableEq

/-- `RplTokenBurnInfo`: tokens of an account cease to be. -/
structure RplTokenBurnInfo where
  token_account : PubkeyRef
  mint_account : PubkeyRef
  sign : RplTokenSign
  body : RplTokenAmountBody
deriving DecidableEq

/-- `RplTokenCloseAccountInfo`: the balance of a closed account goes to another one. -/
structure RplTokenCloseAccountInfo where
  token_account : PubkeyRef
  dest_account : PubkeyRef
  sign : RplTokenSign
deriving DecidableEq

/-- `RplTokenFreezeAccountInfo`: an account of a mint can no longer be used. -/
structure RplTokenFreezeAccountInfo where
  token_account : PubkeyRef
  mint_account : PubkeyRef
  sign : RplTokenSign
deriving DecidableEq

/-- `RplTokenThawAccountInfo`: a frozen account can be used again. -/
structure RplTokenThawAccountInfo where
  token_account : PubkeyRef
  mint_account : PubkeyRef
  sign : RplTokenSign
deriving DecidableEq

/-- `RplTokenSyncNativeInfo`: a wrapped balance is brought up to date. The instruction
names no authority. -/
structure RplTokenSyncNativeInfo where
  token_account : PubkeyRef
deriving DecidableEq

/-- `RplTokenInfo`, the tagged union of the source: one constructor a kind, with the
struct that the kind fills. The deprecated kinds have none, because no parse function
returns them. -/
inductive RplTokenInfo
  | InitializeMint (initialize_mint : RplTokenInitializeMintInfo)
  | InitializeAccount (initialize_account : RplTokenInitializeAccountInfo)
  | InitializeAccount2 (initialize_account : RplTokenInitializeAccountInfo)
  | InitializeMultisig (initialize_multisig : RplTokenInitializeMultisigInfo)
  | Revoke (revoke : RplTokenRevokeInfo)
  | SetAuthority (set_owner : RplTokenSetAuthorityInfo)
  | CloseAccount (close_account : RplTokenCloseAccountInfo)
  | FreezeAccount (freeze_account : RplTokenFreezeAccountInfo)
  | ThawAccount (thaw_account : RplTokenThawAccountInfo)
  | TransferChecked (transfer : RplTokenTransferInfo)
  | ApproveChecked (approve : RplTokenApproveInfo)
  | MintToChecked (mint_to : RplTokenMintToInfo)
  | BurnChecked (burn : RplTokenBurnInfo)
  | SyncNative (sync_native : RplTokenSyncNativeInfo)
  | Transfer
  | Approve
  | MintTo
  | Burn
deriving DecidableEq

/-- The tag of the union, on which the recognizers of `transaction_printers.c` match. -/
def RplTokenInfo.kind : RplTokenInfo → RplTokenInstructionKind
  | .InitializeMint _ => .InitializeMint
  | .InitializeAccount _ => .InitializeAccount
  | .InitializeAccount2 _ => .InitializeAccount2
  | .InitializeMultisig _ => .InitializeMultisig
  | .Revoke _ => .Revoke
  | .SetAuthority _ => .SetAuthority
  | .CloseAccount _ => .CloseAccount
  | .FreezeAccount _ => .FreezeAccount
  | .ThawAccount _ => .ThawAccount
  | .TransferChecked _ => .TransferChecked
  | .ApproveChecked _ => .ApproveChecked
  | .MintToChecked _ => .MintToChecked
  | .BurnChecked _ => .BurnChecked
  | .SyncNative _ => .SyncNative
  | .Transfer => .Transfer
  | .Approve => .Approve
  | .MintTo => .MintTo
  | .Burn => .Burn

/-! ## Parsing -/

/-- The first byte of the data names the instruction, where the other programs have
four. The deprecated tags fail here, before any account is looked at. -/
def parse_rpl_token_instruction_kind : ParserM RplTokenInstructionKind := do
  let maybe_kind ← parse_u8
  match maybe_kind.toNat with
  | 0 => return .InitializeMint
  | 1 => return .InitializeAccount
  | 16 => return .InitializeAccount2
  | 2 => return .InitializeMultisig
  | 12 => return .TransferChecked
  | 13 => return .ApproveChecked
  | 5 => return .Revoke
  | 6 => return .SetAuthority
  | 14 => return .MintToChecked
  | 15 => return .BurnChecked
  | 9 => return .CloseAccount
  | 10 => return .FreezeAccount
  | 11 => return .ThawAccount
  | 17 => return .SyncNative
  -- the deprecated tags 3, 4, 7, 8 and the unknown ones
  | _ => bail

/-- The decimals, the authority and the optional freeze authority come from the data;
accounts: the mint and the rent sysvar. -/
def parse_initialize_mint_rpl_token_instruction (instruction : Instruction)
    (header : MessageHeader) : ParserM RplTokenInitializeMintInfo :=
  with_accounts instruction header do
    let decimals ← parse_u8
    let mint_authority ← parse_pubkey
    let freeze_authority ← parse_optional parse_pubkey
    let mint_account ← next_account
    -- rent sysvar
    skip_account
    return { mint_account, mint_authority, freeze_authority, decimals }

/-- Accounts: the new account, its mint and the rent sysvar. The owner is the third
account of exactly four, or comes from the data, as the caller says. -/
def parse_initialize_account_rpl_token_instruction (instruction : Instruction)
    (header : MessageHeader) (expect_owner_in_accounts : Bool) :
    ParserM RplTokenInitializeAccountInfo :=
  with_accounts instruction header do
    if expect_owner_in_accounts then
      bail_if (instruction.accounts.length ≠ 4)
      let token_account ← next_account
      let mint_account ← next_account
      let owner ← next_account
      -- rent sysvar
      skip_account
      return { token_account, mint_account, owner }
    else
      let token_account ← next_account
      let mint_account ← next_account
      -- rent sysvar
      skip_account
      let owner ← parse_pubkey
      return { token_account, mint_account, owner }

/-- The accounts that are left are the signers: at most eleven, and at least one since
the first is taken. The others are counted and not visited. -/
def parse_rpl_token_multisigners : InstructionM RplTokenMultisigners := do
  let n ← remaining_accounts
  bail_if (n > Token_MAX_SIGNERS)
  let first ← next_account
  return { first, count := UInt8.ofNat n }

/-- The number of signers needed is the byte behind the tag; accounts: the multisig, the
rent sysvar and the signers. Whether enough signers are listed is not checked here. -/
def parse_initialize_multisig_rpl_token_instruction (instruction : Instruction)
    (header : MessageHeader) : ParserM RplTokenInitializeMultisigInfo :=
  with_accounts instruction header do
    let m ← parse_u8
    bail_if (m.toNat > Token_MAX_SIGNERS)
    let multisig_account ← next_account
    -- rent sysvar
    skip_account
    let signers ← parse_rpl_token_multisigners
    return { multisig_account, signers, m }

/-- The accounts that are left say who signs: one is a single owner, more are a multisig
account and its signers, and none is an error. Nothing in the data tells the two apart. -/
def parse_rpl_token_sign : InstructionM RplTokenSign := do
  let n ← remaining_accounts
  bail_if (n = 0)
  if n = 1 then
    return .RplTokenSignKindSingle (← next_account)
  else
    let account ← next_account
    let signers ← parse_rpl_token_multisigners
    return .RplTokenSignKindMulti account signers

/-- The amount and the decimals, the body of every checked instruction. -/
def parse_rpl_token_amount_body : ParserM RplTokenAmountBody := do
  let amount ← parse_u64
  let decimals ← parse_u8
  return { amount, decimals }

/-- The body, then the accounts: the source, the mint, the destination and those who
sign. -/
def parse_transfer_rpl_token_instruction (instruction : Instruction) (header : MessageHeader) :
    ParserM RplTokenTransferInfo :=
  with_accounts instruction header do
    let body ← parse_rpl_token_amount_body
    let src_account ← next_account
    let mint_account ← next_account
    let dest_account ← next_account
    let sign ← parse_rpl_token_sign
    return { src_account, dest_account, mint_account, sign, body }

/-- The body, then the accounts: the source, the mint, the delegate and those who sign. -/
def parse_approve_rpl_token_instruction (instruction : Instruction) (header : MessageHeader) :
    ParserM RplTokenApproveInfo :=
  with_accounts instruction header do
    let body ← parse_rpl_token_amount_body
    let token_account ← next_account
    let mint_account ← next_account
    let delegate ← next_account
    let sign ← parse_rpl_token_sign
    return { token_account, delegate, mint_account, sign, body }

/-- Accounts: the token account and those who sign. The data ends at the tag. -/
def parse_revoke_rpl_token_instruction (instruction : Instruction) (header : MessageHeader) :
    ParserM RplTokenRevokeInfo :=
  with_accounts instruction header do
    let token_account ← next_account
    let sign ← parse_rpl_token_sign
    return { token_account, sign }

/-- The byte that says which authority changes; a byte above 3 fails. -/
def parse_token_authority_type : ParserM Token_AuthorityType := do
  let maybe_type ← parse_u8
  match maybe_type.toNat with
  | 0 => return .MintTokens
  | 1 => return .FreezeAccount
  | 2 => return .AccountOwner
  | 3 => return .CloseAccount
  | _ => bail

/-- The text shown for an authority type. -/
def stringify_token_authority_type : Token_AuthorityType → String
  | .MintTokens => "Mint tokens"
  | .FreezeAccount => "Freeze account"
  | .AccountOwner => "Owner"
  | .CloseAccount => "Close acct"

/-- The type and the optional new authority come from the data, between the account and
those who sign. -/
def parse_set_authority_rpl_token_instruction (instruction : Instruction)
    (header : MessageHeader) : ParserM RplTokenSetAuthorityInfo :=
  with_accounts instruction header do
    let account ← next_account
    let authority_type ← parse_token_authority_type
    let new_authority ← parse_optional parse_pubkey
    let sign ← parse_rpl_token_sign
    return { account, new_authority, authority_type, sign }

/-- The body, then the accounts: the mint, the account that receives and those who sign. -/
def parse_mint_to_rpl_token_instruction (instruction : Instruction) (header : MessageHeader) :
    ParserM RplTokenMintToInfo :=
  with_accounts instruction header do
    let body ← parse_rpl_token_amount_body
    let mint_account ← next_account
    let token_account ← next_account
    let sign ← parse_rpl_token_sign
    return { mint_account, token_account, sign, body }

/-- The body, then the accounts: the account that loses the tokens, its mint and those
who sign. -/
def parse_burn_rpl_token_instruction (instruction : Instruction) (header : MessageHeader) :
    ParserM RplTokenBurnInfo :=
  with_accounts instruction header do
    let body ← parse_rpl_token_amount_body
    let token_account ← next_account
    let mint_account ← next_account
    let sign ← parse_rpl_token_sign
    return { token_account, mint_account, sign, body }

/-- Accounts: the account, the one that gets its balance and those who sign. -/
def parse_close_account_rpl_token_instruction (instruction : Instruction)
    (header : MessageHeader) : ParserM RplTokenCloseAccountInfo :=
  with_accounts instruction header do
    let token_account ← next_account
    let dest_account ← next_account
    let sign ← parse_rpl_token_sign
    return { token_account, dest_account, sign }

/-- Accounts: the account, its mint and those who sign. -/
def parse_freeze_account_rpl_token_instruction (instruction : Instruction)
    (header : MessageHeader) : ParserM RplTokenFreezeAccountInfo :=
  with_accounts instruction header do
    let token_account ← next_account
    let mint_account ← next_account
    let sign ← parse_rpl_token_sign
    return { token_account, mint_account, sign }

/-- Accounts: the account, its mint and those who sign, as for freezing it. -/
def parse_thaw_account_rpl_token_instruction (instruction : Instruction)
    (header : MessageHeader) : ParserM RplTokenThawAccountInfo :=
  with_accounts instruction header do
    let token_account ← next_account
    let mint_account ← next_account
    let sign ← parse_rpl_token_sign
    return { token_account, mint_account, sign }

/-- One account, and nobody signs. -/
def parse_sync_native_rpl_token_instruction (instruction : Instruction)
    (header : MessageHeader) : ParserM RplTokenSyncNativeInfo :=
  with_accounts instruction header do
    let token_account ← next_account
    return { token_account }

/-- The entry point: the kind, then what the kind's own parser reads. The deprecated
kinds are refused once more, though their tags never come this far. -/
def parse_rpl_token_instructions (instruction : Instruction) (header : MessageHeader) :
    Option RplTokenInfo :=
  parse_instruction_data instruction do
    match ← parse_rpl_token_instruction_kind with
    | .InitializeMint =>
      return .InitializeMint (← parse_initialize_mint_rpl_token_instruction instruction header)
    | .InitializeAccount =>
      return .InitializeAccount
        (← parse_initialize_account_rpl_token_instruction instruction header true)
    | .InitializeAccount2 =>
      return .InitializeAccount2
        (← parse_initialize_account_rpl_token_instruction instruction header false)
    | .InitializeMultisig =>
      return .InitializeMultisig
        (← parse_initialize_multisig_rpl_token_instruction instruction header)
    | .Revoke => return .Revoke (← parse_revoke_rpl_token_instruction instruction header)
    | .SetAuthority =>
      return .SetAuthority (← parse_set_authority_rpl_token_instruction instruction header)
    | .CloseAccount =>
      return .CloseAccount (← parse_close_account_rpl_token_instruction instruction header)
    | .FreezeAccount =>
      return .FreezeAccount (← parse_freeze_account_rpl_token_instruction instruction header)
    | .ThawAccount =>
      return .ThawAccount (← parse_thaw_account_rpl_token_instruction instruction header)
    | .TransferChecked =>
      return .TransferChecked (← parse_transfer_rpl_token_instruction instruction header)
    | .ApproveChecked =>
      return .ApproveChecked (← parse_approve_rpl_token_instruction instruction header)
    | .MintToChecked =>
      return .MintToChecked (← parse_mint_to_rpl_token_instruction instruction header)
    | .BurnChecked => return .BurnChecked (← parse_burn_rpl_token_instruction instruction header)
    | .SyncNative =>
      return .SyncNative (← parse_sync_native_rpl_token_instruction instruction header)
    | .Transfer => bail
    | .Approve => bail
    | .MintTo => bail
    | .Burn => bail

/-! ## Token symbols -/

/-- `token_infos`: mint addresses and their symbols. -/
def token_infos : List (Pubkey × String) := [(rpl_token_program_id, "WRENEC")]

/-- The symbol of a mint, or three question marks for a mint that the table does not
list. The table has a single entry, so for nearly all mints the symbol says nothing. -/
def get_token_symbol (mint_address : PubkeyRef) : String :=
  match token_infos.find? (fun ti => ti.1 = mint_address.key) with
  | some ti => ti.2
  | none => "???"

/-! ## Printing -/

/-- A single owner is shown as an authority is. A multisig is shown always, with the
number of its signers and not their keys. -/
def print_rpl_token_sign (sign : RplTokenSign) (print_config : PrintConfig) : SummaryM Unit :=
  match sign with
  | .RplTokenSignKindSingle signer => print_authority print_config "Owner" signer
  | .RplTokenSignKindMulti account signers => do
    summary_item_set_pubkey .general "Owner" account
    summary_item_set_u64 .general "Signers" signers.count.toUInt64

/-- Room for `11 of 11` and its terminator. -/
def M_OF_N_MAX_LEN : ℕ := 9

/-- The digits that `print_m_of_n_string` writes for a count of at most 11. -/
def print_m_of_n_count (n : UInt8) : String :=
  (if n > 9 then "1" else "") ++ String.singleton (Char.ofNat (48 + n.toNat % 10))

/-- Fails, with nothing printed, when `n` is above the number of signers a multisig can
have, or when more signers are required than there are. Both numbers are bytes, and so
is their comparison. -/
def print_m_of_n_string (m n : UInt8) (buflen : ℕ) : Option String :=
  if n.toNat > Token_MAX_SIGNERS then none
  else if m > n then none
  else if buflen < M_OF_N_MAX_LEN then none
  else some (print_m_of_n_count m ++ " of " ++ print_m_of_n_count n)

/-- When the text cannot be printed, the item is not set, and the printer goes on: the
threshold is then missing from the review. -/
def summary_item_set_multisig_m_of_n (slot : SummarySlot) (m n : UInt8) : SummaryM Unit :=
  SummaryM.if_set (print_m_of_n_string m n M_OF_N_MAX_LEN) fun m_of_n =>
    summary_item_set_string slot "Required signers" m_of_n

/-- The items of a new mint; a missing freeze authority has no item. -/
def print_rpl_token_initialize_mint_info (primary_title : Option String)
    (info : RplTokenInitializeMintInfo) : SummaryM Unit := do
  print_primary_title primary_title info.mint_account
  summary_item_set_pubkey .general "Mint authority" info.mint_authority
  summary_item_set_u64 .general "Decimals" info.decimals.toUInt64
  SummaryM.if_set info.freeze_authority fun freeze_authority =>
    summary_item_set_pubkey .general "Freeze authority" freeze_authority

/-- The items of a new token account: the account, its owner and its mint. -/
def print_rpl_token_initialize_account_info (primary_title : Option String)
    (info : RplTokenInitializeAccountInfo) : SummaryM Unit := do
  print_primary_title primary_title info.token_account
  summary_item_set_pubkey .general "Owner" info.owner
  summary_item_set_pubkey .general "Mint" info.mint_account

/-- The items of a new multisig: the account, and how many of its signers are needed. -/
def print_rpl_token_initialize_multisig_info (primary_title : Option String)
    (info : RplTokenInitializeMultisigInfo) : SummaryM Unit := do
  print_primary_title primary_title info.multisig_account
  summary_item_set_multisig_m_of_n .general info.m info.signers.count

/-- The amount is the primary item, or a general one when the transfer is the second
half of a pattern. Those who sign come last, and their return code is ignored. The
symbol is that of the mint the instruction names. -/
def print_rpl_token_transfer_info (info : RplTokenTransferInfo) (print_config : PrintConfig)
    (primary : Bool) : SummaryM Unit := do
  let item := if primary then SummarySlot.primary else SummarySlot.general
  let symbol := get_token_symbol info.mint_account
  summary_item_set_token_amount item "Transfer tokens" info.body.amount symbol info.body.decimals
  summary_item_set_pubkey .general "From" info.src_account
  summary_item_set_pubkey .general "To" info.dest_account
  (print_rpl_token_sign info.sign print_config).ignore_rc

/-- The delegate is the primary item; then the allowance, the account and those who
sign. -/
def print_rpl_token_approve_info (info : RplTokenApproveInfo) (print_config : PrintConfig) :
    SummaryM Unit := do
  summary_item_set_pubkey .primary "Approve delegate" info.delegate
  let symbol := get_token_symbol info.mint_account
  summary_item_set_token_amount .general "Allowance" info.body.amount symbol info.body.decimals
  summary_item_set_pubkey .general "From" info.token_account
  (print_rpl_token_sign info.sign print_config).ignore_rc

/-- The account and those who sign. -/
def print_rpl_token_revoke_info (info : RplTokenRevokeInfo) (print_config : PrintConfig) :
    SummaryM Unit := do
  summary_item_set_pubkey .primary "Revoke delegate" info.token_account
  (print_rpl_token_sign info.sign print_config).ignore_rc

/-- The title tells a cleared authority from a replaced one; a cleared one has no item. -/
def print_rpl_token_set_authority_info (info : RplTokenSetAuthorityInfo)
    (print_config : PrintConfig) : SummaryM Unit := do
  let primary_title := if info.new_authority.isNone then "Clear authority" else "Set authority"
  summary_item_set_pubkey .primary primary_title info.account
  summary_item_set_string .general "Type" (stringify_token_authority_type info.authority_type)
  SummaryM.if_set info.new_authority fun new_authority =>
    summary_item_set_pubkey .general "Authority" new_authority
  (print_rpl_token_sign info.sign print_config).ignore_rc

/-- The amount and the account that receives. The mint is shown in expert mode only. -/
def print_rpl_token_mint_to_info (info : RplTokenMintToInfo) (print_config : PrintConfig) :
    SummaryM Unit := do
  let symbol := get_token_symbol info.mint_account
  summary_item_set_token_amount .primary "Mint tokens" info.body.amount symbol info.body.decimals
  if print_config.expert_mode then
    summary_item_set_pubkey .general "From" info.mint_account
  summary_item_set_pubkey .general "To" info.token_account
  (print_rpl_token_sign info.sign print_config).ignore_rc

/-- The amount and the account that loses it. The mint has no item. -/
def print_rpl_token_burn_info (info : RplTokenBurnInfo) (print_config : PrintConfig) :
    SummaryM Unit := do
  let symbol := get_token_symbol info.mint_account
  summary_item_set_token_amount .primary "Burn tokens" info.body.amount symbol info.body.decimals
  summary_item_set_pubkey .general "From" info.token_account
  (print_rpl_token_sign info.sign print_config).ignore_rc

/-- The account and where its balance goes. -/
def print_rpl_token_close_account_info (info : RplTokenCloseAccountInfo)
    (print_config : PrintConfig) : SummaryM Unit := do
  summary_item_set_pubkey .primary "Close acct" info.token_account
  summary_item_set_pubkey .general "Withdraw to" info.dest_account
  (print_rpl_token_sign info.sign print_config).ignore_rc

/-- The account, and the mint in expert mode only. -/
def print_rpl_token_freeze_account_info (info : RplTokenFreezeAccountInfo)
    (print_config : PrintConfig) : SummaryM Unit := do
  summary_item_set_pubkey .primary "Freeze acct" info.token_account
  if print_config.expert_mode then
    summary_item_set_pubkey .general "Mint" info.mint_account
  (print_rpl_token_sign info.sign print_config).ignore_rc

/-- The account, and the mint in expert mode only. -/
def print_rpl_token_thaw_account_info (info : RplTokenThawAccountInfo)
    (print_config : PrintConfig) : SummaryM Unit := do
  summary_item_set_pubkey .primary "Thaw acct" info.token_account
  if print_config.expert_mode then
    summary_item_set_pubkey .general "Mint" info.mint_account
  (print_rpl_token_sign info.sign print_config).ignore_rc

/-- The account is the only item. -/
def print_rpl_token_sync_native_info (info : RplTokenSyncNativeInfo) : SummaryM Unit :=
  summary_item_set_pubkey .primary "Sync native acct" info.token_account

/-- One printer a kind, with the primary titles the source passes. The deprecated kinds
return an error. -/
def print_rpl_token_info (info : RplTokenInfo) (print_config : PrintConfig) : SummaryM Unit :=
  match info with
  | .InitializeMint initialize_mint =>
    print_rpl_token_initialize_mint_info (some "Init mint") initialize_mint
  | .InitializeAccount initialize_account =>
    print_rpl_token_initialize_account_info (some "Init acct") initialize_account
  | .InitializeAccount2 initialize_account =>
    print_rpl_token_initialize_account_info (some "Init acct") initialize_account
  | .InitializeMultisig initialize_multisig =>
    print_rpl_token_initialize_multisig_info (some "Init multisig") initialize_multisig
  | .Revoke revoke => print_rpl_token_revoke_info revoke print_config
  | .SetAuthority set_owner => print_rpl_token_set_authority_info set_owner print_config
  | .CloseAccount close_account => print_rpl_token_close_account_info close_account print_config
  | .FreezeAccount freeze_account =>
    print_rpl_token_freeze_account_info freeze_account print_config
  | .ThawAccount thaw_account => print_rpl_token_thaw_account_info thaw_account print_config
  | .TransferChecked transfer => print_rpl_token_transfer_info transfer print_config true
  | .ApproveChecked approve => print_rpl_token_approve_info approve print_config
  | .MintToChecked mint_to => print_rpl_token_mint_to_info mint_to print_config
  | .BurnChecked burn => print_rpl_token_burn_info burn print_config
  | .SyncNative sync_native => print_rpl_token_sync_native_info sync_native
  | .Transfer => SummaryM.fail
  | .Approve => SummaryM.fail
  | .MintTo => SummaryM.fail
  | .Burn => SummaryM.fail

/-! ## The associated token account program -/

/-- The address of the program that derives token accounts from their owners. -/
def rpl_associated_token_account_program_id : Pubkey :=
  ⟨[0x8c, 0x97, 0x25, 0x8f, 0x4e, 0x24, 0x89, 0xf1, 0xbb, 0x3d, 0x10, 0x29, 0x14, 0x8e, 0x0d,
    0x83, 0x0b, 0x5a, 0x13, 0x99, 0xda, 0xff, 0x10, 0x84, 0x04, 0x8e, 0x7b, 0xd8, 0xdb, 0xe9,
    0xf8, 0x59], by decide⟩

/-- `RplAssociatedTokenAccountCreateInfo`: an account for the tokens of `mint` that
`owner` holds, paid for by `funder`. -/
structure RplAssociatedTokenAccountCreateInfo where
  funder : PubkeyRef
  address : PubkeyRef
  owner : PubkeyRef
  mint : PubkeyRef
deriving DecidableEq

/-- The program's only instruction; its data is not looked at. -/
def parse_create_rpl_associated_token_account_instruction (instruction : Instruction)
    (header : MessageHeader) : ParserM RplAssociatedTokenAccountCreateInfo :=
  with_accounts instruction header do
    let funder ← next_account
    let address ← next_account
    let owner ← next_account
    let mint ← next_account
    -- system program id, token program id
    skip_account
    skip_account
    -- rent sysvar, which newer versions of the program do not take
    let _ ← optional_account
    return { funder, address, owner, mint }

/-- The entry point. There is no tag to read, so only the accounts can fail it. -/
def parse_rpl_associated_token_account_instructions (instruction : Instruction)
    (header : MessageHeader) : Option RplAssociatedTokenAccountCreateInfo :=
  parse_instruction_data instruction
    (parse_create_rpl_associated_token_account_instruction instruction header)

/-- The account, its mint, its owner and the one who pays. The last is shown whoever it
is. -/
def print_rpl_associated_token_account_create_info
    (info : RplAssociatedTokenAccountCreateInfo) : SummaryM Unit := do
  summary_item_set_pubkey .primary "Create token acct" info.address
  summary_item_set_pubkey .general "From mint" info.mint
  summary_item_set_pubkey .general "Owned by" info.owner
  summary_item_set_pubkey .general "Funded by" info.funder

/-- The program has one instruction, hence one printer. -/
def print_rpl_associated_token_account_info (info : RplAssociatedTokenAccountCreateInfo) :
    SummaryM Unit :=
  print_rpl_associated_token_account_create_info info

end RenecLedger
