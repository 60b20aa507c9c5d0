/-
The transaction printers of `librenec/transaction_printers.c`.

A transaction of one instruction is printed by its program's printer. Two or three
instructions are recognised by the tables of briefs below, tried in order, and each
table has a printer of its own that merges the instructions into one summary. In
front of all that, an advance-nonce instruction with others after it is taken off.
-/
import RenecLedger.Instruction

set_option autoImplicit false

namespace RenecLedger

/-! ## The tables -/

/-- A system account is created and made a stake account. Like all tables here it names
kinds of instructions only, and no accounts. -/
def create_stake_account_brief : List InstructionBrief :=
  [.system .SystemCreateAccount, .stake .StakeInitialize]

/-- As `create_stake_account_brief`, with the checked initialization, which sets no
lockup. -/
def create_stake_account_checked_brief : List InstructionBrief :=
  [.system .SystemCreateAccount, .stake .StakeInitializeChecked]

/-- A stake account at an address derived from a base and a seed. -/
def create_stake_account_with_seed_brief : List InstructionBrief :=
  [.system .SystemCreateAccountWithSeed, .stake .StakeInitialize]

/-- As `create_stake_account_with_seed_brief`, with the checked initialization. -/
def create_stake_account_with_seed_checked_brief : List InstructionBrief :=
  [.system .SystemCreateAccountWithSeed, .stake .StakeInitializeChecked]

/-- A new stake account whose stake is delegated at once. The checked initialization has
no such table. -/
def create_stake_account_and_delegate_brief : List InstructionBrief :=
  [.system .SystemCreateAccount, .stake .StakeInitialize, .stake .StakeDelegate]

/-- As `create_stake_account_and_delegate_brief`, at a derived address. -/
def create_stake_account_with_seed_and_delegate_brief : List InstructionBrief :=
  [.system .SystemCreateAccountWithSeed, .stake .StakeInitialize, .stake .StakeDelegate]

/-- A split in the form of version 1.1: the new account is allocated and assigned first,
and has no deposit of its own. -/
def stake_split_brief_v1_1 : List InstructionBrief :=
  [.system .SystemAllocate, .system .SystemAssign, .stake .StakeSplit]

/-- The same at a derived address, where one instruction allocates and assigns. -/
def stake_split_with_seed_brief_v1_1 : List InstructionBrief :=
  [.system .SystemAllocateWithSeed, .stake .StakeSplit]

/-- A split in the form of version 1.2: the new account is created first, with a deposit
that the printer takes to be zero. -/
def stake_split_brief_v1_2 : List InstructionBrief :=
  [.system .SystemCreateAccount, .stake .StakeSplit]

/-- The same at a derived address. -/
def stake_split_with_seed_brief_v1_2 : List InstructionBrief :=
  [.system .SystemCreateAccountWithSeed, .stake .StakeSplit]

/-- Both authorities of a stake account change; the printer asks for the staker first,
since the table cannot tell which of the two each instruction changes. -/
def stake_authorize_both_brief : List InstructionBrief :=
  [.stake .StakeAuthorize, .stake .StakeAuthorize]

/-- The same with the checked instruction. One of each is in neither table. -/
def stake_authorize_checked_both_brief : List InstructionBrief :=
  [.stake .StakeAuthorizeChecked, .stake .StakeAuthorizeChecked]

/-- A system account is created and made a nonce account. -/
def create_nonce_account_brief : List InstructionBrief :=
  [.system .SystemCreateAccount, .system .SystemInitializeNonceAccount]

/-- A nonce account at a derived address. -/
def create_nonce_account_with_seed_brief : List InstructionBrief :=
  [.system .SystemCreateAccountWithSeed, .system .SystemInitializeNonceAccount]

/-- A system account is created and made a vote account. -/
def create_vote_account_brief : List InstructionBrief :=
  [.system .SystemCreateAccount, .vote .VoteInitialize]

/-- A vote account at a derived address. -/
def create_vote_account_with_seed_brief : List InstructionBrief :=
  [.system .SystemCreateAccountWithSeed, .vote .VoteInitialize]

/-- Both authorities of a vote account change; the printer asks for the voter first. -/
def vote_authorize_both_brief : List InstructionBrief :=
  [.vote .VoteAuthorize, .vote .VoteAuthorize]

/-- The same with the checked instruction. One of each is in neither table. -/
def vote_authorize_checked_both_brief : List InstructionBrief :=
  [.vote .VoteAuthorizeChecked, .vote .VoteAuthorizeChecked]

/-- A system account is created and made a mint. -/
def rpl_token_create_mint_brief : List InstructionBrief :=
  [.system .SystemCreateAccount, .rpl_token .InitializeMint]

/-- A system account is created and made a token account, its owner being an account. -/
def rpl_token_create_account_brief : List InstructionBrief :=
  [.system .SystemCreateAccount, .rpl_token .InitializeAccount]

/-- The same with the owner in the data; one printer serves both. -/
def rpl_token_create_account2_brief : List InstructionBrief :=
  [.system .SystemCreateAccount, .rpl_token .InitializeAccount2]

/-- A system account is created and made a multisig. -/
def rpl_token_create_multisig_brief : List InstructionBrief :=
  [.system .SystemCreateAccount, .rpl_token .InitializeMultisig]

/-- A token account is derived for the recipient, then gets the tokens. -/
def rpl_associated_token_account_create_with_transfer_brief : List InstructionBrief :=
  [.rpl_associated_token_account, .rpl_token .TransferChecked]

/-! ## Printers of several instructions

Each reads the infos its table promises, member by member. The source reads the
union without looking at the tag again, so the last case of each is one its caller
has excluded. -/

/-- The primary item is the account that is created. The account that is initialized is
not compared with it, and its own key has no item, in neither display mode. -/
def print_create_stake_account (print_config : PrintConfig) (infos : List InstructionInfo) :
    SummaryM Unit :=
  match infos with
  | .ProgramIdSystem (.SystemCreateAccount ca_info) ::
      .ProgramIdStake (.StakeInitialize si_info) :: _
  | .ProgramIdSystem (.SystemCreateAccount ca_info) ::
      .ProgramIdStake (.StakeInitializeChecked si_info) :: _ => do
    summary_item_set_pubkey .primary "Create stake acct" ca_info.to_
    print_system_create_account_info none ca_info print_config
    print_stake_initialize_info none si_info print_config
  | _ => SummaryM.fail

/-- As `print_create_stake_account`, with the base and the seed in expert mode. -/
def print_create_stake_account_with_seed (print_config : PrintConfig)
    (infos : List InstructionInfo) : SummaryM Unit :=
  match infos with
  | .ProgramIdSystem (.SystemCreateAccountWithSeed cws_info) ::
      .ProgramIdStake (.StakeInitialize si_info) :: _
  | .ProgramIdSystem (.SystemCreateAccountWithSeed cws_info) ::
      .ProgramIdStake (.StakeInitializeChecked si_info) :: _ => do
    summary_item_set_pubkey .primary "Create stake acct" cws_info.to_
    print_system_create_account_with_seed_info none cws_info print_config
    print_stake_initialize_info none si_info print_config
  | _ => SummaryM.fail

/-- As `print_create_stake_account`, then the delegation's items. The primary title is
the delegation's. -/
def print_create_stake_account_and_delegate (print_config : PrintConfig)
    (infos : List InstructionInfo) : SummaryM Unit :=
  match infos with
  | .ProgramIdSystem (.SystemCreateAccount ca_info) ::
      .ProgramIdStake (.StakeInitialize si_info) ::
      .ProgramIdStake (.StakeDelegate sd_info) :: _ => do
    summary_item_set_pubkey .primary "Delegate from" ca_info.to_
    print_system_create_account_info none ca_info print_config
    print_stake_initialize_info none si_info print_config
    print_delegate_stake_info none sd_info print_config
  | _ => SummaryM.fail

/-- The printer that can set the most items: all eleven general ones in expert mode. -/
def print_create_stake_account_with_seed_and_delegate (print_config : PrintConfig)
    (infos : List InstructionInfo) : SummaryM Unit :=
  match infos with
  | .ProgramIdSystem (.SystemCreateAccountWithSeed cws_info) ::
      .ProgramIdStake (.StakeInitialize si_info) ::
      .ProgramIdStake (.StakeDelegate sd_info) :: _ => do
    summary_item_set_pubkey .primary "Delegate from" cws_info.to_
    print_system_create_account_with_seed_info none cws_info print_config
    print_stake_initialize_info none si_info print_config
    print_delegate_stake_info none sd_info print_config
  | _ => SummaryM.fail

/-- The base and seed come from the allocation in the legacy form, else from the account
creation. The lamports of such a creation have no item, as a comment in the source takes
them to be zero. -/
def print_stake_split_with_seed (print_config : PrintConfig) (infos : List InstructionInfo)
    (legacy : Bool) : SummaryM Unit :=
  match legacy, infos with
  | true, .ProgramIdSystem (.SystemAllocateWithSeed aws_info) ::
      .ProgramIdStake (.StakeSplit ss_info) :: _ =>
    print_split aws_info.base aws_info.seed ss_info
  | false, .ProgramIdSystem (.SystemCreateAccountWithSeed cws_info) ::
      .ProgramIdStake (.StakeSplit ss_info) :: _ =>
    print_split cws_info.base cws_info.seed ss_info
  | _, _ => SummaryM.fail
where
  print_split (base : PubkeyRef) (seed : SizedString) (ss_info : StakeSplitInfo) :
      SummaryM Unit := do
    print_stake_split_info1 ss_info
    if print_config.expert_mode then
      summary_item_set_pubkey .general "Base" base
      summary_item_set_sized_string .general "Seed" seed
    print_stake_split_info2 ss_info print_config

/-- The new authorities are one item when the two pointers are the same. Equal keys in
the data of the two instructions lie at different places, and are two items. -/
def print_stake_authorize_both (print_config : PrintConfig) (infos : List InstructionInfo) :
    SummaryM Unit :=
  match infos with
  | .ProgramIdStake (.StakeAuthorize staker_info) ::
      .ProgramIdStake (.StakeAuthorize withdrawer_info) :: _
  | .ProgramIdStake (.StakeAuthorizeChecked staker_info) ::
      .ProgramIdStake (.StakeAuthorizeChecked withdrawer_info) :: _ => do
    SummaryM.bail_if (staker_info.authorize ≠ .StakeAuthorizeStaker)
    SummaryM.bail_if (withdrawer_info.authorize ≠ .StakeAuthorizeWithdrawer)
    summary_item_set_pubkey .primary "Set stake auth" staker_info.account
    if staker_info.new_authority.addr = withdrawer_info.new_authority.addr then
      summary_item_set_pubkey .general "New authorities" staker_info.new_authority
    else
      summary_item_set_pubkey .general "New stake auth" staker_info.new_authority
      summary_item_set_pubkey .general "New withdraw auth" withdrawer_info.new_authority
    SummaryM.if_set withdrawer_info.custodian fun custodian =>
      summary_item_set_pubkey .general "Custodian" custodian
    print_authority print_config "Authorized by" withdrawer_info.authority
  | _ => SummaryM.fail

/-- The primary item is the account that is created; the rest are the two printers' own
items. -/
def print_create_nonce_account (print_config : PrintConfig) (infos : List InstructionInfo) :
    SummaryM Unit :=
  match infos with
  | .ProgramIdSystem (.SystemCreateAccount ca_info) ::
      .ProgramIdSystem (.SystemInitializeNonceAccount ni_info) :: _ => do
    summary_item_set_pubkey .primary "Create nonce acct" ca_info.to_
    print_system_create_account_info none ca_info print_config
    print_system_initialize_nonce_info none ni_info
  | _ => SummaryM.fail

/-- As `print_create_nonce_account`, with the base and the seed in expert mode. -/
def print_create_nonce_account_with_seed (print_config : PrintConfig)
    (infos : List InstructionInfo) : SummaryM Unit :=
  match infos with
  | .ProgramIdSystem (.SystemCreateAccountWithSeed ca_info) ::
      .ProgramIdSystem (.SystemInitializeNonceAccount ni_info) :: _ => do
    summary_item_set_pubkey .primary "Create nonce acct" ca_info.to_
    print_system_create_account_with_seed_info none ca_info print_config
    print_system_initialize_nonce_info none ni_info
  | _ => SummaryM.fail

/-- The primary item is the account that is created; the rest are the two printers' own
items. -/
def print_create_vote_account (print_config : PrintConfig) (infos : List InstructionInfo) :
    SummaryM Unit :=
  match infos with
  | .ProgramIdSystem (.SystemCreateAccount ca_info) ::
      .ProgramIdVote (.VoteInitialize vi_info) :: _ => do
    summary_item_set_pubkey .primary "Create vote acct" ca_info.to_
    print_system_create_account_info none ca_info print_config
    print_vote_initialize_info none vi_info
  | _ => SummaryM.fail

/-- As `print_create_vote_account`, with the base and the seed in expert mode. -/
def print_create_vote_account_with_seed (print_config : PrintConfig)
    (infos : List InstructionInfo) : SummaryM Unit :=
  match infos with
  | .ProgramIdSystem (.SystemCreateAccountWithSeed ca_info) ::
      .ProgramIdVote (.VoteInitialize vi_info) :: _ => do
    summary_item_set_pubkey .primary "Create vote acct" ca_info.to_
    print_system_create_account_with_seed_info none ca_info print_config
    print_vote_initialize_info none vi_info
  | _ => SummaryM.fail

/-- The voter's instruction must come first. The new authorities are one item when the
two pointers are the same, and only the second instruction's own authority is shown. -/
def print_vote_authorize_both (print_config : PrintConfig) (infos : List InstructionInfo) :
    SummaryM Unit :=
  match infos with
  | .ProgramIdVote (.VoteAuthorize voter_info) ::
      .ProgramIdVote (.VoteAuthorize withdrawer_info) :: _
  | .ProgramIdVote (.VoteAuthorizeChecked voter_info) ::
      .ProgramIdVote (.VoteAuthorizeChecked withdrawer_info) :: _ => do
    SummaryM.bail_if (voter_info.authorize ≠ .VoteAuthorizeVoter)
    SummaryM.bail_if (withdrawer_info.authorize ≠ .VoteAuthorizeWithdrawer)
    summary_item_set_pubkey .primary "Set vote auth" voter_info.account
    if voter_info.new_authority.addr = withdrawer_info.new_authority.addr then
      summary_item_set_pubkey .general "New authorities" voter_info.new_authority
    else
      summary_item_set_pubkey .general "New vote auth" voter_info.new_authority
      summary_item_set_pubkey .general "New withdraw auth" withdrawer_info.new_authority
    print_authority print_config "Authorized by" withdrawer_info.authority
  | _ => SummaryM.fail

/-- Here the items are set one by one: the mint's first, the payer's last. The primary
item is the account that is initialized. -/
def print_rpl_token_create_mint (print_config : PrintConfig) (infos : List InstructionInfo) :
    SummaryM Unit :=
  match infos with
  | .ProgramIdSystem (.SystemCreateAccount ca_info) ::
      .ProgramIdRplToken (.InitializeMint im_info) :: _ => do
    summary_item_set_pubkey .primary "Create token mint" im_info.mint_account
    summary_item_set_pubkey .general "Mint authority" im_info.mint_authority
    summary_item_set_u64 .general "Mint decimals" im_info.decimals.toUInt64
    SummaryM.if_set im_info.freeze_authority fun freeze_authority =>
      summary_item_set_pubkey .general "Freeze authority" freeze_authority
    print_authority print_config "Funded by" ca_info.from_
    summary_item_set_amount .general "Funded with" ca_info.lamports
  | _ => SummaryM.fail

/-- The token account's items, then the payer's. The primary item is the account that is
initialized, and the one that is created has no item. -/
def print_rpl_token_create_account (print_config : PrintConfig) (infos : List InstructionInfo) :
    SummaryM Unit :=
  match infos with
  | .ProgramIdSystem (.SystemCreateAccount ca_info) ::
      .ProgramIdRplToken (.InitializeAccount ia_info) :: _
  | .ProgramIdSystem (.SystemCreateAccount ca_info) ::
      .ProgramIdRplToken (.InitializeAccount2 ia_info) :: _ => do
    summary_item_set_pubkey .primary "Create token acct" ia_info.token_account
    summary_item_set_pubkey .general "From mint" ia_info.mint_account
    summary_item_set_pubkey .general "Owned by" ia_info.owner
    print_authority print_config "Funded by" ca_info.from_
    summary_item_set_amount .general "Funded with" ca_info.lamports
  | _ => SummaryM.fail

/-- The multisig and its threshold, then the payer's items. -/
def print_rpl_token_create_multisig (print_config : PrintConfig) (infos : List InstructionInfo) :
    SummaryM Unit :=
  match infos with
  | .ProgramIdSystem (.SystemCreateAccount ca_info) ::
      .ProgramIdRplToken (.InitializeMultisig im_info) :: _ => do
    summary_item_set_pubkey .primary "Create multisig" im_info.multisig_account
    summary_item_set_multisig_m_of_n .general im_info.m im_info.signers.count
    print_authority print_config "Funded by" ca_info.from_
    summary_item_set_amount .general "Funded with" ca_info.lamports
  | _ => SummaryM.fail

/-- Both printers in a row, with their return codes ignored. The transfer's amount is a
general item here, since the primary one is the account that is created. -/
def print_rpl_associated_token_account_create_with_transfer (print_config : PrintConfig)
    (infos : List InstructionInfo) : SummaryM Unit :=
  match infos with
  | .ProgramIdRplAssociatedTokenAccount c_info ::
      .ProgramIdRplToken (.TransferChecked t_info) :: _ => do
    (print_rpl_associated_token_account_create_info c_info).ignore_rc
    (print_rpl_token_transfer_info t_info print_config false).ignore_rc
  | _ => SummaryM.fail

/-! ## Printing a transaction -/

/-- `case 1` of the switch on `infos_length`. -/
def print_one_instruction (print_config : PrintConfig) (infos : List InstructionInfo) :
    SummaryM Unit :=
  match infos.head? with
  | some (.ProgramIdSystem system) => print_system_info system print_config
  | some (.ProgramIdStake stake) => print_stake_info stake print_config
  | some (.ProgramIdVote vote) => print_vote_info vote print_config
  | some (.ProgramIdRplToken rpl_token) => print_rpl_token_info rpl_token print_config
  | some (.ProgramIdRplAssociatedTokenAccount create) =>
    print_rpl_associated_token_account_info create
  | _ => SummaryM.fail

/-- `case 2`: the tables in the order they are tried. No two of them match the same
instructions, so the order decides nothing, but it is kept. -/
def print_two_instructions (print_config : PrintConfig) (infos : List InstructionInfo)
    (infos_length : ℕ) : SummaryM Unit :=
  if instruction_infos_match_briefs infos create_stake_account_brief infos_length ||
      instruction_infos_match_briefs infos create_stake_account_checked_brief infos_length then
    print_create_stake_account print_config infos
  else if
      instruction_infos_match_briefs infos create_stake_account_with_seed_brief infos_length ||
      instruction_infos_match_briefs infos create_stake_account_with_seed_checked_brief
        infos_length then
    print_create_stake_account_with_seed print_config infos
  else if instruction_infos_match_briefs infos create_nonce_account_brief infos_length then
    print_create_nonce_account print_config infos
  else if
      instruction_infos_match_briefs infos create_nonce_account_with_seed_brief
        infos_length then
    print_create_nonce_account_with_seed print_config infos
  else if instruction_infos_match_briefs infos create_vote_account_brief infos_length then
    print_create_vote_account print_config infos
  else if
      instruction_infos_match_briefs infos create_vote_account_with_seed_brief infos_length then
    print_create_vote_account_with_seed print_config infos
  else if instruction_infos_match_briefs infos stake_authorize_both_brief infos_length ||
      instruction_infos_match_briefs infos stake_authorize_checked_both_brief infos_length then
    print_stake_authorize_both print_config infos
  else if instruction_infos_match_briefs infos vote_authorize_both_brief infos_length ||
      instruction_infos_match_briefs infos vote_authorize_checked_both_brief infos_length then
    print_vote_authorize_both print_config infos
  else if instruction_infos_match_briefs infos stake_split_with_seed_brief_v1_1 infos_length then
    print_stake_split_with_seed print_config infos true
  else if instruction_infos_match_briefs infos stake_split_brief_v1_2 infos_length then
    -- the account creation is taken to carry zero lamports and is not printed
    match infos.tail.head? with
    | some (.ProgramIdStake stake) => print_stake_info stake print_config
    | _ => SummaryM.fail
  else if instruction_infos_match_briefs infos stake_split_with_seed_brief_v1_2 infos_length then
    print_stake_split_with_seed print_config infos false
  else if instruction_infos_match_briefs infos rpl_token_create_mint_brief infos_length then
    print_rpl_token_create_mint print_config infos
  else if instruction_infos_match_briefs infos rpl_token_create_account_brief infos_length ||
      instruction_infos_match_briefs infos rpl_token_create_account2_brief infos_length then
    print_rpl_token_create_account print_config infos
  else if instruction_infos_match_briefs infos rpl_token_create_multisig_brief infos_length then
    print_rpl_token_create_multisig print_config infos
  else if
      instruction_infos_match_briefs infos
        rpl_associated_token_account_create_with_transfer_brief infos_length then
    print_rpl_associated_token_account_create_with_transfer print_config infos
  else
    SummaryM.fail

/-- `case 3`. -/
def print_three_instructions (print_config : PrintConfig) (infos : List InstructionInfo)
    (infos_length : ℕ) : SummaryM Unit :=
  if instruction_infos_match_briefs infos create_stake_account_and_delegate_brief
      infos_length then
    print_create_stake_account_and_delegate print_config infos
  else if instruction_infos_match_briefs infos create_stake_account_with_seed_and_delegate_brief
      infos_length then
    print_create_stake_account_with_seed_and_delegate print_config infos
  else if instruction_infos_match_briefs infos stake_split_brief_v1_1 infos_length then
    -- the allocation and the assignment are not printed
    match infos.tail.tail.head? with
    | some (.ProgramIdStake stake) => print_stake_info stake print_config
    | _ => SummaryM.fail
  else
    SummaryM.fail

/-- The switch on the number of instructions, once the nonce is off. Four or more fail,
although the body may hold four: then one of them has to be a nonce instruction or a
memo. -/
def print_transaction_nonce_processed (print_config : PrintConfig)
    (infos : List InstructionInfo) : SummaryM Unit :=
  let infos_length := infos.length
  match infos_length with
  | 1 => print_one_instruction print_config infos
  | 2 => print_two_instructions print_config infos infos_length
  | 3 => print_three_instructions print_config infos infos_length
  | _ => SummaryM.fail

/-- Take an advance-nonce instruction (`nonce_brief`) off the front when others follow.
Its items are set first, and its return code is ignored. -/
def print_transaction (print_config : PrintConfig) (infos : List InstructionInfo) :
    SummaryM Unit :=
  match infos with
  | .ProgramIdSystem (.SystemAdvanceNonceAccount advance_nonce) :: info :: infos => do
    (print_system_nonced_transaction_sentinel advance_nonce print_config).ignore_rc
    print_transaction_nonce_processed print_config (info :: infos)
  | infos => print_transaction_nonce_processed print_config infos

end RenecLedger
