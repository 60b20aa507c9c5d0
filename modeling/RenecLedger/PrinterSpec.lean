/-
What each program's printer returns, and how many items it sets.

A printer of a single instruction never fails on a supported instruction, and it
sets one primary item and at most five general ones. The printers that the
multi-instruction patterns share are bounded separately, since a pattern has room
for eleven general items and the longest one uses them all.
-/
import RenecLedger.Instruction
import RenecLedger.SummarySpec

set_option autoImplicit false

namespace RenecLedger

/-! ## The common pieces -/

section Pieces

variable {P : SummaryItem → Prop} (print_config : PrintConfig) (slot : SummarySlot)
  (title : String) (pubkey : PubkeyRef) (primary_title : Option String) (sign : RplTokenSign)

/-- Showing an authority returns no error: the setters of the items return nothing. -/
@[simp] theorem print_authority_result :
    (print_authority print_config title pubkey).result = some () := by
  simp [print_authority]

/-- An authority takes one general item, and only where the configuration shows it. -/
@[simp] theorem print_authority_count :
    (print_authority print_config title pubkey).count slot =
      if print_config_show_authority print_config pubkey ∧ slot = .general then 1 else 0 := by
  simp only [print_authority, summary_item_set_pubkey, SummaryM.count_ite, count_set_item,
    SummaryM.count_pure, eq_comm, ite_and]

/-- What an authority adds to the items is the key under its title, or nothing. -/
@[simp] theorem print_authority_sets :
    (print_authority print_config title pubkey).sets P ↔
      print_config_show_authority print_config pubkey ∧ P ⟨title, .SummaryItemPubkey pubkey⟩ := by
  simp [print_authority]

/-- With no title the primary item is left to the pattern that called. -/
@[simp] theorem print_primary_title_none :
    print_primary_title none pubkey = pure () := rfl

/-- With a title the account is the primary item. -/
@[simp] theorem print_primary_title_some :
    print_primary_title (some title) pubkey = summary_item_set_pubkey .primary title pubkey := rfl

/-- The primary item is set or left, and neither fails. -/
@[simp] theorem print_primary_title_result :
    (print_primary_title primary_title pubkey).result = some () := by
  cases primary_title <;> simp

/-- A single owner takes an item where the configuration shows it; a multisig always
takes two, its account and the number of its signers. -/
@[simp] theorem print_rpl_token_sign_count :
    (print_rpl_token_sign sign print_config).count slot =
      match sign with
      | .RplTokenSignKindSingle signer =>
        if print_config_show_authority print_config signer ∧ slot = .general then 1 else 0
      | .RplTokenSignKindMulti _ _ => if slot = .general then 2 else 0 := by
  cases sign with
  | RplTokenSignKindSingle signer => exact print_authority_count print_config slot "Owner" signer
  | RplTokenSignKindMulti account signers => cases slot <;> simp [print_rpl_token_sign]

end Pieces

/-! ## Return codes -/

section Results

variable (print_config : PrintConfig)

/-- Creating an account prints without an error, on its own as in a pattern. -/
@[simp] theorem print_system_create_account_info_result (title : Option String)
    (info : SystemCreateAccountInfo) :
    (print_system_create_account_info title info print_config).result = some () := by
  simp [print_system_create_account_info]

/-- So does creating one with a seed, whatever the mode. -/
@[simp] theorem print_system_create_account_with_seed_info_result (title : Option String)
    (info : SystemCreateAccountWithSeedInfo) :
    (print_system_create_account_with_seed_info title info print_config).result = some () := by
  simp [print_system_create_account_with_seed_info]

/-- The second half of a new nonce account prints without an error. -/
@[simp] theorem print_system_initialize_nonce_info_result (title : Option String)
    (info : SystemInitializeNonceInfo) :
    (print_system_initialize_nonce_info title info).result = some () := by
  simp [print_system_initialize_nonce_info]

/-- The second half of a new stake account prints without an error, with or without a
lockup. -/
@[simp] theorem print_stake_initialize_info_result (title : Option String)
    (info : StakeInitializeInfo) :
    (print_stake_initialize_info title info print_config).result = some () := by
  simp [print_stake_initialize_info]

/-- A delegation prints without an error, on its own as at the end of a pattern. -/
@[simp] theorem print_delegate_stake_info_result (title : Option String)
    (info : StakeDelegateInfo) :
    (print_delegate_stake_info title info print_config).result = some () := by
  simp [print_delegate_stake_info]

/-- The second half of a new vote account prints without an error. -/
@[simp] theorem print_vote_initialize_info_result (title : Option String)
    (info : VoteInitializeInfo) : (print_vote_initialize_info title info).result = some () := by
  simp [print_vote_initialize_info]

/-- The part of a split that its patterns share prints without an error. -/
@[simp] theorem print_stake_split_info1_result (info : StakeSplitInfo) :
    (print_stake_split_info1 info).result = some () := by
  simp [print_stake_split_info1]

/-- A threshold without a text sets no item, and the printer goes on: there is no error
to return. -/
@[simp] theorem summary_item_set_multisig_m_of_n_result (slot : SummarySlot) (m n : UInt8) :
    (summary_item_set_multisig_m_of_n slot m n).result = some () := by
  simp [summary_item_set_multisig_m_of_n]

/-- The system printer fails on the one kind that the parser refuses, and on no other. -/
theorem print_system_info_result (info : SystemInfo) :
    (print_system_info info print_config).result = some () ↔ info ≠ .SystemAssignWithSeed := by
  cases info <;>
    simp [print_system_info, print_system_transfer_info, print_system_advance_nonce_account,
      print_system_withdraw_nonce_info, print_system_authorize_nonce_info,
      print_system_allocate_info, print_system_assign_info, print_system_allocate_with_seed_info]

/-- The stake printer fails on the two kinds with a seed, which the parser refuses, and
on no other. -/
theorem print_stake_info_result (info : StakeInfo) :
    (print_stake_info info print_config).result = some () ↔
      info ≠ .StakeAuthorizeWithSeed ∧ info ≠ .StakeAuthorizeCheckedWithSeed := by
  cases info <;>
    simp [print_stake_info, print_stake_withdraw_info, print_stake_authorize_info,
      print_stake_deactivate_info, print_stake_set_lockup_info, print_stake_split_info,
      print_stake_split_info2, print_stake_merge_info]

/-- The vote printer fails on the two votes, which the parser refuses, and on no other. -/
theorem print_vote_info_result (info : VoteInfo) :
    (print_vote_info info print_config).result = some () ↔
      info ≠ .VoteVote ∧ info ≠ .VoteSwitchVote := by
  cases info <;>
    simp [print_vote_info, print_vote_withdraw_info, print_vote_authorize_info,
      print_vote_update_validator_id_info, print_vote_update_commission_info]

/-- The token printer fails on the four kinds without a mint, whose amounts have no
number of decimals to be shown with, and on no other. -/
theorem print_rpl_token_info_result (info : RplTokenInfo) :
    (print_rpl_token_info info print_config).result = some () ↔
      info ≠ .Transfer ∧ info ≠ .Approve ∧ info ≠ .MintTo ∧ info ≠ .Burn := by
  cases info <;>
    simp [print_rpl_token_info, print_rpl_token_initialize_mint_info,
      print_rpl_token_initialize_account_info, print_rpl_token_initialize_multisig_info,
      print_rpl_token_revoke_info, print_rpl_token_set_authority_info,
      print_rpl_token_close_account_info, print_rpl_token_freeze_account_info,
      print_rpl_token_thaw_account_info, print_rpl_token_transfer_info,
      print_rpl_token_approve_info, print_rpl_token_mint_to_info, print_rpl_token_burn_info,
      print_rpl_token_sync_native_info]

end Results

/-! ## Room

How many primary and general items each printer sets at most. -/

section Room

variable (print_config : PrintConfig)

/-- In a pattern a new account takes two items: the deposit and the payer. -/
theorem print_system_create_account_info_within (info : SystemCreateAccountInfo) :
    (print_system_create_account_info none info print_config).Within 0 2 := by
  constructor <;> simp [print_system_create_account_info]
  grind

/-- With a seed it takes four, the base and the seed being the other two. -/
theorem print_system_create_account_with_seed_info_within
    (info : SystemCreateAccountWithSeedInfo) :
    (print_system_create_account_with_seed_info none info print_config).Within 0 4 := by
  constructor <;> simp [print_system_create_account_with_seed_info]
  grind

/-- In a pattern a nonce account takes one item, its authority. -/
theorem print_system_initialize_nonce_info_within (info : SystemInitializeNonceInfo) :
    (print_system_initialize_nonce_info none info).Within 0 1 := by
  constructor <;> simp [print_system_initialize_nonce_info]

/-- Five items: two authorities, two times and the lockup's custodian. -/
theorem print_stake_initialize_info_within (info : StakeInitializeInfo) :
    (print_stake_initialize_info none info print_config).Within 0 5 := by
  constructor <;> simp [print_stake_initialize_info]
  grind

/-- In a pattern a delegation takes two items: the authority and the vote account. -/
theorem print_delegate_stake_info_within (info : StakeDelegateInfo) :
    (print_delegate_stake_info none info print_config).Within 0 2 := by
  constructor <;> simp [print_delegate_stake_info]
  grind

/-- In a pattern a vote account takes four items: identity, two authorities and
commission. -/
theorem print_vote_initialize_info_within (info : VoteInitializeInfo) :
    (print_vote_initialize_info none info).Within 0 4 := by
  constructor <;> simp [print_vote_initialize_info]

/-- Every system instruction on its own has one primary item and at most four general
ones. -/
theorem print_system_info_within (info : SystemInfo) :
    (print_system_info info print_config).Within 1 4 := by
  cases info <;> constructor <;>
    simp [print_system_info, print_system_transfer_info, print_system_advance_nonce_account,
      print_system_withdraw_nonce_info, print_system_authorize_nonce_info,
      print_system_allocate_info, print_system_assign_info, print_system_allocate_with_seed_info,
      print_system_create_account_info, print_system_create_account_with_seed_info,
      print_system_initialize_nonce_info] <;>
    grind

/-- Every stake instruction on its own has one primary item and at most five general
ones; an initialization with a whole lockup has the five. -/
theorem print_stake_info_within (info : StakeInfo) :
    (print_stake_info info print_config).Within 1 5 := by
  cases info <;> constructor <;>
    simp [print_stake_info, print_stake_withdraw_info, print_stake_authorize_info,
      print_stake_deactivate_info, print_stake_set_lockup_info, print_stake_split_info,
      print_stake_split_info1, print_stake_split_info2, print_stake_merge_info,
      print_delegate_stake_info, print_stake_initialize_info] <;>
    grind

/-- Every vote instruction on its own has one primary item and at most four general
ones. -/
theorem print_vote_info_within (info : VoteInfo) :
    (print_vote_info info print_config).Within 1 4 := by
  cases info <;> constructor <;>
    simp [print_vote_info, print_vote_withdraw_info, print_vote_authorize_info,
      print_vote_update_validator_id_info, print_vote_update_commission_info,
      print_vote_initialize_info] <;>
    grind

/-- A token transfer that is the second half of a pattern takes five items and no
primary one. -/
theorem print_rpl_token_transfer_info_within (info : RplTokenTransferInfo) :
    (print_rpl_token_transfer_info info print_config false).Within 0 5 := by
  constructor <;> simp [print_rpl_token_transfer_info] <;> grind

/-- Every token instruction on its own has one primary item and at most five general
ones. -/
theorem print_rpl_token_info_within (info : RplTokenInfo) :
    (print_rpl_token_info info print_config).Within 1 5 := by
  cases info <;> constructor <;>
    simp [print_rpl_token_info, print_rpl_token_initialize_mint_info,
      print_rpl_token_initialize_account_info, print_rpl_token_initialize_multisig_info,
      summary_item_set_multisig_m_of_n, print_rpl_token_revoke_info,
      print_rpl_token_set_authority_info, print_rpl_token_close_account_info,
      print_rpl_token_freeze_account_info, print_rpl_token_thaw_account_info,
      print_rpl_token_transfer_info, print_rpl_token_approve_info,
      print_rpl_token_mint_to_info, print_rpl_token_burn_info,
      print_rpl_token_sync_native_info] <;>
    grind

/-- An associated token account has one primary item and three general ones. -/
theorem print_rpl_associated_token_account_create_info_within
    (info : RplAssociatedTokenAccountCreateInfo) :
    (print_rpl_associated_token_account_create_info info).Within 1 3 := by
  constructor <;> simp [print_rpl_associated_token_account_create_info]

end Room

end RenecLedger
