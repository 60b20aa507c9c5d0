/-
Are foreign authorities shown?

The rule of `print_config_show_authority` is that an authority is hidden only when it is
the signer. Every printer of one instruction keeps it, and so do most patterns. Six
patterns do not: a stake split into a created account hides who funds the account, and
an authorize pair shows the authority of its second member only. There the first
member's authority is lost unless its key is shown for another reason, and the message
is accepted all the same.
-/
import RenecLedger.Acceptance
import RenecLedger.Encoding

set_option autoImplicit false

open ReaderLib

namespace RenecLedger

/-! ## The authority of an instruction -/

/-- Who authorises a token instruction: the single owner, or the multisig account. -/
def RplTokenSign.owner : RplTokenSign → PubkeyRef
  | .RplTokenSignKindSingle signer => signer
  | .RplTokenSignKindMulti account _ => account

/-- Who authorizes a system instruction, where it names somebody. -/
def SystemInfo.authority : SystemInfo → Option PubkeyRef
  | .SystemTransfer transfer => some transfer.from_
  | .SystemCreateAccount create_account => some create_account.from_
  | .SystemCreateAccountWithSeed create_account => some create_account.from_
  | .SystemAdvanceNonceAccount advance_nonce => some advance_nonce.authority
  | .SystemInitializeNonceAccount initialize_nonce => some initialize_nonce.authority
  | .SystemWithdrawNonceAccount withdraw_nonce => some withdraw_nonce.authority
  | .SystemAuthorizeNonceAccount authorize_nonce => some authorize_nonce.authority
  | _ => none

/-- Who authorizes a stake instruction; an initialization is authorized by nobody. -/
def StakeInfo.authority : StakeInfo → Option PubkeyRef
  | .StakeDelegate delegate_stake => some delegate_stake.authorized_pubkey
  | .StakeWithdraw withdraw => some withdraw.authority
  | .StakeAuthorize authorize => some authorize.authority
  | .StakeAuthorizeChecked authorize => some authorize.authority
  | .StakeDeactivate deactivate => some deactivate.authority
  | .StakeSetLockup set_lockup => some set_lockup.custodian
  | .StakeSetLockupChecked set_lockup => some set_lockup.custodian
  | .StakeSplit split => some split.authority
  | .StakeMerge merge => some merge.authority
  | _ => none

/-- Who authorizes a vote instruction. -/
def VoteInfo.authority : VoteInfo → Option PubkeyRef
  | .VoteWithdraw withdraw => some withdraw.authority
  | .VoteAuthorize authorize => some authorize.authority
  | .VoteAuthorizeChecked authorize => some authorize.authority
  | .VoteUpdateValidatorId update_validator_id => some update_validator_id.authority
  | .VoteUpdateCommission update_commission => some update_commission.authority
  | _ => none

/-- Who authorizes a token instruction: its owner, be it a multisig. -/
def RplTokenInfo.authority : RplTokenInfo → Option PubkeyRef
  | .Revoke revoke => some revoke.sign.owner
  | .SetAuthority set_owner => some set_owner.sign.owner
  | .CloseAccount close_account => some close_account.sign.owner
  | .FreezeAccount freeze_account => some freeze_account.sign.owner
  | .ThawAccount thaw_account => some thaw_account.sign.owner
  | .TransferChecked transfer => some transfer.sign.owner
  | .ApproveChecked approve => some approve.sign.owner
  | .MintToChecked mint_to => some mint_to.sign.owner
  | .BurnChecked burn => some burn.sign.owner
  | _ => none

/-- The key that authorises or funds an instruction. -/
def InstructionInfo.authority : InstructionInfo → Option PubkeyRef
  | .ProgramIdSystem system => system.authority
  | .ProgramIdStake stake => stake.authority
  | .ProgramIdVote vote => vote.authority
  | .ProgramIdRplToken rpl_token => rpl_token.authority
  | .ProgramIdRplAssociatedTokenAccount create => some create.funder
  | _ => none

/-- Every authority that is not the signer is shown, the nonce instruction in front of
others excepted. -/
def AuthoritiesShown (signer_pubkey : PubkeyRef) (infos : List InstructionInfo)
    (summary : TransactionSummary) : Prop :=
  ∀ info ∈ strip_nonce (display_instruction_info infos), ∀ authority ∈ info.authority,
    pubkeys_equal signer_pubkey authority = false →
    ∃ item ∈ summary.items, ShowsPubkey authority item

instance (signer_pubkey : PubkeyRef) (infos : List InstructionInfo)
    (summary : TransactionSummary) : Decidable (AuthoritiesShown signer_pubkey infos summary) :=
  inferInstanceAs (Decidable (∀ info ∈ _, ∀ authority ∈ _, _ → _))

/-! ## Which authorities are lost -/

/-- The keys that the user sees of a stake split, and the signer. -/
def split_pubkeys (signer_pubkey : PubkeyRef) (split : StakeSplitInfo) : List Pubkey :=
  [signer_pubkey.key, split.account.key, split.split_account.key, split.authority.key]

/-- The keys that the user sees of a pair of stake authorize instructions, and the
signer. The second new authority is shown when it is another pointer than the first. -/
def stake_authorize_pubkeys (signer_pubkey : PubkeyRef) (staker withdrawer : StakeAuthorizeInfo) :
    List Pubkey :=
  [signer_pubkey.key, staker.account.key, staker.new_authority.key, withdrawer.authority.key] ++
    (withdrawer.custodian.map PubkeyRef.key).toList ++
    if staker.new_authority.addr = withdrawer.new_authority.addr then []
    else [withdrawer.new_authority.key]

/-- The keys that the merged vote authorities show. The first instruction's own
authority is not among them. -/
def vote_authorize_pubkeys (signer_pubkey : PubkeyRef) (voter withdrawer : VoteAuthorizeInfo) :
    List Pubkey :=
  [signer_pubkey.key, voter.account.key, voter.new_authority.key, withdrawer.authority.key] ++
    if voter.new_authority.addr = withdrawer.new_authority.addr then []
    else [withdrawer.new_authority.key]

/-- The first member of a stake split into a created account, or of an authorize pair in
order, has an authority that is neither the signer nor seen for another reason. -/
def LosesAuthority (signer_pubkey : PubkeyRef) : List InstructionInfo → Prop
  | [.ProgramIdSystem (.SystemCreateAccount ca), .ProgramIdStake (.StakeSplit ss)] =>
    ca.from_.key ∉ split_pubkeys signer_pubkey ss
  | [.ProgramIdSystem (.SystemCreateAccountWithSeed cws), .ProgramIdStake (.StakeSplit ss)] =>
    cws.from_.key ∉ split_pubkeys signer_pubkey ss
  | [.ProgramIdStake (.StakeAuthorize staker), .ProgramIdStake (.StakeAuthorize withdrawer)]
  | [.ProgramIdStake (.StakeAuthorizeChecked staker),
      .ProgramIdStake (.StakeAuthorizeChecked withdrawer)] =>
    staker.authorize = .StakeAuthorizeStaker ∧
      withdrawer.authorize = .StakeAuthorizeWithdrawer ∧
      staker.authority.key ∉ stake_authorize_pubkeys signer_pubkey staker withdrawer
  | [.ProgramIdVote (.VoteAuthorize voter), .ProgramIdVote (.VoteAuthorize withdrawer)]
  | [.ProgramIdVote (.VoteAuthorizeChecked voter),
      .ProgramIdVote (.VoteAuthorizeChecked withdrawer)] =>
    voter.authorize = .VoteAuthorizeVoter ∧ withdrawer.authorize = .VoteAuthorizeWithdrawer ∧
      voter.authority.key ∉ vote_authorize_pubkeys signer_pubkey voter withdrawer
  | _ => False

/-! ## What the printers show -/

section Printers

variable (print_config : PrintConfig)

/-- An authority that is not the signer is shown in either mode. -/
theorem show_foreign_authority {authority : PubkeyRef}
    (h : pubkeys_equal print_config.signer_pubkey authority = false) :
    print_config_show_authority print_config authority = true := by
  rw [print_config_show_authority, h, Bool.not_false, Bool.or_true]

/-- The owner of a token account is shown, be it one signer or a multisig account. -/
theorem print_rpl_token_sign_shows {sign : RplTokenSign}
    (h : pubkeys_equal print_config.signer_pubkey sign.owner = false) :
    (print_rpl_token_sign sign print_config).sets (ShowsPubkey sign.owner) := by
  cases sign with
  | RplTokenSignKindSingle signer =>
    have hshow := show_foreign_authority print_config h
    simpa [print_rpl_token_sign, RplTokenSign.owner] using hshow
  | RplTokenSignKindMulti account signers => exact sets_first_pubkey _ _ _ _

/-- The printer of a single instruction shows a foreign authority. -/
theorem print_single_shows_authority {info : InstructionInfo} {authority : PubkeyRef}
    (ha : info.authority = some authority)
    (h : pubkeys_equal print_config.signer_pubkey authority = false) :
    (print_transaction_nonce_processed print_config [info]).sets (ShowsPubkey authority) := by
  have hshow := show_foreign_authority print_config h
  -- Kinds without an authority contradict `ha`; each other printer has a general item
  -- for it behind `print_config_show_authority`, which `hshow` decides.
  cases info with
  | ProgramIdSystem system =>
    cases system <;> cases ha <;> simp [print_transaction_nonce_processed,
      print_one_instruction, print_system_info, print_system_transfer_info,
      print_system_advance_nonce_account, print_system_create_account_info,
      print_system_create_account_with_seed_info, print_system_initialize_nonce_info,
      print_system_withdraw_nonce_info, print_system_authorize_nonce_info, hshow]
  | ProgramIdStake stake =>
    cases stake <;> cases ha <;> simp [print_transaction_nonce_processed,
      print_one_instruction, print_stake_info, print_delegate_stake_info,
      print_stake_withdraw_info, print_stake_authorize_info, print_stake_deactivate_info,
      print_stake_set_lockup_info, print_stake_split_info, print_stake_split_info1,
      print_stake_split_info2, print_stake_merge_info, hshow]
  | ProgramIdVote vote =>
    cases vote <;> cases ha <;> simp [print_transaction_nonce_processed,
      print_one_instruction, print_vote_info, print_vote_withdraw_info,
      print_vote_authorize_info, print_vote_update_validator_id_info,
      print_vote_update_commission_info, hshow]
  | ProgramIdRplToken rpl_token =>
    cases rpl_token <;> cases ha <;> simp [print_transaction_nonce_processed,
      print_one_instruction, print_rpl_token_info, print_rpl_token_revoke_info,
      print_rpl_token_set_authority_info, print_rpl_token_close_account_info,
      print_rpl_token_freeze_account_info, print_rpl_token_thaw_account_info,
      print_rpl_token_transfer_info, print_rpl_token_approve_info, print_rpl_token_mint_to_info,
      print_rpl_token_burn_info, print_rpl_token_sign_shows print_config h]
  | ProgramIdRplAssociatedTokenAccount create =>
    cases ha
    simp [print_transaction_nonce_processed, print_one_instruction,
      print_rpl_associated_token_account_info, print_rpl_associated_token_account_create_info]
  | _ => cases ha

/-- The creation of an account shows who funds it, whatever it is part of, and what
comes after it is shown as well. -/
theorem print_create_shows_authority (title : String) (ca : SystemCreateAccountInfo)
    (p : SummaryM Unit) (h : pubkeys_equal print_config.signer_pubkey ca.from_ = false) :
    (do
      summary_item_set_pubkey .primary title ca.to_
      print_system_create_account_info none ca print_config
      p).sets (ShowsPubkey ca.from_) := by
  have hshow := show_foreign_authority print_config h
  simp [print_system_create_account_info, hshow]

/-- What the second half of a pattern shows is shown by the whole. -/
theorem print_create_shows_rest (title : String) (ca : SystemCreateAccountInfo)
    {p : SummaryM Unit} {P : SummaryItem → Prop} (h : p.sets P) :
    (do
      summary_item_set_pubkey .primary title ca.to_
      print_system_create_account_info none ca print_config
      p).sets P := by
  rw [SummaryM.sets_bind, SummaryM.sets_bind, print_system_create_account_info_result]
  exact Or.inr ⟨rfl, Or.inr ⟨rfl, h⟩⟩

/-- A payer that is not the signer is shown. -/
theorem print_create_with_seed_shows_authority (title : String)
    (cws : SystemCreateAccountWithSeedInfo) (p : SummaryM Unit)
    (h : pubkeys_equal print_config.signer_pubkey cws.from_ = false) :
    (do
      summary_item_set_pubkey .primary title cws.to_
      print_system_create_account_with_seed_info none cws print_config
      p).sets (ShowsPubkey cws.from_) := by
  have hshow := show_foreign_authority print_config h
  simp [print_system_create_account_with_seed_info, hshow]

/-- What the second half of a pattern shows is shown by the whole. -/
theorem print_create_with_seed_shows_rest (title : String)
    (cws : SystemCreateAccountWithSeedInfo) {p : SummaryM Unit} {P : SummaryItem → Prop}
    (h : p.sets P) :
    (do
      summary_item_set_pubkey .primary title cws.to_
      print_system_create_account_with_seed_info none cws print_config
      p).sets P := by
  rw [SummaryM.sets_bind, SummaryM.sets_bind, print_system_create_account_with_seed_info_result]
  exact Or.inr ⟨rfl, Or.inr ⟨rfl, h⟩⟩

/-- The authority of a new nonce account is shown whoever it is. -/
theorem print_initialize_nonce_shows_authority (ni : SystemInitializeNonceInfo) :
    (print_system_initialize_nonce_info none ni).sets (ShowsPubkey ni.authority) := by
  simp [print_system_initialize_nonce_info]

/-- A delegation shows an authority that is not the signer. -/
theorem print_initialize_and_delegate_shows_authority (si : StakeInitializeInfo)
    (sd : StakeDelegateInfo)
    (h : pubkeys_equal print_config.signer_pubkey sd.authorized_pubkey = false) :
    (do
      print_stake_initialize_info none si print_config
      print_delegate_stake_info none sd print_config).sets (ShowsPubkey sd.authorized_pubkey) := by
  have hshow := show_foreign_authority print_config h
  simp [print_delegate_stake_info, hshow]

/-- A token mint, account or multisig shows who funds it. -/
theorem print_rpl_token_create_mint_shows_authority (ca : SystemCreateAccountInfo)
    (im : RplTokenInitializeMintInfo)
    (h : pubkeys_equal print_config.signer_pubkey ca.from_ = false) :
    (print_rpl_token_create_mint print_config [.ProgramIdSystem (.SystemCreateAccount ca),
      .ProgramIdRplToken (.InitializeMint im)]).sets (ShowsPubkey ca.from_) := by
  have hshow := show_foreign_authority print_config h
  simp [print_rpl_token_create_mint, hshow]

/-- A new token account shows a payer that is not the signer. -/
theorem print_rpl_token_create_account_shows_authority (ca : SystemCreateAccountInfo)
    (ia : RplTokenInitializeAccountInfo)
    (h : pubkeys_equal print_config.signer_pubkey ca.from_ = false) :
    (print_rpl_token_create_account print_config [.ProgramIdSystem (.SystemCreateAccount ca),
      .ProgramIdRplToken (.InitializeAccount ia)]).sets (ShowsPubkey ca.from_) := by
  have hshow := show_foreign_authority print_config h
  simp [print_rpl_token_create_account, hshow]

/-- So does a new multisig. -/
theorem print_rpl_token_create_multisig_shows_authority (ca : SystemCreateAccountInfo)
    (im : RplTokenInitializeMultisigInfo)
    (h : pubkeys_equal print_config.signer_pubkey ca.from_ = false) :
    (print_rpl_token_create_multisig print_config [.ProgramIdSystem (.SystemCreateAccount ca),
      .ProgramIdRplToken (.InitializeMultisig im)]).sets (ShowsPubkey ca.from_) := by
  have hshow := show_foreign_authority print_config h
  simp [print_rpl_token_create_multisig, hshow]

/-- The funder of a token account that is filled at once is shown, and so is the owner of
the account that it is filled from. -/
theorem print_create_with_transfer_shows_authority (create : RplAssociatedTokenAccountCreateInfo)
    (transfer : RplTokenTransferInfo) {authority : PubkeyRef}
    (ha : authority ∈ [create.funder, transfer.sign.owner])
    (h : pubkeys_equal print_config.signer_pubkey authority = false) :
    (print_rpl_associated_token_account_create_with_transfer print_config
      [.ProgramIdRplAssociatedTokenAccount create,
        .ProgramIdRplToken (.TransferChecked transfer)]).sets (ShowsPubkey authority) := by
  rcases List.mem_pair.mp ha with rfl | rfl
  · simp [print_rpl_associated_token_account_create_with_transfer,
      print_rpl_associated_token_account_create_info]
  · simp [print_rpl_associated_token_account_create_with_transfer,
      print_rpl_token_transfer_info, print_rpl_token_sign_shows print_config h]

/-! ## The patterns that lose an authority -/

section User

variable {authority : PubkeyRef}
  (h : pubkeys_equal print_config.signer_pubkey authority = false)

include h

/-- A key that is not the signer is shown by the authority rule exactly when it is the
authority's. -/
theorem print_authority_shows_iff (title : String) (other : PubkeyRef) :
    (print_authority print_config title other).sets (ShowsPubkey authority) ↔
      other.key = authority.key := by
  rw [print_authority_sets, showsPubkey_pubkey]
  refine ⟨And.right, fun heq => ⟨?_, heq⟩⟩
  apply show_foreign_authority
  rw [pubkeys_equal, heq]
  exact h

/-- A foreign authority is not the signer. -/
theorem authority_ne_signer : authority.key ≠ print_config.signer_pubkey.key := by
  intro heq
  rw [pubkeys_equal, decide_eq_false_iff_not] at h
  exact h heq.symm

/-- In user mode, a key that is not the signer is shown by a stake split exactly when
it is one of the keys of the split. -/
theorem print_stake_split_info_shows_iff (ss : StakeSplitInfo) :
    (print_stake_split_info ss print_config).sets (ShowsPubkey authority) ↔
      authority.key ∈ split_pubkeys print_config.signer_pubkey ss := by
  have hne := authority_ne_signer print_config h
  have hauth := print_authority_shows_iff print_config h
  simp [print_stake_split_info, print_stake_split_info1, print_stake_split_info2, split_pubkeys,
    -print_authority_sets, hauth, hne, eq_comm, or_assoc]

/-- A split shows a foreign authority exactly when it is one of its own keys. -/
theorem print_split_shows_iff (hu : print_config.expert_mode = false) (base : PubkeyRef)
    (seed : SizedString) (ss : StakeSplitInfo) :
    (print_stake_split_with_seed.print_split print_config base seed ss).sets
        (ShowsPubkey authority) ↔
      authority.key ∈ split_pubkeys print_config.signer_pubkey ss := by
  have hne := authority_ne_signer print_config h
  have hauth := print_authority_shows_iff print_config h
  simp [print_stake_split_with_seed.print_split, print_stake_split_info1,
    print_stake_split_info2, split_pubkeys, -print_authority_sets, hauth, hne, hu, eq_comm,
    or_assoc]

/-- The merged stake authorities show exactly the keys listed for them. -/
theorem print_stake_authorize_both_shows_iff {staker withdrawer : StakeAuthorizeInfo}
    (hs : staker.authorize = .StakeAuthorizeStaker)
    (hw : withdrawer.authorize = .StakeAuthorizeWithdrawer) :
    (print_stake_authorize_both print_config [.ProgramIdStake (.StakeAuthorize staker),
      .ProgramIdStake (.StakeAuthorize withdrawer)]).sets (ShowsPubkey authority) ↔
      authority.key ∈ stake_authorize_pubkeys print_config.signer_pubkey staker withdrawer := by
  have hne := authority_ne_signer print_config h
  have hauth := print_authority_shows_iff print_config h
  -- one item or two for the new authorities, with or without a custodian
  by_cases haddr : staker.new_authority.addr = withdrawer.new_authority.addr <;>
    cases hc : withdrawer.custodian <;>
    simp [print_stake_authorize_both, stake_authorize_pubkeys, -print_authority_sets, hs, hw,
      haddr, hc, hauth, hne, eq_comm] <;>
    tauto

/-- The same for the vote program. -/
theorem print_vote_authorize_both_shows_iff {voter withdrawer : VoteAuthorizeInfo}
    (hv : voter.authorize = .VoteAuthorizeVoter)
    (hw : withdrawer.authorize = .VoteAuthorizeWithdrawer) :
    (print_vote_authorize_both print_config [.ProgramIdVote (.VoteAuthorize voter),
      .ProgramIdVote (.VoteAuthorize withdrawer)]).sets (ShowsPubkey authority) ↔
      authority.key ∈ vote_authorize_pubkeys print_config.signer_pubkey voter withdrawer := by
  have hne := authority_ne_signer print_config h
  have hauth := print_authority_shows_iff print_config h
  by_cases haddr : voter.new_authority.addr = withdrawer.new_authority.addr
  · simp [print_vote_authorize_both, vote_authorize_pubkeys, -print_authority_sets, hv, hw,
      haddr, hauth, hne, eq_comm]
  · simp [print_vote_authorize_both, vote_authorize_pubkeys, -print_authority_sets, hv, hw,
      haddr, hauth, hne, eq_comm]
    tauto

/-- In user mode every other recognised transaction shows its foreign authorities. -/
theorem Recognised.shows_authority {infos : List InstructionInfo} (hr : Recognised infos)
    (hu : print_config.expert_mode = false)
    (hn : ¬LosesAuthority print_config.signer_pubkey infos)
    (ha : authority ∈ infos.filterMap InstructionInfo.authority) :
    (print_transaction_nonce_processed print_config infos).sets (ShowsPubkey authority) := by
  cases hr with
  | @single info h' =>
    obtain ⟨i, hi, hi'⟩ := List.mem_filterMap.mp ha
    obtain rfl := List.mem_singleton.mp hi
    exact print_single_shows_authority print_config hi' h
  | create_stake_account ca si =>
    obtain rfl : authority = ca.from_ := List.mem_singleton.mp ha
    exact print_create_shows_authority print_config _ ca _ h
  | create_stake_account_checked ca si =>
    obtain rfl : authority = ca.from_ := List.mem_singleton.mp ha
    exact print_create_shows_authority print_config _ ca _ h
  | create_stake_account_with_seed cws si =>
    obtain rfl : authority = cws.from_ := List.mem_singleton.mp ha
    exact print_create_with_seed_shows_authority print_config _ cws _ h
  | create_stake_account_with_seed_checked cws si =>
    obtain rfl : authority = cws.from_ := List.mem_singleton.mp ha
    exact print_create_with_seed_shows_authority print_config _ cws _ h
  | create_nonce_account ca ni =>
    have ha' : authority ∈ [ca.from_, ni.authority] := ha
    rcases List.mem_pair.mp ha' with rfl | rfl
    · exact print_create_shows_authority print_config _ ca _ h
    · exact print_create_shows_rest print_config _ ca (print_initialize_nonce_shows_authority ni)
  | create_nonce_account_with_seed cws ni =>
    have ha' : authority ∈ [cws.from_, ni.authority] := ha
    rcases List.mem_pair.mp ha' with rfl | rfl
    · exact print_create_with_seed_shows_authority print_config _ cws _ h
    · exact print_create_with_seed_shows_rest print_config _ cws
        (print_initialize_nonce_shows_authority ni)
  | create_vote_account ca vi =>
    obtain rfl : authority = ca.from_ := List.mem_singleton.mp ha
    exact print_create_shows_authority print_config _ ca _ h
  | create_vote_account_with_seed cws vi =>
    obtain rfl : authority = cws.from_ := List.mem_singleton.mp ha
    exact print_create_with_seed_shows_authority print_config _ cws _ h
  | create_stake_account_and_delegate ca si sd =>
    have ha' : authority ∈ [ca.from_, sd.authorized_pubkey] := ha
    rcases List.mem_pair.mp ha' with rfl | rfl
    · exact print_create_shows_authority print_config _ ca _ h
    · exact print_create_shows_rest print_config _ ca
        (print_initialize_and_delegate_shows_authority print_config si sd h)
  | create_stake_account_with_seed_and_delegate cws si sd =>
    have ha' : authority ∈ [cws.from_, sd.authorized_pubkey] := ha
    rcases List.mem_pair.mp ha' with rfl | rfl
    · exact print_create_with_seed_shows_authority print_config _ cws _ h
    · exact print_create_with_seed_shows_rest print_config _ cws
        (print_initialize_and_delegate_shows_authority print_config si sd h)
  -- Only the second authority of a pair has an item of its own; the first one is shown if
  -- it is one of the other keys, and if it is not, it is lost, which `hn` excludes.
  | stake_authorize_both staker withdrawer hs hw =>
    have ha' : authority ∈ [staker.authority, withdrawer.authority] := ha
    apply (print_stake_authorize_both_shows_iff print_config h hs hw).mpr
    rcases List.mem_pair.mp ha' with rfl | rfl
    · exact not_not.mp fun hlost => hn ⟨hs, hw, hlost⟩
    · simp [stake_authorize_pubkeys]
  | stake_authorize_checked_both staker withdrawer hs hw =>
    have ha' : authority ∈ [staker.authority, withdrawer.authority] := ha
    apply (print_stake_authorize_both_shows_iff print_config h hs hw).mpr
    rcases List.mem_pair.mp ha' with rfl | rfl
    · exact not_not.mp fun hlost => hn ⟨hs, hw, hlost⟩
    · simp [stake_authorize_pubkeys]
  | vote_authorize_both voter withdrawer hv hw =>
    have ha' : authority ∈ [voter.authority, withdrawer.authority] := ha
    apply (print_vote_authorize_both_shows_iff print_config h hv hw).mpr
    rcases List.mem_pair.mp ha' with rfl | rfl
    · exact not_not.mp fun hlost => hn ⟨hv, hw, hlost⟩
    · simp [vote_authorize_pubkeys]
  | vote_authorize_checked_both voter withdrawer hv hw =>
    have ha' : authority ∈ [voter.authority, withdrawer.authority] := ha
    apply (print_vote_authorize_both_shows_iff print_config h hv hw).mpr
    rcases List.mem_pair.mp ha' with rfl | rfl
    · exact not_not.mp fun hlost => hn ⟨hv, hw, hlost⟩
    · simp [vote_authorize_pubkeys]
  | stake_split_with_seed_v1_1 aws ss =>
    obtain rfl : authority = ss.authority := List.mem_singleton.mp ha
    apply (print_split_shows_iff print_config h hu aws.base aws.seed ss).mpr
    simp [split_pubkeys]
  | stake_split_v1_1 al as ss =>
    obtain rfl : authority = ss.authority := List.mem_singleton.mp ha
    apply (print_stake_split_info_shows_iff print_config h ss).mpr
    simp [split_pubkeys]
  -- The funder of the new account has no item of its own in a split.
  | stake_split_v1_2 ca ss =>
    have ha' : authority ∈ [ca.from_, ss.authority] := ha
    apply (print_stake_split_info_shows_iff print_config h ss).mpr
    rcases List.mem_pair.mp ha' with rfl | rfl
    · exact not_not.mp hn
    · simp [split_pubkeys]
  | stake_split_with_seed_v1_2 cws ss =>
    have ha' : authority ∈ [cws.from_, ss.authority] := ha
    apply (print_split_shows_iff print_config h hu cws.base cws.seed ss).mpr
    rcases List.mem_pair.mp ha' with rfl | rfl
    · exact not_not.mp hn
    · simp [split_pubkeys]
  | rpl_token_create_mint ca im =>
    obtain rfl : authority = ca.from_ := List.mem_singleton.mp ha
    exact print_rpl_token_create_mint_shows_authority print_config ca im h
  | rpl_token_create_account ca ia =>
    obtain rfl : authority = ca.from_ := List.mem_singleton.mp ha
    exact print_rpl_token_create_account_shows_authority print_config ca ia h
  | rpl_token_create_account2 ca ia =>
    obtain rfl : authority = ca.from_ := List.mem_singleton.mp ha
    exact print_rpl_token_create_account_shows_authority print_config ca ia h
  | rpl_token_create_multisig ca im =>
    obtain rfl : authority = ca.from_ := List.mem_singleton.mp ha
    exact print_rpl_token_create_multisig_shows_authority print_config ca im h
  | rpl_associated_token_account_create_with_transfer create transfer =>
    exact print_create_with_transfer_shows_authority print_config create transfer ha h

end User

/-- A lost authority is foreign, and shown by nothing. -/
theorem LosesAuthority.hides {infos : List InstructionInfo}
    (hu : print_config.expert_mode = false)
    (hl : LosesAuthority print_config.signer_pubkey infos) :
    Recognised infos ∧ ∃ info ∈ infos, ∃ authority, info.authority = some authority ∧
      pubkeys_equal print_config.signer_pubkey authority = false ∧
      ¬(print_transaction_nonce_processed print_config infos).sets (ShowsPubkey authority) := by
  -- An authority that is lost is not the signer's: the signer heads each list of keys.
  have hforeign : ∀ {authority : PubkeyRef} {keys : List Pubkey},
      authority.key ∉ print_config.signer_pubkey.key :: keys →
      pubkeys_equal print_config.signer_pubkey authority = false := by
    intro authority keys hnot
    rw [pubkeys_equal, decide_eq_false_iff_not]
    intro heq
    exact hnot (heq ▸ List.mem_cons_self)
  unfold LosesAuthority at hl
  split at hl
  · rename_i ca ss
    have h := hforeign hl
    exact ⟨.stake_split_v1_2 ca ss, _, List.mem_cons_self, ca.from_, rfl, h,
      (print_stake_split_info_shows_iff print_config h ss).not.mpr hl⟩
  · rename_i cws ss
    have h := hforeign hl
    exact ⟨.stake_split_with_seed_v1_2 cws ss, _, List.mem_cons_self, cws.from_, rfl, h,
      (print_split_shows_iff print_config h hu cws.base cws.seed ss).not.mpr hl⟩
  · rename_i staker withdrawer
    obtain ⟨hs, hw, hl⟩ := hl
    have h := hforeign hl
    exact ⟨.stake_authorize_both staker withdrawer hs hw, _, List.mem_cons_self,
      staker.authority, rfl, h,
      (print_stake_authorize_both_shows_iff print_config h hs hw).not.mpr hl⟩
  · rename_i staker withdrawer
    obtain ⟨hs, hw, hl⟩ := hl
    have h := hforeign hl
    exact ⟨.stake_authorize_checked_both staker withdrawer hs hw, _, List.mem_cons_self,
      staker.authority, rfl, h,
      (print_stake_authorize_both_shows_iff print_config h hs hw).not.mpr hl⟩
  · rename_i voter withdrawer
    obtain ⟨hv, hw, hl⟩ := hl
    have h := hforeign hl
    exact ⟨.vote_authorize_both voter withdrawer hv hw, _, List.mem_cons_self,
      voter.authority, rfl, h,
      (print_vote_authorize_both_shows_iff print_config h hv hw).not.mpr hl⟩
  · rename_i voter withdrawer
    obtain ⟨hv, hw, hl⟩ := hl
    have h := hforeign hl
    exact ⟨.vote_authorize_checked_both voter withdrawer hv hw, _, List.mem_cons_self,
      voter.authority, rfl, h,
      (print_vote_authorize_both_shows_iff print_config h hv hw).not.mpr hl⟩
  · exact absurd hl id

end Printers

/-! ## Messages -/

/-- **Foreign authorities are shown in user mode exactly when** the message is none of
the stake splits and authorize pairs that lose one. -/
theorem authorities_shown_iff (message_body : Parser) (header : MessageHeader)
    (signer_pubkey : PubkeyRef) :
    (∀ summary infos, accepts message_body ⟨header, false, signer_pubkey⟩ summary →
      (parse_message_body header).run' message_body = some infos →
      AuthoritiesShown signer_pubkey infos summary) ↔
    ∀ infos, (parse_message_body header).run' message_body = some infos →
      ¬LosesAuthority signer_pubkey (strip_nonce (display_instruction_info infos)) := by
  let print_config : PrintConfig := ⟨header, false, signer_pubkey⟩
  constructor
  · intro h infos hp hl
    obtain ⟨hr, info, hi, authority, ha, hne, hhidden⟩ :=
      LosesAuthority.hides print_config rfl hl
    obtain ⟨summary, hacc⟩ : ∃ summary, accepts message_body print_config summary :=
      accepts_iff.mpr ⟨infos, hp, hr⟩
    have hshown := h summary infos hacc hp info hi authority ha hne
    rw [accepts_items hp hacc, print_transaction_sets_user print_config rfl] at hshown
    exact hhidden hshown
  · intro h summary infos hacc hp info hi authority ha hne
    have hr := accepts_recognised hp hacc
    rw [accepts_items hp hacc]
    apply print_transaction_sets print_config
    exact hr.shows_authority print_config hne rfl (h infos hp)
      (List.mem_filterMap.mpr ⟨info, hi, ha⟩)

/-- The staker is changed by one authority, the withdrawer by another one. -/
def lost_authority_message : Message where
  version := none
  num_required_signatures := 2
  num_readonly_signed_accounts := 1
  num_readonly_unsigned_accounts := 2
  pubkeys := [Pubkey.fill 1, Pubkey.fill 5, Pubkey.fill 2, Pubkey.fill 4, stake_program_id]
  blockhash := Hash.fill 9
  instructions :=
    [⟨4, [2, 3, 1], [1, 0, 0, 0] ++ (Pubkey.fill 8).data ++ [0, 0, 0, 0]⟩,
      ⟨4, [2, 3, 0], [1, 0, 0, 0] ++ (Pubkey.fill 8).data ++ [1, 0, 0, 0]⟩]
  version_lt := legacy_version_lt
  legacy_lt := fun _ => by decide
  pubkeys_lt := by decide
  instructions_lt := by decide
  accounts_lt := by decide
  data_lt := by decide

/-- The first authority is not shown to the second one, who signs. -/
theorem lost_authority_not_shown : ∃ header message_body infos summary,
    parse_message_header ⟨0, lost_authority_message.encode⟩ = some (header, message_body) ∧
    (parse_message_body header).run' message_body = some infos ∧
    accepts message_body ⟨header, false, ⟨4, Pubkey.fill 1⟩⟩ summary ∧
    ¬AuthoritiesShown ⟨4, Pubkey.fill 1⟩ infos summary := by
  exact review_any (by decide +kernel)

end RenecLedger
