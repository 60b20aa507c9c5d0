/-
Which transactions are recognised.

`Recognised` lists the transactions that the tables of `transaction_printers.c` let
through, and `print_transaction_nonce_processed_ok` says that these are exactly the
ones whose printing returns 0. Each of them fits in the summary, so printing one
never meets a taken slot (`print_transaction_fits`).
-/
import RenecLedger.PrinterSpec
import RenecLedger.TransactionPrinters

set_option autoImplicit false

namespace RenecLedger

/-! ## Matching briefs -/

section Matching

variable {info info₁ info₂ info₃ : InstructionInfo} {brief₁ brief₂ brief₃ : InstructionBrief}

/-- An info that matches a system brief is a system info of that kind. -/
theorem matches_system {kind : SystemInstructionKind}
    (h : instruction_info_matches_brief info (.system kind) = true) :
    ∃ system : SystemInfo, info = .ProgramIdSystem system ∧ system.kind = kind := by
  cases info with
  | ProgramIdSystem system => exact ⟨system, rfl, (of_decide_eq_true h).symm⟩
  | _ => cases h

/-- The same for the stake program. -/
theorem matches_stake {kind : StakeInstructionKind}
    (h : instruction_info_matches_brief info (.stake kind) = true) :
    ∃ stake : StakeInfo, info = .ProgramIdStake stake ∧ stake.kind = kind := by
  cases info with
  | ProgramIdStake stake => exact ⟨stake, rfl, (of_decide_eq_true h).symm⟩
  | _ => cases h

/-- The same for the vote program. -/
theorem matches_vote {kind : VoteInstructionKind}
    (h : instruction_info_matches_brief info (.vote kind) = true) :
    ∃ vote : VoteInfo, info = .ProgramIdVote vote ∧ vote.kind = kind := by
  cases info with
  | ProgramIdVote vote => exact ⟨vote, rfl, (of_decide_eq_true h).symm⟩
  | _ => cases h

/-- The same for the token program. -/
theorem matches_rpl_token {kind : RplTokenInstructionKind}
    (h : instruction_info_matches_brief info (.rpl_token kind) = true) :
    ∃ rpl_token : RplTokenInfo, info = .ProgramIdRplToken rpl_token ∧ rpl_token.kind = kind := by
  cases info with
  | ProgramIdRplToken rpl_token => exact ⟨rpl_token, rfl, (of_decide_eq_true h).symm⟩
  | _ => cases h

/-- The associated token program has one instruction, so its brief has no kind. -/
theorem matches_rpl_associated_token_account
    (h : instruction_info_matches_brief info .rpl_associated_token_account = true) :
    ∃ create, info = .ProgramIdRplAssociatedTokenAccount create := by
  cases info with
  | ProgramIdRplAssociatedTokenAccount create => exact ⟨create, rfl⟩
  | _ => cases h

/-- Two infos match a table of two when each matches its brief. -/
theorem match_two : instruction_infos_match_briefs [info₁, info₂] [brief₁, brief₂] 2 = true ↔
    instruction_info_matches_brief info₁ brief₁ = true ∧
      instruction_info_matches_brief info₂ brief₂ = true := by
  simp only [instruction_infos_match_briefs, Bool.and_true, Bool.and_eq_true]

/-- Two instructions, each with what its brief says about it. One such lemma serves all
tables of two: the shape of each info comes from the lemma about its own program. -/
theorem match_both {α β : Type} {f : α → InstructionInfo} {g : β → InstructionInfo}
    {P : α → Prop} {Q : β → Prop}
    (h : instruction_infos_match_briefs [info₁, info₂] [brief₁, brief₂] 2 = true)
    (hf : instruction_info_matches_brief info₁ brief₁ = true → ∃ a, info₁ = f a ∧ P a)
    (hg : instruction_info_matches_brief info₂ brief₂ = true → ∃ b, info₂ = g b ∧ Q b) :
    ∃ a b, info₁ = f a ∧ info₂ = g b ∧ P a ∧ Q b := by
  obtain ⟨h₁, h₂⟩ := match_two.mp h
  obtain ⟨a, ha, hP⟩ := hf h₁
  obtain ⟨b, hb, hQ⟩ := hg h₂
  exact ⟨a, b, ha, hb, hP, hQ⟩

/-- Three infos match a table of three when each matches its brief. -/
theorem match_three :
    instruction_infos_match_briefs [info₁, info₂, info₃] [brief₁, brief₂, brief₃] 3 = true ↔
    instruction_info_matches_brief info₁ brief₁ = true ∧
      instruction_info_matches_brief info₂ brief₂ = true ∧
      instruction_info_matches_brief info₃ brief₃ = true := by
  simp only [instruction_infos_match_briefs, Bool.and_true, Bool.and_eq_true]

end Matching

/-! ## The recognised transactions -/

/-- An instruction that its program's parser can return. The others are those that the
source names in its enums and whose tags its parsers reject, and the memos and unknown
programs, which are never printed. -/
def InstructionInfo.supported : InstructionInfo → Prop
  | .ProgramIdSystem system => system ≠ .SystemAssignWithSeed
  | .ProgramIdStake stake =>
    stake ≠ .StakeAuthorizeWithSeed ∧ stake ≠ .StakeAuthorizeCheckedWithSeed
  | .ProgramIdVote vote => vote ≠ .VoteVote ∧ vote ≠ .VoteSwitchVote
  | .ProgramIdRplToken rpl_token =>
    rpl_token ≠ .Transfer ∧ rpl_token ≠ .Approve ∧ rpl_token ≠ .MintTo ∧ rpl_token ≠ .Burn
  | .ProgramIdRplAssociatedTokenAccount _ => True
  | .ProgramIdRplMemo => False
  | .ProgramIdUnknown => False

/-- A single instruction, or the instructions of one of the tables; an authorize pair
names the staker or voter first and the withdrawer second. -/
inductive Recognised : List InstructionInfo → Prop
  | single {info : InstructionInfo} (h : info.supported) : Recognised [info]
  | create_stake_account (ca : SystemCreateAccountInfo) (si : StakeInitializeInfo) :
      Recognised [.ProgramIdSystem (.SystemCreateAccount ca),
        .ProgramIdStake (.StakeInitialize si)]
  | create_stake_account_checked (ca : SystemCreateAccountInfo) (si : StakeInitializeInfo) :
      Recognised [.ProgramIdSystem (.SystemCreateAccount ca),
        .ProgramIdStake (.StakeInitializeChecked si)]
  | create_stake_account_with_seed (cws : SystemCreateAccountWithSeedInfo)
      (si : StakeInitializeInfo) :
      Recognised [.ProgramIdSystem (.SystemCreateAccountWithSeed cws),
        .ProgramIdStake (.StakeInitialize si)]
  | create_stake_account_with_seed_checked (cws : SystemCreateAccountWithSeedInfo)
      (si : StakeInitializeInfo) :
      Recognised [.ProgramIdSystem (.SystemCreateAccountWithSeed cws),
        .ProgramIdStake (.StakeInitializeChecked si)]
  | create_nonce_account (ca : SystemCreateAccountInfo) (ni : SystemInitializeNonceInfo) :
      Recognised [.ProgramIdSystem (.SystemCreateAccount ca),
        .ProgramIdSystem (.SystemInitializeNonceAccount ni)]
  | create_nonce_account_with_seed (cws : SystemCreateAccountWithSeedInfo)
      (ni : SystemInitializeNonceInfo) :
      Recognised [.ProgramIdSystem (.SystemCreateAccountWithSeed cws),
        .ProgramIdSystem (.SystemInitializeNonceAccount ni)]
  | create_vote_account (ca : SystemCreateAccountInfo) (vi : VoteInitializeInfo) :
      Recognised [.ProgramIdSystem (.SystemCreateAccount ca),
        .ProgramIdVote (.VoteInitialize vi)]
  | create_vote_account_with_seed (cws : SystemCreateAccountWithSeedInfo)
      (vi : VoteInitializeInfo) :
      Recognised [.ProgramIdSystem (.SystemCreateAccountWithSeed cws),
        .ProgramIdVote (.VoteInitialize vi)]
  | stake_authorize_both (staker withdrawer : StakeAuthorizeInfo)
      (hs : staker.authorize = .StakeAuthorizeStaker)
      (hw : withdrawer.authorize = .StakeAuthorizeWithdrawer) :
      Recognised [.ProgramIdStake (.StakeAuthorize staker),
        .ProgramIdStake (.StakeAuthorize withdrawer)]
  | stake_authorize_checked_both (staker withdrawer : StakeAuthorizeInfo)
      (hs : staker.authorize = .StakeAuthorizeStaker)
      (hw : withdrawer.authorize = .StakeAuthorizeWithdrawer) :
      Recognised [.ProgramIdStake (.StakeAuthorizeChecked staker),
        .ProgramIdStake (.StakeAuthorizeChecked withdrawer)]
  | vote_authorize_both (voter withdrawer : VoteAuthorizeInfo)
      (hv : voter.authorize = .VoteAuthorizeVoter)
      (hw : withdrawer.authorize = .VoteAuthorizeWithdrawer) :
      Recognised [.ProgramIdVote (.VoteAuthorize voter),
        .ProgramIdVote (.VoteAuthorize withdrawer)]
  | vote_authorize_checked_both (voter withdrawer : VoteAuthorizeInfo)
      (hv : voter.authorize = .VoteAuthorizeVoter)
      (hw : withdrawer.authorize = .VoteAuthorizeWithdrawer) :
      Recognised [.ProgramIdVote (.VoteAuthorizeChecked voter),
        .ProgramIdVote (.VoteAuthorizeChecked withdrawer)]
  | stake_split_with_seed_v1_1 (aws : SystemAllocateWithSeedInfo) (ss : StakeSplitInfo) :
      Recognised [.ProgramIdSystem (.SystemAllocateWithSeed aws),
        .ProgramIdStake (.StakeSplit ss)]
  | stake_split_v1_2 (ca : SystemCreateAccountInfo) (ss : StakeSplitInfo) :
      Recognised [.ProgramIdSystem (.SystemCreateAccount ca), .ProgramIdStake (.StakeSplit ss)]
  | stake_split_with_seed_v1_2 (cws : SystemCreateAccountWithSeedInfo) (ss : StakeSplitInfo) :
      Recognised [.ProgramIdSystem (.SystemCreateAccountWithSeed cws),
        .ProgramIdStake (.StakeSplit ss)]
  | rpl_token_create_mint (ca : SystemCreateAccountInfo) (im : RplTokenInitializeMintInfo) :
      Recognised [.ProgramIdSystem (.SystemCreateAccount ca),
        .ProgramIdRplToken (.InitializeMint im)]
  | rpl_token_create_account (ca : SystemCreateAccountInfo) (ia : RplTokenInitializeAccountInfo) :
      Recognised [.ProgramIdSystem (.SystemCreateAccount ca),
        .ProgramIdRplToken (.InitializeAccount ia)]
  | rpl_token_create_account2 (ca : SystemCreateAccountInfo)
      (ia : RplTokenInitializeAccountInfo) :
      Recognised [.ProgramIdSystem (.SystemCreateAccount ca),
        .ProgramIdRplToken (.InitializeAccount2 ia)]
  | rpl_token_create_multisig (ca : SystemCreateAccountInfo)
      (im : RplTokenInitializeMultisigInfo) :
      Recognised [.ProgramIdSystem (.SystemCreateAccount ca),
        .ProgramIdRplToken (.InitializeMultisig im)]
  | rpl_associated_token_account_create_with_transfer
      (create : RplAssociatedTokenAccountCreateInfo) (transfer : RplTokenTransferInfo) :
      Recognised [.ProgramIdRplAssociatedTokenAccount create,
        .ProgramIdRplToken (.TransferChecked transfer)]
  | create_stake_account_and_delegate (ca : SystemCreateAccountInfo) (si : StakeInitializeInfo)
      (sd : StakeDelegateInfo) :
      Recognised [.ProgramIdSystem (.SystemCreateAccount ca),
        .ProgramIdStake (.StakeInitialize si), .ProgramIdStake (.StakeDelegate sd)]
  | create_stake_account_with_seed_and_delegate (cws : SystemCreateAccountWithSeedInfo)
      (si : StakeInitializeInfo) (sd : StakeDelegateInfo) :
      Recognised [.ProgramIdSystem (.SystemCreateAccountWithSeed cws),
        .ProgramIdStake (.StakeInitialize si), .ProgramIdStake (.StakeDelegate sd)]
  | stake_split_v1_1 (al : SystemAllocateInfo) (as : SystemAssignInfo) (ss : StakeSplitInfo) :
      Recognised [.ProgramIdSystem (.SystemAllocate al), .ProgramIdSystem (.SystemAssign as),
        .ProgramIdStake (.StakeSplit ss)]

/-! ## Printing a recognised transaction -/

/-- A printer that returns 0 and sets at most one primary and eleven general items. With
the nonce items and the fee payer this is all the room there is. -/
structure SummaryM.Prints (p : SummaryM Unit) : Prop where
  result : p.result = some ()
  within : p.Within 1 NUM_GENERAL_ITEMS

section Printing

variable (print_config : PrintConfig)

/-- A supported instruction on its own is printed without an error and within the room. -/
theorem print_single_prints (info : InstructionInfo) (h : info.supported) :
    (print_transaction_nonce_processed print_config [info]).Prints := by
  cases info with
  | ProgramIdSystem system =>
    exact ⟨(print_system_info_result print_config system).mpr h,
      (print_system_info_within print_config system).mono (by decide) (by decide)⟩
  | ProgramIdStake stake =>
    exact ⟨(print_stake_info_result print_config stake).mpr h,
      (print_stake_info_within print_config stake).mono (by decide) (by decide)⟩
  | ProgramIdVote vote =>
    exact ⟨(print_vote_info_result print_config vote).mpr h,
      (print_vote_info_within print_config vote).mono (by decide) (by decide)⟩
  | ProgramIdRplToken rpl_token =>
    exact ⟨(print_rpl_token_info_result print_config rpl_token).mpr h,
      (print_rpl_token_info_within print_config rpl_token).mono (by decide) (by decide)⟩
  | ProgramIdRplAssociatedTokenAccount create =>
    exact ⟨rfl,
      (print_rpl_associated_token_account_create_info_within create).mono (by decide) (by decide)⟩
  | ProgramIdRplMemo => exact absurd h id
  | ProgramIdUnknown => exact absurd h id

/-- The creation of an account, shown under its own title, followed by the printer of
what the account is created for. -/
theorem print_create_prints (title : String) (ca : SystemCreateAccountInfo)
    {p : SummaryM Unit} {n : ℕ} (hr : p.result = some ()) (hp : p.Within 0 n) (hn : n ≤ 7) :
    SummaryM.Prints (do
      summary_item_set_pubkey .primary title ca.to_
      print_system_create_account_info none ca print_config
      p) where
  result := by simp [hr]
  within := ((within_set_primary _ _).bind
    ((print_system_create_account_info_within print_config ca).bind hp)).mono
      (by decide) (by simp only [NUM_GENERAL_ITEMS]; omega)

/-- The front half of the patterns with a seed leaves room for seven general items. -/
theorem print_create_with_seed_prints (title : String) (cws : SystemCreateAccountWithSeedInfo)
    {p : SummaryM Unit} {n : ℕ} (hr : p.result = some ()) (hp : p.Within 0 n) (hn : n ≤ 7) :
    SummaryM.Prints (do
      summary_item_set_pubkey .primary title cws.to_
      print_system_create_account_with_seed_info none cws print_config
      p) where
  result := by simp [hr]
  within := ((within_set_primary _ _).bind
    ((print_system_create_account_with_seed_info_within print_config cws).bind hp)).mono
      (by decide) (by simp only [NUM_GENERAL_ITEMS]; omega)

/-- The stake account that is delegated at once: the longest summary there is. -/
theorem print_initialize_and_delegate_within (si : StakeInitializeInfo) (sd : StakeDelegateInfo) :
    (do
      print_stake_initialize_info none si print_config
      print_delegate_stake_info none sd print_config).Within 0 7 :=
  ((print_stake_initialize_info_within print_config si).bind
    (print_delegate_stake_info_within print_config sd)).mono (by decide) (by decide)

/-- Either form of a split with a seed is printed within the room. -/
theorem print_split_prints (base : PubkeyRef) (seed : SizedString) (ss : StakeSplitInfo) :
    (print_stake_split_with_seed.print_split print_config base seed ss).Prints where
  result := by simp [print_stake_split_with_seed.print_split, print_stake_split_info2]
  within := by
    constructor <;>
      simp [print_stake_split_with_seed.print_split, print_stake_split_info1,
        print_stake_split_info2, NUM_GENERAL_ITEMS]
    grind

/-- In the order the printer asks for, both authorities are printed. -/
theorem print_stake_authorize_both_prints {staker withdrawer : StakeAuthorizeInfo}
    (hs : staker.authorize = .StakeAuthorizeStaker)
    (hw : withdrawer.authorize = .StakeAuthorizeWithdrawer) :
    (print_stake_authorize_both print_config
      [.ProgramIdStake (.StakeAuthorize staker),
        .ProgramIdStake (.StakeAuthorize withdrawer)]).Prints where
  result := by simp [print_stake_authorize_both, hs, hw]
  within := by
    constructor <;> simp [print_stake_authorize_both, hs, hw, NUM_GENERAL_ITEMS] <;> grind

/-- The same for the vote program. -/
theorem print_vote_authorize_both_prints {voter withdrawer : VoteAuthorizeInfo}
    (hv : voter.authorize = .VoteAuthorizeVoter)
    (hw : withdrawer.authorize = .VoteAuthorizeWithdrawer) :
    (print_vote_authorize_both print_config
      [.ProgramIdVote (.VoteAuthorize voter), .ProgramIdVote (.VoteAuthorize withdrawer)]).Prints
    where
  result := by simp [print_vote_authorize_both, hv, hw]
  within := by
    constructor <;> simp [print_vote_authorize_both, hv, hw, NUM_GENERAL_ITEMS]
    grind

/-- A new mint is printed within the room. -/
theorem print_rpl_token_create_mint_prints (ca : SystemCreateAccountInfo)
    (im : RplTokenInitializeMintInfo) :
    (print_rpl_token_create_mint print_config
      [.ProgramIdSystem (.SystemCreateAccount ca),
        .ProgramIdRplToken (.InitializeMint im)]).Prints where
  result := by simp [print_rpl_token_create_mint]
  within := by
    constructor <;> simp [print_rpl_token_create_mint, NUM_GENERAL_ITEMS] <;> grind

/-- A new token account is printed within the room. -/
theorem print_rpl_token_create_account_prints (ca : SystemCreateAccountInfo)
    (ia : RplTokenInitializeAccountInfo) :
    (print_rpl_token_create_account print_config
      [.ProgramIdSystem (.SystemCreateAccount ca),
        .ProgramIdRplToken (.InitializeAccount ia)]).Prints where
  result := by simp [print_rpl_token_create_account]
  within := by
    constructor <;> simp [print_rpl_token_create_account, NUM_GENERAL_ITEMS]
    grind

/-- A new multisig is printed within the room. -/
theorem print_rpl_token_create_multisig_prints (ca : SystemCreateAccountInfo)
    (im : RplTokenInitializeMultisigInfo) :
    (print_rpl_token_create_multisig print_config
      [.ProgramIdSystem (.SystemCreateAccount ca),
        .ProgramIdRplToken (.InitializeMultisig im)]).Prints where
  result := by simp [print_rpl_token_create_multisig]
  within := by
    constructor <;>
      simp [print_rpl_token_create_multisig, summary_item_set_multisig_m_of_n,
        NUM_GENERAL_ITEMS] <;>
      grind

/-- A token account with a transfer is printed within the room: three items and five. -/
theorem print_rpl_associated_token_account_create_with_transfer_prints
    (create : RplAssociatedTokenAccountCreateInfo) (transfer : RplTokenTransferInfo) :
    (print_rpl_associated_token_account_create_with_transfer print_config
      [.ProgramIdRplAssociatedTokenAccount create,
        .ProgramIdRplToken (.TransferChecked transfer)]).Prints where
  result := rfl
  within := ((print_rpl_associated_token_account_create_info_within create).ignore_rc.bind
    (print_rpl_token_transfer_info_within print_config transfer).ignore_rc).mono
      (by decide) (by decide)

/-- A recognised transaction is printed, and fits in the summary. The cases are those of
`Recognised`, each by the lemma about its own printer above. -/
theorem Recognised.prints {infos : List InstructionInfo} (h : Recognised infos) :
    (print_transaction_nonce_processed print_config infos).Prints := by
  -- A printer of a pair is the one of its first instruction followed by a tail: the title
  -- differs, the tail returns and the items of both fit together.
  cases h with
  | single h => exact print_single_prints print_config _ h
  | create_stake_account ca si =>
    exact print_create_prints print_config "Create stake acct" ca
      (print_stake_initialize_info_result print_config none si)
      (print_stake_initialize_info_within print_config si) (by decide)
  | create_stake_account_checked ca si =>
    exact print_create_prints print_config "Create stake acct" ca
      (print_stake_initialize_info_result print_config none si)
      (print_stake_initialize_info_within print_config si) (by decide)
  | create_stake_account_with_seed cws si =>
    exact print_create_with_seed_prints print_config "Create stake acct" cws
      (print_stake_initialize_info_result print_config none si)
      (print_stake_initialize_info_within print_config si) (by decide)
  | create_stake_account_with_seed_checked cws si =>
    exact print_create_with_seed_prints print_config "Create stake acct" cws
      (print_stake_initialize_info_result print_config none si)
      (print_stake_initialize_info_within print_config si) (by decide)
  | create_nonce_account ca ni =>
    exact print_create_prints print_config "Create nonce acct" ca
      (print_system_initialize_nonce_info_result none ni)
      (print_system_initialize_nonce_info_within ni) (by decide)
  | create_nonce_account_with_seed cws ni =>
    exact print_create_with_seed_prints print_config "Create nonce acct" cws
      (print_system_initialize_nonce_info_result none ni)
      (print_system_initialize_nonce_info_within ni) (by decide)
  | create_vote_account ca vi =>
    exact print_create_prints print_config "Create vote acct" ca
      (print_vote_initialize_info_result none vi)
      (print_vote_initialize_info_within vi) (by decide)
  | create_vote_account_with_seed cws vi =>
    exact print_create_with_seed_prints print_config "Create vote acct" cws
      (print_vote_initialize_info_result none vi)
      (print_vote_initialize_info_within vi) (by decide)
  | stake_authorize_both staker withdrawer hs hw =>
    exact print_stake_authorize_both_prints print_config hs hw
  | stake_authorize_checked_both staker withdrawer hs hw =>
    exact print_stake_authorize_both_prints print_config hs hw
  | vote_authorize_both voter withdrawer hv hw =>
    exact print_vote_authorize_both_prints print_config hv hw
  | vote_authorize_checked_both voter withdrawer hv hw =>
    exact print_vote_authorize_both_prints print_config hv hw
  | stake_split_with_seed_v1_1 aws ss => exact print_split_prints print_config aws.base aws.seed ss
  | stake_split_v1_2 ca ss =>
    exact print_single_prints print_config (.ProgramIdStake (.StakeSplit ss)) ⟨nofun, nofun⟩
  | stake_split_with_seed_v1_2 cws ss =>
    exact print_split_prints print_config cws.base cws.seed ss
  | rpl_token_create_mint ca im => exact print_rpl_token_create_mint_prints print_config ca im
  | rpl_token_create_account ca ia =>
    exact print_rpl_token_create_account_prints print_config ca ia
  | rpl_token_create_account2 ca ia =>
    exact print_rpl_token_create_account_prints print_config ca ia
  | rpl_token_create_multisig ca im =>
    exact print_rpl_token_create_multisig_prints print_config ca im
  | rpl_associated_token_account_create_with_transfer create transfer =>
    exact print_rpl_associated_token_account_create_with_transfer_prints print_config create
      transfer
  | create_stake_account_and_delegate ca si sd =>
    exact print_create_prints print_config "Delegate from" ca (by simp)
      (print_initialize_and_delegate_within print_config si sd) (by decide)
  | create_stake_account_with_seed_and_delegate cws si sd =>
    exact print_create_with_seed_prints print_config "Delegate from" cws (by simp)
      (print_initialize_and_delegate_within print_config si sd) (by decide)
  | stake_split_v1_1 al as ss =>
    exact print_single_prints print_config (.ProgramIdStake (.StakeSplit ss)) ⟨nofun, nofun⟩

/-! ## What is printed is recognised -/

/-- Conversely, an instruction that is printed on its own is supported. -/
theorem print_single_supported {info : InstructionInfo}
    (h : (print_transaction_nonce_processed print_config [info]).result = some ()) :
    info.supported := by
  cases info with
  | ProgramIdSystem system => exact (print_system_info_result print_config system).mp h
  | ProgramIdStake stake => exact (print_stake_info_result print_config stake).mp h
  | ProgramIdVote vote => exact (print_vote_info_result print_config vote).mp h
  | ProgramIdRplToken rpl_token => exact (print_rpl_token_info_result print_config rpl_token).mp h
  | ProgramIdRplAssociatedTokenAccount create => exact trivial
  | ProgramIdRplMemo => cases h
  | ProgramIdUnknown => cases h

/-- The tables of two instructions. -/
def two_instruction_briefs : List (List InstructionBrief) :=
  [create_stake_account_brief, create_stake_account_checked_brief,
    create_stake_account_with_seed_brief, create_stake_account_with_seed_checked_brief,
    create_nonce_account_brief, create_nonce_account_with_seed_brief,
    create_vote_account_brief, create_vote_account_with_seed_brief,
    stake_authorize_both_brief, stake_authorize_checked_both_brief,
    vote_authorize_both_brief, vote_authorize_checked_both_brief,
    stake_split_with_seed_brief_v1_1, stake_split_brief_v1_2, stake_split_with_seed_brief_v1_2,
    rpl_token_create_mint_brief, rpl_token_create_account_brief,
    rpl_token_create_account2_brief, rpl_token_create_multisig_brief,
    rpl_associated_token_account_create_with_transfer_brief]

/-- The tables of three instructions. -/
def three_instruction_briefs : List (List InstructionBrief) :=
  [create_stake_account_and_delegate_brief, create_stake_account_with_seed_and_delegate_brief,
    stake_split_brief_v1_1]

/-- An authorize pair names the staker or voter first and the withdrawer second; any
other transaction is in order. The tables cannot tell the two orders apart, so the
merged printers check it. -/
def authorize_in_order : List InstructionInfo → Bool
  | [.ProgramIdStake (.StakeAuthorize first), .ProgramIdStake (.StakeAuthorize second)]
  | [.ProgramIdStake (.StakeAuthorizeChecked first),
      .ProgramIdStake (.StakeAuthorizeChecked second)] =>
    first.authorize = .StakeAuthorizeStaker ∧ second.authorize = .StakeAuthorizeWithdrawer
  | [.ProgramIdVote (.VoteAuthorize first), .ProgramIdVote (.VoteAuthorize second)]
  | [.ProgramIdVote (.VoteAuthorizeChecked first),
      .ProgramIdVote (.VoteAuthorizeChecked second)] =>
    first.authorize = .VoteAuthorizeVoter ∧ second.authorize = .VoteAuthorizeWithdrawer
  | _ => true

/-- Two instructions that no table matches are not printed. -/
theorem print_two_matches {infos : List InstructionInfo}
    (h : (print_two_instructions print_config infos 2).result = some ()) :
    ∃ briefs ∈ two_instruction_briefs, instruction_infos_match_briefs infos briefs 2 = true := by
  by_contra hno
  have hfalse : ∀ briefs ∈ two_instruction_briefs,
      instruction_infos_match_briefs infos briefs 2 = false := by
    intro briefs hb
    exact Bool.eq_false_iff.mpr fun hm => hno ⟨briefs, hb, hm⟩
  simp only [two_instruction_briefs, List.forall_mem_cons, List.not_mem_nil,
    false_implies, implies_true, and_true] at hfalse
  simp [print_two_instructions, hfalse] at h

/-- Three instructions that are printed match one of the tables of three. -/
theorem print_three_matches {infos : List InstructionInfo}
    (h : (print_three_instructions print_config infos 3).result = some ()) :
    ∃ briefs ∈ three_instruction_briefs, instruction_infos_match_briefs infos briefs 3 = true := by
  by_contra hno
  have hfalse : ∀ briefs ∈ three_instruction_briefs,
      instruction_infos_match_briefs infos briefs 3 = false := by
    intro briefs hb
    exact Bool.eq_false_iff.mpr fun hm => hno ⟨briefs, hb, hm⟩
  simp only [three_instruction_briefs, List.forall_mem_cons, List.not_mem_nil,
    false_implies, implies_true, and_true] at hfalse
  simp [print_three_instructions, hfalse] at h

/-- The sanity check of the authorize pairs. -/
theorem print_stake_authorize_both_order {staker withdrawer : StakeAuthorizeInfo}
    (h : (print_stake_authorize_both print_config [.ProgramIdStake (.StakeAuthorize staker),
      .ProgramIdStake (.StakeAuthorize withdrawer)]).result = some ()) :
    staker.authorize = .StakeAuthorizeStaker ∧
      withdrawer.authorize = .StakeAuthorizeWithdrawer := by
  by_contra hno
  rw [not_and_or] at hno
  rcases hno with hno | hno <;> simp [print_stake_authorize_both, hno] at h

/-- Both authorities are printed in one order only: the voter's first. -/
theorem print_vote_authorize_both_order {voter withdrawer : VoteAuthorizeInfo}
    (h : (print_vote_authorize_both print_config [.ProgramIdVote (.VoteAuthorize voter),
      .ProgramIdVote (.VoteAuthorize withdrawer)]).result = some ()) :
    voter.authorize = .VoteAuthorizeVoter ∧ withdrawer.authorize = .VoteAuthorizeWithdrawer := by
  by_contra hno
  rw [not_and_or] at hno
  rcases hno with hno | hno <;> simp [print_vote_authorize_both, hno] at h

/-- An authorize pair passes its sanity check. -/
theorem print_two_in_order {infos : List InstructionInfo}
    (h : (print_two_instructions print_config infos 2).result = some ()) :
    authorize_in_order infos = true := by
  fun_cases authorize_in_order infos with
  | case1 first second => exact decide_eq_true (print_stake_authorize_both_order print_config h)
  | case2 first second => exact decide_eq_true (print_stake_authorize_both_order print_config h)
  | case3 first second => exact decide_eq_true (print_vote_authorize_both_order print_config h)
  | case4 first second => exact decide_eq_true (print_vote_authorize_both_order print_config h)
  | case5 => rfl

/-- A table of two that matches is a recognised transaction, if the authorities are in
order. The proof goes through the tables, and reads off the two constructors from each. -/
theorem Recognised.of_two_briefs {info₁ info₂ : InstructionInfo} {briefs : List InstructionBrief}
    (hb : briefs ∈ two_instruction_briefs)
    (hm : instruction_infos_match_briefs [info₁, info₂] briefs 2 = true)
    (ho : authorize_in_order [info₁, info₂] = true) : Recognised [info₁, info₂] := by
  simp only [two_instruction_briefs, List.mem_cons, List.not_mem_nil, or_false] at hb
  rcases hb with rfl | rfl | rfl | rfl | rfl | rfl | rfl | rfl | rfl | rfl | rfl | rfl | rfl |
    rfl | rfl | rfl | rfl | rfl | rfl | rfl
  · -- create_stake_account
    obtain ⟨system, stake, rfl, rfl, hk₁, hk₂⟩ := match_both hm matches_system matches_stake
    cases system <;> cases hk₁
    cases stake <;> cases hk₂
    exact .create_stake_account _ _
  · -- create_stake_account_checked
    obtain ⟨system, stake, rfl, rfl, hk₁, hk₂⟩ := match_both hm matches_system matches_stake
    cases system <;> cases hk₁
    cases stake <;> cases hk₂
    exact .create_stake_account_checked _ _
  · -- create_stake_account_with_seed
    obtain ⟨system, stake, rfl, rfl, hk₁, hk₂⟩ := match_both hm matches_system matches_stake
    cases system <;> cases hk₁
    cases stake <;> cases hk₂
    exact .create_stake_account_with_seed _ _
  · -- create_stake_account_with_seed_checked
    obtain ⟨system, stake, rfl, rfl, hk₁, hk₂⟩ := match_both hm matches_system matches_stake
    cases system <;> cases hk₁
    cases stake <;> cases hk₂
    exact .create_stake_account_with_seed_checked _ _
  · -- create_nonce_account
    obtain ⟨system, system', rfl, rfl, hk₁, hk₂⟩ := match_both hm matches_system matches_system
    cases system <;> cases hk₁
    cases system' <;> cases hk₂
    exact .create_nonce_account _ _
  · -- create_nonce_account_with_seed
    obtain ⟨system, system', rfl, rfl, hk₁, hk₂⟩ := match_both hm matches_system matches_system
    cases system <;> cases hk₁
    cases system' <;> cases hk₂
    exact .create_nonce_account_with_seed _ _
  · -- create_vote_account
    obtain ⟨system, vote, rfl, rfl, hk₁, hk₂⟩ := match_both hm matches_system matches_vote
    cases system <;> cases hk₁
    cases vote <;> cases hk₂
    exact .create_vote_account _ _
  · -- create_vote_account_with_seed
    obtain ⟨system, vote, rfl, rfl, hk₁, hk₂⟩ := match_both hm matches_system matches_vote
    cases system <;> cases hk₁
    cases vote <;> cases hk₂
    exact .create_vote_account_with_seed _ _
  · -- stake_authorize_both
    obtain ⟨stake, stake', rfl, rfl, hk₁, hk₂⟩ := match_both hm matches_stake matches_stake
    cases stake <;> cases hk₁
    cases stake' <;> cases hk₂
    obtain ⟨ho₁, ho₂⟩ := of_decide_eq_true ho
    exact .stake_authorize_both _ _ ho₁ ho₂
  · -- stake_authorize_checked_both
    obtain ⟨stake, stake', rfl, rfl, hk₁, hk₂⟩ := match_both hm matches_stake matches_stake
    cases stake <;> cases hk₁
    cases stake' <;> cases hk₂
    obtain ⟨ho₁, ho₂⟩ := of_decide_eq_true ho
    exact .stake_authorize_checked_both _ _ ho₁ ho₂
  · -- vote_authorize_both
    obtain ⟨vote, vote', rfl, rfl, hk₁, hk₂⟩ := match_both hm matches_vote matches_vote
    cases vote <;> cases hk₁
    cases vote' <;> cases hk₂
    obtain ⟨ho₁, ho₂⟩ := of_decide_eq_true ho
    exact .vote_authorize_both _ _ ho₁ ho₂
  · -- vote_authorize_checked_both
    obtain ⟨vote, vote', rfl, rfl, hk₁, hk₂⟩ := match_both hm matches_vote matches_vote
    cases vote <;> cases hk₁
    cases vote' <;> cases hk₂
    obtain ⟨ho₁, ho₂⟩ := of_decide_eq_true ho
    exact .vote_authorize_checked_both _ _ ho₁ ho₂
  · -- stake_split_with_seed_v1_1
    obtain ⟨system, stake, rfl, rfl, hk₁, hk₂⟩ := match_both hm matches_system matches_stake
    cases system <;> cases hk₁
    cases stake <;> cases hk₂
    exact .stake_split_with_seed_v1_1 _ _
  · -- stake_split_v1_2
    obtain ⟨system, stake, rfl, rfl, hk₁, hk₂⟩ := match_both hm matches_system matches_stake
    cases system <;> cases hk₁
    cases stake <;> cases hk₂
    exact .stake_split_v1_2 _ _
  · -- stake_split_with_seed_v1_2
    obtain ⟨system, stake, rfl, rfl, hk₁, hk₂⟩ := match_both hm matches_system matches_stake
    cases system <;> cases hk₁
    cases stake <;> cases hk₂
    exact .stake_split_with_seed_v1_2 _ _
  · -- rpl_token_create_mint
    obtain ⟨system, rpl_token, rfl, rfl, hk₁, hk₂⟩ := match_both hm matches_system matches_rpl_token
    cases system <;> cases hk₁
    cases rpl_token <;> cases hk₂
    exact .rpl_token_create_mint _ _
  · -- rpl_token_create_account
    obtain ⟨system, rpl_token, rfl, rfl, hk₁, hk₂⟩ := match_both hm matches_system matches_rpl_token
    cases system <;> cases hk₁
    cases rpl_token <;> cases hk₂
    exact .rpl_token_create_account _ _
  · -- rpl_token_create_account2
    obtain ⟨system, rpl_token, rfl, rfl, hk₁, hk₂⟩ := match_both hm matches_system matches_rpl_token
    cases system <;> cases hk₁
    cases rpl_token <;> cases hk₂
    exact .rpl_token_create_account2 _ _
  · -- rpl_token_create_multisig
    obtain ⟨system, rpl_token, rfl, rfl, hk₁, hk₂⟩ := match_both hm matches_system matches_rpl_token
    cases system <;> cases hk₁
    cases rpl_token <;> cases hk₂
    exact .rpl_token_create_multisig _ _
  · -- rpl_associated_token_account_create_with_transfer
    obtain ⟨hm₁, hm₂⟩ := match_two.mp hm
    obtain ⟨create, rfl⟩ := matches_rpl_associated_token_account hm₁
    obtain ⟨rpl_token, rfl, hk₂⟩ := matches_rpl_token hm₂
    cases rpl_token <;> cases hk₂
    exact .rpl_associated_token_account_create_with_transfer _ _

/-- A table of three that matches is a recognised transaction. -/
theorem Recognised.of_three_briefs {info₁ info₂ info₃ : InstructionInfo}
    {briefs : List InstructionBrief} (hb : briefs ∈ three_instruction_briefs)
    (hm : instruction_infos_match_briefs [info₁, info₂, info₃] briefs 3 = true) :
    Recognised [info₁, info₂, info₃] := by
  simp only [three_instruction_briefs, List.mem_cons, List.not_mem_nil, or_false] at hb
  rcases hb with rfl | rfl | rfl
  · -- create_stake_account_and_delegate
    obtain ⟨hm₁, hm₂, hm₃⟩ := match_three.mp hm
    obtain ⟨system, rfl, hk₁⟩ := matches_system hm₁
    obtain ⟨stake, rfl, hk₂⟩ := matches_stake hm₂
    obtain ⟨stake', rfl, hk₃⟩ := matches_stake hm₃
    cases system <;> cases hk₁
    cases stake <;> cases hk₂
    cases stake' <;> cases hk₃
    exact .create_stake_account_and_delegate _ _ _
  · -- create_stake_account_with_seed_and_delegate
    obtain ⟨hm₁, hm₂, hm₃⟩ := match_three.mp hm
    obtain ⟨system, rfl, hk₁⟩ := matches_system hm₁
    obtain ⟨stake, rfl, hk₂⟩ := matches_stake hm₂
    obtain ⟨stake', rfl, hk₃⟩ := matches_stake hm₃
    cases system <;> cases hk₁
    cases stake <;> cases hk₂
    cases stake' <;> cases hk₃
    exact .create_stake_account_with_seed_and_delegate _ _ _
  · -- stake_split_v1_1
    obtain ⟨hm₁, hm₂, hm₃⟩ := match_three.mp hm
    obtain ⟨system, rfl, hk₁⟩ := matches_system hm₁
    obtain ⟨system', rfl, hk₂⟩ := matches_system hm₂
    obtain ⟨stake, rfl, hk₃⟩ := matches_stake hm₃
    cases system <;> cases hk₁
    cases system' <;> cases hk₂
    cases stake <;> cases hk₃
    exact .stake_split_v1_1 _ _ _

/-- What printing returns 0 on is what is recognised. So a question about all accepted
messages becomes one about the constructors of `Recognised`. -/
theorem print_transaction_nonce_processed_ok {infos : List InstructionInfo} :
    (print_transaction_nonce_processed print_config infos).result = some () ↔
      Recognised infos := by
  constructor
  · intro h
    match infos with
    | [] => cases h
    | [info] => exact .single (print_single_supported print_config h)
    | [info₁, info₂] =>
      obtain ⟨briefs, hb, hm⟩ := print_two_matches print_config h
      exact .of_two_briefs hb hm (print_two_in_order print_config h)
    | [info₁, info₂, info₃] =>
      obtain ⟨briefs, hb, hm⟩ := print_three_matches print_config h
      exact .of_three_briefs hb hm
    | _ :: _ :: _ :: _ :: _ => cases h
  · intro h
    exact (h.prints print_config).result

/-! ## The nonce instruction -/

/-- What is left to print once a leading advance-nonce instruction with others after it
has been taken off. One that stands alone is printed itself. -/
def strip_nonce : List InstructionInfo → List InstructionInfo
  | .ProgramIdSystem (.SystemAdvanceNonceAccount _) :: info :: infos => info :: infos
  | infos => infos

/-- Either the instruction in front is taken off and only its items are added, or
nothing is. -/
theorem print_transaction_cases (infos : List InstructionInfo) :
    (∃ nonce, infos = .ProgramIdSystem (.SystemAdvanceNonceAccount nonce) :: strip_nonce infos ∧
      print_transaction print_config infos = do
        (print_system_nonced_transaction_sentinel nonce print_config).ignore_rc
        print_transaction_nonce_processed print_config (strip_nonce infos)) ∨
    (strip_nonce infos = infos ∧
      print_transaction print_config infos =
        print_transaction_nonce_processed print_config infos) := by
  fun_cases strip_nonce infos with
  | case1 nonce info rest => exact Or.inl ⟨nonce, rfl, rfl⟩
  | case2 infos hno => exact Or.inr ⟨rfl, by rw [print_transaction]; exact hno⟩

/-- A transaction is printed exactly when what is behind its nonce is recognised. -/
theorem print_transaction_ok {infos : List InstructionInfo} :
    (print_transaction print_config infos).result = some () ↔
      Recognised (strip_nonce infos) := by
  rcases print_transaction_cases print_config infos with ⟨nonce, -, h⟩ | ⟨hs, h⟩
  · rw [h, SummaryM.bind_result, SummaryM.ignore_rc_result, Option.bind_some,
      print_transaction_nonce_processed_ok]
  · rw [h, hs, print_transaction_nonce_processed_ok]

/-- Everything fits in the summary, the two nonce items of expert mode included, which
have slots of their own. -/
theorem print_transaction_fits {infos : List InstructionInfo}
    (hr : Recognised (strip_nonce infos)) : (print_transaction print_config infos).Fits := by
  have hw := (hr.prints print_config).within
  rcases print_transaction_cases print_config infos with ⟨nonce, -, h⟩ | ⟨hs, h⟩
  · rw [h]
    have hcount := fun slot => SummaryM.count_bind slot
      (print_system_nonced_transaction_sentinel nonce print_config).ignore_rc
      fun _ => print_transaction_nonce_processed print_config (strip_nonce infos)
    simp only [SummaryM.ignore_rc_result, Option.elim_some, SummaryM.count_ignore_rc,
      print_system_nonced_transaction_sentinel] at hcount
    constructor <;> rw [print_system_nonced_transaction_sentinel, hcount] <;>
      simp [hw.fee_payer, hw.nonce_account, hw.nonce_authority, hw.primary_le, hw.general_le]
    all_goals split <;> decide
  · rw [h]
    rw [hs] at hw
    exact ⟨hw.primary_le, by rw [hw.fee_payer]; exact Nat.zero_le 1,
      by rw [hw.nonce_account]; exact Nat.zero_le 1,
      by rw [hw.nonce_authority]; exact Nat.zero_le 1, hw.general_le⟩

/-- The fee payer is left to the caller. -/
theorem print_transaction_fee_payer {infos : List InstructionInfo}
    (hr : Recognised (strip_nonce infos)) :
    (print_transaction print_config infos).count .fee_payer = 0 := by
  have hw := (hr.prints print_config).within
  rcases print_transaction_cases print_config infos with ⟨nonce, -, h⟩ | ⟨hs, h⟩
  · rw [h, SummaryM.count_bind, SummaryM.ignore_rc_result, Option.elim_some, hw.fee_payer]
    simp [print_system_nonced_transaction_sentinel]
  · rw [h, ← hs, hw.fee_payer]

/-- What the printer of the instructions sets is displayed. -/
theorem print_transaction_sets {infos : List InstructionInfo} {P : SummaryItem → Prop}
    (h : (print_transaction_nonce_processed print_config (strip_nonce infos)).sets P) :
    (print_transaction print_config infos).sets P := by
  rcases print_transaction_cases print_config infos with ⟨nonce, -, he⟩ | ⟨hs, he⟩
  · rw [he, SummaryM.sets_bind]
    exact Or.inr ⟨rfl, h⟩
  · rwa [he, ← hs]

/-- The only other items are those of the nonce instruction. -/
theorem print_transaction_sets_or_nonce {infos : List InstructionInfo} {P : SummaryItem → Prop}
    (hP : ∀ nonce, ¬(print_system_nonced_transaction_sentinel nonce print_config).sets P) :
    (print_transaction print_config infos).sets P ↔
      (print_transaction_nonce_processed print_config (strip_nonce infos)).sets P := by
  refine ⟨fun h => ?_, print_transaction_sets print_config⟩
  rcases print_transaction_cases print_config infos with ⟨nonce, -, he⟩ | ⟨hs, he⟩
  · rw [he, SummaryM.sets_bind] at h
    rcases h with h | h
    · exact absurd h (hP nonce)
    · exact h.2
  · rwa [hs, ← he]

/-- They are keys. So any property of amounts, times or texts is settled by the
instructions behind the nonce. -/
theorem print_transaction_sets_iff {infos : List InstructionInfo} {P : SummaryItem → Prop}
    (hP : ∀ title pubkey, ¬P ⟨title, .SummaryItemPubkey pubkey⟩) :
    (print_transaction print_config infos).sets P ↔
      (print_transaction_nonce_processed print_config (strip_nonce infos)).sets P := by
  refine print_transaction_sets_or_nonce print_config fun nonce => ?_
  simp [print_system_nonced_transaction_sentinel, hP]

/-- In user mode there are none: the nonce items are for experts. -/
theorem print_transaction_sets_user {infos : List InstructionInfo} {P : SummaryItem → Prop}
    (hu : print_config.expert_mode = false) :
    (print_transaction print_config infos).sets P ↔
      (print_transaction_nonce_processed print_config (strip_nonce infos)).sets P := by
  refine print_transaction_sets_or_nonce print_config fun nonce => ?_
  simp [print_system_nonced_transaction_sentinel, hu]

end Printing

/-! ## Printers of keys -/

section Keys

variable (print_config : PrintConfig) {P : SummaryItem → Prop}
  (hpubkey : ∀ title pubkey, ¬P ⟨title, .SummaryItemPubkey pubkey⟩)

include hpubkey

/-- The signers of a multisig are counted, not shown. -/
theorem print_rpl_token_sign_avoids (hu64 : ∀ title u64, ¬P ⟨title, .SummaryItemU64 u64⟩)
    (sign : RplTokenSign) : ¬(print_rpl_token_sign sign print_config).sets P := by
  cases sign <;> simp [print_rpl_token_sign, hpubkey, hu64]

/-- An item that none of its parts sets is not set by the merged printer. -/
theorem print_stake_authorize_both_avoids (staker withdrawer : StakeAuthorizeInfo) :
    ¬(print_stake_authorize_both print_config [.ProgramIdStake (.StakeAuthorize staker),
      .ProgramIdStake (.StakeAuthorize withdrawer)]).sets P := by
  simp [print_stake_authorize_both, hpubkey]

/-- The same for the vote program. -/
theorem print_vote_authorize_both_avoids (voter withdrawer : VoteAuthorizeInfo) :
    ¬(print_vote_authorize_both print_config [.ProgramIdVote (.VoteAuthorize voter),
      .ProgramIdVote (.VoteAuthorize withdrawer)]).sets P := by
  simp [print_vote_authorize_both, hpubkey]

end Keys

end RenecLedger
