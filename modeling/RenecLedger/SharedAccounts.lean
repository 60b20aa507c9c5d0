/-
Do the instructions of a pattern talk about one account?

The tables match instructions by kind. A pattern that makes an account and uses it
never compares the two, nor does an authorize pair compare its two stake or vote
accounts: each shows the account of one member only. What holds instead is stated
here. The account that is shown is the one of a fixed member (`shown_account`), and
the accounts of the others (`replace_unshown`) have no part in whether the message
is accepted and none in its summary.
-/
import RenecLedger.Acceptance
import RenecLedger.Encoding

set_option autoImplicit false

open ReaderLib

namespace RenecLedger

/-! ## The accounts of a pattern's members -/

/-- The account that a system instruction makes. -/
def InstructionInfo.made_account : InstructionInfo → Option PubkeyRef
  | .ProgramIdSystem (.SystemCreateAccount create_account) => some create_account.to_
  | .ProgramIdSystem (.SystemCreateAccountWithSeed create_account) => some create_account.to_
  | .ProgramIdSystem (.SystemAllocate allocate) => some allocate.account
  | .ProgramIdSystem (.SystemAssign assign) => some assign.account
  | .ProgramIdSystem (.SystemAllocateWithSeed allocate) => some allocate.account
  | _ => none

/-- The account that an instruction following it uses. -/
def InstructionInfo.used_account : InstructionInfo → Option PubkeyRef
  | .ProgramIdSystem (.SystemInitializeNonceAccount initialize_nonce) =>
    some initialize_nonce.account
  | .ProgramIdStake (.StakeInitialize init) => some init.account
  | .ProgramIdStake (.StakeInitializeChecked init) => some init.account
  | .ProgramIdStake (.StakeDelegate delegate_stake) => some delegate_stake.stake_pubkey
  | .ProgramIdStake (.StakeSplit split) => some split.split_account
  | .ProgramIdVote (.VoteInitialize init) => some init.account
  | .ProgramIdRplToken (.InitializeMint initialize_mint) => some initialize_mint.mint_account
  | .ProgramIdRplToken (.InitializeAccount initialize_account) =>
    some initialize_account.token_account
  | .ProgramIdRplToken (.InitializeAccount2 initialize_account) =>
    some initialize_account.token_account
  | .ProgramIdRplToken (.InitializeMultisig initialize_multisig) =>
    some initialize_multisig.multisig_account
  | _ => none

/-- The account whose authority an authorize instruction changes. -/
def InstructionInfo.authorized_account : InstructionInfo → Option PubkeyRef
  | .ProgramIdStake (.StakeAuthorize authorize) => some authorize.account
  | .ProgramIdStake (.StakeAuthorizeChecked authorize) => some authorize.account
  | .ProgramIdVote (.VoteAuthorize authorize) => some authorize.account
  | .ProgramIdVote (.VoteAuthorizeChecked authorize) => some authorize.account
  | _ => none

/-- Every account that is made is every account that is used, as keys. -/
def MadeAccountIsUsed (infos : List InstructionInfo) : Prop :=
  ∀ made ∈ infos.filterMap InstructionInfo.made_account,
    ∀ used ∈ infos.filterMap InstructionInfo.used_account, pubkeys_equal made used = true

/-- Every authorize instruction is about the same account, as keys. -/
def OneAccountAuthorized (infos : List InstructionInfo) : Prop :=
  ∀ first ∈ infos.filterMap InstructionInfo.authorized_account,
    ∀ second ∈ infos.filterMap InstructionInfo.authorized_account,
      pubkeys_equal first second = true

instance (infos : List InstructionInfo) : Decidable (MadeAccountIsUsed infos) :=
  inferInstanceAs (Decidable (∀ made ∈ _, ∀ used ∈ _, _))

instance (infos : List InstructionInfo) : Decidable (OneAccountAuthorized infos) :=
  inferInstanceAs (Decidable (∀ first ∈ _, ∀ second ∈ _, _))

/-! ## Replacing accounts -/

/-- Put another account in the place of the one that is made, used or authorized. -/
def InstructionInfo.replace_account (account : PubkeyRef) : InstructionInfo → InstructionInfo
  | .ProgramIdSystem (.SystemCreateAccount info) =>
    .ProgramIdSystem (.SystemCreateAccount { info with to_ := account })
  | .ProgramIdSystem (.SystemCreateAccountWithSeed info) =>
    .ProgramIdSystem (.SystemCreateAccountWithSeed { info with to_ := account })
  | .ProgramIdSystem (.SystemAllocate info) =>
    .ProgramIdSystem (.SystemAllocate { info with account })
  | .ProgramIdSystem (.SystemAssign info) => .ProgramIdSystem (.SystemAssign { info with account })
  | .ProgramIdSystem (.SystemAllocateWithSeed info) =>
    .ProgramIdSystem (.SystemAllocateWithSeed { info with account })
  | .ProgramIdSystem (.SystemInitializeNonceAccount info) =>
    .ProgramIdSystem (.SystemInitializeNonceAccount { info with account })
  | .ProgramIdStake (.StakeInitialize info) =>
    .ProgramIdStake (.StakeInitialize { info with account })
  | .ProgramIdStake (.StakeInitializeChecked info) =>
    .ProgramIdStake (.StakeInitializeChecked { info with account })
  | .ProgramIdStake (.StakeDelegate info) =>
    .ProgramIdStake (.StakeDelegate { info with stake_pubkey := account })
  | .ProgramIdStake (.StakeAuthorize info) =>
    .ProgramIdStake (.StakeAuthorize { info with account })
  | .ProgramIdStake (.StakeAuthorizeChecked info) =>
    .ProgramIdStake (.StakeAuthorizeChecked { info with account })
  | .ProgramIdVote (.VoteInitialize info) => .ProgramIdVote (.VoteInitialize { info with account })
  | .ProgramIdVote (.VoteAuthorize info) => .ProgramIdVote (.VoteAuthorize { info with account })
  | .ProgramIdVote (.VoteAuthorizeChecked info) =>
    .ProgramIdVote (.VoteAuthorizeChecked { info with account })
  | info => info

/-- Replace the accounts of the members that a pattern does not show, each by an account of its
own: `accounts i` is for the member in place `i`. A stake split and a token instruction are shown,
and what goes before them is not; of any other pattern the first member is shown, and what comes
after it is not. -/
def replace_unshown_members (accounts : ℕ → PubkeyRef) :
    List InstructionInfo → List InstructionInfo
  | [first, .ProgramIdStake (.StakeSplit split)] =>
    [first.replace_account (accounts 0), .ProgramIdStake (.StakeSplit split)]
  | [first, second, .ProgramIdStake (.StakeSplit split)] =>
    [first.replace_account (accounts 0), second.replace_account (accounts 1),
      .ProgramIdStake (.StakeSplit split)]
  | [first, .ProgramIdRplToken rpl_token] =>
    [first.replace_account (accounts 0), .ProgramIdRplToken rpl_token]
  | first :: infos =>
    first :: infos.mapIdx fun i info => info.replace_account (accounts (i + 1))
  | [] => []

/-- The same for a whole transaction, whose nonce instruction is left alone. -/
def replace_unshown (accounts : ℕ → PubkeyRef) : List InstructionInfo → List InstructionInfo
  | .ProgramIdSystem (.SystemAdvanceNonceAccount nonce) :: info :: infos =>
    .ProgramIdSystem (.SystemAdvanceNonceAccount nonce) ::
      replace_unshown_members accounts (info :: infos)
  | infos => replace_unshown_members accounts infos

section Printing

variable (print_config : PrintConfig) (accounts : ℕ → PubkeyRef)

/-- The printers look at the display mode and the signer, not at the header. -/
theorem print_transaction_header (header : MessageHeader) (infos : List InstructionInfo) :
    print_transaction { print_config with header } infos =
      print_transaction print_config infos := by
  rfl

/-- Replacing the accounts that are not shown makes no difference to the printer: it is
the same term, pattern by pattern. -/
theorem print_transaction_replace_unshown {infos : List InstructionInfo}
    (h : Recognised (strip_nonce infos)) :
    print_transaction print_config (replace_unshown accounts infos) =
      print_transaction print_config infos := by
  have hsingle : ∀ info, replace_unshown_members accounts [info] = [info] := by
    intro info
    simp [replace_unshown_members]
  fun_cases strip_nonce infos with
  | case1 nonce info rest =>
    rw [strip_nonce] at h
    rw [replace_unshown]
    cases h with
    | single h => rw [hsingle]
    | _ => rfl
  | case2 infos hno =>
    rw [strip_nonce] at h
    · rw [replace_unshown]
      · cases h with
        | single h => rw [hsingle]
        | _ => rfl
      · exact hno
    · exact hno

end Printing

/-- A message that differs from an accepted one only in accounts that are not shown is
accepted, with the same summary. -/
theorem accepts_replace_unshown {message_body : Parser} {print_config : PrintConfig}
    {infos : List InstructionInfo} {summary : TransactionSummary}
    (hp : (parse_message_body print_config.header).run' message_body = some infos)
    (ha : accepts message_body print_config summary) (accounts : ℕ → PubkeyRef)
    {header' : MessageHeader} {message_body' : Parser} {infos' : List InstructionInfo}
    (hp' : (parse_message_body header').run' message_body' = some infos')
    (hinfos : display_instruction_info infos' =
      replace_unshown accounts (display_instruction_info infos)) :
    accepts message_body' { print_config with header := header' } summary := by
  have hr := accepts_recognised hp ha
  rw [accepts_iff_print hp] at ha
  rw [accepts_iff_print hp', hinfos, print_transaction_replace_unshown _ accounts hr,
    print_transaction_header]
  exact ha

/-! ## Accounts that are made and used -/

/-- The account that a pattern of this kind shows: the one that is used by a stake split
or a token instruction, else the one that is made. -/
def shown_account : List InstructionInfo → Option PubkeyRef
  | [_, .ProgramIdStake (.StakeSplit split)] => some split.split_account
  | [_, _, .ProgramIdStake (.StakeSplit split)] => some split.split_account
  | [_, .ProgramIdRplToken rpl_token] =>
    (InstructionInfo.ProgramIdRplToken rpl_token).used_account
  | first :: _ :: _ => first.made_account
  | _ => none

/-- Every pattern whose first member makes an account shows one. -/
theorem Recognised.shown_account_isSome {infos : List InstructionInfo} (h : Recognised infos)
    (hlen : 1 < infos.length) {made : PubkeyRef}
    (hmade : made ∈ infos.filterMap InstructionInfo.made_account) :
    (shown_account infos).isSome = true := by
  cases h with
  | single h => exact absurd hlen (Nat.lt_irrefl 1)
  | stake_authorize_both => exact absurd hmade List.not_mem_nil
  | stake_authorize_checked_both => exact absurd hmade List.not_mem_nil
  | vote_authorize_both => exact absurd hmade List.not_mem_nil
  | vote_authorize_checked_both => exact absurd hmade List.not_mem_nil
  | rpl_associated_token_account_create_with_transfer => exact absurd hmade List.not_mem_nil
  | _ => rfl

/-- A split shows the account it splits into. -/
theorem print_stake_split_info1_shows (ss : StakeSplitInfo) (f : Unit → SummaryM Unit) :
    (print_stake_split_info1 ss >>= f).sets (ShowsPubkey ss.split_account) := by
  rw [SummaryM.sets_bind]
  left
  simp [print_stake_split_info1]

theorem Recognised.shows_shown_account {infos : List InstructionInfo} (h : Recognised infos)
    (print_config : PrintConfig) {account : PubkeyRef} (hs : shown_account infos = some account) :
    (print_transaction_nonce_processed print_config infos).sets (ShowsPubkey account) := by
  cases h with
  | single h => cases hs
  | stake_authorize_both => cases hs
  | stake_authorize_checked_both => cases hs
  | vote_authorize_both => cases hs
  | vote_authorize_checked_both => cases hs
  | rpl_associated_token_account_create_with_transfer => cases hs
  | stake_split_with_seed_v1_1 aws ss =>
    cases hs
    exact print_stake_split_info1_shows ss _
  | stake_split_v1_2 ca ss =>
    cases hs
    exact print_stake_split_info1_shows ss _
  | stake_split_with_seed_v1_2 cws ss =>
    cases hs
    exact print_stake_split_info1_shows ss _
  | stake_split_v1_1 al as ss =>
    cases hs
    exact print_stake_split_info1_shows ss _
  | _ =>
    -- the account is the primary item, which is set first
    cases hs
    exact sets_first_pubkey _ _ _ _

/-- **A pattern that makes an account and uses it shows one account**, that of the member
its printer picks. The members are not compared: the same message with other accounts
in the places that are not shown, each with one of its own, is accepted too, with the same
summary. -/
theorem made_account_shown {message_body : Parser} {print_config : PrintConfig}
    {infos : List InstructionInfo} {summary : TransactionSummary}
    (hp : (parse_message_body print_config.header).run' message_body = some infos)
    (ha : accepts message_body print_config summary)
    (hlen : 1 < (strip_nonce (display_instruction_info infos)).length) {made : PubkeyRef}
    (hmade : made ∈ (strip_nonce (display_instruction_info infos)).filterMap
      InstructionInfo.made_account) :
    (∃ account, shown_account (strip_nonce (display_instruction_info infos)) = some account ∧
      ∃ item ∈ summary.items, ShowsPubkey account item) ∧
    ∀ (accounts : ℕ → PubkeyRef) (header' : MessageHeader) (message_body' : Parser)
      (infos' : List InstructionInfo),
      (parse_message_body header').run' message_body' = some infos' →
      display_instruction_info infos' =
        replace_unshown accounts (display_instruction_info infos) →
      accepts message_body' { print_config with header := header' } summary := by
  have hr := accepts_recognised hp ha
  constructor
  · obtain ⟨account, hs⟩ := Option.isSome_iff_exists.mp (hr.shown_account_isSome hlen hmade)
    refine ⟨account, hs, ?_⟩
    rw [accepts_items hp ha]
    exact print_transaction_sets print_config (hr.shows_shown_account print_config hs)
  · intro accounts header' message_body' infos' hp' hinfos
    exact accepts_replace_unshown hp ha accounts hp' hinfos

/-- A nonce account is made at one address, and another address is initialised as one. -/
def other_nonce_account_message : Message where
  version := none
  num_required_signatures := 1
  num_readonly_signed_accounts := 0
  num_readonly_unsigned_accounts := 2
  pubkeys := [Pubkey.fill 1, Pubkey.fill 2, Pubkey.fill 3, Pubkey.fill 4, system_program_id]
  blockhash := Hash.fill 9
  instructions :=
    [⟨4, [0, 1], [0, 0, 0, 0, 5, 0, 0, 0, 0, 0, 0, 0]⟩,
      ⟨4, [2, 3, 3], [6, 0, 0, 0] ++ (Pubkey.fill 1).data⟩]
  version_lt := legacy_version_lt
  legacy_lt := legacy_signature_lt
  pubkeys_lt := by decide
  instructions_lt := by decide
  accounts_lt := by decide
  data_lt := by decide

theorem other_nonce_account_accepted : ∃ header message_body infos summary,
    parse_message_header ⟨0, other_nonce_account_message.encode⟩ = some (header, message_body) ∧
    (parse_message_body header).run' message_body = some infos ∧
    accepts message_body ⟨header, false, ⟨4, Pubkey.fill 1⟩⟩ summary ∧
    ¬MadeAccountIsUsed (strip_nonce (display_instruction_info infos)) := by
  exact review_any (by decide +kernel)

/-- It is the address where the account is made that is shown. -/
theorem other_nonce_account_shown : ∃ header message_body infos summary,
    parse_message_header ⟨0, other_nonce_account_message.encode⟩ = some (header, message_body) ∧
    (parse_message_body header).run' message_body = some infos ∧
    accepts message_body ⟨header, false, ⟨4, Pubkey.fill 1⟩⟩ summary ∧
    ∃ account, shown_account (strip_nonce (display_instruction_info infos)) = some account ∧
      ∃ item ∈ summary.items, ShowsPubkey account item := by
  obtain ⟨header, message_body, infos, summary, hheader, hp, ha, hlen, hmade⟩ :=
    @review_any other_nonce_account_message.encode false ⟨4, Pubkey.fill 1⟩
      (fun _ _ infos _ => 1 < (strip_nonce (display_instruction_info infos)).length ∧
        ⟨36, Pubkey.fill 2⟩ ∈ (strip_nonce (display_instruction_info infos)).filterMap
          InstructionInfo.made_account) _ (by decide +kernel)
  exact ⟨header, message_body, infos, summary, hheader, hp, ha,
    (made_account_shown hp ha hlen hmade).1⟩

/-! ## Authorize pairs -/

def authorize_pair_briefs : List (List InstructionBrief) :=
  [stake_authorize_both_brief, stake_authorize_checked_both_brief, vote_authorize_both_brief,
    vote_authorize_checked_both_brief]

/-- The primary item of an authorize pair is the account of its first member. -/
theorem print_stake_authorize_both_shows (print_config : PrintConfig)
    {staker withdrawer : StakeAuthorizeInfo} (hs : staker.authorize = .StakeAuthorizeStaker)
    (hw : withdrawer.authorize = .StakeAuthorizeWithdrawer) :
    (print_stake_authorize_both print_config [.ProgramIdStake (.StakeAuthorize staker),
      .ProgramIdStake (.StakeAuthorize withdrawer)]).sets (ShowsPubkey staker.account) := by
  simp only [print_stake_authorize_both, hs, hw, ne_eq, not_true_eq_false, decide_false]
  rw [SummaryM.sets_bind, SummaryM.sets_bind]
  exact Or.inr ⟨rfl, Or.inr ⟨rfl, sets_first_pubkey _ _ _ _⟩⟩

theorem print_vote_authorize_both_shows (print_config : PrintConfig)
    {voter withdrawer : VoteAuthorizeInfo} (hv : voter.authorize = .VoteAuthorizeVoter)
    (hw : withdrawer.authorize = .VoteAuthorizeWithdrawer) :
    (print_vote_authorize_both print_config [.ProgramIdVote (.VoteAuthorize voter),
      .ProgramIdVote (.VoteAuthorize withdrawer)]).sets (ShowsPubkey voter.account) := by
  simp only [print_vote_authorize_both, hv, hw, ne_eq, not_true_eq_false, decide_false]
  rw [SummaryM.sets_bind, SummaryM.sets_bind]
  exact Or.inr ⟨rfl, Or.inr ⟨rfl, sets_first_pubkey _ _ _ _⟩⟩

/-- Two recognised instructions of which the first changes an authority. -/
theorem Recognised.authorize_pair {first second : InstructionInfo}
    (h : Recognised [first, second]) (print_config : PrintConfig) {account : PubkeyRef}
    (ha : first.authorized_account = some account) :
    (∃ briefs ∈ authorize_pair_briefs,
      instruction_infos_match_briefs [first, second] briefs 2 = true) ∧
    authorize_in_order [first, second] = true ∧
    (print_transaction_nonce_processed print_config [first, second]).sets
      (ShowsPubkey account) := by
  cases h with
  | stake_authorize_both staker withdrawer hs hw =>
    cases ha
    exact ⟨⟨stake_authorize_both_brief, by decide, rfl⟩, decide_eq_true ⟨hs, hw⟩,
      print_stake_authorize_both_shows print_config hs hw⟩
  | stake_authorize_checked_both staker withdrawer hs hw =>
    cases ha
    exact ⟨⟨stake_authorize_checked_both_brief, by decide, rfl⟩, decide_eq_true ⟨hs, hw⟩,
      print_stake_authorize_both_shows print_config hs hw⟩
  | vote_authorize_both voter withdrawer hv hw =>
    cases ha
    exact ⟨⟨vote_authorize_both_brief, by decide, rfl⟩, decide_eq_true ⟨hv, hw⟩,
      print_vote_authorize_both_shows print_config hv hw⟩
  | vote_authorize_checked_both voter withdrawer hv hw =>
    cases ha
    exact ⟨⟨vote_authorize_checked_both_brief, by decide, rfl⟩, decide_eq_true ⟨hv, hw⟩,
      print_vote_authorize_both_shows print_config hv hw⟩
  | _ => cases ha

/-- **An authorize pair shows one account**, that of its first member. The two are of one
kind and in order, but their accounts are not compared: the same message with another
account in its second member is accepted too, with the same summary. -/
theorem authorize_pair_shows_first {message_body : Parser} {print_config : PrintConfig}
    {infos : List InstructionInfo} {summary : TransactionSummary}
    (hp : (parse_message_body print_config.header).run' message_body = some infos)
    (ha : accepts message_body print_config summary) {first second : InstructionInfo}
    (hpair : strip_nonce (display_instruction_info infos) = [first, second])
    {account : PubkeyRef} (hfirst : first.authorized_account = some account) :
    (∃ briefs ∈ authorize_pair_briefs,
      instruction_infos_match_briefs [first, second] briefs 2 = true) ∧
    authorize_in_order [first, second] = true ∧
    (∃ item ∈ summary.items, ShowsPubkey account item) ∧
    ∀ (other : PubkeyRef) (header' : MessageHeader) (message_body' : Parser)
      (infos' : List InstructionInfo),
      (parse_message_body header').run' message_body' = some infos' →
      display_instruction_info infos' =
        replace_unshown (fun _ => other) (display_instruction_info infos) →
      accepts message_body' { print_config with header := header' } summary := by
  have hr := accepts_recognised hp ha
  rw [hpair] at hr
  obtain ⟨hmatch, horder, hshows⟩ := hr.authorize_pair print_config hfirst
  refine ⟨hmatch, horder, ?_, ?_⟩
  · rw [accepts_items hp ha]
    apply print_transaction_sets print_config
    rw [hpair]
    exact hshows
  · intro other header' message_body' infos' hp' hinfos
    exact accepts_replace_unshown hp ha (fun _ => other) hp' hinfos

/-- The staker of one account and the withdrawer of another are changed. -/
def other_stake_account_message : Message where
  version := none
  num_required_signatures := 1
  num_readonly_signed_accounts := 0
  num_readonly_unsigned_accounts := 2
  pubkeys := [Pubkey.fill 1, Pubkey.fill 2, Pubkey.fill 3, Pubkey.fill 4, stake_program_id]
  blockhash := Hash.fill 9
  instructions :=
    [⟨4, [1, 3, 0], [1, 0, 0, 0] ++ (Pubkey.fill 8).data ++ [0, 0, 0, 0]⟩,
      ⟨4, [2, 3, 0], [1, 0, 0, 0] ++ (Pubkey.fill 8).data ++ [1, 0, 0, 0]⟩]
  version_lt := legacy_version_lt
  legacy_lt := legacy_signature_lt
  pubkeys_lt := by decide
  instructions_lt := by decide
  accounts_lt := by decide
  data_lt := by decide

/-- The second account is nowhere in the summary. -/
theorem other_stake_account_accepted : ∃ header message_body infos summary,
    parse_message_header ⟨0, other_stake_account_message.encode⟩ = some (header, message_body) ∧
    (parse_message_body header).run' message_body = some infos ∧
    accepts message_body ⟨header, false, ⟨4, Pubkey.fill 1⟩⟩ summary ∧
    ¬OneAccountAuthorized (strip_nonce (display_instruction_info infos)) ∧
    ¬∃ item ∈ summary.items, ShowsPubkey (header.pubkeys.at_index 2) item := by
  exact review_any (by decide +kernel)

/-- The first one is. -/
theorem other_stake_account_first_shown : ∃ header message_body infos summary,
    parse_message_header ⟨0, other_stake_account_message.encode⟩ = some (header, message_body) ∧
    (parse_message_body header).run' message_body = some infos ∧
    accepts message_body ⟨header, false, ⟨4, Pubkey.fill 1⟩⟩ summary ∧
    ∃ item ∈ summary.items, ShowsPubkey ⟨36, Pubkey.fill 2⟩ item := by
  obtain ⟨header, message_body, infos, summary, hheader, hp, ha, hpair⟩ :=
    @review_any other_stake_account_message.encode false ⟨4, Pubkey.fill 1⟩
      (fun _ _ infos _ => strip_nonce (display_instruction_info infos) =
        [.ProgramIdStake (.StakeAuthorize ⟨⟨36, Pubkey.fill 2⟩, ⟨4, Pubkey.fill 1⟩,
          ⟨207, Pubkey.fill 8⟩, none, .StakeAuthorizeStaker⟩),
        .ProgramIdStake (.StakeAuthorize ⟨⟨68, Pubkey.fill 3⟩, ⟨4, Pubkey.fill 1⟩,
          ⟨253, Pubkey.fill 8⟩, none, .StakeAuthorizeWithdrawer⟩)]) _ (by decide +kernel)
  exact ⟨header, message_body, infos, summary, hheader, hp, ha,
    (authorize_pair_shows_first hp ha hpair rfl).2.2.1⟩

end RenecLedger
