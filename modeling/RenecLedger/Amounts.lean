/-
Are all amounts shown?

Every instruction that moves lamports or tokens has its amount in the summary, with
one exception. The two stake-split patterns that begin with an account creation do
not print that instruction, on the belief that it carries zero lamports. Nothing
checks the belief, so all amounts are shown exactly for the messages where it is true or
where the hidden deposit happens to be the amount that is split.
-/
import RenecLedger.Acceptance
import RenecLedger.Encoding

set_option autoImplicit false

open ReaderLib

namespace RenecLedger

/-! ## The amounts of an instruction -/

/-- The lamports field of an instruction that has one. -/
def InstructionInfo.lamports : InstructionInfo → Option UInt64
  | .ProgramIdSystem (.SystemTransfer transfer) => some transfer.lamports
  | .ProgramIdSystem (.SystemCreateAccount create_account) => some create_account.lamports
  | .ProgramIdSystem (.SystemCreateAccountWithSeed create_account) => some create_account.lamports
  | .ProgramIdSystem (.SystemWithdrawNonceAccount withdraw_nonce) => some withdraw_nonce.lamports
  | .ProgramIdStake (.StakeWithdraw withdraw) => some withdraw.lamports
  | .ProgramIdStake (.StakeSplit split) => some split.lamports
  | .ProgramIdVote (.VoteWithdraw withdraw) => some withdraw.lamports
  | _ => none

/-- The token amount and decimals of a checked token instruction. -/
def InstructionInfo.token_amount : InstructionInfo → Option RplTokenAmountBody
  | .ProgramIdRplToken (.TransferChecked transfer) => some transfer.body
  | .ProgramIdRplToken (.ApproveChecked approve) => some approve.body
  | .ProgramIdRplToken (.MintToChecked mint_to) => some mint_to.body
  | .ProgramIdRplToken (.BurnChecked burn) => some burn.body
  | _ => none

/-- The item shows exactly these lamports. -/
def ShowsLamports (lamports : UInt64) (item : SummaryItem) : Prop :=
  item.value = .SummaryItemAmount lamports

/-- The amount and the decimals of a token amount item. -/
def SummaryItem.token_amount (item : SummaryItem) : Option RplTokenAmountBody :=
  match item.value with
  | .SummaryItemTokenAmount token_amount => some ⟨token_amount.value, token_amount.decimals⟩
  | _ => none

/-- The item shows exactly this token amount and these decimals. -/
def ShowsTokenAmount (body : RplTokenAmountBody) (item : SummaryItem) : Prop :=
  item.token_amount = some body

/-- The summary has an item for every non-zero lamports field and for every token
amount of the instructions. -/
def AmountsShown (infos : List InstructionInfo) (summary : TransactionSummary) : Prop :=
  ∀ info ∈ infos,
    (∀ lamports ∈ info.lamports, lamports ≠ 0 →
      ∃ item ∈ summary.items, ShowsLamports lamports item) ∧
    (∀ body ∈ info.token_amount, ∃ item ∈ summary.items, ShowsTokenAmount body item)

/-- A stake split into a created account whose deposit is neither zero nor the amount
that is split. -/
def HidesDeposit : List InstructionInfo → Prop
  | [.ProgramIdSystem (.SystemCreateAccount ca), .ProgramIdStake (.StakeSplit ss)] =>
    ca.lamports ≠ 0 ∧ ca.lamports ≠ ss.lamports
  | [.ProgramIdSystem (.SystemCreateAccountWithSeed cws), .ProgramIdStake (.StakeSplit ss)] =>
    cws.lamports ≠ 0 ∧ cws.lamports ≠ ss.lamports
  | _ => False

instance (body : RplTokenAmountBody) (item : SummaryItem) :
    Decidable (ShowsTokenAmount body item) :=
  inferInstanceAs (Decidable (item.token_amount = _))

instance (lamports : UInt64) (item : SummaryItem) : Decidable (ShowsLamports lamports item) :=
  inferInstanceAs (Decidable (item.value = _))

-- decided at the one value there is, not over all of them
instance (lamports : Option UInt64) (summary : TransactionSummary) :
    Decidable (∀ l ∈ lamports, l ≠ 0 → ∃ item ∈ summary.items, ShowsLamports l item) :=
  Option.decidableForallMem lamports

instance (infos : List InstructionInfo) (summary : TransactionSummary) :
    Decidable (AmountsShown infos summary) :=
  inferInstanceAs (Decidable (∀ info ∈ infos, _ ∧ _))

/-! ## What the printers show -/

section Printers

variable (print_config : PrintConfig)

theorem print_single_shows_lamports {info : InstructionInfo} {lamports : UInt64}
    (h : info.lamports = some lamports) :
    (print_transaction_nonce_processed print_config [info]).sets (ShowsLamports lamports) := by
  cases info with
  | ProgramIdSystem system =>
    cases system <;> cases h <;> simp [print_transaction_nonce_processed, print_one_instruction,
      print_system_info, print_system_transfer_info, print_system_create_account_info,
      print_system_create_account_with_seed_info, print_system_withdraw_nonce_info, ShowsLamports]
  | ProgramIdStake stake =>
    cases stake <;> cases h <;> simp [print_transaction_nonce_processed, print_one_instruction,
      print_stake_info, print_stake_withdraw_info, print_stake_split_info,
      print_stake_split_info1, ShowsLamports]
  | ProgramIdVote vote =>
    cases vote <;> cases h
    simp [print_transaction_nonce_processed, print_one_instruction, print_vote_info,
      print_vote_withdraw_info, ShowsLamports]
  | _ => cases h

theorem print_single_shows_token_amount {info : InstructionInfo} {body : RplTokenAmountBody}
    (h : info.token_amount = some body) :
    (print_transaction_nonce_processed print_config [info]).sets (ShowsTokenAmount body) := by
  cases info with
  | ProgramIdRplToken rpl_token =>
    cases rpl_token <;> cases h <;> simp [print_transaction_nonce_processed,
      print_one_instruction, print_rpl_token_info, print_rpl_token_transfer_info,
      print_rpl_token_approve_info, print_rpl_token_mint_to_info, print_rpl_token_burn_info,
      ShowsTokenAmount, SummaryItem.token_amount]
  | _ => cases h

/-- The creation of an account shows its deposit, whatever it is part of. -/
theorem print_create_shows_lamports (title : String) (ca : SystemCreateAccountInfo)
    (p : SummaryM Unit) :
    (do
      summary_item_set_pubkey .primary title ca.to_
      print_system_create_account_info none ca print_config
      p).sets (ShowsLamports ca.lamports) := by
  simp [print_system_create_account_info, ShowsLamports]

theorem print_create_with_seed_shows_lamports (title : String)
    (cws : SystemCreateAccountWithSeedInfo) (p : SummaryM Unit) :
    (do
      summary_item_set_pubkey .primary title cws.to_
      print_system_create_account_with_seed_info none cws print_config
      p).sets (ShowsLamports cws.lamports) := by
  simp [print_system_create_account_with_seed_info, ShowsLamports]

/-- A token mint, account or multisig shows what it is funded with. -/
theorem print_rpl_token_create_mint_shows_lamports (ca : SystemCreateAccountInfo)
    (im : RplTokenInitializeMintInfo) :
    (print_rpl_token_create_mint print_config [.ProgramIdSystem (.SystemCreateAccount ca),
      .ProgramIdRplToken (.InitializeMint im)]).sets (ShowsLamports ca.lamports) := by
  simp [print_rpl_token_create_mint, ShowsLamports]

theorem print_rpl_token_create_account_shows_lamports (ca : SystemCreateAccountInfo)
    (ia : RplTokenInitializeAccountInfo) :
    (print_rpl_token_create_account print_config [.ProgramIdSystem (.SystemCreateAccount ca),
      .ProgramIdRplToken (.InitializeAccount ia)]).sets (ShowsLamports ca.lamports) := by
  simp [print_rpl_token_create_account, ShowsLamports]

theorem print_rpl_token_create_multisig_shows_lamports (ca : SystemCreateAccountInfo)
    (im : RplTokenInitializeMultisigInfo) :
    (print_rpl_token_create_multisig print_config [.ProgramIdSystem (.SystemCreateAccount ca),
      .ProgramIdRplToken (.InitializeMultisig im)]).sets (ShowsLamports ca.lamports) := by
  simp [print_rpl_token_create_multisig, ShowsLamports]

/-- A split shows the amount that is split. -/
theorem print_stake_split_shows_lamports (ss : StakeSplitInfo) :
    (print_stake_split_info ss print_config).sets (ShowsLamports ss.lamports) := by
  simp [print_stake_split_info, print_stake_split_info1, ShowsLamports]

theorem print_split_shows_lamports (base : PubkeyRef) (seed : SizedString) (ss : StakeSplitInfo) :
    (print_stake_split_with_seed.print_split print_config base seed ss).sets
      (ShowsLamports ss.lamports) := by
  simp [print_stake_split_with_seed.print_split, print_stake_split_info1, ShowsLamports]

theorem print_create_with_transfer_shows_token_amount
    (create : RplAssociatedTokenAccountCreateInfo) (transfer : RplTokenTransferInfo) :
    (print_rpl_associated_token_account_create_with_transfer print_config
      [.ProgramIdRplAssociatedTokenAccount create,
        .ProgramIdRplToken (.TransferChecked transfer)]).sets (ShowsTokenAmount transfer.body) := by
  simp [print_rpl_associated_token_account_create_with_transfer, print_rpl_token_transfer_info,
    ShowsTokenAmount, SummaryItem.token_amount]

/-- Every other recognised transaction shows every lamports field. -/
theorem Recognised.shows_lamports {infos : List InstructionInfo} (h : Recognised infos)
    (hn : ¬HidesDeposit infos) {lamports : UInt64}
    (hl : lamports ∈ infos.filterMap InstructionInfo.lamports) (hne : lamports ≠ 0) :
    (print_transaction_nonce_processed print_config infos).sets (ShowsLamports lamports) := by
  cases h with
  | @single info h =>
    obtain ⟨i, hi, hi'⟩ := List.mem_filterMap.mp hl
    obtain rfl := List.mem_singleton.mp hi
    exact print_single_shows_lamports print_config hi'
  | create_stake_account ca si =>
    obtain rfl : lamports = ca.lamports := List.mem_singleton.mp hl
    exact print_create_shows_lamports print_config _ ca _
  | create_stake_account_checked ca si =>
    obtain rfl : lamports = ca.lamports := List.mem_singleton.mp hl
    exact print_create_shows_lamports print_config _ ca _
  | create_stake_account_with_seed cws si =>
    obtain rfl : lamports = cws.lamports := List.mem_singleton.mp hl
    exact print_create_with_seed_shows_lamports print_config _ cws _
  | create_stake_account_with_seed_checked cws si =>
    obtain rfl : lamports = cws.lamports := List.mem_singleton.mp hl
    exact print_create_with_seed_shows_lamports print_config _ cws _
  | create_nonce_account ca ni =>
    obtain rfl : lamports = ca.lamports := List.mem_singleton.mp hl
    exact print_create_shows_lamports print_config _ ca _
  | create_nonce_account_with_seed cws ni =>
    obtain rfl : lamports = cws.lamports := List.mem_singleton.mp hl
    exact print_create_with_seed_shows_lamports print_config _ cws _
  | create_vote_account ca vi =>
    obtain rfl : lamports = ca.lamports := List.mem_singleton.mp hl
    exact print_create_shows_lamports print_config _ ca _
  | create_vote_account_with_seed cws vi =>
    obtain rfl : lamports = cws.lamports := List.mem_singleton.mp hl
    exact print_create_with_seed_shows_lamports print_config _ cws _
  | create_stake_account_and_delegate ca si sd =>
    obtain rfl : lamports = ca.lamports := List.mem_singleton.mp hl
    exact print_create_shows_lamports print_config _ ca _
  | create_stake_account_with_seed_and_delegate cws si sd =>
    obtain rfl : lamports = cws.lamports := List.mem_singleton.mp hl
    exact print_create_with_seed_shows_lamports print_config _ cws _
  | rpl_token_create_mint ca im =>
    obtain rfl : lamports = ca.lamports := List.mem_singleton.mp hl
    exact print_rpl_token_create_mint_shows_lamports print_config ca im
  | rpl_token_create_account ca ia =>
    obtain rfl : lamports = ca.lamports := List.mem_singleton.mp hl
    exact print_rpl_token_create_account_shows_lamports print_config ca ia
  | rpl_token_create_account2 ca ia =>
    obtain rfl : lamports = ca.lamports := List.mem_singleton.mp hl
    exact print_rpl_token_create_account_shows_lamports print_config ca ia
  | rpl_token_create_multisig ca im =>
    obtain rfl : lamports = ca.lamports := List.mem_singleton.mp hl
    exact print_rpl_token_create_multisig_shows_lamports print_config ca im
  | stake_split_v1_1 al as ss =>
    obtain rfl : lamports = ss.lamports := List.mem_singleton.mp hl
    exact print_stake_split_shows_lamports print_config ss
  | stake_split_with_seed_v1_1 aws ss =>
    obtain rfl : lamports = ss.lamports := List.mem_singleton.mp hl
    exact print_split_shows_lamports print_config aws.base aws.seed ss
  | stake_split_v1_2 ca ss =>
    -- the deposit is zero, or the amount that is split is the same one
    obtain rfl : lamports = ss.lamports := by
      rcases List.mem_pair.mp hl with rfl | rfl
      · exact not_not.mp fun hne' => hn ⟨hne, hne'⟩
      · rfl
    exact print_stake_split_shows_lamports print_config ss
  | stake_split_with_seed_v1_2 cws ss =>
    obtain rfl : lamports = ss.lamports := by
      rcases List.mem_pair.mp hl with rfl | rfl
      · exact not_not.mp fun hne' => hn ⟨hne, hne'⟩
      · rfl
    exact print_split_shows_lamports print_config cws.base cws.seed ss
  | _ => exact absurd hl List.not_mem_nil

/-- Every recognised transaction shows every token amount. -/
theorem Recognised.shows_token_amount {infos : List InstructionInfo} (h : Recognised infos)
    {body : RplTokenAmountBody} (hb : body ∈ infos.filterMap InstructionInfo.token_amount) :
    (print_transaction_nonce_processed print_config infos).sets (ShowsTokenAmount body) := by
  cases h with
  | @single info h =>
    obtain ⟨i, hi, hi'⟩ := List.mem_filterMap.mp hb
    obtain rfl := List.mem_singleton.mp hi
    exact print_single_shows_token_amount print_config hi'
  | rpl_associated_token_account_create_with_transfer create transfer =>
    obtain rfl : body = transfer.body := List.mem_singleton.mp hb
    exact print_create_with_transfer_shows_token_amount print_config create transfer
  | _ => exact absurd hb List.not_mem_nil

/-- A hidden deposit is shown by nothing. -/
theorem HidesDeposit.hides {infos : List InstructionInfo} (h : HidesDeposit infos) :
    Recognised infos ∧ ∃ info ∈ infos, ∃ lamports, info.lamports = some lamports ∧ lamports ≠ 0 ∧
      ¬(print_transaction_nonce_processed print_config infos).sets (ShowsLamports lamports) := by
  unfold HidesDeposit at h
  split at h
  · rename_i ca ss
    refine ⟨.stake_split_v1_2 ca ss, _, List.mem_cons_self, ca.lamports, rfl, h.1, ?_⟩
    change ¬(print_stake_split_info ss print_config).sets _
    simp [print_stake_split_info, print_stake_split_info1, print_stake_split_info2, ShowsLamports,
      h.2.symm]
  · rename_i cws ss
    refine ⟨.stake_split_with_seed_v1_2 cws ss, _, List.mem_cons_self, cws.lamports, rfl, h.1, ?_⟩
    change ¬(print_stake_split_with_seed.print_split print_config cws.base cws.seed ss).sets _
    simp [print_stake_split_with_seed.print_split, print_stake_split_info1,
      print_stake_split_info2, ShowsLamports, h.2.symm]
  · exact absurd h id

end Printers

/-! ## Messages -/

/-- **All amounts of an accepted message are shown exactly when** the message is not a
stake split that hides the deposit of the account it splits into. -/
theorem amounts_shown_iff (message_body : Parser) (print_config : PrintConfig) :
    (∀ summary infos, accepts message_body print_config summary →
      (parse_message_body print_config.header).run' message_body = some infos →
      AmountsShown infos summary) ↔
    ∀ infos, (parse_message_body print_config.header).run' message_body = some infos →
      ¬HidesDeposit (strip_nonce (display_instruction_info infos)) := by
  constructor
  · intro h infos hp hh
    obtain ⟨hr, info, hi, lamports, hl, hne, hhidden⟩ := hh.hides print_config
    obtain ⟨summary, ha⟩ := accepts_iff.mpr ⟨infos, hp, hr⟩
    have hmem : info ∈ infos := (List.mem_filter.mp (mem_of_mem_strip_nonce hi)).1
    have hshown := ((h summary infos ha hp) info hmem).1 lamports hl hne
    rw [accepts_items hp ha, print_transaction_sets_iff print_config nofun] at hshown
    exact hhidden hshown
  · intro h summary infos ha hp info hi
    have hr := accepts_recognised hp ha
    rcases mem_displayed_or hi with hd | rfl | ⟨nonce, rfl⟩
    · constructor
      · intro lamports hl hne
        rw [accepts_items hp ha]
        exact print_transaction_sets print_config (hr.shows_lamports print_config (h infos hp)
          (List.mem_filterMap.mpr ⟨info, hd, hl⟩) hne)
      · intro body hb
        rw [accepts_items hp ha]
        exact print_transaction_sets print_config (hr.shows_token_amount print_config
          (List.mem_filterMap.mpr ⟨info, hd, hb⟩))
    -- memos and nonce instructions have no amounts
    · exact ⟨nofun, nofun⟩
    · exact ⟨nofun, nofun⟩

/-- An account is created with 5 lamports and 1 lamport is split into it. -/
def hidden_deposit_message : Message where
  version := none
  num_required_signatures := 1
  num_readonly_signed_accounts := 0
  num_readonly_unsigned_accounts := 2
  pubkeys := [Pubkey.fill 1, Pubkey.fill 2, Pubkey.fill 3, system_program_id, stake_program_id]
  blockhash := Hash.fill 9
  instructions :=
    [⟨3, [0, 2], [0, 0, 0, 0, 5, 0, 0, 0, 0, 0, 0, 0]⟩,
      ⟨4, [1, 2, 0], [3, 0, 0, 0, 1, 0, 0, 0, 0, 0, 0, 0]⟩]
  version_lt := legacy_version_lt
  legacy_lt := legacy_signature_lt
  pubkeys_lt := by decide
  instructions_lt := by decide
  accounts_lt := by decide
  data_lt := by decide

/-- The 5 lamports are not shown. -/
theorem hidden_deposit_not_shown : ∃ header message_body infos summary,
    parse_message_header ⟨0, hidden_deposit_message.encode⟩ = some (header, message_body) ∧
    (parse_message_body header).run' message_body = some infos ∧
    accepts message_body ⟨header, false, ⟨4, Pubkey.fill 1⟩⟩ summary ∧
    ¬AmountsShown infos summary := by
  exact review_any (by decide +kernel)

end RenecLedger
