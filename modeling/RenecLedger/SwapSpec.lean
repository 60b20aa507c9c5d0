/-
What is signed for the exchange app.

The app never compares the message with what the user confirmed in the exchange app: it
compares two texts, and the kinds and titles of two items. That is enough. The text of an
amount says the amount and the text of a key says the key, only a transfer has an item
with the title "Transfer", and an item for any other sender or fee payer would be a third
one. The answer ends the app, so there is at most one.
-/
import RenecLedger.Acceptance
import RenecLedger.DisplaySpec
import RenecLedger.HandlerSpec

set_option autoImplicit false

open MachineLib ProgramLib ReaderLib

namespace RenecLedger

/-! ## The two checks -/

/-- Two buffers compare equal when their texts up to the terminator do. What lies behind
the terminators may differ, so a check sees the texts and no more. -/
theorem strcmp_equal_iff (a b : List UInt8) : strcmp_equal a b = true ↔ c_str a = c_str b :=
  decide_eq_true_iff

/-- The item shows the amount that was confirmed, under the title of a transfer. It is
about the item's own value, where the check has only seen its text. -/
structure IsValidatedAmount (validated : SwapValidated) (item : SummaryItem) : Prop where
  value : item.value = .SummaryItemAmount validated.amount
  title : c_str (c_string item.title) = c_string "Transfer"

/-- The item shows the recipient that was confirmed, as a key whose base58 text is the
address that was handed over. -/
structure IsValidatedRecipient (validated : SwapValidated) (item : SummaryItem) : Prop where
  value : ∃ pubkey, item.value = .SummaryItemPubkey pubkey ∧
    base58 pubkey.key.data = c_str validated.recipient
  title : c_str (c_string item.title) = c_string "Recipient"

/-- An amount passes when its title is the transfer's and its text the one the validated
amount prints as. -/
theorem check_swap_amount_true {validated : SwapValidated} {title text : List UInt8}
    (h : check_swap_amount validated title text = some true) :
    c_str title = c_string "Transfer" ∧ ∃ out out_length buf,
      print_amount validated.amount out out_length = some (0, buf) ∧ c_str text = c_str buf := by
  rw [check_swap_amount] at h
  split at h
  · cases h
  split at h
  · cases h
  rename_i htitle
  rw [Bool.not_eq_true', Bool.not_eq_false, strcmp_equal_iff] at htitle
  split at h
  · cases h
  rename_i rc buf hprint
  split at h
  · cases h
  rename_i hrc
  rw [Option.some.injEq, strcmp_equal_iff] at h
  rw [not_not] at hrc
  subst hrc
  exact ⟨htitle, _, _, buf, hprint, h⟩

/-- A recipient passes when its title is the recipient's and its text the validated
address. -/
theorem check_swap_recipient_true {validated : SwapValidated} {title text : List UInt8}
    (h : check_swap_recipient validated title text = true) :
    c_str title = c_string "Recipient" ∧ c_str text = c_str validated.recipient := by
  rw [check_swap_recipient] at h
  split at h
  · cases h
  split at h
  · cases h
  rename_i htitle
  rw [Bool.not_eq_true', Bool.not_eq_false, strcmp_equal_iff] at htitle
  rw [strcmp_equal_iff] at h
  exact ⟨htitle, h.symm⟩

section Items

variable {validated : SwapValidated} {summary : TransactionSummary} {item : SummaryItem} {i rc : ℕ}
  {display display' : SummaryDisplay}
  (hfind : transaction_summary_find_item summary i = some (some item))
  (hdisplay : transaction_summary_display_item summary i ⟨true⟩ display = some (rc, display'))
include hfind hdisplay

/-- The title that a check has seen is the item's own, unless it was there before. An
item that cannot be displayed leaves the title as it was, and its return code is not
looked at. -/
theorem displayed_item {title : String} (hshort : (c_string title).length < TITLE_SIZE - 1)
    (hprev : c_str display.title ≠ c_string title)
    (htitle : c_str display'.title = c_string title) :
    c_str (c_string item.title) = c_string title ∧
      item.value.print ⟨true⟩ display.text = some (0, display'.text) := by
  rw [transaction_summary_display_item, hfind] at hdisplay
  rcases transaction_summary_update_display_cases hdisplay with ⟨-, hsame⟩ | ⟨-, hprint, hshown⟩
  · rw [hsame] at htitle
    exact absurd htitle hprev
  · rw [htitle] at hshown
    exact ⟨(title_of_truncated hshown hshort).symm, hprint⟩

/-- A displayed item that passes as the amount is the validated one. The title that was
displayed before is another, so it is this item that wrote it. -/
theorem displayed_amount (hkind : item.kind = .SummaryItemAmount)
    (hprev : c_str display.title ≠ c_string "Transfer")
    (hcheck : check_swap_amount validated display'.title display'.text = some true) :
    IsValidatedAmount validated item ∧ c_str display'.title = c_string "Transfer" := by
  obtain ⟨htitle, out, out_length, buf, hamount, htext⟩ := check_swap_amount_true hcheck
  obtain ⟨hown, hprint⟩ := displayed_item hfind hdisplay (by decide +kernel) hprev htitle
  obtain ⟨item_title, value⟩ := item
  cases value <;> cases hkind
  rename_i u64
  have hsame : u64 = validated.amount := print_amount_inj hprint hamount htext
  exact ⟨⟨congrArg _ hsame, hown⟩, htitle⟩

/-- A displayed item that passes as the recipient is the validated one, by the same
argument. -/
theorem displayed_recipient (hkind : item.kind = .SummaryItemPubkey)
    (hprev : c_str display.title ≠ c_string "Recipient")
    (hcheck : check_swap_recipient validated display'.title display'.text = true) :
    IsValidatedRecipient validated item ∧ c_str display'.title = c_string "Recipient" := by
  obtain ⟨htitle, htext⟩ := check_swap_recipient_true hcheck
  obtain ⟨hown, hprint⟩ := displayed_item hfind hdisplay (by decide +kernel) hprev htitle
  obtain ⟨item_title, value⟩ := item
  cases value <;> cases hkind
  rename_i pubkey
  exact ⟨⟨⟨pubkey, rfl, (print_pubkey_text hprint).symm.trans htext⟩, hown⟩, htitle⟩

end Items

section Loop

variable {validated : SwapValidated} {summary : TransactionSummary} {i : ℕ}
  {amount_ok recipient_ok : Bool} {display last : SummaryDisplay}

/-- At the end of the items both checks have passed. -/
theorem check_swap_items_nil
    (h : check_swap_items validated summary [] i (amount_ok, recipient_ok) display =
      some (true, last)) : amount_ok = true ∧ recipient_ok = true := by
  rw [check_swap_items, Option.some.injEq, Prod.mk.injEq, Bool.and_eq_true] at h
  exact h.1

/-- A round of the loop that does not refuse: the item is an amount or a key, and is
checked as such. -/
theorem check_swap_items_cons {kind : SummaryItemKind} {kinds : List SummaryItemKind}
    (h : check_swap_items validated summary (kind :: kinds) i (amount_ok, recipient_ok) display =
      some (true, last)) :
    ∃ rc display', transaction_summary_display_item summary i ⟨true⟩ display =
        some (rc, display') ∧
      ((kind = .SummaryItemAmount ∧ ∃ ok,
          check_swap_amount validated display'.title display'.text = some ok ∧
          check_swap_items validated summary kinds (i + 1) (ok, recipient_ok) display' =
            some (true, last)) ∨
        (kind = .SummaryItemPubkey ∧
          check_swap_items validated summary kinds (i + 1)
            (amount_ok, check_swap_recipient validated display'.title display'.text) display' =
              some (true, last))) := by
  rw [check_swap_items, Option.bind_eq_bind, Option.bind_eq_some_iff] at h
  obtain ⟨⟨rc, display'⟩, hdisplay, h⟩ := h
  refine ⟨rc, display', hdisplay, ?_⟩
  dsimp only at h
  split at h
  · rw [Option.bind_eq_bind, Option.bind_eq_some_iff] at h
    obtain ⟨ok, hcheck, h⟩ := h
    exact Or.inl ⟨rfl, ok, hcheck, h⟩
  · exact Or.inr ⟨rfl, h⟩
  · cases h

end Loop

/-- **Two items that pass the checks** are the amount and the recipient that were
confirmed, in either order. That there are two of them is checked before the loop. -/
theorem check_swap_items_true {validated : SwapValidated} {summary : TransactionSummary}
    {a b : SummaryItem} {display : SummaryDisplay} (hprimary : summary.primary ≠ none)
    (hitems : summary.items = [a, b])
    (h : check_swap_items validated summary (summary.items.map SummaryItem.kind) 0 (false, false)
      SummaryDisplay.reset = some (true, display)) :
    (IsValidatedAmount validated a ∧ IsValidatedRecipient validated b) ∨
      (IsValidatedRecipient validated a ∧ IsValidatedAmount validated b) := by
  have hfind₀ : transaction_summary_find_item summary 0 = some (some a) :=
    transaction_summary_find_item_eq hprimary (by rw [hitems]; rfl)
  have hfind₁ : transaction_summary_find_item summary 1 = some (some b) :=
    transaction_summary_find_item_eq hprimary (by rw [hitems]; rfl)
  have hreset : ∀ title, title ≠ [] → c_str SummaryDisplay.reset.title ≠ title := by
    intro title hne h
    exact hne h.symm
  rw [hitems, List.map_cons, List.map_cons, List.map_nil] at h
  obtain ⟨rc₀, display₀, hdisplay₀, h⟩ := check_swap_items_cons h
  rcases h with ⟨hkind₀, ok₀, hcheck₀, h⟩ | ⟨hkind₀, h⟩
  · obtain ⟨rc₁, display₁, hdisplay₁, h⟩ := check_swap_items_cons h
    rcases h with ⟨hkind₁, ok₁, hcheck₁, h⟩ | ⟨hkind₁, h⟩
    · -- no recipient
      exact absurd (check_swap_items_nil h).2 Bool.false_ne_true
    · obtain ⟨hok₀, hcheck₁⟩ := check_swap_items_nil h
      rw [hok₀] at hcheck₀
      obtain ⟨hamount, htitle⟩ := displayed_amount hfind₀ hdisplay₀ hkind₀
        (hreset _ (by decide +kernel)) hcheck₀
      have hother : c_str display₀.title ≠ c_string "Recipient" := by
        rw [htitle]
        decide +kernel
      exact Or.inl ⟨hamount, (displayed_recipient hfind₁ hdisplay₁ hkind₁ hother hcheck₁).1⟩
  · obtain ⟨rc₁, display₁, hdisplay₁, h⟩ := check_swap_items_cons h
    rcases h with ⟨hkind₁, ok₁, hcheck₁, h⟩ | ⟨hkind₁, h⟩
    · obtain ⟨hok₁, hcheck₀⟩ := check_swap_items_nil h
      rw [hok₁] at hcheck₁
      obtain ⟨hrecipient, htitle⟩ := displayed_recipient hfind₀ hdisplay₀ hkind₀
        (hreset _ (by decide +kernel)) hcheck₀
      have hother : c_str display₀.title ≠ c_string "Transfer" := by
        rw [htitle]
        decide +kernel
      exact Or.inr ⟨hrecipient, (displayed_amount hfind₁ hdisplay₁ hkind₁ hother hcheck₁).1⟩
    · -- no amount
      exact absurd (check_swap_items_nil h).1 Bool.false_ne_true

/-! ## Only a transfer is called one -/

/-- An amount under the title that the check asks for. Titles are cut off at the size of
their buffer, and compared after that. -/
def IsTransferAmount (item : SummaryItem) : Prop :=
  ∃ lamports, item.value = .SummaryItemAmount lamports ∧
    c_str (c_string item.title) = c_string "Transfer"

/-- The titles of the other amounts. None of them reads `Transfer`, also when it is cut
off. -/
theorem other_amount_titles :
    ¬c_str (c_string "Deposit") = c_string "Transfer" ∧
    ¬c_str (c_string "Funded with") = c_string "Transfer" ∧
    ¬c_str (c_string "Nonce withdraw") = c_string "Transfer" ∧
    ¬c_str (c_string "Stake withdraw") = c_string "Transfer" ∧
    ¬c_str (c_string "Split stake") = c_string "Transfer" ∧
    ¬c_str (c_string "Vote withdraw") = c_string "Transfer" := by
  decide +kernel

section OnlyTransfer

variable (print_config : PrintConfig)

/-- Of the system instructions only a transfer has such an amount. -/
theorem print_system_info_transfer {info : SystemInfo}
    (h : (print_system_info info print_config).sets IsTransferAmount) :
    ∃ transfer, info = .SystemTransfer transfer := by
  cases info with
  | SystemTransfer transfer => exact ⟨transfer, rfl⟩
  | _ =>
    simp [print_system_info, print_system_advance_nonce_account, print_system_withdraw_nonce_info,
      print_system_authorize_nonce_info, print_system_allocate_info, print_system_assign_info,
      print_system_allocate_with_seed_info, print_system_create_account_info,
      print_system_create_account_with_seed_info, print_system_initialize_nonce_info,
      IsTransferAmount, other_amount_titles] at h

/-- No stake instruction has an item of that kind and title. -/
theorem print_stake_info_avoids (info : StakeInfo) :
    ¬(print_stake_info info print_config).sets IsTransferAmount := by
  cases info <;>
    simp [print_stake_info, print_stake_withdraw_info, print_stake_authorize_info,
      print_stake_deactivate_info, print_stake_set_lockup_info, print_stake_split_info,
      print_stake_split_info1, print_stake_split_info2, print_stake_merge_info,
      print_delegate_stake_info, print_stake_initialize_info, IsTransferAmount,
      other_amount_titles]

/-- No vote instruction has one. -/
theorem print_vote_info_avoids (info : VoteInfo) :
    ¬(print_vote_info info print_config).sets IsTransferAmount := by
  cases info <;>
    simp [print_vote_info, print_vote_withdraw_info, print_vote_authorize_info,
      print_vote_update_validator_id_info, print_vote_update_commission_info,
      print_vote_initialize_info, IsTransferAmount, other_amount_titles]

/-- A key is no amount. -/
theorem not_transfer_pubkey (title : String) (pubkey : PubkeyRef) :
    ¬IsTransferAmount ⟨title, .SummaryItemPubkey pubkey⟩ := by
  simp [IsTransferAmount]

/-- A number is no amount of the coin. -/
theorem not_transfer_u64 (title : String) (u64 : UInt64) :
    ¬IsTransferAmount ⟨title, .SummaryItemU64 u64⟩ := by
  simp [IsTransferAmount]

/-- No token instruction has one: an amount of tokens is an item of another kind. -/
theorem print_rpl_token_info_avoids (info : RplTokenInfo) :
    ¬(print_rpl_token_info info print_config).sets IsTransferAmount := by
  have hsign := print_rpl_token_sign_avoids print_config not_transfer_pubkey not_transfer_u64
  cases info <;>
    simp [print_rpl_token_info, print_rpl_token_initialize_mint_info,
      print_rpl_token_initialize_account_info, print_rpl_token_initialize_multisig_info,
      summary_item_set_multisig_m_of_n, print_rpl_token_revoke_info,
      print_rpl_token_set_authority_info, print_rpl_token_close_account_info,
      print_rpl_token_freeze_account_info, print_rpl_token_thaw_account_info,
      print_rpl_token_transfer_info, print_rpl_token_approve_info,
      print_rpl_token_mint_to_info, print_rpl_token_burn_info,
      print_rpl_token_sync_native_info, IsTransferAmount, hsign]

/-- The creation of an account, followed by what it is created for. -/
theorem print_create_avoids (title : String) (ca : SystemCreateAccountInfo) {p : SummaryM Unit}
    (hp : ¬p.sets IsTransferAmount) :
    ¬(do
      summary_item_set_pubkey .primary title ca.to_
      print_system_create_account_info none ca print_config
      p).sets IsTransferAmount := by
  simp [print_system_create_account_info, IsTransferAmount, other_amount_titles, hp]

/-- A deposit is an amount, but under a title of its own. -/
theorem print_create_with_seed_avoids (title : String) (cws : SystemCreateAccountWithSeedInfo)
    {p : SummaryM Unit} (hp : ¬p.sets IsTransferAmount) :
    ¬(do
      summary_item_set_pubkey .primary title cws.to_
      print_system_create_account_with_seed_info none cws print_config
      p).sets IsTransferAmount := by
  simp [print_system_create_account_with_seed_info, IsTransferAmount, other_amount_titles, hp]

/-- Authorities and a lockup are no amounts. -/
theorem print_stake_initialize_info_avoids (info : StakeInitializeInfo) :
    ¬(print_stake_initialize_info none info print_config).sets IsTransferAmount := by
  simp [print_stake_initialize_info, IsTransferAmount]

/-- Nor is a delegation. -/
theorem print_initialize_and_delegate_avoids (si : StakeInitializeInfo) (sd : StakeDelegateInfo) :
    ¬(do
      print_stake_initialize_info none si print_config
      print_delegate_stake_info none sd print_config).sets IsTransferAmount := by
  have hinit := print_stake_initialize_info_avoids print_config si
  simp [hinit, print_delegate_stake_info, IsTransferAmount]

/-- The amount of a split has a title of its own. -/
theorem print_split_avoids (base : PubkeyRef) (seed : SizedString) (ss : StakeSplitInfo) :
    ¬(print_stake_split_with_seed.print_split print_config base seed ss).sets
      IsTransferAmount := by
  simp [print_stake_split_with_seed.print_split, print_stake_split_info1,
    print_stake_split_info2, IsTransferAmount, other_amount_titles]

/-- The amount a mint is funded with has a title of its own. -/
theorem print_rpl_token_create_mint_avoids (ca : SystemCreateAccountInfo)
    (im : RplTokenInitializeMintInfo) :
    ¬(print_rpl_token_create_mint print_config [.ProgramIdSystem (.SystemCreateAccount ca),
      .ProgramIdRplToken (.InitializeMint im)]).sets IsTransferAmount := by
  simp [print_rpl_token_create_mint, IsTransferAmount, other_amount_titles]

/-- So has the amount a token account is funded with. -/
theorem print_rpl_token_create_account_avoids (ca : SystemCreateAccountInfo)
    (ia : RplTokenInitializeAccountInfo) :
    ¬(print_rpl_token_create_account print_config [.ProgramIdSystem (.SystemCreateAccount ca),
      .ProgramIdRplToken (.InitializeAccount ia)]).sets IsTransferAmount := by
  simp [print_rpl_token_create_account, IsTransferAmount, other_amount_titles]

/-- So has the amount a multisig is funded with. -/
theorem print_rpl_token_create_multisig_avoids (ca : SystemCreateAccountInfo)
    (im : RplTokenInitializeMultisigInfo) :
    ¬(print_rpl_token_create_multisig print_config [.ProgramIdSystem (.SystemCreateAccount ca),
      .ProgramIdRplToken (.InitializeMultisig im)]).sets IsTransferAmount := by
  simp [print_rpl_token_create_multisig, summary_item_set_multisig_m_of_n, IsTransferAmount,
    other_amount_titles]

/-- A transfer of tokens is no transfer of the coin. -/
theorem print_create_with_transfer_avoids (create : RplAssociatedTokenAccountCreateInfo)
    (transfer : RplTokenTransferInfo) :
    ¬(print_rpl_associated_token_account_create_with_transfer print_config
      [.ProgramIdRplAssociatedTokenAccount create,
        .ProgramIdRplToken (.TransferChecked transfer)]).sets IsTransferAmount := by
  have hsign := print_rpl_token_sign_avoids print_config not_transfer_pubkey not_transfer_u64
    transfer.sign
  simp [print_rpl_associated_token_account_create_with_transfer,
    print_rpl_associated_token_account_create_info, print_rpl_token_transfer_info,
    IsTransferAmount, hsign]

/-- **Only a transfer** is shown as one: of all recognised transactions, no other
pattern sets an amount with that title. The cases are those of `Recognised`. -/
theorem Recognised.transfer_of_sets {infos : List InstructionInfo} (hr : Recognised infos)
    (h : (print_transaction_nonce_processed print_config infos).sets IsTransferAmount) :
    ∃ transfer, infos = [.ProgramIdSystem (.SystemTransfer transfer)] := by
  -- Each other printer avoids such an item: its amounts of lamports have other titles.
  cases hr with
  | @single info hsupported =>
    cases info with
    | ProgramIdSystem system =>
      obtain ⟨transfer, rfl⟩ := print_system_info_transfer print_config h
      exact ⟨transfer, rfl⟩
    | ProgramIdStake stake => exact absurd h (print_stake_info_avoids print_config stake)
    | ProgramIdVote vote => exact absurd h (print_vote_info_avoids print_config vote)
    | ProgramIdRplToken rpl_token =>
      exact absurd h (print_rpl_token_info_avoids print_config rpl_token)
    | ProgramIdRplAssociatedTokenAccount create =>
      simp [print_transaction_nonce_processed, print_one_instruction,
        print_rpl_associated_token_account_info, print_rpl_associated_token_account_create_info,
        IsTransferAmount] at h
    | ProgramIdRplMemo => exact absurd hsupported id
    | ProgramIdUnknown => exact absurd hsupported id
  | create_stake_account ca si =>
    exact absurd h (print_create_avoids print_config _ ca
      (print_stake_initialize_info_avoids print_config si))
  | create_stake_account_checked ca si =>
    exact absurd h (print_create_avoids print_config _ ca
      (print_stake_initialize_info_avoids print_config si))
  | create_stake_account_with_seed cws si =>
    exact absurd h (print_create_with_seed_avoids print_config _ cws
      (print_stake_initialize_info_avoids print_config si))
  | create_stake_account_with_seed_checked cws si =>
    exact absurd h (print_create_with_seed_avoids print_config _ cws
      (print_stake_initialize_info_avoids print_config si))
  | create_nonce_account ca ni =>
    exact absurd h (print_create_avoids print_config _ ca (by
      simp [print_system_initialize_nonce_info, IsTransferAmount]))
  | create_nonce_account_with_seed cws ni =>
    exact absurd h (print_create_with_seed_avoids print_config _ cws (by
      simp [print_system_initialize_nonce_info, IsTransferAmount]))
  | create_vote_account ca vi =>
    exact absurd h (print_create_avoids print_config _ ca (by
      simp [print_vote_initialize_info, IsTransferAmount]))
  | create_vote_account_with_seed cws vi =>
    exact absurd h (print_create_with_seed_avoids print_config _ cws (by
      simp [print_vote_initialize_info, IsTransferAmount]))
  | create_stake_account_and_delegate ca si sd =>
    exact absurd h (print_create_avoids print_config _ ca
      (print_initialize_and_delegate_avoids print_config si sd))
  | create_stake_account_with_seed_and_delegate cws si sd =>
    exact absurd h (print_create_with_seed_avoids print_config _ cws
      (print_initialize_and_delegate_avoids print_config si sd))
  | stake_authorize_both staker withdrawer =>
    exact absurd h (print_stake_authorize_both_avoids print_config not_transfer_pubkey staker
      withdrawer)
  | stake_authorize_checked_both staker withdrawer =>
    exact absurd h (print_stake_authorize_both_avoids print_config not_transfer_pubkey staker
      withdrawer)
  | vote_authorize_both voter withdrawer =>
    exact absurd h (print_vote_authorize_both_avoids print_config not_transfer_pubkey voter
      withdrawer)
  | vote_authorize_checked_both voter withdrawer =>
    exact absurd h (print_vote_authorize_both_avoids print_config not_transfer_pubkey voter
      withdrawer)
  | stake_split_v1_1 al as ss =>
    exact absurd h (print_stake_info_avoids print_config (.StakeSplit ss))
  | stake_split_v1_2 ca ss =>
    exact absurd h (print_stake_info_avoids print_config (.StakeSplit ss))
  | stake_split_with_seed_v1_1 aws ss =>
    exact absurd h (print_split_avoids print_config aws.base aws.seed ss)
  | stake_split_with_seed_v1_2 cws ss =>
    exact absurd h (print_split_avoids print_config cws.base cws.seed ss)
  | rpl_token_create_mint ca im =>
    exact absurd h (print_rpl_token_create_mint_avoids print_config ca im)
  | rpl_token_create_account ca ia =>
    exact absurd h (print_rpl_token_create_account_avoids print_config ca ia)
  | rpl_token_create_account2 ca ia =>
    exact absurd h (print_rpl_token_create_account_avoids print_config ca ia)
  | rpl_token_create_multisig ca im =>
    exact absurd h (print_rpl_token_create_multisig_avoids print_config ca im)
  | rpl_associated_token_account_create_with_transfer create transfer =>
    exact absurd h (print_create_with_transfer_avoids print_config create transfer)

end OnlyTransfer

end RenecLedger
