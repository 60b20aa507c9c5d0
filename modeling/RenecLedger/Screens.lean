/-
What the screens say of a transfer.

The user reads titles and texts, one screen for each item of the summary. A title is found on
the screens when the summary has an item with that title (`on_screen_iff`). No printer but that of
a transfer has an item titled "Transfer" (`Recognised.transfer_of_titled`), so the screen with that
title is there exactly for the messages that come down to a transfer, and says how much is
transferred; what the screens titled "Recipient" and "Sender" say is the accounts of that very
transfer (`approved_screens`).
-/
import RenecLedger.Consent
import RenecLedger.ItemPlaces
import RenecLedger.Rendering

set_option autoImplicit false

open MachineLib ProgramLib

namespace RenecLedger

/-! ## The screens of a summary -/

/-- A step of the review, with anything in the two buffers before, leaves the title and
the text in them. Both are read as C strings, as the screen shows them. -/
def OnScreen (summary : TransactionSummary) (flags : DisplayFlags) (title text : List UInt8) :
    Prop :=
  ∃ i display display', display.Sized ∧
    transaction_summary_display_item summary i flags display = some (0, display') ∧
    c_str display'.title = title ∧ c_str display'.text = text

/-- The title of the item reads so. -/
def Titled (title : String) (item : SummaryItem) : Prop :=
  c_str (c_string item.title) = c_string title

/-- The value of the item is printed so, in a buffer with anything in it. It is a
relation and not a function, since a value that cannot be printed reads as nothing. -/
def SummaryItemValue.ReadsAs (value : SummaryItemValue) (flags : DisplayFlags)
    (text : List UInt8) : Prop :=
  ∃ buffer out, buffer.length = TEXT_BUFFER_LENGTH ∧
    value.print flags buffer = some (0, out) ∧ c_str out = text

/-- Every item that is used is found, and nothing else. -/
theorem find_item_iff {summary : TransactionSummary} {item : SummaryItem} :
    (∃ i, transaction_summary_find_item summary i = some (some item)) ↔ item ∈ summary.items := by
  have hitems : some item ∈ summary.used_places.map summary.item_at ↔ item ∈ summary.items := by
    rw [items_eq_places, List.mem_map]
    simp
  rw [← hitems, List.mem_map]
  constructor
  · rintro ⟨i, hfind⟩
    rw [find_item_deref, Option.map_eq_some_iff] at hfind
    obtain ⟨place, -, hitem⟩ := hfind
    refine ⟨place, mem_used_places.mpr ?_, hitem⟩
    rw [hitem]
    exact nofun
  · rintro ⟨place, hused, hitem⟩
    -- What is used is among what can be found.
    have hfound : place ∈ summary.found_places := by
      rw [TransactionSummary.used_places, all_places, List.filter_append, List.filter_cons,
        List.mem_append] at hused
      rw [TransactionSummary.found_places, List.mem_append]
      refine hused.imp (fun hused => ?_) fun hused => (List.mem_filter.mp hused).1
      split at hused
      · exact hused
      · exact List.mem_cons_of_mem _ hused
    obtain ⟨i, hi⟩ := List.mem_iff_getElem?.mp hfound
    exact ⟨i, by rw [find_item_deref, find_item_eq, hi, Option.map_some, hitem]⟩

/-- **What is on the screens**: the items of the summary, under the titles that fit. -/
theorem on_screen_iff {summary : TransactionSummary} {flags : DisplayFlags} {title : String}
    {text : List UInt8} (hshort : (c_string title).length < TITLE_SIZE - 1) :
    OnScreen summary flags (c_string title) text ↔
      ∃ item ∈ summary.items, Titled title item ∧ item.value.ReadsAs flags text := by
  constructor
  · rintro ⟨i, display, display', hsized, hdisplay, htitle, rfl⟩
    rw [transaction_summary_display_item] at hdisplay
    split at hdisplay
    · cases hdisplay
    rename_i found hfind
    cases found with
    | none => cases hdisplay
    | some item =>
      rcases transaction_summary_update_display_cases hdisplay with ⟨hrc, -⟩ | ⟨-, hprint, hshown⟩
      · exact absurd rfl hrc
      · rw [htitle] at hshown
        exact ⟨item, find_item_iff.mp ⟨i, hfind⟩, (title_of_truncated hshown hshort).symm,
          display.text, display'.text, hsized.text, hprint, rfl⟩
  · rintro ⟨item, hitem, htitled, buffer, out, hlen, hprint, htext⟩
    obtain ⟨i, hfind⟩ := find_item_iff.mpr hitem
    have hsized : SummaryDisplay.Sized ⟨List.replicate TITLE_SIZE 0, buffer⟩ :=
      ⟨List.length_replicate, hlen⟩
    obtain ⟨rc, shown, hshown, -⟩ := print_string_ok (c_string item.title)
      (by decide : 1 ≤ TITLE_SIZE) hsized.title.ge
    refine ⟨i, ⟨List.replicate TITLE_SIZE 0, buffer⟩, ⟨shown, out⟩, hsized, ?_, ?_, htext⟩
    · rw [transaction_summary_display_item, hfind]
      change (item.value.print flags buffer).bind _ = _
      rw [hprint, Option.bind_some]
      dsimp only
      rw [if_neg (not_not.mpr rfl), hshown]
      rfl
    · have hfits : (c_string title).length < TITLE_SIZE := by omega
      change c_str shown = c_string title
      rw [(print_string_text hshown).1, htitled, truncated, if_pos hfits]

/-! ## The texts of amounts and keys -/

/-- An amount reads as its decimals and the name of the coin. -/
theorem amount_reads_as {amount : UInt64} {flags : DisplayFlags} {text : List UInt8} :
    (SummaryItemValue.SummaryItemAmount amount).ReadsAs flags text ↔
      text = amount_text amount.toNat RENEC_DECIMALS.toNat ++ c_string " RENEC" := by
  constructor
  · rintro ⟨buffer, out, -, hprint, rfl⟩
    exact print_amount_text hprint
  · rintro rfl
    obtain ⟨out, hprint, -⟩ := prints_amount amount sized_reset.text
    exact ⟨_, out, sized_reset.text, hprint, print_amount_text hprint⟩

/-- A text with its middle left out. -/
def abbreviated (text : List UInt8) : List UInt8 :=
  text.take SUMMARY_LENGTH ++ [char '.'] ++ [char '.'] ++ text.drop (text.length - SUMMARY_LENGTH)

/-- A shortened key takes sixteen characters: seven, two dots and seven more. -/
theorem abbreviated_length {text : List UInt8} (h : BASE58_PUBKEY_SHORT ≤ text.length) :
    (abbreviated text).length = 16 := by
  have hshort : BASE58_PUBKEY_SHORT = 17 := rfl
  have hsummary : SUMMARY_LENGTH = 7 := rfl
  simp only [abbreviated, List.length_append, List.length_take, List.length_drop,
    List.length_singleton]
  omega

/-- The five writes of a summary, one behind the other. -/
theorem print_summary_text {text out out' : List UInt8} (hzero : 0 ∉ text)
    (hlong : BASE58_PUBKEY_SHORT ≤ text.length)
    (h : print_summary text out BASE58_PUBKEY_SHORT SUMMARY_LENGTH SUMMARY_LENGTH =
      some (0, out')) : c_str out' = abbreviated text := by
  have hshort : BASE58_PUBKEY_SHORT = 17 := rfl
  have hsummary : SUMMARY_LENGTH = 7 := rfl
  have hlen := abbreviated_length hlong
  have hleft : (text.take SUMMARY_LENGTH).length = SUMMARY_LENGTH := by
    rw [List.length_take]
    omega
  have hright : (text.drop (text.length - SUMMARY_LENGTH)).length = SUMMARY_LENGTH := by
    rw [List.length_drop]
    omega
  have hnot : 0 ∉ abbreviated text := by
    rw [abbreviated]
    simp only [List.mem_append, List.mem_singleton, not_or]
    exact ⟨⟨⟨fun h => hzero (List.mem_of_mem_take h), by decide⟩, by decide⟩,
      fun h => hzero (List.mem_of_mem_drop h)⟩
  rw [print_summary, if_neg (by decide), c_str_of_notMem hzero] at h
  dsimp only at h
  rw [if_pos (by omega), List.take_of_length_le hright.le] at h
  simp only [Option.bind_eq_bind, Option.bind_eq_some_iff] at h
  obtain ⟨out₁, hcopy₁, out₂, hwrite₂, out₃, hwrite₃, out₄, hcopy₄, out₅, hwrite₅, h⟩ := h
  cases h
  -- each write goes to the end of what has been written
  have hfront : copy_at ([] ++ out) ([] : List UInt8).length (text.take SUMMARY_LENGTH) =
      some out₁ := hcopy₁
  obtain ⟨-, rfl⟩ := copy_at_append_eq_some.mp hfront
  have hdot : write_at (text.take SUMMARY_LENGTH ++ out.drop SUMMARY_LENGTH)
      (text.take SUMMARY_LENGTH).length (char '.') = some out₂ := by
    rw [List.nil_append, hleft] at hwrite₂
    rw [hleft]
    exact hwrite₂
  obtain ⟨-, rfl⟩ := write_at_append_eq_some.mp hdot
  have hone : SUMMARY_LENGTH + 1 = (text.take SUMMARY_LENGTH ++ [char '.']).length := by
    rw [List.length_append, hleft, List.length_singleton]
  rw [hone] at hwrite₃
  obtain ⟨-, rfl⟩ := write_at_append_eq_some.mp hwrite₃
  have htwo : SUMMARY_LENGTH + 2 =
      (text.take SUMMARY_LENGTH ++ [char '.'] ++ [char '.']).length := by
    rw [List.length_append, List.length_append, hleft, List.length_singleton]
  rw [htwo] at hcopy₄
  obtain ⟨-, rfl⟩ := copy_at_append_eq_some.mp hcopy₄
  have hend : SUMMARY_LENGTH + SUMMARY_LENGTH + 2 = (abbreviated text).length := by
    rw [hlen]
    rfl
  rw [hend] at hwrite₅
  obtain ⟨-, rfl⟩ := write_at_append_eq_some.mp hwrite₅
  rw [List.append_assoc, List.singleton_append]
  exact c_str_append_zero hnot _

/-- A key as it is displayed: whole, or abbreviated to its first and last seven
characters, as the setting says. -/
def displayed_key (flags : DisplayFlags) (key : Pubkey) : List UInt8 :=
  if flags.DisplayFlagLongPubkeys then base58 key.data else abbreviated (base58 key.data)

/-- A key in full is never shorter than a shortened one. -/
theorem base58_key_long (key : Pubkey) : BASE58_PUBKEY_SHORT ≤ (base58 key.data).length := by
  have hshort : BASE58_PUBKEY_SHORT = 17 := rfl
  have hsize : key.data.length = 32 := key.size
  have hlen := length_le_base58 key.data
  omega

/-- A whole key and an abbreviated one do not look the same. -/
theorem displayed_key_flags {flags flags' : DisplayFlags} {key key' : Pubkey}
    (h : displayed_key flags key = displayed_key flags' key') : flags = flags' := by
  have hlength := congrArg List.length h
  have hkey := base58_key_long key
  have hkey' := base58_key_long key'
  have hshort : BASE58_PUBKEY_SHORT = 17 := rfl
  obtain ⟨long⟩ := flags
  obtain ⟨long'⟩ := flags'
  cases long <;> cases long' <;>
    simp only [displayed_key, if_true, if_false, Bool.false_eq_true, abbreviated_length hkey,
      abbreviated_length hkey'] at hlength ⊢ <;> omega

/-- Whole keys that look the same are the same. -/
theorem displayed_key_injective {flags : DisplayFlags} (hlong : flags.DisplayFlagLongPubkeys = true)
    {key key' : Pubkey} (h : displayed_key flags key = displayed_key flags key') : key = key' := by
  rw [displayed_key, displayed_key, if_pos hlong, if_pos hlong] at h
  exact Pubkey.ext (base58_injective h)

/-- A key reads as it is displayed. -/
theorem pubkey_reads_as {pubkey : PubkeyRef} {flags : DisplayFlags} {text : List UInt8} :
    (SummaryItemValue.SummaryItemPubkey pubkey).ReadsAs flags text ↔
      text = displayed_key flags pubkey.key := by
  have hprints : ∀ {buffer out : List UInt8},
      print_pubkey pubkey flags buffer = some (0, out) →
        c_str out = displayed_key flags pubkey.key := by
    intro buffer out hprint
    obtain ⟨long⟩ := flags
    cases long with
    | true => exact print_pubkey_text hprint
    | false =>
      rw [print_pubkey, Option.bind_eq_bind, Option.bind_eq_some_iff] at hprint
      obtain ⟨⟨rc, tmp_buf⟩, hencode, hprint⟩ := hprint
      dsimp only at hprint
      by_cases hrc : rc = 0
      · rw [if_neg (not_not.mpr hrc), if_neg Bool.false_ne_true] at hprint
        rw [hrc] at hencode
        rw [encode_base58_text pubkey.key.size.le hencode] at hprint
        exact print_summary_text (zero_notMem_base58 _) (base58_key_long _) hprint
      · rw [if_pos hrc] at hprint
        cases hprint
        exact absurd rfl hrc
  constructor
  · rintro ⟨buffer, out, -, hprint, rfl⟩
    exact hprints hprint
  · rintro rfl
    obtain ⟨out, hprint, -⟩ := prints_pubkey pubkey flags sized_reset.text
    exact ⟨_, out, sized_reset.text, hprint, hprints hprint⟩

/-! ## Only a transfer is titled so -/

/-- The titles of the items of instructions, but for the amount of a transfer. -/
def instruction_titles : List String :=
  ["Advance nonce", "Allocate acct", "Allowance", "Approve delegate", "Assign acct", "Authority",
    "Authorized by", "Base", "Burn tokens", "Clear authority", "Close acct", "Commission",
    "Create account", "Create multisig", "Create nonce acct", "Create stake acct",
    "Create token acct", "Create token mint", "Create vote acct", "Custodian", "Data size",
    "Deactivate stake", "Decimals", "Delegate from", "Deposit", "Epoch", "Freeze account",
    "Freeze acct", "Freeze authority", "From", "From mint", "Funded by", "Funded with",
    "Init acct", "Init mint", "Init multisig", "Init nonce acct", "Init stake acct",
    "Init vote acct", "Into", "Lockup", "Lockup authority", "Lockup epoch", "Lockup time",
    "Merge", "Mint", "Mint authority", "Mint decimals", "Mint tokens", "New authorities",
    "New authority", "New stake auth", "New validator ID", "New vote auth", "New withdraw auth",
    "Nonce withdraw", "Owned by", "Owner", "Recipient", "Required signers", "Revoke delegate",
    "Seed", "Sender", "Set authority", "Set lockup", "Set nonce auth", "Set stake auth",
    "Set vote auth", "Signers", "Split stake", "Stake withdraw", "Sync native acct", "Thaw acct",
    "Time", "To", "To program", "Transfer tokens", "Type", "Update commission",
    "Update validator", "Validator ID", "Vote account", "Vote withdraw", "Withdraw to"]

/-- None of these reads so. -/
def Unused (title : String) : Prop :=
  ∀ used ∈ instruction_titles, c_str (c_string used) ≠ c_string title

/-- A title that no instruction uses is not the title of its items. -/
theorem Unused.untitled {title used : String} (h : Unused title)
    (hused : used ∈ instruction_titles) (value : SummaryItemValue) :
    ¬Titled title ⟨used, value⟩ :=
  h used hused

section OnlyTransfer

variable (print_config : PrintConfig) {title : String} (hunused : Unused title)

include hunused

/-- Of the system instructions only the transfer has such a title. -/
theorem print_system_info_titled {info : SystemInfo}
    (h : (print_system_info info print_config).sets (Titled title)) :
    ∃ transfer, info = .SystemTransfer transfer := by
  cases info with
  | SystemTransfer transfer => exact ⟨transfer, rfl⟩
  | _ =>
    simp +decide [print_system_info, print_system_advance_nonce_account,
      print_system_withdraw_nonce_info, print_system_authorize_nonce_info,
      print_system_allocate_info, print_system_assign_info, print_system_allocate_with_seed_info,
      print_system_create_account_info, print_system_create_account_with_seed_info,
      print_system_initialize_nonce_info, hunused.untitled] at h

/-- The title of the new authority is one of two, and neither is such a title. -/
theorem print_stake_authorize_info_untitled (info : StakeAuthorizeInfo) :
    ¬(print_stake_authorize_info info print_config).sets (Titled title) := by
  cases hauthorize : info.authorize <;>
    simp +decide [print_stake_authorize_info, hunused.untitled, hauthorize]

/-- No stake instruction has an item of that title. -/
theorem print_stake_info_untitled (info : StakeInfo) :
    ¬(print_stake_info info print_config).sets (Titled title) := by
  have hauthorize := print_stake_authorize_info_untitled print_config hunused
  cases info <;>
    simp +decide [print_stake_info, print_stake_withdraw_info, hauthorize,
      print_stake_deactivate_info, print_stake_set_lockup_info, print_stake_split_info,
      print_stake_split_info1, print_stake_split_info2, print_stake_merge_info,
      print_delegate_stake_info, print_stake_initialize_info, hunused.untitled]

/-- The title of the new authority is one of two here as well. -/
theorem print_vote_authorize_info_untitled (info : VoteAuthorizeInfo) :
    ¬(print_vote_authorize_info info print_config).sets (Titled title) := by
  cases hauthorize : info.authorize <;>
    simp +decide [print_vote_authorize_info, hunused.untitled, hauthorize]

/-- No vote instruction has an item of that title. -/
theorem print_vote_info_untitled (info : VoteInfo) :
    ¬(print_vote_info info print_config).sets (Titled title) := by
  have hauthorize := print_vote_authorize_info_untitled print_config hunused
  cases info <;>
    simp +decide [print_vote_info, print_vote_withdraw_info, hauthorize,
      print_vote_update_validator_id_info, print_vote_update_commission_info,
      print_vote_initialize_info, hunused.untitled]

/-- Those who sign are shown under titles of their own. -/
theorem print_rpl_token_sign_untitled (sign : RplTokenSign) :
    ¬(print_rpl_token_sign sign print_config).sets (Titled title) := by
  cases sign <;> simp +decide [print_rpl_token_sign, hunused.untitled]

/-- The primary title is one of two, and neither is such a title. -/
theorem print_rpl_token_set_authority_info_untitled (info : RplTokenSetAuthorityInfo) :
    ¬(print_rpl_token_set_authority_info info print_config).sets (Titled title) := by
  have hsign := print_rpl_token_sign_untitled print_config hunused
  cases hnew : info.new_authority <;>
    simp +decide [print_rpl_token_set_authority_info, hunused.untitled, hsign, hnew]

/-- No token instruction has an item of that title. -/
theorem print_rpl_token_info_untitled (info : RplTokenInfo) :
    ¬(print_rpl_token_info info print_config).sets (Titled title) := by
  have hsign := print_rpl_token_sign_untitled print_config hunused
  have hset_authority := print_rpl_token_set_authority_info_untitled print_config hunused
  cases info <;>
    simp +decide [print_rpl_token_info, print_rpl_token_initialize_mint_info,
      print_rpl_token_initialize_account_info, print_rpl_token_initialize_multisig_info,
      summary_item_set_multisig_m_of_n, print_rpl_token_revoke_info,
      print_rpl_token_close_account_info, print_rpl_token_freeze_account_info,
      print_rpl_token_thaw_account_info, print_rpl_token_transfer_info,
      print_rpl_token_approve_info, print_rpl_token_mint_to_info, print_rpl_token_burn_info,
      print_rpl_token_sync_native_info, hunused.untitled, hsign, hset_authority]

/-! ### Several instructions -/

/-- The front half that the patterns share adds no item of that title. -/
theorem print_create_untitled {create : String}
    (hcreate : create ∈ instruction_titles) (ca : SystemCreateAccountInfo)
    {p : SummaryM Unit} (hp : ¬p.sets (Titled title)) :
    ¬(do
      summary_item_set_pubkey .primary create ca.to_
      print_system_create_account_info none ca print_config
      p).sets (Titled title) := by
  simp +decide [print_system_create_account_info, hunused.untitled, hunused.untitled hcreate, hp]

/-- Nor does the front half with a seed. -/
theorem print_create_with_seed_untitled {create : String}
    (hcreate : create ∈ instruction_titles) (cws : SystemCreateAccountWithSeedInfo)
    {p : SummaryM Unit} (hp : ¬p.sets (Titled title)) :
    ¬(do
      summary_item_set_pubkey .primary create cws.to_
      print_system_create_account_with_seed_info none cws print_config
      p).sets (Titled title) := by
  simp +decide [print_system_create_account_with_seed_info, hunused.untitled,
    hunused.untitled hcreate, hp]

/-- Nor do the authorities and the lockup. -/
theorem print_stake_initialize_info_untitled (info : StakeInitializeInfo) :
    ¬(print_stake_initialize_info none info print_config).sets (Titled title) := by
  simp +decide [print_stake_initialize_info, hunused.untitled]

/-- Nor does the rear half that the delegations share. -/
theorem print_initialize_and_delegate_untitled (si : StakeInitializeInfo)
    (sd : StakeDelegateInfo) :
    ¬(do
      print_stake_initialize_info none si print_config
      print_delegate_stake_info none sd print_config).sets (Titled title) := by
  have hinit := print_stake_initialize_info_untitled print_config hunused si
  simp +decide [hinit, print_delegate_stake_info, hunused.untitled]

theorem print_split_untitled (base : PubkeyRef) (seed : SizedString) (ss : StakeSplitInfo) :
    ¬(print_stake_split_with_seed.print_split print_config base seed ss).sets
      (Titled title) := by
  simp +decide [print_stake_split_with_seed.print_split, print_stake_split_info1,
    print_stake_split_info2, hunused.untitled]

/-- Nor do the merged authorities of the stake program. -/
theorem print_stake_authorize_both_untitled (staker withdrawer : StakeAuthorizeInfo) :
    ¬(print_stake_authorize_both print_config [.ProgramIdStake (.StakeAuthorize staker),
      .ProgramIdStake (.StakeAuthorize withdrawer)]).sets (Titled title) := by
  simp +decide [print_stake_authorize_both, hunused.untitled]

/-- Nor do the merged authorities of the vote program. -/
theorem print_vote_authorize_both_untitled (voter withdrawer : VoteAuthorizeInfo) :
    ¬(print_vote_authorize_both print_config [.ProgramIdVote (.VoteAuthorize voter),
      .ProgramIdVote (.VoteAuthorize withdrawer)]).sets (Titled title) := by
  simp +decide [print_vote_authorize_both, hunused.untitled]

/-- Nor does a new token account. -/
theorem print_rpl_token_create_account_untitled (ca : SystemCreateAccountInfo)
    (ia : RplTokenInitializeAccountInfo) :
    ¬(print_rpl_token_create_account print_config [.ProgramIdSystem (.SystemCreateAccount ca),
      .ProgramIdRplToken (.InitializeAccount ia)]).sets (Titled title) := by
  simp +decide [print_rpl_token_create_account, hunused.untitled]

/-- Nor does a new mint. -/
theorem print_rpl_token_create_mint_untitled (ca : SystemCreateAccountInfo)
    (im : RplTokenInitializeMintInfo) :
    ¬(print_rpl_token_create_mint print_config [.ProgramIdSystem (.SystemCreateAccount ca),
      .ProgramIdRplToken (.InitializeMint im)]).sets (Titled title) := by
  simp +decide [print_rpl_token_create_mint, hunused.untitled]

/-- Nor does a new multisig. -/
theorem print_rpl_token_create_multisig_untitled (ca : SystemCreateAccountInfo)
    (im : RplTokenInitializeMultisigInfo) :
    ¬(print_rpl_token_create_multisig print_config [.ProgramIdSystem (.SystemCreateAccount ca),
      .ProgramIdRplToken (.InitializeMultisig im)]).sets (Titled title) := by
  simp +decide [print_rpl_token_create_multisig, summary_item_set_multisig_m_of_n, hunused.untitled]

/-- Nor does a token transfer, whose amount has a longer title. -/
theorem print_create_with_transfer_untitled (create : RplAssociatedTokenAccountCreateInfo)
    (transfer : RplTokenTransferInfo) :
    ¬(print_rpl_associated_token_account_create_with_transfer print_config
      [.ProgramIdRplAssociatedTokenAccount create,
        .ProgramIdRplToken (.TransferChecked transfer)]).sets (Titled title) := by
  have hsign := print_rpl_token_sign_untitled print_config hunused transfer.sign
  simp +decide [print_rpl_associated_token_account_create_with_transfer,
    print_rpl_associated_token_account_create_info, print_rpl_token_transfer_info,
    hunused.untitled, hsign]

/-- **Only a transfer** has an item with this title. -/
theorem Recognised.transfer_of_titled {infos : List InstructionInfo} (hr : Recognised infos)
    (h : (print_transaction_nonce_processed print_config infos).sets (Titled title)) :
    ∃ transfer, infos = [.ProgramIdSystem (.SystemTransfer transfer)] := by
  cases hr with
  | @single info hsupported =>
    cases info with
    | ProgramIdSystem system =>
      obtain ⟨transfer, rfl⟩ := print_system_info_titled print_config hunused h
      exact ⟨transfer, rfl⟩
    | ProgramIdStake stake => exact absurd h (print_stake_info_untitled print_config hunused stake)
    | ProgramIdVote vote => exact absurd h (print_vote_info_untitled print_config hunused vote)
    | ProgramIdRplToken rpl_token =>
      exact absurd h (print_rpl_token_info_untitled print_config hunused rpl_token)
    | ProgramIdRplAssociatedTokenAccount create =>
      simp +decide [print_transaction_nonce_processed, print_one_instruction,
        print_rpl_associated_token_account_info, print_rpl_associated_token_account_create_info,
        hunused.untitled] at h
    | ProgramIdRplMemo => exact absurd hsupported id
    | ProgramIdUnknown => exact absurd hsupported id
  | create_stake_account ca si =>
    exact absurd h (print_create_untitled print_config hunused (by decide) ca
      (print_stake_initialize_info_untitled print_config hunused si))
  | create_stake_account_checked ca si =>
    exact absurd h (print_create_untitled print_config hunused (by decide) ca
      (print_stake_initialize_info_untitled print_config hunused si))
  | create_stake_account_with_seed cws si =>
    exact absurd h (print_create_with_seed_untitled print_config hunused (by decide) cws
      (print_stake_initialize_info_untitled print_config hunused si))
  | create_stake_account_with_seed_checked cws si =>
    exact absurd h (print_create_with_seed_untitled print_config hunused (by decide) cws
      (print_stake_initialize_info_untitled print_config hunused si))
  | create_nonce_account ca ni =>
    exact absurd h (print_create_untitled print_config hunused (by decide) ca
      (by simp +decide [print_system_initialize_nonce_info, hunused.untitled]))
  | create_nonce_account_with_seed cws ni =>
    exact absurd h (print_create_with_seed_untitled print_config hunused (by decide) cws
      (by simp +decide [print_system_initialize_nonce_info, hunused.untitled]))
  | create_vote_account ca vi =>
    exact absurd h (print_create_untitled print_config hunused (by decide) ca
      (by simp +decide [print_vote_initialize_info, hunused.untitled]))
  | create_vote_account_with_seed cws vi =>
    exact absurd h (print_create_with_seed_untitled print_config hunused (by decide) cws
      (by simp +decide [print_vote_initialize_info, hunused.untitled]))
  | create_stake_account_and_delegate ca si sd =>
    exact absurd h (print_create_untitled print_config hunused (by decide) ca
      (print_initialize_and_delegate_untitled print_config hunused si sd))
  | create_stake_account_with_seed_and_delegate cws si sd =>
    exact absurd h (print_create_with_seed_untitled print_config hunused (by decide) cws
      (print_initialize_and_delegate_untitled print_config hunused si sd))
  | stake_authorize_both staker withdrawer =>
    exact absurd h (print_stake_authorize_both_untitled print_config hunused staker withdrawer)
  | stake_authorize_checked_both staker withdrawer =>
    exact absurd h (print_stake_authorize_both_untitled print_config hunused staker withdrawer)
  | vote_authorize_both voter withdrawer =>
    exact absurd h (print_vote_authorize_both_untitled print_config hunused voter withdrawer)
  | vote_authorize_checked_both voter withdrawer =>
    exact absurd h (print_vote_authorize_both_untitled print_config hunused voter withdrawer)
  | stake_split_v1_1 al as ss =>
    exact absurd h (print_stake_info_untitled print_config hunused (.StakeSplit ss))
  | stake_split_v1_2 ca ss =>
    exact absurd h (print_stake_info_untitled print_config hunused (.StakeSplit ss))
  | stake_split_with_seed_v1_1 aws ss =>
    exact absurd h (print_split_untitled print_config hunused aws.base aws.seed ss)
  | stake_split_with_seed_v1_2 cws ss =>
    exact absurd h (print_split_untitled print_config hunused cws.base cws.seed ss)
  | rpl_token_create_mint ca im =>
    exact absurd h (print_rpl_token_create_mint_untitled print_config hunused ca im)
  | rpl_token_create_account ca ia =>
    exact absurd h (print_rpl_token_create_account_untitled print_config hunused ca ia)
  | rpl_token_create_account2 ca ia =>
    exact absurd h (print_rpl_token_create_account_untitled print_config hunused ca ia)
  | rpl_token_create_multisig ca im =>
    exact absurd h (print_rpl_token_create_multisig_untitled print_config hunused ca im)
  | rpl_associated_token_account_create_with_transfer create transfer =>
    exact absurd h (print_create_with_transfer_untitled print_config hunused create transfer)

end OnlyTransfer

/-- `Transfer` is the title of the transfer's amount and of no other item. -/
theorem unused_transfer : Unused "Transfer" := by
  rw [Unused]
  decide +kernel

/-! ## The items of a message by their title -/

/-- The titles of the items that any message may have besides those of its instructions. -/
def added_titles : List String :=
  ["Nonce account", "Nonce authority", "Unrecognized", "Message Hash", "Fee payer"]

section Titles

variable {device : Device} {title : String}

/-- A message that is refused has only items with those titles. -/
theorem refused_untitled {message_body : Parser} {print_config : PrintConfig}
    (hadded : ∀ added ∈ added_titles, c_str (c_string added) ≠ c_string title)
    (h : (process_message_body message_body print_config).result = none) :
    ∀ w ∈ (process_message_body message_body print_config).writes, ¬Titled title w.item := by
  rw [process_message_body_refused h]
  intro w hw
  split at hw
  · rw [List.mem_pair] at hw
    rcases hw with rfl | rfl <;> exact hadded _ (by simp [added_titles])
  · cases hw

/-- The items with another title are those of the instructions, if these are recognised. -/
theorem ShowsTransaction.titled_iff {settings : AppSettings} {path : List UInt32}
    {message : List UInt8} {summary : TransactionSummary} {message_body : Parser}
    {print_config : PrintConfig} {fee_payer : PubkeyRef}
    (h : ShowsTransaction device settings path message summary message_body print_config fee_payer)
    (hadded : ∀ added ∈ added_titles, c_str (c_string added) ≠ c_string title)
    {P : SummaryItem → Prop} (hP : ∀ item, P item → Titled title item) :
    (∃ item ∈ summary.items, P item) ↔
      ∃ infos, (parse_message_body print_config.header).run' message_body = some infos ∧
        Recognised (strip_nonce (display_instruction_info infos)) ∧
        (print_transaction_nonce_processed print_config
          (strip_nonce (display_instruction_info infos))).sets P := by
  have hnot : ∀ added ∈ added_titles, ∀ value, ¬P ⟨added, value⟩ := fun added hmem value hp =>
    hadded added hmem (hP _ hp)
  -- Only what the instructions write can have the property.
  have hwrites : (∃ item ∈ summary.items, P item) ↔
      (process_message_body message_body print_config).sets P := by
    constructor
    · rintro ⟨item, hitem, hp⟩
      obtain ⟨w, hw, rfl⟩ := (h.items item).mp hitem
      rw [summary_writes, List.mem_append, List.mem_append] at hw
      rcases hw with (hw | hw) | hw
      · exact ⟨w, hw, hp⟩
      · split at hw
        · rw [blind_sign_writes, List.mem_pair] at hw
          rcases hw with rfl | rfl <;> exact absurd hp (hnot _ (by simp [added_titles]) _)
        · cases hw
      · split at hw
        · rw [List.mem_singleton] at hw
          subst hw
          exact absurd hp (hnot _ (by simp [added_titles]) _)
        · cases hw
    · rintro ⟨w, hw, hp⟩
      exact ⟨w.item, (h.items _).mpr
        ⟨w, List.mem_append_left _ (List.mem_append_left _ hw), rfl⟩, hp⟩
  have hnonce : ∀ nonce, ¬(print_system_nonced_transaction_sentinel nonce print_config).sets P := by
    intro nonce
    have haccount := hnot "Nonce account" (by decide)
    have hauthority := hnot "Nonce authority" (by decide)
    simp [print_system_nonced_transaction_sentinel, haccount, hauthority]
  rw [hwrites]
  by_cases hresult : (process_message_body message_body print_config).result = none
  · constructor
    · rintro ⟨w, hw, hp⟩
      exact absurd (hP _ hp) (refused_untitled hadded hresult w hw)
    · rintro ⟨infos, hinfos, hrecognised, -⟩
      rw [process_message_body, hinfos] at hresult
      rw [(print_transaction_ok print_config).mpr hrecognised] at hresult
      cases hresult
  · obtain ⟨infos, hinfos, hprocess, hrecognised⟩ := processed_recognised hresult
    rw [hprocess, print_transaction_sets_or_nonce print_config hnonce]
    constructor
    · exact fun hsets => ⟨infos, hinfos, hrecognised, hsets⟩
    · rintro ⟨infos', hinfos', -, hsets⟩
      rw [hinfos] at hinfos'
      cases hinfos'
      exact hsets

end Titles

/-! ## The screens of a transfer -/

section Transfer

variable {device : Device} {settings : AppSettings} {path : List UInt32} {message : List UInt8}
  {summary : TransactionSummary} {message_body : Parser} {print_config : PrintConfig}
  {fee_payer : PubkeyRef} {transfer : SystemTransferInfo} {P : SummaryItem → Prop}

/-- The message is a transfer exactly when that is its one instruction behind the nonce. -/
theorem ShowsTransaction.message_transfer_iff
    (h : ShowsTransaction device settings path message summary message_body print_config
      fee_payer) :
    message_transfer message = some transfer ↔
      ∃ infos, (parse_message_body print_config.header).run' message_body = some infos ∧
        strip_nonce (display_instruction_info infos) =
          [.ProgramIdSystem (.SystemTransfer transfer)] := by
  constructor
  · intro htransfer
    obtain ⟨header, message_body', infos, hparsed, hinfos, hstrip⟩ :=
      message_transfer_eq_some htransfer
    rw [h.parsed] at hparsed
    cases hparsed
    exact ⟨infos, hinfos, hstrip⟩
  · rintro ⟨infos, hinfos, hstrip⟩
    rw [message_transfer, h.parsed, Option.bind_eq_bind, Option.bind_some]
    dsimp only
    rw [Option.bind_eq_bind, hinfos, Option.bind_some, hstrip]

/-- A transfer is recognised. -/
theorem recognised_transfer (transfer : SystemTransferInfo) :
    Recognised [.ProgramIdSystem (.SystemTransfer transfer)] := by
  refine Recognised.single (h := ?_)
  exact nofun

/-- The items with a title in the summary of a transfer. -/
theorem ShowsTransaction.transfer_items
    (h : ShowsTransaction device settings path message summary message_body print_config
      fee_payer) (htransfer : message_transfer message = some transfer) {title : String}
    (hadded : ∀ added ∈ added_titles, c_str (c_string added) ≠ c_string title)
    (hP : ∀ item, P item → Titled title item) :
    (∃ item ∈ summary.items, P item) ↔
      P ⟨"Transfer", .SummaryItemAmount transfer.lamports⟩ ∨
        (print_config_show_authority print_config transfer.from_ = true ∧
          P ⟨"Sender", .SummaryItemPubkey transfer.from_⟩) ∨
        P ⟨"Recipient", .SummaryItemPubkey transfer.to_⟩ := by
  obtain ⟨infos, hinfos, hstrip⟩ := h.message_transfer_iff.mp htransfer
  rw [h.titled_iff hadded hP, ← transfer_sets_iff print_config transfer P]
  constructor
  · rintro ⟨infos', hinfos', -, hsets⟩
    rw [hinfos] at hinfos'
    cases hinfos'
    rwa [hstrip] at hsets
  · exact fun hsets => ⟨infos, hinfos, hstrip ▸ recognised_transfer transfer, hstrip ▸ hsets⟩

/-- An item with a title of no other is the amount of a transfer. -/
theorem ShowsTransaction.transfer_titled
    (h : ShowsTransaction device settings path message summary message_body print_config
      fee_payer) {title : String} (hunused : Unused title)
    (hadded : ∀ added ∈ added_titles, c_str (c_string added) ≠ c_string title)
    {item : SummaryItem} (hitem : item ∈ summary.items) (htitled : Titled title item) :
    ∃ transfer, message_transfer message = some transfer := by
  obtain ⟨infos, hinfos, hrecognised, hsets⟩ := (h.titled_iff hadded
    (P := Titled title) fun _ => id).mp ⟨item, hitem, htitled⟩
  obtain ⟨transfer, hstrip⟩ := hrecognised.transfer_of_titled print_config hunused hsets
  exact ⟨transfer, h.message_transfer_iff.mpr ⟨infos, hinfos, hstrip⟩⟩

/-- The items of an off-chain message have titles of their own. -/
theorem print_offchain_message_untitled (header : OffchainMessageHeader)
    (is_ascii expert_mode : Bool) (message_hash : Hash) (signer : Pubkey) :
    ¬(print_offchain_message header is_ascii expert_mode message_hash signer).sets
      (Titled "Transfer") := by
  simp +decide [print_offchain_message, Titled]

/-- What is under review shows that title only for a transfer. -/
theorem Shows.transfer_titled {signed : List UInt32 × List UInt8}
    (h : Shows device settings signed summary) {item : SummaryItem} (hitem : item ∈ summary.items)
    (htitled : Titled "Transfer" item) :
    ∃ transfer, message_transfer signed.2 = some transfer := by
  rcases h with ⟨message_body, print_config, fee_payer, h⟩ | ⟨header, h⟩
  · exact h.transfer_titled unused_transfer (by decide +kernel) hitem htitled
  · obtain ⟨w, hw, rfl⟩ := (h.items item).mp hitem
    exact absurd ⟨w, hw, htitled⟩ (print_offchain_message_untitled header _ _ _ _)

/-- The sender is shown to experts, and when it is not the signer. -/
theorem show_authority_iff {authority : PubkeyRef} :
    print_config_show_authority print_config authority = true ↔
      print_config.expert_mode = true ∨ authority.key ≠ print_config.signer_pubkey.key := by
  rw [print_config_show_authority, Bool.or_eq_true, Bool.not_eq_true', pubkeys_equal,
    decide_eq_false_iff_not, ne_comm]

/-- What the screens say of a transfer, however keys are displayed: the screen with its
amount is there for no other message, and the other two are of its accounts. The flags
are those in force when the review was put up. -/
structure TransferScreens (device : Device) (settings : AppSettings) (path : List UInt32)
    (message : List UInt8) (summary : TransactionSummary) : Prop where
  transfer : ∀ flags text, OnScreen summary flags (c_string "Transfer") text ↔
    ∃ transfer, message_transfer message = some transfer ∧
      text = amount_text transfer.lamports.toNat RENEC_DECIMALS.toNat ++ c_string " RENEC"
  recipient : ∀ transfer, message_transfer message = some transfer → ∀ flags text,
    (OnScreen summary flags (c_string "Recipient") text ↔
      text = displayed_key flags transfer.to_.key)
  sender : ∀ transfer, message_transfer message = some transfer → ∀ flags text,
    (OnScreen summary flags (c_string "Sender") text ↔
      (settings.display_mode_expert = true ∨
        transfer.from_.key ≠ device.get_public_key path) ∧
      text = displayed_key flags transfer.from_.key)

/-- An item of a transfer has one of three titles. -/
theorem titled_item (value : SummaryItemValue) :
    (Titled "Transfer" ⟨"Transfer", value⟩ ∧ ¬Titled "Transfer" ⟨"Sender", value⟩ ∧
      ¬Titled "Transfer" ⟨"Recipient", value⟩) ∧
    (Titled "Sender" ⟨"Sender", value⟩ ∧ ¬Titled "Sender" ⟨"Transfer", value⟩ ∧
      ¬Titled "Sender" ⟨"Recipient", value⟩) ∧
    (Titled "Recipient" ⟨"Recipient", value⟩ ∧ ¬Titled "Recipient" ⟨"Transfer", value⟩ ∧
      ¬Titled "Recipient" ⟨"Sender", value⟩) := by
  simp +decide only [Titled]

/-- What a review shows settles the screens of the transfer. -/
theorem Shows.screens {signed : List UInt32 × List UInt8}
    (h : Shows device settings signed summary) :
    TransferScreens device settings signed.1 signed.2 summary := by
  -- The summary of a transfer is that of a transaction.
  have htransaction : ∀ transfer, message_transfer signed.2 = some transfer →
      ∃ message_body print_config fee_payer, ShowsTransaction device settings signed.1 signed.2
        summary message_body print_config fee_payer := by
    intro transfer htransfer
    rcases h with h | ⟨header, h⟩
    · exact h
    · rw [h.well_formed.no_transfer] at htransfer
      cases htransfer
  refine ⟨fun flags text => ?_, fun transfer htransfer flags text => ?_,
    fun transfer htransfer flags text => ?_⟩
  · rw [on_screen_iff (by decide +kernel)]
    constructor
    · rintro ⟨item, hitem, htitled, hreads⟩
      obtain ⟨transfer, htransfer⟩ := h.transfer_titled hitem htitled
      obtain ⟨message_body, print_config, fee_payer, hshows⟩ := htransaction transfer htransfer
      have hitems := (hshows.transfer_items htransfer (by decide +kernel)
        (P := fun item => Titled "Transfer" item ∧ item.value.ReadsAs flags text)
        fun _ => And.left).mp ⟨item, hitem, htitled, hreads⟩
      simp only [titled_item, false_and, and_false, or_false, true_and, amount_reads_as] at hitems
      exact ⟨transfer, htransfer, hitems⟩
    · rintro ⟨transfer, htransfer, htext⟩
      obtain ⟨message_body, print_config, fee_payer, hshows⟩ := htransaction transfer htransfer
      refine (hshows.transfer_items htransfer (by decide +kernel)
        (P := fun item => Titled "Transfer" item ∧ item.value.ReadsAs flags text)
        fun _ => And.left).mpr (Or.inl ⟨(titled_item _).1.1, amount_reads_as.mpr htext⟩)
  · obtain ⟨message_body, print_config, fee_payer, hshows⟩ := htransaction transfer htransfer
    rw [on_screen_iff (by decide +kernel), hshows.transfer_items htransfer (by decide +kernel)
      (P := fun item => Titled "Recipient" item ∧ item.value.ReadsAs flags text)
      fun _ => And.left]
    simp only [titled_item, false_and, and_false, false_or, true_and, pubkey_reads_as]
  · obtain ⟨message_body, print_config, fee_payer, hshows⟩ := htransaction transfer htransfer
    rw [on_screen_iff (by decide +kernel), hshows.transfer_items htransfer (by decide +kernel)
      (P := fun item => Titled "Sender" item ∧ item.value.ReadsAs flags text)
      fun _ => And.left, show_authority_iff, hshows.signer, hshows.expert_mode]
    simp only [titled_item, false_and, false_or, or_false, true_and, pubkey_reads_as]

/-- Two transfers that the screens do not tell apart: of the same amount, with keys
displayed in the same way, to accounts that look the same, and from accounts that do if
they are signed with the key of the same path. With abbreviated keys the accounts may
still differ. -/
structure LooksLike (flags flags' : DisplayFlags) (path path' : List UInt32)
    (transfer transfer' : SystemTransferInfo) : Prop where
  lamports : transfer'.lamports = transfer.lamports
  same_flags : flags' = flags
  to_ : displayed_key flags transfer'.to_.key = displayed_key flags transfer.to_.key
  from_ : path' = path →
    displayed_key flags transfer'.from_.key = displayed_key flags transfer.from_.key

/-- With whole keys, the accounts are the same. -/
theorem LooksLike.whole {flags flags' : DisplayFlags} {path path' : List UInt32}
    {transfer transfer' : SystemTransferInfo}
    (h : LooksLike flags flags' path path' transfer transfer')
    (hlong : flags.DisplayFlagLongPubkeys = true) :
    transfer'.to_.key = transfer.to_.key ∧
      (path' = path → transfer'.from_.key = transfer.from_.key) :=
  ⟨displayed_key_injective hlong h.to_, fun hpath => displayed_key_injective hlong (h.from_ hpath)⟩

/-- The screens of a transfer tell it from any other that does not look like it. -/
theorem TransferScreens.same_transfer {settings' : AppSettings} {path' : List UInt32}
    {message' : List UInt8} {summary' : TransactionSummary} {flags flags' : DisplayFlags}
    (h : TransferScreens device settings path message summary)
    (h' : TransferScreens device settings' path' message' summary')
    (hsame : ∀ title text, OnScreen summary flags title text ↔ OnScreen summary' flags' title text)
    (htransfer : message_transfer message = some transfer) :
    ∃ transfer', message_transfer message' = some transfer' ∧
      LooksLike flags flags' path path' transfer transfer' := by
  obtain ⟨transfer', htransfer', hamount⟩ := (h'.transfer flags' _).mp
    ((hsame _ _).mp ((h.transfer flags _).mpr ⟨transfer, htransfer, rfl⟩))
  have hto := (h'.recipient transfer' htransfer' flags' _).mp
    ((hsame _ _).mp ((h.recipient transfer htransfer flags _).mpr rfl))
  have hflags : flags' = flags := (displayed_key_flags hto).symm
  subst hflags
  refine ⟨transfer', htransfer', ?_, rfl, hto.symm, fun hpath => ?_⟩
  · rw [List.append_cancel_right_eq] at hamount
    exact (UInt64.toNat_inj.mp (amount_text_injective _ hamount)).symm
  · -- A sender that is not shown is the signer.
    have hsender := h.sender transfer htransfer flags'
    have hsender' := h'.sender transfer' htransfer' flags'
    by_cases hshown : settings.display_mode_expert = true ∨
        transfer.from_.key ≠ device.get_public_key path
    · exact ((hsender' _).mp ((hsame _ _).mp ((hsender _).mpr ⟨hshown, rfl⟩))).2.symm
    · have hhidden' : ¬(settings'.display_mode_expert = true ∨
          transfer'.from_.key ≠ device.get_public_key path') := fun hshown' =>
        hshown ((hsender _).mp ((hsame _ _).mpr ((hsender' _).mpr ⟨hshown', rfl⟩))).1
      rw [not_or, not_not] at hshown hhidden'
      rw [hshown.2, hhidden'.2, hpath]

end Transfer

/-! ## Two reviews -/

/-- The handler opens a review. -/
def Opens (device : Device) (s t : AppState) : Prop :=
  (handle_sign_message device).run.run s = (.ok (), t) ∨
    (handle_sign_offchain_message device).run.run s = (.ok (), t)

/-- **Reviews that look the same**, with keys displayed as the settings say, are of transfers that
look alike: of the same amount, to the same account and from the same one as far as keys are
displayed, and so of the same accounts when the keys are whole. -/
theorem same_screens_same_transfer {device : Device} {s t s' t' : AppState}
    (hcalled : s.G_called_from_swap = false) (hcalled' : s'.G_called_from_swap = false)
    (hopens : Opens device s t) (hopens' : Opens device s' t')
    (hsame : ∀ title text, OnScreen t.G_transaction_summary t.display_flags title text ↔
      OnScreen t'.G_transaction_summary t'.display_flags title text) {transfer : SystemTransferInfo}
    (htransfer : message_transfer s.G_command.payload = some transfer) :
    ∃ transfer', message_transfer s'.G_command.payload = some transfer' ∧
      LooksLike t.display_flags t'.display_flags s.G_command.derivation_path
        s'.G_command.derivation_path transfer transfer' ∧
      (t.settings.pubkey_display_long = true → transfer'.to_.key = transfer.to_.key ∧
        (s'.G_command.derivation_path = s.G_command.derivation_path →
          transfer'.from_.key = transfer.from_.key)) := by
  have hshows := hopens.elim (sign_message_shows hcalled) sign_offchain_message_shows
  have hshows' := hopens'.elim (sign_message_shows hcalled') sign_offchain_message_shows
  obtain ⟨transfer', htransfer', hlooks⟩ :=
    hshows.screens.same_transfer hshows'.screens hsame htransfer
  exact ⟨transfer', htransfer', hlooks, hlooks.whole⟩

/-- A transfer, with a given blockhash. -/
def dated_transfer (b : UInt8) : MessageValue :=
  { transfer_message 1 [Pubkey.fill 9, Pubkey.fill 13, system_program_id] with
    blockhash := Hash.fill b }

/-- A state that has received the first of two transfers that differ in their blockhash. -/
def earlier_transfer : AppState := received (dated_transfer 1).encode (by decide +kernel)

/-- A state that has received the second one. -/
def later_transfer : AppState := received (dated_transfer 2).encode (by decide +kernel)

theorem transfers_look_the_same : ∃ t t' transfer transfer',
    Opens nines_device earlier_transfer t ∧ Opens nines_device later_transfer t' ∧
    message_transfer earlier_transfer.G_command.payload = some transfer ∧
    message_transfer later_transfer.G_command.payload = some transfer' ∧
    transfer'.lamports = transfer.lamports ∧ transfer'.to_.key = transfer.to_.key := by
  have hsame :
      ((handle_sign_message nines_device).run.run earlier_transfer).2.G_transaction_summary =
        ((handle_sign_message nines_device).run.run later_transfer).2.G_transaction_summary := by
    decide +kernel
  have hsettings :
      ((handle_sign_message nines_device).run.run earlier_transfer).2.settings = user_settings ∧
        ((handle_sign_message nines_device).run.run later_transfer).2.settings =
          user_settings := by
    decide +kernel
  obtain ⟨u, t, hrun, -⟩ := returns_any (p := handle_sign_message nines_device)
    (s := earlier_transfer) (P := fun _ => True) (by decide +kernel)
  obtain ⟨u', t', hrun', -⟩ := returns_any (p := handle_sign_message nines_device)
    (s := later_transfer) (P := fun _ => True) (by decide +kernel)
  have hsome : (message_transfer earlier_transfer.G_command.payload).isSome = true := by
    decide +kernel
  obtain ⟨transfer, htransfer⟩ := Option.isSome_iff_exists.mp hsome
  rw [hrun, hrun'] at hsame hsettings
  obtain ⟨transfer', htransfer', hlooks, hwhole⟩ := same_screens_same_transfer rfl rfl
    (Or.inl hrun) (Or.inl hrun') (fun title text => by
      rw [hsame, AppState.display_flags, AppState.display_flags, hsettings.1, hsettings.2])
    htransfer
  have hlong : t.settings.pubkey_display_long = true := by
    rw [hsettings.1]
    rfl
  exact ⟨t, t', transfer, transfer', Or.inl hrun, Or.inl hrun', htransfer, htransfer',
    hlooks.lamports, (hwhole hlong).1⟩

/-! ## A session -/

/-- **What the screens said when a message was approved**: the amount of a transfer was on them just
when the message comes down to one, and it was that amount, to the account that was named, from
the account that was named or else from the signer's own. -/
theorem approved_screens {device : Device} {target : Target} {N_storage : InternalStorage}
    {inputs : List SessionInput} {s : Session}
    (hrun : GuardedRun (session_step device) SessionTurns (session_start target N_storage) inputs s)
    {path : List UInt32} {message : List UInt8} (hsigned : (path, message) ∈ signatures s.app.log) :
    ∃ before after s', inputs = before ++ .input .approve :: after ∧
      GuardedRun (session_step device) SessionTurns (session_start target N_storage) before s' ∧
      s'.app.screen = .sign_review ∧
      TransferScreens device s'.menu.N_storage.app_settings path message
        s'.app.G_transaction_summary := by
  obtain ⟨before, after, s', rfl, hbefore, hscreen, -, hshows⟩ := (run_consented hrun).2 _ hsigned
  exact ⟨before, after, s', rfl, hbefore, hscreen, hshows.screens⟩

/-- The user reads how much is transferred, and approves. -/
theorem transfer_is_read : ∃ s before after s',
    GuardedRun (session_step nines_device) SessionTurns
      (session_start .TARGET_NANOS fresh_storage)
      [.input (sign_apdu (transfer_to (Pubkey.fill 7)) false), .input .approve] s ∧
    [.input (sign_apdu (transfer_to (Pubkey.fill 7)) false), .input .approve] =
      before ++ .input .approve :: after ∧
    GuardedRun (session_step nines_device) SessionTurns
      (session_start .TARGET_NANOS fresh_storage) before s' ∧
    OnScreen s'.app.G_transaction_summary ⟨true⟩ (c_string "Transfer")
      (c_string "0.000000005 RENEC") := by
  have hany : ∃ s, GuardedRun (session_step nines_device) SessionTurns
      (session_start .TARGET_NANOS fresh_storage)
      [.input (sign_apdu (transfer_to (Pubkey.fill 7)) false), .input .approve] s ∧
      (coin_path.words, transfer_to (Pubkey.fill 7)) ∈ signatures s.app.log :=
    GuardedRun.any (by decide +kernel)
  have hsome : (message_transfer (transfer_to (Pubkey.fill 7))).any
      (fun transfer => transfer.lamports = 5) = true := by decide +kernel
  obtain ⟨s, hrun, hsigned⟩ := hany
  obtain ⟨transfer, htransfer, hlamports⟩ := (Option.any_eq_true _ _).mp hsome
  obtain ⟨before, after, s', hinputs, hbefore, -, hscreens⟩ := approved_screens hrun hsigned
  refine ⟨s, before, after, s', hrun, hinputs, hbefore,
    (hscreens.transfer ⟨true⟩ _).mpr ⟨transfer, htransfer, ?_⟩⟩
  rw [of_decide_eq_true hlamports]
  decide +kernel

end RenecLedger
