/-
Can everything that is accepted be shown?

A message is accepted by its parsers, and its items are printed into a text of fixed size only
when the user steps to them. The parsers bound neither the decimals of a token amount nor the time
of a lock-up, so an accepted message can have an item that cannot be printed. `fails_iff` says
which items these are, `Recognised.sets_fails_iff` which instructions have one, and
`always_renders_iff` for which messages every step of the review shows its item.
-/
import RenecLedger.Acceptance
import RenecLedger.DisplaySpec
import RenecLedger.Encoding
import RenecLedger.TextBounds

set_option autoImplicit false

namespace RenecLedger

/-! ## Showing an item -/

/-- The two buffers have the sizes they are declared with. What they hold does not
matter, since items are displayed one after the other in the same buffers. -/
structure SummaryDisplay.Sized (display : SummaryDisplay) : Prop where
  title : display.title.length = TITLE_SIZE
  text : display.text.length = TEXT_BUFFER_LENGTH

/-- An item was displayed: the return code is 0, and both buffers have been written in
bounds. A write out of bounds has no result in the model. -/
def Displays (result : Option (ℕ × SummaryDisplay)) : Prop :=
  ∃ display, result = some (0, display) ∧ display.Sized

/-- An item that cannot be displayed in some buffers. That it depends on the item alone
is shown for each kind of value below. -/
def SummaryItem.Fails (item : SummaryItem) : Prop :=
  ∃ flags display, display.Sized ∧
    ¬Displays (transaction_summary_update_display_for_item (some item) flags display)

/-- The display begins with buffers of the right length. -/
theorem sized_reset : SummaryDisplay.reset.Sized where
  title := List.length_replicate
  text := List.length_replicate

/-- An item is displayed when its text is printed: its title is cut off where it does
not fit, which is no error. -/
theorem displays_iff_prints (item : SummaryItem) (flags : DisplayFlags) {display : SummaryDisplay}
    (h : display.Sized) :
    Displays (transaction_summary_update_display_for_item (some item) flags display) ↔
      Prints (item.value.print flags display.text) 0 TEXT_BUFFER_LENGTH := by
  rw [transaction_summary_update_display_for_item]
  constructor
  · rintro ⟨display', hshow, hsized⟩
    rw [Option.bind_eq_bind, Option.bind_eq_some_iff] at hshow
    obtain ⟨⟨rc, text⟩, hprint, hshow⟩ := hshow
    dsimp only at hshow
    by_cases hrc : rc ≠ 0
    · rw [if_pos hrc] at hshow
      cases hshow
      exact absurd rfl hrc
    · rw [if_neg hrc, Option.bind_eq_some_iff] at hshow
      obtain ⟨⟨rc', title⟩, -, hshow⟩ := hshow
      cases hshow
      obtain rfl : rc = 0 := not_not.mp hrc
      exact ⟨text, hprint, hsized.text⟩
  · rintro ⟨text, hprint, htext⟩
    obtain ⟨rc, title, htitle, hlen⟩ := print_string_ok (c_string item.title)
      (by decide : 1 ≤ TITLE_SIZE) h.title.ge
    rw [hprint, Option.bind_eq_bind, Option.bind_some]
    dsimp only
    rw [if_neg (not_not.mpr rfl), htitle]
    exact ⟨⟨title, text⟩, rfl, hlen.trans h.title, htext⟩

/-- An item whose text is printed on a condition that is not about the buffers. Then it
fails in all buffers or in none. -/
theorem fails_iff {title : String} {value : SummaryItemValue} {p : Prop}
    (h : ∀ flags text, text.length = TEXT_BUFFER_LENGTH →
      (Prints (value.print flags text) 0 TEXT_BUFFER_LENGTH ↔ p)) :
    SummaryItem.Fails ⟨title, value⟩ ↔ ¬p := by
  constructor
  · rintro ⟨flags, display, hsized, hfails⟩ hp
    rw [displays_iff_prints _ flags hsized] at hfails
    exact hfails ((h flags display.text hsized.text).mpr hp)
  · intro hp
    refine ⟨⟨true⟩, SummaryDisplay.reset, sized_reset, fun hshow => hp ?_⟩
    rw [displays_iff_prints _ _ sized_reset] at hshow
    exact (h _ _ sized_reset.text).mp hshow

/-- An item whose text is always printed never fails. -/
theorem not_fails {title : String} {value : SummaryItemValue}
    (h : ∀ flags text, text.length = TEXT_BUFFER_LENGTH →
      Prints (value.print flags text) 0 TEXT_BUFFER_LENGTH) :
    ¬SummaryItem.Fails ⟨title, value⟩ := by
  rw [fails_iff fun flags text hlen => iff_true_intro (h flags text hlen)]
  exact not_not.mpr trivial

/-! ## The kinds of items -/

section Kinds

variable (title : String)

/-- An amount is always rendered: its longest text fits the buffer, with nine decimals
and the name of the currency. -/
@[simp] theorem fails_amount (amount : UInt64) :
    ¬SummaryItem.Fails ⟨title, .SummaryItemAmount amount⟩ := by
  refine not_fails fun flags text hlen => ?_
  have hprint := prints_amount amount hlen
  rw [hlen] at hprint
  exact hprint

/-- A signed number is always rendered. -/
@[simp] theorem fails_i64 (i64 : Int64) : ¬SummaryItem.Fails ⟨title, .SummaryItemI64 i64⟩ := by
  refine not_fails fun flags text hlen => ?_
  have hmax : text.length ≤ INT_MAX := by
    rw [hlen]
    decide
  have hprint := prints_i64 i64 (by rw [hlen]; decide) hmax
  rw [hlen] at hprint
  exact hprint

/-- A number is always rendered. -/
@[simp] theorem fails_u64 (u64 : UInt64) : ¬SummaryItem.Fails ⟨title, .SummaryItemU64 u64⟩ := by
  refine not_fails fun flags text hlen => ?_
  have hmax : text.length ≤ INT_MAX := by
    rw [hlen]
    decide
  have hprint := prints_u64 u64 (by rw [hlen]; decide) hmax
  rw [hlen] at hprint
  exact hprint

/-- A key is always rendered, in full or shortened. -/
@[simp] theorem fails_pubkey (pubkey : PubkeyRef) :
    ¬SummaryItem.Fails ⟨title, .SummaryItemPubkey pubkey⟩ := by
  refine not_fails fun flags text hlen => ?_
  have hprint := prints_pubkey pubkey flags hlen
  rw [hlen] at hprint
  exact hprint

/-- A hash is always rendered. -/
@[simp] theorem fails_hash (hash : HashRef) :
    ¬SummaryItem.Fails ⟨title, .SummaryItemHash hash⟩ :=
  not_fails fun _ _ hlen => prints_base58 hash.hash.size hlen

/-- A text of the program is always rendered, cut where it is too long. -/
@[simp] theorem fails_string (string : String) :
    ¬SummaryItem.Fails ⟨title, .SummaryItemString string⟩ := by
  refine not_fails fun flags text hlen => ?_
  obtain ⟨rc, text', hprint, hlen'⟩ := print_string_ok (c_string string)
    (by decide : 1 ≤ TEXT_BUFFER_LENGTH) hlen.ge
  rw [SummaryItemValue.print, hprint]
  exact ⟨text', rfl, hlen'.trans hlen⟩

/-- A text of the message is always rendered, cut where it is too long. -/
@[simp] theorem fails_sized_string (string : SizedString) :
    ¬SummaryItem.Fails ⟨title, .SummaryItemSizedString string⟩ := by
  refine not_fails fun flags text hlen => ?_
  obtain ⟨rc, text', hprint, hlen'⟩ := print_sized_string_ok string
    (by rw [hlen]; decide : 1 ≤ text.length)
  rw [SummaryItemValue.print, ← hlen, hprint]
  exact ⟨text', rfl, hlen'⟩

/-- A time is rendered exactly when it is one that the calendar has. What the conversion
makes of other seconds is the matter of another module. -/
@[simp] theorem fails_timestamp (timestamp : Int64) :
    SummaryItem.Fails ⟨title, .SummaryItemTimestamp timestamp⟩ ↔ ¬HasTimestamp timestamp := by
  refine fails_iff fun flags text hlen => ?_
  rw [SummaryItemValue.print, ← hlen]
  exact prints_timestamp_iff timestamp (by rw [hlen]; decide)

/-- The symbols are short C strings. -/
theorem get_token_symbol_counted (mint_account : PubkeyRef) :
    CountedString (c_string (get_token_symbol mint_account)) ∧
      (c_string (get_token_symbol mint_account)).length ≤ 22 := by
  have hall : ∀ symbol ∈ "???" :: token_infos.map Prod.snd,
      (0 ∉ c_string symbol ∧ (c_string symbol).length ≤ INT_MAX) ∧
        (c_string symbol).length ≤ 22 := by
    decide
  refine hall _ ?_
  rw [get_token_symbol]
  split
  · rename_i info hfind
    exact List.mem_cons_of_mem _ (List.mem_map_of_mem (List.mem_of_find?_eq_some hfind))
  · exact List.mem_cons_self

/-- The amount of a token instruction fits together with the symbol of its mint. The
decimals come from the message, and up to 255 of them are accepted by the parser. -/
def RplTokenAmountBody.Fits (body : RplTokenAmountBody) (mint_account : PubkeyRef) : Prop :=
  AmountFits body.amount body.decimals (c_string (get_token_symbol mint_account))

/-- A token amount is rendered exactly when its decimals leave room for the symbol. -/
@[simp] theorem fails_token_amount (body : RplTokenAmountBody) (mint_account : PubkeyRef) :
    SummaryItem.Fails ⟨title, .SummaryItemTokenAmount
      ⟨body.amount, get_token_symbol mint_account, body.decimals⟩⟩ ↔ ¬body.Fits mint_account := by
  obtain ⟨hcounted, hshort⟩ := get_token_symbol_counted mint_account
  refine fails_iff fun flags text hlen => ?_
  rw [SummaryItemValue.print, ← hlen]
  exact prints_token_amount_iff body.amount body.decimals hcounted hshort hlen

end Kinds

/-! ## The items of an instruction -/

/-- The token amounts and times of an instruction that are shown can be printed. A time
that is not shown, such as that of a lockup that is not in force, does not matter. -/
def InstructionInfo.Renders : InstructionInfo → Prop
  | .ProgramIdRplToken (.TransferChecked transfer) => transfer.body.Fits transfer.mint_account
  | .ProgramIdRplToken (.ApproveChecked approve) => approve.body.Fits approve.mint_account
  | .ProgramIdRplToken (.MintToChecked mint_to) => mint_to.body.Fits mint_to.mint_account
  | .ProgramIdRplToken (.BurnChecked burn) => burn.body.Fits burn.mint_account
  | .ProgramIdStake (.StakeInitialize init)
  | .ProgramIdStake (.StakeInitializeChecked init) =>
    init.lockup.unix_timestamp > 0 → HasTimestamp init.lockup.unix_timestamp
  | .ProgramIdStake (.StakeSetLockup set_lockup)
  | .ProgramIdStake (.StakeSetLockupChecked set_lockup) =>
    set_lockup.lockup.present.has_timestamp → HasTimestamp set_lockup.lockup.unix_timestamp
  | _ => True

section Instructions

variable (print_config : PrintConfig)

/-- No item of a system instruction can fail. -/
theorem print_system_info_fails (info : SystemInfo) :
    ¬(print_system_info info print_config).sets SummaryItem.Fails := by
  cases info <;>
    simp [print_system_info, print_system_advance_nonce_account, print_system_withdraw_nonce_info,
      print_system_authorize_nonce_info, print_system_allocate_info, print_system_assign_info,
      print_system_allocate_with_seed_info, print_system_create_account_info,
      print_system_create_account_with_seed_info, print_system_initialize_nonce_info,
      print_system_transfer_info]

/-- No item of a vote instruction can fail. -/
theorem print_vote_info_fails (info : VoteInfo) :
    ¬(print_vote_info info print_config).sets SummaryItem.Fails := by
  cases info <;>
    simp [print_vote_info, print_vote_withdraw_info, print_vote_authorize_info,
      print_vote_update_validator_id_info, print_vote_update_commission_info,
      print_vote_initialize_info]

/-- The one item that can fail is the lockup's time, when it is in force. -/
theorem print_stake_initialize_info_fails (title : Option String) (info : StakeInitializeInfo) :
    (print_stake_initialize_info title info print_config).sets SummaryItem.Fails ↔
      ¬(info.lockup.unix_timestamp > 0 → HasTimestamp info.lockup.unix_timestamp) := by
  by_cases hone : pubkeys_equal info.withdraw_authority info.stake_authority = true
  · cases title <;> simp [print_stake_initialize_info, hone] <;> tauto
  · cases title <;> simp [print_stake_initialize_info, hone] <;> tauto

/-- The one item that can fail is the new time, when there is one. -/
theorem print_stake_set_lockup_info_fails (info : StakeSetLockupInfo) :
    (print_stake_set_lockup_info info print_config).sets SummaryItem.Fails ↔
      ¬(info.lockup.present.has_timestamp → HasTimestamp info.lockup.unix_timestamp) := by
  simp [print_stake_set_lockup_info]

/-- No item of a split can fail. -/
theorem print_stake_split_info_fails (info : StakeSplitInfo) :
    ¬(print_stake_split_info info print_config).sets SummaryItem.Fails := by
  simp [print_stake_split_info, print_stake_split_info1, print_stake_split_info2]

/-- A stake instruction renders exactly when its times do. -/
theorem print_stake_info_fails (info : StakeInfo) :
    (print_stake_info info print_config).sets SummaryItem.Fails ↔
      ¬(InstructionInfo.ProgramIdStake info).Renders := by
  cases info with
  | StakeInitialize init => exact print_stake_initialize_info_fails print_config _ init
  | StakeInitializeChecked init => exact print_stake_initialize_info_fails print_config _ init
  | StakeSetLockup set_lockup => exact print_stake_set_lockup_info_fails print_config set_lockup
  | StakeSetLockupChecked set_lockup =>
    exact print_stake_set_lockup_info_fails print_config set_lockup
  | _ =>
    simp [print_stake_info, print_stake_withdraw_info, print_stake_authorize_info,
      print_stake_deactivate_info, print_stake_split_info_fails, print_stake_merge_info,
      print_delegate_stake_info, InstructionInfo.Renders]

/-- Those who sign are keys and a count, which cannot fail. -/
theorem print_rpl_token_sign_fails (sign : RplTokenSign) :
    ¬(print_rpl_token_sign sign print_config).sets SummaryItem.Fails :=
  print_rpl_token_sign_avoids print_config fails_pubkey fails_u64 sign

/-- A transfer renders exactly when its amount does, as a primary item or a general one. -/
theorem print_rpl_token_transfer_info_fails (info : RplTokenTransferInfo) (primary : Bool) :
    (print_rpl_token_transfer_info info print_config primary).sets SummaryItem.Fails ↔
      ¬info.body.Fits info.mint_account := by
  simp [print_rpl_token_transfer_info, print_rpl_token_sign_fails]

/-- A token instruction renders exactly when its amount does, if it has one. -/
theorem print_rpl_token_info_fails (info : RplTokenInfo) :
    (print_rpl_token_info info print_config).sets SummaryItem.Fails ↔
      ¬(InstructionInfo.ProgramIdRplToken info).Renders := by
  cases info with
  | TransferChecked transfer =>
    exact print_rpl_token_transfer_info_fails print_config transfer true
  | _ =>
    simp [print_rpl_token_info, print_rpl_token_initialize_mint_info,
      print_rpl_token_initialize_account_info, print_rpl_token_initialize_multisig_info,
      summary_item_set_multisig_m_of_n, print_rpl_token_revoke_info,
      print_rpl_token_set_authority_info, print_rpl_token_close_account_info,
      print_rpl_token_freeze_account_info, print_rpl_token_thaw_account_info,
      print_rpl_token_approve_info, print_rpl_token_mint_to_info, print_rpl_token_burn_info,
      print_rpl_token_sync_native_info, print_rpl_token_sign_fails, InstructionInfo.Renders]

/-- An instruction by itself. -/
theorem print_single_fails {info : InstructionInfo} (h : info.supported) :
    (print_transaction_nonce_processed print_config [info]).sets SummaryItem.Fails ↔
      ¬info.Renders := by
  cases info with
  | ProgramIdSystem system =>
    exact iff_of_false (print_system_info_fails print_config system) (not_not.mpr trivial)
  | ProgramIdStake stake => exact print_stake_info_fails print_config stake
  | ProgramIdVote vote =>
    exact iff_of_false (print_vote_info_fails print_config vote) (not_not.mpr trivial)
  | ProgramIdRplToken rpl_token => exact print_rpl_token_info_fails print_config rpl_token
  | ProgramIdRplAssociatedTokenAccount create =>
    simp [print_transaction_nonce_processed, print_one_instruction,
      print_rpl_associated_token_account_info, print_rpl_associated_token_account_create_info,
      InstructionInfo.Renders]
  | ProgramIdRplMemo => exact absurd h id
  | ProgramIdUnknown => exact absurd h id

/-- The creation of an account adds nothing that fails. -/
theorem print_create_fails (title : String) (ca : SystemCreateAccountInfo) (p : SummaryM Unit) :
    (do
      summary_item_set_pubkey .primary title ca.to_
      print_system_create_account_info none ca print_config
      p).sets SummaryItem.Fails ↔ p.sets SummaryItem.Fails := by
  simp [print_system_create_account_info]

/-- Creating an account with a seed adds no item that can fail. -/
theorem print_create_with_seed_fails (title : String) (cws : SystemCreateAccountWithSeedInfo)
    (p : SummaryM Unit) :
    (do
      summary_item_set_pubkey .primary title cws.to_
      print_system_create_account_with_seed_info none cws print_config
      p).sets SummaryItem.Fails ↔ p.sets SummaryItem.Fails := by
  simp [print_system_create_account_with_seed_info]

/-- Behind the creation, only the lockup's time can fail. -/
theorem print_initialize_and_delegate_fails (si : StakeInitializeInfo) (sd : StakeDelegateInfo) :
    (do
      print_stake_initialize_info none si print_config
      print_delegate_stake_info none sd print_config).sets SummaryItem.Fails ↔
      ¬(si.lockup.unix_timestamp > 0 → HasTimestamp si.lockup.unix_timestamp) := by
  rw [SummaryM.sets_bind, print_stake_initialize_info_fails]
  simp [print_delegate_stake_info]

/-- The base and the seed of a split cannot fail. -/
theorem print_split_fails (base : PubkeyRef) (seed : SizedString) (ss : StakeSplitInfo) :
    ¬(print_stake_split_with_seed.print_split print_config base seed ss).sets
      SummaryItem.Fails := by
  simp [print_stake_split_with_seed.print_split, print_stake_split_info1,
    print_stake_split_info2]

/-- No item of a new mint can fail. -/
theorem print_rpl_token_create_mint_fails (ca : SystemCreateAccountInfo)
    (im : RplTokenInitializeMintInfo) :
    ¬(print_rpl_token_create_mint print_config [.ProgramIdSystem (.SystemCreateAccount ca),
      .ProgramIdRplToken (.InitializeMint im)]).sets SummaryItem.Fails := by
  simp [print_rpl_token_create_mint]

/-- No item of a new token account can fail. -/
theorem print_rpl_token_create_account_fails (ca : SystemCreateAccountInfo)
    (ia : RplTokenInitializeAccountInfo) :
    ¬(print_rpl_token_create_account print_config [.ProgramIdSystem (.SystemCreateAccount ca),
      .ProgramIdRplToken (.InitializeAccount ia)]).sets SummaryItem.Fails := by
  simp [print_rpl_token_create_account]

/-- No item of a new multisig can fail. -/
theorem print_rpl_token_create_multisig_fails (ca : SystemCreateAccountInfo)
    (im : RplTokenInitializeMultisigInfo) :
    ¬(print_rpl_token_create_multisig print_config [.ProgramIdSystem (.SystemCreateAccount ca),
      .ProgramIdRplToken (.InitializeMultisig im)]).sets SummaryItem.Fails := by
  simp [print_rpl_token_create_multisig, summary_item_set_multisig_m_of_n]

/-- The one item that can fail is the transfer's amount. -/
theorem print_create_with_transfer_fails (create : RplAssociatedTokenAccountCreateInfo)
    (transfer : RplTokenTransferInfo) :
    (print_rpl_associated_token_account_create_with_transfer print_config
      [.ProgramIdRplAssociatedTokenAccount create,
        .ProgramIdRplToken (.TransferChecked transfer)]).sets SummaryItem.Fails ↔
      ¬transfer.body.Fits transfer.mint_account := by
  simp [print_rpl_associated_token_account_create_with_transfer,
    print_rpl_associated_token_account_create_info, print_rpl_token_transfer_info_fails]

/-- **The items that cannot be printed** are those of the instructions: no printer of a
pattern adds one that can fail, and none leaves out one of its members' that does. -/
theorem Recognised.sets_fails_iff {infos : List InstructionInfo} (h : Recognised infos) :
    (print_transaction_nonce_processed print_config infos).sets SummaryItem.Fails ↔
      ∃ info ∈ infos, ¬info.Renders := by
  -- for the transactions that have no such item at all
  have hrest : ∀ {p : SummaryM Unit}, ¬p.sets SummaryItem.Fails →
      (∀ info ∈ infos, info.Renders) →
      (p.sets SummaryItem.Fails ↔ ∃ info ∈ infos, ¬info.Renders) := by
    intro p hp hall
    refine iff_of_false hp ?_
    rintro ⟨info, hinfo, hfails⟩
    exact hfails (hall info hinfo)
  cases h with
  | @single info h =>
    rw [print_single_fails print_config h]
    simp
  | create_stake_account ca si =>
    refine (print_create_fails print_config _ ca _).trans ?_
    rw [print_stake_initialize_info_fails]
    simp [InstructionInfo.Renders]
  | create_stake_account_checked ca si =>
    refine (print_create_fails print_config _ ca _).trans ?_
    rw [print_stake_initialize_info_fails]
    simp [InstructionInfo.Renders]
  | create_stake_account_with_seed cws si =>
    refine (print_create_with_seed_fails print_config _ cws _).trans ?_
    rw [print_stake_initialize_info_fails]
    simp [InstructionInfo.Renders]
  | create_stake_account_with_seed_checked cws si =>
    refine (print_create_with_seed_fails print_config _ cws _).trans ?_
    rw [print_stake_initialize_info_fails]
    simp [InstructionInfo.Renders]
  | create_stake_account_and_delegate ca si sd =>
    refine (print_create_fails print_config _ ca _).trans ?_
    rw [print_initialize_and_delegate_fails]
    simp [InstructionInfo.Renders]
  | create_stake_account_with_seed_and_delegate cws si sd =>
    refine (print_create_with_seed_fails print_config _ cws _).trans ?_
    rw [print_initialize_and_delegate_fails]
    simp [InstructionInfo.Renders]
  | rpl_associated_token_account_create_with_transfer create transfer =>
    rw [print_transaction_nonce_processed]
    refine (print_create_with_transfer_fails print_config create transfer).trans ?_
    simp [InstructionInfo.Renders]
  | create_nonce_account ca ni =>
    refine (print_create_fails print_config _ ca _).trans (hrest ?_ ?_)
    · simp [print_system_initialize_nonce_info]
    · simp [InstructionInfo.Renders]
  | create_nonce_account_with_seed cws ni =>
    refine (print_create_with_seed_fails print_config _ cws _).trans (hrest ?_ ?_)
    · simp [print_system_initialize_nonce_info]
    · simp [InstructionInfo.Renders]
  | create_vote_account ca vi =>
    refine (print_create_fails print_config _ ca _).trans (hrest ?_ ?_)
    · simp [print_vote_initialize_info]
    · simp [InstructionInfo.Renders]
  | create_vote_account_with_seed cws vi =>
    refine (print_create_with_seed_fails print_config _ cws _).trans (hrest ?_ ?_)
    · simp [print_vote_initialize_info]
    · simp [InstructionInfo.Renders]
  | stake_authorize_both staker withdrawer =>
    exact hrest (print_stake_authorize_both_avoids print_config fails_pubkey staker withdrawer)
      (by simp [InstructionInfo.Renders])
  | stake_authorize_checked_both staker withdrawer =>
    exact hrest (print_stake_authorize_both_avoids print_config fails_pubkey staker withdrawer)
      (by simp [InstructionInfo.Renders])
  | vote_authorize_both voter withdrawer =>
    exact hrest (print_vote_authorize_both_avoids print_config fails_pubkey voter withdrawer)
      (by simp [InstructionInfo.Renders])
  | vote_authorize_checked_both voter withdrawer =>
    exact hrest (print_vote_authorize_both_avoids print_config fails_pubkey voter withdrawer)
      (by simp [InstructionInfo.Renders])
  | stake_split_v1_1 al as ss =>
    exact hrest (print_stake_split_info_fails print_config ss) (by simp [InstructionInfo.Renders])
  | stake_split_v1_2 ca ss =>
    exact hrest (print_stake_split_info_fails print_config ss) (by simp [InstructionInfo.Renders])
  | stake_split_with_seed_v1_1 aws ss =>
    exact hrest (print_split_fails print_config aws.base aws.seed ss)
      (by simp [InstructionInfo.Renders])
  | stake_split_with_seed_v1_2 cws ss =>
    exact hrest (print_split_fails print_config cws.base cws.seed ss)
      (by simp [InstructionInfo.Renders])
  | rpl_token_create_mint ca im =>
    exact hrest (print_rpl_token_create_mint_fails print_config ca im)
      (by simp [InstructionInfo.Renders])
  | rpl_token_create_account ca ia =>
    exact hrest (print_rpl_token_create_account_fails print_config ca ia)
      (by simp [InstructionInfo.Renders])
  | rpl_token_create_account2 ca ia =>
    exact hrest (print_rpl_token_create_account_fails print_config ca ia)
      (by simp [InstructionInfo.Renders])
  | rpl_token_create_multisig ca im =>
    exact hrest (print_rpl_token_create_multisig_fails print_config ca im)
      (by simp [InstructionInfo.Renders])

end Instructions

/-! ## The primary item -/

section Primary

variable (print_config : PrintConfig)

/-- A printer whose first step sets the primary item. -/
theorem first_primary (title : String) (value : SummaryItemValue) (f : Unit → SummaryM Unit) :
    0 < (set_item .primary title value >>= f).count .primary := by
  rw [SummaryM.count_bind, count_set_item, if_pos rfl]
  omega

/-- A split sets its primary item, whatever comes after its first part. -/
theorem print_split_primary {f : Unit → SummaryM Unit} (ss : StakeSplitInfo) :
    0 < (print_stake_split_info1 ss >>= f).count .primary := by
  have hfirst : 0 < (print_stake_split_info1 ss).count .primary := first_primary ..
  rw [SummaryM.count_bind]
  omega

/-- With the authorities in order, the primary item is set. -/
theorem print_stake_authorize_both_primary {staker withdrawer : StakeAuthorizeInfo}
    (hs : staker.authorize = .StakeAuthorizeStaker)
    (hw : withdrawer.authorize = .StakeAuthorizeWithdrawer) :
    0 < (print_stake_authorize_both print_config [.ProgramIdStake (.StakeAuthorize staker),
      .ProgramIdStake (.StakeAuthorize withdrawer)]).count .primary := by
  simp [print_stake_authorize_both, hs, hw]

/-- The same for the vote program. -/
theorem print_vote_authorize_both_primary {voter withdrawer : VoteAuthorizeInfo}
    (hv : voter.authorize = .VoteAuthorizeVoter)
    (hw : withdrawer.authorize = .VoteAuthorizeWithdrawer) :
    0 < (print_vote_authorize_both print_config [.ProgramIdVote (.VoteAuthorize voter),
      .ProgramIdVote (.VoteAuthorize withdrawer)]).count .primary := by
  simp [print_vote_authorize_both, hv, hw]

/-- The primary item is the token account's. -/
theorem print_create_with_transfer_primary (create : RplAssociatedTokenAccountCreateInfo)
    (transfer : RplTokenTransferInfo) :
    0 < (print_rpl_associated_token_account_create_with_transfer print_config
      [.ProgramIdRplAssociatedTokenAccount create,
        .ProgramIdRplToken (.TransferChecked transfer)]).count .primary := by
  have hfirst : 0 < (print_rpl_associated_token_account_create_info create).count .primary :=
    first_primary ..
  rw [print_rpl_associated_token_account_create_with_transfer, SummaryM.count_bind,
    SummaryM.count_ignore_rc]
  omega

/-- Every supported instruction on its own sets its primary item. -/
theorem print_single_primary {info : InstructionInfo} (h : info.supported) :
    0 < (print_transaction_nonce_processed print_config [info]).count .primary := by
  -- Each printer sets the primary item first, but for the split, which has two forms,
  -- and the native sync, which has no other item.
  cases info with
  | ProgramIdSystem system =>
    cases system with
    | SystemAssignWithSeed => exact absurd rfl h
    | _ => exact first_primary ..
  | ProgramIdStake stake =>
    cases stake with
    | StakeSplit split => exact print_split_primary split
    | StakeAuthorizeWithSeed => exact absurd rfl h.1
    | StakeAuthorizeCheckedWithSeed => exact absurd rfl h.2
    | _ => exact first_primary ..
  | ProgramIdVote vote =>
    cases vote with
    | VoteVote => exact absurd rfl h.1
    | VoteSwitchVote => exact absurd rfl h.2
    | _ => exact first_primary ..
  | ProgramIdRplToken rpl_token =>
    cases rpl_token with
    | Transfer => exact absurd rfl h.1
    | Approve => exact absurd rfl h.2.1
    | MintTo => exact absurd rfl h.2.2.1
    | Burn => exact absurd rfl h.2.2.2
    | SyncNative sync_native => exact Nat.one_pos
    | _ => exact first_primary ..
  | ProgramIdRplAssociatedTokenAccount create => exact first_primary ..
  | ProgramIdRplMemo => exact absurd h id
  | ProgramIdUnknown => exact absurd h id

/-- A recognised transaction has a primary item, on which finalizing depends. For single
instructions and for patterns it is set first, or right after the checks. -/
theorem Recognised.primary {infos : List InstructionInfo} (h : Recognised infos) :
    0 < (print_transaction_nonce_processed print_config infos).count .primary := by
  cases h with
  | single h => exact print_single_primary print_config h
  | stake_authorize_both staker withdrawer hs hw =>
    exact print_stake_authorize_both_primary print_config hs hw
  | stake_authorize_checked_both staker withdrawer hs hw =>
    exact print_stake_authorize_both_primary print_config hs hw
  | vote_authorize_both voter withdrawer hv hw =>
    exact print_vote_authorize_both_primary print_config hv hw
  | vote_authorize_checked_both voter withdrawer hv hw =>
    exact print_vote_authorize_both_primary print_config hv hw
  | stake_split_v1_1 al as ss => exact print_split_primary ss
  | stake_split_v1_2 ca ss => exact print_split_primary ss
  | stake_split_with_seed_v1_1 aws ss => exact print_split_primary ss
  | stake_split_with_seed_v1_2 cws ss => exact print_split_primary ss
  | rpl_associated_token_account_create_with_transfer create transfer =>
    exact print_create_with_transfer_primary print_config create transfer
  | _ => exact first_primary ..

end Primary

/-! ## The review -/

section Review

variable {message_body : Parser} {print_config : PrintConfig} {infos : List InstructionInfo}
  {summary : TransactionSummary}

/-- An accepted message has a primary item, so its summary can be finalized and its
review has a first step. -/
theorem accepts_primary (h : accepts message_body print_config summary) :
    summary.primary ≠ none := by
  obtain ⟨infos, hp, hr⟩ := accepts_iff.mp ⟨summary, h⟩
  have hcount : 0 < (print_transaction print_config (display_instruction_info infos)).count
      .primary := by
    have hprimary := hr.primary print_config
    rcases print_transaction_cases print_config (display_instruction_info infos) with
      ⟨nonce, -, hprint⟩ | ⟨hstrip, hprint⟩
    · rw [hprint, SummaryM.count_bind, SummaryM.ignore_rc_result]
      exact hprimary.trans_le (Nat.le_add_left _ _)
    · rw [hprint, ← hstrip]
      exact hprimary
  rw [accepts_iff_print hp, SummaryM.exec, Option.map_eq_some_iff] at h
  obtain ⟨t, hwrites, ht⟩ := h
  obtain rfl := (Prod.mk.inj ht).2
  have hfree := write_all_free hwrites .primary
  have hone : transaction_summary_reset.free .primary = 1 := rfl
  rw [SummaryM.count] at hcount
  rw [hone] at hfree
  intro hnone
  rw [TransactionSummary.free, hnone, Option.isNone_none, if_pos rfl] at hfree
  omega

/-- The summary that is shown: as the message leaves it, or with the fee payer in it,
which is added by the handler and not by the printers. -/
def IsShown (message_body : Parser) (print_config : PrintConfig) (shown : TransactionSummary) :
    Prop :=
  ∃ summary, accepts message_body print_config summary ∧
    (shown = summary ∨
      ∃ fee_payer, transaction_summary_set_fee_payer_pubkey fee_payer summary = some shown)

/-- Every step of the review of an accepted message shows its item, with long and with
short keys and whatever was shown before. Both display settings are asked for, so that
the user may change it between reviews. -/
def AlwaysRenders (message_body : Parser) (print_config : PrintConfig) : Prop :=
  ∀ shown kinds, IsShown message_body print_config shown →
    transaction_summary_finalize shown = some kinds →
    ∀ i < kinds.length, ∀ flags display, display.Sized →
      Displays (transaction_summary_display_item shown i flags display)

/-- A finalized summary lists as many kinds as it has items. -/
theorem finalize_length {kinds : List SummaryItemKind}
    (h : transaction_summary_finalize summary = some kinds) :
    summary.primary ≠ none ∧ kinds.length = summary.items.length := by
  rw [transaction_summary_finalize] at h
  split at h
  · cases h
  · rename_i hprimary
    cases h
    refine ⟨fun hnone => hprimary ?_, List.length_map _⟩
    rw [hnone, Option.isNone_none]

/-- The item at an index in range is the one of that place in the display order. -/
theorem display_item_eq (hprimary : summary.primary ≠ none) {i : ℕ}
    (hi : i < summary.items.length) (flags : DisplayFlags) (display : SummaryDisplay) :
    transaction_summary_display_item summary i flags display =
      transaction_summary_update_display_for_item (some summary.items[i]) flags display := by
  rw [transaction_summary_display_item,
    transaction_summary_find_item_eq hprimary (List.getElem?_eq_getElem hi)]

/-- The fee payer can always be shown. -/
theorem shown_fails_iff {shown : TransactionSummary}
    (h : shown = summary ∨
      ∃ fee_payer, transaction_summary_set_fee_payer_pubkey fee_payer summary = some shown) :
    (∃ item ∈ shown.items, item.Fails) ↔ ∃ item ∈ summary.items, item.Fails := by
  rcases h with rfl | ⟨fee_payer, hset⟩
  · exact Iff.rfl
  · have hitems := write_items hset
    constructor
    · rintro ⟨item, hitem, hfails⟩
      rcases (hitems item).mp hitem with hitem | rfl
      · exact ⟨item, hitem, hfails⟩
      · exact absurd hfails (fails_pubkey _ fee_payer)
    · rintro ⟨item, hitem, hfails⟩
      exact ⟨item, (hitems item).mpr (Or.inl hitem), hfails⟩

/-- The summary of an accepted message has an item that fails when one of its instructions
does not render. -/
theorem accepts_fails_iff
    (hp : (parse_message_body print_config.header).run' message_body = some infos)
    (h : accepts message_body print_config summary) :
    (∃ item ∈ summary.items, item.Fails) ↔ ∃ info ∈ infos, ¬info.Renders := by
  rw [accepts_items hp h, print_transaction_sets_iff print_config fails_pubkey,
    (accepts_recognised hp h).sets_fails_iff]
  constructor
  · rintro ⟨info, hinfo, hfails⟩
    exact ⟨info, (List.mem_filter.mp (mem_of_mem_strip_nonce hinfo)).1, hfails⟩
  · rintro ⟨info, hinfo, hfails⟩
    rcases mem_displayed_or hinfo with hinfo | rfl | ⟨nonce, rfl⟩
    · exact ⟨info, hinfo, hfails⟩
    · exact absurd trivial hfails
    · exact absurd trivial hfails

end Review

/-- **Every step of the review shows its item exactly when** the checked token amounts and the
lock-up times of the message can be printed. -/
theorem always_renders_iff (message_body : Parser) (print_config : PrintConfig) :
    AlwaysRenders message_body print_config ↔
      ∀ infos, (parse_message_body print_config.header).run' message_body = some infos →
        Recognised (strip_nonce (display_instruction_info infos)) →
        ∀ info ∈ infos, info.Renders := by
  constructor
  · intro h infos hp hr info hinfo
    -- An instruction that does not render leaves an item that fails for some flags and some
    -- buffers; it has a step in the review without a fee payer.
    by_contra hfails
    obtain ⟨summary, ha⟩ := accepts_iff.mpr ⟨infos, hp, hr⟩
    have hprimary := accepts_primary ha
    obtain ⟨item, hitem, flags, display, hsized, hnot⟩ :=
      (accepts_fails_iff hp ha).mpr ⟨info, hinfo, hfails⟩
    obtain ⟨i, hi, rfl⟩ := List.getElem_of_mem hitem
    have hfinalize : transaction_summary_finalize summary =
        some (summary.items.map SummaryItem.kind) := by
      rw [transaction_summary_finalize, if_neg (by rwa [Option.isNone_iff_eq_none])]
    have hshow := h summary _ ⟨summary, ha, Or.inl rfl⟩ hfinalize i (by rwa [List.length_map])
      flags display hsized
    rw [display_item_eq hprimary hi] at hshow
    exact hnot hshow
  · intro h shown kinds hshown hfinalize i hi flags display hsized
    obtain ⟨summary, ha, hfee⟩ := hshown
    obtain ⟨infos, hp, hr⟩ := accepts_iff.mp ⟨summary, ha⟩
    obtain ⟨hprimary, hlen⟩ := finalize_length hfinalize
    rw [hlen] at hi
    rw [display_item_eq hprimary hi]
    by_contra hnot
    -- A step that fails shows an item of the message, as the fee payer always renders.
    have hfails : ∃ item ∈ shown.items, item.Fails :=
      ⟨_, List.getElem_mem hi, flags, display, hsized, hnot⟩
    rw [shown_fails_iff hfee, accepts_fails_iff hp ha] at hfails
    obtain ⟨info, hinfo, hrenders⟩ := hfails
    exact hrenders (h infos hp hr info hinfo)

/-- One token is transferred, with 43 decimals. -/
def long_amount_message : Message where
  version := none
  num_required_signatures := 1
  num_readonly_signed_accounts := 0
  num_readonly_unsigned_accounts := 2
  pubkeys := [Pubkey.fill 1, Pubkey.fill 2, Pubkey.fill 3, Pubkey.fill 4, rpl_token_program_id]
  blockhash := Hash.fill 9
  instructions := [⟨4, [1, 3, 2, 0], [12, 1, 0, 0, 0, 0, 0, 0, 0, 43]⟩]
  version_lt := legacy_version_lt
  legacy_lt := legacy_signature_lt
  pubkeys_lt := by decide
  instructions_lt := by decide
  accounts_lt := by decide
  data_lt := by decide

/-- The first step of its review fails. -/
theorem long_amount_not_rendered : ∃ header message_body,
    parse_message_header ⟨0, long_amount_message.encode⟩ = some (header, message_body) ∧
    ¬AlwaysRenders message_body ⟨header, false, ⟨4, Pubkey.fill 1⟩⟩ := by
  obtain ⟨header, message_body, infos, summary, hparse, -, ha, hkinds, hdisplay⟩ := review_any
    (P := fun _ _ _ summary =>
      transaction_summary_finalize summary =
        some [.SummaryItemTokenAmount, .SummaryItemPubkey, .SummaryItemPubkey] ∧
      (transaction_summary_display_item summary 0 ⟨false⟩ SummaryDisplay.reset).map Prod.fst =
        some 1)
    (by decide +kernel : (review long_amount_message.encode false ⟨4, Pubkey.fill 1⟩).any _ = true)
  refine ⟨header, message_body, hparse, fun h => ?_⟩
  obtain ⟨display, hshow, -⟩ := h summary _ ⟨summary, ha, Or.inl rfl⟩ hkinds 0 (by decide) ⟨false⟩
    SummaryDisplay.reset sized_reset
  rw [hshow] at hdisplay
  cases hdisplay

end RenecLedger
