/-
What a message that is not recognised leaves in the summary, and that no slot is asked for
twice.

A printer that fails has set nothing (`SummaryM.Atomic`), with one exception: the nonce
items of expert mode are set before the instructions behind the nonce instruction are
looked at (`print_transaction_refused`). Blind signing goes on with what is there. The items
that are set on the whole way, `summary_writes`, find their slots free whatever the message
is (`summary_writes_fit`).
-/
import RenecLedger.Acceptance
import RenecLedger.SignerSpec
import RenecLedger.Encoding

set_option autoImplicit false

open ReaderLib ProgramLib

namespace RenecLedger

/-! ## Printers that fail with nothing set -/

/-- A printer that fails has set nothing. The printers of single instructions and of
patterns are like this, though their types do not say so: all of their checks come
before the first item. -/
def SummaryM.Atomic (p : SummaryM Unit) : Prop := p.result = none → p.writes = []

/-- Failing at once sets nothing. -/
theorem SummaryM.atomic_fail : (SummaryM.fail : SummaryM Unit).Atomic := fun _ => rfl

/-- A printer that cannot fail is atomic. -/
theorem SummaryM.atomic_of_result {p : SummaryM Unit} (h : p.result = some ()) : p.Atomic := by
  intro hnone
  rw [h] at hnone
  cases hnone

/-- A branch between atomic printers is atomic. -/
theorem SummaryM.Atomic.ite {c : Prop} [Decidable c] {p q : SummaryM Unit} (hp : p.Atomic)
    (hq : q.Atomic) : (if c then p else q).Atomic := by
  by_cases hc : c
  · rwa [if_pos hc]
  · rwa [if_neg hc]

section Printers

variable (print_config : PrintConfig)

/-- The system printer fails before its first item or not at all. -/
theorem print_system_info_atomic (info : SystemInfo) :
    (print_system_info info print_config).Atomic := by
  by_cases h : info = .SystemAssignWithSeed
  · rw [h]
    exact SummaryM.atomic_fail
  · exact SummaryM.atomic_of_result ((print_system_info_result print_config info).mpr h)

/-- So does the stake printer. -/
theorem print_stake_info_atomic (info : StakeInfo) :
    (print_stake_info info print_config).Atomic := by
  by_cases h : info = .StakeAuthorizeWithSeed
  · rw [h]
    exact SummaryM.atomic_fail
  · by_cases h' : info = .StakeAuthorizeCheckedWithSeed
    · rw [h']
      exact SummaryM.atomic_fail
    · exact SummaryM.atomic_of_result ((print_stake_info_result print_config info).mpr ⟨h, h'⟩)

/-- So does the vote printer. -/
theorem print_vote_info_atomic (info : VoteInfo) : (print_vote_info info print_config).Atomic := by
  by_cases h : info = .VoteVote
  · rw [h]
    exact SummaryM.atomic_fail
  · by_cases h' : info = .VoteSwitchVote
    · rw [h']
      exact SummaryM.atomic_fail
    · exact SummaryM.atomic_of_result ((print_vote_info_result print_config info).mpr ⟨h, h'⟩)

/-- So does the token printer. -/
theorem print_rpl_token_info_atomic (info : RplTokenInfo) :
    (print_rpl_token_info info print_config).Atomic := by
  intro h
  have hresult := print_rpl_token_info_result print_config info
  rw [h] at hresult
  cases info with
  | Transfer => rfl
  | Approve => rfl
  | MintTo => rfl
  | Burn => rfl
  | _ => exact absurd (hresult.mpr ⟨nofun, nofun, nofun, nofun⟩) nofun

/-- A single instruction is refused before anything of it is set. -/
theorem print_one_instruction_atomic (infos : List InstructionInfo) :
    (print_one_instruction print_config infos).Atomic := by
  unfold print_one_instruction
  split
  · exact print_system_info_atomic print_config _
  · exact print_stake_info_atomic print_config _
  · exact print_vote_info_atomic print_config _
  · exact print_rpl_token_info_atomic print_config _
  · exact SummaryM.atomic_of_result rfl
  · exact SummaryM.atomic_fail

/-- Once the two infos are the expected ones, this printer cannot fail; else it fails at
once. The same holds of the patterns that follow. -/
theorem print_create_stake_account_atomic (infos : List InstructionInfo) :
    (print_create_stake_account print_config infos).Atomic := by
  unfold print_create_stake_account
  split
  · exact SummaryM.atomic_of_result (by simp)
  · exact SummaryM.atomic_of_result (by simp)
  · exact SummaryM.atomic_fail

/-- As for the account without a seed. -/
theorem print_create_stake_account_with_seed_atomic (infos : List InstructionInfo) :
    (print_create_stake_account_with_seed print_config infos).Atomic := by
  unfold print_create_stake_account_with_seed
  split
  · exact SummaryM.atomic_of_result (by simp)
  · exact SummaryM.atomic_of_result (by simp)
  · exact SummaryM.atomic_fail

/-- The nonce account's printer is atomic. -/
theorem print_create_nonce_account_atomic (infos : List InstructionInfo) :
    (print_create_nonce_account print_config infos).Atomic := by
  unfold print_create_nonce_account
  split
  · exact SummaryM.atomic_of_result (by simp)
  · exact SummaryM.atomic_fail

/-- As for the account without a seed. -/
theorem print_create_nonce_account_with_seed_atomic (infos : List InstructionInfo) :
    (print_create_nonce_account_with_seed print_config infos).Atomic := by
  unfold print_create_nonce_account_with_seed
  split
  · exact SummaryM.atomic_of_result (by simp)
  · exact SummaryM.atomic_fail

/-- The vote account's printer is atomic. -/
theorem print_create_vote_account_atomic (infos : List InstructionInfo) :
    (print_create_vote_account print_config infos).Atomic := by
  unfold print_create_vote_account
  split
  · exact SummaryM.atomic_of_result (by simp)
  · exact SummaryM.atomic_fail

/-- As for the account without a seed. -/
theorem print_create_vote_account_with_seed_atomic (infos : List InstructionInfo) :
    (print_create_vote_account_with_seed print_config infos).Atomic := by
  unfold print_create_vote_account_with_seed
  split
  · exact SummaryM.atomic_of_result (by simp)
  · exact SummaryM.atomic_fail

/-- The order is checked before anything is set: two checks, and behind them a printer
that cannot fail. -/
theorem bail_if_atomic {c c' : Bool} {p : SummaryM Unit} (h : p.result = some ()) :
    SummaryM.Atomic (do
      SummaryM.bail_if c
      SummaryM.bail_if c'
      p) := by
  intro hnone
  cases c with
  | true => rfl
  | false =>
    cases c' with
    | true => rfl
    | false => exact absurd (h.symm.trans hnone) nofun

/-- The order of the two authorities is checked before the first item is set. -/
theorem print_stake_authorize_both_atomic (infos : List InstructionInfo) :
    (print_stake_authorize_both print_config infos).Atomic := by
  unfold print_stake_authorize_both
  split
  · exact bail_if_atomic (by simp)
  · exact bail_if_atomic (by simp)
  · exact SummaryM.atomic_fail

/-- As for the stake program: the order is checked first. -/
theorem print_vote_authorize_both_atomic (infos : List InstructionInfo) :
    (print_vote_authorize_both print_config infos).Atomic := by
  unfold print_vote_authorize_both
  split
  · exact bail_if_atomic (by simp)
  · exact bail_if_atomic (by simp)
  · exact SummaryM.atomic_fail

/-- Both forms of the split are atomic. -/
theorem print_stake_split_with_seed_atomic (infos : List InstructionInfo) (legacy : Bool) :
    (print_stake_split_with_seed print_config infos legacy).Atomic := by
  have hsplit : ∀ base seed ss,
      (print_stake_split_with_seed.print_split print_config base seed ss).Atomic :=
    fun base seed ss => SummaryM.atomic_of_result (by
      simp [print_stake_split_with_seed.print_split, print_stake_split_info2])
  unfold print_stake_split_with_seed
  split
  · exact hsplit _ _ _
  · exact hsplit _ _ _
  · exact SummaryM.atomic_fail

/-- The mint's printer is atomic. -/
theorem print_rpl_token_create_mint_atomic (infos : List InstructionInfo) :
    (print_rpl_token_create_mint print_config infos).Atomic := by
  unfold print_rpl_token_create_mint
  split
  · exact SummaryM.atomic_of_result (by simp)
  · exact SummaryM.atomic_fail

/-- The token account's printer is atomic. -/
theorem print_rpl_token_create_account_atomic (infos : List InstructionInfo) :
    (print_rpl_token_create_account print_config infos).Atomic := by
  unfold print_rpl_token_create_account
  split
  · exact SummaryM.atomic_of_result (by simp)
  · exact SummaryM.atomic_of_result (by simp)
  · exact SummaryM.atomic_fail

/-- The multisig's printer is atomic, whether or not its threshold has a text. -/
theorem print_rpl_token_create_multisig_atomic (infos : List InstructionInfo) :
    (print_rpl_token_create_multisig print_config infos).Atomic := by
  unfold print_rpl_token_create_multisig
  split
  · exact SummaryM.atomic_of_result (by simp)
  · exact SummaryM.atomic_fail

/-- Both return codes are ignored, so nothing of it can fail. -/
theorem print_rpl_associated_token_account_create_with_transfer_atomic
    (infos : List InstructionInfo) :
    (print_rpl_associated_token_account_create_with_transfer print_config infos).Atomic := by
  unfold print_rpl_associated_token_account_create_with_transfer
  split
  · exact SummaryM.atomic_of_result (by simp)
  · exact SummaryM.atomic_fail

/-- The delegation's printer is atomic. -/
theorem print_create_stake_account_and_delegate_atomic (infos : List InstructionInfo) :
    (print_create_stake_account_and_delegate print_config infos).Atomic := by
  unfold print_create_stake_account_and_delegate
  split
  · exact SummaryM.atomic_of_result (by simp)
  · exact SummaryM.atomic_fail

/-- As for the account without a seed. -/
theorem print_create_stake_account_with_seed_and_delegate_atomic (infos : List InstructionInfo) :
    (print_create_stake_account_with_seed_and_delegate print_config infos).Atomic := by
  unfold print_create_stake_account_with_seed_and_delegate
  split
  · exact SummaryM.atomic_of_result (by simp)
  · exact SummaryM.atomic_fail

/-- A member that is printed as if it were alone. -/
theorem print_stake_member_atomic (info : Option InstructionInfo) :
    SummaryM.Atomic (match info with
      | some (.ProgramIdStake stake) => print_stake_info stake print_config
      | _ => SummaryM.fail) := by
  split
  · exact print_stake_info_atomic print_config _
  · exact SummaryM.atomic_fail

/-- Whichever table matches first, its printer is atomic; when none does, nothing is
set. The proof follows the chain of tables. -/
theorem print_two_instructions_atomic (infos : List InstructionInfo) (infos_length : ℕ) :
    (print_two_instructions print_config infos infos_length).Atomic := by
  unfold print_two_instructions
  refine (print_create_stake_account_atomic print_config infos).ite ?_
  refine (print_create_stake_account_with_seed_atomic print_config infos).ite ?_
  refine (print_create_nonce_account_atomic print_config infos).ite ?_
  refine (print_create_nonce_account_with_seed_atomic print_config infos).ite ?_
  refine (print_create_vote_account_atomic print_config infos).ite ?_
  refine (print_create_vote_account_with_seed_atomic print_config infos).ite ?_
  refine (print_stake_authorize_both_atomic print_config infos).ite ?_
  refine (print_vote_authorize_both_atomic print_config infos).ite ?_
  refine (print_stake_split_with_seed_atomic print_config infos true).ite ?_
  refine (print_stake_member_atomic print_config infos.tail.head?).ite ?_
  refine (print_stake_split_with_seed_atomic print_config infos false).ite ?_
  refine (print_rpl_token_create_mint_atomic print_config infos).ite ?_
  refine (print_rpl_token_create_account_atomic print_config infos).ite ?_
  refine (print_rpl_token_create_multisig_atomic print_config infos).ite ?_
  exact (print_rpl_associated_token_account_create_with_transfer_atomic print_config infos).ite
    SummaryM.atomic_fail

/-- The same for the tables of three. -/
theorem print_three_instructions_atomic (infos : List InstructionInfo) (infos_length : ℕ) :
    (print_three_instructions print_config infos infos_length).Atomic := by
  unfold print_three_instructions
  refine (print_create_stake_account_and_delegate_atomic print_config infos).ite ?_
  refine (print_create_stake_account_with_seed_and_delegate_atomic print_config infos).ite ?_
  exact (print_stake_member_atomic print_config infos.tail.tail.head?).ite SummaryM.atomic_fail

/-- Behind the nonce, a refused transaction has set nothing. -/
theorem print_transaction_nonce_processed_atomic (infos : List InstructionInfo) :
    (print_transaction_nonce_processed print_config infos).Atomic := by
  unfold print_transaction_nonce_processed
  dsimp only
  split
  · exact print_one_instruction_atomic print_config infos
  · exact print_two_instructions_atomic print_config infos _
  · exact print_three_instructions_atomic print_config infos _
  · exact SummaryM.atomic_fail

/-! ## The nonce items -/

/-- The nonce instruction that is taken off the front, when expert mode shows it. In
user mode there is none, and neither when it stands alone. -/
def shown_nonce (infos : List InstructionInfo) : Option SystemAdvanceNonceInfo :=
  match infos with
  | .ProgramIdSystem (.SystemAdvanceNonceAccount advance_nonce) :: _ :: _ =>
    if print_config.expert_mode then some advance_nonce else none
  | _ => none

/-- Printing that fails has set the nonce items, and nothing else: they are set before
the instructions behind the nonce are looked at. -/
theorem print_transaction_refused {infos : List InstructionInfo}
    (h : (print_transaction print_config infos).result = none) :
    (print_transaction print_config infos).writes =
      match shown_nonce print_config infos with
      | some advance_nonce =>
        [⟨.nonce_account, "Nonce account", .SummaryItemPubkey advance_nonce.account⟩,
          ⟨.nonce_authority, "Nonce authority", .SummaryItemPubkey advance_nonce.authority⟩]
      | none => [] := by
  have hatomic := print_transaction_nonce_processed_atomic print_config
  unfold print_transaction at h ⊢
  split at h
  · rename_i advance_nonce info infos
    -- What follows the nonce instruction failed before it set an item.
    have hrest : (print_transaction_nonce_processed print_config (info :: infos)).result =
        none := h
    simp only [SummaryM.bind_writes, SummaryM.ignore_rc_result, SummaryM.ignore_rc_writes,
      Option.elim_some, hatomic _ hrest, List.append_nil, shown_nonce,
      print_system_nonced_transaction_sentinel]
    by_cases hexpert : print_config.expert_mode = true
    · rw [if_pos hexpert, if_pos hexpert]
      rfl
    · rw [if_neg hexpert, if_neg hexpert]
      rfl
  · rename_i hinfos
    have hnone : shown_nonce print_config infos = none := by
      unfold shown_nonce
      split
      · exact absurd rfl (hinfos _ _ _)
      · rfl
    rw [hnone]
    exact hatomic _ h

end Printers

/-! ## A message that is not recognised -/

/-- The nonce instruction that expert mode shows of a message. -/
def message_nonce (message_body : Parser) (print_config : PrintConfig) :
    Option SystemAdvanceNonceInfo := do
  let instruction_info ← (parse_message_body print_config.header).run' message_body
  shown_nonce print_config (display_instruction_info instruction_info)

/-- The summary in which only the nonce items may be used. All others are as after a
reset. -/
def nonce_summary (nonce : Option SystemAdvanceNonceInfo) : TransactionSummary :=
  { transaction_summary_reset with
    nonce_account := nonce.map fun advance_nonce =>
      ⟨"Nonce account", .SummaryItemPubkey advance_nonce.account⟩
    nonce_authority := nonce.map fun advance_nonce =>
      ⟨"Nonce authority", .SummaryItemPubkey advance_nonce.authority⟩ }

/-- What a refused message leaves set: the two nonce items in expert mode, when it
begins with an advance of a nonce, and nothing else. -/
theorem process_message_body_refused {message_body : Parser} {print_config : PrintConfig}
    (h : (process_message_body message_body print_config).result = none) :
    (process_message_body message_body print_config).writes =
      match message_nonce message_body print_config with
      | some advance_nonce =>
        [⟨.nonce_account, "Nonce account", .SummaryItemPubkey advance_nonce.account⟩,
          ⟨.nonce_authority, "Nonce authority", .SummaryItemPubkey advance_nonce.authority⟩]
      | none => [] := by
  unfold process_message_body at h ⊢
  unfold message_nonce
  cases hparse : (parse_message_body print_config.header).run' message_body with
  | none => rfl
  | some infos =>
    rw [hparse] at h
    exact print_transaction_refused print_config h

/-- **What is left of a message that is not recognised.** Every item of the summary is
still unused, except that in expert mode the two nonce items are set, when the body parses
and begins with a nonce instruction that has others behind it. -/
theorem unrecognised_leaves_nonce (message_body : Parser) (print_config : PrintConfig)
    (h : (process_message_body message_body print_config).result = none) :
    (process_message_body message_body print_config).exec transaction_summary_reset =
      some (none, nonce_summary (message_nonce message_body print_config)) := by
  rw [SummaryM.exec, process_message_body_refused h, h]
  cases message_nonce message_body print_config with
  | none => rfl
  | some advance_nonce => rfl

/-- A nonce instruction in front of two transfers, which is no pattern. -/
def nonced_transfers_message : Message where
  version := none
  num_required_signatures := 1
  num_readonly_signed_accounts := 0
  num_readonly_unsigned_accounts := 2
  pubkeys := [Pubkey.fill 1, Pubkey.fill 2, Pubkey.fill 3, system_program_id]
  blockhash := Hash.fill 9
  instructions :=
    [⟨3, [1, 2, 0], [4, 0, 0, 0]⟩,
      ⟨3, [0, 1], [2, 0, 0, 0, 5, 0, 0, 0, 0, 0, 0, 0]⟩,
      ⟨3, [0, 1], [2, 0, 0, 0, 6, 0, 0, 0, 0, 0, 0, 0]⟩]
  version_lt := legacy_version_lt
  legacy_lt := legacy_signature_lt
  pubkeys_lt := by decide
  instructions_lt := by decide
  accounts_lt := by decide
  data_lt := by decide

/-- In expert mode its nonce items are left. -/
theorem nonce_items_left : ∃ header message_body,
    parse_message_header ⟨0, nonced_transfers_message.encode⟩ = some (header, message_body) ∧
    ((process_message_body message_body ⟨header, true, ⟨4, Pubkey.fill 1⟩⟩).exec
      transaction_summary_reset).any (fun r => r.1 = none ∧ r.2.items ≠ []) = true := by
  exact parsed_any (by decide +kernel)

theorem nonced_transfers_leave_nonce : ∃ header message_body,
    parse_message_header ⟨0, nonced_transfers_message.encode⟩ = some (header, message_body) ∧
    (process_message_body message_body ⟨header, true, ⟨4, Pubkey.fill 1⟩⟩).exec
      transaction_summary_reset = some (none, nonce_summary
        (message_nonce message_body ⟨header, true, ⟨4, Pubkey.fill 1⟩⟩)) := by
  have hrefused : ∃ header message_body,
      parse_message_header ⟨0, nonced_transfers_message.encode⟩ = some (header, message_body) ∧
      (process_message_body message_body ⟨header, true, ⟨4, Pubkey.fill 1⟩⟩).result = none :=
    parsed_any (by decide +kernel)
  obtain ⟨header, message_body, hparse, hrefused⟩ := hrefused
  exact ⟨header, message_body, hparse, unrecognised_leaves_nonce _ _ hrefused⟩

/-! ## Room for every item -/

/-- The items of blind signing. -/
def blind_sign_writes (message_hash : Hash) : List SummaryWrite :=
  [⟨.primary, "Unrecognized", .SummaryItemString "format"⟩,
    ⟨.general, "Message Hash", .SummaryItemHash ⟨MAX_MESSAGE_LENGTH + 4, message_hash⟩⟩]

/-- What is set for a signing command, in order: the items of the message, then those of
blind signing when it was not processed, then the fee payer. What a refused message has
set stays in front. -/
def summary_writes (message_body : Parser) (print_config : PrintConfig) (message_hash : Hash)
    (fee_payer : PubkeyRef) : List SummaryWrite :=
  let processed := process_message_body message_body print_config
  processed.writes ++
    (if processed.result = none then blind_sign_writes message_hash else []) ++
    (if print_config_show_authority print_config fee_payer then
      [⟨.fee_payer, "Fee payer", .SummaryItemPubkey fee_payer⟩] else [])

/-- How many items a slot has room for: eleven general ones, and one of each of the
others. -/
def SummarySlot.capacity : SummarySlot → ℕ
  | .general => NUM_GENERAL_ITEMS
  | _ => 1

/-- A reset summary has all of its room. -/
theorem free_reset (slot : SummarySlot) : transaction_summary_reset.free slot = slot.capacity := by
  cases slot <;> rfl

/-- What two lists of writes ask for adds up. -/
theorem slot_count_append (slot : SummarySlot) (ws ws' : List SummaryWrite) :
    slot_count slot (ws ++ ws') = slot_count slot ws + slot_count slot ws' := by
  rw [slot_count, List.countP_append]
  rfl

/-- A message that is not refused has instructions of a recognised kind. -/
theorem processed_recognised {message_body : Parser} {print_config : PrintConfig}
    (h : (process_message_body message_body print_config).result ≠ none) :
    ∃ infos, (parse_message_body print_config.header).run' message_body = some infos ∧
      process_message_body message_body print_config =
        print_transaction print_config (display_instruction_info infos) ∧
      Recognised (strip_nonce (display_instruction_info infos)) := by
  unfold process_message_body at h ⊢
  cases hparse : (parse_message_body print_config.header).run' message_body with
  | none =>
    rw [hparse] at h
    exact absurd rfl h
  | some infos =>
    rw [hparse] at h
    refine ⟨infos, rfl, rfl, ?_⟩
    obtain ⟨u, hu⟩ := Option.ne_none_iff_exists'.mp h
    exact (print_transaction_ok print_config).mp hu

/-- The fee payer is at most one item, in its own slot. -/
theorem fee_payer_count (c : Prop) [Decidable c] (item : SummaryItem) (slot : SummarySlot) :
    slot_count slot (if c then [⟨.fee_payer, item⟩] else []) ≤
      if slot = .fee_payer then 1 else 0 := by
  by_cases hc : c
  · rw [if_pos hc]
    cases slot <;> simp [slot_count]
  · rw [if_neg hc]
    exact Nat.zero_le _

/-- Of a message that is not recognised, the nonce items and those of blind signing. -/
theorem refused_count {message_body : Parser} {print_config : PrintConfig}
    (h : (process_message_body message_body print_config).result = none) (message_hash : Hash)
    (slot : SummarySlot) :
    slot_count slot ((process_message_body message_body print_config).writes ++
      blind_sign_writes message_hash) + (if slot = .fee_payer then 1 else 0) ≤ slot.capacity := by
  rw [process_message_body_refused h]
  cases message_nonce message_body print_config <;>
    cases slot <;> simp [slot_count, blind_sign_writes, SummarySlot.capacity, NUM_GENERAL_ITEMS]

/-- Of a message that is recognised, its own items. -/
theorem recognised_count {infos : List InstructionInfo} (print_config : PrintConfig)
    (h : Recognised (strip_nonce infos)) (slot : SummarySlot) :
    (print_transaction print_config infos).count slot + (if slot = .fee_payer then 1 else 0) ≤
      slot.capacity := by
  have hfits := print_transaction_fits print_config h
  cases slot with
  | primary => exact hfits.primary
  | nonce_account => exact hfits.nonce_account
  | nonce_authority => exact hfits.nonce_authority
  | general => exact hfits.general
  | fee_payer =>
    rw [print_transaction_fee_payer print_config h]
    exact Nat.le_refl 1

/-- No slot is asked for more often than it has room. A recognised message fills its own
items, and one that is not leaves room for those of blind signing. -/
theorem summary_writes_count (message_body : Parser) (print_config : PrintConfig)
    (message_hash : Hash) (fee_payer : PubkeyRef) (slot : SummarySlot) :
    slot_count slot (summary_writes message_body print_config message_hash fee_payer) ≤
      slot.capacity := by
  have hfee := fee_payer_count (print_config_show_authority print_config fee_payer = true)
    ⟨"Fee payer", .SummaryItemPubkey fee_payer⟩ slot
  unfold summary_writes
  dsimp only
  by_cases hresult : (process_message_body message_body print_config).result = none
  · have hcount := refused_count hresult message_hash slot
    rw [if_pos hresult, slot_count_append]
    omega
  · obtain ⟨infos, -, hprint, hrecognised⟩ := processed_recognised hresult
    have hcount := recognised_count print_config hrecognised slot
    rw [SummaryM.count] at hcount
    rw [if_neg hresult, List.append_nil, slot_count_append, hprint]
    omega

/-- Every item that is set finds its slot free, so no setter of the summary returns a
null pointer. -/
theorem summary_writes_fit (message_body : Parser) (print_config : PrintConfig)
    (message_hash : Hash) (fee_payer : PubkeyRef) :
    ∃ summary, transaction_summary_reset.write_all
      (summary_writes message_body print_config message_hash fee_payer) = some summary := by
  apply write_all_fits
  intro slot
  rw [free_reset]
  exact summary_writes_count message_body print_config message_hash fee_payer slot

/-! ## The signing command -/

/-- Writes may be run in two parts. -/
theorem write_all_append (s : TransactionSummary) (ws ws' : List SummaryWrite) :
    s.write_all (ws ++ ws') = (s.write_all ws).bind (·.write_all ws') := by
  rw [TransactionSummary.write_all, List.foldlM_append]
  rfl

/-- The first part has to go through for the second to be tried. -/
theorem write_all_append_eq_some {s t : TransactionSummary} {ws ws' : List SummaryWrite} :
    s.write_all (ws ++ ws') = some t ↔
      ∃ u, s.write_all ws = some u ∧ u.write_all ws' = some t := by
  rw [write_all_append, Option.bind_eq_some_iff]

/-- A printer whose items all find room runs. -/
theorem run_printer_writes {α : Type} {p : SummaryM α} {s : AppState} {summary : TransactionSummary}
    (h : s.G_transaction_summary.write_all p.writes = some summary) :
    (run_printer p).run.run s =
      (.ok p.result, { s with G_transaction_summary := summary }) := by
  apply run_printer_eq_ok.mpr
  refine ⟨summary, ?_, rfl⟩
  rw [SummaryM.exec, h]
  rfl

variable (device : Device)

/-- Blind signing is refused when it is not enabled. -/
theorem blind_sign_throws {s : AppState} (hblind : s.settings.allow_blind_sign = false) :
    (blind_sign device).run.run s = (.error (.THROW .ApduReplySdkNotSupported), s) := by
  have hthrow : (!s.settings.allow_blind_sign) = true := by rw [hblind, Bool.not_false]
  rw [blind_sign, get_bind, THROW_IF]
  exact bind_of_error (throw_if_pos hthrow _ _)

/-- When it is enabled, its items are set. -/
theorem blind_sign_sets {s : AppState} {summary : TransactionSummary}
    (h : s.G_transaction_summary.write_all
      (blind_sign_writes (device.cx_hash_sha256 s.G_command.payload)) = some summary)
    (hblind : s.settings.allow_blind_sign = true) :
    ∃ t, (blind_sign device).run.run s = (.ok (), t) ∧ t.G_transaction_summary = summary := by
  have hallowed : ¬(!s.settings.allow_blind_sign) = true := by
    rw [hblind]
    exact Bool.false_ne_true
  rw [blind_sign_writes, ← List.singleton_append] at h
  obtain ⟨summary₁, hformat, hhash⟩ := write_all_append_eq_some.mp h
  rw [blind_sign, get_bind, THROW_IF, bind_of_ok (throw_if_neg hallowed _ _),
    bind_of_ok (run_printer_writes hformat), modify_bind, bind_of_ok (run_printer_writes hhash)]
  exact ⟨_, rfl, rfl⟩

variable {device} in
/-- A message that is recognised, or may be signed blindly, is summarized. What was set before it
was found not to be recognised stays. -/
theorem summarize_message_sets {parser : Parser} {print_config : PrintConfig} {s : AppState}
    {summary : TransactionSummary}
    (h : s.G_transaction_summary.write_all ((process_message_body parser print_config).writes ++
      if (process_message_body parser print_config).result = none then
        blind_sign_writes (device.cx_hash_sha256 s.G_command.payload) else []) = some summary)
    (hallowed : (process_message_body parser print_config).result ≠ none ∨
      s.settings.allow_blind_sign = true) :
    ∃ t, (summarize_message device parser print_config).run.run s = (.ok (), t) ∧
      t.G_transaction_summary = summary := by
  obtain ⟨summary₁, hprocess, hrest⟩ := write_all_append_eq_some.mp h
  rw [summarize_message, bind_of_ok (run_printer_writes hprocess)]
  cases hresult : (process_message_body parser print_config).result with
  | some u =>
    rw [if_neg (by rw [hresult]; exact Option.some_ne_none u)] at hrest
    cases hrest
    exact ⟨_, rfl, rfl⟩
  | none =>
    rw [if_pos hresult] at hrest
    exact blind_sign_sets device hrest (hallowed.resolve_left (not_not.mpr hresult))

/-- Any other message is refused. -/
theorem summarize_message_run {parser : Parser} {print_config : PrintConfig} {s : AppState}
    {summary : TransactionSummary}
    (h : s.G_transaction_summary.write_all ((process_message_body parser print_config).writes ++
      if (process_message_body parser print_config).result = none then
        blind_sign_writes (device.cx_hash_sha256 s.G_command.payload) else []) = some summary) :
    (∃ t, (summarize_message device parser print_config).run.run s =
        (.error (.THROW .ApduReplySdkNotSupported), t)) ∨
      ∃ t, (summarize_message device parser print_config).run.run s = (.ok (), t) ∧
        t.G_transaction_summary = summary := by
  by_cases hallowed : (process_message_body parser print_config).result ≠ none ∨
      s.settings.allow_blind_sign = true
  · exact Or.inr (summarize_message_sets h hallowed)
  · obtain ⟨hresult, hblind⟩ := not_or.mp hallowed
    have hresult := not_not.mp hresult
    obtain ⟨summary₁, hprocess, -⟩ := write_all_append_eq_some.mp h
    refine Or.inl ⟨{ s with G_transaction_summary := summary₁ }, ?_⟩
    rw [summarize_message, bind_of_ok (run_printer_writes hprocess), hresult]
    exact blind_sign_throws device (Bool.not_eq_true _ ▸ hblind)

/-- The fee payer finds its place, so that its return code says nothing. -/
theorem add_fee_payer_writes {print_config : PrintConfig} {fee_payer : PubkeyRef} {s : AppState}
    {summary : TransactionSummary}
    (h : s.G_transaction_summary.write_all
      (if print_config_show_authority print_config fee_payer then
        [⟨.fee_payer, "Fee payer", .SummaryItemPubkey fee_payer⟩] else []) = some summary) :
    (add_fee_payer print_config fee_payer).run.run s =
      (.ok (), { s with G_transaction_summary := summary }) := by
  rw [add_fee_payer, run_if]
  by_cases hshow : print_config_show_authority print_config fee_payer = true
  · rw [if_pos hshow] at h ⊢
    rw [TransactionSummary.write_all, List.foldlM_cons, Option.bind_eq_bind,
      Option.bind_eq_some_iff] at h
    obtain ⟨t, hwrite, h⟩ := h
    cases h
    rw [run_modify, transaction_summary_set_fee_payer_pubkey, hwrite]
    rfl
  · rw [if_neg hshow] at h ⊢
    cases h
    rfl

/-- What is set for the message that `G_command` holds. -/
def sign_writes (device : Device) (s : AppState) (header : MessageHeader) (parser : Parser)
    (signer_index : ℕ) : List SummaryWrite :=
  summary_writes parser (sign_print_config device s header signer_index)
    (device.cx_hash_sha256 s.G_command.payload) (pubkey_at device s header.pubkeys 0)

/-- From the reset on, the handler throws or sets all items. -/
theorem set_summary_run (s : AppState) (header : MessageHeader) (parser : Parser)
    (signer_index : ℕ) {p : App (MessageHeader × ℕ)}
    (hp : p = (do
      reset_summary
      summarize_message device parser (sign_print_config device s header signer_index)
      add_fee_payer (sign_print_config device s header signer_index)
        (pubkey_at device s header.pubkeys 0)
      return (header, signer_index))) :
    (∃ t, p.run.run s = (.error (.THROW .ApduReplySdkNotSupported), t)) ∨
      ∃ t, p.run.run s = (.ok (header, signer_index), t) ∧
        transaction_summary_reset.write_all (sign_writes device s header parser signer_index) =
          some t.G_transaction_summary := by
  subst hp
  obtain ⟨summary, hwrites⟩ := summary_writes_fit parser
    (sign_print_config device s header signer_index) (device.cx_hash_sha256 s.G_command.payload)
    (pubkey_at device s header.pubkeys 0)
  obtain ⟨summary₁, hmessage, hfee⟩ := write_all_append_eq_some.mp hwrites
  have hreset : (reset_summary : App Unit).run.run s = (.ok (), s.with_reset_summary) := rfl
  rcases summarize_message_run device (s := s.with_reset_summary) hmessage with
    ⟨t, hthrow⟩ | ⟨t, hset, rfl⟩
  · left
    exact ⟨t, (bind_of_ok hreset).trans (bind_of_error hthrow)⟩
  · right
    refine ⟨_, (bind_of_ok hreset).trans ((bind_of_ok hset).trans
      (bind_of_ok (add_fee_payer_writes hfee))), ?_⟩
    exact hwrites

/-- The handler of a signing command throws, or returns with every item set. There is no
third way: it does not stop, and it does not return with an item missing. -/
theorem parse_message_ends (s : AppState) :
    (∃ reply t, (handle_sign_message_parse_message device).run.run s =
        (.error (.THROW reply), t)) ∨
      ∃ header parser signer_index t,
        (handle_sign_message_parse_message device).run.run s = (.ok (header, signer_index), t) ∧
        parse_message_header ⟨0, s.G_command.payload⟩ = some (header, parser) ∧
        transaction_summary_reset.write_all (sign_writes device s header parser signer_index) =
          some t.G_transaction_summary := by
  rw [handle_sign_message_parse_message, get_bind, THROW_IF]
  by_cases hcommand : s.G_command.instruction ≠ some .InsSignMessage ∨
      s.G_command.state ≠ .ApduStatePayloadComplete
  · left
    exact ⟨_, s, bind_of_error (throw_if_pos hcommand _ _)⟩
  rw [bind_of_ok (throw_if_neg hcommand _ _), parse_command_header]
  cases hparse : parse_message_header ⟨0, s.G_command.payload⟩ with
  | none => exact Or.inl ⟨_, s, bind_of_error rfl⟩
  | some parsed =>
    obtain ⟨header, parser⟩ := parsed
    rw [bind_of_ok (of_except_eq_ok.mpr ⟨rfl, rfl⟩)]
    dsimp only [find_signer]
    cases hscan : scan_header_for_signer device s header with
    | none => exact Or.inl ⟨_, s, bind_of_error rfl⟩
    | some signer_index =>
      rw [bind_of_ok (of_except_eq_ok.mpr ⟨rfl, rfl⟩), THROW_IF]
      by_cases hconfirm : s.G_command.non_confirm = true
      · left
        exact ⟨_, s, bind_of_error (throw_if_pos hconfirm _ _)⟩
      rw [bind_of_ok (throw_if_neg hconfirm _ _)]
      -- All checks have passed; from here on the handler only sets items and may still throw.
      rcases set_summary_run device s header parser signer_index rfl with
        ⟨t, hrun⟩ | ⟨t, hrun, hset⟩
      · exact Or.inl ⟨_, t, hrun⟩
      · exact Or.inr ⟨header, parser, signer_index, t, hrun, rfl, hset⟩

/-- **The summary never overflows**: no slot is asked for more often than it has room, the
handler of a signing command never writes through a null pointer, and when it returns, every
item has been set. -/
theorem summary_never_overflows (s : AppState) :
    (∀ header parser signer_index slot,
      slot_count slot (sign_writes device s header parser signer_index) ≤ slot.capacity) ∧
    ((handle_sign_message_parse_message device).run.run s).1 ≠ .error .stop ∧
    ∀ header signer_index t,
      (handle_sign_message_parse_message device).run.run s = (.ok (header, signer_index), t) →
      ∃ parser, parse_message_header ⟨0, s.G_command.payload⟩ = some (header, parser) ∧
        transaction_summary_reset.write_all (sign_writes device s header parser signer_index) =
          some t.G_transaction_summary := by
  refine ⟨fun header parser signer_index slot => summary_writes_count _ _ _ _ slot, ?_⟩
  rcases parse_message_ends device s with
    ⟨reply, t, hrun⟩ | ⟨header, parser, signer_index, t, hrun, hparse, hset⟩
  · rw [hrun]
    refine ⟨fun h => ?_, fun header signer_index u h => ?_⟩
    · cases h
    · cases h
  · rw [hrun]
    refine ⟨fun h => ?_, fun header' signer_index' u h => ?_⟩
    · cases h
    · cases h
      exact ⟨parser, hparse, hset⟩

end RenecLedger
