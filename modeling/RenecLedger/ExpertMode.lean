/-
Expert mode only adds.

A printer takes the display mode with its configuration. `SummaryM.AddsTo` compares two
printers that return the same: one sets everything the other one sets, in the same order,
and perhaps more in between, but nothing more in the primary slot. Every printer compares
so in the two modes (`print_transaction_adds`). The summary displays what was set, slot by
slot and in the order of setting (`write_all_held`), so the items of user mode are among
those of expert mode, in the same order.
-/
import RenecLedger.Acceptance
import RenecLedger.DisplayOrder

set_option autoImplicit false

namespace RenecLedger

/-! ## Printers that add to others -/

/-- The second printer returns the same and sets the same items in the same order, and
perhaps others in between that are not primary. -/
structure SummaryM.AddsTo {α : Type} (p q : SummaryM α) : Prop where
  result : q.result = p.result
  writes : p.writes.Sublist q.writes
  primary : slot_items .primary q.writes = slot_items .primary p.writes

/-- A printer that only sets items that are not primary, and that does not fail: it may
be left out without changing what follows. -/
structure SummaryM.Optional (p : SummaryM Unit) : Prop where
  result : p.result = some ()
  primary : slot_items .primary p.writes = []

section Rules

variable {α : Type}

/-- A printer that does not look at the mode adds nothing. -/
theorem SummaryM.AddsTo.refl (p : SummaryM α) : p.AddsTo p := ⟨rfl, List.Sublist.refl _, rfl⟩

/-- Sequences add part by part, in order. The return codes are the same, so a part is
reached in the one mode exactly when it is in the other. -/
theorem SummaryM.AddsTo.bind {p q : SummaryM Unit} {f g : Unit → SummaryM α} (h : p.AddsTo q)
    (hf : (f ()).AddsTo (g ())) : (p >>= f).AddsTo (q >>= g) := by
  cases hr : p.result with
  | none =>
    have hq : q.result = none := h.result.trans hr
    constructor <;> simp only [bind_result, bind_writes, hr, hq, Option.bind_none,
      Option.elim_none, List.append_nil]
    · exact h.writes
    · exact h.primary
  | some u =>
    have hq : q.result = some () := h.result.trans hr
    constructor <;> simp only [bind_result, bind_writes, hr, hq, Option.bind_some,
      Option.elim_some, slot_items_append]
    · exact hf.result
    · exact h.writes.append hf.writes
    · rw [h.primary, hf.primary]

/-- The second one first sets something of its own. -/
theorem SummaryM.AddsTo.extra {p q : SummaryM α} {e : SummaryM Unit} (he : e.Optional)
    (h : p.AddsTo q) : p.AddsTo (e >>= fun _ => q) := by
  constructor <;> simp only [bind_result, bind_writes, he.result, Option.bind_some,
    Option.elim_some, slot_items_append]
  · exact h.result
  · exact h.writes.trans (List.sublist_append_right _ _)
  · rw [he.primary, List.nil_append, h.primary]

/-- An optional item may be there in expert mode only. -/
theorem SummaryM.AddsTo.of_optional {e : SummaryM Unit} (he : e.Optional) :
    (pure () : SummaryM Unit).AddsTo e :=
  ⟨he.result, List.nil_sublist _, he.primary⟩

/-- Ignoring the return codes changes nothing about the items. -/
theorem SummaryM.AddsTo.ignore_rc {p q : SummaryM Unit} (h : p.AddsTo q) :
    p.ignore_rc.AddsTo q.ignore_rc := ⟨rfl, h.writes, h.primary⟩

/-- Branches on the same condition add side by side. -/
theorem SummaryM.AddsTo.ite {c : Prop} [Decidable c] {p q p' q' : SummaryM α} (h : p.AddsTo q)
    (h' : p'.AddsTo q') : (if c then p else p').AddsTo (if c then q else q') := by
  by_cases hc : c
  · rw [if_pos hc, if_pos hc]
    exact h
  · rw [if_neg hc, if_neg hc]
    exact h'

/-- Something that both may set on the way. -/
theorem SummaryM.AddsTo.ite_bind {c : Prop} [Decidable c] {e : SummaryM Unit} {p q : SummaryM α}
    (h : p.AddsTo q) :
    (if c then e >>= fun _ => p else p).AddsTo (if c then e >>= fun _ => q else q) :=
  ((AddsTo.refl e).bind h).ite h

/-- Items that stand under a condition of their own, in both modes. -/
theorem SummaryM.AddsTo.dite_bind {c : Prop} [Decidable c] {e : c → SummaryM Unit}
    {p q : SummaryM α} (h : p.AddsTo q) :
    (if hc : c then e hc >>= fun _ => p else p).AddsTo
      (if hc : c then e hc >>= fun _ => q else q) := by
  by_cases hc : c
  · rw [dif_pos hc, dif_pos hc]
    exact (AddsTo.refl _).bind h
  · rw [dif_neg hc, dif_neg hc]
    exact h

/-- A value that may be missing is missing in both modes. -/
theorem SummaryM.AddsTo.if_set {β : Type} (value : Option β) {p q : β → SummaryM Unit}
    (h : ∀ x, (p x).AddsTo (q x)) : (SummaryM.if_set value p).AddsTo (SummaryM.if_set value q) := by
  cases value with
  | none => exact AddsTo.refl _
  | some x => exact h x

/-- A general item may be left out: it is neither primary nor an error. -/
theorem optional_general (title : String) (value : SummaryItemValue) :
    (set_item .general title value).Optional := ⟨rfl, rfl⟩

/-- Two optional parts are one. -/
theorem SummaryM.Optional.bind {p : SummaryM Unit} {f : Unit → SummaryM Unit} (hp : p.Optional)
    (hf : (f ()).Optional) : (p >>= f).Optional := by
  constructor <;> simp only [bind_result, bind_writes, hp.result, Option.bind_some,
    Option.elim_some, slot_items_append]
  · exact hf.result
  · rw [hp.primary, hf.primary, List.append_nil]

end Rules

/-! ## The printers in the two modes -/

/-- The configuration in user mode, for the same message and the same signer. -/
def PrintConfig.user (print_config : PrintConfig) : PrintConfig :=
  { print_config with expert_mode := false }

/-- The same configuration in expert mode. -/
def PrintConfig.expert (print_config : PrintConfig) : PrintConfig :=
  { print_config with expert_mode := true }

section Printers

variable (print_config : PrintConfig)

/-- What only expert mode sets. -/
theorem expert_adds {e : SummaryM Unit} (he : e.Optional) :
    SummaryM.AddsTo (if print_config.user.expert_mode then e else pure ())
      (if print_config.expert.expert_mode then e else pure ()) := by
  rw [if_neg (show ¬print_config.user.expert_mode = true from Bool.false_ne_true),
    if_pos (show print_config.expert.expert_mode = true from rfl)]
  exact SummaryM.AddsTo.of_optional he

/-- What only expert mode sets on the way. -/
theorem expert_extra {title : String} {value : SummaryItemValue} {p q : SummaryM Unit}
    (h : p.AddsTo q) :
    SummaryM.AddsTo
      (if print_config.user.expert_mode then set_item .general title value >>= fun _ => p else p)
      (if print_config.expert.expert_mode then set_item .general title value >>= fun _ => q
        else q) := by
  rw [if_neg (show ¬print_config.user.expert_mode = true from Bool.false_ne_true),
    if_pos (show print_config.expert.expert_mode = true from rfl)]
  exact h.extra (optional_general title value)

/-- Expert mode shows every authority, user mode those that are not the signer. So in
user mode no authority of somebody else is left out by this. -/
theorem print_authority_adds (title : String) (authority : PubkeyRef) :
    (print_authority print_config.user title authority).AddsTo
      (print_authority print_config.expert title authority) := by
  have hexpert : print_config_show_authority print_config.expert authority = true := rfl
  rw [print_authority, print_authority, if_pos hexpert]
  by_cases h : print_config_show_authority print_config.user authority = true
  · rw [if_pos h]
    exact SummaryM.AddsTo.refl _
  · rw [if_neg h]
    exact SummaryM.AddsTo.of_optional (optional_general _ _)

/-- The payer may be added. -/
theorem print_system_create_account_info_adds (title : Option String)
    (info : SystemCreateAccountInfo) :
    (print_system_create_account_info title info print_config.user).AddsTo
      (print_system_create_account_info title info print_config.expert) := by
  unfold print_system_create_account_info
  refine (SummaryM.AddsTo.refl _).bind ((SummaryM.AddsTo.refl _).bind ?_)
  exact print_authority_adds print_config _ _

/-- The base and the seed, which expert mode adds in several printers. -/
theorem base_and_seed_optional (base : PubkeyRef) (seed : SizedString) :
    SummaryM.Optional (do
      summary_item_set_pubkey .general "Base" base
      summary_item_set_sized_string .general "Seed" seed) :=
  (optional_general _ _).bind (optional_general _ _)

/-- The payer, the base and the seed may be added. -/
theorem print_system_create_account_with_seed_info_adds (title : Option String)
    (info : SystemCreateAccountWithSeedInfo) :
    (print_system_create_account_with_seed_info title info print_config.user).AddsTo
      (print_system_create_account_with_seed_info title info print_config.expert) := by
  unfold print_system_create_account_with_seed_info
  refine (SummaryM.AddsTo.refl _).bind ((SummaryM.AddsTo.refl _).bind ?_)
  refine (print_authority_adds print_config _ _).bind ?_
  exact expert_adds print_config (base_and_seed_optional _ _)

/-- The base and the seed are added. -/
theorem print_system_allocate_with_seed_info_adds (title : Option String)
    (info : SystemAllocateWithSeedInfo) :
    (print_system_allocate_with_seed_info title info print_config.user).AddsTo
      (print_system_allocate_with_seed_info title info print_config.expert) := by
  unfold print_system_allocate_with_seed_info
  refine (SummaryM.AddsTo.refl _).bind ((SummaryM.AddsTo.refl _).bind ?_)
  exact expert_adds print_config (base_and_seed_optional _ _)

/-- Expert mode adds to the system printer of every kind. -/
theorem print_system_info_adds (info : SystemInfo) :
    (print_system_info info print_config.user).AddsTo
      (print_system_info info print_config.expert) := by
  have hauthority := print_authority_adds print_config
  cases info with
  | SystemTransfer transfer =>
    exact (SummaryM.AddsTo.refl _).bind ((hauthority _ _).bind (SummaryM.AddsTo.refl _))
  | SystemAdvanceNonceAccount advance_nonce =>
    exact (SummaryM.AddsTo.refl _).bind (hauthority _ _)
  | SystemCreateAccount create_account =>
    exact print_system_create_account_info_adds print_config _ _
  | SystemCreateAccountWithSeed create_account_with_seed =>
    exact print_system_create_account_with_seed_info_adds print_config _ _
  | SystemWithdrawNonceAccount withdraw_nonce =>
    refine (SummaryM.AddsTo.refl _).bind ((SummaryM.AddsTo.refl _).bind ?_)
    exact (SummaryM.AddsTo.refl _).bind (hauthority _ _)
  | SystemAuthorizeNonceAccount authorize_nonce =>
    exact (SummaryM.AddsTo.refl _).bind ((SummaryM.AddsTo.refl _).bind (hauthority _ _))
  | SystemAllocateWithSeed allocate_with_seed =>
    exact print_system_allocate_with_seed_info_adds print_config _ _
  | _ => exact SummaryM.AddsTo.refl _

/-- The authority may be added. -/
theorem print_delegate_stake_info_adds (title : Option String) (info : StakeDelegateInfo) :
    (print_delegate_stake_info title info print_config.user).AddsTo
      (print_delegate_stake_info title info print_config.expert) := by
  unfold print_delegate_stake_info
  refine (SummaryM.AddsTo.refl _).bind ?_
  exact (print_authority_adds print_config _ _).bind (SummaryM.AddsTo.refl _)

/-- Expert mode says that there is no lockup, where user mode says nothing. -/
theorem print_stake_initialize_info_adds (title : Option String) (info : StakeInitializeInfo) :
    (print_stake_initialize_info title info print_config.user).AddsTo
      (print_stake_initialize_info title info print_config.expert) := by
  unfold print_stake_initialize_info
  refine (SummaryM.AddsTo.refl _).bind ?_
  by_cases hlockup : info.lockup.unix_timestamp > 0 ∨ info.lockup.epoch > 0
  · simp only [dif_pos hlockup]
    exact SummaryM.AddsTo.refl _
  · -- without a lockup, only expert mode says so
    simp only [dif_neg hlockup]
    have hnone := expert_adds print_config
      (optional_general "Lockup" (.SummaryItemString "None"))
    refine SummaryM.AddsTo.ite ((SummaryM.AddsTo.refl _).bind hnone) ?_
    exact (SummaryM.AddsTo.refl _).bind ((SummaryM.AddsTo.refl _).bind hnone)

/-- The custodian may be added. -/
theorem print_stake_set_lockup_info_adds (info : StakeSetLockupInfo) :
    (print_stake_set_lockup_info info print_config.user).AddsTo
      (print_stake_set_lockup_info info print_config.expert) := by
  unfold print_stake_set_lockup_info
  refine (SummaryM.AddsTo.refl _).bind ?_
  have hauthority := print_authority_adds print_config "Authorized by" info.custodian
  exact (hauthority.dite_bind.ite_bind).ite_bind

/-- Expert mode adds to the stake printer of every kind. -/
theorem print_stake_info_adds (info : StakeInfo) :
    (print_stake_info info print_config.user).AddsTo
      (print_stake_info info print_config.expert) := by
  have hauthority := print_authority_adds print_config
  cases info with
  | StakeDelegate delegate_stake => exact print_delegate_stake_info_adds print_config _ _
  | StakeInitialize init => exact print_stake_initialize_info_adds print_config _ _
  | StakeInitializeChecked init => exact print_stake_initialize_info_adds print_config _ _
  | StakeWithdraw withdraw =>
    refine (SummaryM.AddsTo.refl _).bind ((SummaryM.AddsTo.refl _).bind ?_)
    exact (SummaryM.AddsTo.refl _).bind (hauthority _ _)
  | StakeAuthorize authorize =>
    refine (SummaryM.AddsTo.refl _).bind ((SummaryM.AddsTo.refl _).bind ?_)
    exact (hauthority _ _).bind (SummaryM.AddsTo.if_set _ fun _ => hauthority _ _)
  | StakeAuthorizeChecked authorize =>
    refine (SummaryM.AddsTo.refl _).bind ((SummaryM.AddsTo.refl _).bind ?_)
    exact (hauthority _ _).bind (SummaryM.AddsTo.if_set _ fun _ => hauthority _ _)
  | StakeDeactivate deactivate =>
    exact (SummaryM.AddsTo.refl _).bind (hauthority _ _)
  | StakeSetLockup set_lockup => exact print_stake_set_lockup_info_adds print_config _
  | StakeSetLockupChecked set_lockup => exact print_stake_set_lockup_info_adds print_config _
  | StakeSplit split => exact (SummaryM.AddsTo.refl _).bind (hauthority _ _)
  | StakeMerge merge =>
    exact (SummaryM.AddsTo.refl _).bind ((SummaryM.AddsTo.refl _).bind (hauthority _ _))
  | _ => exact SummaryM.AddsTo.refl _

/-- Expert mode adds to the vote printer of every kind. -/
theorem print_vote_info_adds (info : VoteInfo) :
    (print_vote_info info print_config.user).AddsTo
      (print_vote_info info print_config.expert) := by
  have hauthority := print_authority_adds print_config
  cases info with
  | VoteWithdraw withdraw =>
    refine (SummaryM.AddsTo.refl _).bind ((SummaryM.AddsTo.refl _).bind ?_)
    exact (SummaryM.AddsTo.refl _).bind (hauthority _ _)
  | VoteAuthorize authorize =>
    exact (SummaryM.AddsTo.refl _).bind ((SummaryM.AddsTo.refl _).bind (hauthority _ _))
  | VoteAuthorizeChecked authorize =>
    exact (SummaryM.AddsTo.refl _).bind ((SummaryM.AddsTo.refl _).bind (hauthority _ _))
  | VoteUpdateValidatorId update_validator_id =>
    exact (SummaryM.AddsTo.refl _).bind ((SummaryM.AddsTo.refl _).bind (hauthority _ _))
  | VoteUpdateCommission update_commission =>
    exact (SummaryM.AddsTo.refl _).bind ((SummaryM.AddsTo.refl _).bind (hauthority _ _))
  | _ => exact SummaryM.AddsTo.refl _

/-- A single owner may be added; a multisig is shown in both modes. -/
theorem print_rpl_token_sign_adds (sign : RplTokenSign) :
    (print_rpl_token_sign sign print_config.user).AddsTo
      (print_rpl_token_sign sign print_config.expert) := by
  cases sign with
  | RplTokenSignKindSingle signer => exact print_authority_adds print_config _ _
  | RplTokenSignKindMulti account signers => exact SummaryM.AddsTo.refl _

/-- The owner may be added. -/
theorem print_rpl_token_transfer_info_adds (info : RplTokenTransferInfo) (primary : Bool) :
    (print_rpl_token_transfer_info info print_config.user primary).AddsTo
      (print_rpl_token_transfer_info info print_config.expert primary) := by
  unfold print_rpl_token_transfer_info
  refine (SummaryM.AddsTo.refl _).bind ((SummaryM.AddsTo.refl _).bind ?_)
  refine (SummaryM.AddsTo.refl _).bind ?_
  exact (print_rpl_token_sign_adds print_config _).ignore_rc

/-- Expert mode adds to the token printer of every kind. -/
theorem print_rpl_token_info_adds (info : RplTokenInfo) :
    (print_rpl_token_info info print_config.user).AddsTo
      (print_rpl_token_info info print_config.expert) := by
  have hsign := fun sign => (print_rpl_token_sign_adds print_config sign).ignore_rc
  cases info with
  | Revoke revoke => exact (SummaryM.AddsTo.refl _).bind (hsign _)
  | SetAuthority set_owner =>
    refine (SummaryM.AddsTo.refl _).bind ((SummaryM.AddsTo.refl _).bind ?_)
    exact (SummaryM.AddsTo.refl _).bind (hsign _)
  | CloseAccount close_account =>
    exact (SummaryM.AddsTo.refl _).bind ((SummaryM.AddsTo.refl _).bind (hsign _))
  | FreezeAccount freeze_account =>
    exact (SummaryM.AddsTo.refl _).bind (expert_extra print_config (hsign _))
  | ThawAccount thaw_account =>
    exact (SummaryM.AddsTo.refl _).bind (expert_extra print_config (hsign _))
  | TransferChecked transfer => exact print_rpl_token_transfer_info_adds print_config _ _
  | ApproveChecked approve =>
    refine (SummaryM.AddsTo.refl _).bind ((SummaryM.AddsTo.refl _).bind ?_)
    exact (SummaryM.AddsTo.refl _).bind (hsign _)
  | MintToChecked mint_to =>
    refine (SummaryM.AddsTo.refl _).bind (expert_extra print_config ?_)
    exact (SummaryM.AddsTo.refl _).bind (hsign _)
  | BurnChecked burn =>
    exact (SummaryM.AddsTo.refl _).bind ((SummaryM.AddsTo.refl _).bind (hsign _))
  | _ => exact SummaryM.AddsTo.refl _

/-! ## The patterns in the two modes -/

/-- An account that is created, and what else is set about it. -/
theorem print_create_adds (title : String) (ca : SystemCreateAccountInfo) {p q : SummaryM Unit}
    (h : p.AddsTo q) :
    SummaryM.AddsTo
      (do
        summary_item_set_pubkey .primary title ca.to_
        print_system_create_account_info none ca print_config.user
        p)
      (do
        summary_item_set_pubkey .primary title ca.to_
        print_system_create_account_info none ca print_config.expert
        q) :=
  (SummaryM.AddsTo.refl _).bind
    ((print_system_create_account_info_adds print_config _ _).bind h)

/-- The front half that the patterns with a seed share. -/
theorem print_create_with_seed_adds (title : String) (cws : SystemCreateAccountWithSeedInfo)
    {p q : SummaryM Unit} (h : p.AddsTo q) :
    SummaryM.AddsTo
      (do
        summary_item_set_pubkey .primary title cws.to_
        print_system_create_account_with_seed_info none cws print_config.user
        p)
      (do
        summary_item_set_pubkey .primary title cws.to_
        print_system_create_account_with_seed_info none cws print_config.expert
        q) :=
  (SummaryM.AddsTo.refl _).bind
    ((print_system_create_account_with_seed_info_adds print_config _ _).bind h)

/-- The rear half that the two delegations share. -/
theorem print_initialize_and_delegate_adds (si : StakeInitializeInfo) (sd : StakeDelegateInfo) :
    SummaryM.AddsTo
      (do
        print_stake_initialize_info none si print_config.user
        print_delegate_stake_info none sd print_config.user)
      (do
        print_stake_initialize_info none si print_config.expert
        print_delegate_stake_info none sd print_config.expert) :=
  (print_stake_initialize_info_adds print_config _ _).bind
    (print_delegate_stake_info_adds print_config _ _)

/-- The base, the seed and the authority may be added to a split. -/
theorem print_split_adds (base : PubkeyRef) (seed : SizedString) (ss : StakeSplitInfo) :
    (print_stake_split_with_seed.print_split print_config.user base seed ss).AddsTo
      (print_stake_split_with_seed.print_split print_config.expert base seed ss) := by
  unfold print_stake_split_with_seed.print_split
  refine (SummaryM.AddsTo.refl _).bind ?_
  have hauthority := print_authority_adds print_config "Authorized by" ss.authority
  have hseed := hauthority.extra (optional_general "Seed" (.SummaryItemSizedString seed))
  exact hseed.extra (optional_general "Base" (.SummaryItemPubkey base))

/-- The authority may be added; the order is checked in both modes alike. -/
theorem print_stake_authorize_both_adds (staker withdrawer : StakeAuthorizeInfo) :
    (print_stake_authorize_both print_config.user [.ProgramIdStake (.StakeAuthorize staker),
      .ProgramIdStake (.StakeAuthorize withdrawer)]).AddsTo
    (print_stake_authorize_both print_config.expert [.ProgramIdStake (.StakeAuthorize staker),
      .ProgramIdStake (.StakeAuthorize withdrawer)]) := by
  have hauthority := print_authority_adds print_config "Authorized by" withdrawer.authority
  refine (SummaryM.AddsTo.refl _).bind ((SummaryM.AddsTo.refl _).bind ?_)
  refine (SummaryM.AddsTo.refl _).bind (SummaryM.AddsTo.ite ?_ ?_)
  · exact (SummaryM.AddsTo.refl _).bind ((SummaryM.AddsTo.refl _).bind hauthority)
  · refine (SummaryM.AddsTo.refl _).bind ((SummaryM.AddsTo.refl _).bind ?_)
    exact (SummaryM.AddsTo.refl _).bind hauthority

/-- As for the stake program. -/
theorem print_vote_authorize_both_adds (voter withdrawer : VoteAuthorizeInfo) :
    (print_vote_authorize_both print_config.user [.ProgramIdVote (.VoteAuthorize voter),
      .ProgramIdVote (.VoteAuthorize withdrawer)]).AddsTo
    (print_vote_authorize_both print_config.expert [.ProgramIdVote (.VoteAuthorize voter),
      .ProgramIdVote (.VoteAuthorize withdrawer)]) := by
  have hauthority := print_authority_adds print_config "Authorized by" withdrawer.authority
  refine (SummaryM.AddsTo.refl _).bind ((SummaryM.AddsTo.refl _).bind ?_)
  refine (SummaryM.AddsTo.refl _).bind (SummaryM.AddsTo.ite ?_ ?_)
  · exact (SummaryM.AddsTo.refl _).bind hauthority
  · exact (SummaryM.AddsTo.refl _).bind ((SummaryM.AddsTo.refl _).bind hauthority)

/-- What is set at the end about the funding of a token account. -/
theorem print_funding_adds (ca : SystemCreateAccountInfo) :
    SummaryM.AddsTo
      (do
        print_authority print_config.user "Funded by" ca.from_
        summary_item_set_amount .general "Funded with" ca.lamports)
      (do
        print_authority print_config.expert "Funded by" ca.from_
        summary_item_set_amount .general "Funded with" ca.lamports) :=
  (print_authority_adds print_config _ _).bind (SummaryM.AddsTo.refl _)

/-- The payer may be added. -/
theorem print_rpl_token_create_account_adds (ca : SystemCreateAccountInfo)
    (ia : RplTokenInitializeAccountInfo) :
    (print_rpl_token_create_account print_config.user
      [.ProgramIdSystem (.SystemCreateAccount ca),
        .ProgramIdRplToken (.InitializeAccount ia)]).AddsTo
    (print_rpl_token_create_account print_config.expert
      [.ProgramIdSystem (.SystemCreateAccount ca),
        .ProgramIdRplToken (.InitializeAccount ia)]) := by
  refine (SummaryM.AddsTo.refl _).bind ((SummaryM.AddsTo.refl _).bind ?_)
  exact (SummaryM.AddsTo.refl _).bind (print_funding_adds print_config ca)

/-- Expert mode adds to every instruction on its own. -/
theorem print_single_adds (info : InstructionInfo) :
    (print_transaction_nonce_processed print_config.user [info]).AddsTo
      (print_transaction_nonce_processed print_config.expert [info]) := by
  cases info with
  | ProgramIdSystem system => exact print_system_info_adds print_config system
  | ProgramIdStake stake => exact print_stake_info_adds print_config stake
  | ProgramIdVote vote => exact print_vote_info_adds print_config vote
  | ProgramIdRplToken rpl_token => exact print_rpl_token_info_adds print_config rpl_token
  | ProgramIdRplAssociatedTokenAccount create => exact SummaryM.AddsTo.refl _
  | ProgramIdRplMemo => exact SummaryM.AddsTo.refl _
  | ProgramIdUnknown => exact SummaryM.AddsTo.refl _

/-- Expert mode adds to every recognised transaction, one case a table. Each case is the
lemma about the printer of its pattern. -/
theorem Recognised.adds {infos : List InstructionInfo} (h : Recognised infos) :
    (print_transaction_nonce_processed print_config.user infos).AddsTo
      (print_transaction_nonce_processed print_config.expert infos) := by
  have hinit := print_stake_initialize_info_adds print_config none
  -- Only printers that look at the mode have a lemma; for the others the two sides are
  -- one term, which adds nothing to itself.
  cases h with
  | single h => exact print_single_adds print_config _
  | create_stake_account ca si =>
    exact print_create_adds print_config "Create stake acct" ca (hinit si)
  | create_stake_account_checked ca si =>
    exact print_create_adds print_config "Create stake acct" ca (hinit si)
  | create_stake_account_with_seed cws si =>
    exact print_create_with_seed_adds print_config "Create stake acct" cws (hinit si)
  | create_stake_account_with_seed_checked cws si =>
    exact print_create_with_seed_adds print_config "Create stake acct" cws (hinit si)
  | create_nonce_account ca ni =>
    exact print_create_adds print_config "Create nonce acct" ca (SummaryM.AddsTo.refl _)
  | create_nonce_account_with_seed cws ni =>
    exact print_create_with_seed_adds print_config "Create nonce acct" cws
      (SummaryM.AddsTo.refl _)
  | create_vote_account ca vi =>
    exact print_create_adds print_config "Create vote acct" ca (SummaryM.AddsTo.refl _)
  | create_vote_account_with_seed cws vi =>
    exact print_create_with_seed_adds print_config "Create vote acct" cws
      (SummaryM.AddsTo.refl _)
  | stake_authorize_both staker withdrawer hs hw =>
    exact print_stake_authorize_both_adds print_config staker withdrawer
  | stake_authorize_checked_both staker withdrawer hs hw =>
    exact print_stake_authorize_both_adds print_config staker withdrawer
  | vote_authorize_both voter withdrawer hv hw =>
    exact print_vote_authorize_both_adds print_config voter withdrawer
  | vote_authorize_checked_both voter withdrawer hv hw =>
    exact print_vote_authorize_both_adds print_config voter withdrawer
  | stake_split_with_seed_v1_1 aws ss =>
    exact print_split_adds print_config aws.base aws.seed ss
  | stake_split_v1_2 ca ss =>
    exact print_single_adds print_config (.ProgramIdStake (.StakeSplit ss))
  | stake_split_with_seed_v1_2 cws ss =>
    exact print_split_adds print_config cws.base cws.seed ss
  | rpl_token_create_mint ca im =>
    refine (SummaryM.AddsTo.refl _).bind ((SummaryM.AddsTo.refl _).bind ?_)
    refine (SummaryM.AddsTo.refl _).bind ((SummaryM.AddsTo.refl _).bind ?_)
    exact print_funding_adds print_config ca
  | rpl_token_create_account ca ia =>
    exact print_rpl_token_create_account_adds print_config ca ia
  | rpl_token_create_account2 ca ia =>
    exact print_rpl_token_create_account_adds print_config ca ia
  | rpl_token_create_multisig ca im =>
    refine (SummaryM.AddsTo.refl _).bind ((SummaryM.AddsTo.refl _).bind ?_)
    exact print_funding_adds print_config ca
  | rpl_associated_token_account_create_with_transfer create transfer =>
    refine (SummaryM.AddsTo.refl _).bind ?_
    exact (print_rpl_token_transfer_info_adds print_config transfer false).ignore_rc
  | create_stake_account_and_delegate ca si sd =>
    exact print_create_adds print_config "Delegate from" ca
      (print_initialize_and_delegate_adds print_config si sd)
  | create_stake_account_with_seed_and_delegate cws si sd =>
    exact print_create_with_seed_adds print_config "Delegate from" cws
      (print_initialize_and_delegate_adds print_config si sd)
  | stake_split_v1_1 al as ss =>
    exact print_single_adds print_config (.ProgramIdStake (.StakeSplit ss))

/-- The two nonce items are added. -/
theorem nonce_sentinel_adds (nonce : SystemAdvanceNonceInfo) :
    (print_system_nonced_transaction_sentinel nonce print_config.user).AddsTo
      (print_system_nonced_transaction_sentinel nonce print_config.expert) := by
  unfold print_system_nonced_transaction_sentinel
  exact expert_adds print_config ⟨rfl, rfl⟩

/-- Expert mode adds the nonce items, and what the printer of the pattern adds. -/
theorem print_transaction_adds {infos : List InstructionInfo}
    (h : Recognised (strip_nonce infos)) :
    (print_transaction print_config.user infos).AddsTo
      (print_transaction print_config.expert infos) := by
  have hadds := h.adds print_config
  unfold print_transaction
  split
  · exact (nonce_sentinel_adds print_config _).ignore_rc.bind hadds
  · rename_i hinfos
    have hstrip : strip_nonce infos = infos := by
      rw [strip_nonce]
      exact hinfos
    rwa [hstrip] at hadds

end Printers

/-! ## The two summaries -/

/-- The display order of two printers of which one adds to the other. The order is fixed
by the slots, so a sublist of writes leads to a sublist of items. -/
theorem SummaryM.AddsTo.items {p q : SummaryM Unit} (h : p.AddsTo q) {r r' : Option Unit}
    {s t : TransactionSummary} (hs : p.exec transaction_summary_reset = some (r, s))
    (ht : q.exec transaction_summary_reset = some (r', t)) :
    s.items.Sublist t.items ∧ s.primary = t.primary := by
  have hslot : ∀ slot, (s.held slot).Sublist (t.held slot) := by
    intro slot
    rw [SummaryM.exec_held hs, SummaryM.exec_held ht]
    exact (h.writes.filter _).map _
  refine ⟨?_, ?_⟩
  · rw [items_eq_held, items_eq_held]
    exact ((((hslot _).append (hslot _)).append (hslot _)).append (hslot _)).append (hslot _)
  · have hprimary : s.held .primary = t.held .primary := by
      rw [SummaryM.exec_held hs, SummaryM.exec_held ht, h.primary]
    simpa [TransactionSummary.held] using congrArg List.head? hprimary

/-- **Expert mode only adds.** A message is accepted in user mode exactly when it is in
expert mode, and then the items of user mode are shown in expert mode too, in the same
order, with the same primary item. -/
theorem expert_mode_adds (header : MessageHeader) (message_body : Parser)
    (signer_pubkey : PubkeyRef) :
    ((∃ summary, accepts message_body ⟨header, false, signer_pubkey⟩ summary) ↔
      ∃ summary, accepts message_body ⟨header, true, signer_pubkey⟩ summary) ∧
    ∀ user expert, accepts message_body ⟨header, false, signer_pubkey⟩ user →
      accepts message_body ⟨header, true, signer_pubkey⟩ expert →
      user.items.Sublist expert.items ∧ user.primary = expert.primary := by
  constructor
  · rw [accepts_iff, accepts_iff]
  · intro user expert huser hexpert
    obtain ⟨infos, hparse, hrecognised⟩ := accepts_iff.mp ⟨user, huser⟩
    have hadds := print_transaction_adds ⟨header, false, signer_pubkey⟩ hrecognised
    have hparse' : (parse_message_body (PrintConfig.mk header true signer_pubkey).header).run'
        message_body = some infos := hparse
    exact hadds.items ((accepts_iff_print hparse).mp huser)
      ((accepts_iff_print hparse').mp hexpert)

end RenecLedger
