/-
Exact acceptance.

`process_message_body_accepts` is the complete condition under which a message body
is accepted, in the terms of the message: its instructions as the parser reads them,
its account table, and the sequence of its instructions that are not memos.
-/
import RenecLedger.MessageSpec

set_option autoImplicit false

open ReaderLib

namespace RenecLedger

/-! ## What the programs' parsers return is supported -/

section Supported

variable {instruction : Instruction} {header : MessageHeader}

theorem parse_system_instructions_supported {info : SystemInfo}
    (h : parse_system_instructions instruction header = some info) :
    info ≠ .SystemAssignWithSeed := by
  rintro rfl
  obtain ⟨last, h⟩ := run'_eq_some.mp h
  obtain ⟨kind, parser, -, h⟩ := bind_eq_some.mp h
  cases kind <;> simp [map_eq_some, bail] at h

theorem parse_stake_instructions_supported {info : StakeInfo}
    (h : parse_stake_instructions instruction header = some info) :
    info ≠ .StakeAuthorizeWithSeed ∧ info ≠ .StakeAuthorizeCheckedWithSeed := by
  obtain ⟨last, h⟩ := run'_eq_some.mp h
  obtain ⟨kind, parser, -, h⟩ := bind_eq_some.mp h
  constructor <;> (rintro rfl; cases kind <;> simp [map_eq_some, bail] at h)

theorem parse_vote_instructions_supported {info : VoteInfo}
    (h : parse_vote_instructions instruction header = some info) :
    info ≠ .VoteVote ∧ info ≠ .VoteSwitchVote := by
  obtain ⟨last, h⟩ := run'_eq_some.mp h
  obtain ⟨kind, parser, -, h⟩ := bind_eq_some.mp h
  constructor <;> (rintro rfl; cases kind <;> simp [map_eq_some, bail] at h)

theorem parse_rpl_token_instructions_supported {info : RplTokenInfo}
    (h : parse_rpl_token_instructions instruction header = some info) :
    info ≠ .Transfer ∧ info ≠ .Approve ∧ info ≠ .MintTo ∧ info ≠ .Burn := by
  obtain ⟨last, h⟩ := run'_eq_some.mp h
  obtain ⟨kind, parser, -, h⟩ := bind_eq_some.mp h
  refine ⟨?_, ?_, ?_, ?_⟩ <;>
    (rintro rfl; cases kind <;> simp [map_eq_some, bail] at h)

/-- An instruction that its program accepts has an info that can be printed. -/
theorem parse_instruction_info_supported
    (h : accepted_by_program instruction header = true) :
    (parse_instruction_info instruction header).supported := by
  unfold accepted_by_program at h
  unfold parse_instruction_info
  cases hid : instruction_program_id instruction header <;> rw [hid] at h <;> simp only at h ⊢
  · cases h
  · obtain ⟨info, hi⟩ := Option.isSome_iff_exists.mp h
    rw [hi]
    exact parse_stake_instructions_supported hi
  · obtain ⟨info, hi⟩ := Option.isSome_iff_exists.mp h
    rw [hi]
    exact parse_system_instructions_supported hi
  · obtain ⟨info, hi⟩ := Option.isSome_iff_exists.mp h
    rw [hi]
    exact parse_vote_instructions_supported hi
  · obtain ⟨info, hi⟩ := Option.isSome_iff_exists.mp h
    rw [hi]
    exact parse_rpl_token_instructions_supported hi
  · obtain ⟨info, hi⟩ := Option.isSome_iff_exists.mp h
    rw [hi]
    exact trivial
  · cases h

end Supported

/-! ## The tables -/

/-- A single instruction, or the instructions of one of the tables of two or three; the
authorize pairs in order. -/
def Displayable (infos : List InstructionInfo) : Prop :=
  ((∃ info, infos = [info]) ∨
    ∃ briefs ∈ two_instruction_briefs ++ three_instruction_briefs,
      infos.length = briefs.length ∧
        instruction_infos_match_briefs infos briefs briefs.length = true) ∧
  authorize_in_order infos = true

theorem two_instruction_briefs_length {briefs : List InstructionBrief}
    (h : briefs ∈ two_instruction_briefs) : briefs.length = 2 := by
  have hall : ∀ b ∈ two_instruction_briefs, b.length = 2 := by decide
  exact hall briefs h

theorem three_instruction_briefs_length {briefs : List InstructionBrief}
    (h : briefs ∈ three_instruction_briefs) : briefs.length = 3 := by
  have hall : ∀ b ∈ three_instruction_briefs, b.length = 3 := by decide
  exact hall briefs h

theorem authorize_in_order_single (info : InstructionInfo) :
    authorize_in_order [info] = true := by
  cases info with
  | ProgramIdStake stake => cases stake <;> rfl
  | ProgramIdVote vote => cases vote <;> rfl
  | _ => rfl

/-- For infos that the parsers can return, being displayable is being recognised. -/
theorem displayable_iff_recognised {infos : List InstructionInfo}
    (hall : ∀ info ∈ infos, info.supported) : Displayable infos ↔ Recognised infos := by
  constructor
  · rintro ⟨⟨info, rfl⟩ | ⟨briefs, hb, hlen, hm⟩, ho⟩
    · exact .single (hall info List.mem_cons_self)
    -- The matched patterns are told apart by their lengths only, so the number of infos
    -- is found first and the patterns of that length are tried afterwards.
    · rcases List.mem_append.mp hb with hb | hb
      · rw [two_instruction_briefs_length hb] at hlen hm
        obtain ⟨info₁, info₂, rfl⟩ := List.length_eq_two.mp hlen
        exact .of_two_briefs hb hm ho
      · rw [three_instruction_briefs_length hb] at hlen hm
        obtain ⟨info₁, info₂, info₃, rfl⟩ := List.length_eq_three.mp hlen
        exact .of_three_briefs hb hm
  · intro h
    cases h with
    | @single info h => exact ⟨Or.inl ⟨info, rfl⟩, authorize_in_order_single info⟩
    | stake_authorize_both staker withdrawer hs hw =>
      exact ⟨Or.inr ⟨stake_authorize_both_brief, by decide, rfl, rfl⟩, decide_eq_true ⟨hs, hw⟩⟩
    | stake_authorize_checked_both staker withdrawer hs hw =>
      exact ⟨Or.inr ⟨stake_authorize_checked_both_brief, by decide, rfl, rfl⟩,
        decide_eq_true ⟨hs, hw⟩⟩
    | vote_authorize_both voter withdrawer hv hw =>
      exact ⟨Or.inr ⟨vote_authorize_both_brief, by decide, rfl, rfl⟩, decide_eq_true ⟨hv, hw⟩⟩
    | vote_authorize_checked_both voter withdrawer hv hw =>
      exact ⟨Or.inr ⟨vote_authorize_checked_both_brief, by decide, rfl, rfl⟩,
        decide_eq_true ⟨hv, hw⟩⟩
    | create_stake_account =>
      exact ⟨Or.inr ⟨create_stake_account_brief, by decide, rfl, rfl⟩, rfl⟩
    | create_stake_account_checked =>
      exact ⟨Or.inr ⟨create_stake_account_checked_brief, by decide, rfl, rfl⟩, rfl⟩
    | create_stake_account_with_seed =>
      exact ⟨Or.inr ⟨create_stake_account_with_seed_brief, by decide, rfl, rfl⟩, rfl⟩
    | create_stake_account_with_seed_checked =>
      exact ⟨Or.inr ⟨create_stake_account_with_seed_checked_brief, by decide, rfl, rfl⟩, rfl⟩
    | create_nonce_account =>
      exact ⟨Or.inr ⟨create_nonce_account_brief, by decide, rfl, rfl⟩, rfl⟩
    | create_nonce_account_with_seed =>
      exact ⟨Or.inr ⟨create_nonce_account_with_seed_brief, by decide, rfl, rfl⟩, rfl⟩
    | create_vote_account =>
      exact ⟨Or.inr ⟨create_vote_account_brief, by decide, rfl, rfl⟩, rfl⟩
    | create_vote_account_with_seed =>
      exact ⟨Or.inr ⟨create_vote_account_with_seed_brief, by decide, rfl, rfl⟩, rfl⟩
    | stake_split_with_seed_v1_1 =>
      exact ⟨Or.inr ⟨stake_split_with_seed_brief_v1_1, by decide, rfl, rfl⟩, rfl⟩
    | stake_split_v1_2 => exact ⟨Or.inr ⟨stake_split_brief_v1_2, by decide, rfl, rfl⟩, rfl⟩
    | stake_split_with_seed_v1_2 =>
      exact ⟨Or.inr ⟨stake_split_with_seed_brief_v1_2, by decide, rfl, rfl⟩, rfl⟩
    | rpl_token_create_mint =>
      exact ⟨Or.inr ⟨rpl_token_create_mint_brief, by decide, rfl, rfl⟩, rfl⟩
    | rpl_token_create_account =>
      exact ⟨Or.inr ⟨rpl_token_create_account_brief, by decide, rfl, rfl⟩, rfl⟩
    | rpl_token_create_account2 =>
      exact ⟨Or.inr ⟨rpl_token_create_account2_brief, by decide, rfl, rfl⟩, rfl⟩
    | rpl_token_create_multisig =>
      exact ⟨Or.inr ⟨rpl_token_create_multisig_brief, by decide, rfl, rfl⟩, rfl⟩
    | rpl_associated_token_account_create_with_transfer =>
      exact ⟨Or.inr ⟨rpl_associated_token_account_create_with_transfer_brief, by decide, rfl,
        rfl⟩, rfl⟩
    | create_stake_account_and_delegate =>
      exact ⟨Or.inr ⟨create_stake_account_and_delegate_brief, by decide, rfl, rfl⟩, rfl⟩
    | create_stake_account_with_seed_and_delegate =>
      exact ⟨Or.inr ⟨create_stake_account_with_seed_and_delegate_brief, by decide, rfl, rfl⟩, rfl⟩
    | stake_split_v1_1 => exact ⟨Or.inr ⟨stake_split_brief_v1_1, by decide, rfl, rfl⟩, rfl⟩

/-! ## Acceptance -/

/-- Processing returns 0 and leaves a summary, started from a reset one. -/
def accepts (message_body : Parser) (print_config : PrintConfig) (summary : TransactionSummary) :
    Prop :=
  (process_message_body message_body print_config).exec transaction_summary_reset =
    some (some (), summary)

/-- The infos of the body when it parses, and how they are printed when it is
accepted. -/
theorem accepts_iff {message_body : Parser} {print_config : PrintConfig} :
    (∃ summary, accepts message_body print_config summary) ↔
      ∃ infos, (parse_message_body print_config.header).run' message_body = some infos ∧
        Recognised (strip_nonce (display_instruction_info infos)) := by
  unfold accepts process_message_body
  cases hp : (parse_message_body print_config.header).run' message_body with
  | none => simp [SummaryM.exec, SummaryM.fail]
  | some infos =>
    simp only [Option.some.injEq, exists_eq_left']
    constructor
    · rintro ⟨summary, h⟩
      rw [SummaryM.exec, Option.map_eq_some_iff] at h
      obtain ⟨t, -, ht⟩ := h
      exact (print_transaction_ok print_config).mp (Prod.mk.inj ht).1
    · intro h
      obtain ⟨summary, hexec⟩ := SummaryM.exec_of_fits (print_transaction_fits print_config h)
      rw [(print_transaction_ok print_config).mpr h] at hexec
      exact ⟨summary, hexec⟩

/-- Accepting a body that parses is printing its infos. -/
theorem accepts_iff_print {message_body : Parser} {print_config : PrintConfig}
    {infos : List InstructionInfo} {summary : TransactionSummary}
    (hp : (parse_message_body print_config.header).run' message_body = some infos) :
    accepts message_body print_config summary ↔
      (print_transaction print_config (display_instruction_info infos)).exec
        transaction_summary_reset = some (some (), summary) := by
  simp only [accepts, process_message_body, hp]

/-- The summary of an accepted body holds what `print_transaction` sets. -/
theorem accepts_items {message_body : Parser} {print_config : PrintConfig}
    {infos : List InstructionInfo} {summary : TransactionSummary}
    (hp : (parse_message_body print_config.header).run' message_body = some infos)
    (h : accepts message_body print_config summary) (P : SummaryItem → Prop) :
    (∃ item ∈ summary.items, P item) ↔
      (print_transaction print_config (display_instruction_info infos)).sets P := by
  rw [accepts_iff_print hp] at h
  exact SummaryM.exec_items h P

/-- The infos of an accepted body are recognised. -/
theorem accepts_recognised {message_body : Parser} {print_config : PrintConfig}
    {infos : List InstructionInfo} {summary : TransactionSummary}
    (hp : (parse_message_body print_config.header).run' message_body = some infos)
    (h : accepts message_body print_config summary) :
    Recognised (strip_nonce (display_instruction_info infos)) := by
  obtain ⟨infos', hp', hr⟩ := accepts_iff.mp ⟨summary, h⟩
  rw [hp] at hp'
  cases hp'
  exact hr

/-- The infos of an accepted body are those of the instructions it reads as. -/
theorem accepts_infos {message_body : Parser} {print_config : PrintConfig}
    {summary : TransactionSummary} {instructions : List Instruction}
    (h : accepts message_body print_config summary)
    (hread : BodyReads print_config.header message_body instructions) :
    (parse_message_body print_config.header).run' message_body =
      some (instructions.map (parse_instruction_info · print_config.header)) := by
  obtain ⟨infos, hp, -⟩ := accepts_iff.mp ⟨summary, h⟩
  obtain ⟨-, -, instructions', ⟨rest', htimes', -⟩, -, -, rfl⟩ := parse_message_body_iff.mp hp
  obtain ⟨rest, htimes, -⟩ := hread
  rw [htimes] at htimes'
  cases htimes'
  exact hp

/-- An accepted body leaves the place of the fee payer free. -/
theorem accepts_fee_payer_free {message_body : Parser} {print_config : PrintConfig}
    {infos : List InstructionInfo} {summary : TransactionSummary}
    (hp : (parse_message_body print_config.header).run' message_body = some infos)
    (h : accepts message_body print_config summary) : 0 < summary.free .fee_payer := by
  have hcount := print_transaction_fee_payer print_config (accepts_recognised hp h)
  rw [accepts_iff_print hp, SummaryM.exec, Option.map_eq_some_iff] at h
  obtain ⟨t, hwrites, ht⟩ := h
  obtain rfl := (Prod.mk.inj ht).2
  have hfree := write_all_free hwrites .fee_payer
  rw [SummaryM.count] at hcount
  rw [hcount, Nat.add_zero] at hfree
  rw [hfree]
  exact Nat.one_pos

/-- The review of a whole message, for trying messages out: its header and body, the
infos and the summary when the body is accepted. -/
def review (message : List UInt8) (expert_mode : Bool) (signer_pubkey : PubkeyRef) :
    Option (MessageHeader × Parser × List InstructionInfo × TransactionSummary) := do
  let (header, message_body) ← parse_message_header ⟨0, message⟩
  let infos ← (parse_message_body header).run' message_body
  match (process_message_body message_body { header, expert_mode, signer_pubkey }).exec
      transaction_summary_reset with
  | some (some _, summary) => return (header, message_body, infos, summary)
  | _ => none

/-- A property of the header and the body of a concrete message. -/
theorem parsed_any {message : List UInt8} {P : MessageHeader → Parser → Prop}
    [∀ h b, Decidable (P h b)]
    (h : (parse_message_header ⟨0, message⟩).any (fun r => P r.1 r.2) = true) :
    ∃ header message_body,
      parse_message_header ⟨0, message⟩ = some (header, message_body) ∧ P header message_body := by
  obtain ⟨⟨header, message_body⟩, hparse, hP⟩ := (Option.any_eq_true _ _).mp h
  exact ⟨header, message_body, hparse, of_decide_eq_true hP⟩

theorem review_any {message : List UInt8} {expert_mode : Bool} {signer_pubkey : PubkeyRef}
    {P : MessageHeader → Parser → List InstructionInfo → TransactionSummary → Prop}
    [∀ h b i s, Decidable (P h b i s)]
    (h : (review message expert_mode signer_pubkey).any
      (fun r => P r.1 r.2.1 r.2.2.1 r.2.2.2) = true) :
    ∃ header message_body infos summary,
      parse_message_header ⟨0, message⟩ = some (header, message_body) ∧
      (parse_message_body header).run' message_body = some infos ∧
      accepts message_body { header, expert_mode, signer_pubkey } summary ∧
      P header message_body infos summary := by
  obtain ⟨⟨header, message_body, infos, summary⟩, hr, hP⟩ := (Option.any_eq_true _ _).mp h
  simp only [review, Option.bind_eq_bind, Option.bind_eq_some_iff] at hr
  obtain ⟨⟨header', body'⟩, hheader, infos', hinfos, hexec⟩ := hr
  split at hexec
  · rename_i u summary' he
    cases hexec
    exact ⟨_, _, _, _, hheader, hinfos, he, of_decide_eq_true hP⟩
  · cases hexec

theorem display_instruction_info_map (instructions : List Instruction) (header : MessageHeader) :
    display_instruction_info (instructions.map (parse_instruction_info · header)) =
      (instructions.filter fun i => !is_rpl_memo i header).map
        (parse_instruction_info · header) := by
  rw [display_instruction_info, List.filter_map]
  congr 1
  apply List.filter_congr
  intro i _
  simp only [Function.comp_apply, ne_eq, parse_instruction_info_memo, decide_not,
    Bool.decide_eq_true]

theorem mem_of_mem_strip_nonce {infos : List InstructionInfo} {info : InstructionInfo}
    (h : info ∈ strip_nonce infos) : info ∈ infos := by
  fun_cases strip_nonce infos with
  | case1 nonce first rest => exact List.mem_cons_of_mem _ h
  | case2 infos hno => rwa [strip_nonce] at h; exact hno

/-- An instruction that is not left to print is the nonce instruction in front. -/
theorem mem_strip_nonce_or {infos : List InstructionInfo} {info : InstructionInfo}
    (h : info ∈ infos) : info ∈ strip_nonce infos ∨
      ∃ nonce, info = .ProgramIdSystem (.SystemAdvanceNonceAccount nonce) := by
  fun_cases strip_nonce infos with
  | case1 nonce first rest =>
    rcases List.mem_cons.mp h with rfl | h
    · exact Or.inr ⟨nonce, rfl⟩
    · exact Or.inl h
  | case2 infos hno => exact Or.inl h

/-- An instruction that is not printed is a memo or a nonce instruction. -/
theorem mem_displayed_or {infos : List InstructionInfo} {info : InstructionInfo}
    (h : info ∈ infos) : info ∈ strip_nonce (display_instruction_info infos) ∨
      info = .ProgramIdRplMemo ∨
        ∃ nonce, info = .ProgramIdSystem (.SystemAdvanceNonceAccount nonce) := by
  by_cases hmemo : info.kind = .ProgramIdRplMemo
  · cases info with
    | ProgramIdRplMemo => exact Or.inr (Or.inl rfl)
    | _ => cases hmemo
  · have hd : info ∈ display_instruction_info infos :=
      List.mem_filter.mpr ⟨h, decide_eq_true hmemo⟩
    rcases mem_strip_nonce_or hd with hd | hnonce
    · exact Or.inl hd
    · exact Or.inr (Or.inr hnonce)

/-- **A body is accepted exactly when** it has one to four instructions, it reads as
them and nothing else, their indices lie in the account table, each is a memo or is
accepted by its program, and those that are no memos are displayable after a nonce
instruction with others behind it has been taken off their front. -/
theorem process_message_body_accepts_iff (message_body : Parser) (print_config : PrintConfig) :
    (∃ summary, accepts message_body print_config summary) ↔
      1 ≤ print_config.header.instructions_length ∧
      print_config.header.instructions_length ≤ 4 ∧
      ∃ instructions, BodyReads print_config.header message_body instructions ∧
        (∀ i ∈ instructions,
          i.program_id_index.toNat < print_config.header.pubkeys_header.pubkeys_length ∧
          ∀ account ∈ i.accounts,
            account.toNat < print_config.header.pubkeys_header.pubkeys_length) ∧
        (∀ i ∈ instructions, is_rpl_memo i print_config.header = true ∨
          accepted_by_program i print_config.header = true) ∧
        Displayable (strip_nonce
          ((instructions.filter fun i => !is_rpl_memo i print_config.header).map
            (parse_instruction_info · print_config.header))) := by
  have hvalid : ∀ i, instruction_validate i print_config.header = true ↔
      i.program_id_index.toNat < print_config.header.pubkeys_header.pubkeys_length ∧
        ∀ account ∈ i.accounts,
          account.toNat < print_config.header.pubkeys_header.pubkeys_length := by
    intro i
    simp only [instruction_validate, Bool.and_eq_true, List.all_eq_true, decide_eq_true_eq]
  -- the infos that are printed come from their programs' parsers
  have hsupported : ∀ instructions : List Instruction,
      (∀ i ∈ instructions, is_rpl_memo i print_config.header = true ∨
        accepted_by_program i print_config.header = true) →
      ∀ info ∈ strip_nonce ((instructions.filter fun i => !is_rpl_memo i print_config.header).map
        (parse_instruction_info · print_config.header)), info.supported := by
    intro instructions hknown info hinfo
    obtain ⟨i, hi, rfl⟩ := List.mem_map.mp (mem_of_mem_strip_nonce hinfo)
    obtain ⟨hi, hmemo⟩ := List.mem_filter.mp hi
    refine parse_instruction_info_supported ((hknown i hi).resolve_left fun h => ?_)
    rw [h] at hmemo
    cases hmemo
  rw [accepts_iff]
  simp only [parse_message_body_iff, hvalid, MAX_INSTRUCTIONS]
  constructor
  · rintro ⟨infos, ⟨hpos, hle, instructions, hread, hindices, hknown, rfl⟩, hr⟩
    rw [display_instruction_info_map] at hr
    exact ⟨hpos, hle, instructions, hread, hindices, hknown,
      (displayable_iff_recognised (hsupported instructions hknown)).mpr hr⟩
  · rintro ⟨hpos, hle, instructions, hread, hindices, hknown, hd⟩
    refine ⟨_, ⟨hpos, hle, instructions, hread, hindices, hknown, rfl⟩, ?_⟩
    rw [display_instruction_info_map]
    exact (displayable_iff_recognised (hsupported instructions hknown)).mp hd

end RenecLedger
