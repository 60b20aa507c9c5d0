/-
The threshold of a multisig account.

The parser bounds the threshold `m` and the number `n` of signers by `Token_MAX_SIGNERS`, each on
its own, and counts the signers in one byte. The formatter refuses `m > n`, and then the item is
not set. So the threshold is shown exactly when `m ≤ n` and there really are no more than
`Token_MAX_SIGNERS` signers.
-/
import RenecLedger.Acceptance
import RenecLedger.AccountWalk
import RenecLedger.Encoding

set_option autoImplicit false

open ReaderLib

namespace RenecLedger

/-! ## The threshold of an instruction -/

/-- The byte behind the kind of the instruction. -/
def Instruction.threshold (instruction : Instruction) : ℕ :=
  (instruction.data.buffer.getD 1 0).toNat

/-- The signers follow the multisig account and the rent sysvar. -/
def Instruction.signer_count (instruction : Instruction) : ℕ := instruction.accounts.length - 2

def m_of_n_text (m n : ℕ) : String := toString m ++ " of " ++ toString n

/-- The item says that `m` of `n` signers are needed. -/
def ShowsRequiredSigners (m n : ℕ) (item : SummaryItem) : Prop :=
  item = ⟨"Required signers", .SummaryItemString (m_of_n_text m n)⟩

theorem not_shows_required_signers_pubkey (m n : ℕ) (title : String) (pubkey : PubkeyRef) :
    ¬ShowsRequiredSigners m n ⟨title, .SummaryItemPubkey pubkey⟩ := by
  rw [ShowsRequiredSigners, SummaryItem.mk.injEq]
  exact fun h => nomatch h.2

/-! ## The formatter -/

theorem print_m_of_n_count_eq {n : UInt8} (h : n.toNat ≤ Token_MAX_SIGNERS) :
    print_m_of_n_count n = toString n.toNat := by
  have hall : ∀ k ≤ Token_MAX_SIGNERS,
      print_m_of_n_count (UInt8.ofNat k) = toString (UInt8.ofNat k).toNat := by decide +kernel
  have h := hall n.toNat h
  rwa [UInt8.ofNat_toNat] at h

theorem m_of_n_text_inj {m n k : ℕ} (h : m_of_n_text m n = m_of_n_text m k) : n = k := by
  have hdigits := congrArg String.toList ((String.append_right_inj _).mp h)
  rw [Nat.toString_eq_repr, Nat.toString_eq_repr, Nat.toList_repr, Nat.toList_repr] at hdigits
  rw [← Nat.ofDigitChars_ten_toDigits (n := n), hdigits, Nat.ofDigitChars_ten_toDigits]

/-- What is printed, for counts that the parser lets pass. -/
theorem print_m_of_n_string_eq {m count : UInt8} (hm : m.toNat ≤ Token_MAX_SIGNERS)
    (hcount : count.toNat ≤ Token_MAX_SIGNERS) :
    print_m_of_n_string m count M_OF_N_MAX_LEN =
      if m.toNat ≤ count.toNat then some (m_of_n_text m.toNat count.toNat) else none := by
  rw [print_m_of_n_string, if_neg (Nat.not_lt.mpr hcount)]
  by_cases hle : m.toNat ≤ count.toNat
  · have hgt : ¬m > count := fun h => Nat.not_lt.mpr hle (UInt8.lt_iff_toNat_lt.mp h)
    rw [if_neg hgt, if_neg (Nat.lt_irrefl _), if_pos hle, print_m_of_n_count_eq hm,
      print_m_of_n_count_eq hcount]
    rfl
  · rw [if_pos (UInt8.lt_iff_toNat_lt.mpr (Nat.not_le.mp hle)), if_neg hle]

theorem sets_multisig_m_of_n {m count : UInt8} (hm : m.toNat ≤ Token_MAX_SIGNERS)
    (hcount : count.toNat ≤ Token_MAX_SIGNERS) (slot : SummarySlot) (n : ℕ) :
    (summary_item_set_multisig_m_of_n slot m count).sets (ShowsRequiredSigners m.toNat n) ↔
      m.toNat ≤ count.toNat ∧ count.toNat = n := by
  rw [summary_item_set_multisig_m_of_n, SummaryM.sets_if_set, print_m_of_n_string_eq hm hcount]
  simp only [summary_item_set_string, sets_set_item, ShowsRequiredSigners, SummaryItem.mk.injEq,
    SummaryItemValue.SummaryItemString.injEq, true_and]
  by_cases hle : m.toNat ≤ count.toNat
  · rw [if_pos hle, and_iff_right hle]
    constructor
    · rintro ⟨text, htext, rfl⟩
      exact m_of_n_text_inj (Option.some.inj htext)
    · rintro rfl
      exact ⟨_, rfl, rfl⟩
  · rw [if_neg hle]
    exact ⟨nofun, fun h => absurd h.1 hle⟩

/-! ## The parser -/

section Parsing

variable {header : MessageHeader} {instruction : Instruction}

/-- The signers are the accounts that are left, as the iterator counts them. -/
theorem multisigners_walk {n : ℕ} {c d : Parser} {signers : RplTokenMultisigners}
    {it : InstructionAccountsIterator}
    (h : parse_rpl_token_multisigners (account_walk header instruction n) c =
      some ((signers, it), d)) :
    n < instruction.walked ∧ signers.count.toNat = instruction.walked - n ∧
      signers.count.toNat ≤ Token_MAX_SIGNERS := by
  obtain ⟨count, it₁, c₁, hcount, h⟩ := instruction_bind_eq_some.mp h
  cases hcount
  obtain ⟨u, it₂, c₂, hlift, h⟩ := instruction_bind_eq_some.mp h
  obtain ⟨hbail, rfl⟩ := instruction_lift_eq_some.mp hlift
  obtain ⟨first, it₃, c₃, hfirst, h⟩ := instruction_bind_eq_some.mp h
  obtain ⟨hn, -, -, -⟩ := next_account_walk hfirst
  cases h
  have hmax := of_decide_eq_false (bail_if_run.mp hbail).1
  rw [account_walk_left] at hmax ⊢
  have hsigners : Token_MAX_SIGNERS = 11 := rfl
  have hcount : (UInt8.ofNat (instruction.walked - n)).toNat = instruction.walked - n := by
    rw [UInt8.toNat_ofNat', Nat.mod_eq_of_lt (by omega)]
  rw [hcount]
  exact ⟨hn, rfl, Nat.not_lt.mp hmax⟩

/-- The threshold is the next byte of the data, and the accounts are counted in a byte. -/
theorem initialize_multisig_walk {c d : Parser} {im : RplTokenInitializeMultisigInfo}
    (h : parse_initialize_multisig_rpl_token_instruction instruction header c = some (im, d)) :
    im.m = c.buffer.getD 0 0 ∧ im.m.toNat ≤ Token_MAX_SIGNERS ∧ 2 < instruction.walked ∧
      im.signers.count.toNat = instruction.walked - 2 ∧
      im.signers.count.toNat ≤ Token_MAX_SIGNERS := by
  obtain ⟨⟨im', it⟩, hrun, rfl⟩ := map_eq_some.mp h
  obtain ⟨m, it₁, c₁, hlift, h⟩ := instruction_bind_eq_some.mp hrun
  obtain ⟨hm, rfl⟩ := instruction_lift_eq_some.mp hlift
  obtain ⟨u, it₂, c₂, hlift, h⟩ := instruction_bind_eq_some.mp h
  obtain ⟨hbail, rfl⟩ := instruction_lift_eq_some.mp hlift
  obtain ⟨account, it₃, c₃, haccount, h⟩ := instruction_bind_eq_some.mp h
  obtain ⟨-, -, rfl, -⟩ := next_account_walk (n := 0) haccount
  obtain ⟨u, it₄, c₄, hskip, h⟩ := instruction_bind_eq_some.mp h
  obtain ⟨-, rfl, -⟩ := skip_account_walk hskip
  obtain ⟨signers, it₅, c₅, hsigners, h⟩ := instruction_bind_eq_some.mp h
  obtain ⟨hwalked, hcount, hmax⟩ := multisigners_walk hsigners
  cases h
  have hm_max := of_decide_eq_false (bail_if_run.mp hbail).1
  obtain ⟨-, hm⟩ := check_bind_eq_some.mp hm
  cases hm
  refine ⟨?_, Nat.not_lt.mp hm_max, hwalked, hcount, hmax⟩
  cases c.buffer <;> rfl

/-- The kind is read from one byte. -/
theorem instruction_kind_byte {c d : Parser} {kind : RplTokenInstructionKind}
    (h : parse_rpl_token_instruction_kind c = some (kind, d)) :
    ∃ b, c.buffer = b :: d.buffer := by
  obtain ⟨b, d', hbyte, hkind⟩ := bind_eq_some.mp h
  have hrest : d' = d := by
    generalize b.toNat = tag at hkind
    split at hkind <;> first | (cases hkind; rfl) | cases hkind
  obtain ⟨hlen, hbyte⟩ := check_bind_eq_some.mp hbyte
  cases hbyte
  obtain ⟨x, rest, hbuffer⟩ := List.exists_cons_of_length_pos hlen
  refine ⟨x, ?_⟩
  rw [← hrest, hbuffer]
  change _ = x :: (c.buffer.drop 1)
  rw [hbuffer]
  rfl

theorem initialize_multisig_info {im : RplTokenInitializeMultisigInfo}
    (h : parse_instruction_info instruction header = .ProgramIdRplToken (.InitializeMultisig im)) :
    im.m.toNat = instruction.threshold ∧ im.m.toNat ≤ Token_MAX_SIGNERS ∧
      2 < instruction.walked ∧ im.signers.count.toNat = instruction.walked - 2 ∧
      im.signers.count.toNat ≤ Token_MAX_SIGNERS := by
  have htoken : parse_rpl_token_instructions instruction header =
      some (.InitializeMultisig im) := parse_instruction_info_parsed h
  obtain ⟨last, hrun⟩ := run'_eq_some.mp htoken
  obtain ⟨kind, d, hkind, hrun⟩ := bind_eq_some.mp hrun
  obtain ⟨b, hbuffer⟩ := instruction_kind_byte hkind
  cases kind with
  | InitializeMultisig =>
    obtain ⟨im', hparse, heq⟩ := map_eq_some.mp hrun
    cases heq
    obtain ⟨hm, hwalk⟩ := initialize_multisig_walk hparse
    refine ⟨?_, hwalk⟩
    rw [hm, Instruction.threshold, hbuffer]
    rfl
  | _ => simp [map_eq_some, bail] at hrun

end Parsing

/-! ## The printers -/

/-- A multisig account is initialised alone or after it has been created. -/
theorem Recognised.initialize_multisig {infos : List InstructionInfo} (h : Recognised infos)
    {im : RplTokenInitializeMultisigInfo}
    (hmem : .ProgramIdRplToken (.InitializeMultisig im) ∈ infos) :
    infos = [.ProgramIdRplToken (.InitializeMultisig im)] ∨
      ∃ ca, infos = [.ProgramIdSystem (.SystemCreateAccount ca),
        .ProgramIdRplToken (.InitializeMultisig im)] := by
  cases h with
  | single h => exact Or.inl (congrArg List.singleton (List.mem_singleton.mp hmem).symm)
  | rpl_token_create_multisig ca im' =>
    simp only [List.mem_cons, reduceCtorEq, InstructionInfo.ProgramIdRplToken.injEq,
      RplTokenInfo.InitializeMultisig.injEq, List.not_mem_nil, or_false, false_or] at hmem
    exact Or.inr ⟨ca, by rw [hmem]⟩
  | _ => simp at hmem

/-- Both printers leave the threshold to the setter, and their other items have other titles. -/
theorem print_initialize_multisig_sets (print_config : PrintConfig) {infos : List InstructionInfo}
    (h : Recognised infos) {im : RplTokenInitializeMultisigInfo}
    (hmem : .ProgramIdRplToken (.InitializeMultisig im) ∈ infos) (m n : ℕ) :
    (print_transaction_nonce_processed print_config infos).sets (ShowsRequiredSigners m n) ↔
      (summary_item_set_multisig_m_of_n .general im.m im.signers.count).sets
        (ShowsRequiredSigners m n) := by
  rcases h.initialize_multisig hmem with rfl | ⟨ca, rfl⟩
  · change (print_rpl_token_initialize_multisig_info (some "Init multisig") im).sets _ ↔ _
    simp [print_rpl_token_initialize_multisig_info, print_primary_title, ShowsRequiredSigners]
  · change (print_rpl_token_create_multisig print_config
      [.ProgramIdSystem (.SystemCreateAccount ca),
        .ProgramIdRplToken (.InitializeMultisig im)]).sets _ ↔ _
    simp [print_rpl_token_create_multisig, ShowsRequiredSigners]

/-! ## Messages -/

/-- **The threshold of a multisig account is shown exactly when** it is not above the number of
the signer accounts and these are no more than a multisig account can have. -/
theorem multisig_threshold_shown_iff {message_body : Parser} {print_config : PrintConfig}
    {summary : TransactionSummary} {instructions : List Instruction} {instruction : Instruction}
    {im : RplTokenInitializeMultisigInfo}
    (ha : accepts message_body print_config summary)
    (hread : BodyReads print_config.header message_body instructions)
    (hmem : instruction ∈ instructions)
    (hinfo : parse_instruction_info instruction print_config.header =
      .ProgramIdRplToken (.InitializeMultisig im)) :
    (∃ item ∈ summary.items,
        ShowsRequiredSigners instruction.threshold instruction.signer_count item) ↔
      instruction.threshold ≤ instruction.signer_count ∧
        instruction.signer_count ≤ Token_MAX_SIGNERS := by
  obtain ⟨hm, hm_max, hwalked, hcount, hcount_max⟩ := initialize_multisig_info hinfo
  have hp := accepts_infos ha hread
  have hinfos : .ProgramIdRplToken (.InitializeMultisig im) ∈
      instructions.map (parse_instruction_info · print_config.header) :=
    List.mem_map.mpr ⟨instruction, hmem, hinfo⟩
  have hshown : .ProgramIdRplToken (.InitializeMultisig im) ∈
      strip_nonce (display_instruction_info
        (instructions.map (parse_instruction_info · print_config.header))) := by
    rcases mem_displayed_or hinfos with h | h | ⟨nonce, h⟩
    · exact h
    · cases h
    · cases h
  rw [accepts_items hp ha,
    print_transaction_sets_iff print_config (not_shows_required_signers_pubkey _ _),
    print_initialize_multisig_sets print_config (accepts_recognised hp ha) hshown, ← hm,
    sets_multisig_m_of_n hm_max hcount_max, hcount]
  have hmax : Token_MAX_SIGNERS = 11 := rfl
  rw [Instruction.signer_count]
  rw [Instruction.walked] at *
  omega

/-- Three signers, of whom `threshold` are needed. -/
def multisig_message (threshold : UInt8) : Message where
  version := none
  num_required_signatures := 1
  num_readonly_signed_accounts := 0
  num_readonly_unsigned_accounts := 2
  pubkeys := [Pubkey.fill 1, Pubkey.fill 2, Pubkey.fill 3, Pubkey.fill 5, rpl_token_program_id]
  blockhash := Hash.fill 9
  instructions := [⟨4, [1, 3, 0, 2, 0], [2, threshold]⟩]
  version_lt := legacy_version_lt
  legacy_lt := legacy_signature_lt
  pubkeys_lt := by decide
  instructions_lt := by simp [LENGTH_MAX]
  accounts_lt := by simp [LENGTH_MAX]
  data_lt := by simp [LENGTH_MAX]

theorem multisig_threshold_two_of_three : ∃ header message_body summary,
    parse_message_header ⟨0, (multisig_message 2).encode⟩ = some (header, message_body) ∧
    accepts message_body ⟨header, false, ⟨4, Pubkey.fill 1⟩⟩ summary ∧
    ∃ item ∈ summary.items, ShowsRequiredSigners 2 3 item := by
  obtain ⟨header, message_body, infos, summary, hparse, -, ha, htimes, hlegacy, hinfo⟩ := review_any
    (P := fun header message_body _ _ =>
      times parse_instruction header.instructions_length message_body =
        some ([⟨4, [1, 3, 0, 2, 0], ⟨205, [2, 2]⟩⟩], ⟨207, []⟩) ∧
      header.versioned = false ∧
      parse_instruction_info ⟨4, [1, 3, 0, 2, 0], ⟨205, [2, 2]⟩⟩ header =
        .ProgramIdRplToken (.InitializeMultisig
          ⟨⟨36, Pubkey.fill 2⟩, ⟨⟨4, Pubkey.fill 1⟩, 3⟩, 2⟩))
    (by decide +kernel :
      (review (multisig_message 2).encode false ⟨4, Pubkey.fill 1⟩).any _ = true)
  have hread : BodyReads header message_body [⟨4, [1, 3, 0, 2, 0], ⟨205, [2, 2]⟩⟩] := by
    refine ⟨_, htimes, ?_⟩
    rw [BodyEnds, hlegacy]
    rfl
  exact ⟨header, message_body, summary, hparse, ha,
    (multisig_threshold_shown_iff ha hread List.mem_cons_self hinfo).mpr (by decide)⟩

/-- A threshold of four is accepted, and not shown. -/
theorem multisig_threshold_four_of_three : ∃ header message_body infos summary,
    parse_message_header ⟨0, (multisig_message 4).encode⟩ = some (header, message_body) ∧
    (parse_message_body header).run' message_body = some infos ∧
    accepts message_body ⟨header, false, ⟨4, Pubkey.fill 1⟩⟩ summary ∧
    (∃ im, infos = [.ProgramIdRplToken (.InitializeMultisig im)]) ∧
    ¬∃ item ∈ summary.items, item.title = "Required signers" := by
  obtain ⟨header, message_body, infos, summary, hparse, hp, ha, hinfos, hitems⟩ := review_any
    (P := fun _ _ infos summary =>
      infos = [.ProgramIdRplToken (.InitializeMultisig
        ⟨⟨36, Pubkey.fill 2⟩, ⟨⟨4, Pubkey.fill 1⟩, 3⟩, 4⟩)] ∧
      ¬∃ item ∈ summary.items, item.title = "Required signers")
    (by decide +kernel :
      (review (multisig_message 4).encode false ⟨4, Pubkey.fill 1⟩).any _ = true)
  exact ⟨header, message_body, infos, summary, hparse, hp, ha, ⟨_, hinfos⟩, hitems⟩

end RenecLedger
