/-
The new authorities of an authorize pair.

The printers of the pairs compare the two new authorities as pointers, where the printer of a new
stake account compares its two as keys. An authority in the data of its instruction lies nowhere
else, so two of them are never merged; authorities in the account table are merged when the
instructions name one entry of it. So equal keys are merged exactly in the second case.
-/
import RenecLedger.AccountWalk
import RenecLedger.SharedAccounts

set_option autoImplicit false

open ReaderLib

namespace RenecLedger

/-! ## The four pairs -/

/-- The pairs of instructions that change both authorities of an account, and are merged
into one review. -/
inductive AuthorizeBoth
  | stake
  | stake_checked
  | vote
  | vote_checked

/-- The table that recognises the pattern. -/
def AuthorizeBoth.brief : AuthorizeBoth → List InstructionBrief
  | .stake => stake_authorize_both_brief
  | .stake_checked => stake_authorize_checked_both_brief
  | .vote => vote_authorize_both_brief
  | .vote_checked => vote_authorize_checked_both_brief

/-- A checked instruction names its new authority by an account, an unchecked one in its data. -/
def AuthorizeBoth.checked : AuthorizeBoth → Bool
  | .stake => false
  | .stake_checked => true
  | .vote => false
  | .vote_checked => true

/-- How the first new authority is titled when it is shown on its own. -/
def AuthorizeBoth.new_title : AuthorizeBoth → String
  | .stake => "New stake auth"
  | .stake_checked => "New stake auth"
  | .vote => "New vote auth"
  | .vote_checked => "New vote auth"

/-- The fourth account of an instruction. -/
def Instruction.new_authority_index (instruction : Instruction) : UInt8 :=
  instruction.accounts.getD 3 0

/-- The new authority of an instruction: the fourth account, or the key behind the kind.
In both cases the printer gets a reference, of which it compares the address. -/
def Instruction.new_authority (header : MessageHeader) (checked : Bool)
    (instruction : Instruction) : PubkeyRef :=
  if checked then
    header.account instruction.new_authority_index
  else
    ⟨instruction.data.addr + 4, Pubkey.read (instruction.data.buffer.drop 4)⟩

/-- The item shows this key under this title. -/
def ShowsUnder (title : String) (key : Pubkey) (item : SummaryItem) : Prop :=
  item.title = title ∧ item.pubkey = some key

/-- Two new authorities are one item if and only if they are one key, and two items
otherwise. This is what merging by value would do, whatever the addresses. -/
structure MergedByValue (new_title : String) (first second : Pubkey)
    (summary : TransactionSummary) : Prop where
  merged_iff : (∃ item ∈ summary.items, item.title = "New authorities") ↔ first = second
  merged : first = second →
    (∃ item ∈ summary.items, ShowsUnder "New authorities" first item) ∧
      ¬∃ item ∈ summary.items, item.title = new_title ∨ item.title = "New withdraw auth"
  separate : first ≠ second →
    (∃ item ∈ summary.items, ShowsUnder new_title first item) ∧
      ∃ item ∈ summary.items, ShowsUnder "New withdraw auth" second item

/-! ## The instructions that are displayed -/

/-- Whether an info is taken off the front of a transaction. -/
def InstructionInfo.is_advance_nonce : InstructionInfo → Bool
  | .ProgramIdSystem (.SystemAdvanceNonceAccount _) => true
  | _ => false

/-- A single instruction stays, be it an advance of a nonce. -/
theorem strip_nonce_single (info : InstructionInfo) : strip_nonce [info] = [info] := by
  rw [strip_nonce]
  intro nonce first rest h
  cases h

/-- Of several instructions the first goes when it advances a nonce. -/
theorem strip_nonce_pair (nonce first : InstructionInfo) (rest : List InstructionInfo) :
    strip_nonce (nonce :: first :: rest) =
      if nonce.is_advance_nonce then first :: rest else nonce :: first :: rest := by
  fun_cases InstructionInfo.is_advance_nonce nonce with
  | case1 nonce => rfl
  | case2 info hno =>
    rw [strip_nonce]
    · rfl
    · intro nonce' first' rest' h
      exact hno nonce' (List.cons.inj h).1

/-- All but the memos, and but a nonce instruction in front of others. These are the
instructions that the tables of patterns are matched with. -/
def displayed_instructions (header : MessageHeader) (instructions : List Instruction) :
    List Instruction :=
  match instructions.filter fun i => !is_rpl_memo i header with
  | nonce :: first :: rest =>
    if (parse_instruction_info nonce header).is_advance_nonce then
      first :: rest
    else
      nonce :: first :: rest
  | shown => shown

/-- Memos are dropped, and the order stays. -/
theorem displayed_instructions_sublist (header : MessageHeader)
    (instructions : List Instruction) :
    (displayed_instructions header instructions).Sublist instructions := by
  have hfilter : (instructions.filter fun i => !is_rpl_memo i header).Sublist instructions :=
    List.filter_sublist
  rw [displayed_instructions]
  split
  · rename_i nonce first rest heq
    rw [heq] at hfilter
    split
    · exact (List.sublist_cons_self nonce _).trans hfilter
    · exact hfilter
  · exact hfilter

/-- Their infos are the ones that are printed. -/
theorem displayed_instructions_infos (header : MessageHeader) (instructions : List Instruction) :
    strip_nonce (display_instruction_info
        (instructions.map (parse_instruction_info · header))) =
      (displayed_instructions header instructions).map (parse_instruction_info · header) := by
  rw [display_instruction_info_map, displayed_instructions]
  generalize (instructions.filter fun i => !is_rpl_memo i header) = shown
  match shown with
  | [] => rfl
  | [instruction] => exact strip_nonce_single _
  | nonce :: first :: rest =>
    simp only [List.map_cons, strip_nonce_pair]
    split <;> rfl

/-! ## Where the instructions lie -/

/-- A byte moves the parser on by one. -/
theorem takes_parse_u8 : Takes parse_u8 1 := by
  intro c b d h
  obtain ⟨hlen, h⟩ := check_bind_eq_some.mp h
  cases h
  exact ⟨hlen, rfl⟩

/-- Two bytes move it on by two. -/
theorem takes_parse_u16 : Takes parse_u16 2 :=
  takes_bind takes_parse_u8 fun _ => takes_bind takes_parse_u8 fun _ => takes_pure _

/-- Four bytes move it on by four. -/
theorem takes_parse_u32 : Takes parse_u32 4 :=
  takes_bind takes_parse_u16 fun _ => takes_bind takes_parse_u16 fun _ => takes_pure _

/-- The data of an instruction lies between what is before it and what is after it. So
the data of two instructions never overlaps. -/
theorem parse_data_lies {c data d : Parser} (h : parse_data c = some (data, d)) :
    c.addr ≤ data.addr ∧ data.addr + data.buffer.length = d.addr := by
  obtain ⟨n, c', hlength, h⟩ := bind_eq_some.mp h
  obtain ⟨m, -, rfl⟩ := forward_parse_length c n c' hlength
  obtain ⟨hlen, h⟩ := check_bind_eq_some.mp h
  cases h
  refine ⟨Nat.le_add_right _ _, ?_⟩
  change _ + (List.take n _).length = _ + n
  rw [List.length_take_of_le hlen]

/-- The data of an instruction lies between where its parser began and where it ended. -/
theorem parse_instruction_lies {c d : Parser} {instruction : Instruction}
    (h : parse_instruction c = some (instruction, d)) :
    c.addr ≤ instruction.data.addr ∧
      instruction.data.addr ≤ instruction.data.addr + instruction.data.buffer.length ∧
      instruction.data.addr + instruction.data.buffer.length ≤ d.addr := by
  obtain ⟨b, c₁, hbyte, h⟩ := bind_eq_some.mp h
  obtain ⟨accounts, c₂, haccounts, h⟩ := bind_eq_some.mp h
  obtain ⟨data, c₃, hdata, h⟩ := bind_eq_some.mp h
  cases h
  obtain ⟨-, rfl⟩ := takes_parse_u8 hbyte
  obtain ⟨hbefore, hafter⟩ := parse_data_lies haccounts
  obtain ⟨hstart, hend⟩ := parse_data_lies hdata
  refine ⟨?_, Nat.le_add_right _ _, Nat.le_of_eq hend⟩
  change c.addr + 1 ≤ _ at hbefore
  change c.addr ≤ data.addr
  omega

/-- Of two displayed instructions, the first lies in front of the second. -/
theorem displayed_instructions_in_order {header : MessageHeader} {message_body : Parser}
    {instructions : List Instruction} (hread : BodyReads header message_body instructions)
    {first second : Instruction}
    (hshown : displayed_instructions header instructions = [first, second]) :
    first.data.addr + first.data.buffer.length ≤ second.data.addr := by
  obtain ⟨rest, htimes, -⟩ := hread
  have horder := (times_in_order parse_instruction_lies htimes).2
  have hsub := displayed_instructions_sublist header instructions
  rw [hshown] at hsub
  have hpair := horder.sublist hsub
  rwa [List.pairwise_pair] at hpair

/-! ## What the parsers return -/

section Parsing

variable {header : MessageHeader} {instruction : Instruction} {c d : Parser}

/-- The kind moves the parser on by four. -/
theorem takes_parse_stake_instruction_kind : Takes parse_stake_instruction_kind 4 := by
  refine takes_bind (n := 0) takes_parse_u32 fun maybe_kind => ?_
  generalize maybe_kind.toNat = tag
  split <;> first | exact takes_pure _ | exact takes_of_fails (fun _ => rfl) 0

/-- The kind moves the parser on by four. -/
theorem takes_parse_vote_instruction_kind : Takes parse_vote_instruction_kind 4 := by
  refine takes_bind (n := 0) takes_parse_u32 fun maybe_kind => ?_
  generalize maybe_kind.toNat = tag
  split <;> first | exact takes_pure _ | exact takes_of_fails (fun _ => rfl) 0

/-- A key is read where the parser stands, if there is room for one. -/
theorem parse_pubkey_eq_some {pubkey : PubkeyRef} (h : parse_pubkey c = some (pubkey, d)) :
    PUBKEY_SIZE ≤ c.buffer.length ∧ pubkey = ⟨c.addr, Pubkey.read c.buffer⟩ := by
  obtain ⟨hlen, h⟩ := check_bind_eq_some.mp h
  cases h
  exact ⟨hlen, rfl⟩

/-- All four parse functions walk the account, the clock sysvar and the authority first.
What they do next is where they differ. -/
theorem authorize_accounts_walk {α : Type} {f : PubkeyRef → PubkeyRef → InstructionM α} {a : α}
    {it : InstructionAccountsIterator}
    (h : (do
      let account ← next_account
      skip_account
      let authority ← next_account
      f account authority : InstructionM α) (account_walk header instruction 0) c =
        some ((a, it), d)) :
    ∃ account authority, f account authority (account_walk header instruction 3) c =
      some ((a, it), d) := by
  obtain ⟨account, it₁, c₁, haccount, hrest₁⟩ := instruction_bind_eq_some.mp h
  obtain ⟨-, -, rfl, rfl⟩ := next_account_walk haccount
  obtain ⟨u, it₂, c₂, hskip, hrest₂⟩ := instruction_bind_eq_some.mp hrest₁
  obtain ⟨-, rfl, rfl⟩ := skip_account_walk hskip
  obtain ⟨authority, it₃, c₃, hauthority, hrest₃⟩ := instruction_bind_eq_some.mp hrest₂
  obtain ⟨-, -, rfl, rfl⟩ := next_account_walk hauthority
  exact ⟨account, authority, hrest₃⟩

/-- The unchecked instruction has its new authority at the front of its data. -/
theorem stake_authorize_new_authority {info : StakeAuthorizeInfo}
    (h : parse_stake_authorize_instruction instruction header c = some (info, d)) :
    PUBKEY_SIZE ≤ c.buffer.length ∧ info.new_authority = ⟨c.addr, Pubkey.read c.buffer⟩ := by
  obtain ⟨⟨info', it⟩, hrun, rfl⟩ := map_eq_some.mp h
  obtain ⟨account, authority, hrest⟩ := authorize_accounts_walk hrun
  obtain ⟨custodian, it₁, c₁, hcustodian, hrest₁⟩ := instruction_bind_eq_some.mp hrest
  obtain rfl := optional_account_data hcustodian
  obtain ⟨new_authority, it₂, c₂, hlift, hrest₂⟩ := instruction_bind_eq_some.mp hrest₁
  obtain ⟨hnew, rfl⟩ := instruction_lift_eq_some.mp hlift
  obtain ⟨authorize, it₃, c₃, -, hrest₃⟩ := instruction_bind_eq_some.mp hrest₂
  cases hrest₃
  exact parse_pubkey_eq_some hnew

/-- The checked one has it among the accounts. -/
theorem stake_authorize_checked_new_authority {info : StakeAuthorizeInfo}
    (h : parse_stake_authorize_checked_instruction instruction header c = some (info, d)) :
    info.new_authority = header.account instruction.new_authority_index := by
  obtain ⟨⟨info', it⟩, hrun, rfl⟩ := map_eq_some.mp h
  obtain ⟨account, authority, hrest⟩ := authorize_accounts_walk hrun
  obtain ⟨new_authority, it₁, c₁, hnew, hrest₁⟩ := instruction_bind_eq_some.mp hrest
  obtain ⟨-, haccount, -, -⟩ := next_account_walk hnew
  obtain ⟨custodian, it₂, c₂, -, hrest₂⟩ := instruction_bind_eq_some.mp hrest₁
  obtain ⟨authorize, it₃, c₃, -, hrest₃⟩ := instruction_bind_eq_some.mp hrest₂
  cases hrest₃
  exact haccount

/-- The unchecked instruction has its new authority at the front of its data. -/
theorem vote_authorize_new_authority {info : VoteAuthorizeInfo}
    (h : parse_vote_authorize_instruction instruction header c = some (info, d)) :
    PUBKEY_SIZE ≤ c.buffer.length ∧ info.new_authority = ⟨c.addr, Pubkey.read c.buffer⟩ := by
  obtain ⟨⟨info', it⟩, hrun, rfl⟩ := map_eq_some.mp h
  obtain ⟨account, authority, hrest⟩ := authorize_accounts_walk hrun
  obtain ⟨new_authority, it₁, c₁, hlift, hrest₁⟩ := instruction_bind_eq_some.mp hrest
  obtain ⟨hnew, -⟩ := instruction_lift_eq_some.mp hlift
  obtain ⟨authorize, it₂, c₂, -, hrest₂⟩ := instruction_bind_eq_some.mp hrest₁
  cases hrest₂
  exact parse_pubkey_eq_some hnew

/-- The checked one has it among the accounts. -/
theorem vote_authorize_checked_new_authority {info : VoteAuthorizeInfo}
    (h : parse_vote_authorize_checked_instruction instruction header c = some (info, d)) :
    info.new_authority = header.account instruction.new_authority_index := by
  obtain ⟨⟨info', it⟩, hrun, rfl⟩ := map_eq_some.mp h
  obtain ⟨account, authority, hrest⟩ := authorize_accounts_walk hrun
  obtain ⟨new_authority, it₁, c₁, hnew, hrest₁⟩ := instruction_bind_eq_some.mp hrest
  obtain ⟨-, haccount, -, -⟩ := next_account_walk hnew
  obtain ⟨authorize, it₂, c₂, -, hrest₂⟩ := instruction_bind_eq_some.mp hrest₁
  cases hrest₂
  exact haccount

/-! ## From the instruction to its info -/

/-- From the instruction, the new authority lies behind the four bytes of the kind. -/
theorem stake_authorize_info {authorize : StakeAuthorizeInfo}
    (h : parse_instruction_info instruction header =
      .ProgramIdStake (.StakeAuthorize authorize)) :
    4 + PUBKEY_SIZE ≤ instruction.data.buffer.length ∧
      authorize.new_authority = instruction.new_authority header false := by
  obtain ⟨last, hrun⟩ := run'_eq_some.mp (parse_instruction_info_parsed h)
  obtain ⟨kind, c, hkind, hrun⟩ := bind_eq_some.mp hrun
  obtain ⟨hlen, rfl⟩ := takes_parse_stake_instruction_kind hkind
  cases kind with
  | StakeAuthorize =>
    obtain ⟨info, hparse, heq⟩ := map_eq_some.mp hrun
    cases heq
    obtain ⟨hroom, hnew⟩ := stake_authorize_new_authority hparse
    rw [Cursor.advance, List.length_drop] at hroom
    exact ⟨by omega, hnew⟩
  | _ => simp [map_eq_some, bail] at hrun

/-- From the checked instruction, it is an entry of the key table. -/
theorem stake_authorize_checked_info {authorize : StakeAuthorizeInfo}
    (h : parse_instruction_info instruction header =
      .ProgramIdStake (.StakeAuthorizeChecked authorize)) :
    authorize.new_authority = instruction.new_authority header true := by
  obtain ⟨last, hrun⟩ := run'_eq_some.mp (parse_instruction_info_parsed h)
  obtain ⟨kind, c, -, hrun⟩ := bind_eq_some.mp hrun
  cases kind with
  | StakeAuthorizeChecked =>
    obtain ⟨info, hparse, heq⟩ := map_eq_some.mp hrun
    cases heq
    exact stake_authorize_checked_new_authority hparse
  | _ => simp [map_eq_some, bail] at hrun

/-- The same for the vote program. -/
theorem vote_authorize_info {authorize : VoteAuthorizeInfo}
    (h : parse_instruction_info instruction header =
      .ProgramIdVote (.VoteAuthorize authorize)) :
    4 + PUBKEY_SIZE ≤ instruction.data.buffer.length ∧
      authorize.new_authority = instruction.new_authority header false := by
  obtain ⟨last, hrun⟩ := run'_eq_some.mp (parse_instruction_info_parsed h)
  obtain ⟨kind, c, hkind, hrun⟩ := bind_eq_some.mp hrun
  obtain ⟨hlen, rfl⟩ := takes_parse_vote_instruction_kind hkind
  cases kind with
  | VoteAuthorize =>
    obtain ⟨info, hparse, heq⟩ := map_eq_some.mp hrun
    cases heq
    obtain ⟨hroom, hnew⟩ := vote_authorize_new_authority hparse
    rw [Cursor.advance, List.length_drop] at hroom
    exact ⟨by omega, hnew⟩
  | _ => simp [map_eq_some, bail] at hrun

/-- The same for the vote program. -/
theorem vote_authorize_checked_info {authorize : VoteAuthorizeInfo}
    (h : parse_instruction_info instruction header =
      .ProgramIdVote (.VoteAuthorizeChecked authorize)) :
    authorize.new_authority = instruction.new_authority header true := by
  obtain ⟨last, hrun⟩ := run'_eq_some.mp (parse_instruction_info_parsed h)
  obtain ⟨kind, c, -, hrun⟩ := bind_eq_some.mp hrun
  cases kind with
  | VoteAuthorizeChecked =>
    obtain ⟨info, hparse, heq⟩ := map_eq_some.mp hrun
    cases heq
    exact vote_authorize_checked_new_authority hparse
  | _ => simp [map_eq_some, bail] at hrun

end Parsing

/-! ## The printers -/

/-- The titles of the new authorities. -/
def new_authority_titles : List String :=
  ["New authorities", "New stake auth", "New vote auth", "New withdraw auth"]

section Printing

variable (print_config : PrintConfig) {P : SummaryItem → Prop}
  (hP : ∀ item, P item → item.title ∈ new_authority_titles)

include hP

/-- An item that has another title. -/
theorem not_new_authority (title : String) (htitle : title ∉ new_authority_titles)
    (value : SummaryItemValue) : ¬P ⟨title, value⟩ :=
  fun h => htitle (hP _ h)

/-- The new authorities are one item when the two references are to one place, else two. -/
theorem print_stake_authorize_both_new {staker withdrawer : StakeAuthorizeInfo}
    (hs : staker.authorize = .StakeAuthorizeStaker)
    (hw : withdrawer.authorize = .StakeAuthorizeWithdrawer) :
    (print_stake_authorize_both print_config [.ProgramIdStake (.StakeAuthorize staker),
      .ProgramIdStake (.StakeAuthorize withdrawer)]).sets P ↔
      if staker.new_authority.addr = withdrawer.new_authority.addr then
        P ⟨"New authorities", .SummaryItemPubkey staker.new_authority⟩
      else
        P ⟨"New stake auth", .SummaryItemPubkey staker.new_authority⟩ ∨
          P ⟨"New withdraw auth", .SummaryItemPubkey withdrawer.new_authority⟩ := by
  have hprimary := not_new_authority hP "Set stake auth" (by decide)
  have hcustodian := not_new_authority hP "Custodian" (by decide)
  have hauthority := not_new_authority hP "Authorized by" (by decide)
  by_cases haddr : staker.new_authority.addr = withdrawer.new_authority.addr
  · simp [print_stake_authorize_both, hs, hw, hprimary, hcustodian, hauthority, haddr]
  · simp [print_stake_authorize_both, hs, hw, hprimary, hcustodian, hauthority, haddr]

/-- The same for the vote program. -/
theorem print_vote_authorize_both_new {voter withdrawer : VoteAuthorizeInfo}
    (hv : voter.authorize = .VoteAuthorizeVoter)
    (hw : withdrawer.authorize = .VoteAuthorizeWithdrawer) :
    (print_vote_authorize_both print_config [.ProgramIdVote (.VoteAuthorize voter),
      .ProgramIdVote (.VoteAuthorize withdrawer)]).sets P ↔
      if voter.new_authority.addr = withdrawer.new_authority.addr then
        P ⟨"New authorities", .SummaryItemPubkey voter.new_authority⟩
      else
        P ⟨"New vote auth", .SummaryItemPubkey voter.new_authority⟩ ∨
          P ⟨"New withdraw auth", .SummaryItemPubkey withdrawer.new_authority⟩ := by
  have hprimary := not_new_authority hP "Set vote auth" (by decide)
  have hauthority := not_new_authority hP "Authorized by" (by decide)
  by_cases haddr : voter.new_authority.addr = withdrawer.new_authority.addr
  · simp [print_vote_authorize_both, hv, hw, hprimary, hauthority, haddr]
  · simp [print_vote_authorize_both, hv, hw, hprimary, hauthority, haddr]

/-- The items of the nonce instruction have other titles, too. -/
theorem print_nonced_transaction_sentinel_new (nonce : SystemAdvanceNonceInfo) :
    ¬(print_system_nonced_transaction_sentinel nonce print_config).sets P := by
  have haccount := not_new_authority hP "Nonce account" (by decide)
  have hauthority := not_new_authority hP "Nonce authority" (by decide)
  simp [print_system_nonced_transaction_sentinel, haccount, hauthority]

/-- A pair shows the new authorities of its two instructions, which it compares by
address. It is one statement for the four patterns, whose printers differ in their
titles only. -/
theorem print_authorize_both_new (pattern : AuthorizeBoth) {header : MessageHeader}
    {first second : Instruction} {info₁ info₂ : InstructionInfo} {new₁ new₂ : PubkeyRef}
    (hr : Recognised [info₁, info₂])
    (hmatch : instruction_infos_match_briefs [info₁, info₂] pattern.brief 2 = true)
    (hinfo₁ : parse_instruction_info first header = info₁)
    (hinfo₂ : parse_instruction_info second header = info₂)
    (hnew₁ : first.new_authority header pattern.checked = new₁)
    (hnew₂ : second.new_authority header pattern.checked = new₂) :
    (print_transaction_nonce_processed print_config [info₁, info₂]).sets P ↔
      if new₁.addr = new₂.addr then
        P ⟨"New authorities", .SummaryItemPubkey new₁⟩
      else
        P ⟨pattern.new_title, .SummaryItemPubkey new₁⟩ ∨
          P ⟨"New withdraw auth", .SummaryItemPubkey new₂⟩ := by
  cases pattern with
  | stake =>
    obtain ⟨stake₁, stake₂, rfl, rfl, hkind₁, -⟩ := match_both hmatch matches_stake matches_stake
    cases hr with
    | stake_authorize_both staker withdrawer hs hw =>
      rw [← hnew₁, ← hnew₂, AuthorizeBoth.checked, ← (stake_authorize_info hinfo₁).2,
        ← (stake_authorize_info hinfo₂).2]
      exact print_stake_authorize_both_new print_config hP hs hw
    | stake_authorize_checked_both => cases hkind₁
  | stake_checked =>
    obtain ⟨stake₁, stake₂, rfl, rfl, hkind₁, -⟩ := match_both hmatch matches_stake matches_stake
    cases hr with
    | stake_authorize_both => cases hkind₁
    | stake_authorize_checked_both staker withdrawer hs hw =>
      rw [← hnew₁, ← hnew₂, AuthorizeBoth.checked, ← stake_authorize_checked_info hinfo₁,
        ← stake_authorize_checked_info hinfo₂]
      exact print_stake_authorize_both_new print_config hP hs hw
  | vote =>
    obtain ⟨vote₁, vote₂, rfl, rfl, hkind₁, -⟩ := match_both hmatch matches_vote matches_vote
    cases hr with
    | vote_authorize_both voter withdrawer hv hw =>
      rw [← hnew₁, ← hnew₂, AuthorizeBoth.checked, ← (vote_authorize_info hinfo₁).2,
        ← (vote_authorize_info hinfo₂).2]
      exact print_vote_authorize_both_new print_config hP hv hw
    | vote_authorize_checked_both => cases hkind₁
  | vote_checked =>
    obtain ⟨vote₁, vote₂, rfl, rfl, hkind₁, -⟩ := match_both hmatch matches_vote matches_vote
    cases hr with
    | vote_authorize_both => cases hkind₁
    | vote_authorize_checked_both voter withdrawer hv hw =>
      rw [← hnew₁, ← hnew₂, AuthorizeBoth.checked, ← vote_authorize_checked_info hinfo₁,
        ← vote_authorize_checked_info hinfo₂]
      exact print_vote_authorize_both_new print_config hP hv hw

end Printing

/-! ## Where the new authorities lie -/

/-- The room for a new authority that is not an account. -/
theorem unchecked_data_length {pattern : AuthorizeBoth} (hchecked : pattern.checked = false)
    {header : MessageHeader} {first second : Instruction}
    (hmatch : instruction_infos_match_briefs
      [parse_instruction_info first header, parse_instruction_info second header]
      pattern.brief 2 = true) :
    4 + PUBKEY_SIZE ≤ first.data.buffer.length := by
  cases pattern with
  | stake =>
    obtain ⟨stake₁, -, hinfo, -, hkind, -⟩ := match_both hmatch matches_stake matches_stake
    cases stake₁ with
    | StakeAuthorize authorize => exact (stake_authorize_info hinfo).1
    | _ => cases hkind
  | vote =>
    obtain ⟨vote₁, -, hinfo, -, hkind, -⟩ := match_both hmatch matches_vote matches_vote
    cases vote₁ with
    | VoteAuthorize authorize => exact (vote_authorize_info hinfo).1
    | _ => cases hkind
  | stake_checked => cases hchecked
  | vote_checked => cases hchecked

/-- They lie at one address when they are one entry of the account table, and only then:
two keys in the data of two instructions lie apart, even when they are equal. -/
theorem new_authority_addr_eq (pattern : AuthorizeBoth) {header : MessageHeader}
    {first second : Instruction}
    (horder : first.data.addr + first.data.buffer.length ≤ second.data.addr)
    (hmatch : instruction_infos_match_briefs
      [parse_instruction_info first header, parse_instruction_info second header]
      pattern.brief 2 = true) :
    (first.new_authority header pattern.checked).addr =
        (second.new_authority header pattern.checked).addr ↔
      pattern.checked = true ∧ first.new_authority_index = second.new_authority_index := by
  cases hchecked : pattern.checked with
  | false =>
    have hroom := unchecked_data_length hchecked hmatch
    refine iff_of_false (fun haddr => ?_) (fun h => Bool.false_ne_true h.1)
    change first.data.addr + 4 = second.data.addr + 4 at haddr
    omega
  | true =>
    rw [and_iff_right rfl]
    change header.pubkeys.addr + _ = header.pubkeys.addr + _ ↔ _
    rw [← UInt8.toNat_inj]
    simp only [PUBKEY_SIZE]
    omega

/-- At one address there is one key. -/
theorem new_authority_key_eq (pattern : AuthorizeBoth) {header : MessageHeader}
    {first second : Instruction}
    (horder : first.data.addr + first.data.buffer.length ≤ second.data.addr)
    (hmatch : instruction_infos_match_briefs
      [parse_instruction_info first header, parse_instruction_info second header]
      pattern.brief 2 = true)
    (haddr : (first.new_authority header pattern.checked).addr =
      (second.new_authority header pattern.checked).addr) :
    (first.new_authority header pattern.checked).key =
      (second.new_authority header pattern.checked).key := by
  obtain ⟨hchecked, hindex⟩ := (new_authority_addr_eq pattern horder hmatch).mp haddr
  rw [Instruction.new_authority, Instruction.new_authority, hchecked, hindex]
  rfl

/-! ## What the summary holds -/

/-- The pattern's own title is one of the new authorities'. -/
theorem new_title_mem (pattern : AuthorizeBoth) : pattern.new_title ∈ new_authority_titles := by
  cases pattern <;> decide

/-- It is not the title of the merged item. -/
theorem new_title_ne (pattern : AuthorizeBoth) : pattern.new_title ≠ "New authorities" := by
  cases pattern <;> decide

/-- The withdrawer's title is one of the new authorities' too. -/
theorem withdraw_title_mem : "New withdraw auth" ∈ new_authority_titles := by decide

/-- It is not the title of the merged item either. -/
theorem withdraw_title_ne : "New withdraw auth" ≠ "New authorities" := by decide

section Summary

variable (pattern : AuthorizeBoth) {summary : TransactionSummary} {new₁ new₂ : PubkeyRef}

/-- One new authority is displayed. -/
theorem merged_by_value_of_one
    (hone : ∀ item : SummaryItem, item.title ∈ new_authority_titles →
      (item ∈ summary.items ↔ item = ⟨"New authorities", .SummaryItemPubkey new₁⟩)) :
    MergedByValue pattern.new_title new₁.key new₁.key summary := by
  have hmem := (hone _ List.mem_cons_self).mpr rfl
  refine ⟨iff_of_true ⟨_, hmem, rfl⟩ rfl, fun _ => ⟨⟨_, hmem, rfl, rfl⟩, ?_⟩, fun h => absurd rfl h⟩
  rintro ⟨item, hitem, htitle | htitle⟩
  · rw [hone item (htitle ▸ new_title_mem pattern)] at hitem
    rw [hitem] at htitle
    exact new_title_ne pattern htitle.symm
  · rw [hone item (htitle ▸ withdraw_title_mem)] at hitem
    rw [hitem] at htitle
    exact withdraw_title_ne htitle.symm

/-- Two are. -/
theorem merged_by_value_of_two
    (htwo : ∀ item : SummaryItem, item.title ∈ new_authority_titles →
      (item ∈ summary.items ↔ item = ⟨pattern.new_title, .SummaryItemPubkey new₁⟩ ∨
        item = ⟨"New withdraw auth", .SummaryItemPubkey new₂⟩)) :
    MergedByValue pattern.new_title new₁.key new₂.key summary ↔ new₁.key ≠ new₂.key := by
  have hnone : ¬∃ item ∈ summary.items, item.title = "New authorities" := by
    rintro ⟨item, hitem, htitle⟩
    rw [htwo item (htitle ▸ List.mem_cons_self)] at hitem
    rcases hitem with rfl | rfl
    · exact new_title_ne pattern htitle
    · exact withdraw_title_ne htitle
  constructor
  · exact fun h hkey => hnone (h.merged_iff.mpr hkey)
  · intro hkey
    have hfirst := (htwo _ (new_title_mem pattern)).mpr (Or.inl rfl)
    have hsecond := (htwo _ withdraw_title_mem).mpr (Or.inr rfl)
    exact ⟨iff_of_false hnone hkey, fun h => absurd h hkey,
      fun _ => ⟨⟨_, hfirst, rfl, rfl⟩, _, hsecond, rfl, rfl⟩⟩

end Summary

/-! ## Messages -/

section Messages

variable {message_body : Parser} {print_config : PrintConfig} {summary : TransactionSummary}
  {instructions : List Instruction} {first second : Instruction}

/-- What is displayed of the new authorities. -/
theorem authorize_both_items (pattern : AuthorizeBoth)
    (ha : accepts message_body print_config summary)
    (hread : BodyReads print_config.header message_body instructions)
    (hshown : displayed_instructions print_config.header instructions = [first, second])
    (hmatch : instruction_infos_match_briefs
      [parse_instruction_info first print_config.header,
        parse_instruction_info second print_config.header] pattern.brief 2 = true)
    {new₁ new₂ : PubkeyRef}
    (hnew₁ : first.new_authority print_config.header pattern.checked = new₁)
    (hnew₂ : second.new_authority print_config.header pattern.checked = new₂)
    (item : SummaryItem) (htitle : item.title ∈ new_authority_titles) :
    item ∈ summary.items ↔
      if new₁.addr = new₂.addr then
        item = ⟨"New authorities", .SummaryItemPubkey new₁⟩
      else
        item = ⟨pattern.new_title, .SummaryItemPubkey new₁⟩ ∨
          item = ⟨"New withdraw auth", .SummaryItemPubkey new₂⟩ := by
  have hp := accepts_infos ha hread
  have hr := accepts_recognised hp ha
  have hP : ∀ item', item = item' → item'.title ∈ new_authority_titles := by
    rintro _ rfl
    exact htitle
  have hmem : item ∈ summary.items ↔ ∃ item' ∈ summary.items, item = item' := by
    simp only [exists_eq_right']
  rw [hmem, accepts_items hp ha, print_transaction_sets_or_nonce print_config
    (print_nonced_transaction_sentinel_new print_config hP)]
  rw [displayed_instructions_infos, hshown] at hr ⊢
  exact print_authorize_both_new print_config hP pattern hr hmatch rfl rfl hnew₁ hnew₂

/-- **Equal new authorities are merged by value if and only if** they are named by one entry of
the account table; different ones always are two items. -/
theorem new_authorities_merged_iff (pattern : AuthorizeBoth)
    (ha : accepts message_body print_config summary)
    (hread : BodyReads print_config.header message_body instructions)
    (hshown : displayed_instructions print_config.header instructions = [first, second])
    (hmatch : instruction_infos_match_briefs
      [parse_instruction_info first print_config.header,
        parse_instruction_info second print_config.header] pattern.brief 2 = true) :
    MergedByValue pattern.new_title
        (first.new_authority print_config.header pattern.checked).key
        (second.new_authority print_config.header pattern.checked).key summary ↔
      (first.new_authority print_config.header pattern.checked).key ≠
          (second.new_authority print_config.header pattern.checked).key ∨
        pattern.checked = true ∧ first.new_authority_index = second.new_authority_index := by
  have horder := displayed_instructions_in_order hread hshown
  have hitems := authorize_both_items pattern ha hread hshown hmatch rfl rfl
  rw [← new_authority_addr_eq pattern horder hmatch]
  by_cases haddr : (first.new_authority print_config.header pattern.checked).addr =
      (second.new_authority print_config.header pattern.checked).addr
  · simp only [if_pos haddr] at hitems
    rw [← new_authority_key_eq pattern horder hmatch haddr]
    exact iff_of_true (merged_by_value_of_one pattern hitems) (Or.inr haddr)
  · simp only [if_neg haddr] at hitems
    rw [or_iff_left haddr]
    exact merged_by_value_of_two pattern hitems

end Messages

/-- The staker of an account and its withdrawer are changed, each to a key in the data. -/
def stake_authorities_message (staker withdrawer : UInt8) : Message where
  version := none
  num_required_signatures := 1
  num_readonly_signed_accounts := 0
  num_readonly_unsigned_accounts := 2
  pubkeys := [Pubkey.fill 1, Pubkey.fill 2, Pubkey.fill 3, stake_program_id]
  blockhash := Hash.fill 9
  instructions :=
    [⟨3, [1, 2, 0], [1, 0, 0, 0] ++ (Pubkey.fill staker).data ++ [0, 0, 0, 0]⟩,
      ⟨3, [1, 2, 0], [1, 0, 0, 0] ++ (Pubkey.fill withdrawer).data ++ [1, 0, 0, 0]⟩]
  version_lt := legacy_version_lt
  legacy_lt := legacy_signature_lt
  pubkeys_lt := by decide
  instructions_lt := by simp [LENGTH_MAX]
  accounts_lt := by simp [LENGTH_MAX]
  data_lt := by simp [LENGTH_MAX, Pubkey.size, PUBKEY_SIZE]

/-- Its instructions, as the parser reads them. -/
def stake_authority_instruction (addr : ℕ) (new_authority authorize : UInt8) : Instruction :=
  ⟨3, [1, 2, 0],
    ⟨addr, [1, 0, 0, 0] ++ (Pubkey.fill new_authority).data ++ [authorize, 0, 0, 0]⟩⟩

theorem different_authorities_separate : ∃ header message_body summary,
    parse_message_header ⟨0, (stake_authorities_message 7 8).encode⟩ =
      some (header, message_body) ∧
    accepts message_body ⟨header, false, ⟨4, Pubkey.fill 1⟩⟩ summary ∧
    MergedByValue "New stake auth" (Pubkey.fill 7) (Pubkey.fill 8) summary := by
  obtain ⟨header, message_body, infos, summary, hparse, -, ha, htimes, hlegacy, hshown, hmatch,
    hkeys⟩ := review_any (P := fun header message_body _ _ =>
      times parse_instruction header.instructions_length message_body =
        some ([stake_authority_instruction 171 7 0, stake_authority_instruction 217 8 1],
          ⟨257, []⟩) ∧
      header.versioned = false ∧
      displayed_instructions header
          [stake_authority_instruction 171 7 0, stake_authority_instruction 217 8 1] =
        [stake_authority_instruction 171 7 0, stake_authority_instruction 217 8 1] ∧
      instruction_infos_match_briefs
        [parse_instruction_info (stake_authority_instruction 171 7 0) header,
          parse_instruction_info (stake_authority_instruction 217 8 1) header]
        AuthorizeBoth.stake.brief 2 = true ∧
      ((stake_authority_instruction 171 7 0).new_authority header false).key ≠
        ((stake_authority_instruction 217 8 1).new_authority header false).key)
      (by decide +kernel :
        (review (stake_authorities_message 7 8).encode false ⟨4, Pubkey.fill 1⟩).any _ = true)
  have hread : BodyReads header message_body
      [stake_authority_instruction 171 7 0, stake_authority_instruction 217 8 1] := by
    refine ⟨_, htimes, ?_⟩
    rw [BodyEnds, hlegacy]
    rfl
  exact ⟨header, message_body, summary, hparse, ha,
    (new_authorities_merged_iff .stake ha hread hshown hmatch).mpr (Or.inl hkeys)⟩

/-- One key in both instructions is displayed twice. -/
theorem equal_authorities_separate : ∃ header message_body instructions summary,
    parse_message_header ⟨0, (stake_authorities_message 8 8).encode⟩ =
      some (header, message_body) ∧
    BodyReads header message_body instructions ∧
    accepts message_body ⟨header, false, ⟨4, Pubkey.fill 1⟩⟩ summary ∧
    instruction_infos_match_briefs (instructions.map (parse_instruction_info · header))
      stake_authorize_both_brief 2 = true ∧
    instructions.map (fun i => (i.new_authority header false).key) =
      [Pubkey.fill 8, Pubkey.fill 8] ∧
    ¬MergedByValue "New stake auth" (Pubkey.fill 8) (Pubkey.fill 8) summary := by
  obtain ⟨header, message_body, infos, summary, hparse, -, ha, htimes, hlegacy, hmatch, hkeys,
    hitems⟩ := review_any (P := fun header message_body _ summary =>
      times parse_instruction header.instructions_length message_body =
        some ([stake_authority_instruction 171 8 0, stake_authority_instruction 217 8 1],
          ⟨257, []⟩) ∧
      header.versioned = false ∧
      instruction_infos_match_briefs
        ([stake_authority_instruction 171 8 0, stake_authority_instruction 217 8 1].map
          (parse_instruction_info · header)) stake_authorize_both_brief 2 = true ∧
      [stake_authority_instruction 171 8 0, stake_authority_instruction 217 8 1].map
          (fun i => (i.new_authority header false).key) = [Pubkey.fill 8, Pubkey.fill 8] ∧
      ¬∃ item ∈ summary.items, item.title = "New authorities")
      (by decide +kernel :
        (review (stake_authorities_message 8 8).encode false ⟨4, Pubkey.fill 1⟩).any _ = true)
  have hread : BodyReads header message_body
      [stake_authority_instruction 171 8 0, stake_authority_instruction 217 8 1] := by
    refine ⟨_, htimes, ?_⟩
    rw [BodyEnds, hlegacy]
    rfl
  exact ⟨header, message_body, _, summary, hparse, hread, ha, hmatch, hkeys,
    fun h => hitems (h.merged_iff.mpr rfl)⟩

end RenecLedger
