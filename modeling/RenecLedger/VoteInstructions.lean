/-
The vote instructions that the parser accepts, and what it reads them as.

As for the system program, `VoteInstruction` is what an instruction says, and the parser accepts
exactly the layouts of the instructions that it supports (`vote_instructions_iff`). The change of
the validator's identity has two layouts, which only the length of the data tells apart: nothing may
follow there, while the data of the other instructions may go on.
-/
import RenecLedger.InstructionLayout
import RenecLedger.Vote

set_option autoImplicit false

open ReaderLib

namespace RenecLedger

/-! ## Vote instructions -/

/-- The instructions of `VoteInstructionKind` that are supported. -/
inductive VoteInstruction
  | Initialize (account rent clock : UInt8)
    (validator_id vote_authority withdraw_authority : Pubkey) (commission : UInt8)
  | Authorize (account clock authority : UInt8) (new_authority : Pubkey)
    (authorize : VoteAuthorize)
  | Withdraw (account to_ authority : UInt8) (lamports : UInt64)
  | UpdateValidatorId (account new_validator_id authority : UInt8)
  | UpdateValidatorIdOld (account clock authority : UInt8) (new_validator_id : Pubkey)
  | UpdateCommission (account authority commission : UInt8)
  | AuthorizeChecked (account clock authority new_authority : UInt8) (authorize : VoteAuthorize)
deriving DecidableEq

/-- The numbers of `VoteInstructionKind`. -/
def VoteInstructionKind.code : VoteInstructionKind → UInt32
  | .VoteInitialize => 0
  | .VoteAuthorize => 1
  | .VoteVote => 2
  | .VoteWithdraw => 3
  | .VoteUpdateValidatorId => 4
  | .VoteUpdateCommission => 5
  | .VoteSwitchVote => 6
  | .VoteAuthorizeChecked => 7

/-- The numbers of `VoteAuthorize`. -/
def VoteAuthorize.code : VoteAuthorize → UInt32
  | .VoteAuthorizeVoter => 0
  | .VoteAuthorizeWithdrawer => 1

namespace VoteInstruction

/-- The tag an instruction is written with. The two forms of the new identity share
theirs. -/
def kind : VoteInstruction → VoteInstructionKind
  | Initialize .. => .VoteInitialize
  | Authorize .. => .VoteAuthorize
  | Withdraw .. => .VoteWithdraw
  | UpdateValidatorId .. => .VoteUpdateValidatorId
  | UpdateValidatorIdOld .. => .VoteUpdateValidatorId
  | UpdateCommission .. => .VoteUpdateCommission
  | AuthorizeChecked .. => .VoteAuthorizeChecked

/-- The indices an instruction lists, in the order the program expects them. -/
def accounts : VoteInstruction → List UInt8
  | Initialize account rent clock _ _ _ _ => [account, rent, clock]
  | Authorize account clock authority _ _ => [account, clock, authority]
  | Withdraw account to_ authority _ => [account, to_, authority]
  | UpdateValidatorId account new_validator_id authority => [account, new_validator_id, authority]
  | UpdateValidatorIdOld account clock authority _ => [account, clock, authority]
  | UpdateCommission account authority _ => [account, authority]
  | AuthorizeChecked account clock authority new_authority _ =>
    [account, clock, authority, new_authority]

/-- The fields behind the tag. -/
def body : VoteInstruction → List UInt8
  | Initialize _ _ _ validator_id vote_authority withdraw_authority commission =>
    validator_id.data ++ (vote_authority.data ++ (withdraw_authority.data ++ [commission]))
  | Authorize _ _ _ new_authority authorize => new_authority.data ++ encode_u32 authorize.code
  | Withdraw _ _ _ lamports => encode_u64 lamports
  | UpdateValidatorId .. => []
  | UpdateValidatorIdOld _ _ _ new_validator_id => new_validator_id.data
  | UpdateCommission _ _ commission => [commission]
  | AuthorizeChecked _ _ _ _ authorize => encode_u32 authorize.code

/-- The bytes of an instruction: its tag in four, then its body. -/
def encode (instruction : VoteInstruction) : List UInt8 :=
  encode_u32 instruction.kind.code ++ instruction.body

/-- The length of the data counts. -/
def IsWhole : VoteInstruction → Prop
  | UpdateValidatorId .. => True
  | UpdateValidatorIdOld .. => True
  | _ => False

/-- What the instruction is read as, when its body lies at `addr`. -/
def info (header : MessageHeader) (addr : ℕ) : VoteInstruction → VoteInfo
  | Initialize account _ _ validator_id vote_authority withdraw_authority commission =>
    .VoteInitialize
      { account := header.account account
        vote_init :=
          { validator_id := ⟨addr, validator_id⟩
            vote_authority := ⟨addr + PUBKEY_SIZE, vote_authority⟩
            withdraw_authority := ⟨addr + PUBKEY_SIZE + PUBKEY_SIZE, withdraw_authority⟩
            commission := commission.toUInt64 } }
  | Authorize account _ authority new_authority authorize =>
    .VoteAuthorize
      { account := header.account account
        authority := header.account authority
        new_authority := ⟨addr, new_authority⟩
        authorize }
  | Withdraw account to_ authority lamports =>
    .VoteWithdraw
      { account := header.account account
        authority := header.account authority
        to_ := header.account to_
        lamports }
  | UpdateValidatorId account new_validator_id authority =>
    .VoteUpdateValidatorId
      { account := header.account account
        authority := header.account authority
        new_validator_id := header.account new_validator_id }
  | UpdateValidatorIdOld account _ authority new_validator_id =>
    .VoteUpdateValidatorId
      { account := header.account account
        authority := header.account authority
        new_validator_id := ⟨addr, new_validator_id⟩ }
  | UpdateCommission account authority commission =>
    .VoteUpdateCommission
      { account := header.account account, authority := header.account authority, commission }
  | AuthorizeChecked account _ authority new_authority authorize =>
    .VoteAuthorizeChecked
      { account := header.account account
        authority := header.account authority
        new_authority := header.account new_authority
        authorize }

end VoteInstruction

/-! ## The parts of the data -/

/-- The tag is read back from its four bytes, and from no others. -/
theorem reads_as_vote_kind :
    ReadsAs parse_vote_instruction_kind (fun kind => encode_u32 kind.code) fun _ kind => kind := by
  refine reads_as_u32.tag fun maybe_kind c kind d => ?_
  rw [← UInt32.toNat_inj]
  generalize maybe_kind.toNat = tag
  constructor
  · intro h
    split at h <;> cases h <;> exact ⟨rfl, rfl⟩
  · rintro ⟨rfl, rfl⟩
    cases kind <;> rfl

/-- So is the authority's type. -/
theorem reads_as_vote_authorize :
    ReadsAs parse_vote_authorize (fun authorize => encode_u32 authorize.code)
      fun _ authorize => authorize := by
  refine reads_as_u32.tag fun maybe_authorize c authorize d => ?_
  rw [← UInt32.toNat_inj]
  generalize maybe_authorize.toNat = tag
  constructor
  · intro h
    split at h <;> cases h <;> exact ⟨rfl, rfl⟩
  · rintro ⟨rfl, rfl⟩
    cases authorize <;> rfl

/-! ## The parse functions -/

section Parse

variable {header : MessageHeader} {instruction : Instruction} {c : Parser}

attribute [local simp] cons_prefix append_prefix Pubkey.size Cursor.advance and_assoc

/-- Three accounts, of which the sysvars are dropped; the keys and the commission lie
one behind the other. -/
theorem parse_vote_initialize_iff {info : VoteInitializeInfo} :
    (∃ d, parse_vote_initialize_instruction instruction header c = some (info, d)) ↔
      ∃ account rent clock, ∃ validator_id vote_authority withdraw_authority : Pubkey,
        ∃ commission, [account, rent, clock] <+: instruction.seen ∧
        validator_id.data ++ (vote_authority.data ++ (withdraw_authority.data ++ [commission])) <+:
          c.buffer ∧
        info = ⟨header.account account, ⟨⟨c.addr, validator_id⟩,
          ⟨c.addr + PUBKEY_SIZE, vote_authority⟩,
          ⟨c.addr + PUBKEY_SIZE + PUBKEY_SIZE, withdraw_authority⟩, commission.toUInt64⟩⟩ := by
  simp [-bind_pure_comp, parse_vote_initialize_instruction]

/-- Three accounts; the new authority and its type come from the data. -/
theorem parse_vote_authorize_iff {info : VoteAuthorizeInfo} :
    (∃ d, parse_vote_authorize_instruction instruction header c = some (info, d)) ↔
      ∃ account clock authority, ∃ new_authority : Pubkey, ∃ authorize : VoteAuthorize,
        [account, clock, authority] <+: instruction.seen ∧
        new_authority.data ++ encode_u32 authorize.code <+: c.buffer ∧
        info = ⟨header.account account, header.account authority, ⟨c.addr, new_authority⟩,
          authorize⟩ := by
  simp [-bind_pure_comp, parse_vote_authorize_instruction, accepts_field reads_as_vote_authorize]

/-- Three accounts and the amount. -/
theorem parse_vote_withdraw_iff {info : VoteWithdrawInfo} :
    (∃ d, parse_vote_withdraw_instruction instruction header c = some (info, d)) ↔
      ∃ account to_ authority lamports, [account, to_, authority] <+: instruction.seen ∧
        encode_u64 lamports <+: c.buffer ∧
        info = ⟨header.account account, header.account authority, header.account to_,
          lamports⟩ := by
  simp [-bind_pure_comp, parse_vote_withdraw_instruction]

/-- The new identity is an account, or it is written in the data and read before the accounts that
are left. -/
theorem parse_vote_update_validator_id_iff {info : VoteUpdateValidatorIdInfo} :
    (∃ d, parse_vote_update_validator_id_instruction instruction header c = some (info, d)) ↔
      (instruction.data.buffer.length = 4 ∧ ∃ account new_validator_id authority,
        [account, new_validator_id, authority] <+: instruction.seen ∧
        info = ⟨header.account account, header.account authority,
          header.account new_validator_id⟩) ∨
      (instruction.data.buffer.length = 4 + PUBKEY_SIZE ∧ ∃ account clock authority,
        ∃ new_validator_id : Pubkey, [account, clock, authority] <+: instruction.seen ∧
        new_validator_id.data <+: c.buffer ∧
        info = ⟨header.account account, header.account authority,
          ⟨c.addr, new_validator_id⟩⟩) := by
  by_cases hnew : instruction.data.buffer.length = 4
  · simp [-bind_pure_comp, parse_vote_update_validator_id_instruction, hnew, PUBKEY_SIZE]
  · by_cases hold : instruction.data.buffer.length = 4 + PUBKEY_SIZE
    · have hrun : (∃ d, parse_vote_update_validator_id_instruction instruction header c =
          some (info, d)) ↔
          ∃ account, instruction.seen[0]? = some account ∧
            ∃ new_validator_id : Pubkey, new_validator_id.data <+: c.buffer ∧
            ∃ clock, instruction.seen[1]? = some clock ∧
            ∃ authority, instruction.seen[2]? = some authority ∧
            info = ⟨header.account account, header.account authority,
              ⟨c.addr, new_validator_id⟩⟩ := by
        simp [-bind_pure_comp, parse_vote_update_validator_id_instruction, hold, PUBKEY_SIZE]
      have hlonger : ¬ 4 + PUBKEY_SIZE = 4 := by decide
      rw [hrun]
      simp only [hold, hlonger, false_and, true_and, false_or, cons_prefix, List.getElem?_drop,
        List.nil_prefix, and_true]
      constructor
      · rintro ⟨account, h₀, key, hkey, clock, h₁, authority, h₂, rfl⟩
        exact ⟨account, clock, authority, key, ⟨h₀, h₁, h₂⟩, hkey, rfl⟩
      · rintro ⟨account, clock, authority, key, ⟨h₀, h₁, h₂⟩, hkey, rfl⟩
        exact ⟨account, h₀, key, hkey, clock, h₁, authority, h₂, rfl⟩
    · simp [-bind_pure_comp, parse_vote_update_validator_id_instruction, hnew, hold]

/-- Two accounts and one byte. -/
theorem parse_vote_update_commission_iff {info : VoteUpdateCommissionInfo} :
    (∃ d, parse_vote_update_commission_instruction instruction header c = some (info, d)) ↔
      ∃ account authority commission, [account, authority] <+: instruction.seen ∧
        [commission] <+: c.buffer ∧
        info = ⟨header.account account, header.account authority, commission⟩ := by
  simp [-bind_pure_comp, parse_vote_update_commission_instruction]

/-- Four accounts, the last being the new authority; only its type is in the data. -/
theorem parse_vote_authorize_checked_iff {info : VoteAuthorizeInfo} :
    (∃ d, parse_vote_authorize_checked_instruction instruction header c = some (info, d)) ↔
      ∃ account clock authority new_authority, ∃ authorize : VoteAuthorize,
        [account, clock, authority, new_authority] <+: instruction.seen ∧
        encode_u32 authorize.code <+: c.buffer ∧
        info = ⟨header.account account, header.account authority, header.account new_authority,
          authorize⟩ := by
  simp [-bind_pure_comp, parse_vote_authorize_checked_instruction,
    accepts_field reads_as_vote_authorize]

/-! ## The instructions -/

variable {info : VoteInfo}

/-- What is returned is what some instruction says, which the accounts and the data begin with. -/
theorem vote_instruction_of_info (h : parse_vote_instructions instruction header = some info) :
    ∃ vote : VoteInstruction, vote.accounts <+: instruction.seen ∧
      vote.encode <+: instruction.data.buffer ∧
      (vote.IsWhole → vote.encode = instruction.data.buffer) ∧
      info = vote.info header (instruction.data.addr + 4) := by
  obtain ⟨kind, hkind, hinfo⟩ := reads_as_vote_kind.run_bind_iff.mp h
  cases kind with
  | VoteInitialize =>
    obtain ⟨a, ha, rfl⟩ := returns_info_iff.mp hinfo
    obtain ⟨account, rent, clock, validator_id, vote_authority, withdraw_authority, commission,
      hseen, hbody, rfl⟩ :=
      parse_vote_initialize_iff.mp ha
    exact ⟨.Initialize account rent clock validator_id vote_authority withdraw_authority
      commission, hseen,
      append_prefix.mpr ⟨hkind, hbody⟩, False.elim, rfl⟩
  | VoteAuthorize =>
    obtain ⟨a, ha, rfl⟩ := returns_info_iff.mp hinfo
    obtain ⟨account, clock, authority, new_authority, authorize, hseen, hbody, rfl⟩ :=
      parse_vote_authorize_iff.mp ha
    exact ⟨.Authorize account clock authority new_authority authorize, hseen,
      append_prefix.mpr ⟨hkind, hbody⟩, False.elim, rfl⟩
  | VoteWithdraw =>
    obtain ⟨a, ha, rfl⟩ := returns_info_iff.mp hinfo
    obtain ⟨account, to_, authority, lamports, hseen, hbody, rfl⟩ :=
      parse_vote_withdraw_iff.mp ha
    exact ⟨.Withdraw account to_ authority lamports, hseen,
      append_prefix.mpr ⟨hkind, hbody⟩, False.elim, rfl⟩
  | VoteUpdateCommission =>
    obtain ⟨a, ha, rfl⟩ := returns_info_iff.mp hinfo
    obtain ⟨account, authority, commission, hseen, hbody, rfl⟩ :=
      parse_vote_update_commission_iff.mp ha
    exact ⟨.UpdateCommission account authority commission, hseen,
      append_prefix.mpr ⟨hkind, hbody⟩, False.elim, rfl⟩
  | VoteAuthorizeChecked =>
    obtain ⟨a, ha, rfl⟩ := returns_info_iff.mp hinfo
    obtain ⟨account, clock, authority, new_authority, authorize, hseen, hbody, rfl⟩ :=
      parse_vote_authorize_checked_iff.mp ha
    exact ⟨.AuthorizeChecked account clock authority new_authority authorize, hseen,
      append_prefix.mpr ⟨hkind, hbody⟩, False.elim, rfl⟩
  | VoteUpdateValidatorId =>
    obtain ⟨a, ha, rfl⟩ := returns_info_iff.mp hinfo
    rcases parse_vote_update_validator_id_iff.mp ha with
      ⟨hlength, account, new_validator_id, authority, hseen, rfl⟩ |
      ⟨hlength, account, clock, authority, new_validator_id, hseen, hbody, rfl⟩
    · have hwritten : (VoteInstruction.UpdateValidatorId account new_validator_id
          authority).encode <+: instruction.data.buffer :=
        append_prefix.mpr ⟨hkind, List.nil_prefix⟩
      refine ⟨.UpdateValidatorId account new_validator_id authority, hseen, hwritten,
        fun _ => hwritten.eq_of_length ?_, rfl⟩
      rw [hlength]
      rfl
    · have hwritten : (VoteInstruction.UpdateValidatorIdOld account clock authority
          new_validator_id).encode <+: instruction.data.buffer := append_prefix.mpr ⟨hkind, hbody⟩
      refine ⟨.UpdateValidatorIdOld account clock authority new_validator_id, hseen, hwritten,
        fun _ => hwritten.eq_of_length ?_, rfl⟩
      rw [hlength, VoteInstruction.encode, List.length_append, encode_u32_length,
        VoteInstruction.body, Pubkey.size]
  | VoteVote =>
    obtain ⟨d, hbail⟩ := hinfo
    cases hbail
  | VoteSwitchVote =>
    obtain ⟨d, hbail⟩ := hinfo
    cases hbail

/-- An instruction that the accounts and the data begin with is what the parser returns.
Where the length of the data tells two forms apart, the data has to be the whole of it. -/
theorem info_of_vote_instruction {vote : VoteInstruction}
    (hseen : vote.accounts <+: instruction.seen) (hwritten : vote.encode <+:
      instruction.data.buffer)
    (hwhole : vote.IsWhole → vote.encode = instruction.data.buffer) :
    parse_vote_instructions instruction header =
      some (vote.info header (instruction.data.addr + 4)) := by
  obtain ⟨hkind, hbody⟩ := append_prefix.mp hwritten
  refine reads_as_vote_kind.run_bind_iff.mpr ⟨vote.kind, hkind, ?_⟩
  cases vote with
  | Initialize account rent clock validator_id vote_authority withdraw_authority commission =>
    exact returns_info_iff.mpr ⟨_, parse_vote_initialize_iff.mpr
      ⟨account, rent, clock, validator_id, vote_authority, withdraw_authority, commission, hseen,
        hbody, rfl⟩, rfl⟩
  | Authorize account clock authority new_authority authorize =>
    exact returns_info_iff.mpr ⟨_, parse_vote_authorize_iff.mpr
      ⟨account, clock, authority, new_authority, authorize, hseen, hbody, rfl⟩, rfl⟩
  | Withdraw account to_ authority lamports =>
    exact returns_info_iff.mpr ⟨_, parse_vote_withdraw_iff.mpr
      ⟨account, to_, authority, lamports, hseen, hbody, rfl⟩, rfl⟩
  | UpdateCommission account authority commission =>
    exact returns_info_iff.mpr ⟨_, parse_vote_update_commission_iff.mpr
      ⟨account, authority, commission, hseen, hbody, rfl⟩, rfl⟩
  | AuthorizeChecked account clock authority new_authority authorize =>
    exact returns_info_iff.mpr ⟨_, parse_vote_authorize_checked_iff.mpr
      ⟨account, clock, authority, new_authority, authorize, hseen, hbody, rfl⟩, rfl⟩
  | UpdateValidatorId account new_validator_id authority =>
    have hlength := congrArg List.length (hwhole trivial)
    exact returns_info_iff.mpr ⟨_, parse_vote_update_validator_id_iff.mpr
      (Or.inl ⟨hlength.symm, account, new_validator_id, authority, hseen, rfl⟩), rfl⟩
  | UpdateValidatorIdOld account clock authority new_validator_id =>
    have hlength := congrArg List.length (hwhole trivial)
    rw [VoteInstruction.encode, List.length_append, encode_u32_length, VoteInstruction.body,
      Pubkey.size] at hlength
    exact returns_info_iff.mpr ⟨_, parse_vote_update_validator_id_iff.mpr
      (Or.inr ⟨hlength.symm, account, clock, authority, new_validator_id, hseen, hbody, rfl⟩), rfl⟩

/-- **Vote instructions are read as what they say.** The parser returns an info if and only if the
accounts of the instruction and its data begin with those of a supported instruction (the data is
that of the instruction and no more, where two layouts share a tag), and then it is the info of
that instruction. -/
theorem vote_instructions_iff (header : MessageHeader) (instruction : Instruction)
    (info : VoteInfo) :
    parse_vote_instructions instruction header = some info ↔
      ∃ vote : VoteInstruction, vote.accounts <+: instruction.seen ∧
        vote.encode <+: instruction.data.buffer ∧
        (vote.IsWhole → vote.encode = instruction.data.buffer) ∧
        info = vote.info header (instruction.data.addr + 4) := by
  constructor
  · exact vote_instruction_of_info
  · rintro ⟨vote, hseen, hwritten, hwhole, rfl⟩
    exact info_of_vote_instruction hseen hwritten hwhole

end Parse

end RenecLedger
