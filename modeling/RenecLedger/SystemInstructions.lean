/-
The system instructions that the parser accepts, and what it reads them as.

`SystemInstruction` is what an instruction says: its accounts in their order, as indices into the
keys of the message, and the fields of its data behind the tag. The parser accepts the accounts and
the data of an instruction exactly if they begin with those of one that it supports, and the info it
returns is that one's (`system_instructions_iff`): none is mistaken for another, no field for its
neighbour, and what is shorter, unsupported or unknown is rejected.
-/
import RenecLedger.InstructionLayout
import RenecLedger.System

set_option autoImplicit false

open ReaderLib

namespace RenecLedger

/-! ## System instructions -/

/-- The instructions of `SystemInstructionKind` that are supported. Two of them end in fields that
the parser does not read: the space and the owner of a new account. -/
inductive SystemInstruction
  | CreateAccount (from_ to_ : UInt8) (lamports : UInt64)
  | Assign (account : UInt8) (program_id : Pubkey)
  | Transfer (from_ to_ : UInt8) (lamports : UInt64)
  | CreateAccountWithSeed (from_ to_ : UInt8) (base : Pubkey) (seed : Seed) (lamports : UInt64)
  | AdvanceNonceAccount (account recent_blockhashes authority : UInt8)
  | WithdrawNonceAccount (account to_ recent_blockhashes rent authority : UInt8)
    (lamports : UInt64)
  | InitializeNonceAccount (account recent_blockhashes rent : UInt8) (authority : Pubkey)
  | AuthorizeNonceAccount (account authority : UInt8) (new_authority : Pubkey)
  | Allocate (account : UInt8) (space : UInt64)
  | AllocateWithSeed (account base_account : UInt8) (base : Pubkey) (seed : Seed) (space : UInt64)
    (program_id : Pubkey)
deriving DecidableEq

/-- The numbers of `SystemInstructionKind`. -/
def SystemInstructionKind.code : SystemInstructionKind → UInt32
  | .SystemCreateAccount => 0
  | .SystemAssign => 1
  | .SystemTransfer => 2
  | .SystemCreateAccountWithSeed => 3
  | .SystemAdvanceNonceAccount => 4
  | .SystemWithdrawNonceAccount => 5
  | .SystemInitializeNonceAccount => 6
  | .SystemAuthorizeNonceAccount => 7
  | .SystemAllocate => 8
  | .SystemAllocateWithSeed => 9
  | .SystemAssignWithSeed => 10

namespace SystemInstruction

/-- The tag an instruction is written with. -/
def kind : SystemInstruction → SystemInstructionKind
  | CreateAccount .. => .SystemCreateAccount
  | Assign .. => .SystemAssign
  | Transfer .. => .SystemTransfer
  | CreateAccountWithSeed .. => .SystemCreateAccountWithSeed
  | AdvanceNonceAccount .. => .SystemAdvanceNonceAccount
  | WithdrawNonceAccount .. => .SystemWithdrawNonceAccount
  | InitializeNonceAccount .. => .SystemInitializeNonceAccount
  | AuthorizeNonceAccount .. => .SystemAuthorizeNonceAccount
  | Allocate .. => .SystemAllocate
  | AllocateWithSeed .. => .SystemAllocateWithSeed

/-- The indices an instruction lists, in the order the program expects them. -/
def accounts : SystemInstruction → List UInt8
  | CreateAccount from_ to_ _ => [from_, to_]
  | Assign account _ => [account]
  | Transfer from_ to_ _ => [from_, to_]
  | CreateAccountWithSeed from_ to_ _ _ _ => [from_, to_]
  | AdvanceNonceAccount account recent_blockhashes authority =>
    [account, recent_blockhashes, authority]
  | WithdrawNonceAccount account to_ recent_blockhashes rent authority _ =>
    [account, to_, recent_blockhashes, rent, authority]
  | InitializeNonceAccount account recent_blockhashes rent _ => [account, recent_blockhashes, rent]
  | AuthorizeNonceAccount account authority _ => [account, authority]
  | Allocate account _ => [account]
  | AllocateWithSeed account base_account _ _ _ _ => [account, base_account]

/-- The fields behind the tag. -/
def body : SystemInstruction → List UInt8
  | CreateAccount _ _ lamports => encode_u64 lamports
  | Assign _ program_id => program_id.data
  | Transfer _ _ lamports => encode_u64 lamports
  | CreateAccountWithSeed _ _ base seed lamports =>
    base.data ++ (seed.encode ++ encode_u64 lamports)
  | AdvanceNonceAccount .. => []
  | WithdrawNonceAccount _ _ _ _ _ lamports => encode_u64 lamports
  | InitializeNonceAccount _ _ _ authority => authority.data
  | AuthorizeNonceAccount _ _ new_authority => new_authority.data
  | Allocate _ space => encode_u64 space
  | AllocateWithSeed _ _ base seed space program_id =>
    base.data ++ (seed.encode ++ (encode_u64 space ++ program_id.data))

/-- The bytes of an instruction: its tag in four, then its body. -/
def encode (instruction : SystemInstruction) : List UInt8 :=
  encode_u32 instruction.kind.code ++ instruction.body

/-- What the instruction is read as, when its body lies at `addr`. -/
def info (header : MessageHeader) (addr : ℕ) : SystemInstruction → SystemInfo
  | CreateAccount from_ to_ lamports =>
    .SystemCreateAccount { from_ := header.account from_, to_ := header.account to_, lamports }
  | Assign account program_id =>
    .SystemAssign { account := header.account account, program_id := ⟨addr, program_id⟩ }
  | Transfer from_ to_ lamports =>
    .SystemTransfer { from_ := header.account from_, to_ := header.account to_, lamports }
  | CreateAccountWithSeed from_ to_ base seed lamports =>
    .SystemCreateAccountWithSeed
      { from_ := header.account from_
        to_ := header.account to_
        base := ⟨addr, base⟩
        seed := ⟨addr + PUBKEY_SIZE + 8, seed.bytes⟩
        lamports }
  | AdvanceNonceAccount account _ authority =>
    .SystemAdvanceNonceAccount
      { account := header.account account, authority := header.account authority }
  | WithdrawNonceAccount account to_ _ _ authority lamports =>
    .SystemWithdrawNonceAccount
      { account := header.account account
        authority := header.account authority
        to_ := header.account to_
        lamports }
  | InitializeNonceAccount account _ _ authority =>
    .SystemInitializeNonceAccount
      { account := header.account account, authority := ⟨addr, authority⟩ }
  | AuthorizeNonceAccount account authority new_authority =>
    .SystemAuthorizeNonceAccount
      { account := header.account account
        authority := header.account authority
        new_authority := ⟨addr, new_authority⟩ }
  | Allocate account space => .SystemAllocate { account := header.account account, space }
  | AllocateWithSeed account _ base seed space program_id =>
    .SystemAllocateWithSeed
      { account := header.account account
        base := ⟨addr, base⟩
        seed := ⟨addr + PUBKEY_SIZE + 8, seed.bytes⟩
        space
        program_id := ⟨addr + PUBKEY_SIZE + seed.encode.length + 8, program_id⟩ }

end SystemInstruction

/-- The tag is read back from its four bytes, and from no others. -/
theorem reads_as_system_kind :
    ReadsAs parse_system_instruction_kind (fun kind => encode_u32 kind.code)
      fun _ kind => kind := by
  refine reads_as_u32.tag fun maybe_kind c kind d => ?_
  rw [← UInt32.toNat_inj]
  generalize maybe_kind.toNat = tag
  constructor
  · intro h
    split at h <;> cases h <;> exact ⟨rfl, rfl⟩
  · rintro ⟨rfl, rfl⟩
    cases kind <;> rfl

/-! ## The parse functions -/

section Parse

variable {header : MessageHeader} {instruction : Instruction} {c : Parser}

attribute [local simp] cons_prefix append_prefix Pubkey.size Cursor.advance and_assoc

/-- The two accounts and the deposit; what the data goes on with does not matter. -/
theorem parse_system_create_account_iff {info : SystemCreateAccountInfo} :
    (∃ d, parse_system_create_account_instruction instruction header c = some (info, d)) ↔
      ∃ from_ to_ lamports, [from_, to_] <+: instruction.seen ∧
        encode_u64 lamports <+: c.buffer ∧
        info = ⟨header.account from_, header.account to_, lamports⟩ := by
  simp [-bind_pure_comp, parse_system_create_account_instruction]

/-- The account from the list, its new owner from the data, where it lies. -/
theorem parse_system_assign_iff {info : SystemAssignInfo} :
    (∃ d, parse_system_assign_instruction instruction header c = some (info, d)) ↔
      ∃ account, ∃ program_id : Pubkey, [account] <+: instruction.seen ∧
        program_id.data <+: c.buffer ∧ info = ⟨header.account account, ⟨c.addr, program_id⟩⟩ := by
  simp [-bind_pure_comp, parse_system_assign_instruction]

/-- The two ends from the list and the amount from the data. -/
theorem parse_system_transfer_iff {info : SystemTransferInfo} :
    (∃ d, parse_system_transfer_instruction instruction header c = some (info, d)) ↔
      ∃ from_ to_ lamports, [from_, to_] <+: instruction.seen ∧
        encode_u64 lamports <+: c.buffer ∧
        info = ⟨header.account from_, header.account to_, lamports⟩ := by
  simp [-bind_pure_comp, parse_system_transfer_instruction]

/-- The seed is a length and its bytes, and the struct keeps where the bytes lie. -/
theorem parse_system_create_account_with_seed_iff {info : SystemCreateAccountWithSeedInfo} :
    (∃ d, parse_system_create_account_with_seed_instruction instruction header c =
        some (info, d)) ↔
      ∃ from_ to_, ∃ base : Pubkey, ∃ seed : Seed, ∃ lamports,
        [from_, to_] <+: instruction.seen ∧
        base.data ++ (seed.encode ++ encode_u64 lamports) <+: c.buffer ∧
        info = ⟨header.account from_, header.account to_, ⟨c.addr, base⟩,
          ⟨c.addr + PUBKEY_SIZE + 8, seed.bytes⟩, lamports⟩ := by
  simp [-bind_pure_comp, parse_system_create_account_with_seed_instruction]

/-- Of three accounts the middle one is read and dropped. -/
theorem parse_system_advance_nonce_account_iff {info : SystemAdvanceNonceInfo} :
    (∃ d, parse_system_advance_nonce_account_instruction instruction header c =
        some (info, d)) ↔
      ∃ account recent_blockhashes authority,
        [account, recent_blockhashes, authority] <+: instruction.seen ∧
        info = ⟨header.account account, header.account authority⟩ := by
  simp [-bind_pure_comp, parse_system_advance_nonce_account_instruction]

/-- Of five accounts the two sysvars are read and dropped. -/
theorem parse_system_withdraw_nonce_account_iff {info : SystemWithdrawNonceInfo} :
    (∃ d, parse_system_withdraw_nonce_account_instruction instruction header c =
        some (info, d)) ↔
      ∃ account to_ recent_blockhashes rent authority lamports,
        [account, to_, recent_blockhashes, rent, authority] <+: instruction.seen ∧
        encode_u64 lamports <+: c.buffer ∧
        info = ⟨header.account account, header.account authority, header.account to_,
          lamports⟩ := by
  simp [-bind_pure_comp, parse_system_withdraw_nonce_account_instruction]

/-- The two sysvars have to be listed, whatever they are; the authority comes from the
data. -/
theorem parse_system_initialize_nonce_account_iff {info : SystemInitializeNonceInfo} :
    (∃ d, parse_system_initialize_nonce_account_instruction instruction header c =
        some (info, d)) ↔
      ∃ account recent_blockhashes rent, ∃ authority : Pubkey,
        [account, recent_blockhashes, rent] <+: instruction.seen ∧
        authority.data <+: c.buffer ∧ info = ⟨header.account account, ⟨c.addr, authority⟩⟩ := by
  simp [-bind_pure_comp, parse_system_initialize_nonce_account_instruction]

/-- The account and its authority from the list, the new authority from the data. -/
theorem parse_system_authorize_nonce_account_iff {info : SystemAuthorizeNonceInfo} :
    (∃ d, parse_system_authorize_nonce_account_instruction instruction header c =
        some (info, d)) ↔
      ∃ account authority, ∃ new_authority : Pubkey,
        [account, authority] <+: instruction.seen ∧ new_authority.data <+: c.buffer ∧
        info = ⟨header.account account, header.account authority, ⟨c.addr, new_authority⟩⟩ := by
  simp [-bind_pure_comp, parse_system_authorize_nonce_account_instruction]

/-- The account from the list, its new length from the data. -/
theorem parse_system_allocate_iff {info : SystemAllocateInfo} :
    (∃ d, parse_system_allocate_instruction instruction header c = some (info, d)) ↔
      ∃ account space, [account] <+: instruction.seen ∧
        encode_u64 space <+: c.buffer ∧ info = ⟨header.account account, space⟩ := by
  simp [-bind_pure_comp, parse_system_allocate_instruction]

/-- The base account has to be listed; the base in the info is the one of the data. -/
theorem parse_system_allocate_with_seed_iff {info : SystemAllocateWithSeedInfo} :
    (∃ d, parse_system_allocate_with_seed_instruction instruction header c = some (info, d)) ↔
      ∃ account base_account, ∃ base : Pubkey, ∃ seed : Seed, ∃ space, ∃ program_id : Pubkey,
        [account, base_account] <+: instruction.seen ∧
        base.data ++ (seed.encode ++ (encode_u64 space ++ program_id.data)) <+:
          c.buffer ∧
        info = ⟨header.account account, ⟨c.addr, base⟩, ⟨c.addr + PUBKEY_SIZE + 8, seed.bytes⟩,
          space, ⟨c.addr + PUBKEY_SIZE + seed.encode.length + 8, program_id⟩⟩ := by
  simp [-bind_pure_comp, parse_system_allocate_with_seed_instruction]

/-! ## The instructions -/

variable {info : SystemInfo}

/-- What is returned is what some instruction says, which the accounts and the data begin with. -/
theorem system_instruction_of_info
    (h : parse_system_instructions instruction header = some info) :
    ∃ system : SystemInstruction, system.accounts <+: instruction.seen ∧
      system.encode <+: instruction.data.buffer ∧
      info = system.info header (instruction.data.addr + 4) := by
  obtain ⟨kind, hkind, hinfo⟩ := reads_as_system_kind.run_bind_iff.mp h
  cases kind with
  | SystemCreateAccount =>
    obtain ⟨a, ha, rfl⟩ := returns_info_iff.mp hinfo
    obtain ⟨from_, to_, lamports, hseen, hbody, rfl⟩ :=
      parse_system_create_account_iff.mp ha
    exact ⟨.CreateAccount from_ to_ lamports, hseen,
      append_prefix.mpr ⟨hkind, hbody⟩, rfl⟩
  | SystemAssign =>
    obtain ⟨a, ha, rfl⟩ := returns_info_iff.mp hinfo
    obtain ⟨account, program_id, hseen, hbody, rfl⟩ :=
      parse_system_assign_iff.mp ha
    exact ⟨.Assign account program_id, hseen,
      append_prefix.mpr ⟨hkind, hbody⟩, rfl⟩
  | SystemTransfer =>
    obtain ⟨a, ha, rfl⟩ := returns_info_iff.mp hinfo
    obtain ⟨from_, to_, lamports, hseen, hbody, rfl⟩ :=
      parse_system_transfer_iff.mp ha
    exact ⟨.Transfer from_ to_ lamports, hseen,
      append_prefix.mpr ⟨hkind, hbody⟩, rfl⟩
  | SystemCreateAccountWithSeed =>
    obtain ⟨a, ha, rfl⟩ := returns_info_iff.mp hinfo
    obtain ⟨from_, to_, base, seed, lamports, hseen, hbody, rfl⟩ :=
      parse_system_create_account_with_seed_iff.mp ha
    exact ⟨.CreateAccountWithSeed from_ to_ base seed lamports, hseen,
      append_prefix.mpr ⟨hkind, hbody⟩, rfl⟩
  | SystemAdvanceNonceAccount =>
    obtain ⟨a, ha, rfl⟩ := returns_info_iff.mp hinfo
    obtain ⟨account, recent_blockhashes, authority, hseen, rfl⟩ :=
      parse_system_advance_nonce_account_iff.mp ha
    exact ⟨.AdvanceNonceAccount account recent_blockhashes authority, hseen,
      append_prefix.mpr ⟨hkind, List.nil_prefix⟩, rfl⟩
  | SystemWithdrawNonceAccount =>
    obtain ⟨a, ha, rfl⟩ := returns_info_iff.mp hinfo
    obtain ⟨account, to_, recent_blockhashes, rent, authority, lamports, hseen, hbody, rfl⟩ :=
      parse_system_withdraw_nonce_account_iff.mp ha
    exact ⟨.WithdrawNonceAccount account to_ recent_blockhashes rent authority lamports, hseen,
      append_prefix.mpr ⟨hkind, hbody⟩, rfl⟩
  | SystemInitializeNonceAccount =>
    obtain ⟨a, ha, rfl⟩ := returns_info_iff.mp hinfo
    obtain ⟨account, recent_blockhashes, rent, authority, hseen, hbody, rfl⟩ :=
      parse_system_initialize_nonce_account_iff.mp ha
    exact ⟨.InitializeNonceAccount account recent_blockhashes rent authority, hseen,
      append_prefix.mpr ⟨hkind, hbody⟩, rfl⟩
  | SystemAuthorizeNonceAccount =>
    obtain ⟨a, ha, rfl⟩ := returns_info_iff.mp hinfo
    obtain ⟨account, authority, new_authority, hseen, hbody, rfl⟩ :=
      parse_system_authorize_nonce_account_iff.mp ha
    exact ⟨.AuthorizeNonceAccount account authority new_authority, hseen,
      append_prefix.mpr ⟨hkind, hbody⟩, rfl⟩
  | SystemAllocate =>
    obtain ⟨a, ha, rfl⟩ := returns_info_iff.mp hinfo
    obtain ⟨account, space, hseen, hbody, rfl⟩ :=
      parse_system_allocate_iff.mp ha
    exact ⟨.Allocate account space, hseen,
      append_prefix.mpr ⟨hkind, hbody⟩, rfl⟩
  | SystemAllocateWithSeed =>
    obtain ⟨a, ha, rfl⟩ := returns_info_iff.mp hinfo
    obtain ⟨account, base_account, base, seed, space, program_id, hseen, hbody, rfl⟩ :=
      parse_system_allocate_with_seed_iff.mp ha
    exact ⟨.AllocateWithSeed account base_account base seed space program_id, hseen,
      append_prefix.mpr ⟨hkind, hbody⟩, rfl⟩
  | SystemAssignWithSeed =>
    obtain ⟨d, hbail⟩ := hinfo
    cases hbail

/-- An instruction that the accounts and the data begin with is what the parser returns. -/
theorem info_of_system_instruction {system : SystemInstruction}
    (hseen : system.accounts <+: instruction.seen)
    (hwritten : system.encode <+: instruction.data.buffer) :
    parse_system_instructions instruction header =
      some (system.info header (instruction.data.addr + 4)) := by
  obtain ⟨hkind, hbody⟩ := append_prefix.mp hwritten
  refine reads_as_system_kind.run_bind_iff.mpr ⟨system.kind, hkind, ?_⟩
  cases system with
  | CreateAccount from_ to_ lamports =>
    exact returns_info_iff.mpr ⟨_, parse_system_create_account_iff.mpr
      ⟨from_, to_, lamports, hseen, hbody, rfl⟩, rfl⟩
  | Assign account program_id =>
    exact returns_info_iff.mpr ⟨_, parse_system_assign_iff.mpr
      ⟨account, program_id, hseen, hbody, rfl⟩, rfl⟩
  | Transfer from_ to_ lamports =>
    exact returns_info_iff.mpr ⟨_, parse_system_transfer_iff.mpr
      ⟨from_, to_, lamports, hseen, hbody, rfl⟩, rfl⟩
  | CreateAccountWithSeed from_ to_ base seed lamports =>
    exact returns_info_iff.mpr ⟨_, parse_system_create_account_with_seed_iff.mpr
      ⟨from_, to_, base, seed, lamports, hseen, hbody, rfl⟩, rfl⟩
  | AdvanceNonceAccount account recent_blockhashes authority =>
    exact returns_info_iff.mpr ⟨_, parse_system_advance_nonce_account_iff.mpr
      ⟨account, recent_blockhashes, authority, hseen, rfl⟩, rfl⟩
  | WithdrawNonceAccount account to_ recent_blockhashes rent authority lamports =>
    exact returns_info_iff.mpr ⟨_, parse_system_withdraw_nonce_account_iff.mpr
      ⟨account, to_, recent_blockhashes, rent, authority, lamports, hseen, hbody, rfl⟩, rfl⟩
  | InitializeNonceAccount account recent_blockhashes rent authority =>
    exact returns_info_iff.mpr ⟨_, parse_system_initialize_nonce_account_iff.mpr
      ⟨account, recent_blockhashes, rent, authority, hseen, hbody, rfl⟩, rfl⟩
  | AuthorizeNonceAccount account authority new_authority =>
    exact returns_info_iff.mpr ⟨_, parse_system_authorize_nonce_account_iff.mpr
      ⟨account, authority, new_authority, hseen, hbody, rfl⟩, rfl⟩
  | Allocate account space =>
    exact returns_info_iff.mpr ⟨_, parse_system_allocate_iff.mpr
      ⟨account, space, hseen, hbody, rfl⟩, rfl⟩
  | AllocateWithSeed account base_account base seed space program_id =>
    exact returns_info_iff.mpr ⟨_, parse_system_allocate_with_seed_iff.mpr
      ⟨account, base_account, base, seed, space, program_id, hseen, hbody, rfl⟩, rfl⟩

/-- **System instructions are read as what they say.** The parser returns an info if and only if the
accounts of the instruction and its data begin with those of a supported instruction, and then it is
the info of that instruction. -/
theorem system_instructions_iff (header : MessageHeader) (instruction : Instruction)
    (info : SystemInfo) :
    parse_system_instructions instruction header = some info ↔
      ∃ system : SystemInstruction, system.accounts <+: instruction.seen ∧
        system.encode <+: instruction.data.buffer ∧
        info = system.info header (instruction.data.addr + 4) := by
  constructor
  · exact system_instruction_of_info
  · rintro ⟨system, hseen, hwritten, rfl⟩
    exact info_of_system_instruction hseen hwritten

end Parse

end RenecLedger
