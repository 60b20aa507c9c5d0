/-
The stake instructions that the parser accepts, and what it reads them as.

As for the system program, `StakeInstruction` is what an instruction says, and the parser accepts
exactly the layouts of the instructions that it supports (`stake_instructions_iff`). Three of them
end in an account that may be left out; then no other account may follow, or it would be taken for
that one. The lockup of a checked instruction has its custodian among the accounts, that of an
unchecked one in the data.
-/
import RenecLedger.InstructionLayout
import RenecLedger.Stake

set_option autoImplicit false

open ReaderLib

namespace RenecLedger

/-! ## Stake instructions -/

/-- The fields of a lockup that are set, but for its custodian. -/
structure StakeLockupArgs where
  unix_timestamp : Option Int64
  epoch : Option UInt64
deriving DecidableEq

/-- The instructions of `StakeInstructionKind` that are supported. -/
inductive StakeInstruction
  | Initialize (account rent : UInt8) (stake_authority withdraw_authority : Pubkey)
    (unix_timestamp : Int64) (epoch : UInt64) (custodian : Pubkey)
  | Authorize (account clock authority : UInt8) (new_authority : Pubkey)
    (authorize : StakeAuthorize) (custodian : Option UInt8)
  | Delegate (stake vote clock stake_history stake_config authorized : UInt8)
  | Split (account split_account authority : UInt8) (lamports : UInt64)
  | Withdraw (account to_ clock stake_history authority : UInt8) (lamports : UInt64)
  | Deactivate (account clock authority : UInt8)
  | SetLockup (account custodian : UInt8) (lockup : StakeLockupArgs)
    (new_custodian : Option Pubkey)
  | Merge (destination source clock stake_history authority : UInt8)
  | InitializeChecked (account rent stake_authority withdraw_authority : UInt8)
  | AuthorizeChecked (account clock authority new_authority : UInt8) (authorize : StakeAuthorize)
    (custodian : Option UInt8)
  | SetLockupChecked (account custodian : UInt8) (lockup : StakeLockupArgs)
    (new_custodian : Option UInt8)
deriving DecidableEq

/-- The numbers of `StakeInstructionKind`. -/
def StakeInstructionKind.code : StakeInstructionKind → UInt32
  | .StakeInitialize => 0
  | .StakeAuthorize => 1
  | .StakeDelegate => 2
  | .StakeSplit => 3
  | .StakeWithdraw => 4
  | .StakeDeactivate => 5
  | .StakeSetLockup => 6
  | .StakeMerge => 7
  | .StakeAuthorizeWithSeed => 8
  | .StakeInitializeChecked => 9
  | .StakeAuthorizeChecked => 10
  | .StakeAuthorizeCheckedWithSeed => 11
  | .StakeSetLockupChecked => 12

/-- The numbers of `StakeAuthorize`. -/
def StakeAuthorize.code : StakeAuthorize → UInt32
  | .StakeAuthorizeStaker => 0
  | .StakeAuthorizeWithdrawer => 1

/-- Two optional fields, each behind its tag. -/
def StakeLockupArgs.encode (args : StakeLockupArgs) : List UInt8 :=
  encode_optional encode_i64 args.unix_timestamp ++ encode_optional encode_u64 args.epoch

/-- What is not set reads as zero, and its flag says so. -/
def StakeLockupArgs.lockup (args : StakeLockupArgs) (custodian : Option PubkeyRef) :
    StakeLockup where
  present := ⟨args.unix_timestamp.isSome, args.epoch.isSome, custodian.isSome⟩
  unix_timestamp := args.unix_timestamp.getD 0
  epoch := args.epoch.getD 0
  custodian
  custodian_present := id

/-- With no flag set there is no custodian to be had. -/
theorem no_custodian_present :
    StakeLockupHasNone.has_custodian = true → (none : Option PubkeyRef).isSome = true := by
  decide

/-- The lockup of an account that is initialized without one. -/
def no_lockup : StakeLockup := ⟨StakeLockupHasNone, 0, 0, none, no_custodian_present⟩

/-- With no lockup there is none in force. -/
theorem no_lockup_unlocked :
    no_lockup.unix_timestamp > 0 ∨ no_lockup.epoch > 0 → no_lockup.custodian.isSome = true := by
  decide

namespace StakeInstruction

/-- The tag an instruction is written with. -/
def kind : StakeInstruction → StakeInstructionKind
  | Initialize .. => .StakeInitialize
  | Authorize .. => .StakeAuthorize
  | Delegate .. => .StakeDelegate
  | Split .. => .StakeSplit
  | Withdraw .. => .StakeWithdraw
  | Deactivate .. => .StakeDeactivate
  | SetLockup .. => .StakeSetLockup
  | Merge .. => .StakeMerge
  | InitializeChecked .. => .StakeInitializeChecked
  | AuthorizeChecked .. => .StakeAuthorizeChecked
  | SetLockupChecked .. => .StakeSetLockupChecked

/-- The indices an instruction lists, in the order the program expects them; an optional
custodian comes last. -/
def accounts : StakeInstruction → List UInt8
  | Initialize account rent _ _ _ _ _ => [account, rent]
  | Authorize account clock authority _ _ custodian =>
    [account, clock, authority] ++ custodian.toList
  | Delegate stake vote clock stake_history stake_config authorized =>
    [stake, vote, clock, stake_history, stake_config, authorized]
  | Split account split_account authority _ => [account, split_account, authority]
  | Withdraw account to_ clock stake_history authority _ =>
    [account, to_, clock, stake_history, authority]
  | Deactivate account clock authority => [account, clock, authority]
  | SetLockup account custodian _ _ => [account, custodian]
  | Merge destination source clock stake_history authority =>
    [destination, source, clock, stake_history, authority]
  | InitializeChecked account rent stake_authority withdraw_authority =>
    [account, rent, stake_authority, withdraw_authority]
  | AuthorizeChecked account clock authority new_authority _ custodian =>
    [account, clock, authority, new_authority] ++ custodian.toList
  | SetLockupChecked account custodian _ new_custodian =>
    [account, custodian] ++ new_custodian.toList

/-- An account that comes last is left out. -/
def LeavesOut : StakeInstruction → Prop
  | Authorize _ _ _ _ _ custodian => custodian = none
  | AuthorizeChecked _ _ _ _ _ custodian => custodian = none
  | SetLockupChecked _ _ _ new_custodian => new_custodian = none
  | _ => False

/-- The fields behind the tag. -/
def body : StakeInstruction → List UInt8
  | Initialize _ _ stake_authority withdraw_authority unix_timestamp epoch custodian =>
    stake_authority.data ++ (withdraw_authority.data ++ (encode_i64 unix_timestamp ++
      (encode_u64 epoch ++ custodian.data)))
  | Authorize _ _ _ new_authority authorize _ => new_authority.data ++ encode_u32 authorize.code
  | Split _ _ _ lamports => encode_u64 lamports
  | Withdraw _ _ _ _ _ lamports => encode_u64 lamports
  | SetLockup _ _ lockup new_custodian =>
    lockup.encode ++ encode_optional Pubkey.data new_custodian
  | AuthorizeChecked _ _ _ _ authorize _ => encode_u32 authorize.code
  | SetLockupChecked _ _ lockup _ => lockup.encode
  | _ => []

/-- The bytes of an instruction: its tag in four, then its body. -/
def encode (instruction : StakeInstruction) : List UInt8 :=
  encode_u32 instruction.kind.code ++ instruction.body

/-- What the instruction is read as, when its body lies at `addr`. -/
def info (header : MessageHeader) (addr : ℕ) : StakeInstruction → StakeInfo
  | Initialize account _ stake_authority withdraw_authority unix_timestamp epoch custodian =>
    .StakeInitialize
      { account := header.account account
        stake_authority := ⟨addr, stake_authority⟩
        withdraw_authority := ⟨addr + PUBKEY_SIZE, withdraw_authority⟩
        lockup :=
          { present := StakeLockupHasAll
            unix_timestamp
            epoch
            custodian := some ⟨addr + PUBKEY_SIZE + PUBKEY_SIZE + 8 + 8, custodian⟩
            custodian_present := fun _ => rfl }
        lockup_custodian := fun _ => rfl }
  | Authorize account _ authority new_authority authorize custodian =>
    .StakeAuthorize
      { account := header.account account
        authority := header.account authority
        new_authority := ⟨addr, new_authority⟩
        custodian := custodian.map header.account
        authorize }
  | Delegate stake vote _ _ _ authorized =>
    .StakeDelegate
      { stake_pubkey := header.account stake
        vote_pubkey := header.account vote
        authorized_pubkey := header.account authorized }
  | Split account split_account authority lamports =>
    .StakeSplit
      { account := header.account account
        authority := header.account authority
        split_account := header.account split_account
        lamports }
  | Withdraw account to_ _ _ authority lamports =>
    .StakeWithdraw
      { account := header.account account
        authority := header.account authority
        to_ := header.account to_
        lamports }
  | Deactivate account _ authority =>
    .StakeDeactivate { account := header.account account, authority := header.account authority }
  | SetLockup account custodian lockup new_custodian =>
    .StakeSetLockup
      { account := header.account account
        custodian := header.account custodian
        lockup := lockup.lockup
          (new_custodian.map fun key => ⟨addr + lockup.encode.length + 1, key⟩) }
  | Merge destination source _ _ authority =>
    .StakeMerge
      { destination := header.account destination
        source := header.account source
        authority := header.account authority }
  | InitializeChecked account _ stake_authority withdraw_authority =>
    .StakeInitializeChecked
      { account := header.account account
        stake_authority := header.account stake_authority
        withdraw_authority := header.account withdraw_authority
        lockup := no_lockup
        lockup_custodian := no_lockup_unlocked }
  | AuthorizeChecked account _ authority new_authority authorize custodian =>
    .StakeAuthorizeChecked
      { account := header.account account
        authority := header.account authority
        new_authority := header.account new_authority
        custodian := custodian.map header.account
        authorize }
  | SetLockupChecked account custodian lockup new_custodian =>
    .StakeSetLockupChecked
      { account := header.account account
        custodian := header.account custodian
        lockup := lockup.lockup (new_custodian.map header.account) }

end StakeInstruction

/-! ## The parts of the data -/

/-- The tag is read back from its four bytes, and from no others. -/
theorem reads_as_stake_kind :
    ReadsAs parse_stake_instruction_kind (fun kind => encode_u32 kind.code) fun _ kind => kind := by
  refine reads_as_u32.tag fun maybe_kind c kind d => ?_
  rw [← UInt32.toNat_inj]
  generalize maybe_kind.toNat = tag
  constructor
  · intro h
    split at h <;> cases h <;> exact ⟨rfl, rfl⟩
  · rintro ⟨rfl, rfl⟩
    cases kind <;> rfl

/-- So is the authority's type. -/
theorem reads_as_stake_authorize :
    ReadsAs parse_stake_authorize (fun authorize => encode_u32 authorize.code)
      fun _ authorize => authorize := by
  refine reads_as_u32.tag fun maybe_authorize c authorize d => ?_
  rw [← UInt32.toNat_inj]
  generalize maybe_authorize.toNat = tag
  constructor
  · intro h
    split at h <;> cases h <;> exact ⟨rfl, rfl⟩
  · rintro ⟨rfl, rfl⟩
    cases authorize <;> rfl

/-- The time and the epoch come first, and then the custodian if it is looked for. -/
theorem lockupargs_iff {parse_custodian : Bool} {c d : Parser} {lockup : StakeLockup} :
    parse_stake_lockupargs parse_custodian c = some (lockup, d) ↔
      ∃ args : StakeLockupArgs, args.encode <+: c.buffer ∧
        (do
          let custodian ← if parse_custodian then parse_optional parse_pubkey else pure none
          return args.lockup custodian : ParserM StakeLockup) (c.advance args.encode.length) =
            some (lockup, d) := by
  rw [parse_stake_lockupargs, (reads_as_optional reads_as_i64).bind_iff]
  simp only [(reads_as_optional reads_as_u64).bind_iff]
  constructor
  · rintro ⟨unix_timestamp, hunix, epoch, hepoch, h⟩
    refine ⟨⟨unix_timestamp, epoch⟩, append_prefix.mpr ⟨hunix, hepoch⟩, ?_⟩
    rw [StakeLockupArgs.encode, List.length_append, ← Cursor.advance_advance]
    rwa [Option.map_id', Option.map_id'] at h
  · rintro ⟨⟨unix_timestamp, epoch⟩, hwritten, h⟩
    obtain ⟨hunix, hepoch⟩ := append_prefix.mp hwritten
    rw [StakeLockupArgs.encode, List.length_append, ← Cursor.advance_advance] at h
    refine ⟨unix_timestamp, hunix, epoch, hepoch, ?_⟩
    rwa [Option.map_id', Option.map_id']

/-- The arguments of the checked instruction are the two fields alone. -/
theorem reads_as_lockupargs_checked :
    ReadsAs (parse_stake_lockupargs false) StakeLockupArgs.encode fun _ args =>
      args.lockup none := by
  intro c lockup d
  rw [lockupargs_iff]
  constructor
  · rintro ⟨args, hwritten, h⟩
    cases h
    exact ⟨args, hwritten, rfl, rfl⟩
  · rintro ⟨args, hwritten, rfl, rfl⟩
    exact ⟨args, hwritten, rfl⟩

/-- The unchecked instruction has the new custodian behind them, and the struct points
to it. -/
theorem reads_as_lockupargs :
    ReadsAs (parse_stake_lockupargs true)
      (fun x : StakeLockupArgs × Option Pubkey =>
        x.1.encode ++ encode_optional Pubkey.data x.2)
      fun addr x => x.1.lockup (x.2.map (PubkeyRef.mk (addr + x.1.encode.length + 1))) := by
  intro c lockup d
  rw [lockupargs_iff]
  have hcustodian := fun args : StakeLockupArgs =>
    (reads_as_optional reads_as_pubkey).map args.lockup
  constructor
  · rintro ⟨args, hargs, h⟩
    obtain ⟨custodian, hkey, rfl, rfl⟩ := (hcustodian args _ _ _).mp h
    refine ⟨(args, custodian), append_prefix.mpr ⟨hargs, hkey⟩, rfl, ?_⟩
    rw [Cursor.advance_advance, List.length_append]
  · rintro ⟨⟨args, custodian⟩, hwritten, rfl, rfl⟩
    obtain ⟨hargs, hkey⟩ := append_prefix.mp hwritten
    refine ⟨args, hargs, (hcustodian args _ _ _).mpr ⟨custodian, hkey, rfl, ?_⟩⟩
    rw [Cursor.advance_advance, List.length_append]

/-! ## The parse functions -/

section Parse

variable {header : MessageHeader} {instruction : Instruction} {c : Parser}

attribute [local simp] cons_prefix append_prefix Pubkey.size Cursor.advance and_assoc

/-- Two accounts; the authorities, the lockup's fields and its custodian lie one behind
the other. -/
theorem parse_stake_initialize_iff {info : StakeInitializeInfo} :
    (∃ d, parse_stake_initialize_instruction instruction header c = some (info, d)) ↔
      ∃ account rent, ∃ stake_authority withdraw_authority : Pubkey,
        ∃ unix_timestamp epoch, ∃ custodian : Pubkey, [account, rent] <+: instruction.seen ∧
        stake_authority.data ++ (withdraw_authority.data ++ (encode_i64 unix_timestamp ++
          (encode_u64 epoch ++ custodian.data))) <+: c.buffer ∧
        info = ⟨header.account account, ⟨c.addr, stake_authority⟩,
          ⟨c.addr + PUBKEY_SIZE, withdraw_authority⟩,
          ⟨StakeLockupHasAll, unix_timestamp, epoch,
            some ⟨c.addr + PUBKEY_SIZE + PUBKEY_SIZE + 8 + 8, custodian⟩, fun _ => rfl⟩,
          fun _ => rfl⟩ := by
  simp [-bind_pure_comp, parse_stake_initialize_instruction]

/-- A fourth account is the custodian; without one the field is `NULL`. -/
theorem parse_stake_authorize_iff {info : StakeAuthorizeInfo} :
    (∃ d, parse_stake_authorize_instruction instruction header c = some (info, d)) ↔
      ∃ account clock authority, ∃ new_authority : Pubkey, ∃ authorize : StakeAuthorize,
        [account, clock, authority] <+: instruction.seen ∧
        new_authority.data ++ encode_u32 authorize.code <+: c.buffer ∧
        info = ⟨header.account account, header.account authority, ⟨c.addr, new_authority⟩,
          instruction.seen[3]?.map header.account, authorize⟩ := by
  simp [-bind_pure_comp, parse_stake_authorize_instruction, accepts_field reads_as_stake_authorize]

/-- Of six accounts the middle three are read and dropped. -/
theorem parse_delegate_stake_iff {info : StakeDelegateInfo} :
    (∃ d, parse_delegate_stake_instruction instruction header c = some (info, d)) ↔
      ∃ stake vote clock stake_history stake_config authorized,
        [stake, vote, clock, stake_history, stake_config, authorized] <+: instruction.seen ∧
        info = ⟨header.account stake, header.account vote, header.account authorized⟩ := by
  simp [-bind_pure_comp, parse_delegate_stake_instruction]

/-- Three accounts and the amount. -/
theorem parse_stake_split_iff {info : StakeSplitInfo} :
    (∃ d, parse_stake_split_instruction instruction header c = some (info, d)) ↔
      ∃ account split_account authority lamports,
        [account, split_account, authority] <+: instruction.seen ∧
        encode_u64 lamports <+: c.buffer ∧
        info = ⟨header.account account, header.account authority, header.account split_account,
          lamports⟩ := by
  simp [-bind_pure_comp, parse_stake_split_instruction]

/-- Of five accounts the two sysvars are read and dropped. -/
theorem parse_stake_withdraw_iff {info : StakeWithdrawInfo} :
    (∃ d, parse_stake_withdraw_instruction instruction header c = some (info, d)) ↔
      ∃ account to_ clock stake_history authority lamports,
        [account, to_, clock, stake_history, authority] <+: instruction.seen ∧
        encode_u64 lamports <+: c.buffer ∧
        info = ⟨header.account account, header.account authority, header.account to_,
          lamports⟩ := by
  simp [-bind_pure_comp, parse_stake_withdraw_instruction]

/-- Of three accounts the middle one is read and dropped. -/
theorem parse_stake_deactivate_iff {info : StakeDeactivateInfo} :
    (∃ d, parse_stake_deactivate_instruction instruction header c = some (info, d)) ↔
      ∃ account clock authority, [account, clock, authority] <+: instruction.seen ∧
        info = ⟨header.account account, header.account authority⟩ := by
  simp [-bind_pure_comp, parse_stake_deactivate_instruction]

/-- Two accounts; the new custodian, when there is one, lies behind the fields. -/
theorem parse_stake_set_lockup_iff {info : StakeSetLockupInfo} :
    (∃ d, parse_stake_set_lockup_instruction instruction header c = some (info, d)) ↔
      ∃ account custodian, ∃ lockup : StakeLockupArgs, ∃ new_custodian : Option Pubkey,
        [account, custodian] <+: instruction.seen ∧
        lockup.encode ++ encode_optional Pubkey.data new_custodian <+: c.buffer ∧
        info = ⟨header.account account, header.account custodian,
          lockup.lockup
            (new_custodian.map (PubkeyRef.mk (c.addr + lockup.encode.length + 1)))⟩ := by
  simp [-bind_pure_comp, parse_stake_set_lockup_instruction, accepts_field reads_as_lockupargs]

/-- Of five accounts the two sysvars are read and dropped. -/
theorem parse_stake_merge_iff {info : StakeMergeInfo} :
    (∃ d, parse_stake_merge_instruction instruction header c = some (info, d)) ↔
      ∃ destination source clock stake_history authority,
        [destination, source, clock, stake_history, authority] <+: instruction.seen ∧
        info = ⟨header.account destination, header.account source, header.account authority⟩ := by
  simp [-bind_pure_comp, parse_stake_merge_instruction]

/-- Four accounts, and no lockup whatever the data holds. -/
theorem parse_stake_initialize_checked_iff {info : StakeInitializeInfo} :
    (∃ d, parse_stake_initialize_checked_instruction instruction header c = some (info, d)) ↔
      ∃ account rent stake_authority withdraw_authority,
        [account, rent, stake_authority, withdraw_authority] <+: instruction.seen ∧
        info = ⟨header.account account, header.account stake_authority,
          header.account withdraw_authority, no_lockup, no_lockup_unlocked⟩ := by
  simp [-bind_pure_comp, parse_stake_initialize_checked_instruction, no_lockup]

/-- The new authority is the fourth account and the custodian the fifth, when there is
one. -/
theorem parse_stake_authorize_checked_iff {info : StakeAuthorizeInfo} :
    (∃ d, parse_stake_authorize_checked_instruction instruction header c = some (info, d)) ↔
      ∃ account clock authority new_authority, ∃ authorize : StakeAuthorize,
        [account, clock, authority, new_authority] <+: instruction.seen ∧
        encode_u32 authorize.code <+: c.buffer ∧
        info = ⟨header.account account, header.account authority, header.account new_authority,
          instruction.seen[4]?.map header.account, authorize⟩ := by
  simp [-bind_pure_comp, parse_stake_authorize_checked_instruction,
    accepts_field reads_as_stake_authorize]

/-- A third account is the new custodian. -/
theorem parse_stake_set_lockup_checked_iff {info : StakeSetLockupInfo} :
    (∃ d, parse_stake_set_lockup_checked_instruction instruction header c = some (info, d)) ↔
      ∃ account custodian, ∃ lockup : StakeLockupArgs, [account, custodian] <+: instruction.seen ∧
        lockup.encode <+: c.buffer ∧
        info = ⟨header.account account, header.account custodian,
          lockup.lockup (instruction.seen[2]?.map header.account)⟩ := by
  cases hlast : instruction.seen[2]? <;>
    simp [-bind_pure_comp, parse_stake_set_lockup_checked_instruction,
      accepts_field reads_as_lockupargs_checked, hlast, StakeLockupArgs.lockup]

/-! ## The instructions -/

variable {info : StakeInfo}

/-- What is returned is what some instruction says, which the accounts and the data begin with. -/
theorem stake_instruction_of_info
    (h : parse_stake_instructions instruction header = some info) :
    ∃ stake : StakeInstruction, stake.accounts <+: instruction.seen ∧
      (stake.LeavesOut → stake.accounts = instruction.seen) ∧
      stake.encode <+: instruction.data.buffer ∧
      info = stake.info header (instruction.data.addr + 4) := by
  obtain ⟨kind, hkind, hinfo⟩ := reads_as_stake_kind.run_bind_iff.mp h
  cases kind with
  | StakeInitialize =>
    obtain ⟨a, ha, rfl⟩ := returns_info_iff.mp hinfo
    obtain ⟨account, rent, stake_authority, withdraw_authority, unix_timestamp, epoch, custodian,
      hseen, hbody, rfl⟩ :=
      parse_stake_initialize_iff.mp ha
    exact ⟨.Initialize account rent stake_authority withdraw_authority unix_timestamp epoch
      custodian, hseen, False.elim,
      append_prefix.mpr ⟨hkind, hbody⟩, rfl⟩
  | StakeAuthorize =>
    obtain ⟨a, ha, rfl⟩ := returns_info_iff.mp hinfo
    obtain ⟨account, clock, authority, new_authority, authorize, hseen, hbody, rfl⟩ :=
      parse_stake_authorize_iff.mp ha
    obtain ⟨haccounts, hend⟩ := append_toList_prefix.mpr ⟨hseen, rfl⟩
    exact ⟨.Authorize account clock authority new_authority authorize _, haccounts, hend,
      append_prefix.mpr ⟨hkind, hbody⟩, rfl⟩
  | StakeDelegate =>
    obtain ⟨a, ha, rfl⟩ := returns_info_iff.mp hinfo
    obtain ⟨stake, vote, clock, stake_history, stake_config, authorized, hseen, rfl⟩ :=
      parse_delegate_stake_iff.mp ha
    exact ⟨.Delegate stake vote clock stake_history stake_config authorized, hseen, False.elim,
      append_prefix.mpr ⟨hkind, List.nil_prefix⟩, rfl⟩
  | StakeSplit =>
    obtain ⟨a, ha, rfl⟩ := returns_info_iff.mp hinfo
    obtain ⟨account, split_account, authority, lamports, hseen, hbody, rfl⟩ :=
      parse_stake_split_iff.mp ha
    exact ⟨.Split account split_account authority lamports, hseen, False.elim,
      append_prefix.mpr ⟨hkind, hbody⟩, rfl⟩
  | StakeWithdraw =>
    obtain ⟨a, ha, rfl⟩ := returns_info_iff.mp hinfo
    obtain ⟨account, to_, clock, stake_history, authority, lamports, hseen, hbody, rfl⟩ :=
      parse_stake_withdraw_iff.mp ha
    exact ⟨.Withdraw account to_ clock stake_history authority lamports, hseen, False.elim,
      append_prefix.mpr ⟨hkind, hbody⟩, rfl⟩
  | StakeDeactivate =>
    obtain ⟨a, ha, rfl⟩ := returns_info_iff.mp hinfo
    obtain ⟨account, clock, authority, hseen, rfl⟩ :=
      parse_stake_deactivate_iff.mp ha
    exact ⟨.Deactivate account clock authority, hseen, False.elim,
      append_prefix.mpr ⟨hkind, List.nil_prefix⟩, rfl⟩
  | StakeSetLockup =>
    obtain ⟨a, ha, rfl⟩ := returns_info_iff.mp hinfo
    obtain ⟨account, custodian, lockup, new_custodian, hseen, hbody, rfl⟩ :=
      parse_stake_set_lockup_iff.mp ha
    exact ⟨.SetLockup account custodian lockup new_custodian, hseen, False.elim,
      append_prefix.mpr ⟨hkind, hbody⟩, rfl⟩
  | StakeMerge =>
    obtain ⟨a, ha, rfl⟩ := returns_info_iff.mp hinfo
    obtain ⟨destination, source, clock, stake_history, authority, hseen, rfl⟩ :=
      parse_stake_merge_iff.mp ha
    exact ⟨.Merge destination source clock stake_history authority, hseen, False.elim,
      append_prefix.mpr ⟨hkind, List.nil_prefix⟩, rfl⟩
  | StakeInitializeChecked =>
    obtain ⟨a, ha, rfl⟩ := returns_info_iff.mp hinfo
    obtain ⟨account, rent, stake_authority, withdraw_authority, hseen, rfl⟩ :=
      parse_stake_initialize_checked_iff.mp ha
    exact ⟨.InitializeChecked account rent stake_authority withdraw_authority, hseen, False.elim,
      append_prefix.mpr ⟨hkind, List.nil_prefix⟩, rfl⟩
  | StakeAuthorizeChecked =>
    obtain ⟨a, ha, rfl⟩ := returns_info_iff.mp hinfo
    obtain ⟨account, clock, authority, new_authority, authorize, hseen, hbody, rfl⟩ :=
      parse_stake_authorize_checked_iff.mp ha
    obtain ⟨haccounts, hend⟩ := append_toList_prefix.mpr ⟨hseen, rfl⟩
    exact ⟨.AuthorizeChecked account clock authority new_authority authorize _, haccounts, hend,
      append_prefix.mpr ⟨hkind, hbody⟩, rfl⟩
  | StakeSetLockupChecked =>
    obtain ⟨a, ha, rfl⟩ := returns_info_iff.mp hinfo
    obtain ⟨account, custodian, lockup, hseen, hbody, rfl⟩ :=
      parse_stake_set_lockup_checked_iff.mp ha
    obtain ⟨haccounts, hend⟩ := append_toList_prefix.mpr ⟨hseen, rfl⟩
    exact ⟨.SetLockupChecked account custodian lockup _, haccounts, hend,
      append_prefix.mpr ⟨hkind, hbody⟩, rfl⟩
  | StakeAuthorizeWithSeed =>
    obtain ⟨d, hbail⟩ := hinfo
    cases hbail
  | StakeAuthorizeCheckedWithSeed =>
    obtain ⟨d, hbail⟩ := hinfo
    cases hbail

/-- An instruction that the accounts and the data begin with is what the parser returns.
One that leaves out its optional account has to be the whole list, or the next account
would be taken for it. -/
theorem info_of_stake_instruction {stake : StakeInstruction}
    (hseen : stake.accounts <+: instruction.seen)
    (hend : stake.LeavesOut → stake.accounts = instruction.seen)
    (hwritten : stake.encode <+: instruction.data.buffer) :
    parse_stake_instructions instruction header =
      some (stake.info header (instruction.data.addr + 4)) := by
  obtain ⟨hkind, hbody⟩ := append_prefix.mp hwritten
  refine reads_as_stake_kind.run_bind_iff.mpr ⟨stake.kind, hkind, ?_⟩
  cases stake with
  | Initialize account rent stake_authority withdraw_authority unix_timestamp epoch custodian =>
    exact returns_info_iff.mpr ⟨_, parse_stake_initialize_iff.mpr
      ⟨account, rent, stake_authority, withdraw_authority, unix_timestamp, epoch, custodian, hseen,
        hbody, rfl⟩, rfl⟩
  | Authorize account clock authority new_authority authorize custodian =>
    obtain ⟨haccounts, rfl⟩ := append_toList_prefix.mp ⟨hseen, hend⟩
    exact returns_info_iff.mpr ⟨_, parse_stake_authorize_iff.mpr
      ⟨account, clock, authority, new_authority, authorize, haccounts, hbody, rfl⟩, rfl⟩
  | Delegate stake vote clock stake_history stake_config authorized =>
    exact returns_info_iff.mpr ⟨_, parse_delegate_stake_iff.mpr
      ⟨stake, vote, clock, stake_history, stake_config, authorized, hseen, rfl⟩, rfl⟩
  | Split account split_account authority lamports =>
    exact returns_info_iff.mpr ⟨_, parse_stake_split_iff.mpr
      ⟨account, split_account, authority, lamports, hseen, hbody, rfl⟩, rfl⟩
  | Withdraw account to_ clock stake_history authority lamports =>
    exact returns_info_iff.mpr ⟨_, parse_stake_withdraw_iff.mpr
      ⟨account, to_, clock, stake_history, authority, lamports, hseen, hbody, rfl⟩, rfl⟩
  | Deactivate account clock authority =>
    exact returns_info_iff.mpr ⟨_, parse_stake_deactivate_iff.mpr
      ⟨account, clock, authority, hseen, rfl⟩, rfl⟩
  | SetLockup account custodian lockup new_custodian =>
    exact returns_info_iff.mpr ⟨_, parse_stake_set_lockup_iff.mpr
      ⟨account, custodian, lockup, new_custodian, hseen, hbody, rfl⟩, rfl⟩
  | Merge destination source clock stake_history authority =>
    exact returns_info_iff.mpr ⟨_, parse_stake_merge_iff.mpr
      ⟨destination, source, clock, stake_history, authority, hseen, rfl⟩, rfl⟩
  | InitializeChecked account rent stake_authority withdraw_authority =>
    exact returns_info_iff.mpr ⟨_, parse_stake_initialize_checked_iff.mpr
      ⟨account, rent, stake_authority, withdraw_authority, hseen, rfl⟩, rfl⟩
  | AuthorizeChecked account clock authority new_authority authorize custodian =>
    obtain ⟨haccounts, rfl⟩ := append_toList_prefix.mp ⟨hseen, hend⟩
    exact returns_info_iff.mpr ⟨_, parse_stake_authorize_checked_iff.mpr
      ⟨account, clock, authority, new_authority, authorize, haccounts, hbody, rfl⟩, rfl⟩
  | SetLockupChecked account custodian lockup new_custodian =>
    obtain ⟨haccounts, rfl⟩ := append_toList_prefix.mp ⟨hseen, hend⟩
    exact returns_info_iff.mpr ⟨_, parse_stake_set_lockup_checked_iff.mpr
      ⟨account, custodian, lockup, haccounts, hbody, rfl⟩, rfl⟩

/-- **Stake instructions are read as what they say.** The parser returns an info if and only if the
accounts of the instruction and its data begin with those of a supported instruction, with no
account behind one that is left out, and then it is the info of that instruction. -/
theorem stake_instructions_iff (header : MessageHeader) (instruction : Instruction)
    (info : StakeInfo) :
    parse_stake_instructions instruction header = some info ↔
      ∃ stake : StakeInstruction, stake.accounts <+: instruction.seen ∧
        (stake.LeavesOut → stake.accounts = instruction.seen) ∧
        stake.encode <+: instruction.data.buffer ∧
        info = stake.info header (instruction.data.addr + 4) := by
  constructor
  · exact stake_instruction_of_info
  · rintro ⟨stake, hseen, hend, hwritten, rfl⟩
    exact info_of_stake_instruction hseen hend hwritten

end Parse

end RenecLedger
