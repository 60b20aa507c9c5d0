/-
The token instructions that the parser accepts, and nothing else.

`token_instructions_decode` says that every documented instruction is read as it was meant. This is
the other direction as well: whatever the parser accepts is one of them, with the accounts and the
data of that instruction (`token_instructions_iff`). The owner of an account, or the signers of the
multisig account that owns it, are all accounts that are left; so no account is overlooked there.
-/
import RenecLedger.InstructionLayout
import RenecLedger.TokenInstructions

set_option autoImplicit false

open ReaderLib

namespace RenecLedger

/-! ## Accounts that are left -/

section Signers

variable {header : MessageHeader} {instruction : Instruction} {α : Type} {n : ℕ} {c : Parser}
  {b : α}

/-- The next account is the first of those left. -/
theorem seen_head : instruction.seen[n]? = (instruction.seen.drop n).head? := by
  rw [List.head?_drop]

/-- All accounts that are left are the signers. -/
theorem accepts_multisigners {f : RplTokenMultisigners → α} :
    Accepts header instruction n
        (parse_rpl_token_multisigners >>= fun signers => pure (f signers)) c b ↔
      ∃ signers : TokenSigners, instruction.seen.drop n = signers.accounts ∧
        b = f (signers.multisigners header.pubkeys) := by
  rw [parse_rpl_token_multisigners, bind_assoc, accepts_remaining_accounts]
  simp only [bind_assoc, accepts_bail_if, accepts_next_account, pure_bind, accepts_pure,
    decide_eq_false_iff_not, Nat.not_lt, seen_head]
  constructor
  · rintro ⟨hfew, i, hi, rfl⟩
    obtain ⟨others, hleft⟩ := List.head?_eq_some_iff.mp hi
    rw [hleft] at hfew ⊢
    exact ⟨⟨i, others, hfew⟩, rfl, rfl⟩
  · rintro ⟨signers, hleft, rfl⟩
    rw [hleft]
    exact ⟨signers.others_lt, signers.first, rfl, rfl⟩

/-- All accounts that are left are the owner, and the signers if there are any. -/
theorem accepts_sign {f : RplTokenSign → α} :
    Accepts header instruction n (parse_rpl_token_sign >>= fun sign => pure (f sign)) c b ↔
      ∃ owner : TokenOwner, instruction.seen.drop n = owner.accounts ∧
        b = f (owner.sign header.pubkeys) := by
  rw [parse_rpl_token_sign, bind_assoc, accepts_remaining_accounts]
  simp only [bind_assoc, accepts_bail_if, decide_eq_false_iff_not]
  rcases hleft : instruction.seen.drop n with _ | ⟨i, _ | ⟨j, others⟩⟩
  · constructor
    · rintro ⟨hsome, -⟩
      exact absurd rfl hsome
    · rintro ⟨owner, howner, -⟩
      cases owner <;> cases howner
  · simp only [List.length_singleton, if_true, accepts_next_account, pure_bind, bind_assoc,
      accepts_pure, seen_head, hleft]
    constructor
    · rintro ⟨-, j, hj, rfl⟩
      cases hj
      exact ⟨.single i, rfl, rfl⟩
    · rintro ⟨owner, howner, rfl⟩
      cases owner with
      | single owner =>
        cases howner
        exact ⟨Nat.one_ne_zero, i, rfl, rfl⟩
      | multisig owner signers => cases howner
  · have hmany : ¬ (i :: j :: others).length = 1 := by
      rw [List.length_cons, List.length_cons]
      omega
    have htail : instruction.seen.drop (n + 1) = j :: others := by
      rw [← List.tail_drop, hleft]
      rfl
    simp only [if_neg hmany, bind_assoc, accepts_next_account, pure_bind, seen_head, hleft]
    constructor
    · rintro ⟨-, k, hk, h⟩
      cases hk
      obtain ⟨signers, hsigners, rfl⟩ := accepts_multisigners.mp h
      rw [← htail, hsigners]
      exact ⟨.multisig i signers, rfl, rfl⟩
    · rintro ⟨owner, howner, rfl⟩
      cases owner with
      | single owner => cases howner
      | multisig owner signers =>
        rw [TokenOwner.accounts, List.cons.injEq] at howner
        obtain ⟨rfl, hsigners⟩ := howner
        exact ⟨Nat.succ_ne_zero _, i, rfl,
          accepts_multisigners.mpr ⟨signers, htail.trans hsigners, rfl⟩⟩

end Signers

/-! ## The parts of the data -/

/-- The code of the authority type. -/
def Token_AuthorityType.code : Token_AuthorityType → UInt8
  | .MintTokens => 0
  | .FreezeAccount => 1
  | .AccountOwner => 2
  | .CloseAccount => 3

/-- An authority type is one byte. -/
@[simp] theorem Token_AuthorityType.encode_length (authority_type : Token_AuthorityType) :
    authority_type.encode.length = 1 := by
  cases authority_type <;> rfl

/-- The byte of an authority type is read as that type, and from no other byte. -/
theorem reads_as_authority_type :
    ReadsAs parse_token_authority_type Token_AuthorityType.encode
      fun _ authority_type => authority_type := by
  have hcode : Token_AuthorityType.encode = fun authority_type => [authority_type.code] := by
    funext authority_type
    cases authority_type <;> rfl
  rw [hcode]
  refine reads_as_u8.tag fun maybe_type c authority_type d => ?_
  rw [← UInt8.toNat_inj]
  generalize maybe_type.toNat = tag
  constructor
  · intro h
    split at h <;> cases h <;> exact ⟨rfl, rfl⟩
  · rintro ⟨rfl, rfl⟩
    cases authority_type <;> rfl

/-- An optional key is a tag byte and perhaps a key. The reference points behind the
tag. -/
theorem reads_as_optional_pubkey :
    ReadsAs (parse_optional parse_pubkey) encode_option fun addr key =>
      key.map (PubkeyRef.mk (addr + 1)) := by
  have hencode : encode_option = encode_optional Pubkey.data := by
    funext key
    cases key <;> rfl
  rw [hencode]
  exact reads_as_optional reads_as_pubkey

/-- The body is nine bytes, whatever they are. -/
theorem reads_as_amount_body :
    ReadsAs parse_rpl_token_amount_body (fun x : UInt64 × UInt8 => encode_amount_body x.1 x.2)
      fun _ x => { amount := x.1, decimals := x.2 } := by
  intro c body d
  rw [parse_rpl_token_amount_body, reads_as_u64.bind_iff]
  simp only [(reads_as_u8.map _) _ _ _]
  constructor
  · rintro ⟨amount, hamount, decimals, hdecimals, rfl, rfl⟩
    refine ⟨(amount, decimals), append_prefix.mpr ⟨hamount, hdecimals⟩, rfl, ?_⟩
    rw [Cursor.advance_advance]
    rfl
  · rintro ⟨⟨amount, decimals⟩, hwritten, rfl, rfl⟩
    obtain ⟨hamount, hdecimals⟩ := append_prefix.mp hwritten
    refine ⟨amount, hamount, decimals, hdecimals, rfl, ?_⟩
    rw [Cursor.advance_advance]
    rfl

/-- The kinds that the parser knows by their tag; the others are deprecated. -/
def RplTokenInstructionKind.IsSupported : RplTokenInstructionKind → Prop
  | .Transfer => False
  | .Approve => False
  | .MintTo => False
  | .Burn => False
  | _ => True

/-- The numbers of `Token_TokenInstruction_Tag`. -/
def RplTokenInstructionKind.code : RplTokenInstructionKind → UInt8
  | .InitializeMint => 0
  | .InitializeAccount => 1
  | .InitializeMultisig => 2
  | .Transfer => 3
  | .Approve => 4
  | .Revoke => 5
  | .SetAuthority => 6
  | .MintTo => 7
  | .Burn => 8
  | .CloseAccount => 9
  | .FreezeAccount => 10
  | .ThawAccount => 11
  | .TransferChecked => 12
  | .ApproveChecked => 13
  | .MintToChecked => 14
  | .BurnChecked => 15
  | .InitializeAccount2 => 16
  | .SyncNative => 17

/-- A supported tag is read back from its byte, and no other byte is read at all. -/
theorem reads_as_token_kind :
    ReadsAs parse_rpl_token_instruction_kind
      (fun kind : { kind : RplTokenInstructionKind // kind.IsSupported } => [kind.1.code])
      fun _ kind => kind.1 := by
  intro c kind d
  rw [parse_rpl_token_instruction_kind, reads_as_u8.bind_iff]
  constructor
  · rintro ⟨tag, hwritten, h⟩
    have hcode : tag = kind.code ∧ kind.IsSupported ∧ d = c.advance 1 := by
      rw [← UInt8.toNat_inj]
      generalize tag.toNat = n at h
      split at h <;> cases h <;> exact ⟨rfl, trivial, rfl⟩
    obtain ⟨rfl, hsupported, rfl⟩ := hcode
    exact ⟨⟨kind, hsupported⟩, hwritten, rfl, rfl⟩
  · rintro ⟨⟨kind, hsupported⟩, hwritten, rfl, rfl⟩
    refine ⟨kind.code, hwritten, ?_⟩
    cases kind <;> first | rfl | exact hsupported.elim

/-! ## The parse functions -/

section Parse

variable {header : MessageHeader} {instruction : Instruction} {c : Parser}

attribute [local simp] cons_prefix append_prefix Pubkey.size Cursor.advance and_assoc accepts_sign
  accepts_multisigners

/-- The freeze authority, when there is one, lies behind the mint authority and the tag. -/
theorem parse_initialize_mint_iff {info : RplTokenInitializeMintInfo} :
    (∃ d, parse_initialize_mint_rpl_token_instruction instruction header c = some (info, d)) ↔
      ∃ decimals, ∃ mint_authority : Pubkey, ∃ freeze_authority mint rent_sysvar,
        decimals :: (mint_authority.data ++ encode_option freeze_authority) <+: c.buffer ∧
        [mint, rent_sysvar] <+: instruction.seen ∧
        info = ⟨header.account mint, ⟨c.addr + 1, mint_authority⟩,
          freeze_authority.map (PubkeyRef.mk (c.addr + 1 + PUBKEY_SIZE + 1)), decimals⟩ := by
  simp [-bind_pure_comp, parse_initialize_mint_rpl_token_instruction,
    accepts_field reads_as_optional_pubkey]

/-- With the owner among the accounts the whole list has four entries, not only its
front. -/
theorem parse_initialize_account_iff {info : RplTokenInitializeAccountInfo} :
    (∃ d, parse_initialize_account_rpl_token_instruction instruction header true c =
        some (info, d)) ↔
      ∃ account mint owner rent_sysvar, instruction.accounts.length = 4 ∧
        [account, mint, owner, rent_sysvar] <+: instruction.seen ∧
        info = ⟨header.account account, header.account mint, header.account owner⟩ := by
  simp [-bind_pure_comp, parse_initialize_account_rpl_token_instruction]

/-- With the owner in the data, the list need only begin with the three accounts. -/
theorem parse_initialize_account2_iff {info : RplTokenInitializeAccountInfo} :
    (∃ d, parse_initialize_account_rpl_token_instruction instruction header false c =
        some (info, d)) ↔
      ∃ account mint rent_sysvar, ∃ owner : Pubkey,
        [account, mint, rent_sysvar] <+: instruction.seen ∧ owner.data <+: c.buffer ∧
        info = ⟨header.account account, header.account mint, ⟨c.addr, owner⟩⟩ := by
  simp [-bind_pure_comp, parse_initialize_account_rpl_token_instruction]

/-- The signers are all the accounts behind the sysvar. -/
theorem parse_initialize_multisig_iff {info : RplTokenInitializeMultisigInfo} :
    (∃ d, parse_initialize_multisig_rpl_token_instruction instruction header c =
        some (info, d)) ↔
      ∃ m multisig_account rent_sysvar, ∃ signers : TokenSigners, [m] <+: c.buffer ∧
        m.toNat ≤ Token_MAX_SIGNERS ∧ [multisig_account, rent_sysvar] <+: instruction.seen ∧
        instruction.seen.drop 2 = signers.accounts ∧
        info = ⟨header.account multisig_account, signers.multisigners header.pubkeys, m⟩ := by
  simp [-bind_pure_comp, parse_initialize_multisig_rpl_token_instruction]

/-- Those who sign are all the accounts behind the first. -/
theorem parse_revoke_iff {info : RplTokenRevokeInfo} :
    (∃ d, parse_revoke_rpl_token_instruction instruction header c = some (info, d)) ↔
      ∃ source, ∃ owner : TokenOwner, [source] <+: instruction.seen ∧
        instruction.seen.drop 1 = owner.accounts ∧
        info = ⟨header.account source, owner.sign header.pubkeys⟩ := by
  simp [-bind_pure_comp, parse_revoke_rpl_token_instruction]

/-- The new authority lies behind the type and the option's tag. -/
theorem parse_set_authority_iff {info : RplTokenSetAuthorityInfo} :
    (∃ d, parse_set_authority_rpl_token_instruction instruction header c = some (info, d)) ↔
      ∃ account authority_type new_authority, ∃ authority : TokenOwner,
        [account] <+: instruction.seen ∧
        authority_type.encode ++ encode_option new_authority <+: c.buffer ∧
        instruction.seen.drop 1 = authority.accounts ∧
        info = ⟨header.account account,
          new_authority.map (PubkeyRef.mk (c.addr + 1 + 1)),
          authority_type, authority.sign header.pubkeys⟩ := by
  simp [-bind_pure_comp, parse_set_authority_rpl_token_instruction,
    accepts_field reads_as_authority_type, accepts_field reads_as_optional_pubkey]

/-- Those who sign are all the accounts behind the first two. -/
theorem parse_close_account_iff {info : RplTokenCloseAccountInfo} :
    (∃ d, parse_close_account_rpl_token_instruction instruction header c = some (info, d)) ↔
      ∃ account destination, ∃ owner : TokenOwner, [account, destination] <+: instruction.seen ∧
        instruction.seen.drop 2 = owner.accounts ∧
        info = ⟨header.account account, header.account destination,
          owner.sign header.pubkeys⟩ := by
  simp [-bind_pure_comp, parse_close_account_rpl_token_instruction]

/-- Those who sign are all the accounts behind the first two. -/
theorem parse_freeze_account_iff {info : RplTokenFreezeAccountInfo} :
    (∃ d, parse_freeze_account_rpl_token_instruction instruction header c = some (info, d)) ↔
      ∃ account mint, ∃ owner : TokenOwner, [account, mint] <+: instruction.seen ∧
        instruction.seen.drop 2 = owner.accounts ∧
        info = ⟨header.account account, header.account mint, owner.sign header.pubkeys⟩ := by
  simp [-bind_pure_comp, parse_freeze_account_rpl_token_instruction]

/-- As for freezing an account. -/
theorem parse_thaw_account_iff {info : RplTokenThawAccountInfo} :
    (∃ d, parse_thaw_account_rpl_token_instruction instruction header c = some (info, d)) ↔
      ∃ account mint, ∃ owner : TokenOwner, [account, mint] <+: instruction.seen ∧
        instruction.seen.drop 2 = owner.accounts ∧
        info = ⟨header.account account, header.account mint, owner.sign header.pubkeys⟩ := by
  simp [-bind_pure_comp, parse_thaw_account_rpl_token_instruction]

/-- Those who sign are all the accounts behind the first three. -/
theorem parse_transfer_iff {info : RplTokenTransferInfo} :
    (∃ d, parse_transfer_rpl_token_instruction instruction header c = some (info, d)) ↔
      ∃ amount decimals source mint destination, ∃ owner : TokenOwner,
        encode_amount_body amount decimals <+: c.buffer ∧
        [source, mint, destination] <+: instruction.seen ∧
        instruction.seen.drop 3 = owner.accounts ∧
        info = ⟨header.account source, header.account destination, header.account mint,
          owner.sign header.pubkeys, ⟨amount, decimals⟩⟩ := by
  simp [-bind_pure_comp, parse_transfer_rpl_token_instruction, accepts_field reads_as_amount_body]

/-- Those who sign are all the accounts behind the first three. -/
theorem parse_approve_iff {info : RplTokenApproveInfo} :
    (∃ d, parse_approve_rpl_token_instruction instruction header c = some (info, d)) ↔
      ∃ amount decimals source mint delegate, ∃ owner : TokenOwner,
        encode_amount_body amount decimals <+: c.buffer ∧
        [source, mint, delegate] <+: instruction.seen ∧
        instruction.seen.drop 3 = owner.accounts ∧
        info = ⟨header.account source, header.account delegate, header.account mint,
          owner.sign header.pubkeys, ⟨amount, decimals⟩⟩ := by
  simp [-bind_pure_comp, parse_approve_rpl_token_instruction, accepts_field reads_as_amount_body]

/-- Two accounts here: the mint comes first. -/
theorem parse_mint_to_iff {info : RplTokenMintToInfo} :
    (∃ d, parse_mint_to_rpl_token_instruction instruction header c = some (info, d)) ↔
      ∃ amount decimals mint account, ∃ owner : TokenOwner,
        encode_amount_body amount decimals <+: c.buffer ∧ [mint, account] <+: instruction.seen ∧
        instruction.seen.drop 2 = owner.accounts ∧
        info = ⟨header.account mint, header.account account, owner.sign header.pubkeys,
          ⟨amount, decimals⟩⟩ := by
  simp [-bind_pure_comp, parse_mint_to_rpl_token_instruction, accepts_field reads_as_amount_body]

/-- Two accounts here: the mint comes second. -/
theorem parse_burn_iff {info : RplTokenBurnInfo} :
    (∃ d, parse_burn_rpl_token_instruction instruction header c = some (info, d)) ↔
      ∃ amount decimals account mint, ∃ owner : TokenOwner,
        encode_amount_body amount decimals <+: c.buffer ∧ [account, mint] <+: instruction.seen ∧
        instruction.seen.drop 2 = owner.accounts ∧
        info = ⟨header.account account, header.account mint, owner.sign header.pubkeys,
          ⟨amount, decimals⟩⟩ := by
  simp [-bind_pure_comp, parse_burn_rpl_token_instruction, accepts_field reads_as_amount_body]

/-- The list need only begin with the account. -/
theorem parse_sync_native_iff {info : RplTokenSyncNativeInfo} :
    (∃ d, parse_sync_native_rpl_token_instruction instruction header c = some (info, d)) ↔
      ∃ account, [account] <+: instruction.seen ∧ info = ⟨header.account account⟩ := by
  simp [-bind_pure_comp, parse_sync_native_rpl_token_instruction]

/-! ## The instructions -/

/-- Below 256 accounts the iterator comes to all of them: its length byte does not wrap. -/
theorem Instruction.seen_eq (hlength : instruction.accounts.length < 256) :
    instruction.seen = instruction.accounts := by
  rw [Instruction.seen, Instruction.walked, Nat.mod_eq_of_lt hlength, List.take_length]

/-- The accounts are those of the token instruction; where the parser does not look for an end,
others may follow. With its owner among them, a new account takes just four. -/
def TokenInstruction.Fits (instruction : Instruction) (token : TokenInstruction) : Prop :=
  match token with
  | InitializeMint .. => token.accounts <+: instruction.seen
  | InitializeAccount .. => token.accounts = instruction.accounts
  | InitializeAccount2 .. => token.accounts <+: instruction.seen
  | SyncNative .. => token.accounts <+: instruction.seen
  | _ => token.accounts = instruction.seen

variable {info : RplTokenInfo}

/-- What is returned is what some instruction says. -/
theorem token_instruction_of_info
    (h : parse_rpl_token_instructions instruction header = some info) :
    ∃ token : TokenInstruction, token.Fits instruction ∧ token.encode <+: instruction.data.buffer ∧
      info = token.info header.pubkeys instruction.data.addr := by
  obtain ⟨⟨kind, hsupported⟩, hkind, hinfo⟩ := reads_as_token_kind.run_bind_iff.mp h
  cases kind with
  | InitializeMint =>
    obtain ⟨a, ha, rfl⟩ := returns_info_iff.mp hinfo
    obtain ⟨decimals, mint_authority, freeze_authority, mint, rent_sysvar, hbody, hseen, rfl⟩ :=
      parse_initialize_mint_iff.mp ha
    exact ⟨.InitializeMint mint rent_sysvar decimals mint_authority freeze_authority, hseen,
      append_prefix.mpr ⟨hkind, hbody⟩, rfl⟩
  | InitializeAccount =>
    obtain ⟨a, ha, rfl⟩ := returns_info_iff.mp hinfo
    obtain ⟨account, mint, owner, rent_sysvar, hlength, hseen, rfl⟩ :=
      parse_initialize_account_iff.mp ha
    have hall : [account, mint, owner, rent_sysvar] = instruction.accounts := by
      rw [Instruction.seen_eq (by omega)] at hseen
      exact hseen.eq_of_length hlength.symm
    exact ⟨.InitializeAccount account mint owner rent_sysvar, hall, append_prefix.mpr ⟨hkind,
      List.nil_prefix⟩, rfl⟩
  | InitializeAccount2 =>
    obtain ⟨a, ha, rfl⟩ := returns_info_iff.mp hinfo
    obtain ⟨account, mint, rent_sysvar, owner, hseen, hbody, rfl⟩ :=
      parse_initialize_account2_iff.mp ha
    exact ⟨.InitializeAccount2 account mint rent_sysvar owner, hseen, append_prefix.mpr ⟨hkind,
      hbody⟩, rfl⟩
  | InitializeMultisig =>
    obtain ⟨a, ha, rfl⟩ := returns_info_iff.mp hinfo
    obtain ⟨m, multisig_account, rent_sysvar, signers, hbody, hm, hseen, hleft, rfl⟩ :=
      parse_initialize_multisig_iff.mp ha
    exact ⟨.InitializeMultisig multisig_account rent_sysvar signers ⟨m, hm⟩, append_eq_iff.mpr
      ⟨hseen, hleft⟩, append_prefix.mpr ⟨hkind, hbody⟩, rfl⟩
  | Revoke =>
    obtain ⟨a, ha, rfl⟩ := returns_info_iff.mp hinfo
    obtain ⟨source, owner, hseen, hleft, rfl⟩ :=
      parse_revoke_iff.mp ha
    exact ⟨.Revoke source owner, append_eq_iff.mpr ⟨hseen, hleft⟩, append_prefix.mpr ⟨hkind,
      List.nil_prefix⟩, rfl⟩
  | SetAuthority =>
    obtain ⟨a, ha, rfl⟩ := returns_info_iff.mp hinfo
    obtain ⟨account, authority_type, new_authority, authority, hseen, hbody, hleft, rfl⟩ :=
      parse_set_authority_iff.mp ha
    exact ⟨.SetAuthority account authority_type new_authority authority, append_eq_iff.mpr ⟨hseen,
      hleft⟩, append_prefix.mpr ⟨hkind, hbody⟩, rfl⟩
  | CloseAccount =>
    obtain ⟨a, ha, rfl⟩ := returns_info_iff.mp hinfo
    obtain ⟨account, destination, owner, hseen, hleft, rfl⟩ :=
      parse_close_account_iff.mp ha
    exact ⟨.CloseAccount account destination owner, append_eq_iff.mpr ⟨hseen, hleft⟩,
      append_prefix.mpr ⟨hkind, List.nil_prefix⟩, rfl⟩
  | FreezeAccount =>
    obtain ⟨a, ha, rfl⟩ := returns_info_iff.mp hinfo
    obtain ⟨account, mint, owner, hseen, hleft, rfl⟩ :=
      parse_freeze_account_iff.mp ha
    exact ⟨.FreezeAccount account mint owner, append_eq_iff.mpr ⟨hseen, hleft⟩, append_prefix.mpr
      ⟨hkind, List.nil_prefix⟩, rfl⟩
  | ThawAccount =>
    obtain ⟨a, ha, rfl⟩ := returns_info_iff.mp hinfo
    obtain ⟨account, mint, owner, hseen, hleft, rfl⟩ :=
      parse_thaw_account_iff.mp ha
    exact ⟨.ThawAccount account mint owner, append_eq_iff.mpr ⟨hseen, hleft⟩, append_prefix.mpr
      ⟨hkind, List.nil_prefix⟩, rfl⟩
  | TransferChecked =>
    obtain ⟨a, ha, rfl⟩ := returns_info_iff.mp hinfo
    obtain ⟨amount, decimals, source, mint, destination, owner, hbody, hseen, hleft, rfl⟩ :=
      parse_transfer_iff.mp ha
    exact ⟨.TransferChecked source mint destination amount decimals owner, append_eq_iff.mpr
      ⟨hseen, hleft⟩, append_prefix.mpr ⟨hkind, hbody⟩, rfl⟩
  | ApproveChecked =>
    obtain ⟨a, ha, rfl⟩ := returns_info_iff.mp hinfo
    obtain ⟨amount, decimals, source, mint, delegate, owner, hbody, hseen, hleft, rfl⟩ :=
      parse_approve_iff.mp ha
    exact ⟨.ApproveChecked source mint delegate amount decimals owner, append_eq_iff.mpr ⟨hseen,
      hleft⟩, append_prefix.mpr ⟨hkind, hbody⟩, rfl⟩
  | MintToChecked =>
    obtain ⟨a, ha, rfl⟩ := returns_info_iff.mp hinfo
    obtain ⟨amount, decimals, mint, account, owner, hbody, hseen, hleft, rfl⟩ :=
      parse_mint_to_iff.mp ha
    exact ⟨.MintToChecked mint account amount decimals owner, append_eq_iff.mpr ⟨hseen, hleft⟩,
      append_prefix.mpr ⟨hkind, hbody⟩, rfl⟩
  | BurnChecked =>
    obtain ⟨a, ha, rfl⟩ := returns_info_iff.mp hinfo
    obtain ⟨amount, decimals, account, mint, owner, hbody, hseen, hleft, rfl⟩ :=
      parse_burn_iff.mp ha
    exact ⟨.BurnChecked account mint amount decimals owner, append_eq_iff.mpr ⟨hseen, hleft⟩,
      append_prefix.mpr ⟨hkind, hbody⟩, rfl⟩
  | SyncNative =>
    obtain ⟨a, ha, rfl⟩ := returns_info_iff.mp hinfo
    obtain ⟨account, hseen, rfl⟩ :=
      parse_sync_native_iff.mp ha
    exact ⟨.SyncNative account, hseen, append_prefix.mpr ⟨hkind, List.nil_prefix⟩, rfl⟩
  | Transfer => exact hsupported.elim
  | Approve => exact hsupported.elim
  | MintTo => exact hsupported.elim
  | Burn => exact hsupported.elim

/-- An instruction that the accounts and the data begin with is what the parser returns. -/
theorem info_of_token_instruction {token : TokenInstruction} (hfits : token.Fits instruction)
    (hwritten : token.encode <+: instruction.data.buffer) :
    parse_rpl_token_instructions instruction header =
      some (token.info header.pubkeys instruction.data.addr) := by
  have hparts : [token.tag] ++ token.body <+: instruction.data.buffer := hwritten
  obtain ⟨hkind, hbody⟩ := append_prefix.mp hparts
  cases token with
  | InitializeMint mint rent_sysvar decimals mint_authority freeze_authority =>
    refine reads_as_token_kind.run_bind_iff.mpr ⟨⟨.InitializeMint, trivial⟩, hkind, ?_⟩
    exact returns_info_iff.mpr ⟨_, parse_initialize_mint_iff.mpr ⟨decimals, mint_authority,
      freeze_authority, mint, rent_sysvar, hbody, hfits, rfl⟩, rfl⟩
  | InitializeAccount account mint owner rent_sysvar =>
    have hlength : instruction.accounts.length = 4 := congrArg List.length hfits.symm
    have hseen : [account, mint, owner, rent_sysvar] <+: instruction.seen := by
      rw [Instruction.seen_eq (by omega), ← hfits]
      exact List.prefix_rfl
    refine reads_as_token_kind.run_bind_iff.mpr ⟨⟨.InitializeAccount, trivial⟩, hkind, ?_⟩
    exact returns_info_iff.mpr ⟨_, parse_initialize_account_iff.mpr ⟨account, mint, owner,
      rent_sysvar, hlength, hseen, rfl⟩, rfl⟩
  | InitializeAccount2 account mint rent_sysvar owner =>
    refine reads_as_token_kind.run_bind_iff.mpr ⟨⟨.InitializeAccount2, trivial⟩, hkind, ?_⟩
    exact returns_info_iff.mpr ⟨_, parse_initialize_account2_iff.mpr ⟨account, mint, rent_sysvar,
      owner, hfits, hbody, rfl⟩, rfl⟩
  | InitializeMultisig multisig_account rent_sysvar signers threshold =>
    have hall : [multisig_account, rent_sysvar] ++ signers.accounts = instruction.seen := hfits
    obtain ⟨hseen, hleft⟩ := append_eq_iff.mp hall
    refine reads_as_token_kind.run_bind_iff.mpr ⟨⟨.InitializeMultisig, trivial⟩, hkind, ?_⟩
    exact returns_info_iff.mpr ⟨_, parse_initialize_multisig_iff.mpr ⟨threshold.m,
      multisig_account, rent_sysvar, signers, hbody, threshold.m_le, hseen, hleft, rfl⟩, rfl⟩
  | Revoke source owner =>
    have hall : [source] ++ owner.accounts = instruction.seen := hfits
    obtain ⟨hseen, hleft⟩ := append_eq_iff.mp hall
    refine reads_as_token_kind.run_bind_iff.mpr ⟨⟨.Revoke, trivial⟩, hkind, ?_⟩
    exact returns_info_iff.mpr ⟨_, parse_revoke_iff.mpr ⟨source, owner, hseen, hleft, rfl⟩, rfl⟩
  | SetAuthority account authority_type new_authority authority =>
    have hall : [account] ++ authority.accounts = instruction.seen := hfits
    obtain ⟨hseen, hleft⟩ := append_eq_iff.mp hall
    refine reads_as_token_kind.run_bind_iff.mpr ⟨⟨.SetAuthority, trivial⟩, hkind, ?_⟩
    exact returns_info_iff.mpr ⟨_, parse_set_authority_iff.mpr ⟨account, authority_type,
      new_authority, authority, hseen, hbody, hleft, rfl⟩, rfl⟩
  | CloseAccount account destination owner =>
    have hall : [account, destination] ++ owner.accounts = instruction.seen := hfits
    obtain ⟨hseen, hleft⟩ := append_eq_iff.mp hall
    refine reads_as_token_kind.run_bind_iff.mpr ⟨⟨.CloseAccount, trivial⟩, hkind, ?_⟩
    exact returns_info_iff.mpr ⟨_, parse_close_account_iff.mpr ⟨account, destination, owner, hseen,
      hleft, rfl⟩, rfl⟩
  | FreezeAccount account mint owner =>
    have hall : [account, mint] ++ owner.accounts = instruction.seen := hfits
    obtain ⟨hseen, hleft⟩ := append_eq_iff.mp hall
    refine reads_as_token_kind.run_bind_iff.mpr ⟨⟨.FreezeAccount, trivial⟩, hkind, ?_⟩
    exact returns_info_iff.mpr ⟨_, parse_freeze_account_iff.mpr ⟨account, mint, owner, hseen,
      hleft, rfl⟩, rfl⟩
  | ThawAccount account mint owner =>
    have hall : [account, mint] ++ owner.accounts = instruction.seen := hfits
    obtain ⟨hseen, hleft⟩ := append_eq_iff.mp hall
    refine reads_as_token_kind.run_bind_iff.mpr ⟨⟨.ThawAccount, trivial⟩, hkind, ?_⟩
    exact returns_info_iff.mpr ⟨_, parse_thaw_account_iff.mpr ⟨account, mint, owner, hseen, hleft,
      rfl⟩, rfl⟩
  | TransferChecked source mint destination amount decimals owner =>
    have hall : [source, mint, destination] ++ owner.accounts = instruction.seen := hfits
    obtain ⟨hseen, hleft⟩ := append_eq_iff.mp hall
    refine reads_as_token_kind.run_bind_iff.mpr ⟨⟨.TransferChecked, trivial⟩, hkind, ?_⟩
    exact returns_info_iff.mpr ⟨_, parse_transfer_iff.mpr ⟨amount, decimals, source, mint,
      destination, owner, hbody, hseen, hleft, rfl⟩, rfl⟩
  | ApproveChecked source mint delegate amount decimals owner =>
    have hall : [source, mint, delegate] ++ owner.accounts = instruction.seen := hfits
    obtain ⟨hseen, hleft⟩ := append_eq_iff.mp hall
    refine reads_as_token_kind.run_bind_iff.mpr ⟨⟨.ApproveChecked, trivial⟩, hkind, ?_⟩
    exact returns_info_iff.mpr ⟨_, parse_approve_iff.mpr ⟨amount, decimals, source, mint, delegate,
      owner, hbody, hseen, hleft, rfl⟩, rfl⟩
  | MintToChecked mint account amount decimals owner =>
    have hall : [mint, account] ++ owner.accounts = instruction.seen := hfits
    obtain ⟨hseen, hleft⟩ := append_eq_iff.mp hall
    refine reads_as_token_kind.run_bind_iff.mpr ⟨⟨.MintToChecked, trivial⟩, hkind, ?_⟩
    exact returns_info_iff.mpr ⟨_, parse_mint_to_iff.mpr ⟨amount, decimals, mint, account, owner,
      hbody, hseen, hleft, rfl⟩, rfl⟩
  | BurnChecked account mint amount decimals owner =>
    have hall : [account, mint] ++ owner.accounts = instruction.seen := hfits
    obtain ⟨hseen, hleft⟩ := append_eq_iff.mp hall
    refine reads_as_token_kind.run_bind_iff.mpr ⟨⟨.BurnChecked, trivial⟩, hkind, ?_⟩
    exact returns_info_iff.mpr ⟨_, parse_burn_iff.mpr ⟨amount, decimals, account, mint, owner,
      hbody, hseen, hleft, rfl⟩, rfl⟩
  | SyncNative account =>
    refine reads_as_token_kind.run_bind_iff.mpr ⟨⟨.SyncNative, trivial⟩, hkind, ?_⟩
    exact returns_info_iff.mpr ⟨_, parse_sync_native_iff.mpr ⟨account, hfits, rfl⟩, rfl⟩

/-- **Token instructions are all that is accepted.** The parser returns an info if and only if the
data begins with a documented instruction whose accounts are those that it expects, and then it is
the info of that instruction. -/
theorem token_instructions_iff (header : MessageHeader) (instruction : Instruction)
    (info : RplTokenInfo) :
    parse_rpl_token_instructions instruction header = some info ↔
      ∃ token : TokenInstruction, token.Fits instruction ∧
        token.encode <+: instruction.data.buffer ∧
        info = token.info header.pubkeys instruction.data.addr := by
  constructor
  · exact token_instruction_of_info
  · rintro ⟨token, hfits, hwritten, rfl⟩
    exact info_of_token_instruction hfits hwritten

end Parse

end RenecLedger
