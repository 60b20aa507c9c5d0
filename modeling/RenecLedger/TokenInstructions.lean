/-
The token instructions, as `rpl/token.h` documents them.

`TokenInstruction` is what an instruction says: the accounts under the names that the comments of
the header give them, in the order given there (`TokenInstruction.accounts`), and the fields of its
body behind the tag (`TokenInstruction.encode`). The accounts are indices into the keys of the
message. The parser reads it back as it was meant, field by field, and rejects the tags that are
deprecated or unknown and data that ends too early (`token_instructions_decode`).
-/
import RenecLedger.InstructionData
import RenecLedger.RplToken

set_option autoImplicit false

open ReaderLib

namespace RenecLedger

/-! ## Token instructions -/

/-- The signers of a multisig account: at least one, and at most `Token_MAX_SIGNERS`.
The bound is in the type, so that no instruction is written down which the parser would
refuse for it. -/
structure TokenSigners where
  first : UInt8
  others : List UInt8
  others_lt : others.length < Token_MAX_SIGNERS
deriving DecidableEq

/-- Who signs for an account: its owner, or signers of the multisig account that owns
it. This is what the documentation of the program says, and the list of accounts has to
tell. -/
inductive TokenOwner
  | single (owner : UInt8)
  | multisig (owner : UInt8) (signers : TokenSigners)
deriving DecidableEq

/-- The threshold of a multisig account. -/
structure TokenThreshold where
  m : UInt8
  m_le : m.toNat ≤ Token_MAX_SIGNERS
deriving DecidableEq

/-- The instructions of `Token_TokenInstruction_Tag` that are not deprecated. -/
inductive TokenInstruction
  | InitializeMint (mint rent_sysvar decimals : UInt8) (mint_authority : Pubkey)
    (freeze_authority : Option Pubkey)
  | InitializeAccount (account mint owner rent_sysvar : UInt8)
  | InitializeMultisig (multisig_account rent_sysvar : UInt8) (signers : TokenSigners)
    (threshold : TokenThreshold)
  | Revoke (source : UInt8) (owner : TokenOwner)
  | SetAuthority (account : UInt8) (authority_type : Token_AuthorityType)
    (new_authority : Option Pubkey) (authority : TokenOwner)
  | CloseAccount (account destination : UInt8) (owner : TokenOwner)
  | FreezeAccount (account mint : UInt8) (freeze_authority : TokenOwner)
  | ThawAccount (account mint : UInt8) (freeze_authority : TokenOwner)
  | TransferChecked (source mint destination : UInt8) (amount : UInt64) (decimals : UInt8)
    (owner : TokenOwner)
  | ApproveChecked (source mint delegate : UInt8) (amount : UInt64) (decimals : UInt8)
    (owner : TokenOwner)
  | MintToChecked (mint account : UInt8) (amount : UInt64) (decimals : UInt8)
    (mint_authority : TokenOwner)
  | BurnChecked (account mint : UInt8) (amount : UInt64) (decimals : UInt8) (owner : TokenOwner)
  | InitializeAccount2 (account mint rent_sysvar : UInt8) (owner : Pubkey)
  | SyncNative (account : UInt8)
deriving DecidableEq

/-! ## How they are written -/

/-- The signers in the order the accounts list them. -/
def TokenSigners.accounts (signers : TokenSigners) : List UInt8 := signers.first :: signers.others

/-- What the account list ends with: the owner, and for a multisig the signers behind
it. -/
def TokenOwner.accounts : TokenOwner → List UInt8
  | .single owner => [owner]
  | .multisig owner signers => owner :: signers.accounts

/-- `Token_AuthorityType`. -/
def Token_AuthorityType.encode : Token_AuthorityType → List UInt8
  | .MintTokens => [0]
  | .FreezeAccount => [1]
  | .AccountOwner => [2]
  | .CloseAccount => [3]

/-- The body of the checked instructions: eight bytes of amount and one of decimals. -/
def encode_amount_body (amount : UInt64) (decimals : UInt8) : List UInt8 :=
  little_endian 8 amount.toNat ++ [decimals]

namespace TokenInstruction

/-- `Token_TokenInstruction_Tag`. -/
def tag : TokenInstruction → UInt8
  | InitializeMint .. => 0
  | InitializeAccount .. => 1
  | InitializeMultisig .. => 2
  | Revoke .. => 5
  | SetAuthority .. => 6
  | CloseAccount .. => 9
  | FreezeAccount .. => 10
  | ThawAccount .. => 11
  | TransferChecked .. => 12
  | ApproveChecked .. => 13
  | MintToChecked .. => 14
  | BurnChecked .. => 15
  | InitializeAccount2 .. => 16
  | SyncNative .. => 17

/-- The body, in the order of its fields. -/
def body : TokenInstruction → List UInt8
  | InitializeMint _ _ decimals mint_authority freeze_authority =>
    decimals :: (mint_authority.data ++ encode_option freeze_authority)
  | InitializeMultisig _ _ _ threshold => [threshold.m]
  | SetAuthority _ authority_type new_authority _ =>
    authority_type.encode ++ encode_option new_authority
  | TransferChecked _ _ _ amount decimals _ => encode_amount_body amount decimals
  | ApproveChecked _ _ _ amount decimals _ => encode_amount_body amount decimals
  | MintToChecked _ _ amount decimals _ => encode_amount_body amount decimals
  | BurnChecked _ _ amount decimals _ => encode_amount_body amount decimals
  | InitializeAccount2 _ _ _ owner => owner.data
  | _ => []

/-- The bytes of an instruction: its tag in one, then its body. -/
def encode (instruction : TokenInstruction) : List UInt8 := instruction.tag :: instruction.body

/-- The accounts that the instruction expects. -/
def accounts : TokenInstruction → List UInt8
  | InitializeMint mint rent_sysvar _ _ _ => [mint, rent_sysvar]
  | InitializeAccount account mint owner rent_sysvar => [account, mint, owner, rent_sysvar]
  | InitializeMultisig multisig_account rent_sysvar signers _ =>
    multisig_account :: rent_sysvar :: signers.accounts
  | Revoke source owner => source :: owner.accounts
  | SetAuthority account _ _ authority => account :: authority.accounts
  | CloseAccount account destination owner => account :: destination :: owner.accounts
  | FreezeAccount account mint freeze_authority => account :: mint :: freeze_authority.accounts
  | ThawAccount account mint freeze_authority => account :: mint :: freeze_authority.accounts
  | TransferChecked source mint destination _ _ owner =>
    source :: mint :: destination :: owner.accounts
  | ApproveChecked source mint delegate _ _ owner => source :: mint :: delegate :: owner.accounts
  | MintToChecked mint account _ _ mint_authority => mint :: account :: mint_authority.accounts
  | BurnChecked account mint _ _ owner => account :: mint :: owner.accounts
  | InitializeAccount2 account mint rent_sysvar _ => [account, mint, rent_sysvar]
  | SyncNative account => [account]

/-- The instructions whose list of accounts has no end that the parser looks for: what
follows their own accounts is not read. All others end with those who sign. -/
def TakesMore : TokenInstruction → Prop
  | InitializeMint .. => True
  | InitializeAccount2 .. => True
  | SyncNative .. => True
  | _ => False

end TokenInstruction

/-! ## What they are read as -/

section Read

variable (pubkeys : PubkeyTable)

/-- The struct keeps where the signers begin and how many there are. -/
def TokenSigners.multisigners (signers : TokenSigners) : RplTokenMultisigners :=
  { first := pubkeys.at_index signers.first.toNat
    count := UInt8.ofNat (signers.others.length + 1) }

/-- What the tail of the account list is read as. -/
def TokenOwner.sign : TokenOwner → RplTokenSign
  | .single owner => .RplTokenSignKindSingle (pubkeys.at_index owner.toNat)
  | .multisig owner signers =>
    .RplTokenSignKindMulti (pubkeys.at_index owner.toNat) (signers.multisigners pubkeys)

/-- What the parser makes of the instruction, whose data lies at `addr`. A key in the
data is pointed to, and one among the accounts is the entry of the table. -/
def TokenInstruction.info (addr : ℕ) : TokenInstruction → RplTokenInfo
  | InitializeMint mint _ decimals mint_authority freeze_authority =>
    .InitializeMint
      { mint_account := pubkeys.at_index mint.toNat
        mint_authority := ⟨addr + 2, mint_authority⟩
        freeze_authority := freeze_authority.map fun key => ⟨addr + 2 + PUBKEY_SIZE + 1, key⟩
        decimals }
  | InitializeAccount account mint owner _ =>
    .InitializeAccount
      { token_account := pubkeys.at_index account.toNat
        mint_account := pubkeys.at_index mint.toNat
        owner := pubkeys.at_index owner.toNat }
  | InitializeMultisig multisig_account _ signers threshold =>
    .InitializeMultisig
      { multisig_account := pubkeys.at_index multisig_account.toNat
        signers := signers.multisigners pubkeys
        m := threshold.m }
  | Revoke source owner =>
    .Revoke { token_account := pubkeys.at_index source.toNat, sign := owner.sign pubkeys }
  | SetAuthority account authority_type new_authority authority =>
    .SetAuthority
      { account := pubkeys.at_index account.toNat
        new_authority := new_authority.map fun key => ⟨addr + 2 + 1, key⟩
        authority_type
        sign := authority.sign pubkeys }
  | CloseAccount account destination owner =>
    .CloseAccount
      { token_account := pubkeys.at_index account.toNat
        dest_account := pubkeys.at_index destination.toNat
        sign := owner.sign pubkeys }
  | FreezeAccount account mint freeze_authority =>
    .FreezeAccount
      { token_account := pubkeys.at_index account.toNat
        mint_account := pubkeys.at_index mint.toNat
        sign := freeze_authority.sign pubkeys }
  | ThawAccount account mint freeze_authority =>
    .ThawAccount
      { token_account := pubkeys.at_index account.toNat
        mint_account := pubkeys.at_index mint.toNat
        sign := freeze_authority.sign pubkeys }
  | TransferChecked source mint destination amount decimals owner =>
    .TransferChecked
      { src_account := pubkeys.at_index source.toNat
        dest_account := pubkeys.at_index destination.toNat
        mint_account := pubkeys.at_index mint.toNat
        sign := owner.sign pubkeys
        body := { amount, decimals } }
  | ApproveChecked source mint delegate amount decimals owner =>
    .ApproveChecked
      { token_account := pubkeys.at_index source.toNat
        delegate := pubkeys.at_index delegate.toNat
        mint_account := pubkeys.at_index mint.toNat
        sign := owner.sign pubkeys
        body := { amount, decimals } }
  | MintToChecked mint account amount decimals mint_authority =>
    .MintToChecked
      { mint_account := pubkeys.at_index mint.toNat
        token_account := pubkeys.at_index account.toNat
        sign := mint_authority.sign pubkeys
        body := { amount, decimals } }
  | BurnChecked account mint amount decimals owner =>
    .BurnChecked
      { token_account := pubkeys.at_index account.toNat
        mint_account := pubkeys.at_index mint.toNat
        sign := owner.sign pubkeys
        body := { amount, decimals } }
  | InitializeAccount2 account mint _ owner =>
    .InitializeAccount2
      { token_account := pubkeys.at_index account.toNat
        mint_account := pubkeys.at_index mint.toNat
        owner := ⟨addr + 1, owner⟩ }
  | SyncNative account => .SyncNative { token_account := pubkeys.at_index account.toNat }

end Read

/-! ## Reading the parts -/

section Parts

variable {pubkeys : PubkeyTable} {c : Parser}

/-- The body is read back, and the parser stands behind it. -/
theorem parse_amount_body_run (amount : UInt64) (decimals : UInt8) (addr : ℕ)
    (rest : List UInt8) :
    parse_rpl_token_amount_body ⟨addr, encode_amount_body amount decimals ++ rest⟩ =
      some ({ amount, decimals }, ⟨addr + 8 + 1, rest⟩) := by
  rw [parse_rpl_token_amount_body, bind_run, encode_amount_body, List.append_assoc,
    parse_u64_run, Option.bind_some]
  rfl

/-- All accounts that are left are signers, of which the first one is kept. -/
theorem runs_multisigners (signers : TokenSigners) :
    Runs pubkeys parse_rpl_token_multisigners signers.accounts c (signers.multisigners pubkeys)
      signers.others c := by
  have hfew : decide (signers.accounts.length > Token_MAX_SIGNERS) = false :=
    decide_eq_false (Nat.not_lt.mpr signers.others_lt)
  refine runs_bind runs_remaining_accounts ?_
  refine runs_bind (runs_bail_if hfew) ?_
  exact runs_bind (runs_next_account _) (runs_pure _)

/-- The accounts of an owner are read as that owner. How many are left decides between
the two kinds, so the lemma needs them to be the whole rest of the list: one more
account would make a single owner a multisig. -/
theorem runs_sign (owner : TokenOwner) :
    ∃ left, Runs pubkeys parse_rpl_token_sign owner.accounts c (owner.sign pubkeys) left c := by
  cases owner with
  | single owner =>
    refine ⟨[], runs_bind runs_remaining_accounts ?_⟩
    refine runs_bind (runs_bail_if rfl) ?_
    exact runs_bind (runs_next_account _) (runs_pure _)
  | multisig owner signers =>
    refine ⟨signers.others, runs_bind runs_remaining_accounts ?_⟩
    refine runs_bind (runs_bail_if rfl) ?_
    refine runs_bind (runs_next_account _) ?_
    exact runs_bind (runs_multisigners signers) (runs_pure _)

/-- The signature is what every instruction with an owner ends in. -/
theorem returns_sign {α : Type} (owner : TokenOwner) (f : RplTokenSign → α) :
    Returns pubkeys (do return f (← parse_rpl_token_sign)) owner.accounts c
      (f (owner.sign pubkeys)) := by
  obtain ⟨left, hsign⟩ : ∃ left, Runs pubkeys parse_rpl_token_sign owner.accounts c
      (owner.sign pubkeys) left c := runs_sign owner
  exact returns_bind hsign (returns_pure _)

/-- The signature, behind two accounts. -/
theorem returns_two_accounts_sign {α : Type} (i j : UInt8) (owner : TokenOwner)
    (f : PubkeyRef → PubkeyRef → RplTokenSign → α) :
    Returns pubkeys (do
        let first ← next_account
        let second ← next_account
        return f first second (← parse_rpl_token_sign)) (i :: j :: owner.accounts) c
      (f (pubkeys.at_index i.toNat) (pubkeys.at_index j.toNat) (owner.sign pubkeys)) := by
  refine returns_next_account ?_
  refine returns_next_account ?_
  exact returns_sign owner _

/-- The shape that the checked instructions share: three accounts, then those who sign.
Each instruction gives its own constructor for `f`. -/
theorem returns_three_accounts_sign {α : Type} (i j k : UInt8) (owner : TokenOwner)
    (f : PubkeyRef → PubkeyRef → PubkeyRef → RplTokenSign → α) :
    Returns pubkeys (do
        let first ← next_account
        let second ← next_account
        let third ← next_account
        return f first second third (← parse_rpl_token_sign)) (i :: j :: k :: owner.accounts) c
      (f (pubkeys.at_index i.toNat) (pubkeys.at_index j.toNat) (pubkeys.at_index k.toNat)
        (owner.sign pubkeys)) :=
  returns_next_account (returns_two_accounts_sign j k owner _)

/-- The byte of an authority type is read as that type. -/
theorem parse_authority_type_run (authority_type : Token_AuthorityType) (addr : ℕ)
    (rest : List UInt8) :
    parse_token_authority_type ⟨addr, authority_type.encode ++ rest⟩ =
      some (authority_type, ⟨addr + 1, rest⟩) := by
  cases authority_type <;> rfl

end Parts

/-! ## Reading the instructions -/

section Decoding

variable (header : MessageHeader)

/-- With these accounts, the instruction is read as it was meant: from its own encoding,
wherever that lies and whatever the key table holds. -/
def DecodesToken (instruction : TokenInstruction) (accounts : List UInt8) : Prop :=
  accounts.length < 256 → ∀ (program_id_index : UInt8) (addr : ℕ) (rest : List UInt8),
    parse_rpl_token_instructions
      ⟨program_id_index, accounts, ⟨addr, instruction.encode ++ rest⟩⟩ header =
        some (instruction.info header.pubkeys addr)

/-- What is read behind the tag is the instruction. -/
theorem instruction_run {α : Type} {r : ParserM α} {f : α → RplTokenInfo} {c : Parser} {a : α}
    (h : ∃ d, r c = some (a, d)) : (r >>= fun a => pure (f a)).run' c = some (f a) := by
  obtain ⟨d, hrun⟩ := h
  exact run'_eq_some.mpr ⟨d, by rw [bind_run, hrun]; rfl⟩

variable {header}

/-- What follows the rent sysvar in the account list does not matter here. -/
theorem decodes_initialize_mint (mint rent_sysvar decimals : UInt8) (mint_authority : Pubkey)
    (freeze_authority : Option Pubkey) (more : List UInt8) :
    DecodesToken header (.InitializeMint mint rent_sysvar decimals mint_authority freeze_authority)
      (mint :: rent_sysvar :: more) := by
  intro hlen program_id_index addr rest
  have hmint := parse_pubkey_run mint_authority (addr + 2) (encode_option freeze_authority ++ rest)
  have hfreeze := parse_optional_pubkey_run freeze_authority (addr + 2 + PUBKEY_SIZE) rest
  rw [← List.append_assoc] at hmint
  refine instruction_run (f := .InitializeMint) (returns_with_accounts hlen ?_)
  refine returns_bind (runs_data (parse_u8_run decimals (addr + 1) _)) ?_
  refine returns_bind (runs_data hmint) ?_
  refine returns_bind (runs_data hfreeze) ?_
  refine returns_next_account ?_
  exact returns_skip_account (returns_pure _)

/-- Here the list has to end with the rent sysvar: the parser asks for four accounts. -/
theorem decodes_initialize_account (account mint owner rent_sysvar : UInt8) :
    DecodesToken header (.InitializeAccount account mint owner rent_sysvar)
      [account, mint, owner, rent_sysvar] := by
  intro hlen program_id_index addr rest
  refine instruction_run (f := .InitializeAccount)
    (r := parse_initialize_account_rpl_token_instruction
      ⟨program_id_index, [account, mint, owner, rent_sysvar], ⟨addr, 1 :: rest⟩⟩ header true)
    (returns_with_accounts hlen ?_)
  refine returns_bind (runs_bail_if rfl) ?_
  refine returns_next_account ?_
  refine returns_next_account ?_
  refine returns_next_account ?_
  exact returns_skip_account (returns_pure _)

/-- The signers are the rest of the list, so nothing may follow them. -/
theorem decodes_initialize_multisig (multisig_account rent_sysvar : UInt8)
    (signers : TokenSigners) (threshold : TokenThreshold) :
    DecodesToken header (.InitializeMultisig multisig_account rent_sysvar signers threshold)
      (multisig_account :: rent_sysvar :: signers.accounts) := by
  intro hlen program_id_index addr rest
  have hthreshold : decide (threshold.m.toNat > Token_MAX_SIGNERS) = false :=
    decide_eq_false (Nat.not_lt.mpr threshold.m_le)
  refine instruction_run (f := .InitializeMultisig) (returns_with_accounts hlen ?_)
  refine returns_bind (runs_data (parse_u8_run threshold.m (addr + 1) rest)) ?_
  refine returns_bind (runs_bail_if hthreshold) ?_
  refine returns_next_account ?_
  refine returns_skip_account ?_
  exact returns_bind (runs_multisigners signers) (returns_pure _)

/-- One account, then those who sign. -/
theorem decodes_revoke (source : UInt8) (owner : TokenOwner) :
    DecodesToken header (.Revoke source owner) (source :: owner.accounts) := by
  intro hlen program_id_index addr rest
  refine instruction_run (f := .Revoke) (returns_with_accounts hlen ?_)
  refine returns_next_account ?_
  exact returns_sign owner _

/-- The data is read between the account and those who sign. -/
theorem decodes_set_authority (account : UInt8) (authority_type : Token_AuthorityType)
    (new_authority : Option Pubkey) (authority : TokenOwner) :
    DecodesToken header (.SetAuthority account authority_type new_authority authority)
      (account :: authority.accounts) := by
  intro hlen program_id_index addr rest
  have htype := parse_authority_type_run authority_type (addr + 1)
    (encode_option new_authority ++ rest)
  have hnew := parse_optional_pubkey_run new_authority (addr + 2) rest
  rw [← List.append_assoc] at htype
  refine instruction_run (f := .SetAuthority) (returns_with_accounts hlen ?_)
  refine returns_next_account ?_
  refine returns_bind (runs_data htype) ?_
  refine returns_bind (runs_data hnew) ?_
  exact returns_sign authority _

/-- Two accounts, then those who sign. -/
theorem decodes_close_account (account destination : UInt8) (owner : TokenOwner) :
    DecodesToken header (.CloseAccount account destination owner)
      (account :: destination :: owner.accounts) := by
  intro hlen program_id_index addr rest
  refine instruction_run (f := .CloseAccount) (returns_with_accounts hlen ?_)
  exact returns_two_accounts_sign _ _ owner _

/-- Two accounts, then the freeze authority. -/
theorem decodes_freeze_account (account mint : UInt8) (freeze_authority : TokenOwner) :
    DecodesToken header (.FreezeAccount account mint freeze_authority)
      (account :: mint :: freeze_authority.accounts) := by
  intro hlen program_id_index addr rest
  refine instruction_run (f := .FreezeAccount) (returns_with_accounts hlen ?_)
  exact returns_two_accounts_sign _ _ freeze_authority _

/-- Two accounts, then the freeze authority. -/
theorem decodes_thaw_account (account mint : UInt8) (freeze_authority : TokenOwner) :
    DecodesToken header (.ThawAccount account mint freeze_authority)
      (account :: mint :: freeze_authority.accounts) := by
  intro hlen program_id_index addr rest
  refine instruction_run (f := .ThawAccount) (returns_with_accounts hlen ?_)
  exact returns_two_accounts_sign _ _ freeze_authority _

section Amounts

variable (amount : UInt64) (decimals : UInt8) (owner : TokenOwner)

/-- The mint stands between the two ends. -/
theorem decodes_transfer (source mint destination : UInt8) :
    DecodesToken header (.TransferChecked source mint destination amount decimals owner)
      (source :: mint :: destination :: owner.accounts) := by
  intro hlen program_id_index addr rest
  refine instruction_run (f := .TransferChecked) (returns_with_accounts hlen ?_)
  refine returns_bind (runs_data (parse_amount_body_run amount decimals (addr + 1) rest)) ?_
  exact returns_three_accounts_sign _ _ _ owner _

/-- The mint stands between the account and the delegate. -/
theorem decodes_approve (source mint delegate : UInt8) :
    DecodesToken header (.ApproveChecked source mint delegate amount decimals owner)
      (source :: mint :: delegate :: owner.accounts) := by
  intro hlen program_id_index addr rest
  refine instruction_run (f := .ApproveChecked) (returns_with_accounts hlen ?_)
  refine returns_bind (runs_data (parse_amount_body_run amount decimals (addr + 1) rest)) ?_
  exact returns_three_accounts_sign _ _ _ owner _

/-- The mint comes first, since the tokens come from it. -/
theorem decodes_mint_to (mint account : UInt8) :
    DecodesToken header (.MintToChecked mint account amount decimals owner)
      (mint :: account :: owner.accounts) := by
  intro hlen program_id_index addr rest
  refine instruction_run (f := .MintToChecked) (returns_with_accounts hlen ?_)
  refine returns_bind (runs_data (parse_amount_body_run amount decimals (addr + 1) rest)) ?_
  exact returns_two_accounts_sign _ _ owner _

/-- The account comes first, since the tokens are taken from it. -/
theorem decodes_burn (account mint : UInt8) :
    DecodesToken header (.BurnChecked account mint amount decimals owner)
      (account :: mint :: owner.accounts) := by
  intro hlen program_id_index addr rest
  refine instruction_run (f := .BurnChecked) (returns_with_accounts hlen ?_)
  refine returns_bind (runs_data (parse_amount_body_run amount decimals (addr + 1) rest)) ?_
  exact returns_two_accounts_sign _ _ owner _

end Amounts

/-- The owner is in the data, so what follows the rent sysvar does not matter. -/
theorem decodes_initialize_account2 (account mint rent_sysvar : UInt8) (owner : Pubkey)
    (more : List UInt8) :
    DecodesToken header (.InitializeAccount2 account mint rent_sysvar owner)
      (account :: mint :: rent_sysvar :: more) := by
  intro hlen program_id_index addr rest
  refine instruction_run (f := .InitializeAccount2) (returns_with_accounts hlen ?_)
  refine returns_next_account ?_
  refine returns_next_account ?_
  refine returns_skip_account ?_
  exact returns_bind (runs_data (parse_pubkey_run owner (addr + 1) rest)) (returns_pure _)

/-- One account; what follows it does not matter. -/
theorem decodes_sync_native (account : UInt8) (more : List UInt8) :
    DecodesToken header (.SyncNative account) (account :: more) := by
  intro hlen program_id_index addr rest
  refine instruction_run (f := .SyncNative) (returns_with_accounts hlen ?_)
  exact returns_next_account (returns_pure _)

end Decoding

/-! ## Data that ends too early -/

section Truncated

/-- All nine bytes of the body are needed. -/
theorem needs_amount_body (amount : UInt64) (decimals : UInt8) :
    Needs parse_rpl_token_amount_body (encode_amount_body amount decimals) fun _ => True :=
  Needs.bind (needs_u64 amount) fun _ _ => Needs.bind_nil (needs_u8 decimals) fun _ _ =>
    Needs.pure trivial

/-- The byte of the authority type is needed. -/
theorem needs_authority_type (authority_type : Token_AuthorityType) :
    Needs parse_token_authority_type authority_type.encode fun _ => True := by
  cases authority_type <;>
    exact Needs.bind_nil (needs_u8 _) fun b hb => by subst hb; exact Needs.pure trivial

/-- The signers are accounts and take nothing of the data. -/
theorem needs_data_multisigners : NeedsData parse_rpl_token_multisigners [] := by
  refine needs_data_nil_bind needs_data_remaining_accounts fun n => ?_
  refine needs_data_nil_bind (needs_data_bail_if _) fun _ => ?_
  exact needs_data_account_bind fun _ => needs_data_pure _

/-- Those who sign are accounts and take nothing of the data. -/
theorem needs_data_sign : NeedsData parse_rpl_token_sign [] := by
  refine needs_data_nil_bind needs_data_remaining_accounts fun n => ?_
  refine needs_data_nil_bind (needs_data_bail_if _) fun _ => ?_
  split
  · exact needs_data_account_bind fun _ => needs_data_pure _
  · refine needs_data_nil_bind needs_data_next_account fun _ => ?_
    exact needs_data_nil_bind needs_data_multisigners fun _ => needs_data_pure _

/-- The shape of closing, freezing and thawing an account needs no data. -/
theorem needs_data_two_accounts_sign {α : Type} (f : PubkeyRef → PubkeyRef → RplTokenSign → α) :
    NeedsData (do
      let first ← next_account
      let second ← next_account
      return f first second (← parse_rpl_token_sign)) [] := by
  refine needs_data_account_bind fun _ => ?_
  refine needs_data_account_bind fun _ => ?_
  exact needs_data_nil_bind needs_data_sign fun _ => needs_data_pure _

/-- The shape of the checked instructions, behind their body, needs no data. -/
theorem needs_data_three_accounts_sign {α : Type}
    (f : PubkeyRef → PubkeyRef → PubkeyRef → RplTokenSign → α) :
    NeedsData (do
      let first ← next_account
      let second ← next_account
      let third ← next_account
      return f first second third (← parse_rpl_token_sign)) [] :=
  needs_data_account_bind fun first => needs_data_two_accounts_sign (f first)

section Bodies

variable (instruction : Instruction) (header : MessageHeader)

/-- A mint needs its decimals and its authorities; the data comes before the accounts. -/
theorem needs_initialize_mint (decimals : UInt8) (mint_authority : Pubkey)
    (freeze_authority : Option Pubkey) :
    Needs (parse_initialize_mint_rpl_token_instruction instruction header)
      (decimals :: (mint_authority.data ++ encode_option freeze_authority)) fun _ => True := by
  refine needs_with_accounts ?_ instruction header
  refine needs_data_u8_bind fun _ => ?_
  refine needs_data_bind (needs_data_of_needs (needs_pubkey mint_authority)) fun _ => ?_
  refine needs_data_bind_nil (needs_data_of_needs (needs_optional_pubkey freeze_authority))
    fun _ => ?_
  refine needs_data_account_bind fun _ => ?_
  exact needs_data_skip_bind (needs_data_pure _)

/-- The variant with the owner among the accounts needs no data. -/
theorem needs_initialize_account :
    Needs (parse_initialize_account_rpl_token_instruction instruction header true) []
      fun _ => True := by
  refine needs_with_accounts ?_ instruction header
  refine needs_data_nil_bind (needs_data_bail_if _) fun _ => ?_
  refine needs_data_account_bind fun _ => ?_
  refine needs_data_account_bind fun _ => ?_
  refine needs_data_account_bind fun _ => ?_
  exact needs_data_skip_bind (needs_data_pure _)

/-- The other variant needs the owner's key, though it is read after the accounts. -/
theorem needs_initialize_account2 (owner : Pubkey) :
    Needs (parse_initialize_account_rpl_token_instruction instruction header false) owner.data
      fun _ => True := by
  refine needs_with_accounts ?_ instruction header
  refine needs_data_account_bind fun _ => ?_
  refine needs_data_account_bind fun _ => ?_
  refine needs_data_skip_bind ?_
  exact needs_data_bind_nil (needs_data_of_needs (needs_pubkey owner)) fun _ => needs_data_pure _

/-- A multisig needs its threshold. -/
theorem needs_initialize_multisig (m : UInt8) :
    Needs (parse_initialize_multisig_rpl_token_instruction instruction header) [m]
      fun _ => True := by
  refine needs_with_accounts ?_ instruction header
  refine needs_data_u8_bind fun _ => ?_
  refine needs_data_nil_bind (needs_data_bail_if _) fun _ => ?_
  refine needs_data_account_bind fun _ => ?_
  refine needs_data_skip_bind ?_
  exact needs_data_nil_bind needs_data_multisigners fun _ => needs_data_pure _

/-- Revoking needs no data. -/
theorem needs_revoke :
    Needs (parse_revoke_rpl_token_instruction instruction header) [] fun _ => True := by
  refine needs_with_accounts ?_ instruction header
  refine needs_data_account_bind fun _ => ?_
  exact needs_data_nil_bind needs_data_sign fun _ => needs_data_pure _

/-- A new authority needs its type and its optional key. -/
theorem needs_set_authority (authority_type : Token_AuthorityType)
    (new_authority : Option Pubkey) :
    Needs (parse_set_authority_rpl_token_instruction instruction header)
      (authority_type.encode ++ encode_option new_authority) fun _ => True := by
  refine needs_with_accounts ?_ instruction header
  refine needs_data_account_bind fun _ => ?_
  refine needs_data_bind (needs_data_of_needs (needs_authority_type authority_type)) fun _ => ?_
  refine needs_data_bind_nil (needs_data_of_needs (needs_optional_pubkey new_authority))
    fun _ => ?_
  exact needs_data_nil_bind needs_data_sign fun _ => needs_data_pure _

/-- Closing an account needs no data. -/
theorem needs_close_account :
    Needs (parse_close_account_rpl_token_instruction instruction header) [] fun _ => True := by
  refine needs_with_accounts ?_ instruction header
  exact needs_data_two_accounts_sign _

/-- Freezing an account needs no data. -/
theorem needs_freeze_account :
    Needs (parse_freeze_account_rpl_token_instruction instruction header) [] fun _ => True := by
  refine needs_with_accounts ?_ instruction header
  exact needs_data_two_accounts_sign _

/-- Thawing an account needs no data. -/
theorem needs_thaw_account :
    Needs (parse_thaw_account_rpl_token_instruction instruction header) [] fun _ => True := by
  refine needs_with_accounts ?_ instruction header
  exact needs_data_two_accounts_sign _

/-- A transfer needs the body. -/
theorem needs_transfer (amount : UInt64) (decimals : UInt8) :
    Needs (parse_transfer_rpl_token_instruction instruction header)
      (encode_amount_body amount decimals) fun _ => True := by
  refine needs_with_accounts ?_ instruction header
  refine needs_data_bind_nil (needs_data_of_needs (needs_amount_body amount decimals)) fun _ => ?_
  exact needs_data_three_accounts_sign _

/-- An allowance needs the body. -/
theorem needs_approve (amount : UInt64) (decimals : UInt8) :
    Needs (parse_approve_rpl_token_instruction instruction header)
      (encode_amount_body amount decimals) fun _ => True := by
  refine needs_with_accounts ?_ instruction header
  refine needs_data_bind_nil (needs_data_of_needs (needs_amount_body amount decimals)) fun _ => ?_
  exact needs_data_three_accounts_sign _

/-- New tokens need the body. -/
theorem needs_mint_to (amount : UInt64) (decimals : UInt8) :
    Needs (parse_mint_to_rpl_token_instruction instruction header)
      (encode_amount_body amount decimals) fun _ => True := by
  refine needs_with_accounts ?_ instruction header
  refine needs_data_bind_nil (needs_data_of_needs (needs_amount_body amount decimals)) fun _ => ?_
  exact needs_data_two_accounts_sign _

/-- Burnt tokens need the body. -/
theorem needs_burn (amount : UInt64) (decimals : UInt8) :
    Needs (parse_burn_rpl_token_instruction instruction header)
      (encode_amount_body amount decimals) fun _ => True := by
  refine needs_with_accounts ?_ instruction header
  refine needs_data_bind_nil (needs_data_of_needs (needs_amount_body amount decimals)) fun _ => ?_
  exact needs_data_two_accounts_sign _

/-- Bringing a balance up to date needs no data. -/
theorem needs_sync_native :
    Needs (parse_sync_native_rpl_token_instruction instruction header) [] fun _ => True := by
  refine needs_with_accounts ?_ instruction header
  exact needs_data_account_bind fun _ => needs_data_pure _

end Bodies

/-- The tag is one that is known. -/
theorem needs_tag (instruction : TokenInstruction) (pubkeys : PubkeyTable) (addr : ℕ) :
    Needs parse_rpl_token_instruction_kind [instruction.tag]
      (· = (instruction.info pubkeys addr).kind) := by
  refine Needs.bind_nil (needs_u8 instruction.tag) fun b hb => ?_
  subst hb
  cases instruction <;> exact Needs.pure rfl

/-- The parser goes on with the kind it has read, and needs the body. -/
theorem fails_behind_tag {α : Type} {r : ParserM α} {f : α → RplTokenInfo}
    {g : RplTokenInstructionKind → ParserM RplTokenInfo} {instruction : TokenInstruction}
    (pubkeys : PubkeyTable) {addr : ℕ}
    (hg : g (instruction.info pubkeys addr).kind = r >>= fun a => pure (f a))
    (hr : Needs r instruction.body fun _ => True) {n : ℕ} (hn : n < instruction.encode.length) :
    (parse_rpl_token_instruction_kind >>= g).run' ⟨addr, instruction.encode.take n⟩ = none := by
  have hneeds : Needs (parse_rpl_token_instruction_kind >>= g) instruction.encode
      fun _ => True := by
    refine Needs.bind (needs_tag instruction pubkeys addr) fun kind hkind => ?_
    rw [hkind, hg]
    exact Needs.bind_nil hr fun _ _ => Needs.pure trivial
  rw [StateT.run', hneeds.fails addr n hn]
  rfl

/-- **Less data is rejected**, whatever the accounts are. -/
theorem truncated_fails (header : MessageHeader) (instruction : TokenInstruction)
    (program_id_index : UInt8) (accounts : List UInt8) (addr : ℕ) {n : ℕ}
    (hn : n < instruction.encode.length) :
    parse_rpl_token_instructions
      ⟨program_id_index, accounts, ⟨addr, instruction.encode.take n⟩⟩ header = none := by
  cases instruction with
  | InitializeMint mint rent_sysvar decimals mint_authority freeze_authority =>
    exact fails_behind_tag header.pubkeys rfl
      (needs_initialize_mint _ header decimals mint_authority freeze_authority) hn
  | InitializeAccount account mint owner rent_sysvar =>
    exact fails_behind_tag header.pubkeys rfl (needs_initialize_account _ header) hn
  | InitializeMultisig multisig_account rent_sysvar signers threshold =>
    exact fails_behind_tag header.pubkeys rfl (needs_initialize_multisig _ header threshold.m) hn
  | Revoke source owner =>
    exact fails_behind_tag header.pubkeys rfl (needs_revoke _ header) hn
  | SetAuthority account authority_type new_authority authority =>
    exact fails_behind_tag header.pubkeys rfl
      (needs_set_authority _ header authority_type new_authority) hn
  | CloseAccount account destination owner =>
    exact fails_behind_tag header.pubkeys rfl (needs_close_account _ header) hn
  | FreezeAccount account mint freeze_authority =>
    exact fails_behind_tag header.pubkeys rfl (needs_freeze_account _ header) hn
  | ThawAccount account mint freeze_authority =>
    exact fails_behind_tag header.pubkeys rfl (needs_thaw_account _ header) hn
  | TransferChecked source mint destination amount decimals owner =>
    exact fails_behind_tag header.pubkeys rfl (needs_transfer _ header amount decimals) hn
  | ApproveChecked source mint delegate amount decimals owner =>
    exact fails_behind_tag header.pubkeys rfl (needs_approve _ header amount decimals) hn
  | MintToChecked mint account amount decimals mint_authority =>
    exact fails_behind_tag header.pubkeys rfl (needs_mint_to _ header amount decimals) hn
  | BurnChecked account mint amount decimals owner =>
    exact fails_behind_tag header.pubkeys rfl (needs_burn _ header amount decimals) hn
  | InitializeAccount2 account mint rent_sysvar owner =>
    exact fails_behind_tag header.pubkeys rfl (needs_initialize_account2 _ header owner) hn
  | SyncNative account =>
    exact fails_behind_tag header.pubkeys rfl (needs_sync_native _ header) hn

/-- **A tag without an instruction is rejected**: the deprecated ones, and those behind the last
one. -/
theorem unknown_tag_fails (header : MessageHeader) {tag : UInt8}
    (htag : tag ∈ [3, 4, 7, 8] ∨ 17 < tag) (program_id_index : UInt8) (accounts : List UInt8)
    (addr : ℕ) (rest : List UInt8) :
    parse_rpl_token_instructions ⟨program_id_index, accounts, ⟨addr, tag :: rest⟩⟩ header =
      none := by
  have hlisted : tag.toNat = 3 ∨ tag.toNat = 4 ∨ tag.toNat = 7 ∨ tag.toNat = 8 ∨
      17 < tag.toNat := by
    rcases htag with hdeprecated | hunknown
    · simp only [List.mem_cons, List.not_mem_nil, or_false] at hdeprecated
      rcases hdeprecated with rfl | rfl | rfl | rfl <;> decide
    · exact Or.inr (Or.inr (Or.inr (Or.inr (UInt8.lt_iff_toNat_lt.mp hunknown))))
  have hkind : parse_rpl_token_instruction_kind ⟨addr, tag :: rest⟩ = none := by
    rw [parse_rpl_token_instruction_kind, bind_run, parse_u8_run, Option.bind_some]
    dsimp only
    rcases hlisted with h | h | h | h | h
    · rw [h]
      rfl
    · rw [h]
      rfl
    · rw [h]
      rfl
    · rw [h]
      rfl
    · obtain ⟨k, hk⟩ : ∃ k, tag.toNat = k + 18 := ⟨tag.toNat - 18, by omega⟩
      rw [hk]
      rfl
  rw [parse_rpl_token_instructions, parse_instruction_data, StateT.run', bind_run, hkind]
  rfl

end Truncated

/-! ## Decoding -/

/-- Every instruction is decoded from its own accounts, with more behind them where the
instruction takes more. -/
theorem accounts_decode (header : MessageHeader) (instruction : TokenInstruction)
    {more : List UInt8} (hmore : more = [] ∨ instruction.TakesMore) :
    DecodesToken header instruction (instruction.accounts ++ more) := by
  rcases hmore with rfl | hmore
  · rw [List.append_nil]
    cases instruction with
    | InitializeMint mint rent_sysvar decimals mint_authority freeze_authority =>
      exact decodes_initialize_mint mint rent_sysvar decimals mint_authority freeze_authority []
    | InitializeAccount account mint owner rent_sysvar =>
      exact decodes_initialize_account account mint owner rent_sysvar
    | InitializeMultisig multisig_account rent_sysvar signers threshold =>
      exact decodes_initialize_multisig multisig_account rent_sysvar signers threshold
    | Revoke source owner => exact decodes_revoke source owner
    | SetAuthority account authority_type new_authority authority =>
      exact decodes_set_authority account authority_type new_authority authority
    | CloseAccount account destination owner =>
      exact decodes_close_account account destination owner
    | FreezeAccount account mint freeze_authority =>
      exact decodes_freeze_account account mint freeze_authority
    | ThawAccount account mint freeze_authority =>
      exact decodes_thaw_account account mint freeze_authority
    | TransferChecked source mint destination amount decimals owner =>
      exact decodes_transfer amount decimals owner source mint destination
    | ApproveChecked source mint delegate amount decimals owner =>
      exact decodes_approve amount decimals owner source mint delegate
    | MintToChecked mint account amount decimals mint_authority =>
      exact decodes_mint_to amount decimals mint_authority mint account
    | BurnChecked account mint amount decimals owner =>
      exact decodes_burn amount decimals owner account mint
    | InitializeAccount2 account mint rent_sysvar owner =>
      exact decodes_initialize_account2 account mint rent_sysvar owner []
    | SyncNative account => exact decodes_sync_native account []
  · cases instruction with
    | InitializeMint mint rent_sysvar decimals mint_authority freeze_authority =>
      exact decodes_initialize_mint mint rent_sysvar decimals mint_authority freeze_authority more
    | InitializeAccount2 account mint rent_sysvar owner =>
      exact decodes_initialize_account2 account mint rent_sysvar owner more
    | SyncNative account => exact decodes_sync_native account more
    | _ => exact hmore.elim

/-- **Token instructions are read as they are documented.** Every instruction that is not
deprecated, with any accounts and fields, signed by an owner or by the signers of a multisig
account, is read as what it says; nothing else is read of its data, and nothing less will do. The
tags that are deprecated or unknown are rejected. -/
theorem token_instructions_decode (header : MessageHeader) (program_id_index : UInt8)
    (addr : ℕ) :
    (∀ (instruction : TokenInstruction) (more rest : List UInt8),
      more = [] ∨ instruction.TakesMore → (instruction.accounts ++ more).length < 256 →
      parse_rpl_token_instructions ⟨program_id_index, instruction.accounts ++ more,
        ⟨addr, instruction.encode ++ rest⟩⟩ header =
          some (instruction.info header.pubkeys addr)) ∧
    (∀ (tag : UInt8) (accounts rest : List UInt8), tag ∈ [3, 4, 7, 8] ∨ 17 < tag →
      parse_rpl_token_instructions ⟨program_id_index, accounts, ⟨addr, tag :: rest⟩⟩ header =
        none) ∧
    ∀ (instruction : TokenInstruction) (accounts : List UInt8) (n : ℕ),
      n < instruction.encode.length →
      parse_rpl_token_instructions
        ⟨program_id_index, accounts, ⟨addr, instruction.encode.take n⟩⟩ header = none := by
  refine ⟨fun instruction more rest hmore hlen => ?_, fun tag accounts rest htag => ?_,
    fun instruction accounts n hn => ?_⟩
  · exact accounts_decode header instruction hmore hlen program_id_index addr rest
  · exact unknown_tag_fails header htag program_id_index accounts addr rest
  · exact truncated_fails header instruction program_id_index accounts addr hn

/-- The keys of an owner, two token accounts, a mint and the program. -/
def transfer_header : MessageHeader where
  versioned := false
  version := 0
  pubkeys_header := ⟨1, 0, 2, 5⟩
  pubkeys := ⟨4, [Pubkey.fill 4, Pubkey.fill 3, Pubkey.fill 8, Pubkey.fill 2, rpl_token_program_id]⟩
  blockhash := ⟨164, Hash.fill 1⟩
  instructions_length := 1
  pubkeys_count := rfl

/-- A transfer of 42 tokens. -/
theorem transfer_decodes :
    parse_rpl_token_instructions
        ⟨4, [1, 3, 2, 0], ⟨203, [12, 42, 0, 0, 0, 0, 0, 0, 0, 9]⟩⟩ transfer_header =
      some (.TransferChecked
        { src_account := ⟨36, Pubkey.fill 3⟩
          dest_account := ⟨68, Pubkey.fill 8⟩
          mint_account := ⟨100, Pubkey.fill 2⟩
          sign := .RplTokenSignKindSingle ⟨4, Pubkey.fill 4⟩
          body := { amount := 42, decimals := 9 } }) ∧
    parse_rpl_token_instructions
        ⟨4, [1, 3, 2, 0], ⟨203, [12, 42, 0, 0, 0, 0, 0, 0, 0]⟩⟩ transfer_header = none ∧
    parse_rpl_token_instructions
        ⟨4, [1, 2, 0], ⟨203, [3, 42, 0, 0, 0, 0, 0, 0, 0]⟩⟩ transfer_header = none := by
  obtain ⟨hdecodes, hunknown, htruncated⟩ := token_instructions_decode transfer_header 4 203
  refine ⟨?_, ?_, ?_⟩
  · exact hdecodes (.TransferChecked 1 3 2 42 9 (.single 0)) [] [] (Or.inl rfl) (by decide)
  · exact htruncated (.TransferChecked 1 3 2 42 9 (.single 0)) [1, 3, 2, 0] 9 (by decide)
  · exact hunknown 3 [1, 2, 0] [42, 0, 0, 0, 0, 0, 0, 0] (Or.inl (by decide))

end RenecLedger
