/-
The version of a message.

`parse_version` keeps the version in the header and nothing reads it: whether a body is accepted
depends on `versioned` alone. So a message of any version is presented exactly when its bytes after
the prefix have the layout of version 0.
-/
import RenecLedger.SharedAccounts

set_option autoImplicit false

open ReaderLib

namespace RenecLedger

/-- A message that is presented is legacy or has version 0. -/
def PresentsKnownVersion (message : List UInt8) (expert_mode : Bool) (signer_pubkey : PubkeyRef) :
    Prop :=
  ∀ header message_body summary,
    parse_message_header ⟨0, message⟩ = some (header, message_body) →
    accepts message_body { header, expert_mode, signer_pubkey } summary →
    header.versioned = false ∨ header.version = 0

/-- One to four instructions, each a memo or accepted by its program, that make a transaction
which is displayed, and behind them what the header calls for. -/
def RecognisedBody (header : MessageHeader) (message_body : Parser) : Prop :=
  1 ≤ header.instructions_length ∧ header.instructions_length ≤ 4 ∧
    ∃ instructions, BodyReads header message_body instructions ∧
      (∀ i ∈ instructions,
        i.program_id_index.toNat < header.pubkeys_header.pubkeys_length ∧
        ∀ account ∈ i.accounts, account.toNat < header.pubkeys_header.pubkeys_length) ∧
      (∀ i ∈ instructions, is_rpl_memo i header = true ∨ accepted_by_program i header = true) ∧
      Displayable (strip_nonce
        ((instructions.filter fun i => !is_rpl_memo i header).map
          (parse_instruction_info · header)))

/-- Behind the prefix of version 0, these bytes are a header and a body of recognised
instructions with an empty list of address tables. -/
def HasVersion0Layout (bytes : List UInt8) : Prop :=
  ∃ header message_body,
    parse_message_header ⟨0, 0x80 :: bytes⟩ = some (header, message_body) ∧
      RecognisedBody header message_body

/-! ## The version is not looked at -/

/-- A versioned prefix decides nothing but the version in the header. -/
theorem parse_message_header_versioned {b : UInt8} (hb : b &&& 0x80 ≠ 0) (addr : ℕ)
    (bytes : List UInt8) :
    parse_message_header ⟨addr, b :: bytes⟩ =
      (parse_message_header ⟨addr, 0x80 :: bytes⟩).map fun parsed =>
        ({ parsed.1 with version := b &&& 0x7f }, parsed.2) := by
  have hzero : (0x80 : UInt8) &&& 0x80 ≠ 0 := by decide
  rw [parse_message_header, bind_run, bind_run, parse_version_run, parse_version_run, if_pos hb,
    if_pos hzero]
  simp only [Option.bind_some, bind_run, Option.map_bind, Function.comp_def, pure_run,
    Option.map_some]

/-- No predicate of the body reads the version of its header. -/
theorem recognised_body_version (header : MessageHeader) (version : UInt8)
    (message_body : Parser) :
    RecognisedBody { header with version } message_body ↔ RecognisedBody header message_body :=
  Iff.rfl

theorem accepts_iff_recognised_body (message_body : Parser) (print_config : PrintConfig) :
    (∃ summary, accepts message_body print_config summary) ↔
      RecognisedBody print_config.header message_body :=
  process_message_body_accepts_iff message_body print_config

/-! ## Which versions are presented -/

/-- What the first byte makes of the header. -/
theorem parsed_version {addr : ℕ} {b : UInt8} {bytes : List UInt8} {header : MessageHeader}
    {message_body : Parser}
    (h : parse_message_header ⟨addr, b :: bytes⟩ = some (header, message_body)) :
    (header.versioned, header.version) =
      if b &&& 0x80 ≠ 0 then (true, b &&& 0x7f) else (false, 0) := by
  obtain ⟨⟨versioned, version⟩, parser, hversion, h⟩ := bind_eq_some.mp h
  obtain ⟨table, parser₁, -, h⟩ := bind_eq_some.mp h
  obtain ⟨blockhash, parser₂, -, h⟩ := bind_eq_some.mp h
  obtain ⟨instructions_length, parser₃, -, h⟩ := bind_eq_some.mp h
  cases h
  rw [parse_version_run] at hversion
  split at hversion
  · rename_i htop
    cases hversion
    rw [if_pos htop]
  · rename_i htop
    cases hversion
    rw [if_neg htop]

/-- The first byte of a message with a version above 0. -/
theorem prefix_above {b : UInt8} (h : 0x80 < b) : b &&& 0x80 ≠ 0 ∧ b &&& 0x7f ≠ 0 := by
  have habove : 128 < b.toNat := UInt8.lt_iff_toNat_lt.mp h
  have hlt := b.toNat_lt
  refine ⟨(top_bit b).mpr (Nat.le_of_lt habove), fun hzero => ?_⟩
  have hlow := low_bits b
  rw [hzero] at hlow
  change 0 = _ at hlow
  omega

/-- A message with no such byte in front is legacy or has version 0. -/
theorem presents_known_version_below {message : List UInt8} (h : message.headD 0 ≤ 0x80)
    (expert_mode : Bool) (signer_pubkey : PubkeyRef) :
    PresentsKnownVersion message expert_mode signer_pubkey := by
  intro header message_body summary hparse _
  cases message with
  | nil => cases hparse
  | cons b bytes =>
    have hversion := parsed_version hparse
    split at hversion
    · rename_i htop
      have hb : b = 0x80 := UInt8.toNat_inj.mp
        (Nat.le_antisymm (UInt8.le_iff_toNat_le.mp h) ((top_bit b).mp htop))
      right
      rw [(Prod.mk.inj hversion).2, hb]
      rfl
    · exact Or.inl (Prod.mk.inj hversion).1

/-- Above version 0, a message is presented exactly when it has the layout of version 0. -/
theorem presents_known_version_above {b : UInt8} (h : 0x80 < b) (bytes : List UInt8)
    (expert_mode : Bool) (signer_pubkey : PubkeyRef) :
    PresentsKnownVersion (b :: bytes) expert_mode signer_pubkey ↔ ¬HasVersion0Layout bytes := by
  obtain ⟨htop, hlow⟩ := prefix_above h
  have hheader := parse_message_header_versioned htop 0 bytes
  constructor
  · rintro hknown ⟨header, message_body, hparse, hbody⟩
    rw [hparse, Option.map_some] at hheader
    obtain ⟨summary, ha⟩ := (accepts_iff_recognised_body message_body
      ⟨{ header with version := b &&& 0x7f }, expert_mode, signer_pubkey⟩).mpr
      ((recognised_body_version header _ message_body).mpr hbody)
    have hversion := parsed_version hheader
    rw [if_pos htop, Prod.mk.injEq] at hversion
    rcases hknown _ _ summary hheader ha with hlegacy | hzero
    · exact absurd (hversion.1.symm.trans hlegacy) Bool.true_eq_false.mp
    · exact hlow hzero
  · intro hno header message_body summary hparse ha
    rw [hparse, eq_comm, Option.map_eq_some_iff] at hheader
    obtain ⟨⟨header₀, message_body₀⟩, hparse₀, hsame⟩ := hheader
    obtain ⟨rfl, rfl⟩ := Prod.mk.inj hsame
    have hbody := (accepts_iff_recognised_body _ _).mp ⟨summary, ha⟩
    exact absurd ⟨header₀, _, hparse₀, (recognised_body_version header₀ _ _).mp hbody⟩ hno

/-- **A message is presented as a version that is not known exactly when** its version is above
0 and the bytes after the prefix have the layout of version 0. -/
theorem presents_known_version_iff (message : List UInt8) (expert_mode : Bool)
    (signer_pubkey : PubkeyRef) :
    PresentsKnownVersion message expert_mode signer_pubkey ↔
      message.headD 0 ≤ 0x80 ∨ ¬HasVersion0Layout message.tail := by
  by_cases h : message.headD 0 ≤ 0x80
  · exact iff_of_true (presents_known_version_below h expert_mode signer_pubkey) (Or.inl h)
  · cases message with
    | nil => exact absurd (UInt8.zero_le) h
    | cons b bytes =>
      rw [or_iff_right h]
      exact presents_known_version_above (UInt8.not_le.mp h) bytes expert_mode signer_pubkey

/-- A transfer in a message of version 1. -/
def version1_message : Message where
  version := some 1
  num_required_signatures := 1
  num_readonly_signed_accounts := 0
  num_readonly_unsigned_accounts := 1
  pubkeys := [Pubkey.fill 1, Pubkey.fill 2, system_program_id]
  blockhash := Hash.fill 9
  instructions := [⟨2, [0, 1], [2, 0, 0, 0, 42, 0, 0, 0, 0, 0, 0, 0]⟩]
  version_lt := fun v hv => by
    cases hv
    decide
  legacy_lt := nofun
  pubkeys_lt := by decide
  instructions_lt := by decide
  accounts_lt := by decide
  data_lt := by decide

/-- With an empty list of address tables behind it, it is presented as one of version 0. -/
theorem version1_presented :
    ¬PresentsKnownVersion (version1_message.encode ++ [0]) false ⟨5, Pubkey.fill 1⟩ := by
  intro hknown
  obtain ⟨header, message_body, infos, summary, hparse, -, ha, hversion⟩ := review_any
    (P := fun header _ _ _ => header.versioned = true ∧ header.version = 1)
    (by decide +kernel :
      (review (version1_message.encode ++ [0]) false ⟨5, Pubkey.fill 1⟩).any _ = true)
  rcases hknown header message_body summary hparse ha with h | h
  · rw [hversion.1] at h
    cases h
  · rw [hversion.2] at h
    cases h

end RenecLedger
