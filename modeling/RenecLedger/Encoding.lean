/-
The message format, and that the parser undoes it.

`Message` is what a message says, apart from any bytes; `Message.encode` is how it is
written: the version prefix, the counts in one byte each, every list behind its length
as a canonical compact-u16. Each parse function has a `Reads` rule against the part of
the format it reads, whichever code the lengths in it are written with, and
`message_decodes` puts them together: the parser reads an encoded message back as what it
says, wherever it lies and whatever follows it.
-/
import Mathlib.Data.List.Forall2
import RenecLedger.Parser

set_option autoImplicit false

open ReaderLib

namespace RenecLedger

/-! ## Messages -/

structure InstructionValue where
  program_id_index : UInt8
  accounts : List UInt8
  data : List UInt8
deriving DecidableEq

/-- What a message says. A legacy message has no version. -/
structure MessageValue where
  version : Option UInt8
  num_required_signatures : UInt8
  num_readonly_signed_accounts : UInt8
  num_readonly_unsigned_accounts : UInt8
  pubkeys : List Pubkey
  blockhash : Hash
  instructions : List InstructionValue
deriving DecidableEq

/-- A compact-u16 holds 16 bits. -/
def LENGTH_MAX : ℕ := 2 ^ 16

/-- A message that can be written down: its version fits in seven bits, a legacy
message does not begin with what looks like a version prefix, and its lists are short
enough for their length codes. -/
structure Message extends MessageValue where
  version_lt : ∀ v, version = some v → v < 128
  legacy_lt : version = none → num_required_signatures < 128
  pubkeys_lt : pubkeys.length < LENGTH_MAX
  instructions_lt : instructions.length < LENGTH_MAX
  accounts_lt : ∀ i ∈ instructions, i.accounts.length < LENGTH_MAX
  data_lt : ∀ i ∈ instructions, i.data.length < LENGTH_MAX

/-- A legacy message has no version to bound, and with one signature it is no version. -/
theorem legacy_version_lt : ∀ v : UInt8, none = some v → v < 128 := nofun

theorem legacy_signature_lt : (none : Option UInt8) = none → (1 : UInt8) < 128 := by
  decide

/-! ## The format -/

/-- A canonical compact-u16: seven bits a byte, low bits first, and the top bit of a
byte says that another one follows. -/
def encode_length (n : ℕ) : List UInt8 :=
  if n < 2 ^ 7 then [UInt8.ofNat n]
  else if n < 2 ^ 14 then [UInt8.ofNat (n % 128 + 128), UInt8.ofNat (n / 128)]
  else [UInt8.ofNat (n % 128 + 128), UInt8.ofNat (n / 128 % 128 + 128), UInt8.ofNat (n / 16384)]

/-- A list of bytes behind its length. -/
def encode_data (bytes : List UInt8) : List UInt8 := encode_length bytes.length ++ bytes

def InstructionValue.encode (instruction : InstructionValue) : List UInt8 :=
  instruction.program_id_index ::
    (encode_data instruction.accounts ++ encode_data instruction.data)

def encode_version : Option UInt8 → List UInt8
  | some version => [version ||| 0x80]
  | none => []

/-- The three counts and the number of keys. -/
def MessageValue.encode_pubkeys_header (m : MessageValue) : List UInt8 :=
  m.num_required_signatures :: m.num_readonly_signed_accounts ::
    m.num_readonly_unsigned_accounts :: encode_length m.pubkeys.length

def MessageValue.encode_header (m : MessageValue) : List UInt8 :=
  encode_version m.version ++ ((m.encode_pubkeys_header ++ m.pubkeys.flatMap Pubkey.data) ++
    (m.blockhash.data ++ encode_length m.instructions.length))

def MessageValue.encode (m : MessageValue) : List UInt8 :=
  m.encode_header ++ m.instructions.flatMap InstructionValue.encode

/-! ## Reading lengths -/

theorem reads_u8 (b : UInt8) : Reads parse_u8 [b] (· = b) := by
  intro addr rest
  exact ⟨b, rfl, rfl⟩

theorem consumes_u8 : Consumes parse_u8 fun b bs => bs = [b] := by
  rintro ⟨addr, _ | ⟨b, rest⟩⟩ a d h
  · cases h
  · cases h
    exact ⟨[b], rfl, rfl⟩

/-- Reading one byte and going on. -/
theorem reads_u8_bind {α : Type} {f : UInt8 → ParserM α} {b : UInt8} {bs : List UInt8}
    {P : α → Prop} (h : Reads (f b) bs P) : Reads (parse_u8 >>= f) (b :: bs) P := by
  refine Reads.bind (reads_u8 b) (fun a ha => ?_)
  rw [ha]
  exact h

/-- The low seven bits of a byte. -/
theorem low_bits (b : UInt8) : (b &&& 0x7f).toNat = b.toNat % 128 := by
  rw [UInt8.toNat_and]
  exact Nat.and_two_pow_sub_one_eq_mod b.toNat 7

/-- The top bit of a byte says whether it is 128 or more. -/
theorem top_bit (b : UInt8) : b &&& 0x80 ≠ 0 ↔ 128 ≤ b.toNat := by
  have hall : ∀ k < 256, UInt8.ofNat k &&& 0x80 ≠ 0 ↔ 128 ≤ k := by decide +kernel
  have h := hall b.toNat b.toNat_lt
  rwa [UInt8.ofNat_toNat] at h

/-- Bits put side by side add up. -/
theorem shiftLeft_or (a b i : ℕ) (h : b < 2 ^ i) : a <<< i ||| b = a * 2 ^ i + b := by
  rw [← Nat.shiftLeft_add_eq_or_of_lt h, Nat.shiftLeft_eq]

/-- The codes of a length: one to three bytes of seven bits each, low bits first. A code may
be longer than it has to be, and the top bit of a third byte says nothing. -/
inductive IsLengthCode : ℕ → List UInt8 → Prop
  | one (b₀ : UInt8) (h₀ : b₀.toNat < 128) : IsLengthCode b₀.toNat [b₀]
  | two (b₀ b₁ : UInt8) (h₀ : 128 ≤ b₀.toNat) (h₁ : b₁.toNat < 128) :
    IsLengthCode (b₀.toNat % 128 + b₁.toNat * 128) [b₀, b₁]
  | three (b₀ b₁ b₂ : UInt8) (h₀ : 128 ≤ b₀.toNat) (h₁ : 128 ≤ b₁.toNat) :
    IsLengthCode (b₀.toNat % 128 + b₁.toNat % 128 * 128 + b₂.toNat % 128 * 16384) [b₀, b₁, b₂]

theorem reads_length {n : ℕ} {code : List UInt8} (h : IsLengthCode n code) :
    Reads parse_length code (· = n) := by
  cases h with
  | one b₀ h₀ =>
    refine reads_u8_bind ?_
    rw [if_neg ((top_bit b₀).not.mpr (Nat.not_le.mpr h₀)), low_bits]
    exact Reads.pure (Nat.mod_eq_of_lt h₀)
  | two b₀ b₁ h₀ h₁ =>
    refine reads_u8_bind ?_
    rw [if_pos ((top_bit b₀).mpr h₀), low_bits]
    refine reads_u8_bind ?_
    rw [if_neg ((top_bit b₁).not.mpr (Nat.not_le.mpr h₁)), low_bits,
      shiftLeft_or _ _ 7 (by omega)]
    exact Reads.pure (by omega)
  | three b₀ b₁ b₂ h₀ h₁ =>
    refine reads_u8_bind ?_
    rw [if_pos ((top_bit b₀).mpr h₀), low_bits]
    refine reads_u8_bind ?_
    rw [if_pos ((top_bit b₁).mpr h₁), low_bits, shiftLeft_or _ _ 7 (by omega)]
    refine reads_u8_bind ?_
    rw [low_bits, shiftLeft_or _ _ 14 (by omega)]
    exact Reads.pure (by omega)

/-- The canonical code is one of them. -/
theorem encode_length_code (n : ℕ) (h : n < LENGTH_MAX) : IsLengthCode n (encode_length n) := by
  have hn : n < 65536 := h
  have hbyte : ∀ k < 256, (UInt8.ofNat k).toNat = k := fun k hk => by
    rw [UInt8.toNat_ofNat', Nat.mod_eq_of_lt hk]
  unfold encode_length
  split
  · have hcode := IsLengthCode.one (UInt8.ofNat n)
    rw [hbyte n (by omega)] at hcode
    exact hcode (by omega)
  · split
    · have hcode := IsLengthCode.two (UInt8.ofNat (n % 128 + 128)) (UInt8.ofNat (n / 128))
      have hsum : (n % 128 + 128) % 128 + n / 128 * 128 = n := by omega
      rw [hbyte _ (by omega), hbyte _ (by omega), hsum] at hcode
      exact hcode (by omega) (by omega)
    · have hcode := IsLengthCode.three (UInt8.ofNat (n % 128 + 128))
        (UInt8.ofNat (n / 128 % 128 + 128)) (UInt8.ofNat (n / 16384))
      have hsum : (n % 128 + 128) % 128 + (n / 128 % 128 + 128) % 128 * 128 +
          n / 16384 % 128 * 16384 = n := by omega
      rw [hbyte _ (by omega), hbyte _ (by omega), hbyte _ (by omega), hsum] at hcode
      exact hcode (by omega) (by omega)

/-- A length was read from one of its codes. -/
theorem consumes_length : Consumes parse_length IsLengthCode := by
  unfold parse_length
  refine Consumes.bind consumes_u8 fun b₀ bs h₀ => ?_
  subst h₀
  by_cases htop₀ : b₀ &&& 0x80 ≠ 0
  · rw [if_pos htop₀]
    have hge₀ := (top_bit b₀).mp htop₀
    refine Consumes.bind consumes_u8 fun b₁ bs h₁ => ?_
    subst h₁
    by_cases htop₁ : b₁ &&& 0x80 ≠ 0
    · rw [if_pos htop₁]
      have hge₁ := (top_bit b₁).mp htop₁
      refine Consumes.bind consumes_u8 fun b₂ bs h₂ => Consumes.pure ?_
      subst h₂
      -- The third byte is the last one whatever its top bit says.
      have hcode := IsLengthCode.three b₀ b₁ b₂ hge₀ hge₁
      rw [low_bits, low_bits, low_bits, shiftLeft_or _ _ 7 (by omega),
        shiftLeft_or _ _ 14 (by omega)]
      rwa [Nat.add_comm, Nat.add_comm (b₀.toNat % 128)] at hcode
    · rw [if_neg htop₁]
      have hlt₁ := Nat.not_le.mp ((top_bit b₁).not.mp htop₁)
      have hcode := IsLengthCode.two b₀ b₁ hge₀ hlt₁
      rw [low_bits, low_bits, shiftLeft_or _ _ 7 (by omega), Nat.mod_eq_of_lt hlt₁, Nat.add_comm]
      exact Consumes.pure hcode
  · rw [if_neg htop₀]
    have hlt₀ := Nat.not_le.mp ((top_bit b₀).not.mp htop₀)
    rw [low_bits, Nat.mod_eq_of_lt hlt₀]
    exact Consumes.pure (IsLengthCode.one b₀ hlt₀)

/-! ## Reading blocks of bytes -/

/-- A check that does not fail is passed over. -/
theorem check_bind {α : Type} {n : ℕ} {c : Parser} (h : n ≤ c.buffer.length)
    (f : Unit → ParserM α) : (check_buffer_length n >>= f) c = f () c := by
  rw [bind_run, check_buffer_length, if_neg (Nat.not_lt.mpr h), Option.bind_some]

theorem check_bind_eq_some {α : Type} {n : ℕ} {c d : Parser} {f : Unit → ParserM α} {a : α} :
    (check_buffer_length n >>= f) c = some (a, d) ↔
      n ≤ c.buffer.length ∧ f () c = some (a, d) := by
  by_cases h : n ≤ c.buffer.length
  · rw [check_bind h, and_iff_right h]
  · rw [bind_run, check_buffer_length, if_pos (Nat.lt_of_not_le h), Option.bind_none]
    exact iff_of_false (Option.some_ne_none _).symm fun hc => h hc.1

theorem forward_parse_u8 : Forward parse_u8 := by
  intro c b d h
  unfold parse_u8 at h
  rw [check_bind_eq_some] at h
  obtain ⟨hlen, h⟩ := h
  cases h
  exact ⟨1, hlen, rfl⟩

theorem forward_parse_length : Forward parse_length := by
  unfold parse_length
  refine forward_bind forward_parse_u8 fun b₀ => forward_ite ?_ (forward_pure _)
  refine forward_bind forward_parse_u8 fun b₁ => forward_ite ?_ (forward_pure _)
  exact forward_bind forward_parse_u8 fun b₂ => forward_pure _

/-- `n` bytes taken as one piece: what is made of them may look at all that is left in
the buffer. -/
theorem reads_block {α : Type} {n : ℕ} {bs : List UInt8} (hn : bs.length = n) {f : Parser → α}
    {P : α → Prop} (h : ∀ addr rest, P (f ⟨addr, bs ++ rest⟩)) :
    Reads (do
      check_buffer_length n
      let parser ← get
      advance n
      return f parser) bs P := by
  intro addr rest
  refine ⟨f ⟨addr, bs ++ rest⟩, ?_, h addr rest⟩
  have hroom : n ≤ (bs ++ rest).length := by
    rw [List.length_append]
    omega
  have hadvance : advance n ⟨addr, bs ++ rest⟩ = some ((), ⟨addr + bs.length, rest⟩) := by
    rw [advance, Cursor.advance, ← hn, List.drop_left]
  rw [check_bind hroom, bind_run]
  change ((advance n >>= fun _ => pure (f ⟨addr, bs ++ rest⟩)) : ParserM α) _ = _
  rw [bind_run, hadvance]
  rfl

/-- `n` bytes taken as one piece. -/
theorem consumes_block {α : Type} (n : ℕ) (f : Parser → α) :
    Consumes (do
      check_buffer_length n
      let parser ← get
      advance n
      return f parser) fun a bs =>
        bs.length = n ∧ ∃ addr rest, a = f ⟨addr, bs ++ rest⟩ := by
  intro c a d h
  rw [check_bind_eq_some] at h
  obtain ⟨hlen, h⟩ := h
  cases h
  refine ⟨c.buffer.take n, ⟨List.length_take_of_le hlen, c.addr, c.buffer.drop n, ?_⟩,
    (List.take_append_drop n c.buffer).symm⟩
  rw [List.take_append_drop]

theorem reads_data {bytes code : List UInt8} (h : IsLengthCode bytes.length code) :
    Reads parse_data (code ++ bytes) (fun parser => parser.buffer = bytes) := by
  refine Reads.bind (reads_length h) (fun data_length hlen => ?_)
  rw [hlen]
  exact reads_block rfl fun addr rest => List.take_left

/-- What an instruction of the parser says. -/
def Instruction.value (instruction : Instruction) : InstructionValue :=
  { program_id_index := instruction.program_id_index
    accounts := instruction.accounts
    data := instruction.data.buffer }

theorem reads_instruction (instruction : InstructionValue) {accounts_code data_code : List UInt8}
    (ha : IsLengthCode instruction.accounts.length accounts_code)
    (hd : IsLengthCode instruction.data.length data_code) :
    Reads parse_instruction (instruction.program_id_index ::
      ((accounts_code ++ instruction.accounts) ++ (data_code ++ instruction.data)))
      (fun i => i.value = instruction) := by
  refine reads_u8_bind ?_
  refine Reads.bind (reads_data ha) (fun accounts hacc => ?_)
  refine Reads.bind_nil (reads_data hd) (fun data hdata => ?_)
  exact Reads.pure (by simp only [Instruction.value, hacc, hdata])

theorem read_table_append (keys : List Pubkey) (rest : List UInt8) :
    Pubkey.read_table keys.length (keys.flatMap Pubkey.data ++ rest) = keys := by
  induction keys with
  | nil => rfl
  | cons key keys ih =>
    rw [List.length_cons, Pubkey.read_table, List.flatMap_cons, List.append_assoc,
      Pubkey.read_append, ← key.size, List.drop_left, ih]

theorem flatMap_data_length (keys : List Pubkey) :
    (keys.flatMap Pubkey.data).length = keys.length * PUBKEY_SIZE := by
  induction keys with
  | nil => rfl
  | cons key keys ih =>
    rw [List.flatMap_cons, List.length_append, ih, key.size, List.length_cons, Nat.succ_mul,
      Nat.add_comm]

theorem reads_hash (hash : Hash) : Reads parse_hash hash.data (fun h => h.hash = hash) :=
  reads_block hash.size fun _ rest => Hash.read_append hash rest

/-! ## Reading the header -/

/-- The header fields that a message value determines. -/
def MessageValue.pubkeys_header (m : MessageValue) : PubkeysHeader :=
  { num_required_signatures := m.num_required_signatures
    num_readonly_signed_accounts := m.num_readonly_signed_accounts
    num_readonly_unsigned_accounts := m.num_readonly_unsigned_accounts
    pubkeys_length := m.pubkeys.length }

theorem reads_pubkeys_header (m : MessageValue) {code : List UInt8}
    (h : IsLengthCode m.pubkeys.length code) :
    Reads parse_pubkeys_header (m.num_required_signatures :: m.num_readonly_signed_accounts ::
      m.num_readonly_unsigned_accounts :: code) (· = m.pubkeys_header) := by
  refine reads_u8_bind (reads_u8_bind (reads_u8_bind ?_))
  refine Reads.bind_nil (reads_length h) (fun pubkeys_length hlen => ?_)
  rw [hlen]
  exact Reads.pure rfl

theorem reads_pubkeys (m : MessageValue) {code : List UInt8}
    (h : IsLengthCode m.pubkeys.length code) :
    Reads parse_pubkeys ((m.num_required_signatures :: m.num_readonly_signed_accounts ::
        m.num_readonly_unsigned_accounts :: code) ++ m.pubkeys.flatMap Pubkey.data) (fun table =>
      table.pubkeys_header = m.pubkeys_header ∧ table.pubkeys.keys = m.pubkeys) := by
  refine Reads.bind (reads_pubkeys_header m h) (fun header hheader => ?_)
  subst hheader
  exact reads_block (flatMap_data_length m.pubkeys) fun addr rest =>
    ⟨rfl, read_table_append m.pubkeys rest⟩

theorem parse_version_run (addr : ℕ) (b : UInt8) (bs : List UInt8) :
    parse_version ⟨addr, b :: bs⟩ =
      if b &&& 0x80 ≠ 0 then some ((true, b &&& 0x7f), ⟨addr + 1, bs⟩)
      else some ((false, 0), ⟨addr, b :: bs⟩) := by
  change (if b &&& 0x80 ≠ 0 then (do advance 1; return (true, b &&& 0x7f))
    else return (false, 0) : ParserM (Bool × UInt8)) ⟨addr, b :: bs⟩ = _
  split <;> rfl

/-- The prefix of a versioned message is a byte of its own. -/
theorem reads_version_versioned (version : UInt8) (h : version < 128) :
    Reads parse_version [version ||| 0x80] (· = (true, version)) := by
  have hall : ∀ k < 128, (UInt8.ofNat k ||| 0x80) &&& 0x80 ≠ 0 ∧
      (UInt8.ofNat k ||| 0x80) &&& 0x7f = UInt8.ofNat k := by decide +kernel
  obtain ⟨htop, hlow⟩ := hall version.toNat (UInt8.lt_iff_toNat_lt.mp h)
  rw [UInt8.ofNat_toNat] at htop hlow
  intro addr rest
  refine ⟨(true, version), ?_, rfl⟩
  rw [List.singleton_append, parse_version_run, if_pos htop, hlow]
  rfl

/-- A legacy message has no prefix: its first byte is looked at and left. -/
theorem reads_version_legacy {α : Type} {f : Bool × UInt8 → ParserM α} {b : UInt8}
    {bs : List UInt8} {P : α → Prop} (hb : b < 128) (h : Reads (f (false, 0)) (b :: bs) P) :
    Reads (parse_version >>= f) (b :: bs) P := by
  have hall : ∀ k < 128, ¬UInt8.ofNat k &&& 0x80 ≠ 0 := by decide +kernel
  have htop := hall b.toNat (UInt8.lt_iff_toNat_lt.mp hb)
  rw [UInt8.ofNat_toNat] at htop
  intro addr rest
  rw [List.cons_append, bind_run, parse_version_run, if_neg htop]
  exact h addr rest

/-- What follows the version prefix. -/
theorem reads_header_rest (m : MessageValue) {pubkeys_code instructions_code : List UInt8}
    (hp : IsLengthCode m.pubkeys.length pubkeys_code)
    (hi : IsLengthCode m.instructions.length instructions_code) (versioned : Bool)
    (version : UInt8) :
    Reads (do
      let table ← parse_pubkeys
      let blockhash ← parse_blockhash
      let instructions_length ← parse_length
      return { versioned, version, pubkeys_header := table.pubkeys_header,
               pubkeys := table.pubkeys, blockhash, instructions_length,
               pubkeys_count := table.pubkeys_count })
      (((m.num_required_signatures :: m.num_readonly_signed_accounts ::
          m.num_readonly_unsigned_accounts :: pubkeys_code) ++ m.pubkeys.flatMap Pubkey.data) ++
        (m.blockhash.data ++ instructions_code))
      (fun header : MessageHeader => header.versioned = versioned ∧ header.version = version ∧
        header.pubkeys_header = m.pubkeys_header ∧ header.pubkeys.keys = m.pubkeys ∧
        header.blockhash.hash = m.blockhash ∧
        header.instructions_length = m.instructions.length) := by
  refine Reads.bind (reads_pubkeys m hp) (fun table htable => ?_)
  refine Reads.bind (reads_hash m.blockhash) (fun blockhash hhash => ?_)
  refine Reads.bind_nil (reads_length hi) (fun instructions_length hlen => ?_)
  exact Reads.pure ⟨rfl, rfl, htable.1, htable.2, hhash, hlen⟩

/-- What a parsed header says of a message. -/
structure MessageHeader.Means (header : MessageHeader) (m : MessageValue) : Prop where
  version : (if header.versioned then some header.version else none) = m.version
  pubkeys_header : header.pubkeys_header = m.pubkeys_header
  pubkeys : header.pubkeys.keys = m.pubkeys
  blockhash : header.blockhash.hash = m.blockhash
  instructions_length : header.instructions_length = m.instructions.length

theorem reads_message_header (m : MessageValue) {pubkeys_code instructions_code : List UInt8}
    (hversion : ∀ v, m.version = some v → v < 128)
    (hlegacy : m.version = none → m.num_required_signatures < 128)
    (hp : IsLengthCode m.pubkeys.length pubkeys_code)
    (hi : IsLengthCode m.instructions.length instructions_code) :
    Reads parse_message_header (encode_version m.version ++
      (((m.num_required_signatures :: m.num_readonly_signed_accounts ::
          m.num_readonly_unsigned_accounts :: pubkeys_code) ++ m.pubkeys.flatMap Pubkey.data) ++
        (m.blockhash.data ++ instructions_code)))
      (fun header => header.Means m) := by
  unfold parse_message_header
  cases hv : m.version with
  | some version =>
    refine Reads.bind (reads_version_versioned version (hversion version hv)) (fun v hv' => ?_)
    subst hv'
    refine (reads_header_rest m hp hi true version).mono fun header h => ?_
    obtain ⟨h₁, h₂, h₃, h₄, h₅, h₆⟩ := h
    exact ⟨by rw [h₁, h₂, hv]; rfl, h₃, h₄, h₅, h₆⟩
  | none =>
    refine reads_version_legacy (hlegacy hv) ?_
    refine (reads_header_rest m hp hi false 0).mono fun header h => ?_
    obtain ⟨h₁, -, h₃, h₄, h₅, h₆⟩ := h
    exact ⟨by rw [h₁, hv]; rfl, h₃, h₄, h₅, h₆⟩

/-! ## Decoding a message -/

/-- What a header and the instructions after it say. -/
def MessageHeader.value (header : MessageHeader) (instructions : List Instruction) :
    MessageValue :=
  { version := if header.versioned then some header.version else none
    num_required_signatures := header.pubkeys_header.num_required_signatures
    num_readonly_signed_accounts := header.pubkeys_header.num_readonly_signed_accounts
    num_readonly_unsigned_accounts := header.pubkeys_header.num_readonly_unsigned_accounts
    pubkeys := header.pubkeys.keys
    blockhash := header.blockhash.hash
    instructions := instructions.map Instruction.value }

theorem MessageHeader.Means.value {header : MessageHeader} {m : MessageValue} (h : header.Means m)
    {instructions : List Instruction} (hi : instructions.map Instruction.value = m.instructions) :
    header.value instructions = m := by
  obtain ⟨hv, hp, hk, hb, -⟩ := h
  simp only [MessageHeader.value, hv, hp, hk, hb, hi, MessageValue.pubkeys_header]

/-- **Decoding undoes encoding.** Wherever an encoded message lies and whatever follows
it, its header parses, and so do as many instructions as the header says; together they
say what the message says, and the parser is left at what follows. -/
theorem message_decodes (m : Message) (addr : ℕ) (rest : List UInt8) :
    ∃ header body instructions,
      parse_message_header ⟨addr, m.encode ++ rest⟩ = some (header, body) ∧
      times parse_instruction header.instructions_length body =
        some (instructions, ⟨addr + m.encode.length, rest⟩) ∧
      header.value instructions = m.toMessageValue := by
  have hinstructions : Reads (times parse_instruction m.instructions.length)
      (m.instructions.flatMap InstructionValue.encode)
      (List.Forall₂ (fun value i => i.value = value) m.instructions) :=
    Reads.times m.instructions fun i hi =>
      reads_instruction i (encode_length_code _ (m.accounts_lt i hi))
        (encode_length_code _ (m.data_lt i hi))
  obtain ⟨header, hparse, hmeans⟩ := reads_message_header m.toMessageValue m.version_lt m.legacy_lt
    (encode_length_code _ m.pubkeys_lt) (encode_length_code _ m.instructions_lt) addr
    (m.instructions.flatMap InstructionValue.encode ++ rest)
  obtain ⟨instructions, htimes, hall⟩ :=
    hinstructions (addr + m.encode_header.length) rest
  refine ⟨header, ⟨addr + m.encode_header.length,
    m.instructions.flatMap InstructionValue.encode ++ rest⟩, instructions, ?_, ?_, hmeans.value ?_⟩
  · rw [MessageValue.encode, List.append_assoc]
    exact hparse
  · rw [hmeans.instructions_length, htimes, MessageValue.encode, List.length_append, Nat.add_assoc]
  · have heq : List.Forall₂ (· = ·) (instructions.map Instruction.value) m.instructions :=
      List.forall₂_map_left_iff.mpr hall.flip
    rwa [List.forall₂_eq_eq_eq] at heq

end RenecLedger
