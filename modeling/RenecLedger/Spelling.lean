/-
How many ways there are to write one message.

The parser takes a length in any of its codes, so that a message has as many encodings as
there are ways to choose them. `MessageCodes` is such a choice and `MessageValue.spell` the
message written with it; `decodes_iff` says that the byte strings which are read to their end
as a given message are exactly these.
-/
import RenecLedger.Encoding
import RenecLedger.MessageSpec

set_option autoImplicit false

open ReaderLib

namespace RenecLedger

/-! ## Messages with chosen codes -/

/-- The codes of the two lengths in an instruction. -/
structure InstructionCodes where
  accounts : List UInt8
  data : List UInt8
deriving DecidableEq

structure InstructionCodes.For (codes : InstructionCodes) (instruction : InstructionValue) :
    Prop where
  accounts : IsLengthCode instruction.accounts.length codes.accounts
  data : IsLengthCode instruction.data.length codes.data

def InstructionValue.spell (instruction : InstructionValue) (codes : InstructionCodes) :
    List UInt8 :=
  instruction.program_id_index ::
    ((codes.accounts ++ instruction.accounts) ++ (codes.data ++ instruction.data))

/-- The codes of all lengths in a message. -/
structure MessageCodes where
  pubkeys : List UInt8
  instructions_length : List UInt8
  instructions : List InstructionCodes
  account_tables : List UInt8
deriving DecidableEq

/-- The count of address tables, which only a versioned message has. -/
def TablesCode : Option UInt8 → List UInt8 → Prop
  | some _, code => IsLengthCode 0 code
  | none, code => code = []

/-- The codes are those of the message's lengths, and the message has an encoding at all. -/
structure MessageCodes.For (codes : MessageCodes) (m : MessageValue) : Prop where
  version_lt : ∀ v, m.version = some v → v < 128
  legacy_lt : m.version = none → m.num_required_signatures < 128
  pubkeys : IsLengthCode m.pubkeys.length codes.pubkeys
  instructions_length : IsLengthCode m.instructions.length codes.instructions_length
  instructions : List.Forall₂ (fun i c => InstructionCodes.For c i) m.instructions
    codes.instructions
  account_tables : TablesCode m.version codes.account_tables

/-- What follows the version prefix in a header. -/
def MessageValue.spell_header_rest (m : MessageValue)
    (pubkeys_code instructions_code : List UInt8) : List UInt8 :=
  ((m.num_required_signatures :: m.num_readonly_signed_accounts ::
      m.num_readonly_unsigned_accounts :: pubkeys_code) ++ m.pubkeys.flatMap Pubkey.data) ++
    (m.blockhash.data ++ instructions_code)

def MessageValue.spell_header (m : MessageValue) (codes : MessageCodes) : List UInt8 :=
  encode_version m.version ++ m.spell_header_rest codes.pubkeys codes.instructions_length

def spell_instructions (instructions : List InstructionValue) (codes : List InstructionCodes) :
    List UInt8 :=
  (instructions.zip codes).flatMap fun x => x.1.spell x.2

/-- The message with these codes, up to the end of what is parsed. -/
def MessageValue.spell (m : MessageValue) (codes : MessageCodes) : List UInt8 :=
  m.spell_header codes ++ spell_instructions m.instructions codes.instructions ++
    codes.account_tables

/-- The canonical codes. -/
def InstructionValue.canonical_codes (instruction : InstructionValue) : InstructionCodes where
  accounts := encode_length instruction.accounts.length
  data := encode_length instruction.data.length

def MessageValue.canonical_codes (m : MessageValue) : MessageCodes where
  pubkeys := encode_length m.pubkeys.length
  instructions_length := encode_length m.instructions.length
  instructions := m.instructions.map InstructionValue.canonical_codes
  account_tables := if m.version.isSome then encode_length 0 else []

/-- The bytes are read to their end: a header, as many instructions as it says, and what
follows them. Together they say what the message says. -/
def Decodes (bytes : List UInt8) (m : MessageValue) : Prop :=
  ∃ header body instructions, parse_message_header ⟨0, bytes⟩ = some (header, body) ∧
    BodyReads header body instructions ∧ header.value instructions = m

/-! ## What a parser has consumed -/

theorem consumes_data : Consumes parse_data fun parser bs =>
    ∃ code, IsLengthCode parser.buffer.length code ∧ bs = code ++ parser.buffer := by
  unfold parse_data
  refine Consumes.bind consumes_length fun n code hcode => ?_
  intro c parser d h
  obtain ⟨bs, ⟨hlen, addr, rest, hparser⟩, hbuffer⟩ :=
    consumes_block n (fun parser : Parser => (⟨parser.addr, parser.buffer.take n⟩ : Parser))
      c parser d h
  subst hlen
  subst hparser
  dsimp only at *
  rw [List.take_left] at *
  exact ⟨bs, ⟨code, hcode, rfl⟩, hbuffer⟩

theorem consumes_instruction : Consumes parse_instruction fun i bs =>
    ∃ codes : InstructionCodes, codes.For i.value ∧ i.value.spell codes = bs := by
  unfold parse_instruction
  refine Consumes.bind consumes_u8 fun program_id_index _ hprogram => ?_
  refine Consumes.bind consumes_data fun accounts _ haccounts => ?_
  refine Consumes.bind consumes_data fun data _ hdata => Consumes.pure ?_
  obtain ⟨accounts_code, ha, rfl⟩ := haccounts
  obtain ⟨data_code, hd, rfl⟩ := hdata
  subst hprogram
  refine ⟨⟨accounts_code, data_code⟩, ⟨ha, hd⟩, ?_⟩
  rw [InstructionValue.spell, List.append_nil]
  rfl

/-- Codes for each of the instructions, side by side. -/
theorem spelled_instructions {instructions : List Instruction} {pieces : List (List UInt8)}
    (h : List.Forall₂ (fun i bs => ∃ codes : InstructionCodes, codes.For i.value ∧
      i.value.spell codes = bs) instructions pieces) :
    ∃ codes, List.Forall₂ (fun i c => InstructionCodes.For c i)
        (instructions.map Instruction.value) codes ∧
      spell_instructions (instructions.map Instruction.value) codes = pieces.flatten := by
  induction h with
  | nil => exact ⟨[], List.Forall₂.nil, rfl⟩
  | cons hi _ ih =>
    obtain ⟨c, hfor, rfl⟩ := hi
    obtain ⟨codes, hcodes, hspell⟩ := ih
    refine ⟨c :: codes, List.Forall₂.cons hfor hcodes, ?_⟩
    rw [List.flatten_cons, ← hspell]
    rfl

theorem consumes_version {α : Type} {f : Bool × UInt8 → ParserM α} {S : α → List UInt8 → Prop}
    (hversioned : ∀ version, version < 128 →
      Consumes (f (true, version)) fun a bs => S a (encode_version (some version) ++ bs))
    (hlegacy : Consumes (f (false, 0)) fun a bs => (∀ b, bs.head? = some b → b < 128) → S a bs) :
    Consumes (parse_version >>= f) S := by
  intro c a d h
  rw [bind_eq_some] at h
  obtain ⟨v, c', hv, h⟩ := h
  obtain ⟨addr, _ | ⟨b, rest⟩⟩ := c
  · cases hv
  · rw [parse_version_run] at hv
    by_cases htop : b &&& 0x80 ≠ 0
    · rw [if_pos htop] at hv
      cases hv
      -- Clearing the top bit and setting it again gives the byte back; a finite check.
      have hall : ∀ k < 256, UInt8.ofNat k &&& 0x80 ≠ 0 → UInt8.ofNat k &&& 0x7f < 128 ∧
          (UInt8.ofNat k &&& 0x7f) ||| 0x80 = UInt8.ofNat k := by decide +kernel
      have hbits := hall b.toNat b.toNat_lt
      rw [UInt8.ofNat_toNat] at hbits
      obtain ⟨hlt, hor⟩ := hbits htop
      obtain ⟨bs, hS, hbuffer⟩ := hversioned _ hlt _ a d h
      refine ⟨_, hS, ?_⟩
      rw [encode_version, hor, List.append_assoc, ← hbuffer]
      rfl
    · rw [if_neg htop] at hv
      cases hv
      obtain ⟨bs, hS, hbuffer⟩ := hlegacy _ a d h
      refine ⟨bs, hS fun b' hhead => ?_, hbuffer⟩
      obtain ⟨bs', rfl⟩ := List.head?_eq_some_iff.mp hhead
      rw [List.cons_append, List.cons.injEq] at hbuffer
      rw [← hbuffer.1, UInt8.lt_iff_toNat_lt]
      exact Nat.not_le.mp ((top_bit b).not.mp htop)

/-- The keys of a table, put together again. -/
theorem read_table_flatMap {n : ℕ} {bs : List UInt8} (h : bs.length = n * PUBKEY_SIZE)
    (rest : List UInt8) : (Pubkey.read_table n (bs ++ rest)).flatMap Pubkey.data = bs := by
  induction n generalizing bs with
  | zero =>
    rw [Nat.zero_mul, List.length_eq_zero_iff] at h
    rw [h]
    rfl
  | succ n ih =>
    rw [Nat.succ_mul] at h
    have htake : (bs.take PUBKEY_SIZE).length = PUBKEY_SIZE :=
      List.length_take_of_le (by omega)
    have hdrop : (bs.drop PUBKEY_SIZE).length = n * PUBKEY_SIZE := by
      rw [List.length_drop]
      omega
    have hsplit : bs ++ rest = bs.take PUBKEY_SIZE ++ (bs.drop PUBKEY_SIZE ++ rest) := by
      rw [← List.append_assoc, List.take_append_drop]
    have hread := Pubkey.read_append ⟨bs.take PUBKEY_SIZE, htake⟩ (bs.drop PUBKEY_SIZE ++ rest)
    rw [Pubkey.read_table, List.flatMap_cons, hsplit, hread, List.drop_left' htake, ih hdrop]
    exact List.take_append_drop PUBKEY_SIZE bs

theorem consumes_pubkeys_header : Consumes parse_pubkeys_header fun header bs =>
    ∃ code, IsLengthCode header.pubkeys_length code ∧
      bs = header.num_required_signatures :: header.num_readonly_signed_accounts ::
        header.num_readonly_unsigned_accounts :: code := by
  unfold parse_pubkeys_header
  refine Consumes.bind consumes_u8 fun num_required_signatures _ h₀ => ?_
  refine Consumes.bind consumes_u8 fun num_readonly_signed_accounts _ h₁ => ?_
  refine Consumes.bind consumes_u8 fun num_readonly_unsigned_accounts _ h₂ => ?_
  refine Consumes.bind consumes_length fun pubkeys_length code hcode => Consumes.pure ?_
  subst h₀ h₁ h₂
  refine ⟨code, hcode, ?_⟩
  rw [List.append_nil]
  rfl

theorem consumes_pubkeys : Consumes parse_pubkeys fun table bs =>
    ∃ code, IsLengthCode table.pubkeys.keys.length code ∧
      bs = (table.pubkeys_header.num_required_signatures ::
        table.pubkeys_header.num_readonly_signed_accounts ::
        table.pubkeys_header.num_readonly_unsigned_accounts :: code) ++
          table.pubkeys.keys.flatMap Pubkey.data := by
  unfold parse_pubkeys
  refine Consumes.bind consumes_pubkeys_header fun header _ hheader => ?_
  obtain ⟨code, hcode, rfl⟩ := hheader
  refine (consumes_block _ _).mono fun table bs h => ?_
  obtain ⟨hlen, addr, rest, rfl⟩ := h
  refine ⟨code, ?_, ?_⟩
  · rw [Pubkey.read_table_length]
    exact hcode
  · rw [read_table_flatMap hlen]

theorem consumes_hash : Consumes parse_hash fun hash bs => bs = hash.hash.data := by
  refine (consumes_block _ _).mono fun hash bs h => ?_
  obtain ⟨hlen, addr, rest, rfl⟩ := h
  rw [Hash.read_append ⟨bs, hlen⟩]

/-- What follows the version prefix. -/
theorem consumes_header_rest (versioned : Bool) (version : UInt8) :
    Consumes (do
      let table ← parse_pubkeys
      let blockhash ← parse_blockhash
      let instructions_length ← parse_length
      return { versioned, version, pubkeys_header := table.pubkeys_header,
               pubkeys := table.pubkeys, blockhash, instructions_length,
               pubkeys_count := table.pubkeys_count })
      fun (header : MessageHeader) bs =>
        header.versioned = versioned ∧ header.version = version ∧
        ∃ pubkeys_code instructions_code,
          IsLengthCode header.pubkeys.keys.length pubkeys_code ∧
          IsLengthCode header.instructions_length instructions_code ∧
          bs = (header.value []).spell_header_rest pubkeys_code instructions_code := by
  refine Consumes.bind consumes_pubkeys fun table _ htable => ?_
  refine Consumes.bind consumes_hash fun blockhash _ hhash => ?_
  refine Consumes.bind consumes_length fun n code hcode => Consumes.pure ?_
  obtain ⟨pubkeys_code, hpubkeys, rfl⟩ := htable
  subst hhash
  refine ⟨rfl, rfl, pubkeys_code, code, hpubkeys, hcode, ?_⟩
  rw [List.append_nil]
  rfl

/-- A header was read from what spells it. -/
theorem consumes_message_header : Consumes parse_message_header fun header bs =>
    ∃ pubkeys_code instructions_code,
      (∀ v, (header.value []).version = some v → v < 128) ∧
      ((header.value []).version = none → header.pubkeys_header.num_required_signatures < 128) ∧
      IsLengthCode header.pubkeys.keys.length pubkeys_code ∧
      IsLengthCode header.instructions_length instructions_code ∧
      bs = encode_version (header.value []).version ++
        (header.value []).spell_header_rest pubkeys_code instructions_code := by
  unfold parse_message_header
  apply consumes_version
  · intro version hlt
    refine (consumes_header_rest true version).mono fun header bs h => ?_
    obtain ⟨hversioned, hversion, pubkeys_code, instructions_code, hp, hi, rfl⟩ := h
    have hvalue : (header.value []).version = some version := by
      rw [MessageHeader.value, hversioned, hversion]
      rfl
    rw [hvalue]
    refine ⟨pubkeys_code, instructions_code, fun v hv => ?_, fun hnone => ?_, hp, hi, rfl⟩
    · cases hv
      exact hlt
    · cases hnone
  -- Without a version the first byte is the number of signatures, so that is below 128.
  · refine (consumes_header_rest false 0).mono fun header bs h hhead => ?_
    obtain ⟨hversioned, -, pubkeys_code, instructions_code, hp, hi, rfl⟩ := h
    have hvalue : (header.value []).version = none := by
      rw [MessageHeader.value, hversioned]
      rfl
    rw [hvalue]
    refine ⟨pubkeys_code, instructions_code, fun v hv => ?_, fun _ => ?_, hp, hi, rfl⟩
    · cases hv
    · exact hhead _ rfl

/-! ## The bytes of a message -/

/-- What ends a body spells the number of its tables. -/
theorem body_ends_code {header : MessageHeader} {rest : Parser} {instructions : List Instruction}
    (h : BodyEnds header rest) : TablesCode (header.value instructions).version rest.buffer := by
  unfold BodyEnds at h
  rw [MessageHeader.value]
  cases hversioned : header.versioned with
  | true =>
    rw [hversioned, if_pos rfl] at h
    obtain ⟨last, hlength, hempty⟩ := h
    obtain ⟨code, hcode, hbuffer⟩ := consumes_length rest 0 last hlength
    rw [hbuffer, hempty, List.append_nil]
    exact hcode
  | false =>
    rw [hversioned, if_neg Bool.false_ne_true] at h
    exact h

theorem body_ends_of_code {header : MessageHeader} {m : MessageValue} {addr : ℕ}
    {code : List UInt8} (hmeans : header.Means m) (h : TablesCode m.version code) :
    BodyEnds header ⟨addr, code⟩ := by
  unfold BodyEnds
  have hversion := hmeans.version
  cases hversioned : header.versioned with
  | true =>
    rw [hversioned, if_pos rfl] at hversion
    rw [← hversion] at h
    obtain ⟨n, hlength, rfl⟩ := reads_length h addr []
    rw [List.append_nil] at hlength
    exact ⟨_, hlength, rfl⟩
  | false =>
    rw [hversioned, if_neg Bool.false_ne_true] at hversion
    rw [← hversion] at h
    exact h

theorem decodes_spelled {bytes : List UInt8} {m : MessageValue} (h : Decodes bytes m) :
    ∃ codes : MessageCodes, codes.For m ∧ m.spell codes = bytes := by
  obtain ⟨header, body, instructions, hparse, ⟨rest, htimes, hends⟩, rfl⟩ := h
  obtain ⟨head, hhead, hbytes⟩ := consumes_message_header _ _ _ hparse
  obtain ⟨pubkeys_code, instructions_code, hversion, hlegacy, hp, hi, rfl⟩ := hhead
  obtain ⟨_, ⟨pieces, hpieces, rfl⟩, hbody⟩ :=
    Consumes.times consumes_instruction header.instructions_length _ _ _ htimes
  obtain ⟨codes, hcodes, hspell⟩ := spelled_instructions hpieces
  have hlen := times_length htimes
  refine ⟨⟨pubkeys_code, instructions_code, codes, rest.buffer⟩, ?_, ?_⟩
  · refine ⟨hversion, hlegacy, hp, ?_, hcodes, body_ends_code hends⟩
    rw [MessageHeader.value, List.length_map, hlen]
    exact hi
  · change _ = (⟨0, bytes⟩ : Parser).buffer
    rw [hbytes, hbody, ← hspell, ← List.append_assoc]
    rfl

theorem spelled_decodes {m : MessageValue} {codes : MessageCodes} (h : codes.For m) :
    Decodes (m.spell codes) m := by
  have hcodes_length := h.instructions.length_eq
  have hinstructions : Reads
      (times parse_instruction (m.instructions.zip codes.instructions).length)
      (spell_instructions m.instructions codes.instructions)
      (List.Forall₂ (fun x i => i.value = x.1) (m.instructions.zip codes.instructions)) := by
    refine Reads.times _ fun x hx => ?_
    obtain ⟨ha, hd⟩ := (List.forall₂_iff_zip.mp h.instructions).2 hx
    exact reads_instruction x.1 ha hd
  obtain ⟨header, hparse, hmeans⟩ := reads_message_header m h.version_lt h.legacy_lt h.pubkeys
    h.instructions_length 0 (spell_instructions m.instructions codes.instructions ++
      codes.account_tables)
  obtain ⟨instructions, htimes, hall⟩ := hinstructions
    (0 + (m.spell_header codes).length) codes.account_tables
  -- Instructions and their codes are read in pairs; the instructions are the first halves.
  have hzip : (m.instructions.zip codes.instructions).map Prod.fst = m.instructions :=
    List.map_fst_zip (Nat.le_of_eq hcodes_length)
  have hcount : (m.instructions.zip codes.instructions).length = m.instructions.length := by
    rw [List.length_zip, ← hcodes_length, Nat.min_self]
  rw [hcount, ← hmeans.instructions_length] at htimes
  refine ⟨header, ⟨0 + (m.spell_header codes).length,
    spell_instructions m.instructions codes.instructions ++ codes.account_tables⟩, instructions, ?_,
    ⟨_, htimes, body_ends_of_code hmeans h.account_tables⟩, hmeans.value ?_⟩
  · rw [MessageValue.spell, List.append_assoc]
    exact hparse
  · rw [← hzip]
    have heq : List.Forall₂ (· = ·) (instructions.map Instruction.value)
        ((m.instructions.zip codes.instructions).map Prod.fst) :=
      List.forall₂_map_left_iff.mpr (List.forall₂_map_right_iff.mpr hall.flip)
    rwa [List.forall₂_eq_eq_eq] at heq

/-! ## Different codes, different bytes -/

/-- No code is the beginning of another one. -/
theorem length_code_unique {n n' : ℕ} {code code' rest rest' : List UInt8}
    (h : IsLengthCode n code) (h' : IsLengthCode n' code') (heq : code ++ rest = code' ++ rest') :
    code = code' ∧ rest = rest' := by
  obtain ⟨k, hread, -⟩ := reads_length h 0 rest
  obtain ⟨k', hread', -⟩ := reads_length h' 0 rest'
  rw [heq, hread', Option.some.injEq, Prod.mk.injEq, Cursor.mk.injEq] at hread
  have hlen : code.length = code'.length := by omega
  exact List.append_inj heq hlen

theorem instruction_codes_unique {i : InstructionValue} {codes codes' : InstructionCodes}
    {rest rest' : List UInt8} (h : codes.For i) (h' : codes'.For i)
    (heq : i.spell codes ++ rest = i.spell codes' ++ rest') : codes = codes' ∧ rest = rest' := by
  unfold InstructionValue.spell at heq
  simp only [List.cons_append, List.append_assoc, List.cons.injEq, true_and] at heq
  obtain ⟨haccounts, heq⟩ := length_code_unique h.accounts h'.accounts heq
  obtain ⟨hdata, heq⟩ := length_code_unique h.data h'.data (List.append_cancel_left heq)
  refine ⟨?_, List.append_cancel_left heq⟩
  cases codes
  cases codes'
  dsimp only at haccounts hdata
  rw [haccounts, hdata]

theorem spell_instructions_unique {instructions : List InstructionValue}
    {codes codes' : List InstructionCodes} {rest rest' : List UInt8}
    (h : List.Forall₂ (fun i c => InstructionCodes.For c i) instructions codes)
    (h' : List.Forall₂ (fun i c => InstructionCodes.For c i) instructions codes')
    (heq : spell_instructions instructions codes ++ rest =
      spell_instructions instructions codes' ++ rest') : codes = codes' ∧ rest = rest' := by
  induction h generalizing codes' with
  | nil =>
    cases h'
    exact ⟨rfl, heq⟩
  | cons hfor _ ih =>
    cases h' with
    | cons hfor' hrest' =>
      simp only [spell_instructions, List.zip_cons_cons, List.flatMap_cons,
        List.append_assoc] at heq
      obtain ⟨hfirst, htail⟩ := instruction_codes_unique hfor hfor' heq
      obtain ⟨hcodes, hrest⟩ := ih hrest' htail
      rw [hfirst, hcodes]
      exact ⟨rfl, hrest⟩

theorem spell_unique {m : MessageValue} {codes codes' : MessageCodes} (h : codes.For m)
    (h' : codes'.For m) (heq : m.spell codes = m.spell codes') : codes = codes' := by
  unfold MessageValue.spell MessageValue.spell_header MessageValue.spell_header_rest at heq
  simp only [List.append_assoc, List.append_cancel_left_eq, List.cons_append, List.cons.injEq,
    true_and] at heq
  obtain ⟨hpubkeys, heq⟩ := length_code_unique h.pubkeys h'.pubkeys heq
  simp only [List.append_cancel_left_eq] at heq
  obtain ⟨hlength, heq⟩ := length_code_unique h.instructions_length h'.instructions_length heq
  obtain ⟨hinstructions, htables⟩ := spell_instructions_unique h.instructions h'.instructions heq
  cases codes
  cases codes'
  dsimp only at hpubkeys hlength hinstructions htables
  rw [hpubkeys, hlength, hinstructions, htables]

/-- The parser of lengths accepts their codes and nothing else. -/
theorem parse_length_iff {c d : Parser} {n : ℕ} : parse_length c = some (n, d) ↔
    ∃ code, IsLengthCode n code ∧ c.buffer = code ++ d.buffer ∧
      d.addr = c.addr + code.length := by
  constructor
  · intro h
    obtain ⟨code, hcode, hbuffer⟩ := consumes_length c n d h
    obtain ⟨k, hread, -⟩ := reads_length hcode c.addr d.buffer
    rw [← hbuffer] at hread
    rw [h, Option.some.injEq, Prod.mk.injEq] at hread
    exact ⟨code, hcode, hbuffer, by rw [hread.2]⟩
  · rintro ⟨code, hcode, hbuffer, haddr⟩
    obtain ⟨k, hread, rfl⟩ := reads_length hcode c.addr d.buffer
    rw [← hbuffer, ← haddr] at hread
    exact hread

/-- **The encodings of a message** are its spellings, one for each choice of the codes; so two
of them differ in nothing but the codes of their lengths. -/
theorem message_encodings (m : MessageValue) :
    (∀ bytes, Decodes bytes m ↔ ∃ codes : MessageCodes, codes.For m ∧ m.spell codes = bytes) ∧
    (∀ codes codes' : MessageCodes, codes.For m → codes'.For m →
      (m.spell codes = m.spell codes' ↔ codes = codes')) ∧
    ∀ (c d : Parser) n, parse_length c = some (n, d) ↔
      ∃ code, IsLengthCode n code ∧ c.buffer = code ++ d.buffer ∧
        d.addr = c.addr + code.length := by
  refine ⟨fun bytes => ⟨decodes_spelled, ?_⟩, fun codes codes' h h' => ⟨spell_unique h h', ?_⟩,
    fun c d n => parse_length_iff⟩
  · rintro ⟨codes, h, rfl⟩
    exact spelled_decodes h
  · rintro rfl
    rfl

/-- A transfer. -/
def small_transfer : MessageValue where
  version := none
  num_required_signatures := 1
  num_readonly_signed_accounts := 0
  num_readonly_unsigned_accounts := 1
  pubkeys := [Pubkey.fill 1, Pubkey.fill 2, system_program_id]
  blockhash := Hash.fill 9
  instructions := [⟨2, [0, 1], [2, 0, 0, 0, 5, 0, 0, 0, 0, 0, 0, 0]⟩]

/-- The number of its instructions is one, however it is written. -/
theorem small_transfer_codes {code : List UInt8} (h : IsLengthCode 1 code) :
    { small_transfer.canonical_codes with instructions_length := code : MessageCodes }.For
      small_transfer where
  version_lt := legacy_version_lt
  legacy_lt := legacy_signature_lt
  pubkeys := encode_length_code 3 (by decide)
  instructions_length := h
  instructions := by
    refine List.Forall₂.cons ⟨?_, ?_⟩ List.Forall₂.nil
    · exact encode_length_code 2 (by decide)
    · exact encode_length_code 12 (by decide)
  account_tables := rfl

/-- One byte says so, and two bytes do, too. -/
theorem two_encodings : ∃ bytes bytes', bytes ≠ bytes' ∧ Decodes bytes small_transfer ∧
    Decodes bytes' small_transfer := by
  have hone : IsLengthCode 1 [1] := IsLengthCode.one 1 (by decide)
  have htwo : IsLengthCode 1 [0x81, 0] := IsLengthCode.two 0x81 0 (by decide) (by decide)
  refine ⟨_, _, ?_, spelled_decodes (small_transfer_codes hone),
    spelled_decodes (small_transfer_codes htwo)⟩
  decide +kernel

end RenecLedger
