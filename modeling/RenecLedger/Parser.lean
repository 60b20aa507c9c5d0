/-
The byte parser of `librenec/parser.c` and its types (`renec/parser.h`).

A `Parser` is the pair (buffer, buffer_length) of the source: where the next
byte lies, and the bytes from there to the end of the buffer. A parse function
returns `none` where the source returns a non-zero code, else its out parameter
and the advanced parser. A `const Pubkey*` is its address together with the 32
bytes it points to, so that comparing two pointers and comparing two keys are
different tests, as they are in the source.
-/
import Mathlib.Algebra.Group.Nat.Defs
import Mathlib.Data.List.Basic
import RenecLedger.Lib.Reader

set_option autoImplicit false

open ReaderLib

namespace RenecLedger

/-! ## Types -/

def PUBKEY_SIZE : ℕ := 32
def HASH_SIZE : ℕ := 32

/-- `size_t` is a 32-bit word on the device. -/
def SIZE_MAX : ℕ := 2 ^ 32 - 1

/-- An `int` as a `size_t`. -/
def to_size (i : ℤ) : ℕ := (i % (SIZE_MAX + 1 : ℕ)).toNat

/-- A position in the message: the address, and the bytes from there on. -/
abbrev Parser := Cursor UInt8
/-- A parse function: it moves the parser on and returns a value, or fails. -/
abbrev ParserM := Reader UInt8

/-- The first `n` bytes of a buffer. The parse functions read only what they have
checked to be there; the zeros stand for nothing they read. -/
def read_bytes (n : ℕ) (bytes : List UInt8) : List UInt8 :=
  (bytes ++ List.replicate n 0).take n

/-- What is read has the length that was asked for, also past the end of the bytes. -/
theorem read_bytes_length (n : ℕ) (bytes : List UInt8) : (read_bytes n bytes).length = n := by
  rw [read_bytes, List.length_take, List.length_append, List.length_replicate]
  omega

/-- A buffer that begins with `n` known bytes reads as those. -/
theorem read_bytes_append {n : ℕ} {bytes : List UInt8} (h : bytes.length = n)
    (rest : List UInt8) : read_bytes n (bytes ++ rest) = bytes := by
  rw [read_bytes, List.append_assoc, ← h, List.take_left]

/-- A public key: its bytes, with their number. -/
structure Pubkey where
  data : List UInt8
  size : data.length = PUBKEY_SIZE
deriving DecidableEq

/-- A hash: its bytes, with their number. -/
structure Hash where
  data : List UInt8
  size : data.length = HASH_SIZE
deriving DecidableEq

abbrev Blockhash := Hash

/-- Keys are equal when their bytes are, which is all that the comparisons of the source
look at. -/
theorem Pubkey.ext {a b : Pubkey} (h : a.data = b.data) : a = b := by
  cases a
  cases b
  cases h
  rfl

/-- Hashes are equal when their bytes are. -/
theorem Hash.ext {a b : Hash} (h : a.data = b.data) : a = b := by
  cases a
  cases b
  cases h
  rfl

/-- The key that a pointer to these bytes points to. -/
def Pubkey.read (bytes : List UInt8) : Pubkey :=
  ⟨read_bytes PUBKEY_SIZE bytes, read_bytes_length PUBKEY_SIZE bytes⟩

/-- The hash that a pointer to these bytes points to. -/
def Hash.read (bytes : List UInt8) : Hash :=
  ⟨read_bytes HASH_SIZE bytes, read_bytes_length HASH_SIZE bytes⟩

/-- The key all of whose bytes are `b`. -/
def Pubkey.fill (b : UInt8) : Pubkey := ⟨List.replicate PUBKEY_SIZE b, List.length_replicate⟩

/-- A hash of one repeated byte. -/
def Hash.fill (b : UInt8) : Hash := ⟨List.replicate HASH_SIZE b, List.length_replicate⟩

/-- A key is read back from its bytes, whatever follows them. -/
theorem Pubkey.read_append (key : Pubkey) (rest : List UInt8) :
    Pubkey.read (key.data ++ rest) = key :=
  Pubkey.ext (read_bytes_append key.size rest)

/-- A hash is read back from its bytes, whatever follows them. -/
theorem Hash.read_append (hash : Hash) (rest : List UInt8) :
    Hash.read (hash.data ++ rest) = hash :=
  Hash.ext (read_bytes_append hash.size rest)

/-- A table of `n` keys, one after the other. -/
def Pubkey.read_table : ℕ → List UInt8 → List Pubkey
  | 0, _ => []
  | n + 1, bytes => Pubkey.read bytes :: Pubkey.read_table n (bytes.drop PUBKEY_SIZE)

/-- The table has as many keys as its length byte says. -/
theorem Pubkey.read_table_length (n : ℕ) (bytes : List UInt8) :
    (Pubkey.read_table n bytes).length = n := by
  induction n generalizing bytes with
  | zero => rfl
  | succ n ih => rw [Pubkey.read_table, List.length_cons, ih]

/-- `const Pubkey*`: the pointer, and the key it points to. -/
structure PubkeyRef where
  addr : ℕ
  key : Pubkey
deriving DecidableEq

/-- `const Hash*`. -/
structure HashRef where
  addr : ℕ
  hash : Hash
deriving DecidableEq

/-- `pubkeys_equal`: `memcmp` of the two keys. -/
def pubkeys_equal (pubkey1 pubkey2 : PubkeyRef) : Bool := pubkey1.key = pubkey2.key

/-- `enum Option`. -/
inductive OptionTag
  | OptionNone
  | OptionSome
deriving DecidableEq

/-- The `length` bytes of a string and where they lie. -/
abbrev SizedString := Cursor UInt8

/-- The account indices of an instruction, and its data, in the message body. -/
structure Instruction where
  program_id_index : UInt8
  accounts : List UInt8
  data : Parser
deriving DecidableEq

/-- `PubkeysHeader`: the three counts of the message header, and the length of the key
table. -/
structure PubkeysHeader where
  num_required_signatures : UInt8
  num_readonly_signed_accounts : UInt8
  num_readonly_unsigned_accounts : UInt8
  pubkeys_length : ℕ
deriving DecidableEq

/-- The account table a header points to. -/
structure PubkeyTable where
  addr : ℕ
  keys : List Pubkey
deriving DecidableEq

/-- The all-zero key, which is what an index outside the table reads as here; only
`scan_header_for_signer` ever uses such an index, and it has its own model. -/
def Pubkey.zero : Pubkey := Pubkey.fill 0

/-- `&pubkeys[i]`. -/
def PubkeyTable.at_index (pubkeys : PubkeyTable) (i : ℕ) : PubkeyRef :=
  ⟨pubkeys.addr + PUBKEY_SIZE * i, pubkeys.keys.getD i Pubkey.zero⟩

/-- A parsed header: its table holds as many keys as its length field says. -/
structure MessageHeader where
  versioned : Bool
  version : UInt8
  pubkeys_header : PubkeysHeader
  pubkeys : PubkeyTable
  blockhash : HashRef
  instructions_length : ℕ
  pubkeys_count : pubkeys.keys.length = pubkeys_header.pubkeys_length
deriving DecidableEq

/-- `OffchainMessageHeader`: version, format and length, behind the signing domain. They
are read and checked by different functions. -/
structure OffchainMessageHeader where
  version : UInt8
  format : UInt8
  length : UInt16
deriving DecidableEq

/-! ## Primitive readers -/

/-- `BAIL_IF(check_buffer_length(parser, num))`. -/
def check_buffer_length (num : ℕ) : ParserM Unit := fun parser =>
  if parser.buffer.length < num then none else some ((), parser)

/-- Move on by some bytes, without a check: every caller has made one. -/
def advance (num : ℕ) : ParserM Unit := fun parser => some ((), parser.advance num)

/-- `BAIL_IF(1)`. -/
def bail {α : Type} : ParserM α := fun _ => none

/-- `BAIL_IF(c)`. -/
def bail_if (c : Bool) : ParserM Unit := if c then bail else pure ()

/-- Whether the message ends here. -/
def parser_is_empty (parser : Parser) : Bool := parser.buffer.length == 0

/-- One byte, after the check that there is one. -/
def parse_u8 : ParserM UInt8 := do
  check_buffer_length 1
  let parser ← get
  advance 1
  return parser.buffer.headD 0

/-- Two bytes, the lower first. The second is checked for once the first has been taken. -/
def parse_u16 : ParserM UInt16 := do
  let lower ← parse_u8
  let upper ← parse_u8
  return lower.toUInt16 + (upper.toUInt16 <<< 8)

/-- Four bytes, as two numbers of two. -/
def parse_u32 : ParserM UInt32 := do
  let lower ← parse_u16
  let upper ← parse_u16
  return lower.toUInt32 + (upper.toUInt32 <<< 16)

/-- Eight bytes, checked for together and read as two numbers of four. -/
def parse_u64 : ParserM UInt64 := do
  check_buffer_length 8
  let lower ← parse_u32
  let upper ← parse_u32
  return lower.toUInt64 + (upper.toUInt64 <<< 32)

/-- The bytes of a `uint64_t` read as an `int64_t`. -/
def parse_i64 : ParserM Int64 := do
  let value ← parse_u64
  return value.toInt64

/-- A compact-u16: seven bits a byte, at most three bytes. -/
def parse_length : ParserM ℕ := do
  let value_u8 ← parse_u8
  let value := (value_u8 &&& 0x7f).toNat
  if value_u8 &&& 0x80 ≠ 0 then
    let value_u8 ← parse_u8
    let value := ((value_u8 &&& 0x7f).toNat <<< 7) ||| value
    if value_u8 &&& 0x80 ≠ 0 then
      let value_u8 ← parse_u8
      return ((value_u8 &&& 0x7f).toNat <<< 14) ||| value
    else
      return value
  else
    return value

/-- A tag of 0 or 1; any other byte fails. -/
def parse_option : ParserM OptionTag := do
  let maybe_option ← parse_u8
  if maybe_option = 0 then return OptionTag.OptionNone
  else if maybe_option = 1 then return OptionTag.OptionSome
  else bail

/-- An option tag, and the value when the tag is `OptionSome`. -/
def parse_optional {α : Type} (parse : ParserM α) : ParserM (Option α) := do
  match ← parse_option with
  | .OptionSome => return some (← parse)
  | .OptionNone => return none

/-- A length of eight bytes, then that many bytes, which stay where they are. -/
def parse_sized_string : ParserM SizedString := do
  let length ← parse_u64
  bail_if (length.toNat > SIZE_MAX)
  let len := length.toNat
  check_buffer_length len
  let parser ← get
  advance len
  return ⟨parser.addr, parser.buffer.take len⟩

/-- Thirty-two bytes, which stay where they are: the result points into the message. -/
def parse_pubkey : ParserM PubkeyRef := do
  check_buffer_length PUBKEY_SIZE
  let parser ← get
  advance PUBKEY_SIZE
  return ⟨parser.addr, Pubkey.read parser.buffer⟩

/-! ## The message header -/

/-- The three counts and the table's length. That the counts are consistent with the
length is not checked here. -/
def parse_pubkeys_header : ParserM PubkeysHeader := do
  let num_required_signatures ← parse_u8
  let num_readonly_signed_accounts ← parse_u8
  let num_readonly_unsigned_accounts ← parse_u8
  let pubkeys_length ← parse_length
  return { num_required_signatures, num_readonly_signed_accounts,
           num_readonly_unsigned_accounts, pubkeys_length }

/-- The out parameters of `parse_pubkeys`, which agree on the number of keys. -/
structure ParsedPubkeys where
  pubkeys_header : PubkeysHeader
  pubkeys : PubkeyTable
  pubkeys_count : pubkeys.keys.length = pubkeys_header.pubkeys_length

/-- The header, then the table of keys, which stays where it is. The invariant ties the
table to the length. -/
def parse_pubkeys : ParserM ParsedPubkeys := do
  let header ← parse_pubkeys_header
  let pubkeys_size := header.pubkeys_length * PUBKEY_SIZE
  check_buffer_length pubkeys_size
  let parser ← get
  advance pubkeys_size
  return { pubkeys_header := header,
           pubkeys := ⟨parser.addr, Pubkey.read_table header.pubkeys_length parser.buffer⟩,
           pubkeys_count := Pubkey.read_table_length header.pubkeys_length parser.buffer }

/-- Thirty-two bytes, which stay where they are. -/
def parse_hash : ParserM HashRef := do
  check_buffer_length HASH_SIZE
  let parser ← get
  advance HASH_SIZE
  return ⟨parser.addr, Hash.read parser.buffer⟩

/-- A blockhash is read as any hash. -/
def parse_blockhash : ParserM HashRef := parse_hash

/-- The optional version prefix. A legacy message has none: its first byte, the
number of required signatures, is left for `parse_pubkeys_header`. -/
def parse_version : ParserM (Bool × UInt8) := do
  check_buffer_length 1
  let parser ← get
  let version := parser.buffer.headD 0
  if version &&& 0x80 ≠ 0 then
    advance 1
    return (true, version &&& 0x7f)
  else
    return (false, 0)

/-- The version, the keys, the blockhash and the number of instructions; what is left is
the body. -/
def parse_message_header : ParserM MessageHeader := do
  let (versioned, version) ← parse_version
  let table ← parse_pubkeys
  let blockhash ← parse_blockhash
  let instructions_length ← parse_length
  return { versioned, version, pubkeys_header := table.pubkeys_header, pubkeys := table.pubkeys,
           blockhash, instructions_length, pubkeys_count := table.pubkeys_count }

/-! ## The off-chain message header -/

/-- `"\xff" "renec offchain"`. -/
def OFFCHAIN_MESSAGE_SIGNING_DOMAIN : List UInt8 :=
  0xff :: "renec offchain".toList.map Char.toUInt8

/-- The signing domain, then version, format and length, without a look at their values. -/
def parse_offchain_message_header : ParserM OffchainMessageHeader := do
  let domain_len := OFFCHAIN_MESSAGE_SIGNING_DOMAIN.length
  check_buffer_length domain_len
  let parser ← get
  bail_if (parser.buffer.take domain_len ≠ OFFCHAIN_MESSAGE_SIGNING_DOMAIN)
  advance domain_len
  let version ← parse_u8
  let format ← parse_u8
  let length ← parse_u16
  return { version, format, length }

/-! ## Instructions -/

/-- A length and that many bytes, with their position. -/
def parse_data : ParserM Parser := do
  let data_length ← parse_length
  check_buffer_length data_length
  let parser ← get
  advance data_length
  return ⟨parser.addr, parser.buffer.take data_length⟩

/-- The program's index, the account indices and the data. Whether the indices are in
range is checked by `instruction_validate`. -/
def parse_instruction : ParserM Instruction := do
  let program_id_index ← parse_u8
  let accounts ← parse_data
  let data ← parse_data
  return { program_id_index, accounts := accounts.buffer, data }

end RenecLedger
