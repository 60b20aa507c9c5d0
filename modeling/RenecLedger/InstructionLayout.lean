/-
What a parse function accepts, line by line.

`Accepts` is about one parse function on the accounts from a position on and the data from a
cursor on: with these it returns a value. Each primitive has a rule that takes it off the front of
the function, in both directions: an account is the one at the position, a field of the data is
written at the cursor. A parse function of a program is then the conjunction of what its lines ask
for, and the layouts that it accepts can be read off.

The accounts are those that the iterator comes to (`Instruction.seen`), which are all of them as
long as there are fewer than 256.
-/
import RenecLedger.InstructionData
import RenecLedger.Lib.Layout
import RenecLedger.NewAuthorities

set_option autoImplicit false

open ReaderLib IteratorLib

namespace RenecLedger

/-! ## Numbers and keys -/

/-- A number takes as many bytes as it is given. -/
theorem little_endian_length (size n : ℕ) : (little_endian size n).length = size := by
  induction size generalizing n with
  | zero => rfl
  | succ size ih => rw [little_endian, List.length_cons, ih]

/-- Any bytes are those of a number. -/
theorem little_endian_all (bs : List UInt8) :
    ∃ n < 256 ^ bs.length, little_endian bs.length n = bs := by
  induction bs with
  | nil => exact ⟨0, Nat.one_pos, rfl⟩
  | cons b bs ih =>
    obtain ⟨n, hn, hbs⟩ := ih
    have hb := b.toNat_lt
    refine ⟨b.toNat + 256 * n, ?_, ?_⟩
    · rw [List.length_cons, pow_succ]
      omega
    · have hlow : UInt8.ofNat (b.toNat + 256 * n) = b := by
        rw [← UInt8.toNat_inj, UInt8.toNat_ofNat', Nat.add_mul_mod_self_left,
          Nat.mod_eq_of_lt hb]
      have hhigh : (b.toNat + 256 * n) / 256 = n := by omega
      rw [List.length_cons, little_endian, hlow, hhigh, hbs]

/-- Four bytes, the least significant one first. -/
def encode_u32 (u32 : UInt32) : List UInt8 := little_endian 4 u32.toNat

/-- Eight bytes, the least significant one first. -/
def encode_u64 (u64 : UInt64) : List UInt8 := little_endian 8 u64.toNat

/-- A signed number has the bytes of the unsigned one: the two's complement, as
`parse_i64` casts what `parse_u64` returns. -/
def encode_i64 (i64 : Int64) : List UInt8 := encode_u64 i64.toUInt64

/-- It is always four bytes. -/
@[simp] theorem encode_u32_length (u32 : UInt32) : (encode_u32 u32).length = 4 :=
  little_endian_length 4 _

/-- It is always eight bytes. -/
@[simp] theorem encode_u64_length (u64 : UInt64) : (encode_u64 u64).length = 8 :=
  little_endian_length 8 _

/-- A signed number takes as many bytes as an unsigned one. -/
@[simp] theorem encode_i64_length (i64 : Int64) : (encode_i64 i64).length = 8 :=
  little_endian_length 8 _

/-- A byte is read as itself. -/
theorem reads_as_u8 : ReadsAs parse_u8 (fun b => [b]) fun _ b => b := by
  refine ReadsAs.of_reads reads_u8 takes_parse_u8 fun bs hbs => ?_
  obtain ⟨b, rfl⟩ := List.length_eq_one_iff.mp hbs
  exact ⟨b, rfl⟩

/-- Four bytes are read as the one number they encode. -/
theorem reads_as_u32 : ReadsAs parse_u32 encode_u32 fun _ u32 => u32 := by
  refine ReadsAs.of_reads (fun u32 => ?_) takes_parse_u32 fun bs hbs => ?_
  · refine (reads_u32 u32.toNat).mono fun v hv => ?_
    rw [Nat.mod_eq_of_lt u32.toNat_lt] at hv
    exact UInt32.toNat_inj.mp hv
  · obtain ⟨n, hn, hwritten⟩ := little_endian_all bs
    rw [hbs] at hn hwritten
    refine ⟨UInt32.ofNat n, ?_⟩
    have hfits : n < 2 ^ 32 := hn
    rwa [encode_u32, UInt32.toNat_ofNat', Nat.mod_eq_of_lt hfits]

/-- Eight bytes are taken, whichever they are. -/
theorem takes_parse_u64 : Takes parse_u64 8 := by
  intro c a d h
  obtain ⟨-, h⟩ := check_bind_eq_some.mp h
  exact takes_bind takes_parse_u32 (fun _ => takes_bind takes_parse_u32 fun _ => takes_pure _) h

/-- Eight bytes are read as the one number they encode. -/
theorem reads_as_u64 : ReadsAs parse_u64 encode_u64 fun _ u64 => u64 := by
  refine ReadsAs.of_reads reads_u64 takes_parse_u64 fun bs hbs => ?_
  obtain ⟨n, hn, hwritten⟩ := little_endian_all bs
  rw [hbs] at hn hwritten
  refine ⟨UInt64.ofNat n, ?_⟩
  have hfits : n < 2 ^ 64 := hn
  rwa [encode_u64, UInt64.toNat_ofNat', Nat.mod_eq_of_lt hfits]

/-- Eight bytes are read as the one signed number they encode. -/
theorem reads_as_i64 : ReadsAs parse_i64 encode_i64 fun _ i64 => i64 := by
  intro c a d
  rw [parse_i64, reads_as_u64.map UInt64.toInt64]
  constructor
  · rintro ⟨u64, hwritten, rfl, hd⟩
    exact ⟨u64.toInt64, hwritten, rfl, hd⟩
  · rintro ⟨i64, hwritten, rfl, hd⟩
    exact ⟨a.toUInt64, hwritten, rfl, hd⟩

/-- A key in the data is pointed to. -/
theorem reads_as_pubkey : ReadsAs parse_pubkey Pubkey.data PubkeyRef.mk := by
  intro c ref d
  constructor
  · intro h
    obtain ⟨hlen, h⟩ := check_bind_eq_some.mp h
    cases h
    have hdata : (Pubkey.read c.buffer).data = c.buffer.take PUBKEY_SIZE :=
      List.take_append_of_le_length hlen
    refine ⟨Pubkey.read c.buffer, ?_, rfl, ?_⟩
    · rw [hdata]
      exact List.take_prefix _ _
    · rw [Pubkey.size]
  · rintro ⟨key, ⟨rest, hrest⟩, rfl, rfl⟩
    rw [Cursor.advance, ← hrest, List.drop_left, key.size, ← parse_pubkey_run, hrest]

/-! ## Options and strings -/

/-- The tags of `enum Option`. -/
def OptionTag.code : OptionTag → UInt8
  | .OptionNone => 0
  | .OptionSome => 1

/-- A tag is read back from its byte, and a byte above 1 is no tag. So no two tags have
one encoding, and no other byte has one. -/
theorem reads_as_option : ReadsAs parse_option (fun tag => [tag.code]) fun _ tag => tag := by
  refine reads_as_u8.tag fun b c tag d => ?_
  constructor
  · intro h
    split at h
    · cases h
      exact ⟨‹_›, rfl⟩
    · split at h <;> cases h
      exact ⟨‹_›, rfl⟩
  · rintro ⟨rfl, rfl⟩
    cases tag <;> rfl

/-- A tag, and the value if there is one. -/
def encode_optional {γ : Type} (enc : γ → List UInt8) : Option γ → List UInt8
  | none => [OptionTag.OptionNone.code]
  | some x => OptionTag.OptionSome.code :: enc x

/-- An optional value is its tag and, where that says so, the value behind it. The
address of the value is one more than that of the tag. -/
theorem reads_as_optional {α γ : Type} {r : ParserM α} {enc : γ → List UInt8} {val : ℕ → γ → α}
    (hr : ReadsAs r enc val) :
    ReadsAs (parse_optional r) (encode_optional enc) fun addr x => x.map (val (addr + 1)) := by
  intro c a d
  rw [parse_optional, reads_as_option.bind_iff]
  constructor
  · rintro ⟨tag, htag, h⟩
    cases tag with
    | OptionNone =>
      cases h
      exact ⟨none, htag, rfl, rfl⟩
    | OptionSome =>
      obtain ⟨x, hx, rfl, rfl⟩ := ((hr.map some) _ _ _).mp h
      refine ⟨some x, append_prefix.mpr ⟨htag, hx⟩, rfl, ?_⟩
      rw [Cursor.advance_advance, Nat.add_comm]
      rfl
  · rintro ⟨x, hx, rfl, rfl⟩
    cases x with
    | none => exact ⟨.OptionNone, hx, rfl⟩
    | some x =>
      change [OptionTag.OptionSome.code] ++ enc x <+: c.buffer at hx
      obtain ⟨htag, hx⟩ := append_prefix.mp hx
      refine ⟨.OptionSome, htag, ((hr.map some) _ _ _).mpr ⟨x, hx, rfl, ?_⟩⟩
      rw [Cursor.advance_advance, Nat.add_comm]
      rfl

/-- The bytes of a string whose length fits in a `size_t`. The length in the data has
eight bytes, of which the upper four have to be zero. -/
structure Seed where
  bytes : List UInt8
  fits : bytes.length ≤ SIZE_MAX
deriving DecidableEq

/-- The length in eight bytes, and the string. -/
def Seed.encode (seed : Seed) : List UInt8 := little_endian 8 seed.bytes.length ++ seed.bytes

/-- A seed takes eight bytes more than its text. -/
theorem Seed.encode_length (seed : Seed) : seed.encode.length = 8 + seed.bytes.length := by
  rw [Seed.encode, List.length_append, little_endian_length]

/-- A check that passes leaves the parser where it is. -/
theorem bail_if_eq_some {condition : Bool} {c d : Parser} {u : Unit} :
    bail_if condition c = some (u, d) ↔ condition = false ∧ d = c := by
  cases condition with
  | true => exact ⟨nofun, fun h => Bool.noConfusion h.1⟩
  | false =>
    constructor
    · intro h
      cases h
      exact ⟨rfl, rfl⟩
    · rintro ⟨-, rfl⟩
      rfl

/-- What is written of the string is pointed to, behind the eight bytes of its length. A
length that runs beyond the data, or beyond a `size_t`, is refused. -/
theorem reads_as_seed :
    ReadsAs parse_sized_string Seed.encode fun addr seed => ⟨addr + 8, seed.bytes⟩ := by
  intro c string d
  rw [parse_sized_string, reads_as_u64.bind_iff]
  constructor
  · rintro ⟨u64, hwritten, h⟩
    obtain ⟨u, c', hbail, h⟩ := bind_eq_some.mp h
    obtain ⟨hfits, rfl⟩ := bail_if_eq_some.mp hbail
    obtain ⟨hlen, h⟩ := check_bind_eq_some.mp h
    cases h
    have hlength : ((c.buffer.drop 8).take u64.toNat).length = u64.toNat :=
      List.length_take_of_le hlen
    refine ⟨⟨(c.buffer.drop 8).take u64.toNat, ?_⟩, ?_, rfl, ?_⟩
    · rw [hlength]
      exact Nat.not_lt.mp (of_decide_eq_false hfits)
    · rw [encode_u64, ← hlength] at hwritten
      refine append_prefix.mpr ⟨hwritten, ?_⟩
      rw [little_endian_length]
      exact List.take_prefix _ _
    · rw [Seed.encode_length, ← Cursor.advance_advance, hlength]
      rfl
  · rintro ⟨seed, hwritten, rfl, rfl⟩
    rw [Seed.encode, append_prefix, little_endian_length] at hwritten
    obtain ⟨hlength, hbytes⟩ := hwritten
    have hlt : seed.bytes.length < 2 ^ 64 := Nat.lt_of_le_of_lt seed.fits (by decide)
    have hu64 : (UInt64.ofNat seed.bytes.length).toNat = seed.bytes.length := by
      rw [UInt64.toNat_ofNat', Nat.mod_eq_of_lt hlt]
    have hfits : decide ((UInt64.ofNat seed.bytes.length).toNat > SIZE_MAX) = false := by
      rw [hu64]
      exact decide_eq_false (Nat.not_lt.mpr seed.fits)
    have htake : (c.buffer.drop 8).take seed.bytes.length = seed.bytes :=
      (List.prefix_iff_eq_take.mp hbytes).symm
    rw [← hu64] at hlength
    refine ⟨UInt64.ofNat seed.bytes.length, hlength, ?_⟩
    refine bind_eq_some.mpr ⟨(), c.advance 8, bail_if_eq_some.mpr ⟨hfits, rfl⟩, ?_⟩
    rw [hu64]
    refine check_bind_eq_some.mpr ⟨hbytes.length_le, ?_⟩
    change some (Cursor.mk (c.addr + 8) ((c.buffer.drop 8).take seed.bytes.length),
      (c.advance 8).advance seed.bytes.length) = _
    rw [htake, Cursor.advance_advance, ← Seed.encode_length]

/-! ## What is accepted -/

/-- The accounts that the iterator comes to. Their number is counted in a byte, so of
256 or more only what the byte leaves is seen, from the first one on. -/
def Instruction.seen (instruction : Instruction) : List UInt8 :=
  instruction.accounts.take instruction.walked

section Accepts

variable {header : MessageHeader} {instruction : Instruction} {α β γ : Type} {n : ℕ} {c : Parser}
  {a : α} {b : β}

/-- On the accounts from the `n`th one on, and the data at `c`, the function returns
`a`. The rules for it are equivalences, so that a parse function is turned into its
layout by rewriting. -/
def Accepts (header : MessageHeader) (instruction : Instruction) (n : ℕ) (p : InstructionM α)
    (c : Parser) (a : α) : Prop :=
  ∃ it d, p (account_walk header instruction n) c = some ((a, it), d)

/-- What returns at once is accepted, with its value. -/
@[simp] theorem accepts_pure {a' : α} : Accepts header instruction n (pure a') c a ↔ a = a' := by
  constructor
  · rintro ⟨it, d, h⟩
    cases h
    rfl
  · rintro rfl
    exact ⟨_, _, rfl⟩

/-- A line that fails accepts nothing. -/
@[simp] theorem not_accepts_bail : ¬ Accepts header instruction n (liftM (bail : ParserM α)) c a :=
  nofun

/-- A sequence is accepted when its first part ends somewhere from which the rest is.
The rules for single steps below say where. -/
theorem accepts_bind {p : InstructionM α} {f : α → InstructionM β} :
    Accepts header instruction n (p >>= f) c b ↔
      ∃ a it c', p (account_walk header instruction n) c = some ((a, it), c') ∧
        ∃ it' d, f a it c' = some ((b, it'), d) := by
  constructor
  · rintro ⟨it', d, h⟩
    obtain ⟨a, it, c', hp, hf⟩ := instruction_bind_eq_some.mp h
    exact ⟨a, it, c', hp, it', d, hf⟩
  · rintro ⟨a, it, c', hp, it', d, hf⟩
    exact ⟨it', d, instruction_bind_eq_some.mpr ⟨a, it, c', hp, hf⟩⟩

/-- The walk goes on with the next of the accounts it can see. -/
theorem walk_next_eq :
    instruction_accounts_iterator_next (account_walk header instruction n) =
      instruction.seen[n]?.map fun i =>
        (header.account i, account_walk header instruction (n + 1)) := by
  rw [account_walk_next, Instruction.seen, List.getElem?_take]
  split
  · rename_i hn
    have hinside := Nat.lt_of_lt_of_le hn instruction.walked_le
    rw [List.getElem?_eq_getElem hinside, List.getD_eq_getElem _ _ hinside]
    rfl
  · rfl

/-- Taking an account asks for one that can be seen, and goes on with its key. -/
@[simp] theorem accepts_next_account {f : PubkeyRef → InstructionM β} :
    Accepts header instruction n (next_account >>= f) c b ↔
      ∃ i, instruction.seen[n]? = some i ∧
        Accepts header instruction (n + 1) (f (header.account i)) c b := by
  rw [accepts_bind, next_account, walk_next_eq]
  cases instruction.seen[n]? with
  | none =>
    constructor
    · rintro ⟨_, _, _, hrun, _⟩
      cases hrun
    · rintro ⟨_, hi, _⟩
      cases hi
  | some i =>
    constructor
    · rintro ⟨account, it, c', hrun, hrest⟩
      cases hrun
      exact ⟨i, rfl, hrest⟩
    · rintro ⟨j, hj, hrest⟩
      cases hj
      exact ⟨_, _, _, rfl, hrest⟩

/-- Skipping an account asks for one that can be seen. -/
@[simp] theorem accepts_skip_account {f : Unit → InstructionM β} :
    Accepts header instruction n (skip_account >>= f) c b ↔
      ∃ i, instruction.seen[n]? = some i ∧
        Accepts header instruction (n + 1) (f ()) c b := by
  rw [skip_account, bind_assoc, accepts_next_account]
  rfl

/-- A missing account leaves the iterator at the end. -/
@[simp] theorem accepts_optional_account {f : Option PubkeyRef → InstructionM β} :
    Accepts header instruction n (optional_account >>= f) c b ↔
      Accepts header instruction (n + 1) (f (instruction.seen[n]?.map header.account)) c b := by
  have hstay : instruction.seen[n]? = none →
      account_walk header instruction n = account_walk header instruction (n + 1) := by
    intro hnone
    rw [account_walk, account_walk, after]
    have hnext := @walk_next_eq header instruction n
    rw [hnone, account_walk] at hnext
    rw [hnext]
    rfl
  rw [accepts_bind, optional_account, walk_next_eq]
  cases hseen : instruction.seen[n]? with
  | none =>
    constructor
    · rintro ⟨account, it, c', hrun, hrest⟩
      cases hrun
      rwa [Accepts, ← hstay hseen]
    · intro hrest
      rw [Accepts, ← hstay hseen] at hrest
      exact ⟨_, _, _, rfl, hrest⟩
  | some i =>
    constructor
    · rintro ⟨account, it, c', hrun, hrest⟩
      cases hrun
      exact hrest
    · intro hrest
      exact ⟨_, _, _, rfl, hrest⟩

/-- As many accounts can be seen as the length byte says. -/
theorem Instruction.seen_length (instruction : Instruction) :
    instruction.seen.length = instruction.walked :=
  List.length_take_of_le instruction.walked_le

/-- The number of accounts left is that of those still to be seen. -/
@[simp] theorem accepts_remaining_accounts {f : ℕ → InstructionM β} :
    Accepts header instruction n (remaining_accounts >>= f) c b ↔
      Accepts header instruction n (f (instruction.seen.drop n).length) c b := by
  rw [List.length_drop, instruction.seen_length, ← account_walk_left header]
  exact Iff.rfl

/-- A check in between has to pass. -/
@[simp] theorem accepts_bail_if {condition : Bool} {f : Unit → InstructionM β} :
    Accepts header instruction n (liftM (bail_if condition) >>= f) c b ↔
      condition = false ∧ Accepts header instruction n (f ()) c b := by
  cases condition with
  | true => exact ⟨nofun, fun h => Bool.noConfusion h.1⟩
  | false => exact (and_iff_right rfl).symm

/-- A field of the data. -/
theorem accepts_field {r : ParserM α} {f : α → InstructionM β} {enc : γ → List UInt8}
    {val : ℕ → γ → α} (hr : ReadsAs r enc val) :
    Accepts header instruction n (liftM r >>= f) c b ↔
      ∃ x, enc x <+: c.buffer ∧
        Accepts header instruction n (f (val c.addr x)) (c.advance (enc x).length) b := by
  rw [accepts_bind]
  constructor
  · rintro ⟨a, it, d, hrun, hrest⟩
    obtain ⟨hread, rfl⟩ := instruction_lift_eq_some.mp hrun
    obtain ⟨x, hwritten, rfl, rfl⟩ := (hr _ _ _).mp hread
    exact ⟨x, hwritten, hrest⟩
  · rintro ⟨x, hwritten, hrest⟩
    have hread := (hr c _ _).mpr ⟨x, hwritten, rfl, rfl⟩
    exact ⟨_, _, _, instruction_lift_eq_some.mpr ⟨hread, rfl⟩, hrest⟩

/-- A byte of the data comes next. -/
@[simp] theorem accepts_u8 {f : UInt8 → InstructionM β} :
    Accepts header instruction n (liftM parse_u8 >>= f) c b ↔
      ∃ u8, [u8] <+: c.buffer ∧ Accepts header instruction n (f u8) (c.advance 1) b :=
  accepts_field reads_as_u8

/-- A number of eight bytes comes next. -/
@[simp] theorem accepts_u64 {f : UInt64 → InstructionM β} :
    Accepts header instruction n (liftM parse_u64 >>= f) c b ↔
      ∃ u64, encode_u64 u64 <+: c.buffer ∧
        Accepts header instruction n (f u64) (c.advance 8) b :=
  accepts_field reads_as_u64

/-- A signed number of eight bytes comes next. -/
@[simp] theorem accepts_i64 {f : Int64 → InstructionM β} :
    Accepts header instruction n (liftM parse_i64 >>= f) c b ↔
      ∃ i64, encode_i64 i64 <+: c.buffer ∧
        Accepts header instruction n (f i64) (c.advance 8) b :=
  accepts_field reads_as_i64

/-- A key comes next, and the rest goes on with a reference to where it lies. -/
@[simp] theorem accepts_pubkey {f : PubkeyRef → InstructionM β} :
    Accepts header instruction n (liftM parse_pubkey >>= f) c b ↔
      ∃ key : Pubkey, key.data <+: c.buffer ∧
        Accepts header instruction n (f ⟨c.addr, key⟩) (c.advance key.data.length) b :=
  accepts_field reads_as_pubkey

/-- A seed comes next; the reference points behind its length. -/
@[simp] theorem accepts_sized_string {f : SizedString → InstructionM β} :
    Accepts header instruction n (liftM parse_sized_string >>= f) c b ↔
      ∃ seed : Seed, seed.encode <+: c.buffer ∧
        Accepts header instruction n (f ⟨c.addr + 8, seed.bytes⟩) (c.advance seed.encode.length)
          b :=
  accepts_field reads_as_seed

/-- From the first account on. -/
@[simp] theorem with_accounts_iff {p : InstructionM α} :
    (∃ d, with_accounts instruction header p c = some (a, d)) ↔
      Accepts header instruction 0 p c a := by
  constructor
  · rintro ⟨d, h⟩
    obtain ⟨⟨a', it⟩, hrun, rfl⟩ := map_eq_some.mp h
    exact ⟨it, d, hrun⟩
  · rintro ⟨it, d, hrun⟩
    exact ⟨d, map_eq_some.mpr ⟨(a, it), hrun, rfl⟩⟩

/-- What is read behind the tag is the info of the instruction. -/
theorem returns_info_iff {r : ParserM α} {f : α → β} :
    (∃ d, (r >>= fun a => pure (f a)) c = some (b, d)) ↔
      ∃ a, (∃ d, r c = some (a, d)) ∧ b = f a := by
  constructor
  · rintro ⟨d, h⟩
    obtain ⟨a, d', hr, hpure⟩ := bind_eq_some.mp h
    cases hpure
    exact ⟨a, ⟨d, hr⟩, rfl⟩
  · rintro ⟨a, ⟨d, hr⟩, rfl⟩
    exact ⟨d, bind_eq_some.mpr ⟨a, d, hr, rfl⟩⟩

end Accepts

end RenecLedger
