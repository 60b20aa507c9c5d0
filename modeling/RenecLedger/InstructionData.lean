/-
Reading an instruction: its data from the front, its accounts in order.

A parse function of a program walks two lists at once. `Runs` says what it makes of them: from the
accounts that are left and a position in the data to those after it, with the value in between.
`NeedsData` is about the data alone, whatever the accounts are: which bytes the function reads, and
that it fails on less. Both have one rule for each primitive, so a parse function is followed line
by line.
-/
import Mathlib.Data.List.GetD
import RenecLedger.Accounts
import RenecLedger.Encoding

set_option autoImplicit false

open ReaderLib

namespace RenecLedger

/-! ## The fields of the data -/

/-- The lowest bytes of a number, the least significant one first. What does not fit in
them is cut off, so that every number has an encoding of every size. -/
def little_endian : ℕ → ℕ → List UInt8
  | 0, _ => []
  | size + 1, n => UInt8.ofNat n :: little_endian size (n / 256)

/-- A key behind a tag byte, or the tag of a missing one. The tag takes a single byte,
as `parse_option` reads it. -/
def encode_option (key : Option Pubkey) : List UInt8 :=
  match key with
  | none => [0]
  | some key => 1 :: key.data

/-- Two bytes, the lower first, are read as the number they are the lowest bytes of. The
two halves do not overlap, so the sum is their value. -/
theorem reads_u16 (n : ℕ) : Reads parse_u16 (little_endian 2 n) (·.toNat = n % 2 ^ 16) := by
  refine reads_u8_bind (reads_u8_bind (Reads.pure ?_))
  have hlower : (UInt8.ofNat n).toUInt16.toNat = n % 256 := by
    rw [UInt8.toNat_toUInt16, UInt8.toNat_ofNat']
  have hupper : (UInt8.ofNat (n / 256)).toUInt16.toNat = n / 256 % 256 := by
    rw [UInt8.toNat_toUInt16, UInt8.toNat_ofNat']
  rw [UInt16.toNat_add, UInt16.toNat_shiftLeft, hlower, hupper]
  change (n % 256 + (n / 256 % 256) <<< 8 % 2 ^ 16) % 2 ^ 16 = _
  rw [Nat.shiftLeft_eq]
  omega

/-- Four bytes are two numbers of two bytes, the lower first: the wider parse functions
are made of the narrower ones, and so are their proofs. -/
theorem reads_u32 (n : ℕ) : Reads parse_u32 (little_endian 4 n) (·.toNat = n % 2 ^ 32) := by
  refine Reads.bind (reads_u16 n) fun lower hlower => ?_
  refine Reads.bind_nil (reads_u16 (n / 256 / 256)) fun upper hupper => Reads.pure ?_
  rw [UInt32.toNat_add, UInt32.toNat_shiftLeft, UInt16.toNat_toUInt32, UInt16.toNat_toUInt32,
    hlower, hupper]
  change (n % 2 ^ 16 + (n / 256 / 256 % 2 ^ 16) <<< 16 % 2 ^ 32) % 2 ^ 32 = _
  rw [Nat.shiftLeft_eq]
  omega

/-- A check that succeeds reads nothing. -/
theorem reads_check {α : Type} {r : ParserM α} {n : ℕ} {bs : List UInt8} {P : α → Prop}
    (hn : n ≤ bs.length) (h : Reads r bs P) :
    Reads (check_buffer_length n >>= fun _ => r) bs P := by
  intro addr rest
  have hroom : n ≤ (bs ++ rest).length := by
    rw [List.length_append]
    omega
  rw [check_bind hroom]
  exact h addr rest

/-- Eight bytes are two numbers of four bytes. The check of the length comes first, so
that no half is read when the other is missing. -/
theorem reads_u64 (u64 : UInt64) : Reads parse_u64 (little_endian 8 u64.toNat) (· = u64) := by
  refine reads_check (Nat.le_of_eq rfl) ?_
  refine Reads.bind (reads_u32 u64.toNat) fun lower hlower => ?_
  refine Reads.bind_nil (reads_u32 (u64.toNat / 256 / 256 / 256 / 256)) fun upper hupper =>
    Reads.pure ?_
  have hlt := u64.toNat_lt
  apply UInt64.toNat_inj.mp
  rw [UInt64.toNat_add, UInt64.toNat_shiftLeft, UInt32.toNat_toUInt64, UInt32.toNat_toUInt64,
    hlower, hupper]
  change (u64.toNat % 2 ^ 32 + (u64.toNat / 256 / 256 / 256 / 256 % 2 ^ 32) <<< 32 % 2 ^ 64) %
    2 ^ 64 = _
  rw [Nat.shiftLeft_eq]
  omega

/-! ## What is needed of them -/

/-- A check that asks for more than there is ends the parse function, whatever would
follow. It is how every parse function fails on data that is cut off. -/
theorem check_fails {α : Type} {n : ℕ} {f : Unit → ParserM α} {c : Parser}
    (h : c.buffer.length < n) : (check_buffer_length n >>= f) c = none := by
  rw [bind_run, check_buffer_length, if_pos h, Option.bind_none]

/-- What is cut off at the front of a list is shorter than the list. -/
theorem take_length_lt {bs : List UInt8} {n : ℕ} (h : n < bs.length) :
    (bs.take n).length < bs.length := by
  rw [List.length_take]
  omega

/-- A byte is needed, and no more than it. -/
theorem needs_u8 (b : UInt8) : Needs parse_u8 [b] (· = b) :=
  Needs.of_reads (reads_u8 b) fun _ _ hn => check_fails (take_length_lt hn)

/-- Eight bytes are needed: any fewer fail the check, which comes before the first byte
is read. -/
theorem needs_u64 (u64 : UInt64) : Needs parse_u64 (little_endian 8 u64.toNat) (· = u64) :=
  Needs.of_reads (reads_u64 u64) fun _ _ hn => check_fails (take_length_lt hn)

/-- Thirty-two bytes are read as the key they are. In C nothing is copied: the result
points into the message, and its address is where the key lies. -/
theorem reads_pubkey (key : Pubkey) : Reads parse_pubkey key.data (·.key = key) :=
  reads_block key.size fun _ rest => Pubkey.read_append key rest

/-- All the bytes of a key are needed. -/
theorem needs_pubkey (key : Pubkey) : Needs parse_pubkey key.data (·.key = key) := by
  refine Needs.of_reads (reads_pubkey key) fun _ _ hn => check_fails ?_
  rw [← key.size]
  exact take_length_lt hn

/-- Reading one byte and going on. -/
theorem needs_u8_bind {γ : Type} {f : UInt8 → ParserM γ} {b : UInt8} {bs : List UInt8}
    {P : γ → Prop} (h : Needs (f b) bs P) : Needs (parse_u8 >>= f) (b :: bs) P := by
  refine Needs.bind (needs_u8 b) fun a ha => ?_
  rw [ha]
  exact h

/-- The tag of a missing value is one byte. -/
theorem needs_option_none : Needs parse_option [0] (· = .OptionNone) :=
  needs_u8_bind (Needs.pure rfl)

/-- The tag of a value that follows is one byte. -/
theorem needs_option_some : Needs parse_option [1] (· = .OptionSome) :=
  needs_u8_bind (Needs.pure rfl)

/-- A tag that says whether a key follows. On data that ends in the tag or in the key
the function fails; it never takes a cut-off key for a missing one. -/
theorem needs_optional_pubkey (key : Option Pubkey) :
    Needs (parse_optional parse_pubkey) (encode_option key) fun _ => True := by
  cases key with
  | none =>
    refine Needs.bind_nil needs_option_none fun tag htag => ?_
    rw [htag]
    exact Needs.pure trivial
  | some key =>
    change Needs _ ([1] ++ key.data) _
    refine Needs.bind needs_option_some fun tag htag => ?_
    rw [htag]
    exact Needs.bind_nil (needs_pubkey key) fun _ _ => Needs.pure trivial

/-! ## Where they lie -/

/-- The parser moves on by one byte. -/
theorem parse_u8_run (b : UInt8) (addr : ℕ) (rest : List UInt8) :
    parse_u8 ⟨addr, b :: rest⟩ = some (b, ⟨addr + 1, rest⟩) := rfl

/-- The parser moves on by eight bytes, wherever it stands. -/
theorem parse_u64_run (u64 : UInt64) (addr : ℕ) (rest : List UInt8) :
    parse_u64 ⟨addr, little_endian 8 u64.toNat ++ rest⟩ = some (u64, ⟨addr + 8, rest⟩) := by
  obtain ⟨value, hrun, rfl⟩ := reads_u64 u64 addr rest
  exact hrun

/-- The reference keeps the address at which the key lies. -/
theorem parse_pubkey_run (key : Pubkey) (addr : ℕ) (rest : List UInt8) :
    parse_pubkey ⟨addr, key.data ++ rest⟩ = some (⟨addr, key⟩, ⟨addr + PUBKEY_SIZE, rest⟩) := by
  have hroom : PUBKEY_SIZE ≤ (key.data ++ rest).length := by
    rw [List.length_append, key.size]
    exact Nat.le_add_right _ _
  rw [parse_pubkey, check_bind hroom]
  change some (PubkeyRef.mk addr (Pubkey.read (key.data ++ rest)),
    Cursor.mk (addr + PUBKEY_SIZE) ((key.data ++ rest).drop PUBKEY_SIZE)) = _
  rw [Pubkey.read_append, ← key.size, List.drop_left]

/-- A key behind its option tag. -/
theorem parse_optional_pubkey_run (key : Option Pubkey) (addr : ℕ) (rest : List UInt8) :
    parse_optional parse_pubkey ⟨addr, encode_option key ++ rest⟩ =
      some (key.map fun key => ⟨addr + 1, key⟩,
        ⟨addr + (encode_option key).length, rest⟩) := by
  cases key with
  | none => rfl
  | some key =>
    change (parse_pubkey >>= fun ref => pure (some ref) : ParserM (Option PubkeyRef))
      ⟨addr + 1, key.data ++ rest⟩ = _
    rw [bind_run, parse_pubkey_run, Option.bind_some, encode_option, List.length_cons, key.size]
    change some (some _, Cursor.mk (addr + 1 + PUBKEY_SIZE) rest) = _
    rw [Nat.add_assoc, Nat.add_comm 1]
    rfl

/-! ## The accounts -/

/-- The iterator has these accounts of the table left. It counts in a byte, so that this
can be said of a fresh iterator only when there are fewer than 256. -/
structure InstructionAccountsIterator.Has (it : InstructionAccountsIterator)
    (pubkeys : PubkeyTable) (accounts : List UInt8) : Prop where
  pubkeys : it.message_header_pubkeys = pubkeys
  length : it.instruction_accounts_length.toNat = it.instruction_accounts.length
  left : it.instruction_accounts.drop it.current_instruction_account = accounts

/-- Fewer than 256 accounts can be counted in a byte, and then a fresh iterator has all
of them left. -/
theorem has_init (header : MessageHeader) {instruction : Instruction}
    (h : instruction.accounts.length < 256) :
    (instruction_accounts_iterator_init header instruction).Has header.pubkeys
      instruction.accounts where
  pubkeys := rfl
  length := by
    rw [instruction_accounts_iterator_init, UInt8.toNat_ofNat', Nat.mod_eq_of_lt h]
  left := List.drop_zero

/-- As many accounts remain as are left. -/
theorem iterator_remaining {it : InstructionAccountsIterator} {pubkeys : PubkeyTable}
    {accounts : List UInt8} (h : it.Has pubkeys accounts) :
    instruction_accounts_iterator_remaining it = accounts.length := by
  rw [instruction_accounts_iterator_remaining, h.length, ← h.left, List.length_drop]
  split <;> omega

/-- The next account is the first of those left. Its key is looked up in the table
without a check of the index, which `instruction_validate` has made before. -/
theorem iterator_next {it : InstructionAccountsIterator} {pubkeys : PubkeyTable} {i : UInt8}
    {accounts : List UInt8} (h : it.Has pubkeys (i :: accounts)) :
    ∃ it', instruction_accounts_iterator_next it = some (pubkeys.at_index i.toNat, it') ∧
      it'.Has pubkeys accounts := by
  have hlen := congrArg List.length h.left
  rw [List.length_drop, List.length_cons] at hlen
  have hinside : it.current_instruction_account < it.instruction_accounts.length := by omega
  have hsplit := List.drop_eq_getElem_cons hinside
  rw [h.left, List.cons.injEq] at hsplit
  obtain ⟨hi, htail⟩ := hsplit
  refine ⟨{ it with current_instruction_account := it.current_instruction_account + 1 }, ?_,
    ⟨h.pubkeys, h.length, htail.symm⟩⟩
  rw [instruction_accounts_iterator_next, if_pos (by rw [h.length]; exact hinside), h.pubkeys,
    List.getD_eq_getElem _ _ hinside, ← hi]

/-! ## Running a parse function -/

variable {α β : Type} {pubkeys : PubkeyTable}

/-- With these accounts left and the data at `c`, the function returns `a`, and leaves
the accounts `accounts'` and the data at `c'`. It is a triple for the two inputs of an
instruction at once. -/
def Runs (pubkeys : PubkeyTable) (p : InstructionM α) (accounts : List UInt8) (c : Parser)
    (a : α) (accounts' : List UInt8) (c' : Parser) : Prop :=
  ∀ it, it.Has pubkeys accounts →
    ∃ it', p it c = some ((a, it'), c') ∧ it'.Has pubkeys accounts'

section Rules

variable {accounts accounts' accounts'' : List UInt8} {c c' c'' : Parser}

/-- Returning leaves the accounts and the data alone. -/
theorem runs_pure (a : α) : Runs pubkeys (pure a) accounts c a accounts c :=
  fun it h => ⟨it, rfl, h⟩

/-- A sequence begins where its first part ended, in the accounts as in the data. The
parse functions interleave the two, and so do the triples. -/
theorem runs_bind {p : InstructionM α} {f : α → InstructionM β} {a : α} {b : β}
    (hp : Runs pubkeys p accounts c a accounts' c')
    (hf : Runs pubkeys (f a) accounts' c' b accounts'' c'') :
    Runs pubkeys (p >>= f) accounts c b accounts'' c'' := by
  intro it h
  obtain ⟨it', hrun, h'⟩ := hp it h
  obtain ⟨it'', hrun', h''⟩ := hf it' h'
  refine ⟨it'', ?_, h''⟩
  change (p it >>= fun x => f x.1 x.2) c = _
  rw [bind_run, hrun]
  exact hrun'

/-- A step of the data. -/
theorem runs_data {r : ParserM α} {a : α} (h : r c = some (a, c')) :
    Runs pubkeys (liftM r) accounts c a accounts c' := by
  intro it hit
  refine ⟨it, ?_, hit⟩
  change (r >>= fun a => pure (a, it)) c = _
  rw [bind_run, h]
  rfl

/-- Taking an account uses up one index and none of the data. -/
theorem runs_next_account (i : UInt8) :
    Runs pubkeys next_account (i :: accounts) c (pubkeys.at_index i.toNat) accounts c := by
  intro it h
  obtain ⟨it', hnext, h'⟩ := iterator_next h
  refine ⟨it', ?_, h'⟩
  rw [next_account, hnext]
  rfl

/-- Skipping an account uses up its index, and the key is dropped. -/
theorem runs_skip_account (i : UInt8) :
    Runs pubkeys skip_account (i :: accounts) c () accounts c :=
  runs_bind (runs_next_account i) (runs_pure ())

/-- Asking how many accounts remain takes none of them. -/
theorem runs_remaining_accounts :
    Runs pubkeys remaining_accounts accounts c accounts.length accounts c := by
  intro it h
  refine ⟨it, ?_, h⟩
  rw [← iterator_remaining h]
  rfl

/-- A check that does not fail. -/
theorem runs_bail_if {condition : Bool} (h : condition = false) :
    Runs pubkeys (liftM (bail_if condition)) accounts c () accounts c := by
  refine runs_data ?_
  rw [h]
  rfl

/-- With these accounts left and the data at `c`, the function returns `a`. Where it
ends is left open: the callers do not look at it. -/
def Returns (pubkeys : PubkeyTable) (p : InstructionM α) (accounts : List UInt8) (c : Parser)
    (a : α) : Prop :=
  ∃ accounts' c', Runs pubkeys p accounts c a accounts' c'

/-- A function that returns at once returns what it says. -/
theorem returns_pure (a : α) : Returns pubkeys (pure a) accounts c a :=
  ⟨accounts, c, runs_pure a⟩

/-- Where a function ends matters to what follows it, but not to the caller of the
whole. -/
theorem returns_bind {p : InstructionM α} {f : α → InstructionM β} {a : α} {b : β}
    (hp : Runs pubkeys p accounts c a accounts' c')
    (hf : Returns pubkeys (f a) accounts' c' b) : Returns pubkeys (p >>= f) accounts c b := by
  obtain ⟨accounts'', c'', hrun⟩ := hf
  exact ⟨accounts'', c'', runs_bind hp hrun⟩

/-- The rest goes on with the account's key. -/
theorem returns_next_account {f : PubkeyRef → InstructionM β} {i : UInt8} {b : β}
    (h : Returns pubkeys (f (pubkeys.at_index i.toNat)) accounts c b) :
    Returns pubkeys (next_account >>= f) (i :: accounts) c b :=
  returns_bind (runs_next_account i) h

/-- The rest goes on without the account. -/
theorem returns_skip_account {f : Unit → InstructionM β} {i : UInt8} {b : β}
    (h : Returns pubkeys (f ()) accounts c b) :
    Returns pubkeys (skip_account >>= f) (i :: accounts) c b :=
  returns_bind (runs_skip_account i) h

/-- From a fresh iterator. The bound on the accounts is that of the byte it counts in. -/
theorem returns_with_accounts {header : MessageHeader} {instruction : Instruction}
    {p : InstructionM α} {a : α} (hlen : instruction.accounts.length < 256)
    (h : Returns header.pubkeys p instruction.accounts c a) :
    ∃ d, with_accounts instruction header p c = some (a, d) := by
  obtain ⟨accounts', d, hrun⟩ := h
  obtain ⟨it, hrun, -⟩ := hrun _ (has_init header hlen)
  refine ⟨d, ?_⟩
  change (Prod.fst <$> p (instruction_accounts_iterator_init header instruction)) c = _
  rw [← bind_pure_comp, bind_run, hrun]
  rfl

end Rules

/-! ## What a parse function needs -/

/-- Whatever accounts there are, the function reads just `bs` of the data, and fails on
less. It may fail for want of accounts too, so nothing is said about success. -/
def NeedsData (p : InstructionM α) (bs : List UInt8) : Prop :=
  ∀ it, Needs (p it) bs fun _ => True

/-- Returning reads nothing. -/
theorem needs_data_pure (a : α) : NeedsData (pure a) [] := fun _ => Needs.pure trivial

/-- A sequence needs what its parts need, one after the other: data that ends in the
second part has let the first one pass, and fails then. -/
theorem needs_data_bind {p : InstructionM α} {f : α → InstructionM β} {bs cs : List UInt8}
    (hp : NeedsData p bs) (hf : ∀ a, NeedsData (f a) cs) : NeedsData (p >>= f) (bs ++ cs) :=
  fun it => Needs.bind (hp it) fun x _ => hf x.1 x.2

/-- What reads nothing, such as the walk over the accounts, may come first. -/
theorem needs_data_nil_bind {p : InstructionM α} {f : α → InstructionM β} {bs : List UInt8}
    (hp : NeedsData p []) (hf : ∀ a, NeedsData (f a) bs) : NeedsData (p >>= f) bs :=
  needs_data_bind hp hf

/-- What reads nothing more may follow. -/
theorem needs_data_bind_nil {p : InstructionM α} {f : α → InstructionM β} {bs : List UInt8}
    (hp : NeedsData p bs) (hf : ∀ a, NeedsData (f a) []) : NeedsData (p >>= f) bs := by
  have h := needs_data_bind hp hf
  rwa [List.append_nil] at h

/-- A step of the data needs what its parser does, whatever the accounts. -/
theorem needs_data_of_needs {r : ParserM α} {bs : List UInt8} {P : α → Prop}
    (h : Needs r bs P) : NeedsData (liftM r) bs :=
  fun it => Needs.bind_nil (f := fun a => pure (a, it)) h fun _ _ => Needs.pure trivial

/-- One byte is needed, and then what the rest needs. -/
theorem needs_data_u8_bind {f : UInt8 → InstructionM β} {b : UInt8} {bs : List UInt8}
    (hf : ∀ a, NeedsData (f a) bs) : NeedsData (liftM parse_u8 >>= f) (b :: bs) :=
  needs_data_bind (needs_data_of_needs (needs_u8 b)) hf

/-- The walk over the accounts reads nothing of the data. When no account is left it
fails, which is allowed of any data, since failing is what cut-off data should lead to. -/
theorem needs_data_next_account : NeedsData next_account [] := by
  intro it
  rw [next_account]
  cases instruction_accounts_iterator_next it with
  | none => exact Needs.of_fails (fun _ => rfl) _ _
  | some next => exact Needs.pure trivial

/-- Taking an account first changes nothing about the data. -/
theorem needs_data_account_bind {f : PubkeyRef → InstructionM β} {bs : List UInt8}
    (hf : ∀ a, NeedsData (f a) bs) : NeedsData (next_account >>= f) bs :=
  needs_data_nil_bind needs_data_next_account hf

/-- Skipping an account first changes nothing about the data. -/
theorem needs_data_skip_bind {f : Unit → InstructionM β} {bs : List UInt8}
    (hf : NeedsData (f ()) bs) : NeedsData (skip_account >>= f) bs :=
  needs_data_nil_bind (needs_data_account_bind fun _ => needs_data_pure ()) fun _ => hf

/-- Counting the accounts reads nothing of the data. -/
theorem needs_data_remaining_accounts : NeedsData remaining_accounts [] :=
  fun _ => Needs.pure trivial

/-- A check of the accounts reads nothing of the data. -/
theorem needs_data_bail_if (condition : Bool) : NeedsData (liftM (bail_if condition)) [] := by
  cases condition with
  | true => exact needs_data_of_needs (Needs.of_fails (fun _ => rfl) _ fun _ => True)
  | false => exact needs_data_of_needs (Needs.pure (P := fun _ => True) trivial)

/-- A parse function, from its own iterator, needs what its body needs. -/
theorem needs_with_accounts {p : InstructionM α} {bs : List UInt8} (h : NeedsData p bs)
    (instruction : Instruction) (header : MessageHeader) :
    Needs (with_accounts instruction header p) bs fun _ => True := by
  rw [with_accounts, StateT.run', ← bind_pure_comp]
  exact Needs.bind_nil (h _) fun _ _ => Needs.pure trivial

end RenecLedger
