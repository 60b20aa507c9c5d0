/-
Walking the accounts of an instruction to the end.

The iterator counts the accounts in one byte, the instruction in a `size_t`. Its calls return the
first `accounts_length % 256` accounts; these are all of them exactly when there are fewer than
256.
-/
import Mathlib.Data.List.GetD
import RenecLedger.Instruction
import RenecLedger.Lib.Iterator

set_option autoImplicit false

open ReaderLib IteratorLib

namespace RenecLedger

/-- Where an index into the table of a header points. -/
def MessageHeader.account (header : MessageHeader) (i : UInt8) : PubkeyRef :=
  header.pubkeys.at_index i.toNat

/-- `n` accounts, or as many as there are, of an instruction have been taken. -/
def account_walk (header : MessageHeader) (instruction : Instruction) (n : ℕ) :
    InstructionAccountsIterator :=
  after instruction_accounts_iterator_next
    (instruction_accounts_iterator_init header instruction) n

/-- The successive calls of `instruction_accounts_iterator_next` on a fresh iterator, and
`instruction_accounts_iterator_remaining` between them. -/
structure VisitsAllAccounts (header : MessageHeader) (instruction : Instruction) : Prop where
  yields : Yields instruction_accounts_iterator_next
    (instruction_accounts_iterator_init header instruction)
    (instruction.accounts.map header.account)
  in_table : ∀ n,
    (instruction_accounts_iterator_next (account_walk header instruction n)).isSome →
      ∃ pubkeys_index,
        (account_walk header instruction n).instruction_accounts[(account_walk header instruction
          n).current_instruction_account]? = some pubkeys_index ∧
        pubkeys_index.toNat < header.pubkeys_header.pubkeys_length
  remaining : ∀ n,
    instruction_accounts_iterator_remaining (account_walk header instruction n) +
      successes instruction_accounts_iterator_next
        (instruction_accounts_iterator_init header instruction) n = instruction.accounts.length

/-- What the iterator's one byte makes of the number of accounts. -/
def Instruction.walked (instruction : Instruction) : ℕ := instruction.accounts.length % 256

section Walk

variable (header : MessageHeader) (instruction : Instruction)

theorem Instruction.walked_le : instruction.walked ≤ instruction.accounts.length :=
  Nat.mod_le _ _

theorem iterator_length :
    (instruction_accounts_iterator_init header instruction).instruction_accounts_length.toNat =
      instruction.walked :=
  UInt8.toNat_ofNat'

/-! ## The calls -/

/-- Only the position moves, and it stops at the end. -/
theorem account_walk_eq (n : ℕ) :
    account_walk header instruction n =
      { instruction_accounts_iterator_init header instruction with
        current_instruction_account := min n instruction.walked } := by
  induction n with
  | zero =>
    rw [Nat.zero_min]
    rfl
  | succ n ih =>
    rw [account_walk] at ih ⊢
    rw [after, ih, instruction_accounts_iterator_next]
    simp only [iterator_length]
    split
    · rw [Nat.min_eq_left (by omega), Nat.min_eq_left (by omega)]
      rfl
    · rw [Nat.min_eq_right (by omega), Nat.min_eq_right (by omega)]
      rfl

theorem account_walk_next (n : ℕ) :
    instruction_accounts_iterator_next (account_walk header instruction n) =
      if n < instruction.walked then
        some (header.account (instruction.accounts.getD n 0),
          account_walk header instruction (n + 1))
      else
        none := by
  rw [account_walk_eq, account_walk_eq, instruction_accounts_iterator_next]
  simp only [iterator_length]
  by_cases hn : n < instruction.walked
  · rw [if_pos (by omega), if_pos hn, Nat.min_eq_left (by omega), Nat.min_eq_left (by omega)]
    rfl
  · rw [if_neg (by omega), if_neg hn]

/-- The accounts the iterator comes to: as many as its one byte counts. -/
theorem account_walk_yields :
    Yields instruction_accounts_iterator_next
      (instruction_accounts_iterator_init header instruction)
      ((instruction.accounts.take instruction.walked).map header.account) := by
  intro n
  change Option.map Prod.fst
    (instruction_accounts_iterator_next (account_walk header instruction n)) = _
  rw [account_walk_next, List.getElem?_map, List.getElem?_take]
  split
  · rename_i hn
    have hinside := Nat.lt_of_lt_of_le hn instruction.walked_le
    rw [List.getElem?_eq_getElem hinside, List.getD_eq_getElem _ _ hinside]
    rfl
  · rfl

theorem account_walk_left (n : ℕ) :
    instruction_accounts_iterator_remaining (account_walk header instruction n) =
      instruction.walked - n := by
  rw [account_walk_eq, instruction_accounts_iterator_remaining]
  simp only [iterator_length]
  split <;> omega

theorem account_walk_remaining (n : ℕ) :
    instruction_accounts_iterator_remaining (account_walk header instruction n) +
      successes instruction_accounts_iterator_next
        (instruction_accounts_iterator_init header instruction) n = instruction.walked := by
  have hle := instruction.walked_le
  rw [account_walk_left, (account_walk_yields header instruction).successes, List.length_map,
    List.length_take]
  omega

/-- Every index the walk uses lies in the table. -/
theorem account_walk_in_table (hvalid : instruction_validate instruction header = true) (n : ℕ)
    (h : (instruction_accounts_iterator_next (account_walk header instruction n)).isSome) :
    ∃ pubkeys_index,
      (account_walk header instruction n).instruction_accounts[(account_walk header instruction
        n).current_instruction_account]? = some pubkeys_index ∧
      pubkeys_index.toNat < header.pubkeys_header.pubkeys_length := by
  rw [instruction_validate, Bool.and_eq_true, List.all_eq_true] at hvalid
  have hn : n < instruction.walked := by
    by_contra hn
    rw [account_walk_next, if_neg hn] at h
    exact Bool.false_ne_true h
  have hinside := Nat.lt_of_lt_of_le hn instruction.walked_le
  refine ⟨instruction.accounts[n], ?_, of_decide_eq_true (hvalid.2 _ (List.getElem_mem hinside))⟩
  rw [account_walk_eq]
  change instruction.accounts[min n instruction.walked]? = _
  rw [Nat.min_eq_left (Nat.le_of_lt hn)]
  exact List.getElem?_eq_getElem hinside

/-! ## When they are all -/

/-- A walk past all accounts counts them in one byte. -/
theorem accounts_length_lt_of_visits (h : VisitsAllAccounts header instruction) :
    instruction.accounts.length < 256 := by
  have hall := congrArg List.length (h.yields.unique (account_walk_yields header instruction))
  rw [List.length_map, List.length_map, List.length_take, Nat.min_eq_left instruction.walked_le,
    Instruction.walked] at hall
  omega

/-- **The iterator visits all accounts of an instruction if and only if there are fewer than
256.** -/
theorem visits_all_accounts_iff (hvalid : instruction_validate instruction header = true) :
    VisitsAllAccounts header instruction ↔ instruction.accounts.length < 256 := by
  constructor
  · exact accounts_length_lt_of_visits header instruction
  · intro hlength
    have hwalked : instruction.walked = instruction.accounts.length := Nat.mod_eq_of_lt hlength
    refine ⟨?_, account_walk_in_table header instruction hvalid, fun n => ?_⟩
    · have h := account_walk_yields header instruction
      rwa [hwalked, List.take_length] at h
    · rw [← hwalked]
      exact account_walk_remaining header instruction n

end Walk

/-! ## Parse functions along the walk -/

section Parsing

variable {header : MessageHeader} {instruction : Instruction}

/-- A step of a parse function, and the rest of it. -/
theorem instruction_bind_eq_some {α β : Type} {p : InstructionM α} {f : α → InstructionM β}
    {it it'' : InstructionAccountsIterator} {c c'' : Parser} {b : β} :
    (p >>= f) it c = some ((b, it''), c'') ↔
      ∃ a it' c', p it c = some ((a, it'), c') ∧ f a it' c' = some ((b, it''), c'') := by
  change (p it >>= fun x => f x.1 x.2) c = _ ↔ _
  rw [bind_eq_some]
  constructor
  · rintro ⟨⟨a, it'⟩, c', hp, hf⟩
    exact ⟨a, it', c', hp, hf⟩
  · rintro ⟨a, it', c', hp, hf⟩
    exact ⟨⟨a, it'⟩, c', hp, hf⟩

theorem instruction_lift_eq_some {α : Type} {r : ParserM α} {it it' : InstructionAccountsIterator}
    {c c' : Parser} {a : α} :
    (liftM r : InstructionM α) it c = some ((a, it'), c') ↔ r c = some (a, c') ∧ it' = it := by
  change (r >>= fun a => pure (a, it)) c = _ ↔ _
  rw [bind_eq_some]
  constructor
  · rintro ⟨b, d, hr, hpure⟩
    cases hpure
    exact ⟨hr, rfl⟩
  · rintro ⟨hr, rfl⟩
    exact ⟨a, c', hr, rfl⟩

variable {n : ℕ} {c d : Parser} {it : InstructionAccountsIterator}

theorem next_account_walk {account : PubkeyRef}
    (h : next_account (account_walk header instruction n) c = some ((account, it), d)) :
    n < instruction.walked ∧ account = header.account (instruction.accounts.getD n 0) ∧
      it = account_walk header instruction (n + 1) ∧ d = c := by
  rw [next_account, account_walk_next] at h
  by_cases hn : n < instruction.walked
  · rw [if_pos hn] at h
    cases h
    exact ⟨hn, rfl, rfl, rfl⟩
  · rw [if_neg hn] at h
    cases h

theorem skip_account_walk {u : Unit}
    (h : skip_account (account_walk header instruction n) c = some ((u, it), d)) :
    n < instruction.walked ∧ it = account_walk header instruction (n + 1) ∧ d = c := by
  obtain ⟨account, it', d', hnext, hpure⟩ := instruction_bind_eq_some.mp h
  cases hpure
  obtain ⟨hn, -, hit, hd⟩ := next_account_walk hnext
  exact ⟨hn, hit, hd⟩

/-- An account that may be missing takes no data either. -/
theorem optional_account_data {account : Option PubkeyRef} {it' : InstructionAccountsIterator}
    (h : optional_account it c = some ((account, it'), d)) : d = c := by
  rw [optional_account] at h
  cases hnext : instruction_accounts_iterator_next it with
  | none =>
    rw [hnext] at h
    cases h
    rfl
  | some next =>
    rw [hnext] at h
    cases h
    rfl

end Parsing

/-- A header whose table is the system program alone. -/
def system_header : MessageHeader :=
  { versioned := false
    version := 0
    pubkeys_header :=
      { num_required_signatures := 1
        num_readonly_signed_accounts := 0
        num_readonly_unsigned_accounts := 0
        pubkeys_length := 1 }
    pubkeys := ⟨4, [system_program_id]⟩
    blockhash := ⟨36, Hash.fill 0⟩
    instructions_length := 1
    pubkeys_count := rfl }

theorem visits_all_accounts_pair :
    instruction_validate ⟨0, [0, 0], ⟨72, []⟩⟩ system_header = true ∧
      (VisitsAllAccounts system_header ⟨0, [0, 0], ⟨72, []⟩⟩ ↔ 2 < 256) :=
  ⟨by decide, visits_all_accounts_iff system_header ⟨0, [0, 0], ⟨72, []⟩⟩ (by decide)⟩

/-- 256 accounts, which the iterator takes for none. -/
theorem visits_all_accounts_overflow :
    parse_instruction ⟨0, [0, 0x80, 0x02] ++ List.replicate 256 0 ++ [0]⟩ =
        some (⟨0, List.replicate 256 0, ⟨260, []⟩⟩, ⟨260, []⟩) ∧
      instruction_validate ⟨0, List.replicate 256 0, ⟨260, []⟩⟩ system_header = true ∧
      ¬ VisitsAllAccounts system_header ⟨0, List.replicate 256 0, ⟨260, []⟩⟩ := by
  refine ⟨by decide +kernel, by decide +kernel, fun h => ?_⟩
  have hlength := accounts_length_lt_of_visits _ _ h
  rw [List.length_replicate] at hlength
  omega

end RenecLedger
