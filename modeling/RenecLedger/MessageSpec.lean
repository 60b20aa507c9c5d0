/-
Which messages `process_message_body` accepts.

The two phases are characterised one after the other. `parse_message_body_iff` says
when the body parses and what the infos are; `Recognised` (`TransactionSpec.lean`)
says which of them are printed. Together they give the exact set of accepted
messages, and that processing one never sets a slot that is taken.
-/
import RenecLedger.Message
import RenecLedger.TransactionSpec

set_option autoImplicit false

open ReaderLib

namespace RenecLedger

/-! ## Running the parser's steps -/

/-- A check that passes leaves the parser where it is. -/
theorem bail_if_run {c : Bool} {parser next : Parser} {u : Unit} :
    bail_if c parser = some (u, next) ↔ c = false ∧ parser = next := by
  cases c with
  | false =>
    rw [show bail_if false = pure () from rfl, pure_run]
    simp
  | true => exact ⟨nofun, nofun⟩

/-- Reading the parser leaves it. -/
theorem get_run {parser next value : Parser} :
    (get : ParserM Parser) parser = some (value, next) ↔ value = parser ∧ next = parser := by
  rw [show (get : ParserM Parser) parser = some (parser, parser) from rfl]
  simp [eq_comm]

/-! ## The instructions of a body -/

/-- `parse_*_instructions` of the instruction's program returns 0. -/
def accepted_by_program (instruction : Instruction) (header : MessageHeader) : Bool :=
  match instruction_program_id instruction header with
  | .ProgramIdRplAssociatedTokenAccount =>
    (parse_rpl_associated_token_account_instructions instruction header).isSome
  | .ProgramIdRplToken => (parse_rpl_token_instructions instruction header).isSome
  | .ProgramIdSystem => (parse_system_instructions instruction header).isSome
  | .ProgramIdStake => (parse_stake_instructions instruction header).isSome
  | .ProgramIdVote => (parse_vote_instructions instruction header).isSome
  | .ProgramIdRplMemo => false
  | .ProgramIdUnknown => false

/-- Whether the instruction is a memo, whose data is not read. -/
def is_rpl_memo (instruction : Instruction) (header : MessageHeader) : Bool :=
  instruction_program_id instruction header = .ProgramIdRplMemo

/-- A memo, or an instruction that its program accepts, keeps its program's tag; any
other one is left unknown. -/
theorem parse_instruction_info_kind (instruction : Instruction) (header : MessageHeader) :
    (parse_instruction_info instruction header).kind =
      if is_rpl_memo instruction header || accepted_by_program instruction header then
        instruction_program_id instruction header
      else .ProgramIdUnknown := by
  unfold parse_instruction_info is_rpl_memo accepted_by_program
  cases hid : instruction_program_id instruction header <;> simp only
  · rfl
  · cases parse_stake_instructions instruction header <;> rfl
  · cases parse_system_instructions instruction header <;> rfl
  · cases parse_vote_instructions instruction header <;> rfl
  · cases parse_rpl_token_instructions instruction header <;> rfl
  · cases parse_rpl_associated_token_account_instructions instruction header <;> rfl
  · rfl

/-- An instruction is known when it is a memo or its program's parser accepts it. -/
theorem parse_instruction_info_known (instruction : Instruction) (header : MessageHeader) :
    (parse_instruction_info instruction header).kind ≠ .ProgramIdUnknown ↔
      is_rpl_memo instruction header = true ∨ accepted_by_program instruction header = true := by
  rw [parse_instruction_info_kind, ← Bool.or_eq_true]
  split
  · rename_i h
    refine iff_of_true (fun hid => ?_) h
    simp [is_rpl_memo, accepted_by_program, hid] at h
  · rename_i h
    exact iff_of_false (fun hne => hne rfl) h

/-- The kind says memo for memos only. -/
theorem parse_instruction_info_memo (instruction : Instruction) (header : MessageHeader) :
    (parse_instruction_info instruction header).kind = .ProgramIdRplMemo ↔
      is_rpl_memo instruction header = true := by
  rw [parse_instruction_info_kind]
  split
  · exact decide_eq_true_iff.symm
  · rename_i h
    refine iff_of_false nofun (fun hm => h ?_)
    rw [hm, Bool.true_or]

/-- An info that is known comes from its program's parser. -/
def InstructionInfo.ParsedFrom (instruction : Instruction) (header : MessageHeader) :
    InstructionInfo → Prop
  | .ProgramIdSystem system => parse_system_instructions instruction header = some system
  | .ProgramIdStake stake => parse_stake_instructions instruction header = some stake
  | .ProgramIdVote vote => parse_vote_instructions instruction header = some vote
  | .ProgramIdRplToken rpl_token =>
    parse_rpl_token_instructions instruction header = some rpl_token
  | .ProgramIdRplAssociatedTokenAccount create =>
    parse_rpl_associated_token_account_instructions instruction header = some create
  | .ProgramIdRplMemo => is_rpl_memo instruction header = true
  | .ProgramIdUnknown => True

/-- The info comes from the parser of the program named, and from its data. -/
theorem parse_instruction_info_parsed {instruction : Instruction} {header : MessageHeader}
    {info : InstructionInfo} (h : parse_instruction_info instruction header = info) :
    info.ParsedFrom instruction header := by
  rw [← h]
  unfold parse_instruction_info
  cases hid : instruction_program_id instruction header with
  | ProgramIdUnknown => exact trivial
  | ProgramIdStake =>
    cases hparse : parse_stake_instructions instruction header with
    | none => exact trivial
    | some stake => exact hparse
  | ProgramIdSystem =>
    cases hparse : parse_system_instructions instruction header with
    | none => exact trivial
    | some system => exact hparse
  | ProgramIdVote =>
    cases hparse : parse_vote_instructions instruction header with
    | none => exact trivial
    | some vote => exact hparse
  | ProgramIdRplToken =>
    cases hparse : parse_rpl_token_instructions instruction header with
    | none => exact trivial
    | some rpl_token => exact hparse
  | ProgramIdRplAssociatedTokenAccount =>
    cases hparse : parse_rpl_associated_token_account_instructions instruction header with
    | none => exact trivial
    | some create => exact hparse
  | ProgramIdRplMemo => exact decide_eq_true hid

/-- One instruction of the body: parsed, its indices checked, then read by its program. -/
theorem process_instruction_run (header : MessageHeader) (parser : Parser) :
    process_instruction header parser =
      (parse_instruction parser).bind fun x =>
        if instruction_validate x.1 header then
          some (parse_instruction_info x.1 header, x.2)
        else none := by
  rw [process_instruction, bind_run]
  congr 1
  funext x
  cases h : instruction_validate x.1 header <;> rfl

/-- A versioned message ends with a compact length that decodes to 0, and nothing
follows. -/
def BodyEnds (header : MessageHeader) (rest : Parser) : Prop :=
  if header.versioned then ∃ last, parse_length rest = some (0, last) ∧ last.buffer = []
  else rest.buffer = []

/-- The check at the end of the body is `BodyEnds`, for either kind of message. -/
theorem parse_message_body_end_iff {header : MessageHeader} {rest : Parser} :
    (∃ last, parse_message_body_end header rest = some ((), last)) ↔ BodyEnds header rest := by
  unfold parse_message_body_end BodyEnds
  cases header.versioned with
  | true =>
    simp only [if_true, bind_eq_some, bail_if_run, get_run]
    constructor
    · rintro ⟨last, length, p₁, hlength, _, p₂, ⟨hzero, rfl⟩, _, _, ⟨rfl, rfl⟩, hempty, rfl⟩
      have h0 : length = 0 := by simpa using hzero
      exact ⟨_, h0 ▸ hlength, by simpa [parser_is_empty] using hempty⟩
    · rintro ⟨last, hlength, hempty⟩
      exact ⟨last, 0, last, hlength, (), last, ⟨rfl, rfl⟩, last, last, ⟨rfl, rfl⟩,
        by simp [parser_is_empty, hempty], rfl⟩
  | false =>
    simp only [Bool.false_eq_true, if_false, bind_eq_some, bail_if_run, get_run]
    constructor
    · rintro ⟨last, _, _, ⟨rfl, rfl⟩, hempty, rfl⟩
      simpa [parser_is_empty] using hempty
    · intro hempty
      exact ⟨rest, rest, rest, ⟨rfl, rfl⟩, by simp [parser_is_empty, hempty], rfl⟩

/-- The body is the instructions and the end of the message. -/
def BodyReads (header : MessageHeader) (message_body : Parser) (instructions : List Instruction) :
    Prop :=
  ∃ rest, times parse_instruction header.instructions_length message_body =
    some (instructions, rest) ∧ BodyEnds header rest

/-- The body is accepted exactly when its instructions are there, their indices are in
range and each is known. -/
theorem parse_message_body_iff {header : MessageHeader} {message_body : Parser}
    {infos : List InstructionInfo} :
    (parse_message_body header).run' message_body = some infos ↔
      1 ≤ header.instructions_length ∧ header.instructions_length ≤ MAX_INSTRUCTIONS ∧
      ∃ instructions, BodyReads header message_body instructions ∧
        (∀ i ∈ instructions, instruction_validate i header = true) ∧
        (∀ i ∈ instructions,
          is_rpl_memo i header = true ∨ accepted_by_program i header = true) ∧
        infos = instructions.map (parse_instruction_info · header) := by
  -- The loop checks an instruction before it reads the next one; the outcome is that of
  -- reading them all first and checking them afterwards.
  have hloop := fun (n : ℕ) (d : Parser) (bs : List InstructionInfo) =>
    @times_checked _ _ _ parse_instruction (process_instruction header)
      (instruction_validate · header) (parse_instruction_info · header)
      (process_instruction_run header) n message_body d bs
  rw [run'_eq_some]
  simp only [parse_message_body, bind_eq_some, bail_if_run, pure_run, Option.some.injEq,
    Prod.mk.injEq, decide_eq_false_iff_not, Nat.not_lt, gt_iff_lt]
  constructor
  · rintro ⟨last, _, _, ⟨hne, rfl⟩, _, _, ⟨hle, rfl⟩, infos', rest, htimes, _, _, hend, _, _,
      ⟨hknown, rfl⟩, rfl, rfl⟩
    obtain ⟨instructions, hread, hvalid, rfl⟩ := (hloop _ _ _).mp htimes
    refine ⟨Nat.pos_of_ne_zero hne, hle, instructions,
      ⟨rest, hread, parse_message_body_end_iff.mp ⟨_, hend⟩⟩, hvalid, ?_, rfl⟩
    intro i hi
    rw [List.any_eq_false] at hknown
    have hinfo := hknown _ (List.mem_map_of_mem hi)
    exact (parse_instruction_info_known i header).mp (by simpa using hinfo)
  · rintro ⟨hpos, hle, instructions, ⟨rest, hread, hends⟩, hvalid, hknown, rfl⟩
    obtain ⟨last, hend⟩ := parse_message_body_end_iff.mpr hends
    refine ⟨last, (), message_body, ⟨Nat.ne_of_gt hpos, rfl⟩, (), message_body, ⟨hle, rfl⟩, _, rest,
      (hloop _ _ _).mpr ⟨instructions, hread, hvalid, rfl⟩, (), last, hend, (), last,
      ⟨?_, rfl⟩, rfl, rfl⟩
    rw [List.any_eq_false]
    rintro _ hinfo
    obtain ⟨i, hi, rfl⟩ := List.mem_map.mp hinfo
    simpa using (parse_instruction_info_known i header).mpr (hknown i hi)

end RenecLedger
