/-
Instructions of any program: `librenec/instruction.c`.

An instruction is recognised by the key its program index names. What its program's
parser makes of it is an `InstructionInfo`; an `InstructionBrief` is the kind part of
one, and `instruction_infos_match_briefs` compares a list of infos with a table of
briefs entry by entry.
-/
import RenecLedger.RplToken
import RenecLedger.Stake
import RenecLedger.Vote

set_option autoImplicit false

namespace RenecLedger

/-! ## Programs -/

def rpl_memo_program_id : Pubkey :=
  ⟨[0x05, 0x4a, 0x53, 0x5a, 0x99, 0x29, 0x21, 0x06, 0x4d, 0x24, 0xe8, 0x71, 0x60, 0xda, 0x38,
    0x7c, 0x7c, 0x35, 0xb5, 0xdd, 0xbc, 0x92, 0xbb, 0x81, 0xe4, 0x1f, 0xa8, 0x40, 0x41, 0x05,
    0x44, 0x8d], by decide⟩

inductive ProgramId
  | ProgramIdUnknown
  | ProgramIdStake
  | ProgramIdSystem
  | ProgramIdVote
  | ProgramIdRplToken
  | ProgramIdRplAssociatedTokenAccount
  | ProgramIdRplMemo
deriving DecidableEq

def instruction_program_id (instruction : Instruction) (header : MessageHeader) : ProgramId :=
  let program_id := (header.pubkeys.at_index instruction.program_id_index.toNat).key
  if program_id = system_program_id then .ProgramIdSystem
  else if program_id = stake_program_id then .ProgramIdStake
  else if program_id = vote_program_id then .ProgramIdVote
  else if program_id = rpl_token_program_id then .ProgramIdRplToken
  else if program_id = rpl_associated_token_account_program_id then
    .ProgramIdRplAssociatedTokenAccount
  else if program_id = rpl_memo_program_id then .ProgramIdRplMemo
  else .ProgramIdUnknown

/-- The program index and every account index lie in the table. -/
def instruction_validate (instruction : Instruction) (header : MessageHeader) : Bool :=
  decide (instruction.program_id_index.toNat < header.pubkeys_header.pubkeys_length) &&
    instruction.accounts.all fun i => i.toNat < header.pubkeys_header.pubkeys_length

/-! ## Infos -/

/-- A parsed instruction; unknown ones and memos carry nothing. -/
inductive InstructionInfo
  | ProgramIdUnknown
  | ProgramIdStake (stake : StakeInfo)
  | ProgramIdSystem (system : SystemInfo)
  | ProgramIdVote (vote : VoteInfo)
  | ProgramIdRplToken (rpl_token : RplTokenInfo)
  | ProgramIdRplAssociatedTokenAccount (create : RplAssociatedTokenAccountCreateInfo)
  | ProgramIdRplMemo
deriving DecidableEq

def InstructionInfo.kind : InstructionInfo → ProgramId
  | .ProgramIdUnknown => .ProgramIdUnknown
  | .ProgramIdStake _ => .ProgramIdStake
  | .ProgramIdSystem _ => .ProgramIdSystem
  | .ProgramIdVote _ => .ProgramIdVote
  | .ProgramIdRplToken _ => .ProgramIdRplToken
  | .ProgramIdRplAssociatedTokenAccount _ => .ProgramIdRplAssociatedTokenAccount
  | .ProgramIdRplMemo => .ProgramIdRplMemo

/-! ## Briefs -/

/-- The program of an instruction and, where the program has several, its kind. -/
inductive InstructionBrief
  | rpl_associated_token_account
  | rpl_memo
  | rpl_token (rpl_token_ix : RplTokenInstructionKind)
  | system (system_ix : SystemInstructionKind)
  | stake (stake_ix : StakeInstructionKind)
  | vote (vote_ix : VoteInstructionKind)
deriving DecidableEq

def instruction_info_matches_brief (info : InstructionInfo) (brief : InstructionBrief) : Bool :=
  match brief, info with
  | .rpl_associated_token_account, .ProgramIdRplAssociatedTokenAccount _ => true
  | .rpl_memo, .ProgramIdRplMemo => true
  | .rpl_token rpl_token_ix, .ProgramIdRplToken rpl_token => rpl_token_ix = rpl_token.kind
  | .stake stake_ix, .ProgramIdStake stake => stake_ix = stake.kind
  | .system system_ix, .ProgramIdSystem system => system_ix = system.kind
  | .vote vote_ix, .ProgramIdVote vote => vote_ix = vote.kind
  | _, _ => false

/-- The first `len` infos match the first `len` briefs. Every call passes the length
of the table it names, which is also the number of infos there are. -/
def instruction_infos_match_briefs :
    List InstructionInfo → List InstructionBrief → ℕ → Bool
  | _, _, 0 => true
  | info :: infos, brief :: briefs, len + 1 =>
    instruction_info_matches_brief info brief && instruction_infos_match_briefs infos briefs len
  | _, _, _ => false

end RenecLedger
