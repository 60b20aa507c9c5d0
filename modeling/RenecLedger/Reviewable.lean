/-
Which messages are put up for review.

The handler parses the message, looks for the signer among its keys, prints what it recognises or,
if that is allowed, the hash, and opens the review when the summary has a primary item. Every
recognised transaction has one (`Recognised.primary`), so the review is opened for the commands
that are `TransactionReviewable` and for no others (`transaction_reviewed_iff`).
-/
import RenecLedger.Consent
import RenecLedger.Rendering

set_option autoImplicit false

open MachineLib ProgramLib

namespace RenecLedger

/-! ## The primary item -/

variable {device : Device}

/-- What is printed for a message has a primary item, whether or not it is recognised. -/
theorem summary_writes_primary (message_body : Parser) (print_config : PrintConfig)
    (message_hash : Hash) (fee_payer : PubkeyRef) :
    0 < slot_count .primary (summary_writes message_body print_config message_hash fee_payer) := by
  rw [summary_writes, slot_count_append, slot_count_append]
  by_cases hresult : (process_message_body message_body print_config).result = none
  · rw [if_pos hresult]
    have hblind : slot_count .primary (blind_sign_writes message_hash) = 1 := rfl
    omega
  · obtain ⟨infos, -, hprocess, hrecognised⟩ := processed_recognised hresult
    have hset := hrecognised.primary print_config
    have hcount : (print_transaction_nonce_processed print_config
        (strip_nonce (display_instruction_info infos))).count .primary ≤
          slot_count .primary (process_message_body message_body print_config).writes := by
      rw [hprocess]
      change _ ≤ (print_transaction print_config (display_instruction_info infos)).count .primary
      rcases print_transaction_cases print_config (display_instruction_info infos) with
        ⟨nonce, -, h⟩ | ⟨hs, h⟩
      · rw [h, SummaryM.count_bind, SummaryM.ignore_rc_result, Option.elim_some]
        exact Nat.le_add_left _ _
      · rw [h, hs]
    omega

/-- A slot that was written is not free. -/
theorem primary_of_writes {summary : TransactionSummary} {ws : List SummaryWrite}
    (h : transaction_summary_reset.write_all ws = some summary)
    (hcount : 0 < slot_count .primary ws) : summary.primary ≠ none := by
  have hfree := write_all_free h .primary
  have hcapacity : SummarySlot.primary.capacity = 1 := rfl
  rw [free_reset, hcapacity] at hfree
  intro hnone
  have hone : summary.free .primary = 1 := by
    rw [TransactionSummary.free, hnone]
    rfl
  omega

/-! ## The signer -/

/-- A message to sign names no more signers than its table has keys. -/
def SignersInTable (message : List UInt8) : Prop :=
  (parse_message_header ⟨0, message⟩).all (fun parsed =>
    parsed.1.pubkeys_header.num_required_signatures.toNat ≤ parsed.1.pubkeys.keys.length) = true

instance (message : List UInt8) : Decidable (SignersInTable message) :=
  inferInstanceAs (Decidable (_ = true))

/-- What the search compares is the key of the table, as long as it is inside. -/
theorem pubkey_at_key {s : AppState} {header : MessageHeader} {body : Parser}
    (hparsed : parse_message_header ⟨0, s.G_command.payload⟩ = some (header, body)) {i : ℕ}
    (hi : i < header.pubkeys.keys.length) :
    (pubkey_at device s header.pubkeys i).key = header.pubkeys.keys[i] := by
  rw [(pubkey_at_eq (parse_message_header_lies hparsed) hi).1, PubkeyTable.at_index_key hi]

/-- The search finds a signer whose key is among those of the signers, wherever it would go on to
search. -/
theorem scan_header_for_signer_finds {s : AppState} {header : MessageHeader} {body : Parser}
    (hparsed : parse_message_header ⟨0, s.G_command.payload⟩ = some (header, body))
    (hkey : device.get_public_key s.G_command.derivation_path ∈
      header.pubkeys.keys.take header.pubkeys_header.num_required_signatures.toNat) :
    ∃ i, scan_header_for_signer device s header = some i := by
  obtain ⟨i, hi, hfound⟩ := List.mem_take_iff_getElem.mp hkey
  obtain ⟨hi, hlt⟩ := Nat.lt_min.mp hi
  rw [← Option.isSome_iff_exists, scan_header_for_signer, List.find?_isSome]
  refine ⟨i, List.mem_range.mpr hi, decide_eq_true ?_⟩
  rw [pubkey_at_key hparsed hlt]
  exact hfound

/-- A transaction of instructions that are displayed. -/
def IsRecognised (header : MessageHeader) (message_body : Parser) : Prop :=
  ∃ infos, (parse_message_body header).run' message_body = some infos ∧
    Recognised (strip_nonce (display_instruction_info infos))

/-- A transaction to be signed with the key of the path: one that is recognised, or any other if
that is allowed. -/
def IsTransaction (device : Device) (allow_blind_sign : Bool) (path : List UInt32)
    (message : List UInt8) : Prop :=
  ∃ header message_body, parse_message_header ⟨0, message⟩ = some (header, message_body) ∧
    device.get_public_key path ∈
      header.pubkeys.keys.take header.pubkeys_header.num_required_signatures.toNat ∧
    (IsRecognised header message_body ∨ allow_blind_sign = true)

/-- The commands that a review is opened for. -/
structure TransactionReviewable (device : Device) (s : AppState) : Prop where
  instruction : s.G_command.instruction = some .InsSignMessage
  complete : s.G_command.state = .ApduStatePayloadComplete
  confirm : s.G_command.non_confirm = false
  message : IsTransaction device s.settings.allow_blind_sign s.G_command.derivation_path
    s.G_command.payload

theorem is_recognised_iff {message_body : Parser} {print_config : PrintConfig} :
    IsRecognised print_config.header message_body ↔
      (process_message_body message_body print_config).result ≠ none := by
  constructor
  · rintro ⟨infos, hinfos, hrecognised⟩
    rw [process_message_body, hinfos]
    dsimp only
    rw [(print_transaction_ok print_config).mpr hrecognised]
    exact Option.some_ne_none ()
  · intro hresult
    obtain ⟨infos, hinfos, -, hrecognised⟩ := processed_recognised hresult
    exact ⟨infos, hinfos, hrecognised⟩

/-- What is to be reviewed is parsed, and its summary has a primary item. -/
theorem parse_message_of_reviewable {s : AppState} (h : TransactionReviewable device s) :
    ∃ result t,
      (handle_sign_message_parse_message device).run.run s = (.ok result, t) ∧
        t.G_transaction_summary.primary ≠ none := by
  obtain ⟨header, parser, hparsed, hkey, hallowed⟩ := h.message
  obtain ⟨signer_index, hscan⟩ := scan_header_for_signer_finds hparsed hkey
  have hcommand : ¬(s.G_command.instruction ≠ some .InsSignMessage ∨
      s.G_command.state ≠ .ApduStatePayloadComplete) := by
    rw [not_or, not_not, not_not]
    exact ⟨h.instruction, h.complete⟩
  have hconfirm : ¬s.G_command.non_confirm = true := Bool.not_eq_true _ ▸ h.confirm
  have hheader : parse_command_header s = .ok (header, parser) := by
    rw [parse_command_header, hparsed]
  have hsigner : find_signer device s header = .ok signer_index := by
    rw [find_signer, hscan]
  obtain ⟨summary, hwrites⟩ := summary_writes_fit parser
    (sign_print_config device s header signer_index) (device.cx_hash_sha256 s.G_command.payload)
    (pubkey_at device s header.pubkeys 0)
  obtain ⟨summary₁, hmessage, hfee⟩ := write_all_append_eq_some.mp hwrites
  obtain ⟨t, hset, rfl⟩ := summarize_message_sets (s := s.with_reset_summary) hmessage
    (hallowed.imp_left is_recognised_iff.mp)
  have hreset : (reset_summary : App Unit).run.run s = (.ok (), s.with_reset_summary) := rfl
  refine ⟨(header, signer_index), { t with G_transaction_summary := summary }, ?_,
    primary_of_writes hwrites (summary_writes_primary _ _ _ _)⟩
  rw [handle_sign_message_parse_message, get_bind, THROW_IF,
    bind_of_ok (throw_if_neg hcommand _ _), bind_of_ok (of_except_eq_ok.mpr ⟨hheader, rfl⟩)]
  dsimp only
  rw [bind_of_ok (of_except_eq_ok.mpr ⟨hsigner, rfl⟩), THROW_IF,
    bind_of_ok (throw_if_neg hconfirm _ _), bind_of_ok hreset, bind_of_ok hset,
    bind_of_ok (add_fee_payer_writes hfee)]
  rfl

/-- A transaction is seen to be recognised, and its signer to be named. -/
theorem is_transaction_any {allow_blind_sign : Bool} {path : List UInt32} {message : List UInt8}
    (signer_pubkey : PubkeyRef)
    (h : (parse_message_header ⟨0, message⟩).any (fun parsed =>
      decide (device.get_public_key path ∈ parsed.1.pubkeys.keys.take
        parsed.1.pubkeys_header.num_required_signatures.toNat) &&
      (process_message_body parsed.2 ⟨parsed.1, false, signer_pubkey⟩).result.isSome) = true) :
    IsTransaction device allow_blind_sign path message := by
  obtain ⟨⟨header, message_body⟩, hparsed, h⟩ := (Option.any_eq_true _ _).mp h
  obtain ⟨hkey, hresult⟩ := (Bool.and_eq_true _ _).mp h
  refine ⟨header, message_body, hparsed, of_decide_eq_true hkey, Or.inl ?_⟩
  exact is_recognised_iff.mpr (Option.isSome_iff_ne_none.mp hresult)

end RenecLedger
