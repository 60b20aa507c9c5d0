/-
Off-chain messages: which of them are reviewed, and that none of them is a transaction.

`IsOffchainMessage` says what an off-chain message is without the parser, and
`offchain_review_iff` that the handler opens the review for exactly these. What begins with
the signing domain is refused by the parser of transactions: the letters after the version
byte are read as counts, and there is no room for as many keys as one of them asks for.
-/
import RenecLedger.Encoding
import RenecLedger.HandlerSpec
import RenecLedger.Unrecognised

set_option autoImplicit false

open ReaderLib ProgramLib

namespace RenecLedger

/-! ## The header -/

/-- The two bytes of a length are its digits. -/
theorem offchain_length (lower upper : UInt8) :
    (lower.toUInt16 + (upper.toUInt16 <<< 8)).toNat = lower.toNat + 256 * upper.toNat := by
  have hl := lower.toNat_lt
  have hu := upper.toNat_lt
  rw [UInt16.toNat_add, UInt16.toNat_shiftLeft, UInt8.toNat_toUInt16, UInt8.toNat_toUInt16]
  change (lower.toNat + (upper.toNat <<< 8) % 65536) % 65536 = _
  rw [Nat.shiftLeft_eq]
  omega

/-- A header is the domain and four bytes. -/
theorem parse_offchain_message_header_iff {addr : ℕ} {bytes : List UInt8}
    {header : OffchainMessageHeader} {d : Parser} :
    parse_offchain_message_header ⟨addr, bytes⟩ = some (header, d) ↔
      ∃ lower upper rest,
        bytes = OFFCHAIN_MESSAGE_SIGNING_DOMAIN ++
          header.version :: header.format :: lower :: upper :: rest ∧
        header.length = lower.toUInt16 + (upper.toUInt16 <<< 8) ∧
        d = ⟨addr + OFFCHAIN_MESSAGE_HEADER_LENGTH, rest⟩ := by
  constructor
  · intro h
    unfold parse_offchain_message_header at h
    rw [check_bind_eq_some] at h
    obtain ⟨-, h⟩ := h
    rw [bind_eq_some] at h
    obtain ⟨_, _, hget, h⟩ := h
    cases hget
    rw [bind_eq_some] at h
    obtain ⟨u', c', hbail, h⟩ := h
    obtain ⟨hdomain, rfl⟩ := bail_if_run.mp hbail
    have htake : bytes.take OFFCHAIN_MESSAGE_SIGNING_DOMAIN.length =
        OFFCHAIN_MESSAGE_SIGNING_DOMAIN := not_not.mp (of_decide_eq_false hdomain)
    rw [bind_eq_some] at h
    obtain ⟨_, _, hadvance, h⟩ := h
    cases hadvance
    -- the four bytes after the domain
    have hbytes := List.take_append_drop OFFCHAIN_MESSAGE_SIGNING_DOMAIN.length bytes
    rw [htake] at hbytes
    rw [Cursor.advance] at h
    rcases hfields : bytes.drop OFFCHAIN_MESSAGE_SIGNING_DOMAIN.length with
      _ | ⟨version, _ | ⟨format, _ | ⟨lower, _ | ⟨upper, rest⟩⟩⟩⟩
    all_goals
      rw [hfields] at h hbytes
      cases h
    exact ⟨lower, upper, rest, hbytes.symm, rfl, rfl⟩
  · rintro ⟨lower, upper, rest, rfl, hlength, rfl⟩
    obtain ⟨version, format, length⟩ := header
    dsimp only at hlength
    subst hlength
    unfold parse_offchain_message_header
    rw [bind_eq_some]
    refine ⟨(), _, if_neg ?_, ?_⟩
    · rw [List.length_append]
      omega
    rw [bind_eq_some]
    refine ⟨_, _, rfl, ?_⟩
    rw [bind_eq_some]
    refine ⟨(), _, bail_if_run.mpr ⟨?_, rfl⟩, rfl⟩
    rw [List.take_left]
    exact decide_eq_false (not_not.mpr rfl)

/-! ## The domain as a transaction header -/

/-- The version byte, three counts, the number of keys, and the rest of the name: the
signing domain as the header of a transaction would be read. -/
theorem signing_domain_bytes : OFFCHAIN_MESSAGE_SIGNING_DOMAIN =
    0xff :: ([0x72, 0x65, 0x6e, 0x65] ++
      [0x63, 0x20, 0x6f, 0x66, 0x66, 0x63, 0x68, 0x61, 0x69, 0x6e]) := by
  decide +kernel

/-- The letters after the version byte ask for 101 keys. The last of them is a compact
length of one byte. -/
theorem reads_domain_counts : Reads parse_pubkeys_header [0x72, 0x65, 0x6e, 0x65]
    (· = ⟨0x72, 0x65, 0x6e, 101⟩) := by
  refine reads_u8_bind (reads_u8_bind (reads_u8_bind ?_))
  have hcode : IsLengthCode 101 [0x65] := IsLengthCode.one 0x65 (by decide)
  refine Reads.bind_nil (reads_length hcode) fun pubkeys_length hlen => ?_
  rw [hlen]
  exact Reads.pure rfl

/-- A message is too short for them: 101 keys take more bytes than `MAX_MESSAGE_LENGTH`
allows. -/
theorem domain_refused {addr : ℕ} {rest : List UInt8}
    (h : (OFFCHAIN_MESSAGE_SIGNING_DOMAIN ++ rest).length ≤ MAX_MESSAGE_LENGTH) :
    parse_message_header ⟨addr, OFFCHAIN_MESSAGE_SIGNING_DOMAIN ++ rest⟩ = none := by
  rw [signing_domain_bytes, List.cons_append, List.append_assoc] at h ⊢
  set tail : List UInt8 :=
    [0x63, 0x20, 0x6f, 0x66, 0x66, 0x63, 0x68, 0x61, 0x69, 0x6e] ++ rest with htail
  have hshort : tail.length < 101 * PUBKEY_SIZE := by
    have hmax : MAX_MESSAGE_LENGTH = 1280 := rfl
    have hsize : PUBKEY_SIZE = 32 := rfl
    rw [List.length_cons, List.length_append] at h
    omega
  have htop : (0xff : UInt8) &&& 0x80 ≠ 0 := by decide
  obtain ⟨counts, hcounts, rfl⟩ := reads_domain_counts (addr + 1) tail
  rw [parse_message_header, bind_run, parse_version_run, if_pos htop, Option.bind_some]
  dsimp only
  rw [bind_run, parse_pubkeys, bind_run, hcounts, Option.bind_some, bind_run]
  dsimp only
  rw [check_buffer_length, if_pos hshort]
  rfl

/-- The signing domain and transactions do not overlap. -/
theorem offchain_header_refused {addr addr' : ℕ} {bytes : List UInt8}
    (hlen : bytes.length ≤ MAX_MESSAGE_LENGTH)
    (h : (parse_offchain_message_header ⟨addr, bytes⟩).isSome) :
    parse_message_header ⟨addr', bytes⟩ = none := by
  obtain ⟨⟨header, d⟩, hparse⟩ := Option.isSome_iff_exists.mp h
  obtain ⟨lower, upper, rest, rfl, -⟩ := parse_offchain_message_header_iff.mp hparse
  exact domain_refused hlen

/-! ## The two signing commands -/

/-- The handler throws a reply: it opens no review, and nothing is sent before that. The
log and the screen are as they were, whatever it has worked out by then. -/
def Refuses (p : App Unit) (s : AppState) : Prop :=
  ∃ reply t, p.run.run s = (.error (.THROW reply), t) ∧ t.screen = s.screen ∧ t.log = s.log

variable (device : Device)

/-- A transaction whose header does not parse is refused. -/
theorem refuses_sign_message {s : AppState}
    (h : parse_message_header ⟨0, s.G_command.payload⟩ = none) :
    Refuses (handle_sign_message device) s := by
  have hkeep := keeps_handle_sign_message_parse_message device s
  rcases parse_message_ends device s with ⟨reply, t, hrun⟩ | ⟨header, parser, i, t, -, hparse, -⟩
  · rw [hrun] at hkeep
    exact ⟨reply, t, bind_of_error hrun, congrArg AppCore.screen hkeep,
      congrArg AppCore.log hkeep⟩
  · rw [hparse] at h
    cases h

/-- What the checks of an off-chain message let through, and whether it is text in
ASCII. It is stated on the state, as the handler reads the command and the settings from
there. -/
structure ChecksOffchain (s : AppState) (header : OffchainMessageHeader) (is_ascii : Bool) :
    Prop where
  instruction : s.G_command.instruction = some .InsSignOffchainMessage
  complete : s.G_command.state = .ApduStatePayloadComplete
  confirm : s.G_command.non_confirm = false
  parsed : parse_command_offchain_header s = .ok header
  checked : check_offchain_message s header = .ok is_ascii

/-- The summary of an off-chain message has room for its items, and a primary one. -/
theorem print_offchain_message_exec (header : OffchainMessageHeader) (is_ascii expert_mode : Bool)
    (message_hash : Hash) (signer : Pubkey) : ∃ summary kinds,
      (print_offchain_message header is_ascii expert_mode message_hash signer).exec
        transaction_summary_reset = some (some (), summary) ∧
      transaction_summary_finalize summary = some kinds := by
  cases is_ascii <;> cases expert_mode <;> exact ⟨_, _, rfl, rfl⟩

theorem run_if_modify (c : Prop) [Decidable c] (f : AppState → AppState) (s : AppState) :
    (run_if c (modify f) : App Unit).run.run s = (.ok (), if c then f s else s) := by
  by_cases hc : c
  · rw [run_if, if_pos hc, if_pos hc, run_modify]
  · rw [run_if, if_neg hc, if_neg hc, run_pure]

/-- What the handler does when the checks have passed. -/
theorem show_offchain_run (header : OffchainMessageHeader) (is_ascii expert_mode : Bool)
    (signer : Pubkey) (s : AppState) {p : App Unit}
    (hp : p = (do
      reset_summary
      let message_hash ← gets fun s => s.G_command.message_hash
      let _ ← run_printer (print_offchain_message header is_ascii expert_mode message_hash signer)
      let s ← get
      match transaction_summary_finalize s.G_transaction_summary with
      | none => THROW .ApduReplyRenecSummaryFinalizeFailed
      | some _ => start_sign_ui)) :
    ∃ t, p.run.run s = (.ok (), t) ∧ t.screen = .sign_review ∧
      t.log = s.log ++ [.review s.G_command.derivation_path s.G_command.payload] := by
  obtain ⟨summary, kinds, hexec, hfinal⟩ := print_offchain_message_exec header is_ascii expert_mode
    s.G_command.message_hash signer
  refine ⟨{ s.with_reset_summary with
    G_transaction_summary := summary
    log := s.log ++ [.review s.G_command.derivation_path s.G_command.payload]
    screen := .sign_review }, ?_, rfl, rfl⟩
  rw [hp, reset_summary, modify_bind, gets]
  refine (bind_of_ok rfl).trans ((bind_of_ok (run_printer_eq_ok.mpr
    ⟨summary, hexec, rfl⟩)).trans ((get_bind _ _).trans ?_))
  dsimp only
  rw [hfinal]
  rfl

/-- Whatever passes the checks is reviewed. -/
theorem reviews_offchain {s : AppState} {header : OffchainMessageHeader} {is_ascii : Bool}
    (h : ChecksOffchain s header is_ascii) : ∃ t,
      (handle_sign_offchain_message device).run.run s = (.ok (), t) ∧ t.screen = .sign_review ∧
        t.log = s.log ++ [.review s.G_command.derivation_path s.G_command.payload] := by
  have hcommand : ¬(s.G_command.instruction ≠ some .InsSignOffchainMessage ∨
      s.G_command.state ≠ .ApduStatePayloadComplete) := by
    rw [not_or, not_not, not_not]
    exact ⟨h.instruction, h.complete⟩
  have hconfirm : ¬s.G_command.non_confirm = true := by
    rw [h.confirm]
    exact Bool.false_ne_true
  rw [handle_sign_offchain_message, get_bind, THROW_IF, bind_of_ok (throw_if_neg hcommand _ _),
    THROW_IF, bind_of_ok (throw_if_neg hconfirm _ _), bind_of_ok (of_except_eq_ok.mpr
      ⟨h.parsed, rfl⟩), bind_of_ok (of_except_eq_ok.mpr ⟨h.checked, rfl⟩),
    bind_of_ok (run_if_modify _ _ _)]
  split
  · exact show_offchain_run header is_ascii _ _ _ rfl
  · exact show_offchain_run header is_ascii _ _ _ rfl

theorem parse_command_offchain_header_throws {s : AppState} {e : Exception}
    (h : parse_command_offchain_header s = .error e) : ∃ reply, e = .THROW reply := by
  unfold parse_command_offchain_header at h
  split at h
  · cases h
  · cases h
    exact ⟨_, rfl⟩

theorem check_offchain_message_throws {s : AppState} {header : OffchainMessageHeader}
    {e : Exception} (h : check_offchain_message s header = .error e) :
    ∃ reply, e = .THROW reply := by
  unfold check_offchain_message at h
  dsimp only at h
  split_ifs at h
  all_goals
    cases h
    exact ⟨_, rfl⟩

/-- Whatever does not is refused. -/
theorem refuses_sign_offchain_message {s : AppState}
    (h : ∀ header is_ascii, ¬ChecksOffchain s header is_ascii) :
    Refuses (handle_sign_offchain_message device) s := by
  rw [Refuses, handle_sign_offchain_message, get_bind, THROW_IF]
  by_cases hcommand : s.G_command.instruction ≠ some .InsSignOffchainMessage ∨
      s.G_command.state ≠ .ApduStatePayloadComplete
  · exact ⟨_, s, bind_of_error (throw_if_pos hcommand _ _), rfl, rfl⟩
  rw [bind_of_ok (throw_if_neg hcommand _ _), THROW_IF]
  by_cases hconfirm : s.G_command.non_confirm = true
  · exact ⟨_, s, bind_of_error (throw_if_pos hconfirm _ _), rfl, rfl⟩
  rw [bind_of_ok (throw_if_neg hconfirm _ _)]
  cases hparsed : parse_command_offchain_header s with
  | error e =>
    obtain ⟨reply, rfl⟩ := parse_command_offchain_header_throws hparsed
    exact ⟨reply, s, bind_of_error rfl, rfl, rfl⟩
  | ok header =>
    rw [bind_of_ok (of_except_eq_ok.mpr ⟨rfl, rfl⟩)]
    cases hchecked : check_offchain_message s header with
    | error e =>
      obtain ⟨reply, rfl⟩ := check_offchain_message_throws hchecked
      exact ⟨reply, s, bind_of_error rfl, rfl, rfl⟩
    | ok is_ascii =>
      rw [not_or, not_not, not_not] at hcommand
      rw [Bool.not_eq_true] at hconfirm
      exact absurd ⟨hcommand.1, hcommand.2, hconfirm, hparsed, hchecked⟩ (h header is_ascii)

/-- **Domain separation.** What parses as an off-chain message is no transaction, so of the
two signing commands at least one refuses a payload, whatever else is in the state. -/
theorem domain_separation :
    (∀ addr addr' bytes, bytes.length ≤ MAX_MESSAGE_LENGTH →
      (parse_offchain_message_header ⟨addr, bytes⟩).isSome →
        parse_message_header ⟨addr', bytes⟩ = none) ∧
    ∀ s s' : AppState, s.G_command.payload = s'.G_command.payload →
      Refuses (handle_sign_offchain_message device) s ∨
        Refuses (handle_sign_message device) s' := by
  refine ⟨fun addr addr' bytes hlen h => offchain_header_refused hlen h, fun s s' hpayload => ?_⟩
  cases hparse : parse_offchain_message_header ⟨0, s.G_command.payload⟩ with
  | none =>
    left
    refine refuses_sign_offchain_message device fun header is_ascii hchecks => ?_
    have hparsed := hchecks.parsed
    rw [parse_command_offchain_header, hparse] at hparsed
    cases hparsed
  | some parsed =>
    right
    have hlen : s.G_command.payload.length ≤ MAX_MESSAGE_LENGTH := by
      rw [ApduCommand.payload_length]
      exact s.G_command.message_length_le
    have hsome : (parse_offchain_message_header ⟨0, s.G_command.payload⟩).isSome := by
      rw [hparse]
      rfl
    apply refuses_sign_message
    rw [← hpayload]
    exact offchain_header_refused hlen hsome

/-! ## Which messages are reviewed -/

/-- The domain, a zero version, a format, the length of what follows, and printable
ASCII or, if that is allowed, UTF-8. It speaks of the bytes alone and not of any parse
function. -/
def IsOffchainMessage (allow_blind_sign : Bool) (message : List UInt8) : Prop :=
  ∃ format lower upper body,
    message = OFFCHAIN_MESSAGE_SIGNING_DOMAIN ++ 0 :: format :: lower :: upper :: body ∧
    (format = 0 ∨ format = 1) ∧
    body.length = lower.toNat + 256 * upper.toNat ∧
    body.length ≤ MAX_OFFCHAIN_MESSAGE_LENGTH ∧
    ((∀ b ∈ body, 0x20 ≤ b ∧ b ≤ 0x7e) ∨
      format = 1 ∧ allow_blind_sign = true ∧ is_data_utf8 body = true)

theorem is_data_ascii_iff {data : List UInt8} :
    is_data_ascii data = true ↔ ∀ b ∈ data, 0x20 ≤ b ∧ b ≤ 0x7e := by
  rw [is_data_ascii, List.all_eq_true]
  refine forall₂_congr fun b _ => ?_
  rw [Bool.not_eq_true', decide_eq_false_iff_not, not_or, UInt8.not_lt, gt_iff_lt, UInt8.not_lt]

/-- The checks in order: the numbers of the header, then the text. -/
theorem check_offchain_message_ok {s : AppState} {header : OffchainMessageHeader}
    {body : List UInt8} (hbody : s.G_command.payload.drop OFFCHAIN_MESSAGE_HEADER_LENGTH = body) :
    (∃ is_ascii, check_offchain_message s header = .ok is_ascii) ↔
      (header.version = 0 ∧ header.format ≤ 1 ∧
        header.length.toNat ≤ MAX_OFFCHAIN_MESSAGE_LENGTH ∧
        header.length.toNat + OFFCHAIN_MESSAGE_HEADER_LENGTH = s.G_command.message_length) ∧
      (is_data_ascii body = true ∨
        header.format ≠ 0 ∧ s.settings.allow_blind_sign = true ∧ is_data_utf8 body = true) := by
  unfold check_offchain_message
  by_cases hheader : header.version = 0 ∧ header.format ≤ 1 ∧
      header.length.toNat ≤ MAX_OFFCHAIN_MESSAGE_LENGTH ∧
      header.length.toNat + OFFCHAIN_MESSAGE_HEADER_LENGTH = s.G_command.message_length
  -- The text is read from the message buffer, which is longer than the payload; the last
  -- number checked makes the two agree.
  · have hdata : (s.G_command.message.drop OFFCHAIN_MESSAGE_HEADER_LENGTH).take
        header.length.toNat = body := by
      rw [← hbody, ApduCommand.payload, List.drop_take]
      congr 1
      omega
    have hpass : ¬(header.version ≠ 0 ∨ header.format > 1 ∨
        header.length.toNat > MAX_OFFCHAIN_MESSAGE_LENGTH ∨
        header.length.toNat + OFFCHAIN_MESSAGE_HEADER_LENGTH ≠ s.G_command.message_length) := by
      obtain ⟨hversion, hformat, hmax, hlength⟩ := hheader
      rw [not_or, not_or, not_or, not_not, gt_iff_lt, UInt8.not_lt, gt_iff_lt, Nat.not_lt, not_not]
      exact ⟨hversion, hformat, hmax, hlength⟩
    rw [if_neg hpass, and_iff_right hheader]
    dsimp only
    rw [hdata]
    cases hascii : is_data_ascii body with
    | true => exact iff_of_true ⟨true, rfl⟩ (Or.inl rfl)
    -- Not ASCII: the format, the text and the setting are asked for in turn.
    | false =>
      by_cases hformat : header.format = 0
      · simp [hformat]
      · cases is_data_utf8 body <;> cases s.settings.allow_blind_sign <;> simp [hformat]
  · have hfail : header.version ≠ 0 ∨ header.format > 1 ∨
        header.length.toNat > MAX_OFFCHAIN_MESSAGE_LENGTH ∨
        header.length.toNat + OFFCHAIN_MESSAGE_HEADER_LENGTH ≠ s.G_command.message_length := by
      by_contra hpass
      rw [not_or, not_or, not_or, not_not, gt_iff_lt, UInt8.not_lt, gt_iff_lt, Nat.not_lt,
        not_not] at hpass
      exact hheader hpass
    rw [if_pos hfail]
    refine iff_of_false ?_ fun h => hheader h.1
    rintro ⟨is_ascii, h⟩
    cases h

/-- A complete off-chain command in confirm mode, and its message is an off-chain
message. Nothing else of the state matters, not even whether a review is open. -/
structure OffchainReviewable (s : AppState) : Prop where
  instruction : s.G_command.instruction = some .InsSignOffchainMessage
  complete : s.G_command.state = .ApduStatePayloadComplete
  confirm : s.G_command.non_confirm = false
  message : IsOffchainMessage s.settings.allow_blind_sign s.G_command.payload

theorem format_le_one {format : UInt8} : format ≤ 1 ↔ format = 0 ∨ format = 1 := by
  rw [UInt8.le_iff_toNat_le, ← UInt8.toNat_inj, ← UInt8.toNat_inj]
  exact Nat.le_one_iff_eq_zero_or_eq_one

/-- A payload is as long as its header and its body. -/
theorem offchain_payload_length {s : AppState} {version format lower upper : UInt8}
    {body : List UInt8} (h : s.G_command.payload = OFFCHAIN_MESSAGE_SIGNING_DOMAIN ++
      version :: format :: lower :: upper :: body) :
    s.G_command.payload.drop OFFCHAIN_MESSAGE_HEADER_LENGTH = body ∧
      s.G_command.message_length = OFFCHAIN_MESSAGE_HEADER_LENGTH + body.length := by
  constructor
  · rw [h]
    rfl
  · have hdomain : OFFCHAIN_MESSAGE_SIGNING_DOMAIN.length = 15 := rfl
    have hsize : OFFCHAIN_MESSAGE_HEADER_LENGTH = 19 := rfl
    rw [← ApduCommand.payload_length, h, List.length_append]
    simp only [List.length_cons]
    omega

theorem checks_offchain_iff {s : AppState} :
    (∃ header is_ascii, ChecksOffchain s header is_ascii) ↔ OffchainReviewable s := by
  constructor
  · rintro ⟨header, is_ascii, h⟩
    refine ⟨h.instruction, h.complete, h.confirm, ?_⟩
    have hparsed := h.parsed
    rw [parse_command_offchain_header] at hparsed
    cases hparse : parse_offchain_message_header ⟨0, s.G_command.payload⟩ with
    | none =>
      rw [hparse] at hparsed
      cases hparsed
    | some parsed =>
      obtain ⟨header', d⟩ := parsed
      rw [hparse] at hparsed
      cases hparsed
      obtain ⟨lower, upper, body, hpayload, hlength, rfl⟩ :=
        parse_offchain_message_header_iff.mp hparse
      -- The length of the header is compared with the command's; it counts the body.
      obtain ⟨hbody, hmessage_length⟩ := offchain_payload_length hpayload
      obtain ⟨⟨hversion, hformat, hmax, htotal⟩, htext⟩ :=
        (check_offchain_message_ok hbody).mp ⟨is_ascii, h.checked⟩
      have hbody_length : body.length = header.length.toNat := by omega
      rw [hversion] at hpayload
      refine ⟨header.format, lower, upper, body, hpayload, format_le_one.mp hformat, ?_, ?_, ?_⟩
      · rw [hbody_length, hlength, offchain_length]
      · rw [hbody_length]
        exact hmax
      · refine htext.imp is_data_ascii_iff.mp ?_
        rintro ⟨hne, htext⟩
        exact ⟨(format_le_one.mp hformat).resolve_left hne, htext⟩
  · rintro ⟨hinstruction, hcomplete, hconfirm, format, lower, upper, body, hpayload, hformat,
      hlength, hmax, htext⟩
    let header : OffchainMessageHeader := ⟨0, format, lower.toUInt16 + (upper.toUInt16 <<< 8)⟩
    have hparse : parse_offchain_message_header ⟨0, s.G_command.payload⟩ = some (header, _) :=
      parse_offchain_message_header_iff.mpr ⟨lower, upper, body, hpayload, rfl, rfl⟩
    have hheader_length : header.length.toNat = body.length := by
      rw [offchain_length, ← hlength]
    obtain ⟨hbody, hmessage_length⟩ := offchain_payload_length hpayload
    have hnumbers : header.version = 0 ∧ header.format ≤ 1 ∧
        header.length.toNat ≤ MAX_OFFCHAIN_MESSAGE_LENGTH ∧
        header.length.toNat + OFFCHAIN_MESSAGE_HEADER_LENGTH = s.G_command.message_length := by
      rw [hheader_length, hmessage_length]
      exact ⟨rfl, format_le_one.mpr hformat, hmax, Nat.add_comm _ _⟩
    have htext' : is_data_ascii body = true ∨ header.format ≠ 0 ∧
        s.settings.allow_blind_sign = true ∧ is_data_utf8 body = true := by
      refine htext.imp is_data_ascii_iff.mpr ?_
      rintro ⟨hone, hutf8⟩
      have hne : format ≠ 0 := by
        rw [hone]
        decide
      exact ⟨hne, hutf8⟩
    obtain ⟨is_ascii, hchecked⟩ := (check_offchain_message_ok hbody).mpr ⟨hnumbers, htext'⟩
    refine ⟨header, is_ascii, hinstruction, hcomplete, hconfirm, ?_, hchecked⟩
    rw [parse_command_offchain_header, hparse]

/-- **Off-chain acceptance is exact.** The review is opened for a complete off-chain command in
confirm mode whose message is an off-chain message; any other state is refused. -/
theorem offchain_review_iff (s : AppState) :
    ((∃ t, (handle_sign_offchain_message device).run.run s = (.ok (), t) ∧
        t.screen = .sign_review ∧
        t.log = s.log ++ [.review s.G_command.derivation_path s.G_command.payload]) ↔
      OffchainReviewable s) ∧
    (Refuses (handle_sign_offchain_message device) s ↔ ¬OffchainReviewable s) := by
  by_cases h : OffchainReviewable s
  · obtain ⟨header, is_ascii, hchecks⟩ := checks_offchain_iff.mpr h
    have hreview := reviews_offchain device hchecks
    refine ⟨iff_of_true hreview h, iff_of_false ?_ (not_not.mpr h)⟩
    rintro ⟨reply, t, hthrow, -⟩
    obtain ⟨u, hrun, -⟩ := hreview
    rw [hrun] at hthrow
    cases hthrow
  · have hrefuses := refuses_sign_offchain_message device fun header is_ascii hchecks =>
      h (checks_offchain_iff.mp ⟨header, is_ascii, hchecks⟩)
    refine ⟨iff_of_false ?_ h, iff_of_true hrefuses h⟩
    rintro ⟨u, hrun, -⟩
    obtain ⟨reply, t, hthrow, -⟩ := hrefuses
    rw [hrun] at hthrow
    cases hthrow

end RenecLedger
