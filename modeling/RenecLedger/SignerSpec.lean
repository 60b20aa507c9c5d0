/-
The signer and the fee payer of a message.

The scan for the signer runs up to `num_required_signatures`, over a table that holds
`pubkeys_length` keys, and nothing relates the two fields. This file says when the index
it finds is in the table: `KeysInTable`, and `signer_in_table_iff`.
-/
import RenecLedger.AppSpec

set_option autoImplicit false

open ReaderLib ProgramLib

namespace RenecLedger

/-! ## Where the account table lies -/

/-- The keys of a table are those at its address, and all of their bytes are in the
buffer. -/
def PubkeyTable.LiesIn (pubkeys : PubkeyTable) (parser : Parser) : Prop :=
  ∃ n, pubkeys.addr = parser.addr + n ∧
    n + PUBKEY_SIZE * pubkeys.keys.length ≤ parser.buffer.length ∧
    pubkeys.keys = Pubkey.read_table pubkeys.keys.length (parser.buffer.drop n)

theorem PubkeyTable.LiesIn.within {pubkeys : PubkeyTable} {c d : Parser} (hcd : c.Within d)
    (h : pubkeys.LiesIn d) : pubkeys.LiesIn c := by
  obtain ⟨m, hm, rfl⟩ := hcd
  obtain ⟨n, haddr, hle, hkeys⟩ := h
  simp only [Cursor.advance, List.length_drop, List.drop_drop] at haddr hle hkeys
  refine ⟨m + n, ?_, ?_, hkeys⟩
  · rw [haddr, Nat.add_assoc]
  · omega

theorem forward_parse_pubkeys_header : Forward parse_pubkeys_header := by
  unfold parse_pubkeys_header
  refine forward_bind forward_parse_u8 fun b₀ => forward_bind forward_parse_u8 fun b₁ => ?_
  refine forward_bind forward_parse_u8 fun b₂ => ?_
  exact forward_bind forward_parse_length fun n => forward_pure _

theorem forward_parse_version : Forward parse_version := by
  intro c v d h
  obtain ⟨addr, _ | ⟨b, bs⟩⟩ := c
  · cases h
  · rw [parse_version_run] at h
    split at h
    · cases h
      exact ⟨1, Nat.succ_le_succ (Nat.zero_le _), rfl⟩
    · cases h
      exact Cursor.within_refl _

theorem parse_pubkeys_lies {c d : Parser} {table : ParsedPubkeys}
    (h : parse_pubkeys c = some (table, d)) : table.pubkeys.LiesIn c := by
  unfold parse_pubkeys at h
  rw [bind_eq_some] at h
  obtain ⟨header, c', hheader, h⟩ := h
  have hwithin := forward_parse_pubkeys_header c header c' hheader
  rw [check_bind_eq_some] at h
  obtain ⟨hlen, h⟩ := h
  cases h
  refine PubkeyTable.LiesIn.within hwithin ⟨0, rfl, ?_, ?_⟩
  · simp only [Pubkey.read_table_length, Nat.mul_comm PUBKEY_SIZE]
    omega
  · simp only [Pubkey.read_table_length, List.drop_zero]

/-- The table of a header that parses lies in the bytes that were parsed. -/
theorem parse_message_header_lies {c d : Parser} {header : MessageHeader}
    (h : parse_message_header c = some (header, d)) : header.pubkeys.LiesIn c := by
  unfold parse_message_header at h
  rw [bind_eq_some] at h
  obtain ⟨v, c₁, hversion, h⟩ := h
  rw [bind_eq_some] at h
  obtain ⟨table, c₂, htable, h⟩ := h
  rw [bind_eq_some] at h
  obtain ⟨blockhash, c₃, -, h⟩ := h
  rw [bind_eq_some] at h
  obtain ⟨n, c₄, -, h⟩ := h
  cases h
  exact (parse_pubkeys_lies htable).within (forward_parse_version c v c₁ hversion)

/-! ## Reading keys through their index -/

theorem read_bytes_take {n : ℕ} {bytes : List UInt8} (h : n ≤ bytes.length) :
    read_bytes n bytes = bytes.take n := by
  rw [read_bytes, List.take_append_of_le_length h]

theorem Pubkey.read_take {bytes : List UInt8} (h : PUBKEY_SIZE ≤ bytes.length) :
    Pubkey.read (bytes.take PUBKEY_SIZE) = Pubkey.read bytes := by
  apply Pubkey.ext
  have hlen : (bytes.take PUBKEY_SIZE).length = PUBKEY_SIZE := List.length_take_of_le h
  change read_bytes _ _ = read_bytes _ _
  rw [read_bytes_take h, read_bytes_take (Nat.le_of_eq hlen.symm), List.take_take, Nat.min_self]

theorem read_table_getD {n i : ℕ} (h : i < n) (bytes : List UInt8) :
    (Pubkey.read_table n bytes).getD i Pubkey.zero =
      Pubkey.read (bytes.drop (PUBKEY_SIZE * i)) := by
  induction n generalizing bytes i with
  | zero => omega
  | succ n ih =>
    cases i with
    | zero => rfl
    | succ i =>
      rw [Pubkey.read_table, List.getD_cons_succ, ih (Nat.lt_of_succ_lt_succ h),
        List.drop_drop, Nat.mul_succ, Nat.add_comm]

variable {device : Device} {s : AppState}

/-- Bytes of the message are read from the message. -/
theorem message_bytes_eq {addr n : ℕ} (h : addr + n ≤ s.G_command.message_length) :
    ((List.range n).map fun k => message_byte device s (addr + k)) =
      (s.G_command.payload.drop addr).take n := by
  have hmax := s.G_command.message_length_le
  have hsize := s.G_command.message_size
  apply List.ext_getElem
  · simp only [List.length_map, List.length_range, List.length_take, List.length_drop,
      ApduCommand.payload_length]
    omega
  · intro k hk _
    rw [List.length_map, List.length_range] at hk
    have hlt : addr + k < MAX_MESSAGE_LENGTH := by omega
    simp only [List.getElem_map, List.getElem_range, List.getElem_take, List.getElem_drop,
      ApduCommand.payload, message_byte, if_pos hlt, List.getD_eq_getElem?_getD]
    rw [List.getElem?_eq_getElem (by omega), Option.getD_some]

/-- An index in the table: the key there is the one that was parsed, and its bytes are
in the message. -/
theorem pubkey_at_eq {pubkeys : PubkeyTable} {i : ℕ}
    (h : pubkeys.LiesIn ⟨0, s.G_command.payload⟩) (hi : i < pubkeys.keys.length) :
    pubkey_at device s pubkeys i = pubkeys.at_index i ∧
      pubkeys.addr + PUBKEY_SIZE * i + PUBKEY_SIZE ≤ s.G_command.message_length := by
  obtain ⟨n, haddr, hle, hkeys⟩ := h
  simp only [Nat.zero_add, ApduCommand.payload_length] at haddr hle
  have hend : n + PUBKEY_SIZE * i + PUBKEY_SIZE ≤ s.G_command.message_length := by
    have hmul : PUBKEY_SIZE * (i + 1) ≤ PUBKEY_SIZE * pubkeys.keys.length :=
      Nat.mul_le_mul_left _ hi
    rw [Nat.mul_succ] at hmul
    omega
  refine ⟨?_, by rw [haddr]; exact hend⟩
  have hbytes := ApduCommand.payload_length s.G_command
  rw [pubkey_at, PubkeyTable.at_index, hkeys, read_table_getD hi, haddr,
    message_bytes_eq hend, Pubkey.read_take (by rw [List.length_drop]; omega), List.drop_drop]

theorem PubkeyTable.at_index_key {pubkeys : PubkeyTable} {i : ℕ} (h : i < pubkeys.keys.length) :
    (pubkeys.at_index i).key = pubkeys.keys[i] :=
  (List.getElem_eq_getD Pubkey.zero).symm

/-! ## The signer that is found -/

/-- The index that the scan finds is below the number of signatures, and the key there is
the signer's. -/
theorem scan_header_for_signer_found {header : MessageHeader} {i : ℕ}
    (h : scan_header_for_signer device s header = some i) :
    i < header.pubkeys_header.num_required_signatures.toNat ∧
      (pubkey_at device s header.pubkeys i).key =
        device.get_public_key s.G_command.derivation_path := by
  have hmem := List.mem_of_find?_eq_some h
  have hkey := List.find?_some h
  rw [List.mem_range] at hmem
  exact ⟨hmem, of_decide_eq_true hkey⟩

/-- No key before it is the signer's. -/
theorem scan_header_for_signer_first {header : MessageHeader} {i j : ℕ}
    (h : scan_header_for_signer device s header = some i) (hj : j < i) :
    (pubkey_at device s header.pubkeys j).key ≠
      device.get_public_key s.G_command.derivation_path := by
  rw [scan_header_for_signer, List.find?_range_eq_some] at h
  obtain ⟨-, -, hbefore⟩ := h
  have hnot := hbefore j hj
  rw [Bool.not_eq_true'] at hnot
  exact of_decide_eq_false hnot

/-- The state after `transaction_summary_reset`. -/
def AppState.with_reset_summary (s : AppState) : AppState :=
  { s with
    G_transaction_summary := transaction_summary_reset
    G_transaction_summary_display := SummaryDisplay.reset }

/-- How `handle_sign_message_parse_message` completes: the header parses, the scan finds
the signer, and the summary is set. -/
structure ParsesMessage (device : Device) (s : AppState) (header : MessageHeader)
    (parser : Parser) (signer_index : ℕ) (t : AppState) : Prop where
  instruction : s.G_command.instruction = some .InsSignMessage
  complete : s.G_command.state = .ApduStatePayloadComplete
  parsed : parse_message_header ⟨0, s.G_command.payload⟩ = some (header, parser)
  signer_found : scan_header_for_signer device s header = some signer_index
  summarized : ∃ u,
    (summarize_message device parser (sign_print_config device s header signer_index)).run.run
      s.with_reset_summary = (.ok (), u) ∧
    (add_fee_payer (sign_print_config device s header signer_index)
      (pubkey_at device s header.pubkeys 0)).run.run u = (.ok (), t)

theorem parse_message_completes {t : AppState} {header : MessageHeader} {signer_index : ℕ}
    (h : (handle_sign_message_parse_message device).run.run s = (.ok (header, signer_index), t)) :
    ∃ parser, ParsesMessage device s header parser signer_index t := by
  unfold handle_sign_message_parse_message at h
  rw [get_bind, THROW_IF, throw_if_bind_eq_ok] at h
  obtain ⟨hcommand, h⟩ := h
  rw [of_except_bind_eq_ok] at h
  obtain ⟨⟨header', parser⟩, hparse, h⟩ := h
  rw [of_except_bind_eq_ok] at h
  obtain ⟨i, hscan, h⟩ := h
  rw [THROW_IF, throw_if_bind_eq_ok] at h
  obtain ⟨-, h⟩ := h
  rw [reset_summary, modify_bind, bind_eq_ok] at h
  obtain ⟨u₁, s₁, hsummarize, h⟩ := h
  rw [bind_eq_ok] at h
  obtain ⟨u₂, s₂, hfee, h⟩ := h
  -- Every stage has returned; what is left is to read off what each of them checked.
  cases h
  rw [not_or, not_not, not_not] at hcommand
  refine ⟨parser, hcommand.1, hcommand.2, ?_, ?_, s₁, hsummarize, hfee⟩
  · unfold parse_command_header at hparse
    split at hparse
    · rename_i parsed hparsed
      cases hparse
      exact hparsed
    · cases hparse
  · unfold find_signer at hscan
    split at hscan
    · rename_i j hfound
      cases hscan
      exact hfound
    · cases hscan

/-! ## When the signer is in the table -/

/-- The signer and the fee payer are account keys of the message, and every key that is
compared is read from the table. -/
structure KeysInTable (device : Device) (s : AppState) (header : MessageHeader)
    (signer_index : ℕ) : Prop where
  signer : signer_index < header.pubkeys_header.pubkeys_length
  fee_payer : 1 ≤ header.pubkeys_header.pubkeys_length
  compared : ∀ i, i ≤ signer_index →
    pubkey_at device s header.pubkeys i = header.pubkeys.at_index i ∧
      header.pubkeys.addr + PUBKEY_SIZE * i + PUBKEY_SIZE ≤ s.G_command.message_length

theorem KeysInTable.of_signer {header : MessageHeader} {signer_index : ℕ}
    (hlies : header.pubkeys.LiesIn ⟨0, s.G_command.payload⟩)
    (h : signer_index < header.pubkeys_header.pubkeys_length) :
    KeysInTable device s header signer_index where
  signer := h
  fee_payer := Nat.lt_of_le_of_lt (Nat.zero_le _) h
  compared i hi :=
    pubkey_at_eq hlies (by rw [header.pubkeys_count]; exact Nat.lt_of_le_of_lt hi h)

/-- A key of the table is found in the table, if it is the signer's. -/
theorem signer_index_lt_of_mem {header : MessageHeader} {signer_index : ℕ}
    (hlies : header.pubkeys.LiesIn ⟨0, s.G_command.payload⟩)
    (hscan : scan_header_for_signer device s header = some signer_index)
    (hmem : device.get_public_key s.G_command.derivation_path ∈ header.pubkeys.keys) :
    signer_index < header.pubkeys.keys.length := by
  by_contra hge
  obtain ⟨j, hj, hkey⟩ := List.mem_iff_getElem.mp hmem
  refine scan_header_for_signer_first hscan (show j < signer_index by omega) ?_
  rw [(pubkey_at_eq hlies hj).1, PubkeyTable.at_index_key hj, hkey]

/-! ## Concrete messages -/

/-- A run that is seen to return a value with a property. -/
theorem returns_any {α : Type} {p : App α} {P : α → Prop} [DecidablePred P]
    (h : (match (p.run.run s).1 with
      | .ok a => decide (P a)
      | .error _ => false) = true) :
    ∃ a t, p.run.run s = (.ok a, t) ∧ P a := by
  rcases hrun : p.run.run s with ⟨e | a, t⟩
  · rw [hrun] at h
    cases h
  · rw [hrun] at h
    exact ⟨a, t, rfl, of_decide_eq_true h⟩

/-- A device whose only key is all nines, with zeros after the message. -/
def nines_device : Device where
  get_public_key _ := Pubkey.fill 9
  cx_hash_sha256 _ := Hash.fill 0
  byte_after_message _ _ := 0

/-- A transfer between two accounts, with a given number of signatures. -/
def transfer_message (num_required_signatures : UInt8) (pubkeys : List Pubkey) : MessageValue where
  version := none
  num_required_signatures
  num_readonly_signed_accounts := 0
  num_readonly_unsigned_accounts := 1
  pubkeys
  blockhash := Hash.fill 9
  instructions := [⟨2, [0, 1], [2, 0, 0, 0, 5, 0, 0, 0, 0, 0, 0, 0]⟩]

def user_settings : AppSettings where
  allow_blind_sign := false
  pubkey_display_long := true
  display_mode_expert := false

def coin_path : DerivationPath where
  words := [0x8000002c]
  length_pos := by decide
  length_le := by decide

/-- The app when it has received a message to sign. -/
def received (payload : List UInt8) (h : payload.length ≤ MAX_MESSAGE_LENGTH) : AppState :=
  { coin_main user_settings with
    G_command := (Assembly.mk .InsSignMessage false coin_path payload h).command
      .ApduStatePayloadComplete }

/-- The signer is the first key. -/
def own_transfer : AppState :=
  received (transfer_message 1 [Pubkey.fill 9, Pubkey.fill 2, system_program_id]).encode
    (by decide +kernel)

/-- Four signatures, three keys: what lies at the fourth index is the blockhash, and that
is the signer's key. -/
def foreign_transfer : AppState :=
  received (transfer_message 4 [Pubkey.fill 1, Pubkey.fill 2, system_program_id]).encode
    (by decide +kernel)

/-! ## The condition -/

/-- **The signer is found in the table exactly when** the header asks for no more
signatures than there are keys, or the signer's key is one of them. -/
theorem signer_in_table_iff {t : AppState} {header : MessageHeader} {signer_index : ℕ}
    (h : (handle_sign_message_parse_message device).run.run s = (.ok (header, signer_index), t)) :
    KeysInTable device s header signer_index ↔
      header.pubkeys_header.num_required_signatures.toNat ≤ header.pubkeys_header.pubkeys_length ∨
        device.get_public_key s.G_command.derivation_path ∈ header.pubkeys.keys := by
  obtain ⟨parser, hparses⟩ := parse_message_completes h
  have hlies := parse_message_header_lies hparses.parsed
  obtain ⟨hlt, hkey⟩ := scan_header_for_signer_found hparses.signer_found
  constructor
  · intro hkeys
    right
    have hin : signer_index < header.pubkeys.keys.length := by
      rw [header.pubkeys_count]
      exact hkeys.signer
    rw [← hkey, (hkeys.compared signer_index (Nat.le_refl _)).1, PubkeyTable.at_index_key hin]
    exact List.getElem_mem hin
  · rintro (hle | hmem)
    · exact KeysInTable.of_signer hlies (Nat.lt_of_lt_of_le hlt hle)
    · have hin := signer_index_lt_of_mem hlies hparses.signer_found hmem
      rw [header.pubkeys_count] at hin
      exact KeysInTable.of_signer hlies hin

theorem own_transfer_signer_in_table : ∃ header signer_index t,
    (handle_sign_message_parse_message nines_device).run.run own_transfer =
      (.ok (header, signer_index), t) ∧
    KeysInTable nines_device own_transfer header signer_index := by
  obtain ⟨⟨header, signer_index⟩, t, hrun, hcondition⟩ := returns_any (s := own_transfer)
    (p := handle_sign_message_parse_message nines_device)
    (P := fun r => r.1.pubkeys_header.num_required_signatures.toNat ≤
      r.1.pubkeys_header.pubkeys_length) (by decide +kernel)
  exact ⟨header, signer_index, t, hrun, (signer_in_table_iff hrun).mpr (Or.inl hcondition)⟩

/-- The function completes with the blockhash as the signer. -/
theorem foreign_transfer_completes : ∃ header signer_index t,
    (handle_sign_message_parse_message nines_device).run.run foreign_transfer =
      (.ok (header, signer_index), t) ∧
    ¬KeysInTable nines_device foreign_transfer header signer_index := by
  obtain ⟨⟨header, signer_index⟩, t, hrun, houtside⟩ := returns_any (s := foreign_transfer)
    (p := handle_sign_message_parse_message nines_device)
    (P := fun r => r.1.pubkeys_header.pubkeys_length ≤ r.2) (by decide +kernel)
  exact ⟨header, signer_index, t, hrun, fun h => Nat.not_lt.mpr houtside h.signer⟩

end RenecLedger
