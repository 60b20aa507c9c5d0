/-
`G_command` stays well formed, and is handled within bounds.

The code on buffers ends as the code on lists does (`simulates_apdu_handle_message`), so it
never faults. What the arrays hold behind their lengths is an invariant of its own (`Tidy`),
which every APDU preserves. `command_in_bounds` puts the two together over all sequences of
APDUs, and says that the app's own runs are such sequences.
-/
import RenecLedger.Reassembly
import RenecLedger.OffchainSpec
import RenecLedger.TextSpec
import RenecLedger.RawApdu

set_option autoImplicit false

open MachineLib ProgramLib

namespace RenecLedger

/-! ## Buffers and lists -/

/-- The two arrays of a command in memory hold the path and the message of a command.
The path is what its array begins with; the message is the same with what lies behind
it. -/
structure Represents (r : Raw.ApduCommand) (c : ApduCommand) : Prop where
  state : r.state = c.state
  instruction : r.instruction = c.instruction
  num_derivation_paths : r.num_derivation_paths = c.num_derivation_paths
  non_confirm : r.non_confirm = c.non_confirm
  path_size : r.derivation_path.length = MAX_BIP32_PATH_LENGTH
  path_length : r.derivation_path_length.toNat = c.derivation_path.length
  path : r.derivation_path.take c.derivation_path.length = c.derivation_path
  message : r.message = c.message
  message_length : r.message_length = c.message_length
  message_hash : r.message_hash = c.message_hash

/-- Error codes are the same, and there is nothing like a fault. So a simulation for
this relation says that the code on buffers never goes out of bounds. -/
def SameReply : Raw.Failure → ApduReply → Prop
  | .reply e, e' => e = e'
  | .fault, _ => False

/-- A pointer into the APDU and a length, and the bytes that are there. A null pointer
stands for no data, as the header has it. -/
def DataAt (m : List UInt8) : Option ℕ × ℕ → Option (List UInt8) → Prop
  | (none, n), none => n = 0
  | (some i, n), some data => i + n = m.length ∧ m.drop i = data
  | _, _ => False

/-- The two headers of an APDU say the same, and the data they refer to lies inside it. -/
structure SameHeader (m : List UInt8) (h : Raw.ApduHeader) (h' : ApduHeader) : Prop where
  instruction : h.instruction = h'.instruction
  p1 : h.p1 = h'.p1
  p2 : h.p2 = h'.p2
  data : DataAt m (h.data, h.data_length) h'.data
  size : m.length ≤ 255 + OFFSET_CDATA

/-- The data a header refers to is as long as the header says. -/
theorem DataAt.length {m data : List UInt8} {i n : ℕ} (h : DataAt m (some i, n) (some data)) :
    data.length = n := by
  obtain ⟨hlen, rfl⟩ := h
  rw [List.length_drop]
  omega

/-- No data, or an empty piece of them. -/
theorem DataAt.eq_nil {m : List UInt8} {i : Option ℕ} {n : ℕ} {data : Option (List UInt8)}
    (h : DataAt m (i, n) data) (hn : n = 0) : data.getD [] = [] := by
  cases i with
  | none =>
    cases data with
    | none => rfl
    | some data => cases h
  | some i =>
    cases data with
    | none => cases h
    | some data => exact List.eq_nil_of_length_eq_zero (h.length.trans hn)

/-- Data of a length that is not zero is there, and has a first byte. -/
theorem DataAt.eq_cons {m : List UInt8} {i : Option ℕ} {n : ℕ} {data : Option (List UInt8)}
    (h : DataAt m (i, n) data) (hn : n ≠ 0) :
    ∃ k x rest, i = some k ∧ data = some (x :: rest) := by
  cases i with
  | none =>
    cases data with
    | none => exact absurd h hn
    | some data => cases h
  | some i =>
    cases data with
    | none => cases h
    | some data =>
      obtain ⟨x, rest, rfl⟩ := List.exists_cons_of_length_pos
        (h.length ▸ Nat.pos_of_ne_zero hn : 0 < data.length)
      exact ⟨i, x, rest, rfl, rfl⟩

/-- A pointer that is moved forward within its data. -/
theorem DataAt.advance {m data : List UInt8} {i n k : ℕ} (h : DataAt m (some i, n) (some data))
    (hk : k ≤ n) : DataAt m (some (i + k), n - k) (some (data.drop k)) := by
  obtain ⟨hlen, rfl⟩ := h
  refine ⟨by omega, ?_⟩
  rw [List.drop_drop]

/-! ## Accesses in bounds -/

/-- Reading inside a buffer succeeds. -/
theorem checked_at {m : List UInt8} {i : ℕ} (h : i < m.length) :
    Raw.checked m[i]? = pure (m.getD i 0) := by
  rw [List.getD_eq_getElem?_getD, List.getElem?_eq_getElem h]
  rfl

/-- Reading a byte of the data through the pointer. -/
theorem checked_data {m data : List UInt8} {i n k : ℕ} (h : DataAt m (some i, n) (some data))
    (hk : k < n) : Raw.checked m[i + k]? = pure (data.getD k 0) := by
  obtain ⟨hlen, rfl⟩ := h
  rw [checked_at (by omega), List.getD_eq_getElem?_getD, List.getD_eq_getElem?_getD,
    List.getElem?_drop]

/-- Subtracting no more than there is does not wrap. -/
theorem checked_sub_length {a b : ℕ} (h : b ≤ a) :
    Raw.checked (Raw.sub_length a b) = pure (a - b) := by
  rw [Raw.sub_length, if_pos h]
  rfl

/-- Writing inside an array succeeds. -/
theorem checked_store {α : Type} {array : List α} {i : ℕ} (h : i < array.length) (a : α) :
    Raw.checked (Raw.store array i a) = pure (array.take i ++ a :: array.drop (i + 1)) := by
  rw [Raw.store, if_pos h, List.set_eq_take_append_cons_drop, if_pos h]
  rfl

/-- An early return ends the function with its status word. -/
theorem return_if_pos {c : Prop} [Decidable c] (h : c) (reply : ApduReply) (s : Raw.ApduCommand) :
    (Raw.return_if c reply).run.run s = (.error (.reply reply), s) := throw_if_pos h _ s

/-- A check that passes does nothing. -/
theorem return_if_neg {c : Prop} [Decidable c] (h : ¬c) (reply : ApduReply) (s : Raw.ApduCommand) :
    (Raw.return_if c reply).run.run s = (.ok (), s) := throw_if_neg h _ s

/-- An early return of the code is a throw of the model, under the same condition. -/
theorem simulates_return_if {c d : Prop} [Decidable c] [Decidable d] (hcd : c ↔ d)
    (reply : ApduReply) :
    Simulates Represents SameReply (fun _ _ => True) (Raw.return_if c reply) (throw_if d reply) :=
  simulates_throw_if hcd rfl

/-! ## The header -/

/-- The code's header is the model's, read inside the buffer throughout. -/
theorem simulates_parse_apdu_header (m : List UInt8) :
    Simulates Represents SameReply (SameHeader m) (Raw.parse_apdu_header m)
      (of_except (parse_apdu_header m)) := by
  unfold Raw.parse_apdu_header parse_apdu_header
  intro r c hR
  by_cases hshort : m.length ≤ OFFSET_INS
  · rw [if_pos hshort, bind_of_error (return_if_pos hshort _ _)]
    exact ⟨rfl, hR⟩
  rw [if_neg hshort, bind_of_ok (return_if_neg hshort _ _)]
  -- From here on the bytes up to INS may be read.
  have hins : OFFSET_INS < m.length := Nat.not_le.mp hshort
  rw [checked_at (Nat.lt_trans (by decide) hins), pure_bind]
  by_cases hclass : m.getD OFFSET_CLA 0 ≠ CLA
  · rw [if_pos hclass, bind_of_error (return_if_pos hclass _ _)]
    exact ⟨rfl, hR⟩
  rw [if_neg hclass, bind_of_ok (return_if_neg hclass _ _), checked_at hins, pure_bind]
  cases hcode : InstructionCode.ofByte (m.getD OFFSET_INS 0) with
  | none => exact ⟨rfl, hR⟩
  | some instruction =>
    dsimp only
    by_cases hheader : m.length < OFFSET_CDATA
    · rw [if_pos hheader, bind_of_error (return_if_pos hheader _ _)]
      exact ⟨rfl, hR⟩
    rw [if_neg hheader, bind_of_ok (return_if_neg hheader _ _)]
    by_cases hlong : m.length > 255 + OFFSET_CDATA
    · rw [if_pos hlong, bind_of_error (return_if_pos hlong _ _)]
      exact ⟨rfl, hR⟩
    -- The header is there as a whole, and LC can be compared with what follows it.
    have hcdata : OFFSET_CDATA ≤ m.length := Nat.not_lt.mp hheader
    rw [if_neg hlong, bind_of_ok (return_if_neg hlong _ _),
      checked_at (Nat.lt_of_lt_of_le (by decide) hcdata), pure_bind]
    by_cases hlength : m.length ≠ (m.getD OFFSET_LC 0).toNat + OFFSET_CDATA
    · rw [if_pos hlength, bind_of_error (return_if_pos hlength _ _)]
      exact ⟨rfl, hR⟩
    rw [if_neg hlength, bind_of_ok (return_if_neg hlength _ _),
      checked_at (Nat.lt_of_lt_of_le (by decide) hcdata), pure_bind,
      checked_at (Nat.lt_of_lt_of_le (by decide) hcdata), pure_bind]
    refine ⟨⟨rfl, rfl, rfl, ?_, Nat.not_lt.mp hlong⟩, hR⟩
    -- Only a length above zero makes a data pointer; otherwise it stays null.
    rw [not_not] at hlength
    by_cases hdata : (m.getD OFFSET_LC 0).toNat > 0
    · rw [if_pos hdata, if_pos hdata]
      exact ⟨by rw [hlength, Nat.add_comm], rfl⟩
    · rw [if_neg hdata, if_neg hdata]
      exact Nat.eq_zero_of_not_pos hdata

/-- The two headers agree on whether a command begins. -/
theorem SameHeader.first_data_chunk {m : List UInt8} {h : Raw.ApduHeader} {h' : ApduHeader}
    (hsame : SameHeader m h h') : h.first_data_chunk = h'.first_data_chunk := by
  rw [Raw.ApduHeader.first_data_chunk, ApduHeader.first_data_chunk, hsame.p2]

/-- The two headers agree on whether to ask the user. -/
theorem SameHeader.non_confirm {m : List UInt8} {h : Raw.ApduHeader} {h' : ApduHeader}
    (hsame : SameHeader m h h') : h.non_confirm = h'.non_confirm := by
  rw [Raw.ApduHeader.non_confirm, ApduHeader.non_confirm, hsame.p1]

/-- The two headers agree on whether chunks are to follow. -/
theorem SameHeader.more {m : List UInt8} {h : Raw.ApduHeader} {h' : ApduHeader}
    (hsame : SameHeader m h h') : h.more = h'.more := by
  rw [Raw.ApduHeader.more, ApduHeader.more, hsame.p2]

/-! ## The parts of handling a chunk -/

/-- A cleared command represents the empty one. -/
theorem represents_zeroed : Represents Raw.ApduCommand.zeroed ApduCommand.cleared where
  state := rfl
  instruction := rfl
  num_derivation_paths := rfl
  non_confirm := rfl
  path_size := rfl
  path_length := rfl
  path := rfl
  message := rfl
  message_length := rfl
  message_hash := rfl

section Chunk

variable {m : List UInt8} {h : Raw.ApduHeader} {h' : ApduHeader}

/-- The checks of a chunk against the command are the same. -/
theorem simulates_begin_chunk (hsame : SameHeader m h h') :
    Simulates Represents SameReply (fun _ _ => True) (Raw.begin_chunk h) (begin_chunk h') := by
  unfold Raw.begin_chunk begin_chunk
  refine simulates_ite ?_ (fun _ => simulates_set represents_zeroed) fun _ => ?_
  · rw [hsame.instruction, hsame.first_data_chunk]
  · refine simulates_bind simulates_get fun r c hR => simulates_return_if ?_ _
    rw [Raw.ApduCommand.in_progress, ApduCommand.in_progress, hR.state, hR.instruction,
      hR.non_confirm, hR.num_derivation_paths, hsame.instruction, hsame.non_confirm]

/-- The number of paths is read inside the buffer, and refused alike. -/
theorem simulates_read_num_derivation_paths (hsame : SameHeader m h h') :
    Simulates Represents SameReply (DataAt m) (Raw.read_num_derivation_paths m h)
      (read_num_derivation_paths h') := by
  unfold Raw.read_num_derivation_paths read_num_derivation_paths
  have hdata := hsame.data
  refine simulates_ite (by rw [hsame.instruction]) (fun _ => ?_) fun _ => ?_
  · intro r c hR
    -- The byte is read and the length lowered only after the check for no data, so neither
    -- the read nor the subtraction can leave the buffer.
    by_cases hzero : h.data_length = 0
    · rw [bind_of_error (return_if_pos hzero _ _)]
      have hempty : h'.data.getD [] = [] := hdata.eq_nil hzero
      cases hbytes : h'.data with
      | none => exact ⟨rfl, hR⟩
      | some data =>
        rw [hbytes, Option.getD_some] at hempty
        rw [hempty]
        exact ⟨rfl, hR⟩
    · obtain ⟨i, x, rest, hptr, hbytes⟩ := hdata.eq_cons hzero
      rw [hptr, hbytes] at hdata
      have hbyte := checked_data hdata (Nat.pos_of_ne_zero hzero)
      rw [bind_of_ok (return_if_neg hzero _ _), hptr, hbytes,
        checked_sub_length (Nat.pos_of_ne_zero hzero)]
      change SameEnd Represents SameReply (DataAt m)
        ((Raw.checked m[i]? >>= _ : Raw.ApduM _).run.run r) _
      rw [Nat.add_zero] at hbyte
      rw [hbyte]
      refine (simulates_bind (simulates_modify fun r c hR => ?_) fun _ _ _ =>
        simulates_bind (simulates_return_if Iff.rfl _) fun _ _ _ => simulates_pure ?_) r c hR
      · exact { hR with num_derivation_paths := rfl }
      · exact hdata.advance (Nat.pos_of_ne_zero hzero)
  · refine simulates_bind (simulates_modify fun r c hR => ?_) fun _ _ _ => simulates_pure hdata
    exact { hR with num_derivation_paths := rfl }

/-- Inside a buffer the rest begins with the byte at the index. -/
theorem drop_eq_getD {p : ℕ} (h : p < m.length) : m.drop p = m.getD p 0 :: m.drop (p + 1) := by
  rw [List.drop_eq_getElem_cons h, List.getElem_eq_getD 0]

/-- Storing one element and then the ones after it. -/
theorem store_then {α : Type} {array : List α} {i : ℕ} (h : i < array.length) (a : α)
    (rest : List α) (n : ℕ) :
    (array.take i ++ a :: array.drop (i + 1)).take (i + 1) ++ rest ++
        (array.take i ++ a :: array.drop (i + 1)).drop (i + 1 + n) =
      array.take i ++ a :: rest ++ array.drop (i + (n + 1)) := by
  have hfront : (array.take i ++ [a]).length = i + 1 := by
    rw [List.length_append, List.length_take_of_le (Nat.le_of_lt h), List.length_singleton]
  have hsplit : array.take i ++ a :: array.drop (i + 1) =
      (array.take i ++ [a]) ++ array.drop (i + 1) := by
    rw [List.append_assoc, List.singleton_append]
  have hback : ((array.take i ++ [a]) ++ array.drop (i + 1)).drop (i + 1 + n) =
      array.drop (i + (n + 1)) := by
    rw [← List.drop_drop, List.drop_left' hfront, List.drop_drop]
    congr 1
    omega
  rw [hsplit, List.take_left' hfront, hback, List.append_assoc, List.append_assoc,
    List.singleton_append, List.append_assoc, List.cons_append]

/-- The indices of a path are read from the data, and stored one after the other. -/
theorem read_indices_run {rounds i p : ℕ} (r : Raw.ApduCommand) (hread : p + 4 * rounds ≤ m.length)
    (hstore : i + rounds ≤ r.derivation_path.length) :
    (Raw.read_indices m rounds i p).run.run r =
      (.ok (), { r with
        derivation_path := r.derivation_path.take i ++ read_u32_be rounds (m.drop p) ++
          r.derivation_path.drop (i + rounds) }) := by
  induction rounds generalizing i p r with
  | zero =>
    have hnone : read_u32_be 0 (m.drop p) = [] := rfl
    rw [Raw.read_indices, run_pure, hnone, List.append_nil, Nat.add_zero, List.take_append_drop]
  | succ rounds ih =>
    have hbytes : m.drop p = m.getD p 0 :: m.getD (p + 1) 0 :: m.getD (p + 2) 0 ::
        m.getD (p + 3) 0 :: m.drop (p + 4) := by
      rw [drop_eq_getD (by omega), drop_eq_getD (by omega), drop_eq_getD (by omega),
        drop_eq_getD (by omega)]
    have hi : i < r.derivation_path.length := by omega
    rw [Raw.read_indices, checked_at (by omega), pure_bind, checked_at (by omega), pure_bind,
      checked_at (by omega), pure_bind, checked_at (by omega), pure_bind, get_bind,
      checked_store hi, pure_bind, set_bind]
    have htake : (r.derivation_path.take i).length = i := List.length_take_of_le (by omega)
    rw [ih _ (by omega) (by
      dsimp only
      rw [List.length_append, htake, List.length_cons, List.length_drop]
      omega), hbytes, read_u32_be]
    dsimp only
    rw [store_then hi]

/-- A path is read as it is from the bytes, or refused with the same reply. -/
theorem read_derivation_path_run {r : Raw.ApduCommand} {c : ApduCommand} (hR : Represents r c)
    {i : Option ℕ} {n : ℕ} {data : Option (List UInt8)} (hdata : DataAt m (i, n) data) :
    match read_derivation_path data with
    | .error reply => (Raw.read_derivation_path m i n).run.run r = (.error (.reply reply), r)
    | .ok words => ∃ r', (Raw.read_derivation_path m i n).run.run r = (.ok (), r') ∧
        Represents r' { c with derivation_path := words } ∧ 1 + words.length * 4 ≤ n := by
  by_cases hzero : n = 0
  · cases i with
    | none =>
      cases data with
      | none => rfl
      | some data => cases hdata
    | some i =>
      cases data with
      | none => cases hdata
      | some data =>
        have hempty : data = [] := hdata.eq_nil hzero
        rw [hempty]
        exact bind_of_error (return_if_pos hzero _ _)
  · obtain ⟨k, len, rest, rfl, rfl⟩ := hdata.eq_cons hzero
    have hlength := hdata.length
    have hbyte := checked_data hdata (Nat.pos_of_ne_zero hzero)
    rw [Nat.add_zero] at hbyte
    rw [List.length_cons] at hlength
    rw [Raw.read_derivation_path, bind_of_ok (return_if_neg hzero _ _), hbyte, pure_bind,
      read_derivation_path, List.getD_cons_zero]
    -- Both checks come before the loop: the length byte bounds the stores, the size of
    -- the data bounds the reads.
    by_cases hlen : len.toNat < 1 ∨ len.toNat > MAX_BIP32_PATH_LENGTH
    · rw [if_pos hlen]
      exact bind_of_error (return_if_pos hlen _ _)
    rw [if_neg hlen, bind_of_ok (return_if_neg hlen _ _)]
    by_cases hsize : 1 + 4 * len.toNat > n
    · rw [if_pos (by omega)]
      exact bind_of_error (return_if_pos hsize _ _)
    rw [if_neg (by omega), bind_of_ok (return_if_neg hsize _ _)]
    obtain ⟨hwords, -⟩ := encode_read_u32_be (by omega : len.toNat * 4 ≤ rest.length)
    obtain ⟨hend, hdrop⟩ := hdata
    have hrest : m.drop (k + 1) = rest := by
      rw [← List.drop_drop, hdrop]
      rfl
    have hread : k + 1 + 4 * len.toNat ≤ m.length := by omega
    have hstore : 0 + len.toNat ≤ r.derivation_path.length := by
      rw [hR.path_size]
      omega
    rw [bind_of_ok (read_indices_run r hread hstore), run_modify, hrest]
    -- The stores keep the size of the array; what lies behind the path is not looked at.
    refine ⟨_, rfl, { hR with path_size := ?_, path_length := ?_, path := ?_ }, ?_⟩
    · dsimp only
      rw [List.take_zero, List.nil_append, List.length_append, hwords, List.length_drop,
        hR.path_size]
      omega
    · dsimp only
      rw [hwords, UInt8.toNat_toUInt32]
    · dsimp only
      rw [List.take_zero, List.nil_append, List.take_left]
    · rw [hwords]
      omega

/-- The path is read inside the buffer; what follows it is the first of the payload. -/
theorem simulates_read_first_chunk (hsame : SameHeader m h h') :
    Simulates Represents SameReply (DataAt m) (Raw.read_first_chunk m h) (read_first_chunk h') := by
  unfold Raw.read_first_chunk read_first_chunk
  refine simulates_bind (simulates_read_num_derivation_paths hsame) fun ⟨i, n⟩ data hdata => ?_
  intro r c hR
  have hread := read_derivation_path_run hR hdata
  cases hpath : read_derivation_path data with
  | error reply =>
    rw [hpath] at hread
    rw [bind_of_error hread]
    exact ⟨rfl, hR⟩
  | ok words =>
    rw [hpath] at hread
    obtain ⟨r', hrun, hR', hle⟩ := hread
    have hlength : r'.derivation_path_length.toNat = words.length := hR'.path_length
    obtain ⟨k, x, rest, rfl, rfl⟩ := hdata.eq_cons (by omega)
    rw [bind_of_ok hrun, get_bind, hlength]
    dsimp only
    rw [checked_sub_length hle]
    exact ⟨hdata.advance hle, hR'⟩

/-- There is room behind the message for the data. -/
theorem checked_copy {r : Raw.ApduCommand} {c : ApduCommand} (hR : Represents r c)
    {data : List UInt8} (hle : c.message_length + data.length ≤ MAX_MESSAGE_LENGTH) :
    Raw.checked (Raw.copy r.message r.message_length data) =
      pure (c.append data hle).message := by
  have hfits : 0 ≤ r.message_length ∧
      r.message_length.toNat + data.length ≤ r.message.length := by
    rw [hR.message_length, hR.message, c.message_size, Int.toNat_natCast]
    exact ⟨Int.natCast_nonneg _, hle⟩
  rw [Raw.copy, if_pos hfits, hR.message_length, hR.message, Int.toNat_natCast]
  rfl

/-- The copy stays inside the message's array when the model's check passes, and is
refused alike when not. -/
theorem simulates_copy_data (hsame : SameHeader m h h') {i : Option ℕ} {n : ℕ}
    {data : Option (List UInt8)} (hdata : DataAt m (i, n) data) :
    Simulates Represents SameReply (fun _ _ => True) (Raw.copy_data m h i n)
      (copy_data h' data) := by
  cases data with
  | none =>
    cases i with
    | some i => cases hdata
    | none => exact simulates_return_if (by rw [hsame.instruction]) _
  | some data =>
    cases i with
    | none => cases hdata
    | some i =>
      intro r c hR
      have hlength := hdata.length
      obtain ⟨hend, hdrop⟩ := hdata
      have hmax : MAX_MESSAGE_LENGTH = 1280 := rfl
      have hsize : SIZE_MAX = 4294967295 := rfl
      have hcdata : OFFSET_CDATA = 5 := rfl
      have hmessage := c.message_length_le
      have hheader := hsame.size
      -- Neither conversion to `size_t` changes its value, and their sum does not wrap.
      have htotal : (to_size r.message_length + n) % (SIZE_MAX + 1) =
          c.message_length + data.length := by
        rw [hR.message_length, to_size_natCast (by omega), hlength, Nat.mod_eq_of_lt (by omega)]
      have hload : Raw.load m i n = some data := by
        rw [Raw.load, if_pos (by omega), hdrop, ← hlength, List.take_length]
      rw [Raw.copy_data, copy_data, get_bind, get_bind, htotal]
      by_cases hle : c.message_length + data.length ≤ MAX_MESSAGE_LENGTH
      · rw [bind_of_ok (return_if_neg (by omega) _ _), dif_pos hle, hload]
        change SameEnd Represents SameReply (fun _ _ => True)
          ((Raw.checked (Raw.copy r.message r.message_length data) >>= _ : Raw.ApduM _).run.run r) _
        rw [checked_copy hR hle, pure_bind, run_set, run_set]
        refine ⟨trivial, { hR with message := rfl, message_length := ?_ }⟩
        change r.message_length + (n : ℤ) = ((c.message_length + data.length : ℕ) : ℤ)
        rw [hR.message_length, hlength, Int.natCast_add]
      · rw [bind_of_error (return_if_pos (by omega) _ _), dif_neg hle]
        exact ⟨rfl, hR⟩

/-- All that a header's data can do, one case an instruction. -/
theorem simulates_handle_apdu_header (hsame : SameHeader m h h') :
    Simulates Represents SameReply (fun _ _ => True) (Raw.handle_apdu_header m h)
      (handle_apdu_header h') := by
  unfold Raw.handle_apdu_header handle_apdu_header
  refine simulates_ite (by rw [hsame.instruction]) (fun _ => ?_) fun _ => ?_
  · refine simulates_set ?_
    rw [hsame.instruction, hsame.non_confirm]
    exact { represents_zeroed with state := rfl, instruction := rfl, non_confirm := rfl }
  refine simulates_bind (simulates_begin_chunk hsame) fun _ _ _ => ?_
  refine simulates_bind (A := DataAt m) (simulates_ite (by rw [hsame.first_data_chunk])
    (fun _ => simulates_read_first_chunk hsame) fun _ => simulates_pure hsame.data)
    fun ⟨i, n⟩ data hdata => ?_
  refine simulates_bind (simulates_modify fun r c hR => ?_) fun _ _ _ => ?_
  · rw [hsame.instruction, hsame.non_confirm]
    exact { hR with state := rfl, instruction := rfl, non_confirm := rfl }
  refine simulates_bind (simulates_copy_data hsame hdata) fun _ _ _ => ?_
  refine simulates_run_if (by rw [hsame.more]) (simulates_modify fun r c hR => ?_)
  exact { hR with state := rfl }

end Chunk

/-- **The code on buffers ends as the code on lists does**, so it does not fault. -/
theorem simulates_apdu_handle_message (m : List UInt8) :
    Simulates Represents SameReply (fun _ _ => True) (Raw.apdu_handle_message m)
      (apdu_handle_message m) :=
  simulates_bind (simulates_parse_apdu_header m) fun _ _ hsame => simulates_handle_apdu_header hsame

/-! ## Behind the lengths -/

/-- The message is zeros behind its length, and the path is not longer than its array.
It is kept because the command is cleared before a first chunk is copied. -/
structure ApduCommand.Tidy (c : ApduCommand) : Prop where
  zero_tail : ∀ b ∈ c.message.drop c.message_length, b = 0
  path_le : c.derivation_path.length ≤ MAX_BIP32_PATH_LENGTH

/-- The cleared command is tidy. -/
theorem tidy_cleared : ApduCommand.cleared.Tidy where
  zero_tail := fun _ hb => List.eq_of_mem_replicate (List.mem_of_mem_drop hb)
  path_le := Nat.zero_le _

/-- New data lie on zeros, and the zeros behind them stay. -/
theorem ApduCommand.Tidy.append {c : ApduCommand} (h : c.Tidy) {data : List UInt8}
    (hle : c.message_length + data.length ≤ MAX_MESSAGE_LENGTH) : (c.append data hle).Tidy where
  zero_tail := by
    have hfront : (c.payload ++ data).length = c.message_length + data.length := by
      rw [List.length_append, ApduCommand.payload_length]
    change ∀ b ∈ (c.payload ++ data ++ c.message.drop (c.message_length + data.length)).drop
      (c.message_length + data.length), b = 0
    rw [List.drop_left' hfront, ← List.drop_drop]
    exact fun b hb => h.zero_tail b (List.mem_of_mem_drop hb)
  path_le := h.path_le

/-- Beginning a chunk keeps the command tidy. -/
theorem preserves_begin_chunk (header : ApduHeader) :
    Preserves ApduCommand.Tidy (begin_chunk header) :=
  preserves_ite (fun _ _ => tidy_cleared) (preserves_bind preserves_get fun _ _ _ _ =>
    preserves_throw_if _)

/-- Reading the number of paths keeps the command tidy. -/
theorem preserves_read_num_derivation_paths (header : ApduHeader) :
    Preserves ApduCommand.Tidy (read_num_derivation_paths header) := by
  refine preserves_ite ?_ ?_
  · split
    · refine preserves_bind (preserves_modify fun c h => ?_) fun _ _ _ _ =>
        preserves_bind (preserves_throw_if _) fun _ _ _ _ => preserves_pure _
      exact ⟨h.zero_tail, h.path_le⟩
    · exact preserves_throw _
  · refine preserves_bind (preserves_modify fun c h => ?_) fun _ _ _ _ => preserves_pure _
    exact ⟨h.zero_tail, h.path_le⟩

/-- Reading a path keeps the command tidy: it has at most five indices. -/
theorem preserves_read_first_chunk (header : ApduHeader) :
    Preserves ApduCommand.Tidy (read_first_chunk header) := by
  refine preserves_bind (preserves_read_num_derivation_paths header) fun _ data _ _ => ?_
  refine preserves_bind (preserves_of_except _) fun _ words _ hrun => ?_
  obtain ⟨hwords, -⟩ := of_except_eq_ok.mp hrun
  refine preserves_bind (preserves_modify fun c h => ⟨h.zero_tail, ?_⟩) fun _ _ _ _ =>
    preserves_pure _
  cases data with
  | none => cases hwords
  | some data =>
    obtain ⟨path, rest, -, rfl⟩ := read_derivation_path_iff.mp hwords
    exact path.length_le

/-- Copying keeps the command tidy: the length is checked first. -/
theorem preserves_copy_data (header : ApduHeader) (data : Option (List UInt8)) :
    Preserves ApduCommand.Tidy (copy_data header data) := by
  unfold copy_data
  split
  · intro c h
    rw [get_bind]
    split
    · exact h.append _
    · exact h
  · exact preserves_throw_if _

/-- Whatever an APDU does to a command, it leaves it tidy. -/
theorem preserves_apdu_handle_message (m : List UInt8) :
    Preserves ApduCommand.Tidy (apdu_handle_message m) := by
  refine preserves_bind (preserves_of_except _) fun _ header _ _ => ?_
  refine preserves_ite (fun _ _ => ⟨tidy_cleared.zero_tail, tidy_cleared.path_le⟩) ?_
  refine preserves_bind (preserves_begin_chunk header) fun _ _ _ _ => ?_
  refine preserves_bind (preserves_ite (preserves_read_first_chunk header) (preserves_pure _))
    fun _ data _ _ => ?_
  refine preserves_bind (preserves_modify fun c h => ⟨h.zero_tail, h.path_le⟩) fun _ _ _ _ => ?_
  refine preserves_bind (preserves_copy_data header data) fun _ _ _ _ => ?_
  exact preserves_run_if (preserves_modify fun c h => ⟨h.zero_tail, h.path_le⟩)

/-! ## Sequences of APDUs -/

/-- What `G_command` can be after these APDUs: one that is refused clears it, and the
handler of one that is not may set the hash. It is about the code on buffers, without
the rest of the app. -/
inductive Raw.Reaches : List (List UInt8) → Raw.ApduCommand → Prop
  | zeroed : Raw.Reaches [] Raw.ApduCommand.zeroed
  | handled {apdus : List (List UInt8)} {r r' : Raw.ApduCommand} {m : List UInt8}
      (h : Raw.Reaches apdus r)
      (hrun : (Raw.apdu_handle_message m).run.run r = (.ok (), r')) (message_hash : Hash) :
    Raw.Reaches (apdus ++ [m]) { r' with message_hash }
  | refused {apdus : List (List UInt8)} {r r' : Raw.ApduCommand} {m : List UInt8}
      {reply : ApduReply} (h : Raw.Reaches apdus r)
      (hrun : (Raw.apdu_handle_message m).run.run r = (.error (.reply reply), r')) :
    Raw.Reaches (apdus ++ [m]) Raw.ApduCommand.zeroed

/-- What holds of the command's buffers in every state: the length is in range, and
behind it the array is zero. The second part makes the text of an off-chain message a C
string. -/
structure Raw.ApduCommand.WellFormed (r : Raw.ApduCommand) : Prop where
  length_nonneg : 0 ≤ r.message_length
  length_le : r.message_length ≤ MAX_MESSAGE_LENGTH
  zero_tail : ∀ i : ℕ, r.message_length ≤ i → i < MAX_MESSAGE_LENGTH → r.message[i]? = some 0
  path_le : r.derivation_path_length.toNat ≤ MAX_BIP32_PATH_LENGTH

/-- A buffer that represents a tidy command is well formed. -/
theorem Represents.well_formed {r : Raw.ApduCommand} {c : ApduCommand} (hR : Represents r c)
    (h : c.Tidy) : r.WellFormed where
  length_nonneg := by
    rw [hR.message_length]
    exact Int.natCast_nonneg _
  length_le := by
    rw [hR.message_length]
    exact Int.ofNat_le.mpr c.message_length_le
  zero_tail := by
    intro i hi hmax
    rw [hR.message_length, Int.ofNat_le] at hi
    have hlt : i < c.message.length := by
      rw [c.message_size]
      exact hmax
    rw [hR.message, List.getElem?_eq_getElem hlt, Option.some.injEq]
    apply h.zero_tail
    rw [List.mem_drop_iff_getElem]
    refine ⟨i - c.message_length, by omega, ?_⟩
    congr 1
    omega
  path_le := by
    rw [hR.path_length]
    exact h.path_le

/-- Behind the header of an off-chain message, the zeros end the text as a C string. -/
theorem Raw.ApduCommand.WellFormed.text {r : Raw.ApduCommand} (h : r.WellFormed) {n : ℕ}
    (hlength : r.message_length = (n + OFFCHAIN_MESSAGE_HEADER_LENGTH : ℕ))
    (hmax : n ≤ MAX_OFFCHAIN_MESSAGE_LENGTH)
    (htext : 0 ∉ (r.message.drop OFFCHAIN_MESSAGE_HEADER_LENGTH).take n) :
    c_str (r.message.drop OFFCHAIN_MESSAGE_HEADER_LENGTH) =
      (r.message.drop OFFCHAIN_MESSAGE_HEADER_LENGTH).take n := by
  have hsize : MAX_OFFCHAIN_MESSAGE_LENGTH + OFFCHAIN_MESSAGE_HEADER_LENGTH <
      MAX_MESSAGE_LENGTH := by
    decide
  have hzero : (r.message.drop OFFCHAIN_MESSAGE_HEADER_LENGTH)[n]? = some 0 := by
    rw [List.getElem?_drop]
    apply h.zero_tail
    · rw [hlength, Nat.add_comm]
    · omega
  obtain ⟨hn, hget⟩ := List.getElem?_eq_some_iff.mp hzero
  have hsplit : r.message.drop OFFCHAIN_MESSAGE_HEADER_LENGTH =
      (r.message.drop OFFCHAIN_MESSAGE_HEADER_LENGTH).take n ++
        0 :: (r.message.drop OFFCHAIN_MESSAGE_HEADER_LENGTH).drop (n + 1) := by
    rw [← hget, List.getElem_cons_drop, List.take_append_drop]
  rw [hsplit, c_str_append_zero htext, ← hsplit]

/-- Every command that is reached on buffers is a command on lists. -/
theorem reaches_represents {apdus : List (List UInt8)} {r : Raw.ApduCommand}
    (h : Raw.Reaches apdus r) : ∃ c, Represents r c ∧ c.Tidy := by
  induction h with
  | zeroed => exact ⟨ApduCommand.cleared, represents_zeroed, tidy_cleared⟩
  | @handled apdus r r' m _ hrun message_hash ih =>
    obtain ⟨c, hR, htidy⟩ := ih
    have hsame := simulates_apdu_handle_message m r c hR
    have hkeep := preserves_apdu_handle_message m c htidy
    rw [hrun] at hsame
    rcases hlists : (apdu_handle_message m).run.run c with ⟨reply | u, c'⟩
    · rw [hlists] at hsame
      exact hsame.elim
    · rw [hlists] at hsame hkeep
      exact ⟨{ c' with message_hash }, { hsame.2 with message_hash := rfl },
        ⟨hkeep.zero_tail, hkeep.path_le⟩⟩
  | refused _ _ _ => exact ⟨ApduCommand.cleared, represents_zeroed, tidy_cleared⟩

/-- Every state that chunks reach is well formed, by induction on the run. -/
theorem reaches_well_formed {apdus : List (List UInt8)} {r : Raw.ApduCommand}
    (h : Raw.Reaches apdus r) : r.WellFormed := by
  obtain ⟨c, hR, htidy⟩ := reaches_represents h
  exact hR.well_formed htidy

/-- Whatever comes next is handled without an access out of bounds. -/
theorem reaches_no_fault {apdus : List (List UInt8)} {r : Raw.ApduCommand}
    (h : Raw.Reaches apdus r) (m : List UInt8) :
    ((Raw.apdu_handle_message m).run.run r).1 ≠ .error .fault := by
  obtain ⟨c, hR, -⟩ := reaches_represents h
  have hsame := simulates_apdu_handle_message m r c hR
  intro hfault
  rcases hrun : (Raw.apdu_handle_message m).run.run r with ⟨e | u, r'⟩
  · rw [hrun] at hfault
    obtain rfl : e = .fault := Except.error.inj hfault
    rcases hlists : (apdu_handle_message m).run.run c with ⟨reply | u, c'⟩
    · rw [hrun, hlists] at hsame
      exact hsame.1
    · rw [hrun, hlists] at hsame
      exact hsame
  · rw [hrun] at hfault
    cases hfault

/-! ## The runs of the app -/

/-- A command in memory of which only the hash has changed. -/
theorem Represents.of_without_hash {r : Raw.ApduCommand} {c c' : ApduCommand} (h : Represents r c)
    (hsame : c'.without_hash = c.without_hash) :
    Represents { r with message_hash := c'.message_hash } c' where
  state := h.state.trans (congrArg ApduCommand.state hsame).symm
  instruction := h.instruction.trans (congrArg ApduCommand.instruction hsame).symm
  num_derivation_paths :=
    h.num_derivation_paths.trans (congrArg ApduCommand.num_derivation_paths hsame).symm
  non_confirm := h.non_confirm.trans (congrArg ApduCommand.non_confirm hsame).symm
  path_size := h.path_size
  path_length := by
    have hpath : c'.derivation_path = c.derivation_path :=
      congrArg (fun command => command.derivation_path) hsame
    rw [hpath]
    exact h.path_length
  path := by
    have hpath : c'.derivation_path = c.derivation_path :=
      congrArg (fun command => command.derivation_path) hsame
    rw [hpath]
    exact h.path
  message := h.message.trans (congrArg ApduCommand.message hsame).symm
  message_length := by
    have hlength : c'.message_length = c.message_length :=
      congrArg (fun command => command.message_length) hsame
    rw [hlength]
    exact h.message_length
  message_hash := rfl

/-- What an APDU has made of a command: it has cleared it, or received it and then
perhaps set the hash. This is all that a round of the app does to it. -/
def Receives (m : List UInt8) (c c' : ApduCommand) : Prop :=
  (∃ reply c₁, (apdu_handle_message m).run.run c = (.error reply, c₁) ∧ c' = ApduCommand.cleared) ∨
    ∃ c₁, (apdu_handle_message m).run.run c = (.ok (), c₁) ∧ c'.without_hash = c₁.without_hash

/-- The code on buffers makes the same of it. -/
theorem reaches_next {apdus : List (List UInt8)} {r : Raw.ApduCommand} {c c' : ApduCommand}
    (h : Raw.Reaches apdus r) (hR : Represents r c) {m : List UInt8} (hreceives : Receives m c c') :
    ∃ r', Raw.Reaches (apdus ++ [m]) r' ∧ Represents r' c' := by
  have hend := simulates_apdu_handle_message m r c hR
  rcases hrun : (Raw.apdu_handle_message m).run.run r with ⟨e | u, r'⟩
  · rcases hreceives with ⟨reply, c₁, hlists, rfl⟩ | ⟨c₁, hlists, -⟩
    · rw [hrun, hlists] at hend
      obtain ⟨hreply, -⟩ := hend
      cases e with
      | fault => exact hreply.elim
      | reply e => exact ⟨_, Raw.Reaches.refused h hrun, represents_zeroed⟩
    · rw [hrun, hlists] at hend
      exact hend.elim
  · rcases hreceives with ⟨reply, c₁, hlists, -⟩ | ⟨c₁, hlists, hsame⟩
    · rw [hrun, hlists] at hend
      exact hend.elim
    · rw [hrun, hlists] at hend
      obtain ⟨-, hR'⟩ := hend
      exact ⟨_, Raw.Reaches.handled h hrun c'.message_hash, hR'.of_without_hash hsame⟩

variable {device : Device}

/-- A round of the loop receives a command; its handler sets no more than the hash. -/
theorem handleApdu_receives (m : List UInt8) (s : AppState) :
    Receives m s.G_command ((handleApdu device m).run.run s).2.G_command := by
  rcases hrun : (apdu_handle_message m).run.run s.G_command with ⟨reply | u, c₁⟩
  · refine Or.inl ⟨reply, c₁, hrun, ?_⟩
    rw [handleApdu, bind_of_error (receive_apdu_error hrun)]
  · refine Or.inr ⟨c₁, hrun, ?_⟩
    by_cases hstate : c₁.state = .ApduStatePayloadInProgress
    · rw [handleApdu, bind_of_error (receive_apdu_in_progress hrun hstate)]
    · rw [handleApdu, bind_of_ok (receive_apdu_complete hrun hstate)]
      exact congrArg AppContext.G_command (keeps_dispatch_command device _)

/-- The command of the app is one that the code on buffers reaches. -/
def ReachedOnBuffers (inputs : List Input) (s : AppState) : Prop :=
  ∃ r, Raw.Reaches (handled inputs) r ∧ Represents r s.G_command

/-- A step of the app goes on on the buffers. -/
theorem reached_on_buffers_step {inputs : List Input} {s t : AppState} {i : Input}
    (hreached : ReachedOnBuffers inputs s) (h : step device s i = some t) :
    ReachedOnBuffers (inputs ++ [i]) t := by
  obtain ⟨r, hr, hR⟩ := hreached
  rw [ReachedOnBuffers, handled_append]
  rcases handled_cases i with hnone | ⟨m, hm, rfl⟩
  · rw [hnone, List.append_nil, step_unhandled hnone h]
    exact ⟨r, hr, hR⟩
  · obtain rfl := step_apdu hm h
    rw [handled_apdu hm, end_round_G_command]
    exact reaches_next hr hR (handleApdu_receives m s.begin_round)

/-- An off-chain message that is shown as text is text, of the length in the header. -/
theorem check_offchain_message_text {s : AppState} {header : OffchainMessageHeader}
    (h : check_offchain_message s header = .ok true) :
    header.length.toNat ≤ MAX_OFFCHAIN_MESSAGE_LENGTH ∧
      header.length.toNat + OFFCHAIN_MESSAGE_HEADER_LENGTH = s.G_command.message_length ∧
      0 ∉ (s.G_command.message.drop OFFCHAIN_MESSAGE_HEADER_LENGTH).take header.length.toNat := by
  obtain ⟨⟨-, -, hmax, htotal⟩, -⟩ := (check_offchain_message_ok rfl).mp ⟨true, h⟩
  refine ⟨hmax, htotal, fun hzero => ?_⟩
  by_cases hascii : is_data_ascii ((s.G_command.message.drop OFFCHAIN_MESSAGE_HEADER_LENGTH).take
      header.length.toNat) = true
  · exact absurd (is_data_ascii_iff.mp hascii 0 hzero).1 (by decide)
  · rw [Bool.not_eq_true] at hascii
    simp only [check_offchain_message, hascii, Bool.false_eq_true, if_false] at h
    split at h
    · cases h
    · split at h
      · cases h
      · split at h <;> cases h

/-- **`G_command` stays well formed and in bounds**, after every sequence of APDUs, and the next
one is handled without a fault. So it is along the runs of the app, and the text of an off-chain
message is a C string of the length that its header says. -/
theorem command_in_bounds (device : Device) :
    (∀ apdus r, Raw.Reaches apdus r →
      r.WellFormed ∧ ∀ m, ((Raw.apdu_handle_message m).run.run r).1 ≠ .error .fault) ∧
    ∀ settings G_called_from_swap G_swap_validated inputs s,
      Run (step device) (app_main_start settings G_called_from_swap G_swap_validated) inputs s →
      ∃ r, Raw.Reaches (handled inputs) r ∧ Represents r s.G_command ∧
        ∀ header, check_offchain_message s header = .ok true →
          (c_str (r.message.drop OFFCHAIN_MESSAGE_HEADER_LENGTH)).length = header.length.toNat := by
  refine ⟨fun apdus r h => ⟨reaches_well_formed h, reaches_no_fault h⟩, ?_⟩
  intro settings called validated inputs s hrun
  have hreached : ReachedOnBuffers inputs s :=
    hrun.history_invariant (P := ReachedOnBuffers) ⟨_, Raw.Reaches.zeroed, represents_zeroed⟩
      fun _ _ _ _ => reached_on_buffers_step
  obtain ⟨r, hr, hR⟩ := hreached
  refine ⟨r, hr, hR, fun header hcheck => ?_⟩
  obtain ⟨hmax, htotal, hzero⟩ := check_offchain_message_text hcheck
  rw [← hR.message] at hzero
  rw [(reaches_well_formed hr).text (by rw [hR.message_length, htotal]) hmax hzero,
    List.length_take, List.length_drop, hR.message, s.G_command.message_size]
  have hsize : MAX_OFFCHAIN_MESSAGE_LENGTH + OFFCHAIN_MESSAGE_HEADER_LENGTH <
      MAX_MESSAGE_LENGTH := by
    decide
  omega

end RenecLedger
