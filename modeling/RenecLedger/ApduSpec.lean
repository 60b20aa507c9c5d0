/-
Receiving one APDU: what `apdu_handle_message` makes of a chunk.

An `Assembly` is what the chunks of a signing command have said so far: the instruction,
whether it wants a confirmation, the derivation path and the payload. `Assembly.command`
is the command that holds it, with nothing else in its buffers. A first chunk replaces
the command by the assembly it begins (`handle_first_chunk`), and a chunk with `P2_EXTEND`
adds its data to the assembly in progress (`handle_extension`).
-/
import RenecLedger.Apdu
import RenecLedger.Encoding

set_option autoImplicit false

open ReaderLib ProgramLib

namespace RenecLedger

/-! ## Derivation paths -/

/-- The big-endian bytes of a word. -/
def encode_u32_be (word : UInt32) : List UInt8 :=
  [UInt8.ofNat (word.toNat / 2 ^ 24), UInt8.ofNat (word.toNat / 2 ^ 16),
    UInt8.ofNat (word.toNat / 2 ^ 8), UInt8.ofNat word.toNat]

/-- A path that the app accepts: one to five words. -/
structure DerivationPath where
  words : List UInt32
  length_pos : 1 ≤ words.length
  length_le : words.length ≤ MAX_BIP32_PATH_LENGTH
deriving DecidableEq

/-- The number of words, and the words. -/
def DerivationPath.encode (path : DerivationPath) : List UInt8 :=
  UInt8.ofNat path.words.length :: path.words.flatMap encode_u32_be

theorem DerivationPath.encode_length (path : DerivationPath) :
    path.encode.length = 1 + path.words.length * 4 := by
  have hflat : ∀ words : List UInt32, (words.flatMap encode_u32_be).length = words.length * 4 := by
    intro words
    induction words with
    | nil => rfl
    | cons word words ih =>
      rw [List.flatMap_cons, List.length_append, ih, List.length_cons]
      simp only [encode_u32_be, List.length_cons, List.length_nil]
      omega
  rw [DerivationPath.encode, List.length_cons, hflat, Nat.add_comm]

/-- Four bytes put side by side. -/
theorem be_word_toNat (b₀ b₁ b₂ b₃ : UInt8) :
    ((b₀.toUInt32 <<< 24) ||| (b₁.toUInt32 <<< 16) ||| (b₂.toUInt32 <<< 8) |||
      b₃.toUInt32).toNat =
        b₀.toNat * 2 ^ 24 + b₁.toNat * 2 ^ 16 + b₂.toNat * 2 ^ 8 + b₃.toNat := by
  have h₀ := b₀.toNat_lt
  have h₁ := b₁.toNat_lt
  have h₂ := b₂.toNat_lt
  have h₃ := b₃.toNat_lt
  -- No shift loses a bit, and the four pieces share none, so `|||` is a sum.
  have hs₀ : (b₀.toUInt32 <<< 24).toNat = b₀.toNat * 2 ^ 24 := by
    rw [UInt32.toNat_shiftLeft, UInt8.toNat_toUInt32]
    change (b₀.toNat <<< 24) % _ = _
    rw [Nat.shiftLeft_eq, Nat.mod_eq_of_lt (by omega)]
  have hs₁ : (b₁.toUInt32 <<< 16).toNat = b₁.toNat * 2 ^ 16 := by
    rw [UInt32.toNat_shiftLeft, UInt8.toNat_toUInt32]
    change (b₁.toNat <<< 16) % _ = _
    rw [Nat.shiftLeft_eq, Nat.mod_eq_of_lt (by omega)]
  have hs₂ : (b₂.toUInt32 <<< 8).toNat = b₂.toNat * 2 ^ 8 := by
    rw [UInt32.toNat_shiftLeft, UInt8.toNat_toUInt32]
    change (b₂.toNat <<< 8) % _ = _
    rw [Nat.shiftLeft_eq, Nat.mod_eq_of_lt (by omega)]
  have hor₁ : b₀.toNat * 2 ^ 24 ||| b₁.toNat * 2 ^ 16 = b₀.toNat * 2 ^ 24 + b₁.toNat * 2 ^ 16 := by
    rw [← Nat.shiftLeft_eq, shiftLeft_or _ _ 24 (by omega), Nat.shiftLeft_eq]
  have hor₂ : b₀.toNat * 2 ^ 24 + b₁.toNat * 2 ^ 16 ||| b₂.toNat * 2 ^ 8 =
      b₀.toNat * 2 ^ 24 + b₁.toNat * 2 ^ 16 + b₂.toNat * 2 ^ 8 := by
    have hfactor : b₀.toNat * 2 ^ 24 + b₁.toNat * 2 ^ 16 =
        (b₀.toNat * 2 ^ 8 + b₁.toNat) <<< 16 := by
      rw [Nat.shiftLeft_eq]
      omega
    rw [hfactor, shiftLeft_or _ _ 16 (by omega), Nat.shiftLeft_eq]
  have hor₃ : b₀.toNat * 2 ^ 24 + b₁.toNat * 2 ^ 16 + b₂.toNat * 2 ^ 8 ||| b₃.toNat =
      b₀.toNat * 2 ^ 24 + b₁.toNat * 2 ^ 16 + b₂.toNat * 2 ^ 8 + b₃.toNat := by
    have hfactor : b₀.toNat * 2 ^ 24 + b₁.toNat * 2 ^ 16 + b₂.toNat * 2 ^ 8 =
        (b₀.toNat * 2 ^ 16 + b₁.toNat * 2 ^ 8 + b₂.toNat) <<< 8 := by
      rw [Nat.shiftLeft_eq]
      omega
    rw [hfactor, shiftLeft_or _ _ 8 (by omega), Nat.shiftLeft_eq]
  rw [UInt32.toNat_or, UInt32.toNat_or, UInt32.toNat_or, hs₀, hs₁, hs₂, UInt8.toNat_toUInt32,
    hor₁, hor₂, hor₃]

/-- Reading words undoes writing them. -/
theorem read_u32_be_encode (words : List UInt32) (rest : List UInt8) :
    read_u32_be words.length (words.flatMap encode_u32_be ++ rest) = words := by
  induction words with
  | nil => rfl
  | cons word words ih =>
    have hlt := word.toNat_lt
    rw [List.flatMap_cons, List.append_assoc, List.length_cons]
    simp only [encode_u32_be, List.cons_append, List.nil_append, read_u32_be, ih]
    refine congrArg (· :: words) (UInt32.toNat.inj ?_)
    rw [be_word_toNat]
    simp only [UInt8.toNat_ofNat']
    omega

/-- Enough bytes are the encoding of the words that are read. -/
theorem encode_read_u32_be {n : ℕ} {bytes : List UInt8} (h : n * 4 ≤ bytes.length) :
    (read_u32_be n bytes).length = n ∧
      bytes = (read_u32_be n bytes).flatMap encode_u32_be ++ bytes.drop (n * 4) := by
  induction n generalizing bytes with
  | zero => exact ⟨rfl, rfl⟩
  | succ n ih =>
    -- A round takes four bytes; with fewer the bound on the length is false.
    match bytes, h with
    | b₀ :: b₁ :: b₂ :: b₃ :: bytes, h =>
      have hlen : n * 4 ≤ bytes.length := by
        simp only [List.length_cons] at h
        omega
      obtain ⟨hread, hbytes⟩ := ih hlen
      refine ⟨by rw [read_u32_be, List.length_cons, hread], ?_⟩
      have hdrop : (b₀ :: b₁ :: b₂ :: b₃ :: bytes).drop ((n + 1) * 4) = bytes.drop (n * 4) := by
        rw [Nat.succ_mul]
        rfl
      have h₀ := b₀.toNat_lt
      have h₁ := b₁.toNat_lt
      have h₂ := b₂.toNat_lt
      have h₃ := b₃.toNat_lt
      rw [hdrop, read_u32_be, List.flatMap_cons, List.append_assoc, ← hbytes, encode_u32_be,
        be_word_toNat]
      have hbyte : ∀ (b : UInt8) (k : ℕ), k % 256 = b.toNat → UInt8.ofNat k = b := by
        intro b k hk
        apply UInt8.toNat.inj
        rw [UInt8.toNat_ofNat']
        exact hk
      rw [hbyte b₀ _ (by omega), hbyte b₁ _ (by omega), hbyte b₂ _ (by omega),
        hbyte b₃ _ (by omega)]
      rfl
    | [], h => simp at h
    | [_], h => simp at h; omega
    | [_, _], h => simp at h; omega
    | [_, _, _], h => simp at h; omega

/-- A derivation path is read from the bytes that begin with its encoding, and from no
others. -/
theorem read_derivation_path_iff {data : List UInt8} {words : List UInt32} :
    read_derivation_path (some data) = .ok words ↔
      ∃ (path : DerivationPath) (rest : List UInt8),
        data = path.encode ++ rest ∧ words = path.words := by
  constructor
  · intro h
    cases data with
    | nil => cases h
    | cons len data =>
      simp only [read_derivation_path] at h
      -- The two checks of the source, in its order; the rest is the loop over the words.
      by_cases hlen : len.toNat < 1 ∨ len.toNat > MAX_BIP32_PATH_LENGTH
      · rw [if_pos hlen] at h
        cases h
      · by_cases hsize : 4 * len.toNat > data.length
        · rw [if_neg hlen, if_pos hsize] at h
          cases h
        · rw [if_neg hlen, if_neg hsize] at h
          cases h
          have hbound : len.toNat * 4 ≤ data.length := by omega
          obtain ⟨hread, hbytes⟩ := encode_read_u32_be hbound
          rw [not_or] at hlen
          refine ⟨⟨read_u32_be len.toNat data, by omega, by omega⟩,
            data.drop (len.toNat * 4), ?_, rfl⟩
          change len :: data = UInt8.ofNat (read_u32_be len.toNat data).length ::
            ((read_u32_be len.toNat data).flatMap encode_u32_be ++ data.drop (len.toNat * 4))
          rw [hread, UInt8.ofNat_toNat, ← hbytes]
  · rintro ⟨path, rest, rfl, rfl⟩
    have hpos := path.length_pos
    have hle := path.length_le
    have hmax : MAX_BIP32_PATH_LENGTH = 5 := rfl
    have hlen : (UInt8.ofNat path.words.length).toNat = path.words.length := by
      rw [UInt8.toNat_ofNat']
      omega
    have hbytes := path.encode_length
    rw [DerivationPath.encode, List.length_cons] at hbytes
    rw [DerivationPath.encode, List.cons_append, read_derivation_path, hlen,
      if_neg (by omega), if_neg (by rw [List.length_append]; omega), read_u32_be_encode]

/-- An encoding says where it ends. -/
theorem DerivationPath.encode_append_inj {path path' : DerivationPath} {bytes bytes' : List UInt8}
    (h : path.encode ++ bytes = path'.encode ++ bytes') : path = path' ∧ bytes = bytes' := by
  have hread := read_derivation_path_iff.mpr ⟨path, bytes, rfl, rfl⟩
  rw [h, read_derivation_path_iff.mpr ⟨path', bytes', rfl, rfl⟩, Except.ok.injEq] at hread
  obtain rfl : path = path' := by
    cases path
    cases path'
    cases hread
    rfl
  exact ⟨rfl, List.append_cancel_left h⟩

/-! ## What has been assembled -/

theorem ApduCommand.payload_length (command : ApduCommand) :
    command.payload.length = command.message_length := by
  have hle := command.message_length_le
  rw [ApduCommand.payload, List.length_take, command.message_size, Nat.min_eq_left hle]

/-- The two instructions that are signed, and come in chunks. -/
def InstructionCode.signs (instruction : InstructionCode) : Prop :=
  instruction = .InsSignMessage ∨ instruction = .InsSignOffchainMessage

theorem InstructionCode.signs.ne_config {instruction : InstructionCode} (h : instruction.signs) :
    instruction ≠ .InsGetAppConfiguration := by
  rintro rfl
  rcases h with h | h <;> cases h

theorem InstructionCode.signs.ne_pubkey {instruction : InstructionCode} (h : instruction.signs) :
    instruction ≠ .InsGetPubkey := by
  rintro rfl
  rcases h with h | h <;> cases h

/-- What the chunks of a command have said. -/
structure Assembly where
  instruction : InstructionCode
  non_confirm : Bool
  path : DerivationPath
  payload : List UInt8
  payload_le : payload.length ≤ MAX_MESSAGE_LENGTH
deriving DecidableEq

/-- The command that holds an assembly: the rest of its buffers is as it was cleared. -/
def Assembly.command (a : Assembly) (state : ApduState) : ApduCommand where
  state
  instruction := some a.instruction
  num_derivation_paths := 1
  derivation_path := a.path.words
  non_confirm := a.non_confirm
  message := a.payload ++ List.replicate (MAX_MESSAGE_LENGTH - a.payload.length) 0
  message_length := a.payload.length
  message_hash := Hash.fill 0
  message_size := by
    have hle := a.payload_le
    rw [List.length_append, List.length_replicate]
    omega
  message_length_le := a.payload_le

@[simp] theorem Assembly.command_payload (a : Assembly) (state : ApduState) :
    (a.command state).payload = a.payload := by
  rw [ApduCommand.payload, Assembly.command, List.take_left]

/-- Add the data of a chunk. -/
def Assembly.extend (a : Assembly) (data : List UInt8)
    (h : a.payload.length + data.length ≤ MAX_MESSAGE_LENGTH) : Assembly :=
  { a with
    payload := a.payload ++ data
    payload_le := by rwa [List.length_append] }

/-- The state a chunk leaves: more chunks are expected, or the payload is complete. -/
def ApduHeader.state_after (header : ApduHeader) : ApduState :=
  if header.more then .ApduStatePayloadInProgress else .ApduStatePayloadComplete

/-- Two commands are equal when their fields are. -/
theorem ApduCommand.ext {c d : ApduCommand} (hstate : c.state = d.state)
    (hinstruction : c.instruction = d.instruction)
    (hnum : c.num_derivation_paths = d.num_derivation_paths)
    (hpath : c.derivation_path = d.derivation_path) (hconfirm : c.non_confirm = d.non_confirm)
    (hmessage : c.message = d.message) (hlength : c.message_length = d.message_length)
    (hhash : c.message_hash = d.message_hash) : c = d := by
  cases c
  cases d
  subst_vars
  rfl

/-- Appending to the command that holds an assembly. -/
theorem Assembly.append_command (a : Assembly) (state : ApduState) (data : List UInt8)
    (h : a.payload.length + data.length ≤ MAX_MESSAGE_LENGTH) :
    (a.command state).append data h = (a.extend data h).command state := by
  have hmessage : ((a.command state).append data h).message =
      ((a.extend data h).command state).message := by
    change (a.command state).payload ++ data ++ (a.command state).message.drop _ = _
    rw [Assembly.command_payload]
    change a.payload ++ data ++ (a.payload ++ List.replicate _ 0).drop
      (a.payload.length + data.length) =
        a.payload ++ data ++ List.replicate (MAX_MESSAGE_LENGTH - (a.payload ++ data).length) 0
    rw [List.drop_append, List.drop_replicate, List.length_append]
    have hdrop : a.payload.drop (a.payload.length + data.length) = [] :=
      List.drop_of_length_le (Nat.le_add_right _ _)
    rw [hdrop, List.nil_append]
    congr 2
    omega
  have hlength : ((a.command state).append data h).message_length =
      ((a.extend data h).command state).message_length := by
    change a.payload.length + data.length = (a.payload ++ data).length
    rw [List.length_append]
  exact ApduCommand.ext rfl rfl rfl rfl rfl hmessage hlength rfl

/-! ## Handling a chunk -/

/-- The last part of handling a chunk: its data is added to the assembly. -/
theorem add_data_run {header : ApduHeader} {a : Assembly} {command : ApduCommand}
    (hcommand : { command with
      state := .ApduStatePayloadInProgress
      instruction := some header.instruction
      non_confirm := header.non_confirm } = a.command .ApduStatePayloadInProgress)
    (data : List UInt8) :
    (do
      modify fun command : ApduCommand =>
        { command with
          state := .ApduStatePayloadInProgress
          instruction := some header.instruction
          non_confirm := header.non_confirm }
      copy_data header (some data)
      run_if (!header.more)
        (modify fun command => { command with state := .ApduStatePayloadComplete }) :
      ApduM Unit).run.run command =
      if h : a.payload.length + data.length ≤ MAX_MESSAGE_LENGTH then
        (.ok (), (a.extend data h).command header.state_after)
      else
        (.error .ApduReplyRenecInvalidMessageSize, a.command .ApduStatePayloadInProgress) := by
  -- The stores before the copy give the assembly as it was, so only the bound decides.
  rw [modify_bind, hcommand]
  by_cases h : a.payload.length + data.length ≤ MAX_MESSAGE_LENGTH
  · have hcopy : (copy_data header (some data)).run.run (a.command .ApduStatePayloadInProgress) =
        (.ok (), (a.extend data h).command .ApduStatePayloadInProgress) := by
      rw [copy_data, get_bind]
      change (if h : a.payload.length + data.length ≤ MAX_MESSAGE_LENGTH then
        set ((a.command .ApduStatePayloadInProgress).append data h) else
        throw .ApduReplyRenecInvalidMessageSize : ApduM Unit).run.run _ = _
      rw [dif_pos h, run_set, Assembly.append_command]
    rw [bind_of_ok hcopy, dif_pos h, run_if, ApduHeader.state_after]
    by_cases hmore : header.more
    · rw [if_neg (by simp [hmore]), if_pos hmore, run_pure]
    · rw [if_pos (by simp [hmore]), if_neg hmore, run_modify]
      rfl
  · have hcopy : (copy_data header (some data)).run.run (a.command .ApduStatePayloadInProgress) =
        (.error .ApduReplyRenecInvalidMessageSize, a.command .ApduStatePayloadInProgress) := by
      rw [copy_data, get_bind]
      change (if h : a.payload.length + data.length ≤ MAX_MESSAGE_LENGTH then
        set ((a.command .ApduStatePayloadInProgress).append data h) else
        throw .ApduReplyRenecInvalidMessageSize : ApduM Unit).run.run _ = _
      rw [dif_neg h, run_throw]
    rw [bind_of_error hcopy, dif_neg h]

/-- The first chunk of a signing command holds the number of paths, which is one, and
the path; what follows is the data to add. -/
theorem read_first_chunk_iff {header : ApduHeader} (hins : header.instruction ≠ .InsGetPubkey)
    {command command' : ApduCommand} {data : Option (List UInt8)} :
    (read_first_chunk header).run.run command = (.ok data, command') ↔
      ∃ (path : DerivationPath) (payload : List UInt8),
        header.data = some (1 :: (path.encode ++ payload)) ∧ data = some payload ∧
          command' =
            { command with num_derivation_paths := 1, derivation_path := path.words } := by
  constructor
  · intro h
    rw [read_first_chunk, bind_eq_ok] at h
    obtain ⟨rest, command₁, hnum, h⟩ := h
    rw [read_num_derivation_paths, if_pos hins] at hnum
    split at hnum
    · rename_i num_derivation_paths path_data hdata
      rw [modify_bind, throw_if_bind_eq_ok] at hnum
      obtain ⟨hone, hnum⟩ := hnum
      rw [not_not] at hone
      subst hone
      cases hnum
      rw [of_except_bind_eq_ok] at h
      obtain ⟨words, hwords, h⟩ := h
      obtain ⟨path, payload, rfl, rfl⟩ := read_derivation_path_iff.mp hwords
      rw [modify_bind, run_pure, ← path.encode_length] at h
      cases h
      refine ⟨path, payload, hdata, ?_, rfl⟩
      rw [Option.map_some, List.drop_left]
    · cases hnum
  · rintro ⟨path, payload, hdata, rfl, rfl⟩
    have hwords : read_derivation_path (some (path.encode ++ payload)) = .ok path.words :=
      read_derivation_path_iff.mpr ⟨path, payload, rfl, rfl⟩
    rw [read_first_chunk, bind_eq_ok]
    refine ⟨some (path.encode ++ payload), { command with num_derivation_paths := 1 }, ?_, ?_⟩
    · rw [read_num_derivation_paths, if_pos hins, hdata]
      change (modify _ >>= _ : ApduM _).run.run command = _
      rw [modify_bind, throw_if_bind_eq_ok]
      exact ⟨not_not.mpr rfl, rfl⟩
    · rw [of_except_bind_eq_ok]
      refine ⟨path.words, hwords, ?_⟩
      rw [modify_bind, run_pure, Option.map_some, ← path.encode_length, List.drop_left]

/-- The assembly that begins with a path and nothing else. -/
def Assembly.empty (instruction : InstructionCode) (non_confirm : Bool) (path : DerivationPath) :
    Assembly :=
  ⟨instruction, non_confirm, path, [], Nat.zero_le _⟩

/-- A cleared command that has read its path holds this assembly: the message was zeroed, which is
what an assembly without data keeps there. -/
theorem Assembly.empty_command (header : ApduHeader) (path : DerivationPath) :
    { ApduCommand.cleared with
      num_derivation_paths := 1
      derivation_path := path.words
      state := .ApduStatePayloadInProgress
      instruction := some header.instruction
      non_confirm := header.non_confirm } =
    (Assembly.empty header.instruction header.non_confirm path).command
      .ApduStatePayloadInProgress := by
  refine ApduCommand.ext rfl rfl rfl rfl rfl ?_ rfl rfl
  change List.replicate MAX_MESSAGE_LENGTH 0 =
    [] ++ List.replicate (MAX_MESSAGE_LENGTH - ([] : List UInt8).length) 0
  rw [List.nil_append, List.length_nil, Nat.sub_zero]

/-- A header begins an assembly: it holds a path and the first data. -/
def ApduHeader.Begins (header : ApduHeader) (a : Assembly) : Prop :=
  header.first_data_chunk = true ∧ header.instruction = a.instruction ∧
    header.non_confirm = a.non_confirm ∧
      header.data = some (1 :: (a.path.encode ++ a.payload))

/-- The header of a chunk that adds its data to an assembly. -/
def ApduHeader.Extends (header : ApduHeader) (a b : Assembly) : Prop :=
  header.first_data_chunk = false ∧ header.instruction = a.instruction ∧
    header.non_confirm = a.non_confirm ∧ ∃ data h, header.data = some data ∧ b = a.extend data h

theorem Assembly.ext {a b : Assembly} (hinstruction : a.instruction = b.instruction)
    (hconfirm : a.non_confirm = b.non_confirm) (hpath : a.path = b.path)
    (hpayload : a.payload = b.payload) : a = b := by
  cases a
  cases b
  subst_vars
  rfl

/-- **A first chunk** replaces whatever the command was by the assembly it begins. -/
theorem handle_first_chunk {header : ApduHeader} (hsigns : header.instruction.signs)
    (hfirst : header.first_data_chunk = true) {command command' : ApduCommand} {u : Unit} :
    (handle_apdu_header header).run.run command = (.ok u, command') ↔
      ∃ a, header.Begins a ∧ command' = a.command header.state_after := by
  have hpubkey := hsigns.ne_pubkey
  have hempty := fun path => Assembly.empty_command header path
  rw [handle_apdu_header, if_neg hsigns.ne_config, begin_chunk, if_pos (Or.inr hfirst), set_bind,
    if_pos hfirst, bind_eq_ok]
  constructor
  · rintro ⟨data, command₁, hread, h⟩
    obtain ⟨path, payload, hdata, rfl, rfl⟩ := (read_first_chunk_iff hpubkey).mp hread
    rw [add_data_run (hempty path)] at h
    split at h
    · rename_i hle
      cases h
      exact ⟨_, ⟨hfirst, rfl, rfl, hdata⟩, rfl⟩
    · cases h
  · rintro ⟨a, ⟨-, hinstruction, hconfirm, hdata⟩, rfl⟩
    refine ⟨some a.payload, _, (read_first_chunk_iff hpubkey).mpr ⟨a.path, a.payload, hdata, rfl,
      rfl⟩, ?_⟩
    have hle : (Assembly.empty header.instruction header.non_confirm a.path).payload.length +
        a.payload.length ≤ MAX_MESSAGE_LENGTH := by
      rw [Assembly.empty, List.length_nil, Nat.zero_add]
      exact a.payload_le
    rw [add_data_run (hempty a.path), dif_pos hle]
    have ha : (Assembly.empty header.instruction header.non_confirm a.path).extend a.payload hle =
        a := Assembly.ext hinstruction hconfirm rfl rfl
    rw [ha]

/-- A chunk that does not go on with the command is refused, and nothing has changed. -/
theorem handle_extension_refused {header : ApduHeader} (hsigns : header.instruction.signs)
    (hext : header.first_data_chunk = false) {command : ApduCommand}
    (hprogress : command.in_progress header = false) :
    (handle_apdu_header header).run.run command =
      (.error .ApduReplyRenecInvalidMessage, command) := by
  rw [handle_apdu_header, if_neg hsigns.ne_config]
  apply bind_of_error
  rw [begin_chunk, if_neg (by simp [hsigns.ne_pubkey, hext]), get_bind]
  exact throw_if_pos (by simp [hprogress]) _ _

/-- **A chunk with `P2_EXTEND`** adds its data to the assembly in progress. -/
theorem handle_extension {header : ApduHeader} (hsigns : header.instruction.signs)
    (hext : header.first_data_chunk = false) {a : Assembly}
    (hins : header.instruction = a.instruction) (hconfirm : header.non_confirm = a.non_confirm)
    {command' : ApduCommand} {u : Unit} :
    (handle_apdu_header header).run.run (a.command .ApduStatePayloadInProgress) =
        (.ok u, command') ↔
      ∃ b, header.Extends a b ∧ command' = b.command header.state_after := by
  have hprogress : (a.command .ApduStatePayloadInProgress).in_progress header = true := by
    simp [ApduCommand.in_progress, Assembly.command, hins, hconfirm]
  have hbegin : (begin_chunk header).run.run (a.command .ApduStatePayloadInProgress) =
      (.ok (), a.command .ApduStatePayloadInProgress) := by
    rw [begin_chunk, if_neg (by simp [hsigns.ne_pubkey, hext]), get_bind]
    exact throw_if_neg (by simp [hprogress]) _ _
  have hcommand : { a.command .ApduStatePayloadInProgress with
      state := .ApduStatePayloadInProgress
      instruction := some header.instruction
      non_confirm := header.non_confirm } = a.command .ApduStatePayloadInProgress := by
    rw [hins, hconfirm]
    rfl
  rw [handle_apdu_header, if_neg hsigns.ne_config, bind_of_ok hbegin,
    if_neg (by rw [hext]; nofun), bind_of_ok (run_pure _ _)]
  constructor
  · intro h
    cases hdata : header.data with
    -- An extension without data is refused for a signing command.
    | none =>
      rw [hdata, modify_bind, copy_data, throw_if_bind_eq_ok] at h
      exact absurd hsigns.ne_pubkey h.1
    | some data =>
      rw [hdata, add_data_run hcommand] at h
      split at h
      · rename_i hle
        cases h
        exact ⟨_, ⟨hext, hins, hconfirm, data, hle, hdata, rfl⟩, rfl⟩
      · cases h
  · rintro ⟨b, ⟨-, -, -, data, hle, hdata, rfl⟩, rfl⟩
    rw [hdata, add_data_run hcommand, dif_pos hle]

/-- Adding data changes the message of a command, and its length. -/
theorem keeps_copy_data {τ : Type} {f : ApduCommand → τ}
    (hf : ∀ (command : ApduCommand) data h, f (command.append data h) = f command)
    (header : ApduHeader) (data : Option (List UInt8)) : Keeps f (copy_data header data) := by
  unfold copy_data
  split
  · intro command
    rw [get_bind]
    split
    · exact hf command _ _
    · rfl
  · exact keeps_throw_if _

/-- An APDU that is accepted leaves its own instruction and meaning of P1 in the command,
and a command in progress only with `P2_MORE`. -/
theorem handle_apdu_header_kind {header : ApduHeader} {command command' : ApduCommand} {u : Unit}
    (h : (handle_apdu_header header).run.run command = (.ok u, command')) :
    command'.instruction = some header.instruction ∧
      command'.non_confirm = header.non_confirm ∧
      (command'.state = .ApduStatePayloadInProgress → header.more = true) := by
  rw [handle_apdu_header] at h
  split at h
  · cases h
    exact ⟨rfl, rfl, nofun⟩
  · rw [bind_eq_ok] at h
    obtain ⟨v, command₁, -, h⟩ := h
    rw [bind_eq_ok] at h
    obtain ⟨data, command₂, -, h⟩ := h
    rw [modify_bind, bind_eq_ok] at h
    obtain ⟨w, command₃, hcopy, h⟩ := h
    -- Nothing behind the stores of the kind changes it: the copy only adds data.
    have hkeeps : Keeps (fun command : ApduCommand => (command.instruction, command.non_confirm))
        (copy_data header data) := keeps_copy_data (fun _ _ _ => rfl) header data
    have hkeep := hkeeps
      { command₂ with
        state := .ApduStatePayloadInProgress
        instruction := some header.instruction
        non_confirm := header.non_confirm }
    rw [hcopy, Prod.mk.injEq] at hkeep
    rw [run_if] at h
    split at h
    · cases h
      exact ⟨hkeep.1, hkeep.2, nofun⟩
    · rename_i hmore
      cases h
      refine ⟨hkeep.1, hkeep.2, fun _ => ?_⟩
      rwa [Bool.not_eq_true', Bool.not_eq_false] at hmore

end RenecLedger
