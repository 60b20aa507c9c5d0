/-
The client of the tests, `tests/python/apps/renec.py`, and the app at the other end.

The client cuts a message into slices and puts the number of paths and the path in front of every
slice. The app reads them from the first chunk only, and an extension is all message to it. So
what the app puts together has a header between any two slices: it is the message exactly when
there is one slice.
-/
import RenecLedger.Lib.Slice
import RenecLedger.Reassembly
import RenecLedger.SignerSpec

set_option autoImplicit false

open MachineLib ProgramLib SliceLib

namespace RenecLedger

/-! ## The client -/

def MAX_CHUNK_SIZE : ℕ := 255

def extend_and_serialize_multiple_derivations_paths (derivations_paths : List (List UInt8)) :
    List UInt8 :=
  UInt8.ofNat derivations_paths.length :: derivations_paths.flatten

/-- `none` when the assertion on the length fails. The path comes in packed form. -/
def split_and_prefix_message (derivation_path : DerivationPath) (message : List UInt8) :
    Option (List (List UInt8)) :=
  if message.length ≤ 65535 then
    let header := extend_and_serialize_multiple_derivations_paths [derivation_path.encode]
    let max_size := MAX_CHUNK_SIZE - header.length
    let message_splited := slices max_size message
    -- the header is added to every chunk
    some (message_splited.map (header ++ ·))
  else
    none

/-- The APDUs of all chunks but the last; `none` when there is no `messages[0]`. -/
def send_first_message_batch (ins : InstructionCode) (messages : List (List UInt8)) (p1 : UInt8) :
    Option (List (List UInt8)) :=
  match messages with
  | first :: rest =>
    some (chunk_apdu ins p1 P2_MORE first ::
      rest.map (chunk_apdu ins p1 (P2_MORE ||| P2_EXTEND)))
  | [] => none

/-- The APDUs of a request, in the order in which they are sent. -/
def send_async_sign_request (ins : InstructionCode) (derivation_path : DerivationPath)
    (message : List UInt8) : Option (List (List UInt8)) := do
  let message_splited_prefixed ← split_and_prefix_message derivation_path message
  let last ← message_splited_prefixed.getLast?
  if message_splited_prefixed.length > 1 then
    let batch ← send_first_message_batch ins message_splited_prefixed.dropLast P1_CONFIRM
    return batch ++ [chunk_apdu ins P1_CONFIRM P2_EXTEND last]
  else
    return [chunk_apdu ins P1_CONFIRM 0 last]

/-- The APDUs, in order, end in a complete command with this path and this message. -/
def Reassembles (device : Device) (s : AppState) (apdus : List (List UInt8))
    (path : DerivationPath) (message : List UInt8) : Prop :=
  ∃ init last t command, apdus = init ++ [last] ∧ Run (step device) s (init.map Input.apdu) t ∧
    (apdu_handle_message last).run.run t.G_command = (.ok (), command) ∧
    command.state = .ApduStatePayloadComplete ∧ command.payload = message ∧
    command.derivation_path = path.words

/-! ## What the client sends -/

/-- What is in front of every slice. -/
def DerivationPath.serialized (path : DerivationPath) : List UInt8 := 1 :: path.encode

theorem serialize_path (path : DerivationPath) :
    extend_and_serialize_multiple_derivations_paths [path.encode] = path.serialized := by
  rw [extend_and_serialize_multiple_derivations_paths, List.flatten_singleton]
  rfl

theorem DerivationPath.serialized_length (path : DerivationPath) :
    path.serialized.length = 2 + 4 * path.words.length := by
  rw [DerivationPath.serialized, List.length_cons, path.encode_length]
  omega

/-- How much of a message is in one chunk. -/
def DerivationPath.max_size (path : DerivationPath) : ℕ := MAX_CHUNK_SIZE - path.serialized.length

theorem DerivationPath.max_size_pos (path : DerivationPath) :
    0 < path.max_size ∧ path.serialized.length + path.max_size = 255 := by
  have hlength := path.serialized_length
  have hwords := path.length_le
  have hmax : MAX_BIP32_PATH_LENGTH = 5 := rfl
  rw [DerivationPath.max_size, MAX_CHUNK_SIZE]
  omega

theorem split_and_prefix_message_eq (path : DerivationPath) {message : List UInt8}
    (hle : message.length ≤ 65535) :
    split_and_prefix_message path message =
      some ((slices path.max_size message).map (path.serialized ++ ·)) := by
  rw [split_and_prefix_message, if_pos hle, serialize_path]
  rfl

theorem chunk_p2_single : chunk_p2 false false = 0 := by decide
theorem chunk_p2_begin : chunk_p2 false true = P2_MORE := by decide
theorem chunk_p2_extend_more : chunk_p2 true true = P2_MORE ||| P2_EXTEND := by decide
theorem chunk_p2_end : chunk_p2 true false = P2_EXTEND := by decide

/-- Chunks that extend a command: all but the last say that more follow. -/
theorem extension_apdus_eq (ins : InstructionCode) (p1 : UInt8) {chunks : List (List UInt8)}
    (hne : chunks ≠ []) :
    extension_apdus ins p1 chunks =
      chunks.dropLast.map (chunk_apdu ins p1 (P2_MORE ||| P2_EXTEND)) ++
        [chunk_apdu ins p1 P2_EXTEND (chunks.getLast hne)] := by
  induction chunks with
  | nil => exact absurd rfl hne
  | cons chunk chunks ih =>
    cases chunks with
    | nil =>
      rw [← chunk_p2_end]
      rfl
    | cons chunk' chunks =>
      rw [extension_apdus, ih (List.cons_ne_nil _ _), List.dropLast_cons_cons, List.map_cons,
        List.getLast_cons (List.cons_ne_nil _ _), List.cons_append]
      exact congrArg (chunk_apdu ins p1 · chunk :: _) chunk_p2_extend_more

/-- The client sends a command whose payload is the slices with headers between them. -/
theorem send_async_sign_request_eq (ins : InstructionCode) (path : DerivationPath)
    {message first : List UInt8} {rest : List (List UInt8)} (hle : message.length ≤ 65535)
    (hslices : slices path.max_size message = first :: rest) :
    send_async_sign_request ins path message =
      some (command_apdus ins P1_CONFIRM path first (rest.map (path.serialized ++ ·))) := by
  rw [send_async_sign_request, split_and_prefix_message_eq path hle, hslices]
  cases rest with
  | nil =>
    rw [command_apdus, List.map_nil, List.isEmpty_nil, Bool.not_true, chunk_p2_single]
    rfl
  | cons slice rest =>
    have hne : (slice :: rest).map (path.serialized ++ ·) ≠ [] := List.cons_ne_nil _ _
    have hmore : ((slice :: rest).map (path.serialized ++ ·)).isEmpty = false := rfl
    rw [command_apdus, extension_apdus_eq ins P1_CONFIRM hne, hmore, Bool.not_false,
      chunk_p2_begin]
    simp only [List.map_cons, Option.bind_eq_bind, Option.bind_some, List.getLast?_cons_cons,
      List.dropLast_cons_cons]
    rw [List.getLast?_eq_getLast_of_ne_nil (List.cons_ne_nil _ _), Option.bind_some,
      if_pos (by simp only [List.length_cons]; omega), send_first_message_batch]
    rfl

/-! ## What the app makes of it -/

/-- Two ways to cut a list at its last marked element are one. -/
theorem last_marked_unique {α : Type} {P : α → Prop} {as bs cs ds : List α} {a c : α}
    (h : as ++ a :: bs = cs ++ c :: ds) (ha : P a) (hc : P c) (hbs : ∀ b ∈ bs, ¬P b)
    (hds : ∀ d ∈ ds, ¬P d) : a = c ∧ bs = ds := by
  rcases List.append_eq_append_iff.mp h with ⟨es, -, hes⟩ | ⟨es, -, hes⟩
  · cases es with
    | nil => exact List.cons.inj hes
    | cons e es =>
      -- the other marked element would come after `a`
      refine absurd hc (hbs c ?_)
      rw [(List.cons.inj hes).2]
      exact List.mem_append_right _ List.mem_cons_self
  · cases es with
    | nil => exact (List.cons.inj hes).imp Eq.symm Eq.symm
    | cons e es =>
      refine absurd ha (hds a ?_)
      rw [(List.cons.inj hes).2]
      exact List.mem_append_right _ List.mem_cons_self

/-- The headers of chunks that extend a command. -/
theorem extension_apdus_parse (ins : InstructionCode) (p1 : UInt8) {chunks : List (List UInt8)}
    (hchunks : ∀ c ∈ chunks, c ≠ [] ∧ c.length ≤ 255) :
    ∃ headers : List ApduHeader,
      (extension_apdus ins p1 chunks).map parse_apdu_header = headers.map Except.ok ∧
      (∀ h ∈ headers, h.instruction = ins ∧ h.first_data_chunk = false) ∧
      headers.flatMap (fun h => h.data.getD []) = chunks.flatten := by
  induction chunks with
  | nil => exact ⟨[], rfl, List.forall_mem_nil _, rfl⟩
  | cons chunk chunks ih =>
    obtain ⟨hchunk, hrest⟩ := List.forall_mem_cons.mp hchunks
    obtain ⟨headers, hparse, hextend, hdata⟩ := ih hrest
    refine ⟨chunk_header ins p1 true (!chunks.isEmpty) chunk :: headers, ?_, ?_, ?_⟩
    · rw [extension_apdus, List.map_cons, parse_chunk_apdu ins p1 true _ hchunk.1 hchunk.2, hparse]
      rfl
    · exact List.forall_mem_cons.mpr ⟨⟨rfl, chunk_header_first ins p1 true _ chunk⟩, hextend⟩
    · rw [List.flatMap_cons, hdata, List.flatten_cons]
      rfl

theorem handled_apdus {apdus : List (List UInt8)} (h : ∀ m ∈ apdus, m ≠ []) :
    handled (apdus.map Input.apdu) = apdus := by
  induction apdus with
  | nil => rfl
  | cons m apdus ih =>
    obtain ⟨hm, hrest⟩ := List.forall_mem_cons.mp h
    rw [List.map_cons, ← List.singleton_append, handled_append, handled_apdu hm, ih hrest,
      List.singleton_append]

/-- An APDU that begins a command. -/
def BeginsCommand (header : Except ApduReply ApduHeader) : Prop :=
  ∃ h, header = .ok h ∧ h.first_data_chunk = true

theorem extension_not_begins {headers : List ApduHeader}
    (hextend : ∀ h ∈ headers, h.first_data_chunk = false) :
    ∀ header ∈ headers.map Except.ok, ¬BeginsCommand header := by
  rintro header hheader ⟨h, rfl, hfirst⟩
  obtain ⟨h', hmem, hok⟩ := List.mem_map.mp hheader
  obtain rfl := Except.ok.inj hok
  rw [hextend h' hmem] at hfirst
  cases hfirst

section Command

variable {ins : InstructionCode} {p1 : UInt8} {path : DerivationPath} {first : List UInt8}
  {chunks : List (List UInt8)} (hfirst : 1 + (path.encode ++ first).length ≤ 255)
  (hchunks : ∀ c ∈ chunks, c ≠ [] ∧ c.length ≤ 255)

include hfirst hchunks

theorem command_apdus_parse (ins : InstructionCode) (p1 : UInt8) :
    ∃ (begins : ApduHeader) (headers : List ApduHeader),
      (command_apdus ins p1 path first chunks).map parse_apdu_header =
        (begins :: headers).map Except.ok ∧
      (begins.instruction = ins ∧ begins.first_data_chunk = true) ∧
      begins.data = some (1 :: (path.encode ++ first)) ∧
      (∀ h ∈ headers, h.instruction = ins ∧ h.first_data_chunk = false) ∧
      headers.flatMap (fun h => h.data.getD []) = chunks.flatten := by
  obtain ⟨headers, hparse, hextend, hdata⟩ := extension_apdus_parse ins p1 hchunks
  have hparse_first := parse_chunk_apdu ins p1 false (!chunks.isEmpty)
    (List.cons_ne_nil 1 (path.encode ++ first)) (by rw [List.length_cons]; omega)
  refine ⟨_, headers, ?_, ⟨rfl, chunk_header_first ins p1 false (!chunks.isEmpty) _⟩, rfl,
    hextend, hdata⟩
  rw [command_apdus, List.map_cons, hparse, hparse_first]
  rfl

/-- When the last APDUs are those of a command, what they assemble is that command. -/
theorem Assembles.of_command_apdus {history before apdus : List (List UInt8)} {a : Assembly}
    {more : Bool} (h : Assembles apdus a more)
    (hsplit : history ++ command_apdus ins p1 path first chunks = before ++ apdus) :
    a.payload = first ++ chunks.flatten := by
  obtain ⟨begins, headers, hmap, ⟨-, hbegins⟩, hdata, hextend, hflatten⟩ :=
    command_apdus_parse hfirst hchunks ins p1
  obtain ⟨begins', headers', payload, hmap', -, hbegins', hextend', hdata', hpayload, -⟩ := h
  have hmaps := congrArg (List.map parse_apdu_header) hsplit
  rw [List.map_append, List.map_append, hmap, hmap', List.map_cons, List.map_cons] at hmaps
  obtain ⟨hhead, htail⟩ := last_marked_unique (P := BeginsCommand) hmaps
    ⟨_, rfl, hbegins⟩ ⟨_, rfl, hbegins'⟩
    (extension_not_begins fun h hh => (hextend h hh).2) (extension_not_begins hextend')
  obtain rfl := Except.ok.inj hhead
  obtain rfl := List.map_injective_iff.mpr (fun _ _ => Except.ok.inj) htail
  rw [hdata] at hdata'
  obtain ⟨-, rfl⟩ :=
    DerivationPath.encode_append_inj (List.cons.inj (Option.some.inj hdata')).2
  rw [hpayload, hflatten]

/-- The command that its last APDU leaves has the instruction. -/
theorem command_apdus_instruction {init : List (List UInt8)} {last : List UInt8}
    (hsplit : command_apdus ins p1 path first chunks = init ++ [last])
    {command command' : ApduCommand}
    (hhandle : (apdu_handle_message last).run.run command = (.ok (), command')) :
    command'.instruction = some ins := by
  obtain ⟨begins, headers, hmap, ⟨hins, -⟩, -, hextend, -⟩ :=
    command_apdus_parse hfirst hchunks ins p1
  obtain ⟨header, hparse, hheader⟩ := apdu_handle_message_ok hhandle
  have hmem : parse_apdu_header last ∈ (begins :: headers).map Except.ok := by
    rw [← hmap, hsplit]
    exact List.mem_map_of_mem (List.mem_append_right _ List.mem_cons_self)
  obtain ⟨h, hh, hok⟩ := List.mem_map.mp hmem
  rw [hparse] at hok
  obtain rfl := Except.ok.inj hok
  have hall : ∀ h ∈ begins :: headers, h.instruction = ins :=
    List.forall_mem_cons.mpr ⟨hins, fun h hh => (hextend h hh).1⟩
  rw [(handle_apdu_header_kind hheader).1, hall h hh]

/-- All of its APDUs are handled. -/
theorem command_apdus_ne_nil {m : List UInt8}
    (hm : m ∈ command_apdus ins p1 path first chunks) : m ≠ [] := by
  obtain ⟨begins, headers, hmap, -⟩ := command_apdus_parse hfirst hchunks ins p1
  rintro rfl
  have hmem := List.mem_map_of_mem (f := parse_apdu_header) hm
  rw [hmap] at hmem
  obtain ⟨h, -, hok⟩ := List.mem_map.mp hmem
  cases hok

variable {device : Device}

/-- The APDUs of a command reassemble as nothing else. -/
theorem Reassembles.payload_eq {settings : AppSettings} {G_called_from_swap : Bool}
    {G_swap_validated : SwapValidated} {inputs : List Input} {s : AppState}
    (hreach : Run (step device) (app_main_start settings G_called_from_swap G_swap_validated)
      inputs s)
    (hsigns : ins.signs) {path' : DerivationPath} {message : List UInt8}
    (h : Reassembles device s (command_apdus ins p1 path first chunks) path' message) :
    message = first ++ chunks.flatten := by
  obtain ⟨init, last, t, command, hsplit, hrun, hhandle, -, rfl, -⟩ := h
  have hstart : (app_main_start settings G_called_from_swap G_swap_validated).G_command.state ≠
      .ApduStatePayloadInProgress := nofun
  have htracks := run_tracks hstart (hreach.append hrun)
  obtain ⟨before, apdus, a, header, hhistory, hassembles, rfl⟩ := htracks.accepted hhandle
    (command_apdus_instruction hfirst hchunks hsplit hhandle) hsigns
  have hcut : handled inputs ++ command_apdus ins p1 path first chunks = before ++ apdus := by
    have hinit : handled (init.map Input.apdu) = init := by
      refine handled_apdus fun m hm => ?_
      have hmem : m ∈ command_apdus ins p1 path first chunks := by
        rw [hsplit]
        exact List.mem_append_left _ hm
      exact command_apdus_ne_nil hfirst hchunks hmem
    rw [hsplit, ← List.append_assoc, ← hhistory, handled_append, hinit]
  rw [a.command_payload]
  exact Assembles.of_command_apdus hfirst hchunks hassembles hcut

end Command

/-- What is delivered is put together. -/
theorem Delivers.reassembles {device : Device} {s : AppState} {apdus : List (List UInt8)}
    {a : Assembly} (h : Delivers device s apdus a) :
    Reassembles device s apdus a.path a.payload := by
  obtain ⟨init, last, t, rfl, hrun, hlast⟩ := h
  obtain ⟨command, hhandle, -, hcommand⟩ := receive_apdu_eq_ok.mp hlast
  obtain rfl : a.command .ApduStatePayloadComplete = command :=
    congrArg AppState.G_command hcommand
  exact ⟨init, last, t, _, rfl, hrun, hhandle, rfl, a.command_payload _, rfl⟩

section Request

variable {path : DerivationPath} {message first : List UInt8} {rest : List (List UInt8)}
  (hslices : slices path.max_size message = first :: rest)

include hslices

theorem first_slice_fits : 1 + (path.encode ++ first).length ≤ 255 := by
  obtain ⟨hpos, hsize⟩ := path.max_size_pos
  have hmem : first ∈ slices path.max_size message := by
    rw [hslices]
    exact List.mem_cons_self
  have hfirst := (slice_bounds hpos hmem).2
  rw [DerivationPath.serialized, List.length_cons] at hsize
  rw [List.length_append]
  omega

theorem slice_chunks_fit :
    ∀ c ∈ rest.map (path.serialized ++ ·), c ≠ [] ∧ c.length ≤ 255 := by
  intro c hc
  obtain ⟨slice, hslice, rfl⟩ := List.mem_map.mp hc
  obtain ⟨hpos, hsize⟩ := path.max_size_pos
  have hmem : slice ∈ slices path.max_size message := by
    rw [hslices]
    exact List.mem_cons_of_mem _ hslice
  have hle := (slice_bounds hpos hmem).2
  refine ⟨List.cons_ne_nil _ _, ?_⟩
  rw [List.length_append]
  omega

variable {ins : InstructionCode} (hsigns : ins.signs) (hle : message.length ≤ 65535)

include hsigns hle

/-- The app gets the slices with the headers between them, if they fit in its buffer. -/
theorem request_reassembles (device : Device) {s : AppState} (hs : s.stopped = false)
    (hmax : (first ++ (rest.map (path.serialized ++ ·)).flatten).length ≤ MAX_MESSAGE_LENGTH) :
    ∃ apdus, send_async_sign_request ins path message = some apdus ∧
      Reassembles device s apdus path (first ++ (rest.map (path.serialized ++ ·)).flatten) := by
  let a : Assembly := ⟨ins, false, path, _, hmax⟩
  have hconfirm : false = decide (P1_CONFIRM = P1_NON_CONFIRM) := by decide
  have hdelivered : Delivers device s
      (command_apdus ins P1_CONFIRM path first (rest.map (path.serialized ++ ·))) a :=
    chunks_delivered (a := a) hsigns hconfirm (first_slice_fits hslices)
      (slice_chunks_fit hslices) rfl hs
  exact ⟨_, send_async_sign_request_eq ins path hle hslices, hdelivered.reassembles⟩

/-- Nothing else, so a message that arrives has been sent in one slice. -/
theorem request_in_one_slice {device : Device} {settings : AppSettings}
    {G_called_from_swap : Bool} {G_swap_validated : SwapValidated} {inputs : List Input}
    {s : AppState}
    (hreach : Run (step device) (app_main_start settings G_called_from_swap G_swap_validated)
      inputs s)
    {apdus : List (List UInt8)} (hsend : send_async_sign_request ins path message = some apdus)
    (h : Reassembles device s apdus path message) : rest = [] := by
  rw [send_async_sign_request_eq ins path hle hslices, Option.some.injEq] at hsend
  subst hsend
  have hpayload := h.payload_eq (first_slice_fits hslices) (slice_chunks_fit hslices) hreach hsigns
  have hflatten := slices_flatten path.max_size_pos.1 message
  rw [hslices, List.flatten_cons] at hflatten
  -- a header that is sent again makes the payload longer than the message
  have hlength := congrArg List.length (List.append_cancel_left (hflatten.trans hpayload))
  rw [headed_flatten_length, Nat.left_eq_add, Nat.mul_eq_zero] at hlength
  refine List.eq_nil_of_length_eq_zero (hlength.resolve_right fun hzero => ?_)
  rw [path.serialized_length] at hzero
  omega

end Request

section Messages

variable {device : Device} {settings : AppSettings} {G_called_from_swap : Bool}
  {G_swap_validated : SwapValidated} {inputs : List Input} {s : AppState}

/-- **The app puts together what the client sends exactly when** it is sent in one chunk. -/
theorem client_chunks_reassemble_iff
    (hreach : Run (step device) (app_main_start settings G_called_from_swap G_swap_validated)
      inputs s)
    (hs : s.stopped = false) {ins : InstructionCode} (hsigns : ins.signs) (path : DerivationPath)
    {message : List UInt8} (hne : message ≠ []) (hmax : message.length ≤ MAX_MESSAGE_LENGTH) :
    (∃ apdus, send_async_sign_request ins path message = some apdus ∧
        Reassembles device s apdus path message) ↔
      2 + 4 * path.words.length + message.length ≤ MAX_CHUNK_SIZE := by
  have hle : message.length ≤ 65535 := Nat.le_trans hmax (by decide)
  obtain ⟨hpos, hsize⟩ := path.max_size_pos
  rw [path.serialized_length] at hsize
  have hchunk : MAX_CHUNK_SIZE = 255 := rfl
  constructor
  · rintro ⟨apdus, hsend, h⟩
    cases hslices : slices path.max_size message with
    | nil =>
      have hflatten := slices_flatten hpos message
      rw [hslices] at hflatten
      exact absurd hflatten.symm hne
    | cons first rest =>
      obtain rfl := request_in_one_slice hslices hsigns hle hreach hsend h
      have hflatten := slices_flatten hpos message
      rw [hslices, List.flatten_singleton] at hflatten
      have hbounds := slice_bounds hpos (hslices ▸ List.mem_cons_self : first ∈ _)
      rw [hflatten] at hbounds
      omega
  · intro hfits
    have hslices := slices_of_length_le hne (by omega : message.length ≤ path.max_size)
    have hpayload : message ++ (([] : List (List UInt8)).map (path.serialized ++ ·)).flatten =
        message := List.append_nil message
    have h := request_reassembles hslices hsigns hle device hs (by rw [hpayload]; exact hmax)
    rwa [hpayload] at h

end Messages

/-- A message of 249 bytes is all that fits in a chunk with a path of one index. -/
theorem client_chunk_reassembles : ∃ apdus,
    send_async_sign_request .InsSignMessage coin_path (List.replicate 249 7) = some apdus ∧
    Reassembles nines_device (coin_main user_settings) apdus coin_path (List.replicate 249 7) :=
  (client_chunks_reassemble_iff Run.start rfl (Or.inl rfl) coin_path (by simp)
    (by rw [List.length_replicate]; decide)).mpr (by rw [List.length_replicate]; decide)

/-- One byte more, and the app has the path in its message. -/
theorem client_chunks_headed :
    (∃ apdus,
      send_async_sign_request .InsSignMessage coin_path (List.replicate 250 7) = some apdus ∧
      Reassembles nines_device (coin_main user_settings) apdus coin_path
        (List.replicate 249 7 ++ coin_path.serialized ++ [7])) ∧
    ¬∃ apdus,
      send_async_sign_request .InsSignMessage coin_path (List.replicate 250 7) = some apdus ∧
      Reassembles nines_device (coin_main user_settings) apdus coin_path
        (List.replicate 250 7) := by
  have hslices : slices coin_path.max_size (List.replicate 250 (7 : UInt8)) =
      [List.replicate 249 7, [7]] := by decide +kernel
  have hle : (List.replicate 250 (7 : UInt8)).length ≤ 65535 := by
    rw [List.length_replicate]
    decide
  constructor
  · have h := request_reassembles (s := coin_main user_settings) hslices
      (Or.inl rfl : InstructionCode.InsSignMessage.signs) hle nines_device rfl (by decide +kernel)
    rwa [List.append_assoc]
  · rintro ⟨apdus, hsend, h⟩
    have hone := request_in_one_slice hslices (Or.inl rfl) hle Run.start hsend h
    cases hone

end RenecLedger
