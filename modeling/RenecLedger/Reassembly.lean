/-
Putting a command together from its chunks, over whole runs.

`Assembles` says of consecutive APDUs that they are the chunks of one command. Whatever
inputs have come, a signing command in progress is the assembly of the last APDUs that
were handled (`run_tracks`), and so is one that gets to its handler. In the other
direction, any cut of a payload into chunks gets it to its handler (`chunks_delivered`), and
an extension that does not follow its own kind is refused (`interrupted_extension`).
`chunk_reassembly` puts the three together.
-/
import RenecLedger.AppSpec

set_option autoImplicit false

open MachineLib ProgramLib

namespace RenecLedger

/-! ## The chunks of a command -/

/-- The APDUs among the inputs that `handleApdu` handles; an empty one is answered before
that. -/
def handled (inputs : List Input) : List (List UInt8) :=
  inputs.filterMap fun
    | .apdu m => if m = [] then none else some m
    | _ => none

/-- These APDUs, in order, are the chunks of one command: they have the same instruction
and the same meaning of P1, the first one alone is without `P2_EXTEND` and holds the path,
and the payload is what follows the path and then the data of the others. All but the
last have `P2_MORE`, and the last one has it if `more` says so. -/
def Assembles (apdus : List (List UInt8)) (a : Assembly) (more : Bool) : Prop :=
  ∃ (first : ApduHeader) (extensions : List ApduHeader) (payload : List UInt8),
    apdus.map parse_apdu_header = (first :: extensions).map Except.ok ∧
    (∀ h ∈ first :: extensions, h.instruction = a.instruction ∧ h.non_confirm = a.non_confirm) ∧
    first.first_data_chunk = true ∧ (∀ h ∈ extensions, h.first_data_chunk = false) ∧
    first.data = some (1 :: (a.path.encode ++ payload)) ∧
    a.payload = payload ++ extensions.flatMap (fun h => h.data.getD []) ∧
    (first :: extensions).map ApduHeader.more = List.replicate extensions.length true ++ [more]

theorem Assembles.first {m : List UInt8} {header : ApduHeader} {a : Assembly}
    (hparse : parse_apdu_header m = .ok header) (h : header.Begins a) :
    Assembles [m] a header.more := by
  obtain ⟨hfirst, hinstruction, hconfirm, hdata⟩ := h
  refine ⟨header, [], a.payload, ?_, ?_, hfirst, nofun, hdata, ?_, rfl⟩
  · rw [List.map_singleton, hparse]
    rfl
  · intro h hmem
    rw [List.mem_singleton] at hmem
    rw [hmem]
    exact ⟨hinstruction, hconfirm⟩
  · rw [List.flatMap_nil, List.append_nil]

theorem Assembles.extension {apdus : List (List UInt8)} {m : List UInt8} {header : ApduHeader}
    {a b : Assembly} (h : Assembles apdus a true) (hparse : parse_apdu_header m = .ok header)
    (hext : header.Extends a b) : Assembles (apdus ++ [m]) b header.more := by
  obtain ⟨first, extensions, payload, hmap, hkind, hfirst, hexts, hdata, hpayload, hmore⟩ := h
  obtain ⟨hnot, hinstruction, hconfirm, data, hle, hchunk, rfl⟩ := hext
  refine ⟨first, extensions ++ [header], payload, ?_, ?_, hfirst, ?_, hdata, ?_, ?_⟩
  · rw [List.map_append, hmap, List.map_singleton, hparse, ← List.cons_append, List.map_append]
    rfl
  · intro h hmem
    rw [← List.cons_append, List.mem_append, List.mem_singleton] at hmem
    rcases hmem with hmem | rfl
    · exact hkind h hmem
    · exact ⟨hinstruction, hconfirm⟩
  · intro h hmem
    rw [List.mem_append, List.mem_singleton] at hmem
    rcases hmem with hmem | rfl
    · exact hexts h hmem
    · exact hnot
  · change a.payload ++ data = _
    rw [hpayload, List.flatMap_append, List.flatMap_singleton, hchunk, Option.getD_some,
      List.append_assoc]
  · rw [← List.cons_append, List.map_append, hmore, List.length_append, List.length_singleton,
      List.replicate_succ', List.map_singleton]

/-! ## A command in progress -/

/-- A signing command in progress is the assembly of the last APDUs that were handled. -/
def Tracks (history : List (List UInt8)) (command : ApduCommand) : Prop :=
  command.state = .ApduStatePayloadInProgress →
    ∀ instruction, command.instruction = some instruction → instruction.signs →
      ∃ before apdus a, history = before ++ apdus ∧ Assembles apdus a true ∧
        command = a.command .ApduStatePayloadInProgress

theorem apdu_handle_message_ok {m : List UInt8} {command command' : ApduCommand} {u : Unit}
    (h : (apdu_handle_message m).run.run command = (.ok u, command')) :
    ∃ header, parse_apdu_header m = .ok header ∧
      (handle_apdu_header header).run.run command = (.ok u, command') := by
  rw [apdu_handle_message, of_except_bind_eq_ok] at h
  exact h

/-- An APDU that is accepted for a signing command begins an assembly, or goes on with
the one in progress. -/
theorem Tracks.accepted {history : List (List UInt8)} {command command' : ApduCommand}
    {m : List UInt8} {u : Unit} {instruction : InstructionCode} (h : Tracks history command)
    (hrun : (apdu_handle_message m).run.run command = (.ok u, command'))
    (hins : command'.instruction = some instruction) (hsigns : instruction.signs) :
    ∃ (before apdus : List (List UInt8)) (a : Assembly) (header : ApduHeader),
      history ++ [m] = before ++ apdus ∧ Assembles apdus a header.more ∧
        command' = a.command header.state_after := by
  obtain ⟨header, hparse, hheader⟩ := apdu_handle_message_ok hrun
  obtain ⟨hkind, hconfirm, -⟩ := handle_apdu_header_kind hheader
  obtain rfl : header.instruction = instruction := Option.some.inj (hkind.symm.trans hins)
  cases hfirst : header.first_data_chunk with
  | true =>
    obtain ⟨a, hbegins, rfl⟩ := (handle_first_chunk hsigns hfirst).mp hheader
    exact ⟨history, [m], a, header, rfl, Assembles.first hparse hbegins, rfl⟩
  | false =>
    have hprogress : command.in_progress header = true := by
      by_contra hnot
      rw [handle_extension_refused hsigns hfirst (Bool.eq_false_iff.mpr hnot)] at hheader
      cases hheader
    simp only [ApduCommand.in_progress, decide_eq_true_eq] at hprogress
    obtain ⟨hstate, hcommand, hsame, -⟩ := hprogress
    obtain ⟨before, apdus, a, rfl, hassembles, rfl⟩ := h hstate _ hcommand hsigns
    have ha : header.instruction = a.instruction := (Option.some.inj hcommand).symm
    obtain ⟨b, hextends, rfl⟩ := (handle_extension hsigns hfirst ha hsame.symm).mp hheader
    refine ⟨before, apdus ++ [m], b, header, ?_, hassembles.extension hparse hextends, rfl⟩
    rw [List.append_assoc]

/-- The next command in progress is tracked as well. -/
theorem Tracks.next {history : List (List UInt8)} {command command' : ApduCommand}
    {m : List UInt8} {u : Unit} (h : Tracks history command)
    (hrun : (apdu_handle_message m).run.run command = (.ok u, command')) :
    Tracks (history ++ [m]) command' := by
  intro hstate instruction hins hsigns
  obtain ⟨before, apdus, a, header, hhist, hassembles, rfl⟩ := h.accepted hrun hins hsigns
  cases hmore : header.more with
  | true =>
    rw [hmore] at hassembles
    refine ⟨before, apdus, a, hhist, hassembles, ?_⟩
    rw [ApduHeader.state_after, if_pos hmore]
  | false =>
    have hafter : header.state_after = .ApduStatePayloadInProgress := hstate
    rw [ApduHeader.state_after, if_neg (by rw [hmore]; exact Bool.false_ne_true)] at hafter
    cases hafter

/-! ## Along a run -/

variable {device : Device}

/-- When a command is in progress after an APDU, it is what this APDU has left. -/
theorem step_apdu_in_progress {s t : AppState} {m : List UInt8} (hm : m ≠ [])
    (h : step device s (.apdu m) = some t)
    (hstate : t.G_command.state = .ApduStatePayloadInProgress) :
    (apdu_handle_message m).run.run s.G_command = (.ok (), t.G_command) := by
  obtain rfl := step_apdu hm h
  rw [end_round_G_command] at hstate ⊢
  rcases hrun : (apdu_handle_message m).run.run s.begin_round.G_command with ⟨reply | u, c⟩
  · rw [handleApdu, bind_of_error (receive_apdu_error hrun)] at hstate
    cases hstate
  · by_cases hc : c.state = .ApduStatePayloadInProgress
    · rw [handleApdu, bind_of_error (receive_apdu_in_progress hrun hc)]
      exact hrun
    · -- the handler of a complete command keeps its state
      rw [handleApdu, bind_of_ok (receive_apdu_complete hrun hc)] at hstate
      have hkeep := keeps_dispatch_command device { s.begin_round with G_command := c }
      have hsame := congrArg (fun context => context.G_command.state) hkeep
      exact absurd (hsame.symm.trans hstate) hc

theorem handled_append (inputs inputs' : List Input) :
    handled (inputs ++ inputs') = handled inputs ++ handled inputs' := List.filterMap_append

theorem handled_apdu {m : List UInt8} (hm : m ≠ []) : handled [Input.apdu m] = [m] := by
  simp [handled, hm]

theorem handled_cases (i : Input) : handled [i] = [] ∨ ∃ m, m ≠ [] ∧ i = .apdu m := by
  cases i with
  | apdu m =>
    by_cases hm : m = []
    · left
      rw [hm]
      rfl
    · exact Or.inr ⟨m, hm, rfl⟩
  | approve => exact Or.inl rfl
  | reject => exact Or.inl rfl

/-- An empty APDU and the answers of the user leave the command alone. -/
theorem step_unhandled {s t : AppState} {i : Input} (hnone : handled [i] = [])
    (h : step device s i = some t) : t.G_command = s.G_command := by
  cases i with
  | apdu m =>
    by_cases hm : m = []
    · subst hm
      obtain rfl := step_no_apdu h
      rfl
    · rw [handled_apdu hm] at hnone
      cases hnone
  | approve =>
    obtain ⟨-, rfl⟩ := step_eq_some.mp h
    have hkeep : Keeps AppState.G_command approve :=
      keeps_approve (fun _ _ => rfl) (fun _ _ => rfl)
    rw [finish_G_command, run_input, hkeep s]
  | reject =>
    obtain ⟨-, rfl⟩ := step_eq_some.mp h
    have hkeep : Keeps AppState.G_command reject :=
      keeps_reject (fun _ _ => rfl) (fun _ _ => rfl)
    rw [finish_G_command, run_input, hkeep s]

/-- **Along every run**, a signing command in progress is the assembly of the last APDUs. -/
theorem run_tracks {s₀ s : AppState} {inputs : List Input}
    (hstart : s₀.G_command.state ≠ .ApduStatePayloadInProgress)
    (hrun : Run (step device) s₀ inputs s) : Tracks (handled inputs) s.G_command := by
  -- Only an APDU with bytes changes the command, and only then is the history longer.
  refine Run.history_invariant (P := fun inputs s => Tracks (handled inputs) s.G_command)
    (fun h => absurd h hstart) ?_ hrun
  intro inputs s i t htracks h
  rw [handled_append]
  rcases handled_cases i with hnone | ⟨m, hm, rfl⟩
  · rw [hnone, List.append_nil, step_unhandled hnone h]
    exact htracks
  · rw [handled_apdu hm]
    intro hstate
    exact htracks.next (step_apdu_in_progress hm h hstate) hstate

/-! ## Cutting a payload -/

/-- An APDU with data. -/
def chunk_apdu (instruction : InstructionCode) (p1 p2 : UInt8) (data : List UInt8) : List UInt8 :=
  CLA :: instruction.byte :: p1 :: p2 :: UInt8.ofNat data.length :: data

def chunk_p2 (extend more : Bool) : UInt8 :=
  (if extend then P2_EXTEND else 0) ||| (if more then P2_MORE else 0)

/-- The chunks after the first one. -/
def extension_apdus (instruction : InstructionCode) (p1 : UInt8) :
    List (List UInt8) → List (List UInt8)
  | [] => []
  | data :: chunks =>
    chunk_apdu instruction p1 (chunk_p2 true (!chunks.isEmpty)) data ::
      extension_apdus instruction p1 chunks

/-- A signing command in chunks: the first one holds the path and may hold data. -/
def command_apdus (instruction : InstructionCode) (p1 : UInt8) (path : DerivationPath)
    (first : List UInt8) (chunks : List (List UInt8)) : List (List UInt8) :=
  chunk_apdu instruction p1 (chunk_p2 false (!chunks.isEmpty)) (1 :: (path.encode ++ first)) ::
    extension_apdus instruction p1 chunks

theorem InstructionCode.ofByte_byte (instruction : InstructionCode) :
    InstructionCode.ofByte instruction.byte = some instruction := by
  cases instruction <;> rfl

theorem chunk_p2_first (extend more : Bool) :
    decide (chunk_p2 extend more &&& P2_EXTEND = 0) = !extend := by
  cases extend <;> cases more <;> decide

theorem chunk_p2_more (extend more : Bool) :
    decide (chunk_p2 extend more &&& P2_MORE ≠ 0) = more := by
  cases extend <;> cases more <;> decide

/-- The header of a chunk. -/
def chunk_header (instruction : InstructionCode) (p1 : UInt8) (extend more : Bool)
    (data : List UInt8) : ApduHeader :=
  { instruction, p1, p2 := chunk_p2 extend more, data := some data }

theorem chunk_header_first (instruction : InstructionCode) (p1 : UInt8) (extend more : Bool)
    (data : List UInt8) :
    (chunk_header instruction p1 extend more data).first_data_chunk = !extend :=
  chunk_p2_first extend more

theorem chunk_header_more (instruction : InstructionCode) (p1 : UInt8) (extend more : Bool)
    (data : List UInt8) : (chunk_header instruction p1 extend more data).more = more :=
  chunk_p2_more extend more

/-- Any two parameters and at most 255 bytes of data are a header. -/
theorem parse_apdu_header_chunk (instruction : InstructionCode) (p1 p2 : UInt8) {data : List UInt8}
    (hle : data.length ≤ 255) :
    parse_apdu_header (chunk_apdu instruction p1 p2 data) =
      .ok { instruction, p1, p2, data := if data = [] then none else some data } := by
  have hlen : (UInt8.ofNat data.length).toNat = data.length := by
    rw [UInt8.toNat_ofNat']
    omega
  have hbyte := instruction.ofByte_byte
  simp only [parse_apdu_header, chunk_apdu, OFFSET_INS, OFFSET_CLA, OFFSET_CDATA, OFFSET_LC,
    OFFSET_P1, OFFSET_P2, List.length_cons, List.getD_cons_zero, List.getD_cons_succ, hbyte, hlen]
  rw [if_neg (by omega), if_neg (by simp), if_neg (by omega), if_neg (by omega),
    if_neg (by omega)]
  by_cases hne : data = []
  · rw [hne]
    rfl
  · rw [if_pos (List.length_pos_of_ne_nil hne), if_neg hne]
    rfl

theorem parse_chunk_apdu (instruction : InstructionCode) (p1 : UInt8) (extend more : Bool)
    {data : List UInt8} (hne : data ≠ []) (hle : data.length ≤ 255) :
    parse_apdu_header (chunk_apdu instruction p1 (chunk_p2 extend more) data) =
      .ok (chunk_header instruction p1 extend more data) := by
  rw [parse_apdu_header_chunk instruction p1 _ hle, if_neg hne, chunk_header]

/-- The APDUs get a command to its handler: all but the last leave it in progress, and
the last one completes the assembly. -/
def Delivers (device : Device) (s : AppState) (apdus : List (List UInt8)) (a : Assembly) : Prop :=
  ∃ init last t, apdus = init ++ [last] ∧ Run (step device) s (init.map Input.apdu) t ∧
    (receive_apdu last).run.run t =
      (.ok (), { t with G_command := a.command .ApduStatePayloadComplete })

/-- The answer to a chunk that more are to follow. -/
def continued : Event := .response (.bytes []) .ApduReplySuccess

/-- All that has happened are the answers to some chunks. -/
structure Continues (s t : AppState) (n : ℕ) : Prop where
  running : t.stopped = s.stopped
  given : t.given = s.given
  screen : t.screen = s.screen
  log : t.log = s.log ++ List.replicate n continued

theorem Continues.trans {s t u : AppState} {n : ℕ} (h : Continues s t 1) (h' : Continues t u n) :
    Continues s u (n + 1) where
  running := h'.running.trans h.running
  given := h'.given.trans h.given
  screen := h'.screen.trans h.screen
  log := by
    rw [h'.log, h.log, List.append_assoc, ← List.replicate_add, Nat.add_comm]

/-- The APDUs are the chunks of a command. All but the last have been answered, and the last one
gets the command to its handler. -/
def Completes (device : Device) (s : AppState) (apdus : List (List UInt8)) (a : Assembly) (n : ℕ) :
    Prop :=
  ∃ init last t, apdus = init ++ [last] ∧ Run (step device) s (init.map Input.apdu) t ∧
    Continues s t n ∧ last ≠ [] ∧
    (apdu_handle_message last).run.run t.G_command = (.ok (), a.command .ApduStatePayloadComplete)

theorem Completes.last {s : AppState} {m : List UInt8} {a : Assembly} (hm : m ≠ [])
    (h : (apdu_handle_message m).run.run s.G_command =
      (.ok (), a.command .ApduStatePayloadComplete)) : Completes device s [m] a 0 :=
  ⟨[], m, s, rfl, Run.start, ⟨rfl, rfl, rfl, (List.append_nil _).symm⟩, hm, h⟩

/-- A chunk with `P2_MORE` in front. -/
theorem Completes.cons {s : AppState} {m : List UInt8} {apdus : List (List UInt8)}
    {a b : Assembly} {n : ℕ} (hs : s.stopped = false) (hm : m ≠ [])
    (h : (apdu_handle_message m).run.run s.G_command =
      (.ok (), b.command .ApduStatePayloadInProgress))
    (hrest : ∀ t : AppState, t.stopped = false →
      t.G_command = b.command .ApduStatePayloadInProgress → Completes device t apdus a n) :
    Completes device s (m :: apdus) a (n + 1) := by
  obtain ⟨t, hstep⟩ : ∃ t, step device s (.apdu m) = some t := ⟨_, step_eq_some.mpr ⟨hs, rfl⟩⟩
  have ht := step_apdu hm hstep
  have hprogress : (receive_apdu m).run.run s.begin_round = _ := receive_apdu_in_progress h rfl
  rw [handleApdu, bind_of_error hprogress] at ht
  have hcontinues : Continues s t 1 := by
    rw [ht]
    exact ⟨rfl, rfl, rfl, rfl⟩
  obtain ⟨init, last, u, rfl, hrun, hmore, hlast⟩ :=
    hrest t (by rw [ht]; exact hs) (by rw [ht]; rfl)
  exact ⟨m :: init, last, u, rfl, hrun.cons hstep, hcontinues.trans hmore, hlast⟩

/-- The last of the chunks gets to the handler. -/
theorem Completes.delivers {s : AppState} {apdus : List (List UInt8)} {a : Assembly} {n : ℕ}
    (h : Completes device s apdus a n) : Delivers device s apdus a := by
  obtain ⟨init, last, t, happ, hrun, -, -, hlast⟩ := h
  exact ⟨init, last, t, happ, hrun, receive_apdu_complete hlast nofun⟩

/-- The state that a chunk leaves. -/
def state_after (more : Bool) : ApduState :=
  if more then .ApduStatePayloadInProgress else .ApduStatePayloadComplete

/-- The APDU of a chunk adds its data to the assembly in progress. -/
theorem handle_extension_apdu {a : Assembly} (hsigns : a.instruction.signs) {p1 : UInt8}
    (hconfirm : a.non_confirm = decide (p1 = P1_NON_CONFIRM)) {data : List UInt8}
    (hne : data ≠ []) (hle : data.length ≤ 255) (more : Bool)
    (hmax : a.payload.length + data.length ≤ MAX_MESSAGE_LENGTH) :
    (apdu_handle_message (chunk_apdu a.instruction p1 (chunk_p2 true more) data)).run.run
        (a.command .ApduStatePayloadInProgress) =
      (.ok (), (a.extend data hmax).command (state_after more)) := by
  have hfirst := chunk_header_first a.instruction p1 true more data
  rw [apdu_handle_message, of_except_bind_eq_ok]
  refine ⟨_, parse_chunk_apdu a.instruction p1 true more hne hle, ?_⟩
  rw [handle_extension hsigns hfirst rfl hconfirm.symm, ApduHeader.state_after, chunk_header_more]
  exact ⟨_, ⟨hfirst, rfl, hconfirm.symm, data, hmax, rfl, rfl⟩, rfl⟩

/-- The APDU of a first chunk begins an assembly, whatever was there before. -/
theorem handle_first_apdu {a : Assembly} (hsigns : a.instruction.signs) {p1 : UInt8}
    (hconfirm : a.non_confirm = decide (p1 = P1_NON_CONFIRM)) (more : Bool)
    (hle : 1 + (a.path.encode ++ a.payload).length ≤ 255) (command : ApduCommand) :
    (apdu_handle_message (chunk_apdu a.instruction p1 (chunk_p2 false more)
        (1 :: (a.path.encode ++ a.payload)))).run.run command =
      (.ok (), a.command (state_after more)) := by
  have hfirst := chunk_header_first a.instruction p1 false more (1 :: (a.path.encode ++ a.payload))
  have hparse := parse_chunk_apdu a.instruction p1 false more
    (List.cons_ne_nil 1 (a.path.encode ++ a.payload)) (by rw [List.length_cons]; omega)
  rw [apdu_handle_message, of_except_bind_eq_ok]
  refine ⟨_, hparse, ?_⟩
  rw [handle_first_chunk hsigns hfirst, ApduHeader.state_after, chunk_header_more]
  exact ⟨a, ⟨hfirst, rfl, hconfirm.symm, rfl⟩, rfl⟩

theorem chunk_apdu_ne_nil (instruction : InstructionCode) (p1 p2 : UInt8) (data : List UInt8) :
    chunk_apdu instruction p1 p2 data ≠ [] := nofun

/-- The chunks after the first one, by induction on those that are still to come. -/
theorem extensions_complete {p1 : UInt8} {chunk : List UInt8} {chunks : List (List UInt8)}
    (hchunks : ∀ c ∈ chunk :: chunks, c ≠ [] ∧ c.length ≤ 255) {a : Assembly}
    (hsigns : a.instruction.signs) (hconfirm : a.non_confirm = decide (p1 = P1_NON_CONFIRM))
    (hmax : a.payload.length + (chunk :: chunks).flatten.length ≤ MAX_MESSAGE_LENGTH)
    {s : AppState} (hs : s.stopped = false)
    (hcommand : s.G_command = a.command .ApduStatePayloadInProgress) :
    Completes device s (extension_apdus a.instruction p1 (chunk :: chunks))
      (a.extend (chunk :: chunks).flatten hmax) chunks.length := by
  induction chunks generalizing a chunk s with
  | nil =>
    obtain ⟨hne, hle⟩ := hchunks chunk List.mem_cons_self
    have hextend : a.extend [chunk].flatten hmax =
        a.extend chunk (by rwa [List.flatten_singleton] at hmax) := by
      simp only [List.flatten_singleton]
    rw [hextend]
    refine Completes.last (chunk_apdu_ne_nil _ _ _ _) ?_
    rw [hcommand]
    exact handle_extension_apdu hsigns hconfirm hne hle false _
  | cons chunk' chunks ih =>
    obtain ⟨hne, hle⟩ := hchunks chunk List.mem_cons_self
    have hall := hmax
    rw [List.flatten_cons, List.length_append] at hall
    have hchunk : a.payload.length + chunk.length ≤ MAX_MESSAGE_LENGTH := by omega
    have hrest : (a.extend chunk hchunk).payload.length + (chunk' :: chunks).flatten.length ≤
        MAX_MESSAGE_LENGTH := by
      rw [Assembly.extend, List.length_append]
      omega
    have hextend : a.extend (chunk :: chunk' :: chunks).flatten hmax =
        (a.extend chunk hchunk).extend (chunk' :: chunks).flatten hrest := by
      refine Assembly.ext rfl rfl rfl ?_
      simp only [Assembly.extend, List.flatten_cons, List.append_assoc]
    have hrun := handle_extension_apdu hsigns hconfirm hne hle true hchunk
    rw [← hcommand] at hrun
    rw [hextend]
    exact Completes.cons hs (chunk_apdu_ne_nil _ _ _ _) hrun fun t ht hprogress =>
      ih (a := a.extend chunk hchunk) (fun c hc => hchunks c (List.mem_cons_of_mem _ hc))
        hsigns hconfirm hrest ht hprogress

/-- Any cut of a payload. -/
theorem chunks_complete {a : Assembly} (hsigns : a.instruction.signs) {p1 : UInt8}
    (hconfirm : a.non_confirm = decide (p1 = P1_NON_CONFIRM)) {first : List UInt8}
    {chunks : List (List UInt8)} (hfirst : 1 + (a.path.encode ++ first).length ≤ 255)
    (hchunks : ∀ c ∈ chunks, c ≠ [] ∧ c.length ≤ 255)
    (hpayload : a.payload = first ++ chunks.flatten) {s : AppState} (hs : s.stopped = false) :
    Completes device s (command_apdus a.instruction p1 a.path first chunks) a chunks.length := by
  have hmax := a.payload_le
  rw [hpayload, List.length_append] at hmax
  -- what the first chunk says
  let b : Assembly := ⟨a.instruction, a.non_confirm, a.path, first, by omega⟩
  have hrun (more : Bool) : (apdu_handle_message (chunk_apdu a.instruction p1
      (chunk_p2 false more) (1 :: (a.path.encode ++ first)))).run.run s.G_command =
        (.ok (), b.command (state_after more)) :=
    handle_first_apdu (a := b) hsigns hconfirm more hfirst s.G_command
  cases chunks with
  | nil =>
    have ha : b = a := by
      refine Assembly.ext rfl rfl rfl ?_
      rw [hpayload, List.flatten_nil, List.append_nil]
    have hlast := hrun false
    rw [ha] at hlast
    exact Completes.last (chunk_apdu_ne_nil _ _ _ _) hlast
  | cons chunk chunks =>
    have ha : a = b.extend (chunk :: chunks).flatten hmax := Assembly.ext rfl rfl rfl hpayload
    refine Completes.cons hs (chunk_apdu_ne_nil _ _ _ _) (hrun true) fun t ht hprogress => ?_
    have hrest : Completes device t (extension_apdus a.instruction p1 (chunk :: chunks)) _ _ :=
      extensions_complete hchunks (a := b) hsigns hconfirm hmax ht hprogress
    rwa [← ha] at hrest

/-- **Any cut** of a payload is delivered, from any state, as the same command. -/
theorem chunks_delivered {a : Assembly} (hsigns : a.instruction.signs) {p1 : UInt8}
    (hconfirm : a.non_confirm = decide (p1 = P1_NON_CONFIRM)) {first : List UInt8}
    {chunks : List (List UInt8)} (hfirst : 1 + (a.path.encode ++ first).length ≤ 255)
    (hchunks : ∀ c ∈ chunks, c ≠ [] ∧ c.length ≤ 255)
    (hpayload : a.payload = first ++ chunks.flatten)
    {s : AppState} (hs : s.stopped = false) :
    Delivers device s (command_apdus a.instruction p1 a.path first chunks) a :=
  (chunks_complete hsigns hconfirm hfirst hchunks hpayload hs).delivers

/-! ## Interruptions -/

/-- An APDU that is accepted, is of the same kind as the chunk and says that more follow. -/
def GoesOn (command : ApduCommand) (m : List UInt8) (chunk : ApduHeader) : Prop :=
  ∃ header command', parse_apdu_header m = .ok header ∧
    header.instruction = chunk.instruction ∧ header.non_confirm = chunk.non_confirm ∧
    header.more = true ∧ (apdu_handle_message m).run.run command = (.ok (), command')

/-- After anything else, a chunk with `P2_EXTEND` is refused, and the command is cleared. -/
theorem interrupted_extension {s t : AppState} {m e : List UInt8} {chunk : ApduHeader}
    (hm : m ≠ []) (h : step device s (.apdu m) = some t)
    (hparse : parse_apdu_header e = .ok chunk) (hsigns : chunk.instruction.signs)
    (hext : chunk.first_data_chunk = false) (hnot : ¬GoesOn s.G_command m chunk) :
    (receive_apdu e).run.run t =
      (.error (.THROW .ApduReplyRenecInvalidMessage),
        { t with G_command := ApduCommand.cleared }) := by
  have hprogress : t.G_command.in_progress chunk = false := by
    refine Bool.eq_false_iff.mpr fun hprogress => hnot ?_
    simp only [ApduCommand.in_progress, decide_eq_true_eq] at hprogress
    obtain ⟨hstate, hins, hconfirm, -⟩ := hprogress
    have hrun := step_apdu_in_progress hm h hstate
    obtain ⟨header, hheader, hhandle⟩ := apdu_handle_message_ok hrun
    obtain ⟨hkind, hsame, hmore⟩ := handle_apdu_header_kind hhandle
    refine ⟨header, t.G_command, hheader, ?_, hsame.symm.trans hconfirm, hmore hstate, hrun⟩
    exact Option.some.inj (hkind.symm.trans hins)
  apply receive_apdu_error
  rw [apdu_handle_message, hparse, of_except]
  exact (bind_of_ok (run_pure _ _)).trans (handle_extension_refused hsigns hext hprogress)

/-! ## Reassembly -/

/-- An APDU gets `handleApdu` to the handler of a signing command. -/
def ReachesHandler (s : AppState) (m : List UInt8) (command : ApduCommand) : Prop :=
  (receive_apdu m).run.run s = (.ok (), { s with G_command := command }) ∧
    ∃ instruction, command.instruction = some instruction ∧ instruction.signs

/-- **Chunk reassembly.** Whenever a signing command reaches its handler, it is the
assembly of the last APDUs that were handled, the last one without `P2_MORE`. Any cut of
a payload into chunks gets it there, from any state, and always as the same command. And
a chunk with `P2_EXTEND` is refused after any APDU that was rejected or is not a chunk of
the same kind with `P2_MORE`. -/
theorem chunk_reassembly (device : Device) :
    (∀ settings G_called_from_swap G_swap_validated inputs s m command,
      Run (step device) (app_main_start settings G_called_from_swap G_swap_validated) inputs s →
      ReachesHandler s m command →
      ∃ before apdus a, handled inputs ++ [m] = before ++ apdus ∧ Assembles apdus a false ∧
        command = a.command .ApduStatePayloadComplete) ∧
    (∀ (s : AppState) (a : Assembly) (p1 : UInt8) (first : List UInt8)
      (chunks : List (List UInt8)), s.stopped = false → a.instruction.signs →
      a.non_confirm = decide (p1 = P1_NON_CONFIRM) →
      1 + (a.path.encode ++ first).length ≤ 255 → (∀ c ∈ chunks, c ≠ [] ∧ c.length ≤ 255) →
      a.payload = first ++ chunks.flatten →
      ∃ init last t, command_apdus a.instruction p1 a.path first chunks = init ++ [last] ∧
        Run (step device) s (init.map Input.apdu) t ∧
        ReachesHandler t last (a.command .ApduStatePayloadComplete)) ∧
    (∀ (s t : AppState) (m e : List UInt8) (chunk : ApduHeader), m ≠ [] →
      step device s (.apdu m) = some t → parse_apdu_header e = .ok chunk →
      chunk.instruction.signs → chunk.first_data_chunk = false → ¬GoesOn s.G_command m chunk →
      (receive_apdu e).run.run t =
        (.error (.THROW .ApduReplyRenecInvalidMessage),
          { t with G_command := ApduCommand.cleared })) := by
  refine ⟨?_, ?_, ?_⟩
  · intro settings called validated inputs s m command hrun hreach
    obtain ⟨hreceive, instruction, hins, hsigns⟩ := hreach
    obtain ⟨c, hhandle, hstate, hc⟩ := receive_apdu_eq_ok.mp hreceive
    obtain rfl : command = c := congrArg AppState.G_command hc
    have hstart : (app_main_start settings called validated).G_command.state ≠
        .ApduStatePayloadInProgress := nofun
    have htracks := run_tracks hstart hrun
    obtain ⟨before, apdus, a, header, hhist, hassembles, rfl⟩ :=
      htracks.accepted hhandle hins hsigns
    -- A chunk with `P2_MORE` leaves the command in progress and reaches no handler.
    cases hmore : header.more with
    | true =>
      refine absurd ?_ hstate
      change header.state_after = _
      rw [ApduHeader.state_after, if_pos hmore]
    | false =>
      rw [hmore] at hassembles
      refine ⟨before, apdus, a, hhist, hassembles, ?_⟩
      rw [ApduHeader.state_after, if_neg (by rw [hmore]; exact Bool.false_ne_true)]
  · intro s a p1 first chunks hs hsigns hconfirm hfirst hchunks hpayload
    have hdelivered : Delivers device s (command_apdus a.instruction p1 a.path first chunks) a :=
      chunks_delivered hsigns hconfirm hfirst hchunks hpayload hs
    obtain ⟨init, last, t, hapdus, hrun, hlast⟩ := hdelivered
    exact ⟨init, last, t, hapdus, hrun, hlast, a.instruction, rfl, hsigns⟩
  · intro s t m e chunk hm h hparse hsigns hext hnot
    exact interrupted_extension hm h hparse hsigns hext hnot

end RenecLedger
