/-
Where the derivation path of a command comes from.

A path is read from the first chunk of a command, and a command without `P2_EXTEND` begins
with one. A signing command with `P2_EXTEND` goes on with a command in progress, so it has
the path of that; a public key command with `P2_EXTEND` has none. `dispatched_path_iff` says
that this is the only way to a handler without a path.
-/
import RenecLedger.Reassembly
import RenecLedger.HandlerSpec

set_option autoImplicit false

open MachineLib ProgramLib

namespace RenecLedger

/-! ## The path of a command -/

/-- The first chunk of a command, with the path in front of what else it holds. A signing
command says before it that there is one path. -/
def ApduHeader.HoldsPath (header : ApduHeader) (path : DerivationPath) : Prop :=
  header.first_data_chunk = true ∧ ∃ rest, header.data =
    some (if header.instruction = .InsGetPubkey then path.encode ++ rest
      else 1 :: (path.encode ++ rest))

/-- The command has one path of a length in bounds, from the first of the last APDUs; the
others have only extended the same command. -/
def HasPath (history : List (List UInt8)) (command : ApduCommand) : Prop :=
  command.num_derivation_paths = 1 ∧
  1 ≤ command.derivation_path.length ∧ command.derivation_path.length ≤ MAX_BIP32_PATH_LENGTH ∧
  ∃ before first extensions header path, history = before ++ first :: extensions ∧
    parse_apdu_header first = .ok header ∧ command.instruction = some header.instruction ∧
    header.HoldsPath path ∧ command.derivation_path = path.words ∧
    ∀ m ∈ extensions, ∃ h, parse_apdu_header m = .ok h ∧ h.instruction = header.instruction ∧
      h.non_confirm = header.non_confirm ∧ h.first_data_chunk = false

/-- A command that holds the path of an assembly. -/
theorem HasPath.of_assembles {before apdus : List (List UInt8)} {a : Assembly} {more : Bool}
    (hsigns : a.instruction.signs) (h : Assembles apdus a more) (state : ApduState) :
    HasPath (before ++ apdus) (a.command state) := by
  obtain ⟨first, extensions, payload, hmap, hkind, hfirst, hexts, hdata, -, -⟩ := h
  obtain ⟨m, ms, rfl⟩ : ∃ m ms, apdus = m :: ms := by
    cases apdus with
    | nil => cases hmap
    | cons m ms => exact ⟨m, ms, rfl⟩
  rw [List.map_cons, List.map_cons, List.cons.injEq] at hmap
  obtain ⟨hparse, hmap⟩ := hmap
  obtain ⟨hinstruction, hconfirm⟩ := hkind first List.mem_cons_self
  refine ⟨rfl, a.path.length_pos, a.path.length_le, before, m, ms, first, a.path, rfl, hparse,
    ?_, ⟨hfirst, payload, ?_⟩, rfl, ?_⟩
  · rw [hinstruction]
    rfl
  · rw [if_neg (by rw [hinstruction]; exact hsigns.ne_pubkey)]
    exact hdata
  · intro e he
    have hmem : parse_apdu_header e ∈ extensions.map Except.ok := by
      rw [← hmap]
      exact List.mem_map_of_mem he
    obtain ⟨h, hh, hparse'⟩ := List.mem_map.mp hmem
    obtain ⟨hins, hconf⟩ := hkind h (List.mem_cons_of_mem _ hh)
    exact ⟨h, hparse'.symm, hins.trans hinstruction.symm, hconf.trans hconfirm.symm, hexts h hh⟩

/-! ## The public key command -/

/-- What follows the path in a chunk leaves it alone. -/
theorem keeps_chunk_data (header : ApduHeader) (data : Option (List UInt8)) :
    Keeps (fun command : ApduCommand => (command.num_derivation_paths, command.derivation_path))
      (do
        modify fun command : ApduCommand =>
          { command with
            state := .ApduStatePayloadInProgress
            instruction := some header.instruction
            non_confirm := header.non_confirm }
        copy_data header data
        run_if (!header.more)
          (modify fun command => { command with state := .ApduStatePayloadComplete }) :
        ApduM Unit) := by
  refine keeps_bind (keeps_modify fun _ => rfl) fun _ => ?_
  refine keeps_bind (keeps_copy_data (fun _ _ _ => rfl) header data) fun _ => ?_
  exact keeps_run_if (keeps_modify fun _ => rfl)

/-- A public key command begins anew, and reads a path unless it has `P2_EXTEND`. -/
theorem handle_pubkey {header : ApduHeader} (hins : header.instruction = .InsGetPubkey)
    {command command' : ApduCommand} {u : Unit}
    (h : (handle_apdu_header header).run.run command = (.ok u, command')) :
    if header.first_data_chunk then
      ∃ path rest, header.data = some (DerivationPath.encode path ++ rest) ∧
        command'.num_derivation_paths = 1 ∧ command'.derivation_path = path.words
    else command'.num_derivation_paths = 0 ∧ command'.derivation_path = [] := by
  have hconfig : header.instruction ≠ .InsGetAppConfiguration := by
    rw [hins]
    exact nofun
  rw [handle_apdu_header, if_neg hconfig, begin_chunk, if_pos (Or.inl hins), set_bind,
    bind_eq_ok] at h
  obtain ⟨data, command₁, hread, h⟩ := h
  -- What comes after the path keeps it, so only the first chunk matters.
  have hkeep := keeps_chunk_data header data command₁
  rw [h, Prod.mk.injEq] at hkeep
  obtain ⟨hnum, hpath⟩ := hkeep
  by_cases hfirst : header.first_data_chunk = true
  · rw [if_pos hfirst] at hread ⊢
    rw [read_first_chunk, read_num_derivation_paths, if_neg (not_not.mpr hins)] at hread
    rw [bind_eq_ok] at hread
    obtain ⟨data', command₀, hfield, hread⟩ := hread
    cases hfield
    rw [of_except_bind_eq_ok] at hread
    obtain ⟨words, hwords, hread⟩ := hread
    cases hread
    cases hdata : header.data with
    | none =>
      rw [hdata] at hwords
      cases hwords
    | some data =>
      rw [hdata] at hwords
      obtain ⟨path, rest, rfl, rfl⟩ := read_derivation_path_iff.mp hwords
      exact ⟨path, rest, rfl, hnum, hpath⟩
  · rw [if_neg hfirst] at hread ⊢
    cases hread
    exact ⟨hnum, hpath⟩

/-- A public key APDU with the bit that is meant for the later chunks of a message. -/
def ExtendsPubkey (m : List UInt8) : Prop :=
  ∃ header, parse_apdu_header m = .ok header ∧ header.instruction = .InsGetPubkey ∧
    header.first_data_chunk = false

/-- One APDU is all of a public key command. -/
theorem pubkey_path_iff {history : List (List UInt8)} {m : List UInt8}
    {command command' : ApduCommand} {u : Unit}
    (h : (apdu_handle_message m).run.run command = (.ok u, command'))
    (hins : command'.instruction = some .InsGetPubkey) :
    HasPath (history ++ [m]) command' ↔ ¬ExtendsPubkey m := by
  obtain ⟨header, hparse, hheader⟩ := apdu_handle_message_ok h
  obtain ⟨hkind, -, -⟩ := handle_apdu_header_kind hheader
  have hpubkey : header.instruction = .InsGetPubkey := Option.some.inj (hkind.symm.trans hins)
  have hrun := handle_pubkey hpubkey hheader
  -- `P2_EXTEND` skips the reading of a path, and nothing refuses it for this command.
  by_cases hfirst : header.first_data_chunk = true
  · rw [if_pos hfirst] at hrun
    obtain ⟨path, rest, hdata, hnum, hpath⟩ := hrun
    refine iff_of_true ?_ ?_
    · rw [HasPath, hpath]
      refine ⟨hnum, path.length_pos, path.length_le, history, m, [], header, path, rfl, hparse,
        hkind, ⟨hfirst, rest, ?_⟩, rfl, nofun⟩
      rw [if_pos hpubkey]
      exact hdata
    · rintro ⟨header', hparse', -, hnot⟩
      rw [hparse, Except.ok.injEq] at hparse'
      rw [← hparse', hfirst] at hnot
      cases hnot
  · rw [if_neg hfirst] at hrun
    refine iff_of_false ?_ (not_not.mpr ⟨header, hparse, hpubkey, Bool.not_eq_true _ ▸ hfirst⟩)
    rintro ⟨hnum, -⟩
    rw [hrun.1] at hnum
    exact absurd hnum (by decide)

/-! ## Every dispatch -/

variable {device : Device}

/-- An APDU gets `handleApdu` to a handler that derives a key. -/
def Dispatches (s : AppState) (m : List UInt8) (command : ApduCommand) : Prop :=
  (receive_apdu m).run.run s = (.ok (), { s with G_command := command }) ∧
    (command.instruction = some .InsGetPubkey ∨ command.instruction = some .InsSignMessage ∨
      command.instruction = some .InsSignOffchainMessage)

/-- A signing command that gets to its handler has the path of its first chunk. -/
theorem signing_path {s : AppState} {inputs : List Input} {m : List UInt8}
    {command : ApduCommand} {instruction : InstructionCode}
    (htracks : Tracks (handled inputs) s.G_command)
    (h : (apdu_handle_message m).run.run s.G_command = (.ok (), command))
    (hins : command.instruction = some instruction) (hsigns : instruction.signs) :
    HasPath (handled inputs ++ [m]) command := by
  obtain ⟨before, apdus, a, header, hhist, hassembles, rfl⟩ := htracks.accepted h hins hsigns
  rw [hhist]
  obtain rfl : a.instruction = instruction := Option.some.inj hins
  exact HasPath.of_assembles hsigns hassembles _

/-- **No key is derived without a path**, unless the APDU is a public key command with
`P2_EXTEND`: then there is none. -/
theorem dispatched_path_iff (device : Device) (settings : AppSettings) (G_called_from_swap : Bool)
    (G_swap_validated : SwapValidated) (inputs : List Input) (s : AppState) (m : List UInt8)
    (command : ApduCommand)
    (hrun : Run (step device) (app_main_start settings G_called_from_swap G_swap_validated)
      inputs s)
    (hdispatch : Dispatches s m command) :
    HasPath (handled inputs ++ [m]) command ↔ ¬ExtendsPubkey m := by
  obtain ⟨hreceive, hins⟩ := hdispatch
  obtain ⟨c, hhandle, -, hc⟩ := receive_apdu_eq_ok.mp hreceive
  obtain rfl : command = c := congrArg AppState.G_command hc
  have hstart : (app_main_start settings G_called_from_swap G_swap_validated).G_command.state ≠
      .ApduStatePayloadInProgress := nofun
  have htracks := run_tracks hstart hrun
  rcases hins with hpubkey | hsign
  · exact pubkey_path_iff hhandle hpubkey
  · obtain ⟨instruction, hins, hsigns⟩ : ∃ instruction,
        command.instruction = some instruction ∧ instruction.signs :=
      hsign.elim (fun h => ⟨_, h, Or.inl rfl⟩) fun h => ⟨_, h, Or.inr rfl⟩
    refine iff_of_true (signing_path htracks hhandle hins hsigns) ?_
    rintro ⟨header, hparse, hpubkey, -⟩
    obtain ⟨header', hparse', hheader⟩ := apdu_handle_message_ok hhandle
    rw [hparse, Except.ok.injEq] at hparse'
    obtain ⟨hkind, -, -⟩ := handle_apdu_header_kind hheader
    rw [hins, Option.some.injEq, ← hparse', hpubkey] at hkind
    exact hsigns.ne_pubkey hkind

/-- The first APDU that the app receives asks for the key of a path. -/
theorem pubkey_with_path_dispatched :
    HasPath [chunk_apdu .InsGetPubkey P1_NON_CONFIRM 0 coin_path.encode]
        (command_after (chunk_apdu .InsGetPubkey P1_NON_CONFIRM 0 coin_path.encode)
          ApduCommand.cleared) ↔
      ¬ExtendsPubkey (chunk_apdu .InsGetPubkey P1_NON_CONFIRM 0 coin_path.encode) := by
  refine dispatched_path_iff nines_device user_settings false _ [] (coin_main user_settings) _ _
    Run.start ⟨?_, Or.inl ?_⟩
  · rfl
  · rfl

/-- With `P2_EXTEND`, and no data at all, a public key command gets to its handler without a
path. -/
theorem pubkey_without_path_dispatched : ∃ inputs s m command,
    Run (step nines_device) (coin_main user_settings) inputs s ∧ Dispatches s m command ∧
      ¬HasPath (handled inputs ++ [m]) command := by
  refine ⟨[], coin_main user_settings, [0xe0, 0x02, 0x00, 0x01, 0x00],
    ApduCommand.without_data ⟨.InsGetPubkey, P1_NON_CONFIRM, P2_EXTEND, none⟩, Run.start,
    ⟨?_, Or.inl rfl⟩, ?_⟩
  · rfl
  · rintro ⟨hnum, -⟩
    exact absurd hnum (by decide)

end RenecLedger
