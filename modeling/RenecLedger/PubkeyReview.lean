/-
The public key on the screen.

The review of a public key shows the text in `G_publicKeyStr`, and its approve button sends the
key in `G_publicKey`. While it is open the host may go on, and another public key command writes
to both. They are written together, and nothing else writes to either, so in every run the text
on the screen is the address of the key that the button sends (`approved_key_is_shown`).
-/
import RenecLedger.Base58Text
import RenecLedger.CommandPath
import RenecLedger.Review
import RenecLedger.TextBounds

set_option autoImplicit false

open MachineLib ProgramLib

namespace RenecLedger

/-- The globals of `src/handle_get_pubkey.c`: the key, and the buffer with its address.
The approve button reads the first, the screen the second. -/
def AppState.address (s : AppState) : Pubkey × List UInt8 := (s.G_publicKey, s.G_publicKeyStr)

variable {device : Device}

/-! ## Deriving the key -/

/-- The key of the path of the command, and its address in front of what the buffer held. -/
def AppState.with_key (device : Device) (s : AppState) : AppState :=
  let key := device.get_public_key s.G_command.derivation_path
  { s with
    G_publicKey := key
    G_publicKeyStr :=
      base58 key.data ++ 0 :: s.G_publicKeyStr.drop ((base58 key.data).length + 1) }

/-- The key's text leaves its buffer at its length. -/
theorem with_key_size {s : AppState} (hsize : s.G_publicKeyStr.length = BASE58_PUBKEY_LENGTH) :
    (s.with_key device).G_publicKeyStr.length = BASE58_PUBKEY_LENGTH := by
  have hlen := base58_length_lt (device.get_public_key s.G_command.derivation_path).size
  simp only [AppState.with_key, List.length_append, List.length_cons, List.length_drop, hsize]
  omega

/-- A key fits in the buffer for its address. -/
theorem encode_base58_key (key : Pubkey) {out : List UInt8}
    (hsize : out.length = BASE58_PUBKEY_LENGTH) :
    encode_base58 key.data out BASE58_PUBKEY_LENGTH =
      some (0, base58 key.data ++ 0 :: out.drop ((base58 key.data).length + 1)) := by
  have hlen := base58_length_lt key.size
  have hlength : key.data.length ≤ 32 := Nat.le_of_eq key.size
  rw [encode_base58_eq key.data out _ hlength, if_neg (by omega)]
  exact copies_text (by omega)

/-- What the handler does after its checks. -/
theorem handle_get_pubkey_run {s : AppState}
    (hsize : s.G_publicKeyStr.length = BASE58_PUBKEY_LENGTH)
    (hinstruction : s.G_command.instruction = some .InsGetPubkey)
    (hstate : s.G_command.state = .ApduStatePayloadComplete) :
    (handle_get_pubkey device).run.run s =
      if s.G_command.non_confirm then
        (.error (.THROW .ApduReplySuccess),
          { s.with_key device with tx := .bytes (s.with_key device).G_publicKey.data })
      else (.ok (), { s.with_key device with screen := .pubkey_review }) := by
  have hrun := encode_base58_key (device.get_public_key s.G_command.derivation_path) hsize
  have hcommand : ¬(s.G_command.instruction ≠ some .InsGetPubkey ∨
      s.G_command.state ≠ .ApduStatePayloadComplete) := by
    rw [not_or, not_not, not_not]
    exact ⟨hinstruction, hstate⟩
  rw [handle_get_pubkey, get_bind, THROW_IF, bind_of_ok (throw_if_neg hcommand _ _)]
  dsimp only
  rw [or_stop_bind hrun, modify_bind]
  cases s.G_command.non_confirm with
  | true => rfl
  | false => rfl

/-- Without a complete command for a key, the handler refuses and changes nothing. -/
theorem handle_get_pubkey_refuses {s : AppState}
    (h : s.G_command.instruction ≠ some .InsGetPubkey ∨
      s.G_command.state ≠ .ApduStatePayloadComplete) :
    (handle_get_pubkey device).run.run s =
      (.error (.THROW .ApduReplySdkInvalidParameter), s) := by
  rw [handle_get_pubkey, get_bind]
  exact bind_of_error (throw_if_pos h _ _)

/-! ## What the other handlers leave alone -/

/-- Parsing a message leaves the key's text and path. -/
theorem keeps_address_parse_message :
    Keeps AppState.address (handle_sign_message_parse_message device) := by
  refine keeps_bind keeps_get fun s => keeps_bind (keeps_THROW_IF _) fun _ => ?_
  refine keeps_bind (keeps_of_except _) fun _ => keeps_bind (keeps_of_except _) fun _ => ?_
  refine keeps_bind (keeps_THROW_IF _) fun _ => keeps_bind (keeps_modify fun _ => rfl) fun _ => ?_
  refine keeps_bind (keeps_summarize_message device (fun _ _ => rfl) (fun _ _ => rfl) _ _)
    fun _ => ?_
  exact keeps_bind (keeps_add_fee_payer (fun _ _ => rfl) _ _) fun _ => keeps_pure _

/-- So do the checks of a swap. -/
theorem keeps_address_check_swap (kinds : List SummaryItemKind) :
    Keeps AppState.address (check_swap_validity kinds) := by
  refine keeps_ite (keeps_pure _) (keeps_bind keeps_get fun _ => ?_)
  exact keeps_bind (keeps_or_stop _) fun _ => keeps_bind (keeps_modify fun _ => rfl) fun _ =>
    keeps_pure _

/-- The address is still `a`, and if the review of a key is on the screen, then `asked`.
The handlers of other commands may close that review but leave its key. -/
def Holds (a : Pubkey × List UInt8) (asked : Prop) (s : AppState) : Prop :=
  s.address = a ∧ (s.screen = .pubkey_review → asked)

variable {a : Pubkey × List UInt8} {asked : Prop}

/-- What leaves the address and the screen keeps what the screen holds. -/
theorem holds_of_keeps {α : Type} {p : App α} (haddress : Keeps AppState.address p)
    (hscreen : Keeps AppState.screen p) : Preserves (Holds a asked) p := by
  rintro s ⟨ha, hasked⟩
  rw [Holds, haddress s, hscreen s]
  exact ⟨ha, hasked⟩

/-- Sending a response keeps it: the review is closed, or stays as it was. -/
theorem holds_sendResponse (tx : ResponseData) (sw : ApduReply) (display_menu : Bool) :
    Preserves (Holds a asked) (sendResponse tx sw display_menu) := by
  refine preserves_bind (preserves_modify fun _ h => h) fun _ _ _ _ => ?_
  refine preserves_bind preserves_get fun _ _ _ _ => ?_
  refine preserves_bind (preserves_throw_if _) fun _ _ _ _ => ?_
  exact preserves_run_if (preserves_modify fun _ h => ⟨h.1, nofun⟩)

/-- So does opening a review of a message, which is another screen. -/
theorem holds_start_sign_ui : Preserves (Holds a asked) start_sign_ui := by
  refine preserves_bind preserves_get fun _ _ _ _ => ?_
  refine preserves_bind (preserves_modify fun _ h => h) fun _ _ _ _ => ?_
  exact preserves_modify fun _ h => ⟨h.1, nofun⟩

/-- The message's handler leaves the address. -/
theorem holds_handle_sign_message : Preserves (Holds a asked) (handle_sign_message device) := by
  refine preserves_bind (holds_of_keeps keeps_address_parse_message
    ((keeps_handle_sign_message_parse_message device).comp AppCore.screen)) fun _ _ _ _ => ?_
  refine preserves_bind preserves_get fun s _ _ _ => ?_
  split
  · exact preserves_throw _
  · refine preserves_ite ?_ holds_start_sign_ui
    refine preserves_bind preserves_get fun _ _ _ _ => ?_
    refine preserves_bind (preserves_throw_if _) fun _ _ _ _ => ?_
    refine preserves_bind (preserves_modify fun _ h => h) fun _ _ _ _ => ?_
    refine preserves_bind (holds_of_keeps (keeps_address_check_swap _)
      ((keeps_check_swap_validity _).comp AppCore.screen)) fun _ _ _ _ => ?_
    refine preserves_ite ?_ (holds_sendResponse _ _ _)
    exact preserves_bind (preserves_bind preserves_get fun _ _ _ _ => preserves_pure _)
      fun _ _ _ _ => holds_sendResponse _ _ _

/-- So does the off-chain one. -/
theorem holds_handle_sign_offchain_message :
    Preserves (Holds a asked) (handle_sign_offchain_message device) := by
  refine preserves_bind preserves_get fun s _ _ _ => ?_
  refine preserves_bind (preserves_throw_if _) fun _ _ _ _ => ?_
  refine preserves_bind (preserves_throw_if _) fun _ _ _ _ => ?_
  refine preserves_bind (preserves_of_except _) fun _ _ _ _ => ?_
  refine preserves_bind (preserves_of_except _) fun _ _ _ _ => ?_
  refine preserves_bind (preserves_run_if (preserves_modify fun _ h => h)) fun _ _ _ _ => ?_
  refine preserves_bind (preserves_modify fun _ h => h) fun _ _ _ _ => ?_
  refine preserves_bind (preserves_bind preserves_get fun _ _ _ _ => preserves_pure _)
    fun _ _ _ _ => ?_
  refine preserves_bind (holds_of_keeps (keeps_run_printer _ fun _ _ => rfl)
    (keeps_run_printer _ fun _ _ => rfl)) fun _ _ _ _ => ?_
  refine preserves_bind preserves_get fun s _ _ _ => ?_
  split
  · exact preserves_throw _
  · exact holds_start_sign_ui

/-- **Only the public key command** writes a key, or puts one up for review. -/
theorem holds_dispatch_command {s : AppState}
    (hins : s.G_command.instruction ≠ some .InsGetPubkey) (h : Holds a asked s) :
    Holds a asked ((dispatch_command device).run.run s).2 := by
  rw [dispatch_command, get_bind]
  split
  · have hkeep : Preserves (Holds a asked) handle_get_app_configuration :=
      preserves_bind preserves_get fun _ _ _ _ =>
        preserves_bind (preserves_modify fun _ h => h) fun _ _ _ _ => preserves_throw _
    exact hkeep s h
  · rename_i hpubkey
    exact absurd hpubkey hins
  · exact holds_handle_sign_message s h
  · exact holds_handle_sign_offchain_message s h
  · exact h

/-! ## The keys that are asked for -/

/-- One of the APDUs is a public key command for this path; one with `P2_EXTEND` has
none, and then the path is empty. -/
def Requested (history : List (List UInt8)) (non_confirm : Bool) (path : List UInt32) : Prop :=
  ∃ m ∈ history, ∃ header, parse_apdu_header m = .ok header ∧
    header.instruction = .InsGetPubkey ∧ header.non_confirm = non_confirm ∧
    ((∃ p : DerivationPath, header.HoldsPath p ∧ path = p.words) ∨
      header.first_data_chunk = false ∧ path = [])

/-- A key that was asked for has been asked for. -/
theorem Requested.append {history : List (List UInt8)} {non_confirm : Bool} {path : List UInt32}
    (h : Requested history non_confirm path) (apdus : List (List UInt8)) :
    Requested (history ++ apdus) non_confirm path := by
  obtain ⟨m, hm, hheader⟩ := h
  exact ⟨m, List.mem_append_left _ hm, hheader⟩

/-- A command that is not cleared has been accepted. -/
theorem command_after_accepted {m : List UInt8} {command : ApduCommand}
    {instruction : InstructionCode}
    (h : (command_after m command).instruction = some instruction) :
    (apdu_handle_message m).run.run command = (.ok (), command_after m command) := by
  rcases hrun : (apdu_handle_message m).run.run command with ⟨reply | u, c⟩
  · rw [command_after, hrun] at h
    cases h
  · rw [command_after, hrun]

/-- A public key command that gets to its handler asks for the key of its path. -/
theorem requested_path {m : List UInt8} {command : ApduCommand} (history : List (List UInt8))
    (h : (command_after m command).instruction = some .InsGetPubkey) :
    Requested (history ++ [m]) (command_after m command).non_confirm
      (command_after m command).derivation_path := by
  obtain ⟨header, hparse, hheader⟩ := apdu_handle_message_ok (command_after_accepted h)
  obtain ⟨hkind, hconfirm, -⟩ := handle_apdu_header_kind hheader
  have hpubkey : header.instruction = .InsGetPubkey := Option.some.inj (hkind.symm.trans h)
  have hrun := handle_pubkey hpubkey hheader
  refine ⟨m, List.mem_append_right _ (List.mem_singleton_self m), header, hparse, hpubkey,
    hconfirm.symm, ?_⟩
  by_cases hfirst : header.first_data_chunk = true
  · rw [if_pos hfirst] at hrun
    obtain ⟨path, rest, hdata, -, hpath⟩ := hrun
    refine Or.inl ⟨path, ⟨hfirst, rest, ?_⟩, hpath⟩
    rw [if_pos hpubkey]
    exact hdata
  · rw [if_neg hfirst] at hrun
    exact Or.inr ⟨Bool.not_eq_true _ ▸ hfirst, hrun.2⟩

/-- The text is the address of the key, which one of the APDUs has asked for. It is kept
when other commands come, since only one handler writes to the two globals, and it
writes both. -/
def IsAddress (device : Device) (history : List (List UInt8)) (a : Pubkey × List UInt8) : Prop :=
  c_str a.2 = base58 a.1.data ∧
    ∃ non_confirm path, Requested history non_confirm path ∧ a.1 = device.get_public_key path

/-- An address of a key that was asked for stays one. -/
theorem IsAddress.append {history : List (List UInt8)} (h : IsAddress device history a)
    (apdus : List (List UInt8)) : IsAddress device (history ++ apdus) a := by
  obtain ⟨htext, non_confirm, path, hpath, hkey⟩ := h
  exact ⟨htext, non_confirm, path, hpath.append apdus, hkey⟩

/-- The handler writes the address of the key that was asked for. -/
theorem with_key_is_address {history : List (List UInt8)} {s : AppState}
    (h : Requested history s.G_command.non_confirm s.G_command.derivation_path) :
    IsAddress device history (s.with_key device).address :=
  ⟨c_str_append_zero (zero_notMem_base58 _) _, _, _, h, rfl⟩

/-! ## Along a run -/

/-- What holds in every state of a run. -/
structure ShowsAddress (device : Device) (history : List (List UInt8)) (s : AppState) : Prop where
  size : s.G_publicKeyStr.length = BASE58_PUBKEY_LENGTH
  shown : s.screen = .pubkey_review → IsAddress device history s.address

/-- What a handler keeps of the address keeps the invariant. -/
theorem ShowsAddress.of_holds {history : List (List UInt8)} {s t : AppState}
    (hs : ShowsAddress device history s)
    (h : Holds s.address (IsAddress device history s.address) t) :
    ShowsAddress device history t where
  size := (congrArg (fun a => a.2.length) h.1).trans hs.size
  shown hscreen := by
    rw [h.1]
    exact h.2 hscreen

/-- The invariant looks at what was asked for so far, so it holds of a longer history. -/
theorem ShowsAddress.append {history : List (List UInt8)} {s : AppState}
    (h : ShowsAddress device history s) (apdus : List (List UInt8)) :
    ShowsAddress device (history ++ apdus) s where
  size := h.size
  shown hscreen := (h.shown hscreen).append apdus

/-- A handler leaves the text and the key alone, or writes both. -/
theorem ShowsAddress.dispatch {history : List (List UInt8)} {s : AppState}
    (hs : ShowsAddress device history s)
    (hasks : s.G_command.instruction = some .InsGetPubkey →
      Requested history s.G_command.non_confirm s.G_command.derivation_path) :
    ShowsAddress device history ((dispatch_command device).run.run s).2 := by
  by_cases hins : s.G_command.instruction = some .InsGetPubkey
  · rw [dispatch_command, get_bind, hins]
    dsimp only
    by_cases hstate : s.G_command.state = .ApduStatePayloadComplete
    · have haddress : IsAddress device history (s.with_key device).address :=
        with_key_is_address (hasks hins)
      have hsize : (s.with_key device).G_publicKeyStr.length = BASE58_PUBKEY_LENGTH :=
        with_key_size hs.size
      rw [handle_get_pubkey_run hs.size hins hstate]
      split
      · exact ⟨hsize, fun _ => haddress⟩
      · exact ⟨hsize, fun _ => haddress⟩
    · rw [handle_get_pubkey_refuses (Or.inr hstate)]
      exact hs
  · exact hs.of_holds (holds_dispatch_command hins ⟨rfl, hs.shown⟩)

/-- The status word that ends a round keeps the invariant. -/
theorem ShowsAddress.end_round {history : List (List UInt8)}
    {r : Except Exception Unit × AppState} (h : ShowsAddress device history r.2) :
    ShowsAddress device history (end_round r) := by
  rcases r with ⟨(reply | _) | u, t⟩ <;> exact ⟨h.size, h.shown⟩

/-- So does the end of a round. -/
theorem ShowsAddress.finish {history : List (List UInt8)}
    {r : Except Exception Unit × AppState} (h : ShowsAddress device history r.2) :
    ShowsAddress device history (finish r) := by
  rcases r with ⟨(reply | _) | u, t⟩ <;> exact ⟨h.size, h.shown⟩

/-- Approving leaves the address. -/
theorem holds_approve : Preserves (Holds a asked) approve := by
  refine preserves_bind preserves_get fun s _ _ _ => ?_
  split
  · exact preserves_pure _
  · exact preserves_bind (preserves_bind preserves_get fun _ _ _ _ => preserves_pure _)
      fun _ _ _ _ => holds_sendResponse _ _ _
  · exact preserves_bind (preserves_bind preserves_get fun _ _ _ _ => preserves_pure _)
      fun _ _ _ _ => holds_sendResponse _ _ _

/-- Rejecting leaves the address. -/
theorem holds_reject : Preserves (Holds a asked) reject := by
  refine preserves_bind preserves_get fun s _ _ _ => ?_
  split
  · exact preserves_pure _
  · exact holds_sendResponse _ _ _

/-- The step lemma: every input keeps the invariant, with its APDU in the history. -/
theorem ShowsAddress.step {history : List (List UInt8)} {s t : AppState} {i : Input}
    (hs : ShowsAddress device history s) (h : step device s i = some t) :
    ShowsAddress device (history ++ handled [i]) t := by
  cases i with
  | approve =>
    obtain ⟨-, rfl⟩ := step_eq_some.mp h
    exact ((hs.of_holds (holds_approve s ⟨rfl, hs.shown⟩)).append _).finish
  | reject =>
    obtain ⟨-, rfl⟩ := step_eq_some.mp h
    exact ((hs.of_holds (holds_reject s ⟨rfl, hs.shown⟩)).append _).finish
  | apdu m =>
    by_cases hm : m = []
    · subst hm
      obtain rfl := step_no_apdu h
      refine ShowsAddress.append ?_ _
      exact hs.of_holds ⟨rfl, hs.shown⟩
    · obtain rfl := step_apdu hm h
      rw [handled_apdu hm]
      have hround : ShowsAddress device (history ++ [m])
          (s.begin_round.with_command (command_after m s.G_command)) := by
        refine ShowsAddress.append ?_ _
        exact hs.of_holds ⟨rfl, hs.shown⟩
      refine ShowsAddress.end_round ?_
      rcases handleApdu_cases device m s.begin_round with ⟨reply, hrun⟩ | hrun
      · rw [hrun]
        exact hround
      · rw [hrun]
        exact hround.dispatch (requested_path history)

/-- The run lemma: the invariant holds in every state an app reaches, whoever has
started it. -/
theorem run_shows_address {settings : AppSettings} {G_called_from_swap : Bool}
    {G_swap_validated : SwapValidated} {inputs : List Input} {s : AppState}
    (hrun : Run (step device) (app_main_start settings G_called_from_swap G_swap_validated)
      inputs s) : ShowsAddress device (handled inputs) s := by
  refine hrun.history_invariant (P := fun inputs s => ShowsAddress device (handled inputs) s)
    ⟨List.length_replicate, fun h => ?_⟩ ?_
  · cases h
  · intro inputs s i t hs h
    rw [handled_append]
    exact hs.step h

/-- **The key that is approved is the one on the screen**, whatever else the host has sent under
the review: the button sends the key whose address the text is at that moment, which is no other
key's address, and an APDU has asked for it. -/
theorem approved_key_is_shown {settings : AppSettings} {G_called_from_swap : Bool}
    {G_swap_validated : SwapValidated} {inputs : List Input} {s t : AppState}
    (hrun : Run (step device) (app_main_start settings G_called_from_swap G_swap_validated)
      inputs s)
    (hscreen : s.screen = .pubkey_review) (happrove : step device s .approve = some t) :
    t.log = s.log ++ [.response (.bytes s.G_publicKey.data) .ApduReplySuccess] ∧
      c_str s.G_publicKeyStr = base58 s.G_publicKey.data ∧
      (∀ other : Pubkey, base58 other.data = c_str s.G_publicKeyStr → other = s.G_publicKey) ∧
      ∃ non_confirm path, Requested (handled inputs) non_confirm path ∧
        s.G_publicKey = device.get_public_key path := by
  obtain ⟨htext, non_confirm, path, hpath, hkey⟩ := (run_shows_address hrun).shown hscreen
  obtain ⟨-, rfl⟩ := step_eq_some.mp happrove
  refine ⟨?_, htext, fun other hother => ?_, non_confirm, path, hpath, hkey⟩
  · rw [finish_log, run_input, approve_log, hscreen]
  · exact Pubkey.ext (base58_injective (hother.trans htext))

/-- A device that fills a key with the last byte of its path. -/
def counting_device : Device where
  get_public_key path := Pubkey.fill (path.getLastD 0).toUInt8
  cx_hash_sha256 _ := Hash.fill 0
  byte_after_message _ _ := 0

/-- A path of two indices, the second being the account's. -/
def account_path (account : UInt32) : DerivationPath where
  words := [0x8000002c, account]
  length_pos := Nat.succ_pos 1
  length_le := Nat.le_add_left 2 3

/-- The second key is asked for under the review of the first one, and it is shown and sent. -/
theorem second_key_is_shown : ∃ s t,
    Run (step counting_device) (coin_main user_settings)
      [.apdu (chunk_apdu .InsGetPubkey P1_CONFIRM 0 (account_path 5).encode),
        .apdu (chunk_apdu .InsGetPubkey P1_NON_CONFIRM 0 (account_path 6).encode)] s ∧
    step counting_device s .approve = some t ∧
    t.log = s.log ++ [.response (.bytes (Pubkey.fill 6).data) .ApduReplySuccess] ∧
    c_str s.G_publicKeyStr = base58 (Pubkey.fill 6).data := by
  have hany : ∃ s, GuardedRun (step counting_device) (fun _ _ => True) (coin_main user_settings)
      [.apdu (chunk_apdu .InsGetPubkey P1_CONFIRM 0 (account_path 5).encode),
        .apdu (chunk_apdu .InsGetPubkey P1_NON_CONFIRM 0 (account_path 6).encode)] s ∧
      s.screen = .pubkey_review ∧ s.G_publicKey = Pubkey.fill 6 ∧ s.stopped = false :=
    GuardedRun.any (by decide +kernel)
  obtain ⟨s, hrun, hscreen, hkey, hrunning⟩ := hany
  obtain ⟨t, hstep⟩ : ∃ t, step counting_device s .approve = some t :=
    ⟨_, step_eq_some.mpr ⟨hrunning, rfl⟩⟩
  obtain ⟨hlog, htext, -⟩ := approved_key_is_shown hrun.toRun hscreen hstep
  rw [hkey] at hlog htext
  exact ⟨s, t, hrun.toRun, hstep, hlog, htext⟩

end RenecLedger
