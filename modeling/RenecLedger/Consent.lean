/-
What the user has seen of what is signed.

A session is the app with its menus: the settings may change whenever no review is open. When the
host takes turns, a signature covers a message whose summary was under review when the button was
pressed (`signed_is_shown`). The summary is that of the very message: what its instructions say,
or, when the setting was on at that moment, the hash that is signed blindly; or the message is an
off-chain one.
-/
import RenecLedger.Settings

set_option autoImplicit false

open MachineLib ProgramLib

namespace RenecLedger

variable {device : Device}

/-! ## What a summary shows -/

/-- The summary of a transaction: the items of its instructions as they are printed for
the signer, or those of a message that is not recognised, and the fee payer. The
settings are those at the time when it was put up. -/
structure ShowsTransaction (device : Device) (settings : AppSettings) (path : List UInt32)
    (message : List UInt8) (summary : TransactionSummary) (message_body : Parser)
    (print_config : PrintConfig) (fee_payer : PubkeyRef) : Prop where
  parsed : parse_message_header ⟨0, message⟩ = some (print_config.header, message_body)
  signer : print_config.signer_pubkey.key = device.get_public_key path
  expert_mode : print_config.expert_mode = settings.display_mode_expert
  fee_payer_key : ∀ key, print_config.header.pubkeys.keys.head? = some key → fee_payer.key = key
  items : ∀ item, item ∈ summary.items ↔
    ∃ w ∈ summary_writes message_body print_config (device.cx_hash_sha256 message) fee_payer,
      w.item = item
  allowed : (process_message_body message_body print_config).result = none →
    settings.allow_blind_sign = true

/-- The summary of an off-chain message: the items of its header. It is shown as text, or by its
hash. -/
structure ShowsOffchain (device : Device) (settings : AppSettings) (path : List UInt32)
    (message : List UInt8) (summary : TransactionSummary) (header : OffchainMessageHeader) :
    Prop where
  parsed : ∃ body, parse_offchain_message_header ⟨0, message⟩ = some (header, body)
  well_formed : IsOffchainMessage settings.allow_blind_sign message
  items : ∀ item, item ∈ summary.items ↔
    (print_offchain_message header (is_data_ascii (message.drop OFFCHAIN_MESSAGE_HEADER_LENGTH))
      settings.display_mode_expert (device.cx_hash_sha256 message)
      (device.get_public_key path)).sets (· = item)

/-- The summary shows what is signed with the key of the path. -/
def Shows (device : Device) (settings : AppSettings) (signed : List UInt32 × List UInt8)
    (summary : TransactionSummary) : Prop :=
  (∃ message_body print_config fee_payer, ShowsTransaction device settings signed.1 signed.2 summary
    message_body print_config fee_payer) ∨
  ∃ header, ShowsOffchain device settings signed.1 signed.2 summary header

/-! ## A transaction -/

/-- A message is summarized without its instructions only if that is allowed. -/
theorem summarize_message_allowed {parser : Parser} {print_config : PrintConfig} {s u : AppState}
    (h : (summarize_message device parser print_config).run.run s = (.ok (), u))
    (hresult : (process_message_body parser print_config).result = none) :
    s.settings.allow_blind_sign = true := by
  rw [summarize_message, bind_eq_ok] at h
  obtain ⟨processed, s₁, hprocess, h⟩ := h
  obtain ⟨summary, hexec, rfl⟩ := run_printer_eq_ok.mp hprocess
  rw [SummaryM.exec, hresult] at hexec
  obtain ⟨_, -, hprocessed⟩ := Option.map_eq_some_iff.mp hexec
  cases hprocessed
  change (blind_sign device).run.run _ = _ at h
  rw [blind_sign, get_bind, THROW_IF, throw_if_bind_eq_ok] at h
  obtain ⟨hallowed, -⟩ := h
  rw [Bool.not_eq_true', Bool.not_eq_false] at hallowed
  exact hallowed

theorem sign_message_shows {s t : AppState} (hcalled : s.G_called_from_swap = false)
    (hrun : (handle_sign_message device).run.run s = (.ok (), t)) :
    Shows device s.settings s.G_command.to_sign t.G_transaction_summary := by
  rw [handle_sign_message, bind_eq_ok] at hrun
  obtain ⟨⟨header, signer_index⟩, u, hparse, hui⟩ := hrun
  have hkeeps := keeps_handle_sign_message_parse_message device s
  rw [hparse] at hkeeps
  have hsame : u.G_called_from_swap = s.G_called_from_swap :=
    congrArg AppCore.G_called_from_swap hkeeps
  -- The review is opened on the summary that parsing has left.
  have hsummary : t.G_transaction_summary = u.G_transaction_summary := by
    rw [handle_sign_message_ui, get_bind] at hui
    split at hui
    · cases hui
    · rw [hsame, hcalled] at hui
      cases hui
      rfl
  obtain ⟨parser, hparses⟩ := parse_message_completes hparse
  have hwrites : transaction_summary_reset.write_all
      (sign_writes device s header parser signer_index) = some u.G_transaction_summary := by
    rcases parse_message_ends device s with
      ⟨reply, v, hthrow⟩ | ⟨_, parser', _, v, hrun, hparsed, hset⟩
    · rw [hparse] at hthrow
      cases hthrow
    · rw [hparse] at hrun
      cases hrun
      rw [hparses.parsed] at hparsed
      cases hparsed
      exact hset
  refine Or.inl ⟨parser, sign_print_config device s header signer_index,
    pubkey_at device s header.pubkeys 0, hparses.parsed, ?_, rfl, fun key hkey => ?_,
    fun item => ?_, fun hresult => ?_⟩
  · exact (scan_header_for_signer_found hparses.signer_found).2
  · change header.pubkeys.keys.head? = some key at hkey
    rw [List.head?_eq_getElem?] at hkey
    obtain ⟨hlt, hhead⟩ := List.getElem?_eq_some_iff.mp hkey
    rw [(pubkey_at_eq (parse_message_header_lies hparses.parsed) hlt).1,
      PubkeyTable.at_index_key hlt]
    exact hhead
  · rw [hsummary, write_all_items hwrites]
    exact or_iff_right (mem_items_reset item)
  · obtain ⟨v, hsummarize, -⟩ := hparses.summarized
    exact summarize_message_allowed (s := s.with_reset_summary) hsummarize hresult

/-! ## An off-chain message -/

/-- What the checks say of the text is what it is. -/
theorem check_offchain_message_ascii {s : AppState} {header : OffchainMessageHeader}
    {is_ascii : Bool} (h : check_offchain_message s header = .ok is_ascii) :
    is_ascii = is_data_ascii (s.G_command.payload.drop OFFCHAIN_MESSAGE_HEADER_LENGTH) := by
  unfold check_offchain_message at h
  split at h
  · cases h
  rename_i hheader
  rw [not_or, not_or, not_or, not_not, not_not] at hheader
  obtain ⟨-, -, -, hlength⟩ := hheader
  have hdata : (s.G_command.message.drop OFFCHAIN_MESSAGE_HEADER_LENGTH).take
      header.length.toNat = s.G_command.payload.drop OFFCHAIN_MESSAGE_HEADER_LENGTH := by
    rw [ApduCommand.payload, List.drop_take]
    congr 1
    omega
  dsimp only at h
  rw [hdata] at h
  split_ifs at h
  all_goals
    cases h
    rfl

/-- The hash is printed when it has been computed. -/
theorem print_offchain_message_hash (header : OffchainMessageHeader) {is_ascii expert_mode : Bool}
    {message_hash : Hash} (computed : Hash) (signer : Pubkey)
    (h : (!is_ascii || expert_mode) = true → message_hash = computed) :
    print_offchain_message header is_ascii expert_mode message_hash signer =
      print_offchain_message header is_ascii expert_mode computed signer := by
  by_cases hcomputed : (!is_ascii || expert_mode) = true
  · rw [h hcomputed]
  · rw [Bool.not_eq_true, Bool.or_eq_false_iff, Bool.not_eq_false'] at hcomputed
    obtain ⟨rfl, rfl⟩ := hcomputed
    rfl

/-- The review of an off-chain message is opened on its summary. -/
theorem sign_offchain_message_prints {s t : AppState}
    (hrun : (handle_sign_offchain_message device).run.run s = (.ok (), t)) :
    ∃ header,
      ChecksOffchain s header
        (is_data_ascii (s.G_command.payload.drop OFFCHAIN_MESSAGE_HEADER_LENGTH)) ∧
      (print_offchain_message header
        (is_data_ascii (s.G_command.payload.drop OFFCHAIN_MESSAGE_HEADER_LENGTH))
        s.settings.display_mode_expert (device.cx_hash_sha256 s.G_command.payload)
        (device.get_public_key s.G_command.derivation_path)).exec transaction_summary_reset =
          some (some (), t.G_transaction_summary) := by
  unfold handle_sign_offchain_message at hrun
  rw [get_bind, THROW_IF, throw_if_bind_eq_ok] at hrun
  obtain ⟨hcommand, hrun⟩ := hrun
  rw [THROW_IF, throw_if_bind_eq_ok] at hrun
  obtain ⟨hconfirm, hrun⟩ := hrun
  rw [of_except_bind_eq_ok] at hrun
  obtain ⟨header, hparsed, hrun⟩ := hrun
  rw [of_except_bind_eq_ok] at hrun
  obtain ⟨is_ascii, hchecked, hrun⟩ := hrun
  have hchecks : ChecksOffchain s header is_ascii := by
    rw [not_or, not_not, not_not] at hcommand
    exact ⟨hcommand.1, hcommand.2, Bool.eq_false_iff.mpr hconfirm, hparsed, hchecked⟩
  have hascii := check_offchain_message_ascii hchecked
  rw [bind_of_ok (run_if_modify _ _ _), reset_summary, modify_bind, bind_eq_ok] at hrun
  obtain ⟨message_hash, u, hhash, hrun⟩ := hrun
  rw [bind_eq_ok] at hrun
  obtain ⟨r, v, hprint, hrun⟩ := hrun
  obtain ⟨summary, hexec, rfl⟩ := run_printer_eq_ok.mp hprint
  cases hhash
  obtain ⟨summary', kinds, hexec', hfinal⟩ := print_offchain_message_exec header is_ascii
    s.settings.display_mode_expert _ (device.get_public_key s.G_command.derivation_path)
  have hsame := hexec.symm.trans hexec'
  cases hsame
  rw [get_bind] at hrun
  dsimp only at hrun
  rw [hfinal] at hrun
  cases hrun
  rw [print_offchain_message_hash header (device.cx_hash_sha256 s.G_command.payload) _
    fun hcomputed => by rw [if_pos hcomputed]] at hexec'
  rw [hascii] at hchecks hexec'
  exact ⟨header, hchecks, hexec'⟩

/-- The header that is printed is that of the message. -/
theorem ChecksOffchain.parses {s : AppState} {header : OffchainMessageHeader} {is_ascii : Bool}
    (h : ChecksOffchain s header is_ascii) :
    ∃ body, parse_offchain_message_header ⟨0, s.G_command.payload⟩ = some (header, body) := by
  have hparsed := h.parsed
  rw [parse_command_offchain_header] at hparsed
  split at hparsed
  · rename_i header' body hparse
    cases hparsed
    exact ⟨body, hparse⟩
  · cases hparsed

theorem sign_offchain_message_shows {s t : AppState}
    (hrun : (handle_sign_offchain_message device).run.run s = (.ok (), t)) :
    Shows device s.settings s.G_command.to_sign t.G_transaction_summary := by
  obtain ⟨header, hchecks, hexec⟩ := sign_offchain_message_prints hrun
  have hreviewable := checks_offchain_iff.mp ⟨header, _, hchecks⟩
  refine Or.inr ⟨header, hchecks.parses, hreviewable.message, fun item => ?_⟩
  constructor
  · intro hitem
    exact (SummaryM.exec_items hexec (· = item)).mp ⟨item, hitem, rfl⟩
  · intro hsets
    obtain ⟨_, hitem, rfl⟩ := (SummaryM.exec_items hexec (· = item)).mpr hsets
    exact hitem

/-! ## A step that opens a review -/

theorem dispatch_shows {s t : AppState} (hcalled : s.G_called_from_swap = false)
    (hsize : s.G_publicKeyStr.length = BASE58_PUBKEY_LENGTH)
    (hrun : (dispatch_command device).run.run s = (.ok (), t)) (hreview : t.screen = .sign_review) :
    Shows device s.settings s.G_command.to_sign t.G_transaction_summary := by
  rw [dispatch_command, get_bind] at hrun
  split at hrun
  · cases hrun
  · rename_i hins
    exfalso
    by_cases hstate : s.G_command.state = .ApduStatePayloadComplete
    · rw [handle_get_pubkey_run hsize hins hstate] at hrun
      split at hrun
      · cases hrun
      · cases hrun
        cases hreview
    · rw [handle_get_pubkey_refuses (Or.inr hstate)] at hrun
      cases hrun
  · exact sign_message_shows hcalled hrun
  · exact sign_offchain_message_shows hrun
  · cases hrun

/-- An APDU that opens a review on an idle screen opens it on the summary of its message. -/
theorem apdu_shows {settings : AppSettings} {history : List (List UInt8)} {s t : AppState}
    {m : List UInt8} (h : Dashboard device settings history s) (hidle : s.screen = .idle)
    (hstep : step device s (.apdu m) = some t) (hreview : t.screen = .sign_review) :
    Shows device s.settings t.G_command.to_sign t.G_transaction_summary := by
  have hnot : ¬s.screen = .sign_review := by
    rw [hidle]
    exact nofun
  by_cases hm : m = []
  · subst hm
    obtain rfl := step_no_apdu hstep
    exact absurd hreview hnot
  · obtain rfl := step_apdu hm hstep
    rcases handleApdu_cases device m s.begin_round with ⟨reply, hrun⟩ | hrun
    · rw [hrun] at hreview
      exact absurd hreview hnot
    · rw [hrun] at hreview ⊢
      set s₁ := s.begin_round.with_command (command_after m s.begin_round.G_command) with hs₁
      have hanswers := answers_dispatch_command device s₁
      have hreplies : Ensures (dispatch_command device) s₁
          (Replies device s.settings (history ++ [m])) :=
        dispatch_replies h.called h.address.size (requested_path history) rfl h.running
      have hcommand := context_to_sign (keeps_dispatch_command device s₁)
      rcases hdispatch : (dispatch_command device).run.run s₁ with ⟨(reply | _) | u, t⟩
      · rw [hdispatch] at hreview
        exact absurd (((hanswers.apply hdispatch).1).symm.trans hreview) hnot
      · exact (hreplies.apply hdispatch).elim
      · rw [hdispatch] at hreview hcommand
        have hshows := dispatch_shows (s := s₁) h.called h.address.size hdispatch hreview
        rw [← hcommand] at hshows
        exact hshows

/-- What a step adds to what was signed. -/
theorem Outcome.signatures {history : List (List UInt8)} {s t : AppState} {i : Input}
    (h : Outcome device history s t i) :
    signatures t.log = signatures s.log ∨
      i = .approve ∧ s.screen = .sign_review ∧
        signatures t.log = signatures s.log ++ [s.G_command.to_sign] := by
  cases h with
  | answered hplain hscreen hlog =>
    obtain ⟨data, rfl⟩ := hplain.bytes
    exact Or.inl (hlog ▸ signatures_bytes _ _ _)
  | key_shown hscreen hlog => exact Or.inl (congrArg _ hlog)
  | message_shown hscreen hlog => exact Or.inl (hlog ▸ signatures_review _ _ _)
  | approved hopen hscreen hlog =>
    rw [hlog, AppState.to_approve]
    cases hs : s.screen with
    | idle => exact absurd hs hopen
    | sign_review => exact Or.inr ⟨rfl, rfl, signatures_append _ _⟩
    | pubkey_review => exact Or.inl (signatures_bytes _ _ _)
  | rejected hopen hscreen hlog => exact Or.inl (hlog ▸ signatures_bytes _ _ _)
  | ignored hbutton hidle hscreen hlog => exact Or.inl (congrArg _ hlog)

/-! ## A session -/

/-- The app with its menus. Both read the same storage, so a setting that the user
changes holds from the next message on. -/
structure Session where
  app : AppState
  menu : MenuState

inductive SessionInput
  | input (i : Input)
  | menu (i : MenuInput)

/-- The menus can be used when no review is on the screen, and `ui_idle` begins them
anew after one. What they store is what the handlers read, without a restart of the app. -/
def session_step (device : Device) (s : Session) : SessionInput → Option Session
  | .input i => do
    let app ← step device s.app i
    if s.app.screen = .idle ∧ app.screen = .idle then return { s with app }
    else return { app, menu := { s.menu with menu := .ux_idle_flow, page := 0 } }
  | .menu i =>
    if s.app.stopped = false ∧ s.app.screen = .idle then do
      let menu ← menu_step s.menu i
      return { app := { s.app with settings := menu.N_storage.app_settings }, menu }
    else none

/-- The app is started on what is stored. -/
def session_start (target : Target) (N_storage : InternalStorage) : Session where
  app := coin_main (nv_app_state_init target N_storage).app_settings
  menu := menu_start target N_storage

/-- The host takes turns; the user may do what the menus allow. -/
def SessionTurns (s : Session) : SessionInput → Prop
  | .input i => TakesTurns s.app i
  | .menu _ => True

instance (s : Session) : ∀ i, Decidable (SessionTurns s i)
  | .input i => inferInstanceAs (Decidable (TakesTurns s.app i))
  | .menu _ => inferInstanceAs (Decidable True)

/-- What holds in every state of a session: the settings are those that are stored, and
a review is of what the command holds. The second part is where the turns of the host
are used. -/
structure SessionInvariant (device : Device) (s : Session) : Prop where
  dashboard : ∃ history, Dashboard device s.menu.N_storage.app_settings history s.app
  shows : s.app.screen = .sign_review →
    Shows device s.menu.N_storage.app_settings s.app.G_command.to_sign
      s.app.G_transaction_summary

/-- One input of the session: of the app, or of the menus on an idle screen. -/
theorem session_step_cases {s t : Session} {i : SessionInput}
    (h : session_step device s i = some t) :
    (∃ j, i = .input j ∧ step device s.app j = some t.app ∧
      t.menu.N_storage = s.menu.N_storage) ∨
    (∃ j, i = .menu j ∧ s.app.screen = .idle ∧ menu_step s.menu j = some t.menu ∧
      t.app = { s.app with settings := t.menu.N_storage.app_settings }) := by
  cases i with
  | input j =>
    left
    rw [session_step, Option.bind_eq_bind, Option.bind_eq_some_iff] at h
    obtain ⟨app, happ, h⟩ := h
    refine ⟨j, rfl, ?_⟩
    split at h
    · cases h
      exact ⟨happ, rfl⟩
    · cases h
      exact ⟨happ, rfl⟩
  | menu j =>
    right
    rw [session_step, Option.ite_none_right_eq_some] at h
    obtain ⟨⟨-, hidle⟩, h⟩ := h
    rw [Option.bind_eq_bind, Option.bind_eq_some_iff] at h
    obtain ⟨menu, hmenu, h⟩ := h
    cases h
    exact ⟨j, rfl, hidle, hmenu, rfl⟩

theorem SessionInvariant.step {s t : Session} {i : SessionInput}
    (hs : SessionInvariant device s) (hturn : SessionTurns s i)
    (h : session_step device s i = some t) : SessionInvariant device t := by
  obtain ⟨history, hdashboard⟩ := hs.dashboard
  rcases session_step_cases h with ⟨j, rfl, hstep, hstored⟩ | ⟨j, rfl, hidle, -, happ⟩
  · obtain ⟨houtcome, hnext⟩ := hdashboard.step hstep
    refine ⟨⟨_, hstored.symm ▸ hnext⟩, fun hreview => ?_⟩
    rw [hstored]
    cases houtcome with
    | answered hplain hscreen hlog =>
      have hidle : s.app.screen = .idle := hturn
      rw [hscreen, hidle] at hreview
      cases hreview
    | key_shown hscreen hlog =>
      rw [hscreen] at hreview
      cases hreview
    | message_shown hscreen hlog =>
      rw [← hdashboard.settings_eq]
      exact apdu_shows hdashboard hturn hstep hscreen
    | approved hopen hscreen hlog =>
      rw [hscreen] at hreview
      cases hreview
    | rejected hopen hscreen hlog =>
      rw [hscreen] at hreview
      cases hreview
    | ignored hbutton hidle hscreen hlog =>
      rw [hscreen] at hreview
      cases hreview
  · refine ⟨⟨history, ?_⟩, fun hreview => ?_⟩
    · rw [happ]
      exact ⟨⟨hdashboard.address.size, hdashboard.address.shown⟩, hdashboard.running,
        hdashboard.called, rfl⟩
    · rw [happ] at hreview
      exact absurd (hidle.symm.trans hreview) nofun

/-- The user has pressed the approve button, with a summary on the screen that shows
what was signed. The settings that decide about its items are those stored at that
moment. -/
def Consented (device : Device) (start : Session) (inputs : List SessionInput)
    (signed : List UInt32 × List UInt8) : Prop :=
  ∃ before after s, inputs = before ++ .input .approve :: after ∧
    GuardedRun (session_step device) SessionTurns start before s ∧
    s.app.screen = .sign_review ∧ s.app.G_command.to_sign = signed ∧
    Shows device s.menu.N_storage.app_settings signed s.app.G_transaction_summary

theorem Consented.append {start : Session} {inputs : List SessionInput}
    {signed : List UInt32 × List UInt8} (h : Consented device start inputs signed)
    (i : SessionInput) : Consented device start (inputs ++ [i]) signed := by
  obtain ⟨before, after, s, rfl, hrun, hreview⟩ := h
  exact ⟨before, after ++ [i], s, by rw [List.append_assoc, List.cons_append], hrun, hreview⟩

theorem run_consented {target : Target} {N_storage : InternalStorage}
    {inputs : List SessionInput} {s : Session} (hrun : GuardedRun (session_step device)
      SessionTurns (session_start target N_storage) inputs s) :
    SessionInvariant device s ∧ ∀ signed ∈ signatures s.app.log,
      Consented device (session_start target N_storage) inputs signed := by
  induction hrun with
  | start =>
    exact ⟨⟨⟨[], dashboard_start device _⟩, nofun⟩, fun _ h => absurd h List.not_mem_nil⟩
  | @snoc inputs s i t hrun hturn h ih =>
    obtain ⟨hs, hconsented⟩ := ih
    refine ⟨hs.step hturn h, fun signed hsigned => ?_⟩
    have hold : signed ∈ signatures s.app.log →
        Consented device (session_start target N_storage) (inputs ++ [i]) signed :=
      fun h => (hconsented signed h).append i
    rcases session_step_cases h with ⟨j, rfl, hstep, -⟩ | ⟨j, rfl, -, -, happ⟩
    · obtain ⟨history, hdashboard⟩ := hs.dashboard
      rcases (hdashboard.step hstep).1.signatures with hsame | ⟨rfl, hscreen, hnew⟩
      · exact hold (hsame ▸ hsigned)
      · rw [hnew, List.mem_append, List.mem_singleton] at hsigned
        rcases hsigned with hsigned | rfl
        · exact hold hsigned
        · exact ⟨inputs, [], s, rfl, hrun, hscreen, rfl, hs.shows hscreen⟩
    · rw [happ] at hsigned
      exact hold hsigned

/-- **What is signed was shown**: in a session in which the host takes turns, whatever the user
does in the menus, each signature was approved under a review of that very message: of all that
its instructions say, or of its hash if the stored setting allowed that at that moment, or of an
off-chain message. -/
theorem signed_is_shown {target : Target} {N_storage : InternalStorage}
    {inputs : List SessionInput} {s : Session} (hrun : GuardedRun (session_step device)
      SessionTurns (session_start target N_storage) inputs s)
    {signed : List UInt32 × List UInt8} (hsigned : signed ∈ signatures s.app.log) :
    Consented device (session_start target N_storage) inputs signed :=
  (run_consented hrun).2 signed hsigned

/-- An instruction that is not recognised. -/
def strange_message : List UInt8 :=
  { transfer_message 1 [Pubkey.fill 9, Pubkey.fill 2, system_program_id] with
    instructions := [⟨2, [0, 1], [99, 0, 0, 0]⟩] : MessageValue }.encode

/-- The user enables blind signing in the lists, and approves a message by its hash. -/
theorem blind_message_is_shown : ∃ s,
    GuardedRun (session_step nines_device) SessionTurns
      (session_start .TARGET_NANOS fresh_storage)
      [.menu .settings, .menu (.select 0), .menu (.select 1),
        .input (sign_apdu strange_message false), .input .approve] s ∧
    signatures s.app.log = [(coin_path.words, strange_message)] ∧
    Consented nines_device (session_start .TARGET_NANOS fresh_storage)
      [.menu .settings, .menu (.select 0), .menu (.select 1),
        .input (sign_apdu strange_message false), .input .approve]
      (coin_path.words, strange_message) := by
  have hany : ∃ s, GuardedRun (session_step nines_device) SessionTurns
      (session_start .TARGET_NANOS fresh_storage)
      [.menu .settings, .menu (.select 0), .menu (.select 1),
        .input (sign_apdu strange_message false), .input .approve] s ∧
      signatures s.app.log = [(coin_path.words, strange_message)] :=
    GuardedRun.any (by decide +kernel)
  obtain ⟨s, hrun, hsigned⟩ := hany
  exact ⟨s, hrun, hsigned, signed_is_shown hrun (hsigned ▸ List.mem_singleton_self _)⟩

/-! ## A transfer -/

/-- The transfer that a message comes down to, without its memos and a leading nonce
instruction. It is a function of the bytes, whatever is on the screen. -/
def message_transfer (message : List UInt8) : Option SystemTransferInfo := do
  let (header, message_body) ← parse_message_header ⟨0, message⟩
  let infos ← (parse_message_body header).run' message_body
  match strip_nonce (display_instruction_info infos) with
  | [.ProgramIdSystem (.SystemTransfer transfer)] => some transfer
  | _ => none

theorem message_transfer_eq_some {message : List UInt8} {transfer : SystemTransferInfo}
    (h : message_transfer message = some transfer) : ∃ header message_body infos,
      parse_message_header ⟨0, message⟩ = some (header, message_body) ∧
      (parse_message_body header).run' message_body = some infos ∧
      strip_nonce (display_instruction_info infos) =
        [.ProgramIdSystem (.SystemTransfer transfer)] := by
  rw [message_transfer, Option.bind_eq_bind, Option.bind_eq_some_iff] at h
  obtain ⟨⟨header, message_body⟩, hparse, h⟩ := h
  rw [Option.bind_eq_bind, Option.bind_eq_some_iff] at h
  obtain ⟨infos, hinfos, h⟩ := h
  refine ⟨header, message_body, infos, hparse, hinfos, ?_⟩
  split at h
  · rename_i hstrip
    cases h
    exact hstrip
  · cases h

/-- An off-chain message is no transaction. -/
theorem IsOffchainMessage.no_transfer {allow_blind_sign : Bool} {message : List UInt8}
    (h : IsOffchainMessage allow_blind_sign message) : message_transfer message = none := by
  obtain ⟨format, lower, upper, body, hmessage, -, -, hmax, -⟩ := h
  rw [message_transfer, hmessage, domain_refused]
  · rfl
  · have hdomain : OFFCHAIN_MESSAGE_SIGNING_DOMAIN.length = 15 := rfl
    have hoffchain : MAX_OFFCHAIN_MESSAGE_LENGTH = 1212 := rfl
    have hsize : MAX_MESSAGE_LENGTH = 1280 := rfl
    rw [List.length_append]
    simp only [List.length_cons]
    omega

end RenecLedger
