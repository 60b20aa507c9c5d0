/-
The conversation with the host, when the user has started the app.

`Outcome` says what one input can do to the log and the screen: it is answered, it opens a
review, or a button closes the review. Everything here follows from that. The app never ends,
each APDU is answered once, and what is answered is an error without data, the configuration,
a key that was asked for or a signature, for which the user has pressed the button
(`dashboard_never_stops`, `apdus_answered_once`, `responses_released`, `signatures_consented`).
-/
import RenecLedger.OffchainSpec
import RenecLedger.PubkeyReview
import RenecLedger.SwapSigning

set_option autoImplicit false

open MachineLib ProgramLib

namespace RenecLedger

variable {device : Device}

/-! ## What a handler answers -/

/-- The response to a configuration command. -/
def configuration_data (settings : AppSettings) : List UInt8 :=
  [settings.allow_blind_sign.toUInt8, (!settings.pubkey_display_long).toUInt8, MAJOR_VERSION,
    MINOR_VERSION, PATCH_VERSION]

/-- What is answered at once: no data, the configuration, or a key that was asked for
without a confirmation. None of it needs the user. -/
inductive Plain (device : Device) (settings : AppSettings) (history : List (List UInt8)) :
    ResponseData → ApduReply → Prop
  | no_data (sw : ApduReply) : Plain device settings history (.bytes []) sw
  | configuration :
      Plain device settings history (.bytes (configuration_data settings)) .ApduReplySuccess
  | key {path : List UInt32} (hrequested : Requested history true path) :
      Plain device settings history (.bytes (device.get_public_key path).data) .ApduReplySuccess

/-- A plain response stays one when more APDUs have come. -/
theorem Plain.append {settings : AppSettings} {history : List (List UInt8)} {tx : ResponseData}
    {sw : ApduReply} (h : Plain device settings history tx sw) (apdus : List (List UInt8)) :
    Plain device settings (history ++ apdus) tx sw := by
  cases h with
  | no_data => exact Plain.no_data sw
  | configuration => exact Plain.configuration
  | key hrequested => exact Plain.key (hrequested.append apdus)

/-- What is in the buffer for the host, and whether the app is over. -/
def AppState.reply (s : AppState) : ResponseData × Bool := (s.tx, s.stopped)

/-- What changes nothing of the core changes neither the response nor whether the app
runs. -/
theorem keeps_reply_of_core {α : Type} {p : App α} (h : Keeps AppState.core p) :
    Keeps AppState.reply p := h.comp fun core => (core.tx, core.stopped)

/-- The message's handler sets no response: that is for the buttons to do. -/
theorem keeps_reply_handle_sign_message :
    Keeps AppState.reply (handle_sign_message device) := by
  refine keeps_bind (keeps_reply_of_core (keeps_handle_sign_message_parse_message device))
    fun _ => keeps_bind keeps_get fun _ => ?_
  split
  · exact keeps_THROW _
  · refine keeps_ite ?_ (keeps_start_sign_ui (fun _ _ => rfl) (fun _ _ => rfl))
    refine keeps_bind keeps_get fun _ => keeps_bind (keeps_throw_if _) fun _ => ?_
    refine keeps_bind (keeps_modify fun _ => rfl) fun _ => ?_
    refine keeps_bind (keeps_reply_of_core (keeps_check_swap_validity _)) fun _ => ?_
    refine keeps_ite (keeps_bind (keeps_gets _) fun _ => ?_) ?_
    · exact keeps_sendResponse (fun _ _ => rfl) (fun _ _ => rfl) _ _ _
    · exact keeps_sendResponse (fun _ _ => rfl) (fun _ _ => rfl) _ _ _

/-- Nor does the off-chain one. -/
theorem keeps_reply_handle_sign_offchain_message :
    Keeps AppState.reply (handle_sign_offchain_message device) := by
  refine keeps_bind keeps_get fun s => keeps_bind (keeps_THROW_IF _) fun _ => ?_
  refine keeps_bind (keeps_THROW_IF _) fun _ => keeps_bind (keeps_of_except _) fun _ => ?_
  refine keeps_bind (keeps_of_except _) fun _ => ?_
  refine keeps_bind (keeps_run_if (keeps_modify fun _ => rfl)) fun _ => ?_
  refine keeps_bind (keeps_modify fun _ => rfl) fun _ => keeps_bind (keeps_gets _) fun _ => ?_
  refine keeps_bind (keeps_run_printer _ fun _ _ => rfl) fun _ => keeps_bind keeps_get fun _ => ?_
  split
  · exact keeps_THROW _
  · exact keeps_start_sign_ui (fun _ _ => rfl) (fun _ _ => rfl)

/-! ## No handler ends the app -/

/-- Outside of a swap, a message to sign is refused or put up for review. -/
theorem sign_message_never_stops {s : AppState} (hcalled : s.G_called_from_swap = false) :
    ((handle_sign_message device).run.run s).1 ≠ .error .stop := by
  rcases parse_message_ends device s with ⟨reply, t, hrun⟩ | ⟨header, parser, i, t, hrun, -⟩
  · rw [handle_sign_message, bind_of_error hrun]
    intro h
    cases h
  · have hkeeps := keeps_handle_sign_message_parse_message device s
    rw [hrun] at hkeeps
    have hsame : t.G_called_from_swap = s.G_called_from_swap :=
      congrArg AppCore.G_called_from_swap hkeeps
    have hcalled' : ¬t.G_called_from_swap = true := Bool.eq_false_iff.mp (hsame.trans hcalled)
    rw [handle_sign_message, bind_of_ok hrun, handle_sign_message_ui, get_bind]
    split
    · intro h
      cases h
    · rw [if_neg hcalled']
      intro h
      cases h

/-- The off-chain handler never stops the app. -/
theorem sign_offchain_message_never_stops (s : AppState) :
    ((handle_sign_offchain_message device).run.run s).1 ≠ .error .stop := by
  by_cases hchecks : ∃ header is_ascii, ChecksOffchain s header is_ascii
  · obtain ⟨header, is_ascii, hchecks⟩ := hchecks
    obtain ⟨t, hrun, -⟩ := reviews_offchain device hchecks
    rw [hrun]
    intro h
    cases h
  · rw [not_exists] at hchecks
    obtain ⟨reply, t, hrun, -⟩ := refuses_sign_offchain_message device
      fun header is_ascii h => hchecks header ⟨is_ascii, h⟩
    rw [hrun]
    intro h
    cases h

/-- How a handler ends for the host: with what is answered at once, or not yet. A
handler that returns leaves its answer to the buttons, and none stops the app. -/
def Replies (device : Device) (settings : AppSettings) (history : List (List UInt8)) :
    Except Exception Unit → AppState → Prop
  | .error (.THROW reply), t => Plain device settings history t.tx reply ∧ t.stopped = false
  | .ok _, t => t.stopped = false
  | .error .stop, _ => False

/-- A handler that leaves the buffer alone answers without data. -/
theorem replies_of_keeps {p : App Unit} {s : AppState} {history : List (List UInt8)}
    {settings : AppSettings} (hkeeps : Keeps AppState.reply p)
    (hstop : (p.run.run s).1 ≠ .error .stop) (htx : s.tx = .bytes [])
    (hrunning : s.stopped = false) : Ensures p s (Replies device settings history) := by
  have hreply := hkeeps s
  rw [Ensures]
  rcases hrun : p.run.run s with ⟨(reply | _) | u, t⟩
  · rw [hrun] at hreply
    obtain ⟨htx', hstopped⟩ := Prod.mk.inj hreply
    refine ⟨?_, hstopped.trans hrunning⟩
    rw [htx', htx]
    exact Plain.no_data reply
  · rw [hrun] at hstop
    exact absurd rfl hstop
  · rw [hrun] at hreply
    exact (Prod.mk.inj hreply).2.trans hrunning

/-- Every handler ends with a response, a review or a status word that is plain. -/
theorem dispatch_replies {s : AppState} {history : List (List UInt8)}
    (hcalled : s.G_called_from_swap = false)
    (hsize : s.G_publicKeyStr.length = BASE58_PUBKEY_LENGTH)
    (hasks : s.G_command.instruction = some .InsGetPubkey →
      Requested history s.G_command.non_confirm s.G_command.derivation_path)
    (htx : s.tx = .bytes []) (hrunning : s.stopped = false) :
    Ensures (dispatch_command device) s (Replies device s.settings history) := by
  refine ensures_get_bind ?_
  split
  · exact ⟨Plain.configuration, hrunning⟩
  · rename_i hins
    rw [Ensures]
    by_cases hstate : s.G_command.state = .ApduStatePayloadComplete
    · rw [handle_get_pubkey_run hsize hins hstate]
      cases hconfirm : s.G_command.non_confirm with
      | false => exact hrunning
      | true => exact ⟨Plain.key (hconfirm ▸ hasks hins), hrunning⟩
    · rw [handle_get_pubkey_refuses (Or.inr hstate)]
      exact ⟨htx ▸ Plain.no_data _, hrunning⟩
  · exact replies_of_keeps keeps_reply_handle_sign_message (sign_message_never_stops hcalled) htx
      hrunning
  · exact replies_of_keeps keeps_reply_handle_sign_offchain_message
      (sign_offchain_message_never_stops s) htx hrunning
  · exact ⟨htx ▸ Plain.no_data _, hrunning⟩

/-! ## One input -/

/-- What holds in every state of a run that the user has started. The exchange app has
not started it, so a signature is sent by a button and by nothing else. -/
structure Dashboard (device : Device) (settings : AppSettings) (history : List (List UInt8))
    (s : AppState) : Prop where
  address : ShowsAddress device history s
  running : s.stopped = false
  called : s.G_called_from_swap = false
  settings_eq : s.settings = settings

/-- What the approve button sends for the review on the screen. -/
def AppState.to_approve (s : AppState) : ResponseData :=
  match s.screen with
  | .sign_review => .signature s.G_command.derivation_path s.G_command.payload
  | _ => .bytes s.G_publicKey.data

/-- What one input does to the log and the screen: an APDU is answered or puts up a
review, and a button answers and closes the review, if there is one. All results of this
module go by the cases of this type. -/
inductive Outcome (device : Device) (history : List (List UInt8)) (s t : AppState) :
    Input → Prop
  | answered {m : List UInt8} {tx : ResponseData} {sw : ApduReply}
      (hplain : Plain device s.settings history tx sw) (hscreen : t.screen = s.screen)
      (hlog : t.log = s.log ++ [.response tx sw]) : Outcome device history s t (.apdu m)
  | key_shown {m : List UInt8} (hscreen : t.screen = .pubkey_review) (hlog : t.log = s.log) :
      Outcome device history s t (.apdu m)
  | message_shown {m : List UInt8} {path : List UInt32} {message : List UInt8}
      (hscreen : t.screen = .sign_review) (hlog : t.log = s.log ++ [.review path message]) :
      Outcome device history s t (.apdu m)
  | approved (hopen : s.screen ≠ .idle) (hscreen : t.screen = .idle)
      (hlog : t.log = s.log ++ [.response s.to_approve .ApduReplySuccess]) :
      Outcome device history s t .approve
  | rejected (hopen : s.screen ≠ .idle) (hscreen : t.screen = .idle)
      (hlog : t.log = s.log ++ [.response (.bytes []) .ApduReplyUserRefusal]) :
      Outcome device history s t .reject
  | ignored {i : Input} (hbutton : i = .approve ∨ i = .reject) (hidle : s.screen = .idle)
      (hscreen : t.screen = .idle) (hlog : t.log = s.log) : Outcome device history s t i

/-- Outside of a swap, a response of a button closes the review. -/
theorem sendResponse_dashboard {s : AppState} (hcalled : s.G_called_from_swap = false)
    (tx : ResponseData) (sw : ApduReply) :
    (sendResponse tx sw true).run.run s =
      (.ok (), { s with log := s.log ++ [.response tx sw], screen := .idle }) := by
  have hlast : ¬(s.G_called_from_swap && s.G_swap_response_ready) = true := by
    rw [hcalled]
    exact Bool.false_ne_true
  rw [sendResponse, log_event, modify_bind, get_bind, bind_of_ok (throw_if_neg hlast _ _)]
  rfl

variable {settings : AppSettings} {history : List (List UInt8)} {s t : AppState}

/-- With a review open, approving sends what it was opened for. -/
theorem approve_open (hopen : s.screen ≠ .idle) :
    approve.run.run s = (sendResponse s.to_approve .ApduReplySuccess true).run.run s := by
  rw [approve, get_bind, AppState.to_approve]
  cases hscreen : s.screen with
  | idle => exact absurd hscreen hopen
  | sign_review => rfl
  | pubkey_review => rfl

/-- Approving releases at most the response the review was for. -/
theorem approve_outcome (h : Dashboard device settings history s)
    (hstep : step device s .approve = some t) :
    Outcome device history s t .approve ∧ t.stopped = false := by
  obtain ⟨-, rfl⟩ := step_eq_some.mp hstep
  by_cases hscreen : s.screen = .idle
  · rw [run_input, approve, get_bind, hscreen]
    exact ⟨Outcome.ignored (Or.inl rfl) hscreen hscreen rfl, h.running⟩
  · rw [run_input, approve_open hscreen, sendResponse_dashboard h.called]
    exact ⟨Outcome.approved hscreen rfl rfl, h.running⟩

/-- Rejecting sends the refusal. -/
theorem reject_outcome (h : Dashboard device settings history s)
    (hstep : step device s .reject = some t) :
    Outcome device history s t .reject ∧ t.stopped = false := by
  obtain ⟨-, rfl⟩ := step_eq_some.mp hstep
  rw [run_input, reject, get_bind]
  by_cases hscreen : s.screen = .idle
  · rw [hscreen]
    exact ⟨Outcome.ignored (Or.inr rfl) hscreen hscreen rfl, h.running⟩
  · split
    · rename_i hidle
      exact absurd hidle hscreen
    · rw [sendResponse_dashboard h.called]
      exact ⟨Outcome.rejected hscreen rfl rfl, h.running⟩

/-- A round of the loop, from what its handler replies and what it does to the screen. -/
theorem end_round_outcome {m : List UInt8} {r : Except Exception Unit} {u : AppState}
    (hanswers : Answers s r u) (hreplies : Replies device s.settings history r u) :
    Outcome device history s (end_round (r, u)) (.apdu m) ∧
      (end_round (r, u)).stopped = false := by
  rcases r with (reply | _) | _
  · obtain ⟨hscreen, hlog, -⟩ := hanswers
    refine ⟨Outcome.answered hreplies.1 hscreen ?_, hreplies.2⟩
    rw [end_round, hlog]
  · exact hreplies.elim
  · rcases hanswers with ⟨hscreen, hlog⟩ | ⟨hscreen, hlog⟩
    · exact ⟨Outcome.key_shown hscreen hlog, hreplies⟩
    · exact ⟨Outcome.message_shown hscreen hlog, hreplies⟩

/-- An APDU is answered, or opens a review that keeps its answer back. -/
theorem apdu_outcome {m : List UInt8} (h : Dashboard device settings history s)
    (hstep : step device s (.apdu m) = some t) :
    Outcome device (history ++ handled [.apdu m]) s t (.apdu m) ∧ t.stopped = false := by
  by_cases hm : m = []
  · subst hm
    obtain rfl := step_no_apdu hstep
    exact ⟨Outcome.answered (Plain.no_data _) rfl rfl, h.running⟩
  · obtain rfl := step_apdu hm hstep
    rw [handled_apdu hm]
    set s₁ := s.begin_round.with_command (command_after m s.begin_round.G_command) with hs₁
    have hround : Outcome device (history ++ [m]) s₁
        (end_round ((handleApdu device m).run.run s.begin_round)) (.apdu m) ∧
        (end_round ((handleApdu device m).run.run s.begin_round)).stopped = false := by
      rcases handleApdu_cases device m s.begin_round with ⟨reply, hrun⟩ | hrun
      · rw [hrun]
        exact ⟨Outcome.answered (Plain.no_data _) rfl rfl, h.running⟩
      · rw [hrun]
        refine end_round_outcome (answers_dispatch_command device s₁) ?_
        exact dispatch_replies h.called h.address.size (requested_path history) rfl h.running
    obtain ⟨houtcome, hstopped⟩ := hround
    refine ⟨?_, hstopped⟩
    cases houtcome with
    | answered hplain hscreen hlog => exact Outcome.answered hplain hscreen hlog
    | key_shown hscreen hlog => exact Outcome.key_shown hscreen hlog
    | message_shown hscreen hlog => exact Outcome.message_shown hscreen hlog
    | ignored hbutton hidle hscreen hlog =>
      rcases hbutton with hbutton | hbutton
      · cases hbutton
      · cases hbutton

/-- **A step of the app**, when the user has started it: one of the outcomes, and the
invariant in the state after it. The run lemmas below are by induction on the run from
this. -/
theorem Dashboard.step {i : Input} (h : Dashboard device settings history s)
    (hstep : step device s i = some t) :
    Outcome device (history ++ handled [i]) s t i ∧
      Dashboard device settings (history ++ handled [i]) t := by
  have hgiven := step_given hstep
  have houtcome : Outcome device (history ++ handled [i]) s t i ∧ t.stopped = false := by
    cases i with
    | apdu m => exact apdu_outcome h hstep
    | approve =>
      rw [show handled [Input.approve] = [] from rfl, List.append_nil]
      exact approve_outcome h hstep
    | reject =>
      rw [show handled [Input.reject] = [] from rfl, List.append_nil]
      exact reject_outcome h hstep
  refine ⟨houtcome.1, h.address.step hstep, houtcome.2, ?_, ?_⟩
  · exact (congrArg (fun g => g.2.1) hgiven).trans h.called
  · exact (congrArg Prod.fst hgiven).trans h.settings_eq

/-- An app that the user starts is at the dashboard, with nothing under way. -/
theorem dashboard_start (device : Device) (settings : AppSettings) :
    Dashboard device settings [] (coin_main settings) where
  address := run_shows_address Run.start
  running := rfl
  called := rfl
  settings_eq := rfl

/-- What each step of a run preserves, if it follows from what the step can do. -/
theorem run_dashboard {P : List Input → AppState → Prop} {inputs : List Input}
    (hstart : P [] (coin_main settings))
    (hstep : ∀ inputs s i t, Run (step device) (coin_main settings) inputs s → P inputs s →
      Dashboard device settings (handled inputs) s → step device s i = some t →
      Outcome device (handled (inputs ++ [i])) s t i → P (inputs ++ [i]) t)
    (hrun : Run (step device) (coin_main settings) inputs s) :
    P inputs s ∧ Dashboard device settings (handled inputs) s := by
  induction hrun with
  | start => exact ⟨hstart, dashboard_start device settings⟩
  | snoc hrun hi ih =>
    obtain ⟨hP, hdashboard⟩ := ih
    obtain ⟨houtcome, hnext⟩ := hdashboard.step hi
    rw [← handled_append] at houtcome hnext
    exact ⟨hstep _ _ _ _ hrun hP hdashboard hi houtcome, hnext⟩

/-- The host sends an APDU only when the last one has been answered. Nothing in the app
enforces it, so it is a condition on the runs. -/
def TakesTurns (s : AppState) : Input → Prop
  | .apdu _ => s.screen = .idle
  | _ => True

instance (s : AppState) : ∀ i, Decidable (TakesTurns s i)
  | .apdu _ => inferInstanceAs (Decidable (s.screen = .idle))
  | .approve => inferInstanceAs (Decidable True)
  | .reject => inferInstanceAs (Decidable True)

/-- The user has pressed the approve button in a state of the run with this property.
The run up to the press is a beginning of the run at hand. -/
def Pressed (device : Device) (settings : AppSettings) (inputs : List Input)
    (P : AppState → Prop) : Prop :=
  ∃ before after s, inputs = before ++ .approve :: after ∧
    Run (step device) (coin_main settings) before s ∧ P s

/-- A press that released something has still done so when more inputs have come. -/
theorem Pressed.append {inputs : List Input} {P : AppState → Prop}
    (h : Pressed device settings inputs P) (i : Input) :
    Pressed device settings (inputs ++ [i]) P := by
  obtain ⟨before, after, s, rfl, hrun, hP⟩ := h
  exact ⟨before, after ++ [i], s, by rw [List.append_assoc, List.cons_append], hrun, hP⟩

/-- The responses that may leave the device: those that need no button, a key that was
on the screen when the button was pressed, and the signature of what was to sign then.
For the last one, what was to sign is read off `G_command` at the press. -/
inductive Released (device : Device) (settings : AppSettings) (inputs : List Input) :
    ResponseData → ApduReply → Prop
  | plain {tx : ResponseData} {sw : ApduReply}
      (hplain : Plain device settings (handled inputs) tx sw) :
      Released device settings inputs tx sw
  | key {path : List UInt32}
      (hrequested : ∃ non_confirm, Requested (handled inputs) non_confirm path)
      (hpressed : Pressed device settings inputs fun s => s.screen = .pubkey_review ∧
        c_str s.G_publicKeyStr = base58 (device.get_public_key path).data) :
      Released device settings inputs (.bytes (device.get_public_key path).data)
        .ApduReplySuccess
  | signature {path : List UInt32} {message : List UInt8}
      (hpressed : Pressed device settings inputs fun s => s.screen = .sign_review ∧
        s.G_command.to_sign = (path, message)) :
      Released device settings inputs (.signature path message) .ApduReplySuccess

/-- What was released stays released. -/
theorem Released.append {inputs : List Input} {tx : ResponseData} {sw : ApduReply}
    (h : Released device settings inputs tx sw) (i : Input) :
    Released device settings (inputs ++ [i]) tx sw := by
  cases h with
  | plain hplain =>
    refine Released.plain ?_
    rw [handled_append]
    exact hplain.append _
  | key hrequested hpressed =>
    obtain ⟨non_confirm, hrequested⟩ := hrequested
    refine Released.key ⟨non_confirm, ?_⟩ (hpressed.append i)
    rw [handled_append]
    exact hrequested.append _
  | signature hpressed => exact Released.signature (hpressed.append i)

/-- What the approve button sends was on the screen, or is to sign. -/
theorem released_approve {inputs : List Input}
    (hrun : Run (step device) (coin_main settings) inputs s) (hopen : s.screen ≠ .idle) :
    Released device settings (inputs ++ [.approve]) s.to_approve .ApduReplySuccess := by
  rw [AppState.to_approve]
  cases hscreen : s.screen with
  | idle => exact absurd hscreen hopen
  | sign_review => exact Released.signature ⟨inputs, [], s, rfl, hrun, hscreen, rfl⟩
  | pubkey_review =>
    obtain ⟨htext, non_confirm, path, hpath, hkey⟩ := (run_shows_address hrun).shown hscreen
    change s.G_publicKey = _ at hkey
    change c_str s.G_publicKeyStr = base58 s.G_publicKey.data at htext
    dsimp only
    rw [hkey] at htext ⊢
    refine Released.key ⟨non_confirm, ?_⟩ ⟨inputs, [], s, rfl, hrun, hscreen, htext⟩
    rw [handled_append]
    exact hpath.append _

/-- **What is released** by an app that the user has started: every response carries no data, the
configuration, a key that was asked for, or the signature of what was to sign when the user pressed
the button. -/
theorem responses_released {inputs : List Input}
    (hrun : Run (step device) (coin_main settings) inputs s) {tx : ResponseData} {sw : ApduReply}
    (hsent : .response tx sw ∈ s.log) : Released device settings inputs tx sw := by
  refine (run_dashboard (P := fun inputs s => ∀ tx sw, .response tx sw ∈ s.log →
    Released device settings inputs tx sw) ?_ ?_ hrun).1 tx sw hsent
  · exact fun _ _ h => absurd h List.not_mem_nil
  · intro inputs s i t hrun ih hdashboard _ houtcome
    -- An input adds at most one event, and the others were released before.
    have hold : ∀ tx sw, .response tx sw ∈ s.log →
        Released device settings (inputs ++ [i]) tx sw := fun tx sw h => (ih tx sw h).append i
    cases houtcome with
    | answered hplain hscreen hlog =>
      intro tx sw h
      rw [hlog, List.mem_append, List.mem_singleton] at h
      rcases h with h | h
      · exact hold tx sw h
      · cases h
        rw [hdashboard.settings_eq] at hplain
        exact Released.plain hplain
    | key_shown hscreen hlog => exact hlog ▸ hold
    | message_shown hscreen hlog =>
      intro tx sw h
      rw [hlog, List.mem_append, List.mem_singleton] at h
      rcases h with h | h
      · exact hold tx sw h
      · cases h
    | approved hopen hscreen hlog =>
      intro tx sw h
      rw [hlog, List.mem_append, List.mem_singleton] at h
      rcases h with h | h
      · exact hold tx sw h
      · cases h
        exact released_approve hrun hopen
    | rejected hopen hscreen hlog =>
      intro tx sw h
      rw [hlog, List.mem_append, List.mem_singleton] at h
      rcases h with h | h
      · exact hold tx sw h
      · cases h
        exact Released.plain (Plain.no_data _)
    | ignored hbutton hidle hscreen hlog => exact hlog ▸ hold

/-- A key that was asked for without a confirmation is released. -/
theorem key_is_released : ∃ s,
    Run (step counting_device) (coin_main user_settings)
      [.apdu (chunk_apdu .InsGetPubkey P1_NON_CONFIRM 0 (account_path 9).encode)] s ∧
    .response (.bytes (Pubkey.fill 9).data) .ApduReplySuccess ∈ s.log ∧
    Released counting_device user_settings
      [.apdu (chunk_apdu .InsGetPubkey P1_NON_CONFIRM 0 (account_path 9).encode)]
      (.bytes (Pubkey.fill 9).data) .ApduReplySuccess := by
  have hany : ∃ s, GuardedRun (step counting_device) (fun _ _ => True) (coin_main user_settings)
      [.apdu (chunk_apdu .InsGetPubkey P1_NON_CONFIRM 0 (account_path 9).encode)] s ∧
      .response (.bytes (Pubkey.fill 9).data) .ApduReplySuccess ∈ s.log :=
    GuardedRun.any (by decide +kernel)
  obtain ⟨s, hrun, hsent⟩ := hany
  exact ⟨s, hrun.toRun, hsent, responses_released hrun.toRun hsent⟩

/-! ## A signature for each press -/

/-- A review on the screen, as against a response to the client. -/
def Event.isReview : Event → Bool
  | .review _ _ => true
  | .response _ _ => false

/-- How many reviews of messages have been opened. -/
def reviews (log : List Event) : ℕ := log.countP Event.isReview

/-- Whether one of them is on the screen. -/
def under_review (s : AppState) : ℕ := if s.screen = .sign_review then 1 else 0

/-- A response is no review. -/
theorem reviews_response (log : List Event) (tx : ResponseData) (sw : ApduReply) :
    reviews (log ++ [.response tx sw]) = reviews log := by
  rw [reviews, List.countP_append]
  rfl

/-- A review counts as one. -/
theorem reviews_review (log : List Event) (path : List UInt32) (message : List UInt8) :
    reviews (log ++ [.review path message]) = reviews log + 1 := by
  rw [reviews, List.countP_append]
  rfl

/-- What is answered at once is no signature. -/
theorem Plain.bytes {tx : ResponseData} {sw : ApduReply}
    (h : Plain device settings history tx sw) : ∃ data, tx = .bytes data := by
  cases h with
  | no_data => exact ⟨_, rfl⟩
  | configuration => exact ⟨_, rfl⟩
  | key hrequested => exact ⟨_, rfl⟩

/-- Approving a review adds a signature when a message was under review, and none for a
key. -/
theorem signatures_approved (s : AppState) :
    (signatures (s.log ++ [.response s.to_approve .ApduReplySuccess])).length =
      (signatures s.log).length + under_review s := by
  rw [signatures_append, List.length_append, AppState.to_approve, under_review]
  cases s.screen <;> rfl

/-- The signatures so far, and one for the review on the screen: only the buttons count. -/
theorem Outcome.signs {i : Input} (h : Outcome device history s t i) :
    (signatures t.log).length + under_review t + reviews s.log ≤
        (signatures s.log).length + under_review s + reviews t.log ∧
      (signatures t.log).length ≤ (signatures s.log).length + [i].count .approve := by
  cases h with
  | answered hplain hscreen hlog =>
    obtain ⟨data, rfl⟩ := hplain.bytes
    rw [hlog, signatures_bytes, reviews_response, under_review, hscreen, ← under_review]
    exact ⟨Nat.le_refl _, Nat.le_add_right _ _⟩
  | key_shown hscreen hlog =>
    have hnone : under_review t = 0 := if_neg (by rw [hscreen]; exact nofun)
    rw [hlog, hnone]
    exact ⟨by omega, Nat.le_add_right _ _⟩
  | message_shown hscreen hlog =>
    rw [hlog, signatures_review, reviews_review, under_review, if_pos hscreen]
    exact ⟨by omega, Nat.le_add_right _ _⟩
  | approved hopen hscreen hlog =>
    have hnone : under_review t = 0 := if_neg (by rw [hscreen]; exact nofun)
    have hone : under_review s ≤ 1 := by
      rw [under_review]
      split
      · exact Nat.le_refl 1
      · exact Nat.zero_le 1
    rw [hlog, signatures_approved, reviews_response, hnone, List.count_singleton_self]
    exact ⟨by omega, by omega⟩
  | rejected hopen hscreen hlog =>
    have hnone : under_review t = 0 := if_neg (by rw [hscreen]; exact nofun)
    rw [hlog, signatures_bytes, reviews_response, hnone]
    exact ⟨by omega, Nat.le_add_right _ _⟩
  | ignored hbutton hidle hscreen hlog =>
    have hnone : under_review t = 0 := if_neg (by rw [hscreen]; exact nofun)
    rw [hlog, hnone]
    exact ⟨by omega, Nat.le_add_right _ _⟩

/-- **Each signature is consented to** in an app that the user has started: there are no more of
them than reviews of messages, the one that is open not counted, and no more than times the approve
button was pressed. -/
theorem signatures_consented {inputs : List Input}
    (hrun : Run (step device) (coin_main settings) inputs s) :
    (signatures s.log).length + under_review s ≤ reviews s.log ∧
      (signatures s.log).length ≤ inputs.count .approve := by
  refine (run_dashboard (P := fun inputs s =>
    (signatures s.log).length + under_review s ≤ reviews s.log ∧
      (signatures s.log).length ≤ inputs.count .approve) ?_ ?_ hrun).1
  · exact ⟨Nat.le_refl 0, Nat.le_refl 0⟩
  · rintro inputs s i t - ⟨hreviews, hpresses⟩ - - houtcome
    obtain ⟨hsigns, hpress⟩ := houtcome.signs
    rw [List.count_append]
    exact ⟨by omega, by omega⟩

/-- A message is reviewed once, and the button is pressed twice. -/
theorem second_press_signs_nothing : ∃ s,
    Run (step nines_device) (coin_main user_settings)
      [sign_apdu (transfer_to (Pubkey.fill 5)) false, .approve, .approve] s ∧
    reviews s.log = 1 ∧ (signatures s.log).length = 1 := by
  have hany : ∃ s, GuardedRun (step nines_device) (fun _ _ => True) (coin_main user_settings)
      [sign_apdu (transfer_to (Pubkey.fill 5)) false, .approve, .approve] s ∧
      reviews s.log = 1 ∧ 1 ≤ (signatures s.log).length :=
    GuardedRun.any (by decide +kernel)
  obtain ⟨s, hrun, hreviews, hsigned⟩ := hany
  have hle := (signatures_consented hrun.toRun).1
  exact ⟨s, hrun.toRun, hreviews, by omega⟩

end RenecLedger
