/-
What is approved, and what has been reviewed.

While a review is on the screen, any APDU may be received: it rewrites the command, and the
review stays unless the handler puts up one of its own. So what the approve button signs is what
was reviewed as long as every APDU that comes under a review opens another review itself, or says
the same again (`RespectsReview`). Both are read off the APDU and the command it finds: the
APDUs that complete a command which is `Signable`, or one for a key, open a review of their own
(`requests_review_keeps`), and the first chunk of a command that repeats the path and the message
leaves them under review (`repeats_keeps`). A run of such steps signs only what was reviewed
(`approved_is_reviewed`).
-/
import RenecLedger.Requests

set_option autoImplicit false

open MachineLib ProgramLib

namespace RenecLedger

/-! ## The APDUs that leave a review alone -/

/-- An APDU for this instruction and with this data, whatever else its P1 and P2 say. -/
def IsApdu (m : List UInt8) (instruction : InstructionCode) (non_confirm extend more : Bool)
    (data : List UInt8) : Prop :=
  ∃ p1 p2, m = chunk_apdu instruction p1 p2 data ∧ data.length ≤ 255 ∧
    decide (p1 = P1_NON_CONFIRM) = non_confirm ∧ decide (p2 &&& P2_EXTEND ≠ 0) = extend ∧
    decide (p2 &&& P2_MORE ≠ 0) = more

/-- The APDU is all of the command, or goes on with the one in progress, and nothing is to
follow. -/
def CompletesCommand (command : ApduCommand) (m : List UInt8) (a : Assembly) : Prop :=
  IsApdu m a.instruction a.non_confirm false false (1 :: (a.path.encode ++ a.payload)) ∨
    ∃ (b : Assembly) (data : List UInt8)
      (h : b.payload.length + data.length ≤ MAX_MESSAGE_LENGTH),
      command = b.command .ApduStatePayloadInProgress ∧ a = b.extend data h ∧ data ≠ [] ∧
      IsApdu m b.instruction b.non_confirm true false data

/-- The APDU asks for the review of a message, and the message is one that is reviewed. -/
def RequestsReview (device : Device) (s : AppState) (m : List UInt8) : Prop :=
  ∃ a, CompletesCommand s.G_command m a ∧ a.non_confirm = false ∧
    Signable device s.settings a.instruction a.path.words a.payload

/-- The APDU asks for the review of a key. With `P2_EXTEND` it has no path, and any data will
do. -/
def RequestsKeyReview (m : List UInt8) : Prop :=
  ∃ extend data, IsApdu m .InsGetPubkey false extend false data ∧
    (extend = false → ∃ (path : DerivationPath) (rest : List UInt8), data = path.encode ++ rest)

/-- The APDU is the first chunk of a command with this path and this message. A command for a key
does not say how many paths there are. -/
def Repeats (m : List UInt8) (path : List UInt32) (message : List UInt8) : Prop :=
  ∃ (instruction : InstructionCode) (non_confirm more : Bool) (p : DerivationPath),
    instruction ≠ .InsGetAppConfiguration ∧ path = p.words ∧
    IsApdu m instruction non_confirm false more
      (if instruction = .InsGetPubkey then p.encode ++ message else 1 :: (p.encode ++ message))

/-- While a review to sign is on the screen, an APDU requests a review of its own, of a message or
of a key, or it repeats what is under review. -/
def RespectsReview (device : Device) (s : AppState) : Input → Prop
  | .apdu m => m ≠ [] → s.screen = .sign_review →
      RequestsReview device s m ∨ RequestsKeyReview m ∨
        ∃ path message, last_review s.log = some (path, message) ∧ Repeats m path message
  | _ => True

/-! ## Receiving them -/

/-- What one APDU carries, or a part of it, is never more than a whole message. -/
theorem le_max_of_le_data {n : ℕ} (h : n ≤ 255) : n ≤ MAX_MESSAGE_LENGTH :=
  Nat.le_trans h (by decide)

/-- What the header of such an APDU says. -/
theorem IsApdu.header {m data : List UInt8} {instruction : InstructionCode}
    {non_confirm extend more : Bool} (h : IsApdu m instruction non_confirm extend more data) :
    ∃ header, parse_apdu_header m = .ok header ∧ header.instruction = instruction ∧
      header.non_confirm = non_confirm ∧ header.first_data_chunk = !extend ∧
      header.more = more ∧ header.data = (if data = [] then none else some data) := by
  obtain ⟨p1, p2, rfl, hle, hconfirm, hextend, hmore⟩ := h
  refine ⟨_, parse_apdu_header_chunk instruction p1 p2 hle, rfl, hconfirm, ?_, hmore, rfl⟩
  rw [← hextend, ApduHeader.first_data_chunk]
  by_cases hzero : p2 &&& P2_EXTEND = 0
  · simp [hzero]
  · simp [hzero]

/-- An APDU is handled as its header. -/
theorem handle_parsed_apdu {m : List UInt8} {header : ApduHeader} {command command' : ApduCommand}
    (hparse : parse_apdu_header m = .ok header)
    (h : (handle_apdu_header header).run.run command = (.ok (), command')) :
    (apdu_handle_message m).run.run command = (.ok (), command') := by
  rw [apdu_handle_message, of_except_bind_eq_ok]
  exact ⟨header, hparse, h⟩

/-- A chunk after which nothing is to follow. -/
theorem state_after_last {header : ApduHeader} (hmore : header.more = false) :
    header.state_after = .ApduStatePayloadComplete := by
  rw [ApduHeader.state_after, hmore]
  rfl

theorem CompletesCommand.handled {command : ApduCommand} {m : List UInt8} {a : Assembly}
    (hsigns : a.instruction.signs) (h : CompletesCommand command m a) :
    (apdu_handle_message m).run.run command =
      (.ok (), a.command .ApduStatePayloadComplete) := by
  rcases h with h | ⟨b, data, hle, rfl, rfl, hne, h⟩
  · obtain ⟨header, hparse, hins, hconfirm, hfirst, hmore, hdata⟩ := h.header
    rw [if_neg (List.cons_ne_nil _ _)] at hdata
    refine handle_parsed_apdu hparse ?_
    rw [handle_first_chunk (hins ▸ hsigns) hfirst, ← state_after_last hmore]
    exact ⟨a, ⟨hfirst, hins, hconfirm, hdata⟩, rfl⟩
  · obtain ⟨header, hparse, hins, hconfirm, hfirst, hmore, hdata⟩ := h.header
    rw [if_neg hne] at hdata
    refine handle_parsed_apdu hparse ?_
    rw [handle_extension (hins ▸ hsigns) hfirst hins hconfirm, ← state_after_last hmore]
    exact ⟨_, ⟨hfirst, hins, hconfirm, data, hle, hdata, rfl⟩, rfl⟩

/-- A first chunk for a key is read like one for a message, but for the number of paths. -/
theorem handle_pubkey_chunk {header : ApduHeader} (hins : header.instruction = .InsGetPubkey)
    (hfirst : header.first_data_chunk = true) {path : DerivationPath} {payload : List UInt8}
    (hmax : payload.length ≤ MAX_MESSAGE_LENGTH)
    (hdata : header.data = some (path.encode ++ payload)) (command : ApduCommand) :
    (handle_apdu_header header).run.run command =
      (.ok (), (⟨header.instruction, header.non_confirm, path, payload, hmax⟩ :
        Assembly).command header.state_after) := by
  have hread : (read_first_chunk header).run.run ApduCommand.cleared =
      (.ok (some payload), { ApduCommand.cleared with
        num_derivation_paths := 1
        derivation_path := path.words }) := by
    have hwords : read_derivation_path (some (path.encode ++ payload)) = .ok path.words :=
      read_derivation_path_iff.mpr ⟨path, payload, rfl, rfl⟩
    have hnum : (read_num_derivation_paths header).run.run ApduCommand.cleared =
        (.ok (some (path.encode ++ payload)),
          { ApduCommand.cleared with num_derivation_paths := 1 }) := by
      rw [read_num_derivation_paths, if_neg (not_not.mpr hins), hdata]
      rfl
    rw [read_first_chunk, bind_of_ok hnum, bind_of_ok (of_except_eq_ok.mpr ⟨hwords, rfl⟩),
      modify_bind, run_pure, Option.map_some, ← path.encode_length, List.drop_left]
  have hle : (Assembly.empty header.instruction header.non_confirm path).payload.length +
      payload.length ≤ MAX_MESSAGE_LENGTH := by
    rw [Assembly.empty, List.length_nil, Nat.zero_add]
    exact hmax
  have hconfig : header.instruction ≠ .InsGetAppConfiguration := by
    rw [hins]
    decide
  rw [handle_apdu_header, if_neg hconfig, begin_chunk, if_pos (Or.inl hins), set_bind,
    if_pos hfirst, bind_of_ok hread, add_data_run (Assembly.empty_command header path), dif_pos hle]
  exact congrArg (fun a : Assembly => (Except.ok (), a.command header.state_after))
    (Assembly.ext rfl rfl rfl rfl)

/-- With `P2_EXTEND` the path is not read at all. -/
theorem handle_pubkey_extension {header : ApduHeader} (hins : header.instruction = .InsGetPubkey)
    (hext : header.first_data_chunk = false) (hmore : header.more = false)
    (hmax : (header.data.getD []).length ≤ MAX_MESSAGE_LENGTH) (command : ApduCommand) :
    ∃ command', (handle_apdu_header header).run.run command = (.ok (), command') ∧
      command'.instruction = some .InsGetPubkey ∧
      command'.state = .ApduStatePayloadComplete ∧
      command'.non_confirm = header.non_confirm := by
  have hconfig : header.instruction ≠ .InsGetAppConfiguration := by
    rw [hins]
    decide
  have hread : ¬header.first_data_chunk = true := by
    rw [hext]
    exact Bool.false_ne_true
  let started : ApduCommand :=
    { ApduCommand.cleared with
      state := .ApduStatePayloadInProgress
      instruction := some header.instruction
      non_confirm := header.non_confirm }
  have hcopy : ∃ copied, (copy_data header header.data).run.run started = (.ok (), copied) ∧
      copied.instruction = some header.instruction ∧
      copied.non_confirm = header.non_confirm := by
    cases hdata : header.data with
    | none =>
      exact ⟨started, throw_if_neg (not_not.mpr hins) _ _, rfl, rfl⟩
    | some data =>
      rw [hdata, Option.getD_some] at hmax
      have hle : started.message_length + data.length ≤ MAX_MESSAGE_LENGTH := by
        change 0 + data.length ≤ _
        rwa [Nat.zero_add]
      refine ⟨started.append data hle, ?_, rfl, rfl⟩
      rw [copy_data, get_bind, dif_pos hle, run_set]
  obtain ⟨copied, hcopied, hinstruction, hconfirm⟩ := hcopy
  refine ⟨{ copied with state := .ApduStatePayloadComplete }, ?_, ?_, rfl, hconfirm⟩
  · rw [handle_apdu_header, if_neg hconfig, begin_chunk, if_pos (Or.inl hins), set_bind,
      if_neg hread, bind_of_ok (run_pure _ _), modify_bind, bind_of_ok hcopied, hmore]
    rfl
  · rw [← hins]
    exact hinstruction

/-- An APDU for the review of a key gets to its handler. -/
theorem RequestsKeyReview.handled {m : List UInt8} (h : RequestsKeyReview m)
    (command : ApduCommand) : ∃ command',
      (apdu_handle_message m).run.run command = (.ok (), command') ∧
      command'.instruction = some .InsGetPubkey ∧
      command'.state = .ApduStatePayloadComplete ∧ command'.non_confirm = false := by
  obtain ⟨extend, data, happ, hpath⟩ := h
  obtain ⟨header, hparse, hins, hconfirm, hfirst, hmore, hdata⟩ := happ.header
  obtain ⟨p1, p2, -, hlength, -⟩ := happ
  cases extend with
  | false =>
    obtain ⟨path, rest, rfl⟩ := hpath rfl
    have hne : path.encode ++ rest ≠ [] := List.cons_ne_nil _ _
    rw [if_neg hne] at hdata
    rw [List.length_append] at hlength
    have hrun := handle_pubkey_chunk hins hfirst (le_max_of_le_data (by omega)) hdata command
    exact ⟨_, handle_parsed_apdu hparse hrun, congrArg some hins, state_after_last hmore, hconfirm⟩
  | true =>
    have hmax : (header.data.getD []).length ≤ MAX_MESSAGE_LENGTH := by
      rw [hdata]
      split
      · exact Nat.zero_le _
      · exact le_max_of_le_data hlength
    obtain ⟨command', hrun, hinstruction, hstate, hsame⟩ :=
      handle_pubkey_extension hins hfirst hmore hmax command
    exact ⟨command', handle_parsed_apdu hparse hrun, hinstruction, hstate, hsame.trans hconfirm⟩

/-- A command that repeats the path and the message holds them. -/
theorem Repeats.to_sign {m : List UInt8} {path : List UInt32} {message : List UInt8}
    (h : Repeats m path message) (command : ApduCommand) :
    (command_after m command).to_sign = (path, message) := by
  obtain ⟨instruction, non_confirm, more, p, hconfig, rfl, happ⟩ := h
  obtain ⟨header, hparse, hins, hconfirm, hfirst, hmore, hdata⟩ := happ.header
  obtain ⟨p1, p2, -, hlength, -⟩ := happ
  have hmax : message.length ≤ MAX_MESSAGE_LENGTH := by
    refine le_max_of_le_data ?_
    split at hlength
    · rw [List.length_append] at hlength
      omega
    · rw [List.length_cons, List.length_append] at hlength
      omega
  let a : Assembly := ⟨header.instruction, header.non_confirm, p, message, hmax⟩
  have hrun : (handle_apdu_header header).run.run command =
      (.ok (), a.command header.state_after) := by
    by_cases hpubkey : instruction = .InsGetPubkey
    · have hne : p.encode ++ message ≠ [] := List.cons_ne_nil _ _
      rw [if_pos hpubkey, if_neg hne] at hdata
      exact handle_pubkey_chunk (hins.trans hpubkey) hfirst hmax hdata command
    · rw [if_neg hpubkey, if_neg (List.cons_ne_nil _ _)] at hdata
      have hsigns : header.instruction.signs := by
        rw [hins]
        cases instruction with
        | InsGetAppConfiguration => exact absurd rfl hconfig
        | InsGetPubkey => exact absurd rfl hpubkey
        | InsSignMessage => exact Or.inl rfl
        | InsSignOffchainMessage => exact Or.inr rfl
      exact (handle_first_chunk hsigns hfirst).mpr ⟨a, ⟨hfirst, rfl, rfl, hdata⟩, rfl⟩
  rw [command_after, handle_parsed_apdu hparse hrun, ApduCommand.to_sign, a.command_payload]
  rfl

/-! ## Handling them -/

/-- The round ends by throwing a reply. -/
def replies : Except Exception Unit → Bool
  | .error (.THROW _) => true
  | _ => false

variable {device : Device}

/-- A transaction that is to be reviewed gets no reply: its review is opened, or, in a swap, the
app is over. -/
theorem replies_handle_sign_message {s : AppState} (h : TransactionReviewable device s) :
    replies ((handle_sign_message device).run.run s).1 = false := by
  obtain ⟨result, t, hparse, hprimary⟩ := parse_message_of_reviewable h
  rw [handle_sign_message, bind_of_ok hparse, handle_sign_message_ui, get_bind,
    transaction_summary_finalize, if_neg (by rwa [Option.isNone_iff_eq_none])]
  dsimp only
  by_cases hcalled : t.G_called_from_swap = true
  · obtain ⟨u, hrun, -⟩ := respond_to_swap_run hcalled
      (t.G_transaction_summary.items.map SummaryItem.kind)
    rw [if_pos hcalled, hrun]
    rfl
  · rw [if_neg hcalled]
    rfl

/-- And neither does a command for a key in confirm mode: it opens the review of that key. -/
theorem replies_handle_get_pubkey {s : AppState}
    (hinstruction : s.G_command.instruction = some .InsGetPubkey)
    (hstate : s.G_command.state = .ApduStatePayloadComplete)
    (hconfirm : s.G_command.non_confirm = false) :
    replies ((handle_get_pubkey device).run.run s).1 = false := by
  have hcommand : ¬(s.G_command.instruction ≠ some .InsGetPubkey ∨
      s.G_command.state ≠ .ApduStatePayloadComplete) := by
    rw [not_or, not_not, not_not]
    exact ⟨hinstruction, hstate⟩
  rw [handle_get_pubkey, get_bind, THROW_IF, bind_of_ok (throw_if_neg hcommand _ _)]
  dsimp only
  cases encode_base58 (device.get_public_key s.G_command.derivation_path).data
    s.G_publicKeyStr BASE58_PUBKEY_LENGTH with
  | none => rfl
  | some result =>
    rw [or_stop_bind rfl, modify_bind, hconfirm]
    rfl

/-- An APDU that gets a command to its handler ends as the handler does. -/
theorem handleApdu_complete {s : AppState} {m : List UInt8} {command : ApduCommand}
    (h : (apdu_handle_message m).run.run s.G_command = (.ok (), command))
    (hstate : command.state = .ApduStatePayloadComplete) :
    (handleApdu device m).run.run s =
      (dispatch_command device).run.run (s.with_command command) := by
  have hcomplete : command.state ≠ .ApduStatePayloadInProgress := by
    rw [hstate]
    decide
  exact bind_of_ok (receive_apdu_complete h hcomplete)

/-- **An APDU that requests a review** gets no reply. -/
theorem requests_review_keeps {s : AppState} {m : List UInt8} (h : RequestsReview device s m) :
    replies ((handleApdu device m).run.run s).1 = false := by
  obtain ⟨a, hcompletes, hconfirm, hsignable⟩ := h
  have hsigns : a.instruction.signs := hsignable.imp And.left And.left
  rw [handleApdu_complete (hcompletes.handled hsigns) rfl, dispatch_command, get_bind]
  set t : AppState := s.with_command (a.command .ApduStatePayloadComplete) with ht
  have hpayload : t.G_command.payload = a.payload := a.command_payload _
  have hins : t.G_command.instruction = some a.instruction := rfl
  rw [hins]
  rcases hsignable with ⟨hsign, htransaction⟩ | ⟨hsign, hoffchain⟩
  · rw [hsign] at hins ⊢
    refine replies_handle_sign_message ⟨hins, rfl, hconfirm, ?_⟩
    rw [hpayload]
    exact htransaction
  · rw [hsign] at hins ⊢
    obtain ⟨header, is_ascii, hchecks⟩ := checks_offchain_iff.mpr
      (⟨hins, rfl, hconfirm, hpayload.symm ▸ hoffchain⟩ : OffchainReviewable t)
    obtain ⟨u, hrun, -⟩ := reviews_offchain device hchecks
    rw [hrun]
    rfl

/-- And neither does one that requests the review of a key. -/
theorem requests_key_review_keeps {m : List UInt8} (h : RequestsKeyReview m) (s : AppState) :
    replies ((handleApdu device m).run.run s).1 = false := by
  obtain ⟨command, hrun, hins, hstate, hconfirm⟩ := h.handled s.G_command
  rw [handleApdu_complete hrun hstate, dispatch_command, get_bind]
  have hins' : (s.with_command command).G_command.instruction = some .InsGetPubkey := hins
  rw [hins']
  exact replies_handle_get_pubkey hins' hstate hconfirm

/-- What such an APDU does: there is no reply under the review, or the command is as it was. -/
theorem RespectsReview.keeps {s : AppState} {m : List UInt8}
    (h : RespectsReview device s (.apdu m)) (hshows : s.Shows) (hm : m ≠ [])
    (hon : s.screen = .sign_review) :
    replies ((handleApdu device m).run.run s.begin_round).1 = false ∨
      (command_after m s.G_command).to_sign = s.G_command.to_sign := by
  rcases h hm hon with hrequests | hrequests | ⟨path, message, hreview, hrepeats⟩
  · exact Or.inl (requests_review_keeps (s := s.begin_round) hrequests)
  · exact Or.inl (requests_key_review_keeps hrequests _)
  · right
    rw [hshows hon, Option.some_inj] at hreview
    rw [hrepeats.to_sign, hreview]

/-! ## Along a run -/

/-- What a step preserves, unless the app is over. -/
theorem step_shows {s t : AppState} {i : Input} (hshows : s.Shows)
    (hrespects : RespectsReview device s i) (h : step device s i = some t) :
    t.stopped = true ∨ t.Shows := by
  cases i with
  | approve =>
    obtain ⟨-, rfl⟩ := step_eq_some.mp h
    exact Or.inr (finish_shows (approve_shows hshows))
  | reject =>
    obtain ⟨-, rfl⟩ := step_eq_some.mp h
    exact Or.inr (finish_shows (reject_shows hshows))
  | apdu m =>
    by_cases hm : m = []
    · subst hm
      obtain rfl := step_no_apdu h
      refine Or.inr fun hscreen => ?_
      rw [last_review_response]
      exact hshows hscreen
    · obtain rfl := step_apdu hm h
      have hanswers := answers_handleApdu device m s.begin_round
      rw [Ensures] at hanswers
      rcases hrun : (handleApdu device m).run.run s.begin_round with ⟨(reply | _) | u, t⟩
      · -- a reply was thrown: nothing has changed on the screen
        rw [hrun] at hanswers
        obtain ⟨⟨hscreen, hlog, -⟩, hcommand⟩ := hanswers
        refine Or.inr fun hreview => ?_
        have hon : s.screen = .sign_review := hscreen.symm.trans hreview
        change last_review (t.log ++ [.response t.tx reply]) = some t.G_command.to_sign
        rw [last_review_response, hlog, hcommand]
        rcases hrespects.keeps hshows hm hon with hreplies | hsame
        · rw [hrun] at hreplies
          cases hreplies
        · exact (hshows hon).trans (congrArg some hsame.symm)
      · exact Or.inl rfl
      · rw [hrun] at hanswers
        refine Or.inr fun hreview => ?_
        rcases hanswers.1 with ⟨hpubkey, -⟩ | ⟨-, hlog⟩
        · exact absurd (hpubkey.symm.trans hreview) (by decide)
        · change last_review t.log = some t.G_command.to_sign
          exact (congrArg last_review hlog).trans (last_review_review _ _ _)

/-- **In a run that respects the review on the screen**, the review is of what the command
holds. -/
theorem run_shows {s₀ s : AppState} {inputs : List Input} (hstart : s₀.screen = .idle)
    (hrun : GuardedRun (step device) (RespectsReview device) s₀ inputs s) :
    s.stopped = true ∨ s.Shows := by
  refine hrun.invariant (P := fun s => s.stopped = true ∨ s.Shows) ?_ ?_
  · exact Or.inr fun h => absurd (hstart.symm.trans h) (by decide)
  · rintro s i t (hstopped | hshows) hrespects h
    · obtain ⟨hrunning, -⟩ := step_eq_some.mp h
      rw [hstopped] at hrunning
      cases hrunning
    · exact step_shows hshows hrespects h

/-! ## What is approved -/

/-- **What is approved is what was reviewed**, in every run that respects the review on the
screen: a signature that the approve button sends covers the message, with the path, of
the last review. -/
theorem approved_is_reviewed {settings : AppSettings} {G_called_from_swap : Bool}
    {G_swap_validated : SwapValidated} {inputs : List Input} {s t : AppState}
    (hrun : GuardedRun (step device) (RespectsReview device)
      (app_main_start settings G_called_from_swap G_swap_validated) inputs s)
    (happrove : step device s .approve = some t) {derivation_path : List UInt32}
    {message : List UInt8} {sw : ApduReply}
    (hsigned : t.log = s.log ++ [.response (.signature derivation_path message) sw]) :
    last_review s.log = some (derivation_path, message) := by
  obtain ⟨hrunning, rfl⟩ := step_eq_some.mp happrove
  have hshows : s.Shows := by
    rcases run_shows rfl hrun with hstopped | hshows
    · rw [hstopped] at hrunning
      cases hrunning
    · exact hshows
  rw [finish_log, run_input, approve_log] at hsigned
  cases hscreen : s.screen with
  | idle =>
    simp [hscreen] at hsigned
  | pubkey_review =>
    simp [hscreen] at hsigned
  | sign_review =>
    simp only [hscreen, List.append_cancel_left_eq, List.cons.injEq, Event.response.injEq,
      ResponseData.signature.injEq, and_true] at hsigned
    rw [hshows hscreen, ApduCommand.to_sign, hsigned.1.1, hsigned.1.2]

/-- What the approve button signs after the inputs. -/
def approved (s : AppState) (message : List UInt8) : Bool :=
  (step nines_device s .approve).any fun t =>
    t.log = s.log ++ [.response (.signature coin_path.words message) .ApduReplySuccess]

/-- A transfer in one chunk requests its review, whatever the settings are. -/
theorem transfer_respects_review {recipient : Pubkey}
    (hlength : (1 :: (coin_path.encode ++ transfer_to recipient)).length ≤ 255)
    (htransaction : IsTransaction nines_device false coin_path.words (transfer_to recipient))
    (s : AppState) :
    RespectsReview nines_device s (sign_apdu (transfer_to recipient) false) := by
  intro _ _
  have hmax : (transfer_to recipient).length ≤ MAX_MESSAGE_LENGTH := by
    rw [List.length_cons, List.length_append] at hlength
    exact le_max_of_le_data (by omega)
  refine Or.inl ⟨⟨.InsSignMessage, false, coin_path, transfer_to recipient, hmax⟩,
    Or.inl ⟨P1_CONFIRM, chunk_p2 false false, rfl, hlength, rfl, rfl, rfl⟩, rfl,
    Or.inl ⟨rfl, ?_⟩⟩
  obtain ⟨header, message_body, hparsed, hkey, hrecognised⟩ := htransaction
  refine ⟨header, message_body, hparsed, hkey, Or.inl (hrecognised.resolve_right ?_)⟩
  exact Bool.false_ne_true

/-- Two messages are reviewed one after the other, and the second one is approved. -/
theorem second_transfer_is_reviewed : ∃ s,
    GuardedRun (step nines_device) (RespectsReview nines_device) (coin_main user_settings)
      [sign_apdu (transfer_to (Pubkey.fill 2)) false, sign_apdu (transfer_to (Pubkey.fill 3)) false]
      s ∧
    last_review s.log = some (coin_path.words, transfer_to (Pubkey.fill 3)) := by
  have hany : ∃ s, GuardedRun (step nines_device) (fun _ _ => True) (coin_main user_settings)
      [sign_apdu (transfer_to (Pubkey.fill 2)) false, sign_apdu (transfer_to (Pubkey.fill 3)) false]
      s ∧ approved s (transfer_to (Pubkey.fill 3)) = true := GuardedRun.any (by decide +kernel)
  obtain ⟨s, hrun, happroved⟩ := hany
  have hrespects : ∀ (s : AppState), ∀ i ∈ [sign_apdu (transfer_to (Pubkey.fill 2)) false,
      sign_apdu (transfer_to (Pubkey.fill 3)) false], RespectsReview nines_device s i := by
    intro s i hi
    rcases List.mem_pair.mp hi with rfl | rfl
    · exact transfer_respects_review (by decide +kernel)
        (is_transaction_any ⟨0, Pubkey.fill 0⟩ (by decide +kernel)) s
    · exact transfer_respects_review (by decide +kernel)
        (is_transaction_any ⟨0, Pubkey.fill 0⟩ (by decide +kernel)) s
  have hguarded := hrun.toRun.guarded hrespects
  obtain ⟨t, hstep, hlog⟩ := (Option.any_eq_true _ _).mp happroved
  exact ⟨s, hguarded, approved_is_reviewed hguarded hstep (of_decide_eq_true hlog)⟩

/-- The second message says that more follows: the first one is still under review, and
the second one is signed. -/
theorem other_transfer_is_signed : ∃ s t,
    Run (step nines_device) (coin_main user_settings)
      [sign_apdu (transfer_to (Pubkey.fill 2)) false, sign_apdu (transfer_to (Pubkey.fill 3)) true]
      s ∧
    step nines_device s .approve = some t ∧
    t.log = s.log ++ [.response (.signature coin_path.words (transfer_to (Pubkey.fill 3)))
      .ApduReplySuccess] ∧
    last_review s.log = some (coin_path.words, transfer_to (Pubkey.fill 2)) ∧
    transfer_to (Pubkey.fill 2) ≠ transfer_to (Pubkey.fill 3) := by
  have hany : ∃ s, GuardedRun (step nines_device) (fun _ _ => True) (coin_main user_settings)
      [sign_apdu (transfer_to (Pubkey.fill 2)) false, sign_apdu (transfer_to (Pubkey.fill 3)) true]
      s ∧ approved s (transfer_to (Pubkey.fill 3)) = true ∧
        last_review s.log = some (coin_path.words, transfer_to (Pubkey.fill 2)) ∧
        transfer_to (Pubkey.fill 2) ≠ transfer_to (Pubkey.fill 3) :=
    GuardedRun.any (by decide +kernel)
  obtain ⟨s, hrun, happroved, hreview, hne⟩ := hany
  obtain ⟨t, hstep, hlog⟩ := (Option.any_eq_true _ _).mp happroved
  exact ⟨s, t, hrun.toRun, hstep, of_decide_eq_true hlog, hreview, hne⟩

end RenecLedger
