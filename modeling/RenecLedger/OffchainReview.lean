/-
The steps of the review of an off-chain message, on both user interfaces:
`src/ui/sign_message_nbgl.c` and `src/ui/sign_message_bagl.c`.

A step of the BAGL flow points to its text, and the text of the message is paged. NBGL asks for
the steps by index and reads each one from a slot, which is as large as a summary text. What is
in `G_command` behind an accepted message ends it as a C string, so BAGL shows all of it; NBGL
shows what fits in a slot (`review_shows_text_iff`).
-/
import RenecLedger.CommandBounds

set_option autoImplicit false

open MachineLib ProgramLib

namespace RenecLedger

/-! ## The steps -/

/-- `dynamic_slot_t`, and the two texts of a step of the BAGL flow. -/
structure DynamicSlot where
  title : List UInt8
  text : List UInt8
deriving DecidableEq

/-- The globals of the NBGL review. There are `NB_MAX_DISPLAYED_PAIRS_IN_REVIEW` slots. -/
structure NbglReview where
  displayed_slots : List DynamicSlot
  transaction_steps_number : ℕ
  last_step_is_ascii : Bool
deriving DecidableEq

/-- Where the text of an off-chain message begins, in memory. -/
def AppState.offchain_text (s : AppState) : List UInt8 :=
  s.G_command.message.drop OFFCHAIN_MESSAGE_HEADER_LENGTH

/-- What `start_sign_offchain_message_ui` leaves in the globals of the review. -/
def NbglReview.start_sign_offchain_message_ui (review : NbglReview) (is_ascii : Bool)
    (num_summary_steps : ℕ) : NbglReview :=
  { review with
    transaction_steps_number :=
      if is_ascii then to_size (num_summary_steps + 1) else num_summary_steps
    last_step_is_ascii := is_ascii }

/-- The pair with an index, as its slot has it then. -/
def get_single_action_review_pair (index : UInt8) (review : NbglReview) :
    App (NbglReview × DynamicSlot) := do
  let s ← get
  let slot := index.toNat % review.displayed_slots.length
  let displayed ← or_stop review.displayed_slots[slot]?
  -- Final step is special for ASCII messages
  if index.toNat = to_size (review.transaction_steps_number - 1 : ℤ) ∧
      review.last_step_is_ascii then
    let title ← or_stop (strlcpy displayed.title (c_string "Message") TITLE_SIZE)
    let text ← or_stop (strlcpy displayed.text s.offchain_text TEXT_BUFFER_LENGTH)
    let displayed := { title, text }
    return ({ review with displayed_slots := review.displayed_slots.set slot displayed }, displayed)
  else
    let (rc, display) ← or_stop (transaction_summary_display_item s.G_transaction_summary
      index.toNat s.display_flags s.G_transaction_summary_display)
    modify fun s => { s with G_transaction_summary_display := display }
    THROW_IF (rc ≠ 0) .ApduReplyRenecSummaryUpdateFailed
    -- the slot has the sizes of the two display buffers
    let displayed := { title := display.title, text := display.text }
    return ({ review with displayed_slots := review.displayed_slots.set slot displayed }, displayed)

/-- BAGL: display dynamic transaction item screen. -/
def ux_summary_step (step_index : ℕ) : App DynamicSlot := do
  let s ← get
  let (rc, display) ← or_stop (transaction_summary_display_item s.G_transaction_summary
    step_index s.display_flags s.G_transaction_summary_display)
  modify fun s => { s with G_transaction_summary_display := display }
  THROW_IF (rc ≠ 0) .ApduReplyRenecSummaryUpdateFailed
  return { title := display.title, text := display.text }

/-- BAGL: display offchain message screen. -/
def ux_sign_msg_text_step (s : AppState) : DynamicSlot :=
  { title := c_string "Message", text := s.offchain_text }

/-! ## The text of an accepted message -/

/-- An APDU completes an off-chain message that the handler accepts as ASCII. -/
def AcceptsAscii (device : Device) (s : AppState) (m : List UInt8) (t : AppState) : Prop :=
  ∃ u header, (receive_apdu m).run.run s.begin_round = (.ok (), u) ∧
    ChecksOffchain u header true ∧
    (handle_sign_offchain_message device).run.run u = (.ok (), t)

/-- The body of the message: what follows its header. -/
def AppState.offchain_body (s : AppState) : List UInt8 :=
  s.G_command.payload.drop OFFCHAIN_MESSAGE_HEADER_LENGTH

/-- **The text in memory is the body**, and a terminator ends it there. -/
theorem offchain_text_eq {device : Device} {inputs : List Input} {s t : AppState}
    {m : List UInt8} (hreached : ReachedOnBuffers inputs s) (h : AcceptsAscii device s m t) :
    c_str t.offchain_text = t.offchain_body := by
  obtain ⟨u, header, hreceive, hchecks, hhandle⟩ := h
  obtain ⟨c, hc, -, rfl⟩ := receive_apdu_eq_ok.mp hreceive
  have hkeeps := keeps_handle_sign_offchain_message device { s.begin_round with G_command := c }
  rw [hhandle] at hkeeps
  have hsame : t.G_command.without_hash = c.without_hash :=
    congrArg AppContext.G_command hkeeps
  have hmessage : t.G_command.message = c.message :=
    congrArg (fun command => command.message) hsame
  have hlength : t.G_command.message_length = c.message_length :=
    congrArg (fun command => command.message_length) hsame
  obtain ⟨r, hr, hR⟩ := hreached
  obtain ⟨r', hr', hR'⟩ := reaches_next hr hR (Or.inr ⟨c, hc, hsame⟩)
  obtain ⟨hmax, htotal, hzero⟩ := check_offchain_message_text hchecks.checked
  have htext := (reaches_well_formed hr').text (n := header.length.toNat)
    (by rw [hR'.message_length, hlength]; exact congrArg Nat.cast htotal.symm) hmax
    (by rw [hR'.message, hmessage]; exact hzero)
  rw [hR'.message] at htext
  rw [AppState.offchain_text, AppState.offchain_body, htext, ApduCommand.payload, hlength,
    List.drop_take]
  congr 1
  exact (Nat.sub_eq_of_eq_add htotal.symm).symm

/-! ## What NBGL shows -/

/-- The slots are there, with the sizes they are declared with. -/
structure NbglReview.Sized (review : NbglReview) : Prop where
  slots : review.displayed_slots ≠ []
  title : ∀ slot ∈ review.displayed_slots, slot.title.length = TITLE_SIZE
  text : ∀ slot ∈ review.displayed_slots, slot.text.length = TEXT_BUFFER_LENGTH

section Pairs

variable {review : NbglReview} {index : UInt8} {t : AppState} {n : ℕ}

/-- There is a slot for every index. -/
theorem NbglReview.Sized.slot (h : review.Sized) (i : ℕ) :
    ∃ slot ∈ review.displayed_slots,
      review.displayed_slots[i % review.displayed_slots.length]? = some slot := by
  have hlt : i % review.displayed_slots.length < review.displayed_slots.length :=
    Nat.mod_lt i (List.length_pos_iff.mpr h.slots)
  exact ⟨_, List.getElem_mem hlt, List.getElem?_eq_getElem hlt⟩

theorem NbglReview.Sized.start (h : review.Sized) (is_ascii : Bool) (num_summary_steps : ℕ) :
    (review.start_sign_offchain_message_ui is_ascii num_summary_steps).Sized :=
  ⟨h.slots, h.title, h.text⟩

/-- The last step is the one with the number of the summary steps. -/
theorem last_index_iff (hn : n ≤ SIZE_MAX) (index : UInt8) :
    index.toNat = to_size ((review.start_sign_offchain_message_ui true n).transaction_steps_number
      - 1 : ℤ) ↔ index.toNat = n := by
  have hindex := index.toNat_lt
  have hmax : SIZE_MAX = 4294967295 := rfl
  rw [NbglReview.start_sign_offchain_message_ui]
  dsimp only
  rw [hmax] at hn
  rw [if_pos rfl, to_size, to_size, hmax]
  omega

/-- **The last pair** shows the text in memory, cut off at the size of its slot. -/
theorem review_pair_last (h : review.Sized) (hn : n ≤ SIZE_MAX) (hindex : index.toNat = n) :
    ∃ review' slot,
      (get_single_action_review_pair index (review.start_sign_offchain_message_ui true n)).run.run
        t = (.ok (review', slot), t) ∧
      c_str slot.title = c_string "Message" ∧
      c_str slot.text = (c_str t.offchain_text).take (TEXT_BUFFER_LENGTH - 1) := by
  obtain ⟨slot, hslot, hget⟩ := (h.start true n).slot index.toNat
  obtain ⟨title, htitle, hshown⟩ := strlcpy_text (c_string "Message")
    (by decide : 0 < TITLE_SIZE) (h.title slot hslot).ge
  obtain ⟨text, htext, htext'⟩ := strlcpy_text t.offchain_text
    (by decide : 0 < TEXT_BUFFER_LENGTH) (h.text slot hslot).ge
  refine ⟨{ review.start_sign_offchain_message_ui true n with
    displayed_slots := review.displayed_slots.set
      (index.toNat % review.displayed_slots.length) ⟨title, text⟩ }, ⟨title, text⟩, ?_, ?_, htext'⟩
  · rw [get_single_action_review_pair, get_bind]
    dsimp only
    rw [or_stop_bind hget, if_pos ⟨(last_index_iff hn index).mpr hindex, rfl⟩,
      or_stop_bind htitle, or_stop_bind htext]
    rfl
  · rw [hshown]
    decide

/-- What a step of the summary shows on BAGL: what is displayed under its index, if that can be
displayed. -/
theorem ux_summary_step_run {i rc : ℕ} {display : SummaryDisplay}
    (hdisplay : transaction_summary_display_item t.G_transaction_summary i t.display_flags
      t.G_transaction_summary_display = some (rc, display)) :
    (ux_summary_step i).run.run t =
      (if rc = 0 then .ok ⟨display.title, display.text⟩
        else .error (.THROW .ApduReplyRenecSummaryUpdateFailed),
        { t with G_transaction_summary_display := display }) := by
  rw [ux_summary_step, get_bind, or_stop_bind hdisplay]
  dsimp only
  rw [modify_bind, THROW_IF]
  by_cases hrc : rc = 0
  · rw [if_pos hrc, bind_of_ok (throw_if_neg (not_not.mpr hrc) _ _)]
    rfl
  · rw [if_neg hrc]
    exact bind_of_error (throw_if_pos hrc _ _)

/-- **The other pairs** are the steps of BAGL, kept in the slot of the index. -/
theorem review_pair_summary (h : review.Sized) (hn : n ≤ SIZE_MAX) (hindex : index.toNat ≠ n) :
    (get_single_action_review_pair index (review.start_sign_offchain_message_ui true n)).run.run t =
      (do
        let displayed ← ux_summary_step index.toNat
        return ({ review.start_sign_offchain_message_ui true n with
          displayed_slots := review.displayed_slots.set
            (index.toNat % review.displayed_slots.length) displayed }, displayed) :
        App (NbglReview × DynamicSlot)).run.run t := by
  obtain ⟨slot, hslot, hget⟩ := (h.start true n).slot index.toNat
  have hother : ¬(index.toNat = to_size
      ((review.start_sign_offchain_message_ui true n).transaction_steps_number - 1 : ℤ) ∧
      (review.start_sign_offchain_message_ui true n).last_step_is_ascii) := fun hlast =>
    hindex ((last_index_iff hn index).mp hlast.1)
  rw [get_single_action_review_pair, get_bind]
  dsimp only
  rw [or_stop_bind hget, if_neg hother]
  cases hdisplay : transaction_summary_display_item t.G_transaction_summary index.toNat
    t.display_flags t.G_transaction_summary_display with
  | none =>
    have hstep : (ux_summary_step index.toNat).run.run t = (.error .stop, t) := by
      rw [ux_summary_step, get_bind, hdisplay]
      rfl
    rw [bind_of_error hstep]
    rfl
  | some result =>
    obtain ⟨rc, display⟩ := result
    have hstep := ux_summary_step_run hdisplay
    rw [or_stop_bind rfl]
    dsimp only
    rw [modify_bind, THROW_IF]
    by_cases hrc : rc = 0
    · rw [if_pos hrc] at hstep
      rw [bind_of_ok (throw_if_neg (not_not.mpr hrc) _ _), bind_of_ok hstep]
      rfl
    · rw [if_neg hrc] at hstep
      rw [bind_of_error (throw_if_pos hrc _ _), bind_of_error hstep]

end Pairs

/-! ## The whole text -/

/-- For a number of summary steps, the last pair is the body of the message, as on BAGL, and the
pairs before it are what the summary displays under their indices. -/
def ShowsWholeText (t : AppState) (review : NbglReview) (n : ℕ) : Prop :=
  (∀ index : UInt8, index.toNat = n → ∃ review' slot,
    (get_single_action_review_pair index (review.start_sign_offchain_message_ui true n)).run.run
      t = (.ok (review', slot), t) ∧
    c_str slot.title = c_str (ux_sign_msg_text_step t).title ∧
    c_str slot.text = t.offchain_body ∧ c_str (ux_sign_msg_text_step t).text = t.offchain_body) ∧
  ∀ index : UInt8, index.toNat < n → ∀ rc display,
    transaction_summary_display_item t.G_transaction_summary index.toNat t.display_flags
      t.G_transaction_summary_display = some (rc, display) →
    (rc = 0 → ∃ review',
      (get_single_action_review_pair index (review.start_sign_offchain_message_ui true n)).run.run
        t = (.ok (review', ⟨display.title, display.text⟩),
          { t with G_transaction_summary_display := display })) ∧
    (rc ≠ 0 →
      (get_single_action_review_pair index (review.start_sign_offchain_message_ui true n)).run.run
        t = (.error (.THROW .ApduReplyRenecSummaryUpdateFailed),
          { t with G_transaction_summary_display := display }))

/-- What is shown of a text in memory. -/
theorem shows_whole_text_iff {t : AppState} {review : NbglReview} {n : ℕ}
    (htext : c_str t.offchain_text = t.offchain_body) (hreview : review.Sized)
    (hn : n ≤ SIZE_MAX) :
    ShowsWholeText t review n ↔ 255 < n ∨ t.offchain_body.length < TEXT_BUFFER_LENGTH := by
  constructor
  · rintro ⟨hlast, -⟩
    by_cases hsmall : n ≤ 255
    · have hindex : (UInt8.ofNat n).toNat = n := by
        rw [UInt8.toNat_ofNat', Nat.mod_eq_of_lt (by omega)]
      obtain ⟨review', slot, hpair, -, hbody, -⟩ := hlast (UInt8.ofNat n) hindex
      obtain ⟨review'', slot', hpair', -, hcut⟩ := review_pair_last (t := t) hreview hn hindex
      rw [hpair] at hpair'
      cases hpair'
      rw [hbody, htext] at hcut
      have hlength := congrArg List.length hcut
      rw [List.length_take] at hlength
      have hsize : 0 < TEXT_BUFFER_LENGTH := by decide
      right
      omega
    · exact Or.inl (Nat.not_le.mp hsmall)
  · intro hfits
    refine ⟨fun index hindex => ?_, fun index hindex rc display hdisplay => ?_⟩
    · have hbyte := index.toNat_lt
      obtain ⟨review', slot, hpair, htitle, hcut⟩ := review_pair_last (t := t) hreview hn hindex
      have hlength := hfits.resolve_left (by omega)
      have hmessage : c_str (c_string "Message") = c_string "Message" := by decide
      rw [htext, List.take_of_length_le (Nat.le_sub_one_of_lt hlength)] at hcut
      exact ⟨review', slot, hpair, htitle.trans hmessage.symm, hcut, htext⟩
    · have hstep := ux_summary_step_run hdisplay
      rw [review_pair_summary hreview hn (Nat.ne_of_lt hindex)]
      refine ⟨fun hrc => ?_, fun hrc => ?_⟩
      · rw [if_pos hrc] at hstep
        exact ⟨_, bind_of_ok hstep⟩
      · rw [if_neg hrc] at hstep
        exact bind_of_error hstep

/-- **The whole text is shown** on NBGL exactly when it fits in a slot: the index of a step is a
byte, and with more steps than that the text has none. -/
theorem review_shows_text_iff (device : Device) (settings : AppSettings)
    (G_called_from_swap : Bool) (G_swap_validated : SwapValidated) (inputs : List Input)
    (s t : AppState) (m : List UInt8) (review : NbglReview) (n : ℕ)
    (hrun : Run (step device) (app_main_start settings G_called_from_swap G_swap_validated)
      inputs s)
    (haccepts : AcceptsAscii device s m t) (hreview : review.Sized) (hn : n ≤ SIZE_MAX) :
    ShowsWholeText t review n ↔
      255 < n ∨ t.offchain_body.length < TEXT_BUFFER_LENGTH := by
  have hreached : ReachedOnBuffers inputs s :=
    hrun.history_invariant (P := ReachedOnBuffers) ⟨_, Raw.Reaches.zeroed, represents_zeroed⟩
      fun _ _ _ _ => reached_on_buffers_step
  exact shows_whole_text_iff (offchain_text_eq hreached haccepts) hreview hn

/-! ## Two messages -/

/-- A message of at most 255 characters, in one chunk. -/
def text_apdu (body : List UInt8) : List UInt8 :=
  chunk_apdu .InsSignOffchainMessage P1_CONFIRM (chunk_p2 false false)
    (1 :: (coin_path.encode ++ OFFCHAIN_MESSAGE_SIGNING_DOMAIN ++
      [0, 0, UInt8.ofNat body.length, 0] ++ body))

/-- The slots before anything has been shown. -/
def empty_review : NbglReview where
  displayed_slots := List.replicate 4
    ⟨List.replicate TITLE_SIZE 0, List.replicate TEXT_BUFFER_LENGTH 0⟩
  transaction_steps_number := 0
  last_step_is_ascii := false

theorem sized_empty_review : empty_review.Sized where
  slots := by decide
  title := by decide
  text := by decide

/-- The first APDU is a message that is accepted as ASCII. -/
theorem accepts_first {m : List UInt8} {c : ApduCommand} (header : OffchainMessageHeader)
    (hm : (apdu_handle_message m).run.run ApduCommand.cleared = (.ok (), c))
    (hchecks : ChecksOffchain { coin_main user_settings with G_command := c } header true) :
    ∃ t, AcceptsAscii nines_device (coin_main user_settings) m t ∧
      t.offchain_body = c.payload.drop OFFCHAIN_MESSAGE_HEADER_LENGTH := by
  obtain ⟨t, hhandle, -⟩ := reviews_offchain nines_device hchecks
  have hkeeps := keeps_handle_sign_offchain_message nines_device
    { coin_main user_settings with G_command := c }
  rw [hhandle] at hkeeps
  have hpayload : t.G_command.payload = c.payload :=
    congrArg (fun context => context.G_command.payload) hkeeps
  have hstate : c.state ≠ .ApduStatePayloadInProgress := by
    have hcomplete : c.state = .ApduStatePayloadComplete := hchecks.complete
    rw [hcomplete]
    decide
  refine ⟨t, ⟨_, header, receive_apdu_eq_ok.mpr ⟨c, hm, hstate, rfl⟩, hchecks, hhandle⟩, ?_⟩
  rw [AppState.offchain_body, hpayload]

/-- A message of twelve characters is shown. -/
theorem short_text_shown : ∃ t,
    AcceptsAscii nines_device (coin_main user_settings)
      (text_apdu (c_string "Test message")) t ∧
    ShowsWholeText t empty_review 1 := by
  obtain ⟨t, haccepts, hbody⟩ := accepts_first ⟨0, 0, 12⟩
    (m := text_apdu (c_string "Test message")) (c := command_after (text_apdu
      (c_string "Test message")) ApduCommand.cleared)
    rfl ⟨rfl, rfl, rfl, rfl, rfl⟩
  refine ⟨t, haccepts, (review_shows_text_iff nines_device user_settings false _ []
    (coin_main user_settings) t _ empty_review 1 Run.start haccepts sized_empty_review
    (by decide)).mpr (Or.inr ?_)⟩
  rw [hbody]
  decide

/-- A message of 45 characters is signed with the last one hidden. -/
theorem long_text_cut_off : ∃ t,
    Run (step nines_device) (coin_main user_settings) [] (coin_main user_settings) ∧
      AcceptsAscii nines_device (coin_main user_settings)
        (text_apdu (List.replicate 45 (char 'a'))) t ∧
      t.offchain_body = List.replicate 45 (char 'a') ∧ ¬ShowsWholeText t empty_review 1 := by
  obtain ⟨t, haccepts, hbody⟩ := accepts_first ⟨0, 0, 45⟩
    (m := text_apdu (List.replicate 45 (char 'a'))) (c := command_after (text_apdu
      (List.replicate 45 (char 'a'))) ApduCommand.cleared)
    rfl ⟨rfl, rfl, rfl, rfl, rfl⟩
  have hlong : t.offchain_body = List.replicate 45 (char 'a') := hbody.trans (by decide)
  have hreached : ReachedOnBuffers [] (coin_main user_settings) :=
    ⟨_, Raw.Reaches.zeroed, represents_zeroed⟩
  refine ⟨t, Run.start, haccepts, hlong, fun hshows => ?_⟩
  have htext := offchain_text_eq hreached haccepts
  rcases (shows_whole_text_iff htext sized_empty_review (by decide)).mp hshows with hmany | hfits
  · exact absurd hmany (by decide)
  · rw [hlong] at hfits
    exact absurd hfits (by decide)

end RenecLedger
