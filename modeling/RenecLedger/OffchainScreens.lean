/-
What the screens say of an off-chain message.

Its summary has items of its own, found by their titles, and on BAGL the text of an ASCII message
has a step of its own (`approved_offchain_screens`). A review that looks like that of an off-chain
message is of one, with the same text, or of the same hash when it is not ASCII
(`same_screens_same_text`). In user mode nothing on the screens tells the two formats of a text
apart (`formats_look_the_same`); in expert mode the message is the same.
-/
import RenecLedger.OffchainReview
import RenecLedger.Screens

set_option autoImplicit false

open MachineLib NumeralLib ProgramLib

namespace RenecLedger

/-! ## The texts of numbers and hashes -/

theorem decimal_injective : Function.Injective decimal := by
  intro m n h
  rw [decimal_eq, decimal_eq, List.reverse_inj] at h
  exact numeral_injective 10 (map_injOn digit_inj
    (fun x hx => lt_of_mem_numeral (by decide) hx) (fun x hx => lt_of_mem_numeral (by decide) hx) h)

theorem zero_notMem_decimal (n : ℕ) : 0 ∉ decimal n := by
  rw [decimal_eq, List.mem_reverse]
  intro hzero
  obtain ⟨x, -, hx⟩ := List.mem_map.mp hzero
  exact digit_ne_zero x hx

theorem u64_reads_as {u64 : UInt64} {flags : DisplayFlags} {text : List UInt8} :
    (SummaryItemValue.SummaryItemU64 u64).ReadsAs flags text ↔ text = decimal u64.toNat := by
  have hprints : ∀ {buffer out : List UInt8}, buffer.length = TEXT_BUFFER_LENGTH →
      (SummaryItemValue.SummaryItemU64 u64).print flags buffer = some (0, out) →
      c_str out = decimal u64.toNat := by
    intro buffer out hlen hprint
    obtain ⟨rc, out', hresult, -, htext⟩ := prints_integer_u64 u64 buffer
    rw [SummaryItemValue.print, ← hlen, hresult] at hprint
    cases hprint
    obtain ⟨rest, rfl⟩ := (htext (by rw [hlen]; decide)).2 rfl
    exact c_str_append_zero (zero_notMem_decimal _) rest
  constructor
  · rintro ⟨buffer, out, hlen, hprint, rfl⟩
    exact hprints hlen hprint
  · rintro rfl
    have hlen := sized_reset.text
    have hroom : 20 < SummaryDisplay.reset.text.length := hlen ▸ (by decide)
    obtain ⟨out, hprint, -⟩ := prints_u64 u64 hroom (hlen ▸ (by decide))
    rw [hlen] at hprint
    exact ⟨_, out, hlen, hprint, hprints hlen hprint⟩

theorem hash_reads_as {hash : HashRef} {flags : DisplayFlags} {text : List UInt8} :
    (SummaryItemValue.SummaryItemHash hash).ReadsAs flags text ↔ text = base58 hash.hash.data := by
  have hsize : hash.hash.data.length ≤ 32 := Nat.le_of_eq hash.hash.size
  constructor
  · rintro ⟨buffer, out, -, hprint, rfl⟩
    exact encode_base58_text hsize hprint
  · rintro rfl
    obtain ⟨out, hprint, -⟩ := prints_base58 hash.hash.size sized_reset.text
    exact ⟨_, out, sized_reset.text, hprint, encode_base58_text hsize hprint⟩

/-- A text that fits. -/
theorem string_reads_as {string : String} (flags : DisplayFlags)
    (hfits : (c_str (c_string string)).length < TEXT_BUFFER_LENGTH) :
    (SummaryItemValue.SummaryItemString string).ReadsAs flags (c_str (c_string string)) := by
  obtain ⟨rc, out, hprint, -⟩ := print_string_ok (c_string string)
    (by decide : 1 ≤ TEXT_BUFFER_LENGTH) sized_reset.text.ge
  refine ⟨_, out, sized_reset.text, ?_, ?_⟩
  · rw [SummaryItemValue.print, hprint]
    rfl
  · rw [(print_string_text hprint).1, truncated, if_pos hfits]

/-! ## The items -/

/-- Which items there are, and when. -/
theorem offchain_sets_iff {header : OffchainMessageHeader} {is_ascii expert_mode : Bool}
    {message_hash : Hash} {signer : Pubkey} {P : SummaryItem → Prop} :
    (print_offchain_message header is_ascii expert_mode message_hash signer).sets P ↔
      P ⟨"Sign", .SummaryItemString "Off-Chain Message"⟩ ∨
      (expert_mode = true ∧ (P ⟨"Version", .SummaryItemU64 header.version.toUInt64⟩ ∨
        P ⟨"Format", .SummaryItemU64 header.format.toUInt64⟩ ∨
        P ⟨"Size", .SummaryItemU64 header.length.toUInt64⟩ ∨
        P ⟨"Signer", .SummaryItemPubkey ⟨offchain_publicKey_addr, signer⟩⟩)) ∨
      ((expert_mode = true ∨ is_ascii = false) ∧
        P ⟨"Hash", .SummaryItemHash ⟨MAX_MESSAGE_LENGTH + 4, message_hash⟩⟩) := by
  cases is_ascii <;> cases expert_mode <;>
    simp [print_offchain_message, or_assoc, or_left_comm, or_comm]

/-! ## The text -/

/-- The text in memory of an ASCII message that is short enough is its body. -/
theorem text_in_memory {inputs : List Input} {s : AppState} (hreached : ReachedOnBuffers inputs s)
    {format lower upper : UInt8} {body : List UInt8}
    (hpayload : s.G_command.payload =
      OFFCHAIN_MESSAGE_SIGNING_DOMAIN ++ 0 :: format :: lower :: upper :: body)
    (hmax : body.length ≤ MAX_OFFCHAIN_MESSAGE_LENGTH) (hascii : is_data_ascii body = true) :
    c_str s.offchain_text = body := by
  obtain ⟨r, hr, hR⟩ := hreached
  obtain ⟨hbody, hlength⟩ := offchain_payload_length hpayload
  have htake : (s.G_command.message.drop OFFCHAIN_MESSAGE_HEADER_LENGTH).take body.length =
      body := by
    rw [ApduCommand.payload, List.drop_take, hlength, Nat.add_sub_cancel_left] at hbody
    exact hbody
  have hzero : 0 ∉ body := fun hzero => absurd (is_data_ascii_iff.mp hascii 0 hzero).1 (by decide)
  have htext := (reaches_well_formed hr).text (n := body.length)
    (by rw [hR.message_length, hlength, Nat.add_comm]) hmax (by rw [hR.message, htake]; exact hzero)
  rw [hR.message, htake] at htext
  exact htext

/-! ## The screens -/

/-- What the steps of a review say on BAGL, with keys displayed in this way: the items
of the summary, and the text of an off-chain message in ASCII. The step of the text has
a title of its own. -/
def OnReviewScreen (s : AppState) (flags : DisplayFlags) (title text : List UInt8) : Prop :=
  OnScreen s.G_transaction_summary flags title text ∨
    ((parse_offchain_message_header ⟨0, s.G_command.payload⟩).isSome = true ∧
      is_data_ascii s.offchain_body = true) ∧
    title = c_str (ux_sign_msg_text_step s).title ∧ text = c_str (ux_sign_msg_text_step s).text

/-- What the screens say of an off-chain message, however keys are displayed. -/
structure OffchainScreens (device : Device) (s : AppState) : Prop where
  sign : ∀ flags, OnReviewScreen s flags (c_string "Sign") (c_string "Off-Chain Message")
  message : ∀ flags text, OnReviewScreen s flags (c_string "Message") text ↔
    is_data_ascii s.offchain_body = true ∧ text = s.offchain_body
  hash : ∀ flags text, OnReviewScreen s flags (c_string "Hash") text ↔
    (s.settings.display_mode_expert = true ∨ is_data_ascii s.offchain_body = false) ∧
      text = base58 (device.cx_hash_sha256 s.G_command.payload).data
  format : ∀ flags text, OnReviewScreen s flags (c_string "Format") text ↔
    s.settings.display_mode_expert = true ∧ ∃ header body,
      parse_offchain_message_header ⟨0, s.G_command.payload⟩ = some (header, body) ∧
      text = decimal header.format.toNat
  signer : ∀ flags text, OnReviewScreen s flags (c_string "Signer") text ↔
    s.settings.display_mode_expert = true ∧
      text = displayed_key flags (device.get_public_key s.G_command.derivation_path)

section Screens

variable {device : Device} {s : AppState} {flags : DisplayFlags}

theorem text_step_title : c_str (ux_sign_msg_text_step s).title = c_string "Message" := by
  change c_str (c_string "Message") = c_string "Message"
  decide +kernel

theorem text_step_text : c_str (ux_sign_msg_text_step s).text = c_str s.offchain_text := rfl

/-- The other titles are those of the items. -/
theorem on_review_screen_iff {title : String} {text : List UInt8}
    (hshort : (c_string title).length < TITLE_SIZE - 1)
    (hother : c_string title ≠ c_string "Message") :
    OnReviewScreen s flags (c_string title) text ↔
      ∃ item ∈ s.G_transaction_summary.items,
        Titled title item ∧ item.value.ReadsAs flags text := by
  rw [OnReviewScreen, on_screen_iff hshort, text_step_title]
  refine or_iff_left ?_
  rintro ⟨-, htitle, -⟩
  exact hother htitle

/-- What holds of an item of the summary holds of one that is printed. -/
theorem ShowsOffchain.items_iff {settings : AppSettings} {path : List UInt32}
    {message : List UInt8} {summary : TransactionSummary} {header : OffchainMessageHeader}
    (h : ShowsOffchain device settings path message summary header) {P : SummaryItem → Prop} :
    (∃ item ∈ summary.items, P item) ↔
      (print_offchain_message header
        (is_data_ascii (message.drop OFFCHAIN_MESSAGE_HEADER_LENGTH))
        settings.display_mode_expert (device.cx_hash_sha256 message)
        (device.get_public_key path)).sets P := by
  constructor
  · rintro ⟨item, hitem, hp⟩
    obtain ⟨w, hw, rfl⟩ := (h.items item).mp hitem
    exact ⟨w, hw, hp⟩
  · rintro ⟨w, hw, hp⟩
    exact ⟨w.item, (h.items _).mpr ⟨w, hw, rfl⟩, hp⟩

/-- **The screens of an off-chain message** say what it is. -/
theorem ShowsOffchain.screens {inputs : List Input} {header : OffchainMessageHeader}
    (hreached : ReachedOnBuffers inputs s)
    (h : ShowsOffchain device s.settings s.G_command.derivation_path s.G_command.payload
      s.G_transaction_summary header) : OffchainScreens device s := by
  obtain ⟨rest, hparsed⟩ := h.parsed
  have hitems : ∀ flags title text, (c_string title).length < TITLE_SIZE - 1 →
      c_string title ≠ c_string "Message" → (OnReviewScreen s flags (c_string title) text ↔ _) :=
    fun flags title text hshort hother => (on_review_screen_iff hshort hother).trans
      (h.items_iff.trans offchain_sets_iff)
  constructor
  · intro flags
    rw [hitems flags "Sign" _ (by decide +kernel) (by decide +kernel)]
    have hfits : (c_str (c_string "Off-Chain Message")).length < TEXT_BUFFER_LENGTH := by
      decide +kernel
    have htext := string_reads_as flags hfits
    have hsame : c_str (c_string "Off-Chain Message") = c_string "Off-Chain Message" := by
      decide +kernel
    rw [hsame] at htext
    have htitled : Titled "Sign" ⟨"Sign", .SummaryItemString "Off-Chain Message"⟩ := by
      change c_str (c_string "Sign") = c_string "Sign"
      decide +kernel
    exact Or.inl ⟨htitled, htext⟩
  · intro flags text
    obtain ⟨format, lower, upper, body, hpayload, -, -, hmax, -⟩ := h.well_formed
    have hbody : s.offchain_body = body := (offchain_payload_length hpayload).1
    rw [OnReviewScreen, on_screen_iff (by decide +kernel), h.items_iff, offchain_sets_iff,
      text_step_title, hparsed, hbody]
    constructor
    · rintro (hitem | ⟨⟨-, hascii⟩, -, rfl⟩)
      · simp +decide [Titled] at hitem
      · exact ⟨hascii, text_in_memory hreached hpayload hmax hascii⟩
    · rintro ⟨hascii, rfl⟩
      exact Or.inr ⟨⟨rfl, hascii⟩, rfl, (text_in_memory hreached hpayload hmax hascii).symm⟩
  · intro flags text
    rw [hitems flags "Hash" _ (by decide +kernel) (by decide +kernel)]
    simp +decide [Titled, hash_reads_as, AppState.offchain_body]
  · intro flags text
    rw [hitems flags "Format" _ (by decide +kernel) (by decide +kernel)]
    simp +decide [Titled, u64_reads_as, hparsed]
  · intro flags text
    rw [hitems flags "Signer" _ (by decide +kernel) (by decide +kernel)]
    simp +decide [Titled, pubkey_reads_as]

end Screens

/-! ## Only an off-chain message is titled so -/

theorem unused_sign : Unused "Sign" := by
  rw [Unused]
  decide +kernel

/-- What is under review has that title only for an off-chain message. -/
theorem Shows.offchain_of_titled {device : Device} {settings : AppSettings}
    {signed : List UInt32 × List UInt8} {summary : TransactionSummary}
    (h : Shows device settings signed summary) {item : SummaryItem} (hitem : item ∈ summary.items)
    (htitled : Titled "Sign" item) :
    ∃ header, ShowsOffchain device settings signed.1 signed.2 summary header := by
  rcases h with ⟨message_body, print_config, fee_payer, h⟩ | h
  · obtain ⟨transfer, htransfer⟩ := h.transfer_titled unused_sign (by decide +kernel) hitem htitled
    have htitles := (h.transfer_items htransfer (by decide +kernel) (P := Titled "Sign")
      fun _ => id).mp ⟨item, hitem, htitled⟩
    simp +decide [Titled] at htitles
  · exact h

/-! ## Two messages -/

/-- What is signed is the header and the body: the format, and a length that counts the body. -/
theorem offchain_message_ext {allow allow' : Bool} {message message' : List UInt8}
    (h : IsOffchainMessage allow message) (h' : IsOffchainMessage allow' message')
    {header header' : OffchainMessageHeader} {d d' : Parser}
    (hparse : parse_offchain_message_header ⟨0, message⟩ = some (header, d))
    (hparse' : parse_offchain_message_header ⟨0, message'⟩ = some (header', d'))
    (hformat : header'.format = header.format)
    (hbody : message'.drop OFFCHAIN_MESSAGE_HEADER_LENGTH =
      message.drop OFFCHAIN_MESSAGE_HEADER_LENGTH) : message' = message := by
  obtain ⟨format, lower, upper, body, rfl, -, hlength, -⟩ := h
  obtain ⟨format', lower', upper', body', rfl, -, hlength', -⟩ := h'
  obtain ⟨_, _, _, hbytes, -⟩ := parse_offchain_message_header_iff.mp hparse
  obtain ⟨_, _, _, hbytes', -⟩ := parse_offchain_message_header_iff.mp hparse'
  have hfields := List.append_cancel_left hbytes
  have hfields' := List.append_cancel_left hbytes'
  simp only [List.cons.injEq] at hfields hfields'
  obtain rfl : body' = body := hbody
  have hlower := lower.toNat_lt
  have hlower' := lower'.toNat_lt
  have hlow : lower' = lower := UInt8.toNat_inj.mp (by omega)
  have hup : upper' = upper := UInt8.toNat_inj.mp (by omega)
  rw [hfields.2.1, hfields'.2.1, hformat, hlow, hup]

/-- What two reviews of off-chain messages have in common. Experts see the signing key,
whole or abbreviated; users in the other mode do not see it, and it is left out here. -/
structure SameOffchain (device : Device) (s s' : AppState) : Prop where
  offchain : (parse_offchain_message_header ⟨0, s'.G_command.payload⟩).isSome = true
  text : is_data_ascii s.offchain_body = true → s'.offchain_body = s.offchain_body
  hash : s.settings.display_mode_expert = true ∨ is_data_ascii s.offchain_body = false →
    device.cx_hash_sha256 s'.G_command.payload = device.cx_hash_sha256 s.G_command.payload
  message : s.settings.display_mode_expert = true → is_data_ascii s.offchain_body = true →
    s'.G_command.payload = s.G_command.payload
  signer : s.settings.display_mode_expert = true → s'.display_flags = s.display_flags ∧
    displayed_key s.display_flags (device.get_public_key s'.G_command.derivation_path) =
      displayed_key s.display_flags (device.get_public_key s.G_command.derivation_path)
  whole_signer : s.settings.display_mode_expert = true → s.settings.pubkey_display_long = true →
    device.get_public_key s'.G_command.derivation_path =
      device.get_public_key s.G_command.derivation_path

/-- The screens of an off-chain message tell it from others. -/
theorem OffchainScreens.same {device : Device} {s s' : AppState} {allow allow' : Bool}
    (h : OffchainScreens device s) (h' : OffchainScreens device s')
    (hmessage : IsOffchainMessage allow s.G_command.payload)
    (hmessage' : IsOffchainMessage allow' s'.G_command.payload)
    (hoffchain : (parse_offchain_message_header ⟨0, s.G_command.payload⟩).isSome = true)
    (hoffchain' : (parse_offchain_message_header ⟨0, s'.G_command.payload⟩).isSome = true)
    (hsame : ∀ title text, OnReviewScreen s s.display_flags title text ↔
      OnReviewScreen s' s'.display_flags title text) : SameOffchain device s s' := by
  have htext : is_data_ascii s.offchain_body = true → s'.offchain_body = s.offchain_body :=
    fun hascii =>
      ((h'.message _ _).mp ((hsame _ _).mp ((h.message _ _).mpr ⟨hascii, rfl⟩))).2.symm
  -- Keys that look the same are displayed in the same way.
  have hsigner : s.settings.display_mode_expert = true → s'.display_flags = s.display_flags ∧
      displayed_key s.display_flags (device.get_public_key s'.G_command.derivation_path) =
        displayed_key s.display_flags (device.get_public_key s.G_command.derivation_path) := by
    intro hexpert
    have hscreen := (h'.signer _ _).mp ((hsame _ _).mp ((h.signer _ _).mpr ⟨hexpert, rfl⟩))
    have hflags := displayed_key_flags hscreen.2
    exact ⟨hflags.symm, hflags ▸ hscreen.2.symm⟩
  refine ⟨hoffchain', htext, fun hshown => ?_, fun hexpert hascii => ?_, hsigner,
    fun hexpert hlong => ?_⟩
  · have hscreen := (h'.hash _ _).mp ((hsame _ _).mp ((h.hash _ _).mpr ⟨hshown, rfl⟩))
    exact (Hash.ext (base58_injective hscreen.2)).symm
  · obtain ⟨⟨header, d⟩, hparse⟩ := Option.isSome_iff_exists.mp hoffchain
    obtain ⟨-, header', d', hparse', hformat⟩ := (h'.format _ _).mp
      ((hsame _ _).mp ((h.format _ _).mpr ⟨hexpert, header, d, hparse, rfl⟩))
    exact offchain_message_ext hmessage hmessage' hparse hparse'
      (UInt8.toNat_inj.mp (decimal_injective hformat)).symm (htext hascii)
  · obtain ⟨-, hkey⟩ := hsigner hexpert
    exact displayed_key_injective hlong hkey

/-! ## Sessions -/

section Sessions

variable {device : Device} {target target' : Target} {N_storage N_storage' : InternalStorage}
  {inputs inputs' : List SessionInput} {s s' : Session}

theorem session_reached (hrun : GuardedRun (session_step device) SessionTurns
      (session_start target N_storage) inputs s) :
    ∃ history, ReachedOnBuffers history s.app := by
  refine hrun.invariant (P := fun s => ∃ history, ReachedOnBuffers history s.app)
    ⟨[], _, Raw.Reaches.zeroed, represents_zeroed⟩ ?_
  rintro s i t ⟨history, hreached⟩ - hstep
  rcases session_step_cases hstep with ⟨j, rfl, hstep, -⟩ | ⟨j, rfl, -, -, happ⟩
  · exact ⟨_, reached_on_buffers_step hreached hstep⟩
  · rw [happ]
    exact ⟨history, hreached⟩

/-- What is under review in a session is shown, with the settings that the handlers read. -/
theorem session_shows (hrun : GuardedRun (session_step device) SessionTurns
      (session_start target N_storage) inputs s) (hscreen : s.app.screen = .sign_review) :
    Shows device s.app.settings s.app.G_command.to_sign s.app.G_transaction_summary := by
  have hinvariant := (run_consented hrun).1
  obtain ⟨history, hdashboard⟩ := hinvariant.dashboard
  rw [hdashboard.settings_eq]
  exact hinvariant.shows hscreen

theorem session_offchain (hrun : GuardedRun (session_step device) SessionTurns
      (session_start target N_storage) inputs s) (hscreen : s.app.screen = .sign_review)
    (hoffchain : (parse_offchain_message_header ⟨0, s.app.G_command.payload⟩).isSome = true) :
    IsOffchainMessage s.app.settings.allow_blind_sign s.app.G_command.payload ∧
      OffchainScreens device s.app := by
  obtain ⟨history, hreached⟩ := session_reached hrun
  rcases session_shows hrun hscreen with ⟨message_body, print_config, fee_payer, h⟩ | ⟨header, h⟩
  · -- An off-chain message is no transaction.
    have hlen : s.app.G_command.payload.length ≤ MAX_MESSAGE_LENGTH := by
      rw [ApduCommand.payload_length]
      exact s.app.G_command.message_length_le
    have hparsed := h.parsed
    change parse_message_header ⟨0, s.app.G_command.payload⟩ = _ at hparsed
    rw [offchain_header_refused hlen hoffchain] at hparsed
    cases hparsed
  · exact ⟨h.well_formed, h.screens hreached⟩

/-- **What the screens said when an off-chain message was approved**: the text of an ASCII message,
the hash of any other, and to experts the hash of both. -/
theorem approved_offchain_screens (hrun : GuardedRun (session_step device) SessionTurns
      (session_start target N_storage) inputs s)
    {path : List UInt32} {message : List UInt8} (hsigned : (path, message) ∈ signatures s.app.log)
    (hoffchain : (parse_offchain_message_header ⟨0, message⟩).isSome = true) :
    ∃ before after s', inputs = before ++ .input .approve :: after ∧
      GuardedRun (session_step device) SessionTurns (session_start target N_storage) before s' ∧
      s'.app.screen = .sign_review ∧ s'.app.G_command.to_sign = (path, message) ∧
      OffchainScreens device s'.app := by
  obtain ⟨before, after, s', rfl, hbefore, hscreen, hto_sign, -⟩ := (run_consented hrun).2 _ hsigned
  have hpayload : s'.app.G_command.payload = message := congrArg Prod.snd hto_sign
  exact ⟨before, after, s', rfl, hbefore, hscreen, hto_sign,
    (session_offchain hbefore hscreen (hpayload.symm ▸ hoffchain)).2⟩

/-- **Reviews that look the same** as that of an off-chain message, with keys displayed as the
settings say, are of the same text, or of the same hash; for experts, of the same message if it is
ASCII, and signed with the same key as far as that is displayed. -/
theorem same_screens_same_text
    (hrun : GuardedRun (session_step device) SessionTurns (session_start target N_storage) inputs s)
    (hrun' : GuardedRun (session_step device) SessionTurns (session_start target' N_storage')
      inputs' s')
    (hscreen : s.app.screen = .sign_review) (hscreen' : s'.app.screen = .sign_review)
    (hoffchain : (parse_offchain_message_header ⟨0, s.app.G_command.payload⟩).isSome = true)
    (hsame : ∀ title text, OnReviewScreen s.app s.app.display_flags title text ↔
      OnReviewScreen s'.app s'.app.display_flags title text) :
    SameOffchain device s.app s'.app := by
  obtain ⟨hmessage, hscreens⟩ := session_offchain hrun hscreen hoffchain
  -- The screen titled "Sign" makes the other message an off-chain one.
  have hoffchain' :
      (parse_offchain_message_header ⟨0, s'.app.G_command.payload⟩).isSome = true := by
    obtain ⟨item, hitem, htitled, -⟩ := (on_review_screen_iff (by decide +kernel)
      (by decide +kernel)).mp ((hsame _ _).mp (hscreens.sign _))
    obtain ⟨header, h⟩ := (session_shows hrun' hscreen').offchain_of_titled hitem htitled
    obtain ⟨body, hparsed⟩ := h.parsed
    exact Option.isSome_iff_exists.mpr ⟨_, hparsed⟩
  obtain ⟨hmessage', hscreens'⟩ := session_offchain hrun' hscreen' hoffchain'
  exact hscreens.same hscreens' hmessage hmessage' hoffchain hoffchain' hsame

end Sessions

/-! ## A text in two formats -/

def formatted_message (format : UInt8) : List UInt8 :=
  OFFCHAIN_MESSAGE_SIGNING_DOMAIN ++ [0, format, 4, 0] ++ c_string "Text"

def formatted_apdu (format : UInt8) : SessionInput :=
  .input (.apdu (chunk_apdu .InsSignOffchainMessage P1_CONFIRM (chunk_p2 false false)
    (1 :: (coin_path.encode ++ formatted_message format))))

/-- The message is under review with its text, on a device that abbreviates keys. -/
structure ShowsPlainText (s : Session) (format : UInt8) : Prop where
  screen : s.app.screen = .sign_review
  payload : s.app.G_command.payload = formatted_message format
  summary : s.app.G_transaction_summary = { transaction_summary_reset with
    primary := some ⟨"Sign", .SummaryItemString "Off-Chain Message"⟩ }
  text : c_str s.app.offchain_text = c_string "Text"
  abbreviates : s.app.settings.pubkey_display_long = false

instance (s : Session) (format : UInt8) : Decidable (ShowsPlainText s format) :=
  decidable_of_iff (s.app.screen = .sign_review ∧
    s.app.G_command.payload = formatted_message format ∧
    s.app.G_transaction_summary = { transaction_summary_reset with
      primary := some ⟨"Sign", .SummaryItemString "Off-Chain Message"⟩ } ∧
    c_str s.app.offchain_text = c_string "Text" ∧
    s.app.settings.pubkey_display_long = false)
    ⟨fun h => ⟨h.1, h.2.1, h.2.2.1, h.2.2.2.1, h.2.2.2.2⟩,
      fun h => ⟨h.screen, h.payload, h.summary, h.text, h.abbreviates⟩⟩

/-- The user reads a text, and approves it. -/
theorem text_is_read : ∃ (s : Session) (before after : List SessionInput) (s' : Session),
    GuardedRun (session_step nines_device) SessionTurns (session_start .TARGET_NANOS fresh_storage)
      [formatted_apdu 0, .input .approve] s ∧
    [formatted_apdu 0, .input .approve] = before ++ .input .approve :: after ∧
    s'.app.G_command.to_sign = (coin_path.words, formatted_message 0) ∧
    OnReviewScreen s'.app s'.app.display_flags (c_string "Message") (c_string "Text") := by
  have hany : ∃ s, GuardedRun (session_step nines_device) SessionTurns
      (session_start .TARGET_NANOS fresh_storage) [formatted_apdu 0, .input .approve] s ∧
      (coin_path.words, formatted_message 0) ∈ signatures s.app.log :=
    GuardedRun.any (by decide +kernel)
  obtain ⟨s, hrun, hsigned⟩ := hany
  obtain ⟨before, after, s', hinputs, -, -, hto_sign, hscreens⟩ :=
    approved_offchain_screens hrun hsigned (by decide +kernel)
  have hbody : s'.app.offchain_body = c_string "Text" :=
    (congrArg (fun signed => signed.2.drop OFFCHAIN_MESSAGE_HEADER_LENGTH) hto_sign).trans
      (by decide +kernel)
  refine ⟨s, before, after, s', hrun, hinputs, hto_sign,
    (hscreens.message _ _).mpr ⟨?_, hbody.symm⟩⟩
  rw [hbody]
  decide +kernel

/-- In user mode, two different messages look the same, and have the same text. -/
theorem formats_look_the_same : ∃ s s' : Session,
    ShowsPlainText s 0 ∧ ShowsPlainText s' 1 ∧
    s'.app.G_command.payload ≠ s.app.G_command.payload ∧
    SameOffchain nines_device s.app s'.app := by
  have hplain : ∃ s, GuardedRun (session_step nines_device) SessionTurns
      (session_start .TARGET_NANOS fresh_storage) [formatted_apdu 0] s ∧ ShowsPlainText s 0 :=
    GuardedRun.any (by decide +kernel)
  have hother : ∃ s, GuardedRun (session_step nines_device) SessionTurns
      (session_start .TARGET_NANOS fresh_storage) [formatted_apdu 1] s ∧ ShowsPlainText s 1 :=
    GuardedRun.any (by decide +kernel)
  obtain ⟨s, hrun, h⟩ := hplain
  obtain ⟨s', hrun', h'⟩ := hother
  refine ⟨s, s', h, h', ?_, same_screens_same_text hrun hrun' h.screen h'.screen ?_
    fun title text => ?_⟩
  · rw [h.payload, h'.payload]
    decide +kernel
  · rw [h.payload]
    decide +kernel
  · have hchecks : ∀ format : UInt8, format ≤ 1 →
        (parse_offchain_message_header ⟨0, formatted_message format⟩).isSome = true ∧
          is_data_ascii ((formatted_message format).drop OFFCHAIN_MESSAGE_HEADER_LENGTH) =
            true := by
      intro format hformat
      rcases format_le_one.mp hformat with rfl | rfl <;> decide +kernel
    rw [OnReviewScreen, OnReviewScreen, h.summary, h'.summary, text_step_title, text_step_title,
      text_step_text, text_step_text, h.text, h'.text, AppState.display_flags,
      AppState.display_flags, h.abbreviates, h'.abbreviates, AppState.offchain_body,
      AppState.offchain_body, h.payload, h'.payload,
      and_iff_right (hchecks 0 (by decide)), and_iff_right (hchecks 1 (by decide))]

end RenecLedger
