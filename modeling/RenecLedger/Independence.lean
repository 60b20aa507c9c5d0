/-
A command is answered on its own.

The app keeps the last command, its summary and the key that was asked for, and clears of these
only the command, when a new one begins. Two states are `Alike` when what the host and the user
can see of them is the same. The first APDU of a command makes any two idle states alike, and no
input makes a difference afterwards: what the app answers to a command, and shows for it, does not
depend on what came before (`commands_are_independent`). The condition is that no message to sign
names more signers than it has keys: the search for the signer would go on behind the table, and
behind the message.
-/
import Mathlib.Data.List.Find
import RenecLedger.Reviewable

set_option autoImplicit false

open MachineLib ProgramLib

namespace RenecLedger

variable {device : Device}

/-! ## Two states -/

/-- The same can be seen of both states, and what has been sent since the two logs. The
summary and the address may differ as long as they are not on the screen. -/
structure Alike (log₁ log₂ : List Event) (s t : AppState) : Prop where
  command : s.G_command = t.G_command
  settings : s.settings = t.settings
  called : s.G_called_from_swap = false ∧ t.G_called_from_swap = false
  screen : s.screen = t.screen
  summary : s.screen = .sign_review → s.G_transaction_summary = t.G_transaction_summary
  key : s.screen = .pubkey_review → s.G_publicKey = t.G_publicKey
  tx : s.tx = t.tx
  log : ∃ events, s.log = log₁ ++ events ∧ t.log = log₂ ++ events

/-- The summary is the same whether or not it is on the screen. -/
structure AlikeSummary (log₁ log₂ : List Event) (s t : AppState) : Prop extends
    Alike log₁ log₂ s t where
  summary_eq : s.G_transaction_summary = t.G_transaction_summary

variable {log₁ log₂ : List Event} {s t : AppState}

/-- What is noted in both logs keeps the states alike. -/
theorem Alike.with_log (h : Alike log₁ log₂ s t) (event : Event) :
    Alike log₁ log₂ { s with log := s.log ++ [event] } { t with log := t.log ++ [event] } := by
  obtain ⟨events, hs, ht⟩ := h.log
  refine ⟨h.command, h.settings, h.called, h.screen, h.summary, h.key, h.tx, events ++ [event],
    ?_, ?_⟩
  · rw [hs, List.append_assoc]
  · rw [ht, List.append_assoc]

/-- A summary that is reset is the same in both. -/
theorem Alike.reset (h : Alike log₁ log₂ s t) :
    AlikeSummary log₁ log₂ s.with_reset_summary t.with_reset_summary :=
  ⟨⟨h.command, h.settings, h.called, h.screen, fun _ => rfl, h.key, h.tx, h.log⟩, rfl⟩

/-- The hash is computed of the same message. -/
theorem Alike.with_hash (h : Alike log₁ log₂ s t) (hash : ApduCommand → Hash) :
    Alike log₁ log₂
      { s with G_command := { s.G_command with message_hash := hash s.G_command } }
      { t with G_command := { t.G_command with message_hash := hash t.G_command } } := by
  refine ⟨?_, h.settings, h.called, h.screen, h.summary, h.key, h.tx, h.log⟩
  rw [h.command]

/-! ## Programs -/

/-- From alike states with the same summary, the program ends in the same way: with the
same value or the same exception, in states that are alike again. -/
def RunsAlike {α : Type} (p : App α) : Prop :=
  ∀ log₁ log₂, Simulates (AlikeSummary log₁ log₂) Eq Eq p p

section Programs

variable {α β : Type}

/-- Returning runs alike. -/
theorem runs_alike_pure (a : α) : RunsAlike (pure a : App α) := fun _ _ => simulates_pure rfl

/-- So does throwing. -/
theorem runs_alike_throw (e : Exception) : RunsAlike (throw e : App α) :=
  fun _ _ => simulates_throw rfl

/-- A sequence runs alike when its parts do: the first returns the same value in both. -/
theorem runs_alike_bind {p : App α} {f : α → App β} (hp : RunsAlike p)
    (hf : ∀ a, RunsAlike (f a)) : RunsAlike (p >>= f) := fun log₁ log₂ =>
  simulates_bind (hp log₁ log₂) fun a _ hab => hab ▸ hf a log₁ log₂

/-- What is read of the state matters only as far as it is the same. -/
theorem runs_alike_get_bind {f : AppState → App α}
    (h : ∀ log₁ log₂ a b, AlikeSummary log₁ log₂ a b →
      Simulates (AlikeSummary log₁ log₂) Eq Eq (f a) (f b)) : RunsAlike (get >>= f) :=
  fun log₁ log₂ => simulates_bind simulates_get (h log₁ log₂)

/-- So does an update that keeps states alike. -/
theorem runs_alike_modify {g : AppState → AppState}
    (h : ∀ log₁ log₂ a b, AlikeSummary log₁ log₂ a b → AlikeSummary log₁ log₂ (g a) (g b)) :
    RunsAlike (modify g) := fun log₁ log₂ _ _ hab => ⟨rfl, h log₁ log₂ _ _ hab⟩

/-- Reading what alike states share returns the same in both. -/
theorem runs_alike_gets {f : AppState → α}
    (h : ∀ log₁ log₂ a b, AlikeSummary log₁ log₂ a b → f a = f b) : RunsAlike (gets f) :=
  runs_alike_get_bind fun log₁ log₂ a b hab => simulates_pure (h log₁ log₂ a b hab)

/-- A check on a value that both have runs alike. -/
theorem runs_alike_throw_if (c : Prop) [Decidable c] (e : Exception) :
    RunsAlike (throw_if c e : App Unit) := by
  rw [throw_if]
  split
  · exact runs_alike_throw e
  · exact runs_alike_pure ()

/-- So does a conditional step. -/
theorem runs_alike_run_if (c : Prop) [Decidable c] {p : App Unit} (hp : RunsAlike p) :
    RunsAlike (run_if c p) := by
  rw [run_if]
  split
  · exact hp
  · exact runs_alike_pure ()

/-- A printer runs alike on summaries that are the same. -/
theorem runs_alike_run_printer (p : SummaryM α) : RunsAlike (run_printer p) := by
  refine runs_alike_get_bind fun log₁ log₂ a b hab => ?_
  rw [hab.summary_eq]
  cases p.exec b.G_transaction_summary with
  | none => exact runs_alike_throw _ log₁ log₂
  | some r =>
    refine runs_alike_bind (runs_alike_modify fun _ _ s t h => ?_)
      (fun _ => runs_alike_pure r.1) log₁ log₂
    exact ⟨⟨h.command, h.settings, h.called, h.screen, fun _ => rfl, h.key, h.tx, h.log⟩, rfl⟩

end Programs

/-- Opening a review looks at the command alone. -/
theorem runs_alike_start_sign_ui : RunsAlike start_sign_ui := by
  refine runs_alike_get_bind fun log₁ log₂ a b hab => ?_
  rw [hab.command]
  refine runs_alike_bind (runs_alike_modify fun _ _ s t h => ⟨h.with_log _, h.summary_eq⟩)
    (fun _ => runs_alike_modify fun _ _ s t h => ?_) log₁ log₂
  exact ⟨⟨h.command, h.settings, h.called, rfl, fun _ => h.summary_eq, nofun, h.tx, h.log⟩,
    h.summary_eq⟩

/-- Summarizing a message looks at the message and the settings. -/
theorem runs_alike_summarize_message (parser : Parser) (print_config : PrintConfig) :
    RunsAlike (summarize_message device parser print_config) := by
  refine runs_alike_bind (runs_alike_run_printer _) fun processed => ?_
  cases processed with
  | some u => exact runs_alike_pure ()
  | none =>
    refine runs_alike_get_bind fun log₁ log₂ a b hab => ?_
    rw [hab.command, hab.settings]
    exact runs_alike_bind (runs_alike_throw_if _ _) (fun _ =>
      runs_alike_bind (runs_alike_run_printer _) fun _ =>
        runs_alike_bind (runs_alike_modify fun _ _ s t h =>
          ⟨h.with_hash fun _ => device.cx_hash_sha256 b.G_command.payload, h.summary_eq⟩) fun _ =>
          runs_alike_bind (runs_alike_run_printer _) fun _ => runs_alike_pure ()) log₁ log₂

/-- The fee payer is read off the message. -/
theorem runs_alike_add_fee_payer (print_config : PrintConfig) (fee_payer : PubkeyRef) :
    RunsAlike (add_fee_payer print_config fee_payer) := by
  refine runs_alike_run_if _ (runs_alike_modify fun _ _ s t h => ?_)
  rw [h.summary_eq]
  exact ⟨⟨h.command, h.settings, h.called, h.screen, fun _ => rfl, h.key, h.tx, h.log⟩, rfl⟩

/-- Outside of a swap the summary is put up for review. -/
theorem runs_alike_handle_sign_message_ui : RunsAlike handle_sign_message_ui := by
  refine runs_alike_get_bind fun log₁ log₂ a b hab => ?_
  rw [hab.summary_eq, hab.called.1, hab.called.2]
  split
  · exact runs_alike_throw _ log₁ log₂
  · exact runs_alike_start_sign_ui log₁ log₂

/-! ## The commands -/

/-- A key of the table is read from the message. -/
theorem pubkey_at_alike (h : s.G_command = t.G_command) {header : MessageHeader} {body : Parser}
    (hparsed : parse_message_header ⟨0, s.G_command.payload⟩ = some (header, body)) {i : ℕ}
    (hi : i < header.pubkeys.keys.length) :
    pubkey_at device s header.pubkeys i = pubkey_at device t header.pubkeys i := by
  have hlies := parse_message_header_lies hparsed
  rw [(pubkey_at_eq hlies hi).1, (pubkey_at_eq (s := t) (h ▸ hlies) hi).1]

/-- So the search for the signer finds the same one. -/
theorem scan_header_for_signer_alike (h : s.G_command = t.G_command) {header : MessageHeader}
    {body : Parser}
    (hparsed : parse_message_header ⟨0, s.G_command.payload⟩ = some (header, body))
    (hin : header.pubkeys_header.num_required_signatures.toNat ≤ header.pubkeys.keys.length) :
    scan_header_for_signer device s header = scan_header_for_signer device t header := by
  rw [scan_header_for_signer, scan_header_for_signer, h]
  refine List.find?_congr fun i hi => ?_
  rw [List.mem_range] at hi
  rw [pubkey_at_alike h hparsed (Nat.lt_of_lt_of_le hi hin)]

/-- Runs from alike states that end alike. -/
def EndsAlike (log₁ log₂ : List Event) (p : App Unit) (s t : AppState) : Prop :=
  SameEnd (Alike log₁ log₂) Eq Eq (p.run.run s) (p.run.run t)

/-- What runs alike ends alike, from states that are alike. -/
theorem RunsAlike.ends {p : App Unit} (hp : RunsAlike p) (h : AlikeSummary log₁ log₂ s t) :
    EndsAlike log₁ log₂ p s t :=
  (hp log₁ log₂ s t h).mono fun _ _ h => h.toAlike

/-- The message's handler ends alike. The signers have to be in the table: behind it the
handler reads bytes that the command does not determine. -/
theorem sign_message_alike (h : Alike log₁ log₂ s t) (hin : SignersInTable s.G_command.payload) :
    EndsAlike log₁ log₂ (handle_sign_message device) s t := by
  have hheader : parse_command_header t = parse_command_header s := by
    rw [parse_command_header, parse_command_header, h.command]
  rw [EndsAlike, handle_sign_message, handle_sign_message_parse_message]
  simp only [bind_assoc, get_bind]
  rw [hheader, h.command]
  refine SameEnd.bind (simulates_throw_if Iff.rfl rfl s t h) fun _ _ s₁ t₁ _ h₁ => ?_
  cases hparse : parse_command_header s with
  | error e => exact ⟨rfl, h₁⟩
  | ok parsed =>
    obtain ⟨header, body⟩ := parsed
    have hparsed : parse_message_header ⟨0, s.G_command.payload⟩ = some (header, body) := by
      rw [parse_command_header] at hparse
      split at hparse
      · rename_i hsome
        cases hparse
        exact hsome
      · cases hparse
    have htable : header.pubkeys_header.num_required_signatures.toNat ≤
        header.pubkeys.keys.length := by
      rw [SignersInTable, hparsed] at hin
      exact of_decide_eq_true hin
    have hfind : find_signer device t header = find_signer device s header := by
      rw [find_signer, find_signer, scan_header_for_signer_alike h.command hparsed htable]
    change SameEnd _ _ _ ((of_except (find_signer device s header) >>= _ : App Unit).run.run s₁)
      ((of_except (find_signer device t header) >>= _ : App Unit).run.run t₁)
    rw [hfind]
    cases hsigner : find_signer device s header with
    | error e => exact ⟨rfl, h₁⟩
    | ok signer_index =>
      -- The signer was found in the table, which therefore has a first key.
      have hfound : scan_header_for_signer device s header = some signer_index := by
        rw [find_signer] at hsigner
        split at hsigner
        · rename_i hsome
          cases hsigner
          exact hsome
        · cases hsigner
      have hindex : signer_index < header.pubkeys.keys.length :=
        Nat.lt_of_lt_of_le (scan_header_for_signer_found hfound).1 htable
      have hconfig : sign_print_config device t header signer_index =
          sign_print_config device s header signer_index := by
        rw [sign_print_config, sign_print_config, h.settings,
          pubkey_at_alike h.command hparsed hindex]
      have hpayer : pubkey_at device t header.pubkeys 0 = pubkey_at device s header.pubkeys 0 :=
        (pubkey_at_alike h.command hparsed (Nat.zero_lt_of_lt hindex)).symm
      change SameEnd _ _ _
        ((do
          THROW_IF t.G_command.non_confirm .ApduReplySdkNotSupported
          reset_summary
          summarize_message device body (sign_print_config device s header signer_index)
          add_fee_payer (sign_print_config device s header signer_index)
            (pubkey_at device s header.pubkeys 0)
          handle_sign_message_ui : App Unit).run.run s₁)
        ((do
          THROW_IF t.G_command.non_confirm .ApduReplySdkNotSupported
          reset_summary
          summarize_message device body (sign_print_config device t header signer_index)
          add_fee_payer (sign_print_config device t header signer_index)
            (pubkey_at device t header.pubkeys 0)
          handle_sign_message_ui : App Unit).run.run t₁)
      rw [hconfig, hpayer]
      refine SameEnd.bind (simulates_throw_if Iff.rfl rfl s₁ t₁ h₁) fun _ _ s₂ t₂ _ h₂ => ?_
      rw [reset_summary, modify_bind, modify_bind]
      exact RunsAlike.ends (runs_alike_bind (runs_alike_summarize_message _ _) fun _ =>
        runs_alike_bind (runs_alike_add_fee_payer _ _) fun _ => runs_alike_handle_sign_message_ui)
        h₂.reset

/-- The off-chain handler ends alike, with no condition. -/
theorem sign_offchain_message_alike (h : Alike log₁ log₂ s t) :
    EndsAlike log₁ log₂ (handle_sign_offchain_message device) s t := by
  have hheader : parse_command_offchain_header s = parse_command_offchain_header t := by
    rw [parse_command_offchain_header, parse_command_offchain_header, h.command]
  have hcheck : check_offchain_message s = check_offchain_message t := by
    funext header
    rw [check_offchain_message, check_offchain_message, h.command, h.settings]
  rw [EndsAlike, handle_sign_offchain_message]
  simp only [get_bind]
  rw [hheader, hcheck, h.command, h.settings]
  refine SameEnd.bind (simulates_throw_if Iff.rfl rfl s t h) fun _ _ s₁ t₁ _ h₁ => ?_
  refine SameEnd.bind (simulates_throw_if Iff.rfl rfl s₁ t₁ h₁) fun _ _ s₂ t₂ _ h₂ => ?_
  refine SameEnd.bind (simulates_of_except _ s₂ t₂ h₂) fun header _ s₃ t₃ hsame h₃ => ?_
  subst hsame
  refine SameEnd.bind (simulates_of_except _ s₃ t₃ h₃) fun is_ascii _ s₄ t₄ hsame h₄ => ?_
  subst hsame
  refine SameEnd.bind (R := Alike log₁ log₂) (A := Eq) ?_ fun _ _ s₅ t₅ _ h₅ => ?_
  · rw [run_if_modify, run_if_modify]
    refine ⟨rfl, ?_⟩
    split
    · exact h₄.with_hash fun command => device.cx_hash_sha256 command.payload
    · exact h₄
  · rw [reset_summary, modify_bind, modify_bind]
    refine RunsAlike.ends (runs_alike_bind (runs_alike_gets fun _ _ a b hab => ?_) fun _ =>
      runs_alike_bind (runs_alike_run_printer _) fun _ =>
        runs_alike_get_bind fun log₁ log₂ a b hab => ?_) h₅.reset
    · rw [hab.command]
    · rw [hab.summary_eq]
      split
      · exact runs_alike_throw _ log₁ log₂
      · exact runs_alike_start_sign_ui log₁ log₂

/-- The key that was asked for is computed anew. -/
theorem get_pubkey_alike (h : Alike log₁ log₂ s t)
    (hs : s.G_publicKeyStr.length = BASE58_PUBKEY_LENGTH)
    (ht : t.G_publicKeyStr.length = BASE58_PUBKEY_LENGTH) :
    EndsAlike log₁ log₂ (handle_get_pubkey device) s t := by
  by_cases hcommand : s.G_command.instruction = some .InsGetPubkey ∧
      s.G_command.state = .ApduStatePayloadComplete
  · have hkey : (s.with_key device).G_publicKey = (t.with_key device).G_publicKey := by
      rw [AppState.with_key, AppState.with_key, h.command]
    rw [EndsAlike, handle_get_pubkey_run hs hcommand.1 hcommand.2,
      handle_get_pubkey_run ht (h.command ▸ hcommand.1) (h.command ▸ hcommand.2), h.command]
    split
    · refine ⟨rfl, h.command, h.settings, h.called, h.screen, h.summary, fun _ => hkey, ?_, h.log⟩
      exact congrArg (fun key : Pubkey => ResponseData.bytes key.data) hkey
    · refine ⟨rfl, h.command, h.settings, h.called, rfl, fun hreview => ?_, fun _ => hkey, h.tx,
        h.log⟩
      cases hreview
  · have hrefused : s.G_command.instruction ≠ some .InsGetPubkey ∨
        s.G_command.state ≠ .ApduStatePayloadComplete := not_and_or.mp hcommand
    rw [EndsAlike, handle_get_pubkey_refuses hrefused,
      handle_get_pubkey_refuses (h.command ▸ hrefused)]
    exact ⟨rfl, h⟩

/-- The configuration is read from the settings. -/
theorem get_app_configuration_alike (h : Alike log₁ log₂ s t) :
    EndsAlike log₁ log₂ handle_get_app_configuration s t := by
  rw [EndsAlike, handle_get_app_configuration, get_bind, get_bind, modify_bind, modify_bind,
    h.settings]
  exact ⟨rfl, h.command, rfl, h.called, h.screen, h.summary, h.key, rfl, h.log⟩

/-- Every handler ends alike on the same command. -/
theorem dispatch_alike (h : Alike log₁ log₂ s t)
    (hs : s.G_publicKeyStr.length = BASE58_PUBKEY_LENGTH)
    (ht : t.G_publicKeyStr.length = BASE58_PUBKEY_LENGTH)
    (hin : s.G_command.instruction = some .InsSignMessage → SignersInTable s.G_command.payload) :
    EndsAlike log₁ log₂ (dispatch_command device) s t := by
  rw [EndsAlike, dispatch_command, get_bind, get_bind, ← h.command]
  cases hinstruction : s.G_command.instruction with
  | none => exact ⟨rfl, h⟩
  | some instruction =>
    cases instruction with
    | InsGetAppConfiguration => exact get_app_configuration_alike h
    | InsGetPubkey => exact get_pubkey_alike h hs ht
    | InsSignMessage => exact sign_message_alike h (hin hinstruction)
    | InsSignOffchainMessage => exact sign_offchain_message_alike h

/-! ## Receiving an APDU -/

/-- The APDU is received in the same way, whichever of the two commands is held. -/
def ReceivedAlike (m : List UInt8) (c c' : ApduCommand) : Prop :=
  ((apdu_handle_message m).run.run c).1 = ((apdu_handle_message m).run.run c').1 ∧
    (((apdu_handle_message m).run.run c).1 = .ok () →
      ((apdu_handle_message m).run.run c).2 = ((apdu_handle_message m).run.run c').2)

/-- Which APDUs do not go on with a command: those for the configuration or for a key,
first chunks, and those whose header does not parse. -/
def NewCommand (m : List UInt8) : Prop :=
  ∀ header, parse_apdu_header m = .ok header → header.instruction = .InsGetAppConfiguration ∨
    header.instruction = .InsGetPubkey ∨ header.first_data_chunk = true

instance (m : List UInt8) : Decidable (NewCommand m) :=
  match hparse : parse_apdu_header m with
  | .error _ => isTrue fun _ h => nomatch hparse.symm.trans h
  | .ok header => decidable_of_iff (header.instruction = .InsGetAppConfiguration ∨
      header.instruction = .InsGetPubkey ∨ header.first_data_chunk = true)
      ⟨fun h _ hok => Except.ok.inj (hparse.symm.trans hok) ▸ h, fun h => h header hparse⟩

/-- They clear the command that is held, or are refused. -/
theorem NewCommand.received {m : List UInt8} (h : NewCommand m) (c c' : ApduCommand) :
    ReceivedAlike m c c' := by
  rw [ReceivedAlike, apdu_handle_message]
  cases hparse : parse_apdu_header m with
  | error reply =>
    refine ⟨rfl, fun hok => ?_⟩
    cases hok
  | ok header =>
    have hsame :
        (handle_apdu_header header).run.run c = (handle_apdu_header header).run.run c' := by
      rw [handle_apdu_header]
      by_cases hconfiguration : header.instruction = .InsGetAppConfiguration
      · rw [if_pos hconfiguration]
        rfl
      · have hclears : header.instruction = .InsGetPubkey ∨ header.first_data_chunk = true :=
          (h header hparse).resolve_left hconfiguration
        rw [if_neg hconfiguration, begin_chunk, if_pos hclears, set_bind, set_bind]
    change ((handle_apdu_header header).run.run c).1 = ((handle_apdu_header header).run.run c').1 ∧
      _
    rw [hsame]
    exact ⟨rfl, fun _ => congrArg Prod.snd hsame⟩

/-- The message that an APDU completes names no more signers than its table has keys.
Without it the search for the signer reads memory that is no part of the state. -/
def NamesItsSigners (s : AppState) : Input → Prop
  | .apdu m => (command_after m s.G_command).instruction = some .InsSignMessage →
      SignersInTable (command_after m s.G_command).payload
  | _ => True

instance (s : AppState) : ∀ i, Decidable (NamesItsSigners s i)
  | .apdu m =>
    inferInstanceAs (Decidable (_ → SignersInTable (command_after m s.G_command).payload))
  | .approve => inferInstanceAs (Decidable True)
  | .reject => inferInstanceAs (Decidable True)

/-- States that are alike as soon as they hold the same command, which they do after an APDU. -/
theorem handleApdu_alike {m : List UInt8}
    (h : ∀ command, Alike log₁ log₂ (s.with_command command) (t.with_command command))
    (hreceived : ReceivedAlike m s.G_command t.G_command)
    (hs : s.G_publicKeyStr.length = BASE58_PUBKEY_LENGTH)
    (ht : t.G_publicKeyStr.length = BASE58_PUBKEY_LENGTH) (hin : NamesItsSigners s (.apdu m)) :
    EndsAlike log₁ log₂ (handleApdu device m) s t := by
  obtain ⟨hresult, hcommand⟩ := hreceived
  rw [NamesItsSigners, command_after] at hin
  rcases hrun : (apdu_handle_message m).run.run s.G_command with ⟨reply | u, c⟩
  · rcases hrun' : (apdu_handle_message m).run.run t.G_command with ⟨r', c'⟩
    rw [hrun, hrun'] at hresult
    obtain rfl : .error reply = r' := hresult
    rw [EndsAlike, handleApdu, bind_of_error (receive_apdu_error hrun),
      bind_of_error (receive_apdu_error hrun')]
    exact ⟨rfl, h ApduCommand.cleared⟩
  · rcases hrun' : (apdu_handle_message m).run.run t.G_command with ⟨r', c'⟩
    rw [hrun, hrun'] at hresult hcommand
    rw [hrun] at hin
    obtain rfl : .ok u = r' := hresult
    obtain rfl : c = c' := hcommand rfl
    by_cases hstate : c.state = .ApduStatePayloadInProgress
    · rw [EndsAlike, handleApdu, bind_of_error (receive_apdu_in_progress hrun hstate),
        bind_of_error (receive_apdu_in_progress hrun' hstate)]
      exact ⟨rfl, h c⟩
    · rw [EndsAlike, handleApdu, bind_of_ok (receive_apdu_complete hrun hstate),
        bind_of_ok (receive_apdu_complete hrun' hstate)]
      exact dispatch_alike (h c) hs ht hin

/-! ## Steps -/

/-- The status word that ends a round is the same. -/
theorem end_round_alike {r r' : Except Exception Unit × AppState}
    (h : SameEnd (Alike log₁ log₂) Eq Eq r r') : Alike log₁ log₂ (end_round r) (end_round r') := by
  rcases r with ⟨e | u, s⟩
  · rcases r' with ⟨e' | u', t⟩
    · obtain ⟨rfl, h⟩ := h
      cases e with
      | THROW reply =>
        have hevent : Event.response t.tx reply = .response s.tx reply := by rw [h.tx]
        rw [end_round, end_round, hevent]
        exact h.with_log _
      | stop => exact ⟨h.command, h.settings, h.called, h.screen, h.summary, h.key, h.tx, h.log⟩
    · cases h
  · rcases r' with ⟨e' | u', t⟩
    · cases h
    · exact h.2

variable {s' t' : AppState}

/-- The step lemma: from alike states an APDU that begins a command leads to alike
states. -/
theorem apdu_alike {m : List UInt8} (hm : m ≠ [])
    (h : ∀ command, Alike log₁ log₂ (s.begin_round.with_command command)
      (t.begin_round.with_command command))
    (hreceived : ReceivedAlike m s.G_command t.G_command)
    (hs : s.G_publicKeyStr.length = BASE58_PUBKEY_LENGTH)
    (ht : t.G_publicKeyStr.length = BASE58_PUBKEY_LENGTH) (hin : NamesItsSigners s (.apdu m))
    (hstep : step device s (.apdu m) = some s') (hstep' : step device t (.apdu m) = some t') :
    Alike log₁ log₂ s' t' := by
  obtain rfl := step_apdu hm hstep
  obtain rfl := step_apdu hm hstep'
  exact end_round_alike (handleApdu_alike h hreceived hs ht hin)

/-- The approve button sends the same. -/
theorem Alike.to_approve (h : Alike log₁ log₂ s t) (hopen : s.screen ≠ .idle) :
    s.to_approve = t.to_approve := by
  rw [AppState.to_approve, AppState.to_approve, ← h.screen]
  cases hscreen : s.screen with
  | idle => exact absurd hscreen hopen
  | sign_review =>
    dsimp only
    rw [h.command]
  | pubkey_review =>
    dsimp only
    rw [h.key hscreen]

/-- A button closes the review in both states. -/
theorem Alike.closed (h : Alike log₁ log₂ s t) (tx : ResponseData) (sw : ApduReply) :
    Alike log₁ log₂ { s with log := s.log ++ [.response tx sw], screen := .idle }
      { t with log := t.log ++ [.response tx sw], screen := .idle } :=
  ⟨h.command, h.settings, h.called, rfl, nofun, nofun, h.tx, (h.with_log _).log⟩

/-- **No input makes a difference.** -/
theorem Alike.step (h : Alike log₁ log₂ s t)
    (hs : s.G_publicKeyStr.length = BASE58_PUBKEY_LENGTH)
    (ht : t.G_publicKeyStr.length = BASE58_PUBKEY_LENGTH) {i : Input} (hin : NamesItsSigners s i)
    (hstep : step device s i = some s') (hstep' : step device t i = some t') :
    Alike log₁ log₂ s' t' := by
  have hbegin : Alike log₁ log₂ s.begin_round t.begin_round :=
    ⟨h.command, h.settings, h.called, h.screen, h.summary, h.key, rfl, h.log⟩
  cases i with
  | apdu m =>
    by_cases hm : m = []
    · subst hm
      obtain rfl := step_no_apdu hstep
      obtain rfl := step_no_apdu hstep'
      exact hbegin.with_log _
    · refine apdu_alike hm (fun command => ?_) ?_ hs ht hin hstep hstep'
      · exact ⟨rfl, h.settings, h.called, h.screen, h.summary, h.key, rfl, h.log⟩
      · rw [h.command]
        exact ⟨rfl, fun _ => rfl⟩
  | approve =>
    obtain ⟨-, rfl⟩ := step_eq_some.mp hstep
    obtain ⟨-, rfl⟩ := step_eq_some.mp hstep'
    by_cases hopen : s.screen = .idle
    · rw [run_input, approve, get_bind, get_bind, ← h.screen, hopen]
      exact h
    · rw [run_input, approve_open hopen, approve_open (h.screen ▸ hopen),
        sendResponse_dashboard h.called.1, sendResponse_dashboard h.called.2, h.to_approve hopen]
      exact h.closed _ _
  | reject =>
    obtain ⟨-, rfl⟩ := step_eq_some.mp hstep
    obtain ⟨-, rfl⟩ := step_eq_some.mp hstep'
    rw [run_input, reject, get_bind, get_bind, ← h.screen]
    split
    · exact h
    · rw [sendResponse_dashboard h.called.1, sendResponse_dashboard h.called.2]
      exact h.closed _ _

/-! ## Runs -/

/-- **A command is answered on its own.** Of two runs of an app that the user has started with the
same settings, which have come to an idle screen in any way, let both take the same inputs from
here on, the first of them an APDU that begins a command. Then the same is sent, and the same is on
the screen: the screens are made of the command, the settings and the summary, or of the address of
the key. -/
theorem commands_are_independent {settings : AppSettings} {inputs inputs' rest : List Input}
    {m : List UInt8} {s₁ t₁ : AppState}
    (hrun : Run (step device) (coin_main settings) inputs s)
    (hrun' : Run (step device) (coin_main settings) inputs' t)
    (hidle : s.screen = .idle) (hidle' : t.screen = .idle)
    (hm : m ≠ []) (hbegins : NewCommand m)
    (hnames : NamesItsSigners s (.apdu m))
    (hstep : step device s (.apdu m) = some s₁) (hstep' : step device t (.apdu m) = some t₁)
    (hrest : GuardedRun (step device) NamesItsSigners s₁ rest s')
    (hrest' : Run (step device) t₁ rest t') :
    (∃ events, s'.log = s.log ++ events ∧ t'.log = t.log ++ events) ∧ s'.screen = t'.screen ∧
      s'.G_command = t'.G_command ∧ s'.settings = t'.settings ∧
      (s'.screen = .sign_review → s'.G_transaction_summary = t'.G_transaction_summary) ∧
      (s'.screen = .pubkey_review → s'.G_publicKey = t'.G_publicKey ∧
        c_str s'.G_publicKeyStr = c_str t'.G_publicKeyStr) := by
  have hs := (run_dashboard (P := fun _ _ => True) trivial (fun _ _ _ _ _ _ _ _ _ => trivial)
    hrun).2
  have ht := (run_dashboard (P := fun _ _ => True) trivial (fun _ _ _ _ _ _ _ _ _ => trivial)
    hrun').2
  have hfirst : Alike s.log t.log s₁ t₁ := by
    refine apdu_alike hm (fun command => ?_) (hbegins.received _ _) hs.address.size
      ht.address.size hnames hstep hstep'
    refine ⟨rfl, hs.settings_eq.trans ht.settings_eq.symm, ⟨hs.called, ht.called⟩,
      hidle.trans hidle'.symm, fun hreview => ?_, fun hreview => ?_, rfl, [],
      (List.append_nil _).symm, (List.append_nil _).symm⟩
    · cases hidle.symm.trans hreview
    · cases hidle.symm.trans hreview
  have hlast := GuardedRun.lockstep
    (R := fun a b => Alike s.log t.log a b ∧ (∃ history, Dashboard device settings history a) ∧
      ∃ history, Dashboard device settings history b)
    ⟨hfirst, ⟨_, (hs.step hstep).2⟩, ⟨_, (ht.step hstep').2⟩⟩ ?_ hrest hrest'
  · obtain ⟨h, ⟨_, ha⟩, ⟨_, hb⟩⟩ := hlast
    refine ⟨h.log, h.screen, h.command, h.settings, h.summary, fun hreview => ⟨h.key hreview, ?_⟩⟩
    -- the text is the address of the key in both
    have htext : c_str s'.G_publicKeyStr = base58 s'.G_publicKey.data :=
      (ha.address.shown hreview).1
    have htext' : c_str t'.G_publicKeyStr = base58 t'.G_publicKey.data :=
      (hb.address.shown (h.screen.symm.trans hreview)).1
    rw [htext, htext', h.key hreview]
  · rintro a b i a' b' ⟨h, ⟨history, ha⟩, ⟨history', hb⟩⟩ hin hi hi'
    exact ⟨h.step ha.address.size hb.address.size hin hi hi', ⟨_, (ha.step hi).2⟩,
      ⟨_, (hb.step hi').2⟩⟩

/-- A transfer is reviewed and approved, after a key has been sent or as the first command. -/
theorem transfer_is_independent : ∃ s s₁ s' t₁ t',
    Run (step nines_device) (coin_main user_settings)
      [.apdu (chunk_apdu .InsGetPubkey P1_NON_CONFIRM 0 coin_path.encode)] s ∧
    step nines_device s (sign_apdu (transfer_to (Pubkey.fill 8)) false) = some s₁ ∧
    GuardedRun (step nines_device) NamesItsSigners s₁ [.approve] s' ∧
    step nines_device (coin_main user_settings)
      (sign_apdu (transfer_to (Pubkey.fill 8)) false) = some t₁ ∧
    Run (step nines_device) t₁ [.approve] t' ∧
    ∃ events, s'.log = s.log ++ events ∧ t'.log = (coin_main user_settings).log ++ events := by
  have hany : ∃ s, GuardedRun (step nines_device) (fun _ _ => True) (coin_main user_settings)
      [.apdu (chunk_apdu .InsGetPubkey P1_NON_CONFIRM 0 coin_path.encode)] s ∧
      (s.screen = .idle ∧ NamesItsSigners s (sign_apdu (transfer_to (Pubkey.fill 8)) false)) ∧
      (step nines_device s (sign_apdu (transfer_to (Pubkey.fill 8)) false)).any (fun s₁ =>
        (run_guarded (step nines_device) NamesItsSigners s₁ [.approve]).isSome) = true :=
    GuardedRun.any (by decide +kernel)
  have hany' : (step nines_device (coin_main user_settings)
      (sign_apdu (transfer_to (Pubkey.fill 8)) false)).any (fun t₁ =>
        (run_guarded (step nines_device) (fun _ _ => True) t₁ [.approve]).isSome) = true := by
    decide +kernel
  obtain ⟨s, hrun, ⟨hidle, hnames⟩, hsteps⟩ := hany
  obtain ⟨s₁, hstep, hrest⟩ := (Option.any_eq_true _ _).mp hsteps
  obtain ⟨t₁, hstep', hrest'⟩ := (Option.any_eq_true _ _).mp hany'
  obtain ⟨s', hs'⟩ := Option.isSome_iff_exists.mp hrest
  obtain ⟨t', ht'⟩ := Option.isSome_iff_exists.mp hrest'
  have hs' := GuardedRun.of_run_guarded hs'
  have ht' := (GuardedRun.of_run_guarded ht').toRun
  have hbegins : NewCommand (sign_apdu_bytes (transfer_to (Pubkey.fill 8)) false) := by
    decide +kernel
  exact ⟨s, s₁, s', t₁, t', hrun.toRun, hstep, hs', hstep', ht',
    (commands_are_independent hrun.toRun Run.start hidle rfl (by exact List.cons_ne_nil _ _) hbegins
      hnames hstep hstep' hs' ht').1⟩

/-- A device on which the key that was asked for lies four bytes behind the message. -/
def neighbour_device : Device :=
  { nines_device with byte_after_message := fun s i => s.G_publicKey.data.getD (i - 4) 0 }

/-- A message that names more signers than it has keys. -/
def endless_message : List UInt8 :=
  { transfer_message 41 [Pubkey.fill 1, Pubkey.fill 2, system_program_id] with
    blockhash := Hash.fill 8 : MessageValue }.encode

/-- The condition is needed: such a message is refused, or is reviewed after the key has been asked
for. -/
theorem endless_message_sees_key : ∃ s s₁ t₁,
    Run (step neighbour_device) (coin_main user_settings)
      [.apdu (chunk_apdu .InsGetPubkey P1_NON_CONFIRM 0 coin_path.encode)] s ∧
    step neighbour_device s (sign_apdu endless_message false) = some s₁ ∧
    step neighbour_device (coin_main user_settings) (sign_apdu endless_message false) = some t₁ ∧
    s₁.screen = .sign_review ∧ t₁.screen = .idle := by
  have hany : ∃ s, GuardedRun (step neighbour_device) (fun _ _ => True) (coin_main user_settings)
      [.apdu (chunk_apdu .InsGetPubkey P1_NON_CONFIRM 0 coin_path.encode)] s ∧
      (step neighbour_device s (sign_apdu endless_message false)).any
        (fun s₁ => s₁.screen = .sign_review) = true := GuardedRun.any (by decide +kernel)
  have hany' : (step neighbour_device (coin_main user_settings)
      (sign_apdu endless_message false)).any (fun t₁ => t₁.screen = .idle) = true := by
    decide +kernel
  obtain ⟨s, hrun, hstep⟩ := hany
  obtain ⟨s₁, hs₁, hreview⟩ := (Option.any_eq_true _ _).mp hstep
  obtain ⟨t₁, ht₁, hidle⟩ := (Option.any_eq_true _ _).mp hany'
  exact ⟨s, s₁, t₁, hrun.toRun, hs₁, ht₁, of_decide_eq_true hreview, of_decide_eq_true hidle⟩

end RenecLedger
