/-
What the exchange app asks for: `src/swap/handle_check_address.c`,
`src/swap/handle_get_printable_amount.c`, and `library_main_helper` in `src/main.c`.

The exchange app calls this app as a library, to check the user's own address, to have an amount
printed, and to sign. The answers fit together: an address passes exactly when it is the one that
the app shows for the same path (`check_address_agrees`), and what is signed in the end pays the
amount that was printed to the address that was handed over (`exchange_signs_what_was_shown`).
-/
import RenecLedger.Consent
import RenecLedger.SwapParameters

set_option autoImplicit false

open MachineLib ProgramLib

namespace RenecLedger

/-! ## Checking an address -/

/-- `check_address_parameters_t`, with what its pointers point to: `none` is `NULL`. The
result is written to the same structure in C and is the value of the function here. -/
structure CheckAddressParameters where
  coin_configuration : Option (List UInt8)
  coin_configuration_length : UInt8
  address_parameters : Option (List UInt8)
  address_parameters_length : UInt8
  address_parameters_size : ∀ bytes, address_parameters = some bytes →
    bytes.length = address_parameters_length.toNat
  address_to_check : Option CString
  extra_id_to_check : Option CString

/-- The return code, and the address when that is 0. The buffer lies on the stack. -/
def derive_public_key (device : Device) (buffer public_key_str : List UInt8) : PrintResult :=
  match read_derivation_path (some buffer) with
  | .error _ => some (1, public_key_str)
  | .ok derivation_path =>
    encode_base58 (device.get_public_key derivation_path).data public_key_str BASE58_PUBKEY_LENGTH

/-- 1 if the address is that of the derivation path, else 0. The buffer for the derived
address is on the stack, and begins with whatever was there. -/
def handle_check_address (device : Device) (params : CheckAddressParameters)
    (public_key_str : List UInt8) : Option ℕ := do
  if params.coin_configuration.isSome ∨ params.coin_configuration_length ≠ 0 then return 0
  match params.address_parameters, params.address_to_check, params.extra_id_to_check with
  | some address_parameters, some address_to_check, some extra_id_to_check =>
    if extra_id_to_check.chars.headD 0 ≠ 0 then return 0
    let (rc, public_key_str) ← derive_public_key device address_parameters public_key_str
    if rc ≠ 0 then return 0
    if !strcmp_equal address_to_check.chars public_key_str then return 0
    return 1
  | _, _, _ => return 0

/-! ## Printing an amount -/

/-- `get_printable_amount_parameters_t`; `is_fee` is not read. -/
structure GetPrintableAmountParameters where
  coin_configuration : Option (List UInt8)
  coin_configuration_length : UInt8
  amount : List UInt8
  amount_length : UInt8
  amount_size : amount.length = amount_length.toNat

/-- 0 on error, 1 otherwise, and what is left in `printable_amount`. -/
def handle_get_printable_amount (params : GetPrintableAmountParameters) :
    Option (ℕ × List UInt8) := do
  let printable_amount := List.replicate MAX_PRINTABLE_AMOUNT_SIZE 0
  if params.coin_configuration.isSome ∨ params.coin_configuration_length ≠ 0 then
    return (0, printable_amount)
  match swap_str_to_u64 params.amount params.amount_length.toNat with
  | none => return (0, printable_amount)
  | some amount =>
    let (rc, printable_amount) ←
      print_amount amount printable_amount MAX_PRINTABLE_AMOUNT_SIZE
    if rc ≠ 0 then return (0, printable_amount)
    return (1, printable_amount)

/-! ## The library -/

/-- `libargs_t`, by the command. -/
inductive LibArgs
  | CHECK_ADDRESS (check_address : CheckAddressParameters)
  | SIGN_TRANSACTION (create_transaction : CreateTransactionParameters)
  | GET_PRINTABLE_AMOUNT (get_printable_amount : GetPrintableAmountParameters)
  | unknown (command : UInt32)

/-- What the command leaves for the exchange app; for a transaction, the app that is
started and does not return. An unknown command leaves nothing. -/
inductive LibReply
  | check_address (result : ℕ)
  | app_main (s : AppState)
  | printable_amount (printable_amount : List UInt8)
  | nothing
deriving DecidableEq

/-- The library is loaded with a stack and its globals as they are. -/
def library_main_helper (device : Device) (settings : AppSettings) (stack : List UInt8)
    (g : SwapGlobals) : LibArgs → Option LibReply
  | .CHECK_ADDRESS check_address => do
    let result ← handle_check_address device check_address stack
    return .check_address result
  | .SIGN_TRANSACTION create_transaction => do
    let (copied, g) ← copy_transaction_parameters create_transaction g
    if copied then return .app_main (start_app_from_lib settings g.G_swap_validated)
    else return .nothing
  | .GET_PRINTABLE_AMOUNT get_printable_amount => do
    let (_, printable_amount) ← handle_get_printable_amount get_printable_amount
    return .printable_amount printable_amount
  | .unknown _ => return .nothing

/-- The byte that the exchange app gets for a transaction, before `os_lib_end`. It is
written through an address that was kept when the parameters were copied. -/
def finalize_exchange_sign_transaction (is_success : Bool) : UInt8 := is_success.toUInt8

/-! ## Which addresses pass -/

variable {device : Device}

/-- The parameters ask for the address of this path. -/
def CheckAddressParameters.AsksFor (params : CheckAddressParameters) (path : DerivationPath)
    (address : CString) : Prop :=
  params.coin_configuration = none ∧ params.coin_configuration_length = 0 ∧
    (∃ rest, params.address_parameters = some (path.encode ++ rest)) ∧
    params.address_to_check = some address ∧
    ∃ extra_id, params.extra_id_to_check = some extra_id ∧ extra_id.chars = []

theorem derive_public_key_path (path : DerivationPath) (rest : List UInt8)
    {public_key_str : List UInt8} (hsize : public_key_str.length = BASE58_PUBKEY_LENGTH) :
    derive_public_key device (path.encode ++ rest) public_key_str =
      some (0, base58 (device.get_public_key path.words).data ++
        0 :: public_key_str.drop
          ((base58 (device.get_public_key path.words).data).length + 1)) := by
  have hread : read_derivation_path (some (path.encode ++ rest)) = .ok path.words :=
    read_derivation_path_iff.mpr ⟨path, rest, rfl, rfl⟩
  rw [derive_public_key, hread]
  exact encode_base58_key _ hsize

/-- What is asked for is answered. -/
theorem check_address_asked {params : CheckAddressParameters} {path : DerivationPath}
    {address : CString} (h : params.AsksFor path address) {public_key_str : List UInt8}
    (hsize : public_key_str.length = BASE58_PUBKEY_LENGTH) :
    handle_check_address device params public_key_str =
      some (if address.chars = base58 (device.get_public_key path.words).data then 1 else 0) := by
  obtain ⟨hconfiguration, hlength, ⟨rest, hparameters⟩, haddress, extra_id, hextra, hempty⟩ := h
  have hsame : strcmp_equal address.chars
      (base58 (device.get_public_key path.words).data ++
        0 :: public_key_str.drop ((base58 (device.get_public_key path.words).data).length + 1)) =
      decide (address.chars = base58 (device.get_public_key path.words).data) := by
    rw [strcmp_equal, c_str_of_notMem address.no_nul, c_str_append_zero (zero_notMem_base58 _)]
  rw [handle_check_address, if_neg (by simp [hconfiguration, hlength]), hparameters, haddress,
    hextra]
  dsimp only
  rw [if_neg (not_not.mpr ((headD_eq_zero_iff extra_id).mpr hempty)),
    derive_public_key_path path rest hsize, Option.bind_eq_bind, Option.bind_some]
  dsimp only
  rw [if_neg (not_not.mpr rfl), hsame]
  by_cases haddr : address.chars = base58 (device.get_public_key path.words).data
  · simp [haddr]
  · simp [haddr]

/-- Anything else is answered with 0. -/
theorem check_address_refused {params : CheckAddressParameters}
    (h : ∀ path address, ¬params.AsksFor path address) (public_key_str : List UInt8) :
    handle_check_address device params public_key_str = some 0 := by
  rw [handle_check_address]
  by_cases hconfiguration :
      params.coin_configuration.isSome ∨ params.coin_configuration_length ≠ 0
  · rw [if_pos hconfiguration]
    rfl
  rw [if_neg hconfiguration]
  rw [not_or, Bool.not_eq_true, Option.isSome_eq_false_iff, Option.isNone_iff_eq_none, not_not]
    at hconfiguration
  split
  · rename_i address_parameters address_to_check extra_id_to_check hparameters haddress hextra
    by_cases hempty : extra_id_to_check.chars = []
    · rw [if_neg (not_not.mpr ((headD_eq_zero_iff _).mpr hempty)), derive_public_key]
      cases hread : read_derivation_path (some address_parameters) with
      | error reply => rfl
      | ok words =>
        obtain ⟨path, rest, rfl, -⟩ := read_derivation_path_iff.mp hread
        exact absurd ⟨hconfiguration.1, hconfiguration.2, ⟨rest, hparameters⟩, haddress, _, hextra,
          hempty⟩ (h path address_to_check)
    · rw [if_pos ((headD_eq_zero_iff _).not.mpr hempty)]
      rfl
  · rfl

/-- **An address passes exactly when** it is asked for as it should be and is the address of the
path; every other request is answered with 0. -/
theorem check_address_iff (params : CheckAddressParameters) {public_key_str : List UInt8}
    (hsize : public_key_str.length = BASE58_PUBKEY_LENGTH) :
    (handle_check_address device params public_key_str = some 1 ↔
      ∃ path address, params.AsksFor path address ∧
        address.chars = base58 (device.get_public_key path.words).data) ∧
    (handle_check_address device params public_key_str = some 1 ∨
      handle_check_address device params public_key_str = some 0) := by
  by_cases hasks : ∃ path address, params.AsksFor path address
  · obtain ⟨path, address, hasks⟩ := hasks
    have hanswer := @check_address_asked device _ _ _ hasks _ hsize
    by_cases haddr : address.chars = base58 (device.get_public_key path.words).data
    · rw [if_pos haddr] at hanswer
      exact ⟨iff_of_true hanswer ⟨path, address, hasks, haddr⟩, Or.inl hanswer⟩
    · rw [if_neg haddr] at hanswer
      refine ⟨iff_of_false ?_ ?_, Or.inr hanswer⟩
      · rw [hanswer]
        exact nofun
      · -- The buffer begins with one path only.
        rintro ⟨path', address', hasks', haddr'⟩
        have hanswer' := @check_address_asked device _ _ _ hasks' _ hsize
        rw [if_pos haddr', hanswer] at hanswer'
        cases hanswer'
  · have hanswer := @check_address_refused device _
      (fun path address h => hasks ⟨path, address, h⟩) public_key_str
    refine ⟨iff_of_false ?_ ?_, Or.inr hanswer⟩
    · rw [hanswer]
      exact nofun
    · rintro ⟨path, address, h, -⟩
      exact hasks ⟨path, address, h⟩

/-- The address of the key that is two everywhere. -/
def chars_of_twos : List UInt8 := c_string "8qbHbw2BbbTHBW1sbeqakYXVKRQM8Ne7pLK7m6CVfeR"

theorem no_nul_in_twos : 0 ∉ chars_of_twos := by decide

theorem twos_size : chars_of_twos.length < SIZE_MAX := by decide

def address_of_twos : CString := ⟨chars_of_twos, no_nul_in_twos, twos_size⟩

theorem no_nul_in_empty : 0 ∉ ([] : List UInt8) := List.not_mem_nil

theorem empty_size : ([] : List UInt8).length < SIZE_MAX := by decide

/-- The extra id of an address that has none. -/
def no_extra_id : CString := ⟨[], no_nul_in_empty, empty_size⟩

/-- The address of a path, with the stack as it was loaded. -/
def own_address : CheckAddressParameters where
  coin_configuration := none
  coin_configuration_length := 0
  address_parameters := some (account_path 2).encode
  address_parameters_length := 9
  address_parameters_size bytes h := by cases h; rfl
  address_to_check := some address_of_twos
  extra_id_to_check := some no_extra_id

theorem own_address_passes : ∃ path address, own_address.AsksFor path address ∧
    address.chars = base58 (counting_device.get_public_key path.words).data := by
  have hpasses : handle_check_address counting_device own_address
      (List.replicate BASE58_PUBKEY_LENGTH 0) = some 1 := by decide +kernel
  exact (check_address_iff own_address List.length_replicate).1.mp hpasses

/-- **The exchange app and the user see the same address**: the address on the screen, whenever
the app shows the key of a path, is the one that passes for that path, and the only one. It makes
no difference who has started the app. -/
theorem check_address_agrees {settings : AppSettings} {G_called_from_swap : Bool}
    {G_swap_validated : SwapValidated} {inputs : List Input} {s : AppState}
    (hrun : Run (step device) (app_main_start settings G_called_from_swap G_swap_validated)
      inputs s) (hscreen : s.screen = .pubkey_review)
    {path : DerivationPath} (hkey : s.G_publicKey = device.get_public_key path.words)
    {params : CheckAddressParameters} {address : CString} (hasks : params.AsksFor path address)
    {public_key_str : List UInt8} (hsize : public_key_str.length = BASE58_PUBKEY_LENGTH) :
    handle_check_address device params public_key_str = some 1 ↔
      address.chars = c_str s.G_publicKeyStr := by
  obtain ⟨htext, -⟩ := (run_shows_address hrun).shown hscreen
  change c_str s.G_publicKeyStr = base58 s.G_publicKey.data at htext
  rw [htext, hkey, check_address_asked hasks hsize]
  by_cases haddr : address.chars = base58 (device.get_public_key path.words).data
  · rw [if_pos haddr]
    exact iff_of_true rfl haddr
  · rw [if_neg haddr]
    exact iff_of_false nofun haddr

/-- The address of the path is on the screen, and it passes. -/
theorem shown_address_passes : ∃ s,
    Run (step counting_device) (coin_main user_settings)
      [.apdu (chunk_apdu .InsGetPubkey P1_CONFIRM 0 (account_path 2).encode)] s ∧
    handle_check_address counting_device own_address (List.replicate BASE58_PUBKEY_LENGTH 7) =
      some 1 := by
  have hany : ∃ s, GuardedRun (step counting_device) (fun _ _ => True) (coin_main user_settings)
      [.apdu (chunk_apdu .InsGetPubkey P1_CONFIRM 0 (account_path 2).encode)] s ∧
      s.screen = .pubkey_review ∧ s.G_publicKey = Pubkey.fill 2 ∧
      address_of_twos.chars = c_str s.G_publicKeyStr :=
    GuardedRun.any (by decide +kernel)
  obtain ⟨s, hrun, hscreen, hkey, htext⟩ := hany
  have hasks : own_address.AsksFor (account_path 2) address_of_twos :=
    ⟨rfl, rfl, ⟨[], rfl⟩, rfl, no_extra_id, rfl, rfl⟩
  have hpath : s.G_publicKey = counting_device.get_public_key (account_path 2).words := hkey
  exact ⟨s, hrun.toRun, (check_address_agrees hrun.toRun hscreen hpath hasks
    List.length_replicate).mpr htext⟩

/-! ## The printed amount -/

/-- The text of an amount of lamports. -/
def renec_amount_text (lamports : ℕ) : List UInt8 :=
  amount_text lamports RENEC_DECIMALS.toNat ++ c_string " RENEC"

/-- Every amount can be printed in a buffer of the exchange app. -/
theorem print_amount_printable (amount : UInt64) : ∃ out,
    print_amount amount (List.replicate MAX_PRINTABLE_AMOUNT_SIZE 0) MAX_PRINTABLE_AMOUNT_SIZE =
      some (0, out) ∧ c_str out = renec_amount_text amount.toNat := by
  have hprints : ∀ buffer : List UInt8, buffer.length = MAX_PRINTABLE_AMOUNT_SIZE →
      ∃ out, print_amount amount buffer buffer.length = some (0, out) := by
    intro buffer hsize
    have hfifty : MAX_PRINTABLE_AMOUNT_SIZE = 50 := rfl
    have hbuffer : TEXT_BUFFER_LENGTH = 45 := rfl
    have hmax : INT_MAX = 2147483647 := rfl
    have hsymbol : CountedString (c_string "RENEC") := by
      rw [CountedString]
      decide
    have hlen : (c_string "RENEC").length = 5 := rfl
    have hwidth : amount_width amount.toNat RENEC_DECIMALS.toNat < TEXT_BUFFER_LENGTH :=
      (amount_width_lt_iff amount RENEC_DECIMALS.toNat).mpr (by decide)
    have htext : (amount_text amount.toNat RENEC_DECIMALS.toNat).length + 5 + 2 ≤
        TEXT_BUFFER_LENGTH :=
      (amount_text_fits_iff amount RENEC_DECIMALS.toNat (by decide)).mpr (one_dvd _)
    obtain ⟨rest, -, hrest, hprint⟩ := print_token_amount_fits amount (some (c_string "RENEC"))
      RENEC_DECIMALS (show 2 ≤ buffer.length by omega) (by omega) (by omega)
    have hends : Prints (token_amount_end (some (c_string "RENEC"))
        (amount_text amount.toNat RENEC_DECIMALS.toNat ++ rest)
        (amount_text amount.toNat RENEC_DECIMALS.toNat).length
        (amount_text amount.toNat RENEC_DECIMALS.toNat ++ rest).length) 0
        (amount_text amount.toNat RENEC_DECIMALS.toNat ++ rest).length :=
      (prints_token_amount_end_iff hsymbol (by omega)).mpr (by omega)
    obtain ⟨out, hend, -⟩ := hends
    rw [hrest] at hend
    exact ⟨out, hprint.trans hend⟩
  obtain ⟨out, hout⟩ := hprints (List.replicate MAX_PRINTABLE_AMOUNT_SIZE 0) List.length_replicate
  rw [List.length_replicate] at hout
  exact ⟨out, hout, print_amount_text hout⟩

/-- The parameters of an amount are as they should be. -/
def GetPrintableAmountParameters.Accepted (params : GetPrintableAmountParameters) : Prop :=
  params.coin_configuration = none ∧ params.coin_configuration_length = 0 ∧
    params.amount.length ≤ 8

theorem printable_amount_accepted {params : GetPrintableAmountParameters} (h : params.Accepted) :
    ∃ out, handle_get_printable_amount params = some (1, out) ∧
      c_str out = renec_amount_text (big_endian params.amount) := by
  obtain ⟨hconfiguration, hlength, hshort⟩ := h
  have hnone : ¬(params.coin_configuration.isSome ∨ params.coin_configuration_length ≠ 0) := by
    rw [hconfiguration, hlength]
    simp
  obtain ⟨amount, hvalue, hnat⟩ := swap_str_to_u64_value hshort
  obtain ⟨out, hprint, htext⟩ := print_amount_printable amount
  rw [handle_get_printable_amount, if_neg hnone, ← params.amount_size, hvalue]
  dsimp only
  rw [hprint]
  exact ⟨out, rfl, hnat ▸ htext⟩

theorem printable_amount_refused {params : GetPrintableAmountParameters} (h : ¬params.Accepted) :
    ∃ out, handle_get_printable_amount params = some (0, out) ∧ c_str out = [] := by
  have hempty : c_str (List.replicate MAX_PRINTABLE_AMOUNT_SIZE 0) = [] := rfl
  rw [handle_get_printable_amount]
  by_cases hconfiguration :
      params.coin_configuration.isSome ∨ params.coin_configuration_length ≠ 0
  · rw [if_pos hconfiguration]
    exact ⟨_, rfl, hempty⟩
  · rw [if_neg hconfiguration, ← params.amount_size]
    rw [not_or, Bool.not_eq_true, Option.isSome_eq_false_iff, Option.isNone_iff_eq_none, not_not]
      at hconfiguration
    have hlong : 8 < params.amount.length := by
      by_contra hshort
      exact h ⟨hconfiguration.1, hconfiguration.2, Nat.not_lt.mp hshort⟩
    rw [swap_str_to_u64, if_pos hlong]
    exact ⟨_, rfl, hempty⟩

/-- **The printed amount is exact**: the number that the bytes are, as a decimal fraction with all
of its digits, or no text when there are too many bytes. -/
theorem printable_amount_exact (params : GetPrintableAmountParameters) : ∃ rc out,
    handle_get_printable_amount params = some (rc, out) ∧
      (params.Accepted → rc = 1 ∧ c_str out = renec_amount_text (big_endian params.amount)) ∧
      (¬params.Accepted → rc = 0 ∧ c_str out = []) := by
  by_cases h : params.Accepted
  · obtain ⟨out, hprint, htext⟩ := printable_amount_accepted h
    exact ⟨1, out, hprint, fun _ => ⟨rfl, htext⟩, fun hnot => absurd h hnot⟩
  · obtain ⟨out, hprint, htext⟩ := printable_amount_refused h
    exact ⟨0, out, hprint, fun haccepted => absurd haccepted h, fun _ => ⟨rfl, htext⟩⟩

/-! ## What is signed for the exchange app -/

theorem IsValidatedTransfer.transfer {validated : SwapValidated} {path : List UInt32}
    {message : List UInt8} (h : IsValidatedTransfer device validated path message) :
    ∃ transfer, message_transfer message = some transfer ∧
      transfer.lamports = validated.amount ∧
      base58 transfer.to_.key.data = c_str validated.recipient ∧
      transfer.from_.key = device.get_public_key path := by
  obtain ⟨header, message_body, infos, transfer, hparse, hinfos, hstrip, hlamports, hto, hfrom,
    -⟩ := h
  refine ⟨transfer, ?_, hlamports, hto, hfrom⟩
  rw [message_transfer, hparse, Option.bind_eq_bind, Option.bind_some]
  dsimp only
  rw [hinfos, Option.bind_eq_bind, Option.bind_some, hstrip]

/-- The app is started on the parameters that were copied. -/
theorem library_starts_app {settings : AppSettings} {stack : List UInt8} {g : SwapGlobals}
    {params : CreateTransactionParameters} {s : AppState}
    (h : library_main_helper device settings stack g (.SIGN_TRANSACTION params) =
      some (.app_main s)) : ∃ g', copy_transaction_parameters params g = some (true, g') ∧
        s = start_app_from_lib settings g'.G_swap_validated := by
  rw [library_main_helper, Option.bind_eq_bind, Option.bind_eq_some_iff] at h
  obtain ⟨⟨copied, g'⟩, hcopy, h⟩ := h
  dsimp only at h
  split at h
  · rename_i hcopied
    cases h
    exact ⟨g', hcopied ▸ hcopy, rfl⟩
  · cases h

/-- What has been copied is the amount, and as much of the address as there is room for. -/
theorem copied_parameters {params : CreateTransactionParameters} {g g' : SwapGlobals}
    (h : copy_transaction_parameters params g = some (true, g')) :
    g'.G_swap_validated.amount.toNat = big_endian params.amount ∧
      c_str g'.G_swap_validated.recipient =
        params.destination_address.chars.take (BASE58_PUBKEY_LENGTH - 1) := by
  by_cases hrefused : params.Refused
  · rw [copy_refused hrefused] at h
    cases h
  by_cases hamount : params.amount.length ≤ 8
  · obtain ⟨g'', hcopy, hrecipient, hvalue⟩ := copy_accepted (g := g) hrefused hamount
    rw [hcopy] at h
    cases h
    exact ⟨hvalue, hrecipient⟩
  · rw [copy_long_amount hrefused (Nat.not_le.mp hamount)] at h
    cases h

/-- **What is signed for the exchange app is what it has shown**: whatever comes, unless a review
to sign is approved, a message that is signed is a transfer from the key that signs, to the address
that was handed over, of the amount that was; and the text that the exchange app gets for this
amount is its text. -/
theorem exchange_signs_what_was_shown {settings : AppSettings} {stack : List UInt8}
    {g : SwapGlobals} {params : CreateTransactionParameters} {s t : AppState}
    {inputs : List Input}
    (hlibrary : library_main_helper device settings stack g (.SIGN_TRANSACTION params) =
      some (.app_main s))
    (hrun : GuardedRun (step device) SignsNoReview s inputs t) {path : List UInt32}
    {message : List UInt8} (hsigned : (path, message) ∈ signatures t.log) :
    ∃ transfer, message_transfer message = some transfer ∧
      transfer.from_.key = device.get_public_key path ∧
      base58 transfer.to_.key.data =
        params.destination_address.chars.take (BASE58_PUBKEY_LENGTH - 1) ∧
      transfer.lamports.toNat = big_endian params.amount ∧
      ∀ printable : GetPrintableAmountParameters, printable.Accepted →
        printable.amount = params.amount → ∃ out,
          library_main_helper device settings stack g (.GET_PRINTABLE_AMOUNT printable) =
            some (.printable_amount out) ∧
          c_str out = renec_amount_text transfer.lamports.toNat := by
  obtain ⟨g', hcopy, rfl⟩ := library_starts_app hlibrary
  obtain ⟨hamount, hrecipient⟩ := copied_parameters hcopy
  have hvalidated : IsValidatedTransfer device g'.G_swap_validated path message :=
    (run_swap_invariant hrun).signs_validated.2 _ hsigned
  obtain ⟨transfer, htransfer, hlamports, hto, hfrom⟩ := hvalidated.transfer
  have hvalue : transfer.lamports.toNat = big_endian params.amount := by
    rw [hlamports]
    exact hamount
  refine ⟨transfer, htransfer, hfrom, hto.trans hrecipient, hvalue, ?_⟩
  intro printable haccepted hsame
  obtain ⟨out, hprint, htext⟩ := printable_amount_accepted haccepted
  refine ⟨out, ?_, ?_⟩
  · rw [library_main_helper, hprint]
    rfl
  · rw [htext, hsame, hvalue]

/-- Five lamports for an account. -/
def exchange_parameters : CreateTransactionParameters :=
  { long_address_parameters with destination_address := address_of_twos }

/-- What is kept of them. -/
def exchange_validated : SwapValidated where
  initialized := true
  amount := 5
  recipient := copied_recipient exchange_parameters.destination_address

/-- The user refuses an off-chain message, and the transfer of the amount is signed. -/
theorem exchange_transfer_is_signed : ∃ t transfer,
    GuardedRun (step nines_device) SignsNoReview
      (start_app_from_lib user_settings exchange_validated)
      [offchain_apdu, .reject, sign_apdu (transfer_to (Pubkey.fill 2)) false] t ∧
    (coin_path.words, transfer_to (Pubkey.fill 2)) ∈ signatures t.log ∧
    message_transfer (transfer_to (Pubkey.fill 2)) = some transfer ∧
    transfer.lamports.toNat = 5 := by
  have hlibrary : library_main_helper nines_device user_settings [] swap_globals_start
      (.SIGN_TRANSACTION exchange_parameters) =
        some (.app_main (start_app_from_lib user_settings exchange_validated)) := by
    decide +kernel
  have hany : ∃ t, GuardedRun (step nines_device) SignsNoReview
      (start_app_from_lib user_settings exchange_validated)
      [offchain_apdu, .reject, sign_apdu (transfer_to (Pubkey.fill 2)) false] t ∧
      (coin_path.words, transfer_to (Pubkey.fill 2)) ∈ signatures t.log :=
    GuardedRun.any (by decide +kernel)
  obtain ⟨t, hrun, hsigned⟩ := hany
  obtain ⟨transfer, htransfer, -, -, hlamports, -⟩ :=
    exchange_signs_what_was_shown hlibrary hrun hsigned
  exact ⟨t, transfer, hrun, hsigned, htransfer, hlamports⟩

/-! ## What the exchange app is told -/

theorem keeps_stopped_dispatch_command : Keeps AppState.stopped (dispatch_command device) := by
  refine keeps_bind keeps_get fun s => ?_
  split
  · exact keeps_bind keeps_get fun _ => keeps_bind (keeps_modify fun _ => rfl) fun _ =>
      keeps_THROW _
  · refine keeps_bind keeps_get fun _ => keeps_bind (keeps_THROW_IF _) fun _ => ?_
    refine keeps_bind (keeps_or_stop _) fun _ => keeps_bind (keeps_modify fun _ => rfl) fun _ => ?_
    refine keeps_ite ?_ (keeps_modify fun _ => rfl)
    exact keeps_bind (keeps_gets _) fun _ => keeps_bind (keeps_modify fun _ => rfl) fun _ =>
      keeps_THROW _
  · exact keeps_reply_handle_sign_message.comp Prod.snd
  · exact keeps_reply_handle_sign_offchain_message.comp Prod.snd
  · exact keeps_THROW _

/-- A message that ends the app has been answered with an error or its signature, or there was a
fault. -/
theorem sign_message_swap_log {s t : AppState} (hcalled : s.G_called_from_swap = true)
    (hrun : (handle_sign_message device).run.run s = (.error .stop, t)) :
    t.log = s.log ∨
      t.log = s.log ++ [.response (.bytes []) .ApduReplyRenecSummaryFinalizeFailed] ∨
      t.log = s.log ++ [.response (.signature s.G_command.derivation_path s.G_command.payload)
        .ApduReplySuccess] := by
  have hkeeps := keeps_handle_sign_message_parse_message device s
  rw [handle_sign_message, bind_eq_error] at hrun
  rcases hrun with hparse | ⟨_, u, hparse, hui⟩
  · rw [hparse] at hkeeps
    exact Or.inl (congrArg AppCore.log hkeeps)
  · rw [hparse] at hkeeps
    have hlog : u.log = s.log := congrArg AppCore.log hkeeps
    have hcalled' : u.G_called_from_swap = true :=
      (congrArg AppCore.G_called_from_swap hkeeps).trans hcalled
    have hcommand : u.G_command.to_sign = s.G_command.to_sign :=
      congrArg (fun core => core.G_command.to_sign) hkeeps
    obtain ⟨hpath, hpayload⟩ := Prod.mk.inj hcommand
    rw [handle_sign_message_ui, get_bind] at hui
    split at hui
    · cases hui
    · rename_i kinds hfinal
      rw [if_pos hcalled'] at hui
      obtain ⟨v, hrespond, hcases⟩ := respond_to_swap_run hcalled' kinds
      rw [hrespond] at hui
      cases hui
      rw [hlog, hpath, hpayload] at hcases
      exact hcases.imp id fun h => h.imp id fun h => h.2.2

/-- The answer after which the app is over, and what the exchange app gets for it. The
answer is the last entry of the log. -/
def Told (device : Device) (validated : SwapValidated) (log log' : List Event) : Prop :=
  ∃ tx sw, log' = log ++ [.response tx sw] ∧
    (finalize_exchange_sign_transaction (sw = .ApduReplySuccess) = 1 ↔
      ∃ path message, tx = .signature path message ∧
        IsValidatedTransfer device validated path message)

/-- Only a message to sign ends the app. -/
theorem dispatch_told {s t : AppState} (hcalled : s.G_called_from_swap = true)
    (hsize : s.G_publicKeyStr.length = BASE58_PUBKEY_LENGTH)
    (hrun : (dispatch_command device).run.run s = (.error .stop, t)) :
    t.log = s.log ∨ Told device s.G_swap_validated s.log t.log := by
  rw [dispatch_command, get_bind] at hrun
  split at hrun
  · cases hrun
  · rename_i hins
    by_cases hstate : s.G_command.state = .ApduStatePayloadComplete
    · rw [handle_get_pubkey_run hsize hins hstate] at hrun
      split at hrun
      · cases hrun
      · cases hrun
    · rw [handle_get_pubkey_refuses (Or.inr hstate)] at hrun
      cases hrun
  · rcases sign_message_swap_log hcalled hrun with hlog | hlog | hlog
    · exact Or.inl hlog
    · refine Or.inr ⟨_, _, hlog, iff_of_false (by decide) ?_⟩
      rintro ⟨path, message, h, -⟩
      cases h
    · refine Or.inr ⟨_, _, hlog, iff_of_true rfl ⟨_, _, rfl, ?_⟩⟩
      rcases handle_sign_message_swap hcalled hrun with hsame | ⟨-, hvalidated⟩
      · rw [hlog, signatures_append] at hsame
        exact absurd (List.append_right_eq_self.mp hsame) (List.cons_ne_nil _ _)
      · exact hvalidated
  · have hstop := @sign_offchain_message_never_stops device s
    rw [hrun] at hstop
    exact absurd rfl hstop
  · cases hrun

/-- **The exchange app is told the truth**: as long as no review to sign is approved, the APDU that
ends the app is answered, unless there was a fault, and the byte that the exchange app gets is 1
exactly when the answer is the signature of a transfer of what was confirmed. -/
theorem exchange_told {settings : AppSettings} {validated : SwapValidated}
    {inputs : List Input} {s t : AppState} {m : List UInt8}
    (hrun : GuardedRun (step device) SignsNoReview (start_app_from_lib settings validated)
      inputs s)
    (hstep : step device s (.apdu m) = some t) (hstopped : t.stopped = true) :
    t.log = s.log ∨ Told device validated s.log t.log := by
  have hinv := run_swap_invariant hrun
  have hsize := (run_shows_address hrun.toRun).size
  obtain ⟨hrunning, -⟩ := step_eq_some.mp hstep
  have hnot : ¬s.stopped = true := Bool.eq_false_iff.mp hrunning
  by_cases hm : m = []
  · subst hm
    obtain rfl := step_no_apdu hstep
    exact absurd hstopped hnot
  obtain rfl := step_apdu hm hstep
  rcases handleApdu_cases device m s.begin_round with ⟨reply, hreply⟩ | hdispatch
  · rw [hreply] at hstopped
    exact absurd hstopped hnot
  rw [hdispatch] at hstopped ⊢
  have hkeeps := @keeps_stopped_dispatch_command device
    (s.begin_round.with_command (command_after m s.begin_round.G_command))
  rcases hrun₁ : (dispatch_command device).run.run
    (s.begin_round.with_command (command_after m s.begin_round.G_command)) with ⟨(reply | _) | u, t⟩
  · rw [hrun₁] at hstopped hkeeps
    exact absurd (hkeeps.symm.trans hstopped) hnot
  · have htold := dispatch_told
      (s := s.begin_round.with_command (command_after m s.begin_round.G_command))
      hinv.called hsize hrun₁
    rw [← hinv.confirmed]
    exact htold
  · rw [hrun₁] at hstopped hkeeps
    exact absurd (hkeeps.symm.trans hstopped) hnot

/-- After a key was approved, a transfer to another account ends the app with an error. -/
theorem other_transfer_is_told : ∃ s t,
    GuardedRun (step nines_device) SignsNoReview
      (start_app_from_lib user_settings exchange_validated)
      [.apdu (chunk_apdu .InsGetPubkey P1_CONFIRM 0 coin_path.encode), .approve] s ∧
    step nines_device s (.apdu (sign_apdu_bytes (transfer_to (Pubkey.fill 3)) false)) = some t ∧
    (t.log = s.log ∨ Told nines_device exchange_validated s.log t.log) ∧
    signatures t.log = [] := by
  have hany : ∃ s, GuardedRun (step nines_device) SignsNoReview
      (start_app_from_lib user_settings exchange_validated)
      [.apdu (chunk_apdu .InsGetPubkey P1_CONFIRM 0 coin_path.encode), .approve] s ∧
      (step nines_device s
        (.apdu (sign_apdu_bytes (transfer_to (Pubkey.fill 3)) false))).any
          (fun t => t.stopped && signatures t.log = []) = true :=
    GuardedRun.any (by decide +kernel)
  obtain ⟨s, hrun, hsome⟩ := hany
  obtain ⟨t, hstep, ht⟩ := (Option.any_eq_true _ _).mp hsome
  rw [Bool.and_eq_true] at ht
  exact ⟨s, t, hrun, hstep, exchange_told hrun hstep ht.1, of_decide_eq_true ht.2⟩

end RenecLedger
