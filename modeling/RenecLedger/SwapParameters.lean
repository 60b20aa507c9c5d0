/-
The parameters of a swap.

An amount is kept exactly when it fits in 64 bits. An address is cut off at the size of its
field, and the check behind the copy, which looks for a missing terminator, never finds one:
an address that does not fit is not refused but shortened (`whole_address_iff`).
-/
import RenecLedger.Base58
import RenecLedger.Swap

set_option autoImplicit false

namespace RenecLedger

/-! ## The amount -/

/-- A byte is shifted in. -/
theorem shift_in_byte (value : UInt64) (b : UInt8) (h : value.toNat * 256 < 2 ^ 64) :
    ((value <<< 8) ||| b.toUInt64).toNat = value.toNat * 256 + b.toNat := by
  have hshift : value.toNat <<< 8 = value.toNat * 256 := Nat.shiftLeft_eq value.toNat 8
  rw [UInt64.toNat_or, UInt64.toNat_shiftLeft, UInt8.toNat_toUInt64]
  change (value.toNat <<< 8) % 2 ^ 64 ||| b.toNat = _
  rw [hshift, Nat.mod_eq_of_lt h, ← hshift, ← Nat.shiftLeft_add_eq_or_of_lt b.toNat_lt]

/-- The loop of `swap_str_to_u64`, as long as the bytes fit behind the value. -/
theorem shift_in_bytes (src : List UInt8) (value : UInt64)
    (h : (value.toNat + 1) * 256 ^ src.length ≤ 2 ^ 64) :
    (src.foldl (fun (value : UInt64) (b : UInt8) => (value <<< 8) ||| b.toUInt64) value).toNat =
      value.toNat * 256 ^ src.length + big_endian src := by
  induction src generalizing value with
  | nil => simp [big_endian]
  | cons b src ih =>
    rw [List.length_cons, Nat.pow_succ'] at h
    have hpos : 0 < 256 ^ src.length := Nat.pow_pos (by decide)
    have hvalue : (value.toNat + 1) * 256 ≤ 2 ^ 64 := by
      refine Nat.le_trans (Nat.le_mul_of_pos_right _ hpos) ?_
      rwa [Nat.mul_assoc]
    have hshift := shift_in_byte value b (by omega)
    have hb := b.toNat_lt
    rw [List.foldl_cons, ih _ ?_, hshift, big_endian_cons, List.length_cons, Nat.pow_succ']
    · ring
    · rw [hshift]
      calc (value.toNat * 256 + b.toNat + 1) * 256 ^ src.length
          ≤ ((value.toNat + 1) * 256) * 256 ^ src.length := Nat.mul_le_mul_right _ (by omega)
        _ = (value.toNat + 1) * (256 * 256 ^ src.length) := Nat.mul_assoc _ _ _
        _ ≤ 2 ^ 64 := h

/-- At most 8 bytes are a 64-bit number. -/
theorem swap_str_to_u64_value {src : List UInt8} (h : src.length ≤ 8) :
    ∃ amount, swap_str_to_u64 src src.length = some amount ∧ amount.toNat = big_endian src := by
  have hroom : ((0 : UInt64).toNat + 1) * 256 ^ src.length ≤ 2 ^ 64 := by
    rw [UInt64.toNat_zero, Nat.zero_add, Nat.one_mul]
    exact Nat.le_trans (Nat.pow_le_pow_right (by decide) h) (by decide)
  have hvalue := shift_in_bytes src 0 hroom
  rw [UInt64.toNat_zero, Nat.zero_mul, Nat.zero_add] at hvalue
  refine ⟨_, ?_, hvalue⟩
  rw [swap_str_to_u64, if_neg (by omega), List.take_length]

/-! ## The address -/

/-- The parameters are refused before the address is read. -/
def CreateTransactionParameters.Refused (params : CreateTransactionParameters) : Prop :=
  params.coin_configuration ≠ none ∨ params.coin_configuration_length ≠ 0 ∨
    ∀ extra_id, params.destination_address_extra_id = some extra_id → extra_id.chars ≠ []

/-- What the address becomes in its field. -/
def copied_recipient (address : CString) : List UInt8 :=
  address.chars.take (BASE58_PUBKEY_LENGTH - 1) ++
    0 :: List.replicate (BASE58_PUBKEY_LENGTH - 1 -
      (address.chars.take (BASE58_PUBKEY_LENGTH - 1)).length) 0

theorem strlcpy_recipient (address : CString) :
    strlcpy SwapValidated.zero.recipient address.chars BASE58_PUBKEY_LENGTH =
      some (copied_recipient address) := by
  have hbuf : BASE58_PUBKEY_LENGTH ≤ SwapValidated.zero.recipient.length :=
    Nat.le_of_eq List.length_replicate.symm
  rw [strlcpy_eq (by decide) hbuf, c_str_of_notMem address.no_nul, SwapValidated.zero,
    List.drop_replicate, copied_recipient, Nat.sub_sub, Nat.add_comm 1]

/-- The last byte of the field is zero, whatever the address. -/
theorem copied_recipient_last (address : CString) :
    (copied_recipient address)[BASE58_PUBKEY_LENGTH - 1]? = some 0 := by
  have hlen : (address.chars.take (BASE58_PUBKEY_LENGTH - 1)).length ≤
      BASE58_PUBKEY_LENGTH - 1 := List.length_take_le _ _
  rw [copied_recipient, List.getElem?_append_right hlen, ← List.replicate_succ,
    List.getElem?_replicate, if_pos (by omega)]

theorem c_str_copied_recipient (address : CString) :
    c_str (copied_recipient address) = address.chars.take (BASE58_PUBKEY_LENGTH - 1) := by
  have hchars : 0 ∉ address.chars.take (BASE58_PUBKEY_LENGTH - 1) := fun h =>
    address.no_nul (List.mem_of_mem_take h)
  exact c_str_append_zero hchars _

/-- The test of the extra id looks at its first byte. -/
theorem headD_eq_zero_iff (s : CString) : s.chars.headD 0 = 0 ↔ s.chars = [] := by
  cases hs : s.chars with
  | nil => simp
  | cons c chars =>
    rw [List.headD_cons]
    refine iff_of_false (fun hc => ?_) (List.cons_ne_nil c chars)
    have hmem : c ∈ s.chars := by rw [hs]; exact List.mem_cons_self
    rw [hc] at hmem
    exact s.no_nul hmem

section Copy

variable {params : CreateTransactionParameters} {g : SwapGlobals}

theorem copy_refused (h : params.Refused) :
    copy_transaction_parameters params g = some (false, g) := by
  rw [copy_transaction_parameters]
  by_cases hconfiguration :
      params.coin_configuration.isSome ∨ params.coin_configuration_length ≠ 0
  · rw [if_pos hconfiguration]
    rfl
  · rw [if_neg hconfiguration]
    rw [not_or, Bool.not_eq_true, Option.isSome_eq_false_iff, Option.isNone_iff_eq_none]
      at hconfiguration
    have hextra := (h.resolve_left (not_not.mpr hconfiguration.1)).resolve_left hconfiguration.2
    cases hid : params.destination_address_extra_id with
    | none => rfl
    | some extra_id =>
      dsimp only
      rw [if_pos ((headD_eq_zero_iff extra_id).not.mpr (hextra extra_id hid))]
      rfl

/-- Past the first checks, the length of the amount decides. -/
theorem copy_not_refused (h : ¬params.Refused) :
    copy_transaction_parameters params g =
      match swap_str_to_u64 params.amount params.amount.length with
      | none => some (false, g)
      | some amount => some (true,
          { os_explicit_zero_BSS_segment g with
            G_swap_sign_return_value_address := params.result_addr
            G_swap_validated :=
              { initialized := true
                amount
                recipient := copied_recipient params.destination_address } }) := by
  rw [CreateTransactionParameters.Refused, not_or, not_or, not_not, not_not] at h
  obtain ⟨hconfiguration, hlength, hextra⟩ := h
  push Not at hextra
  obtain ⟨extra_id, hid, hempty⟩ := hextra
  rw [copy_transaction_parameters, if_neg (by simp [hconfiguration, hlength]), hid]
  dsimp only
  rw [if_neg (not_not.mpr ((headD_eq_zero_iff extra_id).mpr hempty)), strlcpy_recipient,
    Option.bind_eq_bind, Option.bind_some, copied_recipient_last, Option.bind_eq_bind,
    Option.bind_some, if_neg (not_not.mpr rfl), ← params.amount_size]
  rfl

/-- **What is validated**: the address cut off at the size of its field, and the amount; too
long an amount is refused. -/
theorem copy_accepted (h : ¬params.Refused) (hamount : params.amount.length ≤ 8) :
    ∃ g', copy_transaction_parameters params g = some (true, g') ∧
      c_str g'.G_swap_validated.recipient =
        params.destination_address.chars.take (BASE58_PUBKEY_LENGTH - 1) ∧
      g'.G_swap_validated.amount.toNat = big_endian params.amount := by
  obtain ⟨amount, hvalue, hnat⟩ := swap_str_to_u64_value hamount
  rw [copy_not_refused h, hvalue]
  exact ⟨_, rfl, c_str_copied_recipient params.destination_address, hnat⟩

theorem copy_long_amount (h : ¬params.Refused) (hamount : 8 < params.amount.length) :
    copy_transaction_parameters params g = some (false, g) := by
  rw [copy_not_refused h, swap_str_to_u64, if_pos hamount]

end Copy

/-- What is validated is the whole address and the amount; an address that does not fit and an
amount that is too long are refused, which changes nothing. -/
def ValidatesWholeAddress (params : CreateTransactionParameters) (g : SwapGlobals) : Prop :=
  ∃ ok g', copy_transaction_parameters params g = some (ok, g') ∧
    (ok = true → c_str g'.G_swap_validated.recipient = params.destination_address.chars ∧
      g'.G_swap_validated.amount.toNat = big_endian params.amount) ∧
    (BASE58_PUBKEY_LENGTH ≤ params.destination_address.chars.length ∨ 8 < params.amount.length →
      ok = false ∧ g' = g)

/-- **The whole address is validated** unless it is too long for its field and everything else
is as it should be: nothing refuses such an address. -/
theorem whole_address_iff (params : CreateTransactionParameters) (g : SwapGlobals) :
    ValidatesWholeAddress params g ↔
      params.destination_address.chars.length < BASE58_PUBKEY_LENGTH ∨
        8 < params.amount.length ∨ params.coin_configuration ≠ none ∨
        params.coin_configuration_length ≠ 0 ∨
        ∀ extra_id, params.destination_address_extra_id = some extra_id →
          extra_id.chars ≠ [] := by
  by_cases hrefused : params.Refused
  · exact iff_of_true ⟨false, g, copy_refused hrefused, nofun, fun _ => ⟨rfl, rfl⟩⟩
      (Or.inr (Or.inr hrefused))
  by_cases hamount : params.amount.length ≤ 8
  · obtain ⟨g', hcopy, hrecipient, hvalue⟩ := copy_accepted (g := g) hrefused hamount
    constructor
    · rintro ⟨ok, g'', hcopy', -, hlong⟩
      rw [hcopy] at hcopy'
      cases hcopy'
      left
      by_contra hfits
      exact absurd (hlong (Or.inl (Nat.not_lt.mp hfits))).1 Bool.noConfusion
    · rintro (hfits | hlong | hother)
      · refine ⟨true, g', hcopy, fun _ => ⟨?_, hvalue⟩, fun h => ?_⟩
        · rw [hrecipient, List.take_of_length_le (Nat.le_sub_one_of_lt hfits)]
        · omega
      · omega
      · exact absurd hother hrefused
  · have hlong := Nat.not_le.mp hamount
    exact iff_of_true ⟨false, g, copy_long_amount hrefused hlong, nofun, fun _ => ⟨rfl, rfl⟩⟩
      (Or.inr (Or.inl hlong))

/-- An address of 45 characters, of which an amount of 5 is to be sent. -/
def long_address_parameters : CreateTransactionParameters where
  coin_configuration := none
  coin_configuration_length := 0
  amount := [5]
  amount_length := 1
  amount_size := rfl
  destination_address := ⟨List.replicate 45 (char '1'), by decide, by decide⟩
  destination_address_extra_id := some ⟨[], by decide, by decide⟩
  result_addr := 0

/-- The app as the exchange app has loaded it. -/
def swap_globals_start : SwapGlobals where
  G_swap_validated := SwapValidated.zero
  G_swap_sign_return_value_address := 0
  bss := []

/-- The address that is validated is another one, of 44 characters. -/
theorem long_address_cut_off :
    copy_transaction_parameters long_address_parameters swap_globals_start =
      some (true,
        { swap_globals_start with
          G_swap_validated :=
            { initialized := true
              amount := 5
              recipient := List.replicate 44 (char '1') ++ [0] } }) ∧
    ¬ValidatesWholeAddress long_address_parameters swap_globals_start := by
  have hcopy : copy_transaction_parameters long_address_parameters swap_globals_start =
      some (true,
        { swap_globals_start with
          G_swap_validated :=
            { initialized := true
              amount := 5
              recipient := List.replicate 44 (char '1') ++ [0] } }) := by
    decide +kernel
  refine ⟨hcopy, ?_⟩
  rintro ⟨ok, g', hcopy', -, hlong⟩
  rw [hcopy] at hcopy'
  cases hcopy'
  have hrefused := hlong (Or.inl (by decide))
  exact absurd hrefused.1 Bool.noConfusion

end RenecLedger
