/-
Signing for the exchange app: `src/swap/handle_swap_sign_transaction.c` and
`src/swap/swap_utils.c`.

The exchange app has shown the user an amount and a recipient, which it hands over before the
app starts. The checks here compare these with the texts of two summary items, byte by byte
as C strings.
-/
import RenecLedger.App

set_option autoImplicit false

namespace RenecLedger

def MAX_PRINTABLE_AMOUNT_SIZE : ℕ := 50

/-! ## What the exchange app hands over -/

/-- `create_transaction_parameters_t`, with what its pointers point to: `none` is `NULL`. Of
`result` only the address is used, and the fee is not read. -/
structure CreateTransactionParameters where
  coin_configuration : Option (List UInt8)
  coin_configuration_length : UInt8
  amount : List UInt8
  amount_length : UInt8
  amount_size : amount.length = amount_length.toNat
  destination_address : CString
  destination_address_extra_id : Option CString
  result_addr : ℕ
deriving DecidableEq

/-- The BSS segment: the globals of this file, and the other bytes of it. -/
structure SwapGlobals where
  G_swap_validated : SwapValidated
  G_swap_sign_return_value_address : ℕ
  bss : List UInt8
deriving DecidableEq

/-- `memset(&swap_validated, 0, sizeof(swap_validated))`. -/
def SwapValidated.zero : SwapValidated :=
  { initialized := false
    amount := 0
    recipient := List.replicate BASE58_PUBKEY_LENGTH 0 }

def os_explicit_zero_BSS_segment (g : SwapGlobals) : SwapGlobals :=
  { G_swap_validated := SwapValidated.zero
    G_swap_sign_return_value_address := 0
    bss := List.replicate g.bss.length 0 }

/-- `*result`, or `none` to return `false`. -/
def swap_str_to_u64 (src : List UInt8) (length : ℕ) : Option UInt64 :=
  if length > 8 then none
  else some ((src.take length).foldl (fun value b => (value <<< 8) ||| b.toUInt64) 0)

/-- Save the data validated during the exchange app flow. What is returned comes with the
globals; `none` is an access outside of a buffer. -/
def copy_transaction_parameters (params : CreateTransactionParameters) (g : SwapGlobals) :
    Option (Bool × SwapGlobals) := do
  -- Ensure no subcoin configuration
  if params.coin_configuration.isSome ∨ params.coin_configuration_length ≠ 0 then
    return (false, g)
  -- Ensure no extraid
  match params.destination_address_extra_id with
  | none => return (false, g)
  | some extra_id =>
    if extra_id.chars.headD 0 ≠ 0 then return (false, g)
    -- first copy parameters to stack, and then to global data
    let swap_validated := SwapValidated.zero
    -- Save recipient
    let recipient ← strlcpy swap_validated.recipient params.destination_address.chars
      BASE58_PUBKEY_LENGTH
    let last ← recipient[BASE58_PUBKEY_LENGTH - 1]?
    if last ≠ 0 then return (false, g)
    -- Save amount
    match swap_str_to_u64 params.amount params.amount_length.toNat with
    | none => return (false, g)
    | some amount =>
      -- Full reset the global variables
      let g := os_explicit_zero_BSS_segment g
      return (true, { g with
        G_swap_sign_return_value_address := params.result_addr
        G_swap_validated := { initialized := true, amount, recipient } })

/-! ## Checking what is signed -/

/-- `strcmp(a, b) == 0`. -/
def strcmp_equal (a b : List UInt8) : Bool := c_str a = c_str b

/-- Check that the amount is the same as the one that was saved. -/
def check_swap_amount (validated : SwapValidated) (title text : List UInt8) : Option Bool :=
  if !validated.initialized then some false
  else if !strcmp_equal title (c_string "Transfer") then some false
  else
    match print_amount validated.amount (List.replicate MAX_PRINTABLE_AMOUNT_SIZE 0)
        MAX_PRINTABLE_AMOUNT_SIZE with
    | none => none
    | some (rc, validated_amount) =>
      if rc ≠ 0 then some false else some (strcmp_equal text validated_amount)

/-- Check that the recipient is the same as the one that was saved. -/
def check_swap_recipient (validated : SwapValidated) (title text : List UInt8) : Bool :=
  if !validated.initialized then false
  else if !strcmp_equal title (c_string "Recipient") then false
  else strcmp_equal validated.recipient text

end RenecLedger
