/-
Showing the summary: the display half of `librenec/transaction_summary.c`.

The screen shows one item at a time, as a title and a text in two buffers. An item that
cannot be printed leaves what its printer wrote, and the title of the item before it.
-/
import RenecLedger.Printer
import RenecLedger.Summary

set_option autoImplicit false

namespace RenecLedger

def TITLE_SIZE : ℕ := 32
def BASE58_PUBKEY_LENGTH : ℕ := 45
def TEXT_BUFFER_LENGTH : ℕ := BASE58_PUBKEY_LENGTH
def SUMMARY_LENGTH : ℕ := 7
def BASE58_PUBKEY_SHORT : ℕ := SUMMARY_LENGTH + 2 + SUMMARY_LENGTH + 1

/-- `enum DisplayFlags`. -/
structure DisplayFlags where
  DisplayFlagLongPubkeys : Bool
deriving DecidableEq

/-- `G_transaction_summary_title` and `G_transaction_summary_text`. -/
structure SummaryDisplay where
  title : List UInt8
  text : List UInt8
deriving DecidableEq

/-- What `transaction_summary_reset` makes of the two buffers. -/
def SummaryDisplay.reset : SummaryDisplay :=
  { title := List.replicate TITLE_SIZE 0
    text := List.replicate TEXT_BUFFER_LENGTH 0 }

/-- A key in base 58, whole or with its middle left out. -/
def print_pubkey (pubkey : PubkeyRef) (flags : DisplayFlags) (text : List UInt8) :
    PrintResult := do
  let (rc, tmp_buf) ← encode_base58 pubkey.key.data (List.replicate BASE58_PUBKEY_LENGTH 0)
    BASE58_PUBKEY_LENGTH
  if rc ≠ 0 then return (rc, text)
  if flags.DisplayFlagLongPubkeys then
    print_string (c_str tmp_buf) text TEXT_BUFFER_LENGTH
  else
    print_summary (c_str tmp_buf) text BASE58_PUBKEY_SHORT SUMMARY_LENGTH SUMMARY_LENGTH

/-- The switch on the kind of an item. The return codes of the two string printers are
ignored. -/
def SummaryItemValue.print (value : SummaryItemValue) (flags : DisplayFlags)
    (text : List UInt8) : PrintResult :=
  match value with
  | .SummaryItemAmount u64 => print_amount u64 text BASE58_PUBKEY_LENGTH
  | .SummaryItemTokenAmount token_amount =>
    print_token_amount token_amount.value (some (c_string token_amount.symbol))
      token_amount.decimals text TEXT_BUFFER_LENGTH
  | .SummaryItemI64 i64 => print_i64 i64 text TEXT_BUFFER_LENGTH
  | .SummaryItemU64 u64 => print_u64 u64 text TEXT_BUFFER_LENGTH
  | .SummaryItemPubkey pubkey => print_pubkey pubkey flags text
  | .SummaryItemHash hash => encode_base58 hash.hash.data text TEXT_BUFFER_LENGTH
  | .SummaryItemString string =>
    (print_string (c_string string) text TEXT_BUFFER_LENGTH).map fun r => (0, r.2)
  | .SummaryItemSizedString sized_string =>
    (print_sized_string sized_string text TEXT_BUFFER_LENGTH).map fun r => (0, r.2)
  | .SummaryItemTimestamp i64 => print_timestamp i64 text TEXT_BUFFER_LENGTH

/-- The return code and the two buffers, or an access outside one of them. -/
def transaction_summary_update_display_for_item (item : Option SummaryItem)
    (flags : DisplayFlags) (display : SummaryDisplay) : Option (ℕ × SummaryDisplay) :=
  match item with
  | none => some (1, display)
  | some item => do
    let (rc, text) ← item.value.print flags display.text
    if rc ≠ 0 then return (rc, { display with text })
    let (_, title) ← print_string (c_string item.title) display.title TITLE_SIZE
    return (0, { title, text })

/-- Walk over items, numbering the used ones: item number `item_index`, or the number
after the last one. -/
def walk_items (item_index : ℕ) : List (Option SummaryItem) → ℕ → SummaryItem ⊕ ℕ
  | [], current_index => .inr current_index
  | none :: items, current_index => walk_items item_index items current_index
  | some item :: items, current_index =>
    if current_index = item_index then .inl item
    else walk_items item_index items (current_index + 1)

/-- The primary item, the used general and nonce items, and the fee payer; `none` is
`NULL`. The primary item and the fee payer are found also when they are unused. -/
def transaction_summary_find_item (summary : TransactionSummary) (item_index : ℕ) :
    Option (Option SummaryItem) :=
  if item_index = 0 then some summary.primary
  else
    match walk_items item_index
        (summary.general ++ [summary.nonce_account, summary.nonce_authority]) 1 with
    | .inl item => some (some item)
    | .inr current_index => if current_index = item_index then some summary.fee_payer else none

def transaction_summary_display_item (summary : TransactionSummary) (item_index : ℕ)
    (flags : DisplayFlags) (display : SummaryDisplay) : Option (ℕ × SummaryDisplay) :=
  match transaction_summary_find_item summary item_index with
  | none => some (1, display)
  | some item => transaction_summary_update_display_for_item item flags display

end RenecLedger
