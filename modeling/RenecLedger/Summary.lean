/-
The transaction summary of `librenec/transaction_summary.c`.

The summary is a singleton of slots that are set once. A printer asks for a slot
and sets it; asking for a slot that is taken gives `NULL`, and setting that is a
fault. A printer is modelled by the items it sets, in order, and by its return
code (`SummaryM`); `SummaryM.exec` is its run on a summary, which does not return
when a slot it sets is taken. `transaction_summary_general_item` is the only
request with a choice: it gives the first unused general item. The configuration
that every printer takes (`librenec/print_config.c`) is here as well.
-/
import Mathlib.Data.List.Basic
import RenecLedger.Parser

set_option autoImplicit false

namespace RenecLedger

/-! ## Items -/

def NUM_GENERAL_ITEMS : ℕ := 11

structure TokenAmount where
  value : UInt64
  symbol : String
  decimals : UInt8
deriving DecidableEq

inductive SummaryItemKind
  | SummaryItemNone
  | SummaryItemAmount
  | SummaryItemTokenAmount
  | SummaryItemI64
  | SummaryItemU64
  | SummaryItemPubkey
  | SummaryItemHash
  | SummaryItemSizedString
  | SummaryItemString
  | SummaryItemTimestamp
deriving DecidableEq

/-- The kind of an item together with the member of its union. -/
inductive SummaryItemValue
  | SummaryItemAmount (u64 : UInt64)
  | SummaryItemTokenAmount (token_amount : TokenAmount)
  | SummaryItemI64 (i64 : Int64)
  | SummaryItemU64 (u64 : UInt64)
  | SummaryItemPubkey (pubkey : PubkeyRef)
  | SummaryItemHash (hash : HashRef)
  | SummaryItemSizedString (sized_string : SizedString)
  | SummaryItemString (string : String)
  | SummaryItemTimestamp (i64 : Int64)
deriving DecidableEq

/-- A used item. An unused one, of kind `SummaryItemNone`, is `none` in its slot. -/
structure SummaryItem where
  title : String
  value : SummaryItemValue
deriving DecidableEq

def SummaryItem.kind (item : SummaryItem) : SummaryItemKind :=
  match item.value with
  | .SummaryItemAmount _ => .SummaryItemAmount
  | .SummaryItemTokenAmount _ => .SummaryItemTokenAmount
  | .SummaryItemI64 _ => .SummaryItemI64
  | .SummaryItemU64 _ => .SummaryItemU64
  | .SummaryItemPubkey _ => .SummaryItemPubkey
  | .SummaryItemHash _ => .SummaryItemHash
  | .SummaryItemSizedString _ => .SummaryItemSizedString
  | .SummaryItemString _ => .SummaryItemString
  | .SummaryItemTimestamp _ => .SummaryItemTimestamp

/-! ## The summary -/

structure TransactionSummary where
  primary : Option SummaryItem
  fee_payer : Option SummaryItem
  nonce_account : Option SummaryItem
  nonce_authority : Option SummaryItem
  general : List (Option SummaryItem)
  general_length : general.length = NUM_GENERAL_ITEMS
deriving DecidableEq

def transaction_summary_reset : TransactionSummary :=
  { primary := none
    fee_payer := none
    nonce_account := none
    nonce_authority := none
    general := List.replicate NUM_GENERAL_ITEMS none
    general_length := List.length_replicate }

/-- The requests for a slot: `transaction_summary_primary_item()` and so on. -/
inductive SummarySlot
  | primary
  | fee_payer
  | nonce_account
  | nonce_authority
  | general
deriving DecidableEq

/-- `transaction_summary_general_item()`: the first unused general item. -/
def transaction_summary_general_item (summary : TransactionSummary) : Option ℕ :=
  summary.general.findIdx? Option.isNone

def TransactionSummary.set_general (summary : TransactionSummary) (i : ℕ) (item : SummaryItem) :
    TransactionSummary :=
  { summary with
    general := summary.general.set i (some item)
    general_length := by rw [List.length_set, summary.general_length] }

/-- An item that a printer sets, and the slot it asks for. -/
structure SummaryWrite where
  slot : SummarySlot
  item : SummaryItem
deriving DecidableEq

/-- Ask for a slot and set it; `none` when the slot is taken, so that the item to
set is `NULL`. -/
def TransactionSummary.write (summary : TransactionSummary) (w : SummaryWrite) :
    Option TransactionSummary :=
  match w.slot with
  | .primary =>
    if summary.primary.isNone then some { summary with primary := some w.item } else none
  | .fee_payer =>
    if summary.fee_payer.isNone then some { summary with fee_payer := some w.item } else none
  | .nonce_account =>
    if summary.nonce_account.isNone then some { summary with nonce_account := some w.item }
    else none
  | .nonce_authority =>
    if summary.nonce_authority.isNone then some { summary with nonce_authority := some w.item }
    else none
  | .general =>
    match transaction_summary_general_item summary with
    | some i => some (summary.set_general i w.item)
    | none => none

/-- `transaction_summary_set_fee_payer_pubkey`: fails when the slot is taken. -/
def transaction_summary_set_fee_payer_pubkey (pubkey : PubkeyRef) (summary : TransactionSummary) :
    Option TransactionSummary :=
  summary.write ⟨.fee_payer, "Fee payer", .SummaryItemPubkey pubkey⟩

/-- The used items in display order. -/
def TransactionSummary.items (summary : TransactionSummary) : List SummaryItem :=
  summary.primary.toList ++ summary.general.reduceOption ++ summary.nonce_account.toList ++
    summary.nonce_authority.toList ++ summary.fee_payer.toList

/-- `transaction_summary_finalize`: the kinds of the used items, in display order. -/
def transaction_summary_finalize (summary : TransactionSummary) : Option (List SummaryItemKind) :=
  if summary.primary.isNone then none else some (summary.items.map SummaryItem.kind)

/-! ## The print configuration -/

structure PrintConfig where
  header : MessageHeader
  expert_mode : Bool
  signer_pubkey : PubkeyRef
deriving DecidableEq

/-- An authority is shown in expert mode, and whenever it is not the signer. -/
def print_config_show_authority (print_config : PrintConfig) (authority : PubkeyRef) : Bool :=
  print_config.expert_mode || !pubkeys_equal print_config.signer_pubkey authority

/-! ## Printers -/

/-- A printer: the items it sets, and `none` in place of a non-zero return code.
What it set before it failed stays set. -/
structure SummaryM (α : Type) where
  writes : List SummaryWrite
  result : Option α
deriving DecidableEq

instance : Monad SummaryM where
  pure a := ⟨[], some a⟩
  bind p f :=
    match p.result with
    | some a => ⟨p.writes ++ (f a).writes, (f a).result⟩
    | none => ⟨p.writes, none⟩

/-- `return 1`. -/
def SummaryM.fail {α : Type} : SummaryM α := ⟨[], none⟩

/-- `BAIL_IF(c)` in a printer. -/
def SummaryM.bail_if (c : Bool) : SummaryM Unit := if c then SummaryM.fail else pure ()

/-- `if (pubkey != NULL) { … }`, and the like for any value that may be missing. -/
def SummaryM.if_set {β : Type} (value : Option β) (p : β → SummaryM Unit) : SummaryM Unit :=
  match value with
  | some value => p value
  | none => pure ()

/-- A call whose return code is ignored. -/
def SummaryM.ignore_rc (p : SummaryM Unit) : SummaryM Unit := ⟨p.writes, some ()⟩

/-- Set the items one after the other. -/
def TransactionSummary.write_all (summary : TransactionSummary) (ws : List SummaryWrite) :
    Option TransactionSummary :=
  ws.foldlM TransactionSummary.write summary

/-- Run a printer: its return code and the summary it leaves, or `none` when it sets
an item that is `NULL`. -/
def SummaryM.exec {α : Type} (p : SummaryM α) (summary : TransactionSummary) :
    Option (Option α × TransactionSummary) :=
  (summary.write_all p.writes).map fun summary => (p.result, summary)

/-! ## Setting an item -/

def set_item (slot : SummarySlot) (title : String) (value : SummaryItemValue) : SummaryM Unit :=
  ⟨[⟨slot, title, value⟩], some ()⟩

def summary_item_set_amount (slot : SummarySlot) (title : String) (value : UInt64) :
    SummaryM Unit :=
  set_item slot title (.SummaryItemAmount value)

def summary_item_set_token_amount (slot : SummarySlot) (title : String) (value : UInt64)
    (symbol : String) (decimals : UInt8) : SummaryM Unit :=
  set_item slot title (.SummaryItemTokenAmount { value, symbol, decimals })

def summary_item_set_i64 (slot : SummarySlot) (title : String) (value : Int64) : SummaryM Unit :=
  set_item slot title (.SummaryItemI64 value)

def summary_item_set_u64 (slot : SummarySlot) (title : String) (value : UInt64) : SummaryM Unit :=
  set_item slot title (.SummaryItemU64 value)

def summary_item_set_pubkey (slot : SummarySlot) (title : String) (value : PubkeyRef) :
    SummaryM Unit :=
  set_item slot title (.SummaryItemPubkey value)

def summary_item_set_hash (slot : SummarySlot) (title : String) (value : HashRef) :
    SummaryM Unit :=
  set_item slot title (.SummaryItemHash value)

def summary_item_set_sized_string (slot : SummarySlot) (title : String) (value : SizedString) :
    SummaryM Unit :=
  set_item slot title (.SummaryItemSizedString value)

def summary_item_set_string (slot : SummarySlot) (title : String) (value : String) :
    SummaryM Unit :=
  set_item slot title (.SummaryItemString value)

def summary_item_set_timestamp (slot : SummarySlot) (title : String) (value : Int64) :
    SummaryM Unit :=
  set_item slot title (.SummaryItemTimestamp value)

end RenecLedger
