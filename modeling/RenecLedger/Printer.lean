/-
The text printers of `librenec/printer.c` and `librenec/rfc3339.c`.

A `char out[n]` is a list of `n` bytes. Every access to it is checked: `none` is an
access outside a buffer, or a sum that its type does not hold, after which nothing is said
about the run. What a printer returns otherwise is its return code and what it leaves in
`out`, also when it fails. A loop of the source is a recursion on a bound for the number of
its rounds.
-/
import Mathlib.Data.List.Basic
import RenecLedger.Parser

set_option autoImplicit false

namespace RenecLedger

/-! ## Buffers and C strings -/

def INT_MAX : ℕ := 2 ^ 31 - 1

/-- A `size_t` as an `int`. -/
def to_int (n : ℕ) : ℤ := Int.bmod n (SIZE_MAX + 1)

/-- The error codes of `os_error.h`. -/
def INVALID_PARAMETER : ℕ := 2
def EXCEPTION_OVERFLOW : ℕ := 3

/-- A return code and the buffer, or what C does not define. -/
abbrev PrintResult := Option (ℕ × List UInt8)

/-- A character literal. -/
def char (c : Char) : UInt8 := UInt8.ofNat c.toNat

/-- The characters of a string literal, without its terminator. -/
def c_string (s : String) : List UInt8 := s.toList.map char

/-- The C string that a buffer holds: its bytes up to the terminator. -/
def c_str (buf : List UInt8) : List UInt8 := buf.takeWhile (· ≠ 0)

/-- A string that a `const char*` points to, with a terminator behind its characters. -/
structure CString where
  chars : List UInt8
  no_nul : 0 ∉ chars
  size : chars.length < SIZE_MAX
deriving DecidableEq

/-- `buf[i] = c`. -/
def write_at (buf : List UInt8) (i : ℕ) (c : UInt8) : Option (List UInt8) :=
  if i < buf.length then some (buf.set i c) else none

/-- `memcpy(buf + i, bytes, …)`. -/
def copy_at (buf : List UInt8) (i : ℕ) (bytes : List UInt8) : Option (List UInt8) :=
  if i + bytes.length ≤ buf.length then
    some (buf.take i ++ bytes ++ buf.drop (i + bytes.length))
  else
    none

/-- `strncpy(buf + i, string, n)`: cut off after `n` bytes, or filled up with zeros. -/
def strncpy (buf : List UInt8) (i : ℕ) (string : List UInt8) (n : ℕ) : Option (List UInt8) :=
  let bytes := (c_str string).take n
  copy_at buf i (bytes ++ List.replicate (n - bytes.length) 0)

/-- `strlcpy(buf, string, n)`: cut off to leave room for the terminator, behind which the
buffer stays as it was. -/
def strlcpy (buf : List UInt8) (string : List UInt8) (n : ℕ) : Option (List UInt8) :=
  if n = 0 then some buf else copy_at buf 0 ((c_str string).take (n - 1) ++ [0])

/-- The loop `for (; j < k; j++, k--)` that swaps `out[j]` and `out[k]`. -/
def reverse_between : ℕ → List UInt8 → ℕ → ℕ → Option (List UInt8)
  | 0, out, _, _ => some out
  | rounds + 1, out, j, k =>
    if j < k then do
      let tmp ← out[j]?
      let last ← out[k]?
      let out ← write_at out j last
      let out ← write_at out k tmp
      reverse_between rounds out (j + 1) (k - 1)
    else
      some out

/-! ## Token amounts -/

/-- The digit loop of `print_token_amount`: the digits from the last one, and the point
in front of digit number `decimals`. -/
def token_amount_digits (decimals outlen : ℕ) : ℕ → List UInt8 → ℕ → ℕ → Option (List UInt8 × ℕ)
  | 0, _, _, _ => none
  | rounds + 1, out, i, dVal => do
    let (out, i) ← if i = decimals then (write_at out i (char '.')).map (·, i + 1)
      else some (out, i)
    let out ← write_at out i (UInt8.ofNat (dVal % 10) + char '0')
    let dVal := dVal / 10
    let i := i + 1
    let min_chars := decimals + 1
    if (dVal > 0 ∨ i < min_chars) ∧ i < outlen then
      token_amount_digits decimals outlen rounds out i dVal
    else
      some (out, i)

/-- `for (; i > 0; i--) if (out[i] != '0') break;`. -/
def strip_trailing_zeros (out : List UInt8) : ℕ → Option ℕ
  | 0 => some 0
  | i + 1 => do
    let c ← out[i + 1]?
    if c ≠ char '0' then some (i + 1) else strip_trailing_zeros out i

/-- The digits from the last one, if there is room for one. -/
def token_amount_write (decimals outlen : ℕ) (out : List UInt8) (dVal : ℕ) :
    Option (List UInt8 × ℕ) :=
  if 0 < outlen - 1 then token_amount_digits decimals outlen outlen out 0 dVal else some (out, 0)

/-- Strip trailing 0s and then a trailing point off the first `i` bytes. Of no bytes, the
source reads the one in front of the buffer. -/
def token_amount_strip (out : List UInt8) (i : ℕ) : Option ℕ :=
  if i = 0 then none
  else do
    let i ← (strip_trailing_zeros out (i - 1)).map (· + 1)
    let last ← out[i - 1]?
    return if last = char '.' then i - 1 else i

/-- End the text, with the asset behind it if there is one. -/
def token_amount_end (asset : Option (List UInt8)) (out : List UInt8) (i outlen : ℕ) :
    PrintResult :=
  match asset with
  | some asset => do
    let asset_length := to_int (c_str asset).length
    -- the sum is not an `int`
    if i + 1 + asset_length + 1 > INT_MAX then none
    -- check buffer has space
    if i + 1 + asset_length + 1 > outlen then return (1, out)
    -- qualify amount
    let out ← write_at out i (char ' ')
    let out ← strncpy out (i + 1) asset (to_size (asset_length + 1))
    return (0, out)
  | none => do
    let out ← write_at out i 0
    return (0, out)

/-- An `asset` that is not given is `none`. -/
def print_token_amount (amount : UInt64) (asset : Option (List UInt8)) (decimals : UInt8)
    (out : List UInt8) (out_length : ℕ) : PrintResult := do
  if out_length > INT_MAX then return (1, out)
  let (out, i) ← token_amount_write decimals.toNat out_length out amount.toNat
  if i ≥ out_length then return (1, out)
  -- reverse order
  let out ← reverse_between i out 0 (i - 1)
  let i ← token_amount_strip out i
  token_amount_end asset out i out_length

def RENEC_DECIMALS : UInt8 := 9

def print_amount (amount : UInt64) (out : List UInt8) (out_length : ℕ) : PrintResult :=
  print_token_amount amount (some (c_string "RENEC")) RENEC_DECIMALS out out_length

/-! ## Strings -/

/-- `out[--out_length] = '\0'`, and `~` in front of it to signal truncation. -/
def signal_truncation (out : List UInt8) (out_length : ℕ) : PrintResult := do
  if out_length = 0 then none
  let out ← write_at out (out_length - 1) 0
  if out_length - 1 ≠ 0 then
    let out ← write_at out (out_length - 2) (char '~')
    return (1, out)
  else
    return (1, out)

def print_sized_string (string : SizedString) (out : List UInt8) (out_length : ℕ) :
    PrintResult := do
  let length := string.buffer.length
  let len := min out_length length
  let out ← strncpy out 0 string.buffer len
  if length < out_length then
    let out ← write_at out length 0
    return (0, out)
  else
    signal_truncation out out_length

def print_string (string : List UInt8) (out : List UInt8) (out_length : ℕ) : PrintResult := do
  let out ← strncpy out 0 string out_length
  if out_length = 0 then none
  let last ← out[out_length - 1]?
  if last ≠ 0 then
    signal_truncation out out_length
  else
    return (0, out)

def print_summary (string : List UInt8) (out : List UInt8)
    (out_length left_length right_length : ℕ) : PrintResult := do
  if out_length ≤ left_length + right_length + 2 then return (1, out)
  let in_length := (c_str string).length
  if in_length + 1 > out_length then
    let out ← copy_at out 0 (string.take left_length)
    let out ← write_at out left_length (char '.')
    let out ← write_at out (left_length + 1) (char '.')
    let right := (string.drop (in_length - right_length)).take right_length
    let out ← copy_at out (left_length + 2) right
    let out ← write_at out (left_length + right_length + 2) 0
    return (0, out)
  else
    -- the return code of print_string is ignored
    let (_, out) ← print_string string out out_length
    return (0, out)

/-! ## Base 58 -/

def BASE58_ALPHABET : List UInt8 :=
  c_string "123456789ABCDEFGHJKLMNPQRSTUVWXYZabcdefghijkmnopqrstuvwxyz"

/-- The division loop: the number whose base-256 digits are given is divided by 58. -/
def base58_divide : ℕ → List UInt8 → List UInt8 × ℕ
  | remainder, [] => ([], remainder)
  | remainder, digit256 :: tmp =>
    let tmp_div := remainder * 256 + digit256.toNat
    let (tmp, remainder) := base58_divide (tmp_div % 58) tmp
    (UInt8.ofNat (tmp_div / 58) :: tmp, remainder)

/-- `buffer[--j] = c`, with `j` a `uint8_t`. -/
def push_front (buffer : List UInt8) (j : ℕ) (c : UInt8) : Option (List UInt8 × ℕ) :=
  let j := (j + 255) % 256
  (write_at buffer j c).map (·, j)

/-- The digit loop; `tmp` is what lies from `start_at` on. -/
def base58_digits : ℕ → List UInt8 → List UInt8 → ℕ → Option (List UInt8 × ℕ)
  | _, [], buffer, j => some (buffer, j)
  | 0, _ :: _, _, _ => none
  | rounds + 1, tmp, buffer, j => do
    let (tmp, remainder) := base58_divide 0 tmp
    let tmp := if tmp.headD 0 = 0 then tmp.tail else tmp
    let (buffer, j) ← push_front buffer j (BASE58_ALPHABET.getD remainder 0)
    base58_digits rounds tmp buffer j

/-- `while (j < 2 * length && buffer[j] == '1') ++j;`, for `2 * length - j` rounds. -/
def skip_ones (buffer : List UInt8) : ℕ → ℕ → Option ℕ
  | 0, j => some j
  | rounds + 1, j => do
    let c ← buffer[j]?
    if c = BASE58_ALPHABET.getD 0 0 then skip_ones buffer rounds (j + 1) else some j

/-- `while (zero_count-- > 0) buffer[--j] = '1';`. -/
def push_ones : ℕ → List UInt8 → ℕ → Option (List UInt8 × ℕ)
  | 0, buffer, j => some (buffer, j)
  | zero_count + 1, buffer, j => do
    let (buffer, j) ← push_front buffer j (BASE58_ALPHABET.getD 0 0)
    push_ones zero_count buffer j

def encode_base58 (bytes : List UInt8) (out : List UInt8) (maxoutlen : ℕ) : PrintResult := do
  let length := bytes.length
  if length > 64 then return (INVALID_PARAMETER, out)
  let zero_count := (bytes.takeWhile (· = 0)).length
  let tmp := bytes.drop zero_count
  -- j loses a round for every digit, and the buffer has none in front of its start
  let (buffer, j) ← base58_digits (2 * length + 1) tmp (List.replicate 64 0) (2 * length)
  let j ← skip_ones buffer (2 * length - j) j
  let (buffer, j) ← push_ones zero_count buffer j
  let digits := (buffer.drop j).take (2 * length - j)
  if maxoutlen < digits.length + 1 then return (EXCEPTION_OVERFLOW, out)
  let out ← copy_at out 0 digits
  let out ← write_at out digits.length 0
  return (0, out)

/-! ## Integers -/

/-- The digit loop of `print_u64`. -/
def u64_digits (outlen : ℕ) : ℕ → List UInt8 → ℕ → ℕ → Option (List UInt8 × ℕ)
  | 0, _, _, _ => none
  | rounds + 1, out, i, dVal => do
    let c := if dVal > 0 then UInt8.ofNat (dVal % 10) + char '0' else char '0'
    let out ← write_at out i c
    let dVal := dVal / 10
    let i := i + 1
    if dVal > 0 ∧ i < outlen then u64_digits outlen rounds out i dVal else some (out, i)

def print_u64 (u64 : UInt64) (out : List UInt8) (out_length : ℕ) : PrintResult := do
  if out_length > INT_MAX then return (1, out)
  let outlen := out_length
  let (out, i) ← if 0 < outlen - 1 then u64_digits outlen outlen out 0 u64.toNat
    else some (out, 0)
  if i ≥ outlen then return (1, out)
  let out ← write_at out i 0
  let out ← reverse_between i out 0 (i - 1)
  return (0, out)

/-- A negative number is printed as `-` and its magnitude. -/
def print_i64 (i64 : Int64) (out : List UInt8) (out_length : ℕ) : PrintResult := do
  if out_length < 1 then return (1, out)
  let u64 := i64.toUInt64
  if i64 < 0 then
    let out ← write_at out 0 (char '-')
    let (rc, rest) ← print_u64 ((u64 ^^^ 0xffffffffffffffff) + 1) (out.drop 1) (out_length - 1)
    return (rc, out.take 1 ++ rest)
  else
    print_u64 u64 out out_length

/-! ## Timestamps -/

def DayOffset : List UInt32 := [0, 306, 337, 0, 31, 61, 92, 122, 153, 184, 214, 245, 275]

/-- The year, month and day of a day number, in the source's 32-bit arithmetic. -/
def rdn_to_ymd (rdn : UInt32) : Option (ℕ × ℕ × ℕ) :=
  let Z := rdn + 306
  let H := 100 * Z - 25
  let A := H / 3652425
  let B := A - (A >>> 2)
  let y := (100 * B + H) / 36525
  let d := B + Z - ((1461 * y) >>> 2)
  let m := (535 * d + 48950) >>> 14
  let (y, m) := if m > 12 then (y + 1, m - 12) else (y, m)
  if y > 9999 ∨ m > 12 ∨ d > 31 + DayOffset.getD m.toNat 0 then none
  else some (y.toUInt16.toNat, m.toUInt16.toNat, (d - DayOffset.getD m.toNat 0).toUInt16.toNat)

/-- 1970-01-01 00:00:00. -/
def EPOCH : Int64 := 62135683200

def digit (n : ℕ) : UInt8 := UInt8.ofNat (n % 10) + char '0'

/-- `sec`, which counts from the beginning of the year 1. -/
def rfc3339_seconds (seconds : Int64) : ℕ := (seconds + EPOCH).toUInt64.toNat

/-- `YYYY-MM-DD hh:mm:ss`, at second `v` of the day, and its terminator. -/
def rfc3339_text (y m d v : ℕ) : List UInt8 :=
  [digit (y / 1000), digit (y / 100), digit (y / 10), digit y, char '-',
    digit (m / 10), digit m, char '-', digit (d / 10), digit d, char ' ',
    digit (v / 36000), digit (v / 3600), char ':',
    digit (v / 600 % 6), digit (v / 60), char ':', digit (v / 10 % 6), digit v, 0]

def rfc3339_format (dst : List UInt8) (len : ℕ) (seconds : Int64) : PrintResult :=
  if 19 ≥ len then some (1, dst)
  -- the sum with `EPOCH` is not an `int64_t`
  else if seconds.toInt + EPOCH.toInt > Int64.maxValue.toInt then none
  else
    match rdn_to_ymd (UInt32.ofNat (rfc3339_seconds seconds / 86400)) with
    | none => some (1, dst)
    | some (y, m, d) =>
      (copy_at dst 0 (rfc3339_text y m d (rfc3339_seconds seconds % 86400))).map (0, ·)

def print_timestamp (timestamp : Int64) (out : List UInt8) (out_length : ℕ) : PrintResult :=
  rfc3339_format out out_length timestamp

end RenecLedger
