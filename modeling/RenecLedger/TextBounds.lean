/-
Printers that fit in their buffers.

The accesses in bounds of a buffer succeed and leave its size, so a printer whose text fits does
so too. `Prints` says it of a printer, with its return code. Strings, integers, keys and hashes
always fit in the buffer of the summary. A token amount and a timestamp do not: the two rules
`prints_token_amount_iff` and `prints_timestamp_iff` say which ones do.
-/
import RenecLedger.Base58
import RenecLedger.Calendar
import RenecLedger.IntegerTexts
import RenecLedger.SummaryDisplay
import RenecLedger.TokenAmountBounds

set_option autoImplicit false

open NumeralLib

namespace RenecLedger

/-- The printer stays in bounds, and leaves a buffer of the same size. -/
def Prints (result : PrintResult) (rc size : ℕ) : Prop :=
  ∃ out, result = some (rc, out) ∧ out.length = size

/-! ## Accesses in bounds -/

theorem write_at_ok {buf : List UInt8} {i : ℕ} (h : i < buf.length) (c : UInt8) :
    ∃ buf', write_at buf i c = some buf' ∧ buf'.length = buf.length := by
  refine ⟨buf.set i c, ?_, List.length_set⟩
  rw [write_at, if_pos h]

theorem copy_at_ok {buf bytes : List UInt8} {i : ℕ} (h : i + bytes.length ≤ buf.length) :
    ∃ buf', copy_at buf i bytes = some buf' ∧ buf'.length = buf.length := by
  refine ⟨_, if_pos h, ?_⟩
  rw [List.length_append, List.length_append, List.length_take, List.length_drop]
  omega

theorem strncpy_ok (string : List UInt8) {buf : List UInt8} {i n : ℕ} (h : i + n ≤ buf.length) :
    ∃ buf', strncpy buf i string n = some buf' ∧ buf'.length = buf.length :=
  copy_at_ok ((strncpy_length string n).symm ▸ h)

/-! ## Strings -/

theorem prints_signal_truncation {out : List UInt8} {n : ℕ} (hpos : 1 ≤ n) (h : n ≤ out.length) :
    Prints (signal_truncation out n) 1 out.length := by
  obtain ⟨out₁, hwrite, hlen⟩ := write_at_ok (by omega : n - 1 < out.length) 0
  have hsome : ¬n = 0 := by omega
  rw [signal_truncation, if_neg hsome, hwrite, Option.bind_eq_bind, Option.bind_some]
  by_cases hone : n - 1 ≠ 0
  · obtain ⟨out₂, hwrite', hlen'⟩ := write_at_ok (by omega : n - 2 < out₁.length) (char '~')
    rw [if_pos hone, hwrite']
    exact ⟨out₂, rfl, hlen'.trans hlen⟩
  · rw [if_neg hone]
    exact ⟨out₁, rfl, hlen⟩

/-- A string is cut off where it does not fit. -/
theorem print_string_ok (string : List UInt8) {out : List UInt8} {n : ℕ} (hpos : 1 ≤ n)
    (h : n ≤ out.length) : ∃ rc, Prints (print_string string out n) rc out.length := by
  obtain ⟨out₁, hcopy, hlen⟩ := strncpy_ok string (by omega : 0 + n ≤ out.length)
  have hsome : ¬n = 0 := by omega
  have hlast : n - 1 < out₁.length := by omega
  rw [print_string, hcopy, Option.bind_eq_bind, Option.bind_some, if_neg hsome,
    List.getElem?_eq_getElem hlast, Option.bind_eq_bind, Option.bind_some]
  by_cases hcut : out₁[n - 1] ≠ 0
  · rw [if_pos hcut, ← hlen]
    exact ⟨1, prints_signal_truncation hpos (by omega)⟩
  · rw [if_neg hcut]
    exact ⟨0, out₁, rfl, hlen⟩

theorem prints_string {string out : List UInt8} {n : ℕ} (hfits : (c_str string).length < n)
    (h : n ≤ out.length) : Prints (print_string string out n) 0 out.length := by
  obtain ⟨rc, out', hprint, hlen⟩ := print_string_ok string (by omega : 1 ≤ n) h
  obtain rfl : rc = 0 := (print_string_text hprint).2.mpr hfits
  exact ⟨out', hprint, hlen⟩

theorem print_sized_string_ok (string : SizedString) {out : List UInt8} (hpos : 1 ≤ out.length) :
    ∃ rc, Prints (print_sized_string string out out.length) rc out.length := by
  obtain ⟨out₁, hcopy, hlen⟩ := strncpy_ok string.buffer
    (by omega : 0 + min out.length string.buffer.length ≤ out.length)
  rw [print_sized_string, hcopy, Option.bind_eq_bind, Option.bind_some]
  by_cases hfits : string.buffer.length < out.length
  · obtain ⟨out₂, hwrite, hlen'⟩ := write_at_ok (by omega : string.buffer.length < out₁.length) 0
    rw [if_pos hfits, hwrite]
    exact ⟨0, out₂, rfl, hlen'.trans hlen⟩
  · rw [if_neg hfits, ← hlen]
    exact ⟨1, prints_signal_truncation (by omega) (Nat.le_refl _)⟩

/-! ## Keys and hashes -/

theorem base58_number_length (bytes : List UInt8) {k : ℕ} (h : 256 ^ bytes.length ≤ 58 ^ k) :
    (base58_number (big_endian bytes)).length ≤ k := by
  have hbytes : ∀ x ∈ bytes.reverse.map UInt8.toNat, x < 256 := by
    intro x hx
    obtain ⟨b, -, rfl⟩ := List.mem_map.mp hx
    exact UInt8.toNat_lt b
  have hlt := Nat.ofDigits_lt_base_pow_length (by decide) hbytes
  rw [List.length_map, List.length_reverse] at hlt
  rw [base58_number, List.length_reverse, List.length_map, Nat.digits_length_le_iff (by decide)]
  exact hlt.trans_le h

/-- A zero byte takes one place, and the others take no more than 44 together. -/
theorem base58_length_lt {bytes : List UInt8} (h : bytes.length = PUBKEY_SIZE) :
    (base58 bytes).length < BASE58_PUBKEY_LENGTH := by
  have hpow : ∀ zeros ≤ PUBKEY_SIZE, 256 ^ (PUBKEY_SIZE - zeros) ≤ 58 ^ (44 - zeros) := by
    decide +kernel
  have hzeros : (bytes.takeWhile (· = 0)).length ≤ PUBKEY_SIZE :=
    h ▸ (List.takeWhile_sublist _).length_le
  have hnumber := base58_number_length (bytes.drop (bytes.takeWhile (· = 0)).length)
    (by rw [List.length_drop, h]; exact hpow _ hzeros)
  rw [big_endian_zeros] at hnumber
  rw [base58, List.length_append, List.length_replicate]
  have hsize : PUBKEY_SIZE = 32 := rfl
  have hbuffer : BASE58_PUBKEY_LENGTH = 45 := rfl
  omega

/-- A text in base 58 is at least as long as the bytes. -/
theorem length_le_base58 (bytes : List UInt8) : bytes.length ≤ (base58 bytes).length := by
  induction bytes with
  | nil => exact Nat.zero_le _
  | cons b bytes ih =>
    rw [base58, List.length_append, List.length_replicate, base58_number, List.length_reverse,
      List.length_map, big_endian_cons]
    by_cases hb : b = 0
    · rw [base58, List.length_append, List.length_replicate, base58_number, List.length_reverse,
        List.length_map] at ih
      subst hb
      rw [List.takeWhile_cons_of_pos (by decide)]
      simp only [List.length_cons, UInt8.toNat_zero, Nat.zero_mul, Nat.zero_add]
      omega
    · -- the first byte is one of the digits, so the number is large
      have hpos : 1 ≤ b.toNat := Nat.one_le_iff_ne_zero.mpr fun h => hb (UInt8.toNat_inj.mp h)
      have hlarge : 58 ^ bytes.length ≤ b.toNat * 256 ^ bytes.length + big_endian bytes :=
        calc 58 ^ bytes.length ≤ 256 ^ bytes.length := Nat.pow_le_pow_left (by decide) _
          _ ≤ b.toNat * 256 ^ bytes.length := Nat.le_mul_of_pos_left _ hpos
          _ ≤ _ := Nat.le_add_right _ _
      have hdigits := (Nat.lt_digits_length_iff (by decide : 1 < 58) _).mpr hlarge
      rw [List.length_cons]
      omega

/-- A key or a hash is encoded into a buffer of the size that its text needs. -/
theorem prints_base58 {bytes out : List UInt8} (h : bytes.length = PUBKEY_SIZE)
    (hout : out.length = BASE58_PUBKEY_LENGTH) :
    Prints (encode_base58 bytes out BASE58_PUBKEY_LENGTH) 0 BASE58_PUBKEY_LENGTH := by
  have hlen := base58_length_lt h
  obtain ⟨out₁, hcopy, hlen₁⟩ := copy_at_ok (by omega : 0 + (base58 bytes).length ≤ out.length)
  obtain ⟨out₂, hwrite, hlen₂⟩ := write_at_ok (by omega : (base58 bytes).length < out₁.length) 0
  rw [encode_base58_eq bytes out _ h.le, if_neg (by omega), hcopy, Option.bind_eq_bind,
    Option.bind_some, hwrite]
  exact ⟨out₂, rfl, by omega⟩

/-- The two ends of a string around two points, or all of it. -/
theorem prints_summary {string out : List UInt8} {out_length left_length right_length : ℕ}
    (hparts : left_length + right_length + 2 < out_length) (h : out_length ≤ out.length) :
    Prints (print_summary string out out_length left_length right_length) 0 out.length := by
  have hroom : ¬out_length ≤ left_length + right_length + 2 := by omega
  rw [print_summary, if_neg hroom]
  dsimp only
  by_cases hlong : (c_str string).length + 1 > out_length
  · have hleft := List.length_take_le left_length string
    have hright := List.length_take_le right_length
      (string.drop ((c_str string).length - right_length))
    obtain ⟨out₁, hcopy₁, hlen₁⟩ :=
      copy_at_ok (by omega : 0 + (string.take left_length).length ≤ out.length)
    obtain ⟨out₂, hwrite₂, hlen₂⟩ := write_at_ok (by omega : left_length < out₁.length) (char '.')
    obtain ⟨out₃, hwrite₃, hlen₃⟩ :=
      write_at_ok (by omega : left_length + 1 < out₂.length) (char '.')
    have hend : left_length + 2 + ((string.drop ((c_str string).length - right_length)).take
        right_length).length ≤ out₃.length := by omega
    obtain ⟨out₄, hcopy₄, hlen₄⟩ := copy_at_ok hend
    obtain ⟨out₅, hwrite₅, hlen₅⟩ :=
      write_at_ok (by omega : left_length + right_length + 2 < out₄.length) 0
    rw [if_pos hlong]
    simp only [Option.bind_eq_bind, hcopy₁, hwrite₂, hwrite₃, hcopy₄, hwrite₅, Option.bind_some]
    exact ⟨out₅, rfl, by omega⟩
  · obtain ⟨rc, out₁, hprint, hlen⟩ :=
      print_string_ok string (by omega : 1 ≤ out_length) h
    rw [if_neg hlong, hprint]
    exact ⟨out₁, rfl, hlen⟩

theorem prints_pubkey (pubkey : PubkeyRef) (flags : DisplayFlags) {text : List UInt8}
    (h : text.length = TEXT_BUFFER_LENGTH) :
    Prints (print_pubkey pubkey flags text) 0 text.length := by
  obtain ⟨tmp_buf, hencode, -⟩ := prints_base58 pubkey.key.size
    (List.length_replicate (n := BASE58_PUBKEY_LENGTH) (a := (0 : UInt8)))
  have htext := encode_base58_text pubkey.key.size.le hencode
  have hlen := base58_length_lt pubkey.key.size
  rw [print_pubkey, hencode, Option.bind_eq_bind, Option.bind_some]
  dsimp only
  rw [if_neg (not_not.mpr rfl)]
  by_cases hlong : flags.DisplayFlagLongPubkeys
  · rw [if_pos hlong]
    refine prints_string ?_ h.ge
    rw [c_str_c_str, htext]
    exact hlen
  · rw [if_neg hlong]
    refine prints_summary (by decide) ?_
    rw [h]
    decide

/-! ## Integers -/

theorem decimal_length_le {n k : ℕ} (hk : 0 < k) (h : n < 10 ^ k) : (decimal n).length ≤ k := by
  rw [length_decimal, List.length_map]
  exact numeral_length_le (by decide) hk h

/-- A text that fits is printed. -/
theorem PrintsInteger.prints {result : PrintResult} {text out : List UInt8} {sign : ℕ}
    (h : PrintsInteger result text out sign) (hroom : sign + 1 < out.length)
    (hfits : text.length < out.length) (hmax : out.length ≤ INT_MAX) :
    Prints result 0 out.length := by
  obtain ⟨rc, out', hresult, hlen, h⟩ := h
  obtain rfl : rc = 0 := (h (Nat.ne_of_gt hroom)).1.mpr ⟨hfits, Nat.le_add_right_of_le hmax⟩
  exact ⟨out', hresult, hlen⟩

/-- The digits of a 64-bit number are no more than 20. -/
theorem prints_u64 (u64 : UInt64) {out : List UInt8} (h : 20 < out.length)
    (hmax : out.length ≤ INT_MAX) : Prints (print_u64 u64 out out.length) 0 out.length := by
  have hv : u64.toNat < 10 ^ 20 := (UInt64.toNat_lt u64).trans_le (by decide)
  have hlen := decimal_length_le (by decide : 0 < 20) hv
  exact (prints_integer_u64 u64 out).prints (by omega) (by omega) hmax

theorem prints_i64 (i64 : Int64) {out : List UInt8} (h : 21 < out.length)
    (hmax : out.length ≤ INT_MAX) : Prints (print_i64 i64 out out.length) 0 out.length := by
  have hlen : (decimal_int i64.toInt).length ≤ 21 := by
    have hlow := i64.le_toInt
    have hhigh := i64.toInt_lt
    by_cases hnegative : i64.toInt < 0
    · have hv := decimal_length_le (by decide : 0 < 20) (by omega : (-i64.toInt).toNat < 10 ^ 20)
      rw [decimal_int_neg hnegative, List.length_cons]
      omega
    · have hv := decimal_length_le (by decide : 0 < 20) (by omega : i64.toInt.toNat < 10 ^ 20)
      rw [decimal_int_nonneg (Int.not_lt.mp hnegative)]
      omega
  refine (prints_integer_i64 i64 out).prints ?_ (by omega) hmax
  split <;> omega

/-! ## Token amounts

An amount has no more than 20 digits, so with 20 decimals or more there is a single digit in
front of the point. -/

theorem whole_length (amount : UInt64) (decimals : ℕ) :
    1 ≤ (numeral 10 (amount.toNat / 10 ^ decimals)).length ∧
      (numeral 10 (amount.toNat / 10 ^ decimals)).length ≤ max 1 (20 - decimals) := by
  refine ⟨List.length_pos_of_ne_nil (numeral_ne_nil (by decide) _), ?_⟩
  refine numeral_length_le (by decide) (by omega) (Nat.div_lt_of_lt_mul ?_)
  calc amount.toNat < 10 ^ 20 := (UInt64.toNat_lt amount).trans_le (by decide)
    _ ≤ 10 ^ (decimals + max 1 (20 - decimals)) := Nat.pow_le_pow_right (by decide) (by omega)
    _ = 10 ^ decimals * 10 ^ max 1 (20 - decimals) := Nat.pow_add ..

theorem amount_width_lt_iff (amount : UInt64) (decimals : ℕ) :
    amount_width amount.toNat decimals < TEXT_BUFFER_LENGTH ↔ decimals ≤ 42 := by
  have hsize : TEXT_BUFFER_LENGTH = 45 := rfl
  have hwhole := whole_length amount decimals
  rw [amount_width]
  omega

/-- The text of an amount and `length` bytes with a blank and a terminator fit when the amount
does not need more than `41 - length` places behind the point. -/
theorem amount_text_fits_iff (amount : UInt64) (decimals : ℕ) {length : ℕ} (h : length ≤ 22) :
    (amount_text amount.toNat decimals).length + length + 2 ≤ TEXT_BUFFER_LENGTH ↔
      10 ^ (decimals - (41 - length)) ∣ amount.toNat := by
  have hsize : TEXT_BUFFER_LENGTH = 45 := rfl
  have hwhole := whole_length amount decimals
  rw [amount_text_length]
  by_cases hfew : decimals < 20
  · have hmod : amount.toNat % 10 ^ decimals < 10 ^ decimals :=
      Nat.mod_lt _ (Nat.pow_pos (by decide))
    have hfraction : (fraction 10 decimals (amount.toNat % 10 ^ decimals)).length ≤ decimals := by
      rw [fraction_length_le_iff (by decide) hmod, Nat.sub_self]
      exact one_dvd _
    rw [Nat.sub_eq_zero_of_le (by omega)]
    refine iff_of_true ?_ (one_dvd _)
    split <;> omega
  · have hlt : amount.toNat < 10 ^ decimals := by
      calc amount.toNat < 10 ^ 20 := (UInt64.toNat_lt amount).trans_le (by decide)
        _ ≤ 10 ^ decimals := Nat.pow_le_pow_right (by decide) (by omega)
    rw [Nat.mod_eq_of_lt hlt, ← fraction_length_le_iff (by decide) hlt]
    split
    · rename_i hnil
      rw [hnil, List.length_nil]
      omega
    · omega

/-- An amount fits into the text of the summary together with its symbol. -/
def AmountFits (amount : UInt64) (decimals : UInt8) (symbol : List UInt8) : Prop :=
  decimals.toNat ≤ 42 ∧ 10 ^ (decimals.toNat - (41 - symbol.length)) ∣ amount.toNat

instance (amount : UInt64) (decimals : UInt8) (symbol : List UInt8) :
    Decidable (AmountFits amount decimals symbol) :=
  inferInstanceAs (Decidable (_ ∧ _))

theorem prints_token_amount_end_iff {asset out : List UInt8} {i : ℕ} (hasset : CountedString asset)
    (hmax : out.length ≤ INT_MAX) :
    Prints (token_amount_end (some asset) out i out.length) 0 out.length ↔
      i + asset.length + 2 ≤ out.length := by
  obtain ⟨hlength, hcopied⟩ := hasset.length
  rw [token_amount_end]
  dsimp only
  rw [hlength, hcopied]
  by_cases hsum : (i : ℤ) + 1 + asset.length + 1 > INT_MAX
  · rw [if_pos hsum]
    refine iff_of_false ?_ (by omega)
    rintro ⟨out', hnone, -⟩
    cases hnone
  rw [if_neg hsum]
  by_cases hspace : (i : ℤ) + 1 + asset.length + 1 > out.length
  · rw [if_pos hspace]
    refine iff_of_false ?_ (by omega)
    rintro ⟨out', hone, -⟩
    cases hone
  · obtain ⟨out₁, hwrite, hlen₁⟩ := write_at_ok (by omega : i < out.length) (char ' ')
    obtain ⟨out₂, hcopy, hlen₂⟩ :=
      strncpy_ok asset (by omega : i + 1 + (asset.length + 1) ≤ out₁.length)
    rw [if_neg hspace, hwrite, Option.bind_eq_bind, Option.bind_some, hcopy]
    exact iff_of_true ⟨out₂, rfl, by omega⟩ (by omega)

/-- **A token amount is printed** exactly when it fits. -/
theorem prints_token_amount_iff (amount : UInt64) {symbol : List UInt8} (decimals : UInt8)
    {text : List UInt8} (hsymbol : CountedString symbol) (hlen : symbol.length ≤ 22)
    (h : text.length = TEXT_BUFFER_LENGTH) :
    Prints (print_token_amount amount (some symbol) decimals text text.length) 0 text.length ↔
      AmountFits amount decimals symbol := by
  have hsize : TEXT_BUFFER_LENGTH = 45 := rfl
  have hmax : text.length ≤ INT_MAX := by
    rw [h]
    decide
  rw [AmountFits, ← amount_text_fits_iff amount decimals.toNat hlen,
    ← amount_width_lt_iff amount, ← h]
  by_cases hfits : amount_width amount.toNat decimals.toNat < text.length
  · obtain ⟨rest, -, hrest, hprint⟩ :=
      print_token_amount_fits amount (some symbol) decimals (by omega) hmax hfits
    rw [hprint, and_iff_right hfits, ← hrest]
    exact prints_token_amount_end_iff hsymbol (hrest.trans_le hmax)
  · refine iff_of_false ?_ fun hboth => hfits hboth.1
    rintro ⟨out', hprint, -⟩
    by_cases hpoint : decimals.toNat + 1 = text.length
    · rw [print_token_amount_point amount (some symbol) decimals (by omega) hmax hpoint] at hprint
      cases hprint
    · obtain ⟨out₁, hwide⟩ := print_token_amount_wide amount (some symbol) decimals (by omega)
        hmax hpoint (Nat.not_lt.mp hfits)
      rw [hwide] at hprint
      cases hprint

theorem prints_amount (amount : UInt64) {text : List UInt8} (h : text.length = TEXT_BUFFER_LENGTH) :
    Prints (print_amount amount text text.length) 0 text.length := by
  have hsymbol : CountedString (c_string "RENEC") := by
    rw [CountedString]
    decide
  rw [print_amount, prints_token_amount_iff amount RENEC_DECIMALS hsymbol (by decide) h]
  exact ⟨by decide, one_dvd _⟩

/-! ## Timestamps -/

/-- **A timestamp is printed** in a buffer with room for one exactly when it is in the
calendar. -/
theorem prints_timestamp_iff (timestamp : Int64) {text : List UInt8} (h : 20 ≤ text.length) :
    Prints (print_timestamp timestamp text text.length) 0 text.length ↔ HasTimestamp timestamp := by
  have hshort : ¬19 ≥ text.length := by omega
  rw [has_timestamp_iff, print_timestamp, rfc3339_format, if_neg hshort]
  by_cases hsum : timestamp.toInt + EPOCH.toInt > Int64.maxValue.toInt
  · rw [if_pos hsum]
    refine iff_of_false ?_ fun h => h.1 hsum
    rintro ⟨text', hnone, -⟩
    cases hnone
  · rw [if_neg hsum, and_iff_right hsum]
    rcases rdn_to_ymd (UInt32.ofNat (rfc3339_seconds timestamp / 86400)) with _ | ⟨y, m, d⟩
    · refine iff_of_false ?_ Bool.false_ne_true
      rintro ⟨text', hfail, -⟩
      cases hfail
    · have hlen : (rfc3339_text y m d (rfc3339_seconds timestamp % 86400)).length = 20 := rfl
      obtain ⟨text', hcopy, hsize⟩ := copy_at_ok (by omega : 0 + (rfc3339_text y m d
        (rfc3339_seconds timestamp % 86400)).length ≤ text.length)
      dsimp only
      rw [hcopy]
      exact iff_of_true ⟨text', rfl, hsize⟩ rfl

end RenecLedger
