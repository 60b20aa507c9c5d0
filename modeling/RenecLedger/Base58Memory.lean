/-
The scratch buffers of `encode_base58`.

The function is written once more on `tmp` and `buffer` as the source declares them: 64 bytes
each, of any contents, with an index for every access (`Raw.encode_base58`). Its length check
lets 64 bytes through, but the cursor starts at twice the length: from 33 bytes on, the first
byte written lies behind the buffer, whatever the bytes are (`scratch_in_bounds_iff`). Up to 32
bytes, the memory holds what the lists do.
-/
import RenecLedger.Base58

set_option autoImplicit false

namespace RenecLedger

/-! ## On memory -/

/-- `uint8_t tmp[64]` and `uint8_t buffer[64]`, uninitialised. -/
structure Base58Scratch where
  tmp : List UInt8
  tmp_size : tmp.length = 64
  buffer : List UInt8
  buffer_size : buffer.length = 64
deriving DecidableEq

/-- How a run goes wrong: an access outside of `tmp` or `buffer`, one outside of `out`, or a
loop with more rounds than its bound. -/
inductive Base58Fault
  | scratch
  | output
  | unfinished
deriving DecidableEq

/-- An access that may be outside. -/
def accessed {α : Type} (fault : Base58Fault) (access : Option α) : Except Base58Fault α :=
  match access with
  | some a => .ok a
  | none => .error fault

theorem accessed_bind {α β : Type} {fault : Base58Fault} {access : Option α} {a : α}
    (h : access = some a) (f : α → Except Base58Fault β) :
    (accessed fault access >>= f) = f a := by
  rw [h]
  rfl

theorem accessed_none_bind {α β : Type} {fault : Base58Fault} {access : Option α}
    (h : access = none) (f : α → Except Base58Fault β) :
    (accessed fault access >>= f) = .error fault := by
  rw [h]
  rfl

theorem ok_bind {α β : Type} {r : Except Base58Fault α} {a : α} (h : r = .ok a)
    (f : α → Except Base58Fault β) : (r >>= f) = f a := by
  rw [h]
  rfl

namespace Raw

/-- `while ((zero_count < length) && (tmp[zero_count] == 0))`. -/
def count_zeros (tmp : List UInt8) (length : ℕ) : ℕ → ℕ → Except Base58Fault ℕ
  | 0, zero_count => if zero_count < length then .error .unfinished else .ok zero_count
  | rounds + 1, zero_count =>
    if zero_count < length then do
      let b ← accessed .scratch tmp[zero_count]?
      if b = 0 then count_zeros tmp length rounds (zero_count + 1) else .ok zero_count
    else .ok zero_count

/-- `for (; div_loop < length; div_loop++)`, for `length - div_loop` rounds. The dividend is
smaller than 58 * 256 and fits in its `uint16_t`. -/
def base58_divide : ℕ → List UInt8 → ℕ → ℕ → Except Base58Fault (List UInt8 × ℕ)
  | 0, tmp, _, remainder => .ok (tmp, remainder)
  | rounds + 1, tmp, div_loop, remainder => do
    let digit256 ← accessed .scratch tmp[div_loop]?
    let tmp_div := remainder * 256 + digit256.toNat
    let tmp ← accessed .scratch (write_at tmp div_loop (UInt8.ofNat (tmp_div / 58)))
    base58_divide rounds tmp (div_loop + 1) (tmp_div % 58)

/-- `while (start_at < length)`. -/
def base58_digits (length : ℕ) :
    ℕ → List UInt8 → List UInt8 → ℕ → ℕ → Except Base58Fault (List UInt8 × ℕ)
  | 0, _, buffer, start_at, j =>
    if start_at < length then .error .unfinished else .ok (buffer, j)
  | rounds + 1, tmp, buffer, start_at, j =>
    if start_at < length then do
      let (tmp, remainder) ← base58_divide (length - start_at) tmp start_at 0
      let first ← accessed .scratch tmp[start_at]?
      let start_at := if first = 0 then start_at + 1 else start_at
      let (buffer, j) ← accessed .scratch (push_front buffer j (BASE58_ALPHABET.getD remainder 0))
      base58_digits length rounds tmp buffer start_at j
    else .ok (buffer, j)

def encode_base58 (scratch : Base58Scratch) (bytes out : List UInt8) (maxoutlen : ℕ) :
    Except Base58Fault (ℕ × List UInt8) := do
  let length := bytes.length
  if length > 64 then return (INVALID_PARAMETER, out)
  let tmp ← accessed .scratch (copy_at scratch.tmp 0 bytes)
  let zero_count ← count_zeros tmp length length 0
  let (buffer, j) ← base58_digits length (2 * length + 1) tmp scratch.buffer zero_count (2 * length)
  let j ← accessed .scratch (skip_ones buffer (2 * length - j) j)
  let (buffer, j) ← accessed .scratch (push_ones zero_count buffer j)
  let length := 2 * length - j
  if maxoutlen < length + 1 then return (EXCEPTION_OVERFLOW, out)
  let digits ← accessed .scratch
    (if j + length ≤ buffer.length then some ((buffer.drop j).take length) else none)
  let out ← accessed .output (copy_at out 0 digits)
  let out ← accessed .output (write_at out length 0)
  return (0, out)

end Raw

/-! ## The loops on `tmp` -/

theorem getElem?_behind_front (front bytes rest : List UInt8) (b : UInt8) :
    (front ++ b :: bytes ++ rest)[front.length]? = some b := by
  rw [List.append_assoc, List.getElem?_append_right (Nat.le_refl _), Nat.sub_self]
  rfl

/-- The bytes of `tmp` that are still to be encoded, and what lies around them. -/
theorem count_zeros_eq (length rounds : ℕ) (front bytes rest : List UInt8)
    (hlength : front.length + bytes.length = length) (hrounds : bytes.length ≤ rounds) :
    Raw.count_zeros (front ++ bytes ++ rest) length rounds front.length =
      .ok (front.length + (bytes.takeWhile (· = 0)).length) := by
  induction bytes generalizing rounds front with
  | nil =>
    have hend : ¬front.length < length := by
      rw [List.length_nil] at hlength
      omega
    cases rounds with
    | zero => rw [Raw.count_zeros, if_neg hend]; rfl
    | succ rounds => rw [Raw.count_zeros, if_neg hend]; rfl
  | cons b bytes ih =>
    rw [List.length_cons] at hlength hrounds
    obtain ⟨rounds, rfl⟩ : ∃ k, rounds = k + 1 := ⟨rounds - 1, by omega⟩
    rw [Raw.count_zeros, if_pos (by omega), getElem?_behind_front]
    change (if b = 0 then _ else _) = _
    by_cases hb : b = 0
    · have hrec := ih rounds (front ++ [b]) (by
        rw [List.length_append, List.length_singleton]; omega) (by omega)
      rw [List.length_append, List.length_singleton, List.append_assoc front,
        List.singleton_append] at hrec
      rw [if_pos hb, hrec, List.takeWhile_cons_of_pos (by simpa using hb), List.length_cons]
      congr 1
      omega
    · rw [if_neg hb, List.takeWhile_cons_of_neg (by simpa using hb)]
      rfl

/-- The division loop works on the bytes from its start on, up to the length. -/
theorem raw_divide_eq (front bytes rest : List UInt8) (remainder : ℕ) :
    Raw.base58_divide bytes.length (front ++ bytes ++ rest) front.length remainder =
      .ok (front ++ (base58_divide remainder bytes).1 ++ rest,
        (base58_divide remainder bytes).2) := by
  induction bytes generalizing front remainder with
  | nil => rfl
  | cons b bytes ih =>
    have hwrite : ∀ c, write_at (front ++ b :: bytes ++ rest) front.length c =
        some (front ++ [c] ++ bytes ++ rest) := by
      intro c
      rw [List.append_assoc, List.cons_append, write_at_append]
      simp
    have hrec := ih (front ++ [UInt8.ofNat ((remainder * 256 + b.toNat) / 58)])
      ((remainder * 256 + b.toNat) % 58)
    rw [List.length_append, List.length_singleton] at hrec
    rw [List.length_cons, Raw.base58_divide, getElem?_behind_front]
    change (accessed _ (write_at _ _ _)).bind _ = _
    rw [hwrite]
    change Raw.base58_divide _ _ _ _ = _
    rw [hrec, base58_divide]
    simp

/-- A round of the digit loop: the bytes become their quotient, and the digit is written. -/
theorem raw_digits_round {length : ℕ} (rounds : ℕ) {front bytes : List UInt8} {b : UInt8}
    (rest : List UInt8) {buffer buffer' : List UInt8} {j j' : ℕ}
    (hlength : front.length + (b :: bytes).length = length)
    (hpush : push_front buffer j (base58_char (base58_divide 0 (b :: bytes)).2) =
      some (buffer', j')) :
    ∃ q quotient, (base58_divide 0 (b :: bytes)).1 = q :: quotient ∧
      quotient.length = bytes.length ∧
      Raw.base58_digits length (rounds + 1) (front ++ b :: bytes ++ rest) buffer front.length j =
        Raw.base58_digits length rounds (front ++ q :: quotient ++ rest) buffer'
          (if q = 0 then front.length + 1 else front.length) j' := by
  obtain ⟨hquotient, -, -⟩ := base58_divide_spec 0 (by decide) (b :: bytes)
  have hcount : length - front.length = (b :: bytes).length := by omega
  have hlt : front.length < length := by
    rw [List.length_cons] at hlength
    omega
  have hdivide := raw_divide_eq front (b :: bytes) rest 0
  generalize base58_divide 0 (b :: bytes) = division at hpush hquotient hdivide
  obtain ⟨quotient, remainder⟩ := division
  cases quotient with
  | nil => cases hquotient
  | cons q quotient =>
    refine ⟨q, quotient, rfl, Nat.succ.inj hquotient, ?_⟩
    rw [Raw.base58_digits, if_pos hlt, hcount, ok_bind hdivide]
    dsimp only
    rw [accessed_bind (getElem?_behind_front front quotient rest q)]
    exact accessed_bind hpush _

/-- **The digit loop** on memory is the one on the bytes that are left, wherever that ends. -/
theorem raw_digits_eq {length : ℕ} (rounds : ℕ) (front bytes rest buffer : List UInt8) (j : ℕ)
    {result : List UInt8 × ℕ} (hlength : front.length + bytes.length = length)
    (h : base58_digits rounds bytes buffer j = some result) :
    Raw.base58_digits length rounds (front ++ bytes ++ rest) buffer front.length j =
      .ok result := by
  induction rounds generalizing front bytes buffer j with
  | zero =>
    cases bytes with
    | nil =>
      cases h
      rw [Raw.base58_digits, if_neg (by rw [List.length_nil] at hlength; omega)]
    | cons b bytes => cases h
  | succ rounds ih =>
    cases bytes with
    | nil =>
      cases h
      rw [Raw.base58_digits, if_neg (by rw [List.length_nil] at hlength; omega)]
    | cons b bytes =>
      rw [base58_digits_cons, Option.bind_eq_some_iff] at h
      obtain ⟨⟨buffer', j'⟩, hpush, h⟩ := h
      obtain ⟨q, quotient, hdivide, hquotient, hround⟩ :=
        raw_digits_round rounds rest hlength hpush
      rw [hround]
      rw [base58_round, hdivide, List.headD_cons] at h
      rw [List.length_cons] at hlength
      by_cases hq : q = 0
      · -- the byte in front is used up
        have hrec := ih (front ++ [q]) quotient buffer' j'
          (by rw [List.length_append, List.length_singleton]; omega) (by rwa [if_pos hq] at h)
        rw [List.length_append, List.length_singleton, List.append_assoc front,
          List.singleton_append] at hrec
        rw [if_pos hq, hrec]
      · have hrec := ih front (q :: quotient) buffer' j' (by rw [List.length_cons]; omega)
          (by rwa [if_neg hq] at h)
        rw [if_neg hq, hrec]

/-! ## Which lengths stay inside -/

section Lengths

variable (scratch : Base58Scratch) {bytes : List UInt8} (out : List UInt8) (maxoutlen : ℕ)

/-- The bytes to encode, in front of what `tmp` holds behind them. -/
theorem copy_tmp (h : bytes.length ≤ 64) :
    copy_at scratch.tmp 0 bytes = some ([] ++ bytes ++ scratch.tmp.drop bytes.length) := by
  rw [copy_at, if_pos (by rw [scratch.tmp_size]; omega), List.take_zero, Nat.zero_add]

theorem count_tmp (bytes rest : List UInt8) :
    Raw.count_zeros ([] ++ bytes ++ rest) bytes.length bytes.length 0 =
      .ok (bytes.takeWhile (· = 0)).length := by
  have hcount := count_zeros_eq bytes.length bytes.length [] bytes rest (Nat.zero_add _)
    (Nat.le_refl _)
  rwa [List.length_nil, Nat.zero_add] at hcount

/-- **Up to 32 bytes**, the run on memory is the one on lists, whatever was in the buffers. -/
theorem raw_encode_eq (h : bytes.length ≤ 32) :
    Raw.encode_base58 scratch bytes out maxoutlen =
      accessed .output (encode_base58 bytes out maxoutlen) := by
  obtain ⟨buffer₁, j₁, j₂, buffer₂, j₃, hdigits, hskip, hones, hlength, hsize, htaken⟩ :=
    base58_loops h scratch.buffer_size
  obtain ⟨hfront, hsplit⟩ := split_zeros bytes
  set zero_count := (bytes.takeWhile (· = 0)).length with hzero
  have hraw := raw_digits_eq (2 * bytes.length + 1) (bytes.take zero_count)
    (bytes.drop zero_count) (scratch.tmp.drop bytes.length) scratch.buffer (2 * bytes.length)
    hsplit hdigits
  rw [List.take_append_drop, hfront] at hraw
  have hread : (if j₃ + (2 * bytes.length - j₃) ≤ buffer₂.length then
      some ((buffer₂.drop j₃).take (2 * bytes.length - j₃)) else none) = some (base58 bytes) := by
    rw [if_pos (by omega), htaken]
  have hlen : 2 * bytes.length - j₃ = (base58 bytes).length := by omega
  rw [encode_base58_eq bytes out maxoutlen h, Raw.encode_base58]
  dsimp only
  rw [if_neg (by omega), accessed_bind (copy_tmp scratch (by omega)), ok_bind (count_tmp bytes _),
    ← hzero, List.nil_append, ok_bind hraw]
  dsimp only
  rw [accessed_bind hskip, accessed_bind hones]
  dsimp only
  rw [hlen] at hread ⊢
  by_cases hroom : maxoutlen < (base58 bytes).length + 1
  · rw [if_pos hroom, if_pos hroom]
    rfl
  · rw [if_neg hroom, if_neg hroom, accessed_bind hread]
    cases hcopy : copy_at out 0 (base58 bytes) with
    | none => rfl
    | some out₁ =>
      cases hwrite : write_at out₁ (base58 bytes).length 0 with
      | none =>
        rw [accessed_bind rfl, accessed_none_bind hwrite, Option.bind_eq_bind, Option.bind_some,
          hwrite]
        rfl
      | some out₂ =>
        rw [accessed_bind rfl, accessed_bind hwrite, Option.bind_eq_bind, Option.bind_some, hwrite]
        rfl

/-- A cursor behind the buffer writes outside. -/
theorem push_front_outside {buffer : List UInt8} {j : ℕ} (hbuffer : buffer.length = 64)
    (hj : 64 < j) (hmax : j ≤ 128) (c : UInt8) : push_front buffer j c = none := by
  rw [push_front, write_at, if_neg (by omega)]
  rfl

/-- A round of the digit loop whose digit is written outside. -/
theorem raw_digits_outside (rounds : ℕ) {length j : ℕ} {front bytes : List UInt8}
    (rest : List UInt8) {buffer : List UInt8}
    (hlength : front.length + bytes.length = length) (hbytes : bytes ≠ [])
    (hpush : ∀ c, push_front buffer j c = none) :
    Raw.base58_digits length (rounds + 1) (front ++ bytes ++ rest) buffer front.length j =
      .error .scratch := by
  have hpos := List.length_pos_iff.mpr hbytes
  have hcount : length - front.length = bytes.length := by omega
  obtain ⟨hquotient, -, -⟩ := base58_divide_spec 0 (by decide) bytes
  have hinside : front.length < (front ++ (base58_divide 0 bytes).1 ++ rest).length := by
    simp only [List.length_append]
    omega
  rw [Raw.base58_digits, if_pos (by omega), hcount, ok_bind (raw_divide_eq front bytes rest 0)]
  dsimp only
  rw [accessed_bind (List.getElem?_eq_getElem hinside), accessed_none_bind (hpush _)]

/-- **From 33 bytes on**, the first byte that is written lies behind the buffer. -/
theorem raw_encode_outside (h : 32 < bytes.length) (hle : bytes.length ≤ 64) :
    Raw.encode_base58 scratch bytes out maxoutlen = .error .scratch := by
  have hpush := push_front_outside scratch.buffer_size (j := 2 * bytes.length) (by omega)
    (by omega)
  obtain ⟨hfront, hsplit⟩ := split_zeros bytes
  set zero_count := (bytes.takeWhile (· = 0)).length with hzero
  rw [Raw.encode_base58]
  dsimp only
  rw [if_neg (by omega), accessed_bind (copy_tmp scratch hle), ok_bind (count_tmp bytes _),
    ← hzero, List.nil_append]
  by_cases hall : zero_count < bytes.length
  · -- a digit is written
    have hround := raw_digits_outside (2 * bytes.length) (scratch.tmp.drop bytes.length) hsplit
      (List.ne_nil_of_length_pos (by rw [List.length_drop]; omega)) hpush
    rw [List.take_append_drop, hfront] at hround
    rw [hround]
    rfl
  · -- only zeros, of which each writes a one
    have hones : push_ones zero_count scratch.buffer (2 * bytes.length) = none := by
      obtain ⟨k, hk⟩ : ∃ k, zero_count = k + 1 := ⟨zero_count - 1, by omega⟩
      rw [hk, push_ones, hpush]
      rfl
    have hdigits : Raw.base58_digits bytes.length (2 * bytes.length + 1)
        (bytes ++ scratch.tmp.drop bytes.length) scratch.buffer zero_count (2 * bytes.length) =
          .ok (scratch.buffer, 2 * bytes.length) := by
      rw [Raw.base58_digits, if_neg hall]
    have hskip : skip_ones scratch.buffer (2 * bytes.length - 2 * bytes.length)
        (2 * bytes.length) = some (2 * bytes.length) := by
      rw [Nat.sub_self]
      rfl
    rw [ok_bind hdigits]
    dsimp only
    rw [accessed_bind hskip, accessed_none_bind hones]

end Lengths

/-- **The accesses to the scratch buffers** stay inside exactly for the lengths up to 32 and
those that are refused. -/
theorem scratch_in_bounds_iff (scratch : Base58Scratch) (bytes out : List UInt8) (maxoutlen : ℕ) :
    Raw.encode_base58 scratch bytes out maxoutlen ≠ .error .scratch ↔
      bytes.length ≤ 32 ∨ 64 < bytes.length := by
  by_cases hsmall : bytes.length ≤ 32
  · rw [raw_encode_eq scratch out maxoutlen hsmall]
    refine iff_of_true ?_ (Or.inl hsmall)
    cases encode_base58 bytes out maxoutlen <;> exact nofun
  by_cases hlong : 64 < bytes.length
  · refine iff_of_true ?_ (Or.inr hlong)
    rw [Raw.encode_base58]
    dsimp only
    rw [if_pos hlong]
    exact nofun
  · have hbetween : 32 < bytes.length ∧ bytes.length ≤ 64 := by omega
    have houtside := raw_encode_outside scratch out maxoutlen hbetween.1 hbetween.2
    exact iff_of_false (not_not.mpr houtside) (by omega)

/-- 33 zero bytes: the last of the ones is written at `buffer[65]`. -/
theorem ones_leave_scratch :
    ¬∀ (scratch : Base58Scratch) (bytes out : List UInt8) (maxoutlen : ℕ), bytes.length ≤ 64 →
      Raw.encode_base58 scratch bytes out maxoutlen ≠ .error .scratch := by
  intro h
  exact h ⟨List.replicate 64 0, rfl, List.replicate 64 0, rfl⟩ (List.replicate 33 0) [] 0
    (by decide) (by decide +kernel)

end RenecLedger
