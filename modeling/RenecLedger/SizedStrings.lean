/-
Seeds on the display.

A seed is raw bytes with a length, and it is copied with `strncpy`, which stops at a zero byte.
What is shown is therefore the C string that the kept bytes begin with.
-/
import RenecLedger.TextSpec

set_option autoImplicit false

open ReaderLib

namespace RenecLedger

/-! ## C strings in parts -/

theorem c_str_cons {b : UInt8} (hb : b ≠ 0) (bytes : List UInt8) :
    c_str (b :: bytes) = b :: c_str bytes :=
  List.takeWhile_cons_of_pos (decide_eq_true hb)

/-- A string has no terminator inside exactly when it is the C string that it begins with. -/
theorem c_str_eq_self_iff {s : List UInt8} : c_str s = s ↔ 0 ∉ s := by
  constructor
  · intro h
    rw [← h]
    exact zero_notMem_c_str s
  · exact c_str_of_notMem

theorem c_str_length_le (s : List UInt8) : (c_str s).length ≤ s.length :=
  (List.takeWhile_sublist _).length_le

/-- Nothing behind a terminator counts. -/
theorem c_str_append_of_mem {front : List UInt8} (h : 0 ∈ front) (rest : List UInt8) :
    c_str (front ++ rest) = c_str front := by
  rw [c_str, List.takeWhile_append, if_neg]
  · rfl
  · intro hlen
    exact c_str_eq_self_iff.mp ((List.takeWhile_prefix _).eq_of_length hlen) h

theorem c_str_append_of_notMem {front : List UInt8} (h : 0 ∉ front) (rest : List UInt8) :
    c_str (front ++ rest) = front ++ c_str rest := by
  rw [c_str, List.takeWhile_append, if_pos]
  · rfl
  · exact congrArg List.length (c_str_eq_self_iff.mpr h)

/-! ## What is copied -/

/-- The first `m` bytes of what `strncpy` has copied of a string. -/
def copied (m : ℕ) (string : List UInt8) : List UInt8 :=
  (c_str string).take m ++ List.replicate (m - (c_str string).length) 0

theorem copied_length (m : ℕ) (string : List UInt8) : (copied m string).length = m := by
  rw [copied, List.length_append, List.length_take, List.length_replicate]
  omega

theorem copied_take {m n : ℕ} (h : m ≤ n) (string : List UInt8) :
    (copied n string).take m = copied m string := by
  rw [copied, copied, List.take_append, List.take_take, List.take_replicate, List.length_take,
    Nat.min_eq_left h]
  congr 2
  omega

/-- The zeros that are copied for a terminator and what is behind it are not seen. -/
theorem c_str_copied_append {m : ℕ} {string : List UInt8} (h : m ≤ string.length)
    (rest : List UInt8) : c_str (copied m string ++ rest) = c_str (string.take m ++ rest) := by
  induction string generalizing m with
  | nil =>
    obtain rfl : m = 0 := Nat.le_zero.mp h
    rfl
  | cons b string ih =>
    cases m with
    | zero =>
      rw [copied, Nat.zero_sub]
      rfl
    | succ m =>
      by_cases hb : b = 0
      · subst hb
        rfl
      · have hcopied : copied (m + 1) (b :: string) = b :: copied m string := by
          rw [copied, c_str_cons hb, List.take_succ_cons, List.length_cons, Nat.add_sub_add_right]
          rfl
        rw [hcopied, List.cons_append, c_str_cons hb, ih (Nat.le_of_succ_le_succ h),
          List.take_succ_cons, List.cons_append, c_str_cons hb]

/-! ## What is shown -/

/-- The last two bytes become the mark and the terminator. -/
theorem signal_truncation_take {out : List UInt8} {n : ℕ} (hn : n + 2 ≤ out.length) :
    signal_truncation out (n + 2) =
      some (1, out.take n ++ char '~' :: 0 :: out.drop (n + 2)) := by
  obtain ⟨x, y, hsplit⟩ : ∃ x y, out = out.take n ++ x :: y :: out.drop (n + 2) :=
    ⟨out[n], out[n + 1], by
      rw [← List.drop_eq_getElem_cons, ← List.drop_eq_getElem_cons, List.take_append_drop]⟩
  have hlen : (out.take n).length = n := List.length_take_of_le (by omega)
  have hend : write_at out (n + 1) 0 = some (out.take n ++ x :: 0 :: out.drop (n + 2)) := by
    have hwrite : write_at (out.take n ++ [x] ++ y :: out.drop (n + 2)) _ 0 = _ :=
      write_at_append y 0
    rw [List.append_assoc, List.singleton_append, List.append_assoc, List.singleton_append,
      ← hsplit, List.length_append, hlen] at hwrite
    exact hwrite
  have hmark : write_at (out.take n ++ x :: 0 :: out.drop (n + 2)) _ (char '~') = _ :=
    write_at_append x (char '~')
  rw [hlen] at hmark
  rw [signal_truncation, if_neg (by omega), Nat.add_sub_cancel, Nat.add_succ_sub_one, hend,
    Option.bind_eq_bind, Option.bind_some, if_pos (Nat.succ_ne_zero n), hmark]
  rfl

/-- **What is shown of a seed** is the C string that the bytes which fit begin with, and the
return code says whether they all do. -/
theorem print_sized_string_text (string : SizedString) {out : List UInt8} {out_length : ℕ}
    (hmin : 2 ≤ out_length) (hout : out_length ≤ out.length) :
    ∃ out', print_sized_string string out out_length =
        some (if string.buffer.length < out_length then 0 else 1, out') ∧
      (∃ i < out_length, out'[i]? = some 0) ∧
      c_str out' = c_str (truncated out_length string.buffer) := by
  have hcopy : strncpy out 0 string.buffer (min out_length string.buffer.length) = _ :=
    strncpy_zero_eq_some.mpr ⟨Nat.le_trans (Nat.min_le_left _ _) hout, rfl⟩
  rw [print_sized_string, hcopy, Option.bind_eq_bind, Option.bind_some, truncated]
  by_cases hfits : string.buffer.length < out_length
  · obtain ⟨x, rest, hrest⟩ : ∃ x rest, out.drop string.buffer.length = x :: rest :=
      List.exists_cons_of_length_pos (by rw [List.length_drop]; omega)
    have hwrite : write_at (copied string.buffer.length string.buffer ++ x :: rest) _ 0 = _ :=
      write_at_append x 0
    rw [copied_length] at hwrite
    rw [if_pos hfits, if_pos hfits, if_pos hfits, Nat.min_eq_right (Nat.le_of_lt hfits), hrest]
    change ∃ out', (write_at (copied _ _ ++ _) _ _).bind _ = _ ∧ _
    rw [hwrite]
    refine ⟨_, rfl, ⟨string.buffer.length, hfits, ?_⟩, ?_⟩
    · rw [List.getElem?_append_right (Nat.le_of_eq (copied_length _ _)), copied_length,
        Nat.sub_self]
      rfl
    · rw [c_str_copied_append (Nat.le_refl _), List.take_length]
      by_cases hzero : 0 ∈ string.buffer
      · exact c_str_append_of_mem hzero _
      · rw [c_str_append_zero hzero, c_str_of_notMem hzero]
  · obtain ⟨n, rfl⟩ : ∃ n, out_length = n + 2 := ⟨out_length - 2, by omega⟩
    have hle : n + 2 ≤ string.buffer.length := Nat.not_lt.mp hfits
    rw [if_neg hfits, if_neg hfits, if_neg hfits, if_pos hmin, Nat.min_eq_left hle]
    change ∃ out', signal_truncation (copied _ _ ++ _) _ = _ ∧ _
    rw [signal_truncation_take (by
        rw [List.length_append, copied_length]
        exact Nat.le_add_right _ _),
      List.take_append_of_le_length (by rw [copied_length]; omega), copied_take (by omega)]
    refine ⟨_, rfl, ⟨n + 1, by omega, ?_⟩, ?_⟩
    · rw [List.getElem?_append_right (by rw [copied_length]; omega), copied_length,
        Nat.add_sub_cancel_left]
      rfl
    · rw [c_str_copied_append (by omega), Nat.add_sub_cancel]
      by_cases hzero : 0 ∈ string.buffer.take n
      · rw [c_str_append_of_mem hzero, c_str_append_of_mem hzero]
      · rw [c_str_append_of_notMem hzero, c_str_append_of_notMem hzero]
        rfl

/-! ## When it is faithful -/

/-- The return code 0 means that the text is the string; with any other one, which is 1, the text
ends with the mark of truncation. -/
def ShowsFaithfully (string : SizedString) (out : List UInt8) (out_length : ℕ) : Prop :=
  ∃ rc out', print_sized_string string out out_length = some (rc, out') ∧
    (∃ i < out_length, out'[i]? = some 0) ∧
    (rc = 0 ↔ c_str out' = string.buffer) ∧
    (rc ≠ 0 → rc = 1 ∧ (c_str out').getLast? = some (char '~'))

/-- No zero byte is among the bytes that are shown, or there is no room for the string and the
byte in front of the first zero byte looks like the mark. -/
def NoZeroShown (string : SizedString) (out_length : ℕ) : Prop :=
  0 ∉ truncated out_length string.buffer ∨
    out_length ≤ string.buffer.length ∧ (c_str string.buffer).getLast? = some (char '~')

/-- A string that fits is shown faithfully when it has no zero byte. -/
theorem c_str_truncated_of_fits {string : List UInt8} {n : ℕ} (h : string.length < n) :
    c_str (truncated n string) = string ↔ 0 ∉ truncated n string := by
  rw [truncated, if_pos h]
  exact c_str_eq_self_iff

theorem truncated_length_lt {string : List UInt8} {n : ℕ} (hn : 2 ≤ n) :
    (truncated n string).length < n := by
  rw [truncated]
  split
  · assumption
  · rw [List.length_append, List.length_take, List.length_singleton]
    omega

/-- The text of a string that is cut off ends with the mark, unless a zero byte has cut it off
before. -/
theorem getLast?_c_str_truncated {string : List UInt8} {n : ℕ} (hn : 2 ≤ n)
    (h : n ≤ string.length) :
    (c_str (truncated n string)).getLast? = some (char '~') ↔
      0 ∉ truncated n string ∨ (c_str string).getLast? = some (char '~') := by
  rw [truncated, if_neg (Nat.not_lt.mpr h), if_pos hn, List.mem_append, List.mem_singleton,
    or_iff_left (by decide : ¬(0 : UInt8) = char '~')]
  by_cases hzero : 0 ∈ string.take (n - 2)
  · have hstring : c_str string = c_str (string.take (n - 2)) := by
      rw [← c_str_append_of_mem hzero (string.drop (n - 2)), List.take_append_drop]
    rw [c_str_append_of_mem hzero, hstring, or_iff_right (not_not.mpr hzero)]
  · refine iff_of_true ?_ (Or.inl hzero)
    rw [c_str_append_of_notMem hzero, c_str_of_notMem (by decide), List.getLast?_concat]

theorem shows_faithfully_iff (string : SizedString) {out : List UInt8} {out_length : ℕ}
    (hmin : 2 ≤ out_length) (hout : out_length ≤ out.length) :
    ShowsFaithfully string out out_length ↔ NoZeroShown string out_length := by
  obtain ⟨out', hprint, hend, htext⟩ := print_sized_string_text string hmin hout
  have hproperty : ShowsFaithfully string out out_length ↔
      ((if string.buffer.length < out_length then 0 else 1) = 0 ↔
          c_str out' = string.buffer) ∧
        ((if string.buffer.length < out_length then 0 else 1) ≠ 0 →
          (if string.buffer.length < out_length then 0 else 1) = 1 ∧
            (c_str out').getLast? = some (char '~')) := by
    rw [ShowsFaithfully, hprint]
    constructor
    · rintro ⟨rc, out'', hsome, -, h⟩
      cases hsome
      exact h
    · exact fun h => ⟨_, out', rfl, hend, h⟩
  rw [hproperty, htext, NoZeroShown]
  by_cases hfits : string.buffer.length < out_length
  · rw [if_pos hfits, c_str_truncated_of_fits hfits,
      or_iff_left (fun h => Nat.not_lt.mpr h.1 hfits)]
    exact ⟨fun h => h.1.mp rfl, fun h => ⟨iff_of_true rfl h, fun hne => absurd rfl hne⟩⟩
  · have hle : out_length ≤ string.buffer.length := Nat.not_lt.mp hfits
    have hcut : c_str (truncated out_length string.buffer) ≠ string.buffer := by
      intro heq
      have hlen := congrArg List.length heq
      have hshown := c_str_length_le (truncated out_length string.buffer)
      have hroom : (truncated out_length string.buffer).length < out_length :=
        truncated_length_lt hmin
      omega
    rw [if_neg hfits, getLast?_c_str_truncated hmin hle, and_iff_right hle]
    exact ⟨fun h => (h.2 Nat.one_ne_zero).2,
      fun h => ⟨iff_of_false Nat.one_ne_zero hcut, fun _ => ⟨rfl, h⟩⟩⟩

/-- **Seeds are shown faithfully exactly when** no zero byte is among the bytes shown, or what a
zero byte has cut off a seed that does not fit ends like one that is marked. Two such seeds that
are printed with the return code 0 and the same text are equal. -/
theorem print_sized_string_faithful {string : SizedString} {out : List UInt8} {out_length : ℕ}
    (hmin : 2 ≤ out_length) (hout : out_length ≤ out.length) :
    (ShowsFaithfully string out out_length ↔ NoZeroShown string out_length) ∧
      ∀ (other : SizedString) (buf text text' : List UInt8), out_length ≤ buf.length →
        NoZeroShown string out_length → NoZeroShown other out_length →
        print_sized_string string out out_length = some (0, text) →
        print_sized_string other buf out_length = some (0, text') →
        c_str text = c_str text' → string.buffer = other.buffer := by
  refine ⟨shows_faithfully_iff string hmin hout,
    fun other buf text text' hbuf hzero hzero' hprint hprint' hsame => ?_⟩
  obtain ⟨rc, out', hprinted, -, htext, -⟩ := (shows_faithfully_iff string hmin hout).mpr hzero
  obtain ⟨rc', buf', hprinted', -, htext', -⟩ := (shows_faithfully_iff other hmin hbuf).mpr hzero'
  rw [hprint] at hprinted
  rw [hprint'] at hprinted'
  cases hprinted
  cases hprinted'
  rw [← htext.mp rfl, ← htext'.mp rfl, hsame]

theorem print_sized_string_faithful_seed :
    (ShowsFaithfully ⟨8, c_string "seed"⟩ (List.replicate 8 0) 8 ↔
        NoZeroShown ⟨8, c_string "seed"⟩ 8) ∧
      ∀ (other : SizedString) (buf text text' : List UInt8), 8 ≤ buf.length →
        NoZeroShown ⟨8, c_string "seed"⟩ 8 → NoZeroShown other 8 →
        print_sized_string ⟨8, c_string "seed"⟩ (List.replicate 8 0) 8 = some (0, text) →
        print_sized_string other buf 8 = some (0, text') →
        c_str text = c_str text' → c_string "seed" = other.buffer :=
  print_sized_string_faithful (by decide) (by decide)

/-- Two seeds with a zero byte in the middle, which print as one letter. -/
theorem zero_byte_not_faithful :
    parse_sized_string ⟨0, [3, 0, 0, 0, 0, 0, 0, 0, 97, 0, 98]⟩ =
        some (⟨8, [97, 0, 98]⟩, ⟨11, []⟩) ∧
      parse_sized_string ⟨0, [3, 0, 0, 0, 0, 0, 0, 0, 97, 0, 99]⟩ =
        some (⟨8, [97, 0, 99]⟩, ⟨11, []⟩) ∧
      print_sized_string ⟨8, [97, 0, 98]⟩ [1, 1, 1, 1] 4 = some (0, [97, 0, 0, 0]) ∧
      print_sized_string ⟨8, [97, 0, 99]⟩ [1, 1, 1, 1] 4 = some (0, [97, 0, 0, 0]) ∧
      ¬ShowsFaithfully ⟨8, [97, 0, 98]⟩ [1, 1, 1, 1] 4 := by
  refine ⟨by decide, by decide, by decide, by decide, fun h => ?_⟩
  obtain ⟨rc, out', hprint, -, htext, -⟩ := h
  have hprinted : print_sized_string ⟨8, [97, 0, 98]⟩ [1, 1, 1, 1] 4 = some (0, [97, 0, 0, 0]) := by
    decide
  rw [hprinted] at hprint
  cases hprint
  exact absurd (htext.mp rfl) (by decide)

end RenecLedger
