/-
Reading a buffer from the front.

A `Cursor` is what a C decoder carries around: where the next symbol lies in
memory, and the symbols from there to the end of the buffer. A `Reader` either
fails or returns a value and a cursor further on. `Reads r bs P` is the triple
this file is about: whatever follows, `r` consumes exactly `bs` and returns a
value satisfying `P`. Its rules follow the reader's own structure, so a decoder
of a nested length-prefixed format is verified piece by piece.

Nothing here is about any particular format; the symbol type is arbitrary.
-/
import Mathlib.Data.List.Basic

set_option autoImplicit false

namespace ReaderLib

/-- A position in memory and the symbols from there to the end of the buffer. The
address is kept because decoders hand out references into the buffer, which are then
compared or checked for overlap. -/
structure Cursor (β : Type) where
  addr : ℕ
  buffer : List β
deriving DecidableEq

/-- The cursor `n` symbols further on. -/
def Cursor.advance {β : Type} (c : Cursor β) (n : ℕ) : Cursor β :=
  ⟨c.addr + n, c.buffer.drop n⟩

/-- A decoder: it fails, or returns a value and the cursor after it. A failure has no
cursor, since nothing is read after one. -/
abbrev Reader (β α : Type) := StateT (Cursor β) Option α

variable {β α γ : Type}

/-! ## Running a reader -/

/-- Returning leaves the cursor. -/
theorem pure_run (a : α) (c : Cursor β) : (pure a : Reader β α) c = some (a, c) := rfl

/-- A sequence hands the cursor on. -/
theorem bind_run (r : Reader β α) (f : α → Reader β γ) (c : Cursor β) :
    (r >>= f) c = (r c).bind (fun x => f x.1 x.2) := rfl

/-- A sequence succeeds exactly when its parts do, one after the other. It takes the run
of a decoder apart into the runs of its calls. -/
theorem bind_eq_some {r : Reader β α} {f : α → Reader β γ} {c d : Cursor β} {z : γ} :
    (r >>= f) c = some (z, d) ↔ ∃ a c', r c = some (a, c') ∧ f a c' = some (z, d) := by
  rw [bind_run, Option.bind_eq_some_iff]
  constructor
  · rintro ⟨⟨a, c'⟩, h₁, h₂⟩
    exact ⟨a, c', h₁, h₂⟩
  · rintro ⟨a, c', h₁, h₂⟩
    exact ⟨(a, c'), h₁, h₂⟩

/-- A function of the result does not move the cursor. -/
theorem map_eq_some {r : Reader β α} {f : α → γ} {c d : Cursor β} {z : γ} :
    (f <$> r) c = some (z, d) ↔ ∃ a, r c = some (a, d) ∧ f a = z := by
  rw [← bind_pure_comp, bind_eq_some]
  simp [pure_run]

/-- Running a reader for its value drops the cursor. -/
theorem run'_eq_some {r : Reader β α} {c : Cursor β} {a : α} :
    r.run' c = some a ↔ ∃ d, r c = some (a, d) := by
  simp [StateT.run', Option.map_eq_some_iff]

/-! ## Reading forward -/

/-- `d` is `c` some symbols further on, all of which are in the buffer. A decoder for
which this always holds never reads past the end. -/
def Cursor.Within (c d : Cursor β) : Prop := ∃ n, n ≤ c.buffer.length ∧ d = c.advance n

/-- A cursor is no symbols on from itself. -/
theorem Cursor.within_refl (c : Cursor β) : c.Within c := by
  refine ⟨0, Nat.zero_le _, ?_⟩
  rw [Cursor.advance, Nat.add_zero, List.drop_zero]

/-- Two moves are one. -/
theorem Cursor.advance_advance (c : Cursor β) (m n : ℕ) :
    (c.advance m).advance n = c.advance (m + n) := by
  simp only [Cursor.advance, List.drop_drop, Nat.add_assoc]

/-- Further on twice is further on. -/
theorem Cursor.Within.trans {c d e : Cursor β} (h₁ : c.Within d) (h₂ : d.Within e) :
    c.Within e := by
  obtain ⟨m, hm, rfl⟩ := h₁
  obtain ⟨n, hn, rfl⟩ := h₂
  refine ⟨m + n, ?_, Cursor.advance_advance c m n⟩
  rw [Cursor.advance, List.length_drop] at hn
  omega

/-- A reader that only moves on, and stays in the buffer. -/
def Forward (r : Reader β α) : Prop := ∀ c a d, r c = some (a, d) → c.Within d

/-- Returning does not move back. -/
theorem forward_pure (a : α) : Forward (Pure.pure a : Reader β α) := by
  intro c a' d h
  rw [pure_run, Option.some.injEq, Prod.mk.injEq] at h
  rw [← h.2]
  exact c.within_refl

/-- A sequence of readers that move forward does. -/
theorem forward_bind {r : Reader β α} {f : α → Reader β γ} (hr : Forward r)
    (hf : ∀ a, Forward (f a)) : Forward (r >>= f) := by
  intro c z e h
  rw [bind_eq_some] at h
  obtain ⟨a, d, h₁, h₂⟩ := h
  exact (hr c a d h₁).trans (hf a d z e h₂)

/-- So does a branch between them. -/
theorem forward_ite {c : Prop} [Decidable c] {r r' : Reader β α} (h : Forward r)
    (h' : Forward r') : Forward (if c then r else r') := by
  split
  · exact h
  · exact h'

/-- A reader of `n` symbols: when it succeeds, there were that many, and it has moved on
by just as many, whatever they were. -/
def Takes (r : Reader β α) (n : ℕ) : Prop :=
  ∀ {c a d}, r c = some (a, d) → n ≤ c.buffer.length ∧ d = c.advance n

/-- Returning takes nothing. -/
theorem takes_pure (a : α) : Takes (Pure.pure a : Reader β α) 0 := by
  intro c a' d h
  rw [pure_run, Option.some.injEq, Prod.mk.injEq] at h
  refine ⟨Nat.zero_le _, ?_⟩
  rw [← h.2, Cursor.advance, Nat.add_zero, List.drop_zero]

/-- A sequence takes what its parts take. -/
theorem takes_bind {r : Reader β α} {f : α → Reader β γ} {m n : ℕ} (hr : Takes r m)
    (hf : ∀ a, Takes (f a) n) : Takes (r >>= f) (m + n) := by
  intro c z e h
  rw [bind_eq_some] at h
  obtain ⟨a, d, hfirst, hrest⟩ := h
  obtain ⟨hm, rfl⟩ := hr hfirst
  obtain ⟨hn, rfl⟩ := hf a hrest
  rw [Cursor.advance, List.length_drop] at hn
  exact ⟨by omega, Cursor.advance_advance c m n⟩

/-- What never succeeds reads any number of symbols. -/
theorem takes_of_fails {r : Reader β α} (h : ∀ c, r c = none) (n : ℕ) : Takes r n := by
  intro c a d hrun
  rw [h] at hrun
  cases hrun

/-! ## The triple -/

/-- `r` consumes exactly `bs`, whatever follows it and wherever it lies, and returns a
value satisfying `P`. Since the rest is arbitrary, such triples compose without side
conditions. -/
def Reads (r : Reader β α) (bs : List β) (P : α → Prop) : Prop :=
  ∀ addr rest, ∃ a, r ⟨addr, bs ++ rest⟩ = some (a, ⟨addr + bs.length, rest⟩) ∧ P a

/-- Returning reads the empty list. -/
theorem Reads.pure {P : α → Prop} {a : α} (h : P a) :
    Reads (Pure.pure a : Reader β α) [] P := by
  intro addr rest
  exact ⟨a, rfl, h⟩

/-- What is known of the value may be weakened. -/
theorem Reads.mono {r : Reader β α} {bs : List β} {P Q : α → Prop}
    (h : Reads r bs P) (hPQ : ∀ a, P a → Q a) : Reads r bs Q := by
  intro addr rest
  obtain ⟨a, ha, hP⟩ := h addr rest
  exact ⟨a, ha, hPQ a hP⟩

/-- Reading in sequence reads the concatenation: the triple of the second reader may
depend on the value of the first one, but not the symbols it reads. -/
theorem Reads.bind {r : Reader β α} {f : α → Reader β γ} {bs cs : List β}
    {P : α → Prop} {Q : γ → Prop}
    (hr : Reads r bs P) (hf : ∀ a, P a → Reads (f a) cs Q) :
    Reads (r >>= f) (bs ++ cs) Q := by
  intro addr rest
  obtain ⟨a, ha, hP⟩ := hr addr (cs ++ rest)
  obtain ⟨z, hz, hQ⟩ := hf a hP (addr + bs.length) rest
  refine ⟨z, ?_, hQ⟩
  rw [bind_eq_some]
  refine ⟨a, ⟨addr + bs.length, cs ++ rest⟩, ?_, ?_⟩
  · rw [List.append_assoc]
    exact ha
  · rw [hz, List.length_append, Nat.add_assoc]

/-- The last step of a sequence often reads nothing more. -/
theorem Reads.bind_nil {r : Reader β α} {f : α → Reader β γ} {bs : List β}
    {P : α → Prop} {Q : γ → Prop}
    (hr : Reads r bs P) (hf : ∀ a, P a → Reads (f a) [] Q) : Reads (r >>= f) bs Q := by
  have h := Reads.bind hr hf
  rwa [List.append_nil] at h

/-! ## Repetition -/

/-- `n` calls of one reader, in a row: what a loop with a counter does whose body reads
one element. -/
def times (r : Reader β α) : ℕ → Reader β (List α)
  | 0 => Pure.pure []
  | n + 1 => do
    let a ← r
    let as ← times r n
    return a :: as

/-- A repeated reader returns as many values as it was repeated. -/
theorem times_length {r : Reader β α} {n : ℕ} {c d : Cursor β} {as : List α}
    (h : times r n c = some (as, d)) : as.length = n := by
  induction n generalizing c d as with
  | zero =>
    simp only [times, pure_run, Option.some.injEq, Prod.mk.injEq] at h
    rw [← h.1, List.length_nil]
  | succ n ih =>
    rw [times, bind_eq_some] at h
    obtain ⟨a, c', -, h⟩ := h
    rw [bind_eq_some] at h
    obtain ⟨as', c'', hrec, hret⟩ := h
    simp only [pure_run, Option.some.injEq, Prod.mk.injEq] at hret
    rw [← hret.1, List.length_cons, ih hrec]

/-- What the calls return lies in memory in the order of the calls, if each call returns
something that lies between where it began and where it ended. -/
theorem times_in_order {r : Reader β α} {first last : α → ℕ}
    (hr : ∀ {c a d}, r c = some (a, d) → c.addr ≤ first a ∧ first a ≤ last a ∧ last a ≤ d.addr)
    {n : ℕ} {c d : Cursor β} {as : List α} (h : times r n c = some (as, d)) :
    (∀ a ∈ as, c.addr ≤ first a) ∧ as.Pairwise fun a b => last a ≤ first b := by
  induction n generalizing c d as with
  | zero =>
    simp only [times, pure_run, Option.some.injEq, Prod.mk.injEq] at h
    rw [← h.1]
    exact ⟨List.forall_mem_nil _, List.Pairwise.nil⟩
  | succ n ih =>
    rw [times, bind_eq_some] at h
    obtain ⟨a, c', ha, h⟩ := h
    rw [bind_eq_some] at h
    obtain ⟨as', c'', hrec, hret⟩ := h
    simp only [pure_run, Option.some.injEq, Prod.mk.injEq] at hret
    obtain ⟨hlow, horder⟩ := ih hrec
    obtain ⟨hfirst, hsize, hlast⟩ := hr ha
    rw [← hret.1]
    refine ⟨List.forall_mem_cons.mpr ⟨hfirst, fun b hb => ?_⟩,
      List.pairwise_cons.mpr ⟨fun b hb => Nat.le_trans hlast (hlow b hb), horder⟩⟩
    have hb := hlow b hb
    omega

/-- Repeating a reader that checks and converts what another one reads: the other
one's values all pass the check, and are converted. -/
theorem times_checked {r : Reader β α} {r' : Reader β γ} {p : α → Bool} {f : α → γ}
    (h : ∀ c, r' c = (r c).bind fun x => if p x.1 then some (f x.1, x.2) else none)
    {n : ℕ} {c d : Cursor β} {bs : List γ} :
    times r' n c = some (bs, d) ↔
      ∃ as, times r n c = some (as, d) ∧ (∀ a ∈ as, p a = true) ∧ bs = as.map f := by
  induction n generalizing c d bs with
  | zero =>
    simp only [times, pure_run, Option.some.injEq, Prod.mk.injEq]
    constructor
    · rintro ⟨rfl, rfl⟩
      exact ⟨[], ⟨rfl, rfl⟩, nofun, rfl⟩
    · rintro ⟨as, ⟨rfl, rfl⟩, -, rfl⟩
      exact ⟨rfl, rfl⟩
  | succ n ih =>
    simp only [times, bind_eq_some, pure_run, Option.some.injEq, Prod.mk.injEq, h,
      Option.bind_eq_some_iff, Option.ite_none_right_eq_some, Prod.exists]
    constructor
    · rintro ⟨b, c', ⟨a, c'', ha, hp, rfl, rfl⟩, bs', d', hrec, rfl, rfl⟩
      obtain ⟨as, has, hall, rfl⟩ := ih.mp hrec
      refine ⟨a :: as, ⟨a, c'', ha, as, d', has, rfl, rfl⟩, ?_, rfl⟩
      exact List.forall_mem_cons.mpr ⟨hp, hall⟩
    · rintro ⟨_, ⟨a, c', ha, as, d', has, rfl, rfl⟩, hall, rfl⟩
      obtain ⟨hp, hall⟩ := List.forall_mem_cons.mp hall
      exact ⟨f a, c', ⟨a, c', ha, hp, rfl, rfl⟩, as.map f, d', ih.mpr ⟨as, has, hall, rfl⟩,
        rfl, rfl⟩

/-- Repetition reads one chunk a call: `enc x` for each `x` of the list. Together with
`Reads.bind` it covers vectors whose length is read first. -/
theorem Reads.times {δ : Type} {r : Reader β α} {enc : δ → List β} {P : δ → α → Prop}
    (xs : List δ) (h : ∀ x ∈ xs, Reads r (enc x) (P x)) :
    Reads (ReaderLib.times r xs.length) (xs.flatMap enc) (List.Forall₂ P xs) := by
  induction xs with
  | nil => exact Reads.pure List.Forall₂.nil
  | cons x xs ih =>
    rw [List.length_cons, ReaderLib.times, List.flatMap_cons]
    refine Reads.bind (h x List.mem_cons_self) (fun a ha => ?_)
    refine Reads.bind_nil (ih (fun y hy => h y (List.mem_cons_of_mem x hy))) (fun as has => ?_)
    exact Reads.pure (List.Forall₂.cons ha has)

/-! ## What was consumed -/

/-- Whatever `r` returns is related to the symbols that it has consumed. It is the other
direction of `Reads`: from a success to what must have been in the buffer. -/
def Consumes (r : Reader β α) (S : α → List β → Prop) : Prop :=
  ∀ c a d, r c = some (a, d) → ∃ bs, S a bs ∧ c.buffer = bs ++ d.buffer

/-- Returning consumes nothing. -/
theorem Consumes.pure {S : α → List β → Prop} {a : α} (h : S a []) :
    Consumes (Pure.pure a : Reader β α) S := by
  intro c a' d hrun
  rw [pure_run, Option.some.injEq, Prod.mk.injEq] at hrun
  obtain ⟨rfl, rfl⟩ := hrun
  exact ⟨[], h, rfl⟩

/-- What is known of the value and its elements may be weakened. -/
theorem Consumes.mono {r : Reader β α} {S T : α → List β → Prop} (h : Consumes r S)
    (hST : ∀ a bs, S a bs → T a bs) : Consumes r T := by
  intro c a d hrun
  obtain ⟨bs, hS, hbuffer⟩ := h c a d hrun
  exact ⟨bs, hST a bs hS, hbuffer⟩

/-- In sequence, the second part goes on from what the first one has consumed, so that a
relation to all of the symbols is found piece by piece. -/
theorem Consumes.bind {r : Reader β α} {f : α → Reader β γ} {S : α → List β → Prop}
    {T : γ → List β → Prop} (hr : Consumes r S)
    (hf : ∀ a bs, S a bs → Consumes (f a) fun z cs => T z (bs ++ cs)) :
    Consumes (r >>= f) T := by
  intro c z e hrun
  rw [bind_eq_some] at hrun
  obtain ⟨a, d, hfirst, hrest⟩ := hrun
  obtain ⟨bs, ha, hbs⟩ := hr c a d hfirst
  obtain ⟨cs, hz, hcs⟩ := hf a bs ha d z e hrest
  refine ⟨bs ++ cs, hz, ?_⟩
  rw [hbs, hcs, List.append_assoc]

/-- Repetition consumes one piece a call. -/
theorem Consumes.times {r : Reader β α} {S : α → List β → Prop} (hr : Consumes r S) (n : ℕ) :
    Consumes (ReaderLib.times r n) fun as bs => ∃ pieces, List.Forall₂ S as pieces ∧
      pieces.flatten = bs := by
  induction n with
  | zero => exact Consumes.pure ⟨[], List.Forall₂.nil, rfl⟩
  | succ n ih =>
    refine Consumes.bind hr fun a bs ha => ?_
    refine Consumes.bind ih fun as cs has => Consumes.pure ?_
    obtain ⟨pieces, hpieces, hflat⟩ := has
    refine ⟨bs :: pieces, List.Forall₂.cons ha hpieces, ?_⟩
    rw [List.flatten_cons, hflat, List.append_nil]

/-! ## What is needed -/

/-- `r` reads all of `bs`: a part of it is not enough, and where `r` succeeds on more, it has
read just that. -/
structure Needs (r : Reader β α) (bs : List β) (P : α → Prop) : Prop where
  reads : ∀ {addr rest a d}, r ⟨addr, bs ++ rest⟩ = some (a, d) →
    d = ⟨addr + bs.length, rest⟩ ∧ P a
  fails : ∀ addr n, n < bs.length → r ⟨addr, bs.take n⟩ = none

/-- Returning needs nothing. -/
theorem Needs.pure {P : α → Prop} {a : α} (h : P a) :
    Needs (Pure.pure a : Reader β α) [] P where
  reads hrun := by
    rw [pure_run, Option.some.injEq, Prod.mk.injEq] at hrun
    obtain ⟨rfl, rfl⟩ := hrun
    exact ⟨rfl, h⟩
  fails _ n hn := absurd hn (Nat.not_lt_zero n)

/-- What is known of the value may be weakened. -/
theorem Needs.mono {r : Reader β α} {bs : List β} {P Q : α → Prop} (h : Needs r bs P)
    (hPQ : ∀ a, P a → Q a) : Needs r bs Q where
  reads hrun := (h.reads hrun).imp_right (hPQ _)
  fails := h.fails

/-- What reads `bs` whenever it is there, and nothing shorter. -/
theorem Needs.of_reads {r : Reader β α} {bs : List β} {P : α → Prop} (h : Reads r bs P)
    (hfails : ∀ addr n, n < bs.length → r ⟨addr, bs.take n⟩ = none) : Needs r bs P where
  reads {addr rest a d} hrun := by
    obtain ⟨a', ha', hP⟩ := h addr rest
    rw [ha', Option.some.injEq, Prod.mk.injEq] at hrun
    obtain ⟨rfl, rfl⟩ := hrun
    exact ⟨rfl, hP⟩
  fails := hfails

/-- In sequence, both pieces are needed. -/
theorem Needs.bind {r : Reader β α} {f : α → Reader β γ} {bs cs : List β} {P : α → Prop}
    {Q : γ → Prop} (hr : Needs r bs P) (hf : ∀ a, P a → Needs (f a) cs Q) :
    Needs (r >>= f) (bs ++ cs) Q where
  reads {addr rest z e} hrun := by
    rw [List.append_assoc, bind_eq_some] at hrun
    obtain ⟨a, d, hfirst, hrest⟩ := hrun
    obtain ⟨rfl, hP⟩ := hr.reads hfirst
    rw [List.length_append, ← Nat.add_assoc]
    exact (hf a hP).reads hrest
  fails addr n hn := by
    rw [List.length_append] at hn
    rw [bind_run, List.take_append]
    by_cases hshort : n < bs.length
    · rw [Nat.sub_eq_zero_of_le (Nat.le_of_lt hshort), List.take_zero, List.append_nil,
        hr.fails addr n hshort, Option.bind_none]
    · -- the first piece is there, and the second one is not
      rw [List.take_of_length_le (Nat.not_lt.mp hshort)]
      cases hfirst : r ⟨addr, bs ++ cs.take (n - bs.length)⟩ with
      | none => rfl
      | some x =>
        obtain ⟨hd, hP⟩ := hr.reads hfirst
        rw [Option.bind_some, hd]
        exact (hf x.1 hP).fails _ _ (by omega)

/-- A rest that needs nothing more may follow. -/
theorem Needs.bind_nil {r : Reader β α} {f : α → Reader β γ} {bs : List β} {P : α → Prop}
    {Q : γ → Prop} (hr : Needs r bs P) (hf : ∀ a, P a → Needs (f a) [] Q) :
    Needs (r >>= f) bs Q := by
  have h := Needs.bind hr hf
  rwa [List.append_nil] at h

/-- What never succeeds needs anything. -/
theorem Needs.of_fails {r : Reader β α} (h : ∀ c, r c = none) (bs : List β) (P : α → Prop) :
    Needs r bs P where
  reads hrun := by
    rw [h] at hrun
    cases hrun
  fails _ _ _ := h _

end ReaderLib
