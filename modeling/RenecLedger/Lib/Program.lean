/-
Programs that change a state and may end early.

A program in `Program ε σ` runs from a state to a state, and either returns a value or
ends with an exception; what it had changed by then stays changed. The rules here take a
run of a sequence apart into the runs of its parts (`bind_eq_ok`, `bind_eq_error`), and
say what a program cannot change (`Keeps`) by the structure of the program.
-/
import Mathlib.Data.List.Basic

set_option autoImplicit false

namespace ProgramLib

/-- A program over states `σ` with exceptions `ε`. The state is under the exceptions, so
that a program which ends with one still says in which state it ended. -/
abbrev Program (ε σ α : Type) := ExceptT ε (StateM σ) α

variable {ε σ τ α β : Type}

/-- Throw when the condition holds, else go on. It has a name of its own so that a check
is taken apart by the rules below and never by unfolding the program it stands in. -/
def throw_if (c : Prop) [Decidable c] (e : ε) : Program ε σ Unit := if c then throw e else pure ()

/-- Run the program when the condition holds, and do nothing otherwise: the branch
without an alternative of an imperative language. -/
def run_if (c : Prop) [Decidable c] (p : Program ε σ Unit) : Program ε σ Unit :=
  if c then p else pure ()

/-- Return the value of a computation, or throw its error. Functions that read no state
are written as such computations, and enter a program here. -/
def of_except (r : Except ε α) : Program ε σ α :=
  match r with
  | .ok a => pure a
  | .error e => throw e

/-! ## Running a program -/

/-- Returning a value leaves the state as it is. -/
theorem run_pure (a : α) (s : σ) : (pure a : Program ε σ α).run.run s = (.ok a, s) := rfl

/-- Throwing leaves the state as it is. -/
theorem run_throw (e : ε) (s : σ) : (throw e : Program ε σ α).run.run s = (.error e, s) := rfl

/-- Reading returns the state and leaves it. -/
theorem run_get (s : σ) : (get : Program ε σ σ).run.run s = (.ok s, s) := rfl

/-- Writing replaces the state. -/
theorem run_set (s t : σ) : (set t : Program ε σ PUnit).run.run s = (.ok ⟨⟩, t) := rfl

/-- Updating applies a function to the state. -/
theorem run_modify (f : σ → σ) (s : σ) :
    (modify f : Program ε σ PUnit).run.run s = (.ok ⟨⟩, f s) := rfl

/-- After a part that returns, the rest runs from the state it leaves. With the next
rule this is how a run is computed forwards, one statement at a time. -/
theorem bind_of_ok {p : Program ε σ α} {f : α → Program ε σ β} {s t : σ} {a : α}
    (h : p.run.run s = (.ok a, t)) : (p >>= f).run.run s = (f a).run.run t := by
  rw [ExceptT.run_bind, StateT.run_bind, h]
  rfl

/-- After a part that throws, the rest does not run: the sequence ends with the same
exception and in the same state, whatever the rest is. -/
theorem bind_of_error {p : Program ε σ α} {f : α → Program ε σ β} {s t : σ} {e : ε}
    (h : p.run.run s = (.error e, t)) : (p >>= f).run.run s = (.error e, t) := by
  rw [ExceptT.run_bind, StateT.run_bind, h]
  rfl

/-- A sequence returns exactly when its parts do, one after the other. Read from left to
right, it gives the value and the state in the middle of a run that is known to return. -/
theorem bind_eq_ok {p : Program ε σ α} {f : α → Program ε σ β} {s u : σ} {b : β} :
    (p >>= f).run.run s = (.ok b, u) ↔
      ∃ a t, p.run.run s = (.ok a, t) ∧ (f a).run.run t = (.ok b, u) := by
  constructor
  · intro h
    rcases hp : p.run.run s with ⟨e | a, t⟩
    · rw [bind_of_error hp] at h
      cases h
    · rw [bind_of_ok hp] at h
      exact ⟨a, t, rfl, h⟩
  · rintro ⟨a, t, hp, hf⟩
    rw [bind_of_ok hp, hf]

/-- A sequence throws when its first part does, or its second part after that. Only in
the second case has the first part run to its end. -/
theorem bind_eq_error {p : Program ε σ α} {f : α → Program ε σ β} {s u : σ} {e : ε} :
    (p >>= f).run.run s = (.error e, u) ↔
      p.run.run s = (.error e, u) ∨
        ∃ a t, p.run.run s = (.ok a, t) ∧ (f a).run.run t = (.error e, u) := by
  constructor
  · intro h
    rcases hp : p.run.run s with ⟨e' | a, t⟩
    · rw [bind_of_error hp] at h
      cases h
      exact Or.inl rfl
    · rw [bind_of_ok hp] at h
      exact Or.inr ⟨a, t, rfl, h⟩
  · rintro (hp | ⟨a, t, hp, hf⟩)
    · exact bind_of_error hp
    · rw [bind_of_ok hp, hf]

/-- A check that fails ends the program where it stands. -/
theorem throw_if_pos {c : Prop} [Decidable c] (h : c) (e : ε) (s : σ) :
    (throw_if c e : Program ε σ Unit).run.run s = (.error e, s) := by
  rw [throw_if, if_pos h, run_throw]

/-- A check that passes does nothing. -/
theorem throw_if_neg {c : Prop} [Decidable c] (h : ¬c) (e : ε) (s : σ) :
    (throw_if c e : Program ε σ Unit).run.run s = (.ok (), s) := by
  rw [throw_if, if_neg h, run_pure]

/-- A check returns exactly when its condition does not hold, in the state it was run
in: passing it is known to have changed nothing. -/
theorem throw_if_eq_ok {c : Prop} [Decidable c] {e : ε} {s t : σ} {u : Unit} :
    (throw_if c e : Program ε σ Unit).run.run s = (.ok u, t) ↔ ¬c ∧ s = t := by
  by_cases hc : c
  · rw [throw_if_pos hc]
    constructor
    · intro h
      cases h
    · rintro ⟨hnot, -⟩
      exact absurd hc hnot
  · rw [throw_if_neg hc]
    constructor
    · intro h
      cases h
      exact ⟨hc, rfl⟩
    · rintro ⟨-, rfl⟩
      rfl

/-- A pure computation returns its value, in the state it was run in. -/
theorem of_except_eq_ok {r : Except ε α} {s t : σ} {a : α} :
    (of_except r : Program ε σ α).run.run s = (.ok a, t) ↔ r = .ok a ∧ s = t := by
  constructor
  · intro h
    cases r with
    | ok b =>
      cases h
      exact ⟨rfl, rfl⟩
    | error e => cases h
  · rintro ⟨rfl, rfl⟩
    rfl

/-! The first step of a sequence, when it is one of the primitive ones. -/

/-- What follows a read runs with the state. -/
theorem get_bind (f : σ → Program ε σ β) (s : σ) :
    (get >>= f).run.run s = (f s).run.run s := bind_of_ok (run_get s)

/-- What follows a write runs from the new state. -/
theorem set_bind (f : PUnit → Program ε σ β) (s t : σ) :
    (set t >>= f).run.run s = (f ⟨⟩).run.run t := bind_of_ok (run_set s t)

/-- What follows an update runs from the updated state. -/
theorem modify_bind (g : σ → σ) (f : PUnit → Program ε σ β) (s : σ) :
    (modify g >>= f).run.run s = (f ⟨⟩).run.run (g s) := bind_of_ok (run_modify g s)

/-- A sequence behind a check returns exactly when the check passes and the rest
returns. It peels the checks off the front of a handler without naming a state in
between. -/
theorem throw_if_bind_eq_ok {c : Prop} [Decidable c] {e : ε} {f : Unit → Program ε σ β} {s t : σ}
    {b : β} : (throw_if c e >>= f).run.run s = (.ok b, t) ↔
      ¬c ∧ (f ()).run.run s = (.ok b, t) := by
  rw [bind_eq_ok]
  constructor
  · rintro ⟨u, s', hthrow, h⟩
    obtain ⟨hc, rfl⟩ := throw_if_eq_ok.mp hthrow
    exact ⟨hc, h⟩
  · rintro ⟨hc, h⟩
    exact ⟨(), s, throw_if_neg hc e s, h⟩

/-- A sequence behind a pure computation returns exactly when that has a value with
which the rest returns. -/
theorem of_except_bind_eq_ok {r : Except ε α} {f : α → Program ε σ β} {s t : σ} {b : β} :
    (of_except r >>= f).run.run s = (.ok b, t) ↔
      ∃ a, r = .ok a ∧ (f a).run.run s = (.ok b, t) := by
  rw [bind_eq_ok]
  constructor
  · rintro ⟨a, s', hrun, h⟩
    obtain ⟨hr, rfl⟩ := of_except_eq_ok.mp hrun
    exact ⟨a, hr, h⟩
  · rintro ⟨a, hr, h⟩
    exact ⟨a, s, of_except_eq_ok.mpr ⟨hr, rfl⟩, h⟩

/-! A handler runs from the state in which the program threw. -/

/-- A program that returns does so past its handler. -/
theorem tryCatch_of_ok {p : Program ε σ α} {handler : ε → Program ε σ α} {s t : σ} {a : α}
    (h : p.run.run s = (.ok a, t)) : (tryCatch p handler).run.run s = (.ok a, t) := by
  rw [ExceptT.run_tryCatch, StateT.run_bind, h]
  rfl

/-- The handler of a program that throws runs on the exception. What the program had
changed is not undone: the handler begins in the state of the throw, as after a
`longjmp`. -/
theorem tryCatch_of_error {p : Program ε σ α} {handler : ε → Program ε σ α} {s t : σ} {e : ε}
    (h : p.run.run s = (.error e, t)) :
    (tryCatch p handler).run.run s = (handler e).run.run t := by
  rw [ExceptT.run_tryCatch, StateT.run_bind, h]
  rfl

/-! ## What a program keeps -/

/-- However `p` ends, what `f` reads of the state is as it was. The end of a program
that throws counts too, since its changes stay. -/
def Keeps (f : σ → τ) (p : Program ε σ α) : Prop := ∀ s, f (p.run.run s).2 = f s

variable {f : σ → τ}

/-- Returning keeps whatever is read. -/
theorem keeps_pure (a : α) : Keeps f (pure a : Program ε σ α) := fun _ => rfl

/-- So does throwing. -/
theorem keeps_throw (e : ε) : Keeps f (throw e : Program ε σ α) := fun _ => rfl

/-- So does reading. -/
theorem keeps_get : Keeps f (get : Program ε σ σ) := fun _ => rfl

/-- An update keeps what it does not change. For a projection of a record and an update
of its other fields, the hypothesis holds by `rfl`. -/
theorem keeps_modify {g : σ → σ} (h : ∀ s, f (g s) = f s) :
    Keeps f (modify g : Program ε σ PUnit) := h

/-- A sequence keeps what all of its parts keep, whichever of them ends it. -/
theorem keeps_bind {p : Program ε σ α} {q : α → Program ε σ β} (hp : Keeps f p)
    (hq : ∀ a, Keeps f (q a)) : Keeps f (p >>= q) := by
  intro s
  have hfirst := hp s
  rcases h : p.run.run s with ⟨e | a, t⟩
  · rw [bind_of_error h]
    rwa [h] at hfirst
  · rw [bind_of_ok h, hq a t]
    rwa [h] at hfirst

/-- A branch keeps what both sides keep. -/
theorem keeps_ite {c : Prop} [Decidable c] {p q : Program ε σ α} (hp : Keeps f p)
    (hq : Keeps f q) : Keeps f (if c then p else q) := by
  split
  · exact hp
  · exact hq

/-- A check keeps whatever is read. -/
theorem keeps_throw_if {c : Prop} [Decidable c] (e : ε) :
    Keeps f (throw_if c e : Program ε σ Unit) :=
  keeps_ite (keeps_throw e) (keeps_pure ())

/-- A conditional step keeps what the step keeps. -/
theorem keeps_run_if {c : Prop} [Decidable c] {p : Program ε σ Unit} (h : Keeps f p) :
    Keeps f (run_if c p) :=
  keeps_ite h (keeps_pure ())

/-- What is kept determines what else is: a view that keeps several fields at once is
proved to be kept once, and each of the fields is kept by this. -/
theorem Keeps.comp {υ : Type} {p : Program ε σ α} (h : Keeps f p) (g : τ → υ) :
    Keeps (fun s => g (f s)) p := fun s => congrArg g (h s)

/-! ## How a program ends -/

/-- However `p` ends from `s`, its result and the state satisfy `Q`: a postcondition for
both ways to end, about a single run. -/
def Ensures (p : Program ε σ α) (s : σ) (Q : Except ε α → σ → Prop) : Prop :=
  Q (p.run.run s).1 (p.run.run s).2

variable {Q : Except ε β → σ → Prop}

/-- What is ensured of a program holds of the run at hand, when its result and its last
state have been named already. -/
theorem Ensures.apply {p : Program ε σ β} {s t : σ} {r : Except ε β} (h : Ensures p s Q)
    (hrun : p.run.run s = (r, t)) : Q r t := by
  rw [Ensures, hrun] at h
  exact h

/-- A first part that keeps `f`: the sequence ends with its exception, or as the rest
does from a state that looks the same to `f`. So parts that a postcondition does not
speak of are passed over without computing their result. -/
theorem ensures_keeps_bind {p : Program ε σ α} {q : α → Program ε σ β} {s : σ} (hp : Keeps f p)
    (herror : ∀ e t, f t = f s → Q (.error e) t)
    (hok : ∀ a t, p.run.run s = (.ok a, t) → f t = f s → Ensures (q a) t Q) :
    Ensures (p >>= q) s Q := by
  have hkeep := hp s
  rw [Ensures]
  rcases h : p.run.run s with ⟨e | a, t⟩
  · rw [h] at hkeep
    rw [bind_of_error h]
    exact herror e t hkeep
  · rw [h] at hkeep
    rw [bind_of_ok h]
    exact hok a t h hkeep

/-- A read does not change what has to be shown. -/
theorem ensures_get_bind {q : σ → Program ε σ β} {s : σ} (h : Ensures (q s) s Q) :
    Ensures (get >>= q) s Q := by
  rw [Ensures, get_bind]
  exact h

/-! ## What a program preserves -/

/-- However `p` ends, it leaves a property of the state as it was. This is `Keeps` for
an invariant that may be re-established, where no value of the state has to stay the
same. -/
def Preserves (P : σ → Prop) (p : Program ε σ α) : Prop := ∀ s, P s → P (p.run.run s).2

section Preserves

variable {P : σ → Prop}

/-- Returning preserves every property. -/
theorem preserves_pure (a : α) : Preserves P (pure a : Program ε σ α) := fun _ h => h

/-- So does throwing. -/
theorem preserves_throw (e : ε) : Preserves P (throw e : Program ε σ α) := fun _ h => h

/-- So does reading. -/
theorem preserves_get : Preserves P (get : Program ε σ σ) := fun _ h => h

/-- An update preserves what its function does. -/
theorem preserves_modify {g : σ → σ} (h : ∀ s, P s → P (g s)) :
    Preserves P (modify g : Program ε σ PUnit) := h

/-- The second part has to preserve the property only after values that the first part
returns. -/
theorem preserves_bind {p : Program ε σ α} {q : α → Program ε σ β} (hp : Preserves P p)
    (hq : ∀ s a t, p.run.run s = (.ok a, t) → Preserves P (q a)) : Preserves P (p >>= q) := by
  intro s hs
  have hfirst := hp s hs
  rcases h : p.run.run s with ⟨e | a, t⟩
  · rw [h] at hfirst
    rw [bind_of_error h]
    exact hfirst
  · rw [h] at hfirst
    rw [bind_of_ok h]
    exact hq s a t h t hfirst

/-- A branch preserves what both sides do. -/
theorem preserves_ite {c : Prop} [Decidable c] {p q : Program ε σ α} (hp : Preserves P p)
    (hq : Preserves P q) : Preserves P (if c then p else q) := by
  split
  · exact hp
  · exact hq

/-- A check preserves every property. -/
theorem preserves_throw_if {c : Prop} [Decidable c] (e : ε) :
    Preserves P (throw_if c e : Program ε σ Unit) :=
  preserves_ite (preserves_throw e) (preserves_pure ())

/-- A pure computation preserves every property. -/
theorem preserves_of_except (r : Except ε α) : Preserves P (of_except r : Program ε σ α) := by
  cases r with
  | error e => exact preserves_throw e
  | ok a => exact preserves_pure a

/-- A conditional step preserves what the step does. -/
theorem preserves_run_if {c : Prop} [Decidable c] {p : Program ε σ Unit} (h : Preserves P p) :
    Preserves P (run_if c p) :=
  preserves_ite h (preserves_pure ())

end Preserves

/-! ## What a program throws -/

section Throws

variable {P : ε → Prop}

end Throws

/-! ## Simulation -/

section Simulation

variable {δ γ : Type} {R : σ → τ → Prop} {E : ε → δ → Prop}

/-- Two runs end in the same way: both return, or both throw, and their states are
related. Neither their values nor their exceptions have to be of one type. -/
def SameEnd (R : σ → τ → Prop) (E : ε → δ → Prop) (A : α → β → Prop) :
    Except ε α × σ → Except δ β × τ → Prop
  | (.ok a, s), (.ok b, t) => A a b ∧ R s t
  | (.error e, s), (.error d, t) => E e d ∧ R s t
  | _, _ => False

/-- From related states, the two programs end in the same way. The relation may forget
parts of the states, as long as no branch of either program depends on them. -/
def Simulates (R : σ → τ → Prop) (E : ε → δ → Prop) (A : α → β → Prop) (p : Program ε σ α)
    (q : Program δ τ β) : Prop :=
  ∀ s t, R s t → SameEnd R E A (p.run.run s) (q.run.run t)

/-- Related values are returned in related states. -/
theorem simulates_pure {A : α → β → Prop} {a : α} {b : β} (h : A a b) :
    Simulates R E A (pure a) (pure b) := fun _ _ hR => ⟨h, hR⟩

/-- Related exceptions are thrown in related states. -/
theorem simulates_throw {A : α → β → Prop} {e : ε} {d : δ} (h : E e d) :
    Simulates R E A (throw e) (throw d) := fun _ _ hR => ⟨h, hR⟩

/-- Two reads return the related states themselves. -/
theorem simulates_get : Simulates R E R (get : Program ε σ σ) (get : Program δ τ τ) :=
  fun _ _ hR => ⟨hR, hR⟩

/-- Two writes end in related states when what they write is related. -/
theorem simulates_set {s : σ} {t : τ} (h : R s t) :
    Simulates R E (fun _ _ => True) (set s : Program ε σ PUnit) (set t : Program δ τ PUnit) :=
  fun _ _ _ => ⟨trivial, h⟩

/-- Two updates that keep the relation simulate each other. -/
theorem simulates_modify {f : σ → σ} {g : τ → τ} (h : ∀ s t, R s t → R (f s) (g t)) :
    Simulates R E (fun _ _ => True) (modify f : Program ε σ PUnit)
      (modify g : Program δ τ PUnit) :=
  fun s t hR => ⟨trivial, h s t hR⟩

/-- Two sequences simulate each other part by part. The rests are compared only on
values that are related, so that a value which both have read may be used on both sides. -/
theorem simulates_bind {A : α → β → Prop} {υ : Type} {B : γ → υ → Prop} {p : Program ε σ α}
    {q : Program δ τ β} {f : α → Program ε σ γ} {g : β → Program δ τ υ}
    (hp : Simulates R E A p q) (hf : ∀ a b, A a b → Simulates R E B (f a) (g b)) :
    Simulates R E B (p >>= f) (q >>= g) := by
  intro s t hR
  have hfirst := hp s t hR
  rcases hs : p.run.run s with ⟨e | a, s'⟩
  · rcases ht : q.run.run t with ⟨d | b, t'⟩
    · rw [hs, ht] at hfirst
      rw [bind_of_error hs, bind_of_error ht]
      exact hfirst
    · rw [hs, ht] at hfirst
      cases hfirst
  · rcases ht : q.run.run t with ⟨d | b, t'⟩
    · rw [hs, ht] at hfirst
      cases hfirst
    · rw [hs, ht] at hfirst
      rw [bind_of_ok hs, bind_of_ok ht]
      exact hf a b hfirst.1 s' t' hfirst.2

/-- The same pure computation ends both programs in the same way. -/
theorem simulates_of_except (r : Except ε α) :
    Simulates R Eq Eq (of_except r : Program ε σ α) (of_except r : Program ε τ α) := by
  cases r with
  | ok a => exact simulates_pure rfl
  | error e => exact simulates_throw rfl

/-- Two branches on equivalent conditions simulate each other side by side, and each
side may use that its condition holds. -/
theorem simulates_ite {A : α → β → Prop} {c d : Prop} [Decidable c] [Decidable d]
    {p p' : Program ε σ α} {q q' : Program δ τ β} (hcd : c ↔ d) (h : c → Simulates R E A p q)
    (h' : ¬c → Simulates R E A p' q') :
    Simulates R E A (if c then p else p') (if d then q else q') := by
  by_cases hc : c
  · rw [if_pos hc, if_pos (hcd.mp hc)]
    exact h hc
  · rw [if_neg hc, if_neg (fun hd => hc (hcd.mpr hd))]
    exact h' hc

/-- Two checks of equivalent conditions pass or fail together. -/
theorem simulates_throw_if {c d : Prop} [Decidable c] [Decidable d] {e : ε} {e' : δ} (hcd : c ↔ d)
    (he : E e e') : Simulates R E (fun _ _ => True) (throw_if c e) (throw_if d e') :=
  simulates_ite hcd (fun _ => simulates_throw he) fun _ => simulates_pure trivial

/-- Two conditional steps under equivalent conditions run or are passed over together. -/
theorem simulates_run_if {c d : Prop} [Decidable c] [Decidable d] {p : Program ε σ Unit}
    {q : Program δ τ Unit} (hcd : c ↔ d) (h : Simulates R E (fun _ _ => True) p q) :
    Simulates R E (fun _ _ => True) (run_if c p) (run_if d q) :=
  simulates_ite hcd (fun _ => h) fun _ => simulates_pure trivial

/-! Two runs that have begun from states with more in common. -/

/-- Runs that end in the same way for a relation do so for a weaker one. It leads back
from what two runs have in common after a command to what any two states have. -/
theorem SameEnd.mono {R' : σ → τ → Prop} {A : α → β → Prop} {r : Except ε α × σ}
    {r' : Except δ β × τ} (hR : ∀ s t, R s t → R' s t) (h : SameEnd R E A r r') :
    SameEnd R' E A r r' := by
  rcases r with ⟨e | a, s⟩ <;> rcases r' with ⟨d | b, t⟩
  · exact h.imp id (hR s t)
  · exact h
  · exact h
  · exact h.imp id (hR s t)

/-- Runs of two sequences from states of their own, where the first parts end in the
same way. Unlike `simulates_bind` it is about one pair of states, of which more may be
known than that they are related. -/
theorem SameEnd.bind {A : α → β → Prop} {υ : Type} {B : γ → υ → Prop} {p : Program ε σ α}
    {q : Program δ τ β} {f : α → Program ε σ γ} {g : β → Program δ τ υ} {s : σ} {t : τ}
    (hp : SameEnd R E A (p.run.run s) (q.run.run t))
    (hf : ∀ a b s' t', A a b → R s' t' →
      SameEnd R E B ((f a).run.run s') ((g b).run.run t')) :
    SameEnd R E B ((p >>= f).run.run s) ((q >>= g).run.run t) := by
  rcases hs : p.run.run s with ⟨e | a, s'⟩
  · rcases ht : q.run.run t with ⟨d | b, t'⟩
    · rw [hs, ht] at hp
      rw [bind_of_error hs, bind_of_error ht]
      exact hp
    · rw [hs, ht] at hp
      cases hp
  · rcases ht : q.run.run t with ⟨d | b, t'⟩
    · rw [hs, ht] at hp
      cases hp
    · rw [hs, ht] at hp
      rw [bind_of_ok hs, bind_of_ok ht]
      exact hf a b s' t' hp.1 hp.2

end Simulation

end ProgramLib
