/-
Iterators: a partial function that returns the next value and the iterator after it.

A call that fails leaves the iterator as it was, so the calls one after the other are a
function of their number. `Yields` says which values they return before they fail; it fixes
the values and how many of the calls succeed.
-/
import Mathlib.Data.List.Basic

set_option autoImplicit false

namespace IteratorLib

variable {σ α : Type}

/-- The iterator after `n` calls. -/
def after (next : σ → Option (α × σ)) (it : σ) : ℕ → σ
  | 0 => it
  | n + 1 => (next (after next it n)).elim (after next it n) Prod.snd

/-- What the call after `n` others returns. -/
def call (next : σ → Option (α × σ)) (it : σ) (n : ℕ) : Option α :=
  (next (after next it n)).map Prod.fst

/-- How many of the first `n` calls succeed. -/
def successes (next : σ → Option (α × σ)) (it : σ) (n : ℕ) : ℕ :=
  (List.range n).countP fun i => (call next it i).isSome

/-- The calls return these values in order, and fail from then on. -/
def Yields (next : σ → Option (α × σ)) (it : σ) (values : List α) : Prop :=
  ∀ n, call next it n = values[n]?

variable {next : σ → Option (α × σ)} {it : σ} {values others : List α}

theorem Yields.unique (h : Yields next it values) (h' : Yields next it others) :
    values = others :=
  List.ext_getElem? fun n => (h n).symm.trans (h' n)

/-- A call succeeds as long as there are values left. -/
theorem Yields.isSome_iff (h : Yields next it values) (n : ℕ) :
    (call next it n).isSome = true ↔ n < values.length := by
  rw [h n, Option.isSome_iff_ne_none, ne_eq, List.getElem?_eq_none_iff, Nat.not_le]

theorem Yields.successes (h : Yields next it values) (n : ℕ) :
    successes next it n = min n values.length := by
  induction n with
  | zero => rw [IteratorLib.successes, List.range_zero, List.countP_nil, Nat.zero_min]
  | succ n ih =>
    rw [IteratorLib.successes] at ih ⊢
    rw [List.range_succ, List.countP_append, ih, List.countP_singleton]
    simp only [h.isSome_iff]
    split <;> omega

end IteratorLib
