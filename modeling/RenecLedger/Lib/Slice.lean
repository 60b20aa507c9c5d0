/-
Cutting a list into slices of one length.

`slices n xs` is `[xs[x : x + n] for x in range(0, len(xs), n)]`: the slices at `0`, `n`, `2 * n`
and so on. Put together they are the list again, none of them is empty, and all but the last are
of length `n`. Nothing here is about what is cut.
-/
import Mathlib.Data.List.Basic

set_option autoImplicit false

namespace SliceLib

variable {α : Type} {n : ℕ} {xs : List α}

/-- `range(0, length, n)`. -/
def starts (length n : ℕ) : List ℕ := List.range' 0 ((length + n - 1) / n) n

def slices (n : ℕ) (xs : List α) : List (List α) :=
  (starts xs.length n).map fun x => (xs.drop x).take n

/-- Slices in a row are a longer slice. -/
theorem consecutive_flatten (xs : List α) (x k n : ℕ) :
    ((List.range' x k n).map fun x => (xs.drop x).take n).flatten = (xs.drop x).take (k * n) := by
  induction k generalizing x with
  | zero => rw [Nat.zero_mul, List.take_zero, List.range'_zero, List.map_nil, List.flatten_nil]
  | succ k ih =>
    rw [List.range'_succ, List.map_cons, List.flatten_cons, ih, Nat.succ_mul, Nat.add_comm (k * n),
      List.take_add, List.drop_drop]

theorem slices_flatten (hn : 0 < n) (xs : List α) : (slices n xs).flatten = xs := by
  have henough : xs.length ≤ (xs.length + n - 1) / n * n := by
    have hdiv := Nat.div_add_mod' (xs.length + n - 1) n
    have hmod := Nat.mod_lt (xs.length + n - 1) hn
    omega
  rw [slices, starts, consecutive_flatten, List.drop_zero, List.take_of_length_le henough]

theorem slice_bounds (hn : 0 < n) {slice : List α} (h : slice ∈ slices n xs) :
    slice ≠ [] ∧ slice.length ≤ n := by
  obtain ⟨x, hx, rfl⟩ := List.mem_map.mp h
  obtain ⟨k, hk, rfl⟩ := List.mem_range'.mp hx
  refine ⟨List.ne_nil_of_length_pos ?_, List.length_take_le _ _⟩
  have hinside : n * k + n ≤ xs.length + n - 1 := by
    have hmul := Nat.mul_le_of_le_div n (k + 1) (xs.length + n - 1) hk
    rwa [Nat.mul_comm, Nat.mul_succ] at hmul
  rw [List.length_take, List.length_drop]
  omega

/-- A list that is not longer than a slice is one. -/
theorem slices_of_length_le (hne : xs ≠ []) (hle : xs.length ≤ n) : slices n xs = [xs] := by
  have hpos := List.length_pos_of_ne_nil hne
  have hone : (xs.length + n - 1) / n = 1 := by
    rw [Nat.div_eq_iff (by omega)]
    omega
  rw [slices, starts, hone]
  change [(xs.drop 0).take n] = [xs]
  rw [List.drop_zero, List.take_of_length_le hle]

/-- One header in front of every slice. -/
theorem headed_flatten_length (header : List α) (xss : List (List α)) :
    (xss.map (header ++ ·)).flatten.length = xss.flatten.length + xss.length * header.length := by
  induction xss with
  | nil => rw [List.map_nil, List.flatten_nil, List.length_nil, List.length_nil, Nat.zero_mul]
  | cons xs xss ih =>
    rw [List.map_cons, List.flatten_cons, List.flatten_cons, List.length_append,
      List.length_append, List.length_append, ih, List.length_cons, Nat.succ_mul]
    omega

end SliceLib
