/-
Machines that take inputs one at a time, and what holds along their runs.

A machine is a partial step function: `none` means that the input cannot be
taken in that state, because it is not enabled there or the machine has stopped.
The rules below are the inductions the protocol proofs need, each stated once:
an invariant holds in every state a run reaches (`Run.invariant`), also when it
speaks of the inputs taken so far (`Run.history_invariant`), and also when only
the steps that meet a side condition preserve it (`GuardedRun.invariant`).
-/
import Mathlib.Data.List.Induction

set_option autoImplicit false

namespace MachineLib

variable {σ ι : Type}

/-- `Run step s is t`: taking the inputs `is` in order leads from `s` to `t`. -/
inductive Run (step : σ → ι → Option σ) (s : σ) : List ι → σ → Prop
  | start : Run step s [] s
  | snoc {is : List ι} {t : σ} {i : ι} {u : σ} :
      Run step s is t → step t i = some u → Run step s (is ++ [i]) u

/-- A run each of whose steps meets the condition `ok` in the state it is taken. The
condition may look at the state before the step and at the input, and not at what comes
out. -/
inductive GuardedRun (step : σ → ι → Option σ) (ok : σ → ι → Prop) (s : σ) : List ι → σ → Prop
  | start : GuardedRun step ok s [] s
  | snoc {is : List ι} {t : σ} {i : ι} {u : σ} :
      GuardedRun step ok s is t → ok t i → step t i = some u →
      GuardedRun step ok s (is ++ [i]) u

variable {step : σ → ι → Option σ} {ok : σ → ι → Prop} {s t u : σ} {is js : List ι}

/-- An invariant of the step is an invariant of the run. By induction on the run from
its end, so that the step at hand is always the last one. -/
theorem Run.invariant {P : σ → Prop} (h₀ : P s)
    (hstep : ∀ a i b, P a → step a i = some b → P b) (h : Run step s is t) : P t := by
  induction h with
  | start => exact h₀
  | snoc _ hi ih => exact hstep _ _ _ ih hi

/-- The same for an invariant that also speaks of the inputs taken so far. -/
theorem Run.history_invariant {P : List ι → σ → Prop} (h₀ : P [] s)
    (hstep : ∀ hist a i b, P hist a → step a i = some b → P (hist ++ [i]) b)
    (h : Run step s is t) : P is t := by
  induction h with
  | start => exact h₀
  | snoc _ hi ih => exact hstep _ _ _ _ ih hi

/-- The same for an invariant that only the steps meeting `ok` preserve. -/
theorem GuardedRun.invariant {P : σ → Prop} (h₀ : P s)
    (hstep : ∀ a i b, P a → ok a i → step a i = some b → P b)
    (h : GuardedRun step ok s is t) : P t := by
  induction h with
  | start => exact h₀
  | snoc _ hok hi ih => exact hstep _ _ _ ih hok hi

/-- Runs compose: where the first one has ended the second one goes on, on the inputs
behind its own. -/
theorem Run.append (h₁ : Run step s is t) (h₂ : Run step t js u) : Run step s (is ++ js) u := by
  induction h₂ with
  | start => rwa [List.append_nil]
  | snoc _ hi ih =>
    rw [← List.append_assoc]
    exact ih.snoc hi

/-- The first step of a run, and the rest. -/
theorem Run.cons {i : ι} (hi : step s i = some t) (h : Run step t is u) :
    Run step s (i :: is) u :=
  (Run.start.snoc hi).append h

/-- A guarded run is a run. -/
theorem GuardedRun.toRun (h : GuardedRun step ok s is t) : Run step s is t := by
  induction h with
  | start => exact Run.start
  | snoc _ _ hi ih => exact ih.snoc hi

/-- A run is guarded by what holds of all of its inputs. -/
theorem Run.guarded (h : Run step s is t) (hok : ∀ s, ∀ i ∈ is, ok s i) :
    GuardedRun step ok s is t := by
  induction h with
  | start => exact GuardedRun.start
  | snoc _ hi ih =>
    exact (ih fun s i hmem => hok s i (List.mem_append_left _ hmem)).snoc
      (hok _ _ (List.mem_append_right _ (List.mem_singleton_self _))) hi

/-! ## Taking runs apart -/

/-- A run on no inputs goes nowhere. -/
theorem Run.of_nil (h : Run step s [] t) : t = s := by
  generalize hinputs : ([] : List ι) = inputs at h
  cases h with
  | start => rfl
  | snoc =>
    exact absurd hinputs.symm (List.append_ne_nil_of_right_ne_nil _ (List.cons_ne_nil _ _))

/-- A run ends with its last step. -/
theorem Run.of_snoc {i : ι} (h : Run step s (is ++ [i]) u) :
    ∃ t, Run step s is t ∧ step t i = some u := by
  generalize hinputs : is ++ [i] = inputs at h
  cases h with
  | start => exact absurd hinputs (List.append_ne_nil_of_right_ne_nil _ (List.cons_ne_nil _ _))
  | snoc hrun hi =>
    obtain ⟨rfl, hlast⟩ := List.append_inj' hinputs rfl
    cases hlast
    exact ⟨_, hrun, hi⟩

/-- **Two runs on the same inputs**, step by step: what relates their states, if every step that
meets the condition in the first run preserves it. -/
theorem GuardedRun.lockstep {R : σ → σ → Prop} {s' t' : σ} (h₀ : R s s')
    (hstep : ∀ a a' i b b', R a a' → ok a i → step a i = some b → step a' i = some b' → R b b')
    (h : GuardedRun step ok s is t) (h' : Run step s' is t') : R t t' := by
  induction h generalizing t' with
  | start => exact h'.of_nil ▸ h₀
  | snoc _ hok hi ih =>
    obtain ⟨u', hrun', hi'⟩ := h'.of_snoc
    exact hstep _ _ _ _ _ (ih hrun') hok hi hi'

/-! ## Running a machine -/

/-- Take the inputs in order, each only if the condition holds: a run on fixed inputs can be
evaluated. -/
def run_guarded (step : σ → ι → Option σ) (ok : σ → ι → Prop) [∀ s i, Decidable (ok s i)] (s : σ)
    (is : List ι) : Option σ :=
  is.foldlM (fun s i => if ok s i then step s i else none) s

theorem GuardedRun.of_run_guarded [∀ s i, Decidable (ok s i)]
    (h : run_guarded step ok s is = some t) : GuardedRun step ok s is t := by
  induction is using List.reverseRecOn generalizing t with
  | nil =>
    cases h
    exact GuardedRun.start
  | append_singleton is i ih =>
    rw [run_guarded, List.foldlM_append, Option.bind_eq_bind, Option.bind_eq_some_iff] at h
    obtain ⟨u, hu, h⟩ := h
    simp only [List.foldlM_cons, List.foldlM_nil, bind_pure] at h
    split at h
    · rename_i hok
      exact (ih hu).snoc hok h
    · cases h

/-- A run that is seen to end in a state with a property. The hypothesis is a
computation, by which concrete runs are found. -/
theorem GuardedRun.any [∀ s i, Decidable (ok s i)] {P : σ → Prop} [DecidablePred P]
    (h : (run_guarded step ok s is).any (fun t => P t) = true) :
    ∃ t, GuardedRun step ok s is t ∧ P t := by
  obtain ⟨t, hrun, hP⟩ := (Option.any_eq_true _ _).mp h
  exact ⟨t, GuardedRun.of_run_guarded hrun, of_decide_eq_true hP⟩

end MachineLib
