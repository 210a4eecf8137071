import Mathlib

/-
# Lib.Machine — runs of a state machine

A machine takes one event at a time; `step s e = none` says that the event is not possible in `s`. What
the environment chooses is part of the event. The rule is the invariant rule, under an assumption on the
events that may look at the state each is taken in.
-/

namespace SecureCloud.Lib

/-- **A run that was evaluated**: it ends, and where it ends `P` holds. -/
theorem exists_of_any {α : Type*} {o : Option α} {Q : α → Prop} (P : α → Prop) [DecidablePred P]
    (h : o.any (P ·) = true) (hQ : ∀ a, o = some a → P a → Q a) : ∃ a, o = some a ∧ Q a := by
  obtain ⟨a, ha, hP⟩ := (Option.any_eq_true _ o).mp h
  exact ⟨a, ha, hQ a ha (of_decide_eq_true hP)⟩

namespace Machine

variable {σ ε : Type*} (step : σ → ε → Option σ)

/-- A run: the events of a list, in order. -/
def run : σ → List ε → Option σ
  | s, [] => some s
  | s, e :: es => (step s e).bind fun s' => run s' es

/-- Every event of the run satisfies `A` in the state it is taken in. -/
def Along (A : σ → ε → Prop) : σ → List ε → Prop
  | _, [] => True
  | s, e :: es => A s e ∧ ∀ s' ∈ step s e, Along A s' es

/-- Every state of the run satisfies `P`, the first and the last included. -/
def Visits (P : σ → Prop) : σ → List ε → Prop
  | s, [] => P s
  | s, e :: es => P s ∧ ∀ s' ∈ step s e, Visits P s' es

instance decidableAlong (A : σ → ε → Prop) [∀ s e, Decidable (A s e)] :
    ∀ s es, Decidable (Along step A s es)
  | _, [] => isTrue trivial
  | s, e :: es =>
    have : ∀ s', Decidable (Along step A s' es) := fun s' => decidableAlong A s' es
    inferInstanceAs (Decidable (A s e ∧ ∀ s' ∈ step s e, Along step A s' es))

variable {step} {s : σ} {es : List ε} {A : σ → ε → Prop}

theorem run_cons_eq_some {s'' : σ} {e : ε} (h : run step s (e :: es) = some s'') :
    ∃ s', step s e = some s' ∧ run step s' es = some s'' := by
  simpa only [run, Option.bind_eq_some_iff] using h

theorem along_of_forall {A : ε → Prop} (h : ∀ e ∈ es, A e) (s : σ) :
    Along step (fun _ => A) s es := by
  induction es generalizing s with
  | nil => trivial
  | cons e es ih =>
    refine ⟨h e List.mem_cons_self, ?_⟩
    intro s' _
    exact ih (fun e' he' => h e' (List.mem_cons_of_mem _ he')) s'

/-- **The invariant rule.** -/
theorem run_invariant {I : σ → Prop}
    (keep : ∀ s e s', A s e → I s → step s e = some s' → I s') {s s' : σ}
    (hI : I s) (hA : Along step A s es) (hrun : run step s es = some s') : I s' := by
  induction es generalizing s with
  | nil =>
    obtain rfl : s = s' := by simpa [run] using hrun
    exact hI
  | cons e es ih =>
    obtain ⟨t, ht, hrest⟩ := run_cons_eq_some hrun
    exact ih (keep s e t hA.1 hI ht) (hA.2 t ht) hrest

/-- **What came to hold, came to hold at some event**: the run before it ends without `Q`, the state
right after it has `Q`, and the rest of the run starts there. -/
theorem exists_entry {Q : σ → Prop} {s' : σ} (hout : ¬ Q s)
    (hrun : run step s es = some s') (hin : Q s') :
    ∃ pre e post t t', es = pre ++ e :: post ∧ run step s pre = some t ∧ step t e = some t' ∧
      run step t' post = some s' ∧ ¬ Q t ∧ Q t' := by
  induction es generalizing s with
  | nil =>
    obtain rfl : s = s' := by simpa [run] using hrun
    exact absurd hin hout
  | cons e es ih =>
    obtain ⟨t, ht, hrest⟩ := run_cons_eq_some hrun
    by_cases hQ : Q t
    · exact ⟨[], e, es, s, t, rfl, rfl, ht, hrest, hout, hQ⟩
    obtain ⟨pre, e', post, u, u', rfl, hpre, hstep, hpost, hu, hu'⟩ := ih hQ hrest
    refine ⟨e :: pre, e', post, u, u', rfl, ?_, hstep, hpost, hu, hu'⟩
    rw [run, ht]
    exact hpre

theorem Along.of_append {t : σ} {fs : List ε}
    (h : Along step A s (es ++ fs)) (hrun : run step s es = some t) : Along step A t fs := by
  induction es generalizing s with
  | nil =>
    obtain rfl : s = t := by simpa [run] using hrun
    exact h
  | cons e es ih =>
    obtain ⟨u, hu, hrest⟩ := run_cons_eq_some hrun
    exact ih (h.2 u hu) hrest

theorem Along.of_append_left {fs : List ε} (h : Along step A s (es ++ fs)) : Along step A s es := by
  induction es generalizing s with
  | nil => trivial
  | cons e es ih =>
    refine ⟨h.1, ?_⟩
    intro s' hs'
    exact ih (h.2 s' hs')

theorem Visits.first {P : σ → Prop} (h : Visits step P s es) : P s := by
  cases es with
  | nil => exact h
  | cons e es => exact h.1

/-- **The exact condition of a safety property.** When the property follows from an invariant, an event that
meets the condition keeps the invariant, and one that does not leads out of the property, then the safe
runs are exactly those whose events meet the condition. -/
theorem visits_iff_along {I P : σ → Prop} (safe : ∀ s, I s → P s)
    (keep : ∀ s e s', A s e → I s → step s e = some s' → I s')
    (lose : ∀ s e, ¬ A s e → I s → ∃ s', step s e = some s' ∧ ¬ P s') (hI : I s)
    (es : List ε) : Visits step P s es ↔ Along step A s es := by
  induction es generalizing s with
  | nil => exact ⟨fun _ => trivial, fun _ => safe s hI⟩
  | cons e es ih =>
    constructor
    · intro h
      have hA : A s e := by
        by_contra hA
        obtain ⟨s', hs', hP⟩ := lose s e hA hI
        exact hP (h.2 s' hs').first
      exact ⟨hA, fun s' hs' => (ih (keep s e s' hA hI hs')).mp (h.2 s' hs')⟩
    · intro h
      exact ⟨safe s hI, fun s' hs' => (ih (keep s e s' h.1 hI hs')).mpr (h.2 s' hs')⟩

end Machine

end SecureCloud.Lib
