import SecureCloud.Lib.Machine

/-
# Lib.Interleaving — sequential processes over one shared state

A process is a program counter of type `π`. A move of process `i` reads it, what the environment
contributes (`χ`: a clock reading, the outcome of a remote call) and the shared state `σ`, and yields the
next program counter and shared state, or `none` while the process is blocked. A run is a list of moves
in arbitrary order.

The rule is the Owicki–Gries one: a GLOBAL assertion on the shared state and a LOCAL one per process hold
along every run as soon as each move re-establishes its own local assertion and does not disturb those of
the others.
-/

namespace SecureCloud.Lib.Interleaving

variable {ι π σ χ : Type*} [DecidableEq ι]

structure Config (ι π σ : Type*) where
  proc : ι → π
  shared : σ

/-- One move. Process `m.1` advances with the environment's contribution `m.2`. -/
def move (next : ι → π → χ → σ → Option (π × σ)) (c : Config ι π σ) (m : ι × χ) :
    Option (Config ι π σ) :=
  (next m.1 (c.proc m.1) m.2 c.shared).map fun r =>
    { proc := Function.update c.proc m.1 r.1, shared := r.2 }

/-- A run: the moves of a list, in order; `none` when one of them is blocked. -/
def run (next : ι → π → χ → σ → Option (π × σ)) :
    Config ι π σ → List (ι × χ) → Option (Config ι π σ)
  | c, [] => some c
  | c, m :: ms => (move next c m).bind fun c' => run next c' ms

variable {next : ι → π → χ → σ → Option (π × σ)}

variable {c c' d : Config ι π σ} {m : ι × χ} {i : ι} {ms : List (ι × χ)}

theorem move_eq_some (h : move next c m = some c') :
    ∃ p' s', next m.1 (c.proc m.1) m.2 c.shared = some (p', s') ∧
      c' = { proc := Function.update c.proc m.1 p', shared := s' } := by
  simp only [move, Option.map_eq_some_iff] at h
  obtain ⟨⟨p', s'⟩, hn, rfl⟩ := h
  exact ⟨p', s', hn, rfl⟩

open Function

theorem update_cases {α : Type*} {view : π → α} {a : α} {proc : ι → π} {j : ι} {p' : π}
    (h : view (Function.update proc i p' j) = a) :
    (j = i ∧ view p' = a) ∨ (j ≠ i ∧ view (proc j) = a) := by
  by_cases hj : j = i
  · subst hj
    rw [update_self] at h
    exact .inl ⟨rfl, h⟩
  · rw [update_of_ne hj] at h
    exact .inr ⟨hj, h⟩

theorem run_cons_eq_some {c'' : Config ι π σ} (h : run next c (m :: ms) = some c'') :
    ∃ c', move next c m = some c' ∧ run next c' ms = some c'' := by
  simpa only [run, Option.bind_eq_some_iff] using h

theorem forall_split_cons {P : Config ι π σ → ι → χ → Prop} {x : χ} (h : P c i x)
    (hmove : move next c (i, x) = some c') (hrest : ∀ pre j y post d, ms = pre ++ (j, y) :: post →
      run next c' pre = some d → P d j y) :
    ∀ pre j y post d, (i, x) :: ms = pre ++ (j, y) :: post → run next c pre = some d → P d j y := by
  intro pre j y post d hms hrun
  cases pre with
  | nil =>
    cases hms
    cases hrun
    exact h
  | cons m pre =>
    obtain ⟨rfl, htail⟩ := List.cons.inj hms
    rw [run, hmove] at hrun
    exact hrest pre j y post d htail hrun

theorem run_append_eq (c : Config ι π σ) (ms ns : List (ι × χ)) :
    run next c (ms ++ ns) = (run next c ms).bind fun d => run next d ns := by
  induction ms generalizing c with
  | nil => rfl
  | cons m ms ih =>
    show (move next c m).bind _ = ((move next c m).bind _).bind _
    rw [Option.bind_assoc]
    congr 1
    funext c'
    exact ih c'

theorem run_append {e : Config ι π σ} {ns : List (ι × χ)} (hms : run next c ms = some d)
    (hns : run next d ns = some e) : run next c (ms ++ ns) = some e := by
  rw [run_append_eq, hms]
  exact hns

def trace (next : ι → π → χ → σ → Option (π × σ)) :
    Config ι π σ → List (ι × χ) → List (Config ι π σ × (ι × χ))
  | _, [] => []
  | c, m :: ms => (c, m) :: ((move next c m).map fun c' => trace next c' ms).getD []

theorem trace_cons (h : move next c m = some c') :
    trace next c (m :: ms) = (c, m) :: trace next c' ms := by
  simp [trace, h]

theorem forall_trace_cons {A : Config ι π σ × (ι × χ) → Prop} (h : move next c m = some c') :
    (∀ e ∈ trace next c (m :: ms), A e) ↔ A (c, m) ∧ ∀ e ∈ trace next c' ms, A e := by
  rw [trace_cons h, List.forall_mem_cons]

section
variable {I : Config ι π σ → Prop} {A : Config ι π σ → ι × χ → Prop}
  (step : ∀ c m c', A c m → I c → move next c m = some c' → I c')
include step

/-- **The invariant rule**, for whole configurations. `A` is what the run's moves are
assumed to satisfy. -/
theorem run_induction :
    ∀ {c c' : Config ι π σ} {ms : List (ι × χ)}, I c →
      (∀ e ∈ trace next c ms, A e.1 e.2) → run next c ms = some c' → I c'
  | c, c', [], h, _, hr => by
    obtain rfl : c = c' := by simpa [run] using hr
    exact h
  | c, c', m :: ms, h, ha, hr => by
    obtain ⟨d, hd, hrest⟩ := run_cons_eq_some hr
    rw [trace_cons hd] at ha
    have hm : A c m := ha (c, m) (by simp)
    exact run_induction (step c m d hm h hd) (fun e he => ha e (by simp [he])) hrest

/-- **The invariant rule, at every move**: the invariant holds wherever a move is taken. -/
theorem trace_induction :
    ∀ {c : Config ι π σ} {ms : List (ι × χ)}, I c →
      (∀ e ∈ trace next c ms, A e.1 e.2) → ∀ e ∈ trace next c ms, I e.1
  | c, [], _, _, e, he => absurd he List.not_mem_nil
  | c, m :: ms, h, ha, e, he => by
    rcases List.mem_cons.mp he with rfl | he
    · exact h
    cases hd : move next c m with
    | none => exact absurd he (by simp [hd])
    | some d =>
      rw [trace_cons hd, List.forall_mem_cons] at ha
      rw [hd] at he
      exact trace_induction (step c m d ha.1 h hd) ha.2 e he

end

/-- **What every step relates, a run relates.** -/
theorem run_related {R : σ → σ → Prop} (hrefl : ∀ s, R s s)
    (htrans : ∀ {s s' s''}, R s s' → R s' s'' → R s s'')
    (hnext : ∀ {i p x s p' s'}, next i p x s = some (p', s') → R s s')
    (hrun : run next c ms = some c') : R c.shared c'.shared := by
  refine run_induction (A := fun _ _ => True) (I := fun d => R c.shared d.shared) ?_ (hrefl _)
    (fun _ _ => trivial) hrun
  rintro d m d' - hd hmove
  obtain ⟨p', s', hstep, rfl⟩ := move_eq_some hmove
  exact htrans hd (hnext hstep)

theorem trace_append {ns : List (ι × χ)} (h : run next c ms = some d) :
    trace next c (ms ++ ns) = trace next c ms ++ trace next d ns := by
  induction ms generalizing c with
  | nil =>
    obtain rfl : c = d := by simpa [run] using h
    rfl
  | cons m ms ih =>
    obtain ⟨c', hc', hrest⟩ := run_cons_eq_some h
    rw [List.cons_append, trace_cons hc', trace_cons hc', ih hrest]
    rfl

theorem run_proc_of_not_mem : ∀ {c c' : Config ι π σ} {ms : List (ι × χ)}, (∀ m ∈ ms, m.1 ≠ i) →
      run next c ms = some c' → c'.proc i = c.proc i
  | c, c', [], _, hr => by
    obtain rfl : c = c' := by simpa [run] using hr
    rfl
  | c, c', m :: ms, hi, hr => by
    obtain ⟨d, hd, hrest⟩ := run_cons_eq_some hr
    obtain ⟨p', s', -, rfl⟩ := move_eq_some hd
    rw [run_proc_of_not_mem (fun m' hm' => hi m' (by simp [hm'])) hrest]
    exact update_of_ne (hi m (by simp)).symm _ _

/-- **A process that came to be in `Q` entered it by a move of its own.** -/
theorem exists_entry {Q : π → Prop}
    (hout : ¬ Q (c.proc i)) (hr : run next c ms = some d) (hin : Q (d.proc i)) :
    ∃ pre x post e p' s', ms = pre ++ (i, x) :: post ∧ run next c pre = some e ∧
      next i (e.proc i) x e.shared = some (p', s') ∧ ¬ Q (e.proc i) ∧ Q p' := by
  induction ms generalizing c with
  | nil =>
    obtain rfl : c = d := by simpa [run] using hr
    exact absurd hin hout
  | cons m ms ih =>
    obtain ⟨c₁, hc₁, hrest⟩ := run_cons_eq_some hr
    obtain ⟨p', s', hn, hc₁'⟩ := move_eq_some hc₁
    by_cases hQ : Q (c₁.proc i)
    · -- the first move is the entry, so it is a move of `i`
      have hmi : m.1 = i := by
        by_contra hne
        apply hout
        simpa [hc₁', update_of_ne (Ne.symm hne)] using hQ
      obtain ⟨j, x⟩ := m
      obtain rfl : j = i := hmi
      refine ⟨[], x, ms, c, p', s', rfl, rfl, hn, hout, ?_⟩
      simpa [hc₁'] using hQ
    obtain ⟨pre, x, post, e, p', s', rfl, he, hstep, hbefore, hafter⟩ := ih hQ hrest
    refine ⟨m :: pre, x, post, e, p', s', rfl, ?_, hstep, hbefore, hafter⟩
    rw [run, hc₁]
    exact he

/-! ## Global and local assertions -/

def Annotated (G : σ → Prop) (L : ι → π → σ → Prop) (c : Config ι π σ) : Prop :=
  G c.shared ∧ ∀ i, L i (c.proc i) c.shared

/-- **Owicki–Gries, one move.** `own`: the move keeps the global assertion and establishes the mover's next
local one. `other`: it does not interfere with the local one of another process. -/
theorem move_annotated {G : σ → Prop} {L : ι → π → σ → Prop} {x : χ}
    (own : ∀ p' s', next i (c.proc i) x c.shared = some (p', s') → G s' ∧ L i p' s')
    (other : ∀ j p' s', i ≠ j → next i (c.proc i) x c.shared = some (p', s') → L j (c.proc j) s')
    (hm : move next c (i, x) = some c') : Annotated G L c' := by
  obtain ⟨p', s', hn, rfl⟩ := move_eq_some hm
  obtain ⟨hG', hLi⟩ := own p' s' hn
  refine ⟨hG', fun j => ?_⟩
  by_cases hj : j = i
  · subst hj
    simpa using hLi
  · simpa [update_of_ne hj] using other j p' s' (Ne.symm hj) hn

namespace Numerals

/-! For the numerals of processes in concrete runs. -/

scoped instance three : NeZero 3 := ⟨by decide⟩

scoped instance four : NeZero 4 := ⟨by decide⟩

end Numerals

end SecureCloud.Lib.Interleaving
