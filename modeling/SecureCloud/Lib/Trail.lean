import SecureCloud.Lib.Program

/-
# Lib.Trail — what a call has done when it comes to a statement

Of programs that are told nothing about each other it can still be said where their statements come from:
one that writes a row has read it before, or was handed it. Such an obligation is a property `O past l` of
the call's OWN past, so it holds in any company, without a rely condition.

`Follows` is that property for a call, `follows_move` keeps it along a run, and `Kept` carries facts
about the steps that the calls have taken: a condition on the run, and what a step found is still so.
-/

namespace SecureCloud.Lib.Program

variable {ι : Type} {Stmt χ σ : Type} {Resp : Stmt → Type} {α β ε : Type}

/-! ## Obligations on the past -/

/-- The protocol of a trail: anything may happen meanwhile; what is owed is a property of the past. -/
def Protocol.trail (O : List (Step Stmt χ σ) → Stmt → Prop) : Protocol Stmt χ σ where
  inv := fun _ => True
  rely := fun _ _ _ => True
  assume := fun _ _ _ _ => True
  oblige := fun past l _ => O past l
  rely_refl := fun _ _ => trivial
  rely_trans := fun _ _ _ _ _ _ => trivial

/-- The program keeps to the trail from any state: every statement meets its obligation, a value is
returned in `Q`. It may throw anywhere. -/
def Trails (exec : (l : Stmt) → χ → σ → Option (Resp l × σ))
    (O : List (Step Stmt χ σ) → Stmt → Prop) (Q : List (Step Stmt χ σ) → α → Prop)
    (m : ExceptT ε (Prog Stmt Resp) α) (past : List (Step Stmt χ σ)) : Prop :=
  ∀ s, (Protocol.trail O).SatE exec (fun past a _ => Q past a) (fun _ _ _ => True) m past s

section
variable {exec : (l : Stmt) → χ → σ → Option (Resp l × σ)}
  {O : List (Step Stmt χ σ) → Stmt → Prop} {past : List (Step Stmt χ σ)}
  {Q Q' : List (Step Stmt χ σ) → α → Prop} {m : ExceptT ε (Prog Stmt Resp) α} {a : α}

namespace Trails

open Protocol

theorem pure (h : Q past a) :
    Trails exec O Q (Pure.pure a : ExceptT ε (Prog Stmt Resp) α) past :=
  fun _ => satE_pure fun _ _ _ => h

theorem throw {e : ε} : Trails exec O Q (MonadExcept.throw e : ExceptT ε (Prog Stmt Resp) α) past :=
  fun _ => satE_throw fun _ _ _ => trivial

theorem mono (hQ : ∀ past a, Q past a → Q' past a) (h : Trails exec O Q m past) :
    Trails exec O Q' m past := by
  intro s
  refine satE_mono ?_ (h s)
  intro past' a s' _ ha
  exact hQ past' a (ha s' trivial trivial)

variable {f : α → ExceptT ε (Prog Stmt Resp) β}

theorem bind {Q : List (Step Stmt χ σ) → β → Prop}
    (h : Trails exec O (fun past a => Trails exec O Q (f a) past) m past) :
    Trails exec O Q (m >>= f) past := by
  intro s
  refine satE_bind (satE_mono ?_ (h s))
  intro past' a s' _ ha
  exact ha s' trivial trivial s'

section
variable (h : Trails exec O Q m past)

include h

theorem with_past :
    Trails exec O (fun past' a => past <:+ past' ∧ Q past' a) m past := by
  intro s
  refine satE_mono ?_ (satE_with_past (h s))
  intro past' a s' _ ha
  exact ha s' trivial trivial

theorem seq {Q' : List (Step Stmt χ σ) → β → Prop}
    (hf : ∀ a past', past <:+ past' → Trails exec O Q' (f a) past') :
    Trails exec O Q' (m >>= f) past :=
  bind (mono (fun past' a ha => hf a past' ha.1) (with_past h))

theorem tryCatch {f : ε → ExceptT ε (Prog Stmt Resp) α}
    (hf : ∀ e past', past <:+ past' → Trails exec O Q (f e) past') :
    Trails exec O Q (MonadExcept.tryCatch m f) past := by
  intro s
  refine satE_tryCatch (satE_mono ?_ (satE_with_past (h s)) ?_)
  · intro past' a s' _ ha
    exact (ha s' trivial trivial).2
  intro past' e s' _ he
  exact hf e past' (he s' trivial trivial).1 s'

end

end Trails

/-! ### Programs that do not throw -/

def Prog.Trails (exec : (l : Stmt) → χ → σ → Option (Resp l × σ))
    (O : List (Step Stmt χ σ) → Stmt → Prop) (Q : List (Step Stmt χ σ) → α → Prop)
    (p : Prog Stmt Resp α) (past : List (Step Stmt χ σ)) : Prop :=
  ∀ s, (Protocol.trail O).Sat exec (fun past a _ => Q past a) p past s

variable {p : Prog Stmt Resp α}

theorem Prog.Trails.pure (h : Q past a) :
    (Pure.pure a : Prog Stmt Resp α).Trails exec O Q past :=
  fun _ => Protocol.sat_pure fun _ _ _ => h

theorem Prog.Trails.mono (hQ : ∀ past a, Q past a → Q' past a) (h : p.Trails exec O Q past) :
    p.Trails exec O Q' past := by
  intro s
  refine Protocol.Sat.mono ?_ (h s)
  intro past' a s' _ ha
  exact hQ past' a (ha s' trivial trivial)

theorem Prog.Trails.bind {f : α → Prog Stmt Resp β} {Q : List (Step Stmt χ σ) → β → Prop}
    (h : p.Trails exec O (fun past a => (f a).Trails exec O Q past) past) :
    (p >>= f).Trails exec O Q past := by
  intro s
  refine Protocol.sat_bind (Protocol.Sat.mono ?_ (h s))
  intro past' a s' _ ha
  exact ha s' trivial trivial s'

theorem Prog.Trails.perform {l : Stmt} {Q : List (Step Stmt χ σ) → Resp l → Prop} (howed : O past l)
    (h : ∀ x r s s', exec l x s = some (r, s') → Q (⟨l, x, s⟩ :: past) r) :
    (Prog.perform l : Prog Stmt Resp (Resp l)).Trails exec O Q past := by
  intro s
  refine Protocol.sat_perform ?_
  intro s₁ _ _
  refine ⟨howed, ?_⟩
  intro x r s₂ hexec _ _ _ _
  exact h x r s₁ s₂ hexec

theorem Prog.Trails.any : p.Trails exec (fun _ _ => True) (fun _ _ => True) past := by
  induction p generalizing past with
  | ret a => exact fun _ _ _ _ => trivial
  | stmt l k ih => exact fun _ _ _ _ => ⟨trivial, fun _ r s'' _ _ => ih r s''⟩

theorem Trails.run (h : Program.Trails exec O Q m past) :
    m.run.Trails exec O (fun past r => ∀ a, r = .ok a → Q past a) past := by
  intro s
  refine Protocol.Sat.mono ?_ (h s)
  rintro past' r s' _ hr a rfl
  exact hr s' trivial trivial

variable {O' : List (Step Stmt χ σ) → Stmt → Prop} {I : List (Step Stmt χ σ) → Prop}

section
variable (hO : ∀ past l, I past → O past l → O' past l)
  (hI : ∀ past l x s, I past → O past l → I (⟨l, x, s⟩ :: past))

include hO hI

/-- **Another obligation.** Where each statement that meets one obligation keeps `I` and meets another under
it, a program that keeps to the one trail keeps to the other. -/
theorem Prog.Trails.under (h : p.Trails exec O Q past) (hpast : I past) :
    p.Trails exec O' (fun past a => I past ∧ Q past a) past := by
  induction p generalizing past with
  | ret a => exact fun s s' _ _ => ⟨hpast, h s s' trivial trivial⟩
  | stmt l k ih =>
    intro s s' _ _
    obtain ⟨hl, hnext⟩ := h s s' trivial trivial
    refine ⟨hO past l hpast hl, ?_⟩
    intro x r s'' hexec _
    refine ih r ?_ (hI past l x s' hpast hl) s''
    exact fun s₁ => Protocol.Sat.weaken (hnext x r s'' hexec trivial) trivial

theorem Trails.under (h : Program.Trails exec O Q m past) (hpast : I past) :
    Program.Trails exec O' (fun past a => I past ∧ Q past a) m past := by
  intro s
  refine Protocol.Sat.mono ?_ (Prog.Trails.under hO hI h.run hpast s)
  intro past' r s' _ hr
  cases r with
  | ok a => exact ⟨(hr s' trivial trivial).1, (hr s' trivial trivial).2 a rfl⟩
  | error e => trivial

end

theorem Prog.Trails.weaken (hO : ∀ past l, O past l → O' past l)
    (h : p.Trails exec O Q past) : p.Trails exec O' Q past :=
  .mono (fun _ _ h => h.2) (h.under (I := fun _ => True) (fun past l _ => hO past l)
    (fun _ _ _ _ _ _ => trivial) trivial)

theorem Trails.lift (h : p.Trails exec O Q past) :
    Program.Trails exec O Q (liftM p : ExceptT ε (Prog Stmt Resp) α) past :=
  fun s => Protocol.satE_lift (h s)

theorem Trails.perform {l : Stmt} {Q : List (Step Stmt χ σ) → Resp l → Prop} (howed : O past l)
    (h : ∀ x r s s', exec l x s = some (r, s') → Q (⟨l, x, s⟩ :: past) r) :
    Program.Trails exec O Q (liftM (Prog.perform l) : ExceptT ε (Prog Stmt Resp) (Resp l)) past :=
  .lift (.perform howed h)

end

/-! ## Calls -/

namespace Call

variable (exec : (l : Stmt) → χ → σ → Option (Resp l × σ)) (O : List (Step Stmt χ σ) → Stmt → Prop)

/-- The call follows its trail: from here on, each of its statements meets its obligation. -/
def Follows (c : Call Stmt Resp χ σ α) : Prop :=
  ∀ s, (Protocol.trail O).Sat exec (fun _ _ _ => True) c.rest c.past s

def upcoming (c : Call Stmt Resp χ σ α) (x : χ) (s : σ) : Option (Step Stmt χ σ) :=
  match c.rest with
  | .ret _ => none
  | .stmt l _ => some ⟨l, x, s⟩

variable {exec O} {c : Call Stmt Resp χ σ α} {x : χ} {s : σ} {st : Step Stmt χ σ}

theorem result_eq_none_of_upcoming (h : c.upcoming x s = some st) : c.result = none := by
  unfold upcoming at h
  split at h
  · exact nomatch h
  rename_i hrest
  rw [result, hrest]
  rfl

variable {Q : List (Step Stmt χ σ) → α → Prop}

theorem follows_start {p : Prog Stmt Resp α}
    (h : p.Trails exec O Q []) : (Call.start p).Follows exec O := by
  intro s
  exact Protocol.Sat.mono (fun _ _ _ _ _ => trivial) (h s)

theorem Follows.owed
    (h : c.Follows exec O) (hst : c.upcoming x s = some st) : O c.past st.stmt := by
  have hsat := h s
  unfold upcoming at hst
  split at hst
  · exact nomatch hst
  rename_i l k hrest
  cases hst
  rw [hrest] at hsat
  exact (hsat s trivial trivial).1

/-- **One statement**: its obligation is met, and the call follows its trail from there. -/
theorem Follows.advance {c' : Call Stmt Resp χ σ α} {i : ι} {s' : σ}
    (h : c.Follows exec O) (hadvance : Call.advance exec i c x s = some (c', s')) :
    ∃ st : Step Stmt χ σ, ∃ r, c.upcoming x s = some st ∧ st.env = x ∧ st.before = s ∧
      exec st.stmt x s = some (r, s') ∧ O c.past st.stmt ∧ c'.past = st :: c.past ∧
      c'.Follows exec O := by
  obtain ⟨l, k, r, hrest, hexec, rfl⟩ := Call.advance_eq_some hadvance
  have hsat := h s
  rw [hrest] at hsat
  obtain ⟨howed, hnext⟩ := hsat s trivial trivial
  refine ⟨⟨l, x, s⟩, r, by rw [upcoming, hrest], rfl, rfl, hexec, howed, rfl, ?_⟩
  intro s₁
  exact Protocol.Sat.weaken (hnext x r s' hexec trivial) trivial

end Call

/-! ## Runs -/

open Interleaving

variable [DecidableEq ι]

def takenBy (e : Config ι (Call Stmt Resp χ σ α) σ × (ι × χ)) : Option (Step Stmt χ σ) :=
  (e.1.proc e.2.1).upcoming e.2.2 e.1.shared

section
variable {exec : (l : Stmt) → χ → σ → Option (Resp l × σ)}
  {O : List (Step Stmt χ σ) → Stmt → Prop} {c c' : Config ι (Call Stmt Resp χ σ α) σ} {m : ι × χ}

/-- **One move of calls that follow their trails.** -/
theorem follows_move (h : ∀ i, (c.proc i).Follows exec O)
    (hmove : move (Call.advance exec) c m = some c') :
    ∃ st : Step Stmt χ σ, ∃ r, takenBy (c, m) = some st ∧ st.env = m.2 ∧ st.before = c.shared ∧
      exec st.stmt m.2 c.shared = some (r, c'.shared) ∧ O (c.proc m.1).past st.stmt ∧
      (∀ i, (c'.proc i).past = if i = m.1 then st :: (c.proc i).past else (c.proc i).past) ∧
      ∀ i, (c'.proc i).Follows exec O := by
  obtain ⟨call', s', hadvance, rfl⟩ := move_eq_some hmove
  obtain ⟨st, r, htaken, henv, hbefore, hexec, howed, hpast, hfollows⟩ := (h m.1).advance hadvance
  refine ⟨st, r, htaken, henv, hbefore, hexec, howed, fun i => ?_, fun i => ?_⟩
  · by_cases hi : i = m.1
    · subst hi
      simp [hpast]
    · simp [hi]
  by_cases hi : i = m.1
  · subst hi
    simpa using hfollows
  · simpa [hi] using h i

theorem result_eq_none_of_move (hmove : move (Call.advance exec) c m = some c') {j : ι}
    (h : (c'.proc j).result = none) : (c.proc j).result = none := by
  obtain ⟨call', s', hadvance, rfl⟩ := move_eq_some hmove
  by_cases hj : j = m.1
  · subst hj
    obtain ⟨l, k, r, hrest, -, -⟩ := Call.advance_eq_some hadvance
    rw [Call.result, hrest]
    rfl
  · simpa [hj] using h

variable {s : σ}

/-- **What a call has returned** is what its trail leads to, whoever else was about. -/
theorem trails_result {Q : ι → List (Step Stmt χ σ) → α → Prop} {p : ι → Prog Stmt Resp α}
    (hp : ∀ i, (p i).Trails exec O (Q i) [])
    {ms : List (ι × χ)} {d : Config ι (Call Stmt Resp χ σ α) σ}
    (hrun : run (Call.advance exec) ⟨fun i => Call.start (p i), s⟩ ms = some d) {i : ι}
    (h : (d.proc i).result = some a) : Q i (d.proc i).past a := by
  have hup := (run_upheld (I := fun _ => True) (P := fun _ => Protocol.trail O)
    (Q := fun i past a _ => Q i past a) (C := fun _ _ => True) (fun _ _ _ => trivial)
    (fun _ _ _ _ _ _ _ _ _ _ _ _ => ⟨trivial, trivial, fun _ _ _ => trivial⟩)
    ⟨trivial, fun i => (hp i s).upheld trivial⟩ (fun _ _ => trivial) hrun).2 i
  unfold Call.result at h
  unfold Protocol.Upheld at hup
  cases hrest : (d.proc i).rest with
  | ret b =>
    rw [hrest] at h hup
    obtain ⟨_, hQ⟩ := hup
    cases h
    exact hQ
  | stmt l k =>
    rw [hrest] at h
    exact nomatch h

/-- What the past keeps: every step taken met `A` (on the call's past then), and `R` leads from the
state it found to the present one. -/
def Kept (A : List (Step Stmt χ σ) → Step Stmt χ σ → Prop) (R : σ → σ → Prop)
    (c : Config ι (Call Stmt Resp χ σ α) σ) : Prop :=
  ∀ i later st earlier, (c.proc i).past = later ++ st :: earlier → A earlier st ∧ R st.before c.shared

variable {A : List (Step Stmt χ σ) → Step Stmt χ σ → Prop} {R : σ → σ → Prop}

omit [DecidableEq ι] in
theorem Kept.init (h : ∀ i, (c.proc i).past = []) : Kept A R c := by
  intro i later st earlier hpast
  rw [h i] at hpast
  exact absurd hpast (by simp)

theorem Kept.move (hkept : Kept A R c) {st : Step Stmt χ σ}
    (hpast : ∀ i, (c'.proc i).past = if i = m.1 then st :: (c.proc i).past else (c.proc i).past)
    (hA : A (c.proc m.1).past st) (hst : R st.before c'.shared)
    (hR : ∀ s, R s c.shared → R s c'.shared) : Kept A R c' := by
  intro i later st' earlier heq
  rw [hpast i] at heq
  by_cases hi : i = m.1
  · subst hi
    rw [if_pos rfl] at heq
    cases later with
    | nil =>
      obtain ⟨rfl, rfl⟩ := List.cons.inj heq
      exact ⟨hA, hst⟩
    | cons st₁ later =>
      obtain ⟨hA', hR'⟩ := hkept m.1 later st' earlier (List.cons.inj heq).2
      exact ⟨hA', hR _ hR'⟩
  rw [if_neg hi] at heq
  obtain ⟨hA', hR'⟩ := hkept i later st' earlier heq
  exact ⟨hA', hR _ hR'⟩

end

/-! ## The rule -/

section
variable (exec : (l : Stmt) → χ → σ → Option (Resp l × σ)) (O : List (Step Stmt χ σ) → Stmt → Prop)
  (A : List (Step Stmt χ σ) → Step Stmt χ σ → Prop) (R : σ → σ → Prop)
  (J : Config ι (Call Stmt Resp χ σ α) σ → Prop)

/-- Where calls that follow their trails stand: each still does, the past is kept, and `J` holds. -/
structure Standing (c : Config ι (Call Stmt Resp χ σ α) σ) : Prop where
  follows : ∀ i, (c.proc i).Follows exec O
  kept : Kept A R c
  holds : J c

/-- What a move has to keep: a step that meets its obligation and the condition leads from `J` to
`J`. -/
def StepKeeps : Prop :=
  ∀ (c c' : Config ι (Call Stmt Resp χ σ α) σ) i (st : Step Stmt χ σ) r,
    A (c.proc i).past st → st.before = c.shared →
    exec st.stmt st.env st.before = some (r, c'.shared) → O (c.proc i).past st.stmt →
    (∀ j, (c'.proc j).past = if j = i then st :: (c.proc j).past else (c.proc j).past) →
    Kept A R c → J c → J c'

variable {exec O A R J} {c c' d : Config ι (Call Stmt Resp χ σ α) σ} {m : ι × χ} {ms : List (ι × χ)}

omit [DecidableEq ι] in
theorem Standing.init {p : ι → Prog Stmt Resp α}
    (hp : ∀ i, (p i).Trails exec O Q []) (hJ : J ⟨fun i => Call.start (p i), s⟩) :
    Standing exec O A R J ⟨fun i => Call.start (p i), s⟩ :=
  ⟨fun i => Call.follows_start (hp i), Kept.init fun _ => rfl, hJ⟩

omit [DecidableEq ι] in
theorem Standing.start {J : Config ι (Call Stmt Resp χ σ (Except ε β)) σ → Prop}
    {p : ι → ExceptT ε (Prog Stmt Resp) β} {Q : List (Step Stmt χ σ) → β → Prop}
    (hp : ∀ i, Trails exec O Q (p i) []) (hJ : J ⟨fun i => Call.start (p i).run, s⟩) :
    Standing exec O A R J ⟨fun i => Call.start (p i).run, s⟩ :=
  Standing.init (fun i => (hp i).run) hJ

section
variable (hrefl : ∀ s, R s s) (hR : ∀ s₀ l x s r s', exec l x s = some (r, s') → R s₀ s → R s₀ s')
  (hstep : StepKeeps exec O A R J)
include hrefl hR hstep

theorem Standing.move (h : Standing exec O A R J c)
    (hA : ∀ st ∈ takenBy (c, m), A (c.proc m.1).past st)
    (hmove : move (Call.advance exec) c m = some c') : Standing exec O A R J c' := by
  obtain ⟨st, r, htaken, henv, hbefore, hexec, howed, hpast, hfollows⟩ := follows_move h.follows hmove
  have hkept : ∀ s, R s c.shared → R s c'.shared := fun s => hR s _ _ _ r _ hexec
  refine ⟨hfollows, h.kept.move hpast (hA st htaken) ?_ hkept, ?_⟩
  · rw [hbefore]
    exact hkept _ (hrefl _)
  rw [← henv, ← hbefore] at hexec
  exact hstep c c' m.1 st r (hA st htaken) hbefore hexec howed hpast h.kept h.holds

section
variable (h : Standing exec O A R J c)
  (hA : ∀ e ∈ trace (Call.advance exec) c ms, ∀ st ∈ takenBy e, A (e.1.proc e.2.1).past st)
include h hA

theorem Standing.run (hrun : run (Call.advance exec) c ms = some d) : Standing exec O A R J d :=
  run_induction (A := fun c m => ∀ st ∈ takenBy (c, m), A (c.proc m.1).past st)
    (fun _ _ _ hA h hmove => h.move hrefl hR hstep hA hmove) h hA hrun

theorem Standing.trace :
    ∀ e ∈ trace (Call.advance exec) c ms, Standing exec O A R J e.1 :=
  trace_induction (A := fun c m => ∀ st ∈ takenBy (c, m), A (c.proc m.1).past st)
    (fun _ _ _ hA h hmove => h.move hrefl hR hstep hA hmove) h hA

end

end

end

end SecureCloud.Lib.Program
