import SecureCloud.Lib.Interleaving

/-
# Lib.Program — programs of atomic statements, and rely–guarantee rules for them

A program is finished, or it is at one ATOMIC STATEMENT and continues with the response. Written with
`do` it reads as the source does, and at every statement other programs can get in between. What a
statement does is given by `exec`; it may have to wait (`none`).

A call is a program under way with its past: each statement, what the environment contributed, and the
state it met. The past is a history variable: nothing depends on it, but conditions and conclusions are
stated about it.

The rules are those of rely–guarantee reasoning. `Protocol.Sat` says that a program meets the obligations
of a protocol at each statement, and its postcondition at the end, as long as the others change the state
only as `rely` allows. `run_upheld` puts calls together.
-/

namespace SecureCloud.Lib.Program

open List Option

/-! ## Programs -/

/-- A program over statements `Stmt`, where the statement `l` responds with a `Resp l`. -/
inductive Prog (Stmt : Type) (Resp : Stmt → Type) (α : Type) : Type
  | ret (a : α)
  | stmt (l : Stmt) (k : Resp l → Prog Stmt Resp α)

namespace Prog

variable {Stmt : Type} {Resp : Stmt → Type} {α β : Type}

def bind : Prog Stmt Resp α → (α → Prog Stmt Resp β) → Prog Stmt Resp β
  | ret a, f => f a
  | stmt l k, f => stmt l fun r => (k r).bind f

instance : Monad (Prog Stmt Resp) where
  pure := ret
  bind := bind

def perform (l : Stmt) : Prog Stmt Resp (Resp l) := stmt l ret

def result : Prog Stmt Resp α → Option α
  | ret a => some a
  | stmt _ _ => none

end Prog

/-! ## Calls -/

variable {ι : Type} [DecidableEq ι] {Stmt χ σ : Type} {Resp : Stmt → Type} {α β ε : Type}

/-- A statement that was executed, with the environment's contribution and the state it met. -/
structure Step (Stmt χ σ : Type) where
  stmt : Stmt
  env : χ
  before : σ

/-- A call: what it has executed, the latest first, and what is left of it. -/
structure Call (Stmt : Type) (Resp : Stmt → Type) (χ σ α : Type) where
  past : List (Step Stmt χ σ)
  rest : Prog Stmt Resp α

namespace Call

def start (p : Prog Stmt Resp α) : Call Stmt Resp χ σ α := ⟨[], p⟩

def result (c : Call Stmt Resp χ σ α) : Option α := c.rest.result

/-- One statement of a call. -/
def advance (exec : (l : Stmt) → χ → σ → Option (Resp l × σ)) (_ : ι)
    (c : Call Stmt Resp χ σ α) (x : χ) (s : σ) : Option (Call Stmt Resp χ σ α × σ) :=
  match c.rest with
  | .ret _ => none
  | .stmt l k => (exec l x s).map fun r => (⟨⟨l, x, s⟩ :: c.past, k r.1⟩, r.2)

variable {exec : (l : Stmt) → χ → σ → Option (Resp l × σ)}

omit [DecidableEq ι] in
theorem advance_eq_some {i : ι}
    {c c' : Call Stmt Resp χ σ α} {x : χ} {s s' : σ} (h : advance exec i c x s = some (c', s')) :
    ∃ l k r, c.rest = .stmt l k ∧ exec l x s = some (r, s') ∧ c' = ⟨⟨l, x, s⟩ :: c.past, k r⟩ := by
  unfold advance at h
  split at h
  · exact nomatch h
  rename_i l k hrest
  obtain ⟨⟨r, s₁⟩, hexec, heq⟩ := map_eq_some_iff.mp h
  cases heq
  exact ⟨l, k, r, hrest, hexec, rfl⟩

end Call

/-! ## Protocols -/

/-- What a program counts on and owes. `inv` holds between statements; `rely past s s'` is what others
may do under a call with that past; `assume` is granted about the next statement, `oblige` owed before
it. -/
structure Protocol (Stmt χ σ : Type) where
  inv : σ → Prop
  rely : List (Step Stmt χ σ) → σ → σ → Prop
  assume : List (Step Stmt χ σ) → Stmt → χ → σ → Prop
  oblige : List (Step Stmt χ σ) → Stmt → σ → Prop
  rely_refl : ∀ past s, rely past s s
  rely_trans : ∀ past s s' s'', rely past s s' → rely past s' s'' → rely past s s''

namespace Protocol

variable (exec : (l : Stmt) → χ → σ → Option (Resp l × σ)) (P : Protocol Stmt χ σ)

/-- The program keeps the protocol, from a state on which the others go on acting. -/
def Sat (Q : List (Step Stmt χ σ) → α → σ → Prop) :
    Prog Stmt Resp α → List (Step Stmt χ σ) → σ → Prop
  | .ret a, past, s => ∀ s', P.rely past s s' → P.inv s' → Q past a s'
  | .stmt l k, past, s => ∀ s', P.rely past s s' → P.inv s' → P.oblige past l s' ∧
      ∀ x r s'', exec l x s' = some (r, s'') → P.assume past l x s' →
        Sat Q (k r) (⟨l, x, s'⟩ :: past) s''

variable {exec P} {Q Q' : List (Step Stmt χ σ) → α → σ → Prop} {p : Prog Stmt Resp α}
  {past : List (Step Stmt χ σ)} {s s' : σ}

theorem Sat.weaken (h : P.Sat exec Q p past s) (hrely : P.rely past s s') :
    P.Sat exec Q p past s' := by
  cases p with
  | ret | stmt =>
    intro s'' hs'' hinv
    exact h s'' (P.rely_trans past s s' s'' hrely hs'') hinv

/-- **Consequence.** The new postcondition may use that the old one holds whatever the others do. -/
theorem Sat.mono (hQ : ∀ past a s, P.inv s → (∀ s', P.rely past s s' → P.inv s' → Q past a s') →
    Q' past a s) (h : P.Sat exec Q p past s) : P.Sat exec Q' p past s := by
  induction p generalizing past s with
  | ret a =>
    intro s' hs' hinv
    exact hQ past a s' hinv fun s'' hs'' => h s'' (P.rely_trans past s s' s'' hs' hs'')
  | stmt l k ih =>
    intro s' hs' hinv
    obtain ⟨hoblige, hnext⟩ := h s' hs' hinv
    exact ⟨hoblige, fun x r s'' hexec hassume => ih r (hnext x r s'' hexec hassume)⟩

theorem Sat.with_past (h : P.Sat exec Q p past s) :
    P.Sat exec (fun past' a s' => past <:+ past' ∧ Q past' a s') p past s := by
  induction p generalizing past s with
  | ret a => exact fun s' hs' hinv => ⟨suffix_refl past, h s' hs' hinv⟩
  | stmt l k ih =>
    intro s' hs' hinv
    obtain ⟨hoblige, hnext⟩ := h s' hs' hinv
    refine ⟨hoblige, fun x r s'' hexec hassume => ?_⟩
    refine Sat.mono ?_ (ih r (hnext x r s'' hexec hassume))
    intro past' a s₁ hinv₁ hQ
    obtain ⟨hsuffix, hpost⟩ := hQ s₁ (P.rely_refl past' s₁) hinv₁
    exact ⟨(suffix_cons _ past).trans hsuffix, hpost⟩

theorem Sat.of_rely (h : ∀ s', P.rely past s s' → P.inv s' → P.Sat exec Q p past s') :
    P.Sat exec Q p past s := by
  cases p with
  | ret | stmt => exact fun s' hs' hinv => h s' hs' hinv s' (P.rely_refl past s') hinv

/-- **Sequencing.** The first part ends where the second keeps the protocol from. -/
theorem sat_bind {f : α → Prog Stmt Resp β} {Q : List (Step Stmt χ σ) → β → σ → Prop}
    (h : P.Sat exec (fun past a s => P.Sat exec Q (f a) past s) p past s) :
    P.Sat exec Q (p >>= f) past s := by
  show P.Sat exec Q (p.bind f) past s
  induction p generalizing past s with
  | ret a => exact .of_rely h
  | stmt l k ih =>
    intro s' hs' hinv'
    obtain ⟨hoblige, hnext⟩ := h s' hs' hinv'
    exact ⟨hoblige, fun x r s'' hexec hassume => ih r (hnext x r s'' hexec hassume)⟩

theorem sat_pure {a : α} (h : ∀ s', P.rely past s s' → P.inv s' → Q past a s') :
    P.Sat exec Q (pure a) past s := h

theorem sat_perform {l : Stmt} {Q : List (Step Stmt χ σ) → Resp l → σ → Prop}
    (h : ∀ s', P.rely past s s' → P.inv s' → P.oblige past l s' ∧
      ∀ x r s'', exec l x s' = some (r, s'') → P.assume past l x s' →
        ∀ s''', P.rely (⟨l, x, s'⟩ :: past) s'' s''' → P.inv s''' → Q (⟨l, x, s'⟩ :: past) r s''') :
    P.Sat exec Q (Prog.perform l) past s := h

/-! ### Programs that throw -/

section
variable (exec P)

/-- The same with exceptions: one postcondition for a value, one for an exception. -/
def SatE (Q : List (Step Stmt χ σ) → α → σ → Prop) (E : List (Step Stmt χ σ) → ε → σ → Prop)
    (m : ExceptT ε (Prog Stmt Resp) α) : List (Step Stmt χ σ) → σ → Prop :=
  P.Sat exec (fun past r s => match r with
    | .ok a => Q past a s
    | .error e => E past e s) m.run

end

section
variable {E E' : List (Step Stmt χ σ) → ε → σ → Prop} {m : ExceptT ε (Prog Stmt Resp) α}

theorem satE_bind {f : α → ExceptT ε (Prog Stmt Resp) β} {Q : List (Step Stmt χ σ) → β → σ → Prop}
    (h : P.SatE exec (fun past a s => P.SatE exec Q E (f a) past s) E m past s) :
    P.SatE exec Q E (m >>= f) past s := by
  refine sat_bind (p := m.run) (Sat.mono ?_ h)
  intro past r s hinv hr
  cases r with
  | ok a => exact hr s (P.rely_refl past s) hinv
  | error e => exact hr

theorem satE_pure {a : α} (h : ∀ s', P.rely past s s' → P.inv s' → Q past a s') :
    P.SatE exec Q E (pure a) past s := h

theorem satE_throw {e : ε} (h : ∀ s', P.rely past s s' → P.inv s' → E past e s') :
    P.SatE exec Q E (throw e : ExceptT ε (Prog Stmt Resp) α) past s := h

theorem satE_tryCatch {f : ε → ExceptT ε (Prog Stmt Resp) α}
    (h : P.SatE exec Q (fun past e s => P.SatE exec Q E (f e) past s) m past s) :
    P.SatE exec Q E (tryCatch m f) past s := by
  refine sat_bind (p := m.run) (Sat.mono ?_ h)
  intro past r s hinv hr
  cases r with
  | ok a => exact hr
  | error e => exact hr s (P.rely_refl past s) hinv

theorem satE_mono {Q' : List (Step Stmt χ σ) → α → σ → Prop}
    (hQ : ∀ past a s, P.inv s → (∀ s', P.rely past s s' → P.inv s' → Q past a s') → Q' past a s)
    (h : P.SatE exec Q E m past s)
    (hE : ∀ past e s, P.inv s → (∀ s', P.rely past s s' → P.inv s' → E past e s') → E' past e s := by
      exact fun _ _ _ _ _ => trivial) : P.SatE exec Q' E' m past s := by
  refine Sat.mono ?_ h
  intro past r s hinv hr
  cases r with
  | ok a => exact hQ past a s hinv hr
  | error e => exact hE past e s hinv hr

theorem satE_with_past (h : P.SatE exec Q E m past s) :
    P.SatE exec (fun past' a s' => past <:+ past' ∧ Q past' a s')
      (fun past' e s' => past <:+ past' ∧ E past' e s') m past s := by
  refine Sat.mono ?_ (Sat.with_past h)
  intro past' r s' hinv hr
  cases r with
  | ok | error => exact hr s' (P.rely_refl past' s') hinv

theorem satE_lift (h : P.Sat exec Q p past s) :
    P.SatE exec Q E (liftM p : ExceptT ε (Prog Stmt Resp) α) past s := by
  refine sat_bind (p := p) (Sat.mono ?_ h)
  intro past a s _ ha
  exact ha

end

/-! ## A program alone -/

/-- Having the state to oneself: nobody else acts, nothing is owed; `A` is granted about the program's
own steps. -/
def solo (A : Step Stmt χ σ → Prop) : Protocol Stmt χ σ where
  inv := fun _ => True
  rely := fun _ s s' => s' = s
  assume := fun _ l x s => A ⟨l, x, s⟩
  oblige := fun _ _ _ => True
  rely_refl := fun _ _ => rfl
  rely_trans := fun _ _ _ _ h h' => h'.trans h

abbrev alone : Protocol Stmt χ σ := solo fun _ => True

section
variable {A : Step Stmt χ σ → Prop}

theorem solo_pure {a : α} (h : Q past a s) : (solo A).Sat exec Q (pure a) past s := by
  intro s' hs' _
  rw [show s' = s from hs']
  exact h

theorem solo_perform {l : Stmt} {Q : List (Step Stmt χ σ) → Resp l → σ → Prop}
    (h : ∀ x r s', exec l x s = some (r, s') → A ⟨l, x, s⟩ → Q (⟨l, x, s⟩ :: past) r s') :
    (solo A).Sat exec Q (Prog.perform l) past s := by
  intro s₁ hs₁ _
  obtain rfl : s₁ = s := hs₁
  refine ⟨trivial, ?_⟩
  intro x r s' hexec hx
  exact solo_pure (h x r s' hexec hx)

end

end Protocol

/-- A program run alone, on the environment's contributions in order. `none`: blocked, or the list is
too short. -/
def Prog.eval (exec : (l : Stmt) → χ → σ → Option (Resp l × σ)) :
    Prog Stmt Resp α → List χ → σ → Option (α × σ)
  | .ret a, _, s => some (a, s)
  | .stmt _ _, [], _ => none
  | .stmt l k, x :: xs, s => (exec l x s).bind fun r => (k r.1).eval exec xs r.2

def Prog.history (exec : (l : Stmt) → χ → σ → Option (Resp l × σ)) :
    Prog Stmt Resp α → List χ → σ → List (Step Stmt χ σ)
  | .ret _, _, _ => []
  | .stmt _ _, [], _ => []
  | .stmt l k, x :: xs, s =>
    match exec l x s with
    | none => []
    | some (r, s') => ⟨l, x, s⟩ :: (k r).history exec xs s'

section
variable {exec : (l : Stmt) → χ → σ → Option (Resp l × σ)} {P : Protocol Stmt χ σ}
  {A : Step Stmt χ σ → Prop} {Q : List (Step Stmt χ σ) → α → σ → Prop} {p : Prog Stmt Resp α}
  {past : List (Step Stmt χ σ)} {s s' : σ} {xs : List χ} {a : α}

theorem Prog.env_mem_of_history {st : Step Stmt χ σ} (h : st ∈ p.history exec xs s) :
    st.env ∈ xs := by
  induction p generalizing s xs with
  | ret a => exact absurd h not_mem_nil
  | stmt l k ih =>
    cases xs with
    | nil => exact absurd h not_mem_nil
    | cons x xs =>
      unfold Prog.history at h
      split at h
      · exact absurd h not_mem_nil
      rcases mem_cons.mp h with rfl | h
      · exact mem_cons_self
      · exact mem_cons_of_mem x (ih _ h)

/-- **Obligations along a run.** When a statement that meets its obligations keeps the invariant and gets what
it is granted, every statement of the run meets them. -/
theorem Prog.history_upheld (step : ∀ past l x s r s', P.inv s → P.oblige past l s → A ⟨l, x, s⟩ →
      exec l x s = some (r, s') → P.assume past l x s ∧ P.inv s')
    (h : P.Sat exec Q p past s) (hs : P.inv s) (hA : ∀ st ∈ p.history exec xs s, A st)
    {pre post : List (Step Stmt χ σ)} {st : Step Stmt χ σ}
    (hhistory : p.history exec xs s = pre ++ st :: post) :
    P.oblige (pre.reverse ++ past) st.stmt st.before := by
  induction p generalizing past s xs pre with
  | ret a => exact absurd hhistory (by simp [Prog.history])
  | stmt l k ih =>
    cases xs with
    | nil => exact absurd hhistory (by simp [Prog.history])
    | cons x xs =>
      unfold Prog.history at hhistory hA
      split at hhistory
      · exact absurd hhistory (by simp)
      rename_i r s' hexec
      simp only [hexec, forall_mem_cons] at hA
      obtain ⟨hoblige, hnext⟩ := h s (P.rely_refl past s) hs
      obtain ⟨hassume, hs'⟩ := step past l x s r s' hs hoblige hA.1 hexec
      cases pre with
      | nil =>
        obtain ⟨rfl, -⟩ := cons.inj hhistory
        exact hoblige
      | cons st' pre =>
        obtain ⟨rfl, hrest⟩ := cons.inj hhistory
        have hlater := ih r (hnext x r s' hexec hassume) hs' hA.2 hrest
        rwa [reverse_cons, append_assoc]

/-- **The end of a run**: what is proved of a program that has the state to itself holds when it
returns. -/
theorem Prog.eval_of_sat (h : (Protocol.solo A).Sat exec Q p past s)
    (hA : ∀ st ∈ p.history exec xs s, A st) (heval : p.eval exec xs s = some (a, s')) :
    Q ((p.history exec xs s).reverse ++ past) a s' := by
  induction p generalizing past s xs with
  | ret a' =>
    obtain ⟨rfl, rfl⟩ := Prod.mk.inj (some.inj heval)
    exact h s rfl trivial
  | stmt l k ih =>
    cases xs with
    | nil => exact nomatch heval
    | cons x xs =>
      obtain ⟨⟨r, s₁⟩, hexec, hrest⟩ := bind_eq_some_iff.mp heval
      have hhistory : (Prog.stmt l k).history exec (x :: xs) s =
          ⟨l, x, s⟩ :: (k r).history exec xs s₁ := by simp only [Prog.history, hexec]
      rw [hhistory, forall_mem_cons] at hA
      have hend := ih r ((h s rfl trivial).2 x r s₁ hexec hA.1) hA.2 hrest
      rwa [hhistory, reverse_cons, append_assoc]

end

namespace Protocol

variable {exec : (l : Stmt) → χ → σ → Option (Resp l × σ)} {P : Protocol Stmt χ σ}
  {Q Q' : List (Step Stmt χ σ) → α → σ → Prop} {p : Prog Stmt Resp α}
  {past : List (Step Stmt χ σ)} {s s' : σ}

/-! ## Calls side by side -/

section
variable (exec P)

/-- Where a call stands: under way and keeping its protocol, or finished in its postcondition. -/
def Upheld (Q : List (Step Stmt χ σ) → α → σ → Prop) (c : Call Stmt Resp χ σ α) (s : σ) : Prop :=
  match c.rest with
  | .ret a => ∃ s₀, Q c.past a s₀
  | .stmt l k => P.Sat exec Q (.stmt l k) c.past s

end

theorem Sat.upheld (h : P.Sat exec Q p past s) (hinv : P.inv s) :
    P.Upheld exec Q (⟨past, p⟩ : Call Stmt Resp χ σ α) s := by
  cases p with
  | ret a => exact ⟨s, h s (P.rely_refl past s) hinv⟩
  | stmt l k => exact h

end Protocol

open Interleaving in
/-- **Rely–guarantee, any number of calls.** Each keeps its own protocol while the others act; a statement
that meets its obligations keeps the invariant and what every other call under way relies on. Then this is
so along every run. -/
theorem run_upheld {I : σ → Prop}
    {P : ι → Protocol Stmt χ σ} {Q : ι → List (Step Stmt χ σ) → α → σ → Prop}
    {C : Config ι (Call Stmt Resp χ σ α) σ → ι × χ → Prop} (hI : ∀ i s, I s → (P i).inv s)
    (step : ∀ (c : Config ι (Call Stmt Resp χ σ α) σ) i x l k r s', (c.proc i).rest = .stmt l k →
      exec l x c.shared = some (r, s') → I c.shared → (P i).oblige (c.proc i).past l c.shared →
      C c (i, x) → (P i).assume (c.proc i).past l x c.shared ∧ I s' ∧
        ∀ j, j ≠ i → (c.proc j).result = none → (P j).rely (c.proc j).past c.shared s')
    {c d : Config ι (Call Stmt Resp χ σ α) σ} {ms : List (ι × χ)}
    (hinit : I c.shared ∧ ∀ i, (P i).Upheld exec (Q i) (c.proc i) c.shared)
    (hC : ∀ e ∈ trace (Call.advance exec) c ms, C e.1 e.2)
    (hrun : run (Call.advance exec) c ms = some d) :
    I d.shared ∧ ∀ i, (P i).Upheld exec (Q i) (d.proc i) d.shared := by
  refine run_induction (I := fun c => I c.shared ∧ ∀ i, (P i).Upheld exec (Q i) (c.proc i) c.shared)
    (A := C) ?_ hinit hC hrun
  rintro c ⟨i, x⟩ c' hallowed ⟨hinv, hup⟩ hmove
  obtain ⟨call', s', hadvance, rfl⟩ := move_eq_some hmove
  obtain ⟨l, k, r, hrest, hexec, rfl⟩ := Call.advance_eq_some hadvance
  have hsat : (P i).Sat exec (Q i) (.stmt l k) (c.proc i).past c.shared := by
    have h := hup i
    rwa [Protocol.Upheld, hrest] at h
  obtain ⟨hoblige, hnext⟩ := hsat c.shared ((P i).rely_refl _ _) (hI i _ hinv)
  obtain ⟨hassume, hinv', hothers⟩ := step c i x l k r s' hrest hexec hinv hoblige hallowed
  refine ⟨hinv', fun j => ?_⟩
  by_cases hj : j = i
  · subst hj
    show (P j).Upheld exec (Q j) (Function.update c.proc j _ j) s'
    rw [Function.update_self]
    exact (hnext x r s' hexec hassume).upheld (hI j _ hinv')
  show (P j).Upheld exec (Q j) (Function.update c.proc i _ j) s'
  rw [Function.update_of_ne hj]
  have h := hup j
  unfold Protocol.Upheld at h ⊢
  cases hj' : (c.proc j).rest with
  | ret a =>
    rw [hj'] at h
    exact h
  | stmt l' k' =>
    rw [hj'] at h
    refine Protocol.Sat.weaken h (hothers j hj ?_)
    rw [Call.result, hj', Prog.result]

end SecureCloud.Lib.Program
