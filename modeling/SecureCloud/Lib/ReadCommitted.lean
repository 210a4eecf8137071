import Mathlib

/-
# Lib.ReadCommitted — tables under READ COMMITTED with row locks

A row has its committed version and, while a transaction has it, a holder with the version that it will
leave. A plain read sees committed rows and the reader's own; a locking read, an `UPDATE` and an `INSERT`
wait (`none`) for another holder, and act on what is committed by then. A locked row that was not written
is held with the version it had.

The rule: as long as every version a transaction leaves is related by `R` to the committed one it replaces
(`Legal R`), committed rows are never lost and only move along `R` (`Evolves R`).
-/

set_option linter.unusedSectionVars false

namespace SecureCloud.Lib.ReadCommitted

open Option

/-- Rows by primary key; `keys` are the keys that ever held a row. -/
structure Table (κ ρ τ : Type*) where
  keys : List κ
  committed : κ → Option ρ
  held : κ → Option (τ × ρ)
  stored : ∀ k, (committed k).isSome ∨ (held k).isSome → k ∈ keys

namespace Table

variable {κ ρ τ : Type*} [DecidableEq κ] [DecidableEq τ]

def empty : Table κ ρ τ where
  keys := []
  committed := fun _ => none
  held := fun _ => none
  stored := by simp

variable (t : Table κ ρ τ) (tx : τ) (k : κ)

def view : Option ρ :=
  match t.held k with
  | some (holder, r) => if holder = tx then some r else t.committed k
  | none => t.committed k

def free : Bool :=
  match t.held k with
  | some (holder, _) => holder = tx
  | none => true

/-- The transaction takes the row and will leave `r`. -/
def hold (r : ρ) : Table κ ρ τ where
  keys := t.keys.insert k
  committed := t.committed
  held := Function.update t.held k (some (tx, r))
  stored := by
    intro k' h
    by_cases hk : k' = k
    · exact hk ▸ List.mem_insert_self
    · rw [Function.update_of_ne hk] at h
      exact List.mem_insert_of_mem (t.stored k' h)

/-- `SELECT … WHERE key = k FOR UPDATE`. -/
def selectForUpdate : Option (Option ρ × Table κ ρ τ) :=
  match t.view tx k with
  | none => some (none, t)
  | some r => if t.free tx k then some (some r, t.hold tx k r) else none

/-- `UPDATE … SET f WHERE key = k AND p`; whether a row was affected. -/
def update (p : ρ → Bool) (f : ρ → ρ) : Option (Bool × Table κ ρ τ) :=
  match t.view tx k with
  | none => some (false, t)
  | some r =>
    if p r then
      if t.free tx k then some (true, t.hold tx k (f r)) else none
    else some (false, t)

/-- `INSERT`; the inner `none` is a violated key. -/
def insert (r : ρ) : Option (Option (Table κ ρ τ)) :=
  if t.free tx k then
    if (t.view tx k).isSome then some none else some (some (t.hold tx k r))
  else none

def scan (p : ρ → Bool) : List κ :=
  t.keys.filter fun k => (t.view tx k).any p

/-- The rows nobody but `tx` had are free again. -/
def release : Option (τ × ρ) :=
  match t.held k with
  | some (holder, r) => if holder = tx then none else some (holder, r)
  | none => none

theorem release_eq_some_iff {t : Table κ ρ τ} {tx : τ} {k : κ} {h : τ × ρ} :
    t.release tx k = some h ↔ t.held k = some h ∧ h.1 ≠ tx := by
  unfold release
  split
  next holder r hheld =>
    rw [hheld]
    split
    next heq =>
      constructor
      · nofun
      rintro ⟨hsome, hne⟩
      cases hsome
      exact absurd heq hne
    rename_i hne
    constructor
    · intro hsome
      cases hsome
      exact ⟨rfl, hne⟩
    · rintro ⟨hsome, -⟩
      exact hsome
  rename_i hheld
  rw [hheld]
  simp

theorem view_eq_some_stored {t : Table κ ρ τ} {tx : τ} {k : κ} {r : ρ} (h : t.view tx k = some r) :
    k ∈ t.keys := by
  apply t.stored k
  unfold view at h
  split at h
  next hheld =>
    exact .inr (by rw [hheld]; rfl)
  · exact .inl (by rw [h]; rfl)

/-- `COMMIT`: what the transaction sees is what everybody sees. -/
def commit (t : Table κ ρ τ) (tx : τ) : Table κ ρ τ where
  keys := t.keys
  committed := t.view tx
  held := t.release tx
  stored := by
    rintro k (h | h)
    · obtain ⟨r, hr⟩ := Option.isSome_iff_exists.mp h
      exact view_eq_some_stored hr
    · obtain ⟨x, hx⟩ := Option.isSome_iff_exists.mp h
      exact t.stored k (.inr (by rw [(release_eq_some_iff.mp hx).1]; rfl))

def rollback : Table κ ρ τ where
  keys := t.keys
  committed := t.committed
  held := t.release tx
  stored := by
    rintro k (h | h)
    · exact t.stored k (.inl h)
    · obtain ⟨x, hx⟩ := Option.isSome_iff_exists.mp h
      exact t.stored k (.inr (by rw [(release_eq_some_iff.mp hx).1]; rfl))

/-! ## What a transaction sees -/

variable {t : Table κ ρ τ} {tx tx' : τ} {k k' : κ} {r r' : ρ}

theorem view_of_held (h : t.held k = some (tx, r)) : t.view tx k = some r := by
  simp [view, h]

theorem view_of_held_other (h : t.held k = some (tx', r)) (hne : tx' ≠ tx) :
    t.view tx k = t.committed k := by
  simp [view, h, hne]

theorem view_of_not_held (tx : τ) (h : t.held k = none) : t.view tx k = t.committed k := by
  simp [view, h]

theorem held_or_view_eq (t : Table κ ρ τ) (tx : τ) (k : κ) :
    (∃ r, t.held k = some (tx, r)) ∨ t.view tx k = t.committed k := by
  cases hheld : t.held k with
  | none => exact .inr (view_of_not_held tx hheld)
  | some x =>
    by_cases hx : x.1 = tx
    · exact .inl ⟨x.2, by rw [← hx]⟩
    · exact .inr (view_of_held_other (r := x.2) hheld hx)

theorem holder_eq_of_free (hfree : t.free tx k = true) (h : t.held k = some (tx', r)) : tx' = tx := by
  simpa [free, h] using hfree

@[simp] theorem hold_committed : (t.hold tx k r).committed = t.committed := rfl

theorem hold_held_self : (t.hold tx k r).held k = some (tx, r) := Function.update_self ..

theorem hold_held_of_ne (h : k' ≠ k) : (t.hold tx k r).held k' = t.held k' :=
  Function.update_of_ne h _ _

variable {x : τ × ρ}

theorem hold_held_cases (h : (t.hold tx k r).held k' = some x) :
    (k' = k ∧ x = (tx, r)) ∨ (k' ≠ k ∧ t.held k' = some x) := by
  by_cases hk : k' = k
  · subst hk
    rw [hold_held_self] at h
    exact .inl ⟨rfl, (some.inj h).symm⟩
  · rw [hold_held_of_ne hk] at h
    exact .inr ⟨hk, h⟩

theorem hold_view_self : (t.hold tx k r).view tx k = some r := view_of_held hold_held_self

theorem hold_view_of_ne (h : k' ≠ k) : (t.hold tx k r).view tx' k' = t.view tx' k' := by
  simp only [view, hold_held_of_ne h, hold_committed]

@[simp] theorem commit_committed : (t.commit tx).committed k = t.view tx k := rfl

theorem commit_held_iff :
    (t.commit tx).held k = some x ↔ t.held k = some x ∧ x.1 ≠ tx := release_eq_some_iff

theorem rollback_held_iff :
    (t.rollback tx).held k = some x ↔ t.held k = some x ∧ x.1 ≠ tx := release_eq_some_iff

/-! ## What others cannot do to a row that is held -/

theorem held_hold_other (hfree : t.free tx' k' = true) (hne : tx ≠ tx')
    (h : t.held k = some (tx, r)) : (t.hold tx' k' r').held k = some (tx, r) := by
  rw [hold_held_of_ne]
  · exact h
  rintro rfl
  exact hne (holder_eq_of_free hfree h)

section
variable (hne : tx ≠ tx') (h : t.held k = some (tx, r))
include hne h

theorem held_commit_other :
    (t.commit tx').held k = some (tx, r) := commit_held_iff.mpr ⟨h, hne⟩

theorem held_rollback_other :
    (t.rollback tx').held k = some (tx, r) := rollback_held_iff.mpr ⟨h, hne⟩

theorem committed_commit_other :
    (t.commit tx').committed k = t.committed k := view_of_held_other h hne

end

/-! ## Committed rows evolve -/

def Legal (R : ρ → ρ → Prop) (t : Table κ ρ τ) : Prop :=
  ∀ k tx r r₀, t.held k = some (tx, r) → t.committed k = some r₀ → R r₀ r

/-- No committed row is lost, and each moves along `R`. -/
def Evolves (R : ρ → ρ → Prop) (t t' : Table κ ρ τ) : Prop :=
  ∀ k r, t.committed k = some r → ∃ r', t'.committed k = some r' ∧ R r r'

variable {R : ρ → ρ → Prop}

section
variable (h : Legal R t)

include h

theorem Legal.hold (hr : ∀ r₀, t.committed k = some r₀ → R r₀ r) :
    Legal R (t.hold tx k r) := by
  intro k' tx₁ r₁ r₀ hheld hcommitted
  rcases hold_held_cases hheld with ⟨rfl, hx⟩ | ⟨-, hheld⟩
  · cases hx
    exact hr r₀ hcommitted
  · exact h k' tx₁ r₁ r₀ hheld hcommitted

theorem Legal.commit (tx : τ) : Legal R (t.commit tx) := by
  intro k' tx₁ r₁ r₀ hheld hcommitted
  obtain ⟨hheld, hne⟩ := commit_held_iff.mp hheld
  rw [committed_commit_other hne hheld] at hcommitted
  exact h k' tx₁ r₁ r₀ hheld hcommitted

theorem Legal.rollback (tx : τ) : Legal R (t.rollback tx) := by
  intro k' tx₁ r₁ r₀ hheld hcommitted
  exact h k' tx₁ r₁ r₀ (rollback_held_iff.mp hheld).1 hcommitted

theorem Legal.view (hrefl : ∀ r, R r r) (tx : τ) {r₀ : ρ}
    (hcommitted : t.committed k = some r₀) : ∃ r, t.view tx k = some r ∧ R r₀ r := by
  rcases held_or_view_eq t tx k with ⟨r, hheld⟩ | heq
  · exact ⟨r, view_of_held hheld, h k tx r r₀ hheld hcommitted⟩
  · exact ⟨r₀, heq.trans hcommitted, hrefl r₀⟩

end

theorem Evolves.refl (hrefl : ∀ r, R r r) (t : Table κ ρ τ) : Evolves R t t :=
  fun _ r h => ⟨r, h, hrefl r⟩

theorem Evolves.trans {t₁ t₂ t₃ : Table κ ρ τ} (h : Evolves R t₁ t₂) (h' : Evolves R t₂ t₃)
    (htrans : ∀ {r₁ r₂ r₃}, R r₁ r₂ → R r₂ r₃ → R r₁ r₃) : Evolves R t₁ t₃ := by
  intro k r hr
  obtain ⟨r₁, hr₁, hs₁⟩ := h k r hr
  obtain ⟨r₂, hr₂, hs₂⟩ := h' k r₁ hr₁
  exact ⟨r₂, hr₂, htrans hs₁ hs₂⟩

theorem Legal.evolves_commit (h : Legal R t) (hrefl : ∀ r, R r r) : Evolves R t (t.commit tx) :=
  fun _ _ hcommitted => h.view hrefl tx hcommitted

/-! ## Statements under a discipline -/

end Table

/-- What the statements of a program keep to: the rows they store, and how a row may change. -/
structure Discipline (κ ρ : Type*) where
  Valid : κ → ρ → Prop
  Succ : ρ → ρ → Prop
  refl : ∀ r, Succ r r
  trans : ∀ {a b c}, Succ a b → Succ b c → Succ a c

namespace Table

variable {κ ρ τ : Type*} [DecidableEq κ] [DecidableEq τ]

/-- Every version is valid, and every version about to be left may follow the committed one. -/
structure Sound (D : Discipline κ ρ) (t : Table κ ρ τ) : Prop where
  committed : ∀ k r, t.committed k = some r → D.Valid k r
  held : ∀ k tx r, t.held k = some (tx, r) → D.Valid k r
  legal : Legal D.Succ t

/-- What a transaction does to a table: it takes rows that are free for versions that may follow,
and ends. -/
inductive Acts (D : Discipline κ ρ) (tx : τ) : Table κ ρ τ → Table κ ρ τ → Prop
  | refl (t : Table κ ρ τ) : Acts D tx t t
  | hold (t : Table κ ρ τ) (k : κ) (r : ρ) (hfree : t.free tx k = true) (hvalid : D.Valid k r)
      (hsucc : ∀ r₀, t.committed k = some r₀ → D.Succ r₀ r) : Acts D tx t (t.hold tx k r)
  | commit (t : Table κ ρ τ) : Acts D tx t (t.commit tx)
  | rollback (t : Table κ ρ τ) : Acts D tx t (t.rollback tx)
  | trans {t t₁ t₂ : Table κ ρ τ} : Acts D tx t t₁ → Acts D tx t₁ t₂ → Acts D tx t t₂

variable {D : Discipline κ ρ} {t t' : Table κ ρ τ} {tx tx' : τ} {k : κ} {r : ρ}

theorem Sound.view (h : Sound D t) (hview : t.view tx k = some r) : D.Valid k r := by
  rcases held_or_view_eq t tx k with ⟨r', hheld⟩ | heq
  · rw [view_of_held hheld] at hview
    exact some.inj hview ▸ h.held k tx r' hheld
  · exact h.committed k r (heq.symm.trans hview)

theorem Sound.hold (h : Sound D t) (hvalid : D.Valid k r)
    (hsucc : ∀ r₀, t.committed k = some r₀ → D.Succ r₀ r) : Sound D (t.hold tx k r) := by
  refine ⟨h.committed, ?_, h.legal.hold hsucc⟩
  intro k' tx' r' hheld
  rcases hold_held_cases hheld with ⟨rfl, hx⟩ | ⟨-, hheld⟩
  · cases hx
    exact hvalid
  · exact h.held k' tx' r' hheld

section
variable (h : Acts D tx t t')

include h

theorem Acts.sound (ht : Sound D t) : Sound D t' := by
  induction h with
  | refl => exact ht
  | hold t k r _ hvalid hsucc => exact ht.hold hvalid hsucc
  | commit t =>
    refine ⟨fun k r hview => ht.view hview, fun k tx' r hheld => ?_, ht.legal.commit _⟩
    exact ht.held k tx' r (commit_held_iff.mp hheld).1
  | rollback t =>
    refine ⟨ht.committed, fun k tx' r hheld => ?_, ht.legal.rollback _⟩
    exact ht.held k tx' r (rollback_held_iff.mp hheld).1
  | trans _ _ ih₁ ih₂ => exact ih₂ (ih₁ ht)

theorem Acts.evolves (ht : Sound D t) : Evolves D.Succ t t' := by
  induction h with
  | refl | hold | rollback => exact Evolves.refl D.refl _
  | commit t => exact ht.legal.evolves_commit D.refl
  | trans h₁ _ ih₁ ih₂ => exact (ih₁ ht).trans (ih₂ (h₁.sound ht)) D.trans

/-- **Acting does not touch a row that another transaction has.** -/
theorem Acts.frame (hne : tx' ≠ tx) (hheld : t.held k = some (tx', r)) :
    t'.held k = some (tx', r) ∧ t'.committed k = t.committed k := by
  induction h with
  | refl => exact ⟨hheld, rfl⟩
  | hold t k' r' hfree => exact ⟨held_hold_other hfree hne hheld, rfl⟩
  | commit t => exact ⟨held_commit_other hne hheld, committed_commit_other hne hheld⟩
  | rollback t => exact ⟨held_rollback_other hne hheld, rfl⟩
  | trans _ _ ih₁ ih₂ =>
    obtain ⟨hheld₁, hsame₁⟩ := ih₁ hheld
    obtain ⟨hheld₂, hsame₂⟩ := ih₂ hheld₁
    exact ⟨hheld₂, hsame₂.trans hsame₁⟩

/-- **Acting takes no row for another transaction.** -/
theorem Acts.held_of_ne (hne : tx' ≠ tx) (hheld : t'.held k = some (tx', r)) :
    t.held k = some (tx', r) := by
  induction h with
  | refl => exact hheld
  | hold t k' r' =>
    rcases hold_held_cases hheld with ⟨-, hx⟩ | ⟨-, hheld⟩
    · exact absurd (Prod.mk.inj hx).1 hne
    · exact hheld
  | commit t => exact (commit_held_iff.mp hheld).1
  | rollback t => exact (rollback_held_iff.mp hheld).1
  | trans _ _ ih₁ ih₂ => exact ih₁ (ih₂ hheld)

end

theorem Sound.succ_view (ht : Sound D t) (hview : t.view tx k = some r) (r₀ : ρ)
    (h₀ : t.committed k = some r₀) : D.Succ r₀ r := by
  obtain ⟨r', hr', hsucc⟩ := ht.legal.view D.refl tx h₀
  rw [hview] at hr'
  exact some.inj hr' ▸ hsucc

/-! ## What each statement did -/

theorem selectForUpdate_cases {o : Option ρ} (h : t.selectForUpdate tx k = some (o, t')) :
    (o = none ∧ t' = t) ∨ ∃ r, o = some r ∧ t.view tx k = some r ∧ t.free tx k = true ∧
      t' = t.hold tx k r := by
  unfold selectForUpdate at h
  split at h
  · cases h
    exact .inl ⟨rfl, rfl⟩
  rename_i r hview
  split at h
  next hfree =>
    cases h
    exact .inr ⟨r, rfl, hview, hfree, rfl⟩
  · cases h

variable {p : ρ → Bool} {f : ρ → ρ} {affected : Bool}

theorem update_cases (h : t.update tx k p f = some (affected, t')) :
    (affected = false ∧ t' = t) ∨ ∃ r, affected = true ∧ t.view tx k = some r ∧ p r = true ∧
      t.free tx k = true ∧ t' = t.hold tx k (f r) := by
  unfold update at h
  split at h
  · cases h
    exact .inl ⟨rfl, rfl⟩
  rename_i r hview
  split at h
  next hp =>
    split at h
    next hfree =>
      cases h
      exact .inr ⟨r, rfl, hview, hp, hfree, rfl⟩
    · cases h
  · cases h
    exact .inl ⟨rfl, rfl⟩

theorem insert_cases (h : t.insert tx k r = some (some t')) :
    t.free tx k = true ∧ t.view tx k = none ∧ t' = t.hold tx k r := by
  unfold insert at h
  split at h
  next hfree =>
    split at h
    · cases some.inj h
    rename_i hnone
    obtain rfl := some.inj (some.inj h)
    exact ⟨hfree, not_isSome_iff_eq_none.mp hnone, rfl⟩
  · cases h

theorem selectForUpdate_acts (ht : Sound D t) {o : Option ρ}
    (h : t.selectForUpdate tx k = some (o, t')) : Acts D tx t t' := by
  rcases selectForUpdate_cases h with ⟨-, rfl⟩ | ⟨r, -, hview, hfree, rfl⟩
  · exact .refl t'
  · exact .hold t k r hfree (ht.view hview) (ht.succ_view hview)

theorem update_acts (ht : Sound D t)
    (hf : ∀ r, D.Valid k r → p r = true → D.Valid k (f r) ∧ D.Succ r (f r))
    (h : t.update tx k p f = some (affected, t')) : Acts D tx t t' := by
  rcases update_cases h with ⟨-, rfl⟩ | ⟨r, -, hview, hp, hfree, rfl⟩
  · exact .refl t'
  obtain ⟨hvalid, hsucc⟩ := hf r (ht.view hview) hp
  exact .hold t k (f r) hfree hvalid fun r₀ h₀ => D.trans (ht.succ_view hview r₀ h₀) hsucc

theorem insert_acts (ht : Sound D t) (hvalid : D.Valid k r)
    (h : t.insert tx k r = some (some t')) : Acts D tx t t' := by
  obtain ⟨hfree, hnone, rfl⟩ := insert_cases h
  refine .hold t k r hfree hvalid fun r₀ h₀ => ?_
  -- a committed row would be seen
  obtain ⟨r', hr', -⟩ := ht.legal.view D.refl tx h₀
  exact absurd (hnone.symm.trans hr') nofun

theorem selectForUpdate_some (h : t.selectForUpdate tx k = some (some r, t')) :
    t.view tx k = some r ∧ t'.held k = some (tx, r) ∧ t'.committed = t.committed := by
  rcases selectForUpdate_cases h with ⟨ho, -⟩ | ⟨r', ho, hview, -, rfl⟩
  · cases ho
  cases ho
  exact ⟨hview, hold_held_self, rfl⟩

theorem update_true (h : t.update tx k p f = some (true, t')) :
    ∃ r, t.view tx k = some r ∧ t'.held k = some (tx, f r) ∧ t'.committed = t.committed := by
  rcases update_cases h with ⟨ho, -⟩ | ⟨r, -, hview, -, -, rfl⟩
  · cases ho
  · exact ⟨r, hview, hold_held_self, rfl⟩

theorem update_all (hview : t.view tx k = some r)
    (h : t.update tx k (fun _ => true) f = some (affected, t')) : t'.held k = some (tx, f r) := by
  unfold update at h
  rw [hview] at h
  simp only [if_true] at h
  split at h
  · cases h
    exact hold_held_self
  · cases h

theorem insert_some (h : t.insert tx k r = some (some t')) :
    (∀ k' r', t.held k' = some (tx, r') → t'.held k' = some (tx, r')) ∧
      t'.committed = t.committed := by
  obtain ⟨-, hnone, rfl⟩ := insert_cases h
  refine ⟨fun k' r' hheld => ?_, rfl⟩
  rw [hold_held_of_ne]
  · exact hheld
  rintro rfl
  exact absurd (hnone.symm.trans (view_of_held hheld)) nofun

end Table

/-! ## A table with a unique index

The index is a table from the value of the indexed field to the primary key, written and committed together
with the rows. No statement changes the field of a stored row; that two rows never share a value is then a
theorem. -/

structure Indexed (κ : Type*) {ν ρ : Type*} (τ : Type*) [DecidableEq ν] [DecidableEq τ] (field : ρ → ν) where
  rows : Table κ ρ τ
  index : Table ν κ τ
  agree : ∀ k r, rows.committed k = some r → index.committed (field r) = some k
  agreeHeld : ∀ k tx r, rows.held k = some (tx, r) → index.view tx (field r) = some k
  fixed : Table.Legal Eq index

namespace Indexed

variable {κ ν ρ τ : Type*} [DecidableEq κ] [DecidableEq ν] [DecidableEq τ] {field : ρ → ν}

def empty : Indexed κ τ field where
  rows := .empty
  index := .empty
  agree := fun _ _ h => by cases h
  agreeHeld := fun _ _ _ h => by cases h
  fixed := fun _ _ _ _ h => by cases h

variable {tx : τ} {k : κ} {r : ρ} {d d' : Indexed κ τ field}

theorem index_view (d : Indexed κ τ field) (tx : τ) {v : ν}
    (h : d.index.committed v = some k) : d.index.view tx v = some k := by
  obtain ⟨k', hview, rfl⟩ := d.fixed.view (fun _ => rfl) tx h
  exact hview

theorem index_of_view (d : Indexed κ τ field)
    (h : d.rows.view tx k = some r) : d.index.view tx (field r) = some k := by
  rcases d.rows.held_or_view_eq tx k with ⟨r', hheld⟩ | heq
  · rw [Table.view_of_held hheld] at h
    obtain rfl := some.inj h
    exact d.agreeHeld k tx r' hheld
  · exact d.index_view tx (d.agree k r (heq.symm.trans h))

def hold (d : Indexed κ τ field) (tx : τ) (k : κ) (r : ρ)
    (h : d.index.view tx (field r) = some k) : Indexed κ τ field where
  rows := d.rows.hold tx k r
  index := d.index
  agree := d.agree
  agreeHeld := by
    intro k' tx' r' hheld
    rcases Table.hold_held_cases hheld with ⟨rfl, hx⟩ | ⟨-, hheld⟩
    · cases hx
      exact h
    · exact d.agreeHeld k' tx' r' hheld
  fixed := d.fixed

/-- `SELECT … WHERE field = v`, first in its transaction: a scan of the index, and the condition checked
on the row. -/
def findBy (d : Indexed κ τ field) (v : ν) : Option ρ :=
  ((d.index.committed v).bind d.rows.committed).filter fun r => field r = v

/-- `SELECT … WHERE key = k FOR UPDATE`. -/
def selectForUpdate (d : Indexed κ τ field) (tx : τ) (k : κ) :
    Option (Option ρ × Indexed κ τ field) :=
  match h : d.rows.view tx k with
  | none => some (none, d)
  | some r => if d.rows.free tx k then some (some r, d.hold tx k r (d.index_of_view h)) else none

/-- `UPDATE … SET f WHERE key = k AND p`, for an `f` that leaves the indexed field alone. -/
def update (d : Indexed κ τ field) (tx : τ) (k : κ) (p : ρ → Bool) (f : ρ → ρ)
    (hf : ∀ r, field (f r) = field r) : Option (Bool × Indexed κ τ field) :=
  match h : d.rows.view tx k with
  | none => some (false, d)
  | some r =>
    if p r then
      if d.rows.free tx k then
        some (true, d.hold tx k (f r) ((hf r).symm ▸ d.index_of_view h))
      else none
    else some (false, d)

def holdNew (d : Indexed κ τ field) (tx : τ) (k : κ) (r : ρ)
    (hfree : d.index.free tx (field r) = true) (hnone : d.index.view tx (field r) = none) :
    Indexed κ τ field where
  rows := d.rows.hold tx k r
  index := d.index.hold tx (field r) k
  agree := d.agree
  agreeHeld := by
    -- nobody has an entry for this value yet
    have habsent : ∀ tx', d.index.view tx' (field r) = none := by
      intro tx'
      rcases hheld : d.index.held (field r) with _ | ⟨holder, k'⟩
      · rw [Table.view_of_not_held tx' hheld, ← Table.view_of_not_held tx hheld, hnone]
      · obtain rfl := Table.holder_eq_of_free hfree hheld
        rw [Table.view_of_held hheld] at hnone
        cases hnone
    intro k' tx' r' hheld
    rcases Table.hold_held_cases hheld with ⟨rfl, hx⟩ | ⟨-, hheld⟩
    · cases hx
      exact Table.hold_view_self
    · have hview := d.agreeHeld k' tx' r' hheld
      rw [Table.hold_view_of_ne]
      · exact hview
      · intro hfield
        rw [hfield, habsent tx'] at hview
        cases hview
  fixed := by
    refine d.fixed.hold fun k₀ hcommitted => ?_
    rw [d.index_view tx hcommitted] at hnone
    cases hnone

/-- `INSERT`, which checks the primary key and then the index; the inner `none` is a violation. -/
def insert (d : Indexed κ τ field) (tx : τ) (k : κ) (r : ρ) : Option (Option (Indexed κ τ field)) :=
  if d.rows.free tx k then
    if (d.rows.view tx k).isSome then some none
    else if hfree : d.index.free tx (field r) = true then
      match hview : d.index.view tx (field r) with
      | some _ => some none
      | none => some (some (d.holdNew tx k r hfree hview))
    else none
  else none

def commit (d : Indexed κ τ field) (tx : τ) : Indexed κ τ field where
  rows := d.rows.commit tx
  index := d.index.commit tx
  agree := fun _ _ h => d.index_of_view h
  agreeHeld := by
    intro k tx' r hheld
    obtain ⟨hheld, hne⟩ := Table.commit_held_iff.mp hheld
    have hview := d.agreeHeld k tx' r hheld
    rcases d.index.held_or_view_eq tx' (field r) with ⟨k', hentry⟩ | heq
    · rw [Table.view_of_held hentry] at hview
      cases hview
      exact Table.view_of_held (Table.held_commit_other hne hentry)
    · -- the entry is committed, so the commit leaves it as it is
      have hstill : (d.index.commit tx).committed (field r) = some k :=
        d.index_view tx (heq.symm.trans hview)
      obtain ⟨k', hview', rfl⟩ := (d.fixed.commit tx).view (fun _ => rfl) tx' hstill
      exact hview'
  fixed := d.fixed.commit tx

def rollback (d : Indexed κ τ field) (tx : τ) : Indexed κ τ field where
  rows := d.rows.rollback tx
  index := d.index.rollback tx
  agree := d.agree
  agreeHeld := by
    intro k tx' r hheld
    obtain ⟨hheld, hne⟩ := Table.rollback_held_iff.mp hheld
    have hview := d.agreeHeld k tx' r hheld
    rcases d.index.held_or_view_eq tx' (field r) with ⟨k', hentry⟩ | heq
    · rw [Table.view_of_held hentry] at hview
      cases hview
      exact Table.view_of_held (Table.held_rollback_other hne hentry)
    · obtain ⟨k', hview', rfl⟩ := (d.fixed.rollback tx).view (fun _ => rfl) tx'
        (heq.symm.trans hview)
      exact hview'
  fixed := d.fixed.rollback tx

theorem selectForUpdate_rows {o : Option ρ}
    (h : d.selectForUpdate tx k = some (o, d')) : d.rows.selectForUpdate tx k = some (o, d'.rows) := by
  unfold selectForUpdate at h
  unfold Table.selectForUpdate
  split at h
  next hview =>
    cases h
    rw [hview]
  rename_i r hview
  rw [hview]
  split at h
  next hfree =>
    cases h
    exact if_pos hfree
  · cases h

theorem update_rows {p : ρ → Bool} {f : ρ → ρ} {hf : ∀ r, field (f r) = field r} {affected : Bool}
    (h : d.update tx k p f hf = some (affected, d')) :
    d.rows.update tx k p f = some (affected, d'.rows) := by
  unfold update at h
  unfold Table.update
  split at h
  next hview =>
    cases h
    rw [hview]
  rename_i r hview
  rw [hview]
  simp only
  split at h
  next hp =>
    rw [if_pos hp]
    split at h
    next hfree =>
      cases h
      exact if_pos hfree
    · cases h
  rename_i hp
  cases h
  exact if_neg hp

theorem insert_rows
    (h : d.insert tx k r = some (some d')) : d.rows.insert tx k r = some (some d'.rows) := by
  unfold insert at h
  unfold Table.insert
  split at h
  next hfree =>
    rw [if_pos hfree]
    split at h
    · cases some.inj h
    rename_i hnone
    rw [if_neg hnone]
    split at h
    · split at h
      · cases some.inj h
      obtain rfl := some.inj (some.inj h)
      rfl
    · cases h
  · cases h

/-- **The index finds exactly the committed row with the value.** -/
theorem findBy_eq_some_iff (d : Indexed κ τ field) {v : ν} :
    d.findBy v = some r ↔ ∃ k, d.rows.committed k = some r ∧ field r = v := by
  constructor
  · intro h
    obtain ⟨hfound, hfield⟩ := filter_eq_some_iff.mp h
    obtain ⟨k, -, hrow⟩ := bind_eq_some_iff.mp hfound
    exact ⟨k, hrow, of_decide_eq_true hfield⟩
  rintro ⟨k, hrow, rfl⟩
  refine filter_eq_some_iff.mpr ⟨?_, decide_eq_true rfl⟩
  exact bind_eq_some_iff.mpr ⟨k, d.agree k r hrow, hrow⟩

/-- **Two committed rows never share a value of the indexed field.** -/
theorem unique (d : Indexed κ τ field) {k' : κ} {r' : ρ} (h : d.rows.committed k = some r)
    (h' : d.rows.committed k' = some r') (hfield : field r = field r') : k = k' := by
  have hentry := d.agree k r h
  rw [hfield, d.agree k' r' h'] at hentry
  exact (some.inj hentry).symm

end Indexed

end SecureCloud.Lib.ReadCommitted
