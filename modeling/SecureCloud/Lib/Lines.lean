import Mathlib

/-
# Lib.Lines — queues in which each line is first in, first out

Items wait in lines, one per key. `Serves` says of a stretch of time what was admitted and what has
departed, in this order, and that every line is served from its front: what waited and then was admitted
is what departed and then waits. Stretches compose, and one that starts with empty lines accounts for
every item: it has departed or it is waiting, and never both.
-/

namespace SecureCloud.Lib.Lines

open List

variable {κ τ : Type*} [DecidableEq κ] (line : τ → κ)

def inLine (k : κ) (items : List τ) : List τ := items.filter fun t => line t = k

@[simp]
theorem inLine_nil (k : κ) : inLine line k [] = [] := rfl

@[simp]
theorem inLine_append (k : κ) (items items' : List τ) :
    inLine line k (items ++ items') = inLine line k items ++ inLine line k items' :=
  filter_append ..

theorem inLine_self {k : κ} {items : List τ} (h : ∀ t ∈ items, line t = k) :
    inLine line k items = items :=
  filter_eq_self.mpr fun t ht => decide_eq_true (h t ht)

theorem inLine_eq_nil {k : κ} {items : List τ} (h : ∀ t ∈ items, line t ≠ k) :
    inLine line k items = [] :=
  filter_eq_nil_iff.mpr fun t ht => by simpa using h t ht

variable {line}

/-- A stretch of time: `waiting` becomes `waiting'`, while `admitted` come in and `departed` go
out. -/
def Serves (line : τ → κ) (waiting : κ → List τ) (admitted departed : List τ) (waiting' : κ → List τ) :
    Prop :=
  ∀ k, waiting k ++ inLine line k admitted = inLine line k departed ++ waiting' k

variable {waiting waiting' waiting'' : κ → List τ} {admitted departed admitted' departed' : List τ}

theorem Serves.trans (h : Serves line waiting admitted departed waiting')
    (h' : Serves line waiting' admitted' departed' waiting'') :
    Serves line waiting (admitted ++ admitted') (departed ++ departed') waiting'' := by
  intro k
  calc waiting k ++ inLine line k (admitted ++ admitted')
      = (waiting k ++ inLine line k admitted) ++ inLine line k admitted' := by simp
    _ = inLine line k departed ++ (waiting' k ++ inLine line k admitted') := by rw [h k]; simp
    _ = inLine line k (departed ++ departed') ++ waiting'' k := by rw [h' k]; simp

/-- **Every item is accounted for**: as often as it was admitted, it has departed or is waiting. -/
theorem Serves.count_eq [DecidableEq τ] (h : Serves line (fun _ => []) admitted departed waiting') (t : τ) :
    admitted.count t = departed.count t + (waiting' (line t)).count t := by
  have hline : ∀ items : List τ, (inLine line (line t) items).count t = items.count t :=
    fun items => count_filter (decide_eq_true rfl)
  have hcount := congrArg (count t) (h (line t))
  rwa [nil_append, count_append, hline, hline] at hcount

end SecureCloud.Lib.Lines
