import Mathlib

/-
# Lib.Transaction — a transaction as one move of a process

A process at a program counter of type `π` runs a transaction on a state of type `ω`. The statements
fail or make a new state; whether that is there afterwards is up to the commit, and a commit whose answer
is LOST has taken effect, but the process sees the same exception as after an abort.
-/

namespace SecureCloud.Lib

inductive TransactionOutcome
  | committed
  | aborted (what : String)
  | lost (what : String)

def TransactionOutcome.takesEffect : TransactionOutcome → Bool
  | committed => true
  | aborted _ => false
  | lost _ => true

/-- The process learns how the transaction ended. -/
def TransactionOutcome.known : TransactionOutcome → Bool
  | committed => true
  | aborted _ => true
  | lost _ => false

variable {π ω : Type*}

/-- A transaction. `attempt` is what its statements make of the state, or throw; `fail` and `done` are
where the process goes on. -/
def transact (outcome : TransactionOutcome) (w : ω) (attempt : Except String ω) (fail : String → π)
    (done : π) : π × ω :=
  match attempt with
  | .error what => (fail what, w)
  | .ok w' =>
    match outcome with
    | .committed => (done, w')
    | .aborted what => (fail what, w)
    | .lost what => (fail what, w')

def query (outcome : TransactionOutcome) (w : ω) (fail : String → π) (done : π) : π × ω :=
  transact outcome w (.ok w) fail done

section
variable {outcome : TransactionOutcome} {w w' : ω} {attempt : Except String ω} {fail : String → π}
  {done pc' : π}

/-- **Everything a move by a transaction can do**: nothing, with an exception; or what its statements made, with
or without one. -/
theorem transact_eq (h : some (transact outcome w attempt fail done) = some (pc', w')) :
    (w' = w ∧ ∃ what, pc' = fail what ∧ (attempt = .error what ∨ outcome = .aborted what)) ∨
      (attempt = .ok w' ∧ ((outcome = .committed ∧ pc' = done) ∨
        ∃ what, outcome = .lost what ∧ pc' = fail what)) := by
  rw [Option.some.injEq] at h
  unfold transact at h
  split at h
  next what =>
    cases h
    exact .inl ⟨rfl, what, rfl, .inl rfl⟩
  split at h
  · cases h
    exact .inr ⟨rfl, .inl ⟨rfl, rfl⟩⟩
  next what =>
    cases h
    exact .inl ⟨rfl, what, rfl, .inr rfl⟩
  rename_i what
  cases h
  exact .inr ⟨rfl, .inr ⟨what, rfl, rfl⟩⟩

theorem query_eq (h : some (query outcome w fail done) = some (pc', w')) :
    w' = w ∧ (pc' = done ∨ ∃ what, pc' = fail what) := by
  rcases transact_eq h with ⟨hw, what, hpc, -⟩ | ⟨hw, ⟨-, hpc⟩ | ⟨what, -, hpc⟩⟩
  · exact ⟨hw, .inr ⟨what, hpc⟩⟩
  · exact ⟨(Except.ok.inj hw).symm, .inl hpc⟩
  · exact ⟨(Except.ok.inj hw).symm, .inr ⟨what, hpc⟩⟩

end

end SecureCloud.Lib
