import Mathlib

/-
# Gateway.CircuitBreaker — when a failing service is left alone

Every method of `CircuitBreaker` holds the mutex for its whole body, so whatever threads do to a breaker
is a sequence of calls, each with its own reading of the clock (in nanoseconds). The counters are below
their limits whenever they are incremented, and do not wrap.

The breaker is taken alone. Which of its methods a proxy handler calls on which exit is not modelled.
-/

namespace SecureCloud.Gateway

inductive CircuitState
  | closed
  | opened
  | halfOpen
deriving DecidableEq

structure GatewayCircuitBreakerConfig where
  enabled : Bool := true
  failureThreshold : Nat := 5
  recoveryTimeoutMs : Nat := 5000
  halfOpenProbeCount : Nat := 1

structure CircuitBreaker where
  state : CircuitState := .closed
  consecutiveFailures : Nat := 0
  halfOpenProbesInFlight : Nat := 0
  openTime : Int := 0
deriving DecidableEq

namespace CircuitBreaker

variable (cfg : GatewayCircuitBreakerConfig) (b : CircuitBreaker)

/-- `duration_cast` to milliseconds truncates. -/
def elapsedMs (now : Int) : Int := (now - b.openTime).tdiv 1000000

/-- `allow_request`, with the answer to the caller. -/
def allowRequest (now : Int) : Bool × CircuitBreaker :=
  if !cfg.enabled then (true, b)
  else match b.state with
  | .closed => (true, b)
  | .opened =>
    if cfg.recoveryTimeoutMs ≤ b.elapsedMs now then
      (true, { b with state := .halfOpen, halfOpenProbesInFlight := 1 })
    else (false, b)
  | .halfOpen =>
    if b.halfOpenProbesInFlight < cfg.halfOpenProbeCount then
      (true, { b with halfOpenProbesInFlight := b.halfOpenProbesInFlight + 1 })
    else (false, b)

def recordSuccess : CircuitBreaker :=
  if !cfg.enabled then b
  else match b.state with
  | .halfOpen => { b with state := .closed, consecutiveFailures := 0, halfOpenProbesInFlight := 0 }
  | .closed => { b with consecutiveFailures := 0 }
  | .opened => b

def recordFailure (isTransientFailure : Bool) (now : Int) : CircuitBreaker :=
  if !isTransientFailure then b
  else if !cfg.enabled then b
  else match b.state with
  | .halfOpen => { b with state := .opened, openTime := now, halfOpenProbesInFlight := 0 }
  | .closed =>
    let b := { b with consecutiveFailures := b.consecutiveFailures + 1 }
    if cfg.failureThreshold ≤ b.consecutiveFailures then
      { b with state := .opened, openTime := now, halfOpenProbesInFlight := 0 }
    else b
  | .opened => b

def reset : CircuitBreaker :=
  { b with state := .closed, consecutiveFailures := 0, halfOpenProbesInFlight := 0 }

/-! ## Runs -/

inductive BreakerCall
  | allowRequest (now : Int)
  | recordSuccess
  | recordFailure (isTransientFailure : Bool) (now : Int)
  | reset
deriving DecidableEq

/-- One call: whether it admits a request, and the breaker after it. -/
def perform : BreakerCall → Bool × CircuitBreaker
  | .allowRequest now => b.allowRequest cfg now
  | .recordSuccess => (false, b.recordSuccess cfg)
  | .recordFailure isTransientFailure now => (false, b.recordFailure cfg isTransientFailure now)
  | .reset => (false, b.reset)

def after (calls : List BreakerCall) : CircuitBreaker := calls.foldl (fun b c => (b.perform cfg c).2) b

/-- How many requests the calls admit. -/
def admitted : CircuitBreaker → List BreakerCall → Nat
  | _, [] => 0
  | b, c :: calls => (b.perform cfg c).1.toNat + admitted (b.perform cfg c).2 calls

/-- The transient failures in a row after a call. -/
def BreakerCall.streak (n : Nat) : BreakerCall → Nat
  | allowRequest _ => n
  | recordSuccess => 0
  | recordFailure isTransientFailure _ => n + isTransientFailure.toNat
  | reset => 0

variable {cfg b}

/-- **It fails fast**: within the recovery time of an open breaker nothing is admitted, and no outcome of
an earlier call moves it. -/
theorem open_admits_nothing (henabled : cfg.enabled = true) (hopen : b.state = .opened)
    (calls : List BreakerCall) (hreset : .reset ∉ calls)
    (hearly : ∀ now, .allowRequest now ∈ calls → b.elapsedMs now < cfg.recoveryTimeoutMs) :
    b.after cfg calls = b ∧ b.admitted cfg calls = 0 := by
  induction calls with
  | nil => exact ⟨rfl, rfl⟩
  | cons c calls ih =>
    have hstay : b.perform cfg c = (false, b) := by
      cases c with
      | allowRequest now =>
        have hwait := not_le.mpr (hearly now List.mem_cons_self)
        simp [perform, CircuitBreaker.allowRequest, henabled, hopen, hwait]
      | recordSuccess => simp [perform, CircuitBreaker.recordSuccess, henabled, hopen]
      | recordFailure => simp [perform, CircuitBreaker.recordFailure, henabled, hopen]
      | reset => exact absurd List.mem_cons_self hreset
    have hrest := ih (fun h => hreset (List.mem_cons_of_mem _ h))
      fun now h => hearly now (List.mem_cons_of_mem _ h)
    simpa [after, admitted, hstay] using hrest

theorem open_admits_nothing_at_first : CircuitBreaker.admitted {} ⟨.opened, 5, 0, 0⟩
    [.allowRequest 1000000, .recordSuccess, .recordFailure true 2000000, .allowRequest 4999999999] = 0 := by
  refine (open_admits_nothing rfl rfl _ (by decide) fun now h => ?_).2
  rcases (by simpa using h : now = 1000000 ∨ now = 4999999999) with rfl | rfl <;> decide

/-- The requests admitted since the breaker was last open. -/
def probes (b : CircuitBreaker) : Nat := if b.state = .halfOpen then b.halfOpenProbesInFlight else 0

/-- One call of a breaker that is not closed: what it admits is on the account of the phase, and a
transient failure settles the account. -/
theorem probes_perform (henabled : cfg.enabled = true) (hstate : b.state ≠ .closed)
    (hprobes : b.probes ≤ max 1 cfg.halfOpenProbeCount) {c : BreakerCall}
    (hsuccess : c ≠ .recordSuccess) (hreset : c ≠ .reset) :
    (b.perform cfg c).2.state ≠ .closed ∧
      (b.perform cfg c).2.probes ≤ max 1 cfg.halfOpenProbeCount ∧
      (b.perform cfg c).1.toNat + b.probes ≤
        max 1 cfg.halfOpenProbeCount * c.streak 0 + (b.perform cfg c).2.probes := by
  cases c with
  | allowRequest now =>
    cases hs : b.state with
    | closed => exact absurd hs hstate
    | opened =>
      by_cases hwait : (cfg.recoveryTimeoutMs : Int) ≤ b.elapsedMs now <;>
        simp [perform, CircuitBreaker.allowRequest, henabled, hs, hwait, probes, BreakerCall.streak]
    | halfOpen =>
      by_cases hroom : b.halfOpenProbesInFlight < cfg.halfOpenProbeCount <;>
        simp [perform, CircuitBreaker.allowRequest, henabled, hs, hroom, probes, BreakerCall.streak] <;>
        simp [probes, hs] at hprobes <;> omega
  | recordSuccess => exact absurd rfl hsuccess
  | recordFailure isTransientFailure now =>
    cases isTransientFailure with
    | false => exact ⟨hstate, hprobes, by simp [perform, CircuitBreaker.recordFailure]⟩
    | true =>
      cases hs : b.state with
      | closed => exact absurd hs hstate
      | opened => simp [perform, CircuitBreaker.recordFailure, henabled, hs, probes]
      | halfOpen =>
        simp only [probes, hs] at hprobes
        simpa [perform, CircuitBreaker.recordFailure, henabled, hs, probes, BreakerCall.streak]
          using hprobes
  | reset => exact absurd rfl hreset

/-- The transient failures among the calls. -/
def failures (calls : List BreakerCall) : Nat := (calls.map fun c => c.streak 0).sum

theorem admitted_add_probes (henabled : cfg.enabled = true) (calls : List BreakerCall)
    (hsuccess : .recordSuccess ∉ calls) (hreset : .reset ∉ calls) {b : CircuitBreaker}
    (hstate : b.state ≠ .closed) (hprobes : b.probes ≤ max 1 cfg.halfOpenProbeCount) :
    b.admitted cfg calls + b.probes ≤ max 1 cfg.halfOpenProbeCount * (failures calls + 1) := by
  induction calls generalizing b with
  | nil => simpa [admitted, failures] using hprobes
  | cons c calls ih =>
    rw [List.mem_cons, not_or] at hsuccess hreset
    obtain ⟨hstate', hprobes', hstep⟩ := probes_perform henabled hstate hprobes
      (Ne.symm hsuccess.1) (Ne.symm hreset.1)
    have hrest := ih hsuccess.2 hreset.2 hstate' hprobes'
    simp only [admitted, failures, List.map_cons, List.sum_cons, Nat.mul_add, mul_one] at hrest ⊢
    omega

/-- **A failing service is only probed**: once open, and until a call succeeds, a breaker admits
`half_open_probe_count` requests (one, if that is zero) for each failure that is recorded, and as many
again. -/
theorem open_only_probes (henabled : cfg.enabled = true) (hopen : b.state = .opened)
    (calls : List BreakerCall) (hsuccess : .recordSuccess ∉ calls) (hreset : .reset ∉ calls) :
    b.admitted cfg calls ≤ max 1 cfg.halfOpenProbeCount * (failures calls + 1) := by
  have hprobes : b.probes = 0 := by simp [probes, hopen]
  have h := admitted_add_probes henabled calls hsuccess hreset (by simp [hopen])
    (hprobes.trans_le (Nat.zero_le _))
  omega

theorem open_probes_twice :
    let calls : List BreakerCall := [.allowRequest 5000000000, .allowRequest 5000000001,
      .recordFailure true 6000000000, .allowRequest 11000000000]
    CircuitBreaker.admitted {} ⟨.opened, 5, 0, 0⟩ calls = 2 ∧
      CircuitBreaker.admitted {} ⟨.opened, 5, 0, 0⟩ calls ≤ max 1 1 * (failures calls + 1) :=
  ⟨by decide, open_only_probes rfl rfl _ (by decide) (by decide)⟩

/-- Below the threshold a call leaves the breaker closed. -/
theorem perform_below_threshold (henabled : cfg.enabled = true) (hclosed : b.state = .closed)
    {c : BreakerCall} (hbelow : c.streak b.consecutiveFailures < max 1 cfg.failureThreshold) :
    (b.perform cfg c).2.state = .closed ∧
      (b.perform cfg c).2.consecutiveFailures = c.streak b.consecutiveFailures := by
  cases c with
  | allowRequest => simp [perform, CircuitBreaker.allowRequest, hclosed, BreakerCall.streak]
  | recordSuccess => simp [perform, CircuitBreaker.recordSuccess, hclosed, henabled, BreakerCall.streak]
  | recordFailure isTransientFailure =>
    cases isTransientFailure with
    | false => simp [perform, CircuitBreaker.recordFailure, hclosed, BreakerCall.streak]
    | true =>
      simp only [BreakerCall.streak, Bool.toNat_true] at hbelow
      have hnot : ¬ cfg.failureThreshold ≤ b.consecutiveFailures + 1 := by omega
      simp [perform, CircuitBreaker.recordFailure, hclosed, henabled, hnot, BreakerCall.streak]
  | reset => simp [perform, CircuitBreaker.reset, BreakerCall.streak]

/-- **A service is not cut off before it fails `failure_threshold` times in a row**: as long as it has
not, the breaker is closed and counts that row. -/
theorem closed_below_threshold (calls : List BreakerCall) (henabled : cfg.enabled = true)
    (hclosed : b.state = .closed)
    (hbelow : ∀ pre, pre <+: calls → pre ≠ [] →
      pre.foldl BreakerCall.streak b.consecutiveFailures < max 1 cfg.failureThreshold) :
    (b.after cfg calls).state = .closed ∧
      (b.after cfg calls).consecutiveFailures = calls.foldl BreakerCall.streak b.consecutiveFailures := by
  induction calls generalizing b with
  | nil => exact ⟨hclosed, rfl⟩
  | cons c calls ih =>
    obtain ⟨hstate, hcount⟩ :=
      perform_below_threshold henabled hclosed (hbelow [c] (by simp) (by simp))
    have hrest := ih hstate fun pre hpre _ => by
      rw [hcount]
      exact hbelow (c :: pre) (List.cons_prefix_cons.mpr ⟨rfl, hpre⟩) (by simp)
    rwa [hcount] at hrest

/-- Four failures of five, a success, four more. -/
def fourTwice : List BreakerCall :=
  .replicate 4 (.recordFailure true 0) ++ .recordSuccess :: .replicate 4 (.recordFailure true 0)

theorem closed_after_four_failures : (CircuitBreaker.after {} {} fourTwice).state = .closed := by
  have hall : ∀ pre ∈ fourTwice.inits, pre.foldl BreakerCall.streak 0 < 5 := by decide
  exact (closed_below_threshold fourTwice rfl rfl
    fun pre hpre _ => hall pre ((List.mem_inits _ _).mpr hpre)).1

end CircuitBreaker

end SecureCloud.Gateway
