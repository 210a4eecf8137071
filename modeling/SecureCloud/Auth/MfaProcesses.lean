import SecureCloud.Auth.Mfa
import SecureCloud.Lib.Interleaving
import SecureCloud.Lib.Transaction

/-
# Auth.MfaProcesses — `verify_challenge` and `disable_mfa`, move by move

The two calls that check a credential, as processes with one move per transaction and per critical
section. Three mutexes guard the maps; the replay check calls `fail_challenge` WHILE it holds its mutex.

A transaction may abort, and the answer of its commit may be lost. `checks` and `spent` are ghosts:
the checks of credentials with their challenges and numbers, and which call used up which recovery code.
-/

namespace SecureCloud.Auth

open Lib Function

/-! ## Calls -/

inductive MfaProof
  | timeStep (step : Nat)
  | recoveryCode (hash : String)
deriving DecidableEq

def MfaProof.step : MfaProof → Option Nat
  | timeStep step => some step
  | recoveryCode _ => none

def MfaProof.code : MfaProof → Option String
  | timeStep _ => none
  | recoveryCode hash => some hash

/-- A counted call of `verify_challenge`: the challenge as read, the clock, and the number of attempts it
made. -/
structure MfaAttempt where
  id : Uuid
  challenge : MfaChallengeEntity
  credential : String
  now : TimePoint
  attempts : Nat
deriving DecidableEq

/-- Where a call is: `findingChallenge` to `verified` in `verify_challenge`, `findingOwnConfig` to
`notDisabled` in `disable_mfa`. -/
inductive MfaPc
  | findingChallenge (id : Uuid) (credential : String)
  | counting (id : Uuid) (challenge : MfaChallengeEntity) (credential : String) (now : TimePoint)
  | findingConfig (a : MfaAttempt)
  | checking (a : MfaAttempt) (config : MfaConfigurationEntity)
  | replayCheck (a : MfaAttempt) (config : MfaConfigurationEntity) (step : Nat)
  | recoveryCheck (a : MfaAttempt)
  | failing (id : Uuid) (reply : MfaVerification) (holding : Bool)
  | completing (a : MfaAttempt) (proof : MfaProof)
  | promoting (a : MfaAttempt) (proof : MfaProof)
  | touching (a : MfaAttempt) (proof : MfaProof)
  | forgetting (a : MfaAttempt) (proof : MfaProof)
  | verified (a : MfaAttempt) (proof : MfaProof)
  | refused (reply : MfaVerification)
  | findingOwnConfig (user : Uuid) (code : String)
  | matchingCode (user : Uuid) (code : String) (config : MfaConfigurationEntity) (now : TimePoint)
  | disabling (user : Uuid) (config : MfaConfigurationEntity) (proof : MfaProof) (now : TimePoint)
  | clearingCodes (user : Uuid) (config : MfaConfigurationEntity) (proof : MfaProof)
  | clearingSteps (user : Uuid) (config : MfaConfigurationEntity) (proof : MfaProof)
  | disabled (user : Uuid) (proof : MfaProof)
  | notDisabled
  | threw (what : String)
deriving DecidableEq

/-- The environment's part of a move: the fate of its transaction, the clock, the row a lookup meets. -/
structure MfaInput where
  outcome : TransactionOutcome := .committed
  now : TimePoint := 0
  pick : Nat := 0

structure MfaShared (ι : Type*) where
  tables : MfaWorld
  replayMutex : Option ι
  checks : List (Uuid × Nat)
  spent : List (ι × Uuid × String)

/-! ## Transactions -/

def orThrow {α : Type*} (what : String) : Option α → Except String α
  | some a => .ok a
  | none => .error what

variable (w : MfaWorld) (id : Uuid)

def MfaWorld.failChallengeTx : Except String MfaWorld :=
  orThrow (if (w.challenges id).isNone then "MFA challenge not found: " ++ id.toString
    else "Cannot fail non-pending MFA challenge: " ++ id.toString) (w.failChallenge id)

def MfaWorld.completeChallengeTx (completedAt now : TimePoint) : Except String MfaWorld :=
  orThrow (if (w.challenges id).isNone then "MFA challenge not found: " ++ id.toString
    else "Cannot complete challenge (expired or not pending): " ++ id.toString)
    (w.completeChallenge id completedAt now)

def MfaWorld.promoteSessionTx : Except String MfaWorld :=
  orThrow (if (w.sessions.sessions id).isNone then "Session not found: " ++ id.toString
    else "Cannot update authentication level on non-active session: " ++ id.toString)
    ((w.sessions.updateAuthenticationLevel id .mfaVerified).map fun s => { w with sessions := s })

def MfaWorld.disableMfaTx (config : MfaConfigurationEntity) (now : TimePoint) :
    Except String MfaWorld :=
  orThrow (if w.configs.any (·.configurationId = config.configurationId) then
      "Concurrent modification detected for MFA configuration: " ++ config.configurationId.toString
    else "MFA configuration not found: " ++ config.configurationId.toString)
    (w.updateConfig config.configurationId config.version (.disable now))

/-! ## Moves -/

def MfaWorld.setAttempts (n : Nat) : MfaWorld :=
  { w with challengeAttempts := update w.challengeAttempts id n }

def MfaWorld.setRecoveryCodes (user : Uuid) (codes : Option (List String)) :
    MfaWorld :=
  { w with userRecoveryCodes := update w.userRecoveryCodes user codes }

def MfaWorld.acceptStep (user configurationId : Uuid) (step : Nat) : MfaWorld :=
  { w with
    lastUsedTimeSteps := update w.lastUsedTimeSteps user (some step)
    accepted := (configurationId, step) :: w.accepted }

def MfaWorld.disarm (user configurationId : Uuid) (step : Option Nat) : MfaWorld :=
  { w with
    lastUsedTimeSteps := update w.lastUsedTimeSteps user none
    accepted := (step.map fun n => (configurationId, n)).toList ++ w.accepted
    armed := update w.armed user false }

namespace MfaPc

def afterFind (credential : String) (now : TimePoint) : Option MfaChallengeEntity → MfaPc
  | none => refused ⟨.invalidCode, 0, "Challenge not found", none, none⟩
  | some challenge =>
    if challenge.status = .completed then
      refused ⟨.alreadyCompleted, 0, "Challenge already completed", none, none⟩
    else if challenge.status = .failed then
      refused ⟨.maxAttemptsExceeded, 0, "Challenge has failed or locked out", none, none⟩
    else if challenge.status = .expired ∨ challenge.expiresAt < now then
      failing id ⟨.expiredChallenge, 0, "Challenge has expired", none, none⟩ false
    else counting id challenge credential now

def afterCount (a : MfaAttempt) : MfaPc :=
  if maxChallengeAttempts < a.attempts then
    failing a.id ⟨.maxAttemptsExceeded, 0, "Max verification attempts exceeded", none, none⟩ false
  else findingConfig a

def afterConfig (a : MfaAttempt) : Option MfaConfigurationEntity → MfaPc
  | none => refused ⟨.challengeFailed, 0, "MFA is not enabled for user", none, none⟩
  | some config =>
    if config.status ≠ .enabled then
      refused ⟨.challengeFailed, 0, "MFA is not enabled for user", none, none⟩
    else checking a config

def afterInvalid (a : MfaAttempt) : MfaPc :=
  if maxChallengeAttempts ≤ a.attempts then
    failing a.id ⟨.maxAttemptsExceeded, 0, "Invalid code; max verification attempts exceeded", none,
      none⟩ false
  else refused ⟨.invalidCode, 0, "Invalid verification code", none, none⟩

def afterOwnConfig (user : Uuid) (code : String) (now : TimePoint) :
    Option MfaConfigurationEntity → MfaPc
  | none => notDisabled
  | some config =>
    if config.status ≠ .enabled then notDisabled else matchingCode user code config now

def replayReply : MfaVerification :=
  ⟨.invalidCode, 0, "TOTP code replay detected; code has already been used", none, none⟩

end MfaPc

variable {ι : Type*}

/-- The replay check, for a call that has the mutex. A replay on the last attempt keeps it for
`fail_challenge`. -/
def MfaShared.replaySection (w : MfaShared ι) (i : ι) (a : MfaAttempt)
    (config : MfaConfigurationEntity) (step : Nat) : MfaPc × MfaShared ι :=
  if w.tables.lastUsedTimeSteps a.challenge.userId = some step then
    if maxChallengeAttempts ≤ a.attempts then
      (.failing a.id MfaPc.replayReply true, { w with replayMutex := some i })
    else (.refused MfaPc.replayReply, w)
  else
    (.completing a (.timeStep step),
      { w with tables := w.tables.acceptStep a.challenge.userId config.configurationId step })

/-- The section of the recovery codes in `verify_challenge`: a code that matches is burned. -/
def MfaShared.recoverySection (w : MfaShared ι) (env : MfaEnv) (i : ι) (a : MfaAttempt) :
    MfaPc × MfaShared ι :=
  let user := a.challenge.userId
  match w.tables.recoveryIndex env user a.credential with
  | some k =>
    (.completing a (.recoveryCode (env.hashCode a.credential)), { w with
        tables := w.tables.setRecoveryCodes user
          ((w.tables.userRecoveryCodes user).map (·.eraseIdx k))
        spent := (i, user, env.hashCode a.credential) :: w.spent })
  | none => (.afterInvalid a, w)

/-- The credential of `disable_mfa`. A recovery code that matches stays where it is. -/
def MfaWorld.ownProof (env : MfaEnv) (user : Uuid) (code : String)
    (config : MfaConfigurationEntity) (now : TimePoint) : Option MfaProof :=
  match env.matchedStep config code now with
  | .ok step => some (.timeStep step)
  | .error _ =>
    if (w.recoveryIndex env user code).isSome then some (.recoveryCode (env.hashCode code)) else none

def MfaShared.transact (w : MfaShared ι) (outcome : TransactionOutcome)
    (attempt : Except String MfaWorld) (done : MfaPc) : MfaPc × MfaShared ι :=
  Lib.transact outcome w (attempt.map fun t => { w with tables := t }) .threw done

def MfaEnv.next (env : MfaEnv) (i : ι) (pc : MfaPc) (x : MfaInput) (w : MfaShared ι) :
    Option (MfaPc × MfaShared ι) :=
  match pc with
  | .findingChallenge id credential =>
    some (query x.outcome w .threw (.afterFind id credential x.now (w.tables.challenges id)))
  | .counting id challenge credential now =>
    let attempts := (w.tables.challengeAttempts id + 1) % 2 ^ 32
    some (.afterCount ⟨id, challenge, credential, now, attempts⟩,
      { w with tables := w.tables.setAttempts id attempts })
  | .findingConfig a =>
    some (query x.outcome w .threw
      (.afterConfig a (w.tables.findMfaConfigByUserId a.challenge.userId x.pick)))
  | .checking a config =>
    some (match env.matchedStep config a.credential a.now with
      | .ok step => .replayCheck a config step
      | .error _ => .recoveryCheck a, { w with checks := (a.id, a.attempts) :: w.checks })
  | .replayCheck a config step =>
    if w.replayMutex.isSome then none else some (w.replaySection i a config step)
  | .recoveryCheck a => some (w.recoverySection env i a)
  | .failing id reply holding =>
    -- an exception gives the mutex back as well
    let w := if holding then { w with replayMutex := none } else w
    some (w.transact x.outcome (w.tables.failChallengeTx id) (.refused reply))
  | .completing a proof =>
    some (w.transact x.outcome (w.tables.completeChallengeTx a.id a.now x.now) (.promoting a proof))
  | .promoting a proof =>
    some (w.transact x.outcome (w.tables.promoteSessionTx a.challenge.sessionId) (.touching a proof))
  | .touching a proof =>
    some (w.transact x.outcome (.ok { w.tables with
      sessions := w.tables.sessions.touchSessionActivity a.challenge.sessionId a.now })
      (.forgetting a proof))
  | .forgetting a proof =>
    some (.verified a proof, { w with tables := w.tables.setAttempts a.id 0 })
  | .findingOwnConfig user code =>
    some (query x.outcome w .threw
      (.afterOwnConfig user code x.now (w.tables.findMfaConfigByUserId user x.pick)))
  | .matchingCode user code config now =>
    some (match w.tables.ownProof env user code config now with
      | some proof => .disabling user config proof now
      | none => .notDisabled, w)
  | .disabling user config proof now =>
    some (w.transact x.outcome (w.tables.disableMfaTx config now) (.clearingCodes user config proof))
  | .clearingCodes user config proof =>
    some (.clearingSteps user config proof, { w with
        tables := w.tables.setRecoveryCodes user none
        spent := (proof.code.map fun hash => (i, user, hash)).toList ++ w.spent })
  | .clearingSteps user config proof =>
    if w.replayMutex.isSome then none
    else
      some (.disabled user proof,
        { w with tables := w.tables.disarm user config.configurationId proof.step })
  | .verified .. | .refused _ | .disabled .. | .notDisabled | .threw _ => none

abbrev MfaConfig (ι : Type*) := Interleaving.Config ι MfaPc (MfaShared ι)

inductive MfaCall
  | verify (id : Uuid) (credential : String)
  | disable (user : Uuid) (code : String)

def MfaCall.begin : MfaCall → MfaPc
  | verify id credential => .findingChallenge id credential
  | disable user code => .findingOwnConfig user code

def MfaConfig.start (tables : MfaWorld) (calls : ι → MfaCall) : MfaConfig ι where
  proc i := (calls i).begin
  shared := ⟨tables, none, [], []⟩

/-! ## What a transaction does -/

theorem orThrow_eq_ok {α : Type*} {what : String} {o : Option α} {a : α}
    (h : orThrow what o = .ok a) : o = some a := by
  cases o with
  | none => cases h
  | some b => exact congrArg some (Except.ok.inj h)

theorem MfaShared.transact_eq {w w' : MfaShared ι} {outcome : TransactionOutcome}
    {attempt : Except String MfaWorld} {done pc' : MfaPc}
    (h : some (w.transact outcome attempt done) = some (pc', w')) :
    (w' = w ∧ ∃ what, pc' = .threw what) ∨
      ∃ t, attempt = .ok t ∧ w' = { w with tables := t } ∧ (pc' = done ∨ ∃ what, pc' = .threw what) := by
  rcases Lib.transact_eq h with ⟨hw, what, hpc, -⟩ | ⟨hattempt, hpc⟩
  · exact .inl ⟨hw, what, hpc⟩
  cases attempt with
  | error what => cases hattempt
  | ok t =>
    refine .inr ⟨t, rfl, (Except.ok.inj hattempt).symm, ?_⟩
    rcases hpc with ⟨-, hpc⟩ | ⟨what, -, hpc⟩
    · exact .inl hpc
    · exact .inr ⟨what, hpc⟩

def MfaWorld.setChallenge (c : MfaChallengeEntity) : MfaWorld :=
  { w with challenges := update w.challenges id (some c) }

theorem failChallenge_eq_some {w w' : MfaWorld} {id : Uuid} (h : w.failChallenge id = some w') :
    ∃ c, w.challenges id = some c ∧ c.status = .pending ∧
      w' = w.setChallenge id { c with status := .failed } := by
  unfold MfaWorld.failChallenge at h
  split at h
  next c hc =>
    split at h
    next hpending =>
      exact ⟨c, hc, hpending, (Option.some.inj h).symm⟩
    · cases h
  · cases h

theorem completeChallenge_eq_some {w w' : MfaWorld} {id : Uuid} {completedAt now : TimePoint}
    (h : w.completeChallenge id completedAt now = some w') :
    ∃ c, w.challenges id = some c ∧ c.status = .pending ∧ now < c.expiresAt ∧
      w' = w.setChallenge id { c with status := .completed, completedAt := some completedAt } := by
  unfold MfaWorld.completeChallenge at h
  split at h
  next c hc =>
    split at h
    next hopen =>
      exact ⟨c, hc, hopen.1, hopen.2, (Option.some.inj h).symm⟩
    · cases h
  · cases h

/-! ## A concrete instance -/

namespace Sample

def enrolledWithCode : List MfaEvent :=
  [enroll 5 0, .confirm user "000001" 0 ["AAAA-BBBB"] 60000,
   .challenge user session .login 300000 (.ofByte 10) 90000]

end Sample

end SecureCloud.Auth
