import SecureCloud.Auth.Session
import SecureCloud.Auth.Totp
import SecureCloud.Lib.Machine

/-
# Auth.Mfa — second factors: enrollment, challenges, recovery codes

`MfaManager` over the tables `mfa_configurations` and `mfa_challenges` and its three in-memory maps.
Configurations are looked up by user with a `SELECT` without `ORDER BY`: WHICH row of the user is first
is the environment's choice (`pick`), call by call, and nothing makes the user unique.

`accepted` and `armed` are ghosts: which time steps were accepted for which configuration's secret, and
which users have confirmed and not disabled since.
-/

namespace SecureCloud.Auth

/-! ## Tables -/

inductive MfaStatus
  | pending
  | enabled
  | disabled
deriving DecidableEq

/-- Row of `mfa_configurations`. -/
structure MfaConfigurationEntity where
  configurationId : Uuid
  userId : Uuid
  encryptedSecret : Bytes
  status : MfaStatus
  createdAt : TimePoint
  enabledAt : Option TimePoint
  disabledAt : Option TimePoint
  version : Nat
deriving DecidableEq

inductive MfaChallengePurpose
  | login
  | stepUp
deriving DecidableEq

inductive MfaChallengeStatus
  | pending
  | completed
  | expired
  | failed
deriving DecidableEq

/-- Row of `mfa_challenges`. -/
structure MfaChallengeEntity where
  challengeId : Uuid
  userId : Uuid
  sessionId : Uuid
  purpose : MfaChallengePurpose
  status : MfaChallengeStatus
  createdAt : TimePoint
  expiresAt : TimePoint
  completedAt : Option TimePoint
deriving DecidableEq

/-- The tables, the manager's maps, and the ghosts. -/
structure MfaWorld where
  /-- the users that exist, with their credential identifiers -/
  users : Uuid → Option String
  configs : List MfaConfigurationEntity
  challenges : Uuid → Option MfaChallengeEntity
  sessions : SessionStore
  lastUsedTimeSteps : Uuid → Option Nat
  challengeAttempts : Uuid → Nat
  userRecoveryCodes : Uuid → Option (List String)
  accepted : List (Uuid × Nat)
  armed : Uuid → Bool

variable (w : MfaWorld)

def MfaWorld.rowsOf (user : Uuid) : List MfaConfigurationEntity :=
  w.configs.filter fun c => c.userId = user

/-- `find_mfa_config_by_user_id`: any row of the user. -/
def MfaWorld.findMfaConfigByUserId (user : Uuid) (pick : Nat) : Option MfaConfigurationEntity :=
  (w.rowsOf user)[pick % (w.rowsOf user).length]?

/-- `store_mfa_configuration`; `none` is the violated primary key. -/
def MfaWorld.storeMfaConfiguration (c : MfaConfigurationEntity) : Option MfaWorld :=
  if w.configs.any (·.configurationId = c.configurationId) then none
  else some { w with configs := w.configs ++ [c] }

variable (id : Uuid)

/-- The `UPDATE` of `enable_mfa` and `disable_mfa`: the row of that id and version; `none` if there is
none. -/
def MfaWorld.updateConfig (version : Nat)
    (f : MfaConfigurationEntity → MfaConfigurationEntity) : Option MfaWorld :=
  if w.configs.any (fun c => c.configurationId = id ∧ c.version = version) then
    some { w with configs := w.configs.map fun c =>
      if c.configurationId = id ∧ c.version = version then f c else c }
  else none

def MfaConfigurationEntity.enable (now : TimePoint) (c : MfaConfigurationEntity) :
    MfaConfigurationEntity :=
  { c with status := .enabled, enabledAt := some now, version := c.version + 1 }

def MfaConfigurationEntity.disable (now : TimePoint) (c : MfaConfigurationEntity) :
    MfaConfigurationEntity :=
  { c with status := .disabled, disabledAt := some now, version := c.version + 1 }

/-- `fail_challenge`; `none` is the exception for a challenge that is not pending. -/
def MfaWorld.failChallenge : Option MfaWorld :=
  match w.challenges id with
  | some c =>
    if c.status = .pending then
      some { w with challenges := Function.update w.challenges id (some { c with status := .failed }) }
    else none
  | none => none

/-- `complete_challenge`, which reads the clock once more. -/
def MfaWorld.completeChallenge (completedAt now : TimePoint) : Option MfaWorld :=
  match w.challenges id with
  | some c =>
    if c.status = .pending ∧ now < c.expiresAt then
      let done := { c with status := .completed, completedAt := some completedAt }
      some { w with challenges := Function.update w.challenges id (some done) }
    else none
  | none => none

/-! ## Factors -/

structure MfaEnv where
  engine : TotpEngine
  algorithm : String
  encrypt : Bytes → String → Bytes → Bytes
  decrypt : Bytes → String → Except String Bytes
  base32 : Bytes → String
  sha256Hex : List Char → String

def epochSeconds (now : TimePoint) : Nat := (now / 1000).toNat

/-- `TotpAuthenticator::verify_factor`: the matched step, or what is wrong. -/
def MfaEnv.verifyFactor (env : MfaEnv) (encryptedSecret : Bytes) (credential : String)
    (timestamp : Nat) (aad : String) : Except String Nat :=
  if encryptedSecret.isEmpty then .error "Encrypted secret cannot be empty"
  else if credential = "" then .error "Credential code cannot be empty"
  else
    match env.decrypt encryptedSecret aad with
    | .error what => .error ("Secret decryption failed: " ++ what)
    | .ok secret =>
      match env.engine.verifyCode secret credential timestamp with
      | none => .error "Invalid TOTP verification code"
      | some step => .ok step

/-- `verify_factor` on a configuration, at a time point. -/
def MfaEnv.matchedStep (env : MfaEnv) (c : MfaConfigurationEntity) (credential : String)
    (now : TimePoint) : Except String Nat :=
  env.verifyFactor c.encryptedSecret credential (epochSeconds now) c.userId.toString

/-- `hash_code`, on the normalized text. -/
def MfaEnv.hashCode (env : MfaEnv) (code : String) : String :=
  env.sha256Hex ((code.toList.filter fun c => c != '-' && !isSpace c).map Char.toUpper)

/-- `verify_and_consume`: the index of the matching hash. -/
def MfaEnv.verifyAndConsume (env : MfaEnv) (code : String) (pool : List String) : Option Nat :=
  if code = "" then none else pool.findIdx? (· = env.hashCode code)

/-! ## `MfaManager` -/

def MfaWorld.isMfaEnabledForUser (user : Uuid) (pick : Nat) : Bool :=
  match w.findMfaConfigByUserId user pick with
  | none => false
  | some c => c.status == .enabled

structure MfaEnrollmentInitiation where
  configurationId : Uuid
  base32Secret : String
  otpauthUri : String

/-- `initiate_enrollment`. `secret` are the twenty random bytes, `nonce` what the protector draws. -/
def MfaWorld.initiateEnrollment (env : MfaEnv) (user : Uuid)
    (issuer accountName : String) (pick : Nat) (secret nonce : Bytes) (freshId : Uuid)
    (now : TimePoint) : Except String MfaEnrollmentInitiation × MfaWorld :=
  match w.users user with
  | none => (.error ("MfaManager: user not found: " ++ user.toString), w)
  | some identifier =>
    if w.isMfaEnabledForUser user pick then
      (.error ("MfaManager: MFA is already enabled for user: " ++ user.toString), w)
    else
      let config : MfaConfigurationEntity :=
        { configurationId := freshId, userId := user
          encryptedSecret := env.encrypt secret user.toString nonce, status := .pending
          createdAt := now, enabledAt := none, disabledAt := none, version := 1 }
      let account := if accountName = "" then identifier else accountName
      let base32Secret := env.base32 secret
      match w.storeMfaConfiguration config with
      | none => (.error ("MFA configuration already exists: " ++ freshId.toString), w)
      | some w' => (.ok ⟨freshId, base32Secret,
          env.engine.otpauthUri env.algorithm issuer account base32Secret⟩, w')

inductive MfaEnrollmentStatus
  | success
  | invalidCode
  | configurationNotFound
  | alreadyEnabled

/-- `MfaEnrollmentConfirmationResult`. -/
structure MfaEnrollmentConfirmation where
  status : MfaEnrollmentStatus
  recoveryCodes : List String := []
  errorMessage : String := ""

/-- `confirm_enrollment`, which draws the recovery codes `codes`; `none` is an exception. The accepted
step is NOT recorded for the replay check. -/
def MfaWorld.confirmEnrollment (env : MfaEnv) (user : Uuid) (code : String)
    (pick : Nat) (codes : List String) (now : TimePoint) :
    Option MfaEnrollmentConfirmation × MfaWorld :=
  match w.findMfaConfigByUserId user pick with
  | none => (some ⟨.configurationNotFound, [], "No MFA configuration found for user"⟩, w)
  | some config =>
    match config.status with
    | .enabled => (some ⟨.alreadyEnabled, [], "MFA is already enabled for this account"⟩, w)
    | .disabled =>
      (some ⟨.configurationNotFound, [], "MFA configuration is not in pending status"⟩, w)
    | .pending =>
      match env.matchedStep config code now with
      | .error what => (some ⟨.invalidCode, [], what⟩, w)
      | .ok step =>
        match w.updateConfig config.configurationId config.version (.enable now) with
        | none => (none, w)
        | some w' => (some ⟨.success, codes, ""⟩, { w' with
            userRecoveryCodes :=
              Function.update w'.userRecoveryCodes user (some (codes.map env.hashCode))
            accepted := (config.configurationId, step) :: w'.accepted
            armed := Function.update w'.armed user true })

def MfaWorld.recoveryIndex (env : MfaEnv) (user : Uuid) (code : String) : Option Nat :=
  (w.userRecoveryCodes user).bind (env.verifyAndConsume code)

/-- The end of `disable_mfa`: `step` is the accepted time step, `none` for a recovery code. -/
def MfaWorld.finishDisable (user : Uuid) (config : MfaConfigurationEntity)
    (step : Option Nat) (now : TimePoint) : Option Bool × MfaWorld :=
  match w.updateConfig config.configurationId config.version (.disable now) with
  | none => (none, w)
  | some w' => (some true, { w' with
      userRecoveryCodes := Function.update w'.userRecoveryCodes user none
      lastUsedTimeSteps := Function.update w'.lastUsedTimeSteps user none
      accepted := (step.map fun n => (config.configurationId, n)).toList ++ w'.accepted
      armed := Function.update w'.armed user false })

/-- `disable_mfa`. The replay tracker is not consulted, and it is cleared. -/
def MfaWorld.disableMfa (env : MfaEnv) (user : Uuid) (code : String) (pick : Nat)
    (now : TimePoint) : Option Bool × MfaWorld :=
  match w.findMfaConfigByUserId user pick with
  | none => (some false, w)
  | some config =>
    if config.status ≠ .enabled then (some false, w)
    else
      match env.matchedStep config code now with
      | .ok step => w.finishDisable user config (some step) now
      | .error _ =>
        if (w.recoveryIndex env user code).isSome then w.finishDisable user config none now
        else (some false, w)

/-- `create_challenge`; `none` is the violated primary key. -/
def MfaWorld.createChallenge (user sessionId : Uuid) (purpose : MfaChallengePurpose)
    (ttl : TimePoint) (freshId : Uuid) (now : TimePoint) : Option MfaChallengeEntity × MfaWorld :=
  let challenge : MfaChallengeEntity :=
    { challengeId := freshId, userId := user, sessionId := sessionId, purpose := purpose
      status := .pending, createdAt := now, expiresAt := now + ttl, completedAt := none }
  if (w.challenges freshId).isSome then (none, w)
  else (some challenge,
    { w with challenges := Function.update w.challenges freshId (some challenge) })

inductive MfaVerificationStatus
  | success
  | invalidCode
  | expiredChallenge
  | maxAttemptsExceeded
  | challengeFailed
  | alreadyCompleted
deriving DecidableEq

/-- `MfaChallengeVerificationResult`. -/
structure MfaVerification where
  status : MfaVerificationStatus
  matchedTimeStep : Nat := 0
  errorMessage : String := ""
  sessionId : Option Uuid := none
  userId : Option Uuid := none
deriving DecidableEq

def maxChallengeAttempts : Nat := 3

/-- Reply with a failure after `fail_challenge`, whose exception leaves `verify_challenge`. -/
def MfaWorld.failWith (status : MfaVerificationStatus)
    (message : String) : Option MfaVerification × MfaWorld :=
  match w.failChallenge id with
  | none => (none, w)
  | some w' => (some ⟨status, 0, message, none, none⟩, w')

/-- The end of `verify_challenge`: challenge completed, session promoted and touched, attempts forgotten.
The first two may throw. -/
def MfaWorld.finishVerify (challenge : MfaChallengeEntity) (step : Nat)
    (now completedNow : TimePoint) : Option MfaVerification × MfaWorld :=
  match w.completeChallenge challenge.challengeId now completedNow with
  | none => (none, w)
  | some w =>
    match w.sessions.updateAuthenticationLevel challenge.sessionId .mfaVerified with
    | none => (none, w)
    | some sessions =>
      (some ⟨.success, step, "", some challenge.sessionId, some challenge.userId⟩, { w with
        sessions := sessions.touchSessionActivity challenge.sessionId now
        challengeAttempts := Function.update w.challengeAttempts challenge.challengeId 0 })

/-- The credential check of `verify_challenge`. The replay check compares with the LAST step only. -/
def MfaWorld.checkCredential (env : MfaEnv) (challenge : MfaChallengeEntity)
    (config : MfaConfigurationEntity) (credential : String) (attempts : Nat)
    (now completedNow : TimePoint) : Option MfaVerification × MfaWorld :=
  let user := challenge.userId
  match env.matchedStep config credential now with
  | .ok step =>
    if w.lastUsedTimeSteps user = some step then
      let reply := ⟨.invalidCode, 0, "TOTP code replay detected; code has already been used", none,
        none⟩
      if maxChallengeAttempts ≤ attempts then
        w.failWith challenge.challengeId .invalidCode
          "TOTP code replay detected; code has already been used"
      else (some reply, w)
    else
      MfaWorld.finishVerify
        { w with
          lastUsedTimeSteps := Function.update w.lastUsedTimeSteps user (some step)
          accepted := (config.configurationId, step) :: w.accepted }
        challenge step now completedNow
  | .error _ =>
    match w.recoveryIndex env user credential with
    | some i =>
      MfaWorld.finishVerify
        { w with userRecoveryCodes :=
            Function.update w.userRecoveryCodes user ((w.userRecoveryCodes user).map (·.eraseIdx i)) }
        challenge 0 now completedNow
    | none =>
      if maxChallengeAttempts ≤ attempts then
        w.failWith challenge.challengeId .maxAttemptsExceeded
          "Invalid code; max verification attempts exceeded"
      else (some ⟨.invalidCode, 0, "Invalid verification code", none, none⟩, w)

/-- `verify_challenge`; `none` is an exception. -/
def MfaWorld.verifyChallenge (env : MfaEnv) (id : Uuid) (credential : String)
    (pick : Nat) (now completedNow : TimePoint) : Option MfaVerification × MfaWorld :=
  match w.challenges id with
  | none => (some ⟨.invalidCode, 0, "Challenge not found", none, none⟩, w)
  | some challenge =>
    if challenge.status = .completed then
      (some ⟨.alreadyCompleted, 0, "Challenge already completed", none, none⟩, w)
    else if challenge.status = .failed then
      (some ⟨.maxAttemptsExceeded, 0, "Challenge has failed or locked out", none, none⟩, w)
    else if challenge.status = .expired ∨ challenge.expiresAt < now then
      w.failWith id .expiredChallenge "Challenge has expired"
    else
      -- the counter is a `uint32_t`
      let attempts := (w.challengeAttempts id + 1) % 2 ^ 32
      let w := { w with challengeAttempts := Function.update w.challengeAttempts id attempts }
      if maxChallengeAttempts < attempts then
        w.failWith id .maxAttemptsExceeded "Max verification attempts exceeded"
      else
        match w.findMfaConfigByUserId challenge.userId pick with
        | none => (some ⟨.challengeFailed, 0, "MFA is not enabled for user", none, none⟩, w)
        | some config =>
          if config.status ≠ .enabled then
            (some ⟨.challengeFailed, 0, "MFA is not enabled for user", none, none⟩, w)
          else w.checkCredential env challenge config credential attempts now completedNow

/-! ## Runs of calls -/

inductive MfaEvent
  | initiate (user : Uuid) (issuer accountName : String) (pick : Nat) (secret nonce : Bytes)
      (freshId : Uuid) (now : TimePoint)
  | confirm (user : Uuid) (code : String) (pick : Nat) (codes : List String) (now : TimePoint)
  | disable (user : Uuid) (code : String) (pick : Nat) (now : TimePoint)
  | challenge (user sessionId : Uuid) (purpose : MfaChallengePurpose) (ttl : TimePoint)
      (freshId : Uuid) (now : TimePoint)
  | verify (id : Uuid) (credential : String) (pick : Nat) (now completedNow : TimePoint)

def MfaWorld.step (env : MfaEnv) (w : MfaWorld) : MfaEvent → Option MfaWorld
  | .initiate user issuer accountName pick secret nonce freshId now =>
    some (w.initiateEnrollment env user issuer accountName pick secret nonce freshId now).2
  | .confirm user code pick codes now => some (w.confirmEnrollment env user code pick codes now).2
  | .disable user code pick now => some (w.disableMfa env user code pick now).2
  | .challenge user sessionId purpose ttl freshId now =>
    some (w.createChallenge user sessionId purpose ttl freshId now).2
  | .verify id credential pick now completedNow =>
    some (w.verifyChallenge env id credential pick now completedNow).2

/-! ## What a call can do

To the configurations and the ghosts, that is; the inversion of `step`. -/

inductive MfaChanges (env : MfaEnv) (w w' : MfaWorld) : MfaEvent → Prop
  | silent (e : MfaEvent) (hconfigs : w'.configs = w.configs) (haccepted : w'.accepted = w.accepted)
      (harmed : w'.armed = w.armed) : MfaChanges env w w' e
  /-- a pending row is added for a user who is not found enabled -/
  | enrolled {user issuer accountName pick secret nonce freshId now}
      (config : MfaConfigurationEntity) (hfree : w.isMfaEnabledForUser user pick = false)
      (hfresh : ∀ c ∈ w.configs, c.configurationId ≠ config.configurationId)
      (huser : config.userId = user) (hpending : config.status = .pending)
      (hconfigs : w'.configs = w.configs ++ [config]) (haccepted : w'.accepted = w.accepted)
      (harmed : w'.armed = w.armed) :
      MfaChanges env w w' (.initiate user issuer accountName pick secret nonce freshId now)
  /-- the pending row found is enabled -/
  | confirmed {user code pick codes now} (config : MfaConfigurationEntity) (step : Nat)
      (hfind : w.findMfaConfigByUserId user pick = some config) (hpending : config.status = .pending)
      (hstep : env.matchedStep config code now = .ok step)
      (hconfigs : w'.configs = w.configs.map fun c =>
        if c.configurationId = config.configurationId ∧ c.version = config.version then c.enable now
        else c)
      (haccepted : w'.accepted = (config.configurationId, step) :: w.accepted)
      (harmed : w'.armed = Function.update w.armed user true) :
      MfaChanges env w w' (.confirm user code pick codes now)
  /-- the enabled row found is disabled, by a time step or by a recovery code -/
  | disabled {user code pick now} (config : MfaConfigurationEntity) (step : Option Nat)
      (hfind : w.findMfaConfigByUserId user pick = some config) (henabled : config.status = .enabled)
      (hstep : ∀ n, step = some n → env.matchedStep config code now = .ok n)
      (hconfigs : w'.configs = w.configs.map fun c =>
        if c.configurationId = config.configurationId ∧ c.version = config.version then c.disable now
        else c)
      (haccepted : w'.accepted =
        (step.map fun n => (config.configurationId, n)).toList ++ w.accepted)
      (harmed : w'.armed = Function.update w.armed user false) :
      MfaChanges env w w' (.disable user code pick now)
  /-- a time step other than the user's last one is accepted -/
  | verified {id credential pick now completedNow} (challenge : MfaChallengeEntity)
      (config : MfaConfigurationEntity) (step : Nat) (hchallenge : w.challenges id = some challenge)
      (hfind : w.findMfaConfigByUserId challenge.userId pick = some config)
      (henabled : config.status = .enabled) (hstep : env.matchedStep config credential now = .ok step)
      (hlast : w.lastUsedTimeSteps challenge.userId ≠ some step)
      (hconfigs : w'.configs = w.configs)
      (haccepted : w'.accepted = (config.configurationId, step) :: w.accepted)
      (harmed : w'.armed = w.armed) :
      MfaChanges env w w' (.verify id credential pick now completedNow)

open MfaWorld

theorem updateConfig_eq_some {w w' : MfaWorld} {id : Uuid} {version : Nat}
    {f : MfaConfigurationEntity → MfaConfigurationEntity}
    (h : w.updateConfig id version f = some w') :
    w' = { w with configs := w.configs.map fun c =>
      if c.configurationId = id ∧ c.version = version then f c else c } := by
  unfold updateConfig at h
  split at h
  · exact (Option.some.inj h).symm
  · cases h

theorem changes_initiate (env : MfaEnv) (w : MfaWorld) (user : Uuid) (issuer accountName : String)
    (pick : Nat) (secret nonce : Bytes) (freshId : Uuid) (now : TimePoint) :
    MfaChanges env w
      (w.initiateEnrollment env user issuer accountName pick secret nonce freshId now).2
      (.initiate user issuer accountName pick secret nonce freshId now) := by
  unfold initiateEnrollment
  split
  · exact .silent _ rfl rfl rfl
  split
  · exact .silent _ rfl rfl rfl
  rename_i hfree
  simp only
  split
  · exact .silent _ rfl rfl rfl
  rename_i w' hstore
  unfold storeMfaConfiguration at hstore
  split at hstore
  · cases hstore
  rename_i hfresh
  cases hstore
  refine .enrolled _ (by simpa using hfree) ?_ rfl rfl rfl rfl rfl
  intro c hc heq
  exact hfresh (List.any_eq_true.mpr ⟨c, hc, decide_eq_true heq⟩)

theorem changes_confirm (env : MfaEnv) (w : MfaWorld) (user : Uuid) (code : String) (pick : Nat)
    (codes : List String) (now : TimePoint) :
    MfaChanges env w (w.confirmEnrollment env user code pick codes now).2
      (.confirm user code pick codes now) := by
  unfold confirmEnrollment
  split
  · exact .silent _ rfl rfl rfl
  rename_i config hfind
  split
  · exact .silent _ rfl rfl rfl
  · exact .silent _ rfl rfl rfl
  rename_i hpending
  split
  · exact .silent _ rfl rfl rfl
  rename_i step hstep
  split
  · exact .silent _ rfl rfl rfl
  rename_i w' hupdate
  obtain rfl := updateConfig_eq_some hupdate
  exact .confirmed config step hfind hpending hstep rfl rfl rfl

theorem changes_finishDisable (env : MfaEnv) {w : MfaWorld} {user : Uuid} {code : String}
    {pick : Nat} {now : TimePoint} {config : MfaConfigurationEntity} {step : Option Nat}
    (hfind : w.findMfaConfigByUserId user pick = some config) (henabled : config.status = .enabled)
    (hstep : ∀ n, step = some n → env.matchedStep config code now = .ok n) :
    MfaChanges env w (w.finishDisable user config step now).2 (.disable user code pick now) := by
  unfold finishDisable
  split
  · exact .silent _ rfl rfl rfl
  rename_i w' hupdate
  obtain rfl := updateConfig_eq_some hupdate
  exact .disabled config step hfind henabled hstep rfl rfl rfl

theorem changes_disable (env : MfaEnv) (w : MfaWorld) (user : Uuid) (code : String) (pick : Nat)
    (now : TimePoint) :
    MfaChanges env w (w.disableMfa env user code pick now).2 (.disable user code pick now) := by
  unfold disableMfa
  split
  · exact .silent _ rfl rfl rfl
  rename_i config hfind
  split
  · exact .silent _ rfl rfl rfl
  rename_i henabled
  split
  next step hstep =>
    refine changes_finishDisable env hfind (not_not.mp henabled) ?_
    intro n hn
    cases hn
    exact hstep
  split
  · exact changes_finishDisable env hfind (not_not.mp henabled) nofun
  · exact .silent _ rfl rfl rfl

def SameLedger (w w' : MfaWorld) : Prop :=
  w'.configs = w.configs ∧ w'.accepted = w.accepted ∧ w'.armed = w.armed

theorem failWith_same (status : MfaVerificationStatus)
    (message : String) : SameLedger w (w.failWith id status message).2 := by
  unfold failWith
  split
  · exact ⟨rfl, rfl, rfl⟩
  rename_i w' hfail
  unfold failChallenge at hfail
  split at hfail
  · split at hfail
    · cases hfail
      exact ⟨rfl, rfl, rfl⟩
    · cases hfail
  · cases hfail

theorem finishVerify_same (challenge : MfaChallengeEntity) (step : Nat)
    (now completedNow : TimePoint) :
    SameLedger w (w.finishVerify challenge step now completedNow).2 := by
  unfold finishVerify
  split
  · exact ⟨rfl, rfl, rfl⟩
  rename_i w' hcomplete
  have hsame : SameLedger w w' := by
    unfold completeChallenge at hcomplete
    split at hcomplete
    · split at hcomplete
      · cases hcomplete
        exact ⟨rfl, rfl, rfl⟩
      · cases hcomplete
    · cases hcomplete
  split <;> exact hsame

theorem changes_verify (env : MfaEnv) (w : MfaWorld) (id : Uuid) (credential : String) (pick : Nat)
    (now completedNow : TimePoint) :
    MfaChanges env w (w.verifyChallenge env id credential pick now completedNow).2
      (.verify id credential pick now completedNow) := by
  have silent : ∀ {w₁ w₂ : MfaWorld}, SameLedger w w₁ → SameLedger w₁ w₂ →
      MfaChanges env w w₂ (.verify id credential pick now completedNow) := by
    rintro w₁ w₂ ⟨h₁, h₂, h₃⟩ ⟨h₄, h₅, h₆⟩
    exact .silent _ (h₄.trans h₁) (h₅.trans h₂) (h₆.trans h₃)
  have same : SameLedger w w := ⟨rfl, rfl, rfl⟩
  unfold verifyChallenge
  split
  · exact silent same same
  rename_i challenge hchallenge
  split
  · exact silent same same
  split
  · exact silent same same
  split
  · exact silent same (failWith_same _ _ _ _)
  -- from here on the attempt is counted
  simp only
  split
  · exact silent ⟨rfl, rfl, rfl⟩ (failWith_same _ _ _ _)
  split
  · exact silent same ⟨rfl, rfl, rfl⟩
  rename_i config hfind
  split
  · exact silent same ⟨rfl, rfl, rfl⟩
  rename_i henabled
  unfold checkCredential
  simp only
  split
  next step hstep =>
    split
    · split
      · exact silent ⟨rfl, rfl, rfl⟩ (failWith_same _ _ _ _)
      · exact silent same ⟨rfl, rfl, rfl⟩
    rename_i hlast
    obtain ⟨h₁, h₂, h₃⟩ := finishVerify_same
      { w with
        challengeAttempts :=
          Function.update w.challengeAttempts id ((w.challengeAttempts id + 1) % 2 ^ 32)
        lastUsedTimeSteps := Function.update w.lastUsedTimeSteps challenge.userId (some step)
        accepted := (config.configurationId, step) :: w.accepted }
      challenge step now completedNow
    exact .verified challenge config step hchallenge hfind (not_not.mp henabled) hstep hlast h₁ h₂ h₃
  split
  · exact silent ⟨rfl, rfl, rfl⟩ (finishVerify_same _ _ _ _ _)
  split
  · exact silent ⟨rfl, rfl, rfl⟩ (failWith_same _ _ _ _)
  · exact silent same ⟨rfl, rfl, rfl⟩

/-- What a call can do. -/
theorem changes_of_step {env : MfaEnv} {w w' : MfaWorld} {e : MfaEvent}
    (h : w.step env e = some w') : MfaChanges env w w' e := by
  cases e with
  | initiate user issuer accountName pick secret nonce freshId now =>
    cases h
    exact changes_initiate env w user issuer accountName pick secret nonce freshId now
  | confirm user code pick codes now =>
    cases h
    exact changes_confirm env w user code pick codes now
  | disable user code pick now =>
    cases h
    exact changes_disable env w user code pick now
  | challenge user sessionId purpose ttl freshId now =>
    cases h
    unfold createChallenge
    simp only
    split <;> exact .silent _ rfl rfl rfl
  | verify id credential pick now completedNow =>
    cases h
    exact changes_verify env w id credential pick now completedNow

/-! ## A concrete instance -/

namespace Sample

/-- A hash whose truncation is the last four bytes of the counter. -/
def hmac (_ message : Bytes) : Bytes := message.drop 4 ++ List.replicate 20 0

def env : MfaEnv where
  engine := ⟨{}, hmac, fun _ _ => by simp [hmac]⟩
  algorithm := "SHA1"
  encrypt secret _ _ := secret
  decrypt secret _ := .ok secret
  base32 _ := ""
  sha256Hex cs := String.ofList cs

def user : Uuid := .ofByte 1
def session : Uuid := .ofByte 3

def world : MfaWorld where
  users := Function.update (fun _ => none) user (some "user")
  configs := []
  challenges := fun _ => none
  sessions :=
    { SessionStore.empty with
      sessions := Function.update (fun _ => none) session
        (some ⟨session, user, .ofByte 2, .active, .primaryOnly, 0, 3600000, none, 0⟩) }
  lastUsedTimeSteps := fun _ => none
  challengeAttempts := fun _ => 0
  userRecoveryCodes := fun _ => none
  accepted := []
  armed := fun _ => false

def enroll (n : UInt8) (pick : Nat) : MfaEvent :=
  .initiate user "SecureCloud" "" pick [1, 2, 3] [] (.ofByte n) 60000

end Sample

end SecureCloud.Auth
