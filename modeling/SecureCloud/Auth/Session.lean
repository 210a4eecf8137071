import SecureCloud.Auth.Domain

/-
# Auth.Session — the session store and `SessionManager`

The tables `sessions` and `devices` with the statements of the session repository, and `SessionManager`.
A call that may throw takes a `Bool` that says whether it does; the clock is an argument.
-/

namespace SecureCloud.Auth

/-! ## Tables -/

structure SessionStore where
  sessions : Uuid → Option SessionEntity
  devices : Uuid → Option DeviceEntity

def SessionStore.empty : SessionStore where
  sessions := fun _ => none
  devices := fun _ => none

variable (s : SessionStore) (id : Uuid)

def SessionStore.findSession : Option SessionEntity := s.sessions id

def SessionStore.findDevice : Option DeviceEntity := s.devices id

/-- `create_session`; `none` is the violated primary key. -/
def SessionStore.createSession (e : SessionEntity) : Option SessionStore :=
  if (s.sessions e.sessionId).isSome then none
  else some { s with sessions := Function.update s.sessions e.sessionId (some e) }

/-- `UPDATE sessions SET … WHERE p`, for the rows `p` selects. -/
def SessionStore.updateSessions (p : SessionEntity → Bool)
    (f : SessionEntity → SessionEntity) : SessionStore :=
  { s with sessions := fun id => (s.sessions id).map fun e => if p e then f e else e }

variable (now : TimePoint)

def SessionStore.touchSessionActivity : SessionStore :=
  s.updateSessions (fun e => e.sessionId = id ∧ e.sessionStatus = .active ∧ now < e.expiresAt)
    (fun e => { e with lastUsedAt := now })

/-- `revoke_session_atomic`: whether a row was affected. -/
def SessionStore.revokeSessionAtomic : Bool × SessionStore :=
  ((s.sessions id).any (·.sessionStatus = .active),
    s.updateSessions (fun e => e.sessionId = id ∧ e.sessionStatus = .active)
      (fun e => { e with sessionStatus := .revoked, revokedAt := some now }))

/-- `update_authentication_level`; `none` is the exception when no active session has the id. -/
def SessionStore.updateAuthenticationLevel (level : AuthenticationLevel) : Option SessionStore :=
  if (s.sessions id).any (·.sessionStatus = .active) then
    some (s.updateSessions (fun e => e.sessionId = id ∧ e.sessionStatus = .active)
      (fun e => { e with authenticationLevel := level }))
  else none

/-- `update_last_authenticated` of the device repository, which passes over a revoked device. -/
def SessionStore.updateLastAuthenticated : SessionStore :=
  { s with devices := fun d => (s.devices d).map fun e =>
      if e.deviceId = id ∧ e.deviceStatus ≠ .revoked then { e with lastAuthenticatedAt := now }
      else e }

/-! ## `establish_session` -/

inductive SessionEstablishmentResult
  | success (session : SessionEntity) (device : DeviceEntity)
  | deviceNotFound (message : String)
  | deviceRevoked (message : String)
  | internalError (message : String)

/-- `establish_session`, where no repository call throws. `freshId` is what `generate_v7` returns. -/
def SessionStore.establishSession (sessionTtl : TimePoint) (userId deviceId : Uuid)
    (freshId : Uuid) (now : TimePoint) : SessionEstablishmentResult × SessionStore :=
  match s.findDevice deviceId with
  | none => (.deviceNotFound ("Device not found: " ++ deviceId.toString), s)
  | some device =>
    if device.userId ≠ userId then
      (.deviceNotFound ("Device does not belong to authenticated user: " ++ deviceId.toString), s)
    else if device.deviceStatus ≠ .active then
      (.deviceRevoked ("Device is not active (status: " ++ device.deviceStatus.toString ++ ")"), s)
    else
      let session : SessionEntity :=
        { sessionId := freshId, userId := userId, deviceId := deviceId, sessionStatus := .active
          authenticationLevel := .primaryOnly, createdAt := now, expiresAt := now + sessionTtl
          revokedAt := none, lastUsedAt := now }
      match s.createSession session with
      | none => (.internalError ("Database error during session persistence: " ++
          "Session already exists: " ++ freshId.toString), s)
      | some s' => (.success session { device with lastAuthenticatedAt := now },
          s'.updateLastAuthenticated deviceId now)

/-! ## Access tokens of a session -/

structure TokenManagerConfig where
  accessTokenTtl : TimePoint := 900000
  refreshTokenTtl : TimePoint := 604800000
  issuer : String := "https://auth.securecloud.io"
  audience : String := "https://gateway.securecloud.io"
  defaultScopes : List String := ["access", "files:read", "files:write"]
  concurrencyGraceWindow : TimePoint := 5000

/-- The claims `issue_initial_tokens` signs; `none` is the thrown `std::invalid_argument`. -/
def TokenManagerConfig.accessTokenClaims (config : TokenManagerConfig) (session : SessionEntity)
    (scopes : List String) (jti : Uuid) (now : TimePoint) : Option AccessTokenClaims :=
  if session.sessionStatus ≠ .active ∨ session.expiresAt < now then none
  else some
    { issuer := config.issuer, audience := config.audience, userId := session.userId
      deviceId := session.deviceId, sessionId := session.sessionId, issuedAt := now
      expiresAt := now + config.accessTokenTtl, jti := jti
      scopes := if scopes.isEmpty then config.defaultScopes else scopes
      tokenVersion := 1, authenticationLevel := session.authenticationLevel }

/-! ## `validate_session` -/

inductive SessionValidationStatus
  | valid
  | notFound
  | revoked
  | expired
  | deviceMismatch
  | deviceRevoked
  | internalError
deriving DecidableEq

structure SessionValidationResult where
  status : SessionValidationStatus
  session : Option SessionEntity := none
  diagnosticMessage : String

structure SessionFaults where
  findSession : Option String := none
  findDevice : Option String := none
  touchSessionActivity : Option String := none

def SessionStore.validateSession (faults : SessionFaults) (sessionId : Uuid)
    (claimedDeviceId : Option Uuid) (now : TimePoint) : SessionValidationResult × SessionStore :=
  let refuse := fun status message =>
    ({ status := status, diagnosticMessage := message : SessionValidationResult }, s)
  match faults.findSession with
  | some what => refuse .internalError ("Database error during session lookup: " ++ what)
  | none =>
  match s.findSession sessionId with
  | none => refuse .notFound ("Session not found: " ++ sessionId.toString)
  | some session =>
  if session.sessionStatus = .revoked then
    refuse .revoked ("Session has been revoked: " ++ sessionId.toString)
  else if session.sessionStatus = .expired ∨ session.expiresAt ≤ now then
    refuse .expired ("Session has expired: " ++ sessionId.toString)
  else if claimedDeviceId.isSome ∧ claimedDeviceId ≠ some session.deviceId then
    refuse .deviceMismatch ("Session is not associated with claimed device: " ++
      (claimedDeviceId.map Uuid.toString).getD "")
  else
  match faults.findDevice with
  | some what => refuse .internalError ("Database error during device lookup: " ++ what)
  | none =>
  match s.findDevice session.deviceId with
  | none => refuse .deviceMismatch ("Bound device not found: " ++ session.deviceId.toString)
  | some device =>
  if device.deviceStatus ≠ .active then
    refuse .deviceRevoked ("Associated device is revoked or disabled: " ++
      session.deviceId.toString)
  else
  match faults.touchSessionActivity with
  | some what => refuse .internalError ("Database error updating session activity: " ++ what)
  | none =>
    ({ status := .valid, session := some { session with lastUsedAt := now }
       diagnosticMessage := "Session is active and valid" },
      s.touchSessionActivity sessionId now)

theorem SessionStatus.eq_active {status : SessionStatus} (h₁ : status ≠ .revoked)
    (h₂ : status ≠ .expired) : status = .active := by
  cases status with
  | active => rfl
  | revoked => exact absurd rfl h₁
  | expired => exact absurd rfl h₂

/-- A live session: stored, not revoked, not expired, on an active device. -/
def SessionStore.Live (id : Uuid) (session : SessionEntity) :
    Prop :=
  s.findSession id = some session ∧ session.sessionStatus = .active ∧ now < session.expiresAt ∧
    ∃ device, s.findDevice session.deviceId = some device ∧ device.deviceStatus = .active

open SessionStore

/-- `validate_session` accepts exactly the live sessions, when the database answers. -/
theorem validateSession_valid_iff (faults : SessionFaults) (id : Uuid)
    (now : TimePoint) (session : SessionEntity) :
    (s.validateSession faults id none now).1 = ⟨.valid, some session, "Session is active and valid"⟩ ↔
      faults = {} ∧ ∃ stored, s.Live now id stored ∧ session = { stored with lastUsedAt := now } := by
  obtain ⟨f₁, f₂, f₃⟩ := faults
  unfold validateSession SessionStore.Live
  constructor
  · intro h
    -- every branch but the last one refuses, with another status than `valid`
    simp only at h
    repeat' split at h
    all_goals try (simp at h; done)
    rename_i stored hstored hrevoked hexpired _ _ _ device hdevice hdevStatus _
    rw [not_or, Int.not_le] at hexpired
    refine ⟨rfl, stored, ⟨hstored, ?_, hexpired.2, device, hdevice, not_not.mp hdevStatus⟩, ?_⟩
    · exact SessionStatus.eq_active hrevoked hexpired.1
    · simpa using h.symm
  rintro ⟨hfaults, stored, ⟨hstored, hactive, hfresh, device, hdevice, hstatus⟩, rfl⟩
  obtain ⟨rfl, rfl, rfl⟩ : f₁ = none ∧ f₂ = none ∧ f₃ = none := by simpa using hfaults
  simp [hstored, hactive, hdevice, hstatus, Int.not_le.mpr hfresh]

/-! ## `revoke_session` -/

inductive SessionRevocationStatus
  | success
  | notFound
  | alreadyRevoked
  | internalError
deriving DecidableEq

structure SessionRevocationResult where
  status : SessionRevocationStatus
  revokedCount : Nat := 0
  diagnosticMessage : String

def SessionRevocationResult.isSuccess (r : SessionRevocationResult) : Bool := r.status == .success

/-- Which repository calls of `revoke_session` throw. One that throws may have been committed all the
same. -/
structure RevocationFaults where
  findSession : Option String := none
  revokeSession : Option (String × Bool) := none

variable (faults : RevocationFaults)

def RevocationFaults.commits : Bool :=
  faults.findSession.isNone && (faults.revokeSession.map (·.2)).getD true

/-- `revoke_session`; the audit event it publishes is left out. -/
def SessionStore.revokeSession (sessionId : Uuid)
    (now : TimePoint) : SessionRevocationResult × SessionStore :=
  let refuse := fun status message =>
    ({ status := status, diagnosticMessage := message : SessionRevocationResult }, s)
  match faults.findSession with
  | some what => refuse .internalError ("Database error during session lookup: " ++ what)
  | none =>
  match s.findSession sessionId with
  | none => refuse .notFound ("Session not found: " ++ sessionId.toString)
  | some session =>
  if session.sessionStatus = .revoked then
    refuse .alreadyRevoked ("Session was already revoked: " ++ sessionId.toString)
  else if session.sessionStatus = .expired then
    refuse .alreadyRevoked ("Session is expired and cannot be revoked: " ++ sessionId.toString)
  else
  let (revoked, s') := s.revokeSessionAtomic sessionId now
  match faults.revokeSession with
  | some (what, committed) =>
    ({ status := .internalError, diagnosticMessage := "Database error revoking session: " ++ what },
      if committed then s' else s)
  | none =>
    if revoked then
      ({ status := .success, revokedCount := 1
         diagnosticMessage := "Session(s) revoked successfully" }, s')
    else
      ({ status := .alreadyRevoked
         diagnosticMessage := "Session already revoked by concurrent operation: " ++
          sessionId.toString }, s')

def SessionStore.Keyed : Prop := ∀ id e, s.sessions id = some e → e.sessionId = id

def SessionStore.statusOf : Option SessionStatus :=
  (s.sessions id).map (·.sessionStatus)

theorem SessionStore.Keyed.createSession {s s' : SessionStore} {e : SessionEntity} (h : s.Keyed)
    (hs : s.createSession e = some s') : s'.Keyed := by
  unfold SessionStore.createSession at hs
  split_ifs at hs
  cases hs
  intro id e' he
  change Function.update s.sessions e.sessionId (some e) id = some e' at he
  by_cases hid : id = e.sessionId
  · rw [hid, Function.update_self] at he
    rw [hid, ← Option.some.inj he]
  rw [Function.update_of_ne hid] at he
  exact h id e' he

theorem SessionStore.Keyed.establishSession {s : SessionStore} (h : s.Keyed)
    (ttl : TimePoint) (userId deviceId freshId : Uuid) (now : TimePoint) :
    (s.establishSession ttl userId deviceId freshId now).2.Keyed := by
  unfold SessionStore.establishSession
  split
  · exact h
  split
  · exact h
  split
  · exact h
  dsimp only
  split
  · exact h
  rename_i s' hs
  have hkeyed : s'.Keyed := h.createSession hs
  exact hkeyed

theorem revokeSession_store (sessionId : Uuid) (now : TimePoint) :
    (s.revokeSession faults sessionId now).2 =
      if faults.commits = true ∧ s.statusOf sessionId = some .active then
        (s.revokeSessionAtomic sessionId now).2
      else s := by
  obtain ⟨find, revoke⟩ := faults
  unfold revokeSession statusOf findSession
    RevocationFaults.commits
  cases find with
  | some what => simp
  | none =>
    cases hrow : s.sessions sessionId with
    | none => simp
    | some session =>
      cases hstatus : session.sessionStatus with
      | revoked => simp [hstatus]
      | expired => simp [hstatus]
      | active =>
        cases revoke with
        | some fault => simp [hstatus]
        | none => simp [hstatus, revokeSessionAtomic, hrow]

theorem revokeSessionAtomic_statusOf {s : SessionStore} (h : s.Keyed) (sessionId : Uuid)
    (now : TimePoint) (id : Uuid) :
    (s.revokeSessionAtomic sessionId now).2.statusOf id =
      if id = sessionId ∧ s.statusOf id = some .active then some .revoked else s.statusOf id := by
  unfold statusOf revokeSessionAtomic updateSessions
  dsimp only
  cases hrow : s.sessions id with
  | none => simp
  | some e =>
    have hkey := h id e hrow
    simp only [Option.map_some, Option.some.injEq, hkey, decide_eq_true_eq]
    split_ifs <;> rfl

/-- What `revoke_session` does to the statuses: the session is revoked if it was active and the database
did its part; nothing else changes. -/
theorem revokeSession_statusOf {s : SessionStore} (h : s.Keyed) (faults : RevocationFaults)
    (sessionId : Uuid) (now : TimePoint) (id : Uuid) :
    (s.revokeSession faults sessionId now).2.statusOf id =
      if id = sessionId ∧ faults.commits = true ∧ s.statusOf id = some .active then some .revoked
      else s.statusOf id := by
  rw [revokeSession_store]
  by_cases hid : id = sessionId
  · subst hid
    by_cases hdone : faults.commits = true ∧ s.statusOf id = some .active
    · rw [if_pos hdone, revokeSessionAtomic_statusOf h, if_pos ⟨rfl, hdone.2⟩, if_pos ⟨rfl, hdone⟩]
    · rw [if_neg hdone, if_neg fun hnot => hdone hnot.2]
  have hother : ¬ (id = sessionId ∧ faults.commits = true ∧ s.statusOf id = some .active) :=
    fun hnot => hid hnot.1
  rw [if_neg hother]
  by_cases hdone : faults.commits = true ∧ s.statusOf sessionId = some .active
  · rw [if_pos hdone, revokeSessionAtomic_statusOf h, if_neg fun hnot => hid hnot.1]
  · rw [if_neg hdone]

end SecureCloud.Auth
