import SecureCloud.Auth.Session
import SecureCloud.Lib.Interleaving
import SecureCloud.Lib.ReadCommitted

/-
# Auth.RefreshToken — `refresh_tokens`, statement by statement

`TokenManager::refresh_tokens` as a process over the auth database. A move is one SQL statement with the
computation after it; `COMMIT` is a move of its own. A statement waits while another transaction has its
row. `rotate_token_atomic` and `handle_token_reuse` are transactions of several statements; the other
calls commit with their one statement. Any statement may fail, and a failed `COMMIT` may have taken
effect.

Processes in `other` run the remaining statements of the service on these tables. `reuseHandled` is a
ghost: the sessions whose reuse handling has committed.
-/

namespace SecureCloud.Auth

open Lib Lib.ReadCommitted

/-! ## Entities and results -/

inductive TokenStatus
  | active
  | rotated
  | revoked
  | expired
deriving DecidableEq

def TokenStatus.toString : TokenStatus → String
  | active => "Active"
  | rotated => "Rotated"
  | revoked => "Revoked"
  | expired => "Expired"

/-- Row of `refresh_tokens`. -/
structure RefreshTokenEntity where
  refreshTokenId : Uuid
  sessionId : Uuid
  deviceId : Uuid
  tokenVerifier : String
  tokenStatus : TokenStatus
  issuedAt : TimePoint
  expiresAt : TimePoint
  revokedAt : Option TimePoint
  rotatedAt : Option TimePoint
  replacedByTokenId : Option Uuid

/-- `TokenPair`; the access token is given by the claims it carries. -/
structure TokenPair where
  accessToken : AccessTokenClaims
  refreshToken : String
  expiresAt : TimePoint

inductive TokenRefreshStatus
  | success
  | invalidToken
  | expiredToken
  | deviceMismatch
  | sessionRevoked
  | compromiseDetected
  | concurrencyConflict
  | databaseError
deriving DecidableEq

structure TokenRefreshResult where
  status : TokenRefreshStatus
  tokens : Option TokenPair := none
  sessionId : Option Uuid := none
  errorMessage : String

def TokenRefreshResult.isSuccess (r : TokenRefreshResult) : Bool :=
  r.status = .success ∧ r.tokens.isSome

def TokenRefreshResult.success (pair : TokenPair) (sessionId : Uuid) : TokenRefreshResult :=
  ⟨.success, some pair, some sessionId, "Tokens rotated successfully"⟩

def TokenRefreshResult.refusal (status : TokenRefreshStatus) (message : String) :
    TokenRefreshResult :=
  ⟨status, none, none, message⟩

/-- The exceptions `refresh_tokens` tells apart. -/
inductive AuthException
  | optimisticLock (what : String)
  | repository (what : String)
  | other (what : String)

/-- The handlers at the end of `refresh_tokens`. -/
def AuthException.result : AuthException → TokenRefreshResult
  | optimisticLock what =>
    .refusal .concurrencyConflict ("Concurrent token rotation race detected: " ++ what)
  | repository what => .refusal .databaseError ("Repository error during token refresh: " ++ what)
  | other what => .refusal .databaseError ("Internal error during token refresh: " ++ what)

/-- How a statement fails: with an SQL error, which repositories translate, or otherwise. -/
inductive Fault
  | sql (what : String)
  | lost (what : String)

def Fault.exception (operation : String) : Fault → AuthException
  | sql what => .repository (operation ++ what)
  | lost what => .other what

/-! ## The database -/

/-- The tables, for processes `ι`; each has at most one open transaction. -/
structure AuthDb (ι : Type) [DecidableEq ι] where
  tokens : Indexed Uuid ι RefreshTokenEntity.tokenVerifier
  sessions : Table Uuid SessionEntity ι
  devices : Table Uuid DeviceEntity ι
  reuseHandled : List Uuid

section Processes

variable {ι : Type} [DecidableEq ι]

def AuthDb.commit (db : AuthDb ι) (i : ι) : AuthDb ι :=
  { db with tokens := db.tokens.commit i, sessions := db.sessions.commit i
            devices := db.devices.commit i }

def AuthDb.rollback (db : AuthDb ι) (i : ι) : AuthDb ι :=
  { db with tokens := db.tokens.rollback i, sessions := db.sessions.rollback i
            devices := db.devices.rollback i }

def AuthDb.references (db : AuthDb ι) (t : RefreshTokenEntity) : Bool :=
  (db.sessions.committed t.sessionId).isSome && (db.devices.committed t.deviceId).isSome

variable (now : TimePoint)

/-- `kUpdateTokenRotatedSql`. -/
def RefreshTokenEntity.rotate (replacedBy : Uuid) (t : RefreshTokenEntity) :
    RefreshTokenEntity :=
  { t with tokenStatus := .rotated, rotatedAt := some now, replacedByTokenId := some replacedBy }

/-- `kRevokeSiblingTokensSql`. -/
def RefreshTokenEntity.revoke (t : RefreshTokenEntity) : RefreshTokenEntity :=
  { t with tokenStatus := .revoked, revokedAt := some now }

variable (e : SessionEntity)

/-- `kRevokeSessionByReuseSql`, and the other statements that revoke a session. -/
def SessionEntity.revoke : SessionEntity :=
  { e with sessionStatus := .revoked, revokedAt := some now }

/-! ## The other statements of the service -/

inductive SessionUpdate
  | touch
  | level (level : AuthenticationLevel)
  | revoke
  | expire

/-- The `WHERE` clause beyond the key. -/
def SessionUpdate.applies : SessionUpdate → Bool
  | touch => e.sessionStatus = .active ∧ now < e.expiresAt
  | level _ => e.sessionStatus = .active
  | revoke => e.sessionStatus = .active
  | expire => e.sessionStatus = .active ∧ e.expiresAt ≤ now

def SessionUpdate.apply : SessionUpdate → SessionEntity
  | touch => { e with lastUsedAt := now }
  | level l => { e with authenticationLevel := l }
  | revoke => e.revoke now
  | expire => { e with sessionStatus := .expired }

inductive DeviceUpdate
  | authorize
  | revoke
  | authenticated

def DeviceUpdate.applies (d : DeviceEntity) : DeviceUpdate → Bool
  | authorize => d.deviceStatus = .pendingAuthorization
  | revoke => true
  | authenticated => d.deviceStatus ≠ .revoked

def DeviceUpdate.apply (d : DeviceEntity) : DeviceUpdate → DeviceEntity
  | authorize => { d with deviceStatus := .active }
  | revoke => { d with deviceStatus := .revoked }
  | authenticated => { d with lastAuthenticatedAt := now }

/-- A statement of one row, committed at once. A statement over several rows is several of these. -/
inductive AuthStatement
  | createSession (session : SessionEntity)
  | createToken (token : RefreshTokenEntity)
  | registerDevice (device : DeviceEntity)
  | updateSession (id : Uuid) (change : SessionUpdate)
  | updateDevice (id : Uuid) (change : DeviceUpdate)

variable (i : ι)

def AuthStatement.exec (now : TimePoint) (db : AuthDb ι) : AuthStatement → Option (AuthDb ι)
  | createSession e =>
    (db.sessions.insert i e.sessionId e).map fun
      | none => db
      | some sessions => { db with sessions := sessions.commit i }
  | createToken t =>
    if db.references t then
      (db.tokens.insert i t.refreshTokenId t).map fun
        | none => db
        | some tokens => { db with tokens := tokens.commit i }
    else some db
  | registerDevice d =>
    (db.devices.insert i d.deviceId d).map fun
      | none => db
      | some devices => { db with devices := devices.commit i }
  | updateSession id change =>
    (db.sessions.update i id (change.applies now) (change.apply now)).map fun (_, sessions) =>
      { db with sessions := sessions.commit i }
  | updateDevice id change =>
    (db.devices.update i id change.applies (change.apply now)).map fun (_, devices) =>
      { db with devices := devices.commit i }

/-! ## The process -/

structure RefreshCall where
  refreshTokenSecret : String
  deviceId : Uuid

structure TokenManager where
  config : TokenManagerConfig
  sha256Hex : String → String

structure RefreshEnv where
  now : TimePoint
  fault : Option Fault := none
  /-- a failed `COMMIT` has taken effect all the same -/
  inDoubt : Bool := false
  freshId : Uuid := .nil
  freshSecret : String := ""
  jti : Uuid := .nil
  statement : AuthStatement := .updateSession .nil .touch

structure Rotation where
  token : RefreshTokenEntity
  session : SessionEntity
  now : TimePoint
  newToken : RefreshTokenEntity
  newSecret : String

inductive RefreshPc
  | other
  | start
  | findDevice (token : RefreshTokenEntity) (now : TimePoint)
  | findSession (token : RefreshTokenEntity) (now : TimePoint) (device : DeviceEntity)
  | lockOld (r : Rotation)
  | insertNew (r : Rotation) (rotatedAt : TimePoint)
  | markRotated (r : Rotation) (rotatedAt : TimePoint)
  | commitRotation (r : Rotation)
  | touchSession (r : Rotation)
  | authenticateDevice (r : Rotation)
  | reuseFind
  | reuseSession (token : RefreshTokenEntity) (now : TimePoint)
  | reuseScan (token : RefreshTokenEntity) (now : TimePoint)
  | reuseSiblings (token : RefreshTokenEntity) (now : TimePoint) (left : List Uuid)
  | done (result : TokenRefreshResult)

def RefreshPc.refuse (status : TokenRefreshStatus) (message : String) : RefreshPc :=
  .done (.refusal status message)

variable (m : TokenManager) (call : RefreshCall)

def TokenManager.checkToken (now : TimePoint) (token : RefreshTokenEntity) : RefreshPc :=
  match token.tokenStatus with
  | .rotated =>
    if token.rotatedAt.any (fun at_ => now - at_ ≤ m.config.concurrencyGraceWindow) then
      .refuse .concurrencyConflict "Concurrent token rotation detected within grace window"
    else .reuseFind
  | .revoked => .refuse .sessionRevoked "Refresh token has been revoked"
  | .expired => .refuse .invalidToken ("Refresh token is not active (status: " ++
      token.tokenStatus.toString ++ ")")
  | .active =>
    if token.expiresAt < now then .refuse .expiredToken "Refresh token has expired"
    else if token.deviceId ≠ call.deviceId then
      .refuse .deviceMismatch "Refresh token device binding does not match requesting device"
    else .findDevice token now

variable (token : RefreshTokenEntity)

def checkDevice (now : TimePoint) : Option DeviceEntity → RefreshPc
  | none => .refuse .deviceMismatch "Requesting device not found"
  | some device =>
    if device.deviceStatus ≠ .active then
      .refuse .deviceMismatch ("Requesting device is not active (status: " ++
        device.deviceStatus.toString ++ ")")
    else .findSession token now device

def TokenManager.nextToken (token : RefreshTokenEntity)
    (now : TimePoint) (env : RefreshEnv) : RefreshTokenEntity where
  refreshTokenId := env.freshId
  sessionId := token.sessionId
  deviceId := call.deviceId
  tokenVerifier := m.sha256Hex env.freshSecret
  tokenStatus := .active
  issuedAt := now
  expiresAt := now + m.config.refreshTokenTtl
  revokedAt := none
  rotatedAt := none
  replacedByTokenId := none

def TokenManager.checkSession (token : RefreshTokenEntity)
    (now : TimePoint) (device : DeviceEntity) (env : RefreshEnv) : Option SessionEntity → RefreshPc
  | none => .refuse .invalidToken "Associated session not found"
  | some session =>
    if session.sessionStatus ≠ .active then
      .refuse .sessionRevoked "Associated session has been revoked"
    else if session.expiresAt < now then
      .refuse .sessionRevoked "Associated session has expired"
    else if session.deviceId ≠ call.deviceId then
      .refuse .deviceMismatch "Associated session is bound to a different device"
    else if device.userId ≠ session.userId then
      .refuse .deviceMismatch "Device ownership does not match session user"
    else .lockOld ⟨token, session, now, m.nextToken call token now env, env.freshSecret⟩

def TokenManager.tokenPair (r : Rotation) (jti : Uuid) : TokenPair where
  accessToken :=
    { issuer := m.config.issuer, audience := m.config.audience, userId := r.session.userId
      deviceId := call.deviceId, sessionId := r.session.sessionId, issuedAt := r.now
      expiresAt := r.now + m.config.accessTokenTtl, jti := jti, scopes := m.config.defaultScopes
      tokenVersion := 1, authenticationLevel := r.session.authenticationLevel }
  refreshToken := r.newSecret
  expiresAt := r.now + m.config.accessTokenTtl

def AuthDb.throw (db : AuthDb ι) (i : ι) (e : AuthException) : RefreshPc × AuthDb ι :=
  (.done e.result, db.rollback i)

/-- `handle_token_reuse` is over, by an exception or not: the caller swallows it. -/
def compromised : RefreshPc :=
  .refuse .compromiseDetected
    "Refresh token reuse detected: token was previously rotated; session revoked"

/-! ### `rotate_token_atomic` -/

variable (r : Rotation)

/-- `SELECT … FOR UPDATE` of the old token, and the checks on it. -/
def lockOldMove (env : RefreshEnv) (db : AuthDb ι) : Option (RefreshPc × AuthDb ι) :=
  match env.fault with
  | some f => some (db.throw i (f.exception "Failed to rotate refresh token atomically: "))
  | none =>
    (db.tokens.selectForUpdate i r.token.refreshTokenId).map fun (found, tokens) =>
      let db := { db with tokens := tokens }
      match found with
      | none => db.throw i (.repository ("Refresh token not found: " ++
          r.token.refreshTokenId.toString))
      | some old =>
        if old.tokenStatus ≠ .active then
          db.throw i (.repository ("Cannot rotate non-active refresh token (" ++
            old.tokenStatus.toString ++ "): " ++ r.token.refreshTokenId.toString))
        else if old.expiresAt < env.now then
          db.throw i (.repository ("Cannot rotate expired refresh token: " ++
            r.token.refreshTokenId.toString))
        else (.insertNew r env.now, db)

def insertNewMove (rotatedAt : TimePoint) (env : RefreshEnv) (db : AuthDb ι) :
    Option (RefreshPc × AuthDb ι) :=
  match env.fault with
  | some f => some (db.throw i (f.exception "Failed to insert refresh token: "))
  | none =>
    if db.references r.newToken then
      (db.tokens.insert i r.newToken.refreshTokenId r.newToken).map fun
        | none => db.throw i (.repository ("Refresh token already exists: " ++
            r.newToken.refreshTokenId.toString))
        | some tokens => (.markRotated r rotatedAt, { db with tokens := tokens })
    else
      some (db.throw i (.repository
        "Failed to insert refresh token: violates foreign key constraint"))

theorem rotate_tokenVerifier (id : Uuid) (t : RefreshTokenEntity) :
    (t.rotate now id).tokenVerifier = t.tokenVerifier := rfl

theorem revoke_tokenVerifier (t : RefreshTokenEntity) :
    (t.revoke now).tokenVerifier = t.tokenVerifier := rfl

def markRotatedMove (rotatedAt : TimePoint) (env : RefreshEnv)
    (db : AuthDb ι) : Option (RefreshPc × AuthDb ι) :=
  match env.fault with
  | some f => some (db.throw i (f.exception "Failed to rotate refresh token atomically: "))
  | none =>
    (db.tokens.update i r.token.refreshTokenId (fun t => t.tokenStatus = .active)
        (.rotate rotatedAt r.newToken.refreshTokenId) (rotate_tokenVerifier _ _)).map fun
      | (false, tokens) => AuthDb.throw { db with tokens := tokens } i
          (.optimisticLock ("Concurrent token rotation race detected for token: " ++
            r.token.refreshTokenId.toString))
      | (true, tokens) => (.commitRotation r, { db with tokens := tokens })

def commitRotationMove (env : RefreshEnv) (db : AuthDb ι) : RefreshPc × AuthDb ι :=
  match env.fault with
  | some (.sql what) | some (.lost what) =>
    (.done (AuthException.other what).result, if env.inDoubt then db.commit i else db.rollback i)
  | none => (.touchSession r, db.commit i)

/-- `touch_session_activity`, whose answer is ignored. -/
def touchSessionMove (env : RefreshEnv) (db : AuthDb ι) : Option (RefreshPc × AuthDb ι) :=
  match env.fault with
  | some f => some (db.throw i (f.exception "Failed to touch session activity: "))
  | none =>
    (db.sessions.update i r.session.sessionId (SessionUpdate.touch.applies r.now)
        (SessionUpdate.touch.apply r.now)).map fun (_, sessions) =>
      (.authenticateDevice r, { db with sessions := sessions.commit i })

/-- `update_last_authenticated`, and the end of the call. -/
def TokenManager.authenticateDeviceMove (i : ι) (r : Rotation)
    (env : RefreshEnv) (db : AuthDb ι) : Option (RefreshPc × AuthDb ι) :=
  match env.fault with
  | some f => some (db.throw i (f.exception "Failed to update last authenticated time: "))
  | none =>
    (db.devices.update i call.deviceId DeviceUpdate.authenticated.applies
        (DeviceUpdate.authenticated.apply r.now)).map fun
      | (false, _) => db.throw i (.repository (if (db.devices.view i call.deviceId).isSome then
            "Cannot update authentication on a revoked device: " ++ call.deviceId.toString
          else "Device not found: " ++ call.deviceId.toString))
      | (true, devices) => (.done (.success (m.tokenPair call r env.jti) r.session.sessionId),
          { db with devices := devices.commit i })

/-! ### `handle_token_reuse` -/

/-- `SELECT` by verifier, inside the transaction. -/
def TokenManager.reuseFindMove (i : ι) (env : RefreshEnv) (db : AuthDb ι) : RefreshPc × AuthDb ι :=
  match env.fault, db.tokens.findBy (m.sha256Hex call.refreshTokenSecret) with
  | some _, _ => (compromised, db.rollback i)
  | none, none => (compromised, db.rollback i)
  | none, some token =>
    if token.tokenStatus ≠ .rotated then (compromised, db.rollback i)
    else (.reuseSession token env.now, db)

/-- `UPDATE sessions`, whatever the status of the session. -/
def reuseSessionMove (now : TimePoint) (env : RefreshEnv)
    (db : AuthDb ι) : Option (RefreshPc × AuthDb ι) :=
  if env.fault.isSome then some (compromised, db.rollback i)
  else (db.sessions.update i token.sessionId (fun _ => true) (.revoke now)).map fun (_, sessions) =>
    (.reuseScan token now, { db with sessions := sessions })

/-- The `WHERE` clause of `kRevokeSiblingTokensSql`. -/
def isActiveSibling (session : Uuid) (t : RefreshTokenEntity) : Bool :=
  t.sessionId = session ∧ t.tokenStatus = .active

/-- `UPDATE refresh_tokens`: the rows of the statement's snapshot, then one after the other, and the
`COMMIT`. -/
def reuseSiblingsMove (now : TimePoint) (env : RefreshEnv)
    (db : AuthDb ι) : List Uuid → Option (RefreshPc × AuthDb ι)
  | id :: left =>
    if env.fault.isSome then some (compromised, db.rollback i)
    else
      (db.tokens.update i id (isActiveSibling token.sessionId) (.revoke now)
          (revoke_tokenVerifier _)).map fun (_, tokens) =>
        (.reuseSiblings token now left, { db with tokens := tokens })
  | [] =>
    if env.fault.isSome && !env.inDoubt then some (compromised, db.rollback i)
    else some (compromised, { db.commit i with reuseHandled := token.sessionId :: db.reuseHandled })

/-! ### All moves -/

def TokenManager.next (calls : ι → RefreshCall) (i : ι) (pc : RefreshPc)
    (env : RefreshEnv) (db : AuthDb ι) : Option (RefreshPc × AuthDb ι) :=
  let call := calls i
  match pc with
  | .other => (env.statement.exec i env.now db).map fun db => (.other, db)
  | .start =>
    if call.refreshTokenSecret = "" then
      some (.refuse .invalidToken "Refresh token secret cannot be empty", db)
    else
      match env.fault with
      | some f => some (db.throw i (f.exception "Failed to find refresh token by verifier: "))
      | none =>
        match db.tokens.findBy (m.sha256Hex call.refreshTokenSecret) with
        | none => some (.refuse .invalidToken "Refresh token not found", db)
        | some token => some (m.checkToken call env.now token, db)
  | .findDevice token now =>
    match env.fault with
    | some f => some (db.throw i (f.exception "Failed to find device by id: "))
    | none => some (checkDevice token now (db.devices.committed call.deviceId), db)
  | .findSession token now device =>
    match env.fault with
    | some f => some (db.throw i (f.exception "Failed to find session by id: "))
    | none =>
      some (m.checkSession call token now device env (db.sessions.committed token.sessionId), db)
  | .lockOld r => lockOldMove i r env db
  | .insertNew r rotatedAt => insertNewMove i r rotatedAt env db
  | .markRotated r rotatedAt => markRotatedMove i r rotatedAt env db
  | .commitRotation r => some (commitRotationMove i r env db)
  | .touchSession r => touchSessionMove i r env db
  | .authenticateDevice r => m.authenticateDeviceMove call i r env db
  | .reuseFind => some (m.reuseFindMove call i env db)
  | .reuseSession token now => reuseSessionMove i token now env db
  | .reuseScan token now =>
    if env.fault.isSome then some (compromised, db.rollback i)
    else some (.reuseSiblings token now (db.tokens.rows.scan i (isActiveSibling token.sessionId)), db)
  | .reuseSiblings token now left => reuseSiblingsMove i token now env db left
  | .done _ => none

end Processes

end SecureCloud.Auth
