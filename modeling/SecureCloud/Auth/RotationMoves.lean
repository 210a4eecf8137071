import SecureCloud.Auth.RefreshToken

/-
# Auth.RotationMoves — what one move of a refresh can do

The inversion of `TokenManager.next`. To the TABLES a move does only what two disciplines allow: a
refresh token keeps its verifier and session and never becomes active again, and a session that is not
active stays so (`next_acted`). To the PROGRAM COUNTER it does one of the transitions of `RefreshMoves`
(`next_moves`).
-/

namespace SecureCloud.Auth

open Lib Lib.ReadCommitted Table Option

variable {ι : Type} [DecidableEq ι]

/-! ## The disciplines -/

/-- Tokens of sessions in `P` that keep verifier and session, and never become active again. -/
def tokenDiscipline (P : Uuid → Prop) : Discipline Uuid RefreshTokenEntity where
  Valid k t := t.refreshTokenId = k ∧ P t.sessionId
  Succ t t' := t'.tokenVerifier = t.tokenVerifier ∧ t'.sessionId = t.sessionId ∧
    (t.tokenStatus ≠ .active → t'.tokenStatus ≠ .active)
  refl _ := ⟨rfl, rfl, id⟩
  trans h h' := ⟨h'.1.trans h.1, h'.2.1.trans h.2.1, h'.2.2 ∘ h.2.2⟩

def sessionDiscipline : Discipline Uuid SessionEntity where
  Valid k e := e.sessionId = k
  Succ e e' := e.sessionStatus ≠ .active → e'.sessionStatus ≠ .active
  refl _ := id
  trans h h' := h' ∘ h

def AuthDb.Stored (db : AuthDb ι) (session : Uuid) : Prop := (db.sessions.committed session).isSome

/-- What holds of the tables at every time. -/
structure AuthDb.Sound (db : AuthDb ι) : Prop where
  tokens : db.tokens.rows.Sound (tokenDiscipline db.Stored)
  sessions : db.sessions.Sound sessionDiscipline
  handled : ∀ s ∈ db.reuseHandled, ∃ e, db.sessions.committed s = some e ∧ e.sessionStatus ≠ .active

/-- What process `i` has done to the tables, in one move. -/
structure Acted (i : ι) (db db' : AuthDb ι) : Prop where
  tokens : Table.Acts (tokenDiscipline db.Stored) i db.tokens.rows db'.tokens.rows
  sessions : Table.Acts sessionDiscipline i db.sessions db'.sessions

section
variable (i : ι) (db : AuthDb ι)

include i db

theorem Acted.refl : Acted i db db := ⟨.refl _, .refl _⟩

theorem Acted.commit : Acted i db (db.commit i) := ⟨.commit _, .commit _⟩

theorem Acted.rollback : Acted i db (db.rollback i) :=
  ⟨.rollback _, .rollback _⟩

end

variable {i : ι} {db : AuthDb ι} {tokens : Indexed Uuid ι RefreshTokenEntity.tokenVerifier}

section
variable (h : Table.Acts (tokenDiscipline db.Stored) i db.tokens.rows tokens.rows)

include h

theorem Acted.of_tokens :
    Acted i db { db with tokens := tokens } := ⟨h, .refl _⟩

theorem Acted.of_tokens_rollback :
    Acted i db (AuthDb.rollback { db with tokens := tokens } i) :=
  ⟨h.trans (.rollback _), .rollback _⟩

end

theorem Acted.of_sessions {sessions : Table Uuid SessionEntity ι}
    (h : Table.Acts sessionDiscipline i db.sessions sessions) :
    Acted i db { db with sessions := sessions } := ⟨.refl _, h⟩

/-! ### The statements keep to them -/

theorem rotate_keeps (P : Uuid → Prop) (now : TimePoint) (id k : Uuid) (t : RefreshTokenEntity)
    (h : (tokenDiscipline P).Valid k t) :
    (tokenDiscipline P).Valid k (t.rotate now id) ∧ (tokenDiscipline P).Succ t (t.rotate now id) := by
  refine ⟨h, rfl, rfl, fun _ => ?_⟩
  show TokenStatus.rotated ≠ .active
  decide

theorem revoke_keeps (P : Uuid → Prop) (now : TimePoint) (k : Uuid) (t : RefreshTokenEntity)
    (h : (tokenDiscipline P).Valid k t) :
    (tokenDiscipline P).Valid k (t.revoke now) ∧ (tokenDiscipline P).Succ t (t.revoke now) := by
  refine ⟨h, rfl, rfl, fun _ => ?_⟩
  show TokenStatus.revoked ≠ .active
  decide

theorem sessionUpdate_keeps (change : SessionUpdate) (now : TimePoint) (k : Uuid) (e : SessionEntity)
    (h : sessionDiscipline.Valid k e) :
    sessionDiscipline.Valid k (change.apply now e) ∧
      sessionDiscipline.Succ e (change.apply now e) := by
  cases change with
  | touch | level => exact ⟨h, id⟩
  | revoke =>
    refine ⟨h, fun _ => ?_⟩
    show SessionStatus.revoked ≠ .active
    decide
  | expire =>
    refine ⟨h, fun _ => ?_⟩
    show SessionStatus.expired ≠ .active
    decide

theorem AuthDb.stored_of_references {t : RefreshTokenEntity}
    (h : db.references t = true) : db.Stored t.sessionId := by
  unfold AuthDb.references at h
  exact (Bool.and_eq_true_iff.mp h).1

variable {now : TimePoint}

open Indexed

theorem exec_acted {db' : AuthDb ι} (hdb : db.Sound)
    {statement : AuthStatement} (h : statement.exec i now db = some db') :
    Acted i db db' ∧ db'.reuseHandled = db.reuseHandled := by
  cases statement with
  | createSession e =>
    obtain ⟨o, ho, rfl⟩ := map_eq_some_iff.mp h
    cases o with
    | none => exact ⟨.refl i db, rfl⟩
    | some sessions =>
      exact ⟨.of_sessions ((insert_acts hdb.sessions rfl ho).trans (.commit _)), rfl⟩
  | createToken t =>
    simp only [AuthStatement.exec] at h
    split at h
    next href =>
      obtain ⟨o, ho, rfl⟩ := map_eq_some_iff.mp h
      cases o with
      | none => exact ⟨.refl i db, rfl⟩
      | some tokens =>
        have hacts := insert_acts hdb.tokens ⟨rfl, db.stored_of_references href⟩
          (insert_rows ho)
        exact ⟨⟨hacts.trans (.commit _), .refl _⟩, rfl⟩
    · cases h
      exact ⟨.refl i db, rfl⟩
  | registerDevice d =>
    obtain ⟨o, ho, rfl⟩ := map_eq_some_iff.mp h
    cases o with
    | none => exact ⟨.refl i db, rfl⟩
    | some devices => exact ⟨⟨.refl _, .refl _⟩, rfl⟩
  | updateSession id change =>
    obtain ⟨⟨affected, sessions⟩, ho, rfl⟩ := map_eq_some_iff.mp h
    have hacts := update_acts hdb.sessions (fun e he _ => sessionUpdate_keeps change now id e he) ho
    exact ⟨.of_sessions (hacts.trans (.commit _)), rfl⟩
  | updateDevice id change =>
    obtain ⟨⟨affected, devices⟩, ho, rfl⟩ := map_eq_some_iff.mp h
    exact ⟨⟨.refl _, .refl _⟩, rfl⟩

/-! ## The transitions -/

/-- What a move of process `i` does to its program counter, with what it has read and left. -/
inductive RefreshMoves (m : TokenManager) (call : RefreshCall) (i : ι) (db : AuthDb ι) :
    RefreshPc → RefreshPc → AuthDb ι → Prop
  /-- the call is over, without success -/
  | refuses {pc : RefreshPc} {result : TokenRefreshResult} {db' : AuthDb ι}
      (hresult : result.isSuccess = false) (hsame : db'.reuseHandled = db.reuseHandled) :
      RefreshMoves m call i db pc (.done result) db'
  | serves {db' : AuthDb ι} (hsame : db'.reuseHandled = db.reuseHandled) :
      RefreshMoves m call i db .other .other db'
  | findsToken (token : RefreshTokenEntity) (now : TimePoint)
      (hfind : db.tokens.findBy (m.sha256Hex call.refreshTokenSecret) = some token) :
      RefreshMoves m call i db .start (.findDevice token now) db
  | suspects : RefreshMoves m call i db .start .reuseFind db
  | findsDevice (token : RefreshTokenEntity) (now : TimePoint) (device : DeviceEntity) :
      RefreshMoves m call i db (.findDevice token now) (.findSession token now device) db
  | findsSession (token : RefreshTokenEntity) (now : TimePoint) (device : DeviceEntity) (r : Rotation)
      (htoken : r.token = token) (hnew : r.newToken.sessionId = token.sessionId)
      (hsession : db.sessions.committed token.sessionId = some r.session)
      (hactive : r.session.sessionStatus = .active) :
      RefreshMoves m call i db (.findSession token now device) (.lockOld r) db
  | locks (r : Rotation) (rotatedAt : TimePoint) (old : RefreshTokenEntity) (db' : AuthDb ι)
      (hview : db.tokens.rows.view i r.token.refreshTokenId = some old)
      (hactive : old.tokenStatus = .active)
      (hheld : db'.tokens.rows.held r.token.refreshTokenId = some (i, old))
      (hcommitted : db'.tokens.rows.committed = db.tokens.rows.committed)
      (hsame : db'.reuseHandled = db.reuseHandled) :
      RefreshMoves m call i db (.lockOld r) (.insertNew r rotatedAt) db'
  | inserts (r : Rotation) (rotatedAt : TimePoint) (db' : AuthDb ι)
      (hheld : ∀ k t, db.tokens.rows.held k = some (i, t) → db'.tokens.rows.held k = some (i, t))
      (hcommitted : db'.tokens.rows.committed = db.tokens.rows.committed)
      (hsame : db'.reuseHandled = db.reuseHandled) :
      RefreshMoves m call i db (.insertNew r rotatedAt) (.markRotated r rotatedAt) db'
  | marks (r : Rotation) (rotatedAt : TimePoint) (t : RefreshTokenEntity) (db' : AuthDb ι)
      (hheld : db'.tokens.rows.held r.token.refreshTokenId = some (i, t))
      (hrotated : t.tokenStatus = .rotated)
      (hcommitted : db'.tokens.rows.committed = db.tokens.rows.committed)
      (hsame : db'.reuseHandled = db.reuseHandled) :
      RefreshMoves m call i db (.markRotated r rotatedAt) (.commitRotation r) db'
  | commits (r : Rotation) :
      RefreshMoves m call i db (.commitRotation r) (.touchSession r) (db.commit i)
  | touches (r : Rotation) {db' : AuthDb ι} (hsame : db'.reuseHandled = db.reuseHandled) :
      RefreshMoves m call i db (.touchSession r) (.authenticateDevice r) db'
  | succeeds (r : Rotation) (pair : TokenPair) {db' : AuthDb ι}
      (hsame : db'.reuseHandled = db.reuseHandled) :
      RefreshMoves m call i db (.authenticateDevice r)
        (.done (.success pair r.session.sessionId)) db'
  | reuseFinds (token : RefreshTokenEntity) (now : TimePoint)
      (hfind : db.tokens.findBy (m.sha256Hex call.refreshTokenSecret) = some token) :
      RefreshMoves m call i db .reuseFind (.reuseSession token now) db
  | reuseRevokes (token : RefreshTokenEntity) (now : TimePoint) (db' : AuthDb ι)
      (hheld : ∀ e, db.sessions.view i token.sessionId = some e →
        db'.sessions.held token.sessionId = some (i, e.revoke now))
      (hsame : db'.reuseHandled = db.reuseHandled) :
      RefreshMoves m call i db (.reuseSession token now) (.reuseScan token now) db'
  | reuseScans (token : RefreshTokenEntity) (now : TimePoint) (left : List Uuid) :
      RefreshMoves m call i db (.reuseScan token now) (.reuseSiblings token now left) db
  | reuseSibling (token : RefreshTokenEntity) (now : TimePoint) (id : Uuid) (left : List Uuid)
      {db' : AuthDb ι} (hsessions : db'.sessions = db.sessions)
      (hsame : db'.reuseHandled = db.reuseHandled) :
      RefreshMoves m call i db (.reuseSiblings token now (id :: left))
        (.reuseSiblings token now left) db'
  | reuseCommits (token : RefreshTokenEntity) (now : TimePoint) {result : TokenRefreshResult}
      (hresult : result.isSuccess = false) :
      RefreshMoves m call i db (.reuseSiblings token now []) (.done result)
        { db.commit i with reuseHandled := token.sessionId :: db.reuseHandled }

open TokenRefreshResult

theorem refusal_isSuccess (status : TokenRefreshStatus) (message : String) :
    (TokenRefreshResult.refusal status message).isSuccess = false := by
  simp [isSuccess, refusal]

theorem exception_isSuccess (e : AuthException) : e.result.isSuccess = false := by
  cases e <;> exact refusal_isSuccess _ _

def Moved (m : TokenManager) (call : RefreshCall) (i : ι) (pc : RefreshPc) (db : AuthDb ι)
    (r : RefreshPc × AuthDb ι) : Prop :=
  Acted i db r.2 ∧ RefreshMoves m call i db pc r.1 r.2

section Moves

variable {m : TokenManager} {call : RefreshCall} {i : ι} {db : AuthDb ι}

theorem moved_throw (pc : RefreshPc) (e : AuthException) : Moved m call i pc db (db.throw i e) :=
  ⟨.rollback i db, .refuses (exception_isSuccess e) rfl⟩

theorem moved_compromised (pc : RefreshPc) : Moved m call i pc db (compromised, db.rollback i) :=
  ⟨.rollback i db, .refuses (refusal_isSuccess _ _) rfl⟩

variable {r : Rotation} {env : RefreshEnv} {x : RefreshPc × AuthDb ι} {token : RefreshTokenEntity}

theorem moved_lockOld (hdb : db.Sound)
    (h : lockOldMove i r env db = some x) : Moved m call i (.lockOld r) db x := by
  unfold lockOldMove at h
  split at h
  · cases h
    exact moved_throw _ _
  obtain ⟨⟨found, tokens⟩, hselect, rfl⟩ := map_eq_some_iff.mp h
  have hrows := selectForUpdate_rows hselect
  have hacts := selectForUpdate_acts hdb.tokens hrows
  have hthrow : ∀ e, Moved m call i (.lockOld r) db
      (AuthDb.throw { db with tokens := tokens } i e) := fun e =>
    ⟨.of_tokens_rollback hacts, .refuses (exception_isSuccess e) rfl⟩
  cases found with
  | none => exact hthrow _
  | some old =>
    simp only
    split
    · exact hthrow _
    split
    · exact hthrow _
    rename_i hactive _
    obtain ⟨hview, hheld, hcommitted⟩ := selectForUpdate_some hrows
    exact ⟨.of_tokens hacts, .locks r env.now old _ hview (not_not.mp hactive) hheld hcommitted rfl⟩

variable {rotatedAt : TimePoint}

theorem moved_insertNew (hdb : db.Sound)
    (h : insertNewMove i r rotatedAt env db = some x) :
    Moved m call i (.insertNew r rotatedAt) db x := by
  unfold insertNewMove at h
  split at h
  · cases h
    exact moved_throw _ _
  split at h
  next href =>
    obtain ⟨o, hinsert, rfl⟩ := map_eq_some_iff.mp h
    cases o with
    | none => exact moved_throw _ _
    | some tokens =>
      have hrows := insert_rows hinsert
      obtain ⟨hheld, hcommitted⟩ := insert_some hrows
      exact ⟨.of_tokens (insert_acts hdb.tokens ⟨rfl, db.stored_of_references href⟩ hrows),
        .inserts r rotatedAt _ hheld hcommitted rfl⟩
  · cases h
    exact moved_throw _ _

theorem moved_markRotated (hdb : db.Sound)
    (h : markRotatedMove i r rotatedAt env db = some x) :
    Moved m call i (.markRotated r rotatedAt) db x := by
  unfold markRotatedMove at h
  split at h
  · cases h
    exact moved_throw _ _
  obtain ⟨⟨affected, tokens⟩, hupdate, rfl⟩ := map_eq_some_iff.mp h
  have hrows := update_rows hupdate
  have hacts := update_acts hdb.tokens
    (fun t ht _ => rotate_keeps _ rotatedAt r.newToken.refreshTokenId _ t ht) hrows
  cases affected with
  | false => exact ⟨.of_tokens_rollback hacts, .refuses (exception_isSuccess _) rfl⟩
  | true =>
    obtain ⟨t, -, hheld, hcommitted⟩ := update_true hrows
    exact ⟨.of_tokens hacts, .marks r rotatedAt _ _ hheld rfl hcommitted rfl⟩

theorem moved_commitRotation (r : Rotation) (env : RefreshEnv) :
    Moved m call i (.commitRotation r) db (commitRotationMove i r env db) := by
  have hfail : ∀ what, Moved m call i (.commitRotation r) db
      (.done (AuthException.other what).result,
        if env.inDoubt then db.commit i else db.rollback i) := by
    intro what
    split
    · exact ⟨.commit i db, .refuses (exception_isSuccess _) rfl⟩
    · exact ⟨.rollback i db, .refuses (exception_isSuccess _) rfl⟩
  unfold commitRotationMove
  split
  · exact hfail _
  · exact hfail _
  · exact ⟨.commit i db, .commits r⟩

theorem moved_touchSession (hdb : db.Sound) (h : touchSessionMove i r env db = some x) :
    Moved m call i (.touchSession r) db x := by
  unfold touchSessionMove at h
  split at h
  · cases h
    exact moved_throw _ _
  obtain ⟨⟨affected, sessions⟩, hupdate, rfl⟩ := map_eq_some_iff.mp h
  have hacts := update_acts hdb.sessions
    (fun e he _ => sessionUpdate_keeps .touch r.now _ e he) hupdate
  exact ⟨.of_sessions (hacts.trans (.commit _)), .touches r rfl⟩

open TokenManager

theorem moved_authenticateDevice (h : m.authenticateDeviceMove call i r env db = some x) :
    Moved m call i (.authenticateDevice r) db x := by
  unfold authenticateDeviceMove at h
  split at h
  · cases h
    exact moved_throw _ _
  obtain ⟨⟨affected, devices⟩, -, rfl⟩ := map_eq_some_iff.mp h
  cases affected with
  | false => exact moved_throw _ _
  | true => exact ⟨⟨.refl _, .refl _⟩, .succeeds r _ rfl⟩

theorem moved_reuseFind (env : RefreshEnv) :
    Moved m call i .reuseFind db (m.reuseFindMove call i env db) := by
  unfold reuseFindMove
  split
  · exact moved_compromised _
  · exact moved_compromised _
  rename_i token _ hfind
  split
  · exact moved_compromised _
  · exact ⟨.refl i db, .reuseFinds token env.now hfind⟩

theorem moved_reuseSession (hdb : db.Sound) (h : reuseSessionMove i token now env db = some x) :
    Moved m call i (.reuseSession token now) db x := by
  unfold reuseSessionMove at h
  split at h
  · cases h
    exact moved_compromised _
  obtain ⟨⟨affected, sessions⟩, hupdate, rfl⟩ := map_eq_some_iff.mp h
  have hacts := update_acts hdb.sessions
    (fun e he _ => sessionUpdate_keeps .revoke now _ e he) hupdate
  refine ⟨.of_sessions hacts, .reuseRevokes token now _ (fun e hview => ?_) rfl⟩
  exact update_all hview hupdate

theorem moved_reuseSiblings (hdb : db.Sound) {left : List Uuid}
    (h : reuseSiblingsMove i token now env db left = some x) :
    Moved m call i (.reuseSiblings token now left) db x := by
  cases left with
  | cons id left =>
    simp only [reuseSiblingsMove] at h
    split at h
    · cases h
      exact moved_compromised _
    obtain ⟨⟨affected, tokens⟩, hupdate, rfl⟩ := map_eq_some_iff.mp h
    have hacts := update_acts hdb.tokens (fun t ht _ => revoke_keeps _ now _ t ht)
      (update_rows hupdate)
    exact ⟨.of_tokens hacts, .reuseSibling token now id left rfl rfl⟩
  | nil =>
    simp only [reuseSiblingsMove] at h
    split at h
    · cases h
      exact moved_compromised _
    cases h
    exact ⟨⟨.commit _, .commit _⟩, .reuseCommits token now (refusal_isSuccess _ _)⟩

theorem moved_refuse (pc : RefreshPc) (status : TokenRefreshStatus) (message : String) :
    Moved m call i pc db (.refuse status message, db) :=
  ⟨.refl i db, .refuses (refusal_isSuccess status message) rfl⟩

theorem moved_checkToken
    (hfind : db.tokens.findBy (m.sha256Hex call.refreshTokenSecret) = some token) (now : TimePoint) :
    Moved m call i .start db (m.checkToken call now token, db) := by
  unfold checkToken
  split
  · split
    · exact moved_refuse _ _ _
    · exact ⟨.refl i db, .suspects⟩
  · exact moved_refuse _ _ _
  · exact moved_refuse _ _ _
  split
  · exact moved_refuse _ _ _
  split
  · exact moved_refuse _ _ _
  · exact ⟨.refl i db, .findsToken token now hfind⟩

theorem moved_checkSession (token : RefreshTokenEntity) (now : TimePoint) (device : DeviceEntity)
    (env : RefreshEnv) :
    Moved m call i (.findSession token now device) db
      (m.checkSession call token now device env (db.sessions.committed token.sessionId), db) := by
  cases hsession : db.sessions.committed token.sessionId with
  | none => exact moved_refuse _ _ _
  | some session =>
    unfold checkSession
    simp only
    split
    · exact moved_refuse _ _ _
    rename_i hactive
    split
    · exact moved_refuse _ _ _
    split
    · exact moved_refuse _ _ _
    split
    · exact moved_refuse _ _ _
    · exact ⟨.refl i db, .findsSession token now device _ rfl rfl hsession (not_not.mp hactive)⟩

theorem next_moved (hdb : db.Sound) {calls : ι → RefreshCall} {pc : RefreshPc}
    (h : m.next calls i pc env db = some x) :
    Moved m (calls i) i pc db x := by
  unfold next at h
  cases pc with
  | other =>
    obtain ⟨db', hexec, rfl⟩ := map_eq_some_iff.mp h
    obtain ⟨hacted, hsame⟩ := exec_acted hdb hexec
    exact ⟨hacted, .serves hsame⟩
  | start =>
    simp only at h
    split at h
    · cases h
      exact moved_refuse _ _ _
    split at h
    · cases h
      exact moved_throw _ _
    split at h
    · cases h
      exact moved_refuse _ _ _
    rename_i token hfind
    cases h
    exact moved_checkToken hfind env.now
  | findDevice token now =>
    simp only at h
    split at h
    · cases h
      exact moved_throw _ _
    cases h
    unfold checkDevice
    split
    · exact moved_refuse _ _ _
    split
    · exact moved_refuse _ _ _
    · exact ⟨.refl i db, .findsDevice token now _⟩
  | findSession token now device =>
    simp only at h
    split at h
    · cases h
      exact moved_throw _ _
    cases h
    exact moved_checkSession token now device env
  | lockOld r => exact moved_lockOld hdb h
  | insertNew r rotatedAt => exact moved_insertNew hdb h
  | markRotated r rotatedAt => exact moved_markRotated hdb h
  | commitRotation r =>
    cases h
    exact moved_commitRotation r env
  | touchSession r => exact moved_touchSession hdb h
  | authenticateDevice r => exact moved_authenticateDevice h
  | reuseFind =>
    cases h
    exact moved_reuseFind env
  | reuseSession token now => exact moved_reuseSession hdb h
  | reuseScan token now =>
    simp only at h
    split at h
    · cases h
      exact moved_compromised _
    cases h
    exact ⟨.refl i db, .reuseScans token now _⟩
  | reuseSiblings token now left => exact moved_reuseSiblings hdb h
  | done result => cases h

end Moves

end SecureCloud.Auth
