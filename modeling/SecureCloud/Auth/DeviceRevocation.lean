import SecureCloud.Auth.Prekeys
import SecureCloud.Auth.RefreshToken

/-
# Auth.DeviceRevocation — `revoke_device` and what it leaves behind

`DeviceManager::revoke_device` marks the device, then revokes its sessions, then its keys: three
transactions. The second may fail unnoticed, the third may fail and leave the device marked, and a marked
device is never swept again. `establish_session` and `rotate_signed_prekey` check the device in one
transaction and write in another, so a session or a key may come in after the sweep. And nothing in the
chain is about refresh tokens.

An `UPDATE` over many rows is two moves, the scan and the write: what is committed in between is not
swept.
-/

namespace SecureCloud.Auth

open Lib Lib.Interleaving Function SessionStore List Option

/-! ## Calls, results and shared state -/

structure RevokeDeviceCommand where
  userId : Uuid
  deviceId : Uuid
  reason : String
  callerAuthLevel : AuthenticationLevel

structure DeviceRevocationResult where
  success : Bool
  deviceId : Uuid
  isPermissionDenied : Bool := false
  isNotFound : Bool := false
  errorMessage : String := ""

structure RotateCommand where
  callerUserId : Uuid
  callerDeviceId : Uuid
  targetDeviceId : Uuid
  newSignedPrekey : KeyBytes
  newSignature : List UInt8

structure DeviceWorld where
  store : SessionStore
  tokens : Uuid → Option RefreshTokenEntity
  keys : PublicKeyTable

structure DeviceInput where
  now : TimePoint
  outcome : TransactionOutcome := .committed
  fresh : Uuid := .nil

/-- Where a call stands. The locals of a sweep are its clock reading and its snapshot. -/
inductive DevicePc
  | revokeCalled (cmd : RevokeDeviceCommand)
  | revokeMarking (cmd : RevokeDeviceCommand)
  | revokeScanningSessions (device : Uuid) (now : TimePoint)
  | revokeSweepingSessions (device : Uuid) (now : TimePoint) (snapshot : Uuid → Bool)
  | revokeScanningKeys (device : Uuid) (now : TimePoint)
  | revokeSweepingKeys (device : Uuid) (now : TimePoint) (snapshot : Uuid → Bool)
  | revokeReturned (result : DeviceRevocationResult)
  | establishCalled (userId deviceId : Uuid)
  | establishInserting (userId deviceId : Uuid) (device : DeviceEntity)
  | establishTouching (session : SessionEntity) (device : DeviceEntity)
  | establishReturned (result : SessionEstablishmentResult)
  | rotateCalled (cmd : RotateCommand)
  | rotateVerifying (cmd : RotateCommand)
  | rotateSearching (cmd : RotateCommand)
  | rotateReplacing (cmd : RotateCommand) (current : Option Uuid)
  | rotateReturned (result : Except PrekeyError Unit)
  | threw (what : String)

/-! ## Statements -/

variable (s : SessionStore) (device : Uuid)

/-- `kRevokeDeviceSql`. -/
def SessionStore.revokeDevice : Except String SessionStore :=
  match s.devices device with
  | none => .error ("Device not found: " ++ device.toString)
  | some e => .ok { s with
      devices := update s.devices device (some { e with deviceStatus := .revoked }) }

/-- The rows an `UPDATE` on the sessions of a device finds. -/
def SessionStore.activeSessions (id : Uuid) : Bool :=
  (s.sessions id).any fun e => e.deviceId = device ∧ e.sessionStatus = .active

/-- `kRevokeAllDeviceSessionsAtomicSql`, on the rows of the snapshot that still qualify. -/
def SessionStore.revokeAllDeviceSessionsAtomic (now : TimePoint)
    (snapshot : Uuid → Bool) : SessionStore :=
  { s with sessions := fun id => (s.sessions id).map fun e =>
      if snapshot id ∧ e.deviceId = device ∧ e.sessionStatus = .active then
        { e with sessionStatus := .revoked, revokedAt := some now }
      else e }

/-- `update_last_authenticated`, with its exceptions. -/
def SessionStore.touchDevice (now : TimePoint) : Except String SessionStore :=
  match s.devices device with
  | none => .error ("Device not found: " ++ device.toString)
  | some e =>
    if e.deviceStatus = .revoked then
      .error ("Cannot update authentication on a revoked device: " ++ device.toString)
    else .ok (s.updateLastAuthenticated device now)

/-- The rows an `UPDATE` on the keys of a device finds. -/
def PublicKeyTable.activeKeyIds (t : PublicKeyTable) (device : Uuid) (id : Uuid) : Bool :=
  t.rows.any fun r => r.keyId = id ∧ r.deviceId = device ∧ r.keyStatus = .active

/-- `kRevokeAllDeviceKeysSql`, on the rows of the snapshot that still qualify. -/
def PublicKeyTable.revokeAllDeviceKeys (t : PublicKeyTable) (device : Uuid) (now : TimePoint)
    (snapshot : Uuid → Bool) : PublicKeyTable :=
  t.update (fun r => snapshot r.keyId ∧ r.deviceId = device ∧ r.keyStatus = .active)
    (fun r => { r with keyStatus := .revoked, revokedAt := some now }) fun _ => rfl

/-! ## The calls as processes -/

/-- Steps 1 to 4 of `revoke_device`: the result, or the revocation goes on. -/
def RevokeDeviceCommand.check (cmd : RevokeDeviceCommand) (device : Option DeviceEntity) :
    Option DeviceRevocationResult :=
  match device with
  | none => some { success := false, deviceId := cmd.deviceId, isNotFound := true
                   errorMessage := "Device not found" }
  | some device =>
    if device.userId ≠ cmd.userId then
      some { success := false, deviceId := cmd.deviceId, isPermissionDenied := true
             errorMessage := "Device belongs to another user" }
    else if device.deviceStatus = .revoked then some { success := true, deviceId := cmd.deviceId }
    else none

def establishCheck (userId deviceId : Uuid) (device : Option DeviceEntity) :
    SessionEstablishmentResult ⊕ DeviceEntity :=
  match device with
  | none => .inl (.deviceNotFound ("Device not found: " ++ deviceId.toString))
  | some device =>
    if device.userId ≠ userId then
      .inl (.deviceNotFound ("Device does not belong to authenticated user: " ++ deviceId.toString))
    else if device.deviceStatus ≠ .active then
      .inl (.deviceRevoked
        ("Device is not active (status: " ++ device.deviceStatus.toString ++ ")"))
    else .inr device

/-- The checks of `rotate_signed_prekey` before the identity key is read. -/
def RotateCommand.check (cmd : RotateCommand) (rawPublicKey : KeyBytes → Bool)
    (device : Option DeviceEntity) : Option PrekeyError :=
  match ownDeviceCheck cmd.callerUserId cmd.callerDeviceId cmd.targetDeviceId
      "Caller can only rotate prekeys for their own device" device with
  | some error => some error
  | none =>
    match validateSinglePrekey rawPublicKey cmd.newSignedPrekey with
    | some error => some ⟨.invalidArgument, "Invalid signed prekey: " ++ error⟩
    | none =>
      if cmd.newSignature.length ≠ 64 then
        some ⟨.invalidArgument, "Signed prekey signature must be exactly 64 bytes"⟩
      else none

def RotateCommand.signedPrekey (cmd : RotateCommand) (keyId : Uuid) (now : TimePoint) :
    DevicePublicKeyEntity where
  keyId := keyId
  deviceId := cmd.targetDeviceId
  keyType := .signedPrekey
  publicKey := cmd.newSignedPrekey
  createdAt := now
  signature := some cmd.newSignature

def newSession (sessionTtl : TimePoint) (userId deviceId freshId : Uuid) (now : TimePoint) :
    SessionEntity where
  sessionId := freshId
  userId := userId
  deviceId := deviceId
  sessionStatus := .active
  authenticationLevel := .primaryOnly
  createdAt := now
  expiresAt := now + sessionTtl
  revokedAt := none
  lastUsedAt := now

variable (w : DeviceWorld)

def DeviceWorld.withStore (store : Except String SessionStore) : Except String DeviceWorld :=
  store.map fun store => { w with store := store }

def DeviceWorld.withKeys (keys : Except String PublicKeyTable) : Except String DeviceWorld :=
  keys.map fun keys => { w with keys := keys }

structure DeviceService where
  prekeys : PrekeyService
  sessionTtl : TimePoint

/-- One move of a call. `none`: it has returned. -/
def DeviceService.next (svc : DeviceService) (pc : DevicePc) (x : DeviceInput) (w : DeviceWorld) :
    Option (DevicePc × DeviceWorld) :=
  match pc with
  | .revokeCalled cmd =>
    if cmd.callerAuthLevel ≠ .mfaVerified then
      some (.revokeReturned
        { success := false, deviceId := cmd.deviceId, isPermissionDenied := true
          errorMessage := "Device revocation requires multi-factor authentication (MFA_VERIFIED)" }, w)
    else some <|
      query x.outcome w .threw
        (match cmd.check (w.store.devices cmd.deviceId) with
          | some result => .revokeReturned result
          | none => .revokeMarking cmd)
  | .revokeMarking cmd => some <|
    transact x.outcome w (w.withStore (w.store.revokeDevice cmd.deviceId)) .threw
      (.revokeScanningSessions cmd.deviceId x.now)
  | .revokeScanningSessions device now =>
    some (.revokeSweepingSessions device now (w.store.activeSessions device), w)
  | .revokeSweepingSessions device now snapshot => some <|
    -- `revoke_all_device_sessions` returns an error for an exception, and nobody looks at it
    transact x.outcome w
      (w.withStore (.ok (w.store.revokeAllDeviceSessionsAtomic device now snapshot)))
      (fun _ => .revokeScanningKeys device now) (.revokeScanningKeys device now)
  | .revokeScanningKeys device now =>
    some (.revokeSweepingKeys device now (w.keys.activeKeyIds device), w)
  | .revokeSweepingKeys device now snapshot => some <|
    transact x.outcome w (w.withKeys (.ok (w.keys.revokeAllDeviceKeys device now snapshot))) .threw
      (.revokeReturned { success := true, deviceId := device })
  | .revokeReturned _ => none
  | .establishCalled userId deviceId => some <|
    query x.outcome w
      (fun what => .establishReturned (.internalError ("Database error during device lookup: " ++ what)))
      (match establishCheck userId deviceId (w.store.devices deviceId) with
        | .inl result => .establishReturned result
        | .inr device => .establishInserting userId deviceId device)
  | .establishInserting userId deviceId device =>
    let session := newSession svc.sessionTtl userId deviceId x.fresh x.now
    some <| transact x.outcome w
      (w.withStore (match w.store.createSession session with
        | none => .error ("Session already exists: " ++ x.fresh.toString)
        | some store => .ok store))
      (fun what => .establishReturned
        (.internalError ("Database error during session persistence: " ++ what)))
      (.establishTouching session device)
  | .establishTouching session device => some <|
    transact x.outcome w (w.withStore (w.store.touchDevice session.deviceId session.createdAt))
      (fun what => .establishReturned (.internalError
        ("Database error updating device last_authenticated timestamp: " ++ what)))
      (.establishReturned
        (.success session { device with lastAuthenticatedAt := session.createdAt }))
  | .establishReturned _ => none
  | .rotateCalled cmd => some <|
    query x.outcome w
      (fun what => .rotateReturned (.error (.internal "Repository error looking up device: " what)))
      (match cmd.check svc.prekeys.rawPublicKey (w.store.devices cmd.targetDeviceId) with
        | some error => .rotateReturned (.error error)
        | none => .rotateVerifying cmd)
  | .rotateVerifying cmd => some <|
    query x.outcome w
      (fun what => .rotateReturned
        (.error (.internal "Repository error looking up identity key: " what)))
      (match w.keys.findActiveIdentityKey cmd.targetDeviceId with
        | none => .rotateReturned
          (.error ⟨.internalError, "Active identity key not found for device"⟩)
        | some identity =>
          match svc.prekeys.verifySignature identity.publicKey cmd.newSignedPrekey
              cmd.newSignature with
          | some error => .rotateReturned (.error
              ⟨.invalidArgument, "Signed prekey signature verification failed: " ++ error⟩)
          | none => .rotateSearching cmd)
  | .rotateSearching cmd => some <|
    query x.outcome w
      (fun what => .rotateReturned (.error (.internal "Repository error storing signed prekey: " what)))
      (.rotateReplacing cmd ((w.keys.findActiveSignedPrekey cmd.targetDeviceId).map (·.keyId)))
  | .rotateReplacing cmd current => some <|
    transact x.outcome w
      (w.withKeys (w.keys.replaceOrStore current (cmd.signedPrekey x.fresh x.now)))
      (fun what => .rotateReturned (.error (.internal "Repository error storing signed prekey: " what)))
      (.rotateReturned (.ok ()))
  | .rotateReturned _ => none
  | .threw _ => none

/-! ## What is active, and what is about to be swept -/

def DeviceWorld.Revoked (device : Uuid) : Prop :=
  ∃ e, w.store.devices device = some e ∧ e.deviceStatus = .revoked

def DeviceWorld.ActiveSession (device id : Uuid) : Prop :=
  w.store.activeSessions device id = true

def DeviceWorld.ActiveKey (device id : Uuid) : Prop :=
  w.keys.activeKeyIds device id = true

def DeviceWorld.ActiveToken (device id : Uuid) : Prop :=
  ∃ token, w.tokens id = some token ∧ token.deviceId = device ∧ token.tokenStatus = .active

/-- Nothing of the device is active. -/
def DeviceWorld.Clean (device : Uuid) : Prop :=
  ∀ id, ¬ w.ActiveSession device id ∧ ¬ w.ActiveToken device id ∧ ¬ w.ActiveKey device id

def DevicePc.coversSession (device id : Uuid) : DevicePc → Bool
  | .revokeScanningSessions d _ => d = device
  | .revokeSweepingSessions d _ snapshot => d = device ∧ snapshot id
  | _ => false

def DevicePc.coversKey (device id : Uuid) : DevicePc → Bool
  | .revokeScanningSessions d _ => d = device
  | .revokeSweepingSessions d _ _ => d = device
  | .revokeScanningKeys d _ => d = device
  | .revokeSweepingKeys d _ snapshot => d = device ∧ snapshot id
  | _ => false

def DevicePc.marked : DevicePc → Bool
  | .revokeScanningSessions d _ => d = device
  | .revokeSweepingSessions d _ _ => d = device
  | .revokeScanningKeys d _ => d = device
  | .revokeSweepingKeys d _ _ => d = device
  | .revokeReturned result => result.success ∧ result.deviceId = device
  | _ => false

def DevicePc.called : DevicePc → Bool
  | .revokeCalled _ | .establishCalled _ _ | .rotateCalled _ => true
  | _ => false

def DevicePc.returned : DevicePc → Bool
  | .revokeReturned _ | .establishReturned _ | .rotateReturned _ | .threw _ => true
  | _ => false

/-- What has to be excluded: a device marked with active refresh tokens or without the call learning
of it, a failing sweep, a session or a key that comes in for a marked device. -/
def InOrder (pc : DevicePc) (x : DeviceInput) (w : DeviceWorld) : Prop :=
  match pc with
  | .revokeMarking cmd =>
    (∀ what, x.outcome ≠ .lost what) ∧ ∀ id, ¬ w.ActiveToken cmd.deviceId id
  | .revokeSweepingSessions _ _ _ => x.outcome.takesEffect = true
  | .revokeSweepingKeys _ _ _ => x.outcome.takesEffect = true
  | .establishInserting _ deviceId _ => ¬ w.Revoked deviceId
  | .rotateReplacing cmd _ => ¬ w.Revoked cmd.targetDeviceId
  | _ => True

/-- What a move in order does. A device that it marks is covered by the mover from then on; of a device
marked before, only what the mover covers, or did not cover and was active already, is active
afterwards. -/
structure Orderly (pc : DevicePc) (w : DeviceWorld) (pc' : DevicePc) (w' : DeviceWorld) : Prop where
  tokens : w'.tokens = w.tokens
  revoked : ∀ device, w.Revoked device → w'.Revoked device
  newly : ∀ device, w'.Revoked device → w.Revoked device ∨
    ∀ id, ¬ w.ActiveToken device id ∧ pc'.coversSession device id = true ∧
      pc'.coversKey device id = true
  sessions : ∀ device id, w.Revoked device → w'.ActiveSession device id →
    pc'.coversSession device id = true ∨
      (w.ActiveSession device id ∧ pc.coversSession device id = false)
  keys : ∀ device id, w.Revoked device → w'.ActiveKey device id →
    pc'.coversKey device id = true ∨ (w.ActiveKey device id ∧ pc.coversKey device id = false)
  marks : ∀ device, (∀ d, pc.marked d = true → w.Revoked d) → pc'.marked device = true →
    w'.Revoked device

section
variable {pc pc' : DevicePc} {w w' : DeviceWorld}

structure Harmless (w w' : DeviceWorld) : Prop where
  tokens : w'.tokens = w.tokens
  devices : ∀ device, w'.Revoked device ↔ w.Revoked device
  sessions : ∀ device id, w.Revoked device → w'.ActiveSession device id → w.ActiveSession device id
  keys : ∀ device id, w.Revoked device → w'.ActiveKey device id → w.ActiveKey device id

def DevicePc.Idle (pc : DevicePc) : Prop :=
  ∀ device id, pc.coversSession device id = false ∧ pc.coversKey device id = false

theorem Harmless.refl (w : DeviceWorld) : Harmless w w :=
  ⟨rfl, fun _ => Iff.rfl, fun _ _ _ h => h, fun _ _ _ h => h⟩

theorem Orderly.of_harmless (h : Harmless w w') (hidle : pc.Idle)
    (hmarked : ∀ device, pc'.marked device = true → w'.Revoked device) : Orderly pc w pc' w' where
  tokens := h.tokens
  revoked := fun device hrevoked => (h.devices device).mpr hrevoked
  newly := fun device hrevoked => .inl ((h.devices device).mp hrevoked)
  sessions := fun device id hrevoked hactive =>
    .inr ⟨h.sessions device id hrevoked hactive, (hidle device id).1⟩
  keys := fun device id hrevoked hactive =>
    .inr ⟨h.keys device id hrevoked hactive, (hidle device id).2⟩
  marks := fun device _ hnow => hmarked device hnow

theorem Orderly.stay (hw : w' = w) (hidle : pc.Idle)
    (hmarked : ∀ device, pc'.marked device = true → w.Revoked device) : Orderly pc w pc' w' := by
  subst hw
  exact .of_harmless (.refl _) hidle hmarked

variable {outcome : TransactionOutcome} {fail : String → DevicePc} {done : DevicePc}

theorem Orderly.of_transact {attempt : Except String DeviceWorld}
    (h : some (transact outcome w attempt fail done) = some (pc', w'))
    (heffect : attempt = .ok w' → Harmless w w') (hidle : pc.Idle := by exact fun _ _ => ⟨rfl, rfl⟩)
    (hfail : ∀ what device, (fail what).marked device = false := by exact fun _ _ => rfl)
    (hdone : ∀ device, done.marked device = false := by exact fun _ => rfl) :
    Orderly pc w pc' w' := by
  rcases transact_eq h with ⟨hw, what, rfl, -⟩ | ⟨hw, ⟨-, rfl⟩ | ⟨what, -, rfl⟩⟩
  · exact .stay hw hidle (by simp [hfail])
  · exact .of_harmless (heffect hw) hidle (by simp [hdone])
  · exact .of_harmless (heffect hw) hidle (by simp [hfail])

theorem Orderly.of_query (h : some (query outcome w fail done) = some (pc', w'))
    (hdone : ∀ device, done.marked device = true → w.Revoked device)
    (hidle : pc.Idle := by exact fun _ _ => ⟨rfl, rfl⟩)
    (hfail : ∀ what device, (fail what).marked device = false := by exact fun _ _ => rfl) :
    Orderly pc w pc' w' := by
  obtain ⟨hw, rfl | ⟨what, rfl⟩⟩ := query_eq h
  · exact .stay hw hidle hdone
  · exact .stay hw hidle (by simp [hfail])

theorem transact_of_takesEffect {after : DeviceWorld}
    (h : some (transact outcome w (.ok after) fail done) = some (pc', w'))
    (heffect : outcome.takesEffect = true) : w' = after ∧ (pc' = done ∨ ∃ what, pc' = fail what) := by
  rcases transact_eq h with ⟨-, what, -, hnone | hnone⟩ | ⟨hw, hpc⟩
  · cases hnone
  · rw [hnone] at heffect
    cases heffect
  · exact ⟨(Except.ok.inj hw).symm, hpc.imp And.right fun ⟨what, _, hpc⟩ => ⟨what, hpc⟩⟩

theorem covered_still {p q : Prop} [Decidable p] (h : q) : decide p = true ∨ (q ∧ decide p = false) := by
  by_cases hp : p
  · exact .inl (decide_eq_true hp)
  · exact .inr ⟨h, decide_eq_false hp⟩

theorem covered_by_scan {device device' id : Uuid} {active : Uuid → Uuid → Bool}
    (h : active device' id = true) : decide (device = device' ∧ active device id = true) = true ∨
      (active device' id = true ∧ decide (device = device') = false) := by
  by_cases hd : device = device'
  · subst hd
    exact .inl (decide_eq_true ⟨rfl, h⟩)
  · exact .inr ⟨h, decide_eq_false hd⟩

end

/-! ## What the statements do -/

section
variable {s s' : SessionStore} {t t' : PublicKeyTable} {device device' id : Uuid} {now : TimePoint}
  {snapshot : Uuid → Bool}

theorem activeSessions_iff : s.activeSessions device id = true ↔
    ∃ e, s.sessions id = some e ∧ e.deviceId = device ∧ e.sessionStatus = .active := by
  simp [activeSessions, Option.any_eq_true]

theorem activeKeyIds_iff : t.activeKeyIds device id = true ↔
    ∃ r ∈ t.rows, r.keyId = id ∧ r.deviceId = device ∧ r.keyStatus = .active := by
  simp [PublicKeyTable.activeKeyIds]

theorem revokeDevice_sessions (h : s.revokeDevice device = .ok s') : s'.sessions = s.sessions := by
  unfold revokeDevice at h
  split at h
  · cases h
  · rw [← Except.ok.inj h]

theorem revokeDevice_devices (h : s.revokeDevice device = .ok s') :
    (∃ e, s'.devices device' = some e ∧ e.deviceStatus = .revoked) ↔
      device' = device ∨ ∃ e, s.devices device' = some e ∧ e.deviceStatus = .revoked := by
  unfold revokeDevice at h
  split at h
  · cases h
  rename_i e he
  rw [← Except.ok.inj h]
  dsimp only
  by_cases hd : device' = device
  · rw [hd, update_self]
    simp
  rw [update_of_ne hd]
  simp [hd]

theorem touchDevice_sessions (h : s.touchDevice device now = .ok s') : s'.sessions = s.sessions := by
  unfold touchDevice at h
  split at h
  · cases h
  split_ifs at h
  rw [← Except.ok.inj h]
  rfl

theorem touchDevice_devices (h : s.touchDevice device now = .ok s') :
    (∃ e, s'.devices device' = some e ∧ e.deviceStatus = .revoked) ↔
      ∃ e, s.devices device' = some e ∧ e.deviceStatus = .revoked := by
  unfold touchDevice at h
  split at h
  · cases h
  split_ifs at h
  rw [← Except.ok.inj h]
  dsimp only [updateLastAuthenticated]
  cases s.devices device' with
  | none => simp
  | some e =>
    simp only [map_some, some.injEq, exists_eq_left']
    split_ifs <;> rfl

theorem createSession_activeSessions {e : SessionEntity} (h : s.createSession e = some s')
    (hactive : s'.activeSessions device id = true) :
    s.activeSessions device id = true ∨ device = e.deviceId := by
  unfold createSession at h
  split_ifs at h
  rw [← some.inj h, activeSessions_iff] at hactive
  obtain ⟨e', he', hdevice, hstatus⟩ := hactive
  dsimp only at he'
  by_cases hid : id = e.sessionId
  · rw [hid, update_self] at he'
    right
    rw [← hdevice, some.inj he']
  · rw [update_of_ne hid] at he'
    exact .inl (activeSessions_iff.mpr ⟨e', he', hdevice, hstatus⟩)

theorem createSession_devices {e : SessionEntity} (h : s.createSession e = some s') :
    s'.devices = s.devices := by
  unfold createSession at h
  split_ifs at h
  rw [← some.inj h]

theorem revokeAllDeviceSessions_activeSessions
    (h : (s.revokeAllDeviceSessionsAtomic device now snapshot).activeSessions device' id = true) :
    s.activeSessions device' id = true ∧ ¬ (device = device' ∧ snapshot id = true) := by
  rw [activeSessions_iff] at h
  obtain ⟨e', he', hdevice, hstatus⟩ := h
  obtain ⟨e, he, rfl⟩ := map_eq_some_iff.mp he'
  by_cases hswept : snapshot id = true ∧ e.deviceId = device ∧ e.sessionStatus = .active
  · rw [if_pos hswept] at hstatus
    cases hstatus
  rw [if_neg hswept] at hdevice hstatus
  refine ⟨activeSessions_iff.mpr ⟨e, he, hdevice, hstatus⟩, ?_⟩
  rintro ⟨rfl, hsnap⟩
  exact hswept ⟨hsnap, hdevice, hstatus⟩

theorem revokeAllDeviceKeys_activeKeyIds
    (h : (t.revokeAllDeviceKeys device now snapshot).activeKeyIds device' id = true) :
    t.activeKeyIds device' id = true ∧ ¬ (device = device' ∧ snapshot id = true) := by
  rw [activeKeyIds_iff] at h
  obtain ⟨r', hr', hid, hdevice, hstatus⟩ := h
  obtain ⟨r, hr, rfl⟩ := mem_map.mp hr'
  by_cases hswept : snapshot r.keyId = true ∧ r.deviceId = device ∧ r.keyStatus = .active
  · rw [if_pos (decide_eq_true hswept)] at hstatus
    cases hstatus
  have hkept : ¬ decide (snapshot r.keyId = true ∧ r.deviceId = device ∧
      r.keyStatus = .active) = true := by simpa using hswept
  rw [if_neg hkept] at hid hdevice hstatus
  refine ⟨activeKeyIds_iff.mpr ⟨r, hr, hid, hdevice, hstatus⟩, ?_⟩
  rintro ⟨rfl, hsnap⟩
  exact hswept ⟨hid ▸ hsnap, hdevice, hstatus⟩

theorem PublicKeyTable.Ages.activeKeyIds {key : DevicePublicKeyEntity} (h : t.Ages t' [key])
    (hactive : t'.activeKeyIds device id = true) :
    t.activeKeyIds device id = true ∨ device = key.deviceId := by
  obtain ⟨f, hf, hrows⟩ := h
  obtain ⟨r, hr, hid, hdevice, hstatus⟩ := activeKeyIds_iff.mp hactive
  rw [hrows, mem_append] at hr
  rcases hr with hr | hr
  · obtain ⟨r₀, hr₀, rfl⟩ := mem_map.mp hr
    have hwas : r₀.keyStatus = .active := by
      rcases (hf r₀).keyStatus with hsame | hwas
      · exact hsame.symm.trans hstatus
      · exact hwas
    exact .inl (activeKeyIds_iff.mpr
      ⟨r₀, hr₀, (hf r₀).keyId.symm.trans hid, (hf r₀).deviceId.symm.trans hdevice, hwas⟩)
  · rw [mem_singleton] at hr
    exact .inr (hr ▸ hdevice.symm)

end

/-! ## Every move -/

variable {pc : DevicePc}

open DevicePc DeviceWorld DeviceService

theorem DeviceService.next_orderly {svc : DeviceService} {pc' : DevicePc} {x : DeviceInput}
    {w w' : DeviceWorld} (hin : InOrder pc x w) (h : svc.next pc x w = some (pc', w')) :
    Orderly pc w pc' w' := by
  cases pc with
  | revokeCalled cmd =>
    simp only [next] at h
    split at h
    · cases h
      exact .stay rfl (fun _ _ => ⟨rfl, rfl⟩) (by simp [marked])
    refine .of_query h ?_
    intro device hmarked
    -- `success` is reported here for a device that is marked already
    unfold RevokeDeviceCommand.check at hmarked
    cases hdevice : w.store.devices cmd.deviceId with
    | none => simp [hdevice, marked] at hmarked
    | some e =>
      rw [hdevice] at hmarked
      dsimp only at hmarked
      split_ifs at hmarked with howner hrevoked
      · simp [marked] at hmarked
      · simp only [marked, true_and, decide_eq_true_eq] at hmarked
        exact ⟨e, hmarked ▸ hdevice, hrevoked⟩
      · simp [marked] at hmarked
  | revokeMarking cmd =>
    rcases transact_eq h with ⟨rfl, what, rfl, -⟩ | ⟨hw, hpc⟩
    · exact .stay rfl (fun _ _ => ⟨rfl, rfl⟩) (by simp [marked])
    obtain ⟨s, hs, rfl⟩ := Checks.map_eq_ok.mp hw
    rcases hpc with ⟨-, rfl⟩ | ⟨what, hlost, -⟩
    · refine ⟨rfl, ?_, ?_, ?_, ?_, ?_⟩
      · intro device hrevoked
        exact (revokeDevice_devices hs).mpr (.inr hrevoked)
      · intro device hrevoked
        rcases (revokeDevice_devices hs).mp hrevoked with rfl | hrevoked
        · exact .inr fun id => ⟨hin.2 id, by simp [coversSession],
            by simp [coversKey]⟩
        · exact .inl hrevoked
      · intro device id _ hactive
        refine .inr ⟨?_, rfl⟩
        simpa [DeviceWorld.ActiveSession, activeSessions,
          revokeDevice_sessions hs] using hactive
      · intro device id _ hactive
        exact .inr ⟨hactive, rfl⟩
      intro device _ hmarked
      exact (revokeDevice_devices hs).mpr (.inl (by simpa [marked, eq_comm] using hmarked))
    · exact absurd hlost (hin.1 what)
  | revokeScanningSessions device now =>
    cases h
    exact ⟨rfl, fun _ h => h, fun _ h => .inl h, fun _ _ _ => covered_by_scan,
      fun _ _ _ => covered_still, fun d hmarks hmarked => hmarks d hmarked⟩
  | revokeSweepingSessions device now snapshot =>
    -- a failure of this sweep is logged only: the call goes on either way
    obtain ⟨rfl, rfl | ⟨what, rfl⟩⟩ := transact_of_takesEffect h hin
    all_goals
      refine ⟨rfl, fun _ h => h, fun _ h => .inl h, ?_, fun _ _ _ => covered_still,
        fun d hmarks hmarked => hmarks d hmarked⟩
      intro device' id _ hactive
      obtain ⟨hwas, hkept⟩ := revokeAllDeviceSessions_activeSessions hactive
      exact .inr ⟨hwas, by simpa [coversSession] using hkept⟩
  | revokeScanningKeys device now =>
    cases h
    exact ⟨rfl, fun _ h => h, fun _ h => .inl h, fun _ _ _ hactive => .inr ⟨hactive, rfl⟩,
      fun _ _ _ => covered_by_scan, fun d hmarks hmarked => hmarks d hmarked⟩
  | revokeSweepingKeys device now snapshot =>
    obtain ⟨rfl, hpc⟩ := transact_of_takesEffect h hin
    refine ⟨rfl, fun _ h => h, fun _ h => .inl h, fun _ _ _ hactive => .inr ⟨hactive, rfl⟩, ?_, ?_⟩
    · intro device' id _ hactive
      obtain ⟨hwas, hkept⟩ := revokeAllDeviceKeys_activeKeyIds hactive
      exact .inr ⟨hwas, by simpa [coversKey] using hkept⟩
    intro d hmarks hmarked
    apply hmarks d
    rcases hpc with rfl | ⟨what, rfl⟩
    · simpa [marked] using hmarked
    · cases hmarked
  | revokeReturned | establishReturned | rotateReturned | threw => cases h
  | establishCalled | rotateCalled =>
    refine .of_query h ?_
    intro device hmarked
    split at hmarked <;> cases hmarked
  | establishInserting userId deviceId device =>
    refine .of_transact h ?_
    intro hw
    obtain ⟨s, hs, rfl⟩ := Checks.map_eq_ok.mp hw
    split at hs
    · cases hs
    rename_i store hstore
    cases hs
    refine ⟨rfl, ?_, ?_, fun _ _ _ hactive => hactive⟩
    · intro device'
      rw [DeviceWorld.Revoked, createSession_devices hstore]
      rfl
    intro device' id hrevoked hactive
    rcases createSession_activeSessions hstore hactive with hwas | rfl
    · exact hwas
    · exact absurd hrevoked hin
  | establishTouching session device =>
    refine .of_transact h ?_
    intro hw
    obtain ⟨s, hs, rfl⟩ := Checks.map_eq_ok.mp hw
    refine ⟨rfl, fun device' => touchDevice_devices hs, ?_, fun _ _ _ hactive => hactive⟩
    intro device' id _ hactive
    simpa [DeviceWorld.ActiveSession, activeSessions, touchDevice_sessions hs]
      using hactive
  | rotateVerifying cmd =>
    refine .of_query h ?_
    intro device hmarked
    split at hmarked
    · cases hmarked
    · split at hmarked <;> cases hmarked
  | rotateSearching cmd =>
    exact .of_query h (by simp [marked])
  | rotateReplacing cmd current =>
    refine .of_transact h ?_
    intro hw
    obtain ⟨t, ht, rfl⟩ := Checks.map_eq_ok.mp hw
    refine ⟨rfl, fun _ => Iff.rfl, fun _ _ _ hactive => hactive, ?_⟩
    intro device' id hrevoked hactive
    rcases (PublicKeyTable.replaceOrStore_ages ht).activeKeyIds hactive with hwas | rfl
    · exact hwas
    · exact absurd hrevoked hin

/-! ## Whole runs -/

section
variable {ι : Type*} [DecidableEq ι] {svc : DeviceService}

abbrev DeviceService.system (svc : DeviceService) :
    ι → DevicePc → DeviceInput → DeviceWorld → Option (DevicePc × DeviceWorld) :=
  fun _ => svc.next

/-- What is left of a marked device is about to be swept. -/
structure Swept (c : Config ι DevicePc DeviceWorld) : Prop where
  tokens : ∀ device id, c.shared.Revoked device → ¬ c.shared.ActiveToken device id
  sessions : ∀ device id, c.shared.Revoked device → c.shared.ActiveSession device id →
    ∃ i, (c.proc i).coversSession device id = true
  keys : ∀ device id, c.shared.Revoked device → c.shared.ActiveKey device id →
    ∃ i, (c.proc i).coversKey device id = true
  marked : ∀ i device, (c.proc i).marked device = true → c.shared.Revoked device

theorem Swept.move {c c' : Config ι DevicePc DeviceWorld} {i : ι} {x : DeviceInput}
    (hin : InOrder (c.proc i) x c.shared) (h : Swept c)
    (hmove : move svc.system c (i, x) = some c') : Swept c' := by
  obtain ⟨pc', w', hnext, rfl⟩ := move_eq_some hmove
  have hstep := next_orderly hin hnext
  have hself : ∀ {covers : DevicePc → Bool}, covers pc' = true →
      ∃ j, covers (update c.proc i pc' j) = true :=
    fun hcovers => ⟨i, by rwa [update_self]⟩
  -- a call that covers what the mover does not cover is another one, and stays where it is
  have hleft : ∀ {covers : DevicePc → Bool} {was : Prop},
      covers pc' = true ∨ (was ∧ covers (c.proc i) = false) →
      (was → ∃ j, covers (c.proc j) = true) → ∃ j, covers (update c.proc i pc' j) = true := by
    rintro covers was (hcovers | ⟨hwas, hnot⟩) hbefore
    · exact hself hcovers
    obtain ⟨j, hj⟩ := hbefore hwas
    have hne : j ≠ i := by
      rintro rfl
      exact absurd (hnot.symm.trans hj) nofun
    exact ⟨j, by rwa [update_of_ne hne]⟩
  refine ⟨?_, ?_, ?_, ?_⟩
  · intro device id hrevoked hactive
    have hwas : c.shared.ActiveToken device id := by
      simpa only [DeviceWorld.ActiveToken, hstep.tokens] using hactive
    rcases hstep.newly device hrevoked with hbefore | hnew
    · exact h.tokens device id hbefore hwas
    · exact (hnew id).1 hwas
  · intro device id hrevoked hactive
    rcases hstep.newly device hrevoked with hbefore | hnew
    · exact hleft (hstep.sessions device id hbefore hactive) (h.sessions device id hbefore)
    · exact hself (hnew id).2.1
  · intro device id hrevoked hactive
    rcases hstep.newly device hrevoked with hbefore | hnew
    · exact hleft (hstep.keys device id hbefore hactive) (h.keys device id hbefore)
    · exact hself (hnew id).2.2
  intro j device hmarked
  rcases update_cases hmarked with ⟨rfl, hnow⟩ | ⟨-, hmarked⟩
  · exact hstep.marks device (h.marked j) hnow
  · exact hstep.revoked device (h.marked j device hmarked)

theorem DevicePc.covers_of_returned (h : pc.returned = true) : pc.Idle := by
  intro device id
  cases pc <;> first | exact ⟨rfl, rfl⟩ | cases h

theorem DevicePc.marked_of_called (h : pc.called = true) (device : Uuid) :
    pc.marked device = false := by
  cases pc <;> first | rfl | cases h

/-- **Device revocation is complete in every run that is in order**: once all calls have returned, one with
success, nothing of the device is active. -/
theorem DeviceService.device_revocation_complete
    {c c' : Config ι DevicePc DeviceWorld} {ms : List (ι × DeviceInput)}
    (hcalled : ∀ i, (c.proc i).called = true)
    (hclean : ∀ device, c.shared.Revoked device → c.shared.Clean device)
    (hin : ∀ e ∈ trace svc.system c ms, InOrder (e.1.proc e.2.1) e.2.2 e.1.shared)
    (hrun : run svc.system c ms = some c')
    (hreturned : ∀ i, (c'.proc i).returned = true) (i : ι) (result : DeviceRevocationResult)
    (hresult : c'.proc i = .revokeReturned result) (hsuccess : result.success = true) :
    c'.shared.Clean result.deviceId := by
  have hstart : Swept c := by
    refine ⟨?_, ?_, ?_, ?_⟩
    · intro device id hrevoked
      exact (hclean device hrevoked id).2.1
    · intro device id hrevoked hactive
      exact absurd hactive (hclean device hrevoked id).1
    · intro device id hrevoked hactive
      exact absurd hactive (hclean device hrevoked id).2.2
    intro j device hmarked
    rw [marked_of_called (hcalled j)] at hmarked
    cases hmarked
  have hend : Swept c' := run_induction
    (fun d m d' (hm : InOrder (d.proc m.1) m.2 d.shared) hd hmove => hd.move hm hmove)
    hstart hin hrun
  have hrevoked : c'.shared.Revoked result.deviceId := by
    apply hend.marked i
    rw [hresult]
    simp [marked, hsuccess]
  intro id
  refine ⟨?_, hend.tokens _ id hrevoked, ?_⟩
  · intro hactive
    obtain ⟨j, hj⟩ := hend.sessions _ id hrevoked hactive
    rw [(covers_of_returned (hreturned j) _ id).1] at hj
    cases hj
  intro hactive
  obtain ⟨j, hj⟩ := hend.keys _ id hrevoked hactive
  rw [(covers_of_returned (hreturned j) _ id).2] at hj
  cases hj

end

/-! ## One device -/

namespace DeviceSample

def alice : Uuid := .ofByte 1
def phone : Uuid := .ofByte 3

def service : DeviceService where
  prekeys :=
    { rawPublicKey := fun _ => true
      verifySignature := fun _ _ _ => none
      sha256Hex := fun _ => ""
      lowInventoryThreshold := 5 }
  sessionTtl := 3600000

def world : DeviceWorld where
  store :=
    { sessions := update (fun _ => none) (.ofByte 5)
        (some (newSession 3600000 alice phone (.ofByte 5) 0))
      devices := update (fun _ => none) phone (some ⟨phone, alice, .active, 0⟩) }
  tokens := fun _ => none
  keys :=
    { rows := [{ keyId := .ofByte 10, deviceId := phone, keyType := .identitySigning
                 publicKey := [1], createdAt := 0 }]
      primaryKey := by decide }

def token : RefreshTokenEntity where
  refreshTokenId := .ofByte 6
  sessionId := .ofByte 5
  deviceId := phone
  tokenVerifier := "verifier"
  tokenStatus := .active
  issuedAt := 0
  expiresAt := 604800000
  revokedAt := none
  rotatedAt := none
  replacedByTokenId := none

def start (tokens : Uuid → Option RefreshTokenEntity) : Config (Fin 1) DevicePc DeviceWorld where
  proc := fun _ => .revokeCalled ⟨alice, phone, "lost", .mfaVerified⟩
  shared := { world with tokens := tokens }

def moves : List (Fin 1 × DeviceInput) := List.replicate 6 (0, { now := 1000 })

theorem start_clean (tokens : Uuid → Option RefreshTokenEntity) (device : Uuid)
    (h : (start tokens).shared.Revoked device) : (start tokens).shared.Clean device := by
  obtain ⟨e, he, hrevoked⟩ := h
  change update (fun _ => none) phone (some ⟨phone, alice, .active, 0⟩) device = some e at he
  by_cases hd : device = phone
  · rw [hd, update_self] at he
    rw [← some.inj he] at hrevoked
    cases hrevoked
  · rw [update_of_ne hd] at he
    cases he

end DeviceSample

open DeviceSample in
/-- **The refresh token outlives the revocation**, with a single call and nothing failing. -/
theorem refresh_token_survives_revocation :
    ∃ c result, run service.system
        (start (update (fun _ => none) (.ofByte 6) (some token))) moves = some c ∧
      c.proc 0 = .revokeReturned result ∧ result = { success := true, deviceId := phone } ∧
      c.shared.ActiveToken phone (.ofByte 6) := by
  refine ⟨_, _, rfl, rfl, rfl, token, ?_, rfl, rfl⟩
  show update (fun _ => none) (Uuid.ofByte 6) (some token) (.ofByte 6) = some token
  exact update_self _ _ _

open DeviceSample in
/-- Without refresh tokens the same call leaves nothing active. -/
theorem revocation_without_tokens_complete :
    ∃ c, run service.system (start fun _ => none) moves = some c ∧
      c.shared.Clean phone := by
  refine ⟨_, rfl, ?_⟩
  refine device_revocation_complete (fun _ => rfl) (start_clean _) ?_
    (show run service.system (start fun _ => none) moves = some _ from rfl)
    (Fin.forall_fin_one.mpr rfl) 0 { success := true, deviceId := phone } rfl rfl
  have hnone : ∀ id, ¬ (start fun _ => none).shared.ActiveToken phone id := by
    rintro id ⟨token, htoken, -⟩
    cases htoken
  refine (forall_trace_cons rfl).mpr ⟨trivial, ?_⟩
  refine (forall_trace_cons rfl).mpr ⟨⟨nofun, hnone⟩, ?_⟩
  refine (forall_trace_cons rfl).mpr ⟨trivial, ?_⟩
  refine (forall_trace_cons rfl).mpr ⟨rfl, ?_⟩
  refine (forall_trace_cons rfl).mpr ⟨trivial, ?_⟩
  exact (forall_trace_cons rfl).mpr ⟨rfl, nofun⟩

end SecureCloud.Auth
