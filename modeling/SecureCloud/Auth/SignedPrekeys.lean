import SecureCloud.Auth.DeviceRevocation

/-
# Auth.SignedPrekeys — one active signed prekey per device, at every commit

`rotate_signed_prekey` and `update_crypto_prekeys` look the active signed prekey up in one transaction
and replace it in another, without a unique index. They rest on `replace_key`: it locks the old row, looks
at its status AGAIN, inserts the new row, marks the old one, and commits. Every statement is a move, under
READ COMMITTED with row locks; any may fail, and any commit may abort or lose its answer.

The main theorem: once `enroll_device` has returned, every committed state has exactly one active signed
prekey for the device, and its signature verifies under the one active identity key.
-/

namespace SecureCloud.Auth

open Lib Lib.ReadCommitted

variable {ι : Type*}

/-! ## Rows -/

def DevicePublicKeyEntity.ActiveFor (r : DevicePublicKeyEntity) (device : Uuid) (keyType : KeyType) :
    Prop :=
  r.deviceId = device ∧ r.keyType = keyType ∧ r.keyStatus = .active

instance (r : DevicePublicKeyEntity) (device : Uuid) (keyType : KeyType) :
    Decidable (r.ActiveFor device keyType) := inferInstanceAs (Decidable (_ ∧ _ ∧ _))

/-- What `kUpdateKeyReplacedSql` makes of a row. -/
def DevicePublicKeyEntity.replacedBy (newKeyId : Uuid) (r : DevicePublicKeyEntity) :
    DevicePublicKeyEntity :=
  { r with keyStatus := .replaced, replacedByKeyId := some newKeyId }

structure KeyDb (ι : Type*) where
  devices : Uuid → Option DeviceEntity
  keys : Table Uuid DevicePublicKeyEntity ι

namespace KeyDb

variable (db : KeyDb ι)

def activeKeys (device : Uuid) (keyType : KeyType) : List DevicePublicKeyEntity :=
  (db.keys.keys.filterMap db.keys.committed).filter fun r => r.ActiveFor device keyType

theorem mem_activeKeys {db : KeyDb ι} {target : Uuid} {keyType : KeyType}
    {r : DevicePublicKeyEntity} : r ∈ db.activeKeys target keyType ↔
      (∃ k, db.keys.committed k = some r) ∧ r.ActiveFor target keyType := by
  simp only [KeyDb.activeKeys, List.mem_filter, List.mem_filterMap, decide_eq_true_eq]
  refine and_congr_left fun _ => ⟨fun ⟨k, _, hk⟩ => ⟨k, hk⟩, fun ⟨k, hk⟩ => ⟨k, ?_, hk⟩⟩
  exact db.keys.stored k (.inl (by rw [hk]; rfl))

def findActiveIdentityKey (device : Uuid) : Option DevicePublicKeyEntity :=
  newest (db.activeKeys device .identitySigning)

def findActiveSignedPrekey (device : Uuid) : Option DevicePublicKeyEntity :=
  newest (db.activeKeys device .signedPrekey)

def countActiveOneTimePrekeys (device : Uuid) : Nat :=
  (db.activeKeys device .oneTimePrekey).length

end KeyDb

/-! ## The two calls

They differ in their first checks, in the text of one error, and in what comes after the rotation. -/

inductive SignedPrekeyCall
  | rotate (cmd : RotateCommand)
  | update (cmd : UpdatePrekeysCommand)

namespace SignedPrekeyCall

def target : SignedPrekeyCall → Uuid
  | rotate cmd => cmd.targetDeviceId
  | update cmd => cmd.targetDeviceId

def newSignedPrekey : SignedPrekeyCall → KeyBytes
  | rotate cmd => cmd.newSignedPrekey
  | update cmd => cmd.newSignedPrekey

def newSignature : SignedPrekeyCall → List UInt8
  | rotate cmd => cmd.newSignature
  | update cmd => cmd.newSignature

def check (rawPublicKey : KeyBytes → Bool) (device : Option DeviceEntity) :
    SignedPrekeyCall → Option PrekeyError
  | rotate cmd => cmd.check rawPublicKey device
  | update cmd => cmd.check rawPublicKey device

/-- `update_crypto_prekeys` without anything to update. -/
def isEmpty : SignedPrekeyCall → Bool
  | rotate _ => false
  | update cmd => cmd.newSignedPrekey = [] ∧ cmd.newOneTimePrekeys = []

/-- `update_crypto_prekeys` without a signed prekey. -/
def skipsRotation : SignedPrekeyCall → Bool
  | rotate _ => false
  | update cmd => cmd.newSignedPrekey = []

def identityError : SignedPrekeyCall → String → PrekeyError
  | rotate _ => .internal "Repository error looking up identity key: "
  | update _ => .internal "Repository error fetching identity key: "

def signedPrekey (keyId : Uuid) (now : TimePoint) : SignedPrekeyCall → DevicePublicKeyEntity
  | rotate cmd => cmd.signedPrekey keyId now
  | update cmd => cmd.signedPrekey keyId now

end SignedPrekeyCall

inductive SignedPrekeyReply
  | rotated
  | updated (result : UpdatedPrekeys)

/-- Where a call stands: the statement that comes next, with the locals it needs. -/
inductive SignedPrekeyPc
  | called (call : SignedPrekeyCall)
  | verifying (call : SignedPrekeyCall)
  | searching (call : SignedPrekeyCall) (row : DevicePublicKeyEntity)
  | locking (call : SignedPrekeyCall) (row : DevicePublicKeyEntity) (old : Uuid)
  | inserting (call : SignedPrekeyCall) (row : DevicePublicKeyEntity) (old : Option Uuid)
  | marking (call : SignedPrekeyCall) (row : DevicePublicKeyEntity) (old : Uuid)
  | committing (call : SignedPrekeyCall) (row : DevicePublicKeyEntity) (old : Option Uuid)
  | storing (cmd : UpdatePrekeysCommand) (rotated : Bool) (rest : List DevicePublicKeyEntity)
  | counting (cmd : UpdatePrekeysCommand) (rotated : Bool)
  | totalling (cmd : UpdatePrekeysCommand) (rotated : Bool) (added : Nat)
  | returned (result : Except PrekeyError SignedPrekeyReply)

/-- The environment's part of a move: clock, ids, failure of a statement, fate of a commit. -/
structure KeyInput where
  now : TimePoint := 0
  fresh : Nat → Uuid := fun _ => .nil
  fault : Option String := none
  outcome : TransactionOutcome := .committed

/-! ## Moves -/

variable (db : KeyDb ι)

def KeyDb.fail [DecidableEq ι] (i : ι) (error : PrekeyError) : SignedPrekeyPc × KeyDb ι :=
  (.returned (.error error), { db with keys := db.keys.rollback i })

def KeyDb.commitTo [DecidableEq ι] (i : ι) (outcome : TransactionOutcome)
    (error : String → PrekeyError) (done : SignedPrekeyPc) : SignedPrekeyPc × KeyDb ι :=
  match outcome with
  | .committed => (done, { db with keys := db.keys.commit i })
  | .aborted what => db.fail i (error what)
  | .lost what => (.returned (.error (error what)), { db with keys := db.keys.commit i })

namespace PrekeyService

variable (svc : PrekeyService)

/-- After the signed prekey: `rotate_signed_prekey` is done, `update_crypto_prekeys` goes on. -/
def afterSigned (x : KeyInput) (rotated : Bool) : SignedPrekeyCall → SignedPrekeyPc
  | .rotate _ => .returned (.ok .rotated)
  | .update cmd =>
    if cmd.newOneTimePrekeys = [] then .totalling cmd rotated 0
    else match validateOneTimePrekeys svc.rawPublicKey cmd.newOneTimePrekeys with
      | some error => .returned (.error ⟨.invalidArgument, "Invalid one-time prekeys: " ++ error⟩)
      | none => .storing cmd rotated (cmd.newOneTimePrekeys.zipIdx.map fun (key, n) =>
          PublicKeyTable.oneTimePrekey cmd.targetDeviceId x.now (x.fresh n, key))

def afterDevice (x : KeyInput) (call : SignedPrekeyCall) (device : Option DeviceEntity) :
    SignedPrekeyPc :=
  match call.check svc.rawPublicKey device with
  | some error => .returned (.error error)
  | none => if call.skipsRotation then svc.afterSigned x false call else .verifying call

/-- The new signed prekey is verified under the identity key that was read, and its row made. -/
def afterIdentity (x : KeyInput) (call : SignedPrekeyCall) (identity : Option DevicePublicKeyEntity) :
    SignedPrekeyPc :=
  match identity with
  | none => .returned (.error ⟨.internalError, "Active identity key not found for device"⟩)
  | some identity =>
    match svc.verifySignature identity.publicKey call.newSignedPrekey call.newSignature with
    | some error => .returned (.error
        ⟨.invalidArgument, "Signed prekey signature verification failed: " ++ error⟩)
    | none => .searching call (call.signedPrekey (x.fresh 0) x.now)

end PrekeyService

def storingError : String → PrekeyError := .internal "Repository error storing signed prekey: "

def countingError : String → PrekeyError := .internal "Repository error counting one-time prekeys: "

def readOr (fault : Option String) (error : String → PrekeyError) (pc : SignedPrekeyPc) :
    SignedPrekeyPc :=
  match fault with
  | some what => .returned (.error (error what))
  | none => pc

variable [DecidableEq ι]

/-- `SELECT … FOR UPDATE` on the old key, and the look at its status. -/
def KeyDb.lockOld (i : ι) (call : SignedPrekeyCall) (row : DevicePublicKeyEntity)
    (old : Uuid) : Option (SignedPrekeyPc × KeyDb ι) :=
  (db.keys.selectForUpdate i old).map fun (found, keys) =>
    let db := { db with keys := keys }
    match found with
    | none => db.fail i (storingError ("Device public key not found: " ++ old.toString))
    | some r =>
      if r.keyStatus ≠ .active then
        db.fail i (storingError ("Cannot replace non-active public key (" ++ r.keyStatus.toString ++
          "): " ++ old.toString))
      else (.inserting call row (some old), db)

def KeyDb.insertRow (i : ι) (row : DevicePublicKeyEntity)
    (error : String → PrekeyError) (done : SignedPrekeyPc) : Option (SignedPrekeyPc × KeyDb ι) :=
  (db.keys.insert i row.keyId row).map fun inserted =>
    match inserted with
    | none => db.fail i (error ("Device public key already exists: " ++ row.keyId.toString))
    | some keys => (done, { db with keys := keys })

def KeyDb.markReplaced (i : ι) (call : SignedPrekeyCall)
    (row : DevicePublicKeyEntity) (old : Uuid) : Option (SignedPrekeyPc × KeyDb ι) :=
  (db.keys.update i old (·.keyStatus = .active) (.replacedBy row.keyId)).map fun (affected, keys) =>
    let db := { db with keys := keys }
    if affected then (.committing call row (some old), db)
    else db.fail i (storingError
      ("Concurrent key replacement conflict detected for key: " ++ old.toString))

def KeyDb.stateOr (i : ι) (fault : Option String) (error : String → PrekeyError)
    (statement : Option (SignedPrekeyPc × KeyDb ι)) : Option (SignedPrekeyPc × KeyDb ι) :=
  match fault with
  | some what => some (db.fail i (error what))
  | none => statement

/-- One move of a call. `none`: it has returned, or waits for a lock. -/
def PrekeyService.nextStatement (svc : PrekeyService) (i : ι) (pc : SignedPrekeyPc) (x : KeyInput)
    (db : KeyDb ι) : Option (SignedPrekeyPc × KeyDb ι) :=
  match pc with
  | .called call =>
    if call.isEmpty then some (.returned
      (.error ⟨.invalidArgument, "No prekey material provided for update"⟩), db)
    else some (readOr x.fault (.internal "Repository error looking up device: ")
      (svc.afterDevice x call (db.devices call.target)), db)
  | .verifying call => some (readOr x.fault call.identityError
      (svc.afterIdentity x call (db.findActiveIdentityKey call.target)), db)
  | .searching call row => some (readOr x.fault storingError
      (match db.findActiveSignedPrekey call.target with
        | some current => .locking call row current.keyId
        | none => .inserting call row none), db)
  | .locking call row old => db.stateOr i x.fault storingError (db.lockOld i call row old)
  | .inserting call row old => db.stateOr i x.fault storingError <|
      db.insertRow i row storingError (match old with
          | some old => .marking call row old
          | none => .committing call row none)
  | .marking call row old => db.stateOr i x.fault storingError (db.markReplaced i call row old)
  | .committing call _ _ =>
    some (db.commitTo i x.outcome storingError (svc.afterSigned x true call))
  | .storing cmd rotated [] => some (db.commitTo i x.outcome
      (.internal "Repository error storing one-time prekeys: ") (.counting cmd rotated))
  | .storing cmd rotated (row :: rest) =>
    db.stateOr i x.fault (.internal "Repository error storing one-time prekeys: ") <|
      db.insertRow i row (.internal "Repository error storing one-time prekeys: ")
        (.storing cmd rotated rest)
  | .counting cmd rotated => some (readOr x.fault countingError
      (.totalling cmd rotated cmd.newOneTimePrekeys.length), db)
  | .totalling cmd rotated added => some (readOr x.fault countingError (.returned (.ok (.updated
        ⟨rotated, added, db.countActiveOneTimePrekeys cmd.targetDeviceId⟩))), db)
  | .returned _ => none

abbrev KeyConfig (ι : Type*) := Interleaving.Config ι SignedPrekeyPc (KeyDb ι)

/-! ## Enrollment -/

structure EnrollCommand where
  userId : Uuid
  identityKey : KeyBytes
  signedPrekey : KeyBytes
  signature : List UInt8
  oneTimePrekeys : List KeyBytes
  callerAuthLevel : AuthenticationLevel

structure DeviceEnrollmentResult where
  success : Bool
  deviceId : Uuid := .nil
  status : DeviceStatus := .pendingAuthorization
  pairingCode : String := ""
  pairingCodeExpiresAt : TimePoint := 0
  errorMessage : String := ""

/-- `DeviceKeyValidator::validate_registration_bundle`; the result is the text of the error. -/
def PrekeyService.validateRegistrationBundle (svc : PrekeyService) (cmd : EnrollCommand) :
    Option String :=
  match svc.verifySignature cmd.identityKey cmd.signedPrekey cmd.signature with
  | some error => some error
  | none => validateOneTimePrekeys svc.rawPublicKey cmd.oneTimePrekeys

variable (cmd : EnrollCommand)

/-- The key rows `enroll_device` stores, in order, with ids `fresh 1`, `fresh 2`, …; the device is `fresh
0`. -/
def EnrollCommand.rows (x : KeyInput) : List DevicePublicKeyEntity :=
  { keyId := x.fresh 1, deviceId := x.fresh 0, keyType := .identitySigning
    publicKey := cmd.identityKey, createdAt := x.now } ::
  { keyId := x.fresh 2, deviceId := x.fresh 0, keyType := .signedPrekey
    publicKey := cmd.signedPrekey, createdAt := x.now, signature := some cmd.signature } ::
  cmd.oneTimePrekeys.zipIdx.map fun (key, n) =>
    PublicKeyTable.oneTimePrekey (x.fresh 0) x.now (x.fresh (n + 3), key)

/-- `store_public_key` row by row, each a transaction of its own. The error is the first exception. -/
def KeyDb.storeRows (i : ι) (db : KeyDb ι) : List DevicePublicKeyEntity → Except String (KeyDb ι)
  | [] => .ok db
  | row :: rows =>
    match db.keys.insert i row.keyId row with
    | some (some keys) => KeyDb.storeRows i { db with keys := keys.commit i } rows
    | some none => .error ("Device public key already exists: " ++ row.keyId.toString)
    | none => .error "Failed to insert device public key: canceling statement due to lock timeout"

/-- A device that is registered by a caller with verified MFA is active at once. -/
def EnrollCommand.initialStatus : DeviceStatus :=
  if cmd.callerAuthLevel = .mfaVerified then .active else .pendingAuthorization

/-- What `enroll_device` returns in the end. A device that is not active yet gets the pairing code
`pairing`. -/
def EnrollCommand.result (x : KeyInput) (pairing : String)
    (pairingTtl : TimePoint) : DeviceEnrollmentResult :=
  if cmd.initialStatus = .pendingAuthorization then
    { success := true, deviceId := x.fresh 0, status := .pendingAuthorization
      pairingCode := String.ofList
        (pairing.toList.take 4 ++ ['-'] ++ (pairing.toList.drop 4).take 4)
      pairingCodeExpiresAt := x.now + pairingTtl }
  else { success := true, deviceId := x.fresh 0, status := .active }

/-- `enroll_device`. The error is an exception. -/
def KeyDb.enrollDevice (svc : PrekeyService) (i : ι) (cmd : EnrollCommand)
    (x : KeyInput) (pairing : String) (pairingTtl : TimePoint) :
    Except String (DeviceEnrollmentResult × KeyDb ι) :=
  match svc.validateRegistrationBundle cmd with
  | some error => .ok ({ success := false, errorMessage := error }, db)
  | none =>
    let device : DeviceEntity := ⟨x.fresh 0, cmd.userId, cmd.initialStatus, x.now⟩
    if (db.devices device.deviceId).isSome then
      .error ("Device already registered: " ++ device.deviceId.toString)
    else
      let db := { db with devices := Function.update db.devices device.deviceId (some device) }
      match db.storeRows i (cmd.rows x) with
      | .error what => .error what
      | .ok db => .ok (cmd.result x pairing pairingTtl, db)

end SecureCloud.Auth
