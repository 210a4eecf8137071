import SecureCloud.Auth.PublicKeys
import SecureCloud.Lib.Checks
import SecureCloud.Lib.Interleaving
import SecureCloud.Lib.Transaction

/-
# Auth.Prekeys — uploads and claims of one-time prekeys

`PrekeyManager::replenish_one_time_prekeys`, `CryptoDirectoryManager::update_crypto_prekeys` and
`PrekeyManager::claim_device_prekey_bundle` as processes over the key table, one move per repository
call.

A claim takes a ROW, and no row is claimed twice. The claimer gets the VALUE in it, and values are not
unique: `has_active_key_conflict` looks at active rows only, the check and the insert are two
transactions, and `update_crypto_prekeys` does not check at all.
-/

namespace SecureCloud.Auth

open Lib Lib.Interleaving Function PublicKeyTable DevicePublicKeyEntity List Option

/-! ## Calls and results -/

inductive PrekeyStatus
  | notFound
  | deviceRevoked
  | deviceNotActive
  | permissionDenied
  | invalidArgument
  | conflict
  | internalError

structure PrekeyError where
  status : PrekeyStatus
  message : String

structure ReplenishCommand where
  callerUserId : Uuid
  callerDeviceId : Uuid
  targetDeviceId : Uuid
  newOtks : List KeyBytes

structure UpdatePrekeysCommand where
  callerUserId : Uuid
  callerDeviceId : Uuid
  targetDeviceId : Uuid
  newSignedPrekey : KeyBytes
  newSignature : List UInt8
  newOneTimePrekeys : List KeyBytes

structure UpdatedPrekeys where
  signedPrekeyRotated : Bool
  oneTimePrekeysAdded : Nat
  totalActiveOneTimePrekeys : Nat

inductive PrekeyExhaustionState
  | inventoryHealthy
  | inventoryLow
  | inventoryExhausted

structure PrekeyBundle where
  deviceId : Uuid
  identityKey : KeyBytes
  identityKeyFingerprint : String
  signedPrekey : KeyBytes
  signedPrekeySignature : List UInt8
  signedPrekeyCreatedAt : TimePoint
  oneTimePrekey : Option KeyBytes
  oneTimePrekeyId : Option Uuid
  exhaustionState : PrekeyExhaustionState

/-- The environment's part of a move: the clock, how the transaction ends, the rows other claims have
locked, the ids generated. -/
structure PrekeyInput where
  now : TimePoint
  outcome : TransactionOutcome := .committed
  locked : List Uuid := []
  fresh : Nat → Uuid := fun _ => .nil

structure PrekeyService where
  rawPublicKey : KeyBytes → Bool
  verifySignature : KeyBytes → KeyBytes → List UInt8 → Option String
  sha256Hex : KeyBytes → String
  lowInventoryThreshold : Int

structure PrekeyWorld where
  devices : Uuid → Option DeviceEntity
  keys : PublicKeyTable

/-- Where a call stands: the transaction that comes next, with the locals it needs. -/
inductive PrekeyPc
  | replenishCalled (cmd : ReplenishCommand)
  | replenishChecking (cmd : ReplenishCommand) (rest : List KeyBytes)
  | replenishStoring (cmd : ReplenishCommand)
  | replenishCounting (cmd : ReplenishCommand)
  | replenishReturned (result : Except PrekeyError Nat)
  | updateCalled (cmd : UpdatePrekeysCommand)
  | updateVerifying (cmd : UpdatePrekeysCommand)
  | updateSearching (cmd : UpdatePrekeysCommand)
  | updateReplacing (cmd : UpdatePrekeysCommand) (current : Option Uuid)
  | updateStoring (cmd : UpdatePrekeysCommand) (rotated : Bool)
  | updateCounting (cmd : UpdatePrekeysCommand) (rotated : Bool)
  | updateTotalling (cmd : UpdatePrekeysCommand) (rotated : Bool) (added : Nat)
  | updateReturned (result : Except PrekeyError UpdatedPrekeys)
  | claimCalled (device : Uuid)
  | claimReading (device : Uuid)
  | claimPreparing (device : Uuid) (identity : Option DevicePublicKeyEntity)
  | claimTaking (device : Uuid) (identity signed : DevicePublicKeyEntity)
  | claimCounting (device : Uuid) (identity signed : DevicePublicKeyEntity)
      (claimed : Option DevicePublicKeyEntity)
  | claimReturned (device : Uuid) (result : Except PrekeyError PrekeyBundle)

/-! ## The calls as processes -/

/-- The checks of `PrekeyManager` on the device read; `elsewhere`: the message for a caller on another
device. -/
def ownDeviceCheck (callerUserId callerDeviceId targetDeviceId : Uuid) (elsewhere : String)
    (device : Option DeviceEntity) : Option PrekeyError :=
  match device with
  | none => some ⟨.notFound, "Target device not found"⟩
  | some device =>
    if device.deviceStatus = .revoked then some ⟨.deviceRevoked, "Device is revoked"⟩
    else if callerUserId ≠ device.userId then
      some ⟨.permissionDenied, "Caller does not own target device"⟩
    else if callerDeviceId ≠ targetDeviceId then some ⟨.permissionDenied, elsewhere⟩
    else if device.deviceStatus ≠ .active then some ⟨.deviceNotActive, "Device is not active"⟩
    else none

def ReplenishCommand.check (cmd : ReplenishCommand) (rawPublicKey : KeyBytes → Bool)
    (device : Option DeviceEntity) : Option PrekeyError :=
  match ownDeviceCheck cmd.callerUserId cmd.callerDeviceId cmd.targetDeviceId
      "Caller can only replenish prekeys for their own device" device with
  | some error => some error
  | none =>
    (validatePrekeyBatch rawPublicKey cmd.newOtks).map fun error => ⟨.invalidArgument, error⟩

variable (cmd : UpdatePrekeysCommand)

def UpdatePrekeysCommand.check (rawPublicKey : KeyBytes → Bool)
    (device : Option DeviceEntity) : Option PrekeyError :=
  match device with
  | none => some ⟨.notFound, "Target device not found"⟩
  | some device =>
    if cmd.callerUserId ≠ device.userId then
      some ⟨.permissionDenied, "Caller does not own target device"⟩
    else if cmd.callerDeviceId ≠ device.deviceId then
      some ⟨.permissionDenied, "Caller can only update prekeys for their own device"⟩
    else if device.deviceStatus ≠ .active then some ⟨.permissionDenied, "Device is not active"⟩
    else if cmd.newSignedPrekey = [] then none
    else if cmd.newSignature = [] then
      some ⟨.invalidArgument, "Signed prekey requires accompanying signature"⟩
    else (validateSignedPrekey rawPublicKey cmd.newSignedPrekey).map fun error =>
      ⟨.invalidArgument, "Invalid signed prekey: " ++ error⟩

def UpdatePrekeysCommand.signedPrekey (keyId : Uuid) (now : TimePoint) : DevicePublicKeyEntity where
  keyId := keyId
  deviceId := cmd.targetDeviceId
  keyType := .signedPrekey
  publicKey := cmd.newSignedPrekey
  createdAt := now
  signature := some cmd.newSignature

def claimCheck (device : Option DeviceEntity) : Option PrekeyError :=
  match device with
  | none => some ⟨.notFound, "Target device not found"⟩
  | some device =>
    if device.deviceStatus = .revoked then some ⟨.deviceRevoked, "Device is revoked"⟩
    else if device.deviceStatus ≠ .active then some ⟨.deviceNotActive, "Device is not active"⟩
    else none

def PrekeyWorld.withKeys (w : PrekeyWorld) (keys : Except String PublicKeyTable) :
    Except String PrekeyWorld :=
  keys.map fun keys => { w with keys := keys }

def PrekeyError.internal (operation what : String) : PrekeyError :=
  ⟨.internalError, operation ++ what⟩

namespace PrekeyService

variable (svc : PrekeyService)

/-- The one-time prekeys of `update_crypto_prekeys` come after the signed one. -/
def afterRotation (rotated : Bool) : PrekeyPc :=
  if cmd.newOneTimePrekeys = [] then .updateTotalling cmd rotated 0
  else match validateOneTimePrekeys svc.rawPublicKey cmd.newOneTimePrekeys with
    | some error =>
      .updateReturned (.error ⟨.invalidArgument, "Invalid one-time prekeys: " ++ error⟩)
    | none => .updateStoring cmd rotated

def bundle (device : Uuid) (identity signed : DevicePublicKeyEntity)
    (claimed : Option DevicePublicKeyEntity) (remaining : Nat) : PrekeyBundle where
  deviceId := device
  identityKey := identity.publicKey
  identityKeyFingerprint := svc.sha256Hex identity.publicKey
  signedPrekey := signed.publicKey
  signedPrekeySignature := signed.signature.getD []
  signedPrekeyCreatedAt := signed.createdAt
  oneTimePrekey := claimed.map (·.publicKey)
  oneTimePrekeyId := claimed.map (·.keyId)
  exhaustionState :=
    if claimed.isNone then .inventoryExhausted
    else if (remaining : Int) ≤ svc.lowInventoryThreshold then .inventoryLow
    else .inventoryHealthy

def withIds (x : PrekeyInput) (keys : List KeyBytes) : List (Uuid × KeyBytes) :=
  keys.zipIdx.map fun (key, n) => (x.fresh n, key)

/-- One move of a call. `none`: it has returned. -/
def next (pc : PrekeyPc) (x : PrekeyInput) (w : PrekeyWorld) : Option (PrekeyPc × PrekeyWorld) :=
  match pc with
  | .replenishCalled cmd => some <|
    query x.outcome w
      (fun what => .replenishReturned (.error (.internal "Repository error looking up device: " what)))
      (match cmd.check svc.rawPublicKey (w.devices cmd.targetDeviceId) with
        | some error => .replenishReturned (.error error)
        | none => .replenishChecking cmd cmd.newOtks)
  | .replenishChecking cmd [] => some (.replenishStoring cmd, w)
  | .replenishChecking cmd (key :: rest) => some <|
    query x.outcome w
      (fun what => .replenishReturned (.error (.internal "Repository error storing prekeys: " what)))
      (if w.keys.hasActiveKeyConflict cmd.targetDeviceId key then
        .replenishReturned
          (.error ⟨.conflict, "One or more one-time prekeys are already registered"⟩)
      else .replenishChecking cmd rest)
  | .replenishStoring cmd => some <|
    transact x.outcome w
      (w.withKeys (w.keys.storeOneTimePrekeys cmd.targetDeviceId x.now (withIds x cmd.newOtks)))
      (fun what => .replenishReturned (.error (.internal "Repository error storing prekeys: " what)))
      (.replenishCounting cmd)
  | .replenishCounting cmd => some <|
    query x.outcome w
      (fun what => .replenishReturned (.error (.internal "Repository error storing prekeys: " what)))
      (.replenishReturned (.ok (w.keys.countActiveOneTimePrekeys cmd.targetDeviceId)))
  | .replenishReturned _ => none
  | .updateCalled cmd =>
    if cmd.newSignedPrekey = [] ∧ cmd.newOneTimePrekeys = [] then
      some (.updateReturned
        (.error ⟨.invalidArgument, "No prekey material provided for update"⟩), w)
    else some <|
      query x.outcome w
        (fun what => .updateReturned (.error (.internal "Repository error looking up device: " what)))
        (match cmd.check svc.rawPublicKey (w.devices cmd.targetDeviceId) with
          | some error => .updateReturned (.error error)
          | none =>
            if cmd.newSignedPrekey = [] then svc.afterRotation cmd false else .updateVerifying cmd)
  | .updateVerifying cmd => some <|
    query x.outcome w
      (fun what => .updateReturned (.error (.internal "Repository error fetching identity key: " what)))
      (match w.keys.findActiveIdentityKey cmd.targetDeviceId with
        | none => .updateReturned
          (.error ⟨.internalError, "Active identity key not found for device"⟩)
        | some identity =>
          match svc.verifySignature identity.publicKey cmd.newSignedPrekey cmd.newSignature with
          | some error => .updateReturned (.error
              ⟨.invalidArgument, "Signed prekey signature verification failed: " ++ error⟩)
          | none => .updateSearching cmd)
  | .updateSearching cmd => some <|
    query x.outcome w
      (fun what => .updateReturned (.error (.internal "Repository error storing signed prekey: " what)))
      (.updateReplacing cmd ((w.keys.findActiveSignedPrekey cmd.targetDeviceId).map (·.keyId)))
  | .updateReplacing cmd current => some <|
    transact x.outcome w
      (w.withKeys (w.keys.replaceOrStore current (cmd.signedPrekey (x.fresh 0) x.now)))
      (fun what => .updateReturned (.error (.internal "Repository error storing signed prekey: " what)))
      (svc.afterRotation cmd true)
  | .updateStoring cmd rotated => some <|
    transact x.outcome w
      (w.withKeys (w.keys.storeOneTimePrekeys cmd.targetDeviceId x.now (withIds x cmd.newOneTimePrekeys)))
      (fun what => .updateReturned
        (.error (.internal "Repository error storing one-time prekeys: " what)))
      (.updateCounting cmd rotated)
  | .updateCounting cmd rotated => some <|
    query x.outcome w (fun what => .updateReturned
        (.error (.internal "Repository error counting one-time prekeys: " what)))
      (.updateTotalling cmd rotated cmd.newOneTimePrekeys.length)
  | .updateTotalling cmd rotated added => some <|
    query x.outcome w (fun what => .updateReturned
        (.error (.internal "Repository error counting one-time prekeys: " what)))
      (.updateReturned (.ok ⟨rotated, added, w.keys.countActiveOneTimePrekeys cmd.targetDeviceId⟩))
  | .updateReturned _ => none
  | .claimCalled device => some <|
    query x.outcome w (fun what => .claimReturned device
        (.error (.internal "Repository error looking up device: " what)))
      (match claimCheck (w.devices device) with
        | some error => .claimReturned device (.error error)
        | none => .claimReading device)
  | .claimReading device => some <|
    query x.outcome w
      (fun what => .claimReturned device (.error (.internal "Repository error claiming bundle: " what)))
      (.claimPreparing device (w.keys.findActiveIdentityKey device))
  | .claimPreparing device identity => some <|
    query x.outcome w
      (fun what => .claimReturned device (.error (.internal "Repository error claiming bundle: " what)))
      (match identity, w.keys.findActiveSignedPrekey device with
        | none, _ => .claimReturned device
          (.error ⟨.internalError, "Active identity key not found for device"⟩)
        | some _, none => .claimReturned device
          (.error ⟨.internalError, "Active signed prekey not found for device"⟩)
        | some identity, some signed => .claimTaking device identity signed)
  | .claimTaking device identity signed => some <|
    match w.keys.claimOneTimePrekey device x.locked with
    | none => query x.outcome w (fun what => .claimReturned device
          (.error (.internal "Repository error claiming bundle: " what)))
        (.claimCounting device identity signed none)
    | some (claimed, keys) => transact x.outcome w (w.withKeys (.ok keys))
        (fun what => .claimReturned device
          (.error (.internal "Repository error claiming bundle: " what)))
        (.claimCounting device identity signed (some claimed))
  | .claimCounting device identity signed claimed => some <|
    query x.outcome w
      (fun what => .claimReturned device (.error (.internal "Repository error claiming bundle: " what)))
      (.claimReturned device (.ok (svc.bundle device identity signed claimed
        (w.keys.countActiveOneTimePrekeys device))))
  | .claimReturned _ _ => none

end PrekeyService

open PrekeyService

/-! ## Values in the table and in the hands of claimers -/

def DevicePublicKeyEntity.live (r : DevicePublicKeyEntity) : Bool :=
  r.keyType = .oneTimePrekey ∧ (r.keyStatus = .active ∨ r.keyStatus = .claimed)

def DevicePublicKeyEntity.value (r : DevicePublicKeyEntity) : Uuid × KeyBytes :=
  (r.deviceId, r.publicKey)

def PublicKeyTable.liveValues (t : PublicKeyTable) : List (Uuid × KeyBytes) :=
  (t.rows.filter (·.live)).map (·.value)

def PublicKeyTable.Claimed (t : PublicKeyTable) (v : Uuid × KeyBytes) : Prop :=
  ∃ r ∈ t.rows, r.keyType = .oneTimePrekey ∧ r.keyStatus = .claimed ∧ r.value = v

def PrekeyPc.handedOut : PrekeyPc → Option (Uuid × KeyBytes)
  | .claimReturned device (.ok bundle) => bundle.oneTimePrekey.map fun key => (device, key)
  | _ => none

/-- The value a claim has taken, and will be answered with or has been. -/
def PrekeyPc.holds : PrekeyPc → Option (Uuid × KeyBytes)
  | .claimCounting device _ _ claimed => claimed.map fun r => (device, r.publicKey)
  | pc => pc.handedOut

def PrekeyPc.uploads : PrekeyPc → Option (Uuid × List KeyBytes)
  | .replenishStoring cmd => some (cmd.targetDeviceId, cmd.newOtks)
  | .updateStoring cmd _ => some (cmd.targetDeviceId, cmd.newOneTimePrekeys)
  | _ => none

/-- An upload brings new values: different ones, and none the device has, claimable or claimed. -/
def FreshUpload (pc : PrekeyPc) (w : PrekeyWorld) : Prop :=
  match pc.uploads with
  | none => True
  | some (device, keys) => keys.Nodup ∧ ∀ key ∈ keys, (device, key) ∉ w.keys.liveValues

instance (pc : PrekeyPc) (w : PrekeyWorld) : Decidable (FreshUpload pc w) := by
  unfold FreshUpload
  split <;> infer_instance

section
variable {t t' : PublicKeyTable} {added : List DevicePublicKeyEntity} {v : Uuid × KeyBytes}

variable {r r' : DevicePublicKeyEntity}

theorem DevicePublicKeyEntity.Ages.live (h : r.Ages r')
    (hlive : r'.live = true) : r.live = true := by
  simp only [DevicePublicKeyEntity.live, decide_eq_true_eq, h.keyType] at hlive ⊢
  rcases h.keyStatus with hstatus | hactive
  · rw [hstatus] at hlive
    exact hlive
  · exact ⟨hlive.1, .inl hactive⟩

theorem DevicePublicKeyEntity.Ages.value (h : r.Ages r') :
    r'.value = r.value := by
  rw [DevicePublicKeyEntity.value, h.deviceId, h.publicKey]
  rfl

theorem PublicKeyTable.Ages.liveValues_sublist (h : t.Ages t' added)
    (hadded : ∀ r ∈ added, r.keyType ≠ .oneTimePrekey) :
    t'.liveValues.Sublist t.liveValues := by
  obtain ⟨f, hf, hrows⟩ := h
  have hnone : added.filter (·.live) = [] := by
    rw [filter_eq_nil_iff]
    intro r hr hlive
    exact hadded r hr (of_decide_eq_true hlive).1
  rw [liveValues, hrows, filter_append, hnone, append_nil, liveValues]
  generalize t.rows = rows
  induction rows with
  | nil => exact List.Sublist.refl _
  | cons r rows ih =>
    rw [map_cons, filter_cons, filter_cons]
    by_cases hlive : (f r).live = true
    · rw [if_pos hlive, if_pos ((hf r).live hlive), map_cons, map_cons, (hf r).value]
      exact ih.cons_cons _
    rw [if_neg hlive]
    split_ifs
    · exact ih.cons _
    · exact ih

theorem PublicKeyTable.Ages.claimed (h : t.Ages t' added) (hv : t.Claimed v) : t'.Claimed v := by
  obtain ⟨f, hf, hrows⟩ := h
  obtain ⟨r, hr, htype, hclaimed, rfl⟩ := hv
  have hmem : f r ∈ t'.rows := by
    rw [hrows]
    exact mem_append_left _ (mem_map_of_mem hr)
  have hstatus : (f r).keyStatus = .claimed := by
    rcases (hf r).keyStatus with hsame | hactive
    · exact hsame.trans hclaimed
    rw [hclaimed] at hactive
    cases hactive
  exact ⟨f r, hmem, (hf r).keyType.trans htype, hstatus, (hf r).value⟩

theorem PublicKeyTable.not_claimed_of_active (hdistinct : t.liveValues.Nodup)
    (hr : r ∈ t.rows) (htype : r.keyType = .oneTimePrekey)
    (hactive : r.keyStatus = .active) : ¬ t.Claimed r.value := by
  rintro ⟨r', hr', htype', hclaimed, hvalue⟩
  have hlive : r ∈ t.rows.filter (·.live) :=
    mem_filter.mpr ⟨hr, by simp [live, htype, hactive]⟩
  have hlive' : r' ∈ t.rows.filter (·.live) :=
    mem_filter.mpr ⟨hr', by simp [live, htype', hclaimed]⟩
  have hsame : r' = r := inj_on_of_nodup_map hdistinct hlive' hlive hvalue
  rw [hsame, hactive] at hclaimed
  cases hclaimed

theorem PublicKeyTable.liveValues_upload {deviceId : Uuid} {now : TimePoint}
    {keys : List (Uuid × KeyBytes)} (h : t.storeOneTimePrekeys deviceId now keys = .ok t') :
    t'.liveValues = t.liveValues ++ keys.map fun key => (deviceId, key.2) := by
  have hall : ∀ r ∈ keys.map (oneTimePrekey deviceId now), r.live = true := by
    intro r hr
    obtain ⟨key, -, rfl⟩ := List.mem_map.mp hr
    rfl
  rw [liveValues, storeOneTimePrekeys_rows h, List.filter_append,
    List.filter_eq_self.mpr hall, List.map_append, List.map_map]
  rfl

end

/-! ## What a move does -/

/-- The effects of a move: rows age and no one-time prekey comes in; or those of an upload do; or an
active one is claimed, and the mover holds its value. -/
inductive PrekeyEffect (pc : PrekeyPc) (w : PrekeyWorld) (pc' : PrekeyPc) (w' : PrekeyWorld) : Prop
  | ages (added : List DevicePublicKeyEntity) (hages : w.keys.Ages w'.keys added)
      (hadded : ∀ r ∈ added, r.keyType ≠ .oneTimePrekey)
      (hholds : ∀ v, pc'.holds = some v → pc.holds = some v)
  | upload (device : Uuid) (keys : List KeyBytes) (added : List DevicePublicKeyEntity)
      (hpc : pc.uploads = some (device, keys)) (hages : w.keys.Ages w'.keys added)
      (hvalues : w'.keys.liveValues = w.keys.liveValues ++ keys.map fun key => (device, key))
      (hholds : pc'.holds = none)
  | claim (r : DevicePublicKeyEntity) (hr : r ∈ w.keys.rows) (htype : r.keyType = .oneTimePrekey)
      (hactive : r.keyStatus = .active) (hkeys : w'.keys = w.keys.markClaimed r.keyId)
      (hholds : ∀ v, pc'.holds = some v → v = r.value)

section
variable {pc pc' done : PrekeyPc} {w w' : PrekeyWorld} {outcome : TransactionOutcome}
  {fail : String → PrekeyPc}

variable {keys : Except String PublicKeyTable}

theorem PrekeyEffect.stay (hw : w' = w) (hholds : ∀ v, pc'.holds = some v → pc.holds = some v) :
    PrekeyEffect pc w pc' w' := by
  subst hw
  exact .ages [] (.refl _) (by simp) hholds

theorem PrekeyEffect.of_query (h : some (query outcome w fail done) = some (pc', w'))
    (hfail : ∀ what, (fail what).holds = none)
    (hdone : ∀ v, done.holds = some v → pc.holds = some v) : PrekeyEffect pc w pc' w' := by
  obtain ⟨hw, rfl | ⟨what, rfl⟩⟩ := query_eq h
  · exact .stay hw hdone
  · exact .stay hw (by simp [hfail])

theorem PrekeyEffect.of_transact
    (h : some (transact outcome w (w.withKeys keys) fail done) = some (pc', w'))
    (hfail : ∀ what, (fail what).holds = none)
    (heffect : ∀ t pc'', keys = .ok t → (pc'' = done ∨ ∃ what, pc'' = fail what) →
      PrekeyEffect pc w pc'' { w with keys := t }) :
    PrekeyEffect pc w pc' w' := by
  rcases transact_eq h with ⟨hw, what, rfl, -⟩ | ⟨hw, hpc⟩
  · exact .stay hw (by simp [hfail])
  obtain ⟨t, ht, rfl⟩ := Checks.map_eq_ok.mp hw
  refine heffect t _ ht ?_
  rcases hpc with ⟨-, rfl⟩ | ⟨what, -, rfl⟩
  · exact .inl rfl
  · exact .inr ⟨what, rfl⟩

theorem withIds_values (x : PrekeyInput) (device : Uuid) (keys : List KeyBytes) :
    (withIds x keys).map (fun key => (device, key.2)) = keys.map fun key => (device, key) := by
  have hsnd : (withIds x keys).map (·.2) = keys := by
    rw [withIds, List.map_map]
    exact List.zipIdx_map_fst 0 keys
  conv_rhs => rw [← hsnd, List.map_map]
  rfl

variable {x : PrekeyInput}

theorem PrekeyEffect.of_upload {device : Uuid} {keys : List KeyBytes}
    (hpc : pc.uploads = some (device, keys))
    (h : some (transact outcome w (w.withKeys (w.keys.storeOneTimePrekeys device x.now
    (withIds x keys))) fail done) = some (pc', w'))
    (hfail : ∀ what, (fail what).holds = none) (hdone : done.holds = none) :
    PrekeyEffect pc w pc' w' := by
  refine .of_transact h hfail ?_
  intro t pc'' ht hpc''
  refine .upload device keys _ hpc ⟨id, DevicePublicKeyEntity.Ages.refl, by
      rw [List.map_id]
      exact storeOneTimePrekeys_rows ht⟩ ?_ ?_
  · rw [← withIds_values x]
    exact liveValues_upload ht
  rcases hpc'' with rfl | ⟨what, rfl⟩
  · exact hdone
  · exact hfail what

/-- A claimed row was active, and only its status is different now. -/
theorem claimOneTimePrekey_eq {t t' : PublicKeyTable} {device : Uuid} {locked : List Uuid}
    {claimed : DevicePublicKeyEntity}
    (h : t.claimOneTimePrekey device locked = some (claimed, t')) :
    ∃ r ∈ t.rows, r.keyType = .oneTimePrekey ∧ r.keyStatus = .active ∧
      t' = t.markClaimed r.keyId ∧ (device, claimed.publicKey) = r.value := by
  obtain ⟨r, hr, heq⟩ := map_eq_some_iff.mp h
  cases heq
  have hmem := mem_filter.mp (firstBy_mem hr)
  obtain ⟨hrow, hkey⟩ := mem_filter.mp hmem.1
  obtain ⟨hdevice, htype, hactive⟩ := of_decide_eq_true hkey
  exact ⟨r, hrow, htype, hactive, rfl, by rw [value, hdevice]⟩

end

theorem PrekeyService.afterRotation_holds (svc : PrekeyService) (cmd : UpdatePrekeysCommand)
    (rotated : Bool) : (svc.afterRotation cmd rotated).holds = none := by
  unfold afterRotation
  split
  · rfl
  · split <;> rfl

open PrekeyPc

theorem PrekeyService.next_effect {svc : PrekeyService} {pc pc' : PrekeyPc}
    {w w' : PrekeyWorld} (h : svc.next pc x w = some (pc', w')) : PrekeyEffect pc w pc' w' := by
  cases pc with
  | replenishCalled | claimCalled | claimPreparing =>
    refine .of_query h (fun _ => rfl) ?_
    split <;> simp [holds, handedOut]
  | replenishChecking cmd rest =>
    cases rest with
    | nil =>
      cases h
      exact .stay rfl (by simp [holds, handedOut])
    | cons key rest =>
      refine .of_query h (fun _ => rfl) ?_
      split <;> simp [holds, handedOut]
  | replenishStoring | updateStoring => exact .of_upload rfl h (fun _ => rfl) rfl
  | replenishCounting | updateSearching | updateCounting | updateTotalling | claimReading =>
    exact .of_query h (fun _ => rfl) (by simp [holds, handedOut])
  | replenishReturned | updateReturned | claimReturned => cases h
  | updateCalled cmd =>
    simp only [next] at h
    split at h
    · cases h
      exact .stay rfl (by simp [holds, handedOut])
    refine .of_query h (fun _ => rfl) ?_
    split
    · simp [holds, handedOut]
    split
    · simp [svc.afterRotation_holds]
    · simp [holds, handedOut]
  | updateVerifying cmd =>
    refine .of_query h (fun _ => rfl) ?_
    split
    · simp [holds, handedOut]
    · split <;> simp [holds, handedOut]
  | updateReplacing cmd current =>
    refine .of_transact h (fun _ => rfl) ?_
    intro t pc'' ht hpc''
    have hnew : ∀ r ∈ [cmd.signedPrekey (x.fresh 0) x.now], r.keyType ≠ .oneTimePrekey := by
      simp [UpdatePrekeysCommand.signedPrekey]
    refine .ages _ (replaceOrStore_ages ht) hnew ?_
    rcases hpc'' with rfl | ⟨what, rfl⟩
    · simp [svc.afterRotation_holds]
    · simp [holds, handedOut]
  | claimTaking device identity signed =>
    simp only [next] at h
    split at h
    · exact .of_query h (fun _ => rfl)
        (by simp [holds, handedOut])
    rename_i claimed keys hclaim
    obtain ⟨r, hr, htype, hactive, rfl, hvalue⟩ := claimOneTimePrekey_eq hclaim
    refine .of_transact h (fun _ => rfl) ?_
    intro t pc'' ht hpc''
    refine .claim r hr htype hactive (Except.ok.inj ht).symm ?_
    rcases hpc'' with rfl | ⟨what, rfl⟩
    · simp [holds, hvalue]
    · simp [holds, handedOut]
  | claimCounting device identity signed claimed =>
    -- the answer hands out the key that was taken
    refine .of_query h (fun _ => rfl) ?_
    intro v hv
    simpa [holds, handedOut, bundle, Option.map_map, comp_def] using hv

/-! ## Whole runs -/

section
variable {ι : Type*} [DecidableEq ι] {svc : PrekeyService}

abbrev PrekeyService.system (svc : PrekeyService) :
    ι → PrekeyPc → PrekeyInput → PrekeyWorld → Option (PrekeyPc × PrekeyWorld) :=
  fun _ => svc.next

/-- Values are distinct, what a claimer holds was claimed, and no two hold the same value. -/
structure OneTime (c : Config ι PrekeyPc PrekeyWorld) : Prop where
  distinct : c.shared.keys.liveValues.Nodup
  claimed : ∀ i v, (c.proc i).holds = some v → c.shared.keys.Claimed v
  exclusive : ∀ i j v, i ≠ j → (c.proc i).holds = some v → (c.proc j).holds ≠ some v

theorem OneTime.of_holds {c : Config ι PrekeyPc PrekeyWorld} (h : OneTime c) {i : ι}
    {pc' : PrekeyPc} {w' : PrekeyWorld} (hdistinct : w'.keys.liveValues.Nodup)
    (hclaimed : ∀ v, c.shared.keys.Claimed v → w'.keys.Claimed v)
    (hholds : ∀ v, pc'.holds = some v → (c.proc i).holds = some v) :
    OneTime { proc := update c.proc i pc', shared := w' } := by
  have hback : ∀ j v, (update c.proc i pc' j).holds = some v → (c.proc j).holds = some v := by
    intro j v hv
    rcases update_cases hv with ⟨rfl, hown⟩ | ⟨-, hv⟩
    · exact hholds v hown
    · exact hv
  refine ⟨hdistinct, ?_, ?_⟩
  · intro j v hv
    exact hclaimed v (h.claimed j v (hback j v hv))
  intro j k v hjk hj hk
  exact h.exclusive j k v hjk (hback j v hj) (hback k v hk)

theorem OneTime.move {c c' : Config ι PrekeyPc PrekeyWorld} {i : ι}
    (hfresh : FreshUpload (c.proc i) c.shared) (h : OneTime c)
    (hmove : move svc.system c (i, x) = some c') : OneTime c' := by
  obtain ⟨pc', w', hnext, rfl⟩ := move_eq_some hmove
  cases next_effect hnext with
  | ages added hages hadded hholds =>
    exact h.of_holds (h.distinct.sublist (hages.liveValues_sublist hadded))
      (fun v => hages.claimed) hholds
  | upload device keys added hpc hages hvalues hholds =>
    simp only [FreshUpload, hpc] at hfresh
    have hdistinct : w'.keys.liveValues.Nodup := by
      rw [hvalues, nodup_append]
      refine ⟨h.distinct, hfresh.1.map (fun a b hab => (Prod.mk.inj hab).2), ?_⟩
      rintro v hv v' hv' rfl
      obtain ⟨key, hkey, rfl⟩ := mem_map.mp hv'
      exact hfresh.2 key hkey hv
    exact h.of_holds hdistinct (fun v => hages.claimed) (by simp [hholds])
  | claim r hr htype hactive hkeys hholds =>
    have hages := c.shared.keys.markClaimed_ages r.keyId
    have hnone := not_claimed_of_active h.distinct hr htype hactive
    have hnow : w'.keys.Claimed r.value := by
      refine ⟨{ r with keyStatus := .claimed }, ?_, htype, rfl, rfl⟩
      rw [hkeys]
      exact mem_map.mpr ⟨r, hr, by simp [hactive]⟩
    -- nobody holds the value yet: it would have been claimed
    have hothers : ∀ j, (c.proc j).holds ≠ some r.value :=
      fun j hj => hnone (h.claimed j _ hj)
    refine ⟨?_, ?_, ?_⟩
    · rw [hkeys]
      exact h.distinct.sublist (hages.liveValues_sublist (by simp))
    · intro j v hv
      rcases update_cases hv with ⟨-, hv⟩ | ⟨-, hv⟩
      · rw [hholds v hv]
        exact hnow
      rw [hkeys]
      exact hages.claimed (h.claimed j v hv)
    intro j k v hjk hj hk
    rcases update_cases hj with ⟨rfl, hj'⟩ | ⟨-, hj'⟩ <;>
      rcases update_cases hk with ⟨rfl, hk'⟩ | ⟨-, hk'⟩
    · exact hjk rfl
    · exact hothers k (hholds v hj' ▸ hk')
    · exact hothers j (hholds v hk' ▸ hj')
    · exact h.exclusive j k v hjk hj' hk'

theorem PrekeyPc.holds_of_handedOut {pc : PrekeyPc} {v : Uuid × KeyBytes}
    (h : pc.handedOut = some v) : pc.holds = some v := by
  unfold handedOut at h
  split at h
  · exact h
  · cases h

/-- **No one-time prekey value is handed out twice**, over every interleaving of uploads and claims in
which each upload brings new values. -/
theorem PrekeyService.one_time_prekeys_handed_out_once
    {c c' : Config ι PrekeyPc PrekeyWorld} {ms : List (ι × PrekeyInput)}
    (hstart : ∀ i, (c.proc i).holds = none) (hdistinct : c.shared.keys.liveValues.Nodup)
    (hfresh : ∀ e ∈ trace svc.system c ms, FreshUpload (e.1.proc e.2.1) e.1.shared)
    (hrun : run svc.system c ms = some c') :
    ∀ i j v, i ≠ j → (c'.proc i).handedOut = some v → (c'.proc j).handedOut ≠ some v := by
  have hinit : OneTime c := ⟨hdistinct, by simp [hstart], by simp [hstart]⟩
  have hend : OneTime c' := run_induction
    (fun d m d' (hm : FreshUpload (d.proc m.1) d.shared) hd hmove => hd.move hm hmove)
    hinit hfresh hrun
  intro i j v hij hi hj
  exact hend.exclusive i j v hij (holds_of_handedOut hi) (holds_of_handedOut hj)

end

/-! ## `update_crypto_prekeys` alone

The signed prekey and the one-time prekeys are two transactions, and the one-time prekeys are
VALIDATED only between them: a call that fails late has rotated the signed prekey already. -/

/-- The condition on a move, exactly: when a write of the call takes effect, its answer arrives, and what comes
after it in the call does not fail. -/
def PrekeyService.Steady (svc : PrekeyService) (x : PrekeyInput) (w : PrekeyWorld) : PrekeyPc → Bool
  | .updateReplacing cmd current =>
    !(x.outcome.takesEffect &&
      (w.withKeys (w.keys.replaceOrStore current (cmd.signedPrekey (x.fresh 0) x.now))).toBool) ||
    x.outcome.known && (cmd.newOneTimePrekeys = [] ||
      (validateOneTimePrekeys svc.rawPublicKey cmd.newOneTimePrekeys).isNone)
  | .updateStoring cmd rotated =>
    let stored := x.outcome.takesEffect && (w.withKeys (w.keys.storeOneTimePrekeys cmd.targetDeviceId x.now
      (withIds x cmd.newOneTimePrekeys))).toBool
    !(rotated || stored) || x.outcome.known && stored
  | .updateCounting _ _ | .updateTotalling _ _ _ => x.outcome.known && x.outcome.takesEffect
  | _ => true

/-- The keys of `w₀` with new rows. -/
def PrekeyWorld.Grown (w₀ w : PrekeyWorld) : Prop := w₀.keys.rows.length < w.keys.rows.length

/-- Where an update that began on `w₀` stands while it has not failed. -/
def PrekeyPc.Stands (w₀ w : PrekeyWorld) : PrekeyPc → Prop
  | .updateCalled _ | .updateVerifying _ | .updateSearching _ | .updateReplacing _ _ => w = w₀
  | .updateStoring cmd rotated =>
    cmd.newOneTimePrekeys ≠ [] ∧ if rotated then w₀.Grown w else w = w₀
  | .updateCounting _ _ | .updateTotalling _ _ _ => w₀.Grown w
  | .updateReturned (.ok _) => True
  | _ => False

/-- A move of the update: it goes on, and was steady; or it fails, with nothing changed if and only if it was. -/
def PrekeyPc.Moved (w₀ w' : PrekeyWorld) (steady : Bool) (pc' : PrekeyPc) : Prop :=
  pc'.Stands w₀ w' ∧ steady = true ∨
    (∃ error, pc' = .updateReturned (.error error)) ∧ (w' = w₀ ↔ steady = true)

section
variable {svc : PrekeyService} {pc pc' done : PrekeyPc} {x : PrekeyInput} {w₀ w w' : PrekeyWorld}
  {outcome : TransactionOutcome} {error : PrekeyError} {cmd : UpdatePrekeysCommand} {steady : Bool}

theorem PrekeyWorld.Grown.ne (h : w₀.Grown w) : w ≠ w₀ := by
  rintro rfl
  exact lt_irrefl _ h

theorem PrekeyWorld.grown_of_replaceOrStore {current : Option Uuid} {key : DevicePublicKeyEntity}
    (h : w.withKeys (w.keys.replaceOrStore current key) = .ok w') : w.Grown w' := by
  obtain ⟨t, ht, rfl⟩ := Checks.map_eq_ok.mp h
  obtain ⟨f, -, hrows⟩ := replaceOrStore_ages ht
  simp [Grown, hrows]

theorem PrekeyWorld.grown_of_storeOneTimePrekeys {device : Uuid} (hsome : cmd.newOneTimePrekeys ≠ [])
    (h : w.withKeys (w.keys.storeOneTimePrekeys device x.now (withIds x cmd.newOneTimePrekeys)) = .ok w') :
    w.Grown w' := by
  obtain ⟨t, ht, rfl⟩ := Checks.map_eq_ok.mp h
  simp [Grown, storeOneTimePrekeys_rows ht, withIds, length_pos_iff, hsome]

theorem PrekeyPc.moved_fails (h : w = w₀) : (updateReturned (.error error)).Moved w₀ w true :=
  .inr ⟨⟨_, rfl⟩, by simp [h]⟩

theorem PrekeyPc.Moved.of_query {fail : String → PrekeyError}
    (h : some (query outcome w (fun what => .updateReturned (.error (fail what))) done) = some (pc', w'))
    (hw : w = w₀) (hdone : done.Moved w₀ w true) : pc'.Moved w₀ w' true := by
  obtain ⟨rfl, rfl | ⟨what, rfl⟩⟩ := query_eq h
  · exact hdone
  · exact moved_fails hw

/-- The counts come last: the call has written. -/
theorem PrekeyPc.Moved.of_count {fail : String → PrekeyError}
    (h : some (query outcome w (fun what => .updateReturned (.error (fail what))) done) = some (pc', w'))
    (hgrown : w₀.Grown w) (hdone : done.Stands w₀ w) :
    pc'.Moved w₀ w' (outcome.known && outcome.takesEffect) := by
  cases outcome <;> cases h
  · exact .inl ⟨hdone, rfl⟩
  all_goals exact .inr ⟨⟨_, rfl⟩, iff_of_false hgrown.ne nofun⟩

theorem PrekeyService.afterRotation_moved (h : w₀.Grown w) :
    (svc.afterRotation cmd true).Moved w₀ w (cmd.newOneTimePrekeys = [] ||
      (validateOneTimePrekeys svc.rawPublicKey cmd.newOneTimePrekeys).isNone) := by
  unfold afterRotation
  split
  next hnil => exact .inl ⟨h, by simp [hnil]⟩
  next hsome =>
    split
    next error hinvalid => exact .inr ⟨⟨_, rfl⟩, iff_of_false h.ne (by simp [hsome, hinvalid])⟩
    next hvalid => exact .inl ⟨⟨hsome, h⟩, by simp [hvalid]⟩

theorem PrekeyPc.Stands.next (hs : pc.Stands w₀ w) (h : svc.next pc x w = some (pc', w')) :
    pc'.Moved w₀ w' (svc.Steady x w pc) := by
  cases pc with
  | updateCalled cmd =>
    simp only [PrekeyService.next] at h
    split at h
    · cases h
      exact moved_fails hs
    rename_i hsome
    refine .of_query h hs ?_
    split
    · exact moved_fails hs
    split
    next hnil =>
      have hkeys : cmd.newOneTimePrekeys ≠ [] := fun h => hsome ⟨hnil, h⟩
      unfold PrekeyService.afterRotation
      rw [if_neg hkeys]
      split
      · exact moved_fails hs
      · exact .inl ⟨⟨hkeys, hs⟩, rfl⟩
    · exact .inl ⟨hs, rfl⟩
  | updateVerifying cmd =>
    refine .of_query h hs ?_
    split
    · exact moved_fails hs
    split
    · exact moved_fails hs
    · exact .inl ⟨hs, rfl⟩
  | updateSearching cmd => exact .of_query h hs (.inl ⟨hs, rfl⟩)
  | updateReplacing cmd current =>
    obtain rfl : w = w₀ := hs
    rcases transact_eq h with ⟨rfl, what, rfl, hfail⟩ | ⟨hok, hend⟩
    · refine .inr ⟨⟨_, rfl⟩, iff_of_true rfl ?_⟩
      rcases hfail with hfail | hfail <;> simp [PrekeyService.Steady, hfail, Except.toBool,
        TransactionOutcome.takesEffect]
    have hgrown := PrekeyWorld.grown_of_replaceOrStore hok
    rcases hend with ⟨houtcome, rfl⟩ | ⟨what, houtcome, rfl⟩
    · have hmoved : (svc.afterRotation cmd true).Moved _ _ _ := PrekeyService.afterRotation_moved hgrown
      simpa [PrekeyService.Steady, houtcome, hok, Except.toBool, TransactionOutcome.takesEffect,
        TransactionOutcome.known] using hmoved
    · refine .inr ⟨⟨_, rfl⟩, iff_of_false hgrown.ne ?_⟩
      simp [PrekeyService.Steady, houtcome, hok, Except.toBool, TransactionOutcome.takesEffect,
        TransactionOutcome.known]
  | updateStoring cmd rotated =>
    obtain ⟨hsome, hs⟩ := hs
    rcases transact_eq h with ⟨rfl, what, rfl, hfail⟩ | ⟨hok, hend⟩
    · refine .inr ⟨⟨_, rfl⟩, ?_⟩
      have hsteady : svc.Steady x w' (.updateStoring cmd rotated) = !rotated := by
        rcases hfail with hfail | hfail <;> simp [PrekeyService.Steady, hfail, Except.toBool,
          TransactionOutcome.takesEffect]
      rw [hsteady]
      cases rotated with
      | true => exact iff_of_false hs.ne nofun
      | false => exact iff_of_true hs rfl
    have hgrown : w₀.Grown w' := by
      have hmore := PrekeyWorld.grown_of_storeOneTimePrekeys hsome hok
      cases rotated with
      | true => exact lt_trans hs hmore
      | false => exact hs ▸ hmore
    rcases hend with ⟨houtcome, rfl⟩ | ⟨what, houtcome, rfl⟩
    · exact .inl ⟨hgrown, by simp [PrekeyService.Steady, houtcome, hok, Except.toBool,
        TransactionOutcome.takesEffect, TransactionOutcome.known]⟩
    · refine .inr ⟨⟨_, rfl⟩, iff_of_false hgrown.ne ?_⟩
      simp [PrekeyService.Steady, houtcome, hok, Except.toBool, TransactionOutcome.takesEffect,
        TransactionOutcome.known]
  | updateCounting cmd rotated => exact .of_count h hs hs
  | updateTotalling cmd rotated added => exact .of_count h hs trivial
  | updateReturned => cases h
  | _ => exact hs.elim

theorem PrekeyPc.Stands.run (ms : List (Unit × PrekeyInput)) {d c : Config Unit PrekeyPc PrekeyWorld}
    (hd : (d.proc ()).Stands w₀ d.shared) (hrun : run svc.system d ms = some c) :
    (∀ error, c.proc () = .updateReturned (.error error) → c.shared = w₀) ↔
      ∀ e ∈ trace svc.system d ms, svc.Steady e.2.2 e.1.shared (e.1.proc e.2.1) = true := by
  induction ms generalizing d with
  | nil =>
    cases hrun
    refine iff_of_true (fun error herror => ?_) nofun
    rw [herror] at hd
    exact hd.elim
  | cons m ms ih =>
    obtain ⟨d', hmove, hrest⟩ := run_cons_eq_some hrun
    rw [forall_trace_cons hmove]
    obtain ⟨pc', w', hnext, rfl⟩ := move_eq_some hmove
    rcases hd.next hnext with ⟨hstands, hsteady⟩ | ⟨⟨error, rfl⟩, hsteady⟩
    · rw [ih hstands hrest]
      exact (and_iff_right hsteady).symm
    -- a call that has returned makes no further move
    cases ms with
    | nil =>
      cases hrest
      simp only [trace, not_mem_nil, false_implies, implies_true, and_true]
      rw [← hsteady]
      exact ⟨fun h => h error rfl, fun h _ _ => h⟩
    | cons m' ms =>
      obtain ⟨d'', hmove', -⟩ := run_cons_eq_some hrest
      obtain ⟨_, _, hnone, -⟩ := move_eq_some hmove'
      cases hnone

/-- **A failed update has changed nothing**, for a call that runs alone, exactly when it is steady. -/
theorem PrekeyService.failed_update_changes_nothing (svc : PrekeyService) (cmd : UpdatePrekeysCommand)
    (w : PrekeyWorld) (ms : List (Unit × PrekeyInput)) {c : Config Unit PrekeyPc PrekeyWorld}
    (hrun : run svc.system ⟨fun _ => .updateCalled cmd, w⟩ ms = some c) :
    (∀ error, c.proc () = .updateReturned (.error error) → c.shared = w) ↔
      ∀ e ∈ trace svc.system ⟨fun _ => .updateCalled cmd, w⟩ ms,
        svc.Steady e.2.2 e.1.shared (e.1.proc e.2.1) = true :=
  PrekeyPc.Stands.run ms rfl hrun

end

/-! ## A device and its claimers -/

namespace PrekeySample

def alice : Uuid := .ofByte 1
def phone : Uuid := .ofByte 3
def key : KeyBytes := List.replicate 31 0 ++ [9]

def service : PrekeyService where
  rawPublicKey := fun _ => true
  verifySignature := fun _ _ _ => none
  sha256Hex := fun _ => ""
  lowInventoryThreshold := 5

def world : PrekeyWorld where
  devices := fun id => if id = phone then some ⟨phone, alice, .active, 0⟩ else none
  keys :=
    { rows :=
        [{ keyId := .ofByte 10, deviceId := phone, keyType := .identitySigning, publicKey := [1]
           createdAt := 0 },
         { keyId := .ofByte 11, deviceId := phone, keyType := .signedPrekey, publicKey := [2]
           createdAt := 0 }]
      primaryKey := by decide }

def calls : Fin 4 → PrekeyPc
  | 0 => .updateCalled ⟨alice, phone, phone, [], [], [key]⟩
  | 1 => .replenishCalled ⟨alice, phone, phone, [key]⟩
  | 2 => .claimCalled phone
  | 3 => .claimCalled phone

def start : Config (Fin 4) PrekeyPc PrekeyWorld := ⟨calls, world⟩

def moves (i : Fin 4) (n : Nat) (id : UInt8) : List (Fin 4 × PrekeyInput) :=
  List.replicate n (i, { now := 1000, fresh := fun _ => .ofByte id })

open Lib.Interleaving.Numerals

def reuploaded : List (Fin 4 × PrekeyInput) :=
  moves 0 4 20 ++ moves 2 5 0 ++ moves 1 5 21 ++ moves 3 5 0

def uploadedOnce : List (Fin 4 × PrekeyInput) := moves 1 5 20 ++ moves 2 5 0 ++ moves 3 5 0

end PrekeySample

open PrekeySample in
/-- **The same key is handed out to both claimers**: once it was claimed it is no longer active, and
`replenish_one_time_prekeys` takes it again. -/
theorem reuploaded_prekey_handed_out_twice :
    (∀ i, (start.proc i).holds = none) ∧ start.shared.keys.liveValues.Nodup ∧
      (run service.system start reuploaded).map (fun c =>
        ((c.proc 2).handedOut, (c.proc 3).handedOut)) =
        some (some (phone, key), some (phone, key)) := by
  refine ⟨by decide, by decide, ?_⟩
  decide

open PrekeySample in
/-- After one upload, one claimer gets the key. -/
theorem uploaded_prekey_handed_out_once : ∃ c, run service.system start uploadedOnce = some c ∧
      ∀ i j v, i ≠ j → (c.proc i).handedOut = some v → (c.proc j).handedOut ≠ some v := by
  have hrun : (run service.system start uploadedOnce).isSome = true := by decide
  obtain ⟨c, hc⟩ := isSome_iff_exists.mp hrun
  refine ⟨c, hc, one_time_prekeys_handed_out_once (by decide) (by decide) ?_ hc⟩
  decide

namespace PrekeySample

def mixed : UpdatePrekeysCommand := ⟨alice, phone, phone, key, [1], [[]]⟩

def begun : Config Unit PrekeyPc PrekeyWorld := ⟨fun _ => .updateCalled mixed, world⟩

def undisturbed : List (Unit × PrekeyInput) := List.replicate 4 ((), { now := 1000 })

def unread : List (Unit × PrekeyInput) := [((), { now := 1000, outcome := .aborted "timeout" })]

/-- **The update is refused, and the signed prekey is a new one.** -/
theorem refused_update_rotates :
    ∃ c error, run service.system begun undisturbed = some c ∧
      c.proc () = .updateReturned (.error error) ∧
      (c.shared.keys.findActiveSignedPrekey phone).map (·.publicKey) = some key ∧
      (world.keys.findActiveSignedPrekey phone).map (·.publicKey) = some [2] :=
  ⟨_, _, rfl, rfl, by decide, by decide⟩

theorem unread_update_changes_nothing :
    ∃ c, run service.system begun unread = some c ∧ c.shared = world :=
  ⟨_, rfl, (service.failed_update_changes_nothing mixed world unread rfl).mpr (by decide) _ rfl⟩

end PrekeySample

/-! ## What is never undone -/

theorem DevicePublicKeyEntity.Ages.trans {r r' r'' : DevicePublicKeyEntity} (h : r.Ages r')
    (h' : r'.Ages r'') : r.Ages r'' where
  keyId := h'.keyId.trans h.keyId
  deviceId := h'.deviceId.trans h.deviceId
  keyType := h'.keyType.trans h.keyType
  publicKey := h'.publicKey.trans h.publicKey
  keyStatus := by
    rcases h.keyStatus with hsame | hactive
    · rw [← hsame]
      exact h'.keyStatus
    · exact .inr hactive

theorem PrekeyEffect.ages_keys {pc pc' : PrekeyPc} {w w' : PrekeyWorld} (h : PrekeyEffect pc w pc' w') :
    ∃ added, w.keys.Ages w'.keys added := by
  cases h with
  | ages added hages | upload _ _ added _ hages => exact ⟨added, hages⟩
  | claim r _ _ _ hkeys =>
    rw [hkeys]
    exact ⟨[], markClaimed_ages _ _⟩

/-- What a call holds when it has moved, it held before, or it is the value of a row claimed now. -/
theorem PrekeyEffect.holds_claimed {pc pc' : PrekeyPc} {w w' : PrekeyWorld}
    (h : PrekeyEffect pc w pc' w') {v : Uuid × KeyBytes} (hv : pc'.holds = some v) :
    pc.holds = some v ∨ w'.keys.Claimed v := by
  cases h with
  | ages _ _ _ hholds => exact .inl (hholds v hv)
  | upload _ _ _ _ _ _ hholds => simp [hholds] at hv
  | claim r hr htype hactive hkeys hholds =>
    refine .inr ⟨{ r with keyStatus := .claimed }, ?_, htype, rfl, (hholds v hv).symm⟩
    rw [hkeys]
    exact mem_map.mpr ⟨r, hr, by simp [hactive]⟩

variable {ι : Type*} [DecidableEq ι]

/-- **Keys are never taken back**: along any replenishments, updates and claims no row of the key table
is lost, changes its device, type or key, or becomes active again, and what a claimer was given stays
recorded as claimed. No freshness of the uploads is asked for. -/
theorem PrekeyService.keys_only_age (svc : PrekeyService) (c₀ c₁ c₂ : Config ι PrekeyPc PrekeyWorld)
    (before after : List (ι × PrekeyInput)) (hstart : ∀ i, (c₀.proc i).holds = none)
    (hbefore : run svc.system c₀ before = some c₁) (hafter : run svc.system c₁ after = some c₂) :
    (∀ r ∈ c₁.shared.keys.rows, ∃ r' ∈ c₂.shared.keys.rows, r.Ages r') ∧
      ∀ i v, (c₁.proc i).handedOut = some v → c₂.shared.keys.Claimed v := by
  have hheld : ∀ i v, (c₁.proc i).holds = some v → c₁.shared.keys.Claimed v := by
    refine run_induction (A := fun _ _ => True)
      (I := fun d => ∀ i v, (d.proc i).holds = some v → d.shared.keys.Claimed v) ?_
      (by simp [hstart]) (fun _ _ => trivial) hbefore
    rintro d ⟨i, x⟩ d' - hd hmove j v hv
    obtain ⟨pc', w', hnext, rfl⟩ := move_eq_some hmove
    have heffect := next_effect hnext
    obtain ⟨added, hages⟩ := heffect.ages_keys
    rcases update_cases hv with ⟨-, hown⟩ | ⟨-, hother⟩
    · exact (heffect.holds_claimed hown).elim (fun hheld => hages.claimed (hd _ v hheld)) id
    · exact hages.claimed (hd j v hother)
  have hrows := run_related (R := fun w w' : PrekeyWorld =>
      ∀ r ∈ w.keys.rows, ∃ r' ∈ w'.keys.rows, r.Ages r') (fun _ r hr => ⟨r, hr, .refl r⟩) ?_ ?_ hafter
  · refine ⟨hrows, fun i v hv => ?_⟩
    obtain ⟨r, hr, htype, hclaimed, rfl⟩ := hheld i v (PrekeyPc.holds_of_handedOut hv)
    obtain ⟨r', hr', hages⟩ := hrows r hr
    refine ⟨r', hr', hages.keyType.trans htype, ?_, ?_⟩
    · rcases hages.keyStatus with hsame | hactive
      · exact hsame.trans hclaimed
      · simp [hclaimed] at hactive
    · simp only [value, hages.deviceId, hages.publicKey]
  · intro w w' w'' h h' r hr
    obtain ⟨r', hr', hages⟩ := h r hr
    obtain ⟨r'', hr'', hages'⟩ := h' r' hr'
    exact ⟨r'', hr'', hages.trans hages'⟩
  · intro _ pc x w pc' w' hnext r hr
    obtain ⟨added, f, hf, hrows⟩ := (next_effect hnext).ages_keys
    refine ⟨f r, ?_, hf r⟩
    rw [hrows]
    exact mem_append_left _ (mem_map_of_mem hr)

open PrekeySample in
/-- The key that is uploaded twice: what the first claimer was given stays claimed. -/
theorem reuploaded_key_stays_claimed : ∃ c₁ c₂, run service.system start (reuploaded.take 9) = some c₁ ∧
    run service.system c₁ (reuploaded.drop 9) = some c₂ ∧
    (∃ i, (c₁.proc i).handedOut = some (phone, key)) ∧ c₂.shared.keys.Claimed (phone, key) := by
  simp only [exists_and_left]
  refine exists_of_any (fun c₁ => (run service.system c₁ (reuploaded.drop 9)).isSome ∧
    ∃ i, (c₁.proc i).handedOut = some (phone, key)) (by decide) ?_
  rintro c₁ hbefore ⟨hsome, i, hi⟩
  obtain ⟨c₂, hafter⟩ := isSome_iff_exists.mp hsome
  exact ⟨c₂, hafter, ⟨i, hi⟩,
    (service.keys_only_age _ c₁ c₂ _ _ (by decide) hbefore hafter).2 i _ hi⟩

end SecureCloud.Auth
