import SecureCloud.Auth.Session

/-
# Auth.PublicKeys — `device_public_keys` and the prekey checks

The table of public keys with its statements, and the validators of uploaded keys. A row is inserted
`Active` and leaves that status for good: `Replaced` by a newer signed prekey, `Revoked` with its device,
or, a one-time prekey, `Claimed`. The primary key is the random `key_id`: nothing keeps one key VALUE
from being stored twice.
-/

namespace SecureCloud.Auth

open List

/-! ## Rows -/

abbrev KeyBytes := List UInt8

inductive KeyType
  | identitySigning
  | signedPrekey
  | oneTimePrekey
deriving DecidableEq

inductive KeyStatus
  | active
  | replaced
  | revoked
  | claimed
deriving DecidableEq

def KeyStatus.toString : KeyStatus → String
  | active => "Active"
  | replaced => "Replaced"
  | revoked => "Revoked"
  | claimed => "Claimed"

/-- Row of `device_public_keys`. -/
structure DevicePublicKeyEntity where
  keyId : Uuid
  deviceId : Uuid
  keyType : KeyType
  publicKey : KeyBytes
  keyStatus : KeyStatus := .active
  createdAt : TimePoint
  revokedAt : Option TimePoint := none
  replacedByKeyId : Option Uuid := none
  signature : Option (List UInt8) := none
deriving DecidableEq

/-- `ORDER BY … LIMIT 1`: the row that no other one comes `before`. -/
def firstBy (before : DevicePublicKeyEntity → DevicePublicKeyEntity → Bool) :
    List DevicePublicKeyEntity → Option DevicePublicKeyEntity
  | [] => none
  | r :: rows =>
    match firstBy before rows with
    | none => some r
    | some first => some (if before first r then first else r)

variable {before : DevicePublicKeyEntity → DevicePublicKeyEntity → Bool}
  {rows : List DevicePublicKeyEntity}

theorem firstBy_mem {r : DevicePublicKeyEntity} (h : firstBy before rows = some r) : r ∈ rows := by
  induction rows generalizing r with
  | nil => cases h
  | cons r₀ rows ih =>
    simp only [firstBy] at h
    split at h
    · exact mem_cons.mpr (.inl (Option.some.inj h).symm)
    rename_i first hfirst
    cases h
    split_ifs
    · exact mem_cons_of_mem _ (ih hfirst)
    · exact mem_cons_self

theorem firstBy_eq_none (h : firstBy before rows = none) : rows = [] := by
  cases rows with
  | nil => rfl
  | cons r rows =>
    simp only [firstBy] at h
    split at h <;> cases h

/-- `ORDER BY created_at DESC LIMIT 1`. -/
def newest : List DevicePublicKeyEntity → Option DevicePublicKeyEntity :=
  firstBy fun r r' => r'.createdAt < r.createdAt

/-- `ORDER BY created_at ASC LIMIT 1`. -/
def oldest : List DevicePublicKeyEntity → Option DevicePublicKeyEntity :=
  firstBy fun r r' => r.createdAt < r'.createdAt

/-- The table; `key_id` is its primary key. -/
structure PublicKeyTable where
  rows : List DevicePublicKeyEntity
  primaryKey : (rows.map (·.keyId)).Nodup

namespace PublicKeyTable

/-- `UPDATE device_public_keys SET f WHERE p`; no statement changes a key id. -/
def update (t : PublicKeyTable) (p : DevicePublicKeyEntity → Bool)
    (f : DevicePublicKeyEntity → DevicePublicKeyEntity) (hf : ∀ r, (f r).keyId = r.keyId) :
    PublicKeyTable where
  rows := t.rows.map fun r => if p r then f r else r
  primaryKey := by
    have hkeys : (fun r : DevicePublicKeyEntity => r.keyId) ∘ (fun r => if p r then f r else r) =
        fun r => r.keyId := by
      funext r
      simp only [Function.comp]
      split_ifs
      · exact hf r
      · rfl
    rw [List.map_map, hkeys]
    exact t.primaryKey

/-- `store_public_key`; the error is the text of the `DuplicateEntityException`. -/
def storePublicKey (t : PublicKeyTable) (key : DevicePublicKeyEntity) :
    Except String PublicKeyTable :=
  if h : key.keyId ∈ t.rows.map (·.keyId) then
    .error ("Device public key already exists: " ++ key.keyId.toString)
  else .ok
    { rows := t.rows ++ [key]
      primaryKey := by
        rw [List.map_append, List.nodup_append]
        refine ⟨t.primaryKey, List.nodup_singleton _, ?_⟩
        intro a ha b hb heq
        rw [List.map_singleton, List.mem_singleton] at hb
        exact h (hb ▸ heq ▸ ha) }

def oneTimePrekey (deviceId : Uuid) (now : TimePoint) (key : Uuid × KeyBytes) :
    DevicePublicKeyEntity where
  keyId := key.1
  deviceId := deviceId
  keyType := .oneTimePrekey
  publicKey := key.2
  createdAt := now

/-- `store_one_time_prekeys`, one transaction; each key comes with the id generated for it. -/
def storeOneTimePrekeys (t : PublicKeyTable) (deviceId : Uuid) (now : TimePoint) :
    List (Uuid × KeyBytes) → Except String PublicKeyTable
  | [] => .ok t
  | key :: keys =>
    match t.storePublicKey (oneTimePrekey deviceId now key) with
    | .error what => .error what
    | .ok t' => t'.storeOneTimePrekeys deviceId now keys

def activeKeys (t : PublicKeyTable) (deviceId : Uuid) (keyType : KeyType) :
    List DevicePublicKeyEntity :=
  t.rows.filter fun r => r.deviceId = deviceId ∧ r.keyType = keyType ∧ r.keyStatus = .active

def findActiveIdentityKey (t : PublicKeyTable) (deviceId : Uuid) : Option DevicePublicKeyEntity :=
  newest (t.activeKeys deviceId .identitySigning)

def findActiveSignedPrekey (t : PublicKeyTable) (deviceId : Uuid) : Option DevicePublicKeyEntity :=
  newest (t.activeKeys deviceId .signedPrekey)

def countActiveOneTimePrekeys (t : PublicKeyTable) (deviceId : Uuid) : Nat :=
  (t.activeKeys deviceId .oneTimePrekey).length

def hasActiveKeyConflict (t : PublicKeyTable) (deviceId : Uuid) (key : KeyBytes) : Bool :=
  t.rows.any fun r => r.deviceId = deviceId ∧ r.publicKey = key ∧ r.keyStatus = .active

/-- `kMarkPrekeyClaimedSql`. -/
def markClaimed (t : PublicKeyTable) (keyId : Uuid) : PublicKeyTable :=
  t.update (fun r => r.keyId = keyId ∧ r.keyStatus = .active)
    (fun r => { r with keyStatus := .claimed }) fun _ => rfl

/-- `claim_one_time_prekey`: the oldest active one-time prekey nobody has locked (`SKIP LOCKED`), locked
until the commit: one step. -/
def claimOneTimePrekey (t : PublicKeyTable) (deviceId : Uuid) (locked : List Uuid) :
    Option (DevicePublicKeyEntity × PublicKeyTable) :=
  (oldest ((t.activeKeys deviceId .oneTimePrekey).filter (·.keyId ∉ locked))).map fun r =>
    ({ r with keyStatus := .claimed }, t.markClaimed r.keyId)

/-- `replace_key`; the error is the text of the exception. -/
def replaceKey (t : PublicKeyTable) (oldKeyId : Uuid) (newKey : DevicePublicKeyEntity) :
    Except String PublicKeyTable :=
  match t.rows.find? (·.keyId = oldKeyId) with
  | none => .error ("Device public key not found: " ++ oldKeyId.toString)
  | some old =>
    if old.keyStatus ≠ .active then
      .error ("Cannot replace non-active public key (" ++ old.keyStatus.toString ++ "): " ++
        oldKeyId.toString)
    else match t.storePublicKey newKey with
      | .error what => .error what
      | .ok t' => .ok (t'.update (fun r => r.keyId = oldKeyId ∧ r.keyStatus = .active)
          (fun r => { r with keyStatus := .replaced, replacedByKeyId := some newKey.keyId })
          fun _ => rfl)

/-- What both services do with a new signed prekey: it replaces the one that was found active. -/
def replaceOrStore (t : PublicKeyTable) (current : Option Uuid) (newKey : DevicePublicKeyEntity) :
    Except String PublicKeyTable :=
  match current with
  | some old => t.replaceKey old newKey
  | none => t.storePublicKey newKey

end PublicKeyTable

open PublicKeyTable

/-! ## Checks of uploaded keys -/

def privateKeyMarkers : List String :=
  ["private key", "private_key", "begin private key", "begin ec private key",
    "begin rsa private key", "begin openssh private key", "begin ed25519 private key",
    "encrypted private key"]

def lowerByte (b : UInt8) : UInt8 := if 65 ≤ b ∧ b ≤ 90 then b + 32 else b

def bufferContainsCiSubstring (buffer : KeyBytes) (needle : String) : Bool :=
  let needle := needle.toList.map fun c => lowerByte (UInt8.ofNat c.toNat)
  (buffer.map lowerByte).tails.any needle.isPrefixOf

def containsPrivateKeyMaterial (buffer : KeyBytes) : Bool :=
  privateKeyMarkers.any (bufferContainsCiSubstring buffer) ||
    (buffer[0]? == some 0x30 && buffer[2]? == some 0x02 && buffer[3]? == some 0x01 &&
      buffer[4]? == some 0x00)

/-- `PrekeyValidator::validate_single_prekey`, with its error. `rawPublicKey`: the library takes the bytes
for an X25519 key. -/
def validateSinglePrekey (rawPublicKey : KeyBytes → Bool) (key : KeyBytes) : Option String :=
  if key.length ≠ 32 then
    some ("One-time prekey must be exactly 32 bytes (X25519 public key), got " ++
      toString key.length ++ " bytes")
  else if containsPrivateKeyMaterial key then
    some "One-time prekey contains private key material (Zero Private Key Invariant violated)"
  else if key.all (· == 0x00) then some "One-time prekey cannot be all zeros (degenerate point)"
  else if key.all (· == 0xff) then some "One-time prekey cannot be all 0xFF (invalid point)"
  else if !rawPublicKey key then some "Invalid X25519 public key format"
  else none

/-- The loop of `validate_prekey_batch`, at `index`, with the keys `seen` before. -/
def validatePrekeys (rawPublicKey : KeyBytes → Bool) (index : Nat) (seen : List KeyBytes) :
    List KeyBytes → Option String
  | [] => none
  | key :: keys =>
    match validateSinglePrekey rawPublicKey key with
    | some error => some ("Key at index " ++ toString index ++ " is invalid: " ++ error)
    | none =>
      if key ∈ seen then
        some ("Duplicate one-time prekey found within batch at index " ++ toString index)
      else validatePrekeys rawPublicKey (index + 1) (key :: seen) keys

def validatePrekeyBatch (rawPublicKey : KeyBytes → Bool) (keys : List KeyBytes) : Option String :=
  if keys.length < 1 then some "Prekey batch must contain at least 1 key(s)"
  else if 100 < keys.length then
    some ("Prekey batch exceeds maximum allowed limit of 100 keys, got " ++ toString keys.length)
  else validatePrekeys rawPublicKey 0 [] keys

def validateSignedPrekey (rawPublicKey : KeyBytes → Bool) (key : KeyBytes) : Option String :=
  if key.length ≠ 32 then
    some ("Signed prekey must be exactly 32 bytes (X25519 public key), got " ++
      toString key.length ++ " bytes")
  else if containsPrivateKeyMaterial key then
    some "Signed prekey contains private key material (Zero Private Key Invariant violated)"
  else if !rawPublicKey key then some "Invalid X25519 public key format"
  else none

/-- `DeviceKeyValidator::validate_one_time_prekeys`: unlike in `replenish_one_time_prekeys`, the keys are
not compared with each other. -/
def validateOneTimePrekeys (rawPublicKey : KeyBytes → Bool) (keys : List KeyBytes) :
    Option String :=
  if 100 < keys.length then
    some ("One-time prekeys batch exceeds limit of 100 keys (received " ++ toString keys.length ++
      ")")
  else keys.zipIdx.findSome? fun (key, index) =>
    (validateSignedPrekey rawPublicKey key).map fun error =>
      "One-time prekey at index " ++ toString index ++ " is invalid: " ++ error

/-! ## How rows change -/

/-- A row keeps what it is, and leaves `Active` at most once. -/
structure DevicePublicKeyEntity.Ages (r r' : DevicePublicKeyEntity) : Prop where
  keyId : r'.keyId = r.keyId
  deviceId : r'.deviceId = r.deviceId
  keyType : r'.keyType = r.keyType
  publicKey : r'.publicKey = r.publicKey
  keyStatus : r'.keyStatus = r.keyStatus ∨ r.keyStatus = .active

theorem DevicePublicKeyEntity.Ages.refl (r : DevicePublicKeyEntity) : r.Ages r :=
  ⟨rfl, rfl, rfl, rfl, .inl rfl⟩

def PublicKeyTable.Ages (t t' : PublicKeyTable) (added : List DevicePublicKeyEntity) : Prop :=
  ∃ f, (∀ r : DevicePublicKeyEntity, r.Ages (f r)) ∧ t'.rows = t.rows.map f ++ added

section
variable {t t' : PublicKeyTable}

theorem PublicKeyTable.Ages.refl (t : PublicKeyTable) : t.Ages t [] :=
  ⟨id, DevicePublicKeyEntity.Ages.refl, by simp⟩

theorem PublicKeyTable.ages_update {p : DevicePublicKeyEntity → Bool}
    {f : DevicePublicKeyEntity → DevicePublicKeyEntity} (hf : ∀ r, (f r).keyId = r.keyId)
    (h : ∀ r, p r = true → r.Ages (f r)) : t.Ages (t.update p f hf) [] := by
  refine ⟨fun r => if p r then f r else r, ?_, by simp [update]⟩
  intro r
  dsimp only
  split_ifs with hp
  · exact h r hp
  · exact .refl r

theorem PublicKeyTable.storePublicKey_rows {key : DevicePublicKeyEntity}
    (h : t.storePublicKey key = .ok t') : t'.rows = t.rows ++ [key] := by
  unfold storePublicKey at h
  split_ifs at h
  rw [← Except.ok.inj h]

theorem PublicKeyTable.storeOneTimePrekeys_rows {deviceId : Uuid} {now : TimePoint}
    {keys : List (Uuid × KeyBytes)} (h : t.storeOneTimePrekeys deviceId now keys = .ok t') :
    t'.rows = t.rows ++ keys.map (oneTimePrekey deviceId now) := by
  induction keys generalizing t with
  | nil =>
    cases h
    simp
  | cons key keys ih =>
    simp only [storeOneTimePrekeys] at h
    split at h
    · cases h
    rename_i t₁ h₁
    rw [ih h, storePublicKey_rows h₁]
    simp

theorem PublicKeyTable.markClaimed_ages (t : PublicKeyTable) (keyId : Uuid) :
    t.Ages (t.markClaimed keyId) [] := by
  apply ages_update
  intro r hr
  have hactive : r.keyStatus = .active := (of_decide_eq_true hr).2
  exact ⟨rfl, rfl, rfl, rfl, .inr hactive⟩

variable {newKey : DevicePublicKeyEntity}

theorem PublicKeyTable.replaceKey_ages {oldKeyId : Uuid}
    (h : t.replaceKey oldKeyId newKey = .ok t') : t.Ages t' [newKey] := by
  unfold replaceKey at h
  split at h
  · cases h
  rename_i old hold
  split_ifs at h
  split at h
  · cases h
  rename_i t₁ ht₁
  cases h
  -- the new row is not the one that is marked: its id was free
  have hne : newKey.keyId ≠ oldKeyId := by
    intro heq
    have hmem : oldKeyId ∈ t.rows.map (·.keyId) :=
      mem_map.mpr ⟨old, mem_of_find?_eq_some hold, by simpa using find?_some hold⟩
    rw [storePublicKey, dif_pos (heq ▸ hmem)] at ht₁
    cases ht₁
  refine ⟨fun r => if r.keyId = oldKeyId ∧ r.keyStatus = .active then
    { r with keyStatus := .replaced, replacedByKeyId := some newKey.keyId } else r, ?_, ?_⟩
  · intro r
    dsimp only
    split_ifs with hr
    · exact ⟨rfl, rfl, rfl, rfl, .inr hr.2⟩
    · exact .refl r
  · simp [update, storePublicKey_rows ht₁, hne]

theorem PublicKeyTable.replaceOrStore_ages {current : Option Uuid}
    (h : t.replaceOrStore current newKey = .ok t') : t.Ages t' [newKey] := by
  cases current with
  | some old => exact replaceKey_ages h
  | none => exact ⟨id, .refl, by rw [map_id, storePublicKey_rows h]⟩

end

end SecureCloud.Auth
