import SecureCloud.Lib.Checks
import SecureCloud.Messaging.Domain

/-
# Messaging.RecipientDevices — who a message has to be encrypted for

`RecipientDeviceResolutionService`: the device directory of the Auth service behind an LRU cache with a
time to live, and `validate_submission_targets`.

The main theorem: a target list is accepted exactly when it names every active device of every participant
except the sender's own. The sender is optional (an empty id is "not given"), and the sender device is
told from the others by its id alone.
-/

namespace SecureCloud.Messaging

open Lib.Checks Function List

/-! ## Records of the directory -/

/-- `auth.v1.DeviceStatus`; a proto3 enum is open. -/
inductive DirectoryDeviceStatus
  | unspecified
  | active
  | revoked
  | pendingAuthorization
  | unrecognized (value : Int)
deriving DecidableEq

def DirectoryDeviceStatus.toInt : DirectoryDeviceStatus → Int
  | unspecified => 0
  | active => 1
  | revoked => 2
  | pendingAuthorization => 3
  | unrecognized value => value

structure DeviceCryptoRecord where
  deviceId : DeviceId
  status : DirectoryDeviceStatus := .unspecified
deriving DecidableEq

structure CryptoDirectoryError where
  message : String

/-! ## The cache -/

structure CacheEntry where
  records : List DeviceCryptoRecord
  cachedAt : TimePoint

/-- List and map have the same users, so `entries_.size()` is the length of the list, at most
`capacity`. -/
structure DeviceDirectoryCache where
  capacity : Nat
  ttl : Int
  lruOrder : List UserId
  entries : UserId → Option CacheEntry
  capacity_pos : 0 < capacity
  nodup : lruOrder.Nodup
  tracked : ∀ user, user ∈ lruOrder ↔ (entries user).isSome
  bounded : lruOrder.length ≤ capacity

namespace DeviceDirectoryCache

/-- The constructor; a capacity of `0` is taken for `1`. -/
def create (capacity : Nat) (ttl : Int) : DeviceDirectoryCache where
  capacity := if 0 < capacity then capacity else 1
  ttl := ttl
  lruOrder := []
  entries := fun _ => none
  capacity_pos := by split <;> omega
  nodup := List.nodup_nil
  tracked := by simp
  bounded := Nat.zero_le _

variable (c : DeviceDirectoryCache)

/-- `invalidate`, and what `get` does with an entry that has expired. -/
def invalidate (user : UserId) : DeviceDirectoryCache where
  capacity := c.capacity
  ttl := c.ttl
  lruOrder := c.lruOrder.erase user
  entries := update c.entries user none
  capacity_pos := c.capacity_pos
  nodup := c.nodup.erase user
  tracked := by
    intro u
    rw [c.nodup.mem_erase_iff, c.tracked]
    by_cases hu : u = user
    · subst hu
      simp
    · simp [hu]
  bounded := le_trans List.length_erase_le c.bounded

def refresh (user : UserId) (e : CacheEntry) (h : user ∈ c.lruOrder) : DeviceDirectoryCache where
  capacity := c.capacity
  ttl := c.ttl
  lruOrder := user :: c.lruOrder.erase user
  entries := update c.entries user (some e)
  capacity_pos := c.capacity_pos
  nodup := List.nodup_cons.mpr ⟨c.nodup.not_mem_erase, c.nodup.erase user⟩
  tracked := by
    intro u
    rw [List.mem_cons, c.nodup.mem_erase_iff, c.tracked]
    by_cases hu : u = user
    · subst hu
      simp
    · simp [hu]
  bounded := by
    have hpos := List.length_pos_of_mem h
    have hbounded := c.bounded
    rw [List.length_cons, List.length_erase_of_mem h]
    omega

/-- A full cache drops the user at the back; the list has no duplicates, so that erasing the user is
`pop_back`. -/
def evict : DeviceDirectoryCache :=
  if c.capacity ≤ c.lruOrder.length then
    match c.lruOrder.getLast? with
    | some oldest => c.invalidate oldest
    | none => c
  else c

theorem evict_length_lt : c.evict.lruOrder.length < c.capacity := by
  unfold evict
  split
  next hfull =>
    have hpos := c.capacity_pos
    split
    next oldest holdest =>
      have hmem := mem_of_getLast? holdest
      have hbounded := c.bounded
      show (c.lruOrder.erase oldest).length < c.capacity
      rw [length_erase_of_mem hmem]
      omega
    rename_i hnone
    rw [getLast?_eq_none_iff.mp hnone, length_nil] at hfull
    omega
  · omega

theorem evict_capacity : c.evict.capacity = c.capacity := by
  unfold evict
  split
  · split <;> rfl
  · rfl

def insertFront (user : UserId) (e : CacheEntry)
    (hnew : user ∉ c.lruOrder) (hroom : c.lruOrder.length < c.capacity) : DeviceDirectoryCache where
  capacity := c.capacity
  ttl := c.ttl
  lruOrder := user :: c.lruOrder
  entries := update c.entries user (some e)
  capacity_pos := c.capacity_pos
  nodup := List.nodup_cons.mpr ⟨hnew, c.nodup⟩
  tracked := by
    intro u
    rw [List.mem_cons, c.tracked]
    by_cases hu : u = user
    · subst hu
      simp
    · simp [hu]
  bounded := hroom

theorem not_mem_evict {c : DeviceDirectoryCache} {user : UserId} (h : user ∉ c.lruOrder) :
    user ∉ c.evict.lruOrder := by
  unfold evict
  split
  · split
    · exact fun hmem => h (mem_of_mem_erase hmem)
    · exact h
  · exact h

def get (now : TimePoint) (user : UserId) :
    Option (List DeviceCryptoRecord) × DeviceDirectoryCache :=
  match h : c.entries user with
  | none => (none, c)
  | some e =>
    if c.ttl < now - e.cachedAt then (none, c.invalidate user)
    else (some e.records, c.refresh user e ((c.tracked user).mpr (by rw [h]; rfl)))

def put (now : TimePoint) (user : UserId)
    (records : List DeviceCryptoRecord) : DeviceDirectoryCache :=
  if h : user ∈ c.lruOrder then c.refresh user ⟨records, now⟩ h
  else c.evict.insertFront user ⟨records, now⟩ (not_mem_evict h)
    (by rw [c.evict_capacity]; exact c.evict_length_lt)

def invalidateDevice (device : DeviceId) : DeviceDirectoryCache :=
  (c.lruOrder.filter fun user => (c.entries user).any fun e => e.records.any (·.deviceId = device))
    |>.foldl invalidate c

end DeviceDirectoryCache

/-! ## Resolution -/

/-- The environment's part of a lookup: two clock readings, and what the Auth service answers if asked. -/
structure DirectoryQuery where
  getAt : TimePoint
  putAt : TimePoint
  answer : Except CryptoDirectoryError (List DeviceCryptoRecord)

structure RecipientDeviceResolutionService where
  hasAuthClient : Bool
  cache : DeviceDirectoryCache

abbrev DeviceDirectory := UserId → Option (List DeviceCryptoRecord)

namespace RecipientDeviceResolutionService

variable (svc : RecipientDeviceResolutionService)

def resolveDevicesForUser (q : DirectoryQuery) (user : UserId) :
    Except CryptoDirectoryError (List DeviceCryptoRecord) × RecipientDeviceResolutionService :=
  match svc.cache.get q.getAt user with
  | (some records, cache) => (.ok records, { svc with cache := cache })
  | (none, cache) =>
    if svc.hasAuthClient then
      match q.answer with
      | .error e => (.error e, { svc with cache := cache })
      | .ok records => (.ok records, { svc with cache := cache.put q.putAt user records })
    else (.error ⟨"Auth crypto directory client is uninitialized"⟩, { svc with cache := cache })

/-- The loop of `resolve_devices_for_users`, with the map it has built. -/
def resolveFrom (queries : UserId → DirectoryQuery) (svc : RecipientDeviceResolutionService)
    (dir : DeviceDirectory) :
    List UserId → Except CryptoDirectoryError DeviceDirectory × RecipientDeviceResolutionService
  | [] => (.ok dir, svc)
  | user :: users =>
    if (dir user).isSome then resolveFrom queries svc dir users
    else match svc.resolveDevicesForUser (queries user) user with
      | (.error e, svc) => (.error e, svc)
      | (.ok records, svc) =>
        resolveFrom queries svc (update dir user (some records)) users

/-- `resolve_devices_for_users`. No user is looked up twice in a call. -/
def resolveDevicesForUsers (queries : UserId → DirectoryQuery) (users : List UserId) :
    Except CryptoDirectoryError DeviceDirectory × RecipientDeviceResolutionService :=
  resolveFrom queries svc (fun _ => none) users

end RecipientDeviceResolutionService

/-! ## Validation of targets -/

structure PerDeviceEnvelope where
  recipientUserId : UserId
  recipientDeviceId : DeviceId
deriving DecidableEq

structure TargetDeviceValidationResult where
  isValid : Bool
  errorCode : MessagingErrorCode := .unspecified
  errorMessage : String := ""
  omittedDeviceIds : List DeviceId := []
deriving DecidableEq

structure TargetRejection where
  errorCode : MessagingErrorCode
  errorMessage : String

def TargetRejection.result (r : TargetRejection) : TargetDeviceValidationResult :=
  { isValid := false, errorCode := r.errorCode, errorMessage := r.errorMessage }

structure MessageSender where
  userId : UserId
  deviceId : DeviceId

/-- 1. Participant membership and self-targeting. -/
def membershipCheck (participants : List UserId) (sender : MessageSender) (env : PerDeviceEnvelope) :
    Except TargetRejection Unit := do
  require (¬ (sender.deviceId ≠ "" ∧ env.recipientDeviceId = sender.deviceId))
    ⟨.invalidTargetDevice, "Sender device cannot target itself: " ++ sender.deviceId⟩
  require (env.recipientUserId ∈ participants)
    ⟨.notAParticipant, "Recipient user is not a participant in the conversation: " ++
      env.recipientUserId⟩

/-- 2. The users whose devices are looked up. -/
def queryUsers (participants : List UserId) (sender : MessageSender) : List UserId :=
  if sender.userId ≠ "" ∧ sender.userId ∉ participants then participants ++ [sender.userId]
  else participants

variable (dir : DeviceDirectory)

/-- 3. Ownership and lifecycle of a target. -/
def targetCheck (env : PerDeviceEnvelope) : Except TargetRejection Unit :=
  match dir env.recipientUserId with
  | none => .error ⟨.notAParticipant,
      "No device directory entry found for recipient: " ++ env.recipientUserId⟩
  | some devices =>
    match devices.find? (·.deviceId = env.recipientDeviceId) with
    | none => .error ⟨.invalidTargetDevice, "Target device " ++ env.recipientDeviceId ++
        " does not belong to recipient " ++ env.recipientUserId⟩
    | some r => do
      require (r.status ≠ .revoked) ⟨.deviceRevoked,
        "Target device " ++ env.recipientDeviceId ++ " has been revoked"⟩
      require (r.status = .active) ⟨.deviceRevoked, "Target device " ++ env.recipientDeviceId ++
        " is not active (status=" ++ toString r.status.toInt ++ ")"⟩

/-- 4. The sender device, if it is given and listed. -/
def senderCheck (sender : MessageSender) : Except TargetRejection Unit :=
  if sender.deviceId ≠ "" ∧ sender.userId ≠ "" then
    match (dir sender.userId).bind fun devices => devices.find? (·.deviceId = sender.deviceId) with
    | none => .ok ()
    | some r => do
      require (r.status ≠ .revoked)
        ⟨.deviceRevoked, "Sender device " ++ sender.deviceId ++ " has been revoked"⟩
      require (r.status = .active)
        ⟨.deviceRevoked, "Sender device " ++ sender.deviceId ++ " is not active"⟩
  else .ok ()

def omittedOf (targets : List PerDeviceEnvelope) (user : UserId) : List DeviceId :=
  (((dir user).getD []).filter fun r => r.status = .active ∧
    ¬ targets.any fun env => env.recipientUserId = user ∧ env.recipientDeviceId = r.deviceId).map
      (·.deviceId)

/-- 5. The devices that were left out: of the other participants, and companions of the sender. -/
def omittedDevices (participants : List UserId) (sender : MessageSender)
    (targets : List PerDeviceEnvelope) : List DeviceId :=
  (participants.filter (· ≠ sender.userId)).flatMap (omittedOf dir targets) ++
    if sender.userId ≠ "" then (omittedOf dir targets sender.userId).filter (· ≠ sender.deviceId)
    else []

def verdict (participants : List UserId) (sender : MessageSender)
    (targets : List PerDeviceEnvelope) (enforceCompleteness : Bool) : TargetDeviceValidationResult :=
  match (do targets.forM (targetCheck dir); senderCheck dir sender) with
  | .error rejection => rejection.result
  | .ok () =>
    let omitted := omittedDevices dir participants sender targets
    if enforceCompleteness ∧ omitted ≠ [] then
      { isValid := false, errorCode := .invalidTargetDevice
        errorMessage :=
          "Incomplete delivery targets: active recipient or sender companion devices were omitted"
        omittedDeviceIds := omitted }
    else { isValid := true, omittedDeviceIds := omitted }

def RecipientDeviceResolutionService.validateSubmissionTargets
    (svc : RecipientDeviceResolutionService) (queries : UserId → DirectoryQuery)
    (participants : List UserId) (targets : List PerDeviceEnvelope) (sender : MessageSender)
    (enforceCompleteness : Bool) :
    TargetDeviceValidationResult × RecipientDeviceResolutionService :=
  if targets = [] then
    ({ isValid := false, errorCode := .invalidTargetDevice
       errorMessage := "Message submission contains no delivery targets" }, svc)
  else match targets.forM (membershipCheck participants sender) with
    | .error rejection => (rejection.result, svc)
    | .ok () =>
      match svc.resolveDevicesForUsers queries (queryUsers participants sender) with
      | (.error e, svc) =>
        ({ isValid := false
           errorMessage := "Failed to query Auth device directory: " ++ e.message }, svc)
      | (.ok dir, svc) => (verdict dir participants sender targets enforceCompleteness, svc)

/-! ## What the targets should be -/

namespace DeviceDirectory

def devices (user : UserId) : List DeviceCryptoRecord := (dir user).getD []

/-- The active devices of all participants. -/
def activeDevices (participants : List UserId) : Set (UserId × DeviceId) :=
  {p | p.1 ∈ participants ∧ ∃ r ∈ dir.devices p.1, r.deviceId = p.2 ∧ r.status = .active}

def Lists (user : UserId) (device : DeviceId) : Prop :=
  ∃ r ∈ dir.devices user, r.deviceId = device

structure UniqueIds (dir : DeviceDirectory) (participants : List UserId) : Prop where
  within : ∀ user ∈ participants, ((dir.devices user).map (·.deviceId)).Nodup
  across : ∀ u ∈ participants, ∀ v ∈ participants, ∀ device, dir.Lists u device →
    dir.Lists v device → u = v

def SenderInactive (sender : MessageSender) : Prop :=
  ∃ r ∈ dir.devices sender.userId, r.deviceId = sender.deviceId ∧ r.status ≠ .active

/-- The sender is given, and a participant who has their device is the sender; its id is not the empty one
that stands for no device. -/
structure OwnSender (dir : DeviceDirectory) (participants : List UserId) (sender : MessageSender) :
    Prop where
  given : sender.userId ≠ ""
  own : ∀ user ∈ participants, dir.Lists user sender.deviceId →
    user = sender.userId ∧ sender.deviceId ≠ ""

end DeviceDirectory

def targetSet (targets : List PerDeviceEnvelope) : Set (UserId × DeviceId) :=
  {p | ∃ env ∈ targets, (env.recipientUserId, env.recipientDeviceId) = p}

/-! ## What each check decides -/

section Checks

variable {dir : DeviceDirectory} {participants : List UserId} {sender : MessageSender}
  {targets : List PerDeviceEnvelope} {env : PerDeviceEnvelope}

theorem membershipCheck_eq_ok : membershipCheck participants sender env = .ok () ↔
    ¬ (sender.deviceId ≠ "" ∧ env.recipientDeviceId = sender.deviceId) ∧
      env.recipientUserId ∈ participants := by
  rw [membershipCheck, check_bind_eq_ok, require_eq_ok, require_eq_ok]

theorem find?_deviceId_eq_some {devices : List DeviceCryptoRecord} {device : DeviceId}
    {r : DeviceCryptoRecord} (hunique : (devices.map (·.deviceId)).Nodup) :
    devices.find? (·.deviceId = device) = some r ↔ r ∈ devices ∧ r.deviceId = device := by
  constructor
  · intro h
    have hid := find?_some h
    exact ⟨mem_of_find?_eq_some h, of_decide_eq_true hid⟩
  rintro ⟨hmem, hid⟩
  cases hfind : devices.find? (·.deviceId = device) with
  | none => exact absurd (decide_eq_true hid) (find?_eq_none.mp hfind r hmem)
  | some r' =>
    have hmem' := mem_of_find?_eq_some hfind
    have hid' := find?_some hfind
    have hid' : r'.deviceId = device := of_decide_eq_true hid'
    exact congrArg some (inj_on_of_nodup_map hunique hmem' hmem (hid'.trans hid.symm))

theorem statusChecks_eq_ok {status : DirectoryDeviceStatus} {e e' : TargetRejection} :
    (do require (status ≠ .revoked) e; require (status = .active) e' : Except TargetRejection Unit) =
      .ok () ↔ status = .active := by
  rw [check_bind_eq_ok, require_eq_ok, require_eq_ok]
  constructor
  · exact And.right
  intro h
  exact ⟨by rw [h]; nofun, h⟩

open DeviceDirectory

theorem targetCheck_eq_ok (hunique : ((dir.devices env.recipientUserId).map (·.deviceId)).Nodup) :
    targetCheck dir env = .ok () ↔ ∃ r ∈ dir.devices env.recipientUserId,
      r.deviceId = env.recipientDeviceId ∧ r.status = .active := by
  unfold targetCheck
  cases hdir : dir env.recipientUserId with
  | none => simp [devices, hdir]
  | some devices =>
    have hdevices : dir.devices env.recipientUserId = devices := by
      rw [DeviceDirectory.devices, hdir]
      rfl
    rw [hdevices] at hunique ⊢
    dsimp only
    cases hfind : devices.find? (·.deviceId = env.recipientDeviceId) with
    | none =>
      -- no record of the user has the id
      constructor
      · nofun
      rintro ⟨r, hr, hid, -⟩
      exact absurd (decide_eq_true hid) (find?_eq_none.mp hfind r hr)
    | some r =>
      obtain ⟨hr, hid⟩ := (find?_deviceId_eq_some hunique).mp hfind
      dsimp only
      rw [statusChecks_eq_ok]
      constructor
      · intro hactive
        exact ⟨r, hr, hid, hactive⟩
      rintro ⟨r', hr', hid', hactive⟩
      obtain rfl := inj_on_of_nodup_map hunique hr hr' (hid.trans hid'.symm)
      exact hactive

theorem senderCheck_eq_ok (hunique : ((dir.devices sender.userId).map (·.deviceId)).Nodup)
    (hgiven : sender.deviceId ≠ "" ∧ sender.userId ≠ "") :
    senderCheck dir sender = .ok () ↔ ¬ dir.SenderInactive sender := by
  have hfind : ((dir sender.userId).bind fun devices =>
      devices.find? (·.deviceId = sender.deviceId)) =
        (dir.devices sender.userId).find? (·.deviceId = sender.deviceId) := by
    unfold devices
    cases dir sender.userId <;> rfl
  unfold senderCheck
  rw [if_pos hgiven, hfind]
  split
  next hnone =>
    refine iff_of_true rfl ?_
    rintro ⟨r, hr, hid, -⟩
    exact absurd (decide_eq_true hid) (find?_eq_none.mp hnone r hr)
  rename_i r hsome
  obtain ⟨hr, hid⟩ := (find?_deviceId_eq_some hunique).mp hsome
  rw [statusChecks_eq_ok]
  constructor
  · rintro hactive ⟨r', hr', hid', hinactive⟩
    obtain rfl := inj_on_of_nodup_map hunique hr hr' (hid.trans hid'.symm)
    exact hinactive hactive
  intro hnot
  by_contra hinactive
  exact hnot ⟨r, hr, hid, hinactive⟩

theorem mem_omittedOf {user : UserId} {device : DeviceId} : device ∈ omittedOf dir targets user ↔
      (∃ r ∈ dir.devices user, r.deviceId = device ∧ r.status = .active) ∧
        (user, device) ∉ targetSet targets := by
  unfold omittedOf targetSet devices
  simp only [mem_map, mem_filter, decide_eq_true_eq, any_eq_true, Set.mem_ofPred_eq,
    Prod.mk.injEq]
  grind

/-- Nothing is left out when every active device of another participant, and every companion of
the sender, is a target. -/
theorem omittedDevices_eq_nil (hgiven : sender.userId ≠ "") :
    omittedDevices dir participants sender targets = [] ↔
      (∀ user ∈ participants, user ≠ sender.userId → ∀ device, device ∉ omittedOf dir targets user) ∧
        ∀ device ∈ omittedOf dir targets sender.userId, device = sender.deviceId := by
  unfold omittedDevices
  rw [if_pos hgiven, append_eq_nil_iff, flatMap_eq_nil_iff, filter_eq_nil_iff]
  simp only [mem_filter, decide_eq_true_eq, eq_nil_iff_forall_not_mem]
  grind

end Checks

/-! ## Acceptance -/

section Acceptance

variable {dir : DeviceDirectory} {participants : List UserId} {sender : MessageSender}
  {targets : List PerDeviceEnvelope}

open TargetRejection

theorem verdict_isValid : (verdict dir participants sender targets true).isValid = true ↔
    (∀ env ∈ targets, targetCheck dir env = .ok ()) ∧ senderCheck dir sender = .ok () ∧
      omittedDevices dir participants sender targets = [] := by
  rw [← forM_eq_ok, ← and_assoc, ← check_bind_eq_ok (f := fun _ => senderCheck dir sender)]
  unfold verdict
  split
  next rejection hrejected =>
    rw [hrejected]
    simp [result]
  rename_i hpassed
  rw [hpassed]
  dsimp only
  split
  next homitted =>
    simp [homitted.2]
  rename_i hnot
  simpa using hnot

section
variable (hsender : sender.userId ∈ participants) (hunique : dir.UniqueIds participants)
  (hown : dir.OwnSender participants sender)
include hsender hunique hown

theorem senderCheck_iff_of_own :
    senderCheck dir sender = .ok () ↔ ¬ dir.SenderInactive sender := by
  by_cases hdevice : sender.deviceId = ""
  · -- no participant has a device with an empty id
    refine iff_of_true ?_ ?_
    · unfold senderCheck
      exact if_neg fun hgiven => hgiven.1 hdevice
    rintro ⟨r, hr, hid, -⟩
    exact (hown.own _ hsender ⟨r, hr, hid⟩).2 hdevice
  · exact senderCheck_eq_ok (hunique.within _ hsender) ⟨hdevice, hown.given⟩

/-- The verdict is exact for targets that are not the sender device. -/
theorem verdict_exact
    (hmembers : ∀ env ∈ targets, ¬ (sender.deviceId ≠ "" ∧ env.recipientDeviceId = sender.deviceId) ∧
      env.recipientUserId ∈ participants) :
    (verdict dir participants sender targets true).isValid = true ↔ ¬ dir.SenderInactive sender ∧
        targetSet targets = dir.activeDevices participants \ {p | p.2 = sender.deviceId} := by
  have hcheck : ∀ env ∈ targets, (targetCheck dir env = .ok () ↔
      (env.recipientUserId, env.recipientDeviceId) ∈ dir.activeDevices participants) := by
    intro env henv
    have huser := (hmembers env henv).2
    rw [targetCheck_eq_ok (hunique.within _ huser)]
    exact (and_iff_right huser).symm
  rw [verdict_isValid, senderCheck_iff_of_own hsender hunique hown, omittedDevices_eq_nil hown.given]
  constructor
  · rintro ⟨htargets, hsenderOk, hothers, hcompanions⟩
    refine ⟨hsenderOk, Set.Subset.antisymm ?_ ?_⟩
    · rintro _ ⟨env, henv, rfl⟩
      have hactive := (hcheck env henv).mp (htargets env henv)
      refine ⟨hactive, ?_⟩
      -- a target with the sender's id would be listed, so that the id is not the empty one
      intro hself
      obtain ⟨huser, r, hr, hid, -⟩ := hactive
      have hgiven := (hown.own _ huser ⟨r, hr, hid.trans hself⟩).2
      exact (hmembers env henv).1 ⟨hgiven, hself⟩
    rintro ⟨user, device⟩ ⟨⟨huser, hactive⟩, hother⟩
    by_contra homitted
    have hmem : device ∈ omittedOf dir targets user := mem_omittedOf.mpr ⟨hactive, homitted⟩
    by_cases heq : user = sender.userId
    · subst heq
      exact hother (hcompanions device hmem)
    · exact hothers user huser heq device hmem
  rintro ⟨hsenderOk, hset⟩
  have hmem : ∀ p, p ∈ targetSet targets ↔
      p ∈ dir.activeDevices participants ∧ p.2 ≠ sender.deviceId := by
    intro p
    rw [hset]
    exact Iff.rfl
  refine ⟨?_, hsenderOk, ?_, ?_⟩
  · intro env henv
    exact (hcheck env henv).mpr ((hmem _).mp ⟨env, henv, rfl⟩).1
  · intro user huser hne device hdevice
    obtain ⟨⟨r, hr, hid, hactive⟩, homitted⟩ := mem_omittedOf.mp hdevice
    refine homitted ((hmem _).mpr ⟨⟨huser, r, hr, hid, hactive⟩, ?_⟩)
    -- the device of another participant is not the sender's
    intro hself
    exact hne (hown.own user huser ⟨r, hr, hid.trans hself⟩).1
  intro device hdevice
  obtain ⟨hactive, homitted⟩ := mem_omittedOf.mp hdevice
  by_contra hother
  exact homitted ((hmem _).mpr ⟨⟨hsender, hactive⟩, hother⟩)

end

open RecipientDeviceResolutionService

theorem RecipientDeviceResolutionService.isValid_iff {svc : RecipientDeviceResolutionService}
    {queries : UserId → DirectoryQuery} {enforce : Bool}
    (hdir : (svc.resolveDevicesForUsers queries (queryUsers participants sender)).1 = .ok dir) :
    (svc.validateSubmissionTargets queries participants targets sender enforce).1.isValid = true ↔
      targets ≠ [] ∧ (∀ env ∈ targets, membershipCheck participants sender env = .ok ()) ∧
        (verdict dir participants sender targets enforce).isValid = true := by
  unfold validateSubmissionTargets
  rw [← forM_eq_ok]
  split
  next hempty =>
    simp [hempty]
  rename_i hnonempty
  split
  next rejection hrejected =>
    simp [hrejected, result]
  rename_i hmembers
  split
  next e _ hfailed =>
    rw [hfailed] at hdir
    cases hdir
  rename_i dir' _ hresolved
  rw [hresolved] at hdir
  cases hdir
  simp [hnonempty, hmembers]

/-- **Completeness is exact.** The sender is a participant, the directory answers, and no device id is
listed twice; the sender device is not listed for somebody else. With completeness enforced, a target
list is accepted if and only if it is not empty, the sender device is not listed as inactive, and the
targets are the active devices of all participants without the sender device. -/
theorem RecipientDeviceResolutionService.targets_accepted_iff
    (svc : RecipientDeviceResolutionService) (queries : UserId → DirectoryQuery)
    (targets : List PerDeviceEnvelope) (hsender : sender.userId ∈ participants)
    (hdir : (svc.resolveDevicesForUsers queries participants).1 = .ok dir)
    (hunique : dir.UniqueIds participants) (hown : dir.OwnSender participants sender) :
    (svc.validateSubmissionTargets queries participants targets sender true).1.isValid = true ↔
      targets ≠ [] ∧ ¬ dir.SenderInactive sender ∧
        targetSet targets = dir.activeDevices participants \ {p | p.2 = sender.deviceId} := by
  have husers : queryUsers participants sender = participants :=
    if_neg fun hother => hother.2 hsender
  rw [isValid_iff (by rw [husers]; exact hdir)]
  refine and_congr_right fun _ => ?_
  simp only [membershipCheck_eq_ok]
  constructor
  · rintro ⟨hmembers, hvalid⟩
    exact (verdict_exact hsender hunique hown hmembers).mp hvalid
  rintro ⟨hsenderOk, hset⟩
  have hmembers : ∀ env ∈ targets,
      ¬ (sender.deviceId ≠ "" ∧ env.recipientDeviceId = sender.deviceId) ∧
        env.recipientUserId ∈ participants := by
    intro env henv
    have hmem : (env.recipientUserId, env.recipientDeviceId) ∈ targetSet targets :=
      ⟨env, henv, rfl⟩
    rw [hset] at hmem
    exact ⟨fun hself => hmem.2 hself.2, hmem.1.1⟩
  exact ⟨hmembers, (verdict_exact hsender hunique hown hmembers).mpr ⟨hsenderOk, hset⟩⟩

end Acceptance

namespace RecipientSample

def directory : DeviceDirectory := fun user =>
  if user = "alice" then some [⟨"a1", .active⟩]
  else if user = "bob" then some [⟨"b1", .active⟩, ⟨"b2", .active⟩]
  else none

def queries (user : UserId) : DirectoryQuery := ⟨0, 0, .ok (directory.devices user)⟩

def service : RecipientDeviceResolutionService := ⟨true, .create 10000 30000⟩

def resolved : DeviceDirectory :=
  update (update (fun _ => none) "alice" (some (directory.devices "alice"))) "bob"
    (some (directory.devices "bob"))

theorem resolved_eq : (service.resolveDevicesForUsers queries ["alice", "bob"]).1 = .ok resolved :=
  rfl

theorem devices_alice : resolved.devices "alice" = [⟨"a1", .active⟩] := by decide

theorem devices_bob : resolved.devices "bob" = [⟨"b1", .active⟩, ⟨"b2", .active⟩] := by decide

theorem resolved_unique : resolved.UniqueIds ["alice", "bob"] := by
  refine ⟨by decide, ?_⟩
  rintro u hu v hv device ⟨r, hr, hrid⟩ ⟨r', hr', hrid'⟩
  subst hrid
  simp only [mem_cons, not_mem_nil, or_false] at hu hv
  rcases hu with rfl | rfl <;> rcases hv with rfl | rfl <;>
    simp only [devices_alice, devices_bob, mem_cons, not_mem_nil, or_false] at hr hr'
  all_goals grind

theorem mem_activeDevices {p : UserId × DeviceId} : p ∈ resolved.activeDevices ["alice", "bob"] ↔
      p = ("alice", "a1") ∨ p = ("bob", "b1") ∨ p = ("bob", "b2") := by
  obtain ⟨user, device⟩ := p
  constructor
  · rintro ⟨huser, r, hr, rfl, -⟩
    simp only [mem_cons, not_mem_nil, or_false] at huser
    rcases huser with rfl | rfl
    · rw [devices_alice] at hr
      grind
    rw [devices_bob] at hr
    grind
  rintro (h | h | h) <;> cases h
  · exact ⟨by decide, ⟨"a1", .active⟩, by decide, rfl, rfl⟩
  · exact ⟨by decide, ⟨"b1", .active⟩, by decide, rfl, rfl⟩
  · exact ⟨by decide, ⟨"b2", .active⟩, by decide, rfl, rfl⟩

end RecipientSample

open RecipientSample in
/-- `alice` writes to `bob`, whose two devices are the targets. -/
theorem complete_targets_accepted :
    (service.validateSubmissionTargets queries ["alice", "bob"] [⟨"bob", "b1"⟩, ⟨"bob", "b2"⟩]
      ⟨"alice", "a1"⟩ true).1.isValid = true ∧ targetSet [⟨"bob", "b1"⟩, ⟨"bob", "b2"⟩] =
        resolved.activeDevices ["alice", "bob"] \ {p | p.2 = "a1"} := by
  have hown : resolved.OwnSender ["alice", "bob"] ⟨"alice", "a1"⟩ := by
    refine ⟨by decide, ?_⟩
    rintro user huser ⟨r, hr, hid⟩
    simp only [mem_cons, not_mem_nil, or_false] at huser
    rcases huser with rfl | rfl
    · exact ⟨rfl, by decide⟩
    rw [devices_bob] at hr
    grind
  have hvalid : (service.validateSubmissionTargets queries ["alice", "bob"]
      [⟨"bob", "b1"⟩, ⟨"bob", "b2"⟩] ⟨"alice", "a1"⟩ true).1.isValid = true := by decide
  exact ⟨hvalid, ((service.targets_accepted_iff queries _ (by decide) resolved_eq resolved_unique
    hown).mp hvalid).2.2⟩

open RecipientSample in
/-- **A sender device that is listed for another participant.** `alice` gives a device of `bob` as the
sender device. The targets are all other active devices, and are refused: the devices of the others are
all required, and the sender device may not be a target. -/
theorem foreign_sender_device_refused : "alice" ∈ ["alice", "bob"] ∧
      (service.resolveDevicesForUsers queries ["alice", "bob"]).1 = .ok resolved ∧
      resolved.UniqueIds ["alice", "bob"] ∧ ¬ resolved.SenderInactive ⟨"alice", "b2"⟩ ∧
      targetSet [⟨"alice", "a1"⟩, ⟨"bob", "b1"⟩] =
        resolved.activeDevices ["alice", "bob"] \ {p | p.2 = "b2"} ∧
      (service.validateSubmissionTargets queries ["alice", "bob"]
        [⟨"alice", "a1"⟩, ⟨"bob", "b1"⟩] ⟨"alice", "b2"⟩ true).1 =
        { isValid := false, errorCode := .invalidTargetDevice
          errorMessage :=
            "Incomplete delivery targets: active recipient or sender companion devices were omitted"
          omittedDeviceIds := ["b2"] } := by
  refine ⟨by decide, resolved_eq, resolved_unique, ?_, ?_, by decide⟩
  · rintro ⟨r, hr, hid, -⟩
    rw [devices_alice] at hr
    grind
  ext p
  rw [Set.mem_sdiff, mem_activeDevices]
  constructor
  · rintro ⟨env, henv, rfl⟩
    simp only [mem_cons, not_mem_nil, or_false] at henv
    rcases henv with rfl | rfl
    · exact ⟨.inl rfl, by decide⟩
    · exact ⟨.inr (.inl rfl), by decide⟩
  rintro ⟨rfl | rfl | rfl, hother⟩
  · exact ⟨⟨"alice", "a1"⟩, by decide, rfl⟩
  · exact ⟨⟨"bob", "b1"⟩, by decide, rfl⟩
  · exact absurd rfl hother

end SecureCloud.Messaging
