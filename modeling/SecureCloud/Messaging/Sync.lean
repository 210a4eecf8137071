import SecureCloud.Messaging.Store

/-
# Messaging.Sync — cursors, pages and per-device envelopes

The read side of the messaging service: `SyncCursorManager`, `MessageSyncService::sync_messages` and the
mapping of a page to wire envelopes. A function that reads the clock takes `now`; one that may load an
allocator counter returns the counters as well. `none` is an exception (a month outside the calendar).
-/

namespace SecureCloud.Messaging

open List

/-! ## `SyncCursorManager` -/

variable (s : Store) (device : DeviceId) (conv : ConversationId)

def DeviceSyncCursor.createInitial (now : TimePoint) : DeviceSyncCursor where
  deviceId := device
  conversationId := conv
  lastSyncedSequence := 0
  lastSyncAt := now
  syncVersion := 1

def Store.getCursor (now : TimePoint) : DeviceSyncCursor :=
  if device = "" ∨ conv.isNil then .createInitial device conv now
  else (s.getSyncCursor device conv).getD (.createInitial device conv now)

def Store.lastSynced : Nat :=
  ((s.getSyncCursor device conv).map (·.lastSyncedSequence)).getD 0

/-- The version the device's cursor stands at; a cursor that is not stored yet has version `1`. -/
def Store.currentVersion : Int :=
  ((s.getSyncCursor device conv).map (·.syncVersion)).getD 1

section
variable {device : DeviceId} {conv : ConversationId}

section
variable (hdev : device ≠ "") (hnil : conv.isNil = false) (now : TimePoint)

include hdev hnil now

open Store

theorem getCursor_lastSyncedSequence :
    (s.getCursor device conv now).lastSyncedSequence = s.lastSynced device conv := by
  simp only [getCursor, hdev, hnil, Bool.false_eq_true, or_self, if_false, lastSynced]
  cases s.getSyncCursor device conv <;> rfl

theorem getCursor_syncVersion :
    (s.getCursor device conv now).syncVersion = s.currentVersion device conv := by
  simp only [getCursor, hdev, hnil, Bool.false_eq_true, or_self, if_false,
    currentVersion]
  cases s.getSyncCursor device conv <;> rfl

end

end

variable {s : Store} {conv : ConversationId} {m : MessageEntity}

theorem lastSynced_congr {s' : Store} (h : s'.syncCursors = s.syncCursors) (device : DeviceId)
    (conv : ConversationId) : s'.lastSynced device conv = s.lastSynced device conv := by
  simp [Store.lastSynced, Store.getSyncCursor, h]

/-- The ceiling, given the current month's counter: the counter, else the current month's highest
row, else the previous month's. -/
def Store.ceilingFrom (s : Store) (peeked : Nat) (conv : ConversationId)
    (current : MessageBucket) : Option Nat :=
  if peeked = 0 then
    if s.getLastSequence conv current = 0 then
      current.previousBucket.map fun previous => s.getLastSequence conv previous
    else some (s.getLastSequence conv current)
  else some peeked

def Store.sequenceCeiling (s : Store) (c : Counters) (conv : ConversationId) (now : TimePoint) :
    Option (Nat × Counters) :=
  (MessageBucket.fromTimePoint now).bind fun current =>
    let (peeked, c') := c.peekSequence s conv current
    (s.ceilingFrom peeked conv current).map fun ceiling => (ceiling, c')

inductive SyncCursorUpdateStatus
  | success
  | regressionRejected
  | outOfBoundsRejected
  | versionConflict
  | invalidCursor
  | storageError
deriving DecidableEq

structure SyncCursorUpdateOutcome where
  status : SyncCursorUpdateStatus
  cursor : Option DeviceSyncCursor
  errorMessage : String
deriving DecidableEq

def DeviceSyncCursor.canAdvanceTo (c : DeviceSyncCursor) (n : Nat) : Bool :=
  c.lastSyncedSequence ≤ n

/-- The value a 32-bit signed integer takes: two's complement, past the largest one comes the
smallest. -/
def wrapInt32 (n : Int) : Int := n.bmod (2 ^ 32)

/-- `advance_to`, where it is allowed. -/
def DeviceSyncCursor.advanceTo (c : DeviceSyncCursor) (n : Nat) (now : TimePoint) :
    DeviceSyncCursor :=
  { c with lastSyncedSequence := n, lastSyncAt := now, syncVersion := wrapInt32 (c.syncVersion + 1) }

def Store.updateCursor (s : Store) (c : Counters) (device : DeviceId) (conv : ConversationId)
    (newSequence : Nat) (expectedVersion : Int) (now : TimePoint) :
    Option (SyncCursorUpdateOutcome × Store × Counters) := do
  if device = "" then
    return (⟨.invalidCursor, none, "Device ID cannot be empty"⟩, s, c)
  if conv.isNil then
    return (⟨.invalidCursor, none, "Conversation ID must be a valid non-nil UUID"⟩, s, c)
  let (ceiling, c') ← s.sequenceCeiling c conv now
  if ceiling < newSequence then
    return (⟨.outOfBoundsRejected, none, "Requested sequence " ++ toString newSequence ++
      " exceeds conversation sequence ceiling " ++ toString ceiling⟩, s, c')
  let cursor := s.getCursor device conv now
  if !cursor.canAdvanceTo newSequence then
    return (⟨.regressionRejected, some cursor, "Requested sequence " ++ toString newSequence ++
      " regresses from active cursor sequence " ++ toString cursor.lastSyncedSequence⟩, s, c')
  if 0 < expectedVersion ∧ cursor.syncVersion ≠ expectedVersion then
    return (⟨.versionConflict, some cursor,
      "Optimistic concurrency conflict: expected sync_version " ++ toString expectedVersion ++
      " but active version is " ++ toString cursor.syncVersion⟩, s, c')
  let advanced := cursor.advanceTo newSequence now
  return (⟨.success, some advanced, ""⟩, s.upsertSyncCursor advanced, c')

/-! ## `MessageSyncService::sync_messages` -/

def minSyncBatchSize : Nat := 1
def defaultSyncBatchSize : Nat := 50
def maxSyncBatchSize : Nat := 500

/-- `clamp_sync_batch_size`: `0` asks for the default, not for the minimum. -/
def clampSyncBatchSize (requested : Nat) : Nat :=
  if requested < minSyncBatchSize then defaultSyncBatchSize
  else if maxSyncBatchSize < requested then maxSyncBatchSize
  else requested

theorem clampSyncBatchSize_pos (n : Nat) : 1 ≤ clampSyncBatchSize n := by
  unfold clampSyncBatchSize minSyncBatchSize defaultSyncBatchSize maxSyncBatchSize
  split
  · omega
  · split <;> omega

inductive SyncMessagesStatus
  | success
  | notAuthorized
  | conversationNotFound
  | cursorOutOfBounds
  | invalidArguments
deriving DecidableEq

structure SyncDeviceMessagesCommand where
  deviceId : DeviceId
  conversationId : Option ConversationId
  sinceSequence : Nat
  maxMessages : Nat

/-- `device_envelopes` and `untargeted_messages` as association list and list. -/
structure SyncMessagesResult where
  status : SyncMessagesStatus
  deviceId : DeviceId
  conversationId : Option ConversationId
  messages : List MessageEntity := []
  deviceEnvelopes : List (MessageId × DeviceDeliveryRecord) := []
  untargetedMessages : List MessageId := []
  cursor : Option DeviceSyncCursor := none
  hasMore : Bool := false
  nextSequence : Nat := 0
  latestSequence : Nat := 0
  errorMessage : String := ""
deriving DecidableEq

/-- Step 5: the window `[since + 1, since + batch + 1]` of the previous bucket and, unless that
saturates the request, of the current one. -/
def Store.fetchWindow (s : Store) (conv : ConversationId) (previous current : MessageBucket)
    (since : Nat) (batch : Nat) : List MessageEntity :=
  let fromSeq := since + 1
  let toSeq := since + batch + 1
  let prev := s.listMessagesBySequenceRange conv previous fromSeq toSeq (batch + 1)
  if prev.length ≤ batch then
    let nextFrom := match prev.getLast? with
      | none => fromSeq
      | some last => last.messageSequence + 1
    prev ++ s.listMessagesBySequenceRange conv current nextFrom toSeq (batch + 1 - prev.length)
  else prev

structure Page where
  messages : List MessageEntity
  hasMore : Bool
  nextSequence : Nat

/-- Step 6: the extra row, if there is one, is dropped. -/
def pageOf (fetched : List MessageEntity) (since ceiling : Nat) (batch : Nat) : Page :=
  let saturated := decide (batch < fetched.length)
  let messages := if saturated then fetched.dropLast else fetched
  { messages := messages
    hasMore := saturated || (match messages.getLast? with
      | none => false
      | some last => decide (last.messageSequence < ceiling))
    nextSequence := match messages.getLast? with
      | none => since + 1
      | some last => last.messageSequence + 1 }

/-- The envelope `sync_messages` records for one message: the device's own delivery record, with the
state of the fan-out table where that is further on. -/
def Store.deviceEnvelope (s : Store) (device : DeviceId) (m : MessageEntity) :
    Option DeviceDeliveryRecord :=
  (s.getDeliveryRecordForDevice device m.messageId).map fun rec =>
    match (s.getDeliveryStatesForMessage m.messageId).find? (·.recipientDeviceId = device) with
    | some st => if st.deliveryState ≠ .queued then { rec with deliveryState := st.deliveryState }
        else rec
    | none => rec

/-- The message has delivery targets, and the device is not one of them. -/
def Store.untargeted (s : Store) (device : DeviceId) (m : MessageEntity) : Bool :=
  (s.getDeliveryRecordForDevice device m.messageId).isNone &&
    !(s.getDeliveryStatesForMessage m.messageId).isEmpty &&
    ((s.getDeliveryStatesForMessage m.messageId).find? (·.recipientDeviceId = device)).isNone

def SyncMessagesResult.failure (status : SyncMessagesStatus) (cmd : SyncDeviceMessagesCommand)
    (message : String) : SyncMessagesResult where
  status := status
  deviceId := cmd.deviceId
  conversationId := cmd.conversationId
  errorMessage := message

/-- Steps 4 to 6, once the start of the page and the ceiling are known. `deliveryRepo` says whether
the service was built with a delivery state repository. -/
def Store.syncPage (s : Store) (deliveryRepo : Bool) (cmd : SyncDeviceMessagesCommand)
    (conv : ConversationId) (cursor : DeviceSyncCursor) (since ceiling : Nat)
    (now : TimePoint) : Option SyncMessagesResult :=
  if ceiling < since ∧ 0 < ceiling then
    some (.failure .cursorOutOfBounds cmd ("since_sequence " ++ toString since ++
      " exceeds conversation ceiling " ++ toString ceiling))
  else if ceiling ≤ since ∨ ceiling = 0 then
    some { status := .success, deviceId := cmd.deviceId, conversationId := cmd.conversationId
           cursor := some cursor, nextSequence := since + 1, latestSequence := ceiling }
  else do
    let batch := clampSyncBatchSize cmd.maxMessages
    let current ← MessageBucket.fromTimePoint now
    let previous ← current.previousBucket
    let page := pageOf (s.fetchWindow conv previous current since batch) since ceiling batch
    let envelopes := if deliveryRepo then page.messages.filterMap fun m =>
      (s.deviceEnvelope cmd.deviceId m).map fun rec => (m.messageId, rec) else []
    let untargeted := if deliveryRepo then
      (page.messages.filter (s.untargeted cmd.deviceId)).map (·.messageId) else []
    return { status := .success, deviceId := cmd.deviceId, conversationId := cmd.conversationId
             messages := page.messages, deviceEnvelopes := envelopes
             untargetedMessages := untargeted, cursor := some cursor, hasMore := page.hasMore
             nextSequence := page.nextSequence, latestSequence := ceiling }

/-- `effective_since`: a start of `0` means the cursor. -/
def effectiveSince (cmd : SyncDeviceMessagesCommand) (cursor : DeviceSyncCursor) :
    Nat :=
  if 0 < cmd.sinceSequence then cmd.sinceSequence else cursor.lastSyncedSequence

/-- `sync_messages`. `auth` is the verdict of `can_view_conversation`, `none` when it allows. -/
def Store.syncMessages (s : Store) (c : Counters) (deliveryRepo : Bool)
    (auth : Option (MessagingErrorCode × String)) (cmd : SyncDeviceMessagesCommand)
    (now : TimePoint) : Option (SyncMessagesResult × Counters) :=
  if cmd.deviceId = "" then
    some (.failure .invalidArguments cmd "Device ID cannot be empty", c)
  else
    match cmd.conversationId with
    | none => some (.failure .invalidArguments cmd "Conversation ID must be specified and non-nil", c)
    | some conv =>
      if conv.isNil then
        some (.failure .invalidArguments cmd "Conversation ID must be specified and non-nil", c)
      else
        match auth with
        | some (.conversationNotFound, reason) =>
          some (.failure .conversationNotFound cmd
            (if reason = "" then "Conversation not found" else reason), c)
        | some (_, reason) =>
          some (.failure .notAuthorized cmd
            (if reason = "" then "Caller is not an active participant in the conversation"
              else reason), c)
        | none =>
          let cursor := s.getCursor cmd.deviceId conv now
          (s.sequenceCeiling c conv now).bind fun (ceiling, c') =>
            (s.syncPage deliveryRepo cmd conv cursor (effectiveSince cmd cursor) ceiling now).map
              fun r => (r, c')

/-! ### What a result contains -/

theorem mem_listMessagesBySequenceRange {bucket : MessageBucket} {a b : Nat} {limit : Nat}
    (h : m ∈ s.listMessagesBySequenceRange conv bucket a b limit) : m ∈ s.messages := by
  have h₁ := mem_of_mem_take h
  rw [mem_insertionSort, mem_filter] at h₁
  exact (mem_filter.mp h₁.1).1

theorem mem_fetchWindow {previous current : MessageBucket} {since : Nat} {batch : Nat}
    (h : m ∈ s.fetchWindow conv previous current since batch) : m ∈ s.messages := by
  unfold Store.fetchWindow at h
  simp only at h
  split at h
  · rcases mem_append.mp h with h | h
    all_goals exact mem_listMessagesBySequenceRange h
  · exact mem_listMessagesBySequenceRange h

theorem mem_pageOf {fetched : List MessageEntity} (since ceiling : Nat) {batch : Nat}
    (h : m ∈ (pageOf fetched since ceiling batch).messages) : m ∈ fetched := by
  simp only [pageOf] at h
  split at h
  · exact dropLast_subset _ h
  · exact h

/-- The result is for the device that asked, its messages are stored ones, and with a delivery repository
its envelopes and untargeted messages are read off it. -/
structure SyncMessagesResult.Serves (r : SyncMessagesResult) (s : Store) (device : DeviceId) :
    Prop where
  served : r.deviceId = device
  stored : ∀ m ∈ r.messages, m ∈ s.messages
  envelopes : r.deviceEnvelopes = r.messages.filterMap fun m =>
    (s.deviceEnvelope device m).map fun rec => (m.messageId, rec)
  untargeted : r.untargetedMessages = (r.messages.filter (s.untargeted device)).map (·.messageId)

theorem serves_failure (s : Store) (status : SyncMessagesStatus) (cmd : SyncDeviceMessagesCommand)
    (message : String) :
    (SyncMessagesResult.failure status cmd message).Serves s cmd.deviceId where
  served := rfl
  stored _ h := absurd h List.not_mem_nil
  envelopes := rfl
  untargeted := rfl

variable {cmd : SyncDeviceMessagesCommand} {r : SyncMessagesResult}

theorem syncPage_serves
    {cursor : DeviceSyncCursor} {since ceiling : Nat} {now : TimePoint}
    (h : s.syncPage true cmd conv cursor since ceiling now = some r) :
    r.Serves s cmd.deviceId := by
  unfold Store.syncPage at h
  split at h
  · cases h
    exact serves_failure s _ _ _
  split at h
  · cases h
    exact ⟨rfl, nofun, rfl, rfl⟩
  simp only [Option.bind_eq_bind, Option.bind_eq_some_iff] at h
  obtain ⟨current, -, previous, -, h⟩ := h
  cases h
  exact ⟨rfl, fun m h => mem_fetchWindow (mem_pageOf since ceiling h), rfl, rfl⟩

theorem syncMessages_serves {c c' : Counters}
    {auth : Option (MessagingErrorCode × String)}
    {now : TimePoint}
    (h : s.syncMessages c true auth cmd now = some (r, c')) : r.Serves s cmd.deviceId := by
  unfold Store.syncMessages at h
  repeat' split at h
  case h_3 =>
    simp only [Option.bind_eq_some_iff, Option.map_eq_some_iff] at h
    obtain ⟨⟨ceiling, c₁⟩, -, r', hr, heq⟩ := h
    cases heq
    exact syncPage_serves hr
  all_goals
    cases h
    exact serves_failure s _ _ _

/-! ## Wire envelopes -/

/-- One entry of `delivery_targets` on the wire. `state` is `none` for the states that
`populate_message_envelope` maps to `DELIVERY_STATE_UNSPECIFIED`. -/
structure WireTarget where
  recipientDeviceId : DeviceId
  state : Option DeliveryState
  ciphertextBlob : Bytes
  ephemeralPublicKey : Bytes := []
  initializationVector : Bytes := []
  authTag : Bytes := []

/-- `populate_message_envelope`, the delivery targets of one message: the device's own record; else,
unless the message is known not to target the device, THE ROW'S ciphertext. -/
def populateMessageEnvelope (entity : MessageEntity) (device : DeviceId)
    (deviceRecord : Option DeviceDeliveryRecord) (isUntargetedForDevice : Bool) :
    List WireTarget :=
  match deviceRecord with
  | some rec =>
    [{ recipientDeviceId := device
       state := if rec.deliveryState = .read then none else some rec.deliveryState
       ciphertextBlob := rec.ciphertextBlob
       ephemeralPublicKey := rec.ephemeralPublicKey
       initializationVector := rec.iv
       authTag := rec.authTag }]
  | none =>
    if !isUntargetedForDevice && !entity.ciphertext.isEmpty then
      [{ recipientDeviceId := device
         state := some .delivered
         ciphertextBlob := entity.ciphertext }]
    else []

/-- The response loop shared by `GetMessages` and `SyncDeviceMessages`. -/
def SyncMessagesResult.wireMessages (r : SyncMessagesResult) :
    List (MessageEntity × List WireTarget) :=
  r.messages.map fun m =>
    (m, populateMessageEnvelope m r.deviceId (r.deviceEnvelopes.lookup m.messageId)
      (r.untargetedMessages.contains m.messageId))

/-- `SyncDeviceMessages`: the device the page is for, `none` when the call is refused. -/
def syncDeviceId (callerDevice requestDevice : DeviceId) : Option DeviceId :=
  if callerDevice ≠ "" ∧ requestDevice ≠ "" ∧ callerDevice ≠ requestDevice then none
  else
    let effective := if requestDevice ≠ "" then requestDevice else callerDevice
    if effective = "" then none else some effective

/-- `GetMessages`: as above, but a call without any device id is served as `device-default`. -/
def getMessagesDeviceId (callerDevice recipientDevice : DeviceId) : Option DeviceId :=
  if callerDevice ≠ "" ∧ recipientDevice ≠ "" ∧ callerDevice ≠ recipientDevice then none
  else
    let effective := if recipientDevice ≠ "" then recipientDevice else callerDevice
    some (if effective = "" then "device-default" else effective)

inductive ReadPath
  | syncDeviceMessages
  | getMessages

/-- A read request: the caller's authenticated device (may be empty), the device it names (may be
empty), and what it asks for. -/
structure ReadRequest where
  callerDevice : DeviceId
  requestDevice : DeviceId
  conversationId : ConversationId
  sinceSequence : Int
  maxMessages : Nat

def ReadPath.deviceId : ReadPath → ReadRequest → Option DeviceId
  | .syncDeviceMessages, r => syncDeviceId r.callerDevice r.requestDevice
  | .getMessages, r => getMessagesDeviceId r.callerDevice r.requestDevice

/-- `SyncDeviceMessages` refuses a negative start, `GetMessages` reads it as `0`. -/
def ReadPath.since : ReadPath → ReadRequest → Option Nat
  | .syncDeviceMessages, r => if r.sinceSequence < 0 then none else some r.sinceSequence.toNat
  | .getMessages, r => some r.sinceSequence.toNat

/-- A read: the device it is served to and the messages on the wire. `none`: refused. -/
def Store.read (s : Store) (c : Counters) (deliveryRepo : Bool)
    (auth : Option (MessagingErrorCode × String)) (path : ReadPath) (request : ReadRequest)
    (now : TimePoint) : Option (DeviceId × List (MessageEntity × List WireTarget)) := do
  let device ← path.deviceId request
  let since ← path.since request
  let (r, _) ← s.syncMessages c deliveryRepo auth
    { deviceId := device, conversationId := some request.conversationId, sinceSequence := since
      maxMessages := if 0 < request.maxMessages then request.maxMessages
        else defaultSyncBatchSize } now
  if r.status = .success then some (device, r.wireMessages) else none

end SecureCloud.Messaging
