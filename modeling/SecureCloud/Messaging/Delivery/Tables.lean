import SecureCloud.Messaging.DeliveryStates

/-
# Messaging.Delivery.Tables — the three tables the delivery engine works on

`pending_deliveries_by_device` is the durable queue of a device, `delivery_state_by_message` the fan-out of
a message, `messaging_outbox_events` the events still to be handed on: their rows with the columns the
submission side does not read (`next_retry_at`, `publish_status`), and one definition per repository call.

An `UPDATE` is an upsert. On the queue it can leave a row that has the columns of its key and those that
were set, and nothing else; a reader that meets such a row throws.
-/

namespace SecureCloud.Messaging.Delivery

open Lib.Table List Option

/-! ## Query limits -/

def int32Of (n : Nat) : Int := Int.bmod n (2 ^ 32)

/-- The `LIMIT` of a query: the server refuses one that is not positive. `none` is the exception. -/
def limited {α : Type} (limit : Nat) (rows : List α) : Option (List α) :=
  if 0 < int32Of limit then some (rows.take (int32Of limit).toNat) else none

theorem int32Of_toNat_le (n : Nat) : (int32Of n).toNat ≤ n := by
  unfold int32Of Int.bmod
  dsimp only
  split <;> omega

/-! ## `pending_deliveries_by_device` -/

/-- The opaque envelope of one device. -/
structure Envelope where
  ciphertextBlob : Bytes
  ephemeralPublicKey : Bytes
  iv : Bytes
  authTag : Bytes
  algorithm : E2EAlgorithm
  protocolVersion : Int
  oneTimePrekeyId : Option String
deriving DecidableEq

/-- The columns that only the `INSERT` of a submission sets. -/
structure QueueContent where
  conversationId : ConversationId
  messageSequence : Nat
  messagePriority : MessagePriority
  envelope : Envelope
deriving DecidableEq

/-- `(device_id, delivery_bucket)`, then `(accepted_at, message_id)`. -/
abbrev QueueKey := (DeviceId × String) × (TimePoint × MessageId)

/-- A row of the queue. `content` is `none` in a row that an `UPDATE` has made. -/
structure QueueRow where
  deviceId : DeviceId
  deliveryBucket : String
  acceptedAt : TimePoint
  messageId : MessageId
  deliveryState : DeliveryState
  attemptCount : Nat
  nextRetryAt : Option TimePoint := none
  content : Option QueueContent
deriving DecidableEq

def QueueRow.key (r : QueueRow) : QueueKey :=
  ((r.deviceId, r.deliveryBucket), (r.acceptedAt, r.messageId))

/-- Clustering order: `accepted_at ASC, message_id ASC`. -/
def QueueRow.le (a b : QueueRow) : Prop :=
  a.acceptedAt < b.acceptedAt ∨ (a.acceptedAt = b.acceptedAt ∧ a.messageId.bits ≤ b.messageId.bits)

instance : DecidableRel QueueRow.le := fun a b => by unfold QueueRow.le; infer_instance

/-- `DeviceDeliveryRecord`, as `row_to_delivery_record` reads a row. -/
structure QueueRecord where
  row : QueueRow
  content : QueueContent

/-- `row_to_delivery_record`; `none` is the exception of a column that is null. -/
def QueueRow.toRecord (r : QueueRow) : Option QueueRecord := r.content.map fun c => ⟨r, c⟩

theorem QueueRow.toRecord_eq_some {r : QueueRow} {rec : QueueRecord} (h : r.toRecord = some rec) :
    rec.row = r := by
  obtain ⟨c, -, rfl⟩ := map_eq_some_iff.mp h
  rfl

def isTerminal (s : DeliveryState) : Bool := s = .delivered ∨ s = .read ∨ s = .expired

/-! ## `messaging_outbox_events` -/

inductive OutboxPublishStatus
  | pending
  | published
  | failed
deriving DecidableEq

structure OutboxEventRecord where
  outboxBucket : String
  createdAt : TimePoint
  eventId : String
  conversationId : ConversationId
  eventType : String
  payloadJson : String
  publishedAt : Option TimePoint := none
  publishStatus : OutboxPublishStatus := .pending
deriving DecidableEq

abbrev OutboxKey := String × (TimePoint × String)

def OutboxEventRecord.key (e : OutboxEventRecord) : OutboxKey :=
  (e.outboxBucket, (e.createdAt, e.eventId))

/-- Clustering order: `created_at ASC, event_id ASC`. -/
def OutboxEventRecord.le (a b : OutboxEventRecord) : Prop :=
  a.createdAt < b.createdAt ∨ (a.createdAt = b.createdAt ∧ a.eventId ≤ b.eventId)

instance : DecidableRel OutboxEventRecord.le := fun a b => by
  unfold OutboxEventRecord.le
  infer_instance

/-! ## The tables -/

structure Tables where
  queue : Keyed QueueRow.key
  states : Keyed RecipientDeliveryState.key
  outbox : Keyed OutboxEventRecord.key

namespace Tables

def empty : Tables := ⟨Keyed.empty, Keyed.empty, Keyed.empty⟩

variable (t : Tables)

def bucketRows (device : DeviceId) (bucket : String) : List QueueRow :=
  (t.queue.rows.filter fun r => r.deviceId = device ∧ r.deliveryBucket = bucket).insertionSort
    QueueRow.le

/-- `fetch_pending_for_device`; `none` is an exception. -/
def fetchPendingForDevice (device : DeviceId) (bucket : String) (limit : Nat) :
    Option (List QueueRecord) :=
  (limited limit (t.bucketRows device bucket)).bind fun rows => rows.mapM QueueRow.toRecord

def updatedRow (key : QueueKey) (state : DeliveryState) (attempts : Nat)
    (nextRetry : Option TimePoint) : QueueRow where
  deviceId := key.1.1
  deliveryBucket := key.1.2
  acceptedAt := key.2.1
  messageId := key.2.2
  deliveryState := state
  attemptCount := attempts
  nextRetryAt := nextRetry
  content := (t.queue.find key).bind QueueRow.content

def updateDeviceDeliveryStatus (key : QueueKey) (state : DeliveryState) (attempts : Nat)
    (nextRetry : Option TimePoint) : Tables :=
  { t with queue := t.queue.write (t.updatedRow key state attempts nextRetry) }

variable (message : MessageId)

/-- `get_delivery_states_for_message`, by device; `none` is an exception: a row without user. -/
def getDeliveryStatesForMessage : Option (List RecipientDeliveryState) :=
  let rows := (t.states.rows.filter (·.messageId = message)).insertionSort
    fun a b => a.recipientDeviceId ≤ b.recipientDeviceId
  if rows.any (·.recipientUserId = "") then none else some rows

def updatedState (device : DeviceId)
    (set : RecipientDeliveryState → RecipientDeliveryState) : RecipientDeliveryState :=
  { set ((t.states.find (message, device)).getD
      { messageId := message, recipientDeviceId := device, recipientUserId := ""
        deliveryState := .queued }) with
    messageId := message, recipientDeviceId := device }

/-- An `UPDATE` of `delivery_state_by_message`. -/
def updateState (device : DeviceId)
    (set : RecipientDeliveryState → RecipientDeliveryState) : Tables :=
  { t with states := t.states.write (t.updatedState message device set) }

def recordDeliveryAck (device : DeviceId) (deliveredAt : TimePoint) : Tables :=
  t.updateState message device fun r =>
    { r with deliveryState := .delivered, deliveredAt := some deliveredAt }

def recordReadAck (device : DeviceId) (readAt : TimePoint) : Tables :=
  t.updateState message device fun r => { r with deliveryState := .read, readAt := some readAt }

def outboxRows (bucket : String) : List OutboxEventRecord :=
  (t.outbox.rows.filter (·.outboxBucket = bucket)).insertionSort OutboxEventRecord.le

/-- The loop of `fetch_pending_events` over the rows of the answer. -/
def collectPending (limit : Nat) :
    List OutboxEventRecord → List OutboxEventRecord → List OutboxEventRecord
  | pending, [] => pending
  | pending, e :: rows =>
    if e.publishStatus = .pending then
      if limit ≤ (pending ++ [e]).length then pending ++ [e]
      else collectPending limit (pending ++ [e]) rows
    else collectPending limit pending rows

/-- `fetch_pending_events`; `none` is an exception. -/
def fetchPendingEvents (bucket : String) (limit : Nat) : Option (List OutboxEventRecord) :=
  (limited limit (t.outboxRows bucket)).map (collectPending limit [])

def enqueueEvent (e : OutboxEventRecord) : Tables := { t with outbox := t.outbox.write e }

/-- `mark_event_published`. Events are never deleted, so the row that a caller has fetched is there. -/
def markEventPublished (key : OutboxKey) (publishedAt : TimePoint) : Tables :=
  match t.outbox.find key with
  | none => t
  | some e =>
    let e := { e with publishStatus := .published, publishedAt := some publishedAt }
    { t with outbox := t.outbox.write e }

/-! ## What a write changes -/

section
variable {t} {key key' : QueueKey} {state : DeliveryState} {attempts : Nat}
  {nextRetry : Option TimePoint} {message : MessageId} {device : DeviceId}
  {set : RecipientDeliveryState → RecipientDeliveryState}

open Keyed

theorem find_updateDeviceDeliveryStatus (t : Tables) (key : QueueKey) (state : DeliveryState)
    (attempts : Nat) (nextRetry : Option TimePoint) (key' : QueueKey) :
    (t.updateDeviceDeliveryStatus key state attempts nextRetry).queue.find key' =
      if key' = key then some (t.updatedRow key state attempts nextRetry)
      else t.queue.find key' :=
  find_write t.queue (t.updatedRow key state attempts nextRetry) key'

theorem find_updateState (t : Tables) (message : MessageId) (device : DeviceId)
    (set : RecipientDeliveryState → RecipientDeliveryState) (key : MessageId × DeviceId) :
    (t.updateState message device set).states.find key =
      if key = (message, device) then some (t.updatedState message device set)
      else t.states.find key :=
  find_write t.states (t.updatedState message device set) key

theorem mem_getDeliveryStates {rows : List RecipientDeliveryState}
    (h : t.getDeliveryStatesForMessage message = some rows) {s : RecipientDeliveryState} :
    s ∈ rows ↔ s ∈ t.states.rows ∧ s.messageId = message := by
  unfold getDeliveryStatesForMessage at h
  dsimp only at h
  split at h
  · exact nomatch h
  cases h
  simp [mem_insertionSort]

theorem find_getDeliveryStates {rows : List RecipientDeliveryState}
    (h : t.getDeliveryStatesForMessage message = some rows) :
    rows.find? (·.recipientDeviceId = device) = t.states.find (message, device) := by
  cases hfound : rows.find? (·.recipientDeviceId = device) with
  | some r =>
    have hdevice : r.recipientDeviceId = device := by simpa using find?_some hfound
    obtain ⟨hrow, hmessage⟩ := (mem_getDeliveryStates h).mp (mem_of_find?_eq_some hfound)
    rw [← hmessage, ← hdevice]
    exact (mem_rows_iff.mp hrow).symm
  | none =>
    cases hrow : t.states.find (message, device) with
    | none => rfl
    | some r =>
      -- the row has the message and the device, so the search would have found it
      have hkey : r.key = (message, device) := key_of_find hrow
      cases hkey
      have hin : r ∈ rows := (mem_getDeliveryStates h).mpr ⟨mem_of_find?_eq_some hrow, rfl⟩
      simpa using find?_eq_none.mp hfound r hin

/-! ## What a fetch returns -/

variable {bucket : String} {limit : Nat} {recs : List QueueRecord} {rec : QueueRecord} {r : QueueRow}

theorem mem_bucketRows : r ∈ t.bucketRows device bucket ↔
      r ∈ t.queue.rows ∧ r.deviceId = device ∧ r.deliveryBucket = bucket := by
  simp [bucketRows, mem_insertionSort]

section
variable (h : t.fetchPendingForDevice device bucket limit = some recs)
include h

theorem fetch_rows :
    recs.map QueueRecord.row = (t.bucketRows device bucket).take (int32Of limit).toNat := by
  obtain ⟨rows, hrows, hread⟩ := Option.bind_eq_some_iff.mp h
  have htaken : rows = (t.bucketRows device bucket).take (int32Of limit).toNat := by
    unfold limited at hrows
    split at hrows
    · exact (Option.some.inj hrows).symm
    · exact absurd hrows (by simp)
  rw [← htaken]
  clear h hrows htaken
  induction rows generalizing recs with
  | nil =>
    obtain rfl : [] = recs := by simpa using hread
    rfl
  | cons r rows ih =>
    simp only [List.mapM_cons, Option.pure_def, Option.bind_eq_bind, Option.bind_eq_some_iff,
      Option.some.injEq] at hread
    obtain ⟨rec, hrec, recs', hrecs', rfl⟩ := hread
    rw [List.map_cons, ih hrecs', QueueRow.toRecord_eq_some hrec]

theorem mem_of_fetch (hrec : rec ∈ recs) : rec.row ∈ t.bucketRows device bucket := by
  have hmem : rec.row ∈ recs.map QueueRecord.row := mem_map_of_mem hrec
  rw [fetch_rows h] at hmem
  exact mem_of_mem_take hmem

theorem find_of_fetch (hrec : rec ∈ recs) : t.queue.find rec.row.key = some rec.row ∧
      rec.row.deviceId = device ∧ rec.row.deliveryBucket = bucket := by
  obtain ⟨hrow, hdevice, hbucket⟩ := mem_bucketRows.mp (mem_of_fetch h hrec)
  exact ⟨mem_rows_iff.mp hrow, hdevice, hbucket⟩

end

theorem bucketRows_nodup (t : Tables) (device : DeviceId) (bucket : String) :
    ((t.bucketRows device bucket).map QueueRow.key).Nodup := by
  have hperm := (t.queue.rows.filter fun r => r.deviceId = device ∧ r.deliveryBucket = bucket)
    |>.perm_insertionSort QueueRow.le
  refine (hperm.map QueueRow.key).nodup_iff.mpr ?_
  exact t.queue.nodup.sublist (filter_sublist.map QueueRow.key)

theorem nodup_of_fetch (h : t.fetchPendingForDevice device bucket limit = some recs) :
    (recs.map (·.row.key)).Nodup := by
  have hkeys : recs.map (·.row.key) = (recs.map QueueRecord.row).map QueueRow.key := by
    rw [List.map_map]
    rfl
  rw [hkeys, fetch_rows h, map_take]
  exact (bucketRows_nodup t device bucket).sublist (take_sublist _ _)

end

end Tables

end SecureCloud.Messaging.Delivery
