import SecureCloud.Lib.Table
import SecureCloud.Messaging.Domain

/-
# Messaging.Store — the messaging keyspace and its repositories

The tables of the messaging keyspace and one definition per repository call the services make.
Every call here is the call's EFFECT when it succeeds; which calls fail, and whether a failed call
took effect all the same, is decided by the callers' models.
-/

namespace SecureCloud.Messaging

open Lib.Table

/-- `(sender_device_id, idempotency_key)`, the primary key of the submission records. -/
abbrev SubmissionKey := DeviceId × String

/-- Row of `sync_state_by_device`. `syncVersion` is an `int32_t`. -/
structure DeviceSyncCursor where
  deviceId : DeviceId
  conversationId : ConversationId
  lastSyncedSequence : Nat
  lastSyncAt : TimePoint
  syncVersion : Int
deriving DecidableEq

structure Store where
  submissions : SubmissionKey → Option IdempotencyRecord
  messages : List MessageEntity
  pendingDeliveries : List DeviceDeliveryRecord
  deliveryStates : List RecipientDeliveryState
  outbox : List ConversationOutboxEvent
  syncCursors : DeviceId × ConversationId → Option DeviceSyncCursor

def Store.empty : Store where
  submissions := fun _ => none
  messages := []
  pendingDeliveries := []
  deliveryStates := []
  outbox := []
  syncCursors := fun _ => none

/-! ## Primary keys -/

def IdempotencyRecord.key (r : IdempotencyRecord) : SubmissionKey :=
  (r.senderDeviceId, r.idempotencyKey)

/-- Primary key of `messages_by_conversation`: partition, then clustering columns. -/
def MessageEntity.key (m : MessageEntity) : (ConversationId × MessageBucket) × (Nat × MessageId) :=
  ((m.conversationId, m.messageBucket), (m.messageSequence, m.messageId))

def DeviceDeliveryRecord.key (r : DeviceDeliveryRecord) :
    (DeviceId × String) × (TimePoint × MessageId) :=
  ((r.deviceId, r.deliveryBucket), (r.acceptedAt, r.messageId))

def RecipientDeliveryState.key (s : RecipientDeliveryState) : MessageId × DeviceId :=
  (s.messageId, s.recipientDeviceId)

/-! ## Idempotency repository -/

variable (s : Store) (device : DeviceId)

def Store.findSubmission (token : String) : Option IdempotencyRecord :=
  s.submissions (device, token)

def Store.saveSubmission (r : IdempotencyRecord) : Store :=
  { s with submissions := Function.update s.submissions r.key (some r) }

/-! ## Message repository -/

def Store.saveMessage (m : MessageEntity) : Store :=
  { s with messages := upsert MessageEntity.key m s.messages }

variable (conv : ConversationId) (bucket : MessageBucket)

def Store.partition : List MessageEntity :=
  s.messages.filter fun m => m.conversationId = conv ∧ m.messageBucket = bucket

/-- Clustering order: `message_sequence ASC, message_id ASC`. -/
def clusteringLe (a b : MessageEntity) : Prop :=
  a.messageSequence < b.messageSequence ∨
    (a.messageSequence = b.messageSequence ∧ a.messageId.bits ≤ b.messageId.bits)

instance : DecidableRel clusteringLe := fun a b => by unfold clusteringLe; infer_instance

/-- `list_messages_by_sequence_range`: both ends included, at most `limit` rows. -/
def Store.listMessagesBySequenceRange
    (fromSequence toSequence : Nat) (limit : Nat) : List MessageEntity :=
  (((s.partition conv bucket).filter fun m =>
      fromSequence ≤ m.messageSequence ∧ m.messageSequence ≤ toSequence).insertionSort
    clusteringLe).take limit

/-- `get_last_sequence`: the highest sequence of the partition, `0` when it is empty. -/
def Store.getLastSequence :
    Nat :=
  ((s.partition conv bucket).map (·.messageSequence)).foldr max 0

/-! ## Delivery repository -/

/-- One `INSERT` of `save_pending_deliveries`. -/
def Store.insertPending (r : DeviceDeliveryRecord) : Store :=
  { s with pendingDeliveries := upsert DeviceDeliveryRecord.key r s.pendingDeliveries }

/-- One `INSERT` of `save_recipient_delivery_states`. -/
def Store.insertRecipientState (r : RecipientDeliveryState) : Store :=
  { s with deliveryStates := upsert RecipientDeliveryState.key r s.deliveryStates }

/-- `get_delivery_record_for_device`: the first row of that device and message. -/
def Store.getDeliveryRecordForDevice (message : MessageId) : Option DeviceDeliveryRecord :=
  s.pendingDeliveries.find? fun r => r.deviceId = device ∧ r.messageId = message

variable (message : MessageId)

def Store.getDeliveryStatesForMessage : List RecipientDeliveryState :=
  s.deliveryStates.filter fun r => r.messageId = message

def Store.recipientState (device : DeviceId) : Option RecipientDeliveryState :=
  lookup RecipientDeliveryState.key (message, device) s.deliveryStates

/-- `UPDATE delivery_state_by_message`: an upsert, so a row that was not there comes into being with
the columns of the key and those that are set, and without a user. -/
def Store.updateRecipientState (device : DeviceId)
    (set : RecipientDeliveryState → RecipientDeliveryState) : Store :=
  s.insertRecipientState { set ((s.recipientState message device).getD
        { messageId := message, recipientDeviceId := device, recipientUserId := ""
          deliveryState := .queued }) with
      messageId := message, recipientDeviceId := device }

def Store.recordDeliveryAck (device : DeviceId) (deliveredAt : TimePoint) : Store :=
  s.updateRecipientState message device fun r =>
    { r with deliveryState := .delivered, deliveredAt := some deliveredAt }

def Store.recordReadAck (device : DeviceId) (readAt : TimePoint) : Store :=
  s.updateRecipientState message device fun r =>
    { r with deliveryState := .read, readAt := some readAt }

/-- `get_delivery_states_for_message` as the writers call it: reading a row that has no user throws. -/
def Store.fetchDeliveryStates : Option (List RecipientDeliveryState) :=
  let rows := s.getDeliveryStatesForMessage message
  if rows.any (·.recipientUserId = "") then none else some rows

/-- Queue order: `accepted_at ASC, message_id ASC`. -/
def queueLe (a b : DeviceDeliveryRecord) : Prop :=
  a.acceptedAt < b.acceptedAt ∨ (a.acceptedAt = b.acceptedAt ∧ a.messageId.bits ≤ b.messageId.bits)

instance : DecidableRel queueLe := fun a b => by unfold queueLe; infer_instance

def Store.fetchPendingForDevice (bucket : String) (limit : Nat) : List DeviceDeliveryRecord :=
  ((s.pendingDeliveries.filter fun r =>
    r.deviceId = device ∧ r.deliveryBucket = bucket).insertionSort queueLe).take limit

/-- `update_device_delivery_status` on a row of the queue. (The `UPDATE` of a missing row would make a
row without envelope, which `fetch_pending_for_device` cannot read; it is not kept.) -/
def Store.updateDeviceDeliveryStatus (bucket : String)
    (acceptedAt : TimePoint) (message : MessageId) (state : DeliveryState) (attempts : Nat) : Store :=
  { s with pendingDeliveries := s.pendingDeliveries.map fun r =>
      if r.key = ((device, bucket), (acceptedAt, message)) then
        { r with deliveryState := state, attemptCount := attempts }
      else r }

/-! ## Outbox and cursor repositories -/

def Store.enqueueEvent (e : ConversationOutboxEvent) : Store :=
  { s with outbox := e :: s.outbox }

def Store.getSyncCursor (conv : ConversationId) : Option DeviceSyncCursor :=
  s.syncCursors (device, conv)

def Store.upsertSyncCursor (c : DeviceSyncCursor) : Store :=
  { s with syncCursors := Function.update s.syncCursors (c.deviceId, c.conversationId) (some c) }

/-! ## Sequence allocator (`conversation_sequence_allocator.cpp`)

One counter per conversation AND bucket, in memory, loaded from the partition's highest sequence on
first use. A new bucket therefore starts again at `1`. -/

abbrev Counters := ConversationId × MessageBucket → Option Nat

variable (c : Counters)

/-- The counter of a partition: the cached value, or the one a miss loads. -/
def Counters.load (s : Store) (conv : ConversationId) (bucket : MessageBucket) :
    Nat :=
  (c (conv, bucket)).getD (s.getLastSequence conv bucket)

/-- `allocate_sequence`: returns `++counter`. -/
def Counters.allocateSequence (s : Store) (conv : ConversationId)
    (bucket : MessageBucket) : Nat × Counters :=
  let n := c.load s conv bucket + 1
  (n, Function.update c (conv, bucket) (some n))

/-- `peek_sequence`: returns the counter, caching what it loaded. -/
def Counters.peekSequence (s : Store) (conv : ConversationId)
    (bucket : MessageBucket) : Nat × Counters :=
  let n := c.load s conv bucket
  (n, Function.update c (conv, bucket) (some n))

def Counters.invalidate (conv : ConversationId) (bucket : MessageBucket) :
    Counters :=
  Function.update c (conv, bucket) none

/-- One round of the loop of `clear`: the counters of one stripe are dropped. -/
def Counters.clearStripe (stripeOf : ConversationId × MessageBucket → Nat)
    (stripe : Nat) : Counters :=
  fun p => if stripeOf p = stripe then none else c p

end SecureCloud.Messaging
