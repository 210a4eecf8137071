import SecureCloud.Lib.Positional
import SecureCloud.Messaging.Delivery.Engine

/-
# Messaging.Delivery.Calls — workers, recovery, acknowledgements, receipts, consumer

The calls of the delivery engine, statement by statement. The worker never looks at the record it
overwrites, the recovery service works through the batch it fetched at the start, the acknowledgement
looks for the record in the month of ITS time, and the consumer in the month of the event.
-/

namespace SecureCloud.Messaging.Delivery

open Lib.Program

/-- The key of the record that a task stands for, with the bucket the caller works in. -/
def Task.key (task : Task) (bucket : String) : QueueKey :=
  ((task.recipientDeviceId, bucket), (task.acceptedAt, task.messageId))

variable (rec : QueueRecord)

def QueueRecord.task (user : UserId) (scheduledAt : TimePoint) : Task where
  messageId := rec.row.messageId
  conversationId := rec.content.conversationId
  recipientDeviceId := rec.row.deviceId
  recipientUserId := user
  attemptCount := rec.row.attemptCount
  acceptedAt := rec.row.acceptedAt
  expiresAt := none
  priority := rec.content.messagePriority
  scheduledAt := scheduledAt
  envelope := rec.content.envelope

namespace Config

variable (cfg : Config)

/-! ## `DeliveryWorker::process_single_task` -/

def deliveredPayload (task : Task) (deliveredAt : TimePoint) : String :=
  "\x7b\"message_id\":\"" ++ task.messageId.toString ++ "\"," ++
    "\"recipient_device_id\":\"" ++ task.recipientDeviceId ++ "\"," ++
    "\"recipient_user_id\":\"" ++ task.recipientUserId ++ "\"," ++
    "\"delivered_at_unix_ms\":" ++ toString deliveredAt ++ "\x7d"

/-- `is_retryable` of a transient failure; `expires_at` is always given. -/
def isRetryable (attempts : Nat) (expiresAt now : TimePoint) : Bool :=
  attempts < cfg.maxRetryAttempts && now < expiresAt

/-- Step 4: what follows a dispatch. -/
def afterAttempt (task : Task) (key : QueueKey) : DeliveryAttemptResult → Program Unit
  | .success => do
    let deliveredAt ← perform .clock
    rethrow (← perform (.recordDeliveryAck task.messageId task.recipientDeviceId deliveredAt))
    updateStatus key .delivered task.attemptCount none
    if cfg.outbox then
      enqueueEvent { conversationId := task.conversationId, eventType := "MessageDelivered"
                     payloadJson := deliveredPayload task deliveredAt, createdAt := deliveredAt }
  | .recipientOffline => updateStatus key .queued task.attemptCount none
  | .transientFailure => do
    let attempts := task.attemptCount + 1
    let now ← perform .clock
    let expiresAt := task.expiresAt.getD (now + 2592000000)
    -- `is_retryable` reads the clock for itself
    let later ← perform .clock
    if cfg.isRetryable attempts expiresAt later then
      let delay ← perform (.computeNextDelay attempts)
      let nextRetry := now + delay
      updateStatus key .retryWait attempts (some nextRetry)
      let _ ← perform (.schedule { task with attemptCount := attempts, scheduledAt := nextRetry })
    else
      updateStatus key .expired attempts none
  | .terminalFailure => updateStatus key .expired task.attemptCount none

/-- Steps 1 to 3, with a task in hand. -/
def deliver (task : Task) : Program Unit := do
  let bucket ← bucketOf task.acceptedAt
  let key := task.key bucket
  let active ← if cfg.registry then perform (.activeChannel task.recipientDeviceId) else pure false
  if active then
    updateStatus key .delivering task.attemptCount none
    let result ← perform (.sendEnvelope task)
    cfg.afterAttempt task key result
  else
    updateStatus key .queued task.attemptCount none

def processSingleTask : Program Bool := do
  match ← perform .dequeue with
  | none => pure false
  | some task =>
    cfg.deliver task
    pure true

/-! ## `DurableDeliveryRecoveryService` -/

def recipientUser : Program UserId := do
  let states ← fetchStates rec.row.messageId
  pure (((states.find? (·.recipientDeviceId = rec.row.deviceId)).map (·.recipientUserId)).getD "")

variable (device : DeviceId)

def reachable : Program Bool :=
  if cfg.registry then perform (.isOnline device) else pure true

/-- Offers a record to the scheduler. A task that is turned away ends the loop: the queues are full. -/
def offerRecord (now : TimePoint) (taken turnedAway : Program Nat) : Program Nat := do
  let user ← recipientUser rec
  match ← perform (.schedule (rec.task user now)) with
  | .enqueued => taken
  | _ => turnedAway

/-- The loop of `purge_expired_for_device`. -/
def purgeLoop (now : TimePoint) : List QueueRecord → Nat → Program Nat
  | [], purged => pure purged
  | rec :: recs, purged =>
    if isTerminal rec.row.deliveryState then purgeLoop now recs purged
    else if cfg.maxDeliveryTtl < now - rec.row.acceptedAt then do
      updateStatus rec.row.key .expired rec.row.attemptCount none
      purgeLoop now recs (purged + 1)
    else purgeLoop now recs purged

def purgeExpiredForDevice (bucket : String) (now : TimePoint) : Program Nat := do
  let recs ← fetchPending device bucket cfg.batchSize
  cfg.purgeLoop now recs 0

/-- The loop of `sweep_retries_for_device`. -/
def sweepLoop (now : TimePoint) : List QueueRecord → Nat → Program Nat
  | [], retried => pure retried
  | rec :: recs, retried =>
    if rec.row.deliveryState ≠ .retryWait then sweepLoop now recs retried
    else if cfg.recoveryMaxRetryAttempts ≤ rec.row.attemptCount then do
      updateStatus rec.row.key .expired rec.row.attemptCount none
      sweepLoop now recs retried
    else if rec.row.nextRetryAt.any (now < ·) then sweepLoop now recs retried
    else do
      updateStatus rec.row.key .queued rec.row.attemptCount none
      offerRecord rec now (sweepLoop now recs (retried + 1)) (pure retried)

def sweepRetriesForDevice (bucket : String) (now : TimePoint) : Program Nat := do
  if ← cfg.reachable device then
    let recs ← fetchPending device bucket cfg.batchSize
    cfg.sweepLoop now recs 0
  else pure 0

/-- The loop of `recover_pending_for_device`. -/
def recoverLoop (now : TimePoint) : List QueueRecord → Nat → Program Nat
  | [], enqueued => pure enqueued
  | rec :: recs, enqueued =>
    if rec.row.deliveryState ≠ .queued ∧ rec.row.deliveryState ≠ .delivering then
      recoverLoop now recs enqueued
    else if cfg.maxDeliveryTtl < now - rec.row.acceptedAt then do
      updateStatus rec.row.key .expired rec.row.attemptCount none
      recoverLoop now recs enqueued
    else offerRecord rec now (recoverLoop now recs (enqueued + 1)) (pure enqueued)

def recoverPendingForDevice (bucket : String) : Program Nat := do
  if ← cfg.reachable device then
    let now ← perform .clock
    let recs ← fetchPending device bucket cfg.batchSize
    cfg.recoverLoop now recs 0
  else pure 0

/-- The loop of `run_recovery_cycle` over its devices. -/
def cycleLoop (bucket : String) (now : TimePoint) : List DeviceId → Nat → Program Nat
  | [], total => pure total
  | device :: devices, total => do
    let _ ← cfg.purgeExpiredForDevice device bucket now
    let retried ← cfg.sweepRetriesForDevice device bucket now
    let recovered ← cfg.recoverPendingForDevice device bucket
    cycleLoop bucket now devices (total + retried + recovered)

/-- `run_recovery_cycle`. Without candidates there is nothing to do, with or without a registry. -/
def runRecoveryCycle (candidates : List DeviceId) (deliveryBucket : String) : Program Nat := do
  let now ← perform .clock
  let bucket ← if deliveryBucket = "" then bucketOf now else pure deliveryBucket
  cfg.cycleLoop bucket now candidates 0

/-! ## `DeliveryService::acknowledge_delivery` -/

def stripe (message : MessageId) (device : DeviceId) : Nat :=
  cfg.stripeOf (message.toString ++ ":" ++ device)

variable (cmd : DeliveryAckCommand)

/-- The payload of an acknowledgement's `MessageDelivered` event: `dump` orders the members. -/
def ackPayload (user : UserId) (deliveredAt : TimePoint) : String :=
  "\x7b\"delivered_at_unix_ms\":" ++ toString deliveredAt ++ "," ++
    "\"message_id\":\"" ++ cmd.messageId.toString ++ "\"," ++
    "\"recipient_device_id\":\"" ++ cmd.recipientDeviceId ++ "\"," ++
    "\"recipient_user_id\":\"" ++ user ++ "\"\x7d"

/-- Steps 6 to 8. -/
def commitAck (user : UserId) (t : TimePoint) : Program (ServiceResult DeliveryAckResponse) := do
  rethrow (← perform (.recordDeliveryAck cmd.messageId cmd.recipientDeviceId t))
  let bucket ← bucketOf t
  let recs ← fetchPending cmd.recipientDeviceId bucket 100
  let found := recs.find? (·.row.messageId = cmd.messageId)
  match found with
  | some rec => updateStatus rec.row.key .delivered rec.row.attemptCount none
  | none => pure ()
  if cfg.outbox then
    let given := cmd.conversationId.getD ⟨0⟩
    let conv := if given = ⟨0⟩ then (found.map (·.content.conversationId)).getD given else given
    enqueueEvent { conversationId := conv, eventType := "MessageDelivered"
                   payloadJson := ackPayload cmd user t, createdAt := t }
  pure (.ok { messageId := cmd.messageId, state := .delivered, recordedAt := t
              isIdempotentReplay := false })

/-- Steps 1 to 5, under the stripe. Asking the status checker about a row that failed an earlier check is
harmless. -/
def ackLocked (t : TimePoint) : Program (ServiceResult DeliveryAckResponse) := do
  let states ← fetchStates cmd.messageId
  let active ← perform (.isDeviceActive cmd.recipientDeviceId)
  match cmd.check t active states with
  | .inl result => pure result
  | .inr target => cfg.commitAck cmd target.recipientUserId t

def acknowledgeDelivery : Program (ServiceResult DeliveryAckResponse) := do
  if cmd.recipientDeviceId = "" then
    pure (.fail .invalidTargetDevice "Recipient device ID must not be empty")
  else
    let now ← perform .clock
    let t := if 0 < cmd.deliveredAt then cmd.deliveredAt else now
    let stripe := cfg.stripe cmd.messageId cmd.recipientDeviceId
    guarded (perform (.lockAck stripe)) (perform (.unlockAck stripe)) (cfg.ackLocked cmd t)

/-! ## `ReadReceiptService::record_read_receipt` -/

def readPayload (cmd : ReadReceiptCommand) (readAt : TimePoint) : String :=
  "\x7b\"conversation_id\":\"" ++ cmd.conversationId.toString ++ "\"," ++
    "\"message_id\":\"" ++ cmd.messageId.toString ++ "\"," ++
    "\"read_at_unix_ms\":" ++ toString readAt ++ "," ++
    "\"reader_device_id\":\"" ++ cmd.readerDeviceId ++ "\"," ++
    "\"reader_user_id\":\"" ++ cmd.callerUserId ++ "\"\x7d"

/-- Steps 3 to 8, under the stripe. -/
def receiptLocked (cmd : ReadReceiptCommand) : Program (ServiceResult ReadReceiptResponse) := do
  let states ← fetchStates cmd.messageId
  let now ← perform .clock
  match cmd.check states with
  | .inl result => pure result
  | .inr _ =>
    let t := if 0 < cmd.readAt then cmd.readAt else now
    rethrow (← perform (.recordReadAck cmd.messageId cmd.readerDeviceId t))
    if cfg.outbox then
      enqueueEvent { conversationId := cmd.conversationId, eventType := "MessageRead"
                     payloadJson := readPayload cmd t, createdAt := t }
    pure (.ok (cmd.response t false))

/-- `record_read_receipt`. Asking for membership and device status after a failed check is harmless. -/
def recordReadReceipt (cmd : ReadReceiptCommand) : Program (ServiceResult ReadReceiptResponse) := do
  let participant ← rethrow (← perform (.isParticipant cmd.conversationId cmd.callerUserId))
  let active ← perform (.isDeviceActive cmd.readerDeviceId)
  match cmd.invalid participant active with
  | some result => pure result
  | none =>
    let stripe := cfg.stripe cmd.messageId cmd.readerDeviceId
    guarded (perform (.lockReceipt stripe)) (perform (.unlockReceipt stripe)) (cfg.receiptLocked cmd)

end Config

/-! ## `OutboxDeliveryConsumer::poll_and_dispatch` -/

/-- What the JSON library makes of a payload: nothing, no `message_id`, a member that is no string, or its
text. -/
inductive Payload
  | discarded
  | withoutMessageId
  | notAString
  | messageId (text : String)

def messageIdFromString (text : String) : Option MessageId :=
  let cs := text.toList
  if cs.length ≠ 36 then none
  else if cs[8]? ≠ some '-' ∨ cs[13]? ≠ some '-' ∨ cs[18]? ≠ some '-' ∨ cs[23]? ≠ some '-' then none
  else
    let digits := cs.zipIdx.filter fun (_, i) => i ≠ 8 ∧ i ≠ 13 ∧ i ≠ 18 ∧ i ≠ 23
    ((digits.map Prod.fst).mapM Lib.Positional.hexVal).map fun vs => ⟨vs.foldl (fun n v => 16 * n + v) 0⟩

/-- The consumer: the engine's configuration and the JSON library. -/
structure Consumer where
  config : Config
  parse : String → Payload

namespace Consumer

variable (c : Consumer) (event : OutboxEventRecord)

/-- The message of an event: read, given up on (`none`), or an exception of the JSON library. -/
def messageOf : Except String (Option MessageId) :=
  match c.parse event.payloadJson with
  | .discarded => .ok none
  | .withoutMessageId => .ok none
  | .notAString => .error "type must be string"
  | .messageId text => .ok (messageIdFromString text)

/-- Steps 3 and 4 for one device. -/
def dispatchTo (message : MessageId) (bucket : String) (state : RecipientDeliveryState) :
    Program Unit := do
  if ← c.config.reachable state.recipientDeviceId then
    let recs ← fetchPending state.recipientDeviceId bucket 100
    match recs.find? (·.row.messageId = message) with
    | some rec =>
      let _ ← perform (.schedule (rec.task state.recipientUserId rec.row.acceptedAt))
    | none => pure ()

def dispatchLoop (message : MessageId) (bucket : String) :
    List RecipientDeliveryState → Program Unit
  | [] => pure ()
  | state :: states => do
    c.dispatchTo message bucket state
    dispatchLoop message bucket states

/-- `mark_event_published`, now. -/
def markPublished : Program Unit := do
  let now ← perform .clock
  rethrow (← perform (.markPublished event.key now))

/-- One event of type `MessageSent`; `true` when it is counted as processed. -/
def processEvent : Program Bool := do
  match ← rethrow (c.messageOf event) with
  | none =>
    markPublished event
    pure false
  | some message =>
    let bucket ← bucketOf event.createdAt
    let states ← fetchStates message
    c.dispatchLoop message bucket states
    markPublished event
    pure true

/-- The loop over the events. An exception leaves the event as it is. -/
def pollLoop : List OutboxEventRecord → Nat → Program Nat
  | [], processed => pure processed
  | event :: events, processed =>
    if event.eventType ≠ "MessageSent" then pollLoop events processed
    else do
      let counted ← tryCatch (c.processEvent event) fun _ => pure false
      pollLoop events (if counted then processed + 1 else processed)

def pollAndDispatch (outboxBucket : String) (limit : Nat) : Program Nat := do
  let events ← rethrow (← perform (.fetchEvents outboxBucket limit))
  c.pollLoop events 0

end Consumer

end SecureCloud.Messaging.Delivery
