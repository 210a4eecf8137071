import SecureCloud.Messaging.Submission

/-
# Messaging.DeliveryStates — who writes `delivery_state_by_message`

Three writers move the state of a message on a device: `DeliveryService::acknowledge_delivery`,
`ReadReceiptService::record_read_receipt` and `DeliveryWorker::process_single_task`. The two services read
the row, check it and write WITHOUT a condition, under two different sets of mutexes, so a receipt can
come between an acknowledgement's check and its write. The worker does not look at all.

The state moves back exactly when `DELIVERED` is written over `READ` or `EXPIRED`. Outbox events are left
out: `enqueue_event` is a move that may throw.
-/

namespace SecureCloud.Messaging

open Lib Lib.Interleaving DeliveryState

/-! ## The transition guard -/

def DeliveryState.isRegression (current candidate : DeliveryState) : Bool :=
  if current = candidate then false
  else match current with
  | .delivered => candidate = .queued ∨ candidate = .delivering ∨ candidate = .retryWait
  | .read => candidate = .delivered ∨ candidate = .delivering ∨ candidate = .retryWait ∨
      candidate = .queued
  | .expired => candidate = .queued ∨ candidate = .delivering ∨ candidate = .retryWait ∨
      candidate = .delivered ∨ candidate = .read
  | .delivering => candidate = .queued
  | .retryWait => candidate = .queued
  | .queued => false

def DeliveryState.arrived (s : DeliveryState) : Bool := s = .delivered ∨ s = .read

/-- No row moves back: none disappears, none regresses, and what has arrived stays arrived. -/
def Store.Forward (s s' : Store) : Prop :=
  ∀ message device r, s.recipientState message device = some r →
    ∃ r', s'.recipientState message device = some r' ∧
      r.deliveryState.isRegression r'.deliveryState = false ∧
      (r.deliveryState.arrived → r'.deliveryState.arrived)

/-! ## Commands and results -/

structure DeliveryAckCommand where
  messageId : MessageId
  recipientDeviceId : DeviceId
  callerUserId : UserId
  callerDeviceId : DeviceId
  deliveredAt : TimePoint
  conversationId : Option ConversationId

structure DeliveryAckResponse where
  messageId : MessageId
  state : DeliveryState
  recordedAt : TimePoint
  isIdempotentReplay : Bool

structure ReadReceiptCommand where
  messageId : MessageId
  conversationId : ConversationId
  callerUserId : UserId
  readerDeviceId : DeviceId
  callerDeviceId : DeviceId
  readAt : TimePoint

structure ReadReceiptResponse where
  messageId : MessageId
  conversationId : ConversationId
  readerUserId : UserId
  readerDeviceId : DeviceId
  state : DeliveryState
  recordedAt : TimePoint
  isIdempotentReplay : Bool

/-- `DeliveryTask`, without the envelope, which the worker only hands on. -/
structure DeliveryTask where
  messageId : MessageId
  conversationId : ConversationId
  recipientDeviceId : DeviceId
  recipientUserId : UserId
  attemptCount : Nat
  acceptedAt : TimePoint
  expiresAt : Option TimePoint
deriving DecidableEq

inductive DeliveryAttemptResult
  | success
  | recipientOffline
  | transientFailure
  | terminalFailure
deriving DecidableEq

/-- The environment's part of a move: the clock, how the repository call and the dispatch end, the
verdicts asked for, whether the device has an active channel. -/
structure DeliveryInput where
  now : TimePoint
  outcome : CallOutcome := .ok
  deviceActive : Bool := true
  participantActive : Bool := true
  channelActive : Bool := true
  attempt : DeliveryAttemptResult := .success

/-! ## `acknowledge_delivery` -/

/-- Steps 2 to 5, on the rows that were read: a refusal or a replay, or the row to acknowledge. -/
def DeliveryAckCommand.check (cmd : DeliveryAckCommand) (effectiveDeliveredAt : TimePoint)
    (deviceActive : Bool) (states : List RecipientDeliveryState) :
    ServiceResult DeliveryAckResponse ⊕ RecipientDeliveryState :=
  match states.find? (·.recipientDeviceId = cmd.recipientDeviceId) with
  | none => .inl (.fail .invalidTargetDevice
      "Message was not dispatched to the specified recipient device")
  | some target =>
    if target.recipientUserId ≠ cmd.callerUserId then
      .inl (.fail .notAParticipant "Caller is not authorized to acknowledge delivery for this device")
    else if cmd.callerDeviceId ≠ "" ∧ cmd.callerDeviceId ≠ cmd.recipientDeviceId then
      .inl (.fail .invalidTargetDevice
        "Caller device cannot acknowledge delivery on behalf of a different device")
    else if !deviceActive then
      .inl (.fail .deviceRevoked "Recipient device has been revoked or is not active")
    else if target.deliveryState = .delivered ∨ target.deliveryState = .read then
      .inl (.ok { messageId := cmd.messageId, state := target.deliveryState
                  recordedAt := target.deliveredAt.getD effectiveDeliveredAt
                  isIdempotentReplay := true })
    else if target.deliveryState = .expired then
      .inl (.fail .messageExpired "Message delivery window has expired and cannot be acknowledged")
    else .inr target

/-! ## `record_read_receipt` -/

variable (cmd : ReadReceiptCommand)

/-- The checks before the stripe is taken. -/
def ReadReceiptCommand.invalid (participantActive deviceActive : Bool) :
    Option (ServiceResult ReadReceiptResponse) :=
  if cmd.messageId = ⟨0⟩ then some (.fail .invalidTargetDevice "Message ID must not be empty")
  else if cmd.readerDeviceId = "" then
    some (.fail .invalidTargetDevice "Reader device ID must not be empty")
  else if cmd.callerUserId = "" then
    some (.fail .notAParticipant "Caller user ID must not be empty")
  else if cmd.callerDeviceId ≠ "" ∧ cmd.callerDeviceId ≠ cmd.readerDeviceId then
    some (.fail .invalidTargetDevice
      "Caller device cannot submit read receipts on behalf of a different device")
  else if cmd.conversationId ≠ ⟨0⟩ ∧ !participantActive then
    some (.fail .notAParticipant "Caller is not an active participant in the specified conversation")
  else if !deviceActive then
    some (.fail .deviceRevoked "Reader device has been revoked and cannot submit valid read receipts")
  else none

def ReadReceiptCommand.response (recordedAt : TimePoint) (replay : Bool) : ReadReceiptResponse where
  messageId := cmd.messageId
  conversationId := cmd.conversationId
  readerUserId := cmd.callerUserId
  readerDeviceId := cmd.readerDeviceId
  state := .read
  recordedAt := recordedAt
  isIdempotentReplay := replay

/-- Steps 3 to 6, on the rows that were read. -/
def ReadReceiptCommand.check (states : List RecipientDeliveryState) :
    ServiceResult ReadReceiptResponse ⊕ RecipientDeliveryState :=
  if states.isEmpty then .inl (.fail .invalidTargetDevice "Message delivery states not found")
  else match states.find? (·.recipientDeviceId = cmd.readerDeviceId) with
  | none => .inl (.fail .invalidTargetDevice
      "Message was not dispatched to the specified reader device")
  | some target =>
    if target.recipientUserId ≠ cmd.callerUserId then
      .inl (.fail .notAParticipant
        "Caller is not authorized to submit read receipt on behalf of another recipient")
    else if target.deliveryState = .expired then
      .inl (.fail .messageExpired "Message delivery window has expired and cannot be marked as read")
    else match target.readAt with
    | some readAt => .inl (.ok (cmd.response readAt true))
    | none => .inr target

/-! ## The writers as processes -/

/-- What a worker does once it has updated the queue. -/
inductive AfterQueue
  | finish
  | poll
  | publish

inductive DeliveryPc
  | ackCalled (cmd : DeliveryAckCommand)
  | ackLocked (cmd : DeliveryAckCommand) (deliveredAt : TimePoint)
  | ackRecording (cmd : DeliveryAckCommand) (deliveredAt : TimePoint)
  | ackSearching (cmd : DeliveryAckCommand) (deliveredAt : TimePoint)
  | ackQueueing (cmd : DeliveryAckCommand) (deliveredAt : TimePoint) (rec : DeviceDeliveryRecord)
  | ackPublishing (cmd : DeliveryAckCommand) (deliveredAt : TimePoint)
  | ackReturned (cmd : DeliveryAckCommand) (result : ServiceResult DeliveryAckResponse)
  | readCalled (cmd : ReadReceiptCommand)
  | readLocking (cmd : ReadReceiptCommand)
  | readLocked (cmd : ReadReceiptCommand)
  | readRecording (cmd : ReadReceiptCommand) (readAt : TimePoint)
  | readPublishing (cmd : ReadReceiptCommand) (readAt : TimePoint)
  | readReturned (cmd : ReadReceiptCommand) (result : ServiceResult ReadReceiptResponse)
  | workerPolling (task : DeliveryTask)
  | workerMarking (task : DeliveryTask) (bucket : MessageBucket)
  | workerSending (task : DeliveryTask) (bucket : MessageBucket)
  | workerRecording (task : DeliveryTask) (bucket : MessageBucket)
  | workerQueueing (task : DeliveryTask) (bucket : MessageBucket) (state : DeliveryState)
      (after : AfterQueue)
  | workerPublishing (task : DeliveryTask)
  | finished
  | threw

/-- What the writers share. The stripes of the two services are different mutexes. -/
structure DeliveryWorld (ι : Type*) where
  store : Store
  ackStripes : Nat → Option ι
  receiptStripes : Nat → Option ι

/-- The configured services: `stripeOf` is `std::hash` modulo the number of stripes. -/
structure DeliverySystem where
  stripeOf : String → Nat
  maxRetryAttempts : Nat

namespace DeliverySystem

variable {ι : Type*} (sys : DeliverySystem)

def stripe (message : MessageId) (device : DeviceId) : Nat :=
  sys.stripeOf (message.toString ++ ":" ++ device)

/-- The end of the `lock_guard`'s scope in `acknowledge_delivery`. -/
def releaseAck (cmd : DeliveryAckCommand) (w : DeliveryWorld ι) : DeliveryWorld ι :=
  { w with ackStripes :=
      Function.update w.ackStripes (sys.stripe cmd.messageId cmd.recipientDeviceId) none }

/-- The end of the `lock_guard`'s scope in `record_read_receipt`. -/
def releaseRead (w : DeliveryWorld ι) : DeliveryWorld ι :=
  { w with receiptStripes :=
      Function.update w.receiptStripes (sys.stripe cmd.messageId cmd.readerDeviceId) none }

/-- A call that makes `store'` of the store: on to `next`, or the exception leaves it and `unwind`
releases what it holds. -/
def call (outcome : CallOutcome) (w : DeliveryWorld ι) (store' : Store)
    (unwind : DeliveryWorld ι → DeliveryWorld ι) (next : DeliveryPc) :
    Option (DeliveryPc × DeliveryWorld ι) :=
  let w' := if outcome.takesEffect then { w with store := store' } else w
  match outcome.thrown with
  | none => some (next, w')
  | some _ => some (.threw, unwind w')

/-- `is_retryable` of a transient failure, the attempt counted. -/
def isRetryable (task : DeliveryTask) (now : TimePoint) : Bool :=
  task.attemptCount < sys.maxRetryAttempts && now < task.expiresAt.getD (now + 2592000000)

/-- Step 4 of the worker: what follows a dispatch. -/
def afterAttempt (task : DeliveryTask) (bucket : MessageBucket) (now : TimePoint) :
    DeliveryAttemptResult → DeliveryPc
  | .success => .workerRecording task bucket
  | .recipientOffline => .workerQueueing task bucket .queued .finish
  | .transientFailure =>
    let again := { task with attemptCount := task.attemptCount + 1 }
    if sys.isRetryable again now then .workerQueueing again bucket .retryWait .poll
    else .workerQueueing again bucket .expired .finish
  | .terminalFailure => .workerQueueing task bucket .expired .finish

def queueStatus (s : Store) (task : DeliveryTask) (bucket : MessageBucket) (state : DeliveryState) :
    Store :=
  s.updateDeviceDeliveryStatus task.recipientDeviceId bucket.value task.acceptedAt task.messageId
    state task.attemptCount

/-- One move of a writer. `none`: it cannot move. -/
def next (i : ι) (pc : DeliveryPc) (x : DeliveryInput) (w : DeliveryWorld ι) :
    Option (DeliveryPc × DeliveryWorld ι) :=
  match pc with
  | .ackCalled cmd =>
    let stripe := sys.stripe cmd.messageId cmd.recipientDeviceId
    if cmd.recipientDeviceId = "" then
      some (.ackReturned cmd (.fail .invalidTargetDevice "Recipient device ID must not be empty"), w)
    else if (w.ackStripes stripe).isSome then none
    else some (.ackLocked cmd (if 0 < cmd.deliveredAt then cmd.deliveredAt else x.now),
      { w with ackStripes := Function.update w.ackStripes stripe (some i) })
  | .ackLocked cmd t =>
    match x.outcome.thrown, w.store.fetchDeliveryStates cmd.messageId with
    | none, some states =>
      match cmd.check t x.deviceActive states with
      | .inl result => some (.ackReturned cmd result, sys.releaseAck cmd w)
      | .inr _ => some (.ackRecording cmd t, w)
    | _, _ => some (.threw, sys.releaseAck cmd w)
  | .ackRecording cmd t =>
    call x.outcome w (w.store.recordDeliveryAck cmd.messageId cmd.recipientDeviceId t)
      (sys.releaseAck cmd) (.ackSearching cmd t)
  | .ackSearching cmd t =>
    -- the month of a time the client chose may lie outside the calendar: that throws
    match x.outcome.thrown, MessageBucket.fromTimePoint t with
    | none, some bucket =>
      match (w.store.fetchPendingForDevice cmd.recipientDeviceId bucket.value 100).find?
          (·.messageId = cmd.messageId) with
      | some rec => some (.ackQueueing cmd t rec, w)
      | none => some (.ackPublishing cmd t, w)
    | _, _ => some (.threw, sys.releaseAck cmd w)
  | .ackQueueing cmd t rec =>
    call x.outcome w (w.store.updateDeviceDeliveryStatus cmd.recipientDeviceId rec.deliveryBucket
      rec.acceptedAt cmd.messageId .delivered rec.attemptCount) (sys.releaseAck cmd)
      (.ackPublishing cmd t)
  | .ackPublishing cmd t =>
    match x.outcome.thrown with
    | none => some (.ackReturned cmd (.ok { messageId := cmd.messageId, state := .delivered
                                            recordedAt := t, isIdempotentReplay := false }),
        sys.releaseAck cmd w)
    | some _ => some (.threw, sys.releaseAck cmd w)
  | .readCalled cmd =>
    match x.outcome.thrown, cmd.invalid x.participantActive x.deviceActive with
    | some _, _ => some (.threw, w)
    | none, some result => some (.readReturned cmd result, w)
    | none, none => some (.readLocking cmd, w)
  | .readLocking cmd =>
    let stripe := sys.stripe cmd.messageId cmd.readerDeviceId
    if (w.receiptStripes stripe).isSome then none
    else some (.readLocked cmd,
      { w with receiptStripes := Function.update w.receiptStripes stripe (some i) })
  | .readLocked cmd =>
    match x.outcome.thrown, w.store.fetchDeliveryStates cmd.messageId with
    | none, some states =>
      match cmd.check states with
      | .inl result => some (.readReturned cmd result, sys.releaseRead cmd w)
      | .inr _ => some (.readRecording cmd (if 0 < cmd.readAt then cmd.readAt else x.now), w)
    | _, _ => some (.threw, sys.releaseRead cmd w)
  | .readRecording cmd t =>
    call x.outcome w (w.store.recordReadAck cmd.messageId cmd.readerDeviceId t)
      (sys.releaseRead cmd) (.readPublishing cmd t)
  | .readPublishing cmd t =>
    match x.outcome.thrown with
    | none => some (.readReturned cmd (.ok (cmd.response t false)), sys.releaseRead cmd w)
    | some _ => some (.threw, sys.releaseRead cmd w)
  | .workerPolling task =>
    match MessageBucket.fromTimePoint task.acceptedAt with
    | none => some (.threw, w)
    | some bucket =>
      if x.channelActive then some (.workerMarking task bucket, w)
      else some (.workerQueueing task bucket .queued .finish, w)
  | .workerMarking task bucket =>
    call x.outcome w (queueStatus w.store task bucket .delivering) id (.workerSending task bucket)
  | .workerSending task bucket => some (sys.afterAttempt task bucket x.now x.attempt, w)
  | .workerRecording task bucket =>
    call x.outcome w (w.store.recordDeliveryAck task.messageId task.recipientDeviceId x.now) id
      (.workerQueueing task bucket .delivered .publish)
  | .workerQueueing task bucket state after =>
    call x.outcome w (queueStatus w.store task bucket state) id (match after with
        | .finish => .finished
        | .poll => .workerPolling task
        | .publish => .workerPublishing task)
  | .workerPublishing _ =>
    match x.outcome.thrown with
    | none => some (.finished, w)
    | some _ => some (.threw, w)
  | .ackReturned .. => none
  | .readReturned .. => none
  | .finished => none
  | .threw => none

end DeliverySystem

/-! ## The writes -/

def DeliveryPc.acks : DeliveryPc → Option (MessageId × DeviceId)
  | .ackRecording cmd _ => some (cmd.messageId, cmd.recipientDeviceId)
  | .workerRecording task _ => some (task.messageId, task.recipientDeviceId)
  | _ => none

def DeliveryPc.receipts : DeliveryPc → Option (MessageId × DeviceId)
  | .readRecording cmd _ => some (cmd.messageId, cmd.readerDeviceId)
  | _ => none

section
variable {s s' : Store} {message : MessageId} {device : DeviceId}

open Store

theorem recipientState_congr (h : s'.deliveryStates = s.deliveryStates) :
    s'.recipientState message device = s.recipientState message device := by
  rw [recipientState, h]
  rfl

open RecipientDeliveryState

theorem recipientState_update (s : Store) (message : MessageId) (device : DeviceId)
    (set : RecipientDeliveryState → RecipientDeliveryState) (message' : MessageId)
    (device' : DeviceId) :
    (s.updateRecipientState message device set).recipientState message' device' =
      if (message', device') = (message, device) then
        some { set ((s.recipientState message device).getD
            { messageId := message, recipientDeviceId := device, recipientUserId := ""
              deliveryState := .queued }) with
          messageId := message, recipientDeviceId := device }
      else s.recipientState message' device' :=
  Table.lookup_upsert key _ s.deliveryStates (message', device')

variable (state : DeliveryState) {set : RecipientDeliveryState → RecipientDeliveryState}

/-- An update that sets a row to `state` moves no row back exactly when that row may go there. -/
theorem forward_update_iff (hset : ∀ r, (set r).deliveryState = state) :
    s.Forward (s.updateRecipientState message device set) ↔
      ∀ r, s.recipientState message device = some r →
        r.deliveryState.isRegression state = false ∧ (r.deliveryState.arrived → state.arrived) := by
  constructor
  · intro h r hr
    obtain ⟨r', hr', hforward, harrived⟩ := h message device r hr
    rw [recipientState_update, if_pos rfl] at hr'
    cases hr'
    rw [hset] at hforward harrived
    exact ⟨hforward, harrived⟩
  intro h message' device' r hr
  rw [recipientState_update]
  by_cases hkey : (message', device') = (message, device)
  · rw [if_pos hkey]
    cases hkey
    refine ⟨_, rfl, ?_⟩
    rw [hset]
    exact h r hr
  rw [if_neg hkey]
  refine ⟨r, hr, ?_, id⟩
  simp [isRegression]

theorem Store.Forward.of_same (h : s'.deliveryStates = s.deliveryStates) : s.Forward s' := by
  intro message device r hr
  refine ⟨r, ?_, ?_, id⟩
  · rw [recipientState_congr h]
    exact hr
  · simp [isRegression]

theorem isRegression_delivered :
    (state.isRegression .delivered = false ∧ (state.arrived → delivered.arrived)) ↔
      state ≠ .read ∧ state ≠ .expired := by
  cases state <;> decide

theorem isRegression_read : (state.isRegression .read = false ∧ (state.arrived → read.arrived)) ↔
      state ≠ .expired := by
  cases state <;> decide

theorem forward_recordDeliveryAck_iff (t : TimePoint) :
    s.Forward (s.recordDeliveryAck message device t) ↔
      ∀ r, s.recipientState message device = some r →
        r.deliveryState ≠ .read ∧ r.deliveryState ≠ .expired := by
  refine (forward_update_iff .delivered fun _ => rfl).trans ?_
  simp only [isRegression_delivered]

theorem forward_recordReadAck_iff (t : TimePoint) : s.Forward (s.recordReadAck message device t) ↔
      ∀ r, s.recipientState message device = some r → r.deliveryState ≠ .expired := by
  refine (forward_update_iff .read fun _ => rfl).trans ?_
  simp only [isRegression_read]

variable {states : List RecipientDeliveryState}

theorem find?_fetchDeliveryStates
    (h : s.fetchDeliveryStates message = some states) (device : DeviceId) :
    states.find? (·.recipientDeviceId = device) = s.recipientState message device := by
  unfold fetchDeliveryStates at h
  dsimp only at h
  split at h
  · cases h
  cases h
  rw [getDeliveryStatesForMessage, List.find?_filter, recipientState, Table.lookup]
  congr 1
  funext r
  by_cases hm : r.messageId = message <;> simp [key, hm]

theorem ReadReceiptCommand.check_inr {cmd : ReadReceiptCommand} {target : RecipientDeliveryState}
    (h : cmd.check states = .inr target) :
    states.find? (·.recipientDeviceId = cmd.readerDeviceId) = some target ∧
      target.deliveryState ≠ .expired := by
  unfold ReadReceiptCommand.check at h
  split at h
  · cases h
  split at h
  · cases h
  rename_i row hrow
  split_ifs at h with huser hexpired
  split at h
  · cases h
  obtain rfl := Sum.inr.inj h
  exact ⟨hrow, hexpired⟩

/-- The row is there and has not expired: what a receipt has checked when it comes to its write. -/
def Store.Open (s : Store) (message : MessageId) (device : DeviceId) : Prop :=
  ∃ r, s.recipientState message device = some r ∧ r.deliveryState ≠ .expired

theorem Store.Open.congr (h : s.Open message device)
    (hsame : s'.deliveryStates = s.deliveryStates) : s'.Open message device := by
  unfold Store.Open
  rw [recipientState_congr hsame]
  exact h

theorem Store.Open.update (h : s.Open message device) {message' : MessageId} {device' : DeviceId}
    (hset : ∀ r, (set r).deliveryState ≠ .expired) :
    (s.updateRecipientState message' device' set).Open message device := by
  obtain ⟨r, hr, hopen⟩ := h
  unfold Store.Open
  rw [recipientState_update]
  split
  · exact ⟨_, rfl, hset _⟩
  · exact ⟨r, hr, hopen⟩

end

/-! ## What a move can do -/

namespace DeliverySystem

variable {ι : Type*} {sys : DeliverySystem} {i : ι} {x : DeliveryInput} {pc pc' : DeliveryPc}
  {w w' : DeliveryWorld ι}

/-- The moves, as far as delivery states go: a row is set to `DELIVERED` or, past its check, to
`READ`, or the table stays. -/
inductive Effect (pc : DeliveryPc) (x : DeliveryInput) (s : Store) (pc' : DeliveryPc) (s' : Store) :
    Prop
  | acked (message device t) (hpc : pc.acks = some (message, device))
      (hx : x.outcome.takesEffect = true) (hs : s' = s.recordDeliveryAck message device t)
      (hpc' : pc'.receipts = none)
  | received (message device t) (hpc : pc.receipts = some (message, device))
      (hs : s' = s.recordReadAck message device t) (hpc' : pc'.receipts = none)
  | quiet (hs : s'.deliveryStates = s.deliveryStates)
      (hpc : pc.acks ≠ none → x.outcome.takesEffect = false)
      (hpc' : ∀ message device, pc'.receipts = some (message, device) → s.Open message device)

variable {unwind : DeliveryWorld ι → DeliveryWorld ι} {p : DeliveryPc}

theorem call_eq_some {store' : Store} (h : call x.outcome w store' unwind p = some (pc', w'))
    (hunwind : ∀ v, (unwind v).store = v.store) (hp : p.receipts = none) :
    pc'.receipts = none ∧ ((x.outcome.takesEffect = true ∧ w'.store = store') ∨
      (x.outcome.takesEffect = false ∧ w'.store = w.store)) := by
  unfold call at h
  dsimp only at h
  split at h <;> cases h
  · exact ⟨hp, by cases x.outcome.takesEffect <;> simp⟩
  · exact ⟨rfl, by cases x.outcome.takesEffect <;> simp [hunwind]⟩

theorem Effect.of_same (hs : w'.store.deliveryStates = w.store.deliveryStates)
    (hacks : pc.acks = none) (hpc' : pc'.receipts = none) : Effect pc x w.store pc' w'.store :=
  .quiet hs (fun hne => absurd hacks hne) (by simp [hpc'])

theorem Effect.of_queue_call {store' : Store} (h : call x.outcome w store' unwind p = some (pc', w'))
    (hunwind : ∀ v, (unwind v).store = v.store)
    (hsame : store'.deliveryStates = w.store.deliveryStates) (hacks : pc.acks = none)
    (hp : p.receipts = none) : Effect pc x w.store pc' w'.store := by
  obtain ⟨hnone, ⟨-, hstore⟩ | ⟨-, hstore⟩⟩ := call_eq_some h hunwind hp
  · exact .of_same (hstore ▸ hsame) hacks hnone
  · exact .of_same (by rw [hstore]) hacks hnone

variable {message : MessageId}

theorem Effect.of_ack_call {device : DeviceId} {t : TimePoint}
    (h : call x.outcome w (w.store.recordDeliveryAck message device t) unwind p = some (pc', w'))
    (hunwind : ∀ v, (unwind v).store = v.store) (hacks : pc.acks = some (message, device))
    (hp : p.receipts = none) : Effect pc x w.store pc' w'.store := by
  obtain ⟨hnone, ⟨hx, hstore⟩ | ⟨hx, hstore⟩⟩ := call_eq_some h hunwind hp
  · exact .acked message device t hacks hx hstore hnone
  · exact .quiet (by rw [hstore]) (fun _ => hx) (by simp [hnone])

theorem afterAttempt_receipts (task : DeliveryTask) (bucket : MessageBucket) (now : TimePoint)
    (attempt : DeliveryAttemptResult) :
    (sys.afterAttempt task bucket now attempt).receipts = none := by
  cases attempt with
  | transientFailure =>
    unfold afterAttempt
    dsimp only
    split <;> rfl
  | _ => rfl

theorem next_effect (h : sys.next i pc x w = some (pc', w')) :
    Effect pc x w.store pc' w'.store := by
  cases pc with
  | ackCalled cmd =>
    simp only [next] at h
    split_ifs at h <;> (cases h; exact .of_same rfl rfl rfl)
  | ackLocked | ackSearching =>
    simp only [next] at h
    split at h
    · split at h <;> (cases h; exact .of_same rfl rfl rfl)
    cases h
    exact .of_same rfl rfl rfl
  | ackRecording | workerRecording =>
    simp only [next] at h
    exact .of_ack_call h (fun _ => rfl) rfl rfl
  | ackQueueing | workerMarking =>
    simp only [next] at h
    exact .of_queue_call h (fun _ => rfl) rfl rfl rfl
  | ackPublishing | readCalled | readPublishing | workerPublishing =>
    simp only [next] at h
    split at h <;> (cases h; exact .of_same rfl rfl rfl)
  | readLocking cmd =>
    simp only [next] at h
    split_ifs at h
    cases h
    exact .of_same rfl rfl rfl
  | readLocked cmd =>
    simp only [next] at h
    split at h
    next states _ hstates =>
      split at h
      · cases h
        exact .of_same rfl rfl rfl
      -- the receipt has seen the row, and goes on to write it
      rename_i target htarget
      cases h
      refine .quiet rfl (fun hne => absurd rfl hne) ?_
      rintro message device hreceipts
      cases hreceipts
      obtain ⟨hrow, hopen⟩ := ReadReceiptCommand.check_inr htarget
      rw [find?_fetchDeliveryStates hstates] at hrow
      exact ⟨target, hrow, hopen⟩
    · cases h
      exact .of_same rfl rfl rfl
  | readRecording cmd t =>
    simp only [next] at h
    obtain ⟨hnone, ⟨-, hstore⟩ | ⟨-, hstore⟩⟩ := call_eq_some h (fun _ => rfl) rfl
    · exact .received _ _ t rfl hstore hnone
    · exact .of_same (by rw [hstore]) rfl hnone
  | workerPolling task =>
    simp only [next] at h
    split at h
    · cases h
      exact .of_same rfl rfl rfl
    · split at h <;> (cases h; exact .of_same rfl rfl rfl)
  | workerSending task bucket =>
    cases h
    exact .of_same rfl rfl (afterAttempt_receipts task bucket x.now x.attempt)
  | workerQueueing task bucket state after =>
    simp only [next] at h
    refine .of_queue_call h (fun _ => rfl) rfl rfl ?_
    cases after <;> rfl
  | ackReturned | readReturned | finished | threw => cases h

/-! ## Forward, step by step -/

/-- A receipt between its check and its write: the row is still there and has not expired. -/
def Knows (_ : ι) (pc : DeliveryPc) (w : DeliveryWorld ι) : Prop :=
  ∀ message device, pc.receipts = some (message, device) → w.store.Open message device

/-- The condition on a step: `DELIVERED` is not written over `READ` or `EXPIRED`. -/
def InTime (pc : DeliveryPc) (x : DeliveryInput) (s : Store) : Prop :=
  ∀ message device, pc.acks = some (message, device) → x.outcome.takesEffect = true →
    ∀ r, s.recipientState message device = some r →
      r.deliveryState ≠ .read ∧ r.deliveryState ≠ .expired

theorem Effect.open_stable {s s' : Store} (h : Effect pc x s pc' s')
    {device : DeviceId} (hopen : s.Open message device) : s'.Open message device := by
  cases h with
  | acked _ _ _ _ _ hs | received _ _ _ _ hs =>
    rw [hs]
    exact hopen.update fun _ => by simp
  | quiet hs => exact hopen.congr hs

theorem Effect.own (h : Effect pc x w.store pc' w'.store) : Knows i pc' w' := by
  intro message device hreceipts
  cases h with
  | acked _ _ _ _ _ _ hpc' | received _ _ _ _ _ hpc' =>
    rw [hpc'] at hreceipts
    cases hreceipts
  | quiet hs _ hpc' => exact (hpc' message device hreceipts).congr hs

variable {k : MessageId × DeviceId}

theorem acks_of_receipts (h : pc.receipts = some k) : pc.acks = none := by
  cases pc with
  | readRecording => rfl
  | _ => cases h

/-- **A step moves no state back exactly when it meets the condition.** -/
theorem Effect.forward_iff (h : Effect pc x w.store pc' w'.store) (hi : Knows i pc w) :
    w.store.Forward w'.store ↔ InTime pc x w.store := by
  cases h with
  | acked message device t hpc hx hs =>
    rw [hs, forward_recordDeliveryAck_iff]
    constructor
    · intro hrow message' device' hacks _
      obtain ⟨rfl, rfl⟩ := Prod.mk.inj (Option.some.inj (hpc.symm.trans hacks))
      exact hrow
    · intro hintime
      exact hintime message device hpc hx
  | received message device t hpc hs =>
    -- the check of the receipt still stands, so its write is a step forward
    obtain ⟨r, hr, hopen⟩ := hi message device hpc
    have hforward : w.store.Forward w'.store := by
      rw [hs, forward_recordReadAck_iff]
      intro r' hr'
      obtain rfl := Option.some.inj (hr.symm.trans hr')
      exact hopen
    refine ⟨fun _ message' device' hacks => ?_, fun _ => hforward⟩
    rw [acks_of_receipts hpc] at hacks
    cases hacks
  | quiet hs hpc =>
    refine ⟨fun _ message device hacks hx => ?_, fun _ => .of_same hs⟩
    rw [hpc (by simp [hacks])] at hx
    cases hx

/-! ## Forward, in every run -/

section
variable [DecidableEq ι] {c d : Config ι DeliveryPc (DeliveryWorld ι)}
  {ms : List (ι × DeliveryInput)}

def Fresh (c : Config ι DeliveryPc (DeliveryWorld ι)) : Prop :=
  ∀ i, (∃ cmd, c.proc i = .ackCalled cmd) ∨ (∃ cmd, c.proc i = .readCalled cmd) ∨
    ∃ task, c.proc i = .workerPolling task

theorem Fresh.knows (h : Fresh c) (hrun : run sys.next c ms = some d) :
    ∀ i, Knows i (d.proc i) d.shared := by
  refine (run_induction (I := Annotated (fun _ => True) Knows)
    (A := fun _ _ => True) ?_ ?_ (fun _ _ => trivial) hrun).2
  · rintro e ⟨j, x⟩ e' - he hmove
    apply move_annotated _ _ hmove
    · intro p' w' hnext
      exact ⟨trivial, (next_effect hnext).own⟩
    intro k p' w' _ hnext message device hreceipts
    exact (next_effect hnext).open_stable (he.2 k message device hreceipts)
  refine ⟨trivial, fun j message device hreceipts => ?_⟩
  rcases h j with ⟨cmd, hj⟩ | ⟨cmd, hj⟩ | ⟨task, hj⟩
  all_goals
    rw [hj] at hreceipts
    cases hreceipts

theorem exists_move_of_acks
    (h : (d.proc i).acks = some k) : ∃ d', move sys.next d (i, x) = some d' := by
  unfold move
  cases hpc : d.proc i with
  | ackRecording | workerRecording =>
    simp only [next, call]
    split <;> exact ⟨_, rfl⟩
  | _ =>
    rw [hpc] at h
    cases h

variable (sys) in
/-- **The delivery states move forward exactly as long as every acknowledgement is in time.** In every
interleaving of acknowledgements, read receipts and worker attempts, no step moves a state back IF AND
ONLY IF none writes `DELIVERED` over `READ` or `EXPIRED`. -/
theorem delivery_states_forward_iff (h : Fresh c) (ms : List (ι × DeliveryInput)) :
    (∀ pre i x post d d', ms = pre ++ (i, x) :: post → run sys.next c pre = some d →
      move sys.next d (i, x) = some d' → d.shared.store.Forward d'.shared.store) ↔
    ∀ pre i x post d, ms = pre ++ (i, x) :: post → run sys.next c pre = some d →
      InTime (d.proc i) x d.shared.store := by
  constructor
  · intro hforward pre i x post d hms hrun message device hacks
    obtain ⟨d', hmove⟩ := exists_move_of_acks (x := x) hacks
    have hstep := hforward pre i x post d d' hms hrun hmove
    obtain ⟨p', w', hnext, rfl⟩ := move_eq_some hmove
    exact ((next_effect hnext).forward_iff (h.knows hrun i)).mp hstep message device hacks
  intro hintime pre i x post d d' hms hrun hmove
  have hcond := hintime pre i x post d hms hrun
  obtain ⟨p', w', hnext, rfl⟩ := move_eq_some hmove
  exact ((next_effect hnext).forward_iff (h.knows hrun i)).mpr hcond

end

end DeliverySystem

/-! ## A read message becomes delivered again -/

namespace DeliverySample

open DeliverySystem

def system : DeliverySystem := ⟨fun _ => 0, 5⟩

def row : RecipientDeliveryState where
  messageId := ⟨9⟩
  recipientDeviceId := "laptop"
  recipientUserId := "ann"
  deliveryState := .queued

def task : DeliveryTask := ⟨⟨9⟩, ⟨7⟩, "laptop", "ann", 0, Sample.january, none⟩
def receipt : ReadReceiptCommand := ⟨⟨9⟩, ⟨7⟩, "ann", "laptop", "laptop", 0⟩

def start : Config Nat DeliveryPc (DeliveryWorld Nat) where
  proc := fun i => if i = 0 then .workerPolling task else .readCalled receipt
  shared := ⟨{ Store.empty with deliveryStates := [row] }, fun _ => none, fun _ => none⟩

theorem start_fresh : Fresh start := by
  intro i
  by_cases hi : i = 0
  · exact .inr (.inr ⟨task, by simp [start, hi]⟩)
  · exact .inr (.inl ⟨receipt, by simp [start, hi]⟩)

def input : DeliveryInput := { now := Sample.january }

def overtaken : List (Nat × DeliveryInput) :=
  [(0, input), (0, input), (0, input), (1, input), (1, input), (1, input), (1, input)]

/-- **The worker's record takes the message from `READ` back to `DELIVERED`.** -/
theorem worker_unreads_message : Fresh start ∧ (run system.next start overtaken).bind (fun d =>
      (d.shared.store.recipientState ⟨9⟩ "laptop").map (·.deliveryState)) = some .read ∧
    (run system.next start (overtaken ++ [(0, input)])).bind (fun d =>
      (d.shared.store.recipientState ⟨9⟩ "laptop").map (·.deliveryState)) = some .delivered :=
  ⟨start_fresh, by decide, by decide⟩

/-- Without the receipt the worker's record is in time, and moves nothing back. -/
theorem delivery_states_forward_one_attempt : Fresh start ∧ ∀ pre i x post d d',
      [(0, input), (0, input), (0, input), (0, input)] = pre ++ (i, x) :: post →
      run system.next start pre = some d →
      move system.next d (i, x) = some d' →
      d.shared.store.Forward d'.shared.store := by
  refine ⟨start_fresh, (delivery_states_forward_iff system start_fresh _).mpr ?_⟩
  refine forall_split_cons (fun _ _ h => nomatch h) rfl (forall_split_cons (fun _ _ h => nomatch h) rfl
    (forall_split_cons (fun _ _ h => nomatch h) rfl (forall_split_cons ?_ rfl (by simp))))
  rintro _ _ hacks - r hr
  cases hacks
  cases hr
  decide

end DeliverySample

end SecureCloud.Messaging
