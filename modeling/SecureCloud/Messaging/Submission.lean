import SecureCloud.Lib.Interleaving
import SecureCloud.Messaging.Validation

/-
# Messaging.Submission — `submit_message` as a process over the keyspace

`MessageSubmissionService::submit_message` makes a dozen storage calls, each of which can fail. A call is ONE
MOVE of a process: the program counter says which comes next, the environment how it ends. Processes run at
the same time on one service instance; they share the keyspace, the counters and the stripe mutexes.

A failed write may have reached the store (`failed`, `timedOut`). `World.log` is a ghost: which identifier was
minted for which command, which rows were written on whose behalf, and which replies were sent.
-/

namespace SecureCloud.Messaging

/-! ## The idempotency guard -/

inductive IdempotencyAction
  | proceedNew
  | returnCached (record : IdempotencyRecord)
  | rejectConflict (message : String)
  | retryWait

def MessageSubmissionCommand.key (cmd : MessageSubmissionCommand) : SubmissionKey :=
  (cmd.senderDeviceId, cmd.clientIdempotencyToken)

/-- `evaluate_submission`, on the record `find_submission` returned. -/
def evaluateSubmission (found : Option IdempotencyRecord) (cmd : MessageSubmissionCommand)
    (fingerprint : String) : IdempotencyAction :=
  match found with
  | none => .proceedNew
  | some record =>
    if record.conversationId ≠ cmd.conversationId then
      .rejectConflict ("Idempotency token was previously used for a different conversation: " ++
        record.conversationId.toString)
    else if record.requestFingerprint ≠ "" ∧ record.requestFingerprint ≠ fingerprint then
      .rejectConflict "Idempotency token was previously used with different payload content"
    else
      match record.submissionStatus with
      | .committed => .returnCached record
      | .processing => .retryWait
      | .failed => .proceedNew

structure Attempt where
  cmd : MessageSubmissionCommand
  fingerprint : String
  messageId : MessageId
  acceptedAt : TimePoint
deriving DecidableEq

variable (a : Attempt)

def Attempt.key : SubmissionKey := a.cmd.key

def Attempt.processingRecord (now : TimePoint) : IdempotencyRecord where
  senderDeviceId := a.cmd.senderDeviceId
  idempotencyKey := a.cmd.clientIdempotencyToken
  messageId := a.messageId
  conversationId := a.cmd.conversationId
  messageSequence := 0
  submissionStatus := .processing
  createdAt := now
  requestFingerprint := a.fingerprint

def Attempt.committedRecord (sequence : Nat) : IdempotencyRecord where
  senderDeviceId := a.cmd.senderDeviceId
  idempotencyKey := a.cmd.clientIdempotencyToken
  messageId := a.messageId
  conversationId := a.cmd.conversationId
  messageSequence := sequence
  submissionStatus := .committed
  createdAt := a.acceptedAt
  requestFingerprint := a.fingerprint

/-! ## The rows of one attempt -/

/-- The row of step 8. Its envelope carries the FRONT target's ciphertext; an empty target list
never gets here, the validator refuses it. -/
def Attempt.messageEntity (bucket : MessageBucket) (sequence : Nat) : MessageEntity where
  conversationId := a.cmd.conversationId
  messageBucket := bucket
  messageSequence := sequence
  messageId := a.messageId
  senderUserId := a.cmd.callerUserId
  senderDeviceId := a.cmd.senderDeviceId
  priority := a.cmd.priority
  acceptedAt := a.acceptedAt
  ciphertext := (a.cmd.deliveryTargets.head?.map (·.ciphertextBlob)).getD []
  envelopeVersion := a.cmd.protocolVersion

/-- The pending delivery of step 9 for one target. -/
def Attempt.pendingRecord (bucket : MessageBucket) (sequence : Nat)
    (t : DeviceDeliveryTarget) : DeviceDeliveryRecord where
  deviceId := t.recipientDeviceId
  deliveryBucket := bucket.value
  acceptedAt := a.acceptedAt
  messageId := a.messageId
  conversationId := a.cmd.conversationId
  messageSequence := sequence
  messagePriority := a.cmd.priority
  deliveryState := .queued
  attemptCount := 0
  ciphertextBlob := t.ciphertextBlob
  ephemeralPublicKey := t.ephemeralPublicKey
  iv := t.iv
  authTag := t.authTag
  algorithm := (E2EAlgorithm.fromString t.algorithm).getD .xChaCha20Poly1305
  protocolVersion := t.protocolVersion
  oneTimePrekeyId := t.oneTimePrekeyId

/-- The fan-out state of step 9 for one target. -/
def Attempt.recipientState (t : DeviceDeliveryTarget) : RecipientDeliveryState where
  messageId := a.messageId
  recipientDeviceId := t.recipientDeviceId
  recipientUserId := t.recipientUserId
  deliveryState := .queued

/-- The outbox event of step 10. -/
def Attempt.outboxEvent (sequence : Nat) (eventId : String) : ConversationOutboxEvent where
  eventId := eventId
  conversationId := a.cmd.conversationId
  payloadJson := "\x7b\"message_id\":\"" ++ a.messageId.toString ++ "\",\"sequence\":" ++
    toString sequence ++ ",\"sender_user_id\":\"" ++ a.cmd.callerUserId ++
    "\",\"sender_device_id\":\"" ++ a.cmd.senderDeviceId ++ "\",\"recipient_device_count\":" ++
    toString a.cmd.deliveryTargets.length ++ "\x7d"
  createdAt := a.acceptedAt

/-! ## Replies -/

structure MessageSubmissionResponse where
  messageId : MessageId
  conversationId : ConversationId
  messageSequence : Nat
  acceptedAt : TimePoint
  isReplay : Bool

/-- `ServiceResult<MessageSubmissionResponse>`, or the exception that left `submit_message`. -/
inductive SubmissionResult
  | ok (response : MessageSubmissionResponse)
  | fail (code : MessagingErrorCode) (message : String)
  | thrown

def cachedResponse (r : IdempotencyRecord) : MessageSubmissionResponse where
  messageId := r.messageId
  conversationId := r.conversationId
  messageSequence := r.messageSequence
  acceptedAt := r.createdAt
  isReplay := true

def Attempt.response (sequence : Nat) : MessageSubmissionResponse where
  messageId := a.messageId
  conversationId := a.cmd.conversationId
  messageSequence := sequence
  acceptedAt := a.acceptedAt
  isReplay := false

/-! ## The process -/

/-- How a storage call ends: it returns, or it throws with a text. A call that timed out has
reached the store all the same. -/
inductive CallOutcome
  | ok
  | failed (what : String)
  | timedOut (what : String)
deriving DecidableEq

def CallOutcome.takesEffect : CallOutcome → Bool
  | ok => true
  | failed _ => false
  | timedOut _ => true

def CallOutcome.thrown : CallOutcome → Option String
  | ok => none
  | failed what => some what
  | timedOut what => some what

inductive SubmissionEvent
  | minted (messageId : MessageId) (cmd : MessageSubmissionCommand)
  | rowPersisted (key : SubmissionKey) (row : MessageEntity)
  | replied (key : SubmissionKey) (result : SubmissionResult)

/-- What the processes share. `stripes k` is the process that holds stripe mutex `k`. -/
structure World where
  store : Store
  counters : Counters
  stripes : Nat → Option Nat
  log : List SubmissionEvent

def World.init : World where
  store := Store.empty
  counters := fun _ => none
  stripes := fun _ => none
  log := []

def World.issued (w : World) (m : MessageId) : Bool :=
  w.log.any fun e =>
    match e with
    | .minted m' _ => m' = m
    | _ => false

/-- The program counter of `submit_message`: the call that comes next, with the locals it needs. -/
inductive Pc
  | idle
  | locking (cmd : MessageSubmissionCommand)
  | evaluating (cmd : MessageSubmissionCommand) (fingerprint : String) (retry : Nat)
  | claiming (a : Attempt)
  | allocating (a : Attempt)
  | saving (a : Attempt) (bucket : MessageBucket) (sequence : Nat)
  | queueing (a : Attempt) (bucket : MessageBucket) (sequence : Nat)
      (targets : List DeviceDeliveryTarget)
  | tracking (a : Attempt) (sequence : Nat) (targets : List DeviceDeliveryTarget)
  | enqueueing (a : Attempt) (sequence : Nat)
  | committing (a : Attempt) (sequence : Nat)
  | failing (a : Attempt) (what : String)
  | recordingFailure (a : Attempt) (record : IdempotencyRecord) (what : String)
deriving DecidableEq

/-- What the environment contributes to a move: a client's call, with the verdicts of the authorization
service and of the envelope validator (`none` admits), or how the call in progress ends, the clock, and
the identifiers `generate_v7` would return. -/
inductive Input
  | submit (cmd : MessageSubmissionCommand) (now : TimePoint)
      (auth envelope : Option (MessagingErrorCode × String))
  | resume (outcome : CallOutcome) (now : TimePoint) (freshId : MessageId) (eventId : String)

/-- What `submit_message` uses from outside `src/messaging`: SHA-256, the hash that picks a stripe,
and the redaction of error texts. -/
structure SubmissionEnv where
  sha256Hex : Bytes → String
  stripeOf : String → Nat
  sanitizeErrorMessage : String → String

namespace SubmissionEnv

variable (env : SubmissionEnv)

def stripe (key : SubmissionKey) : Nat := env.stripeOf (key.1 ++ ":" ++ key.2)

/-- Leave `submit_message`: the `lock_guard` releases the stripe, the caller gets `result`. -/
def finish (w : World) (key : SubmissionKey) (result : SubmissionResult) : Pc × World :=
  (.idle, { w with
    stripes := Function.update w.stripes (env.stripe key) none
    log := .replied key result :: w.log })

/-- Steps 1, 2 and 2b, before the stripe is taken. -/
def accept (w : World) (cmd : MessageSubmissionCommand) (now : TimePoint)
    (auth envelope : Option (MessagingErrorCode × String)) : Pc × World :=
  let refuse := fun code message =>
    (Pc.idle, { w with
      log := .replied cmd.key (.fail code (env.sanitizeErrorMessage message)) :: w.log })
  match validateSubmission now cmd with
  | some e => refuse e.errorCode e.errorMessage
  | none =>
    match auth with
    | some (code, reason) => refuse code reason
    | none =>
      match envelope with
      | some (code, message) => refuse code message
      | none => (.locking cmd, w)

/-- Step 4 on a record that was read, and step 5 when the submission goes ahead. `generate_v7`
never returns an identifier twice; a repeated one is not a possible input. -/
def evaluate (w : World) (cmd : MessageSubmissionCommand) (fingerprint : String) (retry : Nat)
    (now : TimePoint) (freshId : MessageId) : Option (Pc × World) :=
  match evaluateSubmission (w.store.findSubmission cmd.senderDeviceId cmd.clientIdempotencyToken)
      cmd fingerprint with
  | .returnCached record => some (env.finish w cmd.key (.ok (cachedResponse record)))
  | .rejectConflict message =>
    some (env.finish w cmd.key (.fail .idempotencyConflict (env.sanitizeErrorMessage message)))
  | .retryWait =>
    if retry < 20 then some (.evaluating cmd fingerprint (retry + 1), w)
    else some (env.finish w cmd.key (.fail .queueCapacityExceeded
      "A submission with this idempotency key is currently being processed. Please retry."))
  | .proceedNew =>
    if w.issued freshId then none
    else some (.claiming ⟨cmd, fingerprint, freshId, now⟩,
      { w with log := .minted freshId cmd :: w.log })

/-- A write inside the `try` block: it reaches the store unless it `failed`, and anything but `ok`
sends control to the `catch` block. -/
def write (outcome : CallOutcome) (a : Attempt) (w w' : World) (next : Pc) : Pc × World :=
  (match outcome.thrown with
    | none => next
    | some what => .failing a what,
   if outcome.takesEffect then w' else w)

def persistenceFailed (what : String) : SubmissionResult :=
  .fail .unspecified (env.sanitizeErrorMessage ("Message persistence failed: " ++ what))

/-- One move of `submit_message` by process `i`. `none`: the process cannot move. -/
def next (i : Nat) (pc : Pc) (input : Input) (w : World) : Option (Pc × World) :=
  match pc, input with
  | .idle, .submit cmd now auth envelope => some (env.accept w cmd now auth envelope)
  | .idle, .resume .. => none
  | _, .submit .. => none
  | .locking cmd, .resume .. =>
    -- `std::lock_guard` on the stripe of the key
    if (w.stripes (env.stripe cmd.key)).isSome then none
    else some (.evaluating cmd (calculateSubmissionFingerprint env.sha256Hex cmd) 0,
      { w with stripes := Function.update w.stripes (env.stripe cmd.key) (some i) })
  | .evaluating cmd fingerprint retry, .resume outcome now freshId _ =>
    match outcome.thrown with
    | none => env.evaluate w cmd fingerprint retry now freshId
    | some _ => some (env.finish w cmd.key .thrown)
  | .claiming a, .resume outcome now _ _ =>
    -- step 6 stands before the `try` block: its exception leaves `submit_message`
    let w' := if outcome.takesEffect then
      { w with store := w.store.saveSubmission (a.processingRecord now) } else w
    match outcome.thrown with
    | none => some (.allocating a, w')
    | some _ => some (env.finish w' a.key .thrown)
  | .allocating a, .resume outcome _ _ _ =>
    match MessageBucket.fromTimePoint a.acceptedAt with
    | none => some (.failing a "MessageBucket year must be between 1970 and 9999", w)
    | some bucket =>
      let (sequence, counters) := w.counters.allocateSequence w.store a.cmd.conversationId bucket
      -- the repository is asked only when the counter is not cached
      match w.counters (a.cmd.conversationId, bucket), outcome.thrown with
      | none, some what => some (.failing a what, w)
      | _, _ => some (.saving a bucket sequence, { w with counters := counters })
  | .saving a bucket sequence, .resume outcome _ _ _ =>
    let row := a.messageEntity bucket sequence
    some (write outcome a w
      { w with store := w.store.saveMessage row, log := .rowPersisted a.key row :: w.log }
      (.queueing a bucket sequence a.cmd.deliveryTargets))
  | .queueing a _ sequence [], .resume .. =>
    some (.tracking a sequence a.cmd.deliveryTargets, w)
  | .queueing a bucket sequence (t :: rest), .resume outcome _ _ _ =>
    some (write outcome a w
      { w with store := w.store.insertPending (a.pendingRecord bucket sequence t) }
      (.queueing a bucket sequence rest))
  | .tracking a sequence [], .resume .. => some (.enqueueing a sequence, w)
  | .tracking a sequence (t :: rest), .resume outcome _ _ _ =>
    some (write outcome a w { w with store := w.store.insertRecipientState (a.recipientState t) }
      (.tracking a sequence rest))
  | .enqueueing a sequence, .resume outcome _ _ eventId =>
    some (write outcome a w
      { w with store := w.store.enqueueEvent (a.outboxEvent sequence eventId) }
      (.committing a sequence))
  | .committing a sequence, .resume outcome _ _ _ =>
    let w' := if outcome.takesEffect then
      { w with store := w.store.saveSubmission (a.committedRecord sequence) } else w
    match outcome.thrown with
    | none => some (env.finish w' a.key (.ok (a.response sequence)))
    | some what => some (.failing a what, w')
  | .failing a what, .resume outcome _ _ _ =>
    -- `mark_failed` first reads the record; its own exceptions leave `submit_message`
    match outcome.thrown with
    | some _ => some (env.finish w a.key .thrown)
    | none =>
      match w.store.findSubmission a.cmd.senderDeviceId a.cmd.clientIdempotencyToken with
      | none => some (env.finish w a.key (env.persistenceFailed what))
      | some record => some (.recordingFailure a record what, w)
  | .recordingFailure a record what, .resume outcome _ _ _ =>
    let w' := if outcome.takesEffect then
      { w with store := w.store.saveSubmission { record with submissionStatus := .failed } } else w
    match outcome.thrown with
    | none => some (env.finish w' a.key (env.persistenceFailed what))
    | some _ => some (env.finish w' a.key .thrown)

def start : Lib.Interleaving.Config Nat Pc World where
  proc := fun _ => .idle
  shared := World.init

end SubmissionEnv

/-! ## A concrete instance

Inputs for concrete runs: a sender `phone`, a conversation, and a moment in January 2026. -/

namespace Sample

def env : SubmissionEnv where
  sha256Hex b := toString b.length
  stripeOf _ := 0
  sanitizeErrorMessage s := s

def user : UserId := "0190a1b2-0000-7000-8000-000000000001"

def january : TimePoint := 1767225600000

def target (device : DeviceId) (ciphertext : Bytes) : DeviceDeliveryTarget where
  recipientUserId := user
  recipientDeviceId := device
  ciphertextBlob := ciphertext
  ephemeralPublicKey := [1]
  iv := List.replicate 24 0
  authTag := List.replicate 16 0

def command : MessageSubmissionCommand where
  callerUserId := user
  senderDeviceId := "phone"
  conversationId := ⟨7⟩
  clientIdempotencyToken := "token-1"
  deliveryTargets := [target "laptop" [10], target "tablet" [20]]

def call (i : Nat) : Nat × Input := (i, .submit command january none none)

def ok (i id : Nat) : Nat × Input := (i, .resume .ok january ⟨id⟩ "event")

def down (i : Nat) : Nat × Input := (i, .resume (.failed "no hosts available") january ⟨0⟩ "event")

end Sample

end SecureCloud.Messaging
