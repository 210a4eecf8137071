import SecureCloud.Lib.Calendar

/-
# Messaging.Domain — the messaging value objects

Identifiers, monthly buckets, submission commands and the four kinds of row a submission leaves behind,
with the words and fields of `src/messaging/domain`. Time points are milliseconds. Identifiers of 16 bytes
are 128-bit numbers, with `0` the nil identifier; the others are strings.
-/

namespace SecureCloud.Messaging

/-! ## Identifiers and clocks -/

/-- Milliseconds since 1970-01-01T00:00:00Z. -/
abbrev TimePoint := Int

abbrev UserId := String
abbrev DeviceId := String

abbrev Bytes := List UInt8

/-- `is_valid_format`: the 8-4-4-4-12 hexadecimal layout of a UUID. -/
def UserId.isValidFormat (id : UserId) : Bool :=
  let cs := id.toList
  cs.length == 36 && (cs.zipIdx.all fun (c, i) =>
      if i = 8 ∨ i = 13 ∨ i = 18 ∨ i = 23 then c == '-'
      else ('0' ≤ c && c ≤ '9') || ('a' ≤ c && c ≤ 'f') || ('A' ≤ c && c ≤ 'F'))

/-- The canonical text of a 16-byte identifier. -/
def uuidText (bits : Nat) : String :=
  let digits := (List.range 32).map fun i => Nat.digitChar (bits / 16 ^ (31 - i) % 16)
  let slice := fun a n => String.ofList ((digits.drop a).take n)
  slice 0 8 ++ "-" ++ slice 8 4 ++ "-" ++ slice 12 4 ++ "-" ++ slice 16 4 ++ "-" ++ slice 20 12

structure ConversationId where
  bits : Nat
deriving DecidableEq

structure MessageId where
  bits : Nat
deriving DecidableEq

def ConversationId.isNil (c : ConversationId) : Bool := c.bits == 0
def ConversationId.toString (c : ConversationId) : String := uuidText c.bits
def MessageId.toString (m : MessageId) : String := uuidText m.bits

/-! ## Monthly buckets (`message_bucket.cpp`)

A bucket cannot be built outside 1970-01 … 9999-12: `fromYearMonth` is the only constructor the
source uses, and it throws there. -/

structure MessageBucket where
  year : Nat
  month : Nat
  year_mem : 1970 ≤ year ∧ year ≤ 9999
  month_mem : 1 ≤ month ∧ month ≤ 12
deriving DecidableEq

/-- `from_year_month`; `none` is the thrown `std::invalid_argument`. -/
def MessageBucket.fromYearMonth (year month : Nat) : Option MessageBucket :=
  if hy : 1970 ≤ year ∧ year ≤ 9999 then
    if hm : 1 ≤ month ∧ month ≤ 12 then some ⟨year, month, hy, hm⟩ else none
  else none

/-- `from_time_point`: the UTC month of a time point. `to_time_t` drops the fraction of a second. -/
def MessageBucket.fromTimePoint (tp : TimePoint) : Option MessageBucket :=
  let date := Lib.Calendar.civilFromDays ((tp.tdiv 1000).fdiv 86400)
  if date.year < 0 then none else fromYearMonth date.year.toNat date.month.toNat

variable (b : MessageBucket)

/-- `previous_bucket`: January goes back to December of the year before. -/
def MessageBucket.previousBucket : Option MessageBucket :=
  if b.month - 1 < 1 then fromYearMonth (b.year - 1) 12 else fromYearMonth b.year (b.month - 1)

def MessageBucket.value : String :=
  let digit := fun n => Nat.digitChar (n % 10)
  String.ofList [digit (b.year / 1000), digit (b.year / 100), digit (b.year / 10), digit b.year,
    digit (b.month / 10), digit b.month]

theorem MessageBucket.fromYearMonth_self : MessageBucket.fromYearMonth b.year b.month = some b := by
  simp [fromYearMonth, b.year_mem, b.month_mem]

theorem MessageBucket.fromYearMonth_eq_some {y m : Nat} {b : MessageBucket} :
    MessageBucket.fromYearMonth y m = some b ↔ b.year = y ∧ b.month = m := by
  constructor
  · intro h
    unfold fromYearMonth at h
    split at h
    · split at h
      · cases h
        exact ⟨rfl, rfl⟩
      · simp at h
    · simp at h
  · rintro ⟨rfl, rfl⟩
    exact fromYearMonth_self b

example : (MessageBucket.fromTimePoint 1767225599999).map (·.value) = some "202512" := by decide
example : (MessageBucket.fromTimePoint 1767225600000).map (·.value) = some "202601" := by decide

/-! ## Enumerations -/

inductive MessagePriority
  | normal
  | urgent
  | emergency
deriving DecidableEq

def MessagePriority.toString : MessagePriority → String
  | normal => "NORMAL"
  | urgent => "URGENT"
  | emergency => "EMERGENCY"

/-- `DeliveryState`; the source's `Pending` is an alias of `queued`. -/
inductive DeliveryState
  | queued
  | delivering
  | delivered
  | read
  | retryWait
  | expired
deriving DecidableEq

inductive E2EAlgorithm
  | unspecified
  | xChaCha20Poly1305
  | aes256Gcm
deriving DecidableEq

def E2EAlgorithm.fromString (s : String) : Option E2EAlgorithm :=
  if s = "XChaCha20-Poly1305" ∨ s = "xchacha20-poly1305" ∨ s = "XCHACHA20_POLY1305" then
    some xChaCha20Poly1305
  else if s = "AES-256-GCM" ∨ s = "aes-256-gcm" ∨ s = "AES_256_GCM" then some aes256Gcm
  else none

inductive SubmissionStatus
  | processing
  | committed
  | failed
deriving DecidableEq

/-- The wire codes of `v1::MessagingErrorCode`. -/
inductive MessagingErrorCode
  | unspecified
  | conversationNotFound
  | notAParticipant
  | deviceRevoked
  | idempotencyConflict
  | payloadTooLarge
  | queueCapacityExceeded
  | cursorOutOfBounds
  | invalidTargetDevice
  | messageExpired
deriving DecidableEq

inductive ServiceResult (α : Type)
  | ok (value : α)
  | fail (code : MessagingErrorCode) (message : String)

/-! ## Commands and rows -/

/-- One recipient device of a submission, with the envelope encrypted FOR THAT DEVICE. -/
structure DeviceDeliveryTarget where
  recipientUserId : UserId
  recipientDeviceId : DeviceId
  ciphertextBlob : Bytes
  ephemeralPublicKey : Bytes
  iv : Bytes
  authTag : Bytes
  algorithm : String := "XChaCha20-Poly1305"
  protocolVersion : Int := 1
  oneTimePrekeyId : Option String := none
deriving DecidableEq

structure MessageSubmissionCommand where
  callerUserId : UserId
  senderDeviceId : DeviceId
  conversationId : ConversationId
  clientIdempotencyToken : String
  priority : MessagePriority := .normal
  expiresAt : Option TimePoint := none
  protocolVersion : Int := 1
  deliveryTargets : List DeviceDeliveryTarget
deriving DecidableEq

/-- Row of `message_submission_by_idempotency_key`. -/
structure IdempotencyRecord where
  senderDeviceId : DeviceId
  idempotencyKey : String
  messageId : MessageId
  conversationId : ConversationId
  messageSequence : Nat
  submissionStatus : SubmissionStatus
  createdAt : TimePoint
  requestFingerprint : String
deriving DecidableEq

/-- Row of `messages_by_conversation`. `ciphertext` is `envelope.ciphertext`. -/
structure MessageEntity where
  conversationId : ConversationId
  messageBucket : MessageBucket
  messageSequence : Nat
  messageId : MessageId
  senderUserId : UserId
  senderDeviceId : DeviceId
  priority : MessagePriority
  acceptedAt : TimePoint
  ciphertext : Bytes
  envelopeVersion : Int
deriving DecidableEq

/-- Row of `pending_deliveries_by_device`. -/
structure DeviceDeliveryRecord where
  deviceId : DeviceId
  deliveryBucket : String
  acceptedAt : TimePoint
  messageId : MessageId
  conversationId : ConversationId
  messageSequence : Nat
  messagePriority : MessagePriority
  deliveryState : DeliveryState
  attemptCount : Nat
  ciphertextBlob : Bytes
  ephemeralPublicKey : Bytes
  iv : Bytes
  authTag : Bytes
  algorithm : E2EAlgorithm
  protocolVersion : Int
  oneTimePrekeyId : Option String
deriving DecidableEq

/-- Row of `delivery_state_by_message`. -/
structure RecipientDeliveryState where
  messageId : MessageId
  recipientDeviceId : DeviceId
  recipientUserId : UserId
  deliveryState : DeliveryState
  deliveredAt : Option TimePoint := none
  readAt : Option TimePoint := none
deriving DecidableEq

/-- The `MessageSent` row of the outbox. -/
structure ConversationOutboxEvent where
  eventId : String
  conversationId : ConversationId
  payloadJson : String
  createdAt : TimePoint

end SecureCloud.Messaging
