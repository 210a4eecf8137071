import SecureCloud.Messaging.Store

/-
# Messaging.Validation — what a submission must look like before anything is stored

`SubmissionValidator::validate` field by field with its field names and texts, and the canonical
fingerprint of a command (`submission_fingerprint.cpp`). SHA-256 is a parameter.
-/

namespace SecureCloud.Messaging

open List

/-! ## `SubmissionValidator::validate` -/

def maxIdempotencyTokenLength : Nat := 128
def maxDeviceIdLength : Nat := 128
def maxDeliveryTargets : Nat := 256
def minAuthTagSize : Nat := 16
def minAesGcmIvSize : Nat := 12
def minXChaChaIvSize : Nat := 24
def maxPayloadSizeBytes : Nat := 16 * 1024 * 1024

def isPrintableAscii (s : String) : Bool :=
  s.toList.all fun c => 32 ≤ c.toNat && c.toNat ≤ 126

/-- `SubmissionValidationResult::invalid`. -/
structure SubmissionInvalid where
  fieldName : String
  errorMessage : String
  errorCode : MessagingErrorCode := .unspecified

def firstFailure : List (Bool × SubmissionInvalid) → Option SubmissionInvalid
  | [] => none
  | (ok, e) :: rest => if ok then firstFailure rest else some e

theorem firstFailure_eq_none {checks : List (Bool × SubmissionInvalid)} :
    firstFailure checks = none ↔ ∀ c ∈ checks, c.1 = true := by
  induction checks with
  | nil => simp [firstFailure]
  | cons c rest ih =>
    obtain ⟨ok, e⟩ := c
    cases ok <;> simp [firstFailure, ih]

def targetChecks (seen : List DeviceId) (t : DeviceDeliveryTarget) :
    List (Bool × SubmissionInvalid) :=
  [ (!t.recipientUserId.isEmpty,
      ⟨"delivery_targets.recipient_user_id", "Recipient user ID cannot be empty", .unspecified⟩),
    (UserId.isValidFormat t.recipientUserId,
      ⟨"delivery_targets.recipient_user_id", "Recipient user ID must be a valid UUID format",
        .unspecified⟩),
    (!t.recipientDeviceId.isEmpty,
      ⟨"delivery_targets.recipient_device_id", "Recipient device ID cannot be empty",
        .unspecified⟩),
    (t.recipientDeviceId.utf8ByteSize ≤ maxDeviceIdLength, ⟨"delivery_targets.recipient_device_id",
        "Recipient device ID exceeds maximum length of 128 characters", .unspecified⟩),
    (isPrintableAscii t.recipientDeviceId, ⟨"delivery_targets.recipient_device_id",
        "Recipient device ID must contain only printable ASCII characters", .unspecified⟩),
    (t.recipientDeviceId ∉ seen, ⟨"delivery_targets",
        "Duplicate delivery target detected for recipient device: " ++ t.recipientDeviceId,
        .unspecified⟩),
    (!t.ciphertextBlob.isEmpty,
      ⟨"delivery_targets.ciphertext_blob", "Ciphertext blob cannot be empty", .unspecified⟩),
    (t.ciphertextBlob.length ≤ maxPayloadSizeBytes, ⟨"delivery_targets.ciphertext_blob",
        "Ciphertext blob exceeds maximum payload size limit of 16MB", .payloadTooLarge⟩),
    (t.algorithm = "XChaCha20-Poly1305" ∨ t.algorithm = "AES-256-GCM",
      ⟨"delivery_targets.algorithm", "Unsupported cryptographic algorithm: " ++ t.algorithm,
        .invalidTargetDevice⟩),
    (minAuthTagSize ≤ t.authTag.length,
      ⟨"delivery_targets.auth_tag", "Authentication tag must be at least 16 bytes",
        .invalidTargetDevice⟩),
    (t.algorithm ≠ "XChaCha20-Poly1305" ∨ minXChaChaIvSize ≤ t.iv.length, ⟨"delivery_targets.iv",
        "Initialization vector (IV) for XChaCha20-Poly1305 must be at least 24 bytes",
        .invalidTargetDevice⟩),
    (t.algorithm ≠ "AES-256-GCM" ∨ minAesGcmIvSize ≤ t.iv.length,
      ⟨"delivery_targets.iv", "Initialization vector (IV) for AES-256-GCM must be at least 12 bytes",
        .invalidTargetDevice⟩),
    (!t.ephemeralPublicKey.isEmpty,
      ⟨"delivery_targets.ephemeral_public_key", "Ephemeral public key cannot be empty",
        .invalidTargetDevice⟩) ]

/-- The loop over the targets; `seen` is `seen_device_ids`. -/
def targetsInvalid (seen : List DeviceId) : List DeviceDeliveryTarget → Option SubmissionInvalid
  | [] => none
  | t :: rest =>
    match firstFailure (targetChecks seen t) with
    | some e => some e
    | none => targetsInvalid (t.recipientDeviceId :: seen) rest

def commandChecks (now : TimePoint) (cmd : MessageSubmissionCommand) :
    List (Bool × SubmissionInvalid) :=
  [ (!cmd.callerUserId.isEmpty, ⟨"caller_user_id", "Caller user ID cannot be empty", .unspecified⟩),
    (UserId.isValidFormat cmd.callerUserId,
      ⟨"caller_user_id", "Caller user ID must be a valid UUID format", .unspecified⟩),
    (!cmd.senderDeviceId.isEmpty,
      ⟨"sender_device_id", "Sender device ID cannot be empty", .unspecified⟩),
    (cmd.senderDeviceId.utf8ByteSize ≤ maxDeviceIdLength,
      ⟨"sender_device_id", "Sender device ID exceeds maximum length of 128 characters",
        .unspecified⟩),
    (isPrintableAscii cmd.senderDeviceId,
      ⟨"sender_device_id", "Sender device ID must contain only printable ASCII characters",
        .unspecified⟩),
    (!cmd.conversationId.isNil,
      ⟨"conversation_id", "Conversation ID must be a non-nil valid UUIDv7", .unspecified⟩),
    (!cmd.clientIdempotencyToken.isEmpty,
      ⟨"client_idempotency_token", "Client idempotency token cannot be empty", .unspecified⟩),
    (cmd.clientIdempotencyToken.utf8ByteSize ≤ maxIdempotencyTokenLength,
      ⟨"client_idempotency_token",
        "Client idempotency token exceeds maximum length of 128 characters", .unspecified⟩),
    (isPrintableAscii cmd.clientIdempotencyToken, ⟨"client_idempotency_token",
        "Client idempotency token must contain only printable ASCII characters", .unspecified⟩),
    (∀ e ∈ cmd.expiresAt, now < e,
      ⟨"expires_at", "Message expiration timestamp must be in the future", .messageExpired⟩),
    (!cmd.deliveryTargets.isEmpty,
      ⟨"delivery_targets", "At least one delivery target must be provided", .unspecified⟩),
    (cmd.deliveryTargets.length ≤ maxDeliveryTargets,
      ⟨"delivery_targets", "Delivery targets exceed maximum limit of 256", .unspecified⟩) ]

/-- `validate`; `none` is `ok()`. -/
def validateSubmission (now : TimePoint) (cmd : MessageSubmissionCommand) :
    Option SubmissionInvalid :=
  match firstFailure (commandChecks now cmd) with
  | some e => some e
  | none => targetsInvalid [] cmd.deliveryTargets

/-! ### What an accepted command guarantees -/

theorem targetsInvalid_eq_none {seen : List DeviceId} {ts : List DeviceDeliveryTarget}
    (h : targetsInvalid seen ts = none) :
    (∀ t ∈ ts, t.recipientDeviceId ∉ seen ∧ t.ciphertextBlob ≠ []) ∧
      (ts.map (·.recipientDeviceId)).Nodup := by
  induction ts generalizing seen with
  | nil => simp
  | cons t rest ih =>
    unfold targetsInvalid at h
    split at h
    · simp at h
    rename_i hok
    rw [firstFailure_eq_none] at hok
    simp only [targetChecks, forall_mem_cons, decide_eq_true_eq, Bool.not_eq_true',
      isEmpty_eq_false_iff] at hok
    obtain ⟨-, -, -, -, -, hseen, hblob, -⟩ := hok
    obtain ⟨hrest, hnodup⟩ := ih h
    refine ⟨?_, ?_⟩
    · intro u hu
      rcases mem_cons.mp hu with rfl | hu
      · exact ⟨hseen, hblob⟩
      obtain ⟨hu₁, hu₂⟩ := hrest u hu
      exact ⟨fun hmem => hu₁ (mem_cons_of_mem _ hmem), hu₂⟩
    rw [map_cons, nodup_cons]
    refine ⟨?_, hnodup⟩
    rintro hmem
    obtain ⟨u, hu, heq⟩ := mem_map.mp hmem
    exact (hrest u hu).1 (by simp [heq])

/-- An accepted command names at least one target, never the same device twice, and no
target without a ciphertext. -/
theorem validateSubmission_eq_none {now : TimePoint} {cmd : MessageSubmissionCommand}
    (h : validateSubmission now cmd = none) :
    cmd.deliveryTargets ≠ [] ∧ (cmd.deliveryTargets.map (·.recipientDeviceId)).Nodup ∧
      ∀ t ∈ cmd.deliveryTargets, t.ciphertextBlob ≠ [] := by
  unfold validateSubmission at h
  split at h
  · simp at h
  rename_i hok
  rw [firstFailure_eq_none] at hok
  simp only [commandChecks, forall_mem_cons, Bool.not_eq_true',
    isEmpty_eq_false_iff] at hok
  obtain ⟨-, -, -, -, -, -, -, -, -, -, hne, -⟩ := hok
  obtain ⟨hts, hnodup⟩ := targetsInvalid_eq_none h
  exact ⟨hne, hnodup, fun t ht => (hts t ht).2⟩

/-! ## `calculate_submission_fingerprint` -/

def targetLe (a b : DeviceDeliveryTarget) : Prop :=
  a.recipientDeviceId < b.recipientDeviceId ∨
    (a.recipientDeviceId = b.recipientDeviceId ∧ a.recipientUserId ≤ b.recipientUserId)

instance : DecidableRel targetLe := fun a b => by unfold targetLe; infer_instance

/-- `conversation | device | priority | device:sha256(ciphertext);…`, hashed. -/
def calculateSubmissionFingerprint (sha256Hex : Bytes → String)
    (cmd : MessageSubmissionCommand) : String :=
  let targets := cmd.deliveryTargets.insertionSort targetLe
  let repr := String.intercalate ";" <|
    targets.map fun t => t.recipientDeviceId ++ ":" ++ sha256Hex t.ciphertextBlob
  let payload := cmd.conversationId.toString ++ "|" ++ cmd.senderDeviceId ++ "|" ++
    cmd.priority.toString ++ "|" ++ repr
  sha256Hex payload.toUTF8.data.toList

end SecureCloud.Messaging
