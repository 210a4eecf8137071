import SecureCloud.Files.Service

/-
# Files.Upload — files, upload sessions and chunks

`create_file` of `FileLifecycleService`, `UploadSessionManager`, `ChunkStorageService::store_chunk` and the
two calls over them. A chunk's octets are stored under its staging key BEFORE the chunk is recorded, and a
recorded chunk is not stored again.

The sessions in memory are read only when the store has no row, and rows are never removed, so they are
left out; so is the mutex around the manager's calls, which could only take interleavings away.
-/

namespace SecureCloud.Files

open Lib.Program Lib.Checks

/-! ## Creating a file -/

def kMaxFileSizeBytes : Nat := 5 * 1024 * 1024 * 1024

/-- `calculate_expected_chunk_count`, a 32-bit number. -/
def calculateExpectedChunkCount (fileSizeBytes : Nat) (chunkSize : Nat := kStandardChunkSize) : Nat :=
  if fileSizeBytes = 0 ∨ chunkSize = 0 then 0
  else (fileSizeBytes + chunkSize - 1) / chunkSize % 2 ^ 32

structure CreateFileRequestDto where
  fileId : String
  ownerUserId : String
  ownerDeviceId : String
  conversationId : Option String := none
  encryptedSizeBytes : Nat
  expectedChunkCount : Nat
  encryptionAlgorithm : String := "XChaCha20-Poly1305"
  encryptedFilename : Bytes
  metadataNonce : Bytes
  metadataTag : Bytes
  retentionUntil : Option TimePoint := none

variable (dto : CreateFileRequestDto)

def validateCreateFileRequest (now : TimePoint) : Except String Unit := do
  require (isValidUuid dto.fileId = true) s!"file_id is not a valid UUIDv7 format: {dto.fileId}"
  require (isValidUuid dto.ownerUserId = true)
    s!"owner_user_id is not a valid UUID format: {dto.ownerUserId}"
  require (isValidUuid dto.ownerDeviceId = true)
    s!"owner_device_id is not a valid UUID format: {dto.ownerDeviceId}"
  require (dto.conversationId.all isValidUuid = true)
    ("conversation_id is not a valid UUID format: " ++ dto.conversationId.getD "")
  require (dto.encryptedSizeBytes ≠ 0) "encrypted_size_bytes must be greater than zero"
  require (dto.encryptedSizeBytes ≤ kMaxFileSizeBytes)
    "encrypted_size_bytes exceeds maximum allowed limit (5 GiB)"
  require (dto.expectedChunkCount = calculateExpectedChunkCount dto.encryptedSizeBytes)
    s!"expected_chunk_count ({dto.expectedChunkCount}) does not match calculated count ({calculateExpectedChunkCount dto.encryptedSizeBytes})"
  require (dto.encryptionAlgorithm = "XChaCha20-Poly1305")
    s!"Unsupported encryption_algorithm: {dto.encryptionAlgorithm} (must be XChaCha20-Poly1305)"
  require (dto.encryptedFilename ≠ []) "encrypted_filename must not be empty"
  require (dto.metadataNonce.length = 24)
    s!"metadata_nonce must be exactly 24 bytes (XChaCha20 nonce), got {dto.metadataNonce.length}"
  require (dto.metadataTag.length = 16)
    s!"metadata_tag must be exactly 16 bytes (Poly1305 tag), got {dto.metadataTag.length}"
  require (dto.retentionUntil.all (fun until_ => decide (now < until_)) = true)
    "retention_until must be in the future"

def newFile : FileEntity where
  fileId := dto.fileId
  ownerUserId := dto.ownerUserId
  encryptedSize := dto.encryptedSizeBytes
  status := .created
  retentionUntil := dto.retentionUntil.map storedTime

/-- `FileLifecycleService::create_file`: the file must not be there, as far as the transaction sees. -/
def createFile (now : TimePoint) : Program String := do
  rethrow ((validateCreateFileRequest dto now).mapError fun what =>
    ⟨.fileLifecycleValidation, s!"Validation failed for CreateFileRequest: {what}"⟩)
  let existing ← query {} (.file dto.fileId)
  check (existing = none) .fileLifecycleValidation s!"File with id '{dto.fileId}' already exists"
  perform (.commit (({} : Tables).insertFile (newFile dto)))
  return dto.fileId

/-! ## Upload sessions -/

def newTransfer (uploadId fileId ownerUserId : String) (expectedChunkCount encryptedSizeBytes : Nat)
    (now : TimePoint) : FileTransferEntity where
  transferId := uploadId
  fileId
  initiatorUserId := ownerUserId
  status := .created
  totalChunks := (expectedChunkCount : Int).bmod (2 ^ 32)
  totalBytes := (encryptedSizeBytes : Int).bmod (2 ^ 64)
  expiresAt := storedTime (now + seconds (24 * 60 * 60))

namespace UploadSessionManager

/-- `create_session`; it does not look at the file. -/
def createSession (uploadId fileId ownerUserId : String)
    (expectedChunkCount encryptedSizeBytes : Nat) : Program String := do
  let now ← perform .clock
  check (uploadId ≠ "" ∧ fileId ≠ "" ∧ ownerUserId ≠ "") .runtime "Failed to create upload session"
  perform (.commit (({} : Tables).insertTransfer
    (newTransfer uploadId fileId ownerUserId expectedChunkCount encryptedSizeBytes now)))
  return uploadId

structure TransferProgress where
  status : TransferStatus
  totalChunks : Nat
  totalBytes : Nat
  isExpired : Bool

variable (uploadId : String)

def updateStatus (status : TransferStatus) : Program Unit := do
  let work ← stage {} (.transferStatus uploadId status)
  perform (.commit work)

/-- `get_transfer_progress`, with the fields its callers use. -/
def getTransferProgress : Program TransferProgress := do
  let found ← query {} (.transfer uploadId)
  let now ← perform .clock
  let transfer ← orThrow .transferNotFound s!"Transfer session not found: {uploadId}" found
  let progress : TransferProgress :=
    { status := transfer.status, totalChunks := (transfer.totalChunks % 2 ^ 32).toNat
      totalBytes := (transfer.totalBytes % 2 ^ 64).toNat, isExpired := transfer.expiresAt ≤ now }
  if progress.isExpired = true ∧ transfer.status ≠ .cancelled ∧ transfer.status ≠ .completed then
    updateStatus uploadId .expired
    return { progress with status := .expired }
  else return progress

def cancelSession : Program Bool := do
  let found ← query {} (.transfer uploadId)
  match found with
  | none => return false
  | some _ =>
    updateStatus uploadId .cancelled
    return true

end UploadSessionManager

/-! ## Chunks -/

structure ChunkPayloadDto where
  uploadId : String
  chunkIndex : Nat
  encryptedData : Bytes
  chunkSizeBytes : Nat
  claimedSha256 : String

section
variable (sha256Hex : Bytes → String) (dto : ChunkPayloadDto)

/-- The size a chunk must have: the standard one, and for the last what is left. -/
def checkChunkSize (totalChunks totalFileSizeBytes : Nat) : Except String Unit :=
  if dto.chunkIndex < totalChunks - 1 then
    require (dto.chunkSizeBytes = kStandardChunkSize)
      s!"Non-terminal chunk {dto.chunkIndex} size ({dto.chunkSizeBytes}) must equal standard chunk size of 4 MiB ({kStandardChunkSize})"
  else do
    let priorBytes := dto.chunkIndex * kStandardChunkSize
    require (priorBytes ≤ totalFileSizeBytes)
      "total_file_size_bytes is less than cumulative chunk offset"
    require (dto.chunkSizeBytes = totalFileSizeBytes - priorBytes)
      s!"Terminal chunk {dto.chunkIndex} size ({dto.chunkSizeBytes}) does not match expected remaining size ({totalFileSizeBytes - priorBytes})"

def validateChunkPayload (totalChunks totalFileSizeBytes : Nat) : Except String Unit := do
  require (isValidUuid dto.uploadId = true) "upload_id must be a valid RFC 4122 / UUIDv7 string"
  require (totalChunks ≠ 0) "total_chunks must be greater than zero"
  require (dto.chunkIndex < totalChunks)
    s!"chunk_index {dto.chunkIndex} is out of bounds for total_chunks {totalChunks}"
  require (dto.chunkSizeBytes = dto.encryptedData.length)
    s!"chunk_size_bytes ({dto.chunkSizeBytes}) does not match encrypted_data size ({dto.encryptedData.length})"
  require (1 ≤ dto.chunkSizeBytes) "chunk_size_bytes must be at least 1 byte"
  require (dto.chunkSizeBytes ≤ 8 * 1024 * 1024)
    s!"chunk_size_bytes ({dto.chunkSizeBytes}) exceeds maximum allowed chunk size of 8 MiB ({8 * 1024 * 1024})"
  checkChunkSize dto totalChunks totalFileSizeBytes
  require (isValidSha256Hex dto.claimedSha256 = true)
    "claimed_sha256 must be a 64-character hexadecimal string"
  require (hashesEqual dto.claimedSha256 (sha256Hex dto.encryptedData) = true)
    s!"Cryptographic SHA-256 digest mismatch: computed {sha256Hex dto.encryptedData} but claimed {dto.claimedSha256}"

def validateUncountedChunk : Except String Unit := do
  require (dto.chunkSizeBytes = dto.encryptedData.length)
    "chunk_size_bytes does not match payload size"
  require (isValidSha256Hex dto.claimedSha256 = true) "claimed_sha256 format is invalid"
  require (sha256Hex dto.encryptedData = dto.claimedSha256) "SHA-256 digest mismatch"

end

def toInt32 (n : Nat) : Int := (n : Int).bmod (2 ^ 32)

structure ChunkStoreResult where
  accepted : Bool
  isDuplicate : Bool
  receivedSha256 : String
  chunkIndex : Nat
  bytesWritten : Int

namespace ChunkStorageService

variable (dto : ChunkPayloadDto)

def stored (isDuplicate : Bool) : ChunkStoreResult where
  accepted := true
  isDuplicate
  receivedSha256 := dto.claimedSha256
  chunkIndex := dto.chunkIndex
  bytesWritten := dto.chunkSizeBytes

def chunkEntity : FileChunkEntity where
  transferId := dto.uploadId
  chunkIndex := toInt32 dto.chunkIndex
  byteOffset := dto.chunkIndex * kStandardChunkSize
  chunkSize := toInt32 dto.chunkSizeBytes
  chunkHashSha256 := dto.claimedSha256
  minioChunkKey := .staging dto.uploadId dto.chunkIndex

/-- `FileChunkRepository::record_chunk`: whether the chunk is new, and the rows. -/
def recordChunk (work : Tables) (chunk : FileChunkEntity) : Program (Bool × Tables) := do
  check (chunk.transferId ≠ "") .repository "Chunk ID and Transfer ID must not be empty"
  check (0 ≤ chunk.chunkIndex) .repository "Chunk index cannot be negative"
  check (0 ≤ chunk.chunkSize) .repository "Chunk size cannot be negative"
  check (chunk.chunkHashSha256 ≠ "") .repository "Chunk SHA-256 hash must not be empty"
  let (inserted, work) ← stage work (.chunk chunk)
  if inserted then return (true, work)
  else do
    let found ← query work (.chunkHash chunk.transferId chunk.chunkIndex)
    let existing ← orThrow .repository
      "Conflict detected on chunk insert but existing chunk record was not found" found
    check (existing = chunk.chunkHashSha256) .chunkIntegrity
      s!"Chunk hash mismatch for transfer '{chunk.transferId}', chunk index {chunk.chunkIndex}: existing hash '{existing}', incoming hash '{chunk.chunkHashSha256}'"
    return (false, work)

def countChunk (transfer : FileTransferEntity) (work : Tables) : Program Tables := do
  let work ← if transfer.status = .created then do
      let work ← stage work (.transferStatus dto.uploadId .transferring)
      updateFileStatus work transfer.fileId .created .uploading
    else pure work
  let work ← stage work (.progress dto.uploadId dto.chunkSizeBytes)
  let accepted ← query work (.chunkCount dto.uploadId)
  if transfer.totalChunks > 0 ∧ accepted ≥ transfer.totalChunks then
    stage work (.transferStatus dto.uploadId .finalizing)
  else pure work

/-- A chunk whose index has no record yet: the octets first, then the record. -/
def storeNewChunk (transfer : FileTransferEntity) : Program ChunkStoreResult := do
  let put ← perform (.putObject (.staging dto.uploadId dto.chunkIndex) dto.encryptedData)
  rethrow put
  let (isNew, work) ← recordChunk {} (chunkEntity dto)
  if isNew then do
    let work ← countChunk dto transfer work
    perform (.commit work)
    return stored dto false
  else do
    perform (.commit work)
    return stored dto true

def checkSession (callerUserId : String) (transfer : FileTransferEntity) : Program Unit := do
  check (callerUserId = "" ∨ callerUserId = "gateway" ∨ callerUserId = "DNS:gateway" ∨
      transfer.initiatorUserId = callerUserId) .unauthorizedTransfer
    s!"Caller '{callerUserId}' is not the initiator of transfer {dto.uploadId}"
  check (transfer.status ≠ .cancelled) .transferCancelled
    s!"Upload transfer session is cancelled: {dto.uploadId}"
  check (transfer.status ≠ .expired) .transferExpired
    s!"Upload transfer session is expired: {dto.uploadId}"
  check (transfer.status ≠ .completed) .transfer
    s!"Upload transfer session is already completed: {dto.uploadId}"

def storeChunk (callerUserId : String) : Program ChunkStoreResult := do
  let now ← perform .clock
  let found ← query {} (.transfer dto.uploadId)
  let transfer ← orThrow .transferNotFound s!"Upload transfer session not found: {dto.uploadId}" found
  checkSession dto callerUserId transfer
  if now > transfer.expiresAt then do
    UploadSessionManager.updateStatus dto.uploadId .expired
    throw ⟨.transferExpired, s!"Upload transfer session lease expired: {dto.uploadId}"⟩
  else do
    let existing ← query {} (.chunks dto.uploadId)
    match existing.find? fun c => c.chunkIndex = toInt32 dto.chunkIndex with
    | some chunk =>
      check (hashesEqual chunk.chunkHashSha256 dto.claimedSha256 = true) .chunkIntegrity
        s!"Conflicting chunk content for index {dto.chunkIndex}: existing hash differs from submitted hash"
      perform (.commit {})
      return stored dto true
    | none => storeNewChunk dto transfer

end ChunkStorageService

/-! ## The calls -/

structure UploadChunkRequest where
  peer : Option (Option String)
  payload : ChunkPayloadDto

namespace FilesService

variable (sha256Hex : Bytes → String)

def uploadStatusOf (e : FilesException) : GrpcStatus :=
  match e.kind with
  | .chunkIntegrity => ⟨.failedPrecondition,
      s!"Chunk content conflicts with previously accepted chunk: {e.what}"⟩
  | .transferNotFound => ⟨.notFound, e.what⟩
  | .transferExpired => ⟨.deadlineExceeded, e.what⟩
  | .transferCancelled => ⟨.failedPrecondition, e.what⟩
  | .unauthorizedTransfer => ⟨.permissionDenied, e.what⟩
  | _ => ⟨.internal, e.what⟩

def checkUpload (service : FilesService) (request : UploadChunkRequest) :
    Except GrpcStatus String := do
  let peer ← service.checkPeerAuthorization request.peer
  require (isValidUuid request.payload.uploadId = true) (GrpcStatus.mk .invalidArgument
    "upload_id must be a valid RFC 4122 / UUIDv7 string")
  require (service.uploadPermit = true) (GrpcStatus.mk .resourceExhausted
    s!"Upload concurrency capacity exhausted (domain: {service.uploadDomain})")
  let chunkBytes := request.payload.encryptedData.length
  require (chunkBytes ≠ 0) (GrpcStatus.mk .invalidArgument "Chunk request size cannot be zero")
  require (chunkBytes ≤ service.maxChunkRequestBytes) (GrpcStatus.mk .invalidArgument
    s!"Chunk request size ({chunkBytes} bytes) exceeds maximum allowed size ({service.maxChunkRequestBytes} bytes)")
  require (service.memoryReserved = true) (GrpcStatus.mk .resourceExhausted
    "Global memory buffer budget exhausted for incoming chunk")
  return peer

def checkProgress (payload : ChunkPayloadDto) (progress : UploadSessionManager.TransferProgress) :
    Except GrpcStatus Unit := do
  require (progress.status ≠ .cancelled) (GrpcStatus.mk .failedPrecondition
    "Upload session has been cancelled")
  require (progress.status ≠ .expired ∧ progress.isExpired = false)
    (GrpcStatus.mk .deadlineExceeded "Upload session lease expired")
  if progress.totalChunks > 0 then
    (validateChunkPayload sha256Hex payload progress.totalChunks progress.totalBytes).mapError
      fun what => ⟨.invalidArgument, what⟩
  else (validateUncountedChunk sha256Hex payload).mapError fun what => ⟨.invalidArgument, what⟩

def uploadChunk (service : FilesService) (request : UploadChunkRequest) :
    Prog Statement Statement.Resp (Except GrpcStatus ChunkStoreResult) :=
  match service.checkUpload request with
  | .error status => pure (.error status)
  | .ok peer => do
    let progress ← (UploadSessionManager.getTransferProgress request.payload.uploadId).run
    match progress with
    | .error e => return .error (uploadStatusOf e)
    | .ok progress =>
      match checkProgress sha256Hex request.payload progress with
      | .error status => return .error status
      | .ok () => do
        let result ← (ChunkStorageService.storeChunk request.payload peer).run
        return result.mapError uploadStatusOf

end FilesService

end SecureCloud.Files
