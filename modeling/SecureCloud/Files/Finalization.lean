import SecureCloud.Files.Service

/-
# Files.Finalization — turning an upload session into a version

`FileFinalizationService::finalize_file_upload` with its precondition check and the assembly of the
object, statement by statement. The object is written under `objects/<file>/<number>` BEFORE the version
row is inserted, outside its transaction, and the number is one more than the active version's when that
was read.
-/

namespace SecureCloud.Files

open Lib.Program Lib.Checks

/-! ## Preconditions -/

def TransferStatus.name : TransferStatus → String
  | created => "Created"
  | transferring => "Transferring"
  | finalizing => "Finalizing"
  | completed => "Completed"
  | failed => "Failed"
  | expired => "Expired"
  | cancelled => "Cancelled"

def FileStatus.name : FileStatus → String
  | created => "Created"
  | uploading => "Uploading"
  | finalizing => "Finalizing"
  | available => "Available"
  | expired => "Expired"
  | deleted => "Deleted"
  | failed => "Failed"

structure FinalizationValidationInput where
  transfer : FileTransferEntity
  file : FileEntity
  chunks : List FileChunkEntity
  expectedCiphertextSha256 : String := ""

namespace FinalizationValidator

def sortedChunks (chunks : List FileChunkEntity) : List FileChunkEntity :=
  chunks.insertionSort fun a b => a.chunkIndex ≤ b.chunkIndex

/-- One chunk at place `i` of the sorted list. A storage key is never empty here. -/
def checkChunk (totalBytes : Int) (i : Nat) (chunk : FileChunkEntity) : Except String Unit := do
  require (chunk.chunkIndex = i)
    s!"Missing chunk at index {i}; found chunk index {chunk.chunkIndex}"
  require (isValidSha256Hex chunk.chunkHashSha256 = true)
    s!"Chunk {i} has invalid SHA-256 digest format: {chunk.chunkHashSha256}"
  require (¬ (chunk.chunkSize = 0 ∧ totalBytes > 0))
    s!"Chunk {i} has invalid zero chunk_size for non-empty transfer"
  require (0 ≤ chunk.chunkSize) s!"Chunk {i} has negative chunk_size"

def checkChunks (totalBytes : Int) : Nat → List FileChunkEntity → Except String Unit
  | _, [] => .ok ()
  | i, chunk :: rest => do
    checkChunk totalBytes i chunk
    checkChunks totalBytes (i + 1) rest

def accumulatedBytes (chunks : List FileChunkEntity) : Int :=
  (chunks.map FileChunkEntity.chunkSize).sum

def checkTransferStatus (transfer : FileTransferEntity) : Except String Unit := do
  require (transfer.status ≠ .cancelled) "Cannot finalize a cancelled transfer session"
  require (transfer.status ≠ .expired) "Cannot finalize an expired transfer session"
  require (transfer.status ≠ .failed) "Cannot finalize a failed transfer session"
  require (transfer.status = .transferring ∨ transfer.status = .finalizing ∨
      (transfer.status = .created ∧ transfer.totalChunks = 0))
    s!"Transfer session is in invalid state for finalization: {transfer.status.name}"

def checkFileStatus (file : FileEntity) (totalChunks : Int) : Except String Unit := do
  require (file.status ≠ .deleted) "Cannot finalize a deleted file"
  require (file.status ≠ .expired) "Cannot finalize an expired file"
  require (file.status ≠ .failed) "Cannot finalize a failed file"
  require (file.status = .uploading ∨ file.status = .finalizing ∨
      (file.status = .created ∧ totalChunks = 0))
    s!"File is in invalid state for finalization: {file.status.name}"

def validateFinalizationPreconditions (input : FinalizationValidationInput) :
    Except String Unit := do
  require (input.transfer.transferId ≠ "") "Transfer ID must not be empty"
  checkTransferStatus input.transfer
  checkFileStatus input.file input.transfer.totalChunks
  require ((input.chunks.length : Int) = input.transfer.totalChunks)
    s!"Chunk count mismatch: expected {input.transfer.totalChunks} chunks, but found {input.chunks.length} staged chunks"
  require (input.transfer.acceptedChunks = input.transfer.totalChunks)
    s!"Not all chunks have been accepted: accepted {input.transfer.acceptedChunks} of {input.transfer.totalChunks}"
  checkChunks input.transfer.totalBytes 0 (sortedChunks input.chunks)
  require (accumulatedBytes input.chunks = input.transfer.totalBytes)
    s!"Cumulative chunk byte size mismatch: chunks sum to {accumulatedBytes input.chunks} bytes, but transfer expects {input.transfer.totalBytes} bytes"
  require (input.file.encryptedSize = input.transfer.totalBytes)
    s!"Transfer total bytes ({input.transfer.totalBytes}) does not match file encrypted size ({input.file.encryptedSize})"
  require (input.expectedCiphertextSha256 = "" ∨
      isValidSha256Hex input.expectedCiphertextSha256 = true)
    s!"Provided expected_ciphertext_sha256 is not a valid 64-character hex string: {input.expectedCiphertextSha256}"

end FinalizationValidator

/-! ## Assembly -/

section
variable (sha256Hex : Bytes → String)

structure AssemblyResult where
  targetObjectKey : ObjectKey
  totalBytes : Nat
  computedSha256 : String

namespace ObjectAssemblyEngine

/-- The staged objects of the chunks one after the other, each compared with its recorded digest. -/
def appendChunks : List FileChunkEntity → Bytes → Program Bytes
  | [], assembled => pure assembled
  | chunk :: rest, assembled => do
    let got ← perform (.getObject chunk.minioChunkKey)
    let body ← rethrow got
    check (hashesEqual (sha256Hex body) chunk.chunkHashSha256 = true) .s3Integrity
      s!"Staged chunk corrupted: computed hash ({sha256Hex body}) does not match recorded chunk hash ({chunk.chunkHashSha256}) for key {chunk.minioChunkKey.text}"
    appendChunks rest (assembled ++ body)

/-- Octets with the digests of these chunks, one chunk after the other. -/
def Concatenates (chunks : List FileChunkEntity) (content : Bytes) : Prop :=
  ∃ bodies : List Bytes, content = bodies.flatten ∧
    List.Forall₂ (fun chunk body => hashesEqual (sha256Hex body) chunk.chunkHashSha256 = true) chunks bodies

/-- `assemble_version_object`. Without chunks the octets are none, and are stored as well. -/
def assembleVersionObject (fileId : String) (targetVersion : Int) (chunks : List FileChunkEntity) :
    Program AssemblyResult := do
  let targetKey := ObjectKey.version fileId targetVersion
  let payload ← appendChunks sha256Hex (FinalizationValidator.sortedChunks chunks) []
  let put ← perform (.putObject targetKey payload)
  rethrow put
  return { targetObjectKey := targetKey, totalBytes := payload.length
           computedSha256 := sha256Hex payload }

/-- `cleanup_staging_chunks`: failures are swallowed. -/
def cleanupStagingChunks : List FileChunkEntity → Program Unit
  | [] => pure ()
  | chunk :: rest => do
    perform (.deleteObject chunk.minioChunkKey)
    cleanupStagingChunks rest

end ObjectAssemblyEngine

/-! ## The service -/

structure FinalizeUploadRequestDto where
  uploadId : String
  fileId : String := ""
  expectedCiphertextSha256 : String := ""
  callerUserId : String := ""

structure FinalizeUploadResultDto where
  fileId : String
  versionNumber : Int
  totalBytes : Int
  checksumSha256 : String
  availableAt : TimePoint
  isIdempotentReplay : Bool

namespace FileFinalizationService

def replayed (fileId : String) (version : FileVersionEntity) : FinalizeUploadResultDto where
  fileId
  versionNumber := version.versionNumber
  totalBytes := version.encryptedSize
  checksumSha256 := version.checksumSha256
  availableAt := version.createdAt
  isIdempotentReplay := true

/-- Step 5: the file's active version, if the transfer is completed or the file available. -/
def replayedVersion (transfer : FileTransferEntity) (file : FileEntity) :
    Program (Option FileVersionEntity) :=
  if transfer.status = .completed ∨ file.status = .available then
    query {} (.activeVersion file.fileId)
  else pure none

variable (request : FinalizeUploadRequestDto)

/-- Steps 7 and 8: both records staged as finalizing, the chunks loaded and checked. -/
def loadChunks (transfer : FileTransferEntity)
    (file : FileEntity) : Program (Tables × List FileChunkEntity) := do
  let work ← stage {} (.transferStatus transfer.transferId .finalizing)
  let work ← updateFileStatus work file.fileId file.status .finalizing
  let chunks ← query work (.chunks transfer.transferId)
  match FinalizationValidator.validateFinalizationPreconditions
      { transfer := { transfer with status := .finalizing }
        file := { file with status := .finalizing }
        chunks, expectedCiphertextSha256 := request.expectedCiphertextSha256 } with
  | .error what => throw ⟨.finalizationPrecondition,
      s!"Finalization precondition check failed: {what}"⟩
  | .ok () => return (work, chunks)

def recordVersion (work : Tables) (transferId : String) (version : FileVersionEntity) :
    Program Unit := do
  let work ← createVersion work version
  let work ← updateFileStatus work version.fileId .finalizing .available
  let work ← stage work (.transferStatus transferId .completed)
  perform (.commit work)

/-- The handler of step 12: the version another finalization recorded under that number. -/
def recoverLostRace (fileId : String) (e : FilesException) : Program (Option FileVersionEntity) :=
  if e.kind = .uniqueConstraintViolation then do
    let active ← query {} (.activeVersion fileId)
    match active with
    | some version =>
      perform (.commit {})
      return some version
    | none => throw e
  else throw e

def targetVersion : Option FileVersionEntity → Int
  | some latest => (latest.versionNumber + 1).bmod (2 ^ 32)
  | none => 1

/-- Steps 6 to 13: a fresh finalization. -/
def finalizeFresh (transfer : FileTransferEntity)
    (file : FileEntity) : Program FinalizeUploadResultDto := do
  check (transfer.status ≠ .cancelled) .finalizationPrecondition
    "Cannot finalize a cancelled transfer session"
  check (transfer.status ≠ .expired) .finalizationPrecondition
    "Cannot finalize an expired transfer session"
  check (transfer.status ≠ .failed) .finalizationPrecondition
    "Cannot finalize a failed transfer session"
  let (work, chunks) ← loadChunks request transfer file
  let latest ← query work (.activeVersion file.fileId)
  let assembly ← ObjectAssemblyEngine.assembleVersionObject sha256Hex file.fileId
    (targetVersion latest) chunks
  check (request.expectedCiphertextSha256 = "" ∨
      hashesEqual assembly.computedSha256 request.expectedCiphertextSha256 = true) .chunkIntegrity
    s!"Whole-ciphertext SHA-256 integrity mismatch: expected {request.expectedCiphertextSha256}, but computed {assembly.computedSha256}"
  let now ← perform .clock
  let version : FileVersionEntity :=
    { fileId := file.fileId, versionNumber := targetVersion latest
      encryptedSize := assembly.totalBytes, minioObjectKey := assembly.targetObjectKey.text
      checksumSha256 := assembly.computedSha256, createdAt := storedTime now, isActive := true }
  let other ← tryCatch (do recordVersion work transfer.transferId version; return none)
    (recoverLostRace file.fileId)
  match other with
  | some theirs => return replayed file.fileId theirs
  | none => do
    ObjectAssemblyEngine.cleanupStagingChunks chunks
    return { fileId := file.fileId, versionNumber := version.versionNumber
             totalBytes := assembly.totalBytes, checksumSha256 := assembly.computedSha256
             availableAt := now, isIdempotentReplay := false }

def finalizeLocked : Program FinalizeUploadResultDto := do
  let found ← query {} (.transfer request.uploadId)
  let transfer ← orThrow .entityNotFound s!"Transfer session not found: {request.uploadId}" found
  check (request.fileId = "" ∨ request.fileId = transfer.fileId) .finalizationPrecondition
    s!"Request file_id ({request.fileId}) does not match transfer session file_id ({transfer.fileId})"
  let found ← query {} (.file transfer.fileId)
  let file ← orThrow .entityNotFound s!"File record not found: {transfer.fileId}" found
  check (request.callerUserId = "" ∨ file.ownerUserId = request.callerUserId)
    .finalizationPrecondition "Caller user ID does not match file owner ID"
  let replay ← replayedVersion transfer file
  match replay with
  | some version =>
    perform (.commit {})
    return replayed file.fileId version
  | none => finalizeFresh sha256Hex request transfer file

def finalizeFileUpload : Program FinalizeUploadResultDto := do
  check (request.uploadId ≠ "") .finalizationPrecondition "upload_id must not be empty"
  withSession request.uploadId (finalizeLocked sha256Hex request)

end FileFinalizationService

end

end SecureCloud.Files
