import SecureCloud.Files.Service

/-
# Files.Download — serving one chunk of a file

`FilesServiceImpl::DownloadChunk` with the download manager, its precondition check and the chunk's
byte range. The capability is authorized first, with NO requested version; the version to serve is
looked up afterwards, and it is the active one.
-/

namespace SecureCloud.Files

open Lib.Program Lib.Checks

/-! ## Byte ranges -/

structure ChunkByteRange where
  startByte : Nat
  endByte : Nat
  chunkSizeBytes : Nat
  totalChunks : Nat

/-- `calculate_chunk_byte_range`; the number of chunks is a 32-bit number. -/
def calculateChunkByteRange (totalFileSize chunkIndex : Nat)
    (standardChunkSize : Nat := kStandardChunkSize) : Option ChunkByteRange :=
  if standardChunkSize = 0 then none
  else if totalFileSize = 0 then
    if chunkIndex = 0 then some ⟨0, 0, 0, 0⟩ else none
  else
    let totalChunks := (totalFileSize + standardChunkSize - 1) / standardChunkSize % 2 ^ 32
    if totalChunks ≤ chunkIndex then none
    else
      let startByte := chunkIndex * standardChunkSize
      let endByte := min (startByte + standardChunkSize - 1) (totalFileSize - 1)
      some ⟨startByte, endByte, endByte - startByte + 1, totalChunks⟩

def toUInt64 (n : Int) : Nat := (n % 2 ^ 64).toNat

/-! ## The download manager -/

structure DownloadValidationInput where
  fileId : String
  requestedVersion : Int := 0
  chunkIndex : Nat
  file : FileEntity
  version : FileVersionEntity
  callerUserId : String
  hasReadPermission : Bool

/-- `validate_download_preconditions`, for a version that was found. -/
def validateDownloadPreconditions (input : DownloadValidationInput) : Except String Unit := do
  require (isValidUuid input.fileId = true) s!"Invalid file_id format: {input.fileId}"
  require (input.file.fileId ≠ "" ∧ input.file.fileId = input.fileId)
    "File record does not match requested file_id"
  require ((input.callerUserId ≠ "" ∧ input.callerUserId = input.file.ownerUserId) ∨
      input.hasReadPermission = true)
    s!"Caller lacks READ authorization for file: {input.fileId}"
  require (input.file.status = .available)
    s!"File is not available for download; current status: {input.file.status.toString}"
  require (¬ (input.requestedVersion > 0 ∧ input.version.versionNumber ≠ input.requestedVersion))
    s!"Requested version {input.requestedVersion} does not match retrieved snapshot version {input.version.versionNumber}"
  let fileSize := toUInt64 input.version.encryptedSize
  require ((calculateChunkByteRange fileSize input.chunkIndex).isSome = true)
    s!"Chunk index {input.chunkIndex} is out of bounds (file has {(fileSize + kStandardChunkSize - 1) / kStandardChunkSize % 2 ^ 32} chunks)"

structure DownloadChunkResult where
  fileId : String
  versionNumber : Int
  chunkIndex : Nat
  encryptedData : Bytes
  chunkSizeBytes : Nat
  ciphertextSha256 : String

section
variable (sha256Hex : Bytes → String)

def fetchChunk (fileId : String) (versionNumber : Int) (chunkIndex totalFileSize : Nat) :
    Program DownloadChunkResult := do
  let range ← orThrow .outOfRange
    s!"Chunk index {chunkIndex} is out of bounds for file {fileId} (total size: {totalFileSize} bytes)"
    (calculateChunkByteRange totalFileSize chunkIndex)
  if totalFileSize = 0 then
    return { fileId, versionNumber, chunkIndex := 0, encryptedData := [], chunkSizeBytes := 0
             ciphertextSha256 := sha256Hex [] }
  else
    let got ← perform
      (.getObjectRange (.version fileId versionNumber) range.startByte range.endByte)
    let body ← rethrow got
    return { fileId, versionNumber, chunkIndex, encryptedData := body
             chunkSizeBytes := body.length, ciphertextSha256 := sha256Hex body }

namespace DownloadManager

def isTrustedPeer (callerUserId : String) : Bool :=
  callerUserId == "" || callerUserId == "system" || callerUserId == "authenticated_peer" ||
    callerUserId == "gateway"

/-- `check_access`: the owner is read again, then the grant. -/
def checkAccess (fileId userId : String) (permission : FilePermission) : Program Bool :=
  if fileId = "" ∨ userId = "" then pure false
  else do
    let owner ← query {} (.file fileId)
    match owner with
    | none => return false
    | some file =>
      if file.ownerUserId = userId then return true
      else do
        let grant ← query {} (.grant fileId userId)
        return grant.any fun g => g.permission.satisfies permission

def hasReadPermission (file : FileEntity) (fileId callerUserId : String) : Program Bool :=
  if isTrustedPeer callerUserId = true ∨ file.ownerUserId = callerUserId then pure true
  else checkAccess fileId callerUserId .read

def lookUpVersion (fileId : String) (versionNumber : Int) : Program (Option FileVersionEntity) :=
  if versionNumber > 0 then do
    let versions ← query {} (.versions fileId)
    return versions.find? fun v => v.versionNumber = versionNumber
  else query {} (.activeVersion fileId)

/-- `find("is out of bounds")` decides the class of a failed precondition. -/
def preconditionFailure (what : String) : FilesException :=
  if FileCapabilityManager.mentions what "is out of bounds" then ⟨.outOfRange, what⟩
  else ⟨.invalidDownloadPrecondition, what⟩

def getChunkVersioned (fileId : String) (versionNumber : Int) (chunkIndex : Nat)
    (callerUserId : String) : Program DownloadChunkResult := do
  let found ← query {} (.file fileId)
  let file ← orThrow .fileNotFound s!"File not found: {fileId}" found
  let permitted ← hasReadPermission file fileId callerUserId
  check (permitted = true) .unauthorizedFileAccess
    s!"Caller '{callerUserId}' lacks READ access to file: {fileId}"
  check (file.status = .available) .invalidDownloadPrecondition
    s!"File is not available for download; current status: {file.status.toString}"
  let found ← lookUpVersion fileId versionNumber
  let version ← orThrow .entityNotFound s!"Version snapshot not found for file: {fileId}" found
  rethrow ((validateDownloadPreconditions
    { fileId, requestedVersion := versionNumber, chunkIndex, file, version, callerUserId
      hasReadPermission := permitted }).mapError preconditionFailure)
  fetchChunk sha256Hex fileId version.versionNumber chunkIndex (toUInt64 version.encryptedSize)

end DownloadManager

/-! ## The call -/

structure DownloadChunkRequest where
  peer : Option (Option String)
  fileId : String
  chunkIndex : Nat
  metadata : List (String × String)

structure DownloadChunkResponse where
  fileId : String
  chunkIndex : Nat
  encryptedData : Bytes
  chunkSizeBytes : Nat
  ciphertextSha256 : String

namespace FilesService

structure CallerMetadata where
  userId : String := ""
  deviceId : String := ""
  capabilityToken : String := ""

/-- One entry of the metadata; the first value that is not empty stays. -/
def CallerMetadata.read (m : CallerMetadata) (entry : String × String) : CallerMetadata :=
  let key := entry.1.toList.map Char.toLower
  if key = "x-user-id".toList ∧ m.userId = "" then { m with userId := entry.2 }
  else if key = "x-device-id".toList ∧ m.deviceId = "" then { m with deviceId := entry.2 }
  else if (key = "x-file-access-capability".toList ∨ key = "x-file-capability".toList) ∧
      m.capabilityToken = "" then { m with capabilityToken := entry.2 }
  else m

def callerMetadata (metadata : List (String × String)) : CallerMetadata :=
  metadata.foldl CallerMetadata.read {}

def statusOf (e : FilesException) : GrpcStatus :=
  match e.kind with
  | .unauthorizedFileAccess => ⟨.permissionDenied, e.what⟩
  | .fileNotFound => ⟨.notFound, e.what⟩
  | .entityNotFound => ⟨.notFound, e.what⟩
  | .invalidDownloadPrecondition => ⟨.failedPrecondition, e.what⟩
  | .outOfRange => ⟨.outOfRange, e.what⟩
  | .s3ObjectNotFound => ⟨.notFound, e.what⟩
  | .s3Connection => ⟨.deadlineExceeded, e.what⟩
  | .s3Authentication => ⟨.permissionDenied, e.what⟩
  | .invalidArgument => ⟨.invalidArgument, e.what⟩
  | _ => ⟨.internal, e.what⟩

def capabilityStatusOf (e : FilesException) : GrpcStatus :=
  match e.kind with
  | .invalidCapability => ⟨.unauthenticated, e.what⟩
  | _ => ⟨.permissionDenied, e.what⟩

variable (service : FilesService)

/-- `authorize_capability` for reading, the requested version being `0`. -/
def authorizeRead (caller : CallerMetadata) (fileId : String) :
    Program FileAccessCapabilityClaims := do
  check (caller.capabilityToken ≠ "") .invalidCapability
    "Missing required file-access capability token"
  let isRevoked ← perform (.isDeviceRevoked caller.deviceId)
  let now ← perform .clock
  rethrow (FileCapabilityManager.authorizeCapability service.codec isRevoked caller.capabilityToken
    caller.userId caller.deviceId fileId .read 0 now)

def respond (chunk : DownloadChunkResult) : Except GrpcStatus DownloadChunkResponse := do
  require (chunk.chunkSizeBytes ≠ 0) (GrpcStatus.mk .outOfRange "Chunk request size cannot be zero")
  require (chunk.chunkSizeBytes ≤ service.maxChunkRequestBytes) (GrpcStatus.mk .outOfRange
    s!"Chunk request size ({chunk.chunkSizeBytes} bytes) exceeds maximum allowed size ({service.maxChunkRequestBytes} bytes)")
  require (service.memoryReserved = true) (GrpcStatus.mk .resourceExhausted
    "Global memory buffer budget exhausted during chunk download")
  return { fileId := chunk.fileId, chunkIndex := chunk.chunkIndex
           encryptedData := chunk.encryptedData, chunkSizeBytes := chunk.chunkSizeBytes
           ciphertextSha256 := chunk.ciphertextSha256 }

variable (request : DownloadChunkRequest)

/-- What is checked before anything is looked up: the peer, the permit, the file's identifier. -/
def checkRequest : Except GrpcStatus String := do
  let peer ← service.checkPeerAuthorization request.peer
  require (service.downloadPermit = true) (GrpcStatus.mk .resourceExhausted
    s!"Download concurrency capacity exhausted (domain: {service.downloadDomain})")
  require (isValidUuid request.fileId = true) (GrpcStatus.mk .invalidArgument
    s!"Invalid file_id format: {request.fileId}")
  return peer

/-- The capability check of a call: only a token that is presented to a manager is looked at. -/
def capabilityCheck : Program (Option FileAccessCapabilityClaims) :=
  let caller := callerMetadata request.metadata
  if service.hasCapabilityManager = true ∧ caller.capabilityToken ≠ "" then do
    let claims ← service.authorizeRead caller request.fileId
    return some claims
  else pure none

def downloadChunk : Prog Statement Statement.Resp (Except GrpcStatus DownloadChunkResponse) :=
  match service.checkRequest request with
  | .error status => pure (.error status)
  | .ok peer => do
    let capability ← (service.capabilityCheck request).run
    match capability with
    | .error e => return .error (capabilityStatusOf e)
    | .ok _ =>
      if service.hasDownloadManager then do
        let fetched ← (DownloadManager.getChunkVersioned sha256Hex request.fileId 0
          request.chunkIndex peer).run
        match fetched with
        | .error e => return .error (statusOf e)
        | .ok chunk => return service.respond chunk
      else return .error ⟨.unavailable, "DownloadManager is not configured"⟩

end FilesService

end

end SecureCloud.Files
