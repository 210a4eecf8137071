import Mathlib

/-
# Files.Domain — the file service's records

File records with their lifecycle, versions, transfer sessions, chunks and access grants, with the words
of `src/files/domain` and the fields that are read here. Time points are nanoseconds; widths of machine
integers are kept where a conversion can lose bits.
-/

namespace SecureCloud.Files

/-! ## Octets, texts and clocks -/

/-- Ticks of the system clock since 1970-01-01T00:00:00Z, a thousand million to the second. -/
abbrev TimePoint := Int

def seconds (n : Int) : TimePoint := n * 1000000000

/-- A time as the store keeps it: `to_iso8601` writes microseconds. -/
def storedTime (t : TimePoint) : TimePoint := t.tdiv 1000 * 1000

abbrev Bytes := List UInt8

/-- `hex_val(c) >= 0`. -/
def isHexDigit (c : Char) : Bool :=
  ('0' ≤ c && c ≤ '9') || ('a' ≤ c && c ≤ 'f') || ('A' ≤ c && c ≤ 'F')

def isValidUuid (s : String) : Bool :=
  let cs := s.toList
  cs.length == 36 && (cs.zipIdx.all fun (c, i) =>
      if i = 8 ∨ i = 13 ∨ i = 18 ∨ i = 23 then c == '-' else isHexDigit c)

def isValidSha256Hex (s : String) : Bool := s.toList.length == 64 && s.toList.all isHexDigit

/-- Equality of two digests up to letter case: `hashes_equal`, and the loops that spell it out. -/
def hashesEqual (a b : String) : Bool := a.toList.map Char.toLower == b.toList.map Char.toLower

def kStandardChunkSize : Nat := 4 * 1024 * 1024

/-! ## File records and their lifecycle -/

inductive FileStatus
  | created
  | uploading
  | finalizing
  | available
  | expired
  | deleted
  | failed
deriving DecidableEq

def FileStatus.toString : FileStatus → String
  | created => "CREATED"
  | uploading => "UPLOADING"
  | finalizing => "FINALIZING"
  | available => "AVAILABLE"
  | expired => "EXPIRED"
  | deleted => "DELETED"
  | failed => "FAILED"

def isValidStateTransition : FileStatus → FileStatus → Bool
  | .created, next => next == .uploading || next == .failed || next == .deleted
  | .uploading, next =>
    next == .finalizing || next == .failed || next == .expired || next == .deleted
  | .finalizing, next => next == .available || next == .failed
  | .available, next => next == .expired || next == .deleted
  | .expired, next => next == .deleted
  | .deleted, _ => false
  | .failed, _ => false

structure FileEntity where
  fileId : String
  ownerUserId : String
  encryptedSize : Int
  status : FileStatus := .created
  retentionUntil : Option TimePoint := none
deriving DecidableEq

/-! ## Objects and version snapshots -/

/-- The keys of `build_version_key` and `build_staging_key`. Both end in a number after the last slash and
differ in the first letter, so the texts differ as they do. -/
inductive ObjectKey
  | version (fileId : String) (versionNumber : Int)
  | staging (uploadId : String) (chunkIndex : Nat)
deriving DecidableEq

def ObjectKey.text : ObjectKey → String
  | version fileId versionNumber => s!"objects/{fileId}/{versionNumber}"
  | staging uploadId chunkIndex => s!"staging/{uploadId}/{chunkIndex}"

structure FileVersionEntity where
  fileId : String
  versionNumber : Int := 1
  encryptedSize : Int
  minioObjectKey : String
  checksumSha256 : String
  createdAt : TimePoint
  isActive : Bool := true

/-- The unique constraint `uq_file_version`. -/
def FileVersionEntity.key (v : FileVersionEntity) : String × Int := (v.fileId, v.versionNumber)

/-! ## Transfers, chunks and grants -/

inductive TransferStatus
  | created
  | transferring
  | finalizing
  | completed
  | failed
  | expired
  | cancelled
deriving DecidableEq

structure FileTransferEntity where
  transferId : String
  fileId : String
  initiatorUserId : String
  status : TransferStatus := .created
  totalChunks : Int
  acceptedChunks : Int := 0
  totalBytes : Int
  transferredBytes : Int := 0
  expiresAt : TimePoint

structure FileChunkEntity where
  transferId : String
  chunkIndex : Int
  byteOffset : Int
  chunkSize : Int
  chunkHashSha256 : String
  minioChunkKey : ObjectKey
deriving DecidableEq

/-- The unique constraint on `(transfer_id, chunk_index)`. -/
def FileChunkEntity.key (c : FileChunkEntity) : String × Int := (c.transferId, c.chunkIndex)

inductive FilePermission
  | read
  | write
  | admin
deriving DecidableEq

structure FileAccessEntity where
  fileId : String
  granteeUserId : String
  granteeDeviceId : Option String := none
  permission : FilePermission := .read
  revokedAt : Option TimePoint := none
  grantedAt : TimePoint := 0

/-- The unique constraint on `(file_id, grantee_user_id)`. -/
def FileAccessEntity.key (a : FileAccessEntity) : String × String := (a.fileId, a.granteeUserId)

/-! ## Exceptions and statuses -/

inductive ExceptionKind
  | repository
  | entityNotFound
  | fileNotFound
  | uniqueConstraintViolation
  | invalidStateTransition
  | invalidLifecycleTransition
  | fileLifecycleValidation
  | immutableVersion
  | unauthorizedFileAccess
  | invalidCapability
  | invalidDownloadPrecondition
  | finalizationPrecondition
  | chunkIntegrity
  | transferNotFound
  | unauthorizedTransfer
  | transferCancelled
  | transferExpired
  | transfer
  | s3ObjectNotFound
  | s3Connection
  | s3Authentication
  | s3Integrity
  | s3Client
  | outOfRange
  | invalidArgument
  | runtime
deriving DecidableEq

structure FilesException where
  kind : ExceptionKind
  what : String

inductive StatusCode
  | ok
  | invalidArgument
  | deadlineExceeded
  | notFound
  | permissionDenied
  | resourceExhausted
  | failedPrecondition
  | outOfRange
  | internal
  | unavailable
  | unauthenticated

structure GrpcStatus where
  code : StatusCode
  message : String

end SecureCloud.Files
