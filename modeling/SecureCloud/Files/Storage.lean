import SecureCloud.Files.Domain
import SecureCloud.Lib.Table

/-
# Files.Storage — the file service's tables and the repositories over them

The service's `pqxx` connection is the in-memory store of `db/pqxx_compat.hpp`. A transaction keeps
COPIES of the rows it has written and reads through them; `commit` writes the copies over the store, and
the only lock is the one around each statement. `Tables.merge` says both how a transaction reads and how
it commits; of two that copied one row the later commit wins.

ONE STATEMENT ACTS AT ONCE: clearing `is_active` on the other versions of a file changes the store before
any commit.
-/

namespace SecureCloud.Files

open Lib.Table

/-! ## Tables and transactions -/

/-- The tables of the store; also the rows a transaction has written and not yet committed. -/
structure Tables where
  files : Keyed FileEntity.fileId := .empty
  versions : Keyed FileVersionEntity.key := .empty
  transfers : Keyed FileTransferEntity.transferId := .empty
  chunks : Keyed FileChunkEntity.key := .empty
  access : Keyed FileAccessEntity.key := .empty

namespace Tables

/-- What a transaction sees, and what its commit leaves: its own rows over the store's. -/
def merge (store work : Tables) : Tables where
  files := store.files.merge work.files
  versions := store.versions.merge work.versions
  transfers := store.transfers.merge work.transfers
  chunks := store.chunks.merge work.chunks
  access := store.access.merge work.access

/-! ## Queries

Each runs on what the transaction sees. -/

variable (t : Tables) (fileId : String)

/-- `FileRepository::find_by_id`. -/
def findFile : Option FileEntity :=
  if fileId = "" then none else t.files.find fileId

variable (transferId : String)

/-- `FileTransferRepository::find_by_id`. -/
def findTransfer : Option FileTransferEntity :=
  if transferId = "" then none else t.transfers.find transferId

def activeVersions : List FileVersionEntity :=
  t.versions.rows.filter fun v => v.fileId = fileId ∧ v.isActive

/-- `find_active_version`: of several, the highest number. -/
def findActiveVersion : Option FileVersionEntity :=
  if fileId = "" then none else
    @List.argmax _ _ Int.instLinearOrder.toPreorder Int.instLinearOrder.toDecidableLT
      FileVersionEntity.versionNumber (t.activeVersions fileId)

/-- `list_versions`. -/
def listVersions : List FileVersionEntity :=
  if fileId = "" then [] else
    (t.versions.rows.filter fun v => v.fileId = fileId).insertionSort
      fun a b => a.versionNumber ≤ b.versionNumber

/-- `list_chunks_for_transfer`. -/
def listChunksForTransfer : List FileChunkEntity :=
  if transferId = "" then [] else
    (t.chunks.rows.filter fun c => c.transferId = transferId).insertionSort
      fun a b => a.chunkIndex ≤ b.chunkIndex

/-- `count_accepted_chunks`. -/
def countAcceptedChunks : Int :=
  (t.listChunksForTransfer transferId).length

/-- The files past their retention, the earliest first; the store compares texts, whose order is that of
the times. -/
def findExpiredFiles (now : TimePoint) (limit : Nat) : List FileEntity :=
  ((t.files.rows.filter fun f =>
    f.retentionUntil.any (fun time => decide (time ≤ storedTime now)) ∧ f.status ≠ .deleted).insertionSort
      fun a b => a.retentionUntil.getD 0 ≤ b.retentionUntil.getD 0).take limit

/-- The grant that has not been revoked. -/
def findGrant (fileId userId : String) : Option FileAccessEntity :=
  (t.access.find (fileId, userId)).filter fun a => a.revokedAt.isNone

theorem findActiveVersion_eq_some {t : Tables} {fileId : String} {v : FileVersionEntity}
    (h : t.findActiveVersion fileId = some v) :
    t.versions.find (fileId, v.versionNumber) = some v ∧ v.fileId = fileId ∧ v.isActive = true := by
  unfold findActiveVersion at h
  split at h
  · exact nomatch h
  have hmem := List.argmax_mem (Option.mem_def.mpr h)
  obtain ⟨hrow, hactive⟩ := List.mem_filter.mp hmem
  obtain ⟨rfl, hon⟩ := of_decide_eq_true hactive
  exact ⟨Keyed.mem_rows_iff.mp hrow, rfl, hon⟩

end Tables

def FilePermission.satisfies : FilePermission → FilePermission → Bool
  | .admin, _ => true
  | .write, required => required == .write || required == .read
  | .read, required => required == .read

/-! ## Statements that write

They take the store and the rows written so far, and give the rows written after; only
`deactivateOtherVersions` gives a new store as well. -/

namespace Tables

def insertFile (work : Tables) (file : FileEntity) : Tables :=
  { work with files := work.files.write file }

/-- `UPDATE files … WHERE file_id AND status`: the row is copied even when the status is another. -/
def setFileStatus (store work : Tables) (fileId : String) (expected new : FileStatus) :
    Bool × Tables :=
  match (store.merge work).files.find fileId with
  | none => (false, work)
  | some file =>
    if file.status = expected then
      (true, { work with files := work.files.write { file with status := new } })
    else (false, { work with files := work.files.write file })

/-- `create_transfer`. -/
def insertTransfer (work : Tables) (transfer : FileTransferEntity) : Tables :=
  { work with transfers := work.transfers.write transfer }

def updateTransfer (store work : Tables) (transferId : String)
    (f : FileTransferEntity → FileTransferEntity) : Tables :=
  match (store.merge work).findTransfer transferId with
  | none => work
  | some transfer => { work with transfers := work.transfers.write (f transfer) }

def updateTransferStatus (store work : Tables) (transferId : String) (status : TransferStatus) :
    Tables :=
  store.updateTransfer work transferId fun transfer => { transfer with status }

/-- `increment_chunk_progress`. -/
def incrementChunkProgress (store work : Tables) (transferId : String) (bytesAdded : Int) : Tables :=
  store.updateTransfer work transferId fun transfer =>
    { transfer with
      acceptedChunks := transfer.acceptedChunks + 1
      transferredBytes := transfer.transferredBytes + bytesAdded }

/-- `INSERT INTO file_versions`, with the unique constraint on file and number. -/
def insertVersion (store work : Tables) (version : FileVersionEntity) :
    Except FilesException Tables :=
  if ((store.merge work).versions.find version.key).isSome then .error
    { kind := .uniqueConstraintViolation
      what := s!"Version {version.versionNumber} already exists for file {version.fileId}" }
  else .ok { work with versions := work.versions.write version }

/-- One row after `UPDATE file_versions SET is_active = FALSE … AND version_number != $2`. -/
def deactivated (fileId : String) (versionNumber : Int) (v : FileVersionEntity) : FileVersionEntity :=
  if v.fileId = fileId ∧ v.versionNumber ≠ versionNumber then { v with isActive := false } else v

theorem deactivated_key (fileId : String) (versionNumber : Int) (v : FileVersionEntity) :
    (deactivated fileId versionNumber v).key = v.key := by
  unfold deactivated
  split <;> rfl

/-- The statement that does not wait for its commit: the store's rows lose the mark, are copied,
and then the transaction's own rows lose it. -/
def deactivateOtherVersions (store work : Tables) (fileId : String) (versionNumber : Int) :
    Tables × Tables :=
  let clear := fun t : Keyed FileVersionEntity.key =>
    t.modify (deactivated fileId versionNumber) (deactivated_key fileId versionNumber)
  let hit := store.versions.restrict fun v =>
    v.fileId = fileId ∧ v.versionNumber ≠ versionNumber ∧ v.isActive
  ({ store with versions := clear store.versions },
    { work with versions := clear (work.versions.merge hit) })

/-- `INSERT INTO file_chunks … ON CONFLICT DO NOTHING`: whether the row was inserted. -/
def insertChunk (store work : Tables) (chunk : FileChunkEntity) : Bool × Tables :=
  if ((store.merge work).chunks.find chunk.key).isSome then (false, work)
  else (true, { work with chunks := work.chunks.write chunk })

def insertGrant (work : Tables) (grant : FileAccessEntity) : Tables :=
  { work with access := work.access.write grant }

/-- `UPDATE file_access SET revoked_at … AND revoked_at IS NULL`: the row is copied in any case. -/
def revokeGrant (store work : Tables) (now : TimePoint) (fileId userId : String) : Bool × Tables :=
  match (store.merge work).access.find (fileId, userId) with
  | none => (false, work)
  | some grant =>
    if grant.revokedAt.isNone then
      (true, { work with access := work.access.write { grant with revokedAt := some now } })
    else (false, { work with access := work.access.write grant })

end Tables

/-! ## Objects -/

abbrev Objects := ObjectKey → Option Bytes

namespace Objects

variable (o : Objects) (key : ObjectKey)

def put (payload : Bytes) : Objects :=
  Function.update o key (some payload)

def delete : Objects := Function.update o key none

/-- `get_object`; with a byte range both ends are included and the end is cut to the object. -/
def get : Except FilesException Bytes :=
  match o key with
  | none => .error { kind := .s3ObjectNotFound, what := s!"Object not found: {key.text}" }
  | some body => .ok body

def getRange (startByte endByte : Nat) : Except FilesException Bytes := do
  let body ← o.get key
  if startByte < body.length then .ok ((body.drop startByte).take (endByte - startByte + 1))
  else .error { kind := .s3Client, what := "Unexpected S3 GET response status: 416" }

end Objects

end SecureCloud.Files
