import SecureCloud.Files.Finalization
import SecureCloud.Files.Download
import SecureCloud.Files.Upload

/-
# Files.Lifecycle — versions, transitions, deletion, expiry and grants

The rest of `FileLifecycleService` and `FileAccessRepository`, and all calls of the file service as jobs
that run side by side. EVERY CALL CHECKS A TRANSITION before it asks for it, and the store checks that the
status is the expected one. Neither check is repeated at the commit, which writes the whole row.
-/

namespace SecureCloud.Files

open Lib.Program Lib.Checks List

/-! ## Who may do what -/

def checkOwnershipOrAccess (file : FileEntity) (callerUserId : String) (permission : FilePermission) :
    Program Bool :=
  if DownloadManager.isTrustedPeer callerUserId = true ∨ file.ownerUserId = callerUserId then pure true
  else DownloadManager.checkAccess file.fileId callerUserId permission

def assertValidStateTransition (current next : FileStatus) : Program Unit :=
  check (isValidStateTransition current next = true) .invalidLifecycleTransition
    s!"Invalid file lifecycle state transition from {current.toString} to {next.toString}"

/-! ## Versions by hand -/

structure CreateFileVersionRequestDto where
  fileId : String
  versionNumber : Int := 1
  encryptedSizeBytes : Nat
  minioObjectKey : String
  checksumSha256 : String

def validateCreateVersionRequest (dto : CreateFileVersionRequestDto) : Except String Unit := do
  require (isValidUuid dto.fileId = true) s!"file_id is not a valid UUIDv7 format: {dto.fileId}"
  require (0 < dto.versionNumber) "version_number must be greater than zero"
  require (dto.encryptedSizeBytes ≠ 0) "encrypted_size_bytes must be greater than zero"
  require (dto.encryptedSizeBytes ≤ kMaxFileSizeBytes)
    "encrypted_size_bytes exceeds maximum allowed limit (5 GiB)"
  require (dto.minioObjectKey ≠ "") "minio_object_key must not be empty"
  require (¬ (FileCapabilityManager.mentions dto.minioObjectKey ".." = true ∨
      dto.minioObjectKey.toList.head? = some '/'))
    s!"minio_object_key contains invalid path traversal or leading slash: {dto.minioObjectKey}"
  require (isValidSha256Hex dto.checksumSha256 = true)
    s!"checksum_sha256 must be a valid 64-hex SHA-256 digest: {dto.checksumSha256}"

namespace FileLifecycleService

/-- The number a new version gets: the one asked for if it is above all others, else the next. -/
def assignedVersion (requested : Int) (existing : List FileVersionEntity) : Int :=
  let maxVer := existing.foldl (fun n v => max n v.versionNumber) 0
  if requested > maxVer then requested else (maxVer + 1).bmod (2 ^ 32)

/-- `create_file_version`. The object is whatever the caller says, and is not looked at. -/
def createFileVersion (dto : CreateFileVersionRequestDto) (callerUserId : String) :
    Program FileVersionEntity := do
  rethrow ((validateCreateVersionRequest dto).mapError fun what =>
    ⟨.fileLifecycleValidation, s!"Validation failed for CreateFileVersionRequest: {what}"⟩)
  let found ← query {} (.file dto.fileId)
  let file ← orThrow .fileNotFound s!"File not found: {dto.fileId}" found
  let permitted ← checkOwnershipOrAccess file callerUserId .write
  check (permitted = true) .unauthorizedFileAccess
    s!"Caller '{callerUserId}' is not authorized to create versions for file '{dto.fileId}'"
  let existing ← query {} (.versions dto.fileId)
  check (∀ v ∈ existing, v.minioObjectKey = dto.minioObjectKey → v.checksumSha256 = dto.checksumSha256)
    .immutableVersion
    s!"Attempted mutation of existing completed version object key '{dto.minioObjectKey}'"
  let now ← perform .clock
  let version : FileVersionEntity :=
    { fileId := dto.fileId, versionNumber := assignedVersion dto.versionNumber existing
      encryptedSize := dto.encryptedSizeBytes, minioObjectKey := dto.minioObjectKey
      checksumSha256 := dto.checksumSha256, createdAt := storedTime now, isActive := true }
  let work ← createVersion {} version
  perform (.commit work)
  return { version with createdAt := now }

/-! ## Transitions -/

/-- `transition_lifecycle`: a status that is not the expected one is reported, not thrown. -/
def transitionLifecycle (fileId : String) (expectedCurrent newStatus : FileStatus)
    (callerUserId : String) : Program Bool := do
  assertValidStateTransition expectedCurrent newStatus
  let found ← query {} (.file fileId)
  let file ← orThrow .fileNotFound s!"File not found for lifecycle transition: {fileId}" found
  let permitted ← checkOwnershipOrAccess file callerUserId .write
  check (permitted = true) .unauthorizedFileAccess
    s!"Caller '{callerUserId}' is not authorized to transition file '{fileId}'"
  let (updated, work) ← tryUpdateFileStatus {} fileId expectedCurrent newStatus
  if updated then do
    perform (.commit work)
    return true
  else return false

/-- `delete_file`; a file that is deleted already counts as deleted. -/
def deleteFile (fileId callerUserId : String) : Program Bool := do
  let found ← query {} (.file fileId)
  let file ← orThrow .fileNotFound s!"File not found for deletion: {fileId}" found
  let permitted ← checkOwnershipOrAccess file callerUserId .write
  check (permitted = true) .unauthorizedFileAccess
    s!"Caller '{callerUserId}' is not authorized to delete file '{fileId}'"
  if file.status = .deleted then return true
  else do
    assertValidStateTransition file.status .deleted
    let (updated, work) ← tryUpdateFileStatus {} fileId file.status .deleted
    if updated then do
      perform (.commit work)
      return true
    else return false

def expireEach : List FileEntity → Tables → Nat → Program (Nat × Tables)
  | [], work, count => pure (count, work)
  | file :: rest, work, count =>
    if isValidStateTransition file.status .expired then do
      let (updated, work) ← tryUpdateFileStatus work file.fileId file.status .expired
      expireEach rest work (if updated then count + 1 else count)
    else expireEach rest work count

/-- `evaluate_and_expire_files`: one transaction for the whole batch. -/
def evaluateAndExpireFiles (now : TimePoint) (batchSize : Nat) : Program Nat := do
  let due ← query {} (.expiredFiles now batchSize)
  let (count, work) ← expireEach due {} 0
  perform (.commit work)
  return count

end FileLifecycleService

/-! ## Grants -/

namespace FileAccessRepository

def grantAccess (grant : FileAccessEntity) : Program Unit := do
  check (grant.fileId ≠ "") .repository "File ID cannot be empty"
  check (grant.granteeUserId ≠ "") .repository "Grantee user ID cannot be empty"
  perform (.commit (({} : Tables).insertGrant grant))

def revokeAccess (fileId userId : String) : Program Bool :=
  if fileId = "" ∨ userId = "" then pure false
  else do
    let now ← perform .clock
    let (revoked, work) ← stage {} (.revokeGrant (storedTime now) fileId userId)
    if revoked then do
      perform (.commit work)
      return true
    else return false

end FileAccessRepository

/-! ## The calls side by side -/

inductive Job
  | createFile (dto : CreateFileRequestDto) (now : TimePoint)
  | createSession (uploadId fileId ownerUserId : String) (expectedChunkCount encryptedSizeBytes : Nat)
  | cancelSession (uploadId : String)
  | uploadChunk (request : UploadChunkRequest)
  | finalizeFileUpload (request : FinalizeUploadRequestDto)
  | createFileVersion (dto : CreateFileVersionRequestDto) (callerUserId : String)
  | transitionLifecycle (fileId : String) (expectedCurrent newStatus : FileStatus)
      (callerUserId : String)
  | deleteFile (fileId callerUserId : String)
  | evaluateAndExpireFiles (now : TimePoint) (batchSize : Nat)
  | grantAccess (grant : FileAccessEntity)
  | revokeAccess (fileId userId : String)
  | markDeviceRevoked (deviceId : String)
  | clearRevocation (deviceId : String)
  | downloadChunk (request : DownloadChunkRequest)

inductive Reply
  | done
  | named (r : Except FilesException String)
  | settled (r : Except FilesException Bool)
  | counted (r : Except FilesException Nat)
  | stored (r : Except GrpcStatus ChunkStoreResult)
  | finalized (r : Except FilesException FinalizeUploadResultDto)
  | versioned (r : Except FilesException FileVersionEntity)
  | served (r : Except GrpcStatus DownloadChunkResponse)

section
variable (sha256Hex : Bytes → String) (service : FilesService)

def Job.program : Job → Prog Statement Statement.Resp Reply
  | createFile dto now => do return .named (← (Files.createFile dto now).run)
  | createSession uploadId fileId ownerUserId chunks size => do
    return .named (← (UploadSessionManager.createSession uploadId fileId ownerUserId chunks size).run)
  | cancelSession uploadId => do return .settled (← (UploadSessionManager.cancelSession uploadId).run)
  | uploadChunk request => do return .stored (← FilesService.uploadChunk sha256Hex service request)
  | finalizeFileUpload request => do
    return .finalized (← (FileFinalizationService.finalizeFileUpload sha256Hex request).run)
  | createFileVersion dto caller => do
    return .versioned (← (FileLifecycleService.createFileVersion dto caller).run)
  | transitionLifecycle fileId expected new caller => do
    return .settled (← (FileLifecycleService.transitionLifecycle fileId expected new caller).run)
  | deleteFile fileId caller => do
    return .settled (← (FileLifecycleService.deleteFile fileId caller).run)
  | evaluateAndExpireFiles now batchSize => do
    return .counted (← (FileLifecycleService.evaluateAndExpireFiles now batchSize).run)
  | grantAccess grant => do
    let _ ← (FileAccessRepository.grantAccess grant).run
    return .done
  | revokeAccess fileId userId => do
    return .settled (← (FileAccessRepository.revokeAccess fileId userId).run)
  | markDeviceRevoked deviceId => do
    Prog.perform (Statement.markDeviceRevoked deviceId)
    return .done
  | clearRevocation deviceId => do
    Prog.perform (Statement.clearRevocation deviceId)
    return .done
  | downloadChunk request => do return .served (← FilesService.downloadChunk sha256Hex service request)

abbrev Engine (ι : Type) :=
  Lib.Interleaving.Config ι (Call Statement Statement.Resp Env World Reply) World

def Engine.start {ι : Type} (jobs : ι → Job) (w : World) : Engine ι :=
  ⟨fun i => Call.start ((jobs i).program sha256Hex service), w⟩

end

/-! ## A file of one octet

One file, one upload session and one chunk, for the runs that show how the calls get in each other's way.
The digest is the same for all octets. -/

namespace OneOctet

def fileId : String := "00000000-0000-7000-8000-0000000000f1"
def uploadId : String := "00000000-0000-7000-8000-0000000000e1"
def ownerUserId : String := "00000000-0000-7000-8000-0000000000a1"

def sha256Hex (_ : Bytes) : String := String.ofList (List.replicate 64 '0')

def service : FilesService where
  codec :=
    { keyId := "", sign := fun _ => "", verify := fun _ _ => false, encode := id, decode := fun _ => none
      dump := fun _ => "", parse := fun _ => .error "", typeError := fun _ _ => "" }

def creation : CreateFileRequestDto where
  fileId
  ownerUserId
  ownerDeviceId := "00000000-0000-7000-8000-0000000000d1"
  encryptedSizeBytes := 1
  expectedChunkCount := 1
  encryptedFilename := [1]
  metadataNonce := List.replicate 24 0
  metadataTag := List.replicate 16 0

def chunk : UploadChunkRequest where
  peer := some (some "gateway")
  payload :=
    { uploadId, chunkIndex := 0, encryptedData := [7], chunkSizeBytes := 1, claimedSha256 := sha256Hex [] }

def jobs : Nat → Job
  | 0 => .createFile creation 0
  | 1 => .createSession uploadId fileId ownerUserId 1 1
  | 2 => .uploadChunk chunk
  | 3 => .finalizeFileUpload { uploadId }
  | _ => .deleteFile fileId ""

def moves (call n : Nat) : List (Nat × Env) := List.replicate n (call, { now := 0 })

def start : Engine Nat := .start sha256Hex service jobs { tables := {} }

def status (ms : List (Nat × Env)) : Option FileStatus :=
  (Lib.Interleaving.run (Call.advance Statement.exec) start ms).bind fun d =>
    (d.shared.tables.files.find fileId).map FileEntity.status

def uploaded : List (Nat × Env) := moves 0 2 ++ moves 1 2 ++ moves 2 13

end OneOctet

/-! ## Expiry -/

namespace FileLifecycleService

open Lib.Program Lib.Program.Protocol Lib.Table

/-- Past its retention, and not deleted: what `find_expired_files` selects, before its limit. -/
def due (now : TimePoint) (f : FileEntity) : Bool :=
  f.retentionUntil.any (fun time => decide (time ≤ storedTime now)) ∧ f.status ≠ .deleted

/-- The file is past its retention and may expire. -/
def overdue (now : TimePoint) (f : FileEntity) : Bool := due now f && isValidStateTransition f.status .expired

/-- The files that should expire. -/
def overdueFiles (now : TimePoint) (w : World) : Finset String :=
  ((w.tables.files.rows.filter (overdue now)).map FileEntity.fileId).toFinset

section
variable {now : TimePoint} {batchSize : Nat} {w w' : World} {work : Tables} {count : Nat} {f : FileEntity}
  {files : List FileEntity}

theorem mem_findExpiredFiles (h : f ∈ w.tables.findExpiredFiles now batchSize) :
    f ∈ w.tables.files.rows ∧ due now f = true :=
  mem_filter.mp ((mem_insertionSort _).mp (mem_of_mem_take h))

theorem mem_overdueFiles {id : String} :
    id ∈ overdueFiles now w ↔ ∃ f, w.tables.files.find id = some f ∧ overdue now f = true := by
  simp only [overdueFiles, mem_toFinset, mem_map, mem_filter, Keyed.mem_rows_iff]
  constructor
  · rintro ⟨f, ⟨hf, hdue⟩, rfl⟩
    exact ⟨f, hf, hdue⟩
  · rintro ⟨f, hf, hdue⟩
    obtain rfl : f.fileId = id := Keyed.key_of_find hf
    exact ⟨f, ⟨hf, hdue⟩, rfl⟩

/-- What the batch has staged when it has counted `count` files of those that may expire (`P`): files marked
expired, beside copies of rows. -/
structure Marked (P : FileEntity → Prop) (w : World) (count : Nat) (work : Tables) : Prop where
  nothing : count = 0 → work = {}
  marks : ∀ id f, work.files.find id = some f → f.status = .expired ∨ w.tables.files.find id = some f
  counted : count ≠ 0 → ∃ f g, w.tables.files.find f.fileId = some f ∧ P f ∧
    work.files.find f.fileId = some g ∧ g.status = .expired

/-- One more file of the batch is written as expired. -/
theorem Marked.write {P : FileEntity → Prop} {g : FileEntity} {n : Nat} (h : Marked P w count work)
    (hP : P f) (hf : w.tables.files.find f.fileId = some f) (hid : g.fileId = f.fileId)
    (hexpired : g.status = .expired) (hn : n ≠ 0) :
    Marked P w n { work with files := work.files.write g } where
  nothing hzero := absurd hzero hn
  marks id g' hg' := by
    rw [Keyed.find_write] at hg'
    split at hg'
    · cases hg'
      exact .inl hexpired
    · exact h.marks id g' hg'
  counted _ := ⟨f, g, hf, hP, hid ▸ work.files.find_write_self g, hexpired⟩

theorem Marked.stage {P : FileEntity → Prop} (h : Marked P w count work) (hP : P f)
    (hf : w.tables.files.find f.fileId = some f) (hvalid : isValidStateTransition f.status .expired = true) :
    let r := w.tables.setFileStatus work f.fileId f.status .expired
    Marked P w (if r.1 then count + 1 else count) r.2 ∧ (count = 0 → r.1 = true) := by
  unfold Tables.setFileStatus
  have hfound : (w.tables.merge work).files.find f.fileId = (work.files.find f.fileId).or (some f) := by
    rw [← hf]
    exact Keyed.find_merge _ _ _
  rw [hfound]
  by_cases hsame : (work.files.find f.fileId).or (some f) = some f
  · rw [hsame]
    simp only [if_true, implies_true, and_true]
    exact h.write hP hf rfl rfl (Nat.succ_ne_zero _)
  -- the row has been marked before, so something has been counted
  obtain ⟨g, hg⟩ : ∃ g, work.files.find f.fileId = some g := by
    cases hwork : work.files.find f.fileId with
    | none => exact absurd (by rw [hwork]; rfl) hsame
    | some g => exact ⟨g, rfl⟩
  have hexpired : g.status = .expired := by
    rcases h.marks _ g hg with hexpired | hcopy
    · exact hexpired
    · rw [hf] at hcopy
      rw [hg, ← Option.some.inj hcopy] at hsame
      exact absurd rfl hsame
  have hne : g.status ≠ f.status := by
    intro heq
    rw [← heq, hexpired] at hvalid
    cases hvalid
  have hpos : count ≠ 0 := by
    intro hzero
    rw [h.nothing hzero] at hg
    cases hg
  rw [hg]
  simp only [Option.some_or, if_neg hne]
  exact ⟨h.write hP hf (Keyed.key_of_find hg) hexpired hpos, fun hzero => absurd hzero hpos⟩

theorem expireEach_marked {past : List (Step Statement Env World)}
    (hread : ∀ f ∈ files, f ∈ w.tables.findExpiredFiles now batchSize)
    (h : Marked (fun f => overdue now f = true) w count work) :
    alone.SatE Statement.exec (fun _ r w' => w' = w ∧
        Marked (fun f => overdue now f = true) w r.1 r.2 ∧
        (r.1 = 0 ↔ count = 0 ∧ ∀ f ∈ files, isValidStateTransition f.status .expired = false))
      (fun _ _ _ => True) (expireEach files work count) past w := by
  induction files generalizing work count past with
  | nil => exact solo_pure ⟨rfl, h, by simp⟩
  | cons file rest ih =>
    rw [forall_mem_cons] at hread
    unfold expireEach
    split
    next hvalid =>
      obtain ⟨hrow, hdue⟩ := mem_findExpiredFiles hread.1
      have hoverdue : overdue now file = true := by simp [overdue, hdue, hvalid]
      rw [tryUpdateFileStatus, check, if_pos hvalid]
      refine satE_bind (satE_lift (solo_perform ?_))
      rintro x r w' hexec -
      cases hexec
      obtain ⟨hmarked, hfirst⟩ := h.stage hoverdue (Keyed.mem_rows_iff.mp hrow) hvalid
      refine satE_mono ?_ (ih hread.2 hmarked)
      rintro past r w' - hpost
      obtain ⟨rfl, hend, hzero⟩ := hpost w' rfl trivial
      refine ⟨rfl, hend, ?_⟩
      have hcount : (if (w'.tables.setFileStatus work file.fileId file.status .expired).1 then count + 1
          else count) ≠ 0 := by
        split
        · exact Nat.succ_ne_zero _
        next hnot => exact fun hcount => hnot (hfirst hcount)
      refine hzero.trans (iff_of_false (fun h => hcount h.1) fun h => ?_)
      have hnot := h.2 file mem_cons_self
      rw [hvalid] at hnot
      cases hnot
    next hinvalid =>
      refine satE_mono ?_ (ih hread.2 h)
      rintro past r w' - hpost
      obtain ⟨rfl, hend, hzero⟩ := hpost w' rfl trivial
      refine ⟨rfl, hend, ?_⟩
      rw [hzero, forall_mem_cons]
      simp [hinvalid]

/-- **A whole call**: 0 if no candidate of the batch may expire, and then nothing changes; else fewer files
are left that should expire. -/
theorem evaluateAndExpireFiles_eval {xs : List Env} {n : Nat}
    (heval : (evaluateAndExpireFiles now batchSize).run.eval Statement.exec xs w = some (.ok n, w')) :
    (n = 0 ↔ ∀ f ∈ w.tables.findExpiredFiles now batchSize,
      isValidStateTransition f.status .expired = false) ∧ (n = 0 → w' = w) ∧
    (n ≠ 0 → overdueFiles now w' ⊂ overdueFiles now w) := by
  have hsat : alone.SatE Statement.exec (fun _ n w' => (n = 0 ↔
        ∀ f ∈ w.tables.findExpiredFiles now batchSize, isValidStateTransition f.status .expired = false) ∧
        ∃ work, w' = { w with tables := w.tables.merge work } ∧
          Marked (fun f => overdue now f = true) w n work)
      (fun _ _ _ => True) (evaluateAndExpireFiles now batchSize) [] w := by
    refine satE_bind (satE_lift (solo_perform ?_))
    rintro x r w₁ hexec -
    cases hexec
    refine satE_bind (satE_mono ?_ (expireEach_marked (fun _ hf => hf) ⟨fun _ => rfl, nofun, by simp⟩))
    rintro past ⟨count, work⟩ w₁ - hpost
    obtain ⟨rfl, hmarked, hzero⟩ := hpost w₁ rfl trivial
    refine satE_bind (satE_lift (solo_perform ?_))
    rintro x r w₂ hexec -
    cases hexec
    exact solo_pure ⟨hzero.trans (and_iff_right rfl), work, rfl, hmarked⟩
  obtain ⟨hzero, work, rfl, hmarked⟩ := Prog.eval_of_sat hsat (fun _ _ => trivial) heval
  refine ⟨hzero, fun hn => ?_, fun hn => Finset.ssubset_iff_subset_ne.mpr ⟨fun id hid => ?_, fun heq => ?_⟩⟩
  · rw [hmarked.nothing hn]
    rfl
  · obtain ⟨f, hf, hoverdue⟩ := mem_overdueFiles.mp hid
    refine mem_overdueFiles.mpr ⟨f, ?_, hoverdue⟩
    rw [show ({ w with tables := w.tables.merge work } : World).tables.files.find id = _ from
      Keyed.find_merge _ _ _] at hf
    cases hwork : work.files.find id with
    | none => rwa [hwork] at hf
    | some g =>
      rw [hwork] at hf
      cases hf
      rcases hmarked.marks id f hwork with hexpired | hcopy
      · simp [overdue, hexpired, isValidStateTransition] at hoverdue
      · exact hcopy
  · obtain ⟨f, g, hf, hoverdue, hg, hexpired⟩ := hmarked.counted hn
    have hmem := mem_overdueFiles.mpr ⟨f, hf, hoverdue⟩
    rw [← heq] at hmem
    obtain ⟨g', hg', hstill⟩ := mem_overdueFiles.mp hmem
    rw [show ({ w with tables := w.tables.merge work } : World).tables.files.find f.fileId = _ from
      Keyed.find_merge _ _ _, hg] at hg'
    cases hg'
    simp [overdue, hexpired, isValidStateTransition] at hstill

end

/-- `k` calls, one after the other, each of which has returned more than 0. -/
inductive Repeated (now : TimePoint) (batchSize : Nat) (w : World) : Nat → World → Prop
  | start : Repeated now batchSize w 0 w
  | call {k n : Nat} {w₁ w₂ : World} {xs : List Env} (h : Repeated now batchSize w k w₁)
      (heval : (evaluateAndExpireFiles now batchSize).run.eval Statement.exec xs w₁ =
        some (.ok (n + 1), w₂)) : Repeated now batchSize w (k + 1) w₂

theorem Repeated.overdueFiles_card {now : TimePoint} {batchSize k : Nat} {w w' : World}
    (h : Repeated now batchSize w k w') :
    k + (overdueFiles now w').card ≤ (overdueFiles now w).card := by
  induction h with
  | start => exact (Nat.zero_add _).le
  | call _ heval ih =>
    have hless := Finset.card_lt_card ((evaluateAndExpireFiles_eval heval).2.2 (Nat.succ_ne_zero _))
    omega

def dueFiles : World where
  tables.files := ((Keyed.empty.write ⟨"a", "", 1, .available, some 1000⟩).write
    ⟨"b", "", 1, .available, some 2000⟩).write ⟨"c", "", 1, .available, none⟩

def expireAt (now : TimePoint) (batchSize : Nat) (w : World) : Option (Except FilesException Nat × World) :=
  (evaluateAndExpireFiles now batchSize).run.eval Statement.exec (List.replicate 4 ⟨now, .done⟩) w

end FileLifecycleService

end SecureCloud.Files
