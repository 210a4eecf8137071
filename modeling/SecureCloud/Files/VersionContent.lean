import SecureCloud.Files.QuietCalls

/-
# Files.VersionContent — where versions and their objects come from

A version row that a call commits is A COPY of a row it has met in the store, or its OWN WORK: it has read
the session and its chunks, put the octets under the version's key and computed the checksum from them.

These are obligations on the past of a call (`ContentOwed`); the one call that does not meet them is
`create_file_version`, which records a key and a checksum that it was handed.
-/

namespace SecureCloud.Files

open Lib.Program Lib.Table Tables
open ObjectAssemblyEngine (Concatenates)

def ObjectKey.isStaging : ObjectKey → Bool
  | staging _ _ => true
  | version _ _ => false

/-! ## What a call has done for a version -/

def Statement.putsVersion : Statement → Bool
  | .putObject (.version _ _) _ => true
  | _ => false

def PutVersion (past : Past) (fileId : String) (versionNumber : Int) (content : Bytes) : Prop :=
  ∃ st ∈ past, st.stmt = .putObject (.version fileId versionNumber) content ∧ st.env.s3 = .done

def ReadSession (past : Past) (uploadId fileId : String) : Prop :=
  ∃ st ∈ past, ∃ transfer, st.before.tables.findTransfer uploadId = some transfer ∧
    transfer.fileId = fileId

def CopiedVersion (past : Past) (v : FileVersionEntity) : Prop :=
  ∃ st ∈ past, ∃ u, st.before.tables.versions.find v.key = some u ∧
    u.checksumSha256 = v.checksumSha256 ∧ u.minioObjectKey = v.minioObjectKey

def CommittedVersion (past : Past) (v : FileVersionEntity) : Prop :=
  ∃ st ∈ past, ∃ work, st.stmt = .commit work ∧ work.versions.find v.key = some v

section
variable (sha256Hex : Bytes → String)

def ReadChunks (past : Past) (uploadId : String) (content : Bytes) : Prop :=
  ∃ st ∈ past, ∃ work, st.stmt = .select work (.chunks uploadId) ∧ Concatenates sha256Hex
      (FinalizationValidator.sortedChunks (st.before.tables.listChunksForTransfer uploadId)) content

/-- The version is the call's own work. -/
def Made (past : Past) (v : FileVersionEntity) : Prop :=
  ∃ uploadId content, v.checksumSha256 = sha256Hex content ∧
    v.minioObjectKey = (ObjectKey.version v.fileId v.versionNumber).text ∧
    PutVersion past v.fileId v.versionNumber content ∧ ReadSession past uploadId v.fileId ∧
    ReadChunks sha256Hex past uploadId content

/-- What a call owes: versions it commits are made or copied, chunks lie under staging keys, it puts
one version, it removes objects of chunks only. -/
def ContentOwed (past : Past) : Statement → Prop
  | .commit work =>
    (∀ k v, work.versions.find k = some v →
      (Made sha256Hex past v ∨ CopiedVersion past v) ∧ work.chunks = .empty) ∧
    ∀ k c, work.chunks.find k = some c → c.minioChunkKey.isStaging = true
  | .putObject (.version _ _) _ => ∀ st ∈ past, st.stmt.putsVersion = false
  | .deleteObject key => ∃ st ∈ past, ∃ c ∈ st.before.tables.chunks.rows, c.minioChunkKey = key
  | _ => True

end

section
variable {past past' : Past} {fileId uploadId : String} {versionNumber : Int} {content : Bytes}
  {v : FileVersionEntity} {sha256Hex : Bytes → String}

section
variable (h : past ⊆ past')
include h

theorem PutVersion.mono : PutVersion past fileId versionNumber content →
    PutVersion past' fileId versionNumber content :=
  fun ⟨st, hst, hrest⟩ => ⟨st, h hst, hrest⟩

theorem ReadSession.mono : ReadSession past uploadId fileId →
    ReadSession past' uploadId fileId :=
  fun ⟨st, hst, hrest⟩ => ⟨st, h hst, hrest⟩

theorem CopiedVersion.mono : CopiedVersion past v → CopiedVersion past' v :=
  fun ⟨st, hst, hrest⟩ => ⟨st, h hst, hrest⟩

theorem ReadChunks.mono : ReadChunks sha256Hex past uploadId content →
    ReadChunks sha256Hex past' uploadId content :=
  fun ⟨st, hst, hrest⟩ => ⟨st, h hst, hrest⟩

theorem Made.mono : Made sha256Hex past v → Made sha256Hex past' v :=
  fun ⟨uploadId, content, hsum, hkey, hput, hsession, hchunks⟩ =>
    ⟨uploadId, content, hsum, hkey, hput.mono h, hsession.mono h, hchunks.mono h⟩

end

end

/-! ## Statements that leave contents alone -/

variable {sha256Hex : Bytes → String}

theorem Statement.Quiet.contentOwed {past : Past} {l : Statement}
    (h : l.Quiet) : ContentOwed sha256Hex past l := by
  unfold ContentOwed
  split
  · obtain ⟨-, hversions, hchunks⟩ := h
    rw [hversions, hchunks]
    exact ⟨nofun, nofun⟩
  · exact h.elim
  · exact h.elim
  · trivial

def Unput (past : Past) : Prop := ∀ st ∈ past, st.stmt.putsVersion = false

theorem unput_nil : Unput [] := fun _ h => absurd h List.not_mem_nil

theorem Unput.cons {past : Past} {st : Step Statement Env World} (h : Unput past)
    (hst : st.stmt.putsVersion = false) : Unput (st :: past) := by
  intro st' hst'
  rcases List.mem_cons.mp hst' with rfl | hst'
  · exact hst
  · exact h st' hst'

theorem Statement.Quiet.not_putsVersion {l : Statement} (h : l.Quiet) : l.putsVersion = false := by
  unfold Statement.putsVersion
  split
  · exact h.elim
  · rfl

/-! ## Transactions -/

section
variable {past : Past} {store work : Tables}

theorem setFileStatus_eq {fileId : String} {expected new : FileStatus} :
    ∃ files, (store.setFileStatus work fileId expected new).2 = { work with files } := by
  unfold setFileStatus
  split
  · exact ⟨work.files, rfl⟩
  · split <;> exact ⟨_, rfl⟩

def ChunksStaged (work : Tables) : Prop :=
  ∀ k c, work.chunks.find k = some c → c.minioChunkKey.isStaging = true

theorem contentOwed_of_chunks (hversions : work.versions = .empty) (hchunks : ChunksStaged work) :
    ContentOwed sha256Hex past (.commit work) := by
  refine ⟨?_, hchunks⟩
  rw [hversions]
  exact nofun

variable {fileId : String} {v version : FileVersionEntity}

theorem deactivated_sum {n : Int} : (deactivated fileId n v).checksumSha256 = v.checksumSha256 ∧
      (deactivated fileId n v).minioObjectKey = v.minioObjectKey := by
  unfold deactivated
  split <;> exact ⟨rfl, rfl⟩

theorem find_deactivateOtherVersions {n : Int} {k : String × Int}
    (h : (store.deactivateOtherVersions work fileId n).2.versions.find k = some v) :
    ∃ u, v = deactivated fileId n u ∧
      (work.versions.find k = some u ∨ store.versions.find k = some u) := by
  unfold deactivateOtherVersions at h
  rw [Keyed.find_modify] at h
  obtain ⟨u, hu, rfl⟩ := Option.map_eq_some_iff.mp h
  refine ⟨u, rfl, ?_⟩
  rw [Keyed.find_merge, Keyed.find_restrict] at hu
  rcases Option.or_eq_some_iff.mp hu with hstore | ⟨-, hwork⟩
  · exact .inr (Option.filter_eq_some_iff.mp hstore).1
  · exact .inl hwork

theorem find_deactivateOtherVersions_self (h : work.versions.find version.key = some version) :
    (store.deactivateOtherVersions work version.fileId version.versionNumber).2.versions.find version.key =
      some version := by
  unfold deactivateOtherVersions
  rw [Keyed.find_modify, Keyed.find_merge, Keyed.find_restrict, h]
  -- the store's row of that number is not among the others
  have hnone : (store.versions.find version.key).filter (fun v => decide (v.fileId = version.fileId ∧
      v.versionNumber ≠ version.versionNumber ∧ v.isActive)) = none := by
    refine Option.filter_eq_none_iff.mpr fun v hv => ?_
    have hkey : v.key = version.key := Keyed.key_of_find hv
    simp [(Prod.mk.inj hkey).2]
  rw [hnone]
  simp [deactivated]

structure Recorded (past : Past) (work : Tables) (version : FileVersionEntity) : Prop where
  found : work.versions.find version.key = some version
  others : ∀ k v, work.versions.find k = some v → v = version ∨ CopiedVersion past v
  noChunks : work.chunks = .empty

theorem Recorded.mono {past' : Past} {work' : Tables}
    (h : Recorded past work version) (hpast : past ⊆ past') (hversions : work'.versions = work.versions)
    (hchunks : work'.chunks = work.chunks) : Recorded past' work' version := by
  refine ⟨by rw [hversions]; exact h.found, ?_, hchunks.trans h.noChunks⟩
  intro k v hv
  rw [hversions] at hv
  exact (h.others k v hv).imp_right (CopiedVersion.mono hpast)

theorem Recorded.owed (h : Recorded past work version)
    (hmade : Made sha256Hex past version) : ContentOwed sha256Hex past (.commit work) := by
  refine ⟨fun k v hv => ⟨?_, h.noChunks⟩, ?_⟩
  · rcases h.others k v hv with rfl | hcopied
    · exact .inl hmade
    · exact .inr hcopied
  intro k c hc
  rw [h.noChunks] at hc
  exact nomatch hc

theorem mem_rows_of_listed {transferId : String} {c : FileChunkEntity}
    (h : c ∈ store.listChunksForTransfer transferId) : c ∈ store.chunks.rows := by
  unfold listChunksForTransfer at h
  split at h
  · exact nomatch h
  · exact (List.mem_filter.mp ((List.perm_insertionSort _ _).mem_iff.mp h)).1

theorem fileId_of_findFile {file : FileEntity} (h : store.findFile fileId = some file) :
    file.fileId = fileId := by
  unfold findFile at h
  split at h
  · cases h
  · exact Keyed.key_of_find h

theorem transferId_of_findTransfer {transferId : String} {transfer : FileTransferEntity}
    (h : store.findTransfer transferId = some transfer) : transfer.transferId = transferId := by
  unfold findTransfer at h
  split at h
  · cases h
  · exact Keyed.key_of_find h

theorem listChunksForTransfer_merge (h : work.chunks = .empty) (transferId : String) :
    (store.merge work).listChunksForTransfer transferId = store.listChunksForTransfer transferId := by
  unfold listChunksForTransfer merge
  rw [h]
  rfl

/-- What a finalization reports is a version of the file that the call has seen active or has
committed. -/
def Reported (past : Past) (fileId : String) (r : FinalizeUploadResultDto) : Prop :=
  r.fileId = fileId ∧ ∃ v : FileVersionEntity, v.fileId = fileId ∧ v.versionNumber = r.versionNumber ∧
    v.checksumSha256 = r.checksumSha256 ∧ (SawActive past fileId v ∨ CommittedVersion past v)

theorem reported_of_sawActive (h : SawActive past fileId v) :
    Reported past fileId (FileFinalizationService.replayed fileId v) := by
  obtain ⟨st, hst, hactive⟩ := h
  exact ⟨rfl, v, (findActiveVersion_eq_some hactive).2.1, rfl, rfl, .inl ⟨st, hst, hactive⟩⟩

theorem Reported.mono {past' : Past} {r : FinalizeUploadResultDto}
    (hpast : past ⊆ past') : Reported past fileId r → Reported past' fileId r := by
  rintro ⟨hfile, v, hv, hnumber, hsum, hseen | hcommitted⟩
  · obtain ⟨st, hst, hrest⟩ := hseen
    exact ⟨hfile, v, hv, hnumber, hsum, .inl ⟨st, hpast hst, hrest⟩⟩
  obtain ⟨st, hst, hrest⟩ := hcommitted
  exact ⟨hfile, v, hv, hnumber, hsum, .inr ⟨st, hpast hst, hrest⟩⟩

end

/-! ## All calls -/

def Replied (job : Job) (past : Past) (reply : Reply) : Prop :=
  ∀ request r, job = .finalizeFileUpload request → reply = .finalized (.ok r) →
    ∃ fileId, ReadSession past request.uploadId fileId ∧ Reported past fileId r

def Job.recordsByHand : Job → Bool
  | createFileVersion _ _ => true
  | _ => false

end SecureCloud.Files
