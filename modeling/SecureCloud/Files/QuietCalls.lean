import SecureCloud.Files.Lifecycle

/-
# Files.QuietCalls — the calls that touch neither file records nor contents

A statement is `Quiet` if it can change no file record, version, chunk or object: a query, a transaction
that writes only a session or a grant, a reading request to the object store. A program of quiet
statements meets whatever is asked of the others (`Trails.under`), so it is gone through once, here.
-/

namespace SecureCloud.Files

open Lib.Program Lib.Table DownloadManager FileFinalizationService

/-- A statement that touches neither file records nor contents. -/
def Statement.Quiet : Statement → Prop
  | .stage _ (.fileStatus _ _ _) => False
  | .deactivateOtherVersions _ _ _ => False
  | .commit work => work.files = .empty ∧ work.versions = .empty ∧ work.chunks = .empty
  | .putObject _ _ => False
  | .deleteObject _ => False
  | _ => True

abbrev Quietly {α : Type} (m : Program α) (past : Past) (Q : Past → α → Prop := fun _ _ => True) : Prop :=
  Trails Statement.exec (fun _ l => l.Quiet) Q m past

section
variable {past : Past} {work store : Tables}

/-! ## What the updates leave alone -/

section
variable {transferId : String} {f : FileTransferEntity → FileTransferEntity}

open Tables

theorem updateTransfer_files : (store.updateTransfer work transferId f).files = work.files := by
  unfold updateTransfer
  split <;> rfl

theorem updateTransfer_versions : (store.updateTransfer work transferId f).versions = work.versions := by
  unfold updateTransfer
  split <;> rfl

theorem updateTransfer_chunks : (store.updateTransfer work transferId f).chunks = work.chunks := by
  unfold updateTransfer
  split <;> rfl

end

theorem insertVersion_eq {version : FileVersionEntity} {work' : Tables}
    (h : store.insertVersion work version = .ok work') :
    work' = { work with versions := work.versions.write version } := by
  unfold Tables.insertVersion at h
  split at h
  · cases h
  · exact (Except.ok.inj h).symm

theorem revokeGrant_eq {now : TimePoint} {fileId userId : String} :
    ∃ access, (store.revokeGrant work now fileId userId).2 = { work with access } := by
  unfold Tables.revokeGrant
  split
  · exact ⟨work.access, rfl⟩
  · split <;> exact ⟨_, rfl⟩

/-! ## Sessions -/

theorem createSession_quiet (uploadId fileId ownerUserId : String) (chunks size : Nat) :
    Quietly (UploadSessionManager.createSession uploadId fileId ownerUserId chunks size) past := by
  refine .bind (trails_perform trivial fun _ _ _ _ _ => .bind (trails_check fun _ => ?_))
  exact .bind (trails_perform ⟨rfl, rfl, rfl⟩ fun _ _ _ _ _ => .pure trivial)

variable (uploadId : String)

theorem updateStatus_quiet (status : TransferStatus) :
    Quietly (UploadSessionManager.updateStatus uploadId status) past := by
  refine .bind (trails_stage trivial fun x w => trails_perform ?_ fun _ _ _ _ _ => trivial)
  exact ⟨updateTransfer_files, updateTransfer_versions, updateTransfer_chunks⟩

theorem cancelSession_quiet : Quietly (UploadSessionManager.cancelSession uploadId) past := by
  refine .bind (trails_query trivial fun x w => ?_)
  split
  · exact .pure trivial
  · exact .bind (.mono (fun _ _ _ => .pure trivial) (updateStatus_quiet uploadId .cancelled))

theorem getTransferProgress_quiet :
    Quietly (UploadSessionManager.getTransferProgress uploadId) past := by
  refine .bind (trails_query trivial fun x w => .bind (trails_perform trivial fun x' now w' _ _ => ?_))
  refine .bind (trails_orThrow fun transfer _ => ?_)
  dsimp only
  split
  · exact .bind (.mono (fun _ _ _ => .pure trivial) (updateStatus_quiet uploadId .expired))
  · exact .pure trivial

/-! ## Grants -/

theorem grantAccess_quiet (grant : FileAccessEntity) :
    Quietly (FileAccessRepository.grantAccess grant) past :=
  .bind (trails_check fun _ => .bind (trails_check fun _ =>
    trails_perform ⟨rfl, rfl, rfl⟩ fun _ _ _ _ _ => trivial))

theorem revokeAccess_quiet (fileId userId : String) :
    Quietly (FileAccessRepository.revokeAccess fileId userId) past := by
  unfold FileAccessRepository.revokeAccess
  split
  · exact .pure trivial
  refine .bind (trails_perform trivial fun x now w _ _ => .bind (trails_stage trivial fun x' w' => ?_))
  dsimp only [Update.answer]
  split
  · refine .bind (trails_perform ?_ fun _ _ _ _ _ => .pure trivial)
    have hgrants : ∃ access, (w'.tables.revokeGrant {} (storedTime now) fileId userId).2 =
        { ({} : Tables) with access } := revokeGrant_eq
    obtain ⟨access, heq⟩ := hgrants
    rw [heq]
    exact ⟨rfl, rfl, rfl⟩
  · exact .pure trivial

theorem checkAccess_quiet (fileId userId : String) (permission : FilePermission) :
    Quietly (checkAccess fileId userId permission) past := by
  unfold checkAccess
  split
  · exact .pure trivial
  refine .bind (trails_query trivial fun x w => ?_)
  split
  · exact .pure trivial
  split
  · exact .pure trivial
  · exact .bind (trails_query trivial fun _ _ => .pure trivial)

theorem checkOwnershipOrAccess_quiet (file : FileEntity) (callerUserId : String)
    (permission : FilePermission) :
    Quietly (checkOwnershipOrAccess file callerUserId permission) past := by
  unfold checkOwnershipOrAccess
  split
  · exact .pure trivial
  · exact checkAccess_quiet file.fileId callerUserId permission

/-! ## Finalization, as far as it only reads -/

section
variable (sha256Hex : Bytes → String)

def SawActive (past : Past) (fileId : String) (version : FileVersionEntity) : Prop :=
  ∃ st ∈ past, st.before.tables.findActiveVersion fileId = some version

theorem replayedVersion_quiet (transfer : FileTransferEntity) (file : FileEntity) :
    Quietly (replayedVersion transfer file) past fun past r =>
      ∀ version, r = some version → SawActive past file.fileId version := by
  unfold replayedVersion
  split
  · refine trails_query trivial fun x w => ?_
    intro version hversion
    exact ⟨_, List.mem_cons_self, hversion⟩
  · exact .pure nofun

variable (fileId : String)

theorem recoverLostRace_quiet (e : FilesException) :
    Quietly (recoverLostRace fileId e) past fun past r =>
      ∃ version, r = some version ∧ SawActive past fileId version := by
  unfold recoverLostRace
  split
  · refine .bind (trails_query trivial fun x w => ?_)
    split
    next version hversion =>
      refine .bind (trails_perform ⟨rfl, rfl, rfl⟩ fun _ _ _ _ _ => .pure ⟨version, rfl, ?_⟩)
      exact ⟨_, List.mem_cons_of_mem _ List.mem_cons_self, hversion⟩
    · exact .throw
  · exact .throw

theorem appendChunks_quiet (chunks : List FileChunkEntity) (assembled : Bytes) :
    Quietly (ObjectAssemblyEngine.appendChunks sha256Hex chunks assembled) past fun _ r =>
      ∃ content, r = assembled ++ content ∧ ObjectAssemblyEngine.Concatenates sha256Hex chunks content := by
  induction chunks generalizing past assembled with
  | nil => exact .pure ⟨[], (List.append_nil assembled).symm, [], rfl, .nil⟩
  | cons chunk rest ih =>
    refine .bind (trails_perform trivial fun x got w _ _ => .bind (trails_rethrow fun body _ =>
      .bind (trails_check fun hhash => ?_)))
    refine .mono ?_ (ih (assembled ++ body))
    rintro _ _ ⟨_, rfl, bodies, rfl, hbodies⟩
    exact ⟨body ++ bodies.flatten, List.append_assoc _ _ _, body :: bodies, rfl, .cons hhash hbodies⟩

/-! ## Downloads -/

variable (versionNumber : Int)

theorem fetchChunk_quiet (chunkIndex totalFileSize : Nat) :
    Quietly (fetchChunk sha256Hex fileId versionNumber chunkIndex totalFileSize) past := by
  refine .bind (trails_orThrow fun range _ => ?_)
  split
  · exact .pure trivial
  refine .bind (trails_perform trivial fun _ got _ _ _ => .bind (trails_rethrow fun _ _ => ?_))
  exact .pure trivial

theorem lookUpVersion_quiet : Quietly (lookUpVersion fileId versionNumber) past := by
  unfold lookUpVersion
  split
  · exact .bind (trails_query trivial fun _ _ => .pure trivial)
  · exact trails_query trivial fun _ _ => trivial

theorem hasReadPermission_quiet (file : FileEntity) (fileId callerUserId : String) :
    Quietly (hasReadPermission file fileId callerUserId) past := by
  unfold hasReadPermission
  split
  · exact .pure trivial
  · exact checkAccess_quiet fileId callerUserId .read

theorem getChunkVersioned_quiet (chunkIndex : Nat) (callerUserId : String) :
    Quietly (getChunkVersioned sha256Hex fileId versionNumber chunkIndex callerUserId)
      past := by
  refine .bind (trails_query trivial fun x w => .bind (trails_orThrow fun file _ => ?_))
  refine .bind (.mono ?_ (hasReadPermission_quiet file fileId callerUserId))
  intro past' permitted _
  refine .bind (trails_check fun _ => .bind (trails_check fun _ =>
    .bind (.mono ?_ (lookUpVersion_quiet fileId versionNumber))))
  intro past'' found _
  refine .bind (trails_orThrow fun version _ => .bind (trails_rethrow fun _ _ => ?_))
  exact fetchChunk_quiet sha256Hex fileId version.versionNumber chunkIndex _

theorem capabilityCheck_quiet (service : FilesService) (request : DownloadChunkRequest) :
    Quietly (service.capabilityCheck request) past := by
  unfold FilesService.capabilityCheck
  dsimp only
  split
  · refine .bind (.bind (trails_check fun _ => .bind (trails_perform trivial fun x isRevoked w _ _ =>
      .bind (trails_perform trivial fun x' now w' _ _ => trails_rethrow fun claims _ => ?_))))
    exact .pure trivial
  · exact .pure trivial

theorem downloadChunk_quiet (service : FilesService) (request : DownloadChunkRequest) :
    (FilesService.downloadChunk sha256Hex service request).Trails Statement.exec
      (fun _ l => l.Quiet) (fun _ _ => True) past := by
  unfold FilesService.downloadChunk
  split
  · exact .pure trivial
  rename_i peer _
  refine .bind (.mono ?_ (capabilityCheck_quiet service request).run)
  intro past' capability _
  split
  · exact .pure trivial
  split
  · refine .bind (.mono ?_ (getChunkVersioned_quiet sha256Hex request.fileId 0 request.chunkIndex
      peer).run)
    intro _ fetched _
    split <;> exact .pure trivial
  · exact .pure trivial

end

end

end SecureCloud.Files
