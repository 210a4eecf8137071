import SecureCloud.Files.StatusUpdates
import SecureCloud.Files.VersionContent

/-
# Files.Obligations — every call keeps to what it owes

`StatusOwed` and `ContentOwed` are owed at the same statements, so each call of the service is gone
through ONCE, for both. `Tidy` is what holds of a transaction until an object is put under a version's
key: it is in order, and nothing has been put.
-/

namespace SecureCloud.Files

open Lib.Program Lib.Table Statement FileFinalizationService FileLifecycleService ChunkStorageService List Option
open ObjectAssemblyEngine (Concatenates)

/-- What a call owes at a statement. One that records a version by hand owes nothing for contents. -/
def Owed (sha256Hex : Bytes → String) (byHand : Bool) (past : Past) (l : Statement) : Prop :=
  StatusOwed past l ∧ (byHand = false → ContentOwed sha256Hex past l)

abbrev Owes (sha256Hex : Bytes → String) (byHand : Bool) {α : Type} (m : Program α) (past : Past)
    (Q : Past → α → Prop := fun _ _ => True) : Prop :=
  Trails exec (Owed sha256Hex byHand) Q m past

structure Tidy (past : Past) (work : Tables) : Prop where
  staged : Staged past work
  unput : Unput past

section
variable {sha256Hex : Bytes → String} {byHand : Bool} {past : Past} {work store : Tables}

theorem tidy_nil : Tidy [] {} := ⟨staged_nil, unput_nil⟩

theorem Tidy.cons {st : Step Statement Env World} {work' : Tables} (h : Tidy past work)
    (hst : st.stmt.updatesStatus = false) (hput : st.stmt.putsVersion = false)
    (hfiles : work'.files = work.files) : Tidy (st :: past) work' :=
  ⟨h.staged.cons hst hfiles, h.unput.cons hput⟩

theorem Staged.owed_commit (h : Staged past work) (hversions : work.versions = .empty)
    (hchunks : ChunksStaged work) : Owed sha256Hex byHand past (.commit work) :=
  ⟨h.owed, fun _ => contentOwed_of_chunks hversions hchunks⟩

theorem Statement.Quiet.owed {l : Statement} (h : l.Quiet) : Owed sha256Hex byHand past l :=
  ⟨h.statusOwed, fun _ => h.contentOwed⟩

theorem owes_query {q : Query} {Q : Past → q.Answer → Prop}
    (h : ∀ x w, Q (⟨.select work q, x, w⟩ :: past) (q.answer (w.tables.merge work))) :
    Owes sha256Hex byHand (query work q) past Q :=
  trails_query ⟨trivial, fun _ => trivial⟩ h

theorem owes_stage {u : Update} {Q : Past → u.Answer → Prop}
    (h : ∀ x w, Q (⟨.stage work u, x, w⟩ :: past) (u.answer w.tables work)) :
    Owes sha256Hex byHand (stage work u) past Q :=
  trails_stage ⟨trivial, fun _ => trivial⟩ h

theorem owes_clock {Q : Past → TimePoint → Prop} (h : ∀ x r w, Q (⟨.clock, x, w⟩ :: past) r) :
    Owes sha256Hex byHand (perform .clock) past Q :=
  trails_perform ⟨trivial, fun _ => trivial⟩ fun x r w _ _ => h x r w

section
variable {α : Type} {m : Program α} {Q : Past → α → Prop}

theorem Quietly.owed (hm : Quietly m past Q) : Owes sha256Hex byHand m past Q :=
  .mono (fun _ _ h => h.2) (hm.under (I := fun _ => True) (fun _ _ _ hl => hl.owed)
    (fun _ _ _ _ _ _ => trivial) trivial)

theorem Quietly.tidy (hm : Quietly m past Q) (h : Tidy past work) :
    Owes sha256Hex byHand m past fun past a => Tidy past work ∧ Q past a :=
  hm.under (fun _ _ _ hl => hl.owed)
    (fun _ _ _ _ h hl => h.cons hl.not_updatesStatus hl.not_putsVersion rfl) h

end

/-! ## Creating a file -/

theorem createFile_owes (dto : CreateFileRequestDto) (now : TimePoint) :
    Owes sha256Hex byHand (createFile dto now) [] := by
  refine .bind (trails_rethrow fun _ _ => .bind (owes_query fun x w => .bind (trails_check fun _ =>
    .bind (trails_perform ⟨?_, fun _ => contentOwed_of_chunks rfl nofun⟩ fun _ _ _ _ _ => .pure trivial))))
  -- no row has been copied
  intro fileId file base _ hbase
  exact nomatch hbase

/-! ## Statuses -/

variable {expected new : FileStatus}

theorem Tidy.update (h : Tidy past work) {fileId : String} {x : Env} {w : World}
    (hvalid : isValidStateTransition expected new = true)
    (hnew : (∀ t ∈ written past fileId, t = new) ∨ (expected = .finalizing ∧ new = .available)) :
    Tidy (⟨.stage work (.fileStatus fileId expected new), x, w⟩ :: past)
      (w.tables.setFileStatus work fileId expected new).2 :=
  ⟨h.staged.update hvalid hnew, h.unput.cons rfl⟩

theorem updateFileStatus_owes (h : Staged past work) {fileId : String}
    (hnew : (∀ t ∈ written past fileId, t = new) ∨ (expected = .finalizing ∧ new = .available)) :
    Owes sha256Hex byHand (updateFileStatus work fileId expected new) past fun past' work' =>
      Staged past' work' ∧ (Unput past → Unput past') ∧ ∃ files, work' = { work with files } :=
  .bind (trails_check fun hvalid => .bind (owes_stage fun _ _ =>
    .pure ⟨h.update hvalid hnew, fun hunput => hunput.cons rfl, setFileStatus_eq⟩))

theorem commitIfUpdated_owes (h : Tidy past {}) (fileId : String) (expected new : FileStatus) :
    Owes sha256Hex byHand (do
      let (updated, work) ← tryUpdateFileStatus {} fileId expected new
      if updated then do
        perform (.commit work)
        return true
      else return false) past := by
  refine .bind (.bind (trails_check fun hvalid => owes_stage fun x w => ?_))
  have hstaged := (h.update (x := x) (w := w) hvalid (.inl fun t ht => by
    rw [h.staged.untouched fileId rfl] at ht
    exact nomatch ht)).staged
  obtain ⟨files, hfiles⟩ := @setFileStatus_eq w.tables {} fileId expected new
  dsimp only [Update.answer]
  split
  · refine .bind (trails_perform (hstaged.owed_commit ?_ ?_) fun _ _ _ _ _ => .pure trivial)
    · rw [hfiles]
    rw [hfiles]
    exact nofun
  · exact .pure trivial

theorem owes_permission {file : FileEntity} {callerUserId : String} {next : Bool → Program α}
    (h : Tidy past {}) (hnext : ∀ past' b, Tidy past' {} → Owes sha256Hex byHand (next b) past' Q) :
    Owes sha256Hex byHand (checkOwnershipOrAccess file callerUserId .write >>= next) past Q :=
  .bind (.mono (fun past' b hb => hnext past' b hb.1)
    ((checkOwnershipOrAccess_quiet file callerUserId .write).tidy h))

theorem transitionLifecycle_owes (fileId : String) (expected new : FileStatus) (callerUserId : String) :
    Owes sha256Hex byHand (transitionLifecycle fileId expected new callerUserId) [] := by
  refine .bind (trails_check fun _ => .bind (owes_query fun x w => .bind (trails_orThrow fun file _ => ?_)))
  refine owes_permission (tidy_nil.cons rfl rfl rfl) fun past' permitted hpast' => ?_
  exact .bind (trails_check fun _ => commitIfUpdated_owes hpast' fileId expected new)

theorem deleteFile_owes (fileId callerUserId : String) :
    Owes sha256Hex byHand (deleteFile fileId callerUserId) [] := by
  refine .bind (owes_query fun x w => .bind (trails_orThrow fun file _ => ?_))
  refine owes_permission (tidy_nil.cons rfl rfl rfl) fun past' permitted hpast' => ?_
  refine .bind (trails_check fun _ => ?_)
  split
  · exact .pure trivial
  · exact .bind (trails_check fun _ => commitIfUpdated_owes hpast' fileId file.status .deleted)

open Tables

/-- The batch: the invariant of the loop is that only `EXPIRED` has been written. -/
theorem expireEach_owes (files : List FileEntity) (count : Nat) (h : Staged past work)
    (hwork : work.versions = .empty ∧ work.chunks = .empty)
    (honly : ∀ fileId, ∀ t ∈ written past fileId, t = .expired) :
    Owes sha256Hex byHand (expireEach files work count) past fun past r =>
      Staged past r.2 ∧ r.2.versions = .empty ∧ r.2.chunks = .empty := by
  induction files generalizing past work count with
  | nil => exact .pure ⟨h, hwork⟩
  | cons file rest ih =>
    unfold expireEach
    split
    · refine .bind (.bind (trails_check fun hvalid => owes_stage fun x w => ?_))
      refine ih _ (h.update hvalid (.inl (honly file.fileId))) ?_ ?_
      · obtain ⟨files, hfiles⟩ := @setFileStatus_eq w.tables work file.fileId file.status .expired
        exact ⟨(congrArg versions hfiles).trans hwork.1, (congrArg chunks hfiles).trans hwork.2⟩
      intro fileId t ht
      rw [written_cons, mem_append] at ht
      rcases ht with ht | ht
      · exact honly fileId t ht
      simp only [statusWritten, mem_toList, ite_none_right_eq_some, some.injEq] at ht
      exact ht.2.symm
    · exact ih count h hwork honly

theorem evaluateAndExpireFiles_owes (now : TimePoint) (batchSize : Nat) :
    Owes sha256Hex byHand (evaluateAndExpireFiles now batchSize) [] := by
  refine .bind (owes_query fun x w => ?_)
  have hread : Tidy [⟨.select {} (.expiredFiles now batchSize), x, w⟩] {} := tidy_nil.cons rfl rfl rfl
  refine .bind (.mono ?_ (expireEach_owes _ 0 hread.staged ⟨rfl, rfl⟩ fun fileId t ht => ?_))
  · rintro past' ⟨count, work⟩ ⟨hwork, hversions, hchunks⟩
    refine .bind (trails_perform (hwork.owed_commit hversions ?_) fun _ _ _ _ _ => .pure trivial)
    unfold ChunksStaged
    rw [hchunks]
    exact nofun
  · rw [hread.staged.untouched fileId rfl] at ht
    exact nomatch ht

/-! ## Chunks -/

variable {chunk : FileChunkEntity}

open Keyed

theorem insertChunk_recorded (h : chunk.minioChunkKey.isStaging = true) :
    (store.insertChunk {} chunk).2.files = .empty ∧ (store.insertChunk {} chunk).2.versions = .empty ∧
      ChunksStaged (store.insertChunk {} chunk).2 := by
  unfold insertChunk
  split
  · exact ⟨rfl, rfl, fun _ _ hc => by cases hc⟩
  refine ⟨rfl, rfl, fun k c hc => ?_⟩
  rw [find_write] at hc
  split at hc
  · cases hc
    exact h
  · cases hc

theorem recordChunk_owes (h : Tidy past {})
    (hchunk : chunk.minioChunkKey.isStaging = true) :
    Owes sha256Hex byHand (recordChunk {} chunk) past fun past r =>
      Tidy past r.2 ∧ r.2.files = .empty ∧ r.2.versions = .empty ∧ ChunksStaged r.2 := by
  refine .bind (trails_check fun _ => .bind (trails_check fun _ => .bind (trails_check fun _ =>
    .bind (trails_check fun _ => .bind (owes_stage fun x w => ?_)))))
  have hwork := @insertChunk_recorded w.tables chunk hchunk
  have htidy : Tidy (⟨.stage {} (.chunk chunk), x, w⟩ :: past) (w.tables.insertChunk {} chunk).2 :=
    h.cons rfl rfl hwork.1
  dsimp only [Update.answer]
  split
  · exact .pure ⟨htidy, hwork⟩
  exact .bind (owes_query fun _ _ => .bind (trails_orThrow fun _ _ =>
    .bind (trails_check fun _ => .pure ⟨htidy.cons rfl rfl rfl, hwork⟩)))

theorem countChunk_owes (h : Tidy past work) (hwork : work.files = .empty) (dto : ChunkPayloadDto)
    (transfer : FileTransferEntity) :
    Owes sha256Hex byHand (countChunk dto transfer work) past fun past work' =>
      Staged past work' ∧ work'.versions = work.versions ∧ work'.chunks = work.chunks := by
  have hcount : ∀ past' work', Staged past' work' →
      work'.versions = work.versions ∧ work'.chunks = work.chunks → Owes sha256Hex byHand (do
        let work ← stage work' (.progress dto.uploadId dto.chunkSizeBytes)
        let accepted ← query work (.chunkCount dto.uploadId)
        if transfer.totalChunks > 0 ∧ accepted ≥ transfer.totalChunks then
          stage work (.transferStatus dto.uploadId .finalizing)
        else pure work) past' fun past work' =>
          Staged past work' ∧ work'.versions = work.versions ∧ work'.chunks = work.chunks := by
    rintro past' work' hstaged ⟨hversions, hchunks⟩
    refine .bind (owes_stage fun x w => .bind (owes_query fun x' w' => ?_))
    have hcounted : Staged (⟨.select (w.tables.incrementChunkProgress work' dto.uploadId dto.chunkSizeBytes)
        (.chunkCount dto.uploadId), x', w'⟩ ::
          ⟨.stage work' (.progress dto.uploadId dto.chunkSizeBytes), x, w⟩ :: past')
        (w.tables.incrementChunkProgress work' dto.uploadId dto.chunkSizeBytes) :=
      (hstaged.cons rfl updateTransfer_files).cons rfl rfl
    split
    · refine owes_stage fun x'' w'' => ⟨hcounted.cons rfl updateTransfer_files, ?_, ?_⟩
      · exact updateTransfer_versions.trans (updateTransfer_versions.trans hversions)
      · exact updateTransfer_chunks.trans (updateTransfer_chunks.trans hchunks)
    · exact .pure ⟨hcounted, updateTransfer_versions.trans hversions, updateTransfer_chunks.trans hchunks⟩
  unfold countChunk
  split
  · refine .bind (owes_stage fun x w => .bind (.mono ?_
      (updateFileStatus_owes (h.staged.cons rfl updateTransfer_files) (.inl fun t ht => ?_))))
    · rintro past' work' ⟨hstaged, -, files, rfl⟩
      exact hcount past' _ hstaged ⟨updateTransfer_versions, updateTransfer_chunks⟩
    -- nothing has been written to the file yet
    rw [written_cons_other rfl, h.staged.untouched _ (by rw [hwork]; rfl)] at ht
    exact nomatch ht
  · exact .bind (.pure (hcount past work h.staged ⟨rfl, rfl⟩))

theorem storeNewChunk_owes (h : Tidy past {}) (dto : ChunkPayloadDto) (transfer : FileTransferEntity) :
    Owes sha256Hex byHand (storeNewChunk dto transfer) past := by
  refine .bind (trails_perform ⟨trivial, fun _ => trivial⟩ fun x put w _ _ =>
    .bind (trails_rethrow fun _ _ => ?_))
  refine .bind (.mono ?_ (recordChunk_owes (h.cons rfl rfl rfl) rfl))
  rintro past' ⟨isNew, work'⟩ ⟨hwork', hfiles, hversions, hchunks⟩
  dsimp only
  split
  · refine .bind (.mono ?_ (countChunk_owes hwork' hfiles dto transfer))
    rintro past'' work'' ⟨hwork'', hversions', hchunks'⟩
    refine .bind (trails_perform (hwork''.owed_commit (hversions'.trans hversions) ?_)
      fun _ _ _ _ _ => .pure trivial)
    unfold ChunksStaged
    rw [hchunks']
    exact hchunks
  · exact .bind (trails_perform (hwork'.staged.owed_commit hversions hchunks)
      fun _ _ _ _ _ => .pure trivial)

theorem storeChunk_owes (h : Tidy past {}) (dto : ChunkPayloadDto) (callerUserId : String) :
    Owes sha256Hex byHand (storeChunk dto callerUserId) past := by
  refine .bind (owes_clock fun x now w => .bind (owes_query fun x' w' =>
    .bind (trails_orThrow fun transfer _ => .bind ?_)))
  refine .bind (trails_check fun _ => .bind (trails_check fun _ => .bind (trails_check fun _ =>
    trails_check fun _ => ?_)))
  split
  · exact .bind (.mono (fun _ _ _ => .throw) (updateStatus_quiet dto.uploadId .expired).owed)
  refine .bind (owes_query fun x'' w'' => ?_)
  split
  · have hquiet : Quiet (.commit {}) := ⟨rfl, rfl, rfl⟩
    exact .bind (trails_check fun _ => .bind (trails_perform hquiet.owed fun _ _ _ _ _ => .pure trivial))
  · exact storeNewChunk_owes (((h.cons rfl rfl rfl).cons rfl rfl rfl).cons rfl rfl rfl) dto transfer

theorem uploadChunk_owes (service : FilesService) (request : UploadChunkRequest) :
    (FilesService.uploadChunk sha256Hex service request).Trails exec
      (Owed sha256Hex byHand) (fun _ _ => True) [] := by
  unfold FilesService.uploadChunk
  split
  · exact .pure trivial
  rename_i peer _
  refine .bind (.mono ?_ ((getTransferProgress_quiet request.payload.uploadId).tidy tidy_nil).run)
  intro past' progress hprogress
  split
  · exact .pure trivial
  split
  · exact .pure trivial
  refine .bind (.mono ?_ (storeChunk_owes (hprogress _ rfl).1 request.payload peer).run)
  intro _ _ _
  exact .pure trivial

/-! ## Versions -/

variable {version : FileVersionEntity}

theorem createVersion_owes (h : Staged past work)
    (hversions : work.versions = .empty) (hchunks : work.chunks = .empty) :
    Owes sha256Hex byHand (createVersion work version) past fun past work' =>
      Staged past work' ∧ Recorded past work' version := by
  refine .bind (trails_check fun _ => .bind (trails_check fun _ => .bind (owes_stage fun x w =>
    .bind (trails_rethrow fun work' hwork' => trails_perform ⟨trivial, fun _ => trivial⟩ ?_))))
  intro x' r w' w'' hexec
  cases hexec
  obtain rfl := insertVersion_eq hwork'
  refine ⟨(h.cons rfl rfl).cons rfl rfl,
    find_deactivateOtherVersions_self (find_write_self _ _), ?_, hchunks⟩
  intro k v hv
  obtain ⟨u, rfl, hwork | hstore⟩ := find_deactivateOtherVersions hv
  · left
    rw [hversions, find_write] at hwork
    split at hwork
    · cases hwork
      simp [deactivated]
    · cases hwork
  right
  have hkey : (deactivated version.fileId version.versionNumber u).key = k :=
    (deactivated_key _ _ u).trans (key_of_find hstore)
  exact ⟨_, mem_cons_self, u, by rw [hkey]; exact hstore, deactivated_sum.1.symm,
    deactivated_sum.2.symm⟩

theorem createFileVersion_owes (dto : CreateFileVersionRequestDto) (callerUserId : String) :
    Owes sha256Hex true (createFileVersion dto callerUserId) [] := by
  refine .bind (trails_rethrow fun _ _ => .bind (owes_query fun x w =>
    .bind (trails_orThrow fun file _ => ?_)))
  refine owes_permission (tidy_nil.cons rfl rfl rfl) fun past' permitted hpast' => ?_
  refine .bind (trails_check fun _ => .bind (owes_query fun x' w' =>
    .bind (trails_check fun _ => .bind (owes_clock fun x'' now w'' => ?_))))
  refine .bind (.mono ?_ (createVersion_owes ((hpast'.staged.cons rfl rfl).cons rfl rfl) rfl rfl))
  rintro past'' work ⟨hwork, -⟩
  exact .bind (trails_perform ⟨hwork.owed, nofun⟩ fun _ _ _ _ _ => .pure trivial)

/-! ## Finalization -/

theorem loadChunks_owes (h : Tidy past {}) (request : FinalizeUploadRequestDto)
    (transfer : FileTransferEntity) (file : FileEntity) :
    Owes sha256Hex byHand (loadChunks request transfer file) past fun past r =>
      Tidy past r.1 ∧ r.1.versions = .empty ∧ r.1.chunks = .empty ∧
        ∃ st ∈ past, ∃ work, st.stmt = .select work (.chunks transfer.transferId) ∧
          r.2 = st.before.tables.listChunksForTransfer transfer.transferId := by
  refine .bind (owes_stage fun x w => .bind (.mono ?_
    (updateFileStatus_owes (h.staged.cons rfl updateTransfer_files) (.inl fun t ht => ?_))))
  · rintro past' _ ⟨hstaged, hunput, files, rfl⟩
    refine .bind (owes_query fun x' w' => ?_)
    split
    · exact .throw
    refine .pure ⟨⟨hstaged.cons rfl rfl, (hunput (h.unput.cons rfl)).cons rfl⟩, updateTransfer_versions,
      updateTransfer_chunks, _, mem_cons_self, _, rfl, ?_⟩
    exact listChunksForTransfer_merge updateTransfer_chunks transfer.transferId
  · rw [written_cons_other rfl, h.staged.untouched _ rfl] at ht
    exact nomatch ht

theorem recordVersion_owes (h : Staged past work)
    (hmade : Made sha256Hex past version) (hversions : work.versions = .empty)
    (hchunks : work.chunks = .empty) (transferId : String) :
    Owes sha256Hex byHand (recordVersion work transferId version) past
      fun past _ => CommittedVersion past version := by
  refine .bind (.mono ?_ (createVersion_owes h hversions hchunks).with_past)
  rintro past₁ work₁ ⟨hpast₁, hstaged₁, hwork₁⟩
  refine .bind (.mono ?_ (updateFileStatus_owes hstaged₁ (.inr ⟨rfl, rfl⟩)).with_past)
  rintro past₂ _ ⟨hpast₂, hstaged₂, -, files, rfl⟩
  refine .bind (owes_stage fun x w => trails_perform ⟨?_, fun _ => ?_⟩ ?_)
  · exact (hstaged₂.cons rfl updateTransfer_files).owed
  · have hwork₂ : Recorded past₂ { work₁ with files } version := hwork₁.mono hpast₂.subset rfl rfl
    have hwork₃ : Recorded
        (⟨.stage { work₁ with files } (.transferStatus transferId .completed), x, w⟩ :: past₂)
        (w.tables.updateTransferStatus { work₁ with files } transferId .completed) version :=
      hwork₂.mono (subset_cons_self _ _) updateTransfer_versions updateTransfer_chunks
    exact hwork₃.owed (hmade.mono (subset_cons_of_subset _ (hpast₁.trans hpast₂).subset))
  intro x' _ w' _ _
  exact ⟨_, mem_cons_self, _, rfl,
    (congrArg (find · version.key) updateTransfer_versions).trans hwork₁.found⟩

/-- Assembly: the object holds the chunks' octets, and the result speaks of them. -/
theorem assembleVersionObject_owes (h : Tidy past work) (fileId : String) (targetVersion : Int)
    (chunks : List FileChunkEntity) :
    Owes sha256Hex byHand (ObjectAssemblyEngine.assembleVersionObject sha256Hex fileId targetVersion chunks)
      past fun past r => Staged past work ∧ ∃ content, r.targetObjectKey = .version fileId targetVersion ∧
        r.computedSha256 = sha256Hex content ∧ PutVersion past fileId targetVersion content ∧
        Concatenates sha256Hex (FinalizationValidator.sortedChunks chunks) content := by
  refine .bind (.mono ?_ ((appendChunks_quiet sha256Hex _ []).tidy h))
  rintro past' payload ⟨htidy, content, hpayload, hcontent⟩
  obtain rfl : content = payload := hpayload.symm
  refine .bind (trails_perform ⟨trivial, fun _ => htidy.unput⟩ ?_)
  intro x put w w' hexec
  refine .bind (trails_rethrow fun _ hput => .pure
    ⟨htidy.staged.cons rfl rfl, content, rfl, rfl, ?_, hcontent⟩)
  -- the client was told that the object is there, so the request was done
  refine ⟨_, mem_cons_self, rfl, ?_⟩
  obtain rfl := hput
  simp only [exec] at hexec
  split at hexec
  · assumption
  all_goals exact nomatch (Prod.mk.inj (some.inj hexec)).1

theorem cleanupStagingChunks_owes {chunks : List FileChunkEntity}
    (h : ∃ st ∈ past, ∀ c ∈ chunks, c ∈ st.before.tables.chunks.rows) :
    Owes sha256Hex byHand (ObjectAssemblyEngine.cleanupStagingChunks chunks) past := by
  induction chunks generalizing past with
  | nil => exact .pure trivial
  | cons chunk rest ih =>
    obtain ⟨st, hst, hrows⟩ := h
    refine .bind (trails_perform
      ⟨trivial, fun _ => ⟨st, hst, chunk, hrows chunk mem_cons_self, rfl⟩⟩ ?_)
    intro x _ w _ _
    exact ih ⟨st, mem_cons_of_mem _ hst, fun c hc => hrows c (mem_cons_of_mem _ hc)⟩

theorem recordOrRecover_owes (h : Staged past work)
    (hmade : Made sha256Hex past version) (hversions : work.versions = .empty)
    (hchunks : work.chunks = .empty) (transferId fileId : String) :
    Owes sha256Hex byHand (tryCatch (do recordVersion work transferId version; return none)
        (recoverLostRace fileId)) past
      fun past (other : Option FileVersionEntity) => match other with
        | some theirs => SawActive past fileId theirs
        | none => CommittedVersion past version := by
  refine .tryCatch (.bind ?_) ?_
  · exact .mono (fun _ _ hcommitted => .pure hcommitted)
      (recordVersion_owes h hmade hversions hchunks transferId)
  intro e past' _
  refine .mono ?_ (recoverLostRace_quiet fileId e).owed
  rintro past'' _ ⟨theirs, rfl, hseen⟩
  exact hseen

theorem finalizeFresh_owes (h : Tidy past {}) (request : FinalizeUploadRequestDto)
    {transfer : FileTransferEntity} {file : FileEntity}
    (hsession : ReadSession past transfer.transferId file.fileId) :
    Owes sha256Hex byHand (finalizeFresh sha256Hex request transfer file) past
      fun past r => Reported past file.fileId r := by
  refine .bind (trails_check fun _ => .bind (trails_check fun _ => .bind (trails_check fun _ => ?_)))
  refine .bind (.mono ?_ (loadChunks_owes h request transfer file).with_past)
  rintro past₁ ⟨work, chunks⟩ ⟨hpast₁, htidy, hversions, hnochunks, read, hread, workᵣ, hselect, hchunks⟩
  dsimp only at htidy hversions hnochunks hchunks
  subst hchunks
  refine .bind (owes_query fun x w => ?_)
  refine .bind (.mono ?_ (assembleVersionObject_owes (htidy.cons rfl rfl rfl) file.fileId _ _).with_past)
  rintro past₂ assembly ⟨hpast₂, hstaged, content, hkey, hsum, hput, hcontent⟩
  refine .bind (trails_check fun _ => .bind (owes_clock fun x' now w' => ?_))
  have hsub : past₁ ⊆ ⟨.clock, x', w'⟩ :: past₂ :=
    subset_cons_of_subset _ (List.Subset.trans (subset_cons_self _ _) hpast₂.subset)
  have hmade : Made sha256Hex (⟨.clock, x', w'⟩ :: past₂)
      { fileId := file.fileId
        versionNumber := targetVersion
          (Query.answer (w.tables.merge work) (.activeVersion file.fileId))
        encryptedSize := assembly.totalBytes, minioObjectKey := assembly.targetObjectKey.text
        checksumSha256 := assembly.computedSha256, createdAt := storedTime now, isActive := true } :=
    ⟨transfer.transferId, content, hsum, congrArg ObjectKey.text hkey,
      hput.mono (subset_cons_self _ _), hsession.mono (List.Subset.trans hpast₁.subset hsub),
      ⟨read, hsub hread, workᵣ, hselect, hcontent⟩⟩
  refine .bind (.mono ?_ (recordOrRecover_owes (hstaged.cons rfl rfl) hmade hversions hnochunks
    transfer.transferId file.fileId).with_past)
  rintro past₃ other ⟨hpast₃, hother⟩
  cases other with
  | some theirs => exact .pure (reported_of_sawActive hother)
  | none =>
    refine .bind (.mono ?_ (cleanupStagingChunks_owes ?_).with_past)
    · rintro past₄ _ ⟨hpast₄, -⟩
      obtain ⟨st, hst, hcommit⟩ := hother
      exact .pure ⟨rfl, _, rfl, rfl, rfl, .inr ⟨st, hpast₄.subset hst, hcommit⟩⟩
    · exact ⟨read, hpast₃.subset (hsub hread), fun c hc => mem_rows_of_listed hc⟩

theorem finalizeLocked_owes (h : Tidy past {}) (request : FinalizeUploadRequestDto) :
    Owes sha256Hex byHand (finalizeLocked sha256Hex request) past fun past r =>
      ∃ fileId, ReadSession past request.uploadId fileId ∧ Reported past fileId r := by
  refine .bind (owes_query fun x w => .bind (trails_orThrow fun transfer htransfer =>
    .bind (trails_check fun _ => .bind (owes_query fun x' w' =>
      .bind (trails_orThrow fun file hfile => .bind (trails_check fun _ => ?_))))))
  have hsession : ReadSession (⟨.select {} (.file transfer.fileId), x', w'⟩ ::
      ⟨.select {} (.transfer request.uploadId), x, w⟩ :: past) request.uploadId file.fileId :=
    ⟨_, mem_cons_of_mem _ mem_cons_self, transfer, htransfer, (fileId_of_findFile hfile).symm⟩
  refine .bind (.mono ?_ ((replayedVersion_quiet transfer file).tidy
    ((h.cons rfl rfl rfl).cons rfl rfl rfl)).with_past)
  rintro past' replay ⟨hpast', htidy, hreplay⟩
  split
  next version =>
    have hquiet : Quiet (.commit {}) := ⟨rfl, rfl, rfl⟩
    refine .bind (trails_perform hquiet.owed fun _ _ _ _ _ => .pure ?_)
    refine ⟨file.fileId, hsession.mono (subset_cons_of_subset _ hpast'.subset), ?_⟩
    exact (reported_of_sawActive (hreplay version rfl)).mono (subset_cons_self _ _)
  have hid : transfer.transferId = request.uploadId := transferId_of_findTransfer htransfer
  refine .mono ?_ (finalizeFresh_owes htidy request
    (hid.symm ▸ hsession.mono hpast'.subset)).with_past
  rintro past'' r ⟨hpast'', hr⟩
  exact ⟨file.fileId, hsession.mono (List.Subset.trans hpast'.subset hpast''.subset), hr⟩

theorem finalizeFileUpload_owes (request : FinalizeUploadRequestDto) :
    Owes sha256Hex byHand (finalizeFileUpload sha256Hex request) [] fun past r =>
      ∃ fileId, ReadSession past request.uploadId fileId ∧ Reported past fileId r := by
  refine .bind (trails_check fun _ => trails_withSession ⟨trivial, fun _ => trivial⟩
    (fun _ => ⟨trivial, fun _ => trivial⟩) fun x w => ?_)
  refine .mono ?_ (finalizeLocked_owes (tidy_nil.cons rfl rfl rfl) request)
  rintro past' r ⟨fileId, hsession, hreported⟩ x' w'
  exact ⟨fileId, hsession.mono (subset_cons_self _ _), hreported.mono (subset_cons_self _ _)⟩

/-! ## All calls -/

/-- Every call owes no more than it keeps. -/
theorem program_owes (service : FilesService) (job : Job) :
    (job.program sha256Hex service).Trails exec (Owed sha256Hex job.recordsByHand)
      (Replied job) [] := by
  -- only a finalization has something to show for what it returns
  have hother : ∀ {job : Job} {α : Type} {m : Prog Statement Resp α} {f : α → Reply} {b : Bool}
      {Q : Past → α → Prop}, (∀ request, job ≠ .finalizeFileUpload request) →
      m.Trails exec (Owed sha256Hex b) Q [] →
      (m >>= fun a => pure (f a)).Trails exec (Owed sha256Hex b) (Replied job) [] :=
    fun hjob hm => .bind (.mono (fun _ _ _ => .pure fun request _ h => absurd h (hjob request)) hm)
  cases job with
  | createFile dto now => exact hother nofun (createFile_owes dto now).run
  | createSession uploadId fileId ownerUserId chunks size =>
    exact hother nofun (createSession_quiet uploadId fileId ownerUserId chunks size).owed.run
  | cancelSession uploadId => exact hother nofun (cancelSession_quiet uploadId).owed.run
  | uploadChunk request => exact hother nofun (uploadChunk_owes service request)
  | finalizeFileUpload request =>
    refine .bind (.mono ?_ (finalizeFileUpload_owes request).run)
    intro past r hr
    refine .pure ?_
    rintro request' result hjob hreply
    obtain rfl := Job.finalizeFileUpload.inj hjob
    exact hr result (Reply.finalized.inj hreply)
  | createFileVersion dto caller => exact hother nofun (createFileVersion_owes dto caller).run
  | transitionLifecycle fileId expected new caller =>
    exact hother nofun (transitionLifecycle_owes fileId expected new caller).run
  | deleteFile fileId caller => exact hother nofun (deleteFile_owes fileId caller).run
  | evaluateAndExpireFiles now batchSize =>
    exact hother nofun (evaluateAndExpireFiles_owes now batchSize).run
  | grantAccess grant => exact hother nofun (grantAccess_quiet grant).owed.run
  | revokeAccess fileId userId => exact hother nofun (revokeAccess_quiet fileId userId).owed.run
  | markDeviceRevoked | clearRevocation =>
    exact hother nofun (Q := fun _ _ => True) (.perform ⟨trivial, fun _ => trivial⟩ fun _ _ _ _ _ => trivial)
  | downloadChunk request =>
    exact hother nofun ((downloadChunk_quiet sha256Hex service request).weaken fun _ _ hl => hl.owed)

theorem program_statusOwed (sha256Hex : Bytes → String) (service : FilesService) (job : Job) :
    (job.program sha256Hex service).Trails exec StatusOwed (fun _ _ => True) [] :=
  .mono (fun _ _ _ => trivial) ((program_owes service job).weaken fun _ _ h => h.1)

theorem program_contentOwed (sha256Hex : Bytes → String) (service : FilesService) {job : Job}
    (hjob : job.recordsByHand = false) :
    (job.program sha256Hex service).Trails exec (ContentOwed sha256Hex) (Replied job) [] :=
  (program_owes service job).weaken fun _ _ h => h.2 hjob

end

end SecureCloud.Files
