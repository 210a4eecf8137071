import SecureCloud.Files.OutboxRelay
import SecureCloud.Files.Service

/-
# Files.Transactions — the in-memory store under transactions of its own kind

Any number of `pqxx::work` transactions side by side, each a sequence of statements: the 32 kinds that
`work::execute` tells apart, on all seven tables. A statement sees the store through the transaction's own
rows and writes to those, so a transaction that has not committed could as well not be there. ONE STATEMENT
IS DIFFERENT: clearing `is_active` on the other versions of a file writes to the store at once, and an abort
does not undo it.
-/

namespace SecureCloud.Files.Transactions

open Lib.Interleaving Lib.Table

/-! ## All tables -/

structure EncryptedFileMetadataEntity where
  fileId : String
  encryptedFilename : Bytes
  encryptedMimeType : Option Bytes := none
  metadataNonce : Bytes
  metadataTag : Bytes
  clientEncryptionMetadata : String := "\x7b\x7d"
  updatedAt : TimePoint

/-- `MockStorage`; also what a transaction has staged. -/
structure Database extends Tables where
  metadata : Keyed EncryptedFileMetadataEntity.fileId := .empty
  outbox : Outbox := .empty

/-- What a transaction sees, and what its commit leaves. -/
def Database.merge (store work : Database) : Database where
  toTables := store.toTables.merge work.toTables
  metadata := store.metadata.merge work.metadata
  outbox := store.outbox.merge work.outbox

/-! ## Statements -/

inductive Select
  | query (q : Query)
  | metadata (fileId : String)
  | chunkIndices (transferId : String)
  | chunkExists (transferId : String) (chunkIndex : Int)
  /-- with the grants that were revoked -/
  | access (fileId userId : String)
  | activeGrants (fileId : String)
  | pendingEvents (limit : Nat)
  | event (eventId : String)

abbrev Select.Answer : Select → Type
  | query q => q.Answer
  | metadata _ => Option EncryptedFileMetadataEntity
  | chunkIndices _ => List Int
  | chunkExists _ _ => Bool
  | access _ _ => Option FileAccessEntity
  | activeGrants _ => List FileAccessEntity
  | pendingEvents _ => List FilesOutboxEntity
  | event _ => Option FilesOutboxEntity

def Select.answer (t : Database) : (q : Select) → q.Answer
  | query q => q.answer t.toTables
  | metadata fileId => t.metadata.find fileId
  | chunkIndices transferId => ((t.chunks.rows.filter (·.transferId = transferId)).map (·.chunkIndex)).insertionSort
      (· ≤ ·)
  | chunkExists transferId chunkIndex => (t.chunks.find (transferId, chunkIndex)).isSome
  | access fileId userId => t.access.find (fileId, userId)
  | activeGrants fileId => (t.access.rows.filter fun a => a.fileId = fileId ∧ a.revokedAt.isNone).insertionSort
      (·.grantedAt ≤ ·.grantedAt)
  | pendingEvents limit => FilesOutboxRepository.fetchPendingEvents t.outbox limit
  | event eventId => t.outbox.find eventId

inductive Sql
  | select (q : Select)
  | insertFile (file : FileEntity)
  | insertMetadata (metadata : EncryptedFileMetadataEntity)
  | insertTransfer (transfer : FileTransferEntity)
  | insertGrant (grant : FileAccessEntity)
  | insertEvent (event : FilesOutboxEntity)
  | update (u : Update)
  | deleteFileLogical (fileId : String)
  | markPublished (eventId : String) (now : TimePoint)
  | markFailed (eventId : String)
  | deactivateOtherVersions (fileId : String) (versionNumber : Int)
  | commit
  | abort

/-- A transaction: its rows, the answers it has been given, the last one first, and whether it has ended. -/
structure Tx where
  work : Database := {}
  answers : List (Σ q : Select, q.Answer) := []
  ended : Bool := false

/-- The rows of a transaction after an update; a statement that throws leaves them. -/
def updated (store work : Tables) : Update → Tables
  | .fileStatus fileId expected new => (store.setFileStatus work fileId expected new).2
  | .transferStatus transferId status => store.updateTransferStatus work transferId status
  | .progress transferId bytesAdded => store.incrementChunkProgress work transferId bytesAdded
  | .version v => (store.insertVersion work v).toOption.getD work
  | .chunk c => (store.insertChunk work c).2
  | .revokeGrant now fileId userId => (store.revokeGrant work now fileId userId).2

/-- `UPDATE files_outbox … WHERE event_id`: the event's row is copied and changed. -/
def updatedEvent (store work : Database) (eventId : String) (f : FilesOutboxEntity → FilesOutboxEntity) :
    Database :=
  match (store.merge work).outbox.find eventId with
  | none => work
  | some event => { work with outbox := work.outbox.write (f event) }

/-- What a statement that only stages rows leaves staged. -/
def staged (store work : Database) : Sql → Database
  | .insertFile file => { work with files := work.files.write file }
  | .insertMetadata metadata => { work with metadata := work.metadata.write metadata }
  | .insertTransfer transfer => { work with transfers := work.transfers.write transfer }
  | .insertGrant grant => { work with access := work.access.write grant }
  | .insertEvent event => { work with outbox := work.outbox.write event }
  | .update u => { work with toTables := updated store.toTables work.toTables u }
  | .deleteFileLogical fileId =>
    match (store.merge work).files.find fileId with
    | none => work
    | some file => { work with files := work.files.write { file with status := .deleted } }
  | .markPublished eventId now => updatedEvent store work eventId fun event =>
      { event with status := .published, processedAt := some now }
  | .markFailed eventId => updatedEvent store work eventId fun event =>
      { event with status := .failed, retryCount := event.retryCount + 1 }
  | .select _ | .deactivateOtherVersions _ _ | .commit | .abort => work

/-- One statement of a transaction; none after its end. -/
def next {ι : Type} (_ : ι) (tx : Tx) (sql : Sql) (store : Database) : Option (Tx × Database) :=
  if tx.ended then none
  else match sql with
    | .select q => some ({ tx with answers := ⟨q, q.answer (store.merge tx.work)⟩ :: tx.answers }, store)
    | .deactivateOtherVersions fileId versionNumber =>
      let r := store.toTables.deactivateOtherVersions tx.work.toTables fileId versionNumber
      some ({ tx with work := { tx.work with toTables := r.2 } }, { store with toTables := r.1 })
    | .commit => some ({ tx with work := {}, ended := true }, store.merge tx.work)
    | .abort => some ({ tx with work := {}, ended := true }, store)
    | sql => some ({ tx with work := staged store tx.work sql }, store)

/-- The statement leaves the store alone: it is no commit, and finds no other version to clear. -/
def Leaves (store : Database) : Sql → Prop
  | .commit => False
  | .deactivateOtherVersions fileId versionNumber =>
    ∀ v ∈ store.versions.rows, v.fileId = fileId → v.versionNumber ≠ versionNumber → v.isActive = false
  | _ => True

open Tables

theorem shared_of_leaves {ι : Type} {i : ι} {tx tx' : Tx} {sql : Sql} {store store' : Database}
    (h : Leaves store sql)
    (hnext : next i tx sql store = some (tx', store')) : store' = store := by
  unfold next at hnext
  split at hnext
  · exact nomatch hnext
  cases sql with
  | commit => exact h.elim
  | deactivateOtherVersions fileId versionNumber =>
    cases hnext
    -- every row it would clear is clear already
    have hsame : store.versions.modify (deactivated fileId versionNumber)
        (deactivated_key fileId versionNumber) = store.versions := by
      refine Keyed.modify_eq_self fun v hv => ?_
      unfold deactivated
      split
      next hother =>
        rw [← h v hv hother.1 hother.2]
      · rfl
    simp only [deactivateOtherVersions, hsame]
  | _ =>
    exact (Prod.mk.inj (Option.some.inj hnext)).2.symm

section
variable {ι : Type} [DecidableEq ι] {c c' d : Config ι Tx Database} {i : ι}

def SameBut (i : ι) (c d : Config ι Tx Database) : Prop :=
  d.shared = c.shared ∧ ∀ j, j ≠ i → d.proc j = c.proc j

open Function

theorem SameBut.move {m : ι × Sql} (h : SameBut i c d) (hm : m.1 ≠ i)
    (hmove : move next c m = some c') : ∃ d', move next d m = some d' ∧ SameBut i c' d' := by
  obtain ⟨tx, store, hnext, rfl⟩ := move_eq_some hmove
  refine ⟨⟨update d.proc m.1 tx, store⟩, ?_, rfl, fun j hj => ?_⟩
  · rw [Lib.Interleaving.move, h.1, h.2 _ hm, hnext]
    rfl
  by_cases hjm : j = m.1
  · simp [hjm]
  · simp [hjm, h.2 j hj]

/-- **Atomicity of the store**: in every interleaving, a transaction that has not committed and whose
statements left the store alone could as well not be there: without it the store is the same, and so are
the rows and the answers of the others. In any case no two committed versions have the same file and
number. -/
theorem uncommitted_is_invisible (c d : Config ι Tx Database) (i : ι) (ms : List (ι × Sql))
    (hrun : run next c ms = some d)
    (hleaves : ∀ e ∈ trace next c ms, e.2.1 = i → Leaves e.1.shared e.2.2) :
    (∃ e, run next c (ms.filter (·.1 ≠ i)) = some e ∧ SameBut i d e) ∧
      (d.shared.versions.rows.map FileVersionEntity.key).Nodup := by
  refine ⟨?_, d.shared.versions.nodup⟩
  have hsim : ∀ (ms : List (ι × Sql)) (c c₀ : Config ι Tx Database), SameBut i c c₀ →
      run next c ms = some d → (∀ e ∈ trace next c ms, e.2.1 = i → Leaves e.1.shared e.2.2) →
      ∃ e, run next c₀ (ms.filter (·.1 ≠ i)) = some e ∧ SameBut i d e := by
    intro ms
    induction ms with
    | nil =>
      intro c c₀ hsame hrun _
      obtain rfl : c = d := by simpa [run] using hrun
      exact ⟨c₀, rfl, hsame⟩
    | cons m ms ih =>
      intro c c₀ hsame hrun hleaves
      obtain ⟨c', hmove, hrest⟩ := run_cons_eq_some hrun
      rw [forall_trace_cons hmove] at hleaves
      by_cases hm : m.1 = i
      · rw [List.filter_cons_of_neg (by simp [hm])]
        obtain ⟨tx, store, hnext, rfl⟩ := move_eq_some hmove
        obtain rfl := shared_of_leaves (hleaves.1 hm) hnext
        have hsame' : SameBut i ⟨update c.proc m.1 tx, c.shared⟩ c₀ := by
          refine ⟨hsame.1, fun j hj => ?_⟩
          rw [hsame.2 j hj]
          exact (update_of_ne (hm ▸ hj) _ _).symm
        exact ih _ c₀ hsame' hrest hleaves.2
      rw [List.filter_cons_of_pos (by simp [hm])]
      obtain ⟨c₀', hmove₀, hsame'⟩ := hsame.move hm hmove
      obtain ⟨e, he, hd⟩ := ih c' c₀' hsame' hrest hleaves.2
      exact ⟨e, by rw [run, hmove₀]; exact he, hd⟩
  exact hsim ms c c ⟨rfl, fun _ _ => rfl⟩ hrun hleaves

end

namespace Sample

def version (number : Int) : FileVersionEntity :=
  { fileId := "f", versionNumber := number, encryptedSize := 1, minioObjectKey := "", checksumSha256 := ""
    createdAt := 0 }

def start : Config Nat Tx Database := ⟨fun _ => {}, { versions := Keyed.empty.write (version 1) }⟩

def aborted : List (Nat × Sql) :=
  [(0, .update (.version (version 2))), (0, .deactivateOtherVersions "f" 2), (0, .abort)]

def active (ms : List (Nat × Sql)) : Option (Option Int) :=
  (run next start ms).map fun d => (d.shared.findActiveVersion "f").map (·.versionNumber)

theorem insert_is_invisible : ∃ d, run next start [(0, .update (.version (version 2))), (0, .abort)] = some d ∧
    (∃ e, run next start [] = some e ∧ SameBut 0 d e) ∧
    (d.shared.versions.rows.map FileVersionEntity.key).Nodup :=
  ⟨_, rfl, uncommitted_is_invisible start _ 0 [(0, .update (.version (version 2))), (0, .abort)] rfl
    (by simp [trace, Leaves, move, next, start])⟩

/-- The aborted transaction has taken the active version away, and did so before its abort. -/
theorem aborted_is_visible :
    active [] = some (some 1) ∧ active aborted = some none ∧ active (aborted.take 2) = some none := by
  decide

end Sample

end SecureCloud.Files.Transactions
