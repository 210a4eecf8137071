import SecureCloud.Files.Domain

/-
# Files.Progress — the progress and the end of an upload

One upload from its `create_session` on, under any sequence of calls, each a single step here
(`Files.Upload` and `Files.Finalization` have their statements). The session manager has the records of the
store and a session in memory that ONLY COUNTS the uploads. `get_transfer_progress` asks the store first and
takes a lookup that throws for an empty answer: it is right when both lookups return. When one does not, it
is right by chance: the counter gives the answer when each of the first chunks, and no other, was sent once.

An upload that has ended should stay as it is, but `cancel_session` looks at nothing, and neither the
query nor `store_chunk` stops at a FAILED transfer.
-/

namespace SecureCloud.Files.Progress

open List

/-! ## An upload, in the store and in memory -/

/-- The session in memory. -/
structure UploadSession where
  encryptedSizeBytes : Int
  expectedChunkCount : Nat
  uploadedChunkCount : UInt32 := 0
  cancelled : Bool := false
  expiresAt : TimePoint

/-- The row of the transfer, the indices of its chunk records in order, and the session. -/
structure Upload where
  transfer : FileTransferEntity
  chunks : List Nat
  session : UploadSession
  totals : transfer.totalChunks = session.expectedChunkCount
  nonempty : 0 < session.expectedChunkCount
  nodup : chunks.Nodup
  within : ∀ i ∈ chunks, i < session.expectedChunkCount

/-- What `create_session` reads of its request. The service asks for the number of standard chunks of a
file of an accepted size, so that the cast to `int32_t` keeps it. -/
structure SessionRequest where
  fileId : String
  ownerUserId : String
  encryptedSizeBytes : Nat
  expectedChunkCount : Nat
  count_mem : 0 < expectedChunkCount ∧ expectedChunkCount < 2 ^ 31

def createSession (r : SessionRequest) (uploadId : String) (expiresAt : TimePoint) : Upload where
  transfer :=
    { transferId := uploadId, fileId := r.fileId, initiatorUserId := r.ownerUserId, status := .created
      totalChunks := r.expectedChunkCount, totalBytes := r.encryptedSizeBytes, expiresAt }
  chunks := []
  session :=
    { encryptedSizeBytes := r.encryptedSizeBytes, expectedChunkCount := r.expectedChunkCount, expiresAt }
  totals := rfl
  nonempty := r.count_mem.1
  nodup := List.nodup_nil
  within := by simp

structure TransferProgress where
  status : TransferStatus
  totalChunks : Nat
  acceptedChunks : Nat
  transferredBytes : Int
  totalBytes : Int
  acceptedChunkIndices : List Nat
  missingChunkIndices : List Nat
  expiresAt : TimePoint
  isExpired : Bool
  isComplete : Bool

/-- The answer from the store: from the transfer's row and the chunks that were found. -/
def ofTransfer (transfer : FileTransferEntity) (accepted : List Nat) (now : TimePoint) :
    TransferProgress where
  status := if transfer.expiresAt ≤ now ∧ transfer.status ≠ .cancelled ∧ transfer.status ≠ .completed
    then .expired else transfer.status
  totalChunks := (transfer.totalChunks % 2 ^ 32).toNat
  acceptedChunks := accepted.length
  transferredBytes := transfer.transferredBytes
  totalBytes := transfer.totalBytes
  acceptedChunkIndices := accepted
  missingChunkIndices := (List.range transfer.totalChunks.toNat).filter (· ∉ accepted)
  expiresAt := transfer.expiresAt
  isExpired := transfer.expiresAt ≤ now
  isComplete := 0 < transfer.totalChunks ∧ accepted.length = transfer.totalChunks

/-- The answer from memory, as if the chunks had come in order. -/
def ofSession (s : UploadSession) (now : TimePoint) : TransferProgress where
  status :=
    if s.cancelled then .cancelled
    else if s.expiresAt ≤ now then .expired
    else if s.uploadedChunkCount.toNat = s.expectedChunkCount ∧ 0 < s.expectedChunkCount then .completed
    else if 0 < s.uploadedChunkCount then .transferring else .created
  totalChunks := s.expectedChunkCount
  acceptedChunks := s.uploadedChunkCount.toNat
  transferredBytes := 0
  totalBytes := s.encryptedSizeBytes
  acceptedChunkIndices := List.range s.uploadedChunkCount.toNat
  missingChunkIndices :=
    List.range' s.uploadedChunkCount.toNat (s.expectedChunkCount - s.uploadedChunkCount.toNat)
  expiresAt := s.expiresAt
  isExpired := s.expiresAt ≤ now
  isComplete := s.uploadedChunkCount.toNat = s.expectedChunkCount ∧ 0 < s.expectedChunkCount

/-- Which statements of the session manager throw. -/
structure Lookups where
  transferThrows : Bool := false
  updateThrows : Bool := false
  chunksThrow : Bool := false

/-! ## The calls -/

namespace Upload

variable (u : Upload)

/-- `FileTransferRepository::update_status`. -/
def updateStatus (status : TransferStatus) : Upload :=
  { u with transfer := { u.transfer with status }, totals := u.totals }

def getTransferProgress (x : Lookups) (now : TimePoint) : TransferProgress × Upload :=
  if x.transferThrows then (ofSession u.session now, u)
  else
    let progress := ofTransfer u.transfer (if x.chunksThrow then [] else u.chunks) now
    (progress, if x.updateThrows then u else u.updateStatus progress.status)

def cancelSession (x : Lookups) : Upload :=
  let u := if x.transferThrows ∨ x.updateThrows then u else u.updateStatus .cancelled
  { u with session := { u.session with cancelled := true }
           totals := u.totals, nonempty := u.nonempty, within := u.within }

def storeNewChunk (i : Nat) (size : Int) (hnew : i ∉ u.chunks) (hi : i < u.session.expectedChunkCount) :
    Upload where
  transfer := { u.transfer with
    status :=
      if u.session.expectedChunkCount ≤ u.chunks.length + 1 then .finalizing
      else if u.transfer.status = .created then .transferring else u.transfer.status
    acceptedChunks := u.transfer.acceptedChunks + 1
    transferredBytes := u.transfer.transferredBytes + size }
  chunks := u.chunks.orderedInsert (· ≤ ·) i
  session := u.session
  totals := u.totals
  nonempty := u.nonempty
  nodup := (List.perm_orderedInsert _ _ _).nodup_iff.mpr (List.nodup_cons.mpr ⟨hnew, u.nodup⟩)
  within := by
    intro j hj
    rcases (List.mem_orderedInsert _).mp hj with rfl | hj
    · exact hi
    · exact u.within j hj

/-- `store_chunk`, for an index in range: the upload, and whether the chunk is accepted. `passes`: the hash
is that of the record if there is one, and else the object store takes the payload. -/
def storeChunk (i : Nat) (hi : i < u.session.expectedChunkCount) (size : Int) (now : TimePoint)
    (passes : Bool) : Upload × Bool :=
  if u.transfer.status = .cancelled ∨ u.transfer.status = .expired ∨ u.transfer.status = .completed then
    (u, false)
  else if u.transfer.expiresAt < now then (u.updateStatus .expired, false)
  else if hnew : i ∈ u.chunks then (u, passes)
  else if passes then (u.storeNewChunk i size hnew hi, true) else (u, false)

/-- `record_chunk_upload` does not look at the index. -/
def recordChunkUpload : Upload :=
  { u with
    session := { u.session with uploadedChunkCount := u.session.uploadedChunkCount + 1, cancelled := false }
    totals := u.totals, nonempty := u.nonempty, within := u.within }

/-- `UploadChunk`, with the clock of the query and that of the storage service: the upload, and whether the
chunk is accepted. `valid`: what `validate_chunk_payload` checks beside the index. -/
def uploadChunk (x : Lookups) (now later : TimePoint) (i : Nat) (size : Int) (valid passes : Bool) :
    Upload × Bool :=
  let (progress, u) := u.getTransferProgress x now
  if progress.status = .cancelled ∨ progress.status = .expired ∨ progress.isExpired then (u, false)
  else if hi : valid ∧ i < u.session.expectedChunkCount then
    let (u, accepted) := u.storeChunk i hi.2 size later passes
    (if accepted then u.recordChunkUpload else u, accepted)
  else (u, false)

/-- `finalize_file_upload`, as far as it writes the transfer. `passes`: all its other checks and steps
succeed. -/
def finalizeFileUpload (fileAvailable hasActiveVersion passes : Bool) : Upload :=
  if (u.transfer.status = .completed ∨ fileAvailable) ∧ hasActiveVersion then u
  else if u.transfer.status = .cancelled ∨ u.transfer.status = .expired ∨ u.transfer.status = .failed then u
  else if passes then u.updateStatus .completed else u

end Upload

inductive Call
  | uploadChunk (x : Lookups) (now later : TimePoint) (i : Nat) (size : Int) (valid passes : Bool)
  | getTransferProgress (x : Lookups) (now : TimePoint)
  | cancelSession (x : Lookups)
  | finalizeFileUpload (fileAvailable hasActiveVersion passes : Bool)

def Upload.after (u : Upload) : Call → Upload
  | .uploadChunk x now later i size valid passes => (u.uploadChunk x now later i size valid passes).1
  | .getTransferProgress x now => (u.getTransferProgress x now).2
  | .cancelSession x => u.cancelSession x
  | .finalizeFileUpload fileAvailable hasActiveVersion passes =>
    u.finalizeFileUpload fileAvailable hasActiveVersion passes

/-! ## The answer of a query -/

def Upload.acceptedBy (u : Upload) : Call → List Nat
  | .uploadChunk x now later i size valid passes =>
    if (u.uploadChunk x now later i size valid passes).2 then [i] else []
  | _ => []

/-- The indices whose upload was accepted, call by call; those of replays again. -/
def Upload.acceptedAlong (u : Upload) : List Call → List Nat
  | [] => []
  | c :: calls => u.acceptedBy c ++ (u.after c).acceptedAlong calls

/-- A truthful answer about `total` chunks: the lists partition them, the accepted ones are those stored,
and it is complete when none is missing. -/
structure Truthful (total : Nat) (stored : List Nat) (p : TransferProgress) : Prop where
  partitions : (p.acceptedChunkIndices ++ p.missingChunkIndices).Perm (List.range total)
  accepted : ∀ i, i ∈ p.acceptedChunkIndices ↔ i ∈ stored
  complete : p.isComplete = true ↔ p.missingChunkIndices = []

/-- The exact condition on a query after these accepted uploads. Without the transfer's row the answer is
the counter's, of 32 bits; without the chunk records it is that nothing has come. -/
def Lookups.AnswerFor (x : Lookups) (accepted : List Nat) : Prop :=
  if x.transferThrows then ∀ i, i ∈ accepted ↔ i < accepted.length % 2 ^ 32
  else x.chunksThrow = true → accepted = []

/-- What uploads accepted from one state to another leave: their records, and their number. -/
structure Accounts (u u' : Upload) (accepted : List Nat) : Prop where
  stored : ∀ i, i ∈ u'.chunks ↔ i ∈ u.chunks ∨ i ∈ accepted
  counted : u'.session.uploadedChunkCount = u.session.uploadedChunkCount + UInt32.ofNat accepted.length
  expected : u'.session.expectedChunkCount = u.session.expectedChunkCount

section
variable {u u' : Upload}

theorem accounts_of_eq (hchunks : u'.chunks = u.chunks)
    (hcount : u'.session.uploadedChunkCount = u.session.uploadedChunkCount)
    (hexpected : u'.session.expectedChunkCount = u.session.expectedChunkCount) : Accounts u u' [] :=
  ⟨by simp [hchunks], by simp [hcount], hexpected⟩

theorem Accounts.trans {v : Upload} {accepted later : List Nat} (h : Accounts u u' accepted)
    (h' : Accounts u' v later) : Accounts u v (accepted ++ later) where
  stored i := by rw [h'.stored, h.stored, mem_append, or_assoc]
  counted := by rw [h'.counted, h.counted, length_append, UInt32.ofNat_add, UInt32.add_assoc]
  expected := h'.expected.trans h.expected

theorem accounts_query (u : Upload) (x : Lookups) (now : TimePoint) :
    Accounts u (u.getTransferProgress x now).2 [] := by
  unfold Upload.getTransferProgress
  split
  · exact accounts_of_eq rfl rfl rfl
  dsimp only
  generalize ofTransfer u.transfer _ now = progress
  split <;> exact accounts_of_eq rfl rfl rfl

/-- `store_chunk` records the chunk it accepts, and leaves the session to its caller. -/
theorem storeChunk_spec (u : Upload) (i : Nat) (hi : i < u.session.expectedChunkCount) (size : Int)
    (now : TimePoint) (passes : Bool) :
    (u.storeChunk i hi size now passes).1.session = u.session ∧
      ∀ j, j ∈ (u.storeChunk i hi size now passes).1.chunks ↔
        j ∈ u.chunks ∨ ((u.storeChunk i hi size now passes).2 = true ∧ j = i) := by
  unfold Upload.storeChunk
  split
  · simp
  split
  · simp [Upload.updateStatus]
  split
  next hold =>
    refine ⟨rfl, fun j => ⟨.inl, ?_⟩⟩
    rintro (hj | ⟨-, rfl⟩)
    · exact hj
    · exact hold
  split
  · simp [Upload.storeNewChunk, or_comm]
  · simp

theorem accounts_storeChunk (u : Upload) (i : Nat) (hi : i < u.session.expectedChunkCount) (size : Int)
    (now : TimePoint) (passes : Bool) :
    let (stored, accepted) := u.storeChunk i hi size now passes
    Accounts u (if accepted then stored.recordChunkUpload else stored) (if accepted then [i] else []) := by
  obtain ⟨hsession, hchunks⟩ := storeChunk_spec u i hi size now passes
  generalize u.storeChunk i hi size now passes = result at *
  obtain ⟨stored, _ | _⟩ := result <;> dsimp only at hsession hchunks
  · exact ⟨by simpa using hchunks, by simp [hsession], by simp [hsession]⟩
  · exact ⟨by simpa [Upload.recordChunkUpload] using hchunks,
      by simp [Upload.recordChunkUpload, hsession], by simp [Upload.recordChunkUpload, hsession]⟩

theorem accounts_uploadChunk (u : Upload) (x : Lookups) (now later : TimePoint) (i : Nat) (size : Int)
    (valid passes : Bool) :
    Accounts u (u.uploadChunk x now later i size valid passes).1
      (if (u.uploadChunk x now later i size valid passes).2 then [i] else []) := by
  have hquery := accounts_query u x now
  unfold Upload.uploadChunk
  dsimp only
  split
  · exact hquery
  split
  next hi =>
    have hstored := hquery.trans (accounts_storeChunk _ i hi.2 size later passes)
    exact hstored
  · exact hquery

theorem accounts_after (u : Upload) (c : Call) : Accounts u (u.after c) (u.acceptedBy c) := by
  cases c with
  | uploadChunk x now later i size valid passes =>
    exact accounts_uploadChunk u x now later i size valid passes
  | getTransferProgress x now => exact accounts_query u x now
  | cancelSession x =>
    unfold Upload.after Upload.cancelSession
    dsimp only
    split <;> exact accounts_of_eq rfl rfl rfl
  | finalizeFileUpload fileAvailable hasActiveVersion passes =>
    simp only [Upload.after, Upload.finalizeFileUpload]
    split
    · exact accounts_of_eq rfl rfl rfl
    split
    · exact accounts_of_eq rfl rfl rfl
    split <;> exact accounts_of_eq rfl rfl rfl

theorem accounts_run (u : Upload) (calls : List Call) :
    Accounts u (calls.foldl Upload.after u) (u.acceptedAlong calls) := by
  induction calls generalizing u with
  | nil => exact accounts_of_eq rfl rfl rfl
  | cons c calls ih => exact (accounts_after u c).trans (ih (u.after c))

end

theorem perm_range_of_within {accepted : List Nat} {n : Nat} (hnodup : accepted.Nodup)
    (hwithin : ∀ i ∈ accepted, i < n) :
    (accepted ++ (List.range n).filter (· ∉ accepted)).Perm (List.range n) := by
  refine (perm_ext_iff_of_nodup ?_ nodup_range).mpr fun i => ?_
  · refine hnodup.append (nodup_range.filter _) fun i hi hmissing => ?_
    simp only [mem_filter, decide_eq_true_eq] at hmissing
    exact hmissing.2 hi
  simp only [mem_append, mem_filter, mem_range, decide_eq_true_eq]
  by_cases hi : i ∈ accepted
  · simp [hi, hwithin i hi]
  · simp [hi]

theorem truthful_ofTransfer (u : Upload) {accepted : List Nat} (hnodup : accepted.Nodup)
    (hwithin : ∀ i ∈ accepted, i < u.session.expectedChunkCount) (now : TimePoint) :
    Truthful u.session.expectedChunkCount accepted (ofTransfer u.transfer accepted now) := by
  have htotal : u.transfer.totalChunks.toNat = u.session.expectedChunkCount := by rw [u.totals]; rfl
  have hperm := perm_range_of_within hnodup hwithin
  have hlength := hperm.length_eq
  rw [length_append, length_range] at hlength
  constructor
  · simpa only [ofTransfer, htotal] using hperm
  · exact fun _ => Iff.rfl
  have htotals := u.totals
  have hpos := u.nonempty
  simp only [ofTransfer, htotal, decide_eq_true_eq, ← length_eq_zero_iff]
  omega

/-- The counter answers truthfully exactly when the chunks stored are the first ones, as many as it says. -/
theorem truthful_ofSession_iff (u : Upload) {stored : List Nat} (hstored : ∀ i, i ∈ u.chunks ↔ i ∈ stored)
    (now : TimePoint) : Truthful u.session.expectedChunkCount stored (ofSession u.session now) ↔
      ∀ i, i ∈ stored ↔ i < u.session.uploadedChunkCount.toNat := by
  constructor
  · intro h i
    rw [← h.accepted i]
    exact mem_range
  intro hfirst
  have hpos := u.nonempty
  have hle : u.session.uploadedChunkCount.toNat ≤ u.session.expectedChunkCount := by
    by_contra! hlt
    exact absurd (u.within _ ((hstored _).mpr ((hfirst _).mpr hlt))) (lt_irrefl _)
  refine ⟨?_, fun i => mem_range.trans (hfirst i).symm, ?_⟩
  · obtain ⟨rest, hrest⟩ := Nat.exists_eq_add_of_le hle
    have hsplit := @range'_append_1 0 u.session.uploadedChunkCount.toNat rest
    rw [Nat.zero_add, ← hrest] at hsplit
    simp only [ofSession, range_eq_range', Nat.sub_eq_of_eq_add' hrest, hsplit, Perm.refl]
  · simp only [ofSession, decide_eq_true_eq, range'_eq_nil_iff]
    omega

/-- **When progress is truthful**, after every sequence of calls on a new session, with chunks in any order
and replays, and lookups that fail or not: exactly if both lookups return, or the answer that stands in
for them happens to be right. -/
theorem progress_truthful (r : SessionRequest) (uploadId : String) (expiresAt : TimePoint)
    (calls : List Call) (x : Lookups) (now : TimePoint) :
    Truthful r.expectedChunkCount ((createSession r uploadId expiresAt).acceptedAlong calls)
      ((calls.foldl Upload.after (createSession r uploadId expiresAt)).getTransferProgress x now).1 ↔
    x.AnswerFor ((createSession r uploadId expiresAt).acceptedAlong calls) := by
  obtain ⟨hstored, hcounted, hexpected⟩ := accounts_run (createSession r uploadId expiresAt) calls
  generalize (createSession r uploadId expiresAt).acceptedAlong calls = accepted at *
  generalize calls.foldl Upload.after (createSession r uploadId expiresAt) = u at *
  replace hstored : ∀ i, i ∈ u.chunks ↔ i ∈ accepted := fun i => by simp [hstored, createSession]
  have hcount : u.session.uploadedChunkCount.toNat = accepted.length % 2 ^ 32 := by
    simp [hcounted, createSession]
  have htotal : r.expectedChunkCount = u.session.expectedChunkCount := hexpected.symm
  rw [htotal]
  unfold Upload.getTransferProgress Lookups.AnswerFor
  split
  · rw [truthful_ofSession_iff u hstored, hcount]
  cases x.chunksThrow with
  | true =>
    have hempty := truthful_ofTransfer u nodup_nil (by simp) now
    constructor
    · intro h _
      exact eq_nil_iff_forall_not_mem.mpr fun i hi => not_mem_nil ((h.accepted i).mpr hi)
    · intro hnone
      rw [hnone rfl]
      exact hempty
  | false =>
    have htrue := truthful_ofTransfer u u.nodup u.within now
    exact iff_of_true ⟨htrue.partitions, hstored, htrue.complete⟩ (by simp)

/-! ## The end of an upload -/

def Upload.Ended (u : Upload) : Prop :=
  u.transfer.status = .completed ∨ u.transfer.status = .cancelled ∨ u.transfer.status = .expired ∨
    u.transfer.status = .failed

/-- The condition on a call: no cancellation of an upload that ended otherwise, no chunk or query for
a failed one. -/
def Call.Spares (u : Upload) : Call → Prop
  | cancelSession _ =>
    u.transfer.status ≠ .completed ∧ u.transfer.status ≠ .expired ∧ u.transfer.status ≠ .failed
  | uploadChunk .. | getTransferProgress .. => u.transfer.status ≠ .failed
  | finalizeFileUpload .. => True

def Upload.Spared (u : Upload) : List Call → Prop
  | [] => True
  | c :: calls => c.Spares u ∧ (u.after c).Spared calls

structure Unchanged (u u' : Upload) : Prop where
  transfer : u'.transfer = u.transfer
  chunks : u'.chunks = u.chunks

theorem unchanged_updateStatus {u : Upload} {status : TransferStatus} (h : status = u.transfer.status) :
    Unchanged u (u.updateStatus status) := by
  subst h
  exact ⟨rfl, rfl⟩

theorem unchanged_getTransferProgress {u : Upload} (hended : u.Ended) (hfailed : u.transfer.status ≠ .failed)
    (x : Lookups) (now : TimePoint) : Unchanged u (u.getTransferProgress x now).2 := by
  unfold Upload.getTransferProgress
  split
  · exact ⟨rfl, rfl⟩
  dsimp only
  split
  · exact ⟨rfl, rfl⟩
  refine unchanged_updateStatus ?_
  unfold ofTransfer
  split
  next hopen =>
    rcases hended with h | h | h | h
    · exact absurd h hopen.2.2
    · exact absurd h hopen.2.1
    · exact h.symm
    · exact absurd h hfailed
  · rfl

theorem unchanged_after {u : Upload} {c : Call} (hended : u.Ended) (hspares : c.Spares u) :
    Unchanged u (u.after c) := by
  cases c with
  | uploadChunk x now later i size valid passes =>
    have hsame := unchanged_getTransferProgress hended hspares x now
    unfold Upload.after Upload.uploadChunk
    dsimp only
    split
    · exact hsame
    split
    case isFalse => exact hsame
    next hi =>
    -- `store_chunk` finds the row that the query has left
    have hrefused : (u.getTransferProgress x now).2.storeChunk i hi.2 size later passes =
        ((u.getTransferProgress x now).2, false) := by
      refine if_pos ?_
      rw [hsame.transfer]
      rcases hended with h | h | h | h
      · exact .inr (.inr h)
      · exact .inl h
      · exact .inr (.inl h)
      · exact absurd h hspares
    rw [hrefused]
    exact hsame
  | getTransferProgress x now => exact unchanged_getTransferProgress hended hspares x now
  | cancelSession x =>
    have hcancelled : u.transfer.status = .cancelled := by
      rcases hended with h | h | h | h
      · exact absurd h hspares.1
      · exact h
      · exact absurd h hspares.2.1
      · exact absurd h hspares.2.2
    unfold Upload.after Upload.cancelSession
    dsimp only
    split
    · exact ⟨rfl, rfl⟩
    · exact ⟨(unchanged_updateStatus hcancelled.symm).transfer, rfl⟩
  | finalizeFileUpload fileAvailable hasActiveVersion passes =>
    simp only [Upload.after, Upload.finalizeFileUpload]
    split
    · exact ⟨rfl, rfl⟩
    split
    · exact ⟨rfl, rfl⟩
    rename_i hopen
    split
    · refine unchanged_updateStatus ?_
      rcases hended with h | h | h | h
      · exact h.symm
      · exact absurd (.inl h) hopen
      · exact absurd (.inr (.inl h)) hopen
      · exact absurd (.inr (.inr h)) hopen
    · exact ⟨rfl, rfl⟩

/-- **An upload that has ended stays as it is**: under every sequence of calls that keeps to the condition,
its status does not change and no chunk is added. -/
theorem transfer_terminal (u : Upload) (hended : u.Ended) (calls : List Call) (hspared : u.Spared calls) :
    Unchanged u (calls.foldl Upload.after u) := by
  induction calls generalizing u with
  | nil => exact ⟨rfl, rfl⟩
  | cons c calls ih =>
    have hnext := unchanged_after hended hspared.1
    have hstill : (u.after c).Ended := by
      unfold Upload.Ended
      rw [hnext.transfer]
      exact hended
    have hrest := ih (u.after c) hstill hspared.2
    exact ⟨hrest.transfer.trans hnext.transfer, hrest.chunks.trans hnext.chunks⟩

namespace Sample

def request : SessionRequest where
  fileId := "f"
  ownerUserId := "a"
  encryptedSizeBytes := 5000000
  expectedChunkCount := 2
  count_mem := by decide

def upload : Upload := createSession request "u" 9

def chunk (i : Nat) : Call := .uploadChunk {} 0 0 i 4194304 true true

def replayed : Upload := [chunk 0, chunk 0].foldl Upload.after upload

def report (x : Lookups) : List Nat × List Nat × Bool :=
  let p := (replayed.getTransferProgress x 0).1
  (p.acceptedChunkIndices, p.missingChunkIndices, p.isComplete)

/-- When the transfer's row cannot be read, the upload is reported as complete with a chunk missing; when
the records cannot be read, as if nothing had been stored. -/
theorem failed_lookup_misreports :
    report {} = ([0], [1], false) ∧ report { transferThrows := true } = ([0, 1], [], true) ∧
      report { chunksThrow := true } = ([], [0, 1], false) := by
  decide

def completed : Upload :=
  [chunk 1, chunk 0, .finalizeFileUpload false false true].foldl Upload.after upload

def outcome (u : Upload) (c : Call) : TransferStatus × List Nat :=
  ((u.after c).transfer.status, (u.after c).chunks)

/-- A completed upload is cancelled; a failed one takes a chunk, and expires. -/
theorem ended_upload_changes :
    completed.transfer.status = .completed ∧ outcome completed (.cancelSession {}) = (.cancelled, [0, 1]) ∧
      outcome (upload.updateStatus .failed) (chunk 0) = (.failed, [0]) ∧
      outcome (upload.updateStatus .failed) (.getTransferProgress {} 9) = (.expired, []) := by
  decide

theorem cancelled_stays : Unchanged (upload.updateStatus .cancelled)
    ([chunk 0, .cancelSession {}, .finalizeFileUpload false false true].foldl Upload.after
      (upload.updateStatus .cancelled)) :=
  transfer_terminal _ (.inr (.inl rfl)) _ ⟨nofun, ⟨nofun, nofun, nofun⟩, trivial, trivial⟩

end Sample

end SecureCloud.Files.Progress
