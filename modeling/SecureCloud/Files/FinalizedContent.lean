import SecureCloud.Files.VersionIntegrity

/-
# Files.FinalizedContent — what a finalization reports, and whose octets they are

A finalization that finds its file available, or loses the race for a version, reports THE FILE'S active
version. A version does not say which session it was made from: a second session is told of the first
one's octets.

The reported version holds the session's own chunks in every run in which a file has one session, its
chunks are recorded before the version is, and versions are put where they may be (`KeyFree`).
-/

namespace SecureCloud.Files

open Lib.Program Lib.Interleaving Lib.Table Statement Keyed FinalizationValidator List Option
open ObjectAssemblyEngine (Concatenates)

/-! ## The conditions -/

def Statement.listsChunks : Statement → Option String
  | .select _ (.chunks uploadId) => some uploadId
  | _ => none

/-- A file has one session: a commit gives no file a second session and no session another file. -/
def OneSession (st : Step Statement Env World) : Prop :=
  match st.stmt with
  | .commit work => ∀ t ∈ work.transfers.rows, (∀ t' ∈ (st.before.tables.merge work).transfers.rows,
        t'.fileId = t.fileId → t'.transferId = t.transferId) ∧
      ∀ t' ∈ st.before.tables.transfers.rows, t'.transferId = t.transferId → t'.fileId = t.fileId
  | _ => True

/-- Chunks come first: recorded only while the file has no version, and a version only while the
session's chunks are as listed. -/
def ChunksFirst (past : Past) (st : Step Statement Env World) : Prop :=
  match st.stmt with
  | .commit work =>
      (∀ c ∈ work.chunks.rows, ∀ t ∈ st.before.tables.transfers.find c.transferId,
        ∀ v ∈ st.before.tables.versions.rows, v.fileId ≠ t.fileId) ∧
      (work.versions.rows = [] ∨ ∀ read ∈ past, ∀ uploadId ∈ read.stmt.listsChunks,
        st.before.tables.listChunksForTransfer uploadId =
          read.before.tables.listChunksForTransfer uploadId)
  | _ => True

instance (st : Step Statement Env World) : Decidable (OneSession st) := by
  unfold OneSession
  generalize st.stmt = l
  induction l using Statement.casesOn <;> (dsimp only; infer_instance)

instance (past : Past) (st : Step Statement Env World) : Decidable (ChunksFirst past st) := by
  unfold ChunksFirst
  generalize st.stmt = l
  induction l using Statement.casesOn <;> (dsimp only; infer_instance)

/-! ## What a step keeps -/

def SessionsKept (t t' : Tables) : Prop :=
  ∀ uploadId s, t.transfers.find uploadId = some s →
    ∃ s', t'.transfers.find uploadId = some s' ∧ s'.fileId = s.fileId

theorem SessionsKept.trans {t t' t'' : Tables} (h : SessionsKept t t') (h' : SessionsKept t' t'') :
    SessionsKept t t'' := by
  intro uploadId s hs
  obtain ⟨s', hs', hfile⟩ := h uploadId s hs
  obtain ⟨s'', hs'', hfile'⟩ := h' uploadId s' hs'
  exact ⟨s'', hs'', hfile'.trans hfile⟩

open Tables

theorem listChunksForTransfer_merge_of_ne {store work : Tables} {uploadId : String}
    (h : ∀ c ∈ work.chunks.rows, c.transferId ≠ uploadId) :
    (store.merge work).listChunksForTransfer uploadId = store.listChunksForTransfer uploadId := by
  have hrows : ∀ rows : List FileChunkEntity, (∀ c ∈ rows, c.transferId ≠ uploadId) →
      ((rows.foldr (fun r (acc : Keyed FileChunkEntity.key) => acc.write r) store.chunks).rows.filter
        fun c => c.transferId = uploadId) = store.chunks.rows.filter fun c => c.transferId = uploadId := by
    intro rows hrows
    induction rows with
    | nil => rfl
    | cons r rows ih =>
      obtain ⟨hr, hrows⟩ := forall_mem_cons.mp hrows
      rw [foldr_cons]
      show filter _ (upsert FileChunkEntity.key r _) = _
      rw [upsert, List.filter_cons_of_neg (by simpa using hr), List.filter_filter, ← ih hrows]
      refine filter_congr fun c _ => ?_
      -- a chunk of the session has another key than the row that is written
      by_cases hc : c.transferId = uploadId
      · have hne : c.key ≠ r.key := fun heq => hr ((Prod.mk.inj heq).1.symm.trans hc)
        simp [hc, hne]
      · simp [hc]
  unfold listChunksForTransfer
  split
  · rfl
  rw [show (store.merge work).chunks.rows.filter (fun c => c.transferId = uploadId) = _ from
    hrows work.chunks.rows h]

theorem listChunksForTransfer_congr {t t' : Tables} (h : t.chunks = t'.chunks) (uploadId : String) :
    t.listChunksForTransfer uploadId = t'.listChunksForTransfer uploadId := by
  unfold listChunksForTransfer
  rw [h]

theorem find_of_findTransfer {t : Tables} {uploadId : String} {s : FileTransferEntity}
    (h : t.findTransfer uploadId = some s) : t.transfers.find uploadId = some s := by
  unfold findTransfer at h
  split at h
  · cases h
  · exact h

section
variable {l : Statement} {x : Env} {w w' : World} {past : Past}

theorem ContentStep.sessionsKept (h : ContentStep l x w w') (hone : OneSession ⟨l, x, w⟩) :
    SessionsKept w.tables w'.tables := by
  intro uploadId s hs
  have hsame : w'.tables.transfers = w.tables.transfers →
      ∃ s', w'.tables.transfers.find uploadId = some s' ∧ s'.fileId = s.fileId := by
    intro htransfers
    exact ⟨s, by rw [htransfers]; exact hs, rfl⟩
  cases h with
  | same _ _ htransfers | deactivate _ _ _ _ _ htransfers => exact hsame htransfers
  | put _ _ htables | delete _ htables => exact hsame (by rw [htables])
  | commit work _ _ htransfers =>
    rw [htransfers, find_merge]
    cases hwork : work.transfers.find uploadId with
    | none => exact ⟨s, hs, rfl⟩
    | some s' =>
      have hid : s'.transferId = uploadId := key_of_find hwork
      have hid' : s.transferId = uploadId := key_of_find hs
      have hmem : s' ∈ work.transfers.rows := mem_rows_iff.mpr (by rw [hid]; exact hwork)
      have hmem' : s ∈ w.tables.transfers.rows := mem_rows_iff.mpr (by rw [hid']; exact hs)
      exact ⟨s', rfl, ((hone s' hmem).2 s hmem' (hid'.trans hid.symm)).symm⟩

def SessionsApart (w : World) : Prop :=
  ∀ t ∈ w.tables.transfers.rows, ∀ t' ∈ w.tables.transfers.rows, t.fileId = t'.fileId →
    t.transferId = t'.transferId

theorem ContentStep.sessionsApart (h : ContentStep l x w w') (hone : OneSession ⟨l, x, w⟩)
    (hw : SessionsApart w) : SessionsApart w' := by
  unfold SessionsApart
  cases h with
  | same _ _ htransfers | deactivate _ _ _ _ _ htransfers =>
    rw [htransfers]
    exact hw
  | put _ _ htables | delete _ htables =>
    rw [htables]
    exact hw
  | commit work _ _ htransfers =>
    rw [htransfers]
    intro t ht t' ht' hfile
    -- a row of the commit has no rival; two rows that were there before had none either
    rcases or_eq_some_iff.mp ((find_merge _ _ _).symm.trans (mem_rows_iff.mp ht)) with
      hwork | ⟨-, hstore⟩
    · exact ((hone t (mem_rows_iff.mpr hwork)).1 t' ht' hfile.symm).symm
    rcases or_eq_some_iff.mp ((find_merge _ _ _).symm.trans
        (mem_rows_iff.mp ht')) with hwork' | ⟨-, hstore'⟩
    · exact (hone t' (mem_rows_iff.mpr hwork')).1 t ht hfile
    · exact hw t (mem_rows_iff.mpr hstore) t' (mem_rows_iff.mpr hstore') hfile

variable {v : FileVersionEntity}

theorem ContentStep.listChunks (h : ContentStep l x w w') (hfirst : ChunksFirst past ⟨l, x, w⟩)
    {uploadId : String} {t : FileTransferEntity}
    (ht : w.tables.transfers.find uploadId = some t) (hv : v ∈ w.tables.versions.rows)
    (hfile : v.fileId = t.fileId) :
    w'.tables.listChunksForTransfer uploadId = w.tables.listChunksForTransfer uploadId := by
  cases h with
  | same _ hchunks | deactivate _ _ _ _ hchunks =>
    exact listChunksForTransfer_congr hchunks uploadId
  | put _ _ htables | delete _ htables => rw [htables]
  | commit work _ hchunks =>
    refine (listChunksForTransfer_congr (show w'.tables.chunks = (w.tables.merge work).chunks from hchunks)
      uploadId).trans (listChunksForTransfer_merge_of_ne fun c hc hid => ?_)
    exact hfirst.1 c hc t (by rw [hid]; exact ht) v hv hfile

end

section
variable {ι : Type} {sha256Hex : Bytes → String} {c : Engine ι}

theorem Consistent.objectKept (h : Consistent sha256Hex c) {i : ι} {st : Step Statement Env World}
    {w' : World} (hbefore : st.before = c.shared) (hfree : KeyFree c i st)
    (howed : ContentOwed sha256Hex (c.proc i).past st.stmt)
    (hstep : ContentStep st.stmt st.env st.before w') {k : String × Int}
    (hv : c.shared.tables.versions.find k = some v) :
    w'.objects (.version k.1 k.2) = c.shared.objects (.version k.1 k.2) := by
  unfold KeyFree at hfree
  rw [← hbefore] at hv ⊢
  generalize st.stmt = l at hstep howed hfree
  cases hstep with
  | same _ _ _ hobjects | commit _ _ _ _ hobjects | deactivate _ _ _ _ _ _ hobjects => rw [hobjects]
  | put key content _ hobjects =>
    rcases hobjects with hdone | ⟨hsame, -⟩
    · have hne : ObjectKey.version k.1 k.2 ≠ key := by
        rintro rfl
        exact nomatch hfree.1.symm.trans hv
      rw [hdone, Objects.put, Function.update_of_ne hne]
    · rw [hsame]
  | delete key _ hobjects =>
    obtain ⟨read, hread, chunk, hchunk, rfl⟩ := howed
    have hstaging := (h.met i read hread).2 chunk.key chunk (mem_rows_iff.mp hchunk)
    rcases hobjects with hdeleted | hsame
    · rw [hdeleted, Objects.delete, Function.update_of_ne (ne_of_isStaging hstaging k.1 k.2)]
    · rw [hsame]

end

/-! ## Versions and their sessions -/

section
variable (sha256Hex : Bytes → String)

def HoldsSession (w : World) (k : String × Int) : Prop :=
  ∃ uploadId t content, w.tables.transfers.find uploadId = some t ∧ t.fileId = k.1 ∧
    w.objects (.version k.1 k.2) = some content ∧
    Concatenates sha256Hex (sortedChunks (w.tables.listChunksForTransfer uploadId)) content

variable {sha256Hex} in
theorem HoldsSession.of_kept {w w' : World} {k : String × Int} (h : HoldsSession sha256Hex w k)
    (hkept : SessionsKept w.tables w'.tables)
    (hobject : w'.objects (.version k.1 k.2) = w.objects (.version k.1 k.2))
    (hlist : ∀ uploadId t, w.tables.transfers.find uploadId = some t → t.fileId = k.1 →
      w'.tables.listChunksForTransfer uploadId = w.tables.listChunksForTransfer uploadId) :
    HoldsSession sha256Hex w' k := by
  obtain ⟨uploadId, t, content, ht, hfile, hcontent, hconcat⟩ := h
  obtain ⟨t', ht', hfile'⟩ := hkept uploadId t ht
  refine ⟨uploadId, t', content, ht', hfile'.trans hfile, hobject.trans hcontent, ?_⟩
  rw [hlist uploadId t ht hfile]
  exact hconcat

variable {ι : Type}

/-- Where the calls stand: no file has two sessions, the sessions met are there, every version holds
the chunks of a session of its file. -/
structure Sourced (c : Engine ι) : Prop where
  apart : SessionsApart c.shared
  met : ∀ i, ∀ st ∈ (c.proc i).past, SessionsKept st.before.tables c.shared.tables
  holds : ∀ k v, c.shared.tables.versions.find k = some v → HoldsSession sha256Hex c.shared k

variable {sha256Hex} [DecidableEq ι] {c c' : Engine ι} {m : ι × Env}

omit [DecidableEq ι] in
theorem holdsSession_of_made (h : Consistent sha256Hex c) (hs : Sourced sha256Hex c) {i : ι}
    (hrunning : (c.proc i).result = none) (hmade : Made sha256Hex (c.proc i).past v)
    (hread : ∀ read ∈ (c.proc i).past, ∀ uploadId ∈ read.stmt.listsChunks,
      c.shared.tables.listChunksForTransfer uploadId = read.before.tables.listChunksForTransfer uploadId) :
    HoldsSession sha256Hex c.shared v.key := by
  obtain ⟨uploadId, content, -, -, ⟨put, hput, hstmt, hdone⟩, ⟨st, hst, t, ht, hfile⟩,
    ⟨read, hmem, work, hselect, hcontent⟩⟩ := hmade
  obtain ⟨t', ht', hfile'⟩ := hs.met i st hst uploadId t (find_of_findTransfer ht)
  refine ⟨uploadId, t', content, ht', hfile'.trans hfile, h.put i hrunning put hput _ _ content hstmt hdone, ?_⟩
  rw [hread read hmem uploadId (by rw [hselect]; rfl)]
  exact hcontent

theorem sourced_move (h : Consistent sha256Hex c) (hs : Sourced sha256Hex c)
    (hfollows : ∀ i, (c.proc i).Follows exec (ContentOwed sha256Hex))
    (hcond : ∀ st ∈ takenBy (c, m), KeyFree c m.1 st ∧ OneSession st ∧ ChunksFirst (c.proc m.1).past st)
    (hmove : move (Call.advance exec) c m = some c') : Sourced sha256Hex c' := by
  obtain ⟨st, r, htaken, henv, hbefore, hexec, howed, hpast, -⟩ := follows_move hfollows hmove
  obtain ⟨hfree, hone, hfirst⟩ := hcond st htaken
  have hrunning : (c.proc m.1).result = none := Call.result_eq_none_of_upcoming htaken
  rw [← henv, ← hbefore] at hexec
  have hstep := contentStep_of_exec hexec
  have hkept : SessionsKept c.shared.tables c'.shared.tables := hbefore ▸ hstep.sessionsKept hone
  refine ⟨?_, ?_, ?_⟩
  · exact hstep.sessionsApart hone (hbefore.symm ▸ hs.apart)
  · intro j st' hst'
    rw [hpast j] at hst'
    split at hst'
    · rcases mem_cons.mp hst' with rfl | hst'
      · rw [hbefore]
        exact hkept
      · exact (hs.met j st' hst').trans hkept
    · exact (hs.met j st' hst').trans hkept
  intro k v' hv'
  -- a version that was there before still holds what it held
  have hold : ∀ v, c.shared.tables.versions.find k = some v → HoldsSession sha256Hex c'.shared k := by
    intro v hv
    have hkey : v.key = k := key_of_find hv
    refine (hs.holds k v hv).of_kept hkept (h.objectKept hbefore hfree howed hstep hv) ?_
    intro uploadId t ht hfile
    rw [hstep.listChunks hfirst (hbefore.symm ▸ ht)
      (hbefore.symm ▸ mem_rows_iff.mpr (by rw [hkey]; exact hv))
      ((congrArg Prod.fst hkey).trans hfile.symm), hbefore]
  rw [hbefore] at hstep
  simp only [ChunksFirst] at hfirst
  generalize st.stmt = l at hstep howed hfirst
  cases hstep with
  | same hversions => exact hold v' (hversions ▸ hv')
  | put _ _ htables | delete _ htables => exact hold v' (htables ▸ hv')
  | deactivate _ _ _ hversions =>
    rw [hversions, find_modify] at hv'
    obtain ⟨u, hu, -⟩ := map_eq_some_iff.mp hv'
    exact hold u hu
  | commit work hversions hchunks _ hobjects =>
    rw [hversions, find_merge] at hv'
    rcases or_eq_some_iff.mp hv' with hwork | ⟨-, hstore⟩
    · have hkey : v'.key = k := key_of_find hwork
      obtain ⟨hmade | ⟨st', hst', u, hu, -, -⟩, hnochunks⟩ := howed.1 k v' hwork
      · have hread := hfirst.2.resolve_left (ne_nil_of_mem
          (mem_rows_iff.mpr (show work.versions.find v'.key = some v' by rw [hkey]; exact hwork)))
        rw [hbefore] at hread
        have hnow := holdsSession_of_made h hs hrunning hmade hread
        rw [hkey] at hnow
        refine hnow.of_kept hkept (by rw [hobjects]) fun uploadId t _ _ => ?_
        refine listChunksForTransfer_congr (hchunks.trans ?_) uploadId
        rw [hnochunks]
        rfl
      · obtain ⟨u', hu', -⟩ := (h.met m.1 st' hst').1 _ u hu
        exact hold u' (hkey ▸ hu')
    · exact hold v' hstore

end

/-! ## Runs -/

section
variable {ι : Type} [DecidableEq ι] {sha256Hex : Bytes → String} {service : FilesService}
  {jobs : ι → Job} {w : World}

theorem sourced_along_run (hjobs : ∀ i, (jobs i).recordsByHand = false) (hw : w.tables = {})
    {ms : List (ι × Env)} {d : Engine ι}
    (hcond : ∀ e ∈ trace (Call.advance exec) (Engine.start sha256Hex service jobs w) ms,
      ∀ st ∈ takenBy e, KeyFree e.1 e.2.1 st ∧ OneSession st ∧ ChunksFirst (e.1.proc e.2.1).past st)
    (hrun : run (Call.advance exec) (Engine.start sha256Hex service jobs w) ms = some d) :
    Sourced sha256Hex d := by
  have hsourced : Sourced sha256Hex (Engine.start sha256Hex service jobs w) := by
    refine ⟨fun t ht => ?_, fun _ _ hst => absurd hst not_mem_nil, fun k v hv => ?_⟩
    · rw [show (Engine.start sha256Hex service jobs w).shared.tables = {} from hw] at ht
      exact absurd ht not_mem_nil
    rw [show (Engine.start sha256Hex service jobs w).shared.tables = {} from hw] at hv
    exact nomatch hv
  refine (run_induction (I := fun c => (∀ i, (c.proc i).Follows exec (ContentOwed sha256Hex)) ∧
      Consistent sha256Hex c ∧ Sourced sha256Hex c)
    (A := fun c m => ∀ st ∈ takenBy (c, m),
      KeyFree c m.1 st ∧ OneSession st ∧ ChunksFirst (c.proc m.1).past st) ?_
    ⟨fun i => Call.follows_start (program_contentOwed sha256Hex service (hjobs i)),
      consistent_start (intact_of_empty hw), hsourced⟩ hcond hrun).2.2
  rintro c m c' hcond ⟨hfollows, hconsistent, hsourced⟩ hmove
  obtain ⟨st, r, -, -, -, -, -, -, hfollows'⟩ := follows_move hfollows hmove
  exact ⟨hfollows', consistent_move hconsistent hfollows (fun st hst => (hcond st hst).1) hmove,
    sourced_move hconsistent hsourced hfollows hcond hmove⟩

end

open FileVersionEntity

/-- **The version that a finalization reports holds its session's own chunks in order**, be it fresh,
replayed or another's: in every run from an empty store, under the conditions, without versions recorded
by hand. -/
theorem finalized_content {ι : Type} [DecidableEq ι] (sha256Hex : Bytes → String)
    (service : FilesService) (jobs : ι → Job) (w : World) (ms : List (ι × Env)) (d : Engine ι)
    (hjobs : ∀ i, (jobs i).recordsByHand = false) (hw : w.tables = {})
    (hcond : ∀ e ∈ trace (Call.advance exec) (Engine.start sha256Hex service jobs w) ms,
      ∀ st ∈ takenBy e, KeyFree e.1 e.2.1 st ∧ OneSession st ∧ ChunksFirst (e.1.proc e.2.1).past st)
    (hrun : run (Call.advance exec) (Engine.start sha256Hex service jobs w) ms = some d)
    (i : ι) (request : FinalizeUploadRequestDto) (r : FinalizeUploadResultDto)
    (hjob : jobs i = .finalizeFileUpload request)
    (hresult : (d.proc i).result = some (.finalized (.ok r))) :
    ∃ content, d.shared.objects (.version r.fileId r.versionNumber) = some content ∧
      sha256Hex content = r.checksumSha256 ∧
      Concatenates sha256Hex (sortedChunks
        (d.shared.tables.listChunksForTransfer request.uploadId)) content := by
  have hconsistent := consistent_along_run hjobs (intact_of_empty hw) (fun e he st hst => (hcond e he st hst).1) hrun
  have hsourced := sourced_along_run hjobs hw hcond hrun
  -- what the call has to show for its result
  obtain ⟨fileId, ⟨read, hread, t, ht, rfl⟩, hfile, v, hv, hnumber, hsum, hseen⟩ :=
    trails_result (fun i => program_contentOwed sha256Hex service (hjobs i)) hrun hresult request r hjob rfl
  have hkey : v.key = (r.fileId, r.versionNumber) := by rw [key, hv, hfile, hnumber]
  -- the version is recorded, with that checksum
  have hrecorded : ∃ u, d.shared.tables.versions.find (r.fileId, r.versionNumber) = some u ∧
      u.checksumSha256 = r.checksumSha256 := by
    rcases hseen with ⟨st, hst, hactive⟩ | ⟨st, hst, work, hcommit, hwork⟩
    · obtain ⟨u, hu, hsum', -⟩ :=
        (hconsistent.met i st hst).1 _ v (findActiveVersion_eq_some hactive).1
      exact ⟨u, by rw [← hkey, key, hv]; exact hu, hsum'.trans hsum⟩
    · obtain ⟨u, hu, hsum', -⟩ := hconsistent.committed i st hst work hcommit v.key v hwork
      exact ⟨u, by rw [← hkey]; exact hu, hsum'.trans hsum⟩
  obtain ⟨u, hu, hsum'⟩ := hrecorded
  obtain ⟨uploadId, t', content, ht', hfile', hcontent, hconcat⟩ := hsourced.holds _ u hu
  obtain ⟨t'', ht'', hfile''⟩ := hsourced.met i read hread request.uploadId t (find_of_findTransfer ht)
  -- the file has one session, so the version's is the request's
  have hsame : uploadId = request.uploadId := by
    have hid : t'.transferId = uploadId := key_of_find ht'
    have hid' : t''.transferId = request.uploadId := key_of_find ht''
    rw [← hid, ← hid']
    refine hsourced.apart t' (mem_rows_iff.mpr (by rw [hid]; exact ht')) t''
      (mem_rows_iff.mpr (by rw [hid']; exact ht'')) ?_
    rw [hfile', hfile'', hfile]
  subst hsame
  obtain ⟨content', hcontent', hhash, -⟩ := hconsistent.intact.object _ u hu
  obtain rfl := some.inj (hcontent.symm.trans hcontent')
  exact ⟨content, hcontent, hhash.trans hsum', hconcat⟩

/-! ## The second session of a file -/

theorem concatenates_singleton {sha256Hex : Bytes → String} {c : FileChunkEntity} {content : Bytes} :
    Concatenates sha256Hex [c] content ↔ hashesEqual (sha256Hex content) c.chunkHashSha256 = true := by
  constructor
  · rintro ⟨bodies, rfl, hbodies⟩
    cases hbodies with
    | cons hbody hrest =>
      cases hrest
      simpa using hbody
  · intro h
    exact ⟨[content], by simp, .cons h .nil⟩

namespace TwoSessions

open OneOctet (service)

def report (d : Engine Caller) (b : Bool) : Option (FinalizeUploadResultDto × Bytes × List String) :=
  match (d.proc (.finalizes b)).result with
  | some (.finalized (.ok r)) =>
    (d.shared.objects (.version r.fileId r.versionNumber)).map fun content =>
      (r, content, (sortedChunks
        (d.shared.tables.listChunksForTransfer (uploadId b))).map FileChunkEntity.chunkHashSha256)
  | _ => none

theorem report_eq_some {d : Engine Caller} {b : Bool} {r : FinalizeUploadResultDto} {content : Bytes}
    {sums : List String} (h : report d b = some (r, content, sums)) :
    (d.proc (.finalizes b)).result = some (.finalized (.ok r)) ∧
      d.shared.objects (.version r.fileId r.versionNumber) = some content ∧
      (sortedChunks (d.shared.tables.listChunksForTransfer (uploadId b))).map
        FileChunkEntity.chunkHashSha256 = sums := by
  unfold report at h
  split at h
  next r' hr' =>
    obtain ⟨content', hcontent', heq⟩ := map_eq_some_iff.mp h
    obtain ⟨hr, hrest⟩ := Prod.mk.inj heq
    subst hr
    obtain ⟨hcontent, hsums⟩ := Prod.mk.inj hrest
    exact ⟨hr', hcontent' ▸ congrArg some hcontent, hsums⟩
  · exact nomatch h

theorem exists_of_report (ms : List (Caller × Env)) (b : Bool) (content : Bytes) (sum : String)
    (h : ((run (Call.advance exec) start ms).bind (report · b)).map Prod.snd =
      some (content, [sum])) :
    ∃ d r c, run (Call.advance exec) start ms = some d ∧
      (d.proc (.finalizes b)).result = some (.finalized (.ok r)) ∧
      d.shared.objects (.version r.fileId r.versionNumber) = some content ∧
      sortedChunks (d.shared.tables.listChunksForTransfer (uploadId b)) = [c] ∧
      c.chunkHashSha256 = sum := by
  obtain ⟨⟨r, content', sums⟩, hreport, heq⟩ := map_eq_some_iff.mp h
  cases heq
  obtain ⟨d, hd, hreport⟩ := bind_eq_some_iff.mp hreport
  obtain ⟨hresult, hcontent, hsums⟩ := report_eq_some hreport
  obtain ⟨c, hc, hsum⟩ := map_eq_singleton_iff.mp hsums
  exact ⟨d, r, c, hd, hresult, hcontent, hc, hsum⟩

/-- The first session has been finalized, so the file is available. The second one is told of the first
one's version, which does not hold its chunk. -/
theorem second_session_told_of_first : ∃ d r content, run (Call.advance exec) start
        (uploaded ++ moves (.finalizes false) 17 ++ moves (.finalizes true) 6) = some d ∧
      (d.proc (.finalizes true)).result = some (.finalized (.ok r)) ∧
      d.shared.objects (.version r.fileId r.versionNumber) = some content ∧
      ¬ Concatenates sha256Hex (sortedChunks
        (d.shared.tables.listChunksForTransfer (uploadId true))) content := by
  obtain ⟨d, r, c, hd, hresult, hcontent, hc, hsum⟩ := exists_of_report
    (uploaded ++ moves (.finalizes false) 17 ++ moves (.finalizes true) 6) true [7] (sha256Hex [8])
    (by decide)
  refine ⟨d, r, [7], hd, hresult, hcontent, ?_⟩
  rw [hc, concatenates_singleton, hsum]
  decide

theorem only_session_told_of_its_own :
    ∃ d r content, run (Call.advance exec) start (moves .owner 2 ++ moves (.creates false) 2 ++
        moves (.uploads false) 13 ++ moves (.finalizes false) 17) = some d ∧
      (d.proc (.finalizes false)).result = some (.finalized (.ok r)) ∧
      d.shared.objects (.version r.fileId r.versionNumber) = some content ∧
      sha256Hex content = r.checksumSha256 ∧
      Concatenates sha256Hex (sortedChunks
        (d.shared.tables.listChunksForTransfer (uploadId false))) content := by
  obtain ⟨d, r, c, hd, hresult, -, -, -⟩ := exists_of_report (moves .owner 2 ++
    moves (.creates false) 2 ++ moves (.uploads false) 13 ++ moves (.finalizes false) 17) false [7]
    (sha256Hex [7]) (by decide)
  obtain ⟨content, hcontent, hsum, hconcat⟩ := finalized_content sha256Hex service jobs { tables := {} } _ d
    (by decide) rfl (by decide) hd (.finalizes false) _ r rfl hresult
  exact ⟨d, r, content, hd, hresult, hcontent, hsum, hconcat⟩

end TwoSessions

end SecureCloud.Files
