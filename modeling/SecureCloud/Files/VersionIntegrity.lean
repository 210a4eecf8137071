import SecureCloud.Files.Obligations

/-
# Files.VersionIntegrity — the object of a version and its checksum

A version's object is put BEFORE its row is recorded, outside the transaction, under a key derived from
the version's number. Of two finalizations that compute the same number, the one that loses the race for
the row has overwritten the object of the one that won.

Objects and checksums agree in every run in which a version is put only where no other finalization
under way has put, and no version is recorded.
-/

namespace SecureCloud.Files

open Lib.Program Lib.Interleaving Lib.Table Statement Call FileVersionEntity Option

/-! ## What a statement does to contents -/

/-- What a statement does to versions, chunks and objects. -/
inductive ContentStep : Statement → Env → World → World → Prop
  | same {l x w w'} (hversions : w'.tables.versions = w.tables.versions)
      (hchunks : w'.tables.chunks = w.tables.chunks)
      (htransfers : w'.tables.transfers = w.tables.transfers) (hobjects : w'.objects = w.objects)
      (hcommit : ∀ work, l ≠ .commit work) (hput : l.putsVersion = false) : ContentStep l x w w'
  | commit {x w w'} (work : Tables) (hversions : w'.tables.versions = w.tables.versions.merge work.versions)
      (hchunks : w'.tables.chunks = w.tables.chunks.merge work.chunks)
      (htransfers : w'.tables.transfers = w.tables.transfers.merge work.transfers)
      (hobjects : w'.objects = w.objects) : ContentStep (.commit work) x w w'
  | deactivate {x w w'} (work : Tables) (fileId : String) (n : Int)
      (hversions : w'.tables.versions =
        w.tables.versions.modify (Tables.deactivated fileId n) (Tables.deactivated_key fileId n))
      (hchunks : w'.tables.chunks = w.tables.chunks)
      (htransfers : w'.tables.transfers = w.tables.transfers) (hobjects : w'.objects = w.objects) :
      ContentStep (.deactivateOtherVersions work fileId n) x w w'
  | put {x w w'} (key : ObjectKey) (content : Bytes) (htables : w'.tables = w.tables)
      (hobjects : w'.objects = w.objects.put key content ∨ w'.objects = w.objects ∧ x.s3 ≠ .done) :
      ContentStep (.putObject key content) x w w'
  | delete {x w w'} (key : ObjectKey) (htables : w'.tables = w.tables)
      (hobjects : w'.objects = w.objects.delete key ∨ w'.objects = w.objects) :
      ContentStep (.deleteObject key) x w w'

theorem contentStep_of_exec {l : Statement} {x : Env} {w w' : World} {r : l.Resp}
    (h : l.exec x w = some (r, w')) : ContentStep l x w w' := by
  cases l with
  | commit work =>
    cases h
    exact .commit work rfl rfl rfl rfl
  | deactivateOtherVersions work fileId n =>
    cases h
    exact .deactivate work fileId n rfl rfl rfl rfl
  | putObject key content =>
    simp only [exec] at h
    split at h
    · cases h
      exact .put key content rfl (.inl rfl)
    next hs3 =>
      cases h
      exact .put key content rfl (.inr ⟨rfl, by simp [hs3]⟩)
    · cases h
      exact .put key content rfl (.inl rfl)
  | deleteObject key =>
    simp only [exec] at h
    split at h
    · cases h
      exact .delete key rfl (.inl rfl)
    · cases h
      exact .delete key rfl (.inr rfl)
    cases h
    exact .delete key rfl (.inl rfl)
  | lockSession uploadId =>
    simp only [exec] at h
    split at h
    · cases h
    cases h
    exact .same rfl rfl rfl rfl (by simp) rfl
  | clock | unlockSession | isDeviceRevoked | markDeviceRevoked | clearRevocation | select | stage
  | getObject | getObjectRange =>
    cases h
    exact .same rfl rfl rfl rfl (by simp) rfl

/-! ## Rows that stay -/

def SumsKept (t t' : Keyed key) : Prop :=
  ∀ k u, t.find k = some u → ∃ u', t'.find k = some u' ∧ u'.checksumSha256 = u.checksumSha256 ∧
    u'.minioObjectKey = u.minioObjectKey

theorem SumsKept.refl (t : Keyed key) : SumsKept t t := fun _ u hu => ⟨u, hu, rfl, rfl⟩

theorem SumsKept.trans {t t' t'' : Keyed key} (h : SumsKept t t')
    (h' : SumsKept t' t'') : SumsKept t t'' := by
  intro k u hu
  obtain ⟨u', hu', hsum, hkey⟩ := h k u hu
  obtain ⟨u'', hu'', hsum', hkey'⟩ := h' k u' hu'
  exact ⟨u'', hu'', hsum'.trans hsum, hkey'.trans hkey⟩

open Keyed

theorem sumsKept_deactivated (t : Keyed key) (fileId : String) (n : Int) :
    SumsKept t (t.modify (Tables.deactivated fileId n) (Tables.deactivated_key fileId n)) := by
  intro k u hu
  rw [find_modify, hu]
  exact ⟨_, rfl, deactivated_sum.1, deactivated_sum.2⟩

theorem sumsKept_of_deactivated (t : Keyed key) (fileId : String) (n : Int) :
    SumsKept (t.modify (Tables.deactivated fileId n) (Tables.deactivated_key fileId n)) t := by
  intro k v hv
  rw [find_modify] at hv
  obtain ⟨u, hu, rfl⟩ := map_eq_some_iff.mp hv
  exact ⟨u, hu, deactivated_sum.1.symm, deactivated_sum.2.symm⟩

/-! ## Intact worlds -/

section
variable (sha256Hex : Bytes → String)

/-- Every version's object hashes to its checksum; and chunks lie under staging keys. -/
structure Intact (w : World) : Prop where
  object : ∀ k v, w.tables.versions.find k = some v →
    ∃ content, w.objects (.version k.1 k.2) = some content ∧ sha256Hex content = v.checksumSha256 ∧
      v.minioObjectKey = (ObjectKey.version k.1 k.2).text
  staged : ChunksStaged w.tables

variable {sha256Hex} in
theorem intact_of_empty {w : World} (hw : w.tables = {}) : Intact sha256Hex w := by
  refine ⟨fun k v hv => ?_, fun k chunk hchunk => ?_⟩
  · rw [hw] at hv
    exact nomatch hv
  rw [hw] at hchunk
  exact nomatch hchunk

def Statement.putsUnder (key : ObjectKey) : Statement → Bool
  | .putObject key' _ => key' == key
  | _ => false

variable {ι : Type}

/-- Where the calls stand: versions are intact, and what a call has met, committed or put is still
there. -/
structure Consistent (c : Engine ι) : Prop where
  intact : Intact sha256Hex c.shared
  met : ∀ i, ∀ st ∈ (c.proc i).past,
    SumsKept st.before.tables.versions c.shared.tables.versions ∧ ChunksStaged st.before.tables
  committed : ∀ i, ∀ st ∈ (c.proc i).past, ∀ work, st.stmt = .commit work →
    SumsKept work.versions c.shared.tables.versions
  put : ∀ i, (c.proc i).result = none → ∀ st ∈ (c.proc i).past, ∀ fileId n content,
    st.stmt = .putObject (.version fileId n) content → st.env.s3 = .done →
      c.shared.objects (.version fileId n) = some content

/-- A version is put only where none is recorded and no other call under way has put one. -/
def KeyFree (c : Engine ι) (i : ι) (st : Step Statement Env World) : Prop :=
  match st.stmt with
  | .putObject (.version fileId n) _ => st.before.tables.versions.find (fileId, n) = none ∧
      ∀ j, j ≠ i → (c.proc j).result = none →
        ∀ st' ∈ (c.proc j).past, st'.stmt.putsUnder (.version fileId n) = false
  | _ => True

instance [DecidableEq ι] [Fintype ι] (c : Engine ι) (i : ι) (st : Step Statement Env World) :
    Decidable (KeyFree c i st) := by
  unfold KeyFree
  generalize st.stmt = l
  induction l using Statement.casesOn with
  | putObject key => induction key using ObjectKey.casesOn <;> (dsimp only; infer_instance)
  | _ => dsimp only; infer_instance

variable {sha256Hex} [DecidableEq ι] {c c' : Engine ι} {m : ι × Env} {st : Step Statement Env World}

omit [DecidableEq ι] in
theorem Consistent.of_commit (h : Consistent sha256Hex c) {i : ι} {work : Tables}
    (hrunning : (c.proc i).result = none) (howed : ContentOwed sha256Hex (c.proc i).past (.commit work))
    {k : String × Int} {v : FileVersionEntity} (hv : work.versions.find k = some v) :
    ∃ content, c.shared.objects (.version k.1 k.2) = some content ∧
      sha256Hex content = v.checksumSha256 ∧ v.minioObjectKey = (ObjectKey.version k.1 k.2).text := by
  have hkey : v.key = k := key_of_find hv
  subst hkey
  rcases (howed.1 _ v hv).1 with ⟨_, content, hsum, htext, ⟨st, hst, hput, hdone⟩, -, -⟩ |
    ⟨st, hst, u, hu, hsum, htext⟩
  · -- the call's own work: what it has put is still there
    exact ⟨content, h.put i hrunning st hst _ _ content hput hdone, hsum.symm, htext⟩
  -- a copy: the row it was copied from is there and intact
  obtain ⟨u', hu', hsum', htext'⟩ := (h.met i st hst).1 _ u hu
  obtain ⟨content, hcontent, hhash, hname⟩ := h.intact.object _ u' hu'
  exact ⟨content, hcontent, by rw [hhash, hsum', hsum], by rw [← htext, ← htext', hname]⟩

section
variable (h : Consistent sha256Hex c) (hmove : move (advance exec) c m = some c')
  (hpast : ∀ j, (c'.proc j).past = if j = m.1 then st :: (c.proc j).past else (c.proc j).past)
  (hbefore : st.before = c.shared)
include h hmove hpast hbefore

theorem Consistent.step (hintact : Intact sha256Hex c'.shared)
    (hsums : SumsKept c.shared.tables.versions c'.shared.tables.versions)
    (hcommit : ∀ work, st.stmt = .commit work → SumsKept work.versions c'.shared.tables.versions)
    (hold : ∀ i, (c.proc i).result = none → ∀ st' ∈ (c.proc i).past, ∀ fileId n content,
      st'.stmt = .putObject (.version fileId n) content → st'.env.s3 = .done →
        c'.shared.objects (.version fileId n) = some content)
    (hnew : ∀ fileId n content, st.stmt = .putObject (.version fileId n) content → st.env.s3 = .done →
      c'.shared.objects (.version fileId n) = some content) : Consistent sha256Hex c' := by
  have hmem : ∀ j, ∀ st' ∈ (c'.proc j).past, st' = st ∨ st' ∈ (c.proc j).past := by
    intro j st' hst'
    rw [hpast j] at hst'
    split at hst'
    · exact List.mem_cons.mp hst'
    · exact .inr hst'
  refine ⟨hintact, ?_, ?_, ?_⟩
  · intro j st' hst'
    rcases hmem j st' hst' with rfl | hst'
    · rw [hbefore]
      exact ⟨hsums, h.intact.staged⟩
    · exact ⟨(h.met j st' hst').1.trans hsums, (h.met j st' hst').2⟩
  · intro j st' hst' work hwork
    rcases hmem j st' hst' with rfl | hst'
    · exact hcommit work hwork
    · exact (h.committed j st' hst' work hwork).trans hsums
  intro j hrunning st' hst' fileId n content hput hdone
  rcases hmem j st' hst' with rfl | hst'
  · exact hnew fileId n content hput hdone
  · exact hold j (result_eq_none_of_move hmove hrunning) st' hst' fileId n content hput hdone

theorem Consistent.commit (hrunning : (c.proc m.1).result = none) {work : Tables}
    (hst : st.stmt = .commit work) (howed : ContentOwed sha256Hex (c.proc m.1).past (.commit work))
    (hversions : c'.shared.tables.versions = c.shared.tables.versions.merge work.versions)
    (hchunks : c'.shared.tables.chunks = c.shared.tables.chunks.merge work.chunks)
    (hobjects : c'.shared.objects = c.shared.objects) : Consistent sha256Hex c' := by
  have hwork := fun k v hv => h.of_commit hrunning howed (k := k) (v := v) hv
  have hsums : SumsKept c.shared.tables.versions c'.shared.tables.versions := by
    intro k u hu
    rw [hversions, find_merge]
    cases hv : work.versions.find k with
    | none => exact ⟨u, hu, rfl, rfl⟩
    | some v =>
      -- both rows speak of the one object under the key
      obtain ⟨content, hcontent, hsum, htext⟩ := hwork k v hv
      obtain ⟨content', hcontent', hsum', htext'⟩ := h.intact.object k u hu
      obtain rfl := some.inj (hcontent.symm.trans hcontent')
      exact ⟨v, rfl, hsum.symm.trans hsum', htext.trans htext'.symm⟩
  refine h.step hmove hpast hbefore ⟨?_, ?_⟩ hsums ?_ ?_ ?_
  · intro k v hv
    rw [hversions, find_merge] at hv
    rw [hobjects]
    rcases or_eq_some_iff.mp hv with hv | ⟨-, hv⟩
    · exact hwork k v hv
    · exact h.intact.object k v hv
  · intro k chunk hchunk
    rw [hchunks, find_merge] at hchunk
    rcases or_eq_some_iff.mp hchunk with hchunk | ⟨-, hchunk⟩
    · exact howed.2 k chunk hchunk
    · exact h.intact.staged k chunk hchunk
  · intro work' hwork'
    obtain rfl := commit.inj (hst.symm.trans hwork')
    intro k v hv
    rw [hversions, find_merge, hv]
    exact ⟨v, rfl, rfl, rfl⟩
  · rw [hobjects]
    exact h.put
  intro fileId n content hput
  exact nomatch hst.symm.trans hput

theorem Consistent.frame (hcommit : ∀ work, st.stmt ≠ .commit work)
    (hput : st.stmt.putsVersion = false ∨ st.env.s3 ≠ .done)
    (hsums : SumsKept c.shared.tables.versions c'.shared.tables.versions)
    (hrows : SumsKept c'.shared.tables.versions c.shared.tables.versions)
    (hchunks : c'.shared.tables.chunks = c.shared.tables.chunks)
    (hobjects : ∀ fileId n, c'.shared.objects (.version fileId n) = c.shared.objects (.version fileId n)) :
    Consistent sha256Hex c' := by
  refine h.step hmove hpast hbefore ⟨?_, ?_⟩ hsums ?_ ?_ ?_
  · intro k v hv
    obtain ⟨u, hu, hsum, htext⟩ := hrows k v hv
    obtain ⟨content, hcontent, hhash, hname⟩ := h.intact.object k u hu
    exact ⟨content, by rw [hobjects]; exact hcontent, hhash.trans hsum, htext.symm.trans hname⟩
  · unfold ChunksStaged
    rw [hchunks]
    exact h.intact.staged
  · intro work hwork
    exact absurd hwork (hcommit work)
  · intro i hi st' hst' fileId n content hstmt hdone
    rw [hobjects]
    exact h.put i hi st' hst' fileId n content hstmt hdone
  intro fileId n content hstmt hdone
  rcases hput with hput | hfailed
  · rw [hstmt] at hput
    exact nomatch hput
  · exact absurd hdone hfailed

theorem Consistent.putVersion {fileId : String} {n : Int} {content : Bytes}
    (hst : st.stmt = .putObject (.version fileId n) content) (hunput : Unput (c.proc m.1).past)
    (hfree : KeyFree c m.1 st) (htables : c'.shared.tables = c.shared.tables)
    (hobjects : c'.shared.objects = c.shared.objects.put (.version fileId n) content) :
    Consistent sha256Hex c' := by
  simp only [KeyFree, hst, hbefore] at hfree
  obtain ⟨hunrecorded, hothers⟩ := hfree
  have hother : ∀ fileId' n', (fileId', n') ≠ (fileId, n) →
      c'.shared.objects (.version fileId' n') = c.shared.objects (.version fileId' n') := by
    intro fileId' n' hne
    rw [hobjects, Objects.put, Function.update_of_ne]
    intro heq
    obtain ⟨rfl, rfl⟩ := ObjectKey.version.inj heq
    exact hne rfl
  refine h.step hmove hpast hbefore ⟨?_, ?_⟩ ?_ ?_ ?_ ?_
  · intro k v hv
    rw [htables] at hv
    have hne : k ≠ (fileId, n) := by
      rintro rfl
      cases hunrecorded.symm.trans hv
    rw [hother k.1 k.2 hne]
    exact h.intact.object k v hv
  · rw [htables]
    exact h.intact.staged
  · rw [htables]
    exact .refl _
  · intro work hwork
    cases hst.symm.trans hwork
  · intro i hi st' hst' fileId' n' content' hput hdone
    rw [hother fileId' n' ?_]
    · exact h.put i hi st' hst' fileId' n' content' hput hdone
    -- a call that has put under this key is neither this one nor another one under way
    rintro heq
    cases heq
    by_cases him : i = m.1
    · subst him
      have hnot := hunput st' hst'
      rw [hput] at hnot
      cases hnot
    · have hnot := hothers i him hi st' hst'
      rw [hput, putsUnder, beq_self_eq_true] at hnot
      cases hnot
  intro fileId' n' content' hput _
  obtain ⟨hkey, rfl⟩ := putObject.inj (hst.symm.trans hput)
  rw [hobjects, ← hkey, Objects.put, Function.update_self]

end

theorem ne_of_isStaging {key : ObjectKey} (h : key.isStaging = true) (fileId : String) (n : Int) :
    ObjectKey.version fileId n ≠ key := by
  rintro rfl
  exact nomatch h

theorem consistent_move (h : Consistent sha256Hex c)
    (hfollows : ∀ i, (c.proc i).Follows exec (ContentOwed sha256Hex))
    (hfree : ∀ st ∈ takenBy (c, m), KeyFree c m.1 st)
    (hmove : move (advance exec) c m = some c') :
    Consistent sha256Hex c' := by
  obtain ⟨st, r, htaken, henv, hbefore, hexec, howed, hpast, -⟩ := follows_move hfollows hmove
  have hrunning : (c.proc m.1).result = none := result_eq_none_of_upcoming htaken
  rw [← henv] at hexec
  have hcontent := contentStep_of_exec hexec
  have hfree := hfree st htaken
  generalize hl : st.stmt = l at hcontent howed
  cases hcontent with
  | same hversions hchunks _ hobjects hcommit hput =>
    refine h.frame hmove hpast hbefore (by rw [hl]; exact hcommit) (.inl (by rw [hl]; exact hput)) ?_ ?_
      hchunks (fun fileId n => by rw [hobjects])
    all_goals
      rw [hversions]
      exact .refl _
  | commit work hversions hchunks _ hobjects =>
    exact h.commit hmove hpast hbefore hrunning hl howed hversions hchunks hobjects
  | deactivate work fileId n hversions hchunks _ hobjects =>
    refine h.frame hmove hpast hbefore (by rw [hl]; exact nofun) (.inl (by rw [hl]; rfl)) ?_ ?_ hchunks
      (fun fileId n => by rw [hobjects])
    · rw [hversions]
      exact sumsKept_deactivated _ fileId n
    rw [hversions]
    exact sumsKept_of_deactivated _ fileId n
  | put key content htables hobjects =>
    have hframe : (∀ fileId n, c'.shared.objects (.version fileId n) = c.shared.objects (.version fileId n)) →
        (st.stmt.putsVersion = false ∨ st.env.s3 ≠ .done) → Consistent sha256Hex c' := by
      intro hsame hput
      refine h.frame hmove hpast hbefore (by rw [hl]; exact nofun) hput ?_ ?_ (by rw [htables]) hsame
      all_goals
        rw [htables]
        exact .refl _
    rcases hobjects with hdone | ⟨hsame, hfailed⟩
    · cases key with
      | version fileId n => exact h.putVersion hmove hpast hbefore hl howed hfree htables hdone
      | staging uploadId i =>
        refine hframe (fun fileId n => ?_) (.inl (by rw [hl]; rfl))
        rw [hdone, Objects.put, Function.update_of_ne (ne_of_isStaging rfl fileId n)]
    · exact hframe (fun _ _ => by rw [hsame]) (.inr hfailed)
  | delete key htables hobjects =>
    -- the key is that of a chunk the call has met
    obtain ⟨read, hread, chunk, hchunk, rfl⟩ := howed
    have hstaging : chunk.minioChunkKey.isStaging = true :=
      (h.met m.1 read hread).2 chunk.key chunk (mem_rows_iff.mp hchunk)
    refine h.frame hmove hpast hbefore (by rw [hl]; exact nofun) (.inl (by rw [hl]; rfl)) ?_ ?_
      (by rw [htables]) (fun fileId n => ?_)
    · rw [htables]
      exact .refl _
    · rw [htables]
      exact .refl _
    rcases hobjects with hdeleted | hsame
    · rw [hdeleted, Objects.delete, Function.update_of_ne (ne_of_isStaging hstaging fileId n)]
    · rw [hsame]

end

/-! ## Runs -/

section
variable {ι : Type} [DecidableEq ι] {sha256Hex : Bytes → String} {service : FilesService}
  {jobs : ι → Job} {w : World}

omit [DecidableEq ι] in
theorem consistent_start (hw : Intact sha256Hex w) :
    Consistent sha256Hex (Engine.start sha256Hex service jobs w) where
  intact := hw
  met := fun _ _ hst => absurd hst List.not_mem_nil
  committed := fun _ _ hst => absurd hst List.not_mem_nil
  put := fun _ _ _ hst => absurd hst List.not_mem_nil

theorem consistent_along_run (hjobs : ∀ i, (jobs i).recordsByHand = false) (hw : Intact sha256Hex w)
    {ms : List (ι × Env)} {d : Engine ι}
    (hfree : ∀ e ∈ trace (advance exec) (Engine.start sha256Hex service jobs w) ms,
      ∀ st ∈ takenBy e, KeyFree e.1 e.2.1 st)
    (hrun : run (advance exec) (Engine.start sha256Hex service jobs w) ms = some d) :
    Consistent sha256Hex d := by
  refine (run_induction (I := fun c => (∀ i, (c.proc i).Follows exec (ContentOwed sha256Hex)) ∧
      Consistent sha256Hex c)
    (A := fun c m => ∀ st ∈ takenBy (c, m), KeyFree c m.1 st) ?_
    ⟨fun i => follows_start (program_contentOwed sha256Hex service (hjobs i)), consistent_start hw⟩
    hfree hrun).2
  rintro c m c' hfree ⟨hfollows, hconsistent⟩ hmove
  obtain ⟨st, r, -, -, -, -, -, -, hfollows'⟩ := follows_move hfollows hmove
  exact ⟨hfollows', consistent_move hconsistent hfollows hfree hmove⟩

end

/-- **The active version's object hashes to its checksum**, in every run that records no version by hand, from
any store where it is so, as long as every version is put where none is recorded and no other call under
way has put one. -/
theorem active_version_intact {ι : Type} [DecidableEq ι] (sha256Hex : Bytes → String)
    (service : FilesService) (jobs : ι → Job) (w : World) (ms : List (ι × Env)) (d : Engine ι)
    (hjobs : ∀ i, (jobs i).recordsByHand = false) (hw : Intact sha256Hex w)
    (hfree : ∀ e ∈ trace (advance exec) (Engine.start sha256Hex service jobs w) ms,
      ∀ st ∈ takenBy e, KeyFree e.1 e.2.1 st)
    (hrun : run (advance exec) (Engine.start sha256Hex service jobs w) ms = some d)
    (fileId : String) (v : FileVersionEntity)
    (hv : d.shared.tables.findActiveVersion fileId = some v) :
    v.minioObjectKey = (ObjectKey.version v.fileId v.versionNumber).text ∧
      ∃ content, d.shared.objects (.version v.fileId v.versionNumber) = some content ∧
        sha256Hex content = v.checksumSha256 := by
  obtain ⟨hfound, rfl, -⟩ := Tables.findActiveVersion_eq_some hv
  obtain ⟨content, hcontent, hsum, htext⟩ :=
    (consistent_along_run hjobs hw hfree hrun).intact.object _ v hfound
  exact ⟨htext, content, hcontent, hsum⟩

/-! ## Two sessions of one file -/

namespace TwoSessions

open OneOctet (fileId ownerUserId service creation)

def uploadId : Bool → String
  | false => "00000000-0000-7000-8000-0000000000e1"
  | true => "00000000-0000-7000-8000-0000000000e2"

def sha256Hex (b : Bytes) : String := String.ofList (List.replicate 64 (if b = [7] then '0' else '1'))

def content : Bool → Bytes
  | false => [7]
  | true => [8]

def chunk (b : Bool) : UploadChunkRequest where
  peer := some (some "gateway")
  payload :=
    { uploadId := uploadId b, chunkIndex := 0, encryptedData := content b, chunkSizeBytes := 1
      claimedSha256 := sha256Hex (content b) }

inductive Caller
  | owner
  | creates (b : Bool)
  | uploads (b : Bool)
  | finalizes (b : Bool)
deriving DecidableEq, Fintype

def jobs : Caller → Job
  | .owner => .createFile creation 0
  | .creates b => .createSession (uploadId b) fileId ownerUserId 1 1
  | .uploads b => .uploadChunk (chunk b)
  | .finalizes b => .finalizeFileUpload { uploadId := uploadId b }

def start : Engine Caller := .start sha256Hex service jobs { tables := {} }

def moves (caller : Caller) (n : Nat) : List (Caller × Env) := List.replicate n (caller, { now := 0 })

def uploaded : List (Caller × Env) :=
  moves .owner 2 ++ moves (.creates false) 2 ++ moves (.creates true) 2 ++ moves (.uploads false) 13 ++
    moves (.uploads true) 13

def active (d : Engine Caller) : Option (String × Bytes) :=
  (d.shared.tables.findActiveVersion fileId).bind fun v =>
    (d.shared.objects (.version v.fileId v.versionNumber)).map fun content => (v.checksumSha256, content)

theorem exists_of_active (ms : List (Caller × Env)) (callers : List Caller) (sum : String)
    (content : Bytes) (h : ((run (advance exec) start ms).map fun d =>
      (decide (∀ i ∈ callers, (d.proc i).result ≠ none), active d)) = some (true, some (sum, content))) :
    ∃ d v, run (advance exec) start ms = some d ∧ (∀ i ∈ callers, (d.proc i).result ≠ none) ∧
      d.shared.tables.findActiveVersion fileId = some v ∧ v.checksumSha256 = sum ∧
      d.shared.objects (.version v.fileId v.versionNumber) = some content := by
  obtain ⟨d, hd, hpair⟩ := map_eq_some_iff.mp h
  obtain ⟨hreturned, hactive⟩ := Prod.mk.inj hpair
  obtain ⟨v, hv, hcontent⟩ := bind_eq_some_iff.mp hactive
  obtain ⟨content', hcontent', heq⟩ := map_eq_some_iff.mp hcontent
  cases heq
  exact ⟨d, v, hd, of_decide_eq_true hreturned, hv, rfl, hcontent'⟩

/-- Both finalizations compute version 1. The second puts its object after the first has recorded the version,
loses the race for the row and reports the first one's. -/
theorem loser_overwrites_object :
    ∃ d v content, run (advance exec) start (uploaded ++ moves (.finalizes true) 8 ++
        moves (.finalizes false) 17 ++ moves (.finalizes true) 6) = some d ∧
      (∀ i ∈ [Caller.finalizes false, Caller.finalizes true], (d.proc i).result ≠ none) ∧
      d.shared.tables.findActiveVersion fileId = some v ∧
      d.shared.objects (.version v.fileId v.versionNumber) = some content ∧
      sha256Hex content ≠ v.checksumSha256 := by
  obtain ⟨d, v, hd, hreturned, hv, hsum, hcontent⟩ := exists_of_active
    (uploaded ++ moves (.finalizes true) 8 ++ moves (.finalizes false) 17 ++ moves (.finalizes true) 6)
    [.finalizes false, .finalizes true] (sha256Hex [7]) [8] (by decide)
  refine ⟨d, v, [8], hd, hreturned, hv, hcontent, ?_⟩
  rw [hsum]
  decide

theorem single_finalization_intact : ∃ d v content, run (advance exec) start
        (uploaded ++ moves (.finalizes false) 17 ++ moves (.finalizes true) 6) = some d ∧
      d.shared.tables.findActiveVersion fileId = some v ∧
      d.shared.objects (.version v.fileId v.versionNumber) = some content ∧
      sha256Hex content = v.checksumSha256 := by
  obtain ⟨d, v, hd, -, hv, -, -⟩ := exists_of_active
    (uploaded ++ moves (.finalizes false) 17 ++ moves (.finalizes true) 6) [] (sha256Hex [7]) [7]
    (by decide)
  obtain ⟨-, content, hcontent, hsum⟩ := active_version_intact sha256Hex service jobs { tables := {} } _ d
    (by decide) (intact_of_empty rfl) (by decide) hd fileId v hv
  exact ⟨d, v, content, hd, hv, hcontent, hsum⟩

end TwoSessions

end SecureCloud.Files
