import SecureCloud.Files.Obligations

/-
# Files.StatusOrder — committed statuses and the lifecycle

A transaction commits THE COPY it made of a row when it first updated it, and so writes over statuses it
has never seen: a finalization that copied its file while it was uploading makes it available, whatever
has been committed in between.

The committed statuses of a run are in order as long as each commit finds the rows as its transaction
copied them. If one does not, a deleted file can come back. And a finalization writes FINALIZING and
AVAILABLE in ONE transaction, so that what it commits follows UPLOADING, which the lifecycle refuses.
-/

namespace SecureCloud.Files

open Lib.Program Lib.Interleaving Lib.Table Statement

/-! ## One statement -/

theorem exec_files {l : Statement} {x : Env} {w w' : World} {r : l.Resp}
    (h : l.exec x w = some (r, w')) :
    w'.tables.files = w.tables.files ∨
      ∃ work, l = .commit work ∧ w'.tables.files = w.tables.files.merge work.files := by
  cases l with
  | commit work =>
    cases h
    exact .inr ⟨work, rfl, rfl⟩
  | lockSession uploadId =>
    simp only [exec] at h
    split at h
    · cases h
    cases h
    exact .inl rfl
  | putObject key payload =>
    simp only [exec] at h
    split at h <;>
      (cases h
       exact .inl rfl)
  | deleteObject key =>
    simp only [exec] at h
    split at h <;>
      (cases h
       exact .inl rfl)
  | clock | unlockSession | isDeviceRevoked | markDeviceRevoked | clearRevocation | select | stage
  | deactivateOtherVersions | getObject | getObjectRange =>
    cases h
    exact .inl rfl

/-- A commit finds the rows as its transaction copied them; of a new file there is none. -/
def RowsAsCopied (past : Past) (st : Step Statement Env World) : Prop :=
  match st.stmt with
  | .commit work => ∀ file ∈ work.files.rows,
      st.before.tables.files.find file.fileId = copied past file.fileId
  | _ => True

instance (past : Past) (st : Step Statement Env World) : Decidable (RowsAsCopied past st) := by
  unfold RowsAsCopied
  generalize st.stmt = l
  induction l using Statement.casesOn <;> (dsimp only; infer_instance)

/-- The transaction that is committed has moved each of its files by one status at most. A finalization
moves its file by two, from UPLOADING to FINALIZING and on to AVAILABLE. -/
def SingleStep (past : Past) (st : Step Statement Env World) : Prop :=
  match st.stmt with
  | .commit work => ∀ file ∈ work.files.rows, (written past file.fileId).length ≤ 1
  | _ => True

/-- The committed statuses follow `is_valid_state_transition`: every file that has a status keeps it, or
takes one that comes after it. -/
def StatusesFollow (w w' : World) : Prop :=
  ∀ fileId old, w.tables.files.find fileId = some old →
    ∃ new, w'.tables.files.find fileId = some new ∧
      (new.status = old.status ∨ isValidStateTransition old.status new.status = true)

def TerminalKept (w w' : World) : Prop :=
  ∀ fileId old, w.tables.files.find fileId = some old → isTerminalState old.status = true →
    ∃ new, w'.tables.files.find fileId = some new ∧ new.status = old.status

theorem TerminalKept.refl (w : World) : TerminalKept w w := fun _ old hold _ => ⟨old, hold, rfl⟩

theorem TerminalKept.trans {w₁ w₂ w₃ : World} (h : TerminalKept w₁ w₂) (h' : TerminalKept w₂ w₃) :
    TerminalKept w₁ w₃ := by
  intro fileId old hold hterminal
  obtain ⟨mid, hmid, hstatus⟩ := h fileId old hold hterminal
  obtain ⟨new, hnew, hstatus'⟩ := h' fileId mid hmid (hstatus ▸ hterminal)
  exact ⟨new, hnew, hstatus'.trans hstatus⟩

/-- A row that is written over was copied by the call, and has gone through the statuses it has written. -/
theorem orderly_of_exec {past : Past} {st : Step Statement Env World} {w' : World}
    {r : st.stmt.Resp} (howed : StatusOwed past st.stmt) (hcopied : RowsAsCopied past st)
    (hexec : st.stmt.exec st.env st.before = some (r, w')) {fileId : String} {old : FileEntity}
    (hold : st.before.tables.files.find fileId = some old) :
    ∃ new, w'.tables.files.find fileId = some new ∧ (new.status = old.status ∨
      Orderly old.status (written past fileId) new.status ∧
        ∃ work, st.stmt = .commit work ∧ new ∈ work.files.rows) := by
  rcases exec_files hexec with hsame | ⟨work, hcommit, hmerged⟩
  · exact ⟨old, by rw [hsame]; exact hold, .inl rfl⟩
  rw [hmerged, Keyed.find_merge]
  cases hwork : work.files.find fileId with
  | none => exact ⟨old, hold, .inl rfl⟩
  | some new =>
    have hkey : new.fileId = fileId := Keyed.key_of_find hwork
    have hrow : new ∈ work.files.rows := Keyed.mem_rows_iff.mpr (by rw [hkey]; exact hwork)
    refine ⟨new, rfl, .inr ⟨?_, work, hcommit, hrow⟩⟩
    -- the row that is overwritten is the row that was copied
    simp only [RowsAsCopied, hcommit] at hcopied
    have hbase : copied past fileId = some old := by
      rw [← hkey, ← hcopied new hrow, hkey]
      exact hold
    rw [hcommit] at howed
    exact howed fileId new old hwork hbase

section
variable {past : Past} {st : Step Statement Env World} {w' : World} {r : st.stmt.Resp}
  (howed : StatusOwed past st.stmt) (hcopied : RowsAsCopied past st)
  (hexec : st.stmt.exec st.env st.before = some (r, w'))

include howed hcopied hexec

theorem terminalKept_of_exec : TerminalKept st.before w' := by
  intro fileId old hold hterminal
  obtain ⟨new, hnew, hsame | ⟨horderly, -⟩⟩ := orderly_of_exec howed hcopied hexec hold
  · exact ⟨new, hnew, hsame⟩
  · exact ⟨new, hnew, horderly.eq_of_terminal hterminal⟩

theorem statusesFollow_of_exec (hsingle : SingleStep past st) : StatusesFollow st.before w' := by
  intro fileId old hold
  obtain ⟨new, hnew, hsame | ⟨horderly, work, hcommit, hrow⟩⟩ :=
    orderly_of_exec howed hcopied hexec hold
  · exact ⟨new, hnew, .inl hsame⟩
  have hlength : (written past fileId).length ≤ 1 := by
    simp only [SingleStep, hcommit] at hsingle
    rw [← Keyed.key_of_find hnew]
    exact hsingle new hrow
  refine ⟨new, hnew, ?_⟩
  generalize hstatus : new.status = s at horderly ⊢
  generalize written past fileId = ws at horderly hlength
  cases horderly with
  | stays => exact .inl rfl
  | moves h => exact .inr h
  | finalizes h h' => simp at hlength

end

/-! ## Runs -/

section
variable {ι : Type} [DecidableEq ι] (sha256Hex : Bytes → String) (service : FilesService)
  (jobs : ι → Job) (w : World)

abbrev InOrder (J : Engine ι → Prop) : Engine ι → Prop :=
  Standing exec StatusOwed RowsAsCopied (fun _ _ => True) J

theorem statusesFollow_of_move {J : Engine ι → Prop} {c c' : Engine ι} {m : ι × Env}
    (h : InOrder J c) (hcopied : ∀ st ∈ takenBy (c, m), RowsAsCopied (c.proc m.1).past st)
    (hsingle : ∀ st ∈ takenBy (c, m), SingleStep (c.proc m.1).past st)
    (hmove : move (Call.advance exec) c m = some c') : StatusesFollow c.shared c'.shared := by
  obtain ⟨st, r, htaken, henv, hbefore, hexec, howed, -, -⟩ := follows_move h.follows hmove
  rw [← henv, ← hbefore] at hexec
  rw [← hbefore]
  exact statusesFollow_of_exec howed (hcopied st htaken) hexec (hsingle st htaken)

omit [DecidableEq ι] in
theorem inOrder_start (J : Engine ι → Prop) (hJ : J (.start sha256Hex service jobs w)) :
    InOrder J (.start sha256Hex service jobs w) :=
  Standing.init (fun i => program_statusOwed sha256Hex service (jobs i)) hJ

theorem stepKeeps_terminalKept (w₀ : World) :
    StepKeeps exec StatusOwed RowsAsCopied (fun _ _ => True)
      (fun c : Engine ι => TerminalKept w₀ c.shared) := by
  intro c c' i st r hcopied hbefore hexec howed _ _ hkept
  have hstep := terminalKept_of_exec howed hcopied hexec
  rw [hbefore] at hstep
  exact hkept.trans hstep

/-- **Committed statuses follow the lifecycle, and terminal ones stay**: in every run of any calls, from any
store, as long as each commit finds its rows as they were copied; the first with every commit that moves
its files by one status. -/
theorem statuses_follow_lifecycle (before after : List (ι × Env)) (d e : Engine ι)
    (hcopied : ∀ m ∈ trace (Call.advance exec) (Engine.start sha256Hex service jobs w)
      (before ++ after), ∀ st ∈ takenBy m, RowsAsCopied (m.1.proc m.2.1).past st)
    (hbefore : run (Call.advance exec) (Engine.start sha256Hex service jobs w) before = some d)
    (hafter : run (Call.advance exec) d after = some e) :
    (∀ m ∈ trace (Call.advance exec) (Engine.start sha256Hex service jobs w)
      (before ++ after), (∀ st ∈ takenBy m, SingleStep (m.1.proc m.2.1).past st) →
        ∀ c', move (Call.advance exec) m.1 m.2 = some c' → StatusesFollow m.1.shared c'.shared) ∧
    TerminalKept d.shared e.shared := by
  have hstart := inOrder_start sha256Hex service jobs w (fun _ => True) trivial
  have hkeeps : StepKeeps exec StatusOwed RowsAsCopied (fun _ _ => True)
      (fun _ : Engine ι => True) := fun _ _ _ _ _ _ _ _ _ _ _ _ => trivial
  constructor
  · intro m hm hsingle c' hmove
    have hstand := hstart.trace (fun _ => trivial) (fun _ _ _ _ _ _ _ _ => trivial) hkeeps hcopied m hm
    exact statusesFollow_of_move hstand (hcopied m hm) hsingle hmove
  rw [trace_append hbefore] at hcopied
  have hd := hstart.run (fun _ => trivial) (fun _ _ _ _ _ _ _ _ => trivial) hkeeps
    (fun m hm => hcopied m (List.mem_append_left _ hm)) hbefore
  have hkept : InOrder (fun c => TerminalKept d.shared c.shared) d :=
    ⟨hd.follows, hd.kept, TerminalKept.refl _⟩
  exact (hkept.run (fun _ => trivial) (fun _ _ _ _ _ _ _ _ => trivial)
    (stepKeeps_terminalKept d.shared) (fun m hm => hcopied m (List.mem_append_right _ hm)) hafter).holds

end

/-! ## A deleted file comes back -/

namespace OneOctet

theorem exists_of_status {ms : List (Nat × Env)} {s : FileStatus} (h : status ms = some s) :
    ∃ d file, run (Call.advance exec) start ms = some d ∧
      d.shared.tables.files.find fileId = some file ∧ file.status = s := by
  obtain ⟨d, hd, hfound⟩ := Option.bind_eq_some_iff.mp h
  obtain ⟨file, hfile, hstatus⟩ := Option.map_eq_some_iff.mp hfound
  exact ⟨d, file, hd, hfile, hstatus⟩

/-- The finalization has copied the uploading file when the deletion is committed; its own commit then
makes the file available. Undisturbed, it takes the file from UPLOADING to AVAILABLE in one commit. -/
theorem deleted_becomes_available :
    (∃ d e, run (Call.advance exec) start (uploaded ++ moves 3 5 ++ moves 4 3) = some d ∧
      run (Call.advance exec) d (moves 3 10) = some e ∧
      (∃ file, d.shared.tables.files.find fileId = some file ∧ file.status = .deleted) ∧
      (∃ file, e.shared.tables.files.find fileId = some file ∧ file.status = .available)) ∧
    status (uploaded ++ moves 3 14) = some .uploading ∧
    status (uploaded ++ moves 3 15) = some .available ∧
    isValidStateTransition .uploading .available = false := by
  refine ⟨?_, by decide, by decide, rfl⟩
  obtain ⟨d, file, hd, hfile, hstatus⟩ := exists_of_status
    (show status (uploaded ++ moves 3 5 ++ moves 4 3) = some .deleted by decide)
  obtain ⟨e, file', he, hfile', hstatus'⟩ := exists_of_status
    (show status (uploaded ++ moves 3 5 ++ moves 4 3 ++ moves 3 10) = some .available by decide)
  rw [run_append_eq, hd] at he
  exact ⟨d, e, hd, he, ⟨file, hfile, hstatus⟩, ⟨file', hfile', hstatus'⟩⟩

/-- One call after the other the file is uploaded, made available, deleted, and stays deleted. -/
theorem deleted_stays_deleted :
    ∃ d e, run (Call.advance exec) start (uploaded ++ moves 3 17 ++ moves 4 3) = some d ∧
      run (Call.advance exec) d (moves 5 1) = some e ∧
      (∃ file, d.shared.tables.files.find fileId = some file ∧ file.status = .deleted) ∧
      (∀ m ∈ trace (Call.advance exec) start (uploaded ++ moves 3 17 ++ moves 4 3 ++ moves 5 1),
        (∀ st ∈ takenBy m, SingleStep (m.1.proc m.2.1).past st) →
          ∀ c', move (Call.advance exec) m.1 m.2 = some c' → StatusesFollow m.1.shared c'.shared) ∧
      TerminalKept d.shared e.shared := by
  obtain ⟨d, file, hd, hfile, hstatus⟩ := exists_of_status
    (show status (uploaded ++ moves 3 17 ++ moves 4 3) = some .deleted by decide)
  obtain ⟨e, _, he, -, -⟩ := exists_of_status
    (show status (uploaded ++ moves 3 17 ++ moves 4 3 ++ moves 5 1) = some .deleted by decide)
  rw [run_append_eq, hd] at he
  exact ⟨d, e, hd, he, ⟨file, hfile, hstatus⟩, statuses_follow_lifecycle sha256Hex service jobs
    { tables := {} } _ (moves 5 1) d e (by decide) hd he⟩

end OneOctet

end SecureCloud.Files
