import SecureCloud.Files.QuietCalls

/-
# Files.StatusUpdates — what each transaction writes over the row it copied

`is_valid_state_transition` is asked before every update of a status, against the status the caller
names; the store compares that with the row. `copied` is the row a transaction copied, `written` the
statuses it wrote over it. EVERY TRANSACTION BY ITSELF IS IN ORDER: it goes along the lifecycle
(`Orderly`), in one transition, or in the two of a finalization. That is an obligation on the past of a
call (`StatusOwed`).
-/

namespace SecureCloud.Files

open Lib.Program Lib.Table List Option

/-! ## What a transaction copied and wrote -/

def copies (fileId : String) (st : Step Statement Env World) : Bool :=
  match st.stmt with
  | .stage work (.fileStatus id _ _) => id == fileId && (work.files.find fileId).isNone
  | _ => false

def copied (past : Past) (fileId : String) : Option FileEntity :=
  (past.find? (copies fileId)).bind fun st => st.before.tables.files.find fileId

def statusWritten (fileId : String) (st : Step Statement Env World) : Option FileStatus :=
  match st.stmt with
  | .stage work (.fileStatus id expected new) =>
    if id = fileId ∧ ((st.before.tables.merge work).files.find id).map FileEntity.status = some expected
    then some new else none
  | _ => none

def written (past : Past) (fileId : String) : List FileStatus :=
  past.reverse.filterMap (statusWritten fileId)

def Statement.updatesStatus : Statement → Bool
  | .stage _ (.fileStatus _ _ _) => true
  | _ => false

section
variable {past : Past} {st : Step Statement Env World} {fileId : String}

theorem written_cons :
    written (st :: past) fileId = written past fileId ++ (statusWritten fileId st).toList := by
  unfold written
  rw [reverse_cons, filterMap_append]
  cases h : statusWritten fileId st <;> simp [h]

theorem statusWritten_other (h : st.stmt.updatesStatus = false) : statusWritten fileId st = none := by
  unfold statusWritten
  split
  next heq =>
    rw [heq] at h
    exact nomatch h
  · rfl

theorem written_cons_other (h : st.stmt.updatesStatus = false) :
    written (st :: past) fileId = written past fileId := by
  rw [written_cons, statusWritten_other h]
  exact append_nil _

theorem copied_cons_of_not_copies (h : copies fileId st = false) :
    copied (st :: past) fileId = copied past fileId := by
  unfold copied
  rw [find?_cons_of_neg (by simp [h])]

theorem copied_cons_of_copies (h : copies fileId st = true) :
    copied (st :: past) fileId = st.before.tables.files.find fileId := by
  unfold copied
  rw [find?_cons_of_pos h]
  rfl

theorem copied_cons_other (h : st.stmt.updatesStatus = false) :
    copied (st :: past) fileId = copied past fileId := by
  refine copied_cons_of_not_copies ?_
  unfold copies
  split
  next heq =>
    rw [heq] at h
    exact nomatch h
  · rfl

end

/-! ## In order -/

/-- Along the lifecycle, by the statuses a transaction wrote: none, one valid transition, or the two
of a finalization. -/
inductive Orderly : FileStatus → List FileStatus → FileStatus → Prop
  | stays (s : FileStatus) : Orderly s [] s
  | moves {s t : FileStatus} (h : isValidStateTransition s t = true) : Orderly s [t] t
  | finalizes {s : FileStatus} (h : isValidStateTransition s .finalizing = true)
      (h' : isValidStateTransition .finalizing .available = true) :
      Orderly s [.finalizing, .available] .available

theorem not_isValidStateTransition_self (status : FileStatus) :
    isValidStateTransition status status = false := by
  cases status <;> rfl

def isTerminalState (status : FileStatus) : Bool := status == .deleted || status == .failed

theorem not_isValidStateTransition_of_terminal {s t : FileStatus} (h : isTerminalState s = true) :
    isValidStateTransition s t = false := by
  cases s with
  | deleted => rfl
  | failed => rfl
  | created | uploading | finalizing | available | expired => exact nomatch h

namespace Orderly

variable {old s n : FileStatus} {ws : List FileStatus}

theorem eq_of_terminal (h : Orderly old ws s) (hold : isTerminalState old = true) : s = old := by
  cases h with
  | stays => rfl
  | moves h | finalizes h =>
    exact absurd h (by rw [not_isValidStateTransition_of_terminal hold]; exact nofun)

/-- One more status, the first of its kind in the transaction or the second one of a finalization. -/
theorem extend (h : Orderly old ws s) (hvalid : isValidStateTransition s n = true)
    (hn : (∀ t ∈ ws, t = n) ∨ (s = .finalizing ∧ n = .available)) : Orderly old (ws ++ [n]) n := by
  cases h with
  | stays => exact .moves hvalid
  | moves h =>
    rcases hn with hsame | ⟨rfl, rfl⟩
    · -- the status is there already, and no status leads to itself
      rw [hsame s (mem_singleton_self s), not_isValidStateTransition_self] at hvalid
      exact nomatch hvalid
    · exact .finalizes h hvalid
  | finalizes h h' =>
    rcases hn with hsame | ⟨hs, -⟩
    · have hfirst : FileStatus.finalizing = n := hsame _ (by simp)
      have hsecond : FileStatus.available = n := hsame _ (by simp)
      exact nomatch hfirst.trans hsecond.symm
    · exact nomatch hs

end Orderly

/-! ## Transactions are in order

`Staged` relates the rows a transaction has written to what the call has done; each update of a status
keeps it. -/

structure Staged (past : Past) (work : Tables) : Prop where
  orderly : ∀ fileId file base, work.files.find fileId = some file → copied past fileId = some base →
    Orderly base.status (written past fileId) file.status
  untouched : ∀ fileId, work.files.find fileId = none → written past fileId = []

section
variable {past : Past} {work work' : Tables} {fileId : String} {expected new : FileStatus} {x : Env}
  {w : World}

theorem staged_nil : Staged [] {} := ⟨nofun, fun _ _ => rfl⟩

theorem Staged.cons {st : Step Statement Env World} (h : Staged past work)
    (hst : st.stmt.updatesStatus = false) (hfiles : work'.files = work.files) :
    Staged (st :: past) work' := by
  constructor
  · intro id file base hfile hbase
    rw [hfiles] at hfile
    rw [copied_cons_other hst] at hbase
    rw [written_cons_other hst]
    exact h.orderly id file base hfile hbase
  intro id hid
  rw [hfiles] at hid
  rw [written_cons_other hst]
  exact h.untouched id hid

open Keyed

theorem find_setFileStatus_of_ne {id : String} (hne : id ≠ fileId) :
    (w.tables.setFileStatus work fileId expected new).2.files.find id = work.files.find id := by
  unfold Tables.setFileStatus
  split
  · rfl
  rename_i file hfile
  have hkey : file.fileId = fileId := key_of_find hfile
  split <;> exact find_write_of_ne _ (by simpa [hkey] using hne)

theorem find_setFileStatus_self :
    (w.tables.setFileStatus work fileId expected new).2.files.find fileId =
      ((w.tables.merge work).files.find fileId).map fun file =>
        if file.status = expected then { file with status := new } else file := by
  unfold Tables.setFileStatus
  split
  next hnone =>
    have hwork := (find_merge w.tables.files work.files fileId).symm.trans hnone
    rw [hnone, (or_eq_none_iff.mp hwork).1]
    rfl
  rename_i file hfile
  have hkey : file.fileId = fileId := key_of_find hfile
  rw [hfile, map_some]
  split
  · subst hkey
    exact find_write_self work.files { file with status := new }
  subst hkey
  exact find_write_self work.files file

theorem Staged.seen {file base : FileEntity} (h : Staged past work)
    (hfile : (w.tables.merge work).files.find fileId = some file)
    (hbase : copied (⟨.stage work (.fileStatus fileId expected new), x, w⟩ :: past) fileId = some base) :
    Orderly base.status (written past fileId) file.status := by
  replace hfile := (find_merge w.tables.files work.files fileId).symm.trans hfile
  cases hwork : work.files.find fileId with
  | some own =>
    rw [hwork, some_or] at hfile
    rw [copied_cons_of_not_copies (by simp [copies, hwork])] at hbase
    exact h.orderly fileId file base (hwork.trans hfile) hbase
  | none =>
    rw [hwork, none_or] at hfile
    rw [copied_cons_of_copies (by simp [copies, hwork]), hfile] at hbase
    cases hbase
    rw [h.untouched fileId hwork]
    exact .stays _

theorem Staged.update (h : Staged past work) (hvalid : isValidStateTransition expected new = true)
    (hnew : (∀ t ∈ written past fileId, t = new) ∨ (expected = .finalizing ∧ new = .available)) :
    Staged (⟨.stage work (.fileStatus fileId expected new), x, w⟩ :: past)
      (w.tables.setFileStatus work fileId expected new).2 := by
  constructor
  · intro id file base hfile hbase
    rw [written_cons]
    by_cases hid : id = fileId
    · subst hid
      rw [find_setFileStatus_self] at hfile
      obtain ⟨own, hown, rfl⟩ := map_eq_some_iff.mp hfile
      have hseen := h.seen hown hbase
      by_cases hexpected : own.status = expected
      · simp only [statusWritten, hown, hexpected, map_some, and_self, if_true, toList_some]
        exact (hexpected ▸ hseen).extend hvalid hnew
      · simpa [statusWritten, hown, hexpected] using hseen
    · rw [find_setFileStatus_of_ne hid] at hfile
      rw [copied_cons_of_not_copies (by simp [copies, Ne.symm hid])] at hbase
      simpa [statusWritten, Ne.symm hid] using h.orderly id file base hfile hbase
  intro id hnone
  rw [written_cons]
  by_cases hid : id = fileId
  · subst hid
    rw [find_setFileStatus_self, map_eq_none_iff] at hnone
    have hwork := (find_merge w.tables.files work.files id).symm.trans hnone
    simpa [statusWritten, hnone] using h.untouched id (or_eq_none_iff.mp hwork).1
  · rw [find_setFileStatus_of_ne hid] at hnone
    simpa [statusWritten, Ne.symm hid] using h.untouched id hnone

end

/-! ## What the calls owe

A call owes that what it commits is in order. The other statements owe nothing. -/

def StatusOwed (past : Past) : Statement → Prop
  | .commit work => ∀ fileId file base, work.files.find fileId = some file →
      copied past fileId = some base → Orderly base.status (written past fileId) file.status
  | _ => True

section
variable {past : Past} {work : Tables}

theorem Staged.owed (h : Staged past work) : StatusOwed past (.commit work) := h.orderly

theorem statusOwed_of_no_file (h : work.files = .empty) : StatusOwed past (.commit work) := by
  intro fileId file base hfile _
  rw [h] at hfile
  exact nomatch hfile

theorem Statement.Quiet.not_updatesStatus {l : Statement} (h : l.Quiet) : l.updatesStatus = false := by
  unfold Statement.updatesStatus
  split
  · exact h.elim
  · rfl

theorem Statement.Quiet.statusOwed {l : Statement} (h : l.Quiet) : StatusOwed past l := by
  unfold StatusOwed
  split
  · exact statusOwed_of_no_file h.1
  · trivial

end

end SecureCloud.Files
