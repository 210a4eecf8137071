import SecureCloud.Messaging.Submission

/-
# Messaging.SubmissionSteps — what one move of `submit_message` can do

`Moves` lists the moves of `SubmissionEnv.next` by EFFECT, and `moves_of_next` shows the list is
complete. Every invariant of the submission protocol is proved over `Moves`; nothing after this
module unfolds `next`.
-/

namespace SecureCloud.Messaging

def Pc.holds : Pc → Option SubmissionKey
  | .idle => none
  | .locking _ => none
  | .evaluating cmd _ _ => some cmd.key
  | .claiming a => some a.key
  | .allocating a => some a.key
  | .saving a _ _ => some a.key
  | .queueing a _ _ _ => some a.key
  | .tracking a _ _ => some a.key
  | .enqueueing a _ => some a.key
  | .committing a _ => some a.key
  | .failing a _ => some a.key
  | .recordingFailure a _ _ => some a.key

def Pc.trying : Pc → Option Attempt
  | .allocating a => some a
  | .saving a _ _ => some a
  | .queueing a _ _ _ => some a
  | .tracking a _ _ => some a
  | .enqueueing a _ => some a
  | .committing a _ => some a
  | _ => none

def Pc.loopEnd : Pc → Bool
  | .queueing _ _ _ [] => true
  | .tracking _ _ [] => true
  | _ => false

def SubmissionResult.Negative (r : SubmissionResult) : Prop := ∀ resp, r ≠ .ok resp

def Input.takesEffect : Input → Bool
  | .submit .. => false
  | .resume outcome .. => outcome.takesEffect

def Input.throws : Input → Bool
  | .submit .. => false
  | .resume outcome .. => outcome.thrown.isSome

/-- Where a write of the `try` block leads: to `next` when it returned, to the `catch` block when it
threw. -/
def Input.Leads (x : Input) (a : Attempt) (next pc' : Pc) : Prop :=
  (x.throws = false ∧ pc' = next) ∨ (x.throws = true ∧ ∃ what, pc' = .failing a what)

namespace SubmissionEnv

/-- The moves, by effect. -/
inductive Moves (env : SubmissionEnv) (i : Nat) (x : Input) : Pc → World → Pc → World → Prop
  /-- Refused by the validator, the authorization service or the envelope validator. -/
  | refuse {w : World} {key : SubmissionKey} {result : SubmissionResult} (h : result.Negative) :
      Moves env i x .idle w .idle { w with log := .replied key result :: w.log }
  | accept {w : World} {cmd : MessageSubmissionCommand} {now : TimePoint}
      (h : validateSubmission now cmd = none) : Moves env i x .idle w (.locking cmd) w
  | lock {w : World} {cmd : MessageSubmissionCommand} {fp : String}
      (h : w.stripes (env.stripe cmd.key) = none) :
      Moves env i x (.locking cmd) w (.evaluating cmd fp 0)
        { w with stripes := Function.update w.stripes (env.stripe cmd.key) (some i) }
  | wait {w : World} {cmd : MessageSubmissionCommand} {fp : String} {n : Nat} :
      Moves env i x (.evaluating cmd fp n) w (.evaluating cmd fp (n + 1)) w
  /-- A committed record answers the call. -/
  | replay {w : World} {cmd : MessageSubmissionCommand} {fp : String} {n : Nat}
      {r : IdempotencyRecord} (h : w.store.submissions cmd.key = some r)
      (hs : r.submissionStatus = .committed) :
      Moves env i x (.evaluating cmd fp n) w .idle (env.finish w cmd.key (.ok (cachedResponse r))).2
  /-- The call ends without a message and without touching the store. -/
  | giveUp {w : World} {pc : Pc} {key : SubmissionKey} {result : SubmissionResult}
      (h : pc.holds = some key) (ht : pc.trying = none) (hr : result.Negative) :
      Moves env i x pc w .idle (env.finish w key result).2
  | mint {w : World} {cmd : MessageSubmissionCommand} {fp : String} {n : Nat} {m : MessageId}
      {now : TimePoint} (hm : w.issued m = false)
      (h : ∀ r, w.store.submissions cmd.key = some r → r.submissionStatus = .failed) :
      Moves env i x (.evaluating cmd fp n) w (.claiming ⟨cmd, fp, m, now⟩)
        { w with log := .minted m cmd :: w.log }
  | claim {w : World} {a : Attempt} {now : TimePoint} :
      Moves env i x (.claiming a) w (.allocating a)
        { w with store := w.store.saveSubmission (a.processingRecord now) }
  /-- `mark_processing` timed out: the record is written, the caller gets an exception. -/
  | claimLost {w : World} {a : Attempt} {now : TimePoint} : Moves env i x (.claiming a) w .idle
        (env.finish { w with store := w.store.saveSubmission (a.processingRecord now) }
          a.key .thrown).2
  | allocate {w : World} {a : Attempt} {b : MessageBucket}
      (h : MessageBucket.fromTimePoint a.acceptedAt = some b) :
      Moves env i x (.allocating a) w
        (.saving a b (w.counters.allocateSequence w.store a.cmd.conversationId b).1)
        { w with counters := (w.counters.allocateSequence w.store a.cmd.conversationId b).2 }
  /-- A call of the `try` block throws without having had an effect. -/
  | throw {w : World} {pc : Pc} {a : Attempt} {what : String} (h : pc.trying = some a)
      (hcall : pc.loopEnd = false)
      (hx : (∀ a, pc ≠ .allocating a) → x.throws = true ∧ x.takesEffect = false) :
      Moves env i x pc w (.failing a what) w
  | persist {w : World} {a : Attempt} {b : MessageBucket} {n : Nat} {pc' : Pc}
      (hx : x.takesEffect = true) (h : x.Leads a (.queueing a b n a.cmd.deliveryTargets) pc') :
      Moves env i x (.saving a b n) w pc' { w with
          store := w.store.saveMessage (a.messageEntity b n)
          log := .rowPersisted a.key (a.messageEntity b n) :: w.log }
  | queue {w : World} {a : Attempt} {b : MessageBucket} {n : Nat}
      {t : DeviceDeliveryTarget} {rest : List DeviceDeliveryTarget} {pc' : Pc}
      (h : x.Leads a (.queueing a b n rest) pc') :
      Moves env i x (.queueing a b n (t :: rest)) w pc'
        { w with store := w.store.insertPending (a.pendingRecord b n t) }
  | queued {w : World} {a : Attempt} {b : MessageBucket} {n : Nat} :
      Moves env i x (.queueing a b n []) w (.tracking a n a.cmd.deliveryTargets) w
  | track {w : World} {a : Attempt} {n : Nat} {t : DeviceDeliveryTarget}
      {rest : List DeviceDeliveryTarget} {pc' : Pc}
      (h : x.Leads a (.tracking a n rest) pc') :
      Moves env i x (.tracking a n (t :: rest)) w pc'
        { w with store := w.store.insertRecipientState (a.recipientState t) }
  | tracked {w : World} {a : Attempt} {n : Nat} :
      Moves env i x (.tracking a n []) w (.enqueueing a n) w
  | enqueue {w : World} {a : Attempt} {n : Nat} {eventId : String} {pc' : Pc}
      (h : x.Leads a (.committing a n) pc') :
      Moves env i x (.enqueueing a n) w pc'
        { w with store := w.store.enqueueEvent (a.outboxEvent n eventId) }
  | commit {w : World} {a : Attempt} {n : Nat} : Moves env i x (.committing a n) w .idle
        (env.finish { w with store := w.store.saveSubmission (a.committedRecord n) } a.key
          (.ok (a.response n))).2
  /-- `mark_committed` timed out: the record is written, control goes to the `catch` block. -/
  | commitLost {w : World} {a : Attempt} {n : Nat} {what : String} :
      Moves env i x (.committing a n) w (.failing a what)
        { w with store := w.store.saveSubmission (a.committedRecord n) }
  | findFailed {w : World} {a : Attempt} {r : IdempotencyRecord} {what : String}
      (h : w.store.submissions a.key = some r) :
      Moves env i x (.failing a what) w (.recordingFailure a r what) w
  /-- The record is set to FAILED. -/
  | recordFailure {w : World} {a : Attempt} {r : IdempotencyRecord} {what : String}
      {result : SubmissionResult} (hx : x.takesEffect = true) (hr : result.Negative) :
      Moves env i x (.recordingFailure a r what) w .idle (env.finish
          { w with store := w.store.saveSubmission { r with submissionStatus := .failed } }
          a.key result).2

/-! ## Completeness of the list -/

variable {env : SubmissionEnv} {i : Nat} {x : Input} {pc pc' : Pc} {w w' : World}

theorem negative_fail {code : MessagingErrorCode} {message : String} :
    (SubmissionResult.fail code message).Negative := by
  intro resp h
  cases h

theorem negative_thrown : SubmissionResult.thrown.Negative := by
  intro resp h
  cases h

variable {cmd : MessageSubmissionCommand} {now : TimePoint}

theorem moves_of_accept
    {auth envelope : Option (MessagingErrorCode × String)} :
    Moves env i x .idle w (env.accept w cmd now auth envelope).1
      (env.accept w cmd now auth envelope).2 := by
  unfold accept
  split
  · exact .refuse negative_fail
  rename_i hv
  split
  · exact .refuse negative_fail
  split
  · exact .refuse negative_fail
  · exact .accept hv

theorem evaluateSubmission_cases (found : Option IdempotencyRecord)
    (cmd : MessageSubmissionCommand) (fp : String) :
    (evaluateSubmission found cmd fp = .proceedNew ∧
        ∀ r, found = some r → r.submissionStatus = .failed) ∨
      (∃ r, evaluateSubmission found cmd fp = .returnCached r ∧ found = some r ∧
        r.submissionStatus = .committed) ∨
      (∃ message, evaluateSubmission found cmd fp = .rejectConflict message) ∨
      evaluateSubmission found cmd fp = .retryWait := by
  cases found with
  | none => exact .inl ⟨rfl, by simp⟩
  | some r =>
    simp only [evaluateSubmission]
    by_cases hc : r.conversationId = cmd.conversationId
    · by_cases hf : r.requestFingerprint ≠ "" ∧ r.requestFingerprint ≠ fp
      · simp [hc, hf]
      · cases hs : r.submissionStatus <;> simp [hc, hf, hs]
    · simp [hc]

theorem moves_of_evaluate {fp : String} {n : Nat}
    {m : MessageId} (h : env.evaluate w cmd fp n now m = some (pc', w')) :
    Moves env i x (.evaluating cmd fp n) w pc' w' := by
  unfold evaluate at h
  rcases evaluateSubmission_cases
      (w.store.findSubmission cmd.senderDeviceId cmd.clientIdempotencyToken) cmd fp with
    ⟨he, hr⟩ | ⟨r, he, hf, hs⟩ | ⟨message, he⟩ | he
  · simp only [he] at h
    split at h
    · simp at h
    rename_i hm
    cases h
    exact .mint (by simpa using hm) hr
  · simp only [he] at h
    cases h
    exact .replay hf hs
  · simp only [he] at h
    cases h
    exact .giveUp rfl rfl negative_fail
  simp only [he] at h
  split at h
  · cases h
    exact .wait
  cases h
  exact .giveUp rfl rfl negative_fail

theorem moves_of_write {outcome : CallOutcome} {m : MessageId}
    {eventId : String} {a : Attempt} {done : World} {after : Pc} (htry : pc.trying = some a)
    (hcall : pc.loopEnd = false)
    (hdone : ∀ pc', (Input.resume outcome now m eventId).takesEffect = true →
      (Input.resume outcome now m eventId).Leads a after pc' →
      Moves env i (.resume outcome now m eventId) pc w pc' done) :
    Moves env i (.resume outcome now m eventId) pc w (write outcome a w done after).1
      (write outcome a w done after).2 := by
  cases outcome with
  | ok => exact hdone after rfl (.inl ⟨rfl, rfl⟩)
  | failed what => exact .throw htry hcall fun _ => ⟨rfl, rfl⟩
  | timedOut what => exact hdone _ rfl (.inr ⟨rfl, what, rfl⟩)

open CallOutcome

/-- Step inversion: every move of `next` is in the list. -/
theorem moves_of_next (h : env.next i pc x w = some (pc', w')) : Moves env i x pc w pc' w' := by
  cases x with
  | submit cmd now auth envelope =>
    cases pc <;> simp only [next, reduceCtorEq] at h
    obtain ⟨rfl, rfl⟩ := Prod.mk.inj (Option.some.inj h)
    exact moves_of_accept
  | resume outcome now m eventId =>
    cases pc with
    | idle => simp [next] at h
    | locking cmd =>
      simp only [next] at h
      split at h
      · simp at h
      rename_i hfree
      cases h
      exact .lock (by simpa using hfree)
    | evaluating cmd fp n =>
      cases outcome <;> simp only [next, thrown] at h
      · exact moves_of_evaluate h
      all_goals
        cases h
        exact .giveUp rfl rfl negative_thrown
    | claiming a =>
      cases outcome <;> simp only [next, thrown, takesEffect] at h
      all_goals cases h
      · exact .claim
      · exact .giveUp rfl rfl negative_thrown
      · exact .claimLost
    | allocating a =>
      simp only [next] at h
      split at h
      · cases h
        exact .throw rfl rfl fun hne => absurd rfl (hne a)
      rename_i b hb
      split at h
      all_goals cases h
      · exact .throw rfl rfl fun hne => absurd rfl (hne a)
      · exact .allocate hb
    | saving a b n =>
      cases h
      exact moves_of_write rfl rfl fun _ hx h => .persist hx h
    | queueing a b n targets =>
      cases targets with
      | nil =>
        cases h
        exact .queued
      | cons t rest =>
        cases h
        exact moves_of_write rfl rfl fun _ _ h => .queue h
    | tracking a n targets =>
      cases targets with
      | nil =>
        cases h
        exact .tracked
      | cons t rest =>
        cases h
        exact moves_of_write rfl rfl fun _ _ h => .track h
    | enqueueing a n =>
      cases h
      exact moves_of_write rfl rfl fun _ _ h => .enqueue h
    | committing a n =>
      cases outcome <;> simp only [next, thrown, takesEffect] at h
      all_goals cases h
      · exact .commit
      · exact .throw rfl rfl fun _ => ⟨rfl, rfl⟩
      · exact .commitLost
    | failing a what =>
      cases outcome <;> simp only [next, thrown] at h
      · split at h
        all_goals cases h
        · exact .giveUp rfl rfl negative_fail
        rename_i r hr
        exact .findFailed hr
      all_goals cases h
      all_goals exact .giveUp rfl rfl negative_thrown
    | recordingFailure a r what =>
      cases outcome <;> simp only [next, thrown, takesEffect] at h
      all_goals cases h
      · exact .recordFailure rfl negative_fail
      · exact .giveUp rfl rfl negative_thrown
      · exact .recordFailure rfl negative_thrown

end SubmissionEnv

end SecureCloud.Messaging
