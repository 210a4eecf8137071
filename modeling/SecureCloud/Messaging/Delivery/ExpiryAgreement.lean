import SecureCloud.Messaging.Delivery.Terminality

/-
# Messaging.Delivery.ExpiryAgreement — what expires in one table only

The queue of a device and the fan-out of a message both have a delivery state. Workers and the recovery
service expire records of the queue, NOTHING expires a row of the fan-out. So the tables agree on expiry
only where nothing expires before its device has acknowledged it. The theorem has the conditions for
that, one for each way a record can expire.
-/

namespace SecureCloud.Messaging.Delivery

open Lib.Program Lib.Interleaving Lib.Table Statement List Option

def World.acknowledged (w : World) (key : MessageId × DeviceId) : Bool :=
  (w.tables.states.find key).any fun s => s.deliveryState = .delivered ∨ s.deliveryState = .read

/-- The tables agree on expiry: expired in the queue is expired in the fan-out, unless
acknowledged. -/
def World.Agree (w : World) : Prop :=
  ∀ r ∈ w.tables.queue.rows, r.deliveryState = .expired →
    (w.tables.states.find (r.messageId, r.deviceId)).any (·.deliveryState = .expired) = true ∨
      w.acknowledged (r.messageId, r.deviceId) = true

instance (w : World) : Decidable w.Agree := by
  unfold World.Agree
  infer_instance

/-! ## Acknowledgements are never lost -/

section
variable {cfg : Config} {l : Statement} {x : Env} {w w' : World} {r : l.Resp}

variable {key : MessageId × DeviceId}

theorem Statement.exec_acknowledged (h : l.exec cfg x w = some (r, w'))
    (hacked : w.acknowledged key = true) : w'.acknowledged key = true := by
  rcases exec_states h key with hsame | ⟨s, hs, hstate⟩
  · rwa [World.acknowledged, hsame]
  · simpa [World.acknowledged, hs] using hstate

theorem unacknowledged_before {w₀ : World}
    (hlasting : ∀ key, w₀.acknowledged key = true → w.acknowledged key = true)
    (h : w.acknowledged key = false) : w₀.acknowledged key = false := by
  by_contra hne
  rw [hlasting key (by simpa using hne)] at h
  exact nomatch h

theorem Statement.exec_expired (h : l.exec cfg x w = some (r, w'))
    (hexpired : (w.tables.states.find key).any (·.deliveryState = .expired) = true) :
    (w'.tables.states.find key).any (·.deliveryState = .expired) = true ∨
      w'.acknowledged key = true := by
  rcases exec_states h key with hsame | ⟨s, hs, hstate⟩
  · exact .inl (by rwa [hsame])
  · exact .inr (by simpa [World.acknowledged, hs] using hstate)

end

/-! ## The ways a record expires -/

variable (past : Past)

def clockReadings : List TimePoint :=
  past.filterMap fun st => match st.stmt with
    | .clock => some st.env.now
    | _ => none

theorem ReadClock.mem {past : Past} {now : TimePoint}
    (h : ReadClock past now) : now ∈ clockReadings past := by
  obtain ⟨st, hst, hstmt, hnow⟩ := h
  exact mem_filterMap.mpr ⟨st, hst, by rw [hstmt, hnow]⟩

def failedTasks : List Task :=
  past.filterMap fun st => match st.stmt with
    | .sendEnvelope task => if st.env.attempt = .transientFailure then some task else none
    | _ => none

theorem Sent.mem_failedTasks {past : Past} {task : Task}
    (h : Sent past task .transientFailure) : task ∈ failedTasks past := by
  obtain ⟨st, hst, hstmt, hattempt⟩ := h
  exact mem_filterMap.mpr ⟨st, hst, by rw [hstmt]; simp [hattempt]⟩

/-- A fetch meets no record that is still to be acknowledged and past the TTL or out of attempts. -/
def Config.FetchInTime (cfg : Config) (past : Past) (w : World)
    (device : DeviceId) (bucket : String) : Prop :=
  ∀ r ∈ w.tables.bucketRows device bucket, isTerminal r.deliveryState = false →
    w.acknowledged (r.messageId, r.deviceId) = false →
    (∀ now ∈ clockReadings past, now - r.acceptedAt ≤ cfg.maxDeliveryTtl) ∧
      (r.deliveryState = .retryWait → r.attemptCount < cfg.recoveryMaxRetryAttempts)

/-- A dispatch to a device still to acknowledge does not fail for good, nor use up the last attempt. -/
def Config.SendInTime (cfg : Config) (st : Step Statement Env World) (task : Task) : Prop :=
  st.before.acknowledged (task.messageId, task.recipientDeviceId) = false →
    st.env.attempt ≠ .terminalFailure ∧
      (st.env.attempt = .transientFailure → task.attemptCount + 1 < cfg.maxRetryAttempts)

/-- After a vain dispatch to a device still to acknowledge, the task has not run out when the policy is
asked. -/
def ClockInTime (st : Step Statement Env World) : Prop :=
  ∀ task ∈ failedTasks past,
    st.before.acknowledged (task.messageId, task.recipientDeviceId) = false →
      ∀ now ∈ clockReadings past, st.env.now < task.expiresAt.getD (now + 2592000000)

/-- What is granted about a step: it is in time, whichever way a record could expire by it. -/
def Config.InTime (cfg : Config) (past : Past)
    (st : Step Statement Env World) : Prop :=
  match st.stmt with
  | .fetchPending device bucket _ => cfg.FetchInTime past st.before device bucket
  | .sendEnvelope task => cfg.SendInTime st task
  | .clock => ClockInTime past st
  | _ => True

instance (cfg : Config) (past : Past) (st : Step Statement Env World) :
    Decidable (cfg.InTime past st) := by
  unfold Config.InTime Config.FetchInTime Config.SendInTime ClockInTime
  generalize st.stmt = l
  induction l using Statement.casesOn <;> (dsimp only; infer_instance)

section
variable {cfg : Config} {past : Past} {key : QueueKey} {w : World}
  {attempts : Nat} {next : Option TimePoint}

theorem Task.key_of_recordKey {task : Task} (h : task.recordKey = some key) :
    (task.messageId, task.recipientDeviceId) = (key.2.2, key.1.1) := by
  obtain ⟨bucket, -, rfl⟩ := map_eq_some_iff.mp h
  rfl

theorem Fetched.inTime {r : QueueRow} {earlier : Past} (h : Fetched past key r earlier)
    (hpast : ∀ later st earlier, past = later ++ st :: earlier → cfg.InTime earlier st ∧
      ∀ k, st.before.acknowledged k = true → w.acknowledged k = true)
    (hopen : isTerminal r.deliveryState = false)
    (hacked : w.acknowledged (key.2.2, key.1.1) = false) :
    (∀ now ∈ clockReadings earlier, now - r.acceptedAt ≤ cfg.maxDeliveryTtl) ∧
      (r.deliveryState = .retryWait → r.attemptCount < cfg.recoveryMaxRetryAttempts) := by
  obtain ⟨look, ⟨later, rfl, hlooks, -⟩, ⟨device, bucket, limit, hstmt⟩, hfind⟩ := h
  obtain ⟨hintime, hlasting⟩ := hpast later look earlier rfl
  rw [Config.InTime, hstmt] at hintime
  rw [hstmt] at hlooks
  have hpartition : (device, bucket) = key.1 := of_decide_eq_true hlooks
  have hkey : r.key = key := Keyed.key_of_find hfind
  subst hkey
  have hrow : r ∈ look.before.tables.bucketRows device bucket := by
    refine Tables.mem_bucketRows.mpr ⟨mem_of_find?_eq_some hfind, ?_, ?_⟩
    · exact (congrArg Prod.fst hpartition).symm
    · exact (congrArg Prod.snd hpartition).symm
  exact hintime r hrow hopen (unacknowledged_before hlasting hacked)

/-- Nothing expires before it is acknowledged, in time. -/
theorem Reason.acknowledged_of_expired (h : Reason cfg past key .expired attempts next)
    (hpast : ∀ later st earlier, past = later ++ st :: earlier → cfg.InTime earlier st ∧
      ∀ k, st.before.acknowledged k = true → w.acknowledged k = true) :
    w.acknowledged (key.2.2, key.1.1) = true := by
  by_contra hne
  have hacked : w.acknowledged (key.2.2, key.1.1) = false := by simpa using hne
  cases h with
  | taken _ _ _ hstate => rcases hstate with hstate | hstate <;> exact nomatch hstate
  | exhausted hmark hkey hspent =>
    obtain ⟨later, st, earlier, now, rfl, hclock, hread, hsent, hnot⟩ := hspent
    rw [← Task.key_of_recordKey hkey] at hacked
    -- at the dispatch there was an attempt left, and at the policy's reading there was time
    obtain ⟨hintime, hlasting⟩ := hpast later st earlier rfl
    rw [Config.InTime, hclock] at hintime
    have htime := hintime _ hsent.mem_failedTasks (unacknowledged_before hlasting hacked) now hread.mem
    obtain ⟨send, hsend, hstmt, hattempt⟩ := hsent
    obtain ⟨pre, post, hsplit⟩ := append_of_mem hsend
    obtain ⟨hintime', hlasting'⟩ := hpast (later ++ st :: pre) send post (by simp [hsplit])
    rw [Config.InTime, hstmt] at hintime'
    have hleft := (hintime' (unacknowledged_before hlasting' hacked)).2 hattempt
    rw [Config.isRetryable, decide_eq_true hleft, decide_eq_true htime] at hnot
    exact nomatch hnot
  | refused hmark hkey hsent =>
    obtain ⟨send, hsend, hstmt, hattempt⟩ := hsent
    obtain ⟨pre, post, rfl⟩ := append_of_mem hsend
    obtain ⟨hintime, hlasting⟩ := hpast pre send post rfl
    rw [Config.InTime, hstmt] at hintime
    rw [← Task.key_of_recordKey hkey] at hacked
    exact (hintime (unacknowledged_before hlasting hacked)).1 hattempt
  | stale hfetched hopen hclock hold =>
    have hyoung := (hfetched.inTime hpast hopen hacked).1 _ hclock.mem
    exact absurd hold (not_lt.mpr hyoung)
  | spent hfetched hwaiting hattempts =>
    have hopen := (hfetched.inTime hpast (by rw [hwaiting]; rfl) hacked).2 hwaiting
    exact absurd hattempts (not_le.mpr hopen)

end

namespace Consumer

variable {ι : Type} [DecidableEq ι]

/-- **The tables agree on expiry along every run** whose steps are all in time. -/
theorem agree_along_run (c : Consumer) (jobs : ι → Job) (w : World) (ms : List (ι × Env)) {d : Engine ι}
    (hagree : w.Agree)
    (hrun : run (Call.advance (exec c.config)) (c.start jobs w) ms = some d)
    (hgranted : ∀ m ∈ trace (Call.advance (exec c.config)) (c.start jobs w) ms,
      ∀ st ∈ takenBy m, c.config.InTime (m.1.proc m.2.1).past st) :
    d.shared.Agree := by
  have hstart : Standing (exec c.config) (Justified c.config) c.config.InTime
      (fun w w' => ∀ k, w.acknowledged k = true → w'.acknowledged k = true) (fun c => c.shared.Agree)
      (c.start jobs w) :=
    Standing.start (fun i => writes_program (jobs i)) hagree
  refine (hstart.run (fun _ _ => id) ?_ ?_ hgranted hrun).holds
  · intro _ _ _ _ _ _ hexec hlasting k hk
    exact exec_acknowledged hexec (hlasting k hk)
  intro c₁ c₂ i st r _ hbefore hexec howed _ hkept hJ row hrow hexpired
  rw [hbefore] at hexec
  have hfind := Keyed.mem_rows_iff.mp hrow
  rcases exec_queue hexec row.key with hsame | ⟨state, attempts, next, hstmt, hwritten⟩
  · -- the record had expired before
    rw [hsame] at hfind
    rcases hJ row (Keyed.mem_rows_iff.mpr hfind) hexpired with h | h
    · exact exec_expired hexec h
    · exact .inr (exec_acknowledged hexec h)
  have heq := some.inj (hwritten.symm.trans hfind)
  have hstate : state = row.deliveryState := congrArg QueueRow.deliveryState heq
  obtain rfl : state = .expired := hstate.trans hexpired
  rw [hstmt] at howed
  have hacked := Reason.acknowledged_of_expired howed fun later st' earlier heq =>
    hkept i later st' earlier heq
  exact .inr (exec_acknowledged hexec hacked)

/-! ## A dispatch that fails for good -/

def refusedMoves : List (Bool × Env) :=
  List.replicate 5 (true, { now := 1767225599500, attempt := .terminalFailure })

def decemberEnd (ms : List (Bool × Env)) : Option (Bool × Bool) :=
  (run (Call.advance (exec plainConfig)) (decemberConsumer.start decemberJobs decemberQueued)
    ms).map fun d => (decide d.shared.Agree, (d.proc true).result.isSome)

/-- The worker has returned, the acknowledgement has not begun, and the record is expired in the queue
only. -/
theorem refused_expires_in_queue_only :
    decemberQueued.Agree ∧ ∃ d, run (Call.advance (exec plainConfig))
          (decemberConsumer.start decemberJobs decemberQueued) refusedMoves = some d ∧
        (d.proc true).result.isSome = true ∧ (d.proc false).past = [] ∧ ¬ d.shared.Agree := by
  have hend : decemberEnd refusedMoves = some (false, true) := by decide
  obtain ⟨d, hd, heq⟩ := map_eq_some_iff.mp hend
  obtain ⟨hagree, hreturned⟩ := Prod.mk.inj heq
  refine ⟨by decide, d, hd, hreturned, ?_, of_decide_eq_false hagree⟩
  rw [run_proc_of_not_mem (i := false) (by decide) hd]
  rfl

/-- The worker delivers the message: every step is in time, and nothing has expired. -/
theorem delivery_agrees : ∃ d, run (Call.advance (exec plainConfig))
        (decemberConsumer.start decemberJobs decemberQueued) (decemberMoves true 8) = some d ∧
      d.shared.Agree := by
  obtain ⟨d, r, hd, -, -⟩ := exists_of_decemberState
    (show decemberState (decemberMoves true 8) = some .delivered by decide)
  exact ⟨d, hd, agree_along_run decemberConsumer decemberJobs decemberQueued (decemberMoves true 8)
    (by decide) hd (by decide)⟩

end Consumer

end SecureCloud.Messaging.Delivery
