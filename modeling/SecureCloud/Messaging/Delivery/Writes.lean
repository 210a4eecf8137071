import SecureCloud.Lib.Trail
import SecureCloud.Messaging.Delivery.Calls

/-
# Messaging.Delivery.Writes — what a call knows of the record it overwrites

`update_device_delivery_status` overwrites a record whatever it holds. All that a call has to go by is what
it saw before, and this module says, for every write of every call, what that was: a worker was handed a
task and then goes by its own mark, the recovery service and an acknowledgement go by the batch they
fetched.

The obligation is a property of the call's own past, so it holds in any company.
-/

namespace SecureCloud.Messaging.Delivery

open Lib.Program Lib.Table Trails Config List Option

/-! ## Looking at a record -/

variable (cfg : Config)

def Config.after (st : Step Statement Env World) : World :=
  match st.stmt.exec cfg st.env st.before with
  | some r => r.2
  | none => st.before

/-- A look at the record: a task is taken, the record's partition is read, or the record is written. -/
def Statement.looksAt (key : QueueKey) : Statement → Bool
  | dequeue => true
  | fetchPending device bucket _ => (device, bucket) = key.1
  | updateStatus key' _ _ _ => key' = key
  | _ => false

/-- `look` is the call's last look at the record, and `earlier` what it had done by then. -/
def LastLook (key : QueueKey) (past : Past)
    (look : Step Statement Env World) (earlier : Past) : Prop :=
  ∃ later, past = later ++ look :: earlier ∧ look.stmt.looksAt key = true ∧
    ∀ st ∈ later, st.stmt.looksAt key = false

section
variable {key : QueueKey} {past earlier : Past} {look st : Step Statement Env World}

theorem LastLook.here (h : st.stmt.looksAt key = true) : LastLook key (st :: past) st past :=
  ⟨[], rfl, h, by simp⟩

theorem LastLook.cons (h : LastLook key past look earlier) (hst : st.stmt.looksAt key = false) :
    LastLook key (st :: past) look earlier := by
  obtain ⟨later, rfl, hlooks, hlater⟩ := h
  exact ⟨st :: later, rfl, hlooks, forall_mem_cons.mpr ⟨hst, hlater⟩⟩

end

/-! ## Reasons -/

/-- The key of a task's record: the bucket is the month in which the message was accepted. -/
def Task.recordKey (task : Task) : Option QueueKey :=
  (MessageBucket.fromTimePoint task.acceptedAt).map fun bucket => task.key bucket.value

def Config.handed (st : Step Statement Env World) : Option Task :=
  match st.stmt with
  | .dequeue => ((st.before.scheduler.dequeue cfg.scheduler st.env.timedOut).map Prod.fst).join
  | _ => none

variable (past : Past)

def Marked (task : Task) (key : QueueKey) : Prop :=
  ∃ look earlier, LastLook key past look earlier ∧
    look.stmt = .updateStatus key .delivering task.attemptCount none ∧
    look.env.outcome.takesEffect = true

def Sent (task : Task) (result : DeliveryAttemptResult) :
    Prop :=
  ∃ st ∈ past, st.stmt = .sendEnvelope task ∧ st.env.attempt = result

def ReadClock (now : TimePoint) : Prop :=
  ∃ st ∈ past, st.stmt = .clock ∧ st.env.now = now

def Fetched (key : QueueKey) (r : QueueRow) (earlier : Past) : Prop :=
  ∃ look, LastLook key past look earlier ∧
    (∃ device bucket limit, look.stmt = .fetchPending device bucket limit) ∧
    look.before.tables.queue.find key = some r

/-- The retry policy has given up on a task whose dispatch failed; its own reading of the clock is the
later of two. -/
def Config.Exhausted (past : Past) (task : Task) : Prop :=
  ∃ later st earlier now, past = later ++ st :: earlier ∧ st.stmt = .clock ∧ ReadClock earlier now ∧
    Sent earlier task .transientFailure ∧
    cfg.isRetryable (task.attemptCount + 1) (task.expiresAt.getD (now + 2592000000)) st.env.now = false

/-- Why a record is overwritten, with the state, attempts and next retry it gets. The first six are a
worker's, `acknowledged` an acknowledgement's, the others the recovery service's. -/
inductive Reason (cfg : Config) (past : Past) (key : QueueKey) :
    DeliveryState → Nat → Option TimePoint → Prop
  | taken {look earlier task state} (hlook : LastLook key past look earlier)
      (htask : cfg.handed look = some task) (hkey : task.recordKey = some key)
      (hstate : state = .queued ∨ state = .delivering) :
      Reason cfg past key state task.attemptCount none
  | delivered {task} (hmark : Marked past task key) :
      Reason cfg past key .delivered task.attemptCount none
  | offline {task} (hmark : Marked past task key) :
      Reason cfg past key .queued task.attemptCount none
  | retry {task t} (hmark : Marked past task key) :
      Reason cfg past key .retryWait (task.attemptCount + 1) (some t)
  | exhausted {task} (hmark : Marked past task key) (hkey : task.recordKey = some key)
      (hspent : cfg.Exhausted past task) :
      Reason cfg past key .expired (task.attemptCount + 1) none
  | refused {task} (hmark : Marked past task key) (hkey : task.recordKey = some key)
      (hsent : Sent past task .terminalFailure) :
      Reason cfg past key .expired task.attemptCount none
  | acknowledged {r earlier} (hfetched : Fetched past key r earlier) :
      Reason cfg past key .delivered r.attemptCount none
  | stale {r earlier now} (hfetched : Fetched past key r earlier)
      (hopen : isTerminal r.deliveryState = false) (hclock : ReadClock earlier now)
      (hpast : cfg.maxDeliveryTtl < now - r.acceptedAt) :
      Reason cfg past key .expired r.attemptCount none
  | spent {r earlier} (hfetched : Fetched past key r earlier)
      (hwaiting : r.deliveryState = .retryWait)
      (hattempts : cfg.recoveryMaxRetryAttempts ≤ r.attemptCount) :
      Reason cfg past key .expired r.attemptCount none
  | due {r earlier now} (hfetched : Fetched past key r earlier)
      (hwaiting : r.deliveryState = .retryWait) (hclock : ReadClock earlier now)
      (hdue : r.nextRetryAt.any (now < ·) = false) :
      Reason cfg past key .queued r.attemptCount none

/-- What is owed at a statement: a record is written for a reason, a dispatch follows its own worker's
mark. -/
def Justified (past : Past) : Statement → Prop
  | .updateStatus key state attempts next => Reason cfg past key state attempts next
  | .sendEnvelope task => ∃ key, task.recordKey = some key ∧ Marked past task key
  | _ => True

variable {past : Past} {key : QueueKey} {st : Step Statement Env World} {now : TimePoint}

theorem Marked.cons {task : Task} (h : Marked past task key)
    (hst : st.stmt.looksAt key = false) : Marked (st :: past) task key := by
  obtain ⟨look, earlier, hlook, hmark, heffect⟩ := h
  exact ⟨look, earlier, hlook.cons hst, hmark, heffect⟩

theorem Fetched.cons {earlier : Past} {r : QueueRow} (h : Fetched past key r earlier)
    (hst : st.stmt.looksAt key = false) : Fetched (st :: past) key r earlier := by
  obtain ⟨look, hlook, hfetch, hfind⟩ := h
  exact ⟨look, hlook.cons hst, hfetch, hfind⟩

theorem ReadClock.later {past' : Past}
    (h : ReadClock past now) (hpast : past <:+ past') : ReadClock past' now := by
  obtain ⟨st, hst, hread⟩ := h
  exact ⟨st, hpast.subset hst, hread⟩

/-! ## The record that is overwritten -/

/-- Nobody else has written the record since the call's last look at it. -/
def Config.Fresh (past : Past) (key : QueueKey) (w : World) :
    Prop :=
  ∀ look ∈ past.find? (·.stmt.looksAt key),
    w.tables.queue.find key = (cfg.after look).tables.queue.find key

instance (cfg : Config) (past : Past) (key : QueueKey) (w : World) :
    Decidable (cfg.Fresh past key w) := by
  unfold Config.Fresh
  infer_instance

section
variable {cfg : Config} {past earlier : Past} {key : QueueKey} {w : World}
  {look : Step Statement Env World} {task : Task} {r r' : QueueRow}

theorem Config.after_of_handed (h : cfg.handed look = some task) :
    look.stmt = .dequeue ∧ (cfg.after look).tables = look.before.tables := by
  obtain ⟨l, x, w⟩ := look
  unfold handed at h
  split at h
  next hstmt =>
    obtain rfl : l = .dequeue := hstmt
    refine ⟨rfl, ?_⟩
    unfold after
    split
    next res hres =>
      obtain ⟨s, -, heq⟩ := map_eq_some_iff.mp hres
      rw [← heq]
    · rfl
  · exact nomatch h

section
variable (h : cfg.Fresh past key w)
include h

theorem Config.Fresh.of_lastLook (hlook : LastLook key past look earlier) :
    w.tables.queue.find key = (cfg.after look).tables.queue.find key := by
  obtain ⟨later, rfl, hlooks, hlater⟩ := hlook
  refine h look ?_
  have hnone : later.find? (·.stmt.looksAt key) = none :=
    find?_eq_none.mpr fun st hst => by simp [hlater st hst]
  simp [find?_append, hnone, hlooks]

theorem Config.Fresh.of_taken (hlook : LastLook key past look earlier)
    (htask : cfg.handed look = some task) :
    w.tables.queue.find key = look.before.tables.queue.find key := by
  rw [h.of_lastLook hlook, (after_of_handed htask).2]

theorem Config.Fresh.of_marked (hmark : Marked past task key)
    (hr : w.tables.queue.find key = some r) :
    r.deliveryState = .delivering ∧ r.attemptCount = task.attemptCount := by
  obtain ⟨⟨l, x, w₀⟩, earlier, hlook, hstmt, heffect⟩ := hmark
  obtain rfl : l = .updateStatus key .delivering task.attemptCount none := hstmt
  have hafter : (cfg.after ⟨.updateStatus key .delivering task.attemptCount none, x, w₀⟩).tables =
      w₀.tables.updateDeviceDeliveryStatus key .delivering task.attemptCount none := by
    have heffect : x.outcome.takesEffect = true := heffect
    simp only [after, Statement.exec, Statement.writing, heffect, if_true]
  have hrow := h.of_lastLook hlook
  rw [hafter, Tables.find_updateDeviceDeliveryStatus, if_pos rfl, hr] at hrow
  cases hrow
  exact ⟨rfl, rfl⟩

theorem Config.Fresh.of_fetched (hfetched : Fetched past key r' earlier)
    (hr : w.tables.queue.find key = some r) : r = r' := by
  obtain ⟨⟨l, x, w₀⟩, hlook, ⟨device, bucket, limit, hstmt⟩, hfind⟩ := hfetched
  obtain rfl : l = .fetchPending device bucket limit := hstmt
  have hrow : w.tables.queue.find key = w₀.tables.queue.find key := h.of_lastLook hlook
  rw [hr] at hrow
  exact some.inj (hrow.trans hfind)

end

end

/-! ## Rules -/

/-- The program writes for a reason, and returns in `Q`. -/
abbrev Writes {α : Type} (Q : Past → α → Prop)
    (m : Program α) (past : Past) : Prop :=
  Trails (Statement.exec cfg) (Justified cfg) Q m past

/-- The same of a program whose end does not matter. -/
abbrev Explains {α : Type} : Program α → Past → Prop := Writes cfg fun _ _ => True

section
variable {cfg : Config} {α : Type} {past : Past} {Q : Past → α → Prop}

theorem writes_perform {l : Statement} {Q : Past → l.Resp → Prop} (howed : Justified cfg past l)
    (h : ∀ x r w w', l.exec cfg x w = some (r, w') → Q (⟨l, x, w⟩ :: past) r) :
    Writes cfg Q (perform l) past :=
  Trails.perform howed h

theorem writes_rethrow {r : Except String α} (h : ∀ a, r = .ok a → Q past a) :
    Writes cfg Q (rethrow r) past := by
  cases r with
  | ok a => exact pure (h a rfl)
  | error what => exact throw

theorem writes_bucketOf {Q : Past → String → Prop} {tp : TimePoint}
    (h : ∀ bucket, MessageBucket.fromTimePoint tp = some bucket → Q past bucket.value) :
    Writes cfg Q (bucketOf tp) past := by
  unfold bucketOf
  split
  · exact pure (h _ ‹_›)
  · exact throw

variable {Q : Past → Unit → Prop} {next : Option TimePoint}

theorem writes_updateStatus {state : DeliveryState} {attempts : Nat}
    (howed : Reason cfg past key state attempts next) (h : ∀ x w, x.outcome.takesEffect = true →
      Q (⟨.updateStatus key state attempts next, x, w⟩ :: past) ()) :
    Writes cfg Q (updateStatus key state attempts next) past := by
  refine bind (writes_perform howed fun x r w w' hexec => writes_rethrow fun u hu => ?_)
  refine h x w ?_
  obtain ⟨hr, -⟩ := Prod.mk.inj (some.inj hexec)
  rw [hu] at hr
  cases hx : x.outcome with
  | ok => rfl
  | failed what =>
    rw [hx] at hr
    exact nomatch hr
  | timedOut what => rfl

variable {device : DeviceId} {bucket : String}

theorem writes_fetchPending {Q : Past → List QueueRecord → Prop} {limit : Nat}
    (h : ∀ x w recs, (recs.map (·.row.key)).Nodup →
    (∀ rec ∈ recs, Fetched (⟨.fetchPending device bucket limit, x, w⟩ :: past) rec.row.key rec.row
        past) → Q (⟨.fetchPending device bucket limit, x, w⟩ :: past) recs) :
    Writes cfg Q (fetchPending device bucket limit) past := by
  refine bind (writes_perform trivial fun x r w w' hexec => writes_rethrow fun recs hrecs => ?_)
  obtain ⟨hr, -⟩ := Prod.mk.inj (some.inj hexec)
  rw [hrecs] at hr
  have hfetch := Statement.reading_eq_ok hr
  refine h x w recs (Tables.nodup_of_fetch hfetch) fun rec hrec => ?_
  obtain ⟨hfind, hdevice, hbucket⟩ := Tables.find_of_fetch hfetch hrec
  refine ⟨_, LastLook.here ?_, ⟨device, bucket, limit, rfl⟩, hfind⟩
  simp [Statement.looksAt, QueueRow.key, hdevice, hbucket]

theorem writes_fetchStates {Q : Past → List RecipientDeliveryState → Prop}
    {message : MessageId} (h : ∀ x w states, Q (⟨.fetchStates message, x, w⟩ :: past) states) :
    Writes cfg Q (fetchStates message) past :=
  bind (writes_perform trivial fun x _ w _ _ => writes_rethrow fun states _ => h x w states)

theorem writes_enqueueEvent {e : NewEvent}
    (h : ∀ past', Q past' ()) : Writes cfg Q (enqueueEvent e) past :=
  bind (writes_perform trivial fun _ _ _ _ _ => writes_rethrow fun _ _ => h _)

theorem writes_answer {e : NewEvent} {a : α} :
    Explains cfg (if cfg.outbox = true then do
      enqueueEvent e
      pure a
    else pure a) past := by
  split
  · exact bind (writes_enqueueEvent fun _ => pure trivial)
  · exact pure trivial

theorem writes_guarded {lock unlock : Program Unit} {body : Program α}
    (hlock : ∀ past, Explains cfg lock past)
    (hunlock : ∀ past, Explains cfg unlock past)
    (hbody : ∀ past, Explains cfg body past) :
    Explains cfg (guarded lock unlock body) past := by
  refine seq (hlock past) fun _ past₁ _ => ?_
  refine seq (tryCatch (hbody past₁) ?_) fun a past₂ _ => ?_
  · intro what past₂ _
    exact seq (hunlock past₂) fun _ _ _ => throw
  · exact seq (hunlock past₂) fun _ _ _ => pure trivial

end

/-! ## The worker -/

namespace Config

section
variable {cfg : Config} {past : Past} {task : Task} {key : QueueKey}

theorem writes_afterAttempt {x : Env} {w : World} (hmark : Marked past task key)
    (hkey : task.recordKey = some key) :
    Explains cfg (cfg.afterAttempt task key x.attempt)
      (⟨.sendEnvelope task, x, w⟩ :: past) := by
  have hsent : Sent (⟨.sendEnvelope task, x, w⟩ :: past) task x.attempt :=
    ⟨_, mem_cons_self, rfl, rfl⟩
  have hmark : Marked (⟨.sendEnvelope task, x, w⟩ :: past) task key := hmark.cons rfl
  generalize (⟨.sendEnvelope task, x, w⟩ :: past : Past) = past at *
  cases hresult : x.attempt with
  | success =>
    refine bind (writes_perform trivial fun x₁ at₁ w₁ _ _ => ?_)
    refine bind (writes_perform trivial fun x₂ r w₂ _ _ => ?_)
    refine bind (writes_rethrow fun _ _ => ?_)
    refine bind (writes_updateStatus (.delivered ((hmark.cons rfl).cons rfl)) fun x₃ w₃ _ => ?_)
    split
    · exact writes_enqueueEvent fun _ => trivial
    · exact pure trivial
  | recipientOffline => exact writes_updateStatus (.offline hmark) fun _ _ _ => trivial
  | transientFailure =>
    rw [hresult] at hsent
    refine bind (writes_perform trivial fun x₁ now w₁ _ hnow => ?_)
    obtain rfl : x₁.now = now := (Prod.mk.inj (some.inj hnow)).1
    refine bind (writes_perform trivial fun x₂ later w₂ _ hlater => ?_)
    obtain rfl : x₂.now = later := (Prod.mk.inj (some.inj hlater)).1
    have hmark₂ : Marked (⟨.clock, x₂, w₂⟩ :: ⟨.clock, x₁, w₁⟩ :: past) task key :=
      (hmark.cons rfl).cons rfl
    dsimp only
    split
    · refine bind (writes_perform trivial fun x₃ delay w₃ _ _ => ?_)
      refine bind (writes_updateStatus (.retry (hmark₂.cons rfl)) fun _ _ _ => ?_)
      exact bind (writes_perform trivial fun _ _ _ _ _ => pure trivial)
    rename_i hnot
    refine writes_updateStatus (.exhausted hmark₂ hkey ?_) fun _ _ _ => trivial
    obtain ⟨st, hst, hstmt, hattempt⟩ := hsent
    exact ⟨[], ⟨.clock, x₂, w₂⟩, ⟨.clock, x₁, w₁⟩ :: past, x₁.now, rfl, rfl,
      ⟨_, mem_cons_self, rfl, rfl⟩, ⟨st, mem_cons_of_mem _ hst, hstmt, hattempt⟩,
      by simpa using hnot⟩
  | terminalFailure =>
    rw [hresult] at hsent
    exact writes_updateStatus (.refused hmark hkey hsent) fun _ _ _ => trivial

theorem writes_deliver {look : Step Statement Env World} (htask : cfg.handed look = some task) :
    Explains cfg (cfg.deliver task) (look :: past) := by
  refine bind (writes_bucketOf fun bucket hbucket => ?_)
  have hkey : task.recordKey = some (task.key bucket.value) := by rw [Task.recordKey, hbucket]; rfl
  have hlook : LastLook (task.key bucket.value) (look :: past) look past :=
    LastLook.here (by rw [(after_of_handed htask).1]; rfl)
  have hact : ∀ past' active, LastLook (task.key bucket.value) past' look past →
      Explains cfg (if active = true then do
          updateStatus (task.key bucket.value) .delivering task.attemptCount none
          let result ← perform (.sendEnvelope task)
          cfg.afterAttempt task (task.key bucket.value) result
        else updateStatus (task.key bucket.value) .queued task.attemptCount none) past' := by
    intro past' active hlook
    split
    · refine bind (writes_updateStatus (.taken hlook htask hkey (.inr rfl)) fun x w heffect => ?_)
      have hmark : Marked (⟨.updateStatus (task.key bucket.value) .delivering task.attemptCount none, x,
          w⟩ :: past') task (task.key bucket.value) :=
        ⟨_, _, LastLook.here (decide_eq_true rfl), rfl, heffect⟩
      refine bind (writes_perform ⟨_, hkey, hmark⟩ fun x' result w' _ hsend => ?_)
      obtain rfl : x'.attempt = result := (Prod.mk.inj (some.inj hsend)).1
      exact writes_afterAttempt hmark hkey
    · exact writes_updateStatus (.taken hlook htask hkey (.inl rfl)) fun _ _ _ => trivial
  dsimp only
  split
  · exact bind (writes_perform trivial fun _ active _ _ _ => hact _ active (hlook.cons rfl))
  · exact hact _ false hlook

theorem writes_processSingleTask : Explains cfg cfg.processSingleTask past := by
  refine bind (writes_perform trivial fun x r w w' hexec => ?_)
  cases r with
  | none => exact pure trivial
  | some task =>
    obtain ⟨⟨r, s⟩, hdequeue, heq⟩ := map_eq_some_iff.mp hexec
    cases heq
    exact seq (writes_deliver (by simp [handed, hdequeue])) fun _ _ _ => pure trivial

/-! ## The recovery service -/

/-- A batch under way: every record of it was fetched and not looked at since, and none is in it
twice. -/
def InHand (past : Past) (recs : List QueueRecord)
    (earlier : Past) : Prop :=
  (recs.map (·.row.key)).Nodup ∧ ∀ rec ∈ recs, Fetched past rec.row.key rec.row earlier

section
variable {recs : List QueueRecord} {rec : QueueRecord} {earlier : Past} {now : TimePoint}

theorem InHand.head (h : InHand past (rec :: recs) earlier) : Fetched past rec.row.key rec.row earlier :=
  h.2 rec mem_cons_self

theorem InHand.tail (h : InHand past (rec :: recs) earlier) : InHand past recs earlier :=
  ⟨(nodup_cons.mp h.1).2, fun r hr => h.2 r (mem_cons_of_mem rec hr)⟩

theorem InHand.cons (h : InHand past recs earlier)
    (hst : ∀ key, st.stmt.looksAt key = false) : InHand (st :: past) recs earlier :=
  ⟨h.1, fun r hr => (h.2 r hr).cons (hst _)⟩

theorem InHand.written (h : InHand past (rec :: recs) earlier) {state : DeliveryState}
    {attempts : Nat} {next : Option TimePoint} {x : Env} {w : World} :
    InHand (⟨.updateStatus rec.row.key state attempts next, x, w⟩ :: past) recs earlier := by
  refine ⟨h.tail.1, fun r hr => (h.tail.2 r hr).cons ?_⟩
  have hne : rec.row.key ≠ r.row.key := by
    intro heq
    exact (nodup_cons.mp h.1).1 (mem_map.mpr ⟨r, hr, heq.symm⟩)
  exact decide_eq_false hne

theorem writes_purgeLoop (hclock : ReadClock earlier now) (hin : InHand past recs earlier) (n : Nat) :
    Explains cfg (cfg.purgeLoop now recs n) past := by
  induction recs generalizing past n with
  | nil => exact pure trivial
  | cons rec recs ih =>
    unfold purgeLoop
    split
    · exact ih hin.tail n
    rename_i hopen
    split
    next hpast =>
      exact bind (writes_updateStatus
        (.stale hin.head (Bool.eq_false_iff.mpr hopen) hclock hpast) fun _ _ _ =>
        ih hin.written (n + 1))
    · exact ih hin.tail n

theorem writes_offerRecord {Q : Past → Nat → Prop} {taken turnedAway : Program Nat}
    (h : ∀ user w₁ x₁ w₂ x₂, let past' := ⟨.schedule (rec.task user now), x₂, w₂⟩ ::
      ⟨.fetchStates rec.row.messageId, x₁, w₁⟩ :: past
      Writes cfg Q taken past' ∧ Writes cfg Q turnedAway past') :
    Writes cfg Q (offerRecord rec now taken turnedAway) past := by
  refine bind (bind (writes_fetchStates fun x₁ w₁ states => pure ?_))
  refine bind (writes_perform trivial fun x₂ status w₂ _ _ => ?_)
  obtain ⟨htaken, hturned⟩ := h _ w₁ x₁ w₂ x₂
  cases status with
  | enqueued => exact htaken
  | deviceQueueFull | globalCapacityExhausted | rejectedShuttingDown | invalidTask => exact hturned

section
variable (hclock : ReadClock earlier now) (hin : InHand past recs earlier) (n : Nat)

include hclock hin n

theorem writes_sweepLoop :
    Explains cfg (cfg.sweepLoop now recs n) past := by
  induction recs generalizing past n with
  | nil => exact pure trivial
  | cons rec recs ih =>
    unfold sweepLoop
    split
    · exact ih hin.tail n
    rename_i hwaiting
    have hwaiting : rec.row.deliveryState = .retryWait := not_not.mp hwaiting
    split
    next hspent =>
      exact bind (writes_updateStatus (.spent hin.head hwaiting hspent) fun _ _ _ =>
        ih hin.written n)
    split
    · exact ih hin.tail n
    rename_i hdue
    refine bind (writes_updateStatus
      (.due hin.head hwaiting hclock (Bool.eq_false_iff.mpr hdue)) fun _ _ _ => ?_)
    refine writes_offerRecord fun user w₁ x₁ w₂ x₂ => ⟨?_, pure trivial⟩
    exact ih ((hin.written.cons fun _ => rfl).cons fun _ => rfl) (n + 1)

theorem writes_recoverLoop : Explains cfg (cfg.recoverLoop now recs n) past := by
  induction recs generalizing past n with
  | nil => exact pure trivial
  | cons rec recs ih =>
    unfold recoverLoop
    split
    · exact ih hin.tail n
    rename_i hactive
    have hopen : isTerminal rec.row.deliveryState = false := by
      by_cases hqueued : rec.row.deliveryState = .queued
      · rw [hqueued]; rfl
      have hdelivering : rec.row.deliveryState = .delivering := by
        by_contra hne
        exact hactive ⟨hqueued, hne⟩
      rw [hdelivering]; rfl
    split
    next hpast =>
      exact bind (writes_updateStatus (.stale hin.head hopen hclock hpast) fun _ _ _ =>
        ih hin.written n)
    · refine writes_offerRecord fun user w₁ x₁ w₂ x₂ => ⟨?_, pure trivial⟩
      exact ih ((hin.tail.cons fun _ => rfl).cons fun _ => rfl) (n + 1)

end

end

variable {bucket : String}

/-- A loop over a batch that was fetched when the clock had been read. -/
theorem writes_batch {loop : List QueueRecord → Program Nat} (hclock : ReadClock past now)
    (hloop : ∀ {earlier past recs}, ReadClock earlier now → InHand past recs earlier →
      Explains cfg (loop recs) past) :
    Explains cfg (do
      let recs ← fetchPending device bucket cfg.batchSize
      loop recs) past :=
  bind (writes_fetchPending fun _ _ _ hnodup hrecs => hloop hclock ⟨hnodup, hrecs⟩)

theorem writes_reachable :
    Explains cfg (cfg.reachable device) past := by
  unfold reachable
  split
  · exact writes_perform trivial fun _ _ _ _ _ => trivial
  · exact pure trivial

theorem writes_cycleLoop {devices : List DeviceId} (hclock : ReadClock past now) (n : Nat) :
    Explains cfg (cfg.cycleLoop bucket now devices n) past := by
  induction devices generalizing past n with
  | nil => exact pure trivial
  | cons device devices ih =>
    unfold cycleLoop
    refine seq (writes_batch hclock fun hc hin => writes_purgeLoop hc hin 0) fun _ past₁ h₁ => ?_
    have hclock₁ := hclock.later h₁
    refine seq (Q := fun _ _ => True) ?_ fun retried past₂ h₂ => ?_
    · refine seq writes_reachable fun online past' h' => ?_
      split
      · exact writes_batch (hclock₁.later h') fun hc hin => writes_sweepLoop hc hin 0
      · exact pure trivial
    refine seq (Q := fun _ _ => True) ?_ fun recovered past₃ h₃ =>
      ih ((hclock₁.later h₂).later h₃) _
    refine seq writes_reachable fun online past' h' => ?_
    split
    · refine bind (writes_perform trivial fun x now' w _ hnow => ?_)
      obtain rfl : x.now = now' := (Prod.mk.inj (some.inj hnow)).1
      exact writes_batch ⟨_, mem_cons_self, rfl, rfl⟩ fun hc hin => writes_recoverLoop hc hin 0
    · exact pure trivial

theorem writes_runRecoveryCycle {candidates : List DeviceId} :
    Explains cfg (cfg.runRecoveryCycle candidates bucket) past := by
  refine bind (writes_perform trivial fun x now w _ hnow => ?_)
  obtain rfl : x.now = now := (Prod.mk.inj (some.inj hnow)).1
  have hclock : ReadClock (⟨.clock, x, w⟩ :: past) x.now := ⟨_, mem_cons_self, rfl, rfl⟩
  split
  · exact bind (writes_bucketOf fun _ _ => writes_cycleLoop hclock 0)
  · exact writes_cycleLoop hclock 0

/-! ## Acknowledgements and receipts -/

variable {cmd : DeliveryAckCommand}

theorem writes_commitAck {user : UserId} {t : TimePoint} :
    Explains cfg (cfg.commitAck cmd user t) past := by
  refine bind (writes_perform trivial fun _ _ _ _ _ => ?_)
  refine bind (writes_rethrow fun _ _ => bind (writes_bucketOf fun bucket _ => ?_))
  refine bind (writes_fetchPending fun x w recs _ hrecs => ?_)
  dsimp only
  split
  next rec hfound =>
    have hrec := hrecs rec (mem_of_find?_eq_some hfound)
    exact bind (writes_updateStatus (.acknowledged hrec) fun _ _ _ => writes_answer)
  · exact writes_answer

theorem writes_acknowledgeDelivery :
    Explains cfg (cfg.acknowledgeDelivery cmd) past := by
  unfold acknowledgeDelivery
  split
  · exact pure trivial
  refine bind (writes_perform trivial fun _ _ _ _ _ => writes_guarded ?_ ?_ ?_)
  · exact fun _ => writes_perform trivial fun _ _ _ _ _ => trivial
  · exact fun _ => writes_perform trivial fun _ _ _ _ _ => trivial
  intro past'
  refine bind (writes_fetchStates fun _ _ states => ?_)
  refine bind (writes_perform trivial fun _ active _ _ _ => ?_)
  split
  · exact pure trivial
  · exact writes_commitAck

theorem writes_recordReadReceipt {cmd : ReadReceiptCommand} :
    Explains cfg (cfg.recordReadReceipt cmd) past := by
  refine bind (writes_perform trivial fun _ _ _ _ _ => bind (writes_rethrow fun _ _ => ?_))
  refine bind (writes_perform trivial fun _ _ _ _ _ => ?_)
  split
  · exact pure trivial
  refine writes_guarded ?_ ?_ ?_
  · exact fun _ => writes_perform trivial fun _ _ _ _ _ => trivial
  · exact fun _ => writes_perform trivial fun _ _ _ _ _ => trivial
  intro past'
  refine bind (writes_fetchStates fun _ _ states => ?_)
  refine bind (writes_perform trivial fun _ _ _ _ _ => ?_)
  split
  · exact pure trivial
  refine bind (writes_perform trivial fun _ _ _ _ _ => ?_)
  exact bind (writes_rethrow fun _ _ => writes_answer)

end

end Config

/-! ## The consumer -/

namespace Consumer

variable {c : Consumer} {past : Past} {event : OutboxEventRecord}

theorem writes_markPublished :
    Explains c.config (markPublished event) past :=
  bind (writes_perform trivial fun _ _ _ _ _ =>
    bind (writes_perform trivial fun _ _ _ _ _ => writes_rethrow fun _ _ => trivial))

theorem writes_dispatchLoop {message : MessageId} {states : List RecipientDeliveryState} :
    Explains c.config (c.dispatchLoop message bucket states) past := by
  induction states generalizing past with
  | nil => exact pure trivial
  | cons state states ih =>
    refine seq (Q := fun _ _ => True) ?_ fun _ _ _ => ih
    refine seq writes_reachable fun online _ _ => ?_
    split
    · refine bind (writes_fetchPending fun _ _ recs _ _ => ?_)
      split
      · exact bind (writes_perform trivial fun _ _ _ _ _ => pure trivial)
      · exact pure trivial
    · exact pure trivial

theorem writes_processEvent :
    Explains c.config (c.processEvent event) past := by
  refine bind (writes_rethrow fun message _ => ?_)
  cases message with
  | none => exact seq writes_markPublished fun _ _ _ => pure trivial
  | some message =>
    refine bind (writes_bucketOf fun bucket _ => bind (writes_fetchStates fun _ _ _ => ?_))
    refine seq writes_dispatchLoop fun _ _ _ => ?_
    exact seq writes_markPublished fun _ _ _ => pure trivial

theorem writes_pollLoop {events : List OutboxEventRecord} (n : Nat) :
    Explains c.config (c.pollLoop events n) past := by
  induction events generalizing past n with
  | nil => exact pure trivial
  | cons event events ih =>
    unfold pollLoop
    split
    · exact ih n
    refine seq (tryCatch writes_processEvent ?_) fun counted _ _ => ih _
    exact fun _ _ _ => pure trivial

theorem writes_pollAndDispatch {limit : Nat} :
    Explains c.config (c.pollAndDispatch bucket limit) past :=
  bind (writes_perform trivial fun _ _ _ _ _ =>
    bind (writes_rethrow fun _ _ => writes_pollLoop 0))

/-! ## All calls -/

inductive Job
  | work
  | recover (candidates : List DeviceId) (bucket : String)
  | acknowledge (cmd : DeliveryAckCommand)
  | readReceipt (cmd : ReadReceiptCommand)
  | poll (bucket : String) (limit : Nat)

def program (c : Consumer) : Job → Program Unit
  | .work => do let _ ← c.config.processSingleTask
  | .recover candidates bucket => do let _ ← c.config.runRecoveryCycle candidates bucket
  | .acknowledge cmd => do let _ ← c.config.acknowledgeDelivery cmd
  | .readReceipt cmd => do let _ ← c.config.recordReadReceipt cmd
  | .poll bucket limit => do let _ ← c.pollAndDispatch bucket limit

/-- **Every call of the engine writes for a reason.** -/
theorem writes_program (job : Job) : Explains c.config (c.program job) past := by
  cases job with
  | work => exact seq writes_processSingleTask fun _ _ _ => pure trivial
  | recover candidates bucket =>
    exact seq writes_runRecoveryCycle fun _ _ _ => pure trivial
  | acknowledge cmd =>
    exact seq writes_acknowledgeDelivery fun _ _ _ => pure trivial
  | readReceipt cmd =>
    exact seq writes_recordReadReceipt fun _ _ _ => pure trivial
  | poll bucket limit => exact seq writes_pollAndDispatch fun _ _ _ => pure trivial

abbrev Engine (ι : Type) : Type :=
  Lib.Interleaving.Config ι (Call Statement Statement.Resp Env World (Except String Unit)) World

def start {ι : Type} (c : Consumer) (jobs : ι → Job) (w : World) : Engine ι :=
  ⟨fun i => Call.start (c.program (jobs i)).run, w⟩

end Consumer

end SecureCloud.Messaging.Delivery
