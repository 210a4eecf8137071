import SecureCloud.Lib.Calendar
import SecureCloud.Lib.Program
import SecureCloud.Messaging.Delivery.Scheduler

/-
# Messaging.Delivery.Engine — what the calls of the delivery engine share

The workers, the recovery service, the outbox consumer and the two services that record acknowledgements
are programs (`Lib.Program`) over the statements of this module: a repository call, a call on the
scheduler, a look at the connection registry, a dispatch over a channel, a reading of the clock, or a
mutex. A repository call can fail, and one that failed may have taken effect all the same.
-/

namespace SecureCloud.Messaging.Delivery

open Lib.Program Lib.Calendar Protocol

/-! ## The shared state -/

structure World where
  tables : Tables
  scheduler : Scheduler := {}
  /-- The stripes of `DeliveryService` that are held. -/
  ackStripes : Finset Nat := ∅
  /-- The stripes of `ReadReceiptService` that are held. -/
  receiptStripes : Finset Nat := ∅

/-- The environment's part of a statement: the clock, how a call or dispatch ends, the registry, the
verdicts asked for, whether a wait times out, the retry delay, the id of a new event. -/
structure Env where
  now : TimePoint
  outcome : CallOutcome := .ok
  online : DeviceId → Bool := fun _ => true
  attempt : DeliveryAttemptResult := .success
  deviceActive : Bool := true
  participantActive : Bool := true
  timedOut : Bool := true
  delay : Nat := 500
  eventId : String := ""

/-- The first two fields are the scheduler's and the recovery service's; `maxRetryAttempts` is the retry
policy's. -/
structure Config where
  scheduler : SchedulerConfig := {}
  batchSize : Nat := 100
  recoveryMaxRetryAttempts : Nat := 5
  maxDeliveryTtl : Int := 86400000
  maxRetryAttempts : Nat := 10
  /-- A connection registry is configured. -/
  registry : Bool := true
  /-- An outbox repository is configured for workers and services. -/
  outbox : Bool := true
  /-- `std::hash` modulo the number of stripes. -/
  stripeOf : String → Nat

/-! ## Events -/

def zeroPad (width n : Nat) : String :=
  let digits := Nat.toDigits 10 n
  String.ofList (List.replicate (width - digits.length) '0' ++ digits)

def outboxBucketFromTimePoint (tp : TimePoint) : String :=
  let seconds := tp.tdiv 1000
  let date := civilFromDays (seconds.fdiv 86400)
  zeroPad 4 date.year.toNat ++ zeroPad 2 date.month.toNat ++ zeroPad 2 date.day.toNat ++
    zeroPad 2 ((seconds.fmod 86400).toNat / 3600)

/-- A `ConversationOutboxEvent` before it has its id. -/
structure NewEvent where
  conversationId : ConversationId
  eventType : String
  payloadJson : String
  createdAt : TimePoint

/-- `enqueue_event`: the row it inserts. -/
def NewEvent.record (e : NewEvent) (eventId : String) : OutboxEventRecord where
  outboxBucket := outboxBucketFromTimePoint e.createdAt
  createdAt := e.createdAt
  eventId := eventId
  conversationId := e.conversationId
  eventType := e.eventType
  payloadJson := e.payloadJson

/-! ## Statements -/

inductive Statement
  | clock
  | isOnline (device : DeviceId)
  | activeChannel (device : DeviceId)
  | sendEnvelope (task : Task)
  | computeNextDelay (attempts : Nat)
  | dequeue
  | schedule (task : Task)
  | fetchPending (device : DeviceId) (bucket : String) (limit : Nat)
  | updateStatus (key : QueueKey) (state : DeliveryState) (attempts : Nat)
      (nextRetry : Option TimePoint)
  | fetchStates (message : MessageId)
  | recordDeliveryAck (message : MessageId) (device : DeviceId) (deliveredAt : TimePoint)
  | recordReadAck (message : MessageId) (device : DeviceId) (readAt : TimePoint)
  | fetchEvents (bucket : String) (limit : Nat)
  | markPublished (key : OutboxKey) (publishedAt : TimePoint)
  | enqueueEvent (e : NewEvent)
  | isDeviceActive (device : DeviceId)
  | isParticipant (conv : ConversationId) (user : UserId)
  | lockAck (stripe : Nat)
  | unlockAck (stripe : Nat)
  | lockReceipt (stripe : Nat)
  | unlockReceipt (stripe : Nat)

namespace Statement

/-- A repository call answers, or the text of its exception comes back. -/
abbrev Resp : Statement → Type
  | clock => TimePoint
  | isOnline _ => Bool
  | activeChannel _ => Bool
  | sendEnvelope _ => DeliveryAttemptResult
  | computeNextDelay _ => Nat
  | dequeue => Option Task
  | schedule _ => SchedulerStatus
  | fetchPending _ _ _ => Except String (List QueueRecord)
  | updateStatus _ _ _ _ => Except String Unit
  | fetchStates _ => Except String (List RecipientDeliveryState)
  | recordDeliveryAck _ _ _ => Except String Unit
  | recordReadAck _ _ _ => Except String Unit
  | fetchEvents _ _ => Except String (List OutboxEventRecord)
  | markPublished _ _ => Except String Unit
  | enqueueEvent _ => Except String Unit
  | isDeviceActive _ => Bool
  | isParticipant _ _ => Except String Bool
  | lockAck _ => Unit
  | unlockAck _ => Unit
  | lockReceipt _ => Unit
  | unlockReceipt _ => Unit

/-- A read: `answer` is `none` when a row cannot be read. -/
def reading {α : Type} (x : Env) (answer : Option α) : Except String α :=
  match x.outcome.thrown, answer with
  | some what, _ => .error what
  | none, some a => .ok a
  | none, none => .error "bad variant access"

def writing (x : Env) (w : World) (t : Tables) : Except String Unit × World :=
  (match x.outcome.thrown with
    | some what => .error what
    | none => .ok (),
    if x.outcome.takesEffect then { w with tables := t } else w)

variable {x : Env}

theorem reading_eq_ok {α : Type} {answer : Option α} {a : α}
    (h : reading x answer = .ok a) : answer = some a := by
  unfold reading at h
  split at h
  · exact nomatch h
  · exact congrArg some (Except.ok.inj h)
  · exact nomatch h

theorem writing_eq_ok {w : World} {t : Tables} {u : Unit} {w' : World}
    (h : writing x w t = (.ok u, w')) : w' = { w with tables := t } := by
  unfold writing at h
  cases hx : x.outcome with
  | ok =>
    rw [hx] at h
    exact (Prod.mk.inj h).2.symm
  | failed | timedOut =>
    rw [hx] at h
    exact nomatch (Prod.mk.inj h).1

/-- What a statement does. A wait for a task or for a mutex is `none`. -/
def exec (cfg : Config) : (l : Statement) → Env → World → Option (l.Resp × World)
  | clock, x, w => some (x.now, w)
  | isOnline device, x, w => some (x.online device, w)
  | activeChannel device, x, w => some (x.online device, w)
  | sendEnvelope _, x, w => some (x.attempt, w)
  | computeNextDelay _, x, w => some (x.delay, w)
  | dequeue, x, w =>
    (w.scheduler.dequeue cfg.scheduler x.timedOut).map fun r => (r.1, { w with scheduler := r.2 })
  | schedule task, x, w =>
    let r := w.scheduler.schedule cfg.scheduler x.now task
    some (r.1, { w with scheduler := r.2 })
  | fetchPending device bucket limit, x, w =>
    some (reading x (w.tables.fetchPendingForDevice device bucket limit), w)
  | updateStatus key state attempts nextRetry, x, w =>
    some (writing x w (w.tables.updateDeviceDeliveryStatus key state attempts nextRetry))
  | fetchStates message, x, w =>
    some (reading x (w.tables.getDeliveryStatesForMessage message), w)
  | recordDeliveryAck message device deliveredAt, x, w =>
    some (writing x w (w.tables.recordDeliveryAck message device deliveredAt))
  | recordReadAck message device readAt, x, w =>
    some (writing x w (w.tables.recordReadAck message device readAt))
  | fetchEvents bucket limit, x, w =>
    some (reading x (w.tables.fetchPendingEvents bucket limit), w)
  | markPublished key publishedAt, x, w =>
    some (writing x w (w.tables.markEventPublished key publishedAt))
  | enqueueEvent e, x, w => some (writing x w (w.tables.enqueueEvent (e.record x.eventId)))
  | isDeviceActive _, x, w => some (x.deviceActive, w)
  | isParticipant _ _, x, w => some (reading x (some x.participantActive), w)
  | lockAck stripe, _, w =>
    if stripe ∈ w.ackStripes then none
    else some ((), { w with ackStripes := insert stripe w.ackStripes })
  | unlockAck stripe, _, w => some ((), { w with ackStripes := w.ackStripes.erase stripe })
  | lockReceipt stripe, _, w =>
    if stripe ∈ w.receiptStripes then none
    else some ((), { w with receiptStripes := insert stripe w.receiptStripes })
  | unlockReceipt stripe, _, w =>
    some ((), { w with receiptStripes := w.receiptStripes.erase stripe })

def leavesQueue : Statement → Bool
  | updateStatus _ _ _ _ => false
  | recordDeliveryAck _ _ _ => false
  | recordReadAck _ _ _ => false
  | _ => true

theorem writing_snd {w w' : World} {t : Tables} {r : Except String Unit}
    (h : some (writing x w t) = some (r, w')) : w' = { w with tables := t } ∨ w' = w := by
  cases h
  split
  · exact .inl rfl
  · exact .inr rfl

variable {l : Statement}

theorem exec_leavesQueue {cfg : Config} {w w' : World}
    {r : l.Resp} (hl : l.leavesQueue = true) (h : l.exec cfg x w = some (r, w')) :
    w'.tables.queue = w.tables.queue ∧ w'.tables.states = w.tables.states := by
  cases l with
  | updateStatus | recordDeliveryAck | recordReadAck => exact nomatch hl
  | markPublished key publishedAt =>
    rcases writing_snd h with rfl | rfl
    · unfold Tables.markEventPublished
      split <;> exact ⟨rfl, rfl⟩
    · exact ⟨rfl, rfl⟩
  | enqueueEvent e => rcases writing_snd h with rfl | rfl <;> exact ⟨rfl, rfl⟩
  | dequeue =>
    obtain ⟨r', -, heq⟩ := Option.map_eq_some_iff.mp h
    cases heq
    exact ⟨rfl, rfl⟩
  | lockAck | lockReceipt =>
    simp only [exec] at h
    split at h
    · exact nomatch h
    cases h
    exact ⟨rfl, rfl⟩
  | _ =>
    cases h
    exact ⟨rfl, rfl⟩

section
variable {cfg : Config} {l : Statement} {x : Env} {w w' : World} {r : l.Resp}

/-- What a statement does to a record: nothing, or it is the update of this record. -/
theorem exec_queue (h : l.exec cfg x w = some (r, w')) (key : QueueKey) :
    w'.tables.queue.find key = w.tables.queue.find key ∨
      ∃ state attempts next, l = updateStatus key state attempts next ∧
        w'.tables.queue.find key = some (w.tables.updatedRow key state attempts next) := by
  by_cases hl : l.leavesQueue = true
  · exact .inl (by rw [(exec_leavesQueue hl h).1])
  cases l with
  | updateStatus key' state attempts next =>
    rcases writing_snd h with rfl | rfl
    · rw [Tables.find_updateDeviceDeliveryStatus]
      split
      · subst key
        exact .inr ⟨state, attempts, next, rfl, rfl⟩
      · exact .inl rfl
    · exact .inl rfl
  | recordDeliveryAck | recordReadAck =>
    rcases writing_snd h with rfl | rfl <;> exact .inl rfl
  | _ => exact absurd rfl hl

/-- What a statement does to a row of the fan-out: nothing, or it records an acknowledgement. -/
theorem exec_states (h : l.exec cfg x w = some (r, w')) (key : MessageId × DeviceId) :
    w'.tables.states.find key = w.tables.states.find key ∨ ∃ s, w'.tables.states.find key = some s ∧
        (s.deliveryState = .delivered ∨ s.deliveryState = .read) := by
  by_cases hl : l.leavesQueue = true
  · exact .inl (by rw [(exec_leavesQueue hl h).2])
  cases l with
  | updateStatus key' state attempts next =>
    rcases writing_snd h with rfl | rfl <;> exact .inl rfl
  | recordDeliveryAck | recordReadAck =>
    rcases writing_snd h with rfl | rfl
    · simp only [Tables.recordDeliveryAck, Tables.recordReadAck, Tables.find_updateState]
      split
      · refine .inr ⟨_, rfl, ?_⟩
        first | exact .inl rfl | exact .inr rfl
      · exact .inl rfl
    · exact .inl rfl
  | _ => exact absurd rfl hl

end

end Statement

open Statement

/-! ## Programs of the engine -/

abbrev Program := ExceptT String (Prog Statement Statement.Resp)

def perform (l : Statement) : Program l.Resp :=
  liftM (Prog.perform l : Prog Statement Statement.Resp l.Resp)

def rethrow {α : Type} : Except String α → Program α
  | .ok a => pure a
  | .error what => throw what

def bucketOf (tp : TimePoint) : Program String :=
  match MessageBucket.fromTimePoint tp with
  | some bucket => pure bucket.value
  | none => throw "MessageBucket year or month out of range"

def fetchPending (device : DeviceId) (bucket : String) (limit : Nat) :
    Program (List QueueRecord) := do
  rethrow (← perform (.fetchPending device bucket limit))

def updateStatus (key : QueueKey) (state : DeliveryState) (attempts : Nat)
    (nextRetry : Option TimePoint) : Program Unit := do
  rethrow (← perform (.updateStatus key state attempts nextRetry))

def fetchStates (message : MessageId) : Program (List RecipientDeliveryState) := do
  rethrow (← perform (.fetchStates message))

def enqueueEvent (e : NewEvent) : Program Unit := do
  rethrow (← perform (.enqueueEvent e))

/-- A `lock_guard`: the mutex is left on every way out. -/
def guarded {α : Type} (lock unlock : Program Unit) (body : Program α) : Program α := do
  lock
  let a ← tryCatch body fun what => do
    unlock
    throw what
  unlock
  pure a

abbrev Past := List (Step Statement Env World)

/-! ## What has been offered -/

/-- The statement offers a task for the record to the scheduler. A task does not know the bucket of
its record. -/
def Statement.offers (key : QueueKey) : Statement → Bool
  | schedule task => task.recipientDeviceId = key.1.1 ∧ task.acceptedAt = key.2.1 ∧
      task.messageId = key.2.2
  | _ => false

def Offered (past : List (Step Statement Env World)) (key : QueueKey) : Prop :=
  ∃ st ∈ past, st.stmt.offers key = true

theorem Offered.subset {past past' : Past} {key : QueueKey}
    (h : Offered past key) (hpast : past ⊆ past') : Offered past' key := by
  obtain ⟨st, hst, hoffers⟩ := h
  exact ⟨st, hpast hst, hoffers⟩

theorem Offered.later {past past' : Past} {key : QueueKey}
    (h : Offered past key) (hpast : past <:+ past') : Offered past' key :=
  h.subset hpast.subset

/-! ## Rules for the statements -/

section
variable {cfg : Config} {P : Protocol Statement Env World} {α : Type} {past : Past} {w : World}
  {Q : Past → α → World → Prop}
  {E : Past → String → World → Prop}

theorem satE_perform {Q : Past → l.Resp → World → Prop}
    (h : ∀ w', P.rely past w w' → P.inv w' → P.oblige past l w' ∧
      ∀ x r w'', l.exec cfg x w' = some (r, w'') → P.assume past l x w' →
        ∀ w''', P.rely (⟨l, x, w'⟩ :: past) w'' w''' → P.inv w''' → Q (⟨l, x, w'⟩ :: past) r w''') :
    P.SatE (exec cfg) Q E (perform l) past w :=
  satE_lift (sat_perform h)

theorem solo_satE_perform {A : Step Statement Env World → Prop} {Q : Past → l.Resp → World → Prop}
    (h : ∀ x r w', l.exec cfg x w = some (r, w') → A ⟨l, x, w⟩ → Q (⟨l, x, w⟩ :: past) r w') :
    (solo A).SatE (exec cfg) Q E (perform l) past w :=
  satE_lift (solo_perform h)

theorem satE_rethrow {r : Except String α}
    (hok : ∀ a, r = .ok a → ∀ w', P.rely past w w' → P.inv w' → Q past a w')
    (herror : ∀ what, r = .error what → ∀ w', P.rely past w w' → P.inv w' → E past what w' := by
      exact fun _ _ _ _ _ => trivial) :
    P.SatE (exec cfg) Q E (rethrow r) past w := by
  cases r with
  | ok a => exact satE_pure (hok a rfl)
  | error what => exact satE_throw (herror what rfl)

theorem satE_bucketOf {Q : Past → String → World → Prop} {tp : TimePoint}
    (hok : ∀ bucket, MessageBucket.fromTimePoint tp = some bucket →
      ∀ w', P.rely past w w' → P.inv w' → Q past bucket.value w')
    (herror : ∀ what w', P.rely past w w' → P.inv w' → E past what w') :
    P.SatE (exec cfg) Q E (bucketOf tp) past w := by
  unfold bucketOf
  split
  · exact satE_pure (hok _ ‹_›)
  · exact satE_throw (herror _)

theorem satE_guarded {lock unlock : Program Unit} {body : Program α}
    (h : P.SatE (exec cfg) (fun past _ w => P.SatE (exec cfg)
      (fun past a w => P.SatE (exec cfg) (fun past _ w => Q past a w) E unlock past w)
      (fun past what w => P.SatE (exec cfg) (fun past _ w => E past what w) E unlock past w)
      body past w) E lock past w) :
    P.SatE (exec cfg) Q E (guarded lock unlock body) past w := by
  -- the value is returned after the mutex was left; nothing happens in between
  have hret : ∀ {a : α} {past w}, P.SatE (exec cfg) (fun past _ w => Q past a w) E unlock
      past w → P.SatE (exec cfg) Q E (do unlock; pure a) past w := by
    intro a past w hu
    refine satE_bind (Sat.mono ?_ hu)
    intro past r w hinv hr
    cases r with
    | ok u => exact satE_pure hr
    | error what => exact hr w (P.rely_refl past w) hinv
  refine satE_bind (Sat.mono ?_ h)
  intro past r w hinv hr
  cases r with
  | error what => exact hr w (P.rely_refl past w) hinv
  | ok u =>
    refine satE_bind (satE_tryCatch (Sat.mono ?_ (hr w (P.rely_refl past w) hinv)))
    intro past r w hinv hr
    cases r with
    | ok a => exact hret (hr w (P.rely_refl past w) hinv)
    | error what =>
      refine satE_bind (Sat.mono ?_ (hr w (P.rely_refl past w) hinv))
      intro past r w hinv hr
      cases r with
      | ok u => exact satE_throw hr
      | error what' => exact hr w (P.rely_refl past w) hinv

end

end SecureCloud.Messaging.Delivery
