import SecureCloud.Messaging.Delivery.Calls

/-
# Messaging.Delivery.OutboxDispatch — what the consumer has offered when it marks an event

`poll_and_dispatch` marks a `MessageSent` event as published after it has been through the recipients of
the message. For each that is online it looks for the pending record among the first HUNDRED rows of the
device in the month of the event, and offers it if it is there. If not, the event is marked all the same.

The queue and the fan-out do not change while the consumer polls. What the registry and the scheduler say
is the environment's.
-/

namespace SecureCloud.Messaging.Delivery

open Lib.Program Lib.Table Protocol Statement List Option

/-! ## What is looked for -/

variable (t : Tables)

def Tables.nearRecord (device : DeviceId) (bucket : String) (message : MessageId) :
    Option QueueRow :=
  ((t.bucketRows device bucket).take 100).find? (·.messageId = message)

def Statement.marks : Statement → Option OutboxKey
  | markPublished key _ => some key
  | _ => none

namespace Consumer

variable (c : Consumer)

/-- `r` is the pending record of a recipient device that is online; without a registry every device is. -/
def Waiting (online : DeviceId → Bool) (message : MessageId) (r : QueueRow) : Prop :=
  r ∈ t.queue.rows ∧ r.messageId = message ∧
    (∃ s ∈ t.states.rows, s.messageId = message ∧ s.recipientDeviceId = r.deviceId) ∧
    (c.config.registry = true → online r.deviceId = true)

/-- Nothing is left out: when the run marks a `MessageSent` event as published, every pending record
of an online recipient device of its message has been offered. -/
def DispatchComplete (history : Past) : Prop :=
  ∀ pre st post key, history = pre ++ st :: post → st.stmt.marks = some key →
    ∀ e message, t.outbox.find key = some e → e.eventType = "MessageSent" →
      c.messageOf e = .ok (some message) →
      ∀ r, c.Waiting t st.env.online message r → Offered pre r.key

/-- The condition: every such record is the first of its message among the first hundred rows of its
device in the month of the event. -/
def Near (online : DeviceId → Bool) (outboxBucket : String) : Prop :=
  ∀ e ∈ t.outbox.rows, e.outboxBucket = outboxBucket → e.eventType = "MessageSent" →
    ∀ message, c.messageOf e = .ok (some message) → ∀ r, c.Waiting t online message r →
      ∃ bucket, MessageBucket.fromTimePoint e.createdAt = some bucket ∧
        t.nearRecord r.deviceId bucket.value message = some r

/-! ## The consumer under way -/

def protocol (w : World) (online : DeviceId → Bool) : Protocol Statement Env World where
  inv := fun s => s.tables.queue = w.tables.queue ∧ s.tables.states = w.tables.states
  rely := fun _ _ _ => True
  assume := fun _ _ x _ => x.online = online
  oblige := fun past l _ => l.leavesQueue = true ∧ ∀ key, l.marks = some key →
    ∀ e message, w.tables.outbox.find key = some e → c.messageOf e = .ok (some message) →
      ∀ r, c.Waiting w.tables online message r → Offered past r.key
  rely_refl := fun _ _ => trivial
  rely_trans := fun _ _ _ _ _ _ => trivial

section
variable {c} {w s : World} {online : DeviceId → Bool} {past : Past}
  {message : MessageId} {bucket : String}

theorem protocol_perform {l : Statement} {Q : Past → l.Resp → World → Prop}
    {E : Past → String → World → Prop}
    (hl : l.leavesQueue = true) (hmark : l.marks = none)
    (h : ∀ s' x r s'', s'.tables.queue = w.tables.queue → s'.tables.states = w.tables.states →
      l.exec c.config x s' = some (r, s'') → x.online = online →
        ∀ s''', Q (⟨l, x, s'⟩ :: past) r s''') :
    (c.protocol w online).SatE (exec c.config) Q E (perform l) past s := by
  refine satE_perform ?_
  intro s' _ hs'
  refine ⟨⟨hl, fun key hkey => nomatch hmark.symm.trans hkey⟩, ?_⟩
  intro x r s'' hexec hx s''' _ _
  exact h s' x r s'' hs'.1 hs'.2 hexec hx s'''

open Tables

theorem dispatchTo_offers (state : RecipientDeliveryState) :
    (c.protocol w online).SatE (exec c.config)
      (fun past' _ _ => (c.config.registry = true → online state.recipientDeviceId = true) →
        ∀ r, w.tables.nearRecord state.recipientDeviceId bucket message = some r →
          Offered past' r.key) (fun _ _ _ => True) (c.dispatchTo message bucket state) past s := by
  -- what is done for a device that can be reached
  obtain ⟨rest, hrest, hgo⟩ : ∃ rest, c.dispatchTo message bucket state =
        (do if ← c.config.reachable state.recipientDeviceId then rest) ∧
      ∀ past s, (c.protocol w online).SatE (exec c.config)
        (fun past' _ _ => (c.config.registry = true → online state.recipientDeviceId = true) →
          ∀ r, w.tables.nearRecord state.recipientDeviceId bucket message = some r →
            Offered past' r.key)
        (fun _ _ _ => True) rest past s := by
    refine ⟨_, rfl, ?_⟩
    intro past s
    unfold fetchPending
    refine satE_bind (satE_bind (protocol_perform rfl rfl ?_))
    intro s' x r s'' hqueue _ hexec _ s₁
    refine satE_rethrow ?_
    rintro recs rfl s₂ - -
    obtain ⟨hread, -⟩ := Prod.mk.inj (some.inj hexec)
    have hfetched : w.tables.fetchPendingForDevice state.recipientDeviceId bucket 100 = some recs := by
      have h := reading_eq_ok hread
      unfold fetchPendingForDevice bucketRows at h ⊢
      rwa [hqueue] at h
    have hrows := fetch_rows hfetched
    rw [show (int32Of 100).toNat = 100 by decide] at hrows
    have hnear : (recs.find? (·.row.messageId = message)).map QueueRecord.row =
        w.tables.nearRecord state.recipientDeviceId bucket message := by
      rw [nearRecord, ← hrows, find?_map]
      rfl
    cases hrec : recs.find? (·.row.messageId = message) with
    | none =>
      refine satE_pure ?_
      intro _ _ _ _ r hr
      rw [hrec, hr] at hnear
      cases hnear
    | some rec =>
      refine satE_bind (protocol_perform rfl rfl ?_)
      intro s₃ x₃ status s₄ _ _ _ _ s₅
      refine satE_pure ?_
      intro _ _ _ _ r hr
      rw [hrec, hr, map_some] at hnear
      cases hnear
      exact ⟨_, mem_cons_self, by simp [offers, QueueRecord.task, QueueRow.key]⟩
  rw [hrest]
  refine satE_bind ?_
  unfold Config.reachable
  by_cases hregistry : c.config.registry = true
  · rw [if_pos hregistry]
    refine protocol_perform rfl rfl ?_
    intro s' x r s'' _ _ hexec hx s₁
    obtain ⟨hr, -⟩ := Prod.mk.inj (some.inj hexec)
    by_cases honline : online state.recipientDeviceId = true
    · have htrue : r = true := by rw [← hr, hx, honline]
      rw [htrue]
      exact hgo _ _
    -- an offline device is left to the recovery service
    have hfalse : r = false := by rw [← hr, hx]; simpa using honline
    rw [hfalse]
    refine satE_pure ?_
    intro _ _ _ hon
    exact absurd (hon hregistry) honline
  rw [if_neg hregistry]
  refine satE_pure ?_
  intro s₁ _ _
  exact hgo _ _

theorem dispatchLoop_offers (states : List RecipientDeliveryState) :
    (c.protocol w online).SatE (exec c.config) (fun past' _ _ => ∀ state ∈ states,
        (c.config.registry = true → online state.recipientDeviceId = true) →
          ∀ r, w.tables.nearRecord state.recipientDeviceId bucket message = some r →
            Offered past' r.key)
      (fun _ _ _ => True) (c.dispatchLoop message bucket states) past s := by
  induction states generalizing past s with
  | nil => exact satE_pure nofun
  | cons state states ih =>
    unfold dispatchLoop
    refine satE_bind (satE_mono ?_ (dispatchTo_offers state))
    intro past₁ _ s₁ hs₁ hfirst
    -- what was offered for the first recipient stays offered
    refine satE_mono ?_ (satE_with_past ih)
    intro past₂ _ s₂ hs₂ hrest
    obtain ⟨hlater, hothers⟩ := hrest s₂ trivial hs₂
    intro state' hstate' hon r hr
    rcases mem_cons.mp hstate' with rfl | hstate'
    · exact (hfirst s₁ trivial hs₁ hon r hr).later hlater
    · exact hothers state' hstate' hon r hr

variable {event : OutboxEventRecord}

theorem markPublished_sat
    (howed : ∀ past', past <:+ past' → ∀ e message, w.tables.outbox.find event.key = some e →
      c.messageOf e = .ok (some message) → ∀ r, c.Waiting w.tables online message r →
        Offered past' r.key) :
    (c.protocol w online).SatE (exec c.config) (fun _ _ _ => True) (fun _ _ _ => True)
      (markPublished event) past s := by
  unfold markPublished
  refine satE_bind (protocol_perform rfl rfl ?_)
  intro s' x now s'' _ _ _ _ s₁
  refine satE_bind (satE_perform ?_)
  intro s₂ _ _
  refine ⟨⟨rfl, ?_⟩, ?_⟩
  · intro key hkey
    obtain rfl : event.key = key := some.inj hkey
    exact howed _ (suffix_cons _ past)
  · intro x₂ r s₃ _ _ s₄ _ _
    exact satE_rethrow (fun _ _ _ _ _ => trivial)

variable {outboxBucket : String}

theorem processEvent_sat (hnear : c.Near w.tables online outboxBucket)
    (hevent : event ∈ w.tables.outbox.rows)
    (hbucket : event.outboxBucket = outboxBucket) (htype : event.eventType = "MessageSent") :
    (c.protocol w online).SatE (exec c.config) (fun _ _ _ => True) (fun _ _ _ => True)
      (c.processEvent event) past s := by
  have hrow : w.tables.outbox.find event.key = some event := Keyed.mem_rows_iff.mp hevent
  unfold processEvent
  refine satE_bind (satE_rethrow ?_)
  intro found hfound s₁ _ _
  cases found with
  | none =>
    -- the event names no message: there is nothing to owe
    refine satE_bind (satE_mono ?_ (markPublished_sat ?_))
    · exact fun _ _ _ _ _ => satE_pure fun _ _ _ => trivial
    intro past' _ e message he hmessage
    obtain rfl := some.inj (hrow.symm.trans he)
    rw [hfound] at hmessage
    exact nomatch hmessage
  | some message =>
    refine satE_bind (satE_bucketOf ?_ (fun _ _ _ _ => trivial))
    intro month hmonth s₂ _ _
    unfold fetchStates
    refine satE_bind (satE_bind (protocol_perform rfl rfl ?_))
    intro s' x r s'' _ hstates hexec _ s₃
    refine satE_rethrow ?_
    rintro states rfl s₄ - -
    obtain ⟨hread, -⟩ := Prod.mk.inj (some.inj hexec)
    have hfanout : w.tables.getDeliveryStatesForMessage message = some states := by
      have h := reading_eq_ok hread
      unfold getDeliveryStatesForMessage at h ⊢
      rwa [hstates] at h
    refine satE_bind (satE_mono ?_ (dispatchLoop_offers states))
    intro past₅ _ s₅ hs₅ hoffered
    refine satE_bind (satE_mono ?_ (markPublished_sat ?_))
    · exact fun _ _ _ _ _ => satE_pure fun _ _ _ => trivial
    intro past' hpast e message' he hmessage' r hwaiting
    obtain rfl := some.inj (hrow.symm.trans he)
    rw [hfound] at hmessage'
    obtain rfl := some.inj (Except.ok.inj hmessage')
    obtain ⟨month', hmonth', hr⟩ := hnear event hevent hbucket htype message hfound r hwaiting
    obtain rfl := some.inj (hmonth.symm.trans hmonth')
    obtain ⟨-, -, ⟨state, hstate, hm, hdevice⟩, hon⟩ := hwaiting
    -- the recipient is among the rows that were read
    have hmem := (mem_getDeliveryStates hfanout).mpr ⟨hstate, hm⟩
    rw [← hdevice] at hr hon
    exact (hoffered s₅ trivial hs₅ state hmem hon r hr).later hpast

variable {events : List OutboxEventRecord}

theorem pollLoop_sat (hnear : c.Near w.tables online outboxBucket) (processed : Nat)
    (hevents : ∀ e ∈ events, e ∈ w.tables.outbox.rows ∧ e.outboxBucket = outboxBucket) :
    (c.protocol w online).SatE (exec c.config) (fun _ _ _ => True) (fun _ _ _ => True)
      (c.pollLoop events processed) past s := by
  induction events generalizing processed past s with
  | nil => exact satE_pure fun _ _ _ => trivial
  | cons event events ih =>
    have hrest : ∀ e ∈ events, e ∈ w.tables.outbox.rows ∧ e.outboxBucket = outboxBucket :=
      fun e he => hevents e (mem_cons_of_mem event he)
    unfold pollLoop
    split
    · exact ih processed hrest
    rename_i htype
    obtain ⟨hevent, hbucket⟩ := hevents event mem_cons_self
    refine satE_bind (satE_tryCatch (satE_mono ?_
      (processEvent_sat hnear hevent hbucket (not_ne_iff.mp htype)) ?_))
    · exact fun _ _ _ _ _ => ih _ hrest
    intro _ _ _ _ _
    refine satE_pure ?_
    intro _ _ _
    exact ih _ hrest

theorem mem_of_fetchEvents {t : Tables} {limit : Nat}
    (h : t.fetchPendingEvents outboxBucket limit = some events) :
    ∀ e ∈ events, e ∈ t.outbox.rows ∧ e.outboxBucket = outboxBucket := by
  obtain ⟨rows, hrows, rfl⟩ := map_eq_some_iff.mp h
  have hpicked : ∀ (rows pending : List OutboxEventRecord),
      ∀ e ∈ collectPending limit pending rows, e ∈ pending ∨ e ∈ rows := by
    intro rows
    induction rows with
    | nil => exact fun pending e he => .inl he
    | cons row rows ih =>
      intro pending e he
      unfold collectPending at he
      split at he
      · split at he
        · rcases mem_append.mp he with he | he
          · exact .inl he
          · exact .inr (by simpa using .inl (mem_singleton.mp he))
        rcases ih _ e he with he | he
        · rcases mem_append.mp he with he | he
          · exact .inl he
          · exact .inr (by simpa using .inl (mem_singleton.mp he))
        · exact .inr (mem_cons_of_mem row he)
      rcases ih _ e he with he | he
      · exact .inl he
      · exact .inr (mem_cons_of_mem row he)
  intro e he
  have hrow : e ∈ rows := (hpicked rows [] e he).resolve_left not_mem_nil
  unfold limited at hrows
  split at hrows
  · obtain rfl := some.inj hrows
    have hmem := mem_of_mem_take hrow
    simpa [outboxRows, mem_insertionSort] using hmem
  · exact nomatch hrows

end

/-- **The consumer offers before it marks**, in every run on a store whose waiting records are near
and during which the registry does not change. -/
theorem dispatchComplete_of_near (c : Consumer) (w : World) (online : DeviceId → Bool)
    (outboxBucket : String) (limit : Nat) (xs : List Env) (hsteady : ∀ x ∈ xs, x.online = online)
    (hnear : c.Near w.tables online outboxBucket) :
    c.DispatchComplete w.tables
      ((c.pollAndDispatch outboxBucket limit).run.history (exec c.config) xs w) := by
  intro pre st post key hhistory hmark e message he _ hmessage r hwaiting
  cases xs with
  | nil => exact absurd hhistory (by simp [show (c.pollAndDispatch outboxBucket limit).run.history
      (exec c.config) [] w = [] from rfl])
  | cons x xs =>
    -- the events are fetched first; from there on only the queue and the fan-out matter
    have hfirst : (c.pollAndDispatch outboxBucket limit).run.history (exec c.config)
        (x :: xs) w = ⟨.fetchEvents outboxBucket limit, x, w⟩ :: (do
            let events ← rethrow (reading x (w.tables.fetchPendingEvents outboxBucket limit))
            c.pollLoop events 0 : Program Nat).run.history (exec c.config) xs w := rfl
    rw [hfirst] at hhistory
    cases pre with
    | nil =>
      obtain ⟨rfl, -⟩ := cons.inj hhistory
      exact nomatch hmark
    | cons st₀ pre =>
      obtain ⟨rfl, hrest⟩ := cons.inj hhistory
      have hsat : (c.protocol w online).SatE (exec c.config) (fun _ _ _ => True)
          (fun _ _ _ => True) (do
            let events ← rethrow (reading x (w.tables.fetchPendingEvents outboxBucket limit))
            c.pollLoop events 0 : Program Nat) [⟨.fetchEvents outboxBucket limit, x, w⟩] w := by
        refine satE_bind (satE_rethrow ?_)
        intro events hevents _ _ _
        exact pollLoop_sat hnear 0 (mem_of_fetchEvents (reading_eq_ok hevents))
      have hgranted : ∀ st ∈ (do
            let events ← rethrow (reading x (w.tables.fetchPendingEvents outboxBucket limit))
            c.pollLoop events 0 : Program Nat).run.history (exec c.config) xs w,
          st.env.online = online :=
        fun st hst => hsteady _ (mem_cons_of_mem x (Prog.env_mem_of_history hst))
      obtain ⟨-, howed⟩ := Prog.history_upheld (A := fun st => st.env.online = online)
        (fun _ l x s r s' hs howes hx hexec => by
          obtain ⟨hqueue, hstates⟩ := exec_leavesQueue howes.1 hexec
          exact ⟨hx, hqueue.trans hs.1, hstates.trans hs.2⟩)
        hsat ⟨rfl, rfl⟩ hgranted hrest
      rw [hgranted st (by rw [hrest]; simp)] at hwaiting
      refine (howed key hmark e message he hmessage r hwaiting).subset ?_
      intro st' hst'
      simpa [or_comm] using hst'

/-! ## The hundred and first message of a month -/

def plainConsumer : Consumer where
  config := { stripeOf := fun _ => 0 }
  -- the id stands after the opening of the first member
  parse := fun text => .messageId (String.ofList ((text.toList.drop 15).take 36))

def januaryRow (last i : Nat) : QueueRow where
  deviceId := "d"
  deliveryBucket := "202601"
  acceptedAt := 1767225600000 + i
  messageId := ⟨i + 1⟩
  deliveryState := if i = last then .queued else .delivered
  attemptCount := 0
  content := some
    { conversationId := ⟨7⟩, messageSequence := i + 1, messagePriority := .normal
      envelope :=
        { ciphertextBlob := [1], ephemeralPublicKey := [], iv := [], authTag := []
          algorithm := .xChaCha20Poly1305, protocolVersion := 1, oneTimePrekeyId := none } }

variable (last : Nat)

def januaryEvent : OutboxEventRecord where
  outboxBucket := "2026010100"
  createdAt := 1767225600000 + last
  eventId := "e"
  conversationId := ⟨7⟩
  eventType := "MessageSent"
  payloadJson := "\x7b\"message_id\":\"" ++ (⟨last + 1⟩ : MessageId).toString ++ "\"\x7d"

theorem januaryRow_key_nodup :
    (((List.range (last + 1)).map (januaryRow last)).map QueueRow.key).Nodup := by
  rw [List.map_map]
  refine List.Nodup.map ?_ List.nodup_range
  intro i j hij
  have htime : (1767225600000 : Int) + i = 1767225600000 + j :=
    congrArg (fun k : QueueKey => k.2.1) hij
  omega

def januaryWorld : World where
  tables :=
    { queue := ⟨(List.range (last + 1)).map (januaryRow last), januaryRow_key_nodup last⟩
      states := Keyed.empty.write
        { messageId := ⟨last + 1⟩, recipientDeviceId := "d", recipientUserId := "u"
          deliveryState := .queued }
      outbox := Keyed.empty.write (januaryEvent last) }

def januaryHistory : Past :=
  (plainConsumer.pollAndDispatch "2026010100" 10).run.history (exec plainConsumer.config)
    (List.replicate 20 { now := 1767225601000 }) (januaryWorld last)

/-- Behind a hundred delivered messages, the event of the next one is marked as published and its record
is never offered. -/
theorem hundred_rows_hide_the_next :
    ¬ plainConsumer.DispatchComplete (januaryWorld 100).tables (januaryHistory 100) := by
  intro h
  have hrun : ((januaryHistory 100).any (fun st => st.stmt.marks = some (januaryEvent 100).key) &&
      !(januaryHistory 100).any (fun st => st.stmt.offers (januaryRow 100 100).key) &&
      (januaryHistory 100).all (fun st => st.env.online "d")) = true := by decide
  simp only [Bool.and_eq_true, Bool.not_eq_true'] at hrun
  obtain ⟨⟨hmarked, hnever⟩, honline⟩ := hrun
  obtain ⟨st, hst, hmarks⟩ := List.any_eq_true.mp hmarked
  obtain ⟨pre, post, hsplit⟩ := List.append_of_mem hst
  have hwaiting : plainConsumer.Waiting (januaryWorld 100).tables st.env.online ⟨101⟩
      (januaryRow 100 100) := by
    refine ⟨List.mem_map_of_mem (by simp), rfl, ?_, fun _ => ?_⟩
    · exact ⟨_, mem_upsert_self, rfl, rfl⟩
    · exact List.all_eq_true.mp honline st hst
  obtain ⟨st', hst', hoffers⟩ := h pre st post _ hsplit (of_decide_eq_true hmarks) (januaryEvent 100)
    ⟨101⟩ (Keyed.find_write_self _ _) rfl (by decide) _ hwaiting
  have hin : st' ∈ januaryHistory 100 := hsplit ▸ List.mem_append_left _ hst'
  rw [List.any_eq_false] at hnever
  exact hnever st' hin hoffers

/-- The first message of the month is offered before its event is marked. -/
theorem first_message_offered :
    plainConsumer.DispatchComplete (januaryWorld 0).tables (januaryHistory 0) := by
  refine dispatchComplete_of_near plainConsumer (januaryWorld 0) (fun _ => true) "2026010100" 10 _ ?_ ?_
  · intro x hx
    rw [eq_of_mem_replicate hx]
  intro e he _ _ message hmessage r hwaiting
  obtain rfl : e = januaryEvent 0 := by simpa [januaryWorld, Keyed.write, upsert, Keyed.empty] using he
  have hid : plainConsumer.messageOf (januaryEvent 0) = .ok (some ⟨1⟩) := by decide
  obtain rfl := some.inj (Except.ok.inj (hid.symm.trans hmessage))
  obtain rfl : r = januaryRow 0 0 := by simpa [januaryWorld] using hwaiting.1
  exact ⟨⟨2026, 1, by decide, by decide⟩, by decide, by decide⟩

end Consumer

end SecureCloud.Messaging.Delivery
