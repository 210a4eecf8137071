import SecureCloud.Messaging.Paging

/-
# Messaging.Rollover — a device that syncs from its cursor, month after month

Messages are sent without losing a sequence, and one device calls `sync_messages` from its cursor and then
advances the cursor to the last message it got. Sequences are allocated per conversation AND MONTH, the
cursor is kept per conversation: after a rollover they speak of different numbers.
-/

namespace SecureCloud.Messaging

open Lib Function Sample Store Machine MessageBucket

/-! ## The system -/

structure SyncSystem where
  store : Store
  counters : Counters
  received : List MessageEntity

inductive SyncEvent
  /-- a complete submission, to any conversation -/
  | send (a : Attempt)
  /-- the service restarts and loses the allocator's counters -/
  | restart
  /-- the device syncs from its cursor -/
  | sync (maxMessages : Nat) (now : TimePoint)

/-- Step 9 of `submit_message` when every call returns. -/
def Store.fanOut (s : Store) (a : Attempt) (bucket : MessageBucket) (sequence : Nat) : Store :=
  a.cmd.deliveryTargets.foldl (fun s t => s.insertRecipientState (a.recipientState t))
    (a.cmd.deliveryTargets.foldl (fun s t => s.insertPending (a.pendingRecord bucket sequence t)) s)

/-- Steps 7 to 9 of `submit_message` when every call returns, so that no sequence is lost. -/
def SyncSystem.send (w : SyncSystem) (a : Attempt) : Option SyncSystem :=
  (fromTimePoint a.acceptedAt).map fun bucket =>
    let (sequence, counters) := w.counters.allocateSequence w.store a.cmd.conversationId bucket
    { w with
      store := (w.store.saveMessage (a.messageEntity bucket sequence)).fanOut a bucket sequence
      counters := counters }

/-- The device asks from its cursor, keeps what it gets, and advances the cursor to the last
message of it. -/
def SyncSystem.sync (w : SyncSystem) (device : DeviceId) (conv : ConversationId)
    (maxMessages : Nat) (now : TimePoint) : Option SyncSystem :=
  (w.store.syncMessages w.counters true none ⟨device, some conv, 0, maxMessages⟩ now).bind
    fun (r, counters) =>
      match r.messages.getLast? with
      | none => some { w with counters := counters }
      | some last =>
        (w.store.updateCursor counters device conv last.messageSequence 0 now).map
          fun (_, store, counters) =>
            { store := store, counters := counters, received := w.received ++ r.messages }

def SyncSystem.step (device : DeviceId) (conv : ConversationId) (w : SyncSystem) :
    SyncEvent → Option SyncSystem
  | .send a => w.send a
  | .restart => some { w with counters := fun _ => none }
  | .sync maxMessages now => w.sync device conv maxMessages now

def Store.addressed (s : Store) (device : DeviceId) (m : MessageEntity) : Bool :=
  (s.getDeliveryRecordForDevice device m.messageId).isSome

/-- Everything addressed to the device was received exactly once. -/
def SyncSystem.ReceivedOnce (w : SyncSystem) (device : DeviceId) (conv : ConversationId) : Prop :=
  ∀ m ∈ w.store.messages, m.conversationId = conv → w.store.addressed device m →
    w.received.count m = 1

/-- The conversation has not begun: no row, counter, cursor or received message. The rest of the keyspace
is arbitrary. -/
structure SyncSystem.Fresh (w : SyncSystem) (device : DeviceId) (conv : ConversationId) : Prop where
  messages : ∀ m ∈ w.store.messages, m.conversationId ≠ conv
  counters : ∀ bucket, w.counters (conv, bucket) = none
  cursor : w.store.getSyncCursor device conv = none
  received : w.received = []

/-! ## What the fan-out leaves alone -/

theorem foldl_frame {f : Store → DeviceDeliveryTarget → Store}
    (hf : ∀ s t, (f s t).messages = s.messages ∧ (f s t).syncCursors = s.syncCursors)
    (ts : List DeviceDeliveryTarget) (s : Store) :
    (ts.foldl f s).messages = s.messages ∧ (ts.foldl f s).syncCursors = s.syncCursors := by
  induction ts generalizing s with
  | nil => exact ⟨rfl, rfl⟩
  | cons t ts ih =>
    rw [List.foldl_cons, (ih _).1, (ih _).2]
    exact hf s t

theorem fanOut_frame (s : Store) (a : Attempt) (bucket : MessageBucket) (sequence : Nat) :
    (s.fanOut a bucket sequence).messages = s.messages ∧
      (s.fanOut a bucket sequence).syncCursors = s.syncCursors := by
  unfold fanOut
  refine ⟨(foldl_frame ?_ _ _).1.trans (foldl_frame ?_ _ _).1,
    (foldl_frame ?_ _ _).2.trans (foldl_frame ?_ _ _).2⟩
  all_goals exact fun _ _ => ⟨rfl, rfl⟩

/-! ## Gapless buckets -/

/-- Every bucket is gapless: sequences `1` to the highest, each once, and a cached counter at the
highest. -/
structure Gapless (conv : ConversationId) (s : Store) (c : Counters) : Prop where
  distinct : ∀ bucket, s.DistinctSequences conv bucket
  dense : ∀ bucket n, n ∈ (s.partition conv bucket).map (·.messageSequence) ↔
    1 ≤ n ∧ n ≤ s.getLastSequence conv bucket
  counter : ∀ bucket n, c (conv, bucket) = some n → n = s.getLastSequence conv bucket

variable {s s' : Store} {c c' : Counters} {m : MessageEntity} {now : TimePoint}
  {ceiling since : Nat}

variable {conv : ConversationId} {bucket : MessageBucket}

theorem Gapless.load_eq (h : Gapless conv s c) (bucket : MessageBucket) :
    c.load s conv bucket = s.getLastSequence conv bucket := by
  unfold Counters.load
  cases hc : c (conv, bucket) with
  | none => rfl
  | some n => exact h.counter bucket n hc

theorem Gapless.with_counters (h : Gapless conv s c)
    (hc : ∀ bucket n, c' (conv, bucket) = some n → n = s.getLastSequence conv bucket) :
    Gapless conv s c' :=
  ⟨h.distinct, h.dense, hc⟩

theorem getLastSequence_of_empty
    (h : s.partition conv bucket = []) : s.getLastSequence conv bucket = 0 := by
  simp [getLastSequence, h]

theorem partition_congr (h : s'.messages = s.messages) (conv : ConversationId)
    (bucket : MessageBucket) : s'.partition conv bucket = s.partition conv bucket := by
  simp [partition, h]

theorem Gapless.congr
    (h : Gapless conv s c) (hs : ∀ bucket, s'.partition conv bucket = s.partition conv bucket)
    (hc : ∀ bucket, c' (conv, bucket) = c (conv, bucket)) : Gapless conv s' c' := by
  have hlast : ∀ bucket, s'.getLastSequence conv bucket = s.getLastSequence conv bucket := by
    intro bucket
    simp [getLastSequence, hs]
  refine ⟨fun bucket => ?_, fun bucket n => ?_, fun bucket n hn => ?_⟩
  · simpa only [Store.DistinctSequences, hs] using h.distinct bucket
  · simpa only [hs, hlast] using h.dense bucket n
  rw [hlast]
  exact h.counter bucket n (hc bucket ▸ hn)

theorem partition_saveMessage_self (h : m.messageSequence ∉
      (s.partition m.conversationId m.messageBucket).map (·.messageSequence)) :
    (s.saveMessage m).partition m.conversationId m.messageBucket =
      m :: s.partition m.conversationId m.messageBucket := by
  have hkeep : s.messages.filter (fun x => x.conversationId = m.conversationId ∧
      x.messageBucket = m.messageBucket ∧ x.key ≠ m.key) =
      s.partition m.conversationId m.messageBucket := by
    refine List.filter_congr fun x hx => ?_
    have hne : x.conversationId = m.conversationId → x.messageBucket = m.messageBucket →
        x.key ≠ m.key := by
      intro hconv hbucket hkey
      refine h (List.mem_map.mpr ⟨x, List.mem_filter.mpr ⟨hx, by simp [hconv, hbucket]⟩, ?_⟩)
      exact (Prod.mk.inj (Prod.mk.inj hkey).2).1
    rw [decide_eq_decide]
    constructor
    · rintro ⟨h₁, h₂, -⟩
      exact ⟨h₁, h₂⟩
    rintro ⟨h₁, h₂⟩
    exact ⟨h₁, h₂, hne h₁ h₂⟩
  rw [partition, saveMessage, Table.upsert, List.filter_cons_of_pos (by simp),
    List.filter_filter, ← hkeep]
  congr 1
  refine List.filter_congr fun x _ => ?_
  simp [Bool.and_assoc]

theorem partition_saveMessage_of_ne (h : ¬ (m.conversationId = conv ∧ m.messageBucket = bucket)) :
    (s.saveMessage m).partition conv bucket = s.partition conv bucket := by
  rw [partition, saveMessage, Table.upsert, List.filter_cons_of_neg (by simpa using h),
    List.filter_filter]
  refine List.filter_congr fun x _ => ?_
  have hne : x.conversationId = conv ∧ x.messageBucket = bucket → x.key ≠ m.key := by
    rintro ⟨rfl, rfl⟩ hkey
    obtain ⟨h₁, h₂⟩ := Prod.mk.inj (Prod.mk.inj hkey).1
    exact h ⟨h₁.symm, h₂.symm⟩
  by_cases hx : x.conversationId = conv ∧ x.messageBucket = bucket
  · simp [hx, hne hx]
  · simp [hx]

/-- A complete submission to the conversation keeps its buckets gapless, and its row is the new
highest of its bucket. -/
theorem Gapless.saveMessage (h : Gapless conv s c) (hconv : m.conversationId = conv)
    (hseq : m.messageSequence = s.getLastSequence conv m.messageBucket + 1) :
    (s.saveMessage m).partition conv m.messageBucket = m :: s.partition conv m.messageBucket ∧
      (s.saveMessage m).getLastSequence conv m.messageBucket = m.messageSequence ∧
      Gapless conv (s.saveMessage m)
        (update c (conv, m.messageBucket) (some m.messageSequence)) := by
  subst hconv
  have hnew : m.messageSequence ∉
      (s.partition m.conversationId m.messageBucket).map (·.messageSequence) := by
    rw [h.dense]
    omega
  have hself := partition_saveMessage_self hnew
  have hlast : (s.saveMessage m).getLastSequence m.conversationId m.messageBucket =
      m.messageSequence := by
    have hmax : (s.saveMessage m).getLastSequence m.conversationId m.messageBucket =
        max m.messageSequence (s.getLastSequence m.conversationId m.messageBucket) := by
      rw [getLastSequence, hself]
      rfl
    omega
  have hother : ∀ bucket, bucket ≠ m.messageBucket →
      (s.saveMessage m).partition m.conversationId bucket = s.partition m.conversationId bucket :=
    fun bucket hne => partition_saveMessage_of_ne fun hand => hne hand.2.symm
  refine ⟨hself, hlast, fun bucket => ?_, fun bucket n => ?_, fun bucket n hn => ?_⟩
  · by_cases hb : bucket = m.messageBucket
    · subst hb
      rw [Store.DistinctSequences, hself, List.map_cons, List.nodup_cons]
      exact ⟨hnew, h.distinct _⟩
    · simpa only [Store.DistinctSequences, hother bucket hb] using h.distinct bucket
  · by_cases hb : bucket = m.messageBucket
    · subst hb
      rw [hlast, hself, List.map_cons, List.mem_cons, h.dense]
      omega
    · simpa only [getLastSequence, hother bucket hb] using h.dense bucket n
  by_cases hb : bucket = m.messageBucket
  · subst hb
    rw [update_self] at hn
    rw [hlast]
    exact (Option.some.inj hn).symm
  · rw [update_of_ne (by simpa using hb)] at hn
    simpa only [getLastSequence, hother bucket hb] using h.counter bucket n hn

/-! ## The ceiling of a conversation that lives in one month -/

theorem MessageBucket.previousBucket_ne {b p : MessageBucket} (h : b.previousBucket = some p) :
    p ≠ b := by
  rintro rfl
  have hm := p.month_mem
  have hy := p.year_mem
  unfold previousBucket at h
  split at h <;> obtain ⟨h₁, h₂⟩ := fromYearMonth_eq_some.mp h <;> omega

def MessageBucket.Visible (bucket : MessageBucket) (now : TimePoint) : Prop :=
  ∃ current previous, fromTimePoint now = some current ∧
    current.previousBucket = some previous ∧ (bucket = current ∨ bucket = previous)

section
variable (h : Gapless conv s c)

include h

/-- Where the buckets are gapless, the ceiling is the highest sequence of the current month, or of
the month before when the current one is empty. -/
theorem Gapless.ceilingFrom_eq (current : MessageBucket) :
    s.ceilingFrom (c.load s conv current) conv current = if s.getLastSequence conv current = 0 then
        current.previousBucket.map fun previous => s.getLastSequence conv previous
      else some (s.getLastSequence conv current) := by
  rw [ceilingFrom, h.load_eq]
  split_ifs <;> rfl

theorem Gapless.of_sequenceCeiling
    (hceil : s.sequenceCeiling c conv now = some (ceiling, c')) : Gapless conv s c' := by
  obtain ⟨current, -, -, rfl⟩ := sequenceCeiling_eq_some hceil
  refine h.with_counters fun bucket n hn => ?_
  by_cases hb : bucket = current
  · subst hb
    rw [update_self, h.load_eq] at hn
    exact (Option.some.inj hn).symm
  · rw [update_of_ne (by simpa using hb)] at hn
    exact h.counter bucket n hn

section
variable (helse : ∀ b, b ≠ bucket → s.partition conv b = [])

include helse

theorem Gapless.sequenceCeiling_visible (hv : bucket.Visible now) :
    OneBucket s c conv now bucket ∧
      ∃ c', s.sequenceCeiling c conv now = some (s.getLastSequence conv bucket, c') := by
  obtain ⟨current, previous, hcur, hprev, hcase⟩ := hv
  have hne := previousBucket_ne hprev
  have hceil : s.ceilingFrom (c.load s conv current) conv current =
      some (s.getLastSequence conv bucket) := by
    rw [h.ceilingFrom_eq, hprev, Option.map_some]
    rcases hcase with rfl | rfl
    · have hzero := getLastSequence_of_empty (helse previous hne)
      split_ifs with hlast
      · rw [hzero, hlast]
      · rfl
    · rw [if_pos (getLastSequence_of_empty (helse current hne.symm))]
  refine ⟨⟨current, previous, hcur, hprev, ?_⟩, ?_⟩
  · rcases hcase with rfl | rfl
    · exact .inl ⟨rfl, helse previous hne⟩
    have hempty := helse current hne.symm
    refine .inr ⟨rfl, hempty, ?_⟩
    cases hc : c (conv, current) with
    | none => rfl
    | some n => exact (h.counter current n hc).trans (getLastSequence_of_empty hempty)
  · simp [sequenceCeiling, hcur, Counters.peekSequence, hceil]

theorem Gapless.sequenceCeiling_hidden (hv : ¬ bucket.Visible now)
    (hceil : s.sequenceCeiling c conv now = some (ceiling, c')) :
    ceiling = 0 ∨ ((fromTimePoint now).bind fun current => current.previousBucket) = none := by
  obtain ⟨current, hcur, hfrom, -⟩ := sequenceCeiling_eq_some hceil
  rw [h.ceilingFrom_eq] at hfrom
  rw [hcur, Option.bind_some]
  cases hprev : current.previousBucket with
  | none => exact .inr rfl
  | some previous =>
    have hcurrent : current ≠ bucket := by
      rintro rfl
      exact hv ⟨current, previous, hcur, hprev, .inl rfl⟩
    have hprevious : previous ≠ bucket := by
      rintro rfl
      exact hv ⟨current, previous, hcur, hprev, .inr rfl⟩
    rw [if_pos (getLastSequence_of_empty (helse current hcurrent)), hprev, Option.map_some,
      getLastSequence_of_empty (helse previous hprevious)] at hfrom
    exact .inl (Option.some.inj hfrom).symm

end

end

variable {cmd : SyncDeviceMessagesCommand} {cursor : DeviceSyncCursor}

theorem syncPage_messages_eq_nil {deliveryRepo : Bool} {r : SyncMessagesResult}
    (h : ceiling = 0 ∨ ((fromTimePoint now).bind fun current => current.previousBucket) = none)
    (hr : s.syncPage deliveryRepo cmd conv cursor since ceiling now = some r) :
    r.messages = [] := by
  unfold syncPage at hr
  split at hr
  · cases hr
    rfl
  split at hr
  · cases hr
    rfl
  rename_i hopen
  rcases h with rfl | hnone
  · exact absurd (.inr rfl) hopen
  simp only [Option.bind_eq_bind, Option.bind_eq_some_iff] at hr
  obtain ⟨current, hcur, previous, hprev, -⟩ := hr
  rw [hcur, Option.bind_some, hprev] at hnone
  cases hnone

/-! ## What a device holds -/

/-- The device holds exactly the messages up to its cursor, once and in order, all of one month. -/
structure UpToCursor (device : DeviceId) (conv : ConversationId) (bucket : MessageBucket)
    (w : SyncSystem) : Prop where
  gapless : Gapless conv w.store w.counters
  elsewhere : ∀ b, b ≠ bucket → w.store.partition conv b = []
  ascending : Paging.Ascending (·.messageSequence) w.received
  holds : ∀ m, m ∈ w.received ↔ m ∈ w.store.partition conv bucket ∧
    m.messageSequence ≤ w.store.lastSynced device conv
  within : w.store.lastSynced device conv ≤ w.store.getLastSequence conv bucket
  keyed : ∀ cursor, w.store.getSyncCursor device conv = some cursor →
    cursor.deviceId = device ∧ cursor.conversationId = conv

section
variable {device : DeviceId} {conv : ConversationId} {bucket : MessageBucket} {w w' : SyncSystem}

theorem upToCursor_of_fresh (h : w.Fresh device conv) : UpToCursor device conv bucket w := by
  have hempty : ∀ b, w.store.partition conv b = [] := by
    intro b
    refine List.filter_eq_nil_iff.mpr fun m hm hand => h.messages m hm ?_
    exact (of_decide_eq_true hand).1
  have hlast : ∀ b, w.store.getLastSequence conv b = 0 :=
    fun b => getLastSequence_of_empty (hempty b)
  have hsynced : w.store.lastSynced device conv = 0 := by simp [lastSynced, h.cursor]
  refine ⟨⟨fun b => ?_, fun b n => ?_, fun b n hn => ?_⟩, fun b _ => hempty b, ?_, fun m => ?_, ?_,
    fun cursor hcursor => ?_⟩
  · simp [Store.DistinctSequences, hempty]
  · simp only [hempty, hlast, List.map_nil, List.not_mem_nil, false_iff]
    omega
  · rw [h.counters b] at hn
    cases hn
  · rw [h.received]
    exact List.Pairwise.nil
  · simp [h.received, hempty]
  · rw [hsynced, hlast]
  rw [h.cursor] at hcursor
  cases hcursor

theorem UpToCursor.restart (h : UpToCursor device conv bucket w) :
    UpToCursor device conv bucket { w with counters := fun _ => none } :=
  { h with gapless := h.gapless.with_counters fun _ _ hn => by cases hn }

variable {a : Attempt}

theorem send_eq_some (h : w.send a = some w') : ∃ b n, fromTimePoint a.acceptedAt = some b ∧
      n = w.counters.load w.store a.cmd.conversationId b + 1 ∧
      w'.store.messages = (w.store.saveMessage (a.messageEntity b n)).messages ∧
      w'.store.syncCursors = w.store.syncCursors ∧
      w'.counters = update w.counters (a.cmd.conversationId, b) (some n) ∧
      w'.received = w.received := by
  obtain ⟨b, hb, rfl⟩ := Option.map_eq_some_iff.mp h
  exact ⟨b, _, hb, rfl, (fanOut_frame _ _ _ _).1, (fanOut_frame _ _ _ _).2, rfl, rfl⟩

theorem UpToCursor.send_other (h : UpToCursor device conv bucket w)
    (ha : a.cmd.conversationId ≠ conv) (hsend : w.send a = some w') :
    UpToCursor device conv bucket w' := by
  obtain ⟨b, n, -, -, hmessages, hcursors, hcounters, hreceived⟩ := send_eq_some hsend
  have hpart : ∀ b', w'.store.partition conv b' = w.store.partition conv b' := by
    intro b'
    rw [partition_congr hmessages]
    exact partition_saveMessage_of_ne fun hand => ha hand.1
  have hcount : ∀ b', w'.counters (conv, b') = w.counters (conv, b') := by
    intro b'
    rw [hcounters, update_of_ne]
    intro heq
    exact ha (Prod.mk.inj heq).1.symm
  have hlast : w'.store.getLastSequence conv bucket = w.store.getLastSequence conv bucket := by
    simp [getLastSequence, hpart]
  refine ⟨h.gapless.congr hpart hcount, fun b' hb' => (hpart b').trans (h.elsewhere b' hb'), ?_,
    fun m => ?_, ?_, fun cursor hcursor => ?_⟩
  · rw [hreceived]
    exact h.ascending
  · rw [hreceived, hpart, lastSynced_congr hcursors]
    exact h.holds m
  · rw [hlast, lastSynced_congr hcursors]
    exact h.within
  refine h.keyed cursor ?_
  rwa [getSyncCursor, ← hcursors]

theorem UpToCursor.send_own (h : UpToCursor device conv bucket w) (ha : a.cmd.conversationId = conv)
    (hmonth : fromTimePoint a.acceptedAt = some bucket)
    (hsend : w.send a = some w') : UpToCursor device conv bucket w' := by
  obtain ⟨b, n, hb, hn, hmessages, hcursors, hcounters, hreceived⟩ := send_eq_some hsend
  obtain rfl : bucket = b := Option.some.inj (hmonth.symm.trans hb)
  rw [ha] at hn hcounters
  rw [h.gapless.load_eq] at hn
  obtain ⟨hself, hlast, hgapless⟩ :=
    h.gapless.saveMessage (m := a.messageEntity bucket n) ha hn
  have hpart : ∀ b', w'.store.partition conv b' =
      (w.store.saveMessage (a.messageEntity bucket n)).partition conv b' :=
    fun b' => partition_congr hmessages conv b'
  have hwithin := h.within
  have hlast' : w'.store.getLastSequence conv bucket = n := by
    rw [getLastSequence, hpart]
    exact hlast
  refine ⟨hgapless.congr hpart fun b' => by rw [hcounters]; rfl, fun b' hb' => ?_, ?_,
    fun m => ?_, ?_, fun cursor hcursor => ?_⟩
  · rw [hpart, partition_saveMessage_of_ne fun hand => hb' hand.2.symm]
    exact h.elsewhere b' hb'
  · rw [hreceived]
    exact h.ascending
  · have hrow : (w.store.saveMessage (a.messageEntity bucket n)).partition conv bucket =
        a.messageEntity bucket n :: w.store.partition conv bucket := hself
    rw [hreceived, hpart, lastSynced_congr hcursors, hrow, List.mem_cons, h.holds m]
    constructor
    · rintro ⟨hm, hle⟩
      exact ⟨.inr hm, hle⟩
    rintro ⟨rfl | hm, hle⟩
    · have hbeyond : n ≤ w.store.lastSynced device conv := hle
      omega
    · exact ⟨hm, hle⟩
  · rw [hlast', lastSynced_congr hcursors]
    omega
  refine h.keyed cursor ?_
  rwa [getSyncCursor, ← hcursors]

/-! ### A sync -/

theorem UpToCursor.getCursor_keyed (h : UpToCursor device conv bucket w) (now : TimePoint) :
    (w.store.getCursor device conv now).deviceId = device ∧
      (w.store.getCursor device conv now).conversationId = conv := by
  unfold getCursor
  split_ifs
  · exact ⟨rfl, rfl⟩
  cases hc : w.store.getSyncCursor device conv with
  | none => exact ⟨rfl, rfl⟩
  | some cursor => exact h.keyed cursor hc

theorem updateCursor_of_le {n : Nat} (hdev : device ≠ "") (hnil : conv.isNil = false)
    (hceil : s.sequenceCeiling c conv now = some (ceiling, c')) (hn : n ≤ ceiling)
    (hlow : s.lastSynced device conv ≤ n) :
    s.updateCursor c device conv n 0 now =
      some (⟨.success, some ((s.getCursor device conv now).advanceTo n now), ""⟩,
        s.upsertSyncCursor ((s.getCursor device conv now).advanceTo n now), c') := by
  have hadvance : (s.getCursor device conv now).canAdvanceTo n = true := by
    rw [DeviceSyncCursor.canAdvanceTo, getCursor_lastSyncedSequence s hdev hnil]
    exact decide_eq_true hlow
  simp [updateCursor, hdev, hnil, hceil, Nat.not_lt.mpr hn, hadvance]

theorem lastSynced_upsertSyncCursor (s : Store) (cursor : DeviceSyncCursor)
    (hkey : cursor.deviceId = device ∧ cursor.conversationId = conv) :
    (s.upsertSyncCursor cursor).lastSynced device conv = cursor.lastSyncedSequence := by
  obtain ⟨rfl, rfl⟩ := hkey
  simp [lastSynced, getSyncCursor, upsertSyncCursor]

section
variable (h : UpToCursor device conv bucket w)
include h

theorem UpToCursor.page_ne_nil (batch : Nat) (hb : 1 ≤ batch)
    (hlt : w.store.lastSynced device conv < w.store.getLastSequence conv bucket) :
    Paging.page (·.messageSequence) (w.store.rows conv bucket) batch
      (w.store.lastSynced device conv) ≠ [] := by
  obtain ⟨m, hm, hseq⟩ := List.mem_map.mp
    ((h.gapless.dense bucket (w.store.lastSynced device conv + 1)).mpr ⟨by omega, by omega⟩)
  refine Paging.page_ne_nil hb (List.ne_nil_of_mem (a := m) (Paging.mem_window.mpr ?_))
  exact ⟨mem_rows.mpr hm, by omega, by omega⟩

open Paging

/-- **The device takes a page and advances its cursor**: it holds what lies up to the new
position. -/
theorem UpToCursor.advance (now : TimePoint) {n batch : Nat} (hc : Gapless conv w.store c)
    (hn : n = Paging.cursor (·.messageSequence) (w.store.rows conv bucket) batch (w.store.lastSynced device conv))
    (hle : n ≤ w.store.getLastSequence conv bucket) :
    UpToCursor device conv bucket
      { store := w.store.upsertSyncCursor ((w.store.getCursor device conv now).advanceTo n now)
        counters := c
        received := w.received ++ page (·.messageSequence) (w.store.rows conv bucket) batch
          (w.store.lastSynced device conv) } := by
  have hrows := rows_ascending (h.gapless.distinct bucket)
  have hkey := h.getCursor_keyed now
  have hsynced := lastSynced_upsertSyncCursor w.store
    ((w.store.getCursor device conv now).advanceTo n now) hkey
  have hmono : w.store.lastSynced device conv ≤ n := hn ▸ cursor_bounds.1
  have hpage : ∀ m, m ∈ page (·.messageSequence) (w.store.rows conv bucket) batch
      (w.store.lastSynced device conv) ↔ m ∈ w.store.partition conv bucket ∧
        w.store.lastSynced device conv < m.messageSequence ∧ m.messageSequence ≤ n := by
    intro m
    rw [mem_page hrows, mem_rows, ← hn]
  refine ⟨hc.congr (fun b => rfl) (fun b => rfl), h.elsewhere, ?_, fun m => ?_, ?_,
    fun cursor hcursor => ?_⟩
  · refine List.pairwise_append.mpr ⟨h.ascending, page_ascending hrows, ?_⟩
    intro m hm m' hm'
    exact Nat.lt_of_le_of_lt ((h.holds m).mp hm).2 ((hpage m').mp hm').2.1
  · rw [List.mem_append, h.holds, hpage, hsynced]
    change _ ↔ m ∈ w.store.partition conv bucket ∧ m.messageSequence ≤ n
    constructor
    · rintro (⟨hm, hup⟩ | ⟨hm, -, hup⟩)
      · exact ⟨hm, by omega⟩
      · exact ⟨hm, hup⟩
    rintro ⟨hm, hup⟩
    rcases Nat.lt_or_ge (w.store.lastSynced device conv) m.messageSequence with hnew | hold
    · exact .inr ⟨hm, hnew, hup⟩
    · exact .inl ⟨hm, hold⟩
  · rw [hsynced]
    exact hle
  rw [getSyncCursor, upsertSyncCursor] at hcursor
  have hself : (((w.store.getCursor device conv now).advanceTo n now).deviceId,
      ((w.store.getCursor device conv now).advanceTo n now).conversationId) = (device, conv) :=
    Prod.ext hkey.1 hkey.2
  simp only [hself, update_self] at hcursor
  cases hcursor
  exact hkey

/-- A sync while the month is visible: it returns, keeps the invariant, and makes progress
whenever something is left. -/
theorem UpToCursor.sync_visible (hdev : device ≠ "") (hnil : conv.isNil = false)
    (hv : bucket.Visible now) (maxMessages : Nat) :
    ∃ w', w.sync device conv maxMessages now = some w' ∧ UpToCursor device conv bucket w' ∧
      w'.store.messages = w.store.messages ∧
      min (w.store.lastSynced device conv + 1) (w.store.getLastSequence conv bucket) ≤
        w'.store.lastSynced device conv := by
  obtain ⟨hone, c', hceil⟩ := h.gapless.sequenceCeiling_visible h.elsewhere hv
  have hc' := h.gapless.of_sequenceCeiling hceil
  obtain ⟨r, hr, hstop, hgo⟩ := syncMessages_oneBucket true ⟨device, some conv, 0, maxMessages⟩
    hdev rfl hnil hone (h.gapless.distinct bucket) hceil
    (getCursor_lastSyncedSequence w.store hdev hnil now)
  by_cases hleft : w.store.lastSynced device conv < w.store.getLastSequence conv bucket
  · obtain ⟨-, hmessages, -, -⟩ := hgo hleft
    have hne := h.page_ne_nil _ (clampSyncBatchSize_pos maxMessages) hleft
    obtain ⟨l, z, hl, hz, hmem, hlow, -⟩ := exists_cursor hne
    have hup : z.messageSequence ≤ w.store.getLastSequence conv bucket :=
      ((h.gapless.dense bucket z.messageSequence).mp (List.mem_map_of_mem (mem_rows.mp hmem))).2
    refine ⟨_, ?_, h.advance now hc' hz.symm hup, rfl, ?_⟩
    · have hlast : r.messages.getLast? = some z := by
        rw [hmessages, hl]
        simp
      have hadvance := updateCursor_of_le hdev hnil (sequenceCeiling_again hceil) hup
        (Nat.le_of_lt hlow)
      simp only [SyncSystem.sync, hr, Option.bind_some, hlast, hadvance, Option.map_some]
      rw [hmessages]
    · have hsynced := lastSynced_upsertSyncCursor w.store
        ((w.store.getCursor device conv now).advanceTo z.messageSequence now)
        (h.getCursor_keyed now)
      rw [hsynced]
      exact Nat.le_trans (Nat.min_le_left _ _) hlow
  refine ⟨{ w with counters := c' }, ?_, { h with gapless := hc' }, rfl,
    Nat.le_trans (Nat.min_le_right _ _) (Nat.not_lt.mp hleft)⟩
  simp only [SyncSystem.sync, hr, Option.bind_some, (hstop (Nat.not_lt.mp hleft)).1,
    List.getLast?_nil]

/-- A sync while the month is not visible brings nothing. -/
theorem UpToCursor.sync_hidden (hdev : device ≠ "") (hnil : conv.isNil = false)
    (hv : ¬ bucket.Visible now) {maxMessages : Nat}
    (hsync : w.sync device conv maxMessages now = some w') : UpToCursor device conv bucket w' := by
  obtain ⟨⟨r, c'⟩, hr, hrest⟩ := Option.bind_eq_some_iff.mp hsync
  simp only [syncMessages, hdev, hnil, if_false, Bool.false_eq_true] at hr
  obtain ⟨⟨ceiling, c₁⟩, hceil, hpage⟩ := Option.bind_eq_some_iff.mp hr
  obtain ⟨r', hr', heq⟩ := Option.map_eq_some_iff.mp hpage
  cases heq
  have hnone := syncPage_messages_eq_nil (h.gapless.sequenceCeiling_hidden h.elsewhere hv hceil) hr'
  simp only [hnone, List.getLast?_nil] at hrest
  cases hrest
  exact { h with gapless := h.gapless.of_sequenceCeiling hceil }

end

/-- The conversation stays in one month: its messages are all accepted there. Syncs and restarts come at
any time. -/
def SyncEvent.KeepsMonth (conv : ConversationId) (bucket : MessageBucket) : SyncEvent → Prop
  | .send a => a.cmd.conversationId = conv → fromTimePoint a.acceptedAt = some bucket
  | .restart => True
  | .sync _ _ => True

theorem UpToCursor.step (hdev : device ≠ "") (hnil : conv.isNil = false) (w : SyncSystem)
    (e : SyncEvent) (w' : SyncSystem) (he : e.KeepsMonth conv bucket)
    (h : UpToCursor device conv bucket w) (hstep : w.step device conv e = some w') :
    UpToCursor device conv bucket w' := by
  cases e with
  | send a =>
    by_cases ha : a.cmd.conversationId = conv
    · exact h.send_own ha (he ha) hstep
    · exact h.send_other ha hstep
  | restart =>
    cases hstep
    exact h.restart
  | sync maxMessages now =>
    by_cases hv : bucket.Visible now
    · obtain ⟨w₁, hw₁, hkeep, -⟩ := h.sync_visible hdev hnil hv maxMessages
      obtain rfl : w₁ = w' := Option.some.inj (hw₁.symm.trans hstep)
      exact hkeep
    · exact h.sync_hidden hdev hnil hv hstep

/-- Enough syncs bring the cursor to the end of the month. -/
theorem UpToCursor.run_syncs (hdev : device ≠ "") (hnil : conv.isNil = false)
    (h : UpToCursor device conv bucket w) {syncs : List (Nat × TimePoint)}
    (hv : ∀ p ∈ syncs, bucket.Visible p.2) (hlen : w.store.getLastSequence conv bucket ≤
      w.store.lastSynced device conv + syncs.length) :
    ∃ w', run (SyncSystem.step device conv) w
        (syncs.map fun p => SyncEvent.sync p.1 p.2) = some w' ∧
      UpToCursor device conv bucket w' ∧ w'.store.messages = w.store.messages ∧
      w'.store.lastSynced device conv = w'.store.getLastSequence conv bucket := by
  induction syncs generalizing w with
  | nil => exact ⟨w, rfl, h, rfl, Nat.le_antisymm h.within hlen⟩
  | cons p ps ih =>
    obtain ⟨w₁, hw₁, h₁, hmessages, hprogress⟩ :=
      h.sync_visible hdev hnil (hv p List.mem_cons_self) p.1
    have hlast : w₁.store.getLastSequence conv bucket = w.store.getLastSequence conv bucket := by
      simp [getLastSequence, partition_congr hmessages]
    have hwithin := h₁.within
    rw [List.length_cons] at hlen
    have hlen₁ : w₁.store.getLastSequence conv bucket ≤
        w₁.store.lastSynced device conv + ps.length := by
      omega
    obtain ⟨w', hrun, hkeep, hsame, hdone⟩ :=
      ih h₁ (fun q hq => hv q (List.mem_cons_of_mem _ hq)) hlen₁
    refine ⟨w', ?_, hkeep, hsame.trans hmessages, hdone⟩
    simp only [List.map_cons, run, SyncSystem.step, hw₁, Option.bind_some]
    exact hrun

theorem UpToCursor.receivedOnce (h : UpToCursor device conv bucket w)
    (hdone : w.store.lastSynced device conv = w.store.getLastSequence conv bucket) :
    w.ReceivedOnce device conv := by
  intro m hm hconv _
  have hpart : m ∈ w.store.partition conv m.messageBucket := by
    simp [partition, hm, hconv]
  have hbucket : m.messageBucket = bucket := by
    by_contra hne
    rw [h.elsewhere _ hne] at hpart
    cases hpart
  rw [hbucket] at hpart
  have hle := ((h.gapless.dense bucket m.messageSequence).mp (List.mem_map_of_mem hpart)).2
  exact List.count_eq_one_of_mem (h.ascending.imp fun hlt heq => by simp [heq] at hlt)
    ((h.holds m).mpr ⟨hpart, by omega⟩)

end

/-- **Within one month a device that syncs from its cursor receives everything exactly once.** The
conversation starts fresh in an arbitrary keyspace, and all its messages are accepted in one month;
syncs, restarts and messages of other conversations come at any time. Nothing is ever received twice, and
as many further syncs as the month has messages, made in that month or the next, bring everything. -/
theorem sync_receives_once_within_month (device : DeviceId) (conv : ConversationId)
    (bucket : MessageBucket) (hdev : device ≠ "") (hnil : conv.isNil = false) (w₀ w : SyncSystem)
    (hfresh : w₀.Fresh device conv) (events : List SyncEvent)
    (hmonth : ∀ e ∈ events, e.KeepsMonth conv bucket)
    (hrun : run (SyncSystem.step device conv) w₀ events = some w)
    (syncs : List (Nat × TimePoint)) (hvisible : ∀ p ∈ syncs, bucket.Visible p.2)
    (henough : w.store.getLastSequence conv bucket ≤ syncs.length) :
    w.received.Nodup ∧ ∃ w', run (SyncSystem.step device conv) w
          (syncs.map fun p => SyncEvent.sync p.1 p.2) = some w' ∧
        w'.store.messages = w.store.messages ∧ w'.ReceivedOnce device conv := by
  have h : UpToCursor device conv bucket w := run_invariant
    (fun v e v' he hv hstep => UpToCursor.step hdev hnil v e v' he hv hstep)
    (upToCursor_of_fresh hfresh) (along_of_forall hmonth w₀) hrun
  obtain ⟨w', hrun', hkeep, hsame, hdone⟩ := h.run_syncs hdev hnil hvisible (by omega)
  exact ⟨h.ascending.imp fun hlt heq => by simp [heq] at hlt, w', hrun', hsame,
    hkeep.receivedOnce hdone⟩

namespace Sample

def quiet : SyncSystem where
  store := empty
  counters := fun _ => none
  received := []

def posted (id : Nat) (acceptedAt : TimePoint) : Attempt where
  cmd := command
  fingerprint := ""
  messageId := ⟨id⟩
  acceptedAt := acceptedAt

theorem quiet_fresh : quiet.Fresh "laptop" ⟨7⟩ :=
  ⟨nofun, fun _ => rfl, rfl, rfl⟩

end Sample

/-- Two messages in January, a restart in between, and two syncs one message at a time. -/
theorem sync_receives_once_january : ∃ w, run (SyncSystem.step "laptop" ⟨7⟩) quiet
        [.send (posted 1 january), .restart, .send (posted 2 january)] = some w ∧
      w.store.getLastSequence ⟨7⟩ januaryBucket = 2 ∧
      ∃ w', run (SyncSystem.step "laptop" ⟨7⟩) w [.sync 1 january, .sync 1 january] = some w' ∧
        w'.store.messages = w.store.messages ∧ w'.ReceivedOnce "laptop" ⟨7⟩ := by
  refine exists_of_any _ (by decide) fun w hw hlast => ⟨hlast, ?_⟩
  have hjanuary : fromTimePoint january = some januaryBucket := by decide
  have hmonth : ∀ e ∈ [SyncEvent.send (posted 1 january), .restart,
      .send (posted 2 january)], e.KeepsMonth ⟨7⟩ januaryBucket := by
    simp [SyncEvent.KeepsMonth, posted, hjanuary]
  have hvisible : januaryBucket.Visible january :=
    ⟨januaryBucket, ⟨2025, 12, by decide, by decide⟩, by decide, by decide, .inl rfl⟩
  exact (sync_receives_once_within_month "laptop" ⟨7⟩ januaryBucket (by decide)
    (by decide) quiet w quiet_fresh _ hmonth hw
    [(1, january), (1, january)] (by simpa using hvisible) (by rw [hlast]; decide)).2

/-! ## A rollover hides messages for good -/

def SyncSystem.Missed (device : DeviceId) (conv : ConversationId) (m : MessageEntity)
    (w : SyncSystem) : Prop :=
  m ∉ w.received ∧ m.messageSequence ≤ w.store.lastSynced device conv

theorem lt_of_mem_listMessagesBySequenceRange {a b limit : Nat}
    (h : m ∈ s.listMessagesBySequenceRange conv bucket a b limit) : a ≤ m.messageSequence := by
  have hmem := List.mem_of_mem_take h
  rw [List.mem_insertionSort, List.mem_filter] at hmem
  exact (of_decide_eq_true hmem.2).1

theorem lt_of_mem_fetchWindow {previous current : MessageBucket} {batch : Nat}
    (h : m ∈ s.fetchWindow conv previous current since batch) : since < m.messageSequence := by
  have hprev : ∀ x ∈ s.listMessagesBySequenceRange conv previous (since + 1) (since + batch + 1)
      (batch + 1), since < x.messageSequence :=
    fun x hx => lt_of_mem_listMessagesBySequenceRange hx
  unfold fetchWindow at h
  simp only at h
  split at h
  · rcases List.mem_append.mp h with h | h
    · exact hprev m h
    have hfrom := lt_of_mem_listMessagesBySequenceRange h
    split at hfrom
    · exact hfrom
    rename_i last hlast
    have hlow := hprev last (List.mem_of_getLast? hlast)
    omega
  · exact hprev m h

theorem lt_of_mem_syncPage {deliveryRepo : Bool}
    {r : SyncMessagesResult} (h : s.syncPage deliveryRepo cmd conv cursor since ceiling now = some r) :
    ∀ m ∈ r.messages, since < m.messageSequence := by
  unfold syncPage at h
  split at h
  · cases h
    exact nofun
  split at h
  · cases h
    exact nofun
  simp only [Option.bind_eq_bind, Option.bind_eq_some_iff] at h
  obtain ⟨current, -, previous, -, h⟩ := h
  cases h
  exact fun m hm => lt_of_mem_fetchWindow (mem_pageOf since ceiling hm)

theorem lastSynced_le_of_updateCursor {device : DeviceId} {n : Nat} {version : Int}
    {o : SyncCursorUpdateOutcome}
    (hdev : device ≠ "") (hnil : conv.isNil = false)
    (h : s.updateCursor c device conv n version now = some (o, s', c')) :
    s.lastSynced device conv ≤ s'.lastSynced device conv := by
  simp only [updateCursor, hdev, hnil, if_false, Bool.false_eq_true, Option.bind_eq_bind,
    Option.bind_eq_some_iff] at h
  obtain ⟨⟨ceiling, c₁⟩, -, h⟩ := h
  split at h
  · cases h
    exact le_rfl
  split at h
  · cases h
    exact le_rfl
  rename_i hadvance
  split at h
  · cases h
    exact le_rfl
  cases h
  have hlow : s.lastSynced device conv ≤ n := by
    rw [← getCursor_lastSyncedSequence s hdev hnil now]
    simpa [DeviceSyncCursor.canAdvanceTo] using hadvance
  by_cases hkey : (device, conv) = (((s.getCursor device conv now).advanceTo n now).deviceId,
      ((s.getCursor device conv now).advanceTo n now).conversationId)
  · rw [lastSynced_upsertSyncCursor _ _ ⟨(Prod.mk.inj hkey).1.symm, (Prod.mk.inj hkey).2.symm⟩]
    exact hlow
  · simp [lastSynced, getSyncCursor, upsertSyncCursor, update_of_ne hkey]

/-- **What the cursor has passed is never delivered**, whatever happens next. -/
theorem SyncSystem.Missed.step {device : DeviceId}
    (hdev : device ≠ "") (hnil : conv.isNil = false) (w : SyncSystem) (e : SyncEvent)
    (w' : SyncSystem) (h : w.Missed device conv m) (hstep : w.step device conv e = some w') :
    w'.Missed device conv m := by
  cases e with
  | send a =>
    obtain ⟨b, n, -, -, -, hcursors, -, hreceived⟩ := send_eq_some hstep
    refine ⟨hreceived ▸ h.1, ?_⟩
    rw [lastSynced_congr hcursors]
    exact h.2
  | restart =>
    cases hstep
    exact h
  | sync maxMessages now =>
    obtain ⟨⟨r, c'⟩, hr, hrest⟩ := Option.bind_eq_some_iff.mp hstep
    simp only [syncMessages, hdev, hnil, if_false, Bool.false_eq_true] at hr
    obtain ⟨⟨ceiling, c₁⟩, -, hpage⟩ := Option.bind_eq_some_iff.mp hr
    obtain ⟨r', hr', heq⟩ := Option.map_eq_some_iff.mp hpage
    cases heq
    have hlow := lt_of_mem_syncPage hr'
    simp only [effectiveSince, Nat.lt_irrefl, if_false,
      getCursor_lastSyncedSequence w.store hdev hnil] at hlow
    simp only at hrest
    split at hrest
    · cases hrest
      exact h
    obtain ⟨⟨o, s', c₂⟩, hupdate, rfl⟩ := Option.map_eq_some_iff.mp hrest
    refine ⟨?_, Nat.le_trans h.2 (lastSynced_le_of_updateCursor hdev hnil hupdate)⟩
    rw [List.mem_append, not_or]
    refine ⟨h.1, fun hm => ?_⟩
    exact absurd h.2 (Nat.not_le.mpr (hlow m hm))

def Sample.february : TimePoint := 1769904000000

theorem Sample.year_mem : 1970 ≤ 2026 ∧ 2026 ≤ 9999 := by decide

def Sample.februaryRow : MessageEntity :=
  (posted 2 february).messageEntity ⟨2026, 2, year_mem, by decide⟩ 1

/-- **A message of January is sent and synced, a message of February is sent: it gets sequence `1`
again, the cursor already stands there, and whatever `laptop` does it never receives it.** -/
theorem rollover_hides_message : ∃ w, run (SyncSystem.step "laptop" ⟨7⟩) quiet
        [.send (posted 1 january), .sync 50 january, .send (posted 2 february)] = some w ∧
      februaryRow ∈ w.store.messages ∧ februaryRow.conversationId = ⟨7⟩ ∧
      w.store.addressed "laptop" februaryRow = true ∧
      ∀ more w', run (SyncSystem.step "laptop" ⟨7⟩) w more = some w' →
        w'.received.count februaryRow = 0 := by
  refine exists_of_any (fun w => februaryRow ∈ w.store.messages ∧
    w.store.addressed "laptop" februaryRow = true ∧ februaryRow ∉ w.received ∧
    februaryRow.messageSequence ≤ w.store.lastSynced "laptop" ⟨7⟩) (by decide)
    fun w _ ⟨hmem, haddressed, hmissed⟩ => ⟨hmem, rfl, haddressed, fun more w' hmore => ?_⟩
  have hstays : w'.Missed "laptop" ⟨7⟩ februaryRow := run_invariant
    (fun v e v' _ hv hstep => SyncSystem.Missed.step (by decide) (by decide) v e v' hv hstep)
    hmissed (along_of_forall (A := fun _ => True) (fun _ _ => trivial) w) hmore
  exact List.count_eq_zero.mpr hstays.1

end SecureCloud.Messaging
