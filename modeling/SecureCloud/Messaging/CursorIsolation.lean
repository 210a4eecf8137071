import SecureCloud.Messaging.CursorUpdates

/-
# Messaging.CursorIsolation — whose cursors an RPC works on

Four RPCs reach `sync_state_by_device`: `GetSyncCursor`, `UpdateSyncCursor`, and, through `sync_messages`,
`SyncDeviceMessages` and `GetMessages`. Each takes a device id from the request and falls back on the
authenticated one. The two that sync refuse a request that names another device; the two that exist FOR
cursors do not compare at all.

Isolation is non-interference: the cursors of the other devices are the same after the call, and nothing
the call leaves behind depends on them.
-/

namespace SecureCloud.Messaging

open Lib Function Store Sample UpdateSyncCursorCommand Option

/-! ## The RPCs -/

/-- A parsed request to one of the four RPCs: a conversation id that is no UUID is refused first, an empty
one is the nil id (`GetSyncCursor` only). -/
inductive CursorRpc
  | getSyncCursor (device : DeviceId) (conv : ConversationId)
  | updateSyncCursor (device : DeviceId) (conv : ConversationId) (lastDeliveredSequence : Int)
  | read (path : ReadPath) (device : DeviceId) (conv : ConversationId) (sinceSequence : Int)
      (maxMessages : Nat)

/-- What a call depends on besides the tables: the clock, the authorization and resolution verdicts,
whether the worker pool takes the task and is done in time. -/
structure CursorCallInput where
  now : TimePoint
  auth : Option (MessagingErrorCode × String) := none
  deviceActive : Bool := true
  deliveryRepo : Bool := true
  enqueued : Bool := true
  inTime : Bool := true

inductive CursorReply
  | refused (message : String)
  | deadlineExceeded
  | cursor (c : DeviceSyncCursor)
  | updated (outcome : SyncCursorUpdateOutcome)
  | synced (result : SyncMessagesResult)
  | threw
deriving DecidableEq

structure CursorEffect where
  reply : CursorReply
  store : Store
  counters : Counters

/-- The task in the worker pool. Past the deadline it runs to its end all the same. -/
def CursorCallInput.pooled (x : CursorCallInput) (s : Store) (c : Counters) (done : CursorEffect) :
    CursorEffect :=
  if !x.enqueued then ⟨.refused "Sync worker pool capacity exceeded", s, c⟩
  else if !x.inTime then { done with reply := .deadlineExceeded }
  else done

/-- The device of a cursor RPC: the one the request names, else the caller's. NOTHING compares the
two. -/
def cursorDeviceId (callerDevice requestDevice : DeviceId) : DeviceId :=
  if requestDevice ≠ "" then requestDevice else callerDevice

/-- The task of `UpdateSyncCursor`. -/
def Store.cursorUpdated (s : Store) (c : Counters) (cmd : UpdateSyncCursorCommand)
    (now : TimePoint) : CursorEffect :=
  match s.updateCursor c cmd.deviceId cmd.conversationId cmd.newSequence cmd.syncVersion now with
  | none => ⟨.threw, s, c⟩
  | some (outcome, s', c') => ⟨.updated outcome, s', c'⟩

/-- What a read refuses to do for another device. -/
def ReadPath.verb : ReadPath → String
  | syncDeviceMessages => "sync"
  | getMessages => "query"

namespace CursorRpc

/-- A call, by a caller whose authenticated device is `callerDevice`. -/
def perform (callerDevice : DeviceId) (x : CursorCallInput) (s : Store) (c : Counters) :
    CursorRpc → CursorEffect
  | getSyncCursor device conv =>
    let device := cursorDeviceId callerDevice device
    if device = "" then ⟨.refused "Missing device ID", s, c⟩
    else x.pooled s c ⟨.cursor (s.getCursor device conv x.now), s, c⟩
  | updateSyncCursor device conv lastDeliveredSequence =>
    let device := cursorDeviceId callerDevice device
    if device = "" then ⟨.refused "Missing device ID", s, c⟩
    else if lastDeliveredSequence < 0 then ⟨.refused "Sequence must be non-negative", s, c⟩
    else
      x.pooled s c (s.cursorUpdated c ⟨device, conv, lastDeliveredSequence.toNat, 0⟩ x.now)
  | read path device conv sinceSequence maxMessages =>
    match path.deviceId ⟨callerDevice, device, conv, sinceSequence, maxMessages⟩ with
    | none =>
      ⟨.refused s!"Caller device cannot {path.verb} messages on behalf of a different device", s, c⟩
    | some device =>
      if !x.deviceActive then ⟨.refused "Calling device has been revoked or is not active", s, c⟩
      else
        match path.since ⟨callerDevice, device, conv, sinceSequence, maxMessages⟩ with
        | none => ⟨.refused "since_sequence must be non-negative", s, c⟩
        | some since => x.pooled s c <|
          match s.syncMessages c x.deliveryRepo x.auth
              { deviceId := device, conversationId := some conv, sinceSequence := since
                maxMessages := if 0 < maxMessages then maxMessages else defaultSyncBatchSize }
              x.now with
          | none => ⟨.threw, s, c⟩
          | some (r, c') => ⟨.synced r, s, c'⟩

/-- The condition on a request: it names no other device, or comes to nothing anyway (nil
conversation, negative sequence). The reads compare the device themselves. -/
def NamesOwn (callerDevice : DeviceId) : CursorRpc → Prop
  | getSyncCursor device conv => device = "" ∨ device = callerDevice ∨ conv.isNil = true
  | updateSyncCursor device conv n =>
    device = "" ∨ device = callerDevice ∨ conv.isNil = true ∨ n < 0
  | read .. => True

end CursorRpc

/-! ## Isolation -/

def Store.withCursors (s : Store) (cursors : DeviceId × ConversationId → Option DeviceSyncCursor) :
    Store :=
  { s with syncCursors := cursors }

def AgreeOn (device : DeviceId) (f g : DeviceId × ConversationId → Option DeviceSyncCursor) :
    Prop :=
  ∀ conv, f (device, conv) = g (device, conv)

structure CursorEffect.Same (device : DeviceId) (e e' : CursorEffect) : Prop where
  reply : e'.reply = e.reply
  counters : e'.counters = e.counters
  own : AgreeOn device e'.store.syncCursors e.store.syncCursors
  rest : e'.store.withCursors e.store.syncCursors = e.store

/-- Isolation: no cursor of another device changes, and stores that differ only in those cannot be
told apart. -/
structure CursorRpc.Isolated (device : DeviceId) (rpc : CursorRpc) : Prop where
  changes : ∀ x s c, s.CursorsStored → ∀ other conv, other ≠ device →
    (rpc.perform device x s c).store.syncCursors (other, conv) = s.syncCursors (other, conv)
  reads : ∀ x s c cursors, s.CursorsStored → (s.withCursors cursors).CursorsStored →
    AgreeOn device cursors s.syncCursors →
    (rpc.perform device x s c).Same device (rpc.perform device x (s.withCursors cursors) c)

section
variable {device : DeviceId} {s : Store} {c : Counters}
  {cursors : DeviceId × ConversationId → Option DeviceSyncCursor}

theorem getCursor_withCursors (h : AgreeOn device cursors s.syncCursors) (conv : ConversationId)
    (now : TimePoint) : (s.withCursors cursors).getCursor device conv now =
      s.getCursor device conv now := by
  unfold getCursor getSyncCursor
  show (if _ then _ else (cursors (device, conv)).getD _) = _
  rw [h conv]

theorem sequenceCeiling_withCursors (conv : ConversationId) (now : TimePoint) :
    (s.withCursors cursors).sequenceCeiling c conv now = s.sequenceCeiling c conv now := rfl

theorem syncMessages_withCursors {cmd : SyncDeviceMessagesCommand}
    (h : AgreeOn cmd.deviceId cursors s.syncCursors) (deliveryRepo : Bool)
    (auth : Option (MessagingErrorCode × String)) (now : TimePoint) :
    (s.withCursors cursors).syncMessages c deliveryRepo auth cmd now =
      s.syncMessages c deliveryRepo auth cmd now := by
  unfold syncMessages
  simp only [getCursor_withCursors h, sequenceCeiling_withCursors]
  rfl

theorem syncCursors_upsert (cursor : DeviceSyncCursor) (other : DeviceId) (conv : ConversationId)
    (hother : other ≠ cursor.deviceId) :
    (s.upsertSyncCursor cursor).syncCursors (other, conv) = s.syncCursors (other, conv) := by
  apply update_of_ne
  intro hkey
  exact hother (congrArg Prod.fst hkey)

/-! ### `update_cursor`, decision and write apart -/

def Store.cursorWrite (s : Store) (c : Counters) (cmd : UpdateSyncCursorCommand) (now : TimePoint) :
    Option (SyncCursorUpdateOutcome × Option DeviceSyncCursor × Counters) :=
  match cmd.invalid with
  | some o => some (o, none, c)
  | none => (s.sequenceCeiling c cmd.conversationId now).map fun (ceiling, c') =>
    match cmd.beyond ceiling with
    | some o => (o, none, c')
    | none =>
      let cursor := s.getCursor cmd.deviceId cmd.conversationId now
      match cmd.refusal cursor with
      | some o => (o, none, c')
      | none => (.ofWrite (cursor.advanceTo cmd.newSequence now) .ok,
          some (cursor.advanceTo cmd.newSequence now), c')

def Store.written (s : Store) (cursor : Option DeviceSyncCursor) : Store :=
  cursor.elim s s.upsertSyncCursor

variable {cmd : UpdateSyncCursorCommand} {now : TimePoint}

theorem updateCursor_eq_cursorWrite (s : Store) (c : Counters) (cmd : UpdateSyncCursorCommand)
    (now : TimePoint) :
    s.updateCursor c cmd.deviceId cmd.conversationId cmd.newSequence cmd.syncVersion now =
      (s.cursorWrite c cmd now).map fun (o, w, c') => (o, s.written w, c') := by
  rw [SyncCursorManager.updateCursor_eq, cursorWrite]
  cases cmd.invalid with
  | some o => rfl
  | none =>
    dsimp only
    rw [map_map]
    congr 1
    funext ⟨ceiling, c'⟩
    simp only [comp]
    cases cmd.beyond ceiling with
    | some o => rfl
    | none =>
      cases cmd.refusal (s.getCursor cmd.deviceId cmd.conversationId now) <;> rfl

theorem cursorWrite_withCursors (h : AgreeOn cmd.deviceId cursors s.syncCursors) :
    (s.withCursors cursors).cursorWrite c cmd now = s.cursorWrite c cmd now := by
  unfold cursorWrite
  simp only [getCursor_withCursors h, sequenceCeiling_withCursors]

variable {o : SyncCursorUpdateOutcome} {cursor : DeviceSyncCursor} {c' : Counters}

theorem cursorWrite_eq_some (h : s.cursorWrite c cmd now = some (o, some cursor, c')) :
    cmd.invalid = none ∧ cursor =
      (s.getCursor cmd.deviceId cmd.conversationId now).advanceTo cmd.newSequence now := by
  unfold cursorWrite at h
  split at h
  · simp at h
  rename_i hvalid
  obtain ⟨⟨ceiling, c₁⟩, -, h⟩ := map_eq_some_iff.mp h
  dsimp only at h
  split at h
  · simp at h
  split at h
  · simp at h
  obtain ⟨-, hcursor, -⟩ : _ ∧ some _ = some cursor ∧ _ := by simpa using h
  exact ⟨hvalid, (some.inj hcursor).symm⟩

theorem key_of_cursorWrite (hs : s.CursorsStored)
    (h : s.cursorWrite c cmd now = some (o, some cursor, c')) :
    cursor.deviceId = cmd.deviceId ∧ cursor.conversationId = cmd.conversationId := by
  obtain ⟨hvalid, rfl⟩ := cursorWrite_eq_some h
  have hkey := hs.getCursor hvalid now
  exact ⟨hkey.1, hkey.2.1⟩

theorem UpdateSyncCursorCommand.invalid_of_isNil (cmd : UpdateSyncCursorCommand)
    (h : cmd.conversationId.isNil = true) : ∃ o, cmd.invalid = some o := by
  unfold invalid
  rw [if_pos h]
  split <;> exact ⟨_, rfl⟩

theorem cursorWrite_ne_of_isNil (h : cmd.conversationId.isNil = true) :
    s.cursorWrite c cmd now ≠ some (o, some cursor, c') := by
  obtain ⟨o, ho⟩ := cmd.invalid_of_isNil h
  simp [cursorWrite, ho]

/-! ### Own requests are isolated -/

theorem AgreeOn.written (h : AgreeOn device cursors s.syncCursors)
    (cursor : Option DeviceSyncCursor) :
    AgreeOn device ((s.withCursors cursors).written cursor).syncCursors
      (s.written cursor).syncCursors := by
  intro conv
  cases cursor with
  | none => exact h conv
  | some cursor =>
    show update cursors _ _ _ = update s.syncCursors _ _ _
    by_cases hkey : (device, conv) = (cursor.deviceId, cursor.conversationId)
    · rw [hkey, update_self, update_self]
    rw [update_of_ne hkey, update_of_ne hkey]
    exact h conv

theorem written_withCursors (cursor : Option DeviceSyncCursor) :
    ((s.withCursors cursors).written cursor).withCursors (s.written cursor).syncCursors =
      s.written cursor := by
  cases cursor <;> rfl

theorem cursorDeviceId_of_own {request : DeviceId} (h : request = "" ∨ request = device) :
    cursorDeviceId device request = device := by
  unfold cursorDeviceId
  split
  next hne =>
    exact h.resolve_left hne
  · rfl

variable {x : CursorCallInput}

theorem pooled_syncCursors {done : CursorEffect}
    {key : DeviceId × ConversationId} (h : done.store.syncCursors key = s.syncCursors key) :
    (x.pooled s c done).store.syncCursors key = s.syncCursors key := by
  unfold CursorCallInput.pooled
  split
  · rfl
  · split <;> exact h

theorem CursorEffect.Same.unchanged (h : AgreeOn device cursors s.syncCursors) (reply : CursorReply)
    (c : Counters) :
    CursorEffect.Same device ⟨reply, s, c⟩ ⟨reply, s.withCursors cursors, c⟩ :=
  ⟨rfl, rfl, h, rfl⟩

theorem CursorEffect.Same.pooled {e e' : CursorEffect}
    (h : AgreeOn device cursors s.syncCursors) (he : e.Same device e') :
    (x.pooled s c e).Same device (x.pooled (s.withCursors cursors) c e') := by
  unfold CursorCallInput.pooled
  split
  · exact .unchanged h _ c
  split
  · exact ⟨rfl, he.counters, he.own, he.rest⟩
  · exact he

theorem ReadPath.deviceId_of_named {path : ReadPath} {r : ReadRequest} {d : DeviceId}
    (hcaller : r.callerDevice ≠ "") (h : path.deviceId r = some d) : d = r.callerDevice := by
  cases path with
  | syncDeviceMessages =>
    simp only [ReadPath.deviceId, syncDeviceId] at h
    split_ifs at h <;> simp_all
  | getMessages =>
    simp only [ReadPath.deviceId, getMessagesDeviceId] at h
    split_ifs at h <;> simp_all

theorem cursorUpdated_changes (hs : s.CursorsStored) {other : DeviceId} (conv : ConversationId)
    (hother : other ≠ cmd.deviceId ∨ cmd.conversationId.isNil = true) :
    (s.cursorUpdated c cmd now).store.syncCursors (other, conv) = s.syncCursors (other, conv) := by
  unfold cursorUpdated
  rw [updateCursor_eq_cursorWrite]
  cases hw : s.cursorWrite c cmd now with
  | none => rfl
  | some r =>
    obtain ⟨o, w, c'⟩ := r
    cases w with
    | none => rfl
    | some cursor =>
      rcases hother with hother | hnil
      · apply syncCursors_upsert
        rwa [(key_of_cursorWrite hs hw).1]
      · exact absurd hw (cursorWrite_ne_of_isNil hnil)

theorem cursorUpdated_cursorsStored (hs : s.CursorsStored) :
    (s.cursorUpdated c cmd now).store.CursorsStored := by
  unfold cursorUpdated
  rw [updateCursor_eq_cursorWrite]
  cases hw : s.cursorWrite c cmd now with
  | none => exact hs
  | some r =>
    obtain ⟨o, w, c'⟩ := r
    cases w with
    | none => exact hs
    | some cursor =>
      rw [(cursorWrite_eq_some hw).2]
      exact hs.upsert _ _ _

theorem cursorUpdated_reads (h : AgreeOn device cursors s.syncCursors)
    (hown : cmd.deviceId = device ∨ cmd.conversationId.isNil = true) :
    (s.cursorUpdated c cmd now).Same device ((s.withCursors cursors).cursorUpdated c cmd now) := by
  have hsame : (s.withCursors cursors).cursorWrite c cmd now = s.cursorWrite c cmd now := by
    rcases hown with hdevice | hnil
    · exact cursorWrite_withCursors (hdevice ▸ h)
    obtain ⟨o, ho⟩ := cmd.invalid_of_isNil hnil
    simp only [cursorWrite, ho]
  unfold cursorUpdated
  rw [updateCursor_eq_cursorWrite, updateCursor_eq_cursorWrite, hsame]
  cases s.cursorWrite c cmd now with
  | none => exact .unchanged h _ c
  | some r =>
    obtain ⟨o, w, c'⟩ := r
    exact ⟨rfl, rfl, h.written w, written_withCursors w⟩

end

variable {request device : DeviceId}

open CursorRpc

theorem CursorRpc.isolated_of_namesOwn {rpc : CursorRpc} (hd : device ≠ "")
    (h : rpc.NamesOwn device) : rpc.Isolated device := by
  cases rpc with
  | getSyncCursor request conv =>
    constructor
    · intro x s c _ other conv' _
      unfold perform
      dsimp only
      split
      · rfl
      · exact pooled_syncCursors rfl
    intro x s c cursors _ _ hagree
    have hcursor : (s.withCursors cursors).getCursor (cursorDeviceId device request) conv x.now =
        s.getCursor (cursorDeviceId device request) conv x.now := by
      by_cases hnil : conv.isNil = true
      · simp [getCursor, hnil]
      have hown : request = "" ∨ request = device :=
        h.imp_right fun h => h.resolve_right hnil
      rw [cursorDeviceId_of_own hown]
      exact getCursor_withCursors hagree conv x.now
    unfold perform
    dsimp only
    rw [hcursor]
    split
    · exact .unchanged hagree _ c
    · exact .pooled hagree (.unchanged hagree _ c)
  | updateSyncCursor request conv n =>
    by_cases hneg : n < 0
    · constructor
      · intro x s c _ other conv' _
        simp only [perform, if_pos hneg]
        split <;> rfl
      intro x s c cursors _ _ hagree
      simp only [perform, if_pos hneg]
      split <;> exact .unchanged hagree _ c
    have hown : cursorDeviceId device request = device ∨ conv.isNil = true := by
      rcases h with h | h | h | h
      · exact .inl (cursorDeviceId_of_own (.inl h))
      · exact .inl (cursorDeviceId_of_own (.inr h))
      · exact .inr h
      · exact absurd h hneg
    constructor
    · intro x s c hs other conv' hother
      simp only [perform, if_neg hneg]
      split
      · rfl
      refine pooled_syncCursors (cursorUpdated_changes hs conv' (hown.imp_left ?_))
      intro heq
      rwa [heq]
    intro x s c cursors _ _ hagree
    simp only [perform, if_neg hneg]
    split
    · exact .unchanged hagree _ c
    · exact .pooled hagree (cursorUpdated_reads hagree hown)
  | read path request conv since maxMessages =>
    constructor
    · intro x s c _ other conv' _
      simp only [perform]
      split
      · rfl
      split
      · rfl
      split
      · rfl
      apply pooled_syncCursors
      split <;> rfl
    intro x s c cursors _ _ hagree
    simp only [perform]
    split
    · exact .unchanged hagree _ c
    rename_i d hpath
    obtain rfl : d = device := path.deviceId_of_named hd hpath
    split
    · exact .unchanged hagree _ c
    split
    · exact .unchanged hagree _ c
    refine .pooled hagree ?_
    rw [syncMessages_withCursors hagree]
    split
    · exact .unchanged hagree _ c
    · exact .unchanged hagree _ _

/-! ### Other requests are not -/

def oneCursor (device : DeviceId) (conv : ConversationId) :
    DeviceId × ConversationId → Option DeviceSyncCursor :=
  update (fun _ => none) (device, conv) (some ⟨device, conv, 1, 0, 2⟩)

theorem getSyncCursor_oneCursor (device d : DeviceId) (conv v : ConversationId) :
    (empty.withCursors (oneCursor device conv)).getSyncCursor d v =
      if (d, v) = (device, conv) then some ⟨device, conv, 1, 0, 2⟩ else none := by
  exact update_apply (fun _ : DeviceId × ConversationId => none) _ _ _

theorem cursorsStored_oneCursor (device : DeviceId) (conv : ConversationId) :
    (empty.withCursors (oneCursor device conv)).CursorsStored := by
  constructor
  · intro d v row hrow
    rw [getSyncCursor_oneCursor] at hrow
    split_ifs at hrow with hkey
    cases hrow
    cases hkey
    exact ⟨rfl, rfl⟩
  intro d v row hrow
  rw [getSyncCursor_oneCursor] at hrow
  split_ifs at hrow
  cases hrow
  show (-2 ^ 31 : Int) ≤ 2 ∧ (2 : Int) < 2 ^ 31
  omega

theorem cursorsStored_empty : empty.CursorsStored where
  keyed := fun _ _ _ h => nomatch h
  version := fun _ _ _ h => nomatch h

theorem cursorDeviceId_named (h : request ≠ "") :
    cursorDeviceId device request = request := if_pos h

variable {conv : ConversationId}

theorem getSyncCursor_not_isolated
    (hnamed : request ≠ "") (hother : request ≠ device) (hconv : conv.isNil = false) :
    ¬ (CursorRpc.getSyncCursor request conv).Isolated device := by
  intro h
  have hagree : AgreeOn device (oneCursor request conv) empty.syncCursors := by
    intro v
    apply update_of_ne
    intro hkey
    exact hother (congrArg Prod.fst hkey).symm
  have hsame := (h.reads { now := 0 } empty (fun _ => none) (oneCursor request conv)
    cursorsStored_empty (cursorsStored_oneCursor request conv) hagree).reply
  have hrow : (empty.withCursors (oneCursor request conv)).getSyncCursor request conv =
      some ⟨request, conv, 1, 0, 2⟩ := by
    rw [getSyncCursor_oneCursor, if_pos rfl]
  have hnone : empty.getSyncCursor request conv = none := rfl
  simp [perform, cursorDeviceId_named hnamed, hnamed, CursorCallInput.pooled,
    getCursor, hconv, hrow, hnone, DeviceSyncCursor.createInitial] at hsame

theorem cursorWrite_first {cmd : UpdateSyncCursorCommand} (hvalid : cmd.invalid = none)
    (hversion : cmd.syncVersion = 0) :
    ∃ o cursor c', empty.cursorWrite (fun _ => some (cmd.newSequence + 1)) cmd
      january = some (o, some cursor, c') := by
  have hmonth : MessageBucket.fromTimePoint january =
      some ⟨2026, 1, by decide, by decide⟩ := by decide
  obtain ⟨c', hceiling⟩ : ∃ c', empty.sequenceCeiling (fun _ => some (cmd.newSequence + 1))
      cmd.conversationId january = some (cmd.newSequence + 1, c') := by
    simp only [sequenceCeiling, hmonth, bind_some, Counters.peekSequence,
      Counters.load, getD_some, ceilingFrom, Nat.add_one_ne_zero, if_false,
      map_some]
    exact ⟨_, rfl⟩
  have hbeyond : cmd.beyond (cmd.newSequence + 1) = none := if_neg (by omega)
  have hcursor : empty.getCursor cmd.deviceId cmd.conversationId january =
      .createInitial cmd.deviceId cmd.conversationId january := by
    unfold getCursor
    split <;> rfl
  have hrefusal : cmd.refusal (.createInitial cmd.deviceId cmd.conversationId january) =
      none := by
    simp [refusal, DeviceSyncCursor.canAdvanceTo, DeviceSyncCursor.createInitial, hversion]
  simp only [cursorWrite, hvalid, hceiling, map_some, hbeyond, hcursor, hrefusal]
  exact ⟨_, _, _, rfl⟩

/-- `UpdateSyncCursor` moves the cursor of another device: any sequence does, in a conversation that
has come that far. -/
theorem updateSyncCursor_not_isolated {n : Int}
    (hnamed : request ≠ "") (hother : request ≠ device) (hconv : conv.isNil = false) (hn : ¬ n < 0) :
    ¬ (CursorRpc.updateSyncCursor request conv n).Isolated device := by
  intro h
  have hvalid : (mk request conv n.toNat 0).invalid = none := by
    simp [invalid, hnamed, hconv]
  obtain ⟨o, cursor, c', hwrite⟩ := cursorWrite_first hvalid rfl
  have hkey := key_of_cursorWrite cursorsStored_empty hwrite
  have hstore : ((updateSyncCursor request conv n).perform device
      { now := january } empty (fun _ => some (n.toNat + 1))).store =
        empty.upsertSyncCursor cursor := by
    simp only [perform, cursorDeviceId_named hnamed, if_neg hnamed, if_neg hn,
      CursorCallInput.pooled, cursorUpdated]
    rw [updateCursor_eq_cursorWrite _ _ ⟨request, conv, n.toNat, 0⟩, hwrite]
    rfl
  have hsame := h.changes { now := january } empty (fun _ => some (n.toNat + 1))
    cursorsStored_empty request conv hother
  rw [hstore] at hsame
  have hsome : (empty.upsertSyncCursor cursor).syncCursors
      (cursor.deviceId, cursor.conversationId) = some cursor := update_self _ _ _
  rw [hkey.1, hkey.2] at hsome
  exact nomatch hsome.symm.trans hsame

/-- **Cursor isolation, exactly.** A call with an authenticated device reads and changes cursors of that
device only, if and only if its request names no other device or comes to nothing. -/
theorem cursor_isolation_iff {device : DeviceId} (hd : device ≠ "") (rpc : CursorRpc) :
    rpc.Isolated device ↔ rpc.NamesOwn device := by
  refine ⟨?_, isolated_of_namesOwn hd⟩
  intro h
  cases rpc with
  | getSyncCursor request conv =>
    by_contra hnot
    simp only [CursorRpc.NamesOwn, not_or, Bool.not_eq_true] at hnot
    exact getSyncCursor_not_isolated hnot.1 hnot.2.1 hnot.2.2 h
  | updateSyncCursor request conv n =>
    by_contra hnot
    simp only [CursorRpc.NamesOwn, not_or, Bool.not_eq_true] at hnot
    exact updateSyncCursor_not_isolated hnot.1 hnot.2.1 hnot.2.2.1 hnot.2.2.2 h
  | read path request conv since maxMessages => trivial

/-- A call keeps the cursors under their keys. -/
theorem perform_cursorsStored (hs : s.CursorsStored) (rpc : CursorRpc) (device : DeviceId) :
    (rpc.perform device x s c).store.CursorsStored := by
  have hpooled : ∀ {done : CursorEffect}, done.store.CursorsStored →
      (x.pooled s c done).store.CursorsStored := by
    intro done hdone
    unfold CursorCallInput.pooled
    split
    · exact hs
    · split <;> exact hdone
  cases rpc with
  | getSyncCursor request conv =>
    simp only [perform]
    split
    · exact hs
    · exact hpooled hs
  | updateSyncCursor request conv n =>
    simp only [perform]
    split
    · exact hs
    split
    · exact hs
    exact hpooled (cursorUpdated_cursorsStored hs)
  | read path request conv since maxMessages =>
    simp only [perform]
    split
    · exact hs
    split
    · exact hs
    split
    · exact hs
    apply hpooled
    split <;> exact hs

/-- Calls one after the other, each by its caller's device. -/
def runCalls (s : Store) (c : Counters) (calls : List (DeviceId × CursorRpc × CursorCallInput)) :
    Store × Counters :=
  calls.foldl (fun (s, c) (device, rpc, x) =>
    ((rpc.perform device x s c).store, (rpc.perform device x s c).counters)) (s, c)

/-- **A device's cursors are kept by the others**: no sequence of their calls changes one, as long as their
requests name no other device. -/
theorem cursors_kept_by_others {device : DeviceId}
    (calls : List (DeviceId × CursorRpc × CursorCallInput))
    (hown : ∀ call ∈ calls, call.1 ≠ "" ∧ device ≠ call.1 ∧ call.2.1.NamesOwn call.1)
    (hs : s.CursorsStored) (conv : ConversationId) :
    (runCalls s c calls).1.syncCursors (device, conv) = s.syncCursors (device, conv) := by
  induction calls generalizing s c with
  | nil => rfl
  | cons call calls ih =>
    obtain ⟨caller, rpc, x⟩ := call
    obtain ⟨⟨hnamed, hother, hnames⟩, hrest⟩ := List.forall_mem_cons.mp hown
    have hkept := (isolated_of_namesOwn hnamed hnames).changes x s c hs device conv hother
    exact (ih hrest (perform_cursorsStored hs rpc caller)).trans hkept

/-- The phone asks without naming a device. -/
theorem unnamed_request_isolated :
    ("phone" : DeviceId) ≠ "" ∧ (CursorRpc.updateSyncCursor "" ⟨7⟩ 3).Isolated "phone" := by
  have hd : ("phone" : DeviceId) ≠ "" := by decide
  exact ⟨hd, (cursor_isolation_iff hd _).mpr (.inl rfl)⟩

/-- **A phone moves and reads the cursor of a laptop.** `UpdateSyncCursor` from `phone` that names
`laptop` creates the laptop's cursor, and `GetSyncCursor` from `phone` answers with it. -/
theorem foreign_cursor_moved_and_read :
    let x : CursorCallInput := { now := january }
    let e := (CursorRpc.updateSyncCursor "laptop" ⟨7⟩ 0).perform "phone" x .empty (fun _ => none)
    empty.getSyncCursor "laptop" ⟨7⟩ = none ∧
      e.store.getSyncCursor "laptop" ⟨7⟩ = some ⟨"laptop", ⟨7⟩, 0, january, 2⟩ ∧
      ((CursorRpc.getSyncCursor "laptop" ⟨7⟩).perform "phone" x e.store e.counters).reply =
        .cursor ⟨"laptop", ⟨7⟩, 0, january, 2⟩ := by
  decide

end SecureCloud.Messaging
