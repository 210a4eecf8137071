import SecureCloud.Messaging.Submission
import SecureCloud.Messaging.Sync

/-
# Messaging.CursorUpdates — concurrent `update_cursor` calls

`SyncCursorManager::update_cursor` reads the ceiling and the cursor, checks and writes, under a mutex
picked by a hash of device and conversation. Every repository call is a move; calls interleave with each
other and with THE REST OF THE SERVICE, which may change everything but the cursor table. A call may
throw, and a write that threw may have reached the table.

The mutex makes the read-check-write of one cursor atomic, so cursor safety holds in every interleaving,
with ONE exception: `sync_version` is a 32-bit signed integer, and the update that finds it at its largest
value does not raise it.
-/

namespace SecureCloud.Messaging

open Lib Lib.Interleaving Function Store

/-! ## The calls as processes -/

structure UpdateSyncCursorCommand where
  deviceId : DeviceId
  conversationId : ConversationId
  newSequence : Nat
  syncVersion : Int

namespace UpdateSyncCursorCommand

variable (cmd : UpdateSyncCursorCommand)

/-- Step 1. -/
def invalid : Option SyncCursorUpdateOutcome :=
  if cmd.deviceId = "" then some ⟨.invalidCursor, none, "Device ID cannot be empty"⟩
  else if cmd.conversationId.isNil then
    some ⟨.invalidCursor, none, "Conversation ID must be a valid non-nil UUID"⟩
  else none

/-- Step 2. -/
def beyond (ceiling : Nat) : Option SyncCursorUpdateOutcome :=
  if ceiling < cmd.newSequence then
    some ⟨.outOfBoundsRejected, none, "Requested sequence " ++ toString cmd.newSequence ++
      " exceeds conversation sequence ceiling " ++ toString ceiling⟩
  else none

/-- Steps 4 and 5, on the cursor that was read. -/
def refusal (cursor : DeviceSyncCursor) : Option SyncCursorUpdateOutcome :=
  if !cursor.canAdvanceTo cmd.newSequence then
    some ⟨.regressionRejected, some cursor, "Requested sequence " ++ toString cmd.newSequence ++
      " regresses from active cursor sequence " ++ toString cursor.lastSyncedSequence⟩
  else if 0 < cmd.syncVersion ∧ cursor.syncVersion ≠ cmd.syncVersion then
    some ⟨.versionConflict, some cursor,
      "Optimistic concurrency conflict: expected sync_version " ++ toString cmd.syncVersion ++
      " but active version is " ++ toString cursor.syncVersion⟩
  else none

end UpdateSyncCursorCommand

open UpdateSyncCursorCommand

def SyncCursorUpdateOutcome.ofWrite (advanced : DeviceSyncCursor) (outcome : CallOutcome) :
    SyncCursorUpdateOutcome :=
  match outcome.thrown with
  | none => ⟨.success, some advanced, ""⟩
  | some what => ⟨.storageError, some advanced, "Storage error persisting sync cursor: " ++ what⟩

/-- Where a call stands. `elsewhere` is the rest of the service. -/
inductive CursorPc
  | elsewhere
  | called (cmd : UpdateSyncCursorCommand)
  | locked (cmd : UpdateSyncCursorCommand)
  | bounded (cmd : UpdateSyncCursorCommand) (ceiling : Nat)
  | advancing (cmd : UpdateSyncCursorCommand) (ceiling : Nat) (cursor : DeviceSyncCursor)
  | returned (cmd : UpdateSyncCursorCommand) (outcome : SyncCursorUpdateOutcome)
  | threw (cmd : UpdateSyncCursorCommand)

/-- What the processes share; `stripes k` is the call that holds stripe mutex `k`. -/
structure CursorWorld (ι : Type*) where
  store : Store
  counters : Counters
  stripes : Nat → Option ι

/-- The environment's part of a move: the clock, how the call ends, what the rest of the service makes of
the other tables and counters. -/
structure CursorInput where
  now : TimePoint
  outcome : CallOutcome
  store : Store
  counters : Counters

/-- `SyncCursorManager`: `stripeOf` is `std::hash` modulo the number of stripes. -/
structure SyncCursorManager where
  stripeOf : String → Nat

namespace SyncCursorManager

variable {ι : Type*} (mgr : SyncCursorManager)

def stripe (device : DeviceId) (conv : ConversationId) : Nat :=
  mgr.stripeOf (device ++ ":" ++ conv.toString)

def release (cmd : UpdateSyncCursorCommand) (w : CursorWorld ι) : CursorWorld ι :=
  { w with stripes := update w.stripes (mgr.stripe cmd.deviceId cmd.conversationId) none }

/-- One move of `update_cursor` by call `i`. `none`: the call cannot move. -/
def next (i : ι) (pc : CursorPc) (x : CursorInput) (w : CursorWorld ι) :
    Option (CursorPc × CursorWorld ι) :=
  match pc with
  | .elsewhere =>
    -- nothing but `update_cursor` writes `sync_state_by_device`
    some (.elsewhere, { w with
      store := { x.store with syncCursors := w.store.syncCursors }, counters := x.counters })
  | .called cmd =>
    match cmd.invalid with
    | some o => some (.returned cmd o, w)
    | none =>
      if (w.stripes (mgr.stripe cmd.deviceId cmd.conversationId)).isSome then none
      else some (.locked cmd, { w with
        stripes := update w.stripes (mgr.stripe cmd.deviceId cmd.conversationId) (some i) })
  | .locked cmd =>
    match x.outcome.thrown, w.store.sequenceCeiling w.counters cmd.conversationId x.now with
    | none, some (ceiling, counters) =>
      match cmd.beyond ceiling with
      | some o => some (.returned cmd o, mgr.release cmd { w with counters := counters })
      | none => some (.bounded cmd ceiling, { w with counters := counters })
    | _, _ => some (.threw cmd, mgr.release cmd w)
  | .bounded cmd ceiling =>
    match x.outcome.thrown with
    | some _ => some (.threw cmd, mgr.release cmd w)
    | none =>
      match cmd.refusal (w.store.getCursor cmd.deviceId cmd.conversationId x.now) with
      | some o => some (.returned cmd o, mgr.release cmd w)
      | none => some (.advancing cmd ceiling
          (w.store.getCursor cmd.deviceId cmd.conversationId x.now), w)
  | .advancing cmd _ cursor =>
    let advanced := cursor.advanceTo cmd.newSequence x.now
    some (.returned cmd (.ofWrite advanced x.outcome), mgr.release cmd
      (if x.outcome.takesEffect then { w with store := w.store.upsertSyncCursor advanced } else w))
  | .returned .. => none
  | .threw .. => none

/-! ## What a move can do -/

/-- The moves of a call, one constructor per way through `next`. -/
inductive Moves (i : ι) (x : CursorInput) :
    CursorPc → CursorWorld ι → CursorPc → CursorWorld ι → Prop
  | elsewhere (w) : Moves i x .elsewhere w .elsewhere { w with
      store := { x.store with syncCursors := w.store.syncCursors }, counters := x.counters }
  | invalid {cmd o} (h : cmd.invalid = some o) (w) : Moves i x (.called cmd) w (.returned cmd o) w
  | lock {cmd} (hvalid : cmd.invalid = none) (w)
      (hfree : w.stripes (mgr.stripe cmd.deviceId cmd.conversationId) = none) :
      Moves i x (.called cmd) w (.locked cmd) { w with
        stripes := update w.stripes (mgr.stripe cmd.deviceId cmd.conversationId) (some i) }
  | failLocked {cmd} (w) : Moves i x (.locked cmd) w (.threw cmd) (mgr.release cmd w)
  | beyond {cmd ceiling counters o} (w) (h : cmd.beyond ceiling = some o) :
      Moves i x (.locked cmd) w (.returned cmd o) (mgr.release cmd { w with counters := counters })
  | bound {cmd ceiling counters} (w)
      (hceil : w.store.sequenceCeiling w.counters cmd.conversationId x.now =
        some (ceiling, counters)) (h : cmd.beyond ceiling = none) :
      Moves i x (.locked cmd) w (.bounded cmd ceiling) { w with counters := counters }
  | failBounded {cmd ceiling} (w) : Moves i x (.bounded cmd ceiling) w (.threw cmd)
      (mgr.release cmd w)
  | refuse {cmd ceiling o} (w)
      (h : cmd.refusal (w.store.getCursor cmd.deviceId cmd.conversationId x.now) = some o) :
      Moves i x (.bounded cmd ceiling) w (.returned cmd o) (mgr.release cmd w)
  | fetch {cmd ceiling} (w)
      (h : cmd.refusal (w.store.getCursor cmd.deviceId cmd.conversationId x.now) = none) :
      Moves i x (.bounded cmd ceiling) w
        (.advancing cmd ceiling (w.store.getCursor cmd.deviceId cmd.conversationId x.now)) w
  | write {cmd ceiling cursor} (w) : Moves i x (.advancing cmd ceiling cursor) w
      (.returned cmd (.ofWrite (cursor.advanceTo cmd.newSequence x.now) x.outcome))
      (mgr.release cmd (if x.outcome.takesEffect then
        { w with store := w.store.upsertSyncCursor (cursor.advanceTo cmd.newSequence x.now) }
        else w))

theorem next_moves {i : ι} {pc pc' : CursorPc} {x : CursorInput} {w w' : CursorWorld ι}
    (h : mgr.next i pc x w = some (pc', w')) : mgr.Moves i x pc w pc' w' := by
  cases pc with
  | elsewhere =>
    cases h
    exact .elsewhere w
  | called cmd =>
    simp only [next] at h
    split at h
    next o ho =>
      cases h
      exact .invalid ho w
    rename_i hvalid
    split at h
    · cases h
    rename_i hfree
    cases h
    apply Moves.lock hvalid w
    simpa using hfree
  | locked cmd =>
    simp only [next] at h
    split at h
    next ceiling counters _ hceil =>
      split at h
      next o ho =>
        cases h
        exact .beyond w ho
      rename_i hnone
      cases h
      exact .bound w hceil hnone
    · cases h
      exact .failLocked w
  | bounded cmd ceiling =>
    simp only [next] at h
    split at h
    · cases h
      exact .failBounded w
    split at h
    next o ho =>
      cases h
      exact .refuse w ho
    rename_i hnone
    cases h
    exact .fetch w hnone
  | advancing cmd ceiling cursor =>
    cases h
    exact .write w
  | returned | threw => cases h

end SyncCursorManager

/-! ## The cursor table -/

/-- A row carries its own primary key, and its version is a 32-bit signed integer. -/
structure Store.CursorsStored (s : Store) : Prop where
  keyed : ∀ device conv cursor, s.getSyncCursor device conv = some cursor →
    cursor.deviceId = device ∧ cursor.conversationId = conv
  version : ∀ device conv cursor, s.getSyncCursor device conv = some cursor →
    -2 ^ 31 ≤ cursor.syncVersion ∧ cursor.syncVersion < 2 ^ 31

theorem wrapInt32_range (n : Int) : -2 ^ 31 ≤ wrapInt32 n ∧ wrapInt32 n < 2 ^ 31 := by
  unfold wrapInt32 Int.bmod
  dsimp only
  split <;> omega

theorem wrapInt32_succ_eq_iff {v : Int} (hlow : -2 ^ 31 ≤ v) (hhigh : v < 2 ^ 31) :
    wrapInt32 (v + 1) = v + 1 ↔ v ≠ 2 ^ 31 - 1 := by
  unfold wrapInt32 Int.bmod
  dsimp only
  split <;> omega

variable {conv : ConversationId}

theorem getCursor_eq {s : Store} {device : DeviceId}
    (hdev : device ≠ "") (hnil : conv.isNil = false) (now : TimePoint) :
    s.getCursor device conv now =
      (s.getSyncCursor device conv).getD (.createInitial device conv now) := by
  simp [getCursor, hdev, hnil]

theorem getSyncCursor_upsert (s : Store) (cursor : DeviceSyncCursor) (device : DeviceId)
    (conv : ConversationId) :
    (s.upsertSyncCursor cursor).getSyncCursor device conv =
      if device = cursor.deviceId ∧ conv = cursor.conversationId then some cursor
      else s.getSyncCursor device conv := by
  simp [getSyncCursor, upsertSyncCursor, update_apply]

section
variable {s : Store} {cmd : UpdateSyncCursorCommand}

theorem UpdateSyncCursorCommand.named (h : cmd.invalid = none) :
    cmd.deviceId ≠ "" ∧ cmd.conversationId.isNil = false := by
  unfold invalid at h
  split_ifs at h with hdev hnil
  exact ⟨hdev, by simpa using hnil⟩

variable {ceiling : Nat}

theorem UpdateSyncCursorCommand.within (h : cmd.beyond ceiling = none) :
    cmd.newSequence ≤ ceiling := by
  unfold beyond at h
  split_ifs at h with hlt
  omega

variable {cursor : DeviceSyncCursor}

open DeviceSyncCursor

/-- A cursor that is not refused may advance, and has the version that was asked for. -/
theorem UpdateSyncCursorCommand.admitted
    (h : cmd.refusal cursor = none) : cursor.lastSyncedSequence ≤ cmd.newSequence ∧
    (0 < cmd.syncVersion → cmd.syncVersion = cursor.syncVersion) := by
  unfold refusal at h
  split_ifs at h with hlow hversion
  refine ⟨by simpa [canAdvanceTo] using hlow, ?_⟩
  intro hpos
  by_contra hne
  exact hversion ⟨hpos, Ne.symm hne⟩

variable {o : SyncCursorUpdateOutcome}

theorem UpdateSyncCursorCommand.invalid_status (h : cmd.invalid = some o) : o.status ≠ .success := by
  unfold invalid at h
  split_ifs at h <;> (cases h; simp)

theorem UpdateSyncCursorCommand.beyond_status (h : cmd.beyond ceiling = some o) :
    o.status ≠ .success := by
  unfold beyond at h
  split_ifs at h
  cases h
  simp

theorem UpdateSyncCursorCommand.refusal_status (h : cmd.refusal cursor = some o) :
    o.status ≠ .success := by
  unfold refusal at h
  split_ifs at h <;> (cases h; simp)

section
variable (h : s.CursorsStored) (hvalid : cmd.invalid = none)
include h hvalid

theorem Store.CursorsStored.getCursor (now : TimePoint) :
    (s.getCursor cmd.deviceId cmd.conversationId now).deviceId = cmd.deviceId ∧
      (s.getCursor cmd.deviceId cmd.conversationId now).conversationId = cmd.conversationId ∧
      -2 ^ 31 ≤ (s.getCursor cmd.deviceId cmd.conversationId now).syncVersion ∧
      (s.getCursor cmd.deviceId cmd.conversationId now).syncVersion < 2 ^ 31 := by
  rw [getCursor_eq (named hvalid).1 (named hvalid).2]
  cases hrow : s.getSyncCursor cmd.deviceId cmd.conversationId with
  | none =>
    refine ⟨rfl, rfl, ?_, ?_⟩
    · show (-2 ^ 31 : Int) ≤ 1
      omega
    show (1 : Int) < 2 ^ 31
    omega
  | some cursor =>
    have hkey := h.keyed _ _ cursor hrow
    have hver := h.version _ _ cursor hrow
    exact ⟨hkey.1, hkey.2, hver.1, hver.2⟩

theorem Store.CursorsStored.getSyncCursor_advanced (t now : TimePoint) (device : DeviceId)
    (conv : ConversationId) :
    (s.upsertSyncCursor ((s.getCursor cmd.deviceId cmd.conversationId t).advanceTo
        cmd.newSequence now)).getSyncCursor device conv =
      if device = cmd.deviceId ∧ conv = cmd.conversationId then
        some ((s.getCursor cmd.deviceId cmd.conversationId t).advanceTo cmd.newSequence now)
      else s.getSyncCursor device conv := by
  have hkey := h.getCursor hvalid t
  rw [getSyncCursor_upsert]
  simp only [advanceTo, hkey.1, hkey.2.1]

theorem Store.CursorsStored.currentVersion_advanced (t now : TimePoint) :
    (s.upsertSyncCursor ((s.getCursor cmd.deviceId cmd.conversationId t).advanceTo
        cmd.newSequence now)).currentVersion cmd.deviceId cmd.conversationId =
      wrapInt32 (s.currentVersion cmd.deviceId cmd.conversationId + 1) := by
  have hnamed := named hvalid
  rw [currentVersion, h.getSyncCursor_advanced hvalid, if_pos ⟨rfl, rfl⟩,
    ← getCursor_syncVersion s hnamed.1 hnamed.2 t]
  rfl

theorem Store.CursorsStored.lastSynced_advanced (t now : TimePoint) :
    (s.upsertSyncCursor ((s.getCursor cmd.deviceId cmd.conversationId t).advanceTo
        cmd.newSequence now)).lastSynced cmd.deviceId cmd.conversationId = cmd.newSequence := by
  rw [lastSynced, h.getSyncCursor_advanced hvalid, if_pos ⟨rfl, rfl⟩]
  rfl

end

theorem Store.CursorsStored.upsert (h : s.CursorsStored) (cursor : DeviceSyncCursor) (n : Nat)
    (now : TimePoint) : (s.upsertSyncCursor (cursor.advanceTo n now)).CursorsStored where
  keyed device conv row hrow := by
    rw [getSyncCursor_upsert] at hrow
    split_ifs at hrow with hkey
    · cases hrow
      exact ⟨hkey.1.symm, hkey.2.symm⟩
    · exact h.keyed _ _ row hrow
  version device conv row hrow := by
    rw [getSyncCursor_upsert] at hrow
    split_ifs at hrow with hkey
    · cases hrow
      exact wrapInt32_range _
    · exact h.version _ _ row hrow

end

namespace SyncCursorManager

variable {ι : Type*} (mgr : SyncCursorManager)

/-! ## What a call knows -/

structure Holding (i : ι) (cmd : UpdateSyncCursorCommand) (w : CursorWorld ι) : Prop where
  valid : cmd.invalid = none
  mine : w.stripes (mgr.stripe cmd.deviceId cmd.conversationId) = some i

/-- The local assertion. From its read to its write, a call knows the stored cursor. -/
def Knows (i : ι) : CursorPc → CursorWorld ι → Prop
  | .locked cmd, w => mgr.Holding i cmd w
  | .bounded cmd ceiling, w => mgr.Holding i cmd w ∧ cmd.beyond ceiling = none
  | .advancing cmd ceiling cursor, w => mgr.Holding i cmd w ∧ cmd.beyond ceiling = none ∧
      cmd.refusal cursor = none ∧
      ∃ t, cursor = w.store.getCursor cmd.deviceId cmd.conversationId t
  | _, _ => True

section
variable {mgr} {i j : ι} {x : CursorInput} {pc pc' q : CursorPc} {w w' : CursorWorld ι}
  {cmd : UpdateSyncCursorCommand}

theorem release_stripes_other (h : mgr.Holding i cmd w)
    (hij : i ≠ j) {k : Nat} (hk : w.stripes k = some j) : (mgr.release cmd w).stripes k = some j := by
  -- the released stripe was `i`'s, so it is not the one `j` holds
  have hne : k ≠ mgr.stripe cmd.deviceId cmd.conversationId := by
    rintro rfl
    rw [h.mine] at hk
    exact hij (Option.some.inj hk)
  simp [release, update_of_ne hne, hk]

section
variable (h : mgr.Moves i x pc w pc' w') (hi : mgr.Knows i pc w)
include h hi

theorem Moves.stripes_other (hij : i ≠ j) {k : Nat} (hk : w.stripes k = some j)
    : w'.stripes k = some j := by
  cases h with
  | elsewhere | invalid | bound | fetch => exact hk
  | lock _ _ hfree =>
    rename_i cmd _
    have hne : k ≠ mgr.stripe cmd.deviceId cmd.conversationId := by
      rintro rfl
      rw [hfree] at hk
      cases hk
    simp [update_of_ne hne, hk]
  | failLocked => exact release_stripes_other hi hij hk
  | beyond => exact release_stripes_other (w := { w with counters := _ }) ⟨hi.valid, hi.mine⟩ hij hk
  | failBounded | refuse => exact release_stripes_other hi.1 hij hk
  | write =>
    split
    · exact release_stripes_other (w := { w with store := _ }) ⟨hi.1.valid, hi.1.mine⟩ hij hk
    · exact release_stripes_other hi.1 hij hk

theorem Moves.cursor_other (hs : w.store.CursorsStored) (hij : i ≠ j) {device : DeviceId}
    (hk : w.stripes (mgr.stripe device conv) = some j) :
    w'.store.getSyncCursor device conv = w.store.getSyncCursor device conv := by
  cases h with
  | write =>
    rename_i cmd ceiling cursor
    obtain ⟨hhold, -, -, t, rfl⟩ := hi
    have hkey := hs.getCursor hhold.valid t
    split
    · show (w.store.upsertSyncCursor _).getSyncCursor device conv = _
      rw [getSyncCursor_upsert, if_neg]
      -- the same key would have the same stripe
      rintro ⟨hdev, hconv⟩
      rw [hdev.trans hkey.1, hconv.trans hkey.2.1, hhold.mine] at hk
      exact hij (Option.some.inj hk)
    · rfl
  | _ => rfl

theorem Moves.own [DecidableEq ι] (hs : w.store.CursorsStored)
    : w'.store.CursorsStored ∧ mgr.Knows i pc' w' := by
  cases h with
  | elsewhere => exact ⟨⟨hs.keyed, hs.version⟩, trivial⟩
  | invalid | failLocked | beyond | failBounded | refuse => exact ⟨hs, trivial⟩
  | lock hvalid => exact ⟨hs, hvalid, update_self ..⟩
  | bound _ _ hnone => exact ⟨hs, ⟨hi.valid, hi.mine⟩, hnone⟩
  | fetch _ hnone => exact ⟨hs, hi.1, hi.2, hnone, x.now, rfl⟩
  | write =>
    refine ⟨?_, trivial⟩
    show (if _ then _ else w : CursorWorld ι).store.CursorsStored
    split
    · exact hs.upsert _ _ _
    · exact hs

end

theorem Holding.stable (hj : mgr.Holding j cmd w) (h : mgr.Moves i x pc w pc' w')
    (hi : mgr.Knows i pc w) (hij : i ≠ j) : mgr.Holding j cmd w' :=
  ⟨hj.valid, h.stripes_other hi hij hj.mine⟩

/-- Non-interference: what a call knows survives the moves of every other call. -/
theorem Knows.stable (hj : mgr.Knows j q w) (h : mgr.Moves i x pc w pc' w')
    (hi : mgr.Knows i pc w) (hs : w.store.CursorsStored) (hij : i ≠ j) : mgr.Knows j q w' := by
  cases q with
  | locked cmd => exact Holding.stable hj h hi hij
  | bounded cmd ceiling => exact ⟨hj.1.stable h hi hij, hj.2⟩
  | advancing cmd ceiling cursor =>
    obtain ⟨hhold, hwithin, hpass, t, rfl⟩ := hj
    refine ⟨hhold.stable h hi hij, hwithin, hpass, t, ?_⟩
    have hnamed := named hhold.valid
    rw [getCursor_eq hnamed.1 hnamed.2, getCursor_eq hnamed.1 hnamed.2,
      h.cursor_other hi hs hij hhold.mine]
  | _ => trivial

end

/-! ## Safety of a step -/

/-- What one step may do to the cursors. Unless it ends a call with `Success` or `StorageError` it
changes none, so a rejected call changes none. -/
structure StepSafe (pc' : CursorPc) (w w' : CursorWorld ι) : Prop where
  monotone : ∀ device conv, w.store.lastSynced device conv ≤ w'.store.lastSynced device conv
  accepted : ∀ cmd o, pc' = .returned cmd o → o.status = .success →
    w'.store.lastSynced cmd.deviceId cmd.conversationId = cmd.newSequence
  counted : ∀ cmd o, pc' = .returned cmd o → o.status = .success →
    w'.store.currentVersion cmd.deviceId cmd.conversationId =
      w.store.currentVersion cmd.deviceId cmd.conversationId + 1
  expected : ∀ cmd o, pc' = .returned cmd o → o.status = .success → 0 < cmd.syncVersion →
    cmd.syncVersion = w.store.currentVersion cmd.deviceId cmd.conversationId
  unchanged : (∀ cmd o, pc' = .returned cmd o → o.status ≠ .success ∧ o.status ≠ .storageError) →
    w'.store.syncCursors = w.store.syncCursors

/-- The condition on a step: an update about to succeed does not find the largest 32-bit version. -/
def Unsaturated (pc : CursorPc) (x : CursorInput) (w : CursorWorld ι) : Prop :=
  match pc with
  | .advancing cmd _ _ => x.outcome = .ok →
      w.store.currentVersion cmd.deviceId cmd.conversationId ≠ 2 ^ 31 - 1
  | _ => True

section
variable {mgr} {i : ι} {x : CursorInput} {pc pc' : CursorPc} {w w' : CursorWorld ι}

theorem StepSafe.of_same (hsame : w'.store.syncCursors = w.store.syncCursors)
    (hquiet : ∀ cmd o, pc' = .returned cmd o → o.status ≠ .success) : StepSafe pc' w w' where
  monotone device conv := by rw [lastSynced_congr hsame]
  accepted cmd o h hok := absurd hok (hquiet cmd o h)
  counted cmd o h hok := absurd hok (hquiet cmd o h)
  expected cmd o h hok := absurd hok (hquiet cmd o h)
  unchanged _ := hsame

variable {cmd : UpdateSyncCursorCommand}

theorem write_lastSynced (hs : w.store.CursorsStored)
    (hvalid : cmd.invalid = none) {t now : TimePoint}
    (hpass : cmd.refusal (w.store.getCursor cmd.deviceId cmd.conversationId t) = none)
    (device : DeviceId) (conv : ConversationId) :
    w.store.lastSynced device conv ≤ (w.store.upsertSyncCursor
      ((w.store.getCursor cmd.deviceId cmd.conversationId t).advanceTo
        cmd.newSequence now)).lastSynced device conv := by
  have hnamed := named hvalid
  unfold lastSynced
  rw [hs.getSyncCursor_advanced hvalid]
  split
  next hkey =>
    obtain ⟨rfl, rfl⟩ := hkey
    have hlow := (admitted hpass).1
    rw [getCursor_lastSyncedSequence _ hnamed.1 hnamed.2] at hlow
    exact hlow
  · exact le_rfl

open StepSafe SyncCursorUpdateOutcome

/-- **A step is safe exactly when it meets the condition.** -/
theorem Moves.safe_iff (h : mgr.Moves i x pc w pc' w') (hi : mgr.Knows i pc w)
    (hs : w.store.CursorsStored) : StepSafe pc' w w' ↔ Unsaturated pc x w := by
  cases h with
  | write =>
    rename_i cmd ceiling cursor
    obtain ⟨hhold, -, hpass, t, rfl⟩ := hi
    have hvalid := hhold.valid
    have hnamed := named hvalid
    have hrange := (hs.getCursor hvalid t).2.2
    have hversion := getCursor_syncVersion w.store hnamed.1 hnamed.2 t
    cases hout : x.outcome with
    | failed what =>
      -- nothing was written
      refine ⟨fun _ hok => ?_, fun _ => of_same rfl ?_⟩
      · rw [hout] at hok
        cases hok
      rintro _ _ heq
      cases heq
      simp [ofWrite, CallOutcome.thrown]
    | timedOut what =>
      -- the cursor was written, the caller is told of an error
      refine ⟨fun _ hok => ?_, fun _ => ?_⟩
      · rw [hout] at hok
        cases hok
      constructor
      case monotone => exact write_lastSynced hs hvalid hpass
      case unchanged =>
        intro hquiet
        exact absurd rfl (hquiet _ _ rfl).2
      all_goals
        rintro _ _ heq
        cases heq
        simp [ofWrite, CallOutcome.thrown]
    | ok =>
      have hcount := hs.currentVersion_advanced hvalid t x.now
      rw [hversion] at hrange
      constructor
      · intro hsafe _
        have hgrow := hsafe.counted _ _ rfl rfl
        exact (wrapInt32_succ_eq_iff hrange.1 hrange.2).mp (hcount.symm.trans hgrow)
      intro hunsat
      constructor
      case monotone => exact write_lastSynced hs hvalid hpass
      case accepted =>
        rintro _ _ heq -
        cases heq
        exact hs.lastSynced_advanced hvalid t x.now
      case counted =>
        rintro _ _ heq -
        cases heq
        exact hcount.trans ((wrapInt32_succ_eq_iff hrange.1 hrange.2).mpr (hunsat hout))
      case expected =>
        rintro _ _ heq - hpos
        cases heq
        rw [← hversion]
        exact (admitted hpass).2 hpos
      case unchanged =>
        intro hquiet
        exact absurd rfl (hquiet _ _ rfl).1
  | invalid ho =>
    refine ⟨fun _ => trivial, fun _ => of_same rfl ?_⟩
    rintro _ _ heq
    cases heq
    exact invalid_status ho
  | beyond _ ho =>
    refine ⟨fun _ => trivial, fun _ => of_same rfl ?_⟩
    rintro _ _ heq
    cases heq
    exact beyond_status ho
  | refuse _ ho =>
    refine ⟨fun _ => trivial, fun _ => of_same rfl ?_⟩
    rintro _ _ heq
    cases heq
    exact refusal_status ho
  | _ =>
    refine ⟨fun _ => trivial, fun _ => of_same rfl ?_⟩
    rintro _ _ heq
    cases heq

def PastCeiling (cmd : UpdateSyncCursorCommand) (ceiling : Nat) : CursorPc → Prop
  | .bounded cmd' ceiling' => cmd' = cmd ∧ ceiling' = ceiling
  | .advancing cmd' ceiling' _ => cmd' = cmd ∧ ceiling' = ceiling
  | _ => False

theorem Moves.entry (h : mgr.Moves i x pc w pc' w')
    (hout : ¬ PastCeiling cmd ceiling pc) (hin : PastCeiling cmd ceiling pc') :
    pc = .locked cmd ∧ cmd.newSequence ≤ ceiling ∧ ∃ counters,
      w.store.sequenceCeiling w.counters cmd.conversationId x.now = some (ceiling, counters) := by
  cases h with
  | bound _ hceil hnone =>
    obtain ⟨rfl, rfl⟩ := hin
    exact ⟨rfl, within hnone, _, hceil⟩
  | fetch => exact absurd hin hout
  | _ => exact hin.elim

theorem Moves.advancing_of_success (h : mgr.Moves i x pc w pc' w') {o : SyncCursorUpdateOutcome}
    (hpc : pc' = .returned cmd o) (ho : o.status = .success) :
    ∃ ceiling cursor, pc = .advancing cmd ceiling cursor := by
  cases h with
  | write =>
    cases hpc
    exact ⟨_, _, rfl⟩
  | invalid hinv =>
    cases hpc
    exact absurd ho (invalid_status hinv)
  | beyond _ hbeyond =>
    cases hpc
    exact absurd ho (beyond_status hbeyond)
  | refuse _ href =>
    cases hpc
    exact absurd ho (refusal_status href)
  | _ => cases hpc

end

/-! ## Safety of a run -/

section
variable [DecidableEq ι] {c d : Config ι CursorPc (CursorWorld ι)}
  {ms : List (ι × CursorInput)} {i : ι}

structure Fresh (c : Config ι CursorPc (CursorWorld ι)) : Prop where
  proc : ∀ i, c.proc i = .elsewhere ∨ ∃ cmd, c.proc i = .called cmd
  stored : c.shared.store.CursorsStored

/-- The call compared its sequence with the ceiling as it was at some point of the run. -/
def WithinCeiling (c : Config ι CursorPc (CursorWorld ι))
    (ms : List (ι × CursorInput)) (i : ι) (cmd : UpdateSyncCursorCommand) : Prop :=
  ∃ pre x post e ceiling counters, ms = pre ++ (i, x) :: post ∧
    run mgr.next c pre = some e ∧ e.proc i = .locked cmd ∧
    e.shared.store.sequenceCeiling e.shared.counters cmd.conversationId x.now =
      some (ceiling, counters) ∧ cmd.newSequence ≤ ceiling

/-- Cursor safety of a run: every step is safe, and every success had its sequence compared with the
ceiling. -/
def Safe (c : Config ι CursorPc (CursorWorld ι)) (ms : List (ι × CursorInput)) :
    Prop :=
  ∀ pre i x post d d', ms = pre ++ (i, x) :: post → run mgr.next c pre = some d →
    move mgr.next d (i, x) = some d' →
    StepSafe (d'.proc i) d.shared d'.shared ∧
      ∀ cmd o, d'.proc i = .returned cmd o → o.status = .success → mgr.WithinCeiling c pre i cmd

def NeverSaturated (c : Config ι CursorPc (CursorWorld ι)) (ms : List (ι × CursorInput)) : Prop :=
  ∀ pre i x post d, ms = pre ++ (i, x) :: post → run mgr.next c pre = some d →
    Unsaturated (d.proc i) x d.shared

variable {mgr}

section
variable (h : Fresh c) (hrun : run mgr.next c ms = some d)
include h hrun

theorem Fresh.annotated :
    Annotated (fun w => w.store.CursorsStored) mgr.Knows d := by
  refine run_induction (A := fun _ _ => True) ?_ ?_ (fun _ _ => trivial) hrun
  · rintro e ⟨j, x⟩ e' - he hmove
    apply move_annotated _ _ hmove
    · intro p' w' hnext
      exact (next_moves mgr hnext).own (he.2 j) he.1
    intro k p' w' hjk hnext
    exact (he.2 k).stable (next_moves mgr hnext) (he.2 j) he.1 hjk
  refine ⟨h.stored, fun j => ?_⟩
  rcases h.proc j with hj | ⟨cmd, hj⟩
  all_goals
    rw [hj]
    trivial

theorem Fresh.withinCeiling {cmd : UpdateSyncCursorCommand}
    (hpc : d.proc i = .advancing cmd ceiling cursor)
    : mgr.WithinCeiling c ms i cmd := by
  have hout : ¬ PastCeiling cmd ceiling (c.proc i) := by
    rcases h.proc i with hi | ⟨cmd', hi⟩
    all_goals
      rw [hi]
      exact id
  have hin : PastCeiling cmd ceiling (d.proc i) := by
    rw [hpc]
    exact ⟨rfl, rfl⟩
  obtain ⟨pre, x, post, e, p', w', hms, he, hnext, hbefore, hafter⟩ :=
    exists_entry hout hrun hin
  obtain ⟨hlocked, hle, counters, hceil⟩ := (next_moves mgr hnext).entry hbefore hafter
  exact ⟨pre, x, post, e, ceiling, counters, hms, he, hlocked, hceil, hle⟩

theorem Fresh.step_safe_iff {x : CursorInput} {d' : Config ι CursorPc (CursorWorld ι)}
    (hmove : move mgr.next d (i, x) = some d') :
    StepSafe (d'.proc i) d.shared d'.shared ↔ Unsaturated (d.proc i) x d.shared := by
  have hd := h.annotated hrun
  obtain ⟨p', w', hnext, rfl⟩ := move_eq_some hmove
  show StepSafe (update d.proc i p' i) d.shared w' ↔ _
  rw [update_self]
  exact (next_moves mgr hnext).safe_iff (hd.2 i) hd.1

end

variable (mgr) in
/-- **Concurrent cursor updates are safe exactly as long as no version overflows.** In every
interleaving of calls with each other and with the rest of the service: no cursor moves back, a
success raises the version by one, honours the expected version and stays within the ceiling, and a
rejected call changes nothing; IF AND ONLY IF no successful update finds the version at `2³¹ − 1`. -/
theorem update_cursor_safe_iff (h : Fresh c) (ms : List (ι × CursorInput)) :
    mgr.Safe c ms ↔ mgr.NeverSaturated c ms := by
  constructor
  · intro hsafe pre i x post d hms hrun
    cases hpc : d.proc i with
    | advancing cmd ceiling cursor =>
      -- a write is never blocked, so the step is there to be safe
      obtain ⟨d', hmove⟩ : ∃ d', move mgr.next d (i, x) = some d' := by
        simp [move, hpc, next]
      rw [← hpc]
      exact (h.step_safe_iff hrun hmove).mp (hsafe pre i x post d d' hms hrun hmove).1
    | _ => trivial
  intro hunsat pre i x post d d' hms hrun hmove
  refine ⟨(h.step_safe_iff hrun hmove).mpr (hunsat pre i x post d hms hrun), ?_⟩
  intro cmd o hpc ho
  obtain ⟨p', w', hnext, rfl⟩ := move_eq_some hmove
  have hret : p' = .returned cmd o := by simpa using hpc
  obtain ⟨ceiling, cursor, hadv⟩ := (next_moves mgr hnext).advancing_of_success hret ho
  exact h.withinCeiling hrun hadv

end

/-! ## A call that runs alone

The moves of one call with nobody moving in between are `Store.updateCursor`, which the read side
uses. -/

theorem updateCursor_eq (s : Store) (c : Counters) (cmd : UpdateSyncCursorCommand)
    (now : TimePoint) :
    s.updateCursor c cmd.deviceId cmd.conversationId cmd.newSequence cmd.syncVersion now =
      match cmd.invalid with
      | some o => some (o, s, c)
      | none => (s.sequenceCeiling c cmd.conversationId now).map fun (ceiling, c') =>
        match cmd.beyond ceiling with
        | some o => (o, s, c')
        | none =>
          let cursor := s.getCursor cmd.deviceId cmd.conversationId now
          match cmd.refusal cursor with
          | some o => (o, s, c')
          | none => (.ofWrite (cursor.advanceTo cmd.newSequence now) .ok,
              s.upsertSyncCursor (cursor.advanceTo cmd.newSequence now), c') := by
  unfold updateCursor invalid
  by_cases hdev : cmd.deviceId = ""
  · simp [hdev]
  by_cases hnil : cmd.conversationId.isNil = true
  · simp [hdev, hnil]
  simp only [hdev, hnil, if_false]
  show (s.sequenceCeiling c cmd.conversationId now).bind _ = _
  cases s.sequenceCeiling c cmd.conversationId now with
  | none => rfl
  | some r =>
    obtain ⟨ceiling, c'⟩ := r
    show ite (ceiling < cmd.newSequence) _ _ = _
    simp only [Option.map_some, beyond, refusal]
    split_ifs <;> first | rfl | contradiction

section
variable [DecidableEq ι] {mgr} {c : Config ι CursorPc (CursorWorld ι)} {i : ι}
  {cmd : UpdateSyncCursorCommand} {x : CursorInput}

theorem run_to_advancing {counters : Counters} (hpc : c.proc i = .called cmd)
    (hvalid : cmd.invalid = none)
    (hfree : c.shared.stripes (mgr.stripe cmd.deviceId cmd.conversationId) = none)
    (hok : x.outcome = .ok)
    (hceil : c.shared.store.sequenceCeiling c.shared.counters cmd.conversationId x.now =
      some (ceiling, counters)) (hwithin : cmd.beyond ceiling = none)
    (hpass : cmd.refusal (c.shared.store.getCursor cmd.deviceId cmd.conversationId x.now) = none) :
    run mgr.next c (List.replicate 3 (i, x)) = some
      { proc := update c.proc i (.advancing cmd ceiling
          (c.shared.store.getCursor cmd.deviceId cmd.conversationId x.now))
        shared := { store := c.shared.store, counters := counters
                    stripes := update c.shared.stripes
                      (mgr.stripe cmd.deviceId cmd.conversationId) (some i) } } := by
  simp [List.replicate, run, move, next, hpc, hvalid, hfree, hok,
    CallOutcome.thrown, hceil, hwithin, hpass]

end

end SyncCursorManager

/-! ## The version overflows

One device repeats an update. Nothing in `update_cursor` asks for progress, so each call succeeds and
raises the version, until there is no next 32-bit integer. -/

namespace CursorSample

open SyncCursorManager

def manager : SyncCursorManager := ⟨fun _ => 0⟩
def command : UpdateSyncCursorCommand := ⟨"laptop", ⟨7⟩, 0, 0⟩
def input : CursorInput := ⟨Sample.january, .ok, empty, fun _ => none⟩

def start : Config Nat CursorPc (CursorWorld Nat) where
  proc := fun _ => .called command
  shared := ⟨empty, fun _ => none, fun _ => none⟩

theorem start_fresh : Fresh start where
  proc := fun _ => .inr ⟨command, rfl⟩
  stored :=
    { keyed := fun _ _ _ h => absurd h (by simp [start, getSyncCursor, empty])
      version := fun _ _ _ h => absurd h (by simp [start, getSyncCursor, empty]) }

/-- Calls `0` to `n - 1` have come and gone. -/
structure After (n : Nat) (c : Config Nat CursorPc (CursorWorld Nat)) : Prop where
  waiting : ∀ i, n ≤ i → c.proc i = .called command
  free : ∀ k, c.shared.stripes k = none
  messages : c.shared.store.messages = []
  counters : ∀ bucket, (c.shared.counters (⟨7⟩, bucket)).getD 0 = 0
  stored : c.shared.store.CursorsStored
  synced : c.shared.store.lastSynced "laptop" ⟨7⟩ = 0

theorem start_after : After 0 start where
  waiting := fun _ _ => rfl
  free := fun _ => rfl
  messages := rfl
  counters := fun _ => rfl
  stored := start_fresh.stored
  synced := rfl

section
variable {n : Nat} {c : Config Nat CursorPc (CursorWorld Nat)}

theorem After.ceiling (h : After n c) : ∃ counters,
    c.shared.store.sequenceCeiling c.shared.counters ⟨7⟩ Sample.january = some (0, counters) ∧
      ∀ bucket, (counters (⟨7⟩, bucket)).getD 0 = 0 := by
  have hlast : ∀ bucket, c.shared.store.getLastSequence ⟨7⟩ bucket = 0 := by
    intro bucket
    simp [getLastSequence, partition, h.messages]
  have hload : ∀ bucket, c.shared.counters.load c.shared.store ⟨7⟩ bucket = 0 := by
    intro bucket
    rw [Counters.load, hlast]
    exact h.counters bucket
  have hmonth : MessageBucket.fromTimePoint Sample.january =
      some ⟨2026, 1, by decide, by decide⟩ := by decide
  have hbefore : MessageBucket.previousBucket ⟨2026, 1, by decide, by decide⟩ =
      some ⟨2025, 12, by decide, by decide⟩ := by decide
  refine ⟨update c.shared.counters (⟨7⟩, ⟨2026, 1, by decide, by decide⟩) (some 0), ?_, ?_⟩
  · simp [sequenceCeiling, hmonth, Counters.peekSequence, hload, ceilingFrom, hlast, hbefore]
  intro bucket
  rw [update_apply]
  split
  · rfl
  · exact h.counters bucket

theorem After.to_advancing (h : After n c) : ∃ d ceiling t,
    run manager.next c (List.replicate 3 (n, input)) = some d ∧
      d.proc n = .advancing command ceiling (c.shared.store.getCursor "laptop" ⟨7⟩ t) ∧
      (∀ i, i ≠ n → d.proc i = c.proc i) ∧ d.shared.store = c.shared.store ∧
      (∀ bucket, (d.shared.counters (⟨7⟩, bucket)).getD 0 = 0) ∧
      ∀ k, k ≠ manager.stripe command.deviceId command.conversationId →
        d.shared.stripes k = none := by
  obtain ⟨counters, hceil, hcounters⟩ := h.ceiling
  have hpass : command.refusal (c.shared.store.getCursor "laptop" ⟨7⟩ input.now) = none := by
    have hlow : (c.shared.store.getCursor "laptop" ⟨7⟩ input.now).lastSyncedSequence =
        c.shared.store.lastSynced "laptop" ⟨7⟩ :=
      getCursor_lastSyncedSequence _ (by decide) (by decide) _
    rw [h.synced] at hlow
    simp [refusal, DeviceSyncCursor.canAdvanceTo, hlow, command]
  refine ⟨_, 0, input.now, run_to_advancing (h.waiting n le_rfl) (by decide) (h.free _) rfl hceil
    (by decide) hpass, update_self .., fun i hi => update_of_ne hi .., rfl,
    hcounters, fun k hk => ?_⟩
  show update c.shared.stripes _ _ k = none
  rw [update_of_ne hk]
  exact h.free k

theorem After.write (h : After n c) : ∃ d d' ceiling cursor o,
    run manager.next c (List.replicate 3 (n, input)) = some d ∧
      d.proc n = .advancing command ceiling cursor ∧ d.shared.store = c.shared.store ∧
      move manager.next d (n, input) = some d' ∧
      d'.proc n = .returned command o ∧ o.status = .success ∧ After (n + 1) d' ∧
      d'.shared.store.currentVersion "laptop" ⟨7⟩ =
        wrapInt32 (c.shared.store.currentVersion "laptop" ⟨7⟩ + 1) := by
  obtain ⟨d, ceiling, t, hrun, hpc, hothers, hstore, hcounters, hstripes⟩ := h.to_advancing
  have hvalid : command.invalid = none := by decide
  have hmove : move manager.next d (n, input) = some
      { proc := update d.proc n (.returned command (.ofWrite ((c.shared.store.getCursor
          "laptop" ⟨7⟩ t).advanceTo 0 Sample.january) .ok))
        shared := manager.release command { d.shared with
          store := c.shared.store.upsertSyncCursor ((c.shared.store.getCursor "laptop" ⟨7⟩
            t).advanceTo 0 Sample.january) } } := by
    simp only [move, hpc, next, hstore]
    rfl
  refine ⟨d, _, ceiling, _, _, hrun, hpc, hstore, hmove, update_self .., rfl,
    ⟨?_, ?_, h.messages, hcounters, h.stored.upsert _ _ _, ?_⟩, ?_⟩
  · intro i hi
    show update d.proc n _ i = _
    rw [update_of_ne (by omega), hothers i (by omega)]
    exact h.waiting i (by omega)
  · intro k
    show update d.shared.stripes _ _ k = none
    rw [update_apply]
    split
    · rfl
    · exact hstripes k (by assumption)
  · exact h.stored.lastSynced_advanced hvalid t Sample.january
  · exact h.stored.currentVersion_advanced hvalid t Sample.january

/-- As long as there is a next version, the next call leaves the table one version further. -/
theorem After.succ (h : After n c) (hversion : c.shared.store.currentVersion "laptop" ⟨7⟩ = n + 1)
    (hn : n + 1 < 2 ^ 31 - 1) : ∃ c',
    run manager.next c (List.replicate 4 (n, input)) = some c' ∧
      After (n + 1) c' ∧ c'.shared.store.currentVersion "laptop" ⟨7⟩ = (n + 1 : Nat) + 1 := by
  obtain ⟨d, d', ceiling, cursor, o, hrun, -, -, hmove, -, -, hafter, hnext⟩ := h.write
  have hlast : run manager.next d [(n, input)] = some d' := by
    rw [run, hmove]
    rfl
  refine ⟨d', run_append hrun hlast, hafter, ?_⟩
  rw [hnext, hversion, (wrapInt32_succ_eq_iff (by omega) (by omega)).mpr (by omega)]
  push_cast
  rfl

end

theorem exists_after (n : Nat) (hn : n < 2 ^ 31 - 1) : ∃ ms c,
    run manager.next start ms = some c ∧ After n c ∧
      c.shared.store.currentVersion "laptop" ⟨7⟩ = n + 1 := by
  induction n with
  | zero => exact ⟨[], start, rfl, start_after, rfl⟩
  | succ n ih =>
    obtain ⟨ms, c, hrun, hafter, hversion⟩ := ih (by omega)
    obtain ⟨c', hstep, hafter', hversion'⟩ := hafter.succ hversion (by omega)
    exact ⟨_, c', run_append hrun hstep, hafter', hversion'⟩

/-- **After `2³¹ − 2` updates of one cursor the next one succeeds, and takes the version from
`2³¹ − 1` to `−2³¹`.** -/
theorem sync_version_overflows : ∃ ms d d' i o, run manager.next start ms = some d ∧
      move manager.next d (i, input) = some d' ∧
      d'.proc i = .returned command o ∧ o.status = .success ∧
      d.shared.store.currentVersion "laptop" ⟨7⟩ = 2 ^ 31 - 1 ∧
      d'.shared.store.currentVersion "laptop" ⟨7⟩ = -2 ^ 31 ∧
      ¬ manager.Safe start (ms ++ [(i, input)]) := by
  obtain ⟨ms, c, hrun, hafter, hversion⟩ := exists_after (2 ^ 31 - 2) (by omega)
  obtain ⟨d, d', ceiling, cursor, o, hrun', -, hstore, hmove, hpc', ho, -, hnext⟩ := hafter.write
  have hreached := run_append hrun hrun'
  have hbefore : d.shared.store.currentVersion "laptop" ⟨7⟩ = 2 ^ 31 - 1 := by
    rw [hstore, hversion]
    rfl
  have hwrapped : d'.shared.store.currentVersion "laptop" ⟨7⟩ = -2 ^ 31 := by
    rw [hnext, ← hstore, hbefore]
    rfl
  refine ⟨_, d, d', _, o, hreached, hmove, hpc', ho, hbefore, hwrapped, ?_⟩
  intro hsafe
  have hgrow := (hsafe _ _ _ [] d d' rfl hreached hmove).1.counted command o hpc' ho
  rw [show d'.shared.store.currentVersion command.deviceId command.conversationId = _ from hwrapped,
    show d.shared.store.currentVersion command.deviceId command.conversationId = _ from hbefore]
    at hgrow
  omega

/-- One call after another, from the lock to the answer: the condition is met, the run is safe. -/
theorem update_cursor_safe_one_call :
    Fresh start ∧ manager.Safe start (List.replicate 4 (0, input)) := by
  refine ⟨start_fresh, (manager.update_cursor_safe_iff start_fresh _).mpr ?_⟩
  refine forall_split_cons trivial rfl (forall_split_cons trivial rfl (forall_split_cons trivial rfl
    (forall_split_cons ?_ rfl (by simp))))
  show CallOutcome.ok = .ok → (1 : Int) ≠ 2 ^ 31 - 1
  decide

end CursorSample

end SecureCloud.Messaging
