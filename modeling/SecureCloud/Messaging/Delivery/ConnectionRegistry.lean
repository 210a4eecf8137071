import SecureCloud.Lib.Machine
import SecureCloud.Lib.Table
import SecureCloud.Messaging.Domain

/-
# Messaging.Delivery.ConnectionRegistry — who is connected

`DeviceConnectionRegistry` keeps the channel of each connected device, and for each user the list of
their devices. Every call is one critical section. A device that is registered again is SUPERSEDED: the
limits are not looked at, since there is no new connection. There may be a new OWNER, though, who then has
one device more than before.
-/

namespace SecureCloud.Messaging.Delivery

open Lib Lib.Table Function

/-- A limit of 0 is none. -/
structure ConnectionCapacityConfig where
  maxDevicesPerUser : Nat := 10
  maxGlobalConnections : Nat := 100000
  defaultLeaseTimeout : Int := 60000

structure ChannelEntry where
  deviceId : DeviceId
  userId : UserId
  lastActiveAt : TimePoint
deriving DecidableEq

/-- A user without devices has no list in the source, and an empty one here. -/
structure DeviceConnectionRegistry where
  channels : Keyed ChannelEntry.deviceId := .empty
  userToDevices : UserId → List DeviceId := fun _ => []

inductive RegistryCall
  | register (device : DeviceId) (user : UserId) (now : TimePoint)
  | unregister (device : DeviceId)
  | evictStale (inactive : DeviceId → Bool) (maxIdle : Int) (now : TimePoint)

namespace DeviceConnectionRegistry

variable (cfg : ConnectionCapacityConfig) (r : DeviceConnectionRegistry)

def unlisted (user : UserId) (device : DeviceId) : UserId → List DeviceId :=
  update r.userToDevices user ((r.userToDevices user).filter (· ≠ device))

def enter (index : UserId → List DeviceId) (e : ChannelEntry) : DeviceConnectionRegistry where
  channels := r.channels.write e
  userToDevices := if e.deviceId ∈ index e.userId then index
    else update index e.userId (index e.userId ++ [e.deviceId])

def registerChannel (e : ChannelEntry) : Except String DeviceConnectionRegistry :=
  match r.channels.find e.deviceId with
  | some old =>
    .ok (r.enter (if old.userId ≠ e.userId then r.unlisted old.userId e.deviceId else r.userToDevices) e)
  | none =>
    if 0 < cfg.maxGlobalConnections ∧ cfg.maxGlobalConnections ≤ r.channels.rows.length then
      .error ("Global connection capacity reached: maximum " ++ toString cfg.maxGlobalConnections ++
        " concurrent connections")
    else if 0 < cfg.maxDevicesPerUser ∧ cfg.maxDevicesPerUser ≤ (r.userToDevices e.userId).length then
      .error ("User device limit exceeded for user " ++ e.userId ++ ": maximum " ++
        toString cfg.maxDevicesPerUser ++ " active devices")
    else .ok (r.enter r.userToDevices e)

def remove (e : ChannelEntry) : DeviceConnectionRegistry where
  channels := r.channels.restrict (·.deviceId ≠ e.deviceId)
  userToDevices := r.unlisted e.userId e.deviceId

def unregisterChannel (device : DeviceId) : DeviceConnectionRegistry :=
  ((r.channels.find device).map r.remove).getD r

def staleChannels (inactive : DeviceId → Bool) (maxIdle : Int) (now : TimePoint) : List ChannelEntry :=
  let limit := if 0 < maxIdle then maxIdle else cfg.defaultLeaseTimeout
  r.channels.rows.filter fun e => inactive e.deviceId || (0 < limit && limit < now - e.lastActiveAt)

def evictStaleChannels (inactive : DeviceId → Bool) (maxIdle : Int) (now : TimePoint) :
    DeviceConnectionRegistry :=
  (r.staleChannels cfg inactive maxIdle now).foldl remove r

def step (r : DeviceConnectionRegistry) : RegistryCall → Option DeviceConnectionRegistry
  | .register device user now => some ((r.registerChannel cfg ⟨device, user, now⟩).toOption.getD r)
  | .unregister device => some (r.unregisterChannel device)
  | .evictStale inactive maxIdle now => some (r.evictStaleChannels cfg inactive maxIdle now)

/-! ## The index -/

/-- The index is the inverse of the channels. -/
structure Indexed : Prop where
  inverse : ∀ user device, device ∈ r.userToDevices user ↔
    ∃ e, r.channels.find device = some e ∧ e.userId = user
  nodup : ∀ user, (r.userToDevices user).Nodup

def WithinUserLimit : Prop :=
  0 < cfg.maxDevicesPerUser → ∀ user, (r.userToDevices user).length ≤ cfg.maxDevicesPerUser

def WithinGlobalLimit : Prop :=
  0 < cfg.maxGlobalConnections → r.channels.rows.length ≤ cfg.maxGlobalConnections

/-- Room for the new owner of a device that is superseded. -/
def HasRoom (r : DeviceConnectionRegistry) : RegistryCall → Prop
  | .register device user _ => ∀ old, r.channels.find device = some old → old.userId ≠ user →
      (r.userToDevices user).length < cfg.maxDevicesPerUser
  | _ => True

variable {cfg r} {e : ChannelEntry}

theorem mem_unlisted {user u : UserId} {device d : DeviceId} :
    d ∈ r.unlisted user device u ↔ d ∈ r.userToDevices u ∧ ¬ (u = user ∧ d = device) := by
  unfold unlisted
  by_cases hu : u = user
  · subst hu
    simp
  · simp [hu]

theorem unlisted_sublist (user u : UserId) (device : DeviceId) :
    (r.unlisted user device u).Sublist (r.userToDevices u) := by
  unfold unlisted
  by_cases hu : u = user
  · subst hu
    simp
  · simp [hu]

open Keyed

theorem find_remove (d : DeviceId) :
    (r.remove e).channels.find d = if d = e.deviceId then none else r.channels.find d := by
  rw [remove, find_restrict]
  cases hd : r.channels.find d with
  | none => simp
  | some x =>
    have hkey : x.deviceId = d := key_of_find hd
    by_cases heq : d = e.deviceId <;> simp [Option.filter, hkey, heq]

theorem Indexed.remove (h : r.Indexed)
    (howner : ∀ x, r.channels.find e.deviceId = some x → x.userId = e.userId) : (r.remove e).Indexed := by
  refine ⟨fun user d => ?_, fun user => (h.nodup user).sublist (unlisted_sublist _ _ _)⟩
  rw [find_remove]
  show d ∈ r.unlisted _ _ _ ↔ _
  rw [mem_unlisted, h.inverse]
  by_cases hd : d = e.deviceId
  · subst hd
    simp only [if_true, reduceCtorEq, false_and, exists_false, iff_false, and_true, not_and, not_not]
    rintro ⟨x, hx, rfl⟩
    exact howner x hx
  · simp [hd]

theorem userToDevices_enter (index : UserId → List DeviceId) (user : UserId) :
    (r.enter index e).userToDevices user = index user ++
      if user = e.userId ∧ e.deviceId ∉ index user then [e.deviceId] else [] := by
  simp only [enter]
  by_cases hu : user = e.userId
  · subst hu
    split <;> simp_all
  · split <;> simp [hu]

theorem Indexed.enter {index : UserId → List DeviceId} (hnodup : ∀ user, (index user).Nodup)
    (hother : ∀ user d, d ≠ e.deviceId →
      (d ∈ index user ↔ ∃ x, r.channels.find d = some x ∧ x.userId = user))
    (hown : ∀ user, e.deviceId ∈ index user → user = e.userId) : (r.enter index e).Indexed := by
  refine ⟨fun user d => ?_, fun user => ?_⟩
  · have hfind : (r.enter index e).channels.find d = if d = e.deviceId then some e
        else r.channels.find d := find_write _ _ _
    rw [userToDevices_enter, hfind, List.mem_append]
    by_cases hd : d = e.deviceId
    · subst hd
      simp only [if_true, Option.some.injEq, exists_eq_left']
      constructor
      · rintro (hmem | hmem)
        · exact (hown user hmem).symm
        split_ifs at hmem with hnew
        · exact hnew.1.symm
        · cases hmem
      · rintro rfl
        by_cases hmem : e.deviceId ∈ index e.userId
        · exact .inl hmem
        · simp [hmem]
    · rw [if_neg hd, ← hother user d hd]
      split <;> simp [hd]
  rw [userToDevices_enter]
  split
  next hnew =>
    rw [List.nodup_append_comm]
    exact List.nodup_cons.mpr ⟨hnew.2, hnodup user⟩
  · simpa using hnodup user

variable {r' : DeviceConnectionRegistry}

theorem registerChannel_eq_ok (h : r.registerChannel cfg e = .ok r') :
    (∃ old, r.channels.find e.deviceId = some old ∧ r' = r.enter
      (if old.userId ≠ e.userId then r.unlisted old.userId e.deviceId else r.userToDevices) e) ∨
    (r.channels.find e.deviceId = none ∧ r' = r.enter r.userToDevices e ∧
      (0 < cfg.maxGlobalConnections → r.channels.rows.length < cfg.maxGlobalConnections) ∧
      (0 < cfg.maxDevicesPerUser → (r.userToDevices e.userId).length < cfg.maxDevicesPerUser)) := by
  unfold registerChannel at h
  split at h
  next old hold =>
    exact .inl ⟨old, hold, (Except.ok.inj h).symm⟩
  rename_i hnone
  split_ifs at h with hglobal huser
  refine .inr ⟨hnone, (Except.ok.inj h).symm, fun hpos => ?_, fun hpos => ?_⟩
  · exact Nat.not_le.mp fun hle => hglobal ⟨hpos, hle⟩
  · exact Nat.not_le.mp fun hle => huser ⟨hpos, hle⟩

theorem Indexed.registerChannel (h : r.Indexed)
    (hok : r.registerChannel cfg e = .ok r') : r'.Indexed := by
  have hlisted : ∀ user, e.deviceId ∈ r.userToDevices user → ∀ old, r.channels.find e.deviceId = some old →
      user = old.userId := by
    intro user hmem old hold
    obtain ⟨x, hx, rfl⟩ := (h.inverse user _).mp hmem
    rw [hold] at hx
    rw [Option.some.inj hx]
  rcases registerChannel_eq_ok hok with ⟨old, hold, rfl⟩ | ⟨hnone, rfl, -, -⟩
  · split
    · refine .enter (fun user => (h.nodup user).sublist (unlisted_sublist _ _ _)) ?_ ?_
      · intro user d hd
        rw [mem_unlisted, h.inverse]
        simp [hd]
      · intro user hmem
        obtain ⟨hmem, hnot⟩ := mem_unlisted.mp hmem
        exact absurd ⟨hlisted user hmem old hold, rfl⟩ hnot
    next hsame =>
      exact .enter h.nodup (fun user d _ => h.inverse user d)
        fun user hmem => (hlisted user hmem old hold).trans (not_not.mp hsame)
  refine .enter h.nodup (fun user d _ => h.inverse user d) fun user hmem => ?_
  obtain ⟨x, hx, -⟩ := (h.inverse user _).mp hmem
  rw [hnone] at hx
  cases hx

/-! ## The limits -/

structure Fewer (r' r : DeviceConnectionRegistry) : Prop where
  lists : ∀ user, (r'.userToDevices user).length ≤ (r.userToDevices user).length
  channels : r'.channels.rows.length ≤ r.channels.rows.length

theorem fewer_remove (r : DeviceConnectionRegistry) (e : ChannelEntry) : (r.remove e).Fewer r :=
  ⟨fun _ => (unlisted_sublist _ _ _).length_le, List.length_filter_le _ _⟩

theorem Indexed.foldl_remove {es : List ChannelEntry} (h : r.Indexed)
    (howner : ∀ e ∈ es, ∀ x, r.channels.find e.deviceId = some x → x.userId = e.userId) :
    (es.foldl DeviceConnectionRegistry.remove r).Indexed ∧
      (es.foldl DeviceConnectionRegistry.remove r).Fewer r := by
  induction es generalizing r with
  | nil => exact ⟨h, fun _ => Nat.le_refl _, Nat.le_refl _⟩
  | cons e es ih =>
    obtain ⟨hindexed, hfewer⟩ := ih (h.remove (howner e List.mem_cons_self)) fun e' he' x hx => by
      rw [find_remove] at hx
      split at hx
      · cases hx
      · exact howner e' (List.mem_cons_of_mem _ he') x hx
    have hone := fewer_remove r e
    exact ⟨hindexed, fun user => (hfewer.lists user).trans (hone.lists user),
      hfewer.channels.trans hone.channels⟩

theorem length_rows_enter (index : UserId → List DeviceId) :
    (r.enter index e).channels.rows.length ≤ r.channels.rows.length +
      if r.channels.find e.deviceId = none then 1 else 0 := by
  simp only [enter, write, upsert, List.length_cons]
  split
  · exact Nat.succ_le_succ (List.length_filter_le _ _)
  rename_i hsome
  obtain ⟨x, hx⟩ := Option.ne_none_iff_exists'.mp hsome
  exact List.length_filter_lt_length_iff_exists.mpr
    ⟨x, List.mem_of_find?_eq_some hx, by simp [key_of_find hx]⟩

/-- One call: the index stays the inverse, and the limits hold as far as the call minds them. -/
theorem step_keeps {call : RegistryCall} (h : r.Indexed)
    (hstep : r.step cfg call = some r') : r'.Indexed ∧
      (r.WithinGlobalLimit cfg → r'.WithinGlobalLimit cfg) ∧
      (HasRoom cfg r call → r.WithinUserLimit cfg → r'.WithinUserLimit cfg) := by
  have hless : ∀ {r' : DeviceConnectionRegistry}, r'.Indexed → r'.Fewer r → r'.Indexed ∧
      (r.WithinGlobalLimit cfg → r'.WithinGlobalLimit cfg) ∧
      (HasRoom cfg r call → r.WithinUserLimit cfg → r'.WithinUserLimit cfg) :=
    fun hindexed hfewer => ⟨hindexed, fun hglobal hpos => hfewer.channels.trans (hglobal hpos),
      fun _ huser hpos user => (hfewer.lists user).trans (huser hpos user)⟩
  have hsame : r.Fewer r := ⟨fun _ => Nat.le_refl _, Nat.le_refl _⟩
  cases call with
  | unregister device =>
    cases hstep
    unfold unregisterChannel
    cases hfind : r.channels.find device with
    | none => exact hless h hsame
    | some e =>
      refine hless (h.remove fun x hx => ?_) (fewer_remove r e)
      rw [show e.deviceId = device from key_of_find hfind, hfind] at hx
      rw [Option.some.inj hx]
  | evictStale inactive maxIdle now =>
    cases hstep
    have howner : ∀ e ∈ r.staleChannels cfg inactive maxIdle now, ∀ x,
        r.channels.find e.deviceId = some x → x.userId = e.userId := by
      intro e he x hx
      rw [mem_rows_iff.mp (List.mem_filter.mp he).1] at hx
      rw [Option.some.inj hx]
    exact hless (h.foldl_remove howner).1 (h.foldl_remove howner).2
  | register device user now =>
    cases hstep
    cases hok : r.registerChannel cfg ⟨device, user, now⟩ with
    | error what => exact hless h hsame
    | ok r' =>
      refine ⟨h.registerChannel hok, fun hglobal hpos => ?_, fun hroom huser hpos u => ?_⟩
      · rcases registerChannel_eq_ok hok with ⟨old, hold, rfl⟩ | ⟨hnone, rfl, hlt, -⟩
        · exact (length_rows_enter _).trans (by simpa [hold] using hglobal hpos)
        · exact (length_rows_enter _).trans (by simpa [hnone] using Nat.succ_le_of_lt (hlt hpos))
      rcases registerChannel_eq_ok hok with ⟨old, hold, rfl⟩ | ⟨-, rfl, -, hlt⟩
      · show ((r.enter _ _).userToDevices u).length ≤ _
        rw [userToDevices_enter, List.length_append]
        by_cases howner : old.userId = user
        · have hlisted : device ∈ r.userToDevices user := (h.inverse _ _).mpr ⟨old, hold, howner⟩
          rw [if_neg (not_not.mpr howner), if_neg fun hu => hu.2 (hu.1 ▸ hlisted)]
          exact huser hpos u
        have hroom := hroom old hold howner
        rw [if_pos howner]
        have hle := (r.unlisted_sublist old.userId u device).length_le
        split
        next hu =>
          rw [hu.1] at hle ⊢
          exact (Nat.succ_le_succ hle).trans hroom
        · exact hle.trans (huser hpos u)
      show ((r.enter _ _).userToDevices u).length ≤ _
      rw [userToDevices_enter, List.length_append]
      split
      next hu =>
        rw [hu.1]
        exact hlt hpos
      · exact huser hpos u

/-- **The registry after any calls**: the index is the inverse of the channels, lists no device twice,
and the global limit holds; so does each user's, if whoever takes over a connected device had room for
it. -/
theorem registry_indexed_and_limited {calls : List RegistryCall} {r : DeviceConnectionRegistry}
    (hrun : Machine.run (step cfg) {} calls = some r) :
    (∀ user device, device ∈ r.userToDevices user ↔
      ∃ e, r.channels.find device = some e ∧ e.userId = user) ∧
    (∀ user, (r.userToDevices user).Nodup) ∧ r.WithinGlobalLimit cfg ∧
    (Machine.Along (step cfg) (HasRoom cfg) {} calls → r.WithinUserLimit cfg) := by
  have hempty : Indexed {} := ⟨fun _ _ => by simp, fun _ => List.nodup_nil⟩
  have hlimit : WithinGlobalLimit cfg {} := fun _ => Nat.zero_le _
  obtain ⟨hindexed, hglobal⟩ := Machine.run_invariant
    (I := fun r => Indexed r ∧ r.WithinGlobalLimit cfg) (A := fun _ _ => True)
    (fun s call s' _ hs hstep => ⟨(step_keeps hs.1 hstep).1, (step_keeps hs.1 hstep).2.1 hs.2⟩)
    ⟨hempty, hlimit⟩ (Machine.along_of_forall (fun _ _ => trivial) _) hrun
  refine ⟨hindexed.inverse, hindexed.nodup, hglobal, fun hroom => ?_⟩
  refine (Machine.run_invariant (I := fun r => Indexed r ∧ r.WithinUserLimit cfg)
    (fun s call s' hroom hs hstep => ?_) ⟨hempty, fun _ _ => Nat.zero_le _⟩ hroom hrun).2
  obtain ⟨hindexed, -, huser⟩ := step_keeps hs.1 hstep
  exact ⟨hindexed, huser hroom hs.2⟩

def takenOver : List RegistryCall := [.register "tablet" "alice" 1, .register "tablet" "bob" 2]

theorem taken_over_within_limit :
    ∃ r, Machine.run (step { maxDevicesPerUser := 1 }) {} takenOver = some r ∧
      r.WithinUserLimit { maxDevicesPerUser := 1 } := by
  refine ⟨_, rfl, (@registry_indexed_and_limited _ takenOver _ rfl).2.2.2 ⟨nofun, fun _ hs => ?_⟩⟩
  cases hs
  exact ⟨fun _ _ _ => by decide, fun _ _ => trivial⟩

/-- **A device more than the limit.** -/
theorem taken_over_past_limit :
    ∃ r, Machine.run (step { maxDevicesPerUser := 1 }) {} (.register "phone" "bob" 0 :: takenOver) = some r ∧
      r.userToDevices "bob" = ["phone", "tablet"] :=
  ⟨_, rfl, by decide⟩

end DeviceConnectionRegistry

end SecureCloud.Messaging.Delivery
