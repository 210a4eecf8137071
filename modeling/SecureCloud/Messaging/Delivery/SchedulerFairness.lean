import SecureCloud.Messaging.Delivery.SchedulerQueues

/-
# Messaging.Delivery.SchedulerFairness — how long a device waits for its turn

A device at place `k` of the ring has `k` devices before it, and each yields at most one quantum of tasks
before it goes out of the ring or to its back. `turnsAhead` counts what they can still yield: their quanta,
less what the front has yielded already. A device that is not drained itself cannot be overtaken, since the
ring only grows at its back.
-/

namespace SecureCloud.Messaging.Delivery

open List

def Traffic.yields (traffic : Traffic) : Bool :=
  traffic.dequeued.any fun task => task.priority ≠ .emergency

def Traffic.yieldsOf (d : DeviceId) (traffic : Traffic) : Bool :=
  traffic.dequeued.any fun task => task.priority ≠ .emergency && task.recipientDeviceId = d

def SchedulerCall.spares (d : DeviceId) : SchedulerCall → Prop
  | drainDeviceQueue d' => d' ≠ d
  | purgeDeviceTasks d' => d' ≠ d
  | clear => False
  | _ => True

variable (cfg : SchedulerConfig)

/-- The quantum as it works: a device that has its turn yields at least one task. -/
def SchedulerConfig.quantum : Nat := max cfg.fairnessQuantaPerDevice 1

namespace Scheduler

/-- The tasks that can be yielded before the device has its turn. -/
def turnsAhead (d : DeviceId) (s : Scheduler) : Nat :=
  s.activeDeviceRing.idxOf d * cfg.quantum - s.currentDeviceQuantaConsumed

structure Waits (cfg : SchedulerConfig) (d : DeviceId) (s : Scheduler) : Prop where
  sound : s.Sound
  quanta : s.currentDeviceQuantaConsumed < cfg.quantum
  waits : s.queue d ≠ []

variable {cfg : SchedulerConfig} {s s' : Scheduler} {d : DeviceId}

theorem Turn.quanta {call : SchedulerCall} {traffic : Traffic}
    (h : s.currentDeviceQuantaConsumed < cfg.quantum) (hturn : Turn cfg s call traffic s') :
    s'.currentDeviceQuantaConsumed < cfg.quantum := by
  have hpos : 0 < cfg.quantum := Nat.lt_of_lt_of_le Nat.one_pos (Nat.le_max_right _ 1)
  have hle : cfg.fairnessQuantaPerDevice ≤ cfg.quantum := Nat.le_max_left _ 1
  cases hturn with
  | idle hsame => rwa [hsame.quanta]
  | emergency | join | rush => exact h
  | yield =>
    unfold yielded
    split
    · exact hpos
    dsimp only
    split
    · exact hpos
    · omega
  | drain | purge =>
    simp only [drainDeviceQueue]
    split
    · exact hpos
    · exact h
  | clear => exact hpos

theorem idxOf_filter_le {ring : List DeviceId} {d' : DeviceId} (h : d' ≠ d) :
    (ring.filter fun x => x ≠ d').idxOf d ≤ ring.idxOf d := by
  induction ring with
  | nil => exact Nat.le_refl _
  | cons x ring ih =>
    by_cases hx : x = d'
    · subst hx
      rw [filter_cons_of_neg (by simp), idxOf_cons_ne _ h]
      exact ih.trans (Nat.le_succ _)
    rw [filter_cons_of_pos (by simpa using hx)]
    by_cases hd : x = d
    · subst hd
      simp
    rw [idxOf_cons_ne _ hd, idxOf_cons_ne _ hd]
    exact Nat.succ_le_succ ih

theorem turnsAhead_drained {d' : DeviceId} (h : d' ≠ d)
    (hquanta : s.currentDeviceQuantaConsumed < cfg.quantum) :
    turnsAhead cfg d (s.drainDeviceQueue d').2 ≤ turnsAhead cfg d s := by
  cases hring : s.activeDeviceRing with
  | nil => simp [turnsAhead, drainDeviceQueue, hring]
  | cons x ring =>
    by_cases hx : x = d'
    · -- the front goes, and what it had yielded is forgotten
      subst hx
      have hle := Nat.mul_le_mul_right cfg.quantum (@idxOf_filter_le _ ring _ h)
      have hnext := Nat.succ_mul (ring.idxOf d) cfg.quantum
      simp only [turnsAhead, drainDeviceQueue, hring, head?_cons, if_true,
        idxOf_cons_ne _ h, filter_cons, ne_eq, not_true_eq_false, decide_false,
        Bool.false_eq_true, if_false] at hle ⊢
      omega
    have hle := Nat.mul_le_mul_right cfg.quantum (@idxOf_filter_le _ (x :: ring) _ h)
    simp only [turnsAhead, drainDeviceQueue, hring, head?_cons, Option.some.injEq, hx,
      if_false]
    omega

theorem turnsAhead_yielded {device : DeviceId} {ring : List DeviceId} {rest : List Task}
    (hring : s.activeDeviceRing = device :: ring) (h : device ≠ d) (hmem : d ∈ ring)
    (hquanta : s.currentDeviceQuantaConsumed < cfg.quantum) :
    turnsAhead cfg d (s.yielded cfg device ring rest) + 1 ≤ turnsAhead cfg d s := by
  have hnext := Nat.succ_mul (ring.idxOf d) cfg.quantum
  unfold turnsAhead
  rw [hring, idxOf_cons_ne _ h]
  unfold yielded
  split
  · dsimp only
    omega
  dsimp only
  split
  · rw [idxOf_append_of_mem hmem]
    omega
  rename_i hspare
  rw [idxOf_cons_ne _ h]
  have hle : s.currentDeviceQuantaConsumed + 1 < cfg.quantum :=
    Nat.lt_of_lt_of_le (Nat.not_le.mp hspare) (Nat.le_max_left _ 1)
  omega

open Traffic

/-- **One call**: the device is served, or it goes on waiting and every task that is yielded brings it
nearer. -/
theorem Turn.waits {call : SchedulerCall} {traffic : Traffic} (h : Waits cfg d s)
    (hspares : call.spares d) (hturn : Turn cfg s call traffic s') :
    traffic.yieldsOf d = true ∨ (Waits cfg d s' ∧
      turnsAhead cfg d s' + (if traffic.yields then 1 else 0) ≤ turnsAhead cfg d s) := by
  have hsound := hturn.sound h.sound
  have hquanta := hturn.quanta h.quanta
  have hmem : d ∈ s.activeDeviceRing := (h.sound.ring d).mpr ((h.sound.active d).mpr h.waits)
  cases hturn with
  | idle hsame =>
    refine .inr ⟨⟨hsound, hquanta, hsame.queue ▸ h.waits⟩, ?_⟩
    simp [turnsAhead, hsame.ring, hsame.quanta, yields]
  | emergency => exact .inr ⟨⟨hsound, hquanta, h.waits⟩, Nat.le_refl _⟩
  | @join _ task =>
    refine .inr ⟨⟨hsound, hquanta, ?_⟩, ?_⟩
    · by_cases hd : d = task.recipientDeviceId
      · rw [hd, queue_admitted]
        simp
      rw [(admitted_touches task).queue d hd]
      exact h.waits
    have hindex : (s.admitted task).activeDeviceRing.idxOf d = s.activeDeviceRing.idxOf d := by
      simp only [admitted]
      split
      · rfl
      · exact idxOf_append_of_mem hmem
    simp only [turnsAhead, hindex]
    exact Nat.le_refl _
  | @rush _ task rest hqueue =>
    have hclass := h.sound.emergencies task (hqueue ▸ mem_cons_self)
    exact .inr ⟨⟨hsound, hquanta, h.waits⟩, by simp [turnsAhead, yields, hclass]⟩
  | @yield _ device ring task rest hnone hring hqueue =>
    obtain ⟨hrecipient, hclass⟩ := h.sound.queued device task (hqueue ▸ mem_cons_self)
    by_cases hd : device = d
    · exact .inl (by simp [yieldsOf, hclass, hrecipient, hd])
    refine .inr ⟨⟨hsound, hquanta, ?_⟩, ?_⟩
    · rw [queue_yielded, if_neg (Ne.symm hd)]
      exact h.waits
    have hmem' : d ∈ ring := (mem_cons.mp (hring ▸ hmem)).resolve_left (Ne.symm hd)
    simpa [yields, hclass] using turnsAhead_yielded hring hd hmem' h.quanta
  | drain device | purge device =>
    refine .inr ⟨⟨hsound, hquanta, ?_⟩, by simpa [yields] using turnsAhead_drained hspares h.quanta⟩
    rw [queue_drained, if_neg (Ne.symm hspares)]
    exact h.waits
  | clear => exact absurd hspares not_false

end Scheduler

open Scheduler

theorem quanta_run (calls : List SchedulerCall) :
    (Ledger.run cfg {} calls).scheduler.currentDeviceQuantaConsumed < cfg.quantum := by
  refine (Ledger.run_invariant (I := fun c => c.scheduler.Sound ∧
    c.scheduler.currentDeviceQuantaConsumed < cfg.quantum) ?_
    ⟨sound_clear (s := {}), Nat.lt_of_lt_of_le Nat.one_pos (Nat.le_max_right _ 1)⟩).2
  intro c call _ traffic s h hcall
  have hturn := call_turn h.1 hcall
  exact ⟨hturn.sound h.1, hturn.quanta h.2⟩

/-- **Fairness.** From every state that calls can lead to, a device at place `k` of the ring has a task
handed out within `k` quanta and one more dequeue of that class, whatever is scheduled meanwhile and
whatever other devices are drained. -/
theorem device_served_within (cfg : SchedulerConfig) (before calls : List SchedulerCall) (d : DeviceId)
    (k : Nat) (hplace : (Ledger.run cfg {} before).scheduler.activeDeviceRing[k]? = some d)
    (hspares : ∀ call ∈ calls, call.spares d) (hyields : k * max cfg.fairnessQuantaPerDevice 1 + 1 ≤
      (Ledger.run cfg ⟨(Ledger.run cfg {} before).scheduler, []⟩ calls).log.countP Traffic.yields) :
    ∃ traffic ∈ (Ledger.run cfg ⟨(Ledger.run cfg {} before).scheduler, []⟩ calls).log,
      traffic.yieldsOf d = true := by
  have hsound := (Ledger.balanced_run cfg before).sound
  have hquanta := quanta_run cfg before
  generalize (Ledger.run cfg {} before).scheduler = s at *
  have hmem : d ∈ s.activeDeviceRing := mem_of_getElem? hplace
  have hstart : Scheduler.Waits cfg d s :=
    ⟨hsound, hquanta, (hsound.active d).mp ((hsound.ring d).mp hmem)⟩
  -- either the device has been served, or what was yielded so far was ahead of it
  have hrun := @Ledger.run_invariant cfg (fun c => (∃ traffic ∈ c.log, traffic.yieldsOf d = true) ∨
    (c.scheduler.Waits cfg d ∧
      c.scheduler.turnsAhead cfg d + c.log.countP Traffic.yields ≤ s.turnsAhead cfg d)) calls ?_
    ⟨s, []⟩ (.inr ⟨hstart, Nat.le_refl _⟩)
  · refine hrun.resolve_right fun ⟨_, hahead⟩ => ?_
    have hk : s.activeDeviceRing.idxOf d = k := by
      obtain ⟨hlt, hget⟩ := List.getElem?_eq_some_iff.mp hplace
      exact hget ▸ hsound.nodup.idxOf_getElem k hlt
    simp only [turnsAhead, hk, SchedulerConfig.quantum] at hahead
    omega
  rintro c call hcall traffic s' (⟨t, ht, hserved⟩ | ⟨hwaits, hahead⟩) hstep
  · exact .inl ⟨t, mem_append_left _ ht, hserved⟩
  rcases (call_turn hwaits.sound hstep).waits hwaits (hspares call hcall) with
    hserved | ⟨hwaits', hahead'⟩
  · exact .inl ⟨traffic, by simp, hserved⟩
  refine .inr ⟨hwaits', ?_⟩
  simp only [countP_append, countP_singleton]
  omega

/-- Two devices with a quantum of one: the second is served at the second dequeue. -/
theorem second_device_served : ∃ traffic ∈ (Ledger.run { fairnessQuantaPerDevice := 1 }
        ⟨(Ledger.run { fairnessQuantaPerDevice := 1 } {}
          [.schedule 0 (taskFor "a"), .schedule 0 (taskFor "b")]).scheduler, []⟩
        [.dequeue false, .schedule 0 (taskFor "a"), .dequeue false]).log,
      traffic.yieldsOf "b" = true :=
  device_served_within _ _ _ "b" 1 (by decide) (by simp [SchedulerCall.spares])
    (by decide)

end SecureCloud.Messaging.Delivery
