import SecureCloud.Lib.Lines
import SecureCloud.Messaging.Delivery.Scheduler

/-
# Messaging.Delivery.SchedulerQueues — the queues under any sequence of calls

What waits is in the emergency queue, the queues of the devices, the ring and the set of the devices that
have one, and the total. `Sound` says how they hang together, `Turn` ONCE what a call can do to them, and
everything else is read off it: that they stay together, that each line is first in, first out
(`Lib.Lines`), and what the capacities are worth.

A LINE is a device and a class: emergency tasks form one, normal and urgent ones together another.
-/

namespace SecureCloud.Messaging.Delivery

open Lib.Lines Lib.Machine List Option

/-! ## What waits -/

def Task.line (task : Task) : DeviceId × Bool :=
  (task.recipientDeviceId, decide (task.priority = .emergency))

namespace Scheduler

def queue (s : Scheduler) (device : DeviceId) : List Task := (s.perDeviceQueues device).getD []

def deviceDepth (s : Scheduler) : Nat := ∑ d ∈ s.activeDeviceSet, (s.queue d).length

def waiting (s : Scheduler) : DeviceId × Bool → List Task
  | (device, true) => s.emergencyQueue.filter fun task => task.recipientDeviceId = device
  | (device, false) => s.queue device

def allTasks (s : Scheduler) : List Task := s.emergencyQueue ++ s.activeDeviceRing.flatMap s.queue

/-- The structures agree. -/
structure Sound (s : Scheduler) : Prop where
  total : s.totalTasksCount = s.emergencyQueue.length + s.deviceDepth
  nodup : s.activeDeviceRing.Nodup
  ring : ∀ d, d ∈ s.activeDeviceRing ↔ d ∈ s.activeDeviceSet
  active : ∀ d, d ∈ s.activeDeviceSet ↔ s.queue d ≠ []
  emergencies : ∀ task ∈ s.emergencyQueue, task.priority = .emergency
  queued : ∀ d, ∀ task ∈ s.queue d, task.recipientDeviceId = d ∧ task.priority ≠ .emergency

/-! ## What a call can do -/

def admitted (task : Task) (s : Scheduler) : Scheduler :=
  let device := task.recipientDeviceId
  { s with
    perDeviceQueues := Function.update s.perDeviceQueues device (some (s.queue device ++ [task]))
    totalTasksCount := s.totalTasksCount + 1
    activeDeviceRing :=
      if device ∈ s.activeDeviceSet then s.activeDeviceRing else s.activeDeviceRing ++ [device]
    activeDeviceSet := insert device s.activeDeviceSet }

def yielded (cfg : SchedulerConfig) (device : DeviceId) (ring : List DeviceId) (rest : List Task)
    (s : Scheduler) : Scheduler :=
  if rest = [] then
    { s with
      perDeviceQueues := Function.update s.perDeviceQueues device none
      totalTasksCount := s.totalTasksCount - 1
      activeDeviceSet := s.activeDeviceSet.erase device
      activeDeviceRing := ring
      currentDeviceQuantaConsumed := 0 }
  else
    { s with
      perDeviceQueues := Function.update s.perDeviceQueues device (some rest)
      totalTasksCount := s.totalTasksCount - 1
      activeDeviceRing :=
        if cfg.fairnessQuantaPerDevice ≤ s.currentDeviceQuantaConsumed + 1 then ring ++ [device]
        else device :: ring
      currentDeviceQuantaConsumed :=
        if cfg.fairnessQuantaPerDevice ≤ s.currentDeviceQuantaConsumed + 1 then 0
        else s.currentDeviceQuantaConsumed + 1 }

structure Same (s s' : Scheduler) : Prop where
  total : s'.totalTasksCount = s.totalTasksCount
  emergency : s'.emergencyQueue = s.emergencyQueue
  queue : s'.queue = s.queue
  ring : s'.activeDeviceRing = s.activeDeviceRing
  active : s'.activeDeviceSet = s.activeDeviceSet
  quanta : s'.currentDeviceQuantaConsumed = s.currentDeviceQuantaConsumed

end Scheduler

structure Traffic where
  admitted : List Task := []
  dequeued : Option Task := none
  drained : List Task := []
  discarded : List Task := []

def Traffic.departed (traffic : Traffic) : List Task :=
  traffic.dequeued.toList ++ traffic.drained ++ traffic.discarded

inductive SchedulerCall
  | schedule (now : TimePoint) (task : Task)
  | dequeue (timedOut : Bool)
  | tryDequeue
  | drainDeviceQueue (device : DeviceId)
  | purgeDeviceTasks (device : DeviceId)
  | clear
  | shutdown

/-- A call, with what goes in and out; `none` while it waits. -/
def Scheduler.call (cfg : SchedulerConfig) (s : Scheduler) : SchedulerCall → Option (Traffic × Scheduler)
  | .schedule now task =>
    let r := s.schedule cfg now task
    some ({ admitted := if r.1 = .enqueued then [task] else [] }, r.2)
  | .dequeue timedOut => (s.dequeue cfg timedOut).map fun r => ({ dequeued := r.1 }, r.2)
  | .tryDequeue =>
    let r := s.tryDequeue cfg
    some ({ dequeued := r.1 }, r.2)
  | .drainDeviceQueue device =>
    let r := s.drainDeviceQueue device
    some ({ drained := r.1 }, r.2)
  | .purgeDeviceTasks device =>
    some ({ discarded := (s.drainDeviceQueue device).1 }, (s.purgeDeviceTasks device).2)
  | .clear => some ({ discarded := s.allTasks }, s.clear)
  | .shutdown => some ({}, s.shutDown)

namespace Scheduler

/-- What a call can do, and when. -/
inductive Turn (cfg : SchedulerConfig) (s : Scheduler) : SchedulerCall → Traffic → Scheduler → Prop
  | idle {call : SchedulerCall} {s' : Scheduler} (hsame : Same s s') : Turn cfg s call {} s'
  | emergency {now : TimePoint} {task : Task} (hclass : task.priority = .emergency)
      (hroom : s.totalTasksCount < cfg.maxGlobalQueuedTasks + cfg.emergencyQueueReservedSlots) :
      Turn cfg s (.schedule now task) { admitted := [task] }
        { s with emergencyQueue := s.emergencyQueue ++ [task], totalTasksCount := s.totalTasksCount + 1 }
  | join {now : TimePoint} {task : Task} (hclass : task.priority ≠ .emergency)
      (hroom : s.totalTasksCount < cfg.maxGlobalQueuedTasks)
      (hdevice : (s.queue task.recipientDeviceId).length < cfg.maxTasksPerDevice) :
      Turn cfg s (.schedule now task) { admitted := [task] } (s.admitted task)
  | rush {call : SchedulerCall} {task : Task} {rest : List Task} (hqueue : s.emergencyQueue = task :: rest) :
      Turn cfg s call { dequeued := some task }
        { s with emergencyQueue := rest, totalTasksCount := s.totalTasksCount - 1 }
  | yield {call : SchedulerCall} {device : DeviceId} {ring : List DeviceId} {task : Task} {rest : List Task}
      (hnone : s.emergencyQueue = []) (hring : s.activeDeviceRing = device :: ring)
      (hqueue : s.queue device = task :: rest) :
      Turn cfg s call { dequeued := some task } (s.yielded cfg device ring rest)
  | drain (device : DeviceId) :
      Turn cfg s (.drainDeviceQueue device) { drained := (s.drainDeviceQueue device).1 }
        (s.drainDeviceQueue device).2
  | purge (device : DeviceId) :
      Turn cfg s (.purgeDeviceTasks device) { discarded := (s.drainDeviceQueue device).1 }
        (s.drainDeviceQueue device).2
  | clear : Turn cfg s .clear { discarded := s.allTasks } s.clear

variable {cfg : SchedulerConfig} {s s' : Scheduler}

theorem Same.refl (s : Scheduler) : Same s s := ⟨rfl, rfl, rfl, rfl, rfl, rfl⟩

theorem schedule_turn (now : TimePoint) (task : Task) : Turn cfg s (.schedule now task)
      { admitted := if (s.schedule cfg now task).1 = .enqueued then [task] else [] }
      (s.schedule cfg now task).2 := by
  unfold schedule
  split
  · exact .idle (.refl s)
  split
  · exact .idle (.refl s)
  split
  · exact .idle (.refl s)
  split
  next hclass =>
    split
    · exact .idle (.refl s)
    · exact .emergency hclass (by have := Nat.mod_le (cfg.maxGlobalQueuedTasks +
        cfg.emergencyQueueReservedSlots) (2 ^ 64); omega)
  rename_i hclass
  split
  · exact .idle (.refl s)
  dsimp only
  split
  · -- the entry that was made holds what the device's queue held
    refine .idle ⟨rfl, rfl, ?_, rfl, rfl, rfl⟩
    funext d
    by_cases hd : d = task.recipientDeviceId
    · subst hd
      simp [queue]
    · simp [queue, hd]
  next hroom hdevice =>
    exact .join hclass (by omega) (Nat.not_le.mp hdevice)

theorem Sound.exists_front (h : Sound s) {device : DeviceId} {ring : List DeviceId}
    (hring : s.activeDeviceRing = device :: ring) : ∃ task rest, s.queue device = task :: rest := by
  have hmem : device ∈ s.activeDeviceRing := hring ▸ mem_cons_self
  exact exists_cons_of_ne_nil ((h.active device).mp ((h.ring device).mp hmem))

/-- The round robin only ever looks at the front: a device in the ring has a task. -/
theorem dequeueLocked_turn (h : Sound s) (call : SchedulerCall) :
    Turn cfg s call { dequeued := (s.dequeueLocked cfg).1 } (s.dequeueLocked cfg).2 := by
  unfold dequeueLocked
  split
  next task rest hqueue =>
    exact .rush hqueue
  rename_i hnone
  cases hring : s.activeDeviceRing with
  | nil => exact .idle ⟨rfl, rfl, rfl, hring.symm, rfl, rfl⟩
  | cons device ring =>
    obtain ⟨task, rest, hqueue⟩ := h.exists_front hring
    have hturn : Turn cfg s call _ _ := .yield hnone hring hqueue
    unfold dequeueRing
    rw [show (s.perDeviceQueues device).getD [] = task :: rest from hqueue]
    cases rest with
    | nil => exact hturn
    | cons more rest =>
      dsimp only
      unfold yielded at hturn
      rw [if_neg (cons_ne_nil more rest)] at hturn
      split
      next hspent =>
        rwa [if_pos hspent, if_pos hspent] at hturn
      rename_i hspare
      rwa [if_neg hspare, if_neg hspare] at hturn

/-- Whoever holds the mutex while something waits is handed a task. -/
theorem dequeueLocked_isSome (h : Sound s) (hpos : 0 < s.totalTasksCount) :
    ((s.dequeueLocked cfg).1).isSome = true := by
  unfold dequeueLocked
  split
  · rfl
  next hnone =>
    cases hring : s.activeDeviceRing with
    | nil =>
      have hset : s.activeDeviceSet = ∅ := by
        refine Finset.eq_empty_of_forall_notMem fun d hd => ?_
        have hmem := (h.ring d).mpr hd
        rw [hring] at hmem
        cases hmem
      rw [h.total, hnone, deviceDepth, hset] at hpos
      simp at hpos
    | cons device ring =>
      obtain ⟨task, rest, hqueue⟩ := h.exists_front hring
      unfold dequeueRing
      rw [show (s.perDeviceQueues device).getD [] = task :: rest from hqueue]
      cases rest with
      | nil => rfl
      | cons more rest =>
        dsimp only
        split <;> rfl

theorem Sound.total_pos (h : Sound s) {line : DeviceId × Bool} (hwaits : s.waiting line ≠ []) :
    0 < s.totalTasksCount := by
  rw [h.total]
  obtain ⟨d, b⟩ := line
  cases b with
  | true =>
    refine Nat.add_pos_left (length_pos_iff.mpr fun hnone => hwaits ?_) _
    simp [waiting, hnone]
  | false =>
    have hle := Finset.single_le_sum (f := fun d => (s.queue d).length) (fun _ _ => Nat.zero_le _)
      ((h.active d).mpr hwaits)
    have hpos : 0 < (s.queue d).length := length_pos_iff.mpr hwaits
    exact Nat.add_pos_right _ (hpos.trans_le hle)

variable {call : SchedulerCall} {traffic : Traffic} {d : DeviceId}

theorem call_turn (h : Sound s)
    (hcall : s.call cfg call = some (traffic, s')) : Turn cfg s call traffic s' := by
  cases call with
  | schedule now task =>
    cases hcall
    exact schedule_turn now task
  | dequeue timedOut =>
    obtain ⟨r, hr, heq⟩ := map_eq_some_iff.mp hcall
    cases heq
    unfold dequeue at hr
    split at hr
    · cases hr
      exact dequeueLocked_turn h _
    split at hr
    · cases hr
      exact .idle (.refl s)
    · exact nomatch hr
  | tryDequeue =>
    cases hcall
    unfold tryDequeue
    split
    · exact .idle (.refl s)
    · exact dequeueLocked_turn h _
  | drainDeviceQueue device =>
    cases hcall
    exact .drain device
  | purgeDeviceTasks device =>
    cases hcall
    exact .purge device
  | clear =>
    cases hcall
    exact .clear
  | shutdown =>
    cases hcall
    exact .idle ⟨rfl, rfl, rfl, rfl, rfl, rfl⟩

/-! ## The structures stay together -/

structure Touches (d : DeviceId) (s s' : Scheduler) : Prop where
  queue : ∀ x, x ≠ d → s'.queue x = s.queue x
  active : ∀ x, x ≠ d → (x ∈ s'.activeDeviceSet ↔ x ∈ s.activeDeviceSet)

theorem deviceDepth_eq (h : ∀ d, d ∈ s.activeDeviceSet ↔ s.queue d ≠ []) (d : DeviceId) :
    s.deviceDepth = (s.queue d).length + ∑ x ∈ s.activeDeviceSet.erase d, (s.queue x).length := by
  by_cases hd : d ∈ s.activeDeviceSet
  · exact (Finset.add_sum_erase _ _ hd).symm
  have hempty : s.queue d = [] := by simpa [h d] using hd
  rw [Finset.erase_eq_of_notMem hd, hempty, length_nil, Nat.zero_add, deviceDepth]

theorem Touches.deviceDepth (ht : Touches d s s') (h : ∀ d, d ∈ s.activeDeviceSet ↔ s.queue d ≠ [])
    (h' : ∀ d, d ∈ s'.activeDeviceSet ↔ s'.queue d ≠ []) :
    s'.deviceDepth + (s.queue d).length = s.deviceDepth + (s'.queue d).length := by
  have hset : s'.activeDeviceSet.erase d = s.activeDeviceSet.erase d := by
    ext x
    by_cases hx : x = d
    · simp [hx]
    · simp [hx, ht.active x hx]
  have hsum : ∑ x ∈ s'.activeDeviceSet.erase d, (s'.queue x).length =
      ∑ x ∈ s.activeDeviceSet.erase d, (s.queue x).length := by
    rw [hset]
    exact Finset.sum_congr rfl fun x hx => by rw [ht.queue x (Finset.ne_of_mem_erase hx)]
  rw [deviceDepth_eq h d, deviceDepth_eq h' d, hsum]
  omega

/-- A change at one device: what has to be looked at when the structures change there. -/
theorem Touches.sound (ht : Touches d s s') (h : Sound s)
    (hactive : d ∈ s'.activeDeviceSet ↔ s'.queue d ≠ []) (hnodup : s'.activeDeviceRing.Nodup)
    (hring : ∀ x, x ∈ s'.activeDeviceRing ↔ x ∈ s'.activeDeviceSet)
    (htotal : s'.totalTasksCount + (s.emergencyQueue.length + (s.queue d).length) =
      s.totalTasksCount + (s'.emergencyQueue.length + (s'.queue d).length))
    (hemergencies : ∀ task ∈ s'.emergencyQueue, task.priority = .emergency)
    (hqueued : ∀ task ∈ s'.queue d, task.recipientDeviceId = d ∧ task.priority ≠ .emergency) :
    Sound s' := by
  have hactive' : ∀ x, x ∈ s'.activeDeviceSet ↔ s'.queue x ≠ [] := by
    intro x
    by_cases hx : x = d
    · exact hx ▸ hactive
    · rw [ht.active x hx, ht.queue x hx, h.active]
  refine ⟨?_, hnodup, hring, hactive', hemergencies, ?_⟩
  · have hdepth := ht.deviceDepth h.active hactive'
    have htotal' := h.total
    omega
  intro x task htask
  by_cases hx : x = d
  · exact hx ▸ hqueued task (hx ▸ htask)
  · exact h.queued x task (ht.queue x hx ▸ htask)

theorem queue_update {x : DeviceId} {q : Option (List Task)}
    (h : s'.perDeviceQueues = Function.update s.perDeviceQueues d q) :
    s'.queue x = if x = d then q.getD [] else s.queue x := by
  by_cases hx : x = d <;> simp [queue, h, hx]

theorem admitted_touches (task : Task) : Touches task.recipientDeviceId s (s.admitted task) := by
  refine ⟨fun x hx => ?_, fun x hx => ?_⟩
  · rw [queue_update rfl, if_neg hx]
  · simp [admitted, hx]

theorem queue_admitted (task : Task) :
    (s.admitted task).queue task.recipientDeviceId = s.queue task.recipientDeviceId ++ [task] := by
  rw [queue_update rfl, if_pos rfl]
  rfl

theorem Sound.admitted (h : Sound s) {task : Task} (hclass : task.priority ≠ .emergency) :
    Sound (s.admitted task) := by
  have hmem : ∀ x, x ∈ (s.admitted task).activeDeviceRing ↔
      x ∈ (s.admitted task).activeDeviceSet := by
    intro x
    simp only [Scheduler.admitted]
    split
    next hd =>
      rw [Finset.insert_eq_of_mem hd, h.ring]
    · simp [h.ring, or_comm]
  refine (admitted_touches task).sound h ?_ ?_ hmem ?_ h.emergencies ?_
  · rw [queue_admitted]
    simp [Scheduler.admitted]
  · simp only [Scheduler.admitted]
    split
    · exact h.nodup
    rename_i hd
    refine nodup_append.mpr ⟨h.nodup, nodup_singleton _, ?_⟩
    rintro x hx y hy rfl
    exact hd (mem_singleton.mp hy ▸ (h.ring x).mp hx)
  · rw [queue_admitted]
    simp only [Scheduler.admitted, length_append, length_singleton]
    omega
  rw [queue_admitted]
  intro t ht
  rcases mem_append.mp ht with ht | ht
  · exact h.queued _ t ht
  obtain rfl := mem_singleton.mp ht
  exact ⟨rfl, hclass⟩

section
variable {d : DeviceId} {ring : List DeviceId} {rest : List Task}

theorem queue_yielded (x : DeviceId) :
    (s.yielded cfg d ring rest).queue x = if x = d then rest else s.queue x := by
  unfold yielded
  split
  next hrest =>
    rw [queue_update rfl, hrest]
    rfl
  · rw [queue_update rfl]
    rfl

theorem yielded_touches : Touches d s (s.yielded cfg d ring rest) := by
  refine ⟨fun x hx => by rw [queue_yielded, if_neg hx], fun x hx => ?_⟩
  unfold yielded
  split
  · simp [hx]
  · exact Iff.rfl

theorem yielded_ring : (rest = [] ∧ (s.yielded cfg d ring rest).activeDeviceRing = ring) ∨
    (rest ≠ [] ∧ (s.yielded cfg d ring rest).activeDeviceRing.Perm (d :: ring)) := by
  unfold yielded
  split
  · exact .inl ⟨‹_›, rfl⟩
  refine .inr ⟨‹_›, ?_⟩
  dsimp only
  split
  · exact perm_append_singleton d ring
  · exact .refl _

theorem Sound.yielded (h : Sound s) {task : Task} (hring : s.activeDeviceRing = d :: ring)
    (hqueue : s.queue d = task :: rest) : Sound (s.yielded cfg d ring rest) := by
  have hnodup := h.nodup
  have hold := h.ring
  rw [hring] at hnodup hold
  have hset : (s.yielded cfg d ring rest).activeDeviceSet =
      if rest = [] then s.activeDeviceSet.erase d else s.activeDeviceSet := by
    unfold Scheduler.yielded
    split <;> rfl
  have hcounts : (s.yielded cfg d ring rest).totalTasksCount = s.totalTasksCount - 1 ∧
      (s.yielded cfg d ring rest).emergencyQueue = s.emergencyQueue := by
    unfold Scheduler.yielded
    split <;> exact ⟨rfl, rfl⟩
  have hpos := deviceDepth_eq h.active d
  have htotal := h.total
  rw [hqueue, length_cons] at hpos
  refine yielded_touches.sound h ?_ ?_ ?_ ?_ (hcounts.2 ▸ h.emergencies) ?_
  · rw [hset, queue_yielded, if_pos rfl]
    split
    · simp [*]
    · simpa [*] using (hold d).mp mem_cons_self
  · rcases @yielded_ring cfg s d ring rest with ⟨-, heq⟩ | ⟨-, hperm⟩
    · rw [heq]
      exact (nodup_cons.mp hnodup).2
    · exact hperm.nodup_iff.mpr hnodup
  · intro x
    rw [hset]
    rcases @yielded_ring cfg s d ring rest with ⟨hrest, heq⟩ | ⟨hrest, hperm⟩
    · rw [heq, if_pos hrest, Finset.mem_erase, ← hold, mem_cons]
      constructor
      · intro hx
        exact ⟨fun he => (nodup_cons.mp hnodup).1 (he ▸ hx), .inr hx⟩
      rintro ⟨hx, rfl | hmem⟩
      · exact absurd rfl hx
      · exact hmem
    · rw [hperm.mem_iff, if_neg hrest, hold]
  · rw [hcounts.1, hcounts.2, queue_yielded, if_pos rfl, hqueue, length_cons]
    omega
  rw [queue_yielded, if_pos rfl]
  exact fun t ht => h.queued d t (hqueue ▸ mem_cons_of_mem _ ht)

end

theorem queue_drained (d x : DeviceId) :
    (s.drainDeviceQueue d).2.queue x = if x = d then [] else s.queue x := by
  rw [queue_update rfl]
  rfl

theorem drained_touches (d : DeviceId) : Touches d s (s.drainDeviceQueue d).2 := by
  refine ⟨fun x hx => by rw [queue_drained, if_neg hx], fun x hx => ?_⟩
  simp [drainDeviceQueue, hx]

theorem Sound.drained (h : Sound s) (d : DeviceId) : Sound (s.drainDeviceQueue d).2 := by
  have hdepth := deviceDepth_eq h.active d
  have htotal := h.total
  refine (drained_touches d).sound h ?_ (h.nodup.filter _) ?_ ?_ ?_ ?_
  · rw [queue_drained]
    simp [drainDeviceQueue]
  · intro x
    simp [drainDeviceQueue, h.ring, and_comm]
  · have hsplit := length_eq_length_filter_add (l := s.emergencyQueue)
      fun task => decide (task.recipientDeviceId = d)
    have hqueue : ((s.perDeviceQueues d).getD []).length = (s.queue d).length := rfl
    rw [queue_drained, if_pos rfl]
    simp only [drainDeviceQueue, hqueue, length_nil, decide_not] at hsplit ⊢
    omega
  · exact fun task htask => h.emergencies task (mem_of_mem_filter htask)
  · simp [queue_drained]

theorem Same.sound (h : Sound s) (hsame : Same s s') : Sound s' := by
  have hdepth : s'.deviceDepth = s.deviceDepth := by
    rw [deviceDepth, hsame.active, hsame.queue, deviceDepth]
  refine ⟨?_, hsame.ring ▸ h.nodup, ?_, ?_, hsame.emergency ▸ h.emergencies, hsame.queue ▸ h.queued⟩
  · rw [hsame.total, hsame.emergency, hdepth, h.total]
  · rw [hsame.ring, hsame.active]
    exact h.ring
  rw [hsame.active, hsame.queue]
  exact h.active

theorem sound_clear : Sound s.clear :=
  ⟨rfl, .nil, by simp [clear], by simp [clear, queue], by simp [clear], by simp [clear, queue]⟩

theorem Turn.sound (h : Sound s) (hturn : Turn cfg s call traffic s') : Sound s' := by
  cases hturn with
  | idle hsame => exact hsame.sound h
  | emergency hclass _ =>
    refine ⟨?_, h.nodup, h.ring, h.active, ?_, h.queued⟩
    · have htotal := h.total
      show s.totalTasksCount + 1 = (s.emergencyQueue ++ [_]).length + s.deviceDepth
      rw [length_append, length_singleton]
      omega
    intro t ht
    rcases mem_append.mp ht with ht | ht
    · exact h.emergencies t ht
    · exact mem_singleton.mp ht ▸ hclass
  | join hclass _ _ => exact h.admitted hclass
  | @rush _ task rest hqueue =>
    refine ⟨?_, h.nodup, h.ring, h.active, ?_, h.queued⟩
    · have htotal := h.total
      rw [hqueue, length_cons] at htotal
      show s.totalTasksCount - 1 = rest.length + s.deviceDepth
      omega
    · exact fun t ht => h.emergencies t (hqueue ▸ mem_cons_of_mem _ ht)
  | yield _ hring hqueue => exact h.yielded hring hqueue
  | drain device | purge device => exact h.drained device
  | clear => exact sound_clear

/-! ## Each line is first in, first out -/

theorem inLine_emergencies {tasks : List Task} (h : ∀ t ∈ tasks, t.priority = .emergency)
    (d : DeviceId) (b : Bool) : inLine Task.line (d, b) tasks =
      if b then tasks.filter fun task => task.recipientDeviceId = d else [] := by
  cases b with
  | true =>
    refine filter_congr fun t ht => ?_
    simp [Task.line, h t ht]
  | false => exact inLine_eq_nil _ fun t ht => by simp [Task.line, h t ht]

theorem inLine_queued {tasks : List Task}
    (h : ∀ t ∈ tasks, t.recipientDeviceId = d ∧ t.priority ≠ .emergency) (x : DeviceId) (b : Bool) :
    inLine Task.line (x, b) tasks = if x = d ∧ b = false then tasks else [] := by
  split
  next hline =>
    exact inLine_self _ fun t ht => by simp [Task.line, h t ht, hline]
  rename_i hline
  refine inLine_eq_nil _ fun t ht heq => hline ?_
  obtain ⟨hx, hb⟩ := Prod.mk.inj heq
  exact ⟨hx.symm.trans (h t ht).1, hb.symm.trans (decide_eq_false (h t ht).2)⟩

theorem inLine_ring (h : Sound s) (x : DeviceId) (b : Bool) :
    inLine Task.line (x, b) (s.activeDeviceRing.flatMap s.queue) = if b then [] else s.queue x := by
  have hring : ∀ ring : List DeviceId, ring.Nodup →
      inLine Task.line (x, b) (ring.flatMap s.queue) = if x ∈ ring ∧ b = false then s.queue x else [] := by
    intro ring hnodup
    induction ring with
    | nil => simp
    | cons d ring ih =>
      obtain ⟨hd, hnodup⟩ := nodup_cons.mp hnodup
      rw [flatMap_cons, inLine_append, inLine_queued (h.queued d), ih hnodup]
      by_cases hx : x = d
      · subst hx
        by_cases hb : b = false <;> simp [hb, hd]
      · simp [hx]
  rw [hring _ h.nodup]
  cases b with
  | true => simp
  | false =>
    by_cases hx : s.queue x = []
    · simp [hx]
    have hmem : x ∈ s.activeDeviceRing := (h.ring x).mpr ((h.active x).mpr hx)
    simp [hmem]

theorem drained_serves (h : Sound s) (d x : DeviceId) (b : Bool) :
    s.waiting (x, b) ++ inLine Task.line (x, b) [] =
      inLine Task.line (x, b) (s.drainDeviceQueue d).1 ++ (s.drainDeviceQueue d).2.waiting (x, b) := by
  have hemergencies : ∀ t ∈ s.emergencyQueue.filter fun task => decide (task.recipientDeviceId = d),
      t.priority = .emergency := fun t ht => h.emergencies t (mem_of_mem_filter ht)
  rw [inLine_nil, append_nil,
    show (s.drainDeviceQueue d).1 = s.queue d ++ s.emergencyQueue.filter fun task =>
      decide (task.recipientDeviceId = d) from rfl,
    inLine_append, inLine_queued (h.queued d), inLine_emergencies hemergencies]
  cases b with
  | true =>
    by_cases hx : x = d
    · subst hx
      simp [waiting, drainDeviceQueue, List.filter_filter]
    have hkeep : ∀ task : Task, (decide (task.recipientDeviceId = x) &&
        !decide (task.recipientDeviceId = d)) = decide (task.recipientDeviceId = x) := by
      intro task
      by_cases ht : task.recipientDeviceId = x <;> simp [ht, hx]
    have hdrop : ∀ task : Task, (decide (task.recipientDeviceId = x) &&
        decide (task.recipientDeviceId = d)) = false := by
      intro task
      by_cases ht : task.recipientDeviceId = x <;> simp [ht, hx]
    simp [waiting, drainDeviceQueue, List.filter_filter, hkeep, hdrop]
  | false =>
    by_cases hx : x = d <;> simp [waiting, queue_drained, hx]

open Traffic

theorem Turn.serves (h : Sound s) (hturn : Turn cfg s call traffic s') :
    Serves Task.line s.waiting traffic.admitted traffic.departed s'.waiting := by
  rintro ⟨x, b⟩
  cases hturn with
  | idle hsame => cases b <;> simp [departed, waiting, hsame.emergency, hsame.queue]
  | emergency hclass _ =>
    rw [inLine_emergencies (forall_mem_singleton.mpr hclass)]
    cases b <;> simp [departed, waiting, filter_append, queue]
  | @join _ task hclass _ _ =>
    rw [inLine_queued (forall_mem_singleton.mpr ⟨rfl, hclass⟩)]
    cases b with
    | true => simp [departed, waiting, admitted]
    | false =>
      by_cases hx : x = task.recipientDeviceId
      · subst hx
        simp [departed, waiting, queue_admitted]
      · simp [departed, waiting, hx, (admitted_touches task).queue x hx]
  | @rush _ task rest hqueue =>
    have hclass := h.emergencies task (hqueue ▸ mem_cons_self)
    simp only [departed, toList_some, append_nil, inLine_nil,
      inLine_emergencies (forall_mem_singleton.mpr hclass)]
    cases b with
    | true => simpa [waiting, hqueue] using filter_append (p := _) [task] rest
    | false => simp [waiting, queue]
  | @yield _ device ring task rest hnone hring hqueue =>
    have hclass := h.queued device task (hqueue ▸ mem_cons_self)
    have hemergency : (s.yielded cfg device ring rest).emergencyQueue = s.emergencyQueue := by
      unfold yielded
      split <;> rfl
    simp only [departed, toList_some, append_nil, inLine_nil,
      inLine_queued (forall_mem_singleton.mpr hclass)]
    cases b with
    | true => simp [waiting, hemergency]
    | false =>
      by_cases hx : x = device
      · subst hx
        simp [waiting, queue_yielded, hqueue]
      · simp [waiting, queue_yielded, hx]
  | drain device | purge device => simpa [departed] using drained_serves h device x b
  | clear =>
    simp only [departed, allTasks, inLine_append, inLine_emergencies h.emergencies,
      inLine_ring h]
    cases b <;> simp [waiting, Scheduler.clear, queue]

/-! ## What the capacities are worth -/

/-- Within the capacities. -/
structure Bounded (cfg : SchedulerConfig) (s : Scheduler) : Prop where
  devices : s.deviceDepth ≤ cfg.maxGlobalQueuedTasks
  total : s.totalTasksCount ≤ cfg.maxGlobalQueuedTasks + cfg.emergencyQueueReservedSlots
  device : ∀ d, (s.queue d).length ≤ cfg.maxTasksPerDevice

theorem Touches.bounded (ht : Touches d s s') (h : Sound s) (h' : Sound s')
    (hb : Bounded cfg s) (hqueue : (s'.queue d).length ≤ (s.queue d).length)
    (htotal : s'.totalTasksCount ≤ s.totalTasksCount) : Bounded cfg s' := by
  have hdepth := ht.deviceDepth h.active h'.active
  have hdevices := hb.devices
  refine ⟨by omega, htotal.trans hb.total, fun x => ?_⟩
  by_cases hx : x = d
  · exact hx ▸ hqueue.trans (hb.device d)
  · exact ht.queue x hx ▸ hb.device x

theorem drained_bounded (h : Sound s) (h' : Sound (s.drainDeviceQueue d).2)
    (hb : Bounded cfg s) : Bounded cfg (s.drainDeviceQueue d).2 := by
  refine (drained_touches d).bounded h h' hb ?_ ?_
  · simp [queue_drained]
  · exact (Nat.sub_le _ _).trans (Nat.sub_le _ _)

theorem Turn.bounded (h : Sound s) (hb : Bounded cfg s)
    (hturn : Turn cfg s call traffic s') : Bounded cfg s' := by
  have h' := hturn.sound h
  cases hturn with
  | idle hsame =>
    refine ⟨?_, hsame.total ▸ hb.total, hsame.queue ▸ hb.device⟩
    rw [deviceDepth, hsame.active, hsame.queue]
    exact hb.devices
  | emergency _ hroom => exact ⟨hb.devices, hroom, hb.device⟩
  | @join _ task hclass hroom hdevice =>
    have hdepth := (admitted_touches task).deviceDepth h.active h'.active
    have htotal := h.total
    rw [queue_admitted, length_append, length_singleton] at hdepth
    refine ⟨by omega, ?_, fun x => ?_⟩
    · show s.totalTasksCount + 1 ≤ _
      omega
    by_cases hx : x = task.recipientDeviceId
    · rw [hx, queue_admitted, length_append]
      exact hdevice
    rw [(admitted_touches task).queue x hx]
    exact hb.device x
  | rush _ => exact ⟨hb.devices, (Nat.sub_le _ 1).trans hb.total, hb.device⟩
  | @yield _ device ring task rest _ _ hqueue =>
    refine yielded_touches.bounded h h' hb ?_ ?_
    · simp [queue_yielded, hqueue]
    unfold yielded
    split <;> exact Nat.sub_le _ 1
  | drain | purge => exact drained_bounded h h' hb
  | clear => exact ⟨Nat.zero_le _, Nat.zero_le _, fun _ => Nat.zero_le _⟩

end Scheduler

open Scheduler

/-! ## Whole runs -/

structure Ledger where
  scheduler : Scheduler := {}
  log : List Traffic := []

namespace Ledger

def admitted (c : Ledger) : List Task := c.log.flatMap Traffic.admitted

def departed (c : Ledger) : List Task := c.log.flatMap Traffic.departed

variable (cfg : SchedulerConfig)

def take (c : Ledger) (call : SchedulerCall) : Ledger :=
  match c.scheduler.call cfg call with
  | none => c
  | some (traffic, s) => ⟨s, c.log ++ [traffic]⟩

def run (c : Ledger) (calls : List SchedulerCall) : Ledger := calls.foldl (take cfg) c

variable {cfg}

theorem run_invariant {I : Ledger → Prop} {calls : List SchedulerCall}
    (keep : ∀ c : Ledger, ∀ call ∈ calls, ∀ traffic s, I c →
      c.scheduler.call cfg call = some (traffic, s) → I ⟨s, c.log ++ [traffic]⟩)
    {c : Ledger} (h : I c) : I (run cfg c calls) := by
  induction calls generalizing c with
  | nil => exact h
  | cons call calls ih =>
    refine ih (fun c call hcall => keep c call (mem_cons_of_mem _ hcall)) ?_
    unfold take
    split
    · exact h
    · exact keep c call mem_cons_self _ _ h ‹_›

/-- What holds of the queues after any calls. -/
structure Balanced (cfg : SchedulerConfig) (c : Ledger) : Prop where
  sound : c.scheduler.Sound
  serves : Serves Task.line (fun _ => []) c.admitted c.departed c.scheduler.waiting
  bounded : c.scheduler.Bounded cfg

theorem balanced_run (cfg : SchedulerConfig) (calls : List SchedulerCall) :
    Balanced cfg (run cfg {} calls) := by
  refine run_invariant ?_ ⟨sound_clear (s := {}), ?_, ?_⟩
  · intro c call _ traffic s h hcall
    have hturn := call_turn h.sound hcall
    refine ⟨hturn.sound h.sound, ?_, hturn.bounded h.sound h.bounded⟩
    simpa [admitted, departed] using h.serves.trans (hturn.serves h.sound)
  · rintro ⟨x, b⟩
    cases b <;> simp [admitted, departed, waiting, queue]
  · exact ⟨Nat.zero_le _, Nat.zero_le _, fun _ => Nat.zero_le _⟩

end Ledger

/-- **Representation and conservation**, after every sequence of calls. The counter counts; the ring
lists the active devices once each, and they are those with a task; a task has left as often as it was
admitted, except for what still waits; what has left a line is the beginning of what was admitted to
it; a call that hands out a task of another class finds no emergency task waiting; and a dequeue while
something waits hands out a task. -/
theorem scheduler_conserves (cfg : SchedulerConfig) (calls : List SchedulerCall) :
    let c := Ledger.run cfg {} calls
    let s := c.scheduler
    (s.totalTasksCount = s.emergencyQueue.length + ∑ d ∈ s.activeDeviceSet, (s.queue d).length) ∧
    (s.activeDeviceRing.Nodup ∧ (∀ d, d ∈ s.activeDeviceRing ↔ d ∈ s.activeDeviceSet) ∧
      ∀ d, d ∈ s.activeDeviceSet ↔ s.queue d ≠ []) ∧
    (∀ task, c.admitted.count task = c.departed.count task + (s.waiting task.line).count task) ∧
    (∀ line, inLine Task.line line c.admitted = inLine Task.line line c.departed ++ s.waiting line) ∧
    (∀ call traffic s' task, s.call cfg call = some (traffic, s') → traffic.dequeued = some task →
      task.priority ≠ .emergency → s.emergencyQueue = []) ∧
    ∀ line, s.waiting line ≠ [] → ∀ call ∈ [.tryDequeue, .dequeue true, .dequeue false],
      ∃ traffic s', s.call cfg call = some (traffic, s') ∧ traffic.dequeued.isSome = true := by
  intro c s
  have h := Ledger.balanced_run cfg calls
  refine ⟨h.sound.total, ⟨h.sound.nodup, h.sound.ring, h.sound.active⟩, h.serves.count_eq, h.serves, ?_, ?_⟩
  · intro call traffic s' task hcall hdequeued hclass
    cases call_turn h.sound hcall with
    | rush hqueue =>
      cases hdequeued
      exact absurd (h.sound.emergencies _ (hqueue ▸ mem_cons_self)) hclass
    | yield hnone _ _ => exact hnone
    | idle | emergency | join | drain | purge | clear => exact nomatch hdequeued
  intro line hwaits call hcall
  have hpos := h.sound.total_pos hwaits
  have hsome : ((s.dequeueLocked cfg).1).isSome = true := dequeueLocked_isSome h.sound hpos
  have hdequeue : ∀ timedOut, s.dequeue cfg timedOut = some (s.dequeueLocked cfg) := by
    intro timedOut
    rw [dequeue, if_pos (.inr hpos)]
  simp only [mem_cons, not_mem_nil, or_false] at hcall
  rcases hcall with rfl | rfl | rfl
  · rw [Scheduler.call, tryDequeue, if_neg hpos.ne']
    exact ⟨_, _, rfl, hsome⟩
  all_goals
    rw [Scheduler.call, hdequeue, Option.map_some]
    exact ⟨_, _, rfl, hsome⟩

def taskFor (d : DeviceId) : Task where
  messageId := ⟨1⟩
  conversationId := ⟨1⟩
  recipientDeviceId := d
  recipientUserId := "u"
  attemptCount := 0
  acceptedAt := 0
  expiresAt := none
  scheduledAt := 0
  envelope := ⟨[], [], [], [], .aes256Gcm, 1, none⟩

def emergencyFor (d : DeviceId) : Task := { taskFor d with priority := .emergency }

/-- A task of each class: there are two lines, and each kind of dequeue hands out a task. -/
theorem two_classes_handed_out :
    let s := (Ledger.run {} {} [.schedule 0 (taskFor "a"), .schedule 0 (emergencyFor "a")]).scheduler
    s.totalTasksCount = 2 ∧ s.waiting ("a", true) ≠ [] ∧
      ∀ call ∈ [.tryDequeue, .dequeue true, .dequeue false],
        ∃ traffic s', s.call {} call = some (traffic, s') ∧ traffic.dequeued.isSome = true :=
  ⟨by decide, by decide, (scheduler_conserves {} _).2.2.2.2.2 ("a", true) (by decide)⟩

/-! ## The reserved slots -/

/-- The capacities hold, and the reserved slots are worth their name: an emergency task is not turned away
for lack of room while fewer are queued than there are slots. -/
structure Scheduler.KeepsCapacities (cfg : SchedulerConfig) (s : Scheduler) : Prop where
  devices : (∑ d ∈ s.activeDeviceSet, (s.queue d).length) ≤ cfg.maxGlobalQueuedTasks
  total : s.totalTasksCount ≤ cfg.maxGlobalQueuedTasks + cfg.emergencyQueueReservedSlots
  device : ∀ d, (s.queue d).length ≤ cfg.maxTasksPerDevice
  reserved : ∀ now task, task.priority = .emergency →
    s.emergencyQueue.length < cfg.emergencyQueueReservedSlots →
      (s.schedule cfg now task).1 ≠ .globalCapacityExhausted

theorem Ledger.Balanced.keepsCapacities {cfg : SchedulerConfig} {c : Ledger} (h : c.Balanced cfg)
    (hfits : cfg.maxGlobalQueuedTasks + cfg.emergencyQueueReservedSlots < 2 ^ 64) :
    c.scheduler.KeepsCapacities cfg := by
  refine ⟨h.bounded.devices, h.bounded.total, h.bounded.device, ?_⟩
  intro now task hclass hslots hstatus
  have hdevices := h.bounded.devices
  have htotal := h.sound.total
  have hroom : ¬ (cfg.maxGlobalQueuedTasks + cfg.emergencyQueueReservedSlots) % 2 ^ 64 ≤
      c.scheduler.totalTasksCount := by
    rw [Nat.mod_eq_of_lt hfits]
    omega
  unfold schedule at hstatus
  rw [if_pos hclass, if_neg hroom] at hstatus
  split_ifs at hstatus

theorem schedule_emergencyFor (cfg : SchedulerConfig) {s : Scheduler} (hopen : s.shutdown = false) :
    s.schedule cfg 0 (emergencyFor "a") =
      if (cfg.maxGlobalQueuedTasks + cfg.emergencyQueueReservedSlots) % 2 ^ 64 ≤ s.totalTasksCount then
        (.globalCapacityExhausted, s)
      else (.enqueued, { s with
        emergencyQueue := s.emergencyQueue ++ [emergencyFor "a"]
        totalTasksCount := s.totalTasksCount + 1 }) := by
  have hvalid : ¬ ((emergencyFor "a").recipientDeviceId = "" ∨ (emergencyFor "a").messageId = ⟨0⟩ ∨
      (emergencyFor "a").conversationId.isNil) := by decide
  rw [schedule, if_neg (by simp [hopen]), if_neg hvalid, if_neg (by decide),
    if_pos (show (emergencyFor "a").priority = .emergency from rfl)]

/-- Emergency tasks alone fill the queue up to the sum as the source computes it. -/
theorem run_emergencies (cfg : SchedulerConfig) {n : Nat}
    (hn : n ≤ (cfg.maxGlobalQueuedTasks + cfg.emergencyQueueReservedSlots) % 2 ^ 64) :
    (Ledger.run cfg {} (replicate n (.schedule 0 (emergencyFor "a")))).scheduler =
      { emergencyQueue := replicate n (emergencyFor "a"), totalTasksCount := n } := by
  induction n with
  | zero => rfl
  | succ n ih =>
    have ih := ih (by omega)
    unfold Ledger.run at ih ⊢
    rw [replicate_succ', foldl_append, foldl_cons, foldl_nil, Ledger.take, Scheduler.call, ih,
      schedule_emergencyFor cfg rfl, if_neg (Nat.not_le.mpr hn)]
    simp [replicate_succ']

/-- **The capacities hold** after every sequence of calls, exactly when the room for all tasks, with the
reserved slots, is a number of 64 bits. -/
theorem scheduler_capacity {cfg : SchedulerConfig} (hmax : cfg.maxGlobalQueuedTasks < 2 ^ 64)
    (hslots : cfg.emergencyQueueReservedSlots < 2 ^ 64) :
    (∀ calls, (Ledger.run cfg {} calls).scheduler.KeepsCapacities cfg) ↔
      cfg.maxGlobalQueuedTasks + cfg.emergencyQueueReservedSlots < 2 ^ 64 := by
  refine ⟨fun hall => ?_, fun hfits calls => (Ledger.balanced_run cfg calls).keepsCapacities hfits⟩
  by_contra hwraps
  -- the wrapped sum is smaller than the number of slots
  have hsum : (cfg.maxGlobalQueuedTasks + cfg.emergencyQueueReservedSlots) % 2 ^ 64 =
      cfg.maxGlobalQueuedTasks + cfg.emergencyQueueReservedSlots - 2 ^ 64 := by omega
  have hfull := (hall (replicate ((cfg.maxGlobalQueuedTasks + cfg.emergencyQueueReservedSlots) % 2 ^ 64)
    (.schedule 0 (emergencyFor "a")))).reserved 0 (emergencyFor "a") rfl
  rw [run_emergencies cfg (le_refl _), schedule_emergencyFor cfg rfl, if_pos (le_refl _),
    length_replicate] at hfull
  exact hfull (by omega) rfl

/-- The settings of the source. -/
theorem default_keeps_capacities :
    (Ledger.run {} {} [.schedule 0 (taskFor "a"), .schedule 0 (emergencyFor "a")]).scheduler.KeepsCapacities {} :=
  (scheduler_capacity (by decide) (by decide)).mpr (by decide) _

/-- **An emergency task is turned away by an empty scheduler** that has a slot for it. -/
theorem emergency_turned_away :
    let cfg : SchedulerConfig := { maxGlobalQueuedTasks := 2 ^ 64 - 1, emergencyQueueReservedSlots := 1 }
    (({} : Scheduler).emergencyQueue.length < cfg.emergencyQueueReservedSlots) ∧
      (({} : Scheduler).schedule cfg 0 (emergencyFor "a")).1 = .globalCapacityExhausted := by
  decide

end SecureCloud.Messaging.Delivery
