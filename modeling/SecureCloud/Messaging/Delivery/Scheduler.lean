import SecureCloud.Messaging.Delivery.Tables

/-
# Messaging.Delivery.Scheduler — `BoundedDeliveryScheduler`

The in-memory queues between those who offer delivery tasks and the workers: one emergency queue, one queue
per device, and a ring of the devices that have tasks, each of which may yield a few in a row. Every call
holds the scheduler's mutex. A task carries `scheduled_at`, and NOTHING HERE READS IT: a task is handed out
as soon as its turn comes.
-/

namespace SecureCloud.Messaging.Delivery

/-- `DeliveryTask`, with its place in time and its envelope. -/
structure Task extends DeliveryTask where
  priority : MessagePriority := .normal
  scheduledAt : TimePoint
  envelope : Envelope
deriving DecidableEq

inductive SchedulerStatus
  | enqueued
  | deviceQueueFull
  | globalCapacityExhausted
  | rejectedShuttingDown
  | invalidTask
deriving DecidableEq

structure SchedulerConfig where
  maxGlobalQueuedTasks : Nat := 10000
  maxTasksPerDevice : Nat := 50
  emergencyQueueReservedSlots : Nat := 1000
  fairnessQuantaPerDevice : Nat := 5

/-- The queues. `perDeviceQueues` is a map: `none` where a device has no entry. -/
structure Scheduler where
  shutdown : Bool := false
  totalTasksCount : Nat := 0
  emergencyQueue : List Task := []
  perDeviceQueues : DeviceId → Option (List Task) := fun _ => none
  activeDeviceRing : List DeviceId := []
  activeDeviceSet : Finset DeviceId := ∅
  currentDeviceQuantaConsumed : Nat := 0

namespace Scheduler

variable (cfg : SchedulerConfig)

def schedule (now : TimePoint) (task : Task) (s : Scheduler) : SchedulerStatus × Scheduler :=
  if s.shutdown then (.rejectedShuttingDown, s)
  else if task.recipientDeviceId = "" ∨ task.messageId = ⟨0⟩ ∨ task.conversationId.isNil then
    (.invalidTask, s)
  else if task.expiresAt.any (· ≤ now) then (.invalidTask, s)
  else if task.priority = .emergency then
    -- a sum of two `size_t`
    if (cfg.maxGlobalQueuedTasks + cfg.emergencyQueueReservedSlots) % 2 ^ 64 ≤ s.totalTasksCount then
      (.globalCapacityExhausted, s)
    else
      (.enqueued, { s with
        emergencyQueue := s.emergencyQueue ++ [task]
        totalTasksCount := s.totalTasksCount + 1 })
  else if cfg.maxGlobalQueuedTasks ≤ s.totalTasksCount then (.globalCapacityExhausted, s)
  else
    let device := task.recipientDeviceId
    -- `operator[]` makes an entry, even for a task that is then turned away
    let queue := (s.perDeviceQueues device).getD []
    if cfg.maxTasksPerDevice ≤ queue.length then
      (.deviceQueueFull, { s with
        perDeviceQueues := Function.update s.perDeviceQueues device (some queue) })
    else
      (.enqueued, { s with
        perDeviceQueues := Function.update s.perDeviceQueues device (some (queue ++ [task]))
        totalTasksCount := s.totalTasksCount + 1
        activeDeviceRing :=
          if device ∈ s.activeDeviceSet then s.activeDeviceRing else s.activeDeviceRing ++ [device]
        activeDeviceSet := insert device s.activeDeviceSet })

/-- The round robin of `dequeue_locked`: `ring` is what is left of the ring. -/
def dequeueRing (s : Scheduler) : List DeviceId → Option Task × Scheduler
  | [] => (none, { s with activeDeviceRing := [] })
  | device :: ring =>
    match (s.perDeviceQueues device).getD [] with
    | [] =>
      dequeueRing { s with
        activeDeviceSet := s.activeDeviceSet.erase device
        perDeviceQueues := Function.update s.perDeviceQueues device none
        currentDeviceQuantaConsumed := 0 } ring
    | [task] =>
      (some task, { s with
        perDeviceQueues := Function.update s.perDeviceQueues device none
        totalTasksCount := s.totalTasksCount - 1
        activeDeviceSet := s.activeDeviceSet.erase device
        activeDeviceRing := ring
        currentDeviceQuantaConsumed := 0 })
    | task :: more :: rest =>
      let s := { s with
        perDeviceQueues := Function.update s.perDeviceQueues device (some (more :: rest))
        totalTasksCount := s.totalTasksCount - 1 }
      if cfg.fairnessQuantaPerDevice ≤ s.currentDeviceQuantaConsumed + 1 then
        (some task, { s with activeDeviceRing := ring ++ [device], currentDeviceQuantaConsumed := 0 })
      else
        (some task, { s with
          activeDeviceRing := device :: ring
          currentDeviceQuantaConsumed := s.currentDeviceQuantaConsumed + 1 })

variable (s : Scheduler)

def dequeueLocked : Option Task × Scheduler :=
  match s.emergencyQueue with
  | task :: rest =>
    (some task, { s with emergencyQueue := rest, totalTasksCount := s.totalTasksCount - 1 })
  | [] => dequeueRing cfg s s.activeDeviceRing

/-- `dequeue`. A caller that finds nothing and has not `timedOut` goes on waiting: `none`. -/
def dequeue (timedOut : Bool) (s : Scheduler) : Option (Option Task × Scheduler) :=
  if s.shutdown ∨ 0 < s.totalTasksCount then some (dequeueLocked cfg s)
  else if timedOut then some (none, s)
  else none

def tryDequeue : Option Task × Scheduler :=
  if s.totalTasksCount = 0 then (none, s) else dequeueLocked cfg s

/-- `drain_device_queue`: the device's queue, then its emergency tasks. -/
def drainDeviceQueue (device : DeviceId) (s : Scheduler) : List Task × Scheduler :=
  let queue := (s.perDeviceQueues device).getD []
  let emergency := s.emergencyQueue.filter fun task => task.recipientDeviceId = device
  (queue ++ emergency, { s with
    totalTasksCount := s.totalTasksCount - queue.length - emergency.length
    perDeviceQueues := Function.update s.perDeviceQueues device none
    activeDeviceSet := s.activeDeviceSet.erase device
    currentDeviceQuantaConsumed :=
      if s.activeDeviceRing.head? = some device then 0 else s.currentDeviceQuantaConsumed
    activeDeviceRing := s.activeDeviceRing.filter fun other => other ≠ device
    emergencyQueue := s.emergencyQueue.filter fun task => task.recipientDeviceId ≠ device })

/-- `purge_device_tasks`: the drained tasks are only counted. -/
def purgeDeviceTasks (device : DeviceId) (s : Scheduler) : Nat × Scheduler :=
  let r := drainDeviceQueue device s
  (r.1.length, r.2)

def clear : Scheduler where
  shutdown := s.shutdown

def shutDown : Scheduler := { s with shutdown := true }

end Scheduler

end SecureCloud.Messaging.Delivery
