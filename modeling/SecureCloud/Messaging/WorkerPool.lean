import SecureCloud.Lib.Machine

/-
# Messaging.WorkerPool — `BoundedWorkerPool`, one critical section after the other

An event is a critical section of the pool's mutex, made by a worker or by a thread that submits or stops; the
pool counts the threads at each place between two sections. Whoever waits goes on when the predicate holds,
notified or not: a wakeup may be spurious.

`drain_and_stop` waits for the tasks UNLESS A SHUTDOWN HAS BEGUN: then it returns at once, and a worker
may still be at its task.
-/

namespace SecureCloud.Messaging.WorkerPool

open Lib List

variable {τ : Type}

structure Joining where
  drains : Bool
  threads : Bool
deriving DecidableEq

/-- The pool. `running` are the tasks at work, one per active worker; `idle` counts the other workers
that have not returned, `draining` the calls of `drain_and_stop` that wait, `drained` those that have
returned. The last three lists are ghosts. -/
structure Pool (τ : Type) where
  tasks : List τ := []
  running : List τ := []
  isDraining : Bool := false
  isShutdown : Bool := false
  handles : Bool := true
  idle : Nat
  draining : Nat := 0
  joining : List Joining := []
  drained : Nat := 0
  accepted : List τ := []
  completed : List τ := []
  discarded : List τ := []

inductive Event (τ : Type)
  | submit (task : τ)
  | take
  | finish (k : Nat)
  | exit
  | shutdown
  | drainAndStop
  | drainGoesOn
  | joined (k : Nat)

variable (capacity : Nat)

/-- One critical section. A `submit_with_timeout` that waits for room has not made its section yet; one
that waited in vain is refused like a `try_submit`. -/
def Pool.step (w : Pool τ) : Event τ → Option (Pool τ)
  | .submit task =>
    if w.isShutdown ∨ w.isDraining ∨ capacity ≤ w.tasks.length then some w
    else some { w with tasks := w.tasks ++ [task], accepted := task :: w.accepted }
  | .take =>
    match w.tasks with
    | [] => none
    | task :: rest =>
      if w.idle = 0 then none
      else some { w with tasks := rest, idle := w.idle - 1, running := task :: w.running }
  | .finish k =>
    -- an exception of the task is caught
    (w.running[k]?).map fun task => { w with
      running := w.running.eraseIdx k, idle := w.idle + 1, completed := task :: w.completed }
  | .exit =>
    if w.isShutdown ∧ w.tasks.isEmpty ∧ w.idle ≠ 0 then some { w with idle := w.idle - 1 } else none
  | .shutdown =>
    if w.isShutdown then some w
    else some { w with
      isShutdown := true, isDraining := true, tasks := [], discarded := w.tasks ++ w.discarded
      handles := false, joining := ⟨false, w.handles⟩ :: w.joining }
  | .drainAndStop =>
    if w.isShutdown then some { w with drained := w.drained + 1 }
    else some { w with isDraining := true, draining := w.draining + 1 }
  | .drainGoesOn =>
    if w.draining ≠ 0 ∧ w.tasks.isEmpty ∧ w.running.isEmpty then
      some { w with
        isShutdown := true, draining := w.draining - 1
        handles := false, joining := ⟨true, w.handles⟩ :: w.joining }
    else none
  | .joined k =>
    (w.joining[k]?).bind fun call =>
      if call.threads ∧ w.idle + w.running.length ≠ 0 then none
      else some { w with
        joining := w.joining.eraseIdx k
        drained := if call.drains then w.drained + 1 else w.drained }

/-! ## What holds between two sections -/

/-- The condition on a section. No `drain_and_stop` begins after a shutdown while a task is at work. -/
def Event.DrainsInTime (w : Pool τ) : Event τ → Prop
  | drainAndStop => w.isShutdown = true → w.running = []
  | _ => True

instance [DecidableEq τ] (w : Pool τ) (e : Event τ) : Decidable (e.DrainsInTime w) := by
  unfold Event.DrainsInTime
  split <;> infer_instance

/-- Every accepted task is in one place, and whoever has drained the pool found it empty. -/
structure Pool.Sound (workers : Nat) (w : Pool τ) : Prop where
  conserved : w.accepted.Perm (w.tasks ++ (w.running ++ (w.completed ++ w.discarded)))
  bounded : w.tasks.length ≤ capacity
  staffed : w.isShutdown = false → w.idle + w.running.length = workers
  stopped : w.isShutdown = true → w.isDraining = true ∧ w.tasks = []
  waits : w.draining ≠ 0 → w.isDraining = true
  empty : w.drained ≠ 0 ∨ (∃ call ∈ w.joining, call.drains = true) →
    w.isDraining = true ∧ w.tasks = [] ∧ w.running = []

variable {capacity}

theorem perm_eraseIdx {l : List τ} {k : Nat} {a : τ} (h : l[k]? = some a) :
    l.Perm (a :: l.eraseIdx k) := by
  obtain ⟨hk, rfl⟩ := List.getElem?_eq_some_iff.mp h
  exact (getElem_cons_eraseIdx_perm hk).symm

theorem Pool.Sound.step {workers : Nat} {w w' : Pool τ} {e : Event τ} (h : w.Sound capacity workers)
    (hin : e.DrainsInTime w) (hstep : w.step capacity e = some w') : w'.Sound capacity workers := by
  cases e with
  | submit task =>
    simp only [Pool.step] at hstep
    split_ifs at hstep with hrefused
    · cases hstep
      exact h
    cases hstep
    simp only [not_or, Nat.not_le] at hrefused
    refine ⟨?_, ?_, h.staffed, fun hs => absurd hs hrefused.1, h.waits,
      fun hd => absurd (h.empty hd).1 hrefused.2.1⟩
    · refine (h.conserved.cons task).trans ?_
      simpa using perm_middle.symm
    rw [length_append]
    exact hrefused.2.2
  | take =>
    simp only [Pool.step] at hstep
    split at hstep
    · exact nomatch hstep
    rename_i task rest htasks
    split_ifs at hstep with hidle
    cases hstep
    refine ⟨?_, ?_, ?_, ?_, h.waits, ?_⟩
    · refine h.conserved.trans ?_
      rw [htasks]
      exact perm_middle.symm
    · have hbounded := h.bounded
      rw [htasks] at hbounded
      exact Nat.le_of_succ_le hbounded
    · intro hs
      have := h.staffed hs
      simp only [length_cons]
      omega
    · intro hs
      exact absurd (htasks.symm.trans (h.stopped hs).2) (cons_ne_nil _ _)
    intro hd
    exact absurd (htasks.symm.trans (h.empty hd).2.1) (cons_ne_nil _ _)
  | finish k =>
    obtain ⟨task, htask, rfl⟩ := Option.map_eq_some_iff.mp hstep
    have hperm := perm_eraseIdx htask
    have hlength := hperm.length_eq
    refine ⟨?_, h.bounded, ?_, h.stopped, h.waits, ?_⟩
    · refine h.conserved.trans (.append_left _ ((hperm.append_right _).trans ?_))
      exact perm_middle.symm
    · intro hs
      have := h.staffed hs
      simp only [length_cons] at hlength
      dsimp only
      omega
    intro hd
    rw [(h.empty hd).2.2] at htask
    exact nomatch htask
  | exit =>
    simp only [Pool.step] at hstep
    split_ifs at hstep with hexit
    cases hstep
    exact ⟨h.conserved, h.bounded, fun hs => absurd (hs.symm.trans hexit.1) nofun, h.stopped, h.waits, h.empty⟩
  | shutdown =>
    simp only [Pool.step] at hstep
    split_ifs at hstep with hs
    · cases hstep
      exact h
    cases hstep
    refine ⟨?_, Nat.zero_le _, nofun, fun _ => ⟨rfl, rfl⟩, fun _ => rfl, fun hd => ?_⟩
    · refine h.conserved.trans ?_
      rw [nil_append]
      exact perm_append_comm_assoc .. |>.trans (.append_left _ (perm_append_comm_assoc ..))
    · refine ⟨rfl, rfl, (h.empty (hd.imp_right ?_)).2.2⟩
      simp
  | drainAndStop =>
    simp only [Pool.step] at hstep
    split_ifs at hstep with hs
    · cases hstep
      exact ⟨h.conserved, h.bounded, h.staffed, h.stopped, h.waits,
        fun _ => ⟨(h.stopped hs).1, (h.stopped hs).2, hin hs⟩⟩
    cases hstep
    exact ⟨h.conserved, h.bounded, h.staffed, fun hs' => ⟨rfl, (h.stopped hs').2⟩, fun _ => rfl,
      fun hd => ⟨rfl, (h.empty hd).2⟩⟩
  | drainGoesOn =>
    simp only [Pool.step] at hstep
    split_ifs at hstep with hready
    cases hstep
    obtain ⟨hwaits, htasks, hrunning⟩ := hready
    have htasks := isEmpty_iff.mp htasks
    exact ⟨h.conserved, h.bounded, nofun, fun _ => ⟨h.waits hwaits, htasks⟩, fun _ => h.waits hwaits,
      fun _ => ⟨h.waits hwaits, htasks, isEmpty_iff.mp hrunning⟩⟩
  | joined k =>
    obtain ⟨call, hcall, hstep⟩ := Option.bind_eq_some_iff.mp hstep
    split at hstep
    · exact nomatch hstep
    cases hstep
    refine ⟨h.conserved, h.bounded, h.staffed, h.stopped, h.waits, fun hd => h.empty ?_⟩
    rcases hd with hd | ⟨call', hmem, hdrains⟩
    · by_cases hdrains : call.drains = true
      · exact .inr ⟨call, mem_of_getElem? hcall, hdrains⟩
      · exact .inl (by simpa [hdrains] using hd)
    · exact .inr ⟨call', mem_of_mem_eraseIdx hmem, hdrains⟩

variable (capacity)

/-- **Every accepted task is done exactly once, unless a shutdown drops it from the queue.** In every
interleaving of a pool with a worker, as long as no `drain_and_stop` begins after a shutdown while a task
is at work: each accepted task is in one place, the queue keeps to its capacity, and once a
`drain_and_stop` has returned, or no worker can go on, the accepted tasks are done or dropped. -/
theorem pool_conserves (workers : Nat) (hworkers : 0 < workers) (events : List (Event τ)) (w : Pool τ)
    (hrun : Machine.run (Pool.step capacity) { idle := workers } events = some w)
    (hin : Machine.Along (Pool.step capacity) (fun w e => e.DrainsInTime w) { idle := workers } events) :
    w.accepted.Perm (w.tasks ++ (w.running ++ (w.completed ++ w.discarded))) ∧
      w.tasks.length ≤ capacity ∧
      (w.drained ≠ 0 ∨ (w.step capacity .take = none ∧ ∀ k, w.step capacity (.finish k) = none) →
        w.accepted.Perm (w.completed ++ w.discarded)) := by
  have h : w.Sound capacity workers := Machine.run_invariant (fun _ _ _ hin h hstep => h.step hin hstep)
    ⟨.nil, Nat.zero_le _, fun _ => rfl, by simp, by simp, by simp⟩ hin hrun
  refine ⟨h.conserved, h.bounded, fun hend => ?_⟩
  obtain ⟨htasks, hrunning⟩ : w.tasks = [] ∧ w.running = [] := by
    rcases hend with hdrained | ⟨htake, hfinish⟩
    · exact (h.empty (.inl hdrained)).2
    have hrunning : w.running = [] := by
      by_contra hne
      obtain ⟨task, rest, heq⟩ := exists_cons_of_ne_nil hne
      have := hfinish 0
      simp [Pool.step, heq] at this
    refine ⟨?_, hrunning⟩
    -- somebody would take a task that is waiting, unless the pool is shut down and has none
    cases hs : w.isShutdown with
    | true => exact (h.stopped hs).2
    | false =>
      have hidle := h.staffed hs
      rw [hrunning] at hidle
      cases htasks : w.tasks with
      | nil => rfl
      | cons task rest =>
        have hzero : w.idle = 0 := by simpa [Pool.step, htasks] using htake
        simp only [length_nil] at hidle
        omega
  have hconserved := h.conserved
  rwa [htasks, hrunning] at hconserved

namespace Sample

def taken : List (Event String) := [.submit "task", .take]

def drained : List (Event String) := taken ++ [.drainAndStop, .finish 0, .drainGoesOn, .exit, .joined 0]

theorem drained_is_done :
    ∃ w, Machine.run (Pool.step 1) { idle := 1 } drained = some w ∧ w.drained = 1 ∧
      w.completed = ["task"] ∧ w.accepted.Perm (w.completed ++ w.discarded) :=
  ⟨_, rfl, rfl, rfl, (pool_conserves 1 1 (by decide) drained _ rfl (by decide)).2.2 (.inl nofun)⟩

/-- The worker is at the task when the pool is shut down, and `drain_and_stop` returns. -/
theorem drain_returns_early :
    ∃ w, Machine.run (Pool.step 1) { idle := 1 } (taken ++ [.shutdown, .drainAndStop]) = some w ∧
      w.drained = 1 ∧ w.accepted = ["task"] ∧ w.completed = [] ∧ w.discarded = [] :=
  ⟨_, rfl, rfl, rfl, rfl, rfl⟩

end Sample

end SecureCloud.Messaging.WorkerPool
