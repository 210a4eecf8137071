import SecureCloud.Messaging.Delivery.Acknowledgement
import SecureCloud.Messaging.Delivery.Writes

/-
# Messaging.Delivery.Terminality — whether a settled record stays settled

A record of the queue that is delivered, read or expired is settled, and its attempts should not go down.
The repository does not see to either. A worker with a task for the record marks it as being delivered
without looking, and anybody who works with a batch writes back what they once read. So the theorem: when
nobody overwrites what they have not seen, and no task is handed out for a record that is settled or has
moved on, every record stays settled and no count goes down.
-/

namespace SecureCloud.Messaging.Delivery

open Lib.Program Lib.Interleaving Lib.Table Statement

/-- What every record keeps: once terminal it is terminal, and its attempts do not go down. -/
def Keeps (w w' : World) : Prop :=
  ∀ key r, w.tables.queue.find key = some r → ∃ r', w'.tables.queue.find key = some r' ∧
      (isTerminal r.deliveryState = true → isTerminal r'.deliveryState = true) ∧
      r.attemptCount ≤ r'.attemptCount

theorem Keeps.refl (w : World) : Keeps w w := fun _ r hr => ⟨r, hr, id, le_rfl⟩

theorem Keeps.trans {w w' w'' : World} (h : Keeps w w') (h' : Keeps w' w'') : Keeps w w'' := by
  intro key r hr
  obtain ⟨r', hr', hterminal, hcount⟩ := h key r hr
  obtain ⟨r'', hr'', hterminal', hcount'⟩ := h' key r' hr'
  exact ⟨r'', hr'', hterminal' ∘ hterminal, hcount.trans hcount'⟩

/-- The task that is handed out is up to date: its record is open, and has no more attempts than the
task says. -/
def Config.TaskUpToDate (cfg : Config) (st : Step Statement Env World) : Prop :=
  ∀ task ∈ cfg.handed st, ∀ key ∈ task.recordKey, ∀ r ∈ st.before.tables.queue.find key,
    isTerminal r.deliveryState = false ∧ r.attemptCount ≤ task.attemptCount

/-- Granted about a step: records are written as their writer last saw them, tasks handed out up to
date. -/
def Config.UpToDate (cfg : Config) (past : Past)
    (st : Step Statement Env World) : Prop :=
  match st.stmt with
  | .updateStatus key _ _ _ => cfg.Fresh past key st.before
  | .dequeue => cfg.TaskUpToDate st
  | _ => True

instance (cfg : Config) (past : Past) (st : Step Statement Env World) :
    Decidable (cfg.UpToDate past st) := by
  unfold Config.UpToDate Config.TaskUpToDate
  split <;> infer_instance

section
variable {cfg : Config} {past : Past} {key : QueueKey} {w : World}
  {state : DeliveryState} {attempts : Nat} {next : Option TimePoint} {r : QueueRow}

/-- **Whatever the reason for a write**, over a record that nobody else has touched it keeps what has
to be kept. -/
theorem Reason.keeps (h : Reason cfg past key state attempts next) (hfresh : cfg.Fresh past key w)
    (htasks : ∀ look earlier, LastLook key past look earlier → look.stmt = .dequeue →
      cfg.TaskUpToDate look) (hr : w.tables.queue.find key = some r) :
    (isTerminal r.deliveryState = true → isTerminal state = true) ∧ r.attemptCount ≤ attempts := by
  cases h with
  | @taken look earlier task _ hlook htask hkey hstate =>
    rw [hfresh.of_taken hlook htask] at hr
    have hdequeue := (Config.after_of_handed htask).1
    obtain ⟨hopen, hcount⟩ := htasks look earlier hlook hdequeue task htask key hkey r hr
    exact ⟨fun hterminal => absurd hterminal (by simp [hopen]), hcount⟩
  | delivered hmark | refused hmark => exact ⟨fun _ => rfl, (hfresh.of_marked hmark hr).2.le⟩
  | offline hmark =>
    obtain ⟨hstate, hcount⟩ := hfresh.of_marked hmark hr
    exact ⟨fun hterminal => absurd hterminal (by simp [hstate, isTerminal]), hcount.le⟩
  | retry hmark =>
    obtain ⟨hstate, hcount⟩ := hfresh.of_marked hmark hr
    exact ⟨fun hterminal => absurd hterminal (by simp [hstate, isTerminal]), by omega⟩
  | exhausted hmark =>
    have hcount := (hfresh.of_marked hmark hr).2
    exact ⟨fun _ => rfl, by omega⟩
  | acknowledged hfetched | stale hfetched | spent hfetched =>
    obtain rfl := hfresh.of_fetched hfetched hr
    exact ⟨fun _ => rfl, le_rfl⟩
  | due hfetched hwaiting =>
    obtain rfl := hfresh.of_fetched hfetched hr
    exact ⟨fun hterminal => absurd hterminal (by simp [hwaiting, isTerminal]), le_rfl⟩

end

namespace Consumer

variable {ι : Type} [DecidableEq ι]

/-- One move keeps every record, when the call that makes it and the tasks it took are up to date. -/
theorem keeps_of_exec {cfg : Config} {past : Past}
    {st : Step Statement Env World} {r : st.stmt.Resp} {w' : World}
    (hexec : st.stmt.exec cfg st.env st.before = some (r, w')) (howed : Justified cfg past st.stmt)
    (hnow : cfg.UpToDate past st)
    (hpast : ∀ later st' earlier, past = later ++ st' :: earlier → cfg.UpToDate earlier st') :
    Keeps st.before w' := by
  intro key row hrow
  rcases exec_queue hexec key with hsame | ⟨state, attempts, next, hstmt, hwritten⟩
  · exact ⟨row, by rw [hsame, hrow], id, le_rfl⟩
  refine ⟨_, hwritten, ?_⟩
  rw [hstmt] at howed
  rw [Config.UpToDate, hstmt] at hnow
  refine Reason.keeps howed hnow ?_ hrow
  rintro look earlier ⟨later, heq, -, -⟩ hdequeue
  have hlook := hpast later look earlier heq
  rwa [Config.UpToDate, hdequeue] at hlook

/-- **Settled records stay settled, and attempts do not go down**, from any point of a run to any later
one, as long as every step is up to date. -/
theorem keeps_along_run (c : Consumer) (jobs : ι → Job) (w : World) (before after : List (ι × Env))
    {d e : Engine ι}
    (hd : run (Call.advance (exec c.config)) (c.start jobs w) before = some d)
    (he : run (Call.advance (exec c.config)) d after = some e)
    (hgranted : ∀ m ∈ trace (Call.advance (exec c.config)) (c.start jobs w)
      (before ++ after), ∀ st ∈ takenBy m, c.config.UpToDate (m.1.proc m.2.1).past st) :
    Keeps d.shared e.shared := by
  rw [trace_append hd, List.forall_mem_append] at hgranted
  have hkeep : ∀ {J : Engine ι → Prop}, (∀ c c', J c → Keeps c.shared c'.shared → J c') →
      StepKeeps (exec c.config) (Justified c.config) c.config.UpToDate (fun _ _ => True)
        J := by
    intro J hJ c₁ c₂ i st r hnow hbefore hexec howed _ hkept hJ₁
    refine hJ c₁ c₂ hJ₁ (hbefore ▸ ?_)
    exact keeps_of_exec hexec howed hnow fun later st' earlier heq =>
      (hkept i later st' earlier heq).1
  have hstart : Standing (exec c.config) (Justified c.config) c.config.UpToDate
      (fun _ _ => True) (fun _ => True) (c.start jobs w) :=
    Standing.start (fun i => writes_program (jobs i)) trivial
  -- up to `d` the calls do what they do; from there on the records are compared with those at `d`
  have hmid := hstart.run (fun _ => trivial) (fun _ _ _ _ _ _ _ _ => trivial)
    (hkeep fun _ _ _ _ => trivial) hgranted.1 hd
  have hfrom : Standing (exec c.config) (Justified c.config) c.config.UpToDate
      (fun _ _ => True) (fun c' => Keeps d.shared c'.shared) d :=
    ⟨hmid.follows, hmid.kept, Keeps.refl _⟩
  exact (hfrom.run (fun _ => trivial) (fun _ _ _ _ _ _ _ _ => trivial)
    (hkeep fun _ _ h h' => h.trans h') hgranted.2 he).holds

/-! ## A delivered record that is delivered again -/

def decemberTask : Task :=
  QueueRecord.task ⟨decemberRow, decemberRow.content.get rfl⟩ "u" 1767225599500

def decemberQueued : World :=
  { decemberWorld with scheduler := (({} : Scheduler).schedule {} 1767225599500 decemberTask).2 }

def decemberConsumer : Consumer where
  config := plainConfig
  parse := fun _ => .discarded

def decemberJobs : Bool → Job
  | false => .acknowledge decemberAck
  | true => .work

def decemberMoves (i : Bool) (n : Nat) : List (Bool × Env) :=
  List.replicate n (i, { now := 1767225599500 })

def decemberState (ms : List (Bool × Env)) : Option DeliveryState :=
  (run (Call.advance (exec plainConfig)) (decemberConsumer.start decemberJobs decemberQueued)
    ms).bind fun d => (d.shared.tables.queue.find decemberRow.key).map (·.deliveryState)

theorem exists_of_decemberState {ms : List (Bool × Env)} {state : DeliveryState}
    (h : decemberState ms = some state) :
    ∃ d r, run (Call.advance (exec plainConfig))
        (decemberConsumer.start decemberJobs decemberQueued) ms = some d ∧
      d.shared.tables.queue.find decemberRow.key = some r ∧ r.deliveryState = state := by
  obtain ⟨d, hd, hrow⟩ := Option.bind_eq_some_iff.mp h
  obtain ⟨r, hr, hstate⟩ := Option.map_eq_some_iff.mp hrow
  exact ⟨d, r, hd, hr, hstate⟩

/-- The acknowledgement runs to its end. Then the worker takes the task and marks the record. -/
theorem delivered_becomes_delivering : ∃ d e, run (Call.advance (exec plainConfig))
        (decemberConsumer.start decemberJobs decemberQueued) (decemberMoves false 9) = some d ∧
      run (Call.advance (exec plainConfig)) d (decemberMoves true 3) = some e ∧
      ¬ Keeps d.shared e.shared := by
  obtain ⟨d, r, hd, hr, hstate⟩ := exists_of_decemberState
    (show decemberState (decemberMoves false 9) = some .delivered by decide)
  obtain ⟨e, r', he, hr', hstate'⟩ := exists_of_decemberState
    (show decemberState (decemberMoves false 9 ++ decemberMoves true 3) = some .delivering by
      decide)
  rw [run_append_eq, hd] at he
  refine ⟨d, e, hd, he, fun hkeeps => ?_⟩
  obtain ⟨r₁, hr₁, hterminal, -⟩ := hkeeps decemberRow.key r hr
  obtain rfl : r' = r₁ := Option.some.inj (hr'.symm.trans hr₁)
  rw [hstate, hstate'] at hterminal
  exact nomatch hterminal rfl

/-- The worker alone delivers the message, and every one of its steps is up to date. -/
theorem worker_keeps : ∃ d, run (Call.advance (exec plainConfig))
        (decemberConsumer.start decemberJobs decemberQueued) (decemberMoves true 8) = some d ∧
      Keeps decemberQueued d.shared := by
  obtain ⟨d, r, hd, -, -⟩ := exists_of_decemberState
    (show decemberState (decemberMoves true 8) = some .delivered by decide)
  exact ⟨d, hd, keeps_along_run decemberConsumer decemberJobs decemberQueued [] (decemberMoves true 8)
    rfl hd (by decide)⟩

end Consumer

end SecureCloud.Messaging.Delivery
