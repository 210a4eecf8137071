import SecureCloud.Files.Domain
import SecureCloud.Lib.Machine
import SecureCloud.Lib.Table

/-
# Files.OutboxRelay — events on their way to the audit service

The passes of `FilesOutboxRelay` over `files_outbox`. A pass fetches the oldest PENDING events, submits
them as one batch, and marks each PUBLISHED or FAILED; what throws is swallowed. Nothing fetches a FAILED
event or reads `retry_count`: ONE REFUSED BATCH takes all its events away for good. An event is safe
exactly as long as no refusal of it is recorded. Its content goes into the batch alone and is left out.
-/

namespace SecureCloud.Files

open Lib Lib.Table List Option

inductive OutboxStatus
  | pending
  | published
  | failed
deriving DecidableEq

structure FilesOutboxEntity where
  eventId : String
  status : OutboxStatus := .pending
  retryCount : Nat := 0
  createdAt : TimePoint
  processedAt : Option TimePoint := none
deriving DecidableEq

abbrev Outbox := Keyed FilesOutboxEntity.eventId

/-! ## The repository -/

namespace FilesOutboxRepository

variable (t : Outbox) (eventId : String)

def fetchPendingEvents (limit : Nat) : List FilesOutboxEntity :=
  ((t.rows.filter (·.status = .pending)).insertionSort (·.createdAt ≤ ·.createdAt)).take limit

/-- An update of the event's row, in a transaction of its own: whether there was one, and the table. -/
def update (f : FilesOutboxEntity → FilesOutboxEntity) : Bool × Outbox :=
  if eventId = "" then (false, t)
  else match t.find eventId with
    | none => (false, t)
    | some event => (true, t.write (f event))

def markPublished (now : TimePoint) : Bool × Outbox :=
  update t eventId fun event => { event with status := .published, processedAt := some now }

def markFailed : Bool × Outbox :=
  update t eventId fun event => { event with status := .failed, retryCount := event.retryCount + 1 }

end FilesOutboxRepository

open FilesOutboxRepository

/-! ## Passes of the relay -/

structure Pass where
  batchSize : Nat
  fetchThrows : Bool := false
  /-- `submit_batch` returns true; false is also an exception. -/
  acknowledges : Bool
  markThrows : String → Bool := fun _ => false
  now : TimePoint := 0

namespace Pass

variable (p : Pass) (t : Outbox)

def batch : List FilesOutboxEntity := if p.fetchThrows then [] else fetchPendingEvents t p.batchSize

def mark (eventId : String) : Outbox :=
  if p.markThrows eventId then t
  else if p.acknowledges then (markPublished t eventId p.now).2 else (markFailed t eventId).2

/-- `poll_and_dispatch`: the number of events attempted, and the table. -/
def pollAndDispatch : Nat × Outbox :=
  ((p.batch t).length, ((p.batch t).map (·.eventId)).foldl p.mark t)

end Pass

structure Relay where
  outbox : Outbox := .empty
  acknowledged : List String := []

inductive RelayEvent
  | stage (event : FilesOutboxEntity)
  | pass (p : Pass)

def RelayEvent.step (r : Relay) : RelayEvent → Option Relay
  | stage event =>
    if event.eventId ≠ "" ∧ event.status = .pending then some { r with outbox := r.outbox.write event }
    else none
  | pass p => some
    { outbox := (p.pollAndDispatch r.outbox).2
      acknowledged := if p.acknowledges then (p.batch r.outbox).map (·.eventId) ++ r.acknowledged
        else r.acknowledged }

/-- No event is lost: one never acknowledged is still fetched by a pass with a large enough batch. -/
def Relay.AtLeastOnce (r : Relay) : Prop :=
  ∀ event ∈ r.outbox.rows, event.eventId ∉ r.acknowledged →
    ∃ limit, event ∈ fetchPendingEvents r.outbox limit

/-- No refusal is recorded for an event that has not been acknowledged. -/
def RelayEvent.RecordsNoRefusal (r : Relay) : RelayEvent → Prop
  | stage _ => True
  | pass p => p.acknowledges = true ∨ ∀ event ∈ p.batch r.outbox,
      event.eventId = "" ∨ p.markThrows event.eventId = true ∨ event.eventId ∈ r.acknowledged

instance (r : Relay) (e : RelayEvent) : Decidable (e.RecordsNoRefusal r) := by
  unfold RelayEvent.RecordsNoRefusal
  split <;> infer_instance

/-! ## What a pass does to the statuses -/

section
variable {t : Outbox} {p : Pass} {k : String}

theorem mem_fetchPendingEvents {event : FilesOutboxEntity} :
    (∃ limit, event ∈ fetchPendingEvents t limit) ↔ event ∈ t.rows ∧ event.status = .pending := by
  have hsorted := (perm_insertionSort (fun a b : FilesOutboxEntity => a.createdAt ≤ b.createdAt)
    (t.rows.filter (·.status = .pending))).mem_iff (a := event)
  rw [mem_filter, decide_eq_true_eq] at hsorted
  rw [← hsorted]
  constructor
  · rintro ⟨limit, h⟩
    exact mem_of_mem_take h
  intro h
  exact ⟨_, by rw [fetchPendingEvents, take_length]; exact h⟩

def Outbox.status (t : Outbox) (k : String) : Option OutboxStatus :=
  (t.find k).map FilesOutboxEntity.status

def Pass.verdict (p : Pass) : OutboxStatus := if p.acknowledges then .published else .failed

open Keyed

theorem status_mark (eventId : String) : Outbox.status (p.mark t eventId) k =
      if k = eventId ∧ eventId ≠ "" ∧ p.markThrows eventId = false
      then (Outbox.status t k).map fun _ => p.verdict else Outbox.status t k := by
  unfold Pass.mark Pass.verdict markPublished markFailed FilesOutboxRepository.update Outbox.status
  by_cases hthrows : p.markThrows eventId = true
  · simp [hthrows]
  by_cases hempty : eventId = ""
  · simp [hempty]
  cases hfound : t.find eventId with
  | none =>
    by_cases hk : k = eventId
    · simp [hempty, hk, hfound]
    · simp [hempty, hk]
  | some event =>
    have hkey : event.eventId = eventId := key_of_find hfound
    by_cases hk : k = eventId
    · cases p.acknowledges <;> simp [hthrows, hempty, hk, hfound, hkey]
    · cases p.acknowledges <;> simp [hthrows, hempty, hk, find_write, hkey]

theorem status_markAll (ids : List String) : Outbox.status (ids.foldl p.mark t) k =
      if k ∈ ids ∧ k ≠ "" ∧ p.markThrows k = false
      then (Outbox.status t k).map fun _ => p.verdict else Outbox.status t k := by
  induction ids generalizing t with
  | nil => simp
  | cons id ids ih =>
    rw [foldl_cons, ih, status_mark]
    by_cases hk : k = id
    · subst hk
      by_cases hmark : k ≠ "" ∧ p.markThrows k = false
      · have hhead : k ∈ k :: ids ∧ k ≠ "" ∧ p.markThrows k = false := ⟨mem_cons_self, hmark⟩
        rw [if_pos hhead, if_pos (⟨rfl, hmark⟩ : k = k ∧ _), Option.map_map]
        exact ite_self _
      · simp [hmark]
    · simp [hk]

theorem atLeastOnce_iff {r : Relay} : r.AtLeastOnce ↔
    ∀ k, k ∉ r.acknowledged → ∀ s ∈ Outbox.status r.outbox k, s = .pending := by
  constructor
  · intro h k hk s hs
    obtain ⟨event, hfound, rfl⟩ := map_eq_some_iff.mp hs
    obtain rfl := key_of_find hfound
    exact (mem_fetchPendingEvents.mp (h event (mem_rows_iff.mpr hfound) hk)).2
  intro h event hmem hk
  refine mem_fetchPendingEvents.mpr ⟨hmem, h event.eventId hk _ ?_⟩
  exact map_eq_some_iff.mpr ⟨event, mem_rows_iff.mp hmem, rfl⟩

theorem status_of_mem_batch {event : FilesOutboxEntity} (h : event ∈ p.batch t) :
    Outbox.status t event.eventId = some .pending := by
  unfold Pass.batch at h
  split at h
  · exact absurd h not_mem_nil
  obtain ⟨hmem, hpending⟩ := mem_fetchPendingEvents.mp ⟨_, h⟩
  rw [Outbox.status, mem_rows_iff.mp hmem]
  exact congrArg some hpending

end

/-! ## Runs -/

theorem atLeastOnce_step {r r' : Relay} {e : RelayEvent} (hrefusal : e.RecordsNoRefusal r)
    (h : r.AtLeastOnce) (hstep : e.step r = some r') : r'.AtLeastOnce := by
  rw [atLeastOnce_iff] at h ⊢
  intro k hk s hs
  cases e with
  | stage event =>
    obtain ⟨⟨-, hpending⟩, heq⟩ := ite_none_right_eq_some.mp hstep
    cases heq
    rw [Outbox.status, Keyed.find_write] at hs
    split at hs
    · exact (some.inj hs).symm.trans hpending
    · exact h k hk s hs
  | pass p =>
    cases hstep
    rw [Pass.pollAndDispatch, status_markAll] at hs
    split at hs
    next hmarked =>
      obtain ⟨event, hevent, rfl⟩ := mem_map.mp hmarked.1
      -- the batch is acknowledged, or the event was before
      rcases hrefusal with hack | hnone
      · exact absurd (by simp [hack, mem_map_of_mem hevent]) hk
      rcases hnone event hevent with hempty | hthrows | hacked
      · exact absurd hempty hmarked.2.1
      · exact absurd hmarked.2.2 (by simp [hthrows])
      · exact absurd (by dsimp only; split <;> simp [hacked]) hk
    refine h k (fun hacked => hk ?_) s hs
    split <;> simp [hacked]

theorem refusal_loses {r : Relay} {e : RelayEvent} (hrefusal : ¬ e.RecordsNoRefusal r) :
    ∃ r', e.step r = some r' ∧ ¬ r'.AtLeastOnce := by
  cases e with
  | stage event => exact absurd trivial hrefusal
  | pass p =>
    simp only [RelayEvent.RecordsNoRefusal, not_or, not_forall] at hrefusal
    obtain ⟨hack, event, hevent, hempty, hthrows, hacked⟩ := hrefusal
    refine ⟨_, rfl, ?_⟩
    rw [atLeastOnce_iff]
    intro h
    have hfailed := h event.eventId (by simpa [hack] using hacked) .failed ?_
    · exact nomatch hfailed
    rw [Pass.pollAndDispatch, status_markAll, if_pos ⟨mem_map_of_mem hevent, hempty, by simpa using hthrows⟩,
      status_of_mem_batch hevent]
    simp [Pass.verdict, hack]

namespace RelaySample

def events (acknowledges : Bool) : List RelayEvent :=
  [.stage { eventId := "e", createdAt := 0 }, .pass { batchSize := 50, acknowledges }]

end RelaySample

end SecureCloud.Files
