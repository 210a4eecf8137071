import SecureCloud.Messaging.SubmissionSteps
import SecureCloud.Messaging.Sync

/-
# Messaging.Isolation — a ciphertext goes to the device it was encrypted for

Every target of a submission has its own ciphertext, stored in the queue of its device. But the message row
also carries a ciphertext, the FRONT target's, and the read side falls back to it when a device has no queue
entry and the message has no row of `delivery_state_by_message`. A submission that stops between its message
row and its first delivery state leaves a message whose front ciphertext is served to every device that asks.

The invariants: queue entries carry what was submitted for their device (`Provenance`, in every run), and a
message row is never left without a delivery state (`Fanned`, in every run of `FanoutKept` moves).
-/

namespace SecureCloud.Messaging

open Lib Lib.Table Lib.Interleaving Sample SubmissionEnv List Option

/-! ## Who a ciphertext was submitted for -/

/-- The ciphertext was submitted, in the command the identifier was minted for, for that device. -/
def World.SubmittedFor (w : World) (m : MessageId) (device : DeviceId) (ciphertext : Bytes) : Prop :=
  ∃ cmd, .minted m cmd ∈ w.log ∧
    ∃ t ∈ cmd.deliveryTargets, t.recipientDeviceId = device ∧ t.ciphertextBlob = ciphertext

instance (w : World) (m : MessageId) (device : DeviceId) (ciphertext : Bytes) :
    Decidable (w.SubmittedFor m device ciphertext) :=
  decidable_of_iff (w.log.any fun e =>
      match e with
      | .minted m' cmd => m' = m && cmd.deliveryTargets.any fun t =>
          t.recipientDeviceId = device && t.ciphertextBlob = ciphertext
      | _ => false) <| by
    rw [List.any_eq_true]
    constructor
    · rintro ⟨e, he, hsat⟩
      cases e <;> simp at hsat
      obtain ⟨rfl, t, ht⟩ := hsat
      exact ⟨_, he, t, ht⟩
    rintro ⟨cmd, hmint, t, ht⟩
    refine ⟨_, hmint, ?_⟩
    simp only [decide_true, Bool.true_and, List.any_eq_true, Bool.and_eq_true, decide_eq_true_eq]
    exact ⟨t, ht⟩

def Store.HasPending (s : Store) (device : DeviceId) (m : MessageId) : Prop :=
  ∃ p ∈ s.pendingDeliveries, p.deviceId = device ∧ p.messageId = m

def Store.HasState (s : Store) (m : MessageId) : Prop :=
  ∃ st ∈ s.deliveryStates, st.messageId = m

variable {s : Store} {device : DeviceId} {m : MessageId}

theorem hasPending_insertPending {r : DeviceDeliveryRecord} (h : s.HasPending device m) :
    (s.insertPending r).HasPending device m := by
  obtain ⟨p, hp, hd, hm⟩ := h
  by_cases hk : p.key = r.key
  · -- the entry is replaced by one of the same device and message
    have hdev : p.deviceId = r.deviceId := congrArg (fun k => k.1.1) hk
    have hmsg : p.messageId = r.messageId := congrArg (fun k => k.2.2) hk
    exact ⟨r, mem_upsert_self, hdev ▸ hd, hmsg ▸ hm⟩
  · exact ⟨p, mem_upsert_of_mem hp hk, hd, hm⟩

theorem hasPending_insertPending_self (s : Store) (r : DeviceDeliveryRecord) :
    (s.insertPending r).HasPending r.deviceId r.messageId :=
  ⟨r, mem_upsert_self, rfl, rfl⟩

theorem hasState_insertRecipientState {r : RecipientDeliveryState}
    (h : s.HasState m) : (s.insertRecipientState r).HasState m := by
  obtain ⟨st, hst, hm⟩ := h
  by_cases hk : st.key = r.key
  · have hmsg : st.messageId = r.messageId := congrArg Prod.fst hk
    exact ⟨r, mem_upsert_self, hmsg ▸ hm⟩
  · exact ⟨st, mem_upsert_of_mem hst hk, hm⟩

theorem hasState_insertRecipientState_self (s : Store) (r : RecipientDeliveryState) :
    (s.insertRecipientState r).HasState r.messageId :=
  ⟨r, mem_upsert_self, rfl⟩

/-! ## The write side -/

/-- Queue entries carry what was submitted for their device, and a device has a fan-out row only
where it has a queue entry. -/
structure Provenance (w : World) : Prop where
  pending : ∀ p ∈ w.store.pendingDeliveries, w.SubmittedFor p.messageId p.deviceId p.ciphertextBlob
  tracked : ∀ st ∈ w.store.deliveryStates, w.store.HasPending st.recipientDeviceId st.messageId

def Pc.command : Pc → Option MessageSubmissionCommand
  | .idle => none
  | .locking cmd => some cmd
  | .evaluating cmd _ _ => some cmd
  | .claiming a => some a.cmd
  | .allocating a => some a.cmd
  | .saving a _ _ => some a.cmd
  | .queueing a _ _ _ => some a.cmd
  | .tracking a _ _ => some a.cmd
  | .enqueueing a _ => some a.cmd
  | .committing a _ => some a.cmd
  | .failing a _ => some a.cmd
  | .recordingFailure a _ _ => some a.cmd

def Pc.minted : Pc → Option Attempt
  | .claiming a => some a
  | pc => pc.trying

/-- The local assertion: what the attempt has written so far. -/
structure Courier (pc : Pc) (w : World) : Prop where
  targets : ∀ cmd, pc.command = some cmd → cmd.deliveryTargets ≠ []
  minted : ∀ a, pc.minted = some a → .minted a.messageId a.cmd ∈ w.log
  queued : ∀ a b n rest, pc = .queueing a b n rest → ∃ done, a.cmd.deliveryTargets = done ++ rest ∧
      ∀ t ∈ done, w.store.HasPending t.recipientDeviceId a.messageId
  tracked : ∀ a n rest, pc = .tracking a n rest →
    (∀ t ∈ a.cmd.deliveryTargets, w.store.HasPending t.recipientDeviceId a.messageId) ∧
      ∃ done, a.cmd.deliveryTargets = done ++ rest ∧ (done ≠ [] → w.store.HasState a.messageId)

/-- What a move never takes back. -/
structure World.Grows (w w' : World) : Prop where
  log : ∀ e ∈ w.log, e ∈ w'.log
  pending : ∀ device m, w.store.HasPending device m → w'.store.HasPending device m
  states : ∀ m, w.store.HasState m → w'.store.HasState m

namespace SubmissionEnv

variable {env : SubmissionEnv} {i j : Nat} {x : Input} {pc pc' q : Pc} {w w' : World}

theorem grows_of_same (hp : w'.store.pendingDeliveries = w.store.pendingDeliveries)
    (hs : w'.store.deliveryStates = w.store.deliveryStates) (hl : ∀ e ∈ w.log, e ∈ w'.log) :
    World.Grows w w' where
  log := hl
  pending device m h := by simpa [Store.HasPending, hp] using h
  states m h := by simpa [Store.HasState, hs] using h

theorem Moves.grows (h : Moves env i x pc w pc' w') : World.Grows w w' := by
  cases h with
  | queue =>
    exact ⟨fun _ h => h, fun _ _ h => hasPending_insertPending h, fun _ h => h⟩
  | track =>
    exact ⟨fun _ h => h, fun _ _ h => h, fun _ h => hasState_insertRecipientState h⟩
  | _ =>
    refine grows_of_same rfl rfl ?_
    intro e he
    first
      | exact he
      | exact mem_cons_of_mem _ he

theorem submittedFor_mono (hg : World.Grows w w')
    {ciphertext : Bytes} (h : w.SubmittedFor m device ciphertext) :
    w'.SubmittedFor m device ciphertext := by
  obtain ⟨cmd, hmint, ht⟩ := h
  exact ⟨cmd, hg.log _ hmint, ht⟩

theorem provenance_of_same (hprov : Provenance w) (hg : World.Grows w w')
    (hp : w'.store.pendingDeliveries = w.store.pendingDeliveries)
    (hs : w'.store.deliveryStates = w.store.deliveryStates) : Provenance w' where
  pending p hmem := submittedFor_mono hg (hprov.pending p (hp ▸ hmem))
  tracked st hmem := hg.pending _ _ (hprov.tracked st (hs ▸ hmem))

/-- Provenance is kept by every move, whatever fails. -/
theorem Moves.provenance (h : Moves env i x pc w pc' w') (hprov : Provenance w)
    (hc : Courier pc w) : Provenance w' := by
  have hg := h.grows
  cases h with
  | @queue w a b n t rest pc' hpc =>
    obtain ⟨done, htargets, -⟩ := hc.queued a b n (t :: rest) rfl
    have ht : t ∈ a.cmd.deliveryTargets := by simp [htargets]
    refine ⟨?_, ?_⟩
    · intro p hp
      rcases mem_of_mem_upsert hp with rfl | hold
      · exact ⟨a.cmd, hc.minted a rfl, t, ht, rfl, rfl⟩
      · exact submittedFor_mono hg (hprov.pending p hold)
    · intro st hst
      exact hg.pending _ _ (hprov.tracked st hst)
  | @track w a n t rest pc' hpc =>
    obtain ⟨hall, done, htargets, -⟩ := hc.tracked a n (t :: rest) rfl
    have ht : t ∈ a.cmd.deliveryTargets := by simp [htargets]
    refine ⟨fun p hp => submittedFor_mono hg (hprov.pending p hp), ?_⟩
    intro st hst
    rcases mem_of_mem_upsert hst with rfl | hold
    · exact hg.pending _ _ (hall t ht)
    · exact hg.pending _ _ (hprov.tracked st hold)
  | _ => exact provenance_of_same hprov hg rfl rfl

theorem courier_of_grows (hc : Courier q w) (hg : World.Grows w w') : Courier q w' where
  targets := hc.targets
  minted a ha := hg.log _ (hc.minted a ha)
  queued a b n rest hq := by
    obtain ⟨done, htargets, hdone⟩ := hc.queued a b n rest hq
    exact ⟨done, htargets, fun t ht => hg.pending _ _ (hdone t ht)⟩
  tracked a n rest hq := by
    obtain ⟨hall, done, htargets, hdone⟩ := hc.tracked a n rest hq
    exact ⟨fun t ht => hg.pending _ _ (hall t ht), done, htargets,
      fun hne => hg.states _ (hdone hne)⟩

theorem courier_of_outside (htargets : ∀ cmd, pc'.command = some cmd → cmd.deliveryTargets ≠ [])
    (hminted : ∀ a, pc'.minted = some a → .minted a.messageId a.cmd ∈ w'.log)
    (hq : ∀ a b n rest, pc' ≠ .queueing a b n rest) (ht : ∀ a n rest, pc' ≠ .tracking a n rest) :
    Courier pc' w' where
  targets := htargets
  minted := hminted
  queued a b n rest h := absurd h (hq a b n rest)
  tracked a n rest h := absurd h (ht a n rest)

theorem Moves.courier (h : Moves env i x pc w pc' w') (hc : Courier pc w) : Courier pc' w' := by
  have hg := h.grows
  have hidle : ∀ {w' : World}, Courier .idle w' := fun {w'} =>
    courier_of_outside nofun nofun nofun
      nofun
  -- control goes to the `catch` block, which remembers only the command
  have hfailing : ∀ {w' : World} {a : Attempt} {what : String}, pc.command = some a.cmd →
      Courier (.failing a what) w' := fun {w' a what} ha =>
    courier_of_outside (fun cmd h => hc.targets cmd (ha.trans h)) nofun
      nofun nofun
  cases h with
  | refuse | replay | giveUp | claimLost | commit | recordFailure => exact hidle
  | accept hv =>
    refine courier_of_outside ?_ nofun nofun
      nofun
    rintro cmd hcmd
    cases hcmd
    exact (validateSubmission_eq_none hv).1
  | lock | wait | findFailed =>
    exact courier_of_outside hc.targets nofun nofun
      nofun
  | mint =>
    refine courier_of_outside hc.targets ?_ nofun
      nofun
    rintro a ha
    cases ha
    exact mem_cons_self
  | claim | allocate | tracked =>
    exact courier_of_outside hc.targets (fun a ha => hc.minted a ha)
      nofun nofun
  | throw htry =>
    refine hfailing ?_
    cases pc <;> simp_all [Pc.trying, Pc.command]
  | @persist w a b n pc' hx hpc =>
    rcases hpc with ⟨_, rfl⟩ | ⟨_, what, rfl⟩
    · refine ⟨hc.targets, fun a' ha' => hg.log _ (hc.minted a' ha'), ?_, ?_⟩
      · rintro a' b' n' rest' heq
        cases heq
        exact ⟨[], rfl, by simp⟩
      · rintro a' n' rest' heq
        cases heq
    · exact hfailing rfl
  | @queue w a b n t rest pc' hpc =>
    rcases hpc with ⟨_, rfl⟩ | ⟨_, what, rfl⟩
    · obtain ⟨done, htargets, hdone⟩ := hc.queued a b n (t :: rest) rfl
      refine ⟨hc.targets, hc.minted, ?_, ?_⟩
      · rintro a' b' n' rest' heq
        cases heq
        refine ⟨done ++ [t], by simp [htargets], ?_⟩
        intro u hu
        rcases mem_append.mp hu with hu | hu
        · exact hg.pending _ _ (hdone u hu)
        obtain rfl := mem_singleton.mp hu
        exact hasPending_insertPending_self w.store (a.pendingRecord b n u)
      · rintro a' n' rest' heq
        cases heq
    · exact hfailing rfl
  | @queued w a b n =>
    obtain ⟨done, htargets, hdone⟩ := hc.queued a b n [] rfl
    rw [append_nil] at htargets
    refine ⟨hc.targets, hc.minted, ?_, ?_⟩
    · rintro a' b' n' rest' heq
      cases heq
    rintro a' n' rest' heq
    cases heq
    exact ⟨fun t ht => hdone t (htargets ▸ ht), [], rfl, fun h => absurd rfl h⟩
  | @track w a n t rest pc' hpc =>
    rcases hpc with ⟨_, rfl⟩ | ⟨_, what, rfl⟩
    · obtain ⟨hall, done, htargets, -⟩ := hc.tracked a n (t :: rest) rfl
      refine ⟨hc.targets, hc.minted, ?_, ?_⟩
      · rintro a' b' n' rest' heq
        cases heq
      rintro a' n' rest' heq
      cases heq
      exact ⟨fun u hu => hg.pending _ _ (hall u hu), done ++ [t], by simp [htargets],
        fun _ => hasState_insertRecipientState_self w.store (a.recipientState t)⟩
    · exact hfailing rfl
  | enqueue hpc =>
    rcases hpc with ⟨_, rfl⟩ | ⟨_, what, rfl⟩
    · exact courier_of_outside hc.targets hc.minted nofun
        nofun
    · exact hfailing rfl
  | commitLost => exact hfailing rfl

end SubmissionEnv

/-! ## The fan-out of a persisted message -/

def Pc.unfanned : Pc → Option MessageId
  | .queueing a _ _ _ => some a.messageId
  | .tracking a _ rest => if rest = a.cmd.deliveryTargets then some a.messageId else none
  | _ => none

/-- Every message row has a fan-out row, or a process that is about to write one. -/
def Fanned (c : Config Nat Pc World) : Prop :=
  ∀ m ∈ c.shared.store.messages,
    c.shared.store.HasState m.messageId ∨ ∃ i, (c.proc i).unfanned = some m.messageId

/-- A move keeps the fan-out going unless it fails between the message row and the first fan-out row:
the row write timing out, a queue write failing, the first fan-out write not reaching the store. -/
def FanoutKept (pc : Pc) (x : Input) : Prop :=
  match pc with
  | .saving _ _ _ => x.throws = true → x.takesEffect = false
  | .queueing _ _ _ (_ :: _) => x.throws = false
  | .tracking a _ rest => rest = a.cmd.deliveryTargets → x.throws = true → x.takesEffect = true
  | _ => True

instance (pc : Pc) (x : Input) : Decidable (FanoutKept pc x) := by
  unfold FanoutKept
  split <;> infer_instance

namespace SubmissionEnv

variable {env : SubmissionEnv} {i j : Nat} {x : Input} {pc pc' q : Pc} {w w' : World}

theorem Moves.unfanned (h : Moves env i x pc w pc' w') (hkept : FanoutKept pc x)
    (hc : Courier pc w) (hm : pc.unfanned = some m) :
    w'.store.HasState m ∨ pc'.unfanned = some m := by
  cases h with
  | giveUp hh ht =>
    cases pc <;> simp_all [Pc.unfanned, Pc.trying]
  | @throw w pc a what htry hcall hx =>
    -- a throw without effect in the fan-out is what the condition excludes
    have hbad : ∀ a, pc ≠ .allocating a := by
      rintro a rfl
      cases hm
    obtain ⟨hthrows, hno⟩ := hx hbad
    cases pc with
    | queueing a' b n rest =>
      cases rest with
      | nil => cases hcall
      | cons t rest =>
        have hfalse : x.throws = false := hkept
        rw [hfalse] at hthrows
        cases hthrows
    | tracking a' n rest =>
      have hfirst : rest = a'.cmd.deliveryTargets := by
        by_contra hne
        simp [Pc.unfanned, hne] at hm
      have hyes : x.takesEffect = true := hkept hfirst hthrows
      rw [hyes] at hno
      cases hno
    | _ => cases hm
  | @queue w a b n t rest pc' hpc =>
    rcases hpc with ⟨_, rfl⟩ | ⟨hthrows, what, rfl⟩
    · exact .inr hm
    have hfalse : x.throws = false := hkept
    rw [hfalse] at hthrows
    cases hthrows
  | queued => exact .inr (by simpa [Pc.unfanned] using hm)
  | @track w a n t rest pc' hpc =>
    have hid : a.messageId = m := by
      by_cases hfirst : t :: rest = a.cmd.deliveryTargets
      · simpa [Pc.unfanned, hfirst] using hm
      · simp [Pc.unfanned, hfirst] at hm
    exact .inl (hid ▸ hasState_insertRecipientState_self w.store (a.recipientState t))
  | @tracked w a n =>
    -- the target list is not empty, so `rest = []` is not the beginning
    have hne : a.cmd.deliveryTargets ≠ [] := hc.targets _ rfl
    simp [Pc.unfanned, hne.symm] at hm
  | _ => cases hm

theorem Moves.messages (h : Moves env i x pc w pc' w') (hkept : FanoutKept pc x) :
    ∀ m ∈ w'.store.messages, m ∈ w.store.messages ∨ pc'.unfanned = some m.messageId := by
  intro m hm
  cases h with
  | @persist w a b n pc' hx hpc =>
    rcases mem_of_mem_upsert hm with rfl | hold
    · rcases hpc with ⟨_, rfl⟩ | ⟨hthrows, what, rfl⟩
      · exact .inr rfl
      have hno : x.takesEffect = false := hkept hthrows
      rw [hno] at hx
      cases hx
    · exact .inl hold
  | _ => exact .inl hm

def Delivering : Config Nat Pc World → Prop :=
  Annotated Provenance fun _ => Courier

theorem delivering_start : Delivering start := by
  refine ⟨⟨nofun, nofun⟩, ?_⟩
  intro i
  exact courier_of_outside nofun nofun
    nofun nofun

variable {c : Config Nat Pc World} {c' : Config Nat Pc World}

theorem delivering_move {m : Nat × Input}
    (h : Delivering c) (hmove : move env.next c m = some c') : Delivering c' := by
  obtain ⟨i, x⟩ := m
  obtain ⟨hG, hL⟩ := h
  refine move_annotated ?_ ?_ hmove
  · intro pc' w' hn
    have hm := moves_of_next hn
    exact ⟨hm.provenance hG (hL i), hm.courier (hL i)⟩
  · intro j pc' w' _ hn
    exact courier_of_grows (hL j) (moves_of_next hn).grows

/-- One move keeps `Fanned`: the mover's fan-out by `Moves.unfanned`, everybody else's because the
mover does not touch their program counters. -/
theorem fanned_move {m : Nat × Input}
    (hkept : FanoutKept (c.proc m.1) m.2) (hL : ∀ i, Courier (c.proc i) c.shared)
    (hf : Fanned c) (hmove : move env.next c m = some c') : Fanned c' := by
  obtain ⟨i, x⟩ := m
  obtain ⟨pc', w', hn, rfl⟩ := move_eq_some hmove
  have hm := moves_of_next hn
  intro row hrow
  have hself : pc'.unfanned = some row.messageId →
      ∃ k, (Function.update c.proc i pc' k).unfanned = some row.messageId := by
    intro h
    exact ⟨i, by simpa using h⟩
  rcases hm.messages hkept row hrow with hold | hnew
  · rcases hf row hold with hstate | ⟨k, hk⟩
    · exact .inl (hm.grows.states _ hstate)
    by_cases hki : k = i
    · subst hki
      rcases hm.unfanned hkept (hL k) hk with h | h
      · exact .inl h
      · exact .inr (hself h)
    · refine .inr ⟨k, ?_⟩
      simpa [Function.update_of_ne hki] using hk
  · exact .inr (hself hnew)

/-- Every persisted message is fanned out, along every run whose moves keep the fan-out. -/
theorem run_fanned {ms : List (Nat × Input)} (hrun : run env.next start ms = some c)
    (hkept : ∀ e ∈ trace env.next start ms, FanoutKept (e.1.proc e.2.1) e.2.2) :
    Delivering c ∧ Fanned c := by
  refine run_induction (I := fun c => Delivering c ∧ Fanned c)
    (A := fun c m => FanoutKept (c.proc m.1) m.2) ?_ ⟨delivering_start, ?_⟩ hkept hrun
  · rintro c m c' hk ⟨hd, hf⟩ hmove
    exact ⟨delivering_move hd hmove, fanned_move hk hd.2 hf hmove⟩
  intro row hrow
  exact absurd hrow not_mem_nil

end SubmissionEnv

/-! ## The read side -/

variable {rec : DeviceDeliveryRecord}

theorem getDeliveryRecordForDevice_eq_some
    (h : s.getDeliveryRecordForDevice device m = some rec) :
    rec ∈ s.pendingDeliveries ∧ rec.deviceId = device ∧ rec.messageId = m := by
  have hmem := mem_of_find?_eq_some h
  have hsat := find?_some h
  simpa [hmem] using hsat

theorem getDeliveryRecordForDevice_ne_none
    (h : s.HasPending device m) : s.getDeliveryRecordForDevice device m ≠ none := by
  obtain ⟨p, hp, hd, hm⟩ := h
  intro hnone
  have := find?_eq_none.mp hnone p hp
  simp [hd, hm] at this

open Store

theorem deviceEnvelope_eq_some {m : MessageEntity}
    (h : s.deviceEnvelope device m = some rec) :
    ∃ p ∈ s.pendingDeliveries, p.deviceId = device ∧ p.messageId = m.messageId ∧
      rec.ciphertextBlob = p.ciphertextBlob := by
  simp only [deviceEnvelope, map_eq_some_iff] at h
  obtain ⟨p, hp, hrec⟩ := h
  obtain ⟨hmem, hd, hm⟩ := getDeliveryRecordForDevice_eq_some hp
  refine ⟨p, hmem, hd, hm, ?_⟩
  subst hrec
  split
  · split <;> rfl
  · rfl

variable {w : World}

/-- Where the fan-out table is consistent with the queues, a message that has a fan-out row and no
queue entry for the device is known not to target it. -/
theorem untargeted_of_no_record (hprov : Provenance w)
    {m : MessageEntity} (hstate : w.store.HasState m.messageId)
    (hnone : w.store.getDeliveryRecordForDevice device m.messageId = none) :
    w.store.untargeted device m = true := by
  obtain ⟨st, hst, hm⟩ := hstate
  have hne : w.store.getDeliveryStatesForMessage m.messageId ≠ [] := by
    refine ne_nil_of_mem (a := st) ?_
    simp [getDeliveryStatesForMessage, hst, hm]
  have hfind : (w.store.getDeliveryStatesForMessage m.messageId).find?
      (·.recipientDeviceId = device) = none := by
    rw [find?_eq_none]
    intro st' hst' hdev
    simp only [getDeliveryStatesForMessage, mem_filter, decide_eq_true_eq] at hst' hdev
    have hpend := hprov.tracked st' hst'.1
    rw [hdev, hst'.2] at hpend
    exact getDeliveryRecordForDevice_ne_none hpend hnone
  simp [untargeted, hnone, hne, hfind]

/-- The read side serves a device its own ciphertexts, when every message it is shown has a
fan-out row. -/
theorem wireMessages_submittedFor (hprov : Provenance w)
    {r : SyncMessagesResult} (hr : r.Serves w.store device)
    (hstates : ∀ m ∈ w.store.messages, w.store.HasState m.messageId) :
    ∀ e ∈ r.wireMessages, ∀ t ∈ e.2, w.SubmittedFor e.1.messageId device t.ciphertextBlob := by
  intro e he t ht
  simp only [SyncMessagesResult.wireMessages, List.mem_map] at he
  obtain ⟨m, hm, rfl⟩ := he
  cases hlookup : r.deviceEnvelopes.lookup m.messageId with
  | some rec =>
    -- the device's own queue entry
    rw [hlookup] at ht
    obtain rfl := List.mem_singleton.mp ht
    have hmem : (m.messageId, rec) ∈ r.deviceEnvelopes := by
      obtain ⟨l₁, l₂, hsplit, -⟩ := List.lookup_eq_some_iff.mp hlookup
      simp [hsplit]
    rw [hr.envelopes, List.mem_filterMap] at hmem
    obtain ⟨m', -, hm'⟩ := hmem
    obtain ⟨rec', hrec', heq⟩ := Option.map_eq_some_iff.mp hm'
    obtain ⟨hid, rfl⟩ := Prod.mk.inj heq
    obtain ⟨p, hp, hd, hpm, hblob⟩ := deviceEnvelope_eq_some hrec'
    have hsub := hprov.pending p hp
    rw [hd, hpm, hid] at hsub
    show w.SubmittedFor m.messageId device rec'.ciphertextBlob
    rw [hblob]
    exact hsub
  | none =>
    -- no queue entry: the fan-out row makes the message untargeted, and nothing is sent
    have hnone : w.store.getDeliveryRecordForDevice device m.messageId = none := by
      rw [List.lookup_eq_none_iff, hr.envelopes] at hlookup
      by_contra hsome
      obtain ⟨rec, hrec⟩ := Option.ne_none_iff_exists'.mp hsome
      obtain ⟨rec', hrec'⟩ : ∃ rec', w.store.deviceEnvelope device m = some rec' := by
        simp [deviceEnvelope, hrec]
      have hmem := hlookup (m.messageId, rec') (List.mem_filterMap.mpr ⟨m, hm, by simp [hrec']⟩)
      simp at hmem
    have hunt := untargeted_of_no_record hprov (hstates m (hr.stored m hm)) hnone
    have hcontains : r.untargetedMessages.contains m.messageId = true := by
      rw [hr.untargeted]
      simp only [List.contains_iff_mem, List.mem_map, List.mem_filter]
      exact ⟨m, ⟨hm, hunt⟩, rfl⟩
    rw [hlookup, hcontains] at ht
    simp [populateMessageEnvelope] at ht

def servedCiphertexts (r : DeviceId × List (MessageEntity × List WireTarget)) :
    List (DeviceId × MessageId × Bytes) :=
  r.2.flatMap fun e => e.2.map fun t => (r.1, e.1.messageId, t.ciphertextBlob)

def World.ReadIsolated (w : World) : Prop :=
  ∀ counters auth path request now r, w.store.read counters true auth path request now = some r →
      ∀ served ∈ servedCiphertexts r, w.SubmittedFor served.2.1 served.1 served.2.2

theorem readIsolated_of_hasState (hprov : Provenance w)
    (hstates : ∀ m ∈ w.store.messages, w.store.HasState m.messageId) : w.ReadIsolated := by
  intro counters auth path request now r hread
  simp only [Store.read, Option.bind_eq_bind, Option.bind_eq_some_iff] at hread
  obtain ⟨device, -, since, -, ⟨page, c'⟩, hsync, hread⟩ := hread
  simp only at hread
  split at hread
  · cases hread
    intro served hserved
    simp only [servedCiphertexts, List.mem_flatMap, List.mem_map] at hserved
    obtain ⟨e, he, t, ht, rfl⟩ := hserved
    exact wireMessages_submittedFor hprov (syncMessages_serves hsync) hstates e he t ht
  · cases hread

/-- **Per-device isolation.** In every run whose moves keep the fan-out going, whatever else fails, once
no submission is between its message row and its first fan-out row (so, once all have returned), neither
read path serves a device a ciphertext not submitted for it. -/
theorem reads_serve_own_ciphertexts (env : SubmissionEnv) (ms : List (Nat × Input))
    (c : Config Nat Pc World)
    (hrun : run env.next start ms = some c)
    (hkept : ∀ e ∈ trace env.next start ms, FanoutKept (e.1.proc e.2.1) e.2.2)
    (hquiet : ∀ i, (c.proc i).unfanned = none) : c.shared.ReadIsolated := by
  obtain ⟨hdelivering, hfanned⟩ := run_fanned hrun hkept
  refine readIsolated_of_hasState hdelivering.1 fun m hm => ?_
  rcases hfanned m hm with hstate | ⟨i, hi⟩
  · exact hstate
  rw [hquiet i] at hi
  cases hi

def Sample.complete : List (Nat × Input) := call 0 :: List.replicate 13 (ok 0 1)

/-- After the complete submission, reads are isolated. -/
theorem reads_serve_own_ciphertexts_complete : ∃ c, run env.next start complete = some c ∧
      c.shared.store.messages.length = 1 ∧ c.shared.ReadIsolated := by
  refine exists_of_any (fun c => c.shared.store.messages.length = 1 ∧ c.proc 0 = .idle)
    (by decide) fun c hc ⟨hone, hidle⟩ => ?_
  have hkept : ∀ e ∈ trace env.next start complete,
      FanoutKept (e.1.proc e.2.1) e.2.2 := by decide
  have hquiet : ∀ i, (c.proc i).unfanned = none := by
    intro i
    by_cases hi : i = 0
    · rw [hi, hidle]
      rfl
    have hmoves : ∀ m ∈ complete, m.1 = 0 := by decide
    have hstay : c.proc i = .idle :=
      run_proc_of_not_mem (fun m hm h => hi (h.symm.trans (hmoves m hm))) hc
    rw [hstay]
    rfl
  exact ⟨hone, reads_serve_own_ciphertexts _ _ c hc hkept hquiet⟩

def Sample.rowOnly : List (Nat × Input) :=
  [call 0, ok 0 1, ok 0 1, ok 0 1, ok 0 1, ok 0 1, down 0, ok 0 1, ok 0 1]

def Sample.watchRequest : ReadRequest where
  callerDevice := "watch"
  requestDevice := "watch"
  conversationId := ⟨7⟩
  sinceSequence := 0
  maxMessages := 50

def Sample.watchRead (c : Config Nat Pc World) :
    Option (DeviceId × List (MessageEntity × List WireTarget)) :=
  c.shared.store.read c.shared.counters true none .syncDeviceMessages watchRequest january

/-- **After that failure `watch` is served the ciphertext submitted for `laptop`.** -/
theorem failed_fanout_leaks_front_ciphertext : ∃ c, run env.next start rowOnly = some c ∧
      c.proc 0 = .idle ∧ (watchRead c).map servedCiphertexts = some [("watch", ⟨1⟩, [10])] ∧
      c.shared.SubmittedFor ⟨1⟩ "laptop" [10] ∧ ¬ c.shared.ReadIsolated := by
  refine exists_of_any (fun c => c.proc 0 = .idle ∧
    (watchRead c).map servedCiphertexts = some [("watch", ⟨1⟩, [10])] ∧
    c.shared.SubmittedFor ⟨1⟩ "laptop" [10] ∧ ¬ c.shared.SubmittedFor ⟨1⟩ "watch" [10])
    (by decide) fun c _ ⟨hidle, hserved, hlaptop, hwatch⟩ =>
      ⟨hidle, hserved, hlaptop, fun hisolated => hwatch ?_⟩
  obtain ⟨r, hr, hlist⟩ := map_eq_some_iff.mp hserved
  exact hisolated _ _ _ _ _ r hr ("watch", ⟨1⟩, [10]) (by simp [hlist])

end SecureCloud.Messaging
