import SecureCloud.Messaging.SubmissionSteps

/-
# Messaging.ExactlyOnce — one message per idempotency key

The submission record of a key is a three-state register (PROCESSING, COMMITTED, FAILED) that the guard
consults before a process goes ahead. The stripe mutex makes the processes of one key take turns, so the
question is which partial states an attempt leaves behind.

* Replies are safe in EVERY run: a positive reply is sent only once the record is COMMITTED, and every
  later reply is read off that record.
* Rows are not. The `catch` block sets the record to FAILED whatever was already written, and the next
  attempt mints a new identifier and writes a second row. The rows of a key stay unique exactly as long as
  no FAILED record is written over an existing row (`Clean`).
-/

namespace SecureCloud.Messaging

open Lib Lib.Interleaving Pc Sample SubmissionEnv List Option

/-! ## What a run has to show for a key -/

def World.Persisted (w : World) (k : SubmissionKey) (row : MessageEntity) : Prop :=
  .rowPersisted k row ∈ w.log

def World.Answered (w : World) (k : SubmissionKey) (resp : MessageSubmissionResponse) : Prop :=
  .replied k (.ok resp) ∈ w.log

/-- Exactly-once submission: at most one row, and one identity in every positive reply. -/
def World.ExactlyOnce (w : World) (k : SubmissionKey) : Prop :=
  (∀ row row', w.Persisted k row → w.Persisted k row' → row = row') ∧
    ∀ resp resp', w.Answered k resp → w.Answered k resp' →
      resp.messageId = resp'.messageId ∧ resp.messageSequence = resp'.messageSequence

def World.rowsOf (w : World) (k : SubmissionKey) : List MessageEntity :=
  w.log.filterMap fun e =>
    match e with
    | .rowPersisted k' row => if k' = k then some row else none
    | _ => none

variable {k : SubmissionKey} {a : Attempt} {w w' : World} {pc : Pc} {row : MessageEntity}

theorem mem_rowsOf : row ∈ w.rowsOf k ↔ w.Persisted k row := by
  simp only [World.rowsOf, mem_filterMap, World.Persisted]
  constructor
  · rintro ⟨e, he, hrow⟩
    cases e <;> simp at hrow
    obtain ⟨rfl, rfl⟩ := hrow
    exact he
  · intro h
    exact ⟨_, h, by simp⟩

/-- A move is clean unless it sets to FAILED the record of a key that already has a row. -/
def Clean (pc : Pc) (x : Input) (w : World) : Prop :=
  match pc with
  | .recordingFailure a _ _ => x.takesEffect = true → w.rowsOf a.key = []
  | _ => True

instance (pc : Pc) (x : Input) (w : World) : Decidable (Clean pc x w) := by
  unfold Clean
  split <;> infer_instance

structure SameKey (w w' : World) (k : SubmissionKey) : Prop where
  record : w'.store.submissions k = w.store.submissions k
  rows : ∀ row, w'.Persisted k row ↔ w.Persisted k row
  replies : ∀ resp, w'.Answered k resp ↔ w.Answered k resp

@[simp]
theorem submissions_saveSubmission_self (s : Store) (r : IdempotencyRecord) :
    (s.saveSubmission r).submissions r.key = some r := by
  simp [Store.saveSubmission]

variable {r : IdempotencyRecord}

theorem submissions_saveSubmission_of_ne {s : Store}
    (h : k ≠ r.key) : (s.saveSubmission r).submissions k = s.submissions k := by
  simp [Store.saveSubmission, Function.update_of_ne h]

/-! ## The assertions -/

/-- The part of the global assertion that concerns one key. -/
structure Ledger (w : World) (k : SubmissionKey) : Prop where
  keyed : ∀ r, w.store.submissions k = some r → r.key = k
  /-- A key that may be submitted afresh has nothing to show. -/
  fresh : (∀ r, w.store.submissions k = some r → r.submissionStatus = .failed) →
    (∀ row, ¬ w.Persisted k row) ∧ ∀ resp, ¬ w.Answered k resp
  /-- A committed record is what the replies reported. -/
  cached : ∀ r, w.store.submissions k = some r → r.submissionStatus = .committed →
    ∀ resp, w.Answered k resp →
      resp.messageId = r.messageId ∧ resp.messageSequence = r.messageSequence
  once : w.ExactlyOnce k

def Pc.attempt : Pc → Option Attempt
  | .claiming a => some a
  | .failing a _ => some a
  | .recordingFailure a _ _ => some a
  | pc => pc.trying

def Pc.beforeRow : Pc → Option Attempt
  | .claiming a => some a
  | .allocating a => some a
  | .saving a _ _ => some a
  | _ => none

/-- The local assertion of process `i`. -/
structure Holder (env : SubmissionEnv) (i : Nat) (pc : Pc) (w : World) : Prop where
  stripe : ∀ k, pc.holds = some k → w.stripes (env.stripe k) = some i
  silent : ∀ a, pc.attempt = some a → ∀ resp, ¬ w.Answered a.key resp
  unwritten : ∀ a, pc.beforeRow = some a → ∀ row, ¬ w.Persisted a.key row
  claimed : ∀ a, pc.trying = some a →
    ∃ r, w.store.submissions a.key = some r ∧ r.submissionStatus = .processing
  found : ∀ a r what, pc = .recordingFailure a r what → w.store.submissions a.key = some r

theorem Pc.holds_of_attempt (h : pc.attempt = some a) : pc.holds = some a.key := by
  cases pc <;> simp_all [attempt, trying, holds]

theorem Pc.attempt_of_trying (h : pc.trying = some a) : pc.attempt = some a := by
  cases pc <;> simp_all [attempt, trying]

theorem Pc.attempt_of_beforeRow (h : pc.beforeRow = some a) : pc.attempt = some a := by
  cases pc <;> simp_all [attempt, trying, beforeRow]

theorem Ledger.congr (h : SameKey w w' k) (hl : Ledger w k) : Ledger w' k where
  keyed r hr := hl.keyed r (h.record ▸ hr)
  fresh hr := by
    obtain ⟨h₁, h₂⟩ := hl.fresh fun r hr' => hr r (h.record.symm ▸ hr')
    exact ⟨fun row hrow => h₁ row ((h.rows row).mp hrow),
      fun resp hresp => h₂ resp ((h.replies resp).mp hresp)⟩
  cached r hr hs resp hresp := hl.cached r (h.record ▸ hr) hs resp ((h.replies resp).mp hresp)
  once :=
    ⟨fun row row' h₁ h₂ => hl.once.1 row row' ((h.rows row).mp h₁) ((h.rows row').mp h₂),
      fun resp resp' h₁ h₂ =>
        hl.once.2 resp resp' ((h.replies resp).mp h₁) ((h.replies resp').mp h₂)⟩

/-! ## Frame: a move concerns the key its process holds, and no other -/

section
variable (hs : w'.store.submissions k = w.store.submissions k)

include hs

theorem sameKey_of_store (hl : w'.log = w.log) :
    SameKey w w' k where
  record := hs
  rows row := by simp [World.Persisted, hl]
  replies resp := by simp [World.Answered, hl]

theorem sameKey_of_log {e : SubmissionEvent} (hl : w'.log = e :: w.log)
    (hrow : ∀ row, .rowPersisted k row ≠ e) (hresp : ∀ resp, .replied k (.ok resp) ≠ e) :
    SameKey w w' k where
  record := hs
  rows row := by simp [World.Persisted, hl, hrow row]
  replies resp := by simp [World.Answered, hl, hresp resp]

end

namespace SubmissionEnv

variable {env : SubmissionEnv} {i j : Nat} {x : Input} {pc pc' q : Pc} {w w' : World}

@[simp]
theorem finish_store (key : SubmissionKey) (result : SubmissionResult) :
    (env.finish w key result).2.store = w.store := rfl

@[simp]
theorem finish_log (key : SubmissionKey) (result : SubmissionResult) :
    (env.finish w key result).2.log = .replied key result :: w.log := rfl

variable {key : SubmissionKey} {result : SubmissionResult}

theorem sameKey_finish {w₀ : World}
    (hs : w.store.submissions k = w₀.store.submissions k) (hl : w.log = w₀.log)
    (hr : k = key → result.Negative) : SameKey w₀ (env.finish w key result).2 k := by
  refine sameKey_of_log (e := .replied key result) (by simpa using hs) (by simp [hl]) nofun ?_
  intro resp h
  cases h
  exact hr rfl resp rfl

section
variable (h : Moves env i x pc w pc' w')
include h

theorem Moves.sameKey (hk : pc.holds ≠ some k)
    (hrec : ∀ a r what, pc = .recordingFailure a r what → r.key = a.key) : SameKey w w' k := by
  have hne : ∀ {key : SubmissionKey}, pc.holds = some key → k ≠ key := by
    rintro key hkey rfl
    exact hk hkey
  cases h with
  | refuse hr =>
    refine sameKey_of_log rfl rfl nofun ?_
    intro resp h
    cases h
    exact hr resp rfl
  | accept | lock | wait | queued | tracked | allocate | throw | findFailed =>
    exact sameKey_of_store rfl rfl
  | queue | track | enqueue => exact sameKey_of_store rfl rfl
  | replay => exact sameKey_finish rfl rfl (absurd · (hne rfl))
  | giveUp hh _ hr => exact sameKey_finish rfl rfl fun _ => hr
  | mint => exact sameKey_of_log rfl rfl nofun nofun
  | claim | commitLost => exact sameKey_of_store (submissions_saveSubmission_of_ne (hne rfl)) rfl
  | claimLost | commit =>
    exact sameKey_finish (submissions_saveSubmission_of_ne (hne rfl)) rfl (absurd · (hne rfl))
  | persist =>
    refine sameKey_of_log rfl rfl ?_ nofun
    intro row h
    cases h
    exact hne rfl rfl
  | @recordFailure w a r what result hx hr =>
    have hkey : r.key = a.key := hrec a r what rfl
    refine sameKey_finish ?_ rfl fun _ => hr
    exact submissions_saveSubmission_of_ne (r := { r with submissionStatus := .failed })
      (fun h => hne rfl (h.trans hkey))

/-- Lock discipline: a move keeps its stripe, takes a free one, or returns its own. -/
theorem Moves.stripes :
    (pc'.holds = pc.holds ∧ w'.stripes = w.stripes) ∨
      (∃ k, pc.holds = none ∧ pc'.holds = some k ∧ w.stripes (env.stripe k) = none ∧
        w'.stripes = Function.update w.stripes (env.stripe k) (some i)) ∨
      ∃ k, pc.holds = some k ∧ pc'.holds = none ∧
        w'.stripes = Function.update w.stripes (env.stripe k) none := by
  cases h with
  | lock hfree => exact .inr (.inl ⟨_, rfl, rfl, hfree, rfl⟩)
  | giveUp hh => exact .inr (.inr ⟨_, hh, rfl, rfl⟩)
  | replay | claimLost | commit | recordFailure => exact .inr (.inr ⟨_, rfl, rfl, rfl⟩)
  | throw htry =>
    exact .inl ⟨(holds_of_attempt (attempt_of_trying htry)).symm, rfl⟩
  | persist _ hpc | queue hpc | track hpc | enqueue hpc =>
    rcases hpc with ⟨_, rfl⟩ | ⟨_, what, rfl⟩ <;> exact .inl ⟨rfl, rfl⟩
  | _ => exact .inl ⟨rfl, rfl⟩

section
variable (hi : ∀ k, pc.holds = some k → w.stripes (env.stripe k) = some i)

include hi

theorem Moves.holds_stripe :
    ∀ k, pc'.holds = some k → w'.stripes (env.stripe k) = some i := by
  intro k hk
  rcases h.stripes with ⟨hh, hs⟩ | ⟨k', hn, hk', _, hs⟩ | ⟨k', _, hn, _⟩
  · rw [hs]
    exact hi k (hh ▸ hk)
  · obtain rfl : k = k' := some.inj (hk.symm.trans hk')
    simp [hs]
  rw [hn] at hk
  cases hk

theorem Moves.stripe_other
    (hij : i ≠ j) {s : Nat} (hs : w.stripes s = some j) : w'.stripes s = some j := by
  rcases h.stripes with ⟨_, he⟩ | ⟨k, _, _, hfree, he⟩ | ⟨k, hk, _, he⟩
  · rw [he, hs]
  · have hne : s ≠ env.stripe k := by
      rintro rfl
      rw [hfree] at hs
      cases hs
    rw [he, Function.update_of_ne hne, hs]
  have hne : s ≠ env.stripe k := by
    rintro rfl
    rw [hi k hk] at hs
    exact hij (some.inj hs)
  rw [he, Function.update_of_ne hne, hs]

end

end

/-! ## The mover's own key -/

@[simp]
theorem answered_finish {resp : MessageSubmissionResponse} :
    (env.finish w key result).2.Answered k resp ↔
      (k = key ∧ result = .ok resp) ∨ w.Answered k resp := by
  simp only [World.Answered, finish_log, mem_cons, SubmissionEvent.replied.injEq]
  rw [eq_comm (b := result)]

@[simp]
theorem persisted_finish :
    (env.finish w key result).2.Persisted k row ↔ w.Persisted k row := by
  simp [World.Persisted]

theorem rows_finish (h : ∀ row row', w.Persisted k row → w.Persisted k row' → row = row') :
    ∀ row row', (env.finish w key result).2.Persisted k row →
      (env.finish w key result).2.Persisted k row' → row = row' := by
  intro row row' h₁ h₂
  exact h row row' (persisted_finish.mp h₁) (persisted_finish.mp h₂)

section
variable (hr : w.store.submissions k = some r) (hkey : r.key = k)

include hr hkey

theorem ledger_of_record
    (hfailed : r.submissionStatus = .failed →
      (∀ row, ¬ w.Persisted k row) ∧ ∀ resp, ¬ w.Answered k resp)
    (hcommitted : r.submissionStatus = .committed → ∀ resp, w.Answered k resp →
      resp.messageId = r.messageId ∧ resp.messageSequence = r.messageSequence)
    (honce : w.ExactlyOnce k) : Ledger w k where
  keyed r' hr' := by
    obtain rfl : r = r' := some.inj (hr.symm.trans hr')
    exact hkey
  fresh hall := hfailed (hall r hr)
  cached r' hr' hs := by
    obtain rfl : r = r' := some.inj (hr.symm.trans hr')
    exact hcommitted hs
  once := honce

theorem ledger_of_silent (hsilent : ∀ resp, ¬ w.Answered k resp)
    (hrows : ∀ row row', w.Persisted k row → w.Persisted k row' → row = row')
    (hfailed : r.submissionStatus = .failed → ∀ row, ¬ w.Persisted k row) : Ledger w k :=
  ledger_of_record hr hkey (fun h => ⟨hfailed h, hsilent⟩)
    (fun _ resp h => absurd h (hsilent resp)) ⟨hrows, fun resp _ h _ => absurd h (hsilent resp)⟩

end

theorem silent_finish (hr : result.Negative) (hsilent : ∀ resp, ¬ w.Answered k resp) :
    ∀ resp, ¬ (env.finish w key result).2.Answered k resp := by
  intro resp hresp
  rcases answered_finish.mp hresp with ⟨_, heq⟩ | hold
  · exact hr resp heq
  · exact hsilent resp hold

/-- Own key. The ledger of the key a process holds survives each of its clean moves. -/
theorem Moves.ledger_own (h : Moves env i x pc w pc' w') (hclean : Clean pc x w)
    (hk : pc.holds = some k) (hl : Ledger w k) (hL : Holder env i pc w) : Ledger w' k := by
  cases h with
  | refuse | accept | lock => cases hk
  | wait | queued | tracked | allocate | throw | findFailed | queue | track | enqueue =>
    exact Ledger.congr (w := w) (sameKey_of_store rfl rfl) hl
  | giveUp hh _ hr => exact Ledger.congr (w := w) (sameKey_finish rfl rfl fun _ => hr) hl
  | mint => exact Ledger.congr (w := w) (sameKey_of_log rfl rfl nofun nofun) hl
  | @replay w cmd fp n r hr hs =>
    cases hk
    -- the new reply repeats the record, which is what the earlier ones reported
    have hcached : ∀ resp, (env.finish w cmd.key (.ok (cachedResponse r))).2.Answered cmd.key resp →
        resp.messageId = r.messageId ∧ resp.messageSequence = r.messageSequence := by
      intro resp hresp
      rcases answered_finish.mp hresp with ⟨_, heq⟩ | hold
      · cases heq
        exact ⟨rfl, rfl⟩
      · exact hl.cached r hr hs resp hold
    refine ledger_of_record hr (hl.keyed r hr) (by simp [hs]) (fun _ => hcached) ⟨rows_finish hl.once.1, ?_⟩
    · intro resp resp' h₁ h₂
      obtain ⟨ha, hb⟩ := hcached resp h₁
      obtain ⟨hc, hd⟩ := hcached resp' h₂
      exact ⟨ha.trans hc.symm, hb.trans hd.symm⟩
  | @claim w a now =>
    cases hk
    exact ledger_of_silent (submissions_saveSubmission_self w.store (a.processingRecord now)) rfl
      (hL.silent a rfl) hl.once.1 nofun
  | @claimLost w a now =>
    cases hk
    exact ledger_of_silent (submissions_saveSubmission_self w.store (a.processingRecord now)) rfl
      (silent_finish nofun (hL.silent a rfl)) (rows_finish hl.once.1) nofun
  | @persist w a b n pc' hx hpc =>
    cases hk
    obtain ⟨r, hr, hs⟩ := hL.claimed a rfl
    -- no row was there before, so the new one is the only one
    have honly : ∀ row, ({ w with
          store := w.store.saveMessage (a.messageEntity b n)
          log := .rowPersisted a.key (a.messageEntity b n) :: w.log } : World).Persisted a.key row →
        row = a.messageEntity b n := by
      intro row hrow
      rcases mem_cons.mp hrow with heq | hold
      · cases heq
        rfl
      · exact absurd hold (hL.unwritten a rfl row)
    refine ledger_of_silent hr (hl.keyed r hr) ?_ ?_ (by simp [hs])
    · intro resp hresp
      exact hL.silent a rfl resp ((mem_cons.mp hresp).resolve_left nofun)
    intro row row' h₁ h₂
    exact (honly row h₁).trans (honly row' h₂).symm
  | @commit w a n =>
    cases hk
    have honly : ∀ resp, (env.finish { w with
          store := w.store.saveSubmission (a.committedRecord n) } a.key
          (.ok (a.response n))).2.Answered a.key resp → resp = a.response n := by
      intro resp hresp
      rcases answered_finish.mp hresp with ⟨_, heq⟩ | hold
      · cases heq
        rfl
      · exact absurd hold (hL.silent a rfl resp)
    refine ledger_of_record (submissions_saveSubmission_self w.store (a.committedRecord n)) rfl
      nofun ?_ ⟨rows_finish hl.once.1, ?_⟩
    · intro _ resp hresp
      rw [honly resp hresp]
      exact ⟨rfl, rfl⟩
    intro resp resp' h₁ h₂
    rw [honly resp h₁, honly resp' h₂]
    exact ⟨rfl, rfl⟩
  | @commitLost w a n what =>
    cases hk
    exact ledger_of_silent (submissions_saveSubmission_self w.store (a.committedRecord n)) rfl
      (hL.silent a rfl) hl.once.1 nofun
  | @recordFailure w a r what result hx hr =>
    cases hk
    -- cleanliness: FAILED is only written while the key has no row
    have hnone : ∀ row, ¬ w.Persisted a.key row := by
      intro row hrow
      have hempty : w.rowsOf a.key = [] := hclean hx
      have hmem : row ∈ w.rowsOf a.key := mem_rowsOf.mpr hrow
      simp [hempty] at hmem
    have hkey : r.key = a.key := hl.keyed r (hL.found a r what rfl)
    have hsaved := submissions_saveSubmission_self w.store { r with submissionStatus := .failed }
    rw [show IdempotencyRecord.key { r with submissionStatus := .failed } = a.key from hkey] at hsaved
    refine ledger_of_silent hsaved hkey (silent_finish hr (hL.silent a rfl)) (rows_finish hl.once.1) ?_
    intro _ row hrow
    rw [persisted_finish] at hrow
    exact hnone row hrow

/-! ## The mover's next local assertion -/

theorem holder_of_no_attempt (hstripe : ∀ k, pc.holds = some k → w.stripes (env.stripe k) = some i)
    (hno : pc.attempt = none) : Holder env i pc w where
  stripe := hstripe
  silent a ha := by simp [hno] at ha
  unwritten a ha := by simp [attempt_of_beforeRow ha] at hno
  claimed a ha := by simp [attempt_of_trying ha] at hno
  found a r what hpc := by simp [hpc, attempt] at hno

section
variable (hL : Holder env i pc w)
  (hstripe : ∀ k, pc'.holds = some k → w'.stripes (env.stripe k) = some i)
include hL hstripe

theorem holder_advance (hattempt : ∀ a, pc'.attempt = some a → pc.attempt = some a)
    (hbefore : ∀ a, pc'.beforeRow = some a → pc.beforeRow = some a ∧
      ∀ row, w'.Persisted a.key row → w.Persisted a.key row)
    (htrying : ∀ a, pc'.trying = some a → pc.trying = some a ∧
      w'.store.submissions a.key = w.store.submissions a.key)
    (hfound : ∀ a r what, pc' = .recordingFailure a r what → w'.store.submissions a.key = some r)
    (hreplies : ∀ k resp, w'.Answered k resp → w.Answered k resp) : Holder env i pc' w' where
  stripe := hstripe
  silent a ha resp hresp := hL.silent a (hattempt a ha) resp (hreplies _ _ hresp)
  unwritten a ha row hrow := by
    obtain ⟨hb, hrows⟩ := hbefore a ha
    exact hL.unwritten a hb row (hrows row hrow)
  claimed a ha := by
    obtain ⟨ht, hs⟩ := htrying a ha
    obtain ⟨r, hr, hp⟩ := hL.claimed a ht
    exact ⟨r, hs.trans hr, hp⟩
  found := hfound

theorem holder_advance_within (hpc : pc.trying = some a)
    (hpc' : pc'.trying = some a ∨ ∃ what, pc' = .failing a what) (hbefore : pc'.beforeRow = none)
    (hs : w'.store.submissions = w.store.submissions)
    (hreplies : ∀ k resp, w'.Answered k resp → w.Answered k resp) : Holder env i pc' w' := by
  have hattempt : pc'.attempt = some a := by
    rcases hpc' with h | ⟨what, rfl⟩
    · exact attempt_of_trying h
    · rfl
  refine holder_advance hL hstripe ?_ ?_ ?_ ?_ hreplies
  · intro a' ha'
    rw [← ha', hattempt]
    exact attempt_of_trying hpc
  · intro a' ha'
    rw [hbefore] at ha'
    cases ha'
  · intro a' ha'
    rcases hpc' with h | ⟨what, rfl⟩
    · rw [h] at ha'
      exact ⟨hpc.trans ha', by rw [hs]⟩
    · cases ha'
  · rintro a' r what rfl
    rcases hpc' with h | ⟨what', h⟩ <;> cases h

end

theorem Moves.holder (h : Moves env i x pc w pc' w') (hG : ∀ k, Ledger w k)
    (hL : Holder env i pc w) : Holder env i pc' w' := by
  have hstripe := h.holds_stripe hL.stripe
  cases h with
  | refuse | accept | lock | wait | replay | giveUp | claimLost | commit | recordFailure =>
    exact holder_of_no_attempt hstripe rfl
  | @mint w cmd fp n m now hm hfresh =>
    obtain ⟨hrows, hsilent⟩ := (hG cmd.key).fresh hfresh
    refine ⟨hstripe, ?_, ?_, nofun, nofun⟩
    · rintro a ha resp hresp
      cases ha
      exact hsilent resp ((mem_cons.mp hresp).resolve_left nofun)
    rintro a ha row hrow
    cases ha
    exact hrows row ((mem_cons.mp hrow).resolve_left nofun)
  | @claim w a now =>
    refine ⟨hstripe, ?_, ?_, ?_, nofun⟩
    · exact fun a' ha' => hL.silent a' ha'
    · exact fun a' ha' => hL.unwritten a' ha'
    rintro a' ha'
    cases ha'
    exact ⟨_, submissions_saveSubmission_self w.store (a.processingRecord now), rfl⟩
  | allocate =>
    exact holder_advance hL hstripe (fun _ h => h) (fun _ h => ⟨h, fun _ h => h⟩) (fun _ h => ⟨h, rfl⟩)
      nofun fun _ _ h => h
  | throw htry =>
    exact holder_advance_within hL hstripe htry (.inr ⟨_, rfl⟩) rfl rfl fun _ _ h => h
  | @persist w a b n pc' hx hpc =>
    have hreplies : ∀ k resp, ({ w with
          store := w.store.saveMessage (a.messageEntity b n)
          log := .rowPersisted a.key (a.messageEntity b n) :: w.log } : World).Answered k resp →
        w.Answered k resp := by
      intro k resp hresp
      exact (mem_cons.mp hresp).resolve_left nofun
    rcases hpc with ⟨_, rfl⟩ | ⟨_, what, rfl⟩
    · exact holder_advance_within hL hstripe rfl (.inl rfl) rfl rfl hreplies
    · exact holder_advance_within hL hstripe rfl (.inr ⟨what, rfl⟩) rfl rfl hreplies
  | queue hpc | track hpc | enqueue hpc =>
    rcases hpc with ⟨_, rfl⟩ | ⟨_, what, rfl⟩
    · exact holder_advance_within hL hstripe rfl (.inl rfl) rfl rfl fun _ _ h => h
    · exact holder_advance_within hL hstripe rfl (.inr ⟨what, rfl⟩) rfl rfl fun _ _ h => h
  | queued | tracked =>
    exact holder_advance_within hL hstripe rfl (.inl rfl) rfl rfl fun _ _ h => h
  | commitLost =>
    exact holder_advance hL hstripe (fun _ h => h) nofun nofun nofun fun _ _ h => h
  | findFailed hr =>
    refine holder_advance hL hstripe (fun _ h => h) nofun nofun ?_ fun _ _ h => h
    rintro a r what heq
    cases heq
    exact hr

/-- Interference freedom. Another process's assertion is about the key whose stripe it holds,
and the mover does not hold that stripe. -/
theorem Moves.holder_other (h : Moves env i x pc w pc' w') (hij : i ≠ j)
    (hG : ∀ k, Ledger w k) (hi : Holder env i pc w) (hj : Holder env j q w) :
    Holder env j q w' := by
  have hsame : ∀ {k}, q.holds = some k → SameKey w w' k := by
    intro k hk
    refine h.sameKey ?_ fun a r what hpc => (hG a.key).keyed r (hi.found a r what hpc)
    intro hk'
    have hboth := (hi.stripe k hk').symm.trans (hj.stripe k hk)
    exact hij (some.inj hboth)
  refine ⟨?_, ?_, ?_, ?_, ?_⟩
  · intro k hk
    exact h.stripe_other hi.stripe hij (hj.stripe k hk)
  · intro a ha resp hresp
    have hk := hsame (holds_of_attempt ha)
    exact hj.silent a ha resp ((hk.replies resp).mp hresp)
  · intro a ha row hrow
    have hk := hsame (holds_of_attempt (attempt_of_beforeRow ha))
    exact hj.unwritten a ha row ((hk.rows row).mp hrow)
  · intro a ha
    have hk := hsame (holds_of_attempt (attempt_of_trying ha))
    obtain ⟨r, hr, hp⟩ := hj.claimed a ha
    exact ⟨r, hk.record.trans hr, hp⟩
  rintro a r what rfl
  have hk : SameKey w w' a.key := hsame rfl
  exact hk.record.trans (hj.found a r what rfl)

/-! ## Whole runs -/

theorem ledger_init (k : SubmissionKey) : Ledger World.init k where
  keyed r hr := by cases hr
  fresh _ := ⟨fun row => List.not_mem_nil, fun resp => List.not_mem_nil⟩
  cached r hr := by cases hr
  once := ⟨nofun, nofun⟩

theorem annotated_start : Annotated (fun w => ∀ k, Ledger w k) (Holder env) start :=
  ⟨ledger_init, fun _ => holder_of_no_attempt nofun rfl⟩

/-- The ledger along every clean run. -/
theorem run_annotated_of_clean {ms : List (Nat × Input)} {c : Config Nat Pc World}
    (hrun : run env.next start ms = some c)
    (hclean : ∀ e ∈ trace env.next start ms, Clean (e.1.proc e.2.1) e.2.2 e.1.shared) :
    Annotated (fun w => ∀ k, Ledger w k) (Holder env) c := by
  refine run_induction (I := Annotated _ (Holder env))
    (A := fun c m => Clean (c.proc m.1) m.2 c.shared) ?_ annotated_start hclean hrun
  rintro c ⟨i, x⟩ c' hc ⟨hG, hL⟩ hmove
  refine move_annotated ?_ ?_ hmove
  · intro pc' w' hn
    have hm := moves_of_next hn
    have hrec : ∀ a r what, c.proc i = .recordingFailure a r what → r.key = a.key :=
      fun a r what hpc => (hG a.key).keyed r ((hL i).found a r what hpc)
    refine ⟨fun k => ?_, hm.holder hG (hL i)⟩
    by_cases hk : (c.proc i).holds = some k
    · exact hm.ledger_own hc hk (hG k) (hL i)
    · exact (hG k).congr (hm.sameKey hk hrec)
  · intro j pc' w' hij hn
    exact (moves_of_next hn).holder_other hij hG (hL i) (hL j)

end SubmissionEnv

/-- **Exactly-once submission, in every clean run**: any processes, any interleaving, any storage
failures, any number of retries. -/
theorem submit_message_exactly_once (env : SubmissionEnv) (ms : List (Nat × Input))
    (c : Config Nat Pc World)
    (hrun : run env.next start ms = some c)
    (hclean : ∀ e ∈ trace env.next start ms,
      Clean (e.1.proc e.2.1) e.2.2 e.1.shared) (k : SubmissionKey) :
    c.shared.ExactlyOnce k :=
  ((run_annotated_of_clean hrun hclean).1 k).once

/-- An attempt that fails before its row is written (loading the sequence), and a retry that succeeds. -/
def Sample.retryBeforeRow : List (Nat × Input) :=
  [call 0, ok 0 1, ok 0 1, ok 0 1, down 0, ok 0 1, ok 0 1, call 1, ok 1 2, ok 1 2, ok 1 2, ok 1 2,
    ok 1 2, ok 1 2, ok 1 2, ok 1 2, ok 1 2, ok 1 2, ok 1 2, ok 1 2, ok 1 2]

/-- The clean retry above runs to the end, with one row and one positive reply to show. -/
theorem submit_message_exactly_once_retry : ∃ c, run env.next start retryBeforeRow = some c ∧
      (c.shared.rowsOf command.key).length = 1 ∧
      c.shared.ExactlyOnce command.key := by
  have hclean : ∀ e ∈ trace env.next start retryBeforeRow,
      Clean (e.1.proc e.2.1) e.2.2 e.1.shared := by decide
  exact exists_of_any _ (by decide) fun c hc hlen =>
    ⟨hlen, submit_message_exactly_once _ _ c hc hclean _⟩

/-- The storage goes down right AFTER the row is written, FAILED is recorded, and the client retries. -/
def Sample.retryAfterRow : List (Nat × Input) :=
  [call 0, ok 0 1, ok 0 1, ok 0 1, ok 0 1, ok 0 1, down 0, ok 0 1, ok 0 1, call 1, ok 1 2, ok 1 2,
    ok 1 2, ok 1 2, ok 1 2, ok 1 2, ok 1 2, ok 1 2, ok 1 2, ok 1 2, ok 1 2, ok 1 2, ok 1 2]

/-- **The retry writes a second row** for the same key, under a second identifier. -/
theorem retry_after_row_persists_two_rows : ∃ c, run env.next start retryAfterRow = some c ∧
      (c.shared.rowsOf command.key).map (·.messageId) = [⟨2⟩, ⟨1⟩] ∧
      ¬ c.shared.ExactlyOnce command.key := by
  refine exists_of_any _ (by decide) fun c _ hids => ⟨hids, fun honce => ?_⟩
  obtain ⟨row₂, tail, hcons, h₂, htail⟩ := map_eq_cons_iff.mp hids
  obtain ⟨row₁, rest, rfl, h₁, _⟩ := map_eq_cons_iff.mp htail
  have heq : row₂ = row₁ := honce.1 row₂ row₁ (mem_rowsOf.mp (by simp [hcons]))
    (mem_rowsOf.mp (by simp [hcons]))
  rw [heq, h₁] at h₂
  exact absurd h₂ (by decide)

end SecureCloud.Messaging
