import SecureCloud.Messaging.Submission

/-
# Messaging.SequenceUniqueness — one sequence, one message

`ConversationSequenceAllocator` keeps a counter per conversation and bucket. It is a CACHE, loaded from the
highest sequence saved. Between the allocation and the save a sequence exists only in the caller's hands, so a
counter that is dropped in between (`invalidate`, `clear`) is loaded as if the sequence had never been given
out, and the next caller gets it too.

`clear` takes the stripes one after the other. A read of the highest sequence can fail, and so can a save,
with or without effect.
-/

namespace SecureCloud.Messaging

open Lib.Interleaving Lib.Table Function Store List

def MessageEntity.partitionKey (m : MessageEntity) : ConversationId × MessageBucket :=
  (m.conversationId, m.messageBucket)

/-! ## The system -/

structure AllocatorWorld where
  store : Store
  counters : Counters

/-- Where a caller stands: without a sequence, about to save a message under one, or having cleared the
stripes below one. -/
inductive AllocatorPc
  | idle
  | saving (m : MessageEntity)
  | clearing (stripe : Nat)

def AllocatorPc.inFlight : AllocatorPc → Option MessageEntity
  | saving m => some m
  | _ => none

/-- What a caller does next, with the outcome of its repository call. A draft's sequence is not read. -/
inductive AllocatorInput
  | allocate (draft : MessageEntity) (outcome : CallOutcome)
  | peek (conv : ConversationId) (bucket : MessageBucket) (outcome : CallOutcome)
  | invalidate (conv : ConversationId) (bucket : MessageBucket)
  | clear
  | resume (outcome : CallOutcome)

namespace AllocatorWorld

def numStripes : Nat := 64

def available (w : AllocatorWorld) (p : ConversationId × MessageBucket) (outcome : CallOutcome) :
    Bool :=
  (w.counters p).isSome || outcome.thrown.isNone

/-- One move. `stripeOf` is `get_stripe_index` of a partition. -/
def next {ι : Type} (stripeOf : ConversationId × MessageBucket → Nat) (_ : ι) (pc : AllocatorPc)
    (input : AllocatorInput) (w : AllocatorWorld) : Option (AllocatorPc × AllocatorWorld) :=
  match pc, input with
  | .idle, .allocate draft outcome =>
    if w.available draft.partitionKey outcome then
      let (sequence, counters) :=
        w.counters.allocateSequence w.store draft.conversationId draft.messageBucket
      some (.saving { draft with messageSequence := sequence }, { w with counters := counters })
    else some (.idle, w)
  | .idle, .peek conv bucket outcome =>
    if w.available (conv, bucket) outcome then
      some (.idle, { w with counters := (w.counters.peekSequence w.store conv bucket).2 })
    else some (.idle, w)
  | .idle, .invalidate conv bucket =>
    some (.idle, { w with counters := w.counters.invalidate conv bucket })
  | .idle, .clear => some (.clearing 0, w)
  | .saving m, .resume outcome =>
    some (.idle, if outcome.takesEffect then { w with store := w.store.saveMessage m } else w)
  | .clearing stripe, .resume _ =>
    some (if stripe + 1 < numStripes then .clearing (stripe + 1) else .idle,
      { w with counters := w.counters.clearStripe stripeOf stripe })
  | _, _ => none

end AllocatorWorld

open AllocatorWorld

abbrev Allocator (ι : Type) : Type := Lib.Interleaving.Config ι AllocatorPc AllocatorWorld

/-! ## One sequence, one message -/

/-- No two messages have one sequence in one partition. -/
def Store.UniqueSequences (s : Store) : Prop :=
  ∀ m ∈ s.messages, ∀ m' ∈ s.messages, m.partitionKey = m'.partitionKey →
    m.messageSequence = m'.messageSequence → m = m'

def AllocatorWorld.counter (w : AllocatorWorld) (p : ConversationId × MessageBucket) : Nat :=
  w.counters.load w.store p.1 p.2

def AllocatorWorld.lastSaved (w : AllocatorWorld) (p : ConversationId × MessageBucket) : Nat :=
  w.store.getLastSequence p.1 p.2

variable {s : Store} {m : MessageEntity} {p : ConversationId × MessageBucket}

theorem Store.mem_partition :
    m ∈ s.partition p.1 p.2 ↔ m ∈ s.messages ∧ m.partitionKey = p := by
  simp [partition, MessageEntity.partitionKey, Prod.ext_iff]

theorem Store.sequence_le_last (h : m ∈ s.messages) :
    m.messageSequence ≤ s.getLastSequence m.partitionKey.1 m.partitionKey.2 :=
  le_max_of_le (mem_map_of_mem (mem_partition.mpr ⟨h, rfl⟩)) le_rfl

theorem Store.last_le {b : Nat}
    (h : ∀ m ∈ s.messages, m.partitionKey = p → m.messageSequence ≤ b) :
    s.getLastSequence p.1 p.2 ≤ b := by
  refine max_le_of_forall_le _ _ fun n hn => ?_
  obtain ⟨m, hm, rfl⟩ := mem_map.mp hn
  obtain ⟨hrow, hp⟩ := mem_partition.mp hm
  exact h m hrow hp

/-! ## What a move does -/

def AllocatorWorld.Drops (stripeOf : ConversationId × MessageBucket → Nat) (pc : AllocatorPc)
    (input : AllocatorInput) (p : ConversationId × MessageBucket) : Prop :=
  match pc, input with
  | .idle, .invalidate conv bucket => p = (conv, bucket)
  | .clearing stripe, .resume _ => stripeOf p = stripe
  | _, _ => False

section
variable {ι : Type} {stripeOf : ConversationId × MessageBucket → Nat} {i : ι} {pc pc' : AllocatorPc}
  {input : AllocatorInput} {w w' : AllocatorWorld}

variable (p : ConversationId × MessageBucket)

open Counters

variable {conv : ConversationId} {bucket : MessageBucket}

theorem AllocatorWorld.counter_invalidated :
    ({ w with counters := w.counters.invalidate conv bucket } : AllocatorWorld).counter p =
      if p = (conv, bucket) then w.lastSaved p else w.counter p := by
  unfold counter load invalidate
  by_cases hp : p = (conv, bucket)
  · subst hp
    simp [lastSaved]
  · simp [hp]

theorem AllocatorWorld.counter_cleared {stripe : Nat} :
    ({ w with counters := w.counters.clearStripe stripeOf stripe } : AllocatorWorld).counter p =
      if stripeOf p = stripe then w.lastSaved p else w.counter p := by
  unfold counter load clearStripe
  by_cases hp : stripeOf p = stripe
  · simp [hp, lastSaved]
  · simp [hp]

theorem AllocatorWorld.counter_cached {n : Nat} :
    ({ w with counters := update w.counters (conv, bucket) (some n) } :
      AllocatorWorld).counter p = if p = (conv, bucket) then n else w.counter p := by
  unfold counter load
  by_cases hp : p = (conv, bucket)
  · subst hp
    simp
  · simp [hp]

/-- What a move does: it gives out the next sequence, it saves a message, or it gives out and saves
nothing and each counter stays or is dropped. -/
theorem AllocatorWorld.next_cases (h : next stripeOf i pc input w = some (pc', w')) :
    (∃ m, pc = .idle ∧ pc' = .saving m ∧ m.messageSequence = w.counter m.partitionKey + 1 ∧
      w'.store = w.store ∧
      ∀ p, w'.counter p = if p = m.partitionKey then w.counter p + 1 else w.counter p) ∨
    (∃ m, pc = .saving m ∧ pc' = .idle ∧ w' = { w with store := w.store.saveMessage m }) ∨
    ((∀ m, pc' ≠ .saving m) ∧ w'.store = w.store ∧
      ∀ p, w'.counter p = w.counter p ∨ (Drops stripeOf pc input p ∧ w'.counter p = w.lastSaved p)) := by
  unfold next at h
  split at h
  · -- `allocate_sequence`
    rename_i draft outcome
    split at h
    · cases h
      refine .inl ⟨_, rfl, rfl, rfl, rfl, fun p => ?_⟩
      refine (counter_cached p).trans ?_
      by_cases hp : p = draft.partitionKey
      · subst hp
        exact (if_pos rfl).trans (if_pos rfl).symm
      · exact (if_neg hp).trans (if_neg hp).symm
    · cases h
      exact .inr (.inr ⟨fun _ => nofun, rfl, fun p => .inl rfl⟩)
  · -- `peek_sequence`
    rename_i conv bucket outcome
    split at h
    · cases h
      refine .inr (.inr ⟨fun _ => nofun, rfl, fun p => .inl ?_⟩)
      refine (counter_cached p).trans ?_
      split
      · subst p
        rfl
      · rfl
    · cases h
      exact .inr (.inr ⟨fun _ => nofun, rfl, fun p => .inl rfl⟩)
  · -- `invalidate`
    cases h
    refine .inr (.inr ⟨fun _ => nofun, rfl, fun p => ?_⟩)
    rw [counter_invalidated]
    split
    · exact .inr ⟨‹_›, rfl⟩
    · exact .inl rfl
  · -- `clear`, before the first stripe
    cases h
    exact .inr (.inr ⟨fun _ => nofun, rfl, fun p => .inl rfl⟩)
  · -- `save_message`
    rename_i m outcome
    cases h
    split
    · exact .inr (.inl ⟨m, rfl, rfl, rfl⟩)
    · exact .inr (.inr ⟨fun _ => nofun, rfl, fun p => .inl rfl⟩)
  · -- `clear`, one stripe
    rename_i stripe outcome
    cases h
    refine .inr (.inr ⟨fun m => by split <;> exact nofun, rfl, fun p => ?_⟩)
    rw [counter_cleared]
    split
    · exact .inr ⟨‹_›, rfl⟩
    · exact .inl rfl
  · exact nomatch h

end

/-! ## The invariant -/

/-- Sequences given out, saved and to come: one number bounds all those given out and all those
saved, none was given out twice, and none that is in flight has been saved. -/
structure AllocatorInv {ι : Type} (c : Allocator ι) : Prop where
  inFlight : ∀ j m, c.proc j = .saving m → m.messageSequence ≤ c.shared.counter m.partitionKey
  saved : ∀ m ∈ c.shared.store.messages, m.messageSequence ≤ c.shared.counter m.partitionKey
  distinct : ∀ i j m m', c.proc i = .saving m → c.proc j = .saving m' →
    m.partitionKey = m'.partitionKey → m.messageSequence = m'.messageSequence → i = j
  unsaved : ∀ j m, c.proc j = .saving m → ∀ m' ∈ c.shared.store.messages,
    m'.partitionKey = m.partitionKey → m'.messageSequence ≠ m.messageSequence
  unique : c.shared.store.UniqueSequences

section
variable {ι : Type} [DecidableEq ι] {c : Allocator ι} {i : ι} {pc' : AllocatorPc}
  {w' : AllocatorWorld}

theorem saving_of_update {j : ι} (hpc : ∀ m, pc' ≠ .saving m)
    (h : update c.proc i pc' j = .saving m) : j ≠ i ∧ c.proc j = .saving m := by
  rcases update_cases (show id (update c.proc i pc' j) = _ from h) with ⟨-, h⟩ | h
  · exact absurd h (hpc m)
  · exact h

theorem AllocatorInv.quiet (h : AllocatorInv c) (hpc : ∀ m, pc' ≠ .saving m)
    (hstore : w'.store = c.shared.store)
    (hflight : ∀ j m, c.proc j = .saving m → m.messageSequence ≤ w'.counter m.partitionKey)
    (hsaved : ∀ m ∈ c.shared.store.messages, m.messageSequence ≤ w'.counter m.partitionKey) :
    AllocatorInv ⟨update c.proc i pc', w'⟩ where
  inFlight := fun j m hj => hflight j m (saving_of_update hpc hj).2
  saved := by
    rw [hstore]
    exact hsaved
  distinct := fun i₁ i₂ m m' h₁ h₂ =>
    h.distinct i₁ i₂ m m' (saving_of_update hpc h₁).2 (saving_of_update hpc h₂).2
  unsaved := by
    rw [hstore]
    exact fun j m hj => h.unsaved j m (saving_of_update hpc hj).2
  unique := by
    rw [hstore]
    exact h.unique

theorem AllocatorInv.allocated (h : AllocatorInv c)
    (hm : m.messageSequence = c.shared.counter m.partitionKey + 1)
    (hstore : w'.store = c.shared.store) (hcounter : ∀ p, w'.counter p =
      if p = m.partitionKey then c.shared.counter p + 1 else c.shared.counter p) :
    AllocatorInv ⟨update c.proc i (.saving m), w'⟩ := by
  have hle : ∀ p, c.shared.counter p ≤ w'.counter p := by
    intro p
    rw [hcounter]
    split <;> omega
  have hself : w'.counter m.partitionKey = m.messageSequence := by rw [hcounter, if_pos rfl, hm]
  -- everything given out before is below the new sequence
  have hnew : ∀ j m', c.proc j = .saving m' → m'.partitionKey = m.partitionKey →
      m'.messageSequence ≠ m.messageSequence := by
    intro j m' hj hp
    have := h.inFlight j m' hj
    rw [hp] at this
    omega
  have hcases : ∀ {j m'}, update c.proc i (.saving m) j = .saving m' →
      (j = i ∧ m = m') ∨ (j ≠ i ∧ c.proc j = .saving m') := by
    intro j m' hj
    rcases update_cases (show id (update c.proc i (.saving m) j) = _ from hj) with
      ⟨rfl, hnow⟩ | hold
    · exact .inl ⟨rfl, AllocatorPc.saving.inj hnow⟩
    · exact .inr hold
  constructor
  · intro j m' hj
    rcases hcases hj with ⟨rfl, rfl⟩ | ⟨-, hj⟩
    · exact hself.ge
    · exact (h.inFlight j m' hj).trans (hle _)
  · rw [hstore]
    exact fun m' hm' => (h.saved m' hm').trans (hle _)
  · intro i₁ i₂ m₁ m₂ h₁ h₂ hp hseq
    rcases hcases h₁ with ⟨rfl, rfl⟩ | ⟨-, hold₁⟩ <;> rcases hcases h₂ with ⟨rfl, rfl⟩ | ⟨-, hold₂⟩
    · rfl
    · exact absurd hseq.symm (hnew i₂ m₂ hold₂ hp.symm)
    · exact absurd hseq (hnew i₁ m₁ hold₁ hp)
    · exact h.distinct i₁ i₂ m₁ m₂ hold₁ hold₂ hp hseq
  · rw [hstore]
    intro j m' hj row hrow hp
    rcases hcases hj with ⟨rfl, rfl⟩ | ⟨-, hj⟩
    · have := h.saved row hrow
      rw [hp] at this
      omega
    · exact h.unsaved j m' hj row hrow hp
  · rw [hstore]
    exact h.unique

theorem Store.last_saveMessage (s : Store) (m : MessageEntity)
    (p : ConversationId × MessageBucket) :
    s.getLastSequence p.1 p.2 ≤ (s.saveMessage m).getLastSequence p.1 p.2 := by
  refine last_le fun row hrow hp => ?_
  by_cases hkey : row.key = m.key
  · -- the row is replaced by one with the same partition and sequence
    have hm : m ∈ (s.saveMessage m).messages := mem_upsert_self
    have hpart : m.partitionKey = p := by rw [← hp]; exact (congrArg Prod.fst hkey).symm
    have hseq : row.messageSequence = m.messageSequence := congrArg (fun k => k.2.1) hkey
    rw [hseq, ← hpart]
    exact sequence_le_last hm
  · rw [← hp]
    exact sequence_le_last (mem_upsert_of_mem hrow hkey)

theorem AllocatorInv.saveMessage (h : AllocatorInv c) (hi : c.proc i = .saving m) :
    AllocatorInv ⟨update c.proc i .idle,
      { c.shared with store := c.shared.store.saveMessage m }⟩ := by
  have hidle : ∀ m, AllocatorPc.idle ≠ .saving m := fun _ => nofun
  have hle : ∀ p, c.shared.counter p ≤
      ({ c.shared with store := c.shared.store.saveMessage m } : AllocatorWorld).counter p := by
    intro p
    unfold counter Counters.load
    cases c.shared.counters (p.1, p.2) with
    | none => exact last_saveMessage c.shared.store m p
    | some n => exact le_rfl
  constructor
  · exact fun j m' hj => (h.inFlight j m' (saving_of_update hidle hj).2).trans (hle _)
  · intro row hrow
    rcases mem_of_mem_upsert hrow with rfl | hrow
    · exact (h.inFlight i row hi).trans (hle _)
    · exact (h.saved row hrow).trans (hle _)
  · exact fun i₁ i₂ m₁ m₂ h₁ h₂ =>
      h.distinct i₁ i₂ m₁ m₂ (saving_of_update hidle h₁).2 (saving_of_update hidle h₂).2
  · intro j m' hj row hrow hp hseq
    obtain ⟨hne, hold⟩ := saving_of_update hidle hj
    rcases mem_of_mem_upsert hrow with rfl | hrow
    · exact hne (h.distinct i j row m' hi hold hp hseq).symm
    · exact h.unsaved j m' hold row hrow hp hseq
  intro a ha b hb hp hseq
  rcases mem_of_mem_upsert ha with rfl | ha₀ <;> rcases mem_of_mem_upsert hb with rfl | hb₀
  · rfl
  · exact absurd hseq.symm (h.unsaved i a hi b hb₀ hp.symm)
  · exact absurd hseq (h.unsaved i b hi a ha₀ hp)
  · exact h.unique a ha₀ b hb₀ hp hseq

end

/-! ## Runs -/

variable {ι : Type} [DecidableEq ι]

/-- What is granted about a move: when it drops the counter of a partition, every sequence in flight
there is at most the highest one saved. -/
def Settled (stripeOf : ConversationId × MessageBucket → Nat) (c : Allocator ι)
    (move : ι × AllocatorInput) : Prop :=
  ∀ j, ∀ m ∈ (c.proc j).inFlight,
    AllocatorWorld.Drops stripeOf (c.proc move.1) move.2 m.partitionKey →
    m.messageSequence ≤ c.shared.lastSaved m.partitionKey

instance (stripeOf : ConversationId × MessageBucket → Nat) (pc : AllocatorPc) (input : AllocatorInput)
    (p : ConversationId × MessageBucket) :
    Decidable (AllocatorWorld.Drops stripeOf pc input p) := by
  unfold AllocatorWorld.Drops
  split <;> infer_instance

omit [DecidableEq ι] in
instance [Fintype ι] (stripeOf : ConversationId × MessageBucket → Nat) (c : Allocator ι)
    (move : ι × AllocatorInput) : Decidable (Settled stripeOf c move) := by
  unfold Settled
  infer_instance

theorem AllocatorInv.move {stripeOf : ConversationId × MessageBucket → Nat} {c c' : Allocator ι}
    {m : ι × AllocatorInput} (hsettled : Settled stripeOf c m) (h : AllocatorInv c)
    (hmove : move (next stripeOf) c m = some c') :
    AllocatorInv c' := by
  obtain ⟨pc', w', hnext, rfl⟩ := move_eq_some hmove
  rcases next_cases hnext with ⟨msg, -, rfl, hseq, hstore, hcounter⟩ |
    ⟨msg, hpc, rfl, rfl⟩ | ⟨hpc, hstore, hcounter⟩
  · exact h.allocated hseq hstore hcounter
  · exact h.saveMessage hpc
  refine h.quiet hpc hstore (fun j msg hj => ?_) (fun msg hmsg => ?_)
  · rcases hcounter msg.partitionKey with hsame | ⟨hdrops, hlast⟩
    · rw [hsame]
      exact h.inFlight j msg hj
    rw [hlast]
    exact hsettled j msg (by rw [hj]; rfl) hdrops
  rcases hcounter msg.partitionKey with hsame | ⟨-, hlast⟩
  · rw [hsame]
    exact h.saved msg hmsg
  rw [hlast]
  exact sequence_le_last hmsg

def Allocator.start (s : Store) : Allocator ι := ⟨fun _ => .idle, ⟨s, fun _ => none⟩⟩

omit [DecidableEq ι] in
theorem AllocatorInv.init (h : s.UniqueSequences) :
    AllocatorInv (Allocator.start s : Allocator ι) where
  inFlight := fun _ _ hj => nomatch hj
  saved := fun _ hm => sequence_le_last hm
  distinct := fun _ _ _ _ h₁ => nomatch h₁
  unsaved := fun _ _ hj => nomatch hj
  unique := h

/-- **One sequence, one message**, along every run in which counters are dropped only when settled: no
two messages of a partition have one sequence, and nothing is saved under a sequence in flight, so its
save overwrites nothing. -/
theorem uniqueSequences_along_run (stripeOf : ConversationId × MessageBucket → Nat) (s : Store)
    (ms : List (ι × AllocatorInput)) {d : Allocator ι} (hs : s.UniqueSequences)
    (hrun : run (next stripeOf) (Allocator.start s) ms = some d)
    (hgranted : ∀ e ∈ trace (next stripeOf) (Allocator.start s) ms, Settled stripeOf e.1 e.2) :
    d.shared.store.UniqueSequences ∧
      ∀ j m, d.proc j = .saving m → ∀ m' ∈ d.shared.store.messages, m'.key ≠ m.key ∧
        (m'.partitionKey = m.partitionKey → m'.messageSequence ≠ m.messageSequence) := by
  have hinv := run_induction (fun _ _ _ hsettled h hmove => h.move hsettled hmove)
    (AllocatorInv.init hs) hgranted hrun
  refine ⟨hinv.unique, fun j m hj m' hm' => ⟨fun hkey => ?_, hinv.unsaved j m hj m' hm'⟩⟩
  exact hinv.unsaved j m hj m' hm' (congrArg Prod.fst hkey) (congrArg (fun k => k.2.1) hkey)

/-! ## A counter dropped too early -/

theorem year_mem_2026 : 1970 ≤ 2026 ∧ 2026 ≤ 9999 := by decide

theorem month_mem_one : 1 ≤ 1 ∧ 1 ≤ 12 := by decide

def januaryDraft (id : Nat) : MessageEntity where
  conversationId := ⟨7⟩
  messageBucket := ⟨2026, 1, year_mem_2026, month_mem_one⟩
  messageSequence := 0
  messageId := ⟨id⟩
  senderUserId := "u"
  senderDeviceId := "d"
  priority := .normal
  acceptedAt := 1767225600000
  ciphertext := [1]
  envelopeVersion := 1

open Lib.Interleaving.Numerals

/-- Two callers send a message each, and between the two a third one invalidates the counter. The first
message is saved before that, or at the end. -/
def twoSends (early : Bool) : List (Fin 3 × AllocatorInput) :=
  let save := [((0 : Fin 3), AllocatorInput.resume .ok)]
  [(0, .allocate (januaryDraft 1) .ok)] ++ (if early then save else []) ++
    [(2, .invalidate (januaryDraft 1).conversationId (januaryDraft 1).messageBucket),
      (1, .allocate (januaryDraft 2) .ok), (1, .resume .ok)] ++
    if early then [] else save

def twoSendsEnd (early : Bool) : Option (Allocator (Fin 3)) :=
  run (next fun _ => 0) (Allocator.start empty) (twoSends early)

/-- The counter is dropped while the first message is in flight: both are saved under sequence `1`. -/
theorem two_messages_one_sequence :
    ∃ d, twoSendsEnd false = some d ∧ ¬ d.shared.store.UniqueSequences := by
  refine Lib.exists_of_any (fun d => d.shared.store.messages =
      [{ januaryDraft 1 with messageSequence := 1 }, { januaryDraft 2 with messageSequence := 1 }])
    (by decide) fun d _ hrows hunique => ?_
  unfold Store.UniqueSequences at hunique
  rw [hrows] at hunique
  have heq := hunique _ mem_cons_self _ (mem_cons_of_mem _ mem_cons_self) rfl rfl
  exact absurd heq (by decide)

/-- Dropped after the save, it does no harm. -/
theorem two_sequences_when_settled :
    ∃ d, twoSendsEnd true = some d ∧ d.shared.store.UniqueSequences := by
  obtain ⟨d, hd⟩ := Option.isSome_iff_exists.mp
    (show (twoSendsEnd true).isSome = true by decide)
  exact ⟨d, hd, (uniqueSequences_along_run (fun _ => 0) empty (twoSends true)
    (nofun) hd (by decide)).1⟩

end SecureCloud.Messaging
