import SecureCloud.Messaging.Membership
import SecureCloud.Messaging.Submission

/-
# Messaging.DirectConversations — one conversation per pair of users, or two

`create_direct_conversation` is a lookup and then seven writes, without a condition, and nothing is undone
when one throws. Every storage call is a move; it may fail, or time out AFTER it has reached the store; any
number of creations interleave, and a caller who got an exception starts another one.

Two things go wrong. Two creations that both look the pair up before either has written make a
conversation each. And a creation that stops between `save_direct_conversation` and its last
`add_participant` leaves a conversation without its participants, which every later call answers with.
-/

namespace SecureCloud.Messaging

open Lib ConversationStore Lib.Interleaving Function Option

/-! ## The creation as a process -/

/-- A request that got past the first check. -/
structure DirectRequest where
  caller : UserId
  recipient : UserId
  ne : caller ≠ recipient

def DirectRequest.pair (r : DirectRequest) : DirectPair :=
  DirectPair.ofUsers r.caller r.recipient r.ne

inductive DirectPc
  | called (caller recipient : UserId)
  | finding (r : DirectRequest)
  | loading (r : DirectRequest) (id : ConversationId)
  | savingConversation (r : DirectRequest) (conv : ConversationEntity)
  | savingDirect (r : DirectRequest) (conv : ConversationEntity)
  | addingCaller (r : DirectRequest) (conv : ConversationEntity)
  | addingRecipient (r : DirectRequest) (conv : ConversationEntity)
  | touchingCaller (r : DirectRequest) (conv : ConversationEntity)
  | touchingRecipient (r : DirectRequest) (conv : ConversationEntity)
  | recording (r : DirectRequest) (conv : ConversationEntity)
  | replied (r : DirectRequest) (conv : ConversationEntity)
  | refused (code : MessagingErrorCode) (message : String)
  | threw (what : String)

/-- The environment's part of a move: the clock, what `generate_v7` returns, how the storage call ends. -/
structure DirectInput where
  now : TimePoint := 0
  newId : ConversationId := ⟨0⟩
  outcome : CallOutcome := .ok

/-- The tables, and (a ghost) which creation drew which identifier. -/
structure DirectWorld (ι : Type*) where
  store : ConversationStore
  drawnBy : ConversationId → Option ι

namespace DirectWorld

variable {ι : Type*}

def call (w : DirectWorld ι) (x : DirectInput) (store' : ConversationStore) (pc : DirectPc) :
    DirectPc × DirectWorld ι :=
  (match x.outcome.thrown with
    | none => pc
    | some what => .threw what,
   if x.outcome.takesEffect then { w with store := store' } else w)

/-- `generate_v7`, which does not return an identifier twice, and the conversation that gets it. -/
def draw (i : ι) (r : DirectRequest) (x : DirectInput) (w : DirectWorld ι) :
    Option (DirectPc × DirectWorld ι) :=
  match w.drawnBy x.newId with
  | some _ => none
  | none =>
    some (.savingConversation r (newConversation x.newId .direct r.caller x.now),
      { w with drawnBy := update w.drawnBy x.newId (some i) })

def next (i : ι) : DirectPc → DirectInput → DirectWorld ι → Option (DirectPc × DirectWorld ι)
  | .called caller recipient, _, w =>
    if h : caller = recipient then
      some (.refused .unspecified "Cannot create a direct conversation with yourself", w)
    else some (.finding ⟨caller, recipient, h⟩, w)
  | .finding r, x, w =>
    match x.outcome.thrown with
    | some what => some (.threw what, w)
    | none =>
      match w.store.findDirectConversation r.pair with
      | some id => some (.loading r id, w)
      | none => draw i r x w
  | .loading r id, x, w =>
    match x.outcome.thrown with
    | some what => some (.threw what, w)
    | none =>
      match w.store.findConversationById id with
      | some conv => some (.replied r conv, w)
      | none => draw i r x w
  | .savingConversation r conv, x, w =>
    some (w.call x (w.store.saveConversation conv) (.savingDirect r conv))
  | .savingDirect r conv, x, w =>
    some (w.call x (w.store.saveDirectConversation r.pair conv.conversationId)
      (.addingCaller r conv))
  | .addingCaller r conv, x, w =>
    some (w.call x
      (w.store.saveParticipant (newParticipant conv.conversationId r.caller .member conv.createdAt))
      (.addingRecipient r conv))
  | .addingRecipient r conv, x, w =>
    some (w.call x (w.store.saveParticipant
        (newParticipant conv.conversationId r.recipient .member conv.createdAt))
      (.touchingCaller r conv))
  | .touchingCaller r conv, x, w =>
    some (w.call x
      (w.store.touchUserConversation r.caller conv.conversationId .direct .active conv.createdAt)
      (.touchingRecipient r conv))
  | .touchingRecipient r conv, x, w =>
    some (w.call x
      (w.store.touchUserConversation r.recipient conv.conversationId .direct .active conv.createdAt)
      (.recording r conv))
  -- `record_outbox_event` stays in memory and does not fail
  | .recording r conv, x, w =>
    let store' := w.store.recordOutboxEvent conv.conversationId .conversationCreated
      ("\x7b\"type\":\"direct\",\"creator\":\"" ++ r.caller ++ "\"\x7d") x.now
    some (.replied r conv, { w with store := store' })
  | .replied .., _, _ => none
  | .refused .., _, _ => none
  | .threw _, _, _ => none

end DirectWorld

open DirectWorld

abbrev DirectConfig (ι : Type*) := Config ι DirectPc (DirectWorld ι)

/-- Nothing stored, and the creations about to begin: process `i` is the call of `requests i`. -/
def DirectConfig.start {ι : Type*} (requests : ι → UserId × UserId) : DirectConfig ι where
  proc := fun i => .called (requests i).1 (requests i).2
  shared := { store := .empty, drawnBy := fun _ => none }

/-- The guarantee: successful replies for one pair name one conversation, with both users active in
it. -/
def DirectConfig.RepliesAgree {ι : Type*} (c : DirectConfig ι) : Prop :=
  ∀ i j r r' conv conv', c.proc i = .replied r conv → c.proc j = .replied r' conv' →
    r.pair = r'.pair →
    conv.conversationId = conv'.conversationId ∧
      ∀ u ∈ r.pair, c.shared.store.Active conv.conversationId u

def quietMoves {ι : Type*} (i : ι) (n : Nat) (newId : ConversationId) (now : TimePoint) :
    List (ι × DirectInput) :=
  List.replicate n (i, { now := now, newId := newId })

/-! ## The orderly creations -/

/-- The pair a creation is in the middle of: it has found nothing, and has not added both users
yet. -/
def DirectPc.creating : DirectPc → Option DirectPair
  | .savingConversation r _ => some r.pair
  | .savingDirect r _ => some r.pair
  | .addingCaller r _ => some r.pair
  | .addingRecipient r _ => some r.pair
  | _ => none

/-- The condition on a move. A pair is looked up only while no creation is in the middle of it;
and once `save_direct_conversation` has taken effect, it and the two `add_participant`s do not throw
(the second may, if it has taken effect). -/
def DirectConfig.Orderly {ι : Type*} (c : DirectConfig ι) (m : ι × DirectInput) : Prop :=
  match c.proc m.1 with
  | .finding r => ∀ j, (c.proc j).creating ≠ some r.pair
  | .savingDirect _ _ => m.2.outcome.takesEffect = true → m.2.outcome.thrown = none
  | .addingCaller _ _ => m.2.outcome = .ok
  | .addingRecipient _ _ => m.2.outcome.takesEffect = true
  | _ => True

/-- The conversation of a pair, with both its users. -/
structure DirectWorld.Complete {ι : Type*} (w : DirectWorld ι) (pair : DirectPair)
    (id : ConversationId) : Prop where
  entry : w.store.directConversations pair = some id
  row : ∃ conv, w.store.conversations id = some conv
  active : ∀ u ∈ pair, w.store.Active id u

def DirectPc.Knows {ι : Type*} (i : ι) (w : DirectWorld ι) : DirectPc → Prop
  | .loading r id => w.Complete r.pair id
  | .savingConversation r conv =>
    w.store.directConversations r.pair = none ∧ w.drawnBy conv.conversationId = some i ∧
      w.store.conversations conv.conversationId = none
  | .savingDirect r conv =>
    w.store.directConversations r.pair = none ∧
      w.store.conversations conv.conversationId = some conv
  | .addingCaller r conv =>
    w.store.directConversations r.pair = some conv.conversationId ∧
      w.store.conversations conv.conversationId = some conv
  | .addingRecipient r conv =>
    w.store.directConversations r.pair = some conv.conversationId ∧
      w.store.conversations conv.conversationId = some conv ∧
      w.store.Active conv.conversationId r.caller
  | .touchingCaller r conv => w.Complete r.pair conv.conversationId
  | .touchingRecipient r conv => w.Complete r.pair conv.conversationId
  | .recording r conv => w.Complete r.pair conv.conversationId
  | .replied r conv => w.Complete r.pair conv.conversationId
  | _ => True

structure DirectConfig.Tidy {ι : Type*} (c : DirectConfig ι) : Prop where
  saved : ∀ id conv, c.shared.store.conversations id = some conv →
    conv.conversationId = id ∧ c.shared.drawnBy id ≠ none
  knows : ∀ i, (c.proc i).Knows i c.shared
  exclusive : ∀ i j pair, (c.proc i).creating = some pair → (c.proc j).creating = some pair → i = j
  entered : ∀ pair id, c.shared.store.directConversations pair = some id →
    (∀ i, (c.proc i).creating ≠ some pair) → c.shared.Complete pair id

/-- The tables only grow: no entry, row, active participant or drawn identifier is lost. -/
structure DirectWorld.Grows {ι : Type*} (w w' : DirectWorld ι) : Prop where
  entry : ∀ pair id, w.store.directConversations pair = some id →
    w'.store.directConversations pair = some id
  row : ∀ id conv, w.store.conversations id = some conv → w'.store.conversations id = some conv
  active : ∀ id u, w.store.Active id u → w'.store.Active id u
  drawn : ∀ id i, w.drawnBy id = some i → w'.drawnBy id = some i

section
variable {ι : Type*} {w w' : DirectWorld ι}

theorem DirectWorld.Grows.refl (w : DirectWorld ι) : w.Grows w :=
  ⟨fun _ _ h => h, fun _ _ h => h, fun _ _ h => h, fun _ _ h => h⟩

theorem DirectWorld.Complete.grows {pair : DirectPair} {id : ConversationId}
    (h : w.Complete pair id) (hg : w.Grows w') : w'.Complete pair id where
  entry := hg.entry _ _ h.entry
  row := let ⟨conv, hconv⟩ := h.row; ⟨conv, hg.row _ _ hconv⟩
  active := fun u hu => hg.active _ _ (h.active u hu)

variable {store' : ConversationStore} {pc pc' : DirectPc} {i : ι}

/-- Everything a storage call can do. -/
theorem DirectWorld.call_eq {x : DirectInput} (h : w.call x store' pc = (pc', w')) :
    (w' = w ∧ x.outcome.takesEffect = false ∧ ∃ what, pc' = .threw what) ∨
      (w' = { w with store := store' } ∧ x.outcome.takesEffect = true ∧
        (x.outcome.thrown = none ∧ pc' = pc ∨ ∃ what, pc' = .threw what)) := by
  obtain ⟨now, newId, outcome⟩ := x
  cases outcome with
  | ok =>
    cases h
    exact .inr ⟨rfl, rfl, .inl ⟨rfl, rfl⟩⟩
  | failed what =>
    cases h
    exact .inl ⟨rfl, rfl, what, rfl⟩
  | timedOut what =>
    cases h
    exact .inr ⟨rfl, rfl, .inr ⟨what, rfl⟩⟩

theorem active_saveParticipant (s : ConversationStore) (id : ConversationId) (user : UserId)
    (role : ParticipantRole) (now : TimePoint) :
    (s.saveParticipant (newParticipant id user role now)).Active id user ∧ ∀ id' u, s.Active id' u →
        (s.saveParticipant (newParticipant id user role now)).Active id' u := by
  have hfind : ∀ id' u, (s.saveParticipant (newParticipant id user role now)).findParticipant id' u =
      if (id', u) = (newParticipant id user role now).key then some (newParticipant id user role now)
      else s.findParticipant id' u := fun _ _ => findParticipant_saveParticipant _ _
  refine ⟨⟨_, (hfind id user).trans (if_pos rfl), rfl⟩, ?_⟩
  rintro id' u ⟨p, hp, hactive⟩
  by_cases hkey : (id', u) = (newParticipant id user role now).key
  · exact ⟨_, (hfind id' u).trans (if_pos hkey), rfl⟩
  · exact ⟨p, (hfind id' u).trans ((if_neg hkey).trans hp), hactive⟩

/-- What a move does: it loses nothing, changes the entry only of the pair it is in the middle of and
the row only of an identifier it drew, enters the middle only from a lookup, and leaves it with the pair
unrecorded or complete. -/
structure DirectMove (i : ι) (pc : DirectPc) (w : DirectWorld ι) (pc' : DirectPc)
    (w' : DirectWorld ι) : Prop where
  grows : w.Grows w'
  entries : ∀ pair, pc.creating ≠ some pair →
    w'.store.directConversations pair = w.store.directConversations pair
  rows : ∀ id, w.drawnBy id ≠ some i → w'.store.conversations id = w.store.conversations id
  saved : ∀ id conv, w'.store.conversations id = some conv → w.store.conversations id = some conv ∨
    (conv.conversationId = id ∧ w.drawnBy id = some i)
  knows : pc'.Knows i w'
  enters : ∀ pair, pc'.creating = some pair →
    pc.creating = some pair ∨ ∃ r, pc = .finding r ∧ r.pair = pair
  leaves : ∀ pair id, pc.creating = some pair → pc'.creating ≠ some pair →
    w'.store.directConversations pair = some id → w'.Complete pair id

theorem DirectMove.quiet (hd : store'.directConversations = w.store.directConversations)
    (hc : store'.conversations = w.store.conversations) (hm : store'.members = w.store.members)
    (hpc : pc.creating = none) (hpc' : pc'.creating = none)
    (hk : pc'.Knows i { w with store := store' }) :
    DirectMove i pc w pc' { w with store := store' } where
  grows :=
    { entry := fun _ _ h => by rw [hd]; exact h
      row := fun _ _ h => by rw [hc]; exact h
      active := fun _ _ h => by
        obtain ⟨p, hp, hactive⟩ := h
        refine ⟨p, ?_, hactive⟩
        rw [findParticipant, hm]
        exact hp
      drawn := fun _ _ h => h }
  entries := fun _ _ => by rw [hd]
  rows := fun _ _ => by rw [hc]
  saved := fun _ _ h => .inl (by rw [hc] at h; exact h)
  knows := hk
  enters := fun _ h => nomatch hpc'.symm.trans h
  leaves := fun _ _ h => nomatch hpc.symm.trans h

theorem DirectMove.still (hk : pc'.Knows i w) (hpc' : pc'.creating = none)
    (hleft : ∀ pair, pc.creating = some pair → w.store.directConversations pair = none) :
    DirectMove i pc w pc' w where
  grows := .refl w
  entries := fun _ _ => rfl
  rows := fun _ _ => rfl
  saved := fun _ _ h => .inl h
  knows := hk
  enters := fun _ h => nomatch hpc'.symm.trans h
  leaves := fun pair _ h _ hentry => nomatch (hleft pair h).symm.trans hentry

theorem DirectMove.drew {r : DirectRequest} {x : DirectInput}
    (h : draw i r x w = some (pc', w'))
    (hnone : w.store.directConversations r.pair = none)
    (hsaved : ∀ id conv, w.store.conversations id = some conv → w.drawnBy id ≠ none) :
    DirectMove i (.finding r) w pc' w' := by
  unfold draw at h
  split at h
  · exact nomatch h
  rename_i hnew
  cases h
  have hrow : w.store.conversations x.newId = none := by
    by_contra hsome
    obtain ⟨conv, hconv⟩ := ne_none_iff_exists'.mp hsome
    exact hsaved _ _ hconv hnew
  refine
    { grows := ⟨fun _ _ h => h, fun _ _ h => h, fun _ _ h => h, ?_⟩
      entries := fun _ _ => rfl
      rows := fun _ _ => rfl
      saved := fun _ _ h => .inl h
      knows := ⟨hnone, update_self _ _ _, hrow⟩
      enters := fun pair hpair => .inr ⟨r, rfl, some.inj hpair⟩
      leaves := fun _ _ h => nomatch h }
  intro id j hj
  have hid : id ≠ x.newId := by
    rintro rfl
    exact nomatch hnew.symm.trans hj
  exact (update_of_ne hid _ _).trans hj

variable {i : ι} {r : DirectRequest} {conv : ConversationEntity} {x : DirectInput} {pc pc' : DirectPc}

theorem DirectMove.savedConversation (hk : (DirectPc.savingConversation r conv).Knows i w)
    (h : w.call x (w.store.saveConversation conv) (.savingDirect r conv) = (pc', w')) :
    DirectMove i (.savingConversation r conv) w pc' w' := by
  obtain ⟨hentry, hdrawn, hrow⟩ := hk
  rcases call_eq h with ⟨rfl, -, what, rfl⟩ | ⟨rfl, -, hpc⟩
  · refine .still trivial rfl ?_
    rintro pair hpair
    rwa [← some.inj hpair]
  have hkept : ∀ id, id ≠ conv.conversationId →
      (w.store.saveConversation conv).conversations id = w.store.conversations id :=
    fun id hid => update_of_ne hid _ _
  refine
    { grows := ⟨fun _ _ h => h, ?_, fun _ _ h => h, fun _ _ h => h⟩
      entries := fun _ _ => rfl
      rows := ?_
      saved := ?_
      knows := ?_
      enters := ?_
      leaves := ?_ }
  · intro id conv' hconv'
    have hid : id ≠ conv.conversationId := by
      rintro rfl
      exact nomatch hrow.symm.trans hconv'
    exact (hkept id hid).trans hconv'
  · intro id hid
    apply hkept
    rintro rfl
    exact hid hdrawn
  · intro id conv' hconv'
    by_cases hid : id = conv.conversationId
    · subst hid
      have hself : (w.store.saveConversation conv).conversations conv.conversationId =
          some conv := update_self _ _ _
      obtain rfl := some.inj (hself.symm.trans hconv')
      exact .inr ⟨rfl, hdrawn⟩
    · exact .inl ((hkept id hid).symm.trans hconv')
  · rcases hpc with ⟨-, rfl⟩ | ⟨what, rfl⟩
    · exact ⟨hentry, update_self _ _ _⟩
    · trivial
  · rintro pair hpair
    rcases hpc with ⟨-, rfl⟩ | ⟨what, rfl⟩
    · exact .inl hpair
    · exact nomatch hpair
  -- the pair is not recorded yet
  intro pair id hpair _ hrecorded
  cases hpair
  exact nomatch hentry.symm.trans hrecorded

theorem DirectMove.savedDirect (hk : (DirectPc.savingDirect r conv).Knows i w)
    (hok : x.outcome.takesEffect = true → x.outcome.thrown = none)
    (h : w.call x (w.store.saveDirectConversation r.pair conv.conversationId)
      (.addingCaller r conv) = (pc', w')) :
    DirectMove i (.savingDirect r conv) w pc' w' := by
  obtain ⟨hentry, hrow⟩ := hk
  rcases call_eq h with ⟨rfl, -, what, rfl⟩ | ⟨rfl, heffect, hpc⟩
  · refine .still trivial rfl ?_
    rintro pair hpair
    rwa [← some.inj hpair]
  -- a call that took effect did not throw
  obtain rfl : pc' = .addingCaller r conv := by
    have hpc' := congrArg Prod.fst h
    simp only [call, hok heffect] at hpc'
    exact hpc'.symm
  have hkept : ∀ pair, pair ≠ r.pair →
      (w.store.saveDirectConversation r.pair conv.conversationId).directConversations pair =
        w.store.directConversations pair :=
    fun pair hpair => update_of_ne hpair _ _
  refine
    { grows := ⟨?_, fun _ _ h => h, fun _ _ h => h, fun _ _ h => h⟩
      entries := ?_
      rows := fun _ _ => rfl
      saved := fun _ _ h => .inl h
      knows := ⟨update_self _ _ _, hrow⟩
      enters := fun _ hpair => .inl hpair
      leaves := fun _ _ hpair hpc' => absurd hpair hpc' }
  · intro pair id hrecorded
    have hpair : pair ≠ r.pair := by
      rintro rfl
      exact nomatch hentry.symm.trans hrecorded
    exact (hkept pair hpair).trans hrecorded
  intro pair hpair
  apply hkept
  rintro rfl
  exact hpair rfl

theorem DirectMove.savedParticipant {user : UserId}
    (hnew : ∀ pair, pc'.creating = some pair → pc.creating = some pair)
    (hk : ∀ w', w.Grows w' → w'.store.Active conv.conversationId user → pc'.Knows i w')
    (hleft : ∀ pair, pc.creating = some pair → pc'.creating ≠ some pair → ∀ w', w.Grows w' →
      w'.store.Active conv.conversationId user → w'.Complete pair conv.conversationId)
    (hentry : ∀ pair, pc.creating = some pair →
      w.store.directConversations pair = some conv.conversationId) :
    DirectMove i pc w pc' { w with
      store := w.store.saveParticipant
        (newParticipant conv.conversationId user .member conv.createdAt) } := by
  obtain ⟨hactive, hstill⟩ :=
    active_saveParticipant w.store conv.conversationId user .member conv.createdAt
  have hgrows : w.Grows { w with store := w.store.saveParticipant _ } :=
    ⟨fun _ _ h => h, fun _ _ h => h, hstill, fun _ _ h => h⟩
  refine
    { grows := hgrows
      entries := fun _ _ => rfl
      rows := fun _ _ => rfl
      saved := fun _ _ h => .inl h
      knows := hk _ hgrows hactive
      enters := fun pair hpair => .inl (hnew pair hpair)
      leaves := ?_ }
  intro pair id hpair hpc' hrecorded
  obtain rfl : conv.conversationId = id :=
    some.inj ((hentry pair hpair).symm.trans hrecorded)
  exact hleft pair hpair hpc' _ hgrows hactive

theorem DirectMove.touched {done : DirectPc} (hcomplete : w.Complete r.pair conv.conversationId)
    (hd : store'.directConversations = w.store.directConversations)
    (hc : store'.conversations = w.store.conversations) (hm : store'.members = w.store.members)
    (hpc : pc.creating = none) (hdone : done.creating = none)
    (hk : ∀ w' : DirectWorld ι, w'.Complete r.pair conv.conversationId → done.Knows i w')
    (h : w.call x store' done = (pc', w')) : DirectMove i pc w pc' w' := by
  rcases call_eq h with ⟨rfl, -, what, rfl⟩ | ⟨rfl, -, ⟨-, rfl⟩ | ⟨what, rfl⟩⟩
  · exact .still trivial rfl (fun _ hpair => nomatch hpc.symm.trans hpair)
  · refine .quiet hd hc hm hpc hdone (hk _ ⟨?_, ?_, ?_⟩)
    · exact (congrFun hd _).trans hcomplete.entry
    · exact hcomplete.row.imp fun _ hrow => (congrFun hc _).trans hrow
    intro u hu
    obtain ⟨p, hp, hactive⟩ := hcomplete.active u hu
    refine ⟨p, ?_, hactive⟩
    rw [findParticipant, hm]
    exact hp
  · exact .quiet hd hc hm hpc rfl trivial

/-- Every orderly move is such a move. `hlookup` is what a lookup may rely on. -/
theorem DirectMove.of_next (hk : pc.Knows i w)
    (hsaved : ∀ id conv, w.store.conversations id = some conv →
      conv.conversationId = id ∧ w.drawnBy id ≠ none)
    (hlookup : ∀ r, pc = .finding r → ∀ id, w.store.directConversations r.pair = some id →
      w.Complete r.pair id)
    (hdirect : ∀ r conv, pc = .savingDirect r conv → x.outcome.takesEffect = true →
      x.outcome.thrown = none) (hcaller : ∀ r conv, pc = .addingCaller r conv → x.outcome = .ok)
    (hrecipient : ∀ r conv, pc = .addingRecipient r conv → x.outcome.takesEffect = true)
    (h : next i pc x w = some (pc', w')) : DirectMove i pc w pc' w' := by
  cases pc with
  | called caller recipient =>
    simp only [next] at h
    split at h <;> cases h <;> exact .still trivial rfl nofun
  | finding r =>
    simp only [next, findDirectConversation] at h
    split at h
    · cases h
      exact .still trivial rfl nofun
    split at h
    next id hentry =>
      cases h
      exact .still (hlookup r rfl id hentry) rfl nofun
    next hnone =>
      exact .drew h hnone fun id conv hconv => (hsaved id conv hconv).2
  | loading r id =>
    have hcomplete : w.Complete r.pair id := hk
    obtain ⟨conv, hconv⟩ := hcomplete.row
    simp only [next, findConversationById, hconv] at h
    split at h <;> cases h
    · exact .still trivial rfl nofun
    obtain rfl := (hsaved id conv hconv).1
    exact .still hcomplete rfl nofun
  | savingConversation r conv => exact .savedConversation hk (some.inj h)
  | savingDirect r conv => exact .savedDirect hk (hdirect r conv rfl) (some.inj h)
  | addingCaller r conv =>
    obtain ⟨hentry, hrow⟩ := hk
    have hok := hcaller r conv rfl
    obtain ⟨rfl, rfl⟩ : .addingRecipient r conv = pc' ∧ _ = w' := by
      simpa [next, call, hok, CallOutcome.thrown, CallOutcome.takesEffect] using h
    refine .savedParticipant (fun _ hpair => hpair) ?_ (fun _ hpair hpc' => absurd hpair hpc') ?_
    · intro w' hgrows hactive
      exact ⟨hgrows.entry _ _ hentry, hgrows.row _ _ hrow, hactive⟩
    intro pair hpair
    rwa [← some.inj hpair]
  | addingRecipient r conv =>
    obtain ⟨hentry, hrow, hcallerActive⟩ := hk
    have hcomplete : ∀ w', w.Grows w' → w'.store.Active conv.conversationId r.recipient →
        w'.Complete r.pair conv.conversationId := by
      intro w' hgrows hactive
      refine ⟨hgrows.entry _ _ hentry, ⟨conv, hgrows.row _ _ hrow⟩, ?_⟩
      intro u hu
      rcases DirectPair.mem_ofUsers.mp hu with rfl | rfl
      · exact hgrows.active _ _ hcallerActive
      · exact hactive
    rcases call_eq (some.inj h) with ⟨-, hno, -⟩ | ⟨rfl, -, hpc⟩
    · exact absurd (hrecipient r conv rfl) (by simp [hno])
    have hout : pc'.creating = none := by
      rcases hpc with ⟨-, rfl⟩ | ⟨what, rfl⟩ <;> rfl
    refine .savedParticipant (fun _ hpair => nomatch hout.symm.trans hpair) ?_ ?_ ?_
    · intro w' hgrows hactive
      rcases hpc with ⟨-, rfl⟩ | ⟨what, rfl⟩
      · exact hcomplete w' hgrows hactive
      · trivial
    · intro pair hpair _ w' hgrows hactive
      rw [← some.inj hpair]
      exact hcomplete w' hgrows hactive
    · intro pair hpair
      rwa [← some.inj hpair]
  | touchingCaller | touchingRecipient =>
    refine .touched hk ?_ ?_ ?_ ?_ ?_ ?_ (some.inj h)
    all_goals first | rfl | exact fun _ hcomplete => hcomplete
  | recording r conv =>
    have hcomplete : w.Complete r.pair conv.conversationId := hk
    cases h
    exact .quiet rfl rfl rfl rfl rfl ⟨hcomplete.entry, hcomplete.row, hcomplete.active⟩
  | replied | refused | threw => exact nomatch h

/-- What a creation knows survives the moves of others: it is kept by growth, except for "not recorded"
and "not saved", which only the owner of the pair or the identifier changes. -/
theorem DirectPc.Knows.other {j : ι} {qc : DirectPc} (hk : qc.Knows j w)
    (hmove : DirectMove i pc w pc' w') (hij : i ≠ j)
    (hexclusive : ∀ pair, qc.creating = some pair → pc.creating ≠ some pair) : qc.Knows j w' := by
  have hg := hmove.grows
  cases qc with
  | called | finding | refused | threw => trivial
  | loading r id =>
    have hcomplete : w.Complete r.pair id := hk
    exact hcomplete.grows hg
  | savingConversation r conv =>
    obtain ⟨hentry, hdrawn, hrow⟩ := hk
    refine ⟨?_, hg.drawn _ _ hdrawn, ?_⟩
    · rw [hmove.entries r.pair (hexclusive r.pair rfl)]
      exact hentry
    rw [hmove.rows]
    · exact hrow
    rw [hdrawn]
    exact fun h => hij (some.inj h).symm
  | savingDirect r conv =>
    obtain ⟨hentry, hrow⟩ := hk
    refine ⟨?_, hg.row _ _ hrow⟩
    rw [hmove.entries r.pair (hexclusive r.pair rfl)]
    exact hentry
  | addingCaller r conv => exact ⟨hg.entry _ _ hk.1, hg.row _ _ hk.2⟩
  | addingRecipient r conv =>
    exact ⟨hg.entry _ _ hk.1, hg.row _ _ hk.2.1, hg.active _ _ hk.2.2⟩
  | touchingCaller r conv | touchingRecipient r conv | recording r conv | replied r conv =>
    have hcomplete : w.Complete r.pair conv.conversationId := hk
    exact hcomplete.grows hg

end

/-! ## Every run -/

section
variable {ι : Type*} {c c' : DirectConfig ι} {m : ι × DirectInput}

theorem DirectConfig.Tidy.directMove (hc : c.Tidy) (horderly : c.Orderly m) {pc' : DirectPc}
    {w' : DirectWorld ι} (h : next m.1 (c.proc m.1) m.2 c.shared = some (pc', w')) :
    DirectMove m.1 (c.proc m.1) c.shared pc' w' := by
  refine .of_next (hc.knows m.1) hc.saved ?_ ?_ ?_ ?_ h
  · intro r hpc id hentry
    simp only [DirectConfig.Orderly, hpc] at horderly
    exact hc.entered r.pair id hentry horderly
  all_goals
    intro r conv hpc
    simpa only [DirectConfig.Orderly, hpc] using horderly

variable [DecidableEq ι]

theorem DirectConfig.Tidy.move (horderly : c.Orderly m) (hc : c.Tidy)
    (hmove : move next c m = some c') : c'.Tidy := by
  obtain ⟨pc', w', hnext, rfl⟩ := move_eq_some hmove
  obtain ⟨i, x⟩ := m
  have hd := hc.directMove horderly hnext
  -- a creation in the middle of a pair after the move was so before, or the mover has just begun
  have hbefore : ∀ j pair, (update c.proc i pc' j).creating = some pair →
      (c.proc j).creating = some pair ∨ (j = i ∧ ∀ k, (c.proc k).creating ≠ some pair) := by
    intro j pair hj
    rcases update_cases hj with ⟨rfl, hown⟩ | ⟨-, hj⟩
    · rcases hd.enters pair hown with hin | ⟨r, hfinding, rfl⟩
      · exact .inl hin
      have hfinding : c.proc j = .finding r := hfinding
      refine .inr ⟨rfl, ?_⟩
      simpa only [DirectConfig.Orderly, hfinding] using horderly
    · exact .inl hj
  constructor
  · intro id conv hconv
    rcases hd.saved id conv hconv with hold | ⟨hid, hdrawn⟩
    · obtain ⟨hid, hdrawn⟩ := hc.saved id conv hold
      obtain ⟨k, hk⟩ := ne_none_iff_exists'.mp hdrawn
      exact ⟨hid, by simp [hd.grows.drawn id k hk]⟩
    · exact ⟨hid, by simp [hd.grows.drawn id i hdrawn]⟩
  · intro j
    by_cases hji : j = i
    · subst hji
      simpa using hd.knows
    show (update c.proc i pc' j).Knows j w'
    rw [update_of_ne hji]
    refine (hc.knows j).other hd (Ne.symm hji) ?_
    intro pair hj hi
    exact hji (hc.exclusive j i pair hj hi)
  · intro j k pair hj hk
    rcases hbefore j pair hj with hj' | ⟨hji, hnone⟩
    · rcases hbefore k pair hk with hk' | ⟨-, hnone⟩
      · exact hc.exclusive j k pair hj' hk'
      · exact absurd hj' (hnone j)
    rcases hbefore k pair hk with hk' | ⟨hki, -⟩
    · exact absurd hk' (hnone k)
    · rw [hji, hki]
  intro pair id hentry hnobody
  by_cases hi : (c.proc i).creating = some pair
  · -- the mover was in the middle of the pair and is not any more
    exact hd.leaves pair id hi (by simpa using hnobody i) hentry
  have hentry' : c.shared.store.directConversations pair = some id :=
    (hd.entries pair hi).symm.trans hentry
  refine (hc.entered pair id hentry' ?_).grows hd.grows
  intro j
  by_cases hji : j = i
  · rwa [hji]
  · simpa [update_of_ne hji] using hnobody j

theorem DirectConfig.tidy_start {ι : Type*} (requests : ι → UserId × UserId) :
    (DirectConfig.start requests).Tidy where
  saved := fun _ _ h => nomatch h
  knows := fun _ => trivial
  exclusive := fun _ _ _ h => nomatch h
  entered := fun _ _ h => nomatch h

/-- **One conversation per pair.** In every run of orderly moves, all successful replies for a pair name
the same conversation, and both users are active in it. -/
theorem replies_agree {requests : ι → UserId × UserId} {ms : List (ι × DirectInput)}
    (hrun : run next (DirectConfig.start requests) ms = some c)
    (horderly : ∀ e ∈ trace next (DirectConfig.start requests) ms,
      DirectConfig.Orderly e.1 e.2) : c.RepliesAgree := by
  have htidy : c.Tidy :=
    run_induction (I := DirectConfig.Tidy) (A := DirectConfig.Orderly)
      (fun _ _ _ ho hc hm => DirectConfig.Tidy.move ho hc hm) (DirectConfig.tidy_start requests)
      horderly hrun
  intro i j r r' conv conv' hi hj hpair
  have hki := htidy.knows i
  have hkj := htidy.knows j
  rw [hi] at hki
  rw [hj] at hkj
  have hcomplete : c.shared.Complete r.pair conv.conversationId := hki
  have hcomplete' : c.shared.Complete r'.pair conv'.conversationId := hkj
  refine ⟨?_, hcomplete.active⟩
  -- both replies name the one entry of the pair
  have hentry := hcomplete'.entry
  rw [← hpair, hcomplete.entry] at hentry
  exact some.inj hentry

end

def bothAsk : Bool → UserId × UserId
  | false => ("alice", "bob")
  | true => ("bob", "alice")

def raceMoves : List (Bool × DirectInput) :=
  quietMoves false 2 ⟨1⟩ 0 ++ quietMoves true 9 ⟨2⟩ 0 ++ quietMoves false 7 ⟨1⟩ 0

def halfMadeMoves : List (Bool × DirectInput) :=
  quietMoves false 4 ⟨1⟩ 0 ++ [(false, { outcome := .failed "unavailable" })] ++
    quietMoves true 3 ⟨2⟩ 0

/-- **Two conversations for one pair, and one without participants.** In the first run no call fails and
the replies differ; in the second nothing overlaps, and the only reply names a conversation that neither
user is in. -/
theorem direct_conversation_not_unique :
    (∃ c, run next (DirectConfig.start bothAsk) raceMoves = some c ∧
      ¬ DirectConfig.RepliesAgree c) ∧
    (∃ c, run next (DirectConfig.start bothAsk) halfMadeMoves = some c ∧
      ¬ DirectConfig.RepliesAgree c) := by
  have hne : ("alice" : UserId) ≠ "bob" := by decide
  constructor
  · refine ⟨_, rfl, ?_⟩
    intro hagree
    have hsame := (hagree false true ⟨"alice", "bob", hne⟩ ⟨"bob", "alice", hne.symm⟩ _ _ rfl rfl
      (DirectPair.ofUsers_comm "alice" "bob" hne)).1
    exact absurd hsame (by decide)
  refine ⟨_, rfl, ?_⟩
  intro hagree
  have hactive := (hagree true true ⟨"bob", "alice", hne.symm⟩ _ _ _ rfl rfl rfl).2 "bob"
    (DirectPair.mem_ofUsers.mpr (.inl rfl))
  obtain ⟨p, hp, -⟩ := hactive
  exact nomatch hp

def retryMoves : List (Bool × DirectInput) :=
  quietMoves false 5 ⟨1⟩ 0 ++ [(false, { outcome := .timedOut "write timeout" })] ++
    quietMoves true 3 ⟨2⟩ 0

theorem retry_finds_both_participants :
    ∃ c, run next (DirectConfig.start bothAsk) retryMoves = some c ∧
      ∃ r conv, c.proc true = .replied r conv ∧
        ∀ u ∈ r.pair, c.shared.store.Active conv.conversationId u := by
  have hne : ("bob" : UserId) ≠ "alice" := by decide
  have horderly : ∀ e ∈ trace next (DirectConfig.start bothAsk) retryMoves,
      DirectConfig.Orderly e.1 e.2 := by
    refine (forall_trace_cons rfl).mpr ⟨trivial, ?_⟩
    refine (forall_trace_cons rfl).mpr ⟨by intro j; cases j <;> nofun, ?_⟩
    refine (forall_trace_cons rfl).mpr ⟨trivial, ?_⟩
    refine (forall_trace_cons rfl).mpr ⟨fun _ => rfl, ?_⟩
    refine (forall_trace_cons rfl).mpr ⟨rfl, ?_⟩
    refine (forall_trace_cons rfl).mpr ⟨rfl, ?_⟩
    refine (forall_trace_cons rfl).mpr ⟨trivial, ?_⟩
    refine (forall_trace_cons rfl).mpr ⟨by intro j; cases j <;> nofun, ?_⟩
    refine (forall_trace_cons rfl).mpr ⟨trivial, ?_⟩
    exact nofun
  refine ⟨_, rfl, ⟨"bob", "alice", hne⟩, newConversation ⟨1⟩ .direct "alice" 0, rfl, ?_⟩
  exact (replies_agree rfl horderly true true _ _ _ _ rfl rfl rfl).2

end SecureCloud.Messaging
