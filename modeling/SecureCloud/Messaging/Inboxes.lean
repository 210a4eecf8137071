import SecureCloud.Messaging.Membership

/-
# Messaging.Inboxes — a user's conversations, in two repositories

`InMemoryMembershipRepository` keeps ONE entry per conversation in a user's inbox.
`ScyllaMembershipRepository` writes a row whose primary key CONTAINS the time of the activity, so a touch at
another time adds a row, and the old one stays with its status. `shares_mutual_conversation` reads the first
hundred rows of that inbox.

Clock readings are in nanoseconds; the rows keep milliseconds and 32 bits of the version. Statuses, roles
and types read back as they were. Lists are compared up to order.
-/

namespace SecureCloud.Messaging

open Lib Lib.Table UserConversationRow List Option

/-! ## Pages -/

structure UserConversationSummary where
  conversationId : ConversationId
  type : ConversationType
  membershipStatus : MembershipStatus
  lastActivityAt : TimePoint

structure UserConversationsPage where
  items : List UserConversationSummary := []
  nextPageToken : Option Nat := none

/-- The slice of an inbox that both repositories return. `start` is what the page token spells, else 0. -/
def pageFrom (inbox : List UserConversationSummary) (limit start : Nat) : UserConversationsPage where
  items := (inbox.drop start).take limit
  nextPageToken := if start + limit < inbox.length then some (start + limit) else none

def readPages (page : Nat → UserConversationsPage) : Nat → Nat → List UserConversationSummary
  | 0, _ => []
  | fuel + 1, start => (page start).items ++
    ((page start).nextPageToken.map (readPages page fuel)).getD []

theorem readPages_pageFrom {inbox : List UserConversationSummary} {limit : Nat} (hlimit : 0 < limit)
    {fuel start : Nat} (hfuel : inbox.length < fuel + start) :
    readPages (pageFrom inbox limit) fuel start = inbox.drop start := by
  induction fuel generalizing start with
  | zero => rw [readPages, drop_of_length_le (by omega)]
  | succ fuel ih =>
    unfold readPages
    simp only [pageFrom]
    split
    · rw [map_some, getD_some]
      show _ ++ readPages (pageFrom inbox limit) fuel _ = _
      rw [ih (by omega), ← drop_drop, take_append_drop]
    rw [map_none, getD_none, append_nil, take_of_length_le]
    rw [length_drop]
    omega

/-! ## The Scylla repository -/

def toMillis (tp : Int) : Int := tp.tdiv 1000000

def fromMillis (ms : Int) : Int := ms * 1000000

/-- `static_cast<uint64_t>` of the `int32_t` that a version is stored as. -/
def versionRead (version : Nat) : Nat := (((version : Int).bmod (2 ^ 32)) % 2 ^ 64).toNat

variable (p : ConversationParticipantEntity)

def ConversationParticipantEntity.asStored :
    ConversationParticipantEntity :=
  { p with
    joinedAt := fromMillis (toMillis p.joinedAt)
    leftAt := p.leftAt.map fun t => fromMillis (toMillis t)
    membershipVersion := versionRead p.membershipVersion }

def userInbox (rows : Keyed key) (user : UserId) : List UserConversationSummary :=
  ((rows.rows.filter (·.userId = user)).map fun row =>
    ⟨row.conversationId, row.type, row.membershipStatus, row.lastActivityAt⟩).insertionSort
      fun a b => if a.lastActivityAt ≠ b.lastActivityAt then b.lastActivityAt < a.lastActivityAt
        else a.conversationId.bits ≤ b.conversationId.bits

structure ScyllaMembershipRepository where
  members : Keyed ConversationParticipantEntity.key := .empty
  conversations : Keyed key := .empty

namespace ScyllaMembershipRepository

variable (r : ScyllaMembershipRepository)

def addParticipant : ScyllaMembershipRepository :=
  { r with members := r.members.write p.asStored }

def findParticipant (id : ConversationId) (user : UserId) : Option ConversationParticipantEntity :=
  r.members.find (id, user)

def listParticipants (id : ConversationId) : List ConversationParticipantEntity :=
  r.members.rows.filter (·.conversationId = id)

def touchUserConversation (user : UserId) (id : ConversationId) (type : ConversationType)
    (status : MembershipStatus) (activityAt : Int) : ScyllaMembershipRepository :=
  { r with conversations := r.conversations.write ⟨user, toMillis activityAt, id, type, status⟩ }

def listUserConversations (user : UserId) (limit : Int) (start : Nat) : UserConversationsPage :=
  pageFrom (userInbox r.conversations user) (if 0 < limit then limit.toNat else 50) start

end ScyllaMembershipRepository

open ScyllaMembershipRepository

/-! ## The repository in memory -/

structure InMemoryMembershipRepository where
  participants : Keyed ConversationParticipantEntity.key := .empty
  userInboxes : UserId → List UserConversationSummary := fun _ => []

namespace InMemoryMembershipRepository

variable (r : InMemoryMembershipRepository)

/-- `add_participant`, which is also `update_participant`. -/
def addParticipant : InMemoryMembershipRepository :=
  { r with participants := r.participants.write p }

def findParticipant (id : ConversationId) (user : UserId) : Option ConversationParticipantEntity :=
  r.participants.find (id, user)

def listParticipants (id : ConversationId) : List ConversationParticipantEntity :=
  r.participants.rows.filter (·.conversationId = id)

def touchUserConversation (user : UserId) (id : ConversationId) (type : ConversationType)
    (status : MembershipStatus) (activityAt : Int) : InMemoryMembershipRepository :=
  let others := (r.userInboxes user).filter (·.conversationId ≠ id)
  { r with
    userInboxes := Function.update r.userInboxes user
      ((others ++ [UserConversationSummary.mk id type status activityAt]).insertionSort fun a b =>
        if a.lastActivityAt ≠ b.lastActivityAt then b.lastActivityAt < a.lastActivityAt
        else b.conversationId.bits ≤ a.conversationId.bits) }

def listUserConversations (user : UserId) (limit : Int) (start : Nat) : UserConversationsPage :=
  pageFrom (r.userInboxes user) (if limit ≤ 0 ∨ 100 < limit then 50 else limit.toNat) start

end InMemoryMembershipRepository

/-! ## One against the other -/

inductive RepositoryCall
  | add (p : ConversationParticipantEntity)
  | touch (user : UserId) (id : ConversationId) (type : ConversationType) (status : MembershipStatus)
      (activityAt : Int)

def RepositoryCall.step (r : ScyllaMembershipRepository × InMemoryMembershipRepository) :
    RepositoryCall → Option (ScyllaMembershipRepository × InMemoryMembershipRepository)
  | add p => some (r.1.addParticipant p, r.2.addParticipant p)
  | touch user id type status at' =>
    some (r.1.touchUserConversation user id type status at', r.2.touchUserConversation user id type status at')

/-- The call fits the rows: the participant reads back, and a conversation in the user's inbox is
touched with the time it has there. -/
def RepositoryCall.Fits (r : ScyllaMembershipRepository × InMemoryMembershipRepository) :
    RepositoryCall → Prop
  | add p => p.asStored = p
  | touch user id _ _ at' => ∀ row ∈ r.1.conversations.rows, row.userId = user → row.conversationId = id →
      row.lastActivityAt = toMillis at'

def UserConversationSummary.entry (s : UserConversationSummary) :
    ConversationId × ConversationType × MembershipStatus :=
  (s.conversationId, s.type, s.membershipStatus)

structure Agree (r : ScyllaMembershipRepository) (m : InMemoryMembershipRepository) : Prop where
  members : r.members = m.participants
  inbox : ∀ user, ((userInbox r.conversations user).map (·.entry)).Perm
    ((m.userInboxes user).map (·.entry))
  once : ∀ user, ((m.userInboxes user).map (·.conversationId)).Nodup

section
variable {r : ScyllaMembershipRepository} {m : InMemoryMembershipRepository} {user : UserId}
  {id : ConversationId} {type : ConversationType} {status : MembershipStatus} {activityAt : Int}

theorem userInbox_entries (rows : Keyed key) (user : UserId) :
    ((userInbox rows user).map (·.entry)).Perm ((rows.rows.filter (·.userId = user)).map fun row =>
      (row.conversationId, row.type, row.membershipStatus)) := by
  refine ((List.perm_insertionSort _ _).map _).trans (.of_eq ?_)
  rw [List.map_map]
  rfl

theorem entries_touch (hfits : (RepositoryCall.touch user id type status activityAt).Fits (r, m)) :
    ((userInbox (r.touchUserConversation user id type status activityAt).conversations user).map
      (·.entry)).Perm ((id, type, status) ::
        ((userInbox r.conversations user).map (·.entry)).filter (·.1 ≠ id)) := by
  refine (userInbox_entries _ _).trans (.trans (.of_eq ?_)
    (((userInbox_entries r.conversations user).filter _).symm.cons _))
  simp only [touchUserConversation, Keyed.write, upsert,
    List.filter_cons, decide_true, if_true, List.map_cons, List.filter_map, List.filter_filter]
  congr 2
  refine List.filter_congr fun row hrow => ?_
  by_cases huser : row.userId = user
  · by_cases hid : row.conversationId = id
    · simp [key, huser, hid, hfits row hrow huser hid]
    · simp [key, huser, hid]
  · simp [huser]

theorem entries_touch_of_ne {other : UserId} (hne : other ≠ user) :
    (userInbox (r.touchUserConversation user id type status activityAt).conversations other) =
      userInbox r.conversations other := by
  unfold userInbox
  congr 2
  simp only [touchUserConversation, Keyed.write, upsert,
    List.filter_cons, Ne.symm hne, decide_false, Bool.false_eq_true, if_false, List.filter_filter]
  refine List.filter_congr fun row _ => ?_
  by_cases huser : row.userId = other
  · simp [key, huser, hne]
  · simp [huser]

theorem userInboxes_touch :
    ((m.touchUserConversation user id type status activityAt).userInboxes user).Perm
      (⟨id, type, status, activityAt⟩ :: (m.userInboxes user).filter (·.conversationId ≠ id)) := by
  simp only [InMemoryMembershipRepository.touchUserConversation, Function.update_self]
  exact (perm_insertionSort _ _).trans (perm_append_singleton _ _)

theorem Agree.touch (h : Agree r m)
    (hfits : (RepositoryCall.touch user id type status activityAt).Fits (r, m)) :
    Agree (r.touchUserConversation user id type status activityAt)
      (m.touchUserConversation user id type status activityAt) := by
  have hsame : ∀ other, other ≠ user →
      (m.touchUserConversation user id type status activityAt).userInboxes other = m.userInboxes other :=
    fun other hne => Function.update_of_ne hne _ _
  refine ⟨h.members, fun other => ?_, fun other => ?_⟩
  · by_cases hother : other = user
    · subst hother
      refine (entries_touch hfits).trans (.trans ?_ (userInboxes_touch.map _).symm)
      rw [map_cons]
      refine .cons _ (((h.inbox other).filter _).trans (.of_eq ?_))
      rw [List.filter_map]
      rfl
    · rw [entries_touch_of_ne hother, hsame other hother]
      exact h.inbox other
  by_cases hother : other = user
  · subst hother
    rw [(userInboxes_touch.map _).nodup_iff, map_cons, nodup_cons]
    refine ⟨fun hmem => ?_, (h.once other).sublist (filter_sublist.map _)⟩
    obtain ⟨item, hitem, hid⟩ := mem_map.mp hmem
    simpa [hid] using (mem_filter.mp hitem).2
  · rw [hsame other hother]
    exact h.once other

end

def readInbox (page : Nat → UserConversationsPage) (fuel : Nat) :
    List (ConversationId × ConversationType × MembershipStatus) :=
  (readPages page fuel 0).map (·.entry)

/-- **The repositories return the same** after every sequence of calls that fit the rows: the same
participants, and the same inboxes, each conversation once, whatever the page sizes. -/
theorem repositories_agree {calls : List RepositoryCall} {r : ScyllaMembershipRepository}
    {m : InMemoryMembershipRepository}
    (hfits : Machine.Along RepositoryCall.step RepositoryCall.Fits ({}, {}) calls)
    (hrun : Machine.run RepositoryCall.step ({}, {}) calls = some (r, m)) :
    (∀ id user, r.findParticipant id user = m.findParticipant id user) ∧
    (∀ id, (r.listParticipants id).Perm (m.listParticipants id)) ∧
    ∀ user limit limit', ∃ enough, ∀ fuel, enough ≤ fuel →
      let inbox := readInbox (m.listUserConversations user limit) fuel
      (readInbox (r.listUserConversations user limit') fuel).Perm inbox ∧ (inbox.map (·.1)).Nodup := by
  have hstart : Agree {} {} := ⟨rfl, fun _ => .refl _, fun _ => List.nodup_nil⟩
  have h : Agree r m := by
    refine Machine.run_invariant (I := fun s => Agree s.1 s.2) ?_ hstart hfits hrun
    rintro ⟨r, m⟩ call s' hfits h hstep
    cases call with
    | add p =>
      cases hstep
      refine ⟨?_, h.inbox, h.once⟩
      show r.members.write p.asStored = m.participants.write p
      rw [show p.asStored = p from hfits, h.members]
    | touch user id type status at' =>
      cases hstep
      exact h.touch hfits
  refine ⟨fun id user => ?_, fun id => .of_eq ?_, fun user limit limit' => ?_⟩
  · rw [findParticipant, h.members]
    rfl
  · rw [listParticipants, h.members]
    rfl
  refine ⟨(userInbox r.conversations user).length + (m.userInboxes user).length + 1, fun fuel hfuel => ?_⟩
  have hread : readInbox (r.listUserConversations user limit') fuel =
      (userInbox r.conversations user).map (·.entry) := by
    unfold readInbox
    rw [show r.listUserConversations user limit' = pageFrom _ _ from rfl,
      readPages_pageFrom (by split <;> omega) (by omega)]
    rfl
  have hread' : readInbox (m.listUserConversations user limit) fuel =
      (m.userInboxes user).map (·.entry) := by
    unfold readInbox
    rw [show m.listUserConversations user limit = pageFrom _ _ from rfl,
      readPages_pageFrom (by split <;> omega) (by omega)]
    rfl
  dsimp only
  rw [hread, hread', List.map_map]
  exact ⟨h.inbox user, h.once user⟩

def twoTouches (later : Int) : List RepositoryCall :=
  [.touch "bob" ⟨1⟩ .group .active 0, .touch "bob" ⟨1⟩ .group .left later]

theorem touched_within_a_milli_agree : ∃ s, Machine.run RepositoryCall.step ({}, {}) (twoTouches 5) = some s ∧
    ∃ enough, ∀ fuel, enough ≤ fuel →
      let inbox := readInbox (s.2.listUserConversations "bob" 50) fuel
      (readInbox (s.1.listUserConversations "bob" 50) fuel).Perm inbox ∧ (inbox.map (·.1)).Nodup := by
  refine ⟨_, rfl, (@repositories_agree (twoTouches 5) _ _ ?_ rfl).2.2 "bob" 50 50⟩
  refine ⟨nofun, fun _ hs => ⟨?_, fun _ _ => trivial⟩⟩
  cases hs
  simp only [RepositoryCall.Fits]
  decide

/-- **A conversation shows twice** in Scylla, once with a status that is not true any more. -/
theorem touched_later_disagree :
    ∃ s, Machine.run RepositoryCall.step ({}, {}) (twoTouches 1000000) = some s ∧
      readInbox (s.1.listUserConversations "bob" 50) 3 = [(⟨1⟩, .group, .left), (⟨1⟩, .group, .active)] ∧
      readInbox (s.2.listUserConversations "bob" 50) 3 = [(⟨1⟩, .group, .left)] :=
  ⟨_, rfl, by decide, by decide⟩

/-! ## Who shares a conversation -/

namespace ConversationStore

def sharesMutualConversation (s : ConversationStore) (caller target : UserId) : Bool :=
  if caller = target then true
  else (pageFrom (userInbox s.userConversations caller) 100 0).items.any fun item =>
    item.membershipStatus = .active &&
      (s.findParticipant item.conversationId target).any (·.status = .active)

/-- The conversations the test takes the user to be in: those of the active rows of the first page. -/
def Reads (s : ConversationStore) (user : UserId) (id : ConversationId) : Prop :=
  ∃ item ∈ (pageFrom (userInbox s.userConversations user) 100 0).items,
    item.conversationId = id ∧ item.membershipStatus = .active

def Mutual (s : ConversationStore) (a b : UserId) : Prop := ∃ id, s.Active id a ∧ s.Active id b

/-- No row that is stale, and none beyond the first hundred, decides the pair. -/
structure RowsDecide (s : ConversationStore) (a b : UserId) : Prop where
  self : a = b → ∃ id, s.Active id a
  /-- a stale row names a conversation of the other user only where the two have one -/
  stale : a ≠ b → ∀ id, s.Reads a id → s.Active id b → ¬ s.Active id a → s.Mutual a b
  /-- the page names some conversation of the other user if the two have one -/
  beyond : a ≠ b → s.Mutual a b → ∃ id, s.Reads a id ∧ s.Active id b

section
variable (s : ConversationStore) (a b : UserId)

theorem sharesMutualConversation_iff {a b : UserId} (hne : a ≠ b) :
    s.sharesMutualConversation a b = true ↔ ∃ id, s.Reads a id ∧ s.Active id b := by
  rw [sharesMutualConversation, if_neg hne, List.any_eq_true]
  constructor
  · rintro ⟨item, hitem, htrue⟩
    simp only [Bool.and_eq_true, decide_eq_true_eq, Option.any_eq_true] at htrue
    exact ⟨_, ⟨item, hitem, rfl, htrue.1⟩, htrue.2⟩
  · rintro ⟨_, ⟨item, hitem, rfl, hactive⟩, p, hp, hstatus⟩
    exact ⟨item, hitem, by simp [hactive, hp, hstatus]⟩

theorem shares_iff_mutual_iff :
    (s.sharesMutualConversation a b = true ↔ s.Mutual a b) ↔ s.RowsDecide a b := by
  by_cases hne : a = b
  · subst hne
    have hself : s.Mutual a a ↔ ∃ id, s.Active id a := by simp [Mutual]
    simp only [sharesMutualConversation, if_true, true_iff, hself]
    exact ⟨fun h => ⟨fun _ => h, by simp, by simp⟩, fun h => h.self rfl⟩
  rw [sharesMutualConversation_iff s hne]
  refine ⟨fun h => ⟨fun heq => absurd heq hne, fun _ id hread hb _ => h.mp ⟨id, hread, hb⟩, fun _ => h.mpr⟩,
    fun h => ⟨?_, h.beyond hne⟩⟩
  rintro ⟨id, hread, hb⟩
  by_cases ha : s.Active id a
  · exact ⟨id, ha, hb⟩
  · exact h.stale hne id hread hb ha

end

theorem Active.exists_row {s : ConversationStore} {id : ConversationId} {user : UserId}
    (h : s.Active id user) :
    ∃ p ∈ s.members.rows, p.conversationId = id ∧ p.userId = user ∧ p.status = .active := by
  obtain ⟨p, hp, hstatus⟩ := h
  have hkey : p.key = (id, user) := Keyed.key_of_find hp
  exact ⟨p, Keyed.mem_rows_iff.mpr (hkey ▸ hp), congrArg Prod.fst hkey, congrArg Prod.snd hkey, hstatus⟩

end ConversationStore

def pairGroup : ConversationStore :=
  ConversationCall.perform .empty (.createGroup "alice" "team" ["bob"] ⟨1⟩ 10)

end SecureCloud.Messaging
