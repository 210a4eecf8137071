import SecureCloud.Lib.Table
import SecureCloud.Messaging.Domain

/-
# Messaging.Conversations — conversations, memberships and who may change them

The conversation tables, the verdicts of `ConversationAuthorizationService` and the calls of
`ConversationService`, each as ONE function from the tables before the call to its result and the tables
after it. The new identifier and the clock are arguments.

Left out of the rows: `event_id` of the recorded events, which nothing reads, and the `created_at` that
`direct_conversation_by_users` stores beside the conversation.
-/

namespace SecureCloud.Messaging

open Lib.Table

/-! ## Value objects (`conversation_types.hpp`) -/

inductive ConversationType
  | direct
  | group
deriving DecidableEq

inductive GroupStatus
  | active
  | closed
deriving DecidableEq

inductive MembershipStatus
  | active
  | left
  | removed
deriving DecidableEq

inductive ParticipantRole
  | member
  | admin
deriving DecidableEq

/-- `DirectPair`: the two users of a direct conversation, in lexicographic order. -/
structure DirectPair where
  userA : UserId
  userB : UserId
  lt : userA < userB
deriving DecidableEq

/-- The constructor of `DirectPair`. It throws on identical users; here it asks for the proof that
they differ. -/
def DirectPair.ofUsers (first second : UserId) (h : first ≠ second) : DirectPair :=
  if hlt : first < second then ⟨first, second, hlt⟩
  else ⟨second, first, lt_of_le_of_ne (not_lt.mp hlt) h.symm⟩

theorem DirectPair.ofUsers_comm (first second : UserId) (h : first ≠ second) :
    ofUsers first second h = ofUsers second first h.symm := by
  unfold ofUsers
  rcases lt_or_gt_of_ne h with hlt | hgt
  · rw [dif_pos hlt, dif_neg hlt.asymm]
  · rw [dif_neg hgt.asymm, dif_pos hgt]

def DirectPair.Mem (u : UserId) (pair : DirectPair) : Prop := u = pair.userA ∨ u = pair.userB

instance : Membership UserId DirectPair := ⟨fun pair u => pair.Mem u⟩

instance (u : UserId) (pair : DirectPair) : Decidable (u ∈ pair) :=
  inferInstanceAs (Decidable (u = pair.userA ∨ u = pair.userB))

theorem DirectPair.mem_ofUsers {u first second : UserId} {h : first ≠ second} :
    u ∈ ofUsers first second h ↔ u = first ∨ u = second := by
  show u = (ofUsers first second h).userA ∨ u = (ofUsers first second h).userB ↔ _
  unfold ofUsers
  split
  · exact Iff.rfl
  · exact or_comm

structure ConversationEntity where
  conversationId : ConversationId
  type : ConversationType
  createdByUserId : UserId
  createdAt : TimePoint
  metadataVersion : Nat := 1

structure GroupMetadataEntity where
  conversationId : ConversationId
  title : String
  status : GroupStatus
  createdAt : TimePoint
  updatedAt : TimePoint
  metadataVersion : Nat := 1

structure ConversationParticipantEntity where
  conversationId : ConversationId
  userId : UserId
  role : ParticipantRole
  status : MembershipStatus
  joinedAt : TimePoint
  leftAt : Option TimePoint := none
  membershipVersion : Nat := 1

/-- Row of `conversations_by_user`. -/
structure UserConversationRow where
  userId : UserId
  lastActivityAt : TimePoint
  conversationId : ConversationId
  type : ConversationType
  membershipStatus : MembershipStatus

/-- The `ConversationOutboxEventType`s this service records. -/
inductive ConversationOutboxEventType
  | conversationCreated
  | participantJoined
  | participantLeft
  | participantRemoved
  | groupMetadataUpdated
  | conversationClosed

/-- An element of `outbox_events_`. -/
structure RecordedEvent where
  conversationId : ConversationId
  eventType : ConversationOutboxEventType
  payloadJson : String
  createdAt : TimePoint

/-! ## Tables and repositories -/

variable (p : ConversationParticipantEntity)

def ConversationParticipantEntity.key : ConversationId × UserId :=
  (p.conversationId, p.userId)

def UserConversationRow.key (r : UserConversationRow) : UserId × TimePoint × ConversationId :=
  (r.userId, r.lastActivityAt, r.conversationId)

structure ConversationStore where
  conversations : ConversationId → Option ConversationEntity
  directConversations : DirectPair → Option ConversationId
  groupMetadata : ConversationId → Option GroupMetadataEntity
  members : Keyed ConversationParticipantEntity.key
  userConversations : Keyed UserConversationRow.key
  outboxEvents : List RecordedEvent

namespace ConversationStore

def empty : ConversationStore where
  conversations := fun _ => none
  directConversations := fun _ => none
  groupMetadata := fun _ => none
  members := .empty
  userConversations := .empty
  outboxEvents := []

variable (s : ConversationStore) (id : ConversationId)

def findConversationById : Option ConversationEntity :=
  s.conversations id

def saveConversation (conv : ConversationEntity) : ConversationStore :=
  { s with conversations := Function.update s.conversations conv.conversationId (some conv) }

variable (pair : DirectPair)

def findDirectConversation : Option ConversationId :=
  s.directConversations pair

/-- `save_direct_conversation`: an `INSERT` WITHOUT a condition, which overwrites. -/
def saveDirectConversation (id : ConversationId) :
    ConversationStore :=
  { s with directConversations := Function.update s.directConversations pair (some id) }

def findGroupMetadata : Option GroupMetadataEntity :=
  s.groupMetadata id

variable (metadata : GroupMetadataEntity)

def saveGroupMetadata : ConversationStore :=
  { s with groupMetadata := Function.update s.groupMetadata metadata.conversationId (some metadata) }

def findParticipant (user : UserId) : Option ConversationParticipantEntity :=
  s.members.find (id, user)

/-- `add_participant` of the repository, which is also its `update_participant`. -/
def saveParticipant (p : ConversationParticipantEntity) :
    ConversationStore :=
  { s with members := s.members.write p }

def listParticipants : List ConversationParticipantEntity :=
  s.members.rows.filter (·.conversationId = id)

def listActiveParticipants : List ConversationParticipantEntity :=
  (s.listParticipants id).filter (·.status = .active)

def touchUserConversation (user : UserId) (id : ConversationId)
    (type : ConversationType) (status : MembershipStatus) (activityAt : TimePoint) :
    ConversationStore :=
  { s with userConversations := s.userConversations.write ⟨user, activityAt, id, type, status⟩ }

variable (type : ConversationOutboxEventType)

def recordOutboxEvent (payloadJson : String) (now : TimePoint) :
    ConversationStore :=
  { s with outboxEvents := s.outboxEvents ++ [⟨id, type, payloadJson, now⟩] }

/-! ## `ConversationAuthorizationService` -/

structure Denied where
  errorCode : MessagingErrorCode
  reason : String

abbrev AuthorizationResult := Except Denied Unit

variable (s : ConversationStore) (caller : UserId) (id : ConversationId)

def existing : Except Denied ConversationEntity :=
  match s.findConversationById id with
  | none => .error ⟨.conversationNotFound, "Conversation does not exist"⟩
  | some conv => .ok conv

def existingGroup (whenDirect : String) : AuthorizationResult := do
  let conv ← s.existing id
  if conv.type = .direct then .error ⟨.unspecified, whenDirect⟩ else .ok ()

def stillOpen (whenClosed : Denied) : AuthorizationResult :=
  match s.findGroupMetadata id with
  | none => .ok ()
  | some metadata => if metadata.status = .closed then .error whenClosed else .ok ()

def activeParticipant : Except Denied ConversationParticipantEntity :=
  match s.findParticipant id caller with
  | none => .error ⟨.notAParticipant, "Caller is not an active participant in this conversation"⟩
  | some p =>
    if p.status = .active then .ok p
    else .error ⟨.notAParticipant, "Caller is not an active participant in this conversation"⟩

def activeAdmin (whenMember : String) : AuthorizationResult := do
  let p ← s.activeParticipant caller id
  if p.role = .admin then .ok () else .error ⟨.unspecified, whenMember⟩

def canAddParticipant : AuthorizationResult := do
  s.existingGroup id "Cannot add participants to a direct conversation"
  s.stillOpen id ⟨.unspecified, "Group conversation is closed"⟩
  s.activeAdmin caller id "Only conversation admins can add participants"

/-- How many of the other active participants are admins, and how many are not. -/
def otherActive : Nat × Nat :=
  let others := (s.listActiveParticipants id).filter (·.userId ≠ caller)
  (others.countP (·.role = .admin), others.countP (·.role ≠ .admin))

/-- `can_leave_conversation`. A closed group can be left, and a plain member is never held back. -/
def canLeaveConversation : AuthorizationResult := do
  s.existingGroup id "Cannot leave a direct conversation"
  let p ← s.activeParticipant caller id
  let (otherActiveAdmins, otherActiveMembers) := s.otherActive caller id
  if p.role = .admin ∧ otherActiveAdmins = 0 ∧ otherActiveMembers > 0 then
    .error ⟨.unspecified,
      "The last remaining admin cannot leave a conversation while other active members remain. " ++
      "Transfer admin role first."⟩
  else .ok ()

/-- `can_remove_participant`. Removing oneself is leaving. -/
def canRemoveParticipant (target : UserId) : AuthorizationResult := do
  s.existingGroup id "Cannot remove participants from a direct conversation"
  s.stillOpen id ⟨.unspecified, "Group conversation is closed"⟩
  if caller = target then s.canLeaveConversation caller id
  else
    s.activeAdmin caller id "Only conversation admins can remove participants"
    match s.findParticipant id target with
    | none => .error ⟨.notAParticipant,
        "Target user is not an active participant in this conversation"⟩
    | some p =>
      if p.status = .active then .ok ()
      else .error ⟨.notAParticipant,
        "Target user is not an active participant in this conversation"⟩

def canUpdateMetadata : AuthorizationResult := do
  s.existingGroup id "Direct conversations do not have group metadata"
  s.stillOpen id ⟨.unspecified, "Group conversation is closed"⟩
  s.activeAdmin caller id "Only conversation admins can update conversation metadata"

/-! ## `ConversationService` -/

/-- The participant row a creation or an `add_participant` writes for a user who has none. -/
def newParticipant (id : ConversationId) (user : UserId) (role : ParticipantRole)
    (now : TimePoint) : ConversationParticipantEntity where
  conversationId := id
  userId := user
  role := role
  status := .active
  joinedAt := now

def newConversation (id : ConversationId) (type : ConversationType) (creator : UserId)
    (now : TimePoint) : ConversationEntity where
  conversationId := id
  type := type
  createdByUserId := creator
  createdAt := now

/-- What `create_direct_conversation` answers when the pair has a conversation already. -/
def existingDirect (pair : DirectPair) : Option ConversationEntity :=
  (s.findDirectConversation pair).bind s.findConversationById

/-- `create_direct_conversation`; `newId` is what `generate_v7` returns. -/
def createDirectConversation (recipient : UserId) (newId : ConversationId) (now : TimePoint) :
    ServiceResult ConversationEntity × ConversationStore :=
  if h : caller = recipient then
    (.fail .unspecified "Cannot create a direct conversation with yourself", s)
  else
    let pair := DirectPair.ofUsers caller recipient h
    match s.existingDirect pair with
    | some conv => (.ok conv, s)
    | none =>
      let conv := newConversation newId .direct caller now
      (.ok conv, ((((((s.saveConversation conv).saveDirectConversation pair newId).saveParticipant
          (newParticipant newId caller .member now)).saveParticipant
          (newParticipant newId recipient .member now)).touchUserConversation
          caller newId .direct .active now).touchUserConversation
          recipient newId .direct .active now).recordOutboxEvent newId .conversationCreated
            ("\x7b\"type\":\"direct\",\"creator\":\"" ++ caller ++ "\"\x7d") now)

/-- The loop over `initial_participant_user_ids`; `added` holds the users seen so far. -/
def addInitialParticipants (id : ConversationId) (now : TimePoint) :
    ConversationStore → List UserId → List UserId → ConversationStore
  | s, _, [] => s
  | s, added, user :: rest =>
    if user ∈ added then addInitialParticipants id now s added rest
    else
      addInitialParticipants id now
        ((s.saveParticipant (newParticipant id user .member now)).touchUserConversation user id
          .group .active now)
        (user :: added) rest

def titleInvalid (title : String) : Prop := title.isEmpty ∨ title.utf8ByteSize > 256

instance (title : String) : Decidable (titleInvalid title) :=
  inferInstanceAs (Decidable (_ ∨ _))

/-- `create_group_conversation`. The caller becomes the admin, everyone else a member. -/
def createGroupConversation (title : String) (initial : List UserId) (newId : ConversationId)
    (now : TimePoint) : ServiceResult ConversationEntity × ConversationStore :=
  if titleInvalid title then
    (.fail .unspecified "Group title must be between 1 and 256 characters", s)
  else
    let conv := newConversation newId .group caller now
    let created :=
      (((s.saveConversation conv).saveGroupMetadata
        { conversationId := newId, title := title, status := .active, createdAt := now
          updatedAt := now }).saveParticipant
        (newParticipant newId caller .admin now)).touchUserConversation
        caller newId .group .active now
    (.ok conv, (addInitialParticipants newId now created [caller] initial).recordOutboxEvent newId
        .conversationCreated
        ("\x7b\"type\":\"group\",\"creator\":\"" ++ caller ++ "\",\"title\":\"" ++ title ++
          "\"\x7d") now)

/-- `add_participant`. A former participant comes back with the ROLE they had. -/
def addParticipant (target : UserId) (now : TimePoint) : ServiceResult Unit × ConversationStore :=
  match s.canAddParticipant caller id with
  | .error e => (.fail e.errorCode e.reason, s)
  | .ok () =>
    let joined := fun (p : ConversationParticipantEntity) =>
      (ServiceResult.ok (), ((s.saveParticipant p).touchUserConversation target id .group .active
          now).recordOutboxEvent id .participantJoined
          ("\x7b\"user_id\":\"" ++ target ++ "\"\x7d") now)
    match s.findParticipant id target with
    | some existing =>
      if existing.status = .active then (.ok (), s)
      else joined { existing with
          status := .active
          joinedAt := now
          leftAt := none
          membershipVersion := existing.membershipVersion + 1 }
    | none => joined (newParticipant id target .member now)

def departed (status : MembershipStatus) (now : TimePoint) :
    ConversationParticipantEntity :=
  { p with status := status, leftAt := some now, membershipVersion := p.membershipVersion + 1 }

def removeParticipant (target : UserId) (now : TimePoint) :
    ServiceResult Unit × ConversationStore :=
  match s.canRemoveParticipant caller id target with
  | .error e => (.fail e.errorCode e.reason, s)
  | .ok () =>
    match s.findParticipant id target with
    | none => (.fail .notAParticipant "Target user is not a participant", s)
    | some existing =>
      (.ok (), ((s.saveParticipant (departed existing .removed now)).touchUserConversation target id
          .group .removed now).recordOutboxEvent id .participantRemoved
          ("\x7b\"user_id\":\"" ++ target ++ "\",\"removed_by\":\"" ++ caller ++ "\"\x7d") now)

/-- The last step of `leave_conversation`: a group nobody is active in any more is closed. -/
def closeIfEmpty (now : TimePoint) : ConversationStore :=
  if s.listActiveParticipants id = [] then
    match s.findGroupMetadata id with
    | none => s
    | some metadata =>
      (s.saveGroupMetadata { metadata with
          status := .closed
          updatedAt := now
          metadataVersion := metadata.metadataVersion + 1 }).recordOutboxEvent id
        .conversationClosed "\x7b\"reason\":\"all_participants_left\"\x7d" now
  else s

def leaveConversation (now : TimePoint) : ServiceResult Unit × ConversationStore :=
  match s.canLeaveConversation caller id with
  | .error e => (.fail e.errorCode e.reason, s)
  | .ok () =>
    match s.findParticipant id caller with
    | none => (.fail .notAParticipant "Caller is not a participant", s)
    | some existing =>
      (.ok (), (((s.saveParticipant (departed existing .left now)).touchUserConversation caller id
          .group .left now).recordOutboxEvent id .participantLeft
          ("\x7b\"user_id\":\"" ++ caller ++ "\"\x7d") now).closeIfEmpty id now)

def updateGroupMetadata (newTitle : String) (now : TimePoint) :
    ServiceResult GroupMetadataEntity × ConversationStore :=
  if titleInvalid newTitle then
    (.fail .unspecified "Group title must be between 1 and 256 characters", s)
  else match s.canUpdateMetadata caller id with
  | .error e => (.fail e.errorCode e.reason, s)
  | .ok () =>
    match s.findGroupMetadata id with
    | none => (.fail .conversationNotFound "Group metadata not found", s)
    | some metadata =>
      let updated :=
        { metadata with
          title := newTitle
          updatedAt := now
          metadataVersion := metadata.metadataVersion + 1 }
      (.ok updated, (s.saveGroupMetadata updated).recordOutboxEvent id .groupMetadataUpdated
          ("\x7b\"new_title\":\"" ++ newTitle ++ "\",\"updated_by\":\"" ++ caller ++ "\"\x7d") now)

end ConversationStore

end SecureCloud.Messaging
