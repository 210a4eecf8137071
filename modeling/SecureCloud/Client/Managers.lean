import SecureCloud.Client.LocalStore
import SecureCloud.Lib.Checks

/-
# Client.Managers — the operations of the client

`ContactManager`, `MessagingManager` and `EmergencyManager` over the local store. A call that fails
leaves the store as it was, except that `send_message` may fail to record a message the gateway took.

`stage_outbound_message` refuses a recipient whose identity key changed; `send_message` and
`retry_failed_message` do not look at contacts at all.
-/

namespace SecureCloud.Client

open Lib.Checks ClientError

/-- The environment's part of a call: the clock, the random part of ids, the answers of crypto provider
and gateway. -/
structure ClientInput where
  now : TimePoint := 0
  random : Nat → Nat := fun _ => 0
  encrypted : ClientResult String := .ok ""
  accepted : ClientResult MessageId := .ok "m"

/-- `generate_unique_id`, for the `n`-th id of a call. -/
def ClientInput.uniqueId (x : ClientInput) (kind : String) (n : Nat) : String :=
  kind ++ "-" ++ toString x.now ++ "-" ++ toString (x.random n % 65536)

/-! ## `ContactManager` -/

namespace ContactManager

variable (s : MemoryLocalStore)

/-- `add_or_update_contact`. -/
def addOrUpdateContact (contact : Contact) : ClientResult MemoryLocalStore := do
  require (contact.userId ≠ "") (validation "Contact user_id cannot be empty")
  s.saveContact contact

def newContact (x : ClientInput) (user : UserId) (name safetyNumber roleNote : String)
    (deviceCount : Nat) : Contact where
  userId := user
  contactAlias := name
  safetyNumber := safetyNumber
  roleNote := roleNote
  authorizedDeviceCount := deviceCount
  updatedAt := x.now

/-- `create_contact`: a contact of that id is written over. -/
def createContact (x : ClientInput) (user : UserId) (name safetyNumber roleNote : String)
    (deviceCount : Nat) : ClientResult MemoryLocalStore := do
  require (user ≠ "") (validation "Contact user_id cannot be empty")
  require (name ≠ "") (validation "Contact alias cannot be empty")
  s.saveContact (newContact x user name safetyNumber roleNote deviceCount)

/-- `remove_contact`. -/
def removeContact (user : UserId) : ClientResult MemoryLocalStore := do
  require (user ≠ "") (validation "Contact user_id cannot be empty")
  s.deleteContact user

/-- The contact is read, changed and saved. -/
def changeContact (user : UserId) (f : Contact → Contact) : ClientResult MemoryLocalStore := do
  let contact ← s.getContact user
  s.saveContact (f contact)

/-- `update_contact_alias`. -/
def updateContactAlias (x : ClientInput) (user : UserId) (newAlias newRoleNote : String) :
    ClientResult MemoryLocalStore := do
  require (user ≠ "") (validation "Contact user_id cannot be empty")
  require (newAlias ≠ "") (validation "Contact alias cannot be empty")
  changeContact s user fun c =>
    { c with contactAlias := newAlias, roleNote := newRoleNote, updatedAt := x.now }

/-- `set_blocked`. -/
def setBlocked (x : ClientInput) (user : UserId) (blocked : Bool) : ClientResult MemoryLocalStore :=
  changeContact s user fun c => { c with isBlocked := blocked, updatedAt := x.now }

/-- `mark_contact_key_changed`. -/
def markContactKeyChanged (x : ClientInput) (user : UserId) (newSafetyNumber : String) :
    ClientResult MemoryLocalStore :=
  changeContact s user fun c =>
    { c with
      verificationStatus := .keyChanged
      safetyNumber := if newSafetyNumber ≠ "" then newSafetyNumber else c.safetyNumber
      updatedAt := x.now }

/-- `verify_contact_key`. -/
def verifyContactKey (x : ClientInput) (user : UserId) (verified : Bool) :
    ClientResult MemoryLocalStore :=
  changeContact s user fun c =>
    { c with
      verificationStatus := if verified then .verified else .unverified
      updatedAt := x.now }

end ContactManager

/-! ## `MessagingManager` -/

namespace MessagingManager

variable (s : MemoryLocalStore)

/-- The id of the direct conversation of two users, whatever their order. -/
def directId (localUser peerUser : UserId) : ConversationId :=
  if localUser < peerUser then "direct-" ++ localUser ++ "-" ++ peerUser
  else "direct-" ++ peerUser ++ "-" ++ localUser

def newDirect (x : ClientInput) (localUser peerUser : UserId) (title : String) : Conversation where
  conversationId := directId localUser peerUser
  type := .direct
  title := if title = "" then peerUser else title
  participants := [localUser, peerUser]
  createdAt := x.now
  lastActivityAt := x.now

/-- `open_direct_conversation`: the one there is, or a new one. -/
def openDirectConversation (x : ClientInput) (localUser peerUser : UserId) (title : String) :
    ClientResult (Conversation × MemoryLocalStore) := do
  require (¬ (localUser = "" ∨ peerUser = ""))
    (validation "Participants cannot be empty for direct conversation")
  match s.getConversation (directId localUser peerUser) with
  | .ok existing => .ok (existing, s)
  | .error _ =>
    let s' ← s.saveConversation (newDirect x localUser peerUser title)
    .ok (newDirect x localUser peerUser title, s')

def groupParticipants (creator : UserId) (participants : List UserId) : List UserId :=
  participants.foldl (fun all p => if p ≠ "" ∧ p ∉ all then all ++ [p] else all) [creator]

def newGroup (x : ClientInput) (creator : UserId) (title : String) (participants : List UserId) :
    Conversation where
  conversationId := x.uniqueId "group" 0
  type := .group
  title := title
  participants := groupParticipants creator participants
  createdAt := x.now
  lastActivityAt := x.now

/-- `create_group_conversation`. -/
def createGroupConversation (x : ClientInput) (creator : UserId) (title : String)
    (participants : List UserId) : ClientResult (Conversation × MemoryLocalStore) := do
  require (creator ≠ "") (validation "Creator user_id cannot be empty")
  require (title ≠ "") (validation "Group title cannot be empty")
  let s' ← s.saveConversation (newGroup x creator title participants)
  .ok (newGroup x creator title participants, s')

/-- `add_group_participant`. -/
def addGroupParticipant (x : ClientInput) (id : ConversationId) (user : UserId) :
    ClientResult MemoryLocalStore := do
  require (id ≠ "") (validation "Conversation ID cannot be empty")
  require (user ≠ "") (validation "User ID cannot be empty")
  let conv ← s.getConversation id
  require (conv.type = .group) (validation "Cannot add participants to a non-group conversation")
  s.saveConversation { conv.addParticipant user with lastActivityAt := x.now }

/-- `remove_group_participant`. -/
def removeGroupParticipant (x : ClientInput) (id : ConversationId) (user : UserId) :
    ClientResult MemoryLocalStore := do
  require (¬ (id = "" ∨ user = "")) (validation "Conversation ID and User ID cannot be empty")
  let conv ← s.getConversation id
  require (conv.type = .group)
    (validation "Cannot remove participants from a non-group conversation")
  s.saveConversation { conv.removeParticipant user with lastActivityAt := x.now }

/-- `leave_conversation`. -/
def leaveConversation (x : ClientInput) (id : ConversationId) (localUser : UserId) :
    ClientResult MemoryLocalStore :=
  removeGroupParticipant s x id localUser

/-- `delete_conversation`. -/
def deleteConversation (id : ConversationId) : ClientResult MemoryLocalStore := do
  require (id ≠ "") (validation "Conversation ID cannot be empty")
  s.deleteConversation id

/-- `mark_conversation_read`. -/
def markConversationRead (id : ConversationId) : ClientResult MemoryLocalStore := do
  require (id ≠ "") (validation "Conversation ID cannot be empty")
  let conv ← s.getConversation id
  s.saveConversation { conv with unreadCount := 0 }

/-- How a sending call ends: result, store, and the conversations a message was handed over or staged
for. -/
structure Outcome where
  result : ClientResult Message
  store : MemoryLocalStore
  outbound : List ConversationId

def refused (error : ClientError) : Outcome := ⟨.error error, s, []⟩

def sentMessage (x : ClientInput) (id : ConversationId) (sender : UserId) (device : DeviceId)
    (messageId : MessageId) (envelope : String) : Message where
  messageId := messageId
  conversationId := id
  senderUserId := sender
  senderDeviceId := device
  deliveryState := .accepted
  sentAt := x.now
  encryptedEnvelopeRef := envelope

/-- `send_message`. From the call of the gateway on the message is out, whatever the gateway
answers. -/
def sendMessage (x : ClientInput) (id : ConversationId) (sender : UserId) (device : DeviceId) :
    Outcome :=
  if id = "" then refused s (.validation "Conversation ID cannot be empty")
  else match x.encrypted with
    | .error e => refused s e
    | .ok envelope =>
      match x.accepted with
      | .error e => ⟨.error e, s, [id]⟩
      | .ok messageId =>
        -- the constructor of `MessageId` throws; its text stands for the exception
        if messageId = "" then ⟨.error (.validation "MessageId cannot be empty"), s, [id]⟩ else
        let m := sentMessage x id sender device messageId envelope
        match s.saveMessage m with
        | .error e => ⟨.error e, s, [id]⟩
        | .ok s' => ⟨.ok m, s', [id]⟩

/-- The guard of `stage_outbound_message`: a recipient whose key changed, or who is blocked, stops the
message. -/
def recipientGuard (sender : UserId) (participants : List UserId) : ClientResult Unit :=
  (participants.filter (· ≠ sender)).forM fun p =>
    match s.getContact p with
    | .error _ => .ok ()
    | .ok contact => do
      require (contact.verificationStatus ≠ .keyChanged) (validation
        "Outbound messaging suspended: recipient identity key changed (ADR-008)")
      require (¬ contact.isBlocked) (validation "Cannot send message: recipient is blocked")

structure Draft where
  plaintext : String
  priority : Int := 0
  senderDisplayName : String := ""
  attachmentName : String := ""
  attachmentSize : Int := 0
  attachmentHash : String := ""

def stagedMessage (x : ClientInput) (id : ConversationId) (sender : UserId) (device : DeviceId)
    (draft : Draft) : Message where
  messageId := x.uniqueId "msg" 0
  conversationId := id
  senderUserId := sender
  senderDeviceId := device
  deliveryState := .accepted
  sentAt := x.now
  encryptedEnvelopeRef := draft.plaintext
  priority := draft.priority
  senderDisplayName := if draft.senderDisplayName = "" then sender else draft.senderDisplayName
  idempotencyKey := x.uniqueId "idem" 1
  attachmentName := draft.attachmentName
  attachmentSize := draft.attachmentSize
  attachmentHash := draft.attachmentHash

/-- The checks of `stage_outbound_message`: the conversation, if the message may be staged. -/
def stageCheck (id : ConversationId) (sender : UserId) : ClientResult Conversation := do
  require (id ≠ "") (validation "Conversation ID cannot be empty")
  require (sender ≠ "") (validation "Sender User ID cannot be empty")
  let conv ← s.getConversation id
  recipientGuard s sender conv.participants
  .ok conv

/-- `stage_outbound_message`. -/
def stageOutboundMessage (x : ClientInput) (id : ConversationId) (sender : UserId)
    (device : DeviceId) (draft : Draft) : Outcome :=
  match stageCheck s id sender with
  | .error e => refused s e
  | .ok conv =>
    let m := stagedMessage x id sender device draft
    match s.saveMessage m with
    | .error e => refused s e
    | .ok s' =>
      -- whether the conversation could be saved is not looked at
      match s'.saveConversation { conv with lastActivityAt := m.sentAt } with
      | .error _ => ⟨.ok m, s', [id]⟩
      | .ok s'' => ⟨.ok m, s'', [id]⟩

def changeMessage (id : ConversationId) (messageId : MessageId) (f : Message → Message) :
    ClientResult MemoryLocalStore := do
  require (¬ (id = "" ∨ messageId = "")) (validation "Conversation ID and Message ID required")
  let m ← s.getMessage id messageId
  s.updateMessage (f m)

/-- `retry_failed_message`: nobody looks at the recipients again. -/
def retryFailedMessage (id : ConversationId) (messageId : MessageId) : Outcome :=
  if id = "" ∨ messageId = "" then
    refused s (.validation "Conversation ID and Message ID required")
  else match s.getMessage id messageId with
    | .error e => refused s e
    | .ok m =>
      if m.deliveryState ≠ .failed then
        refused s (.validation "Cannot retry message that is not in Failed state")
      else match s.updateMessage { m with deliveryState := .accepted } with
        | .error e => refused s e
        | .ok s' => ⟨.ok { m with deliveryState := .accepted }, s', [id]⟩

/-- `update_message_delivery_state`. -/
def updateMessageDeliveryState (id : ConversationId) (messageId : MessageId)
    (newState : DeliveryState) : ClientResult MemoryLocalStore :=
  changeMessage s id messageId fun m => { m with deliveryState := newState }

/-- `discard_failed_message`. -/
def discardFailedMessage (id : ConversationId) (messageId : MessageId) :
    ClientResult MemoryLocalStore :=
  changeMessage s id messageId fun m => { m with deliveryState := .failed }

end MessagingManager

/-! ## `EmergencyManager` -/

namespace EmergencyManager

variable (s : MemoryLocalStore)

/-- `trigger_emergency_wipe`, as far as the store goes: it is closed. -/
def triggerEmergencyWipe : ClientResult MemoryLocalStore := .ok s.close

/-- `acknowledge_emergency_message`. -/
def acknowledgeEmergencyMessage (id : ConversationId) (messageId : MessageId) :
    ClientResult MemoryLocalStore :=
  MessagingManager.changeMessage s id messageId fun m => { m with emergencyAcknowledged := true }

end EmergencyManager

end SecureCloud.Client
