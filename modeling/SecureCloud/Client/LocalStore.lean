import Mathlib

/-
# Client.LocalStore — the client's domain objects and `MemoryLocalStore`

Contacts, conversations and messages, and the store behind the client's managers. An operation fails
once the store is closed; what is written replaces what was there under the same identifier. A contact
is stored under ITS OWN user id: that the two agree is a field of the store.
-/

namespace SecureCloud.Client

/-! ## Domain objects -/

abbrev UserId := String
abbrev DeviceId := String
abbrev ConversationId := String
abbrev MessageId := String

/-- Ticks of the system clock since 1970-01-01T00:00:00Z. -/
abbrev TimePoint := Int

inductive KeyVerificationStatus
  | unverified
  | verified
  | keyChanged
deriving DecidableEq

inductive PresenceStatus
  | online
  | away
  | offline

structure Contact where
  userId : UserId
  contactAlias : String
  verificationStatus : KeyVerificationStatus := .unverified
  identityFingerprint : String := ""
  isBlocked : Bool := false
  safetyNumber : String := ""
  roleNote : String := ""
  presenceStatus : PresenceStatus := .offline
  authorizedDeviceCount : Nat := 1
  updatedAt : TimePoint

inductive ConversationType
  | direct
  | group
deriving DecidableEq

structure Conversation where
  conversationId : ConversationId
  type : ConversationType
  title : String
  participants : List UserId
  createdAt : TimePoint
  lastActivityAt : TimePoint
  unreadCount : Nat := 0
  isMuted : Bool := false

variable (c : Conversation) (user : UserId)

def Conversation.addParticipant : Conversation :=
  if user ∈ c.participants then c else { c with participants := c.participants ++ [user] }

def Conversation.removeParticipant : Conversation :=
  { c with participants := c.participants.filter (· ≠ user) }

inductive DeliveryState
  | localPending
  | submitting
  | accepted
  | delivering
  | delivered
  | read
  | failed
deriving DecidableEq

structure Message where
  messageId : MessageId
  conversationId : ConversationId
  senderUserId : UserId
  senderDeviceId : DeviceId
  deliveryState : DeliveryState := .localPending
  sentAt : TimePoint
  encryptedEnvelopeRef : String := ""
  priority : Int := 0
  senderDisplayName : String := ""
  idempotencyKey : String := ""
  emergencyAcknowledged : Bool := false
  attachmentName : String := ""
  attachmentSize : Int := 0
  attachmentHash : String := ""

/-! ## Errors -/

inductive ClientErrorCode
  | networkUnavailable
  | storageReadError
  | validationFailed
  | cryptoOperationFailed

inductive ClientErrorCategory
  | network
  | storage
  | validation
  | crypto

structure ClientError where
  code : ClientErrorCode
  category : ClientErrorCategory
  userMessage : String

namespace ClientError

variable (message : String)

def storage : ClientError := ⟨.storageReadError, .storage, message⟩
def validation : ClientError := ⟨.validationFailed, .validation, message⟩

end ClientError

abbrev ClientResult := Except ClientError

/-! ## `MemoryLocalStore` -/

structure MemoryLocalStore where
  isOpen : Bool
  conversations : ConversationId → Option Conversation
  messages : ConversationId → Option (List Message)
  contacts : UserId → Option Contact
  keyed : ∀ user contact, contacts user = some contact → contact.userId = user

namespace MemoryLocalStore

def empty : MemoryLocalStore where
  isOpen := true
  conversations := fun _ => none
  messages := fun _ => none
  contacts := fun _ => none
  keyed := by simp

variable (s : MemoryLocalStore)

def opened {α : Type} (x : ClientResult α) : ClientResult α :=
  if s.isOpen then x else .error (.storage "Storage is closed")

theorem opened_eq_ok {α : Type} {s : MemoryLocalStore} {x : ClientResult α} {a : α} :
    s.opened x = .ok a ↔ s.isOpen = true ∧ x = .ok a := by
  unfold opened
  split <;> simp_all

def close : MemoryLocalStore := { s with isOpen := false }

def putConversation : MemoryLocalStore :=
  { s with conversations := Function.update s.conversations c.conversationId (some c) }

variable (id : ConversationId)

def putMessages (messages : List Message) : MemoryLocalStore :=
  { s with messages := Function.update s.messages id (some messages) }

def putContact (c : Contact) : MemoryLocalStore where
  isOpen := s.isOpen
  conversations := s.conversations
  messages := s.messages
  contacts := Function.update s.contacts c.userId (some c)
  keyed := by
    intro user contact h
    by_cases hu : user = c.userId
    · subst hu
      rw [Function.update_self] at h
      rw [← Option.some.inj h]
    · rw [Function.update_of_ne hu] at h
      exact s.keyed user contact h

def eraseContact (user : UserId) : MemoryLocalStore where
  isOpen := s.isOpen
  conversations := s.conversations
  messages := s.messages
  contacts := Function.update s.contacts user none
  keyed := by
    intro u contact h
    by_cases hu : u = user
    · subst hu
      rw [Function.update_self] at h
      cases h
    · rw [Function.update_of_ne hu] at h
      exact s.keyed u contact h

def saveConversation : ClientResult MemoryLocalStore :=
  s.opened (.ok (s.putConversation c))

def getConversation : ClientResult Conversation :=
  s.opened (match s.conversations id with
    | none => .error (.storage "Conversation not found")
    | some c => .ok c)

def deleteConversation : ClientResult MemoryLocalStore :=
  s.opened (match s.conversations id with
    | none => .error (.storage "Conversation not found")
    | some _ => .ok { s with
        conversations := Function.update s.conversations id none
        messages := Function.update s.messages id none })

def saveMessage (m : Message) : ClientResult MemoryLocalStore :=
  s.opened (.ok (s.putMessages m.conversationId ((s.messages m.conversationId).getD [] ++ [m])))

def getMessage (messageId : MessageId) : ClientResult Message :=
  s.opened (match (s.messages id).bind fun all => all.find? (·.messageId = messageId) with
    | none => .error (.storage "Message not found")
    | some m => .ok m)

/-- `update_message`: the first message with the id. -/
def updateMessage (m : Message) : ClientResult MemoryLocalStore :=
  s.opened (match s.messages m.conversationId with
    | none => .error (.storage "Message not found")
    | some all =>
      if all.any (·.messageId = m.messageId) then
        .ok (s.putMessages m.conversationId
          (all.modify (all.findIdx (·.messageId = m.messageId)) fun _ => m))
      else .error (.storage "Message not found"))

def saveContact (c : Contact) : ClientResult MemoryLocalStore := s.opened (.ok (s.putContact c))

def getContact (user : UserId) : ClientResult Contact :=
  s.opened (match s.contacts user with
    | none => .error (.storage "Contact not found")
    | some c => .ok c)

def deleteContact (user : UserId) : ClientResult MemoryLocalStore :=
  s.opened (match s.contacts user with
    | none => .error (.storage "Contact not found")
    | some _ => .ok (s.eraseContact user))

/-! ### What a successful operation did -/

variable {s} {s' : MemoryLocalStore}

theorem getConversation_eq_ok {id : ConversationId} {c : Conversation} :
    s.getConversation id = .ok c ↔ s.isOpen = true ∧ s.conversations id = some c := by
  rw [getConversation, opened_eq_ok]
  cases s.conversations id <;> simp

theorem getContact_eq_ok {user : UserId} {c : Contact} :
    s.getContact user = .ok c ↔ s.isOpen = true ∧ s.contacts user = some c := by
  rw [getContact, opened_eq_ok]
  cases s.contacts user <;> simp

theorem saveContact_eq_ok {c : Contact} :
    s.saveContact c = .ok s' ↔ s.isOpen = true ∧ s' = s.putContact c := by
  rw [saveContact, opened_eq_ok, Except.ok.injEq, eq_comm (a := s')]

theorem deleteContact_eq_ok {user : UserId} (h : s.deleteContact user = .ok s') :
    s' = s.eraseContact user := by
  obtain ⟨-, h⟩ := opened_eq_ok.mp h
  split at h
  · cases h
  · exact (Except.ok.inj h).symm

theorem saveConversation_contacts {c : Conversation} (h : s.saveConversation c = .ok s') :
    s'.contacts = s.contacts := by
  obtain ⟨-, h⟩ := opened_eq_ok.mp h
  rw [← Except.ok.inj h]
  rfl

theorem deleteConversation_contacts {id : ConversationId} (h : s.deleteConversation id = .ok s') :
    s'.contacts = s.contacts := by
  obtain ⟨-, h⟩ := opened_eq_ok.mp h
  split at h
  · cases h
  · rw [← Except.ok.inj h]

theorem saveMessage_contacts {m : Message} (h : s.saveMessage m = .ok s') :
    s'.contacts = s.contacts := by
  obtain ⟨-, h⟩ := opened_eq_ok.mp h
  rw [← Except.ok.inj h]
  rfl

theorem updateMessage_contacts {m : Message} (h : s.updateMessage m = .ok s') :
    s'.contacts = s.contacts := by
  obtain ⟨-, h⟩ := opened_eq_ok.mp h
  split at h
  · cases h
  split at h
  · rw [← Except.ok.inj h]
    rfl
  · cases h

end MemoryLocalStore

end SecureCloud.Client
