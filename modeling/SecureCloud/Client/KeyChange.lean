import SecureCloud.Client.Managers
import SecureCloud.Lib.Machine

/-
# Client.KeyChange — no message to a contact whose key changed

From a successful `mark_contact_key_changed(u)` to a successful `verify_contact_key(u, true)` the user
`u` is SUSPENDED: nothing may be staged or sent to a conversation with them. That is a fact about the
history of calls; what the client has is the status of a stored contact, and the one guard that looks at
it is in `stage_outbound_message`.

The status differs from the history once the contact is created again, replaced or removed, or set back by
`verify_contact_key(u, false)`; `send_message` and `retry_failed_message` have no guard; and the guard
skips the sender.
-/

namespace SecureCloud.Client

open Lib Lib.Checks Function MessagingManager ContactManager List

/-! ## Calls -/

inductive ClientCall
  | addOrUpdateContact (contact : Contact)
  | createContact (user : UserId) (name safetyNumber roleNote : String) (deviceCount : Nat)
  | removeContact (user : UserId)
  | updateContactAlias (user : UserId) (newAlias newRoleNote : String)
  | setBlocked (user : UserId) (blocked : Bool)
  | markContactKeyChanged (user : UserId) (newSafetyNumber : String)
  | verifyContactKey (user : UserId) (verified : Bool)
  | openDirectConversation (localUser peerUser : UserId) (title : String)
  | createGroupConversation (creator : UserId) (title : String) (participants : List UserId)
  | addGroupParticipant (id : ConversationId) (user : UserId)
  | removeGroupParticipant (id : ConversationId) (user : UserId)
  | leaveConversation (id : ConversationId) (localUser : UserId)
  | deleteConversation (id : ConversationId)
  | markConversationRead (id : ConversationId)
  | sendMessage (id : ConversationId) (sender : UserId) (device : DeviceId)
  | stageOutboundMessage (id : ConversationId) (sender : UserId) (device : DeviceId)
      (draft : MessagingManager.Draft)
  | retryFailedMessage (id : ConversationId) (messageId : MessageId)
  | updateMessageDeliveryState (id : ConversationId) (messageId : MessageId)
      (newState : DeliveryState)
  | discardFailedMessage (id : ConversationId) (messageId : MessageId)
  | triggerEmergencyWipe
  | acknowledgeEmergencyMessage (id : ConversationId) (messageId : MessageId)

structure Performed where
  succeeded : Bool
  store : MemoryLocalStore
  outbound : List ConversationId

namespace Performed

def ofStore (s : MemoryLocalStore) : ClientResult MemoryLocalStore → Performed
  | .ok s' => ⟨true, s', []⟩
  | .error _ => ⟨false, s, []⟩

def ofOutcome (o : MessagingManager.Outcome) : Performed := ⟨o.result.isOk, o.store, o.outbound⟩

end Performed

variable (s : MemoryLocalStore)

def perform (call : ClientCall) (x : ClientInput) : Performed :=
  match call with
  | .addOrUpdateContact contact => .ofStore s (addOrUpdateContact s contact)
  | .createContact user name safetyNumber roleNote deviceCount =>
    .ofStore s (createContact s x user name safetyNumber roleNote deviceCount)
  | .removeContact user => .ofStore s (removeContact s user)
  | .updateContactAlias user newAlias newRoleNote =>
    .ofStore s (updateContactAlias s x user newAlias newRoleNote)
  | .setBlocked user blocked => .ofStore s (setBlocked s x user blocked)
  | .markContactKeyChanged user newSafetyNumber =>
    .ofStore s (markContactKeyChanged s x user newSafetyNumber)
  | .verifyContactKey user verified =>
    .ofStore s (verifyContactKey s x user verified)
  | .openDirectConversation localUser peerUser title => .ofStore s
      ((openDirectConversation s x localUser peerUser title).map Prod.snd)
  | .createGroupConversation creator title participants => .ofStore s
      ((createGroupConversation s x creator title participants).map Prod.snd)
  | .addGroupParticipant id user => .ofStore s (addGroupParticipant s x id user)
  | .removeGroupParticipant id user =>
    .ofStore s (removeGroupParticipant s x id user)
  | .leaveConversation id user => .ofStore s (leaveConversation s x id user)
  | .deleteConversation id => .ofStore s (deleteConversation s id)
  | .markConversationRead id => .ofStore s (markConversationRead s id)
  | .sendMessage id sender device =>
    .ofOutcome (sendMessage s x id sender device)
  | .stageOutboundMessage id sender device draft =>
    .ofOutcome (stageOutboundMessage s x id sender device draft)
  | .retryFailedMessage id messageId =>
    .ofOutcome (retryFailedMessage s id messageId)
  | .updateMessageDeliveryState id messageId newState =>
    .ofStore s (updateMessageDeliveryState s id messageId newState)
  | .discardFailedMessage id messageId =>
    .ofStore s (discardFailedMessage s id messageId)
  | .triggerEmergencyWipe => .ofStore s (EmergencyManager.triggerEmergencyWipe s)
  | .acknowledgeEmergencyMessage id messageId =>
    .ofStore s (EmergencyManager.acknowledgeEmergencyMessage s id messageId)

/-! ## Suspension -/

structure ClientState where
  store : MemoryLocalStore
  suspended : UserId → Bool

def suspendedAfter (suspended : UserId → Bool) (call : ClientCall) (succeeded : Bool) :
    UserId → Bool :=
  match call, succeeded with
  | .markContactKeyChanged user _, true => update suspended user true
  | .verifyContactKey user true, true => update suspended user false
  | _, _ => suspended

def clientStep (c : ClientState) (e : ClientCall × ClientInput) : Option ClientState :=
  let p := perform c.store e.1 e.2
  some ⟨p.store, suspendedAfter c.suspended e.1 p.succeeded⟩

namespace MemoryLocalStore

def Contains (id : ConversationId) (user : UserId) : Prop :=
  ∃ conv, s.conversations id = some conv ∧ user ∈ conv.participants

def KeyChanged (user : UserId) : Prop :=
  ∃ contact, s.contacts user = some contact ∧ contact.verificationStatus = .keyChanged

end MemoryLocalStore

open MemoryLocalStore

/-- The call respects the suspensions: nothing goes to a conversation with a suspended user. -/
def Respects (c : ClientState) (e : ClientCall × ClientInput) : Prop :=
  ∀ id ∈ (perform c.store e.1 e.2).outbound, ∀ user, c.suspended user = true →
    ¬ c.store.Contains id user

/-- Guarded: a message is sent only where the guard of `stage_outbound_message` would pass, the sender
included, and the contact of a user whose key changed is neither replaced nor removed nor set back. -/
def Guarded : ClientCall → Prop
  | .sendMessage id _ _ | .retryFailedMessage id _ =>
    ∀ user, s.Contains id user → ¬ s.KeyChanged user
  | .stageOutboundMessage id sender _ _ => s.Contains id sender → ¬ s.KeyChanged sender
  | .createContact user _ _ _ _ | .removeContact user | .verifyContactKey user false =>
    ¬ s.KeyChanged user
  | .addOrUpdateContact contact =>
    contact.verificationStatus = .keyChanged ∨ ¬ s.KeyChanged contact.userId
  | _ => True

/-! ## What the calls do to the contacts -/

section Contacts

variable {s s' : MemoryLocalStore} {user : UserId}

theorem keyChanged_congr (h : s'.contacts = s.contacts) :
    s'.KeyChanged user ↔ s.KeyChanged user := by
  unfold MemoryLocalStore.KeyChanged
  rw [h]

theorem keyChanged_putContact {c : Contact} (hkey : s.KeyChanged user)
    (hc : c.userId = user → c.verificationStatus = .keyChanged) :
    (s.putContact c).KeyChanged user := by
  obtain ⟨contact, hcontact, hstatus⟩ := hkey
  by_cases hu : c.userId = user
  · refine ⟨c, ?_, hc hu⟩
    show update s.contacts c.userId (some c) user = some c
    rw [hu, update_self]
  refine ⟨contact, ?_, hstatus⟩
  show update s.contacts c.userId (some c) user = some contact
  rw [update_of_ne (Ne.symm hu)]
  exact hcontact

variable {target : UserId} {id : ConversationId} {x : ClientInput} {f : Contact → Contact}

theorem changeContact_eq_ok (h : changeContact s target f = .ok s') :
    ∃ contact, s.contacts target = some contact ∧ s' = s.putContact (f contact) := by
  obtain ⟨contact, hget, hsave⟩ := bind_eq_ok.mp h
  exact ⟨contact, (getContact_eq_ok.mp hget).2, (saveContact_eq_ok.mp hsave).2⟩

theorem keyChanged_changeContact (h : changeContact s target f = .ok s') (hkey : s.KeyChanged user)
    (hid : ∀ c, (f c).userId = c.userId)
    (hf : target = user → ∀ c, c.verificationStatus = .keyChanged →
    (f c).verificationStatus = .keyChanged) : s'.KeyChanged user := by
  obtain ⟨contact, hcontact, rfl⟩ := changeContact_eq_ok h
  apply keyChanged_putContact hkey
  intro huser
  -- the contact is stored under its own id, so it is the one whose key changed
  have htarget : target = user := by
    rw [← s.keyed target contact hcontact, ← hid contact]
    exact huser
  obtain ⟨stored, hstored, hstatus⟩ := hkey
  rw [htarget, hstored] at hcontact
  obtain rfl := Option.some.inj hcontact
  exact hf htarget stored hstatus

theorem keyChanged_ofStore {r : ClientResult MemoryLocalStore} (hkey : s.KeyChanged user)
    (h : ∀ s', r = .ok s' → s'.KeyChanged user) : (Performed.ofStore s r).store.KeyChanged user := by
  cases r with
  | ok s' => exact h s' rfl
  | error e => exact hkey

variable {messageId : MessageId}

theorem changeMessage_contacts {f : Message → Message}
    (h : changeMessage s id messageId f = .ok s') : s'.contacts = s.contacts := by
  obtain ⟨m, -, hupdate⟩ := bind_eq_ok.mp (check_bind_eq_ok.mp h).2
  exact updateMessage_contacts hupdate

theorem removeGroupParticipant_contacts (h : removeGroupParticipant s x id target = .ok s') :
    s'.contacts = s.contacts := by
  obtain ⟨conv, -, hrest⟩ := bind_eq_ok.mp (check_bind_eq_ok.mp h).2
  exact saveConversation_contacts (check_bind_eq_ok.mp hrest).2

variable {title : String}

theorem openDirectConversation_contacts {localUser peerUser : UserId}
    (h : (openDirectConversation s x localUser peerUser title).map Prod.snd =
      .ok s') : s'.contacts = s.contacts := by
  obtain ⟨opened, hopen, rfl⟩ := map_eq_ok.mp h
  have hrest := (check_bind_eq_ok.mp hopen).2
  split at hrest
  · rw [← Except.ok.inj hrest]
  obtain ⟨saved, hsave, hok⟩ := bind_eq_ok.mp hrest
  rw [← Except.ok.inj hok]
  exact saveConversation_contacts hsave

variable {participants : List UserId}

theorem createGroupConversation_contacts {creator : UserId}
    (h : (createGroupConversation s x creator title participants).map Prod.snd =
      .ok s') : s'.contacts = s.contacts := by
  obtain ⟨created, hcreate, rfl⟩ := map_eq_ok.mp h
  obtain ⟨saved, hsave, hok⟩ :=
    bind_eq_ok.mp (check_bind_eq_ok.mp (check_bind_eq_ok.mp hcreate).2).2
  rw [← Except.ok.inj hok]
  exact saveConversation_contacts hsave

variable {sender : UserId} {device : DeviceId}

theorem sendMessage_contacts :
    (sendMessage s x id sender device).store.contacts = s.contacts := by
  unfold sendMessage
  split
  · rfl
  split
  · rfl
  split
  · rfl
  split
  · rfl
  dsimp only
  split
  · rfl
  rename_i hsave
  exact saveMessage_contacts hsave

variable {draft : MessagingManager.Draft}

theorem stageOutboundMessage_contacts :
    (stageOutboundMessage s x id sender device draft).store.contacts = s.contacts := by
  unfold stageOutboundMessage
  split
  · rfl
  dsimp only
  split
  · rfl
  rename_i hsave
  have hsaved := saveMessage_contacts hsave
  split
  · exact hsaved
  rename_i hconv
  exact (saveConversation_contacts hconv).trans hsaved

theorem retryFailedMessage_contacts :
    (retryFailedMessage s id messageId).store.contacts = s.contacts := by
  unfold retryFailedMessage
  split
  · rfl
  split
  · rfl
  split
  · rfl
  split
  · rfl
  rename_i hupdate
  exact updateMessage_contacts hupdate

variable {call : ClientCall}

open Performed

/-- A guarded call leaves a changed key changed, unless it verifies it. -/
theorem keyChanged_of_perform (hguard : Guarded s call)
    (hkey : s.KeyChanged user) (hverify : call ≠ .verifyContactKey user true) :
    (perform s call x).store.KeyChanged user := by
  have hsame : ∀ {r : ClientResult MemoryLocalStore},
      (∀ s', r = .ok s' → s'.contacts = s.contacts) →
        (ofStore s r).store.KeyChanged user := fun h =>
    keyChanged_ofStore hkey fun s' hr => (keyChanged_congr (h s' hr)).mpr hkey
  cases call with
  | addOrUpdateContact contact =>
    refine keyChanged_ofStore hkey fun s' hr => ?_
    obtain ⟨-, rfl⟩ := saveContact_eq_ok.mp (check_bind_eq_ok.mp hr).2
    apply keyChanged_putContact hkey
    rintro rfl
    exact hguard.resolve_right fun hnot => hnot hkey
  | createContact target name safetyNumber roleNote deviceCount =>
    refine keyChanged_ofStore hkey fun s' hr => ?_
    have hrest := (check_bind_eq_ok.mp (check_bind_eq_ok.mp hr).2).2
    obtain ⟨-, rfl⟩ := saveContact_eq_ok.mp hrest
    apply keyChanged_putContact hkey
    intro htarget
    exact absurd hkey (htarget ▸ hguard)
  | removeContact target =>
    refine keyChanged_ofStore hkey fun s' hr => ?_
    obtain rfl := deleteContact_eq_ok (check_bind_eq_ok.mp hr).2
    obtain ⟨contact, hcontact, hstatus⟩ := hkey
    refine ⟨contact, ?_, hstatus⟩
    show update s.contacts target none user = some contact
    rw [update_of_ne]
    · exact hcontact
    rintro rfl
    exact hguard ⟨contact, hcontact, hstatus⟩
  | updateContactAlias target newAlias newRoleNote =>
    refine keyChanged_ofStore hkey fun s' hr => ?_
    have hrest := (check_bind_eq_ok.mp (check_bind_eq_ok.mp hr).2).2
    exact keyChanged_changeContact hrest hkey (fun _ => rfl) fun _ _ h => h
  | setBlocked target blocked =>
    refine keyChanged_ofStore hkey fun s' hr => ?_
    exact keyChanged_changeContact hr hkey (fun _ => rfl) fun _ _ h => h
  | markContactKeyChanged target newSafetyNumber =>
    refine keyChanged_ofStore hkey fun s' hr => ?_
    exact keyChanged_changeContact hr hkey (fun _ => rfl) fun _ _ _ => rfl
  | verifyContactKey target verified =>
    refine keyChanged_ofStore hkey fun s' hr => ?_
    refine keyChanged_changeContact hr hkey (fun _ => rfl) ?_
    rintro rfl
    cases verified with
    | true => exact absurd rfl hverify
    | false => exact absurd hkey hguard
  | openDirectConversation _ _ _ => exact hsame fun s' hr => openDirectConversation_contacts hr
  | createGroupConversation _ _ _ => exact hsame fun s' hr => createGroupConversation_contacts hr
  | addGroupParticipant id target =>
    refine hsame fun s' hr => ?_
    obtain ⟨conv, -, hrest⟩ := bind_eq_ok.mp (check_bind_eq_ok.mp (check_bind_eq_ok.mp hr).2).2
    exact saveConversation_contacts (check_bind_eq_ok.mp hrest).2
  | removeGroupParticipant | leaveConversation =>
    exact hsame fun s' hr => removeGroupParticipant_contacts hr
  | deleteConversation id => exact hsame fun s' hr =>
      deleteConversation_contacts (check_bind_eq_ok.mp hr).2
  | markConversationRead id =>
    refine hsame fun s' hr => ?_
    obtain ⟨conv, -, hsave⟩ := bind_eq_ok.mp (check_bind_eq_ok.mp hr).2
    exact saveConversation_contacts hsave
  | sendMessage _ _ _ => exact (keyChanged_congr sendMessage_contacts).mpr hkey
  | stageOutboundMessage _ _ _ _ =>
    exact (keyChanged_congr stageOutboundMessage_contacts).mpr hkey
  | retryFailedMessage _ _ => exact (keyChanged_congr retryFailedMessage_contacts).mpr hkey
  | updateMessageDeliveryState | discardFailedMessage | acknowledgeEmergencyMessage =>
    exact hsame fun s' hr => changeMessage_contacts hr
  | triggerEmergencyWipe => exact hkey

theorem perform_verify_failed {verified : Bool}
    (h : (perform s (.verifyContactKey user verified) x).succeeded = false) :
    (perform s (.verifyContactKey user verified) x).store = s := by
  show (ofStore s (verifyContactKey s x user verified)).store = s
  change (ofStore s (verifyContactKey s x user verified)).succeeded = false at h
  cases hr : verifyContactKey s x user verified with
  | ok s' =>
    rw [hr] at h
    cases h
  | error e => rfl

theorem keyChanged_of_mark {newSafetyNumber : String}
    (h : (perform s (.markContactKeyChanged user newSafetyNumber) x).succeeded = true) :
    (perform s (.markContactKeyChanged user newSafetyNumber) x).store.KeyChanged user := by
  change (ofStore s
    (markContactKeyChanged s x user newSafetyNumber)).succeeded = true at h
  show (ofStore s (markContactKeyChanged s x user newSafetyNumber)).store.KeyChanged user
  cases hr : markContactKeyChanged s x user newSafetyNumber with
  | error e =>
    rw [hr] at h
    cases h
  | ok s' =>
    obtain ⟨contact, hcontact, rfl⟩ := changeContact_eq_ok hr
    have huser : contact.userId = user := s.keyed user contact hcontact
    refine ⟨{ contact with
      verificationStatus := .keyChanged
      safetyNumber := if newSafetyNumber ≠ "" then newSafetyNumber else contact.safetyNumber
      updatedAt := x.now }, ?_, rfl⟩
    show update s.contacts contact.userId _ user = _
    rw [huser, update_self]

end Contacts

/-! ## What goes out -/

section Outbound

variable {s : MemoryLocalStore} {x : ClientInput} {id : ConversationId} {user : UserId}

variable {sender : UserId}

theorem not_keyChanged_of_recipientGuard
    (hopen : s.isOpen = true) (h : recipientGuard s sender participants = .ok ())
    (hmem : user ∈ participants) (hsender : user ≠ sender) : ¬ s.KeyChanged user := by
  rintro ⟨contact, hcontact, hstatus⟩
  have hmem' : user ∈ participants.filter (· ≠ sender) :=
    mem_filter.mpr ⟨hmem, decide_eq_true hsender⟩
  have hcheck := forM_eq_ok.mp h user hmem'
  rw [getContact_eq_ok.mpr ⟨hopen, hcontact⟩] at hcheck
  exact require_eq_ok.mp (check_bind_eq_ok.mp hcheck).1 hstatus

variable {target : ConversationId}

theorem mem_sendMessage_outbound
    (h : id ∈ (sendMessage s x target sender device).outbound) : id = target := by
  unfold sendMessage at h
  split at h
  · cases h
  split at h
  · cases h
  split at h
  · exact mem_singleton.mp h
  split at h
  · exact mem_singleton.mp h
  dsimp only at h
  split at h <;> exact mem_singleton.mp h

theorem mem_retryFailedMessage_outbound
    (h : id ∈ (retryFailedMessage s target messageId).outbound) : id = target := by
  unfold retryFailedMessage at h
  split at h
  · cases h
  split at h
  · cases h
  split at h
  · cases h
  split at h
  · cases h
  · exact mem_singleton.mp h

theorem mem_stageOutboundMessage_outbound
    (h : id ∈ (stageOutboundMessage s x target sender device draft).outbound) :
    id = target ∧ ∃ conv, stageCheck s target sender = .ok conv := by
  unfold stageOutboundMessage at h
  split at h
  · cases h
  rename_i conv hcheck
  dsimp only at h
  split at h
  · cases h
  · split at h <;> exact ⟨mem_singleton.mp h, conv, hcheck⟩

theorem not_keyChanged_of_stageCheck {conv : Conversation}
    (h : stageCheck s id sender = .ok conv) (hcontains : s.Contains id user)
    (hsender : user ≠ sender) : ¬ s.KeyChanged user := by
  have hrest := (check_bind_eq_ok.mp (check_bind_eq_ok.mp h).2).2
  obtain ⟨found, hget, hrest⟩ := bind_eq_ok.mp hrest
  obtain ⟨hguard, -⟩ := check_bind_eq_ok.mp hrest
  obtain ⟨hopen, hconv⟩ := getConversation_eq_ok.mp hget
  obtain ⟨conv', hconv', hmem⟩ := hcontains
  rw [hconv] at hconv'
  cases hconv'
  exact not_keyChanged_of_recipientGuard hopen hguard hmem hsender

theorem ofStore_outbound (s : MemoryLocalStore) (r : ClientResult MemoryLocalStore) :
    (Performed.ofStore s r).outbound = [] := by
  cases r <;> rfl

/-- A guarded call sends nothing to a conversation with a changed key. -/
theorem not_keyChanged_of_outbound (hguard : Guarded s call)
    (hout : id ∈ (perform s call x).outbound) (hcontains : s.Contains id user) :
    ¬ s.KeyChanged user := by
  cases call with
  | sendMessage target sender device =>
    obtain rfl := mem_sendMessage_outbound hout
    exact hguard user hcontains
  | retryFailedMessage target messageId =>
    obtain rfl := mem_retryFailedMessage_outbound hout
    exact hguard user hcontains
  | stageOutboundMessage target sender device draft =>
    obtain ⟨rfl, conv, hcheck⟩ := mem_stageOutboundMessage_outbound hout
    by_cases hsender : user = sender
    · subst hsender
      exact hguard hcontains
    · exact not_keyChanged_of_stageCheck hcheck hcontains hsender
  -- all other calls work on the store alone
  | _ => exact absurd hout (by rw [perform, ofStore_outbound]; exact not_mem_nil)

end Outbound

/-! ## Runs -/

def ClientState.Marked (c : ClientState) : Prop :=
  ∀ user, c.suspended user = true → c.store.KeyChanged user

theorem suspendedAfter_cases {suspended : UserId → Bool} {succeeded : Bool}
    {user : UserId} (h : suspendedAfter suspended call succeeded user = true) :
    (∃ number, call = .markContactKeyChanged user number ∧ succeeded = true) ∨
      (suspended user = true ∧ (call = .verifyContactKey user true → succeeded = false)) := by
  unfold suspendedAfter at h
  split at h
  next target number =>
    by_cases hu : user = target
    · subst hu
      exact .inl ⟨number, rfl, rfl⟩
    rw [update_of_ne hu] at h
    exact .inr ⟨h, nofun⟩
  next target =>
    by_cases hu : user = target
    · subst hu
      rw [update_self] at h
      cases h
    rw [update_of_ne hu] at h
    refine .inr ⟨h, ?_⟩
    rintro ⟨⟩
    exact absurd rfl hu
  rename_i hverify
  refine .inr ⟨h, ?_⟩
  rintro rfl
  exact Bool.eq_false_iff.mpr fun hsucceeded => hverify user rfl hsucceeded

theorem marked_of_step {c c' : ClientState} {e : ClientCall × ClientInput}
    (hguard : Guarded c.store e.1) (h : c.Marked) (hstep : clientStep c e = some c') : c'.Marked := by
  cases hstep
  obtain ⟨call, x⟩ := e
  intro user hsuspended
  show (perform c.store call x).store.KeyChanged user
  rcases suspendedAfter_cases hsuspended with ⟨number, rfl, hsucceeded⟩ | ⟨hbefore, hverify⟩
  · exact keyChanged_of_mark hsucceeded
  by_cases heq : call = .verifyContactKey user true
  · -- the verification did not succeed, so nothing changed
    subst heq
    rw [perform_verify_failed (hverify rfl)]
    exact h user hbefore
  · exact keyChanged_of_perform hguard (h user hbefore) heq

/-- **Key-change safety.** From a state in which nobody is suspended, along every run of guarded manager
calls: between a successful `mark_contact_key_changed` and a successful `verify_contact_key(…, true)`
nothing is staged or sent to a conversation with the user. -/
theorem key_change_respected {start c : ClientState} {calls : List (ClientCall × ClientInput)}
    {e : ClientCall × ClientInput} (hstart : ∀ user, start.suspended user = false)
    (hrun : Machine.run clientStep start calls = some c)
    (hguarded : Machine.Along clientStep (fun c e => Guarded c.store e.1) start (calls ++ [e])) :
    Respects c e := by
  have hinit : start.Marked := fun user hsuspended =>
    absurd ((hstart user).symm.trans hsuspended) nofun
  have hmarked : c.Marked := Machine.run_invariant
    (fun c e c' hguard hc hstep => marked_of_step hguard hc hstep) hinit hguarded.of_append_left hrun
  have hguard : Guarded c.store e.1 := (hguarded.of_append hrun).1
  intro id hout user hsuspended hcontains
  exact not_keyChanged_of_outbound hguard hout hcontains (hmarked user hsuspended)

namespace KeyChangeSample

def start : ClientState := ⟨.empty, fun _ => false⟩

def calls : List (ClientCall × ClientInput) :=
  [(.createContact "bob" "Bob" "" "" 1, {}), (.openDirectConversation "alice" "bob" "", {}),
    (.markContactKeyChanged "bob" "", {})]

def again : ClientCall × ClientInput := (.createContact "bob" "Bob" "" "" 1, {})

def send : ClientCall × ClientInput := (.sendMessage "direct-alice-bob" "alice" "laptop", {})

def stage : ClientCall × ClientInput :=
  (.stageOutboundMessage "direct-alice-bob" "alice" "laptop" ⟨"hello", 0, "", "", 0, ""⟩, {})

end KeyChangeSample

open KeyChangeSample in
/-- **Two ways around the guard.** `send_message` goes out although the key changed; and after the contact
was created again, a message is staged although nobody verified the new key. -/
theorem message_to_changed_key :
    (∃ c, Machine.run clientStep start calls = some c ∧ ¬ Respects c send) ∧
      ∃ c, Machine.run clientStep start (calls ++ [again]) = some c ∧ ¬ Respects c stage := by
  constructor
  all_goals
    refine ⟨_, rfl, fun h => ?_⟩
    exact h "direct-alice-bob" (by decide) "bob" (by decide) ⟨_, rfl, by decide⟩

open KeyChangeSample in
/-- Staging after the key changed respects the suspension: it is refused. -/
theorem stage_to_changed_key_respected :
    ∃ c, Machine.run clientStep start calls = some c ∧ c.suspended "bob" = true ∧
      Respects c stage := by
  refine ⟨_, rfl, rfl, ?_⟩
  refine key_change_respected (fun _ => rfl)
    (show Machine.run clientStep start calls = some _ from rfl) ?_
  refine ⟨?_, ?_⟩
  · rintro ⟨contact, hcontact, -⟩
    cases hcontact
  rintro _ ⟨⟩
  refine ⟨trivial, ?_⟩
  rintro _ ⟨⟩
  refine ⟨trivial, ?_⟩
  rintro _ ⟨⟩
  refine ⟨?_, fun _ _ => trivial⟩
  -- the sender is no contact
  rintro - ⟨contact, hcontact, -⟩
  exact absurd (hcontact.symm.trans (show _ = none by decide)) nofun

end SecureCloud.Client
