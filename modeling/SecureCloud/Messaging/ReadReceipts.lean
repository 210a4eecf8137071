import SecureCloud.Messaging.DeliveryStates
import SecureCloud.Messaging.Isolation
import SecureCloud.Messaging.Membership

/-
# Messaging.ReadReceipts — whose receipts a caller sees

The three entry points of `ReadReceiptService` authorize the caller for the conversation NAMED IN THE REQUEST
and then work on the rows of the message, which know nothing of conversations; the nil conversation is not
checked at all. The guarantee holds exactly when the request names the conversation the message is in.

Rows of `delivery_state_by_message` without a user make every read of the message throw (`none`). Outbox
events are left out, as in `DeliveryStates`.
-/

namespace SecureCloud.Messaging

open Lib ConversationStore List Option

/-! ## Results -/

inductive ReadState
  | unread
  | read
deriving DecidableEq

structure LogicalRecipientReadStatus where
  userId : UserId
  readState : ReadState := .unread
  readAt : Option TimePoint := none
  readerDeviceId : Option DeviceId := none

structure MessageReadStatusResponse where
  messageId : MessageId
  conversationId : ConversationId
  totalRecipients : Nat
  readRecipients : Nat
  recipientReadStatuses : List LogicalRecipientReadStatus

structure DeviceDeliveryStatus where
  deviceId : DeviceId
  recipientUserId : UserId
  deliveryState : DeliveryState
  deliveredAt : Option TimePoint

structure MessageDeliverySummary where
  messageId : MessageId
  conversationId : ConversationId
  totalTargets : Nat
  deliveredTargets : Nat
  pendingTargets : Nat
  expiredTargets : Nat
  deviceStatuses : List DeviceDeliveryStatus
  recipientReadStatuses : List LogicalRecipientReadStatus

/-! ## Aggregation per user

`std::map<UserId, LogicalRecipientReadStatus>`: one entry per user, in the order of the user ids; an
entry is updated by the rows of its user, in the order of the rows. -/

def recipientUsers (states : List RecipientDeliveryState) : List UserId :=
  (states.map (·.recipientUserId)).dedup.insertionSort (· ≤ ·)

def aggregate (observe : LogicalRecipientReadStatus → RecipientDeliveryState →
    LogicalRecipientReadStatus) (states : List RecipientDeliveryState) :
    List LogicalRecipientReadStatus :=
  (recipientUsers states).map fun user =>
    (states.filter (·.recipientUserId = user)).foldl observe { userId := user }

/-- The loop body of `get_message_read_status`. -/
def LogicalRecipientReadStatus.observe (status : LogicalRecipientReadStatus)
    (row : RecipientDeliveryState) : LogicalRecipientReadStatus :=
  match row.readAt with
  | some readAt =>
    let status := { status with readState := .read }
    if ∀ t ∈ status.readAt, readAt < t then
      { status with readAt := some readAt, readerDeviceId := some row.recipientDeviceId }
    else status
  | none => if status.readState ≠ .read then { status with readState := .unread } else status

/-- The loop body of the repository's `get_message_delivery_summary`. -/
def LogicalRecipientReadStatus.observeRow (status : LogicalRecipientReadStatus)
    (row : RecipientDeliveryState) : LogicalRecipientReadStatus :=
  match row.readAt with
  | some readAt =>
    if status.readState ≠ .read ∨ ∀ t ∈ status.readAt, readAt < t then
      { status with
        readState := .read, readAt := some readAt, readerDeviceId := some row.recipientDeviceId }
    else status
  | none => status

/-! ## The service -/

structure ReadReceiptService where
  membershipRepo : Bool
  deviceStatusChecker : Option (DeviceId → Bool)

structure ReceiptWorld where
  conversations : ConversationStore
  store : Store

def ConversationStore.isActiveParticipant (s : ConversationStore) (id : ConversationId)
    (user : UserId) : Bool :=
  match s.findParticipant id user with
  | some p => p.status = .active
  | none => false

theorem ConversationStore.isActiveParticipant_iff {s : ConversationStore} {id : ConversationId}
    {user : UserId} : s.isActiveParticipant id user = true ↔ s.Active id user := by
  unfold isActiveParticipant Active
  cases s.findParticipant id user <;> simp

namespace ReadReceiptService

variable (svc : ReadReceiptService) (w : ReceiptWorld) (conv : ConversationId)

/-- "Authorize conversation membership if membership repo is present". -/
def authorizes (caller : UserId) : Bool :=
  !(svc.membershipRepo && conv ≠ ⟨0⟩) || w.conversations.isActiveParticipant conv caller

/-- The two queries: the checks they share, and then `answer` on the rows of the message. -/
def onStates {α : Type} (message : MessageId) (caller : UserId)
    (answer : List RecipientDeliveryState → α) : Option (ServiceResult α) :=
  if caller = "" then some (.fail .notAParticipant "Caller user ID must not be empty")
  else if svc.authorizes w conv caller = false then
    some (.fail .notAParticipant "Caller is not an active participant in the specified conversation")
  else
    (w.store.fetchDeliveryStates message).map fun states =>
      if states = [] then .fail .invalidTargetDevice "Message delivery states not found"
      else .ok (answer states)

def getMessageReadStatus (message : MessageId) (caller : UserId) :
    Option (ServiceResult MessageReadStatusResponse) :=
  svc.onStates w conv message caller fun states =>
    let statuses := aggregate LogicalRecipientReadStatus.observe states
    { messageId := message
      conversationId := conv
      totalRecipients := statuses.length
      readRecipients := statuses.countP (·.readState = .read)
      recipientReadStatuses := statuses }

/-- `get_message_delivery_summary` of repository and service, which sets the answer's conversation to the
request's. -/
def getMessageDeliverySummary (message : MessageId) (caller : UserId) :
    Option (ServiceResult MessageDeliverySummary) :=
  svc.onStates w conv message caller fun states =>
    { messageId := message
      conversationId := conv
      totalTargets := states.length
      deliveredTargets := states.countP (·.deliveryState = .delivered)
      expiredTargets := states.countP (·.deliveryState = .expired)
      pendingTargets :=
        states.countP fun r => r.deliveryState ≠ .delivered ∧ r.deliveryState ≠ .expired
      deviceStatuses := states.map fun r =>
        ⟨r.recipientDeviceId, r.recipientUserId, r.deliveryState, r.deliveredAt⟩
      recipientReadStatuses := aggregate LogicalRecipientReadStatus.observeRow states }

/-- `record_read_receipt`, whose storage calls succeed: the reply and the tables after it. -/
def recordReadReceipt (cmd : ReadReceiptCommand) (now : TimePoint) :
    Option (ServiceResult ReadReceiptResponse × ReceiptWorld) :=
  let participantActive := svc.authorizes w cmd.conversationId cmd.callerUserId
  let deviceActive := (svc.deviceStatusChecker.map (· cmd.readerDeviceId)).getD true
  match cmd.invalid participantActive deviceActive with
  | some result => some (result, w)
  | none =>
    (w.store.fetchDeliveryStates cmd.messageId).map fun states =>
      match cmd.check states with
      | .inl result => (result, w)
      | .inr _ =>
        let readAt := if 0 < cmd.readAt then cmd.readAt else now
        let store' := w.store.recordReadAck cmd.messageId cmd.readerDeviceId readAt
        (.ok (cmd.response readAt false), { w with store := store' })

end ReadReceiptService

open ReadReceiptService

/-! ## Who is served -/

inductive ReceiptCall
  | readStatus (conv : ConversationId) (message : MessageId) (caller : UserId)
  | deliverySummary (conv : ConversationId) (message : MessageId) (caller : UserId)
  | recordRead (cmd : ReadReceiptCommand) (now : TimePoint)

namespace ReceiptCall

def conversation : ReceiptCall → ConversationId
  | readStatus conv _ _ => conv
  | deliverySummary conv _ _ => conv
  | recordRead cmd _ => cmd.conversationId

def message : ReceiptCall → MessageId
  | readStatus _ message _ => message
  | deliverySummary _ message _ => message
  | recordRead cmd _ => cmd.messageId

def caller : ReceiptCall → UserId
  | readStatus _ _ caller => caller
  | deliverySummary _ _ caller => caller
  | recordRead cmd _ => cmd.callerUserId

def Succeeds (svc : ReadReceiptService) (w : ReceiptWorld) : ReceiptCall → Prop
  | readStatus conv message caller =>
    ∃ resp, svc.getMessageReadStatus w conv message caller = some (.ok resp)
  | deliverySummary conv message caller =>
    ∃ resp, svc.getMessageDeliverySummary w conv message caller = some (.ok resp)
  | recordRead cmd now => ∃ resp w', svc.recordReadReceipt w cmd now = some (.ok resp, w')

end ReceiptCall

open ReceiptCall

section
variable {svc : ReadReceiptService} {w : ReceiptWorld}

theorem ReadReceiptCommand.invalid_spec (cmd : ReadReceiptCommand) (participant device : Bool) :
    (∀ resp, cmd.invalid participant device ≠ some (.ok resp)) ∧
      (cmd.invalid participant device = none → cmd.conversationId = ⟨0⟩ ∨ participant = true) := by
  unfold ReadReceiptCommand.invalid
  constructor
  · intro resp
    split_ifs <;> simp
  split_ifs with h₁ h₂ h₃ h₄ h₅ h₆ <;> simp only [IsEmpty.forall_iff]
  intro _
  by_cases hnil : cmd.conversationId = ⟨0⟩
  · exact .inl hnil
  right
  simpa [hnil] using h₅

variable {conv : ConversationId} {caller : UserId}

/-- When a query succeeds. -/
theorem ReadReceiptService.onStates_eq_ok {α : Type} {message : MessageId}
    {answer : List RecipientDeliveryState → α} :
    (∃ resp, svc.onStates w conv message caller answer = some (.ok resp)) ↔
      caller ≠ "" ∧ svc.authorizes w conv caller = true ∧
        ∃ states, w.store.fetchDeliveryStates message = some states ∧ states ≠ [] := by
  unfold onStates
  by_cases hcaller : caller = ""
  · simp [hcaller]
  by_cases hauth : svc.authorizes w conv caller = true
  · rw [if_neg hcaller, if_neg (by simp [hauth])]
    cases w.store.fetchDeliveryStates message with
    | none => simp
    | some states => by_cases hnil : states = [] <;> simp [hnil, hcaller, hauth]
  · rw [if_neg hcaller, if_pos (by simpa using hauth)]
    simp [hauth]

variable {states : List RecipientDeliveryState}

theorem ReadReceiptService.onStates_answer {α : Type} {message : MessageId}
    {answer : List RecipientDeliveryState → α} {resp : α}
    (hstates : w.store.fetchDeliveryStates message = some states)
    (h : svc.onStates w conv message caller answer = some (.ok resp)) : resp = answer states := by
  unfold onStates at h
  rw [hstates, map_some] at h
  split_ifs at h
  · exact nomatch h
  · exact nomatch h
  · exact nomatch h
  · exact (ServiceResult.ok.inj (some.inj h)).symm

theorem ReceiptCall.recordRead_succeeds {cmd : ReadReceiptCommand} {now : TimePoint}
    {target : RecipientDeliveryState}
    (hvalid : cmd.invalid (svc.authorizes w cmd.conversationId cmd.callerUserId)
    ((svc.deviceStatusChecker.map (· cmd.readerDeviceId)).getD true) = none)
    (hstates : w.store.fetchDeliveryStates cmd.messageId = some states)
    (hcheck : cmd.check states = .inr target) : (recordRead cmd now).Succeeds svc w := by
  simp [Succeeds, recordReadReceipt, hvalid, hstates, hcheck]

/-- **What every success rests on**: the caller is authorized for the conversation of the request. -/
theorem ReceiptCall.Succeeds.authorized {call : ReceiptCall} (h : call.Succeeds svc w) :
    svc.authorizes w call.conversation call.caller = true := by
  cases call with
  | readStatus | deliverySummary => exact (onStates_eq_ok.mp h).2.1
  | recordRead cmd now =>
    obtain ⟨resp, w', h⟩ := h
    unfold recordReadReceipt at h
    obtain ⟨hfail, hnone⟩ := cmd.invalid_spec (svc.authorizes w cmd.conversationId cmd.callerUserId)
      ((svc.deviceStatusChecker.map (· cmd.readerDeviceId)).getD true)
    dsimp only at h
    split at h
    next result hresult =>
      cases h
      exact absurd hresult (hfail resp)
    rename_i hvalid
    rcases hnone hvalid with hnil | hauth
    · simp [authorizes, conversation, hnil]
    · exact hauth

theorem ReadReceiptService.active_of_authorizes
    (hrepo : svc.membershipRepo = true) (hconv : conv ≠ ⟨0⟩)
    (h : svc.authorizes w conv caller = true) : w.conversations.Active conv caller := by
  rw [← isActiveParticipant_iff]
  simpa [authorizes, hrepo, hconv] using h

variable (msg : MessageEntity) (conv : ConversationId)

/-- The message has gone to `mallory`, whose only membership, if any, is in the conversation the request
names. -/
def intruderWorld : ReceiptWorld where
  conversations :=
    if conv = msg.conversationId then .empty
    else empty.saveParticipant (newParticipant conv "mallory" .member 0)
  store :=
    { Store.empty with
      messages := [msg]
      deliveryStates := [⟨msg.messageId, "laptop", "mallory", .queued, none, none⟩] }

theorem intruder_not_active :
    ¬ (intruderWorld msg conv).conversations.Active msg.conversationId "mallory" := by
  rintro ⟨p, hp, -⟩
  unfold intruderWorld at hp
  by_cases heq : conv = msg.conversationId
  · simp only [if_pos heq] at hp
    exact nomatch hp
  simp only [if_neg heq, findParticipant_saveParticipant] at hp
  rw [if_neg] at hp
  · exact nomatch hp
  intro hkey
  exact heq (congrArg Prod.fst hkey).symm

theorem intruder_served (h : svc.membershipRepo = true → conv ≠ ⟨0⟩ → conv ≠ msg.conversationId) :
    (readStatus conv msg.messageId "mallory").Succeeds svc (intruderWorld msg conv) := by
  have hauth : svc.authorizes (intruderWorld msg conv) conv "mallory" = true := by
    unfold authorizes
    by_cases hchecked : svc.membershipRepo = true ∧ conv ≠ ⟨0⟩
    · have hne := h hchecked.1 hchecked.2
      have hactive : (intruderWorld msg conv).conversations.Active conv "mallory" := by
        refine ⟨newParticipant conv "mallory" .member 0, ?_, rfl⟩
        simp [intruderWorld, hne, findParticipant_saveParticipant]
      rw [isActiveParticipant_iff.mpr hactive, Bool.or_true]
    simp only [Bool.or_eq_true, Bool.not_eq_true', Bool.and_eq_false_iff, decide_eq_false_iff_not]
    left
    by_cases hrepo : svc.membershipRepo = true
    · exact .inr fun hconv => hchecked ⟨hrepo, hconv⟩
    · exact .inl (by simpa using hrepo)
  refine onStates_eq_ok.mpr ⟨by decide, hauth, ?_⟩
  simp [intruderWorld, Store.fetchDeliveryStates, Store.getDeliveryStatesForMessage]

/-- **Receipt confidentiality, exactly.** For a message and a conversation id in the request: whatever
the tables and the entry point, a call that succeeds was made by an active participant of the message's
conversation. It holds exactly when the request is checked and names that very conversation. -/
theorem receipts_confidential_iff (svc : ReadReceiptService) (msg : MessageEntity)
    (conv : ConversationId) :
    (∀ (w : ReceiptWorld) (call : ReceiptCall), msg ∈ w.store.messages →
      call.conversation = conv → call.message = msg.messageId → call.Succeeds svc w →
      w.conversations.Active msg.conversationId call.caller) ↔
    svc.membershipRepo = true ∧ conv ≠ ⟨0⟩ ∧ conv = msg.conversationId := by
  constructor
  · intro h
    by_contra hnot
    apply intruder_not_active msg conv
    refine h _ (.readStatus conv msg.messageId "mallory") mem_cons_self rfl rfl ?_
    apply intruder_served
    intro hrepo hconv heq
    exact hnot ⟨hrepo, hconv, heq⟩
  rintro ⟨hrepo, hconv, rfl⟩ w call - hcall - hsucceeds
  rw [← hcall]
  apply active_of_authorizes hrepo
  · rwa [hcall]
  · exact hsucceeds.authorized

end

/-! ## The two views

Both queries aggregate the same rows, the one by the time of reading alone, the other by what it has
aggregated so far. A state `READ` counts as pending in the summary: `record_read_ack` takes a device OUT
of the delivered ones. -/

theorem LogicalRecipientReadStatus.observe_eq {status : LogicalRecipientReadStatus}
    (row : RecipientDeliveryState) (h : status.readState = .read ↔ status.readAt.isSome) :
    status.observe row = status.observeRow row ∧
      ((status.observe row).readState = .read ↔ (status.observe row).readAt.isSome) := by
  obtain ⟨user, state, readAt, reader⟩ := status
  unfold observe observeRow
  cases state <;> cases readAt <;> cases row.readAt <;> simp_all
  split_ifs <;> simp

theorem aggregate_observe (states : List RecipientDeliveryState) :
    aggregate .observe states = aggregate .observeRow states := by
  -- the loops start with an entry without a time, and keep it coherent
  have hfold : ∀ (rows : List RecipientDeliveryState) (status : LogicalRecipientReadStatus),
      (status.readState = .read ↔ status.readAt.isSome) →
      rows.foldl .observe status = rows.foldl .observeRow status := by
    intro rows
    induction rows with
    | nil => exact fun _ _ => rfl
    | cons row rows ih =>
      intro status hstatus
      obtain ⟨heq, hnext⟩ := LogicalRecipientReadStatus.observe_eq row hstatus
      rw [foldl_cons, foldl_cons, ← heq]
      exact ih _ hnext
  unfold aggregate
  exact map_congr_left fun user _ => hfold _ _ (by simp)

def RecipientDeliveryState.reached (r : RecipientDeliveryState) : Bool :=
  r.deliveryState = .delivered ∨ r.deliveryState = .read

open RecipientDeliveryState

theorem countP_delivered_iff (states : List RecipientDeliveryState) :
    states.countP (·.deliveryState = .delivered) = states.countP (·.reached) ↔
      ∀ r ∈ states, r.deliveryState ≠ .read := by
  induction states with
  | nil => simp
  | cons r rest ih =>
    have hle : rest.countP (·.deliveryState = .delivered) ≤ rest.countP (·.reached) :=
      countP_mono_left fun r _ => by simp +contextual [reached]
    rw [countP_cons, countP_cons, forall_mem_cons, ← ih]
    by_cases hread : r.deliveryState = .read
    · have hreached : r.reached = true := by simp [reached, hread]
      refine iff_of_false ?_ fun h => h.1 hread
      rw [if_neg (by simp [hread]), if_pos hreached]
      omega
    have hreached : r.reached = decide (r.deliveryState = .delivered) := by
      simp [reached, hread]
    rw [hreached, Nat.add_right_cancel_iff]
    simp [hread]

/-- **The two views of a message**: the same read statuses, user by user; and the delivered count is
that of the targets in state `DELIVERED` or `READ` exactly when none is in state `READ`. -/
theorem receipt_views_agree_iff (svc : ReadReceiptService) (w : ReceiptWorld) (conv : ConversationId)
    (message : MessageId) (caller : UserId) (states : List RecipientDeliveryState)
    (status : MessageReadStatusResponse) (summary : MessageDeliverySummary)
    (hstates : w.store.fetchDeliveryStates message = some states)
    (hstatus : svc.getMessageReadStatus w conv message caller = some (.ok status))
    (hsummary : svc.getMessageDeliverySummary w conv message caller = some (.ok summary)) :
    summary.recipientReadStatuses = status.recipientReadStatuses ∧
      (summary.deliveredTargets = states.countP (·.reached) ↔
        ∀ r ∈ states, r.deliveryState ≠ .read) := by
  obtain rfl := onStates_answer hstates hstatus
  obtain rfl := onStates_answer hstates hsummary
  exact ⟨(aggregate_observe states).symm, countP_delivered_iff states⟩

namespace ReadByOne

def service : ReadReceiptService := ⟨false, none⟩

def delivered : Store :=
  { Store.empty with deliveryStates := [⟨⟨1⟩, "laptop", "bob", .delivered, some 3, none⟩] }

def counts (s : Store) : Option (Nat × Nat) :=
  match service.getMessageDeliverySummary ⟨.empty, s⟩ ⟨7⟩ ⟨1⟩ "bob" with
  | some (.ok summary) => some (summary.deliveredTargets, summary.pendingTargets)
  | _ => none

theorem delivered_is_counted : ∃ status summary,
      service.getMessageReadStatus ⟨.empty, delivered⟩ ⟨7⟩ ⟨1⟩ "bob" = some (.ok status) ∧
      service.getMessageDeliverySummary ⟨.empty, delivered⟩ ⟨7⟩ ⟨1⟩ "bob" = some (.ok summary) ∧
      summary.recipientReadStatuses = status.recipientReadStatuses ∧
      (summary.deliveredTargets = delivered.deliveryStates.countP (·.reached) ↔
        ∀ r ∈ delivered.deliveryStates, r.deliveryState ≠ .read) :=
  ⟨_, _, rfl, rfl, receipt_views_agree_iff service ⟨.empty, delivered⟩ ⟨7⟩ ⟨1⟩ "bob" _ _ _ rfl rfl rfl⟩

/-- The device reads the message: nothing is delivered any more, and one target is pending again. -/
theorem read_is_pending : counts delivered = some (1, 0) ∧
      counts (delivered.recordReadAck ⟨1⟩ "laptop" 5) = some (0, 1) ∧
      (delivered.recordReadAck ⟨1⟩ "laptop" 5).deliveryStates.countP (·.reached) = 1 := by
  decide

end ReadByOne

namespace ReceiptSample

def service : ReadReceiptService := ⟨true, none⟩

/-- `carol` makes a group with the user of the sample message, `mallory` one alone, and `carol` removes
that user. -/
def calls : List ConversationCall :=
  [ .createGroup "carol" "team" [Sample.user] ⟨7⟩ 0, .createGroup "mallory" "own" [] ⟨8⟩ 0,
    .remove "carol" ⟨7⟩ Sample.user 1 ]

def state (device : DeviceId) : RecipientDeliveryState :=
  ⟨⟨1⟩, device, Sample.user, .queued, none, none⟩

def receipt : ReadReceiptCommand := ⟨⟨1⟩, ⟨0⟩, Sample.user, "laptop", "laptop", 5⟩

end ReceiptSample

open ReceiptSample in
/-- **All three entry points serve outsiders.** After the complete submission of a message to
conversation 7, `mallory`, who was never in it, is told its read status and delivery summary by
naming their own conversation 8; and the user `carol` removed marks it as read by naming none. -/
theorem outsiders_are_served :
    ∃ convs c, Machine.run ConversationCall.step .empty calls = some convs ∧
      Interleaving.run Sample.env.next SubmissionEnv.start Sample.complete = some c ∧
      (∃ msg ∈ c.shared.store.messages, msg.messageId = ⟨1⟩ ∧ msg.conversationId = ⟨7⟩) ∧
      ¬ convs.Active ⟨7⟩ "mallory" ∧ ¬ convs.Active ⟨7⟩ Sample.user ∧
      (readStatus ⟨8⟩ ⟨1⟩ "mallory").Succeeds service ⟨convs, c.shared.store⟩ ∧
      (deliverySummary ⟨8⟩ ⟨1⟩ "mallory").Succeeds service ⟨convs, c.shared.store⟩ ∧
      (recordRead receipt 9).Succeeds service ⟨convs, c.shared.store⟩ := by
  have hrun : (Interleaving.run Sample.env.next SubmissionEnv.start Sample.complete).map
      (fun c => (c.shared.store.messages.map fun m => (m.messageId, m.conversationId),
        c.shared.store.fetchDeliveryStates ⟨1⟩)) =
      some ([(⟨1⟩, ⟨7⟩)], some [state "tablet", state "laptop"]) := by
    decide
  obtain ⟨c, hc, hval⟩ := map_eq_some_iff.mp hrun
  obtain ⟨hmessages, hstates⟩ := Prod.mk.inj hval
  obtain ⟨msg, rest, hcons, hmsg, -⟩ := map_eq_cons_iff.mp hmessages
  refine ⟨_, c, rfl, hc, ⟨msg, by simp [hcons], ?_⟩, ?_, ?_, ?_, ?_, ?_⟩
  · exact Prod.mk.inj hmsg
  · rw [← isActiveParticipant_iff]
    decide
  · rw [← isActiveParticipant_iff]
    decide
  · exact onStates_eq_ok.mpr ⟨by decide, rfl, _, hstates, by simp⟩
  · exact onStates_eq_ok.mpr ⟨by decide, rfl, _, hstates, by simp⟩
  · exact recordRead_succeeds rfl hstates rfl

end SecureCloud.Messaging
