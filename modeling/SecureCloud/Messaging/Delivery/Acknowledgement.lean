import SecureCloud.Messaging.Delivery.Calls

/-
# Messaging.Delivery.Acknowledgement — does an acknowledgement reach the queue?

`acknowledge_delivery` commits the fan-out row and then looks for the record in the queue, among the first
HUNDRED rows of the month of the acknowledgement. The record lies in the month in which the message was
accepted, and terminal rows never leave the queue. A message acknowledged in a later month, or behind a
hundred older rows, keeps its record as it was; so does one whose fan-out row is acknowledged already.
-/

namespace SecureCloud.Messaging.Delivery

open Lib.Program Lib.Table Protocol Statement Option

def ackTime (cmd : DeliveryAckCommand) (now : TimePoint) : TimePoint :=
  if 0 < cmd.deliveredAt then cmd.deliveredAt else now

def AlreadyAcked (w : World) (cmd : DeliveryAckCommand) : Prop :=
  ∃ s, w.tables.states.find (cmd.messageId, cmd.recipientDeviceId) = some s ∧ s.deliveryState.arrived

/-- `r` is the first record of the message among the first hundred rows of the device in the month
of `t`. -/
def InReach (w : World) (cmd : DeliveryAckCommand) (t : TimePoint) (r : QueueRow) : Prop :=
  ∃ bucket, MessageBucket.fromTimePoint t = some bucket ∧
    ((w.tables.bucketRows cmd.recipientDeviceId bucket.value).take 100).find?
      (·.messageId = cmd.messageId) = some r

/-! ## The checks -/

section
variable {cmd : DeliveryAckCommand} {t : TimePoint} {active : Bool}
  {states : List RecipientDeliveryState}

open DeliveryAckCommand

/-- What the checks let through: the only success is a replay, and what goes on has not arrived. -/
theorem check_cases :
    (∀ resp, cmd.check t active states = .inl (.ok resp) →
      ∃ target, states.find? (·.recipientDeviceId = cmd.recipientDeviceId) = some target ∧
        target.deliveryState.arrived) ∧
    ∀ target, cmd.check t active states = .inr target →
      states.find? (·.recipientDeviceId = cmd.recipientDeviceId) = some target ∧
        target.deliveryState.arrived = false := by
  unfold check
  split
  · exact ⟨nofun, nofun⟩
  rename_i target htarget
  split
  · exact ⟨nofun, nofun⟩
  split
  · exact ⟨nofun, nofun⟩
  split
  · exact ⟨nofun, nofun⟩
  split
  next harrived =>
    exact ⟨fun _ _ => ⟨target, htarget, by simpa [DeliveryState.arrived] using harrived⟩, nofun⟩
  rename_i hopen
  split
  · exact ⟨nofun, nofun⟩
  refine ⟨nofun, ?_⟩
  rintro _ ⟨⟩
  exact ⟨htarget, by simpa [DeliveryState.arrived] using hopen⟩

end

/-! ## The call -/

section
variable {cfg : Config} {cmd : DeliveryAckCommand} {w : World} {t : TimePoint}

open Tables

theorem find_fetched {recs : List QueueRecord} {bucket : String} (message : MessageId)
    (h : w.tables.fetchPendingForDevice cmd.recipientDeviceId bucket 100 = some recs) :
    (recs.find? (·.row.messageId = message)).map QueueRecord.row =
      ((w.tables.bucketRows cmd.recipientDeviceId bucket).take 100).find?
        (·.messageId = message) := by
  have hrows := fetch_rows h
  rw [show (int32Of 100).toNat = 100 by decide] at hrows
  rw [← hrows, List.find?_map]
  rfl

def Reached (cmd : DeliveryAckCommand) (w : World) (t : TimePoint) (w' : World) : Prop :=
  ∀ r ∈ w.tables.queue.rows, r.deviceId = cmd.recipientDeviceId → r.messageId = cmd.messageId →
    ((w'.tables.queue.find r.key).map (·.deliveryState) = some .delivered ↔
      r.deliveryState = .delivered ∨ InReach w cmd t r)

variable {bucket : MessageBucket}

open Keyed

theorem reached_update {rec : QueueRow} {w' : World}
    (hbucket : MessageBucket.fromTimePoint t = some bucket)
    (hfound : ((w.tables.bucketRows cmd.recipientDeviceId bucket.value).take 100).find?
      (·.messageId = cmd.messageId) = some rec) (hw' : w'.tables.queue =
      (w.tables.updateDeviceDeliveryStatus rec.key .delivered rec.attemptCount none).queue) :
    Reached cmd w t w' := by
  intro r hr _ _
  have hrec : rec ∈ w.tables.queue.rows :=
    (mem_bucketRows.mp (List.mem_of_mem_take (List.mem_of_find?_eq_some hfound))).1
  rw [hw', find_updateDeviceDeliveryStatus]
  have hreach : InReach w cmd t r ↔ r = rec := by
    constructor
    · rintro ⟨bucket', hbucket', hr'⟩
      obtain rfl := some.inj (hbucket.symm.trans hbucket')
      exact some.inj (hr'.symm.trans hfound)
    · rintro rfl
      exact ⟨bucket, hbucket, hfound⟩
  rw [hreach]
  by_cases hkey : r.key = rec.key
  · -- rows with one key are one row
    have hsame : r = rec := by
      have h₁ := mem_rows_iff.mp hr
      rw [hkey, mem_rows_iff.mp hrec] at h₁
      exact (some.inj h₁).symm
    simp [hsame, updatedRow]
  have hne : r ≠ rec := fun h => hkey (h ▸ rfl)
  rw [if_neg hkey, mem_rows_iff.mp hr]
  simp [hne]

theorem reached_of_none {w' : World}
    (hbucket : MessageBucket.fromTimePoint t = some bucket)
    (hnone : ((w.tables.bucketRows cmd.recipientDeviceId bucket.value).take 100).find?
      (·.messageId = cmd.messageId) = none)
    (hw' : w'.tables.queue = w.tables.queue) : Reached cmd w t w' := by
  intro r hr _ _
  have hreach : ¬ InReach w cmd t r := by
    rintro ⟨bucket', hbucket', hr'⟩
    obtain rfl := some.inj (hbucket.symm.trans hbucket')
    rw [hnone] at hr'
    exact nomatch hr'
  rw [hw', mem_rows_iff.mp hr]
  simp [hreach]

open Config

/-- Steps 6 to 8, from a state that has the queue of `w`. -/
theorem commitAck_reached {user : UserId} {past : Past} {w₀ : World}
    (hw₀ : w₀.tables.queue = w.tables.queue) :
    alone.SatE (exec cfg) (fun _ _ w' => Reached cmd w t w') (fun _ _ _ => True)
      (cfg.commitAck cmd user t) past w₀ := by
  unfold commitAck
  refine satE_bind (solo_satE_perform ?_)
  rintro x r w₁ hrecord -
  refine satE_bind (satE_rethrow ?_)
  rintro a rfl _ rfl -
  obtain rfl := writing_eq_ok (some.inj hrecord)
  refine satE_bind (satE_bucketOf ?_ (fun _ _ _ _ => trivial))
  rintro bucket hbucket _ rfl -
  unfold fetchPending
  refine satE_bind (satE_bind (solo_satE_perform ?_))
  rintro x r w₂ hfetch -
  refine satE_rethrow ?_
  rintro recs rfl _ rfl -
  obtain ⟨hread, rfl⟩ := Prod.mk.inj (some.inj hfetch)
  -- the queue is still that of `w`
  have hfetched : w.tables.fetchPendingForDevice cmd.recipientDeviceId bucket.value 100 = some recs := by
    have h := reading_eq_ok hread
    unfold fetchPendingForDevice bucketRows at h ⊢
    rw [show (w₀.tables.recordDeliveryAck cmd.messageId cmd.recipientDeviceId t).queue =
      w.tables.queue from hw₀] at h
    exact h
  have hfind := find_fetched cmd.messageId hfetched
  -- whatever happens to the outbox, the queue is as step 7 leaves it
  have hrest : ∀ (found : Option QueueRecord) {past} {w₁ : World}, Reached cmd w t w₁ →
      alone.SatE (exec cfg) (fun _ _ w' => Reached cmd w t w') (fun _ _ _ => True) (do
          if cfg.outbox then
            let given := cmd.conversationId.getD ⟨0⟩
            let conv :=
              if given = ⟨0⟩ then (found.map (·.content.conversationId)).getD given else given
            enqueueEvent { conversationId := conv, eventType := "MessageDelivered"
                           payloadJson := ackPayload cmd user t, createdAt := t }
          pure (.ok { messageId := cmd.messageId, state := .delivered, recordedAt := t
                      isIdempotentReplay := false } : ServiceResult DeliveryAckResponse)) past w₁ := by
    intro found past w₁ hreached
    by_cases houtbox : cfg.outbox
    · rw [if_pos houtbox]
      unfold enqueueEvent
      refine satE_bind (satE_bind (solo_satE_perform ?_))
      rintro x r w₂ henqueue -
      refine satE_rethrow ?_
      rintro a rfl _ rfl -
      obtain rfl := writing_eq_ok (some.inj henqueue)
      exact solo_pure hreached
    · rw [if_neg houtbox]
      exact solo_pure hreached
  cases hrec : recs.find? (·.row.messageId = cmd.messageId) with
  | none =>
    rw [hrec, map_none] at hfind
    exact hrest none (reached_of_none hbucket hfind.symm hw₀)
  | some rec =>
    rw [hrec, map_some] at hfind
    unfold updateStatus
    refine satE_bind (satE_bind (solo_satE_perform ?_))
    rintro x r w₃ hupdate -
    refine satE_rethrow ?_
    rintro a rfl _ rfl -
    obtain rfl := writing_eq_ok (some.inj hupdate)
    refine hrest (some rec) (reached_update hbucket hfind.symm ?_)
    simp only [updateDeviceDeliveryStatus, updatedRow]
    rw [show (w₀.tables.recordDeliveryAck cmd.messageId cmd.recipientDeviceId t).queue =
      w.tables.queue from hw₀]

/-- What a successful call leaves: an answer from the fan-out row and the old queue, or the queue after
steps 6 to 8. -/
def Acked (cmd : DeliveryAckCommand) (w : World) (t : TimePoint)
    (result : ServiceResult DeliveryAckResponse) (w' : World) : Prop :=
  ∀ resp, result = .ok resp → (AlreadyAcked w cmd ∧ w'.tables.queue = w.tables.queue) ∨
      (¬ AlreadyAcked w cmd ∧ Reached cmd w t w')

theorem ackLocked_acked {past : Past} {w₀ : World} (hw₀ : w₀.tables = w.tables) :
    alone.SatE (exec cfg) (fun _ result w' => Acked cmd w t result w')
      (fun _ _ _ => True) (cfg.ackLocked cmd t) past w₀ := by
  unfold ackLocked fetchStates
  refine satE_bind (satE_bind (solo_satE_perform ?_))
  rintro x r w₁ hfetch -
  refine satE_rethrow ?_
  rintro states rfl _ rfl -
  obtain ⟨hread, rfl⟩ := Prod.mk.inj (some.inj hfetch)
  have hstates : w.tables.getDeliveryStatesForMessage cmd.messageId = some states := by
    rw [← hw₀]
    exact reading_eq_ok hread
  have htarget : states.find? (·.recipientDeviceId = cmd.recipientDeviceId) =
      w.tables.states.find (cmd.messageId, cmd.recipientDeviceId) :=
    find_getDeliveryStates hstates
  refine satE_bind (solo_satE_perform ?_)
  rintro x active w₂ hactive -
  obtain ⟨-, rfl⟩ := Prod.mk.inj (some.inj hactive)
  cases hcheck : cmd.check t active states with
  | inl result =>
    refine solo_pure ?_
    rintro resp rfl
    obtain ⟨target, hfound, harrived⟩ := check_cases.1 _ hcheck
    exact .inl ⟨⟨target, htarget ▸ hfound, harrived⟩, by rw [hw₀]⟩
  | inr target =>
    obtain ⟨hfound, hopen⟩ := check_cases.2 _ hcheck
    have hfresh : ¬ AlreadyAcked w cmd := by
      rintro ⟨s, hs, harrived⟩
      rw [← htarget, hfound] at hs
      cases hs
      rw [hopen] at harrived
      exact nomatch harrived
    have hqueue : w₀.tables.queue = w.tables.queue := by rw [hw₀]
    refine Sat.mono ?_ (commitAck_reached hqueue)
    intro past result w' _ hresult
    cases result with
    | ok result =>
      intro resp _
      exact .inr ⟨hfresh, hresult w' rfl trivial⟩
    | error what => trivial

end

/-- **When an acknowledgement reaches the queue.** A record of the message and the device is `DELIVERED`
after a successful call exactly when it was so before, or the fan-out row had not arrived yet and the
record is the first one of the message among the device's first hundred rows in the month of the
acknowledgement. -/
theorem delivered_after_ack_iff (cfg : Config) (cmd : DeliveryAckCommand) (x : Env) (xs : List Env)
    (w w' : World) (resp : DeliveryAckResponse) (r : QueueRow)
    (hcall : (cfg.acknowledgeDelivery cmd).run.eval (exec cfg) (x :: xs) w =
      some (.ok (.ok resp), w'))
    (hr : r ∈ w.tables.queue.rows) (hdevice : r.deviceId = cmd.recipientDeviceId)
    (hmessage : r.messageId = cmd.messageId) :
    (w'.tables.queue.find r.key).map (·.deliveryState) = some .delivered ↔
      r.deliveryState = .delivered ∨
        (¬ AlreadyAcked w cmd ∧ InReach w cmd (ackTime cmd x.now) r) := by
  unfold Config.acknowledgeDelivery at hcall
  split at hcall
  · cases (Prod.mk.inj (some.inj hcall)).1
  -- the clock is the first statement; the rest runs with the time it gave
  have hsat : alone.SatE (exec cfg)
      (fun _ result w' => Acked cmd w (ackTime cmd x.now) result w') (fun _ _ _ => True)
      (guarded (perform (.lockAck (cfg.stripe cmd.messageId cmd.recipientDeviceId)))
        (perform (.unlockAck (cfg.stripe cmd.messageId cmd.recipientDeviceId)))
        (cfg.ackLocked cmd (ackTime cmd x.now))) [] w := by
    refine satE_guarded (solo_satE_perform ?_)
    rintro x₁ _ w₁ hlock -
    have hw₁ : w₁.tables = w.tables := by
      simp only [exec] at hlock
      split at hlock
      · cases hlock
      cases hlock
      rfl
    refine Sat.mono ?_ (ackLocked_acked hw₁)
    intro past result w₂ _ hresult
    cases result with
    | error what => exact solo_satE_perform fun _ _ _ _ _ => trivial
    | ok result =>
      have hacked := hresult w₂ rfl trivial
      refine solo_satE_perform ?_
      rintro x₂ _ w₃ hunlock -
      cases hunlock
      exact hacked
  have hacked := Prog.eval_of_sat hsat (fun _ _ => trivial) hcall
  rcases hacked resp rfl with ⟨halready, hqueue⟩ | ⟨hfresh, hreached⟩
  · rw [hqueue, Keyed.mem_rows_iff.mp hr]
    simp [halready]
  rw [hreached r hr hdevice hmessage]
  simp [hfresh]

/-! ## An acknowledgement in the next month -/

def decemberRow : QueueRow where
  deviceId := "d"
  deliveryBucket := "202512"
  acceptedAt := 1767225599000
  messageId := ⟨1⟩
  deliveryState := .delivering
  attemptCount := 0
  content := some
    { conversationId := ⟨7⟩, messageSequence := 1, messagePriority := .normal
      envelope :=
        { ciphertextBlob := [1], ephemeralPublicKey := [], iv := [], authTag := []
          algorithm := .xChaCha20Poly1305, protocolVersion := 1, oneTimePrekeyId := none } }

def decemberWorld : World where
  tables :=
    { Tables.empty with
      queue := Keyed.empty.write decemberRow
      states := Keyed.empty.write
        { messageId := ⟨1⟩, recipientDeviceId := "d", recipientUserId := "u"
          deliveryState := .queued } }

def decemberAck : DeliveryAckCommand where
  messageId := ⟨1⟩
  recipientDeviceId := "d"
  callerUserId := "u"
  callerDeviceId := "d"
  deliveredAt := 0
  conversationId := none

def plainConfig : Config where
  stripeOf := fun _ => 0

def atOnce (now : TimePoint) (n : Nat) : List Env := List.replicate n { now := now }

def decemberRun (now : TimePoint) :
    Option (Except String (ServiceResult DeliveryAckResponse) × World) :=
  (plainConfig.acknowledgeDelivery decemberAck).run.eval (exec plainConfig)
    (atOnce now 20) decemberWorld

def succeeded : Option (Except String (ServiceResult DeliveryAckResponse) × World) → Bool
  | some (.ok (.ok _), _) => true
  | _ => false

theorem succeeded_iff {r : Option (Except String (ServiceResult DeliveryAckResponse) × World)}
    (h : succeeded r = true) : ∃ resp w', r = some (.ok (.ok resp), w') := by
  unfold succeeded at h
  split at h
  · exact ⟨_, _, rfl⟩
  · exact nomatch h

/-- One second later it is January: the call succeeds, and the record still counts as being
delivered. -/
theorem ack_misses_record :
    succeeded (decemberRun 1767225601000) = true ∧ decemberRow ∈ decemberWorld.tables.queue.rows ∧
      decemberRow.deviceId = decemberAck.recipientDeviceId ∧
      decemberRow.messageId = decemberAck.messageId ∧
      ((decemberRun 1767225601000).bind fun r => (r.2.tables.queue.find decemberRow.key).map
        (·.deliveryState)) = some .delivering := by
  decide

/-- The same acknowledgement in the old year marks the record. -/
theorem ack_in_december :
    ∃ resp w', decemberRun 1767225599500 = some (.ok (.ok resp), w') ∧
      (w'.tables.queue.find decemberRow.key).map (·.deliveryState) = some .delivered := by
  obtain ⟨resp, w', hrun⟩ :=
    succeeded_iff (show succeeded (decemberRun 1767225599500) = true by decide)
  refine ⟨resp, w', hrun, (delivered_after_ack_iff plainConfig decemberAck { now := 1767225599500 }
    (atOnce 1767225599500 19) decemberWorld w' resp decemberRow hrun (by decide) rfl rfl).mpr
      (.inr ⟨?_, _, rfl, by decide⟩)⟩
  rintro ⟨s, hs, harrived⟩
  cases hs
  exact absurd harrived (by decide)

end SecureCloud.Messaging.Delivery
