import SecureCloud.Messaging.Delivery.Terminality

/-
# Messaging.Delivery.Preservation — what the delivery engine never loses

The engine overwrites states and counts attempts, and `Terminality` says what can go wrong with those. The
content it was given is safe: no statement removes a record or a row of the fan-out, changes an envelope or
a recipient, or unsets a time that was recorded.
-/

namespace SecureCloud.Messaging.Delivery

open Lib Lib.Program Lib.Table Lib.Interleaving Statement Option

/-- The row of the fan-out stays with its user, and a time that was recorded stays recorded. -/
def Retains (s s' : RecipientDeliveryState) : Prop :=
  s'.recipientUserId = s.recipientUserId ∧ (s.deliveredAt.isSome → s'.deliveredAt.isSome) ∧
    (s.readAt.isSome → s'.readAt.isSome)

/-- Nothing stored is lost: neither a record of a queue with the envelope it has, nor a row of the
fan-out. -/
structure World.Preserves (w w' : World) : Prop where
  queue : ∀ key row, w.tables.queue.find key = some row →
    ∃ row', w'.tables.queue.find key = some row' ∧ row'.content = row.content
  states : ∀ key s, w.tables.states.find key = some s →
    ∃ s', w'.tables.states.find key = some s' ∧ Retains s s'

theorem Retains.refl (s : RecipientDeliveryState) : Retains s s := ⟨rfl, id, id⟩

theorem World.Preserves.refl (w : World) : w.Preserves w :=
  ⟨fun _ row h => ⟨row, h, rfl⟩, fun _ s h => ⟨s, h, .refl s⟩⟩

theorem World.Preserves.trans {w w' w'' : World} (h : w.Preserves w') (h' : w'.Preserves w'') :
    w.Preserves w'' := by
  refine ⟨fun key row hrow => ?_, fun key s hs => ?_⟩
  · obtain ⟨row', hrow', hcontent⟩ := h.queue key row hrow
    obtain ⟨row'', hrow'', hcontent'⟩ := h'.queue key row' hrow'
    exact ⟨row'', hrow'', hcontent'.trans hcontent⟩
  · obtain ⟨s', hs', huser, hdelivered, hread⟩ := h.states key s hs
    obtain ⟨s'', hs'', huser', hdelivered', hread'⟩ := h'.states key s' hs'
    exact ⟨s'', hs'', huser'.trans huser, hdelivered' ∘ hdelivered, hread' ∘ hread⟩

theorem Tables.updateState_retains {t : Tables} {message : MessageId} {device : DeviceId}
    {set : RecipientDeliveryState → RecipientDeliveryState} (hset : ∀ s, Retains s (set s))
    {key : MessageId × DeviceId} {s : RecipientDeliveryState} (hs : t.states.find key = some s) :
    ∃ s', (t.updateState message device set).states.find key = some s' ∧ Retains s s' := by
  rw [find_updateState]
  split
  · subst key
    refine ⟨_, rfl, ?_⟩
    rw [updatedState, hs]
    exact hset s
  · exact ⟨s, hs, .refl s⟩

theorem Statement.exec_preserves {cfg : Config} {l : Statement} {x : Env} {w w' : World} {r : l.Resp}
    (h : l.exec cfg x w = some (r, w')) : w.Preserves w' := by
  refine ⟨fun key row hrow => ?_, fun key s hs => ?_⟩
  · rcases exec_queue h key with hsame | ⟨state, attempts, next, -, hwritten⟩
    · exact ⟨row, hsame.trans hrow, rfl⟩
    · exact ⟨_, hwritten, by simp [Tables.updatedRow, hrow]⟩
  by_cases hl : l.leavesQueue = true
  · exact ⟨s, by rw [(exec_leavesQueue hl h).2, hs], .refl s⟩
  cases l with
  | updateStatus => rcases writing_snd h with rfl | rfl <;> exact ⟨s, hs, .refl s⟩
  | recordDeliveryAck | recordReadAck =>
    rcases writing_snd h with rfl | rfl
    · exact Tables.updateState_retains (fun _ => by simp [Retains]) hs
    · exact ⟨s, hs, .refl s⟩
  | _ => exact absurd rfl hl

namespace Consumer

variable {ι : Type} [DecidableEq ι]

/-- **The engine loses nothing**, from any state of any calls, however they interleave and whichever of
their statements fail or time out. -/
theorem preserves_along_run (c : Consumer) (d e : Engine ι) (ms : List (ι × Env))
    (hrun : run (Call.advance (exec c.config)) d ms = some e) : d.shared.Preserves e.shared := by
  refine run_related World.Preserves.refl World.Preserves.trans ?_ hrun
  intro i call x w call' w' hstep
  obtain ⟨l, k, r, -, hexec, -⟩ := Call.advance_eq_some hstep
  exact exec_preserves hexec

/-- A dispatch and its acknowledgement at the turn of the year. -/
theorem preserves_december_record : ∃ e, run (Call.advance (exec decemberConsumer.config))
      (decemberConsumer.start decemberJobs decemberQueued) (decemberMoves true 8) = some e ∧
    decemberQueued.Preserves e.shared := by
  obtain ⟨e, -, he, -⟩ := exists_of_decemberState
    (show decemberState (decemberMoves true 8) = some .delivered by decide)
  exact ⟨e, he, preserves_along_run decemberConsumer _ e _ he⟩

end Consumer

end SecureCloud.Messaging.Delivery
