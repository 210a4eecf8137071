import SecureCloud.Messaging.Delivery.Tables

/-
# Messaging.Delivery.Outbox — `fetch_pending_events` reads history first

The query of `fetch_pending_events` has no condition on `publish_status`: its `LIMIT` counts PUBLISHED
events too, and the pending ones are picked out of what came back. A bucket that begins with `limit`
published events yields nothing, for ever. The theorem says exactly when the call returns the first
pending events of the bucket.
-/

namespace SecureCloud.Messaging.Delivery

open List

namespace Tables

def pendingEvents (t : Tables) (bucket : String) : List OutboxEventRecord :=
  (t.outboxRows bucket).filter (·.publishStatus = .pending)

theorem collectPending_eq {limit : Nat} {pending : List OutboxEventRecord}
    (hroom : pending.length < limit) (rows : List OutboxEventRecord) :
    collectPending limit pending rows =
      pending ++ (rows.filter (·.publishStatus = .pending)).take (limit - pending.length) := by
  induction rows generalizing pending with
  | nil => simp [collectPending]
  | cons e rows ih =>
    unfold collectPending
    by_cases he : e.publishStatus = .pending
    · rw [if_pos he, filter_cons_of_pos (by simpa using he)]
      have hlen : (pending ++ [e]).length = pending.length + 1 := by simp
      by_cases hfull : limit ≤ (pending ++ [e]).length
      · -- the last free place
        obtain h1 : limit - pending.length = 1 := by omega
        rw [if_pos hfull, h1]
        simp
      rw [if_neg hfull, ih (by omega), hlen, append_assoc,
        show limit - pending.length = (limit - (pending.length + 1)) + 1 by omega]
      rfl
    · rw [if_neg he, ih hroom, filter_cons_of_neg (by simpa using he)]

/-- Filtering a beginning of the list gives the beginning of the filtered list exactly when nothing
that passes the filter comes later, or the whole beginning passes and fills the count. -/
theorem filter_take_eq_iff {α : Type} (p : α → Bool) (rows : List α) {n limit : Nat}
    (hle : n ≤ limit) :
    (rows.take n).filter p = (rows.filter p).take limit ↔
      (∀ e ∈ rows.drop n, p e = false) ∨ (n = limit ∧ ∀ e ∈ rows.take n, p e = true) := by
  have hsplit : rows.filter p = (rows.take n).filter p ++ (rows.drop n).filter p := by
    rw [← filter_append, take_append_drop]
  have hshort : ((rows.take n).filter p).length ≤ n :=
    (length_filter_le p _).trans (length_take_le n rows)
  have htake : (rows.filter p).take limit = (rows.take n).filter p ++
      ((rows.drop n).filter p).take (limit - ((rows.take n).filter p).length) := by
    rw [hsplit, take_append, take_of_length_le (hshort.trans hle)]
  rw [htake]
  constructor
  · intro h
    have hnil := self_eq_append_right.mp h
    rcases take_eq_nil_iff.mp hnil with hfull | hnone
    · -- no room is left: the first `n` rows all pass
      right
      have hlen : ((rows.take n).filter p).length = (rows.take n).length := by
        have := length_take_le n rows
        have := length_filter_le p (rows.take n)
        omega
      refine ⟨by omega, fun e he => ?_⟩
      exact length_filter_eq_length_iff.mp hlen e he
    · left
      intro e he
      simpa using filter_eq_nil_iff.mp hnone e he
  rintro (hnone | ⟨rfl, hall⟩)
  · have hempty : (rows.drop n).filter p = [] :=
      filter_eq_nil_iff.mpr fun e he => by simp [hnone e he]
    simp [hempty]
  have hkept : (rows.take n).filter p = rows.take n := filter_eq_self.mpr hall
  rw [hkept]
  by_cases hlong : n ≤ rows.length
  · simp [hlong]
  · simp [drop_of_length_le (not_le.mp hlong).le]

/-- **When `fetch_pending_events` returns the first pending events**: the server accepts the limit (2³¹
or more reaches it as another number), and no pending event comes after the first `limit` rows of the
bucket, or these are all pending. -/
theorem fetchPendingEvents_eq_iff (t : Tables) (bucket : String) (limit : Nat) :
    t.fetchPendingEvents bucket limit = some ((t.pendingEvents bucket).take limit) ↔
      0 < int32Of limit ∧
        ((∀ e ∈ (t.outboxRows bucket).drop (int32Of limit).toNat, e.publishStatus ≠ .pending) ∨
          ((int32Of limit).toNat = limit ∧
            ∀ e ∈ (t.outboxRows bucket).take (int32Of limit).toNat, e.publishStatus = .pending)) := by
  unfold fetchPendingEvents limited
  by_cases hpos : 0 < int32Of limit
  · have hle := int32Of_toNat_le limit
    have hexact := filter_take_eq_iff (fun e : OutboxEventRecord => e.publishStatus = .pending)
      (t.outboxRows bucket) hle
    have hshort : (((t.outboxRows bucket).take (int32Of limit).toNat).filter
        fun e => decide (e.publishStatus = .pending)).length ≤ limit :=
      ((length_filter_le _ _).trans (length_take_le _ _)).trans hle
    rw [if_pos hpos, Option.map_some, collectPending_eq (by simp only [length_nil]; omega),
      nil_append, length_nil, Nat.sub_zero, take_of_length_le hshort, Option.some.injEq]
    simp only [decide_eq_true_eq, decide_eq_false_iff_not] at hexact
    rw [pendingEvents, hexact]
    exact (and_iff_right hpos).symm
  · simp [hpos]

/-! ## History in front of the queue -/

def publishedFirst : Tables :=
  let published : OutboxEventRecord :=
    { outboxBucket := "2026010100", createdAt := 1, eventId := "a", conversationId := ⟨1⟩
      eventType := "MessageSent", payloadJson := "", publishedAt := some 2
      publishStatus := .published }
  let pending : OutboxEventRecord :=
    { outboxBucket := "2026010100", createdAt := 2, eventId := "b", conversationId := ⟨1⟩
      eventType := "MessageSent", payloadJson := "" }
  (empty.enqueueEvent published).enqueueEvent pending

/-- With limit one, the pending event is not returned. -/
theorem fetch_starved : publishedFirst.fetchPendingEvents "2026010100" 1 = some [] ∧
      ((publishedFirst.pendingEvents "2026010100").take 1).map (·.eventId) = ["b"] := by
  decide

end Tables

end SecureCloud.Messaging.Delivery
