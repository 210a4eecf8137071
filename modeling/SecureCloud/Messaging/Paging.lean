import SecureCloud.Lib.Paging
import SecureCloud.Messaging.Submission
import SecureCloud.Messaging.Sync

/-
# Messaging.Paging — following `next_sequence` through one bucket

The paging loop of a client: call `sync_messages`, and while `has_more` is set call again with
`since_sequence = next_sequence - 1`. Within one bucket this is the window reader of `Lib.Paging`: it gets
everything up to the ceiling if and only if no gap in the persisted sequences is as wide as the window.
-/

namespace SecureCloud.Messaging

open Lib Sample Paging Store

/-! ## The rows of a bucket in clustering order -/

def Store.rows (s : Store) (conv : ConversationId) (bucket : MessageBucket) : List MessageEntity :=
  (s.partition conv bucket).insertionSort clusteringLe

def Store.DistinctSequences (s : Store) (conv : ConversationId) (bucket : MessageBucket) : Prop :=
  ((s.partition conv bucket).map (·.messageSequence)).Nodup

variable {s : Store} {conv : ConversationId} {bucket : MessageBucket} {c c' : Counters}
  {now : TimePoint} {ceiling : Nat}

theorem mem_rows {m : MessageEntity} : m ∈ s.rows conv bucket ↔ m ∈ s.partition conv bucket :=
  List.mem_insertionSort _

instance : Std.Total clusteringLe where
  total a b := by
    rcases Nat.lt_trichotomy a.messageSequence b.messageSequence with h | h | h
    · exact .inl (.inl h)
    · rcases Nat.le_total a.messageId.bits b.messageId.bits with hid | hid
      · exact .inl (.inr ⟨h, hid⟩)
      · exact .inr (.inr ⟨h.symm, hid⟩)
    · exact .inr (.inl h)

instance : IsTrans MessageEntity clusteringLe where
  trans a b c := by
    rintro (hab | ⟨hab, hid⟩) (hbc | ⟨hbc, hid'⟩)
    · exact .inl (Nat.lt_trans hab hbc)
    · exact .inl (hbc ▸ hab)
    · exact .inl (hab ▸ hbc)
    · exact .inr ⟨hab.trans hbc, Nat.le_trans hid hid'⟩

theorem ascending_insertionSort {l : List MessageEntity} (h : (l.map (·.messageSequence)).Nodup) :
    Paging.Ascending (·.messageSequence) (l.insertionSort clusteringLe) := by
  have hsorted : (l.insertionSort clusteringLe).Pairwise clusteringLe :=
    List.pairwise_insertionSort clusteringLe l
  have hdistinct : (l.insertionSort clusteringLe).Pairwise
      fun a b => a.messageSequence ≠ b.messageSequence := by
    have hperm : ((l.insertionSort clusteringLe).map (·.messageSequence)).Nodup :=
      ((List.perm_insertionSort clusteringLe l).map _).nodup_iff.mpr h
    exact List.pairwise_map.mp hperm
  refine (hsorted.and hdistinct).imp ?_
  rintro a b ⟨hle, hne⟩
  rcases hle with hlt | ⟨heq, -⟩
  · exact hlt
  · exact absurd heq hne

theorem rows_ascending (h : s.DistinctSequences conv bucket) :
    Paging.Ascending (·.messageSequence) (s.rows conv bucket) :=
  ascending_insertionSort h

theorem listMessagesBySequenceRange_eq_window (h : s.DistinctSequences conv bucket) (since : Nat)
    (batch : Nat) :
    s.listMessagesBySequenceRange conv bucket (since + 1) (since + batch + 1) (batch + 1) =
      window (·.messageSequence) (s.rows conv bucket) batch since := by
  have hfilter : (((s.partition conv bucket).filter fun m =>
      since + 1 ≤ m.messageSequence ∧ m.messageSequence ≤ since + batch + 1).map
        (·.messageSequence)).Nodup := h.sublist (List.filter_sublist.map _)
  have hperm : ((s.partition conv bucket).filter fun m =>
        since + 1 ≤ m.messageSequence ∧ m.messageSequence ≤ since + batch + 1).insertionSort
          clusteringLe |>.Perm
      (window (·.messageSequence) (s.rows conv bucket) batch since) := by
    refine (List.perm_insertionSort _ _).trans ?_
    unfold window rows
    exact ((List.perm_insertionSort clusteringLe _).filter _).symm
  have heq := Paging.Ascending.eq_of_perm (ascending_insertionSort hfilter)
    ((rows_ascending h).filter _) hperm
  unfold listMessagesBySequenceRange
  rw [heq]
  exact List.take_of_length_le (length_window_le (rows_ascending h))

/-! ## One page of `sync_messages` -/

/-- The conversation lives in one bucket as seen at `now`: the current one, the previous being empty; or
the previous one, with nothing allocated or stored this month. -/
def OneBucket (s : Store) (c : Counters) (conv : ConversationId) (now : TimePoint)
    (bucket : MessageBucket) : Prop :=
  ∃ current previous, MessageBucket.fromTimePoint now = some current ∧
    current.previousBucket = some previous ∧
    ((bucket = current ∧ s.partition conv previous = []) ∨
      (bucket = previous ∧ s.partition conv current = [] ∧ (c (conv, current)).getD 0 = 0))

theorem listMessagesBySequenceRange_of_empty (h : s.partition conv bucket = []) (a b : Nat)
    (limit : Nat) : s.listMessagesBySequenceRange conv bucket a b limit = [] := by
  simp [listMessagesBySequenceRange, h]

theorem fetchWindow_eq_window
    {current previous : MessageBucket} (hd : s.DistinctSequences conv bucket)
    (h : (bucket = current ∧ s.partition conv previous = []) ∨
      (bucket = previous ∧ s.partition conv current = [] ∧ (c (conv, current)).getD 0 = 0))
    (since : Nat) (batch : Nat) :
    s.fetchWindow conv previous current since batch =
      window (·.messageSequence) (s.rows conv bucket) batch since := by
  unfold fetchWindow
  rcases h with ⟨rfl, hempty⟩ | ⟨rfl, hempty, -⟩
  · simp only [listMessagesBySequenceRange_of_empty hempty, List.length_nil, Nat.zero_le, if_true,
      List.nil_append, List.getLast?_nil, Nat.sub_zero]
    exact listMessagesBySequenceRange_eq_window hd since batch
  · simp only [listMessagesBySequenceRange_of_empty hempty, List.append_nil, ite_self]
    exact listMessagesBySequenceRange_eq_window hd since batch

theorem pageOf_window (rows : List MessageEntity) (since ceiling : Nat) (batch : Nat) :
    pageOf (window (·.messageSequence) rows batch since) since ceiling batch =
      { messages := page (·.messageSequence) rows batch since
        hasMore := more (·.messageSequence) rows batch ceiling since
        nextSequence := cursor (·.messageSequence) rows batch since + 1 } := by
  have hmessages : (if decide (batch < (window (·.messageSequence) rows batch
      since).length) = true then (window (·.messageSequence) rows batch since).dropLast
      else window (·.messageSequence) rows batch since) =
      page (·.messageSequence) rows batch since := by
    simp [page]
  simp only [pageOf, hmessages, more, cursor]
  generalize (page (·.messageSequence) rows batch since).getLast? = last
  cases last <;> rfl

section
variable (h : s.sequenceCeiling c conv now = some (ceiling, c'))

include h

open Counters

theorem sequenceCeiling_eq_some :
    ∃ current, MessageBucket.fromTimePoint now = some current ∧
      s.ceilingFrom (c.load s conv current) conv current = some ceiling ∧
      c' = Function.update c (conv, current) (some (c.load s conv current)) := by
  simp only [sequenceCeiling, peekSequence, Option.bind_eq_some_iff,
    Option.map_eq_some_iff] at h
  obtain ⟨current, hcur, n, hn, heq⟩ := h
  cases heq
  exact ⟨current, hcur, hn, rfl⟩

theorem sequenceCeiling_again :
    s.sequenceCeiling c' conv now = some (ceiling, c') := by
  obtain ⟨current, hcur, hfrom, hc'⟩ := sequenceCeiling_eq_some h
  have hload : c'.load s conv current = c.load s conv current := by
    simp [load, hc']
  simp only [sequenceCeiling, hcur, Option.bind_some, peekSequence, hload, hfrom,
    Option.map_some]
  rw [hc', Function.update_idem]

end

/-- One call within one bucket, authorized and well-formed. -/
theorem syncMessages_oneBucket (deliveryRepo : Bool)
    (cmd : SyncDeviceMessagesCommand) {since : Nat} (hdev : cmd.deviceId ≠ "")
    (hconv : cmd.conversationId = some conv) (hnil : conv.isNil = false)
    (hbucket : OneBucket s c conv now bucket) (hd : s.DistinctSequences conv bucket)
    (hceil : s.sequenceCeiling c conv now = some (ceiling, c'))
    (hsince : effectiveSince cmd (s.getCursor cmd.deviceId conv now) = since) :
    ∃ r, s.syncMessages c deliveryRepo none cmd now = some (r, c') ∧
      (ceiling ≤ since → r.messages = [] ∧ r.hasMore = false ∧
        (r.status = .success → r.nextSequence = since + 1)) ∧
      (since < ceiling → r.status = .success ∧
        r.messages = page (·.messageSequence) (s.rows conv bucket)
          (clampSyncBatchSize cmd.maxMessages) since ∧
        r.hasMore = more (·.messageSequence) (s.rows conv bucket)
          (clampSyncBatchSize cmd.maxMessages) ceiling since ∧
        r.nextSequence = cursor (·.messageSequence) (s.rows conv bucket)
          (clampSyncBatchSize cmd.maxMessages) since + 1) := by
  obtain ⟨current, previous, hcur, hprev, hcase⟩ := hbucket
  have hsync : ∀ r, s.syncPage deliveryRepo cmd conv (s.getCursor cmd.deviceId conv now) since
      ceiling now = some r → s.syncMessages c deliveryRepo none cmd now = some (r, c') := by
    intro r hr
    simp [syncMessages, hdev, hconv, hnil, hceil, hsince, hr]
  refine Exists.imp (fun r => And.imp_left (hsync r)) ?_
  by_cases hlt : since < ceiling
  · unfold syncPage
    rw [if_neg (by omega), if_neg (by omega)]
    simp only [hcur, hprev, Option.bind_eq_bind, Option.bind_some,
      fetchWindow_eq_window hd hcase, pageOf_window]
    exact ⟨_, rfl, fun hle => absurd hlt (Nat.not_lt.mpr hle), fun _ => ⟨rfl, rfl, rfl, rfl⟩⟩
  by_cases hout : ceiling < since ∧ 0 < ceiling
  · exact ⟨_, if_pos hout, fun _ => ⟨rfl, rfl, nofun⟩, fun h => absurd h hlt⟩
  have hstop : ceiling ≤ since ∨ ceiling = 0 := .inl (Nat.not_lt.mp hlt)
  refine ⟨_, (if_neg hout).trans (if_pos hstop), fun _ => ⟨rfl, rfl, fun _ => rfl⟩, ?_⟩
  exact fun h => absurd h hlt

theorem OneBucket.again (h : OneBucket s c conv now bucket)
    (hceil : s.sequenceCeiling c conv now = some (ceiling, c')) :
    OneBucket s c' conv now bucket := by
  obtain ⟨current, previous, hcur, hprev, hcase⟩ := h
  refine ⟨current, previous, hcur, hprev, hcase.imp id ?_⟩
  rintro ⟨hbucket, hempty, hcounter⟩
  obtain ⟨current', hcur', -, hc'⟩ := sequenceCeiling_eq_some hceil
  obtain rfl : current = current' := Option.some.inj (hcur.symm.trans hcur')
  refine ⟨hbucket, hempty, ?_⟩
  have hlast : s.getLastSequence conv current = 0 := by simp [getLastSequence, hempty]
  rw [hc', Function.update_self, Option.getD_some, Counters.load, hlast]
  exact hcounter

/-! ## The client's loop -/

/-- Follow `next_sequence` from page to page while `has_more` is set. `none`: an exception, or the
fuel ran out. -/
def Store.followPages (s : Store) (deliveryRepo : Bool) (now : TimePoint) :
    Nat → Counters → SyncDeviceMessagesCommand → Option (List SyncMessagesResult)
  | 0, _, _ => none
  | fuel + 1, c, cmd =>
    (s.syncMessages c deliveryRepo none cmd now).bind fun (r, c') =>
      if r.hasMore then
        (s.followPages deliveryRepo now fuel c'
          { cmd with sinceSequence := r.nextSequence - 1 }).map (r :: ·)
      else some [r]

/-- What the pages should give: every row after `start` up to the ceiling, once and ascending; and "no
more" only when none is left. -/
structure PagesComplete (s : Store) (conv : ConversationId) (bucket : MessageBucket)
    (start ceiling : Nat) (results : List SyncMessagesResult) : Prop where
  ascending : Paging.Ascending (·.messageSequence) (results.flatMap (·.messages))
  stored : ∀ m ∈ results.flatMap (·.messages),
    m ∈ s.partition conv bucket ∧ start < m.messageSequence
  complete : ∀ m ∈ s.partition conv bucket, start < m.messageSequence →
    m.messageSequence ≤ ceiling → m ∈ results.flatMap (·.messages)
  honest : ∀ before r after, results = before ++ r :: after → r.hasMore = false →
    ∀ m ∈ s.partition conv bucket, start < m.messageSequence → m.messageSequence ≤ ceiling →
      m ∈ (before ++ [r]).flatMap (·.messages)

theorem followPages_stops {deliveryRepo : Bool} {fuel : Nat} {cmd : SyncDeviceMessagesCommand}
    {results before after : List SyncMessagesResult}
    {r : SyncMessagesResult} (h : s.followPages deliveryRepo now fuel c cmd = some results)
    (hsplit : results = before ++ r :: after) (hr : r.hasMore = false) : after = [] := by
  induction fuel generalizing c cmd results before with
  | zero => cases h
  | succ fuel ih =>
    simp only [followPages, Option.bind_eq_some_iff] at h
    obtain ⟨⟨r₀, c'⟩, -, h⟩ := h
    simp only at h
    split at h
    next hmore =>
      obtain ⟨rest, hrest, rfl⟩ := Option.map_eq_some_iff.mp h
      rcases before with _ | ⟨b, before⟩
      · obtain ⟨rfl, -⟩ := List.cons.inj hsplit
        rw [hmore] at hr
        cases hr
      · exact ih hrest (List.cons.inj hsplit).2
    cases h
    rcases before with _ | ⟨b, before⟩
    · exact (List.cons.inj hsplit).2.symm
    · exact absurd (List.cons.inj hsplit).2 (by simp)

/-- The loop is the window reader of the bucket, and it ends. -/
theorem followPages_eq_follow (deliveryRepo : Bool) {fuel start : Nat}
    {cmd : SyncDeviceMessagesCommand} (hdev : cmd.deviceId ≠ "")
    (hconv : cmd.conversationId = some conv) (hnil : conv.isNil = false)
    (hbucket : OneBucket s c conv now bucket) (hd : s.DistinctSequences conv bucket)
    (hceil : s.sequenceCeiling c conv now = some (ceiling, c'))
    (hstart : effectiveSince cmd (s.getCursor cmd.deviceId conv now) = start)
    (hfuel : 0 < fuel) (hceiling : ceiling < fuel + start) :
    ∃ results, s.followPages deliveryRepo now fuel c cmd = some results ∧
      results.flatMap (·.messages) = follow (·.messageSequence) (s.rows conv bucket)
        (clampSyncBatchSize cmd.maxMessages) ceiling fuel start := by
  induction fuel generalizing c cmd start with
  | zero => omega
  | succ fuel ih =>
    obtain ⟨r, hr, hbeyond, hwithin⟩ :=
      syncMessages_oneBucket deliveryRepo cmd hdev hconv hnil hbucket hd hceil hstart
    simp only [followPages, hr, Option.bind_some]
    rw [follow]
    by_cases hstop : ceiling ≤ start
    · obtain ⟨hmessages, hmore, -⟩ := hbeyond hstop
      refine ⟨[r], by simp [hmore], ?_⟩
      simp [hmessages, hstop]
    obtain ⟨-, hmessages, hmore, hnext⟩ := hwithin (by omega)
    rw [if_neg hstop, ← hmessages, ← hmore]
    by_cases hgo : r.hasMore = true
    · -- the next call asks from the last sequence of this page, which is not `0`
      have hprogress := lt_cursor_of_more (clampSyncBatchSize_pos _) (hmore ▸ hgo)
      obtain ⟨rest, hrest, hfollow⟩ := @ih c' (r.nextSequence - 1)
        { cmd with sinceSequence := r.nextSequence - 1 } hdev hconv
        (hbucket.again hceil) (sequenceCeiling_again hceil) (if_pos (by simp only; omega))
        (by omega) (by omega)
      refine ⟨r :: rest, by rw [if_pos hgo, hrest]; rfl, ?_⟩
      rw [List.flatMap_cons, hfollow, if_pos hgo, hnext]
      rfl
    · exact ⟨[r], by rw [if_neg hgo], by simp [hgo]⟩

/-- **Following the pages gives everything if and only if no gap is as wide as the window.** The
sequences are any distinct ones; the start is any, `0` meaning the cursor; any batch size is clamped; the
loop always ends. -/
theorem followPages_complete_iff_noGap (s : Store) (deliveryRepo : Bool) (c c' : Counters)
    (cmd : SyncDeviceMessagesCommand) (conv : ConversationId) (now : TimePoint)
    (bucket : MessageBucket) (ceiling fuel : Nat) (hdev : cmd.deviceId ≠ "")
    (hconv : cmd.conversationId = some conv) (hnil : conv.isNil = false)
    (hbucket : OneBucket s c conv now bucket) (hd : s.DistinctSequences conv bucket)
    (hceil : s.sequenceCeiling c conv now = some (ceiling, c')) (hfuel : ceiling < fuel) :
    ∃ results, s.followPages deliveryRepo now fuel c cmd = some results ∧
      (PagesComplete s conv bucket (effectiveSince cmd (s.getCursor cmd.deviceId conv now)) ceiling
          results ↔ Paging.NoGap (·.messageSequence) (s.partition conv bucket)
          (clampSyncBatchSize cmd.maxMessages) ceiling
          (effectiveSince cmd (s.getCursor cmd.deviceId conv now))) := by
  obtain ⟨start, hstart⟩ : ∃ n, effectiveSince cmd (s.getCursor cmd.deviceId conv now) = n :=
    ⟨_, rfl⟩
  obtain ⟨results, hresults, hfollow⟩ := followPages_eq_follow deliveryRepo hdev hconv hnil hbucket hd
    hceil hstart (Nat.zero_lt_of_lt hfuel) (by omega : ceiling < fuel + start)
  have hrows := rows_ascending hd
  have hiff := forall_mem_follow_iff hrows (clampSyncBatchSize_pos cmd.maxMessages)
    (show ceiling < fuel + start by omega)
  have hgap : Paging.NoGap (·.messageSequence) (s.rows conv bucket)
      (clampSyncBatchSize cmd.maxMessages) ceiling start ↔
      Paging.NoGap (·.messageSequence) (s.partition conv bucket)
        (clampSyncBatchSize cmd.maxMessages) ceiling start := by
    simp only [Paging.NoGap, mem_rows]
  rw [← hfollow] at hiff
  simp only [mem_rows] at hiff
  refine ⟨results, hresults, ?_⟩
  rw [hstart, ← hgap, ← hiff]
  constructor
  · intro h
    exact h.complete
  intro hall
  obtain ⟨hasc, hmem⟩ := follow_ascending hrows
    (clampSyncBatchSize cmd.maxMessages) ceiling fuel start
  rw [← hfollow] at hasc hmem
  refine ⟨hasc, fun m hm => ⟨mem_rows.mp (hmem m hm).1, (hmem m hm).2⟩, hall, ?_⟩
  intro before r after hsplit hr m hm hlt hle
  -- the page is the last one, so the pages up to it are all the pages
  obtain rfl := followPages_stops hresults hsplit hr
  rw [← hsplit]
  exact hall m hm hlt hle

namespace Sample

def januaryBucket : MessageBucket := ⟨2026, 1, by decide, by decide⟩

def row (n : Nat) : MessageEntity where
  conversationId := ⟨7⟩
  messageBucket := januaryBucket
  messageSequence := n
  messageId := ⟨n⟩
  senderUserId := user
  senderDeviceId := "phone"
  priority := .normal
  acceptedAt := january
  ciphertext := [10]
  envelopeVersion := 1

def sparse (sequences : List Nat) : Store := { empty with messages := sequences.map row }

def twoAPage : SyncDeviceMessagesCommand where
  deviceId := "laptop"
  conversationId := some ⟨7⟩
  sinceSequence := 0
  maxMessages := 2

theorem sparse_oneBucket (sequences : List Nat) :
    OneBucket (sparse sequences) (fun _ => none) ⟨7⟩ january januaryBucket := by
  refine ⟨januaryBucket, ⟨2025, 12, by decide, by decide⟩, by decide, by decide, .inl ⟨rfl, ?_⟩⟩
  simp only [partition, sparse, List.filter_eq_nil_iff, List.mem_map]
  rintro m ⟨n, -, rfl⟩
  simp [row, januaryBucket]

end Sample

/-- With sequences `1, 2, 4` (the save of `3` failed) the pages give everything. -/
theorem followPages_complete_small_gap :
    ∃ results, (sparse [1, 2, 4]).followPages true january 5 (fun _ => none)
        twoAPage = some results ∧
      PagesComplete (sparse [1, 2, 4]) ⟨7⟩ januaryBucket 0 4 results := by
  obtain ⟨results, hresults, hiff⟩ := followPages_complete_iff_noGap (sparse [1, 2, 4]) true
    (fun _ => none) _ twoAPage ⟨7⟩ january januaryBucket 4 5 (by decide) rfl
    (by decide) (sparse_oneBucket _) (by unfold Store.DistinctSequences; decide) (by rfl)
    (by decide)
  refine ⟨results, hresults, hiff.mpr ?_⟩
  have hrows : (sparse [1, 2, 4]).partition ⟨7⟩ januaryBucket = [row 1, row 2, row 4] := by decide
  rw [hrows]
  intro n hn hleft
  have hcase : n = 0 ∨ n = 1 ∨ n = 2 ∨ n = 4 := by
    rcases hn with hn | ⟨r, hr, hrn, -⟩
    · exact .inl hn
    simp only [List.mem_cons, List.not_mem_nil, or_false] at hr
    rcases hr with rfl | rfl | rfl <;> simp [← hrn, row]
  rcases hcase with rfl | rfl | rfl | rfl
  · exact ⟨row 1, by decide⟩
  · exact ⟨row 2, by decide⟩
  · exact ⟨row 4, by decide⟩
  obtain ⟨r, -, hlt, hle⟩ := hleft
  exact absurd hle (Nat.not_le.mpr hlt)

/-- **With sequences `1, 5` (three saves failed) and two messages a page, the second page is empty,
says there is no more, and message `5` is never returned.** -/
theorem followPages_misses_behind_gap :
    ∃ results, (sparse [1, 5]).followPages true january 6 (fun _ => none) twoAPage = some results ∧
      results.map (fun r => (r.messages.map (·.messageSequence), r.hasMore, r.latestSequence)) =
        [([1], true, 5), ([], false, 5)] ∧
      ¬ PagesComplete (sparse [1, 5]) ⟨7⟩ januaryBucket 0 5 results := by
  refine exists_of_any _ (by decide) fun results _ hval => ⟨hval, fun h => ?_⟩
  obtain ⟨r, hr, hm⟩ := List.mem_flatMap.mp (h.complete (row 5) (by decide) (by decide) (by decide))
  have hin : (r.messages.map (·.messageSequence), r.hasMore, r.latestSequence) ∈
      [([1], true, 5), ([], false, 5)] := hval ▸ List.mem_map_of_mem hr
  have hseq : 5 ∈ r.messages.map (·.messageSequence) := List.mem_map.mpr ⟨row 5, hm, rfl⟩
  rcases List.mem_cons.mp hin with heq | hin
  · rw [(Prod.mk.inj heq).1] at hseq
    exact absurd hseq (by decide)
  rw [(Prod.mk.inj (List.mem_singleton.mp hin)).1] at hseq
  exact absurd hseq (by decide)

end SecureCloud.Messaging
