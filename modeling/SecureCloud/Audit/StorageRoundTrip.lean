import SecureCloud.Audit.Serializer
import SecureCloud.Audit.Validation

/-
# Audit.StorageRoundTrip — which events survive being stored

An event is written as a row and read back as `AuditEvent.stored`. What can be lost is what the two
sides disagree about:

* the METADATA column is cut at every comma, and a decoded value never holds one
  (`comma_not_mem_of_mem_parseMetadata`);
* a missing `received_at` is written as `occurred_at`, an empty `causation_id` as a missing one;
* milliseconds just before a second before 1970 (`LostMillis`).

`storage_round_trip_iff` says that nothing else is lost.
-/

namespace SecureCloud.Audit

open Lib Metadata List Option

/-! ## The same event -/

/-- The same `unordered_map`: the same value at every key. -/
def Metadata.Same (m n : Metadata) : Prop := ∀ key, m.find key = n.find key

structure AuditEvent.Same (a b : AuditEvent) : Prop where
  eventId : a.eventId = b.eventId
  occurredAt : a.occurredAt = b.occurredAt
  receivedAt : a.receivedAt = b.receivedAt
  eventType : a.eventType = b.eventType
  severity : a.severity = b.severity
  producerService : a.producerService = b.producerService
  producerInstance : a.producerInstance = b.producerInstance
  actorType : a.actorType = b.actorType
  actorId : a.actorId = b.actorId
  targetType : a.targetType = b.targetType
  targetId : a.targetId = b.targetId
  correlationId : a.correlationId = b.correlationId
  causationId : a.causationId = b.causationId
  metadata : a.metadata.Same b.metadata

def AuditEvent.truncated (event : AuditEvent) : AuditEvent :=
  { event with
    occurredAt := event.occurredAt.truncated
    receivedAt := event.receivedAt.map TimePoint.truncated }

/-! ## Metadata without commas -/

theorem stripQuotes_quoted (text : List Char) : stripQuotes ('\'' :: (text ++ ['\''])) = text := by
  rw [stripQuotes, unwrapped_append, getD_some]

theorem not_mem_of_isMetadataKeyChar {key : List Char} (h : ∀ c ∈ key, isMetadataKeyChar c = true) :
    ':' ∉ escapeTabSeparated key ∧ ',' ∉ escapeTabSeparated key := by
  constructor
  all_goals
    intro hmem
    rcases mem_escapeTabSeparated hmem with ⟨hkey, -⟩ | hesc
    · exact absurd (h _ hkey) (by decide)
    · simp at hesc

variable {key : String} {entry : String × String} {entries : List (String × String)} {m : Metadata}

/-- An entry is read back: its first colon is the one after its key. -/
theorem parseMetadataPair_formatMetadataEntry (h : ':' ∉ escapeTabSeparated entry.1.toList) :
    parseMetadataPair (formatMetadataEntry entry) = some entry := by
  have hsplit : formatMetadataEntry entry =
      ('\'' :: (escapeTabSeparated entry.1.toList ++ ['\''])) ++ ':' ::
        ('\'' :: (escapeTabSeparated entry.2.toList ++ ['\''])) := by
    simp [formatMetadataEntry]
  have hkey : ∀ c ∈ '\'' :: (escapeTabSeparated entry.1.toList ++ ['\'']), (decide (c ≠ ':')) = true := by
    intro c hc
    have hne : c ≠ ':' := by
      rintro rfl
      simp [h] at hc
    simpa using hne
  rw [parseMetadataPair, hsplit, dropWhile_append_of_pos hkey, takeWhile_append_of_pos hkey,
    dropWhile_cons_of_neg (by simp), takeWhile_cons_of_neg (by simp), append_nil]
  simp only [stripQuotes_quoted, unescapeTabSeparated_escapeTabSeparated, String.ofList_toList]

theorem assignEntries_of_not_mem (h : key ∉ entries.map Prod.fst) (value : String) :
    assignEntries entries key value = entries ++ [(key, value)] := by
  induction entries with
  | nil => rfl
  | cons entry entries ih =>
    rw [map_cons, mem_cons, not_or] at h
    rw [assignEntries, if_neg (Ne.symm h.1), ih h.2, cons_append]

theorem foldl_assignPair
    (hread : ∀ entry ∈ entries, parseMetadataPair (formatMetadataEntry entry) = some entry)
    (m : Metadata) (hnodup : ((m.entries ++ entries).map Prod.fst).Nodup) :
    ((entries.map formatMetadataEntry).foldl assignPair m).entries = m.entries ++ entries := by
  induction entries generalizing m with
  | nil => simp
  | cons entry entries ih =>
    have hfresh : entry.1 ∉ m.entries.map Prod.fst := by
      rw [map_append, map_cons, nodup_append] at hnodup
      exact fun hmem => hnodup.2.2 _ hmem _ mem_cons_self rfl
    have hassign : (assignPair m (formatMetadataEntry entry)).entries = m.entries ++ [entry] := by
      rw [assignPair, hread entry mem_cons_self]
      exact assignEntries_of_not_mem hfresh entry.2
    rw [map_cons, foldl_cons,
      ih (fun e he => hread e (mem_cons_of_mem _ he)) _ (by rw [hassign]; simpa using hnodup),
      hassign, append_assoc, singleton_append]

theorem parseMetadata_formatMetadataMap (m : Metadata) : parseMetadata (formatMetadataMap m) =
      (Getline.getlines ',' (Getline.separated ',' (m.entries.map formatMetadataEntry))).foldl
        assignPair .empty := by
  rw [parseMetadata, formatMetadataMap, unwrapped_append]

open Getline

theorem parseMetadata_of_no_comma
    (hkeys : ∀ entry ∈ m.entries, ∀ c ∈ entry.1.toList, isMetadataKeyChar c = true)
    (hvalues : ∀ entry ∈ m.entries, ',' ∉ entry.2.toList) :
    (parseMetadata (formatMetadataMap m)).entries = m.entries := by
  have hpieces : ∀ piece ∈ m.entries.map formatMetadataEntry, ',' ∉ piece := by
    intro piece hpiece hmem
    obtain ⟨entry, hentry, rfl⟩ := mem_map.mp hpiece
    have hkey := (not_mem_of_isMetadataKeyChar (hkeys entry hentry)).2
    have hvalue : ',' ∉ escapeTabSeparated entry.2.toList := by
      intro h
      rcases mem_escapeTabSeparated h with ⟨h, -⟩ | h
      · exact hvalues entry hentry h
      · simp at h
    simp_all [formatMetadataEntry]
  have hlast : ∀ piece ∈ (m.entries.map formatMetadataEntry).getLast?, piece ≠ [] := by
    intro piece hpiece
    obtain ⟨entry, -, rfl⟩ := mem_map.mp (mem_of_getLast? hpiece)
    exact cons_ne_nil _ _
  rw [parseMetadata_formatMetadataMap, getlines_separated hpieces hlast,
    foldl_assignPair _ _ (by simpa [empty] using m.nodup)]
  · rfl
  intro entry hentry
  exact parseMetadataPair_formatMetadataEntry (not_mem_of_isMetadataKeyChar (hkeys entry hentry)).1

/-! ## Metadata with commas -/

def Metadata.CommaFree (m : Metadata) : Prop := ∀ entry ∈ m.entries, ',' ∉ entry.2.toList

theorem mem_assignEntries {value : String} (h : entry ∈ assignEntries entries key value) :
    entry = (key, value) ∨ entry ∈ entries := by
  induction entries with
  | nil => exact .inl (mem_singleton.mp h)
  | cons first entries ih =>
    rw [assignEntries] at h
    split at h
    · rcases mem_cons.mp h with h | h
      · exact .inl h
      · exact .inr (mem_cons_of_mem _ h)
    rcases mem_cons.mp h with h | h
    · exact .inr (h ▸ mem_cons_self)
    · exact (ih h).imp_right (mem_cons_of_mem _)

theorem mem_of_mem_stripQuotes {text : List Char} {c : Char} (h : c ∈ stripQuotes text) : c ∈ text := by
  unfold stripQuotes unwrapped at h
  split at h
  · exact mem_of_mem_tail ((dropLast_sublist _).subset h)
  · exact h

theorem comma_not_mem_of_parseMetadataPair {piece : List Char} (h : ',' ∉ piece)
    (hentry : parseMetadataPair piece = some entry) :
    ',' ∉ entry.2.toList := by
  unfold parseMetadataPair at hentry
  split at hentry
  · cases hentry
  rename_i colon v hdrop
  cases hentry
  rw [String.toList_ofList]
  intro hmem
  rcases mem_of_mem_unescapeTabSeparated hmem with hmem | hmem
  · have hv : ',' ∈ v := mem_of_mem_stripQuotes hmem
    refine h ((dropWhile_sublist (· ≠ ':')).subset ?_)
    rw [hdrop]
    exact mem_cons_of_mem _ hv
  · simp at hmem

theorem comma_not_mem_of_mem_parseMetadata (column : List Char) : (parseMetadata column).CommaFree := by
  unfold parseMetadata
  split
  · exact nofun
  rename_i text _
  have hpieces : ∀ piece ∈ getlines ',' text, ',' ∉ piece :=
    fun piece hpiece => not_mem_of_mem_getlines hpiece
  -- the property holds of the empty map, and every piece keeps it
  suffices h : ∀ m : Metadata, m.CommaFree →
      ((getlines ',' text).foldl assignPair m).CommaFree from
    h .empty nofun
  generalize getlines ',' text = pieces at hpieces
  induction pieces with
  | nil => exact fun m hm => hm
  | cons piece pieces ih =>
    intro m hm
    refine ih (fun p hp => hpieces p (mem_cons_of_mem _ hp)) _ ?_
    unfold assignPair
    split
    · exact hm
    rename_i k v hpair
    intro entry hentry
    rcases mem_assignEntries hentry with rfl | hentry
    · exact comma_not_mem_of_parseMetadataPair (hpieces piece mem_cons_self) hpair
    · exact hm entry hentry

/-! ## Metadata as a map -/

theorem Metadata.find_eq_some {value : String} :
    m.find key = some value ↔ (key, value) ∈ m.entries := by
  obtain ⟨entries, hnodup⟩ := m
  unfold find
  show entries.lookup key = some value ↔ (key, value) ∈ entries
  induction entries with
  | nil => simp
  | cons entry entries ih =>
    obtain ⟨k, v⟩ := entry
    rw [map_cons, nodup_cons] at hnodup
    rw [lookup_cons, mem_cons]
    by_cases hk : key = k
    · subst hk
      -- a second entry of the key would repeat it
      have hrest : (key, value) ∉ entries := fun h =>
        hnodup.1 (mem_map.mpr ⟨(key, value), h, rfl⟩)
      simp [hrest, eq_comm]
    have hbeq : (key == k) = false := by simpa using hk
    simp only [hbeq, Prod.mk.injEq, hk, false_and, false_or]
    exact ih hnodup.2

/-- The metadata comes back exactly if no value has a comma. -/
theorem parseMetadata_same_iff
    (hkeys : ∀ entry ∈ m.entries, ∀ c ∈ entry.1.toList, isMetadataKeyChar c = true) :
    (parseMetadata (formatMetadataMap m)).Same m ↔ m.CommaFree := by
  constructor
  · intro hsame entry hentry
    have hfind : m.find entry.1 = some entry.2 := find_eq_some.mpr hentry
    rw [← hsame entry.1] at hfind
    exact comma_not_mem_of_mem_parseMetadata _ _ (find_eq_some.mp hfind)
  · intro hfree key
    rw [find, find, parseMetadata_of_no_comma hkeys hfree]

/-! ## Events -/

/-- What survives: a time of receipt, no empty `causation_id`, no comma in a metadata value, no lost
milliseconds. -/
structure Restorable (event : AuditEvent) : Prop where
  receivedAt : event.receivedAt ≠ none
  causationId : event.causationId ≠ some ""
  metadata : event.metadata.CommaFree
  occurredMillis : ¬LostMillis (TimePoint.subMillis event.occurredAt)
  receivedMillis : ∀ t ∈ event.receivedAt, ¬LostMillis (TimePoint.subMillis t)

/-- One event: its row gives it back if and only if it is `Restorable`. -/
theorem stored_same_truncated_iff {event : AuditEvent} (hv7 : event.eventId.IsV7)
    (hkeys : ∀ entry ∈ event.metadata.entries, ∀ c ∈ entry.1.toList, isMetadataKeyChar c = true) :
    event.stored.Same event.truncated ↔ Restorable event := by
  have hmeta := parseMetadata_same_iff hkeys
  have htime := parseTimestampMs_eq_truncated_iff
  constructor
  · intro hsame
    have hreceived : some (parseTimestampMs (formatTimestampMs
        (event.receivedAt.getD event.occurredAt))) = event.receivedAt.map TimePoint.truncated :=
      hsame.receivedAt
    refine ⟨?_, ?_, hmeta.mp hsame.metadata, (htime _).mp hsame.occurredAt, ?_⟩
    · intro hnone
      rw [hnone] at hreceived
      cases hreceived
    · intro hempty
      have hcausation : (if event.causationId = some "" then none else event.causationId) =
        event.causationId := hsame.causationId
      rw [if_pos hempty, hempty] at hcausation
      cases hcausation
    · intro t ht
      rw [mem_def.mp ht] at hreceived
      exact (htime t).mp (some.inj hreceived)
  intro h
  obtain ⟨t, ht⟩ := ne_none_iff_exists'.mp h.receivedAt
  refine
    { eventId := ?_
      occurredAt := (htime _).mpr h.occurredMillis
      receivedAt := ?_
      eventType := rfl
      severity := rfl
      producerService := rfl
      producerInstance := rfl
      actorType := rfl
      actorId := rfl
      targetType := rfl
      targetId := rfl
      correlationId := rfl
      causationId := if_neg h.causationId
      metadata := hmeta.mpr h.metadata }
  · show (EventId.fromString event.eventId.toString).getD .nil = event.eventId
    rw [EventId.fromString_toString hv7, getD_some]
  show some (parseTimestampMs (formatTimestampMs (event.receivedAt.getD event.occurredAt))) =
    event.receivedAt.map TimePoint.truncated
  rw [ht, getD_some, (htime t).mpr (h.receivedMillis t ht), map_some]

/-- **Which events survive being stored.** Decoding the inserted rows gives back the accepted events, with
times cut to milliseconds, if and only if each is `Restorable`. -/
theorem storage_round_trip_iff {layout : StringLayout} {limits : AuditEventValidationLimits}
    {events : List AuditEvent} (haccepted : ∀ event ∈ events, Accepted layout limits event) :
    List.Forall₂ AuditEvent.Same (deserializeFromQuery (serializeForInsert events))
        (events.map AuditEvent.truncated) ↔ ∀ event ∈ events, Restorable event := by
  rw [deserializeFromQuery_serializeForInsert, forall₂_map_left_iff, forall₂_map_right_iff,
    forall₂_same]
  refine forall₂_congr fun event hevent => ?_
  have h := haccepted event hevent
  exact stored_same_truncated_iff h.isV7 fun entry hentry => h.metadataKey hentry

/-! ## Two events -/

/-- The id `0192ef8c-d580-7000-8000-000000000001`, made at 2024-11-03T01:03:57.312Z. -/
def sampleEventId : EventId where
  bytes := [0x01, 0x92, 0xef, 0x8c, 0xd5, 0x80, 0x70, 0x00, 0x80, 0x00, 0x00, 0x00, 0x00, 0x00,
    0x00, 0x01]
  length_eq := rfl

def sampleEvent (value : String) : AuditEvent where
  eventId := sampleEventId
  occurredAt := 1730595837312000000
  receivedAt := some 1730595837400000000
  eventType := "auth.login.success"
  producerService := .auth
  producerInstance := "auth-1"
  actorType := .user
  actorId := "alice"
  correlationId := "c-1"
  metadata := ⟨[("agent", value)], by simp⟩

/-- A list of languages does not survive: of the value `fr,en` the row gives back an opening quote
and what stood before the comma. -/
theorem metadata_value_cut_at_comma : Accepted .inPlace {} (sampleEvent "fr,en") ∧
      (deserializeFromQuery (serializeForInsert [sampleEvent "fr,en"])).map
        (fun event => event.metadata.find "agent") = [some "'fr"] ∧
      ¬List.Forall₂ AuditEvent.Same (deserializeFromQuery (serializeForInsert [sampleEvent "fr,en"]))
        ([sampleEvent "fr,en"].map AuditEvent.truncated) := by
  have hfind : (sampleEvent "fr,en").stored.metadata.find "agent" = some "'fr" := by decide +kernel
  rw [deserializeFromQuery_serializeForInsert]
  refine ⟨⟨1730595838000000000, by decide +kernel⟩, congrArg (· :: []) hfind, ?_⟩
  intro hsame
  have hkept := (forall₂_cons.mp hsame).1.metadata "agent"
  rw [hfind] at hkept
  simp [AuditEvent.truncated, sampleEvent, find] at hkept

/-- An event with quotes, colons and backslashes in its metadata survives. -/
theorem event_without_comma_survives : List.Forall₂ AuditEvent.Same
      (deserializeFromQuery (serializeForInsert [sampleEvent "a:'b'\\c"]))
      ([sampleEvent "a:'b'\\c"].map AuditEvent.truncated) := by
  have haccepted : Accepted .inPlace {} (sampleEvent "a:'b'\\c") :=
    ⟨1730595838000000000, by decide +kernel⟩
  refine (storage_round_trip_iff fun event hevent => mem_singleton.mp hevent ▸ haccepted).mpr ?_
  intro event hevent
  rw [mem_singleton.mp hevent]
  refine ⟨by decide, by decide, by simp [Metadata.CommaFree, sampleEvent], by decide, ?_⟩
  intro t ht
  rw [← some.inj ht]
  decide

end SecureCloud.Audit
