import SecureCloud.Audit.Query
import SecureCloud.Audit.StorageRoundTrip

/-
# Audit.EventLookup — finding an event by its id

`get_event_by_id` looks for the id only among rows whose `occurred_at` lies within TEN MINUTES of the
time the id was made. Rows are keyed by the time an event REPORTS, which may be three years old while
the id is of today. `lookup_finds_event_iff` says exactly when the lookup finds the event.
-/

namespace SecureCloud.Audit

open Lib List

/-! ## The lookup -/

/-- `find_by_event_id`: the first event of an answer of at most one MiB. -/
def findByEventId (fault : Option ClickHouseException) (table : List AuditEvent)
    (eventId : EventId) : Except ClickHouseException (Option AuditEvent) :=
  ((executeParameterizedQuery fault 1048576 ((buildGetByIdQuery eventId).evaluate table)).map
    deserializeFromQuery).map List.head?

/-- `get_event_by_id`. The caller is authorized for an EMPTY filter. -/
def getEventById (leaseAcquired : Bool) (fault : Option ClickHouseException)
    (table : List AuditEvent) (caller : PeerIdentity) (eventIdStr : List Char) :
    Except QueryFailure (Option AuditEvent) :=
  if !caller.isAuthenticated then .error (.status ⟨.unauthenticated, "Unauthenticated"⟩)
  else match EventId.fromString eventIdStr with
    | none => .error (.status ⟨.invalidArgument, "Invalid EventId UUIDv7 format"⟩)
    | some eventId =>
      match authorizeQuery caller {} with
      | .error status => .error (.status status)
      | .ok () =>
        if !leaseAcquired then
          .error (.status ⟨.resourceExhausted,
            "ResourceExhausted: Query execution bulkhead saturated"⟩)
        else match findByEventId fault table eventId with
          | .error exception => .error (.thrown exception)
          | .ok event => .ok event

/-! ## The window -/

/-- The row lies within ten minutes of the time its id was made; times before 1970 do not count. -/
def WithinSkew (event : AuditEvent) : Prop :=
  max 0 ((event.eventId.timestampMs : Int) - 600000) ≤ TimePoint.millis event.occurredAt ∧
    TimePoint.millis event.occurredAt ≤ (event.eventId.timestampMs : Int) + 600000

instance (event : AuditEvent) : Decidable (WithinSkew event) := inferInstanceAs (Decidable (_ ∧ _))

theorem conditions_buildGetByIdQuery (eventId : EventId) (row : AuditEvent) :
    (buildGetByIdQuery eventId).conditions.all (·.holds row) = true ↔
      row.eventId = eventId ∧ WithinSkew row := by
  have hskew : skewWindowMs = 600000 := rfl
  simp only [buildGetByIdQuery, all_cons, all_nil, Condition.holds, Bool.and_true,
    Bool.and_eq_true, decide_eq_true_eq, WithinSkew]
  constructor
  · rintro ⟨hfrom, hto, rfl⟩
    refine ⟨rfl, ?_, by omega⟩
    split at hfrom <;> omega
  rintro ⟨rfl, hfrom, hto⟩
  refine ⟨?_, by omega, rfl⟩
  split <;> omega

variable (table : List AuditEvent)

def selected (eventId : EventId) : List AuditEvent :=
  matching (buildGetByIdQuery eventId).conditions table

theorem mem_selected {table : List AuditEvent} {eventId : EventId} {row : AuditEvent} :
    row ∈ selected table eventId ↔ row ∈ table ∧ row.eventId = eventId ∧ WithinSkew row := by
  rw [selected, matching, mem_filter, conditions_buildGetByIdQuery]

theorem evaluate_buildGetByIdQuery (eventId : EventId) :
    (buildGetByIdQuery eventId).evaluate table = (selected table eventId).take 1 := rfl

/-! ## An accepted event fits the answer -/

theorem length_escapeTabSeparated_le (input : List Char) :
    (escapeTabSeparated input).length ≤ 2 * input.length := by
  induction input with
  | nil => exact Nat.le_refl 0
  | cons c input ih =>
    have hchar : (escapeChar c).length ≤ 2 := by
      unfold escapeChar
      split_ifs <;> simp
    show (escapeChar c ++ escapeTabSeparated input).length ≤ _
    rw [length_append, length_cons]
    omega

theorem length_nullable_le (text : String) : (nullable text).length ≤ 2 * text.length + 2 := by
  unfold nullable
  split
  · simp
  have h := length_escapeTabSeparated_le text.toList
  rw [String.length_toList] at h
  omega

theorem length_formatTimestampMs_le (t : TimePoint) : (formatTimestampMs t).length ≤ 24 := by
  have hdate : (putTime (gmtime (TimePoint.toTimeT t)) timestampFormat).length = 19 := by
    simp [timestampFormat, putTime, TimeField.width]
  have hmillis : (formatMillis (TimePoint.subMillis t)).length ≤ 4 := by
    unfold formatMillis
    split_ifs <;> simp
  rw [formatTimestampMs, length_append, hdate, length_cons]
  omega

open EventId

theorem length_toString_eventId (id : EventId) : id.toString.length = 36 := by
  have hdigits : (id.bytes.flatMap hexByte).length = 32 := by
    rw [length_flatMap_hexByte, id.length_eq]
  simp only [EventId.toString, EventId.grouped, length_append, length_cons,
    length_take, length_drop, hdigits]
  rfl

theorem length_separated_le (d : Char) (pieces : List (List Char)) :
    (Getline.separated d pieces).length ≤ (pieces.map fun piece => piece.length + 1).sum := by
  induction pieces with
  | nil => exact Nat.le_refl 0
  | cons piece pieces ih =>
    rw [map_cons, sum_cons]
    cases pieces with
    | nil =>
      show piece.length ≤ _
      omega
    | cons next pieces =>
      show (piece ++ d :: Getline.separated d (next :: pieces)).length ≤ _
      rw [length_append, length_cons]
      omega

variable {layout : StringLayout} {event : AuditEvent}

theorem length_formatMetadataMap_le
    (h : Accepted layout {} event) : (formatMetadataMap event.metadata).length ≤ 109102 := by
  have hentry : ∀ piece ∈ event.metadata.entries.map formatMetadataEntry, piece.length ≤ 2181 := by
    intro piece hpiece
    obtain ⟨entry, hentry, rfl⟩ := mem_map.mp hpiece
    obtain ⟨-, hkey, hvalue⟩ := h.metadataEntry hentry
    have hkey' := length_escapeTabSeparated_le entry.1.toList
    have hvalue' := length_escapeTabSeparated_le entry.2.toList
    rw [String.length_toList] at hkey' hvalue'
    have hkeyLimit : entry.1.length ≤ 64 := hkey
    have hvalueLimit : entry.2.length ≤ 1024 := hvalue
    simp only [formatMetadataEntry, length_cons, length_append, length_nil]
    omega
  have hcount : event.metadata.entries.length ≤ 50 := h.lengths.2.2.2.2.2.2
  have hpieces := length_separated_le ',' (event.metadata.entries.map formatMetadataEntry)
  have hsum : ((event.metadata.entries.map formatMetadataEntry).map fun piece => piece.length + 1).sum ≤
      event.metadata.entries.length * 2182 := by
    have hle := sum_le_card_nsmul
      ((event.metadata.entries.map formatMetadataEntry).map fun piece => piece.length + 1) 2182 (by
        intro n hn
        obtain ⟨piece, hpiece, rfl⟩ := mem_map.mp hn
        have := hentry piece hpiece
        omega)
    simpa using hle
  rw [formatMetadataMap, length_cons, length_append, length_singleton]
  omega

/-- Every accepted event fits an answer of one MiB. -/
theorem length_serializeRow_lt
    (h : Accepted layout {} event) : (serializeRow event).length < 1048576 := by
  have hlengths : event.eventType.length ≤ 64 ∧ event.producerInstance.length ≤ 64 ∧
      event.actorId.length ≤ 128 ∧ event.targetId.length ≤ 128 ∧ event.correlationId.length ≤ 64 ∧
      (event.causationId.getD "").length ≤ 64 ∧ event.metadata.entries.length ≤ 50 := h.lengths
  have hmeta := length_formatMetadataMap_le h
  have htext : ∀ text : String, (escapeTabSeparated text.toList).length ≤ 2 * text.length := by
    intro text
    have hescaped := length_escapeTabSeparated_le text.toList
    rwa [String.length_toList] at hescaped
  have hseverity : event.severity.toString.toList.length ≤ 12 := by
    cases event.severity <;> simp [Severity.toString]
  have hproducer : event.producerService.toString.toList.length ≤ 12 := by
    cases event.producerService <;> simp [ProducerService.toString]
  have hactorType : event.actorType.toString.toList.length ≤ 12 := by
    cases event.actorType <;> simp [ActorType.toString]
  have htargetType : event.targetType.toString.toList.length ≤ 12 := by
    cases event.targetType <;> simp [TargetType.toString]
  have hid := length_toString_eventId event.eventId
  have hoccurred := length_formatTimestampMs_le event.occurredAt
  have hreceived := length_formatTimestampMs_le (event.receivedAt.getD event.occurredAt)
  have h₁ := htext event.eventType
  have h₂ := htext event.producerInstance
  have h₃ := htext event.actorId
  have h₄ := htext event.targetId
  have h₅ := length_nullable_le event.correlationId
  have h₆ := length_nullable_le (event.causationId.getD "")
  have hrow := length_separated_le '\t' (columns event)
  simp only [columns, map_cons, map_nil, sum_cons, sum_nil] at hrow
  rw [serializeRow, columns]
  omega

/-! ## Finding an event -/

/-- The lookup finds the event: the store selects its row, and the answer is the event read back from
it. -/
def Finds (event : AuditEvent) : Prop :=
  (buildGetByIdQuery event.eventId).evaluate table = [event] ∧
    getEventById true none table auditPeer event.eventId.toString = .ok (some event.stored)

theorem getEventById_auditPeer {table rows : List AuditEvent} {eventId : EventId} (hv7 : eventId.IsV7)
    (hselected : (buildGetByIdQuery eventId).evaluate table = rows)
    (hfits : (serializeForInsert rows).length ≤ 1048576) :
    getEventById true none table auditPeer eventId.toString = .ok (rows.map AuditEvent.stored).head? := by
  have hfound : findByEventId none table eventId = .ok (rows.map AuditEvent.stored).head? := by
    rw [findByEventId, hselected, executeParameterizedQuery_ok hfits]
    rfl
  simp only [getEventById, fromString_toString hv7, authorizeQuery_auditPeer, hfound]
  rfl

/-- The store selects the row of the event, and the answer is the event read back from it. -/
theorem finds_of_unique {table : List AuditEvent} (haccepted : Accepted layout {} event)
    (hstored : event ∈ table) (hskew : WithinSkew event)
    (hunique : ∀ other ∈ table, other.eventId = event.eventId → WithinSkew other → other = event) :
    Finds table event := by
  have hall : ∀ row ∈ selected table event.eventId, row = event := by
    intro row hrow
    obtain ⟨hrow, hid, hrowSkew⟩ := mem_selected.mp hrow
    exact hunique row hrow hid hrowSkew
  have hmem : event ∈ selected table event.eventId := mem_selected.mpr ⟨hstored, rfl, hskew⟩
  have hanswer : (buildGetByIdQuery event.eventId).evaluate table = [event] := by
    rw [evaluate_buildGetByIdQuery]
    cases hrows : selected table event.eventId with
    | nil => exact absurd hmem (by simp [hrows])
    | cons row rows =>
      rw [hall row (by simp [hrows])]
      rfl
  refine ⟨hanswer, getEventById_auditPeer haccepted.isV7 hanswer ?_⟩
  have hfits := length_serializeRow_lt haccepted
  simp only [serializeForInsert, flatMap_cons, flatMap_nil, length_append, length_cons, length_nil]
  omega

/-- **When the lookup finds an event** of the table that was accepted, in whatever order the rows are read:
if and only if its row, and no different row of its id, lies within ten minutes of its id. -/
theorem lookup_finds_event_iff {layout : StringLayout} {table : List AuditEvent}
    {event : AuditEvent} (haccepted : Accepted layout {} event) (hstored : event ∈ table) :
    (∀ scan : List AuditEvent, scan.Perm table → Finds scan event) ↔ WithinSkew event ∧
        ∀ other ∈ table, other.eventId = event.eventId → WithinSkew other → other = event := by
  constructor
  · intro hfinds
    have hmem : event ∈ selected table event.eventId := by
      have hanswer := (hfinds table (List.Perm.refl table)).1
      rw [evaluate_buildGetByIdQuery] at hanswer
      exact mem_of_mem_take (hanswer ▸ mem_singleton_self event)
    refine ⟨(mem_selected.mp hmem).2.2, fun other hother hid hskew => ?_⟩
    -- a store that reads the other row first answers with it
    have hperm : (other :: table.erase other).Perm table := (perm_cons_erase hother).symm
    have hanswer := (hfinds _ hperm).1
    have hfirst : (selected (other :: table.erase other) event.eventId).take 1 = [other] := by
      have hmeets := (conditions_buildGetByIdQuery event.eventId other).mpr ⟨hid, hskew⟩
      rw [selected, matching, filter_cons, if_pos hmeets]
      rfl
    rw [evaluate_buildGetByIdQuery, hfirst] at hanswer
    exact head_eq_of_cons_eq hanswer
  rintro ⟨hskew, hunique⟩ scan hscan
  exact finds_of_unique haccepted (hscan.mem_iff.mpr hstored) hskew fun other hother =>
    hunique other (hscan.mem_iff.mp hother)

/-! ## Two lookups -/

def lateEvent : AuditEvent := { sampleEvent "cli" with occurredAt := 1730592237312000000 }

/-- The late event is accepted and stored, and a lookup by its id finds nothing. -/
theorem late_event_not_found : Accepted .inPlace {} lateEvent ∧
      getEventById true none [lateEvent] auditPeer lateEvent.eventId.toString = .ok none := by
  refine ⟨⟨1730595838000000000, by decide +kernel⟩, ?_⟩
  decide +kernel

/-- An event reported at once is accepted and found. -/
theorem prompt_event_found : Accepted .inPlace {} (sampleEvent "cli") ∧
      ∀ scan : List AuditEvent, scan.Perm [sampleEvent "cli"] →
        Finds scan (sampleEvent "cli") := by
  have haccepted : Accepted .inPlace {} (sampleEvent "cli") :=
    ⟨1730595838000000000, by decide +kernel⟩
  refine ⟨haccepted,
    (lookup_finds_event_iff haccepted (mem_singleton_self _)).mpr ⟨?_, ?_⟩⟩
  · decide +kernel
  · exact fun other hother _ _ => mem_singleton.mp hother

/-! ## Who may look up what -/

/-- The rows `build_filter_query` selects: in the window, with a listed value unless the list is
empty, with the identity when type and id are given. -/
def AuditQueryFilter.selects (filter : AuditQueryFilter) (row : AuditEvent) : Prop :=
  filter.startOccurredAt.elim 0 TimePoint.millis ≤ TimePoint.millis row.occurredAt ∧
    TimePoint.millis row.occurredAt < filter.endOccurredAt.elim 0 TimePoint.millis ∧
    (filter.producerServices ≠ [] → row.producerService ∈ filter.producerServices) ∧
    (filter.eventTypes ≠ [] → row.eventType ∈ filter.eventTypes) ∧
    (filter.severities ≠ [] → row.severity ∈ filter.severities) ∧
    (∀ type ∈ filter.actorType, ∀ id ∈ filter.actorId, row.actorType = type ∧ row.actorId = id) ∧
    (∀ type ∈ filter.targetType, ∀ id ∈ filter.targetId, row.targetType = type ∧ row.targetId = id) ∧
    ∀ id ∈ filter.correlationId, row.correlationId = id

/-- The event is visible to the caller: a filter that the caller may run matches it. -/
def Visible (caller : PeerIdentity) (event : AuditEvent) : Prop :=
  ∃ filter, authorizeQuery caller filter = .ok () ∧ filter.selects event

/-- A filter can end after the event: it is not in the last millisecond of the clock. -/
def Selectable (event : AuditEvent) : Prop := TimePoint.millis event.occurredAt < 9223372036854

instance (event : AuditEvent) : Decidable (Selectable event) := inferInstanceAs (Decidable (_ < _))

/-- The caller is a producer, other than the audit service, and the event is its own. -/
def Produced (caller : PeerIdentity) (event : AuditEvent) : Prop :=
  caller ≠ auditPeer ∧ caller.isAuthenticated = true ∧
    producerServiceFromCn caller.commonName = some event.producerService

def filterAt (event : AuditEvent) (producerServices : List ProducerService) : AuditQueryFilter where
  startOccurredAt := some event.occurredAt
  endOccurredAt := some (Int64.ofInt ((TimePoint.millis event.occurredAt + 1) * 1000000))
  producerServices

variable {caller : PeerIdentity} {filter : AuditQueryFilter}

/-- Who may run a filter: the audit service any, a producer one for its own events. -/
theorem authorizeQuery_scope (h : authorizeQuery caller filter = .ok ()) : caller = auditPeer ∨
    caller.isAuthenticated = true ∧ ∃ service, producerServiceFromCn caller.commonName = some service ∧
      filter.producerServices ≠ [] ∧ ∀ p ∈ filter.producerServices, p = service := by
  obtain ⟨name, authenticated⟩ := caller
  unfold authorizeQuery at h
  split at h
  · cases h
  case isFalse hauth =>
  have hpeer : authenticated = true := by simpa using hauth
  split at h
  case isTrue haudit =>
    obtain rfl : name = "audit.securecloud.internal" := haudit
    exact .inl (congrArg _ hpeer)
  split at h
  case isTrue hgateway =>
    split at h
    case isTrue hown => exact .inr ⟨hpeer, .gateway, congrArg _ hgateway, by simp [hown], by simp [hown]⟩
    case isFalse => cases h
  split at h
  case h_2 => cases h
  case h_1 service hservice =>
  split_ifs at h with hscoped hempty hall
  exact .inr ⟨hpeer, service, hservice, hempty, by simpa using hall⟩

theorem authorizeQuery_own (hcaller : caller ≠ auditPeer) (hauth : caller.isAuthenticated = true)
    {service : ProducerService} (hservice : producerServiceFromCn caller.commonName = some service)
    (hfilter : filter.producerServices = [service]) : authorizeQuery caller filter = .ok () := by
  obtain ⟨name, authenticated⟩ := caller
  obtain rfl : authenticated = true := hauth
  unfold producerServiceFromCn at hservice
  split at hservice <;> cases hservice <;> first | exact absurd rfl hcaller | simp_all [authorizeQuery,
    producerServiceFromCn]

theorem millis_mem (t : TimePoint) : -9223372036854 ≤ TimePoint.millis t ∧ TimePoint.millis t ≤ 9223372036854 :=
  ⟨Int.tdiv_le_tdiv (by decide) (Int64.le_toInt t), Int.tdiv_le_tdiv (by decide) (Int64.toInt_le t)⟩

theorem filterAt_selects {services : List ProducerService} (hlast : Selectable event)
    (hmem : services ≠ [] → event.producerService ∈ services) : (filterAt event services).selects event := by
  refine ⟨le_rfl, ?_, hmem, by simp [filterAt], by simp [filterAt], by simp [filterAt],
    by simp [filterAt], by simp [filterAt]⟩
  show _ < TimePoint.millis (Int64.ofInt ((TimePoint.millis event.occurredAt + 1) * 1000000))
  have hlow := (millis_mem event.occurredAt).1
  unfold Selectable at hlast
  generalize TimePoint.millis event.occurredAt = ms at *
  rw [TimePoint.millis, Int64.toInt_ofInt_of_le (by omega) (by omega), Int.mul_tdiv_cancel _ (by decide)]
  omega

theorem visible_iff :
    Visible caller event ↔ Selectable event ∧ (caller = auditPeer ∨ Produced caller event) := by
  constructor
  · rintro ⟨filter, hauthorized, hselects⟩
    refine ⟨?_, ?_⟩
    · refine hselects.2.1.trans_le ?_
      cases filter.endOccurredAt with
      | none => decide
      | some t => exact (millis_mem t).2
    by_cases haudit : caller = auditPeer
    · exact .inl haudit
    rcases authorizeQuery_scope hauthorized with hcaller | ⟨hauth, service, hservice, hne, hall⟩
    · exact .inl hcaller
    · rw [← hall _ (hselects.2.2.1 hne)] at hservice
      exact .inr ⟨haudit, hauth, hservice⟩
  · rintro ⟨hlast, rfl | ⟨hcaller, hauth, hservice⟩⟩
    · exact ⟨filterAt event [], rfl, filterAt_selects hlast (absurd rfl)⟩
    · exact ⟨filterAt event [event.producerService], authorizeQuery_own hcaller hauth hservice rfl,
        filterAt_selects hlast fun _ => mem_singleton_self _⟩

/-- The lookup is for the audit service alone. -/
theorem getEventById_ok {eventId : List Char} {found : Option AuditEvent}
    (h : getEventById true none table caller eventId = .ok found) : caller = auditPeer := by
  have hauthorized : authorizeQuery caller {} = .ok () := by
    unfold getEventById at h
    split at h
    · cases h
    split at h
    · cases h
    split at h
    · cases h
    · assumption
  rcases authorizeQuery_scope hauthorized with hcaller | ⟨-, _, -, hne, -⟩
  · exact hcaller
  · exact absurd rfl hne

theorem found_iff {table : List AuditEvent} (haccepted : Accepted layout {} event) (hstored : event ∈ table)
    (hunique : ∀ other ∈ table, other.eventId = event.eventId → other = event) :
    getEventById true none table auditPeer event.eventId.toString = .ok (some event.stored) ↔
      WithinSkew event := by
  refine ⟨fun h => ?_, fun hskew =>
    (finds_of_unique haccepted hstored hskew fun other hother hid _ => hunique other hother hid).2⟩
  by_contra hskew
  have hnone : selected table event.eventId = [] := by
    refine eq_nil_iff_forall_not_mem.mpr fun row hrow => ?_
    obtain ⟨hrow, hid, hrowSkew⟩ := mem_selected.mp hrow
    exact hskew (hunique row hrow hid ▸ hrowSkew)
  have hempty : (buildGetByIdQuery event.eventId).evaluate table = [] := by
    rw [evaluate_buildGetByIdQuery, hnone, take_nil]
  rw [getEventById_auditPeer haccepted.isV7 hempty (by decide)] at h
  cases h

end SecureCloud.Audit
