import SecureCloud.Audit.Timestamps
import SecureCloud.Lib.Getline

/-
# Audit.Serializer — events as lines of tab-separated text

`repository/clickhouse_event_serializer.cpp`: `serialize_for_insert` writes a line of fourteen columns
per event, `deserialize_from_query` reads lines back. The metadata column is written with the common
escaper and quotes of its own, and read by cutting at EVERY comma: `StorageRoundTrip` says what that
costs.
-/

namespace SecureCloud.Audit

open Lib Getline List

/-! ## Escapes -/

def escapeChar (c : Char) : List Char :=
  if c = '\t' then ['\\', 't']
  else if c = '\n' then ['\\', 'n']
  else if c = '\\' then ['\\', '\\']
  else if c = '\x00' then ['\\', '0']
  else [c]

variable (input : List Char)

def escapeTabSeparated : List Char := input.flatMap escapeChar

/-- `unescape_tab_separated`: a backslash before any other character stays. -/
def unescapeTabSeparated : List Char → List Char
  | '\\' :: 't' :: rest => '\t' :: unescapeTabSeparated rest
  | '\\' :: 'n' :: rest => '\n' :: unescapeTabSeparated rest
  | '\\' :: '0' :: rest => '\x00' :: unescapeTabSeparated rest
  | '\\' :: '\\' :: rest => '\\' :: unescapeTabSeparated rest
  | c :: rest => c :: unescapeTabSeparated rest
  | [] => []

variable {c x : Char}

theorem unescapeTabSeparated_cons (h : c ≠ '\\') (rest : List Char) :
    unescapeTabSeparated (c :: rest) = c :: unescapeTabSeparated rest := by
  rw [unescapeTabSeparated] <;> simp_all

theorem unescapeTabSeparated_escapeChar (c : Char) (rest : List Char) :
    unescapeTabSeparated (escapeChar c ++ rest) = c :: unescapeTabSeparated rest := by
  unfold escapeChar
  split
  · subst c
    rfl
  split
  · subst c
    rfl
  split
  · subst c
    rfl
  split
  · subst c
    rfl
  rename_i h _
  exact unescapeTabSeparated_cons h rest

@[simp] theorem unescapeTabSeparated_escapeTabSeparated :
    unescapeTabSeparated (escapeTabSeparated input) = input := by
  induction input with
  | nil => rfl
  | cons c input ih =>
    show unescapeTabSeparated (escapeChar c ++ escapeTabSeparated input) = c :: input
    rw [unescapeTabSeparated_escapeChar, ih]

theorem mem_escapeChar (h : x ∈ escapeChar c) :
    x = c ∧ c ≠ '\t' ∧ c ≠ '\n' ∨ x ∈ ['\\', 't', 'n', '0'] := by
  unfold escapeChar at h
  simp only [mem_cons, not_mem_nil, or_false]
  split_ifs at h with h₁ h₂ h₃ h₄ <;>
    simp only [mem_cons, not_mem_nil, or_false] at h
  · tauto
  · tauto
  · tauto
  · tauto
  · exact .inl ⟨h, h₁, h₂⟩

theorem mem_escapeTabSeparated {input : List Char} (h : x ∈ escapeTabSeparated input) :
    x ∈ input ∧ x ≠ '\t' ∧ x ≠ '\n' ∨ x ∈ ['\\', 't', 'n', '0'] := by
  obtain ⟨c, hc, hx⟩ := mem_flatMap.mp h
  rcases mem_escapeChar hx with ⟨rfl, h₁, h₂⟩ | h
  · exact .inl ⟨hc, h₁, h₂⟩
  · exact .inr h

theorem not_mem_escapeTabSeparated (hc : c = '\t' ∨ c = '\n') (input : List Char) :
    c ∉ escapeTabSeparated input := by
  intro h
  rcases mem_escapeTabSeparated h with ⟨-, h₁, h₂⟩ | h
  · rcases hc with rfl | rfl
    exacts [h₁ rfl, h₂ rfl]
  · rcases hc with rfl | rfl <;> simp at h

theorem mem_of_mem_unescapeTabSeparated {input : List Char}
    (h : x ∈ unescapeTabSeparated input) : x ∈ input ∨ x ∈ ['\t', '\n', '\x00', '\\'] := by
  fun_induction unescapeTabSeparated input with
  | case1 rest ih | case2 rest ih | case3 rest ih | case4 rest ih =>
    rcases mem_cons.mp h with rfl | h
    · exact .inr (by simp)
    rcases ih h with h | h
    · exact .inl (by simp [h])
    · exact .inr h
  | case5 c rest _ _ _ _ ih =>
    rcases mem_cons.mp h with rfl | h
    · exact .inl mem_cons_self
    rcases ih h with h | h
    · exact .inl (mem_cons_of_mem _ h)
    · exact .inr h
  | case6 => cases h

/-! ## The metadata column -/

/-- One `'key':'value'` of `format_metadata_map`. -/
def formatMetadataEntry (entry : String × String) : List Char :=
  '\'' :: (escapeTabSeparated entry.1.toList ++ '\'' :: ':' :: '\'' ::
    (escapeTabSeparated entry.2.toList ++ ['\'']))

def formatMetadataMap (metadata : Metadata) : List Char :=
  '{' :: (separated ',' (metadata.entries.map formatMetadataEntry) ++ ['}'])

def unwrapped (opening closing : Char) (text : List Char) : Option (List Char) :=
  if 2 ≤ text.length ∧ text.head? = some opening ∧ text.getLast? = some closing then
    some text.tail.dropLast
  else none

def stripQuotes (text : List Char) : List Char := (unwrapped '\'' '\'' text).getD text

/-- One piece of the metadata column: cut at its FIRST colon, or dropped. -/
def parseMetadataPair (piece : List Char) : Option (String × String) :=
  match piece.dropWhile (· ≠ ':') with
  | [] => none
  | _ :: v =>
    let k := piece.takeWhile (· ≠ ':')
    some (String.ofList (unescapeTabSeparated (stripQuotes k)),
      String.ofList (unescapeTabSeparated (stripQuotes v)))

/-- `ev.metadata[k] = v` for a piece that has a colon. -/
def assignPair (metadata : Metadata) (piece : List Char) : Metadata :=
  match parseMetadataPair piece with
  | none => metadata
  | some (k, v) => metadata.assign k v

def parseMetadata (column : List Char) : Metadata :=
  match unwrapped '{' '}' column with
  | none => .empty
  | some text => (getlines ',' text).foldl assignPair .empty

/-! ## Rows -/

/-- A column that may be missing: `\\N` stands for an empty text. -/
def nullable (text : String) : List Char :=
  if text = "" then ['\\', 'N'] else escapeTabSeparated text.toList

variable (event : AuditEvent)

def columns : List (List Char) :=
  [event.eventId.toString, formatTimestampMs event.occurredAt,
    formatTimestampMs (event.receivedAt.getD event.occurredAt),
    escapeTabSeparated event.eventType.toList,
    event.severity.toString.toList,
    event.producerService.toString.toList,
    escapeTabSeparated event.producerInstance.toList,
    event.actorType.toString.toList,
    escapeTabSeparated event.actorId.toList,
    event.targetType.toString.toList,
    escapeTabSeparated event.targetId.toList,
    nullable event.correlationId,
    nullable (event.causationId.getD ""),
    formatMetadataMap event.metadata]

def serializeRow : List Char := separated '\t' (columns event)

def serializeForInsert (events : List AuditEvent) : List Char :=
  events.flatMap fun event => serializeRow event ++ ['\n']

def textColumn (token : List Char) : String := String.ofList (unescapeTabSeparated token)

def nullableColumn (token : List Char) : Option String :=
  if token = ['\\', 'N'] ∨ token = [] then none else some (textColumn token)

/-- The event of one line; a line with less than fourteen columns is skipped. -/
def deserializeLine (line : List Char) : Option AuditEvent :=
  let tokens := getlines '\t' line
  let token := fun i => tokens.getD i []
  if tokens.length < 14 then none
  else some
    { eventId := (EventId.fromString (token 0)).getD .nil
      occurredAt := parseTimestampMs (token 1)
      receivedAt := some (parseTimestampMs (token 2))
      eventType := textColumn (token 3)
      severity := (severityFromString (String.ofList (token 4))).getD .info
      producerService := (producerFromString (String.ofList (token 5))).getD .audit
      producerInstance := textColumn (token 6)
      actorType := (actorTypeFromString (String.ofList (token 7))).getD .user
      actorId := textColumn (token 8)
      targetType := (targetTypeFromString (String.ofList (token 9))).getD .unknown
      targetId := textColumn (token 10)
      correlationId := (nullableColumn (token 11)).getD ""
      causationId := nullableColumn (token 12)
      metadata := parseMetadata (token 13) }

def deserializeFromQuery : List AuditEvent :=
  (getlines '\n' input).filterMap fun line =>
    if line = [] then none else deserializeLine line

/-! ## What comes back of a row -/

/-- The event that is read back from an event's row. -/
def AuditEvent.stored : AuditEvent :=
  { event with
    eventId := (EventId.fromString event.eventId.toString).getD .nil
    occurredAt := parseTimestampMs (formatTimestampMs event.occurredAt)
    receivedAt := some (parseTimestampMs (formatTimestampMs (event.receivedAt.getD event.occurredAt)))
    causationId := if event.causationId = some "" then none else event.causationId
    metadata := parseMetadata (formatMetadataMap event.metadata) }

@[simp] theorem textColumn_escapeTabSeparated (text : String) :
    textColumn (escapeTabSeparated text.toList) = text := by
  rw [textColumn, unescapeTabSeparated_escapeTabSeparated, String.ofList_toList]

theorem nullableColumn_nullable (text : String) :
    nullableColumn (nullable text) = if text = "" then none else some text := by
  unfold nullable
  by_cases htext : text = ""
  · rw [if_pos htext, if_pos htext]
    rfl
  rw [if_neg htext, if_neg htext, nullableColumn, if_neg, textColumn_escapeTabSeparated]
  rintro (h | h)
  · have hback := congrArg unescapeTabSeparated h
    rw [unescapeTabSeparated_escapeTabSeparated] at hback
    have hplain : text.toList = ['\\', 'N'] := hback
    rw [hplain] at h
    simp [escapeTabSeparated, escapeChar] at h
  have hback := congrArg unescapeTabSeparated h
  rw [unescapeTabSeparated_escapeTabSeparated] at hback
  exact htext (String.toList_eq_nil_iff.mp hback)

section
variable (hc : c = '\t' ∨ c = '\n')

include hc

theorem not_mem_nullable (text : String) : c ∉ nullable text := by
  unfold nullable
  split
  · rcases hc with rfl | rfl <;> decide
  · exact not_mem_escapeTabSeparated hc _

theorem not_mem_formatMetadataMap (metadata : Metadata) :
    c ∉ formatMetadataMap metadata := by
  have hplain : c ∉ ['{', '}', ',', '\'', ':'] := by rcases hc with rfl | rfl <;> decide
  intro h
  rw [formatMetadataMap, mem_cons, mem_append, mem_singleton] at h
  rcases h with rfl | h | rfl
  · simp at hplain
  · rcases mem_separated h with rfl | ⟨piece, hpiece, hmem⟩
    · simp at hplain
    obtain ⟨entry, -, rfl⟩ := mem_map.mp hpiece
    have hkey := not_mem_escapeTabSeparated hc entry.1.toList
    have hvalue := not_mem_escapeTabSeparated hc entry.2.toList
    simp_all [formatMetadataEntry]
  · simp at hplain

theorem not_mem_columns (event : AuditEvent) :
    ∀ token ∈ columns event, c ∉ token := by
  have hseverity : c ∉ event.severity.toString.toList := by
    cases event.severity <;> rcases hc with rfl | rfl <;> simp [Severity.toString]
  have hproducer : c ∉ event.producerService.toString.toList := by
    cases event.producerService <;> rcases hc with rfl | rfl <;> simp [ProducerService.toString]
  have hactor : c ∉ event.actorType.toString.toList := by
    cases event.actorType <;> rcases hc with rfl | rfl <;> simp [ActorType.toString]
  have htarget : c ∉ event.targetType.toString.toList := by
    cases event.targetType <;> rcases hc with rfl | rfl <;> simp [TargetType.toString]
  have htext := fun text : String => not_mem_escapeTabSeparated hc text.toList
  have htime := not_mem_formatTimestampMs hc
  simp only [columns, forall_mem_cons]
  exact ⟨EventId.not_mem_toString hc _, htime _, htime _, htext _, hseverity, hproducer, htext _,
    hactor, htext _, htarget, htext _, not_mem_nullable hc _, not_mem_nullable hc _,
    not_mem_formatMetadataMap hc _, forall_mem_nil _⟩

end

theorem getlines_serializeRow : getlines '\t' (serializeRow event) = columns event := by
  refine getlines_separated (not_mem_columns (.inl rfl) event) ?_
  intro token htoken
  have hlast : formatMetadataMap event.metadata = token := by simpa [columns] using htoken
  rw [← hlast]
  exact cons_ne_nil _ _

theorem not_mem_serializeRow : '\n' ∉ serializeRow event := by
  intro h
  rcases mem_separated h with h | ⟨token, htoken, hmem⟩
  · cases h
  · exact not_mem_columns (.inr rfl) event token htoken hmem

/-- Every row is read, as the stored event. -/
theorem deserializeLine_serializeRow :
    deserializeLine (serializeRow event) = some event.stored := by
  have hcausation : nullableColumn (nullable (event.causationId.getD "")) =
      if event.causationId = some "" then none else event.causationId := by
    rw [nullableColumn_nullable]
    cases event.causationId with
    | none => rfl
    | some text => simp
  have hcorrelation : (nullableColumn (nullable event.correlationId)).getD "" =
      event.correlationId := by
    rw [nullableColumn_nullable]
    split
    next h =>
      exact h.symm
    · rfl
  simp only [deserializeLine, getlines_serializeRow]
  rw [if_neg (by simp [columns])]
  simp [columns, AuditEvent.stored, hcausation, hcorrelation, String.ofList_toList]

theorem serializeRow_ne_nil : serializeRow event ≠ [] := by
  intro h
  have hcolumns := getlines_serializeRow event
  rw [h] at hcolumns
  cases hcolumns

theorem deserializeFromQuery_serializeForInsert (events : List AuditEvent) :
    deserializeFromQuery (serializeForInsert events) = events.map AuditEvent.stored := by
  have hfree : ∀ line ∈ events.map serializeRow, '\n' ∉ line := by
    intro line hline
    obtain ⟨event, -, rfl⟩ := mem_map.mp hline
    exact not_mem_serializeRow event
  have hlines : getlines '\n' (serializeForInsert events) = events.map serializeRow := by
    have hterminated := getlines_flatMap hfree
    rwa [flatMap_map] at hterminated
  have hline : (fun line => if line = [] then none else deserializeLine line) ∘ serializeRow =
      fun event => some event.stored := by
    funext event
    show (if serializeRow event = [] then none else deserializeLine (serializeRow event)) =
      some event.stored
    rw [if_neg (serializeRow_ne_nil event), deserializeLine_serializeRow]
  rw [deserializeFromQuery, hlines, filterMap_map, hline, filterMap_eq_map']

theorem unwrapped_append (opening closing : Char) (text : List Char) :
    unwrapped opening closing (opening :: (text ++ [closing])) = some text := by
  have hlast : (opening :: (text ++ [closing])).getLast? = some closing := by
    rw [← cons_append, getLast?_concat]
  simp [unwrapped, hlast]

end SecureCloud.Audit
