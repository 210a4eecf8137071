import SecureCloud.Audit.Serializer

/-
# Audit.Query — queries, the store that answers them, and who may ask

The filter, `AuditQueryAuthorizer`, the lookup of one event in `ClickHouseQueryBuilder`, and
`ClickHouseClient::execute_parameterized_query`. A built query is its WHERE conditions with their bound
values and its limit; `ParameterizedClickHouseQuery.evaluate` is what the store does with it. A table is the
list of its rows in the order they are read, each row the event inserted, handed out in the text it was
inserted with. Of the paged queries only the filter is here, and what it selects.
-/

namespace SecureCloud.Audit

open Lib

/-! ## Answers of the service -/

inductive StatusCode where
  | invalidArgument | unauthenticated | permissionDenied | resourceExhausted
deriving DecidableEq

/-- A `grpc::Status` that is not OK. -/
structure Status where
  code : StatusCode
  message : String
deriving DecidableEq

inductive ClickHouseException where
  | connection | timeout | query (statusCode : Nat)
deriving DecidableEq

/-- How a call of the application service ends without an answer. -/
inductive QueryFailure where
  | status (status : Status)
  | thrown (exception : ClickHouseException)
deriving DecidableEq

/-! ## Filters -/

structure AuditQueryFilter where
  startOccurredAt : Option TimePoint := none
  endOccurredAt : Option TimePoint := none
  producerServices : List ProducerService := []
  eventTypes : List String := []
  severities : List Severity := []
  actorType : Option ActorType := none
  actorId : Option String := none
  targetType : Option TargetType := none
  targetId : Option String := none
  correlationId : Option String := none

/-! ## Authorization -/

/-- What the authorizer reads of a `PeerIdentity`. -/
structure PeerIdentity where
  commonName : String
  isAuthenticated : Bool

def producerServiceFromCn : String → Option ProducerService
  | "auth.securecloud.internal" => some .auth
  | "messaging.securecloud.internal" => some .messaging
  | "files.securecloud.internal" => some .files
  | "gateway.securecloud.internal" => some .gateway
  | "audit.securecloud.internal" => some .audit
  | _ => none

def authorizeQuery (peer : PeerIdentity) (filter : AuditQueryFilter) : Except Status Unit :=
  if !peer.isAuthenticated then
    .error ⟨.unauthenticated, "Unauthenticated: Valid mTLS peer certificate required"⟩
  else if peer.commonName = "audit.securecloud.internal" then .ok ()
  else if peer.commonName = "gateway.securecloud.internal" then
    if filter.producerServices = [.gateway] then .ok ()
    else .error ⟨.permissionDenied,
      "ForbiddenOperatorContractNotEnabled: Human operator cross-service access contract not enabled"⟩
  else match producerServiceFromCn peer.commonName with
    | some service =>
      if service = .auth ∨ service = .messaging ∨ service = .files then
        if filter.producerServices = [] then
          .error ⟨.permissionDenied,
            "ForbiddenScope: Scoped caller must explicitly filter by its own producer_service"⟩
        else if filter.producerServices.all (· == service) then .ok ()
        else .error ⟨.permissionDenied,
          "ForbiddenScope: Caller is unauthorized to query audit logs outside its own producer scope"⟩
      else .error ⟨.permissionDenied,
        "ForbiddenScope: Peer identity is not authorized to query audit service"⟩
    | none => .error ⟨.permissionDenied,
      "ForbiddenScope: Peer identity is not authorized to query audit service"⟩

/-- The audit service itself: the one caller whose scope is everything. -/
def auditPeer : PeerIdentity := ⟨"audit.securecloud.internal", true⟩

theorem authorizeQuery_auditPeer (filter : AuditQueryFilter) : authorizeQuery auditPeer filter = .ok () :=
  rfl

/-! ## Built queries -/

/-- A conjunct of a WHERE clause, with its bound values. -/
inductive Condition where
  | occurredFrom (ms : Int)
  | occurredUpTo (ms : Int)
  | eventIdIs (id : EventId)

def Condition.holds : Condition → AuditEvent → Bool
  | .occurredFrom ms, row => ms ≤ TimePoint.millis row.occurredAt
  | .occurredUpTo ms, row => TimePoint.millis row.occurredAt ≤ ms
  | .eventIdIs id, row => row.eventId = id

structure ParameterizedClickHouseQuery where
  conditions : List Condition
  limit : Nat

def matching (conditions : List Condition) (table : List AuditEvent) : List AuditEvent :=
  table.filter fun row => conditions.all (·.holds row)

/-- What the store answers: WHERE and LIMIT. -/
def ParameterizedClickHouseQuery.evaluate (query : ParameterizedClickHouseQuery)
    (table : List AuditEvent) : List AuditEvent :=
  (matching query.conditions table).take query.limit

def skewWindowMs : Nat := 600000

def buildGetByIdQuery (eventId : EventId) : ParameterizedClickHouseQuery where
  conditions :=
    [.occurredFrom (if skewWindowMs < eventId.timestampMs then
        ((eventId.timestampMs - skewWindowMs : Nat) : Int) else 0),
      .occurredUpTo ((eventId.timestampMs + skewWindowMs : Nat) : Int), .eventIdIs eventId]
  limit := 1

/-! ## The client -/

/-- `execute_parameterized_query`: a fault of the transport, an answer beyond `maxBytes`, or the
text of the rows. -/
def executeParameterizedQuery (fault : Option ClickHouseException) (maxBytes : Nat)
    (rows : List AuditEvent) : Except ClickHouseException (List Char) :=
  match fault with
  | some exception => .error exception
  | none =>
    if maxBytes < (serializeForInsert rows).length then .error (.query 413)
    else .ok (serializeForInsert rows)

theorem executeParameterizedQuery_ok {maxBytes : Nat} {rows : List AuditEvent}
    (h : (serializeForInsert rows).length ≤ maxBytes) :
    (executeParameterizedQuery none maxBytes rows).map deserializeFromQuery =
      .ok (rows.map AuditEvent.stored) := by
  show (if maxBytes < (serializeForInsert rows).length then
    (.error (.query 413) : Except ClickHouseException (List Char))
    else .ok (serializeForInsert rows)).map deserializeFromQuery = _
  rw [if_neg (by omega), Except.map, deserializeFromQuery_serializeForInsert]

end SecureCloud.Audit
