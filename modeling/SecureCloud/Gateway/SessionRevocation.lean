import SecureCloud.Gateway.Perimeter

/-
# Gateway.SessionRevocation — `POST /api/v1/auth/revoke`, end to end

The gateway knows WHO asks: `handle_revoke` has the authenticated context. The auth service knows WHOSE
session is meant: `revoke_session` finds the row. The `RevokeSessionRequest` between them carries a
session id and a reason. The id is the caller's own unless the body names another one, and nobody compares
the owner of that session with the caller. `parse` stands for the JSON library, `none` for its exception.
-/

namespace SecureCloud.Gateway

open Auth

/-! ## `AuthProxyHandler::handle_revoke` -/

inductive Json
  | string (text : String)
  | object (members : List (String × Json))
  | other

def Json.stringMember (j : Json) (name : String) : Option String :=
  match j with
  | .object members =>
    match members.lookup name with
    | some (.string text) => some text
    | _ => none
  | _ => none

structure RevokeSessionRequest where
  sessionId : String
  reason : String
deriving DecidableEq

def Json.revokeRequest (j : Json) (own : RevokeSessionRequest) : RevokeSessionRequest where
  sessionId := match j.stringMember "session_id" with
    | some text => if text = "" then own.sessionId else text
    | none => own.sessionId
  reason := (j.stringMember "reason").getD own.reason

/-- The request the handler builds, or the message it refuses with. -/
def revokeRequest (parse : String → Option Json) (ctx : AuthenticatedContext) (req : Request)
    (body : String) : Except String RevokeSessionRequest := do
  let own : RevokeSessionRequest := ⟨ctx.sessionId, "User logout"⟩
  let named ←
    if body = "" then pure own
    else match parse body with
      | none => throw "Malformed JSON request body"
      | some json => pure (json.revokeRequest own)
  let sessionId :=
    if named.sessionId = "" then (req.header? "x-session-id").getD "" else named.sessionId
  if sessionId = "" then throw "Missing session_id to revoke"
  else pure { named with sessionId := sessionId }

/-- The gRPC statuses of the call. -/
inductive RevokeRpcError
  | invalidArgument (message : String)
  | deadlineExceeded (message : String)
  | unavailable (message : String)

/-- `AuthServiceImpl::RevokeSession`. -/
def revokeSessionRpc (s : SessionStore) (faults : RevocationFaults) (request : RevokeSessionRequest)
    (now : TimePoint) : Except RevokeRpcError Bool × SessionStore :=
  match Uuid.fromString request.sessionId with
  | none => (.error (.invalidArgument "Invalid session_id UUID format"), s)
  | some sessionId =>
    let (result, s') := s.revokeSession faults sessionId now
    (.ok result.isSuccess, s')

inductive RevokeResponse
  | error (status : Nat) (code message : String)
  | dependencyError (error : RevokeRpcError)
  | revoked (revoked : Bool)

/-- What the environment contributes: the resilience checks before the call, the network, the
database. -/
structure RevokeEnv where
  bulkheadFull : Bool := false
  circuitOpen : Bool := false
  deadlineExceeded : Bool := false
  budgetExhausted : Bool := false
  delivered : Bool := true
  answered : Bool := true
  faults : RevocationFaults := {}
  now : TimePoint

/-- `handle_revoke`. The call is not idempotent for the retry policy, so it is made once. -/
def handleRevoke (parse : String → Option Json) (env : RevokeEnv) (ctx : AuthenticatedContext)
    (req : Request) (body : String) (s : SessionStore) : RevokeResponse × SessionStore :=
  if env.bulkheadFull then
    (.error 503 "BULKHEAD_LIMIT_EXCEEDED"
      "Workload concurrency bulkhead limit exceeded; retry after delay", s)
  else if env.circuitOpen then
    (.error 503 "CIRCUIT_BREAKER_OPEN" "Downstream service circuit breaker is open; failing fast", s)
  else if env.deadlineExceeded then
    (.error 504 "GATEWAY_TIMEOUT" "Request deadline exceeded before dispatch", s)
  else
  match revokeRequest parse ctx req body with
  | .error message => (.error 400 "BAD_REQUEST" message, s)
  | .ok request =>
    if env.budgetExhausted then
      (.dependencyError (.deadlineExceeded "Request deadline exhausted before dispatch"), s)
    else if !env.delivered then (.dependencyError (.unavailable ""), s)
    else
      let (answer, s') := revokeSessionRpc s env.faults request env.now
      if !env.answered then (.dependencyError (.unavailable ""), s')
      else match answer with
        | .error error => (.dependencyError error, s')
        | .ok revoked => (.revoked revoked, s')

/-! ## Whose sessions are revoked -/

def RevokeEnv.takesEffect (env : RevokeEnv) : Bool :=
  !env.bulkheadFull && !env.circuitOpen && !env.deadlineExceeded && !env.budgetExhausted &&
    env.delivered && env.faults.commits

/-- The request names an active session of somebody else, and nothing keeps it from the
database. -/
def NamesForeignSession (parse : String → Option Json) (env : RevokeEnv)
    (ctx : AuthenticatedContext) (req : Request) (body : String) (s : SessionStore) : Prop :=
  env.takesEffect = true ∧ ∃ request id session, revokeRequest parse ctx req body = .ok request ∧
    Uuid.fromString request.sessionId = some id ∧ s.findSession id = some session ∧
    session.sessionStatus = .active ∧ session.userId.toString ≠ ctx.userId

section
variable {parse : String → Option Json} {env : RevokeEnv} {ctx : AuthenticatedContext}
  {req : Request} {body : String} {s : SessionStore}

theorem handleRevoke_statusOf (h : s.Keyed) (id : Uuid) :
    (handleRevoke parse env ctx req body s).2.statusOf id ≠ s.statusOf id ↔
      env.takesEffect = true ∧ s.statusOf id = some .active ∧
        ∃ request, revokeRequest parse ctx req body = .ok request ∧
          Uuid.fromString request.sessionId = some id := by
  unfold handleRevoke RevokeEnv.takesEffect
  cases env.bulkheadFull with
  | true => simp
  | false =>
  cases env.circuitOpen with
  | true => simp
  | false =>
  cases env.deadlineExceeded with
  | true => simp
  | false =>
  cases revokeRequest parse ctx req body with
  | error message => simp
  | ok request =>
  cases env.budgetExhausted with
  | true => simp
  | false =>
  cases env.delivered with
  | false => simp
  | true =>
    have hcall : (revokeSessionRpc s env.faults request env.now).2.statusOf id ≠ s.statusOf id ↔
        env.faults.commits = true ∧ s.statusOf id = some .active ∧
          Uuid.fromString request.sessionId = some id := by
      unfold revokeSessionRpc
      cases htext : Uuid.fromString request.sessionId with
      | none => simp
      | some named =>
        simp only [revokeSession_statusOf h, Option.some.injEq]
        split_ifs with hdone
        · obtain ⟨rfl, hcommits, hactive⟩ := hdone
          simp [hcommits, hactive]
        simp only [ne_eq, not_true_eq_false, false_iff]
        rintro ⟨hcommits, hactive, rfl⟩
        exact hdone ⟨rfl, hcommits, hactive⟩
    -- with or without an answer, the store is the one of the call
    cases env.answered with
    | false => simpa using hcall
    | true =>
      cases hanswer : (revokeSessionRpc s env.faults request env.now).1 <;>
        simpa [hanswer] using hcall

/-- **A revoke request touches only the caller's sessions, unless it names another one.** -/
theorem handle_revoke_own_sessions_iff (h : s.Keyed) :
    (∀ id, (handleRevoke parse env ctx req body s).2.statusOf id ≠ s.statusOf id →
        ∃ session, s.findSession id = some session ∧ session.userId.toString = ctx.userId) ↔
      ¬ NamesForeignSession parse env ctx req body s := by
  constructor
  · rintro hown ⟨heffect, request, id, session, hrequest, hid, hfound, hactive, hforeign⟩
    have hstatus : s.statusOf id = some .active := by
      rw [SessionStore.statusOf, show s.sessions id = some session from hfound]
      exact congrArg some hactive
    obtain ⟨owned, howned, huser⟩ :=
      hown id ((handleRevoke_statusOf h id).mpr ⟨heffect, hstatus, request, hrequest, hid⟩)
    rw [hfound] at howned
    rw [← Option.some.inj howned] at huser
    exact hforeign huser
  intro hnone id hchanged
  obtain ⟨heffect, hstatus, request, hrequest, hid⟩ := (handleRevoke_statusOf h id).mp hchanged
  rw [SessionStore.statusOf, Option.map_eq_some_iff] at hstatus
  obtain ⟨session, hfound, hactive⟩ := hstatus
  refine ⟨session, hfound, ?_⟩
  by_contra hforeign
  exact hnone ⟨heffect, request, id, session, hrequest, hid, hfound, hactive, hforeign⟩

end

/-! ## Two users -/

namespace RevocationSample

def alice : Uuid := .ofByte 1
def bob : Uuid := .ofByte 2
def aliceSession : Uuid := .ofByte 5
def bobSession : Uuid := .ofByte 6

def devices : SessionStore where
  sessions := fun _ => none
  devices := fun id =>
    if id = .ofByte 3 then some ⟨id, alice, .active, 0⟩
    else if id = .ofByte 4 then some ⟨id, bob, .active, 0⟩
    else none

def store : SessionStore :=
  ((devices.establishSession 3600000 alice (.ofByte 3) aliceSession 0).2.establishSession 3600000
    bob (.ofByte 4) bobSession 0).2

theorem store_keyed : store.Keyed := by
  have hempty : devices.Keyed := by
    intro id e he
    cases he
  have halice := hempty.establishSession 3600000 alice (.ofByte 3) aliceSession 0
  exact halice.establishSession 3600000 bob (.ofByte 4) bobSession 0

def bobContext : AuthenticatedContext :=
  ⟨bob.toString, (Uuid.ofByte 4).toString, bobSession.toString, .primary, ["access"], 3600000⟩

def request : Request := ⟨"POST", "/api/v1/auth/revoke", []⟩

def namesAlice : Json := .object [("session_id", .string aliceSession.toString)]

end RevocationSample

open RevocationSample in
/-- **`bob` names the session of `alice`, and it is revoked.** -/
theorem foreign_session_revoked : (store.findSession aliceSession).map (·.userId) = some alice ∧
      bobContext.userId = bob.toString ∧ store.statusOf aliceSession = some .active ∧
      (handleRevoke (fun _ => some namesAlice) { now := 1000 } bobContext request "body"
        store).2.statusOf aliceSession = some .revoked := by
  refine ⟨by decide, rfl, by decide, ?_⟩
  decide

open RevocationSample in
/-- Without a body `bob` ends the session of the request itself. -/
theorem logout_revokes_own_session :
    (handleRevoke (fun _ => none) { now := 1000 } bobContext request "" store).2.statusOf
        bobSession = some .revoked ∧
      ∀ id, (handleRevoke (fun _ => none) { now := 1000 } bobContext request "" store).2.statusOf
          id ≠ store.statusOf id →
        ∃ session, store.findSession id = some session ∧
          session.userId.toString = bobContext.userId := by
  refine ⟨by decide, (handle_revoke_own_sessions_iff store_keyed).mpr ?_⟩
  rintro ⟨-, req, id, session, hrequest, hid, hfound, -, hforeign⟩
  have hreq : req = ⟨bobSession.toString, "User logout"⟩ := by
    have hown : revokeRequest (fun _ => none) bobContext request "" =
        .ok ⟨bobSession.toString, "User logout"⟩ := by decide
    exact (Except.ok.inj (hown.symm.trans hrequest)).symm
  have hbob : Uuid.fromString bobSession.toString = some bobSession := by decide
  rw [hreq, hbob] at hid
  cases hid
  have huser : (store.findSession bobSession).map (·.userId) = some bob := by decide
  rw [hfound] at huser
  exact hforeign (congrArg Uuid.toString (Option.some.inj huser))

end SecureCloud.Gateway
