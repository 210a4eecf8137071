import SecureCloud.Auth.Session
import SecureCloud.Gateway.Policy

/-
# Gateway.Perimeter — who is let through

`AuthenticationMiddleware::process` with the `AuthServiceTokenValidator` behind it, and the auth service's
`ValidateSession` behind that. The gateway hands on the bearer token and the `x-session-id` header, the
auth service looks at the session id ALONE, and the gateway caches the answer under both. Nobody looks at
the token.

`Perimeter.issued` is a ghost, the access tokens the auth service has signed: that signatures cannot be
forged means that a genuine token is one of these.
-/

namespace SecureCloud.Gateway

open Auth

/-! ## Requests and headers -/

structure Request where
  method : String
  path : String
  headers : List (String × String)

def toLowerCopy (s : String) : List Char := s.toList.map Char.toLower

variable (r : Request)

/-- The first header of that name; names are compared without case. -/
def Request.header? (name : String) : Option String :=
  (r.headers.find? fun h => toLowerCopy h.1 = toLowerCopy name).map (·.2)

def identityHeaders : List String :=
  ["x-user-id", "x-device-id", "x-auth-level", "x-scopes", "x-session-id", "x-authenticated-user",
    "x-authenticated-device", "x-authenticated-scope", "x-authenticated-scopes",
    "x-authenticated-level"]

def isIdentityHeader (name : String) : Bool :=
  let lower := toLowerCopy name
  identityHeaders.any (fun h => h.toList == lower) || "x-authenticated-".toList.isPrefixOf lower ||
    "x-securecloud-identity-".toList.isPrefixOf lower

def Request.sanitize : Request :=
  { r with headers := r.headers.filter fun h => !isIdentityHeader h.1 }

/-! ## `BearerTokenExtractor` -/

inductive TokenExtractionErrorKind
  | missingAuthorizationHeader
  | invalidScheme
  | emptyToken
  | tokenTooLarge
  | malformedToken
deriving DecidableEq

def isTrimmed (c : Char) : Bool := c == ' ' || c == '\t' || c == '\r' || c == '\n'

def trimWhitespace (cs : List Char) : List Char :=
  ((cs.dropWhile isTrimmed).reverse.dropWhile isTrimmed).reverse

def isValidB64TokenChar (c : Char) : Bool :=
  ('a' ≤ c && c ≤ 'z') || ('A' ≤ c && c ≤ 'Z') || ('0' ≤ c && c ≤ '9') ||
    ['-', '.', '_', '~', '+', '/', '='].contains c

def maxTokenLength : Nat := 4096

def iequalsScheme (actual expected : List Char) : Bool :=
  actual.map Char.toLower == expected.map Char.toLower

def bearerScheme : List Char := ['B', 'e', 'a', 'r', 'e', 'r']

def extractFromHeader (value : String) : Except (TokenExtractionErrorKind × String) String :=
  let trimmed := trimWhitespace value.toList
  let separator := fun c : Char => c == ' ' || c == '\t'
  if trimmed = [] then .error (.missingAuthorizationHeader, "Authorization header is empty")
  else if !trimmed.any separator then
    if iequalsScheme trimmed bearerScheme then
      .error (.emptyToken, "Bearer scheme provided without token payload")
    else .error (.invalidScheme, "Authorization header does not specify a valid Bearer scheme")
  else if !iequalsScheme (trimmed.takeWhile (!separator ·)) bearerScheme then
    .error (.invalidScheme, "Unsupported authorization scheme: expected Bearer")
  else
    let token := trimWhitespace (trimmed.dropWhile (!separator ·))
    if token = [] then .error (.emptyToken, "Bearer token payload is empty")
    else if maxTokenLength < token.length then
      .error (.tokenTooLarge, "Bearer token exceeds maximum allowable length of 4096 bytes")
    else if !token.all isValidB64TokenChar then
      .error (.malformedToken, "Bearer token contains invalid or forbidden characters")
    else .ok (String.ofList token)

/-- `extract`. -/
def Request.bearerToken : Except (TokenExtractionErrorKind × String) String :=
  match r.header? "Authorization" with
  | none => .error (.missingAuthorizationHeader, "Missing Authorization header in HTTP request")
  | some value => extractFromHeader value

/-! ## `ValidateSession` of the auth service -/

structure ValidateSessionRequest where
  accessToken : String
  sessionId : String

structure ValidateSessionResponse where
  isValid : Bool := false
  userId : String := ""
  deviceId : String := ""
  authenticationLevel : AuthLevel := .unspecified
  expiresAtEpochMs : Int := 0

/-- `DependencyErrorKind`, without `Ok`. -/
inductive DependencyErrorKind
  | timeout
  | serviceUnavailable
  | unauthenticated
  | permissionDenied
  | invalidArgument
  | notFound
  | internal

/-- How the RPC goes: whether the transport fails, and otherwise the clock and the database of the
auth service. -/
structure RpcEnv where
  transport : Option (DependencyErrorKind × String) := none
  faults : SessionFaults := {}
  now : TimePoint

def levelOf : AuthenticationLevel → AuthLevel
  | .primaryOnly => .primary
  | .mfaVerified => .mfaVerified

def responseOf (session : SessionEntity) : ValidateSessionResponse where
  isValid := true
  userId := session.userId.toString
  deviceId := session.deviceId.toString
  authenticationLevel := levelOf session.authenticationLevel
  expiresAtEpochMs := session.expiresAt

variable (store : SessionStore)

/-- `AuthServiceImpl::ValidateSession`, through the gateway's client. THE ACCESS TOKEN OF THE REQUEST
IS NOT READ. -/
def validateSessionRpc (env : RpcEnv) (request : ValidateSessionRequest) :
    Except (DependencyErrorKind × String) ValidateSessionResponse × SessionStore :=
  match env.transport with
  | some e => (.error e, store)
  | none =>
    match Uuid.fromString request.sessionId with
    | none => (.error (.invalidArgument, "Invalid session_id UUID format"), store)
    | some id =>
      let (result, store') := store.validateSession env.faults id none env.now
      (.ok (if result.status = .valid then (result.session.map responseOf).getD {} else {}), store')

/-! ## `AuthServiceTokenValidator` -/

inductive TokenValidationErrorKind
  | tokenExpired
  | sessionRevoked
  | invalidSignature
  | mfaRequired
  | insufficientScope
  | serviceUnavailable
  | malformedToken
  | internalError

structure TokenValidatorOptions where
  cacheTtl : TimePoint := 10000
  maxCacheEntries : Nat := 10000

structure CacheEntry where
  context : AuthenticatedContext
  validUntil : TimePoint

/-- The cache in the order `begin()` walks it, the hash table's own; the environment says where a new
entry goes. -/
abbrev Cache := List (String × CacheEntry)

def buildCacheKey (token sessionId : String) : String := token ++ "\x1f" ++ sessionId

def Cache.context? (cache : Cache) (options : TokenValidatorOptions) (key : String)
    (now : TimePoint) : Option AuthenticatedContext :=
  if 0 < options.cacheTtl then
    (cache.lookup key).bind fun e => if now < e.validUntil then some e.context else none
  else none

/-- `evict_expired_or_overflow_locked`. -/
def Cache.evict (cache : Cache) (options : TokenValidatorOptions) (now : TimePoint) : Cache :=
  let live := cache.filter fun e => now < e.2.validUntil
  live.drop (live.length + 1 - options.maxCacheEntries)

def dependencyErrorOf : DependencyErrorKind → TokenValidationErrorKind
  | .timeout => .serviceUnavailable
  | .serviceUnavailable => .serviceUnavailable
  | .unauthenticated => .invalidSignature
  | .invalidArgument => .invalidSignature
  | .notFound => .sessionRevoked
  | .permissionDenied => .internalError
  | .internal => .internalError

/-- The scopes every validated caller gets. They do not come from the token. -/
def grantedScopes (level : AuthLevel) : List String :=
  ["access", "messages:read", "messages:write", "files:read", "files:write", "auth:profile"] ++
    if level = .mfaVerified then ["auth:device:register", "auth:keys:rotate"] else []

def contextOf (response : ValidateSessionResponse) (sessionId : String) : AuthenticatedContext where
  userId := response.userId
  deviceId := response.deviceId
  sessionId := sessionId
  authenticationLevel := response.authenticationLevel
  scopes := grantedScopes response.authenticationLevel
  expiresAtEpochMs := response.expiresAtEpochMs

def validate (options : TokenValidatorOptions) (cache : Cache) (store : SessionStore)
    (token sessionId : String) (now : TimePoint) (slot : Nat) (env : RpcEnv) :
    Except (TokenValidationErrorKind × String) AuthenticatedContext × Cache × SessionStore :=
  if token = "" then (.error (.invalidSignature, "Bearer token must not be empty"), cache, store)
  else
    let key := buildCacheKey token sessionId
    match cache.context? options key now with
    | some context => (.ok context, cache, store)
    | none =>
      -- an entry that is there all the same has expired, and is erased
      let cache := if 0 < options.cacheTtl then cache.filter (·.1 ≠ key) else cache
      match validateSessionRpc store env ⟨token, sessionId⟩ with
      | (.error (kind, message), store) => (.error (dependencyErrorOf kind, message), cache, store)
      | (.ok response, store) =>
        if !response.isValid then
          (.error (.sessionRevoked, "Session or token is revoked or no longer active"), cache, store)
        else if 0 < response.expiresAtEpochMs ∧ response.expiresAtEpochMs ≤ now then
          (.error (.tokenExpired, "Access token has expired"), cache, store)
        else
          let context := contextOf response sessionId
          let expiry := if 0 < response.expiresAtEpochMs then response.expiresAtEpochMs
            else now + options.cacheTtl
          let entry : CacheEntry := ⟨context, min (now + options.cacheTtl) expiry⟩
          let kept := Cache.evict cache options now
          let cache := if 0 < options.cacheTtl then kept.insertIdx (min slot kept.length) (key, entry)
            else cache
          (.ok context, cache, store)

/-! ## `AuthenticationMiddleware` -/

structure ErrorResponse where
  status : Nat
  code : String
  message : String
  requestId : String
  headers : List (String × String) := []
  missingScopes : List String := []

inductive Outcome
  | next (request : Request) (context : Option AuthenticatedContext)
  | respond (error : ErrorResponse)

def Outcome.context? : Outcome → Option AuthenticatedContext
  | .next _ context => context
  | .respond _ => none

def wwwAuthenticate (description : String) : List (String × String) :=
  [("WWW-Authenticate", "Bearer error=\"invalid_token\", error_description=\"" ++ description ++ "\"")]

def validationFailed (kind : TokenValidationErrorKind) (message requestId : String) : ErrorResponse :=
  let text := fun fallback => if message = "" then fallback else message
  match kind with
  | .tokenExpired => ⟨401, "TOKEN_EXPIRED", text "Access token has expired", requestId,
      wwwAuthenticate "The access token expired", []⟩
  | .sessionRevoked => ⟨401, "SESSION_REVOKED",
      text "Session has been revoked or is no longer active", requestId,
      wwwAuthenticate "The session was revoked", []⟩
  | .serviceUnavailable => ⟨503, "SERVICE_UNAVAILABLE", text "Authentication authority unavailable",
      requestId, [("Retry-After", "5")], []⟩
  | .invalidSignature => ⟨401, "INVALID_TOKEN", text "Invalid access token", requestId,
      wwwAuthenticate "Invalid token signature or structure", []⟩
  | .malformedToken => ⟨401, "INVALID_TOKEN", text "Invalid access token", requestId,
      wwwAuthenticate "Invalid token signature or structure", []⟩
  | .mfaRequired => ⟨403, "MFA_REQUIRED", text "Multi-factor authentication (MFA) required",
      requestId, [], []⟩
  | .insufficientScope => ⟨403, "INSUFFICIENT_SCOPE", text "Token lacks required authorization scope",
      requestId, [], []⟩
  | .internalError => ⟨500, "INTERNAL_ERROR", "Internal authentication failure", requestId, [], []⟩

/-- Steps 5 to 8: the route's rule against the caller. `none` lets the caller through. -/
def refusedByRule (rule : RouteSecurityRule) (ctx : AuthenticatedContext) (requestId : String) :
    Option ErrorResponse :=
  if rule.requiresMfa && !ctx.isMfaVerified then
    some ⟨403, "MFA_REQUIRED", "Endpoint requires verified multi-factor authentication (MFA)",
      requestId, [], []⟩
  else if ctx.authenticationLevel.toNat < rule.minAuthLevel.toNat then
    some ⟨403, "INSUFFICIENT_ASSURANCE", "Authentication assurance level is insufficient",
      requestId, [], []⟩
  else if rule.requireDeviceBound && ctx.deviceId == "" then
    some ⟨403, "DEVICE_BINDING_REQUIRED", "Endpoint requires an attested device binding",
      requestId, [], []⟩
  else if rule.scopesSatisfied ctx.scopes then none
  else
    let missing := findMissingScopes ctx.scopes rule.requiredScopes
    let detail := "Token lacks required authorization scope" ++ (match missing with
      | [] => ""
      | scope :: _ => ": " ++ scope)
    some ⟨403, "INSUFFICIENT_SCOPE", detail, requestId, [], missing⟩

/-- `issued` is a ghost: the access tokens the auth service has signed, with their claims. -/
structure Perimeter where
  cache : Cache
  store : SessionStore
  issued : List (String × AccessTokenClaims)

variable (w : Perimeter)

def Perimeter.login (config : TokenManagerConfig)
    (sign : AccessTokenClaims → String) (sessionTtl : TimePoint) (userId deviceId : Uuid)
    (sessionId jti : Uuid) (now : TimePoint) : Perimeter :=
  match w.store.establishSession sessionTtl userId deviceId sessionId now with
  | (.success session _, store) =>
    { w with
      store := store
      issued := ((config.accessTokenClaims session [] jti now).map
        fun claims => (sign claims, claims)).toList ++ w.issued }
  | (_, store) => { w with store := store }

structure RequestEnv where
  now : TimePoint
  slot : Nat := 0
  responseRequestId : Option String := none
  rpc : RpcEnv

/-- The session a request claims to belong to, read before the headers are sanitized. -/
def Request.sessionHeader : String := (r.header? "x-session-id").getD ""

def Perimeter.process (policy : GatewaySecurityPolicy)
    (options : TokenValidatorOptions) (raw : Request) (env : RequestEnv) : Outcome × Perimeter :=
  let sessionId := raw.sessionHeader
  let request := raw.sanitize
  let requestId := (request.header? "x-request-id").getD (env.responseRequestId.getD "")
  let rule := policy.evaluate request.method request.path
  if rule.isPublic then (.next request none, w)
  else
    match request.bearerToken with
    | .error _ => (.respond ⟨401, "UNAUTHENTICATED", "Missing or malformed Authorization header",
        requestId, wwwAuthenticate "Missing or malformed Authorization header", []⟩, w)
    | .ok token =>
      match validate options w.cache w.store token sessionId env.now env.slot env.rpc with
      | (.error (kind, message), cache, store) =>
        (.respond (validationFailed kind message requestId), { w with cache := cache, store := store })
      | (.ok ctx, cache, store) =>
        let w := { w with cache := cache, store := store }
        match refusedByRule rule ctx requestId with
        | some error => (.respond error, w)
        | none => (.next request (some ctx), w)

/-! ## Who is let through -/

theorem refusedByRule_eq_none_iff {rule : RouteSecurityRule} (hrule : rule.isPublic = false)
    (ctx : AuthenticatedContext) (requestId : String) :
    refusedByRule rule ctx requestId = none ↔ rule.satisfies ctx = true := by
  unfold refusedByRule RouteSecurityRule.satisfies
  simp only [hrule, Bool.false_eq_true, if_false]
  split_ifs with hmfa hlevel hdevice hscopes
  · simp
  · simp
  · simp
  all_goals simp [hscopes]

/-- What the remote validator accepts: a session live for the auth service and not expired on the
gateway's clock. -/
def RemoteContext (sessionId : String) (env : RequestEnv) (ctx : AuthenticatedContext) : Prop :=
  env.rpc.transport = none ∧ env.rpc.faults = {} ∧
    ∃ id session, Uuid.fromString sessionId = some id ∧ store.Live env.rpc.now id session ∧
      ¬ (0 < session.expiresAt ∧ session.expiresAt ≤ env.now) ∧
      ctx = contextOf (responseOf session) sessionId

theorem validateSession_cases (s : SessionStore) (faults : SessionFaults) (id : Uuid)
    (now : TimePoint) :
    (∃ session, (s.validateSession faults id none now).1 =
        ⟨.valid, some session, "Session is active and valid"⟩) ∨
      (s.validateSession faults id none now).1.status ≠ .valid := by
  unfold SessionStore.validateSession
  simp only
  repeat' split
  all_goals simp

theorem validateSessionRpc_ok_iff (env : RpcEnv) (token sessionId : String)
    (response : ValidateSessionResponse) :
    ((validateSessionRpc store env ⟨token, sessionId⟩).1 = .ok response ∧ response.isValid = true) ↔
      env.transport = none ∧ env.faults = {} ∧ ∃ id session,
        Uuid.fromString sessionId = some id ∧ store.Live env.now id session ∧
          response = responseOf session := by
  cases htransport : env.transport with
  | some e => simp [validateSessionRpc, htransport]
  | none =>
  cases hid : Uuid.fromString sessionId with
  | none => simp [validateSessionRpc, htransport, hid]
  | some id =>
  have hiff := validateSession_valid_iff store env.faults id env.now
  rcases validateSession_cases store env.faults id env.now with ⟨found, hfound⟩ | hinvalid
  · obtain ⟨hfaults, stored, hlive, rfl⟩ := (hiff found).mp hfound
    have hanswer : (validateSessionRpc store env ⟨token, sessionId⟩).1 = .ok (responseOf stored) := by
      simp only [validateSessionRpc, htransport, hid, hfound]
      rfl
    rw [hanswer]
    constructor
    · rintro ⟨hok, -⟩
      exact ⟨rfl, hfaults, id, stored, rfl, hlive, (Except.ok.inj hok).symm⟩
    rintro ⟨-, -, id', session, hid', hlive', rfl⟩
    cases hid'
    obtain rfl : stored = session := Option.some.inj (hlive.1.symm.trans hlive'.1)
    exact ⟨rfl, rfl⟩
  have hanswer : (validateSessionRpc store env ⟨token, sessionId⟩).1 = .ok {} := by
    simp only [validateSessionRpc, htransport, hid, if_neg hinvalid]
  rw [hanswer]
  constructor
  · rintro ⟨hok, hvalid⟩
    rw [← Except.ok.inj hok] at hvalid
    cases hvalid
  rintro ⟨-, hfaults, id', session, hid', hlive, -⟩
  cases hid'
  have hvalid := (hiff _).mpr ⟨hfaults, session, hlive, rfl⟩
  rw [hvalid] at hinvalid
  exact absurd rfl hinvalid

/-- What `validate` accepts: a cached context that has not run out, or a live session. The token
is not looked at beyond the cache key. -/
theorem validate_ok_iff (options : TokenValidatorOptions) (cache : Cache) (store : SessionStore)
    {token : String} (htoken : token ≠ "") (sessionId : String) (env : RequestEnv)
    (ctx : AuthenticatedContext) :
    (validate options cache store token sessionId env.now env.slot env.rpc).1 = .ok ctx ↔
      cache.context? options (buildCacheKey token sessionId) env.now = some ctx ∨
        (cache.context? options (buildCacheKey token sessionId) env.now = none ∧
          RemoteContext store sessionId env ctx) := by
  unfold validate
  simp only [if_neg htoken]
  cases hcached : cache.context? options (buildCacheKey token sessionId) env.now with
  | some context => simp
  | none =>
  have hrpc := validateSessionRpc_ok_iff store env.rpc token sessionId
  simp only [true_and, reduceCtorEq, false_or]
  constructor
  · intro h
    split at h
    · exact nomatch h
    rename_i response store' hresponse
    rw [hresponse] at hrpc
    split at h
    · exact nomatch h
    rename_i hvalid
    split at h
    · exact nomatch h
    rename_i hexpiry
    obtain ⟨htransport, hfaults, id, session, hid, hlive, rfl⟩ :=
      (hrpc response).mp ⟨rfl, by simpa using hvalid⟩
    exact ⟨htransport, hfaults, id, session, hid, hlive, hexpiry, (Except.ok.inj h).symm⟩
  rintro ⟨htransport, hfaults, id, session, hid, hlive, hexpiry, rfl⟩
  obtain ⟨hok, hvalid⟩ :=
    (hrpc (responseOf session)).mpr ⟨htransport, hfaults, id, session, hid, hlive, rfl⟩
  have hpair : validateSessionRpc store env.rpc ⟨token, sessionId⟩ =
      (.ok (responseOf session), (validateSessionRpc store env.rpc ⟨token, sessionId⟩).2) :=
    Prod.ext hok rfl
  rw [hpair]
  simp only [hvalid, Bool.not_true, Bool.false_eq_true, if_false]
  have hfresh : ¬ (0 < (responseOf session).expiresAtEpochMs ∧
      (responseOf session).expiresAtEpochMs ≤ env.now) := hexpiry
  rw [if_neg hfresh]

theorem extractFromHeader_ne_empty {value token : String}
    (h : extractFromHeader value = .ok token) : token ≠ "" := by
  unfold extractFromHeader at h
  simp only at h
  repeat' split at h
  -- the branch of the token first: on it, closing `h` as absurd would take long to fail
  all_goals first
    | obtain rfl := Except.ok.inj h
      rename_i hempty _ _
      simpa using hempty
    | exact nomatch h

theorem bearerToken_ne_empty {r : Request} {token : String} (h : r.bearerToken = .ok token) :
    token ≠ "" := by
  unfold Request.bearerToken at h
  split at h
  · cases h
  · exact extractFromHeader_ne_empty h

/-- Admission: some bearer token, and a context the rule accepts: cached, or of a live session the
header names. -/
structure Admits (w : Perimeter) (policy : GatewaySecurityPolicy) (options : TokenValidatorOptions)
    (raw : Request) (env : RequestEnv) (token : String) (ctx : AuthenticatedContext) : Prop where
  bearer : raw.sanitize.bearerToken = .ok token
  rule : (policy.evaluate raw.method raw.path).satisfies ctx = true
  source : w.cache.context? options (buildCacheKey token raw.sessionHeader) env.now = some ctx ∨
    (w.cache.context? options (buildCacheKey token raw.sessionHeader) env.now = none ∧
      RemoteContext w.store raw.sessionHeader env ctx)

/-- **Who is let through on a route that is not public.** -/
theorem process_admits_iff (policy : GatewaySecurityPolicy)
    (options : TokenValidatorOptions) (raw : Request) (env : RequestEnv)
    (hroute : (policy.evaluate raw.method raw.path).isPublic = false) (ctx : AuthenticatedContext) :
    (w.process policy options raw env).1.context? = some ctx ↔
      ∃ token, Admits w policy options raw env token ctx := by
  have hrule := refusedByRule_eq_none_iff hroute
  unfold Perimeter.process
  have hsame : policy.evaluate raw.sanitize.method raw.sanitize.path =
      policy.evaluate raw.method raw.path := rfl
  simp only [hsame, hroute, Bool.false_eq_true, if_false]
  cases hbearer : raw.sanitize.bearerToken with
  | error e =>
    constructor
    · nofun
    rintro ⟨token, hadmits⟩
    rw [hadmits.bearer] at hbearer
    cases hbearer
  | ok token =>
  have hvalidate := validate_ok_iff options w.cache w.store (bearerToken_ne_empty hbearer)
    raw.sessionHeader env
  dsimp only
  constructor
  · intro h
    split at h
    · exact nomatch h
    rename_i ctx' cache' store' hok
    rw [hok] at hvalidate
    split at h
    · exact nomatch h
    rename_i hnone
    obtain rfl : ctx' = ctx := Option.some.inj h
    exact ⟨token, hbearer, (hrule ctx' _).mp hnone, (hvalidate ctx').mp rfl⟩
  rintro ⟨token', hadmits⟩
  obtain rfl : token = token' := Except.ok.inj (hbearer.symm.trans hadmits.bearer)
  have hok := (hvalidate ctx).mpr hadmits.source
  have hpair : validate options w.cache w.store token raw.sessionHeader env.now env.slot env.rpc =
      (.ok ctx, (validate options w.cache w.store token raw.sessionHeader env.now env.slot
        env.rpc).2) := Prod.ext hok rfl
  rw [hpair]
  simp only [(hrule ctx _).mpr hadmits.rule, Outcome.context?]

/-! ## The token and the session -/

/-- The token belongs to the session: signed by the auth service for the session of the header, and
not expired. -/
def TokenBound (raw : Request) (now : TimePoint) : Prop :=
  ∃ token claims, raw.sanitize.bearerToken = .ok token ∧ (token, claims) ∈ w.issued ∧
    now < claims.expiresAt ∧ Uuid.fromString raw.sessionHeader = some claims.sessionId

/-- **The binding holds for a request exactly when its token belongs to the session anyway, or the
perimeter refuses it for another reason.** -/
theorem passed_on_only_with_bound_token_iff (w : Perimeter) (policy : GatewaySecurityPolicy)
    (options : TokenValidatorOptions) (raw : Request) (env : RequestEnv)
    (hroute : (policy.evaluate raw.method raw.path).isPublic = false) :
    (∀ ctx, (w.process policy options raw env).1.context? = some ctx → TokenBound w raw env.now) ↔
      TokenBound w raw env.now ∨ ¬ ∃ token ctx, Admits w policy options raw env token ctx := by
  constructor
  · intro h
    by_cases hadmits : ∃ token ctx, Admits w policy options raw env token ctx
    · obtain ⟨token, ctx, hctx⟩ := hadmits
      exact .inl (h ctx ((process_admits_iff w policy options raw env hroute ctx).mpr ⟨token, hctx⟩))
    · exact .inr hadmits
  rintro (hbound | hnone) ctx hpassed
  · exact hbound
  obtain ⟨token, hctx⟩ := (process_admits_iff w policy options raw env hroute ctx).mp hpassed
  exact absurd ⟨token, ctx, hctx⟩ hnone

namespace Sample

def alice : Uuid := .ofByte 1
def phone : Uuid := .ofByte 2
def session : Uuid := .ofByte 3

def loggedIn : Perimeter :=
  Perimeter.login
    { cache := []
      store := { SessionStore.empty with
        devices := Function.update (fun _ => none) phone (some ⟨phone, alice, .active, 0⟩) }
      issued := [] }
    {} (fun _ => "header.claims.signature") 3600000 alice phone session (.ofByte 4) 0

def claims : AccessTokenClaims where
  issuer := "https://auth.securecloud.io"
  audience := "https://gateway.securecloud.io"
  userId := alice
  deviceId := phone
  sessionId := session
  issuedAt := 0
  expiresAt := 900000
  jti := .ofByte 4
  scopes := ["access", "files:read", "files:write"]
  tokenVersion := 1
  authenticationLevel := .primaryOnly

def policy : GatewaySecurityPolicy :=
  GatewaySecurityPolicy.addEntry {} (scopedRoute "GET" "/api/v1/messages/inbox" "messages:read")

def inbox (token : String) : Request where
  method := "GET"
  path := "/api/v1/messages/inbox"
  headers := [("Authorization", "Bearer " ++ token), ("X-Session-Id", session.toString)]

def env : RequestEnv where
  now := 1000
  rpc := { now := 1000 }

end Sample

open Sample

/-- With her own token, `alice` gets through as she should. -/
theorem passed_on_with_own_token :
    ((loggedIn.process policy {} (inbox "header.claims.signature")
        env).1.context?.map (·.userId)) = some alice.toString ∧
      ∀ ctx, (loggedIn.process policy {} (inbox "header.claims.signature")
          env).1.context? = some ctx →
        TokenBound loggedIn (inbox "header.claims.signature") env.now := by
  refine ⟨by decide, ?_⟩
  refine (passed_on_only_with_bound_token_iff loggedIn policy {}
    (inbox "header.claims.signature") env (by decide)).mpr (.inl ?_)
  exact ⟨"header.claims.signature", claims, by decide, by decide, by decide,
    by decide⟩

/-- **With any other text for a token, and the id of her session, anybody gets through as `alice`.** -/
theorem garbage_token_passes_with_session_id :
    ((loggedIn.process policy {} (inbox "garbage") env).1.context?.map
        (·.userId)) = some alice.toString ∧
      ¬ TokenBound loggedIn (inbox "garbage") env.now := by
  refine ⟨by decide, ?_⟩
  rintro ⟨token, claims, hbearer, hissued, -⟩
  have hgarbage : (inbox "garbage").sanitize.bearerToken = .ok "garbage" := by decide
  obtain rfl : "garbage" = token := Except.ok.inj (hgarbage.symm.trans hbearer)
  have hsigned : loggedIn.issued.map (·.1) = ["header.claims.signature"] := by decide
  have hmem : "garbage" ∈ loggedIn.issued.map (·.1) := List.mem_map.mpr ⟨_, hissued, rfl⟩
  rw [hsigned] at hmem
  exact absurd hmem (by decide)

end SecureCloud.Gateway
