import SecureCloud.Gateway.Policy

/-
# Gateway.Routes — the router, and who gets past the policy

`Router` dispatches a request by method and RAW path: an exact route first, then the parameterized routes
in the order of registration. `GatewaySecurityPolicy` judges it on its own tables, by the NORMALIZED path.
What a scope protects is found out by following every route to a handler through the policy.
-/

namespace SecureCloud.Gateway

open List

/-! ## Handlers and the router -/

inductive WorkloadCategory
  | messaging
  | files
deriving DecidableEq

inductive Handler
  | healthLive
  | healthReady
  | login
  | refresh
  | revoke
  | getMe
  | registerDevice
  | getDeviceCryptoDirectory
  | getCryptoIdentity
  | updateCryptoPrekeys
  | getPrekeyInventory
  | claimDevicePrekey
  | initiateMfaEnrollment
  | confirmMfaEnrollment
  | verifyMfaChallenge
  | disableMfa
  | listDevices
  | getDevice
  | initiateDevicePairing
  | authorizeDevice
  | revokeDevice
  | uploadInit
  | uploadChunk
  | uploadFinalize
  | uploadCancel
  | getMetadata
  | downloadChunk
  | streamingDownload
  | deleteFile
  | sendMessage
  | acknowledgeDelivery
  | sendReadReceipt
  | getDeliveryStatus
  | createConversation
  | getConversation
  | listConversations
  | addParticipant
  | removeParticipant
  | leaveConversation
  | updateMetadata
  | syncMessages
  | getSyncCursor
  | updateSyncCursor
  | updatePresence
  | getPresence
  | batchGetPresence
  | stub (category : WorkloadCategory)
deriving DecidableEq

def Handler.writes : Handler → Bool
  | .sendMessage | .uploadInit | .uploadChunk | .uploadFinalize | .deleteFile => true
  | _ => false

/-- A call of `add_route`. -/
structure Route where
  method : String
  path : String
  handler : Handler
deriving DecidableEq

structure ParameterizedRoute where
  method : String
  items : List PatternItem
  handler : Handler

/-- `Router`; `pathMethods` is kept for the `Allow` header. -/
structure Router where
  routes : List ((String × String) × Handler) := []
  parameterizedRoutes : List ParameterizedRoute := []
  pathMethods : List (String × List String) := []

/-- `add_route`: a later exact route replaces an earlier one of the same method and path. -/
def Router.addRoute (r : Router) (route : Route) : Router :=
  let methods := (r.pathMethods.lookup route.path).getD [] ++ [route.method]
  let pathMethods := (route.path, methods) :: r.pathMethods.filter (·.1 ≠ route.path)
  if isParameterizedPattern route.path then
    { r with
      parameterizedRoutes :=
        r.parameterizedRoutes ++ [⟨route.method, compilePattern route.path, route.handler⟩]
      pathMethods := pathMethods }
  else
    { r with
      routes := ((route.method, route.path), route.handler) ::
        r.routes.filter (·.1 ≠ (route.method, route.path))
      pathMethods := pathMethods }

inductive Dispatch
  | handler (h : Handler)
  | methodNotAllowed (allow : List String)
  | notFound

/-- `dispatch_route`. The values of the path parameters are left to the handlers. -/
def Router.dispatchRoute (r : Router) (method path : String) : Dispatch :=
  match r.routes.lookup (method, path) with
  | some h => .handler h
  | none =>
  match r.parameterizedRoutes.find? fun p =>
      (p.method == method || p.method == "*") && matchItems p.items path.toList with
  | some p => .handler p.handler
  | none =>
  match r.pathMethods.lookup path with
  | some methods => .methodNotAllowed methods
  | none =>
    match r.parameterizedRoutes.filter fun p => matchItems p.items path.toList with
    | [] => .notFound
    | allowed => .methodNotAllowed (allowed.map (·.method))

/-! ## `register_all_routes` -/

def healthRoutes : List Route :=
  [⟨"GET", "/health/live", .healthLive⟩, ⟨"GET", "/health/ready", .healthReady⟩]

def authRoutes : List Route :=
  [⟨"POST", "/api/v1/auth/login", .login⟩, ⟨"POST", "/api/v1/auth/refresh", .refresh⟩,
   ⟨"POST", "/api/v1/auth/revoke", .revoke⟩,
   ⟨"GET", "/api/v1/users/me", .getMe⟩,
   ⟨"POST", "/api/v1/devices", .registerDevice⟩,
   ⟨"GET", "/api/v1/users/:user_id/devices/crypto-directory", .getDeviceCryptoDirectory⟩,
   ⟨"GET", "/api/v1/devices/:device_id/crypto-identity", .getCryptoIdentity⟩,
   ⟨"POST", "/api/v1/devices/:device_id/prekeys", .updateCryptoPrekeys⟩,
   ⟨"GET", "/api/v1/devices/:device_id/prekeys/inventory", .getPrekeyInventory⟩,
   ⟨"POST", "/api/v1/devices/:device_id/prekeys/claim", .claimDevicePrekey⟩,
   ⟨"POST", "/api/v1/auth/mfa/enroll", .initiateMfaEnrollment⟩,
   ⟨"POST", "/api/v1/auth/mfa/confirm", .confirmMfaEnrollment⟩,
   ⟨"POST", "/api/v1/auth/mfa/verify", .verifyMfaChallenge⟩,
   ⟨"POST", "/api/v1/auth/mfa/challenge", .verifyMfaChallenge⟩,
   ⟨"POST", "/api/v1/auth/mfa/disable", .disableMfa⟩,
   ⟨"GET", "/api/v1/devices", .listDevices⟩,
   ⟨"GET", "/api/v1/devices/:device_id", .getDevice⟩,
   ⟨"POST", "/api/v1/devices/pairing", .initiateDevicePairing⟩,
   ⟨"POST", "/api/v1/devices/pair", .initiateDevicePairing⟩,
   ⟨"POST", "/api/v1/devices/:device_id/authorize", .authorizeDevice⟩,
   ⟨"DELETE", "/api/v1/devices/:device_id", .revokeDevice⟩,
   ⟨"POST", "/api/v1/devices/:device_id/revoke", .revokeDevice⟩,
   ⟨"GET", "/api/v1/auth/me", .getMe⟩,
   ⟨"POST", "/api/v1/auth/device/register", .registerDevice⟩,
   ⟨"POST", "/api/v1/auth/logout", .revoke⟩]

def filesRoutes : List Route :=
  [⟨"POST", "/api/v1/files/upload/init", .uploadInit⟩,
   ⟨"POST", "/api/v1/files/upload/chunk", .uploadChunk⟩,
   ⟨"POST", "/api/v1/files/upload/finalize", .uploadFinalize⟩,
   ⟨"POST", "/api/v1/files/upload/cancel", .uploadCancel⟩,
   ⟨"GET", "/api/v1/files/:file_id/metadata", .getMetadata⟩,
   ⟨"GET", "/api/v1/files/:file_id/chunks/:chunk_index", .downloadChunk⟩,
   ⟨"GET", "/api/v1/files/:file_id/download", .streamingDownload⟩,
   ⟨"DELETE", "/api/v1/files/:file_id", .deleteFile⟩]

def messagingRoutes : List Route :=
  [⟨"POST", "/api/v1/messages", .sendMessage⟩, ⟨"POST", "/api/v1/messages/send", .sendMessage⟩,
   ⟨"POST", "/api/v1/messages/:id/ack", .acknowledgeDelivery⟩,
   ⟨"POST", "/api/v1/conversations/:conversationId/messages/:messageId/read", .sendReadReceipt⟩,
   ⟨"POST", "/v1/conversations/:conversationId/messages/:messageId/read", .sendReadReceipt⟩,
   ⟨"POST", "/api/v1/conversations/:conversation_id/messages/:message_id/read", .sendReadReceipt⟩,
   ⟨"POST", "/v1/conversations/:conversation_id/messages/:message_id/read", .sendReadReceipt⟩,
   ⟨"POST", "/api/v1/messages/:id/read", .sendReadReceipt⟩,
   ⟨"GET", "/api/v1/conversations/:conversationId/messages/:messageId/delivery-status",
      .getDeliveryStatus⟩,
   ⟨"GET", "/v1/conversations/:conversationId/messages/:messageId/delivery-status",
      .getDeliveryStatus⟩,
   ⟨"GET", "/api/v1/conversations/:conversation_id/messages/:message_id/delivery-status",
      .getDeliveryStatus⟩,
   ⟨"GET", "/v1/conversations/:conversation_id/messages/:message_id/delivery-status",
      .getDeliveryStatus⟩,
   ⟨"GET", "/api/v1/messages/:id/delivery-status", .getDeliveryStatus⟩,
   ⟨"POST", "/api/v1/conversations", .createConversation⟩,
   ⟨"GET", "/api/v1/conversations/:id", .getConversation⟩,
   ⟨"GET", "/api/v1/conversations", .listConversations⟩,
   ⟨"POST", "/api/v1/conversations/:id/participants", .addParticipant⟩,
   ⟨"DELETE", "/api/v1/conversations/:id/participants/:userId", .removeParticipant⟩,
   ⟨"POST", "/api/v1/conversations/:id/leave", .leaveConversation⟩,
   ⟨"PATCH", "/api/v1/conversations/:id/metadata", .updateMetadata⟩,
   ⟨"GET", "/api/v1/conversations/:id/messages", .syncMessages⟩,
   ⟨"GET", "/v1/conversations/:id/messages", .syncMessages⟩,
   ⟨"GET", "/api/v1/conversations/:conversationId/messages", .syncMessages⟩,
   ⟨"GET", "/v1/conversations/:conversationId/messages", .syncMessages⟩,
   ⟨"GET", "/api/v1/conversations/:conversation_id/messages", .syncMessages⟩,
   ⟨"GET", "/v1/conversations/:conversation_id/messages", .syncMessages⟩,
   ⟨"GET", "/api/v1/devices/:deviceId/cursor", .getSyncCursor⟩,
   ⟨"GET", "/v1/devices/:deviceId/cursor", .getSyncCursor⟩,
   ⟨"GET", "/api/v1/devices/:device_id/cursor", .getSyncCursor⟩,
   ⟨"GET", "/v1/devices/:device_id/cursor", .getSyncCursor⟩,
   ⟨"PUT", "/api/v1/devices/:deviceId/cursor", .updateSyncCursor⟩,
   ⟨"PUT", "/v1/devices/:deviceId/cursor", .updateSyncCursor⟩,
   ⟨"PUT", "/api/v1/devices/:device_id/cursor", .updateSyncCursor⟩,
   ⟨"PUT", "/v1/devices/:device_id/cursor", .updateSyncCursor⟩,
   ⟨"PUT", "/v1/users/:userId/presence", .updatePresence⟩,
   ⟨"PUT", "/api/v1/users/:userId/presence", .updatePresence⟩,
   ⟨"PUT", "/v1/users/:user_id/presence", .updatePresence⟩,
   ⟨"PUT", "/api/v1/users/:user_id/presence", .updatePresence⟩,
   ⟨"PUT", "/v1/presence/me", .updatePresence⟩,
   ⟨"PUT", "/api/v1/presence/me", .updatePresence⟩,
   ⟨"GET", "/v1/users/:userId/presence", .getPresence⟩,
   ⟨"GET", "/api/v1/users/:userId/presence", .getPresence⟩,
   ⟨"GET", "/v1/users/:user_id/presence", .getPresence⟩,
   ⟨"GET", "/api/v1/users/:user_id/presence", .getPresence⟩,
   ⟨"GET", "/v1/presence/me", .getPresence⟩,
   ⟨"GET", "/api/v1/presence/me", .getPresence⟩,
   ⟨"POST", "/v1/users/presence/batch", .batchGetPresence⟩,
   ⟨"POST", "/api/v1/users/presence/batch", .batchGetPresence⟩,
   ⟨"POST", "/v1/presence/batch", .batchGetPresence⟩,
   ⟨"POST", "/api/v1/presence/batch", .batchGetPresence⟩]

/-- The stubs come last: the one for `POST /api/v1/messages/send` REPLACES the messaging proxy's
handler. -/
def stubRoutes (filesProxy messagingProxy : Bool) : List Route :=
  [⟨"POST", "/api/v1/messages/send", .stub .messaging⟩,
   ⟨"GET", "/api/v1/messages/inbox", .stub .messaging⟩] ++
  (if messagingProxy then []
    else [⟨"GET", "/api/v1/messages/conversations", .stub .messaging⟩]) ++
  (if filesProxy then []
    else [⟨"POST", "/api/v1/files/upload", .stub .files⟩,
      ⟨"GET", "/api/v1/files/download", .stub .files⟩]) ++
  [⟨"GET", "/api/v1/audit/events", .stub .messaging⟩]

/-- Everything `register_all_routes` adds, for a gateway with or without the two proxies. -/
def allRoutes (filesProxy messagingProxy : Bool) : List Route :=
  healthRoutes ++ authRoutes ++ (if filesProxy then filesRoutes else []) ++
    (if messagingProxy then messagingRoutes else []) ++ stubRoutes filesProxy messagingProxy

def Router.registerAllRoutes (filesProxy messagingProxy : Bool) : Router :=
  (allRoutes filesProxy messagingProxy).foldl addRoute {}

/-- The handler an authenticated request gets to: the policy's rule is satisfied, then the router
decides. -/
def reachedHandler (policy : GatewaySecurityPolicy) (router : Router) (ctx : AuthenticatedContext)
    (method path : String) : Option Handler :=
  if (policy.evaluate method path).satisfies ctx then
    match router.dispatchRoute method path with
    | .handler h => some h
    | _ => none
  else none

/-! ## What the router dispatches to -/

variable (r : Route)

def Route.exactFor (method path : String) : Bool :=
  (r.method == method && r.path == path) && !isParameterizedPattern r.path

def Route.parameterized : ParameterizedRoute :=
  ⟨r.method, compilePattern r.path, r.handler⟩

section
variable {router : Router} {method path : String}

theorem addRoute_routes : (router.addRoute r).routes.lookup (method, path) =
      if r.exactFor method path then some r.handler else router.routes.lookup (method, path) := by
  unfold Router.addRoute Route.exactFor
  cases hparam : isParameterizedPattern r.path with
  | true => simp
  | false =>
    simp only [Bool.false_eq_true, if_false, lookup_assign, Prod.mk.injEq, Bool.not_false,
      Bool.and_true, Bool.and_eq_true, beq_iff_eq]
    simp only [eq_comm]

theorem addRoute_parameterizedRoutes :
    (router.addRoute r).parameterizedRoutes = router.parameterizedRoutes ++
      if isParameterizedPattern r.path then [r.parameterized] else [] := by
  unfold Router.addRoute
  cases isParameterizedPattern r.path with
  | true => rfl
  | false => simp

theorem foldl_routes (rs : List Route) :
    (rs.foldl Router.addRoute router).routes.lookup (method, path) =
      ((rs.filter (·.exactFor method path)).getLast?.map (·.handler)).or
        (router.routes.lookup (method, path)) := by
  induction rs generalizing router with
  | nil => simp
  | cons r rs ih =>
    rw [foldl_cons, ih, addRoute_routes, filter_cons]
    cases r.exactFor method path with
    | false => simp
    | true =>
      cases hlast : (rs.filter (·.exactFor method path)).getLast? with
      | none =>
        rw [getLast?_eq_none_iff] at hlast
        simp [hlast]
      | some last => simp [getLast?_cons, hlast]

theorem foldl_parameterizedRoutes (rs : List Route) :
    (rs.foldl Router.addRoute router).parameterizedRoutes = router.parameterizedRoutes ++
      (rs.filter (isParameterizedPattern ·.path)).map Route.parameterized := by
  induction rs generalizing router with
  | nil => simp
  | cons r rs ih =>
    rw [foldl_cons, ih, addRoute_parameterizedRoutes, filter_cons]
    split <;> simp

end

def exactRoute (rs : List Route) (method path : String) : Option Route :=
  (rs.filter (·.exactFor method path)).getLast?

def Route.matches (method path : String) : Bool :=
  (r.method == method || r.method == "*") && matchItems (compilePattern r.path) path.toList

def parameterizedRoute (rs : List Route) (method path : String) : Option Route :=
  (rs.filter (isParameterizedPattern ·.path)).find? (·.matches method path)

/-- `dispatch_route` on a router filled from a list: the exact route, else the first
parameterized one. -/
theorem dispatchRoute_eq_handler_iff {rs : List Route} {method path : String} {h : Handler} :
    (rs.foldl Router.addRoute {}).dispatchRoute method path = .handler h ↔
      (exactRoute rs method path).map (·.handler) = some h ∨ (exactRoute rs method path = none ∧
          (parameterizedRoute rs method path).map (·.handler) = some h) := by
  have hexact : (rs.foldl Router.addRoute {}).routes.lookup (method, path) =
      (exactRoute rs method path).map (·.handler) := by
    rw [foldl_routes]
    simp [exactRoute]
  have hparam : ((rs.foldl Router.addRoute {}).parameterizedRoutes.find? fun p =>
      (p.method == method || p.method == "*") && matchItems p.items path.toList) =
      (parameterizedRoute rs method path).map Route.parameterized := by
    rw [foldl_parameterizedRoutes, nil_append, find?_map]
    rfl
  unfold Router.dispatchRoute
  rw [hexact]
  cases exactRoute rs method path with
  | some r => simp
  | none =>
    simp only [Option.map_none, hparam]
    cases parameterizedRoute rs method path with
    | some r => simp [Route.parameterized]
    | none =>
      simp only [Option.map_none, reduceCtorEq, or_self, and_false, iff_false]
      split
      · simp
      · split <;> simp

end SecureCloud.Gateway
