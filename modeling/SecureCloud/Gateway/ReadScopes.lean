import SecureCloud.Gateway.Routes

/-
# Gateway.ReadScopes — what a caller with read scopes gets to

The default policy asks for `messages:send`, `files:upload` and `files:delete` on ONE path each. The
router knows the writing handlers under other paths, covered by the wildcard rule of their service, which
asks for the READ scope.
-/

namespace SecureCloud.Gateway

open List Option

/-! ## The routes to a writing handler -/

def uploadPaths : List String :=
  ["/api/v1/files/upload/init", "/api/v1/files/upload/chunk", "/api/v1/files/upload/finalize"]

def isFilePath (path : String) : Bool :=
  matchItems (compilePattern "/api/v1/files/:file_id") path.toList

section
variable {filesProxy messagingProxy : Bool} {method path : String}

def sendRoute : Route := ⟨"POST", "/api/v1/messages", .sendMessage⟩

def deleteRoute : Route := ⟨"DELETE", "/api/v1/files/:file_id", .deleteFile⟩

theorem writes_of_mem_allRoutes : ∀ filesProxy messagingProxy,
    ∀ r ∈ allRoutes filesProxy messagingProxy, r.handler.writes = true →
      (messagingProxy = true ∧ r = sendRoute) ∨
      (r.method = "POST" ∧ r.path = "/api/v1/messages/send") ∨
      (filesProxy = true ∧ r.method = "POST" ∧ r.path ∈ uploadPaths) ∨
      (filesProxy = true ∧ r = deleteRoute) := by
  decide

theorem exactRoute_messages : ∀ filesProxy,
    exactRoute (allRoutes filesProxy true) "POST" "/api/v1/messages" = some sendRoute := by
  decide

theorem exactRoute_messages_send : ∀ filesProxy messagingProxy,
    exactRoute (allRoutes filesProxy messagingProxy) "POST" "/api/v1/messages/send" =
      some ⟨"POST", "/api/v1/messages/send", .stub .messaging⟩ := by
  decide

theorem exactRoute_upload : ∀ messagingProxy, ∀ path ∈ uploadPaths,
    ((exactRoute (allRoutes true messagingProxy) "POST" path).map (·.handler.writes)) =
      some true := by
  decide

theorem exactRoute_delete (path : String) :
    exactRoute (allRoutes filesProxy messagingProxy) "DELETE" path = none := by
  have hall : ∀ f m, ∀ r ∈ allRoutes f m, r.method = "DELETE" →
      isParameterizedPattern r.path = true := by decide
  unfold exactRoute
  rw [getLast?_eq_none_iff, filter_eq_nil_iff]
  intro r hr hexact
  simp only [Route.exactFor, Bool.and_eq_true, beq_iff_eq, Bool.not_eq_true'] at hexact
  rw [hall _ _ r hr hexact.1.1] at hexact
  exact Bool.noConfusion hexact.2

theorem eq_deleteRoute : ∀ filesProxy messagingProxy, ∀ r ∈ allRoutes filesProxy messagingProxy,
    r.handler.writes = true → isParameterizedPattern r.path = true →
      filesProxy = true ∧ r = deleteRoute := by
  decide

theorem parameterizedRoute_file (messagingProxy : Bool) (hpath : isFilePath path = true) :
    ∃ r, parameterizedRoute (allRoutes true messagingProxy) "DELETE" path = some r ∧
      r.handler.writes = true := by
  have hdelete : ∀ m, ∀ r ∈ allRoutes true m, (r.method == "DELETE" || r.method == "*") = true →
      LiteralHead 9 r.path ∧
        (r.path.toList.take 9 = "/api/v1/f".toList → r.handler.writes = true) := by decide
  have hmem : deleteRoute ∈ (allRoutes true messagingProxy).filter
      (isParameterizedPattern ·.path) := by
    rw [mem_filter]
    exact ⟨by revert messagingProxy; decide, by decide⟩
  have hfound : (parameterizedRoute (allRoutes true messagingProxy) "DELETE" path).isSome = true := by
    rw [parameterizedRoute, find?_isSome]
    exact ⟨deleteRoute, hmem, hpath⟩
  obtain ⟨r, hr⟩ := isSome_iff_exists.mp hfound
  refine ⟨r, hr, ?_⟩
  have hmatches := find?_some hr
  rw [Route.matches, Bool.and_eq_true] at hmatches
  obtain ⟨hlit, hhead⟩ := hdelete messagingProxy r
    (mem_filter.mp (mem_of_find?_eq_some hr)).1 hmatches.1
  have hfile : LiteralHead 9 "/api/v1/files/:file_id" := by decide
  apply hhead
  rw [← hlit.take_of_match hmatches.2, hfile.take_of_match hpath]
  decide

/-- The requests the router gives to a writing handler. -/
theorem dispatches_write_iff :
    (∃ h, (Router.registerAllRoutes filesProxy messagingProxy).dispatchRoute method path =
        .handler h ∧ h.writes = true) ↔
      (messagingProxy = true ∧ method = "POST" ∧ path = "/api/v1/messages") ∨
      (filesProxy = true ∧ method = "POST" ∧ path ∈ uploadPaths) ∨
      (filesProxy = true ∧ method = "DELETE" ∧ isFilePath path = true) := by
  simp only [Router.registerAllRoutes, dispatchRoute_eq_handler_iff, map_eq_some_iff]
  constructor
  · rintro ⟨h, ⟨r, hroute, rfl⟩ | ⟨-, r, hroute, rfl⟩, hwrites⟩
    · -- an exact route: the stub has taken the place of one of them
      have hmem := mem_filter.mp (mem_of_getLast? hroute)
      have hfor := hmem.2
      simp only [Route.exactFor, Bool.and_eq_true, beq_iff_eq, Bool.not_eq_true'] at hfor
      obtain ⟨⟨rfl, rfl⟩, hparam⟩ := hfor
      rcases writes_of_mem_allRoutes _ _ r hmem.1 hwrites with ⟨hm, rfl⟩ | ⟨hm, hp⟩ | h | ⟨-, rfl⟩
      · exact .inl ⟨hm, rfl, rfl⟩
      · rw [hm, hp, exactRoute_messages_send] at hroute
        rw [← some.inj hroute] at hwrites
        exact Bool.noConfusion hwrites
      · exact .inr (.inl h)
      · exact absurd hparam (by decide)
    · have hmem := mem_filter.mp (mem_of_find?_eq_some hroute)
      have hmatches := find?_some hroute
      obtain ⟨hf, rfl⟩ := eq_deleteRoute _ _ r hmem.1 hwrites hmem.2
      simp only [Route.matches, deleteRoute, Bool.and_eq_true, Bool.or_eq_true, beq_iff_eq] at hmatches
      exact .inr (.inr ⟨hf, (hmatches.1.resolve_right (by decide)).symm, hmatches.2⟩)
  rintro (⟨rfl, rfl, rfl⟩ | ⟨rfl, rfl, hpath⟩ | ⟨rfl, rfl, hpath⟩)
  · exact ⟨_, .inl ⟨_, exactRoute_messages _, rfl⟩, rfl⟩
  · have hupload := exactRoute_upload messagingProxy path hpath
    rw [map_eq_some_iff] at hupload
    obtain ⟨r, hr, hwrites⟩ := hupload
    exact ⟨_, .inl ⟨r, hr, rfl⟩, hwrites⟩
  -- the first parameterized route for `DELETE` that matches is that of the files
  obtain ⟨r, hr, hhandler⟩ := parameterizedRoute_file messagingProxy hpath
  exact ⟨_, .inr ⟨exactRoute_delete path, r, hr, rfl⟩, hhandler⟩

/-! ## Their rules -/

def filesRule : RouteEntry := scopedRoute "*" "/api/v1/files/*" "files:read"

def messagesRule : RouteEntry := scopedRoute "*" "/api/v1/messages/*" "messages:read"

def deleteRule : RouteEntry := scopedRoute "DELETE" "/api/v1/files/delete" "files:delete"

deriving instance DecidableEq for RouteSecurityRule

theorem evaluate_fixed :
    let rule := GatewaySecurityPolicy.createDefault.evaluate
    rule "POST" "/api/v1/messages" = messagesRule.rule ∧
      rule "DELETE" "/api/v1/files/delete" = deleteRule.rule ∧
      ∀ path ∈ uploadPaths, rule "POST" path = filesRule.rule := by
  decide

theorem delete_entries : ∀ e ∈ publicRoutes ++ protectedRoutes, e.method ∈ ruleMethods ∧
    (methodApplies e.method "DELETE" = true → LiteralHead 9 e.pattern ∧
      (e.pattern.toList.take 9 = "/api/v1/f".toList → e = filesRule ∨ e = deleteRule)) := by
  decide

/-- The rule for `DELETE` below `/api/v1/files/`. -/
theorem evaluate_delete (hbelow : "/api/v1/files/".toList <+: path.toList)
    (hown : normalizePath path ≠ "/api/v1/files/delete") :
    GatewaySecurityPolicy.createDefault.evaluate "DELETE" path = filesRule.rule := by
  have happ : filesRule.Applies "DELETE" (normalizePath path) := by
    rw [RouteEntry.Applies, if_pos (by decide)]
    have hprefixRule : filesRule.prefixRule.pathPrefix = "/api/v1/files/".toList := by decide
    apply PrefixRule.covers_normalizePath rfl <;> rw [hprefixRule]
    · decide
    · decide
    · decide
    · decide
    · exact hbelow
  obtain ⟨e, he, hother, heval⟩ := registered_default.evaluate_applies ⟨filesRule, by decide, happ⟩
  obtain ⟨hentry, hdelete⟩ := delete_entries e he
  obtain ⟨hlit, hservice⟩ := hdelete (hother.method hentry (by decide))
  have hfiles : LiteralHead 9 filesRule.pattern := by decide
  have hhead : e.pattern.toList.take 9 = "/api/v1/f".toList := by
    rw [← hother.head hentry (by decide) hlit, happ.head (by decide) (by decide) hfiles]
    decide
  rcases hservice hhead with rfl | rfl
  · exact heval
  · have hexact := hother.exact (by decide) (by decide) (by decide) (by decide) (by decide)
    exact absurd (hexact.2.symm.trans (by decide)) hown

end

/-! ## What read scopes satisfy -/

def ReadsOnly (scopes : List String) : Prop :=
  ∀ scope ∈ scopes, scope = "messages:read" ∨ scope = "files:read"

open RouteSecurityRule

theorem scopedRoute_satisfies {method pattern scope : String} {ctx : AuthenticatedContext} :
    (scopedRoute method pattern scope).rule.satisfies ctx = true ↔
      ctx.authenticationLevel ≠ .unspecified ∧ hasScope ctx.scopes scope = true := by
  simp only [satisfies, RouteEntry.rule, scopedRoute,
    isPublic, requiresMfa, scopesSatisfied,
    resolveAuthLevel]
  cases ctx.authenticationLevel <;> simp [AuthLevel.toNat, hasAllScopes]

theorem ReadsOnly.hasScope_iff {scopes : List String} (h : ReadsOnly scopes) :
    ∀ scope ∈ ["messages:read", "files:read", "files:delete"],
      hasScope scopes scope = true ↔ scope ∈ scopes := by
  have hgrants : ∀ granted ∈ ["messages:read", "files:read"],
      ∀ scope ∈ ["messages:read", "files:read", "files:delete"],
      (scope = "" → False) ∧ (scopeMatches granted scope = true ↔ granted = scope) := by decide
  intro scope hscope
  have hne := (hgrants "files:read" (by simp) scope hscope).1
  rw [hasScope, if_neg hne, List.any_eq_true]
  constructor
  · rintro ⟨granted, hgranted, hmatches⟩
    have hread : granted ∈ ["messages:read", "files:read"] := by simpa using h granted hgranted
    exact ((hgrants granted hread scope hscope).2.mp hmatches) ▸ hgranted
  intro hmem
  have hread : scope ∈ ["messages:read", "files:read"] := by simpa using h scope hmem
  exact ⟨scope, hmem, (hgrants scope hread scope hscope).2.mpr rfl⟩

/-- The requests that let a reader write. The file called `delete` has a `DELETE` rule of its own. -/
def LeaksWrite (filesProxy messagingProxy : Bool) (ctx : AuthenticatedContext)
    (method path : String) : Prop :=
  ctx.authenticationLevel ≠ .unspecified ∧
    ((messagingProxy = true ∧ "messages:read" ∈ ctx.scopes ∧ method = "POST" ∧
        path = "/api/v1/messages") ∨
     (filesProxy = true ∧ "files:read" ∈ ctx.scopes ∧ method = "POST" ∧ path ∈ uploadPaths) ∨
     (filesProxy = true ∧ "files:read" ∈ ctx.scopes ∧ method = "DELETE" ∧ isFilePath path = true ∧
        normalizePath path ≠ "/api/v1/files/delete"))

instance (filesProxy messagingProxy : Bool) (ctx : AuthenticatedContext) (method path : String) :
    Decidable (LeaksWrite filesProxy messagingProxy ctx method path) :=
  inferInstanceAs (Decidable (_ ∧ _))

section
variable {filesProxy messagingProxy : Bool} {ctx : AuthenticatedContext} {method path : String}

theorem satisfies_messages (h : ReadsOnly ctx.scopes) :
    (GatewaySecurityPolicy.createDefault.evaluate "POST" "/api/v1/messages").satisfies ctx = true ↔
      ctx.authenticationLevel ≠ .unspecified ∧ "messages:read" ∈ ctx.scopes := by
  rw [evaluate_fixed.1, messagesRule, scopedRoute_satisfies, h.hasScope_iff _ (by simp)]

theorem satisfies_upload (h : ReadsOnly ctx.scopes) (hpath : path ∈ uploadPaths) :
    (GatewaySecurityPolicy.createDefault.evaluate "POST" path).satisfies ctx = true ↔
      ctx.authenticationLevel ≠ .unspecified ∧ "files:read" ∈ ctx.scopes := by
  rw [evaluate_fixed.2.2 path hpath, filesRule, scopedRoute_satisfies, h.hasScope_iff _ (by simp)]

open GatewaySecurityPolicy

theorem satisfies_delete (h : ReadsOnly ctx.scopes) (hpath : isFilePath path = true) :
    (createDefault.evaluate "DELETE" path).satisfies ctx = true ↔
      ctx.authenticationLevel ≠ .unspecified ∧ "files:read" ∈ ctx.scopes ∧
        normalizePath path ≠ "/api/v1/files/delete" := by
  by_cases hown : normalizePath path = "/api/v1/files/delete"
  · have hnone : "files:delete" ∉ ctx.scopes := by
      intro hmem
      rcases h _ hmem with heq | heq <;> exact absurd heq (by decide)
    have hsame : normalizePath path = normalizePath "/api/v1/files/delete" := hown.trans (by decide)
    have heval : createDefault.evaluate "DELETE" path = deleteRule.rule := by
      rw [← evaluate_fixed.2.1]
      simp only [evaluate, hsame]
    rw [heval, deleteRule, scopedRoute_satisfies, h.hasScope_iff _ (by simp)]
    simp [hown, hnone]
  have hlit : LiteralHead 14 "/api/v1/files/:file_id" := by decide
  have hbelow : "/api/v1/files/".toList <+: path.toList := by
    have htake := hlit.take_of_match hpath
    rw [show "/api/v1/files/:file_id".toList.take 14 = "/api/v1/files/".toList by
      decide] at htake
    exact htake ▸ take_prefix 14 path.toList
  rw [evaluate_delete hbelow hown, filesRule, scopedRoute_satisfies, h.hasScope_iff _ (by simp)]
  simp [hown]

/-- **Read scopes write exactly on the listed requests**: with or without each of the two proxies,
for every method and path. -/
theorem read_scopes_never_write_iff (h : ReadsOnly ctx.scopes) :
    (∀ handler, reachedHandler .createDefault (.registerAllRoutes filesProxy messagingProxy) ctx
        method path = some handler → handler.writes = false) ↔
      ¬ LeaksWrite filesProxy messagingProxy ctx method path := by
  rw [← not_iff_not, not_not]
  have hreached : (¬ ∀ handler, reachedHandler .createDefault
        (.registerAllRoutes filesProxy messagingProxy) ctx method path = some handler →
        handler.writes = false) ↔
      (createDefault.evaluate method path).satisfies ctx = true ∧
        ∃ handler, (Router.registerAllRoutes filesProxy messagingProxy).dispatchRoute method path =
          .handler handler ∧ handler.writes = true := by
    unfold reachedHandler
    split_ifs with hrule
    · simp only [hrule, true_and, not_forall, Bool.not_eq_false, exists_prop]
      cases (Router.registerAllRoutes filesProxy messagingProxy).dispatchRoute method path <;> simp
    · simp [hrule]
  rw [hreached, dispatches_write_iff, LeaksWrite]
  constructor
  · rintro ⟨hrule, ⟨hproxy, rfl, rfl⟩ | ⟨hproxy, rfl, hpath⟩ | ⟨hproxy, rfl, hpath⟩⟩
    · obtain ⟨hlevel, hscope⟩ := (satisfies_messages h).mp hrule
      exact ⟨hlevel, .inl ⟨hproxy, hscope, rfl, rfl⟩⟩
    · obtain ⟨hlevel, hscope⟩ := (satisfies_upload h hpath).mp hrule
      exact ⟨hlevel, .inr (.inl ⟨hproxy, hscope, rfl, hpath⟩)⟩
    obtain ⟨hlevel, hscope, hown⟩ := (satisfies_delete h hpath).mp hrule
    exact ⟨hlevel, .inr (.inr ⟨hproxy, hscope, rfl, hpath, hown⟩)⟩
  rintro ⟨hlevel, ⟨hproxy, hscope, rfl, rfl⟩ | ⟨hproxy, hscope, rfl, hpath⟩ |
    ⟨hproxy, hscope, rfl, hpath, hown⟩⟩
  · exact ⟨(satisfies_messages h).mpr ⟨hlevel, hscope⟩, .inl ⟨hproxy, rfl, rfl⟩⟩
  · exact ⟨(satisfies_upload h hpath).mpr ⟨hlevel, hscope⟩, .inr (.inl ⟨hproxy, rfl, hpath⟩)⟩
  exact ⟨(satisfies_delete h hpath).mpr ⟨hlevel, hscope, hown⟩,
    .inr (.inr ⟨hproxy, rfl, hpath⟩)⟩

end

/-! ## A reader who deletes a file -/

def readerContext : AuthenticatedContext :=
  ⟨"user", "device", "session", .primary, ["messages:read", "files:read"], 0⟩

theorem readerContext_readsOnly : ReadsOnly readerContext.scopes := by
  simp [ReadsOnly, readerContext]

/-- `DELETE /api/v1/files/report` reaches `delete_file`, on a gateway as `main` sets it up. -/
theorem reader_deletes_file :
    reachedHandler .createDefault (.registerAllRoutes true false) readerContext "DELETE"
      "/api/v1/files/report" = some .deleteFile := by
  have hpath : isFilePath "/api/v1/files/report" = true := by decide
  have hroute : parameterizedRoute (allRoutes true false) "DELETE" "/api/v1/files/report" =
      some deleteRoute := by decide
  have hrule : (GatewaySecurityPolicy.createDefault.evaluate "DELETE"
      "/api/v1/files/report").satisfies readerContext = true := by
    rw [satisfies_delete readerContext_readsOnly hpath]
    exact ⟨by decide, by decide, by decide⟩
  have hdispatch : (Router.registerAllRoutes true false).dispatchRoute "DELETE"
      "/api/v1/files/report" = .handler .deleteFile := by
    rw [Router.registerAllRoutes, dispatchRoute_eq_handler_iff]
    exact .inr ⟨exactRoute_delete _, by rw [hroute]; rfl⟩
  rw [reachedHandler, if_pos hrule, hdispatch]

/-- A reader gets to the metadata of a file, and to nothing that writes. -/
theorem reader_reads_metadata : ReadsOnly readerContext.scopes ∧
      ∀ handler, reachedHandler .createDefault (.registerAllRoutes true false) readerContext "GET"
        "/api/v1/files/report/metadata" = some handler → handler.writes = false :=
  ⟨readerContext_readsOnly, (read_scopes_never_write_iff readerContext_readsOnly).mpr (by decide)⟩

end SecureCloud.Gateway
