import SecureCloud.Gateway.Perimeter

/-
# Gateway.ValidationCache — how long a session that is gone is still let through

The perimeter over whole runs: requests in any order, and between them anything may happen to the sessions
of the auth service. A context that is passed on was confirmed by the auth service, for this request or
for an earlier one less than `cache_ttl` ago.
-/

namespace SecureCloud.Gateway

open Auth List

/-- A request, or a change in the auth service. -/
inductive PerimeterEvent
  | request (raw : Request) (env : RequestEnv)
  | sessions (store : SessionStore)

variable (policy : GatewaySecurityPolicy) (options : TokenValidatorOptions)

def Perimeter.handle (w : Perimeter) : PerimeterEvent → Perimeter
  | .request raw env => (w.process policy options raw env).2
  | .sessions store => { w with store := store }

def Perimeter.after (w : Perimeter) (events : List PerimeterEvent) : Perimeter :=
  events.foldl (Perimeter.handle policy options) w

variable {policy options}

/-- What the auth service confirms for a request, held for `cache_ttl` at most. -/
def CacheEntry.ConfirmedFor (entry : CacheEntry) (options : TokenValidatorOptions) (store : SessionStore)
    (sessionId : String) (env : RequestEnv) : Prop :=
  RemoteContext store sessionId env entry.context ∧ entry.validUntil ≤ env.now + options.cacheTtl

/-- **What is in the cache after a validation**: what was there, and what was just confirmed. -/
theorem mem_cache_of_validate {cache : Cache} {store : SessionStore} (token : String)
    {sessionId : String} (env : RequestEnv) {e : String × CacheEntry}
    (h : e ∈ (validate options cache store token sessionId env.now env.slot env.rpc).2.1) :
    e ∈ cache ∨ e.2.ConfirmedFor options store sessionId env := by
  have hkept : ∀ {key}, e ∈ (if 0 < options.cacheTtl then cache.filter (·.1 ≠ key) else cache) →
      e ∈ cache := by
    intro key he
    split at he
    · exact (mem_filter.mp he).1
    · exact he
  have hrpc := validateSessionRpc_ok_iff store env.rpc token sessionId
  unfold validate at h
  dsimp only at h
  split at h
  · exact .inl h
  split at h
  · exact .inl h
  split at h
  · exact .inl (hkept h)
  rename_i response store' hresponse
  rw [hresponse] at hrpc
  split at h
  · exact .inl (hkept h)
  rename_i hvalid
  split at h
  · exact .inl (hkept h)
  rename_i hexpiry
  obtain ⟨htransport, hfaults, id, session, hid, hlive, rfl⟩ :=
    (hrpc response).mp ⟨rfl, by simpa using hvalid⟩
  dsimp only at h
  split at h
  · rcases eq_or_mem_of_mem_insertIdx h with rfl | h
    · exact .inr ⟨⟨htransport, hfaults, id, session, hid, hlive, hexpiry, rfl⟩, min_le_left _ _⟩
    · exact .inl (mem_filter.mp (mem_filter.mp (mem_of_mem_drop h)).1).1
  · exact .inl h

theorem mem_cache_of_process {w : Perimeter} {raw : Request} {env : RequestEnv}
    {e : String × CacheEntry} (h : e ∈ (w.process policy options raw env).2.cache) :
    e ∈ w.cache ∨ e.2.ConfirmedFor options w.store raw.sessionHeader env := by
  unfold Perimeter.process at h
  dsimp only at h
  split at h
  · exact .inl h
  split at h
  · exact .inl h
  rename_i token _
  refine mem_cache_of_validate token env ?_
  split at h
  · rename_i hvalidate
    rwa [hvalidate]
  rename_i hvalidate
  rw [hvalidate]
  split at h <;> exact h

/-- Every entry of the cache is one that the auth service has confirmed for some request of the run. -/
theorem Perimeter.cached_confirmed (w₀ : Perimeter) (hempty : w₀.cache = [])
    (events : List PerimeterEvent) :
    ∀ e ∈ (w₀.after policy options events).cache, ∃ pre raw env,
      pre ++ [.request raw env] <+: events ∧
        e.2.ConfirmedFor options (w₀.after policy options pre).store raw.sessionHeader env := by
  induction events using reverseRecOn with
  | nil => simp [Perimeter.after, hempty]
  | append_singleton events event ih =>
    intro e he
    rw [Perimeter.after, foldl_append] at he
    have hmem : e ∈ (w₀.after policy options events).cache ∨ ∃ raw env, event = .request raw env ∧
        e.2.ConfirmedFor options (w₀.after policy options events).store raw.sessionHeader env := by
      cases event with
      | sessions store => exact .inl he
      | request raw env => exact (mem_cache_of_process he).imp_right fun h => ⟨raw, env, rfl, h⟩
    rcases hmem with hmem | ⟨raw, env, rfl, hconfirmed⟩
    · obtain ⟨pre, raw, env, hpre, hconfirmed⟩ := ih e hmem
      exact ⟨pre, raw, env, hpre.trans (prefix_append _ _), hconfirmed⟩
    · exact ⟨events, raw, env, prefix_rfl, hconfirmed⟩

/-- **A session that is gone is let through for `cache_ttl` at most**: whoever is passed on, the auth
service confirms the session for this very request, or has done so for one less than `cache_ttl` ago. -/
theorem passed_on_was_confirmed (w₀ : Perimeter) (hempty : w₀.cache = [])
    (events : List PerimeterEvent) (raw : Request) (env : RequestEnv) (ctx : AuthenticatedContext)
    (hpassed : ((w₀.after policy options events).process policy options raw env).1.context? = some ctx) :
    RemoteContext (w₀.after policy options events).store raw.sessionHeader env ctx ∨
      ∃ pre raw' env', pre ++ [.request raw' env'] <+: events ∧
        RemoteContext (w₀.after policy options pre).store raw'.sessionHeader env' ctx ∧
        env.now < env'.now + options.cacheTtl := by
  cases hroute : (policy.evaluate raw.method raw.path).isPublic with
  | true =>
    have hsame : policy.evaluate raw.sanitize.method raw.sanitize.path =
      policy.evaluate raw.method raw.path := rfl
    simp [Perimeter.process, hsame, hroute, Outcome.context?] at hpassed
  | false =>
    obtain ⟨token, hadmits⟩ := (process_admits_iff _ policy options raw env hroute ctx).mp hpassed
    rcases hadmits.source with hcached | ⟨-, hremote⟩
    · right
      unfold Cache.context? at hcached
      split at hcached
      · obtain ⟨e, he, hvalid⟩ := Option.bind_eq_some_iff.mp hcached
        split at hvalid
        · rename_i hnow
          cases hvalid
          obtain ⟨l₁, l₂, hsplit, -⟩ := lookup_eq_some_iff.mp he
          have hmem : (buildCacheKey token raw.sessionHeader, e) ∈
              (w₀.after policy options events).cache := by
            rw [hsplit]
            exact mem_append_right _ mem_cons_self
          obtain ⟨pre, raw', env', hpre, hconfirmed, huntil⟩ := w₀.cached_confirmed hempty events _ hmem
          exact ⟨pre, raw', env', hpre, hconfirmed, hnow.trans_le huntil⟩
        · cases hvalid
      · cases hcached
    · exact .inl hremote

namespace Sample

/-- `alice` has looked at her inbox, and her session is gone. -/
def goneAfterInbox : List PerimeterEvent :=
  [.request (inbox "header.claims.signature") env, .sessions SessionStore.empty]

/-- What the perimeter does with the same request four seconds later. -/
def outcomeAfterwards : Outcome :=
  ((loggedIn.after Sample.policy {} goneAfterInbox).process Sample.policy {}
    (inbox "header.claims.signature") { now := 5000, rpc := { now := 5000 } }).1

theorem passed_on_after_session_is_gone : ∃ ctx, outcomeAfterwards.context? = some ctx ∧
    ∃ pre raw env, pre ++ [.request raw env] <+: goneAfterInbox ∧
      RemoteContext (loggedIn.after Sample.policy {} pre).store raw.sessionHeader env ctx := by
  have hsome : outcomeAfterwards.context?.isSome = true := by decide
  obtain ⟨ctx, hctx⟩ := Option.isSome_iff_exists.mp hsome
  refine ⟨ctx, hctx, ?_⟩
  rcases passed_on_was_confirmed loggedIn rfl goneAfterInbox _ _ ctx hctx with h | h
  · obtain ⟨-, -, id, session, -, hlive, -⟩ := h
    cases hlive.1
  · obtain ⟨pre, raw, env, hpre, hremote, -⟩ := h
    exact ⟨pre, raw, env, hpre, hremote⟩

end Sample

end SecureCloud.Gateway
