import SecureCloud.Gateway.Policy

/-
# Gateway.PublicRoutes — what the default policy leaves open, and what it never does

Whatever the method and the path of a request are: it is public on the five public routes alone, and below
`/api/v1/admin/` and `/api/v1/audit/` the second factor is asked for. An exact route is found under one
text made of method and path. No registered method or path has a space, so there is only one way to read
such a text.
-/

namespace SecureCloud.Gateway

open List

theorem makeExactKey_inj_of_no_space {a b x y : String} (ha : ' ' ∉ a.toList) (hx : ' ' ∉ x.toList)
    (h : makeExactKey b y = makeExactKey a x) : b = a ∧ y = x := by
  have hchars := congrArg String.toList h
  simp only [makeExactKey, String.toList_append] at hchars
  have hspace : (" " : String).toList = [' '] := rfl
  rw [hspace, append_assoc, append_assoc, singleton_append, singleton_append] at hchars
  obtain ⟨hmethod, -, hpath⟩ := (append_cons_inj_of_notMem ha hx).mp hchars.symm
  exact ⟨(String.toList_inj.mp hmethod).symm, (String.toList_inj.mp hpath).symm⟩

theorem default_entries : ∀ e ∈ publicRoutes ++ protectedRoutes, normalizePath e.pattern = e.pattern ∧
    ' ' ∉ e.method.toList ∧ ' ' ∉ e.pattern.toList := by
  decide

theorem RouteEntry.eq_of_exactKey {e : RouteEntry} {method path : String}
    (he : e ∈ publicRoutes ++ protectedRoutes) (h : e.exactKey = makeExactKey method path) :
    method = e.method ∧ path = e.pattern := by
  obtain ⟨hnormal, hmethod, hpattern⟩ := default_entries e he
  rw [RouteEntry.exactKey, hnormal] at h
  exact makeExactKey_inj_of_no_space hmethod hpattern h.symm

theorem public_entries : ∀ e ∈ publicRoutes ++ protectedRoutes, e.access = .isPublic →
    e ∈ publicRoutes ∧ e.method ≠ "*" ∧ isPrefixPattern e.pattern = false ∧
      isParameterizedPattern e.pattern = false := by
  decide

theorem public_pairs : ∀ e ∈ publicRoutes, ∀ e' ∈ publicRoutes ++ protectedRoutes,
    e'.method = e.method → e'.pattern = e.pattern → e'.access = .isPublic := by
  decide

/-- **The default policy is public on its five public routes and nowhere else**, whatever the method and
the path of a request are. -/
theorem evaluate_isPublic_iff (method rawPath : String) :
    (GatewaySecurityPolicy.createDefault.evaluate method rawPath).isPublic = true ↔
      ∃ e ∈ publicRoutes, method = e.method ∧ normalizePath rawPath = e.pattern := by
  have hreg := registered_default
  constructor
  · intro hpublic
    have hentry : ∀ e ∈ publicRoutes ++ protectedRoutes, e.rule.isPublic = true → _ :=
      fun e he hrule => public_entries e he
        (by simpa [RouteSecurityRule.isPublic, RouteEntry.rule] using hrule)
    unfold GatewaySecurityPolicy.evaluate at hpublic
    dsimp only at hpublic
    split at hpublic
    next rule hrule =>
      obtain ⟨e, he, -, -, hkey, rfl⟩ := hreg.exactRule _ rule hrule
      exact ⟨e, (hentry e he hpublic).1, RouteEntry.eq_of_exactKey he hkey⟩
    split at hpublic
    next rule hrule =>
      obtain ⟨e, he, -, -, hkey, rfl⟩ := hreg.exactRule _ rule hrule
      exact absurd (RouteEntry.eq_of_exactKey he hkey).1.symm (hentry e he hpublic).2.1
    split at hpublic
    next r hr =>
      obtain ⟨e, he, -, hparam, rfl⟩ := (hreg.patterns r).mp (mem_of_find?_eq_some hr)
      simp [(hentry e he hpublic).2.2.2] at hparam
    split at hpublic
    next r hr =>
      obtain ⟨e, he, hbelow, rfl⟩ := (hreg.prefixes r).mp (mem_of_find?_eq_some hr)
      simp [(hentry e he hpublic).2.2.1] at hbelow
    cases hpublic
  rintro ⟨e, he, rfl, hpath⟩
  have hmem : e ∈ publicRoutes ++ protectedRoutes := mem_append_left _ he
  obtain ⟨-, -, hbelow, hparam⟩ := public_entries e hmem (public_pairs e he e hmem rfl rfl)
  unfold GatewaySecurityPolicy.evaluate
  dsimp only
  split
  next rule hrule =>
    obtain ⟨e', he', -, -, hkey, rfl⟩ := hreg.exactRule _ rule hrule
    obtain ⟨hmethod, hpattern⟩ := RouteEntry.eq_of_exactKey he' hkey
    have := public_pairs e he e' he' hmethod.symm (hpattern.symm.trans hpath)
    simp [RouteSecurityRule.isPublic, RouteEntry.rule, this]
  next hnone =>
    refine absurd ?_ (hreg.exact _ hnone e hmem hbelow hparam)
    rw [RouteEntry.exactKey, (default_entries e hmem).1, hpath]

theorem default_heads : ∀ e ∈ publicRoutes ++ protectedRoutes,
    isPrefixPattern e.pattern = true ∨ isParameterizedPattern e.pattern = true →
      LiteralHead 13 e.pattern := by
  decide

theorem RouteEntry.Applies.default_head {e : RouteEntry} {method path : String}
    (h : e.Applies method path) (he : e ∈ publicRoutes ++ protectedRoutes) :
    path.toList.take 13 = e.pattern.toList.take 13 := by
  have hlit := default_heads e he
  unfold RouteEntry.Applies at h
  split_ifs at h with hbelow hparam
  · exact (hlit (.inl hbelow)).take_of_covers h
  · rw [Bool.and_eq_true] at h
    exact (hlit (.inr hparam)).take_of_match h.2
  rcases h with h | h <;> rw [(RouteEntry.eq_of_exactKey he h).2]

/-- The areas behind the second factor. -/
def mfaAreas : List RouteEntry :=
  [mfaRoute "*" "/api/v1/admin/*",
   ⟨"*", "/api/v1/audit/*", .sensitive, ["audit:read"], .mfaVerified, [], false⟩]

theorem sensitive_of_mfaArea : ∀ area ∈ mfaAreas, ∀ e ∈ publicRoutes ++ protectedRoutes,
    e.pattern.toList.take 13 = area.pattern.toList.take 13 → e.access = .sensitive := by
  decide

/-- **Nobody gets below `/api/v1/admin/` or `/api/v1/audit/` without the second factor**, whatever the
method and the rest of the path are: no other rule of the default policy is found first. -/
theorem mfa_of_admin_or_audit (ctx : AuthenticatedContext) (method rawPath : String)
    (harea : "/api/v1/admin/".toList <+: rawPath.toList ∨ "/api/v1/audit/".toList <+: rawPath.toList)
    (h : (GatewaySecurityPolicy.createDefault.evaluate method rawPath).satisfies ctx = true) :
    ctx.isMfaVerified = true := by
  have hcovered : ∃ area ∈ mfaAreas, area.Applies method (normalizePath rawPath) := by
    rcases harea with harea | harea
    · exact ⟨_, mem_cons_self,
        PrefixRule.covers_normalizePath rfl rfl rfl (by decide) (by decide) harea⟩
    · exact ⟨_, mem_cons_of_mem _ mem_cons_self,
        PrefixRule.covers_normalizePath rfl rfl rfl (by decide) (by decide) harea⟩
  obtain ⟨area, hmem, happ⟩ := hcovered
  have hentry : ∀ area ∈ mfaAreas, area ∈ publicRoutes ++ protectedRoutes := by decide
  obtain ⟨e, he, happ', heval⟩ := registered_default.evaluate_applies ⟨area, hentry area hmem, happ⟩
  have hsensitive := sensitive_of_mfaArea area hmem e he
    ((happ'.default_head he).symm.trans (happ.default_head (hentry area hmem)))
  rw [heval] at h
  simp only [RouteSecurityRule.satisfies, RouteSecurityRule.isPublic, RouteSecurityRule.requiresMfa,
    RouteEntry.rule, hsensitive] at h
  by_contra hnot
  simp [hnot] at h

theorem admin_needs_second_factor :
    (GatewaySecurityPolicy.createDefault.evaluate "PATCH" "/api/v1/admin/users?page=2").satisfies
      ⟨"u", "d", "s", .mfaVerified, ["*"], 0⟩ = true ∧
    AuthenticatedContext.isMfaVerified ⟨"u", "d", "s", .mfaVerified, ["*"], 0⟩ = true := by
  have h : (GatewaySecurityPolicy.createDefault.evaluate "PATCH" "/api/v1/admin/users?page=2").satisfies
      ⟨"u", "d", "s", .mfaVerified, ["*"], 0⟩ = true := by decide
  exact ⟨h, mfa_of_admin_or_audit _ _ _ (.inl (by decide)) h⟩

end SecureCloud.Gateway
