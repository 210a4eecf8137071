import SecureCloud.Auth.Domain

/-
# Gateway.Policy — scopes and route security rules

`ScopeMatcher`, `RouteSecurityRule` and `GatewaySecurityPolicy`. A path is looked up as an exact
route, then against the parameterized patterns in the order they were registered, then against the
prefixes, longest first; what no rule covers is `Protected`.
-/

namespace SecureCloud.Gateway

open List

/-! ## `ScopeMatcher` -/

/-- `matches`: `*` grants everything, `domain:*` every action of the domain. -/
def scopeMatches (granted required : String) : Bool :=
  let g := granted.toList
  let r := required.toList
  if g = [] ∨ r = [] then false
  else if granted = "*" then true
  else if granted = required then true
  else if 3 ≤ g.length ∧ g.drop (g.length - 2) = [':', '*'] then
    let domain := g.take (g.length - 2)
    if domain = [] ∨ '*' ∈ domain then false
    else decide (domain.length + 1 < r.length ∧ r.take domain.length = domain ∧
      r[domain.length]? = some ':')
  else false

def hasScope (granted : List String) (required : String) : Bool :=
  if required = "" then false else granted.any fun g => scopeMatches g required

def hasAllScopes (granted required : List String) : Bool := required.all (hasScope granted)

def hasAnyScope (granted alternatives : List String) : Bool :=
  alternatives.isEmpty || alternatives.any (hasScope granted)

def findMissingScopes (granted required : List String) : List String :=
  required.filter fun r => !hasScope granted r

/-! ## Rules -/

/-- `AuthenticationLevel` of `auth.proto`. -/
inductive AuthLevel
  | unspecified
  | primary
  | mfaVerified
deriving DecidableEq

def AuthLevel.toNat : AuthLevel → Nat
  | unspecified => 0
  | primary => 1
  | mfaVerified => 2

structure AuthenticatedContext where
  userId : String
  deviceId : String
  sessionId : String
  authenticationLevel : AuthLevel
  scopes : List String
  expiresAtEpochMs : Int

def AuthenticatedContext.isMfaVerified (ctx : AuthenticatedContext) : Bool :=
  ctx.authenticationLevel == .mfaVerified

inductive RouteAccess
  | isPublic
  | isProtected
  | sensitive
deriving DecidableEq

structure RouteSecurityRule where
  access : RouteAccess := .isProtected
  minAuthLevel : AuthLevel := .primary
  requiredScopes : List String := []
  alternativeScopes : List String := []
  requireDeviceBound : Bool := false

def RouteSecurityRule.isPublic (rule : RouteSecurityRule) : Bool := rule.access == .isPublic

def RouteSecurityRule.requiresMfa (rule : RouteSecurityRule) : Bool :=
  rule.access == .sensitive || rule.minAuthLevel == .mfaVerified

def RouteSecurityRule.scopesSatisfied (rule : RouteSecurityRule) (scopes : List String) : Bool :=
  let required :=
    if !rule.requiredScopes.isEmpty then hasAllScopes scopes rule.requiredScopes
    else rule.alternativeScopes.isEmpty
  required || (!rule.alternativeScopes.isEmpty && hasAnyScope scopes rule.alternativeScopes)

def RouteSecurityRule.satisfies (rule : RouteSecurityRule) (ctx : AuthenticatedContext) : Bool :=
  if rule.isPublic then true
  else if rule.requiresMfa && !ctx.isMfaVerified then false
  else if ctx.authenticationLevel.toNat < rule.minAuthLevel.toNat then false
  else if rule.requireDeviceBound && ctx.deviceId == "" then false
  else rule.scopesSatisfied ctx.scopes

/-! ## Patterns and paths -/

inductive PatternItem
  | lit (c : Char)
  | param

def isWordChar (c : Char) : Bool := c.isAlphanum || c == '_'

/-- `compile_pattern_regex`: `:name` and `\x7bname\x7d` stand for one or more characters but `/`, all else
for itself. `fuel` bounds the characters left. -/
def compileItems : Nat → List Char → List PatternItem
  | 0, _ => []
  | _, [] => []
  | fuel + 1, c :: cs =>
    if c = ':' ∧ cs.head?.any isWordChar then .param :: compileItems fuel (cs.dropWhile isWordChar)
    else if c = '\x7b' ∧ '\x7d' ∈ cs then
      .param :: compileItems fuel ((cs.dropWhile (· ≠ '\x7d')).drop 1)
    else .lit c :: compileItems fuel cs

variable (pattern : String)

def compilePattern : List PatternItem :=
  compileItems pattern.toList.length pattern.toList

def matchItems : List PatternItem → List Char → Bool
  | [], cs => cs.isEmpty
  | .lit _ :: _, [] => false
  | .lit c :: items, d :: cs => c == d && matchItems items cs
  | .param :: items, cs => (List.range cs.length).any fun n =>
      (cs.take (n + 1)).all (· != '/') && matchItems items (cs.drop (n + 1))

def isParameterizedPattern : Bool :=
  pattern.toList.contains ':' || pattern.toList.contains '\x7b'

/-- `normalize_path`: no query, a leading slash, no trailing one. -/
def normalizePath (rawPath : String) : String :=
  if rawPath = "" then "/"
  else
    let cs := rawPath.toList.takeWhile (· ≠ '?')
    let cs := if cs.head? = some '/' then cs else '/' :: cs
    String.ofList (if 1 < cs.length ∧ cs.getLast? = some '/' then cs.dropLast else cs)

/-! ## `GatewaySecurityPolicy` -/

structure PrefixRule where
  method : String
  pathPrefix : List Char
  rule : RouteSecurityRule

structure ParameterizedRule where
  method : String
  items : List PatternItem
  rule : RouteSecurityRule

structure GatewaySecurityPolicy where
  exactRules : List (String × RouteSecurityRule) := []
  prefixRules : List PrefixRule := []
  parameterizedRules : List ParameterizedRule := []

def makeExactKey (method path : String) : String := method ++ " " ++ path

variable (p : GatewaySecurityPolicy)

/-- `add_rule`. A pattern that ends in `/*` is a prefix; prefixes are kept longest first, among equals in
order of registration. -/
def GatewaySecurityPolicy.addRule (method pattern : String)
    (rule : RouteSecurityRule) : GatewaySecurityPolicy :=
  let cs := pattern.toList
  if 2 ≤ cs.length ∧ cs.drop (cs.length - 2) = ['/', '*'] then
    let added := p.prefixRules ++ [PrefixRule.mk method cs.dropLast rule]
    { p with prefixRules :=
        added.insertionSort fun a b => b.pathPrefix.length ≤ a.pathPrefix.length }
  else if isParameterizedPattern pattern then
    { p with parameterizedRules := p.parameterizedRules ++ [⟨method, compilePattern pattern, rule⟩] }
  else
    let key := makeExactKey method (normalizePath pattern)
    { p with exactRules := (key, rule) :: p.exactRules.filter (·.1 ≠ key) }

/-- The overload that resolves an unspecified level from the access category. -/
def resolveAuthLevel (access : RouteAccess) (level : AuthLevel) : AuthLevel :=
  match level, access with
  | .unspecified, .isPublic => .unspecified
  | .unspecified, .sensitive => .mfaVerified
  | .unspecified, .isProtected => .primary
  | level, _ => level

def methodApplies (ruleMethod method : String) : Bool := ruleMethod == "*" || ruleMethod == method

/-- A prefix rule covers the paths below it and the collection itself. -/
def PrefixRule.covers (r : PrefixRule) (method : String) (path : List Char) : Bool :=
  methodApplies r.method method && (r.pathPrefix.isPrefixOf path ||
      (r.pathPrefix.getLast? == some '/' && decide (1 < r.pathPrefix.length) &&
        path == r.pathPrefix.dropLast))

def GatewaySecurityPolicy.evaluate (method rawPath : String) :
    RouteSecurityRule :=
  let path := normalizePath rawPath
  match p.exactRules.lookup (makeExactKey method path) with
  | some rule => rule
  | none =>
  match p.exactRules.lookup (makeExactKey "*" path) with
  | some rule => rule
  | none =>
  match p.parameterizedRules.find? fun r =>
      methodApplies r.method method && matchItems r.items path.toList with
  | some r => r.rule
  | none =>
  match p.prefixRules.find? fun r => r.covers method path.toList with
  | some r => r.rule
  | none => {}

/-! ## `create_default` -/

/-- A call of `add_rule` with the access category spelled out. -/
structure RouteEntry where
  method : String
  pattern : String
  access : RouteAccess
  requiredScopes : List String := []
  minAuthLevel : AuthLevel := .unspecified
  alternativeScopes : List String := []
  requireDeviceBound : Bool := false
deriving DecidableEq

def GatewaySecurityPolicy.addEntry (e : RouteEntry) :
    GatewaySecurityPolicy :=
  p.addRule e.method e.pattern
    { access := e.access, minAuthLevel := resolveAuthLevel e.access e.minAuthLevel
      requiredScopes := e.requiredScopes, alternativeScopes := e.alternativeScopes
      requireDeviceBound := e.requireDeviceBound }

def publicRoutes : List RouteEntry :=
  [⟨"GET", "/health/live", .isPublic, [], .unspecified, [], false⟩,
   ⟨"GET", "/health/ready", .isPublic, [], .unspecified, [], false⟩,
   ⟨"POST", "/api/v1/auth/register", .isPublic, [], .unspecified, [], false⟩,
   ⟨"POST", "/api/v1/auth/login", .isPublic, [], .unspecified, [], false⟩,
   ⟨"POST", "/api/v1/auth/refresh", .isPublic, [], .unspecified, [], false⟩]

def mfaRoute (method pattern : String) : RouteEntry :=
  ⟨method, pattern, .sensitive, [], .mfaVerified, [], false⟩

def primaryRoute (method pattern : String) : RouteEntry :=
  ⟨method, pattern, .isProtected, [], .primary, [], false⟩

def scopedRoute (method pattern scope : String) : RouteEntry :=
  ⟨method, pattern, .isProtected, [scope], .unspecified, [], false⟩

def protectedRoutes : List RouteEntry :=
  [⟨"POST", "/api/v1/auth/device/register", .sensitive, ["device:manage"], .mfaVerified,
      ["auth:device:register"], true⟩,
   ⟨"*", "/api/v1/auth/security/*", .sensitive, ["auth:keys:rotate"], .mfaVerified, [], false⟩,
   mfaRoute "POST" "/api/v1/auth/mfa/disable",
   mfaRoute "POST" "/api/v1/auth/devices/revoke",
   mfaRoute "DELETE" "/api/v1/user/delete",
   mfaRoute "*" "/api/v1/admin/*",
   mfaRoute "POST" "/api/v1/devices/register",
   mfaRoute "POST" "/api/v1/devices/authorize",
   mfaRoute "POST" "/api/v1/devices/:device_id/authorize",
   mfaRoute "POST" "/api/v1/devices/revoke",
   mfaRoute "POST" "/api/v1/devices/:device_id/revoke",
   mfaRoute "DELETE" "/api/v1/devices/*",
   mfaRoute "DELETE" "/api/v1/devices/:device_id",
   primaryRoute "POST" "/api/v1/devices/pairing",
   primaryRoute "POST" "/api/v1/devices/pair",
   primaryRoute "GET" "/api/v1/devices",
   primaryRoute "GET" "/api/v1/devices/:device_id",
   primaryRoute "GET" "/api/v1/devices/*",
   mfaRoute "POST" "/api/v1/auth/devices/register",
   mfaRoute "POST" "/api/v1/auth/devices/authorize",
   primaryRoute "GET" "/api/v1/auth/devices",
   primaryRoute "GET" "/api/v1/auth/devices/*",
   primaryRoute "GET" "/api/v1/users/:user_id/devices/crypto-directory",
   primaryRoute "GET" "/api/v1/devices/:device_id/crypto-identity",
   primaryRoute "POST" "/api/v1/devices/:device_id/prekeys",
   primaryRoute "GET" "/api/v1/devices/:device_id/prekeys/inventory",
   primaryRoute "POST" "/api/v1/devices/:device_id/prekeys/claim",
   ⟨"POST", "/api/v1/auth/revoke", .isProtected, ["auth:revoke"], .primary, ["access"], false⟩,
   ⟨"GET", "/api/v1/auth/me", .isProtected, ["user:profile"], .primary, ["auth:profile"], false⟩,
   primaryRoute "POST" "/api/v1/auth/mfa/enroll",
   primaryRoute "POST" "/api/v1/auth/mfa/confirm",
   primaryRoute "POST" "/api/v1/auth/mfa/verify",
   primaryRoute "POST" "/api/v1/auth/mfa/challenge",
   ⟨"POST", "/api/v1/messages/send", .isProtected, ["messages:send"], .primary,
      ["messages:write"], false⟩,
   scopedRoute "GET" "/api/v1/messages/inbox" "messages:read",
   scopedRoute "GET" "/api/v1/messages/history" "messages:read",
   scopedRoute "GET" "/api/v1/messages/*" "messages:read",
   scopedRoute "*" "/api/v1/messages/*" "messages:read",
   ⟨"POST", "/api/v1/files/upload", .isProtected, ["files:upload"], .primary, ["files:write"], false⟩,
   scopedRoute "GET" "/api/v1/files/download" "files:read",
   scopedRoute "DELETE" "/api/v1/files/delete" "files:delete",
   scopedRoute "GET" "/api/v1/files/*" "files:read",
   scopedRoute "*" "/api/v1/files/*" "files:read",
   ⟨"GET", "/api/v1/audit/logs", .sensitive, ["audit:read"], .mfaVerified, [], false⟩,
   ⟨"*", "/api/v1/audit/*", .sensitive, ["audit:read"], .mfaVerified, [], false⟩]

def GatewaySecurityPolicy.createDefault : GatewaySecurityPolicy :=
  (publicRoutes ++ protectedRoutes).foldl addEntry {}

/-! ## What `evaluate` returns

Exact routes go before patterns and patterns before prefixes, but in any case the rule is that of an entry
that APPLIES to the request. Where only one entry applies, that settles it. -/

variable (e : RouteEntry)

def RouteEntry.rule : RouteSecurityRule where
  access := e.access
  minAuthLevel := resolveAuthLevel e.access e.minAuthLevel
  requiredScopes := e.requiredScopes
  alternativeScopes := e.alternativeScopes
  requireDeviceBound := e.requireDeviceBound

def isPrefixPattern : Bool :=
  let cs := pattern.toList
  2 ≤ cs.length ∧ cs.drop (cs.length - 2) = ['/', '*']

def RouteEntry.prefixRule : PrefixRule :=
  ⟨e.method, e.pattern.toList.dropLast, e.rule⟩

def RouteEntry.parameterizedRule : ParameterizedRule :=
  ⟨e.method, compilePattern e.pattern, e.rule⟩

def RouteEntry.exactKey : String := makeExactKey e.method (normalizePath e.pattern)

def RouteEntry.Applies (method path : String) : Prop :=
  if isPrefixPattern e.pattern then e.prefixRule.covers method path.toList = true
  else if isParameterizedPattern e.pattern then
    (methodApplies e.method method && matchItems (compilePattern e.pattern) path.toList) = true
  else e.exactKey = makeExactKey method path ∨ e.exactKey = makeExactKey "*" path

structure Registered (entries : List RouteEntry) (p : GatewaySecurityPolicy) : Prop where
  prefixes : ∀ r, r ∈ p.prefixRules ↔
    ∃ e ∈ entries, isPrefixPattern e.pattern = true ∧ r = e.prefixRule
  patterns : ∀ r, r ∈ p.parameterizedRules ↔ ∃ e ∈ entries, isPrefixPattern e.pattern = false ∧
    isParameterizedPattern e.pattern = true ∧ r = e.parameterizedRule
  exact : ∀ key, p.exactRules.lookup key = none → ∀ e ∈ entries, isPrefixPattern e.pattern = false →
    isParameterizedPattern e.pattern = false → e.exactKey ≠ key
  exactRule : ∀ key rule, p.exactRules.lookup key = some rule → ∃ e ∈ entries,
    isPrefixPattern e.pattern = false ∧ isParameterizedPattern e.pattern = false ∧
    e.exactKey = key ∧ rule = e.rule

theorem lookup_assign {α β : Type*} [BEq α] [LawfulBEq α] [DecidableEq α] (k : α) (v : β)
    (l : List (α × β)) (key : α) :
    ((k, v) :: l.filter (·.1 ≠ k)).lookup key = if key = k then some v else l.lookup key := by
  rw [lookup_cons]
  by_cases hk : key = k
  · simp [hk]
  rw [if_neg hk, beq_false_of_ne hk]
  show (l.filter _).lookup key = l.lookup key
  induction l with
  | nil => rfl
  | cons a l ih =>
    by_cases ha : a.1 = k
    · have hne : (key == a.1) = false := beq_false_of_ne fun h => hk (h.trans ha)
      rw [filter_cons_of_neg (by simpa using ha), ih, lookup_cons, hne]
    · rw [filter_cons_of_pos (by simpa using ha), lookup_cons, lookup_cons, ih]

section
variable {entries : List RouteEntry} {p : GatewaySecurityPolicy} {e : RouteEntry}

open GatewaySecurityPolicy

theorem addEntry_eq : p.addEntry e =
    if isPrefixPattern e.pattern then { p with
      prefixRules := (p.prefixRules ++ [e.prefixRule]).insertionSort fun a b =>
        b.pathPrefix.length ≤ a.pathPrefix.length }
    else if isParameterizedPattern e.pattern then
      { p with parameterizedRules := p.parameterizedRules ++ [e.parameterizedRule] }
    else { p with exactRules := (e.exactKey, e.rule) :: p.exactRules.filter (·.1 ≠ e.exactKey) } := by
  simp only [addEntry, addRule, isPrefixPattern,
    decide_eq_true_eq]
  rfl

theorem lookup_exactRules_addEntry {key : String} : (p.addEntry e).exactRules.lookup key =
    if isPrefixPattern e.pattern = false ∧ isParameterizedPattern e.pattern = false ∧
      key = e.exactKey then some e.rule else p.exactRules.lookup key := by
  rw [addEntry_eq]
  cases isPrefixPattern e.pattern <;> cases isParameterizedPattern e.pattern
  · simpa using lookup_assign e.exactKey e.rule p.exactRules key
  all_goals simp

theorem Registered.addEntry (h : Registered entries p) (e : RouteEntry) :
    Registered (entries ++ [e]) (p.addEntry e) := by
  refine ⟨fun r => ?_, fun r => ?_, fun key hnone e' he' => ?_, fun key rule hsome => ?_⟩
  · rw [addEntry_eq]
    split_ifs with hbelow hparam <;>
      simp [mem_insertionSort, h.prefixes, or_and_right, exists_or, hbelow]
  · rw [addEntry_eq]
    split_ifs with hbelow hparam <;> simp [h.patterns, or_and_right, exists_or, *]
  · rw [lookup_exactRules_addEntry] at hnone
    split_ifs at hnone with hexact
    rcases mem_append.mp he' with he' | he'
    · exact h.exact key hnone e' he'
    · obtain rfl := mem_singleton.mp he'
      exact fun hbelow hparam hkey => hexact ⟨hbelow, hparam, hkey.symm⟩
  · rw [lookup_exactRules_addEntry] at hsome
    split_ifs at hsome with hexact
    · obtain ⟨hbelow, hparam, hkey⟩ := hexact
      exact ⟨e, by simp, hbelow, hparam, hkey.symm, (Option.some.inj hsome).symm⟩
    obtain ⟨e', he', hrest⟩ := h.exactRule key rule hsome
    exact ⟨e', mem_append_left _ he', hrest⟩

theorem Registered.foldl (h : Registered entries p) (more : List RouteEntry) :
    Registered (entries ++ more) (more.foldl GatewaySecurityPolicy.addEntry p) := by
  induction more generalizing entries p with
  | nil => simpa using h
  | cons e more ih =>
    have hstep := ih (h.addEntry e)
    rwa [append_assoc] at hstep

/-- `evaluate` returns the rule of an entry that applies, as soon as there is one. -/
theorem Registered.evaluate_applies (h : Registered entries p) {method rawPath : String}
    (happ : ∃ e ∈ entries, e.Applies method (normalizePath rawPath)) :
    ∃ e ∈ entries, e.Applies method (normalizePath rawPath) ∧
      p.evaluate method rawPath = e.rule := by
  unfold evaluate
  dsimp only
  split
  next rule hrule =>
    obtain ⟨e, he, hbelow, hparam, hkey, rfl⟩ := h.exactRule _ rule hrule
    exact ⟨e, he, by simp [RouteEntry.Applies, hbelow, hparam, hkey], rfl⟩
  rename_i hexact
  split
  next rule hrule =>
    obtain ⟨e, he, hbelow, hparam, hkey, rfl⟩ := h.exactRule _ rule hrule
    exact ⟨e, he, by simp [RouteEntry.Applies, hbelow, hparam, hkey], rfl⟩
  rename_i hany
  split
  next r hr =>
    obtain ⟨e, he, hbelow, hparam, rfl⟩ := (h.patterns r).mp (mem_of_find?_eq_some hr)
    refine ⟨e, he, ?_, rfl⟩
    have hmatch := find?_some hr
    simpa [RouteEntry.Applies, RouteEntry.parameterizedRule, hbelow, hparam] using hmatch
  rename_i hpatterns
  split
  next r hr =>
    obtain ⟨e, he, hbelow, rfl⟩ := (h.prefixes r).mp (mem_of_find?_eq_some hr)
    refine ⟨e, he, ?_, rfl⟩
    have hcovers := find?_some hr
    simpa [RouteEntry.Applies, hbelow] using hcovers
  -- no table has anything: then no entry applies
  rename_i hbelows
  obtain ⟨e, he, happ⟩ := happ
  exfalso
  unfold RouteEntry.Applies at happ
  split_ifs at happ with hbelow hparam
  · have hnot := find?_eq_none.mp hbelows _ ((h.prefixes _).mpr ⟨e, he, hbelow, rfl⟩)
    exact hnot happ
  · have hnot := find?_eq_none.mp hpatterns _
      ((h.patterns _).mpr ⟨e, he, by simpa using hbelow, hparam, rfl⟩)
    exact hnot happ
  rcases happ with hkey | hkey
  · exact h.exact _ hexact e he (by simpa using hbelow) (by simpa using hparam) hkey
  · exact h.exact _ hany e he (by simpa using hbelow) (by simpa using hparam) hkey

end

theorem registered_default :
    Registered (publicRoutes ++ protectedRoutes) GatewaySecurityPolicy.createDefault := by
  have hempty : Registered [] {} := ⟨by simp, by simp, by simp, by simp⟩
  exact hempty.foldl (publicRoutes ++ protectedRoutes)

/-! ## Literal heads

The first `n` characters of a pattern without a parameter or query there begin every path it covers. That
tells the services apart without running a match. -/

/-- The pattern starts with a slash, has no query, and its first `n` characters stand for
themselves. -/
def LiteralHead (n : Nat) (pattern : String) : Prop :=
  n + 2 ≤ pattern.toList.length ∧ pattern.toList.head? = some '/' ∧ '?' ∉ pattern.toList ∧
    ((pattern.toList.take n).all fun c => c ≠ ':' ∧ c ≠ '\x7b') = true

instance (n : Nat) (pattern : String) : Decidable (LiteralHead n pattern) := by
  unfold LiteralHead
  infer_instance

theorem compileItems_literal {n fuel : Nat} {cs : List Char} (hfuel : n ≤ fuel)
    (hlen : n ≤ cs.length) (hlit : ∀ c ∈ cs.take n, c ≠ ':' ∧ c ≠ '\x7b') :
    compileItems fuel cs = (cs.take n).map .lit ++ compileItems (fuel - n) (cs.drop n) := by
  induction n generalizing fuel cs with
  | zero => simp
  | succ n ih =>
    obtain ⟨fuel, rfl⟩ : ∃ k, fuel = k + 1 := ⟨fuel - 1, by omega⟩
    cases cs with
    | nil => simp at hlen
    | cons c cs =>
      have hc := hlit c (by simp)
      have hrest : compileItems fuel cs =
          (cs.take n).map .lit ++ compileItems (fuel - n) (cs.drop n) :=
        ih (by omega) (by simpa using hlen) (fun d hd => hlit d (by simp [hd]))
      show compileItems (fuel + 1) (c :: cs) = _
      rw [compileItems, if_neg (fun h => hc.1 h.1), if_neg (fun h => hc.2 h.1), hrest]
      simp

theorem matchItems_literal {ls cs : List Char} {items : List PatternItem} :
    matchItems (ls.map .lit ++ items) cs = true ↔
      ∃ rest, cs = ls ++ rest ∧ matchItems items rest = true := by
  induction ls generalizing cs with
  | nil => simp
  | cons l ls ih =>
    cases cs with
    | nil => simp [matchItems]
    | cons c cs =>
      show (l == c && matchItems (ls.map .lit ++ items) cs) = true ↔ _
      rw [Bool.and_eq_true, beq_iff_eq, ih]
      constructor
      · rintro ⟨rfl, rest, rfl, hrest⟩
        exact ⟨rest, rfl, hrest⟩
      rintro ⟨rest, heq, hrest⟩
      obtain ⟨rfl, rfl⟩ := cons.inj heq
      exact ⟨rfl, rest, rfl, hrest⟩

section
variable {n : Nat} {pattern : String}

section
variable (h : LiteralHead n pattern)
include h

theorem LiteralHead.literal :
    ∀ c ∈ pattern.toList.take n, c ≠ ':' ∧ c ≠ '\x7b' := by
  intro c hc
  simpa using all_eq_true.mp h.2.2.2 c hc

theorem LiteralHead.take_of_match {cs : List Char}
    (hm : matchItems (compilePattern pattern) cs = true) : cs.take n = pattern.toList.take n := by
  have hlen : n ≤ pattern.toList.length := by have := h.1; omega
  rw [compilePattern, compileItems_literal hlen hlen h.literal, matchItems_literal] at hm
  obtain ⟨rest, rfl, -⟩ := hm
  have hexact : (pattern.toList.take n).length = n := by simpa using hlen
  rw [take_left' hexact]

theorem LiteralHead.take_normalizePath :
    (normalizePath pattern).toList.take n = pattern.toList.take n := by
  obtain ⟨hlen, hhead, hquery, -⟩ := h
  have hne : pattern ≠ "" := by
    rintro rfl
    simp at hhead
  have hall : pattern.toList.takeWhile (· ≠ '?') = pattern.toList := by
    rw [takeWhile_eq_self_iff]
    intro c hc
    simpa using fun heq : c = '?' => hquery (heq ▸ hc)
  unfold normalizePath
  rw [if_neg hne]
  simp only [hall, hhead, if_true, String.toList_ofList]
  split
  · rw [dropLast_eq_take, take_take, Nat.min_eq_left (by omega)]
  · rfl

theorem LiteralHead.take_of_covers {method : String} {rule : RouteSecurityRule} {m : String}
    {cs : List Char} (hc : (PrefixRule.mk method pattern.toList.dropLast rule).covers m cs = true) :
    cs.take n = pattern.toList.take n := by
  have hlen := h.1
  simp only [PrefixRule.covers, Bool.and_eq_true, Bool.or_eq_true, isPrefixOf_iff_prefix,
    beq_iff_eq] at hc
  rcases hc.2 with ⟨rest, rfl⟩ | ⟨-, rfl⟩
  · rw [take_append_of_le_length (by simp; omega), dropLast_eq_take, take_take,
      Nat.min_eq_left (by omega)]
  have hdrop : pattern.toList.dropLast.dropLast = pattern.toList.take (pattern.toList.length - 2) := by
    rw [dropLast_eq_take, dropLast_eq_take, take_take, length_take]
    congr 1
    omega
  rw [hdrop, take_take, Nat.min_eq_left (by omega)]

end

end

def ruleMethods : List String := ["GET", "POST", "DELETE", "*"]

theorem makeExactKey_inj {a b x y : String} (ha : a ∈ ruleMethods) (hb : b ∈ ruleMethods)
    (h : makeExactKey a x = makeExactKey b y) : a = b ∧ x = y := by
  have hchars := congrArg String.toList h
  simp only [makeExactKey, String.toList_append] at hchars
  simp only [ruleMethods, mem_cons, not_mem_nil, or_false] at ha hb
  -- of two different methods already the first characters differ
  rcases ha with rfl | rfl | rfl | rfl <;> rcases hb with rfl | rfl | rfl | rfl <;>
    simp [String.toList_inj] at hchars ⊢ <;> exact hchars

section
variable {e : RouteEntry} {m path : String} {n : Nat}

section
variable (h : e.Applies m path) (hentry : e.method ∈ ruleMethods) (hm : m ∈ ruleMethods)
include h hentry hm

theorem RouteEntry.Applies.method : methodApplies e.method m = true := by
  unfold RouteEntry.Applies at h
  split_ifs at h with hbelow hparam
  · simp only [PrefixRule.covers, Bool.and_eq_true] at h
    exact h.1
  · rw [Bool.and_eq_true] at h
    exact h.1
  rcases h with h | h
  · simp [methodApplies, (makeExactKey_inj hentry hm h).1]
  · simp [methodApplies, (makeExactKey_inj hentry (by decide) h).1]

theorem RouteEntry.Applies.exact (hany : e.method ≠ "*")
    (hbelow : isPrefixPattern e.pattern = false) (hparam : isParameterizedPattern e.pattern = false) :
    e.method = m ∧ normalizePath e.pattern = path := by
  simp only [RouteEntry.Applies, hbelow, hparam, Bool.false_eq_true, if_false] at h
  rcases h with h | h
  · exact makeExactKey_inj hentry hm h
  · exact absurd (makeExactKey_inj hentry (by decide) h).1 hany

theorem RouteEntry.Applies.head (hlit : LiteralHead n e.pattern) :
    path.toList.take n = e.pattern.toList.take n := by
  unfold RouteEntry.Applies at h
  split_ifs at h with hbelow hparam
  · exact hlit.take_of_covers h
  · rw [Bool.and_eq_true] at h
    exact hlit.take_of_match h.2
  rcases h with h | h
  · rw [← (makeExactKey_inj hentry hm h).2, hlit.take_normalizePath]
  · rw [← (makeExactKey_inj hentry (by decide) h).2, hlit.take_normalizePath]

end

end

/-- A prefix rule covers every raw path below its prefix: normalizing takes at most the last slash
away, and the collection itself is covered too. -/
theorem PrefixRule.covers_normalizePath {r : PrefixRule} {m path : String}
    (hmethod : methodApplies r.method m = true) (hhead : r.pathPrefix.head? = some '/')
    (hlast : r.pathPrefix.getLast? = some '/') (hlen : 1 < r.pathPrefix.length)
    (hquery : '?' ∉ r.pathPrefix) (h : r.pathPrefix <+: path.toList) :
    r.covers m (normalizePath path).toList = true := by
  obtain ⟨rest, hrest⟩ := h
  have hne : path ≠ "" := by
    rintro rfl
    simp only [String.toList_empty, append_eq_nil_iff] at hrest
    simp [hrest.1] at hlen
  have hall : ∀ c ∈ r.pathPrefix, decide (c ≠ '?') = true := by
    intro c hc
    simpa using fun heq : c = '?' => hquery (heq ▸ hc)
  have hcut : path.toList.takeWhile (· ≠ '?') = r.pathPrefix ++ rest.takeWhile (· ≠ '?') := by
    rw [← hrest, takeWhile_append_of_pos hall]
  have hslash : (r.pathPrefix ++ rest.takeWhile (· ≠ '?')).head? = some '/' := by
    rw [head?_append, hhead, Option.some_or]
  unfold normalizePath PrefixRule.covers
  rw [if_neg hne]
  simp only [hcut, hslash, if_true, String.toList_ofList, hmethod, Bool.true_and, hlast,
    beq_self_eq_true, hlen, decide_true, Bool.or_eq_true, isPrefixOf_iff_prefix, beq_iff_eq]
  split_ifs
  · by_cases hnil : rest.takeWhile (· ≠ '?') = []
    · right
      rw [hnil, append_nil]
    left
    rw [dropLast_append_of_ne_nil hnil]
    exact prefix_append _ _
  · exact .inl (prefix_append _ _)

end SecureCloud.Gateway
