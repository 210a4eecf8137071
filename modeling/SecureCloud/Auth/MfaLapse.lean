import SecureCloud.Auth.MfaSingleUse

/-
# Auth.MfaLapse — does an enrolled second factor stay required?

A user may have several configuration rows: `initiate_enrollment` adds one whenever the row it happens
to look at is not enabled, and none is ever removed. From a user without rows, the second factor stays
required from each confirmation to the next disabling IF AND ONLY IF every confirmation succeeds while
the user has a single row.
-/

namespace SecureCloud.Auth

open Lib Function MfaWorld List

/-! ## The end of `Authenticate` -/

structure AuthenticateResponse where
  sessionId : Uuid
  userId : Uuid
  mfaRequired : Bool
  mfaChallengeId : Option Uuid
  accessToken : Option AccessTokenClaims
  expiresAt : TimePoint

/-- The last part of `Authenticate`, with the default life of a challenge; `none` is an exception. -/
def MfaWorld.completeLogin (w : MfaWorld) (config : TokenManagerConfig) (session : SessionEntity)
    (pick : Nat) (freshId jti : Uuid) (now : TimePoint) : Option AuthenticateResponse × MfaWorld :=
  if w.isMfaEnabledForUser session.userId pick then
    match w.createChallenge session.userId session.sessionId .login 300000 freshId now with
    | (none, w') => (none, w')
    | (some challenge, w') => (some ⟨session.sessionId, session.userId, true,
        some challenge.challengeId, none, challenge.expiresAt⟩, w')
  else
    match config.accessTokenClaims session [] jti now with
    | none => (none, w)
    | some claims => (some ⟨session.sessionId, session.userId, false, none, some claims,
        claims.expiresAt⟩, w)

/-- The second factor is required: from a confirmation until a disabling the user is found enabled on
every row, and no login yields a token. -/
def MfaWorld.Required (user : Uuid) (w : MfaWorld) : Prop :=
  w.armed user = true → ∀ pick, w.isMfaEnabledForUser user pick = true ∧
    ∀ config session freshId jti now r, session.userId = user →
      (w.completeLogin config session pick freshId jti now).1 = some r → r.accessToken = none

variable {w w' : MfaWorld}

theorem completeLogin_of_enabled {session : SessionEntity} {pick : Nat}
    (h : w.isMfaEnabledForUser session.userId pick = true) {config : TokenManagerConfig}
    {freshId jti : Uuid} {now : TimePoint} {r : AuthenticateResponse}
    (hr : (w.completeLogin config session pick freshId jti now).1 = some r) :
    r.accessToken = none := by
  unfold completeLogin at hr
  rw [if_pos h] at hr
  split at hr
  · cases hr
  cases hr
  rfl

def ConfirmsAlone (env : MfaEnv) (user : Uuid) (w : MfaWorld) : MfaEvent → Prop
  | .confirm u code pick _ now => u = user → ∀ config ∈ w.findMfaConfigByUserId u pick,
      config.status = .pending → (env.matchedStep config code now).toOption.isSome →
      (w.rowsOf user).length = 1
  | _ => True

instance (env : MfaEnv) (user : Uuid) (w : MfaWorld) (e : MfaEvent) :
    Decidable (ConfirmsAlone env user w e) := by
  induction e using MfaEvent.casesOn <;> (dsimp only [ConfirmsAlone]; infer_instance)

/-! ## The rows of a user -/

variable {user : Uuid} {c : MfaConfigurationEntity} {env : MfaEnv}

theorem exists_pick_of_mem
    (h : c ∈ w.rowsOf user) : ∃ pick, w.findMfaConfigByUserId user pick = some c := by
  obtain ⟨i, hi, hget⟩ := mem_iff_getElem.mp h
  refine ⟨i, ?_⟩
  rw [findMfaConfigByUserId, Nat.mod_eq_of_lt hi, getElem?_eq_getElem hi, hget]

theorem find_of_rowsOf_singleton
    (h : w.rowsOf user = [c]) (pick : Nat) : w.findMfaConfigByUserId user pick = some c := by
  rw [findMfaConfigByUserId, h, length_singleton, Nat.mod_one]
  rfl

theorem rowsOf_append {config : MfaConfigurationEntity}
    (hconfigs : w'.configs = w.configs ++ [config]) (user : Uuid) :
    w'.rowsOf user = w.rowsOf user ++ if config.userId = user then [config] else [] := by
  rw [rowsOf, hconfigs, filter_append]
  congr 1
  by_cases huser : config.userId = user <;> simp [huser]

theorem enable_userId (now : TimePoint) (c : MfaConfigurationEntity) :
    (c.enable now).userId = c.userId := rfl

theorem disable_userId (now : TimePoint) (c : MfaConfigurationEntity) :
    (c.disable now).userId = c.userId := rfl

section Update

variable {w w' : MfaWorld} {config : MfaConfigurationEntity}
  {f : MfaConfigurationEntity → MfaConfigurationEntity} (huser : ∀ c, (f c).userId = c.userId)
  (hconfigs : w'.configs = w.configs.map fun c =>
    if c.configurationId = config.configurationId ∧ c.version = config.version then f c else c)

include huser hconfigs

theorem rowsOf_update (user : Uuid) :
    w'.rowsOf user = (w.rowsOf user).map fun c =>
      if c.configurationId = config.configurationId ∧ c.version = config.version then f c else c := by
  rw [rowsOf, hconfigs, filter_map, rowsOf]
  congr 1
  apply filter_congr
  intro c _
  show decide ((if _ then f c else c).userId = user) = decide (c.userId = user)
  split
  · rw [huser]
  · rfl

theorem rowsOf_update_other (henrolled : Enrolled w) (hmem : config ∈ w.configs)
    (hother : config.userId ≠ user) : w'.rowsOf user = w.rowsOf user := by
  rw [rowsOf_update huser hconfigs]
  refine (map_congr_left fun c hc => if_neg ?_).trans (map_id _)
  -- a row of the id would be the updated one, which is not this user's
  rintro ⟨hid, -⟩
  obtain ⟨hc, hcu⟩ := mem_filter.mp hc
  rw [henrolled.eq_of_id hc hmem hid] at hcu
  exact hother (of_decide_eq_true hcu)

theorem rowsOf_update_only (honly : w.rowsOf user = [config]) : w'.rowsOf user = [f config] := by
  rw [rowsOf_update huser hconfigs, honly, map_singleton, if_pos ⟨rfl, rfl⟩]

theorem mem_rowsOf_update (henrolled : Enrolled w) (hmem : config ∈ w.configs)
    (hc : c ∈ w.rowsOf user) (hne : c ≠ config) : c ∈ w'.rowsOf user := by
  rw [rowsOf_update huser hconfigs]
  refine mem_map.mpr ⟨c, hc, if_neg ?_⟩
  rintro ⟨hid, -⟩
  exact hne (henrolled.eq_of_id (mem_filter.mp hc).1 hmem hid)

end Update

/-! ## The invariant -/

structure Guarded (user : Uuid) (w : MfaWorld) : Prop where
  enrolled : Enrolled w
  only : w.armed user = true → ∃ c, w.rowsOf user = [c] ∧ c.status = .enabled
  off : w.armed user = false → ∀ c ∈ w.rowsOf user, c.status ≠ .enabled

theorem Guarded.congr (h : Guarded user w) (henrolled : Enrolled w')
    (hrows : w'.rowsOf user = w.rowsOf user) (harmed : w'.armed user = w.armed user) :
    Guarded user w' := by
  refine ⟨henrolled, ?_, ?_⟩
  · rw [harmed, hrows]
    exact h.only
  rw [harmed, hrows]
  exact h.off

theorem Guarded.required (h : Guarded user w) : w.Required user := by
  intro harmed pick
  obtain ⟨c, hrows, hstatus⟩ := h.only harmed
  have henabled : w.isMfaEnabledForUser user pick = true := by
    rw [isMfaEnabledForUser, find_of_rowsOf_singleton hrows pick]
    exact beq_iff_eq.mpr hstatus
  refine ⟨henabled, fun config session freshId jti now r huser hr => ?_⟩
  rw [← huser] at henabled
  exact completeLogin_of_enabled henabled hr

theorem MfaChanges.guarded_keeps {e : MfaEvent}
    (hchange : MfaChanges env w w' e) (halone : ConfirmsAlone env user w e) (h : Guarded user w) :
    Guarded user w' := by
  have henrolled := hchange.enrolled_keeps h.enrolled
  cases hchange with
  | silent _ hconfigs _ harmed | verified _ _ _ _ _ _ _ _ hconfigs _ harmed =>
    exact h.congr henrolled (by rw [rowsOf, hconfigs]; rfl) (by rw [harmed])
  | @enrolled u _ _ pick _ _ _ _ config hfree _ huser hpending hconfigs _ harmed =>
    have hrows := rowsOf_append hconfigs user
    by_cases hu : config.userId = user
    · -- the user is not armed: the row looked at was not enabled
      have hoff : w.armed user = false := by
        by_contra hon
        have hreq := (h.required (by simpa using hon) pick).1
        rw [← hu, huser, hfree] at hreq
        cases hreq
      rw [if_pos hu] at hrows
      refine ⟨henrolled, fun hon => ?_, fun _ c hc => ?_⟩
      · rw [harmed, hoff] at hon
        cases hon
      rw [hrows] at hc
      rcases mem_append.mp hc with hold | hnew
      · exact h.off hoff c hold
      rw [mem_singleton.mp hnew, hpending]
      decide
    · rw [if_neg hu, append_nil] at hrows
      exact h.congr henrolled hrows (by rw [harmed])
  | @confirmed u code pick codes now config step hfind hpending hstep hconfigs _ harmed =>
    have hmem := mem_of_findMfaConfigByUserId hfind
    by_cases hu : u = user
    · subst hu
      have hone := halone rfl config hfind hpending (by rw [hstep]; rfl)
      have honly : w.rowsOf u = [config] := by
        obtain ⟨c, hc⟩ := length_eq_one_iff.mp hone
        have heq := (find_of_rowsOf_singleton hc pick).symm.trans hfind
        rw [hc, Option.some.inj heq]
      refine ⟨henrolled, fun _ => ⟨config.enable now, ?_, rfl⟩, fun hoff => ?_⟩
      · exact rowsOf_update_only (enable_userId now) hconfigs honly
      rw [harmed, update_self] at hoff
      cases hoff
    refine h.congr henrolled ?_ ?_
    · exact rowsOf_update_other (enable_userId now) hconfigs h.enrolled hmem.1
        (by rw [hmem.2]; exact hu)
    · rw [harmed, update_of_ne (Ne.symm hu)]
  | @disabled u code pick now config step hfind henabled hstep hconfigs _ harmed =>
    have hmem := mem_of_findMfaConfigByUserId hfind
    by_cases hu : u = user
    · subst hu
      have hon : w.armed u = true := by
        by_contra hoff
        exact h.off (by simpa using hoff) config (mem_of_getElem? hfind) henabled
      obtain ⟨c, hrows, -⟩ := h.only hon
      have heq := Option.some.inj ((find_of_rowsOf_singleton hrows pick).symm.trans hfind)
      rw [heq] at hrows
      refine ⟨henrolled, fun hon' => ?_, fun _ c' hc' => ?_⟩
      · rw [harmed, update_self] at hon'
        cases hon'
      rw [rowsOf_update_only (disable_userId now) hconfigs hrows] at hc'
      rw [mem_singleton.mp hc']
      show MfaStatus.disabled ≠ .enabled
      decide
    refine h.congr henrolled ?_ ?_
    · exact rowsOf_update_other (disable_userId now) hconfigs h.enrolled hmem.1
        (by rw [hmem.2]; exact hu)
    · rw [harmed, update_of_ne (Ne.symm hu)]

/-! ## Where it breaks -/

theorem confirmEnrollment_succeeds {code : String}
    {pick : Nat} {now : TimePoint} {config : MfaConfigurationEntity} {step : Nat}
    (hfind : w.findMfaConfigByUserId user pick = some config) (hpending : config.status = .pending)
    (hstep : env.matchedStep config code now = .ok step) (codes : List String) :
    (w.confirmEnrollment env user code pick codes now).2.configs = (w.configs.map fun c =>
        if c.configurationId = config.configurationId ∧ c.version = config.version then c.enable now
        else c) ∧
      (w.confirmEnrollment env user code pick codes now).2.armed = update w.armed user true := by
  have hany : w.configs.any (fun c => c.configurationId = config.configurationId ∧
      c.version = config.version) = true :=
    any_eq_true.mpr ⟨config, (mem_of_findMfaConfigByUserId hfind).1, by simp⟩
  unfold confirmEnrollment
  simp only [hfind, hpending, hstep, updateConfig, hany, if_true]
  exact ⟨trivial, trivial⟩

/-- **A confirmation that does not find a single row leaves a row behind which the factor is off.** -/
theorem Guarded.lapses (h : Guarded user w) {e : MfaEvent} (hnot : ¬ ConfirmsAlone env user w e) :
    ∃ w', w.step env e = some w' ∧ ¬ w'.Required user := by
  cases e with
  | confirm u code pick codes now =>
    simp only [ConfirmsAlone, Classical.not_imp, not_forall] at hnot
    obtain ⟨rfl, config, hfind, hpending, hmatch, hlen⟩ := hnot
    refine ⟨_, rfl, fun hreq => ?_⟩
    obtain ⟨step, hstep⟩ : ∃ step, env.matchedStep config code now = .ok step := by
      cases hm : env.matchedStep config code now with
      | ok step => exact ⟨step, rfl⟩
      | error what =>
        rw [hm] at hmatch
        cases hmatch
    obtain ⟨hconfigs, harmed⟩ := confirmEnrollment_succeeds hfind hpending hstep codes
    have hrow : config ∈ w.rowsOf u := mem_of_getElem? hfind
    -- armed users have one row, so this one is not, and none of their rows is enabled
    have hoff : w.armed u = false := by
      by_contra hon
      obtain ⟨c, hrows, -⟩ := h.only (by simpa using hon)
      exact hlen (by rw [hrows]; rfl)
    obtain ⟨c, hc, hne⟩ : ∃ c ∈ w.rowsOf u, c ≠ config := by
      by_contra hall
      push Not at hall
      have hnodup : (w.rowsOf u).Nodup := (List.Nodup.of_map _ h.enrolled.keys).filter _
      refine hlen (length_eq_one_iff.mpr ⟨config, ?_⟩)
      exact perm_singleton.mp ((perm_ext_iff_of_nodup hnodup (nodup_singleton _)).mpr
        fun c => ⟨fun hc => mem_singleton.mpr (hall c hc),
          fun hc => mem_singleton.mp hc ▸ hrow⟩)
    have hc' := mem_rowsOf_update (enable_userId now) hconfigs h.enrolled
      (mem_of_findMfaConfigByUserId hfind).1 hc hne
    obtain ⟨other, hother⟩ := exists_pick_of_mem hc'
    have henabled := (hreq (by rw [harmed, update_self]) other).1
    rw [isMfaEnabledForUser, hother] at henabled
    exact h.off hoff c hc (beq_iff_eq.mp henabled)
  | initiate | disable | challenge | verify => exact absurd trivial hnot

/-- **The second factor lapses exactly when a confirmation succeeds beside another row.** For every user who
starts without configuration, and every sequence of calls with any choice of rows: the factor is required
from each successful confirmation to the next successful disabling if and only if each confirmation that
succeeds finds a single row. -/
theorem mfa_required_throughout_iff (env : MfaEnv) (user : Uuid) (w₀ : MfaWorld)
    (henrolled : Enrolled w₀) (hnone : w₀.rowsOf user = []) (hoff : w₀.armed user = false)
    (events : List MfaEvent) :
    Machine.Visits (step env) (MfaWorld.Required user) w₀ events ↔
      Machine.Along (step env) (ConfirmsAlone env user) w₀ events := by
  have hguarded : Guarded user w₀ := by
    refine ⟨henrolled, fun hon => ?_, fun _ c hc => ?_⟩
    · rw [hoff] at hon
      cases hon
    rw [hnone] at hc
    cases hc
  refine Machine.visits_iff_along (fun w hw => hw.required) ?_ ?_ hguarded events
  · intro w e w' halone hw hstep
    exact (changes_of_step hstep).guarded_keeps halone hw
  intro w e hnot hw
  exact hw.lapses hnot

/-- Enrolled, confirmed, and off again by a second code: required throughout. -/
theorem mfa_required_throughout_single_row :
    Machine.Along (step Sample.env) (ConfirmsAlone Sample.env Sample.user) Sample.world
        (Sample.enrolled ++ [Sample.enroll 6 4, .disable Sample.user "000002" 0 90000]) ∧
      Machine.Visits (step Sample.env) (MfaWorld.Required Sample.user) Sample.world
        (Sample.enrolled ++ [Sample.enroll 6 4, .disable Sample.user "000002" 0 90000]) := by
  have halong : Machine.Along (step Sample.env) (ConfirmsAlone Sample.env Sample.user)
      Sample.world (Sample.enrolled ++ [Sample.enroll 6 4, .disable Sample.user "000002" 0 90000]) := by
    decide
  refine ⟨halong, ?_⟩
  exact (mfa_required_throughout_iff Sample.env Sample.user Sample.world
    ⟨by decide, nofun⟩ rfl rfl _).mpr halong

/-- **Two enrollments, one confirmed.** The row still pending may be the one looked at: the user is found
not enabled, and a login yields a token at once. -/
theorem second_enrollment_lapses : ∃ w, Machine.run (step Sample.env) Sample.world
        [Sample.enroll 5 0, Sample.enroll 6 0, .confirm Sample.user "000001" 0 [] 60000] = some w ∧
      w.armed Sample.user = true ∧ w.isMfaEnabledForUser Sample.user 1 = false ∧
      (∃ session r, session.userId = Sample.user ∧
        (w.completeLogin {} session 1 (.ofByte 8) (.ofByte 9) 90000).1 = some r ∧
        r.mfaRequired = false ∧ r.accessToken.isSome = true) ∧ ¬ w.Required Sample.user := by
  refine exists_of_any (fun w => w.armed Sample.user = true ∧ w.isMfaEnabledForUser Sample.user 1 = false)
    (by decide) fun w _ ⟨harmed, hoff⟩ => ⟨harmed, hoff, ?_, fun hreq => ?_⟩
  · let session : SessionEntity :=
      ⟨Sample.session, Sample.user, .ofByte 2, .active, .primaryOnly, 0, 3600000, none, 0⟩
    let token := TokenManagerConfig.accessTokenClaims {} session [] (.ofByte 9) 90000
    refine ⟨session, ⟨Sample.session, Sample.user, false, none, token, 990000⟩, rfl, ?_, rfl, rfl⟩
    rw [completeLogin, hoff]
    rfl
  · rw [(hreq harmed 1).1] at hoff
    cases hoff

end SecureCloud.Auth
