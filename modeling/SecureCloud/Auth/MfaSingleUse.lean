import SecureCloud.Auth.Mfa

/-
# Auth.MfaSingleUse — is a time step accepted more than once?

Three calls accept one-time codes. `confirm_enrollment` can only accept a step of an unused secret,
`verify_challenge` compares with the last step it recorded, `disable_mfa` compares with nothing.
`SingleUse` survives every call that does not present a code of an accepted step where the source does
not look (`KeepsSingleUse`); two codes in alternation get around the replay check.
-/

namespace SecureCloud.Auth

open Lib Sample MfaConfigurationEntity List

/-- No time step was accepted twice under one configuration's secret. -/
def MfaWorld.SingleUse (w : MfaWorld) : Prop := w.accepted.Nodup

/-- What a call must not do: disable with the code of an accepted step, or answer a challenge with that of
an accepted step that is not the last one recorded. -/
def KeepsSingleUse (env : MfaEnv) (w : MfaWorld) : MfaEvent → Prop
  | .disable user code pick now => ∀ config ∈ w.findMfaConfigByUserId user pick,
      config.status = .enabled → ∀ step ∈ (env.matchedStep config code now).toOption,
      (config.configurationId, step) ∉ w.accepted
  | .verify id credential pick now _ => ∀ challenge ∈ w.challenges id,
      ∀ config ∈ w.findMfaConfigByUserId challenge.userId pick, config.status = .enabled →
      ∀ step ∈ (env.matchedStep config credential now).toOption,
      (config.configurationId, step) ∈ w.accepted →
      w.lastUsedTimeSteps challenge.userId = some step
  | _ => True

instance (env : MfaEnv) (w : MfaWorld) (e : MfaEvent) : Decidable (KeepsSingleUse env w e) := by
  cases e <;> (dsimp only [KeepsSingleUse]; infer_instance)

/-- The primary key, and what has been accepted: only steps of configurations that are no longer
pending. -/
structure Enrolled (w : MfaWorld) : Prop where
  keys : (w.configs.map (·.configurationId)).Nodup
  used : ∀ id n, (id, n) ∈ w.accepted → ∃ c ∈ w.configs, c.configurationId = id ∧ c.status ≠ .pending

variable {w w' : MfaWorld}

theorem mem_of_findMfaConfigByUserId {user : Uuid} {pick : Nat}
    {config : MfaConfigurationEntity} (h : w.findMfaConfigByUserId user pick = some config) :
    config ∈ w.configs ∧ config.userId = user := by
  have hmem := mem_of_getElem? h
  have hand := mem_filter.mp hmem
  exact ⟨hand.1, of_decide_eq_true hand.2⟩

theorem Enrolled.eq_of_id (h : Enrolled w) {c c' : MfaConfigurationEntity}
    (hc : c ∈ w.configs) (hc' : c' ∈ w.configs) (hid : c.configurationId = c'.configurationId) :
    c = c' :=
  inj_on_of_nodup_map h.keys hc hc' hid

theorem Enrolled.not_mem_of_pending (h : Enrolled w) {config : MfaConfigurationEntity}
    (hmem : config ∈ w.configs) (hpending : config.status = .pending) (step : Nat) :
    (config.configurationId, step) ∉ w.accepted := by
  intro haccepted
  obtain ⟨c, hc, hid, hstatus⟩ := h.used _ _ haccepted
  rw [h.eq_of_id hc hmem hid] at hstatus
  exact hstatus hpending

theorem Enrolled.update (h : Enrolled w) {p : MfaConfigurationEntity → Bool}
    {f : MfaConfigurationEntity → MfaConfigurationEntity}
    (hid : ∀ c, (f c).configurationId = c.configurationId) (hstatus : ∀ c, (f c).status ≠ .pending)
    (hconfigs : w'.configs = w.configs.map fun c => if p c then f c else c)
    (haccepted : ∀ id n, (id, n) ∈ w'.accepted →
      (id, n) ∈ w.accepted ∨ ∃ c ∈ w.configs, c.configurationId = id ∧ p c = true) :
    Enrolled w' := by
  refine ⟨?_, fun id n hn => ?_⟩
  · have hids : w'.configs.map (·.configurationId) = w.configs.map (·.configurationId) := by
      rw [hconfigs, map_map]
      refine map_congr_left fun c _ => ?_
      show (if p c then f c else c).configurationId = c.configurationId
      split
      · exact hid c
      · rfl
    rw [hids]
    exact h.keys
  -- the row that was not pending before, or the row just updated
  have hrow : ∃ c ∈ w.configs, c.configurationId = id ∧ (c.status ≠ .pending ∨ p c = true) := by
    rcases haccepted id n hn with hold | ⟨c, hc, hcid, hp⟩
    · obtain ⟨c, hc, hcid, hcs⟩ := h.used id n hold
      exact ⟨c, hc, hcid, .inl hcs⟩
    · exact ⟨c, hc, hcid, .inr hp⟩
  obtain ⟨c, hc, hcid, hcs⟩ := hrow
  refine ⟨if p c then f c else c, ?_, ?_, ?_⟩
  · rw [hconfigs]
    exact mem_map.mpr ⟨c, hc, rfl⟩
  · split
    · rw [hid, hcid]
    · exact hcid
  split
  · exact hstatus c
  rename_i hp
  exact hcs.resolve_right hp

theorem MfaChanges.enrolled_keeps {env : MfaEnv} {e : MfaEvent}
    (hchange : MfaChanges env w w' e) (h : Enrolled w) : Enrolled w' := by
  cases hchange with
  | silent _ hconfigs haccepted _ =>
    exact ⟨hconfigs ▸ h.keys, by rw [hconfigs, haccepted]; exact h.used⟩
  | enrolled config _ hfresh _ _ hconfigs haccepted _ =>
    refine ⟨?_, fun id n hn => ?_⟩
    · rw [hconfigs, map_append, nodup_append]
      refine ⟨h.keys, nodup_singleton _, ?_⟩
      intro id hid id' hid' heq
      obtain ⟨c, hc, hcid⟩ := mem_map.mp hid
      rw [map_singleton, mem_singleton] at hid'
      exact hfresh c hc (by rw [hcid, heq, hid'])
    rw [haccepted] at hn
    obtain ⟨c, hc, hcid, hcs⟩ := h.used id n hn
    exact ⟨c, by rw [hconfigs]; exact mem_append_left _ hc, hcid, hcs⟩
  | confirmed config step hfind _ _ hconfigs haccepted _ =>
    refine h.update (p := fun c => decide (c.configurationId = config.configurationId ∧
      c.version = config.version)) (f := enable _) (fun _ => rfl)
      (fun _ => by simp [enable]) (by simpa using hconfigs) ?_
    intro id n hn
    rw [haccepted] at hn
    rcases mem_cons.mp hn with heq | hold
    · cases heq
      exact .inr ⟨config, (mem_of_findMfaConfigByUserId hfind).1, rfl, by simp⟩
    · exact .inl hold
  | disabled config step hfind _ _ hconfigs haccepted _ =>
    refine h.update (p := fun c => decide (c.configurationId = config.configurationId ∧
      c.version = config.version)) (f := disable _) (fun _ => rfl)
      (fun _ => by simp [disable]) (by simpa using hconfigs) ?_
    intro id n hn
    rw [haccepted] at hn
    rcases mem_append.mp hn with hnew | hold
    · obtain ⟨k, -, heq⟩ := Option.map_eq_some_iff.mp (Option.mem_toList.mp hnew)
      cases heq
      exact .inr ⟨config, (mem_of_findMfaConfigByUserId hfind).1, rfl, by simp⟩
    · exact .inl hold
  | verified challenge config step _ hfind henabled _ _ hconfigs haccepted _ =>
    refine ⟨hconfigs ▸ h.keys, fun id n hn => ?_⟩
    rw [haccepted] at hn
    rw [hconfigs]
    rcases mem_cons.mp hn with heq | hold
    · cases heq
      exact ⟨config, (mem_of_findMfaConfigByUserId hfind).1, rfl, by rw [henabled]; decide⟩
    · exact h.used id n hold

theorem MfaChanges.singleUse {env : MfaEnv} {e : MfaEvent}
    (hchange : MfaChanges env w w' e) (henrolled : Enrolled w) (hkeeps : KeepsSingleUse env w e)
    (h : w.SingleUse) : w'.SingleUse := by
  unfold MfaWorld.SingleUse at h ⊢
  cases hchange with
  | silent _ _ haccepted | enrolled _ _ _ _ _ _ haccepted => rwa [haccepted]
  | confirmed config step hfind hpending _ _ haccepted _ =>
    rw [haccepted, nodup_cons]
    exact ⟨henrolled.not_mem_of_pending (mem_of_findMfaConfigByUserId hfind).1 hpending step, h⟩
  | disabled config step hfind henabled hstep _ haccepted _ =>
    rw [haccepted]
    cases step with
    | none => exact h
    | some n =>
      refine nodup_cons.mpr ⟨?_, h⟩
      exact hkeeps config hfind henabled n (by rw [hstep n rfl]; rfl)
  | verified challenge config step hchallenge hfind henabled hstep hlast _ haccepted _ =>
    rw [haccepted, nodup_cons]
    refine ⟨fun hmem => hlast ?_, h⟩
    exact hkeeps challenge hchallenge config hfind henabled step (by rw [hstep]; rfl) hmem

/-- **Single use over whole runs.** From tables in which nothing has been accepted, over every sequence of
calls with any choice of rows: as long as no call presents the code of an accepted step where the manager
does not look, no step is accepted twice under one secret. -/
theorem totp_steps_accepted_once (env : MfaEnv) (w₀ w : MfaWorld)
    (hkeys : (w₀.configs.map (·.configurationId)).Nodup) (hnothing : w₀.accepted = [])
    (events : List MfaEvent)
    (hkeeps : Machine.Along (MfaWorld.step env) (KeepsSingleUse env) w₀ events)
    (hrun : Machine.run (MfaWorld.step env) w₀ events = some w) : w.SingleUse := by
  have hinit : Enrolled w₀ ∧ w₀.SingleUse := by
    refine ⟨⟨hkeys, fun id n hn => ?_⟩, ?_⟩
    · rw [hnothing] at hn
      cases hn
    rw [MfaWorld.SingleUse, hnothing]
    exact nodup_nil
  refine (Machine.run_invariant (I := fun v => Enrolled v ∧ v.SingleUse) ?_ hinit hkeeps hrun).2
  intro v e v' he hv hstep
  have hchange := changes_of_step hstep
  exact ⟨hchange.enrolled_keeps hv.1, hchange.singleUse hv.1 he hv.2⟩

namespace Sample

def enrolled : List MfaEvent := [enroll 5 0, .confirm user "000001" 0 [] 60000]

def answer (n : UInt8) (code : String) : List MfaEvent :=
  [.challenge user session .login 300000 (.ofByte n) 90000, .verify (.ofByte n) code 0 90000 90000]

end Sample

/-- A code, the same code again at once (refused), another one, and a third to disable. -/
theorem totp_steps_accepted_once_login : ∃ w, Machine.run (MfaWorld.step env) world
        (enrolled ++ answer 10 "000002" ++ answer 11 "000002" ++
          answer 12 "000003" ++ [.disable user "000004" 0 90000]) = some w ∧
      w.accepted.map (·.2) = [4, 3, 2, 1] ∧ w.SingleUse := by
  exact exists_of_any _ (by decide) fun w hw hval =>
    ⟨hval, totp_steps_accepted_once env world w (by decide) rfl _ (by decide) hw⟩

/-- **Two codes in alternation: step `2`, step `3`, and step `2` once more, all accepted.** -/
theorem alternating_codes_accept_step_twice : ∃ w, Machine.run (MfaWorld.step env) world
        (enrolled ++ answer 10 "000002" ++ answer 11 "000003" ++ answer 12 "000002") = some w ∧
      w.accepted.count (Uuid.ofByte 5, 2) = 2 ∧ ¬ w.SingleUse := by
  refine exists_of_any _ (by decide) fun w _ hval => ⟨hval, fun hnodup => ?_⟩
  have hle := nodup_iff_count_le_one.mp hnodup (Uuid.ofByte 5, 2)
  omega

end SecureCloud.Auth
