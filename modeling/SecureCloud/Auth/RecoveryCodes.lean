import SecureCloud.Auth.MfaProcesses

/-
# Auth.RecoveryCodes — how often does a recovery code open the door?

`verify_challenge` erases a recovery code in the critical section in which it matches it. `disable_mfa`
leaves the code in the pool, commits without the mutex, and throws the pool away afterwards: until then
the code is still good for somebody else. Outside that window the calls that succeeded with a code are at
most as many as the copies of it that were issued.
-/

namespace SecureCloud.Auth

open Lib Lib.Interleaving Function Sample MfaWorld MfaConfig List Option

variable {ι : Type*}

/-! ## Who holds a code -/

namespace MfaPc

def presents (env : MfaEnv) : MfaPc → Option (Uuid × String)
  | recoveryCheck a => some (a.challenge.userId, env.hashCode a.credential)
  | matchingCode user code config now =>
    match env.matchedStep config code now with
    | .ok _ => none
    | .error _ => some (user, env.hashCode code)
  | _ => none

/-- The recovery code a call of `disable_mfa` has matched, and which is still in the pool. -/
def matched : MfaPc → Option (Uuid × String)
  | disabling user _ proof _ => proof.code.map (user, ·)
  | clearingCodes user _ proof => proof.code.map (user, ·)
  | _ => none

def redeemed : MfaPc → Option (Uuid × String)
  | completing a proof => proof.code.map (a.challenge.userId, ·)
  | promoting a proof => proof.code.map (a.challenge.userId, ·)
  | touching a proof => proof.code.map (a.challenge.userId, ·)
  | forgetting a proof => proof.code.map (a.challenge.userId, ·)
  | verified a proof => proof.code.map (a.challenge.userId, ·)
  | clearingSteps user _ proof => proof.code.map (user, ·)
  | disabled user proof => proof.code.map (user, ·)
  | _ => none

def succeededWith : MfaPc → Option (Uuid × String)
  | verified a proof => proof.code.map (a.challenge.userId, ·)
  | disabled user proof => proof.code.map (user, ·)
  | _ => none

variable {key : Uuid × String}

theorem redeemed_of_succeededWith {pc : MfaPc}
    (h : pc.succeededWith = some key) : pc.redeemed = some key := by
  cases pc <;> first | exact h | exact nomatch h

end MfaPc

def MfaWorld.copies (w : MfaWorld) (key : Uuid × String) : Nat :=
  ((w.userRecoveryCodes key.1).getD []).count key.2

def MfaShared.taken [DecidableEq ι] (w : MfaShared ι) (key : Uuid × String) : Nat :=
  (w.spent.map (·.2)).count key

/-- The condition on a move: a recovery code is compared only while no `disable_mfa` that matched it
is on its way to clear the pool. -/
def MfaConfig.MatchesAlone (env : MfaEnv) (c : MfaConfig ι) (m : ι × MfaInput) : Prop :=
  ∀ key ∈ (c.proc m.1).presents env, ∀ j, (c.proc j).matched ≠ some key

instance [Fintype ι] (env : MfaEnv) (c : MfaConfig ι) (m : ι × MfaInput) :
    Decidable (c.MatchesAlone env m) :=
  inferInstanceAs (Decidable (∀ key ∈ (c.proc m.1).presents env, ∀ j, (c.proc j).matched ≠ some key))

/-! ## What a move does to the codes -/

inductive CodeMove (env : MfaEnv) (i : ι) (pc : MfaPc) (w : MfaShared ι) (pc' : MfaPc)
    (w' : MfaShared ι) : Prop
  | quiet (hcodes : w'.tables.userRecoveryCodes = w.tables.userRecoveryCodes)
      (hspent : w'.spent = w.spent) (hmatched : ∀ key, pc'.matched = some key → pc.matched = some key)
      (hredeemed : ∀ key, pc'.redeemed = some key → pc.redeemed = some key)
  /-- `verify_challenge` erases the code it presents -/
  | burned (key : Uuid × String) (codes : List String) (k : Nat)
      (hpresents : pc.presents env = some key)
      (hpool : w.tables.userRecoveryCodes key.1 = some codes) (hk : codes[k]? = some key.2)
      (hcodes : w'.tables.userRecoveryCodes =
        update w.tables.userRecoveryCodes key.1 (some (codes.eraseIdx k)))
      (hspent : w'.spent = (i, key) :: w.spent) (hmatched : pc'.matched = none)
      (hredeemed : pc'.redeemed = some key)
  /-- `disable_mfa` finds the code it presents -/
  | found (key : Uuid × String) (hpresents : pc.presents env = some key)
      (hpool : 0 < w.tables.copies key)
      (hcodes : w'.tables.userRecoveryCodes = w.tables.userRecoveryCodes)
      (hspent : w'.spent = w.spent) (hmatched : pc'.matched = some key)
      (hredeemed : pc'.redeemed = none)
  /-- `disable_mfa` throws the pool of its user away -/
  | cleared (user : Uuid) (code : Option String) (hpc : pc.matched = code.map (user, ·))
      (hcodes : w'.tables.userRecoveryCodes = update w.tables.userRecoveryCodes user none)
      (hspent : w'.spent = (code.map fun hash => (i, user, hash)).toList ++ w.spent)
      (hmatched : pc'.matched = none) (hredeemed : pc'.redeemed = code.map (user, ·))

variable {k : Nat}

theorem recoveryIndex_eq_some {env : MfaEnv} {w : MfaWorld} {user : Uuid} {code : String}
    (h : w.recoveryIndex env user code = some k) :
    ∃ codes, w.userRecoveryCodes user = some codes ∧ codes[k]? = some (env.hashCode code) := by
  obtain ⟨codes, hcodes, hk⟩ := bind_eq_some_iff.mp h
  refine ⟨codes, hcodes, ?_⟩
  unfold MfaEnv.verifyAndConsume at hk
  split at hk
  · cases hk
  obtain ⟨hlt, hmatch, -⟩ := findIdx?_eq_some_iff_getElem.mp hk
  rw [getElem?_eq_getElem hlt]
  simpa using hmatch

variable {i : ι} {pc pc' done : MfaPc} {outcome : TransactionOutcome}

theorem CodeMove.of_transact {env : MfaEnv} {w v w' : MfaShared ι}
    {attempt : Except String MfaWorld}
    (h : some (v.transact outcome attempt done) = some (pc', w')) (hv : v.tables = w.tables ∧ v.spent = w.spent)
    (htables : ∀ t, attempt = .ok t → t.userRecoveryCodes = w.tables.userRecoveryCodes)
    (hmatched : ∀ key, done.matched = some key → pc.matched = some key)
    (hredeemed : ∀ key, done.redeemed = some key → pc.redeemed = some key) :
    CodeMove env i pc w pc' w' := by
  obtain ⟨hcodes, hspent, hpc⟩ : w'.tables.userRecoveryCodes = w.tables.userRecoveryCodes ∧
      w'.spent = w.spent ∧ (pc' = done ∨ ∃ what, pc' = .threw what) := by
    rcases MfaShared.transact_eq h with ⟨rfl, what, hpc⟩ | ⟨t, ht, rfl, hpc⟩
    · exact ⟨by rw [hv.1], hv.2, .inr ⟨what, hpc⟩⟩
    · exact ⟨htables t ht, hv.2, hpc⟩
  rcases hpc with rfl | ⟨what, rfl⟩
  · exact .quiet hcodes hspent hmatched hredeemed
  · exact .quiet hcodes hspent nofun nofun

variable {w w' : MfaShared ι}

theorem CodeMove.of_query {env : MfaEnv} (h : some (query outcome w .threw done) = some (pc', w'))
    (hidle : done.matched = none ∧ done.redeemed = none) : CodeMove env i pc w pc' w' := by
  obtain ⟨rfl, hpc⟩ := query_eq h
  rcases hpc with rfl | ⟨what, rfl⟩
  · exact .quiet rfl rfl (by simp [hidle.1]) (by simp [hidle.2])
  · exact .quiet rfl rfl nofun nofun

variable {x : MfaInput}

open MfaShared MfaPc

theorem CodeMove.of_next {env : MfaEnv}
    (h : env.next i pc x w = some (pc', w')) : CodeMove env i pc w pc' w' := by
  cases pc with
  | findingChallenge id credential =>
    refine .of_query h ?_
    unfold afterFind
    split
    · exact ⟨rfl, rfl⟩
    · split_ifs <;> exact ⟨rfl, rfl⟩
  | counting id challenge credential now =>
    cases h
    unfold afterCount
    split <;> exact .quiet rfl rfl nofun nofun
  | findingConfig a =>
    refine .of_query h ?_
    unfold afterConfig
    split
    · exact ⟨rfl, rfl⟩
    · split_ifs <;> exact ⟨rfl, rfl⟩
  | checking a config =>
    cases h
    split <;> exact .quiet rfl rfl nofun nofun
  | replayCheck a config step =>
    simp only [MfaEnv.next] at h
    split at h
    · cases h
    have h := some.inj h
    unfold replaySection at h
    split_ifs at h <;> (cases h; exact .quiet rfl rfl nofun nofun)
  | recoveryCheck a =>
    have h := some.inj h
    unfold recoverySection at h
    dsimp only at h
    split at h
    next k hk =>
      obtain ⟨codes, hcodes, hget⟩ := recoveryIndex_eq_some hk
      cases h
      refine .burned _ codes k rfl hcodes hget ?_ rfl rfl rfl
      show update _ _ _ = _
      rw [hcodes]
      rfl
    cases h
    unfold afterInvalid
    split <;> exact .quiet rfl rfl nofun nofun
  | failing id reply holding =>
    refine .of_transact h ?_ ?_ nofun nofun
    · split <;> exact ⟨rfl, rfl⟩
    intro t ht
    obtain ⟨challenge, -, -, rfl⟩ := failChallenge_eq_some (orThrow_eq_ok ht)
    split <;> rfl
  | completing a proof =>
    refine .of_transact h ⟨rfl, rfl⟩ ?_ nofun (fun _ hkey => hkey)
    intro t ht
    obtain ⟨challenge, -, -, -, rfl⟩ := completeChallenge_eq_some (orThrow_eq_ok ht)
    rfl
  | promoting a proof =>
    refine .of_transact h ⟨rfl, rfl⟩ ?_ nofun (fun _ hkey => hkey)
    intro t ht
    obtain ⟨s, -, rfl⟩ := map_eq_some_iff.mp (orThrow_eq_ok ht)
    rfl
  | touching a proof =>
    refine .of_transact h ⟨rfl, rfl⟩ ?_ nofun (fun _ hkey => hkey)
    intro t ht
    cases ht
    rfl
  | forgetting a proof =>
    cases h
    exact .quiet rfl rfl nofun (fun _ hkey => hkey)
  | findingOwnConfig user code =>
    refine .of_query h ?_
    unfold afterOwnConfig
    split
    · exact ⟨rfl, rfl⟩
    · split_ifs <;> exact ⟨rfl, rfl⟩
  | matchingCode user code config now =>
    cases h
    unfold ownProof
    cases hstep : env.matchedStep config code now with
    | ok step => exact .quiet rfl rfl nofun nofun
    | error what =>
      split
      next proof hproof =>
        split_ifs at hproof with hcode
        cases hproof
        obtain ⟨k, hk⟩ := isSome_iff_exists.mp hcode
        obtain ⟨codes, hcodes, hget⟩ := recoveryIndex_eq_some hk
        refine .found (user, env.hashCode code) ?_ ?_ rfl rfl rfl rfl
        · simp only [presents, hstep]
        rw [copies, hcodes]
        exact count_pos_iff.mpr (mem_of_getElem? hget)
      · exact .quiet rfl rfl nofun nofun
  | disabling user config proof now =>
    refine .of_transact h ⟨rfl, rfl⟩ ?_ (fun _ hkey => hkey) nofun
    intro t ht
    obtain rfl := updateConfig_eq_some (orThrow_eq_ok ht)
    rfl
  | clearingCodes user config proof =>
    cases h
    exact .cleared user proof.code rfl rfl rfl rfl rfl
  | clearingSteps user config proof =>
    simp only [MfaEnv.next] at h
    split at h
    · cases h
    cases h
    exact .quiet rfl rfl nofun (fun _ hkey => hkey)
  | verified | refused | disabled | notDisabled | threw => exact nomatch h

/-! ## The account of the codes -/

variable [DecidableEq ι]

/-- Every copy of a code is accounted for. `issued` are the copies there were at the beginning. -/
structure MfaConfig.Accounted (issued : Uuid × String → Nat) (c : MfaConfig ι) : Prop where
  /-- the copies left in the pool and those taken out of use were all issued -/
  pool : ∀ key, c.shared.taken key + c.shared.tables.copies key ≤ issued key
  /-- so was the copy that a call has matched, even if the pool is gone by now -/
  pending : ∀ j key, (c.proc j).matched = some key → c.shared.taken key + 1 ≤ issued key
  alone : ∀ i j key, (c.proc i).matched = some key → (c.proc j).matched = some key → i = j
  spent : ∀ j key, (c.proc j).redeemed = some key → (j, key) ∈ c.shared.spent

theorem copies_congr {w w' : MfaWorld} (h : w'.userRecoveryCodes = w.userRecoveryCodes)
    (key : Uuid × String) : w'.copies key = w.copies key := by
  rw [copies, h]
  rfl

theorem copies_update {w w' : MfaWorld} {user : Uuid} {codes : Option (List String)}
    (h : w'.userRecoveryCodes = update w.userRecoveryCodes user codes)
    (key : Uuid × String) :
    w'.copies key = if key.1 = user then (codes.getD []).count key.2 else w.copies key := by
  rw [copies, h, update_apply]
  split <;> rfl

variable {codes : List String}

theorem count_eraseIdx_add {hash : String} (hk : codes[k]? = some hash) (other : String) :
    (codes.eraseIdx k).count other + (if hash = other then 1 else 0) = codes.count other := by
  obtain ⟨hlt, hget⟩ := List.getElem?_eq_some_iff.mp hk
  rw [← (getElem_cons_eraseIdx_perm hlt).count_eq, hget, count_cons]
  simp only [beq_iff_eq]

theorem taken_cons (h : w'.spent = (i, key) :: w.spent) (other : Uuid × String) :
    w'.taken other = w.taken other + if key = other then 1 else 0 := by
  rw [taken, h, map_cons, count_cons]
  simp only [beq_iff_eq]
  rfl

theorem taken_congr (h : w'.spent = w.spent) (key : Uuid × String) :
    w'.taken key = w.taken key := by
  rw [taken, h]
  rfl

section Move
variable {env : MfaEnv} {issued : Uuid × String → Nat} {c : MfaConfig ι} {i : ι} {pc' : MfaPc}
  {w' : MfaShared ι}

section
variable (hc : c.Accounted issued)

include hc

theorem MfaConfig.Accounted.quiet
    (hcodes : w'.tables.userRecoveryCodes = c.shared.tables.userRecoveryCodes)
    (hspent : w'.spent = c.shared.spent)
    (hmatched : ∀ key, pc'.matched = some key → (c.proc i).matched = some key)
    (hredeemed : ∀ key, pc'.redeemed = some key → (c.proc i).redeemed = some key) :
    Accounted issued { proc := update c.proc i pc', shared := w' } := by
  have hbefore : ∀ j key, (update c.proc i pc' j).matched = some key →
      (c.proc j).matched = some key := by
    intro j key h
    rcases update_cases h with ⟨rfl, hnow⟩ | ⟨-, hold⟩
    · exact hmatched key hnow
    · exact hold
  constructor
  · intro key
    rw [taken_congr hspent, copies_congr hcodes]
    exact hc.pool key
  · intro j key h
    rw [taken_congr hspent]
    exact hc.pending j key (hbefore j key h)
  · intro j k key hj hk
    exact hc.alone j k key (hbefore j key hj) (hbefore k key hk)
  intro j key h
  rw [hspent]
  rcases update_cases h with ⟨rfl, hnow⟩ | ⟨-, hold⟩
  · exact hc.spent j key (hredeemed key hnow)
  · exact hc.spent j key hold

section
variable (hfree : ∀ j, (c.proc j).matched ≠ some key)

include hfree

theorem MfaConfig.Accounted.burned
    (hpool : c.shared.tables.userRecoveryCodes key.1 = some codes) (hk : codes[k]? = some key.2)
    (hcodes : w'.tables.userRecoveryCodes =
      update c.shared.tables.userRecoveryCodes key.1 (some (codes.eraseIdx k)))
    (hspent : w'.spent = (i, key) :: c.shared.spent) (hmatched : pc'.matched = none)
    (hredeemed : pc'.redeemed = some key) :
    Accounted issued { proc := update c.proc i pc', shared := w' } := by
  have hbefore : ∀ j other, (update c.proc i pc' j).matched = some other →
      (c.proc j).matched = some other := by
    intro j other h
    rcases update_cases h with ⟨-, hnow⟩ | ⟨-, hold⟩
    · exact nomatch hmatched.symm.trans hnow
    · exact hold
  constructor
  · intro other
    have hissued := hc.pool other
    have herase := count_eraseIdx_add hk other.2
    rw [taken_cons hspent, copies_update hcodes]
    -- the copy has moved from the pool to those taken
    by_cases huser : other.1 = key.1
    · rw [if_pos huser]
      rw [copies, huser, hpool] at hissued
      have hkey : key = other ↔ key.2 = other.2 := by
        rw [Prod.ext_iff]
        exact and_iff_right huser.symm
      simp only [hkey, getD_some] at hissued ⊢
      omega
    · rw [if_neg huser, if_neg fun h => huser (congrArg Prod.fst h).symm]
      exact hissued
  · intro j other h
    have hother : key ≠ other := by
      rintro rfl
      exact hfree j (hbefore j key h)
    rw [taken_cons hspent, if_neg hother]
    exact hc.pending j other (hbefore j other h)
  · intro j l other hj hl
    exact hc.alone j l other (hbefore j other hj) (hbefore l other hl)
  intro j other h
  rw [hspent]
  rcases update_cases h with ⟨rfl, hnow⟩ | ⟨-, hold⟩
  · obtain rfl := some.inj (hredeemed.symm.trans hnow)
    exact mem_cons_self
  · exact mem_cons_of_mem _ (hc.spent j other hold)

theorem MfaConfig.Accounted.found (hpool : 0 < c.shared.tables.copies key)
    (hcodes : w'.tables.userRecoveryCodes = c.shared.tables.userRecoveryCodes)
    (hspent : w'.spent = c.shared.spent) (hmatched : pc'.matched = some key)
    (hredeemed : pc'.redeemed = none) :
    Accounted issued { proc := update c.proc i pc', shared := w' } := by
  have hcases : ∀ j other, (update c.proc i pc' j).matched = some other →
      (j = i ∧ other = key) ∨ (other ≠ key ∧ (c.proc j).matched = some other) := by
    intro j other h
    rcases update_cases h with ⟨rfl, hnow⟩ | ⟨-, hold⟩
    · exact .inl ⟨rfl, (some.inj (hmatched.symm.trans hnow)).symm⟩
    refine .inr ⟨?_, hold⟩
    rintro rfl
    exact hfree j hold
  constructor
  · intro other
    rw [taken_congr hspent, copies_congr hcodes]
    exact hc.pool other
  · intro j other h
    rw [taken_congr hspent]
    rcases hcases j other h with ⟨-, rfl⟩ | ⟨-, h⟩
    · have hissued := hc.pool other
      omega
    · exact hc.pending j other h
  · intro j l other hj hl
    rcases hcases j other hj with ⟨rfl, rfl⟩ | ⟨hne, hj⟩
    · rcases hcases l other hl with ⟨rfl, -⟩ | ⟨hne, -⟩
      · rfl
      · exact absurd rfl hne
    · rcases hcases l other hl with ⟨-, heq⟩ | ⟨-, hl⟩
      · exact absurd heq hne
      · exact hc.alone j l other hj hl
  intro j other h
  rw [hspent]
  rcases update_cases h with ⟨-, hnow⟩ | ⟨-, hold⟩
  · exact nomatch hredeemed.symm.trans hnow
  · exact hc.spent j other hold

end

theorem MfaConfig.Accounted.cleared {user : Uuid} {code : Option String}
    (hpc : (c.proc i).matched = code.map (user, ·)) (hcodes : w'.tables.userRecoveryCodes =
      update c.shared.tables.userRecoveryCodes user none)
    (hspent : w'.spent = (code.map fun hash => (i, user, hash)).toList ++ c.shared.spent)
    (hmatched : pc'.matched = none) (hredeemed : pc'.redeemed = code.map (user, ·)) :
    Accounted issued { proc := update c.proc i pc', shared := w' } := by
  have hbefore : ∀ j other, (update c.proc i pc' j).matched = some other →
      j ≠ i ∧ (c.proc j).matched = some other := by
    intro j other h
    rcases update_cases h with ⟨-, hnow⟩ | hold
    · exact nomatch hmatched.symm.trans hnow
    · exact hold
  have hcopies : ∀ other, w'.tables.copies other ≤ c.shared.tables.copies other := by
    intro other
    rw [copies_update hcodes]
    split
    · exact Nat.zero_le _
    · exact le_rfl
  -- only the mover's own code is taken by this move, and its copies are gone from the pool
  have htaken : ∀ other, (w'.taken other = c.shared.taken other) ∨
      ((c.proc i).matched = some other ∧ w'.taken other = c.shared.taken other + 1 ∧
        w'.tables.copies other = 0) := by
    intro other
    cases code with
    | none => exact .inl (taken_congr hspent other)
    | some hash =>
      rw [taken_cons hspent]
      by_cases hkey : (user, hash) = other
      · subst hkey
        refine .inr ⟨hpc, by rw [if_pos rfl], ?_⟩
        rw [copies_update hcodes, if_pos rfl]
        rfl
      · exact .inl (by rw [if_neg hkey, Nat.add_zero])
  constructor
  · intro other
    have hissued := hc.pool other
    have hle := hcopies other
    rcases htaken other with htaken | ⟨hown, htaken, hzero⟩
    · show w'.taken other + w'.tables.copies other ≤ issued other
      omega
    have hpending := hc.pending i other hown
    show w'.taken other + w'.tables.copies other ≤ issued other
    omega
  · intro j other h
    obtain ⟨hji, h⟩ := hbefore j other h
    rcases htaken other with htaken | ⟨hown, -, -⟩
    · show w'.taken other + 1 ≤ issued other
      rw [htaken]
      exact hc.pending j other h
    · exact absurd (hc.alone j i other h hown) hji
  · intro j l other hj hl
    exact hc.alone j l other (hbefore j other hj).2 (hbefore l other hl).2
  intro j other h
  rw [hspent]
  rcases update_cases h with ⟨rfl, hnow⟩ | ⟨-, hold⟩
  · apply mem_append_left
    obtain ⟨hash, hcode, rfl⟩ := map_eq_some_iff.mp (hredeemed.symm.trans hnow)
    simp [hcode]
  · exact mem_append_right _ (hc.spent j other hold)

end

/-- **A move that compares no code somebody else has matched keeps the account.** -/
theorem MfaConfig.Accounted.move {c' : MfaConfig ι}
    (halone : c.MatchesAlone env (i, x)) (hc : c.Accounted issued)
    (hmove : move env.next c (i, x) = some c') : c'.Accounted issued := by
  obtain ⟨pc', w', hnext, rfl⟩ := move_eq_some hmove
  cases CodeMove.of_next hnext with
  | quiet hcodes hspent hmatched hredeemed => exact hc.quiet hcodes hspent hmatched hredeemed
  | burned key codes k hpresents hpool hk hcodes hspent hmatched hredeemed =>
    exact hc.burned (halone key hpresents) hpool hk hcodes hspent hmatched hredeemed
  | found key hpresents hpool hcodes hspent hmatched hredeemed =>
    exact hc.found (halone key hpresents) hpool hcodes hspent hmatched hredeemed
  | cleared user code hpc hcodes hspent hmatched hredeemed =>
    exact hc.cleared hpc hcodes hspent hmatched hredeemed

end Move

/-! ## Runs -/

theorem MfaConfig.accounted_start (tables : MfaWorld) (calls : ι → MfaCall) :
    (start tables calls).Accounted tables.copies := by
  have hidle : ∀ j, (calls j).begin.matched = none ∧ (calls j).begin.redeemed = none := by
    intro j
    cases calls j <;> exact ⟨rfl, rfl⟩
  constructor
  · intro key
    exact (Nat.zero_add _).le
  · intro j key h
    exact nomatch (hidle j).1.symm.trans h
  · intro i j key h
    exact nomatch (hidle i).1.symm.trans h
  intro j key h
  exact nomatch (hidle j).2.symm.trans h

theorem MfaConfig.Accounted.encard_le {issued : Uuid × String → Nat} {c : MfaConfig ι}
    (hc : c.Accounted issued) (key : Uuid × String) :
    {j | (c.proc j).succeededWith = some key}.encard ≤ issued key := by
  let takers := (c.shared.spent.filter (·.2 = key)).map (·.1)
  have hsub : {j | (c.proc j).succeededWith = some key} ⊆ (takers.toFinset : Set ι) := by
    intro j hj
    have hmem := hc.spent j key (redeemed_of_succeededWith hj)
    rw [coe_toFinset]
    exact mem_map.mpr ⟨(j, key), mem_filter.mpr ⟨hmem, by simp⟩, rfl⟩
  have htakers : takers.length = c.shared.taken key := by
    rw [length_map, taken, count, countP_map, countP_eq_length_filter]
    congr 1
    exact filter_congr fun _ _ => (beq_eq_decide _ _).symm
  calc {j | (c.proc j).succeededWith = some key}.encard
      ≤ (takers.toFinset : Set ι).encard := Set.encard_le_encard hsub
    _ = takers.toFinset.card := Set.encard_coe_eq_coe_finsetCard _
    _ ≤ takers.length := by exact_mod_cast toFinset_card_le takers
    _ ≤ issued key := by
      rw [htakers]
      have hpool := hc.pool key
      exact_mod_cast (by omega : c.shared.taken key ≤ issued key)

/-- **A recovery code is used once.** In every run of `verify_challenge` and `disable_mfa` calls, with
transactions that abort or lose the answer of their commit, that compares no code while a `disable_mfa`
has matched it and not cleared the pool: the calls that succeeded with a code are at most as many as the
copies of it. -/
theorem recovery_codes_single_use (env : MfaEnv) (tables : MfaWorld) (calls : ι → MfaCall)
    {ms : List (ι × MfaInput)} {c : MfaConfig ι}
    (hrun : run env.next (start tables calls) ms = some c)
    (halone : ∀ e ∈ trace env.next (start tables calls) ms,
      MfaConfig.MatchesAlone env e.1 e.2) (user : Uuid) (hash : String) :
    {j | (c.proc j).succeededWith = some (user, hash)}.encard ≤ tables.copies (user, hash) := by
  have hc : c.Accounted tables.copies :=
    run_induction (I := MfaConfig.Accounted tables.copies)
      (A := MfaConfig.MatchesAlone env) (fun _ _ _ ha hc hm => hc.move ha hm)
      (accounted_start tables calls) halone hrun
  exact hc.encard_le (user, hash)

namespace Sample

def codeKey : Uuid × String := (user, "AAAABBBB")

def bothPresent : Bool → MfaCall
  | false => .disable user "aaaa-bbbb"
  | true => .verify (.ofByte 10) "AAAA BBBB"

def movesOf (i : Bool) (n : Nat) : List (Bool × MfaInput) := List.replicate n (i, { now := 90000 })

end Sample

/-- One call after the other: the second finds the code burned. -/
theorem burned_code_refused : ∃ w c, Machine.run (step env) world enrolledWithCode = some w ∧
      w.copies codeKey = 1 ∧
      run env.next (start w bothPresent) (movesOf true 9 ++ movesOf false 2) = some c ∧
      c.proc false = .notDisabled ∧ (c.proc true).succeededWith = some codeKey ∧
      {j | (c.proc j).succeededWith = some codeKey}.encard ≤ 1 := by
  simp only [exists_and_left]
  refine exists_of_any (fun w => w.copies codeKey = 1 ∧
    (run env.next (start w bothPresent) (movesOf true 9 ++ movesOf false 2)).any fun c =>
      c.proc false = .notDisabled ∧ (c.proc true).succeededWith = some codeKey ∧
        ∀ e ∈ trace env.next (start w bothPresent) (movesOf true 9 ++ movesOf false 2),
          MfaConfig.MatchesAlone env e.1 e.2) (by decide) fun w _ ⟨hcopies, hany⟩ => ⟨hcopies, ?_⟩
  refine exists_of_any _ hany fun c hc ⟨hfalse, htrue, halone⟩ => ⟨hfalse, htrue, ?_⟩
  have hle := recovery_codes_single_use env w bothPresent hc halone user "AAAABBBB"
  have hone : w.copies (user, "AAAABBBB") = 1 := hcopies
  rw [hone] at hle
  exact_mod_cast hle

/-- **One code, two successes.** `disable_mfa` matches the code; `verify_challenge` burns it and succeeds;
`disable_mfa` succeeds as well. -/
theorem recovery_code_used_twice : ∃ w c, Machine.run (step env) world enrolledWithCode = some w ∧
      w.copies codeKey = 1 ∧
      run env.next (start w bothPresent)
        (movesOf false 2 ++ movesOf true 9 ++ movesOf false 3) = some c ∧
      (c.proc false).succeededWith = some codeKey ∧
      (c.proc true).succeededWith = some codeKey := by
  simp only [exists_and_left]
  exact exists_of_any (fun w => w.copies codeKey = 1 ∧ (run env.next (start w bothPresent)
    (movesOf false 2 ++ movesOf true 9 ++ movesOf false 3)).any fun c =>
      (c.proc false).succeededWith = some codeKey ∧ (c.proc true).succeededWith = some codeKey)
    (by decide) fun w _ ⟨hcopies, hany⟩ => ⟨hcopies, exists_of_any _ hany fun _ _ h => h⟩

end SecureCloud.Auth
