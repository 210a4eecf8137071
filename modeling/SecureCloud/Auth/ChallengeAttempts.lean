import SecureCloud.Auth.MfaProcesses

/-
# Auth.ChallengeAttempts — how many guesses does a challenge allow?

`verify_challenge` draws a number from the counter of its challenge before it checks a credential, and
goes on only up to `maxChallengeAttempts`. The counter is reset only by the call that completed the
challenge; until then the numbers of different calls differ, and each stands for at most one check,
wherever the calls are interrupted. The counter has 32 bits and would begin anew after its largest value;
a call counts once, so that takes `2 ^ 32` calls.
-/

namespace SecureCloud.Auth

open Lib Lib.Interleaving Function MfaPc MfaConfig MfaShared List Option

variable {ι : Type*}

/-! ## What is counted -/

def MfaWorld.Uncompleted (w : MfaWorld) (id : Uuid) : Prop :=
  ∀ row ∈ w.challenges id, row.status ≠ .completed

def MfaWorld.HasFailed (w : MfaWorld) (id : Uuid) : Prop :=
  ∃ row ∈ w.challenges id, row.status = .failed

def MfaShared.numbersChecked (w : MfaShared ι) (id : Uuid) : List Nat :=
  (w.checks.filter (·.1 = id)).map (·.2)

def MfaShared.checksMade (w : MfaShared ι) (id : Uuid) : Nat := (w.numbersChecked id).length

namespace MfaPc

def ticket : MfaPc → Option (Uuid × Nat)
  | findingConfig a => some (a.id, a.attempts)
  | checking a _ => some (a.id, a.attempts)
  | _ => none

def completedBy : MfaPc → Option Uuid
  | promoting a _ => some a.id
  | touching a _ => some a.id
  | forgetting a _ => some a.id
  | verified a _ => some a.id
  | _ => none

def succeededFor : MfaPc → Option Uuid
  | verified a _ => some a.id
  | _ => none

theorem completedBy_of_succeededFor {pc : MfaPc} {id : Uuid} (h : pc.succeededFor = some id) :
    pc.completedBy = some id := by
  cases pc <;> first | exact h | exact nomatch h

end MfaPc

/-- The challenge whose counter the call's next step increments. -/
def MfaPc.countingFor : MfaPc → Option Uuid
  | counting id .. => some id
  | _ => none

/-- The call has its number still to draw. -/
def MfaPc.undrawn : MfaPc → Bool
  | findingChallenge .. => true
  | counting .. => true
  | _ => false

/-- A number is drawn only while the counter has a next value. -/
def MfaConfig.CountsOn (c : MfaConfig ι) (m : ι × MfaInput) : Prop :=
  ∀ id ∈ (c.proc m.1).countingFor, c.shared.tables.challengeAttempts id + 1 < 2 ^ 32

/-! ## What a move does to challenges and counters -/

structure SameAttempts (w w' : MfaShared ι) : Prop where
  challenges : w'.tables.challenges = w.tables.challenges
  attempts : w'.tables.challengeAttempts = w.tables.challengeAttempts
  checks : w'.checks = w.checks

inductive AttemptMove (pc : MfaPc) (w : MfaShared ι) (pc' : MfaPc) (w' : MfaShared ι) : Prop
  | quiet (hsame : SameAttempts w w') (hticket : ∀ key, pc'.ticket = some key → pc.ticket = some key)
      (hcompleted : ∀ id, pc'.completedBy = some id → pc.completedBy = some id)
  /-- a number is drawn -/
  | counted (id : Uuid) (n : Nat) (hpc : pc.countingFor = some id)
      (hn : n = (w.tables.challengeAttempts id + 1) % 2 ^ 32)
      (hchallenges : w'.tables.challenges = w.tables.challenges)
      (hattempts : w'.tables.challengeAttempts = update w.tables.challengeAttempts id n)
      (hchecks : w'.checks = w.checks)
      (hticket : ∀ key, pc'.ticket = some key → key = (id, n) ∧ n ≤ maxChallengeAttempts)
      (hcompleted : pc'.completedBy = none)
  /-- a credential is checked -/
  | checked (key : Uuid × Nat) (hpc : pc.ticket = some key)
      (hchallenges : w'.tables.challenges = w.tables.challenges)
      (hattempts : w'.tables.challengeAttempts = w.tables.challengeAttempts)
      (hchecks : w'.checks = key :: w.checks) (hticket : pc'.ticket = none)
      (hcompleted : pc'.completedBy = none)
  /-- a pending challenge is failed or completed -/
  | closed (id : Uuid) (row row' : MfaChallengeEntity) (hrow : w.tables.challenges id = some row)
      (hpending : row.status = .pending)
      (hchallenges : w'.tables.challenges = update w.tables.challenges id (some row'))
      (hattempts : w'.tables.challengeAttempts = w.tables.challengeAttempts)
      (hchecks : w'.checks = w.checks) (hticket : pc'.ticket = none)
      (hcompleted : ∀ id', pc'.completedBy = some id' → id' = id ∧ row'.status = .completed)
  /-- the call that completed the challenge forgets its counter -/
  | forgot (id : Uuid) (hpc : pc.completedBy = some id)
      (hchallenges : w'.tables.challenges = w.tables.challenges)
      (hattempts : w'.tables.challengeAttempts = update w.tables.challengeAttempts id 0)
      (hchecks : w'.checks = w.checks) (hticket : pc'.ticket = none)
      (hcompleted : pc'.completedBy = some id)

theorem SameAttempts.refl (w : MfaShared ι) : SameAttempts w w := ⟨rfl, rfl, rfl⟩

variable {pc pc' done : MfaPc} {id : Uuid} {w w' : MfaShared ι} {outcome : TransactionOutcome}
  {env : MfaEnv}

theorem AttemptMove.of_transact {attempt : Except String MfaWorld}
    (h : some (w.transact outcome attempt done) = some (pc', w'))
    (htables : ∀ t, attempt = .ok t → t.challenges = w.tables.challenges ∧
      t.challengeAttempts = w.tables.challengeAttempts) (hticket : done.ticket = none)
    (hcompleted : ∀ id, done.completedBy = some id → pc.completedBy = some id) :
    AttemptMove pc w pc' w' := by
  obtain ⟨hsame, hpc⟩ : SameAttempts w w' ∧ (pc' = done ∨ ∃ what, pc' = .threw what) := by
    rcases MfaShared.transact_eq h with ⟨rfl, what, hpc⟩ | ⟨t, ht, rfl, hpc⟩
    · exact ⟨.refl _, .inr ⟨what, hpc⟩⟩
    · exact ⟨⟨(htables t ht).1, (htables t ht).2, rfl⟩, hpc⟩
  rcases hpc with rfl | ⟨what, rfl⟩
  · exact .quiet hsame (by simp [hticket]) hcompleted
  · exact .quiet hsame nofun nofun

theorem AttemptMove.of_query (h : some (query outcome w .threw done) = some (pc', w'))
    (hticket : ∀ key, done.ticket = some key → pc.ticket = some key)
    (hcompleted : done.completedBy = none) : AttemptMove pc w pc' w' := by
  obtain ⟨rfl, hpc⟩ := query_eq h
  rcases hpc with rfl | ⟨what, rfl⟩
  · exact .quiet (.refl _) hticket (by simp [hcompleted])
  · exact .quiet (.refl _) nofun nofun

theorem AttemptMove.of_close {v : MfaShared ι} (id : Uuid) {attempt : Except String MfaWorld}
    (h : some (v.transact outcome attempt done) = some (pc', w'))
    (hv : v.tables = w.tables ∧ v.checks = w.checks)
    (hclose : ∀ t, attempt = .ok t → ∃ row row', w.tables.challenges id = some row ∧
      row.status = .pending ∧ t = w.tables.setChallenge id row' ∧
      ∀ id', done.completedBy = some id' → id' = id ∧ row'.status = .completed)
    (hticket : done.ticket = none) : AttemptMove pc w pc' w' := by
  rcases MfaShared.transact_eq h with ⟨rfl, what, rfl⟩ | ⟨t, ht, rfl, hpc⟩
  · exact .quiet ⟨by rw [hv.1], by rw [hv.1], hv.2⟩ nofun nofun
  obtain ⟨row, row', hrow, hpending, rfl, hdone⟩ := hclose t ht
  rcases hpc with rfl | ⟨what, rfl⟩
  · exact .closed id row row' hrow hpending rfl rfl hv.2 hticket hdone
  · exact .closed id row row' hrow hpending rfl rfl hv.2 rfl nofun

open MfaEnv

theorem AttemptMove.of_next {i : ι} {x : MfaInput} (h : env.next i pc x w = some (pc', w')) :
    AttemptMove pc w pc' w' := by
  cases pc with
  | findingChallenge id credential =>
    have hidle : ∀ found, (afterFind id credential x.now found).ticket = none ∧
        (afterFind id credential x.now found).completedBy = none := by
      intro found
      unfold afterFind
      split
      · exact ⟨rfl, rfl⟩
      · split_ifs <;> exact ⟨rfl, rfl⟩
    exact .of_query h (by simp [(hidle _).1]) (hidle _).2
  | counting id challenge credential now =>
    cases h
    refine .counted id _ rfl rfl rfl rfl rfl ?_ ?_
    · intro key hkey
      unfold afterCount at hkey
      split at hkey
      · cases hkey
      rename_i hmax
      exact ⟨(some.inj hkey).symm, not_lt.mp hmax⟩
    · unfold afterCount
      split <;> rfl
  | findingConfig a =>
    refine .of_query h ?_ ?_
    · intro key hkey
      unfold afterConfig at hkey
      split at hkey
      · cases hkey
      split_ifs at hkey
      · cases hkey
      · exact hkey
    unfold afterConfig
    split
    · rfl
    · split_ifs <;> rfl
  | checking a config =>
    cases h
    refine .checked (a.id, a.attempts) rfl rfl rfl rfl ?_ ?_ <;> split <;> rfl
  | replayCheck a config step =>
    simp only [MfaEnv.next] at h
    split at h
    · cases h
    have h := some.inj h
    unfold replaySection at h
    split_ifs at h <;> (cases h; exact .quiet ⟨rfl, rfl, rfl⟩ nofun nofun)
  | recoveryCheck a =>
    have h := some.inj h
    unfold recoverySection at h
    dsimp only at h
    split at h
    · cases h
      exact .quiet ⟨rfl, rfl, rfl⟩ nofun nofun
    cases h
    unfold afterInvalid
    split <;> exact .quiet (.refl _) nofun nofun
  | failing id reply holding =>
    have hv : (if holding then { w with replayMutex := none } else w : MfaShared ι).tables =
        w.tables := by
      split <;> rfl
    refine .of_close id h ⟨hv, by split <;> rfl⟩ ?_ rfl
    intro t ht
    rw [hv] at ht
    obtain ⟨row, hrow, hpending, rfl⟩ := failChallenge_eq_some (orThrow_eq_ok ht)
    exact ⟨row, _, hrow, hpending, rfl, nofun⟩
  | completing a proof =>
    refine .of_close a.id h ⟨rfl, rfl⟩ ?_ rfl
    intro t ht
    obtain ⟨row, hrow, hpending, -, rfl⟩ := completeChallenge_eq_some (orThrow_eq_ok ht)
    exact ⟨row, _, hrow, hpending, rfl, fun id' h => ⟨(some.inj h).symm, rfl⟩⟩
  | promoting a proof =>
    refine .of_transact h ?_ rfl (fun _ hid => hid)
    intro t ht
    obtain ⟨s, -, rfl⟩ := map_eq_some_iff.mp (orThrow_eq_ok ht)
    exact ⟨rfl, rfl⟩
  | touching a proof =>
    refine .of_transact h ?_ rfl (fun _ hid => hid)
    intro t ht
    cases ht
    exact ⟨rfl, rfl⟩
  | forgetting a proof =>
    cases h
    exact .forgot a.id rfl rfl rfl rfl rfl rfl
  | findingOwnConfig user code =>
    have hidle : ∀ found, (afterOwnConfig user code x.now found).ticket = none ∧
        (afterOwnConfig user code x.now found).completedBy = none := by
      intro found
      unfold afterOwnConfig
      split
      · exact ⟨rfl, rfl⟩
      · split_ifs <;> exact ⟨rfl, rfl⟩
    exact .of_query h (by simp [(hidle _).1]) (hidle _).2
  | matchingCode user code config now =>
    cases h
    split <;> exact .quiet (.refl _) nofun nofun
  | disabling user config proof now =>
    refine .of_transact h ?_ rfl nofun
    intro t ht
    obtain rfl := updateConfig_eq_some (orThrow_eq_ok ht)
    exact ⟨rfl, rfl⟩
  | clearingCodes user config proof =>
    cases h
    exact .quiet ⟨rfl, rfl, rfl⟩ nofun nofun
  | clearingSteps user config proof =>
    simp only [MfaEnv.next] at h
    split at h
    · cases h
    cases h
    exact .quiet ⟨rfl, rfl, rfl⟩ nofun nofun
  | verified | refused | disabled | notDisabled | threw => exact nomatch h

/-! ## Challenges only close -/

theorem AttemptMove.kept (h : AttemptMove pc w pc' w') {row : MfaChallengeEntity}
    (hrow : w.tables.challenges id = some row)
    (hclosed : row.status ≠ .pending) : w'.tables.challenges id = some row := by
  cases h with
  | quiet hsame => rw [hsame.challenges, hrow]
  | counted _ _ _ _ hchallenges | checked _ _ hchallenges | forgot _ _ hchallenges =>
    rw [hchallenges, hrow]
  | closed id' old row' hold hpending hchallenges =>
    rw [hchallenges, update_of_ne]
    · exact hrow
    rintro rfl
    rw [hold] at hrow
    cases hrow
    exact hclosed hpending

theorem AttemptMove.uncompleted (h : AttemptMove pc w pc' w') (hafter : w'.tables.Uncompleted id) :
    w.tables.Uncompleted id := by
  intro row hrow hcompleted
  exact hafter row (h.kept hrow (by rw [hcompleted]; decide)) hcompleted

/-! ## The numbers of a challenge -/

def MfaShared.Drawn (w : MfaShared ι) (id : Uuid) (n : Nat) : Prop :=
  1 ≤ n ∧ n ≤ maxChallengeAttempts ∧ n ≤ w.tables.challengeAttempts id

/-- As long as a challenge is not completed, a number stands for one check. -/
structure MfaConfig.Numbered (c : MfaConfig ι) : Prop where
  completed : ∀ j id, (c.proc j).completedBy = some id → ¬ c.shared.tables.Uncompleted id
  once : ∀ i j id, (c.proc i).completedBy = some id → (c.proc j).completedBy = some id → i = j
  /-- a number that waits for its check has not been checked -/
  waiting : ∀ j id n, (c.proc j).ticket = some (id, n) → c.shared.tables.Uncompleted id →
    c.shared.Drawn id n ∧ n ∉ c.shared.numbersChecked id
  distinct : ∀ i j id n, (c.proc i).ticket = some (id, n) → (c.proc j).ticket = some (id, n) →
    c.shared.tables.Uncompleted id → i = j
  checked : ∀ id, c.shared.tables.Uncompleted id → (c.shared.numbersChecked id).Nodup ∧
    ∀ n ∈ c.shared.numbersChecked id, c.shared.Drawn id n

theorem numbersChecked_congr (h : w'.checks = w.checks) (id : Uuid) :
    w'.numbersChecked id = w.numbersChecked id := by
  rw [numbersChecked, h]
  rfl

theorem numbersChecked_cons {key : Uuid × Nat} (h : w'.checks = key :: w.checks) (id : Uuid) :
    w'.numbersChecked id =
      if key.1 = id then key.2 :: w.numbersChecked id else w.numbersChecked id := by
  rw [numbersChecked, h, filter_cons]
  by_cases hkey : key.1 = id <;> simp [hkey, numbersChecked]

theorem MfaShared.Drawn.mono {n : Nat} (h : w.Drawn id n)
    (hle : w.tables.challengeAttempts id ≤ w'.tables.challengeAttempts id) : w'.Drawn id n :=
  ⟨h.1, h.2.1, h.2.2.trans hle⟩

theorem MfaConfig.Numbered.checksMade_le {c : MfaConfig ι} (hc : c.Numbered)
    (hopen : c.shared.tables.Uncompleted id) : c.shared.checksMade id ≤ maxChallengeAttempts := by
  obtain ⟨hnodup, hdrawn⟩ := hc.checked id hopen
  have hsub : (c.shared.numbersChecked id).toFinset ⊆ Finset.Icc 1 maxChallengeAttempts := by
    intro n hn
    obtain ⟨hpos, hmax, -⟩ := hdrawn n (mem_toFinset.mp hn)
    exact Finset.mem_Icc.mpr ⟨hpos, hmax⟩
  calc c.shared.checksMade id = (c.shared.numbersChecked id).toFinset.card :=
        (toFinset_card_of_nodup hnodup).symm
    _ ≤ (Finset.Icc 1 maxChallengeAttempts).card := Finset.card_le_card hsub
    _ = maxChallengeAttempts := by simp

section Move
variable [DecidableEq ι] {c : MfaConfig ι} {i : ι} {pc' : MfaPc} {w' : MfaShared ι}

section
variable (hc : c.Numbered) (hmove : AttemptMove (c.proc i) c.shared pc' w')
include hc hmove

theorem MfaConfig.Numbered.completion :
    (∀ j id, (update c.proc i pc' j).completedBy = some id → ¬ w'.tables.Uncompleted id) ∧
    ∀ j k id, (update c.proc i pc' j).completedBy = some id →
      (update c.proc i pc' k).completedBy = some id → j = k := by
  have hstays : ∀ j id, (c.proc j).completedBy = some id → ¬ w'.tables.Uncompleted id :=
    fun j id h hopen => hc.completed j id h (hmove.uncompleted hopen)
  -- the mover had completed the challenge already, or completes it now and nobody had
  have hcases : ∀ id, pc'.completedBy = some id → ¬ w'.tables.Uncompleted id ∧
      ((c.proc i).completedBy = some id ∨ c.shared.tables.Uncompleted id) := by
    intro id h
    cases hmove with
    | quiet _ _ hcompleted =>
      have hi := hcompleted id h
      exact ⟨hstays i id hi, .inl hi⟩
    | counted _ _ _ _ _ _ _ _ hcompleted | checked _ _ _ _ _ _ hcompleted =>
      exact nomatch hcompleted.symm.trans h
    | forgot _ hpc _ _ _ _ hcompleted =>
      have hi := hpc.trans (hcompleted.symm.trans h)
      exact ⟨hstays i id hi, .inl hi⟩
    | closed id' row row' hrow hpending hchallenges _ _ _ hcompleted =>
      obtain ⟨rfl, hstatus⟩ := hcompleted id h
      refine ⟨fun hopen => hopen row' ?_ hstatus, .inr ?_⟩
      · rw [hchallenges, update_self]
        rfl
      intro r hr
      obtain rfl := some.inj (hrow.symm.trans hr)
      rw [hpending]
      decide
  have hsole : ∀ j id, j ≠ i → (c.proc j).completedBy = some id → pc'.completedBy ≠ some id := by
    intro j id hji hj h
    rcases (hcases id h).2 with hi | hopen
    · exact hji (hc.once j i id hj hi)
    · exact hc.completed j id hj hopen
  constructor
  · intro j id h
    rcases update_cases h with ⟨-, hnow⟩ | ⟨-, hold⟩
    · exact (hcases id hnow).1
    · exact hstays j id hold
  intro j k id hj hk
  rcases update_cases hj with ⟨hji, hjnow⟩ | ⟨hji, hjold⟩ <;>
    rcases update_cases hk with ⟨hki, hknow⟩ | ⟨hki, hkold⟩
  · rw [hji, hki]
  · exact absurd hjnow (hsole k id hki hkold)
  · exact absurd hknow (hsole j id hji hjold)
  · exact hc.once j k id hjold hkold

theorem MfaConfig.Numbered.still
    (hattempts : ∀ id, w'.tables.Uncompleted id →
      w'.tables.challengeAttempts id = c.shared.tables.challengeAttempts id)
    (hchecks : w'.checks = c.shared.checks)
    (hticket : ∀ key, pc'.ticket = some key → (c.proc i).ticket = some key) :
    Numbered { proc := update c.proc i pc', shared := w' } := by
  obtain ⟨hcompleted, honce⟩ := hc.completion hmove
  have hbefore : ∀ j key, (update c.proc i pc' j).ticket = some key →
      (c.proc j).ticket = some key := by
    intro j key h
    rcases update_cases h with ⟨rfl, hnow⟩ | ⟨-, hold⟩
    · exact hticket key hnow
    · exact hold
  refine ⟨hcompleted, honce, ?_, ?_, ?_⟩
  · intro j id n h hopen
    obtain ⟨hdrawn, hfresh⟩ := hc.waiting j id n (hbefore j _ h) (hmove.uncompleted hopen)
    rw [numbersChecked_congr hchecks]
    exact ⟨hdrawn.mono (hattempts id hopen).ge, hfresh⟩
  · intro j k id n hj hk hopen
    exact hc.distinct j k id n (hbefore j _ hj) (hbefore k _ hk) (hmove.uncompleted hopen)
  intro id hopen
  obtain ⟨hnodup, hdrawn⟩ := hc.checked id (hmove.uncompleted hopen)
  rw [numbersChecked_congr hchecks]
  exact ⟨hnodup, fun n hn => (hdrawn n hn).mono (hattempts id hopen).ge⟩

theorem MfaConfig.Numbered.counted {n : Nat} (hn : n = c.shared.tables.challengeAttempts id + 1)
    (hattempts : w'.tables.challengeAttempts = update c.shared.tables.challengeAttempts id n)
    (hchecks : w'.checks = c.shared.checks)
    (hticket : ∀ key, pc'.ticket = some key → key = (id, n) ∧ n ≤ maxChallengeAttempts) :
    Numbered { proc := update c.proc i pc', shared := w' } := by
  obtain ⟨hcompleted, honce⟩ := hc.completion hmove
  have hself : w'.tables.challengeAttempts id = n := by
    rw [hattempts, update_self]
  have hmono : ∀ id', c.shared.tables.challengeAttempts id' ≤ w'.tables.challengeAttempts id' := by
    intro id'
    rw [hattempts, update_apply]
    split
    next heq =>
      rw [heq]
      omega
    · exact le_rfl
  -- nobody has the number yet
  have hnobody : ∀ j m, (c.proc j).ticket = some (id, m) → w'.tables.Uncompleted id → m ≠ n := by
    intro j m hj hopen
    have hle := (hc.waiting j id m hj (hmove.uncompleted hopen)).1.2.2
    omega
  refine ⟨hcompleted, honce, ?_, ?_, ?_⟩
  · intro j id' m h hopen
    rw [numbersChecked_congr hchecks]
    rcases update_cases h with ⟨-, hnow⟩ | ⟨-, hold⟩
    · obtain ⟨hkey, hmax⟩ := hticket _ hnow
      obtain ⟨rfl, rfl⟩ := Prod.mk.inj hkey
      refine ⟨⟨by omega, hmax, hself.ge⟩, fun hmem => ?_⟩
      have hle := ((hc.checked id' (hmove.uncompleted hopen)).2 m hmem).2.2
      omega
    · obtain ⟨hdrawn, hfresh⟩ := hc.waiting j id' m hold (hmove.uncompleted hopen)
      exact ⟨hdrawn.mono (hmono id'), hfresh⟩
  · intro j k id' m hj hk hopen
    rcases update_cases hj with ⟨hji, hjnow⟩ | ⟨hji, hjold⟩ <;>
      rcases update_cases hk with ⟨hki, hknow⟩ | ⟨hki, hkold⟩
    · rw [hji, hki]
    · obtain ⟨rfl, rfl⟩ := Prod.mk.inj (hticket _ hjnow).1
      exact absurd rfl (hnobody k m hkold hopen)
    · obtain ⟨rfl, rfl⟩ := Prod.mk.inj (hticket _ hknow).1
      exact absurd rfl (hnobody j m hjold hopen)
    · exact hc.distinct j k id' m hjold hkold (hmove.uncompleted hopen)
  intro id' hopen
  obtain ⟨hnodup, hdrawn⟩ := hc.checked id' (hmove.uncompleted hopen)
  rw [numbersChecked_congr hchecks]
  exact ⟨hnodup, fun m hm => (hdrawn m hm).mono (hmono id')⟩

theorem MfaConfig.Numbered.check {key : Uuid × Nat} (hpc : (c.proc i).ticket = some key)
    (hattempts : w'.tables.challengeAttempts = c.shared.tables.challengeAttempts)
    (hchecks : w'.checks = key :: c.shared.checks) (hticket : pc'.ticket = none) :
    Numbered { proc := update c.proc i pc', shared := w' } := by
  obtain ⟨hcompleted, honce⟩ := hc.completion hmove
  have hbefore : ∀ j other, (update c.proc i pc' j).ticket = some other →
      j ≠ i ∧ (c.proc j).ticket = some other := by
    intro j other h
    rcases update_cases h with ⟨-, hnow⟩ | hold
    · exact nomatch hticket.symm.trans hnow
    · exact hold
  have hmono : ∀ {id n}, c.shared.Drawn id n → w'.Drawn id n := by
    intro id n h
    exact h.mono (by rw [hattempts])
  refine ⟨hcompleted, honce, ?_, ?_, ?_⟩
  · intro j id n h hopen
    obtain ⟨hji, hj⟩ := hbefore j _ h
    obtain ⟨hdrawn, hfresh⟩ := hc.waiting j id n hj (hmove.uncompleted hopen)
    refine ⟨hmono hdrawn, ?_⟩
    rw [numbersChecked_cons hchecks]
    split
    next hid =>
      intro hmem
      rcases mem_cons.mp hmem with rfl | hmem
      · -- the mover had the same number
        refine hji (hc.distinct j i id key.2 hj ?_ (hmove.uncompleted hopen))
        rw [hpc, ← hid]
      · exact hfresh hmem
    · exact hfresh
  · intro j k id n hj hk hopen
    exact hc.distinct j k id n (hbefore j _ hj).2 (hbefore k _ hk).2 (hmove.uncompleted hopen)
  intro id hopen
  obtain ⟨hnodup, hdrawn⟩ := hc.checked id (hmove.uncompleted hopen)
  rw [numbersChecked_cons hchecks]
  split
  next hid =>
    subst hid
    obtain ⟨hown, hfresh⟩ := hc.waiting i key.1 key.2 hpc (hmove.uncompleted hopen)
    refine ⟨nodup_cons.mpr ⟨hfresh, hnodup⟩, ?_⟩
    intro n hn
    rcases mem_cons.mp hn with rfl | hn
    · exact hmono hown
    · exact hmono (hdrawn n hn)
  · exact ⟨hnodup, fun n hn => hmono (hdrawn n hn)⟩

end

/-- **A move that does not overflow a counter keeps the invariant.** -/
theorem MfaConfig.Numbered.move {x : MfaInput} {c' : MfaConfig ι}
    (hcounts : c.CountsOn (i, x)) (hc : c.Numbered)
    (hmove : move env.next c (i, x) = some c') : c'.Numbered := by
  obtain ⟨pc', w', hnext, rfl⟩ := move_eq_some hmove
  have hattempt : AttemptMove (c.proc i) c.shared pc' w' := AttemptMove.of_next hnext
  cases hattempt with
  | quiet hsame hticket hcompleted =>
    exact hc.still (.quiet hsame hticket hcompleted) (fun _ _ => by rw [hsame.attempts])
      hsame.checks hticket
  | counted id n hpc hn hchallenges hattempts hchecks hticket hcompleted =>
    have hnext : n = c.shared.tables.challengeAttempts id + 1 := by
      rw [hn, Nat.mod_eq_of_lt (hcounts id hpc)]
    exact hc.counted (.counted id n hpc hn hchallenges hattempts hchecks hticket hcompleted) hnext
      hattempts hchecks hticket
  | checked key hpc hchallenges hattempts hchecks hticket hcompleted =>
    exact hc.check (.checked key hpc hchallenges hattempts hchecks hticket hcompleted) hpc hattempts
      hchecks hticket
  | closed id row row' hrow hpending hchallenges hattempts hchecks hticket hcompleted =>
    exact hc.still (.closed id row row' hrow hpending hchallenges hattempts hchecks hticket
      hcompleted) (fun _ _ => by rw [hattempts]) hchecks (by simp [hticket])
  | forgot id hpc hchallenges hattempts hchecks hticket hcompleted =>
    have hforgot : AttemptMove (c.proc i) c.shared pc' w' :=
      .forgot id hpc hchallenges hattempts hchecks hticket hcompleted
    refine hc.still hforgot ?_ hchecks (by simp [hticket])
    intro id' hopen
    rw [hattempts, update_of_ne]
    rintro rfl
    exact hc.completed i id' hpc (hforgot.uncompleted hopen)

end Move

/-! ## Every call counts once -/

theorem undrawn_of_transact {v : MfaShared ι} {attempt : Except String MfaWorld}
    (h : some (v.transact outcome attempt done) = some (pc', w')) (hundrawn : pc'.undrawn = true) :
    done.undrawn = true := by
  rcases MfaShared.transact_eq h with ⟨-, what, rfl⟩ | ⟨-, -, -, rfl | ⟨what, rfl⟩⟩
  · cases hundrawn
  · exact hundrawn
  · cases hundrawn

theorem undrawn_of_query (h : some (query outcome w .threw done) = some (pc', w'))
    (hundrawn : pc'.undrawn = true) : done.undrawn = true := by
  rcases query_eq h with ⟨-, rfl | ⟨what, rfl⟩⟩
  · exact hundrawn
  · cases hundrawn

/-- Whoever has a number to draw after a move had it before, and did not draw it by the move. -/
theorem undrawn_of_next {i : ι} {x : MfaInput} (h : env.next i pc x w = some (pc', w'))
    (hundrawn : pc'.undrawn = true) : pc.undrawn = true ∧ pc.countingFor = none := by
  cases pc with
  | findingChallenge => exact ⟨rfl, rfl⟩
  | counting id challenge credential now =>
    cases h
    unfold afterCount at hundrawn
    split at hundrawn <;> cases hundrawn
  | findingConfig a =>
    have hdone := undrawn_of_query h hundrawn
    unfold afterConfig at hdone
    split at hdone
    · cases hdone
    · split_ifs at hdone <;> cases hdone
  | checking a config =>
    cases h
    split at hundrawn <;> cases hundrawn
  | replayCheck a config step =>
    simp only [MfaEnv.next] at h
    split at h
    · cases h
    have h := some.inj h
    unfold replaySection at h
    split_ifs at h <;> (cases h; cases hundrawn)
  | recoveryCheck a =>
    have h := some.inj h
    unfold recoverySection at h
    dsimp only at h
    split at h <;> cases h
    · cases hundrawn
    · unfold afterInvalid at hundrawn
      split at hundrawn <;> cases hundrawn
  | failing | completing | promoting | touching | disabling =>
    cases undrawn_of_transact h hundrawn
  | findingOwnConfig user code =>
    have hdone := undrawn_of_query h hundrawn
    unfold afterOwnConfig at hdone
    split at hdone
    · cases hdone
    · split_ifs at hdone <;> cases hdone
  | matchingCode user code config now =>
    cases h
    split at hundrawn <;> cases hundrawn
  | forgetting | clearingCodes =>
    cases h
    cases hundrawn
  | clearingSteps user config proof =>
    simp only [MfaEnv.next] at h
    split at h <;> cases h
    cases hundrawn
  | verified | refused | disabled | notDisabled | threw => cases h

theorem undrawn_of_countingFor (h : pc.countingFor = some id) : pc.undrawn = true := by
  cases pc with
  | counting => rfl
  | _ => cases h

section
variable [Fintype ι] {c c' : MfaConfig ι}

/-- The calls that have still to draw a number. -/
def MfaConfig.undrawnCalls (c : MfaConfig ι) : Finset ι :=
  Finset.univ.filter fun j => (c.proc j).undrawn = true

theorem MfaConfig.mem_undrawnCalls {j : ι} : j ∈ c.undrawnCalls ↔ (c.proc j).undrawn = true := by
  simp [undrawnCalls]

/-- Every counter has room for all of them. -/
def MfaConfig.Roomy (c : MfaConfig ι) : Prop :=
  ∀ id, c.shared.tables.challengeAttempts id + c.undrawnCalls.card < 2 ^ 32

theorem MfaConfig.Roomy.countsOn (hc : c.Roomy) (m : ι × MfaInput) : c.CountsOn m := by
  intro id hid
  have hpos := Finset.card_pos.mpr ⟨m.1, mem_undrawnCalls.mpr (undrawn_of_countingFor hid)⟩
  have hroom := hc id
  omega

theorem MfaConfig.Roomy.move [DecidableEq ι] {m : ι × MfaInput} (hc : c.Roomy)
    (hmove : move env.next c m = some c') : c'.Roomy := by
  obtain ⟨pc', w', hnext, rfl⟩ := move_eq_some hmove
  have hcounts := hc.countsOn m
  have hbefore : ∀ j, (update c.proc m.1 pc' j).undrawn = true →
      (c.proc j).undrawn = true ∧ (j = m.1 → (c.proc m.1).countingFor = none) := by
    intro j h
    rcases update_cases h with ⟨rfl, hnow⟩ | ⟨hj, hold⟩
    · obtain ⟨hundrawn, hcounting⟩ := undrawn_of_next hnext hnow
      exact ⟨hundrawn, fun _ => hcounting⟩
    · exact ⟨hold, fun h => absurd h hj⟩
  have hsub : undrawnCalls ⟨update c.proc m.1 pc', w'⟩ ⊆ c.undrawnCalls := by
    intro j hj
    exact mem_undrawnCalls.mpr (hbefore j (mem_undrawnCalls.mp hj)).1
  have hle := Finset.card_le_card hsub
  intro id
  show w'.tables.challengeAttempts id + _ < _
  have hroom := hc id
  cases AttemptMove.of_next hnext with
  | quiet hsame =>
    rw [hsame.attempts]
    omega
  | checked _ _ _ hattempts | closed _ _ _ _ _ _ hattempts =>
    rw [hattempts]
    omega
  | forgot id' _ _ hattempts =>
    rw [hattempts, update_apply]
    split <;> omega
  | counted id' n hpc hn _ hattempts =>
    -- the number is drawn by one of the calls that had it still to draw
    have hless : (undrawnCalls ⟨update c.proc m.1 pc', w'⟩).card < c.undrawnCalls.card := by
      refine Finset.card_lt_card (Finset.ssubset_iff_subset_ne.mpr ⟨hsub, fun heq => ?_⟩)
      have hmem := mem_undrawnCalls.mpr (undrawn_of_countingFor hpc)
      rw [← heq] at hmem
      have hnone := (hbefore m.1 (mem_undrawnCalls.mp hmem)).2 rfl
      rw [hpc] at hnone
      cases hnone
    rw [Nat.mod_eq_of_lt (hcounts id' hpc)] at hn
    rw [hattempts, update_apply]
    split
    next heq =>
      rw [heq] at hroom
      omega
    · omega

end

/-! ## Runs -/

theorem MfaConfig.numbered_start (tables : MfaWorld) (calls : ι → MfaCall) :
    (start tables calls).Numbered := by
  have hidle : ∀ j, (calls j).begin.ticket = none ∧ (calls j).begin.completedBy = none := by
    intro j
    cases calls j <;> exact ⟨rfl, rfl⟩
  constructor
  · intro j id h
    exact nomatch (hidle j).2.symm.trans h
  · intro i j id h
    exact nomatch (hidle i).2.symm.trans h
  · intro j id n h
    exact nomatch (hidle j).1.symm.trans h
  · intro i j id n h
    exact nomatch (hidle i).1.symm.trans h
  intro id _
  exact ⟨nodup_nil, nofun⟩

section Runs
variable [DecidableEq ι]

theorem failed_stays {c d : MfaConfig ι} {ms : List (ι × MfaInput)}
    (hfailed : d.shared.tables.HasFailed id) (hrun : run env.next d ms = some c) :
    c.shared.tables.HasFailed id := by
  refine run_induction (I := fun c : MfaConfig ι => c.shared.tables.HasFailed id)
    (A := fun _ _ => True) ?_ hfailed (fun _ _ => trivial) hrun
  rintro c m c' - ⟨row, hrow, hstatus⟩ hmove
  obtain ⟨pc', w', hnext, rfl⟩ := move_eq_some hmove
  exact ⟨row, (AttemptMove.of_next hnext).kept hrow (by rw [hstatus]; decide), hstatus⟩

/-- **The brute-force bound.** In every run of `verify_challenge` and `disable_mfa` calls, fewer than `2 ^ 32`
in the life of the process: at most `maxChallengeAttempts` credentials are checked for a challenge that is
not completed, at most one call returns success for it, and once failed it stays failed. -/
theorem challenge_attempts_bounded [Fintype ι] (env : MfaEnv) (tables : MfaWorld) (calls : ι → MfaCall)
    {ms : List (ι × MfaInput)} {c : MfaConfig ι}
    (hrun : run env.next (start tables calls) ms = some c)
    (hcalls : ∀ id, tables.challengeAttempts id + Fintype.card ι < 2 ^ 32) (id : Uuid) :
    (c.shared.tables.Uncompleted id → c.shared.checksMade id ≤ maxChallengeAttempts) ∧
    (∀ i j, (c.proc i).succeededFor = some id → (c.proc j).succeededFor = some id → i = j) ∧
    (∀ earlier later d, ms = earlier ++ later → run env.next (start tables calls) earlier = some d →
      d.shared.tables.HasFailed id → c.shared.tables.HasFailed id) := by
  have hroomy : (start tables calls).Roomy := fun id =>
    (Nat.add_le_add_left (Finset.card_le_univ _) _).trans_lt (hcalls id)
  have hc : c.Numbered := by
    refine (run_induction (I := fun c : MfaConfig ι => c.Roomy ∧ c.Numbered) (A := fun _ _ => True) ?_
      ⟨hroomy, numbered_start tables calls⟩ (fun _ _ => trivial) hrun).2
    intro c m c' _ hc hmove
    exact ⟨hc.1.move hmove, hc.2.move (hc.1.countsOn m) hmove⟩
  refine ⟨hc.checksMade_le, ?_, ?_⟩
  · intro i j hi hj
    exact hc.once i j id (completedBy_of_succeededFor hi) (completedBy_of_succeededFor hj)
  intro earlier later d hms hd hfailed
  rw [hms, run_append_eq, hd] at hrun
  exact failed_stays hfailed hrun

end Runs

/-! ## Three wrong guesses -/

namespace Sample

open Lib.Interleaving.Numerals

def wrongGuesses : List (Fin 4 × MfaInput) :=
  List.replicate 5 (0, { now := 90000 }) ++ List.replicate 5 (1, { now := 90000 }) ++
    List.replicate 6 (2, { now := 90000 }) ++ [(3, { now := 90000 })]

end Sample

/-- After three wrong guesses the challenge has failed, and a fourth call is turned away. The process had been
started anew, so its counters stand at zero. -/
theorem three_wrong_guesses_fail_challenge :
    ∃ w c, Machine.run (MfaWorld.step Sample.env) Sample.world Sample.enrolledWithCode = some w ∧
      run Sample.env.next (start { w with challengeAttempts := fun _ => 0 }
        fun _ : Fin 4 => .verify (.ofByte 10) "wrong") Sample.wrongGuesses = some c ∧
      c.shared.tables.HasFailed (.ofByte 10) ∧ c.shared.checksMade (.ofByte 10) = 3 ∧
      c.shared.checksMade (.ofByte 10) ≤ maxChallengeAttempts := by
  simp only [exists_and_left]
  refine exists_of_any (fun w => (run Sample.env.next (start { w with challengeAttempts := fun _ => 0 }
      fun _ : Fin 4 => .verify (.ofByte 10) "wrong") Sample.wrongGuesses).any fun c =>
    (c.shared.tables.challenges (.ofByte 10)).map (·.status) = some .failed ∧
      c.shared.checksMade (.ofByte 10) = 3) (by decide) fun w _ hany =>
    exists_of_any _ hany fun c hc ⟨hstatus, hchecks⟩ => ?_
  obtain ⟨row, hrow, hfailed⟩ := map_eq_some_iff.mp hstatus
  refine ⟨⟨row, hrow, hfailed⟩, hchecks, ?_⟩
  refine (challenge_attempts_bounded Sample.env _ _ hc 
    (fun _ => (by decide : 0 + Fintype.card (Fin 4) < 2 ^ 32)) (.ofByte 10)).1 ?_
  intro r hr
  obtain rfl := some.inj (hrow.symm.trans hr)
  rw [hfailed]
  decide

end SecureCloud.Auth
