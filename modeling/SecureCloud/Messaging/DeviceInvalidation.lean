import SecureCloud.Lib.Interleaving
import SecureCloud.Messaging.RecipientDevices

/-
# Messaging.DeviceInvalidation — lookups beside `invalidate_device`

`resolve_devices_for_user` looks into the cache, asks the directory WITHOUT the cache's lock, and stores the
answer. The answer may be on its way while the device is invalidated: then the invalidation finds nothing
to take away, and the old records are stored AFTER it.

Answers of the directory are numbered in order. The numbers are ghosts: they say of records, in the cache
or returned, which answer they came with.
-/

namespace SecureCloud.Messaging

open Lib.Interleaving DeviceDirectoryCache

/-! ## What the cache has afterwards -/

namespace DeviceDirectoryCache

def Within (c' c : DeviceDirectoryCache) : Prop := ∀ u e, c'.entries u = some e → c.entries u = some e

variable {c : DeviceDirectoryCache} {user u : UserId} {e : CacheEntry} {now : TimePoint}
  {records : List DeviceCryptoRecord} {users : List UserId} {device : DeviceId}

theorem update_eq_some {f : UserId → Option CacheEntry} {o : Option CacheEntry}
    (h : Function.update f user o u = some e) : (u = user ∧ o = some e) ∨ (u ≠ user ∧ f u = some e) := by
  by_cases hu : u = user
  · subst hu
    exact .inl ⟨rfl, Function.update_self u o f ▸ h⟩
  · exact .inr ⟨hu, Function.update_of_ne hu o f ▸ h⟩

theorem within_invalidate (c : DeviceDirectoryCache) (user : UserId) : (c.invalidate user).Within c := by
  intro u e he
  rcases update_eq_some he with ⟨-, hnone⟩ | ⟨-, he⟩
  · cases hnone
  · exact he

theorem within_foldl_invalidate (c : DeviceDirectoryCache) (users : List UserId) :
    (users.foldl invalidate c).Within c := by
  induction users generalizing c with
  | nil => exact fun _ _ he => he
  | cons user users ih => exact fun u e he => within_invalidate c user u e (ih _ u e he)

theorem not_mem_of_foldl_invalidate (h : (users.foldl invalidate c).entries u = some e) : u ∉ users := by
  induction users generalizing c with
  | nil => exact List.not_mem_nil
  | cons user users ih =>
    intro hu
    rcases List.mem_cons.mp hu with rfl | hu
    · have hleft : (c.invalidate u).entries u = some e := within_foldl_invalidate _ users _ _ h
      rcases update_eq_some hleft with ⟨-, hnone⟩ | ⟨hne, -⟩
      · cases hnone
      · exact hne rfl
    · exact ih h hu

/-- What `invalidate_device` leaves has no record of the device. -/
theorem invalidateDevice_entries (h : (c.invalidateDevice device).entries u = some e) :
    c.entries u = some e ∧ ∀ r ∈ e.records, r.deviceId ≠ device := by
  have hwas := within_foldl_invalidate _ _ _ _ h
  refine ⟨hwas, fun r hr hdevice => not_mem_of_foldl_invalidate h (List.mem_filter.mpr ⟨?_, ?_⟩)⟩
  · rw [c.tracked, hwas]
    rfl
  simp only [hwas, Option.any_some, List.any_eq_true]
  exact ⟨r, hr, decide_eq_true hdevice⟩

theorem within_get (c : DeviceDirectoryCache) (now : TimePoint) (user : UserId) :
    (c.get now user).2.Within c := by
  unfold get
  split
  · exact fun _ _ he => he
  rename_i entry hentry
  split
  · exact within_invalidate c user
  -- the entry is moved to the front as it is
  intro u e he
  rcases update_eq_some he with ⟨rfl, hsame⟩ | ⟨-, he⟩
  · exact hentry.trans hsame
  · exact he

theorem get_eq_some (h : (c.get now user).1 = some records) :
    ∃ e, c.entries user = some e ∧ e.records = records := by
  unfold get at h
  split at h
  · cases h
  rename_i entry hentry
  split at h
  · cases h
  · exact ⟨entry, hentry, Option.some.inj h⟩

theorem put_entries (h : (c.put now user records).entries u = some e) :
    (u = user ∧ e.records = records) ∨ (u ≠ user ∧ c.entries u = some e) := by
  have hevict : c.evict.Within c := by
    unfold evict
    split
    · split
      · exact within_invalidate c _
      · exact fun _ _ he => he
    · exact fun _ _ he => he
  unfold put at h
  split at h
  all_goals
    rcases update_eq_some h with ⟨hu, he⟩ | ⟨hu, he⟩
    · exact .inl ⟨hu, by rw [← Option.some.inj he]⟩
  · exact .inr ⟨hu, he⟩
  · exact .inr ⟨hu, hevict _ _ he⟩

end DeviceDirectoryCache

/-! ## The calls -/

inductive ResolvePc
  | called (user : UserId)
  | asking (user : UserId)
  | answered (user : UserId) (records : List DeviceCryptoRecord) (n : Nat)
  | returned (records : List DeviceCryptoRecord) (n : Nat)
  | failed (e : CryptoDirectoryError)
  | invalidating (device : DeviceId)
  | invalidated

structure ResolveInput where
  now : TimePoint := 0
  answer : Except CryptoDirectoryError (List DeviceCryptoRecord) := .ok []

structure ResolveWorld where
  service : RecipientDeviceResolutionService
  answers : Nat := 0
  origin : UserId → Nat := fun _ => 0

def ResolveWorld.withCache (w : ResolveWorld) (cache : DeviceDirectoryCache) : ResolveWorld :=
  { w with service := { w.service with cache := cache } }

variable {ι : Type*}

/-- One move of `resolve_devices_for_user` or `invalidate_device`: a critical section of the cache, or
the directory's answer. -/
def resolveNext (_ : ι) (pc : ResolvePc) (x : ResolveInput) (w : ResolveWorld) :
    Option (ResolvePc × ResolveWorld) :=
  match pc with
  | .called user =>
    let got := w.service.cache.get x.now user
    some (match got.1 with
      | some records => .returned records (w.origin user)
      | none => if w.service.hasAuthClient then .asking user
        else .failed ⟨"Auth crypto directory client is uninitialized"⟩, w.withCache got.2)
  | .asking user => match x.answer with
    | .ok records => some (.answered user records w.answers, { w with answers := w.answers + 1 })
    | .error e => some (.failed e, w)
  | .answered user records n =>
    some (.returned records n, { w.withCache (w.service.cache.put x.now user records) with
      origin := Function.update w.origin user n })
  | .invalidating device => some (.invalidated, w.withCache (w.service.cache.invalidateDevice device))
  | .returned .. | .failed _ | .invalidated => none

/-! ## After the invalidation -/

/-- The records have the device, and come with an answer from before `t`. -/
def Stale (device : DeviceId) (t : Nat) (records : List DeviceCryptoRecord) (n : Nat) : Prop :=
  (∃ r ∈ records, r.deviceId = device) ∧ n < t

/-- Nothing stale is in the cache. -/
structure ResolveWorld.Renewed (device : DeviceId) (t : Nat) (w : ResolveWorld) : Prop where
  answers : t ≤ w.answers
  cached : ∀ u e, w.service.cache.entries u = some e → ¬ Stale device t e.records (w.origin u)

/-- Nothing stale is on its way there; a call that has returned such records was done by then. -/
def ResolvePc.Renewed (device : DeviceId) (t : Nat) (pc was : ResolvePc) : Prop :=
  match pc with
  | .answered _ records n => ¬ Stale device t records n
  | .returned records n => Stale device t records n → was = .returned records n
  | _ => True

theorem resolveNext_renewed {i : ι} {pc pc' was : ResolvePc} {x : ResolveInput} {w w' : ResolveWorld}
    {device : DeviceId} {t : Nat} (hw : w.Renewed device t) (hpc : pc.Renewed device t was)
    (h : resolveNext i pc x w = some (pc', w')) : w'.Renewed device t ∧ pc'.Renewed device t was := by
  cases pc with
  | called user =>
    cases h
    refine ⟨⟨hw.answers, fun u e he => hw.cached u e (within_get _ _ _ u e he)⟩, ?_⟩
    split
    next records hgot =>
      obtain ⟨e, he, rfl⟩ := get_eq_some hgot
      exact fun hstale => absurd hstale (hw.cached user e he)
    · split <;> trivial
  | asking user =>
    simp only [resolveNext] at h
    split at h
    · cases h
      -- this answer is a new one
      exact ⟨⟨Nat.le_succ_of_le hw.answers, hw.cached⟩, fun hstale => Nat.not_lt.mpr hw.answers hstale.2⟩
    · cases h
      exact ⟨hw, trivial⟩
  | answered user records n =>
    cases h
    refine ⟨⟨hw.answers, fun u e he => ?_⟩, fun hstale => absurd hstale hpc⟩
    rcases put_entries he with ⟨rfl, rfl⟩ | ⟨hne, he⟩
    · have hfresh : ¬ Stale device t e.records n := hpc
      simpa using hfresh
    · simpa [hne] using hw.cached u e he
  | invalidating device' =>
    cases h
    exact ⟨⟨hw.answers, fun u e he =>
      hw.cached u e (invalidateDevice_entries he).1⟩, trivial⟩
  | returned | failed | invalidated => cases h

variable [DecidableEq ι]

/-- **The invalidation is final** if no answer with the device is on its way into the cache: however the
calls go on, one that begins afterwards does not return records that the directory gave out before. -/
theorem invalidate_device_final {c c₀ c' : Config ι ResolvePc ResolveWorld} {i j : ι}
    {x : ResolveInput} {ms : List (ι × ResolveInput)} {device : DeviceId} {user : UserId}
    {records : List DeviceCryptoRecord} {n : Nat} (hpc : c.proc i = .invalidating device)
    (hclear : ∀ k u records n, c.proc k = .answered u records n → ∀ r ∈ records, r.deviceId ≠ device)
    (hmove : move resolveNext c (i, x) = some c₀) (hj : c₀.proc j = .called user)
    (hrun : run resolveNext c₀ ms = some c') (hreturned : c'.proc j = .returned records n)
    (hdevice : ∃ r ∈ records, r.deviceId = device) : c₀.shared.answers ≤ n := by
  let L := fun k (pc : ResolvePc) (_ : ResolveWorld) => pc.Renewed device c₀.shared.answers (c₀.proc k)
  have hstart : Annotated (ResolveWorld.Renewed device c₀.shared.answers) L c₀ := by
    refine ⟨⟨Nat.le_refl _, fun u e he hstale => ?_⟩, fun k => ?_⟩
    · obtain ⟨pc', w', hnext, rfl⟩ := move_eq_some hmove
      simp only [hpc] at hnext
      cases hnext
      obtain ⟨r, hr, hrd⟩ := hstale.1
      exact (invalidateDevice_entries he).2 r hr hrd
    cases hk : c₀.proc k with
    | answered u records n =>
      rintro ⟨⟨r, hr, hrd⟩, -⟩
      obtain ⟨pc', w', hnext, rfl⟩ := move_eq_some hmove
      simp only [hpc] at hnext
      cases hnext
      dsimp only at hk
      rw [Function.update_apply] at hk
      split at hk
      · cases hk
      · exact hclear k u records n hk r hr hrd
    | returned records n => exact fun _ => hk
    | _ => trivial
  have hstep : ∀ d m d', True → Annotated (ResolveWorld.Renewed device c₀.shared.answers) L d →
      move resolveNext d m = some d' → Annotated (ResolveWorld.Renewed device c₀.shared.answers) L d' :=
    fun d m d' _ hd hmove => move_annotated
      (fun _ _ hnext => resolveNext_renewed hd.1 (hd.2 m.1) hnext) (fun k _ _ _ _ => hd.2 k) hmove
  have hlast : (c'.proc j).Renewed device c₀.shared.answers (c₀.proc j) :=
    (run_induction hstep hstart (fun _ _ => trivial) hrun).2 j
  rw [hreturned] at hlast
  by_contra hold
  exact absurd (hj.symm.trans (hlast ⟨hdevice, Nat.not_le.mp hold⟩)) nofun

/-! ## A device of `bob` -/

namespace InvalidationSample

def records : List DeviceCryptoRecord := [⟨"phone", .active⟩]

def start : Config (Fin 3) ResolvePc ResolveWorld where
  proc := fun i => if i = 1 then .invalidating "phone" else .called "bob"
  shared := { service := ⟨true, .create 10 30000⟩ }

def answer : ResolveInput := { answer := .ok records }

def stored : Config (Fin 3) ResolvePc ResolveWorld :=
  (run resolveNext start [(0, {}), (0, answer), (0, {})]).getD start

end InvalidationSample

open InvalidationSample

/-- The phone is invalidated after the first lookup; the second asks again. -/
theorem asked_again : ∃ c₀ c', move resolveNext stored (1, {}) = some c₀ ∧
    run resolveNext c₀ [(2, {}), (2, answer), (2, {})] = some c' ∧
    c'.proc 2 = .returned records 1 ∧ c₀.shared.answers ≤ 1 := by
  refine ⟨_, _, rfl, rfl, rfl, ?_⟩
  refine @invalidate_device_final _ _ stored _ _ 1 2 {} [(2, {}), (2, answer), (2, {})] "phone" "bob"
    records 1 rfl ?_ rfl rfl rfl rfl ⟨_, .head _, rfl⟩
  intro k
  match k with
  | 0 | 1 | 2 => exact nofun

/-- **The old records come back**: the first lookup has its answer when the phone is invalidated and
stores it afterwards; the second one is answered from the cache. -/
theorem stale_records_returned : ∃ c c₀ c', run resolveNext start [(0, {}), (0, answer)] = some c ∧
    move resolveNext c (1, {}) = some c₀ ∧ c₀.proc 2 = .called "bob" ∧
    run resolveNext c₀ [(0, {}), (2, {})] = some c' ∧
    c'.proc 2 = .returned records 0 ∧ c₀.shared.answers = 1 := by
  refine ⟨_, _, _, rfl, rfl, ?_, rfl, ?_, ?_⟩ <;> rfl

end SecureCloud.Messaging
