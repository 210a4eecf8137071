import SecureCloud.Auth.SignedPrekeys

/-
# Auth.SignedPrekeyUniqueness — exactly one active signed prekey

A call for the device either holds no signed prekey of it (`HoldsNone`), or the ACTIVE one, locked while
it was active (`HasOld`): nobody else can replace that row, and the call commits the replacement together
with the mark on the old row. Identity keys are never written after the enrollment, so the key a new
prekey was verified under is still the active one at the commit.
-/

namespace SecureCloud.Auth

open Lib Lib.ReadCommitted Lib.Interleaving Table KeyDb List Option

variable {ι : Type*}

abbrev KeyTable (ι : Type*) := Table Uuid DevicePublicKeyEntity ι

/-! ## The property -/

structure OnlyActive (t : KeyTable ι) (device : Uuid) (keyType : KeyType)
    (r : DevicePublicKeyEntity) : Prop where
  committed : t.committed r.keyId = some r
  active : r.ActiveFor device keyType
  only : ∀ k r', t.committed k = some r' → r'.ActiveFor device keyType → k = r.keyId

def SignedUnder (verify : KeyBytes → KeyBytes → List UInt8 → Option String)
    (identity r : DevicePublicKeyEntity) : Prop :=
  ∃ signature, r.signature = some signature ∧ verify identity.publicKey r.publicKey signature = none

/-- The keys of a device are in order. -/
def KeysInOrder (verify : KeyBytes → KeyBytes → List UInt8 → Option String) (t : KeyTable ι)
    (device : Uuid) : Prop :=
  ∃ identity signed, OnlyActive t device .identitySigning identity ∧
    OnlyActive t device .signedPrekey signed ∧ SignedUnder verify identity signed

variable {r row : DevicePublicKeyEntity} {target old : Uuid} {pc : SignedPrekeyPc} {db' : KeyDb ι}

variable {device : Uuid} {call : SignedPrekeyCall} {db : KeyDb ι} {svc : PrekeyService}
  {x : KeyInput}

variable {t t' : KeyTable ι}

theorem OnlyActive.congr {keyType : KeyType} (h : OnlyActive t device keyType r)
    (hsame : t'.committed = t.committed) : OnlyActive t' device keyType r := by
  obtain ⟨hcommitted, hactive, honly⟩ := h
  rw [← hsame] at hcommitted honly
  exact ⟨hcommitted, hactive, honly⟩

/-! ## What the calls keep to -/

/-- Rows sit under their key id, identity keys are those of `start`; no statement changes a row's device
or type. -/
def keyDiscipline (start : KeyTable ι) : Discipline Uuid DevicePublicKeyEntity where
  Valid k r := r.keyId = k ∧ (r.keyType = .identitySigning → start.committed k = some r)
  Succ r r' := r'.deviceId = r.deviceId ∧ r'.keyType = r.keyType
  refl _ := ⟨rfl, rfl⟩
  trans h₁ h₂ := ⟨h₂.1.trans h₁.1, h₂.2.trans h₁.2⟩

def DevicePublicKeyEntity.SignedOf (r : DevicePublicKeyEntity) (device : Uuid) : Prop :=
  r.deviceId = device ∧ r.keyType = .signedPrekey

theorem DevicePublicKeyEntity.ActiveFor.signedOf
    (h : r.ActiveFor device .signedPrekey) : r.SignedOf device := ⟨h.1, h.2.1⟩

theorem keyDiscipline_signedOf_iff {start : KeyTable ι} {r' : DevicePublicKeyEntity}
    (h : (keyDiscipline start).Succ r r') (device : Uuid) : r'.SignedOf device ↔ r.SignedOf device := by
  show r'.deviceId = device ∧ r'.keyType = .signedPrekey ↔ _
  rw [h.1, h.2]
  exact Iff.rfl

def HoldsNone (t : KeyTable ι) (i : ι) (device : Uuid) : Prop :=
  ∀ k r, t.held k = some (i, r) → ¬ r.SignedOf device

/-- The call holds the active signed prekey of the device, and of its signed prekeys only `others`
beside it. -/
structure HasOld (t : KeyTable ι) (i : ι) (device old : Uuid) (others : Uuid → Prop) : Prop where
  committed : ∃ r, t.committed old = some r ∧ r.ActiveFor device .signedPrekey
  held : ∃ r, t.held old = some (i, r)
  only : ∀ k r, t.held k = some (i, r) → r.SignedOf device → k = old ∨ others k

def SignedAt (t : KeyTable ι) (target old : Uuid) : Prop :=
  ∃ r, t.committed old = some r ∧ r.SignedOf target

structure Ready (verify : KeyBytes → KeyBytes → List UInt8 → Option String) (device : Uuid)
    (identity : DevicePublicKeyEntity) (call : SignedPrekeyCall) (row : DevicePublicKeyEntity) :
    Prop where
  active : row.ActiveFor call.target .signedPrekey
  signed : call.target = device → SignedUnder verify identity row

/-- What a call with a row in hand knows: `own` if it is for the device, else that it holds none. -/
def Concerning (t : KeyTable ι) (i : ι) (device target : Uuid) (own : Prop) : Prop :=
  (target = device → own) ∧ (target ≠ device → HoldsNone t i device)

theorem Concerning.imp {i : ι} {own own' : Prop} (h : Concerning t i device target own)
    (hown : own → own') (hnone : HoldsNone t i device → HoldsNone t' i device) :
    Concerning t' i device target own' :=
  ⟨fun htarget => hown (h.1 htarget), fun htarget => hnone (h.2 htarget)⟩

section Invariant

variable (verify : KeyBytes → KeyBytes → List UInt8 → Option String) (device : Uuid)
  (identity : DevicePublicKeyEntity)

/-- What a call knows where it stands. -/
def CallKnows (i : ι) (t : KeyTable ι) : SignedPrekeyPc → Prop
  | .searching call row => Ready verify device identity call row ∧ HoldsNone t i device
  | .locking call row old => Ready verify device identity call row ∧ SignedAt t call.target old ∧
      HoldsNone t i device
  | .inserting call row (some old) => Ready verify device identity call row ∧
      SignedAt t call.target old ∧ Concerning t i device call.target (HasOld t i device old fun _ => False)
  | .inserting call row none => Ready verify device identity call row ∧ HoldsNone t i device ∧
      call.target ≠ device
  | .marking call row old => Ready verify device identity call row ∧
      SignedAt t call.target old ∧ Concerning t i device call.target
        (HasOld t i device old (· = row.keyId) ∧ t.held row.keyId = some (i, row) ∧ row.keyId ≠ old)
  | .committing call row (some old) => Ready verify device identity call row ∧
      Concerning t i device call.target
        (HasOld t i device old (· = row.keyId) ∧ t.held row.keyId = some (i, row) ∧
          ∃ r, t.held old = some (i, r) ∧ r.keyStatus ≠ .active)
  | .storing _ _ rest => HoldsNone t i device ∧ ∀ row ∈ rest, row.keyType = .oneTimePrekey
  | _ => HoldsNone t i device

/-- What holds of the table at all times. -/
structure OneSigned (start t : KeyTable ι) [DecidableEq ι] : Prop where
  sound : Table.Sound (keyDiscipline start) t
  stored : t.committed identity.keyId = some identity
  signed : ∃ r, OnlyActive t device .signedPrekey r ∧ SignedUnder verify identity r

end Invariant

variable [DecidableEq ι] {verify : KeyBytes → KeyBytes → List UInt8 → Option String} {device : Uuid}
  {identity : DevicePublicKeyEntity} {start t t' : KeyTable ι} {i j : ι}

/-! ## Others do not interfere -/

theorem HoldsNone.of_acts (h : HoldsNone t j device) (hacts : Acts (keyDiscipline start) i t t')
    (hne : j ≠ i) : HoldsNone t' j device :=
  fun k r hheld => h k r (hacts.held_of_ne hne hheld)

section
variable (h : SignedAt t target old) (ht : Table.Sound (keyDiscipline start) t)

include h ht

theorem SignedAt.of_acts (hacts : Acts (keyDiscipline start) i t t') :
    SignedAt t' target old := by
  obtain ⟨r, hr, hsigned⟩ := h
  -- the row is still there, and still a signed prekey of the target
  obtain ⟨r', hr', hsucc⟩ := hacts.evolves ht old r hr
  exact ⟨r', hr', (keyDiscipline_signedOf_iff hsucc _).mpr hsigned⟩

theorem SignedAt.view (hview : t.view i old = some r) :
    r.SignedOf target := by
  obtain ⟨r₀, hr₀, hsigned⟩ := h
  exact (keyDiscipline_signedOf_iff (ht.succ_view hview r₀ hr₀) _).mpr hsigned

end

theorem HasOld.of_acts {others : Uuid → Prop} (h : HasOld t j device old others)
    (hacts : Acts (keyDiscipline start) i t t') (hne : j ≠ i) :
    HasOld t' j device old others := by
  obtain ⟨r, hheld⟩ := h.held
  obtain ⟨hstill, hsame⟩ := hacts.frame hne hheld
  refine ⟨?_, ⟨r, hstill⟩, fun k r hk => h.only k r (hacts.held_of_ne hne hk)⟩
  rw [hsame]
  exact h.committed

theorem CallKnows.of_acts (h : CallKnows verify device identity j t pc)
    (ht : Sound (keyDiscipline start) t) (hacts : Acts (keyDiscipline start) i t t')
    (hne : j ≠ i) : CallKnows verify device identity j t' pc := by
  have hnone : HoldsNone t j device → HoldsNone t' j device := fun h => h.of_acts hacts hne
  have hframe : ∀ {k r}, t.held k = some (j, r) → t'.held k = some (j, r) :=
    fun hheld => (hacts.frame hne hheld).1
  match pc with
  | .searching _ _ => exact ⟨h.1, hnone h.2⟩
  | .locking _ _ _ => exact ⟨h.1, h.2.1.of_acts ht hacts, hnone h.2.2⟩
  | .inserting _ _ (some _) =>
    exact ⟨h.1, h.2.1.of_acts ht hacts, h.2.2.imp (fun h => h.of_acts hacts hne) hnone⟩
  | .inserting _ _ none => exact ⟨h.1, hnone h.2.1, h.2.2⟩
  | .marking _ _ _ =>
    refine ⟨h.1, h.2.1.of_acts ht hacts, h.2.2.imp ?_ hnone⟩
    rintro ⟨hold, hnew, hother⟩
    exact ⟨hold.of_acts hacts hne, hframe hnew, hother⟩
  | .committing _ _ (some _) =>
    refine ⟨h.1, h.2.imp ?_ hnone⟩
    rintro ⟨hold, hnew, r, hr, hreplaced⟩
    exact ⟨hold.of_acts hacts hne, hframe hnew, r, hframe hr, hreplaced⟩
  | .committing _ _ none => exact hnone h
  | .storing _ _ _ => exact ⟨hnone h.1, h.2⟩
  | .called _ | .verifying _ | .counting _ _ | .totalling _ _ _ | .returned _ => exact hnone h

/-! ## Commits -/

theorem HoldsNone.view_iff (h : HoldsNone t i device) (ht : Sound (keyDiscipline start) t)
    {k : Uuid} (hr : r.SignedOf device) :
    t.view i k = some r ↔ t.committed k = some r := by
  rcases t.held_or_view_eq i k with ⟨x, hheld⟩ | heq
  · constructor
    · intro hview
      rw [view_of_held hheld] at hview
      obtain rfl := some.inj hview
      exact absurd hr (h k x hheld)
    intro hcommitted
    -- the version it would leave is a signed prekey of the device, too
    have hsucc := ht.legal k i x r hheld hcommitted
    exact absurd ((keyDiscipline_signedOf_iff hsucc device).mpr hr) (h k x hheld)
  · rw [heq]

theorem holdsNone_commit (t : KeyTable ι) (i : ι) (device : Uuid) :
    HoldsNone (t.commit i) i device :=
  fun _ _ hheld => absurd rfl (commit_held_iff.mp hheld).2

theorem holdsNone_rollback (t : KeyTable ι) (i : ι) (device : Uuid) :
    HoldsNone (t.rollback i) i device :=
  fun _ _ hheld => absurd rfl (rollback_held_iff.mp hheld).2

theorem HoldsNone.hold (h : HoldsNone t i device) {k : Uuid}
    (hr : ¬ r.SignedOf device) : HoldsNone (t.hold i k r) i device := by
  intro k' x hheld
  rcases hold_held_cases hheld with ⟨-, hx⟩ | ⟨-, hheld⟩
  · exact (Prod.mk.inj hx).2 ▸ hr
  · exact h k' x hheld

theorem OneSigned.stored_of_acts (h : OneSigned verify device identity start t)
    (hidentity : identity.keyType = .identitySigning)
    (hacts : Acts (keyDiscipline start) i t t') :
    t'.committed identity.keyId = some identity := by
  obtain ⟨r, hr, hsucc⟩ := hacts.evolves h.sound _ _ h.stored
  have hstart := (h.sound.committed _ _ h.stored).2 hidentity
  have hstart' := ((hacts.sound h.sound).committed _ r hr).2 (hsucc.2.trans hidentity)
  rw [hr, ← hstart', hstart]

theorem HoldsNone.signed_commit (h : HoldsNone t i device)
    (ht : Sound (keyDiscipline start) t) (hr : OnlyActive t device .signedPrekey r) :
    OnlyActive (t.commit i) device .signedPrekey r := by
  refine ⟨(h.view_iff ht hr.active.signedOf).mpr hr.committed, hr.active, ?_⟩
  intro k r' hcommitted hactive
  exact hr.only k r' ((h.view_iff ht hactive.signedOf).mp hcommitted) hactive

theorem HasOld.signed_commit {replaced : DevicePublicKeyEntity}
    (h : HasOld t i device old (· = row.keyId)) (hrow : t.held row.keyId = some (i, row))
    (hactive : row.ActiveFor device .signedPrekey) (hold : t.held old = some (i, replaced))
    (hreplaced : replaced.keyStatus ≠ .active) (hr : OnlyActive t device .signedPrekey r) :
    OnlyActive (t.commit i) device .signedPrekey row := by
  -- the old row was the only active one
  obtain ⟨r₀, hr₀, hactive₀⟩ := h.committed
  have hkey : old = r.keyId := hr.only old r₀ hr₀ hactive₀
  refine ⟨view_of_held hrow, hactive, ?_⟩
  intro k r' hcommitted hactive'
  have hview : t.view i k = some r' := hcommitted
  rcases t.held_or_view_eq i k with ⟨x, hheld⟩ | heq
  · rw [view_of_held hheld] at hview
    obtain rfl := some.inj hview
    rcases h.only k x hheld hactive'.signedOf with rfl | hk
    · obtain ⟨-, rfl⟩ := Prod.mk.inj (some.inj (hold.symm.trans hheld))
      exact absurd hactive'.2.2 hreplaced
    · exact hk
  -- a row that is not held would have been active before: it is the old one, which is held
  have hk : k = old := (hr.only k r' (heq.symm.trans hview) hactive').trans hkey.symm
  subst hk
  rw [view_of_held hold] at hview
  cases hview
  exact absurd hactive'.2.2 hreplaced

section
variable (h : OneSigned verify device identity start t)

include h

theorem signed_of_holdsNone (hnone : HoldsNone t i device) :
    ∃ s, OnlyActive (t.commit i) device .signedPrekey s ∧ SignedUnder verify identity s := by
  obtain ⟨s, honly, hsigned⟩ := h.signed
  exact ⟨s, hnone.signed_commit h.sound honly, hsigned⟩

theorem signed_of_committing
    (hknows : CallKnows verify device identity i t (.committing call row (some old))) :
    ∃ s, OnlyActive (t.commit i) device .signedPrekey s ∧ SignedUnder verify identity s := by
  obtain ⟨hready, hown, hother⟩ := hknows
  by_cases htarget : call.target = device
  · obtain ⟨hold, hrow, replaced, hheld, hreplaced⟩ := hown htarget
    obtain ⟨s, honly, -⟩ := h.signed
    have hactive : row.ActiveFor device .signedPrekey := htarget ▸ hready.active
    exact ⟨row, hold.signed_commit hrow hactive hheld hreplaced honly, hready.signed htarget⟩
  · exact signed_of_holdsNone h (hother htarget)

end

/-! ## One move -/

/-- What a move establishes: what the transaction did, the table afterwards, what the call knows from then
on. -/
structure Steps (verify : KeyBytes → KeyBytes → List UInt8 → Option String) (device : Uuid)
    (identity : DevicePublicKeyEntity) (start : KeyTable ι) (i : ι) (t : KeyTable ι)
    (r : SignedPrekeyPc × KeyDb ι) : Prop where
  acts : Table.Acts (keyDiscipline start) i t r.2.keys
  signed : ∃ s, OnlyActive r.2.keys device .signedPrekey s ∧ SignedUnder verify identity s
  knows : CallKnows verify device identity i r.2.keys r.1

section Step

variable {db : KeyDb ι} (h : OneSigned verify device identity start db.keys)

include h

theorem steps_read (hknows : CallKnows verify device identity i db.keys pc) :
    Steps verify device identity start i db.keys (pc, db) :=
  ⟨.refl _, h.signed, hknows⟩

variable {keys : KeyTable ι}

section
variable (hacts : Table.Acts (keyDiscipline start) i db.keys keys)
  (hsame : keys.committed = db.keys.committed)

include hacts hsame

theorem steps_fail (error : PrekeyError) :
    Steps verify device identity start i db.keys (fail { db with keys := keys } i error) := by
  refine ⟨hacts.trans (.rollback keys), ?_, holdsNone_rollback keys i device⟩
  obtain ⟨s, honly, hsigned⟩ := h.signed
  exact ⟨s, honly.congr hsame, hsigned⟩

theorem steps_take (hknows : CallKnows verify device identity i keys pc) :
    Steps verify device identity start i db.keys (pc, { db with keys := keys }) := by
  refine ⟨hacts, ?_, hknows⟩
  obtain ⟨s, honly, hsigned⟩ := h.signed
  exact ⟨s, honly.congr hsame, hsigned⟩

end

variable {error : String → PrekeyError} {done : SignedPrekeyPc}

theorem steps_commitTo {outcome : TransactionOutcome}
    (hdone : ∀ t : KeyTable ι, HoldsNone t i device →
      CallKnows verify device identity i t done)
    (hsigned : ∃ s, OnlyActive (db.keys.commit i) device .signedPrekey s ∧
      SignedUnder verify identity s) :
    Steps verify device identity start i db.keys (db.commitTo i outcome error done) := by
  cases outcome with
  | committed => exact ⟨.commit _, hsigned, hdone _ (holdsNone_commit _ i device)⟩
  | aborted what => exact steps_fail h (.refl _) rfl _
  | lost what => exact ⟨.commit _, hsigned, holdsNone_commit _ i device⟩

variable {fault : Option String}

theorem steps_stateOr {statement : Option (SignedPrekeyPc × KeyDb ι)} {r : SignedPrekeyPc × KeyDb ι}
    (hstatement : statement = some r → Steps verify device identity start i db.keys r)
    (hr : db.stateOr i fault error statement = some r) :
    Steps verify device identity start i db.keys r := by
  cases fault with
  | none => exact hstatement hr
  | some what =>
    cases hr
    exact steps_fail h (.refl _) rfl _

theorem steps_insertRow {r : SignedPrekeyPc × KeyDb ι} (htype : row.keyType ≠ .identitySigning)
    (hdone : db.keys.view i row.keyId = none →
      CallKnows verify device identity i (db.keys.hold i row.keyId row) done)
    (hr : db.insertRow i row error done = some r) :
    Steps verify device identity start i db.keys r := by
  obtain ⟨inserted, hinsert, rfl⟩ := map_eq_some_iff.mp hr
  cases inserted with
  | none => exact steps_fail h (.refl _) rfl _
  | some keys =>
    have hvalid : (keyDiscipline start).Valid row.keyId row :=
      ⟨rfl, fun hidentity => absurd hidentity htype⟩
    have hacts := insert_acts h.sound hvalid hinsert
    obtain ⟨-, hnone, rfl⟩ := insert_cases hinsert
    exact steps_take h hacts rfl (hdone hnone)

/-- Locking the old key. A call for the device that finds it active holds the active one. -/
theorem steps_lockOld {r : SignedPrekeyPc × KeyDb ι}
    (hknows : CallKnows verify device identity i db.keys (.locking call row old))
    (hr : db.lockOld i call row old = some r) :
    Steps verify device identity start i db.keys r := by
  obtain ⟨hready, hat, hnone⟩ := hknows
  obtain ⟨⟨found, keys⟩, hselect, rfl⟩ := map_eq_some_iff.mp hr
  have hacts := selectForUpdate_acts h.sound hselect
  rcases selectForUpdate_cases hselect with ⟨rfl, rfl⟩ | ⟨seen, rfl, hview, -, rfl⟩
  · exact steps_fail h hacts rfl _
  have hsigned : seen.SignedOf call.target := hat.view h.sound hview
  simp only
  split
  · exact steps_fail h hacts rfl _
  rename_i hactive
  refine steps_take h hacts rfl ⟨hready, hat, ?_, ?_⟩
  · intro htarget
    have hdevice : seen.SignedOf device := htarget ▸ hsigned
    refine ⟨⟨seen, (hnone.view_iff h.sound hdevice).mp hview, hdevice.1, hdevice.2, not_not.mp hactive⟩,
      ⟨seen, hold_held_self⟩, ?_⟩
    intro k x hheld hx
    rcases hold_held_cases hheld with ⟨rfl, -⟩ | ⟨-, hheld⟩
    · exact .inl rfl
    · exact absurd hx (hnone k x hheld)
  intro htarget
  apply hnone.hold
  intro hdevice
  exact htarget (hsigned.1.symm.trans hdevice.1)

theorem steps_markReplaced {r : SignedPrekeyPc × KeyDb ι}
    (hknows : CallKnows verify device identity i db.keys (.marking call row old))
    (hr : db.markReplaced i call row old = some r) :
    Steps verify device identity start i db.keys r := by
  obtain ⟨hready, hat, hown, hother⟩ := hknows
  obtain ⟨⟨affected, keys⟩, hupdate, rfl⟩ := map_eq_some_iff.mp hr
  rcases update_cases hupdate with ⟨rfl, rfl⟩ | ⟨seen, rfl, hview, -, hfree, rfl⟩
  · exact steps_fail h (.refl _) rfl _
  have hsigned := hat.view h.sound hview
  have hvalid : (keyDiscipline start).Valid old (seen.replacedBy row.keyId) :=
    ⟨(h.sound.view hview).1, fun hidentity => absurd (hsigned.2.symm.trans hidentity) nofun⟩
  have hsucc : ∀ r₀, db.keys.committed old = some r₀ → (keyDiscipline start).Succ r₀ seen :=
    h.sound.succ_view hview
  have hacts : Table.Acts (keyDiscipline start) i db.keys
      (db.keys.hold i old (seen.replacedBy row.keyId)) :=
    .hold _ old _ hfree hvalid fun r₀ h₀ => hsucc r₀ h₀
  refine steps_take h hacts rfl ⟨hready, ?_, ?_⟩
  · intro htarget
    obtain ⟨hold, hnew, hne⟩ := hown htarget
    refine ⟨⟨hold.committed, ⟨_, hold_held_self⟩, ?_⟩, ?_, ?_⟩
    · intro k x hheld hx
      rcases hold_held_cases hheld with ⟨rfl, -⟩ | ⟨-, hheld⟩
      · exact .inl rfl
      · exact hold.only k x hheld hx
    · rw [hold_held_of_ne hne]
      exact hnew
    · exact ⟨_, hold_held_self, nofun⟩
  intro htarget
  apply (hother htarget).hold
  intro hdevice
  exact htarget (hsigned.1.symm.trans hdevice.1)

end Step

/-- The insert of the new key, with the old one locked. -/
theorem knows_marking
    (hknows : CallKnows verify device identity i db.keys (.inserting call row (some old)))
    (hview : db.keys.view i row.keyId = none) :
    CallKnows verify device identity i (db.keys.hold i row.keyId row) (.marking call row old) := by
  obtain ⟨hready, hat, hown, hother⟩ := hknows
  refine ⟨hready, hat, ?_, ?_⟩
  · intro htarget
    obtain ⟨hcommitted, ⟨r, hheld⟩, honly⟩ := hown htarget
    -- the old row is seen, and the new one is not
    have hne : row.keyId ≠ old := by
      rintro rfl
      exact absurd (hview.symm.trans (view_of_held hheld)) nofun
    refine ⟨⟨hcommitted, ⟨r, ?_⟩, ?_⟩, hold_held_self, hne⟩
    · rw [hold_held_of_ne hne.symm]
      exact hheld
    intro k x hk hx
    rcases hold_held_cases hk with ⟨rfl, -⟩ | ⟨-, hk⟩
    · exact .inr rfl
    · exact .inl ((honly k x hk hx).resolve_right id)
  intro htarget
  apply (hother htarget).hold
  intro hdevice
  exact htarget (hready.active.1.symm.trans hdevice.1)

/-! ## What a call reads -/

section Reads

variable {db : KeyDb ι} {svc : PrekeyService} {call : SignedPrekeyCall}

theorem findActiveIdentityKey_eq (hstart : OnlyActive start device .identitySigning identity)
    (h : OneSigned verify device identity start db.keys)
    (hr : db.findActiveIdentityKey device = some r) : r = identity := by
  obtain ⟨⟨k, hk⟩, hactive⟩ := mem_activeKeys.mp (firstBy_mem hr)
  have hk' := (h.sound.committed k r hk).2 hactive.2.1
  have hkey := hstart.only k r hk' hactive
  rw [hkey, hstart.committed] at hk'
  exact (some.inj hk').symm

theorem findActiveSignedPrekey_ne_none (h : OneSigned verify device identity start db.keys) :
    db.findActiveSignedPrekey device ≠ none := by
  intro hnone
  obtain ⟨s, honly, -⟩ := h.signed
  have hmem : s ∈ db.activeKeys device .signedPrekey :=
    mem_activeKeys.mpr ⟨⟨_, honly.committed⟩, honly.active⟩
  rw [firstBy_eq_none hnone] at hmem
  exact absurd hmem not_mem_nil

variable {x : KeyInput}

omit [DecidableEq ι] in
theorem knows_readOr {error : String → PrekeyError}
    (hnone : HoldsNone t i device) (hpc : CallKnows verify device identity i t pc) :
    CallKnows verify device identity i t (readOr fault error pc) := by
  cases fault with
  | none => exact hpc
  | some what => exact hnone

omit [DecidableEq ι] in
theorem knows_afterSigned (rotated : Bool) (hnone : HoldsNone t i device) :
    CallKnows verify device identity i t (svc.afterSigned x rotated call) := by
  cases call with
  | rotate cmd => exact hnone
  | update cmd =>
    show CallKnows verify device identity i t (ite _ _ _)
    split
    · exact hnone
    split
    · exact hnone
    refine ⟨hnone, fun row hrow => ?_⟩
    obtain ⟨key, -, rfl⟩ := mem_map.mp hrow
    rfl

omit [DecidableEq ι] in
theorem knows_afterDevice {found : Option DeviceEntity} (hnone : HoldsNone t i device) :
    CallKnows verify device identity i t (svc.afterDevice x call found) := by
  unfold PrekeyService.afterDevice
  split
  · exact hnone
  split
  · exact knows_afterSigned false hnone
  · exact hnone

theorem activeFor_signedPrekey (call : SignedPrekeyCall) (keyId : Uuid) (now : TimePoint) :
    (call.signedPrekey keyId now).ActiveFor call.target .signedPrekey := by
  cases call <;> exact ⟨rfl, rfl, rfl⟩

theorem signedUnder_signedPrekey {keyId : Uuid} {now : TimePoint}
    (hverify : verify identity.publicKey call.newSignedPrekey call.newSignature = none) :
    SignedUnder verify identity (call.signedPrekey keyId now) := by
  cases call <;> exact ⟨_, rfl, hverify⟩

theorem knows_afterIdentity (hstart : OnlyActive start device .identitySigning identity)
    (h : OneSigned svc.verifySignature device identity start db.keys)
    (hnone : HoldsNone db.keys i device) :
    CallKnows svc.verifySignature device identity i db.keys
      (svc.afterIdentity x call (db.findActiveIdentityKey call.target)) := by
  unfold PrekeyService.afterIdentity
  split
  · exact hnone
  rename_i found hfound
  split
  · exact hnone
  rename_i hverify
  refine ⟨⟨activeFor_signedPrekey call _ _, ?_⟩, hnone⟩
  intro htarget
  rw [htarget] at hfound
  obtain rfl := findActiveIdentityKey_eq hstart h hfound
  exact signedUnder_signedPrekey hverify

theorem knows_searched (h : OneSigned verify device identity start db.keys)
    (hready : Ready verify device identity call row) (hnone : HoldsNone db.keys i device) :
    CallKnows verify device identity i db.keys (match db.findActiveSignedPrekey call.target with
        | some current => .locking call row current.keyId
        | none => .inserting call row none) := by
  split
  next current hfound =>
    obtain ⟨⟨k, hk⟩, hactive⟩ := mem_activeKeys.mp (firstBy_mem hfound)
    refine ⟨hready, ⟨current, ?_, hactive.signedOf⟩, hnone⟩
    rw [(h.sound.committed k current hk).1]
    exact hk
  rename_i hfound
  refine ⟨hready, hnone, ?_⟩
  rintro rfl
  exact findActiveSignedPrekey_ne_none h hfound

end Reads

/-! ## Every move -/

theorem steps_nextStatement {r : SignedPrekeyPc × KeyDb ι}
    (hstart : OnlyActive start device .identitySigning identity)
    (h : OneSigned svc.verifySignature device identity start db.keys)
    (hknows : CallKnows svc.verifySignature device identity i db.keys pc)
    (hnext : svc.nextStatement i pc x db = some r) :
    Steps svc.verifySignature device identity start i db.keys r := by
  match pc with
  | .called call =>
    simp only [PrekeyService.nextStatement] at hnext
    split at hnext
    · cases hnext
      exact steps_read h hknows
    cases hnext
    exact steps_read h (knows_readOr hknows (knows_afterDevice hknows))
  | .verifying call =>
    cases hnext
    exact steps_read h (knows_readOr hknows (knows_afterIdentity hstart h hknows))
  | .searching call row =>
    cases hnext
    exact steps_read h (knows_readOr hknows.2 (knows_searched h hknows.1 hknows.2))
  | .locking call row old => exact steps_stateOr h (steps_lockOld h hknows) hnext
  | .inserting call row (some old) =>
    apply steps_stateOr h _ hnext
    apply steps_insertRow h
    · rw [hknows.1.active.2.1]
      nofun
    · exact knows_marking hknows
  | .inserting call row none =>
    obtain ⟨hready, hnone, htarget⟩ := hknows
    apply steps_stateOr h _ hnext
    apply steps_insertRow h
    · rw [hready.active.2.1]
      nofun
    intro _
    apply hnone.hold
    exact fun hdevice => htarget (hready.active.1.symm.trans hdevice.1)
  | .marking call row old => exact steps_stateOr h (steps_markReplaced h hknows) hnext
  | .committing call row (some old) =>
    cases hnext
    apply steps_commitTo h fun t hnone => knows_afterSigned true hnone
    exact signed_of_committing h hknows
  | .committing call row none =>
    cases hnext
    apply steps_commitTo h fun t hnone => knows_afterSigned true hnone
    exact signed_of_holdsNone h hknows
  | .storing cmd rotated [] =>
    cases hnext
    have hdone : ∀ t : KeyTable ι, HoldsNone t i device →
        CallKnows svc.verifySignature device identity i t (.counting cmd rotated) := fun _ hnone => hnone
    exact steps_commitTo h hdone (signed_of_holdsNone h hknows.1)
  | .storing cmd rotated (row :: rest) =>
    obtain ⟨hnone, hrest⟩ := hknows
    have hrow : row.keyType = .oneTimePrekey := hrest row mem_cons_self
    apply steps_stateOr h _ hnext
    apply steps_insertRow h
    · rw [hrow]
      nofun
    intro _
    refine ⟨hnone.hold fun hdevice => ?_, fun row' hrow' => hrest row' (mem_cons_of_mem _ hrow')⟩
    exact absurd (hrow.symm.trans hdevice.2) nofun
  | .counting cmd rotated =>
    cases hnext
    exact steps_read h (knows_readOr hknows hknows)
  | .totalling cmd rotated added =>
    cases hnext
    exact steps_read h (knows_readOr hknows hknows)
  | .returned result => cases hnext

structure KeyDb.Settled (db : KeyDb ι) : Prop where
  quiet : ∀ k, db.keys.held k = none
  keyed : ∀ k r, db.keys.committed k = some r → r.keyId = k
  owned : ∀ k r, db.keys.committed k = some r → (db.devices r.deviceId).isSome

theorem OneSigned.keysInOrder (h : OneSigned verify device identity start t)
    (hstart : OnlyActive start device .identitySigning identity) :
    KeysInOrder verify t device := by
  obtain ⟨signed, honly, hsigned⟩ := h.signed
  refine ⟨identity, signed, ⟨h.stored, hstart.active, ?_⟩, honly, hsigned⟩
  intro k r hk hactive
  exact hstart.only k r ((h.sound.committed k r hk).2 hactive.2.1) hactive

/-- Every run keeps the keys of a device in order, at every commit. -/
theorem keysInOrder_of_run {calls : ι → SignedPrekeyCall}
    {ms : List (ι × KeyInput)} {c : KeyConfig ι} (hquiet : ∀ k, db.keys.held k = none)
    (hkeyed : ∀ k r, db.keys.committed k = some r → r.keyId = k)
    (horder : KeysInOrder svc.verifySignature db.keys device)
    (hrun : run svc.nextStatement ⟨fun i => .called (calls i), db⟩ ms = some c) :
    KeysInOrder svc.verifySignature c.shared.keys device := by
  obtain ⟨identity, signed, hidentity, honly, hsigned⟩ := horder
  have hinit : Annotated
      (fun s : KeyDb ι => OneSigned svc.verifySignature device identity db.keys s.keys)
      (fun i pc s => CallKnows svc.verifySignature device identity i s.keys pc)
      ⟨fun i => .called (calls i), db⟩ := by
    refine ⟨⟨⟨fun k r hk => ⟨hkeyed k r hk, fun _ => hk⟩, ?_, ?_⟩, hidentity.committed,
      ⟨signed, honly, hsigned⟩⟩, ?_⟩
    · intro k i r hheld
      exact absurd ((hquiet k).symm.trans hheld) nofun
    · intro k i r r₀ hheld
      exact absurd ((hquiet k).symm.trans hheld) nofun
    intro i k r hheld
    exact absurd ((hquiet k).symm.trans hheld) nofun
  -- the moves of a run are those of the calls, whatever the environment contributes
  have hfinal := run_induction (A := fun _ _ => True) (fun c m c' _ hc hmove => move_annotated
      (fun p' s' hnext => by
        have hsteps := steps_nextStatement hidentity hc.1 (hc.2 m.1) hnext
        exact ⟨⟨hsteps.acts.sound hc.1.sound, hc.1.stored_of_acts hidentity.active.2.1 hsteps.acts,
          hsteps.signed⟩, hsteps.knows⟩)
      (fun j p' s' hne hnext => by
        have hsteps := steps_nextStatement hidentity hc.1 (hc.2 m.1) hnext
        exact (hc.2 j).of_acts hc.1.sound hsteps.acts hne.symm)
      hmove) hinit (fun _ _ => trivial) hrun
  exact hfinal.1.keysInOrder hidentity

/-! ## Enrollment -/

/-- What storing rows does: they are committed, beside what was. -/
theorem KeyDb.storeRows_spec {rows : List DevicePublicKeyEntity}
    (h : storeRows i db rows = .ok db') (hquiet : ∀ k, db.keys.held k = none) :
    (∀ k, db'.keys.held k = none) ∧ ∀ k r, db'.keys.committed k = some r ↔
      db.keys.committed k = some r ∨ (r ∈ rows ∧ r.keyId = k) := by
  induction rows generalizing db with
  | nil =>
    cases h
    exact ⟨hquiet, fun k r => by simp⟩
  | cons row rows ih =>
    simp only [storeRows] at h
    split at h
    next keys hinsert =>
      obtain ⟨-, hnone, rfl⟩ := insert_cases hinsert
      rw [view_of_not_held i (hquiet _)] at hnone
      have hquiet' : ∀ k, ((db.keys.hold i row.keyId row).commit i).held k = none := by
        intro k
        cases hheld : ((db.keys.hold i row.keyId row).commit i).held k with
        | none => rfl
        | some holder =>
          -- the only row that is held is the one that was inserted
          obtain ⟨hheld, hne⟩ := commit_held_iff.mp hheld
          rcases hold_held_cases hheld with ⟨-, rfl⟩ | ⟨-, hheld⟩
          · exact absurd rfl hne
          · exact absurd ((hquiet k).symm.trans hheld) nofun
      obtain ⟨hquiet'', hrest⟩ := ih h hquiet'
      refine ⟨hquiet'', fun k r => (hrest k r).trans ?_⟩
      rw [commit_committed]
      by_cases hk : k = row.keyId
      · subst hk
        rw [hold_view_self, hnone]
        grind
      · rw [hold_view_of_ne hk, view_of_not_held i (hquiet k)]
        grind
    all_goals cases h

theorem EnrollCommand.result_deviceId (cmd : EnrollCommand) (x : KeyInput) (pairing : String)
    (pairingTtl : TimePoint) : (cmd.result x pairing pairingTtl).deviceId = x.fresh 0 := by
  unfold EnrollCommand.result
  split <;> rfl

variable {cmd : EnrollCommand} {pairing : String} {pairingTtl : TimePoint}
  {result : DeviceEnrollmentResult}

/-- What a successful enrollment did: the bundle was valid, the device is new, and its rows are
stored. -/
theorem KeyDb.enrollDevice_success
    (h : db.enrollDevice svc i cmd x pairing pairingTtl = .ok (result, db'))
    (hsuccess : result.success = true) :
    result.deviceId = x.fresh 0 ∧ db.devices (x.fresh 0) = none ∧
      svc.verifySignature cmd.identityKey cmd.signedPrekey cmd.signature = none ∧
      ∃ devices, storeRows i { db with devices := devices } (cmd.rows x) = .ok db' := by
  unfold enrollDevice at h
  split at h
  · cases h
    cases hsuccess
  rename_i hbundle
  have hverify : svc.verifySignature cmd.identityKey cmd.signedPrekey cmd.signature = none := by
    unfold PrekeyService.validateRegistrationBundle at hbundle
    split at hbundle
    · cases hbundle
    · assumption
  dsimp only at h
  split at h
  · cases h
  rename_i hnew
  have hnew := not_isSome_iff_eq_none.mp hnew
  split at h
  · cases h
  rename_i stored hstored
  cases h
  exact ⟨cmd.result_deviceId x pairing pairingTtl, hnew, hverify, _, hstored⟩

theorem KeyDb.enrollDevice_inOrder
    (hdb : db.Settled) (h : db.enrollDevice svc i cmd x pairing pairingTtl = .ok (result, db'))
    (hsuccess : result.success = true) :
    (∀ k, db'.keys.held k = none) ∧ (∀ k r, db'.keys.committed k = some r → r.keyId = k) ∧
      KeysInOrder svc.verifySignature db'.keys result.deviceId := by
  obtain ⟨hdevice, hnew, hverify, devices, hstored⟩ := enrollDevice_success h hsuccess
  obtain ⟨hquiet, hcommitted⟩ := storeRows_spec hstored hdb.quiet
  -- the keys of the device are the rows of the command
  have hrows : ∀ k r, db'.keys.committed k = some r → r.deviceId = x.fresh 0 →
      r ∈ cmd.rows x ∧ r.keyId = k := by
    intro k r hk hr
    rcases (hcommitted k r).mp hk with hbefore | hrow
    · have howned := hdb.owned k r hbefore
      rw [hr, hnew] at howned
      cases howned
    · exact hrow
  refine ⟨hquiet, ?_, ?_⟩
  · intro k r hk
    rcases (hcommitted k r).mp hk with hbefore | ⟨-, hkey⟩
    · exact hdb.keyed k r hbefore
    · exact hkey
  rw [hdevice]
  refine ⟨_, _, ⟨(hcommitted _ _).mpr (.inr ⟨.head _, rfl⟩), ⟨rfl, rfl, rfl⟩, ?_⟩,
    ⟨(hcommitted _ _).mpr (.inr ⟨.tail _ (.head _), rfl⟩), ⟨rfl, rfl, rfl⟩, ?_⟩,
    cmd.signature, rfl, hverify⟩
  all_goals
    rintro k r hk ⟨hr, htype, -⟩
    obtain ⟨hrow, rfl⟩ := hrows k r hk hr
    simp only [EnrollCommand.rows, List.mem_cons, List.mem_map] at hrow
    rcases hrow with rfl | rfl | ⟨key, -, rfl⟩
    all_goals first | rfl | cases htype

/-! ## The main theorem -/

/-- **One active signed prekey, signed by the one active identity key.** A device has been enrolled. Calls
that rotate or update signed prekeys, of this device and others, run their statements in any order;
statements fail, commits abort or lose their answers. Every committed state has the keys of the device in
order. `devices` are the device rows by the time of the calls. -/
theorem PrekeyService.one_active_signed_prekey (svc : PrekeyService) {db enrolled : KeyDb ι}
    {i₀ : ι} {cmd : EnrollCommand} {x₀ : KeyInput} {pairing : String} {pairingTtl : TimePoint}
    {result : DeviceEnrollmentResult} (hdb : db.Settled)
    (henroll : db.enrollDevice svc i₀ cmd x₀ pairing pairingTtl = .ok (result, enrolled))
    (hsuccess : result.success = true) (devices : Uuid → Option DeviceEntity)
    (calls : ι → SignedPrekeyCall) {ms : List (ι × KeyInput)} {c : KeyConfig ι}
    (hrun : run svc.nextStatement
      ⟨fun i => .called (calls i), { enrolled with devices := devices }⟩ ms = some c) :
    KeysInOrder svc.verifySignature c.shared.keys result.deviceId := by
  obtain ⟨hquiet, hkeyed, horder⟩ := enrollDevice_inOrder hdb henroll hsuccess
  have hquiet' : ∀ k, ({ enrolled with devices := devices } : KeyDb ι).keys.held k = none := hquiet
  exact keysInOrder_of_run hquiet' hkeyed horder hrun

namespace SignedPrekeySample

def alice : Uuid := .ofByte 1

def service : PrekeyService where
  rawPublicKey := fun _ => true
  verifySignature := fun identity key signature =>
    if signature = identity ++ key.take 1 then none else some "Invalid signature"
  sha256Hex := fun _ => ""
  lowInventoryThreshold := 5

def prekey (n : UInt8) : KeyBytes := List.replicate 32 n

def update (n : UInt8) : SignedPrekeyCall :=
  .update ⟨alice, .ofByte 9, .ofByte 9, prekey n, [7, n], []⟩

def emptyDb : KeyDb (Fin 2) := ⟨fun _ => none, .empty⟩

def enrollInput : KeyInput := { now := 0, fresh := fun n => .ofByte (UInt8.ofNat (n + 9)) }

def enrollCommand : EnrollCommand := ⟨alice, [7], prekey 1, [7, 1], [prekey 2], .mfaVerified⟩

def generated (id : UInt8) : KeyInput := { now := 5, fresh := fun _ => .ofByte id }

/-- Both calls find the enrolled key; the first replaces it, the second waits for the lock and is
refused. -/
def race : List (Fin 2 × KeyInput) :=
  [(0, {}), (0, generated 100), (1, {}), (1, generated 101), (0, {}), (1, {}), (0, {}), (0, {}),
    (0, {}), (0, {}), (1, {})]

def enrolledAndRaced : Bool :=
  match emptyDb.enrollDevice service 0 enrollCommand enrollInput "" 0 with
  | .error _ => false
  | .ok (result, db) => result.success &&
      (run service.nextStatement ⟨fun i => .called (update (3 + i.val.toUInt8)), db⟩ race).isSome

theorem emptyDb_settled : emptyDb.Settled :=
  ⟨fun _ => rfl, nofun, nofun⟩

end SignedPrekeySample

open SignedPrekeySample in
/-- Two updates race on a device that was just enrolled. -/
theorem raced_signed_prekeys_in_order : ∃ result enrolled c, result.success = true ∧
      emptyDb.enrollDevice service 0 enrollCommand enrollInput "" 0 = .ok (result, enrolled) ∧
      run service.nextStatement
        ⟨fun i => .called (update (3 + i.val.toUInt8)), enrolled⟩ race = some c ∧
      KeysInOrder service.verifySignature c.shared.keys result.deviceId := by
  have hraced : enrolledAndRaced = true := by decide
  unfold enrolledAndRaced at hraced
  split at hraced
  · cases hraced
  rename_i result enrolled henroll
  obtain ⟨hsuccess, hrun⟩ := Bool.and_eq_true_iff.mp hraced
  obtain ⟨c, hrun⟩ := isSome_iff_exists.mp hrun
  exact ⟨result, enrolled, c, hsuccess, henroll, hrun,
    service.one_active_signed_prekey emptyDb_settled henroll hsuccess enrolled.devices _ hrun⟩

end SecureCloud.Auth
