import SecureCloud.Messaging.Delivery.Acknowledgement
import SecureCloud.Messaging.Delivery.OutboxDispatch

/-
# Messaging.Delivery.Recovery — how far `run_recovery_cycle` gets

A cycle purges, sweeps and recovers, and each starts with the same query: the first `batch_size` rows of
the device's bucket, whatever their state. Rows never leave the table or change their place in it. So
every cycle works through the SAME rows, and a record behind them is never offered and never expires.
-/

namespace SecureCloud.Messaging.Delivery

open Lib.Program Lib.Table Protocol Statement Offered QueueRow List

/-! ## The batch -/

namespace Tables

def batchKeys (t : Tables) (device : DeviceId) (bucket : String) (n : Nat) : List QueueKey :=
  ((t.bucketRows device bucket).take n).map key

section
variable {t t' : Tables} {device : DeviceId} {bucket : String} {n : Nat}

def lexLe (a b : Int × Nat) : Prop := a.1 < b.1 ∨ (a.1 = b.1 ∧ a.2 ≤ b.2)

theorem lexLe_total (a b : Int × Nat) : lexLe a b ∨ lexLe b a := by
  unfold lexLe
  omega

theorem lexLe_trans {a b c : Int × Nat} (hab : lexLe a b) (hbc : lexLe b c) : lexLe a c := by
  unfold lexLe at *
  omega

theorem lexLe_antisymm {a b : Int × Nat} (hab : lexLe a b) (hba : lexLe b a) : a = b := by
  unfold lexLe at *
  exact Prod.ext (by omega) (by omega)

def clustering (k : QueueKey) : Int × Nat := (k.2.1, k.2.2.bits)

def keyLe (a b : QueueKey) : Prop := lexLe (clustering a) (clustering b)

theorem bucketRows_sorted (t : Tables) (device : DeviceId) (bucket : String) :
    ((t.bucketRows device bucket).map key).Pairwise keyLe := by
  refine pairwise_map.mpr ?_
  have : Std.Total le := ⟨fun a b => lexLe_total (clustering a.key) (clustering b.key)⟩
  have : IsTrans QueueRow le := ⟨fun a b c hab hbc =>
    lexLe_trans (a := clustering a.key) (b := clustering b.key) (c := clustering c.key) hab hbc⟩
  exact pairwise_insertionSort le _

theorem mem_bucketKeys {k : QueueKey} : k ∈ (t.bucketRows device bucket).map key ↔
      k.1 = (device, bucket) ∧ (t.queue.find k).isSome := by
  constructor
  · intro hk
    obtain ⟨r, hr, rfl⟩ := mem_map.mp hk
    obtain ⟨hrow, rfl, rfl⟩ := mem_bucketRows.mp hr
    exact ⟨rfl, by rw [Keyed.mem_rows_iff.mp hrow]; rfl⟩
  rintro ⟨hpartition, hfound⟩
  obtain ⟨r, hr⟩ := Option.isSome_iff_exists.mp hfound
  have hkey : r.key = k := Keyed.key_of_find hr
  have hrow : r ∈ t.queue.rows := mem_of_find?_eq_some hr
  rw [← hkey] at hpartition
  obtain ⟨hdevice, hbucket⟩ := Prod.mk.inj hpartition
  exact mem_map.mpr ⟨r, mem_bucketRows.mpr ⟨hrow, hdevice, hbucket⟩, hkey⟩

theorem batchKeys_congr (h : ∀ k, (t'.queue.find k).isSome = (t.queue.find k).isSome) :
    t'.batchKeys device bucket n = t.batchKeys device bucket n := by
  -- two sorted lists with the same members, and no member twice, are one list
  have hperm : ((t'.bucketRows device bucket).map key).Perm
      ((t.bucketRows device bucket).map key) := by
    refine (perm_ext_iff_of_nodup (bucketRows_nodup t' device bucket)
      (bucketRows_nodup t device bucket)).mpr ?_
    intro k
    rw [mem_bucketKeys, mem_bucketKeys, h k]
  have hsame : (t'.bucketRows device bucket).map key = (t.bucketRows device bucket).map key := by
    refine hperm.eq_of_pairwise ?_ (bucketRows_sorted t' device bucket)
      (bucketRows_sorted t device bucket)
    intro a b ha hb hab hba
    have hpart : a.1 = b.1 := by rw [(mem_bucketKeys.mp ha).1, (mem_bucketKeys.mp hb).1]
    obtain ⟨htime, hbits⟩ := Prod.mk.inj (lexLe_antisymm hab hba)
    obtain ⟨p, ta, ⟨ma⟩⟩ := a
    obtain ⟨q, tb, ⟨mb⟩⟩ := b
    simp_all
  unfold batchKeys
  rw [map_take, map_take, hsame]

theorem fetch_keys {limit : Nat} {recs : List QueueRecord}
    (h : t.fetchPendingForDevice device bucket limit = some recs) :
    recs.map (·.row.key) = t.batchKeys device bucket (int32Of limit).toNat := by
  unfold batchKeys
  rw [← fetch_rows h, map_map]
  rfl

theorem batchKeys_nodup : (t.batchKeys device bucket n).Nodup := by
  unfold batchKeys
  rw [map_take]
  exact (bucketRows_nodup t device bucket).sublist (take_sublist n _)

end

end Tables

/-! ## What a loop does to the rows and what it offers -/

def Worked (keys : List QueueKey) (f : QueueRow → QueueRow) (t t' : Tables) : Prop :=
  ∀ k, t'.queue.find k = if k ∈ keys then (t.queue.find k).map f else t.queue.find k

/-- Of the partition, the rows under `keys` that satisfy `g` are offered between two pasts, and nothing
else is. -/
def Offers (partition : DeviceId × String) (keys : List QueueKey) (g : QueueRow → Bool) (t : Tables)
    (past past' : Past) : Prop :=
  ∀ k, k.1 = partition → (Offered past' k ↔
    Offered past k ∨ (k ∈ keys ∧ ∃ r, t.queue.find k = some r ∧ g r = true))

section
variable {keys : List QueueKey} {key : QueueKey} {f f' : QueueRow → QueueRow}
  {g g' : QueueRow → Bool} {t t₁ t₂ : Tables} {partition : DeviceId × String}
  {past past₁ past₂ : Past}

theorem Worked.nil : Worked [] f t t := fun k => by simp

theorem Offers.nil : Offers partition [] g t past past := fun k _ => by simp

theorem Worked.isSome (h : Worked keys f t t₁) (k : QueueKey) :
    (t₁.queue.find k).isSome = (t.queue.find k).isSome := by
  rw [h k]
  split <;> simp

section
variable (hkey : key ∉ keys) (hfirst : Worked [key] f t t₁)

include hkey hfirst

theorem Worked.cons (hrest : Worked keys f t₁ t₂) : Worked (key :: keys) f t t₂ := by
  intro k
  rw [hrest k, hfirst k]
  by_cases hk : k = key
  · simp [hk, hkey]
  · simp [hk]

theorem Offers.cons
    (hoffer : Offers partition [key] g t past past₁) (hrest : Offers partition keys g t₁ past₁ past₂) :
    Offers partition (key :: keys) g t past past₂ := by
  intro k hk
  rw [hrest k hk, hoffer k hk]
  by_cases hkk : k = key
  · simp [hkk, hkey]
  have hsame : t₁.queue.find k = t.queue.find k := by rw [hfirst k]; simp [hkk]
  simp [hkk, hsame]

end

variable {r : QueueRow}

theorem Worked.same (hr : t.queue.find key = some r) (hf : f r = r) : Worked [key] f t t := by
  intro k
  by_cases hk : k = key
  · simp [hk, hr, hf]
  · simp [hk]

variable {state : DeliveryState}

theorem Worked.update (hr : t.queue.find r.key = some r)
    (hf : f r = { r with deliveryState := state, nextRetryAt := none }) :
    Worked [r.key] f t (t.updateDeviceDeliveryStatus r.key state r.attemptCount none) := by
  intro k
  rw [Tables.find_updateDeviceDeliveryStatus]
  by_cases hk : k = r.key
  · simp only [hk, if_true, mem_singleton, hr, Option.map_some, hf]
    unfold Tables.updatedRow
    rw [hr]
    rfl
  · simp [hk]

theorem Offered.cons_of_not {st : Step Statement Env World} {k : QueueKey}
    (h : st.stmt.offers k = false) : Offered (st :: past) k ↔ Offered past k := by
  simp [Offered, h]

theorem Offers.same (hr : t.queue.find key = some r) (hg : g r = false)
    (hpast : ∀ k, Offered past₁ k ↔ Offered past k) : Offers partition [key] g t past past₁ := by
  intro k _
  rw [hpast k]
  constructor
  · exact .inl
  rintro (h | ⟨hk, r', hr', hg'⟩)
  · exact h
  obtain rfl := mem_singleton.mp hk
  obtain rfl := Option.some.inj (hr.symm.trans hr')
  rw [hg] at hg'
  exact nomatch hg'

open QueueRecord

theorem Offers.offer {user : UserId} {now : TimePoint} {content : QueueContent}
    {x : Env} {w : World} (hr : t.queue.find r.key = some r) (hpart : r.key.1 = partition)
    (hg : g r = true) (hpast : ∀ k, Offered past₁ k ↔ Offered past k) :
    Offers partition [r.key] g t past
      (⟨.schedule (QueueRecord.task ⟨r, content⟩ user now), x, w⟩ :: past₁) := by
  intro k hk
  have hoffers : (schedule (task ⟨r, content⟩ user now)).offers k = true ↔
      k = r.key := by
    constructor
    · intro h
      obtain ⟨-, htime, hmessage⟩ := of_decide_eq_true h
      exact Prod.ext (hk.trans hpart.symm) (Prod.ext htime.symm hmessage.symm)
    · rintro rfl
      simp [offers, task, key]
  have hstep : Offered (⟨.schedule (task ⟨r, content⟩ user now), x, w⟩ :: past₁) k ↔
      k = r.key ∨ Offered past₁ k := by
    simp only [Offered, mem_cons, exists_eq_or_imp, hoffers]
  rw [hstep, hpast k]
  constructor
  · rintro (rfl | h)
    · exact .inr ⟨mem_singleton.mpr rfl, r, hr, hg⟩
    · exact .inl h
  rintro (h | ⟨hkey, -⟩)
  · exact .inr h
  · exact .inl (mem_singleton.mp hkey)

theorem Worked.comp (h : Worked keys f t t₁) (h' : Worked keys f' t₁ t₂) :
    Worked keys (f' ∘ f) t t₂ := by
  intro k
  rw [h' k, h k]
  split <;> simp

theorem Offers.comp (hw : Worked keys f t t₁) (h : Offers partition keys g t past past₁)
    (h' : Offers partition keys g' t₁ past₁ past₂) :
    Offers partition keys (fun r => g r || g' (f r)) t past past₂ := by
  intro k hk
  rw [h' k hk, h k hk, hw k]
  by_cases hin : k ∈ keys
  · cases hr : t.queue.find k with
    | none => simp
    | some r => simp [hin, or_assoc]
  · simp [hin]

theorem Offers.of_past (hpast : ∀ k, Offered past₁ k ↔ Offered past k)
    (h : Offers partition keys g t past₁ past₂) : Offers partition keys g t past past₂ := by
  intro k hk
  rw [h k hk, hpast k]

end

namespace Config

variable (cfg : Config)

/-! ## The three loops as functions of a row -/

variable (now : TimePoint) (r : QueueRow)

def pastTtl : Bool := cfg.maxDeliveryTtl < now - r.acceptedAt

def expire : QueueRow := { r with deliveryState := .expired, nextRetryAt := none }

/-- What `purge_expired_for_device` makes of a row. -/
def purged : QueueRow :=
  if isTerminal r.deliveryState = false ∧ cfg.pastTtl now r then expire r else r

def sweepOffers : Bool :=
  r.deliveryState = .retryWait ∧ r.attemptCount < cfg.recoveryMaxRetryAttempts ∧
    r.nextRetryAt.any (now < ·) = false

/-- What `sweep_retries_for_device` makes of a row. -/
def swept : QueueRow :=
  if r.deliveryState = .retryWait ∧ cfg.recoveryMaxRetryAttempts ≤ r.attemptCount then expire r
  else if cfg.sweepOffers now r then { r with deliveryState := .queued, nextRetryAt := none }
  else r

def recoverOffers : Bool :=
  (r.deliveryState = .queued ∨ r.deliveryState = .delivering) ∧ cfg.pastTtl now r = false

/-- What `recover_pending_for_device` makes of a row. -/
def recovered : QueueRow :=
  if (r.deliveryState = .queued ∨ r.deliveryState = .delivering) ∧ cfg.pastTtl now r then expire r
  else r

/-! ## The loops -/

def takesTask (st : Step Statement Env World) : Bool :=
  match st.stmt with
  | .schedule task => (st.before.scheduler.schedule cfg.scheduler st.env.now task).1 = .enqueued
  | _ => true

variable (device : DeviceId)

/-- What is granted about the cycles: the device is online, the clock lies between two times, the
scheduler takes every task. -/
def Granted (first last : TimePoint) (st : Step Statement Env World) : Prop :=
  (cfg.registry = true → st.env.online device = true) ∧ first ≤ st.env.now ∧ st.env.now ≤ last ∧
    cfg.takesTask st = true

instance (device : DeviceId) (first last : TimePoint) :
    DecidablePred (cfg.Granted device first last) := fun st => by
  unfold Granted
  infer_instance

section
variable {cfg} {A : Step Statement Env World → Prop} {past past₀ : Past}
  {w : World} {partition : DeviceId × String} {f : QueueRow → QueueRow} {g : QueueRow → Bool}
  {rec : QueueRecord} {recs : List QueueRecord} {t : Tables} {m stop : Program Nat}

theorem updateStatus_solo {key : QueueKey} {attempts : Nat}
    {nextRetry : Option TimePoint} {Q : Past → Unit → World → Prop}
    (h : ∀ x, Q (⟨.updateStatus key state attempts nextRetry, x, w⟩ :: past) ()
      { w with tables := w.tables.updateDeviceDeliveryStatus key state attempts nextRetry }) :
    (solo A).SatE (exec cfg) Q (fun _ _ _ => True)
      (updateStatus key state attempts nextRetry) past w := by
  unfold updateStatus
  refine satE_bind (solo_satE_perform ?_)
  rintro x r w₁ hexec -
  refine satE_rethrow ?_
  rintro a rfl _ rfl -
  obtain rfl := writing_eq_ok (Option.some.inj hexec)
  exact h x

theorem recipientUser_solo {Q : Past → UserId → World → Prop}
    (h : ∀ x user, Q (⟨.fetchStates rec.row.messageId, x, w⟩ :: past) user w) :
    (solo A).SatE (exec cfg) Q (fun _ _ _ => True) (recipientUser rec) past w := by
  unfold recipientUser fetchStates
  refine satE_bind (satE_bind (solo_satE_perform ?_))
  rintro x r w₁ hexec -
  cases hexec
  refine satE_rethrow ?_
  rintro a - _ rfl -
  exact solo_pure (h x _)

def Current (partition : DeviceId × String) (t : Tables) (recs : List QueueRecord) : Prop :=
  (recs.map (·.row.key)).Nodup ∧
    ∀ rec ∈ recs, t.queue.find rec.row.key = some rec.row ∧ rec.row.key.1 = partition

theorem Current.head (h : Current partition t (rec :: recs)) :
    rec.row.key ∉ recs.map (·.row.key) ∧ t.queue.find rec.row.key = some rec.row ∧
      rec.row.key.1 = partition := by
  refine ⟨(nodup_cons.mp h.1).1, h.2 rec mem_cons_self⟩

theorem Current.tail {t₁ : Tables} (h : Current partition t (rec :: recs))
    (hfirst : Worked [rec.row.key] f t t₁) : Current partition t₁ recs := by
  refine ⟨(nodup_cons.mp h.1).2, ?_⟩
  intro rec' hrec'
  obtain ⟨hfind, hpart⟩ := h.2 rec' (mem_cons_of_mem rec hrec')
  refine ⟨?_, hpart⟩
  have hne : rec'.row.key ≠ rec.row.key :=
    fun heq => h.head.1 (heq ▸ mem_map_of_mem (f := fun r : QueueRecord => r.row.key) hrec')
  rw [hfirst rec'.row.key, if_neg (by simpa using hne)]
  exact hfind

variable (cfg A partition f g) in
/-- The program deals with the records: seen from `t` and `past₀`, `f` is done to their rows, and
those with `g` are offered. -/
abbrev Deals (recs : List QueueRecord) (t : Tables) (past₀ : Past)
    (m : Program Nat) (past : Past) (w : World) : Prop :=
  (solo A).SatE (exec cfg) (fun past' _ w' => Worked (recs.map (·.row.key)) f t w'.tables ∧
      Offers partition (recs.map (·.row.key)) g t past₀ past') (fun _ _ _ => True) m past w

theorem Current.goOn (h : Current partition t (rec :: recs))
    (hfirst : Worked [rec.row.key] f t w.tables)
    (hoffer : Offers partition [rec.row.key] g t past₀ past)
    (hrest : Current partition w.tables recs → Deals cfg A partition f g recs w.tables past m past w) :
    Deals cfg A partition f g (rec :: recs) t past₀ m past w := by
  refine satE_mono ?_ (hrest (h.tail hfirst))
  intro past' _ w' _ hothers
  obtain ⟨hworked, hoffers⟩ := hothers w' rfl trivial
  exact ⟨hfirst.cons h.head.1 hworked, Offers.cons h.head.1 hfirst hoffer hoffers⟩

section
variable (h : Current partition w.tables (rec :: recs))

include h

theorem Current.skip (hf : f rec.row = rec.row) (hg : g rec.row = false)
    (hrest : Current partition w.tables recs → Deals cfg A partition f g recs w.tables past m past w) :
    Deals cfg A partition f g (rec :: recs) w.tables past m past w :=
  h.goOn (.same h.head.2.1 hf) (.same h.head.2.1 hg fun _ => Iff.rfl) hrest

theorem Current.expires (hf : f rec.row = expire rec.row) (hg : g rec.row = false)
    (hrest : ∀ past w, Current partition w.tables recs →
      Deals cfg A partition f g recs w.tables past m past w) :
    Deals cfg A partition f g (rec :: recs) w.tables past
      (do updateStatus rec.row.key .expired rec.row.attemptCount none; m) past w :=
  satE_bind (updateStatus_solo fun _ =>
    h.goOn (.update h.head.2.1 hf) (.same h.head.2.1 hg fun _ => cons_of_not rfl) (hrest _ _))

end

theorem Current.offered (h : Current partition t (rec :: recs))
    (hA : ∀ st, A st → cfg.takesTask st = true) (hfirst : Worked [rec.row.key] f t w.tables)
    (hg : g rec.row = true) (hpast : ∀ k, Offered past k ↔ Offered past₀ k)
    (hrest : ∀ past w, Current partition w.tables recs →
      Deals cfg A partition f g recs w.tables past m past w) :
    Deals cfg A partition f g (rec :: recs) t past₀ (offerRecord rec now m stop) past w := by
  unfold offerRecord
  refine satE_bind (recipientUser_solo fun x₀ user => satE_bind (solo_satE_perform ?_))
  intro x status w₁ hexec hgranted
  obtain ⟨hstatus, rfl⟩ := Prod.mk.inj (Option.some.inj hexec)
  obtain rfl : status = .enqueued := hstatus.symm.trans (of_decide_eq_true (hA _ hgranted))
  exact h.goOn hfirst
    (.offer h.head.2.1 h.head.2.2 hg fun k => (cons_of_not rfl).trans (hpast k)) (hrest _ _)

theorem purgeLoop_spec (recs : List QueueRecord) (n : Nat) (h : Current partition w.tables recs) :
    Deals cfg A partition (cfg.purged now) (fun _ => false) recs w.tables past
      (cfg.purgeLoop now recs n) past w := by
  induction recs generalizing w past n with
  | nil => exact solo_pure ⟨.nil, .nil⟩
  | cons rec recs ih =>
    unfold purgeLoop
    split
    next hterminal =>
      exact h.skip (by simp [purged, hterminal]) rfl (ih n)
    rename_i hopen
    split
    next hold =>
      exact h.expires (by simp [purged, pastTtl, hopen, hold]) rfl fun _ _ => ih _
    rename_i hyoung
    exact h.skip (by simp [purged, pastTtl, hyoung]) rfl (ih n)

theorem sweepLoop_spec (hA : ∀ st, A st → cfg.takesTask st = true)
    (recs : List QueueRecord) (n : Nat) (h : Current partition w.tables recs) :
    Deals cfg A partition (cfg.swept now) (cfg.sweepOffers now) recs w.tables past
      (cfg.sweepLoop now recs n) past w := by
  induction recs generalizing w past n with
  | nil => exact solo_pure ⟨.nil, .nil⟩
  | cons rec recs ih =>
    unfold sweepLoop
    split
    · -- not waiting for a retry
      rename_i hstate
      exact h.skip (by simp [swept, sweepOffers, hstate]) (by simp [sweepOffers, hstate]) (ih n)
    rename_i hstate
    have hwait : rec.row.deliveryState = .retryWait := not_ne_iff.mp hstate
    split
    · -- no attempts are left
      rename_i hspent
      exact h.expires (by simp [swept, hwait, hspent]) (by simp [sweepOffers, hspent])
        fun _ _ => ih n
    rename_i hspare
    split
    · -- the retry time has not come
      rename_i hearly
      exact h.skip (by simp [swept, sweepOffers, hspare, hearly]) (by simp [sweepOffers, hearly])
        (ih n)
    rename_i hdue
    have hoffers : cfg.sweepOffers now rec.row = true := by
      simp [sweepOffers, hwait, hdue, not_le.mp hspare]
    refine satE_bind (updateStatus_solo fun x => ?_)
    exact h.offered now hA (.update h.head.2.1 (by simp [swept, hwait, hspare, hoffers])) hoffers
      (fun _ => cons_of_not rfl) fun _ _ => ih _

theorem recoverLoop_spec (hA : ∀ st, A st → cfg.takesTask st = true)
    (recs : List QueueRecord) (n : Nat) (h : Current partition w.tables recs) :
    Deals cfg A partition (cfg.recovered now) (cfg.recoverOffers now) recs w.tables past
      (cfg.recoverLoop now recs n) past w := by
  induction recs generalizing w past n with
  | nil => exact solo_pure ⟨.nil, .nil⟩
  | cons rec recs ih =>
    unfold recoverLoop
    split
    · -- neither queued nor being delivered
      rename_i hstate
      exact h.skip (by simp [recovered, hstate.1, hstate.2])
        (by simp [recoverOffers, hstate.1, hstate.2]) (ih n)
    rename_i hstate
    have hopen : rec.row.deliveryState = .queued ∨ rec.row.deliveryState = .delivering := by
      tauto
    split
    next hold =>
      exact h.expires (by simp [recovered, pastTtl, hopen, hold])
        (by simp [recoverOffers, pastTtl, hold]) fun _ _ => ih n
    rename_i hyoung
    exact h.offered now hA (.same h.head.2.1 (by simp [recovered, pastTtl, hyoung]))
      (by simp [recoverOffers, pastTtl, hopen, hyoung]) (fun _ => Iff.rfl) fun _ _ => ih _

end

/-! ## Cycles -/

structure Readings where
  start : TimePoint
  recover : TimePoint

def cycled (p : Readings) (r : QueueRow) : QueueRow :=
  cfg.recovered p.recover (cfg.swept p.start (cfg.purged p.start r))

def cycleOffers (p : Readings) (r : QueueRow) : Bool :=
  cfg.sweepOffers p.start (cfg.purged p.start r) ||
    cfg.recoverOffers p.recover (cfg.swept p.start (cfg.purged p.start r))

def cycledBy (ps : List Readings) (r : QueueRow) : QueueRow := ps.foldl (fun r p => cfg.cycled p r) r

def offeredBy : List Readings → QueueRow → Bool
  | [], _ => false
  | p :: ps, r => cfg.cycleOffers p r || offeredBy ps (cfg.cycled p r)

def recoveryCycles (device : DeviceId) (bucket : String) : Nat → Program Unit
  | 0 => pure ()
  | n + 1 => do
    let _ ← cfg.runRecoveryCycle [device] bucket
    recoveryCycles device bucket n

def batch (bucket : String) (t : Tables) : List QueueKey :=
  t.batchKeys device bucket (int32Of cfg.batchSize).toNat

section
variable {cfg} {past : Past} {t t₁ : Tables} {w : World}
  {device : DeviceId} {bucket : String} {first last : TimePoint} {keys : List QueueKey}
  {f : QueueRow → QueueRow}

theorem batch_of_worked (cfg : Config) (device : DeviceId) (bucket : String)
    (h : Worked keys f t t₁) : cfg.batch device bucket t₁ = cfg.batch device bucket t :=
  Tables.batchKeys_congr h.isSome

theorem fetchPending_solo {A : Step Statement Env World → Prop}
    {Q : Past → List QueueRecord → World → Prop}
    (h : ∀ x recs, recs.map (·.row.key) = cfg.batch device bucket w.tables →
      Current (device, bucket) w.tables recs →
        Q (⟨.fetchPending device bucket cfg.batchSize, x, w⟩ :: past) recs w) :
    (solo A).SatE (exec cfg) Q (fun _ _ _ => True)
      (fetchPending device bucket cfg.batchSize) past w := by
  unfold fetchPending
  refine satE_bind (solo_satE_perform ?_)
  rintro x r w₁ hexec -
  obtain ⟨hread, rfl⟩ := Prod.mk.inj (Option.some.inj hexec)
  refine satE_rethrow ?_
  rintro recs rfl _ rfl -
  have hfetch := reading_eq_ok hread
  have hkeys := Tables.fetch_keys hfetch
  refine h x recs hkeys ⟨?_, ?_⟩
  · rw [hkeys]
    exact Tables.batchKeys_nodup
  intro rec hrec
  obtain ⟨hfind, hdevice, hbucket⟩ := Tables.find_of_fetch hfetch hrec
  exact ⟨hfind, Prod.ext hdevice hbucket⟩

theorem reachable_solo {Q : Past → Bool → World → Prop}
    (h : ∀ past', (∀ k, Offered past' k ↔ Offered past k) → Q past' true w) :
    (solo (cfg.Granted device first last)).SatE (exec cfg) Q (fun _ _ _ => True)
      (cfg.reachable device) past w := by
  unfold reachable
  by_cases hregistry : cfg.registry = true
  · rw [if_pos hregistry]
    refine solo_satE_perform ?_
    intro x r w₁ hexec hgranted
    obtain ⟨hr, rfl⟩ := Prod.mk.inj (Option.some.inj hexec)
    obtain rfl : r = true := hr.symm.trans (hgranted.1 hregistry)
    exact h _ fun k => cons_of_not rfl
  · rw [if_neg hregistry]
    exact solo_pure (h past fun _ => Iff.rfl)

theorem runRecoveryCycle_spec (hbucket : bucket ≠ "") :
    (solo (cfg.Granted device first last)).SatE (exec cfg)
      (fun past' _ w' => ∃ p : Readings, (first ≤ p.start ∧ p.start ≤ last) ∧
        (first ≤ p.recover ∧ p.recover ≤ last) ∧
        Worked (cfg.batch device bucket w.tables) (cfg.cycled p) w.tables w'.tables ∧
        Offers (device, bucket) (cfg.batch device bucket w.tables) (cfg.cycleOffers p) w.tables past
          past') (fun _ _ _ => True) (cfg.runRecoveryCycle [device] bucket) past w := by
  have htakes : ∀ st, cfg.Granted device first last st → cfg.takesTask st = true :=
    fun st hst => hst.2.2.2
  unfold runRecoveryCycle
  refine satE_bind (solo_satE_perform ?_)
  intro x now w₁ hexec hgranted
  obtain ⟨hnow, rfl⟩ := Prod.mk.inj (Option.some.inj hexec)
  obtain rfl : x.now = now := hnow
  rw [if_neg hbucket]
  refine satE_bind (solo_pure ?_)
  unfold cycleLoop purgeExpiredForDevice
  -- the purge
  refine satE_bind (satE_bind (fetchPending_solo ?_))
  intro x₁ recs₁ hkeys₁ hcurrent₁
  refine satE_mono ?_ (purgeLoop_spec x.now recs₁ 0 hcurrent₁)
  intro past₁ _ w₁ _ hpurged
  obtain ⟨hworked₁, hoffers₁⟩ := hpurged w₁ rfl trivial
  rw [hkeys₁] at hworked₁ hoffers₁
  have hbatch₁ := batch_of_worked cfg device bucket hworked₁
  -- the sweep
  unfold sweepRetriesForDevice
  refine satE_bind (satE_bind (reachable_solo fun past₂ hpast₂ => ?_))
  rw [if_pos rfl]
  refine satE_bind (fetchPending_solo ?_)
  intro x₂ recs₂ hkeys₂ hcurrent₂
  refine satE_mono ?_ (sweepLoop_spec x.now htakes recs₂ 0 hcurrent₂)
  intro past₃ _ w₂ _ hswept
  obtain ⟨hworked₂, hoffers₂⟩ := hswept w₂ rfl trivial
  rw [hkeys₂, hbatch₁] at hworked₂ hoffers₂
  have hworked₁₂ := hworked₁.comp hworked₂
  have hbatch₂ := batch_of_worked cfg device bucket hworked₁₂
  -- the recovery, which reads the clock for itself
  unfold recoverPendingForDevice
  refine satE_bind (satE_bind (reachable_solo fun past₄ hpast₄ => ?_))
  rw [if_pos rfl]
  refine satE_bind (solo_satE_perform ?_)
  intro x₃ later w₃ hexec₃ hgranted₃
  obtain ⟨hlater, rfl⟩ := Prod.mk.inj (Option.some.inj hexec₃)
  obtain rfl : x₃.now = later := hlater
  refine satE_bind (fetchPending_solo ?_)
  intro x₄ recs₃ hkeys₃ hcurrent₃
  refine satE_mono ?_ (recoverLoop_spec x₃.now htakes recs₃ 0 hcurrent₃)
  intro past₅ _ w₃ _ hrecovered
  obtain ⟨hworked₃, hoffers₃⟩ := hrecovered w₃ rfl trivial
  rw [hkeys₃, hbatch₂] at hworked₃ hoffers₃
  refine solo_pure ⟨⟨x.now, x₃.now⟩, ⟨hgranted.2.1, hgranted.2.2.1⟩,
    ⟨hgranted₃.2.1, hgranted₃.2.2.1⟩, hworked₁₂.comp hworked₃, ?_⟩
  -- what was offered: by the sweep, or by the recovery
  have hquiet₁ : Offers (device, bucket) (cfg.batch device bucket w.tables) (fun _ => false) w.tables
      past past₁ :=
    .of_past (fun k => (cons_of_not rfl).trans (cons_of_not rfl)) hoffers₁
  have hquiet₂ : ∀ k, Offered (⟨.fetchPending device bucket cfg.batchSize, x₂, w₁⟩ :: past₂) k ↔
      Offered past₁ k := fun k => (cons_of_not rfl).trans (hpast₂ k)
  have hquiet₄ : ∀ k, Offered (⟨.fetchPending device bucket cfg.batchSize, x₄, w₂⟩ ::
      ⟨.clock, x₃, w₂⟩ :: past₄) k ↔ Offered past₃ k :=
    fun k => ((cons_of_not rfl).trans (cons_of_not rfl)).trans (hpast₄ k)
  have hsweep := Offers.comp hworked₁ hquiet₁ (hoffers₂.of_past hquiet₂)
  have hall := Offers.comp hworked₁₂ hsweep (hoffers₃.of_past hquiet₄)
  intro k hk
  rw [hall k hk]
  simp [cycleOffers]

theorem cycledBy_cons (p : Readings) (ps : List Readings) :
    cfg.cycledBy (p :: ps) = cfg.cycledBy ps ∘ cfg.cycled p := rfl

theorem recoveryCycles_spec (hbucket : bucket ≠ "") (n : Nat) (past : Past) :
    (solo (cfg.Granted device first last)).SatE (exec cfg)
      (fun past' _ w' => ∃ ps : List Readings, ps.length = n ∧
        (∀ p ∈ ps, (first ≤ p.start ∧ p.start ≤ last) ∧ (first ≤ p.recover ∧ p.recover ≤ last)) ∧
        Worked (cfg.batch device bucket w.tables) (cfg.cycledBy ps) w.tables w'.tables ∧
        Offers (device, bucket) (cfg.batch device bucket w.tables) (cfg.offeredBy ps) w.tables past
          past') (fun _ _ _ => True) (cfg.recoveryCycles device bucket n) past w := by
  induction n generalizing w past with
  | zero =>
    refine solo_pure ⟨[], rfl, by simp, ?_, ?_⟩
    · intro k
      have hid : cfg.cycledBy [] = id := rfl
      simp [hid]
    · intro k _
      simp [offeredBy]
  | succ n ih =>
    unfold recoveryCycles
    refine satE_bind (satE_mono ?_ (runRecoveryCycle_spec hbucket))
    intro past₁ _ w₁ _ hcycle
    obtain ⟨p, hstart, hrecover, hworked, hoffers⟩ := hcycle w₁ rfl trivial
    have hbatch := batch_of_worked cfg device bucket hworked
    refine satE_mono ?_ (ih past₁)
    intro past₂ _ w₂ _ hrest
    obtain ⟨ps, hlength, hwithin, hworked', hoffers'⟩ := hrest w₂ rfl trivial
    rw [hbatch] at hworked' hoffers'
    refine ⟨p :: ps, by simp [hlength], ?_, ?_, ?_⟩
    · exact forall_mem_cons.mpr ⟨⟨hstart, hrecover⟩, hwithin⟩
    · rw [cycledBy_cons]
      exact hworked.comp hworked'
    · exact Offers.comp hworked hoffers hoffers'

end

/-! ## Which records are dealt with -/

/-- Queued, being delivered or due for a retry when the cycles begin, and within the TTL until they
end. -/
def live (first last : TimePoint) (r : QueueRow) : Bool :=
  cfg.pastTtl last r = false ∧ (r.deliveryState = .queued ∨ r.deliveryState = .delivering ∨
    (r.deliveryState = .retryWait ∧ r.nextRetryAt.any (first < ·) = false))

def stale (first : TimePoint) (r : QueueRow) : Bool :=
  isTerminal r.deliveryState = false ∧ cfg.pastTtl first r = true

def spent : Bool :=
  r.deliveryState = .retryWait ∧ cfg.recoveryMaxRetryAttempts ≤ r.attemptCount

section
variable {cfg} {r : QueueRow} {first last : TimePoint} {p : Readings} {ps : List Readings}

theorem pastTtl_mono {now now' : Int} (h : now ≤ now') (hpast : cfg.pastTtl now r = true) :
    cfg.pastTtl now' r = true := by
  have hpast : cfg.maxDeliveryTtl < now - r.acceptedAt := of_decide_eq_true hpast
  exact decide_eq_true (lt_of_lt_of_le hpast (Int.sub_le_sub_right h _))

theorem cycled_of_expired (h : r.deliveryState = .expired) :
    cfg.cycled p r = r ∧ cfg.cycleOffers p r = false := by
  have hpurged : cfg.purged p.start r = r := by simp [purged, isTerminal, h]
  have hswept : cfg.swept p.start r = r := by simp [swept, sweepOffers, h]
  constructor
  · simp [cycled, recovered, hpurged, hswept, h]
  · simp [cycleOffers, sweepOffers, recoverOffers, hpurged, hswept, h]

theorem cycledBy_of_expired (h : r.deliveryState = .expired) :
    cfg.cycledBy ps r = r ∧ cfg.offeredBy ps r = false := by
  induction ps with
  | nil => exact ⟨rfl, rfl⟩
  | cons p ps ih =>
    obtain ⟨hcycled, hoffers⟩ : cfg.cycled p r = r ∧ cfg.cycleOffers p r = false :=
      cycled_of_expired h
    rw [cycledBy_cons, Function.comp_apply, offeredBy, hcycled, hoffers]
    exact ih

/-- A stale row of the batch expires in the first cycle. -/
theorem cycledBy_of_stale (h : cfg.stale first r = true) (hps : ps ≠ [])
    (hwithin : ∀ p ∈ ps, first ≤ p.start) : (cfg.cycledBy ps r).deliveryState = .expired := by
  obtain ⟨hopen, hpast⟩ := of_decide_eq_true h
  cases ps with
  | nil => exact absurd rfl hps
  | cons p ps =>
    have hnow := pastTtl_mono (hwithin p mem_cons_self) hpast
    have hpurged : cfg.purged p.start r = expire r := by simp [purged, hopen, hnow]
    have hexpired : (expire r).deliveryState = .expired := rfl
    have hcycled : cfg.cycled p r = expire r := by
      simp [cycled, recovered, swept, sweepOffers, hpurged, hexpired]
    rw [cycledBy_cons, Function.comp_apply, hcycled, (cycledBy_of_expired hexpired).1]
    rfl

/-- A live row of the batch is offered in the first cycle, or never: when its attempts are spent,
it expires. -/
theorem offeredBy_of_live (h : cfg.live first last r = true) (hps : ps ≠ [])
    (hwithin : ∀ p ∈ ps, (first ≤ p.start ∧ p.start ≤ last) ∧
      (first ≤ p.recover ∧ p.recover ≤ last)) :
    cfg.offeredBy ps r = !cfg.spent r := by
  obtain ⟨hyoung, hstate⟩ := of_decide_eq_true h
  cases ps with
  | nil => exact absurd rfl hps
  | cons p ps =>
    obtain ⟨⟨hfirst, hstart⟩, -, hrecover⟩ := hwithin p mem_cons_self
    have hfresh : ∀ now : Int, now ≤ last → cfg.pastTtl now r = false := by
      intro now hnow
      by_contra hpast
      rw [pastTtl_mono hnow (by simpa using hpast)] at hyoung
      exact nomatch hyoung
    have hpurged : cfg.purged p.start r = r := by simp [purged, hfresh _ hstart]
    rw [offeredBy]
    rcases hstate with hqueued | hdelivering | ⟨hwait, hdue⟩
    · simp [cycleOffers, sweepOffers, recoverOffers, swept, spent, hpurged, hqueued, hfresh _ hrecover]
    · simp [cycleOffers, sweepOffers, recoverOffers, swept, spent, hpurged, hdelivering,
        hfresh _ hrecover]
    by_cases hspent : cfg.recoveryMaxRetryAttempts ≤ r.attemptCount
    · -- the sweep expires it, and nobody looks at it again
      have hexpired : (expire r).deliveryState = .expired := rfl
      have hswept : cfg.swept p.start r = expire r := by simp [swept, hwait, hspent]
      have hcycled : cfg.cycled p r = expire r := by
        simp [cycled, recovered, hpurged, hswept, hexpired]
      have hoffers : cfg.cycleOffers p r = false := by
        simp [cycleOffers, sweepOffers, recoverOffers, hpurged, hswept, hspent, hexpired]
      have hafter : cfg.offeredBy ps (expire r) = false := (cycledBy_of_expired hexpired).2
      simp [hoffers, hcycled, hafter, spent, hwait, hspent]
    have hready : r.nextRetryAt.any (fun t => decide (p.start < t)) = false := by
      cases hnext : r.nextRetryAt with
      | none => rfl
      | some t =>
        rw [hnext] at hdue
        have hle : ¬ first < t := by simpa using hdue
        simp [not_lt.mpr ((not_lt.mp hle).trans hfirst)]
    simp [cycleOffers, sweepOffers, hpurged, hwait, hready, not_le.mp hspent, spent, hspent]

end

/-- Nothing is left behind: every live record of the bucket has been offered, and every stale one
is expired. -/
def RecoveryComplete (bucket : String) (first last : TimePoint) (w w' : World)
    (history : Past) : Prop :=
  ∀ r ∈ w.tables.bucketRows device bucket, (cfg.live first last r = true → Offered history r.key) ∧
      (cfg.stale first r = true →
        (w'.tables.queue.find r.key).map (·.deliveryState) = some .expired)

/-- **What cycles deal with.** After at least as many cycles as the bucket has records, every live
record has been offered and every stale one is expired exactly when they all lie within the first
`batch_size` rows and no live one has spent its attempts. -/
theorem recoveryComplete_iff (device : DeviceId) (bucket : String) (first last : TimePoint)
    (n : Nat) (xs : List Env) (w w' : World) (hbucket : bucket ≠ "")
    (hn : (w.tables.bucketRows device bucket).length ≤ n)
    (hrun : (cfg.recoveryCycles device bucket n).run.eval (exec cfg) xs w = some (.ok (), w'))
    (hgranted : ∀ st ∈ (cfg.recoveryCycles device bucket n).run.history (exec cfg) xs w,
      cfg.Granted device first last st) :
    cfg.RecoveryComplete device bucket first last w w'
        ((cfg.recoveryCycles device bucket n).run.history (exec cfg) xs w) ↔
      ∀ r ∈ w.tables.bucketRows device bucket,
        (cfg.live first last r = true ∨ cfg.stale first r = true →
          r.key ∈ cfg.batch device bucket w.tables) ∧
        (cfg.live first last r = true → cfg.spent r = false) := by
  obtain ⟨ps, hlength, hwithin, hworked, hoffers⟩ :=
    Prog.eval_of_sat (recoveryCycles_spec hbucket n []) hgranted hrun
  have hnone : ∀ k, ¬ Offered [] k := fun k hk => by obtain ⟨st, hst, -⟩ := hk; exact nomatch hst
  refine forall₂_congr fun r hr => ?_
  obtain ⟨hrow, hdevice, hin⟩ := Tables.mem_bucketRows.mp hr
  have hfind := Keyed.mem_rows_iff.mp hrow
  have hps : ps ≠ [] := by
    rintro rfl
    have := length_pos_of_mem hr
    simp only [length_nil] at hlength
    omega
  have hstart : ∀ p ∈ ps, first ≤ p.start := fun p hp => (hwithin p hp).1.1
  have hoffered : Offered ((cfg.recoveryCycles device bucket n).run.history (exec cfg) xs w)
      r.key ↔ r.key ∈ cfg.batch device bucket w.tables ∧ cfg.offeredBy ps r = true := by
    have h := hoffers r.key (Prod.ext hdevice hin)
    rw [hfind] at h
    simpa [Offered, hnone r.key] using h
  have hstate := hworked r.key
  rw [hfind] at hstate
  rw [hoffered, hstate]
  by_cases hbatch : r.key ∈ cfg.batch device bucket w.tables
  · simp only [hbatch, if_true, true_and, implies_true, Option.map_some, Option.some.injEq]
    constructor
    · rintro ⟨hoff, -⟩ hlive
      have := hoff hlive
      rw [offeredBy_of_live hlive hps hwithin] at this
      simpa using this
    intro hspare
    refine ⟨fun hlive => ?_, fun hstale => cycledBy_of_stale hstale hps hstart⟩
    rw [offeredBy_of_live hlive hps hwithin, hspare hlive]
    rfl
  have hopen : cfg.stale first r = true → r.deliveryState ≠ .expired := by
    intro hstale hexpired
    have := (of_decide_eq_true hstale).1
    rw [hexpired] at this
    exact nomatch this
  simp only [hbatch, if_false, false_and, imp_false, Option.map_some, Option.some.injEq]
  constructor
  · rintro ⟨hlive, hstale⟩
    refine ⟨?_, fun h => absurd h hlive⟩
    rintro (h | h)
    · exact hlive h
    · exact hopen h (hstale h)
  · rintro ⟨hneither, -⟩
    exact ⟨fun h => hneither (.inl h), fun h => absurd (.inr h) hneither⟩

/-! ## A record that no cycle reaches -/

open Consumer (januaryRow januaryWorld)

def januaryCycles (cfg : Config) (last n : Nat) : Option (Except String Unit × World) :=
  (cfg.recoveryCycles "d" "202601" n).run.eval (exec cfg) (atOnce 1767225601000 (20 * n))
    (januaryWorld last)

def januaryCycleSteps (cfg : Config) (last n : Nat) : Past :=
  (cfg.recoveryCycles "d" "202601" n).run.history (exec cfg)
    (atOnce 1767225601000 (20 * n)) (januaryWorld last)

def finished : Option (Except String Unit × World) → Bool
  | some (.ok (), _) => true
  | _ => false

theorem finished_iff {r : Option (Except String Unit × World)} (h : finished r = true) :
    ∃ w', r = some (.ok (), w') := by
  unfold finished at h
  split at h
  · exact ⟨_, rfl⟩
  · exact nomatch h

def januaryGranted (cfg : Config) (last n : Nat) : Bool :=
  (januaryCycleSteps cfg last n).all fun st => cfg.Granted "d" 1767225601000 1767225601000 st

/-- Batches of one row. The first row of the bucket has been delivered, the second is queued: both cycles
fetch the delivered one. -/
theorem second_row_never_offered :
    ∃ w', januaryCycles { plainConfig with batchSize := 1 } 1 2 = some (.ok (), w') ∧
      ((januaryWorld 1).tables.bucketRows "d" "202601").length ≤ 2 ∧
      (∀ st ∈ januaryCycleSteps { plainConfig with batchSize := 1 } 1 2,
        Granted { plainConfig with batchSize := 1 } "d" 1767225601000 1767225601000 st) ∧
      ¬ RecoveryComplete { plainConfig with batchSize := 1 } "d" "202601" 1767225601000
        1767225601000 (januaryWorld 1) w'
        (januaryCycleSteps { plainConfig with batchSize := 1 } 1 2) := by
  obtain ⟨w', hrun⟩ := finished_iff
    (r := januaryCycles { plainConfig with batchSize := 1 } 1 2) (by decide)
  have hgranted : januaryGranted { plainConfig with batchSize := 1 } 1 2 = true := by decide
  refine ⟨w', hrun, by decide, ?_, ?_⟩
  · intro st hst
    exact of_decide_eq_true (all_eq_true.mp hgranted st hst)
  intro hcomplete
  have hoffered := (hcomplete (januaryRow 1 1) (by decide)).1 (by decide)
  have hnot : (januaryCycleSteps { plainConfig with batchSize := 1 } 1 2).any
      (fun st => st.stmt.offers (januaryRow 1 1).key) = false := by decide
  obtain ⟨st, hst, hst'⟩ := hoffered
  exact (any_eq_false.mp hnot) st hst hst'

/-- A single queued record is offered by a single cycle. -/
theorem single_row_offered : ∃ w', januaryCycles plainConfig 0 1 = some (.ok (), w') ∧
      RecoveryComplete plainConfig "d" "202601" 1767225601000 1767225601000 (januaryWorld 0) w'
        (januaryCycleSteps plainConfig 0 1) := by
  obtain ⟨w', hrun⟩ := finished_iff (r := januaryCycles plainConfig 0 1) (by decide)
  have hgranted : januaryGranted plainConfig 0 1 = true := by decide
  refine ⟨w', hrun, (recoveryComplete_iff plainConfig "d" "202601" 1767225601000 1767225601000 1
    (atOnce 1767225601000 20) (januaryWorld 0) w' (by decide) (by decide) hrun ?_).mpr (by decide)⟩
  intro st hst
  exact of_decide_eq_true (all_eq_true.mp hgranted st hst)

end Config

end SecureCloud.Messaging.Delivery
