import SecureCloud.Lib.Table
import SecureCloud.Lib.TokenBucket

/-
# Gateway.RateLimiter — `RateLimiterMiddleware`, one token bucket per client

`acquire` refills the client's bucket by the time that has passed and takes a token out. The limiter
remembers a BOUNDED number of clients: a new one pushes out those used longest ago, `prune_expired` drops
idle ones, and a client idle for `client_ttl` finds its bucket full. So the textbook bound `burst + rate *
T` fails: the theorem adds the tokens missing from each bucket that was thrown away.

Tokens and seconds are exact rationals. The map and the LRU list of the source are one table here, its
rows in the order of the list, the latest client first.
-/

namespace SecureCloud.Gateway

open Lib Lib.Table Lib.TokenBucket Keyed List

/-- `GatewayRateLimitingConfig`; `clientTtl` is in seconds. -/
structure RateLimitingConfig where
  enabled : Bool := true
  refillRatePerSec : ℚ := 50
  burstCapacity : Nat := 100
  maxTrackedClients : Nat := 10000
  clientTtl : Nat := 300

/-- The seconds are `uint32_t` in the source. `retryAfterSec` fits: the configuration takes rates from 0.1
to 100000, so that a token takes ten seconds at most. -/
structure AcquireResult where
  allowed : Bool := false
  remaining : Nat := 0
  limit : Nat := 0
  retryAfterSec : Nat := 0
  resetSec : Nat := 0

/-- `client_map_` in the order of `lru_list_`; of a `ClientEntry`, `since` is `last_refill`. -/
abbrev ClientMap := Keyed (Prod.fst : String × Bucket → String)

namespace RateLimitingConfig

variable (cfg : RateLimitingConfig)

def refill (now : ℚ) (b : Bucket) : Bucket where
  tokens :=
    let elapsedSec := max 0 (now - b.since)
    if cfg.clientTtl ≤ elapsedSec then cfg.burstCapacity
    else min cfg.burstCapacity (b.tokens + elapsedSec * cfg.refillRatePerSec)
  since := now

/-- The `while` loop that makes room. Every turn drops one client, so there are at most as many turns
as clients. -/
def evictLoop {α : Type} (maxTracked : Nat) : Nat → List α → List α
  | 0, rows => rows
  | n + 1, rows => if maxTracked ≤ rows.length then evictLoop maxTracked n rows.dropLast else rows

theorem evictLoop_sublist {α : Type} (maxTracked : Nat) :
    ∀ n (rows : List α), (evictLoop maxTracked n rows).Sublist rows
  | 0, rows => List.Sublist.refl rows
  | n + 1, rows => by
    unfold evictLoop
    split
    · exact (evictLoop_sublist maxTracked n rows.dropLast).trans (dropLast_sublist rows)
    · exact List.Sublist.refl rows

def evict (m : ClientMap) : ClientMap :=
  m.ofSublist (evictLoop_sublist cfg.maxTrackedClients m.rows.length m.rows)

/-- The bucket the caller finds, and the clients that are remembered beside it. -/
def visit (key : String) (now : ℚ) (m : ClientMap) : Bucket × ClientMap :=
  match m.find key with
  | some (_, b) => (cfg.refill now b, m)
  | none => (⟨cfg.burstCapacity, now⟩, cfg.evict m)

def answer (tokens : ℚ) : AcquireResult :=
  if 1 ≤ tokens then
    let missingForFull := cfg.burstCapacity - (tokens - 1)
    { allowed := true
      remaining := (tokens - 1).floor.toNat
      limit := cfg.burstCapacity
      resetSec :=
        if missingForFull ≤ 0 ∨ cfg.refillRatePerSec ≤ 0 then 0
        else (missingForFull / cfg.refillRatePerSec).ceil.toNat }
  else
    let retryAfter :=
      if 0 < cfg.refillRatePerSec then ((1 - tokens) / cfg.refillRatePerSec).ceil.toNat else 1
    let reset :=
      if 0 < cfg.refillRatePerSec then
        ((cfg.burstCapacity - tokens) / cfg.refillRatePerSec).ceil.toNat
      else 1
    { limit := cfg.burstCapacity
      retryAfterSec := if retryAfter = 0 then 1 else retryAfter
      resetSec := if reset = 0 then 1 else reset }

/-- `acquire`. The mutex is held from the clock reading to the end. -/
def acquire (key : String) (now : ℚ) (m : ClientMap) : AcquireResult × ClientMap :=
  if !cfg.enabled then
    ({ allowed := true, remaining := cfg.burstCapacity, limit := cfg.burstCapacity }, m)
  else
    let (bucket, others) := cfg.visit key now m
    let left := if 1 ≤ bucket.tokens then bucket.tokens - 1 else bucket.tokens
    (cfg.answer bucket.tokens, others.write (key, ⟨left, now⟩))

def pruneExpired (now : ℚ) (m : ClientMap) : ClientMap :=
  m.restrict fun row => !(decide ((cfg.clientTtl : ℚ) ≤ now - row.2.since))

end RateLimitingConfig

/-! ## Runs of the limiter -/

/-- A call on the limiter and its time. (`clear` does not read the clock.) -/
inductive LimiterCall
  | acquire (key : String) (now : ℚ)
  | pruneExpired (now : ℚ)
  | clear (now : ℚ)

def LimiterCall.now : LimiterCall → ℚ
  | acquire _ now => now
  | pruneExpired now => now
  | clear now => now

namespace RateLimitingConfig

variable (cfg : RateLimitingConfig)

def next (m : ClientMap) : LimiterCall → ClientMap
  | .acquire key now => (cfg.acquire key now m).2
  | .pruneExpired now => cfg.pruneExpired now m
  | .clear _ => empty

variable (key : String)

def served (m : ClientMap) : LimiterCall → ℚ
  | .acquire k now => if k = key ∧ (cfg.acquire k now m).1.allowed then 1 else 0
  | _ => 0

/-- What `key` would find at `t` by refilling alone; a client not remembered, a full bucket. -/
def level (m : ClientMap) (t : ℚ) : ℚ :=
  match m.find key with
  | some (_, b) => b.level cfg.burstCapacity cfg.refillRatePerSec t
  | none => cfg.burstCapacity

/-- The call throws the bucket of `key` away: the client is forgotten, or is back after `client_ttl`. -/
def throwsAway (m : ClientMap) (call : LimiterCall) : Bool :=
  match m.find key with
  | none => false
  | some (_, b) =>
    ((cfg.next m call).find key).isNone ||
      match call with
      | .acquire k now => decide (k = key ∧ (cfg.clientTtl : ℚ) ≤ max 0 (now - b.since))
      | _ => false

def missing (m : ClientMap) (call : LimiterCall) : ℚ :=
  if cfg.throwsAway key m call then cfg.burstCapacity - cfg.level key m call.now else 0

/-- How many acquisitions of `key` are allowed between `a` and `b`. -/
def allowedIn (a b : ℚ) (m : ClientMap) (calls : List LimiterCall) : ℚ :=
  total cfg.next LimiterCall.now a b (cfg.served key) m calls

/-- The tokens missing from the buckets of `key` that are thrown away between `a` and `b`. -/
def missingIn (a b : ℚ) (m : ClientMap) (calls : List LimiterCall) : ℚ :=
  total cfg.next LimiterCall.now a b (cfg.missing key) m calls

def Known (m : ClientMap) (t : ℚ) : Prop :=
  ∀ k r, m.find k = some r → r.2.since ≤ t ∧ 0 ≤ r.2.tokens ∧ r.2.tokens ≤ cfg.burstCapacity

/-! ## One call -/

section
variable {cfg} {key : String} {m : ClientMap} {call : LimiterCall} {now : ℚ}

theorem find_next (cfg : RateLimitingConfig) (m : ClientMap) (hother : ∀ t, call ≠ .acquire key t) :
    (cfg.next m call).find key = m.find key ∨ (cfg.next m call).find key = none := by
  cases call with
  | clear now => exact .inr rfl
  | pruneExpired now =>
    rw [next, pruneExpired, find_restrict]
    cases hfound : m.find key with
    | none => exact .inl rfl
    | some r =>
      by_cases hkept : (!(decide ((cfg.clientTtl : ℚ) ≤ now - r.2.since))) = true
      · exact .inl (by simp only [Option.filter, hkept, if_true])
      · exact .inr (by simp only [Option.filter, hkept]; rfl)
  | acquire k now =>
    have hne : key ≠ k := fun h => hother now (h ▸ rfl)
    unfold next acquire
    by_cases hon : cfg.enabled
    · simp only [hon, Bool.not_true, Bool.false_eq_true, if_false]
      rw [find_write_of_ne _ hne]
      unfold visit
      cases m.find k with
      | some r => exact .inl rfl
      | none =>
        exact (find_ofSublist
          (evictLoop_sublist cfg.maxTrackedClients m.rows.length m.rows) key).symm
    · simp [hon]

theorem find_next_acquire (hon : cfg.enabled = true) : (cfg.next m (.acquire key now)).find key =
      some (key, ⟨if 1 ≤ (cfg.visit key now m).1.tokens then (cfg.visit key now m).1.tokens - 1
        else (cfg.visit key now m).1.tokens, now⟩) := by
  unfold next acquire
  simp only [hon, Bool.not_true, Bool.false_eq_true, if_false]
  exact find_write_self _ (key, _)

theorem allowed_acquire (hon : cfg.enabled = true) :
    (cfg.acquire key now m).1.allowed = decide (1 ≤ (cfg.visit key now m).1.tokens) := by
  unfold acquire answer
  by_cases henough : 1 ≤ (cfg.visit key now m).1.tokens <;> simp [hon, henough]

theorem served_acquire (hon : cfg.enabled = true) :
    cfg.served key m (.acquire key now) = if 1 ≤ (cfg.visit key now m).1.tokens then 1 else 0 := by
  simp [served, allowed_acquire hon]

theorem refill_tokens_mem (hrate : 0 ≤ cfg.refillRatePerSec) {b : Bucket} (htokens : 0 ≤ b.tokens) :
    0 ≤ (cfg.refill now b).tokens ∧ (cfg.refill now b).tokens ≤ cfg.burstCapacity := by
  have hburst : (0 : ℚ) ≤ cfg.burstCapacity := Nat.cast_nonneg _
  unfold refill
  dsimp only
  split
  · exact ⟨hburst, le_rfl⟩
  have hgain := mul_nonneg (le_max_left 0 (now - b.since)) hrate
  exact ⟨le_min hburst (by linarith), min_le_left _ _⟩

theorem visit_tokens_mem (key : String) (hrate : 0 ≤ cfg.refillRatePerSec) (hm : cfg.Known m now) :
    0 ≤ (cfg.visit key now m).1.tokens ∧ (cfg.visit key now m).1.tokens ≤ cfg.burstCapacity := by
  unfold visit
  cases hfound : m.find key with
  | none => exact ⟨Nat.cast_nonneg _, le_rfl⟩
  | some r => exact refill_tokens_mem hrate (hm key r hfound).2.1

open Bucket

/-- What a caller finds is what refilling gives, and the missing tokens when the old bucket is
thrown away. -/
theorem visit_tokens_le (key : String) (hm : cfg.Known m now) : (cfg.visit key now m).1.tokens ≤
      cfg.level key m now + cfg.missing key m (.acquire key now) := by
  unfold visit missing throwsAway level
  cases hfound : m.find key with
  | none => simp
  | some r =>
    have hpast : max 0 (now - r.2.since) = now - r.2.since :=
      max_eq_right (sub_nonneg.mpr (hm key r hfound).1)
    by_cases hidle : (cfg.clientTtl : ℚ) ≤ now - r.2.since
    · simp [refill, LimiterCall.now, hpast, hidle]
    have hmiss : 0 ≤ cfg.burstCapacity - r.2.level cfg.burstCapacity cfg.refillRatePerSec now :=
      sub_nonneg.mpr level_le_cap
    simp only [refill, hpast, if_neg hidle, LimiterCall.now]
    have hsame : min (cfg.burstCapacity : ℚ) (r.2.tokens + (now - r.2.since) * cfg.refillRatePerSec)
        = r.2.level cfg.burstCapacity cfg.refillRatePerSec now := rfl
    rw [hsame]
    split <;> linarith

theorem level_le (t : ℚ) : cfg.level key m t ≤ cfg.burstCapacity := by
  unfold level
  cases m.find key with
  | none => exact le_rfl
  | some r => exact level_le_cap

theorem missing_nonneg : 0 ≤ cfg.missing key m call := by
  unfold missing
  split
  · exact sub_nonneg.mpr (level_le _)
  · exact le_rfl

theorem Known.later {t t' : ℚ} (hm : cfg.Known m t) (h : t ≤ t') : cfg.Known m t' := by
  intro k r hr
  obtain ⟨hsince, htokens⟩ := hm k r hr
  exact ⟨hsince.trans h, htokens⟩

open LimiterCall

theorem Known.next (hon : cfg.enabled = true) (hrate : 0 ≤ cfg.refillRatePerSec)
    (hm : cfg.Known m call.now) : cfg.Known (cfg.next m call) call.now := by
  intro k r hr
  by_cases hown : ∃ t, call = .acquire k t
  · obtain ⟨t, rfl⟩ := hown
    rw [find_next_acquire hon] at hr
    cases hr
    have hm : cfg.Known m t := hm
    obtain ⟨hlow, hhigh⟩ := visit_tokens_mem k hrate hm
    simp only [now]
    refine ⟨le_rfl, ?_, ?_⟩ <;> split <;> linarith
  rcases find_next cfg m (fun t h => hown ⟨t, h⟩) with hsame | hnone
  · exact hm k r (hsame ▸ hr)
  rw [hnone] at hr
  exact absurd hr (by simp)

theorem level_next_acquire (key : String) (hon : cfg.enabled = true) (hrate : 0 ≤ cfg.refillRatePerSec)
    (hm : cfg.Known m now) :
    cfg.level key (cfg.next m (.acquire key now)) now =
      if 1 ≤ (cfg.visit key now m).1.tokens then (cfg.visit key now m).1.tokens - 1
      else (cfg.visit key now m).1.tokens := by
  obtain ⟨-, hhigh⟩ := visit_tokens_mem key hrate hm
  unfold level
  rw [find_next_acquire hon]
  refine level_since ?_
  split <;> linarith

theorem served_add_level_le (hon : cfg.enabled = true) (hrate : 0 ≤ cfg.refillRatePerSec)
    (hm : cfg.Known m call.now) :
    cfg.served key m call + cfg.level key (cfg.next m call) call.now ≤
      cfg.level key m call.now + cfg.missing key m call := by
  by_cases hown : ∃ t, call = .acquire key t
  · obtain ⟨t, rfl⟩ := hown
    -- the token that is served is the one that leaves the bucket
    have hm : cfg.Known m t := hm
    have hfound := visit_tokens_le key hm
    obtain ⟨-, hhigh⟩ := visit_tokens_mem key hrate hm
    have hleft := level_next_acquire key hon hrate hm
    simp only [now]
    rw [served_acquire hon, hleft]
    split <;> linarith
  have hserved : cfg.served key m call = 0 := by
    cases call with
    | acquire k t =>
      have hne : k ≠ key := fun h => hown ⟨t, h ▸ rfl⟩
      simp [served, hne]
    | pruneExpired | clear => rfl
  rw [hserved, zero_add]
  have hother : ∀ t, call ≠ .acquire key t := fun t h => hown ⟨t, h⟩
  rcases find_next cfg m hother with hsame | hnone
  · have hlevel : cfg.level key (cfg.next m call) call.now = cfg.level key m call.now := by
      simp only [level, hsame]
    have hmissing : 0 ≤ cfg.missing key m call := missing_nonneg
    linarith
  -- forgotten: the missing tokens are entered as such
  have hfull : cfg.level key (cfg.next m call) call.now = cfg.burstCapacity := by
    simp only [level, hnone]
  rw [hfull]
  cases hfound : m.find key with
  | none => simp [level, missing, throwsAway, hfound]
  | some r =>
    have haway : cfg.throwsAway key m call = true := by simp [throwsAway, hfound, hnone]
    simp [missing, haway]

/-! ## Every window -/

/-- The calls on a limiter are a ledger for every client. -/
theorem ledger (cfg : RateLimitingConfig) (key : String) (hon : cfg.enabled = true)
    (hrate : 0 ≤ cfg.refillRatePerSec) :
    Ledger cfg.next LimiterCall.now cfg.burstCapacity cfg.refillRatePerSec cfg.Known (cfg.level key)
      (cfg.served key) (cfg.missing key) where
  rate_nonneg := hrate
  level_le := fun _ t => level_le t
  level_nonneg := by
    intro m t hm
    unfold level
    cases hfound : m.find key with
    | none => exact Nat.cast_nonneg _
    | some r =>
      obtain ⟨hsince, htokens, -⟩ := hm key r hfound
      exact level_nonneg (Nat.cast_nonneg _) hrate htokens hsince
  level_le_add := by
    intro m t t' _ ht
    unfold level
    cases m.find key with
    | none =>
      have := mul_nonneg hrate (sub_nonneg.mpr ht)
      linarith
    | some r => exact level_le_add hrate ht
  later := fun _ _ _ hm ht => hm.later ht
  keep := fun _ _ hm => hm.next hon hrate
  gift_nonneg := fun _ _ _ => missing_nonneg
  step := fun _ _ hm => served_add_level_le hon hrate hm

/-- **The bound of a window.** On an enabled limiter, with a clock that does not run backwards and any traffic
from other clients, the acquisitions allowed to a client in a window of `T` seconds are at most the burst,
what refills in `T` seconds, and the tokens missing from its buckets that were thrown away in the window. -/
theorem allowedIn_le (cfg : RateLimitingConfig) (key : String) (calls : List LimiterCall) (a T : ℚ)
    (hon : cfg.enabled = true) (hrate : 0 ≤ cfg.refillRatePerSec) (hT : 0 ≤ T)
    (hclock : (calls.map LimiterCall.now).Pairwise (· ≤ ·)) :
    cfg.allowedIn key a (a + T) empty calls ≤ cfg.burstCapacity + cfg.refillRatePerSec * T +
        cfg.missingIn key a (a + T) empty calls := by
  have hbound : ∀ t, (t :: calls.map now).Pairwise (· ≤ ·) →
      cfg.allowedIn key a (a + T) empty calls ≤
        cfg.burstCapacity + cfg.refillRatePerSec * (a + T - a) +
          cfg.missingIn key a (a + T) empty calls := by
    intro t ht
    have hfresh : cfg.Known empty t := fun k r hr => absurd hr (by simp)
    exact (ledger cfg key hon hrate).total_le hfresh (by linarith) ht
  rw [add_sub_cancel_left] at hbound
  cases calls with
  | nil => exact hbound 0 (by simp)
  | cons call rest =>
    refine hbound call.now (pairwise_cons.mpr ⟨?_, hclock⟩)
    intro t ht
    rcases mem_cons.mp ht with rfl | ht
    · exact le_rfl
    · exact (pairwise_cons.mp hclock).1 t ht

/-! ## `Retry-After` -/

/-- The advertised wait covers what is missing for one token. -/
theorem missing_le_retryAfterSec (hrate : 0 < cfg.refillRatePerSec) {tokens : ℚ} (h : tokens < 1) :
    1 - tokens ≤ (cfg.answer tokens).retryAfterSec * cfg.refillRatePerSec := by
  have hceil : 1 - tokens ≤ ((1 - tokens) / cfg.refillRatePerSec).ceil * cfg.refillRatePerSec :=
    (div_le_iff₀ hrate).mp Rat.le_ceil
  have hnat : ((1 - tokens) / cfg.refillRatePerSec).ceil ≤
      ((cfg.answer tokens).retryAfterSec : ℚ) := by
    have hcast := Int.self_le_toNat ((1 - tokens) / cfg.refillRatePerSec).ceil
    simp only [answer, not_le.mpr h, if_false, hrate, if_true]
    split
    · exact_mod_cast (by omega : ((1 - tokens) / cfg.refillRatePerSec).ceil ≤ 1)
    · exact_mod_cast hcast
  exact hceil.trans (mul_le_mul_of_nonneg_right hnat hrate.le)

theorem find_foldl_next (cfg : RateLimitingConfig) (calls : List LimiterCall) (m : ClientMap)
    (hsilent : ∀ t, LimiterCall.acquire key t ∉ calls) :
    (calls.foldl cfg.next m).find key = m.find key ∨ (calls.foldl cfg.next m).find key = none := by
  induction calls generalizing m with
  | nil => exact .inl rfl
  | cons call rest ih =>
    have hrest := ih (cfg.next m call) fun t h => hsilent t (mem_cons_of_mem _ h)
    rcases find_next cfg m fun t h => hsilent t (h ▸ mem_cons_self) with hsame | hnone
    · rwa [hsame] at hrest
    rw [hnone, or_self] at hrest
    exact .inr hrest

/-- **`Retry-After` is honest.** A client that is denied and makes no request for the advertised seconds is
allowed the next one, whatever the others do: its bucket was thrown away and is full, or the wait has
refilled it to a token. -/
theorem allowed_after_retryAfterSec (cfg : RateLimitingConfig) (key : String) (m : ClientMap)
    (others : List LimiterCall) (t t' : ℚ) (hrate : 0 < cfg.refillRatePerSec)
    (hburst : 1 ≤ cfg.burstCapacity) (hdenied : (cfg.acquire key t m).1.allowed = false)
    (hsilent : ∀ t, LimiterCall.acquire key t ∉ others)
    (hwait : t + (cfg.acquire key t m).1.retryAfterSec ≤ t') :
    (cfg.acquire key t' (others.foldl cfg.next (cfg.acquire key t m).2)).1.allowed = true := by
  have hon : cfg.enabled = true := by
    by_contra hoff
    rw [Bool.not_eq_true] at hoff
    simp [acquire, hoff] at hdenied
  have hfull : (1 : ℚ) ≤ cfg.burstCapacity := by exact_mod_cast hburst
  rw [allowed_acquire hon, decide_eq_false_iff_not, not_le] at hdenied
  rw [allowed_acquire hon, decide_eq_true_iff]
  have hleft : (cfg.acquire key t m).2.find key = _ := find_next_acquire hon
  have hmissing := missing_le_retryAfterSec hrate hdenied
  have hsec : (cfg.acquire key t m).1 = cfg.answer (cfg.visit key t m).1.tokens := by
    simp [acquire, hon]
  rw [hsec] at hwait
  rw [if_neg (not_le.mpr hdenied)] at hleft
  unfold visit
  rcases find_foldl_next cfg others (cfg.acquire key t m).2 hsilent with hsame | hnone
  · rw [hsame, hleft]
    simp only [refill]
    split
    · exact hfull
    refine le_min hfull ?_
    have helapsed := mul_le_mul_of_nonneg_right
      ((le_sub_iff_add_le'.mpr hwait).trans (le_max_right 0 _)) hrate.le
    linarith
  · rw [hnone]
    exact hfull

end

end RateLimitingConfig

/-! ## A crowd of other clients -/

def crowdedConfig : RateLimitingConfig where
  refillRatePerSec := 1 / 10
  burstCapacity := 1
  maxTrackedClients := 10

def crowdedCalls : List LimiterCall :=
  [.acquire "user:a" 0, .acquire "ip:0" 0, .acquire "ip:1" 0, .acquire "ip:2" 0, .acquire "ip:3" 0,
    .acquire "ip:4" 0, .acquire "ip:5" 0, .acquire "ip:6" 0, .acquire "ip:7" 0, .acquire "ip:8" 0,
    .acquire "ip:9" 0, .acquire "user:a" 0]

/-- The others push the client out, and its second request finds a full bucket. -/
theorem crowded_not_bounded : ¬ (crowdedConfig.allowedIn "user:a" 0 (0 + 0) empty crowdedCalls ≤
        crowdedConfig.burstCapacity + crowdedConfig.refillRatePerSec * 0) ∧
      (crowdedCalls.map LimiterCall.now).Pairwise (· ≤ ·) ∧ crowdedConfig.enabled = true := by
  decide +kernel

open RateLimitingConfig

theorem crowded_bounded : crowdedConfig.allowedIn "user:a" 0 (0 + 0) empty crowdedCalls ≤
      crowdedConfig.burstCapacity + crowdedConfig.refillRatePerSec * 0 +
        crowdedConfig.missingIn "user:a" 0 (0 + 0) empty crowdedCalls :=
  allowedIn_le crowdedConfig "user:a" crowdedCalls 0 0 rfl (by decide +kernel)
    le_rfl (by decide +kernel)

/-- The client has spent its token, is told to wait for ten seconds, and finds one then. -/
theorem crowded_retry : (crowdedConfig.acquire "user:a" 10
      ([.acquire "ip:0" 3, .pruneExpired 5].foldl crowdedConfig.next
        (crowdedConfig.acquire "user:a" 0 (crowdedConfig.acquire "user:a" 0 empty).2).2)).1.allowed
      = true :=
  allowed_after_retryAfterSec crowdedConfig "user:a" _
    [.acquire "ip:0" 3, .pruneExpired 5] 0 10 (by decide +kernel) (by decide) (by decide +kernel)
    (by simp) (by decide +kernel)

end SecureCloud.Gateway
