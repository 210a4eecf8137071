import Mathlib

/-
# Lib.TokenBucket — what a token bucket can hand out in a window

A bucket of capacity `cap` refills at `rate` tokens per unit of time. Its LEVEL at a time is what a
visitor would find there. What is handed out comes out of the level, the level rises by no more than
`rate` times the time that passes, and everything else that raises it is entered as a GIFT. Over a window
of length `T` the hand-outs are then at most `cap + rate * T` plus the gifts, from any state.
-/

namespace SecureCloud.Lib.TokenBucket

open List

/-! ## One bucket -/

/-- Tokens, as they were at time `since`. -/
structure Bucket where
  tokens : ℚ
  since : ℚ

def Bucket.level (cap rate : ℚ) (b : Bucket) (t : ℚ) : ℚ :=
  min cap (b.tokens + (t - b.since) * rate)

section
variable {cap rate : ℚ} {b : Bucket} {t t' : ℚ}

theorem Bucket.level_le_cap : b.level cap rate t ≤ cap := min_le_left _ _

theorem Bucket.level_since (h : b.tokens ≤ cap) : b.level cap rate b.since = b.tokens := by
  simp [level, h]

theorem Bucket.level_nonneg (hcap : 0 ≤ cap) (hrate : 0 ≤ rate) (htokens : 0 ≤ b.tokens)
    (ht : b.since ≤ t) : 0 ≤ b.level cap rate t := by
  refine le_min hcap ?_
  have := mul_nonneg (sub_nonneg.mpr ht) hrate
  linarith

theorem Bucket.level_le_add (hrate : 0 ≤ rate) (h : t ≤ t') :
    b.level cap rate t' ≤ b.level cap rate t + rate * (t' - t) := by
  have hgain : 0 ≤ rate * (t' - t) := mul_nonneg hrate (sub_nonneg.mpr h)
  rcases min_choice cap (b.tokens + (t - b.since) * rate) with hm | hm
  · have hcap : b.level cap rate t' ≤ cap := Bucket.level_le_cap
    have hnow : b.level cap rate t = cap := hm
    linarith
  unfold level
  rw [hm]
  refine (min_le_right _ _).trans ?_
  linarith

end

/-! ## The ledger of a run -/

variable {σ ε : Type*}

/-- `f`, summed over the events of a run whose time lies between `a` and `b`. -/
def total (next : σ → ε → σ) (time : ε → ℚ) (a b : ℚ) (f : σ → ε → ℚ) : σ → List ε → ℚ
  | _, [] => 0
  | s, e :: es =>
    (if a ≤ time e ∧ time e ≤ b then f s e else 0) + total next time a b f (next s e) es

/-- The laws of a ledger. `known s t` is what the owner keeps true of the state at time `t`. -/
structure Ledger (next : σ → ε → σ) (time : ε → ℚ) (cap rate : ℚ) (known : σ → ℚ → Prop)
    (level : σ → ℚ → ℚ) (served gift : σ → ε → ℚ) : Prop where
  rate_nonneg : 0 ≤ rate
  level_le : ∀ s t, level s t ≤ cap
  level_nonneg : ∀ s t, known s t → 0 ≤ level s t
  level_le_add : ∀ s t t', known s t → t ≤ t' → level s t' ≤ level s t + rate * (t' - t)
  later : ∀ s t t', known s t → t ≤ t' → known s t'
  keep : ∀ s e, known s (time e) → known (next s e) (time e)
  gift_nonneg : ∀ s e, known s (time e) → 0 ≤ gift s e
  step : ∀ s e, known s (time e) →
    served s e + level (next s e) (time e) ≤ level s (time e) + gift s e

section
variable {next : σ → ε → σ} {time : ε → ℚ} {cap rate a b : ℚ} {known : σ → ℚ → Prop}
  {level : σ → ℚ → ℚ} {served gift f : σ → ε → ℚ}

variable {s : σ} {es : List ε}

theorem total_eq_zero (h : ∀ e ∈ es, b < time e) : total next time a b f s es = 0 := by
  induction es generalizing s with
  | nil => rfl
  | cons e es ih =>
    have hout : ¬ (a ≤ time e ∧ time e ≤ b) := fun hin => absurd hin.2 (not_le.mpr (h e (by simp)))
    rw [total, if_neg hout, zero_add]
    exact ih fun e' he' => h e' (by simp [he'])

theorem lt_time_of_lt {e : ε} (hclock : ((e :: es).map time).Pairwise (· ≤ ·))
    (he : b < time e) : ∀ e' ∈ e :: es, b < time e' := by
  intro e' he'
  rcases mem_cons.mp he' with rfl | he'
  · exact he
  · exact lt_of_lt_of_le he ((pairwise_cons.mp hclock).1 (time e') (mem_map_of_mem he'))

/-- **Inside the window**: what is still handed out comes out of the level, of the time that is left
and of the gifts to come. -/
theorem Ledger.total_le_level (L : Ledger next time cap rate known level served gift) {t : ℚ}
    (hs : known s t) (hat : a ≤ t) (htb : t ≤ b)
    (hclock : (t :: es.map time).Pairwise (· ≤ ·)) :
    total next time a b served s es ≤
      level s t + rate * (b - t) + total next time a b gift s es := by
  induction es generalizing s t with
  | nil =>
    have hlevel := L.level_nonneg s t hs
    have hgain := mul_nonneg L.rate_nonneg (sub_nonneg.mpr htb)
    simp only [total]
    linarith
  | cons e es ih =>
    obtain ⟨hfirst, hrest⟩ := pairwise_cons.mp hclock
    have hte : t ≤ time e := hfirst _ (by simp)
    by_cases heb : time e ≤ b
    · have hknown := L.later s t (time e) hs hte
      have hin : a ≤ time e ∧ time e ≤ b := ⟨hat.trans hte, heb⟩
      have hrise := L.level_le_add s t (time e) hs hte
      have hstep := L.step s e hknown
      have htail := ih (L.keep s e hknown) hin.1 heb hrest
      simp only [total, if_pos hin]
      linarith
    -- the clock has left the window: nothing that follows counts
    have hafter := lt_time_of_lt hrest (not_le.mp heb)
    rw [total_eq_zero hafter, total_eq_zero hafter]
    have hlevel := L.level_nonneg s t hs
    have hgain := mul_nonneg L.rate_nonneg (sub_nonneg.mpr htb)
    linarith

/-- **The bound of a window**, from whatever state the run starts in. -/
theorem Ledger.total_le (L : Ledger next time cap rate known level served gift) {t : ℚ}
    (hs : known s t) (hab : a ≤ b) (hclock : (t :: es.map time).Pairwise (· ≤ ·)) :
    total next time a b served s es ≤ cap + rate * (b - a) + total next time a b gift s es := by
  have hcap := (L.level_nonneg s t hs).trans (L.level_le s t)
  have hgain := mul_nonneg L.rate_nonneg (sub_nonneg.mpr hab)
  -- wait for the first event of the window; until then nothing counts
  induction es generalizing s t with
  | nil =>
    simp only [total]
    linarith
  | cons e es ih =>
    obtain ⟨hfirst, hrest⟩ := pairwise_cons.mp hclock
    have hknown := L.later s t (time e) hs (hfirst _ (by simp))
    by_cases hea : time e < a
    · have hout : ¬ (a ≤ time e ∧ time e ≤ b) := fun hin => absurd hin.1 (not_le.mpr hea)
      simp only [total, if_neg hout, zero_add]
      exact ih (L.keep s e hknown) hrest
    by_cases heb : time e ≤ b
    · have hopen : ((time e) :: (e :: es).map time).Pairwise (· ≤ ·) := by
        refine pairwise_cons.mpr ⟨?_, hrest⟩
        intro t' ht'
        rcases mem_cons.mp ht' with rfl | ht'
        · exact le_rfl
        · exact (pairwise_cons.mp hrest).1 t' ht'
      have hinside := L.total_le_level hknown (not_lt.mp hea) heb hopen
      have hcap := L.level_le s (time e)
      have hgain := mul_le_mul_of_nonneg_left
        (show b - time e ≤ b - a by linarith [not_lt.mp hea]) L.rate_nonneg
      linarith
    have hafter := lt_time_of_lt hrest (not_le.mp heb)
    rw [total_eq_zero hafter, total_eq_zero hafter]
    linarith

end

end SecureCloud.Lib.TokenBucket
