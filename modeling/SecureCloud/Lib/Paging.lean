import Mathlib

/-
# Lib.Paging — reading a keyed stream window by window

Rows carry strictly ascending natural keys, possibly with gaps. A reader at position `since` looks at
the keys of `(since, since + batch + 1]`, takes at most `batch` of the rows there, and goes on from the
last one. The window is computed FROM THE POSITION, so a gap as wide as the window hides everything behind
it: `NoGap` is the exact condition for getting everything up to the ceiling.
-/

namespace SecureCloud.Lib.Paging

open List

variable {ρ : Type*} (key : ρ → Nat)

/-! ## Prefixes of an ascending list -/

def Ascending (rows : List ρ) : Prop := rows.Pairwise fun a b => key a < key b

variable {key}

theorem Ascending.filter {rows : List ρ} (h : Ascending key rows) (p : ρ → Bool) :
    Ascending key (rows.filter p) := List.Pairwise.filter p h

theorem Ascending.eq_of_perm {l₁ l₂ : List ρ} (h₁ : Ascending key l₁) (h₂ : Ascending key l₂)
    (hp : l₁.Perm l₂) : l₁ = l₂ := by
  refine List.Perm.eq_of_pairwise ?_ h₁ h₂ hp
  intro a b _ _ hab hba
  omega

theorem mem_left_of_append {l t : List ρ} {z : ρ} (h : Ascending key (l ++ [z] ++ t)) {r : ρ} :
    r ∈ l ++ [z] ↔ r ∈ l ++ [z] ++ t ∧ key r ≤ key z := by
  have happ := pairwise_append.mp h
  have hinit := pairwise_append.mp happ.1
  constructor
  · intro hr
    refine ⟨mem_append_left _ hr, ?_⟩
    rcases mem_append.mp hr with hr | hr
    · exact (hinit.2.2 r hr z (by simp)).le
    · rw [mem_singleton.mp hr]
  rintro ⟨hr, hle⟩
  rcases mem_append.mp hr with hr | hr
  · exact hr
  have hlt : key z < key r := happ.2.2 z (by simp) r hr
  omega

/-! ## One page -/

variable (key) (rows : List ρ) (batch ceiling : Nat) (since : Nat)

def window : List ρ :=
  rows.filter fun r => since < key r ∧ key r ≤ since + batch + 1

def page : List ρ :=
  if batch < (window key rows batch since).length then (window key rows batch since).dropLast
  else window key rows batch since

def cursor : Nat :=
  match (page key rows batch since).getLast? with
  | none => since
  | some r => key r

def more : Bool :=
  decide (batch < (window key rows batch since).length) ||
    (match (page key rows batch since).getLast? with
    | none => false
    | some r => decide (key r < ceiling))

def follow : Nat → Nat → List ρ
  | 0, _ => []
  | fuel + 1, since =>
    if ceiling ≤ since then []
    else page key rows batch since ++
      if more key rows batch ceiling since then follow fuel (cursor key rows batch since) else []

/-- No gap hides a row: from the start, and from every row, the next row up to the ceiling lies in the
window. -/
def NoGap (start : Nat) : Prop :=
  ∀ s, (s = start ∨ ∃ r ∈ rows, key r = s ∧ start < s ∧ s ≤ ceiling) →
    (∃ r ∈ rows, s < key r ∧ key r ≤ ceiling) → ∃ r ∈ rows, s < key r ∧ key r ≤ s + batch + 1

variable {key rows batch ceiling} {since : Nat}

theorem mem_window {r : ρ} : r ∈ window key rows batch since ↔
    r ∈ rows ∧ since < key r ∧ key r ≤ since + batch + 1 := by
  simp [window]

theorem length_window_le (h : Ascending key rows) :
    (window key rows batch since).length ≤ batch + 1 := by
  have hnodup : ((window key rows batch since).map key).Nodup := by
    rw [List.Nodup, pairwise_map]
    exact (h.filter _).imp fun hlt => hlt.ne
  have hsub : ((window key rows batch since).map key).toFinset ⊆
      Finset.Ioc since (since + batch + 1) := by
    intro k hk
    obtain ⟨r, hr, rfl⟩ := mem_map.mp (mem_toFinset.mp hk)
    exact Finset.mem_Ioc.mpr (mem_window.mp hr).2
  have hcard := Finset.card_le_card hsub
  rw [toFinset_card_of_nodup hnodup, length_map, Nat.card_Ioc] at hcard
  omega

theorem window_eq_page_append : ∃ t, window key rows batch since = page key rows batch since ++ t := by
  unfold page
  split
  next h =>
    have hne : window key rows batch since ≠ [] := by
      intro hnil
      simp [hnil] at h
    exact ⟨[(window key rows batch since).getLast hne], (dropLast_append_getLast hne).symm⟩
  · exact ⟨[], by simp⟩

theorem page_ne_nil (hb : 1 ≤ batch) (h : window key rows batch since ≠ []) :
    page key rows batch since ≠ [] := by
  unfold page
  split
  next hlen =>
    intro hnil
    have hlength := congrArg length hnil
    simp only [length_dropLast, length_nil] at hlength
    omega
  · exact h

theorem cursor_of_page_eq_nil (h : page key rows batch since = []) :
    cursor key rows batch since = since := by
  simp [cursor, h]

theorem exists_cursor (h : page key rows batch since ≠ []) :
    ∃ l z, page key rows batch since = l ++ [z] ∧ cursor key rows batch since = key z ∧
      z ∈ rows ∧ since < key z ∧ key z ≤ since + batch + 1 := by
  obtain ⟨l, z, hl⟩ := (eq_nil_or_concat (page key rows batch since)).resolve_left h
  rw [concat_eq_append] at hl
  obtain ⟨t, ht⟩ : ∃ t, window key rows batch since = page key rows batch since ++ t :=
    window_eq_page_append
  have hz : z ∈ window key rows batch since := by
    rw [ht, hl]
    simp
  exact ⟨l, z, hl, by simp [cursor, hl], mem_window.mp hz⟩

/-- **The page is what lies between the old position and the new one.** -/
theorem mem_page (h : Ascending key rows) {r : ρ} : r ∈ page key rows batch since ↔
    r ∈ rows ∧ since < key r ∧ key r ≤ cursor key rows batch since := by
  by_cases hnil : page key rows batch since = []
  · rw [hnil, cursor_of_page_eq_nil hnil]
    constructor
    · nofun
    rintro ⟨-, hlt, hle⟩
    omega
  obtain ⟨l, z, hl, hz, -, -, hwin⟩ := exists_cursor hnil
  obtain ⟨t, ht⟩ : ∃ t, window key rows batch since = page key rows batch since ++ t :=
    window_eq_page_append
  have hasc : Ascending key (l ++ [z] ++ t) := by
    rw [← hl, ← ht]
    exact h.filter _
  rw [hl, mem_left_of_append hasc, ← hl, ← ht, mem_window, hz]
  constructor
  · rintro ⟨⟨hr, hlt, -⟩, hle⟩
    exact ⟨hr, hlt, hle⟩
  rintro ⟨hr, hlt, hle⟩
  exact ⟨⟨hr, hlt, by omega⟩, hle⟩

theorem page_ascending (h : Ascending key rows) : Ascending key (page key rows batch since) := by
  obtain ⟨t, ht⟩ : ∃ t, window key rows batch since = page key rows batch since ++ t :=
    window_eq_page_append
  have hwin : Ascending key (window key rows batch since) := h.filter _
  rw [ht] at hwin
  exact (pairwise_append.mp hwin).1

theorem cursor_bounds : since ≤ cursor key rows batch since ∧
    cursor key rows batch since ≤ since + batch + 1 := by
  by_cases hnil : page key rows batch since = []
  · rw [cursor_of_page_eq_nil hnil]
    omega
  obtain ⟨l, z, -, hz, -, hlt, hle⟩ := exists_cursor hnil
  omega

theorem lt_cursor_of_more (hb : 1 ≤ batch) (h : more key rows batch ceiling since = true) :
    since < cursor key rows batch since := by
  have hne : page key rows batch since ≠ [] := by
    unfold more at h
    rw [Bool.or_eq_true] at h
    rcases h with h | h
    · refine page_ne_nil hb fun hnil => ?_
      simp [hnil] at h
    intro hnil
    simp [hnil] at h
  obtain ⟨l, z, -, hz, -, hlt, -⟩ := exists_cursor hne
  omega

theorem more_of_cursor_lt (hne : page key rows batch since ≠ [])
    (h : cursor key rows batch since < ceiling) : more key rows batch ceiling since = true := by
  obtain ⟨l, z, hl, hz, -⟩ := exists_cursor hne
  simp only [more, hl, getLast?_concat, Bool.or_eq_true, decide_eq_true_eq]
  right
  omega

/-! ## The whole reading -/

/-- Nothing is read twice and nothing out of order: the rows read ascend, from the start on. -/
theorem follow_ascending (h : Ascending key rows) (batch ceiling fuel since : Nat) :
    Ascending key (follow key rows batch ceiling fuel since) ∧
      ∀ r ∈ follow key rows batch ceiling fuel since, r ∈ rows ∧ since < key r := by
  induction fuel generalizing since with
  | zero => exact ⟨List.Pairwise.nil, nofun⟩
  | succ fuel ih =>
    rw [follow]
    split
    · exact ⟨List.Pairwise.nil, nofun⟩
    split
    · obtain ⟨hasc, hmem⟩ := ih (cursor key rows batch since)
      have hle : since ≤ cursor key rows batch since := cursor_bounds.1
      refine ⟨pairwise_append.mpr ⟨page_ascending h, hasc, ?_⟩, ?_⟩
      · intro a ha b hb
        have hup := ((mem_page h).mp ha).2.2
        have hlow := (hmem b hb).2
        omega
      intro r hr
      rcases mem_append.mp hr with hr | hr
      · exact ⟨((mem_page h).mp hr).1, ((mem_page h).mp hr).2.1⟩
      obtain ⟨h₁, h₂⟩ := hmem r hr
      exact ⟨h₁, by omega⟩
    · rw [append_nil]
      exact ⟨page_ascending h, fun r hr => ⟨((mem_page h).mp hr).1, ((mem_page h).mp hr).2.1⟩⟩

theorem NoGap.from_cursor (hgap : NoGap key rows batch ceiling since)
    (hne : page key rows batch since ≠ []) :
    NoGap key rows batch ceiling (cursor key rows batch since) := by
  obtain ⟨l, z, -, hz, hmem, hlt, -⟩ := exists_cursor hne
  intro s hs hleft
  refine hgap s (.inr ?_) hleft
  rcases hs with rfl | ⟨r, hr, hrs, hlt', hle'⟩
  · obtain ⟨r, -, hr₁, hr₂⟩ := hleft
    exact ⟨z, hmem, hz.symm, by omega, by omega⟩
  · exact ⟨r, hr, hrs, by omega, hle'⟩

theorem NoGap.page_ne_nil (hgap : NoGap key rows batch ceiling since) (hb : 1 ≤ batch)
    (hleft : ∃ r ∈ rows, since < key r ∧ key r ≤ ceiling) : page key rows batch since ≠ [] := by
  obtain ⟨r, hr, hlt, hle⟩ := hgap since (.inl rfl) hleft
  exact Paging.page_ne_nil hb (ne_nil_of_mem (mem_window.mpr ⟨hr, hlt, hle⟩))

/-- **Without gaps the reader gets every row up to the ceiling.** -/
theorem mem_follow (h : Ascending key rows) (hb : 1 ≤ batch) {fuel : Nat}
    (hfuel : ceiling < fuel + since) (hgap : NoGap key rows batch ceiling since) {r : ρ}
    (hr : r ∈ rows) (hlt : since < key r) (hle : key r ≤ ceiling) :
    r ∈ follow key rows batch ceiling fuel since := by
  induction fuel generalizing since with
  | zero => omega
  | succ fuel ih =>
    have hne := hgap.page_ne_nil hb ⟨r, hr, hlt, hle⟩
    rw [follow, if_neg (by omega)]
    by_cases hin : key r ≤ cursor key rows batch since
    · exact mem_append_left _ ((mem_page h).mpr ⟨hr, hlt, hin⟩)
    have hmore : more key rows batch ceiling since = true := more_of_cursor_lt hne (by omega)
    have hprogress := lt_cursor_of_more hb hmore
    rw [if_pos hmore]
    refine mem_append_right _ (ih (by omega) (hgap.from_cursor hne) (by omega))

/-- **A gap hides what lies behind it**, for however long the reader goes on. -/
theorem not_mem_follow_of_gap (h : Ascending key rows) {s : Nat} {r : ρ} (hs : since ≤ s)
    (hgap : ∀ q ∈ rows, s < key q → s + batch + 1 < key q) (hr : s < key r) (hrow : r ∈ rows)
    (fuel : Nat) : r ∉ follow key rows batch ceiling fuel since := by
  induction fuel generalizing since with
  | zero => exact not_mem_nil
  | succ fuel ih =>
    have hfar := hgap r hrow hr
    -- the page cannot pass the gap
    have hcur : cursor key rows batch since ≤ s := by
      by_cases hnil : page key rows batch since = []
      · rw [cursor_of_page_eq_nil hnil]
        exact hs
      obtain ⟨l, z, -, hz, hmem, hlt, hle⟩ := exists_cursor hnil
      by_contra hbeyond
      have := hgap z hmem (by omega)
      omega
    have hpage : r ∉ page key rows batch since := by
      rw [mem_page h]
      rintro ⟨-, -, hle⟩
      omega
    rw [follow]
    split
    · exact not_mem_nil
    split
    · rw [mem_append, not_or]
      exact ⟨hpage, ih hcur⟩
    · simpa using hpage

/-- **The exact condition**: the reader gets every row up to the ceiling if and only if no gap hides
one. -/
theorem forall_mem_follow_iff (h : Ascending key rows) (hb : 1 ≤ batch) {fuel : Nat}
    (hfuel : ceiling < fuel + since) :
    (∀ r ∈ rows, since < key r → key r ≤ ceiling → r ∈ follow key rows batch ceiling fuel since) ↔
      NoGap key rows batch ceiling since := by
  constructor
  · intro hall s hs hleft
    by_contra hgap
    push Not at hgap
    obtain ⟨r, hr, hlt, hle⟩ := hleft
    have hstart : since ≤ s := by
      rcases hs with rfl | ⟨-, -, -, hlt', -⟩ <;> omega
    exact not_mem_follow_of_gap h hstart hgap hlt hr fuel (hall r hr (by omega) hle)
  · intro hgap r hr hlt hle
    exact mem_follow h hb hfuel hgap hr hlt hle

end SecureCloud.Lib.Paging
