import Mathlib

/-
# Lib.Table — rows with a primary key

A table is the list of its rows. `upsert` is the write of a wide-column store: the row replaces
whatever row has the same primary key. A range read returns the matching rows in clustering order,
so the order of the list itself carries no meaning.
-/

namespace SecureCloud.Lib.Table

open List

variable {κ ρ : Type*} [DecidableEq κ]

/-- Write `r`, replacing the row that has its key. -/
def upsert (key : ρ → κ) (r : ρ) (t : List ρ) : List ρ :=
  r :: t.filter fun x => key x ≠ key r

variable {key : ρ → κ} {r x : ρ} {t : List ρ} {k : κ}

@[simp]
theorem mem_upsert : x ∈ upsert key r t ↔ x = r ∨ (x ∈ t ∧ key x ≠ key r) := by
  simp [upsert]

theorem mem_of_mem_upsert (h : x ∈ upsert key r t) : x = r ∨ x ∈ t := by
  rcases mem_upsert.mp h with rfl | ⟨h, _⟩
  · exact .inl rfl
  · exact .inr h

theorem mem_upsert_self : r ∈ upsert key r t := by simp

theorem mem_upsert_of_mem (h : x ∈ t) (hk : key x ≠ key r) : x ∈ upsert key r t :=
  mem_upsert.mpr (.inr ⟨h, hk⟩)

/-- The row with a primary key; of several, the first. -/
def lookup (key : ρ → κ) (k : κ) (t : List ρ) : Option ρ := t.find? fun r => key r = k

theorem lookup_upsert (key : ρ → κ) (r : ρ) (t : List ρ) (k : κ) :
    lookup key k (upsert key r t) = if k = key r then some r else lookup key k t := by
  unfold lookup upsert
  by_cases hk : k = key r
  · simp [hk]
  rw [if_neg hk, find?_cons_of_neg (by simpa using Ne.symm hk), find?_filter]
  congr 1
  funext x
  -- a row of key `k` is not filtered out
  by_cases hx : key x = k
  · simp [hx, hk]
  · simp [hx]

theorem lookup_key (h : lookup key k t = some r) : key r = k := by
  simpa using find?_some h

theorem lookup_of_mem (hnodup : (t.map key).Nodup)
    (hr : r ∈ t) : lookup key (key r) t = some r := by
  unfold lookup
  induction t with
  | nil => exact absurd hr not_mem_nil
  | cons x xs ih =>
    rw [map_cons, nodup_cons] at hnodup
    rcases mem_cons.mp hr with rfl | hr
    · simp
    -- the first row has another key, so the search goes past it
    have hne : key x ≠ key r := fun he => hnodup.1 (he ▸ mem_map_of_mem hr)
    rw [find?_cons_of_neg (by simpa using hne)]
    exact ih hnodup.2 hr

/-! ## Tables that keep one row per key -/

/-- A table with a primary key: no two rows have the same one. -/
structure Keyed (key : ρ → κ) where
  rows : List ρ
  nodup : (rows.map key).Nodup

namespace Keyed

variable {key : ρ → κ}

def empty : Keyed key := ⟨[], List.nodup_nil⟩

def find (t : Keyed key) (k : κ) : Option ρ := lookup key k t.rows

def write (t : Keyed key) (r : ρ) : Keyed key where
  rows := upsert key r t.rows
  nodup := by
    have hkept : ((t.rows.filter fun x => key x ≠ key r).map key).Nodup :=
      t.nodup.sublist (List.filter_sublist.map key)
    rw [upsert, List.map_cons, List.nodup_cons]
    refine ⟨?_, hkept⟩
    intro hmem
    obtain ⟨x, hx, heq⟩ := List.mem_map.mp hmem
    have hne : key x ≠ key r := by simpa using (List.mem_filter.mp hx).2
    exact hne heq

@[simp]
theorem find_empty (k : κ) : (empty : Keyed key).find k = none := rfl

theorem find_write (t : Keyed key) (r : ρ) (k : κ) :
    (t.write r).find k = if k = key r then some r else t.find k :=
  lookup_upsert key r t.rows k

@[simp]
theorem find_write_self (t : Keyed key) (r : ρ) : (t.write r).find (key r) = some r := by
  rw [find_write, if_pos rfl]

theorem find_write_of_ne (t : Keyed key) (h : k ≠ key r) : (t.write r).find k = t.find k := by
  rw [find_write, if_neg h]

theorem key_of_find {t : Keyed key} (h : t.find k = some r) : key r = k :=
  lookup_key h

/-- **Listing and lookup agree**: the rows are the rows that are found under their own key. -/
theorem mem_rows_iff {t : Keyed key} : r ∈ t.rows ↔ t.find (key r) = some r := by
  constructor
  · intro hr
    exact lookup_of_mem t.nodup hr
  intro h
  exact mem_of_find?_eq_some h

/-! ### Rows written over a table -/

/-- Pending rows over a table: every row of `s` written over `t`. -/
def merge (t s : Keyed key) : Keyed key := s.rows.foldr (fun r acc => acc.write r) t

theorem find_merge (t s : Keyed key) (k : κ) : (t.merge s).find k = (s.find k).or (t.find k) := by
  have hrows : ∀ rows : List ρ, (rows.foldr (fun r acc => acc.write r) t).find k =
      (lookup key k rows).or (t.find k) := by
    intro rows
    induction rows with
    | nil => rfl
    | cons r rows ih =>
      rw [foldr_cons, find_write, ih]
      by_cases hk : k = key r
      · simp [lookup, hk]
      · simp [lookup, hk, Ne.symm hk]
  exact hrows s.rows

def ofSublist (t : Keyed key) {rows : List ρ} (h : rows.Sublist t.rows) : Keyed key where
  rows := rows
  nodup := t.nodup.sublist (h.map key)

theorem find_ofSublist {t : Keyed key} {rows : List ρ} (h : rows.Sublist t.rows) (k : κ) :
    (t.ofSublist h).find k = none ∨ (t.ofSublist h).find k = t.find k := by
  cases hfound : (t.ofSublist h).find k with
  | none => exact .inl rfl
  | some r =>
    right
    have hkey := key_of_find hfound
    have hmem : r ∈ t.rows := h.subset (mem_of_find?_eq_some hfound)
    rw [← hkey]
    exact (mem_rows_iff.mp hmem).symm

def modify (t : Keyed key) (f : ρ → ρ) (hf : ∀ r, key (f r) = key r) : Keyed key where
  rows := t.rows.map f
  nodup := by
    rw [List.map_map, show key ∘ f = key from funext hf]
    exact t.nodup

theorem find_modify (t : Keyed key) (f : ρ → ρ) (hf : ∀ r, key (f r) = key r) (k : κ) :
    (t.modify f hf).find k = (t.find k).map f := by
  have hsame : ((fun r => decide (key r = k)) ∘ f) = fun r => decide (key r = k) := by
    funext r
    simp [hf r]
  simp only [find, lookup, modify, find?_map, hsame]

omit [DecidableEq κ] in
theorem modify_eq_self {t : Keyed key} {f : ρ → ρ} {hf : ∀ r, key (f r) = key r}
    (h : ∀ r ∈ t.rows, f r = r) : t.modify f hf = t := by
  obtain ⟨rows, nodup⟩ := t
  simp only [modify, mk.injEq]
  exact (map_congr_left h).trans (map_id _)

def restrict (t : Keyed key) (p : ρ → Bool) : Keyed key where
  rows := t.rows.filter p
  nodup := t.nodup.sublist (List.filter_sublist.map key)

theorem find_restrict (t : Keyed key) (p : ρ → Bool) (k : κ) :
    (t.restrict p).find k = (t.find k).filter p := by
  have hrows : ∀ rows : List ρ, (rows.map key).Nodup →
      lookup key k (rows.filter p) = (lookup key k rows).filter p := by
    intro rows hnodup
    induction rows with
    | nil => rfl
    | cons r rows ih =>
      rw [map_cons, nodup_cons] at hnodup
      have ih := ih hnodup.2
      by_cases hk : key r = k
      · -- no later row has this key, so a dropped row leaves nothing to find
        have hlater : lookup key k rows = none := by
          refine find?_eq_none.mpr fun x hx => ?_
          have hne : key x ≠ key r := fun he => hnodup.1 (he ▸ mem_map_of_mem hx)
          simpa [← hk] using hne
        have hfound : lookup key k (r :: rows) = some r := by simp [lookup, hk]
        by_cases hp : p r
        · simp [hp, lookup, hk, Option.filter]
        rw [filter_cons_of_neg hp, ih, hlater, hfound]
        simp [Option.filter, hp]
      have hskip : lookup key k (r :: rows) = lookup key k rows := by simp [lookup, hk]
      rw [hskip, ← ih]
      by_cases hp : p r <;> simp [hp, lookup, hk]
  exact hrows t.rows t.nodup

end Keyed

end SecureCloud.Lib.Table
