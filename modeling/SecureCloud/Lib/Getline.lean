import Mathlib

/-
# Lib.Getline — a text read piece by piece, up to a separator

`getlines d` is the loop `while (std::getline(stream, piece, d))`: every separator ends a piece, and
what follows the last one is a piece ONLY IF IT IS NOT EMPTY. So pieces that are terminated by the
separator come back, and so do pieces that are separated by it as long as the last is not empty.
-/

namespace SecureCloud.Lib.Getline

open List

variable {α : Type*} [DecidableEq α]

def getlines (d : α) : List α → List (List α)
  | [] => []
  | c :: rest =>
    if c = d then [] :: getlines d rest
    else match getlines d rest with
      | [] => [[c]]
      | piece :: pieces => (c :: piece) :: pieces

def separated (d : α) : List (List α) → List α
  | [] => []
  | [piece] => piece
  | piece :: next :: pieces => piece ++ d :: separated d (next :: pieces)

variable {d : α}

@[simp] theorem getlines_nil : getlines d [] = [] := rfl

variable {piece : List α} {pieces : List (List α)}

theorem getlines_append_cons (h : d ∉ piece) (rest : List α) :
    getlines d (piece ++ d :: rest) = piece :: getlines d rest := by
  induction piece with
  | nil => simp [getlines]
  | cons c piece ih =>
    rw [mem_cons, not_or] at h
    rw [cons_append, getlines, if_neg (Ne.symm h.1), ih h.2]

theorem getlines_eq_singleton (h : d ∉ piece) (hne : piece ≠ []) : getlines d piece = [piece] := by
  induction piece with
  | nil => exact absurd rfl hne
  | cons c piece ih =>
    rw [mem_cons, not_or] at h
    rw [getlines, if_neg (Ne.symm h.1)]
    by_cases hlast : piece = []
    · rw [hlast, getlines_nil]
    · rw [ih h.2 hlast]

/-- **Terminated pieces come back.** -/
theorem getlines_flatMap (h : ∀ piece ∈ pieces, d ∉ piece) :
    getlines d (pieces.flatMap fun piece => piece ++ [d]) = pieces := by
  induction pieces with
  | nil => rfl
  | cons piece pieces ih =>
    rw [flatMap_cons, append_assoc, singleton_append,
      getlines_append_cons (h piece mem_cons_self),
      ih fun p hp => h p (mem_cons_of_mem _ hp)]

theorem getlines_separated (h : ∀ piece ∈ pieces, d ∉ piece)
    (hlast : ∀ piece ∈ pieces.getLast?, piece ≠ []) : getlines d (separated d pieces) = pieces := by
  induction pieces with
  | nil => rfl
  | cons piece pieces ih =>
    have hpiece := h piece mem_cons_self
    cases pieces with
    | nil => exact getlines_eq_singleton hpiece (hlast piece (by simp))
    | cons next pieces =>
      rw [separated, getlines_append_cons hpiece]
      refine congrArg _ (ih (fun p hp => h p (mem_cons_of_mem _ hp)) fun p hp => ?_)
      exact hlast p (by simpa using hp)

theorem not_mem_of_mem_getlines {text : List α} (h : piece ∈ getlines d text) : d ∉ piece := by
  induction text generalizing piece with
  | nil => cases h
  | cons c rest ih =>
    rw [getlines] at h
    split at h
    · rcases mem_cons.mp h with rfl | h
      · exact not_mem_nil
      · exact ih h
    rename_i hne
    cases hrest : getlines d rest with
    | nil =>
      rw [hrest] at h
      rw [mem_singleton.mp h, mem_singleton]
      exact Ne.symm hne
    | cons first pieces =>
      rw [hrest] at h ih
      rcases mem_cons.mp h with rfl | h
      · rw [mem_cons, not_or]
        exact ⟨Ne.symm hne, ih mem_cons_self⟩
      · exact ih (mem_cons_of_mem _ h)

omit [DecidableEq α] in
theorem mem_separated {c : α} (h : c ∈ separated d pieces) :
    c = d ∨ ∃ piece ∈ pieces, c ∈ piece := by
  induction pieces with
  | nil => cases h
  | cons piece pieces ih =>
    cases pieces with
    | nil => exact .inr ⟨piece, mem_cons_self, h⟩
    | cons next pieces =>
      rw [separated, mem_append, mem_cons] at h
      rcases h with h | h | h
      · exact .inr ⟨piece, mem_cons_self, h⟩
      · exact .inl h
      rcases ih h with h | ⟨p, hp, hc⟩
      · exact .inl h
      · exact .inr ⟨p, mem_cons_of_mem _ hp, hc⟩

end SecureCloud.Lib.Getline
