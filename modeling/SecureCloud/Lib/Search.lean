import Mathlib

/-
# Lib.Search — the first occurrence of a word

`dropInfix?` splits a text at the first occurrence of a word. A loop that searches on behind what it
found is followed occurrence by occurrence with the two lemmas.
-/

namespace SecureCloud.Lib.Search

open List

variable {α : Type*}

theorem append_cons_eq_append {a : α} {x y u v : List α} (h : x ++ a :: y = u ++ v) :
    (∃ t, u = x ++ a :: t ∧ y = t ++ v) ∨ ∃ t, v = t ++ a :: y ∧ x = u ++ t := by
  rcases append_eq_append_iff.mp h with ⟨t, rfl, ht⟩ | ⟨t, rfl, rfl⟩
  · cases t with
    | nil => exact .inr ⟨[], by simpa using ht.symm, by simp⟩
    | cons b t =>
      obtain ⟨rfl, rfl⟩ := cons.inj ht
      exact .inl ⟨t, rfl, rfl⟩
  · exact .inr ⟨t, rfl, rfl⟩

variable [BEq α] [LawfulBEq α] {text word before after : List α}

/-- What a search finds is an occurrence, and none begins before it. -/
theorem dropInfix?_found (h : text.dropInfix? word = some (before, after)) :
    text = before ++ word ++ after ∧ ∀ u v, text = u ++ word ++ v → before <+: u := by
  obtain ⟨⟨w, htext, hw⟩, hfirst⟩ := dropInfix?_eq_some_iff.mp h
  rw [eq_of_beq hw] at htext
  refine ⟨htext, fun u v huv => ?_⟩
  rw [append_assoc] at htext huv
  exact prefix_of_prefix_length_le ⟨_, htext.symm⟩ ⟨_, huv.symm⟩
    (hfirst u word v (by rw [huv, append_assoc]) (beq_self_eq_true word))

theorem dropInfix?_missed (h : text.dropInfix? word = none) (u v : List α) :
    text ≠ u ++ word ++ v := by
  induction hn : u.length using Nat.strongRecOn generalizing u v with
  | ind n ih =>
    intro huv
    -- none begins earlier: this is what the search would have returned
    have hsome : text.dropInfix? word = some (u, v) := by
      refine dropInfix?_eq_some_iff.mpr ⟨⟨word, huv, beq_self_eq_true word⟩, fun u' w v' h' hw => ?_⟩
      exact Nat.le_of_not_lt fun hlt => ih _ (hn ▸ hlt) u' v' rfl (eq_of_beq hw ▸ h')
    exact nomatch h.symm.trans hsome

end SecureCloud.Lib.Search
