import SecureCloud.Lib.Search

/-
# Messaging.PlaintextGuard — what is left of an error message

`ZeroPlaintextGuard::sanitize_error_message` redacts the value after each sensitive keyword, one
keyword after the other. A keyword ends in its only `=`, and a value ends before a delimiter: a later
pass leaves an earlier redaction alone or takes it away together with its keyword. The characters of a
message are its bytes.
-/

namespace SecureCloud.Messaging

open Lib.Search List

def redactedPlaceholder : List Char := "[REDACTED]".toList

def maxSanitizedErrorLength : Nat := 512

def sensitiveKeywords : List String :=
  ["ciphertext=", "key=", "auth_tag=", "iv=", "secret=", "payload="]

def isDelimiter (c : Char) : Bool := [' ', '\t', '\n', '\r', ',', ';', ')', '\x7d'].contains c

def isPrintable (c : Char) : Bool := 0x20 ≤ c.toNat ∧ c.toNat ≤ 0x7E

def scrub (c : Char) : Char :=
  if isPrintable c then c else if c = '\t' ∨ c = '\n' ∨ c = '\r' then ' ' else '?'

/-- The loop for one keyword: `rest` is the text from `pos` on. -/
def redact (keyword : List Char) : Nat → List Char → List Char
  | 0, rest => rest
  | fuel + 1, rest =>
    match rest.dropInfix? keyword with
    | none => rest
    | some (skipped, value) => skipped ++ keyword ++ (redactedPlaceholder ++
        redact keyword fuel (value.dropWhile fun c => !isDelimiter c))

def sanitizeErrorMessage (rawError : List Char) : List Char :=
  if rawError = [] then []
  else
    let inspected := (rawError.take maxSanitizedErrorLength).map scrub
    let sanitized := if maxSanitizedErrorLength < rawError.length then
      inspected ++ "... [TRUNCATED]".toList else inspected
    sensitiveKeywords.foldl (fun text keyword => redact keyword.toList (text.length + 1) text) sanitized

/-! ## Redactions -/

def Delimited (text : List Char) : Prop := text.head?.all isDelimiter = true

/-- The keyword is redacted wherever it occurs. -/
def Redacted (keyword text : List Char) : Prop :=
  ∀ before after, text = before ++ keyword ++ after →
    ∃ tail, after = redactedPlaceholder ++ tail ∧ Delimited tail

/-- What the redaction rests on: the keyword ends in its only `=`, and it has no delimiter and nothing
of the placeholder in it. -/
def IsKeyword (keyword : List Char) : Prop :=
  (keyword.getLast? = some '=' ∧ '=' ∉ keyword.dropLast) ∧
    ∀ c ∈ keyword, isDelimiter c = false ∧ c ∉ redactedPlaceholder

theorem isKeyword_sensitive : ∀ keyword ∈ sensitiveKeywords, IsKeyword keyword.toList := by
  simp only [IsKeyword, ← forall_iff_forall_mem]
  decide

variable {keyword keyword' before after rest : List Char} {fuel : Nat}

/-- An occurrence in a redacted text lies before the redacted keyword, is that keyword, or lies
behind the placeholder. -/
theorem occurrence_cases (h : IsKeyword keyword) (h' : IsKeyword keyword') {u r : List Char}
    (hr : Delimited r)
    (heq : before ++ keyword ++ after = u ++ keyword' ++ (redactedPlaceholder ++ r)) :
    (∃ t, u = before ++ keyword ++ t) ∨ after = redactedPlaceholder ++ r ∨
      ∃ t, r = t ++ keyword ++ after := by
  obtain ⟨⟨hends, -⟩, hchars⟩ := h
  obtain ⟨⟨hends', honce'⟩, -⟩ := h'
  -- follow the `=` of the keyword from part to part
  rw [← dropLast_append_getLast? _ hends] at heq hchars ⊢
  rw [← dropLast_append_getLast? _ hends'] at heq
  generalize keyword.dropLast = k at *
  generalize keyword'.dropLast = k' at *
  simp only [append_assoc, singleton_append] at heq ⊢
  rw [← append_assoc] at heq
  rcases append_cons_eq_append heq with ⟨t, rfl, -⟩ | ⟨t, ht, hbefore⟩
  · exact .inl ⟨t, by simp⟩
  rcases append_cons_eq_append ht.symm with ⟨s, rfl, -⟩ | ⟨s, hs, rfl⟩
  · simp at honce'
  cases s with
  | nil => exact .inr (.inl (by simpa using hs.symm))
  | cons a s =>
    obtain ⟨rfl, htail⟩ := cons.inj (hs.trans (cons_append ..))
    rcases append_cons_eq_append htail.symm with ⟨p, hp, -⟩ | ⟨p, rfl, rfl⟩
    · exact absurd (hp ▸ by simp : '=' ∈ redactedPlaceholder) (by decide)
    -- behind the placeholder comes a delimiter, which the keyword does not contain
    have hcut : before ++ k = (u ++ k' ++ '=' :: redactedPlaceholder) ++ p := by simp [hbefore]
    rcases append_eq_append_iff.mp hcut with ⟨q, -, rfl⟩ | ⟨q, -, rfl⟩
    · cases p with
      | nil => exact absurd hr (by simp [Delimited, isDelimiter])
      | cons d p => exact absurd hr (by simp [Delimited, hchars d (by simp)])
    · exact .inr (.inr ⟨q, by simp⟩)

theorem head?_redact (hne : keyword ≠ []) : (redact keyword fuel rest).head? = rest.head? := by
  cases fuel with
  | zero => rfl
  | succ fuel =>
    unfold redact
    split
    · rfl
    next hfound =>
      rw [(dropInfix?_found hfound).1]
      simp [head?_append, head?_eq_some_head hne]

theorem redacted_redact (h : IsKeyword keyword) (h' : IsKeyword keyword') (hfuel : rest.length < fuel)
    (hor : keyword = keyword' ∨ Redacted keyword rest) :
    Redacted keyword (redact keyword' fuel rest) := by
  have hne : keyword' ≠ [] := by rintro rfl; exact nomatch h'.1.1
  induction fuel generalizing rest with
  | zero => omega
  | succ fuel ih =>
    intro before after heq
    unfold redact at heq
    split at heq
    next hmissed =>
      rcases hor with rfl | hred
      · exact absurd heq (dropInfix?_missed hmissed before after)
      · exact hred before after heq
    next skipped value hfound =>
      obtain ⟨hrest, hfirst⟩ := dropInfix?_found hfound
      obtain ⟨gone, hvalue⟩ : ∃ gone, value = gone ++ value.dropWhile fun c => !isDelimiter c :=
        ⟨_, takeWhile_append_dropWhile.symm⟩
      have hdelim := head?_dropWhile_not (fun c => !isDelimiter c) value
      generalize value.dropWhile (fun c => !isDelimiter c) = next at *
      have hr : Delimited (redact keyword' fuel next) := by
        rw [Delimited, head?_redact hne]
        cases hd : next.head? <;> simp_all
      rcases occurrence_cases h h' hr heq.symm with ⟨t, rfl⟩ | rfl | ⟨t, ht⟩
      · obtain rfl : after = t ++ keyword' ++ (redactedPlaceholder ++ redact keyword' fuel next) := by
          simpa using heq.symm
        rcases hor with rfl | hred
        · -- but the search finds the first occurrence
          have hle := (hfirst before (t ++ keyword ++ value) (by simp [hrest])).length_le
          have hpos := length_pos_iff.mpr hne
          simp only [length_append] at hle
          omega
        obtain ⟨c, ks, rfl⟩ := exists_cons_of_ne_nil hne
        obtain ⟨tail, htail, hdel⟩ := hred before (t ++ (c :: ks) ++ value) (by simp [hrest])
        rw [append_assoc] at htail
        rcases append_cons_eq_append htail with ⟨s, hs, -⟩ | ⟨s, rfl, rfl⟩
        · exact absurd (by simp [hs]) (h'.2 c mem_cons_self).2
        · refine ⟨s ++ (c :: ks) ++ (redactedPlaceholder ++ redact (c :: ks) fuel next), by simp, ?_⟩
          cases s <;> simpa [Delimited] using hdel
      · exact ⟨_, rfl, hr⟩
      · refine ih ?_ (hor.imp_right fun hred u v huv => ?_) t after ht
        · have hpos := length_pos_iff.mpr hne
          simp only [hrest, hvalue, length_append] at hfuel
          omega
        · exact hred (skipped ++ keyword' ++ gone ++ u) v (by simp [hrest, hvalue, huv])

theorem redacted_foldl {keywords : List String} {keyword : String} {text : List Char}
    (hall : ∀ k ∈ keywords, IsKeyword k.toList) (h : IsKeyword keyword.toList)
    (hor : keyword ∈ keywords ∨ Redacted keyword.toList text) : Redacted keyword.toList
      (keywords.foldl (fun text k => redact k.toList (text.length + 1) text) text) := by
  induction keywords generalizing text with
  | nil => exact hor.resolve_left (not_mem_nil)
  | cons k keywords ih =>
    obtain ⟨hk, hrest⟩ := forall_mem_cons.mp hall
    refine ih hrest ?_
    rcases hor with hmem | hred
    · rcases mem_cons.mp hmem with rfl | hmem
      · exact .inr (redacted_redact h h (Nat.lt_succ_self _) (.inl rfl))
      · exact .inl hmem
    · exact .inr (redacted_redact h hk (Nat.lt_succ_self _) (.inr hred))

theorem printable_redact (h : ∀ c ∈ rest, isPrintable c = true) :
    ∀ c ∈ redact keyword fuel rest, isPrintable c = true := by
  induction fuel generalizing rest with
  | zero => exact h
  | succ fuel ih =>
    unfold redact
    split
    · exact h
    next skipped value hfound =>
      rw [(dropInfix?_found hfound).1] at h
      simp only [forall_mem_append] at h ⊢
      exact ⟨h.1, all_eq_true.mp rfl, ih fun c hc => h.2 c ((dropWhile_sublist _).mem hc)⟩

theorem isPrintable_scrub (c : Char) : isPrintable (scrub c) = true := by
  unfold scrub
  split_ifs with hc
  · exact hc
  · rfl
  · rfl

/-- **Every sensitive keyword in the output is redacted**, and every character is printable. -/
theorem sanitized_is_redacted (rawError : List Char) :
    (∀ keyword ∈ sensitiveKeywords, Redacted keyword.toList (sanitizeErrorMessage rawError)) ∧
      ∀ c ∈ sanitizeErrorMessage rawError, isPrintable c = true := by
  unfold sanitizeErrorMessage
  split
  · refine ⟨fun keyword hk before after heq => ?_, nofun⟩
    have hends := (isKeyword_sensitive keyword hk).1.1
    simp_all
  refine ⟨fun keyword hk => redacted_foldl isKeyword_sensitive (isKeyword_sensitive keyword hk) (.inl hk),
    ?_⟩
  refine foldlRecOn (motive := fun text => ∀ c ∈ text, isPrintable c = true) _ _ ?_
    fun text htext _ _ => printable_redact htext
  have hscrubbed : ∀ c ∈ (rawError.take maxSanitizedErrorLength).map scrub, isPrintable c = true :=
    forall_mem_map.mpr fun c _ => isPrintable_scrub c
  split
  · exact forall_mem_append.mpr ⟨hscrubbed, all_eq_true.mp rfl⟩
  · exact hscrubbed

end SecureCloud.Messaging
