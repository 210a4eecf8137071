import SecureCloud.Lib.Checks
import SecureCloud.Lib.Search

/-
# Audit.SqlGuard — what the append-only guard lets through

`AppendOnlySqlGuard` searches the statement in capitals for each forbidden keyword and goes on BEHIND
an occurrence that is not a word of its own. What it jumps over that way is no word either: the
character before it is a letter of the keyword. The characters of a statement are its bytes.
-/

namespace SecureCloud.Audit

open Lib.Checks Lib.Search List

def isSpace (c : Char) : Bool := [' ', '\t', '\n', '\x0b', '\x0c', '\r'].contains c

def isWordBoundary (c : Char) : Bool := !c.isAlphanum && c != '_'

def startsWithCaseInsensitive (text : List Char) (start : String) : Bool :=
  (text.take start.length).map Char.toUpper == start.toList.map Char.toUpper

def forbiddenKeywords : List String :=
  ["INSERT", "UPDATE", "DELETE", "ALTER", "TRUNCATE", "DROP", "CREATE", "RENAME", "OPTIMIZE", "GRANT",
    "REVOKE", "ATTACH", "DETACH"]

/-- The search for one keyword in capitals: `rest` is the text from `pos` on, `left` the character
before it. -/
def hasKeyword (kw : List Char) : Nat → Option Char → List Char → Bool
  | 0, _, _ => false
  | fuel + 1, left, rest =>
    match rest.dropInfix? kw with
    | none => false
    | some (skipped, rest) =>
      (skipped.getLast?.or left).all isWordBoundary && rest.head?.all isWordBoundary ||
        hasKeyword kw fuel kw.getLast? rest

def checkForbiddenKeywords (sql : List Char) (allowInsert : Bool) : Except String Unit :=
  let upperSql := sql.map Char.toUpper
  forbiddenKeywords.forM fun kw =>
    require (allowInsert ∧ kw = "INSERT" ∨ ¬ hasKeyword kw.toList (upperSql.length + 1) none upperSql)
      ("AppendOnlySqlGuard: Forbidden SQL keyword detected: " ++ kw)

/-- The statement without its end: a semicolon, and whitespace around it. -/
def withoutEnd (sql : List Char) : List Char :=
  let trimmed := sql.rdropWhile isSpace
  (if trimmed.getLast? = some ';' then trimmed.dropLast else trimmed).rdropWhile isSpace

def checkNoSemicolonChaining (sql : List Char) : Except String Unit :=
  require (';' ∉ withoutEnd sql)
    "AppendOnlySqlGuard: Semicolon-chained multiple statements are forbidden"

def validateQuerySql (sql : List Char) : Except String Unit := do
  let trimmed := sql.dropWhile isSpace
  require (trimmed ≠ []) "AppendOnlySqlGuard: Empty SQL statement"
  require (startsWithCaseInsensitive trimmed "SELECT")
    "AppendOnlySqlGuard: Read query must begin with SELECT statement"
  require ((trimmed.drop 6).head?.all isWordBoundary)
    "AppendOnlySqlGuard: Invalid statement opening keyword"
  checkNoSemicolonChaining sql
  checkForbiddenKeywords sql false

def validateInsertSql (sql : List Char) : Except String Unit := do
  let trimmed := sql.dropWhile isSpace
  require (trimmed ≠ []) "AppendOnlySqlGuard: Empty SQL statement"
  require (startsWithCaseInsensitive trimmed "INSERT INTO")
    "AppendOnlySqlGuard: Insert query must begin with INSERT INTO"
  require (trimmed.dropInfix? "audit_events".toList).isSome
    "AppendOnlySqlGuard: Insert query must target audit_events table"
  checkNoSemicolonChaining sql
  checkForbiddenKeywords sql true

/-! ## Keywords -/

def Bounded (before after : List Char) (left : Option Char) : Prop :=
  (before.getLast?.or left).all isWordBoundary ∧ after.head?.all isWordBoundary

/-- The keyword is a word of the statement, in some letter case. -/
def Standalone (kw : String) (sql : List Char) : Prop :=
  ∃ before word after, sql = before ++ word ++ after ∧ word.map Char.toUpper = kw.toList ∧
    Bounded before after none

/-- No word is jumped over. -/
theorem hasKeyword_of_bounded {kw : List Char} (hne : kw ≠ [])
    (hkw : kw.any isWordBoundary = false) {fuel : Nat} {left : Option Char}
    {rest : List Char} (before after : List Char) (hfuel : rest.length < fuel)
    (hrest : rest = before ++ kw ++ after) (hword : Bounded before after left) : hasKeyword kw fuel left rest = true := by
  induction fuel generalizing left rest before with
  | zero => omega
  | succ fuel ih =>
    unfold hasKeyword
    cases hfind : rest.dropInfix? kw with
    | none => exact absurd hrest (dropInfix?_missed hfind before after)
    | some found =>
      obtain ⟨skipped, rest'⟩ := found
      obtain ⟨hfound, hfirst⟩ := dropInfix?_found hfind
      obtain ⟨t, rfl⟩ := hfirst before after hrest
      have htail : kw ++ rest' = t ++ (kw ++ after) := by simpa using hfound.symm.trans hrest
      simp only [Bool.or_eq_true, Bool.and_eq_true]
      rcases append_eq_append_iff.mp htail with ⟨u, rfl, hafter⟩ | ⟨u, hu, hafter⟩
      · -- behind the occurrence that was found
        refine .inr (ih u ?_ (by rw [hafter, append_assoc]) ?_)
        · rw [hfound] at hfuel
          have := length_pos_iff.mpr hne
          simp only [length_append] at hfuel
          omega
        · simpa [Bounded, getLast?_append, Option.or_assoc, getLast?_eq_some_getLast hne] using hword
      cases t using reverseRecOn with
      | nil =>
        obtain rfl : rest' = after := by simpa using htail
        exact .inl (by simpa [Bounded] using hword)
      | append_singleton t c =>
        -- inside it: the character before is a letter of the keyword
        have hc := any_eq_false.mp hkw c (by simp [hu])
        simp [Bounded, getLast?_append, hc] at hword

theorem isWordBoundary_toUpper (c : Char) : isWordBoundary c.toUpper = isWordBoundary c := by
  by_cases h : c.isLower = true
  · have hupper : c.toUpper.isUpper = true := by
      simp only [Char.isLower, Char.toUpper, Char.isUpper] at h ⊢
      grind
    simp [isWordBoundary, Char.isAlphanum, Char.isAlpha, h, hupper]
  · rw [Char.toUpper, dif_neg (by simpa [Char.isLower] using h)]

theorem not_standalone_of_check {sql : List Char} {allowInsert : Bool} {kw : String}
    (h : checkForbiddenKeywords sql allowInsert = .ok ()) (hkw : kw ∈ forbiddenKeywords)
    (hinsert : ¬ (allowInsert = true ∧ kw = "INSERT")) : ¬ Standalone kw sql := by
  rintro ⟨before, word, after, rfl, hword, hbounded⟩
  have hletters : ∀ kw ∈ forbiddenKeywords, kw.toList ≠ [] ∧
      kw.toList.any isWordBoundary = false := by decide
  refine (require_eq_ok.mp (forM_eq_ok.mp h kw hkw)).resolve_left hinsert ?_
  refine hasKeyword_of_bounded (hletters kw hkw).1 (hletters kw hkw).2 (before.map Char.toUpper)
    (after.map Char.toUpper) (Nat.lt_succ_self _) (by simp [hword]) ?_
  simpa [Bounded, Option.all_map, Function.comp_def, isWordBoundary_toUpper] using hbounded

/-! ## Semicolons -/

/-- A semicolon stands only at the end: nothing but whitespace follows it. -/
def Ended (sql : List Char) : Prop :=
  ∀ before after, sql = before ++ ';' :: after → ∀ c ∈ after, isSpace c = true

theorem semicolon_mem_trimmed {l : List Char} (h : ';' ∈ l) : ';' ∈ l.rdropWhile isSpace := by
  rw [← rdropWhile_append_rtakeWhile (p := isSpace) (l := l), mem_append] at h
  exact h.resolve_right fun hmem => absurd (mem_rtakeWhile_imp hmem) (by decide)

theorem ended_of_check {sql : List Char} (h : checkNoSemicolonChaining sql = .ok ()) : Ended sql := by
  intro before after heq
  have hclean := mt semicolon_mem_trimmed (require_eq_ok.mp h)
  have hsql := rdropWhile_append_rtakeWhile (p := isSpace) (l := sql)
  split at hclean
  next hlast =>
    rw [← dropLast_append_getLast? _ hlast, append_assoc] at hsql
    have hspace : ';' ∉ sql.rtakeWhile isSpace := fun hmem =>
      absurd (mem_rtakeWhile_imp hmem) (by decide)
    obtain ⟨-, -, rfl⟩ := (append_cons_inj_of_notMem hclean hspace).mp (hsql.trans heq)
    exact fun c => mem_rtakeWhile_imp
  · exact absurd (semicolon_mem_trimmed (by simp [heq])) hclean

/-- **What the guard accepts**: no forbidden keyword is a word of it, but for the `INSERT` of an insert
statement, and no second statement follows a semicolon. -/
theorem accepted_append_only (sql : List Char) :
    (validateQuerySql sql = .ok () → Ended sql ∧ ∀ kw ∈ forbiddenKeywords, ¬ Standalone kw sql) ∧
      (validateInsertSql sql = .ok () → Ended sql ∧
        ∀ kw ∈ forbiddenKeywords, kw ≠ "INSERT" → ¬ Standalone kw sql) := by
  simp only [validateQuerySql, validateInsertSql, check_bind_eq_ok]
  constructor
  · rintro ⟨-, -, -, hend, hwords⟩
    exact ⟨ended_of_check hend, fun kw hkw => not_standalone_of_check hwords hkw (by simp)⟩
  · rintro ⟨-, -, -, hend, hwords⟩
    exact ⟨ended_of_check hend, fun kw hkw hne => not_standalone_of_check hwords hkw (by simp [hne])⟩

/-- Taken literally: the guard accepts a statement that contains the forbidden keyword `INSERT`. -/
theorem insert_accepted : validateInsertSql "INSERT INTO audit_events VALUES (1);".toList = .ok () ∧
    "INSERT" ∈ forbiddenKeywords ∧ Standalone "INSERT" "INSERT INTO audit_events VALUES (1);".toList :=
  ⟨by decide, by decide, [], "INSERT".toList, " INTO audit_events VALUES (1);".toList, by decide, by decide,
    by decide, by decide⟩

theorem select_accepted : validateQuerySql "SELECT 1 FROM created ;".toList = .ok () ∧
    ¬ Standalone "CREATE" "SELECT 1 FROM created ;".toList :=
  have h : validateQuerySql "SELECT 1 FROM created ;".toList = .ok () := by decide
  ⟨h, ((accepted_append_only _).1 h).2 "CREATE" (by decide)⟩

end SecureCloud.Audit
