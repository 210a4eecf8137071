import SecureCloud.Audit.Domain
import SecureCloud.Lib.Calendar
import SecureCloud.Lib.Positional

/-
# Audit.Timestamps — times as text

`format_timestamp_ms` and `parse_timestamp_ms`, with what they call of the standard library. Seconds
and milliseconds are both cut towards zero, so before 1970 the milliseconds are NEGATIVE, and `setw(3)`
puts zeros in front of the sign. Of `-7` the reader then sees the zero alone:
`parseTimestampMs_formatTimestampMs` says which times come back.
-/

namespace SecureCloud.Audit

open Lib TimePoint List

/-! ## Decimal numbers -/

def digitChar (n : Nat) : Char := Char.ofNat (48 + n)

def decimal (width n : Nat) : List Char := (Positional.digits 10 width n).map digitChar

variable (text : List Char)

def decimalValue : Nat := Positional.value 10 (text.map fun c => c.toNat - 48)

/-! ## Dates -/

/-- The conversions of `%Y-%m-%d %H:%M:%S`. -/
inductive TimeField where
  | year | month | day | hour | minute | second

/-- `std::tm`, the year counted from zero, the month from one. A fresh one is all zeros: day 0 of January
1900. -/
structure Tm where
  year : Nat := 1900
  month : Nat := 1
  day : Nat := 0
  hour : Nat := 0
  minute : Nat := 0
  second : Nat := 0

namespace TimeField

def width : TimeField → Nat
  | .year => 4
  | _ => 2

def range : TimeField → Nat × Nat
  | .year => (0, 9999)
  | .month => (1, 12)
  | .day => (1, 31)
  | .hour => (0, 23)
  | .minute => (0, 59)
  | .second => (0, 60)

def get : TimeField → Tm → Nat
  | .year => Tm.year
  | .month => Tm.month
  | .day => Tm.day
  | .hour => Tm.hour
  | .minute => Tm.minute
  | .second => Tm.second

def set : TimeField → Nat → Tm → Tm
  | .year, n, tm => { tm with year := n }
  | .month, n, tm => { tm with month := n }
  | .day, n, tm => { tm with day := n }
  | .hour, n, tm => { tm with hour := n }
  | .minute, n, tm => { tm with minute := n }
  | .second, n, tm => { tm with second := n }

end TimeField

inductive FormatItem where
  | field (f : TimeField)
  | literal (c : Char)
  | whitespace

/-- `%Y-%m-%d %H:%M:%S`. -/
def timestampFormat : List FormatItem :=
  [.field .year, .literal '-', .field .month, .literal '-', .field .day, .whitespace, .field .hour,
    .literal ':', .field .minute, .literal ':', .field .second]

def putTime (tm : Tm) : List FormatItem → List Char
  | [] => []
  | .field f :: items => decimal f.width (f.get tm) ++ putTime tm items
  | .literal c :: items => c :: putTime tm items
  | .whitespace :: items => ' ' :: putTime tm items

def extractNum (f : TimeField) (text : List Char) : Option (Nat × List Char) :=
  let row := text.take f.width
  if row.length = f.width ∧ row.all Char.isDigit ∧ f.range.1 ≤ decimalValue row ∧
      decimalValue row ≤ f.range.2 then
    some (decimalValue row, text.drop f.width)
  else none

/-- `std::get_time`: what was read before it fails stays. Without a rest the stream has failed. -/
def getTime : List FormatItem → Tm → List Char → Tm × Option (List Char)
  | [], tm, text => (tm, some text)
  | .field f :: items, tm, text =>
    match extractNum f text with
    | none => (tm, none)
    | some (n, rest) => getTime items (f.set n tm) rest
  | .literal c :: items, tm, text =>
    match text with
    | [] => (tm, none)
    | x :: rest => if x = c then getTime items tm rest else (tm, none)
  | .whitespace :: items, tm, text => getTime items tm (text.dropWhile Char.isWhitespace)

def gmtime (timer : Int) : Tm :=
  let civil := Calendar.civilFromDays (timer / 86400)
  let rest := (timer % 86400).toNat
  { year := civil.year.toNat
    month := civil.month.toNat
    day := civil.day.toNat
    hour := rest / 3600
    minute := rest % 3600 / 60
    second := rest % 60 }

def timegm (tm : Tm) : Int :=
  Calendar.daysFromCivil ⟨tm.year, tm.month, tm.day⟩ * 86400 + tm.hour * 3600 + tm.minute * 60 +
    tm.second

/-! ## Milliseconds -/

/-- `std::setfill('0') << std::setw(3) << ms`: the filling goes BEFORE the sign. -/
def formatMillis (ms : Int) : List Char :=
  if 0 ≤ ms then decimal 3 ms.toNat
  else if -10 < ms then ['0', '-', digitChar ms.natAbs]
  else if -100 < ms then '-' :: decimal 2 ms.natAbs
  else '-' :: decimal 3 ms.natAbs

/-- `stream >> ms`: an optional sign and a run of digits. -/
def readInt : Int :=
  match text.dropWhile Char.isWhitespace with
  | '-' :: rest => -(decimalValue (rest.takeWhile Char.isDigit) : Int)
  | '+' :: rest => decimalValue (rest.takeWhile Char.isDigit)
  | rest => decimalValue (rest.takeWhile Char.isDigit)

variable (t : TimePoint)

def TimePoint.subMillis : Int := (millis t).tmod 1000

/-- `system_clock::to_time_t`, cut towards zero. -/
def TimePoint.toTimeT : Int := t.toInt.tdiv 1000000000

def formatTimestampMs : List Char :=
  putTime (gmtime (toTimeT t)) timestampFormat ++ '.' :: formatMillis (subMillis t)

def parseTimestampMs : TimePoint :=
  if text = [] then 0
  else
    let (tm, rest) := getTime timestampFormat {} text
    let ms := match rest with
      | some ('.' :: rest) => readInt rest
      | _ => 0
    Int64.ofInt (timegm tm * 1000000000 + ms * 1000000)

/-! ## What is written is read -/

theorem digitChar_spec : ∀ n < 10, (digitChar n).isDigit = true ∧ (digitChar n).toNat - 48 = n := by
  decide

variable {width n : Nat} {c : Char} {tm : Tm}

open Positional

theorem isDigit_of_mem_decimal (h : c ∈ decimal width n) : c.isDigit = true := by
  obtain ⟨d, hd, rfl⟩ := mem_map.mp h
  exact (digitChar_spec d (lt_of_mem_digits (by decide) hd)).1

@[simp] theorem length_decimal (width n : Nat) : (decimal width n).length = width := by
  simp [decimal]

theorem decimalValue_decimal (h : n < 10 ^ width) : decimalValue (decimal width n) = n := by
  have hread : (decimal width n).map (fun c => c.toNat - 48) = digits 10 width n := by
    rw [decimal, map_map]
    refine (map_congr_left fun d hd => ?_).trans (map_id _)
    exact (digitChar_spec d (lt_of_mem_digits (by decide) hd)).2
  rw [decimalValue, hread, value_digits, Nat.mod_eq_of_lt h]

def TimeField.Fits (f : TimeField) (tm : Tm) : Prop :=
  f.get tm < 10 ^ f.width ∧ f.range.1 ≤ f.get tm ∧ f.get tm ≤ f.range.2

open Char

theorem extractNum_decimal {f : TimeField} (h : f.Fits tm) (rest : List Char) :
    extractNum f (decimal f.width (f.get tm) ++ rest) = some (f.get tm, rest) := by
  have hrow : (decimal f.width (f.get tm) ++ rest).take f.width = decimal f.width (f.get tm) :=
    take_left' (length_decimal _ _)
  have hdrop : (decimal f.width (f.get tm) ++ rest).drop f.width = rest :=
    drop_left' (length_decimal _ _)
  have hall : (decimal f.width (f.get tm)).all isDigit = true :=
    all_eq_true.mpr fun c hc => isDigit_of_mem_decimal hc
  simp only [extractNum, hrow, hdrop, length_decimal, hall, decimalValue_decimal h.1]
  rw [if_pos ⟨trivial, trivial, h.2.1, h.2.2⟩]

theorem getTime_field {f : TimeField} (h : f.Fits tm) (items : List FormatItem) (tm₀ : Tm)
    (rest : List Char) :
    getTime (.field f :: items) tm₀ (decimal f.width (f.get tm) ++ rest) =
      getTime items (f.set (f.get tm) tm₀) rest := by
  rw [getTime, extractNum_decimal h]

theorem getTime_literal (c : Char) (items : List FormatItem) (tm₀ : Tm) (rest : List Char) :
    getTime (.literal c :: items) tm₀ (c :: rest) = getTime items tm₀ rest := by
  rw [getTime, if_pos rfl]

theorem not_isWhitespace_of_isDigit (h : c.isDigit = true) : c.isWhitespace = false := by
  rw [Bool.eq_false_iff]
  intro hspace
  simp only [isWhitespace, Bool.or_eq_true, decide_eq_true_eq] at hspace
  rcases hspace with ((rfl | rfl) | rfl) | rfl <;> simp at h

theorem getTime_whitespace (items : List FormatItem) (tm₀ : Tm) (width n : Nat) (rest : List Char) :
    getTime (.whitespace :: items) tm₀ (' ' :: (decimal (width + 1) n ++ rest)) =
      getTime items tm₀ (decimal (width + 1) n ++ rest) := by
  obtain ⟨c, row, hrow⟩ : ∃ c row, decimal (width + 1) n = c :: row := by
    cases hd : decimal (width + 1) n with
    | nil => exact absurd (congrArg length hd) (by simp)
    | cons c row => exact ⟨c, row, rfl⟩
  have hspace : c.isWhitespace = false :=
    not_isWhitespace_of_isDigit (isDigit_of_mem_decimal (hrow ▸ mem_cons_self))
  rw [getTime, hrow, cons_append, dropWhile_cons_of_pos (by decide),
    dropWhile_cons_of_neg (by simp [hspace])]

theorem getTime_putTime (h : ∀ f : TimeField, f.Fits tm) (rest : List Char) :
    getTime timestampFormat {} (putTime tm timestampFormat ++ rest) = (tm, some rest) := by
  simp only [timestampFormat, putTime, append_assoc, cons_append, nil_append]
  rw [getTime_field (h .year), getTime_literal, getTime_field (h .month), getTime_literal,
    getTime_field (h .day)]
  rw [show TimeField.width .hour = 1 + 1 from rfl, getTime_whitespace]
  rw [show 1 + 1 = TimeField.width .hour from rfl, getTime_field (h .hour), getTime_literal,
    getTime_field (h .minute), getTime_literal, getTime_field (h .second), getTime]
  rfl

open Calendar

/-- `timegm` undoes `gmtime`, for four centuries on either side of 1970. -/
theorem timegm_gmtime {timer : Int} (h₀ : -150000 * 86400 ≤ timer) (h₁ : timer ≤ 150000 * 86400) :
    timegm (gmtime timer) = timer ∧ ∀ f : TimeField, f.Fits (gmtime timer) := by
  have hyear := civilFromDays_year (show -150000 ≤ timer / 86400 by omega) (by omega)
  obtain ⟨hmonth, hday⟩ := civilFromDays_bounds (timer / 86400)
  have hdays := daysFromCivil_civilFromDays (timer / 86400)
  constructor
  · simp only [timegm, gmtime]
    rw [Int.toNat_of_nonneg (by omega), Int.toNat_of_nonneg (by omega),
      Int.toNat_of_nonneg (by omega), hdays]
    omega
  intro f
  cases f <;> simp only [TimeField.Fits, TimeField.get, TimeField.width, TimeField.range, gmtime] <;>
    omega

/-! ## Milliseconds -/

theorem takeWhile_decimal (width n : Nat) :
    (decimal width n).takeWhile Char.isDigit = decimal width n := by
  rw [takeWhile_eq_self_iff]
  exact fun c hc => isDigit_of_mem_decimal hc

theorem readInt_decimal (h : n < 10 ^ width) : readInt (decimal width n) = n := by
  have hvalue := decimalValue_decimal h
  have hspace : (decimal width n).dropWhile isWhitespace = decimal width n := by
    rw [dropWhile_eq_self_iff]
    intro hne
    simp [not_isWhitespace_of_isDigit (isDigit_of_mem_decimal (getElem_mem hne))]
  simp only [readInt, hspace]
  split
  next heq =>
    have hdigit : ('-').isDigit = true := isDigit_of_mem_decimal (heq ▸ mem_cons_self)
    simp at hdigit
  next heq =>
    have hdigit : ('+').isDigit = true := isDigit_of_mem_decimal (heq ▸ mem_cons_self)
    simp at hdigit
  · rw [takeWhile_decimal, hvalue]

theorem readInt_neg_decimal (h : n < 10 ^ width) :
    readInt ('-' :: decimal width n) = -(n : Int) := by
  have hspace : ('-' :: decimal width n).dropWhile isWhitespace = '-' :: decimal width n :=
    dropWhile_cons_of_neg (by decide)
  simp only [readInt, hspace, takeWhile_decimal, decimalValue_decimal h]

/-- The milliseconds of a time before 1970 that are lost: less than ten before the second. -/
def LostMillis (ms : Int) : Prop := -10 < ms ∧ ms < 0

instance (ms : Int) : Decidable (LostMillis ms) := inferInstanceAs (Decidable (_ ∧ _))

/-- Milliseconds are read back, unless they are lost. -/
theorem readInt_formatMillis {ms : Int} (h₀ : -1000 < ms) (h₁ : ms < 1000) (h : ¬LostMillis ms) :
    readInt (formatMillis ms) = ms := by
  unfold formatMillis
  unfold LostMillis at h
  split_ifs with hneg hten hhundred
  · rw [readInt_decimal (by omega)]
    omega
  · exact absurd ⟨hten, by omega⟩ h
  all_goals
    rw [readInt_neg_decimal (by omega)]
    omega

/-- Lost milliseconds are read as zero: the zero that fills the field is a digit, and the sign that
follows it is not. -/
theorem readInt_formatMillis_of_lost {ms : Int} (h : LostMillis ms) : readInt (formatMillis ms) = 0 := by
  unfold formatMillis
  rw [if_neg (by have := h.2; omega), if_pos h.1]
  rfl

/-! ## Times -/

theorem tdiv_of_nonpos {a : Int} (h : a ≤ 0) (b : Int) : a.tdiv b = -(-a / b) := by
  rw [← Int.tdiv_eq_ediv_of_nonneg (show 0 ≤ -a by omega), Int.neg_tdiv, Int.neg_neg]

theorem TimePoint.millis_eq :
    millis t = toTimeT t * 1000 + subMillis t ∧ -1000 < subMillis t ∧ subMillis t < 1000 := by
  unfold millis toTimeT subMillis millis
  rcases Int.le_total 0 t.toInt with h | h
  · rw [Int.tdiv_eq_ediv_of_nonneg h, Int.tdiv_eq_ediv_of_nonneg h,
      Int.tmod_eq_emod_of_nonneg (by omega)]
    omega
  have hpos : -t.toInt / 1000000 ≥ 0 := by omega
  rw [tdiv_of_nonpos h, tdiv_of_nonpos h, Int.neg_tmod, Int.tmod_eq_emod_of_nonneg hpos]
  omega

open Int64

theorem TimePoint.millis_bounds : -9223372036855 < millis t ∧ millis t < 9223372036855 := by
  have h₀ := le_toInt t
  have h₁ := toInt_lt t
  unfold millis
  rcases Int.le_total 0 t.toInt with h | h
  · rw [Int.tdiv_eq_ediv_of_nonneg h]
    omega
  rw [tdiv_of_nonpos h]
  omega

theorem TimePoint.toInt_truncated : t.truncated.toInt = millis t * 1000000 := by
  have h := millis_bounds t
  exact toInt_ofInt_of_le (by omega) (by omega)

theorem formatTimestampMs_ne_nil : formatTimestampMs t ≠ [] := by
  simp [formatTimestampMs]

theorem not_mem_formatTimestampMs (hc : c = '\t' ∨ c = '\n') (t : TimePoint) :
    c ∉ formatTimestampMs t := by
  have hdigit : c.isDigit = false ∧ c ∉ ['-', ' ', ':', '.', '0'] := by
    rcases hc with rfl | rfl <;> decide
  have hdecimal : ∀ width n, c ∉ decimal width n := by
    intro width n h
    rw [isDigit_of_mem_decimal h] at hdigit
    cases hdigit.1
  have hchar : ∀ n < 10, c ≠ digitChar n := by
    rintro n hn rfl
    rw [(digitChar_spec n hn).1] at hdigit
    cases hdigit.1
  have hmillis : c ∉ formatMillis (subMillis t) := by
    unfold formatMillis
    split_ifs with h₀ h₁ h₂
    · exact hdecimal _ _
    · have hlast := hchar (subMillis t).natAbs (by omega)
      simp_all
    · have := hdecimal 2 (subMillis t).natAbs
      simp_all
    have := hdecimal 3 (subMillis t).natAbs
    simp_all
  simp only [formatTimestampMs, timestampFormat, putTime]
  simp_all

theorem parseTimestampMs_formatTimestampMs :
    parseTimestampMs (formatTimestampMs t) = Int64.ofInt (toTimeT t * 1000000000 +
      readInt (formatMillis (subMillis t)) * 1000000) := by
  have hmillis := millis_eq t
  have hbounds := millis_bounds t
  obtain ⟨htime, hfits⟩ :=
    timegm_gmtime (show -150000 * 86400 ≤ toTimeT t by omega) (by omega)
  unfold parseTimestampMs
  rw [if_neg (formatTimestampMs_ne_nil t), formatTimestampMs, getTime_putTime hfits]
  simp only [htime]

/-- Which times come back: all but those with lost milliseconds, cut to the millisecond. -/
theorem parseTimestampMs_eq_truncated_iff :
    parseTimestampMs (formatTimestampMs t) = t.truncated ↔ ¬LostMillis (subMillis t) := by
  obtain ⟨hmillis, h₀, h₁⟩ := millis_eq t
  have hbounds := millis_bounds t
  rw [parseTimestampMs_formatTimestampMs]
  constructor
  · intro heq hlost
    have hint := congrArg toInt heq
    unfold LostMillis at hlost
    rw [readInt_formatMillis_of_lost hlost, toInt_truncated,
      toInt_ofInt_of_le (by omega) (by omega)] at hint
    omega
  intro hkept
  rw [readInt_formatMillis h₀ h₁ hkept, truncated]
  congr 1
  omega

end SecureCloud.Audit
