import Mathlib

/-
# Audit.Domain — audit events and their vocabulary

`domain/enums.cpp`, `domain/event_id.cpp` and `domain/audit_event.hpp`. The characters of a `String`
stand for the bytes of an `std::string`. A `time_point` is its 64-bit count of nanoseconds. An
`unordered_map` is the list of its entries in the order of iteration, with no key twice.
-/

namespace SecureCloud.Audit

open List

/-! ## Times -/

abbrev TimePoint := Int64

/-- `duration_cast<milliseconds>(t.time_since_epoch()).count()`: it cuts towards zero. -/
def TimePoint.millis (t : TimePoint) : Int := t.toInt.tdiv 1000000

def TimePoint.truncated (t : TimePoint) : TimePoint := Int64.ofInt (TimePoint.millis t * 1000000)

/-! ## Enumerations -/

inductive Severity where
  | info | warning | security | critical
deriving DecidableEq

inductive ProducerService where
  | gateway | auth | messaging | files | audit
deriving DecidableEq

inductive ActorType where
  | user | device | service | system | unknown
deriving DecidableEq

inductive TargetType where
  | user | device | conversation | file | service | unknown
deriving DecidableEq

def Severity.toString : Severity → String
  | .info => "INFO" | .warning => "WARNING" | .security => "SECURITY" | .critical => "CRITICAL"

def ProducerService.toString : ProducerService → String
  | .gateway => "gateway" | .auth => "auth" | .messaging => "messaging" | .files => "files"
  | .audit => "audit"

def ActorType.toString : ActorType → String
  | .user => "USER" | .device => "DEVICE" | .service => "SERVICE" | .system => "SYSTEM"
  | .unknown => "UNKNOWN"

def TargetType.toString : TargetType → String
  | .user => "USER" | .device => "DEVICE" | .conversation => "CONVERSATION" | .file => "FILE"
  | .service => "SERVICE" | .unknown => "UNKNOWN"

/-- The first of the spellings that is the text: how every `*_from_string` decides. -/
def fromSpellings {β : Type} (spellings : List (β × List String)) (sv : String) : Option β :=
  (spellings.find? fun entry => entry.2.contains sv).map Prod.fst

def severityFromString : String → Option Severity :=
  fromSpellings [(.info, ["INFO", "info", "1"]), (.warning, ["WARNING", "warning", "2"]),
      (.security, ["SECURITY", "security", "3"]), (.critical, ["CRITICAL", "critical", "4"])]

def producerFromString : String → Option ProducerService :=
  fromSpellings [(.gateway, ["gateway", "GATEWAY", "1"]), (.auth, ["auth", "AUTH", "2"]),
      (.messaging, ["messaging", "MESSAGING", "3"]), (.files, ["files", "FILES", "4"]),
      (.audit, ["audit", "AUDIT", "5"])]

def actorTypeFromString : String → Option ActorType :=
  fromSpellings [(.user, ["USER", "user", "1"]), (.device, ["DEVICE", "device", "2"]),
      (.service, ["SERVICE", "service", "3"]), (.system, ["SYSTEM", "system", "4"]),
      (.unknown, ["UNKNOWN", "unknown", "5"])]

def targetTypeFromString : String → Option TargetType :=
  fromSpellings [(.user, ["USER", "user", "1"]), (.device, ["DEVICE", "device", "2"]),
      (.conversation, ["CONVERSATION", "conversation", "3"]), (.file, ["FILE", "file", "4"]),
      (.service, ["SERVICE", "service", "5"]), (.unknown, ["UNKNOWN", "unknown", "6"])]

@[simp] theorem severityFromString_toString (s : Severity) :
    severityFromString s.toString = some s := by
  cases s <;> rfl

@[simp] theorem producerFromString_toString (p : ProducerService) :
    producerFromString p.toString = some p := by
  cases p <;> rfl

@[simp] theorem actorTypeFromString_toString (a : ActorType) :
    actorTypeFromString a.toString = some a := by
  cases a <;> rfl

@[simp] theorem targetTypeFromString_toString (t : TargetType) :
    targetTypeFromString t.toString = some t := by
  cases t <;> rfl

/-! ## Event ids -/

structure EventId where
  bytes : List UInt8
  length_eq : bytes.length = 16

namespace EventId

theorem ext {a b : EventId} (h : a.bytes = b.bytes) : a = b := by
  cases a
  cases b
  cases h
  rfl

instance : DecidableEq EventId := fun a b =>
  decidable_of_iff (a.bytes = b.bytes) ⟨ext, congrArg bytes⟩

variable (id : EventId)

def byte (i : Nat) : Nat := (id.bytes.getD i 0).toNat

theorem length_zeros : (List.replicate 16 (0 : UInt8)).length = 16 := rfl

def nil : EventId := ⟨List.replicate 16 0, length_zeros⟩

def isNil : Bool := id == nil

/-- `(bytes_[6] >> 4) & 0x0F`. -/
def version : Nat := id.byte 6 / 16

/-- `(bytes_[8] >> 6) & 0x03`. -/
def variant : Nat := id.byte 8 / 64

/-- The 48-bit big-endian millisecond count of the first six bytes. -/
def timestampMs : Nat :=
  (List.range 6).foldl (fun acc i => acc * 256 + id.byte i) 0

/-- Version 7 and variant `10xx`: what `from_string`, the validator and the cursor decoder ask. -/
def IsV7 : Prop := id.version = 7 ∧ id.variant = 2

instance (id : EventId) : Decidable id.IsV7 := inferInstanceAs (Decidable (_ ∧ _))

def hexDigit (n : Nat) : Char := Char.ofNat (if n < 10 then 48 + n else 87 + n)

/-- `hex_digit_to_int`, `none` for its `-1`. -/
def hexDigitToInt (c : Char) : Option Nat :=
  if '0' ≤ c ∧ c ≤ '9' then some (c.toNat - 48)
  else if 'a' ≤ c ∧ c ≤ 'f' then some (c.toNat - 97 + 10)
  else if 'A' ≤ c ∧ c ≤ 'F' then some (c.toNat - 65 + 10)
  else none

/-- `%02x`. -/
def hexByte (b : UInt8) : List Char := [hexDigit (b.toNat / 16), hexDigit (b.toNat % 16)]

/-- Digits in the groups 8-4-4-4-12. -/
def grouped (digits : List Char) : List Char :=
  digits.take 8 ++ '-' :: ((digits.drop 8).take 4 ++ '-' :: ((digits.drop 12).take 4 ++
    '-' :: ((digits.drop 16).take 4 ++ '-' :: digits.drop 20)))

def ungrouped (sv : List Char) : List Char :=
  sv.take 8 ++ ((sv.drop 9).take 4 ++ ((sv.drop 14).take 4 ++ ((sv.drop 19).take 4 ++ sv.drop 24)))

def toString : List Char := grouped (id.bytes.flatMap hexByte)

def hexPairs : List Char → Option (List UInt8)
  | [] => some []
  | [_] => none
  | hi :: lo :: rest =>
    match hexDigitToInt hi, hexDigitToInt lo, hexPairs rest with
    | some h, some l, some bytes => some (UInt8.ofNat (h * 16 + l) :: bytes)
    | _, _, _ => none

/-- `from_string`: 36 characters, dashes in their places, digits elsewhere, version and variant. -/
def fromString (sv : List Char) : Option EventId :=
  if sv.length ≠ 36 then none
  else if sv[8]? ≠ some '-' ∨ sv[13]? ≠ some '-' ∨ sv[18]? ≠ some '-' ∨ sv[23]? ≠ some '-' then none
  else match hexPairs (ungrouped sv) with
    | none => none
    | some bytes =>
      if h : bytes.length = 16 then if IsV7 ⟨bytes, h⟩ then some ⟨bytes, h⟩ else none
      else none

theorem hexDigitToInt_hexDigit : ∀ n < 16, hexDigitToInt (hexDigit n) = some n := by decide

theorem hexDigit_ne : ∀ n < 16, hexDigit n ≠ '\t' ∧ hexDigit n ≠ '\n' := by decide

theorem length_flatMap_hexByte (bytes : List UInt8) :
    (bytes.flatMap hexByte).length = 2 * bytes.length := by
  induction bytes with
  | nil => rfl
  | cons b bytes ih =>
    rw [flatMap_cons, length_append, ih, length_cons]
    show 2 + 2 * bytes.length = 2 * (bytes.length + 1)
    omega

theorem hexPairs_flatMap_hexByte (bytes : List UInt8) :
    hexPairs (bytes.flatMap hexByte) = some bytes := by
  induction bytes with
  | nil => rfl
  | cons b bytes ih =>
    have hb : b.toNat < 256 := b.toNat_lt
    have hi := hexDigitToInt_hexDigit (b.toNat / 16) (by omega)
    have lo := hexDigitToInt_hexDigit (b.toNat % 16) (by omega)
    simp only [flatMap_cons, hexByte, cons_append, nil_append, hexPairs, hi, lo, ih]
    rw [show b.toNat / 16 * 16 + b.toNat % 16 = b.toNat by omega, UInt8.ofNat_toNat]

section Groups

variable {a b c d e : List Char} (ha : a.length = 8) (hb : b.length = 4) (hc : c.length = 4)
  (hd : d.length = 4)

include ha hb hc hd

theorem grouped_append : grouped (a ++ (b ++ (c ++ (d ++ e)))) =
    a ++ '-' :: (b ++ '-' :: (c ++ '-' :: (d ++ '-' :: e))) := by
  simp [grouped, drop_append, ha, hb, hc, hd, drop_eq_nil_of_le]

theorem ungrouped_append : ungrouped (a ++ '-' :: (b ++ '-' :: (c ++ '-' :: (d ++ '-' :: e)))) =
    a ++ (b ++ (c ++ (d ++ e))) := by
  simp [ungrouped, drop_append, ha, hb, hc, hd, drop_eq_nil_of_le]

theorem getElem_dashes : ∀ i ∈ [8, 13, 18, 23],
    (a ++ '-' :: (b ++ '-' :: (c ++ '-' :: (d ++ '-' :: e))))[i]? = some '-' := by
  simp [getElem?_append, ha, hb, hc, hd]

end Groups

theorem exists_groups {digits : List Char} (h : digits.length = 32) :
    ∃ a b c d e : List Char, digits = a ++ (b ++ (c ++ (d ++ e))) ∧ a.length = 8 ∧ b.length = 4 ∧
      c.length = 4 ∧ d.length = 4 ∧ e.length = 12 := by
  refine ⟨digits.take 8, (digits.drop 8).take 4, (digits.drop 12).take 4, (digits.drop 16).take 4,
    digits.drop 20, ?_, ?_⟩
  · have h₁ := take_append_drop 8 digits
    have h₂ := take_append_drop 4 (digits.drop 8)
    have h₃ := take_append_drop 4 (digits.drop 12)
    have h₄ := take_append_drop 4 (digits.drop 16)
    simp only [drop_drop] at h₂ h₃ h₄
    rw [h₄, h₃, h₂, h₁]
  · simp [h]

/-- An id is read back from its text, if it is a UUIDv7. -/
theorem fromString_toString {id : EventId} (h : id.IsV7) : fromString id.toString = some id := by
  have hlen : (id.bytes.flatMap hexByte).length = 32 := by
    rw [length_flatMap_hexByte, id.length_eq]
  obtain ⟨a, b, c, d, e, heq, ha, hb, hc, hd, he⟩ := exists_groups hlen
  have htext : id.toString = a ++ '-' :: (b ++ '-' :: (c ++ '-' :: (d ++ '-' :: e))) := by
    rw [toString, heq, grouped_append ha hb hc hd]
  have hdash := getElem_dashes (e := e) ha hb hc hd
  have hpairs : hexPairs (ungrouped id.toString) = some id.bytes := by
    rw [htext, ungrouped_append ha hb hc hd, ← heq, hexPairs_flatMap_hexByte]
  have hlength : id.toString.length = 36 := by
    rw [htext]
    simp [ha, hb, hc, hd, he]
  rw [← htext] at hdash
  unfold fromString
  rw [if_neg (by simp [hlength]), if_neg (by simp [hdash]), hpairs]
  show (if h' : id.bytes.length = 16 then if IsV7 ⟨id.bytes, h'⟩ then some (⟨id.bytes, h'⟩ : EventId)
    else none else none) = some id
  rw [dif_pos id.length_eq, if_pos h]

theorem not_mem_toString {c : Char} (hc : c = '\t' ∨ c = '\n') (id : EventId) :
    c ∉ id.toString := by
  have hdigit : ∀ x ∈ id.bytes.flatMap hexByte, x ≠ c := by
    intro x hx
    obtain ⟨b, -, hx⟩ := mem_flatMap.mp hx
    have hb : b.toNat < 256 := b.toNat_lt
    simp only [hexByte, mem_cons, not_mem_nil, or_false] at hx
    rcases hx with rfl | rfl
    all_goals
      rcases hc with rfl | rfl
      exacts [(hexDigit_ne _ (by omega)).1, (hexDigit_ne _ (by omega)).2]
  have hdash : c ≠ '-' := by rcases hc with rfl | rfl <;> decide
  intro hmem
  simp only [toString, grouped, mem_append, mem_cons, hdash, false_or] at hmem
  rcases hmem with h | h | h | h | h
  · exact hdigit c (mem_of_mem_take h) rfl
  · exact hdigit c (mem_of_mem_drop (mem_of_mem_take h)) rfl
  · exact hdigit c (mem_of_mem_drop (mem_of_mem_take h)) rfl
  · exact hdigit c (mem_of_mem_drop (mem_of_mem_take h)) rfl
  · exact hdigit c (mem_of_mem_drop h) rfl

end EventId

/-! ## Events -/

/-- `std::unordered_map<std::string, std::string>`, in the order it iterates. -/
structure Metadata where
  entries : List (String × String)
  nodup : (entries.map Prod.fst).Nodup
deriving DecidableEq

namespace Metadata

def find (m : Metadata) (key : String) : Option String := m.entries.lookup key

def empty : Metadata := ⟨[], List.nodup_nil⟩

def assignEntries : List (String × String) → String → String → List (String × String)
  | [], key, value => [(key, value)]
  | entry :: entries, key, value =>
    if entry.1 = key then (key, value) :: entries else entry :: assignEntries entries key value

theorem map_fst_assignEntries (entries : List (String × String)) (key value : String) :
    (assignEntries entries key value).map Prod.fst =
      if key ∈ entries.map Prod.fst then entries.map Prod.fst else entries.map Prod.fst ++ [key] := by
  induction entries with
  | nil => simp [assignEntries]
  | cons entry entries ih =>
    rw [assignEntries]
    by_cases h : entry.1 = key
    · simp [h]
    rw [if_neg h, map_cons, ih, map_cons]
    by_cases hmem : key ∈ entries.map Prod.fst
    · rw [if_pos hmem, if_pos (mem_cons_of_mem _ hmem)]
    have hcons : key ∉ entry.1 :: entries.map Prod.fst := by
      rw [mem_cons, not_or]
      exact ⟨Ne.symm h, hmem⟩
    rw [if_neg hmem, if_neg hcons, cons_append]

def assign (m : Metadata) (key value : String) : Metadata where
  entries := assignEntries m.entries key value
  nodup := by
    rw [map_fst_assignEntries]
    split
    · exact m.nodup
    next h =>
      refine List.nodup_append.mpr ⟨m.nodup, by simp, ?_⟩
      intro a ha b hb
      rw [List.mem_singleton.mp hb]
      exact fun heq => h (heq ▸ ha)

end Metadata

structure AuditEvent where
  eventId : EventId := EventId.nil
  occurredAt : TimePoint := 0
  receivedAt : Option TimePoint := none
  eventType : String := ""
  severity : Severity := .info
  producerService : ProducerService := .audit
  producerInstance : String := ""
  actorType : ActorType := .unknown
  actorId : String := ""
  targetType : TargetType := .unknown
  targetId : String := ""
  correlationId : String := ""
  causationId : Option String := none
  metadata : Metadata := .empty
deriving DecidableEq

end SecureCloud.Audit
