import SecureCloud.Auth.Domain

/-
# Auth.Totp — one-time codes and the drift window

`TotpEngine`: the code of a time step, and the search for a matching step around the current one. All
that is used of the keyed hash is that a digest has the twenty bytes the truncation reads. `verifyCode`
reports WHICH step a code matched: the first in the window.
-/

namespace SecureCloud.Auth

abbrev Bytes := List UInt8

/-- `TotpConfig`, within the limits the constructor of `TotpEngine` enforces. -/
structure TotpConfig where
  digits : Nat := 6
  timeStepSeconds : Nat := 30
  driftWindowSteps : Nat := 1
  digits_mem : 1 ≤ digits ∧ digits ≤ 10 := by decide
  timeStep_pos : 0 < timeStepSeconds := by decide

/-- The engine, over any keyed hash whose digests have twenty bytes. -/
structure TotpEngine where
  config : TotpConfig
  hmac : Bytes → Bytes → Bytes
  hmac_length : ∀ key message, 20 ≤ (hmac key message).length

/-- The counter as eight bytes, the most significant first. -/
def counterBytes (counter : Nat) : Bytes :=
  (List.range 8).map fun i => UInt8.ofNat (counter / 256 ^ (7 - i))

/-- The dynamic truncation: 31 bits of the digest, from where its last four bits point. -/
def truncate (hash : Bytes) : Nat :=
  let offset := (hash.getLastD 0).toNat % 16
  let byte := fun i => (hash.getD (offset + i) 0).toNat
  byte 0 % 128 * 2 ^ 24 + byte 1 * 2 ^ 16 + byte 2 * 2 ^ 8 + byte 3

/-- `std::setw` and `std::setfill('0')`. -/
def padLeft (width : Nat) (text : String) : List Char :=
  List.replicate (width - text.toList.length) '0' ++ text.toList

variable (e : TotpEngine)

/-- `compute_code`, for a time in seconds; `power_of_ten` has 32 bits. `none`: the secret is empty. -/
def TotpEngine.computeCode (secret : Bytes) (timestamp : Nat) : Option (List Char) :=
  if secret.isEmpty then none
  else
    let hash := e.hmac secret (counterBytes (timestamp / e.config.timeStepSeconds))
    some (padLeft e.config.digits (toString (truncate hash % (10 ^ e.config.digits % 2 ^ 32))))

def isSpace (c : Char) : Bool :=
  c == ' ' || c == '\t' || c == '\n' || c == '\x0b' || c == '\x0c' || c == '\r'

/-- The steps of the window `[current - drift, current + drift]` that exist, in order. -/
def TotpEngine.window (timestamp : Nat) : List Nat :=
  let current := timestamp / e.config.timeStepSeconds
  (List.range (2 * e.config.driftWindowSteps + 1)).filterMap fun i =>
    if e.config.driftWindowSteps ≤ current + i then some (current + i - e.config.driftWindowSteps)
    else none

/-- `verify_code`: the step the code matches. An empty secret, for which the source throws, matches
nothing. -/
def TotpEngine.verifyCode (secret : Bytes) (code : String) (timestamp : Nat) : Option Nat :=
  let clean := code.toList.filter fun c => !isSpace c
  if clean.length ≠ e.config.digits then none
  else (e.window timestamp).find? fun step =>
    e.computeCode secret (step * e.config.timeStepSeconds) == some clean

/-- `url_encode`: all but the unreserved characters in percent signs. -/
def urlEncode (value : String) : List Char :=
  value.toList.flatMap fun c =>
    if c.isAlphanum || ['-', '_', '.', '~'].contains c then [c]
    else ['%', (Nat.digitChar (c.toNat % 256 / 16)).toUpper, (Nat.digitChar (c.toNat % 16)).toUpper]

/-- `generate_otpauth_uri`. -/
def TotpEngine.otpauthUri (algorithm issuer accountName base32Secret : String) :
    String :=
  let label := if issuer = "" then urlEncode accountName
    else urlEncode issuer ++ [':'] ++ urlEncode accountName
  "otpauth://totp/" ++ String.ofList label ++ "?secret=" ++ base32Secret ++
    (if issuer = "" then "" else "&issuer=" ++ String.ofList (urlEncode issuer)) ++
    "&algorithm=" ++ algorithm ++ "&digits=" ++ toString e.config.digits ++
    "&period=" ++ toString e.config.timeStepSeconds

end SecureCloud.Auth
