import SecureCloud.Lib.Positional

/-
# Auth.Domain — identifiers and entities of the auth service

The value objects of `src/auth/domain`. An identifier is its 16 bytes. `Uuid.fromString` follows the
source's loop, which skips hyphens between any two byte positions; what it leaves unread stays zero.
-/

namespace SecureCloud.Auth

/-- Milliseconds since 1970-01-01T00:00:00Z. -/
abbrev TimePoint := Int

/-! ## `Uuid` -/

structure Uuid where
  bytes : List UInt8
  length_eq : bytes.length = 16
deriving DecidableEq

def Uuid.nil : Uuid := ⟨List.replicate 16 0, rfl⟩

/-- The identifier whose last byte is `n`, for concrete runs. -/
def Uuid.ofByte (n : UInt8) : Uuid := ⟨List.replicate 15 0 ++ [n], rfl⟩

/-- The loop of `from_string`. A last character without a partner is read with the terminating `\0`, no
hexadecimal digit. -/
def parseBytes : List Char → Option (List UInt8)
  | [] => some []
  | '-' :: cs => parseBytes cs
  | [_] => none
  | hi :: lo :: cs => do
    let h ← Lib.Positional.hexVal hi
    let l ← Lib.Positional.hexVal lo
    let rest ← parseBytes cs
    return UInt8.ofNat (16 * h + l) :: rest

def Uuid.fromString (text : String) : Option Uuid :=
  let cs := text.toList
  if cs.length ≠ 36 then none
  else if cs[8]? ≠ some '-' ∨ cs[13]? ≠ some '-' ∨ cs[18]? ≠ some '-' ∨ cs[23]? ≠ some '-' then none
  else (parseBytes cs).map fun bytes =>
    ⟨(bytes ++ List.replicate 16 0).take 16, by simp⟩

/-- `to_string`: 8-4-4-4-12 lowercase hexadecimal digits. -/
def Uuid.toString (u : Uuid) : String :=
  let digits := u.bytes.flatMap fun b =>
    [Nat.digitChar (b.toNat / 16), Nat.digitChar (b.toNat % 16)]
  let slice := fun a n => String.ofList ((digits.drop a).take n)
  slice 0 8 ++ "-" ++ slice 8 4 ++ "-" ++ slice 12 4 ++ "-" ++ slice 16 4 ++ "-" ++ slice 20 12

example : Uuid.fromString (Uuid.ofByte 0xab).toString = some (Uuid.ofByte 0xab) := by decide

/-! ## Statuses and entities -/

inductive DeviceStatus
  | pendingAuthorization
  | active
  | revoked
deriving DecidableEq

def DeviceStatus.toString : DeviceStatus → String
  | pendingAuthorization => "PendingAuthorization"
  | active => "Active"
  | revoked => "Revoked"

inductive SessionStatus
  | active
  | revoked
  | expired
deriving DecidableEq

inductive AuthenticationLevel
  | primaryOnly
  | mfaVerified
deriving DecidableEq

/-- Row of `devices`. -/
structure DeviceEntity where
  deviceId : Uuid
  userId : Uuid
  deviceStatus : DeviceStatus
  lastAuthenticatedAt : TimePoint

/-- Row of `sessions`. -/
structure SessionEntity where
  sessionId : Uuid
  userId : Uuid
  deviceId : Uuid
  sessionStatus : SessionStatus
  authenticationLevel : AuthenticationLevel
  createdAt : TimePoint
  expiresAt : TimePoint
  revokedAt : Option TimePoint
  lastUsedAt : TimePoint

structure AccessTokenClaims where
  issuer : String
  audience : String
  userId : Uuid
  deviceId : Uuid
  sessionId : Uuid
  issuedAt : TimePoint
  expiresAt : TimePoint
  jti : Uuid
  scopes : List String
  tokenVersion : Nat
  authenticationLevel : AuthenticationLevel
deriving DecidableEq

end SecureCloud.Auth
