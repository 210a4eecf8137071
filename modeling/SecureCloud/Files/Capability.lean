import SecureCloud.Files.Storage
import SecureCloud.Lib.Checks

/-
# Files.Capability — signed file-access capabilities

A capability names a user, a device, a file, an operation and possibly a version, and is good until a
time. `FileCapabilityManager` issues and authorizes them; `CapabilityValidator` checks one against a
request; `DeviceRevocationProvider` says which devices are revoked.

Signatures, Base64URL and JSON are a `TokenCodec`, about which nothing is assumed: whatever the verifier
accepts is accepted.
-/

namespace SecureCloud.Files

open Lib.Checks

/-! ## Claims -/

inductive FileCapabilityOperation
  | read
  | write
  | delete
  | metadata
deriving DecidableEq

def FileCapabilityOperation.toString : FileCapabilityOperation → String
  | read => "read"
  | write => "write"
  | delete => "delete"
  | metadata => "metadata"

def fileCapabilityOperationFromString : String → Option FileCapabilityOperation
  | "read" => some .read
  | "write" => some .write
  | "delete" => some .delete
  | "metadata" => some .metadata
  | _ => none

structure FileAccessCapabilityClaims where
  capabilityId : String
  userId : String
  deviceId : String
  fileId : String
  /-- `0`: any version, the active one; above: that version only. -/
  fileVersion : Int := 0
  operation : FileCapabilityOperation := .read
  issuedAt : TimePoint
  expiresAt : TimePoint
  issuer : String := "securecloud-files"
deriving DecidableEq

def clockSkewTolerance : TimePoint := seconds 30

variable (claims : FileAccessCapabilityClaims)

def FileAccessCapabilityClaims.isExpired (now : TimePoint) : Bool :=
  now > claims.expiresAt + clockSkewTolerance

def FileAccessCapabilityClaims.isPremature (now : TimePoint) : Bool :=
  now + clockSkewTolerance < claims.issuedAt

/-! ## Tokens -/

/-- A member of a JSON object. Of a fraction only what a conversion to an integer keeps is needed. -/
inductive JsonValue
  | null
  | boolean (b : Bool)
  | integer (n : Int)
  | float (truncated : Int)
  | string (s : String)
  | array
  | object
deriving DecidableEq

abbrev JsonObject := List (String × JsonValue)

/-- What the service takes from elsewhere to make and read tokens. -/
structure TokenCodec where
  keyId : String
  sign : String → String
  verify : String → String → Bool
  encode : String → String
  decode : String → Option String
  dump : JsonObject → String
  parse : String → Except String JsonObject
  typeError : String → JsonValue → String

namespace FileCapabilitySerializer

def secondsOf (t : TimePoint) : Int := t.tdiv 1000000000

variable (codec : TokenCodec)

def header : JsonObject :=
  [("alg", .string "EdDSA"), ("typ", .string "sc-file-cap/v1"), ("kid", .string codec.keyId)]

def payload : JsonObject :=
  [("cap_id", .string claims.capabilityId), ("uid", .string claims.userId),
    ("did", .string claims.deviceId), ("fid", .string claims.fileId),
    ("ver", .integer claims.fileVersion), ("op", .string claims.operation.toString),
    ("iat", .integer (secondsOf claims.issuedAt)), ("exp", .integer (secondsOf claims.expiresAt)),
    ("iss", .string claims.issuer)]

def serialize (claims : FileAccessCapabilityClaims) : String :=
  let signingInput := codec.encode (codec.dump (header codec)) ++ "." ++
    codec.encode (codec.dump (payload claims))
  signingInput ++ "." ++ codec.sign signingInput

/-! ### Reading members -/

def getString : JsonValue → Except String String
  | .string s => .ok s
  | v => .error (codec.typeError "string" v)

def getInt64 : JsonValue → Except String Int
  | .integer n => .ok (n.bmod (2 ^ 64))
  | .float n => .ok (n.bmod (2 ^ 64))
  | v => .error (codec.typeError "number" v)

/-- An `int` is also read from a truth value. -/
def getInt : JsonValue → Except String Int
  | .integer n => .ok (n.bmod (2 ^ 32))
  | .float n => .ok (n.bmod (2 ^ 32))
  | .boolean b => .ok (if b then 1 else 0)
  | v => .error (codec.typeError "number" v)

def member (doc : JsonObject) (name : String) : JsonValue := (doc.lookup name).getD .null

def requiredFields : List String := ["cap_id", "uid", "did", "fid", "op", "iat", "exp"]

def readClaims (doc : JsonObject) (operation : FileCapabilityOperation) :
    Except String FileAccessCapabilityClaims := do
  let capabilityId ← getString codec (member doc "cap_id")
  let userId ← getString codec (member doc "uid")
  let deviceId ← getString codec (member doc "did")
  let fileId ← getString codec (member doc "fid")
  let fileVersion ← match doc.lookup "ver" with
    | none => .ok 0
    | some v => getInt codec v
  let iat ← getInt64 codec (member doc "iat")
  let exp ← getInt64 codec (member doc "exp")
  let issuer ← match doc.lookup "iss" with
    | none => .ok "securecloud-files"
    | some v => getString codec v
  return { capabilityId, userId, deviceId, fileId, fileVersion, operation
           issuedAt := seconds iat, expiresAt := seconds exp, issuer }

def parsePayload (doc : JsonObject) : Except String FileAccessCapabilityClaims := do
  requiredFields.forM fun field =>
    require ((doc.lookup field).isSome = true)
      s!"Missing required claim in capability payload: {field}"
  let op ← match getString codec (member doc "op") with
    | .error _ => .error "Invalid type for 'op' claim"
    | .ok op => .ok op
  match fileCapabilityOperationFromString op with
  | none => .error s!"Unknown file capability operation: {op}"
  | some operation =>
    (readClaims codec doc operation).mapError fun what =>
      s!"Error reading capability claims: {what}"

def checkHeader (headerB64 : String) : Except String Unit :=
  match codec.decode headerB64 with
  | none => .error "Malformed capability token: header is not valid Base64URL"
  | some text =>
    match codec.parse text with
    | .error what => .error s!"Malformed JSON in capability header: {what}"
    | .ok doc => require (doc.lookup "alg" = some (.string "EdDSA"))
        "Unsupported or missing signature algorithm in capability header"

def splitToken (token : String) : Except String (String × String × String) :=
  match token.toList.splitOn '.' with
  | [headerB64, payloadB64, signatureB64] =>
    if headerB64 = [] ∨ payloadB64 = [] ∨ signatureB64 = [] then
      .error "Malformed capability token: contains empty segment"
    else .ok (String.ofList headerB64, String.ofList payloadB64, String.ofList signatureB64)
  | [] | [_] => .error "Malformed capability token: missing header/payload delimiter"
  | [_, _] => .error "Malformed capability token: missing payload/signature delimiter"
  | _ => .error "Malformed capability token: unexpected extraneous segments"

def deserializeAndVerify (token : String) : Except String FileAccessCapabilityClaims := do
  let (headerB64, payloadB64, signatureB64) ← splitToken token
  require (codec.verify (headerB64 ++ "." ++ payloadB64) signatureB64 = true)
    "Invalid cryptographic signature: capability has been tampered with or key mismatch"
  checkHeader codec headerB64
  match codec.decode payloadB64 with
  | none => .error "Malformed capability token: payload is not valid Base64URL"
  | some text =>
    match codec.parse text with
    | .error what => .error s!"Malformed JSON in capability payload: {what}"
    | .ok doc => parsePayload codec doc

end FileCapabilitySerializer

/-! ## The validator -/

structure CapabilityValidationInput where
  presentedToken : String
  callerUserId : String
  callerDeviceId : String
  targetFileId : String
  /-- `0`: any version, the active one. -/
  requestedVersion : Int := 0
  requestedOperation : FileCapabilityOperation := .read
  isDeviceRevoked : Bool := false
  currentTime : TimePoint

namespace CapabilityValidator

def checkClaims (input : CapabilityValidationInput) (claims : FileAccessCapabilityClaims) :
    Except String Unit := do
  require (claims.isExpired input.currentTime = false) "Capability token has expired"
  require (claims.isPremature input.currentTime = false)
    "Capability token is not yet valid (premature timestamp)"
  require (claims.userId = input.callerUserId)
    "Capability user mismatch: token was not issued for caller user"
  require (claims.deviceId = input.callerDeviceId)
    "Capability device mismatch: token was not issued for caller device"
  require (claims.fileId = input.targetFileId)
    "Capability file mismatch: token was not issued for requested file"
  require (claims.operation = input.requestedOperation)
    "Capability operation mismatch: requested operation is not permitted by capability"
  -- both sides have to name a version for the pin to be compared
  require (¬ (claims.fileVersion > 0 ∧ input.requestedVersion > 0 ∧
      claims.fileVersion ≠ input.requestedVersion))
    "Capability version mismatch: token is pinned to a different file version"

def validate (codec : TokenCodec) (input : CapabilityValidationInput) :
    Except String FileAccessCapabilityClaims := do
  require (input.presentedToken ≠ "") "Missing file-access capability token"
  require (isValidUuid input.callerUserId = true) "Invalid or missing authenticated caller user_id"
  require (isValidUuid input.callerDeviceId = true)
    "Invalid or missing authenticated caller device_id"
  require (isValidUuid input.targetFileId = true) "Invalid or missing target file_id"
  require (input.isDeviceRevoked = false) "Caller device has been revoked"
  let claims ← FileCapabilitySerializer.deserializeAndVerify codec input.presentedToken
  checkClaims input claims
  return claims

/-- What a validated token has been checked for. The pin is compared only with a request that
names a version. -/
theorem validate_eq_ok {codec : TokenCodec} {input : CapabilityValidationInput}
    {claims : FileAccessCapabilityClaims} (h : validate codec input = .ok claims) :
    FileCapabilitySerializer.deserializeAndVerify codec input.presentedToken = .ok claims ∧
      isValidUuid input.callerDeviceId = true ∧ input.isDeviceRevoked = false ∧ claims.isExpired input.currentTime = false ∧
      claims.userId = input.callerUserId ∧ claims.deviceId = input.callerDeviceId ∧
      claims.fileId = input.targetFileId ∧ claims.operation = input.requestedOperation := by
  simp only [validate, checkClaims, bind_eq_ok, require_eq_ok, exists_const, pure, Except.pure,
    Except.ok.injEq] at h
  obtain ⟨-, -, hid, -, hrevoked, _, hverified, hchecked, rfl⟩ := h
  obtain ⟨hexpired, -, huser, hdevice, hfile, hoperation, -⟩ := hchecked
  exact ⟨hverified, hid, hrevoked, hexpired, huser, hdevice, hfile, hoperation⟩

end CapabilityValidator

/-! ## Revoked devices -/

abbrev RevokedDevices := Finset String

namespace DeviceRevocationProvider

/-- `SELECT 1 FROM file_access WHERE grantee_device_id = $1 AND revoked_at IS NOT NULL`: the store's
dispatcher has no case for this text, so the result is EMPTY. -/
def selectRevokedGrants (_ : Tables) (_ : String) : List FileAccessEntity := []

variable (revoked : RevokedDevices)

/-- `is_device_revoked`: the memory, then the grants; a hit there is remembered. -/
def isDeviceRevoked (store : Tables) (deviceId : String) : Bool × RevokedDevices :=
  if deviceId = "" then (false, revoked)
  else if deviceId ∈ revoked then (true, revoked)
  else if selectRevokedGrants store deviceId ≠ [] then (true, insert deviceId revoked)
  else (false, revoked)

def markDeviceRevoked (deviceId : String) : RevokedDevices :=
  if deviceId = "" then revoked else insert deviceId revoked

def clearRevocation (deviceId : String) : RevokedDevices :=
  revoked.erase deviceId

theorem isDeviceRevoked_eq (store : Tables) {deviceId : String} (hid : deviceId ≠ "") :
    isDeviceRevoked revoked store deviceId = (decide (deviceId ∈ revoked), revoked) := by
  unfold isDeviceRevoked
  by_cases hmarked : deviceId ∈ revoked
  · simp [hid, hmarked]
  · simp [hid, hmarked, selectRevokedGrants]

end DeviceRevocationProvider

/-! ## The manager -/

namespace FileCapabilityManager

def mentions (text word : String) : Bool := text.toList.tails.any word.toList.isPrefixOf

def refusal (what : String) : FilesException :=
  if mentions what "signature" || mentions what "Malformed" || mentions what "Unsupported" then
    ⟨.invalidCapability, what⟩
  else ⟨.unauthorizedFileAccess, what⟩

def authorizeCapability (codec : TokenCodec) (isRevoked : Bool)
    (token callerUserId callerDeviceId targetFileId : String)
    (requestedOperation : FileCapabilityOperation) (requestedVersion : Int) (now : TimePoint) :
    Except FilesException FileAccessCapabilityClaims :=
  if token = "" then
    .error ⟨.invalidCapability, "Missing required file-access capability token"⟩
  else (CapabilityValidator.validate codec
    { presentedToken := token, callerUserId, callerDeviceId, targetFileId, requestedVersion
      requestedOperation, isDeviceRevoked := isRevoked, currentTime := now }).mapError refusal

end FileCapabilityManager

end SecureCloud.Files
