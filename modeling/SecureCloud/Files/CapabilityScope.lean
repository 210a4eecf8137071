import SecureCloud.Files.QuietCalls

/-
# Files.CapabilityScope — what a presented token lets its bearer download

A download that presents a token looks at the revoked devices, the clock, the active version and its
object, each at a time of its own. `downloadChunk_scoped` reads off what those looks found when octets are
served.

The token is bound to user, device, file and operation. NOT SO the rest: the pin is compared with a
requested version that is always `0`, the clock is read with half a minute of grace, and a revoked grant
is asked for with a statement the store does not know. `InScope` has a condition for each.
-/

namespace SecureCloud.Files

open Lib.Program Lib.Checks Lib.Interleaving Statement FilesService List Option

/-! ## What a served chunk rests on -/

def presented (codec : TokenCodec) (request : DownloadChunkRequest) :
    Except String FileAccessCapabilityClaims :=
  FileCapabilitySerializer.deserializeAndVerify codec
    (callerMetadata request.metadata).capabilityToken

/-- Bound to the request: its user, its device, its file, and reading. -/
structure BoundTo (claims : FileAccessCapabilityClaims) (request : DownloadChunkRequest) : Prop where
  user : claims.userId = (callerMetadata request.metadata).userId
  device : claims.deviceId = (callerMetadata request.metadata).deviceId
  file : claims.fileId = request.fileId
  operation : claims.operation = .read

def GrantRevoked (w : World) (deviceId : String) : Prop :=
  ∃ grant ∈ w.tables.access.rows, grant.granteeDeviceId = some deviceId ∧ grant.revokedAt ≠ none

def DeviceRevoked (w : World) (deviceId : String) : Prop :=
  deviceId ∈ w.revoked ∨ GrantRevoked w deviceId

instance (w : World) (deviceId : String) : Decidable (GrantRevoked w deviceId) := by
  unfold GrantRevoked; infer_instance

instance (w : World) (deviceId : String) : Decidable (DeviceRevoked w deviceId) := by
  unfold DeviceRevoked; infer_instance

def timeRead (st : Step Statement Env World) : Option TimePoint :=
  match st.stmt with
  | .clock => some st.env.now
  | _ => none

def deviceAsked (st : Step Statement Env World) : Option String :=
  match st.stmt with
  | .isDeviceRevoked deviceId => some deviceId
  | _ => none

variable (past : Past)

def Unexpired (claims : FileAccessCapabilityClaims) : Prop :=
  ∃ st ∈ past, ∃ now ∈ timeRead st, now ≤ claims.expiresAt

def Unrevoked (claims : FileAccessCapabilityClaims) : Prop :=
  ∃ st ∈ past, deviceAsked st = some claims.deviceId ∧ ¬ DeviceRevoked st.before claims.deviceId

def octetsRead (key : ObjectKey) (st : Step Statement Env World) : Option Bytes :=
  match st.stmt with
  | .getObjectRange key' startByte endByte =>
    if key' = key then (st.before.objects.getRange key startByte endByte).toOption else none
  | _ => none

def OctetsOf (fileId : String) (versionNumber : Int) (octets : Bytes) : Prop :=
  ∃ st ∈ past, octetsRead (.version fileId versionNumber) st = some octets

section
variable (past : Past) (claims : FileAccessCapabilityClaims)

instance : Decidable (Unexpired past claims) := by unfold Unexpired; infer_instance

instance : Decidable (Unrevoked past claims) := by unfold Unrevoked; infer_instance

instance (fileId : String) (versionNumber : Int) (octets : Bytes) :
    Decidable (OctetsOf past fileId versionNumber octets) := by unfold OctetsOf; infer_instance

end

/-! ## The looks of a download -/

/-- The call has authorized the claims: at the device's look and at the clock's, as far as the code
compares. -/
def Authorized (request : DownloadChunkRequest) (claims : FileAccessCapabilityClaims) :
    Prop :=
  BoundTo claims request ∧
    (∃ st ∈ past, st.stmt = .isDeviceRevoked claims.deviceId ∧ claims.deviceId ∉ st.before.revoked) ∧
    ∃ st ∈ past, st.stmt = .clock ∧ claims.isExpired st.env.now = false

theorem Authorized.later {past past' : Past} {request : DownloadChunkRequest}
    {claims : FileAccessCapabilityClaims} (hpast : past <:+ past')
    (h : Authorized past request claims) : Authorized past' request claims := by
  obtain ⟨hbound, ⟨st, hst, hlook⟩, st', hst', hclock⟩ := h
  exact ⟨hbound, ⟨st, hpast.subset hst, hlook⟩, st', hpast.subset hst', hclock⟩

def ReadActive (fileId : String) (octets : Bytes) : Prop :=
  ∃ st ∈ past, ∃ v, st.stmt = .select {} (.activeVersion fileId) ∧
    st.before.tables.findActiveVersion fileId = some v ∧ OctetsOf past fileId v.versionNumber octets

theorem reading_eq_ok {x : Env} {answer : Except FilesException Bytes} {body : Bytes}
    (h : reading x answer = .ok body) : answer = .ok body := by
  unfold reading at h
  split at h
  · exact h
  all_goals exact nomatch h

theorem respond_eq_ok {service : FilesService} {chunk : DownloadChunkResult}
    {response : DownloadChunkResponse} (h : service.respond chunk = .ok response) :
    chunk.chunkSizeBytes ≠ 0 ∧ response.encryptedData = chunk.encryptedData := by
  simp only [respond, check_bind_eq_ok, require_eq_ok, pure, Except.pure, Except.ok.injEq] at h
  obtain ⟨hsize, -, -, rfl⟩ := h
  exact ⟨hsize, rfl⟩

section
variable {past : Past}

theorem capabilityCheck_authorizes (service : FilesService) (request : DownloadChunkRequest)
    (hmanager : service.hasCapabilityManager = true)
    (htoken : (callerMetadata request.metadata).capabilityToken ≠ "") :
    Trails exec (fun _ _ => True)
      (fun past _ => ∃ claims, presented service.codec request = .ok claims ∧ Authorized past request claims)
      (service.capabilityCheck request) past := by
  unfold capabilityCheck
  rw [if_pos ⟨hmanager, htoken⟩]
  refine .bind (.bind (trails_check fun _ => .bind (trails_perform trivial fun x isRevoked w _ hlook =>
    .bind (trails_perform trivial fun x' now w' _ hclock => trails_rethrow fun claims hclaims => ?_))))
  cases hclock
  obtain ⟨hanswer, -⟩ := Prod.mk.inj (some.inj hlook)
  rw [FileCapabilityManager.authorizeCapability, if_neg htoken] at hclaims
  obtain ⟨hread, hid, hunrevoked, hexpired, huser, hdevice, hfile, hoperation⟩ :=
    CapabilityValidator.validate_eq_ok (mapError_eq_ok.mp hclaims)
  have hnonempty : (callerMetadata request.metadata).deviceId ≠ "" := by
    intro hempty
    have hid' : isValidUuid "" = true := hempty ▸ hid
    exact absurd hid' (by decide)
  -- the device's look answers what the memory of marked devices says
  have hunmarked : claims.deviceId ∉ w.revoked := by
    rw [DeviceRevocationProvider.isDeviceRevoked_eq _ _ hnonempty] at hanswer
    rw [hdevice]
    exact of_decide_eq_false (hanswer.trans hunrevoked)
  refine .pure ⟨claims, hread, ⟨huser, hdevice, hfile, hoperation⟩, ?_, ?_⟩
  · exact ⟨_, mem_cons_of_mem _ mem_cons_self, by rw [hdevice], hunmarked⟩
  · exact ⟨_, mem_cons_self, rfl, hexpired⟩

theorem fetchChunk_reads (sha256Hex : Bytes → String) (fileId : String) (versionNumber : Int)
    (chunkIndex totalFileSize : Nat) :
    Trails exec (fun _ _ => True)
      (fun past chunk => chunk.chunkSizeBytes ≠ 0 → OctetsOf past fileId versionNumber chunk.encryptedData)
      (fetchChunk sha256Hex fileId versionNumber chunkIndex totalFileSize) past := by
  refine .bind (trails_orThrow fun range _ => ?_)
  split
  · exact .pure fun h => absurd rfl h
  refine .bind (trails_perform trivial fun x got w _ hgot => .bind (trails_rethrow fun body hbody => ?_))
  refine .pure fun _ => ⟨_, mem_cons_self, ?_⟩
  obtain ⟨hanswer, -⟩ := Prod.mk.inj (some.inj hgot)
  rw [hbody] at hanswer
  simp only [octetsRead, ↓reduceIte, reading_eq_ok hanswer]
  rfl

theorem getChunkVersioned_reads (sha256Hex : Bytes → String) (fileId : String) (chunkIndex : Nat)
    (callerUserId : String) :
    Trails exec (fun _ _ => True)
      (fun past chunk => chunk.chunkSizeBytes ≠ 0 → ReadActive past fileId chunk.encryptedData)
      (DownloadManager.getChunkVersioned sha256Hex fileId 0 chunkIndex callerUserId) past := by
  refine .bind (trails_query trivial fun x w => .bind (trails_orThrow fun file _ => ?_))
  refine .bind (.mono ?_ (Trails.under (I := fun _ => True) (fun _ _ _ _ => trivial) (fun _ _ _ _ _ _ => trivial)
    (hasReadPermission_quiet file fileId callerUserId) trivial))
  intro past' permitted _
  refine .bind (trails_check fun _ => .bind (trails_check fun _ => .bind ?_))
  refine trails_query trivial fun x' w' => ?_
  refine .bind (trails_orThrow fun version hversion => .bind (trails_rethrow fun _ _ => ?_))
  refine .mono ?_ (Trails.with_past (fetchChunk_reads sha256Hex fileId version.versionNumber chunkIndex _))
  rintro past'' chunk ⟨hlater, hread⟩ hsize
  exact ⟨_, hlater.subset mem_cons_self, version, rfl, hversion, hread hsize⟩

theorem downloadChunk_scoped (sha256Hex : Bytes → String) (service : FilesService)
    (request : DownloadChunkRequest) (hmanager : service.hasCapabilityManager = true)
    (htoken : (callerMetadata request.metadata).capabilityToken ≠ "") :
    (downloadChunk sha256Hex service request).Trails exec (fun _ _ => True)
      (fun past r => ∀ response, r = .ok response →
        ∃ claims, presented service.codec request = .ok claims ∧ Authorized past request claims ∧
          ReadActive past request.fileId response.encryptedData) past := by
  unfold downloadChunk
  split
  · exact .pure nofun
  rename_i peer _
  refine .bind (.mono ?_ (capabilityCheck_authorizes service request hmanager htoken).run)
  intro past' capability hcapability
  split
  · exact .pure nofun
  obtain ⟨claims, hread, hauthorized⟩ := hcapability _ rfl
  split
  · refine .bind (.mono ?_ (Trails.with_past
      (getChunkVersioned_reads sha256Hex request.fileId request.chunkIndex peer)).run)
    intro past'' fetched hfetched
    split
    · exact .pure nofun
    rename_i chunk
    obtain ⟨hlater, hactive⟩ := hfetched chunk rfl
    refine .pure fun response hresponse => ⟨claims, hread, hauthorized.later hlater, ?_⟩
    obtain ⟨hsize, hoctets⟩ := respond_eq_ok hresponse
    rw [hoctets]
    exact hactive hsize
  · exact .pure nofun

end

/-! ## What the looks leave out -/

/-- The condition on a step: the clock is not in the grace after the expiry, no revoked grant names
the device, a version the token names is active. -/
def InScope (codec : TokenCodec) (request : DownloadChunkRequest) (st : Step Statement Env World) :
    Prop :=
  match st.stmt with
  | .clock => ∀ claims ∈ (presented codec request).toOption,
      ¬ (claims.expiresAt < st.env.now ∧ st.env.now ≤ claims.expiresAt + clockSkewTolerance)
  | .isDeviceRevoked deviceId => ¬ GrantRevoked st.before deviceId
  | .select _ (.activeVersion fileId) => ∀ claims ∈ (presented codec request).toOption,
      0 < claims.fileVersion →
        ∀ v ∈ st.before.tables.findActiveVersion fileId, v.versionNumber = claims.fileVersion
  | _ => True

instance (codec : TokenCodec) (request : DownloadChunkRequest) (st : Step Statement Env World) :
    Decidable (InScope codec request st) := by
  unfold InScope; split <;> infer_instance

section
variable {codec : TokenCodec} {request : DownloadChunkRequest} {past : Past}
  {claims : FileAccessCapabilityClaims} {octets : Bytes}

theorem unexpired_of_inScope (hclaims : presented codec request = .ok claims)
    (hcond : ∀ st ∈ past, InScope codec request st) (h : Authorized past request claims) :
    Unexpired past claims := by
  obtain ⟨-, -, st, hst, hclock, hexpired⟩ := h
  have hscope := hcond st hst
  rw [InScope, hclock, hclaims] at hscope
  have hlate : st.env.now ≤ claims.expiresAt + clockSkewTolerance :=
    Int.not_lt.mp (of_decide_eq_false hexpired)
  refine ⟨st, hst, st.env.now, by rw [timeRead, hclock]; rfl, ?_⟩
  exact Int.not_lt.mp fun hafter => hscope claims rfl ⟨hafter, hlate⟩

theorem unrevoked_of_inScope (hcond : ∀ st ∈ past, InScope codec request st)
    (h : Authorized past request claims) : Unrevoked past claims := by
  obtain ⟨-, ⟨st, hst, hlook, hunmarked⟩, -⟩ := h
  have hscope := hcond st hst
  rw [InScope, hlook] at hscope
  exact ⟨st, hst, by rw [deviceAsked, hlook], fun hrevoked => hrevoked.elim hunmarked hscope⟩

theorem octetsOf_of_inScope (hclaims : presented codec request = .ok claims)
    (hcond : ∀ st ∈ past, InScope codec request st) (h : ReadActive past request.fileId octets)
    (hpinned : 0 < claims.fileVersion) : OctetsOf past request.fileId claims.fileVersion octets := by
  obtain ⟨st, hst, v, hlook, hactive, hoctets⟩ := h
  have hscope := hcond st hst
  rw [InScope, hlook, hclaims] at hscope
  rwa [hscope claims rfl hpinned v hactive] at hoctets

end

/-- **Octets are served only in the token's scope**: in every run of any calls side by side, if the steps of
the download meet the condition, a download that presents a token and is served octets has one that reads
well, is bound to the request, was not expired and not revoked when the call looked, and if it names a
version, the octets are of that version. -/
theorem served_only_in_scope {ι : Type} [DecidableEq ι] (sha256Hex : Bytes → String)
    (service : FilesService) (jobs : ι → Job) (w : World) (ms : List (ι × Env)) (d : Engine ι)
    (hmanager : service.hasCapabilityManager = true)
    (hrun : run (Call.advance exec) (Engine.start sha256Hex service jobs w) ms = some d)
    (i : ι) (request : DownloadChunkRequest) (hjob : jobs i = .downloadChunk request)
    (htoken : (callerMetadata request.metadata).capabilityToken ≠ "")
    (hcond : ∀ st ∈ (d.proc i).past, InScope service.codec request st)
    (response : DownloadChunkResponse)
    (hserved : (d.proc i).result = some (.served (.ok response))) :
    ∃ claims, presented service.codec request = .ok claims ∧ BoundTo claims request ∧
      Unexpired (d.proc i).past claims ∧ Unrevoked (d.proc i).past claims ∧
      (0 < claims.fileVersion →
        OctetsOf (d.proc i).past request.fileId claims.fileVersion response.encryptedData) := by
  have htrails : ∀ j, ((jobs j).program sha256Hex service).Trails exec (fun _ _ => True)
      (fun past r => j = i → ∀ response, r = .served (.ok response) →
        ∃ claims, presented service.codec request = .ok claims ∧ Authorized past request claims ∧
          ReadActive past request.fileId response.encryptedData) [] := by
    intro j
    by_cases hj : j = i
    · subst hj
      rw [hjob]
      refine .bind (.mono ?_ (downloadChunk_scoped sha256Hex service request hmanager htoken))
      intro past r hr
      exact .pure fun _ response hresponse => hr response (Reply.served.inj hresponse)
    · exact .mono (fun _ _ _ h => absurd h hj) .any
  obtain ⟨claims, hclaims, hauthorized, hactive⟩ := trails_result htrails hrun hserved rfl response rfl
  exact ⟨claims, hclaims, hauthorized.1, unexpired_of_inScope hclaims hcond hauthorized,
    unrevoked_of_inScope hcond hauthorized, octetsOf_of_inScope hclaims hcond hactive⟩

/-! ## A token for the first version

A file whose first version was recorded by hand and whose second one holds the uploaded octet. The
owner's device has tokens for either version, good for a minute. -/

namespace PinnedToken

open OneOctet (fileId uploadId ownerUserId sha256Hex creation chunk)

def claims (version : Int) : FileAccessCapabilityClaims where
  capabilityId := "00000000-0000-7000-8000-0000000000c1"
  userId := ownerUserId
  deviceId := creation.ownerDeviceId
  fileId
  fileVersion := version
  issuedAt := 0
  expiresAt := seconds 60

def codec : TokenCodec where
  keyId := ""
  sign := fun _ => "signature"
  verify := fun _ signature => signature == "signature"
  encode := id
  decode := some
  dump := fun doc => match doc.lookup "ver" with
    | none => "header"
    | some (.integer 1) => "first"
    | some _ => "second"
  parse := fun text =>
    if text = "header" then .ok [("alg", .string "EdDSA")]
    else .ok (FileCapabilitySerializer.payload (claims (if text = "first" then 1 else 2)))
  typeError := fun _ _ => ""

def service : FilesService where
  codec

def request (version : Int) : DownloadChunkRequest where
  peer := some (some "gateway")
  fileId
  chunkIndex := 0
  metadata :=
    [("x-user-id", ownerUserId), ("x-device-id", creation.ownerDeviceId),
      ("x-file-access-capability", FileCapabilitySerializer.serialize codec (claims version))]

def jobs : Nat → Job
  | 0 => .createFile creation 0
  | 1 => .createFileVersion
    { fileId, encryptedSizeBytes := 1, minioObjectKey := "objects/by-hand"
      checksumSha256 := sha256Hex [] } ""
  | 2 => .createSession uploadId fileId ownerUserId 1 1
  | 3 => .uploadChunk chunk
  | 4 => .finalizeFileUpload { uploadId }
  | 5 => .grantAccess { fileId, granteeUserId := ownerUserId, granteeDeviceId := some creation.ownerDeviceId }
  | 6 => .revokeAccess fileId ownerUserId
  | 7 => .downloadChunk (request 1)
  | _ => .downloadChunk (request 2)

def start : Engine Nat := .start sha256Hex service jobs { tables := {} }

def moves (call n : Nat) (now : TimePoint) : List (Nat × Env) := List.replicate n (call, { now })

def versioned : List (Nat × Env) :=
  moves 0 2 0 ++ moves 1 6 0 ++ moves 2 2 0 ++ moves 3 13 0 ++ moves 4 17 0

def served (d : Engine Nat) (call : Nat) (P : Past → Bytes → Prop)
    [∀ past octets, Decidable (P past octets)] : Option (Bytes × Bool) :=
  match (d.proc call).result with
  | some (.served (.ok response)) =>
    some (response.encryptedData, decide (P (d.proc call).past response.encryptedData))
  | _ => none

theorem exists_of_served (ms : List (Nat × Env)) (call : Nat) (P : Past → Bytes → Prop)
    [∀ past octets, Decidable (P past octets)] (octets : Bytes)
    (h : ((run (Call.advance exec) start ms).bind (served · call P)) = some (octets, true)) :
    ∃ d response, run (Call.advance exec) start ms = some d ∧
      (d.proc call).result = some (.served (.ok response)) ∧ response.encryptedData = octets ∧
      P (d.proc call).past response.encryptedData := by
  obtain ⟨d, hd, hserved⟩ := bind_eq_some_iff.mp h
  unfold served at hserved
  split at hserved
  next response hresult =>
    obtain ⟨hoctets, hP⟩ := Prod.mk.inj (some.inj hserved)
    exact ⟨d, response, hd, hresult, hoctets, of_decide_eq_true hP⟩
  · exact nomatch hserved

/-- **Outside the scope in every respect.** Half a minute after its expiry, with the grant of its device
revoked, the token for version 1 is served the octet of version 2. -/
theorem served_second_version :
    ∃ d response, run (Call.advance exec) start
        (versioned ++ moves 5 1 0 ++ moves 6 3 0 ++ moves 7 5 (seconds 90)) = some d ∧
      (d.proc 7).result = some (.served (.ok response)) ∧ response.encryptedData = [7] ∧
      presented codec (request 1) = .ok (claims 1) ∧
      ¬ Unexpired (d.proc 7).past (claims 1) ∧ ¬ Unrevoked (d.proc 7).past (claims 1) ∧
      ¬ OctetsOf (d.proc 7).past fileId 1 response.encryptedData ∧
      OctetsOf (d.proc 7).past fileId 2 response.encryptedData := by
  obtain ⟨d, response, hd, hresult, hoctets, hpast⟩ := exists_of_served
    (versioned ++ moves 5 1 0 ++ moves 6 3 0 ++ moves 7 5 (seconds 90)) 7
    (fun past octets => ¬ Unexpired past (claims 1) ∧ ¬ Unrevoked past (claims 1) ∧
      ¬ OctetsOf past fileId 1 octets ∧ OctetsOf past fileId 2 octets) [7] (by decide +kernel)
  exact ⟨d, response, hd, hresult, hoctets, by decide +kernel, hpast⟩

/-- The token for the active version, until it expires. -/
theorem served_in_scope :
    ∃ d response, run (Call.advance exec) start
        (versioned ++ moves 8 5 (seconds 60)) = some d ∧
      (d.proc 8).result = some (.served (.ok response)) ∧
      OctetsOf (d.proc 8).past fileId 2 response.encryptedData := by
  obtain ⟨d, response, hd, hresult, -, hcond⟩ := exists_of_served
    (versioned ++ moves 8 5 (seconds 60)) 8 (fun past _ => ∀ st ∈ past, InScope codec (request 2) st) [7]
    (by decide +kernel)
  have hclaims : presented codec (request 2) = .ok (claims 2) := by decide +kernel
  obtain ⟨claims', hclaims', -, -, -, hoctets⟩ := served_only_in_scope sha256Hex service jobs
    { tables := {} } _ d rfl hd 8 (request 2) rfl (by decide +kernel) hcond response hresult
  obtain rfl := Except.ok.inj (hclaims.symm.trans hclaims')
  exact ⟨d, response, hd, hresult, hoctets (by decide)⟩

end PinnedToken

end SecureCloud.Files
