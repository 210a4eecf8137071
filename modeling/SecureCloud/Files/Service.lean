import SecureCloud.Files.Capability
import SecureCloud.Lib.Trail

/-
# Files.Service — what the file service's calls share, one statement at a time

The calls of the service are programs (`Lib.Program`) over the statements of this module: a query or a
write of a transaction, its commit, a request to the object store, a look at the revoked devices or the
clock.

THE WORLD CHANGES ONLY by a commit, by the statement that clears `is_active` at once, by a request to the
object store, by marking a device, and by taking or leaving the lock of an upload session.
-/

namespace SecureCloud.Files

open Lib.Program

/-! ## Queries and writes of a transaction -/

inductive Query
  | file (fileId : String)
  | grant (fileId userId : String)
  | transfer (transferId : String)
  | activeVersion (fileId : String)
  | versions (fileId : String)
  | chunks (transferId : String)
  | chunkCount (transferId : String)
  | chunkHash (transferId : String) (chunkIndex : Int)
  | expiredFiles (now : TimePoint) (limit : Nat)

abbrev Query.Answer : Query → Type
  | file _ => Option FileEntity
  | grant _ _ => Option FileAccessEntity
  | transfer _ => Option FileTransferEntity
  | activeVersion _ => Option FileVersionEntity
  | versions _ => List FileVersionEntity
  | chunks _ => List FileChunkEntity
  | chunkCount _ => Int
  | chunkHash _ _ => Option String
  | expiredFiles _ _ => List FileEntity

def Query.answer (t : Tables) : (q : Query) → q.Answer
  | file fileId => t.findFile fileId
  | grant fileId userId => t.findGrant fileId userId
  | transfer transferId => t.findTransfer transferId
  | activeVersion fileId => t.findActiveVersion fileId
  | versions fileId => t.listVersions fileId
  | chunks transferId => t.listChunksForTransfer transferId
  | chunkCount transferId => t.countAcceptedChunks transferId
  | chunkHash transferId chunkIndex =>
    (t.chunks.find (transferId, chunkIndex)).map FileChunkEntity.chunkHashSha256
  | expiredFiles now limit => t.findExpiredFiles now limit

inductive Update
  | fileStatus (fileId : String) (expected new : FileStatus)
  | transferStatus (transferId : String) (status : TransferStatus)
  | progress (transferId : String) (bytesAdded : Int)
  | version (v : FileVersionEntity)
  | chunk (c : FileChunkEntity)
  | revokeGrant (now : TimePoint) (fileId userId : String)

abbrev Update.Answer : Update → Type
  | fileStatus _ _ _ => Bool × Tables
  | transferStatus _ _ => Tables
  | progress _ _ => Tables
  | version _ => Except FilesException Tables
  | chunk _ => Bool × Tables
  | revokeGrant _ _ _ => Bool × Tables

def Update.answer (store work : Tables) : (u : Update) → u.Answer
  | fileStatus fileId expected new => store.setFileStatus work fileId expected new
  | transferStatus transferId status => store.updateTransferStatus work transferId status
  | progress transferId bytesAdded => store.incrementChunkProgress work transferId bytesAdded
  | version v => store.insertVersion work v
  | chunk c => store.insertChunk work c
  | revokeGrant now fileId userId => store.revokeGrant work now fileId userId

/-! ## Statements -/

structure World where
  tables : Tables
  objects : Objects := fun _ => none
  revoked : RevokedDevices := ∅
  /-- The upload sessions whose mutex is held. -/
  locked : Finset String := ∅

/-- How a request to the object store ends: done; failed without effect; done, though the client sees a
failure. -/
inductive S3Outcome
  | done
  | failed (e : FilesException)
  | lost (e : FilesException)

structure Env where
  now : TimePoint
  s3 : S3Outcome := .done

inductive Statement
  | clock
  | lockSession (uploadId : String)
  | unlockSession (uploadId : String)
  | isDeviceRevoked (deviceId : String)
  | markDeviceRevoked (deviceId : String)
  | clearRevocation (deviceId : String)
  | select (work : Tables) (q : Query)
  | stage (work : Tables) (u : Update)
  | deactivateOtherVersions (work : Tables) (fileId : String) (versionNumber : Int)
  | commit (work : Tables)
  | putObject (key : ObjectKey) (payload : Bytes)
  | getObject (key : ObjectKey)
  | getObjectRange (key : ObjectKey) (startByte endByte : Nat)
  | deleteObject (key : ObjectKey)

namespace Statement

abbrev Resp : Statement → Type
  | clock => TimePoint
  | lockSession _ => Unit
  | unlockSession _ => Unit
  | isDeviceRevoked _ => Bool
  | markDeviceRevoked _ => Unit
  | clearRevocation _ => Unit
  | select _ q => q.Answer
  | stage _ u => u.Answer
  | deactivateOtherVersions _ _ _ => Tables
  | commit _ => Unit
  | putObject _ _ => Except FilesException Unit
  | getObject _ => Except FilesException Bytes
  | getObjectRange _ _ _ => Except FilesException Bytes
  | deleteObject _ => Unit

def reading (x : Env) (answer : Except FilesException Bytes) : Except FilesException Bytes :=
  match x.s3 with
  | .done => answer
  | .failed e => .error e
  | .lost e => .error e

/-- What a statement does. Only taking the lock of a session that is held has to wait. -/
def exec : (l : Statement) → Env → World → Option (l.Resp × World)
  | clock, x, w => some (x.now, w)
  | lockSession uploadId, _, w =>
    if uploadId ∈ w.locked then none
    else some ((), { w with locked := insert uploadId w.locked })
  | unlockSession uploadId, _, w => some ((), { w with locked := w.locked.erase uploadId })
  | isDeviceRevoked deviceId, _, w =>
    let r := DeviceRevocationProvider.isDeviceRevoked w.revoked w.tables deviceId
    some (r.1, { w with revoked := r.2 })
  | markDeviceRevoked deviceId, _, w =>
    some ((), { w with revoked := DeviceRevocationProvider.markDeviceRevoked w.revoked deviceId })
  | clearRevocation deviceId, _, w =>
    some ((), { w with revoked := DeviceRevocationProvider.clearRevocation w.revoked deviceId })
  | select work q, _, w => some (q.answer (w.tables.merge work), w)
  | stage work u, _, w => some (u.answer w.tables work, w)
  | deactivateOtherVersions work fileId versionNumber, _, w =>
    let r := w.tables.deactivateOtherVersions work fileId versionNumber
    some (r.2, { w with tables := r.1 })
  | commit work, _, w => some ((), { w with tables := w.tables.merge work })
  | putObject key payload, x, w =>
    match x.s3 with
    | .done => some (.ok (), { w with objects := w.objects.put key payload })
    | .failed e => some (.error e, w)
    | .lost e => some (.error e, { w with objects := w.objects.put key payload })
  | getObject key, x, w => some (reading x (w.objects.get key), w)
  | getObjectRange key startByte endByte, x, w =>
    some (reading x (w.objects.getRange key startByte endByte), w)
  | deleteObject key, x, w =>
    match x.s3 with
    | .done => some ((), { w with objects := w.objects.delete key })
    | .failed _ => some ((), w)
    | .lost _ => some ((), { w with objects := w.objects.delete key })

end Statement

open Statement

/-! ## Programs of the service -/

abbrev Program := ExceptT FilesException (Prog Statement Statement.Resp)

def perform (l : Statement) : Program l.Resp :=
  liftM (Prog.perform l : Prog Statement Statement.Resp l.Resp)

variable (work : Tables)

def query (q : Query) : Program q.Answer := perform (.select work q)

def stage (u : Update) : Program u.Answer := perform (.stage work u)

def check (p : Prop) [Decidable p] (kind : ExceptionKind) (what : String) : Program Unit :=
  if p then pure () else throw ⟨kind, what⟩

def orThrow {α : Type} (kind : ExceptionKind) (what : String) : Option α → Program α
  | some a => pure a
  | none => throw ⟨kind, what⟩

def rethrow {α : Type} : Except FilesException α → Program α
  | .ok a => pure a
  | .error e => throw e

/-- `FileRepository::update_status`, where the answer is used. -/
def tryUpdateFileStatus (fileId : String) (expected new : FileStatus) :
    Program (Bool × Tables) := do
  check (isValidStateTransition expected new = true) .invalidStateTransition
    s!"Illegal state transition from {expected.toString} to {new.toString}"
  stage work (.fileStatus fileId expected new)

/-- `FileRepository::update_status`, where it is not. -/
def updateFileStatus (fileId : String) (expected new : FileStatus) : Program Tables := do
  check (isValidStateTransition expected new = true) .invalidStateTransition
    s!"Illegal state transition from {expected.toString} to {new.toString}"
  let (_, work) ← stage work (.fileStatus fileId expected new)
  return work

/-- `FileVersionRepository::create_version`, for an active version. -/
def createVersion (version : FileVersionEntity) : Program Tables := do
  check (version.fileId ≠ "") .repository "Version ID and File ID must not be empty"
  check (0 < version.versionNumber) .repository "Version number must be positive"
  let inserted ← stage work (.version version)
  let work ← rethrow inserted
  perform (.deactivateOtherVersions work version.fileId version.versionNumber)

/-- A body under the mutex of an upload session, which is left however the body ends. -/
def withSession {α : Type} (uploadId : String) (body : Program α) : Program α := do
  perform (.lockSession uploadId)
  let outcome ← (liftM body.run : Program (Except FilesException α))
  perform (.unlockSession uploadId)
  rethrow outcome

/-! ## Rules for the programs

What a program of the service owes at its statements (`Lib.Trail`), one rule for each of the pieces
above. -/

abbrev Past := List (Step Statement Env World)

section
variable {O : Past → Statement → Prop} {past : Past} {α : Type}

theorem trails_check {p : Prop} [Decidable p] {kind : ExceptionKind} {what : String}
    {Q : Past → Unit → Prop} (h : p → Q past ()) :
    Trails exec O Q (check p kind what) past := by
  unfold check
  split
  · exact .pure (h ‹p›)
  · exact .throw

variable {Q : Past → α → Prop}

theorem trails_orThrow {kind : ExceptionKind} {what : String} {o : Option α}
    (h : ∀ a, o = some a → Q past a) :
    Trails exec O Q (orThrow kind what o) past := by
  cases o with
  | none => exact .throw
  | some a => exact .pure (h a rfl)

theorem trails_rethrow {r : Except FilesException α}
    (h : ∀ a, r = .ok a → Q past a) : Trails exec O Q (rethrow r) past := by
  cases r with
  | error e => exact .throw
  | ok a => exact .pure (h a rfl)

theorem trails_perform {l : Statement} {Q : Past → l.Resp → Prop} (howed : O past l)
    (h : ∀ x r w w', l.exec x w = some (r, w') → Q (⟨l, x, w⟩ :: past) r) :
    Trails exec O Q (perform l) past :=
  Trails.perform howed h

theorem trails_query {work : Tables} {q : Query} {Q : Past → q.Answer → Prop}
    (howed : O past (.select work q))
    (h : ∀ x w, Q (⟨.select work q, x, w⟩ :: past) (q.answer (w.tables.merge work))) :
    Trails exec O Q (query work q) past := by
  refine trails_perform howed ?_
  intro x r w w' hexec
  cases hexec
  exact h x w

theorem trails_stage {work : Tables} {u : Update} {Q : Past → u.Answer → Prop}
    (howed : O past (.stage work u))
    (h : ∀ x w, Q (⟨.stage work u, x, w⟩ :: past) (u.answer w.tables work)) :
    Trails exec O Q (stage work u) past := by
  refine trails_perform howed ?_
  intro x r w w' hexec
  cases hexec
  exact h x w

theorem trails_withSession {uploadId : String} {body : Program α}
    (hlock : O past (.lockSession uploadId)) (hunlock : ∀ past, O past (.unlockSession uploadId))
    (hbody : ∀ x w, Trails exec O
      (fun past a => ∀ x w, Q (⟨.unlockSession uploadId, x, w⟩ :: past) a) body
      (⟨.lockSession uploadId, x, w⟩ :: past)) :
    Trails exec O Q (withSession uploadId body) past := by
  refine .bind (trails_perform hlock ?_)
  intro x _ w _ _
  refine .bind (Trails.lift ((hbody x w).run.mono ?_))
  intro past' outcome houtcome
  refine .bind (trails_perform (hunlock past') ?_)
  intro x' _ w' _ _
  exact trails_rethrow fun a ha => houtcome a ha x' w'

end

/-! ## The service object -/

/-- What `FilesServiceImpl` was constructed with, and what its concurrency limits answer. -/
structure FilesService where
  expectedClientIdentity : String := ""
  codec : TokenCodec
  hasCapabilityManager : Bool := true
  hasDownloadManager : Bool := true
  uploadPermit : Bool := true
  uploadDomain : String := "upload"
  downloadPermit : Bool := true
  downloadDomain : String := "download"
  maxChunkRequestBytes : Nat := 5 * 1024 * 1024
  memoryReserved : Bool := true

namespace FilesService

def checkPeerAuthorization (service : FilesService) (peer : Option (Option String)) :
    Except GrpcStatus String :=
  if service.expectedClientIdentity ≠ "" then
    match peer with
    | none => .error ⟨.unauthenticated, "Mutual TLS peer authentication required"⟩
    | some identity =>
      if identity = some service.expectedClientIdentity then .ok service.expectedClientIdentity
      else .error ⟨.permissionDenied, "Caller peer identity not authorized"⟩
  else match peer with
    | some identity => .ok (identity.getD "authenticated_peer")
    | none => .ok "unauthenticated"

end FilesService

end SecureCloud.Files
