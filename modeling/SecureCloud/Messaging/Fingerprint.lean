import SecureCloud.Lib.Getline
import SecureCloud.Messaging.Validation

/-
# Messaging.Fingerprint — what a fingerprint tells apart

The fingerprint of a submission decides whether a second use of an idempotency token is the SAME message. It
hashes the conversation, the sender, the priority, and of each target the device and the hash of the
ciphertext: nothing of the user, the algorithm, the IV, the tag and the ephemeral key. The parts are joined
with `|`, `;` and `:`, which device ids may contain, too.
-/

namespace SecureCloud.Messaging

open Lib Getline MessageSubmissionCommand List

/-! ## Pieces -/

section
variable {α : Type*} {d : α}

theorem separated_eq_intercalate (pieces : List (List α)) :
    separated d pieces = [d].intercalate pieces := by
  induction pieces with
  | nil => rfl
  | cons piece pieces ih =>
    cases pieces with
    | nil => simp [separated, intercalate]
    | cons next pieces => simpa [separated, intercalate] using ih

theorem append_cons_inj [DecidableEq α] {x y z w : List α} (hx : d ∉ x) (hy : d ∉ y)
    (h : x ++ d :: z = y ++ d :: w) : x = y ∧ z = w := by
  have hlines := congrArg (getlines d) h
  rw [getlines_append_cons hx, getlines_append_cons hy] at hlines
  obtain rfl : x = y := (cons.inj hlines).1
  exact ⟨rfl, (cons.inj (append_cancel_left h)).2⟩

end

theorem map_eq_of_map_eq {α β γ : Type*} {f : α → β} {g : α → γ} {l l' : List α}
    (hfg : ∀ a ∈ l, ∀ b ∈ l', f a = f b → g a = g b) (h : l.map f = l'.map f) : l.map g = l'.map g := by
  induction l generalizing l' with
  | nil => rw [map_eq_nil_iff.mp h.symm]
  | cons a l ih =>
    cases l' with
    | nil => cases h
    | cons b l' =>
      obtain ⟨hhead, htail⟩ := cons.inj h
      rw [map_cons, map_cons, hfg a mem_cons_self b mem_cons_self hhead, ih (fun x hx y hy =>
        hfg x (mem_cons_of_mem _ hx) y (mem_cons_of_mem _ hy)) htail]

/-! ## What a fingerprint should tell apart -/

structure TargetContent where
  recipientUserId : UserId
  recipientDeviceId : DeviceId
  algorithm : String
  ciphertextBlob : Bytes
  iv : Bytes
  authTag : Bytes
  ephemeralPublicKey : Bytes
deriving DecidableEq

def DeviceDeliveryTarget.content (t : DeviceDeliveryTarget) : TargetContent :=
  ⟨t.recipientUserId, t.recipientDeviceId, t.algorithm, t.ciphertextBlob, t.iv, t.authTag,
    t.ephemeralPublicKey⟩

/-- The same message, up to the order of its targets. The text of a conversation spells its 16
bytes. -/
def MessageSubmissionCommand.SameMessage (a b : MessageSubmissionCommand) : Prop :=
  a.conversationId.toString = b.conversationId.toString ∧ a.senderDeviceId = b.senderDeviceId ∧
    a.priority = b.priority ∧
    (a.deliveryTargets.map (·.content)).Perm (b.deliveryTargets.map (·.content))

structure CollisionFree (sha256Hex : Bytes → String) : Prop where
  injective : Function.Injective sha256Hex
  hex : ∀ x, ∀ c ∈ (sha256Hex x).toList, c ∈ "0123456789abcdef".toList

/-- Ids without separators. -/
structure MessageSubmissionCommand.Plain (cmd : MessageSubmissionCommand) : Prop where
  sender : '|' ∉ cmd.senderDeviceId.toList
  devices : ∀ t ∈ cmd.deliveryTargets, ':' ∉ t.recipientDeviceId.toList ∧ ';' ∉ t.recipientDeviceId.toList

/-! ## The canonical text -/

variable {sha256Hex : Bytes → String} {a b : MessageSubmissionCommand}

instance : Std.Total targetLe where
  total s t := by
    unfold targetLe
    rcases lt_trichotomy s.recipientDeviceId t.recipientDeviceId with h | h | h
    · exact .inl (.inl h)
    · exact (le_total s.recipientUserId t.recipientUserId).imp (fun hu => .inr ⟨h, hu⟩)
        fun hu => .inr ⟨h.symm, hu⟩
    · exact .inr (.inl h)

instance : IsTrans DeviceDeliveryTarget targetLe where
  trans r s t := by
    rintro (h | ⟨h, hu⟩) (h' | ⟨h', hu'⟩)
    · exact .inl (h.trans h')
    · exact .inl (h' ▸ h)
    · exact .inl (h ▸ h')
    · exact .inr ⟨h.trans h', hu.trans hu'⟩

variable (cmd : MessageSubmissionCommand)

def MessageSubmissionCommand.sorted : List TargetContent :=
  (cmd.deliveryTargets.insertionSort targetLe).map (·.content)

/-- What of a target is hashed. -/
def TargetContent.hashed (t : TargetContent) : DeviceId × Bytes := (t.recipientDeviceId, t.ciphertextBlob)

def TargetContent.text (sha256Hex : Bytes → String) (t : TargetContent) : List Char :=
  t.recipientDeviceId.toList ++ ':' :: (sha256Hex t.ciphertextBlob).toList

theorem sorted_perm : cmd.sorted.Perm (cmd.deliveryTargets.map (·.content)) :=
  (perm_insertionSort _ _).map _

theorem sorted_eq_iff (hnodup : (a.deliveryTargets.map (·.recipientDeviceId)).Nodup) :
    a.sorted = b.sorted ↔
      (a.deliveryTargets.map (·.content)).Perm (b.deliveryTargets.map (·.content)) := by
  constructor
  · intro h
    exact (sorted_perm a).symm.trans (h ▸ sorted_perm b)
  intro h
  have hsorted : ∀ cmd : MessageSubmissionCommand, cmd.sorted.Pairwise fun s t =>
      s.recipientDeviceId ≤ t.recipientDeviceId := by
    intro cmd
    refine pairwise_map.mpr ((pairwise_insertionSort _ _).imp fun hle => ?_)
    rcases hle with hlt | ⟨heq, -⟩
    · exact hlt.le
    · exact heq.le
  have hperm := (sorted_perm a).trans (h.trans (sorted_perm b).symm)
  refine List.Perm.eq_of_pairwise (fun s t hs ht hst hts => ?_) (hsorted a) (hsorted b) hperm
  have hdevices : ((a.deliveryTargets.map (·.content)).map (·.recipientDeviceId)).Nodup := by
    rwa [map_map]
  exact inj_on_of_nodup_map hdevices ((sorted_perm a).mem_iff.mp hs)
    ((sorted_perm a).mem_iff.mp (hperm.mem_iff.mpr ht)) (le_antisymm hst hts)

/-! ## Reading the canonical text back -/

theorem CollisionFree.not_mem (h : CollisionFree sha256Hex) (x : Bytes) {c : Char}
    (hc : c ∉ "0123456789abcdef".toList) : c ∉ (sha256Hex x).toList :=
  fun hmem => hc (h.hex x c hmem)

theorem not_mem_uuidText (bits : Nat) : '|' ∉ (uuidText bits).toList := by
  have hdigit : ∀ n < 16, Nat.digitChar n ≠ '|' := by decide
  have hslice : ∀ k n, '|' ∉ ((((range 32).map fun i =>
      Nat.digitChar (bits / 16 ^ (31 - i) % 16)).drop k).take n) := by
    intro k n hmem
    obtain ⟨i, -, hi⟩ := mem_map.mp (mem_of_mem_drop (mem_of_mem_take hmem))
    exact hdigit _ (Nat.mod_lt _ (by decide)) hi
  simpa [uuidText, hslice] using hslice 0 8

theorem eq_of_utf8 {s t : String} (h : s.toUTF8.data.toList = t.toUTF8.data.toList) : s = t :=
  String.toByteArray_inj.mp (ByteArray.ext (Array.toList_inj.mp h))

def MessageSubmissionCommand.canonical (sha256Hex : Bytes → String) (cmd : MessageSubmissionCommand) :
    List Char :=
  cmd.conversationId.toString.toList ++ '|' :: (cmd.senderDeviceId.toList ++ '|' ::
    (cmd.priority.toString.toList ++ '|' :: [';'].intercalate (cmd.sorted.map (·.text sha256Hex))))

open TargetContent DeviceDeliveryTarget

theorem fingerprint_eq : calculateSubmissionFingerprint sha256Hex cmd =
    sha256Hex (String.ofList (cmd.canonical sha256Hex)).toUTF8.data.toList := by
  have hsame : ∀ s t : String, s.toList = t.toList →
      sha256Hex s.toUTF8.data.toList = sha256Hex t.toUTF8.data.toList := by
    intro s t h
    rw [String.toList_inj.mp h]
  apply hsame
  simp [canonical, sorted, text,
    content, String.toList_intercalate, Function.comp_def]

/-- All that is hashed agrees. -/
def MessageSubmissionCommand.SameHashed (a b : MessageSubmissionCommand) : Prop :=
  a.conversationId.toString = b.conversationId.toString ∧ a.senderDeviceId = b.senderDeviceId ∧
    a.priority = b.priority ∧ a.sorted.map (·.hashed) = b.sorted.map (·.hashed)

/-- The text says what it was put together from, where the ids have no separators. -/
theorem canonical_inj (hsha : CollisionFree sha256Hex) (ha : a.Plain) (hb : b.Plain)
    (h : a.canonical sha256Hex = b.canonical sha256Hex) : a.SameHashed b := by
  have hpriority : ∀ p q : MessagePriority, '|' ∉ p.toString.toList ∧
      (p.toString.toList = q.toString.toList → p = q) := by
    intro p q
    cases p <;> cases q <;> decide
  obtain ⟨hconv, h⟩ := append_cons_inj (not_mem_uuidText _) (not_mem_uuidText _) h
  obtain ⟨hsender, h⟩ := append_cons_inj ha.sender hb.sender h
  obtain ⟨hprio, h⟩ := append_cons_inj (hpriority _ .normal).1 (hpriority _ .normal).1 h
  refine ⟨String.toList_inj.mp hconv, String.toList_inj.mp hsender, (hpriority _ _).2 hprio, ?_⟩
  -- the texts of the targets are the pieces between the semicolons
  have hpieces : ∀ {cmd : MessageSubmissionCommand}, cmd.Plain →
      getlines ';' ([';'].intercalate (cmd.sorted.map (·.text sha256Hex))) =
        cmd.sorted.map (·.text sha256Hex) := by
    intro cmd hplain
    rw [← separated_eq_intercalate]
    apply getlines_separated
    · intro piece hpiece
      obtain ⟨t, ht, rfl⟩ := mem_map.mp hpiece
      obtain ⟨target, htarget, rfl⟩ := mem_map.mp ((sorted_perm cmd).mem_iff.mp ht)
      have hdevice := (hplain.devices target htarget).2
      have hhash := hsha.not_mem target.ciphertextBlob (c := ';') (by decide)
      simp [text, content, hdevice, hhash]
    intro piece hpiece
    obtain ⟨t, -, rfl⟩ := mem_map.mp (mem_of_getLast? hpiece)
    simp [text]
  have hmap := congrArg (getlines ';') h
  rw [hpieces ha, hpieces hb] at hmap
  refine map_eq_of_map_eq (fun s hs t ht hst => ?_) hmap
  obtain ⟨s, hs', rfl⟩ := mem_map.mp ((sorted_perm a).mem_iff.mp hs)
  obtain ⟨t, ht', rfl⟩ := mem_map.mp ((sorted_perm b).mem_iff.mp ht)
  obtain ⟨hdevice, hhash⟩ := append_cons_inj (ha.devices s hs').1 (hb.devices t ht').1 hst
  exact Prod.ext (String.toList_inj.mp hdevice) (hsha.injective (String.toList_inj.mp hhash))

theorem canonical_congr (h : a.SameHashed b) : a.canonical sha256Hex = b.canonical sha256Hex := by
  obtain ⟨hconv, hsender, hprio, hhashed⟩ := h
  have htexts : a.sorted.map (·.text sha256Hex) = b.sorted.map (·.text sha256Hex) := by
    refine map_eq_of_map_eq (fun s _ t _ hst => ?_) hhashed
    obtain ⟨hdevice, hcipher⟩ := Prod.mk.inj hst
    rw [text, hdevice, hcipher, text]
  rw [canonical, canonical, hconv, hsender, hprio, htexts]

theorem fingerprint_eq_iff (hsha : CollisionFree sha256Hex) :
    calculateSubmissionFingerprint sha256Hex a = calculateSubmissionFingerprint sha256Hex b ↔
      a.canonical sha256Hex = b.canonical sha256Hex := by
  rw [fingerprint_eq, fingerprint_eq]
  refine ⟨fun h => ?_, fun h => by rw [h]⟩
  have hlist := congrArg String.toList (eq_of_utf8 (hsha.injective h))
  rwa [String.toList_ofList, String.toList_ofList] at hlist

/-- **Equal fingerprints, the same message**: for an accepted command and any other this holds exactly when
the same hashed text means the same message. For ids without separators the hashed texts are the same if
conversation, sender and priority are, and each target's device and ciphertext. -/
theorem fingerprint_exact (hsha : CollisionFree sha256Hex) {now : TimePoint}
    (ha : validateSubmission now a = none) :
    ((calculateSubmissionFingerprint sha256Hex a = calculateSubmissionFingerprint sha256Hex b ↔
        a.SameMessage b) ↔
      (a.canonical sha256Hex = b.canonical sha256Hex → a.SameMessage b)) ∧
    (a.Plain → b.Plain → (a.canonical sha256Hex = b.canonical sha256Hex ↔ a.SameHashed b)) := by
  refine ⟨?_, fun hplain hplain' => ⟨canonical_inj hsha hplain hplain', canonical_congr⟩⟩
  rw [fingerprint_eq_iff hsha]
  refine ⟨Iff.mp, fun h => ⟨h, ?_⟩⟩
  rintro ⟨hconv, hsender, hprio, hperm⟩
  have hsorted := (sorted_eq_iff (validateSubmission_eq_none ha).2.1).mpr hperm
  exact canonical_congr ⟨hconv, hsender, hprio, by rw [hsorted]⟩

/-! ## A message, and another one -/

namespace FingerprintSample

def unary (x : Bytes) : String := String.ofList (x.flatMap fun n => List.replicate n.toNat '1' ++ ['0'])

theorem unary_collisionFree : CollisionFree unary := by
  refine ⟨fun x y h => ?_, fun x c hc => ?_⟩
  · have hlines := congrArg (fun s => getlines '0' s.toList) h
    have hread : ∀ z : Bytes, getlines '0' (unary z).toList =
        z.map fun n => replicate n.toNat '1' := by
      intro z
      have hone : ∀ piece ∈ z.map fun n => replicate n.toNat '1', '0' ∉ piece := by simp
      rw [← getlines_flatMap hone]
      simp [unary, flatMap_map]
    simp only [hread] at hlines
    rw [← map_id x, ← map_id y]
    refine map_eq_of_map_eq (fun m _ n _ hmn => ?_) hlines
    simpa [UInt8.toNat_inj] using congrArg length hmn
  simp only [unary, String.toList_ofList, mem_flatMap, mem_append, mem_replicate,
    mem_singleton] at hc
  obtain ⟨n, -, ⟨-, rfl⟩ | rfl⟩ := hc <;> decide

def target (device : DeviceId) (iv : UInt8) : DeviceDeliveryTarget where
  recipientUserId := "01234567-89ab-cdef-0123-456789abcdef"
  recipientDeviceId := device
  ciphertextBlob := [7]
  ephemeralPublicKey := [1]
  iv := List.replicate 24 iv
  authTag := List.replicate 16 0

def command (targets : List DeviceDeliveryTarget) : MessageSubmissionCommand where
  callerUserId := "01234567-89ab-cdef-0123-456789abcdef"
  senderDeviceId := "phone"
  conversationId := ⟨7⟩
  clientIdempotencyToken := "token"
  deliveryTargets := targets

end FingerprintSample

open FingerprintSample

/-- The order of the targets does not matter. -/
theorem reordered_targets_same :
    calculateSubmissionFingerprint unary (command [target "a" 0, target "b" 0]) =
      calculateSubmissionFingerprint unary (command [target "b" 0, target "a" 0]) := by
  have hsame : (command [target "a" 0, target "b" 0]).SameMessage (command [target "b" 0, target "a" 0]) :=
    ⟨rfl, rfl, rfl, .swap _ _ _⟩
  exact (@fingerprint_exact _ _ _ unary_collisionFree 0 (by decide)).1.mpr (fun _ => hsame) |>.mpr hsame

/-- **Another IV, the same fingerprint**, whatever the hash. -/
theorem changed_iv_same_fingerprint : validateSubmission 0 (command [target "a" 0]) = none ∧
      validateSubmission 0 (command [target "a" 1]) = none ∧
      (∀ sha256Hex : Bytes → String,
        calculateSubmissionFingerprint sha256Hex (command [target "a" 0]) =
          calculateSubmissionFingerprint sha256Hex (command [target "a" 1])) ∧
      ¬ (command [target "a" 0]).SameMessage (command [target "a" 1]) :=
  ⟨by decide, by decide, fun _ => rfl, fun h => absurd h.2.2.2 (by decide)⟩

end SecureCloud.Messaging
