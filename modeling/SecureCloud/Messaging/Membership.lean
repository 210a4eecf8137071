import SecureCloud.Lib.Checks
import SecureCloud.Lib.Machine
import SecureCloud.Messaging.Conversations

/-
# Messaging.Membership — every live group has an admin

A run is any sequence of creations, additions, removals, departures and title changes, each call ATOMIC
and by any caller.

A direct conversation is frozen from its creation on. In a group the last admin is held back as long as
anybody else is active, and whoever comes back has the role they had, so a group without an admin is a group
without participants.
-/

namespace SecureCloud.Messaging

open Lib Lib.Checks Function List Option

/-! ## What the verdicts say about the tables -/

namespace ConversationStore

variable (s : ConversationStore) (id : ConversationId)

def IsGroup : Prop :=
  ∃ conv, s.conversations id = some conv ∧ conv.type = .group

def Active (user : UserId) : Prop :=
  ∃ p, s.findParticipant id user = some p ∧ p.status = .active

def ActiveAdmin (user : UserId) : Prop :=
  ∃ p, s.findParticipant id user = some p ∧ p.status = .active ∧ p.role = .admin

variable {s : ConversationStore} {caller target : UserId} {id : ConversationId}

variable {p : ConversationParticipantEntity}

open Table.Keyed

theorem mem_listActiveParticipants : p ∈ s.listActiveParticipants id ↔
      s.findParticipant id p.userId = some p ∧ p.status = .active := by
  simp only [listActiveParticipants, listParticipants, mem_filter, decide_eq_true_eq,
    mem_rows_iff]
  constructor
  · rintro ⟨⟨hfind, rfl⟩, hstatus⟩
    exact ⟨hfind, hstatus⟩
  rintro ⟨hfind, hstatus⟩
  have hkey : p.key = (id, p.userId) := key_of_find hfind
  obtain rfl : p.conversationId = id := congrArg Prod.fst hkey
  exact ⟨⟨hfind, rfl⟩, hstatus⟩

theorem userId_of_findParticipant (h : s.findParticipant id target = some p) : p.userId = target :=
  congrArg Prod.snd (key_of_find h : p.key = (id, target))

theorem active_iff_listed :
    s.Active id target ↔ ∃ p ∈ s.listActiveParticipants id, p.userId = target := by
  simp only [mem_listActiveParticipants]
  constructor
  · rintro ⟨p, hfind, hstatus⟩
    obtain rfl := userId_of_findParticipant hfind
    exact ⟨p, ⟨hfind, hstatus⟩, rfl⟩
  · rintro ⟨p, ⟨hfind, hstatus⟩, rfl⟩
    exact ⟨p, hfind, hstatus⟩

theorem activeAdmin_of_listed (hp : p ∈ s.listActiveParticipants id) (hrole : p.role = .admin) :
    s.ActiveAdmin id p.userId := by
  obtain ⟨hfind, hstatus⟩ := mem_listActiveParticipants.mp hp
  exact ⟨p, hfind, hstatus, hrole⟩

variable {conv : ConversationEntity}

theorem existing_eq_ok :
    s.existing id = .ok conv ↔ s.conversations id = some conv := by
  unfold existing findConversationById
  split <;> simp_all

theorem existingGroup_eq_ok {whenDirect : String} :
    s.existingGroup id whenDirect = .ok () ↔ s.IsGroup id := by
  simp only [existingGroup, bind_eq_ok, existing_eq_ok]
  refine exists_congr fun conv => and_congr_right fun _ => ?_
  cases htype : conv.type <;> simp

theorem activeParticipant_eq_ok : s.activeParticipant caller id = .ok p ↔
      s.findParticipant id caller = some p ∧ p.status = .active := by
  unfold activeParticipant
  split
  · simp_all
  rename_i q hq
  rw [hq]
  by_cases hstatus : q.status = .active
  · rw [if_pos hstatus]
    constructor
    · intro h
      cases h
      exact ⟨rfl, hstatus⟩
    · rintro ⟨h, -⟩
      rw [some.inj h]
  rw [if_neg hstatus]
  constructor
  · intro h
    exact nomatch h
  rintro ⟨h, hp⟩
  exact absurd (some.inj h ▸ hp) hstatus

theorem activeAdmin_eq_ok {whenMember : String} :
    s.activeAdmin caller id whenMember = .ok () ↔ s.ActiveAdmin id caller := by
  simp only [activeAdmin, bind_eq_ok, activeParticipant_eq_ok, and_assoc]
  refine exists_congr fun p => and_congr_right fun _ => and_congr_right fun _ => ?_
  cases hrole : p.role <;> simp

/-- Who may add: an active admin, in a group. -/
theorem canAddParticipant_ok (h : s.canAddParticipant caller id = .ok ()) :
    s.IsGroup id ∧ s.ActiveAdmin id caller := by
  simp only [canAddParticipant, check_bind_eq_ok, existingGroup_eq_ok, activeAdmin_eq_ok] at h
  obtain ⟨hgroup, -, hadmin⟩ := h
  exact ⟨hgroup, hadmin⟩

def Dispensable (s : ConversationStore) (id : ConversationId) (user : UserId) : Prop :=
  (∃ u, u ≠ user ∧ s.ActiveAdmin id u) ∨ ∀ u, u ≠ user → ¬ s.Active id u

theorem dispensable_of_otherActive
    (h : ¬ ((s.otherActive caller id).1 = 0 ∧ (s.otherActive caller id).2 > 0)) :
    s.Dispensable id caller := by
  by_cases hadmins : (s.otherActive caller id).1 = 0
  · refine .inr fun u hu hactive => h ⟨hadmins, ?_⟩
    obtain ⟨p, hp, rfl⟩ := active_iff_listed.mp hactive
    have hother : p ∈ (s.listActiveParticipants id).filter (·.userId ≠ caller) :=
      mem_filter.mpr ⟨hp, by simpa using hu⟩
    refine countP_pos_iff.mpr ⟨p, hother, ?_⟩
    have hrole := countP_eq_zero.mp hadmins p hother
    simpa using hrole
  obtain ⟨p, hp, hrole⟩ := countP_pos_iff.mp (Nat.pos_of_ne_zero hadmins)
  obtain ⟨hlisted, hne⟩ := mem_filter.mp hp
  exact .inl ⟨p.userId, by simpa using hne, activeAdmin_of_listed hlisted (by simpa using hrole)⟩

/-- Who may leave: an active participant of a group, if an admin then a dispensable one. -/
theorem canLeaveConversation_ok (h : s.canLeaveConversation caller id = .ok ()) :
    s.IsGroup id ∧ ∃ p, s.findParticipant id caller = some p ∧ p.status = .active ∧
      (p.role = .admin → s.Dispensable id caller) := by
  rw [canLeaveConversation, check_bind_eq_ok, bind_eq_ok] at h
  simp only [existingGroup_eq_ok, activeParticipant_eq_ok] at h
  obtain ⟨hgroup, p, ⟨hfind, hstatus⟩, hcount⟩ := h
  refine ⟨hgroup, p, hfind, hstatus, fun hrole => ?_⟩
  apply dispensable_of_otherActive
  intro hlast
  rw [if_pos ⟨hrole, hlast⟩] at hcount
  exact nomatch hcount

/-- Who may remove whom: an active admin anybody else, and everybody themselves as far as they
may leave. -/
theorem canRemoveParticipant_ok (h : s.canRemoveParticipant caller id target = .ok ()) :
    s.IsGroup id ∧ ∃ p, s.findParticipant id target = some p ∧ p.status = .active ∧
      (p.role = .admin → s.Dispensable id target) := by
  simp only [canRemoveParticipant, check_bind_eq_ok, existingGroup_eq_ok] at h
  obtain ⟨hgroup, -, h⟩ := h
  by_cases hself : caller = target
  · rw [if_pos hself] at h
    rw [← hself]
    exact canLeaveConversation_ok h
  rw [if_neg hself] at h
  simp only [check_bind_eq_ok, activeAdmin_eq_ok] at h
  obtain ⟨hadmin, h⟩ := h
  split at h
  · exact nomatch h
  rename_i p hfind
  split at h
  next hstatus =>
    exact ⟨hgroup, p, hfind, hstatus, fun _ => .inl ⟨caller, hself, hadmin⟩⟩
  · exact nomatch h

/-! ## Calls and their effects -/

end ConversationStore

open ConversationStore

inductive ConversationCall
  | createDirect (caller recipient : UserId) (newId : ConversationId) (now : TimePoint)
  | createGroup (caller : UserId) (title : String) (initial : List UserId)
      (newId : ConversationId) (now : TimePoint)
  | add (caller : UserId) (id : ConversationId) (target : UserId) (now : TimePoint)
  | remove (caller : UserId) (id : ConversationId) (target : UserId) (now : TimePoint)
  | leave (caller : UserId) (id : ConversationId) (now : TimePoint)
  | updateMetadata (caller : UserId) (id : ConversationId) (newTitle : String) (now : TimePoint)

variable (s : ConversationStore)

def ConversationCall.perform : ConversationCall → ConversationStore
  | createDirect caller recipient newId now =>
    (s.createDirectConversation caller recipient newId now).2
  | createGroup caller title initial newId now =>
    (s.createGroupConversation caller title initial newId now).2
  | add caller id target now => (s.addParticipant caller id target now).2
  | remove caller id target now => (s.removeParticipant caller id target now).2
  | leave caller id now => (s.leaveConversation caller id now).2
  | updateMetadata caller id newTitle now => (s.updateGroupMetadata caller id newTitle now).2

/-- No call is refused by the machine: a call that fails is a call all the same. -/
def ConversationCall.step (call : ConversationCall) : Option ConversationStore :=
  some (call.perform s)

/-- `generate_v7` returns an identifier that is not in use. It has 74 random bits beside the
clock. -/
def ConversationCall.DrawsUnusedId : ConversationCall → Prop
  | createDirect _ _ newId _ => s.conversations newId = none
  | createGroup _ _ _ newId _ => s.conversations newId = none
  | _ => True

instance (s : ConversationStore) : DecidablePred (ConversationCall.DrawsUnusedId s) := fun call =>
  match call with
  | .createDirect _ _ newId _ => inferInstanceAs (Decidable (s.conversations newId = none))
  | .createGroup _ _ _ newId _ => inferInstanceAs (Decidable (s.conversations newId = none))
  | .add .. => isTrue trivial
  | .remove .. => isTrue trivial
  | .leave .. => isTrue trivial
  | .updateMetadata .. => isTrue trivial

/-- The calls, by effect on the conversations and their members. Every call concerns one
conversation. -/
inductive Effect (s : ConversationStore) :
    ConversationCall → ConversationId → ConversationStore → Prop
  | nothing {call : ConversationCall} {id : ConversationId} {s' : ConversationStore}
      (hc : s'.conversations = s.conversations) (hm : s'.members = s.members) : Effect s call id s'
  | createdDirect {caller recipient : UserId} {newId : ConversationId} {now : TimePoint}
      {s' : ConversationStore} (hne : caller ≠ recipient)
      (hc : s'.conversations = update s.conversations newId
        (some (newConversation newId .direct caller now)))
      (hm : s'.members = (s.members.write (newParticipant newId caller .member now)).write
        (newParticipant newId recipient .member now)) :
      Effect s (.createDirect caller recipient newId now) newId s'
  | createdGroup {caller : UserId} {title : String} {initial : List UserId}
      {newId : ConversationId} {now : TimePoint} {s' : ConversationStore}
      (hc : s'.conversations = update s.conversations newId
        (some (newConversation newId .group caller now)))
      (hadmin : s'.findParticipant newId caller = some (newParticipant newId caller .admin now))
      (hother : ∀ id u, id ≠ newId → s'.findParticipant id u = s.findParticipant id u) :
      Effect s (.createGroup caller title initial newId now) newId s'
  /-- Somebody who was not active is active now, and an admin was active already. -/
  | joined {call : ConversationCall} {id : ConversationId} {caller : UserId}
      {p : ConversationParticipantEntity} {s' : ConversationStore} (hgroup : s.IsGroup id)
      (hadmin : s.ActiveAdmin id caller) (hp : p.conversationId = id)
      (hwas : ¬ s.Active id p.userId) (hc : s'.conversations = s.conversations)
      (hm : s'.members = s.members.write p) : Effect s call id s'
  /-- Somebody who was active is not any more; if they were an admin, they were dispensable. -/
  | departed {call : ConversationCall} {id : ConversationId} {target : UserId}
      {p : ConversationParticipantEntity} {status : MembershipStatus} {now : TimePoint}
      {s' : ConversationStore} (hgroup : s.IsGroup id)
      (hp : s.findParticipant id target = some p) (hwas : p.status = .active)
      (hsafe : p.role = .admin → s.Dispensable id target) (hstatus : status ≠ .active)
      (hc : s'.conversations = s.conversations)
      (hm : s'.members = s.members.write (departed p status now)) : Effect s call id s'

section
variable {s : ConversationStore} {caller target : UserId} {id newId : ConversationId}
  {now : TimePoint}

@[simp]
theorem newParticipant_key (user : UserId) (role : ParticipantRole) :
    (newParticipant id user role now).key = (id, user) := rfl

@[simp]
theorem findParticipant_touchUserConversation (user u : UserId) (id id' : ConversationId)
    (type : ConversationType) (status : MembershipStatus) :
    (s.touchUserConversation user id type status now).findParticipant id' u =
      s.findParticipant id' u := rfl

open Table.Keyed

theorem findParticipant_saveParticipant (p : ConversationParticipantEntity) (u : UserId) :
    (s.saveParticipant p).findParticipant id u =
      if (id, u) = p.key then some p else s.findParticipant id u :=
  find_write s.members p (id, u)

/-- What the loop over the initial participants does NOT touch: the conversations, the other
conversations' members, and the members it has seen. -/
theorem addInitialParticipants_frame (newId : ConversationId) (now : TimePoint)
    (initial : List UserId) :
    ∀ (s : ConversationStore) (added : List UserId),
      (addInitialParticipants newId now s added initial).conversations = s.conversations ∧
        ∀ id u, (id ≠ newId ∨ u ∈ added) →
          (addInitialParticipants newId now s added initial).findParticipant id u =
            s.findParticipant id u := by
  induction initial with
  | nil => exact fun s added => ⟨rfl, fun _ _ _ => rfl⟩
  | cons user rest ih =>
    intro s added
    rw [addInitialParticipants]
    split
    · exact ih s added
    rename_i hnew
    obtain ⟨hc, hm⟩ := ih ((s.saveParticipant (newParticipant newId user .member
      now)).touchUserConversation user newId .group .active now) (user :: added)
    refine ⟨hc, fun id u hu => ?_⟩
    rw [hm id u (hu.imp_right (mem_cons_of_mem _)), findParticipant_touchUserConversation,
      findParticipant_saveParticipant, if_neg]
    -- a row of another conversation, or of a user seen before, has another key
    rintro hkey
    cases hkey
    rcases hu with hid | hmem
    · exact hid rfl
    · exact hnew hmem

theorem effect_createDirect (recipient : UserId) :
    Effect s (.createDirect caller recipient newId now) newId
      (s.createDirectConversation caller recipient newId now).2 := by
  unfold createDirectConversation
  split
  · exact .nothing rfl rfl
  rename_i hne
  dsimp only
  split
  · exact .nothing rfl rfl
  · exact .createdDirect hne rfl rfl

theorem effect_createGroup (title : String) (initial : List UserId) :
    Effect s (.createGroup caller title initial newId now) newId
      (s.createGroupConversation caller title initial newId now).2 := by
  unfold createGroupConversation
  split
  · exact .nothing rfl rfl
  obtain ⟨hc, hm⟩ := addInitialParticipants_frame newId now initial
    ((((s.saveConversation (newConversation newId .group caller now)).saveGroupMetadata
      { conversationId := newId, title := title, status := .active, createdAt := now
        updatedAt := now }).saveParticipant
      (newParticipant newId caller .admin now)).touchUserConversation
      caller newId .group .active now) [caller]
  refine .createdGroup hc ?_ ?_
  · exact (hm newId caller (.inr mem_cons_self)).trans (find_write_self _ _)
  intro id u hid
  refine (hm id u (.inl hid)).trans (find_write_of_ne _ ?_)
  intro hkey
  exact hid (congrArg Prod.fst hkey)

theorem effect_add :
    Effect s (.add caller id target now) id (s.addParticipant caller id target now).2 := by
  unfold addParticipant
  split
  · exact .nothing rfl rfl
  rename_i hok
  obtain ⟨hgroup, hadmin⟩ := canAddParticipant_ok hok
  split
  next existing hfind =>
    have hkey : existing.key = (id, target) := key_of_find hfind
    split
    · exact .nothing rfl rfl
    rename_i hwas
    refine .joined hgroup hadmin ?_ ?_ rfl rfl
    · exact congrArg Prod.fst hkey
    -- the row that was found is the only one of this user, and it is not active
    rintro ⟨p, hp, hactive⟩
    have huser : existing.userId = target := congrArg Prod.snd hkey
    simp only [huser, hfind, some.injEq] at hp
    exact hwas (hp ▸ hactive)
  rename_i hfind
  refine .joined hgroup hadmin rfl ?_ rfl rfl
  rintro ⟨p, hp, -⟩
  have hnone : s.findParticipant id target = some p := hp
  simp [hfind] at hnone

theorem Effect.of_departure {call : ConversationCall} {status : MembershipStatus}
    {existing : ConversationParticipantEntity} {s' : ConversationStore} (hstatus : status ≠ .active)
    (hok : s.IsGroup id ∧ ∃ p, s.findParticipant id target = some p ∧ p.status = .active ∧
      (p.role = .admin → s.Dispensable id target))
    (hfind : s.findParticipant id target = some existing) (hc : s'.conversations = s.conversations)
    (hm : s'.members = s.members.write (ConversationStore.departed existing status now)) :
    Effect s call id s' := by
  obtain ⟨hgroup, p, hp, hwas, hsafe⟩ := hok
  obtain rfl : p = existing := some.inj (hp.symm.trans hfind)
  exact .departed hgroup hp hwas hsafe hstatus hc hm

open MembershipStatus

theorem effect_remove :
    Effect s (.remove caller id target now) id (s.removeParticipant caller id target now).2 := by
  unfold removeParticipant
  split
  · exact .nothing rfl rfl
  rename_i hok
  split
  · exact .nothing rfl rfl
  rename_i existing hfind
  have hstatus : removed ≠ .active := nofun
  exact .of_departure hstatus (canRemoveParticipant_ok hok) hfind rfl rfl

theorem closeIfEmpty_frame : (s.closeIfEmpty id now).conversations = s.conversations ∧
      (s.closeIfEmpty id now).members = s.members := by
  unfold closeIfEmpty
  split
  · split <;> exact ⟨rfl, rfl⟩
  · exact ⟨rfl, rfl⟩

theorem effect_leave :
    Effect s (.leave caller id now) id (s.leaveConversation caller id now).2 := by
  unfold leaveConversation
  split
  · exact .nothing rfl rfl
  rename_i hok
  split
  · exact .nothing rfl rfl
  rename_i existing hfind
  have hstatus : left ≠ .active := nofun
  exact .of_departure hstatus (canLeaveConversation_ok hok) hfind closeIfEmpty_frame.1
    closeIfEmpty_frame.2

theorem effect_updateMetadata (newTitle : String) :
    Effect s (.updateMetadata caller id newTitle now) id
      (s.updateGroupMetadata caller id newTitle now).2 := by
  unfold updateGroupMetadata
  split
  · exact .nothing rfl rfl
  split
  · exact .nothing rfl rfl
  · split <;> exact .nothing rfl rfl

end

/-- A call can do nothing else. -/
theorem effect_of_perform (call : ConversationCall) : ∃ id, Effect s call id (call.perform s) := by
  cases call with
  | createDirect caller recipient newId now => exact ⟨newId, effect_createDirect recipient⟩
  | createGroup caller title initial newId now => exact ⟨newId, effect_createGroup title initial⟩
  | add caller id target now => exact ⟨id, effect_add⟩
  | remove caller id target now => exact ⟨id, effect_remove⟩
  | leave caller id now => exact ⟨id, effect_leave⟩
  | updateMetadata caller id newTitle now => exact ⟨id, effect_updateMetadata newTitle⟩

/-! ## The invariants -/

def ConversationStore.Founded : Prop :=
  ∀ id u p, s.findParticipant id u = some p → s.conversations id ≠ none

/-- A group with an active participant has an active admin. -/
def ConversationStore.Administered : Prop :=
  ∀ id u, s.IsGroup id → s.Active id u → ∃ admin, s.ActiveAdmin id admin

section
variable {s s' : ConversationStore} {call : ConversationCall} {site id : ConversationId} {u : UserId}

variable {p : ConversationParticipantEntity}

theorem findParticipant_of_write
    (hm : s'.members = s.members.write p) (id : ConversationId) (u : UserId) :
    s'.findParticipant id u = if (id, u) = p.key then some p else s.findParticipant id u := by
  rw [findParticipant, hm]
  exact Table.Keyed.find_write s.members p (id, u)

theorem findParticipant_of_write_of_ne
    (hm : s'.members = s.members.write p) (hne : (id, u) ≠ p.key) :
    s'.findParticipant id u = s.findParticipant id u := by
  rw [findParticipant_of_write hm, if_neg hne]

section
variable (h : Effect s call site s')
include h

/-- The frame of a call: every other conversation is as it was. -/
theorem Effect.frame (hid : id ≠ site) :
    s'.conversations id = s.conversations id ∧
      ∀ u, s'.findParticipant id u = s.findParticipant id u := by
  have hkey : ∀ {p : ConversationParticipantEntity} {u : UserId}, p.conversationId = site →
      (id, u) ≠ p.key := by
    intro p u hp heq
    exact hid ((congrArg Prod.fst heq).trans hp)
  cases h with
  | nothing hc hm =>
    refine ⟨by rw [hc], fun u => ?_⟩
    rw [findParticipant, hm]
    rfl
  | createdDirect hne hc hm =>
    refine ⟨by rw [hc, update_of_ne hid], fun u => ?_⟩
    rw [findParticipant, hm, Table.Keyed.find_write_of_ne _ (hkey rfl),
      Table.Keyed.find_write_of_ne _ (hkey rfl)]
    rfl
  | createdGroup hc hadmin hother =>
    exact ⟨by rw [hc, update_of_ne hid], fun u => hother id u hid⟩
  | joined hgroup hadmin hp hwas hc hm =>
    exact ⟨by rw [hc], fun u => findParticipant_of_write_of_ne hm (hkey hp)⟩
  | departed hgroup hp hwas hsafe hstatus hc hm =>
    have hsite := congrArg Prod.fst (Table.Keyed.key_of_find hp)
    exact ⟨by rw [hc], fun u => findParticipant_of_write_of_ne hm (hkey hsite)⟩

theorem Effect.founded (hfounded : s.Founded) : s'.Founded := by
  intro id u q hq
  by_cases hid : id = site
  · subst hid
    cases h with
    | nothing hc hm =>
      rw [findParticipant, hm] at hq
      rw [hc]
      exact hfounded id u q hq
    | createdDirect _ hc | createdGroup hc => simp [hc]
    | joined hgroup _ _ _ hc | departed hgroup _ _ _ _ hc =>
      obtain ⟨conv, hconv, -⟩ := hgroup
      simp [hc, hconv]
  obtain ⟨hc, hm⟩ := h.frame hid
  rw [hc]
  exact hfounded id u q (hm u ▸ hq)

theorem Effect.administered (hadministered : s.Administered) :
    s'.Administered := by
  -- what holds of unchanged rows, used for the other conversations and for calls without effect
  have hsame : ∀ id u, s'.conversations id = s.conversations id →
      (∀ u, s'.findParticipant id u = s.findParticipant id u) → s'.IsGroup id → s'.Active id u →
      ∃ admin, s'.ActiveAdmin id admin := by
    intro id u hc hm hgroup hactive
    obtain ⟨admin, hadmin⟩ := hadministered id u (by simpa [IsGroup, hc] using hgroup)
      (by simpa [Active, hm] using hactive)
    exact ⟨admin, by simpa [ActiveAdmin, hm] using hadmin⟩
  intro id u hgroup hactive
  by_cases hid : id = site
  · subst hid
    cases h with
    | nothing hc hm =>
      refine hsame id u (by rw [hc]) (fun u => ?_) hgroup hactive
      rw [findParticipant, hm]
      rfl
    | createdDirect hne hc hm =>
      obtain ⟨conv, hconv, htype⟩ := hgroup
      rw [hc, update_self] at hconv
      cases hconv
      exact nomatch htype
    | createdGroup hc hadmin hother => exact ⟨_, _, hadmin, rfl, rfl⟩
    | joined hgroup hadmin hp hwas hc hm =>
      rename_i caller p
      obtain ⟨q, hq, hstatus, hrole⟩ := hadmin
      refine ⟨caller, q, ?_, hstatus, hrole⟩
      rw [findParticipant_of_write_of_ne hm]
      · exact hq
      -- the admin was active, the participant who joined was not
      intro hkey
      have huser : caller = p.userId := congrArg Prod.snd hkey
      exact hwas (huser ▸ ⟨q, hq, hstatus⟩)
    | departed hgroup hp hwas hsafe hstatus hc hm =>
      rename_i target p status now
      have hkey : (ConversationStore.departed p status now).key = (id, target) :=
        (Table.Keyed.key_of_find hp : p.key = (id, target))
      have hothers : ∀ v, v ≠ target → s'.findParticipant id v = s.findParticipant id v := by
        intro v hv
        exact findParticipant_of_write_of_ne hm fun heq =>
          hv (congrArg Prod.snd (heq.trans hkey))
      have hgone : ¬ s'.Active id target := by
        rintro ⟨q, hq, hq'⟩
        rw [findParticipant_of_write hm, if_pos hkey.symm] at hq
        cases hq
        exact hstatus hq'
      have hu : u ≠ target := fun heq => hgone (heq ▸ hactive)
      have hactive' : s.Active id u := by simpa [Active, hothers u hu] using hactive
      -- some admin other than the one who departs was active before
      obtain ⟨admin, hne, hadmin⟩ : ∃ v, v ≠ target ∧ s.ActiveAdmin id v := by
        by_cases hrole : p.role = .admin
        · rcases hsafe hrole with hsome | hnone
          · exact hsome
          · exact absurd hactive' (hnone u hu)
        obtain ⟨v, q, hq, hq', hq''⟩ := hadministered id u hgroup hactive'
        refine ⟨v, ?_, q, hq, hq', hq''⟩
        rintro rfl
        exact hrole (some.inj (hp.symm.trans hq) ▸ hq'')
      exact ⟨admin, by simpa [ActiveAdmin, hothers admin hne] using hadmin⟩
  · obtain ⟨hc, hm⟩ := h.frame hid
    exact hsame id u hc hm hgroup hactive

section
variable (hfresh : call.DrawsUnusedId s) (hconv : s.conversations id = some conv)

include hfresh hconv

theorem Effect.kept :
    s'.conversations id = some conv := by
  by_cases hid : id = site
  · subst hid
    cases h with
    | nothing hc | joined _ _ _ _ hc | departed _ _ _ _ _ hc => rw [hc, hconv]
    | createdDirect | createdGroup => exact absurd (hconv.symm.trans hfresh) nofun
  · exact (h.frame hid).1.trans hconv

/-- A direct conversation is frozen: no call touches its members. -/
theorem Effect.direct_frozen (htype : conv.type = .direct) (u : UserId) :
    s'.findParticipant id u = s.findParticipant id u := by
  by_cases hid : id = site
  · subst hid
    have hnotGroup : ¬ s.IsGroup id := by
      rintro ⟨conv', hconv', htype'⟩
      obtain rfl : conv = conv' := some.inj (hconv.symm.trans hconv')
      exact nomatch htype.symm.trans htype'
    cases h with
    | nothing hc hm =>
      rw [findParticipant, hm]
      rfl
    | createdDirect | createdGroup => exact absurd (hconv.symm.trans hfresh) nofun
    | joined hgroup | departed hgroup => exact absurd hgroup hnotGroup
  · exact (h.frame hid).2 u

end

end

end

/-! ## Every run -/

section
variable {s s' : ConversationStore} {calls : List ConversationCall}

theorem administered_of_run (hrun : Machine.run ConversationCall.step .empty calls = some s) :
    s.Founded ∧ s.Administered := by
  refine Machine.run_invariant (I := fun s => s.Founded ∧ s.Administered) (A := fun _ _ => True)
    ?_ ?_ (Machine.along_of_forall (fun _ _ => trivial) _) hrun
  · intro s call s' _ hI hstep
    cases hstep
    obtain ⟨site, heffect⟩ := effect_of_perform s call
    exact ⟨heffect.founded hI.1, heffect.administered hI.2⟩
  constructor
  · intro id u p hp
    exact nomatch hp
  rintro id u ⟨conv, hconv, -⟩
  exact nomatch hconv

variable {id : ConversationId}

theorem kept_of_run
    (hids : Machine.Along ConversationCall.step ConversationCall.DrawsUnusedId s calls)
    (hrun : Machine.run ConversationCall.step s calls = some s')
    (hconv : s.conversations id = some conv) :
    s'.conversations id = some conv ∧
      (conv.type = .direct → ∀ u, s'.findParticipant id u = s.findParticipant id u) := by
  refine Machine.run_invariant (I := fun t => t.conversations id = some conv ∧
      (conv.type = .direct → ∀ u, t.findParticipant id u = s.findParticipant id u)) ?_
    ⟨hconv, fun _ _ => rfl⟩ hids hrun
  intro t call t' hfresh hI hstep
  cases hstep
  obtain ⟨site, heffect⟩ := effect_of_perform t call
  refine ⟨heffect.kept hfresh hI.1, fun htype u => ?_⟩
  exact (heffect.direct_frozen hfresh hI.1 htype u).trans (hI.2 htype u)

/-- How a direct conversation comes to be: by a `create_direct_conversation`, with its two users
and nobody else as participants. -/
theorem direct_created {call : ConversationCall}
    (hfounded : s.Founded) (hnone : s.conversations id = none)
    (hconv : (call.perform s).conversations id = some conv) (htype : conv.type = .direct) :
    ∃ caller recipient now, call = .createDirect caller recipient id now ∧ caller ≠ recipient ∧
      ∀ u, (call.perform s).Active id u ↔ u = caller ∨ u = recipient := by
  obtain ⟨site, heffect⟩ := effect_of_perform s call
  by_cases hid : id = site
  · subst hid
    cases heffect with
    | nothing hc | joined _ _ _ _ hc | departed _ _ _ _ _ hc =>
      rw [hc, hnone] at hconv; exact nomatch hconv
    | createdDirect hne hc hm =>
      rename_i caller recipient now
      refine ⟨caller, recipient, now, rfl, hne, fun u => ?_⟩
      have hfind : (ConversationCall.perform s
          (.createDirect caller recipient id now)).findParticipant id u =
            if u = recipient then some (newParticipant id recipient .member now)
            else if u = caller then some (newParticipant id caller .member now) else none := by
        -- nobody was a member before: the conversation did not exist
        have hnobody : s.members.find (id, u) = none := by
          by_contra hsome
          obtain ⟨p, hp⟩ := ne_none_iff_exists'.mp hsome
          exact hfounded id u p hp hnone
        rw [findParticipant, hm, Table.Keyed.find_write, Table.Keyed.find_write, hnobody]
        simp only [newParticipant_key, Prod.mk.injEq, true_and]
      unfold Active
      rw [hfind]
      by_cases hrecipient : u = recipient
      · simp [hrecipient, newParticipant]
      by_cases hcaller : u = caller
      · simp [hcaller, hne, newParticipant]
      · simp [hrecipient, hcaller]
    | createdGroup hc hadmin hother =>
      rw [hc, update_self] at hconv
      cases hconv
      exact nomatch htype
  · rw [(heffect.frame hid).1, hnone] at hconv
    exact nomatch hconv

/-- **The membership invariant.** After every sequence of atomic calls by anyone: a group with an active
participant has an active admin; and the active participants of a direct conversation are exactly the
caller and the recipient of the call that created it. -/
theorem membership_invariant
    (hids : Machine.Along ConversationCall.step ConversationCall.DrawsUnusedId .empty calls)
    (hrun : Machine.run ConversationCall.step .empty calls = some s) :
    (∀ id conv, s.conversations id = some conv → conv.type = .group →
      s.listActiveParticipants id ≠ [] → ∃ p ∈ s.listActiveParticipants id, p.role = .admin) ∧
    (∀ id conv, s.conversations id = some conv → conv.type = .direct →
      ∃ earlier caller recipient now later before,
        calls = earlier ++ .createDirect caller recipient id now :: later ∧
        Machine.run ConversationCall.step .empty earlier = some before ∧
        before.conversations id = none ∧ caller ≠ recipient ∧
        ∀ u, (∃ p ∈ s.listActiveParticipants id, p.userId = u) ↔ u = caller ∨ u = recipient) := by
  constructor
  · intro id conv hconv htype hne
    obtain ⟨p, hp⟩ := exists_mem_of_ne_nil _ hne
    have hactive : s.Active id p.userId := active_iff_listed.mpr ⟨p, hp, rfl⟩
    obtain ⟨admin, q, hq, hstatus, hrole⟩ :=
      (administered_of_run hrun).2 id p.userId ⟨conv, hconv, htype⟩ hactive
    obtain rfl := userId_of_findParticipant hq
    exact ⟨q, mem_listActiveParticipants.mpr ⟨hq, hstatus⟩, hrole⟩
  intro id conv hconv htype
  -- the call that made the conversation, and the calls after it
  obtain ⟨earlier, call, later, before, after, rfl, hbefore, hcall, hafter, hnone, hsome⟩ :=
    Machine.exists_entry (Q := fun s => s.conversations id ≠ none) (by simp [empty]) hrun
      (by simp [hconv])
  rw [not_not] at hnone
  cases hcall
  obtain ⟨conv', hconv'⟩ := ne_none_iff_exists'.mp hsome
  -- its row and its members are still what that call made them
  have hlater := (hids.of_append hbefore).2 _ rfl
  obtain ⟨hkept, hmembers⟩ := kept_of_run hlater hafter hconv'
  obtain rfl : conv' = conv := some.inj (hkept.symm.trans hconv)
  obtain ⟨caller, recipient, now, rfl, hne, hactive⟩ :=
    direct_created (administered_of_run hbefore).1 hnone hconv' htype
  refine ⟨earlier, caller, recipient, now, later, before, rfl, hbefore, hnone, hne, fun u => ?_⟩
  rw [← active_iff_listed, ← hactive u]
  simp only [Active, hmembers htype u]

end

/-- `alice` and `bob` talk; `alice` makes a group with `bob` and `carol`, is refused to leave it as its
only admin, and removes `carol`. -/
def sampleCalls : List ConversationCall :=
  [ .createDirect "alice" "bob" ⟨1⟩ 10, .createGroup "alice" "team" ["bob", "carol", "bob"] ⟨2⟩ 20,
    .leave "alice" ⟨2⟩ 30,
    .remove "alice" ⟨2⟩ "carol" 40 ]

theorem sampleCalls_keep_admin :
    ∃ s, Machine.run ConversationCall.step .empty sampleCalls = some s ∧
      ((s.listActiveParticipants ⟨2⟩).map (·.userId) = ["bob", "alice"]) ∧
      ∃ p ∈ s.listActiveParticipants ⟨2⟩, p.role = .admin := by
  have hids : Machine.Along ConversationCall.step ConversationCall.DrawsUnusedId .empty
      sampleCalls := by decide
  refine ⟨_, rfl, by decide, ?_⟩
  exact (membership_invariant hids rfl).1 ⟨2⟩ (newConversation ⟨2⟩ .group "alice" 20) rfl rfl
    (by decide)

end SecureCloud.Messaging
