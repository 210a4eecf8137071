import SecureCloud.Messaging.Membership

/-
# Messaging.EmptyGroups — a group that nobody is active in

`leave_conversation` closes the group when its last active participant goes; `remove_participant` does
not look. An admin who removes somebody else stays, so the one way to leave a group behind that is
empty and still open is to REMOVE ONESELF as its last active participant.
-/

namespace SecureCloud.Messaging

open Lib Lib.Checks ConversationStore Function ConversationCall

variable (s : ConversationStore)

def ConversationCall.Attended : ConversationCall → Prop
  | remove caller id target _ => caller = target → ∃ u, u ≠ target ∧ s.Active id u
  | _ => True

namespace ConversationStore

def Labelled : Prop :=
  ∀ id metadata, s.groupMetadata id = some metadata → metadata.conversationId = id

/-- The group has a record, and it says closed unless somebody is active. -/
def Tended (id : ConversationId) : Prop :=
  ∃ metadata, s.groupMetadata id = some metadata ∧ ((∃ u, s.Active id u) ∨ metadata.status = .closed)

end ConversationStore

/-- What a call does to the records of the groups, when it concerns the conversation `site`. -/
structure Tends (s : ConversationStore) (site : ConversationId) (s' : ConversationStore) : Prop where
  labelled : s'.Labelled
  other : ∀ id, id ≠ site → s'.groupMetadata id = s.groupMetadata id
  site : s'.IsGroup site → (s.IsGroup site → s.Tended site) → s'.Tended site

section
variable {s s' : ConversationStore} {caller target : UserId} {id site newId : ConversationId}
  {now : TimePoint} {metadata : GroupMetadataEntity}

theorem Tends.of_same (hl : s.Labelled) (hc : s'.conversations = s.conversations)
    (hm : s'.groupMetadata = s.groupMetadata)
    (hactive : ∀ u, s.Active site u → ∃ v, s'.Active site v) : Tends s site s' := by
  refine ⟨?_, fun id _ => by rw [hm], fun hgroup h => ?_⟩
  · unfold Labelled
    rwa [hm]
  obtain ⟨metadata, hfind, hcase⟩ := h (by simpa [IsGroup, hc] using hgroup)
  refine ⟨metadata, hm ▸ hfind, hcase.imp_left ?_⟩
  rintro ⟨u, hu⟩
  exact hactive u hu

theorem Tends.refl (hl : s.Labelled) : Tends s site s := .of_same hl rfl rfl fun u hu => ⟨u, hu⟩

theorem Tends.of_write (hl : s.Labelled) (hid : metadata.conversationId = site)
    (hm : s'.groupMetadata = update s.groupMetadata metadata.conversationId (some metadata))
    (hcase : (s.IsGroup site → s.Tended site) → (∃ u, s'.Active site u) ∨ metadata.status = .closed) :
    Tends s site s' := by
  subst hid
  refine ⟨fun id metadata' h => ?_, fun id hne => by rw [hm, update_of_ne hne], fun _ h =>
    ⟨metadata, by rw [hm, update_self], hcase h⟩⟩
  by_cases hid : id = metadata.conversationId
  · subst hid
    rw [hm, update_self] at h
    cases h
    rfl
  · rw [hm, update_of_ne hid] at h
    exact hl id metadata' h

theorem active_of_write {p : ConversationParticipantEntity} (hm : s'.members = s.members.write p)
    (hid : p.conversationId = id) (hstatus : p.status = .active) : ∃ u, s'.Active id u := by
  refine ⟨p.userId, p, ?_, hstatus⟩
  rw [findParticipant_of_write hm, if_pos (by rw [← hid]; rfl)]

theorem tends_createDirect {recipient : UserId} (hl : s.Labelled) :
    Tends s newId (s.createDirectConversation caller recipient newId now).2 := by
  unfold createDirectConversation
  split
  · exact .refl hl
  dsimp only
  split
  · exact .refl hl
  refine ⟨hl, fun _ _ => rfl, ?_⟩
  -- the new conversation is no group
  rintro ⟨conv, hconv, htype⟩
  cases (update_self ..).symm.trans hconv
  cases htype

theorem addInitialParticipants_groupMetadata (initial added : List UserId) (s : ConversationStore) :
    (addInitialParticipants newId now s added initial).groupMetadata = s.groupMetadata := by
  induction initial generalizing s added with
  | nil => rfl
  | cons user rest ih =>
    rw [addInitialParticipants]
    split
    · exact ih added s
    · exact ih _ _

open Table.Keyed

theorem tends_createGroup {title : String} {initial : List UserId} (hl : s.Labelled) :
    Tends s newId (s.createGroupConversation caller title initial newId now).2 := by
  unfold createGroupConversation
  split
  · exact .refl hl
  refine .of_write hl rfl (addInitialParticipants_groupMetadata ..) fun _ => .inl ⟨caller, ?_⟩
  refine ⟨_, ((addInitialParticipants_frame newId now initial _ [caller]).2 newId caller
    (.inr List.mem_cons_self)).trans (find_write_self _ _), rfl⟩

theorem tends_add (hl : s.Labelled) : Tends s id (s.addParticipant caller id target now).2 := by
  unfold addParticipant
  split
  · exact .refl hl
  dsimp only
  split
  next existing hfind =>
    split
    · exact .refl hl
    exact .of_same hl rfl rfl fun _ _ =>
      active_of_write rfl (congrArg Prod.fst (key_of_find hfind)) rfl
  · exact .of_same hl rfl rfl fun _ _ => active_of_write rfl rfl rfl

theorem attended_of_canRemove (hA : (remove caller id target now).Attended s)
    (h : s.canRemoveParticipant caller id target = .ok ()) : ∃ u, u ≠ target ∧ s.Active id u := by
  by_cases hself : caller = target
  · exact hA hself
  simp only [canRemoveParticipant, check_bind_eq_ok, if_neg hself, activeAdmin_eq_ok] at h
  obtain ⟨-, -, ⟨p, hfind, hstatus, -⟩, -⟩ := h
  exact ⟨caller, hself, p, hfind, hstatus⟩

theorem tends_remove (hl : s.Labelled) (hA : (remove caller id target now).Attended s) :
    Tends s id (s.removeParticipant caller id target now).2 := by
  unfold removeParticipant
  split
  · exact .refl hl
  rename_i hok
  split
  · exact .refl hl
  rename_i existing hfind
  obtain ⟨u, hne, p, hp, hstatus⟩ := attended_of_canRemove hA hok
  refine .of_same hl rfl rfl fun _ _ => ⟨u, p, ?_, hstatus⟩
  have hkey : existing.key = (id, target) := key_of_find hfind
  rw [findParticipant_of_write_of_ne rfl]
  · exact hp
  · exact fun heq => hne (congrArg Prod.snd (heq.trans hkey))

theorem tends_leave (hl : s.Labelled) : Tends s id (s.leaveConversation caller id now).2 := by
  unfold leaveConversation
  split
  · exact .refl hl
  split
  · exact .refl hl
  unfold closeIfEmpty
  split
  · split
    next hnone =>
      -- a group that has no record has none to close
      refine ⟨hl, fun _ _ => rfl, fun hgroup h => ?_⟩
      obtain ⟨metadata, hfind, -⟩ := h hgroup
      exact nomatch hnone.symm.trans hfind
    next metadata hfind =>
      refine .of_write hl ?_ rfl fun _ => .inr rfl
      exact hl id metadata hfind
  rename_i hsome
  obtain ⟨p, hp⟩ := List.exists_mem_of_ne_nil _ hsome
  exact .of_same hl rfl rfl fun _ _ => ⟨_, active_iff_listed.mpr ⟨p, hp, rfl⟩⟩

theorem tends_updateMetadata {newTitle : String} (hl : s.Labelled) :
    Tends s id (s.updateGroupMetadata caller id newTitle now).2 := by
  unfold updateGroupMetadata
  split
  · exact .refl hl
  split
  · exact .refl hl
  rename_i hok
  split
  · exact .refl hl
  rename_i metadata hfind
  refine .of_write hl ?_ rfl fun h => ?_
  · exact hl id metadata hfind
  simp only [canUpdateMetadata, check_bind_eq_ok, existingGroup_eq_ok] at hok
  obtain ⟨metadata', hfind', hcase⟩ := h hok.1
  cases hfind.symm.trans hfind'
  exact hcase

theorem tends_of_perform (hl : s.Labelled) {call : ConversationCall} (hA : call.Attended s) :
    ∃ site, Effect s call site (call.perform s) ∧ Tends s site (call.perform s) := by
  cases call with
  | createDirect _ recipient => exact ⟨_, effect_createDirect recipient, tends_createDirect hl⟩
  | createGroup _ title initial => exact ⟨_, effect_createGroup title initial, tends_createGroup hl⟩
  | add => exact ⟨_, effect_add, tends_add hl⟩
  | remove => exact ⟨_, effect_remove, tends_remove hl hA⟩
  | leave => exact ⟨_, effect_leave, tends_leave hl⟩
  | updateMetadata _ _ newTitle => exact ⟨_, effect_updateMetadata newTitle, tends_updateMetadata hl⟩

end

/-- **Empty groups are closed**, after every sequence of calls in which nobody removes themselves as the
last active participant. -/
theorem empty_groups_closed {calls : List ConversationCall} {s : ConversationStore}
    (hattended : Machine.Along step ConversationCall.Attended .empty calls)
    (hrun : Machine.run step .empty calls = some s) {id : ConversationId}
    {conv : ConversationEntity} (hconv : s.findConversationById id = some conv)
    (htype : conv.type = .group) (hempty : s.listActiveParticipants id = []) :
    ∃ metadata, s.findGroupMetadata id = some metadata ∧ metadata.status = .closed := by
  have hI : s.Labelled ∧ ∀ id, s.IsGroup id → s.Tended id := by
    refine Machine.run_invariant (I := fun s => s.Labelled ∧ ∀ id, s.IsGroup id → s.Tended id) ?_
      ⟨nofun, nofun⟩ hattended hrun
    rintro s call s' hA ⟨hl, htended⟩ hstep
    cases hstep
    obtain ⟨site, heffect, htends⟩ := tends_of_perform hl hA
    refine ⟨htends.labelled, fun id hgroup => ?_⟩
    by_cases hid : id = site
    · subst hid
      exact htends.site hgroup (htended id)
    obtain ⟨hc, hm⟩ := heffect.frame hid
    have hold := htended id (by simpa [IsGroup, hc] using hgroup)
    simpa [Tended, Active, hm, htends.other id hid] using hold
  obtain ⟨metadata, hfind, ⟨u, hu⟩ | hclosed⟩ := hI.2 id ⟨conv, hconv, htype⟩
  · obtain ⟨p, hp, -⟩ := active_iff_listed.mp hu
    exact absurd (hempty ▸ hp) List.not_mem_nil
  · exact ⟨metadata, hfind, hclosed⟩

def groupOfOne (next : ConversationCall) : List ConversationCall :=
  [.createGroup "alice" "team" [] ⟨1⟩ 10, next]

theorem left_group_closed :
    ∃ s, Machine.run step .empty (groupOfOne (.leave "alice" ⟨1⟩ 20)) = some s ∧
      ∃ metadata, s.findGroupMetadata ⟨1⟩ = some metadata ∧ metadata.status = .closed :=
  ⟨_, rfl, @empty_groups_closed (groupOfOne (.leave "alice" ⟨1⟩ 20)) _
    ⟨trivial, fun _ _ => ⟨trivial, fun _ _ => trivial⟩⟩
    rfl ⟨1⟩ _ rfl rfl (by decide)⟩

/-- **The group stays open** when its only participant removes themselves. -/
theorem self_removal_leaves_group_open : ∃ s, Machine.run step .empty
        (groupOfOne (.remove "alice" ⟨1⟩ "alice" 20)) = some s ∧
      s.listActiveParticipants ⟨1⟩ = [] ∧ (s.findConversationById ⟨1⟩).map (·.type) = some .group ∧
      (s.findGroupMetadata ⟨1⟩).map (·.status) = some .active :=
  ⟨_, rfl, by decide, by decide, by decide⟩

end SecureCloud.Messaging
