import SecureCloud.Client.Managers
import SecureCloud.Lib.Getline

/-
# Client.DirectConversations — one conversation for every pair of users

`open_direct_conversation` looks for a conversation under an id made of the two user ids with a hyphen
between them. A user id is any text that is not empty, so TWO PAIRS may share an id as soon as the ids
contain hyphens themselves, and the second pair is handed the conversation of the first.
-/

namespace SecureCloud.Client.MessagingManager

open MemoryLocalStore Lib Lib.Checks

structure OpenCall where
  localUser : UserId
  peerUser : UserId
  title : String := ""
  input : ClientInput := {}

namespace OpenCall

variable (s : MemoryLocalStore) (call : OpenCall)

def run : ClientResult (Conversation × MemoryLocalStore) :=
  openDirectConversation s call.input call.localUser call.peerUser call.title

def next : MemoryLocalStore :=
  match call.run s with
  | .ok (_, s') => s'
  | .error _ => s

end OpenCall

def afterCalls (calls : List OpenCall) : MemoryLocalStore := calls.foldl OpenCall.next empty

/-- The ids can be told apart when they are joined: none has a hyphen, or all have one length. -/
def Separable (users : Set UserId) : Prop :=
  (∀ u ∈ users, '-' ∉ u.toList) ∨ ∃ n, ∀ u ∈ users, u.toList.length = n

variable {users : Set UserId}

theorem Separable.join_inj (h : Separable users) {a b c d : UserId} (ha : a ∈ users) (hc : c ∈ users)
    (hjoin : a ++ "-" ++ b = c ++ "-" ++ d) : a = c ∧ b = d := by
  have hchars : a.toList ++ '-' :: b.toList = c.toList ++ '-' :: d.toList := by
    simpa using congrArg String.toList hjoin
  have hfirst : a.toList = c.toList := by
    rcases h with hyphen | ⟨n, hlength⟩
    · have hlines := congrArg (Getline.getlines '-') hchars
      rw [Getline.getlines_append_cons (hyphen a ha), Getline.getlines_append_cons (hyphen c hc)] at hlines
      exact List.head_eq_of_cons_eq hlines
    · exact (List.append_inj hchars ((hlength a ha).trans (hlength c hc).symm)).1
  rw [hfirst] at hchars
  exact ⟨String.toList_inj.mp hfirst,
    String.toList_inj.mp (List.tail_eq_of_cons_eq (List.append_cancel_left hchars))⟩

theorem directId_eq (l p : UserId) :
    ∃ a b, directId l p = "direct-" ++ (a ++ "-" ++ b) ∧ [a, b].Perm [l, p] := by
  unfold directId
  split
  · exact ⟨l, p, by simp only [String.append_assoc], .refl _⟩
  · exact ⟨p, l, by simp only [String.append_assoc], .swap l p []⟩

theorem Separable.directId_inj (h : Separable users) {l p l' p' : UserId} (hl : l ∈ users)
    (hp : p ∈ users) (hl' : l' ∈ users) (hp' : p' ∈ users) (heq : directId l p = directId l' p') :
    [l, p].Perm [l', p'] := by
  obtain ⟨a, b, hid, hab⟩ := directId_eq l p
  obtain ⟨c, d, hid', hcd⟩ := directId_eq l' p'
  have ha : a ∈ users := by
    rcases List.mem_pair.mp (hab.mem_iff.mp List.mem_cons_self) with rfl | rfl <;> assumption
  have hc : c ∈ users := by
    rcases List.mem_pair.mp (hcd.mem_iff.mp List.mem_cons_self) with rfl | rfl <;> assumption
  rw [hid, hid', String.append_right_inj] at heq
  obtain ⟨rfl, rfl⟩ := h.join_inj ha hc heq
  exact hab.symm.trans hcd

/-- The invariant of the store: what it has under the id of two users is a conversation of them. -/
structure Direct (users : Set UserId) (s : MemoryLocalStore) : Prop where
  isOpen : s.isOpen = true
  participants : ∀ l ∈ users, ∀ p ∈ users, ∀ conv ∈ s.conversations (directId l p),
    conv.participants.Perm [l, p]

section
variable (hvalid : ∀ u ∈ users, u ≠ "") (hsep : Separable users)
include hvalid hsep

theorem OpenCall.run_spec {s : MemoryLocalStore} (hs : Direct users s) {call : OpenCall}
    (hl : call.localUser ∈ users) (hp : call.peerUser ∈ users) :
    ∃ conv s', call.run s = .ok (conv, s') ∧
      conv.participants.Perm [call.localUser, call.peerUser] ∧ Direct users s' := by
  have hcheck : ¬ (call.localUser = "" ∨ call.peerUser = "") := by
    simp [hvalid _ hl, hvalid _ hp]
  simp only [run, openDirectConversation, require, if_pos hcheck, getConversation, opened, hs.isOpen,
    if_true, saveConversation]
  cases hconv : s.conversations (directId call.localUser call.peerUser) with
  | some conv => exact ⟨conv, s, rfl, hs.participants _ hl _ hp conv hconv, hs⟩
  | none =>
    refine ⟨_, _, rfl, .refl _, hs.isOpen, fun l hlu p hpu conv h => ?_⟩
    change Function.update s.conversations (directId call.localUser call.peerUser) _ _ = some conv at h
    rw [Function.update_apply] at h
    split at h
    case isTrue hid =>
      obtain rfl := Option.some.inj h
      exact hsep.directId_inj hl hp hlu hpu hid.symm
    case isFalse => exact hs.participants l hlu p hpu conv h

/-- **Direct conversations never mix peers** as long as the ids can be told apart: after any sequence of
calls, a call returns a conversation of exactly its two users. -/
theorem direct_conversation_participants {calls : List OpenCall}
    (hcalls : ∀ call ∈ calls, call.localUser ∈ users ∧ call.peerUser ∈ users) {call : OpenCall}
    (hl : call.localUser ∈ users) (hp : call.peerUser ∈ users) :
    ∃ conv s', call.run (afterCalls calls) = .ok (conv, s') ∧
      conv.participants.Perm [call.localUser, call.peerUser] := by
  have hdirect : ∀ s, Direct users s → Direct users (calls.foldl OpenCall.next s) := by
    induction calls with
    | nil => exact fun s hs => hs
    | cons first calls ih =>
      intro s hs
      obtain ⟨hfirst, hrest⟩ := List.forall_mem_cons.mp hcalls
      obtain ⟨conv, s', hrun, -, hs'⟩ := OpenCall.run_spec hvalid hsep hs hfirst.1 hfirst.2
      rw [List.foldl_cons, OpenCall.next, hrun]
      exact ih hrest s' hs'
  have hempty : Direct users empty := ⟨rfl, nofun⟩
  obtain ⟨conv, s', hrun, hparts, -⟩ := OpenCall.run_spec hvalid hsep (hdirect empty hempty) hl hp
  exact ⟨conv, s', hrun, hparts⟩

end

/-- Bob opens the conversation that Alice opened. -/
theorem alice_and_bob : ∃ conv s', OpenCall.run (afterCalls [⟨"alice", "bob", "", {}⟩])
    ⟨"bob", "alice", "", {}⟩ = .ok (conv, s') ∧ conv.participants.Perm ["bob", "alice"] :=
  @direct_conversation_participants {"alice", "bob"} (by simp) (.inl (by simp))
    [⟨"alice", "bob", "", {}⟩] (by simp) ⟨"bob", "alice", "", {}⟩ (by simp) (by simp)

/-- The user `a-b` asks for a conversation with `c` and is handed the one of `a` with `b-c`. -/
theorem hyphens_mix_peers : ((OpenCall.run (afterCalls [⟨"a", "b-c", "", {}⟩])
    ⟨"a-b", "c", "", {}⟩).toOption.map fun r => r.1.participants) = some ["a", "b-c"] := by
  decide

end SecureCloud.Client.MessagingManager
