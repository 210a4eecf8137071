import SecureCloud.Auth.RotationMoves

/-
# Auth.Rotation — a refresh secret is good for one refresh

Over every interleaving of refreshes with each other and with the other statements of the service, any
of them failing: no two refreshes with one secret succeed, and none that starts after the reuse handling
of a session has committed succeeds for that session.

The first rests on the row lock: between the locking read and the commit nobody else changes the row, and
once rotated it is never active again. The second rests on the session: the reuse handling revokes it,
nothing activates it again, and every refresh reads it.
-/

namespace SecureCloud.Auth

open Lib Lib.ReadCommitted Lib.Interleaving Function Option

variable {ι : Type} [DecidableEq ι]

/-! ## Local assertions -/

variable (db : AuthDb ι)

def AuthDb.HasToken (id : Uuid) (verifier : String) (session : Uuid)
    (p : TokenStatus → Prop) : Prop :=
  ∃ t, db.tokens.rows.committed id = some t ∧ t.tokenVerifier = verifier ∧ t.sessionId = session ∧
    p t.tokenStatus

def AuthDb.Spent (verifier : String) (session : Uuid) : Prop :=
  ∃ id, db.HasToken id verifier session (· ≠ .active)

def AuthDb.Locked (i : ι) (verifier : String) (r : Rotation)
    (p : RefreshTokenEntity → Prop) : Prop :=
  db.HasToken r.token.refreshTokenId verifier r.session.sessionId (· = .active) ∧
    ∃ t, db.tokens.rows.held r.token.refreshTokenId = some (i, t) ∧ p t

def AuthDb.Revoking (i : ι) (session : Uuid) : Prop :=
  ∃ e, db.sessions.held session = some (i, e) ∧ e.sessionStatus ≠ .active

/-- What process `i` knows at each point, for the verifier of its secret. -/
def Knows (i : ι) (verifier : String) (db : AuthDb ι) : RefreshPc → Prop
  | .findDevice token _ => db.HasToken token.refreshTokenId verifier token.sessionId fun _ => True
  | .findSession token _ _ => db.HasToken token.refreshTokenId verifier token.sessionId fun _ => True
  | .lockOld r => db.HasToken r.token.refreshTokenId verifier r.session.sessionId fun _ => True
  | .insertNew r _ => db.Locked i verifier r fun _ => True
  | .markRotated r _ => db.Locked i verifier r fun _ => True
  | .commitRotation r => db.Locked i verifier r (·.tokenStatus ≠ .active)
  | .touchSession r => db.Spent verifier r.session.sessionId
  | .authenticateDevice r => db.Spent verifier r.session.sessionId
  | .done result => result.isSuccess = true →
      ∃ session, result.sessionId = some session ∧ db.Spent verifier session
  | .reuseSession token _ => db.Stored token.sessionId
  | .reuseScan token _ => db.Revoking i token.sessionId
  | .reuseSiblings token _ _ => db.Revoking i token.sessionId
  | .other | .start | .reuseFind => True

/-- The rotation of the call has committed, and the call may still succeed. -/
def RefreshPc.pastCommit : RefreshPc → Bool
  | .touchSession _ => true
  | .authenticateDevice _ => true
  | .done result => result.isSuccess
  | _ => false

section Tables

variable {db db' : AuthDb ι} {i j : ι} {id session : Uuid} {verifier : String}

section
variable (hdb : db.Sound) (h : Acted j db db')

include hdb h

theorem AuthDb.HasToken.mono (htoken : db.HasToken id verifier session fun _ => True) :
    db'.HasToken id verifier session fun _ => True := by
  obtain ⟨t, ht, hverifier, hsession, -⟩ := htoken
  obtain ⟨t', ht', hsame, hsame', -⟩ := h.tokens.evolves hdb.tokens id t ht
  exact ⟨t', ht', hsame.trans hverifier, hsame'.trans hsession, trivial⟩

theorem AuthDb.Spent.mono (hspent : db.Spent verifier session) :
    db'.Spent verifier session := by
  obtain ⟨id, t, ht, hverifier, hsession, hstatus⟩ := hspent
  obtain ⟨t', ht', hsame, hsame', hnever⟩ := h.tokens.evolves hdb.tokens id t ht
  exact ⟨id, t', ht', hsame.trans hverifier, hsame'.trans hsession, hnever hstatus⟩

theorem AuthDb.Stored.mono (hstored : db.Stored session) :
    db'.Stored session := by
  obtain ⟨e, he⟩ := isSome_iff_exists.mp hstored
  obtain ⟨e', he', -⟩ := h.sessions.evolves hdb.sessions session e he
  exact isSome_iff_exists.mpr ⟨e', he'⟩

end

theorem AuthDb.Locked.frame (h : Acted j db db') (hij : i ≠ j) {r : Rotation}
    {p : RefreshTokenEntity → Prop} (hlocked : db.Locked i verifier r p) :
    db'.Locked i verifier r p := by
  obtain ⟨⟨t₀, ht₀, hrest⟩, t, hheld, hp⟩ := hlocked
  obtain ⟨hheld', hcommitted⟩ := h.tokens.frame hij hheld
  exact ⟨⟨t₀, hcommitted.trans ht₀, hrest⟩, t, hheld', hp⟩

theorem AuthDb.Revoking.frame (h : Acted j db db') (hij : i ≠ j) (hrevoking : db.Revoking i session) :
    db'.Revoking i session := by
  obtain ⟨e, hheld, hstatus⟩ := hrevoking
  exact ⟨e, (h.sessions.frame hij hheld).1, hstatus⟩

theorem Knows.stable (hdb : db.Sound) (h : Acted j db db') (hij : i ≠ j) {pc : RefreshPc}
    (hknows : Knows i verifier db pc) : Knows i verifier db' pc := by
  cases pc with
  | findDevice | findSession | lockOld => exact hknows.mono hdb h
  | insertNew | markRotated | commitRotation | reuseScan | reuseSiblings => exact hknows.frame h hij
  | touchSession | authenticateDevice => exact AuthDb.Spent.mono hdb h hknows
  | done result =>
    intro hsuccess
    obtain ⟨session, hsession, hspent⟩ := hknows hsuccess
    exact ⟨session, hsession, hspent.mono hdb h⟩
  | reuseSession token now => exact AuthDb.Stored.mono hdb h hknows
  | other | start | reuseFind => trivial

/-! ## One move -/

variable {m : TokenManager} {call : RefreshCall} {pc pc' : RefreshPc}

section
variable (hdb : db.Sound)

include hdb

theorem hasToken_of_findBy {token : RefreshTokenEntity}
    (h : db.tokens.findBy verifier = some token) :
    db.HasToken token.refreshTokenId verifier token.sessionId (fun _ => True) ∧
      db.Stored token.sessionId := by
  obtain ⟨k, hrow, hverifier⟩ := db.tokens.findBy_eq_some_iff.mp h
  obtain ⟨hkey, hstored⟩ := hdb.tokens.committed k token hrow
  exact ⟨⟨token, by rw [hkey]; exact hrow, hverifier, rfl, trivial⟩, hstored⟩

theorem active_of_view {old : RefreshTokenEntity}
    (hview : db.tokens.rows.view i id = some old) (hactive : old.tokenStatus = .active)
    (htoken : db.HasToken id verifier session fun _ => True) :
    db.HasToken id verifier session (· = .active) := by
  obtain ⟨t, ht, hverifier, hsession, -⟩ := htoken
  refine ⟨t, ht, hverifier, hsession, ?_⟩
  by_contra hne
  exact (hdb.tokens.succ_view hview t ht).2.2 hne hactive

theorem spent_of_commit {r : Rotation}
    (hlocked : db.Locked i verifier r (·.tokenStatus ≠ .active)) :
    (db.commit i).Spent verifier r.session.sessionId := by
  obtain ⟨⟨t₀, ht₀, hverifier, hsession, -⟩, t, hheld, hstatus⟩ := hlocked
  obtain ⟨hsame, hsame', -⟩ := hdb.tokens.legal _ i t t₀ hheld ht₀
  exact ⟨_, t, Table.view_of_held hheld, hsame.trans hverifier, hsame'.trans hsession, hstatus⟩

theorem Knows.own (hacted : Acted i db db') (hmoves : RefreshMoves m call i db pc pc' db')
    (hknows : Knows i (m.sha256Hex call.refreshTokenSecret) db pc) :
    Knows i (m.sha256Hex call.refreshTokenSecret) db' pc' := by
  cases hmoves with
  | refuses hresult | reuseCommits _ _ hresult =>
    intro hsuccess
    rw [hresult] at hsuccess
    cases hsuccess
  | serves | suspects => trivial
  | findsToken token now hfind => exact (hasToken_of_findBy hdb hfind).1
  | findsDevice | reuseScans => exact hknows
  | findsSession token now device r htoken _ hsession =>
    subst htoken
    obtain ⟨t, ht, hverifier, hsame, -⟩ := hknows
    exact ⟨t, ht, hverifier, hsame.trans (hdb.sessions.committed _ _ hsession).symm, trivial⟩
  | locks r rotatedAt old _ hview hactive hheld hcommitted =>
    obtain ⟨t, ht, hrest⟩ := active_of_view hdb hview hactive hknows
    exact ⟨⟨t, by rw [hcommitted]; exact ht, hrest⟩, old, hheld, trivial⟩
  | inserts r rotatedAt _ hheld hcommitted =>
    obtain ⟨⟨t₀, ht₀, hrest⟩, t, ht, -⟩ := hknows
    exact ⟨⟨t₀, by rw [hcommitted]; exact ht₀, hrest⟩, t, hheld _ t ht, trivial⟩
  | marks r rotatedAt t _ hheld hrotated hcommitted =>
    obtain ⟨⟨t₀, ht₀, hrest⟩, -⟩ := hknows
    refine ⟨⟨t₀, by rw [hcommitted]; exact ht₀, hrest⟩, t, hheld, ?_⟩
    show t.tokenStatus ≠ .active
    rw [hrotated]
    decide
  | commits r => exact spent_of_commit hdb hknows
  | touches r => exact AuthDb.Spent.mono hdb hacted hknows
  | succeeds r pair => exact fun _ => ⟨_, rfl, AuthDb.Spent.mono hdb hacted hknows⟩
  | reuseFinds token now hfind => exact (hasToken_of_findBy hdb hfind).2
  | reuseRevokes token now _ hheld =>
    obtain ⟨e₀, he₀⟩ := isSome_iff_exists.mp hknows
    obtain ⟨e, hview, -⟩ := hdb.sessions.legal.view sessionDiscipline.refl i he₀
    refine ⟨e.revoke now, hheld e hview, ?_⟩
    show SessionStatus.revoked ≠ .active
    decide
  | reuseSibling token now id left hsessions =>
    obtain ⟨e, hheld, hstatus⟩ := hknows
    exact ⟨e, by rw [hsessions]; exact hheld, hstatus⟩

end

/-- The ghost only grows, and only by a session that the commit leaves revoked. -/
theorem RefreshMoves.handled (hmoves : RefreshMoves m call i db pc pc' db')
    (hknows : Knows i verifier db pc) :
    db'.reuseHandled = db.reuseHandled ∨ ∃ s e, db'.reuseHandled = s :: db.reuseHandled ∧
      db'.sessions.committed s = some e ∧ e.sessionStatus ≠ .active := by
  cases hmoves with
  | reuseCommits token now =>
    obtain ⟨e, hheld, hstatus⟩ := hknows
    exact .inr ⟨token.sessionId, e, rfl, Table.view_of_held hheld, hstatus⟩
  | refuses _ hsame | serves hsame | locks _ _ _ _ _ _ _ _ hsame | inserts _ _ _ _ _ hsame
  | marks _ _ _ _ _ _ _ hsame | touches _ hsame | succeeds _ _ hsame | reuseRevokes _ _ _ _ hsame
  | reuseSibling _ _ _ _ _ hsame => exact .inl hsame
  | findsToken | suspects | findsDevice | findsSession | commits | reuseFinds | reuseScans =>
    exact .inl rfl

theorem AuthDb.Sound.move (hdb : db.Sound) (hacted : Acted i db db')
    (hmoves : RefreshMoves m call i db pc pc' db') (hknows : Knows i verifier db pc) : db'.Sound := by
  have htokens := hacted.tokens.sound hdb.tokens
  have hstored : ∀ s, db.Stored s → db'.Stored s := fun s hs => hs.mono hdb hacted
  have hkept : ∀ s ∈ db.reuseHandled, ∃ e, db'.sessions.committed s = some e ∧
      e.sessionStatus ≠ .active := by
    intro s hs
    obtain ⟨e, he, hstatus⟩ := hdb.handled s hs
    obtain ⟨e', he', hnever⟩ := hacted.sessions.evolves hdb.sessions s e he
    exact ⟨e', he', hnever hstatus⟩
  refine ⟨⟨?_, ?_, htokens.legal⟩, hacted.sessions.sound hdb.sessions, ?_⟩
  · intro k t ht
    exact ⟨(htokens.committed k t ht).1, hstored _ (htokens.committed k t ht).2⟩
  · intro k tx t ht
    exact ⟨(htokens.held k tx t ht).1, hstored _ (htokens.held k tx t ht).2⟩
  intro s hs
  rcases hmoves.handled hknows with hsame | ⟨s', e, hnew, he, hstatus⟩
  · rw [hsame] at hs
    exact hkept s hs
  rw [hnew] at hs
  rcases List.mem_cons.mp hs with rfl | hold
  · exact ⟨e, he, hstatus⟩
  · exact hkept s hold

theorem RefreshMoves.past (hmoves : RefreshMoves m call i db pc pc' db')
    (hpast : pc'.pastCommit = true) : pc.pastCommit = true ∨ ∃ r, pc = .commitRotation r := by
  cases hmoves with
  | commits r => exact .inr ⟨r, rfl⟩
  | touches | succeeds => exact .inl rfl
  | refuses hresult | reuseCommits _ _ hresult =>
    exact absurd (hresult.symm.trans hpast) (by decide)
  | _ => cases hpast

theorem Knows.spent (hknows : Knows i verifier db pc) (hpast : pc.pastCommit = true) :
    ∃ session, db.Spent verifier session := by
  cases pc with
  | touchSession | authenticateDevice => exact ⟨_, hknows⟩
  | done result =>
    obtain ⟨session, -, hspent⟩ := hknows hpast
    exact ⟨session, hspent⟩
  | _ => cases hpast

theorem not_spent_of_active (htoken : db.HasToken id verifier session (· = .active))
    (session' : Uuid) : ¬ db.Spent verifier session' := by
  rintro ⟨id', t', ht', hverifier', -, hstatus'⟩
  obtain ⟨t, ht, hverifier, -, hstatus⟩ := htoken
  obtain rfl := db.tokens.unique ht ht' (hverifier.trans hverifier'.symm)
  rw [ht] at ht'
  exact hstatus' (some.inj ht' ▸ hstatus)

end Tables

/-! ## Whole runs -/

section Runs

variable {m : TokenManager} {calls : ι → RefreshCall}

abbrev RefreshSystem (ι : Type) [DecidableEq ι] := Config ι RefreshPc (AuthDb ι)

/-- The database as the schema guarantees it, while no transaction is open and no reuse has been
handled. -/
structure AuthDb.Quiet (db : AuthDb ι) : Prop where
  tokenKeys : ∀ k t, db.tokens.rows.committed k = some t → t.refreshTokenId = k
  tokenSessions : ∀ k t, db.tokens.rows.committed k = some t → db.Stored t.sessionId
  sessionKeys : ∀ k e, db.sessions.committed k = some e → e.sessionId = k
  tokensFree : ∀ k, db.tokens.rows.held k = none
  sessionsFree : ∀ k, db.sessions.held k = none
  unhandled : db.reuseHandled = []

structure Unstarted (c : RefreshSystem ι) : Prop where
  quiet : c.shared.Quiet
  procs : ∀ i, c.proc i = .start ∨ c.proc i = .other

theorem AuthDb.Quiet.sound {db : AuthDb ι} (h : db.Quiet) : db.Sound := by
  refine ⟨⟨fun k t ht => ⟨h.tokenKeys k t ht, h.tokenSessions k t ht⟩, ?_, ?_⟩,
    ⟨h.sessionKeys, ?_, ?_⟩, ?_⟩
  · intro k tx t ht
    rw [h.tokensFree k] at ht
    cases ht
  · intro k tx t t₀ ht
    rw [h.tokensFree k] at ht
    cases ht
  · intro k tx e he
    rw [h.sessionsFree k] at he
    cases he
  · intro k tx e e₀ he
    rw [h.sessionsFree k] at he
    cases he
  intro s hs
  rw [h.unhandled] at hs
  cases hs

/-- The invariant: sound tables, every process knows what it should, and of the calls with one secret
at most one is past its commit. -/
structure RotationInv (m : TokenManager) (calls : ι → RefreshCall) (c : RefreshSystem ι) : Prop where
  annotated : Annotated AuthDb.Sound
    (fun i pc db => Knows i (m.sha256Hex (calls i).refreshTokenSecret) db pc) c
  once : ∀ i j, i ≠ j → (c.proc i).pastCommit = true → (c.proc j).pastCommit = true →
    (calls i).refreshTokenSecret ≠ (calls j).refreshTokenSecret

variable {c c' : RefreshSystem ι} {i : ι} {session : Uuid}

theorem Unstarted.rotationInv (h : Unstarted c) : RotationInv m calls c := by
  refine ⟨⟨h.quiet.sound, fun i => ?_⟩, fun i j _ hi _ => ?_⟩
  · rcases h.procs i with hi | hi
    all_goals
      rw [hi]
      trivial
  rcases h.procs i with hpc | hpc
  all_goals
    rw [hpc] at hi
    cases hi

section
variable (h : RotationInv m calls c)

include h

/-- **A call that commits its rotation is the first one with its secret.** -/
theorem RotationInv.first {j : ι} (hij : i ≠ j) {pc' : RefreshPc} {db' : AuthDb ι}
    (hmoves : RefreshMoves m (calls i) i c.shared (c.proc i) pc' db')
    (hi : pc'.pastCommit = true) (hj : (c.proc j).pastCommit = true) :
    (calls i).refreshTokenSecret ≠ (calls j).refreshTokenSecret := by
  rcases hmoves.past hi with hpast | ⟨r, hr⟩
  · exact h.once i j hij hpast hj
  intro hsecret
  have hknows := h.annotated.2 i
  rw [hr] at hknows
  obtain ⟨session, hspent⟩ := (h.annotated.2 j).spent hj
  apply not_spent_of_active hknows.1 session
  rw [hsecret]
  exact hspent

theorem RotationInv.move {e : ι × RefreshEnv}
    (hmove : move (m.next calls) c e = some c') : RotationInv m calls c' := by
  obtain ⟨i, env⟩ := e
  obtain ⟨hdb, hknows⟩ := h.annotated
  refine ⟨move_annotated ?_ ?_ hmove, ?_⟩
  · intro pc' db' hnext
    obtain ⟨hacted, hmoves⟩ := next_moved hdb hnext
    exact ⟨hdb.move hacted hmoves (hknows i), (hknows i).own hdb hacted hmoves⟩
  · intro j pc' db' hij hnext
    exact (hknows j).stable hdb (next_moved hdb hnext).1 (Ne.symm hij)
  obtain ⟨pc', db', hnext, rfl⟩ := move_eq_some hmove
  have hmoves := (next_moved hdb hnext).2
  intro a b hab ha hb
  rcases update_cases ha with ⟨rfl, ha'⟩ | ⟨-, ha'⟩ <;>
    rcases update_cases hb with ⟨rfl, hb'⟩ | ⟨-, hb'⟩
  · exact absurd rfl hab
  · exact h.first hab hmoves ha' hb'
  · exact (h.first (Ne.symm hab) hmoves hb' ha').symm
  · exact h.once a b hab ha' hb'

theorem RotationInv.run {moves : List (ι × RefreshEnv)}
    (hrun : run (m.next calls) c moves = some c') :
    RotationInv m calls c' :=
  run_induction (A := fun _ _ => True) (fun _ _ _ _ hc hmove => hc.move hmove) h
    (fun _ _ => trivial) hrun

end

/-! ## After the reuse handling -/

def Clear (session : Uuid) : RefreshPc → Prop
  | .lockOld r => r.session.sessionId ≠ session
  | .insertNew r _ => r.session.sessionId ≠ session
  | .markRotated r _ => r.session.sessionId ≠ session
  | .commitRotation r => r.session.sessionId ≠ session
  | .touchSession r => r.session.sessionId ≠ session
  | .authenticateDevice r => r.session.sessionId ≠ session
  | .done result => result.isSuccess = true → result.sessionId ≠ some session
  | _ => True

/-- **A session that is not active lets no call past.** -/
theorem Clear.own {call : RefreshCall} {db db' : AuthDb ι} {pc pc' : RefreshPc} (hdb : db.Sound)
    (hhandled : session ∈ db.reuseHandled)
    (hmoves : RefreshMoves m call i db pc pc' db') (hclear : Clear session pc) :
    Clear session pc' := by
  cases hmoves with
  | findsSession token now device r _ _ hsession hactive =>
    -- the session read is active, the handled one is not
    rintro rfl
    obtain ⟨e, he, hstatus⟩ := hdb.handled _ hhandled
    rw [hdb.sessions.committed _ _ hsession, hsession] at he
    exact hstatus (some.inj he ▸ hactive)
  | locks | inserts | marks | commits | touches => exact hclear
  | succeeds r pair => exact fun _ heq => hclear (some.inj heq)
  | refuses hresult => exact fun hsuccess => absurd (hresult.symm.trans hsuccess) (by decide)
  | reuseCommits token now hresult =>
    exact fun hsuccess => absurd (hresult.symm.trans hsuccess) (by decide)
  | _ => trivial

theorem clear_run {moves : List (ι × RefreshEnv)}
    (h : RotationInv m calls c) (hhandled : session ∈ c.shared.reuseHandled)
    (hstart : c.proc i = .start) (hrun : run (m.next calls) c moves = some c') :
    Clear session (c'.proc i) := by
  have hinit : RotationInv m calls c ∧ session ∈ c.shared.reuseHandled ∧ Clear session (c.proc i) := by
    rw [hstart]
    exact ⟨h, hhandled, trivial⟩
  refine (run_induction (A := fun _ _ => True)
    (I := fun c => RotationInv m calls c ∧ session ∈ c.shared.reuseHandled ∧
      Clear session (c.proc i)) ?_ hinit (fun _ _ => trivial) hrun).2.2
  rintro d ⟨j, env⟩ d' - ⟨hd, hin, hclear⟩ hmove
  refine ⟨hd.move hmove, ?_⟩
  obtain ⟨pc', db', hnext, rfl⟩ := move_eq_some hmove
  have hmoves := (next_moved hd.annotated.1 hnext).2
  constructor
  · rcases hmoves.handled (hd.annotated.2 j) with hsame | ⟨s, e, hnew, -⟩
    · show session ∈ db'.reuseHandled
      rw [hsame]
      exact hin
    show session ∈ db'.reuseHandled
    rw [hnew]
    exact List.mem_cons_of_mem _ hin
  by_cases hij : i = j
  · subst hij
    show Clear session (update d.proc i pc' i)
    rw [update_self]
    exact hclear.own hd.annotated.1 hin hmoves
  show Clear session (update d.proc j pc' i)
  rw [update_of_ne hij]
  exact hclear

theorem not_success_of_clear (h : RotationInv m calls c)
    {result : TokenRefreshResult} {k : Uuid} {t : RefreshTokenEntity}
    (hdone : c.proc i = .done result) (hclear : Clear session (c.proc i))
    (ht : c.shared.tokens.rows.committed k = some t)
    (hverifier : t.tokenVerifier = m.sha256Hex (calls i).refreshTokenSecret)
    (hsession : t.sessionId = session) : result.isSuccess = false := by
  by_contra hne
  have hsuccess : result.isSuccess = true := by simpa using hne
  have hknows := h.annotated.2 i
  rw [hdone] at hknows hclear
  obtain ⟨session', hresult, k', t', ht', hverifier', hsession', -⟩ := hknows hsuccess
  obtain rfl := c.shared.tokens.unique ht ht' (hverifier.trans hverifier'.symm)
  rw [ht] at ht'
  obtain rfl := some.inj ht'
  exact hclear hsuccess (by rw [hresult, ← hsession', hsession])

/-- **Refresh token rotation.** For any number of refreshes and of processes that run the other statements of
the service, from any database that satisfies its schema, and for EVERY interleaving, with any statement
failing:

* of the calls with one secret at most one succeeds;
* once the reuse handling of a session has committed (in `c₁`), a call that starts afterwards does not
  succeed with a token of that session, whenever it ends (`c₂`). -/
theorem refresh_secret_once_none_after_reuse (m : TokenManager) (calls : ι → RefreshCall)
    (c₀ c₁ c₂ : RefreshSystem ι) (hinit : Unstarted c₀) (before after : List (ι × RefreshEnv))
    (hbefore : run (m.next calls) c₀ before = some c₁)
    (hafter : run (m.next calls) c₁ after = some c₂) :
    (∀ i j ri rj, i ≠ j → c₂.proc i = .done ri → c₂.proc j = .done rj → ri.isSuccess = true →
        rj.isSuccess = true → (calls i).refreshTokenSecret ≠ (calls j).refreshTokenSecret) ∧
      (∀ session ∈ c₁.shared.reuseHandled, ∀ i result, c₁.proc i = .start →
        c₂.proc i = .done result → (∃ k t, c₂.shared.tokens.rows.committed k = some t ∧
          t.tokenVerifier = m.sha256Hex (calls i).refreshTokenSecret ∧ t.sessionId = session) →
        result.isSuccess = false) := by
  have h₁ : RotationInv m calls c₁ := hinit.rotationInv.run hbefore
  have h₂ : RotationInv m calls c₂ := h₁.run hafter
  constructor
  · intro i j ri rj hij hi hj hsuccess hsuccess'
    refine h₂.once i j hij ?_ ?_
    · rw [hi]
      exact hsuccess
    rw [hj]
    exact hsuccess'
  · rintro session hhandled i result hstart hdone ⟨k, t, ht, hverifier, hsession⟩
    exact not_success_of_clear h₂ hdone (clear_run h₁ hhandled hstart hafter) ht hverifier hsession

end Runs

/-! ## A concrete run -/

namespace RotationSample

def manager : TokenManager := ⟨{}, id⟩

def user : Uuid := .ofByte 1
def device : Uuid := .ofByte 2
def session : Uuid := .ofByte 3

def initial : RefreshSystem (Fin 4) where
  proc i := if i = 3 then .other else .start
  shared := ⟨.empty, .empty, .empty, []⟩

def calls (i : Fin 4) : RefreshCall := ⟨if i = 2 then "b" else "a", device⟩

def token : RefreshTokenEntity :=
  ⟨.ofByte 10, session, device, "a", .active, 0, 600000, none, none, none⟩

def sessionRow : SessionEntity :=
  ⟨session, user, device, .active, .primaryOnly, 0, 3600000, none, 0⟩

def firstRefresh : List (Fin 4 × RefreshEnv) :=
  [(3, { now := 0, statement := .registerDevice ⟨device, user, .active, 0⟩ }),
   (3, { now := 0, statement := .createSession sessionRow }),
   (3, { now := 0, statement := .createToken token })] ++
  (List.replicate 9 (0, { now := 1000, freshId := .ofByte 11, freshSecret := "b" }))

def replay : List (Fin 4 × RefreshEnv) := List.replicate 6 (1, { now := 60000 })

end RotationSample

open RotationSample

theorem RotationSample.unstarted_initial : Unstarted initial := by
  refine ⟨⟨?_, ?_, ?_, fun _ => rfl, fun _ => rfl, rfl⟩, fun i => ?_⟩
  · rintro _ _ ⟨⟩
  · rintro _ _ ⟨⟩
  · rintro _ _ ⟨⟩
  by_cases hi : i = 3
  · exact .inr (if_pos hi)
  · exact .inl (if_neg hi)

/-- The first refresh succeeds, the replay revokes the session, and the successor secret, presented
afterwards, is refused. -/
theorem refresh_secret_once_after_replay : ∃ c₁ c₂, run (manager.next calls)
        initial (firstRefresh ++ replay) = some c₁ ∧
      run (manager.next calls) c₁ [(2, { now := 61000 })] = some c₂ ∧
      c₁.shared.reuseHandled = [session] ∧ (c₂.proc 0).pastCommit = true ∧
      (∀ i j ri rj, i ≠ j → c₂.proc i = .done ri → c₂.proc j = .done rj → ri.isSuccess = true →
        rj.isSuccess = true → (calls i).refreshTokenSecret ≠ (calls j).refreshTokenSecret) ∧
      ∀ s ∈ c₁.shared.reuseHandled, ∀ i result, c₁.proc i = .start →
        c₂.proc i = .done result → (∃ k t, c₂.shared.tokens.rows.committed k = some t ∧
          t.tokenVerifier = manager.sha256Hex (calls i).refreshTokenSecret ∧ t.sessionId = s) →
        result.isSuccess = false := by
  simp only [exists_and_left]
  refine exists_of_any (fun c₁ => (run (manager.next calls) c₁ [(2, { now := 61000 })]).any fun c₂ =>
    c₁.shared.reuseHandled = [session] ∧ (c₂.proc 0).pastCommit = true) (by decide)
    fun c₁ hbefore hany => exists_of_any _ hany fun c₂ hafter ⟨hhandled, hpast⟩ =>
      ⟨hhandled, hpast, ?_⟩
  exact refresh_secret_once_none_after_reuse manager calls _ c₁ c₂ unstarted_initial _ _ hbefore hafter

end SecureCloud.Auth
