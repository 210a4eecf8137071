import SecureCloud.Auth.Rotation

/-
# Auth.RefreshHistory — what refreshes never undo

Between any two points of a run the stored rows only move forward, and a success that was reported stays
backed by the rotated row of the secret that was presented.
-/

namespace SecureCloud.Auth

open Lib Lib.ReadCommitted Lib.Interleaving

variable {ι : Type} [DecidableEq ι]

/-- Forward: no row is lost, no token changes its verifier or session, and neither a token nor a
session becomes active again. -/
structure AuthDb.Forward (db db' : AuthDb ι) : Prop where
  tokens : Table.Evolves (tokenDiscipline db.Stored).Succ db.tokens.rows db'.tokens.rows
  sessions : Table.Evolves sessionDiscipline.Succ db.sessions db'.sessions

theorem AuthDb.Forward.spent {db db' : AuthDb ι} {verifier : String} {session : Uuid}
    (h : db.Forward db') (hspent : db.Spent verifier session) : db'.Spent verifier session := by
  obtain ⟨id, t, ht, hverifier, hsession, hstatus⟩ := hspent
  obtain ⟨t', ht', hsame, hsame', hnever⟩ := h.tokens id t ht
  exact ⟨id, t', ht', hsame.trans hverifier, hsame'.trans hsession, hnever hstatus⟩

/-- From any point of any interleaving to any later one, whichever statements fail. -/
theorem RotationInv.forward {m : TokenManager} {calls : ι → RefreshCall} {c₁ c₂ : RefreshSystem ι}
    {ms : List (ι × RefreshEnv)} (h₁ : RotationInv m calls c₁)
    (hrun : Interleaving.run (m.next calls) c₁ ms = some c₂) : c₁.shared.Forward c₂.shared := by
  refine (run_induction (A := fun _ _ => True)
    (I := fun c => RotationInv m calls c ∧ c₁.shared.Forward c.shared) ?_
    ⟨h₁, .refl (tokenDiscipline _).refl _, .refl sessionDiscipline.refl _⟩ (fun _ _ => trivial) hrun).2
  rintro c e c' - ⟨hc, htokens, hsessions⟩ hmove
  refine ⟨hc.move hmove, ?_⟩
  obtain ⟨pc', db', hnext, rfl⟩ := move_eq_some hmove
  have hacted := (next_moved hc.annotated.1 hnext).1
  exact ⟨htokens.trans (hacted.tokens.evolves hc.annotated.1.tokens) (tokenDiscipline _).trans,
    hsessions.trans (hacted.sessions.evolves hc.annotated.1.sessions) sessionDiscipline.trans⟩

/-- **What a refresh reports stays true**: the tables only move forward, and from a reported success on,
the token of the presented secret is stored, is of the session reported, and is not active. -/
theorem refresh_history_forward (m : TokenManager) (calls : ι → RefreshCall)
    (c₀ c₁ c₂ : RefreshSystem ι) (hinit : Unstarted c₀) (before after : List (ι × RefreshEnv))
    (hbefore : run (m.next calls) c₀ before = some c₁)
    (hafter : run (m.next calls) c₁ after = some c₂) :
    c₁.shared.Forward c₂.shared ∧
      ∀ i result, c₁.proc i = .done result → result.isSuccess = true →
        ∃ session, result.sessionId = some session ∧
          c₂.shared.Spent (m.sha256Hex (calls i).refreshTokenSecret) session := by
  have h₁ : RotationInv m calls c₁ := hinit.rotationInv.run hbefore
  have hforward := h₁.forward hafter
  refine ⟨hforward, fun i result hdone hsuccess => ?_⟩
  have hknows := h₁.annotated.2 i
  rw [hdone] at hknows
  obtain ⟨session, hsession, hspent⟩ := hknows hsuccess
  exact ⟨session, hsession, hforward.spent hspent⟩

open RotationSample

/-- The first refresh succeeds; the replay of its secret only moves the tables forward. -/
theorem refresh_history_after_replay : ∃ c₁ c₂, run (manager.next calls) initial firstRefresh = some c₁ ∧
    run (manager.next calls) c₁ replay = some c₂ ∧ (c₁.proc 0).pastCommit = true ∧
    c₁.shared.Forward c₂.shared := by
  simp only [exists_and_left]
  refine exists_of_any (fun c₁ => (run (manager.next calls) c₁ replay).any fun _ =>
    (c₁.proc 0).pastCommit = true) (by decide)
    fun c₁ hbefore hany => exists_of_any _ hany fun c₂ hafter hpast => ⟨hpast, ?_⟩
  exact (refresh_history_forward manager calls _ c₁ c₂ unstarted_initial _ _ hbefore hafter).1

end SecureCloud.Auth
