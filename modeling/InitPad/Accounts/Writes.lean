import InitPad.Accounts.Service
import InitPad.Store.Totals

/-!
# InitPad.Accounts.Writes

What one statement writes. `Effect` lists everything that can become of the tables; later facts
are derived from it and not from the statements.
-/

namespace InitPad.Accounts

open Interleave Store

variable {β : Type}

abbrev AccountMoment := Moment Stmt ApiInput World Failure
abbrev AccountStep := Transition Stmt ApiInput World Failure
abbrev AccountSystem := Config Stmt ApiInput World Failure
abbrev History := List (Event Stmt ApiInput Failure)

def Stmt.created : Stmt β → Option NewUser
  | .createUser data => some data
  | _ => none

/-- The accounts that the statement updates, and how. -/
def Stmt.rewrites : Stmt β → Option ((UserRow → Bool) × (UserRow → UserRow))
  | .replacePassword userId passwordHash _ => some ((·.id = userId), .withPassword passwordHash)
  | .verifyEmail userId now => some ((·.id = userId), .verified now)
  | .clearAccessToken userId => some ((·.id = userId), .withoutAccessToken)
  | .signOutEverywhere sub version =>
    some (fun row => row.id = sub && row.tokenVersion = version, .signedOut)
  | _ => none

def Stmt.issuesLink : Stmt β → Option (Id × MailKind)
  | .issueAuthToken userId kind _ => some (userId, kind)
  | _ => none

def Stmt.claimsLink : Stmt β → Option (Id × MailKind × Time)
  | .claimAuthToken id kind now => some (id, kind, now)
  | _ => none

/-- The session that the statement stores: whose, and its generation. -/
def Stmt.opensSession : Stmt β → Option (Id × Nat)
  | .createSession userId version _ _ => some (userId, version)
  | _ => none

/-- The grant that the statement stores: its kind, whose, and its generation. -/
def Stmt.grants : Stmt β → Option (GrantKind × Id × Nat)
  | .createGrant kind userId tokenVersion _ _ _ _ => some (kind, userId, tokenVersion)
  | _ => none

/-- The code that the statement redeems, and the time that it compares. -/
def Stmt.claimsCode : Stmt β → Option (TokenHash × Time)
  | .claimCode hash now => some (hash, now)
  | _ => none

def Stmt.signs : Stmt β → Option JwtPayload
  | .sign payload => some payload
  | _ => none

inductive Effect (e : Stmt β) (w : World) : World → Prop
  | quiet (n : Nat) : Effect e w { w with drawn := w.drawn + n }
  | createdUser {data : NewUser} {row : UserRow} :
      e.created = some data → row.id = w.drawn → row.tokenVersion = 0 →
      Effect e w { w.draw with users := w.users.insert row }
  | rewroteUsers {p : UserRow → Bool} {change : UserRow → UserRow} :
      e.rewrites = some (p, change) → Effect e w { w with users := w.users.updateMany p change }
  | issuedLink {userId : Id} {kind : MailKind} (expiresAt : Time) :
      e.issuesLink = some (userId, kind) → (w.users.find? userId).isSome →
      Effect e w { w.draw with
        authTokens := (w.authTokens.updateMany (AuthTokenRow.superseded userId kind)
          (AuthTokenRow.used w.now)).insert
            ⟨w.drawn, userId, kind, hashToken ⟨w.drawn⟩, expiresAt, none⟩ }
  | claimedLink {id : Id} {kind : MailKind} {now : Time} :
      e.claimsLink = some (id, kind, now) →
      Effect e w { w with
        authTokens := w.authTokens.updateMany (AuthTokenRow.claimable id kind now)
          (AuthTokenRow.used now) }
  | prunedSessions (now : Time) :
      Effect e w { w with sessions := w.sessions.deleteMany (·.expiresAt < now) }
  | openedSession {userId : Id} {version : Nat} (userAgent : Option String) (expiresAt : Time) :
      e.opensSession = some (userId, version) → (w.users.find? userId).isSome →
      Effect e w { w.draw with
        sessions := w.sessions.insert ⟨w.drawn, userId, version, userAgent, expiresAt, none⟩ }
  | signed {payload : JwtPayload} :
      e.signs = some payload → Effect e w { w with signed := payload :: w.signed }
  | endedSessions (p : UserSession → Bool) (now : Time) :
      Effect e w { w with sessions := w.sessions.updateMany p (UserSession.revoked now) }
  | prunedGrants (now : Time) :
      Effect e w { w with grants := w.grants.deleteMany (·.expiresAt < now) }
  | granted {kind : GrantKind} {userId : Id} {tokenVersion : Nat}
      (clientId redirectUri nonce : Option String) (expiresAt : Time) :
      e.grants = some (kind, userId, tokenVersion) →
      Effect e w { w.draw with
        grants := w.grants.insert ⟨w.drawn, userId, kind, hashToken ⟨w.drawn⟩, tokenVersion,
          clientId, redirectUri, nonce, expiresAt, none⟩ }
  | claimedCode {hash : TokenHash} {now : Time} :
      e.claimsCode = some (hash, now) →
      Effect e w { w with
        grants := w.grants.updateMany (OidcGrant.redeemable hash now) (OidcGrant.used now) }

theorem updateUser_world {w w' : World} {id : Id} {change : UserRow → UserRow} {row : UserRow}
    (h : w.updateUser id change = .ok (row, w')) :
    w' = { w with users := w.users.updateMany (·.id = id) change } := by
  unfold World.updateUser at h
  split at h
  · cases h
  · cases h
    rfl

theorem updateUser_unit {w w' : World} {id : Id} {change : UserRow → UserRow} {b : Unit}
    (h : ((w.updateUser id change).map fun r => ((), r.2)) = .ok (b, w')) :
    w' = { w with users := w.users.updateMany (·.id = id) change } := by
  cases hupdate : w.updateUser id change with
  | error x => rw [hupdate] at h; cases h
  | ok r =>
    rw [hupdate] at h
    cases h
    exact updateUser_world hupdate

theorem run_effect {settings : Settings} {e : Stmt β} {i : ApiInput} {w w' : World} {b : β}
    (h : e.run settings i w = .ok (b, w')) : Effect e w w' := by
  cases e with
  | hashPassword =>
    cases h
    exact .quiet 1
  | createUser data =>
    have h : w.createUser data = .ok (b, w') := h
    unfold World.createUser at h
    split at h
    · cases h
    · cases h
      exact .createdUser rfl rfl rfl
  | replacePassword userId passwordHash action =>
    rw [updateUser_world h]
    exact .rewroteUsers rfl
  | verifyEmail userId now =>
    rw [updateUser_unit h]
    exact .rewroteUsers rfl
  | clearAccessToken userId =>
    rw [updateUser_unit h]
    exact .rewroteUsers rfl
  | issueAuthToken userId kind ttlMs =>
    have h : w.issueAuthToken userId kind ttlMs = .ok (b, w') := h
    unfold World.issueAuthToken at h
    split at h
    · cases h
    · rename_i hsome
      cases h
      exact .issuedLink _ rfl (by simpa [Option.isSome_iff_ne_none] using hsome)
  | claimAuthToken id kind now =>
    cases h
    exact .claimedLink rfl
  | pruneSessions now =>
    cases h
    exact .prunedSessions now
  | createSession userId version userAgent expiresAt =>
    have h : w.createSession userId version userAgent expiresAt = .ok (b, w') := h
    unfold World.createSession at h
    split at h
    · cases h
    · rename_i hsome
      cases h
      exact .openedSession userAgent expiresAt rfl (by simpa [Option.isSome_iff_ne_none] using hsome)
  | sign payload =>
    cases h
    exact .signed rfl
  | verifyToken payload =>
    have h : (if payload ∈ w.signed then Except.ok ((), w) else .error (Failure.other "invalid signature"))
        = .ok (b, w') := h
    split at h
    · cases h
      exact .quiet 0
    · cases h
  | revokeSession sid sub now =>
    cases h
    exact .endedSessions _ now
  | signOutEverywhere sub version =>
    cases h
    exact .rewroteUsers rfl
  | revokeSessions userId version filter now =>
    cases h
    exact .endedSessions _ now
  | pruneGrants now =>
    cases h
    exact .prunedGrants now
  | createGrant kind userId tokenVersion clientId redirectUri nonce expiresAt =>
    have h : w.createGrant kind userId tokenVersion clientId redirectUri nonce expiresAt
        = .ok (b, w') := h
    unfold World.createGrant at h
    split at h
    · cases h
    · cases h
      exact .granted clientId redirectUri nonce expiresAt rfl
  | claimCode hash now =>
    cases h
    exact .claimedCode rfl
  | _ =>
    cases h
    exact .quiet 0

variable [Installation]

theorem post_effect (x : AccountStep) :
    Effect x.stmt (x.pre.state.tick x.input.elapsed) x.post.state := by
  obtain ⟨m, t, e, i⟩ := x
  rcases execute_state (e.fault i) (e.run settings i (m.state.tick i.elapsed))
    (m.state.tick i.elapsed) with h | ⟨b, h⟩
  · simp only [Transition.post, Moment.next_state, exec, h]
    exact .quiet 0
  · exact run_effect h

end InitPad.Accounts
