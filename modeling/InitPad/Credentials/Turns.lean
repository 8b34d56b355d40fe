import InitPad.Credentials.Service
import InitPad.Store.Totals

/-!
# InitPad.Credentials.Turns

What one step makes of the Agents. `Turn` lists everything that can become of one row, and
`Evolves` says which rows a step can touch; the invariant `WellIssued` and all later facts are
derived from these two alone.
-/

namespace InitPad.Credentials

open Interleave Store

variable {β : Type}

abbrev CredentialMoment := Moment Stmt ApiInput World Failure
abbrev CredentialStep := Transition Stmt ApiInput World Failure
abbrev CredentialSystem := Config Stmt ApiInput World Failure

/-- The row that `enroll` has read, its token and its time. -/
def Stmt.redeeming : Stmt β → Option (AgentRow × TokenHash EnrollmentToken × Time)
  | .redeem agent hash now _ => some (agent, hash, now)
  | _ => none

def AgentRow.Holds (row : AgentRow) (c : Credential) : Prop :=
  row.credentialHash = some (hashToken c) ∨ row.pendingCredentialHash = some (hashToken c)

def AgentRow.Follows (row : AgentRow) : Prop :=
  ∀ h, row.pendingCredentialHash = some h → row.credentialHash ≠ some h ∧
    row.pendingCredentialGeneration = some (row.credentialGeneration + 1)

def AgentRow.Sealed (row : AgentRow) : Prop :=
  row.disabledAt.isSome → row.credentialHash = none ∧ row.pendingCredentialHash = none

/-- What the statement `e` makes of a row. It draws `n`, if `n < n'`, for the Agent `a` alone. -/
inductive Turn (e : Stmt β) (n n' : Nat) (a : Id) (row : AgentRow) : AgentRow → Prop
  | same : Turn e n n' a row row
  | offered (expiresAt : Time) :
      n < n' → row.id = a → Turn e n n' a row (row.offered ⟨n⟩ expiresAt)
  | enrolled {agent : AgentRow} {hash : TokenHash EnrollmentToken} {now : Time}
      (dto : EnrollAgentDto) :
      e.redeeming = some (agent, hash, now) → agent.redeemable hash now row = true →
      n < n' → row.id = a → Turn e n n' a row (agent.enrolled ⟨n⟩ now dto row)
  | activated {agent : AuthenticatedAgent} (now : Time) (dto : AgentHeartbeatDto) :
      AgentRow.activatable agent row = true →
      Turn e n n' a row (AgentRow.activated agent now dto row)
  | seen {agent : AuthenticatedAgent} (now : Time) (dto : AgentHeartbeatDto) :
      AgentRow.recognized agent row = true → Turn e n n' a row (AgentRow.seen now dto row)
  | rotating {agent : AuthenticatedAgent} {now : Time} :
      AgentRow.rotatable agent now row = true → n < n' → row.id = a →
      Turn e n n' a row (AgentRow.rotating agent ⟨n⟩ now row)
  | revoked (now : Time) : Turn e n n' a row (row.revoked now)

/-- A step updates rows, or adds one with an id of its own. -/
inductive Evolves (e : Stmt β) (w w' : World) : Prop
  | updated (p : AgentRow → Bool) (d : AgentRow → AgentRow) (a : Id) :
      w.drawn ≤ w'.drawn → w'.agents = w.agents.updateMany p d →
      (∀ row, p row = true → Turn e w.drawn w'.drawn a row (d row)) → Evolves e w w'
  | created (targetId : Id) (expiresAt : Time) :
      w'.drawn = w.drawn + 1 →
      w'.agents = w.agents.insert (.created w.drawn targetId ⟨w.drawn⟩ expiresAt) → Evolves e w w'

/-! ## One row -/

namespace Turn

variable {e : Stmt β} {n n' : Nat} {a : Id} {row row' : AgentRow}

theorem id_eq (h : Turn e n n' a row row') : row'.id = row.id := by
  cases h <;> rfl

theorem holds (h : Turn e n n' a row row') {c : Credential} (hc : row'.Holds c) :
    row.Holds c ∨ c.random = n ∧ n < n' ∧ row.id = a := by
  cases h with
  | same => exact .inl hc
  | offered => exact .inl hc
  | seen => exact .inl hc
  | enrolled dto _ _ hdrawn hid =>
    rcases hc with hc | hc
    · cases hc
      exact .inr ⟨rfl, hdrawn, hid⟩
    · cases hc
  | activated now dto hmatch =>
    rcases hc with hc | hc
    · simp only [AgentRow.activatable, Bool.and_eq_true, decide_eq_true_eq] at hmatch
      exact .inl (.inr (hmatch.1.1.2.trans hc))
    · cases hc
  | rotating _ hdrawn hid =>
    rcases hc with hc | hc
    · exact .inl (.inl hc)
    · cases hc
      exact .inr ⟨rfl, hdrawn, hid⟩
  | revoked =>
    rcases hc with hc | hc
    · cases hc
    · cases hc

theorem token (h : Turn e n n' a row row') {t : EnrollmentToken}
    (ht : row'.enrollmentTokenHash = some (hashToken t)) :
    row.enrollmentTokenHash = some (hashToken t) ∨ t.random = n ∧ n < n' ∧ row.id = a := by
  cases h with
  | same | activated | seen | rotating => exact .inl ht
  | offered _ hdrawn hid =>
    cases ht
    exact .inr ⟨rfl, hdrawn, hid⟩
  | enrolled | revoked => cases ht

theorem follows (h : Turn e n n' a row row') (hrow : row.Follows)
    (hfresh : ∀ c, row.Holds c → c.random < n) : row'.Follows := by
  cases h with
  | same | offered | seen => exact hrow
  | enrolled | activated | revoked =>
    intro hash hpending
    cases hpending
  | rotating hmatch =>
    simp only [AgentRow.rotatable, Bool.and_eq_true, decide_eq_true_eq] at hmatch
    intro hash hpending
    cases hpending
    refine ⟨fun hactive => ?_, ?_⟩
    · exact absurd (hfresh ⟨n⟩ (.inl hactive)) (Nat.lt_irrefl n)
    · simp only [AgentRow.rotating, hmatch.1.1.2]

theorem sealed (h : Turn e n n' a row row') (hrow : row.Sealed) : row'.Sealed := by
  intro hdisabled
  cases h with
  | same => exact hrow hdisabled
  | offered => cases hdisabled
  | enrolled dto _ hmatch =>
    simp only [AgentRow.redeemable, Bool.and_eq_true, Option.isNone_iff_eq_none] at hmatch
    simp [AgentRow.enrolled, hmatch.2] at hdisabled
  | activated now dto hmatch =>
    simp only [AgentRow.activatable, Bool.and_eq_true, Option.isNone_iff_eq_none] at hmatch
    simp [AgentRow.activated, hmatch.2] at hdisabled
  | seen => exact hrow hdisabled
  | rotating hmatch =>
    simp only [AgentRow.rotatable, Bool.and_eq_true, Option.isNone_iff_eq_none] at hmatch
    simp [AgentRow.rotating, hmatch.1.2] at hdisabled
  | revoked => exact ⟨rfl, rfl⟩

/-- The credential that is active afterwards is the only one left of those before, once another one
has become active or the Agent is disabled. -/
theorem left (h : Turn e n n' a row row') (hrow : row.Sealed)
    (hsuperseded : row'.credentialHash ≠ row.credentialHash ∨ row'.disabledAt.isSome)
    {c : Credential} (hc : row'.Holds c) (hold : c.random < n) :
    row'.credentialHash = some (hashToken c) := by
  have hsealed := h.sealed hrow
  rcases hc with hc | hc
  · exact hc
  rcases hsuperseded with hchanged | hdisabled
  · cases h with
    | same | offered | seen => exact absurd rfl hchanged
    | enrolled | activated | revoked => cases hc
    | rotating =>
      cases hc
      exact absurd hold (Nat.lt_irrefl n)
  · rw [(hsealed hdisabled).2] at hc
    cases hc

end Turn

/-! ## All rows -/

structure DrawnOnce (Stored : AgentRow → Nat → Prop) (w : World) : Prop where
  lt : ∀ row ∈ w.agents.rows, ∀ k, Stored row k → k < w.drawn
  owner : ∀ row ∈ w.agents.rows, ∀ row' ∈ w.agents.rows, ∀ k,
    Stored row k → Stored row' k → row.id = row'.id

/-- What a step stores anew is drawn for the Agent `a`. -/
def DrawnFor (Stored : AgentRow → Nat → Prop) (w w' : World) (a : Id) : Prop :=
  ∀ row' ∈ w'.agents.rows, ∀ k, Stored row' k →
    (∃ row ∈ w.agents.rows, row.id = row'.id ∧ Stored row k) ∨
      k = w.drawn ∧ w.drawn < w'.drawn ∧ row'.id = a

theorem DrawnOnce.next {Stored : AgentRow → Nat → Prop} {w w' : World} {a : Id}
    (h : DrawnOnce Stored w) (hfor : DrawnFor Stored w w' a) (hle : w.drawn ≤ w'.drawn) :
    DrawnOnce Stored w' where
  lt row' hrow' k hk := by
    rcases hfor row' hrow' k hk with ⟨row, hrow, -, hold⟩ | ⟨rfl, hlt, -⟩
    · exact Nat.lt_of_lt_of_le (h.lt row hrow k hold) hle
    · exact hlt
  owner row₁ hrow₁ row₂ hrow₂ k hk₁ hk₂ := by
    rcases hfor row₁ hrow₁ k hk₁ with ⟨old₁, hmem₁, hid₁, hold₁⟩ | ⟨hnew₁, -, hid₁⟩
    · rcases hfor row₂ hrow₂ k hk₂ with ⟨old₂, hmem₂, hid₂, hold₂⟩ | ⟨hnew₂, -, -⟩
      · exact hid₁.symm.trans ((h.owner old₁ hmem₁ old₂ hmem₂ k hold₁ hold₂).trans hid₂)
      · have hlt := h.lt old₁ hmem₁ k hold₁
        omega
    · rcases hfor row₂ hrow₂ k hk₂ with ⟨old₂, hmem₂, -, hold₂⟩ | ⟨-, -, hid₂⟩
      · have hlt := h.lt old₂ hmem₂ k hold₂
        omega
      · exact hid₁.trans hid₂.symm

/-- Something that was drawn is stored no more. -/
def Gone (Stored : AgentRow → Nat → Prop) (k : Nat) (w : World) : Prop :=
  k < w.drawn ∧ ∀ row ∈ w.agents.rows, ¬ Stored row k

theorem Gone.next {Stored : AgentRow → Nat → Prop} {w w' : World} {a : Id} {k : Nat}
    (h : Gone Stored k w) (hfor : DrawnFor Stored w w' a) (hle : w.drawn ≤ w'.drawn) :
    Gone Stored k w' := by
  refine ⟨Nat.lt_of_lt_of_le h.1 hle, fun row' hrow' hk => ?_⟩
  rcases hfor row' hrow' k hk with ⟨row, hrow, -, hold⟩ | ⟨rfl, -, -⟩
  · exact h.2 row hrow hold
  · exact Nat.lt_irrefl _ h.1

def HoldsCredential (row : AgentRow) (k : Nat) : Prop := row.Holds ⟨k⟩

def HoldsToken (row : AgentRow) (k : Nat) : Prop :=
  row.enrollmentTokenHash = some (hashToken ⟨k⟩)

/-- The Agents as the requests leave them. -/
structure WellIssued (w : World) : Prop where
  unique : w.agents.Unique
  ids : ∀ row ∈ w.agents.rows, row.id < w.drawn
  credentials : DrawnOnce HoldsCredential w
  tokens : DrawnOnce HoldsToken w
  follows : ∀ row ∈ w.agents.rows, row.Follows
  sealed : ∀ row ∈ w.agents.rows, row.Sealed

theorem WellIssued.eq_of_id {w : World} (hw : WellIssued w) {row row' : AgentRow}
    (hrow : row ∈ w.agents.rows) (hrow' : row' ∈ w.agents.rows) (hid : row.id = row'.id) :
    row = row' := by
  have hfind := hw.unique.find?_of_mem hrow
  have hfind' := hw.unique.find?_of_mem hrow'
  simp only [key, hid] at hfind hfind'
  exact Option.some.inj (hfind.symm.trans hfind')

namespace Evolves

variable {e : Stmt β} {w w' : World}

theorem drawn_le (h : Evolves e w w') : w.drawn ≤ w'.drawn := by
  cases h with
  | updated _ _ _ hdrawn => exact hdrawn
  | created _ _ hdrawn => exact hdrawn ▸ Nat.le_succ _

theorem rows (h : Evolves e w w') : ∃ a, ∀ row' ∈ w'.agents.rows,
    (∃ row ∈ w.agents.rows, Turn e w.drawn w'.drawn a row row') ∨
      a = w.drawn ∧ w.drawn < w'.drawn ∧
        ∃ targetId expiresAt, row' = .created w.drawn targetId ⟨w.drawn⟩ expiresAt := by
  cases h with
  | updated p d a _ hagents hturn =>
    refine ⟨a, fun row' hrow' => .inl ?_⟩
    rw [hagents] at hrow'
    obtain ⟨row, hrow, rfl⟩ := Table.mem_updateMany.mp hrow'
    refine ⟨row, hrow, ?_⟩
    split
    · rename_i hp
      exact hturn row hp
    · exact .same
  | created targetId expiresAt hdrawn hagents =>
    refine ⟨w.drawn, fun row' hrow' => ?_⟩
    rw [hagents] at hrow'
    rcases Table.mem_insert.mp hrow' with hrow' | rfl
    · exact .inl ⟨row', hrow', .same⟩
    · exact .inr ⟨rfl, hdrawn ▸ Nat.lt_succ_self _, targetId, expiresAt, rfl⟩

theorem unique (h : Evolves e w w') (hw : WellIssued w) : w'.agents.Unique := by
  cases h with
  | updated p d a _ hagents hturn =>
    have hkeys : (w.agents.updateMany p d).keys = w.agents.keys := by
      simp only [Table.keys, Table.updateMany, List.map_map]
      refine List.map_congr_left fun row _ => ?_
      simp only [Function.comp]
      split
      · rename_i hp
        exact (hturn row hp).id_eq
      · rfl
    unfold Table.Unique
    rw [hagents, hkeys]
    exact hw.unique
  | created targetId expiresAt _ hagents =>
    rw [hagents]
    refine hw.unique.insert fun hmem => ?_
    obtain ⟨row, hrow, hid⟩ := List.mem_map.mp hmem
    have hlt := hw.ids row hrow
    exact absurd hid (Nat.ne_of_lt hlt)

theorem credentials_drawn (h : Evolves e w w') : ∃ a, DrawnFor HoldsCredential w w' a := by
  obtain ⟨a, hrows⟩ := h.rows
  refine ⟨a, fun row' hrow' k hk => ?_⟩
  rcases hrows row' hrow' with ⟨row, hrow, hturn⟩ | ⟨-, -, targetId, expiresAt, rfl⟩
  · rcases hturn.holds hk with hold | ⟨hnew, hlt, hid⟩
    · exact .inl ⟨row, hrow, hturn.id_eq.symm, hold⟩
    · exact .inr ⟨hnew, hlt, hturn.id_eq.trans hid⟩
  · rcases hk with hk | hk
    · cases hk
    · cases hk

theorem tokens_drawn (h : Evolves e w w') : ∃ a, DrawnFor HoldsToken w w' a := by
  obtain ⟨a, hrows⟩ := h.rows
  refine ⟨a, fun row' hrow' k hk => ?_⟩
  rcases hrows row' hrow' with ⟨row, hrow, hturn⟩ | ⟨ha, hlt, targetId, expiresAt, rfl⟩
  · rcases hturn.token hk with hold | ⟨hnew, hlt, hid⟩
    · exact .inl ⟨row, hrow, hturn.id_eq.symm, hold⟩
    · exact .inr ⟨hnew, hlt, hturn.id_eq.trans hid⟩
  · cases hk
    exact .inr ⟨rfl, hlt, ha.symm⟩

theorem wellIssued (h : Evolves e w w') (hw : WellIssued w) : WellIssued w' := by
  obtain ⟨_, hrows⟩ := h.rows
  obtain ⟨_, hcredentials⟩ := h.credentials_drawn
  obtain ⟨_, htokens⟩ := h.tokens_drawn
  constructor
  case unique => exact h.unique hw
  case credentials => exact hw.credentials.next hcredentials h.drawn_le
  case tokens => exact hw.tokens.next htokens h.drawn_le
  case ids =>
    intro row' hrow'
    rcases hrows row' hrow' with ⟨row, hrow, hturn⟩ | ⟨-, hlt, targetId, expiresAt, rfl⟩
    · rw [hturn.id_eq]
      exact Nat.lt_of_lt_of_le (hw.ids row hrow) h.drawn_le
    · exact hlt
  case follows =>
    intro row' hrow'
    rcases hrows row' hrow' with ⟨row, hrow, hturn⟩ | ⟨-, -, targetId, expiresAt, rfl⟩
    · exact hturn.follows (hw.follows row hrow) fun c => hw.credentials.lt row hrow c.random
    · intro hash hpending
      cases hpending
  case sealed =>
    intro row' hrow'
    rcases hrows row' hrow' with ⟨row, hrow, hturn⟩ | ⟨-, -, targetId, expiresAt, rfl⟩
    · exact hturn.sealed (hw.sealed row hrow)
    · exact fun _ => ⟨rfl, rfl⟩

end Evolves

/-! ## One statement -/

theorem evolves_of_agents {e : Stmt β} {w w' : World} (hagents : w'.agents = w.agents)
    (hdrawn : w.drawn ≤ w'.drawn) : Evolves e w w' := by
  refine .updated (fun _ => false) (fun row => row) 0 hdrawn ?_ fun _ h => by cases h
  rw [hagents]
  exact (Table.updateMany_of_none fun _ _ => rfl).symm

theorem evolves_refl (e : Stmt β) (w : World) : Evolves e w w :=
  evolves_of_agents rfl (Nat.le_refl _)

theorem upsertEnrollment_evolves {targetId : Id} {expiresAt : Time} {w w' : World}
    {b : EnrollmentToken × AgentRow} (h : w.upsertEnrollment targetId expiresAt = .ok (b, w')) :
    Evolves (Stmt.upsertEnrollment targetId expiresAt) w w' := by
  unfold World.upsertEnrollment at h
  split at h
  · rename_i found _
    cases h
    refine .updated _ _ found.id (Nat.le_succ _) rfl fun row hp => ?_
    exact .offered expiresAt (Nat.lt_succ_self _) (of_decide_eq_true hp)
  · split at h
    · cases h
    · cases h
      exact .created targetId expiresAt rfl rfl

theorem redeem_agents {agent : AgentRow} {hash : TokenHash EnrollmentToken} {now : Time}
    {dto : EnrollAgentDto} {w w' : World} {b : Credential × Nat}
    (h : w.redeem agent hash now dto = .ok (b, w')) : w'.drawn = w.drawn + 1 ∧ w'.agents =
      w.agents.updateMany (agent.redeemable hash now) (agent.enrolled ⟨w.drawn⟩ now dto) := by
  unfold World.redeem at h
  dsimp only at h
  split at h
  · cases h
    exact ⟨rfl, rfl⟩
  · split at h
    · cases h
    · cases h
      exact ⟨rfl, rfl⟩

theorem redeem_evolves {agent : AgentRow} {hash : TokenHash EnrollmentToken} {now : Time}
    {dto : EnrollAgentDto} {w w' : World} {b : Credential × Nat}
    (h : w.redeem agent hash now dto = .ok (b, w')) :
    Evolves (Stmt.redeem agent hash now dto) w w' := by
  obtain ⟨hdrawn, hagents⟩ := redeem_agents h
  refine .updated _ _ agent.id (hdrawn ▸ Nat.le_succ _) hagents fun row hp => ?_
  have hid : row.id = agent.id := by
    simp only [AgentRow.redeemable, Bool.and_eq_true, decide_eq_true_eq] at hp
    exact hp.1.1.1
  exact .enrolled dto rfl hp (hdrawn ▸ Nat.lt_succ_self _) hid

theorem issueRotation_evolves (agent : AuthenticatedAgent) (now : Time) (w : World) :
    Evolves (Stmt.issueRotation agent now) w (w.issueRotation agent now).2 := by
  refine .updated _ _ agent.id (Nat.le_succ _) rfl fun row hp => ?_
  have hid : row.id = agent.id := by
    simp only [AgentRow.rotatable, Bool.and_eq_true, decide_eq_true_eq] at hp
    exact hp.1.1.1.1
  exact .rotating hp (Nat.lt_succ_self _) hid

theorem run_evolves {e : Stmt β} {i : ApiInput} {w w' : World} {b : β}
    (h : e.run i w = .ok (b, w')) : Evolves e w w' := by
  cases e with
  | aside | clock | findTarget | countOperations | findByTarget | findByEnrollment
  | findByCredential =>
    cases h
    exact evolves_refl _ w
  | upsertEnrollment => exact upsertEnrollment_evolves h
  | redeem => exact redeem_evolves h
  | activate agent now dto =>
    cases h
    exact .updated _ _ 0 (Nat.le_refl _) rfl fun _ hp => .activated now dto hp
  | recordHeartbeat agent now dto =>
    cases h
    exact .updated _ _ 0 (Nat.le_refl _) rfl fun _ hp => .seen now dto hp
  | issueRotation agent now =>
    cases h
    exact issueRotation_evolves agent now w
  | makeUnavailable targetId nextState now =>
    simp only [Stmt.run, World.makeUnavailable] at h
    split at h
    · cases h
    · cases h
      exact .updated _ _ 0 (Nat.le_refl _) rfl fun _ _ => .revoked now
  | restoreTarget id =>
    simp only [Stmt.run, World.restoreTarget] at h
    split at h
    · cases h
    · cases h
      exact evolves_of_agents rfl (Nat.le_refl _)

theorem post_state (x : CredentialStep) :
    x.post.state = x.pre.state.tick x.input.elapsed ∨
      ∃ b, x.stmt.run x.input (x.pre.state.tick x.input.elapsed) = .ok (b, x.post.state) := by
  obtain ⟨m, t, e, i⟩ := x
  simp only [Transition.post, Moment.next_state, exec]
  cases hrun : e.run i (m.state.tick i.elapsed) with
  | error failure =>
    left
    cases i.fault with
    | none => rfl
    | some fault => exact ite_self _
  | ok r =>
    cases i.fault with
    | none => exact .inr ⟨r.1, rfl⟩
    | some fault =>
      dsimp only
      split
      · exact .inr ⟨r.1, rfl⟩
      · exact .inl rfl

theorem post_evolves (x : CredentialStep) : Evolves x.stmt x.pre.state x.post.state := by
  rcases post_state x with h | ⟨b, h⟩
  · rw [h]
    exact evolves_of_agents rfl (Nat.le_refl _)
  · cases run_evolves h with
    | updated p d a hdrawn hagents hturn => exact .updated p d a hdrawn hagents hturn
    | created targetId expiresAt hdrawn hagents => exact .created targetId expiresAt hdrawn hagents

theorem wellIssued_post {x : CredentialStep} (h : WellIssued x.pre.state) :
    WellIssued x.post.state := (post_evolves x).wellIssued h

end InitPad.Credentials
