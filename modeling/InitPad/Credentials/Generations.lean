import InitPad.Credentials.Turns

/-!
# InitPad.Credentials.Generations

The credentials of the Agents under any number of requests at once. A token is redeemed once and a
superseded credential is refused forever, in every run. The generation of the active credential
grows with each new one unless `enroll` claims a row whose generation has moved since it was read:
its compare-and-set covers the token, but not the generation.
-/

namespace InitPad.Credentials

open Interleave Store

variable {β : Type}

def Calls (_ : CredentialMoment) (p : ApiCall Unit) : Prop := Request p

/-- `enroll` claims a row with the generation that it has read. -/
def Current (x : CredentialStep) : Prop :=
  ∀ agent hash now, x.stmt.redeeming = some (agent, hash, now) →
    ∀ row ∈ x.pre.state.agents.rows, agent.redeemable hash now row = true →
      row.credentialGeneration = agent.credentialGeneration

def Redeems (token : EnrollmentToken) (x : CredentialStep) : Prop :=
  (∃ agent now, x.stmt.redeeming = some (agent, hashToken token, now)) ∧
    x.post.state.agents ≠ x.pre.state.agents

/-- Another credential becomes the active one with a greater generation. -/
def Increases (x : CredentialStep) : Prop :=
  ∀ row ∈ x.pre.state.agents.rows, ∀ row' ∈ x.post.state.agents.rows, row'.id = row.id →
    row'.credentialHash ≠ row.credentialHash → row'.credentialHash ≠ none →
      row.credentialGeneration < row'.credentialGeneration

def states (tr : List CredentialStep) (c : CredentialSystem) : List World :=
  tr.map (·.pre.state) ++ [c.moment.state]

def OwnGenerations (w w' : World) : Prop :=
  ∀ row ∈ w.agents.rows, ∀ row' ∈ w'.agents.rows, row'.id = row.id →
    row'.credentialGeneration = row.credentialGeneration → ∀ hash hash',
      row.credentialHash = some hash → row'.credentialHash = some hash' → hash' = hash

/-- After the step, `c` is not the active credential of the Agent `a`, and either another one was
before or the Agent is disabled. -/
def Supersedes (x : CredentialStep) (a : Id) (c : Credential) : Prop :=
  ∃ row ∈ x.pre.state.agents.rows, ∃ row' ∈ x.post.state.agents.rows, row.id = a ∧ row'.id = a ∧
    (row'.credentialHash ≠ row.credentialHash ∨ row'.disabledAt.isSome) ∧
      row'.credentialHash ≠ some (hashToken c)

/-- The Agent `a` holds `c` before the step. -/
def HeldBefore (x : CredentialStep) (a : Id) (c : Credential) : Prop :=
  ∃ row ∈ x.pre.state.agents.rows, row.id = a ∧ row.Holds c

/-- The credential of the request that the statement belongs to. -/
def Stmt.bears : Stmt β → Option Credential
  | .findByCredential hash => some hash.token
  | .activate agent _ _ | .recordHeartbeat agent _ _ | .issueRotation agent _ =>
    some agent.credentialHash.token
  | _ => none

/-- The answer lets the request go on. -/
def Stmt.accepted : Stmt β → Except Failure β → Prop
  | .findByCredential hash, .ok found => ∃ agent, authenticated found hash = .ok agent
  | .activate .., .ok accepted => accepted = 1
  | .recordHeartbeat .., .ok accepted => accepted = 1
  | .issueRotation .., .ok issued => issued.2 = 1
  | _, _ => False

def Refuses (x : CredentialStep) : Prop :=
  ¬ x.stmt.accepted x.result ∧ x.post.state.agents = x.pre.state.agents

structure CredentialProtocol (tr : List CredentialStep) (c : CredentialSystem) : Prop where
  redeemedOnce : tr.Pairwise fun x y => ∀ token, Redeems token x → ¬ Redeems token y
  increases : ∀ x ∈ tr, Increases x
  ownGenerations : (states tr c).Pairwise OwnGenerations
  refused : ∀ tr₁ x tr₂, tr = tr₁ ++ x :: tr₂ → ∀ a credential, Supersedes x a credential →
    (∃ z ∈ tr₁ ++ [x], HeldBefore z a credential) →
      ∀ y ∈ tr₂, y.stmt.bears = some credential → Refuses y

theorem redeems_rows {token : EnrollmentToken} {x : CredentialStep} (h : Redeems token x) :
    ∃ (agent : AgentRow) (now : Time) (credential : Credential) (dto : EnrollAgentDto),
      x.post.state.agents = x.pre.state.agents.updateMany (agent.redeemable (hashToken token) now)
        (agent.enrolled credential now dto) ∧
      ∃ row ∈ x.pre.state.agents.rows, agent.redeemable (hashToken token) now row = true := by
  obtain ⟨⟨agent, now, hredeeming⟩, hchanged⟩ := h
  obtain ⟨m, t, e, i⟩ := x
  cases e with
  | redeem agent' hash' now' dto =>
    cases hredeeming
    rcases post_state ⟨m, t, .redeem agent (hashToken token) now dto, i⟩ with h | ⟨b, h⟩
    · exact absurd (congrArg World.agents h) hchanged
    obtain ⟨-, hagents⟩ := redeem_agents h
    refine ⟨agent, now, _, dto, hagents, ?_⟩
    by_contra hnone
    simp only [not_exists, not_and, Bool.not_eq_true] at hnone
    exact hchanged (hagents.trans (Table.updateMany_of_none hnone))
  | _ => cases hredeeming

theorem spent_post {token : EnrollmentToken} {x : CredentialStep} (hw : WellIssued x.pre.state)
    (h : Redeems token x) : Gone HoldsToken token.random x.post.state := by
  obtain ⟨agent, now, credential, dto, hagents, row, hrow, hmatch⟩ := redeems_rows h
  have htoken : row.enrollmentTokenHash = some (hashToken token) := by
    simp only [AgentRow.redeemable, Bool.and_eq_true, decide_eq_true_eq] at hmatch
    exact hmatch.1.1.2
  have hlt := hw.tokens.lt row hrow token.random htoken
  refine ⟨Nat.lt_of_lt_of_le hlt (post_evolves x).drawn_le, fun row' hrow' htoken' => ?_⟩
  rw [hagents] at hrow'
  obtain ⟨old, hold, rfl⟩ := Table.mem_updateMany.mp hrow'
  split at htoken'
  · cases htoken'
  · rename_i hunmatched
    have hid := hw.tokens.owner old hold row hrow token.random htoken' htoken
    obtain rfl := hw.eq_of_id hold hrow hid
    exact hunmatched hmatch

theorem not_redeems_of_gone {token : EnrollmentToken} {x : CredentialStep}
    (h : Gone HoldsToken token.random x.pre.state) : ¬ Redeems token x := by
  intro hredeems
  obtain ⟨agent, now, credential, dto, -, row, hrow, hmatch⟩ := redeems_rows hredeems
  simp only [AgentRow.redeemable, Bool.and_eq_true, decide_eq_true_eq] at hmatch
  exact h.2 row hrow hmatch.1.1.2

/-! ## Superseded credentials -/

theorem gone_post {Stored : AgentRow → Nat → Prop} {k : Nat} {x : CredentialStep}
    (hfor : ∃ a, DrawnFor Stored x.pre.state x.post.state a) (h : Gone Stored k x.pre.state) :
    Gone Stored k x.post.state := by
  obtain ⟨a, hfor⟩ := hfor
  exact h.next hfor (post_evolves x).drawn_le

/-- The credential is the Agent's, or nobody's. -/
def HeldOrGone (a : Id) (c : Credential) (w : World) : Prop :=
  (∃ row ∈ w.agents.rows, row.id = a ∧ row.Holds c) ∨ Gone HoldsCredential c.random w

theorem heldOrGone_post {a : Id} {c : Credential} {x : CredentialStep}
    (hw : WellIssued x.pre.state) (h : HeldOrGone a c x.pre.state) :
    HeldOrGone a c x.post.state := by
  rcases h with ⟨row, hrow, hid, hholds⟩ | hgone
  · obtain ⟨b, hfor⟩ := (post_evolves x).credentials_drawn
    have hlt := hw.credentials.lt row hrow c.random hholds
    by_cases hleft : ∃ row' ∈ x.post.state.agents.rows, HoldsCredential row' c.random
    · obtain ⟨row', hrow', hholds'⟩ := hleft
      rcases hfor row' hrow' c.random hholds' with ⟨old, hold, hidold, hholdsold⟩ | ⟨hnew, -, -⟩
      · have hsame := hw.credentials.owner old hold row hrow c.random hholdsold hholds
        exact .inl ⟨row', hrow', hidold.symm.trans (hsame.trans hid), hholds'⟩
      · exact absurd hnew (Nat.ne_of_lt hlt)
    · refine .inr ⟨Nat.lt_of_lt_of_le hlt (post_evolves x).drawn_le, fun row' hrow' hholds' => ?_⟩
      exact hleft ⟨row', hrow', hholds'⟩
  · exact .inr (gone_post (post_evolves x).credentials_drawn hgone)

theorem superseded_gone {a : Id} {c : Credential} {x : CredentialStep}
    (hw : WellIssued x.pre.state) (hsupersedes : Supersedes x a c)
    (h : HeldOrGone a c x.pre.state) : Gone HoldsCredential c.random x.post.state := by
  rcases heldOrGone_post hw h with ⟨left, hleft, hid, hholds⟩ | hgone
  · exfalso
    obtain ⟨row, hrow, row', hrow', hida, hida', hchanged, hother⟩ := hsupersedes
    have hw' := wellIssued_post hw
    obtain rfl := hw'.eq_of_id hleft hrow' (hid.trans hida'.symm)
    obtain ⟨b, hrows⟩ := (post_evolves x).rows
    rcases hrows left hleft with ⟨old, hold, hturn⟩ | ⟨-, -, targetId, expiresAt, rfl⟩
    · obtain rfl := hw.eq_of_id hold hrow (hturn.id_eq.symm.trans (hida'.trans hida.symm))
      rcases h with ⟨old', hold', hidold', hholds'⟩ | hgone
      · have hlt := hw.credentials.lt old' hold' c.random hholds'
        exact hother (hturn.left (hw.sealed old hold) hchanged hholds hlt)
      · have hgone' := gone_post (post_evolves x).credentials_drawn hgone
        exact hgone'.2 left hleft hholds
    · rcases hholds with hholds | hholds
      · cases hholds
      · cases hholds
  · exact hgone

theorem refuses_of_run {x : CredentialStep}
    (h : ∀ w, w.agents = x.pre.state.agents → ∃ b w', x.stmt.run x.input w = .ok (b, w') ∧
      w'.agents = w.agents ∧ ¬ x.stmt.accepted (.ok b)) : Refuses x := by
  obtain ⟨b, w', hrun, hagents, haccepted⟩ := h (x.pre.state.tick x.input.elapsed) rfl
  refine ⟨?_, ?_⟩
  · obtain ⟨m, t, e, i⟩ := x
    dsimp only at hrun haccepted
    simp only [Transition.result, exec, hrun, commit]
    cases i.fault with
    | none => exact haccepted
    | some fault => cases e <;> exact fun h => h
  · rcases post_state x with h | ⟨b', h⟩
    · rw [h]
      rfl
    · cases hrun.symm.trans h
      exact hagents

theorem count_ne_one {t : Table AgentRow} {p : AgentRow → Bool}
    (h : ∀ row ∈ t.rows, p row = false) : t.count p ≠ 1 := by
  have hzero : t.count p = 0 :=
    (Table.count_eq_zero_iff t p).mpr fun row hrow => by simp [h row hrow]
  omega

theorem refuses_of_gone {c : Credential} {x : CredentialStep}
    (h : Gone HoldsCredential c.random x.pre.state) (hbears : x.stmt.bears = some c) :
    Refuses x := by
  obtain ⟨-, hgone⟩ := h
  obtain ⟨m, t, e, i⟩ := x
  refine refuses_of_run fun w hagents => ?_
  dsimp only at hagents hgone hbears ⊢
  rw [← hagents] at hgone
  have hactive : ∀ row ∈ w.agents.rows, row.credentialHash ≠ some (hashToken c) :=
    fun row hrow heq => hgone row hrow (.inl heq)
  have hpending : ∀ row ∈ w.agents.rows, row.pendingCredentialHash ≠ some (hashToken c) :=
    fun row hrow heq => hgone row hrow (.inr heq)
  cases e with
  | findByCredential hash =>
    cases hbears
    refine ⟨_, w, rfl, rfl, ?_⟩
    have hnone : w.findByCredential hash = none := by
      refine List.find?_eq_none.mpr fun row hrow hfound => ?_
      rcases (Bool.or_eq_true _ _).mp hfound with hfound | hfound
      · exact hactive row hrow (of_decide_eq_true hfound)
      · exact hpending row hrow (of_decide_eq_true hfound)
    rw [hnone]
    rintro ⟨agent, hagent⟩
    cases hagent
  | activate agent now dto =>
    cases hbears
    have hnone : ∀ row ∈ w.agents.rows, AgentRow.activatable agent row = false := by
      intro row hrow
      have hne : row.pendingCredentialHash ≠ some agent.credentialHash := hpending row hrow
      simp [AgentRow.activatable, hne]
    refine ⟨_, _, rfl, Table.updateMany_of_none hnone, ?_⟩
    exact count_ne_one hnone
  | recordHeartbeat agent now dto =>
    cases hbears
    have hnone : ∀ row ∈ w.agents.rows, AgentRow.recognized agent row = false := by
      intro row hrow
      have hne : row.credentialHash ≠ some agent.credentialHash := hactive row hrow
      simp [AgentRow.recognized, hne]
    refine ⟨_, _, rfl, Table.updateMany_of_none hnone, ?_⟩
    exact count_ne_one hnone
  | issueRotation agent now =>
    cases hbears
    have hnone : ∀ row ∈ w.agents.rows, AgentRow.rotatable agent now row = false := by
      intro row hrow
      have hne : row.credentialHash ≠ some agent.credentialHash := hactive row hrow
      simp [AgentRow.rotatable, hne]
    refine ⟨_, _, rfl, Table.updateMany_of_none hnone, ?_⟩
    exact count_ne_one hnone
  | _ => cases hbears

/-! ## Generations -/

namespace Turn

variable {e : Stmt β} {n n' : Nat} {a : Id} {row row' : AgentRow}

theorem generation (h : Turn e n n' a row row') (hfollows : row.Follows)
    (hcurrent : ∀ agent hash now, e.redeeming = some (agent, hash, now) →
      agent.redeemable hash now row = true →
        row.credentialGeneration = agent.credentialGeneration) :
    row.credentialGeneration < row'.credentialGeneration ∨
      row'.credentialGeneration = row.credentialGeneration ∧
        (row'.credentialHash = row.credentialHash ∨ row'.credentialHash = none) := by
  cases h with
  | same | offered | seen | rotating => exact .inr ⟨rfl, .inl rfl⟩
  | revoked => exact .inr ⟨rfl, .inr rfl⟩
  | enrolled dto he hmatch =>
    refine .inl ?_
    rw [hcurrent _ _ _ he hmatch]
    exact Nat.lt_succ_self _
  | @activated agent now dto hmatch =>
    simp only [AgentRow.activatable, Bool.and_eq_true, decide_eq_true_eq] at hmatch
    have hnext := (hfollows _ hmatch.1.1.2).2
    have hgeneration : agent.credentialGeneration = row.credentialGeneration + 1 :=
      Option.some.inj (hmatch.1.2.symm.trans hnext)
    refine .inl ?_
    simp only [AgentRow.activated, hgeneration]
    exact Nat.lt_succ_self _

end Turn

/-- Ids stay, and a row keeps its generation only while it has the same active credential. -/
structure Later (w w' : World) : Prop where
  drawn : w.drawn ≤ w'.drawn
  ids : ∀ row ∈ w.agents.rows, row.id < w.drawn
  generation : ∀ row ∈ w.agents.rows, ∀ row' ∈ w'.agents.rows, row'.id = row.id →
    row.credentialGeneration < row'.credentialGeneration ∨
      row'.credentialGeneration = row.credentialGeneration ∧
        (row'.credentialHash = row.credentialHash ∨ row'.credentialHash = none)

theorem Later.refl {w : World} (hw : WellIssued w) : Later w w where
  drawn := Nat.le_refl _
  ids := hw.ids
  generation row hrow row' hrow' hid := by
    obtain rfl := hw.eq_of_id hrow' hrow hid
    exact .inr ⟨rfl, .inl rfl⟩

theorem Later.own {w w' : World} (h : Later w w') : OwnGenerations w w' := by
  intro row hrow row' hrow' hid hgeneration hash hash' hhash hhash'
  rcases h.generation row hrow row' hrow' hid with hlt | ⟨-, hsame | hnone⟩
  · omega
  · exact Option.some.inj (hhash'.symm.trans (hsame.trans hhash))
  · rw [hnone] at hhash'
    cases hhash'

theorem later_post {w : World} {x : CredentialStep} (hw : WellIssued x.pre.state)
    (hcurrent : Current x) (h : Later w x.pre.state) : Later w x.post.state where
  drawn := Nat.le_trans h.drawn (post_evolves x).drawn_le
  ids := h.ids
  generation row hrow row' hrow' hid := by
    obtain ⟨a, hrows⟩ := (post_evolves x).rows
    rcases hrows row' hrow' with ⟨old, hold, hturn⟩ | ⟨-, -, targetId, expiresAt, rfl⟩
    · have hidold : old.id = row.id := hturn.id_eq.symm.trans hid
      have hturned := hturn.generation (hw.follows old hold) fun agent hash now hredeeming hmatch =>
        hcurrent agent hash now hredeeming old hold hmatch
      rcases h.generation row hrow old hold hidold with hlt | ⟨heq, hhash⟩
      · left
        rcases hturned with hlt' | ⟨heq', -⟩
        · omega
        · omega
      rcases hturned with hlt' | ⟨heq', hhash'⟩
      · left
        omega
      right
      refine ⟨heq'.trans heq, ?_⟩
      rcases hhash' with hkept | hnone
      · rw [hkept]
        exact hhash
      · exact .inr hnone
    · have hlt : row.id < x.pre.state.drawn := Nat.lt_of_lt_of_le (h.ids row hrow) h.drawn
      exact absurd hid (Nat.ne_of_gt hlt)

theorem increases_of_later {x : CredentialStep} (h : Later x.pre.state x.post.state) :
    Increases x := by
  intro row hrow row' hrow' hid hchanged hsome
  rcases h.generation row hrow row' hrow' hid with hlt | ⟨-, hsame | hnone⟩
  · exact hlt
  · exact absurd hsame hchanged
  · exact absurd hnone hsome

/-! ## Runs -/

section

variable {w : World} {tr : List CredentialStep} {c : CredentialSystem}

theorem wellIssued_run (hw : WellIssued w) (hrun : Run Calls (Config.start w) tr c) :
    ∀ x ∈ tr, WellIssued x.pre.state :=
  Run.preserves_pre (fun m => WellIssued m.state) (fun _ => True)
    (fun _ _ h => wellIssued_post h) hrun (fun _ _ => trivial) hw

theorem redeemed_once (hw : WellIssued w) (hrun : Run Calls (Config.start w) tr c) :
    tr.Pairwise fun x y => ∀ token, Redeems token x → ¬ Redeems token y := by
  obtain ⟨hpairs, -⟩ := Run.pairwise
    (fun x m => ∀ token, Redeems token x → Gone HoldsToken token.random m.state)
    (fun x => WellIssued x.pre.state) (fun x hx token h => spent_post hx h)
    (fun x y _ h token hx => gone_post (post_evolves y).tokens_drawn (h token hx)) hrun
    (wellIssued_run hw hrun)
  exact hpairs.imp fun h token hx => not_redeems_of_gone (h token hx)

theorem superseded_refused (hw : WellIssued w) (hrun : Run Calls (Config.start w) tr c) :
    ∀ tr₁ x tr₂, tr = tr₁ ++ x :: tr₂ → ∀ a credential, Supersedes x a credential →
      (∃ z ∈ tr₁ ++ [x], HeldBefore z a credential) →
        ∀ y ∈ tr₂, y.stmt.bears = some credential → Refuses y := by
  intro tr₁ x tr₂ htr a credential hsupersedes ⟨z, hz, hheld⟩ y hy hbears
  have hissued := wellIssued_run hw hrun
  obtain ⟨hpairs, -⟩ := Run.pairwise
    (fun z m => HeldBefore z a credential → HeldOrGone a credential m.state)
    (fun x => WellIssued x.pre.state) (fun x hx h => heldOrGone_post hx (.inl h))
    (fun x y hy h hx => heldOrGone_post hy (h hx)) hrun hissued
  obtain ⟨hsuperseded, -⟩ := Run.pairwise
    (fun x m => Gone HoldsCredential credential.random x.post.state →
      Gone HoldsCredential credential.random m.state)
    (fun x => WellIssued x.pre.state) (fun _ _ h => h)
    (fun x y _ h hx => gone_post (post_evolves y).credentials_drawn (h hx)) hrun hissued
  rw [htr] at hpairs hsuperseded
  have hx : x ∈ tr := htr ▸ List.mem_append_right _ List.mem_cons_self
  have hbefore : HeldOrGone a credential x.pre.state := by
    rcases List.mem_append.mp hz with hz | hz
    · exact (List.pairwise_append.mp hpairs).2.2 z hz x List.mem_cons_self hheld
    · obtain rfl := List.mem_singleton.mp hz
      exact .inl hheld
  have hgone := superseded_gone (hissued x hx) hsupersedes hbefore
  have hlater := List.rel_of_pairwise_cons (List.pairwise_append.mp hsuperseded).2.1 hy hgone
  exact refuses_of_gone hlater hbears

/-- In every run in which `enroll` claims rows with the generation that it has read, tokens are
redeemed once, generations grow, and superseded credentials are refused. -/
theorem credentials_in_order (hw : WellIssued w) (hrun : Run Calls (Config.start w) tr c)
    (hcurrent : ∀ x ∈ tr, Current x) : CredentialProtocol tr c := by
  have hissued := wellIssued_run hw hrun
  have hok : ∀ x ∈ tr, WellIssued x.pre.state ∧ Current x :=
    fun x hx => ⟨hissued x hx, hcurrent x hx⟩
  have hlater : ∀ x : CredentialStep, WellIssued x.pre.state ∧ Current x →
      Later x.pre.state x.post.state := fun x hx => later_post hx.1 hx.2 (.refl hx.1)
  obtain ⟨hpairs, hend⟩ := Run.pairwise (fun x m => Later x.pre.state m.state)
    (fun x => WellIssued x.pre.state ∧ Current x) hlater
    (fun x y hy h => later_post hy.1 hy.2 h) hrun hok
  constructor
  case redeemedOnce => exact redeemed_once hw hrun
  case increases => exact fun x hx => increases_of_later (hlater x (hok x hx))
  case refused => exact superseded_refused hw hrun
  case ownGenerations =>
    refine List.pairwise_append.mpr ⟨List.pairwise_map.mpr (hpairs.imp Later.own),
      List.pairwise_singleton _ _, fun s hs s' hs' => ?_⟩
    obtain ⟨x, hx, rfl⟩ := List.mem_map.mp hs
    obtain rfl := List.mem_singleton.mp hs'
    exact (hend x hx).own

end

/-! ## An activation during an enrollment -/

def rotatingAgent : World where
  now := 1000
  targets := ⟨[⟨0, "edge", .docker, .user, some 7, .active⟩]⟩
  agents := ⟨[{
    id := 1
    targetId := 0
    enrollmentTokenHash := some (hashToken ⟨2⟩)
    enrollmentExpiresAt := some 5000
    credentialHash := some (hashToken ⟨3⟩)
    credentialGeneration := 1
    credentialActivatedAt := some 0
    pendingCredentialHash := some (hashToken ⟨4⟩)
    pendingCredentialGeneration := some 2
    pendingCredentialIssuedAt := some 900
    protocolVersion := 1
    version := some ⟨0, 10, 0⟩
    enrolledAt := some 0
    lastSeenAt := some 900
    disabledAt := none }]⟩
  drawn := 5

theorem mem_rotatingAgent {row : AgentRow} (h : row ∈ rotatingAgent.agents.rows) :
    row = rotatingAgent.agents.rows.head (by simp [rotatingAgent]) := by
  simpa [rotatingAgent] using h

theorem drawnOnce_rotatingAgent {Stored : AgentRow → Nat → Prop}
    (h : ∀ row ∈ rotatingAgent.agents.rows, ∀ k, Stored row k → k < 5) :
    DrawnOnce Stored rotatingAgent where
  lt := h
  owner row hrow row' hrow' _ _ _ := by rw [mem_rotatingAgent hrow, mem_rotatingAgent hrow']

theorem rotatingAgent_wellIssued : WellIssued rotatingAgent where
  unique := by decide
  ids := by decide
  credentials := drawnOnce_rotatingAgent fun row hrow k hk => by
    rw [mem_rotatingAgent hrow] at hk
    rcases hk with hk | hk
    · cases hk
      decide
    · cases hk
      decide
  tokens := drawnOnce_rotatingAgent fun row hrow k hk => by
    rw [mem_rotatingAgent hrow] at hk
    cases hk
    decide
  follows row hrow hash hpending := by
    rw [mem_rotatingAgent hrow] at hpending ⊢
    cases hpending
    exact ⟨by decide, rfl⟩
  sealed row hrow hdisabled := by
    rw [mem_rotatingAgent hrow] at hdisabled
    cases hdisabled

def enrollAndRotate : List (ApiCall Unit) :=
  [do let _ ← enroll ⟨⟨2⟩, some ⟨0, 10, 0⟩, 1⟩,
    do let _ ← heartbeat (some ⟨4⟩) ⟨some ⟨0, 10, 0⟩, 1⟩]

theorem enrollAndRotate_calls {m : CredentialMoment} : ∀ p ∈ enrollAndRotate, Calls m p := by
  intro p hp
  simp only [enrollAndRotate, List.mem_cons, List.not_mem_nil, or_false] at hp
  rcases hp with rfl | rfl
  · exact .enroll _
  · exact .heartbeat _ _

def turns (t n : Nat) : List (Nat × ApiInput) := List.replicate n (t, {})

def current (x : CredentialStep) : Bool :=
  x.stmt.redeeming.all fun claim => x.pre.state.agents.rows.all fun row =>
    !claim.1.redeemable claim.2.1 claim.2.2 row ||
      row.credentialGeneration = claim.1.credentialGeneration

theorem current_of_bool {x : CredentialStep} (h : current x = true) : Current x := by
  intro agent hash now hredeeming row hrow hmatch
  simp only [current, hredeeming, Option.all_some, List.all_eq_true] at h
  simpa [hmatch] using h row hrow

/-- The pending credential is activated, and then the token is redeemed. -/
theorem credentials_in_turn : ∃ (tr : List CredentialStep) (c : CredentialSystem),
    Run Calls (Config.start rotatingAgent) tr c ∧ CredentialProtocol tr c ∧
      c.moment.state.agents.rows.map (·.credentialGeneration) = [3] := by
  obtain ⟨tr, c, hrun, hcheck⟩ := run_of_plays (Config.start rotatingAgent) enrollAndRotate
    (turns 1 4 ++ turns 0 3)
    (fun tr c => tr.all current && c.moment.state.agents.rows.map (·.credentialGeneration) = [3])
    enrollAndRotate_calls (by decide)
  simp only [Bool.and_eq_true, List.all_eq_true, decide_eq_true_eq] at hcheck
  exact ⟨tr, c, hrun, credentials_in_order rotatingAgent_wellIssued hrun
    fun x hx => current_of_bool (hcheck.1 x hx), hcheck.2⟩

/-- The pending credential is activated after `enroll` has read the row: both have generation 2. -/
theorem generation_shared : ¬ ∀ (w : World) (tr : List CredentialStep) (c : CredentialSystem),
    WellIssued w → Run Calls (Config.start w) tr c → CredentialProtocol tr c := by
  intro h
  obtain ⟨tr, c, hrun, hcheck⟩ := run_of_plays (Config.start rotatingAgent) enrollAndRotate
    (turns 0 2 ++ turns 1 4 ++ turns 0 1)
    (fun tr _ => tr.any fun x => x.pre.state.agents.rows.any fun row =>
      x.post.state.agents.rows.any fun row' => row'.id = row.id &&
        row'.credentialHash ≠ row.credentialHash && row'.credentialHash ≠ none &&
        row.credentialGeneration = 2 && row'.credentialGeneration = 2)
    enrollAndRotate_calls (by decide)
  simp only [List.any_eq_true, Bool.and_eq_true, decide_eq_true_eq] at hcheck
  obtain ⟨x, hx, row, hrow, row', hrow', ⟨⟨⟨hid, hchanged⟩, hsome⟩, hbefore⟩, hafter⟩ := hcheck
  have hlt := (h _ tr c rotatingAgent_wellIssued hrun).increases x hx row hrow row' hrow' hid
    hchanged hsome
  omega

end InitPad.Credentials
