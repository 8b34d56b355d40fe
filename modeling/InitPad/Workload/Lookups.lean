import InitPad.Workload.CallRules

/-!
# InitPad.Workload.Lookups

Which container the operations of an Agent act on. `deploy` falls back to the legacy name of a
workload in both routing modes, the other operations only in the managed one.
-/

namespace InitPad.Workload

open Interleave Prog Engine

namespace Agent

variable (agent : Agent) (payload : Payload) (d : Docker)

/-- The lookup by the container's own name fails: it is another workload's, or with a managed
gateway another deployment. -/
def collides : Bool :=
  (d.host.get? (.name (agent.containerName payload))).any fun c =>
    !agent.belongsToWorkload payload c ||
      (payload.routingMode == .managedGateway && !agent.matches_ payload c)

def legacyRevision (names : List String) : Option Container :=
  names.findSome? fun name => (d.host.get? (.name name)).filter (agent.matches_ payload)

def managedLegacyNames : List String :=
  [agent.legacyManagedWorkloadContainerName payload (agent.managedWorkloadSlot payload),
    agent.legacyWorkloadContainerName payload]

/-- The container that `deploy` treats as the current one. -/
def currentWorkload : Option Container :=
  (d.host.get? (.name (agent.containerName payload))).or
    (match payload.routingMode with
    | .managedGateway => agent.legacyRevision payload d (agent.managedLegacyNames payload)
    | .directPort => (d.host.get? (.name (agent.legacyWorkloadContainerName payload))).filter
        (agent.belongsToWorkload payload))

/-- The container that the other operations act on. -/
def desiredWorkload : Option Container :=
  (d.host.get? (.name (agent.containerName payload))).or
    (match payload.routingMode with
    | .managedGateway => agent.legacyRevision payload d (agent.managedLegacyNames payload)
    | .directPort => none)

def answers (container : Container) : Bool :=
  container.running && container.config.containerPort == payload.containerPort &&
    container.config.hostPort.any fun port => decide (1 ≤ port ∧ port ≤ 65535)

end Agent

section Rules

variable {P : Input → Prop} {d : Docker} {agent : Agent} {payload : Payload}

section Containers

variable {Q : Except AgentError (Option Container) → Docker → Prop}

theorem always_firstMatching (hfault : Faulty P → ∀ x, Q (.error x) d) {names : List String}
    (hok : Q (.ok (agent.legacyRevision payload d names)) d) :
    Always P Q (agent.firstMatching payload names) d := by
  induction names with
  | nil => exact hok
  | cons name names ih =>
    refine Always.bind (always_legacyOwnedContainer
      (Q := fun r d' => d' = d ∧ match r with
        | .ok c => c = (d.host.get? (.name name)).filter (agent.belongsToWorkload payload)
        | .error _ => Faulty P) (fun hfaulty _ => ⟨rfl, hfaulty⟩) ⟨rfl, rfl⟩) ?_ ?_
    · rintro c d' ⟨rfl, rfl⟩
      unfold Agent.legacyRevision at hok ih
      rw [List.findSome?_cons] at hok
      have hmatches : ∀ c, agent.matches_ payload c = true →
          agent.belongsToWorkload payload c = true := by
        intro c hc
        simp only [Agent.matches_, Bool.and_eq_true] at hc
        exact hc.1.1.1
      cases hget : d'.host.get? (.name name) with
      | none =>
        rw [hget] at hok
        simp only [Option.filter_none, Option.any_none]
        exact ih hok
      | some c =>
        rw [hget] at hok
        cases hc : agent.matches_ payload c with
        | true =>
          simp only [Option.filter_some, hc, if_true] at hok
          simp only [Option.filter_some, hmatches c hc, if_true, Option.any_some, hc]
          exact hok
        | false =>
          simp only [Option.filter_some, hc] at hok
          have hany : ((some c).filter (agent.belongsToWorkload payload)).any
              (agent.matches_ payload) = false := by
            cases hbelongs : agent.belongsToWorkload payload c <;> simp [hbelongs, hc]
          rw [if_neg (by rw [hany]; exact Bool.false_ne_true)]
          exact ih hok
    · rintro x d' ⟨rfl, hfaulty⟩
      exact hfault hfaulty x

theorem collides_of_foreign {c : Container}
    (hget : d.host.get? (.name (agent.containerName payload)) = some c)
    (hforeign : agent.belongsToWorkload payload c = false) : agent.collides payload d = true := by
  unfold Agent.collides
  rw [hget, Option.any_some, hforeign]
  rfl

theorem always_desiredManagedContainer (hmode : payload.routingMode = .managedGateway)
    (hfault : Faulty P → ∀ x, Q (.error x) d)
    (hcollides : agent.collides payload d = true → ∀ x, Q (.error x) d)
    (hok : agent.collides payload d = false → Q (.ok (agent.desiredWorkload payload d)) d) :
    Always P Q (agent.desiredManagedContainer payload) d := by
  refine Always.bind (always_ownedContainer
    (Q := fun r d' => d' = d ∧ match r with
      | .ok c => c = d.host.get? (.name (agent.containerName payload)) ∧
          ∀ c, d.host.get? (.name (agent.containerName payload)) = some c →
            agent.belongsToWorkload payload c = true
      | .error _ => Faulty P ∨ agent.collides payload d = true)
    (fun hfaulty _ => ⟨rfl, .inl hfaulty⟩)
    (fun c x hget hforeign => ⟨rfl, .inr (collides_of_foreign hget hforeign)⟩)
    (fun howned => ⟨rfl, rfl, howned⟩)) ?_ ?_
  · rintro c d' ⟨rfl, rfl, howned⟩
    unfold Agent.desiredWorkload at hok
    unfold Agent.collides at hok hcollides
    cases hget : d'.host.get? (.name (agent.containerName payload)) with
    | some c =>
      have hbelongs := howned c hget
      rw [hget] at hok hcollides
      cases hc : agent.matches_ payload c with
      | true =>
        have hnot : (some c).any (fun c => !agent.belongsToWorkload payload c ||
            (payload.routingMode == .managedGateway && !agent.matches_ payload c)) = false := by
          simp [hbelongs, hc]
        simp only [hc, Bool.not_true, Bool.false_eq_true, if_false]
        exact hok hnot
      | false =>
        have hyes : (some c).any (fun c => !agent.belongsToWorkload payload c ||
            (payload.routingMode == .managedGateway && !agent.matches_ payload c)) = true := by
          simp [hmode, hc]
        simp only [hc, Bool.not_false, if_true]
        exact hcollides hyes _
    | none =>
      rw [hget] at hok
      have hlegacy := hok rfl
      rw [hmode] at hlegacy
      exact always_firstMatching hfault hlegacy
  · rintro x d' ⟨rfl, hfaulty | hcollides'⟩
    · exact hfault hfaulty x
    · exact hcollides hcollides' x

theorem always_desiredContainer (hfault : Faulty P → ∀ x, Q (.error x) d)
    (hcollides : agent.collides payload d = true → ∀ x, Q (.error x) d)
    (hok : agent.collides payload d = false → Q (.ok (agent.desiredWorkload payload d)) d) :
    Always P Q (agent.desiredContainer payload) d := by
  unfold Agent.desiredContainer
  cases hmode : payload.routingMode with
  | managedGateway => exact always_desiredManagedContainer hmode hfault hcollides hok
  | directPort =>
    refine always_ownedContainer hfault
      (fun c x hget hforeign => hcollides (collides_of_foreign hget hforeign) x) fun howned => ?_
    have hnot : agent.collides payload d = false := by
      unfold Agent.collides
      cases hget : d.host.get? (.name (agent.containerName payload)) with
      | none => rfl
      | some c => simp [howned c hget, hmode]
    have hdesired := hok hnot
    unfold Agent.desiredWorkload at hdesired
    rw [hmode, Option.or_none] at hdesired
    exact hdesired

theorem always_currentContainer (hfault : Faulty P → ∀ x, Q (.error x) d)
    (hcollides : agent.collides payload d = true → ∀ x, Q (.error x) d)
    (hok : agent.collides payload d = false → Q (.ok (agent.currentWorkload payload d)) d) :
    Always P Q (currentContainer agent payload) d := by
  unfold currentContainer
  cases hmode : payload.routingMode with
  | managedGateway =>
    refine always_desiredManagedContainer hmode hfault hcollides fun hnot => ?_
    have hcurrent := hok hnot
    unfold Agent.currentWorkload at hcurrent
    unfold Agent.desiredWorkload
    rw [hmode] at hcurrent ⊢
    exact hcurrent
  | directPort =>
    have hname : agent.workloadContainerName payload = agent.containerName payload := by
      unfold Agent.containerName
      rw [hmode]
    refine Always.bind (always_ownedContainer
      (Q := fun r d' => d' = d ∧ match r with
        | .ok c => c = d.host.get? (.name (agent.containerName payload)) ∧
            agent.collides payload d = false
        | .error _ => Faulty P ∨ agent.collides payload d = true)
      (fun hfaulty _ => ⟨rfl, .inl hfaulty⟩) ?_ ?_) ?_ ?_
    · rw [hname]
      exact fun c x hget hforeign => ⟨rfl, .inr (collides_of_foreign hget hforeign)⟩
    · rw [hname]
      refine fun howned => ⟨rfl, rfl, ?_⟩
      unfold Agent.collides
      cases hget : d.host.get? (.name (agent.containerName payload)) with
      | none => rfl
      | some c => simp [howned c hget, hmode]
    · rintro c d' ⟨rfl, rfl, hnot⟩
      have hcurrent := hok hnot
      unfold Agent.currentWorkload at hcurrent
      rw [hmode] at hcurrent
      cases hget : d'.host.get? (.name (agent.containerName payload)) with
      | some c =>
        rw [hget] at hcurrent
        exact hcurrent
      | none =>
        rw [hget, Option.none_or] at hcurrent
        exact always_legacyOwnedContainer hfault hcurrent
    · rintro x d' ⟨rfl, hfaulty | hcollides'⟩
      · exact hfault hfaulty x
      · exact hcollides hcollides' x

end Containers

def Docker.checked (d : Docker) (hostPort : Nat) : Docker :=
  { d with verified := d.verified ++ [hostPort] }

theorem always_healthAttempts {Q : Except AgentError Bool → Docker → Prop} {hostPort : Nat}
    {path : String} {attempts : Nat} (htrue : Q (.ok true) (d.checked hostPort))
    (hfalse : (attempts = 0 ∨ ∃ i, P i ∧ ¬ Regular i) → Q (.ok false) d) :
    Always P Q (Agent.healthAttempts hostPort path attempts) d := by
  induction attempts with
  | zero => exact hfalse (.inl rfl)
  | succ attempts ih =>
    intro i hi
    change Always P Q (if i.aborted = true then pure false else _) d
    cases haborted : i.aborted with
    | true => exact hfalse (.inr ⟨i, hi, fun h => by rw [h.aborted] at haborted; cases haborted⟩)
    | false =>
      intro j hj
      change Always P Q (if j.healthy = true then pure true else _)
        (if j.healthy = true then d.checked hostPort else d)
      cases hhealthy : j.healthy with
      | true => exact htrue
      | false =>
        intro k hk
        exact ih fun _ => hfalse (.inr
          ⟨j, hj, fun h => by rw [h.healthy] at hhealthy; cases hhealthy⟩)

theorem always_waitHealthy {Q : Except AgentError Bool → Docker → Prop} {c : Container}
    (htrue : ∀ port, c.config.hostPort = some port → Agent.answers payload c = true →
      Q (.ok true) (d.checked port))
    (hfalse : (Agent.answers payload c = false ∨ ∃ i, P i ∧ ¬ Regular i) → Q (.ok false) d) :
    Always P Q (Agent.waitHealthy payload c) d := by
  unfold Agent.waitHealthy
  unfold Agent.answers at htrue hfalse
  cases hrunning : c.running with
  | false => exact hfalse (.inl (by simp [hrunning]))
  | true =>
    simp only [Bool.not_true, Bool.false_eq_true, if_false]
    split
    · rename_i hport
      exact hfalse (.inl (by simp [hport]))
    · rename_i hport
      cases hhost : c.config.hostPort with
      | none => exact hfalse (.inl (by simp [hhost]))
      | some port =>
        by_cases hvalid : 1 ≤ port ∧ port ≤ 65535
        · simp only [Option.filter_some, hvalid, and_self, decide_true, if_true]
          refine always_healthAttempts (htrue port hhost ?_) fun h => hfalse (.inr ?_)
          · simp [hrunning, not_not.mp hport, hhost, hvalid]
          · exact h.resolve_left (by decide)
        · simp only [Option.filter_some, hvalid, decide_false, Bool.false_eq_true, if_false]
          refine hfalse (.inl ?_)
          rw [hhost]
          simp only [Option.any_some, decide_eq_false hvalid, Bool.and_false]

end Rules

end InitPad.Workload
