import InitPad.Agents.Jobs
import InitPad.Deployment.Tasks

/-!
# InitPad.Agents.ProjectionRules

The statements of a terminal projection, and a rule for every property of programs that composes:
it holds of the projection of a view `v` when it holds of the statements that `Stmt.Projects v`
allows. The guards under which the code reaches a statement are part of that predicate.
-/

namespace InitPad

open Store Interleave Prog

namespace TerminalView

structure releasesWorkload (v : TerminalView) : Prop where
  kind : v.job.kind = .gatewayRoute
  step : v.job.operationStep = some 1
  succeeded : v.job.status ≠ .failed
  teardown : v.operation.kind.teardown = true

/-- The view is of a deployment or start whose workload job asks for `request`. -/
structure activates (v : TerminalView) (request : GatewayRouteReconcileRequest) : Prop where
  request : activationRequest v = some request
  step : v.job.operationStep = some 1
  succeeded : v.job.status ≠ .failed
  teardown : v.operation.kind.teardown = false

/-- On a managed gateway, an operation is published as running only if the view has a route that
serves it. -/
def publishes (v : TerminalView) (status : OperationResult) (data : EnvironmentData) : Prop :=
  (v.target.any fun t => t.routingMode == .managedGateway) = true → status = .succeeded →
    data.status = some .running →
      v.job.operationStep = some 2 ∧ v.job.status ≠ .failed ∧ ∃ route, publishedRoute v = some route

end TerminalView

/-- What the projection of `v` itself may execute. -/
def Stmt.Projects {β : Type} (v : TerminalView) : Stmt β → Prop
  | .query _ | .readClock | .createRoute .. => True
  | .failManagedOperation o environmentId .. | .publishManagedProgress o environmentId _ =>
    o = v.operation.id ∧ environmentId = v.operation.environmentId
  | .finishProjection o environmentId status _ data _ =>
    o = v.operation.id ∧ environmentId = v.operation.environmentId ∧ v.publishes status data
  | .unblockWorkload o _ => o = v.operation.id ∧ v.releasesWorkload
  | .queueRouteJob _ _ _ _ request => v.activates request
  | _ => False

theorem deploymentOperationId_of_activationRequest {v : TerminalView}
    {request : GatewayRouteReconcileRequest}
    (h : activationRequest v = some request) :
    request.deploymentOperationId = some v.operation.id := by
  unfold activationRequest at h
  split at h
  · split at h
    · cases h; rfl
    · cases h
  · cases h

section Rules

variable {R : ∀ {α : Type}, Async α → Prop} (hR : Compositional R) {v : TerminalView}
  {platform : Platform} {follow : Id → Async Unit}
  (hstmt : ∀ {β : Type} (e : Stmt β), e.Projects v → R (await e))

include hR hstmt

theorem compose_failManagedOperation {reason : String} {rollback : Option RouteRollback} :
    R (failManagedOperation v reason rollback) :=
  hR.bind (hstmt _ trivial) fun _ => hstmt _ ⟨rfl, rfl⟩

theorem compose_finishLifecycle {data : EnvironmentData} (h : v.publishes .succeeded data) :
    R (finishLifecycle v data) :=
  hR.bind (hstmt _ trivial) fun _ => hstmt _ ⟨rfl, rfl, h⟩

theorem compose_failProjection : R (failProjection v) :=
  hR.bind (hstmt _ trivial) fun _ => hstmt _ ⟨rfl, rfl, nofun⟩

theorem compose_reconcileDirectTerminalJob
    (h : (v.target.any fun t => t.routingMode == .managedGateway) = false) :
    R (reconcileDirectTerminalJob platform v) := by
  have hdirect : ∀ {data : EnvironmentData}, v.publishes .succeeded data := by
    intro data hmanaged
    rw [h] at hmanaged
    cases hmanaged
  have hfinish : ∀ {data : EnvironmentData}, R (finishLifecycle v data) :=
    compose_finishLifecycle hR hstmt hdirect
  have hfail := compose_failProjection hR hstmt
  unfold reconcileDirectTerminalJob
  dsimp only
  split
  · split
    · exact hR.bind (hR.ret _) fun _ => hR.bind (hstmt _ trivial) fun _ =>
        hstmt _ ⟨rfl, rfl, hdirect⟩
    · exact hfail
  · split
    · exact hR.bind (hR.ret _) fun _ => hfinish
    · exact hfail
  · split
    · exact hfinish
    · exact hfail
  · exact hfinish
  · exact hfail

theorem compose_reconcileTeardownWorkload : R (reconcileTeardownWorkload v) := by
  have hfail : R (failManagedOperation v "Agent returned an invalid managed teardown result" none) :=
    compose_failManagedOperation hR hstmt
  unfold reconcileTeardownWorkload
  split
  · split
    · exact compose_finishLifecycle hR hstmt fun _ _ => nofun
    · exact hfail
  · exact compose_finishLifecycle hR hstmt fun _ _ => nofun
  · exact hfail

theorem compose_reconcileActivatedRoute (hstep : v.job.operationStep = some 2)
    (hs : v.job.status ≠ .failed) : R (reconcileActivatedRoute v) := by
  unfold reconcileActivatedRoute
  split
  · exact compose_failManagedOperation hR hstmt
  · rename_i route hroute
    have hpublishes : ∀ {data : EnvironmentData}, v.publishes .succeeded data :=
      fun _ _ _ => ⟨hstep, hs, route, hroute⟩
    split
    · exact compose_finishLifecycle hR hstmt hpublishes
    · exact hR.bind (hstmt _ trivial) fun _ => hstmt _ ⟨rfl, rfl, hpublishes⟩

variable (hroute : ∀ id, R (reconcileGatewayRoute id)) (hfollow : ∀ id, R (follow id))

include hfollow

theorem compose_reconcileTeardownRoute (hstep : v.job.operationStep = some 1)
    (hs : v.job.status ≠ .failed) (hteardown : v.operation.kind.teardown = true) :
    R (reconcileTeardownRoute follow v) := by
  unfold reconcileTeardownRoute
  split
  · exact compose_failManagedOperation hR hstmt
  · rename_i hkind
    refine hR.bind (hstmt _ ⟨rfl, not_not.mp hkind, hstep, hs, hteardown⟩) fun next => ?_
    split
    · refine hR.bind (hstmt _ trivial) fun existing => ?_
      split
      · exact compose_failManagedOperation hR hstmt
      · split
        · exact hfollow _
        · split
          · exact hR.ret _
          · exact compose_failManagedOperation hR hstmt
    · exact hstmt _ ⟨rfl, rfl⟩

include hroute

theorem compose_reconcileManagedWorkload (hstep : v.job.operationStep = some 1)
    (hs : v.job.status ≠ .failed) (hteardown : v.operation.kind.teardown = false) :
    R (reconcileManagedWorkload platform follow v) := by
  unfold reconcileManagedWorkload
  split
  · exact compose_failManagedOperation hR hstmt
  · rename_i request hrequest
    have hqueue : R (queueReconcile platform v.operation.environmentId request) :=
      compose_queueReconcile hR (fun _ => hstmt _ trivial) (fun _ _ _ _ => hstmt _ trivial)
        fun _ _ _ _ => hstmt _ ⟨hrequest, hstep, hs, hteardown⟩
    refine hR.tryCatch (hR.bind hqueue fun routeJob => hR.bind (hstmt _ ⟨rfl, rfl⟩) fun _ => ?_)
      fun _ => compose_failManagedOperation hR hstmt
    split
    · exact hR.bind (hroute _) fun _ => hfollow _
    · exact hR.ret _

theorem compose_reconcileManagedTerminalJob :
    R (reconcileManagedTerminalJob platform follow v) := by
  unfold reconcileManagedTerminalJob
  split
  · exact compose_failManagedOperation hR hstmt
  · rename_i hs
    split
    · rename_i hstep
      split
      · rename_i hteardown
        exact compose_reconcileTeardownRoute hR hstmt hfollow hstep hs hteardown
      · rename_i hteardown
        exact compose_reconcileManagedWorkload hR hstmt hroute hfollow hstep hs
          (Bool.eq_false_iff.mpr hteardown)
    · rename_i hstep
      split
      · exact compose_reconcileTeardownWorkload hR hstmt
      · exact compose_reconcileActivatedRoute hR hstmt hstep hs
    · exact compose_failManagedOperation hR hstmt

end Rules

section Entries

variable {R : ∀ {α : Type}, Async α → Prop} (hR : Compositional R) {platform : Platform}
  (hquery : ∀ {γ : Type} (f : Db → Except Err γ), R (await (.query f)))

include hR hquery

theorem compose_recordJobResult (haudit : ∀ id, R (await (.recordAudit id))) (jobId : Id) :
    R (recordJobResult jobId) := by
  refine hR.ignoreError (hR.bind (hquery _) fun found => ?_)
  split
  · exact hR.ret _
  · exact haudit _

theorem compose_reconcileGatewayPreflight (hclock : R (await .readClock))
    (hproject : ∀ targetId jobId succeeded message finishedAt,
      R (await (.projectPreflight targetId jobId succeeded message finishedAt))) (jobId : Id) :
    R (reconcileGatewayPreflight jobId) := by
  refine hR.bind (hquery _) fun found => ?_
  split
  · exact hR.ret _
  · split
    · exact hR.bind hclock fun _ => hR.bind (hproject _ _ _ _ _) fun _ => hR.ret _
    · exact hR.ret _

variable (hpreflight : ∀ id, R (reconcileGatewayPreflight id))
  (hroute : ∀ id, R (reconcileGatewayRoute id)) {api : Api}
  (hterminal : ∀ id, R (reconcileTerminalJob api.platform id))

include hpreflight hroute hterminal

omit hquery in
theorem compose_projectCompletion (jobId : Id) : R (projectCompletion api jobId) :=
  hR.bind (hpreflight _) fun _ => hR.bind (hroute _) fun _ => hterminal _

theorem compose_onModuleInit : R (onModuleInit api) := by
  have hread : ∀ f, R (readList f) := fun f => hR.tryCatch (hquery _) fun _ => hR.ret _
  exact hR.bind (hread _) fun _ => hR.bind (hR.forEach fun jobId _ =>
      hR.bind (hR.ignoreError (hroute _)) fun _ => hR.ignoreError (hterminal _)) fun _ =>
    hR.bind (hread _) fun _ =>
      hR.bind (hR.forEach fun jobId _ => hR.ignoreError (hpreflight _)) fun _ =>
    hR.bind (hread _) fun _ => hR.forEach fun jobId _ => hR.ignoreError (hroute _)

end Entries

/-! ## The requests of an Agent -/

/-- The statements that neither queue nor project Agent jobs. -/
def Stmt.outside {β : Type} : Stmt β → Bool
  | .upsertJob _ | .createRoute .. | .queueRouteJob .. | .observeRoute .. | .failRoute ..
  | .finishProjection .. | .failManagedOperation .. | .unblockWorkload ..
  | .publishManagedProgress .. => false
  | _ => true

/-- The program neither queues nor projects Agent jobs. -/
def Outside {α : Type} (p : Async α) : Prop := p.Only fun e => e.outside = true

/-- What the requests of an Agent execute, the projections of its jobs apart. -/
def Stmt.byAgent {β : Type} : Stmt β → Bool
  | .query _ | .readClock | .recordAudit _ | .authenticate _ | .findLease .. | .claimJob ..
  | .renewJob .. | .progressJob .. | .completeJob .. | .failJob .. | .markDiagnosticRunning ..
  | .mirrorDeploymentProgress .. | .mirrorGatewayPreflight .. | .advanceDeploymentPhase ..
  | .projectPreflight .. | .readArtifactObject _ | .decryptConfig _ => true
  | _ => false

def ByAgent {α : Type} (p : Async α) : Prop := p.Only fun e => e.byAgent = true

theorem outside_of_byAgent {β : Type} {e : Stmt β} (h : e.byAgent = true) : e.outside = true := by
  cases e with
  | upsertJob | createRoute | queueRouteJob | observeRoute | failRoute | finishProjection
  | failManagedOperation | unblockWorkload | publishManagedProgress => cases h
  | _ => rfl

theorem ByAgent.outside {α : Type} {p : Async α} (h : ByAgent p) : Outside p :=
  Only.mono (fun _ he => outside_of_byAgent he) h

theorem byAgent_authenticate {credential : Option String} : ByAgent (authenticate credential) := by
  unfold authenticate
  split
  · exact .ret _
  · exact .await rfl

theorem byAgent_renew {credential : Option String} {jobId : Id} {leaseToken : String} :
    ByAgent (renew credential jobId leaseToken) := by
  refine .bind (.await rfl) fun now => .bind byAgent_authenticate fun agent =>
    .bind (.await rfl) fun renewed => ?_
  split
  · exact .ret _
  · exact .ret _

theorem byAgent_mirrorProgress {jobId : Id} {stage : ProgressStage} {message : String}
    {sequence : Nat} : ByAgent (mirrorProgress jobId stage message sequence) := by
  refine .bind (.bind (.await rfl) fun found => ?_) fun _ =>
    .bind (.bind (.await rfl) fun found => ?_) fun _ => .bind (.await rfl) fun _ => .ret _
  · split
    · exact .ret _
    · exact .await rfl
  · split
    · exact .ret _
    · exact .bind (.await rfl) fun _ => .ret _

theorem byAgent_progress {credential : Option String} {jobId : Id} {dto : AgentJobProgressDto} :
    ByAgent (progress credential jobId dto) := by
  refine .bind byAgent_authenticate fun agent => .bind (.await rfl) fun now =>
    .bind (.await rfl) fun advanced => ?_
  split
  · exact .bind (.await rfl) fun _ => .bind byAgent_mirrorProgress fun _ => .ret _
  · refine .bind (.await rfl) fun found => ?_
    split
    · exact .ret _
    · exact .bind byAgent_mirrorProgress fun _ => .ret _

theorem byAgent_claimOnce {agent : AuthenticatedAgent} : ByAgent (claimOnce agent) := by
  refine .bind (.await rfl) fun now => .bind (.await rfl) fun candidate => ?_
  split
  · exact .ret _
  · refine .bind (.await rfl) fun claimed => ?_
    split
    · exact .ret _
    · exact .bind (.await rfl) fun _ => .ret _

theorem byAgent_advanceDeploymentPhase {operationId : Option Id} {phase : OperationPhase}
    {message : String} : ByAgent (advanceDeploymentPhase operationId phase message) := by
  unfold advanceDeploymentPhase
  split
  · exact .ret _
  · exact .bind (.await rfl) fun _ => .ret _

theorem byAgent_deliveryForLease {api : Api} {agent : AuthenticatedAgent} {jobId : Id}
    {leaseToken : String} : ByAgent (deliveryForLease api agent jobId leaseToken) := by
  refine .bind (.await rfl) fun now => .bind (.await rfl) fun found => ?_
  split
  · exact .ret _
  · refine .bind (.ret _) fun (artifact, storageRef, environment) => ?_
    dsimp only
    split
    · refine .bind (.ret _) fun _ => .bind (.await rfl) fun object => ?_
      split
      · exact .bind (.await rfl) fun _ => .bind (.ret _) fun _ => .ret _
      · exact .ret _
    · exact .ret _

section Requests

variable {R : ∀ {α : Type}, Async α → Prop} (hR : Compositional R) {api : Api}
  (hagent : ∀ {β : Type} (e : Stmt β), e.byAgent = true → R (await e))
  (hterminal : ∀ id, R (reconcileTerminalJob api.platform id))

include hR hagent hterminal

theorem compose_prepareDelivery {agent : AuthenticatedAgent} {job : ClaimedJob} :
    R (prepareDelivery api agent job) := by
  unfold prepareDelivery
  split
  · refine hR.tryCatch (hR.bind (byAgent_deliveryForLease.compose hR hagent) fun _ => hR.ret _)
      fun error => hR.bind ?_ fun _ => hR.ret _
    refine hR.bind (hagent _ rfl) fun now => hR.bind (hagent _ rfl) fun failed => ?_
    split
    · exact hterminal _
    · exact hR.ret _
  · exact hR.ret _

theorem compose_claimLoop {agent : AuthenticatedAgent} :
    ∀ tries, R (claimLoop api agent tries)
  | 0 => hR.ret _
  | tries + 1 => by
    refine hR.bind (byAgent_claimOnce.compose hR hagent) fun attempt => ?_
    split
    · exact hR.ret _
    · exact compose_claimLoop tries
    · split
      · refine hR.bind (hagent _ rfl) fun _ =>
          hR.bind (byAgent_advanceDeploymentPhase.compose hR hagent) fun _ =>
            hR.bind (compose_prepareDelivery hR hagent hterminal) fun assignment => ?_
        split
        · exact hR.ret _
        · exact compose_claimLoop tries
      · refine hR.bind (byAgent_advanceDeploymentPhase.compose hR hagent) fun _ =>
          hR.bind (compose_prepareDelivery hR hagent hterminal) fun assignment => ?_
        split
        · exact hR.ret _
        · exact compose_claimLoop tries

theorem compose_claim {credential : Option String} : R (claim api credential) :=
  hR.bind (byAgent_authenticate.compose hR hagent) fun _ =>
    compose_claimLoop hR hagent hterminal _

variable (hroute : ∀ id, R (reconcileGatewayRoute id))

include hroute

theorem compose_completeJob {credential : Option String} {jobId : Id} {leaseToken : String}
    {dto : AgentJobCompleteDto} : R (completeJob api credential jobId leaseToken dto) := by
  have hpreflight : ∀ id, R (reconcileGatewayPreflight id) :=
    compose_reconcileGatewayPreflight hR (fun _ => hagent _ rfl) (hagent _ rfl)
      fun _ _ _ _ _ => hagent _ rfl
  have hproject : R (projectCompletion api jobId) :=
    compose_projectCompletion hR hpreflight hroute hterminal jobId
  have haudit : ∀ job, R (auditAgentUpdate job) := by
    intro job
    unfold auditAgentUpdate
    split
    · exact hagent _ rfl
    · exact hR.ret _
  refine hR.bind (byAgent_authenticate.compose hR hagent) fun agent =>
    hR.bind (hagent _ rfl) fun now => hR.bind (hagent _ rfl) fun found => ?_
  split
  · exact hR.ret _
  · refine hR.bind (hR.ret _) fun _ => hR.bind (hagent _ rfl) fun completed => ?_
    split
    · exact hR.bind hproject fun _ => hR.bind (hagent _ rfl) fun _ =>
        hR.bind (haudit _) fun _ => hR.ret _
    · refine hR.bind (hagent _ rfl) fun found => ?_
      split
      · exact hR.ret _
      · have hrepeat : ∀ {job : AgentJob}, R (do
            projectCompletion api jobId
            auditAgentUpdate job
            pure job) := fun {job} =>
          hR.bind hproject fun _ => hR.bind (haudit _) fun _ => hR.ret _
        split
        · refine hR.bind (hR.bind (hagent _ rfl) fun stored => ?_) fun _ => hrepeat
          split
          · exact hR.ret _
          · exact hR.ret _
        · exact hrepeat

end Requests

end InitPad
