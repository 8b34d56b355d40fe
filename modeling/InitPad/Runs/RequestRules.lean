import InitPad.Runs.Requests
import InitPad.Agents.ProjectionRules

/-!
# InitPad.Runs.RequestRules

What requests are made of: the claim of an environment by `begin`, tasks under an execution lease,
and statements of neither (`Stmt.ordinary`). A property of programs that composes and holds of these
three holds of every request.
-/

namespace InitPad

open Store Interleave Prog

/-- The statements that belong neither to `begin` nor to `runWithExecutionLease`. -/
def Stmt.ordinary {β : Type} : Stmt β → Bool
  | .beginClaim .. | .cancelClaimed .. | .rejectBegin _ | .enterExecution .. | .addExecution ..
  | .leaveExecution _ | .claimExecution .. | .releaseExecution .. => false
  | _ => true

theorem ordinary_of_worksOn {β : Type} {o : Id} {e : Stmt β} (h : e.worksOn o = true) :
    e.ordinary = true := by
  cases e with
  | beginClaim | cancelClaimed | rejectBegin | enterExecution | addExecution | leaveExecution
  | claimExecution | releaseExecution => cases h
  | _ => rfl

theorem ordinary_of_projects {β : Type} {v : TerminalView} {e : Stmt β} (h : e.Projects v) :
    e.ordinary = true := by
  cases e with
  | beginClaim | cancelClaimed | rejectBegin | enterExecution | addExecution | leaveExecution
  | claimExecution | releaseExecution => cases h
  | _ => rfl

theorem ordinary_of_byAgent {β : Type} {e : Stmt β} (h : e.byAgent = true) : e.ordinary = true := by
  cases e with
  | beginClaim | cancelClaimed | rejectBegin | enterExecution | addExecution | leaveExecution
  | claimExecution | releaseExecution => cases h
  | _ => rfl

/-- The property composes and holds of what requests are made of. -/
structure Pervasive (R : ∀ {α : Type}, Async α → Prop) : Prop where
  compositional : Compositional R
  ordinary : ∀ {β : Type} (e : Stmt β), e.ordinary = true → R (await e)
  begin : ∀ {projectId : Id} {envName : EnvName} {kind : OperationKind} {version : Option String}
    {artifact : Option Id} {expected : Option ExpectedProductionState},
    R (begin projectId envName kind version artifact expected)
  lease : ∀ {instanceId o : Id} {task : Option Execution → Async Unit},
    (∀ x, WorksOn o (task x)) → R (runWithExecutionLease instanceId none o task)

/-! ## Programs without a claim -/

/-- No statement of the program belongs to `begin` or to `runWithExecutionLease`. -/
def Ordinary {α : Type} (p : Async α) : Prop := p.Only fun e => e.ordinary = true

theorem WorksOn.ordinary {α : Type} {o : Id} {p : Async α} (h : WorksOn o p) : Ordinary p :=
  Only.mono (fun _ he => ordinary_of_worksOn he) h

theorem ordinary_recoverInterrupted : Ordinary recoverInterrupted := by
  refine .ignoreError (.bind (.await rfl) fun now => .bind (.await rfl) fun interrupted =>
    .forEach (fun (operation, agentJobs) => ?_) _)
  unfold recoverOne
  dsimp only
  split
  · refine .bind (.await rfl) fun claimed => ?_
    split
    · exact .bind (.await rfl) fun _ => .ignoreError (.await rfl)
    · exact .ret _
  · exact .ret _

theorem ordinary_reconcileGatewayRoute (jobId : Id) : Ordinary (reconcileGatewayRoute jobId) := by
  refine .bind (.await rfl) fun found => ?_
  split
  · exact .ret _
  · split
    · split
      · refine .bind (.await rfl) fun clock => ?_
        dsimp only
        split
        · exact .bind (.await rfl) fun _ => .ret _
        · exact .bind (.await rfl) fun _ => .ret _
      · exact .ret _
    · exact .ret _

theorem ordinary_tearDownBeforeMove {view : EnvironmentView} : Ordinary (tearDownBeforeMove view) := by
  unfold tearDownBeforeMove
  split
  · exact .ret _
  · refine .bind (.await rfl) fun teardown => ?_
    split
    · exact .ret _
    · exact .bind (.await rfl) fun _ => .ret _

theorem ordinary_bindTarget {api : Api} {projectId : Id} {envName : EnvName} {targetId : Id} :
    Ordinary (bindTarget api projectId envName targetId) := by
  refine .bind (.await rfl) fun project => .bind (.await rfl) fun found => ?_
  split
  · exact .ret _
  · dsimp only
    split
    · exact .ret _
    · refine .bind (.bind (.await rfl) fun entities => ?_) fun target =>
        .bind (prepares_ensureAllocation (o := 0)).worksOn.ordinary fun allocation =>
          .bind (prepares_assertAcceptsDeploy (o := 0)).worksOn.ordinary fun _ => ?_
      · split
        · exact .ret _
        · exact .bind (.ret _) fun _ => .ret _
      · split
        · exact .ret _
        · split
          · exact .bind ordinary_tearDownBeforeMove fun _ => .await rfl
          · exact .await rfl

/-! ## Every request -/

namespace Pervasive

variable {R : ∀ {α : Type}, Async α → Prop} (h : Pervasive R)

include h

theorem of_ordinary {α : Type} {p : Async α} (hp : Ordinary p) : R p :=
  hp.compose h.compositional fun e he => h.ordinary e he

theorem worksOn {α : Type} {o : Id} {p : Async α} (hp : WorksOn o p) : R p := h.of_ordinary hp.ordinary

theorem deployEnvInBackground {api : Api} {projectId : Id} {envName : EnvName} {version : String}
    {useRegistry : Bool} {o : Id} :
    R (deployEnvInBackground api projectId envName version useRegistry o) :=
  h.compositional.ignoreError (h.lease fun _ =>
    .tryCatch worksOn_deployLeased fun _ => worksOn_failInBackground)

theorem stop {api : Api} {projectId : Id} {envName : EnvName} :
    R (stop api projectId envName) := by
  refine h.compositional.bind (h.worksOn (o := 0) prepares_environmentContext.worksOn) fun view => ?_
  dsimp only
  split
  · exact h.compositional.ret _
  · split
    · exact h.compositional.ret _
    · refine h.compositional.bind h.begin fun o => ?_
      split
      · exact h.worksOn (.tryCatch prepares_queueAgentLifecycle.worksOn fun _ =>
          .bind worksOn_failQueuedLifecycle fun _ => .ret _)
      · exact h.lease fun _ => worksOn_stopDirect

theorem start {api : Api} {projectId : Id} {envName : EnvName} :
    R (start api projectId envName) := by
  refine h.compositional.bind (h.ordinary _ rfl) fun found => ?_
  split
  · exact h.compositional.ret _
  · refine h.compositional.bind (h.compositional.ret _) fun _ => ?_
    split
    · exact h.compositional.ret _
    · split
      · exact h.compositional.ret _
      · exact h.compositional.bind h.begin fun o => h.compositional.ignoreError (h.lease fun _ =>
          .tryCatch worksOn_startLeased fun _ => worksOn_failInBackground)

theorem abandonOnUnmanagedTarget {projectId : Id} {envName : EnvName} :
    R (abandonOnUnmanagedTarget projectId envName) := by
  have hR := h.compositional
  refine hR.bind (h.ordinary _ rfl) fun found => ?_
  split
  · exact hR.ret _
  · dsimp only
    split
    · exact hR.ret _
    · split
      · exact hR.ret _
      · refine hR.bind (h.ordinary _ rfl) fun now => hR.bind (h.ordinary _ rfl) fun unfinished =>
          hR.bind (h.ordinary _ rfl) fun _ => ?_
        refine hR.bind (hR.forEach fun o _ => h.worksOn (worksOn_complete (o := o))) fun _ => ?_
        refine hR.bind (h.ordinary _ rfl) fun _ => hR.bind h.begin fun o => ?_
        exact hR.bind (h.ordinary _ rfl) fun _ => hR.bind (h.worksOn worksOn_complete) fun _ =>
          hR.ret _

theorem cancelActive {api : Api} {projectId : Id} {envName : EnvName} {view : EnvironmentView}
    {o : Id} : R (cancelActive api projectId envName view o) := by
  have hR := h.compositional
  refine hR.bind (h.ordinary _ rfl) fun found => ?_
  split
  · split
    · exact hR.bind (h.ordinary _ rfl) fun _ => h.worksOn worksOn_complete
    · split
      · refine hR.bind (h.ordinary _ rfl) fun now => hR.bind (h.ordinary _ rfl) fun _ =>
          hR.bind (h.worksOn worksOn_complete) fun _ => ?_
        dsimp only
        split
        · exact hR.ret _
        · exact hR.bind h.begin fun o => h.worksOn worksOn_queueAgentRemoval
      · exact h.ordinary _ rfl
  · exact h.ordinary _ rfl

theorem removeIdle {api : Api} {projectId : Id} {envName : EnvName} {view : EnvironmentView} :
    R (removeIdle api projectId envName view) := by
  unfold InitPad.removeIdle
  dsimp only
  split
  · exact h.ordinary _ rfl
  · refine h.compositional.bind h.begin fun o => ?_
    split
    · exact h.worksOn worksOn_queueAgentRemoval
    · exact h.lease fun _ => worksOn_removeDirect

theorem remove {api : Api} {projectId : Id} {envName : EnvName} :
    R (remove api projectId envName) := by
  have hR := h.compositional
  refine hR.bind h.abandonOnUnmanagedTarget fun abandoned => ?_
  split
  · exact hR.ret _
  · refine hR.bind (h.worksOn (o := 0) prepares_environmentContext.worksOn) fun view => ?_
    split
    · exact h.cancelActive
    · exact h.removeIdle

theorem expireOne {api : Api} {now : Time} {environment : Environment} :
    R (expireOne api now environment) := by
  have hR := h.compositional
  unfold InitPad.expireOne
  split
  · exact hR.ret _
  · split
    · exact hR.ret _
    · refine hR.bind (h.ordinary _ rfl) fun claimed => ?_
      split
      · refine hR.bind (hR.tryCatch (hR.bind (h.ordinary _ rfl) fun _ => h.remove) fun _ => ?_)
          fun _ => hR.ret _
        exact hR.bind (h.ordinary _ rfl) fun _ => hR.ignoreError (h.ordinary _ rfl)
      · exact hR.ret _

theorem expireEach {api : Api} {now : Time} :
    ∀ environments, R (expireEach api now environments)
  | [] => h.compositional.ret _
  | _ :: rest => h.compositional.bind h.expireOne fun _ =>
      h.compositional.bind (expireEach rest) fun _ => h.compositional.ret _

variable {platform : Platform}

theorem reconcileTerminalWith {follow : Id → Async Unit} (hfollow : ∀ id, R (follow id))
    (jobId : Id) : R (reconcileTerminalWith platform follow jobId) := by
  have hR := h.compositional
  refine hR.bind (hR.bind (h.ordinary _ rfl) fun found => ?_) fun _ =>
    compose_recordJobResult hR (fun _ => h.ordinary _ rfl) (fun _ => h.ordinary _ rfl) jobId
  split
  · exact hR.ret _
  · rename_i v
    have hstmt : ∀ {β : Type} (e : Stmt β), e.Projects v → R (await e) :=
      fun e he => h.ordinary e (ordinary_of_projects he)
    split
    · split
      · exact compose_reconcileManagedTerminalJob hR hstmt
          (fun _ => h.of_ordinary (ordinary_reconcileGatewayRoute _)) hfollow
      · rename_i hdirect
        exact compose_reconcileDirectTerminalJob hR hstmt (Bool.eq_false_iff.mpr hdirect)
    · exact hR.ret _

theorem reconcileTerminalJob (jobId : Id) : R (reconcileTerminalJob platform jobId) :=
  h.reconcileTerminalWith (h.reconcileTerminalWith fun _ => h.compositional.ret _) jobId

end Pervasive

theorem Pervasive.request {R : ∀ {α : Type}, Async α → Prop} (h : Pervasive R) {m : Instant}
    {p : Async Unit} (hp : Request m p) : R p := by
  have hR := h.compositional
  have hagent : ∀ {β : Type} (e : Stmt β), e.byAgent = true → R (await e) :=
    fun e he => h.ordinary e (ordinary_of_byAgent he)
  cases hp with
  | begin => exact hR.ignoreError h.begin
  | complete operationId => exact h.worksOn (o := operationId) worksOn_complete
  | advancePhase operationId => exact h.worksOn (o := operationId) prepares_advancePhase.worksOn
  | recoverInterrupted => exact h.of_ordinary ordinary_recoverInterrupted
  | start => exact h.start
  | stop => exact h.stop
  | remove => exact h.remove
  | bindTarget => exact h.of_ordinary ordinary_bindTarget
  | scheduleDeployment => exact hR.bind h.begin fun _ => h.deployEnvInBackground
  | deploy => exact h.deployEnvInBackground
  | renewalTick x => exact h.worksOn prepares_renewalTick.worksOn
  | reportProgress x projectId envName message p _ hp =>
    exact h.worksOn (prepares_reportProgress hp).worksOn
  | expiry => exact hR.ignoreError (hR.bind (h.ordinary _ rfl) fun _ => h.expireEach _)
  | claim api =>
    exact hR.ignoreError (compose_claim hR hagent h.reconcileTerminalJob)
  | renew => exact hR.ignoreError (byAgent_renew.compose hR hagent)
  | progress => exact hR.ignoreError (byAgent_progress.compose hR hagent)
  | completeJob api =>
    exact hR.ignoreError (compose_completeJob hR hagent h.reconcileTerminalJob
      fun _ => h.of_ordinary (ordinary_reconcileGatewayRoute _))
  | onModuleInit api =>
    exact compose_onModuleInit hR (fun _ => h.ordinary _ rfl)
      (compose_reconcileGatewayPreflight hR (fun _ => h.ordinary _ rfl) (h.ordinary _ rfl)
        fun _ _ _ _ _ => h.ordinary _ rfl)
      (fun _ => h.of_ordinary (ordinary_reconcileGatewayRoute _)) h.reconcileTerminalJob

end InitPad
