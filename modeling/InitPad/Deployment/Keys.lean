import InitPad.Deployment.OperationSteps
import Mathlib.Data.List.Nodup

/-!
# InitPad.Deployment.Keys

The primary keys of the tables. Nothing is ever deleted, and every new row takes `nextId`, so the
tables of a well-keyed database stay well keyed in every run.
-/

namespace InitPad

open Store Interleave

/-- The keys of a table whose rows get fresh ids, before and after a statement. -/
def KeysGrow (next next' : Id) (ks ks' : List Id) : Prop :=
  ks' = ks ∨ (ks' = ks ++ [next] ∧ next' = next + 1)

/-- Primary keys are unique, and ids from `nextId` on are still free. -/
structure World.WellKeyed (w : World) : Prop where
  environments : w.db.environments.Unique
  operations : w.db.operations.Unique
  agentJobs : w.db.agentJobs.Unique
  gatewayRoutes : w.db.gatewayRoutes.Unique
  operationIds : ∀ k ∈ w.db.operations.keys, k < w.db.nextId
  jobIds : ∀ k ∈ w.db.agentJobs.keys, k < w.db.nextId
  routeIds : ∀ k ∈ w.db.gatewayRoutes.keys, k < w.db.nextId

theorem environmentKeys_run {β : Type} (e : Stmt β) (i : Input) (w : World) :
    (e.run i w).2.db.environments.keys = w.db.environments.keys := by
  cases hw : e.writesEnvironments with
  | false => rw [environments_run_of_reads e i w hw]
  | true =>
    cases e with
    | beginClaim view kind version artifact expected =>
      simp only [Stmt.run]
      split
      · rfl
      · split
        · rfl
        · exact Table.keys_updateMany _ _ fun _ => rfl
    | cancelClaimed | cancelCiRetry | cancelAgentOperation | cancelDirect | clearUnversioned
    | clearLock | abandonEnvironment | teardownPending | bindEnvironment =>
      simp only [Stmt.run, World.snd_requireRows]
      split
      · exact Table.keys_updateMany _ _ fun _ => rfl
      · rfl
    | releaseLock | reportStatusReason | recoverEnvironment | publishRemoved | publishStopped
    | failLifecycle | publishStarted | publishEmptied | failBackground | markDeploying
    | publishDeployment | claimExpiry | rescheduleExpiry | publishQueued
    | mirrorDeploymentProgress | finishProjection | failManagedOperation
    | publishManagedProgress =>
      exact Table.keys_updateMany _ _ fun _ => rfl
    | _ => cases hw

theorem jobKeys_run {β : Type} (e : Stmt β) (i : Input) (w : World) :
    KeysGrow w.db.nextId (e.run i w).2.db.nextId w.db.agentJobs.keys
      (e.run i w).2.db.agentJobs.keys := by
  cases hw : e.writesJobs with
  | false => exact .inl (by rw [agentJobs_run_of_reads e i w hw])
  | true =>
    cases e with
    | upsertJob job =>
      simp only [Stmt.run]
      split
      · exact .inl rfl
      · split
        · exact .inl rfl
        · exact .inr ⟨Table.keys_insert _ _, rfl⟩
    | queueRouteJob route targetId allocation name request =>
      simp only [Stmt.run, World.queueRouteJob]
      split
      · exact .inl rfl
      · split
        · exact .inl rfl
        · split
          · exact .inl rfl
          · refine .inr ⟨(Table.keys_insert _ _).trans ?_, rfl⟩
            refine congrArg (· ++ [w.db.nextId]) (Table.keys_updateMany _ _ ?_)
            intro r; rfl
    | cancelAgentOperation =>
      simp only [Stmt.run, World.snd_requireRows]
      split
      · exact .inl (Table.keys_updateMany _ _ fun _ => rfl)
      · exact .inl rfl
    | completeJob =>
      simp only [Stmt.run]
      split <;> split <;> exact .inl (Table.keys_updateMany _ _ fun _ => rfl)
    | cancelEnvironmentJobs | cancelBlockedJob | claimJob | renewJob | progressJob | failJob
    | failManagedOperation | unblockWorkload =>
      exact .inl (Table.keys_updateMany _ _ fun _ => rfl)
    | _ => cases hw

/-- The statements that may change a row of `GatewayRoute`. -/
def Stmt.writesRoutes {β : Type} : Stmt β → Bool
  | .createRoute .. | .queueRouteJob .. | .observeRoute .. | .failRoute .. => true
  | _ => false

theorem gatewayRoutes_run_of_reads {β : Type} (e : Stmt β) (i : Input) (w : World)
    (h : e.writesRoutes = false) : (e.run i w).2.db.gatewayRoutes = w.db.gatewayRoutes := by
  cases e with
  | leaveExecution | readContext | captureRegistryArtifact | authenticate =>
    simp only [Stmt.run]; split <;> rfl
  | enterExecution | createAllocation =>
    simp only [Stmt.run]; split <;> rfl
  | beginClaim =>
    simp only [Stmt.run]
    split
    · rfl
    · split <;> rfl
  | cancelClaimed | rejectBegin | cancelCiRetry | cancelAgentOperation | cancelDirect
  | clearUnversioned | clearLock | abandonEnvironment | teardownPending | bindEnvironment =>
    simp only [Stmt.run, World.snd_requireRows]; split <;> rfl
  | upsertJob job =>
    simp only [Stmt.run]
    split
    · rfl
    · split <;> rfl
  | completeJob => simp only [Stmt.run]; split <;> split <;> rfl
  | callDeploy | callStart | callStop | callTeardown | prepareDeployment
  | ensureImageAvailable | readArtifactObject | decryptConfig =>
    simp only [Stmt.run, external]; split <;> rfl
  | _ => first | rfl | cases h

theorem routeKeys_run {β : Type} (e : Stmt β) (i : Input) (w : World) :
    KeysGrow w.db.nextId (e.run i w).2.db.nextId w.db.gatewayRoutes.keys
      (e.run i w).2.db.gatewayRoutes.keys := by
  cases hw : e.writesRoutes with
  | false => exact .inl (by rw [gatewayRoutes_run_of_reads e i w hw])
  | true =>
    cases e with
    | createRoute =>
      simp only [Stmt.run]
      split
      · exact .inl rfl
      · exact .inr ⟨Table.keys_insert _ _, rfl⟩
    | queueRouteJob route targetId allocation name request =>
      simp only [Stmt.run, World.queueRouteJob]
      split
      · exact .inl rfl
      · split
        · exact .inl rfl
        · split
          · exact .inl rfl
          · exact .inl (Table.keys_updateMany _ _ fun _ => rfl)
    | observeRoute | failRoute => exact .inl (Table.keys_updateMany _ _ fun _ => rfl)
    | _ => cases hw

section Grow

variable {next next' : Id} {ks ks' : List Id}

theorem KeysGrow.nodup (h : KeysGrow next next' ks ks') (hks : ks.Nodup)
    (hfree : ∀ k ∈ ks, k < next) : ks'.Nodup := by
  rcases h with rfl | ⟨rfl, _⟩
  · exact hks
  · rw [List.nodup_append]
    refine ⟨hks, List.nodup_singleton _, ?_⟩
    intro a ha b hb hab
    have hlt := hfree a ha
    rw [hab, List.mem_singleton.mp hb] at hlt
    exact Nat.lt_irrefl _ hlt

theorem KeysGrow.free (h : KeysGrow next next' ks ks') (hnext : next ≤ next')
    (hfree : ∀ k ∈ ks, k < next) : ∀ k ∈ ks', k < next' := by
  intro k hk
  rcases h with rfl | ⟨rfl, hn⟩
  · exact Nat.lt_of_lt_of_le (hfree k hk) hnext
  · rcases List.mem_append.mp hk with hk | hk
    · exact Nat.lt_of_lt_of_le (hfree k hk) hnext
    · rw [List.mem_singleton.mp hk, hn]
      exact Nat.lt_succ_self _

end Grow

theorem World.WellKeyed.exec {β : Type} {w : World} (h : w.WellKeyed) (e : Stmt β) (i : Input) :
    (exec e i w).2.WellKeyed := by
  rcases exec_cases e i w with ⟨_, _, he⟩ | ⟨_, he⟩
  · rw [he]; exact h
  · rw [he]
    have hnext := nextId_run e i (w.tick i.dbNow)
    have hops : KeysGrow _ _ _ _ := operationKeys_run e i (w.tick i.dbNow)
    have hjobs := jobKeys_run e i (w.tick i.dbNow)
    have hroutes := routeKeys_run e i (w.tick i.dbNow)
    refine ⟨?_, hops.nodup h.operations h.operationIds, hjobs.nodup h.agentJobs h.jobIds,
      hroutes.nodup h.gatewayRoutes h.routeIds, hops.free hnext h.operationIds,
      hjobs.free hnext h.jobIds, hroutes.free hnext h.routeIds⟩
    rw [Table.Unique, environmentKeys_run e i (w.tick i.dbNow)]
    exact h.environments

theorem env?_isSome_exec {β : Type} {e : Stmt β} {i : Input} {w : World} {id : Id} :
    ((exec e i w).2.env? id).isSome = (w.env? id).isSome := by
  rcases exec_cases e i w with ⟨_, _, he⟩ | ⟨_, he⟩
  · rw [he]
  · rw [he, Bool.eq_iff_iff]
    simp only [World.env?, Table.find?_isSome_iff]
    rw [environmentKeys_run e i (w.tick i.dbNow)]
    rfl

end InitPad
