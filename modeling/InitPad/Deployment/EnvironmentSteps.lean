import InitPad.Deployment.Keys

/-!
# InitPad.Deployment.EnvironmentSteps

What one statement can do to the target and the lock of one `Environment` row, and which new rows
of `DeploymentOperation` there are after it.
-/

namespace InitPad

open Store Interleave

/-- The environment that `bindTarget` updates, and its new target. -/
def Stmt.bindsTo {β : Type} : Stmt β → Option (Id × Id × ProviderKind)
  | .bindEnvironment environmentId targetId _ provider _ _ =>
    some (environmentId, targetId, provider)
  | _ => none

/-- The quota check of `begin` passes. -/
def World.admits (w : World) (view : EnvironmentView) (i : Input) : Bool :=
  (w.db.workspaces.find? view.project.workspaceId).any fun workspace =>
    decide (w.db.runningOperations workspace.id + i.provisioningOperations + 1 ≤
      workspace.maxConcurrentOperations)

def SameTarget (r r' : Environment) : Prop :=
  r'.targetId = r.targetId ∧ r'.provider = r.provider

/-- The change that `e` may make to the target and the lock of the environment `id`. -/
inductive EnvironmentStep {β : Type} (e : Stmt β) (i : Input) (w : World) (id : Id)
    (r r' : Environment) : Prop where
  | kept : SameTarget r r' → (∀ B, r'.activeOperationId = some B → r.activeOperationId = some B) →
      EnvironmentStep e i w id r r'
  | claimed {view : EnvironmentView} {expected : Option ExpectedProductionState} :
      e.claimView = some (view, expected) → w.admits view i = true →
      claimable view.environment.id expected r = true → SameTarget r r' →
      r'.activeOperationId = some w.db.nextId →
      (e.run i w).2.db.nextId = w.db.nextId + 1 → EnvironmentStep e i w id r r'
  | bound {targetId : Id} {provider : ProviderKind} : e.bindsTo = some (id, targetId, provider) →
      r'.targetId = some targetId → r'.provider = provider →
      r'.activeOperationId = r.activeOperationId → EnvironmentStep e i w id r r'

section Steps

variable {w : World} {id : Id} {r r' : Environment}

theorem env?_updated {w' : World} {p : Environment → Bool} {d : Environment → Environment}
    (hr : w.env? id = some r) (hr' : w'.env? id = some r')
    (hw : w'.db.environments = w.db.environments.updateMany p d) (hd : ∀ r, (d r).id = r.id) :
    r' = r ∨ (p r = true ∧ r' = d r) := by
  have hrow : w'.env? id = (w.env? id).map fun r => if p r then d r else r := by
    rw [World.env?, hw]
    exact Table.find?_updateMany _ p hd id
  rw [hr', hr, Option.map_some] at hrow
  by_cases h : p r = true
  · rw [if_pos h] at hrow
    exact .inr ⟨h, Option.some.inj hrow⟩
  · rw [if_neg h] at hrow
    exact .inl (Option.some.inj hrow)

theorem environmentStep_same {β : Type} {e : Stmt β} {i : Input} {w₀ : World}
    (hr : w.env? id = some r) (hr' : w.env? id = some r') : EnvironmentStep e i w₀ id r r' := by
  obtain rfl := Option.some.inj (hr.symm.trans hr')
  exact .kept ⟨rfl, rfl⟩ fun _ h => h

theorem environmentStep_patch {β : Type} {e : Stmt β} {i : Input} {w₀ w' : World}
    {p : Environment → Bool} {d : EnvironmentData} (hr : w.env? id = some r)
    (hr' : w'.env? id = some r') (hw : w'.db.environments = w.db.environments.updateMany p d.apply)
    (hlock : p r = true → ∀ B, d.activeOperationId.getD r.activeOperationId = some B →
      r.activeOperationId = some B) : EnvironmentStep e i w₀ id r r' := by
  rcases env?_updated hr hr' hw fun _ => rfl with rfl | ⟨hp, rfl⟩
  · exact .kept ⟨rfl, rfl⟩ fun _ h => h
  · exact .kept ⟨rfl, rfl⟩ (hlock hp)

theorem environmentStep_run {β : Type} {e : Stmt β} {i : Input} (hr : w.env? id = some r)
    (hr' : (e.run i w).2.env? id = some r') : EnvironmentStep e i w id r r' := by
  cases hw : e.writesEnvironments with
  | false => exact environmentStep_same hr (by rw [← env?_run_of_reads e i w id hw]; exact hr')
  | true =>
    cases e with
    | beginClaim view kind version artifact expected =>
      simp only [Stmt.run] at hr'
      split at hr'
      · exact environmentStep_same hr hr'
      · rename_i workspace hworkspace
        split at hr'
        · exact environmentStep_same hr hr'
        · rename_i hquota
          rcases env?_updated hr hr' rfl fun _ => rfl with rfl | ⟨hp, rfl⟩
          · exact .kept ⟨rfl, rfl⟩ fun _ h => h
          · refine .claimed rfl ?_ hp ⟨rfl, rfl⟩ rfl ?_
            · rw [World.admits, hworkspace]
              exact decide_eq_true (by omega)
            · simp only [Stmt.run, hworkspace, if_neg hquota]
              rfl
    | bindEnvironment environmentId targetId allocationId provider movingAway targetChanged =>
      simp only [Stmt.run, World.snd_requireRows] at hr'
      split at hr'
      · rcases env?_updated hr hr' rfl fun _ => rfl with rfl | ⟨hp, rfl⟩
        · exact .kept ⟨rfl, rfl⟩ fun _ h => h
        · obtain rfl : id = environmentId := by
            have hid : r.id = id := Table.find?_key hr
            rw [← hid]
            exact beq_iff_eq.mp hp
          exact .bound rfl rfl rfl rfl
      · exact environmentStep_same hr hr'
    | cancelClaimed | cancelCiRetry | cancelAgentOperation | clearUnversioned | clearLock
    | abandonEnvironment =>
      simp only [Stmt.run, World.snd_requireRows] at hr'
      split at hr'
      · exact environmentStep_patch hr hr' rfl fun _ _ h => by cases h
      · exact environmentStep_same hr hr'
    | cancelDirect | teardownPending =>
      simp only [Stmt.run, World.snd_requireRows] at hr'
      split at hr'
      · exact environmentStep_patch hr hr' rfl fun _ _ h => h
      · exact environmentStep_same hr hr'
    | releaseLock =>
      rcases env?_updated hr hr' rfl fun _ => rfl with rfl | ⟨hp, rfl⟩
      · exact .kept ⟨rfl, rfl⟩ fun _ h => h
      · exact .kept ⟨rfl, rfl⟩ fun _ h => by cases h
    | reportStatusReason =>
      rcases env?_updated hr hr' rfl fun _ => rfl with rfl | ⟨hp, rfl⟩
      · exact .kept ⟨rfl, rfl⟩ fun _ h => h
      · exact .kept ⟨rfl, rfl⟩ fun _ h => h
    | publishRemoved e o =>
      refine environmentStep_patch hr hr' rfl fun hp B h => ?_
      simp only [holds, Bool.and_eq_true, beq_iff_eq] at hp
      exact hp.2.trans h
    | failLifecycle e o status message release =>
      refine environmentStep_patch hr hr' rfl fun _ B h => ?_
      cases release with
      | true => cases h
      | false => exact h
    | recoverEnvironment | failBackground | finishProjection | failManagedOperation =>
      exact environmentStep_patch hr hr' rfl fun _ _ h => by cases h
    | publishEmptied =>
      exact environmentStep_patch hr hr' rfl fun _ _ h => by cases h
    | publishStopped | publishStarted | markDeploying | publishDeployment | claimExpiry
    | rescheduleExpiry =>
      exact environmentStep_patch hr hr' rfl fun _ _ h => h
    | publishQueued | mirrorDeploymentProgress | publishManagedProgress =>
      exact environmentStep_patch hr hr' rfl fun _ _ h => h
    | _ => cases hw

theorem newOperation_run {β : Type} {e : Stmt β} {i : Input} {o' : DeploymentOperation}
    (ho : w.op? id = none) (ho' : (e.run i w).2.op? id = some o') :
    ∃ view expected kind version artifact correlationId, e.claimView = some (view, expected) ∧
      w.admits view i = true ∧ id = w.db.nextId ∧
      o' = w.newOperation view kind version artifact correlationId := by
  have hnot : id ∉ w.db.operations.keys := by
    rw [← Table.find?_isSome_iff]
    change ¬ (w.op? id).isSome
    rw [ho]; exact Bool.false_ne_true
  have hmem : id ∈ (e.run i w).2.db.operations.keys := by
    rw [← Table.find?_isSome_iff]
    change ((e.run i w).2.op? id).isSome
    rw [ho']; rfl
  have hid : id = w.db.nextId := by
    rcases operationKeys_run e i w with h | ⟨h, _⟩
    · exact absurd (h ▸ hmem) hnot
    · rw [h] at hmem
      exact List.mem_singleton.mp ((List.mem_append.mp hmem).resolve_left hnot)
  subst hid
  cases hv : e.claimView with
  | none => exact absurd (operationKeys_of_claimView hv i w ▸ hmem) hnot
  | some =>
    cases e with
    | beginClaim view kind version artifact expected =>
      simp only [Stmt.run] at ho'
      split at ho'
      · cases ho.symm.trans ho'
      · rename_i workspace hworkspace
        split at ho'
        · cases ho.symm.trans ho'
        · rename_i hquota
          have hinsert : (w.db.operations.insert
              (w.newOperation view kind version artifact i.correlationId)).find? w.db.nextId =
                some (w.newOperation view kind version artifact i.correlationId) :=
            Table.find?_insert_self ho
          refine ⟨view, expected, kind, version, artifact, i.correlationId, hv.symm.trans rfl, ?_,
            rfl, Option.some.inj (ho'.symm.trans hinsert)⟩
          rw [World.admits, hworkspace]
          exact decide_eq_true (by omega)
    | _ => cases hv

end Steps

end InitPad
