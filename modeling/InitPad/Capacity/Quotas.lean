import InitPad.Capacity.Service
import InitPad.Capacity.Steps

/-!
# InitPad.Capacity.Quotas

The limits of a workspace under any number of calls at once. A transaction with `assertAvailable`
inside raises no usage above its limit, from any state. Four writes take a resource without it:
the allocation that `ensureAllocation` or the lifecycle test creates, the claim of a failed
provisioning operation, and the execution lease of a failed artifact. `FindsRoom` is the condition
under which these keep the limit.
-/

namespace InitPad.Capacity

open Interleave Store
open Provisioning (InstanceId)

abbrev CapacityMoment := Moment Stmt CapacityInput World Failure
abbrev CapacityStep := Transition Stmt CapacityInput World Failure
abbrev CapacitySystem := Config Stmt CapacityInput World Failure

def Calls (_ : CapacityMoment) (p : CapacityCall Unit) : Prop := Request p

variable {β : Type}

/-- The statement is executed, whatever its caller is told. -/
def TakesEffect (x : CapacityStep) : Prop := ∀ fault, x.input.fault = some fault → fault.carriedOut

def KeepsQuotas (x : CapacityStep) : Prop := KeepsLimits x.pre.state x.post.state

/-- What a statement takes without `assertAvailable`: a resource of a workspace, and how much. -/
def Stmt.unchecked (w : World) : Stmt β → Option (Id × Resource × Nat)
  | .createDefault workspaceId targetId _ | .upsertAllocation workspaceId targetId _ =>
    if insertable w workspaceId targetId then some (workspaceId, .targets, 1) else none
  | .claimProvisioning _ id _ => ((w.provisioningOperations.find? id).filter claimable).map fun o =>
      (o.workspaceId, .concurrentOperations, 1)
  | .claimArtifact _ project identity =>
    ((w.artifacts.find? identity).filter fun a => ingestible project a && a.status = .failed).map
      fun a => (a.project.workspaceId, .artifactBytes, a.sizeBytes)
  | _ => none

/-- What the statement takes without `assertAvailable` is available. -/
def FindsRoom (x : CapacityStep) : Prop :=
  TakesEffect x → ∀ workspaceId resource n,
    x.stmt.unchecked x.pre.state = some (workspaceId, resource, n) → 0 < n →
    ∀ limit, x.pre.state.limit workspaceId resource = some limit →
      x.pre.state.usage workspaceId resource + n ≤ limit

/-! ## One step -/

section

variable {w w' : World} {workspaceId : Id} {resource : Resource} {n : Nat} {instance_ : InstanceId}

theorem unchecked_takes {e : Stmt β} (i : CapacityInput)
    (h : e.unchecked w = some (workspaceId, resource, n)) :
    ∃ b w', e.run i w = .ok (b, w') ∧ Takes [] w w' workspaceId resource n := by
  cases e with
  | createDefault workspaceId' targetId' capabilities =>
    simp only [Stmt.unchecked, Option.ite_none_right_eq_some, Option.some.injEq] at h
    obtain ⟨hinsertable, ⟨⟩⟩ := h
    obtain ⟨a, w', hok⟩ := insertAllocation_ok capabilities DEFAULT_ENVIRONMENTS hinsertable
    exact ⟨a, w', hok, insertAllocation_takes hok⟩
  | upsertAllocation workspaceId' targetId' capabilities =>
    simp only [Stmt.unchecked, Option.ite_none_right_eq_some, Option.some.injEq] at h
    obtain ⟨hinsertable, ⟨⟩⟩ := h
    obtain ⟨a, w', hok⟩ := insertAllocation_ok capabilities DEFAULT_ENVIRONMENTS hinsertable
    have hnone : w.allocationOf workspaceId targetId' = none := by
      simp only [insertable, Bool.and_eq_true, Option.isNone_iff_eq_none] at hinsertable
      exact hinsertable.2
    refine ⟨a, w', ?_, insertAllocation_takes hok⟩
    simp only [Stmt.run, upsertAllocation, hnone]
    exact hok
  | claimProvisioning instance_ id claim =>
    obtain ⟨o, ho, heq⟩ := Option.map_eq_some_iff.mp h
    cases heq
    obtain ⟨w', hok, htakes⟩ := claimProvisioning_takes ho
    exact ⟨1, w', hok, htakes⟩
  | claimArtifact instance_ project identity =>
    obtain ⟨a, ha, heq⟩ := Option.map_eq_some_iff.mp h
    cases heq
    obtain ⟨hfound, hfailed⟩ := Option.filter_eq_some_iff.mp ha
    simp only [Bool.and_eq_true, decide_eq_true_eq] at hfailed
    obtain ⟨generation, w', hok, htakes⟩ :=
      claimArtifact_takes (Option.filter_eq_some_iff.mpr ⟨hfound, hfailed.1⟩)
    rw [if_pos hfailed.2] at htakes
    exact ⟨generation, w', hok, htakes⟩
  | _ => cases h

theorem claimArtifact_keeps {project : ProjectKey} {identity : ArtifactIdentity}
    {generation : Option Nat}
    (hnone : (Stmt.claimArtifact instance_ project identity).unchecked w = none)
    (h : claimArtifact instance_ project identity w = .ok (generation, w')) :
    KeepsLimits w w' ∧ SameIds [] w w' := by
  cases ha : (w.artifacts.find? identity).filter (ingestible project) with
  | none =>
    rw [claimArtifact, ha] at h
    cases h
    have hsame : Shrinks [] w w := .refl w
    exact ⟨hsame.keeps, hsame.toSameIds⟩
  | some a =>
    obtain ⟨generation', w₁, hok, htakes⟩ := @claimArtifact_takes w instance_ project identity a ha
    cases hok.symm.trans h
    refine ⟨htakes.keeps fun hpos => ?_, htakes.toSameIds⟩
    obtain ⟨hfound, hingestible⟩ := Option.filter_eq_some_iff.mp ha
    by_cases hfailed : a.status = .failed
    · simp only [Stmt.unchecked, Option.map_eq_none_iff, hfound, Option.filter_some, hingestible,
        hfailed, decide_true, Bool.and_self, if_true] at hnone
      cases hnone
    · rw [if_neg hfailed] at hpos
      exact absurd hpos (Nat.lt_irrefl 0)

/-- The bindings that a statement adds. -/
def Stmt.bindings : Stmt β → List AllocationKey
  | .createProject _ _ envTargets _ => envTargets.map (·.allocation)
  | .changePreset change => change.addedTargets.map (·.allocation)
  | .bindEnvironment binding => [binding.allocation]
  | _ => []

/-- A step that keeps the limits, and says what it does to ids and bindings. -/
structure Checked (added : List AllocationKey) (w w' : World) : Prop extends Frame added w w' where
  keeps : KeepsLimits w w'
  own : OwnIds w'

variable {added : List AllocationKey}

theorem checked_of_shrinks (h : Shrinks added w w') (hw : OwnIds w) : Checked added w w' :=
  ⟨h.toFrame, h.keeps, hw.of_same h.toSameIds⟩

theorem checked_of_takes (h : assertAvailable w workspaceId resource n none = .ok () ∧
    Takes added w w' workspaceId resource n) (hw : OwnIds w) : Checked added w w' :=
  ⟨h.2.toFrame, h.2.keeps_of_available h.1, hw.of_same h.2.toSameIds⟩

theorem checked_of_bytes {project : ProjectKey}
    (h : ∃ n, Takes added w w' project.workspaceId .artifactBytes n ∧
      (0 < n → assertAvailable w project.workspaceId .artifactBytes n none = .ok ()))
    (hw : OwnIds w) : Checked added w w' := by
  obtain ⟨n, htakes, havailable⟩ := h
  refine ⟨htakes.toFrame, htakes.keeps fun hpos limit hlimit => ?_, hw.of_same htakes.toSameIds⟩
  obtain ⟨limit', hlimit', hroom⟩ := assertAvailable_eq_ok.1 (havailable hpos)
  cases hlimit'.symm.trans hlimit
  exact hroom

theorem checked_keeps {e : Stmt β} {i : CapacityInput} {b : β} (hw : OwnIds w)
    (hnone : e.unchecked w = none) (h : e.run i w = .ok (b, w')) :
    Checked e.bindings w w' := by
  have hsame : Shrinks [] w w := .refl w
  cases e with
  | aside | resolveTargets | findAllocation | findForDeploy | countEnvironments | countBound =>
    cases h
    exact checked_of_shrinks hsame hw
  | query read =>
    simp only [Stmt.run] at h
    cases hread : read w with
    | error failure =>
      rw [hread] at h
      cases h
    | ok a =>
      rw [hread] at h
      cases h
      exact checked_of_shrinks hsame hw
  | updateCapacity => exact checked_of_shrinks (updateCapacity_shrinks h) hw
  | attachMember => exact checked_of_takes (attachMember_takes h) hw
  | deleteMember => exact checked_of_shrinks (deleteMember_shrinks h) hw
  | createTarget => exact checked_of_takes (createTarget_takes h) hw
  | createAllocation => exact checked_of_takes (createAllocation_takes h) hw
  | createDefault =>
    have hinsertable := insertable_of_ok h
    simp [Stmt.unchecked, hinsertable] at hnone
  | upsertAllocation workspaceId' targetId' capabilities =>
    simp only [Stmt.run, upsertAllocation] at h
    split at h
    · cases h
      exact checked_of_shrinks hsame hw
    · have hinsertable := insertable_of_ok h
      simp [Stmt.unchecked, hinsertable] at hnone
  | updateAllocation => exact checked_of_shrinks (updateAllocation_shrinks h) hw
  | deleteAllocation => exact checked_of_shrinks (deleteAllocation_shrinks h) hw
  | deleteTarget => exact checked_of_shrinks (deleteTarget_shrinks h) hw
  | createProject => exact checked_of_takes (createProject_takes h) hw
  | deleteProject => exact checked_of_shrinks (deleteProject_shrinks h) hw
  | changePreset => exact checked_of_shrinks (changePreset_shrinks h) hw
  | bindEnvironment => exact checked_of_shrinks (bindEnvironment_shrinks h) hw
  | updateEnvironment => exact checked_of_shrinks (updateEnvironment_shrinks h) hw
  | beginOperation => exact checked_of_takes (beginOperation_takes h) hw
  | endOperation => exact checked_of_shrinks (endOperation_shrinks h) hw
  | startProvisioning =>
    exact ⟨startProvisioning_frame h, startProvisioning_keeps hw h, startProvisioning_own hw h⟩
  | claimProvisioning =>
    have hfree := Option.map_eq_none_iff.mp hnone
    rw [claimProvisioning_same hfree h]
    exact checked_of_shrinks hsame hw
  | endProvisioning => exact checked_of_shrinks (endProvisioning_shrinks h) hw
  | acceptArtifact => exact checked_of_bytes (acceptArtifact_takes h) hw
  | reserveArtifact => exact checked_of_bytes (reserveArtifact_takes h) hw
  | claimArtifact =>
    obtain ⟨hkeeps, hids⟩ := claimArtifact_keeps hnone h
    exact ⟨hids.toFrame, hkeeps, hw.of_same hids⟩
  | endArtifact => exact checked_of_shrinks (endArtifact_shrinks h) hw
  | failArtifact => exact checked_of_shrinks (failArtifact_shrinks h) hw

theorem bindings_of_unchecked {e : Stmt β} {taken : Id × Resource × Nat}
    (h : e.unchecked w = some taken) : e.bindings = [] := by
  cases e with
  | createProject | changePreset | bindEnvironment => cases h
  | _ => rfl

theorem run_frame {e : Stmt β} {i : CapacityInput} {b : β} (hw : OwnIds w)
    (h : e.run i w = .ok (b, w')) : Frame e.bindings w w' ∧ OwnIds w' := by
  cases hunchecked : e.unchecked w with
  | none =>
    have hchecked := checked_keeps hw hunchecked h
    exact ⟨hchecked.toFrame, hchecked.own⟩
  | some taken =>
    obtain ⟨workspaceId, resource, n⟩ := taken
    obtain ⟨b', w₁, hok, htakes⟩ := unchecked_takes i hunchecked
    cases hok.symm.trans h
    rw [bindings_of_unchecked hunchecked]
    exact ⟨htakes.toFrame, hw.of_same htakes.toSameIds⟩

end

/-! ## Runs -/

theorem commit_state (r : Except Failure (β × World)) (w : World) :
    (commit r w).2 = w ∨ ∃ b, r = .ok (b, (commit r w).2) := by
  cases r with
  | error failure => exact .inl rfl
  | ok r => exact .inr ⟨r.1, rfl⟩

theorem post_state (x : CapacityStep) : x.post.state = x.pre.state ∨
    TakesEffect x ∧ ∃ b, x.stmt.run x.input x.pre.state = .ok (b, x.post.state) := by
  obtain ⟨m, t, e, i⟩ := x
  simp only [Transition.post, Moment.next_state, exec, TakesEffect]
  cases hfault : i.fault with
  | none =>
    rcases commit_state (e.run i m.state) m.state with h | h
    · exact .inl h
    · exact .inr ⟨fun fault hfault' => (by cases hfault'), h⟩
  | some fault =>
    dsimp only
    split
    · rename_i hcarried
      rcases commit_state (e.run i m.state) m.state with h | h
      · exact .inl h
      · refine .inr ⟨fun fault' hfault' => ?_, h⟩
        cases hfault'
        exact hcarried
    · exact .inl rfl

theorem post_of_run {x : CapacityStep} (heffect : TakesEffect x) {b : x.β} {w' : World}
    (h : x.stmt.run x.input x.pre.state = .ok (b, w')) : x.post.state = w' := by
  obtain ⟨m, t, e, i⟩ := x
  dsimp only at h
  simp only [Transition.post, Moment.next_state, exec]
  cases hfault : i.fault with
  | none =>
    dsimp only
    rw [h]
    rfl
  | some fault =>
    have hcarried : fault.carriedOut = true := heffect fault hfault
    dsimp only
    rw [if_pos hcarried, h]
    rfl

theorem own_post {x : CapacityStep} (hw : OwnIds x.pre.state) : OwnIds x.post.state := by
  rcases post_state x with h | ⟨-, b, h⟩
  · rw [h]
    exact hw
  · exact (run_frame hw h).2

theorem keepsQuotas_iff {x : CapacityStep} (hw : OwnIds x.pre.state) :
    KeepsQuotas x ↔ FindsRoom x := by
  constructor
  · intro hkeeps heffect workspaceId resource n hunchecked hpos limit hlimit
    obtain ⟨b, w', hok, htakes⟩ := unchecked_takes x.input hunchecked
    have hself : x.post.state.usage workspaceId resource =
        x.pre.state.usage workspaceId resource + n := by
      rw [post_of_run heffect hok]
      exact htakes.self
    have hle := hkeeps workspaceId resource limit hlimit (by omega)
    omega
  · intro hroom
    rcases post_state x with h | ⟨heffect, b, h⟩
    · intro workspaceId resource limit _ hraised
      rw [h] at hraised
      exact absurd hraised (Nat.lt_irrefl _)
    · cases hunchecked : x.stmt.unchecked x.pre.state with
      | none => exact (checked_keeps hw hunchecked h).keeps
      | some taken =>
        obtain ⟨workspaceId, resource, n⟩ := taken
        obtain ⟨b', w', hok, htakes⟩ := unchecked_takes x.input hunchecked
        have hpost := post_of_run heffect hok
        unfold KeepsQuotas
        rw [hpost]
        exact htakes.keeps fun hpos limit hlimit =>
          hroom heffect workspaceId resource n hunchecked hpos limit hlimit

/-- In every run of the calls, a step keeps the quotas exactly if what it takes unchecked is
available. -/
theorem quotas_kept_iff {w : World} {tr : List CapacityStep} {c : CapacitySystem} (hw : OwnIds w)
    (hrun : Run Calls (Config.start w) tr c) : ∀ x ∈ tr, (KeepsQuotas x ↔ FindsRoom x) := by
  intro x hx
  have hown := Run.preserves_pre (fun m => OwnIds m.state) (fun _ => True)
    (fun _ _ hpre => own_post hpre) hrun (fun _ _ => trivial) hw x hx
  exact keepsQuotas_iff hown

/-! ## A retry beside a running operation -/

def sampleWorld (maxConcurrentOperations : Nat) : World where
  workspaces := ⟨[⟨1, ⟨5, 5, 5, maxConcurrentOperations, 1000⟩⟩]⟩
  members := ⟨[⟨1, 7⟩]⟩
  targets := ⟨[⟨2, [.node]⟩]⟩
  allocations := ⟨[⟨⟨3, 1, 2⟩, [.node], true, 2⟩]⟩
  projects := ⟨[]⟩
  environments := ⟨[]⟩
  deploymentOperations := ⟨[]⟩
  provisioningOperations := ⟨[⟨4, 1, .running, some 1⟩, ⟨5, 1, .failed, none⟩]⟩
  artifacts := ⟨[]⟩
  nextId := 6

theorem sampleWorld_own (maxConcurrentOperations : Nat) :
    OwnIds (sampleWorld maxConcurrentOperations) where
  unique := by
    unfold Table.Unique
    simp [sampleWorld, Table.keys, key]
  given id hid := by
    have hlt : id = 4 ∨ id = 5 := by simpa [sampleWorld, Table.keys, key] using hid
    rcases hlt with rfl | rfl
    · exact Nat.lt_add_of_pos_right (by decide : 0 < 2)
    · exact Nat.lt_succ_self 5
  allocations a ha := by
    have heq : a = ⟨3, 1, 2⟩ := by simpa [sampleWorld, Table.keys, key] using ha
    rw [heq]
    exact Nat.lt_add_of_pos_right (by decide : 0 < 3)

def retryFailed : List (CapacityCall Unit) := [retryProvisioning .create 1 ⟨.devProd, .node⟩ 5]

theorem retryFailed_calls {m : CapacityMoment} : ∀ p ∈ retryFailed, Calls m p := by
  intro p hp
  obtain rfl := List.mem_singleton.mp hp
  exact .retryProvisioning _ _ _ _

def answered (n : Nat) : List (Nat × CapacityInput) := List.replicate n (0, {})

def findsRoom (x : CapacityStep) : Bool :=
  (x.stmt.unchecked x.pre.state).all fun taken =>
    (x.pre.state.limit taken.1 taken.2.1).all fun limit =>
      x.pre.state.usage taken.1 taken.2.1 + taken.2.2 ≤ limit

theorem findsRoom_of_bool {x : CapacityStep} (h : findsRoom x = true) : FindsRoom x := by
  intro _ workspaceId resource n hunchecked _ limit hlimit
  simpa [findsRoom, hunchecked, hlimit] using h

/-- With two slots the failed operation is claimed beside the running one, and replaced. -/
theorem quotas_kept_in_retry : ∃ (tr : List CapacityStep) (c : CapacitySystem),
    Run Calls (Config.start (sampleWorld 2)) tr c ∧ (∀ x ∈ tr, KeepsQuotas x) ∧
      c.moment.state.usage 1 .concurrentOperations = 2 := by
  obtain ⟨tr, c, hrun, hcheck⟩ := run_of_plays (Config.start (sampleWorld 2)) retryFailed
    (answered 5) (fun tr c => tr.all findsRoom &&
      c.moment.state.usage 1 .concurrentOperations = 2)
    retryFailed_calls (by decide)
  simp only [Bool.and_eq_true, List.all_eq_true, decide_eq_true_eq] at hcheck
  refine ⟨tr, c, hrun, fun x hx => ?_, hcheck.2⟩
  exact (quotas_kept_iff (sampleWorld_own 2) hrun x hx).mpr (findsRoom_of_bool (hcheck.1 x hx))

/-- With one slot the claim of the failed operation exceeds the limit. -/
theorem claimed_above_limit : ¬ ∀ (w : World) (tr : List CapacityStep) (c : CapacitySystem),
    OwnIds w → Run Calls (Config.start w) tr c → ∀ x ∈ tr, KeepsQuotas x := by
  intro h
  obtain ⟨tr, c, hrun, hcheck⟩ := run_of_plays (Config.start (sampleWorld 1)) retryFailed
    (answered 3) (fun tr _ => tr.any fun x =>
      x.pre.state.limit 1 .concurrentOperations = some 1 &&
        x.pre.state.usage 1 .concurrentOperations = 1 &&
          x.post.state.usage 1 .concurrentOperations = 2)
    retryFailed_calls (by decide)
  simp only [List.any_eq_true, Bool.and_eq_true, decide_eq_true_eq] at hcheck
  obtain ⟨x, hx, ⟨hlimit, hbefore⟩, hafter⟩ := hcheck
  have hle := h _ tr c (sampleWorld_own 1) hrun x hx 1 .concurrentOperations 1 hlimit
    (by rw [hbefore, hafter]; exact Nat.lt_succ_self 1)
  rw [hafter] at hle
  exact absurd hle (Nat.not_succ_le_self 1)

end InitPad.Capacity
