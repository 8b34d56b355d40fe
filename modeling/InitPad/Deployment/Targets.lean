import InitPad.Deployment.Lifecycle

/-!
# InitPad.Deployment.Targets

`ProjectEnvironmentTargets`: which targets an environment may use, and the allocation that gives a
workspace its share of a target.
-/

namespace InitPad

open Store Interleave Prog

def ensureAllocation (workspaceId targetId : Id) : Async TargetAllocation := do
  let existing ← await (.query fun db => .ok (db.workspaceAllocation workspaceId targetId))
  match existing with
  | some allocation => pure allocation
  | none =>
    let target ← await (.query fun db =>
      (db.targets.find? targetId).elim (.error .recordNotFound) .ok)
    let workspace ← await (.query fun db =>
      (db.workspaces.find? workspaceId).elim (.error .recordNotFound) .ok)
    tryCatch (await (.createAllocation workspace target)) fun error => do
      -- Concurrent project creation may lose the unique-key race.
      let winner ← await (.query fun db => .ok (db.workspaceAllocation workspaceId targetId))
      match winner with
      | some allocation => pure allocation
      | none => throw error

/-- The checks of `assertAcceptsDeploy` on the row it reads. -/
def acceptsDeploy (allocation : TargetAllocation) (target : Option Target)
    (environments : Nat) (requiredRuntime : RuntimeKind) (alreadyBound : Bool) :
    Except Err Unit := do
  match target with
  | some target =>
    rejectUnless (target.scope != .user || target.managementState == .active)
      s!"Server '{target.name}' is {target.managementState.text}; reconnect it before deploying."
  | none => pure ()
  rejectUnless allocation.active
    "Workspace access to this server is paused; new deployments are disabled."
  rejectUnless (allocation.capabilities.contains requiredRuntime)
    s!"Workspace access to this server does not allow {requiredRuntime.text} applications."
  rejectUnless (alreadyBound || decide (environments < allocation.maxEnvironments))
    s!"Workspace access quota reached (max {allocation.maxEnvironments} environments)."

def assertAcceptsDeploy (allocationId environmentId : Id) (requiredRuntime : RuntimeKind) :
    Async Unit := do
  let found ← await (.query fun db => .ok <|
    (db.allocations.find? allocationId).map fun a =>
      (a, db.targets.find? a.targetId,
        db.environments.count fun e => e.allocationId == some allocationId))
  match found with
  | none => pure ()
  | some (allocation, target, environments) =>
    let alreadyBound ← await (.query fun db => .ok <|
      db.environments.count fun e =>
        e.id == environmentId && e.allocationId == some allocationId)
    liftExcept (acceptsDeploy allocation target environments requiredRuntime (alreadyBound != 0))

/-- The part of `assertUsable` about the Agent of a workspace-owned Docker target. -/
def assertAgentUsable (api : Api) (target : Target) (agent : Option Agent) : Except Err Unit := do
  rejectUnless api.artifactStoreConfigured
    s!"Agent-backed target '{target.name}' requires durable S3/MinIO artifact storage."
  rejectUnless (agent.any fun a => a.credentialHash.isSome && a.disabledAt.isNone)
    s!"Enroll and enable the Agent for target '{target.name}' before using it."
  rejectUnless (agentVersionAtLeast (agent.bind (·.version)) minProjectAgentVersion)
    s!"Target '{target.name}' requires InitPad Agent 0.4.0 or newer."
  if target.routingMode = .managedGateway then
    rejectUnless (target.gatewayAdapterCaddy && target.gatewayPreflightStatus == .passed &&
        target.publicUrl.any fun url => !url.isEmpty)
      s!"Managed gateway target '{target.name}' must pass its Caddy gateway preflight before use."
    rejectUnless (agentVersionAtLeast (agent.bind (·.version)) minGatewayRouteAgentVersion)
      s!"Managed gateway target '{target.name}' requires InitPad Agent 0.8.0 or newer."

def assertUsable (api : Api) (target : Target) (agent : Option Agent) (template : Template) :
    Except Err Unit := do
  rejectUnless (target.scope != .user || target.managementState == .active)
    s!"Target '{target.name}' is {target.managementState.text}; reconnect it before assigning an environment."
  if target.scope = .user ∧ target.kind = .docker then assertAgentUsable api target agent
  if targetCanRun template target.kind target.capabilities then
    rejectUnless (target.scope != .user || target.kind == .docker || target.verifiedAt.isSome)
      s!"Target '{target.name}' must pass Test connection before it can host an environment."
  else
    rejectUnless (template.compatibleProviders.contains target.kind)
      s!"Template '{template.id}' cannot deploy over {target.kind.text}."
    .error (.badRequest
      s!"Target '{target.name}' cannot run {(templateRuntime template).text} apps (its capabilities: {capabilitiesText target.capabilities}).")

/-- `listEntities`, with the Agent of every target. -/
def Db.listEntities (db : Db) (saas : Bool) (workspaceId : Id) : List (Target × Option Agent) :=
  (db.targets.findMany fun t =>
    (!saas && t.scope == .builtin) || t.workspaceId == some workspaceId).map fun t =>
      (t, db.targetAgent t.id)

end InitPad
