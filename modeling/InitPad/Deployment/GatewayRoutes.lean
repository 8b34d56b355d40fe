import InitPad.Deployment.Operations

/-!
# InitPad.Deployment.GatewayRoutes

`GatewayRoutesService`: the stable hostname of an environment on a managed gateway, and the
generation-fenced route jobs queued for it. Request and correlation ids are UUIDs by construction
here, so `validateRequest` checks the remaining fields.
-/

namespace InitPad

open Store Interleave Prog

def lowerOrDigit (c : Char) : Bool := c.isLower || c.isDigit

def nameTail (c : Char) : Bool := c.isAlphanum || c == '.' || c == '_' || c == '-'

/-- `SAFE_ID`. -/
def isSafeId (s : String) : Bool :=
  match s.toList with
  | [] => false
  | c :: rest => lowerOrDigit c && decide (rest.length ≤ 127) &&
      rest.all fun d => nameTail d && !d.isUpper

/-- `REVISION`. -/
def isRevision (s : String) : Bool :=
  match s.toList with
  | [] => false
  | c :: rest => c.isAlphanum && decide (rest.length ≤ 127) && rest.all nameTail

def isHealthPath (s : String) : Bool :=
  match s.toList with
  | '/' :: rest => decide (rest.length ≤ 255) && rest.all fun c =>
      nameTail c || "~!$&'()*+,;=:@%/".toList.contains c
  | _ => false

def isLowerHex (c : Char) : Bool := c.isDigit || (decide ('a' ≤ c) && decide (c ≤ 'f'))

def isWorkloadSlot (s : String) : Bool := decide (s.toList.length = 12) && s.toList.all isLowerHex

def rejectUnless (condition : Bool) (message : String) : Except Err Unit :=
  if condition then .ok () else .error (.badRequest message)

def validateRequest (request : GatewayRouteReconcileRequest) : Except Err Unit := do
  rejectUnless (request.desiredState == .active || request.desiredState == .stopped ||
    request.desiredState == .absent) "Gateway route desired state is invalid"
  rejectUnless (isSafeId request.projectSlug) "Gateway route project slug is invalid"
  rejectUnless (decide (1 ≤ request.containerPort) && decide (request.containerPort ≤ 65535))
    "Gateway route container port is invalid"
  rejectUnless (isHealthPath request.healthPath) "Gateway route health path is invalid"
  rejectUnless (request.revision.all isRevision) "Gateway route revision is invalid"
  rejectUnless (request.desiredState == .absent || request.revision.isSome)
    "Gateway route active or stopped state requires a revision"
  rejectUnless (request.desiredState != .absent || request.revision.isNone)
    "An absent gateway route cannot retain a desired revision"
  if request.desiredState = .active then
    rejectUnless (request.workloadSlot.any isWorkloadSlot)
      "An active gateway route requires a verified workload slot"
    rejectUnless request.activation.isSome
      "An active gateway route requires a bounded activation mode"
  else
    rejectUnless (request.workloadSlot.isNone && request.activation.isNone)
      "An inactive gateway route cannot activate a workload slot"
  rejectUnless (request.deploymentOperationId.isSome == request.operationStep.isSome)
    "Gateway route workflow binding is incomplete"
  rejectUnless (request.operationStep.all fun step => decide (1 ≤ step))
    "Gateway route operation step is invalid"

/-- A computation without effects inside an `async` function. -/
def liftExcept {α : Type} (r : Except Err α) : Async α := .ret r

def assertSameBinding (route : GatewayRoute) (targetId allocationId : Id) : Except Err Unit :=
  rejectUnless (route.targetId == targetId && route.allocationId == allocationId)
    "The stable gateway hostname is still reserved on a different target; remove that route before moving the environment"

/-- The check of `reserve` that the environment may use the managed gateway of its target. -/
def reservable (view : EnvironmentView) : Option (Target × TargetAllocation) :=
  match view.target, view.allocation with
  | some target, some allocation =>
    if target.routingMode = .managedGateway ∧ allocation.targetId = target.id ∧
        allocation.workspaceId = view.project.workspaceId ∧ allocation.active then
      some (target, allocation)
    else none
  | _, _ => none

def reserve (platform : Platform) (environmentId : Id) : Async GatewayRoute := do
  let found ← await (.query fun db =>
    .ok ((db.environments.find? environmentId).bind db.environmentView))
  match found with
  | none => throw (.badRequest "Gateway route environment does not exist")
  | some view =>
    match reservable view with
    | none => throw (.badRequest
        "Gateway route requires active workspace access to the managed-gateway server")
    | some (target, allocation) =>
      let existing ← await (.query fun db => .ok (db.environmentRoute environmentId))
      match existing with
      | some route =>
        liftExcept (assertSameBinding route target.id allocation.id)
        pure route
      | none =>
        let hostname ← liftExcept (platform.gatewayHostname view.project.name
          view.environment.name view.environment.id target.publicUrl allocation.publicUrl)
        tryCatch (await (.createRoute environmentId target.id allocation.id hostname))
          fun error => do
            -- A concurrent request may have won the unique environment reservation.
            let winner ← await (.query fun db => .ok (db.environmentRoute environmentId))
            match winner with
            | none => throw error
            | some route =>
              liftExcept (assertSameBinding route target.id allocation.id)
              pure route

/-- The binding check of `queueReconcile`, made anew on every call. -/
def routeBinding (route : GatewayRoute) (view : Option EnvironmentView) (agent : Option Agent) :
    Except Err (Target × TargetAllocation × EnvName) :=
  match view with
  | none => .error (.badRequest
      "Gateway route requires a preflighted managed-gateway Agent allocation")
  | some view =>
    match view.target, view.allocation with
    | some target, some allocation =>
      if target.id = route.targetId ∧ target.kind = .docker ∧ target.scope = .user ∧
          target.workspaceId = some view.project.workspaceId ∧
          target.routingMode = .managedGateway ∧ target.gatewayAdapterCaddy ∧
          target.gatewayPreflightStatus = .passed ∧ allocation.id = route.allocationId ∧
          allocation.targetId = target.id ∧
          allocation.workspaceId = view.project.workspaceId ∧ allocation.active then
        if !agent.any fun a => a.credentialHash.isSome && a.disabledAt.isNone then
          .error (.badRequest
            "Enroll and connect the target Agent before reconciling gateway routes")
        else if !agentVersionAtLeast (agent.bind (·.version)) minGatewayRouteAgentVersion then
          .error (.badRequest "Gateway routes require InitPad Agent 0.8.0 or newer")
        else .ok (target, allocation, view.environment.name)
      else .error (.badRequest
        "Gateway route requires a preflighted managed-gateway Agent allocation")
    | _, _ => .error (.badRequest
        "Gateway route requires a preflighted managed-gateway Agent allocation")

def readRouteBinding (environmentId : Id) : Async (Option EnvironmentView × Option Agent) :=
  await (.query fun db =>
    let view := (db.environments.find? environmentId).bind db.environmentView
    .ok (view, (view.bind (·.target)).bind fun t => db.targetAgent t.id))

def queueReconcile (platform : Platform) (environmentId : Id)
    (request : GatewayRouteReconcileRequest) : Async GatewayRouteReconcileJob := do
  liftExcept (validateRequest request)
  let route ← reserve platform environmentId
  let (view, agent) ← readRouteBinding environmentId
  let (target, allocation, name) ← liftExcept (routeBinding route view agent)
  let dedupeKey := DedupeKey.gatewayRoute route.id request.requestId
  let existing ← await (.query fun db => .ok (db.jobWithKey dedupeKey))
  match existing with
  | some job => liftExcept (reconcileJob route.id job none)
  | none =>
    tryCatch (await (.queueRouteJob route target.id allocation name request)) fun error =>
      if error = .uniqueViolation then do
        let winner ← await (.query fun db => .ok (db.jobWithKey dedupeKey))
        match winner with
        | none => throw error
        | some job => liftExcept (reconcileJob route.id job none)
      else throw error

end InitPad
