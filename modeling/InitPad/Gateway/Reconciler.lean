import InitPad.Gateway.CaddyAdmin
import InitPad.Gateway.GatewayNetwork

/-!
# InitPad.Gateway.Reconciler

`GatewayRouteReconciler`: one route job on the Agent. An activation connects the gateway, publishes
the candidate and verifies it through the public address; when anything fails on the way, the
previous route is restored and the candidate is discarded. A deactivation removes the route and
disconnects the gateway; when that fails, the previous route is restored.
-/

namespace InitPad

open Interleave Prog

def report (percent : Nat) (verifying : Bool) (message : String) : OnHost Unit :=
  await (.report ⟨percent, verifying, message⟩)

def dnsCodes : List String := ["ENOTFOUND", "EAI_AGAIN"]

def tlsCodes : List String :=
  ["CERT_HAS_EXPIRED", "DEPTH_ZERO_SELF_SIGNED_CERT", "ERR_TLS_CERT_ALTNAME_INVALID",
    "SELF_SIGNED_CERT_IN_CHAIN", "UNABLE_TO_VERIFY_LEAF_SIGNATURE"]

def connectCodes : List String := ["ECONNREFUSED", "ECONNRESET", "EHOSTUNREACH", "ENETUNREACH"]

def publicHealthFailure : AgentError → String
  | .thrown failure =>
    if failure.code ∈ dnsCodes then "failed because DNS lookup did not resolve"
    else if failure.code ∈ tlsCodes then "failed TLS verification (" ++ failure.code ++ ")"
    else if failure.code ∈ connectCodes then "failed to connect (" ++ failure.code ++ ")"
    else if failure.timeout ∨ failure.code = "ETIMEDOUT" then "timed out"
    else "failed before receiving an HTTP response"
  | _ => "failed before receiving an HTTP response"

def healthAttempts : Nat := 20

/-- One request: `none` when it was answered with success, else how it failed. -/
def publicHealthAttempt (payload : GatewayRoutePayload) : OnHost (Option String) :=
  tryCatch
    (do
      let response ← request (.publicHealth payload.hostname payload.healthPath)
      if 200 ≤ response.statusCode ∧ response.statusCode < 300 then pure none
      else pure (some s!"returned HTTP {response.statusCode}"))
    fun error => pure (some (publicHealthFailure error))

def verifyAttempts (payload : GatewayRoutePayload) (lastFailure : String) : Nat → OnHost Unit
  | 0 => throw (newError ("Public HTTPS health check at " ++ payload.healthPath ++ " " ++
      lastFailure ++ s!" after {healthAttempts} attempts"))
  | attempts + 1 => do
    let aborted ← await .readAborted
    if aborted then throw (newError "Gateway public health verification was interrupted")
    else
      let failure ← publicHealthAttempt payload
      match failure with
      | none => pure ()
      | some failure =>
        await .sleep
        verifyAttempts payload failure attempts

/-- `PublicGatewayHealth.verify` -/
def verifyPublicHealth (payload : GatewayRoutePayload) : OnHost Unit :=
  verifyAttempts payload "did not complete" healthAttempts

/-! ## The reconciler -/

def inactiveUpstream : String := "inactive.invalid:1"

/-- `initpad_route_${payload.routeId.replaceAll('-', '')}` -/
def caddyRouteId (payload : GatewayRoutePayload) : String :=
  "initpad_route_" ++ String.ofList (payload.routeId.toList.filter (· != '-'))

def caddyIntent (payload : GatewayRoutePayload) (upstream : String) (present : Bool) :
    CaddyRouteIntent where
  id := caddyRouteId payload
  hostname := payload.hostname
  upstream := upstream
  present := present

def restoreInactiveRoute (payload : GatewayRoutePayload) (previous : Option String)
    (cause : AgentError) : OnHost Unit := do
  match previous with
  | none => throw (.incomplete cause.message ["previous route was not available"])
  | some upstream =>
    tryCatch (reconcileRoute (caddyIntent payload upstream true)) fun error =>
      throw (.incomplete cause.message [error.message])
    throw (.restored cause.message true)

def failureOf (p : OnHost Unit) : OnHost (List String) :=
  tryCatch (do p; pure []) fun error => pure [error.message]

namespace GatewayAgent

variable (agent : GatewayAgent) (payload : GatewayRoutePayload)

def rollbackActivation (previous attemptedUpstream : Option String) (cause : AgentError) :
    OnHost Unit := do
  let restored ← failureOf (reconcileRoute (caddyIntent payload
    ((previous.or attemptedUpstream).getD inactiveUpstream) previous.isSome))
  let discarded ← (if previous.isNone ∨ previous ≠ attemptedUpstream
    then failureOf (agent.rollback payload) else pure [])
  let disconnected ← (if previous.isNone then failureOf (agent.disconnect payload) else pure [])
  let failures := restored ++ discarded ++ disconnected
  if failures ≠ [] then throw (.incomplete cause.message failures)
  else throw (.restored cause.message previous.isSome)

/-- What an activation got to: the upstream it resolved, and the error it ended with. -/
structure Attempt where
  upstream : Option String
  failure : Option AgentError

def applyingMessage : String := "Applying atomic Caddy route update"

/-- The `try` block of an activation. The upstream is known to the `catch` block as soon as it is
resolved. -/
def activate : OnHost Attempt :=
  tryCatch
    (do
      agent.connect payload
      let upstream ← agent.resolveUpstream payload
      tryCatch
        (do
          report 60 false applyingMessage
          reconcileRoute (caddyIntent payload upstream true)
          report 78 true "Verifying the public HTTPS application path"
          verifyPublicHealth payload
          pure ⟨some upstream, none⟩)
        fun error => pure ⟨some upstream, some error⟩)
    fun error => pure ⟨none, some error⟩

/-- Whether the cleanup of the superseded revisions is complete. -/
def commitCleanup : OnHost Bool :=
  tryCatch (do agent.commit payload; pure true) fun _ => pure false

def runActive : OnHost Bool := do
  report 40 false "Connecting gateway to the owned workload network"
  let previous ← currentRoute (caddyRouteId payload) payload.hostname
  let attempt ← agent.activate payload
  match attempt.failure with
  | some error =>
    agent.rollbackActivation payload previous attempt.upstream error
    pure false
  | none =>
    report 92 false "Retiring the superseded workload revision"
    let cleanupComplete ← agent.commitCleanup payload
    report 97 true (if cleanupComplete then "Public HTTPS route is healthy and generation-fenced"
      else "Public HTTPS route is healthy; superseded workload cleanup is pending")
    pure cleanupComplete

/-- The `try` block of a deactivation. -/
def deactivate : OnHost Unit := do
  report 65 false applyingMessage
  reconcileRoute (caddyIntent payload inactiveUpstream false)
  report 82 false "Disconnecting gateway from the workload network"
  agent.disconnect payload

def runInactive : OnHost Bool := do
  let previous ← currentRoute (caddyRouteId payload) payload.hostname
  tryCatch (agent.deactivate payload) fun error => restoreInactiveRoute payload previous error
  report 95 true "Verified the fenced Caddy route generation"
  pure true

/-- `GatewayRouteReconciler.run` on a parsed payload; the result says whether the cleanup is
complete. -/
def run : OnHost Bool := do
  report 20 false "Validated bounded gateway route intent"
  if payload.desiredState = .active then agent.runActive payload else agent.runInactive payload

end GatewayAgent

end InitPad
