import InitPad.Gateway.Host

/-!
# InitPad.Gateway.CaddyAdmin

`CaddyAdminClient`: the route of one identity is read, and put into the document with an optimistic
check of its version, at most `maxReconcileAttempts` times.
-/

namespace InitPad

open Interleave Prog

structure CaddyRouteIntent where
  id : String
  hostname : String
  upstream : String
  present : Bool

def maxRouteCount : Nat := 10000
def maxReconcileAttempts : Nat := 5

def managedRoute (intent : CaddyRouteIntent) : CaddyRoute where
  id := some intent.id
  hostname := some intent.hostname
  upstream := some intent.upstream

def readRoutes : OnHost RouteDocument := do
  let response ← request .getRoutes
  if response.statusCode < 200 ∨ 300 ≤ response.statusCode then
    throw (newError s!"Caddy adapter readiness returned HTTP {response.statusCode}")
  else
    match response.body with
    | none => throw (newError "Caddy adapter returned an invalid route document")
    | some document =>
      if document.routes.length > maxRouteCount then
        throw (newError "Caddy adapter returned an invalid route document")
      else pure document

/-- The routes with the identity `id`. -/
def RouteDocument.owned (document : RouteDocument) (id : String) : List CaddyRoute :=
  document.routes.filter fun route => route.id == some id

/-- The upstream of the owned route. -/
def currentRoute (id hostname : String) : OnHost (Option String) := do
  let current ← readRoutes
  match current.owned id with
  | [] => pure none
  | [route] =>
    if route.hostname ≠ some hostname then
      throw (newError "Caddy route identity is already bound to another hostname")
    else
      match route.upstream.filter fun upstream => !upstream.isEmpty with
      | none => throw (newError "Caddy owned route has an invalid upstream")
      | some upstream => pure (some upstream)
  | _ => throw (newError "Caddy contains duplicate InitPad route identities")

def CaddyRouteIntent.settled (intent : CaddyRouteIntent) (document : RouteDocument) : Bool :=
  match document.owned intent.id with
  | [] => !intent.present
  | [route] =>
    intent.present && route.hostname == some intent.hostname &&
      route.upstream == some intent.upstream
  | _ => false

def CaddyRouteIntent.apply (intent : CaddyRouteIntent) (document : RouteDocument) :
    List CaddyRoute :=
  let others := document.routes.filter fun route => route.id != some intent.id
  if intent.present then others ++ [managedRoute intent] else others

/-- The check of the document after the update. -/
def verifyRoute (intent : CaddyRouteIntent) : OnHost Unit := do
  let verified ← readRoutes
  let finalRoute := verified.routes.find? fun route => route.id == some intent.id
  if intent.present ∧ finalRoute.bind (·.hostname) ≠ some intent.hostname then
    throw (newError "Caddy did not publish the requested route")
  else if !intent.present ∧ finalRoute.isSome then
    throw (newError "Caddy did not remove the requested route")
  else pure ()

def reconcileAttempts (intent : CaddyRouteIntent) : Nat → OnHost Unit
  | 0 => throw (newError "Caddy configuration changed concurrently; retry the route operation")
  | attempts + 1 => do
    let current ← readRoutes
    let first := current.routes.find? fun route => route.id == some intent.id
    if first.isSome ∧ first.bind (·.hostname) ≠ some intent.hostname then
      throw (newError "Caddy route identity is already bound to another hostname")
    else if intent.settled current then pure ()
    else
      let response ← request (.patchRoutes current.etag (intent.apply current))
      if response.statusCode = 412 then reconcileAttempts intent attempts
      else if response.statusCode < 200 ∨ 300 ≤ response.statusCode then
        throw (newError s!"Caddy route update returned HTTP {response.statusCode}")
      else verifyRoute intent

def reconcileRoute (intent : CaddyRouteIntent) : OnHost Unit :=
  reconcileAttempts intent maxReconcileAttempts

end InitPad
