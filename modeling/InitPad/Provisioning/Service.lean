import InitPad.Provisioning.World

/-!
# InitPad.Provisioning.Service

`ProvisioningService`: the status and the lease of a provisioning operation, and the journal of its
effects. Every method runs in one API process, `instance_`. Some status writers compare the status
and the owner of the lease (`claimRetry`, `releaseRetry`, `claimCleanup`, `releaseCleanup`,
`reconcileStale`, the retry in `start`); `succeed`, `fail`, `cleanupFinished` and the audit failure
in `start` update by id alone.
-/

namespace InitPad.Provisioning

open Interleave
open Prog (await)

def MAX_ATTEMPTS : Nat := 5

def EffectStatus.retrySafe : EffectStatus → Bool
  | .planned | .compensated => true
  | _ => false

/-- `CLEANUP_EFFECTS`, and `effectNeedsCleanup` -/
def EffectStatus.needsCleanup (status : EffectStatus) : Bool := !status.retrySafe

/-- An operation with its effects, as `record` returns it. -/
structure ProvisioningRecord where
  operation : Operation
  effects : List Effect

/-! ## Operations -/

def start (instance_ : InstanceId) (data : NewOperation) : Provision Id := do
  await (.aside "assertAvailable concurrentOperations")
  let operationId ← await (.createOperation instance_ data)
  tryCatch (await (.aside "record audit event")) fun error => do
    (await (.updateOperation instance_ operationId
      { status := some .failed, lease := .clear })).ignoreError
    throw error
  return operationId

def bindProject (instance_ : InstanceId) (id projectId : Id) : Provision Unit :=
  await (.updateOperation instance_ id { projectId := some (some projectId) })

def unbindProject (instance_ : InstanceId) (id : Id) : Provision Unit :=
  await (.updateOperation instance_ id { projectId := some none })

/-- An audit failure is logged. -/
def recordResultSafely : Provision Unit := (await (.aside "record operation result")).ignoreError

def succeeded {α : Type} (p : Provision α) : Provision Bool :=
  tryCatch (do let _ ← p; return true) fun _ => return false

def step (instance_ : InstanceId) (id : Id) : Provision Unit :=
  (await (.updateOperation instance_ id { lease := .renew })).ignoreError

def succeed (instance_ : InstanceId) (id : Id) (projectId : Option Id) : Provision Unit := do
  let updated ← succeeded (await (.updateOperation instance_ id
    { status := some .succeeded, projectId := projectId.map some, lease := .clear }))
  if updated then recordResultSafely else pure ()

def fail (instance_ : InstanceId) (id : Id) : Provision Unit := do
  let updated ← succeeded (await (.updateOperation instance_ id
    { status := some .failed, lease := .clear }))
  if updated then recordResultSafely else pure ()

/-- `if (changed.count !== 1) throw ...` -/
def requireOne (changed : Nat) (message : String) : Provision Unit :=
  if changed ≠ 1 then throw message else pure ()

def renewLease (instance_ : InstanceId) (id : Id) : Provision Unit := do
  let renewed ← await (.updateOperations
    { id, status := [.running], leaseOwner := some instance_ } { lease := .renew })
  requireOne renewed "Provisioning lease was lost"

def claimRetry (instance_ : InstanceId) (id : Id) : Provision Unit := do
  let changed ← await (.updateOperations { id, status := [.failed, .interrupted] }
    { status := some .retrying, lease := .take instance_ })
  requireOne changed "This provisioning operation is no longer retryable"

def releaseRetry (instance_ : InstanceId) (id : Id) : Provision Unit := do
  let _ ← await (.updateOperations { id, status := [.retrying], leaseOwner := some instance_ }
    { status := some .failed, lease := .clear })
  pure ()

def cleanupFinished (instance_ : InstanceId) (id : Id) : Provision Unit :=
  await (.updateOperation instance_ id { status := some .failed, lease := .clear })

def claimCleanup (instance_ : InstanceId) (id : Id) : Provision Unit := do
  let changed ← await (.updateOperations { id, status := [.failed, .interrupted] }
    { status := some .cleaning, lease := .take instance_ })
  requireOne changed "This provisioning cleanup is already running"

def releaseCleanup (instance_ : InstanceId) (id : Id) : Provision Unit := do
  let _ ← await (.updateOperations { id, status := [.cleaning], leaseOwner := some instance_ }
    { status := some .failed, lease := .clear })
  pure ()

def reconcileOne (now : Time) (id : Id) : Provision Unit := do
  let claimed ← await (.updateOperations { id, status := leased, staleAt := some now }
    { status := some .interrupted, lease := .clear })
  if claimed ≠ 1 then pure ()
  else do
    let _ ← await (.interruptEffects id)
    recordResultSafely

def reconcileStale : Provision Unit := do
  let now ← await .currentTime
  let stale ← await (.staleOperations now)
  Prog.forEach (reconcileOne now) stale

def record (id : Id) : Provision ProvisioningRecord := do
  reconcileStale
  match ← await (.findOperation id) with
  | some (operation, effects) => return ⟨operation, effects⟩
  | none => throw ("Provisioning operation '" ++ toString id ++ "' not found")

def failedOrInterrupted (operation : Operation) : Bool :=
  [OperationStatus.failed, .interrupted].contains operation.status

def isRetryable (operation : ProvisioningRecord) (currentUserId : Id) : Bool :=
  failedOrInterrupted operation.operation &&
    operation.operation.requestedById = some currentUserId &&
    operation.operation.request.isSome &&
    operation.operation.attempt < MAX_ATTEMPTS &&
    operation.effects.all (·.status.retrySafe)

def needsCleanup (operation : ProvisioningRecord) : Bool :=
  failedOrInterrupted operation.operation && operation.effects.any (·.status.needsCleanup)

def planEffect (operationId : Id) (key : EffectKey) (metadata : EffectMetadata) : Provision Unit :=
  await (.createEffect ⟨operationId, key, .planned, metadata⟩)

def transitionEffect (operationId : Id) (key : EffectKey) (from_ : List EffectStatus)
    (status : EffectStatus) (metadata : Option EffectMetadata) : Provision Unit := do
  let changed ← await (.updateEffect operationId key from_ status metadata)
  requireOne changed ("Provisioning effect '" ++ key.text ++ "' is not in the expected state")

def beginEffect (instance_ : InstanceId) (operationId : Id) (key : EffectKey) :
    Provision Unit := do
  renewLease instance_ operationId
  transitionEffect operationId key [.planned] .applying none

def completeEffect (instance_ : InstanceId) (operationId : Id) (key : EffectKey)
    (metadata : Option EffectMetadata) : Provision Unit := do
  transitionEffect operationId key [.applying] .applied metadata
  renewLease instance_ operationId

def failEffect (operationId : Id) (key : EffectKey) : Provision Unit :=
  transitionEffect operationId key [.planned, .applying] .failed none

def compensateEffect (operationId : Id) (key : EffectKey) : Provision Unit :=
  transitionEffect operationId key
    [.planned, .applying, .applied, .failed, .compensationFailed, .reconciliationRequired]
    .compensated none

def compensationFailed (operationId : Id) (key : EffectKey) : Provision Unit :=
  transitionEffect operationId key
    [.applying, .applied, .failed, .compensationFailed, .reconciliationRequired]
    .compensationFailed none

end InitPad.Provisioning
