import InitPad.Deployment.Types
import InitPad.Interleave.Commit
import InitPad.Interleave.Trace
import InitPad.Store.Descent

/-!
# InitPad.Leader.Service

`ProjectsLifecycleService` over `ControlPlaneLeaseService` on any number of replicas. A replica is
one process: its fields are a row of the state, and the steps of its event loop are statements of
their own beside the statements of the database. A call of `runLeaderCycle` is one thread, so that
cycles of one replica overlap as its timer lets them.
-/

namespace InitPad.Leader

open Interleave Store
open Prog (await refuseIf)

/-- A row of `ControlPlaneLease`. -/
structure ControlPlaneLease where
  name : String
  ownerId : Id
  generation : Nat
  expiresAt : Time
  deriving DecidableEq

instance : Keyed ControlPlaneLease String := ⟨ControlPlaneLease.name⟩

structure ControlPlaneLeaseClaim where
  generation : Nat
  expiresAt : Time
  deriving DecidableEq

/-- The fields of the service in one process; the id is the `ownerId` of its leases. -/
structure Replica where
  id : Id
  live : Bool
  fired : Time
  maintenance : Option Id
  leaderGeneration : Option Nat
  credentialReconciliation : Bool
  deriving DecidableEq

instance : Keyed Replica Id := ⟨Replica.id⟩

structure World where
  clock : Time := 0
  leases : Table ControlPlaneLease := ⟨[]⟩
  replicas : Table Replica := ⟨[]⟩
  drawn : Id := 0

inductive Failure where
  | message (text : String)
  | connection
  deriving DecidableEq

structure Input where
  elapsed : Nat := 0
  fault : Option (Fault Failure) := none

/-! ## Statements -/

/-- The sweeps of `runMaintenance`. -/
inductive Sweep where
  | artifactRetention | interruptedExecutions | environmentExpiry | renamedAccounts
  deriving DecidableEq

structure Started where
  becameLeader : Bool
  maintenance : Id
  deriving DecidableEq

/-- The sweeps and `reconcilePersistedState` carry the replica and the generation of the run that
they belong to. -/
inductive Stmt : Type → Type 1 where
  /-- A process starts: a random `ownerId`, and the timer. -/
  | onModuleInit : Stmt Id
  | onModuleDestroy (replica : Id) : Stmt Unit
  /-- The timer fires, and the cycle sends its query. -/
  | send (replica : Id) : Stmt Unit
  | upsertLease (name : String) (ownerId : Id) (ttlMs : Nat) : Stmt (Option ControlPlaneLeaseClaim)
  /-- The cycle goes on behind the answer, up to the first request of the maintenance. -/
  | resume (replica : Id) (claim : Option ControlPlaneLeaseClaim) : Stmt (Option Started)
  | reconcilePersistedState (replica : Id) (generation : Nat) : Stmt Unit
  | setLeaderGeneration (replica : Id) (generation : Nat) : Stmt Unit
  | sweep (replica : Id) (generation : Nat) (sweep : Sweep) : Stmt Unit
  | startCredentialReconciliation (replica : Id) : Stmt Unit
  | reconcileGiteaCredentials (replica : Id) : Stmt Unit
  | endCredentialReconciliation (replica : Id) : Stmt Unit
  /-- `finally` -/
  | finish (replica : Id) (maintenance : Id) : Stmt Unit

/-- The `WHERE` of the upsert. -/
def ControlPlaneLease.free (ownerId : Id) (now : Time) (lease : ControlPlaneLease) : Bool :=
  lease.ownerId = ownerId || lease.expiresAt ≤ now

/-- The row behind the upsert. -/
def ControlPlaneLease.taken (ownerId : Id) (ttlMs : Nat) (now : Time) (lease : ControlPlaneLease) :
    ControlPlaneLease := { lease with
  ownerId
  generation := if lease.ownerId = ownerId then lease.generation else lease.generation + 1
  expiresAt := now + ttlMs }

def ControlPlaneLease.claim (lease : ControlPlaneLease) : ControlPlaneLeaseClaim :=
  ⟨lease.generation, lease.expiresAt⟩

namespace World

variable (w : World)

def tick (elapsed : Nat) : World := { w with clock := w.clock + elapsed }

def upsertLease (name : String) (ownerId : Id) (ttlMs : Nat) :
    Option ControlPlaneLeaseClaim × World :=
  match w.leases.find? name with
  | none =>
    let lease := ⟨name, ownerId, 1, w.clock + ttlMs⟩
    (some lease.claim, { w with leases := w.leases.insert lease })
  | some lease =>
    if lease.free ownerId w.clock then
      (some (lease.taken ownerId ttlMs w.clock).claim, { w with
        leases := w.leases.updateMany (·.name = name) (·.taken ownerId ttlMs w.clock) })
    else (none, w)

def update (replica : Id) (change : Replica → Replica) : World := { w with
  replicas := w.replicas.updateMany (·.id = replica) change }

end World

def Replica.started (maintenance : Id) (row : Replica) : Replica := { row with
  maintenance := some maintenance }

def Replica.finished (maintenance : Id) (row : Replica) : Replica := { row with
  maintenance := if row.maintenance = some maintenance then none else row.maintenance }

def Stmt.run {β : Type} (e : Stmt β) (w : World) : Except Failure (β × World) :=
  match e with
  | .onModuleInit => .ok (w.drawn, { w with
    replicas := w.replicas.insert ⟨w.drawn, true, w.clock, none, none, false⟩
    drawn := w.drawn + 1 })
  | .onModuleDestroy replica => .ok ((), w.update replica ({ · with live := false }))
  | .send replica =>
    if (w.replicas.find? replica).isSome then
      .ok ((), w.update replica ({ · with fired := w.clock }))
    else .error .connection
  | .upsertLease name ownerId ttlMs => .ok (w.upsertLease name ownerId ttlMs)
  | .resume replica claim => match claim, w.replicas.find? replica with
    | some claim, some row =>
      if row.maintenance.isSome then .ok (none, w)
      else .ok (some ⟨row.leaderGeneration ≠ some claim.generation, w.drawn⟩,
        { w.update replica (·.started w.drawn) with drawn := w.drawn + 1 })
    | _, _ => .ok (none, w)
  | .reconcilePersistedState _ _ => .ok ((), w)
  | .setLeaderGeneration replica generation =>
    .ok ((), w.update replica ({ · with leaderGeneration := some generation }))
  | .sweep _ _ _ => .ok ((), w)
  | .startCredentialReconciliation replica =>
    .ok ((), w.update replica ({ · with credentialReconciliation := true }))
  | .reconcileGiteaCredentials _ => .ok ((), w)
  | .endCredentialReconciliation replica =>
    .ok ((), w.update replica ({ · with credentialReconciliation := false }))
  | .finish replica maintenance => .ok ((), w.update replica (·.finished maintenance))

/-- Only requests fail; the steps of the event loop do not. -/
def Stmt.fault {β : Type} (e : Stmt β) (i : Input) : Option (Fault Failure) :=
  match e with
  | .upsertLease _ _ _ | .reconcilePersistedState _ _ | .sweep _ _ _
  | .reconcileGiteaCredentials _ => i.fault
  | _ => none

instance : Semantics Stmt Input World Failure where
  exec e i w :=
    let w := w.tick i.elapsed
    Interleave.execute (e.fault i) (e.run w) w

abbrev Call (α : Type) : Type 1 := Prog Stmt Failure α

def MIN_TTL_MS : Nat := 15000
def MAX_TTL_MS : Nat := 5 * 60000

/-- `[a-z0-9.-]` -/
def leaseCharacter (c : Char) : Bool := c.isLower || c.isDigit || c = '.' || c = '-'

/-- `LEASE_NAME` -/
def leaseName (name : String) : Bool :=
  match name.toList with
  | [] => false
  | c :: cs => c.isLower && cs.length ≤ 63 && cs.all leaseCharacter

def acquire (ownerId : Id) (name : String) (ttlMs : Nat) :
    Call (Option ControlPlaneLeaseClaim) := do
  refuseIf (!leaseName name) (.message "Control-plane lease name is invalid")
  refuseIf (decide (ttlMs < MIN_TTL_MS) || decide (MAX_TTL_MS < ttlMs))
    (.message "Control-plane lease TTL must be 15000-300000 ms")
  await (.upsertLease name ownerId ttlMs)

def ENVIRONMENT_EXPIRY_SWEEP_MS : Nat := 60000
def PROJECTS_LEASE_TTL_MS : Nat := 3 * ENVIRONMENT_EXPIRY_SWEEP_MS
def PROJECTS_LEASE_NAME : String := "projects-lifecycle"

def runMaintenance (replica : Id) (becameLeader : Bool) (generation : Nat) : Call Unit := do
  (if becameLeader then do
    await (.reconcilePersistedState replica generation)
    (await (.sweep replica generation .artifactRetention)).ignoreError
    await (.setLeaderGeneration replica generation)
  else (await (.sweep replica generation .interruptedExecutions)).ignoreError)
  (await (.sweep replica generation .environmentExpiry)).ignoreError
  (await (.sweep replica generation .renamedAccounts)).ignoreError
  await (.startCredentialReconciliation replica)

def runLeaderCycle (replica : Id) : Call Unit := do
  await (.send replica)
  let claim ← acquire replica PROJECTS_LEASE_NAME PROJECTS_LEASE_TTL_MS
  let started ← await (.resume replica claim)
  match claim, started with
  | some claim, some started =>
    (runMaintenance replica started.becameLeader claim.generation).ensure
      (await (.finish replica started.maintenance))
  | _, _ => return ()

/-- A process, up to the end of `onModuleInit`. -/
def onModuleInit : Call Unit := do
  let replica ← await .onModuleInit
  tryCatch (runLeaderCycle replica) fun error => do
    await (.onModuleDestroy replica)
    throw error

/-- The pass that runs beside the maintenance. -/
def reconcileGiteaCredentials (replica : Id) : Call Unit := do
  (await (.reconcileGiteaCredentials replica)).ignoreError
  await (.endCredentialReconciliation replica)

end InitPad.Leader
