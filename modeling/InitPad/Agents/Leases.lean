import InitPad.Deployment.Effect
import InitPad.Deployment.Operations

/-!
# InitPad.Agents.Leases

`AgentJobLeases`: the optimistic claim of the oldest available job and the renewal of its lease.
Every mutation is fenced by the Agent, its credential, the target, the lease token and the expiry.
-/

namespace InitPad

open Store Interleave Prog

def lostLease : Err := .conflict "Agent job lease is no longer valid"

/-- The authorization header's credential, if it has the shape of one. -/
def authenticate (credential : Option String) : Async AuthenticatedAgent :=
  match credential with
  | none => throw (.unauthorized "Invalid Agent credential")
  | some credential => await (.authenticate credential)

/-- The oldest row; the first one among rows of equal age. -/
def oldest : List AgentJob → Option AgentJob
  | [] => none
  | j :: rest =>
    match oldest rest with
    | none => some j
    | some k => if k.createdAt < j.createdAt then some k else some j

def candidateJob (db : Db) (agent : AuthenticatedAgent) (now : Time) (j : AgentJob) : Bool :=
  j.targetId == agent.targetId && decide (j.protocolVersion ≤ agent.protocolVersion) &&
    (j.status == .queued || (j.status == .leased && j.leaseExpiresAt.any (· ≤ now))) &&
    db.activeCredential agent j.targetId

structure ClaimedJob where
  row : AgentJob
  leaseToken : String
  leaseExpiresAt : Time

inductive ClaimAttempt where
  | empty
  | raced
  | claimed (job : ClaimedJob)

def readJob (jobId : Id) : Async AgentJob :=
  await (.query fun db => (db.agentJobs.find? jobId).elim (.error .recordNotFound) .ok)

def claimOnce (agent : AuthenticatedAgent) : Async ClaimAttempt := do
  let now ← await .readClock
  let candidate ← await (.query fun db => .ok
    (oldest (db.agentJobs.findMany (candidateJob db agent now))))
  match candidate with
  | none => pure .empty
  | some candidate =>
    let claimed ← await (.claimJob agent candidate.id candidate.status candidate.leaseTokenHash now)
    match claimed with
    | none => pure .raced
    | some leaseToken =>
      let row ← readJob candidate.id
      pure (.claimed ⟨row, leaseToken, now + leaseMs⟩)

def renew (credential : Option String) (jobId : Id) (leaseToken : String) : Async Time := do
  let now ← await .readClock
  let agent ← authenticate credential
  let renewed ← await (.renewJob agent jobId leaseToken now)
  if renewed = 1 then pure (now + leaseMs) else throw lostLease

end InitPad
