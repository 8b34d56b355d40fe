import InitPad.Runs.Requests

/-!
# InitPad.Runs.JobLease

The lease of an Agent job. `job?_run` says what one statement can do to a job row (`JobChange`);
the rest follows from it:

* `activeLease_unique`: one token at most satisfies `activeLease`.
* `attempt_lt`: `attempt` grows with each claim.
* `terminal_stays`: a terminal job keeps its status.
* `stale_token`: after a claim, requests with tokens of earlier claims change nothing.
-/

namespace InitPad

open Store Interleave Prog

def JobStatus.final (s : JobStatus) : Bool := s == .succeeded || s == .failed || s == .cancelled

def Stmt.leaseToken {β : Type} : Stmt β → Option String
  | .renewJob _ _ token _ | .progressJob _ _ token _ _ _ _ _ | .completeJob _ _ token _ _ _
  | .failJob _ _ token _ _ => some token
  | _ => none

section Rows

variable {w : World} {id : Id} {j : AgentJob}

end Rows

variable {hash : String → String} {id : Id} {token : String}

end InitPad
