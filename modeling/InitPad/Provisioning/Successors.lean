import InitPad.Interleave.Contract
import InitPad.Provisioning.Footprint

/-!
# InitPad.Provisioning.Successors

One owner and one successor for each provisioning operation. Claims, releases and retries compare
the status and the owner of the lease; `succeed`, `fail`, `cleanupFinished` and the audit failure of
`start` write the status by id alone. `Owned` is the condition under which these find the operation
still in the hands of their process. A retried operation then stays retried, so that nobody can
follow it a second time.
-/

namespace InitPad.Provisioning

open Interleave Store
open Prog (await)

/-- The calls of the provisioning API, by any process. -/
inductive ProvisioningCall : Provision Unit → Prop where
  | create (instance_ : InstanceId) (request : ProvisioningRequest) (ownerId workspaceId : Id) :
      ProvisioningCall (do let _ ← create instance_ request ownerId workspaceId none)
  | importExisting (instance_ : InstanceId) (request : ProvisioningRequest)
      (ownerId workspaceId : Id) :
      ProvisioningCall (do let _ ← importExisting instance_ request ownerId workspaceId none)
  | retry (instance_ : InstanceId) (operationId userId : Id) :
      ProvisioningCall (do let _ ← retryProvisioning instance_ operationId userId)
  | cleanup (instance_ : InstanceId) (operationId : Id) :
      ProvisioningCall (cleanupProvisioning instance_ operationId)
  | reconcile : ProvisioningCall reconcileStale

def Calls (_ : ProvisioningMoment) (p : Provision Unit) : Prop := ProvisioningCall p

def Stmt.process {β : Type} : Stmt β → Option InstanceId
  | .createOperation instance_ _ | .updateOperation instance_ _ _ => some instance_
  | .updateOperations filter _ => filter.leaseOwner
  | _ => none

/-- The status that the statement writes by id alone. -/
def Stmt.ends {β : Type} : Stmt β → Option (Id × OperationStatus)
  | .updateOperation _ id patch => patch.status.map fun status => (id, status)
  | _ => none

/-- A write of a status by id alone finds the lease of its process, or an operation that was
interrupted and that nobody has claimed since, or the status that it writes. -/
def Owned (x : ProvisioningStep) : Prop :=
  ∀ id status op, x.input.fault = none → x.stmt.ends = some (id, status) →
    x.pre.state.operations.find? id = some op →
      op.leaseOwner = x.stmt.process ∨ op.status = .interrupted ∨ op.status = status

/-- How the status of an operation may change: by the owner of its lease; by nobody's successor,
when it was interrupted; by a claim of a failed operation; or because the lease has expired. -/
inductive MayChange (x : ProvisioningStep) (op op' : Operation) : Prop where
  | owner (instance_ : InstanceId) (hprocess : x.stmt.process = some instance_)
      (howner : op.leaseOwner = some instance_)
  | interrupted (hstatus : op.status = .interrupted)
  | claimed (instance_ : InstanceId) (hstatus : op.status = .failed)
      (howner : op'.leaseOwner = some instance_)
  | expired (now : Time) (hstale : op.stale now = true) (hstatus : op'.status = .interrupted)

/-- A process that lost its lease leaves the status of a later owner alone. -/
def SparesLaterOwner (x : ProvisioningStep) : Prop :=
  ∀ id op op', x.pre.state.operations.find? id = some op →
    x.post.state.operations.find? id = some op' → op'.status ≠ op.status → MayChange x op op'

/-- At most one operation follows each operation. -/
def SingleSuccessors (operations : Table Operation) : Prop :=
  ∀ op₁ ∈ operations.rows, ∀ op₂ ∈ operations.rows, op₁.retryOfId.isSome →
    op₁.retryOfId = op₂.retryOfId → op₁ = op₂

def RetryChain (operations : Table Operation) (chain : List Operation) : Prop :=
  (∀ op ∈ chain, op ∈ operations.rows) ∧
    chain.IsChain fun op next => next.retryOfId = some op.id

structure Counted (operations : Table Operation) (nextOperation : Id) : Prop where
  unique : operations.Unique
  fresh : ∀ op ∈ operations.rows, op.id < nextOperation
  bounded : ∀ op ∈ operations.rows, 1 ≤ op.attempt ∧ op.attempt ≤ MAX_ATTEMPTS
  counted : ∀ op ∈ operations.rows, ∀ previous, op.retryOfId = some previous →
    ∃ op₀, operations.find? previous = some op₀ ∧ op.attempt = op₀.attempt + 1

/-- A retried operation that nobody holds any more. -/
structure Operation.Retired (op : Operation) : Prop where
  status : op.status = .retried
  leaseOwner : op.leaseOwner = none

structure Followed (operations : Table Operation) : Prop where
  closed : ∀ op ∈ operations.rows, ∀ previous, op.retryOfId = some previous →
    ∃ op₀, operations.find? previous = some op₀ ∧ op₀.Retired
  single : SingleSuccessors operations

/-! ## What the calls guarantee -/

def Stmt.Disciplined {β : Type} : Stmt β → Prop
  | .updateOperation _ _ patch => ById patch
  | .updateOperations filter patch => Guarded filter patch
  | _ => True

/-- The attempt is the first one, or counts one more than the operation that it retries. -/
def World.Continues (w : World) (retryOfId : Option Id) (attempt : Nat) : Prop :=
  match retryOfId with
  | none => attempt = 1
  | some previous => ∃ op, w.operations.find? previous = some op ∧ attempt = op.attempt + 1 ∧
      op.attempt < MAX_ATTEMPTS

theorem World.Continues.persists {w w' : World} {retryOfId : Option Id} {attempt : Nat}
    (hp : ∀ id op, w.operations.find? id = some op →
      ∃ op', w'.operations.find? id = some op' ∧ op.Same op')
    (h : w.Continues retryOfId attempt) : w'.Continues retryOfId attempt := by
  cases retryOfId with
  | none => exact h
  | some previous =>
    obtain ⟨op, hop, hattempt, hbound⟩ := h
    obtain ⟨op', hop', hsame⟩ := hp previous op hop
    exact ⟨op', hop', by rw [hsame.attempt, hattempt], by rw [hsame.attempt]; exact hbound⟩

/-- Operations persist; attempts are counted; patches are those of the service. -/
def successionContract : Contract Stmt ProvisioningInput World String where
  ok _ := True
  inv _ := True
  rely _ m m' := ∀ id op, m.state.operations.find? id = some op →
    ∃ op', m'.state.operations.find? id = some op' ∧ op.Same op'
  guar x := x.stmt.Disciplined ∧ ∀ instance_ data, x.stmt.creates = some (instance_, data) →
    x.pre.state.Continues data.retryOfId data.attempt
  rely_refl _ _ _ op hop := ⟨op, hop, rfl, rfl⟩
  rely_trans _ _ _ _ h₁ h₂ id op hop := by
    obtain ⟨op₁, hop₁, hsame₁⟩ := h₁ id op hop
    obtain ⟨op₂, hop₂, hsame₂⟩ := h₂ id op₁ hop₁
    exact ⟨op₂, hop₂, hsame₂.attempt.trans hsame₁.attempt,
      hsame₂.retryOfId.trans hsame₁.retryOfId⟩
  inv_post _ _ _ _ := trivial
  rely_of_guar x _ _ _ _ _ _ _ hop := persists_exec x.stmt x.input hop

/-- Statements that keep to the service, and create attempts of this kind only. -/
def Plain (retryOfId : Option Id) (attempt : Nat) {β : Type} (e : Stmt β) : Prop :=
  e.Disciplined ∧ ∀ instance_ data, e.creates = some (instance_, data) →
    data.retryOfId = retryOfId ∧ data.attempt = attempt

variable {retryOfId : Option Id} {attempt : Nat} {t : Nat} {m : ProvisioningMoment} {α β : Type}

abbrev PlainOnly (retryOfId : Option Id) (attempt : Nat) (p : Provision α) : Prop :=
  p.Only fun e => Plain retryOfId attempt e

theorem plain_of_footprint {operationId : Id} {key : RepositoryKey} {e : Stmt β}
    (h : Footprint operationId key e) : Plain retryOfId attempt e := by
  refine ⟨?_, fun instance_ data hcreates => ?_⟩
  · cases e with
    | updateOperation => exact h.2
    | updateOperations => exact h.2
    | _ => trivial
  · cases e with
    | createOperation => exact h.elim
    | _ => cases hcreates

theorem Stays.plain {operationId : Id} {key : RepositoryKey} {p : Provision α}
    (h : Stays operationId key p) : PlainOnly retryOfId attempt p :=
  h.mono fun _ => plain_of_footprint

theorem plain_read {e : Stmt β} (hc : e.creates = none) (hr : e.rewrites = none) :
    Plain retryOfId attempt e := by
  refine ⟨?_, fun _ _ h => by rw [hc] at h; cases h⟩
  cases e with
  | updateOperation => cases hr
  | updateOperations => cases hr
  | _ => trivial

theorem plain_start (instance_ : InstanceId) {data : NewOperation}
    (h : data.retryOfId = retryOfId ∧ data.attempt = attempt) :
    PlainOnly retryOfId attempt (start instance_ data) := by
  have hcreate : Plain retryOfId attempt (.createOperation instance_ data) := by
    refine ⟨trivial, fun _ _ heq => ?_⟩
    cases heq
    exact h
  refine .bind (.await (plain_read rfl rfl)) fun _ => .bind (.await hcreate) fun operationId =>
    .bind (.tryCatch (.await (plain_read rfl rfl)) fun _ => .bind (.ignoreError ?_) fun _ =>
      .ret _) fun _ => .ret _
  exact .await ⟨.ends (.inr rfl) rfl, fun _ _ heq => by cases heq⟩

theorem plain_createInternal (instance_ : InstanceId) (request : ProvisioningRequest)
    (ownerId workspaceId operationId : Id) : PlainOnly retryOfId attempt
      (createInternal instance_ request ownerId workspaceId operationId) := by
  refine .bind (.await (plain_read rfl rfl)) fun _ => .bind (.await (plain_read rfl rfl))
    fun taken => only_refuseIf_bind fun _ => .bind (.await (plain_read rfl rfl)) fun _ =>
      .bind (.await (plain_read rfl rfl)) fun context => ?_
  exact (stays_createProject request ownerId workspaceId context rfl).plain

def noRepository : RepositoryKey := ⟨.gitea, "", ""⟩

theorem plain_succeed (instance_ : InstanceId) (operationId : Id) (projectId : Option Id) :
    PlainOnly retryOfId attempt (succeed instance_ operationId projectId) :=
  (stays_succeed projectId : Stays operationId noRepository _).plain

theorem plain_fail (instance_ : InstanceId) (operationId : Id) :
    PlainOnly retryOfId attempt (fail instance_ operationId) :=
  (stays_fail : Stays operationId noRepository _).plain

theorem plain_create (instance_ : InstanceId) (request : ProvisioningRequest)
    (ownerId workspaceId : Id) {retry : Option ProvisioningRetry}
    (h : retry.map (·.retryOfId) = retryOfId ∧ (retry.map (·.attempt)).getD 1 = attempt) :
    PlainOnly retryOfId attempt (create instance_ request ownerId workspaceId retry) := by
  refine .bind (.await (plain_read rfl rfl)) fun _ => .bind (plain_start instance_ h)
    fun operationId => .tryCatch ?_ fun _ => ?_
  · exact .bind (plain_createInternal ..) fun projectId => .bind (plain_succeed ..) fun _ => .ret _
  · exact .bind (plain_fail ..) fun _ => .ret _

theorem plain_importInternal (instance_ : InstanceId) (request : ProvisioningRequest)
    (ownerId workspaceId operationId : Id) : PlainOnly retryOfId attempt
      (importInternal instance_ request ownerId workspaceId operationId) := by
  have hstep : PlainOnly retryOfId attempt (step instance_ operationId) :=
    (stays_step : Stays operationId noRepository _).plain
  refine .bind (.await (plain_read rfl rfl)) fun _ => .bind hstep fun _ =>
    .bind (.await (plain_read rfl rfl)) fun repository => .bind (.await (plain_read rfl rfl))
      fun _ => .bind (.await (plain_read rfl rfl)) fun named => only_refuseIf_bind fun _ =>
        .bind (.await (plain_read rfl rfl)) fun connected => only_refuseIf_bind fun _ =>
          .bind (.await (plain_read rfl rfl)) fun _ => ?_
  have himport : Stays operationId repository.key (importProject instance_ operationId
      ⟨workspaceId, repository.key.name, repository⟩) := stays_importProject rfl
  have hconfigure : Stays operationId repository.key
      (configureImport instance_ operationId workspaceId ownerId repository) :=
    stays_configureImport rfl workspaceId ownerId
  refine .bind himport.plain fun projectId => .bind hstep fun _ => .bind hconfigure.plain
      fun configured => ?_
  obtain ⟨compensations, error⟩ := configured
  cases error with
  | none =>
    exact .bind (plain_succeed ..) fun _ => .bind (.await (plain_read rfl rfl)) fun _ => .ret _
  | some error =>
    have hrollback : Stays operationId repository.key
        (rollbackImport instance_ operationId projectId repository compensations) :=
      stays_rollbackImport rfl ..
    exact .bind hrollback.plain fun _ => .ret _

theorem plain_importExisting (instance_ : InstanceId) (request : ProvisioningRequest)
    (ownerId workspaceId : Id) {retry : Option ProvisioningRetry}
    (h : retry.map (·.retryOfId) = retryOfId ∧ (retry.map (·.attempt)).getD 1 = attempt) :
    PlainOnly retryOfId attempt (importExisting instance_ request ownerId workspaceId retry) :=
  .bind (.await (plain_read rfl rfl)) fun _ => .bind (plain_start instance_ h) fun _ =>
    .tryCatch (plain_importInternal ..) fun _ => .bind (plain_fail ..) fun _ => .ret _

theorem plain_reconcileStale : PlainOnly retryOfId attempt reconcileStale := by
  refine .bind (.await (plain_read rfl rfl)) fun now => .bind (.await (plain_read rfl rfl))
    fun stale => .forEach (fun id => ?_) stale
  have hinterrupt : PlainOnly retryOfId attempt (await (.updateOperations
      { id, status := leased, staleAt := some now }
      { status := some .interrupted, lease := .clear })) :=
    (stays_updateOperations rfl (.interrupts now rfl rfl rfl rfl) :
      Stays id noRepository _).plain
  refine .bind hinterrupt fun claimed => ?_
  split
  · exact .ret _
  · exact .bind (.await (plain_read rfl rfl)) fun _ => .ignoreError (.await (plain_read rfl rfl))

theorem plain_record (id : Id) : PlainOnly retryOfId attempt (record id) := by
  refine .bind plain_reconcileStale fun _ => .bind (.await (plain_read rfl rfl)) fun found => ?_
  cases found with
  | none => exact .ret _
  | some => exact .ret _

theorem plain_cleanupRepository (operation : Operation) (effects : List Effect)
    (project : Option Project) :
    PlainOnly retryOfId attempt (cleanupRepository operation effects project) := by
  unfold cleanupRepository
  cases operation.kind with
  | importRepo =>
    cases project with
    | none =>
      exact (stays_cleanupImport effects (fun _ h => by cases h) :
        Stays operation.id noRepository _).plain
    | some project =>
      have himport : Stays operation.id project.repository.key
          (cleanupImport operation.id effects (some project)) :=
        stays_cleanupImport effects fun _ h => by
          cases h
          rfl
      exact himport.plain
  | create =>
    cases hrepository : createdRepository effects project with
    | none =>
      exact (stays_cleanupCreate (fun _ h => by rw [hrepository] at h; cases h) :
        Stays operation.id noRepository _).plain
    | some repository =>
      have hcreate : Stays operation.id repository.key
          (cleanupCreate operation.id effects project) :=
        stays_cleanupCreate fun _ h => by
          rw [hrepository] at h
          cases h
          rfl
      exact hcreate.plain

theorem plain_cleanupProvisioning (instance_ : InstanceId) (operationId : Id) :
    PlainOnly retryOfId attempt (cleanupProvisioning instance_ operationId) := by
  refine .bind (plain_record operationId) fun ⟨operation, effects⟩ =>
    .bind (.await (plain_read rfl rfl)) fun _ => only_refuseIf_bind fun _ => ?_
  have hclaim : PlainOnly retryOfId attempt (claimCleanup instance_ operation.id) :=
    (stays_claimCleanup : Stays operation.id noRepository _).plain
  have hrelease : PlainOnly retryOfId attempt (releaseCleanup instance_ operation.id) :=
    (stays_releaseCleanup : Stays operation.id noRepository _).plain
  have hfinished : PlainOnly retryOfId attempt (cleanupFinished instance_ operation.id) :=
    (stays_cleanupFinished : Stays operation.id noRepository _).plain
  refine .bind hclaim fun _ => .tryCatch ?_ fun _ => .bind (.ignoreError hrelease) fun _ => .ret _
  refine .bind ?_ fun project => .bind (plain_cleanupRepository ..) fun external => .bind ?_
    fun clean => only_refuseIf_bind fun _ => hfinished
  · unfold operationProject
    split
    · exact .ret _
    · exact .await (plain_read rfl rfl)
  · cases external with
    | true => exact (stays_cleanupProject effects project : Stays operation.id noRepository _).plain
    | false => exact .ret _

/-! ## The guarantee -/

theorem guar_of_plain {e : Stmt β} {i : ProvisioningInput} (h : Plain retryOfId attempt e)
    (hcontinues : m.state.Continues retryOfId attempt) :
    successionContract.guar ⟨m, t, e, i⟩ := by
  refine ⟨h.1, fun instance_ data hcreates => ?_⟩
  obtain ⟨hretry, hattempt⟩ := h.2 instance_ data hcreates
  rw [hretry, hattempt]
  exact hcontinues

theorem safe_of_plain {p : Provision α} (h : PlainOnly retryOfId attempt p)
    (hcontinues : m.state.Continues retryOfId attempt) :
    Safe successionContract t (fun _ _ => True) p m := by
  have hstable : ∀ m m' : ProvisioningMoment, m.state.Continues retryOfId attempt →
      successionContract.rely t m m' → m'.state.Continues retryOfId attempt :=
    fun m m' hA hr => World.Continues.persists hr hA
  refine (Safe.of_only hstable ?_ h hcontinues).mono fun _ _ _ _ => trivial
  intro γ e i m hplain _ _ hA
  exact ⟨guar_of_plain hplain hA, hA.persists fun _ _ hop => persists_exec e i hop⟩

theorem safe_of_first {p : Provision α} (h : PlainOnly none 1 p) :
    Safe successionContract t (fun _ _ => True) p m := safe_of_plain h rfl

/-- An operation that was read, as far as it never changes. -/
def Known (operation : Operation) (m : ProvisioningMoment) : Prop :=
  ∃ op, m.state.operations.find? operation.id = some op ∧ op.attempt = operation.attempt

theorem Known.of_rely {operation : Operation} {m m' : ProvisioningMoment}
    (hr : successionContract.rely t m m') (h : Known operation m) : Known operation m' := by
  obtain ⟨op, hop, hattempt⟩ := h
  obtain ⟨op', hop', hsame⟩ := hr _ op hop
  exact ⟨op', hop', hsame.attempt.trans hattempt⟩

theorem findOperation_answer {id : Id} {i : ProvisioningInput} {w : World} {operation : Operation}
    {effects : List Effect} (h : (exec (Stmt.findOperation id) i w).1 = .ok (some (operation, effects))) :
    (exec (Stmt.findOperation id) i w).2.operations.find? id = some operation := by
  simp only [exec, Stmt.inProcess] at h ⊢
  split at h
  · cases h
  · simp only [Stmt.run, Except.ok.injEq, Option.map_eq_some_iff] at h ⊢
    obtain ⟨op, hop, heq⟩ := h
    cases heq
    exact hop

theorem safe_record (id : Id) : Safe successionContract t
    (fun r m => ∀ rec, r = .ok rec → Known rec.operation m) (record id) m := by
  have hfirst : Safe successionContract t (fun _ _ => True) reconcileStale m :=
    safe_of_first plain_reconcileStale
  have hthrow : ∀ (m : ProvisioningMoment) (x : String), Safe successionContract t
      (fun r m => ∀ rec, r = .ok rec → Known rec.operation m)
      (.ret (.error x) : Provision ProvisioningRecord) m :=
    fun _ _ => .ret fun _ _ _ rec h => by cases h
  refine Safe.bind trivial hfirst (fun _ m₁ _ _ => ?_) fun x m₁ _ _ => hthrow m₁ x
  refine Safe.await_bind fun m₂ i _ _ _ =>
    ⟨guar_of_plain (plain_read rfl rfl : Plain none 1 _) rfl, ?_⟩
  refine Safe.onValue (fun found hfound => ?_) fun x _ => hthrow _ x
  cases found with
  | none => exact hthrow _ _
  | some found =>
    obtain ⟨operation, effects⟩ := found
    refine .ret fun m' hr _ rec h => ?_
    cases h
    have hop := findOperation_answer hfound
    have hid : operation.id = id := Table.find?_key hop
    exact Known.of_rely hr ⟨operation, by rw [hid]; exact hop, rfl⟩

theorem plain_retry (instance_ : InstanceId) (operation : Operation)
    (request : ProvisioningRequest) (userId : Id) :
    PlainOnly (some operation.id) (operation.attempt + 1) (do
      claimRetry instance_ operation.id
      let retry : ProvisioningRetry := ⟨operation.id, operation.attempt + 1⟩
      tryCatch (match operation.kind with
        | .create => create instance_ request userId operation.workspaceId (some retry)
        | .importRepo =>
          importExisting instance_ request userId operation.workspaceId (some retry)) fun error => do
        quietly (releaseRetry instance_ operation.id)
        throw error) := by
  have hclaim : PlainOnly (some operation.id) (operation.attempt + 1)
      (claimRetry instance_ operation.id) :=
    (stays_claimRetry : Stays operation.id noRepository _).plain
  have hrelease : PlainOnly (some operation.id) (operation.attempt + 1)
      (releaseRetry instance_ operation.id) :=
    (stays_releaseRetry : Stays operation.id noRepository _).plain
  refine .bind hclaim fun _ => .tryCatch ?_ fun _ => .bind (.ignoreError hrelease) fun _ => .ret _
  cases operation.kind with
  | create => exact plain_create instance_ request userId _ ⟨rfl, rfl⟩
  | importRepo => exact plain_importExisting instance_ request userId _ ⟨rfl, rfl⟩

theorem attempt_of_isRetryable {rec : ProvisioningRecord} {userId : Id}
    (h : isRetryable rec userId = true) : rec.operation.attempt < MAX_ATTEMPTS := by
  simp only [isRetryable, Bool.and_eq_true, decide_eq_true_eq] at h
  exact h.1.2

theorem safe_retry (instance_ : InstanceId) (operationId userId : Id) :
    Safe successionContract t (fun _ _ => True) (retryProvisioning instance_ operationId userId)
      m := by
  refine Safe.bind trivial (safe_record operationId) (fun rec m₁ _ hknown => ?_)
    fun _ _ _ _ => .ret fun _ _ _ => trivial
  obtain ⟨operation, effects⟩ := rec
  have hknown : Known operation m₁ := hknown _ rfl
  refine Safe.await_bind fun m₂ i hr _ _ =>
    ⟨guar_of_plain (plain_read rfl rfl : Plain none 1 _) rfl, ?_⟩
  refine Safe.onValue (fun _ _ => ?_) fun _ _ => .ret fun _ _ _ => trivial
  obtain ⟨op, hop, hattempt⟩ := hknown.of_rely hr
  obtain ⟨op', hop', hsame⟩ := persists_exec (.aside "require write access") i hop
  cases hretryable : isRetryable ⟨operation, effects⟩ userId with
  | false => exact .ret fun _ _ _ => trivial
  | true =>
    have hbound := attempt_of_isRetryable hretryable
    have hcontinues : (m₂.next t (.aside "require write access") i).state.Continues
        (some operation.id) (operation.attempt + 1) :=
      ⟨op', hop', by rw [hsame.attempt, hattempt], by rw [hsame.attempt, hattempt]; exact hbound⟩
    cases hrequest : operation.request with
    | none =>
      simp only [isRetryable, hrequest, Option.isSome_none, Bool.and_false, Bool.false_and] at hretryable
      cases hretryable
    | some request => exact safe_of_plain (plain_retry instance_ operation request userId) hcontinues

theorem safe_call {p : Provision Unit} (h : ProvisioningCall p) :
    Safe successionContract t (fun _ _ => True) p m := by
  cases h with
  | create instance_ request ownerId workspaceId =>
    exact safe_of_first (.bind (plain_create instance_ request ownerId workspaceId ⟨rfl, rfl⟩)
      fun _ => .ret _)
  | importExisting instance_ request ownerId workspaceId =>
    exact safe_of_first (.bind
      (plain_importExisting instance_ request ownerId workspaceId ⟨rfl, rfl⟩) fun _ => .ret _)
  | retry instance_ operationId userId =>
    exact Safe.bind trivial (safe_retry instance_ operationId userId)
      (fun _ _ _ _ => .ret fun _ _ _ => trivial) fun _ _ _ _ => .ret fun _ _ _ => trivial
  | cleanup instance_ operationId => exact safe_of_first (plain_cleanupProvisioning ..)
  | reconcile => exact safe_of_first plain_reconcileStale

theorem guar_of_run {w : World} {tr : List ProvisioningStep} {c' : ProvisioningSystem}
    (h : Run Calls (Config.start w) tr c') : ∀ x ∈ tr, successionContract.guar x :=
  have hstart : Run.Sound successionContract (fun _ _ => True) (Config.start w) :=
    Run.sound_start _ w trivial
  (Run.safe successionContract (fun _ _ _ _ _ hp => safe_call hp) h hstart fun _ _ => trivial).2

/-! ## Counting -/

theorem mem_rewritten {table : Table Operation} {p : Operation → Bool} {patch : OperationPatch}
    {now : Time} {op' : Operation} (h : op' ∈ (table.updateMany p (patch.apply now)).rows) :
    ∃ op ∈ table.rows, op' = (if p op then patch.apply now op else op) ∧ op'.id = op.id ∧
      op.Same op' := by
  obtain ⟨op, hop, rfl⟩ := Table.mem_updateMany.mp h
  refine ⟨op, hop, rfl, ?_⟩
  split
  · exact ⟨apply_id .., apply_attempt .., apply_retryOfId ..⟩
  · exact ⟨rfl, rfl, rfl⟩

theorem Counted.rewritten {table : Table Operation} {next : Id} (h : Counted table next)
    (p : Operation → Bool) (patch : OperationPatch) (now : Time) :
    Counted (table.updateMany p (patch.apply now)) next where
  unique := h.unique.updateMany _ fun op => apply_id now patch op
  fresh op' hop' := by
    obtain ⟨op, hop, -, hid, -⟩ := mem_rewritten hop'
    rw [hid]
    exact h.fresh op hop
  bounded op' hop' := by
    obtain ⟨op, hop, -, -, hsame⟩ := mem_rewritten hop'
    rw [hsame.attempt]
    exact h.bounded op hop
  counted op' hop' previous hprevious := by
    obtain ⟨op, hop, -, -, hsame⟩ := mem_rewritten hop'
    obtain ⟨op₀, hop₀, hattempt⟩ := h.counted op hop previous (hsame.retryOfId ▸ hprevious)
    rw [hsame.attempt, hattempt]
    refine ⟨_, find?_rewritten hop₀, ?_⟩
    split
    · rw [apply_attempt]
    · rfl

theorem Counted.find?_next {table : Table Operation} {next : Id} (h : Counted table next) :
    table.find? next = none := by
  refine List.find?_eq_none.mpr fun op hop hkey => ?_
  have hid : op.id = next := of_decide_eq_true hkey
  have hlt := h.fresh op hop
  rw [hid] at hlt
  exact Nat.lt_irrefl _ hlt

theorem Counted.inserted {w : World} {op : Operation} (h : Counted w.operations w.nextOperation)
    (hid : op.id = w.nextOperation) (hcontinues : w.Continues op.retryOfId op.attempt) :
    Counted (w.operations.insert op) (w.nextOperation + 1) where
  unique := by
    have hnew : op.id ∉ w.operations.keys := by
      rw [← Table.find?_isSome_iff, hid, h.find?_next]
      decide
    rw [Table.Unique, Table.keys_insert]
    refine List.nodup_append.mpr ⟨h.unique, List.nodup_cons.mpr ⟨List.not_mem_nil, .nil⟩,
      fun k hk k' hk' heq => hnew ?_⟩
    rw [List.mem_singleton.mp hk'] at heq
    rw [heq] at hk
    exact hk
  fresh r hr := by
    rcases Table.mem_insert.mp hr with hr | rfl
    · exact Nat.lt_succ_of_lt (h.fresh r hr)
    · rw [hid]
      exact Nat.lt_succ_self _
  bounded r hr := by
    rcases Table.mem_insert.mp hr with hr | rfl
    · exact h.bounded r hr
    cases hretry : r.retryOfId with
    | none =>
      rw [hretry] at hcontinues
      have hfirst : r.attempt = 1 := hcontinues
      rw [hfirst]
      exact ⟨Nat.le_refl 1, by decide⟩
    | some previous =>
      rw [hretry] at hcontinues
      obtain ⟨op₀, -, hattempt, hbound⟩ := hcontinues
      exact ⟨by omega, by omega⟩
  counted r hr previous hprevious := by
    rcases Table.mem_insert.mp hr with hr | rfl
    · obtain ⟨op₀, hop₀, hattempt⟩ := h.counted r hr previous hprevious
      exact ⟨op₀, Table.find?_insert_of_some hop₀, hattempt⟩
    · rw [hprevious] at hcontinues
      obtain ⟨op₀, hop₀, hattempt, -⟩ := hcontinues
      exact ⟨op₀, Table.find?_insert_of_some hop₀, hattempt⟩

theorem counted_post {x : ProvisioningStep} (hg : successionContract.guar x)
    (h : Counted x.pre.state.operations x.pre.state.nextOperation) :
    Counted x.post.state.operations x.post.state.nextOperation := by
  obtain ⟨-, hcontinues⟩ := hg
  cases operationStep_exec x.stmt x.input x.pre.state with
  | kept hoperations hnext =>
    rw [Transition.post, Moment.next_state, hoperations, hnext]
    exact h
  | rewritten now hrewrites hoperations hnext =>
    rw [Transition.post, Moment.next_state, hoperations, hnext]
    exact h.rewritten ..
  | created hcreates hid hrow hoperations hnext =>
    obtain ⟨hattempt, hretry, hdata, -, -⟩ := hrow
    have hrow := hcontinues _ _ hcreates
    rw [Transition.post, Moment.next_state, hoperations, hnext]
    refine h.inserted hid ?_
    rw [hretry, hattempt, ← hdata]
    exact hrow
  | retried now hcreates hid hrow hcount hoperations hnext =>
    obtain ⟨hattempt, hretry, hdata, -, -⟩ := hrow
    have hrow := hcontinues _ _ hcreates
    rw [Transition.post, Moment.next_state, hoperations, hnext]
    refine Counted.rewritten (h.inserted hid ?_) ..
    rw [hretry, hattempt, ← hdata]
    exact hrow

theorem length_le_of_counted {table : Table Operation} {next : Id} (h : Counted table next) :
    ∀ chain, RetryChain table chain → ∀ op ∈ chain.head?,
      op.attempt + chain.length ≤ MAX_ATTEMPTS + 1
  | [], _, op, hop => by cases hop
  | [a], hchain, op, hop => by
    cases hop
    have hbound := (h.bounded a (hchain.1 a List.mem_cons_self)).2
    simp only [List.length_singleton]
    omega
  | a :: b :: rest, hchain, op, hop => by
    cases hop
    obtain ⟨hrows, hlink⟩ := hchain
    obtain ⟨hab, hrest⟩ := List.isChain_cons_cons.mp hlink
    have htail : RetryChain table (b :: rest) :=
      ⟨fun r hr => hrows r (List.mem_cons_of_mem _ hr), hrest⟩
    have ih := length_le_of_counted h (b :: rest) htail b rfl
    have ha := h.unique.find?_of_mem (hrows a List.mem_cons_self)
    obtain ⟨op₀, hop₀, hattempt⟩ := h.counted b
      (hrows b (List.mem_cons_of_mem _ List.mem_cons_self)) a.id hab
    rw [show table.find? a.id = some a from ha] at hop₀
    cases hop₀
    simp only [List.length_cons] at ih ⊢
    omega

/-! ## Followed operations -/

theorem operations_of_fault {e : Stmt β} {i : ProvisioningInput} {w : World} {f : Fault}
    {pp : (Operation → Bool) × OperationPatch} (hf : i.fault = some f) (h : e.rewrites = some pp) :
    (exec e i w).2.operations = w.operations := by
  cases e with
  | updateOperation | updateOperations => simp [exec, hf, Stmt.inProcess, Stmt.external]
  | _ => cases h

theorem Guarded.spares_retired {filter : OperationFilter} {patch : OperationPatch}
    (h : Guarded filter patch) {op : Operation} (hop : op.Retired) : filter.selects op = false := by
  cases hselects : filter.selects op with
  | false => rfl
  | true =>
    simp only [OperationFilter.selects, Bool.and_eq_true, hop.status] at hselects
    obtain ⟨⟨⟨-, hstatus⟩, howner⟩, -⟩ := hselects
    cases h with
    | renews instance_ hfilter => simp [hfilter, hop.leaseOwner] at howner
    | claims _ hfrom => simp [hfrom] at hstatus
    | releases instance_ hfilter => simp [hfilter, hop.leaseOwner] at howner
    | interrupts _ _ hfrom => simp [hfrom, leased] at hstatus

theorem retired_rewritten {x : ProvisioningStep} {p : Operation → Bool} {patch : OperationPatch}
    {now : Time} (hd : x.stmt.Disciplined) (ho : Owned x) (hfault : x.input.fault = none)
    (hrewrites : x.stmt.rewrites = some (p, patch)) {id : Id} {op : Operation}
    (hop : x.pre.state.operations.find? id = some op) (h : op.Retired) :
    (if p op then patch.apply now op else op).Retired := by
  split
  · rename_i hp
    obtain ⟨m, t, e, i⟩ := x
    cases e with
    | updateOperation instance_ id' patch' =>
      cases hrewrites
      have hid : id' = id := (of_decide_eq_true hp).symm.trans (Table.find?_key hop)
      subst hid
      cases hd with
      | keeps hstatus hlease =>
        refine ⟨by rw [apply_status, hstatus, h.status]; rfl, ?_⟩
        rcases hlease with hlease | hlease
        · simpa [OperationPatch.apply, LeaseChange.apply, hlease] using h.leaseOwner
        · simpa [OperationPatch.apply, LeaseChange.apply, hlease] using h.leaseOwner
      | ends hstatus =>
        obtain ⟨status, hpatch, hne⟩ : ∃ status, patch.status = some status ∧ status ≠ .retried := by
          rcases hstatus with hstatus | hstatus
          · exact ⟨_, hstatus, by decide⟩
          · exact ⟨_, hstatus, by decide⟩
        have hends : (Stmt.updateOperation instance_ id' patch).ends = some (id', status) := by
          simp [Stmt.ends, hpatch]
        rcases ho id' status op hfault hends hop with howner | hinterrupted | hsame
        · rw [h.leaseOwner] at howner
          cases howner
        · rw [h.status] at hinterrupted
          cases hinterrupted
        · exact absurd (hsame.symm.trans h.status) hne
    | updateOperations filter patch' =>
      cases hrewrites
      rw [Guarded.spares_retired hd h] at hp
      cases hp
    | _ => cases hrewrites
  · exact h

theorem Followed.rewritten {table : Table Operation} {p : Operation → Bool}
    {patch : OperationPatch} {now : Time} (h : Followed table)
    (hp : ∀ id op, table.find? id = some op → op.Retired →
      (if p op then patch.apply now op else op).Retired) :
    Followed (table.updateMany p (patch.apply now)) where
  closed op' hop' previous hprevious := by
    obtain ⟨op, hop, -, -, hsame⟩ := mem_rewritten hop'
    obtain ⟨op₀, hop₀, hretired⟩ := h.closed op hop previous (hsame.retryOfId ▸ hprevious)
    exact ⟨_, find?_rewritten hop₀, hp previous op₀ hop₀ hretired⟩
  single op₁' hop₁' op₂' hop₂' hsome heq := by
    obtain ⟨op₁, hop₁, rfl, -, hsame₁⟩ := mem_rewritten hop₁'
    obtain ⟨op₂, hop₂, rfl, -, hsame₂⟩ := mem_rewritten hop₂'
    rw [hsame₁.retryOfId] at hsome
    rw [hsame₁.retryOfId, hsame₂.retryOfId] at heq
    rw [h.single op₁ hop₁ op₂ hop₂ hsome heq]

theorem Followed.inserted {table : Table Operation} {op : Operation} (h : Followed table)
    (hop : op.retryOfId = none) : Followed (table.insert op) where
  closed r hr previous hprevious := by
    rcases Table.mem_insert.mp hr with hr | rfl
    · obtain ⟨op₀, hop₀, hretired⟩ := h.closed r hr previous hprevious
      exact ⟨op₀, Table.find?_insert_of_some hop₀, hretired⟩
    · rw [hop] at hprevious
      cases hprevious
  single r₁ hr₁ r₂ hr₂ hsome heq := by
    rcases Table.mem_insert.mp hr₁ with hr₁ | rfl
    · rcases Table.mem_insert.mp hr₂ with hr₂ | rfl
      · exact h.single r₁ hr₁ r₂ hr₂ hsome heq
      · rw [heq, hop] at hsome
        cases hsome
    · rw [hop] at hsome
      cases hsome

theorem Followed.retried {table : Table Operation} {instance_ : InstanceId} {op : Operation}
    {previous : Id} {now : Time} (hunique : table.Unique) (h : Followed table)
    (hop : op.retryOfId = some previous)
    (hcount : table.count (retiring instance_ previous).selects = 1) :
    Followed ((table.insert op).updateMany (retiring instance_ previous).selects
      (retired.apply now)) := by
  obtain ⟨op₀, hmem, hselects⟩ := (Table.count_pos_iff ..).mp (hcount ▸ Nat.one_pos)
  have hid : op₀.id = previous := by
    simp only [OperationFilter.selects, retiring, Bool.and_eq_true] at hselects
    exact of_decide_eq_true hselects.1.1.1
  have hfind : table.find? previous = some op₀ := hid ▸ hunique.find?_of_mem hmem
  have hfree : ∀ r ∈ table.rows, r.retryOfId ≠ some previous := by
    intro r hr hretry
    obtain ⟨op₁, hop₁, hretired⟩ := h.closed r hr previous hretry
    rw [hfind] at hop₁
    cases hop₁
    simp [OperationFilter.selects, retiring, hretired.status] at hselects
  constructor
  · intro r' hr' p hp
    obtain ⟨r, hr, -, -, hsame⟩ := mem_rewritten hr'
    rw [hsame.retryOfId] at hp
    rcases Table.mem_insert.mp hr with hr | rfl
    · obtain ⟨op₁, hop₁, hretired⟩ := h.closed r hr p hp
      refine ⟨_, find?_rewritten (Table.find?_insert_of_some hop₁), ?_⟩
      rw [if_neg]
      · exact hretired
      · simp [OperationFilter.selects, retiring, hretired.status]
    · rw [hop] at hp
      cases hp
      refine ⟨_, find?_rewritten (Table.find?_insert_of_some hfind), ?_⟩
      rw [if_pos hselects]
      exact ⟨rfl, rfl⟩
  · intro r₁' hr₁' r₂' hr₂' hsome heq
    obtain ⟨r₁, hr₁, rfl, -, hsame₁⟩ := mem_rewritten hr₁'
    obtain ⟨r₂, hr₂, rfl, -, hsame₂⟩ := mem_rewritten hr₂'
    rw [hsame₁.retryOfId] at hsome
    rw [hsame₁.retryOfId, hsame₂.retryOfId] at heq
    have hrr : r₁ = r₂ := by
      rcases Table.mem_insert.mp hr₁ with hold₁ | rfl
      · rcases Table.mem_insert.mp hr₂ with hold₂ | rfl
        · exact h.single r₁ hold₁ r₂ hold₂ hsome heq
        · exact absurd (heq.trans hop) (hfree r₁ hold₁)
      · rcases Table.mem_insert.mp hr₂ with hold₂ | rfl
        · exact absurd (heq.symm.trans hop) (hfree r₂ hold₂)
        · rfl
    rw [hrr]

theorem followed_post {x : ProvisioningStep} (hg : successionContract.guar x) (ho : Owned x)
    (hcounted : Counted x.pre.state.operations x.pre.state.nextOperation)
    (h : Followed x.pre.state.operations) : Followed x.post.state.operations := by
  cases operationStep_exec x.stmt x.input x.pre.state with
  | kept hoperations =>
    rw [Transition.post, Moment.next_state, hoperations]
    exact h
  | rewritten now hrewrites hoperations =>
    cases hfault : x.input.fault with
    | some f =>
      rw [Transition.post, Moment.next_state, operations_of_fault hfault hrewrites]
      exact h
    | none =>
      rw [Transition.post, Moment.next_state, hoperations]
      exact h.rewritten fun id op hop => retired_rewritten hg.1 ho hfault hrewrites hop
  | created _ _ hrow hoperations =>
    rw [Transition.post, Moment.next_state, hoperations]
    exact h.inserted hrow.2.1
  | retried now _ hid hrow hcount hoperations =>
    rw [Transition.post, Moment.next_state, hoperations]
    exact h.retried hcounted.unique hrow.2.1 hcount

/-! ## One owner -/

theorem status_of_rewritten {op op' : Operation} {p : Operation → Bool} {patch : OperationPatch}
    {now : Time} (hop' : op' = if p op then patch.apply now op else op)
    (hchanged : op'.status ≠ op.status) :
    p op = true ∧ patch.status = some op'.status ∧ op' = patch.apply now op := by
  cases hp : p op with
  | false => simp [hop', hp] at hchanged
  | true =>
    rw [hp, if_pos rfl] at hop'
    subst hop'
    rw [apply_status] at hchanged ⊢
    cases hstatus : patch.status with
    | none => simp [hstatus] at hchanged
    | some status => exact ⟨rfl, rfl, rfl⟩

theorem Guarded.mayChange {x : ProvisioningStep} {filter : OperationFilter}
    {patch : OperationPatch} {now : Time} {op : Operation} (h : Guarded filter patch)
    (hprocess : x.stmt.process = filter.leaseOwner) (hselects : filter.selects op = true)
    (hpatch : patch.status = some (patch.apply now op).status) :
    MayChange x op (patch.apply now op) := by
  simp only [OperationFilter.selects, Bool.and_eq_true] at hselects
  obtain ⟨⟨⟨-, hfrom⟩, howner⟩, hstale⟩ := hselects
  cases h with
  | renews _ _ hstatus =>
    rw [hstatus] at hpatch
    cases hpatch
  | claims instance_ hfilter _ hlease =>
    rw [hfilter] at hfrom
    have hstatus : op.status = .failed ∨ op.status = .interrupted := by simpa using hfrom
    rcases hstatus with hstatus | hstatus
    · exact .claimed instance_ hstatus (by simp [OperationPatch.apply, LeaseChange.apply, hlease])
    · exact .interrupted hstatus
  | releases instance_ hfilter =>
    rw [hfilter] at howner hprocess
    exact .owner instance_ hprocess (of_decide_eq_true howner)
  | interrupts now' hfilter _ hstatus =>
    rw [hfilter] at hstale
    rw [hstatus] at hpatch
    exact .expired now' hstale (Option.some.inj hpatch).symm

theorem spares_later_owner {x : ProvisioningStep} (hg : successionContract.guar x)
    (ho : Owned x) : SparesLaterOwner x := by
  intro id op op' hop hop' hchanged
  have hd := hg.1
  cases operationStep_exec x.stmt x.input x.pre.state with
  | kept hoperations =>
    rw [Transition.post, Moment.next_state, hoperations, hop] at hop'
    cases hop'
    exact absurd rfl hchanged
  | @rewritten _ patch now hrewrites hoperations =>
    cases hfault : x.input.fault with
    | some f =>
      rw [Transition.post, Moment.next_state, operations_of_fault hfault hrewrites, hop] at hop'
      cases hop'
      exact absurd rfl hchanged
    | none =>
      rw [Transition.post, Moment.next_state, hoperations, find?_rewritten hop] at hop'
      obtain ⟨hp, hpatch, rfl⟩ := status_of_rewritten (Option.some.inj hop').symm hchanged
      obtain ⟨m, t, e, i⟩ := x
      cases e with
      | updateOperation instance_ id' =>
        cases hrewrites
        have hid : id' = id := (of_decide_eq_true hp).symm.trans (Table.find?_key hop)
        subst hid
        have hends : (Stmt.updateOperation instance_ id' patch).ends =
            some (id', (patch.apply now op).status) := by
          simp only [Stmt.ends]
          rw [hpatch]
          rfl
        rcases ho id' _ op hfault hends hop with howner | hinterrupted | hsame
        · exact .owner instance_ rfl howner
        · exact .interrupted hinterrupted
        · exact absurd hsame.symm hchanged
      | updateOperations filter =>
        cases hrewrites
        exact Guarded.mayChange hd rfl hp hpatch
      | _ => cases hrewrites
  | created _ _ _ hoperations =>
    rw [Transition.post, Moment.next_state, hoperations, Table.find?_insert_of_some hop] at hop'
    cases hop'
    exact absurd rfl hchanged
  | @retried instance_ _ _ previous now hcreates _ _ _ hoperations =>
    rw [Transition.post, Moment.next_state, hoperations,
      find?_rewritten (Table.find?_insert_of_some hop)] at hop'
    obtain ⟨hp, -, rfl⟩ := status_of_rewritten (Option.some.inj hop').symm hchanged
    have hprocess : x.stmt.process = some instance_ := by
      obtain ⟨m, t, e, i⟩ := x
      cases e with
      | createOperation =>
        cases hcreates
        rfl
      | _ => cases hcreates
    refine .owner instance_ hprocess ?_
    simp only [OperationFilter.selects, retiring, Bool.and_eq_true] at hp
    exact of_decide_eq_true hp.1.2

/-- No chain of retries is longer than `MAX_ATTEMPTS`. As long as the writes by id alone come from
the owner, nobody else changes the status of an operation, and no operation is followed twice. -/
theorem one_owner_one_successor {w : World} {tr : List ProvisioningStep} {c' : ProvisioningSystem}
    (hcounted : Counted w.operations w.nextOperation) (hfollowed : Followed w.operations)
    (hrun : Run Calls (Config.start w) tr c') :
    (∀ chain, RetryChain c'.moment.state.operations chain → chain.length ≤ MAX_ATTEMPTS) ∧
      ((∀ x ∈ tr, Owned x) →
        (∀ x ∈ tr, SparesLaterOwner x) ∧ SingleSuccessors c'.moment.state.operations) := by
  have hguar := guar_of_run hrun
  refine ⟨fun chain hchain => ?_, fun howned => ⟨fun x hx =>
    spares_later_owner (hguar x hx) (howned x hx), ?_⟩⟩
  · have hfinal := hrun.preserves
      (fun m => Counted m.state.operations m.state.nextOperation) successionContract.guar
      (fun x hg h => counted_post hg h) hguar hcounted
    cases chain with
    | nil => exact Nat.zero_le _
    | cons op rest =>
      have hlength := length_le_of_counted hfinal (op :: rest) hchain op rfl
      have hfirst := (hfinal.bounded op (hchain.1 op List.mem_cons_self)).1
      omega
  · have hfinal := hrun.preserves
      (fun m => Counted m.state.operations m.state.nextOperation ∧ Followed m.state.operations)
      (fun x => successionContract.guar x ∧ Owned x)
      (fun x hx h => ⟨counted_post hx.1 h.1, followed_post hx.1 hx.2 h.1 h.2⟩)
      (fun x hx => ⟨hguar x hx, howned x hx⟩) ⟨hcounted, hfollowed⟩
    exact hfinal.2.single

/-! ## Two retries of one operation -/

def emptyWorld : World where
  now := 0
  operations := {}
  effects := {}
  projects := {}
  members := []
  repositories := {}
  context _ := (.gitea, "ada")
  username _ := none
  nextOperation := 0
  nextProject := 0
  nextRepository := 0

theorem counted_empty (next : Id) : Counted {} next where
  unique := List.nodup_nil
  fresh _ h := by cases h
  bounded _ h := by cases h
  counted _ h := by cases h

theorem followed_empty : Followed {} where
  closed _ h := by cases h
  single _ h := by cases h

def createShop (instance_ : InstanceId) : Provision Unit := do
  let _ ← create instance_ ⟨"shop", 0⟩ 1 0 none

def retryShop (instance_ : InstanceId) : Provision Unit := do
  let _ ← retryProvisioning instance_ 0 1

def createAndRetries : List (Provision Unit) := [createShop 0, retryShop 1, retryShop 2]

theorem call_of_mem_createAndRetries {m : ProvisioningMoment} :
    ∀ p ∈ createAndRetries, Calls m p := by
  intro p hp
  simp only [createAndRetries, List.mem_cons, List.not_mem_nil, or_false] at hp
  rcases hp with rfl | rfl | rfl
  · exact .create _ _ _ _
  · exact .retry _ _ _
  · exact .retry _ _ _

def answered (t n : Nat) : List (Nat × ProvisioningInput) := List.replicate n (t, {})

/-- A turn whose statement fails. -/
def failing (t : Nat) : Nat × ProvisioningInput :=
  (t, { fault := some ⟨"socket hang up", false⟩ })

def ownedBool (x : ProvisioningStep) : Bool :=
  x.stmt.ends.all fun (id, status) => (x.pre.state.operations.find? id).all fun op =>
    op.leaseOwner = x.stmt.process || op.status = .interrupted || op.status = status

theorem owned_of_bool {x : ProvisioningStep} (h : ownedBool x = true) : Owned x := by
  intro id status op _ hends hop
  simp only [ownedBool, hends, hop, Option.all_some, Bool.or_eq_true,
    decide_eq_true_eq] at h
  exact or_assoc.mp h

/-- The creation fails in the hands of its owner, and is retried once. -/
theorem one_owner_one_successor_in_turn : ∃ (c' : ProvisioningSystem) (tr : List ProvisioningStep),
    Run Calls (Config.start emptyWorld) tr c' ∧ (∀ x ∈ tr, SparesLaterOwner x) ∧
      SingleSuccessors c'.moment.state.operations ∧
        c'.moment.state.operations.rows.map (·.retryOfId) = [none, some 0] := by
  obtain ⟨tr, c', hrun, hcheck⟩ := run_of_plays (Config.start emptyWorld) createAndRetries
    (answered 0 4 ++ [failing 0] ++ answered 0 2 ++ answered 1 9)
    (fun tr c' => tr.all ownedBool &&
      c'.moment.state.operations.rows.map (·.retryOfId) == [none, some 0])
    call_of_mem_createAndRetries (by decide)
  simp only [Bool.and_eq_true, List.all_eq_true, beq_iff_eq] at hcheck
  obtain ⟨hspares, hsingle⟩ := (one_owner_one_successor (counted_empty 0) followed_empty hrun).2
    fun x hx => owned_of_bool (hcheck.1 x hx)
  exact ⟨c', tr, hrun, hspares, hsingle, hcheck.2⟩

/-- The lease of the creation expires and another process retries it; then the creation fails and
its process turns it from retried into failed, so that it can be retried again. -/
theorem retried_twice : ¬ ∀ (w : World) (tr : List ProvisioningStep) (c' : ProvisioningSystem),
    Counted w.operations w.nextOperation → Followed w.operations →
      Run Calls (Config.start w) tr c' →
        (∀ x ∈ tr, SparesLaterOwner x) ∧ SingleSuccessors c'.moment.state.operations ∧
          ∀ chain, RetryChain c'.moment.state.operations chain →
            chain.length ≤ MAX_ATTEMPTS := by
  intro h
  obtain ⟨tr, c', hrun, hcheck⟩ := run_of_plays (Config.start emptyWorld) createAndRetries
    (answered 0 4 ++ [(1, { elapsed := LEASE_MS + 1 })] ++ answered 1 11 ++ [failing 0] ++
      answered 0 1 ++ answered 2 9)
    (fun _ c' => c'.moment.state.operations.rows.any fun op₁ =>
      c'.moment.state.operations.rows.any fun op₂ =>
        op₁.retryOfId == some 0 && op₂.retryOfId == some 0 && op₁.id != op₂.id)
    call_of_mem_createAndRetries (by decide)
  simp only [List.any_eq_true, Bool.and_eq_true, beq_iff_eq, bne_iff_ne] at hcheck
  obtain ⟨op₁, hop₁, op₂, hop₂, ⟨hretry₁, hretry₂⟩, hne⟩ := hcheck
  have hsingle := (h _ tr c' (counted_empty 0) followed_empty hrun).2.1
  have hsome : op₁.retryOfId.isSome = true := by
    rw [hretry₁]
    rfl
  exact hne (by rw [hsingle op₁ hop₁ op₂ hop₂ hsome (hretry₁.trans hretry₂.symm)])

end InitPad.Provisioning
