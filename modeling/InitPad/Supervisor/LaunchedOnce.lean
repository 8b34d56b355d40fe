import InitPad.Supervisor.MachineRules
import InitPad.Supervisor.Requests

/-!
# InitPad.Supervisor.LaunchedOnce

How often a request of `POST /v1/update` launches the helper. The state file remembers one
operation, so that a request is held back by its own operation as long as that is the stored one,
and by the flag `accepting` while it is handled; a request that passes the check behind them is
launched again.
-/

namespace InitPad.Supervisor

open Interleave Interleave.Prog

variable {config : ServerConfig} {env : Installation} {t : Nat} {h h' : ServerHistory}

def requested : ServerEvent → Option HttpRequest
  | ⟨_, .receive request, _, .ok _⟩ => some request
  | _ => none

/-- The check let a request through. -/
def grants : ServerEvent → Bool
  | ⟨_, .machine (.claimAccepting _), _, .ok true⟩ => true
  | _ => false

def releases : ServerEvent → Bool
  | ⟨_, .machine .releaseAccepting, _, _⟩ => true
  | _ => false

def boots : ServerEvent → Bool
  | ⟨_, .machine .boot, _, _⟩ => true
  | _ => false

/-- The plan was written; `launchHelper` is called without another statement. -/
def launches : ServerEvent → Option UpdatePlan
  | ⟨_, .machine (.writePlan plan), _, .ok _⟩ => some plan
  | _ => none

def stores : ServerEvent → Option String
  | ⟨_, .machine (.saveState state), _, .ok _⟩ => state.operation.map (·.requestId)
  | _ => none

def sees : ServerEvent → Option (Option String)
  | ⟨_, .machine .readState, _, .ok found⟩ => some ((found.bind (·.operation)).map (·.requestId))
  | ⟨_, .machine (.saveState state), _, .ok _⟩ => some (state.operation.map (·.requestId))
  | _ => none

/-- Statements that neither take nor leave the lock, and write no plan. -/
def Stmt.besides {β : Type} : Stmt β → Bool
  | .claimAccepting _ | .releaseAccepting | .boot | .writePlan _ => false
  | _ => true

/-- The programs that run: requests, the start of a process, and whatever else works on the machine
(the helpers that apply or recover an update, the adoption of a release). -/
inductive ServerCall (config : ServerConfig) (env : Installation) : Serving Unit → Prop where
  | request (request : HttpRequest) :
      ServerCall config env (handle config env request >>= fun _ => pure ())
  | start : ServerCall config env (onMachine (startServer env))
  | other {p : Updating Unit} (h : p.Only fun e => e.besides = true) :
      ServerCall config env (onMachine p)

def requestOf (h : ServerHistory) : Option HttpRequest := h.findSome? requested

/-- The request id of the operation that was read last. -/
def seenId (h : ServerHistory) : Option String := (h.filterMap sees).getLast?.join

structure Signed (config : ServerConfig) (request : HttpRequest) : Prop where
  method : request.method = "POST"
  path : request.path = "/v1/update"
  requestId : isUuid (request.requestId.getD "") = true
  timestamp : isTimestamp (request.timestamp.getD "") = true
  signature : request.signature.getD "" = signRequest config "POST" "/v1/update"
    (request.timestamp.getD "") (request.requestId.getD "") request.body

def Granted (h : ServerHistory) : Prop := h.any grants = true ∧ h.any releases = false

def Stored (id : String) (h : ServerHistory) : Prop := ∃ ev ∈ h, stores ev = some id

/-- Where the statements of a request stand behind its own events. -/
def Goes (config : ServerConfig) {γ : Type} (e : ServerStmt γ) (h : ServerHistory) : Prop :=
  match e with
  | .machine (.claimAccepting _) => ∃ request, requestOf h = some request ∧
      h.any grants = false ∧ seenId h ≠ some (request.requestId.getD "")
  | .machine .releaseAccepting => Granted h
  | .machine (.writePlan plan) => ∃ request, requestOf h = some request ∧ Signed config request ∧
      config.parseRelease request.body = .ok plan.release ∧ Granted h ∧
      Stored (request.requestId.getD "") h ∧ ∀ ev ∈ h, launches ev = none
  | _ => True

/-- The request was received and has not passed the check. -/
structure Waits (request : HttpRequest) (h : ServerHistory) : Prop where
  request : requestOf h = some request
  grants : h.any grants = false
  releases : h.any releases = false
  launches : ∀ ev ∈ h, launches ev = none

/-- The request has passed the check and written no plan. -/
structure Holds (request : HttpRequest) (h : ServerHistory) : Prop where
  request : requestOf h = some request
  granted : Granted h
  launches : ∀ ev ∈ h, launches ev = none

/-! ## What a request does -/

structure Aside (ev : ServerEvent) : Prop where
  requested : requested ev = none
  grants : grants ev = false
  releases : releases ev = false
  boots : boots ev = false
  launches : launches ev = none

theorem aside_event {β : Type} {e : Stmt β} (he : e.besides = true) (i : ServerInput)
    (r : Except String β) : Aside ⟨t, .machine e, i, r⟩ := by
  cases e with
  | claimAccepting | releaseAccepting | boot | writePlan => cases he
  | _ => exact ⟨rfl, rfl, rfl, rfl, rfl⟩

theorem requestOf_append {request : HttpRequest} (hrequest : requestOf h = some request)
    (ev : ServerEvent) : requestOf (h ++ [ev]) = some request := by
  rw [requestOf, List.findSome?_append, ← requestOf, hrequest]
  rfl

theorem Waits.append {request : HttpRequest} (hwaits : Waits request h) {ev : ServerEvent}
    (hev : Aside ev) : Waits request (h ++ [ev]) where
  request := requestOf_append hwaits.request ev
  grants := by simp [hwaits.grants, hev.grants]
  releases := by simp [hwaits.releases, hev.releases]
  launches := by
    intro ev' hev'
    rcases List.mem_append.mp hev' with hev' | hev'
    · exact hwaits.launches ev' hev'
    · rw [List.mem_singleton.mp hev']
      exact hev.launches

theorem Granted.append (hgranted : Granted h) {ev : ServerEvent} (hev : releases ev = false) :
    Granted (h ++ [ev]) := by
  constructor
  · simp [hgranted.1]
  · simp [hgranted.2, hev]

abbrev Serves (config : ServerConfig) {α : Type} (Q : Except String α → ServerHistory → Prop)
    (t : Nat) (p : Serving α) (h : ServerHistory) : Prop :=
  p.Meets (fun _ => True) (Goes config) Q t h

theorem aside_goes {β : Type} {e : Stmt β} (he : e.besides = true) :
    Goes config (.machine e) h := by
  cases e with
  | claimAccepting | releaseAccepting | boot | writePlan => cases he
  | _ => trivial

theorem serves_aside {α : Type} {B : ServerHistory → Prop}
    (hB : ∀ h ev, Aside ev → B h → B (h ++ [ev])) {p : Updating α}
    (hp : p.Only fun e => e.besides = true) (h : ServerHistory) (hh : B h) :
    Serves config (fun _ => B) t (onMachine p) h := by
  induction p generalizing h with
  | ret r => exact hh
  | call e k ih => exact ⟨aside_goes hp.1, fun i r _ => ih r (hp.2 r) _ (hB h _ (aside_event hp.1 i r) hh)⟩

theorem loadState_aside : (loadState env).Only fun e => e.besides = true := by
  refine .bind (.await rfl) fun found => ?_
  cases found with
  | none => exact .bind (.await rfl) fun _ => .ret _
  | some state =>
    dsimp only
    split <;> exact .ret _

theorem helperRuntime_aside : (helperRuntime env).Only fun e => e.besides = true :=
  .bind (.await rfl) fun _ => .ret _

theorem docker_aside (command : DockerCommand) : (docker command).Only fun e => e.besides = true :=
  .bind (.await rfl) fun _ => .ret _

theorem launchHelper_aside (planId : Id) : (launchHelper env planId).Only fun e => e.besides = true :=
  .bind helperRuntime_aside fun _ => .tryCatch (docker_aside _) fun _ =>
    .bind (.await rfl) fun _ => .ret _

theorem launchFailed_aside (state : SupervisorState) (operation : UpdateOperation)
    (error : String) : (launchFailed state operation error).Only fun e => e.besides = true :=
  .bind (.await rfl) fun _ => .ret _

theorem launches_append (hnone : ∀ ev ∈ h, launches ev = none) {ev : ServerEvent}
    (hev : launches ev = none) : ∀ ev' ∈ h ++ [ev], launches ev' = none := by
  intro ev' hev'
  rcases List.mem_append.mp hev' with hev' | hev'
  · exact hnone ev' hev'
  · rw [List.mem_singleton.mp hev']
    exact hev

theorem Holds.append {request : HttpRequest} (hholds : Holds request h) {ev : ServerEvent}
    (hev : Aside ev) : Holds request (h ++ [ev]) :=
  ⟨requestOf_append hholds.request ev, hholds.granted.append hev.releases,
    launches_append hholds.launches hev.launches⟩

theorem serves_await {β : Type} {e : Stmt β} {request : HttpRequest} (he : e.besides = true)
    (hholds : Holds request h) :
    Serves config (fun _ => Holds request) t (await (.machine e)) h :=
  .await (aside_goes he) fun i r _ => hholds.append (aside_event he i r)

theorem Stored.append {id : String} (hstored : Stored id h) (ev : ServerEvent) :
    Stored id (h ++ [ev]) := by
  obtain ⟨ev', hev', hid⟩ := hstored
  exact ⟨ev', List.mem_append_left _ hev', hid⟩

theorem acceptUpdate_serves {request : HttpRequest} {state : SupervisorState}
    (hsigned : Signed config request) (hholds : Holds request h) :
    Serves config (fun _ => Granted) t (onMachine (acceptUpdate env
      ⟨request.requestId.getD "", config.parseRelease request.body⟩ state)) h := by
  unfold onMachine acceptUpdate
  simp only [translate_bind, translate_await, translate_tryCatch, translate_pure, liftExcept,
    translate_ret]
  cases hparsed : config.parseRelease request.body with
  | error message => exact hholds.granted
  | ok release =>
    refine (serves_await rfl hholds).bind (fun manifest h₁ hholds₁ => ?_) fun _ _ hh => hh.granted
    refine (serves_await rfl hholds₁).bind (fun id h₂ hholds₂ => ?_) fun _ _ hh => hh.granted
    refine .await_bind trivial (fun i _ _ => ?_) fun i x _ => hholds₂.granted.append rfl
    -- The operation is in the state file from here on.
    have hstored : Stored (request.requestId.getD "") (h₂ ++ [⟨t, .machine (.saveState { state with
        operation := some (acceptedOperation id ⟨request.requestId.getD "", .ok release⟩ state
          manifest) }), i, .ok ()⟩]) :=
      ⟨_, List.mem_append_right _ (.head _), rfl⟩
    have hholds₃ := hholds₂.append (aside_event (t := t) (e := .saveState { state with
        operation := some (acceptedOperation id ⟨request.requestId.getD "", .ok release⟩ state
          manifest) }) rfl i (.ok ()))
    refine .await_bind trivial (fun j _ _ => ?_) fun j x _ => hholds₃.granted.append rfl
    have hholds₄ := hholds₃.append (aside_event (t := t) (e := .makeDirectory) rfl j (.ok ()))
    refine .await_bind ⟨request, hholds₄.request, hsigned, hparsed, hholds₄.granted,
      hstored.append _, hholds₄.launches⟩ (fun k _ _ => ?_) fun k x _ => hholds₄.granted.append rfl
    have hgranted := hholds₄.granted.append
      (show releases ⟨t, .machine (.writePlan ⟨id, release⟩), k, .ok ()⟩ = false from rfl)
    have hkeeps : ∀ (h : ServerHistory) ev, Aside ev → Granted h → Granted (h ++ [ev]) :=
      fun _ _ hev hh => hh.append hev.releases
    refine Meets.bind (Meets.tryCatch (serves_aside hkeeps (launchHelper_aside id) _ hgranted)
      (fun _ _ hh => hh) fun error h₅ hh => serves_aside hkeeps (launchFailed_aside _ _ _) h₅ hh)
      (fun _ _ hh => hh) fun _ _ hh => hh

theorem launchRecoveryHelper_aside :
    (launchRecoveryHelper env).Only fun e => e.besides = true := by
  refine .bind loadState_aside fun state => ?_
  split
  · exact .ret _
  · refine .bind (.await rfl) fun updater => ?_
    split
    · exact .ret _
    · refine .bind (.await rfl) fun recovery => ?_
      split
      · exact .ret _
      · exact .bind helperRuntime_aside fun image => docker_aside _

theorem seenId_append {ev : ServerEvent} {id : Option String} (hev : sees ev = some id) :
    seenId (h ++ [ev]) = id := by
  simp [seenId, hev]

theorem loadState_serves {request : HttpRequest} (hwaits : Waits request h) :
    Serves config (fun r h' => ∀ state, r = .ok state → Waits request h' ∧
      seenId h' = state.operation.map (·.requestId)) t (onMachine (loadState env)) h := by
  unfold onMachine loadState
  rw [translate_bind, translate_await]
  refine .await_bind trivial (fun i found _ => ?_) fun i x _ state hstate => by cases hstate
  have hread := hwaits.append (aside_event (t := t) (e := .readState) rfl i (.ok found))
  cases found with
  | none =>
    dsimp only
    rw [translate_bind, translate_await]
    refine .await_bind trivial (fun j u _ => ?_) fun j x _ state hstate => by cases hstate
    intro state hstate
    obtain rfl := Except.ok.inj hstate
    exact ⟨hread.append (aside_event rfl j (.ok u)), seenId_append rfl⟩
  | some found =>
    dsimp only
    split
    · intro state hstate
      obtain rfl := Except.ok.inj hstate
      exact ⟨hread, seenId_append rfl⟩
    · intro state hstate
      cases hstate

theorem handleRequest_serves {request : HttpRequest} (hsigned : Signed config request)
    (hwaits : Waits request h) :
    Serves config (fun _ _ => True) t (onMachine (handleRequest env
      ⟨request.requestId.getD "", config.parseRelease request.body⟩)) h := by
  unfold onMachine handleRequest
  rw [translate_bind]
  refine (loadState_serves hwaits).bind (fun state h₁ hloaded => ?_) fun _ _ _ => trivial
  obtain ⟨hwaits₁, hseen⟩ := hloaded state rfl
  split
  · exact trivial
  · rename_i hother
    have hunseen : seenId h₁ ≠ some (request.requestId.getD "") := by
      rw [hseen]
      intro hsame
      obtain ⟨operation, hoperation, hid⟩ := Option.map_eq_some_iff.mp hsame
      rw [hoperation, Option.filter_some, if_pos (decide_eq_true hid)] at hother
      cases hother
    rw [translate_bind, translate_await]
    refine .await_bind ⟨request, hwaits₁.request, hwaits₁.grants, hunseen⟩ (fun i owned _ => ?_)
      fun _ _ _ => trivial
    cases owned with
    | false => exact trivial
    | true =>
      rw [if_pos rfl, translate_ensure]
      have hholds : Holds request (h₁ ++ [⟨t, .machine (.claimAccepting
          (state.operation.any (·.status.busy))), i, .ok true⟩]) := by
        refine ⟨requestOf_append hwaits₁.request _, ⟨?_, ?_⟩,
          launches_append hwaits₁.launches rfl⟩
        · simp [grants]
        · simp [hwaits₁.releases, releases]
      refine (acceptUpdate_serves hsigned hholds).andThen fun r h₂ hgranted => ?_
      refine ⟨hgranted, fun _ r' _ => ?_⟩
      cases r' <;> exact trivial

theorem requireThat_bind {α : Type} {condition : Bool} {message : String}
    {f : Unit → Except String α} {a : α} (hok : (requireThat condition message >>= f) = .ok a) :
    condition = true ∧ f () = .ok a := by
  unfold requireThat at hok
  split at hok
  · exact ⟨‹_›, hok⟩
  · cases hok

theorem signed_of_authenticated {request : HttpRequest} {now : ℕ} {u : Unit}
    (hmethod : request.method = "POST") (hpath : request.path = "/v1/update")
    (hok : authenticateRequest config request now = .ok u) : Signed config request := by
  unfold authenticateRequest at hok
  obtain ⟨-, hok⟩ := requireThat_bind hok
  obtain ⟨htimestamp, hok⟩ := requireThat_bind hok
  obtain ⟨-, hok⟩ := requireThat_bind hok
  obtain ⟨hrequestId, hok⟩ := requireThat_bind hok
  obtain ⟨-, hok⟩ := requireThat_bind hok
  unfold requireThat at hok
  split at hok
  · rename_i hsignature
    rw [hmethod, hpath] at hsignature
    exact ⟨hmethod, hpath, hrequestId, htimestamp, (eq_of_beq hsignature).symm⟩
  · cases hok

theorem handle_serves (request : HttpRequest) :
    Serves config (fun _ _ => True) t (handle config env request) [] := by
  unfold handle
  split
  · exact trivial
  · split
    · exact trivial
    · refine Meets.tryCatch (Q := fun _ _ => True) ?_ (fun _ _ _ => trivial)
        fun _ _ _ => trivial
      unfold handleAuthenticated
      refine .await_bind trivial (fun i now _ => ?_) fun _ _ _ => trivial
      cases hauthenticated : authenticateRequest config request now with
      | error message => exact trivial
      | ok u =>
        have hwaits : Waits request [⟨t, .receive request, i, .ok now⟩] := by
          refine ⟨rfl, rfl, rfl, fun ev hev => ?_⟩
          rw [List.mem_singleton.mp hev]
          rfl
        change Serves config _ t (if _ then _ else _) _
        split
        · exact (serves_aside (B := Waits request) (fun _ _ hev hh => hh.append hev) loadState_aside
            _ hwaits).bind (fun _ _ _ => trivial) fun _ _ _ => trivial
        · split
          · exact trivial
          · rename_i hupdate
            have hmethod : request.method = "POST" := by
              by_contra hother
              exact hupdate (.inl hother)
            have hpath : request.path = "/v1/update" := by
              by_contra hother
              exact hupdate (.inr hother)
            exact (handleRequest_serves (signed_of_authenticated hmethod hpath hauthenticated)
              hwaits).bind (fun _ _ _ => trivial) fun _ _ _ => trivial

theorem serverCall_serves {p : Serving Unit} (hp : ServerCall config env p) :
    Serves config (fun _ _ => True) t p [] := by
  cases hp with
  | request request => exact (handle_serves request).bind (fun _ _ _ => trivial) fun _ _ _ => trivial
  | start =>
    unfold onMachine startServer
    rw [translate_bind, translate_await]
    refine .await_bind trivial (fun _ _ _ => ?_) fun _ _ _ => trivial
    exact serves_aside (B := fun _ => True) (fun _ _ _ _ => trivial) launchRecoveryHelper_aside _
      trivial
  | other hp => exact serves_aside (B := fun _ => True) (fun _ _ _ _ => trivial) hp _ trivial

/-! ## The lock -/

/-- Whether thread `t` is between the check and the release, in the process that runs. -/
def insideStep (t : Nat) (inside : Bool) (ev : ServerEvent) : Bool :=
  if boots ev then false
  else if ev.thread = t then
    if grants ev then true else if releases ev then false else inside
  else inside

def inside (t : Nat) (h : ServerHistory) : Bool := h.foldl (insideStep t) false

theorem inside_append (t : Nat) (h : ServerHistory) (ev : ServerEvent) :
    inside t (h ++ [ev]) = insideStep t (inside t h) ev := by
  simp [inside]

/-- A request that holds the lock makes a step only as long as its process has not been started
anew: a process that ends takes its requests with it. -/
def Alive (x : ServerStep) : Prop :=
  Granted (own x.thread x.pre.history) → inside x.thread x.pre.history = true

theorem inside_post {x : ServerStep} (h : inside t x.post.history = true) :
    grants x.event = true ∧ x.thread = t ∨ inside t x.pre.history = true ∧
      boots x.event = false ∧ (x.thread = t → releases x.event = false) := by
  rw [x.post_history, inside_append, insideStep] at h
  split at h
  · cases h
  · rename_i hboots
    split at h
    · rename_i ht
      split at h
      · rename_i hgrants
        exact .inl ⟨hgrants, ht⟩
      · split at h
        · cases h
        · rename_i hreleases
          exact .inr ⟨h, Bool.eq_false_iff.mpr hboots, fun _ => Bool.eq_false_iff.mpr hreleases⟩
    · rename_i ht
      exact .inr ⟨h, Bool.eq_false_iff.mpr hboots, fun heq => absurd heq ht⟩

theorem accepting_failed {β : Type} (e : Stmt β) (i : MachineInput) (w : Machine) :
    (e.failed i w).accepting = w.accepting := by
  cases e <;> simp only [Stmt.failed] <;> split <;> rfl

theorem accepting_run {β : Type} {e : Stmt β} (he : e.inProcess = false) (i : MachineInput)
    (w : Machine) : (e.run i w).2.accepting = w.accepting := by
  cases e with
  | randomId | assign | «locals» | claimAccepting | releaseAccepting | boot => cases he
  | createLock | readPlan | writePlan | copyToSaved | copyFromSaved | renameSaved =>
    simp only [Stmt.run]
    repeat' split
    all_goals rfl
  | _ => rfl

theorem accepting_post (x : ServerStep) : x.post.state.accepting = x.pre.state.accepting ∨
    grants x.event = true ∨ releases x.event = true ∨ boots x.event = true := by
  obtain ⟨m, t, e, i⟩ := x
  cases e with
  | receive request =>
    refine .inl ?_
    simp only [Transition.post, Moment.next_state, exec]
    split <;> rfl
  | machine e =>
    cases hprocess : e.inProcess with
    | false =>
      refine .inl ?_
      simp only [Transition.post, Moment.next_state, exec, hprocess]
      split
      · exact accepting_failed e _ _
      · exact accepting_run hprocess _ _
    | true =>
      cases e with
      | releaseAccepting => exact .inr (.inr (.inl rfl))
      | boot => exact .inr (.inr (.inr rfl))
      | claimAccepting busy =>
        have hrun : exec (Stmt.claimAccepting busy) i.machine m.state =
          (Stmt.claimAccepting busy).run i.machine m.state := exec_inProcess rfl
        have hexec : exec (ServerStmt.machine (.claimAccepting busy)) i m.state =
          (Stmt.claimAccepting busy).run i.machine m.state := hrun
        by_cases hheld : (m.state.accepting || busy) = true
        · refine .inl ?_
          simp only [Transition.post, Moment.next_state, hexec, Stmt.run, if_pos hheld]
        · refine .inr (.inl ?_)
          simp only [Transition.event, Transition.result, hexec, Stmt.run, if_neg hheld, grants]
      | randomId | assign | «locals» =>
        refine .inl ?_
        simp only [Transition.post, Moment.next_state, exec, hprocess]
        split <;> rfl
      | _ => cases hprocess

theorem accepting_of_grants {x : ServerStep} (h : grants x.event = true) :
    x.pre.state.accepting = false ∧ x.post.state.accepting = true := by
  obtain ⟨m, t, e, i⟩ := x
  cases e with
  | receive request => cases h
  | machine e =>
    cases e with
    | claimAccepting busy =>
      have hrun : exec (Stmt.claimAccepting busy) i.machine m.state =
        (Stmt.claimAccepting busy).run i.machine m.state := exec_inProcess rfl
      have hexec : exec (ServerStmt.machine (.claimAccepting busy)) i m.state =
        (Stmt.claimAccepting busy).run i.machine m.state := hrun
      by_cases hheld : (m.state.accepting || busy) = true
      · simp only [Transition.event, Transition.result, hexec, Stmt.run, if_pos hheld] at h
        cases h
      · simp only [Transition.post, Moment.next_state, hexec, Stmt.run, if_neg hheld]
        simp only [Bool.or_eq_true, not_or, Bool.not_eq_true] at hheld
        exact ⟨hheld.1, trivial⟩
    | _ => cases h

/-! ## Launches -/

/-- The id of the request that thread `t` has received. -/
def requestIdOf (t : Nat) (m : ServerMoment) : Option String :=
  (requestOf (own t m.history)).map (·.requestId.getD "")

def storedId (w : Machine) : Option String := (w.state.bind (·.operation)).map (·.requestId)

/-- What the state file tells the check: an operation of the request that the file holds was there
when the request read it, and an operation of the request that was ever stored is still there. -/
structure Recalls (x : ServerStep) (id : String) : Prop where
  current : storedId x.pre.state = some id → seenId (own x.thread x.pre.history) = some id
  kept : Stored id x.pre.history → storedId x.pre.state = some id

/-- Every request that passes the check is one that the state file could tell. -/
def ChecksRecall (x : ServerStep) : Prop :=
  grants x.event = true → ∀ id, requestIdOf x.thread x.pre = some id → Recalls x id

theorem requestIdOf_prefix {m m' : ServerMoment} (hbefore : m.history <+: m'.history) {t : Nat}
    {id : String} (h : requestIdOf t m = some id) : requestIdOf t m' = some id := by
  obtain ⟨request, hrequest, rfl⟩ := Option.map_eq_some_iff.mp h
  obtain ⟨rest, hrest⟩ := hbefore
  rw [requestIdOf, ← hrest, own_append, requestOf, List.findSome?_append, ← requestOf, hrequest]
  rfl

theorem requestIdOf_post {x : ServerStep} {t : Nat} {id : String}
    (h : requestIdOf t x.pre = some id) : requestIdOf t x.post = some id :=
  requestIdOf_prefix (List.prefix_append _ _) h

theorem own_subset (t : Nat) (h : ServerHistory) : own t h ⊆ h := List.filter_subset_self h

structure Locked (m : ServerMoment) : Prop where
  accepting : ∀ t, inside t m.history = true → m.state.accepting = true
  alone : ∀ t t', inside t m.history = true → inside t' m.history = true → t = t'
  known : ∀ t, inside t m.history = true → ∃ id, requestIdOf t m = some id
  launched : ∀ ev ∈ m.history, launches ev ≠ none →
    ∃ id, requestIdOf ev.thread m = some id ∧ Stored id m.history
  first : ∀ t, inside t m.history = true → ∀ ev ∈ m.history, launches ev ≠ none → ev.thread ≠ t →
    requestIdOf ev.thread m ≠ requestIdOf t m

theorem locked_start {w : Machine} : Locked ⟨w, []⟩ where
  accepting := fun _ h => nomatch h
  alone := fun _ _ h => nomatch h
  known := fun _ h => nomatch h
  launched := fun _ h => nomatch h
  first := fun _ h => nomatch h

theorem goes_of_grants {x : ServerStep} (hgoes : Goes config x.stmt (own x.thread x.pre.history))
    (h : grants x.event = true) : ∃ id, requestIdOf x.thread x.pre = some id ∧
      seenId (own x.thread x.pre.history) ≠ some id := by
  obtain ⟨m, t, e, i⟩ := x
  cases e with
  | receive request => cases h
  | machine e =>
    cases e with
    | claimAccepting busy =>
      obtain ⟨request, hrequest, -, hunseen⟩ := hgoes
      exact ⟨_, Option.map_eq_some_iff.mpr ⟨request, hrequest, rfl⟩, hunseen⟩
    | _ => cases h

theorem goes_of_releases {x : ServerStep}
    (hgoes : Goes config x.stmt (own x.thread x.pre.history)) (h : releases x.event = true) :
    Granted (own x.thread x.pre.history) := by
  obtain ⟨m, t, e, i⟩ := x
  cases e with
  | receive request => cases h
  | machine e =>
    cases e with
    | releaseAccepting => exact hgoes
    | _ => cases h

theorem goes_of_launches {x : ServerStep}
    (hgoes : Goes config x.stmt (own x.thread x.pre.history)) {plan : UpdatePlan}
    (h : launches x.event = some plan) : ∃ request, requestOf (own x.thread x.pre.history) =
      some request ∧ Signed config request ∧ config.parseRelease request.body = .ok plan.release ∧
      Granted (own x.thread x.pre.history) ∧
      Stored (request.requestId.getD "") (own x.thread x.pre.history) ∧
      ∀ ev ∈ own x.thread x.pre.history, launches ev = none := by
  obtain ⟨m, t, e, i⟩ := x
  cases e with
  | receive request => cases h
  | machine e =>
    cases e with
    | writePlan plan' =>
      cases hresult : (exec (ServerStmt.machine (.writePlan plan')) i m.state).1 with
      | ok u =>
        simp only [Transition.event, Transition.result, hresult, launches] at h
        obtain rfl := Option.some.inj h
        exact hgoes
      | error x =>
        simp only [Transition.event, Transition.result, hresult, launches] at h
        cases h
    | _ => cases h

theorem grants_of_launches {ev : ServerEvent} (h : launches ev ≠ none) : grants ev = false := by
  obtain ⟨t, e, i, r⟩ := ev
  cases e with
  | receive request => exact absurd rfl h
  | machine e =>
    cases e with
    | writePlan plan => rfl
    | _ => exact absurd rfl h

theorem locked_post {x : ServerStep} (hlocked : Locked x.pre)
    (hgoes : Goes config x.stmt (own x.thread x.pre.history)) (halive : Alive x)
    (hchecks : ChecksRecall x) : Locked x.post := by
  -- Who is inside behind the check is the thread that has passed it.
  have hgrant : grants x.event = true → ∀ t, inside t x.post.history = true → t = x.thread := by
    intro hgrants t ht
    rcases inside_post ht with ⟨-, rfl⟩ | ⟨hpre, -, -⟩
    · rfl
    · have hfree := (accepting_of_grants hgrants).1
      rw [hlocked.accepting t hpre] at hfree
      cases hfree
  have hstays : grants x.event = false → ∀ t, inside t x.post.history = true →
      inside t x.pre.history = true ∧ boots x.event = false ∧ releases x.event = false := by
    intro hgrants t ht
    rcases inside_post ht with ⟨hgranted, -⟩ | ⟨hpre, hboots, hreleases⟩
    · rw [hgrants] at hgranted
      cases hgranted
    · refine ⟨hpre, hboots, Bool.eq_false_iff.mpr fun hrelease => ?_⟩
      have hinside := halive (goes_of_releases hgoes hrelease)
      have hsame := hlocked.alone _ _ hinside hpre
      rw [hreleases hsame] at hrelease
      cases hrelease
  have hevents : ∀ ev ∈ x.post.history, ev ∈ x.pre.history ∨ ev = x.event := by
    intro ev hev
    rw [x.post_history] at hev
    rcases List.mem_append.mp hev with hev | hev
    · exact .inl hev
    · exact .inr (List.mem_singleton.mp hev)
  have hstored : ∀ {id}, Stored id x.pre.history → Stored id x.post.history := by
    intro id hstored
    rw [x.post_history]
    exact hstored.append _
  constructor
  · intro t ht
    cases hgrants : grants x.event with
    | true => exact (accepting_of_grants hgrants).2
    | false =>
      obtain ⟨hpre, hboots, hreleases⟩ := hstays hgrants t ht
      rcases accepting_post x with hsame | hgrants' | hreleases' | hboots'
      · rw [hsame]
        exact hlocked.accepting t hpre
      · rw [hgrants] at hgrants'
        cases hgrants'
      · rw [hreleases] at hreleases'
        cases hreleases'
      · rw [hboots] at hboots'
        cases hboots'
  · intro t t' ht ht'
    cases hgrants : grants x.event with
    | true => rw [hgrant hgrants t ht, hgrant hgrants t' ht']
    | false => exact hlocked.alone t t' (hstays hgrants t ht).1 (hstays hgrants t' ht').1
  · intro t ht
    cases hgrants : grants x.event with
    | true =>
      obtain ⟨id, hid, -⟩ := goes_of_grants hgoes hgrants
      rw [hgrant hgrants t ht]
      exact ⟨id, requestIdOf_post hid⟩
    | false =>
      obtain ⟨id, hid⟩ := hlocked.known t (hstays hgrants t ht).1
      exact ⟨id, requestIdOf_post hid⟩
  · intro ev hev hlaunches
    rcases hevents ev hev with hev | rfl
    · obtain ⟨id, hid, hkept⟩ := hlocked.launched ev hev hlaunches
      exact ⟨id, requestIdOf_post hid, hstored hkept⟩
    · obtain ⟨plan, hplan⟩ := Option.ne_none_iff_exists'.mp hlaunches
      obtain ⟨request, hrequest, -, -, -, hkept, -⟩ := goes_of_launches hgoes hplan
      refine ⟨request.requestId.getD "", requestIdOf_post ?_, hstored ?_⟩
      · exact Option.map_eq_some_iff.mpr ⟨request, hrequest, rfl⟩
      · obtain ⟨ev, hev, hid⟩ := hkept
        exact ⟨ev, own_subset _ _ hev, hid⟩
  · intro t ht ev hev hlaunches hother hsame
    rcases hevents ev hev with hev | rfl
    · obtain ⟨id, hid, hkept⟩ := hlocked.launched ev hev hlaunches
      rw [requestIdOf_post hid] at hsame
      cases hgrants : grants x.event with
      | true =>
        rw [hgrant hgrants t ht] at hsame
        obtain ⟨id', hid', hunseen⟩ := goes_of_grants hgoes hgrants
        rw [requestIdOf_post hid'] at hsame
        obtain rfl := Option.some.inj hsame
        have hrecalls := hchecks hgrants id hid'
        exact hunseen (hrecalls.current (hrecalls.kept hkept))
      | false =>
        have hpre := (hstays hgrants t ht).1
        obtain ⟨id', hid'⟩ := hlocked.known t hpre
        rw [requestIdOf_post hid'] at hsame
        exact hlocked.first t hpre ev hev hlaunches hother (by rw [hid, hid', hsame])
    · obtain ⟨plan, hplan⟩ := Option.ne_none_iff_exists'.mp hlaunches
      obtain ⟨request, -, -, -, hgranted, -, -⟩ := goes_of_launches hgoes hplan
      exact hother (hlocked.alone _ _ (halive hgranted)
        (hstays (grants_of_launches hlaunches) t ht).1)

/-! ## Runs -/

def launchedId (x : ServerStep) : Option String :=
  if (launches x.event).isSome then requestIdOf x.thread x.pre else none

abbrev ServerCalls (config : ServerConfig) (env : Installation) :
    ServerMoment → Serving Unit → Prop := fun _ p => ServerCall config env p

abbrev ServerRun (config : ServerConfig) (env : Installation) (w : Machine)
    (tr : List ServerStep) (c : Config ServerStmt ServerInput Machine String) : Prop :=
  Run (ServerCalls config env) (Config.start w) tr c

theorem signed_of_launches {w : Machine} {tr : List ServerStep}
    {c : Config ServerStmt ServerInput Machine String} (h : ServerRun config env w tr c)
    {x : ServerStep} (hx : x ∈ tr) {plan : UpdatePlan} (hlaunches : launches x.event = some plan) :
    ∃ request, requestOf (own x.thread x.pre.history) = some request ∧ Signed config request ∧
      config.parseRelease request.body = .ok plan.release := by
  have hgoes := (h.meets (fun _ _ _ hp => serverCall_serves hp) fun _ _ => trivial).2 x hx
  obtain ⟨request, hrequest, hsigned, hparsed, -⟩ := goes_of_launches hgoes hlaunches
  exact ⟨request, hrequest, hsigned, hparsed⟩

theorem launched_apart {w : Machine} {tr : List ServerStep}
    {c : Config ServerStmt ServerInput Machine String} (h : ServerRun config env w tr c)
    (halive : ∀ x ∈ tr, Alive x) (hchecks : ∀ x ∈ tr, ChecksRecall x) :
    tr.Pairwise fun x y => ∀ id, launchedId x = some id → launchedId y ≠ some id := by
  have hgoes := (h.meets (fun _ _ _ hp => serverCall_serves hp) fun _ _ => trivial).2
  have hlocked := h.preserves_pre Locked
    (fun x => Goes config x.stmt (own x.thread x.pre.history) ∧ Alive x ∧ ChecksRecall x)
    (fun x hx hpre => locked_post hpre hx.1 hx.2.1 hx.2.2)
    (fun x hx => ⟨hgoes x hx, halive x hx, hchecks x hx⟩) locked_start
  refine h.history_prefix.1.imp_of_mem fun {x y} hx hy hbefore id hxid hyid => ?_
  unfold launchedId at hxid hyid
  split at hxid
  · split at hyid
    · rename_i hxlaunches hylaunches
      obtain ⟨plan, hplan⟩ := Option.isSome_iff_exists.mp hylaunches
      obtain ⟨_, -, -, -, hgranted, -, hnone⟩ := goes_of_launches (hgoes y hy) hplan
      have hseen : x.event ∈ y.pre.history := by
        refine hbefore.subset ?_
        rw [x.post_history]
        exact List.mem_append_right _ (.head _)
      have hlaunches : launches x.event ≠ none := Option.isSome_iff_ne_none.mp hxlaunches
      by_cases hsame : x.thread = y.thread
      · exact hlaunches (hnone _ (List.mem_filter.mpr ⟨hseen, decide_eq_true hsame⟩))
      · refine (hlocked y hy).first y.thread (halive y hy hgranted) _ hseen hlaunches hsame ?_
        rw [hyid]
        exact requestIdOf_prefix hbefore (requestIdOf_post hxid)
    · cases hyid
  · cases hxid

def Covers (config : ServerConfig) (request : HttpRequest) : Prop :=
  ∀ method path timestamp requestId digest, OneLine method → OneLine path → OneLine timestamp →
    OneLine requestId →
    signedText method path timestamp requestId digest = signedText "POST" "/v1/update"
      (request.timestamp.getD "") (request.requestId.getD "") (config.bodyDigest request.body) →
    method = request.method ∧ path = request.path ∧ timestamp = request.timestamp.getD "" ∧
      requestId = request.requestId.getD "" ∧ digest = config.bodyDigest request.body

theorem Signed.covers {request : HttpRequest} (h : Signed config request) :
    Covers config request := by
  intro method path timestamp requestId digest hmethod hpath htimestamp hrequestId htext
  have hpost : OneLine "POST" := by
    unfold OneLine
    decide
  have hupdate : OneLine "/v1/update" := by
    unfold OneLine
    decide
  rw [h.method, h.path]
  exact signedText_injective hmethod hpath htimestamp hrequestId hpost hupdate
    (oneLine_of_isTimestamp h.timestamp) (oneLine_of_isUuid h.requestId) htext

/-- In every run whose checks the state file could tell, a request id launches the helper at most
once; and only a request whose signature covers exactly it does, with the release of its body. -/
theorem launched_once (config : ServerConfig) (env : Installation) (w : Machine)
    (tr : List ServerStep) (c : Config ServerStmt ServerInput Machine String)
    (h : ServerRun config env w tr c) (halive : ∀ x ∈ tr, Alive x) :
    ((∀ x ∈ tr, ChecksRecall x) →
      tr.Pairwise fun x y => ∀ id, launchedId x = some id → launchedId y ≠ some id) ∧
    ∀ x ∈ tr, ∀ plan, launches x.event = some plan →
      ∃ request, requestOf (own x.thread x.pre.history) = some request ∧ Signed config request ∧
        Covers config request ∧ config.parseRelease request.body = .ok plan.release ∧
        launchedId x = some (request.requestId.getD "") := by
  refine ⟨launched_apart h halive, fun x hx plan hlaunches => ?_⟩
  obtain ⟨request, hrequest, hsigned, hparsed⟩ := signed_of_launches h hx hlaunches
  refine ⟨request, hrequest, hsigned, hsigned.covers, hparsed, ?_⟩
  rw [launchedId, if_pos (by rw [hlaunches]; rfl), requestIdOf, hrequest]
  rfl

/-! ## A replay behind another update -/

def sampleServer : ServerConfig where
  secret := "ssssssssssssssssssssssssssssssss"
  bodyDigest _ := "44136fa355b3678a1146ad16f7e8649e94fb4fc21fe77e8310c060f61caaff8a"
  hmac _ _ := "aaaaaaaaaaaaaaaaaaaaaaaaaaaaaaaaaaaaaaaaaaaaaaaaaaaaaaaaaaaaaaaa"
  parseRelease _ := .ok ⟨"0.3.0", "e30=", "bundle"⟩

def sampleHost : Installation where
  platformVersion := "0.2.30"
  installRoot := some "/srv/initpad"
  container := "initpad-supervisor"
  sha256 _ := ""
  verifyRelease _ _ := .ok ⟨"0.3.0", ⟨"api", "web", "supervisor"⟩, ""⟩

def sampleMachine : Machine where
  state := some ⟨"0.2.30", none, none⟩
  override := none
  saved _ := none
  plans _ := none
  lock := false
  nextId := 1
  «locals» := {}
  accepting := false

def sampleRequest (requestId : String) : HttpRequest where
  method := "POST"
  path := "/v1/update"
  timestamp := some "1700000000"
  requestId := some requestId
  signature := some "aaaaaaaaaaaaaaaaaaaaaaaaaaaaaaaaaaaaaaaaaaaaaaaaaaaaaaaaaaaaaaaa"
  body := [123, 125]

def firstId : String := "3f04ebec-3299-4ce5-bd02-cf390ca413e9"

def secondId : String := "5f04ebec-3299-4ce5-bd02-cf390ca413e9"

def failedLaunch (t : Nat) : List (Nat × ServerInput) :=
  [(t, ⟨1700000000000, {}⟩)] ++ List.replicate 7 (t, ⟨0, {}⟩) ++
    [(t, ⟨0, { fault := some "no such image" }⟩), (t, ⟨0, {}⟩), (t, ⟨0, {}⟩)]

/-- `Alive`, as a test. -/
def alive (x : ServerStep) : Bool :=
  !((own x.thread x.pre.history).any grants && !(own x.thread x.pre.history).any releases) ||
    inside x.thread x.pre.history

theorem alive_of_test {x : ServerStep} (h : alive x = true) : Alive x := by
  intro hgranted
  simpa [alive, hgranted.1, hgranted.2] using h

theorem runs_handle (requests : List HttpRequest) (m : ServerMoment) :
    ∀ p ∈ requests.map fun request => handle config env request >>= fun _ => pure (),
      ServerCalls config env m p := by
  intro p hp
  obtain ⟨request, -, rfl⟩ := List.mem_map.mp hp
  exact .request request

/-- No operation of any request was stored before the check. -/
def unstored (x : ServerStep) : Bool :=
  !grants x.event || (storedId x.pre.state).isNone && x.pre.history.all (stores · |>.isNone)

theorem checksRecall_of_unstored {x : ServerStep} (h : unstored x = true) :
    ChecksRecall x := by
  intro hgrants id _
  simp only [unstored, hgrants, Bool.not_true, Bool.false_or, Bool.and_eq_true,
    Option.isNone_iff_eq_none, List.all_eq_true] at h
  constructor
  · intro hstored
    rw [h.1] at hstored
    cases hstored
  · rintro ⟨ev, hev, hstores⟩
    rw [h.2 ev hev] at hstores
    cases hstores

theorem sample_launched_once : ∃ tr c, ServerRun sampleServer sampleHost sampleMachine tr c ∧
    tr.filterMap launchedId = [firstId] ∧
    tr.Pairwise fun x y => ∀ id, launchedId x = some id → launchedId y ≠ some id := by
  obtain ⟨tr, c, hrun, hcheck⟩ := run_of_plays (Config.start sampleMachine)
    ([sampleRequest firstId].map fun request =>
      handle sampleServer sampleHost request >>= fun _ => pure ())
    (failedLaunch 0)
    (fun tr _ => tr.all alive && tr.all unstored && tr.filterMap launchedId == [firstId])
    (runs_handle _ _) (by decide)
  simp only [Bool.and_eq_true, List.all_eq_true, beq_iff_eq] at hcheck
  refine ⟨tr, c, hrun, hcheck.2, ?_⟩
  exact (launched_once sampleServer sampleHost sampleMachine tr c hrun
    fun x hx => alive_of_test (hcheck.1.1 x hx)).1
    fun x hx => checksRecall_of_unstored (hcheck.1.2 x hx)

/-- The first request again, within its time, behind a second one: both stop at the image of the
helper, so that nothing is busy, and the file holds the second operation. -/
theorem launched_again : ∃ tr c, ServerRun sampleServer sampleHost sampleMachine tr c ∧
    (∀ x ∈ tr, Alive x) ∧ tr.filterMap launchedId = [firstId, secondId, firstId] ∧
    ¬ tr.Pairwise fun x y => ∀ id, launchedId x = some id → launchedId y ≠ some id := by
  obtain ⟨tr, c, hrun, hcheck⟩ := run_of_plays (Config.start sampleMachine)
    ([sampleRequest firstId, sampleRequest secondId, sampleRequest firstId].map fun request =>
      handle sampleServer sampleHost request >>= fun _ => pure ())
    (failedLaunch 0 ++ failedLaunch 1 ++ failedLaunch 2)
    (fun tr _ => tr.all alive && tr.filterMap launchedId == [firstId, secondId, firstId])
    (runs_handle _ _) (by decide)
  simp only [Bool.and_eq_true, List.all_eq_true, beq_iff_eq] at hcheck
  refine ⟨tr, c, hrun, fun x hx => alive_of_test (hcheck.1 x hx), hcheck.2, fun honce => ?_⟩
  have hids : (tr.filterMap launchedId).Pairwise (· ≠ ·) := by
    refine List.pairwise_filterMap.mpr (honce.imp fun h id hid id' hid' heq => ?_)
    rw [heq] at hid
    exact h _ hid hid'
  rw [hcheck.2] at hids
  exact absurd hids (by decide)

end InitPad.Supervisor
