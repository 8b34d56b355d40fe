import InitPad.Deployment.Executor
import InitPad.Deployment.Frame
import InitPad.Hosting.DeploymentService
import InitPad.Interleave.Handle

/-!
# InitPad.Hosting.ControlPlane

The control plane together with the machines that it deploys to by itself. A program of the
deployment model is carried out with every call of a provider replaced by that provider's program,
so that the process can stop between any two of its remote calls. `Placement` is the environment as
its provider sees it: everything that the calls of one environment have in common.
-/

namespace InitPad.Hosting

open Store Interleave Prog

structure Placement where
  config : ProviderConfig
  /-- How deep directories nest on its SFTP server. -/
  depth : Nat
  provider : ProviderKind
  projectName : String
  env : EnvName
  connection : Option ProviderConnection
  allocation : Option DeploymentAllocation
  imageRef : Option String
  port : Option Nat
  healthPath : Option String
  version : Option String
  /-- What a deployment adds: the artifact, its version and its layout. -/
  release : Id → DeployInput

namespace Placement

variable (site : Placement)

def teardownInput : TeardownInput where
  projectName := site.projectName
  env := site.env
  imageRef := site.imageRef
  connection := site.connection
  allocation := site.allocation

def startInput : StartInput where
  projectName := site.projectName
  env := site.env
  port := site.port
  healthPath := site.healthPath
  version := site.version
  connection := site.connection
  allocation := site.allocation

def deployInput (operationId : Id) : DeployInput :=
  { site.release operationId with
    projectName := site.projectName
    env := site.env
    connection := site.connection
    allocation := site.allocation }

def deploy (operationId : Id) : OnHosts DeployResult :=
  DeploymentService.deploy site.config site.depth (site.deployInput operationId) site.provider

def teardown : OnHosts (Option String) :=
  DeploymentService.teardown site.config site.depth site.teardownInput site.provider

def stop : OnHosts Unit := DeploymentService.stop site.config site.teardownInput site.provider

def start : OnHosts DeployResult :=
  DeploymentService.start site.config site.startInput site.provider

end Placement

structure System where
  world : InitPad.World
  hosts : Hosts

/-- A statement of either level; its errors are part of its answer. -/
inductive Call : Type → Type 1 where
  | db {β : Type} (e : InitPad.Stmt β) : Call (Except Err β)
  | host {β : Type} (e : Stmt β) : Call (Except Failure β)

structure CallInput where
  input : Input := {}
  reply : Reply := {}

instance : Semantics Call CallInput System Empty where
  exec
    | .db e, i, s =>
      (.ok (exec e i.input s.world).1, { s with world := (exec e i.input s.world).2 })
    | .host e, i, s =>
      (.ok (exec e i.reply s.hosts).1, { s with hosts := (exec e i.reply s.hosts).2 })

abbrev SystemMoment := Moment Call CallInput System Empty

theorem reifies_host : Reifies Empty (fun e => Call.host e) System.hosts CallInput.reply :=
  ⟨fun _ _ _ => rfl, fun _ _ _ => rfl⟩

/-- An error of a provider, as its caller sees it. -/
def asErr {α : Type} : Except Failure α → Except Err α
  | .ok a => .ok a
  | .error failure => .error (.error failure.message)

def onHosts {α : Type} (p : OnHosts α) : Prog Call Empty (Except Err α) :=
  (p.handle fun e => await (.host e)) >>= fun r => pure (asErr r)

/-- What carries out a statement of the control plane. -/
def carryOut (site : Placement) : {β : Type} → InitPad.Stmt β → Prog Call Empty (Except Err β)
  | _, .callDeploy operationId _ => onHosts (site.deploy operationId)
  | _, .callStart _ => onHosts site.start
  | _, .callStop _ => onHosts site.stop
  | _, .callTeardown _ => onHosts site.teardown
  | _, e => await (.db e)

/-- A function of the control plane, on both levels. -/
def carriedOut {α : Type} (site : Placement) (p : Async α) : Prog Call Empty (Except Err α) :=
  p.handle (carryOut site)

def ofControlPlane {β : Type} : InitPad.Stmt β → Bool
  | .callDeploy .. | .callStart .. | .callStop .. | .callTeardown .. => false
  | _ => true

theorem carryOut_db {site : Placement} {β : Type} {e : InitPad.Stmt β}
    (he : ofControlPlane e = true) : carryOut site e = await (.db e) := by
  cases e <;> first | rfl | cases he

section Keeps

variable {α : Type} {B : SystemMoment → Prop}

theorem keeps_carryOut {site : Placement} {β : Type} {e : InitPad.Stmt β}
    (he : ofControlPlane e = true)
    (h : ∀ (m : SystemMoment) (i : CallInput), B m → B (m.next 0 (Call.db e) i)) :
    Keeps anyStep B (carryOut site e) := by
  rw [carryOut_db he]
  exact keeps_await fun m i _ hB => h m i hB

theorem keeps_carriedOut {site : Placement} {P : ∀ {γ : Type}, InitPad.Stmt γ → Prop}
    (hP : ∀ {γ : Type} (e : InitPad.Stmt γ), P e → ofControlPlane e = true ∧
      ∀ (m : SystemMoment) (i : CallInput), B m → B (m.next 0 (Call.db e) i))
    {p : Async α} (hp : p.Only P) : Keeps anyStep B (carriedOut site p) :=
  keeps_handle (fun e he => keeps_carryOut (hP e he).1 (hP e he).2) hp

end Keeps

/-! ## Symbolic execution on both levels -/

/-- From `M`, the function passes moments with `A` only, wherever its process stops, and ends with
`Q`. -/
def CarriedThrough {α : Type} (site : Placement) (A : SystemMoment → Prop)
    (Q : Except Err α → SystemMoment → Prop) (p : Async α) (M : SystemMoment) : Prop :=
  Through anyStep A (fun r m => ∀ x, r = .ok x → Q x m) (carriedOut site p) M

namespace CarriedThrough

variable {α β : Type} {site : Placement} {A B : SystemMoment → Prop}
  {Q Q' : Except Err α → SystemMoment → Prop} {R : Except Err β → SystemMoment → Prop}
  {p : Async α} {M M' : SystemMoment}

theorem stops (h : CarriedThrough site A Q p M) (hs : Stops anyStep (carriedOut site p) M M') :
    A M' := Through.stops h hs

theorem post (h : CarriedThrough site A Q p M) (hQ : ∀ x m, A m → Q x m → Q' x m) :
    CarriedThrough site A Q' p M :=
  Through.post (fun _ m hA hr x hx => hQ x m hA (hr x hx)) h

theorem of_keeps (h : Keeps anyStep B (carriedOut site p)) (hM : B M) (hA : ∀ m, B m → A m) :
    CarriedThrough site A (fun _ m => B m) p M :=
  (h M hM).mono hA fun _ _ _ hB _ _ => hB

theorem keeps (h : ∀ M, B M → CarriedThrough site B (fun _ m => B m) p M) :
    Keeps anyStep B (carriedOut site p) := by
  intro M hM
  refine Through.post (fun r m _ hr => ?_) (h M hM)
  cases r with
  | ok x => exact hr x rfl
  | error x => exact nomatch x

theorem ret {r : Except Err α} (hA : A M) (hQ : Q r M) : CarriedThrough site A Q (.ret r) M := by
  refine Through.ret hA fun x hx => ?_
  cases hx
  exact hQ

theorem andThen {f : Except Err α → Async β} (hp : CarriedThrough site A Q p M)
    (hf : ∀ r m, A m → Q r m → CarriedThrough site A R (f r) m) :
    CarriedThrough site A R (p.andThen f) M := by
  unfold CarriedThrough carriedOut
  rw [handle_andThen]
  exact Through.bind hp (fun a m hA hr => hf a m hA (hr a rfl)) fun x _ _ _ => nomatch x

theorem bind {f : α → Async β} (hp : CarriedThrough site A Q p M)
    (hok : ∀ a m, A m → Q (.ok a) m → CarriedThrough site A R (f a) m)
    (herr : ∀ x m, A m → Q (.error x) m → R (.error x) m) :
    CarriedThrough site A R (p >>= f) M := by
  refine hp.andThen fun r m hA hQ => ?_
  cases r with
  | ok a => exact hok a m hA hQ
  | error x => exact ret hA (herr x m hA hQ)

theorem tryCatch {f : Err → Async α} (hp : CarriedThrough site A Q p M)
    (hok : ∀ a m, A m → Q (.ok a) m → Q' (.ok a) m)
    (herr : ∀ x m, A m → Q (.error x) m → CarriedThrough site A Q' (f x) m) :
    CarriedThrough site A Q' (MonadExceptOf.tryCatch p f) M := by
  refine hp.andThen fun r m hA hQ => ?_
  cases r with
  | ok a => exact ret hA (hok a m hA hQ)
  | error x => exact herr x m hA hQ

theorem await {e : InitPad.Stmt α} (he : ofControlPlane e = true) (hA : A M)
    (h : ∀ i : Input, ∀ m : SystemMoment, m.state.world = (exec e i M.state.world).2 →
      m.state.hosts = M.state.hosts → A m ∧ Q (exec e i M.state.world).1 m) :
    CarriedThrough site A Q (Prog.await e) M := by
  unfold CarriedThrough carriedOut
  rw [handle_await, carryOut_db he]
  refine Through.await hA fun i _ => ?_
  obtain ⟨hA', hQ⟩ := h i.input (M.next 0 (Call.db e) i) rfl rfl
  refine ⟨hA', fun x hx => ?_⟩
  cases hx
  exact hQ

end CarriedThrough

section Provider

variable {α : Type} {p : OnHosts α} {m m' : SystemMoment}

theorem onHosts_only {P : ∀ {γ : Type}, Call γ → Prop}
    (hP : ∀ {γ : Type} (e : Stmt γ), P (.host e)) (p : OnHosts α) : (onHosts p).Only P :=
  .bind (only_handle (P := fun _ => True) (fun e _ => .await (hP e))
    (only_of_all (fun _ => trivial) p)) fun _ => .ret _

theorem onHosts_world (h : Stops anyStep (onHosts p) m m') : m'.state.world = m.state.world :=
  h.keeps (P := fun e => ∀ (i : CallInput) (s : System), (exec e i s).2.world = s.world)
    (A := fun m₁ => m₁.state.world = m.state.world)
    (fun _ i m₁ he hm₁ => (he i m₁.state).trans hm₁)
    (onHosts_only (fun _ _ _ => rfl) p) rfl

theorem onHosts_ends {R : Except Empty (Except Err α)} (h : Ends (onHosts p) m R m') :
    ∃ (n n' : HostsMoment) (r : Except Failure α), n.state = m.state.hosts ∧ Ends p n r n' ∧
      n'.state = m'.state.hosts ∧ n.history = [] ∧ R = .ok (asErr r) := by
  let n : HostsMoment := ⟨m.state.hosts, []⟩
  rcases ends_bind.mp h with ⟨r, m₁, hp, hret⟩ | ⟨x, _, _⟩
  · obtain ⟨rfl, rfl⟩ := ends_ret.mp hret
    obtain ⟨r', n', hr, hends, hstate⟩ := reifies_host.ends hp (m := n) rfl
    cases hr
    exact ⟨n, n', r, rfl, hends, hstate, rfl, rfl⟩
  · exact nomatch x

theorem keeps_onHosts {X : InitPad.World → Prop} :
    Keeps anyStep (fun m : SystemMoment => X m.state.world) (onHosts p) := by
  intro m hX
  refine through_of_ends (fun m' h => ?_) fun r m' h => ?_
  · rw [onHosts_world h]
    exact hX
  · rw [onHosts_world h.stops]
    exact hX

theorem CarriedThrough.provider {site : Placement} {A : SystemMoment → Prop}
    {e : InitPad.Stmt α} (he : carryOut site e = onHosts p)
    (hA : ∀ m' : SystemMoment, m'.state.world = m.state.world → A m') :
    CarriedThrough site A (fun x m' => m'.state.world = m.state.world ∧
      ∃ (n n' : HostsMoment) (r : Except Failure α), n.state = m.state.hosts ∧ n.history = [] ∧
        Ends p n r n' ∧ n'.state = m'.state.hosts ∧ x = asErr r) (Prog.await e) m := by
  unfold CarriedThrough carriedOut
  rw [handle_await, he]
  refine through_of_ends (fun m' h => hA m' (onHosts_world h)) fun R m' h x hx => ?_
  obtain ⟨n, n', r, hn, hends, hn', hnil, hR⟩ := onHosts_ends h
  rw [hx] at hR
  exact ⟨onHosts_world h.stops, n, n', r, hn, hnil, hends, hn', Except.ok.inj hR⟩

end Provider

end InitPad.Hosting
