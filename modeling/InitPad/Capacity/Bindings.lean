import InitPad.Capacity.Quotas
import InitPad.Interleave.Contract

/-!
# InitPad.Capacity.Bindings

The environments bound to an allocation, under any number of calls at once. A call counts them and
reads how many are allowed in statements of their own, before the write that binds. `Undisturbed`
is the condition under which that write still finds the room that the call found.
-/

namespace InitPad.Capacity

open Interleave Store
open Prog (await refuseIf)
open Provisioning (InstanceId)

variable {β : Type}

abbrev CapacityEvent := Event Stmt CapacityInput Failure

def Stmt.counted : Stmt β → Except Failure β → Option (AllocationKey × Nat)
  | .countEnvironments allocation, .ok n => some (allocation, n)
  | _, _ => none

def Stmt.allowed : Stmt β → Except Failure β → Option (AllocationKey × Nat)
  | .findAllocation .., .ok (some allocation) => some (allocation.key, allocation.maxEnvironments)
  | .createDefault .., .ok allocation => some (allocation.key, allocation.maxEnvironments)
  | _, _ => none

def Stmt.checked : Stmt β → Except Failure β → Option (AllocationKey × Nat × Nat)
  | .findForDeploy allocation, .ok (some (row, n)) => some (allocation, n, row.maxEnvironments)
  | _, _ => none

def Stmt.alreadyBound : Stmt β → Except Failure β → Option AllocationKey
  | .countBound _ allocation, .ok (_ + 1) => some allocation
  | _, _ => none

def countedIn (ev : CapacityEvent) : Option (AllocationKey × Nat) := ev.stmt.counted ev.result

def allowedIn (ev : CapacityEvent) : Option (AllocationKey × Nat) := ev.stmt.allowed ev.result

def checkedIn (ev : CapacityEvent) : Option (AllocationKey × Nat × Nat) := ev.stmt.checked ev.result

def boundIn (ev : CapacityEvent) : Option AllocationKey := ev.stmt.alreadyBound ev.result

/-- Thread `t` has found `c`. -/
def Knows {γ : Type} (t : Nat) (f : CapacityEvent → Option γ) (c : γ) (h : List CapacityEvent) :
    Prop :=
  ∃ ev ∈ h, ev.thread = t ∧ f ev = some c

/-- No allocation is bound to more environments than it allows. -/
def KeepsBindings (x : CapacityStep) : Prop :=
  ∀ a row, x.pre.state.allocations.find? a = some row →
    x.pre.state.bound a < x.post.state.bound a → x.post.state.bound a ≤ row.maxEnvironments

/-- The allocation has at least the room that there is between `n` environments and `m`. -/
def HasRoom (w : World) (a : AllocationKey) (n m : Nat) : Prop :=
  ∀ row, w.allocations.find? a = some row → w.bound a + m ≤ n + row.maxEnvironments

/-- The environment that is written is bound to the allocation. -/
def Binding.kept (binding : Binding) (w : World) : Prop :=
  (w.environmentOf binding.project binding.name).any (·.allocation = some binding.allocation) = true

/-- What the writing of a binding relies on. -/
def Stmt.Undisturbed (t : Nat) (h : List CapacityEvent) (w : World) : Stmt β → Prop
  | .bindEnvironment binding =>
    (Knows t boundIn binding.allocation h → binding.kept w) ∧
      (¬ Knows t boundIn binding.allocation h → ∀ n m,
        Knows t checkedIn (binding.allocation, n, m) h → HasRoom w binding.allocation n m)
  | e => ∀ a ∈ e.bindings, ∀ n m, Knows t countedIn (a, n) h → Knows t allowedIn (a, m) h →
      HasRoom w a n m

/-- A write that binds finds the room that its call has found; an environment that was found bound
to the allocation still is. -/
def Undisturbed (x : CapacityStep) : Prop :=
  TakesEffect x → x.stmt.Undisturbed x.thread x.pre.history x.pre.state

/-! ## One step -/

/-- An allocation that was deleted. -/
def Gone (a : AllocationKey) (w : World) : Prop := a ∉ w.allocations.keys ∧ a.id < w.nextId

/-- The call has found room for `planned` environments. -/
def Room (t : Nat) (a : AllocationKey) (planned : Nat) (h : List CapacityEvent) : Prop :=
  ∃ n m, Knows t countedIn (a, n) h ∧ Knows t allowedIn (a, m) h ∧ n + planned ≤ m

/-- The call has found room for everything that it is about to bind. -/
def Planned (t : Nat) (added : List AllocationKey) (h : List CapacityEvent) : Prop :=
  ∀ a ∈ added, Room t a (added.count a) h

/-- What `bindTarget` knows when it writes. -/
def Accepted (t : Nat) (a : AllocationKey) (m : CapacityMoment) : Prop :=
  Gone a m.state ∨ Knows t boundIn a m.history ∨
    ∃ n allowed, Knows t checkedIn (a, n, allowed) m.history ∧ n < allowed

def Stmt.Backed (t : Nat) (m : CapacityMoment) : Stmt β → Prop
  | .createProject _ _ envTargets _ => Planned t (envTargets.map (·.allocation)) m.history
  | .changePreset change => Planned t (change.addedTargets.map (·.allocation)) m.history
  | .bindEnvironment binding => Accepted t binding.allocation m
  | _ => True

theorem mem_keys_of_find {α κ : Type} [Keyed α κ] [DecidableEq κ] {t : Table α} {k : κ} {r : α}
    (h : t.find? k = some r) : k ∈ t.keys :=
  Table.find?_isSome_iff.mp (by rw [h]; rfl)

theorem keeps_of_planned {w w' : World} {t : Nat} {h : List CapacityEvent}
    {added : List AllocationKey} (hframe : Frame added w w') (hplanned : Planned t added h)
    (hroom : ∀ a ∈ added, ∀ n m, Knows t countedIn (a, n) h → Knows t allowedIn (a, m) h →
      HasRoom w a n m) {a : AllocationKey} {row : Allocation}
    (hrow : w.allocations.find? a = some row) (hraised : w.bound a < w'.bound a) :
    w'.bound a ≤ row.maxEnvironments := by
  have hle := hframe.bound a
  by_cases ha : a ∈ added
  · obtain ⟨n, m, hcounted, hallowed, hfits⟩ := hplanned a ha
    have hleft := hroom a ha n m hcounted hallowed row hrow
    omega
  · rw [List.count_eq_zero_of_not_mem ha] at hle
    omega

theorem bound_of_kept {w w' : World} {binding : Binding} {u : Unit}
    (h : bindEnvironment binding w = .ok (u, w')) (hkept : binding.kept w) (a : AllocationKey) :
    w'.bound a ≤ w.bound a := by
  simp only [bindEnvironment, bind_eq_ok, found_eq_ok, pure_eq_ok, Prod.mk.injEq] at h
  obtain ⟨e, he, -, -, -, rfl⟩ := h
  rw [Binding.kept, he, Option.any_some, decide_eq_true_eq] at hkept
  have hcount := Table.count_updateFirst he binding.apply fun e => decide (e.allocation = some a)
  have hbinding : (binding.apply e).allocation = e.allocation := hkept.symm
  rw [hbinding] at hcount
  exact Nat.le_of_eq (Nat.add_right_cancel hcount)

theorem keeps_bindings {x : CapacityStep} (hw : OwnIds x.pre.state)
    (hbacked : x.stmt.Backed x.thread x.pre) (hundisturbed : Undisturbed x) : KeepsBindings x := by
  intro a row hrow hraised
  rcases post_state x with h | ⟨heffect, b, h⟩
  · rw [h] at hraised
    exact absurd hraised (Nat.lt_irrefl _)
  · have hroom := hundisturbed heffect
    have hframe := (run_frame hw h).1
    generalize x.post.state = w' at h hraised hframe ⊢
    obtain ⟨m, t, e, i⟩ := x
    dsimp only at *
    cases e with
    | createProject => exact keeps_of_planned hframe hbacked hroom hrow hraised
    | changePreset => exact keeps_of_planned hframe hbacked hroom hrow hraised
    | bindEnvironment binding =>
      by_cases ha : a = binding.allocation
      · subst ha
        by_cases hbound : Knows t boundIn binding.allocation m.history
        · have hle := bound_of_kept h (hroom.1 hbound) binding.allocation
          omega
        · rcases hbacked with hgone | hbound' | ⟨n, allowed, hchecked, hfits⟩
          · exact absurd (mem_keys_of_find hrow) hgone.1
          · exact absurd hbound' hbound
          · have hleft := hroom.2 hbound n allowed hchecked row hrow
            have hle := hframe.bound binding.allocation
            simp only [Stmt.bindings, List.count_singleton_self] at hle
            omega
      · have hle := hframe.bound a
        simp only [Stmt.bindings] at hle
        rw [List.count_eq_zero_of_not_mem (by simpa using ha)] at hle
        omega
    | _ =>
      have hle := hframe.bound a
      simp only [Stmt.bindings, List.count_nil] at hle
      omega

/-! ## The calls -/

theorem Knows.append {γ : Type} {t : Nat} {f : CapacityEvent → Option γ} {c : γ}
    {h : List CapacityEvent} (hknows : Knows t f c h) (rest : List CapacityEvent) :
    Knows t f c (h ++ rest) := by
  obtain ⟨ev, hev, hf⟩ := hknows
  exact ⟨ev, List.mem_append_left _ hev, hf⟩

theorem knows_next {γ : Type} {t : Nat} {f : CapacityEvent → Option γ} {c : γ} {m : CapacityMoment}
    {e : Stmt β} {i : CapacityInput} (h : f ⟨t, e, i, (exec e i m.state).1⟩ = some c) :
    Knows t f c (m.next t e i).history :=
  ⟨_, List.mem_append_right _ (List.mem_singleton_self _), rfl, h⟩

/-- The ids of allocations that are given later were not given before. -/
structure Later (w w' : World) : Prop where
  nextId : w.nextId ≤ w'.nextId
  allocations : ∀ a ∈ w'.allocations.keys, a ∈ w.allocations.keys ∨ w.nextId ≤ a.id

theorem Later.refl (w : World) : Later w w := ⟨Nat.le_refl _, fun _ ha => .inl ha⟩

theorem Later.trans {w w' w'' : World} (h : Later w w') (h' : Later w' w'') : Later w w'' where
  nextId := h.nextId.trans h'.nextId
  allocations a ha := by
    rcases h'.allocations a ha with ha | ha
    · exact h.allocations a ha
    · exact .inr (h.nextId.trans ha)

theorem Gone.later {a : AllocationKey} {w w' : World} (h : Gone a w) (hlater : Later w w') :
    Gone a w' := by
  refine ⟨fun ha => ?_, Nat.lt_of_lt_of_le h.2 hlater.nextId⟩
  rcases hlater.allocations a ha with ha | ha
  · exact h.1 ha
  · exact absurd h.2 (Nat.not_lt.mpr ha)

theorem later_post {x : CapacityStep} (hw : OwnIds x.pre.state) :
    Later x.pre.state x.post.state := by
  rcases post_state x with h | ⟨-, b, h⟩
  · rw [h]
    exact .refl _
  · have hframe := (run_frame hw h).1
    exact ⟨hframe.nextId, fun a ha => (hframe.allocationIds a ha).imp_right And.left⟩

/-- Threads only add to the history; what a call binds is backed by what it has found. -/
def bindingContract : Contract Stmt CapacityInput World Failure where
  ok _ := True
  inv m := OwnIds m.state
  rely _ m m' := (∃ rest, m'.history = m.history ++ rest) ∧ Later m.state m'.state
  guar x := x.stmt.Backed x.thread x.pre
  rely_refl _ m := ⟨⟨[], (List.append_nil _).symm⟩, .refl _⟩
  rely_trans _ _ _ _ h₁ h₂ := by
    obtain ⟨⟨rest₁, hrest₁⟩, hlater₁⟩ := h₁
    obtain ⟨⟨rest₂, hrest₂⟩, hlater₂⟩ := h₂
    exact ⟨⟨rest₁ ++ rest₂, by rw [hrest₂, hrest₁, List.append_assoc]⟩, hlater₁.trans hlater₂⟩
  inv_post _ hinv _ _ := own_post hinv
  rely_of_guar _ _ hinv _ _ _ := ⟨⟨_, rfl⟩, later_post hinv⟩

variable {t : Nat} {m m' : CapacityMoment} {α γ : Type}

theorem persistent_knows (t : Nat) (f : CapacityEvent → Option γ) (c : γ) :
    bindingContract.Persistent fun m => Knows t f c m.history where
  rely _ _ _ hr h := by
    obtain ⟨⟨rest, hrest⟩, -⟩ := hr
    rw [hrest]
    exact h.append rest
  step x _ _ _ h := h.append _

theorem persistent_room (t : Nat) (a : AllocationKey) (planned : Nat) :
    bindingContract.Persistent fun m => Room t a planned m.history where
  rely _ _ _ hr h := by
    obtain ⟨n, allowed, hcounted, hallowed, hfits⟩ := h
    exact ⟨n, allowed, (persistent_knows t countedIn _).rely t _ _ hr hcounted,
      (persistent_knows t allowedIn _).rely t _ _ hr hallowed, hfits⟩
  step x hi hok hg h := by
    obtain ⟨n, allowed, hcounted, hallowed, hfits⟩ := h
    exact ⟨n, allowed, (persistent_knows t countedIn _).step x hi hok hg hcounted,
      (persistent_knows t allowedIn _).step x hi hok hg hallowed, hfits⟩

theorem persistent_forall {ι : Type} {P : ι → Prop} {A : ι → CapacityMoment → Prop}
    (h : ∀ i, bindingContract.Persistent (A i)) :
    bindingContract.Persistent fun m => ∀ i, P i → A i m where
  rely t m m' hr hA i hi := (h i).rely t m m' hr (hA i hi)
  step x hinv hok hg hA i hi := (h i).step x hinv hok hg (hA i hi)

theorem persistent_planned (t : Nat) (added : List AllocationKey) :
    bindingContract.Persistent fun m => Planned t added m.history :=
  persistent_forall fun a => persistent_room t a (added.count a)

theorem persistent_accepted (t : Nat) (a : AllocationKey) :
    bindingContract.Persistent (Accepted t a) where
  rely _ _ _ hr h := by
    rcases h with hgone | hbound | ⟨n, allowed, hchecked, hfits⟩
    · exact .inl (hgone.later hr.2)
    · exact .inr (.inl ((persistent_knows t boundIn a).rely t _ _ hr hbound))
    · exact .inr (.inr ⟨n, allowed, (persistent_knows t checkedIn _).rely t _ _ hr hchecked, hfits⟩)
  step x hi hok hg h := by
    rcases h with hgone | hbound | ⟨n, allowed, hchecked, hfits⟩
    · exact .inl (hgone.later (later_post hi))
    · exact .inr (.inl ((persistent_knows t boundIn a).step x hi hok hg hbound))
    · exact .inr (.inr ⟨n, allowed,
        (persistent_knows t checkedIn _).step x hi hok hg hchecked, hfits⟩)

/-- Statements that bind nothing. -/
def Plain (e : Stmt β) : Prop := ∀ t m, e.Backed t m

theorem safe_of_plain {p : CapacityCall α} (h : p.Only fun e => Plain e) :
    Safe bindingContract t (fun _ _ => True) p m :=
  Safe.of_only (fun _ _ _ _ => trivial)
    (fun _ _ m hplain _ _ _ => ⟨hplain t m, trivial⟩) h trivial

theorem safe_error {Q : Except Failure α → CapacityMoment → Prop} (x : Failure)
    (hQ : ∀ m', Q (.error x) m') : Safe bindingContract t Q (.ret (.error x)) m :=
  .ret fun m' _ _ => hQ m'

theorem safe_bind_plain {A : CapacityMoment → Prop} (hA : bindingContract.Persistent A)
    {p : CapacityCall γ} {f : γ → CapacityCall α} {Q : Except Failure α → CapacityMoment → Prop}
    (hp : p.Only fun e => Plain e) (hinv : OwnIds m.state) (hm : A m)
    (hQ : ∀ x m', Q (.error x) m')
    (hf : ∀ a m', OwnIds m'.state → A m' → Safe bindingContract t Q (f a) m') :
    Safe bindingContract t Q (p >>= f) m :=
  Safe.bind hinv ((safe_of_plain hp).persistent hA hm) (fun a m' hinv' hm' => hf a m' hinv' hm')
    fun x _ _ _ => safe_error x (hQ x)

theorem persistent_true : bindingContract.Persistent fun _ => True := Contract.persistent_true

theorem safe_serializable {A : CapacityMoment → Prop} (hA : bindingContract.Persistent A)
    {e : Stmt α} (hbacked : ∀ m, A m → e.Backed t m) (hinv : OwnIds m.state) (hm : A m) :
    Safe bindingContract t (fun _ _ => True) (serializable e) m := by
  have hretry : ∀ (attempts : Nat) (m : CapacityMoment), OwnIds m.state → A m →
      Safe bindingContract t (fun _ _ => True) (retrySerializable e attempts) m := by
    intro attempts
    induction attempts with
    | zero =>
      intro m _ _
      exact safe_error _ fun _ => trivial
    | succ attempts ih =>
      intro m hinv hm
      refine Safe.andThen (Q := fun _ => A) hinv ?_ fun r m' hinv' hm' => ?_
      · refine Safe.await fun m' i hr hi _ => ?_
        have hm' := hA.rely t m m' hr hm
        refine ⟨hbacked m' hm', fun m'' hr' _ => ?_⟩
        have hnext := hA.step ⟨m', t, e, i⟩ hi trivial (hbacked m' hm') hm'
        exact hA.rely t _ _ hr' hnext
      · cases r with
        | ok a => exact .ret fun _ _ _ => trivial
        | error failure =>
          simp only [Prog.onError]
          split
          · exact safe_error _ fun _ => trivial
          · exact ih m' hinv' hm'
  exact hretry SERIALIZABLE_RETRIES m hinv hm

/-! ## Calls that bind nothing -/

theorem plain_await {e : Stmt α} (h : ∀ t m, e.Backed t m) :
    (await e : CapacityCall α).Only fun e => Plain e := .await h

theorem plain_aside (what : String) :
    (await (.aside what) : CapacityCall Unit).Only fun e => Plain e :=
  plain_await fun _ _ => trivial

theorem plain_serializable {e : Stmt α} (h : ∀ t m, e.Backed t m) :
    (serializable e).Only fun e => Plain e := by
  have hretry : ∀ attempts, (retrySerializable e attempts).Only fun e => Plain e := by
    intro attempts
    induction attempts with
    | zero => exact .ret _
    | succ attempts ih =>
      refine .tryCatch (plain_await h) fun failure => ?_
      split
      · exact .ret _
      · exact ih
  exact hretry SERIALIZABLE_RETRIES

theorem plain_rescue {p : CapacityCall α} {q : Failure → CapacityCall Unit}
    (hp : p.Only fun e => Plain e) (hq : ∀ x, (q x).Only fun e => Plain e) :
    (tryCatch p fun x => do q x; throw x).Only fun e => Plain e :=
  .tryCatch hp fun x => .bind (hq x) fun _ => .ret _

theorem plain_attach (workspaceId userId : Id) :
    (attach workspaceId userId).Only fun e => Plain e := by
  refine .bind (plain_serializable fun _ _ => trivial) fun _ =>
    .tryCatch (plain_aside _) fun _ => ?_
  exact .bind (.ignoreError (plain_aside _)) fun _ =>
    .bind (plain_await fun _ _ => trivial) fun _ => .ret _

theorem plain_removeMember (workspaceId userId : Id) :
    (removeMember workspaceId userId).Only fun e => Plain e := by
  refine .bind (plain_aside _) fun _ => .bind ?_ fun _ => plain_aside _
  exact plain_rescue (plain_await fun _ _ => trivial) fun _ => .ignoreError (plain_aside _)

theorem plain_registerTarget (workspaceId : Id) (capabilities : List RuntimeKind) :
    (registerTarget workspaceId capabilities).Only fun e => Plain e :=
  .bind (plain_aside _) fun _ => .bind (plain_serializable fun _ _ => trivial) fun _ =>
    plain_aside _

theorem plain_allocate (workspaceId targetId : Id) (capabilities : List RuntimeKind)
    (maxEnvironments : Option Nat) :
    (allocate workspaceId targetId capabilities maxEnvironments).Only fun e => Plain e :=
  .bind (plain_aside _) fun _ => .bind (plain_serializable fun _ _ => trivial) fun _ =>
    plain_aside _

theorem plain_editAllocation (allocation : AllocationKey) (patch : AllocationPatch) :
    (editAllocation allocation patch).Only fun e => Plain e :=
  .bind (plain_aside _) fun _ => .bind (plain_await fun _ _ => trivial) fun _ =>
    .bind (.ret _) fun _ => .bind (plain_await fun _ _ => trivial) fun _ => plain_aside _

theorem plain_removeAllocation (allocation : AllocationKey) :
    (removeAllocation allocation).Only fun e => Plain e :=
  .bind (plain_aside _) fun _ => .bind (plain_await fun _ _ => trivial) fun _ =>
    .bind (.ret _) fun _ => .bind (plain_await fun _ _ => trivial) fun _ => plain_aside _

theorem plain_removeTarget (targetId : Id) : (removeTarget targetId).Only fun e => Plain e :=
  .bind (plain_aside _) fun _ => .bind (plain_await fun _ _ => trivial) fun _ =>
    .bind (.ret _) fun _ => plain_await fun _ _ => trivial

theorem plain_lifecycleTest (workspaceId targetId : Id) :
    (lifecycleTest workspaceId targetId).Only fun e => Plain e :=
  .bind (plain_await fun _ _ => trivial) fun _ => .bind (plain_aside _) fun _ =>
    .bind (plain_await fun _ _ => trivial) fun _ => plain_aside _

theorem plain_endProvisioning (id : Id) (statuses : Option (List Provisioning.OperationStatus))
    (leaseOwner : Option InstanceId) (ended : Ended) :
    (await (.endProvisioning id statuses leaseOwner ended) : CapacityCall Unit).Only
      fun e => Plain e :=
  plain_await fun _ _ => trivial

theorem plain_start (workspaceId : Id) (instance_ : InstanceId) (retryOfId : Option Id) :
    (start workspaceId instance_ retryOfId).Only fun e => Plain e := by
  refine .bind (plain_serializable fun _ _ => trivial) fun _ => .bind ?_ fun _ => .ret _
  exact plain_rescue (plain_aside _) fun _ => .ignoreError (plain_endProvisioning ..)

theorem plain_claim (instance_ : InstanceId) (id : Id) (c : Claim) (text : String) :
    (claim instance_ id c text).Only fun e => Plain e :=
  .bind (plain_await fun _ _ => trivial) fun _ => .ret _

theorem plain_cleanupProvisioning (instance_ : InstanceId) (id : Id) :
    (cleanupProvisioning instance_ id).Only fun e => Plain e := by
  refine .bind (plain_await fun _ _ => trivial) fun _ => .bind (plain_aside _) fun _ =>
    .bind (.ret _) fun _ => .bind (plain_claim ..) fun _ => ?_
  exact plain_rescue (.bind (plain_aside _) fun _ => plain_endProvisioning ..) fun _ =>
    .ignoreError (plain_endProvisioning ..)

theorem plain_claimed (environment : Environment) (operation : Id × Bool) :
    (claimed environment operation).Only fun e => Plain e := by
  unfold claimed
  split
  · refine .bind ?_ fun _ => .ret _
    exact plain_rescue (plain_aside _) fun _ => plain_await fun _ _ => trivial
  · exact .bind (plain_await fun _ _ => trivial) fun _ => .ret _

theorem plain_runOperation (project : ProjectKey) (envName : EnvName) (reason work : String)
    (deployed : Deployed) :
    (runOperation project envName reason work deployed).Only fun e => Plain e := by
  have hbegin : (begin_ project envName reason).Only fun e => Plain e :=
    .bind (plain_await fun _ _ => trivial) fun _ => .bind (plain_aside _) fun _ =>
      .bind (plain_serializable fun _ _ => trivial) fun _ => plain_claimed _ _
  refine .bind hbegin fun _ => .tryCatch ?_ fun _ => plain_await fun _ _ => trivial
  exact .bind (plain_aside _) fun _ => plain_await fun _ _ => trivial

theorem plain_ingest (instance_ : InstanceId) (project : ProjectKey)
    (identity : ArtifactIdentity) : (ingest instance_ project identity).Only fun e => Plain e := by
  refine .bind (plain_await fun _ _ => trivial) fun generation => ?_
  cases generation with
  | none => exact .ret _
  | some generation =>
    refine .tryCatch ?_ fun _ => plain_await fun _ _ => trivial
    exact .bind (plain_aside _) fun _ => plain_await fun _ _ => trivial

theorem plain_queueArtifact (instance_ : InstanceId) (project : ProjectKey)
    (artifact : ScmBuildArtifact) :
    (queueArtifact instance_ project artifact).Only fun e => Plain e :=
  .bind (plain_await fun _ _ => trivial) fun _ =>
    .bind (plain_serializable fun _ _ => trivial) fun _ => plain_ingest ..

theorem plain_captureArtifact (instance_ : InstanceId) (project : ProjectKey)
    (artifact : ScmBuildArtifact) (reopen : Bool) :
    (captureArtifact instance_ project artifact reopen).Only fun e => Plain e := by
  refine .bind (.tryCatch (plain_serializable fun _ _ => trivial) fun _ => ?_) fun _ =>
    plain_ingest ..
  exact .bind (plain_await fun _ _ => trivial) fun _ => .ret _

/-! ## Calls that bind -/

theorem exec_ok {e : Stmt α} {i : CapacityInput} {w : World} {a : α}
    (h : (exec e i w).1 = .ok a) : e.run i w = .ok (a, (exec e i w).2) := by
  simp only [exec] at h ⊢
  split at h
  · cases h
  · cases hrun : e.run i w with
    | error failure =>
      rw [hrun] at h
      cases h
    | ok r =>
      rw [hrun] at h
      cases h
      rfl

structure Ensured (t : Nat) (targetId : Id) (allocation : Allocation) (m : CapacityMoment) :
    Prop where
  target : allocation.key.targetId = targetId
  allows : Knows t allowedIn (allocation.key, allocation.maxEnvironments) m.history
  given : allocation.key.id < m.state.nextId

theorem persistent_ensured (t : Nat) (targetId : Id) (allocation : Allocation) :
    bindingContract.Persistent (Ensured t targetId allocation) where
  rely _ _ _ hr h :=
    ⟨h.target, (persistent_knows t allowedIn _).rely t _ _ hr h.allows,
      Nat.lt_of_lt_of_le h.given hr.2.nextId⟩
  step x hi hok hg h :=
    ⟨h.target, (persistent_knows t allowedIn _).step x hi hok hg h.allows,
      Nat.lt_of_lt_of_le h.given (later_post hi).nextId⟩

/-- A postcondition of the value, if there is one. -/
def OnValue (P : α → CapacityMoment → Prop) (r : Except Failure α) (m : CapacityMoment) : Prop :=
  ∀ a, r = .ok a → P a m

theorem ensured_found {workspaceId targetId : Id} {i : CapacityInput} {allocation : Allocation}
    (hinv : OwnIds m.state)
    (h : (exec (Stmt.findAllocation workspaceId targetId) i m.state).1 = .ok (some allocation)) :
    Ensured t targetId allocation (m.next t (.findAllocation workspaceId targetId) i) := by
  have hrun := exec_ok h
  simp only [Stmt.run, Except.ok.injEq, Prod.mk.injEq] at hrun
  have hkey := List.find?_some hrun.1
  simp only [Bool.and_eq_true, decide_eq_true_eq] at hkey
  have hmem : allocation.key ∈ m.state.allocations.keys :=
    List.mem_map_of_mem (List.mem_of_find?_eq_some hrun.1)
  have hlater := later_post (x := ⟨m, t, .findAllocation workspaceId targetId, i⟩) hinv
  refine ⟨hkey.2, knows_next ?_, Nat.lt_of_lt_of_le (hinv.allocations _ hmem) hlater.nextId⟩
  simp only [allowedIn, h]
  rfl

theorem ensured_created {workspaceId targetId : Id} {capabilities : List RuntimeKind}
    {i : CapacityInput} {allocation : Allocation}
    (h : (exec (Stmt.createDefault workspaceId targetId capabilities) i m.state).1 =
      .ok allocation) :
    Ensured t targetId allocation
      (m.next t (.createDefault workspaceId targetId capabilities) i) := by
  have hrun := exec_ok h
  simp only [Stmt.run, insertAllocation, bind_eq_ok, pure_eq_ok, Prod.mk.injEq] at hrun
  obtain ⟨-, -, -, -, -, -, hallocation, hstate⟩ := hrun
  refine ⟨by rw [← hallocation], knows_next ?_, ?_⟩
  · simp only [allowedIn, h]
    rfl
  · rw [Moment.next_state, ← hstate, ← hallocation]
    exact Nat.lt_succ_self _

theorem safe_await {P : α → CapacityMoment → Prop} (hP : ∀ a, bindingContract.Persistent (P a))
    {e : Stmt α} (hplain : Plain e)
    (h : ∀ (m : CapacityMoment) (i : CapacityInput) (a : α), OwnIds m.state →
      (exec e i m.state).1 = .ok a → P a (m.next t e i)) :
    Safe bindingContract t (OnValue P) (await e) m :=
  Safe.await fun m' i _ hi _ => ⟨hplain t m', fun m'' hr _ a ha =>
    (hP a).rely t _ m'' hr (h m' i a hi ha)⟩

theorem safe_bind {P : α → CapacityMoment → Prop} {Q : Except Failure γ → CapacityMoment → Prop}
    {p : CapacityCall α} {f : α → CapacityCall γ} (hinv : OwnIds m.state)
    (hp : Safe bindingContract t (OnValue P) p m) (hQ : ∀ x m', Q (.error x) m')
    (hf : ∀ a m', OwnIds m'.state → P a m' → Safe bindingContract t Q (f a) m') :
    Safe bindingContract t Q (p >>= f) m :=
  Safe.bind hinv hp (fun a m' hinv' ha => hf a m' hinv' (ha a rfl)) fun x _ _ _ =>
    safe_error x (hQ x)

theorem onValue_error {P : α → CapacityMoment → Prop} (x : Failure) (m : CapacityMoment) :
    OnValue P (.error x) m := by
  intro a ha
  cases ha

theorem safe_return {P : α → CapacityMoment → Prop} (hP : ∀ a, bindingContract.Persistent (P a))
    {a : α} (ha : P a m) : Safe bindingContract t (OnValue P) (pure a) m :=
  .ret fun m' hr _ b hb => by
    cases hb
    exact (hP a).rely t m m' hr ha

theorem safe_findAllocation (workspaceId targetId : Id) :
    Safe bindingContract t (OnValue fun answer m => ∀ allocation, answer = some allocation →
      Ensured t targetId allocation m) (await (.findAllocation workspaceId targetId)) m := by
  refine safe_await (fun answer => persistent_forall fun allocation =>
    persistent_ensured t targetId allocation) (fun _ _ => trivial) fun m i answer hinv ha => ?_
  intro allocation hanswer
  rw [hanswer] at ha
  exact ensured_found hinv ha

theorem safe_createMissing {workspaceId targetId : Id} (hinv : OwnIds m.state) :
    Safe bindingContract t (OnValue (Ensured t targetId))
      (createMissing workspaceId targetId) m := by
  refine safe_bind_plain persistent_true (plain_await fun _ _ => trivial) hinv trivial
    onValue_error fun target m₁ hinv₁ _ => ?_
  refine safe_bind_plain persistent_true (plain_await fun _ _ => trivial) hinv₁ trivial
    onValue_error fun _ m₂ hinv₂ _ => ?_
  have hcreate : Safe bindingContract t (OnValue (Ensured t targetId))
      (await (.createDefault workspaceId targetId target.capabilities)) m₂ :=
    safe_await (persistent_ensured t targetId) (fun _ _ => trivial) fun _ _ _ _ ha =>
      ensured_created ha
  refine Safe.andThen hinv₂ hcreate fun r m₃ hinv₃ hr => ?_
  cases r with
  | ok allocation => exact safe_return (persistent_ensured t targetId) (hr allocation rfl)
  | error failure =>
    refine safe_bind hinv₃ (safe_findAllocation workspaceId targetId) onValue_error
      fun winner m₄ hinv₄ hwinner => ?_
    cases winner with
    | none => exact safe_error _ (onValue_error failure)
    | some allocation => exact safe_return (persistent_ensured t targetId) (hwinner allocation rfl)

theorem safe_ensureAllocation {workspaceId targetId : Id} (hinv : OwnIds m.state) :
    Safe bindingContract t (OnValue (Ensured t targetId))
      (ensureAllocation workspaceId targetId) m := by
  refine safe_bind hinv (safe_findAllocation workspaceId targetId) onValue_error
    fun existing m₁ hinv₁ hexisting => ?_
  cases existing with
  | none => exact safe_createMissing hinv₁
  | some allocation => exact safe_return (persistent_ensured t targetId) (hexisting allocation rfl)

theorem safe_await_bind {A : CapacityMoment → Prop} (hA : bindingContract.Persistent A)
    {P : α → CapacityMoment → Prop} {Q : Except Failure γ → CapacityMoment → Prop} {e : Stmt α}
    {f : α → CapacityCall γ} (hplain : Plain e) (hm : A m) (hQ : ∀ x m', Q (.error x) m')
    (h : ∀ (m : CapacityMoment) (i : CapacityInput) (a : α), OwnIds m.state → A m →
      (exec e i m.state).1 = .ok a → P a (m.next t e i))
    (hf : ∀ a m', OwnIds m'.state → A m' → P a m' → Safe bindingContract t Q (f a) m') :
    Safe bindingContract t Q (await e >>= f) m := by
  refine Safe.await_bind fun m' i hr hi hok => ⟨hplain t m', Safe.onValue (fun a ha => ?_)
    fun x _ => safe_error x (hQ x)⟩
  have hm' := hA.rely t m m' hr hm
  exact hf a _ (own_post (x := ⟨m', t, e, i⟩) hi) (hA.step ⟨m', t, e, i⟩ hi hok (hplain t m') hm')
    (h m' i a hi hm' ha)

theorem safe_refuse {Q : Except Failure γ → CapacityMoment → Prop} {condition : Bool}
    {text : String} {f : Unit → CapacityCall γ} (hQ : ∀ x m', Q (.error x) m')
    (hf : condition = false → Safe bindingContract t Q (f ()) m) :
    Safe bindingContract t Q (refuse condition text >>= f) m := by
  cases condition with
  | true => exact safe_error _ (hQ _)
  | false => exact hf rfl

theorem counted_next {a : AllocationKey} {i : CapacityInput} {n : Nat}
    (h : (exec (Stmt.countEnvironments a) i m.state).1 = .ok n) :
    Knows t countedIn (a, n) (m.next t (.countEnvironments a) i).history := by
  refine knows_next ?_
  simp only [countedIn, h]
  rfl

/-! ## Projects -/

def Prepared (t targetId planned : Nat) (a : AllocationKey) (m : CapacityMoment) : Prop :=
  a.targetId = targetId ∧ Room t a planned m.history

theorem persistent_prepared (t targetId planned : Nat) (a : AllocationKey) :
    bindingContract.Persistent (Prepared t targetId planned a) where
  rely _ _ _ hr h := ⟨h.1, (persistent_room t a planned).rely t _ _ hr h.2⟩
  step x hi hok hg h := ⟨h.1, (persistent_room t a planned).step x hi hok hg h.2⟩

theorem safe_prepareOne {workspaceId targetId : Id} {requiredRuntime : RuntimeKind} {planned : Nat}
    (hinv : OwnIds m.state) : Safe bindingContract t (OnValue (Prepared t targetId planned))
      (prepareOne workspaceId requiredRuntime targetId planned) m := by
  refine safe_bind hinv (safe_ensureAllocation hinv) onValue_error
    fun allocation m₁ hinv₁ hensured => ?_
  refine safe_refuse onValue_error fun _ => safe_refuse onValue_error fun _ => ?_
  refine safe_await_bind (P := fun n m => Knows t countedIn (allocation.key, n) m.history)
    (persistent_ensured t targetId allocation) (fun _ _ => trivial) hensured onValue_error
    (fun _ _ _ _ _ ha => counted_next ha) fun n m₂ hinv₂ hensured₂ hcounted => ?_
  refine safe_refuse onValue_error fun hfits => ?_
  have hfits : n + planned ≤ allocation.maxEnvironments := by
    simpa using hfits
  exact safe_return (persistent_prepared t targetId planned)
    ⟨hensured₂.target, n, _, hcounted, hensured₂.allows, hfits⟩

/-- Room for every target with what is planned on it. -/
def AllPrepared (t : Nat) (groups : List (Id × Nat)) (allocationIds : List (Id × AllocationKey))
    (m : CapacityMoment) : Prop :=
  ∀ p : Id × AllocationKey, p ∈ allocationIds →
    ∃ planned, (p.1, planned) ∈ groups ∧ Prepared t p.1 planned p.2 m

theorem persistent_allPrepared (t : Nat) (groups : List (Id × Nat))
    (allocationIds : List (Id × AllocationKey)) :
    bindingContract.Persistent (AllPrepared t groups allocationIds) where
  rely _ _ _ hr h p hp := by
    obtain ⟨planned, hgroup, hprepared⟩ := h p hp
    exact ⟨planned, hgroup, (persistent_prepared t p.1 planned p.2).rely t _ _ hr hprepared⟩
  step x hi hok hg h p hp := by
    obtain ⟨planned, hgroup, hprepared⟩ := h p hp
    exact ⟨planned, hgroup, (persistent_prepared t p.1 planned p.2).step x hi hok hg hprepared⟩

theorem safe_prepareTargets {workspaceId : Id} {requiredRuntime : RuntimeKind}
    {groups : List (Id × Nat)} : ∀ {m : CapacityMoment}, OwnIds m.state →
      Safe bindingContract t (OnValue (AllPrepared t groups))
        (prepareTargets workspaceId requiredRuntime groups) m := by
  induction groups with
  | nil =>
    intro m _
    refine safe_return (persistent_allPrepared t []) fun p hp => ?_
    exact absurd hp List.not_mem_nil
  | cons group rest ih =>
    obtain ⟨targetId, planned⟩ := group
    intro m hinv
    refine safe_bind hinv (safe_prepareOne hinv) onValue_error fun a m₁ hinv₁ hprepared => ?_
    have hA := persistent_prepared t targetId planned a
    refine Safe.bind hinv₁ (Q := fun r m' => OnValue (AllPrepared t rest) r m' ∧
      Prepared t targetId planned a m') ?_ (fun others m₂ hinv₂ hothers => ?_)
      fun x _ _ _ => safe_error x (onValue_error x)
    · exact Safe.with_persistent hA (ih hinv₁) hprepared
    · refine safe_return (persistent_allPrepared t _) fun p hp => ?_
      rcases List.mem_cons.mp hp with rfl | hp
      · exact ⟨planned, List.mem_cons_self, hothers.2⟩
      · obtain ⟨planned', hgroup, hprepared'⟩ := hothers.1 others rfl p hp
        exact ⟨planned', List.mem_cons_of_mem _ hgroup, hprepared'⟩

theorem mem_of_lookup {targetId : Id} {a : AllocationKey} : ∀ {l : List (Id × AllocationKey)},
    l.lookup targetId = some a → (targetId, a) ∈ l := by
  intro l
  induction l with
  | nil =>
    intro h
    cases h
  | cons p rest ih =>
    obtain ⟨targetId', a'⟩ := p
    intro h
    rw [List.lookup_cons] at h
    by_cases heq : targetId = targetId'
    · subst heq
      simp only [beq_self_eq_true, Option.some.injEq] at h
      rw [h]
      exact List.mem_cons_self
    · simp only [beq_eq_false_iff_ne.mpr heq] at h
      exact List.mem_cons_of_mem _ (ih h)

theorem mem_grouped {environments : List (EnvName × Id)} {targetId : Id} {planned : Nat}
    (h : (targetId, planned) ∈ grouped environments) :
    planned = environments.countP fun e => e.2 = targetId := by
  obtain ⟨targetId', -, heq⟩ := List.mem_map.mp h
  cases heq
  rfl

theorem count_resolved_le (environments : List (EnvName × Id))
    {allocationIds : List (Id × AllocationKey)} {a : AllocationKey} {targetId : Id}
    (h : ∀ e ∈ environments, allocationIds.lookup e.2 = some a → e.2 = targetId) :
    ((environments.filterMap fun e => (allocationIds.lookup e.2).map fun allocation =>
        (⟨e.1, e.2, allocation⟩ : ResolvedEnvironmentTarget)).map (·.allocation)).count a ≤
      environments.countP fun e => e.2 = targetId := by
  induction environments with
  | nil => exact Nat.le_refl _
  | cons e rest ih =>
    have hrest := ih fun e' he' => h e' (List.mem_cons_of_mem _ he')
    rw [List.countP_cons]
    cases hlookup : allocationIds.lookup e.2 with
    | none =>
      rw [List.filterMap_cons_none (by rw [hlookup]; rfl)]
      omega
    | some a' =>
      rw [List.filterMap_cons_some (by rw [hlookup]; rfl), List.map_cons, List.count_cons]
      by_cases ha : a' = a
      · subst ha
        have htarget := h e List.mem_cons_self hlookup
        simp only [beq_self_eq_true, if_true, htarget, decide_true]
        omega
      · simp only [beq_eq_false_iff_ne.mpr ha, Bool.false_eq_true, if_false]
        omega

theorem safe_prepareAllocations {workspaceId : Id} {environments : List (EnvName × Id)}
    {requiredRuntime : RuntimeKind} (hinv : OwnIds m.state) :
    Safe bindingContract t (OnValue fun resolved m =>
      Planned t (resolved.map (·.allocation)) m.history)
      (prepareAllocations workspaceId environments requiredRuntime) m := by
  refine safe_bind hinv (safe_prepareTargets hinv) onValue_error
    fun allocationIds m₁ hinv₁ hprepared => ?_
  refine safe_return (fun resolved => persistent_planned t _) fun a ha => ?_
  obtain ⟨r, hr, rfl⟩ := List.mem_map.mp ha
  obtain ⟨e, he, hresolved⟩ := List.mem_filterMap.mp hr
  obtain ⟨a, hlookup, rfl⟩ := Option.map_eq_some_iff.mp hresolved
  obtain ⟨planned, hgroup, htarget, n, allowed, hcounted, hallowed, hfits⟩ :=
    hprepared _ (mem_of_lookup hlookup)
  have hplanned : planned = environments.countP fun e' => e'.2 = e.2 := mem_grouped hgroup
  have hcount := @count_resolved_le environments allocationIds a e.2 fun e' _ hlookup' => by
    obtain ⟨-, -, htarget', -⟩ := hprepared _ (mem_of_lookup hlookup')
    exact htarget'.symm.trans htarget
  rw [hplanned] at hfits
  exact ⟨n, allowed, hcounted, hallowed, (Nat.add_le_add_left hcount n).trans hfits⟩

theorem plain_resolveTargets (stages : List EnvName) :
    (await (.resolveTargets stages) : CapacityCall (List (EnvName × Id))).Only fun e => Plain e :=
  plain_await fun _ _ => trivial

theorem safe_createRecord {workspaceId : Id} {dto : ProjectDto} {deployed : EnvName → Deployed}
    {envTargets : List ResolvedEnvironmentTarget} {followUp : String} (hinv : OwnIds m.state)
    (hplanned : Planned t (envTargets.map (·.allocation)) m.history) :
    Safe bindingContract t (fun _ _ => True)
      (createRecord workspaceId dto deployed envTargets followUp) m := by
  refine Safe.bind hinv (safe_serializable (persistent_planned t _) (fun _ h => h) hinv hplanned)
    (fun created m₁ hinv₁ _ => safe_of_plain ?_) fun x _ _ _ => safe_error x fun _ => trivial
  refine .bind (.tryCatch (plain_aside _) fun _ => ?_) fun _ => .ret _
  exact .bind (.ignoreError (plain_await fun _ _ => trivial)) fun _ => .ret _

theorem safe_createInternal {workspaceId : Id} {dto : ProjectDto} (hinv : OwnIds m.state) :
    Safe bindingContract t (fun _ _ => True) (createInternal workspaceId dto) m := by
  refine safe_bind_plain persistent_true (plain_aside _) hinv trivial (fun _ _ => trivial)
    fun _ m₁ hinv₁ _ => ?_
  refine safe_bind_plain persistent_true (plain_resolveTargets _) hinv₁ trivial
    (fun _ _ => trivial) fun resolvedTargets m₂ hinv₂ _ => ?_
  refine safe_bind hinv₂ (safe_prepareAllocations hinv₂) (fun _ _ => trivial)
    fun envTargets m₃ hinv₃ hplanned => ?_
  refine safe_bind_plain (persistent_planned t _) (plain_aside _) hinv₃ hplanned
    (fun _ _ => trivial) fun _ m₄ hinv₄ hplanned₄ => ?_
  exact Safe.bind hinv₄ (safe_createRecord hinv₄ hplanned₄)
    (fun _ _ _ _ => .ret fun _ _ _ => trivial) fun x _ _ _ => safe_error x fun _ => trivial

theorem safe_importInternal {workspaceId : Id} {dto : ProjectDto} (hinv : OwnIds m.state) :
    Safe bindingContract t (fun _ _ => True) (importInternal workspaceId dto) m := by
  refine safe_bind_plain persistent_true (plain_aside _) hinv trivial (fun _ _ => trivial)
    fun _ m₁ hinv₁ _ => ?_
  refine safe_bind_plain persistent_true (plain_resolveTargets _) hinv₁ trivial
    (fun _ _ => trivial) fun resolvedTargets m₂ hinv₂ _ => ?_
  refine safe_bind hinv₂ (safe_prepareAllocations hinv₂) (fun _ _ => trivial)
    fun envTargets m₃ hinv₃ hplanned => ?_
  refine Safe.bind hinv₃ (safe_createRecord hinv₃ hplanned) (fun created m₄ hinv₄ _ =>
    safe_of_plain ?_) fun x _ _ _ => safe_error x fun _ => trivial
  refine .tryCatch (plain_aside _) fun _ => .bind (.ignoreError ?_) fun _ => .ret _
  exact .bind (plain_aside _) fun _ => plain_await fun _ _ => trivial

theorem safe_work (kind : ProvisioningKind) {workspaceId : Id} {dto : ProjectDto}
    (hinv : OwnIds m.state) :
    Safe bindingContract t (fun _ _ => True) (kind.work workspaceId dto) m := by
  cases kind with
  | create => exact safe_createInternal hinv
  | importExisting => exact safe_importInternal hinv

theorem safe_tryCatch {p : CapacityCall Unit} {q : Failure → CapacityCall Unit}
    (hinv : OwnIds m.state) (hp : Safe bindingContract t (fun _ _ => True) p m)
    (hq : ∀ x, (q x).Only fun e => Plain e) :
    Safe bindingContract t (fun _ _ => True) (tryCatch p q) m :=
  Safe.andThen hinv hp fun r m' _ _ => by
    cases r with
    | ok a => exact .ret fun _ _ _ => trivial
    | error x => exact safe_of_plain (hq x)

theorem safe_provision (kind : ProvisioningKind) {workspaceId : Id} {instance_ : InstanceId}
    {dto : ProjectDto} {retryOfId : Option Id} (hinv : OwnIds m.state) :
    Safe bindingContract t (fun _ _ => True)
      (provision kind workspaceId instance_ dto retryOfId) m := by
  refine safe_bind_plain persistent_true (plain_aside _) hinv trivial (fun _ _ => trivial)
    fun _ m₁ hinv₁ _ => ?_
  refine safe_bind_plain persistent_true (plain_start ..) hinv₁ trivial (fun _ _ => trivial)
    fun op m₂ hinv₂ _ => ?_
  refine safe_tryCatch hinv₂ (Safe.bind hinv₂ (safe_work kind hinv₂) (fun _ _ _ _ => ?_)
    fun x _ _ _ => safe_error x fun _ => trivial) fun _ => ?_
  · exact safe_of_plain (.ignoreError (plain_endProvisioning ..))
  · exact .bind (.ignoreError (plain_endProvisioning ..)) fun _ => .ret _

theorem safe_retryProvisioning (kind : ProvisioningKind) {instance_ : InstanceId}
    {dto : ProjectDto} {id : Id} (hinv : OwnIds m.state) :
    Safe bindingContract t (fun _ _ => True) (retryProvisioning kind instance_ dto id) m := by
  refine safe_bind_plain persistent_true (plain_await fun _ _ => trivial) hinv trivial
    (fun _ _ => trivial) fun operation m₁ hinv₁ _ => ?_
  refine safe_bind_plain persistent_true (plain_aside _) hinv₁ trivial (fun _ _ => trivial)
    fun _ m₂ hinv₂ _ => ?_
  refine safe_refuse (fun _ _ => trivial) fun _ => ?_
  refine safe_bind_plain persistent_true (plain_claim ..) hinv₂ trivial (fun _ _ => trivial)
    fun _ m₃ hinv₃ _ => ?_
  refine safe_tryCatch hinv₃ (safe_provision kind hinv₃) fun _ => ?_
  exact .bind (.ignoreError (plain_endProvisioning ..)) fun _ => .ret _

theorem safe_changeStages {row : Project} {environments : List Environment}
    {nextPreset : PipelinePreset} {runtime : RuntimeKind} (hinv : OwnIds m.state) :
    Safe bindingContract t (fun _ _ => True)
      (changeStages row environments nextPreset runtime) m := by
  refine safe_bind_plain persistent_true (plain_await fun _ _ => trivial) hinv trivial
    (fun _ _ => trivial) fun active m₁ hinv₁ _ => ?_
  refine safe_refuse (fun _ _ => trivial) fun _ => ?_
  refine safe_bind_plain persistent_true (plain_aside _) hinv₁ trivial (fun _ _ => trivial)
    fun _ m₂ hinv₂ _ => ?_
  refine safe_refuse (fun _ _ => trivial) fun _ => ?_
  refine safe_bind_plain persistent_true (plain_resolveTargets _) hinv₂ trivial
    (fun _ _ => trivial) fun resolvedAdded m₃ hinv₃ _ => ?_
  refine safe_bind hinv₃ (safe_prepareAllocations hinv₃) (fun _ _ => trivial)
    fun addedTargets m₄ hinv₄ hplanned => ?_
  refine Safe.await_bind fun m₅ i hr hi _ => ⟨?_, Safe.onValue (fun _ _ => safe_of_plain
    (plain_aside _)) fun x _ => safe_error x fun _ => trivial⟩
  exact (persistent_planned t _).rely t m₄ m₅ hr hplanned

theorem safe_updatePipelinePreset {project : ProjectKey} {nextPreset : PipelinePreset}
    {runtime : RuntimeKind} (hinv : OwnIds m.state) :
    Safe bindingContract t (fun _ _ => True)
      (updatePipelinePreset project nextPreset runtime) m := by
  refine safe_bind_plain persistent_true (plain_aside _) hinv trivial (fun _ _ => trivial)
    fun _ m₁ hinv₁ _ => ?_
  refine safe_bind_plain persistent_true (plain_await fun _ _ => trivial) hinv₁ trivial
    (fun _ _ => trivial) fun found m₂ hinv₂ _ => ?_
  obtain ⟨row, environments⟩ := found
  dsimp only
  split
  · exact .ret fun _ _ _ => trivial
  · exact safe_changeStages hinv₂

/-! ## The target of an environment -/

/-- What `assertAcceptsDeploy` has read of the allocation. -/
def ReadForDeploy (t : Nat) (a : AllocationKey) (answer : Option (Allocation × Nat))
    (m : CapacityMoment) : Prop :=
  match answer with
  | none => Gone a m.state
  | some (row, n) => Knows t checkedIn (a, n, row.maxEnvironments) m.history

theorem readForDeploy_next {a : AllocationKey} {i : CapacityInput}
    {answer : Option (Allocation × Nat)} (hinv : OwnIds m.state) (hgiven : a.id < m.state.nextId)
    (h : (exec (Stmt.findForDeploy a) i m.state).1 = .ok answer) :
    ReadForDeploy t a answer (m.next t (.findForDeploy a) i) := by
  have hrun := exec_ok h
  simp only [Stmt.run, Except.ok.injEq, Prod.mk.injEq] at hrun
  cases hfound : m.state.allocations.find? a with
  | none =>
    rw [hfound] at hrun
    cases hrun.1
    have hgone : Gone a m.state := by
      refine ⟨fun hmem => ?_, hgiven⟩
      have hsome := Table.find?_isSome_iff.mpr hmem
      rw [hfound] at hsome
      cases hsome
    exact hgone.later (later_post (x := ⟨m, t, .findForDeploy a, i⟩) hinv)
  | some row =>
    rw [hfound] at hrun
    obtain ⟨rfl, -⟩ := hrun
    refine knows_next ?_
    simp only [checkedIn, h]
    rfl

theorem bound_next {environment : EnvironmentKey} {a : AllocationKey} {i : CapacityInput} {n : Nat}
    (h : (exec (Stmt.countBound environment a) i m.state).1 = .ok n) (hn : n ≠ 0) :
    Knows t boundIn a (m.next t (.countBound environment a) i).history := by
  cases n with
  | zero => exact absurd rfl hn
  | succ n =>
    refine knows_next ?_
    simp only [boundIn, h]
    rfl

theorem safe_assertAcceptsDeploy {a : AllocationKey} {environment : EnvironmentKey}
    {runtime : RuntimeKind} (hgiven : a.id < m.state.nextId) :
    Safe bindingContract t (OnValue fun _ => Accepted t a)
      (assertAcceptsDeploy a environment runtime) m := by
  have hA : bindingContract.Persistent fun m => a.id < m.state.nextId :=
    ⟨fun _ _ _ hr h => Nat.lt_of_lt_of_le h hr.2.nextId,
      fun x hi _ _ h => Nat.lt_of_lt_of_le h (later_post hi).nextId⟩
  refine safe_await_bind (P := ReadForDeploy t a) hA (fun _ _ => trivial) hgiven onValue_error
    (fun _ _ _ hinv hgiven h => readForDeploy_next hinv hgiven h) fun answer m₁ hinv₁ _ hread => ?_
  cases answer with
  | none => exact safe_return (fun _ => persistent_accepted t a) (.inl hread)
  | some answer =>
    obtain ⟨row, n⟩ := answer
    have hchecked := persistent_knows t checkedIn (a, n, row.maxEnvironments)
    have hplain : (acceptsDeploy row runtime).Only fun e => Plain e :=
      .bind (.ret _) fun _ => .ret _
    refine safe_bind_plain hchecked hplain hinv₁ hread onValue_error fun _ m₂ hinv₂ hread₂ => ?_
    refine safe_await_bind (P := fun n m => n ≠ 0 → Knows t boundIn a m.history) hchecked
      (fun _ _ => trivial) hread₂ onValue_error (fun _ _ _ _ _ h hn => bound_next h hn)
      fun already m₃ hinv₃ hread₃ hbound => ?_
    unfold refuse Prog.refuseIf
    split
    · exact safe_error _ (onValue_error _)
    · rename_i hrefused
      refine safe_return (fun _ => persistent_accepted t a) ?_
      by_cases hzero : already = 0
      · refine .inr (.inr ⟨n, row.maxEnvironments, hread₃, ?_⟩)
        simpa [hzero] using hrefused
      · exact .inr (.inl (hbound hzero))

theorem plain_tearDown (movingAway : Bool) (environment : Environment) :
    (tearDown movingAway environment).Only fun e => Plain e := by
  cases movingAway with
  | true =>
    exact .bind (plain_aside _) fun _ => .tryCatch (plain_aside _) fun _ =>
      .bind (plain_await fun _ _ => trivial) fun _ => .ret _
  | false => exact .ret _

theorem safe_bindTarget {project : ProjectKey} {envName : EnvName} {targetId : Id}
    {runtime : RuntimeKind} (hinv : OwnIds m.state) :
    Safe bindingContract t (fun _ _ => True) (bindTarget project envName targetId runtime) m := by
  refine safe_bind_plain persistent_true (plain_await fun _ _ => trivial) hinv trivial
    (fun _ _ => trivial) fun row m₁ hinv₁ _ => ?_
  refine safe_bind_plain persistent_true (plain_await fun _ _ => trivial) hinv₁ trivial
    (fun _ _ => trivial) fun env m₂ hinv₂ _ => ?_
  refine safe_refuse (fun _ _ => trivial) fun _ => ?_
  refine safe_bind_plain persistent_true (plain_aside _) hinv₂ trivial (fun _ _ => trivial)
    fun _ m₃ hinv₃ _ => ?_
  refine safe_bind hinv₃ (safe_ensureAllocation hinv₃) (fun _ _ => trivial)
    fun allocation m₄ hinv₄ hensured => ?_
  refine safe_bind hinv₄ (safe_assertAcceptsDeploy hensured.given) (fun _ _ => trivial)
    fun _ m₅ hinv₅ haccepted => ?_
  refine safe_refuse (fun _ _ => trivial) fun _ => ?_
  refine safe_bind_plain (persistent_accepted t allocation.key) (plain_tearDown _ _) hinv₅ haccepted
    (fun _ _ => trivial) fun _ m₆ hinv₆ haccepted₆ => ?_
  refine Safe.await fun m₇ i hr _ _ => ⟨?_, fun _ _ _ => trivial⟩
  exact (persistent_accepted t allocation.key).rely t m₆ m₇ hr haccepted₆

theorem safe_request {p : CapacityCall Unit} (h : Request p) (hinv : OwnIds m.state) :
    Safe bindingContract t (fun _ _ => True) p m := by
  cases h with
  | updateCapacity => exact safe_of_plain (plain_await fun _ _ => trivial)
  | attach => exact safe_of_plain (plain_attach ..)
  | removeMember => exact safe_of_plain (plain_removeMember ..)
  | registerTarget => exact safe_of_plain (plain_registerTarget ..)
  | allocate => exact safe_of_plain (plain_allocate ..)
  | editAllocation => exact safe_of_plain (plain_editAllocation ..)
  | removeAllocation => exact safe_of_plain (plain_removeAllocation ..)
  | removeTarget => exact safe_of_plain (plain_removeTarget ..)
  | lifecycleTest => exact safe_of_plain (plain_lifecycleTest ..)
  | provision kind => exact safe_provision kind hinv
  | retryProvisioning kind => exact safe_retryProvisioning kind hinv
  | cleanupProvisioning => exact safe_of_plain (plain_cleanupProvisioning ..)
  | reconcileStale => exact safe_of_plain (.bind (plain_aside _) fun _ => plain_endProvisioning ..)
  | runOperation => exact safe_of_plain (plain_runOperation ..)
  | updatePipelinePreset => exact safe_updatePipelinePreset hinv
  | bindTarget => exact safe_bindTarget hinv
  | removeProject =>
    exact safe_of_plain (.bind (plain_aside _) fun _ => plain_await fun _ _ => trivial)
  | queueArtifact => exact safe_of_plain (plain_queueArtifact ..)
  | captureArtifact => exact safe_of_plain (plain_captureArtifact ..)
  | releaseArtifact =>
    exact safe_of_plain (.bind (plain_aside _) fun _ => plain_await fun _ _ => trivial)

/-- A step that binds environments and finds the room that its call has found keeps every allocation
within what it allows. -/
theorem bindings_kept {w : World} {tr : List CapacityStep} {c : CapacitySystem} (hw : OwnIds w)
    (hrun : Run Calls (Config.start w) tr c) : ∀ x ∈ tr, Undisturbed x → KeepsBindings x := by
  intro x hx hundisturbed
  have hstart : Run.Sound bindingContract (fun _ _ => True) (Config.start w) :=
    Run.sound_start _ w hw
  obtain ⟨-, hbacked⟩ := Run.safe bindingContract
    (fun _ _ _ hinv _ hp => safe_request hp hinv) hrun hstart fun _ _ => trivial
  have hown := Run.preserves_pre (fun m => OwnIds m.state) (fun _ => True)
    (fun _ _ hpre => own_post hpre) hrun (fun _ _ => trivial) hw x hx
  exact keeps_bindings hown (hbacked x hx) hundisturbed

/-! ## Two environments for one place -/

def unbound (id : Id) (name : EnvName) (order : Nat) : Environment where
  key := ⟨id, ⟨4, 1⟩⟩
  name := name
  order := order
  targetId := none
  allocation := none
  deployed := emptyEnvironment
  activeOperationId := none

def twoEnvironments (maxEnvironments : Nat) : World where
  workspaces := ⟨[⟨1, ⟨5, 5, 5, 5, 1000⟩⟩]⟩
  members := ⟨[⟨1, 7⟩]⟩
  targets := ⟨[⟨2, [.node]⟩]⟩
  allocations := ⟨[⟨⟨3, 1, 2⟩, [.node], true, maxEnvironments⟩]⟩
  projects := ⟨[⟨⟨4, 1⟩, .devProd⟩]⟩
  environments := ⟨[unbound 5 .dev 0, unbound 6 .prod 1]⟩
  deploymentOperations := ⟨[]⟩
  provisioningOperations := ⟨[]⟩
  artifacts := ⟨[]⟩
  nextId := 7

theorem twoEnvironments_own (maxEnvironments : Nat) : OwnIds (twoEnvironments maxEnvironments) where
  unique := List.nodup_nil
  given id hid := absurd hid List.not_mem_nil
  allocations a ha := by
    have heq : a = ⟨3, 1, 2⟩ := by simpa [twoEnvironments, Table.keys, key] using ha
    rw [heq]
    exact Nat.lt_add_of_pos_right (by decide : 0 < 4)

def bindBoth : List (CapacityCall Unit) :=
  [bindTarget ⟨4, 1⟩ .dev 2 .node, bindTarget ⟨4, 1⟩ .prod 2 .node]

theorem bindBoth_calls {m : CapacityMoment} : ∀ p ∈ bindBoth, Calls m p := by
  intro p hp
  simp only [bindBoth, List.mem_cons, List.not_mem_nil, or_false] at hp
  rcases hp with rfl | rfl
  · exact .bindTarget _ _ _ _
  · exact .bindTarget _ _ _ _

def turns (t n : Nat) : List (Nat × CapacityInput) := List.replicate n (t, {})

def roomLeft (x : CapacityStep) (a : AllocationKey) : Bool :=
  x.pre.history.all fun ev => ev.thread ≠ x.thread || boundIn ev ≠ some a &&
    (checkedIn ev).all fun found => found.1 ≠ a ||
      (x.pre.state.allocations.find? a).all fun row =>
        x.pre.state.bound a + found.2.2 ≤ found.2.1 + row.maxEnvironments

/-- The write of `bindTarget`, on an environment that was not bound before. -/
def Stmt.bound : Stmt β → Option AllocationKey
  | .bindEnvironment binding => some binding.allocation
  | _ => none

def undisturbed (x : CapacityStep) : Bool :=
  x.stmt.bindings.isEmpty || x.stmt.bound.any (roomLeft x)

theorem undisturbed_of_bool {x : CapacityStep} (h : undisturbed x = true) : Undisturbed x := by
  intro _
  obtain ⟨m, t, e, i⟩ := x
  simp only [undisturbed, Bool.or_eq_true, List.isEmpty_iff] at h
  cases e with
  | createProject | changePreset =>
    rcases h with hempty | h
    · intro a ha
      rw [hempty] at ha
      cases ha
    · cases h
  | bindEnvironment binding =>
    rcases h with hempty | h
    · cases hempty
    simp only [Stmt.bound, Option.any_some, roomLeft, List.all_eq_true, Bool.or_eq_true,
      Bool.and_eq_true, decide_eq_true_eq] at h
    refine ⟨fun hbound => ?_, fun _ n allowed hchecked row hrow => ?_⟩
    · obtain ⟨ev, hev, hthread, hbound⟩ := hbound
      rcases h ev hev with hne | hne
      · exact absurd hthread hne
      · exact absurd hbound hne.1
    · obtain ⟨ev, hev, hthread, hchecked⟩ := hchecked
      rcases h ev hev with hne | hne
      · exact absurd hthread hne
      · have hroom := hne.2
        simp only [hchecked, hrow, Option.all_some, Bool.or_eq_true, decide_eq_true_eq] at hroom
        rcases hroom with hself | hroom
        · exact absurd rfl hself
        · exact hroom
  | _ =>
    intro a ha
    cases ha

/-- Both environments are bound, one after the other. -/
theorem bindings_kept_in_turn : ∃ (tr : List CapacityStep) (c : CapacitySystem),
    Run Calls (Config.start (twoEnvironments 2)) tr c ∧ (∀ x ∈ tr, KeepsBindings x) ∧
      c.moment.state.bound ⟨3, 1, 2⟩ = 2 := by
  obtain ⟨tr, c, hrun, hcheck⟩ := run_of_plays (Config.start (twoEnvironments 2)) bindBoth
    (turns 0 7 ++ turns 1 7)
    (fun tr c => tr.all undisturbed && c.moment.state.bound ⟨3, 1, 2⟩ = 2)
    bindBoth_calls (by decide)
  simp only [Bool.and_eq_true, List.all_eq_true, decide_eq_true_eq] at hcheck
  refine ⟨tr, c, hrun, fun x hx => ?_, hcheck.2⟩
  exact bindings_kept (twoEnvironments_own 2) hrun x hx (undisturbed_of_bool (hcheck.1 x hx))

/-- Both calls count before either binds, and both bind to the only place. -/
theorem bound_above_quota : ¬ ∀ (w : World) (tr : List CapacityStep) (c : CapacitySystem),
    OwnIds w → Run Calls (Config.start w) tr c → ∀ x ∈ tr, KeepsBindings x := by
  intro h
  obtain ⟨tr, c, hrun, hcheck⟩ := run_of_plays (Config.start (twoEnvironments 1)) bindBoth
    (turns 0 6 ++ turns 1 7 ++ turns 0 1)
    (fun tr _ => tr.any fun x =>
      x.pre.state.allocations.find? ⟨3, 1, 2⟩ = some ⟨⟨3, 1, 2⟩, [.node], true, 1⟩ &&
        x.pre.state.bound ⟨3, 1, 2⟩ = 1 && x.post.state.bound ⟨3, 1, 2⟩ = 2)
    bindBoth_calls (by decide)
  simp only [List.any_eq_true, Bool.and_eq_true, decide_eq_true_eq] at hcheck
  obtain ⟨x, hx, ⟨hrow, hbefore⟩, hafter⟩ := hcheck
  have hle := h _ tr c (twoEnvironments_own 1) hrun x hx ⟨3, 1, 2⟩ _ hrow
    (by rw [hbefore, hafter]; exact Nat.lt_succ_self 1)
  rw [hafter] at hle
  exact absurd hle (Nat.not_succ_le_self 1)

end InitPad.Capacity
