import InitPad.Workload.Lifecycle

/-!
# InitPad.Workload.CallRules

How the calls of an Agent end, for any set of admitted inputs. A call ends regularly, or it fails
with or without its effect; the second only happens if the inputs admit trouble.
-/

namespace InitPad.Workload

open Interleave Prog Engine

/-- The admitted inputs let a call fail. -/
def Faulty (P : Input → Prop) : Prop := ∃ i, P i ∧ i.trouble ≠ none

def anyInput : Input → Prop := fun _ => True

/-- Docker responds, and the workload answers its health check on the port that Docker gave it. -/
structure Regular (i : Input) : Prop where
  trouble : i.trouble = none
  healthy : i.healthy = true
  aborted : i.aborted = false
  port : 1 ≤ i.hostPort ∧ i.hostPort ≤ 65535

theorem regular_default : Regular {} := ⟨rfl, rfl, rfl, by decide⟩

theorem not_faulty_regular : ¬ Faulty Regular := fun ⟨_, hi, htrouble⟩ => htrouble hi.trouble

theorem exists_idle {γ : Type} (e : AgentStmt γ) (d : Docker) : ∃ i : Input, (exec e i d).2 = d := by
  refine ⟨{ trouble := some (.thrown { message := "" } false), healthy := false }, ?_⟩
  cases e <;> rfl

section Requests

variable {P : Input → Prop} {β : Type} {d : Docker}

theorem exec_http (call : DockerCall β) (i : Input) (d : Docker) :
    exec (AgentStmt.http call) i d =
      (i.response call d, if i.applies then (call.answer i.hostPort d).2 else d) := rfl

def Failed (r : Except AgentError (Response β)) : Prop :=
  (∃ x, r = .error x) ∨ ∃ response, r = .ok response ∧ refuses response.statusCode = true

theorem always_request {call : DockerCall β} {Q : Except AgentError (Response β) → Docker → Prop}
    (hfault : Faulty P → ∀ i r d', P i → Failed r → (d' = d ∨ d' = (call.answer i.hostPort d).2) →
      Q r d')
    (hok : ∀ i, P i → Q (.ok (call.answer i.hostPort d).1) (call.answer i.hostPort d).2) :
    Always P Q (request call) d := by
  refine always_await.mpr fun i hi => ?_
  rw [exec_http]
  have heither : ∀ b : Bool, (if b = true then (call.answer i.hostPort d).2 else d) = d ∨
      (if b = true then (call.answer i.hostPort d).2 else d) = (call.answer i.hostPort d).2 := by
    intro b
    cases b <;> simp
  unfold Input.response Input.applies
  cases htrouble : i.trouble with
  | none => exact hok i hi
  | some trouble =>
    have hfaulty : Faulty P := ⟨i, hi, by simp [htrouble]⟩
    cases trouble with
    | thrown failure applied => exact hfault hfaulty i _ _ hi (.inl ⟨_, rfl⟩) (heither applied)
    | controlPlane => exact hok i hi
    | refused statusCode detail applied =>
      dsimp only
      by_cases hrefuses : refuses statusCode = true
      · rw [if_pos hrefuses]
        exact hfault hfaulty i _ _ hi (.inr ⟨⟨statusCode, detail, none⟩, rfl, hrefuses⟩) (heither _)
      · rw [if_neg hrefuses, if_pos (by simp [hrefuses])]
        exact hok i hi

theorem always_expect {call : DockerCall Unit} {statuses : List Nat} {action : String}
    {Q : Except AgentError Unit → Docker → Prop}
    (hstatuses : ∀ statusCode ∈ statuses, refuses statusCode = false)
    (hfault : Faulty P → ∀ i x d', P i → (d' = d ∨ d' = (call.answer i.hostPort d).2) →
      Q (.error x) d')
    (hok : ∀ i, P i → (call.answer i.hostPort d).1.statusCode ∈ statuses →
      Q (.ok ()) (call.answer i.hostPort d).2)
    (herror : ∀ i x, P i → (call.answer i.hostPort d).1.statusCode ∉ statuses →
      Q (.error x) (call.answer i.hostPort d).2) :
    Always P Q (expect statuses call action) d := by
  refine Always.bind (Q := fun r d' => match r with
    | .ok response => ∀ x, (response.statusCode ∈ statuses → Q (.ok ()) d') ∧
        (response.statusCode ∉ statuses → Q (.error x) d')
    | .error x => Q (.error x) d') (always_request ?_ ?_) ?_ fun _ _ hx => hx
  · intro hfaulty i r d' hi hfailed hd'
    rcases hfailed with ⟨x, rfl⟩ | ⟨response, rfl, hrefuses⟩
    · exact hfault hfaulty i x d' hi hd'
    · intro x
      refine ⟨fun hmem => ?_, fun _ => hfault hfaulty i x d' hi hd'⟩
      rw [hstatuses _ hmem] at hrefuses
      cases hrefuses
  · exact fun i hi x => ⟨hok i hi, herror i x hi⟩
  · intro response d' hresponse
    split
    · rename_i hnot
      exact (hresponse _).2 (by simpa using hnot)
    · rename_i hmem
      exact (hresponse (newError "")).1 (by simpa using hmem)

end Requests

/-! ## Containers -/

namespace Docker

variable (d : Docker)

def started (hostPort id : Nat) : Docker :=
  d.onHost (d.host.update id fun c =>
    { c with running := true, config := { c.config with hostPort := some hostPort } })

def stopped (id : Nat) : Docker :=
  d.onHost (d.host.update id fun c =>
    { c with running := false, config := { c.config with hostPort := none } })

def updated (id : Nat) : Docker :=
  d.onHost (d.host.update id fun c => { c with config := { c.config with durable := true } })

def renamed (id : Nat) (name : String) : Docker := d.onHost (d.host.rename id name)

def removed (id : Nat) : Docker := d.onHost (d.host.remove id)

def created (name : String) (config : ContainerConfig) : Docker :=
  d.onHost (d.host.create name config)

variable {d}

theorem removed_of_none {id : Nat} (h : d.host.get? (.id id) = none) : d.removed id = d := by
  have hall := Host.get?_eq_none.mp h
  have hfilter : d.host.containers.filter (fun c => decide (c.id ≠ id)) = d.host.containers := by
    rw [List.filter_eq_self]
    intro c hc
    have hne := hall c hc
    simpa [Ref.denotes] using hne
  unfold removed Docker.onHost Host.remove
  rw [hfilter]

end Docker

section Containers

variable {P : Input → Prop} {d : Docker} {c : Container} {action : String}
  {Q : Except AgentError Unit → Docker → Prop}

theorem always_removeContainer {id : Nat}
    (hfault : Faulty P → ∀ x d', (d' = d ∨ d' = d.removed id) → Q (.error x) d')
    (hok : Q (.ok ()) (d.removed id)) : Always P Q (Agent.removeContainer id) d := by
  have hanswer : ∀ port, ((DockerCall.removeContainer id).answer port d).2 = d.removed id ∧
      ((DockerCall.removeContainer id).answer port d).1.statusCode ∈ [204, 404] := by
    intro port
    change (d.removeContainer id).2 = _ ∧ (d.removeContainer id).1.statusCode ∈ _
    unfold Docker.removeContainer
    split
    · rename_i hnone
      exact ⟨(Docker.removed_of_none (Option.isNone_iff_eq_none.mp hnone)).symm, by simp [answered]⟩
    · exact ⟨rfl, by simp [answered]⟩
  refine always_expect (by decide) ?_ ?_ ?_
  · intro hfaulty i x d' _ hd'
    rw [(hanswer i.hostPort).1] at hd'
    exact hfault hfaulty x d' hd'
  · intro i _ _
    rw [(hanswer i.hostPort).1]
    exact hok
  · exact fun i _ _ hnot => absurd (hanswer i.hostPort).2 hnot

theorem always_startContainer (hw : d.host.WellFormed) (hc : c ∈ d.host.containers)
    (hfault : Faulty P → ∀ x d', (d' = d ∨ ∃ port, d' = d.started port c.id) → Q (.error x) d')
    (hrunning : c.running = true → Q (.ok ()) d)
    (hstopped : c.running = false → ∀ i, P i → Q (.ok ()) (d.started i.hostPort c.id)) :
    Always P Q (expect [204, 304] (.startContainer c.id) action) d := by
  have hget := hw.get?_id hc
  have hanswer : ∀ port, (DockerCall.startContainer c.id).answer port d =
      if c.running then (answered 304 none, d) else (answered 204 none, d.started port c.id) := by
    intro port
    change d.startContainer port c.id = _
    unfold Docker.startContainer
    rw [hget]
    rfl
  refine always_expect (by decide) ?_ ?_ ?_
  · intro hfaulty i x d' _ hd'
    refine hfault hfaulty x d' ?_
    rw [hanswer] at hd'
    split at hd'
    · exact .inl (hd'.elim id id)
    · exact hd'.imp_right fun h => ⟨_, h⟩
  · intro i hi _
    rw [hanswer]
    cases hstate : c.running with
    | true => exact hrunning hstate
    | false => exact hstopped hstate i hi
  · intro i x _ hnot
    rw [hanswer] at hnot
    split at hnot
    · exact absurd (by simp [answered]) hnot
    · exact absurd (by simp [answered]) hnot

theorem always_stopContainer (hw : d.host.WellFormed) (hc : c ∈ d.host.containers)
    (hfault : Faulty P → ∀ x d', (d' = d ∨ d' = d.stopped c.id) → Q (.error x) d')
    (hrunning : c.running = true → Q (.ok ()) (d.stopped c.id))
    (hstopped : c.running = false → Q (.ok ()) d) :
    Always P Q (expect [204, 304] (.stopContainer c.id) action) d := by
  have hget := hw.get?_id hc
  have hanswer : ∀ port, (DockerCall.stopContainer c.id).answer port d =
      if !c.running then (answered 304 none, d) else (answered 204 none, d.stopped c.id) := by
    intro port
    change d.stopContainer c.id = _
    unfold Docker.stopContainer
    rw [hget]
    rfl
  refine always_expect (by decide) ?_ ?_ ?_
  · intro hfaulty i x d' _ hd'
    refine hfault hfaulty x d' ?_
    rw [hanswer] at hd'
    split at hd'
    · exact .inl (hd'.elim id id)
    · exact hd'
  · intro i hi _
    rw [hanswer]
    cases hstate : c.running with
    | true => exact hrunning hstate
    | false => exact hstopped hstate
  · intro i x _ hnot
    rw [hanswer] at hnot
    split at hnot
    · exact absurd (by simp [answered]) hnot
    · exact absurd (by simp [answered]) hnot

theorem always_updateContainer (hw : d.host.WellFormed) (hc : c ∈ d.host.containers)
    (hfault : Faulty P → ∀ x d', (d' = d ∨ d' = d.updated c.id) → Q (.error x) d')
    (hok : Q (.ok ()) (d.updated c.id)) :
    Always P Q (expect [200] (.updateContainer c.id) action) d := by
  have hanswer : ∀ port, (DockerCall.updateContainer c.id).answer port d =
      (answered 200 none, d.updated c.id) := by
    intro port
    change d.updateContainer c.id = _
    unfold Docker.updateContainer
    rw [hw.get?_id hc]
    rfl
  refine always_expect (by decide) ?_ ?_ ?_
  · intro hfaulty i x d' _ hd'
    rw [hanswer] at hd'
    exact hfault hfaulty x d' hd'
  · intro i _ _
    rw [hanswer]
    exact hok
  · intro i x _ hnot
    rw [hanswer] at hnot
    exact absurd (by simp [answered]) hnot

theorem always_renameContainer {name : String} (hw : d.host.WellFormed)
    (hc : c ∈ d.host.containers)
    (hfault : Faulty P → ∀ x d', (d' = d ∨
      (d.host.get? (.name name) = none ∧ d' = d.renamed c.id name)) → Q (.error x) d')
    (htaken : (d.host.get? (.name name)).isSome = true → ∀ x, Q (.error x) d)
    (hok : d.host.get? (.name name) = none → Q (.ok ()) (d.renamed c.id name)) :
    Always P Q (expect [204] (.renameContainer c.id name) action) d := by
  have hanswer : ∀ port, (DockerCall.renameContainer c.id name).answer port d =
      if (d.host.get? (.name name)).isSome then (answered 409 none, d)
      else (answered 204 none, d.renamed c.id name) := by
    intro port
    change d.renameContainer c.id name = _
    unfold Docker.renameContainer
    rw [hw.get?_id hc]
    rfl
  refine always_expect (by decide) ?_ ?_ ?_
  · intro hfaulty i x d' _ hd'
    refine hfault hfaulty x d' ?_
    rw [hanswer] at hd'
    split at hd'
    · exact .inl (hd'.elim id id)
    · rename_i hfree
      exact hd'.imp_right fun h => ⟨by simpa using hfree, h⟩
  · intro i _ hmem
    rw [hanswer] at hmem ⊢
    split at hmem
    · exact absurd hmem (by simp [answered])
    · rename_i hfree
      rw [if_neg hfree]
      exact hok (by simpa using hfree)
  · intro i x _ hnot
    rw [hanswer] at hnot ⊢
    split at hnot
    · rename_i htaken'
      rw [if_pos htaken']
      exact htaken htaken' x
    · exact absurd (by simp [answered]) hnot

end Containers

/-! ## Lookups -/

section Lookups

variable {P : Input → Prop} {d : Docker} {agent : Agent} {payload : Payload}
  {Q : Except AgentError (Option Container) → Docker → Prop}

theorem responseJson_refused {β : Type} {response : Response β} (action : String)
    (h : refuses response.statusCode = true) : ∃ x, responseJson response action = .error x := by
  unfold refuses at h
  simp only [Bool.and_eq_true, decide_eq_true_eq] at h
  refine ⟨_, if_pos (.inr ?_)⟩
  omega

theorem not_404_of_refuses {statusCode : Nat} (h : refuses statusCode = true) :
    statusCode ≠ 404 := by
  unfold refuses at h
  simp only [Bool.and_eq_true, bne_iff_ne] at h
  exact h.2

theorem answer_inspectContainer_none {ref : Ref} {port : Nat} (h : d.host.get? ref = none) :
    ((DockerCall.inspectContainer ref).answer port d).1 = answered 404 none := by
  simp only [DockerCall.answer, h]

theorem answer_inspectContainer_some {ref : Ref} {port : Nat} {c : Container}
    (h : d.host.get? ref = some c) :
    ((DockerCall.inspectContainer ref).answer port d).1 = answered 200 (some c) := by
  simp only [DockerCall.answer, h]

theorem always_inspectContainer {ref : Ref} (hfault : Faulty P → ∀ x, Q (.error x) d)
    (hok : Q (.ok (d.host.get? ref)) d) : Always P Q (Agent.inspectContainer ref) d := by
  refine Always.bind (Q := fun r d' => d' = d ∧ match r with
    | .ok response => response = ((DockerCall.inspectContainer ref).answer 0 d).1 ∨
        (Faulty P ∧ refuses response.statusCode = true)
    | .error _ => Faulty P) (always_request ?_ ?_) ?_ ?_
  · intro hfaulty i r d' _ hfailed hd'
    refine ⟨hd'.elim id id, ?_⟩
    rcases hfailed with ⟨x, rfl⟩ | ⟨response, rfl, hrefuses⟩
    · exact hfaulty
    · exact .inr ⟨hfaulty, hrefuses⟩
  · exact fun i _ => ⟨rfl, .inl rfl⟩
  · rintro response d' ⟨rfl, hresponse | ⟨hfaulty, hrefuses⟩⟩
    · subst hresponse
      rcases hget : d'.host.get? ref with _ | container
      · rw [answer_inspectContainer_none hget]
        rw [hget] at hok
        exact hok
      · rw [answer_inspectContainer_some hget]
        rw [hget] at hok
        exact hok
    · rw [if_neg (not_404_of_refuses hrefuses)]
      obtain ⟨x, hx⟩ := responseJson_refused "inspect container" hrefuses
      rw [hx]
      exact hfault hfaulty x
  · rintro x d' ⟨rfl, hfaulty⟩
    exact hfault hfaulty x

theorem always_ownedContainer {name : String} (hfault : Faulty P → ∀ x, Q (.error x) d)
    (hforeign : ∀ c x, d.host.get? (.name name) = some c →
      agent.belongsToWorkload payload c = false → Q (.error x) d)
    (hok : (∀ c, d.host.get? (.name name) = some c → agent.belongsToWorkload payload c = true) →
      Q (.ok (d.host.get? (.name name))) d) :
    Always P Q (agent.ownedContainer payload name) d := by
  refine Always.bind (always_inspectContainer
    (Q := fun r d' => d' = d ∧ match r with
      | .ok container => container = d.host.get? (.name name)
      | .error _ => Faulty P) (fun hfaulty _ => ⟨rfl, hfaulty⟩) ⟨rfl, rfl⟩) ?_ ?_
  · rintro container d' ⟨rfl, rfl⟩
    cases hget : d'.host.get? (.name name) with
    | none =>
      rw [hget] at hok
      exact hok fun c hc => by cases hc
    | some c =>
      cases hbelongs : agent.belongsToWorkload payload c with
      | true =>
        rw [if_neg (by simp [hbelongs])]
        rw [hget] at hok
        exact hok fun c' hc' => by cases hc'; exact hbelongs
      | false =>
        rw [if_pos (by simp [hbelongs])]
        exact hforeign c _ hget hbelongs
  · rintro x d' ⟨rfl, hfaulty⟩
    exact hfault hfaulty x

theorem always_legacyOwnedContainer {name : String} (hfault : Faulty P → ∀ x, Q (.error x) d)
    (hok : Q (.ok ((d.host.get? (.name name)).filter (agent.belongsToWorkload payload))) d) :
    Always P Q (agent.legacyOwnedContainer payload name) d := by
  refine Always.bind (always_inspectContainer
    (Q := fun r d' => d' = d ∧ match r with
      | .ok container => container = d.host.get? (.name name)
      | .error _ => Faulty P) (fun hfaulty _ => ⟨rfl, hfaulty⟩) ⟨rfl, rfl⟩) ?_ ?_
  · rintro container d' ⟨rfl, rfl⟩
    exact hok
  · rintro x d' ⟨rfl, hfaulty⟩
    exact hfault hfaulty x

end Lookups

end InitPad.Workload
