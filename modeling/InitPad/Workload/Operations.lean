import InitPad.Workload.Lookups

/-!
# InitPad.Workload.Operations

What `status`, `healthy`, `stop` and `start` do, by the container that their lookup finds, and the
deployment of a revision that is there already. A deployed container is seen by all of them, unless
it has the legacy name of a workload with a direct port.
-/

namespace InitPad.Workload

open Interleave Prog Engine

/-! ## Updates that a lookup does not see -/

/-- An update of a container that keeps what a lookup reads. -/
structure Unseen (f : Container → Container) : Prop where
  id : ∀ c, (f c).id = c.id
  name : ∀ c, (f c).name = c.name
  labels : ∀ c, (f c).config.labels = c.config.labels
  image : ∀ c, (f c).config.image = c.config.image

def startOn (hostPort : Nat) (c : Container) : Container :=
  { c with running := true, config := { c.config with hostPort := some hostPort } }

def halt (c : Container) : Container :=
  { c with running := false, config := { c.config with hostPort := none } }

def makeDurable (c : Container) : Container :=
  { c with config := { c.config with durable := true } }

theorem unseen_makeDurable : Unseen makeDurable :=
  ⟨fun _ => rfl, fun _ => rfl, fun _ => rfl, fun _ => rfl⟩

theorem unseen_startOn {hostPort : Nat} : Unseen (startOn hostPort) :=
  ⟨fun _ => rfl, fun _ => rfl, fun _ => rfl, fun _ => rfl⟩

theorem unseen_halt : Unseen halt := ⟨fun _ => rfl, fun _ => rfl, fun _ => rfl, fun _ => rfl⟩

namespace Unseen

variable {f : Container → Container} (hf : Unseen f) {agent : Agent} {payload : Payload}
  {d : Docker} {id : Nat}
include hf

theorem belongsToWorkload (c : Container) :
    agent.belongsToWorkload payload (f c) = agent.belongsToWorkload payload c := by
  unfold Agent.belongsToWorkload
  rw [hf.labels]

theorem matches_ (c : Container) : agent.matches_ payload (f c) = agent.matches_ payload c := by
  unfold Agent.matches_
  rw [hf.belongsToWorkload, hf.labels, hf.image]

theorem ite : Unseen fun c => if c.id = id then f c else c where
  id c := by split; exacts [hf.id c, rfl]
  name c := by split; exacts [hf.name c, rfl]
  labels c := by split; exacts [hf.labels c, rfl]
  image c := by split; exacts [hf.image c, rfl]

theorem get? (name : String) : (d.onHost (d.host.update id f)).host.get? (.name name) =
    (d.host.get? (.name name)).map fun c => if c.id = id then f c else c :=
  Host.get?_update hf.name

theorem collides : agent.collides payload (d.onHost (d.host.update id f)) =
    agent.collides payload d := by
  unfold Agent.collides
  rw [hf.get?, Option.any_map]
  congr 1
  funext c
  simp only [hf.ite.belongsToWorkload, hf.ite.matches_]

theorem legacyRevision (names : List String) :
    agent.legacyRevision payload (d.onHost (d.host.update id f)) names =
      (agent.legacyRevision payload d names).map fun c => if c.id = id then f c else c := by
  unfold Agent.legacyRevision
  rw [List.map_findSome?]
  congr 1
  funext name
  rw [hf.get?, Option.filter_map]
  congr 2
  funext c
  exact hf.ite.matches_ c

theorem desiredWorkload : agent.desiredWorkload payload (d.onHost (d.host.update id f)) =
    (agent.desiredWorkload payload d).map fun c => if c.id = id then f c else c := by
  unfold Agent.desiredWorkload
  rw [Option.map_or, hf.get?]
  congr 1
  cases payload.routingMode with
  | managedGateway => exact hf.legacyRevision _
  | directPort => rfl

end Unseen

theorem belongs_congr {agent : Agent} {payload : Payload} {c c' : Container}
    (hlabels : c.config.labels = c'.config.labels) :
    agent.belongsToWorkload payload c = agent.belongsToWorkload payload c' := by
  unfold Agent.belongsToWorkload
  rw [hlabels]

theorem desiredWorkload_mem {agent : Agent} {payload : Payload} {d : Docker} {c : Container}
    (h : agent.desiredWorkload payload d = some c) : c ∈ d.host.containers := by
  unfold Agent.desiredWorkload at h
  rcases Option.or_eq_some_iff.mp h with hscoped | ⟨-, hlegacy⟩
  · exact (Host.mem_of_get? hscoped).1
  · cases hmode : payload.routingMode with
    | directPort =>
      rw [hmode] at hlegacy
      cases hlegacy
    | managedGateway =>
      rw [hmode] at hlegacy
      obtain ⟨name, -, hname⟩ := List.exists_of_findSome?_eq_some hlegacy
      exact (Host.mem_of_get? (Option.filter_eq_some_iff.mp hname).1).1

/-! ## The operations -/

section Rules

variable {P : Input → Prop} {d : Docker} {agent : Agent} {value payload : Payload}

/-- The health check can fail: of the container, or by what happens meanwhile. -/
def Unsure (P : Input → Prop) (payload : Payload) (c : Container) : Prop :=
  Agent.answers payload c = false ∨ ∃ i, P i ∧ ¬ Regular i

theorem always_status {Q : Except AgentError DockerWorkloadStatus → Docker → Prop}
    (hp : validatedPayload value = .ok payload)
    (hfault : Faulty P → ∀ x, Q (.error x) d)
    (hcollides : agent.collides payload d = true → ∀ x, Q (.error x) d)
    (hok : agent.collides payload d = false → Q (.ok ((agent.desiredWorkload payload d).elim
      ⟨.missing, none, none, none⟩ (agent.toStatus payload))) d) :
    Always P Q (status agent value) d := by
  unfold status
  rw [hp]
  exact Always.bind (Q := fun r d' => d' = d ∧ match r with
      | .ok c => agent.collides payload d = false ∧ c = agent.desiredWorkload payload d
      | .error x => Q (.error x) d)
    (always_desiredContainer (fun hfaulty x => ⟨rfl, hfault hfaulty x⟩)
      (fun hcollision x => ⟨rfl, hcollides hcollision x⟩) fun hnot => ⟨rfl, hnot, rfl⟩)
    (by rintro c d' ⟨rfl, hnot, rfl⟩; exact hok hnot)
    (by rintro x d' ⟨rfl, hx⟩; exact hx)

theorem always_healthy {Q : Except AgentError Bool → Docker → Prop}
    (hp : validatedPayload value = .ok payload)
    (hfault : Faulty P → ∀ x, Q (.error x) d)
    (hcollides : agent.collides payload d = true → ∀ x, Q (.error x) d)
    (hmissing : agent.desiredWorkload payload d = none → Q (.ok false) d)
    (htrue : ∀ c port, agent.desiredWorkload payload d = some c → c.config.hostPort = some port →
      Agent.answers payload c = true → Q (.ok true) (d.checked port))
    (hfalse : ∀ c, agent.desiredWorkload payload d = some c → Unsure P payload c →
      Q (.ok false) d) :
    Always P Q (healthy agent value) d := by
  unfold healthy
  rw [hp]
  refine Always.bind (Q := fun r d' => d' = d ∧ match r with
      | .ok c => c = agent.desiredWorkload payload d
      | .error x => Q (.error x) d)
    (always_desiredContainer (fun hfaulty x => ⟨rfl, hfault hfaulty x⟩)
      (fun hcollision x => ⟨rfl, hcollides hcollision x⟩) fun _ => ⟨rfl, rfl⟩) ?_ ?_
  · rintro c d' ⟨rfl, rfl⟩
    cases hdesired : agent.desiredWorkload payload d' with
    | none => exact hmissing hdesired
    | some c =>
      exact always_waitHealthy (fun port hport hanswers => htrue c port hdesired hport hanswers)
        fun h => hfalse c hdesired h
  · rintro x d' ⟨rfl, hx⟩
    exact hx

theorem always_stop {Q : Except AgentError Unit → Docker → Prop}
    (hw : d.host.WellFormed) (hp : validatedPayload value = .ok payload)
    (hfault : Faulty P → ∀ x, Q (.error x) d)
    (hcollides : agent.collides payload d = true → ∀ x, Q (.error x) d)
    (hidle : (∀ c, agent.desiredWorkload payload d = some c → c.running = false) → Q (.ok ()) d)
    (hrunning : ∀ c, agent.desiredWorkload payload d = some c → c.running = true →
      Q (.ok ()) (d.stopped c.id) ∧ (Faulty P → ∀ x, Q (.error x) (d.stopped c.id))) :
    Always P Q (stop agent value) d := by
  unfold stop
  rw [hp]
  refine Always.bind (Q := fun r d' => d' = d ∧ match r with
      | .ok c => c = agent.desiredWorkload payload d
      | .error x => Q (.error x) d)
    (always_desiredContainer (fun hfaulty x => ⟨rfl, hfault hfaulty x⟩)
      (fun hcollision x => ⟨rfl, hcollides hcollision x⟩) fun _ => ⟨rfl, rfl⟩) ?_ ?_
  · rintro c d' ⟨rfl, rfl⟩
    cases hdesired : agent.desiredWorkload payload d' with
    | none => exact hidle (by rw [hdesired]; exact fun c hc => by cases hc)
    | some c =>
      cases hstate : c.running with
      | false =>
        simp only [hstate, Bool.false_eq_true, if_false]
        exact hidle (by rw [hdesired]; exact fun c' hc => by cases hc; exact hstate)
      | true =>
        simp only [hstate, if_true]
        obtain ⟨hok, herror⟩ := hrunning c hdesired hstate
        refine always_stopContainer hw (desiredWorkload_mem hdesired) ?_ (fun _ => hok) ?_
        · rintro hfaulty x d'' (rfl | rfl)
          · exact hfault hfaulty x
          · exact herror hfaulty x
        · intro hstopped
          rw [hstate] at hstopped
          cases hstopped
  · rintro x d' ⟨rfl, hx⟩
    exact hx

theorem always_startHealthy {Q : Except AgentError Unit → Docker → Prop} {c : Container}
    (hp : validatedPayload payload = .ok payload)
    (hnot : agent.collides payload d = false)
    (hdesired : agent.desiredWorkload payload d = some c)
    (hfail : Faulty P ∨ Unsure P payload c → ∀ x, Q (.error x) d)
    (hok : ∀ port, c.config.hostPort = some port → Agent.answers payload c = true →
      Q (.ok ()) (d.checked port)) :
    Always P Q (do
      let ok ← healthy agent payload
      if ok then pure () else throw (newError "Workload failed its health check after start")) d := by
  refine Always.bind (Q := fun r d' => match r with
      | .ok true => Q (.ok ()) d'
      | .ok false => ∀ x, Q (.error x) d'
      | .error x => Q (.error x) d')
    (always_healthy hp (fun hfaulty => hfail (.inl hfaulty)) ?_ ?_ ?_ ?_) ?_ fun _ _ hx => hx
  · intro hcollision
    rw [hnot] at hcollision
    cases hcollision
  · intro hmissing
    rw [hdesired] at hmissing
    cases hmissing
  · intro c' port hc' hport hanswers
    rw [hdesired] at hc'
    cases hc'
    exact hok port hport hanswers
  · intro c' hc' hunsure
    rw [hdesired] at hc'
    cases hc'
    exact hfail (.inr hunsure)
  · intro ok d' hok'
    cases ok with
    | true => exact hok'
    | false => exact hok' _

theorem always_start {Q : Except AgentError Unit → Docker → Prop}
    (hw : d.host.WellFormed) (hp : validatedPayload value = .ok payload)
    (hfault : Faulty P → ∀ x, Q (.error x) d)
    (hcollides : agent.collides payload d = true → ∀ x, Q (.error x) d)
    (hmissing : agent.desiredWorkload payload d = none → ∀ x, Q (.error x) d)
    (hrunning : ∀ c, agent.desiredWorkload payload d = some c → c.running = true →
      (Unsure P payload c → ∀ x, Q (.error x) d) ∧
      ∀ port, c.config.hostPort = some port → Agent.answers payload c = true →
        Q (.ok ()) (d.checked port))
    (hstopped : ∀ c, agent.desiredWorkload payload d = some c → c.running = false →
      (Faulty P → ∀ x port, Q (.error x) (d.started port c.id)) ∧
      ∀ i, P i →
        (Unsure P payload (startOn i.hostPort c) → ∀ x, Q (.error x) (d.started i.hostPort c.id)) ∧
        (Agent.answers payload (startOn i.hostPort c) = true →
          Q (.ok ()) ((d.started i.hostPort c.id).checked i.hostPort))) :
    Always P Q (start agent value) d := by
  have hp' := validatedPayload_idem hp
  unfold start
  rw [hp]
  refine Always.bind (Q := fun r d' => d' = d ∧ match r with
      | .ok c => agent.collides payload d = false ∧ c = agent.desiredWorkload payload d
      | .error x => Q (.error x) d)
    (always_desiredContainer (fun hfaulty x => ⟨rfl, hfault hfaulty x⟩)
      (fun hcollision x => ⟨rfl, hcollides hcollision x⟩) fun hnot => ⟨rfl, hnot, rfl⟩) ?_ ?_
  · rintro c d' ⟨rfl, hnot, rfl⟩
    cases hdesired : agent.desiredWorkload payload d' with
    | none => exact hmissing hdesired _
    | some c =>
      cases hstate : c.running with
      | true =>
        obtain ⟨hfail, hok⟩ := hrunning c hdesired hstate
        simp only [hstate, if_true]
        exact always_startHealthy hp' hnot hdesired
          (fun h x => h.elim (fun hfaulty => hfault hfaulty x) fun hunsure => hfail hunsure x) hok
      | false =>
        obtain ⟨hfaulty, hsteps⟩ := hstopped c hdesired hstate
        simp only [hstate, Bool.false_eq_true, if_false]
        refine Always.bind (Q := fun r d'' => match r with
            | .ok () => ∃ i, P i ∧ d'' = d'.started i.hostPort c.id
            | .error x => Q (.error x) d'')
          (always_startContainer hw (desiredWorkload_mem hdesired) ?_ ?_ ?_) ?_ fun _ _ hx => hx
        · rintro hf x d'' (rfl | ⟨port, rfl⟩)
          · exact hfault hf x
          · exact hfaulty hf x port
        · intro hrunning'
          rw [hstate] at hrunning'
          cases hrunning'
        · exact fun _ i hi => ⟨i, hi, rfl⟩
        · rintro u d'' ⟨i, hi, rfl⟩
          obtain ⟨hfail, hok⟩ := hsteps i hi
          have hfound : agent.desiredWorkload payload (d'.started i.hostPort c.id) =
              some (startOn i.hostPort c) := by
            refine unseen_startOn.desiredWorkload.trans ?_
            rw [hdesired, Option.map_some, if_pos rfl]
          refine always_startHealthy hp' (unseen_startOn.collides.trans hnot) hfound
            (fun h x => h.elim (fun hf => hfaulty hf x _) fun hunsure => hfail hunsure x) ?_
          intro port hport hanswers
          cases hport
          exact hok hanswers
  · rintro x d' ⟨rfl, hx⟩
    exact hx

end Rules

end InitPad.Workload
