import InitPad.Workload.Phases

/-!
# InitPad.Workload.Leftovers

The loops that remove the containers of a workload by their names.
-/

namespace InitPad.Workload

open Interleave Prog Engine

def Docker.purged (d : Docker) (agent : Agent) (payload : Payload) (names : List String) : Docker :=
  d.onHost { d.host with
    containers := d.host.containers.filter fun c =>
      !(agent.belongsToWorkload payload c && names.contains c.name) }

section Rules

variable {P : Input → Prop} {d : Docker} {agent : Agent} {payload : Payload} {c : Container}
  {name : String} {names : List String}

theorem mem_purged : c ∈ (d.purged agent payload names).host.containers ↔
    c ∈ d.host.containers ∧ ¬(agent.belongsToWorkload payload c = true ∧ c.name ∈ names) := by
  unfold Docker.purged Docker.onHost
  simp only [List.mem_filter, Bool.not_eq_true', Bool.and_eq_false_iff, not_and_or,
    Bool.not_eq_true, List.contains_eq_mem, decide_eq_false_iff_not]

theorem purged_nil : d.purged agent payload [] = d := by
  unfold Docker.purged Docker.onHost
  simp

theorem purged_append {names' : List String} :
    (d.purged agent payload names).purged agent payload names' =
      d.purged agent payload (names ++ names') := by
  unfold Docker.purged Docker.onHost
  simp only [List.filter_filter]
  congr 2
  refine List.filter_congr fun c _ => ?_
  cases agent.belongsToWorkload payload c with
  | false => rfl
  | true => simp only [Bool.true_and, List.contains_append, Bool.not_or, Bool.and_comm]

theorem purged_cons : (d.purged agent payload [name]).purged agent payload names =
    d.purged agent payload (name :: names) := purged_append

theorem purged_wellFormed (hw : d.host.WellFormed) :
    (d.purged agent payload names).host.WellFormed where
  ids := hw.ids.sublist (List.filter_sublist.map _)
  names := hw.names.sublist (List.filter_sublist.map _)
  fresh c hc := hw.fresh c (mem_purged.mp hc).1

theorem removed_eq_purged (hw : d.host.WellFormed) (hget : d.host.get? (.name name) = some c)
    (howned : agent.belongsToWorkload payload c = true) :
    d.removed c.id = d.purged agent payload [name] := by
  obtain ⟨hc, hdenotes⟩ := Host.mem_of_get? hget
  have hnamed : c.name = name := by simpa [Ref.denotes] using hdenotes
  unfold Docker.removed Docker.purged Docker.onHost Host.remove
  congr 2
  refine List.filter_congr fun c' hc' => ?_
  by_cases hid : c'.id = c.id
  · have hsame := hw.eq_of_id hc' hc hid
    simp [hsame, howned, hnamed]
  · have hname : c'.name ≠ name := by
      intro hname
      exact hid (congrArg (·.id) (hw.eq_of_name hc' hc (hname.trans hnamed.symm)))
    simp [hid, hname]

theorem eq_purged (h : ∀ c, d.host.get? (.name name) = some c →
    agent.belongsToWorkload payload c = false) (hw : d.host.WellFormed) :
    d = d.purged agent payload [name] := by
  have hsame : (d.host.containers.filter fun c =>
      !(agent.belongsToWorkload payload c && [name].contains c.name)) = d.host.containers := by
    refine List.filter_eq_self.mpr fun c hc => ?_
    by_cases hname : c.name = name
    · have hforeign := h c (hname ▸ hw.get?_name hc)
      simp [hforeign]
    · simp [hname]
  unfold Docker.purged Docker.onHost
  rw [hsame]

theorem always_removeLegacyAll (hw : d.host.WellFormed) :
    Always P (fun r d' => match r with
      | .ok () => d' = d.purged agent payload names
      | .error _ => Faulty P) (forEach (removeLegacy agent payload) names) d := by
  refine always_forEach
    (A := fun names' d' => d'.host.WellFormed ∧
      d'.purged agent payload names' = d.purged agent payload names) ?_ ?_ _ _ ⟨hw, rfl⟩
  · rintro d' ⟨-, h⟩
    rw [purged_nil] at h
    exact h
  · rintro name names' d' ⟨hw', h⟩
    refine always_removeLegacy (fun hfaulty _ => hfaulty) (fun hnone => ⟨hw', ?_⟩) ?_
    · rw [← h, ← purged_cons, ← eq_purged hnone hw']
    · intro c hget howned
      refine ⟨⟨hw'.remove, ?_⟩, fun hfaulty _ => hfaulty⟩
      rw [removed_eq_purged hw' hget howned, purged_cons, h]

theorem always_removeOwnedAll (hw : d.host.WellFormed) :
    Always P (fun r d' => match r with
      | .ok () => d' = d.purged agent payload names ∧ ∀ c ∈ d.host.containers, c.name ∈ names →
          agent.belongsToWorkload payload c = true
      | .error _ => Faulty P ∨ ∃ c ∈ d.host.containers, c.name ∈ names ∧
          agent.belongsToWorkload payload c = false)
      (forEach (removeOwned agent payload) names) d := by
  refine always_forEach
    (A := fun names' d' => d'.host.WellFormed ∧
      d'.purged agent payload names' = d.purged agent payload names ∧
      (∀ c ∈ d'.host.containers, c ∈ d.host.containers) ∧ (∀ name ∈ names', name ∈ names) ∧
      ∀ c ∈ d.host.containers, c.name ∈ names → c.name ∉ names' →
        agent.belongsToWorkload payload c = true) ?_ ?_ _ _
    ⟨hw, rfl, fun _ hc => hc, fun _ hname => hname, fun _ _ hname hnot => absurd hname hnot⟩
  · rintro d' ⟨-, h, -, -, howned⟩
    rw [purged_nil] at h
    exact ⟨h, fun c hc hname => howned c hc hname List.not_mem_nil⟩
  · rintro name names' d' ⟨hw', h, hsub, hnames, hall⟩
    have hrest : ∀ name' ∈ names', name' ∈ names :=
      fun name' hname' => hnames name' (List.mem_cons_of_mem _ hname')
    -- A container of another workload is never removed, so it is still found under its name.
    have hdone : (∀ c, d'.host.get? (.name name) = some c →
        agent.belongsToWorkload payload c = true) →
        ∀ c ∈ d.host.containers, c.name ∈ names → c.name ∉ names' →
          agent.belongsToWorkload payload c = true := by
      intro hfound c hc hname hnot
      by_contra hforeign
      have hkept : c ∈ (d'.purged agent payload (name :: names')).host.containers := by
        rw [h]
        exact mem_purged.2 ⟨hc, fun howned => hforeign howned.1⟩
      have hc' := (mem_purged.mp hkept).1
      by_cases hcase : c.name = name
      · exact hforeign (hfound c (hcase ▸ hw'.get?_name hc'))
      · exact hforeign (hall c hc hname (by simp [hcase, hnot]))
    refine always_removeOwned (fun hfaulty _ => .inl hfaulty) ?_ (fun hnone => ?_) ?_
    · intro c hget hforeign x
      obtain ⟨hc, hdenotes⟩ := Host.mem_of_get? hget
      have hnamed : c.name = name := by simpa [Ref.denotes] using hdenotes
      exact .inr ⟨c, hsub c hc, hnamed ▸ hnames name List.mem_cons_self, hforeign⟩
    · have hpurged : d' = d'.purged agent payload [name] :=
        eq_purged (by rw [hnone]; exact fun c hc => by cases hc) hw'
      refine ⟨hw', by rw [← h, ← purged_cons, ← hpurged], hsub, hrest, hdone ?_⟩
      rw [hnone]
      exact fun c hc => by cases hc
    · intro c hget howned
      refine ⟨⟨hw'.remove, ?_, fun c' hc' => hsub c' (Host.mem_remove.mp hc').1, hrest, hdone ?_⟩,
        fun hfaulty _ => .inl hfaulty⟩
      · rw [removed_eq_purged hw' hget howned, purged_cons, h]
      · rw [hget]
        exact fun c' hc' => by cases hc'; exact howned

end Rules

end InitPad.Workload
