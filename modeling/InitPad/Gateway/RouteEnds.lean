import InitPad.Gateway.HostRules

/-!
# InitPad.Gateway.RouteEnds

How a route job can end with a restored route: which compensation ran, from where, and that all of
its steps succeeded.
-/

namespace InitPad

open Interleave Prog

def AgentError.compensated : AgentError → Bool
  | .incomplete .. | .restored .. => true
  | _ => false

def Plain {α : Type} (p : OnHost α) : Prop :=
  ∀ m x m', Ends p m (.error x) m' → x.compensated = false

section Plain

variable {α β : Type}

theorem plain_ok (a : α) : Plain (Prog.ret (.ok a) : OnHost α) := by
  intro m x m' h
  exact absurd (ends_ret.mp h).1 nofun

theorem plain_throw {x : AgentError} (hx : x.compensated = false) :
    Plain (throw x : OnHost α) := by
  intro m x' m' h
  cases (ends_throw.mp h).1
  exact hx

theorem plain_bind {p : OnHost α} {f : α → OnHost β} (hp : Plain p) (hf : ∀ a, Plain (f a)) :
    Plain (p >>= f) := by
  intro m x m' h
  rcases ends_bind.mp h with ⟨a, m₁, _, h⟩ | ⟨x', h, hx⟩
  · exact hf a m₁ x m' h
  · cases hx
    exact hp m x m' h

theorem plain_await (e : HostStmt α) : Plain (await e : OnHost α) := by
  intro m x m' h
  obtain ⟨i, hx, _⟩ := ends_await.mp h
  obtain ⟨trouble, aborted⟩ := i
  cases e with
  | http c =>
    change Except.error x = HostInput.response ⟨trouble, aborted⟩ c m.state at hx
    unfold HostInput.response at hx
    split at hx
    · cases hx; rfl
    · split at hx <;> cases hx
    · cases hx
  | report progress =>
    simp only [Semantics.exec, HostStmt.run] at hx
    split at hx <;> cases hx <;> rfl
  | readAborted => cases hx
  | sleep => cases hx

theorem plain_report (percent : Nat) (verifying : Bool) (message : String) :
    Plain (report percent verifying message) := plain_await _

theorem plain_readRoutes : Plain readRoutes := by
  refine plain_bind (plain_await _) fun response => ?_
  split
  · exact plain_throw rfl
  · split
    · exact plain_throw rfl
    · split
      · exact plain_throw rfl
      · exact plain_ok _

theorem plain_currentRoute {id hostname : String} : Plain (currentRoute id hostname) := by
  refine plain_bind plain_readRoutes fun current => ?_
  split
  · exact plain_ok _
  · split
    · exact plain_throw rfl
    · split
      · exact plain_throw rfl
      · exact plain_ok _
  · exact plain_throw rfl

end Plain

section Ends

variable {agent : GatewayAgent} {payload : GatewayRoutePayload} {m m' : HostMoment}
  {cause : String} {serving : Bool}

theorem failureOf_ok {p : OnHost Unit} {failures : List String}
    (h : Ends (failureOf p) m (.ok failures) m') :
    (failures = [] ∧ Ends p m (.ok ()) m') ∨ failures ≠ [] := by
  rcases ends_tryCatch.mp h with ⟨a, h, ha⟩ | ⟨x, m₁, _, h⟩
  · cases ha
    obtain ⟨⟨⟩, m₁, hp, h⟩ := ends_bind_ok.mp h
    obtain ⟨ha, rfl⟩ := ends_pure.mp h
    exact .inl ⟨Except.ok.inj ha, hp⟩
  · cases (ends_pure.mp h).1
    exact .inr (List.cons_ne_nil _ _)

theorem failureOf_error {p : OnHost Unit} {x : AgentError} :
    ¬ Ends (failureOf p) m (.error x) m' := by
  intro h
  rcases ends_tryCatch.mp h with ⟨a, _, ha⟩ | ⟨x', m₁, _, h⟩
  · cases ha
  · exact absurd (ends_pure.mp h).1 nofun

theorem failureOf_if {condition : Prop} [Decidable condition] {p : OnHost Unit}
    {failures : List String}
    (h : Ends (if condition then failureOf p else pure []) m (.ok failures) m')
    (hnone : failures = []) : (condition ∧ Ends p m (.ok ()) m') ∨ (¬ condition ∧ m' = m) := by
  split at h
  · rename_i hc
    rcases failureOf_ok h with ⟨_, h⟩ | hne
    · exact .inl ⟨hc, h⟩
    · exact absurd hnone hne
  · rename_i hc
    exact .inr ⟨hc, (ends_pure.mp h).2⟩

theorem rollbackActivation_restored {previous attempted : Option String} {error : AgentError}
    (h : Ends (agent.rollbackActivation payload previous attempted error) m
      (.error (.restored cause serving)) m') :
    cause = error.message ∧ serving = previous.isSome ∧ ∃ m₁ m₂,
      Ends (reconcileRoute (caddyIntent payload ((previous.or attempted).getD inactiveUpstream)
        previous.isSome)) m (.ok ()) m₁ ∧
      (((previous.isNone ∨ previous ≠ attempted) ∧ Ends (agent.rollback payload) m₁ (.ok ()) m₂) ∨
        (¬ (previous.isNone ∨ previous ≠ attempted) ∧ m₂ = m₁)) ∧
      ((previous.isNone ∧ Ends (agent.disconnect payload) m₂ (.ok ()) m') ∨
        (¬ previous.isNone ∧ m' = m₂)) := by
  have hskip : ∀ {condition : Prop} [Decidable condition] {p : OnHost Unit} {m m' : HostMoment}
      {x : AgentError},
      ¬ Ends (if condition then failureOf p else pure []) m (.error x) m' := by
    intro condition _ p m m' x h
    split at h
    · exact failureOf_error h
    · exact absurd (ends_pure.mp h).1 nofun
  rcases ends_bind.mp h with ⟨restored, m₁, hrestored, h⟩ | ⟨x, hx, _⟩
  · rcases ends_bind.mp h with ⟨discarded, m₂, hdiscarded, h⟩ | ⟨x, hx, _⟩
    · rcases ends_bind.mp h with ⟨disconnected, m₃, hdisconnected, h⟩ | ⟨x, hx, _⟩
      · dsimp only at h
        split at h
        · exact absurd (ends_throw.mp h).1 nofun
        · rename_i hnone
          obtain ⟨hx, rfl⟩ := ends_throw.mp h
          cases hx
          simp only [ne_eq, not_not, List.append_eq_nil_iff] at hnone
          obtain ⟨⟨hnone, hnone'⟩, hnone''⟩ := hnone
          refine ⟨rfl, rfl, m₁, m₂, ?_, failureOf_if hdiscarded hnone',
            failureOf_if hdisconnected hnone''⟩
          rcases failureOf_ok hrestored with ⟨_, h⟩ | hne
          · exact h
          · exact absurd hnone hne
      · exact absurd hx hskip
    · exact absurd hx hskip
  · exact absurd hx failureOf_error

theorem run_restored
    (h : Ends (agent.run payload) m (.error (.restored cause serving)) m') :
    (payload.desiredState = .active ∧ ∃ m₁ m₂ m₃ m₄ previous attempt error,
      Ends (report 20 false "Validated bounded gateway route intent") m (.ok ()) m₁ ∧
      Ends (report 40 false "Connecting gateway to the owned workload network") m₁ (.ok ()) m₂ ∧
      Ends (currentRoute (caddyRouteId payload) payload.hostname) m₂ (.ok previous) m₃ ∧
      Ends (agent.activate payload) m₃ (.ok attempt) m₄ ∧ attempt.failure = some error ∧
      Ends (agent.rollbackActivation payload previous attempt.upstream error) m₄
        (.error (.restored cause serving)) m') ∨
    (payload.desiredState ≠ .active ∧ ∃ m₁ m₂ m₃ previous error,
      Ends (report 20 false "Validated bounded gateway route intent") m (.ok ()) m₁ ∧
      Ends (currentRoute (caddyRouteId payload) payload.hostname) m₁ (.ok previous) m₂ ∧
      Ends (agent.deactivate payload) m₂ (.error error) m₃ ∧
      Ends (restoreInactiveRoute payload previous error) m₃
        (.error (.restored cause serving)) m') := by
  have hplain : ∀ {α : Type} {p : OnHost α} {m : HostMoment} {x : AgentError}, Plain p →
      Ends p m (.error x) m' → Except.error (.restored cause serving) ≠ (.error x : Except _ Bool) :=
    fun hp hx heq => by cases heq; exact Bool.noConfusion (hp _ _ _ hx)
  rcases ends_bind.mp h with ⟨⟨⟩, m₁, hreport, h⟩ | ⟨x, hx, heq⟩
  · split at h
    · rename_i hactive
      refine .inl ⟨hactive, ?_⟩
      rcases ends_bind.mp h with ⟨⟨⟩, m₂, hreport', h⟩ | ⟨x, hx, heq⟩
      · rcases ends_bind.mp h with ⟨previous, m₃, hcurrent, h⟩ | ⟨x, hx, heq⟩
        · rcases ends_bind.mp h with ⟨attempt, m₄, hactivate, h⟩ | ⟨x, hx, heq⟩
          · split at h
            · rename_i error hfailure
              refine ⟨m₁, m₂, m₃, m₄, previous, attempt, error, hreport, hreport', hcurrent,
                hactivate, hfailure, ?_⟩
              rcases ends_bind.mp h with ⟨⟨⟩, m₅, _, h⟩ | ⟨x, hx, heq⟩
              · exact absurd (ends_pure.mp h).1 nofun
              · cases heq
                exact hx
            · rcases ends_bind.mp h with ⟨⟨⟩, m₅, _, h⟩ | ⟨x, hx, heq⟩
              · rcases ends_bind.mp h with ⟨complete, m₆, _, h⟩ | ⟨x, hx, heq⟩
                · rcases ends_bind.mp h with ⟨⟨⟩, m₇, _, h⟩ | ⟨x, hx, heq⟩
                  · exact absurd (ends_pure.mp h).1 nofun
                  · exact absurd heq (hplain (plain_report _ _ _) hx)
                · rcases ends_tryCatch.mp hx with ⟨_, _, hok⟩ | ⟨_, _, _, h⟩
                  · cases hok
                  · exact absurd (ends_pure.mp h).1 nofun
              · exact absurd heq (hplain (plain_report _ _ _) hx)
          · rcases ends_tryCatch.mp hx with ⟨_, _, hok⟩ | ⟨_, _, _, h⟩
            · cases hok
            · exact absurd (ends_pure.mp h).1 nofun
        · exact absurd heq (hplain plain_currentRoute hx)
      · exact absurd heq (hplain (plain_report _ _ _) hx)
    · rename_i hinactive
      refine .inr ⟨hinactive, ?_⟩
      rcases ends_bind.mp h with ⟨previous, m₂, hcurrent, h⟩ | ⟨x, hx, heq⟩
      · rcases ends_bind.mp h with ⟨⟨⟩, m₃, _, h⟩ | ⟨x, hx, heq⟩
        · rcases ends_bind.mp h with ⟨⟨⟩, m₄, _, h⟩ | ⟨x, hx, heq⟩
          · exact absurd (ends_pure.mp h).1 nofun
          · exact absurd heq (hplain (plain_report _ _ _) hx)
        · cases heq
          rcases ends_tryCatch.mp hx with ⟨_, _, hok⟩ | ⟨error, m₃, hdeactivate, h⟩
          · cases hok
          · exact ⟨m₁, m₂, m₃, previous, error, hreport, hcurrent, hdeactivate, h⟩
      · exact absurd heq (hplain plain_currentRoute hx)
  · exact absurd heq (hplain (plain_report _ _ _) hx)

theorem restoreInactiveRoute_restored {previous : Option String} {error : AgentError}
    (h : Ends (restoreInactiveRoute payload previous error) m (.error (.restored cause serving)) m') :
    cause = error.message ∧ serving = true ∧ ∃ upstream, previous = some upstream ∧
      Ends (reconcileRoute (caddyIntent payload upstream true)) m (.ok ()) m' := by
  unfold restoreInactiveRoute at h
  split at h
  · exact absurd (ends_throw.mp h).1 nofun
  · rename_i upstream
    rcases ends_bind.mp h with ⟨⟨⟩, m₁, hrestore, h⟩ | ⟨x, hx, heq⟩
    · obtain ⟨heq, rfl⟩ := ends_throw.mp h
      cases heq
      rcases ends_tryCatch.mp hrestore with ⟨⟨⟩, hok, _⟩ | ⟨x, m₂, _, h⟩
      · exact ⟨rfl, rfl, upstream, rfl, hok⟩
      · exact absurd (ends_throw.mp h).1 nofun
    · cases heq
      rcases ends_tryCatch.mp hx with ⟨_, _, hok⟩ | ⟨x, m₂, _, h⟩
      · cases hok
      · exact absurd (ends_throw.mp h).1 nofun

end Ends

end InitPad
