import InitPad.Gateway.CaddyDocument

/-!
# InitPad.Gateway.RouteOwners

The updates of any number of clients on one route document: the last update of an identity decides
its route, and the routes that no update names stay as they are.
-/

namespace InitPad.Caddy

open JSON

/-- Accepted updates in order, each with the intent that it serves. -/
inductive Chain : Document → List (CaddyRouteIntent × Update) → Document → Prop where
  | nil (d : Document) : Chain d [] d
  | cons {intent : CaddyRouteIntent} {u : Update} {us : List (CaddyRouteIntent × Update)}
      {d : Document} : Faithful intent u → Chain u.written us d → Chain u.before ((intent, u) :: us) d

variable {intent : CaddyRouteIntent} {routes routes' : List Value} {p : Value → Bool}
  {d d' : Document} {us : List (CaddyRouteIntent × Update)}

theorem filter_apply (hp : ∀ route, hasId intent.id route = true → p route = false) :
    (apply intent routes).filter p = routes.filter p := by
  have hmanaged : (if intent.present then [managedRoute intent] else []).filter p = [] := by
    split
    · exact List.filter_cons_of_neg (by simp [hp _ hasId_managedRoute])
    · rfl
  rw [apply_eq, List.filter_append, hmanaged, List.append_nil, List.filter_filter]
  refine List.filter_congr fun route _ => ?_
  by_cases hid : hasId intent.id route = true
  · rw [hp route hid, Bool.false_and]
  · rw [Bool.eq_false_iff.mpr hid, Bool.not_false, Bool.and_true]

theorem Chain.filter (h : Chain d us d') (hd : d.value = .arr routes)
    (hp : ∀ x ∈ us, ∀ route, hasId x.1.id route = true → p route = false) :
    ∃ routes', d'.value = .arr routes' ∧ routes'.filter p = routes.filter p := by
  induction h generalizing routes with
  | nil => exact ⟨routes, hd, rfl⟩
  | cons hfaithful _ ih =>
    obtain ⟨before, hbefore, hwritten⟩ := hfaithful
    obtain rfl := Value.arr.inj (hbefore.symm.trans hd)
    rw [← apply_eq] at hwritten
    obtain ⟨routes', hroutes', hkept⟩ := ih hwritten fun x hx => hp x (List.mem_cons_of_mem _ hx)
    exact ⟨routes', hroutes', hkept.trans (filter_apply (hp _ List.mem_cons_self))⟩

end InitPad.Caddy
