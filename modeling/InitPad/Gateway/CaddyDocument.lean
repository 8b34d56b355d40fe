import InitPad.Gateway.CaddyAdmin
import InitPad.Wire.Json

/-!
# InitPad.Gateway.CaddyDocument

`CaddyAdminClient.reconcileRoute` on the whole route document, which other clients of the admin
endpoint change between any two requests. `InitPad.Gateway.CaddyAdmin` has the routes as the
reconciler of the Agent sees them; here a route is the JSON value that it is.
-/

namespace InitPad.Caddy

open Interleave Prog JSON

/-- `value[name]`, for a value that may be no object. -/
def member (v : Value) (name : String) : Value :=
  match v.record? with
  | some fields => field fields name
  | none => .null

def text? : Value → Option String
  | .str s => some s
  | _ => none

def only? : Value → Option Value
  | .arr [v] => some v
  | _ => none

def routeHostname (route : Value) : Option String :=
  (only? (member route "match")).bind fun matcher =>
    matcher.record?.bind fun fields => (only? (field fields "host")).bind text?

def routeUpstream (route : Value) : Option String :=
  match member route "terminal" with
  | .bool true =>
    (only? (member route "handle")).bind fun handler =>
      handler.record?.bind fun record =>
        if text? (field record "handler") = some "reverse_proxy" then
          (only? (field record "upstreams")).bind fun upstream =>
            upstream.record?.bind fun fields => text? (field fields "dial")
        else none
  | _ => none

def managedRoute (intent : CaddyRouteIntent) : Value :=
  .obj
    [("@id", .str intent.id),
      ("match", .arr [.obj [("host", .arr [.str intent.hostname])]]),
      ("handle", .arr [.obj
        [("handler", .str "reverse_proxy"),
          ("upstreams", .arr [.obj [("dial", .str intent.upstream)]])]]),
      ("terminal", .bool true)]

/-- `route['@id'] === id` -/
def hasId (id : String) (route : Value) : Bool := text? (member route "@id") == some id

/-! ## The admin endpoint -/

/-- A route document. The numbers of Caddy are finite doubles, so what `JSON.stringify` writes of a
document is read as the same value. -/
structure Document where
  value : Value
  literal : value.reread = value

/-- An accepted update: the document in force, and the one that replaced it. -/
structure Update where
  before : Document
  written : Document

/-- The endpoint; `etag` gives every document its tag, which is opaque to the client. -/
structure Server (τ : Type) where
  document : Document
  etag : Document → τ
  accepted : List Update := []

/-- What happens around a request: another client replaces the document, and the transport fails or
the server answers with a status. -/
structure Input where
  edit : Option Document := none
  delivered : Bool := true
  failure : Option String := none
  status : Nat := 200
  tagged : Bool := true

/-- An answer; a missing and an empty `ETag` header are both `none`. -/
structure Response (τ : Type) where
  status : Nat
  etag : Option τ
  body : Value

/-- `response.ok` -/
def success (status : Nat) : Bool := decide (200 ≤ status) && decide (status < 300)

inductive AdminCall (τ : Type) : Type → Type 1 where
  | getRoutes : AdminCall τ (Response τ)
  | patchRoutes (ifMatch : τ) (body : List Value) : AdminCall τ Nat

section Endpoint

variable {τ : Type}

def Server.edited (s : Server τ) (i : Input) : Server τ :=
  { s with document := i.edit.getD s.document }

/-- What the endpoint reads from a request body. -/
def parsed (v : Value) : Document := ⟨v.reread, reread_reread v⟩

/-- An accepted `PATCH` replaces the document. -/
def Server.patch (s : Server τ) (body : List Value) : Server τ :=
  { s with
    document := parsed (.arr body)
    accepted := s.accepted ++ [⟨s.document, parsed (.arr body)⟩] }

def answer {β : Type} (i : Input) (b : β) : Except String β :=
  match i.failure with
  | some message => .error message
  | none => .ok b

instance [DecidableEq τ] : Semantics (AdminCall τ) Input (Server τ) String where
  exec
    | .getRoutes, i, s =>
      let s := s.edited i
      (answer i
        { status := i.status
          etag := if i.tagged then some (s.etag s.document) else none
          body := s.document.value }, s)
    | .patchRoutes ifMatch body, i, s =>
      let s := s.edited i
      if i.delivered && s.etag s.document == ifMatch then (answer i i.status, s.patch body)
      else (answer i (if success i.status then 412 else i.status), s)

end Endpoint

/-! ## The client -/

abbrev OnAdmin (τ : Type) (α : Type) : Type 1 := Prog (AdminCall τ) String α

structure Routes (τ : Type) where
  routes : List Value
  etag : τ

section Client

variable {τ : Type}

def readRoutes : OnAdmin τ (Routes τ) := do
  let response ← await .getRoutes
  if !success response.status then
    throw s!"Caddy adapter readiness returned HTTP {response.status}"
  else
    match response.etag with
    | none => throw "Caddy adapter did not provide a configuration ETag"
    | some etag =>
      match response.body with
      | .arr routes =>
        if decide (routes.length > maxRouteCount) || routes.any fun route => route.record?.isNone then
          throw "Caddy adapter returned an invalid route document"
        else pure ⟨routes, etag⟩
      | _ => throw "Caddy adapter returned an invalid route document"

/-- The early returns of `reconcileRoute`. -/
def settled (intent : CaddyRouteIntent) (routes : List Value) : Bool :=
  match routes.filter (hasId intent.id) with
  | [] => !intent.present
  | [route] =>
    intent.present && routeHostname route == some intent.hostname &&
      routeUpstream route == some intent.upstream
  | _ => false

/-- `next` -/
def apply (intent : CaddyRouteIntent) (routes : List Value) : List Value :=
  let next := routes.filter fun route => !hasId intent.id route
  if intent.present then next ++ [managedRoute intent] else next

def verifyRoute (intent : CaddyRouteIntent) : OnAdmin τ Unit := do
  let verified ← readRoutes
  let finalRoute := verified.routes.find? (hasId intent.id)
  if intent.present ∧ routeHostname (finalRoute.getD (.obj [])) ≠ some intent.hostname then
    throw "Caddy did not publish the requested route"
  else if !intent.present ∧ finalRoute.isSome then
    throw "Caddy did not remove the requested route"
  else pure ()

/-- What is left of the loop of `reconcileRoute`. -/
def reconcileAttempts (intent : CaddyRouteIntent) : Nat → OnAdmin τ Unit
  | 0 => throw "Caddy configuration changed concurrently; retry the route operation"
  | attempts + 1 => do
    let current ← readRoutes
    let first := current.routes.find? (hasId intent.id)
    if first.isSome ∧ first.bind routeHostname ≠ some intent.hostname then
      throw "Caddy route identity is already bound to another hostname"
    else if settled intent current.routes then pure ()
    else
      let status ← await (.patchRoutes current.etag (apply intent current.routes))
      if status = 412 then reconcileAttempts intent attempts
      else if !success status then throw s!"Caddy route update returned HTTP {status}"
      else verifyRoute intent

def reconcileRoute (intent : CaddyRouteIntent) : OnAdmin τ Unit :=
  reconcileAttempts intent maxReconcileAttempts

end Client

/-! ## What is written -/

/-- The document holds what the intent asks for: exactly one route of the identity, to the upstream
under the hostname; or no route of the identity. -/
def Satisfies (intent : CaddyRouteIntent) (routes : List Value) : Prop :=
  if intent.present then
    ∃ route, routes.filter (hasId intent.id) = [route] ∧
      routeHostname route = some intent.hostname ∧ routeUpstream route = some intent.upstream
  else ∀ route ∈ routes, hasId intent.id route = false

/-- The update removes the routes of the identity from the document in force and appends the
managed one; the others stay as they are. -/
def Faithful (intent : CaddyRouteIntent) (u : Update) : Prop :=
  ∃ routes, u.before.value = .arr routes ∧
    u.written.value = .arr (routes.filter (fun route => !hasId intent.id route) ++
      if intent.present then [managedRoute intent] else [])

theorem satisfies_of_settled {intent : CaddyRouteIntent} {routes : List Value}
    (h : settled intent routes = true) : Satisfies intent routes := by
  unfold settled at h
  unfold Satisfies
  split at h
  · rename_i hnone
    rw [if_neg (by simpa using h)]
    intro route hroute
    have hall := List.filter_eq_nil_iff.mp hnone route hroute
    simpa using hall
  · rename_i route hone
    simp only [Bool.and_eq_true, beq_iff_eq] at h
    rw [if_pos h.1.1]
    exact ⟨route, hone, h.1.2, h.2⟩
  · cases h

theorem apply_eq (intent : CaddyRouteIntent) (routes : List Value) :
    apply intent routes = routes.filter (fun route => !hasId intent.id route) ++
      if intent.present then [managedRoute intent] else [] := by
  unfold apply
  cases intent.present <;> simp

theorem reread_managedRoute (intent : CaddyRouteIntent) :
    (managedRoute intent).reread = managedRoute intent := rfl

theorem reread_apply {intent : CaddyRouteIntent} {routes : List Value}
    (h : (Value.arr routes).reread = .arr routes) :
    (Value.arr (apply intent routes)).reread = .arr (apply intent routes) := by
  have hitems : routes.map Value.reread = routes := by
    rw [← rereadItems_eq]
    exact Value.arr.inj h
  have hroute : ∀ route ∈ routes, route.reread = route := by
    rw [← List.map_inj_left, hitems, List.map_id']
  have hnext : ∀ route ∈ apply intent routes, route.reread = route := by
    intro route hmem
    rw [apply_eq] at hmem
    rcases List.mem_append.mp hmem with hmem | hmem
    · exact hroute route (List.mem_filter.mp hmem).1
    · split at hmem
      · rw [List.mem_singleton.mp hmem]
        exact reread_managedRoute intent
      · cases hmem
  change Value.arr (rereadItems (apply intent routes)) = _
  rw [rereadItems_eq, List.map_congr_left hnext, List.map_id']

section Calls

abbrev AdminMoment (τ : Type) := Moment (AdminCall τ) Input (Server τ) String

variable {τ : Type} {intent : CaddyRouteIntent} {m m' : AdminMoment τ}

structure Updates (intent : CaddyRouteIntent) (m m' : AdminMoment τ) (us : List Update) : Prop where
  accepted : m'.state.accepted = m.state.accepted ++ us
  faithful : ∀ u ∈ us, Faithful intent u
  etag : m'.state.etag = m.state.etag

theorem Updates.trans {m₁ : AdminMoment τ} {us us' : List Update} (h : Updates intent m m₁ us)
    (h' : Updates intent m₁ m' us') : Updates intent m m' (us ++ us') where
  accepted := by rw [h'.accepted, h.accepted, List.append_assoc]
  faithful u hu := by
    rcases List.mem_append.mp hu with hu | hu
    · exact h.faithful u hu
    · exact h'.faithful u hu
  etag := h'.etag.trans h.etag

theorem answer_ok {β : Type} {i : Input} {b c : β} (h : answer i b = .ok c) : c = b := by
  unfold answer at h
  split at h
  · cases h
  · exact (Except.ok.inj h).symm

variable [DecidableEq τ]

theorem updates_getRoutes (i : Input) : Updates intent m (m.next 0 .getRoutes i) [] where
  accepted := (List.append_nil _).symm
  faithful _ hu := absurd hu List.not_mem_nil
  etag := rfl

theorem ends_readRoutes (intent : CaddyRouteIntent) {r : Except String (Routes τ)} (h : Ends readRoutes m r m') :
    Updates intent m m' [] ∧ ∀ current, r = .ok current →
      m'.state.document.value = .arr current.routes ∧
        m'.state.etag m'.state.document = current.etag := by
  rcases ends_bind.mp h with ⟨response, m₁, hget, h⟩ | ⟨x, hget, rfl⟩
  · obtain ⟨i, hi, rfl⟩ := ends_await.mp hget
    have hresponse := answer_ok hi.symm
    split at h
    · obtain ⟨rfl, rfl⟩ := ends_throw.mp h
      exact ⟨updates_getRoutes i, fun _ hr => by cases hr⟩
    · split at h
      · obtain ⟨rfl, rfl⟩ := ends_throw.mp h
        exact ⟨updates_getRoutes i, fun _ hr => by cases hr⟩
      · rename_i etag hetag
        split at h
        · rename_i routes hbody
          split at h
          · obtain ⟨rfl, rfl⟩ := ends_throw.mp h
            exact ⟨updates_getRoutes i, fun _ hr => by cases hr⟩
          · obtain ⟨rfl, rfl⟩ := ends_pure.mp h
            refine ⟨updates_getRoutes i, fun current hr => ?_⟩
            cases hr
            rw [hresponse] at hetag hbody
            refine ⟨hbody, ?_⟩
            change (if i.tagged then some _ else none) = some etag at hetag
            split at hetag
            · exact Option.some.inj hetag
            · cases hetag
        · obtain ⟨rfl, rfl⟩ := ends_throw.mp h
          exact ⟨updates_getRoutes i, fun _ hr => by cases hr⟩
  · obtain ⟨i, _, rfl⟩ := ends_await.mp hget
    exact ⟨updates_getRoutes i, fun _ hr => by cases hr⟩

theorem exec_patchRoutes (ifMatch : τ) (body : List Value) (i : Input) (s : Server τ) :
    exec (AdminCall.patchRoutes ifMatch body) i s =
      if i.delivered && (s.edited i).etag (s.edited i).document == ifMatch then
        (answer i i.status, (s.edited i).patch body)
      else (answer i (if success i.status then 412 else i.status), s.edited i) :=
  rfl

theorem updates_patchRoutes {routes : List Value} {etag : τ}
    (hinjective : Function.Injective m.state.etag)
    (hdocument : m.state.document.value = .arr routes)
    (hetag : m.state.etag m.state.document = etag) (i : Input) :
    ∃ us, Updates intent m (m.next 0 (.patchRoutes etag (apply intent routes)) i) us ∧
      ∀ status, (exec (AdminCall.patchRoutes etag (apply intent routes)) i m.state).1 =
        .ok status → success status = true → us ≠ [] := by
  by_cases hput : (i.delivered && (m.state.edited i).etag (m.state.edited i).document == etag) = true
  · -- the tags agree, so no other client has replaced the document
    have hsame : (m.state.edited i).document = m.state.document := by
      simp only [Bool.and_eq_true, beq_iff_eq] at hput
      exact hinjective (hput.2.trans hetag.symm)
    have hexec := exec_patchRoutes etag (apply intent routes) i m.state
    rw [if_pos hput] at hexec
    let u : Update := ⟨m.state.document, parsed (.arr (apply intent routes))⟩
    refine ⟨[u], ⟨?_, ?_, ?_⟩, fun _ _ _ => List.cons_ne_nil u []⟩
    · rw [Moment.next_state, hexec]
      change (m.state.edited i).accepted ++ [⟨(m.state.edited i).document, _⟩] = _
      rw [hsame]
      rfl
    · intro u' hu
      rw [List.mem_singleton.mp hu]
      refine ⟨routes, hdocument, ?_⟩
      rw [← apply_eq]
      exact reread_apply (hdocument ▸ m.state.document.literal)
    · rw [Moment.next_state, hexec]
      rfl
  · have hexec := exec_patchRoutes etag (apply intent routes) i m.state
    rw [if_neg hput] at hexec
    refine ⟨[], ⟨?_, fun _ hu => absurd hu List.not_mem_nil, ?_⟩, fun status hstatus hok => ?_⟩
    · rw [Moment.next_state, hexec]
      exact (List.append_nil _).symm
    · rw [Moment.next_state, hexec]
      rfl
    · rw [hexec] at hstatus
      have hrefused := answer_ok hstatus
      rw [hrefused] at hok
      split at hok
      · cases hok
      · rename_i hnot
        exact absurd hok hnot

theorem ends_verifyRoute {r : Except String Unit} (h : Ends (verifyRoute intent) m r m') :
    Updates intent m m' [] := by
  rcases ends_bind.mp h with ⟨verified, m₁, hread, h⟩ | ⟨x, hread, rfl⟩
  · have hupdates := (ends_readRoutes intent hread).1
    dsimp only at h
    split at h
    · obtain ⟨_, rfl⟩ := ends_throw.mp h
      exact hupdates
    · split at h
      · obtain ⟨_, rfl⟩ := ends_throw.mp h
        exact hupdates
      · obtain ⟨_, rfl⟩ := ends_pure.mp h
        exact hupdates
  · exact (ends_readRoutes intent hread).1

/-- The loop: every accepted update is faithful, and without one the document satisfies the
intent. -/
theorem ends_reconcileAttempts {attempts : Nat} {r : Except String Unit}
    (hinjective : Function.Injective m.state.etag)
    (h : Ends (reconcileAttempts intent attempts) m r m') :
    ∃ us, Updates intent m m' us ∧ (r = .ok () → us = [] →
      ∃ routes, m'.state.document.value = .arr routes ∧ Satisfies intent routes) := by
  induction attempts generalizing m with
  | zero =>
    obtain ⟨rfl, rfl⟩ := ends_throw.mp h
    exact ⟨[], ⟨(List.append_nil _).symm, fun _ hu => absurd hu List.not_mem_nil, rfl⟩,
      fun hr => by cases hr⟩
  | succ attempts ih =>
    rcases ends_bind.mp h with ⟨current, m₁, hread, h⟩ | ⟨x, hread, rfl⟩
    · obtain ⟨hupdates, hcurrent⟩ := ends_readRoutes intent hread
      obtain ⟨hdocument, hetag⟩ := hcurrent current rfl
      have hinjective₁ : Function.Injective m₁.state.etag := by
        rw [hupdates.etag]
        exact hinjective
      dsimp only at h
      split at h
      · obtain ⟨rfl, rfl⟩ := ends_throw.mp h
        exact ⟨[], hupdates, fun hr => by cases hr⟩
      · split at h
        · rename_i hsettled
          obtain ⟨_, rfl⟩ := ends_pure.mp h
          exact ⟨[], hupdates, fun _ _ => ⟨_, hdocument, satisfies_of_settled hsettled⟩⟩
        · rcases ends_bind.mp h with ⟨status, m₂, hpatch, h⟩ | ⟨x, hpatch, rfl⟩
          · obtain ⟨i, hi, rfl⟩ := ends_await.mp hpatch
            obtain ⟨us, hus, hsuccess⟩ := updates_patchRoutes hinjective₁ hdocument hetag i
            have hall := hupdates.trans hus
            split at h
            · -- the tag did not match: another attempt
              obtain ⟨us', hus', hr⟩ := ih (by rw [hall.etag]; exact hinjective) h
              refine ⟨[] ++ us ++ us', hall.trans hus', fun hok hnil => hr hok ?_⟩
              exact (List.append_eq_nil_iff.mp hnil).2
            · split at h
              · obtain ⟨rfl, rfl⟩ := ends_throw.mp h
                exact ⟨_, hall, fun hr => by cases hr⟩
              · rename_i hnot
                have hok : success status = true := by simpa using hnot
                refine ⟨_, hall.trans (ends_verifyRoute h), fun _ hnil => ?_⟩
                have hus : us = [] := by simpa using hnil
                exact absurd hus (hsuccess status hi.symm hok)
          · obtain ⟨i, _, rfl⟩ := ends_await.mp hpatch
            obtain ⟨us, hus, _⟩ := updates_patchRoutes hinjective₁ hdocument hetag i
            exact ⟨_, hupdates.trans hus, fun hr => by cases hr⟩
    · exact ⟨[], (ends_readRoutes intent hread).1, fun hr => by cases hr⟩

end Calls

/-- Every update that is accepted during the call changes the document in force only as the intent
says; a call that returns without one has read a document that satisfied the intent. -/
theorem route_update {τ : Type} [DecidableEq τ] {intent : CaddyRouteIntent} {m m' : AdminMoment τ}
    {r : Except String Unit}
    (hetag : Function.Injective m.state.etag) (h : Ends (reconcileRoute intent) m r m') :
    ∃ us, m'.state.accepted = m.state.accepted ++ us ∧ (∀ u ∈ us, Faithful intent u) ∧
      (r = .ok () → us = [] →
        ∃ routes, m'.state.document.value = .arr routes ∧ Satisfies intent routes) := by
  obtain ⟨us, hupdates, hr⟩ := ends_reconcileAttempts hetag h
  exact ⟨us, hupdates.accepted, hupdates.faithful, hr⟩

/-! ## An update without other clients -/

section Undisturbed

variable {τ : Type} [DecidableEq τ] {intent : CaddyRouteIntent} {m : AdminMoment τ}
  {routes : List Value}

/-- The document is accepted by `readRoutes`. -/
structure Valid (routes : List Value) : Prop where
  short : routes.length ≤ maxRouteCount
  records : ∀ route ∈ routes, route.record?.isSome = true

theorem ends_readRoutes_valid (hdocument : m.state.document.value = .arr routes)
    (hvalid : Valid routes) : ∃ m', Ends readRoutes m
      (.ok ⟨routes, m.state.etag m.state.document⟩) m' ∧ m'.state = m.state := by
  refine ⟨m.next 0 .getRoutes {}, ends_bind_ok.mpr ⟨_, _, ends_await.mpr ⟨{}, rfl, rfl⟩, ?_⟩, rfl⟩
  have hinvalid : (decide (routes.length > maxRouteCount) ||
      routes.any fun route => route.record?.isNone) = false := by
    simp only [Bool.or_eq_false_iff, decide_eq_false_iff_not, List.any_eq_false]
    refine ⟨Nat.not_lt.mpr hvalid.short, fun route hroute => ?_⟩
    rw [Option.isNone_iff_eq_none]
    exact Option.isSome_iff_ne_none.mp (hvalid.records route hroute)
  have hbody : (m.state.edited {}).document.value = .arr routes := hdocument
  dsimp only
  rw [hbody]
  simp only [hinvalid]
  exact .ret _ _

theorem ends_patchRoutes {etag : τ} (body : List Value)
    (hetag : m.state.etag m.state.document = etag) :
    ∃ m', Ends (await (.patchRoutes etag body)) m (.ok 200) m' ∧ m'.state = m.state.patch body := by
  have hexec := exec_patchRoutes etag body {} m.state
  have hmatch : (true && (m.state.edited {}).etag (m.state.edited {}).document == etag) = true := by
    simp [Server.edited, hetag]
  rw [if_pos hmatch] at hexec
  refine ⟨m.next 0 (.patchRoutes etag body) {}, ends_await.mpr ⟨{}, ?_, rfl⟩, ?_⟩
  · rw [hexec]
    rfl
  · rw [Moment.next_state, hexec]
    rfl

theorem hasId_managedRoute : hasId intent.id (managedRoute intent) = true := by
  simp [hasId, member, managedRoute, Value.record?, field, text?]

theorem routeHostname_managedRoute :
    routeHostname (managedRoute intent) = some intent.hostname := rfl

theorem find?_apply : (apply intent routes).find? (hasId intent.id) =
    if intent.present then some (managedRoute intent) else none := by
  have hnone : (routes.filter fun route => !hasId intent.id route).find? (hasId intent.id) =
      none := by
    rw [List.find?_eq_none]
    intro route hroute
    simpa using (List.mem_filter.mp hroute).2
  rw [apply_eq, List.find?_append, hnone, Option.none_or]
  split
  · rw [List.find?_cons_of_pos hasId_managedRoute]
  · rfl

theorem valid_apply (hvalid : Valid routes) (hshort : routes.length < maxRouteCount) :
    Valid (apply intent routes) where
  short := by
    rw [apply_eq, List.length_append]
    have hfilter := List.length_filter_le (fun route => !hasId intent.id route) routes
    split
    · rw [List.length_singleton]
      omega
    · rw [List.length_nil]
      omega
  records route hroute := by
    rw [apply_eq] at hroute
    rcases List.mem_append.mp hroute with hroute | hroute
    · exact hvalid.records route (List.mem_filter.mp hroute).1
    · split at hroute
      · rw [List.mem_singleton.mp hroute]
        rfl
      · cases hroute

theorem reconcileRoute_undisturbed (hdocument : m.state.document.value = .arr routes)
    (hvalid : Valid routes) (hshort : routes.length < maxRouteCount)
    (howner : ∀ route, routes.find? (hasId intent.id) = some route →
      routeHostname route = some intent.hostname)
    (hdue : settled intent routes = false) :
    ∃ m', Ends (reconcileRoute intent) m (.ok ()) m' ∧
      m'.state = m.state.patch (apply intent routes) := by
  have hparsed : (parsed (.arr (apply intent routes))).value = .arr (apply intent routes) :=
    reread_apply (hdocument ▸ m.state.document.literal)
  obtain ⟨m₁, hread, hm₁⟩ := ends_readRoutes_valid hdocument hvalid
  obtain ⟨m₂, hpatch, hm₂⟩ := ends_patchRoutes (apply intent routes)
    (show m₁.state.etag m₁.state.document = m.state.etag m.state.document by rw [hm₁])
  rw [hm₁] at hm₂
  have hwritten : m₂.state.document.value = .arr (apply intent routes) := by
    rw [hm₂]
    exact hparsed
  obtain ⟨m₃, hverify, hm₃⟩ := ends_readRoutes_valid hwritten (valid_apply hvalid hshort)
  have hbound : ¬ ((routes.find? (hasId intent.id)).isSome = true ∧
      (routes.find? (hasId intent.id)).bind routeHostname ≠ some intent.hostname) := by
    rintro ⟨hsome, hother⟩
    obtain ⟨route, hroute⟩ := Option.isSome_iff_exists.mp hsome
    rw [hroute] at hother
    exact hother (howner route hroute)
  refine ⟨m₃, ends_bind_ok.mpr ⟨_, m₁, hread, ?_⟩, hm₃.trans hm₂⟩
  dsimp only
  rw [if_neg hbound, if_neg (by rw [hdue]; exact Bool.false_ne_true)]
  refine ends_bind_ok.mpr ⟨200, m₂, hpatch, ends_bind_ok.mpr ⟨_, m₃, hverify, ?_⟩⟩
  dsimp only
  rw [find?_apply]
  cases hpresent : intent.present with
  | true =>
    rw [if_neg (by simp [routeHostname_managedRoute]), if_neg (by simp)]
    exact ends_pure.mpr ⟨rfl, rfl⟩
  | false =>
    rw [if_neg (by simp), if_neg (by simp)]
    exact ends_pure.mpr ⟨rfl, rfl⟩

end Undisturbed

def sampleIntent : CaddyRouteIntent := ⟨"shop", "shop.example", "shop:8080", true⟩

def emptyDocument : Document := ⟨.arr [], rfl⟩

noncomputable instance : DecidableEq Document := Classical.decEq Document

def emptyServer : Server Document := ⟨emptyDocument, id, []⟩

/-- The first route of a server. -/
theorem route_update_first : ∃ (m' : AdminMoment Document) (us : List Update),
    Ends (reconcileRoute sampleIntent) (⟨emptyServer, []⟩ : AdminMoment Document) (.ok ()) m' ∧
      m'.state.accepted = us ∧ us.length = 1 ∧ ∀ u ∈ us, Faithful sampleIntent u := by
  have hdue : settled sampleIntent [] = false := rfl
  obtain ⟨m', hends, hstate⟩ := reconcileRoute_undisturbed
    (m := (⟨emptyServer, []⟩ : AdminMoment Document)) rfl
    ⟨Nat.zero_le _, fun _ h => absurd h List.not_mem_nil⟩ (by decide) (fun _ h => by cases h) hdue
  obtain ⟨us, haccepted, hfaithful, _⟩ := route_update Function.injective_id hends
  refine ⟨m', us, hends, haccepted, ?_, hfaithful⟩
  have hone : m'.state.accepted.length = 1 := by rw [hstate]; rfl
  rw [haccepted] at hone
  exact hone

end InitPad.Caddy
