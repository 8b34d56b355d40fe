import InitPad.Gateway.RestoredPath
import InitPad.Runs.Requests

/-!
# InitPad.Gateway.RouteOutcome

What the control plane learns of a failed route change. The Agent reports the message of its error,
cut to 240 code units; the projection of the job looks for two phrases in it. The outcome arrives
if and only if the phrase is not cut off, and no other text of the message contains one.
-/

namespace InitPad

open Interleave Prog

structure RouteCompletion where
  succeeded : Bool
  message : String
  resultCode : String
  deriving DecidableEq

/-- The end of a `gateway-route` job in `executeClaimedJob`: what is sent to `complete`, if
anything. A job that was interrupted, or whose lease could not be renewed, is not completed; neither
is one that the control plane has refused. -/
def completeRouteJob (payload : GatewayRoutePayload) (aborted : Bool)
    (renewalError : Option AgentError) (result : Except AgentError Bool) :
    Option RouteCompletion :=
  if aborted ∨ renewalError.isSome then none
  else
    match result with
    | .error (.controlPlane _) => none
    | .error error => some ⟨false, sliceUnits 240 error.message, "gateway_route_failed"⟩
    | .ok false => some ⟨true, s!"Gateway route generation {payload.generation} is active; " ++
        "superseded workload cleanup is pending", "ok_cleanup_pending"⟩
    | .ok true =>
      let state := match payload.desiredState with
        | .active => "active"
        | .stopped => "stopped"
        | .absent => "absent"
      some ⟨true, s!"Gateway route generation {payload.generation} reconciled to {state}", "ok"⟩

/-- How the Agent ended. -/
def AgentError.rollback : AgentError → RouteRollback
  | .restored _ true => .serving
  | .restored _ false => .stopped
  | _ => .unknown

def servingPhrase : String := "previous serving route restored"
def stoppedPhrase : String := "previous gateway state restored"

theorem toList_servingPhrase : servingPhrase.toList =
    ['p', 'r', 'e', 'v', 'i', 'o', 'u', 's', ' ', 's', 'e', 'r', 'v', 'i', 'n', 'g', ' ',
      'r', 'o', 'u', 't', 'e', ' ', 'r', 'e', 's', 't', 'o', 'r', 'e', 'd'] :=
  toList_of_letters rfl

theorem toList_stoppedPhrase : stoppedPhrase.toList =
    ['p', 'r', 'e', 'v', 'i', 'o', 'u', 's', ' ', 'g', 'a', 't', 'e', 'w', 'a', 'y', ' ',
      's', 't', 'a', 't', 'e', ' ', 'r', 'e', 's', 't', 'o', 'r', 'e', 'd'] :=
  toList_of_letters rfl

def quotes (phrase text : String) : Bool := containsText (sliceUnits 240 text) phrase

/-- The message leaves room for its last 33 characters, and no error text in it has a phrase of
another outcome. -/
def Legible : AgentError → Prop
  | .restored cause true => unitCount cause.toList + 33 ≤ 240 ∨ quotes servingPhrase cause = true
  | .restored cause false => quotes servingPhrase cause = false ∧
      (unitCount cause.toList + 33 ≤ 240 ∨ quotes stoppedPhrase cause = true)
  | error => quotes servingPhrase error.message = false ∧ quotes stoppedPhrase error.message = false

def failureReason (job : AgentJob) : String :=
  (job.message.filter fun m => !m.isEmpty).getD "Agent operation failed"

section Phrases

variable {phrase cause : List Char}

/-- A phrase in a message that ends with `; ending` and is cut: it is in the cause, or the whole
ending has room and has it. -/
theorem infix_cut_iff {ending : List Char} (hsemicolon : ';' ∉ phrase)
    (hnarrow : ∀ c ∈ ending, charUnits c = 1)
    (hending : ∀ k, phrase <:+: (' ' :: ending).take k → ending.length < k) :
    phrase <:+: takeUnits 240 (cause ++ ';' :: ' ' :: ending) ↔
      phrase <:+: takeUnits 240 cause ∨
        (unitCount cause + (ending.length + 2) ≤ 240 ∧ phrase <:+: ' ' :: ending) := by
  have hwide : ∀ c ∈ ';' :: ' ' :: ending, charUnits c = 1 := by
    simpa using ⟨by decide, by decide, hnarrow⟩
  rcases Nat.lt_or_ge (unitCount cause) 240 with hlt | hge
  · obtain ⟨k, hk⟩ : ∃ k, 240 - unitCount cause = k + 1 := ⟨239 - unitCount cause, by omega⟩
    rw [takeUnits_append (Nat.le_of_lt hlt), takeUnits_of_le (Nat.le_of_lt hlt),
      takeUnits_narrow hwide, hk, List.take_succ_cons]
    constructor
    · intro h
      rcases infix_of_separated hsemicolon h with h | h
      · exact .inl h
      · have := hending k h
        exact .inr ⟨by omega, h.trans (List.take_prefix _ _).isInfix⟩
    · rintro (h | ⟨hroom, h⟩)
      · exact h.trans (List.prefix_append _ _).isInfix
      · rw [List.take_of_length_le (by simp; omega)]
        exact h.trans ((List.suffix_cons _ _).trans (List.suffix_append _ _)).isInfix
  · rw [takeUnits_append_full hge]
    exact ⟨.inl, fun h => h.resolve_right fun hroom => by omega⟩

theorem infix_own_ending {phrase : List Char} {n : Nat} (hlen : phrase.length = n)
    (hne : (' ' :: phrase).take n ≠ phrase) (k : Nat) (h : phrase <:+: (' ' :: phrase).take k) :
    phrase.length < k := by
  have hle := h.length_le
  rw [List.length_take, List.length_cons] at hle
  rcases Nat.lt_or_ge phrase.length k with hlt | hge
  · exact hlt
  · obtain rfl : k = n := by omega
    have heq := h.eq_of_length (by rw [List.length_take, List.length_cons]; omega)
    exact absurd heq.symm hne

end Phrases

section Outcome

variable {agent : GatewayAgent} {payload : GatewayRoutePayload} {m m' : HostMoment}
  {error : AgentError} {cause : String} {serving : Bool}

theorem narrow_of_all {text : List Char} (h : (text.all fun c => charUnits c == 1) = true) :
    ∀ c ∈ text, charUnits c = 1 := fun c hc => by
  simpa using List.all_eq_true.mp h c hc

theorem quotes_iff {phrase text : String} :
    quotes phrase text = true ↔ phrase.toList <:+: takeUnits 240 text.toList := by
  unfold quotes containsText sliceUnits
  refine decide_eq_true_iff.trans ?_
  rw [String.toList_ofList]

theorem toList_restored {ending : String} :
    (cause ++ "; " ++ ending).toList = cause.toList ++ ';' :: ' ' :: ending.toList := by
  rw [String.toList_append, String.toList_append, List.append_assoc]
  rfl

theorem quotes_own {ending : String} (hlen : ending.toList.length = 31)
    (hne : (' ' :: ending.toList).take 31 ≠ ending.toList) (hsemicolon : ';' ∉ ending.toList)
    (hnarrow : ∀ c ∈ ending.toList, charUnits c = 1) :
    quotes ending (cause ++ "; " ++ ending) = true ↔
      unitCount cause.toList + 33 ≤ 240 ∨ quotes ending cause = true := by
  rw [quotes_iff, quotes_iff, toList_restored,
    infix_cut_iff hsemicolon hnarrow (infix_own_ending hlen hne), hlen, or_comm]
  exact or_congr_left (and_iff_left (List.suffix_cons _ _).isInfix)

theorem quotes_other {phrase ending : String} (hother : ¬ phrase.toList <:+: ' ' :: ending.toList)
    (hsemicolon : ';' ∉ phrase.toList) (hnarrow : ∀ c ∈ ending.toList, charUnits c = 1) :
    quotes phrase (cause ++ "; " ++ ending) = true ↔ quotes phrase cause = true := by
  rw [quotes_iff, quotes_iff, toList_restored, infix_cut_iff hsemicolon hnarrow fun k h =>
    absurd (h.trans (List.take_prefix _ _).isInfix) hother]
  exact or_iff_left fun h => hother h.2

theorem message_restored (cause : String) (serving : Bool) :
    (AgentError.restored cause serving).message =
      cause ++ "; " ++ (if serving then servingPhrase else stoppedPhrase) := by
  rw [String.append_assoc]
  cases serving <;> rfl

def classify (message : String) : RouteRollback :=
  if quotes servingPhrase message then .serving
  else if quotes stoppedPhrase message then .stopped
  else .unknown

theorem classify_iff (error : AgentError) :
    classify error.message = error.rollback ↔ Legible error := by
  have hunknown : ∀ message, classify message = .unknown ↔
      quotes servingPhrase message = false ∧ quotes stoppedPhrase message = false := by
    intro message
    unfold classify
    cases quotes servingPhrase message <;> cases quotes stoppedPhrase message <;> simp
  have hserving := toList_servingPhrase
  have hstopped := toList_stoppedPhrase
  have hnarrow_serving : ∀ c ∈ servingPhrase.toList, charUnits c = 1 :=
    narrow_of_all (by rw [hserving]; decide)
  have hnarrow_stopped : ∀ c ∈ stoppedPhrase.toList, charUnits c = 1 :=
    narrow_of_all (by rw [hstopped]; decide)
  cases error with
  | restored cause serving =>
    cases serving with
    | true =>
      have hown : quotes servingPhrase (cause ++ "; " ++ servingPhrase) = true ↔ _ :=
        quotes_own (by simp [hserving]) (by rw [hserving]; decide) (by simp [hserving])
          hnarrow_serving
      rw [message_restored, if_pos rfl, Legible, ← hown, classify, AgentError.rollback]
      cases quotes servingPhrase (cause ++ "; " ++ servingPhrase) with
      | true => simp
      | false => cases quotes stoppedPhrase (cause ++ "; " ++ servingPhrase) <;> simp
    | false =>
      have hown : quotes stoppedPhrase (cause ++ "; " ++ stoppedPhrase) = true ↔ _ :=
        quotes_own (by simp [hstopped]) (by rw [hstopped]; decide) (by simp [hstopped])
          hnarrow_stopped
      -- the letter `n` is in `serving` only
      have hn : ¬ servingPhrase.toList <:+: ' ' :: stoppedPhrase.toList := by
        intro h
        have hletter : 'n' ∈ ' ' :: stoppedPhrase.toList := h.subset (by simp [hserving])
        rw [hstopped] at hletter
        exact absurd hletter (by decide)
      have hother : quotes servingPhrase (cause ++ "; " ++ stoppedPhrase) = true ↔ _ :=
        quotes_other hn (by simp [hserving]) hnarrow_stopped
      rw [message_restored, if_neg Bool.false_ne_true, Legible, ← hown, ← Bool.not_eq_true,
        ← hother, classify, AgentError.rollback]
      cases quotes servingPhrase (cause ++ "; " ++ stoppedPhrase) with
      | true => simp
      | false => cases quotes stoppedPhrase (cause ++ "; " ++ stoppedPhrase) <;> simp
  | thrown failure => exact hunknown _
  | controlPlane message => exact hunknown _
  | incomplete cause failures => exact hunknown _

theorem routeRollback_of_message {job : AgentJob} {message : String} (hkind : job.kind = .gatewayRoute)
    (hmessage : job.message = some (sliceUnits 240 message)) :
    routeRollback job (failureReason job) = some (classify message) := by
  have hempty : ∀ phrase : String, phrase.toList ≠ [] → (sliceUnits 240 message).isEmpty = true →
      containsText (sliceUnits 240 message) phrase = false := by
    intro phrase hphrase h
    rw [String.isEmpty_iff.mp h]
    exact decide_eq_false fun h => hphrase (List.infix_nil.mp h)
  have hreason : ∀ phrase : String, phrase.toList ≠ [] →
      containsText "Agent operation failed" phrase = false →
      containsText (failureReason job) phrase = quotes phrase message := by
    intro phrase hphrase hdefault
    unfold failureReason quotes
    rw [hmessage]
    cases h : (sliceUnits 240 message).isEmpty with
    | true =>
      rw [Option.filter_some, if_neg (by rw [h]; decide), hempty phrase hphrase h]
      exact hdefault
    | false =>
      rw [Option.filter_some, if_pos (by rw [h]; decide)]
      rfl
  -- the text for an empty message has no `v`
  have hdefault : ∀ phrase : String, 'v' ∈ phrase.toList →
      containsText "Agent operation failed" phrase = false := by
    intro phrase hletter
    refine decide_eq_false fun h => ?_
    have := h.subset hletter
    rw [toList_of_letters (rfl : "Agent operation failed" = String.ofList _)] at this
    exact absurd this (by decide)
  unfold routeRollback classify
  rw [if_pos hkind, hreason _ (by simp) (hdefault _ (by simp)),
    hreason _ (by simp) (hdefault _ (by simp))]
  unfold servingPhrase stoppedPhrase
  split
  · rfl
  · split <;> rfl

theorem completeRouteJob_error {completion : RouteCompletion}
    (h : completeRouteJob payload false none (.error error) = some completion) :
    completion.message = sliceUnits 240 error.message := by
  cases error with
  | controlPlane => cases h
  | _ => cases h; rfl

theorem run_restored_route
    (h : Ends (agent.run payload) m (.error (.restored cause serving)) m') :
    m'.state.caddy.upstreams (caddyRouteId payload) =
      m.state.caddy.upstreams (caddyRouteId payload) := by
  have hreport : ∀ {percent verifying message} {m m' : HostMoment},
      Ends (report percent verifying message) m (.ok ()) m' → m'.state = m.state := by
    intro percent verifying message m m' h
    obtain ⟨i, _, rfl⟩ := ends_await.mp h
    rfl
  rcases run_restored h with ⟨_, m₁, m₂, m₃, m₄, previous, attempt, error, h₁, h₂, h₃, _, _, h₄⟩ |
      ⟨_, m₁, m₂, m₃, previous, error, h₁, h₂, _, h₃⟩
  · obtain ⟨_, _, m₅, m₆, hroute, hdiscard, hdisconnect⟩ := rollbackActivation_restored h₄
    have hcaddy : m'.state.caddy = m₅.state.caddy := by
      have hdiscard' : m₆.state.caddy = m₅.state.caddy := by
        rcases hdiscard with ⟨_, h⟩ | ⟨_, rfl⟩
        · exact confined_rollback.caddy (by decide) h
        · rfl
      rcases hdisconnect with ⟨_, h⟩ | ⟨_, rfl⟩
      · rw [confined_disconnect.caddy (by decide) h, hdiscard']
      · exact hdiscard'
    have hrestored : m₅.state.caddy.upstreams (caddyRouteId payload) = _ := reconcileRoute_ok hroute
    rw [hcaddy, hrestored, ← hreport h₁, ← hreport h₂, (currentRoute_ok h₃).1]
    cases previous <;> rfl
  · obtain ⟨_, _, upstream, rfl, hroute⟩ := restoreInactiveRoute_restored h₃
    have hrestored : m'.state.caddy.upstreams (caddyRouteId payload) = [some upstream] :=
      reconcileRoute_ok hroute
    rw [hrestored, ← hreport h₁, (currentRoute_ok h₂).1]
    rfl

def ServesRevision (v : TerminalView) : Prop :=
  ∃ route, v.route = some route ∧ route.observedState = .active ∧
    route.observedRevision = v.environment.version ∧
      route.observedRevision.any (fun s => !s.isEmpty) = true

theorem managedFailure_serving {v : TerminalView} (h : ServesRevision v) (reason : String)
    (rollback : RouteRollback) :
    (managedFailure v reason (some rollback)).1.status = some .running ↔ rollback = .serving := by
  obtain ⟨route, hroute, hstate, hrevision, hnonempty⟩ := h
  have hstopped : previousStillStopped v (some rollback) = none := by
    rw [previousStillStopped, hroute, Option.filter_some, if_neg (by simp [hstate])]
  have hserving : previousStillServing v (some rollback) =
      if rollback = .serving then some route else none := by
    rw [previousStillServing, hroute, Option.filter_some]
    simp [hstate, ← hrevision, hnonempty]
  unfold managedFailure
  rw [hstopped, hserving]
  split <;> simp_all

/-- For every way in which a route job fails: the projection of its message is the outcome of the
Agent if and only if the message is legible; and an environment whose revision the Agent has
restored stays running under the same condition. A reported restoration is true of the route. -/
theorem route_outcome (h : Ends (agent.run payload) m (.error error) m')
    {completion : RouteCompletion} {v : TerminalView}
    (hcompletion : completeRouteJob payload false none (.error error) = some completion)
    (hkind : v.job.kind = .gatewayRoute) (hmessage : v.job.message = some completion.message) :
    (routeRollback v.job (failureReason v.job) = some error.rollback ↔ Legible error) ∧
    (∀ cause, error = .restored cause true → ServesRevision v →
      ((managedFailure v (failureReason v.job)
        (routeRollback v.job (failureReason v.job))).1.status = some .running ↔ Legible error)) ∧
    (∀ cause serving, error = .restored cause serving →
      m'.state.caddy.upstreams (caddyRouteId payload) =
        m.state.caddy.upstreams (caddyRouteId payload)) := by
  rw [completeRouteJob_error hcompletion] at hmessage
  rw [routeRollback_of_message hkind hmessage]
  refine ⟨?_, ?_, ?_⟩
  · rw [Option.some.injEq]
    exact classify_iff error
  · rintro cause rfl hserves
    rw [managedFailure_serving hserves]
    exact classify_iff (.restored cause true)
  · rintro cause serving rfl
    exact run_restored_route h

end Outcome

/-! The serving revision `v1` is to be replaced by `v2`. -/

def nextPayload : GatewayRoutePayload :=
  { servingPayload with revision := some "v2", workloadSlot := some "222222222222" }

def nextWorkload : Container where
  id := String.ofList (List.replicate 64 'c')
  names := ["/initpad-team-a0123456789ab-shop-dev-rev-222222222222"]
  image := none
  running := true
  labels := sampleLabels ++
    [("com.initpad.revision", "v2"), ("com.initpad.workload.slot", "222222222222")]

def nextHost : GatewayHost :=
  { servingHost with
    containers := [gatewayContainer, servingWorkload, nextWorkload]
    networks := [⟨"net-team-a0123456789ab-shop-dev", sampleLabels,
      [gatewayContainer.id, servingWorkload.id, nextWorkload.id]⟩] }

def refusedNetwork (detail : String) : List HostInput :=
  List.replicate 5 working ++ [{ trouble := some (.refused 500 detail false) }] ++
    List.replicate 3 working

/-- The failed job as the control plane sees it. -/
def failedRouteView (message : String) : TerminalView where
  job := { sampleJob .gatewayRoute (some 1) with status := .failed, message := some message }
  operation := sampleOperation .redeploy
  environment := gatewayEnvironment
  target := none
  route := some { reservedRoute with
    observedState := .active
    observedRevision := some sampleCommit }
  allocation := none

theorem failedRouteView_serves (message : String) : ServesRevision (failedRouteView message) :=
  ⟨_, rfl, rfl, rfl, by simp [sampleCommit]⟩

/-- What `connect` throws then. -/
def refusedError (detail : String) : AgentError :=
  dockerError (⟨500, detail, none⟩ : Response WorkloadNetwork) "inspect workload network"

theorem run_refusedNetwork (detail : String) : ∃ m',
    Ends (hostAgent.run nextPayload) ⟨nextHost, []⟩
      (.error (.restored (refusedError detail).message true)) m' := by
  have hresult : ((hostAgent.run nextPayload).perform (refusedNetwork detail)
      ⟨nextHost, []⟩).map Prod.fst = some (.error (.restored (refusedError detail).message true)) :=
    rfl
  obtain ⟨⟨r, m'⟩, hperform, rfl⟩ := Option.map_eq_some_iff.mp hresult
  exact ⟨m', ends_of_perform hperform⟩

def refusedPrefix : String := "Docker API inspect workload network returned HTTP 500: "

theorem unitCount_refusedPrefix : unitCount refusedPrefix.toList = 55 := by
  rw [toList_of_letters (rfl : refusedPrefix = String.ofList _)]
  rfl

theorem unitCount_replicate (n : Nat) : unitCount (List.replicate n 'x') = n := by
  induction n with
  | zero => rfl
  | succ n ih =>
    rw [List.replicate_succ, unitCount_cons, ih]
    exact Nat.add_comm 1 n

theorem repr_refused : Nat.repr 500 = "500" := rfl

theorem toList_refusedError {detail : String} (h : detail.isEmpty = false) :
    (refusedError detail).message.toList = refusedPrefix.toList ++ takeUnits 300 detail.toList := by
  have hmessage : (refusedError detail).message =
      "Docker API inspect workload network returned HTTP 500" ++ (": " ++ sliceUnits 300 detail) := by
    unfold refusedError dockerError
    dsimp only
    rw [h, if_neg Bool.false_ne_true]
    exact congrArg (· ++ (": " ++ sliceUnits 300 detail)) (by simp [toString, repr_refused])
  rw [hmessage, ← String.append_assoc, String.toList_append, sliceUnits, String.toList_ofList]
  rfl

/-- A short detail: the control plane learns that `v1` is back. -/
theorem route_outcome_short : ∃ cause m' completion,
    Ends (hostAgent.run nextPayload) ⟨nextHost, []⟩ (.error (.restored cause true)) m' ∧
    routeRollback (failedRouteView completion).job (failureReason (failedRouteView completion).job) =
      some .serving := by
  obtain ⟨m', h⟩ := run_refusedNetwork ""
  refine ⟨_, m', _, h, (route_outcome h (v := failedRouteView _) rfl rfl rfl).1.mpr (.inl ?_)⟩
  have hmessage : (refusedError "").message =
      "Docker API inspect workload network returned HTTP 500" := by
    simp [refusedError, dockerError, toString, repr_refused, AgentError.message, newError]
  rw [hmessage, toList_of_letters (rfl : _ = String.ofList _)]
  decide

/-- A detail of 200 characters: the Agent has restored `v1`, but the phrase is cut off, and the
environment is published as failed. -/
theorem restored_route_unnoticed : ¬ ∀ (agent : GatewayAgent) (payload : GatewayRoutePayload)
    (m m' : HostMoment) (error : AgentError) (completion : RouteCompletion) (v : TerminalView),
    Ends (agent.run payload) m (.error error) m' →
    completeRouteJob payload false none (.error error) = some completion →
    v.job.kind = .gatewayRoute → v.job.message = some completion.message → ServesRevision v →
      routeRollback v.job (failureReason v.job) = some error.rollback ∧
        (error.rollback = .serving → (managedFailure v (failureReason v.job)
          (routeRollback v.job (failureReason v.job))).1.status = some .running) := by
  intro hall
  let detail := String.ofList (List.replicate 200 'x')
  obtain ⟨m', h⟩ := run_refusedNetwork detail
  have hdetail : detail.isEmpty = false := by
    rw [← Bool.not_eq_true, String.isEmpty_iff]
    exact ne_of_letters rfl rfl (List.cons_ne_nil _ _)
  have htext : (refusedError detail).message.toList =
      refusedPrefix.toList ++ List.replicate 200 'x' := by
    rw [toList_refusedError hdetail, String.toList_ofList,
      takeUnits_of_le (by rw [unitCount_replicate]; decide)]
  have houtcome := (hall _ _ _ _ _ _ (failedRouteView _) h rfl rfl rfl
    (failedRouteView_serves _)).1
  rw [routeRollback_of_message rfl rfl, Option.some.injEq, classify_iff] at houtcome
  rcases houtcome with hroom | hquotes
  · rw [htext, unitCount_append, unitCount_refusedPrefix, unitCount_replicate] at hroom
    omega
  · rw [quotes_iff, htext] at hquotes
    have hletter : 'v' ∈ servingPhrase.toList := by decide
    rcases mem_takeUnits (hquotes.subset hletter) with hmem | hmem
    · rcases List.mem_append.mp hmem with hmem | hmem
      · exact absurd hmem (by decide)
      · exact absurd (List.eq_of_mem_replicate hmem) (by decide)
    · exact absurd hmem (by decide)

end InitPad
