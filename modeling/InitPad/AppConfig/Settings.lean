import InitPad.AppConfig.Delivery
import Mathlib.Data.List.Perm.Basic

/-!
# InitPad.AppConfig.Settings

What a user has saved for an environment, against what an Agent is sent. `settings` folds the
accepted calls into the map that they mean; the rows of the environment hold this map, whatever
order a query returns them in (`represents_accepted`). The API bounds the UTF-16 length of each
value; whether the Agent takes the map depends on three limits that nothing checks when it is saved.
-/

namespace InitPad.AppConfig

open Store

inductive ConfigCall where
  | upsert (iv : Nat) (userId projectId : Id) (envName key value : String) (isSecret : Bool)
  | remove (userId projectId : Id) (envName key : String)

def ConfigCall.run (service : AppConfigService) (w : World) : ConfigCall → Except String World
  | .upsert iv userId projectId envName key value isSecret =>
    (service.upsert iv userId projectId envName key value isSecret w).map (·.2)
  | .remove userId projectId envName key => service.remove userId projectId envName key w

def World.addressed (w : World) : ConfigCall → Except String Id
  | .upsert _ _ projectId envName .. => w.environmentId projectId envName
  | .remove _ projectId envName _ => w.environmentId projectId envName

/-- An operation takes the environment, or lets go of it. -/
def World.setOperation (w : World) (environmentId : Id) (operationId : Option Id) : World :=
  { w with environments := w.environments.updateMany (fun e => e.id = environmentId) fun e =>
      { e with activeOperationId := operationId } }

/-- The calls that were accepted for the environment `id`, in order, from `w` on. In between, other
environments are configured and operations run. -/
inductive Accepted (service : AppConfigService) (id : Id) (w : World) :
    List ConfigCall → World → Prop where
  | start : Accepted service id w [] w
  | call {calls : List ConfigCall} {c : ConfigCall} {w₁ w₂ : World} :
      Accepted service id w calls w₁ → w₁.addressed c = .ok id → c.run service w₁ = .ok w₂ →
        Accepted service id w (calls ++ [c]) w₂
  | elsewhere {calls : List ConfigCall} {c : ConfigCall} {other : Id} {w₁ w₂ : World} :
      Accepted service id w calls w₁ → w₁.addressed c = .ok other → other ≠ id →
        c.run service w₁ = .ok w₂ → Accepted service id w calls w₂
  | operation {calls : List ConfigCall} {w₁ : World} (environmentId : Id)
      (operationId : Option Id) : Accepted service id w calls w₁ →
        Accepted service id w calls (w₁.setOperation environmentId operationId)

/-- What the call means for the variables of its environment. -/
def ConfigCall.apply (vars : List (String × String)) : ConfigCall → List (String × String)
  | .upsert _ _ _ _ key value _ => setEntry vars (trim key) value
  | .remove _ _ _ key => vars.filter fun e => e.1 ≠ key

/-- The variables that a sequence of calls leaves. -/
def settings (calls : List ConfigCall) : List (String × String) :=
  calls.foldl ConfigCall.apply []

theorem settings_append (calls : List ConfigCall) (c : ConfigCall) :
    settings (calls ++ [c]) = c.apply (settings calls) := List.foldl_concat ..

section Entries

variable {α β : Type} {record : List (String × α)} {name : String} {value : α}

theorem setEntry_map (f : α → β) :
    setEntry (record.map fun e => (e.1, f e.2)) name (f value) =
      (setEntry record name value).map fun e => (e.1, f e.2) := by
  have hany : (record.map fun e => (e.1, f e.2)).any (·.1 = name) = record.any (·.1 = name) := by
    rw [List.any_map]
    rfl
  unfold setEntry
  rw [hany]
  split
  · rw [List.map_map, List.map_map]
    refine List.map_congr_left fun e _ => ?_
    by_cases he : e.1 = name
    · simp [he]
    · simp [he]
  · simp

theorem mem_setEntry {e : String × α} (h : e ∈ setEntry record name value) :
    e ∈ record ∨ e = (name, value) := by
  unfold setEntry at h
  split at h
  · obtain ⟨r, hr, rfl⟩ := List.mem_map.mp h
    split
    · exact .inr rfl
    · exact .inl hr
  · rcases List.mem_append.mp h with h | h
    · exact .inl h
    · exact .inr (List.mem_singleton.mp h)

theorem nodup_setEntry (h : (record.map (·.1)).Nodup) :
    ((setEntry record name value).map (·.1)).Nodup := by
  by_cases hmem : name ∈ record.map (·.1)
  · have hany : record.any (·.1 = name) = true := by
      obtain ⟨e, he, hname⟩ := List.mem_map.mp hmem
      exact List.any_eq_true.mpr ⟨e, he, decide_eq_true hname⟩
    have hkeys : (setEntry record name value).map (·.1) = record.map (·.1) := by
      rw [setEntry, if_pos hany, List.map_map]
      refine List.map_congr_left fun e _ => ?_
      by_cases he : e.1 = name
      · simp [he]
      · simp [he]
    rw [hkeys]
    exact h
  · rw [setEntry_of_new value hmem, List.map_append]
    refine List.nodup_append.mpr ⟨h, List.nodup_cons.mpr ⟨List.not_mem_nil, .nil⟩,
      fun k hk k' hk' heq => hmem ?_⟩
    rw [List.map_singleton, List.mem_singleton] at hk'
    rw [heq, hk'] at hk
    exact hk

end Entries

/-! ## Accepted calls -/

theorem ok_bind_iff {α β : Type} {p : Except String α} {f : α → Except String β} {b : β} :
    (p >>= f) = .ok b ↔ ∃ a, p = .ok a ∧ f a = .ok b := by
  cases p with
  | error x => simp [bind, Except.bind]
  | ok a => simp [bind, Except.bind]

theorem map_ok_iff {α β : Type} {p : Except String α} {f : α → β} {b : β} :
    p.map f = .ok b ↔ ∃ a, p = .ok a ∧ f a = b := by
  cases p with
  | error x => simp [Except.map]
  | ok a => simp [Except.map]

theorem refuse_ok {condition : Bool} {message : String} {u : Unit} :
    refuse condition message = .ok u ↔ condition = false := by
  cases condition <;> simp [refuse]

theorem upsert_ok {service : AppConfigService} {iv : Nat} {userId projectId id : Id}
    {envName name value : String} {isSecret : Bool} {w : World} {r : ConfigVarSummary × World}
    (hid : w.environmentId projectId envName = .ok id)
    (h : service.upsert iv userId projectId envName name value isSecret w = .ok r) :
    isKey (trim name) = true ∧ trim name ≠ "PORT" ∧ unitCount value.toList ≤ MAX_VALUE_LENGTH ∧
      ∃ locked, w.lockConfig id envName = .ok locked ∧ r.2 = locked.upsertVar
        ⟨id, trim name, if isSecret then service.box.encryptSecret iv value else value,
          isSecret⟩ := by
  simp only [AppConfigService.upsert, ok_bind_iff, refuse_ok] at h
  obtain ⟨_, -, _, hkey, _, hport, _, hvalue, id', hid', locked, hlocked, hr⟩ := h
  rw [hid] at hid'
  cases hid'
  cases hr
  refine ⟨by simpa using hkey, ?_, by simpa using hvalue, locked, hlocked, rfl⟩
  simpa [RESERVED_KEYS] using hport

theorem remove_ok {service : AppConfigService} {userId projectId id : Id} {envName name : String}
    {w w' : World} (hid : w.environmentId projectId envName = .ok id)
    (h : service.remove userId projectId envName name w = .ok w') :
    ∃ locked, w.lockConfig id envName = .ok locked ∧ w' = { locked with
      configVars := locked.configVars.deleteMany fun r => r.environmentId = id && r.key = name } := by
  simp only [AppConfigService.remove, ok_bind_iff] at h
  obtain ⟨_, -, id', hid', locked, hlocked, hr⟩ := h
  rw [hid] at hid'
  cases hid'
  cases hr
  exact ⟨locked, hlocked, rfl⟩

theorem configVars_lockConfig {w locked : World} {id : Id} {envName : String}
    (h : w.lockConfig id envName = .ok locked) : locked.configVars = w.configVars := by
  unfold World.lockConfig at h
  dsimp only at h
  split at h
  · cases h
    rfl
  · cases h

theorem settled_settings {service : AppConfigService} {id : Id} {w w' : World}
    {calls : List ConfigCall} (h : Accepted service id w calls w') : Settled (settings calls) := by
  induction h with
  | start =>
    refine ⟨fun e he => ?_, List.nodup_nil⟩
    cases he
  | elsewhere _ _ _ _ ih => exact ih
  | operation _ _ _ ih => exact ih
  | @call calls c w₁ w₂ _ haddressed hrun ih =>
    rw [settings_append]
    cases c with
    | upsert iv userId projectId envName key value isSecret =>
      obtain ⟨r, hupsert, -⟩ := map_ok_iff.1 hrun
      obtain ⟨hkey, hport, -⟩ := upsert_ok haddressed hupsert
      refine ⟨fun e he => ?_, nodup_setEntry ih.nodup⟩
      rcases mem_setEntry he with he | rfl
      · exact ih.keys e he
      · exact ⟨hkey, hport⟩
    | remove userId projectId envName key =>
      refine ⟨fun e he => ih.keys e (List.mem_of_mem_filter he), ?_⟩
      exact ih.nodup.sublist (List.filter_sublist.map _)

/-! ## Rows that represent a map -/

/-- The rows of the environment, in the order of the table, hold the map. -/
def rowsOf (w : World) (id : Id) : List AppConfigVar :=
  w.configVars.findMany fun r => r.environmentId = id

def Represents (service : AppConfigService) (id : Id) (w : World) (vars : List (String × String)) :
    Prop :=
  (rowsOf w id).map (fun r => (r.key, service.plaintext r)) =
    vars.map fun e => (e.1, Except.ok e.2)

variable {service : AppConfigService} {id : Id} {w w' : World} {vars : List (String × String)}

theorem rowsOf_upsertVar_of_ne {row : AppConfigVar} (h : row.environmentId ≠ id) :
    rowsOf (w.upsertVar row) id = rowsOf w id := by
  have hkey : ∀ r : AppConfigVar, decide (key r = key row) = true →
      r.environmentId = row.environmentId := fun r hr => (Prod.ext_iff.mp (of_decide_eq_true hr)).1
  unfold World.upsertVar rowsOf
  split
  · rw [Table.findMany_updateMany _ fun r hr => by rw [hkey r hr]]
    conv_rhs => rw [← List.map_id (w.configVars.findMany _)]
    refine List.map_congr_left fun r hr => ?_
    have hid : r.environmentId = id := of_decide_eq_true (List.mem_filter.mp hr).2
    rw [if_neg]
    · rfl
    · intro heq
      exact h ((hkey r heq).symm.trans hid)
  · simp [Table.findMany, Table.insert, List.filter_append, h]

theorem represents_upsertVar {row : AppConfigVar} {value : String} (h : Represents service id w vars)
    (hid : row.environmentId = id) (hvalue : service.plaintext row = .ok value) :
    Represents service id (w.upsertVar row) (setEntry vars row.key value) := by
  have hkey : ∀ r : AppConfigVar, r ∈ rowsOf w id → (key r = key row ↔ r.key = row.key) := by
    intro r hr
    have hr' : r.environmentId = row.environmentId :=
      (of_decide_eq_true (List.mem_filter.mp hr).2).trans hid.symm
    exact ⟨fun heq => (Prod.ext_iff.mp heq).2, fun heq => Prod.ext hr' heq⟩
  have hnamed : (w.configVars.find? (key row)).isSome =
      ((rowsOf w id).map fun r => (r.key, service.plaintext r)).any (·.1 = row.key) := by
    rw [Bool.eq_iff_iff, Option.isSome_iff_exists, List.any_map, List.any_eq_true]
    constructor
    · rintro ⟨r, hr⟩
      have hrow : key r = key row := Table.find?_key hr
      refine ⟨r, List.mem_filter.mpr ⟨Table.mem_of_find? hr, decide_eq_true ?_⟩,
        decide_eq_true (Prod.ext_iff.mp hrow).2⟩
      exact (Prod.ext_iff.mp hrow).1.trans hid
    · rintro ⟨r, hr, hname⟩
      have hrow : key r = key row := (hkey r hr).mpr (of_decide_eq_true hname)
      have hmem : key r ∈ w.configVars.keys := List.mem_map_of_mem (List.mem_of_mem_filter hr)
      rw [hrow] at hmem
      exact Option.isSome_iff_exists.mp (Table.find?_isSome_iff.mpr hmem)
  have hset : setEntry (vars.map fun e => (e.1, (Except.ok e.2 : Except String String))) row.key
      (.ok value) = (setEntry vars row.key value).map fun e => (e.1, Except.ok e.2) :=
    setEntry_map Except.ok
  unfold Represents at h ⊢
  rw [← hset, ← h, setEntry, ← hnamed, World.upsertVar]
  split
  · rw [rowsOf, Table.findMany_updateMany, List.map_map, List.map_map]
    · refine List.map_congr_left fun r hr => ?_
      simp only [Function.comp, decide_eq_true_eq, hkey r hr]
      split
      · rw [hvalue]
      · rfl
    · intro r hr
      have hrow : r.environmentId = row.environmentId := (Prod.ext_iff.mp (of_decide_eq_true hr)).1
      rw [hrow]
  · simp [rowsOf, Table.findMany, Table.insert, List.filter_append, hid, hvalue]

theorem rowsOf_deleteMany_of_ne {other : Id} {name : String} (h : other ≠ id) :
    rowsOf { w with configVars := w.configVars.deleteMany fun r =>
      r.environmentId = other && r.key = name } id = rowsOf w id := by
  simp only [rowsOf, Table.findMany, Table.deleteMany, List.filter_filter]
  refine List.filter_congr fun r _ => ?_
  by_cases hid : r.environmentId = id
  · simp [hid, Ne.symm h]
  · simp [hid]

theorem represents_deleteMany {name : String} (h : Represents service id w vars) :
    Represents service id { w with configVars := w.configVars.deleteMany fun r =>
      r.environmentId = id && r.key = name } (vars.filter fun e => e.1 ≠ name) := by
  have hrows : rowsOf { w with configVars := w.configVars.deleteMany fun r =>
      r.environmentId = id && r.key = name } id = (rowsOf w id).filter fun r => r.key ≠ name := by
    simp only [rowsOf, Table.findMany, Table.deleteMany, List.filter_filter]
    refine List.filter_congr fun r _ => ?_
    by_cases hid : r.environmentId = id
    · simp [hid]
    · simp [hid]
  have hfilter := congrArg (List.filter fun e => e.1 ≠ name) h
  rw [List.filter_map, List.filter_map] at hfilter
  rw [Represents, hrows]
  exact hfilter

theorem Represents.of_configVars (hrows : w'.configVars = w.configVars)
    (h : Represents service id w vars) : Represents service id w' vars := by
  rw [Represents, rowsOf, hrows]
  exact h

theorem plaintext_stored (iv : Nat) (id : Id) (name value : String) (isSecret : Bool) :
    service.plaintext
      ⟨id, name, if isSecret then service.box.encryptSecret iv value else value, isSecret⟩ =
        .ok value := by
  cases isSecret with
  | false => rfl
  | true => exact service.box.decryptSecret_encryptSecret ..

theorem represents_call {c : ConfigCall} (haddressed : w.addressed c = .ok id)
    (hrun : c.run service w = .ok w') (h : Represents service id w vars) :
    Represents service id w' (c.apply vars) := by
  cases c with
  | upsert iv userId projectId envName name value isSecret =>
    obtain ⟨r, hupsert, rfl⟩ := map_ok_iff.1 hrun
    obtain ⟨-, -, -, locked, hlocked, hr⟩ := upsert_ok haddressed hupsert
    rw [hr]
    exact represents_upsertVar (h.of_configVars (configVars_lockConfig hlocked)) rfl
      (plaintext_stored ..)
  | remove userId projectId envName name =>
    obtain ⟨locked, hlocked, rfl⟩ := remove_ok haddressed hrun
    exact represents_deleteMany (h.of_configVars (configVars_lockConfig hlocked))

theorem rowsOf_call_of_ne {c : ConfigCall} {other : Id} (haddressed : w.addressed c = .ok other)
    (hrun : c.run service w = .ok w') (hne : other ≠ id) : rowsOf w' id = rowsOf w id := by
  cases c with
  | upsert iv userId projectId envName name value isSecret =>
    obtain ⟨r, hupsert, rfl⟩ := map_ok_iff.1 hrun
    obtain ⟨-, -, -, locked, hlocked, hr⟩ := upsert_ok haddressed hupsert
    rw [hr, rowsOf_upsertVar_of_ne hne, rowsOf, configVars_lockConfig hlocked]
    rfl
  | remove userId projectId envName name =>
    obtain ⟨locked, hlocked, rfl⟩ := remove_ok haddressed hrun
    rw [rowsOf_deleteMany_of_ne hne, rowsOf, configVars_lockConfig hlocked]
    rfl

theorem represents_accepted {calls : List ConfigCall} (h : Accepted service id w calls w')
    (hnew : rowsOf w id = []) : Represents service id w' (settings calls) := by
  induction h with
  | start =>
    rw [Represents, hnew]
    rfl
  | operation _ _ _ ih => exact ih
  | call _ haddressed hrun ih =>
    rw [settings_append]
    exact represents_call haddressed hrun ih
  | elsewhere _ haddressed hne hrun ih =>
    rw [Represents, rowsOf_call_of_ne haddressed hrun hne]
    exact ih

/-! ## The map that is built -/

theorem varsOfRows_eq {rows : List AppConfigVar} : ∀ {acc vars : List (String × String)},
    List.Forall₂ (fun r e => r.key = e.1 ∧ service.plaintext r = .ok e.2) rows vars →
      ((acc ++ vars).map (·.1)).Nodup → service.varsOfRows acc rows = .ok (acc ++ vars) := by
  induction rows with
  | nil =>
    intro acc vars h _
    cases h
    rw [List.append_nil]
    rfl
  | cons r rows ih =>
    intro acc vars h hnodup
    cases h with
    | @cons _ e _ vars hrow hrest =>
      have hnew : e.1 ∉ acc.map (·.1) := by
        rw [List.map_append, List.map_cons] at hnodup
        exact fun hmem => (List.nodup_append.mp hnodup).2.2 _ hmem _ List.mem_cons_self rfl
      rw [AppConfigService.varsOfRows, hrow.2, hrow.1]
      change service.varsOfRows (setEntry acc e.1 e.2) rows = _
      rw [setEntry_of_new _ hnew, ih hrest (by simpa using hnodup), List.append_assoc]
      rfl

theorem configVarsForDeploy_eq {rows : List AppConfigVar} (hsettled : Settled vars)
    (h : Represents service id w vars) (hrows : rows.Perm (rowsOf w id)) :
    ∃ envVars, service.configVarsForDeploy rows = .ok envVars ∧ envVars.Perm vars := by
  have hforall : List.Forall₂ (fun r e => r.key = e.1 ∧ service.plaintext r = .ok e.2)
      (rowsOf w id) vars := by
    have heq : List.Forall₂ Eq ((rowsOf w id).map fun r => (r.key, service.plaintext r))
        (vars.map fun e => (e.1, Except.ok e.2)) := by
      rw [List.forall₂_eq_eq_eq]
      exact h
    rw [List.forall₂_map_left_iff, List.forall₂_map_right_iff] at heq
    exact heq.imp fun r e hre => Prod.ext_iff.mp hre
  obtain ⟨envVars, hrow, hperm⟩ := List.perm_comp_forall₂ hrows hforall
  refine ⟨envVars, varsOfRows_eq hrow ?_, hperm⟩
  exact (hperm.map (·.1)).nodup_iff.mpr hsettled.nodup

theorem Fits.perm {vars' : List (String × String)} (h : vars.Perm vars') (hfits : Fits vars) :
    Fits vars' where
  count := h.length_eq ▸ hfits.count
  values e he := hfits.values e (h.mem_iff.mpr he)
  total := by
    have hsum := (h.map fun e => byteLength e.1 + byteLength e.2).sum_nat
    have htotal := hfits.total
    unfold totalBytes at htotal ⊢
    omega

theorem Settled.perm {vars' : List (String × String)} (h : vars.Perm vars')
    (hsettled : Settled vars) : Settled vars' where
  keys e he := hsettled.keys e (h.mem_iff.mpr he)
  nodup := (h.map (·.1)).nodup_iff.mp hsettled.nodup

/-- The map that is built for a deployment holds what was saved. The Agent takes it, with every
variable preserved, if and only if what was saved keeps the limits of the Agent. -/
theorem saved_settings_delivered {calls : List ConfigCall} (hnew : rowsOf w id = [])
    (h : Accepted service id w calls w') {rows : List AppConfigVar}
    (hrows : rows.Perm (rowsOf w' id)) :
    ∃ envVars, service.configVarsForDeploy rows = .ok envVars ∧ envVars.Perm (settings calls) ∧
      ∀ artifact : ArtifactDelivery, artifact.Valid →
        (parseProjectDelivery (DockerProjectDelivery.toJson ⟨artifact, envVars⟩) =
          .ok ⟨artifact, envVars⟩ ↔ Fits (settings calls)) := by
  have hsettled := settled_settings h
  obtain ⟨envVars, hmap, hperm⟩ :=
    configVarsForDeploy_eq hsettled (represents_accepted h hnew) hrows
  refine ⟨envVars, hmap, hperm, fun artifact hartifact => ?_⟩
  rw [parseProjectDelivery_iff hartifact (hsettled.perm hperm.symm)]
  exact ⟨Fits.perm hperm, Fits.perm hperm.symm⟩

/-! ## A value that can be saved but not delivered -/

/-- A service with a trivial cipher, for examples. -/
def openService : AppConfigService where
  requireProject _ _ := .ok ()
  box := ⟨fun _ s => s, some, fun _ _ => rfl⟩

def devWorld : World where
  environments := ⟨[⟨0, 0, "dev", none, 0⟩]⟩
  configVars := {}

def sampleArtifact : ArtifactDelivery :=
  ⟨"/api/agent/jobs/7/artifact", String.ofList (List.replicate 64 'a'), 1⟩

theorem sampleArtifact_valid : sampleArtifact.Valid where
  path := by decide
  sha256 := by decide
  sizeBytes := by decide

def upsertGreeting (value : String) : ConfigCall := .upsert 0 0 0 "dev" "GREETING" value false

theorem accepted_greeting {value : String} (h : unitCount value.toList ≤ MAX_VALUE_LENGTH) :
    ∃ w', Accepted openService 0 devWorld [upsertGreeting value] w' ∧
      settings [upsertGreeting value] = [("GREETING", value)] := by
  have hkey : trim "GREETING" = "GREETING" := by decide
  have hvalue : decide (unitCount value.toList > MAX_VALUE_LENGTH) = false := by simpa using h
  have hrun : (upsertGreeting value).run openService devWorld =
      .ok ⟨⟨[⟨0, 0, "dev", none, 1⟩]⟩, ⟨[⟨0, "GREETING", value, false⟩]⟩⟩ := by
    simp only [upsertGreeting, ConfigCall.run, AppConfigService.upsert, hkey, hvalue]
    rfl
  refine ⟨_, .call .start rfl hrun, ?_⟩
  simp [settings, upsertGreeting, ConfigCall.apply, setEntry, hkey]

/-- Letters of one UTF-16 unit and two bytes each. -/
def longGreeting (n : Nat) : String := String.ofList (List.replicate n 'é')

theorem unitCount_longGreeting (n : Nat) : unitCount (longGreeting n).toList = n := by
  have hnarrow : ∀ c ∈ List.replicate n 'é', charUnits c = 1 := by
    intro c hc
    rw [List.eq_of_mem_replicate hc]
    rfl
  rw [longGreeting, String.toList_ofList, unitCount_narrow hnarrow, List.length_replicate]

theorem byteLength_longGreeting (n : Nat) : byteLength (longGreeting n) = n * 2 := by
  rw [longGreeting, byteLength, String.toList_ofList, List.map_replicate, List.sum_replicate_nat]
  rfl

/-- A short value is delivered as it was saved. -/
theorem saved_settings_delivered_once : ∃ (w' : World) (envVars : List (String × String)),
    Accepted openService 0 devWorld [upsertGreeting "hello"] w' ∧
      openService.configVarsForDeploy (rowsOf w' 0) = .ok envVars ∧
        parseProjectDelivery (DockerProjectDelivery.toJson ⟨sampleArtifact, envVars⟩) =
          .ok ⟨sampleArtifact, envVars⟩ := by
  have hshort : unitCount "hello".toList ≤ MAX_VALUE_LENGTH := by decide
  obtain ⟨w', haccepted, hsettings⟩ := accepted_greeting hshort
  obtain ⟨envVars, hmap, -, hdelivered⟩ := saved_settings_delivered rfl haccepted (.refl _)
  refine ⟨w', envVars, haccepted, hmap, (hdelivered sampleArtifact sampleArtifact_valid).mpr ?_⟩
  rw [hsettings]
  constructor
  · decide
  · decide
  · decide

/-- The value is short enough for the API and too long for the Agent. -/
theorem saved_value_refused : ¬ ∀ (service : AppConfigService) (id : Id) (w w' : World)
    (calls : List ConfigCall) (rows : List AppConfigVar) (artifact : ArtifactDelivery),
      rowsOf w id = [] → Accepted service id w calls w' → rows.Perm (rowsOf w' id) →
        artifact.Valid → ∃ envVars, service.configVarsForDeploy rows = .ok envVars ∧
          envVars.Perm (settings calls) ∧
            parseProjectDelivery (DockerProjectDelivery.toJson ⟨artifact, envVars⟩) =
              .ok ⟨artifact, envVars⟩ := by
  intro h
  have hshort : unitCount (longGreeting 4097).toList ≤ MAX_VALUE_LENGTH := by
    rw [unitCount_longGreeting]
    decide
  obtain ⟨w', haccepted, hsettings⟩ := accepted_greeting hshort
  obtain ⟨envVars, hmap, hperm, hparse⟩ := h _ _ _ w' _ _ sampleArtifact rfl haccepted (.refl _)
    sampleArtifact_valid
  have hsettled := (settled_settings haccepted).perm hperm.symm
  have hfits := ((parseProjectDelivery_iff sampleArtifact_valid hsettled).mp hparse).perm hperm
  rw [hsettings] at hfits
  have hbytes := hfits.values _ List.mem_cons_self
  rw [byteLength_longGreeting] at hbytes
  exact absurd hbytes (by decide)

end InitPad.AppConfig
