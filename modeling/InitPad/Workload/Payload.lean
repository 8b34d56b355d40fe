import InitPad.Gateway.Payload

/-!
# InitPad.Workload.Payload

The payload of a Docker job, its checks, and the names that `docker-lifecycle` derives from it.
-/

namespace InitPad.Workload

/-- `DockerLifecyclePayload`; a routing mode that is missing or wrong is `none`. -/
structure Payload where
  allocationId : String
  namespace_ : String
  projectSlug : String
  environment : String
  revision : String
  imageRef : String
  containerPort : Nat
  healthPath : String
  routingMode : RoutingMode
  configFingerprint : Option String
  cpuLimitMillicores : Option Nat
  memoryLimitMb : Option Nat
  pidsLimit : Option Nat
  deriving DecidableEq

/-! ## Checks -/

/-- `SAFE_NAMESPACE_PATTERN` -/
def isNamespace (value : String) : Bool :=
  match value.toList with
  | [] => false
  | c :: rest => lowerOrDigit c && decide (rest.length ≤ 62) &&
      rest.all (fun d => lowerOrDigit d || d == '-') && rest.getLast?.all lowerOrDigit

/-- `IMAGE_REF_PATTERN` -/
def isImageRef (ref : List Char) : Bool :=
  let repository := ref.take (ref.length - 72)
  let digest := ref.drop (ref.length - 72)
  repository.head?.any lowerOrDigit && decide (repository.length ≤ 200) &&
    repository.all (fun c => lowerOrDigit c || "._/-".toList.contains c) &&
    digest.take 8 == "@sha256:".toList && (digest.drop 8).all isLowerHex

/-- `SHA256_PATTERN` -/
def isSha256 (value : String) : Bool := value.toList.length == 64 && value.toList.all isLowerHex

def requiredSafeString (value label : String) (pattern : String → Bool) : Except AgentError Unit :=
  if pattern value then .ok ()
  else .error (newError ("Lifecycle payload contains an invalid " ++ label))

def boundedInteger (value : Option Nat) (min max fallback : Nat) : Except AgentError Nat :=
  match value with
  | none => .ok fallback
  | some n =>
    if min ≤ n ∧ n ≤ max then .ok n
    else .error (newError "Lifecycle payload contains an invalid resource limit")

def parseWorkloadPayload (value : Payload) (projectDelivery : Bool) : Except AgentError Payload := do
  if !projectDelivery && value.configFingerprint.isSome then
    .error (newError "Lifecycle payload contains unsupported fields")
  if value.containerPort < 1 ∨ 65535 < value.containerPort then
    .error (newError "Lifecycle payload contains an invalid container port")
  let cpuLimitMillicores ← boundedInteger value.cpuLimitMillicores 100 64000 1000
  let memoryLimitMb ← boundedInteger value.memoryLimitMb 64 65536 512
  let pidsLimit ← boundedInteger value.pidsLimit 32 32768 256
  requiredSafeString value.allocationId "allocation id" isSafeId
  requiredSafeString value.namespace_ "namespace" isNamespace
  requiredSafeString value.projectSlug "project slug" isSafeId
  requiredSafeString value.environment "environment" isSafeId
  requiredSafeString value.revision "revision" isSafeId
  if projectDelivery then
    requiredSafeString value.imageRef "tested image reference" fun s => isProjectImageRef s.toList
  else
    requiredSafeString value.imageRef "immutable image reference" fun s => isImageRef s.toList
  requiredSafeString value.healthPath "health path" isHealthPath
  if projectDelivery then
    requiredSafeString (value.configFingerprint.getD "") "config fingerprint" isSha256
  pure { value with
    cpuLimitMillicores := some cpuLimitMillicores
    memoryLimitMb := some memoryLimitMb
    pidsLimit := some pidsLimit }

def parseLifecyclePayload (value : Payload) : Except AgentError Payload :=
  parseWorkloadPayload value false

def parseProjectPayload (value : Payload) : Except AgentError Payload :=
  parseWorkloadPayload value true

/-- An empty fingerprint counts as none, but its field is there. -/
def validatedPayload (payload : Payload) : Except AgentError Payload :=
  if payload.configFingerprint.any fun fingerprint => !fingerprint.isEmpty then
    parseProjectPayload payload
  else parseLifecyclePayload payload

/-- What a payload meets that has passed the checks. -/
structure Accepted (projectDelivery : Bool) (payload : Payload) : Prop where
  unsupported : projectDelivery = false → payload.configFingerprint = none
  containerPort : 1 ≤ payload.containerPort ∧ payload.containerPort ≤ 65535
  cpuLimitMillicores : ∃ n, payload.cpuLimitMillicores = some n ∧ 100 ≤ n ∧ n ≤ 64000
  memoryLimitMb : ∃ n, payload.memoryLimitMb = some n ∧ 64 ≤ n ∧ n ≤ 65536
  pidsLimit : ∃ n, payload.pidsLimit = some n ∧ 32 ≤ n ∧ n ≤ 32768
  allocationId : isSafeId payload.allocationId = true
  namespace_ : isNamespace payload.namespace_ = true
  projectSlug : isSafeId payload.projectSlug = true
  environment : isSafeId payload.environment = true
  revision : isSafeId payload.revision = true
  imageRef : (if projectDelivery then isProjectImageRef payload.imageRef.toList
    else isImageRef payload.imageRef.toList) = true
  healthPath : isHealthPath payload.healthPath = true
  configFingerprint : projectDelivery = true → isSha256 (payload.configFingerprint.getD "") = true

theorem boundedInteger_ok {value : Option Nat} {min max fallback n : Nat}
    (hfallback : min ≤ fallback ∧ fallback ≤ max)
    (h : boundedInteger value min max fallback = .ok n) : min ≤ n ∧ n ≤ max := by
  unfold boundedInteger at h
  cases value with
  | none =>
    cases h
    exact hfallback
  | some m =>
    dsimp only at h
    split at h
    · rename_i hbounds
      cases h
      exact hbounds
    · cases h

theorem requiredSafeString_ok {value label : String} {pattern : String → Bool} {u : Unit}
    (h : requiredSafeString value label pattern = .ok u) : pattern value = true := by
  unfold requiredSafeString at h
  split at h
  · assumption
  · cases h

theorem accepted_of_parse {value parsed : Payload} {projectDelivery : Bool}
    (h : parseWorkloadPayload value projectDelivery = .ok parsed) :
    Accepted projectDelivery parsed ∧ parsed = { value with
      cpuLimitMillicores := parsed.cpuLimitMillicores
      memoryLimitMb := parsed.memoryLimitMb
      pidsLimit := parsed.pidsLimit } := by
  unfold parseWorkloadPayload at h
  simp only [bind, Except.bind, pure, Except.pure] at h
  iterate 2
    split at h
    · cases h
  rename_i hunsupported hport
  iterate 3
    split at h
    · cases h
  rename_i cpu hcpu _ memory hmemory _ pids hpids
  iterate 5
    split at h
    · cases h
  rename_i hallocation _ _ hnamespace _ _ hslug _ _ henvironment _ _ hrevision
  cases projectDelivery with
  | true =>
    simp only [if_true] at h
    iterate 3
      split at h
      · cases h
    rename_i himage _ _ hhealth _ _ hconfig
    cases h
    refine ⟨⟨(fun h => by cases h), by dsimp only; omega, ⟨_, rfl, boundedInteger_ok (by decide) hcpu⟩,
      ⟨_, rfl, boundedInteger_ok (by decide) hmemory⟩, ⟨_, rfl, boundedInteger_ok (by decide) hpids⟩,
      requiredSafeString_ok hallocation, requiredSafeString_ok hnamespace,
      requiredSafeString_ok hslug, requiredSafeString_ok henvironment,
      requiredSafeString_ok hrevision, requiredSafeString_ok himage, requiredSafeString_ok hhealth,
      fun _ => requiredSafeString_ok hconfig⟩, rfl⟩
  | false =>
    simp only [Bool.false_eq_true, if_false] at h
    iterate 2
      split at h
      · cases h
    rename_i himage _ _ hhealth
    cases h
    refine ⟨⟨fun _ => by simpa using hunsupported, by dsimp only; omega,
      ⟨_, rfl, boundedInteger_ok (by decide) hcpu⟩,
      ⟨_, rfl, boundedInteger_ok (by decide) hmemory⟩, ⟨_, rfl, boundedInteger_ok (by decide) hpids⟩,
      requiredSafeString_ok hallocation, requiredSafeString_ok hnamespace,
      requiredSafeString_ok hslug, requiredSafeString_ok henvironment,
      requiredSafeString_ok hrevision, requiredSafeString_ok himage, requiredSafeString_ok hhealth,
      (fun h => by cases h)⟩, rfl⟩

theorem Accepted.parse {payload : Payload} {projectDelivery : Bool}
    (h : Accepted projectDelivery payload) :
    parseWorkloadPayload payload projectDelivery = .ok payload := by
  obtain ⟨cpu, hcpu, hcpu'⟩ := h.cpuLimitMillicores
  obtain ⟨memory, hmemory, hmemory'⟩ := h.memoryLimitMb
  obtain ⟨pids, hpids, hpids'⟩ := h.pidsLimit
  have hport := h.containerPort
  have hsupported : (!projectDelivery && payload.configFingerprint.isSome) = false := by
    cases projectDelivery with
    | true => rfl
    | false => simp [h.unsupported rfl]
  have hinRange : ¬(payload.containerPort < 1 ∨ 65535 < payload.containerPort) := by omega
  have hsame : { payload with
      cpuLimitMillicores := some cpu
      memoryLimitMb := some memory
      pidsLimit := some pids } = payload := by
    rw [← hcpu, ← hmemory, ← hpids]
  have himage := h.imageRef
  unfold parseWorkloadPayload requiredSafeString boundedInteger
  simp only [bind, Except.bind, pure, Except.pure, hsupported, hinRange, hcpu, hcpu', hmemory,
    hmemory', hpids, hpids', h.allocationId, h.namespace_, h.projectSlug, h.environment, h.revision,
    h.healthPath, and_self, if_true, if_false, Bool.false_eq_true]
  cases projectDelivery with
  | true =>
    simp only [if_true] at himage
    simp only [himage, h.configFingerprint rfl, if_true, hsame]
  | false =>
    simp only [Bool.false_eq_true, if_false] at himage
    simp only [himage, Bool.false_eq_true, if_true, if_false, hsame]

theorem validatedPayload_ok {value payload : Payload} (h : validatedPayload value = .ok payload) :
    ∃ projectDelivery, Accepted projectDelivery payload ∧
      (projectDelivery = payload.configFingerprint.any fun fingerprint => !fingerprint.isEmpty) ∧
      payload = { value with
        cpuLimitMillicores := payload.cpuLimitMillicores
        memoryLimitMb := payload.memoryLimitMb
        pidsLimit := payload.pidsLimit } := by
  unfold validatedPayload parseProjectPayload parseLifecyclePayload at h
  split at h
  · rename_i hany
    obtain ⟨haccepted, hsame⟩ := accepted_of_parse h
    exact ⟨true, haccepted, by rw [hsame, hany], hsame⟩
  · rename_i hany
    obtain ⟨haccepted, hsame⟩ := accepted_of_parse h
    exact ⟨false, haccepted, by rw [hsame]; exact (Bool.not_eq_true _ ▸ hany).symm, hsame⟩

theorem validatedPayload_idem {value payload : Payload} (h : validatedPayload value = .ok payload) :
    validatedPayload payload = .ok payload := by
  obtain ⟨projectDelivery, haccepted, hdelivery, -⟩ := validatedPayload_ok h
  unfold validatedPayload parseProjectPayload parseLifecyclePayload
  rw [← hdelivery]
  cases projectDelivery with
  | true => exact haccepted.parse
  | false => exact haccepted.parse

theorem validatedPayload_of_parseProject {value payload : Payload}
    (h : parseProjectPayload value = .ok payload) : validatedPayload payload = .ok payload := by
  obtain ⟨haccepted, -⟩ := accepted_of_parse h
  have hany : payload.configFingerprint.any (fun fingerprint => !fingerprint.isEmpty) = true := by
    have hsha := haccepted.configFingerprint rfl
    cases hfingerprint : payload.configFingerprint with
    | none =>
      rw [hfingerprint] at hsha
      exact absurd hsha (by decide)
    | some fingerprint =>
      rw [hfingerprint] at hsha
      cases hempty : fingerprint.isEmpty with
      | false => simp [hempty]
      | true =>
        rw [Option.getD_some, String.isEmpty_iff.mp hempty] at hsha
        exact absurd hsha (by decide)
  unfold validatedPayload
  rw [hany]
  exact haccepted.parse

/-! ## Names -/

/-- The configuration of an Agent; `sha256` is the hexadecimal digest of a text. -/
structure Agent where
  targetId : String
  sha256 : String → String

namespace Agent

variable (agent : Agent)

/-- `createHash('sha256').update(value).digest('hex').slice(0, 12)` -/
def digest (value : String) : String := String.ofList ((agent.sha256 value).toList.take 12)

def boundedDockerName (value : String) : String :=
  if value.length ≤ 128 then value
  else String.ofList (value.toList.take 115) ++ "-" ++ agent.digest value

def allocationDockerScope (allocationId : String) : String := agent.digest allocationId

variable (payload : Payload)

def legacyWorkloadContainerName : String :=
  agent.boundedDockerName ("initpad-" ++ dockerNamePart payload.namespace_ ++ "-" ++
    dockerNamePart payload.projectSlug ++ "-" ++ dockerNamePart payload.environment)

def workloadContainerName : String :=
  agent.boundedDockerName ("initpad-" ++ dockerNamePart payload.namespace_ ++ "-a" ++
    agent.allocationDockerScope payload.allocationId ++ "-" ++
    dockerNamePart payload.projectSlug ++ "-" ++ dockerNamePart payload.environment)

def managedWorkloadContainerName (slot : String) : String :=
  agent.boundedDockerName (agent.workloadContainerName payload ++ "-rev-" ++ slot)

def legacyManagedWorkloadContainerName (slot : String) : String :=
  agent.boundedDockerName (agent.legacyWorkloadContainerName payload ++ "-rev-" ++ slot)

def managedWorkloadSlot : String :=
  agent.digest (payload.revision ++ "\x00" ++ payload.imageRef ++ "\x00" ++
    payload.configFingerprint.getD "")

def workloadNetworkName : String :=
  let scope := "a" ++ agent.allocationDockerScope payload.allocationId
  let suffix :=
    match payload.routingMode with
    | .managedGateway => dockerNamePart payload.namespace_ ++ "-" ++ scope ++ "-" ++
        dockerNamePart payload.projectSlug ++ "-" ++ dockerNamePart payload.environment
    | .directPort => dockerNamePart payload.namespace_ ++ "-" ++ scope ++ "-" ++
        dockerNamePart payload.environment
  agent.boundedDockerName ("net-" ++ suffix)

def legacyWorkloadNetworkName : String :=
  let suffix :=
    match payload.routingMode with
    | .managedGateway => dockerNamePart payload.namespace_ ++ "-" ++
        dockerNamePart payload.projectSlug ++ "-" ++ dockerNamePart payload.environment
    | .directPort => dockerNamePart payload.namespace_ ++ "-" ++ dockerNamePart payload.environment
  agent.boundedDockerName ("net-" ++ suffix)

/-- `this.containerName(payload)` -/
def containerName : String :=
  match payload.routingMode with
  | .managedGateway => agent.managedWorkloadContainerName payload (agent.managedWorkloadSlot payload)
  | .directPort => agent.workloadContainerName payload

/-- `${base.slice(0, 108)}-next-${suffix}` -/
def nextName (base : String) : String :=
  String.ofList (base.toList.take 108) ++ "-next-" ++
    String.ofList ((dockerNamePart payload.revision).toList.take 12)

def candidateName : String := nextName payload (agent.containerName payload)

def legacyContainerNames : List String :=
  let bases :=
    match payload.routingMode with
    | .managedGateway => [agent.legacyManagedWorkloadContainerName payload
          (agent.managedWorkloadSlot payload), agent.legacyWorkloadContainerName payload]
    | .directPort => [agent.legacyWorkloadContainerName payload]
  (bases.flatMap fun base => [base, nextName payload base]).eraseDups

def legacyCandidateNames : List String :=
  (agent.legacyContainerNames payload).filter fun name =>
    decide ("-next-".toList <:+: name.toList) && name != agent.candidateName payload

end Agent

/-! ## Legal names -/

/-- `[a-zA-Z0-9_.-]` -/
def isNameChar (c : Char) : Bool := c.isAlphanum || "_.-".toList.contains c

theorem isNameChar_of_lowerOrDigit {c : Char} (h : lowerOrDigit c = true) : isNameChar c = true := by
  unfold lowerOrDigit at h
  unfold isNameChar Char.isAlphanum Char.isAlpha
  simp only [Bool.or_eq_true] at h ⊢
  tauto

theorem isNameChar_of_isLowerHex {c : Char} (h : isLowerHex c = true) : isNameChar c = true := by
  refine isNameChar_of_lowerOrDigit ?_
  unfold lowerOrDigit
  delta Char.isLower
  simp only [isLowerHex, Bool.or_eq_true, Bool.and_eq_true, decide_eq_true_eq] at h ⊢
  exact h.symm.imp (fun hc => ⟨hc.1, UInt32.le_trans hc.2 (by decide)⟩) id

theorem replaceUnsafe_nameChars (replaced : Bool) (s : List Char) :
    ∀ c ∈ replaceUnsafe replaced s, isNameChar c = true := by
  induction s generalizing replaced with
  | nil => exact fun c hc => absurd hc List.not_mem_nil
  | cons d s ih =>
    unfold replaceUnsafe
    split
    · rename_i hd
      rintro c (_ | ⟨_, hc⟩)
      · rcases Bool.or_eq_true_iff.mp hd with hlower | hother
        · exact isNameChar_of_lowerOrDigit hlower
        · exact Bool.or_eq_true_iff.mpr (.inr hother)
      · exact ih false c hc
    · split
      · exact ih true
      · rintro c (_ | ⟨_, hc⟩)
        · decide
        · exact ih true c hc

theorem mem_of_mem_trimUnsafe {c : Char} {s : List Char} (h : c ∈ trimUnsafe s) : c ∈ s := by
  unfold trimUnsafe at h
  have hc := (List.dropWhile_sublist _).subset (List.mem_reverse.mp h)
  exact (List.dropWhile_sublist _).subset (List.mem_reverse.mp hc)

/-- Every character can be one of a name. -/
def NameChars (value : String) : Prop := ∀ c ∈ value.toList, isNameChar c = true

theorem nameChars_of_all {value : String} (h : value.toList.all isNameChar = true) :
    NameChars value := List.all_eq_true.mp h

theorem NameChars.append {value rest : String} (hvalue : NameChars value) (hrest : NameChars rest) :
    NameChars (value ++ rest) := by
  intro c hc
  rw [String.toList_append, List.mem_append] at hc
  exact hc.elim (hvalue c) (hrest c)

theorem NameChars.take {value : String} (h : NameChars value) (n : Nat) :
    NameChars (String.ofList (value.toList.take n)) := by
  intro c hc
  rw [String.toList_ofList] at hc
  exact h c (List.mem_of_mem_take hc)

theorem nameChars_dash : NameChars "-" := nameChars_of_all rfl

theorem nameChars_allocation : NameChars "-a" := nameChars_of_all rfl

theorem nameChars_dockerNamePart (value : String) : NameChars (dockerNamePart value) := by
  intro c hc
  rw [dockerNamePart, String.toList_ofList] at hc
  exact replaceUnsafe_nameChars _ _ c (mem_of_mem_trimUnsafe hc)

/-- The characters of names behind a first one that is a letter or a digit. -/
structure NameText (value : String) : Prop where
  head : value.toList.head?.any Char.isAlphanum = true
  chars : NameChars value

theorem NameText.append {value rest : String} (h : NameText value) (hrest : NameChars rest) :
    NameText (value ++ rest) := by
  refine ⟨?_, h.chars.append hrest⟩
  have hhead := h.head
  rw [String.toList_append]
  cases hvalue : value.toList with
  | nil => rw [hvalue] at hhead; cases hhead
  | cons d ds => rw [hvalue] at hhead; exact hhead

theorem NameText.take {value : String} (h : NameText value) (n : Nat) :
    NameText (String.ofList (value.toList.take (n + 1))) := by
  refine ⟨?_, h.chars.take (n + 1)⟩
  have hhead := h.head
  rw [String.toList_ofList]
  cases hvalue : value.toList with
  | nil => rw [hvalue] at hhead; cases hhead
  | cons d ds => rw [hvalue] at hhead; exact hhead

theorem nameText_initpad : NameText "initpad-" := ⟨rfl, nameChars_of_all rfl⟩

theorem nameText_net : NameText "net-" := ⟨rfl, nameChars_of_all rfl⟩

theorem isContainerName_iff (name : String) :
    isContainerName name.toList = true ↔ name.length ≤ 128 ∧ NameText name := by
  unfold isContainerName
  rw [Bool.and_eq_true, Bool.and_eq_true, decide_eq_true_eq, List.all_eq_true,
    String.length_toList]
  constructor
  · rintro ⟨⟨hlength, hhead⟩, hchars⟩
    exact ⟨hlength, hhead, hchars⟩
  · rintro ⟨hlength, hhead, hchars⟩
    exact ⟨⟨hlength, hhead⟩, hchars⟩

namespace Agent

variable {agent : Agent}

theorem isContainerName_nextName (payload : Payload) {base : String}
    (hbase : isContainerName base.toList = true) :
    isContainerName (nextName payload base).toList = true := by
  rw [isContainerName_iff] at hbase ⊢
  have hnext : NameChars "-next-" := nameChars_of_all rfl
  refine ⟨?_, ((hbase.2.take 107).append hnext).append
    ((nameChars_dockerNamePart payload.revision).take 12)⟩
  have htake := List.length_take_le 108 base.toList
  have hsuffix := List.length_take_le 12 (dockerNamePart payload.revision).toList
  have hlength : "-next-".length = 6 := rfl
  rw [nextName, String.length_append, String.length_append, hlength, String.length_ofList,
    String.length_ofList]
  omega

section Names

variable (h : ∀ s, isSha256 (agent.sha256 s) = true) (payload : Payload)

include h

theorem nameChars_digest (value : String) : NameChars (agent.digest value) := by
  intro c hc
  obtain ⟨-, hhex⟩ := Bool.and_eq_true_iff.mp (h value)
  rw [digest, String.toList_ofList] at hc
  exact isNameChar_of_isLowerHex (List.all_eq_true.mp hhex c (List.mem_of_mem_take hc))

theorem isContainerName_bounded {value : String} (hvalue : NameText value) :
    isContainerName (agent.boundedDockerName value).toList = true := by
  rw [isContainerName_iff]
  unfold boundedDockerName
  split
  · exact ⟨‹_›, hvalue⟩
  · refine ⟨?_, ((hvalue.take 114).append nameChars_dash).append (nameChars_digest h value)⟩
    have hdigest := List.length_take_le 12 (agent.sha256 value).toList
    have htake := List.length_take_le 115 value.toList
    have hlength : "-".length = 1 := rfl
    rw [String.length_append, String.length_append, hlength, digest, String.length_ofList,
      String.length_ofList]
    omega

theorem isContainerName_legacyWorkload :
    isContainerName (agent.legacyWorkloadContainerName payload).toList = true :=
  isContainerName_bounded h (((((nameText_initpad.append (nameChars_dockerNamePart _)).append
    nameChars_dash).append (nameChars_dockerNamePart _)).append nameChars_dash).append
      (nameChars_dockerNamePart _))

theorem isContainerName_workload :
    isContainerName (agent.workloadContainerName payload).toList = true :=
  isContainerName_bounded h (((((((nameText_initpad.append (nameChars_dockerNamePart _)).append
    nameChars_allocation).append (nameChars_digest h _)).append nameChars_dash).append
      (nameChars_dockerNamePart _)).append nameChars_dash).append (nameChars_dockerNamePart _))

theorem isContainerName_slot {base : String} (hbase : isContainerName base.toList = true) :
    isContainerName (agent.boundedDockerName
      (base ++ "-rev-" ++ agent.managedWorkloadSlot payload)).toList = true := by
  have hrev : NameChars "-rev-" := nameChars_of_all rfl
  exact isContainerName_bounded h
    ((((isContainerName_iff base).1 hbase).2.append hrev).append (nameChars_digest h _))

theorem isContainerName_containerName :
    isContainerName (agent.containerName payload).toList = true := by
  unfold containerName
  cases payload.routingMode with
  | managedGateway => exact isContainerName_slot h payload (isContainerName_workload h payload)
  | directPort => exact isContainerName_workload h payload

theorem isContainerName_legacy : ∀ name ∈ agent.legacyContainerNames payload,
    isContainerName name.toList = true := by
  intro name hname
  have hlegacy := isContainerName_legacyWorkload h payload
  have hboth : ∀ base, isContainerName base.toList = true → ∀ name ∈ [base, nextName payload base],
      isContainerName name.toList = true := by
    intro base hbase name hname
    rcases List.mem_pair.mp hname with rfl | rfl
    · exact hbase
    · exact isContainerName_nextName payload hbase
  unfold legacyContainerNames at hname
  obtain ⟨base, hmem, hname⟩ := List.mem_flatMap.mp (List.mem_eraseDups.mp hname)
  refine hboth base ?_ name hname
  cases hmode : payload.routingMode with
  | managedGateway =>
    rw [hmode] at hmem
    rcases List.mem_pair.mp hmem with heq | heq
    · rw [heq]
      exact isContainerName_slot h payload hlegacy
    · rw [heq]
      exact hlegacy
  | directPort =>
    rw [hmode] at hmem
    rw [List.mem_singleton.mp hmem]
    exact hlegacy

theorem isContainerName_network :
    isContainerName (agent.workloadNetworkName payload).toList = true := by
  have hscope : NameChars ("a" ++ agent.allocationDockerScope payload.allocationId) :=
    NameChars.append (nameChars_of_all rfl) (nameChars_digest h _)
  unfold workloadNetworkName
  have hshared := ((nameChars_dockerNamePart payload.namespace_).append nameChars_dash).append
    hscope
  cases payload.routingMode with
  | managedGateway =>
    exact isContainerName_bounded h (nameText_net.append ((((hshared.append nameChars_dash).append
      (nameChars_dockerNamePart _)).append nameChars_dash).append (nameChars_dockerNamePart _)))
  | directPort =>
    exact isContainerName_bounded h (nameText_net.append
      ((hshared.append nameChars_dash).append (nameChars_dockerNamePart _)))

theorem isContainerName_legacyNetwork :
    isContainerName (agent.legacyWorkloadNetworkName payload).toList = true := by
  unfold legacyWorkloadNetworkName
  have hshared := (nameChars_dockerNamePart payload.namespace_).append nameChars_dash
  cases payload.routingMode with
  | managedGateway =>
    exact isContainerName_bounded h (nameText_net.append (((hshared.append
      (nameChars_dockerNamePart _)).append nameChars_dash).append (nameChars_dockerNamePart _)))
  | directPort =>
    exact isContainerName_bounded h (nameText_net.append
      (hshared.append (nameChars_dockerNamePart _)))

end Names

def dockerNames (agent : Agent) (payload : Payload) : List String :=
  [agent.containerName payload, agent.candidateName payload, agent.workloadNetworkName payload,
    agent.legacyWorkloadNetworkName payload] ++ agent.legacyContainerNames payload

/-- Every name is one that Docker and the gateway accept, whatever the payload is. -/
theorem dockerNames_legal (h : ∀ s, isSha256 (agent.sha256 s) = true) (payload : Payload) :
    ∀ name ∈ agent.dockerNames payload, isContainerName name.toList = true := by
  intro name hname
  rcases List.mem_append.mp hname with hname | hname
  · simp only [List.mem_cons, List.not_mem_nil, or_false] at hname
    rcases hname with rfl | rfl | rfl | rfl
    · exact isContainerName_containerName h payload
    · exact isContainerName_nextName payload (isContainerName_containerName h payload)
    · exact isContainerName_network h payload
    · exact isContainerName_legacyNetwork h payload
  · exact isContainerName_legacy h payload name hname

/-- A project with an upper-case name in two words. -/
def webShop : Payload where
  allocationId := "alloc1"
  namespace_ := "team"
  projectSlug := "Web.Shop"
  environment := "dev"
  revision := "v1.0"
  imageRef := "shop:v1.0"
  containerPort := 3000
  healthPath := "/health"
  routingMode := .directPort
  configFingerprint := none
  cpuLimitMillicores := none
  memoryLimitMb := none
  pidsLimit := none

/-- The digests of `alloc1` and of the empty text. -/
def webShopAgent : Agent where
  targetId := "target"
  sha256 := fun text =>
    if text = "alloc1" then "f27f98b12ae086fcc09f74723ed3260f68d27324fe5cb1428ee9174b1a0b239c"
    else "e3b0c44298fc1c149afbf4c8996fb92427ae41e4649b934ca495991b7852b855"

theorem dockerNames_legal_webShop :
    (webShopAgent.dockerNames webShop).all (fun name => isContainerName name.toList) = true := by
  refine List.all_eq_true.mpr (dockerNames_legal (fun s => ?_) webShop)
  unfold webShopAgent
  dsimp only
  split
  · decide
  · decide

end Agent

end InitPad.Workload
