import InitPad.Deployment.GatewayRoutes
import InitPad.Gateway.Host

/-!
# InitPad.Gateway.Payload

The payload of a gateway route job as the Agent works with it, and the Docker names that
`docker-lifecycle` derives from it.
-/

namespace InitPad

inductive GatewayDesiredState where
  | active | stopped | absent
  deriving DecidableEq

structure GatewayRoutePayload where
  routeId : String
  generation : Nat
  desiredState : GatewayDesiredState
  hostname : String
  allocationId : String
  namespace_ : String
  projectSlug : String
  environment : String
  revision : Option String
  containerPort : Nat
  healthPath : String
  workloadSlot : Option String
  activation : Option ActivationMode
  deriving DecidableEq

/-- The configuration of an Agent; `sha256` is the hexadecimal digest of a text. -/
structure GatewayAgent where
  targetId : String
  gatewayContainer : String
  sha256 : String → String

/-- `[a-zA-Z0-9][a-zA-Z0-9_.-]{0,127}` -/
def isContainerName (name : List Char) : Bool :=
  name.length ≤ 128 && name.head?.any Char.isAlphanum &&
    name.all fun c => c.isAlphanum || "_.-".toList.contains c

/-- `[a-f0-9]{64}` -/
def isContainerId (id : List Char) : Bool := id.length == 64 && id.all isLowerHex

/-- A repository of at most 255 characters, a colon, and a tag of at most 128. -/
def isProjectImageRef (ref : List Char) : Bool :=
  (List.range ref.length).any fun n =>
    let repository := ref.take n
    let tag := ref.drop (n + 1)
    ref[n]? == some ':' &&
      (repository.length ≤ 255 && repository.head?.any lowerOrDigit &&
        repository.all fun c => lowerOrDigit c || "._:/-".toList.contains c) &&
      (tag.length ≤ 128 && tag.head?.any (fun c => lowerOrDigit c || c == '_') &&
        tag.all fun c => lowerOrDigit c || "._-".toList.contains c)

/-- `replace(/[^a-z0-9_.-]+/g, '-')`; the flag says that the last character was replaced. -/
def replaceUnsafe : Bool → List Char → List Char
  | _, [] => []
  | replaced, c :: cs =>
    if lowerOrDigit c || "_.-".toList.contains c then c :: replaceUnsafe false cs
    else if replaced then replaceUnsafe true cs
    else '-' :: replaceUnsafe true cs

def trimUnsafe (s : List Char) : List Char :=
  ((s.dropWhile fun c => !lowerOrDigit c).reverse.dropWhile fun c => !lowerOrDigit c).reverse

def dockerNamePart (value : String) : String :=
  String.ofList (trimUnsafe (replaceUnsafe false (value.toList.map Char.toLower)))

namespace GatewayAgent

variable (agent : GatewayAgent)

def digest (value : String) : String := String.ofList ((agent.sha256 value).toList.take 12)

def boundedDockerName (value : String) : String :=
  if value.length ≤ 128 then value
  else String.ofList (value.toList.take 115) ++ "-" ++ agent.digest value

def allocationDockerScope (allocationId : String) : String := agent.digest allocationId

variable (payload : GatewayRoutePayload)

def legacyWorkloadContainerName : String :=
  agent.boundedDockerName ("initpad-" ++ dockerNamePart payload.namespace_ ++ "-" ++
    dockerNamePart payload.projectSlug ++ "-" ++ dockerNamePart payload.environment)

def workloadContainerName : String :=
  agent.boundedDockerName ("initpad-" ++ dockerNamePart payload.namespace_ ++ "-a" ++
    agent.allocationDockerScope payload.allocationId ++ "-" ++
    dockerNamePart payload.projectSlug ++ "-" ++ dockerNamePart payload.environment)

def managedWorkloadContainerName (slot : String) : String :=
  agent.boundedDockerName (agent.workloadContainerName payload ++ "-rev-" ++ slot)

def legacyManagedWorkloadContainerName (slot : String) : String :=
  agent.boundedDockerName (agent.legacyWorkloadContainerName payload ++ "-rev-" ++ slot)

/-- `workloadNetworkName` for a managed gateway. -/
def workloadNetworkName : String :=
  agent.boundedDockerName ("net-" ++ dockerNamePart payload.namespace_ ++ "-a" ++
    agent.allocationDockerScope payload.allocationId ++ "-" ++
    dockerNamePart payload.projectSlug ++ "-" ++ dockerNamePart payload.environment)

def legacyWorkloadNetworkName : String :=
  agent.boundedDockerName ("net-" ++ dockerNamePart payload.namespace_ ++ "-" ++
    dockerNamePart payload.projectSlug ++ "-" ++ dockerNamePart payload.environment)

end GatewayAgent

end InitPad
