import InitPad.Deployment.AgentDelivery
import InitPad.Interleave.Commit
import InitPad.Store.Tree

/-!
# InitPad.Hosting.World

The machines that the control plane deploys to by itself: its Docker daemon, and the SFTP server
that an environment's connection reaches. `Stmt` lists the remote calls of `DockerProvider`,
`SftpProvider` and `ssh-utils.ts`. Every one of them can fail, with or without its effect; what the
machine decides by itself (a port, a refusal, a killed shell command) is in `Reply`.

Paths are lists of names from the root of the server, and a path names the entry it is spelled for:
a link on the way is not followed. Modes and owners are not modelled; a host that denies an
operation on an entry says so in its reply.
-/

namespace InitPad.Hosting

open Store Interleave

abbrev Path := List String

/-- A local directory in upload order: every directory before what it contains. A file's content
is only compared. -/
structure LocalEntry where
  path : Path
  content : Option String
  deriving DecidableEq

inductive Entry where
  | directory
  | file (content : String)
  | link (target : Path)
  | archive (content : List LocalEntry)
  deriving DecidableEq

abbrev Files := Tree String Entry

structure RemoteEntry where
  name : String
  isDir : Bool
  deriving DecidableEq

structure Image where
  id : Nat
  repoTags : List String
  deriving DecidableEq

/-- `com.initpad.managed`, `.project`, `.environment`, and the allocation's id and namespace. -/
structure Labels where
  managed : Bool
  project : String
  environment : EnvName
  allocation : Option (Id × String)
  deriving DecidableEq

structure ContainerSpec where
  image : String
  name : String
  labels : Labels
  containerPort : Nat
  deriving DecidableEq

structure Container where
  id : Nat
  imageId : Nat
  spec : ContainerSpec
  running : Bool := false
  hostPort : Nat := 0
  deriving DecidableEq

inductive Ref where
  | name (name : String)
  | id (id : Nat)
  deriving DecidableEq

def Ref.names (c : Container) : Ref → Bool
  | .name n => c.spec.name == n
  | .id i => c.id == i

structure Docker where
  images : List Image := []
  networks : List String := []
  containers : List Container := []
  nextId : Nat := 0
  deriving DecidableEq

structure Hosts where
  docker : Docker := {}
  files : Files := {}
  deriving DecidableEq

/-- An error of a call; `missing` is `missingRemotePath(error)`. -/
structure Failure where
  message : String
  missing : Bool := false
  deriving DecidableEq

/-- What a machine decides about one call. -/
structure Reply where
  /-- The call fails, before or behind its effect. -/
  fault : Option (Fault Failure) := none
  hostPort : Nat := 0
  /-- `response.ok` of an HTTP request. -/
  ok : Bool := true
  /-- The entries on which the host denies a change. -/
  denied : Path → Bool := fun _ => false
  /-- A shell command closes without an exit code. What a killed command does not get to is
  `denied`. -/
  exitLost : Bool := false
  /-- `Date.now().toString(36)`, `randomUUID()` -/
  stamp : String := ""

/-! ## Files -/

namespace Files

variable (t : Files)

def holds (p : Path) : Bool :=
  p.isEmpty || match t.get? p with
    | some .directory => true
    | some (.link _) => true
    | _ => false

/-- `mkdir -p` -/
def makeDirectories (p : Path) : Files :=
  p.inits.foldl (fun t q => if q.isEmpty || (t.get? q).isSome then t else t.set q .directory) t

def extract (content : List LocalEntry) (p : Path) : Files :=
  content.foldl (fun t e =>
    t.set (p ++ e.path) (match e.content with
      | some content => .file content
      | none => .directory)) t

end Files

/-- The commands of a shell script, each with its paths quoted. `removeOrQuarantine` is
`if rm -rf -- p; then :; else mkdir -p -- root && chmod 0700 root && mv -- p q && echo …; fi`. -/
inductive ShellStep where
  | echo (line : String)
  | removeTree (p : Path)
  | makeDirectory (p : Path)
  | changeMode (p : Path)
  | write (p : Path) (content : String)
  | extract (archive p : Path)
  | linkTo (target p : Path)
  | move (p q : Path)
  | removeOrQuarantine (p root q : Path)
  /-- `find root -mindepth 1 -maxdepth 1 -type d -name 'start*'`, if `root` is a directory. -/
  | findDirectories (root : Path) (start : String)
  deriving DecidableEq

def pathText (p : Path) : String := "/" ++ "/".intercalate p

structure StepOutcome where
  succeeded : Bool
  stdout : List String := []
  files : Files

def ShellStep.run (i : Reply) (t : Files) : ShellStep → StepOutcome
  | .echo line => ⟨true, [line], t⟩
  | .removeTree p => ⟨(t.prune p i.denied).clear p, [], t.prune p i.denied⟩
  | .makeDirectory p => if i.denied p then ⟨false, [], t⟩ else ⟨true, [], Files.makeDirectories t p⟩
  | .changeMode p => ⟨!i.denied p, [], t⟩
  | .write p content => if i.denied p then ⟨false, [], t⟩ else ⟨true, [], t.set p (.file content)⟩
  | .extract archive p =>
    match t.get? archive with
    | some (.archive content) =>
      if i.denied p then ⟨false, [], t⟩ else ⟨true, [], Files.extract t content p⟩
    | _ => ⟨false, [], t⟩
  | .linkTo target p =>
    if i.denied p || (t.get? p).isSome then ⟨false, [], t⟩ else ⟨true, [], t.set p (.link target)⟩
  | .move p q =>
    if i.denied p || t.clear p then ⟨false, [], t⟩ else ⟨true, [], t.move p q⟩
  | .removeOrQuarantine p root q =>
    let left := t.prune p i.denied
    if left.clear p then ⟨true, [], left⟩
    else if i.denied root || i.denied p then ⟨false, [], left⟩
    else ⟨true, ["INITPAD_QUARANTINED:" ++ pathText q], (Files.makeDirectories left root).move p q⟩
  | .findDirectories root start =>
    if i.denied root then ⟨false, [], t⟩
    else ⟨true, ((t.children root).filter fun e =>
        decide (e.2 = .directory) && start.toList.isPrefixOf e.1.toList).map fun e =>
          pathText (root ++ [e.1]), t⟩

/-- Steps joined by `&&`. -/
def runScript (i : Reply) : List ShellStep → Files → StepOutcome
  | [], t => ⟨true, [], t⟩
  | step :: steps, t =>
    let outcome := step.run i t
    if outcome.succeeded then
      let rest := runScript i steps outcome.files
      ⟨rest.succeeded, outcome.stdout ++ rest.stdout, rest.files⟩
    else outcome

/-- How a shell command closes. -/
structure Exit where
  code : Option Nat
  stdout : List String

/-! ## Calls -/

inductive Stmt : Type → Type 1 where
  -- Docker Engine API
  | ping : Stmt Unit
  | inspectNetwork (name : String) : Stmt Unit
  | createNetwork (name : String) : Stmt Unit
  | inspectImage (ref : String) : Stmt Unit
  | pullImage (ref : String) : Stmt Unit
  | buildImage (tag : String) : Stmt Unit
  | removeImage (tag : String) : Stmt Unit
  | listImages : Stmt (List Image)
  | listContainers : Stmt (List Container)
  | listManaged (project : String) (environment : EnvName) : Stmt (List Container)
  | createContainer (spec : ContainerSpec) : Stmt Nat
  | startContainer (ref : Ref) : Stmt Unit
  | stopContainer (ref : Ref) : Stmt Unit
  | inspectContainer (ref : Ref) : Stmt Container
  | removeContainer (ref : Ref) : Stmt Unit
  -- HTTP
  | httpGet (url : String) : Stmt Bool
  -- SSH and SFTP
  | connect : Stmt Unit
  | openSftp : Stmt Unit
  | mkdir (p : Path) : Stmt Unit
  | stat (p : Path) : Stmt Unit
  | rmdir (p : Path) : Stmt Unit
  | unlink (p : Path) : Stmt Unit
  | symlink (target p : Path) : Stmt Unit
  | rename (p q : Path) : Stmt Unit
  | readdir (p : Path) : Stmt (List RemoteEntry)
  | put (p : Path) (content : String) : Stmt Unit
  | putArchive (p : Path) (content : List LocalEntry) : Stmt Unit
  | exec (script : List ShellStep) : Stmt Exit
  -- the process itself
  | randomText : Stmt String

namespace Docker

variable (d : Docker)

def container? (ref : Ref) : Option Container := d.containers.find? ref.names

def image? (tag : String) : Option Image := d.images.find? fun image => image.repoTags.contains tag

def removeContainer (ref : Ref) : Docker :=
  { d with containers := d.containers.filter fun c => !ref.names c }

def updateContainer (ref : Ref) (change : Container → Container) : Docker :=
  { d with containers := d.containers.map fun c => if ref.names c then change c else c }

/-- A pull or a build moves the tag to the image it leaves. -/
def tagNew (tag : String) : Docker :=
  { d with
    images := d.images.map (fun image => { image with repoTags := image.repoTags.erase tag }) ++
      [⟨d.nextId, [tag]⟩]
    nextId := d.nextId + 1 }

/-- Without force an image keeps its last tag while a container uses it. -/
def untag (tag : String) : Option Docker :=
  (d.image? tag).bind fun image =>
    if image.repoTags.length ≤ 1 && d.containers.any fun c => c.imageId == image.id then none
    else some { d with
      images := (d.images.map fun image =>
        { image with repoTags := image.repoTags.erase tag }).filter fun image =>
          !image.repoTags.isEmpty }

end Docker

def Hosts.onDocker (h : Hosts) (d : Docker) : Hosts := { h with docker := d }

def Hosts.onFiles (h : Hosts) (t : Files) : Hosts := { h with files := t }

def noSuch (what : String) : Failure := ⟨"no such " ++ what, false⟩

def noSuchFile : Failure := ⟨"No such file", true⟩

def refused (message : String) : Failure := ⟨message, false⟩

/-- What the machine does and answers when the call reaches it. -/
def Stmt.run (i : Reply) : ∀ {β : Type}, Stmt β → Hosts → Except Failure (β × Hosts)
  | _, .ping, h => .ok ((), h)
  | _, .inspectNetwork name, h =>
    if h.docker.networks.contains name then .ok ((), h) else .error (noSuch "network")
  | _, .createNetwork name, h =>
    .ok ((), h.onDocker { h.docker with networks := h.docker.networks ++ [name] })
  | _, .inspectImage ref, h =>
    if (h.docker.image? ref).isSome then .ok ((), h) else .error (noSuch "image")
  | _, .pullImage ref, h => .ok ((), h.onDocker (h.docker.tagNew ref))
  | _, .buildImage tag, h => .ok ((), h.onDocker (h.docker.tagNew tag))
  | _, .removeImage tag, h =>
    match h.docker.untag tag with
    | some d => .ok ((), h.onDocker d)
    | none => .error (refused "conflict")
  | _, .listImages, h => .ok (h.docker.images, h)
  | _, .listContainers, h => .ok (h.docker.containers, h)
  | _, .listManaged project environment, h =>
    .ok (h.docker.containers.filter fun c => c.spec.labels.managed &&
      c.spec.labels.project == project && c.spec.labels.environment == environment, h)
  | _, .createContainer spec, h =>
    match h.docker.image? spec.image with
    | none => .error (noSuch "image")
    | some image =>
      if (h.docker.container? (.name spec.name)).isSome then .error (refused "name in use")
      else .ok (h.docker.nextId, h.onDocker { h.docker with
        containers := h.docker.containers ++
          [{ id := h.docker.nextId, imageId := image.id, spec := spec }]
        nextId := h.docker.nextId + 1 })
  | _, .startContainer ref, h =>
    match h.docker.container? ref with
    | none => .error (noSuch "container")
    | some c =>
      if c.running then .error (refused "container already started")
      else .ok ((), h.onDocker (h.docker.updateContainer ref fun c =>
        { c with running := true, hostPort := i.hostPort }))
  | _, .stopContainer ref, h =>
    match h.docker.container? ref with
    | none => .error (noSuch "container")
    | some c =>
      if c.running then
        .ok ((), h.onDocker (h.docker.updateContainer ref fun c => { c with running := false }))
      else .error (refused "container already stopped")
  | _, .inspectContainer ref, h =>
    match h.docker.container? ref with
    | none => .error (noSuch "container")
    | some c => .ok (c, h)
  | _, .removeContainer ref, h =>
    if (h.docker.container? ref).isSome then
      .ok ((), h.onDocker (h.docker.removeContainer ref))
    else .error (noSuch "container")
  | _, .httpGet _, h => .ok (i.ok, h)
  | _, .connect, h => .ok ((), h)
  | _, .openSftp, h => .ok ((), h)
  | _, .mkdir p, h =>
    if (h.files.get? p).isSome || !Files.holds h.files p.dropLast then .error (refused "Failure")
    else .ok ((), h.onFiles (h.files.set p .directory))
  | _, .stat p, h =>
    if p.isEmpty || (h.files.get? p).isSome then .ok ((), h) else .error noSuchFile
  | _, .rmdir p, h =>
    match h.files.get? p with
    | none => .error noSuchFile
    | some .directory =>
      if h.files.bare p then .ok ((), h.onFiles (h.files.erase p)) else .error (refused "Failure")
    | some _ => .error (refused "Failure")
  | _, .unlink p, h =>
    match h.files.get? p with
    | none => .error noSuchFile
    | some .directory => .error (refused "Failure")
    | some _ => .ok ((), h.onFiles (h.files.erase p))
  | _, .symlink target p, h =>
    if (h.files.get? p).isSome || !Files.holds h.files p.dropLast then .error (refused "Failure")
    else .ok ((), h.onFiles (h.files.set p (.link (p.dropLast ++ target))))
  | _, .rename p q, h =>
    if h.files.clear p then .error noSuchFile
    else if h.files.clear q then .ok ((), h.onFiles (h.files.move p q))
    else .error (refused "Failure")
  | _, .readdir p, h =>
    match h.files.get? p with
    | none => .error noSuchFile
    | some .directory => .ok ((h.files.children p).map fun e => ⟨e.1, e.2 = .directory⟩, h)
    | some (.link target) =>
      .ok ((h.files.children target).map fun e => ⟨e.1, e.2 = .directory⟩, h)
    | some _ => .error (refused "Failure")
  | _, .put p content, h =>
    if h.files.get? p = some .directory || !Files.holds h.files p.dropLast then
      .error (refused "Failure")
    else .ok ((), h.onFiles (h.files.set p (.file content)))
  | _, .putArchive p content, h =>
    if h.files.get? p = some .directory || !Files.holds h.files p.dropLast then
      .error (refused "Failure")
    else .ok ((), h.onFiles (h.files.set p (.archive content)))
  | _, .exec script, h =>
    let outcome := runScript i script h.files
    .ok (⟨if i.exitLost then none else some (if outcome.succeeded then 0 else 1),
      outcome.stdout⟩, h.onFiles outcome.files)
  | _, .randomText, h => .ok (i.stamp, h)

def Stmt.fault (i : Reply) {β : Type} : Stmt β → Option (Fault Failure)
  | .randomText => none
  | _ => i.fault

instance : Semantics Stmt Reply Hosts Failure :=
  ⟨fun e i h => Interleave.execute (e.fault i) (e.run i h) h⟩

/-- A function of a provider. -/
abbrev OnHosts (α : Type) := Prog Stmt Failure α

abbrev HostsMoment := Moment Stmt Reply Hosts Failure

end InitPad.Hosting
