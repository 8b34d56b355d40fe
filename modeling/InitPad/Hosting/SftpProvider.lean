import InitPad.Hosting.DockerProvider

/-!
# InitPad.Hosting.SftpProvider

`SftpProvider` with the helpers of `ssh-utils.ts`: the built-in target with its releases and the
link that publishes one of them, and a user's own server with a plain served directory. Permissions
set over SFTP are left out, as they are best effort, and so is the remote output that errors quote.
The recursion of `sftpRmrf` follows what the server lists; `depth` bounds how deep directories
nest.
-/

namespace InitPad.Hosting

open Store Interleave Prog

structure ExecResult where
  code : Nat
  stdout : List String

/-- `sshExec`: a command that closes without an exit code counts as code 0. -/
def sshExec (script : List ShellStep) : OnHosts ExecResult := do
  let exit ← await (.exec script)
  pure { code := exit.code.getD 0, stdout := exit.stdout }

/-- `mkdir -p` over SFTP; a refused level is tolerated when it exists. -/
def mkdirp (p : Path) : OnHosts Unit :=
  forEach (fun current =>
      tryCatch (await (.mkdir current)) fun error =>
        tryCatch (await (.stat current)) fun _ =>
          throw ⟨s!"mkdir {pathText current} failed: {error.message}", false⟩)
    (p.inits.filter fun q => !q.isEmpty)

def assertSftpWritable (remoteRoot : Path) : OnHosts Unit := do
  let uuid ← await .randomText
  let probe := remoteRoot ++ [s!".initpad-write-{uuid}"]
  mkdirp probe
  await (.rmdir probe)

/-- `uploadDir`, along the directory in upload order. -/
def uploadDir (localDir : List LocalEntry) (remoteDir : Path) : OnHosts Unit := do
  mkdirp remoteDir
  forEach (fun e => match e.content with
    | none => mkdirp (remoteDir ++ e.path)
    | some content => await (.put (remoteDir ++ e.path) content)) localDir

def sftpUnlink (p : Path) : OnHosts Unit := ignoreError (await (.unlink p))

def sftpReaddir (p : Path) : OnHosts (List RemoteEntry) :=
  tryCatch (await (.readdir p)) fun _ => pure []

def sftpReaddirForRemoval (p : Path) : OnHosts (Option (List RemoteEntry)) :=
  tryCatch (some <$> await (.readdir p)) fun error =>
    if error.missing then pure none else throw error

def sftpRmrf : Nat → Path → OnHosts Unit
  | 0, _ => throw ⟨"nested too deep", false⟩
  | depth + 1, p => do
    let entries ← sftpReaddirForRemoval p
    match entries with
    | none => pure ()
    | some entries =>
      forEach (fun e =>
        if e.isDir then sftpRmrf depth (p ++ [e.name]) else await (.unlink (p ++ [e.name]))) entries
      await (.rmdir p)

def dropTrailingSlashes (s : String) : String :=
  String.ofList (s.toList.reverse.dropWhile (· == '/')).reverse

/-- `replace(/^\/+|\/+$/g, '')` -/
def trimSlashes (s : String) : String :=
  String.ofList ((s.toList.dropWhile (· == '/')).reverse.dropWhile (· == '/')).reverse

def sanitizeChar (c : Char) : Bool := c.isAlphanum || "._-".toList.contains c

def sanitize (s : String) : String := String.ofList (s.toList.filter sanitizeChar)

/-! ## The effective connection -/

structure EffCfg where
  host : String
  port : Nat
  remoteRoot : Path
  publicUrl : String
  internalUrl : String
  artifactSubdir : String
  /-- A user's own server. -/
  custom : Bool
  deriving DecidableEq

namespace SftpProvider

def eff (config : ProviderConfig) (connection : Option ProviderConnection)
    (allocation : Option DeploymentAllocation) : EffCfg :=
  match connection with
  | some c =>
    let base := dropTrailingSlashes ((allocation.bind (·.publicUrl)).getD c.publicUrl)
    { host := c.host
      port := c.port
      remoteRoot := (allocation.bind (·.rootPath)).getD c.remoteRoot
      publicUrl := base
      internalUrl := base
      artifactSubdir := ""
      custom := true }
  | none =>
    let remoteRoot := (allocation.bind (·.rootPath)).getD config.sftpRemoteRoot
    let relativeRoot :=
      if config.sftpRemoteRoot.isPrefixOf remoteRoot then
        remoteRoot.drop config.sftpRemoteRoot.length
      else []
    { host := config.sftpHost
      port := config.sftpPort
      remoteRoot := remoteRoot
      publicUrl := dropTrailingSlashes ((allocation.bind (·.publicUrl)).getD config.sftpPublicUrl)
      internalUrl :=
        if relativeRoot.isEmpty then config.sftpInternalUrl
        else dropTrailingSlashes config.sftpInternalUrl ++ pathText relativeRoot
      artifactSubdir := config.sftpArtifactSubdir
      custom := false }

def slug (projectName : String) (env : EnvName) : String :=
  (sanitize s!"{projectName}-{env.text}").map Char.toLower

def servedSuffix (slug : String) (webRoot : Option String) (protectedWebLayout : Bool) : String :=
  match webRoot.filter fun webRoot => !webRoot.isEmpty && !protectedWebLayout with
  | some webRoot => slug ++ "/" ++ (trimSlashes webRoot ++ "/")
  | none => slug ++ "/"

def publicUrl (cfg : EffCfg) (slug : String) (webRoot : Option String)
    (protectedWebLayout : Bool) : String :=
  dropTrailingSlashes cfg.publicUrl ++ "/" ++ servedSuffix slug webRoot protectedWebLayout

def internalUrl (cfg : EffCfg) (slug : String) (webRoot : Option String)
    (protectedWebLayout : Bool) : String :=
  dropTrailingSlashes cfg.internalUrl ++ "/" ++ servedSuffix slug webRoot protectedWebLayout

def linkPath (cfg : EffCfg) (slug : String) : Path := cfg.remoteRoot ++ [slug]

def releasesPath (cfg : EffCfg) (slug : String) : Path := cfg.remoteRoot ++ [slug ++ "-releases"]

def stagingPath (cfg : EffCfg) (slug : String) : Path := cfg.remoteRoot ++ [slug ++ "__deploying"]

def archivePath (cfg : EffCfg) (slug : String) : Path := cfg.remoteRoot ++ [slug ++ ".deploy.tar"]

def dataPath (cfg : EffCfg) (slug : String) : Path := cfg.remoteRoot ++ [".initpad-data", slug]

def quarantineRoot (cfg : EffCfg) : Path := cfg.remoteRoot ++ [".initpad-quarantine"]

def quarantinePath (cfg : EffCfg) (slug kind stamp : String) : Path :=
  quarantineRoot cfg ++ [slug ++ "-" ++ kind ++ stamp]

def PRIVATE_PROBE : String := ".initpad-private-probe"

def PRIVATE_HTACCESS : String :=
  "<IfModule mod_authz_core.c>\n  Require all denied\n</IfModule>\n" ++
    "<IfModule !mod_authz_core.c>\n  Order allow,deny\n  Deny from all\n</IfModule>\n"

def failed (reason : String) (url : String) : DeployResult :=
  { failed := true, url := url, reason := some reason }

def waitReachable (url : String) : OnHosts Bool := pollHealthy url 10

def privateFilesProtected (url : String) : OnHosts Bool :=
  tryCatch (do let ok ← await (.httpGet url); pure (!ok)) fun _ => pure false

/-- Whether the connection allows running shell commands. -/
def execWorks : OnHosts Bool :=
  tryCatch (do
      let r ← sshExec [.echo "ok"]
      pure (r.code == 0 && r.stdout.any fun line => containsText line "ok"))
    fun _ => pure false

def swapLink (remoteRoot : Path) (name : String) (target : Path) : OnHosts Unit := do
  sftpUnlink (remoteRoot ++ [name])
  await (.symlink target (remoteRoot ++ [name]))

/-- Throw unless the command ends with code 0. -/
def require (message : String) (script : List ShellStep) : OnHosts ExecResult := do
  let r ← sshExec script
  if r.code = 0 then pure r else throw ⟨message, false⟩

/-! ## Uploading to a user's own server -/

/-- Letters, digits, `.`, `_` and `-` in every part, and no part `..`. -/
def validWritableDir (directory : Path) : Bool :=
  !directory.isEmpty && directory.all fun part =>
    part != ".." && part.toList.all fun c => sanitizeChar c

def attachStableWritableDirs (cfg : EffCfg) (slug : String) (staging : Path)
    (writable : List Path) : OnHosts Unit := do
  let dataRoot := cfg.remoteRoot ++ [".initpad-data"]
  let projectData := dataPath cfg slug
  let _ ← require "Could not prepare protected runtime storage"
    [.makeDirectory projectData, .changeMode dataRoot, .changeMode projectData,
      .write (dataRoot ++ [".htaccess"]) PRIVATE_HTACCESS,
      .write (projectData ++ [".initpad-probe"]) "initpad"]
  forEach (fun directory =>
    if validWritableDir directory then do
      let logical := if directory.head? = some ".initpad-app" then directory.tail else directory
      let stable := projectData ++ logical
      let staged := staging ++ directory
      let name := "/".intercalate logical
      let _ ← require s!"Could not attach runtime storage '{name}'"
        [.makeDirectory stable, .removeTree staged, .linkTo stable staged]
      let _ ← sshExec [.changeMode stable]
    else
      let name := "/".intercalate directory
      throw ⟨s!"Invalid writable directory '{name}'", false⟩) writable

def uploadWithShell (cfg : EffCfg) (slug : String) (localDir : List LocalEntry)
    (input : DeployInput) : OnHosts Unit := do
  let dest := linkPath cfg slug
  let staging := stagingPath cfg slug
  let tarPath := archivePath cfg slug
  await (.putArchive tarPath localDir)
  let _ ← require "Remote staging failed" [.removeTree staging, .makeDirectory staging]
  let extracted ← sshExec [.extract tarPath staging]
  let _ ← sshExec [.removeTree tarPath]
  if extracted.code ≠ 0 then throw ⟨"Remote extract failed", false⟩
  else
    let _ ← require "Remote chmod failed" [.changeMode staging]
    forEach (fun d => do
      let _ ← sshExec [.changeMode (staging ++ d)]
      if !input.protectedWebLayout then
        let _ ← sshExec [.changeMode (staging ++ d)]) input.writableDirs
    if input.protectedWebLayout && !input.writableDirs.isEmpty then
      attachStableWritableDirs cfg slug staging input.writableDirs
    let stamp ← await .randomText
    let _ ← require "Remote publish failed"
      [.removeOrQuarantine dest (quarantineRoot cfg) (quarantinePath cfg slug "" stamp),
        .move staging dest]

def uploadOverSftp (depth : Nat) (cfg : EffCfg) (slug : String) (localDir : List LocalEntry) :
    OnHosts Unit := do
  let dest := linkPath cfg slug
  let staging := stagingPath cfg slug
  sftpRmrf depth staging
  mkdirp staging
  uploadDir localDir staging
  sftpRmrf depth dest
  await (.rename staging dest)

def uploadCustom (depth : Nat) (cfg : EffCfg) (slug : String) (localDir : List LocalEntry)
    (input : DeployInput) : OnHosts Unit := do
  let shell ← execWorks
  if shell then uploadWithShell cfg slug localDir input
  else if input.protectedWebLayout && !input.writableDirs.isEmpty then
    throw ⟨"This PHP deployment requires SSH shell access on the SFTP target so InitPad can " ++
      "isolate persistent runtime data safely.", false⟩
  else uploadOverSftp depth cfg slug localDir

/-! ## Removal -/

/-- What is published or uploaded below the public root, with the archive name of each. -/
def publicPaths (cfg : EffCfg) (slug stamp : String) : List (Path × Path) :=
  [(linkPath cfg slug, quarantinePath cfg slug "legacy-" stamp),
    (stagingPath cfg slug, quarantinePath cfg slug "staging-" stamp),
    (archivePath cfg slug, quarantinePath cfg slug "archive-" stamp)]

def publicScript (cfg : EffCfg) (slug stamp : String) : List ShellStep :=
  (publicPaths cfg slug stamp).map fun e => .removeOrQuarantine e.1 (quarantineRoot cfg) e.2

def dataQuarantineScript (cfg : EffCfg) (slug stamp : String) : List ShellStep :=
  [.makeDirectory (quarantineRoot cfg), .changeMode (quarantineRoot cfg),
    .move (dataPath cfg slug) (quarantinePath cfg slug "runtime-" stamp)]

def removeData (cfg : EffCfg) (slug : String) : OnHosts Unit := do
  let removed ← sshExec [.removeTree (dataPath cfg slug)]
  if removed.code = 0 then pure ()
  else
    let stamp ← await .randomText
    let _ ← require "Public deployment was removed, but protected runtime data cleanup failed"
      (dataQuarantineScript cfg slug stamp)

def pendingQuarantine (cfg : EffCfg) (slug : String) : OnHosts (Option String) := do
  let pending ← sshExec [.findDirectories (quarantineRoot cfg) (slug ++ "-")]
  if pending.code ≠ 0 then
    pure (some ("Public deployment removed, but protected quarantine state could not be verified " ++
      s!"at {pathText (quarantineRoot cfg)}."))
  else if pending.stdout.isEmpty then pure none
  else
    pure (some ("Public deployment removed. Its canonical path is free for reuse. Target " ++
      "administrator cleanup is still required for archived runtime data: " ++
      ", ".intercalate pending.stdout))

def removeCustom (depth : Nat) (cfg : EffCfg) (slug : String) : OnHosts (Option String) := do
  let shell ← execWorks
  if !shell then
    sftpRmrf depth (linkPath cfg slug)
    pure none
  else
    let stamp ← await .randomText
    let _ ← require
      "Remote public teardown failed and the deployment name could not be released"
      (publicScript cfg slug stamp)
    removeData cfg slug
    pendingQuarantine cfg slug

def removeBuiltin (depth : Nat) (cfg : EffCfg) (slug : String) : OnHosts Unit := do
  sftpUnlink (linkPath cfg slug)
  sftpRmrf depth (releasesPath cfg slug)

def teardownConnected (depth : Nat) (cfg : EffCfg) (slug : String) : OnHosts (Option String) := do
  await .openSftp
  if cfg.custom then removeCustom depth cfg slug
  else do
    removeBuiltin depth cfg slug
    pure none

def teardown (config : ProviderConfig) (depth : Nat) (input : TeardownInput) :
    OnHosts (Option String) := do
  let connected ← succeeds (await .connect)
  if connected then
    teardownConnected depth (eff config input.connection input.allocation)
      (slug input.projectName input.env)
  else pure none

/-! ## Deploy -/

/-- Whether the files that must not be served are not; if they are, the deployment is removed. -/
def verifyProtection (depth : Nat) (cfg : EffCfg) (slug : String) (input : DeployInput)
    (internalUrl : String) : OnHosts Bool := do
  let app := dropTrailingSlashes internalUrl ++ "/.initpad-app/"
  let base := dropTrailingSlashes cfg.internalUrl
  let checks := [app ++ PRIVATE_PROBE, app ++ "composer.json"] ++
    (if input.writableDirs.isEmpty then [] else [s!"{base}/.initpad-data/{slug}/.initpad-probe"])
  let results ← checks.mapM privateFilesProtected
  if results.all id then do
    sftpUnlink (linkPath cfg slug ++ [".initpad-app", PRIVATE_PROBE])
    sftpUnlink (dataPath cfg slug ++ [".initpad-probe"])
    pure true
  else do
    if cfg.custom then
      let _ ← removeCustom depth cfg slug
    else removeBuiltin depth cfg slug
    pure false

def publishFiles (depth : Nat) (cfg : EffCfg) (slug version : String)
    (localDir : List LocalEntry) (input : DeployInput) : OnHosts Unit :=
  if cfg.custom then uploadCustom depth cfg slug localDir input
  else do
    let release := releasesPath cfg slug ++ [version]
    mkdirp release
    uploadDir localDir release
    swapLink cfg.remoteRoot slug [slug ++ "-releases", version]

def verifyPublished (depth : Nat) (cfg : EffCfg) (slug : String) (input : DeployInput) :
    OnHosts DeployResult := do
  let url := publicUrl cfg slug input.webRoot input.protectedWebLayout
  let internal := internalUrl cfg slug input.webRoot input.protectedWebLayout
  let reachable ← waitReachable internal
  if !reachable then
    pure (failed (s!"Files uploaded, but {url} is not serving them (is the web server up / the " ++
      "public URL correct?).") url)
  else if input.protectedWebLayout then do
    let safe ← verifyProtection depth cfg slug input internal
    if safe then pure { url := url }
    else pure (failed ("Deployment was rolled back because the server exposed private " ++
      "application files. Enable Apache .htaccess/AllowOverride for this target.") "")
  else pure { url := url }

def deployedVersion (version : String) : String :=
  if (sanitize version).isEmpty then "latest" else sanitize version

def deployConnected (depth : Nat) (cfg : EffCfg) (slug version : String)
    (localDir : List LocalEntry) (input : DeployInput) : OnHosts DeployResult :=
  tryCatch (do
      await .openSftp
      let writable ← tryCatch (do assertSftpWritable cfg.remoteRoot; pure none) fun e =>
        pure (some e.message)
      match writable with
      | some message =>
        pure (failed (s!"Deployment path {pathText cfg.remoteRoot} on {cfg.host} does not exist " ++
          s!"or is not writable ({message})") "")
      | none =>
        publishFiles depth cfg slug version localDir input
        verifyPublished depth cfg slug input)
    fun e => pure (failed e.message "")

def deploy (config : ProviderConfig) (depth : Nat) (input : DeployInput) :
    OnHosts DeployResult := do
  let cfg := eff config input.connection input.allocation
  let artifactDir := input.artifactDir.getD cfg.artifactSubdir
  match input.localDir artifactDir with
  | none =>
    let shown := if artifactDir.isEmpty then "." else artifactDir
    pure (failed s!"Artifact directory '{shown}' does not exist in the deployed version." "")
  | some localDir =>
    let connected ← tryCatch (do await .connect; pure none) fun e => pure (some e.message)
    match connected with
    | some message =>
      pure (failed s!"Cannot reach SFTP host {cfg.host}:{cfg.port} ({message})" "")
    | none =>
      deployConnected depth cfg (slug input.projectName input.env)
        (deployedVersion input.version) localDir input

def stop (config : ProviderConfig) (input : TeardownInput) : OnHosts Unit := do
  let connected ← succeeds (await .connect)
  if connected then
    await .openSftp
    sftpUnlink (linkPath (eff config input.connection input.allocation)
      (slug input.projectName input.env))
  else pure ()

/-- `sort()`, the last element; an empty name is falsy. -/
def newestRelease (entries : List RemoteEntry) : String :=
  ((entries.filter (·.isDir)).map (·.name)).foldl (fun a b => if a < b then b else a) ""

def startedVersion (cfg : EffCfg) (slug : String) (version : Option String) : OnHosts String :=
  let version := sanitize (version.getD "")
  if version.isEmpty then do
    let entries ← sftpReaddir (releasesPath cfg slug)
    pure (newestRelease entries)
  else pure version

def startConnected (cfg : EffCfg) (slug : String) (version : Option String) :
    OnHosts DeployResult := do
  await .openSftp
  let version ← startedVersion cfg slug version
  if version.isEmpty then pure (failed "No release to start — use Redeploy first." "")
  else
    swapLink cfg.remoteRoot slug [slug ++ "-releases", version]
    let url := publicUrl cfg slug none false
    let reachable ← waitReachable (internalUrl cfg slug none false)
    if reachable then pure { url := url } else pure (failed s!"{url} is not serving." url)

def start (config : ProviderConfig) (input : StartInput) : OnHosts DeployResult := do
  let connected ← tryCatch (do await .connect; pure none) fun e => pure (some e.message)
  match connected with
  | some message => pure (failed s!"Cannot reach SFTP host ({message})" "")
  | none =>
    startConnected (eff config input.connection input.allocation)
      (slug input.projectName input.env) input.version

end SftpProvider

end InitPad.Hosting
