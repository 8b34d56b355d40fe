import InitPad.Provisioning.World

/-!
# InitPad.Provisioning.Scm

The provider calls of provisioning, for the Gitea and the GitHub adapter. Where a name is taken,
Gitea's adapter goes on with the repository that it finds there and GitHub's refuses; when a later
step of `provision` fails, GitHub's adapter deletes the repository and Gitea's leaves it.
-/

namespace InitPad.Provisioning

open Interleave
open Prog (await)

def PLATFORM_SECRETS : List String :=
  ["INITPAD_DEPLOY_TOKEN", "INITPAD_REGISTRY", "INITPAD_PLATFORM_URL", "INITPAD_REGISTRY_USER",
    "INITPAD_REGISTRY_PASSWORD"]

def installationToken : ScmKind → Provision Unit
  | .gitea => pure ()
  | .github => await (.aside "installation token")

def putSecrets (key : RepositoryKey) : List String → Provision Unit :=
  Prog.forEach fun secret => await (.putSecret key secret)

def deleteSecrets (key : RepositoryKey) : List String → Provision Unit :=
  Prog.forEach fun secret => await (.deleteSecret key secret)

def configureRepoSecrets (repository : ScmRepositoryRef) : Provision Unit :=
  match repository.key.provider with
  | .gitea => do
    putSecrets repository.key ["INITPAD_DEPLOY_TOKEN", "INITPAD_REGISTRY", "INITPAD_PLATFORM_URL"]
    await (.aside "replace the registry token")
    putSecrets repository.key ["INITPAD_REGISTRY_USER", "INITPAD_REGISTRY_PASSWORD"]
  | .github => do
    await (.aside "installation token and Actions public key")
    putSecrets repository.key ["INITPAD_DEPLOY_TOKEN", "INITPAD_REGISTRY", "INITPAD_PLATFORM_URL"]

def removeRepoSecrets (repository : ScmRepositoryRef) : Provision Unit := do
  installationToken repository.key.provider
  deleteSecrets repository.key PLATFORM_SECRETS
  match repository.key.provider with
  | .gitea => await (.aside "revoke the registry token")
  | .github => pure ()

def deleteRepo (repository : ScmRepositoryRef) : Provision Unit := do
  installationToken repository.key.provider
  await (.deleteRepository repository.key)
  match repository.key.provider with
  | .gitea => (await (.aside "revoke the registry token")).ignoreError
  | .github => pure ()

/-- The id in the response; without one the repository is looked up. 409 (it exists already) counts
as success. -/
def repositoryIdentity (key : RepositoryKey) : CreateResponse → Provision Id
  | .created (some id) => pure id
  | _ => await (.readRepository key)

/-- `createRepo` and `pushScaffold` of the Gitea adapter. -/
def provisionGitea (key : RepositoryKey) : Provision ScmRepositoryRef := do
  let response ← await (.createRepository key)
  let repositoryId ← repositoryIdentity key response
  let repository : ScmRepositoryRef := ⟨key, some repositoryId⟩
  (await (.aside "enable Actions")).ignoreError
  configureRepoSecrets repository
  await (.push key)
  return repository

def finishGithub (repository : ScmRepositoryRef) : Provision ScmRepositoryRef :=
  tryCatch (do
    configureRepoSecrets repository
    await (.aside "installation token")
    await (.push repository.key)
    return repository) fun error => do
      (deleteRepo repository).ignoreError
      throw error

def provisionGithub (key : RepositoryKey) : Provision ScmRepositoryRef := do
  await (.aside "installation and token")
  match ← await (.createRepository key) with
  | .exists => throw ("A repository named '" ++ key.name ++
      "' already exists or GitHub rejected the name (HTTP 422)")
  | .created none => do
    -- 201 proves that this request created the repository
    (await (.deleteRepository key)).ignoreError
    throw "GitHub returned an invalid repository identity"
  | .created (some id) => finishGithub ⟨key, some id⟩

def provision (key : RepositoryKey) : Provision ScmRepositoryRef :=
  match key.provider with
  | .gitea => provisionGitea key
  | .github => provisionGithub key

def permissionFor : ScmKind → String → String
  | .gitea, role =>
    if role = "viewer" then "read"
    else if role = "admin" || role = "owner" then "admin"
    else "write"
  | .github, role =>
    if role = "viewer" then "pull"
    else if role = "admin" || role = "owner" then "admin"
    else if role = "maintainer" then "maintain"
    else "push"

def setCollaborator (repository : ScmRepositoryRef) (username role : String) : Provision Unit :=
  if repository.key.owner = username then pure ()
  else do
    installationToken repository.key.provider
    await (.setCollaborator repository.key username
      (permissionFor repository.key.provider role))

def getCollaboratorAccess (repository : ScmRepositoryRef) (username : String) :
    Provision (Option String) :=
  if repository.key.owner = username then
    match repository.key.provider with
    | .gitea => return some "owner"
    | .github => return some "admin"
  else do
    installationToken repository.key.provider
    await (.collaboratorAccess repository.key username)

def restoreCollaboratorAccess (repository : ScmRepositoryRef) (username : String)
    (access : Option String) : Provision Unit :=
  if repository.key.owner = username then pure ()
  else do
    installationToken repository.key.provider
    match access with
    | none => await (.removeCollaborator repository.key username)
    | some permission => await (.setCollaborator repository.key username permission)

end InitPad.Provisioning
