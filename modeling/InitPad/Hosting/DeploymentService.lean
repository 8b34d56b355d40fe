import InitPad.Hosting.SftpProvider

/-!
# InitPad.Hosting.DeploymentService

`DeploymentService`: the provider of an environment's kind, and the image cache that every teardown
releases behind it.
-/

namespace InitPad.Hosting

open Store Interleave Prog

namespace DeploymentService

def deploy (config : ProviderConfig) (depth : Nat) (input : DeployInput) :
    ProviderKind → OnHosts DeployResult
  | .docker => DockerProvider.deploy config input
  | .sftp => SftpProvider.deploy config depth input

/-- `teardown` of the provider. -/
def teardownProvider (config : ProviderConfig) (depth : Nat) (input : TeardownInput) :
    ProviderKind → OnHosts (Option String)
  | .docker => do
    DockerProvider.teardown input
    pure none
  | .sftp => SftpProvider.teardown config depth input

def releaseImage (imageRef : Option String) : OnHosts Unit :=
  match imageRef.filter fun ref => !ref.isEmpty with
  | some ref => cleanupImage ref
  | none => pure ()

def teardown (config : ProviderConfig) (depth : Nat) (input : TeardownInput)
    (provider : ProviderKind) : OnHosts (Option String) :=
  ensure (teardownProvider config depth input provider) (releaseImage input.imageRef)

def stop (config : ProviderConfig) (input : TeardownInput) : ProviderKind → OnHosts Unit
  | .docker => DockerProvider.stop input
  | .sftp => SftpProvider.stop config input

def start (config : ProviderConfig) (input : StartInput) : ProviderKind → OnHosts DeployResult
  | .docker => DockerProvider.start config input
  | .sftp => SftpProvider.start config input

end DeploymentService

end InitPad.Hosting
