import Provision.Acquisition
import Provision.Probe

namespace Provision

variable {σ : Type}

structure Services (σ : Type) where
  fetcher : RetryPolicy → Fetcher σ
  runner : Runner σ
  platform : Platform
  extractor : Extractor σ := (ArchiveFormat.of platform).extractor

def Services.acquirer (s : Services σ) (c : Config) : Acquirer σ where
  fetch := s.fetcher c.retryPolicy
  extract := s.extractor
  runner := s.runner
  platform := s.platform
  buildDir := c.buildDir
  downloadEnabled := c.downloadEnabled
  policy := c.retryPolicy

def provide (s : Services σ) (c : Config) : Action σ InstallDir := do
  let dir ← ofExcept (InstallDir.resolve c (← get))
  let operation := c.effectiveOperation
  Action.tell .info "Provisioning LLVM"
    [("feature", c.feature.tag), ("dir", dir.path), ("origin", dir.origin.name),
     ("operation", operation.name), ("platform", s.platform.name)]
  let outcome ← (s.acquirer c).acquire dir c.feature operation
  Action.tell .info "LLVM artifacts ready" [("outcome", outcome.text)]
  return dir

def install (s : Services σ) (c : Config) : Action σ Binding := do
  let dir ← provide s c
  let binding ← Probe.configure s.runner dir.path c.buildDir
  Action.print (binding.key ++ " = " ++ binding.value ++ "\n")
  return binding

def prepare (s : Services σ) (c : Config) : Action σ (Toolchain × Binding) := do
  let dir ← provide s c
  Probe.bindingFor s.runner dir.path

theorem install_eq (s : Services σ) (c : Config) : install s c = do
    let (toolchain, binding) ← prepare s c
    Probe.save c.buildDir toolchain binding
    Action.print (binding.key ++ " = " ++ binding.value ++ "\n")
    return binding := by
  simp only [install, prepare, Probe.configure, bind_assoc, pure_bind]

end Provision
