import Provision.CacheState
import Provision.InstallDir
import Provision.Probe

namespace Provision

structure StatusReport where
  feature : Feature
  dir : InstallDir
  state : CacheState
  downloadEnabled : Bool
  /-- For a complete installation, its toolchain or why it does not tell. -/
  toolchain : Option (Except Failure Toolchain)
  configured : Option Binding

namespace StatusReport

variable {σ : Type}

def attempt {α : Type} (x : Action σ α) : Action σ (Except Failure α) := ExceptT.lift x.run

def gather (runner : Runner σ) (c : Config) : Action σ StatusReport := do
  let dir ← ofExcept (InstallDir.resolve c (← get))
  let state := CacheState.inspect (← get) dir.path c.feature.release.archiveName
  let toolchain ← if state = .complete then some <$> attempt (Probe.run runner dir.path)
    else pure none
  let configured ← Binding.read c.buildDir
  return ⟨c.feature, dir, state, c.downloadEnabled, toolchain, configured⟩

def toolchainLines (dir : String) : Option (Except Failure Toolchain) → List String
  | none => []
  | some (.error f) => ["probe:      failed: " ++ f.chain]
  | some (.ok t) =>
    ["probe:      " ++ t.probe,
     "version:    " ++ t.version,
     "key:        " ++ (Binding.ofMajor t.major dir).key]

def configuredLine : Option Binding → String
  | none => "configured: no"
  | some b => "configured: " ++ b.key ++ " = " ++ b.value

def lines (r : StatusReport) : List String :=
  ["feature:    " ++ r.feature.tag,
   "directory:  " ++ r.dir.path ++ " (" ++ r.dir.origin.name ++ ")",
   "state:      " ++ r.state.text,
   "download:   " ++ if r.downloadEnabled then "enabled" else "disabled"] ++
  toolchainLines r.dir.path r.toolchain ++
  [configuredLine r.configured]

def text (r : StatusReport) : String := String.join (r.lines.map (· ++ "\n"))

end StatusReport
end Provision
