import Provision.CacheState
import Provision.Download
import Provision.Extraction
import Provision.InstallDir

namespace Provision

inductive Acquisition where
  | external
  | alreadyInstalled
  | extracted (fetched : Bool)
  | built
  deriving DecidableEq, Repr

def Acquisition.text : Acquisition → String
  | .external => "External"
  | .alreadyInstalled => "AlreadyInstalled"
  | .extracted fetched => "Extracted \x7b fetched: " ++ toString fetched ++ " \x7d"
  | .built => "Built"

structure Acquirer (σ : Type) where
  fetch : Fetcher σ
  extract : Extractor σ
  runner : Runner σ
  platform : Platform
  buildDir : String
  downloadEnabled : Bool
  policy : RetryPolicy

def buildCommand (dir : String) (f : Feature) : Command where
  program := "cargo"
  args := ["build", "--release", "--no-default-features", "--features", f.buildFeatures, "-vv"]
  env := [("RSQL_CACHE_DIR", dir)]
  mode := .stream

namespace Acquirer

variable {σ : Type}

def unpackStaged (a : Acquirer σ) (dir : String) (f : Feature) : Action σ Acquisition := do
  let staged := PathText.join a.buildDir f.stagedArchive
  if (← get).isFile staged then
    a.extract staged dir
    return .extracted false
  else throw (.missingArchive staged)

def unpackRelease (a : Acquirer σ) (dir : String) (f : Feature) (state : CacheState) :
    Action σ Acquisition := do
  let archive := PathText.join dir f.release.archiveName
  let fetched := state = .absent
  if fetched then Action.during (.download f) (a.fetch f.release.url archive)
  else Action.tell .info "Reusing downloaded archive" [("archive", archive)]
  a.extract archive dir
  return .extracted fetched

def download (a : Acquirer σ) (dir : String) (f : Feature) : Action σ Acquisition := do
  if !a.downloadEnabled then throw .downloadDisabled
  let state := CacheState.inspect (← get) dir f.release.archiveName
  Action.tell .debug "Inspected cache" [("feature", f.tag), ("dir", dir), ("state", state.name)]
  if state = .complete then
    Action.tell .info "LLVM already installed" [("feature", f.tag), ("dir", dir)]
    return .alreadyInstalled
  else if a.platform.isWindows then a.unpackStaged dir f
  else a.unpackRelease dir f state

def build (a : Acquirer σ) (dir : String) (f : Feature) : Action σ Acquisition := do
  Action.tell .info "Building LLVM from source" [("feature", f.tag), ("dir", dir)]
  let _ ← Action.during (.build f) (a.runner.run a.policy (buildCommand dir f) (some a.buildDir))
  return .built

/-- Sees to it that a directory holds the toolchain for a feature. An external one is taken as it
is. -/
def acquire (a : Acquirer σ) (dir : InstallDir) (f : Feature) (operation : Operation) :
    Action σ Acquisition := do
  if dir.isExternal then
    Action.tell .info "Using external LLVM installation" [("dir", dir.path)]
    return .external
  else
    Action.createDirectories dir.path
    match operation with
    | .download => a.download dir.path f
    | .build => a.build dir.path f

end Acquirer
end Provision
