import Provision.Binding
import Provision.Command.Retry

namespace Provision

structure Toolchain where
  version : String
  major : UInt32
  probe : String
  deriving DecidableEq, Repr

namespace Probe

variable {σ : Type}

def name : String := "llvm-config"

def isExact (file : String) : Bool :=
  match PathText.splitExtension file with
  | (stem, none) => stem = name
  | (stem, some ext) => stem = name && ext.toLower = "exe"

/-- The probe among the names of files: one of its own name, else the first that starts with it. -/
def choose? (files : List String) : Option String :=
  let candidates := (files.filter fun f => name.toList.isPrefixOf f.toList).mergeSort (· ≤ ·)
  (candidates.find? isExact).or candidates.head?

def find (binDir : String) (w : World σ) : Except Failure String :=
  match w.disk.list w.cwd binDir with
  | .error _ => .error (.probeNotFound binDir)
  | .ok names =>
    match choose? (names.filter fun n => w.isFile (PathText.join binDir n)) with
    | some n => .ok (PathText.join binDir n)
    | none => .error (.probeNotFound binDir)

def decimal (ds : List Char) : Nat := ds.foldl (fun n c => 10 * n + (c.toNat - 48)) 0

def majorOf? (s : String) : Option UInt32 :=
  match Text.splitOnce? '.' (Text.trimChars s.toList) with
  | none => none
  | some (ds, _) =>
    if ds.isEmpty || !ds.all Char.isDigit then none
    else if decimal ds < UInt32.size then some (.ofNat (decimal ds)) else none

def parseMajor (output : String) : Except Failure UInt32 :=
  match majorOf? output with
  | some n => .ok n
  | none => .error (.versionUnreadable (Text.trim output))

def question (probe : String) : Command := ⟨probe, ["--version"], [], .capture⟩

def run (runner : Runner σ) (dir : String) : Action σ Toolchain := do
  let probe ← ofExcept (find (PathText.join dir "bin") (← get))
  Action.tell .debug "Found llvm-config" [("probe", probe)]
  let output ← runner.run .none (question probe) none
  let version := Text.trim output.out
  return ⟨version, ← ofExcept (parseMajor version), probe⟩

def bindingFor (runner : Runner σ) (dir : String) : Action σ (Toolchain × Binding) := do
  let toolchain ← run runner dir
  match (← get).absolute? dir with
  | none => throw (.step (.resolve dir) .emptyPath)
  | some dir => return (toolchain, Binding.ofMajor toolchain.major dir)

def save (buildDir : String) (toolchain : Toolchain) (binding : Binding) : Action σ Unit := do
  let p ← binding.write buildDir
  Action.tell .info "Configured LLVM for the build"
    [("version", toolchain.version), ("key", binding.key), ("config", p)]

def configure (runner : Runner σ) (dir buildDir : String) : Action σ Binding := do
  let (toolchain, binding) ← bindingFor runner dir
  save buildDir toolchain binding
  return binding

end Probe
end Provision
