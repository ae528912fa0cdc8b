import Provision.Command.Retry

namespace Provision.BuildStamp

variable {σ : Type}

def ask (runner : Runner σ) (args : List String) : StateM (World σ) (Option String) := do
  match ← runner ⟨"git", args, [], .capture⟩ none with
  | .error _ => return none
  | .ok o =>
    let answer := Text.trim o.out
    return if o.success && answer ≠ "" then some answer else none

def unknown : String := "unknown"

def directives (runner : Runner σ) : StateM (World σ) (List String) := do
  let commit ← ask runner ["rev-parse", "--short", "HEAD"]
  let root ← ask runner ["rev-parse", "--show-toplevel"]
  let stamp := "cargo:rustc-env=RSQL_LLVM_GIT_COMMIT=" ++ commit.getD unknown
  return stamp :: (root.map fun r => "cargo:rerun-if-changed=" ++ r ++ "/.git/HEAD").toList

end Provision.BuildStamp
