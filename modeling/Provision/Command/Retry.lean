import Provision.Command
import Provision.Pattern
import Provision.World

namespace Provision

structure RetryPolicy where
  maxRetries : UInt32
  /-- If set, only failures whose text matches are tried again. -/
  pattern : Option Pattern

namespace RetryPolicy

def none : RetryPolicy := ⟨0, .none⟩

/-- Whether to go on after that many attempts, the last of which failed with that text. -/
def shouldRetry (p : RetryPolicy) (attempts : UInt32) (text : String) : Bool :=
  attempts ≤ p.maxRetries && p.pattern.all (·.isMatch text)

def attempts (p : RetryPolicy) : Nat := p.maxRetries.toNat + 1

end RetryPolicy

/-- Runs a command once, in a directory if one is given. A process that cannot be started gives the
reason. -/
abbrev Runner (σ : Type) :=
  Command → Option String → StateM (World σ) (Except String CommandOutput)

namespace Runner

variable {σ : Type}

def attempt (runner : Runner σ) (policy : RetryPolicy) (c : Command) (dir : Option String) :
    Nat → UInt32 → Action σ CommandOutput
  | 0, _ => throw .endlessRetry
  | n + 1, made => do
    let attempts := made + 1
    let line := c.text
    Action.tell .info ("Running `" ++ line ++ "`") [("attempt", toString attempts.toNat)]
    match ← runner c dir with
    | .error reason =>
      Action.tell .warn ("Failed to start `" ++ c.program ++ "`") [("error", reason)]
      throw (.commandFailed line attempts reason)
    | .ok output =>
      if output.success then
        Action.tell .debug ("`" ++ line ++ "` succeeded") [("attempts", toString attempts.toNat)]
        return output
      else if policy.shouldRetry attempts output.combined then
        Action.tell .warn ("`" ++ line ++ "` failed, retrying")
          [("attempt", toString attempts.toNat), ("max_retries", toString policy.maxRetries.toNat)]
        attempt runner policy c dir n attempts
      else throw (.commandFailed line attempts output.combined)

def run (runner : Runner σ) (policy : RetryPolicy) (c : Command) (dir : Option String) :
    Action σ CommandOutput :=
  attempt runner policy c dir policy.attempts 0

end Runner
end Provision
