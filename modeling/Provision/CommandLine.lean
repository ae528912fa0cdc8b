import Provision.Arguments
import Provision.Install
import Provision.Status

namespace Provision.CommandLine

variable {σ : Type}

def execute (s : Services σ) : Invocation → Action σ Unit
  | .install buildDir operation retryPolicy settings => do
    let c ← ofExcept (Config.ofSettings buildDir settings operation retryPolicy)
    let _ ← install s c
  | .status buildDir settings => do
    let c ← ofExcept (Config.ofSettings buildDir settings none .none)
    let report ← StatusReport.gather s.runner c
    Action.print report.text

def printError (text : String) : StateM (World σ) Unit :=
  modify fun w => { w with err := w.err ++ Text.bytes text }

def about : String := "Provisions the LLVM toolchain for the native build"

def answerUsage (e : UsageError) : Action σ Unit :=
  match e with
  | .help t => Action.print (about ++ "\n\n" ++ t.usage ++ "\n")
  | .noCommand => ExceptT.lift (printError (about ++ "\n\n" ++ e.message ++ "\n"))
  | .version => Action.print (e.message ++ "\n")
  | e => ExceptT.lift (printError (e.message ++ "\n"))

def run (s : Services σ) (env : Table String String) (args : List String) :
    StateM (World σ) Nat := do
  match Invocation.ofArguments env args with
  | .error e =>
    let _ ← (answerUsage e).run
    return e.exitCode
  | .ok invocation =>
    match ← (execute s invocation).run with
    | .ok () => return 0
    | .error f =>
      printError (f.report ++ "\n")
      return 1

end Provision.CommandLine
