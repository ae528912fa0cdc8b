import Provision.CommandLine
import Provision.Shell.Process

namespace Provision

def silentNetwork : Network Unit where
  respond _ := return .silence
  draw n := return n / 2

def environmentNames : List String := ["HOME", "PATH"] ++ Setting.all.filterMap Setting.envName?

def readEnvironment : IO (Table String String) :=
  environmentNames.filterMapM fun name => do
    return (← IO.getEnv name).map (name, ·)

def start (env : Table String String) : World Unit :=
  .fresh ["work"] ((env.get? "HOME").getD "/work") ()

def services (env : Table String String) : Services Unit where
  fetcher := Download.fetch silentNetwork
  runner := Shell.runner env
  platform := .linux

end Provision

open Provision in
def main (args : List String) : IO UInt32 := do
  let env ← readEnvironment
  let (code, w) := (CommandLine.run (services env) env args).run (start env)
  (← IO.getStdout).write ⟨w.out.toArray⟩
  (← IO.getStderr).write ⟨w.err.toArray⟩
  return .ofNat code
