import Provision.Text.Blank

namespace Provision

inductive OutputMode where
  | capture
  /-- Copied to the terminal as it comes; only its tail is kept. -/
  | stream
  deriving DecidableEq, Repr

structure Command where
  program : String
  args : List String
  env : List (String × String)
  mode : OutputMode
  deriving DecidableEq, Repr

def Command.text (c : Command) : String :=
  String.join (c.env.map fun (k, v) => k ++ "=" ++ v ++ " ") ++ " ".intercalate (c.program :: c.args)

structure CommandOutput where
  success : Bool
  out : String
  err : String
  deriving DecidableEq, Repr

def CommandOutput.combined (o : CommandOutput) : String :=
  let err := Text.trim o.err
  let out := Text.trim o.out
  if err = "" then out
  else if out = "" then err
  else err ++ "\n" ++ out

end Provision
