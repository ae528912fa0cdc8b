import Provision.Disk.Change
import Provision.Disk.Opened
import Provision.Failure
import Provision.Shell.Syntax

namespace Provision.Shell

inductive Sink where
  | pipe (n : Nat)
  | file (id : FileId)
  | nowhere
  deriving DecidableEq, Repr

structure Watch where
  failures : Bool
  names : Bool
  commands : Bool
  deriving DecidableEq, Repr

def Watch.none : Watch := ⟨false, false, false⟩

structure Session where
  disk : Disk
  cwd : Location
  values : Table String String
  exported : List String
  name : String
  args : List String
  status : Nat
  /-- The status of the last script whose output was taken into a word. -/
  outputStatus : Nat
  line : Nat
  functions : Table String Code
  shadowed : List (String × Option String)
  inFunction : Bool
  loops : Nat
  watch : Watch
  tested : Bool
  traps : Table Nat String
  input : Bytes
  out : Sink
  err : Sink
  pipes : Table Nat (List Bytes)
  nextPipe : Nat

inductive Stop where
  | exit (status : Nat)
  | returned (status : Nat)
  | leave (loops : Nat)
  | again (loops : Nat)
  | killed (signal : Nat)
  | timeout
  deriving DecidableEq, Repr

abbrev Job := ExceptT Stop (StateM Session)

namespace Job

def emit (s : Sink) (b : Bytes) : Job Unit :=
  modify fun w =>
    match s with
    | .pipe n => { w with pipes := w.pipes.set n (b :: (w.pipes.get? n).getD []) }
    | .file id => { w with disk := w.disk.appendData id b }
    | .nowhere => w

def printBytes (b : Bytes) : Job Unit := do emit (← get).out b

def print (s : String) : Job Unit := printBytes (Text.bytes s)

def complain (s : String) : Job Unit := do emit (← get).err (Text.bytes s)

def explain (text : String) : Job Unit := do
  let w ← get
  complain (w.name ++ ": " ++ toString w.line ++ ": " ++ text ++ "\n")

def lookup (name : String) : Job (Option String) := return (← get).values.get? name

def assign (name value : String) : Job Unit :=
  modify fun w => { w with values := w.values.set name value }

def exportName (name : String) : Job Unit :=
  modify fun w => { w with exported := if w.exported.contains name then w.exported
                                       else name :: w.exported }

def change (f : Disk → Location → Except DiskError Disk) : Job (Except DiskError Unit) := do
  let w ← get
  match f w.disk w.cwd with
  | .ok d =>
    set { w with disk := d }
    return .ok ()
  | .error e => return .error e

def isDir (p : String) : Job Bool := do
  let w ← get
  return w.disk.isDir w.cwd p

def isPresent (p : String) : Job Bool := do
  let w ← get
  return w.disk.isPresent w.cwd p

/-- How much is made of what has no end: more than anything reads of it. -/
def endless : Nat := 1 <<< 18

def readFile (p : String) : Job (Except DiskError Bytes) := do
  let w ← get
  if p = "/dev/null" then return .ok []
  else if p = "/dev/stdin" then return .ok w.input
  else if p = "/dev/zero" then return .ok (List.replicate endless 0)
  else return (w.disk.read w.cwd p).map (·.bytes)

def openFile (append : Bool) (p : String) : Job (Except DiskError Sink) := do
  let w ← get
  if p = "/dev/null" then return .ok .nowhere
  else if p = "/dev/stdout" then return .ok w.out
  else if p = "/dev/stderr" then return .ok w.err
  else if append && w.disk.isFile w.cwd p then
    match w.disk.locate w.cwd true p with
    | .ok ⟨_, some (.file id)⟩ =>
      if ((w.disk.files.get? id).any (·.isWritable)) then return .ok (.file id)
      else return .error .accessDenied
    | _ => return .error .notFound
  else
    match w.disk.openForWriting w.cwd p with
    | .ok (d, id) =>
      set { w with disk := d }
      return .ok (.file id)
    | .error e => return .error e

def capturing {α : Type} (x : Job α) : Job (Except Stop α × Bytes) := do
  let w ← get
  let n := w.nextPipe
  set { w with out := .pipe n, nextPipe := n + 1 }
  let r ← ExceptT.lift x.run
  let v ← get
  set { v with out := w.out, pipes := v.pipes.erase n }
  return (r, ((v.pipes.get? n).getD []).reverse.flatten)

def attempt {α : Type} (x : Job α) : Job (Except Stop α) := ExceptT.lift x.run

def ended : Except Stop Nat → Job Nat
  | .ok n | .error (.exit n) | .error (.returned n) => return n
  | .error (.leave _) | .error (.again _) => return 0
  | .error (.killed signal) => return 128 + signal
  | .error .timeout => throw .timeout

def isolated (x : Job Nat) : Job Nat := do
  let w ← get
  let r ← attempt x
  modify fun v => { w with disk := v.disk, pipes := v.pipes, nextPipe := v.nextPipe }
  match r with
  | .error (.killed signal) => throw (.killed signal)
  | _ => ended r

def tested (x : Job Nat) : Job Nat := do
  let before := (← get).tested
  modify fun w => { w with tested := true }
  let r ← attempt x
  modify fun w => { w with tested := before }
  MonadExcept.ofExcept r

def withValues (values : List (String × String)) (x : Job Nat) : Job Nat := do
  let before := values.map fun (k, _) => k
  let old := (← get).values
  values.forM fun (k, v) => assign k v
  let r ← attempt x
  modify fun w => { w with
    values := before.foldl (fun t k =>
      match old.get? k with
      | some v => t.set k v
      | none => t.erase k) w.values }
  MonadExcept.ofExcept r

end Job
end Provision.Shell
