import Provision.Disk.Change
import Provision.Disk.Opened
import Provision.Event
import Provision.Failure

/-!
What a run works on: a disk with its past, a terminal, the events told and the pauses made. What
else it meets, such as programs and servers, is `outside` and of any type.
-/

namespace Provision

structure World (σ : Type) where
  disk : Disk
  cwd : Location
  home : String
  /-- The disks before each change, last first. -/
  past : List Disk
  events : List Event
  naps : List Nat
  out : Bytes
  err : Bytes
  outside : σ

namespace World

variable {σ : Type}

def fresh (cwd : Location) (home : String) (outside : σ) : World σ where
  disk := .ofDirectory cwd
  cwd := cwd
  home := home
  past := []
  events := []
  naps := []
  out := []
  err := []
  outside := outside

def isDir (w : World σ) (p : String) : Bool := w.disk.isDir w.cwd p

def isFile (w : World σ) (p : String) : Bool := w.disk.isFile w.cwd p

def isPresent (w : World σ) (p : String) : Bool := w.disk.isPresent w.cwd p

def absolute? (w : World σ) (p : String) : Option String := PathText.absolute? w.cwd.text p

end World

/-- What may fail and leaves what it has done until then. -/
abbrev Action (σ : Type) (α : Type) := ExceptT Failure (StateM (World σ)) α

namespace Action

variable {σ α : Type}

def tell (level : Level) (message : String) (fields : List (String × String)) : Action σ Unit :=
  modify fun w => { w with events := ⟨level, message, fields⟩ :: w.events }

def nap (milliseconds : Nat) : Action σ Unit :=
  modify fun w => { w with naps := milliseconds :: w.naps }

def print (s : String) : Action σ Unit := modify fun w => { w with out := w.out ++ Text.bytes s }

def putDisk (d : Disk) : StateM (World σ) Unit :=
  modify fun w => { w with disk := d, past := w.disk :: w.past }

def change (f : Disk → Location → Except DiskError Disk) :
    StateM (World σ) (Except DiskError Unit) := do
  let w ← get
  match f w.disk w.cwd with
  | .ok d =>
    putDisk d
    return .ok ()
  | .error e => return .error e

def changeWith (f : Disk → Location → Except DiskError (Disk × α)) :
    StateM (World σ) (Except DiskError α) := do
  let w ← get
  match f w.disk w.cwd with
  | .ok (d, a) =>
    putDisk d
    return .ok a
  | .error e => return .error e

def changeDisk (f : Disk → Disk) : Action σ Unit :=
  modify fun w => { w with disk := f w.disk, past := w.disk :: w.past }

def ask (f : Disk → Location → Except DiskError α) : StateM (World σ) (Except DiskError α) := do
  let w ← get
  return f w.disk w.cwd

def step (s : Step) (x : StateM (World σ) (Except DiskError α)) : Action σ α := do
  match ← x with
  | .ok a => return a
  | .error e => throw (.step s (.disk e))

def during (s : Stage) (x : Action σ α) : Action σ α := ExceptT.adapt (.during s) x

def lineage : Nat → String → List String
  | 0, _ => []
  | n + 1, p => p :: match PathText.parent? p with
    | some q => lineage n q
    | none => []

/-- Makes the first of some directories; where its parent is missing, those after it first. -/
def makeFirst : List String → StateM (World σ) (Except DiskError Unit)
  | [] => return .ok ()
  | p :: ps => do
    if p = "" then return .ok ()
    match ← change (·.makeDirectory · p) with
    | .ok () => return .ok ()
    | .error .notFound =>
      match ps with
      | [] => return .error .notFound
      | _ :: _ =>
        match ← makeFirst ps with
        | .error e => return .error e
        | .ok () => make p
    | .error e => if (← get).isDir p then return .ok () else return .error e
where
  make (p : String) : StateM (World σ) (Except DiskError Unit) := do
    match ← change (·.makeDirectory · p) with
    | .ok () => return .ok ()
    | .error e => if (← get).isDir p then return .ok () else return .error e

def makeDirectories (p : String) : StateM (World σ) (Except DiskError Unit) :=
  makeFirst (lineage (p.length + 1) p)

def createDirectories (p : String) : Action σ Unit :=
  step (.createDirectory p) (makeDirectories p)

def createParents (p : String) : Action σ Unit :=
  match PathText.parent? p with
  | some q => createDirectories q
  | none => return ()

end Action
end Provision
