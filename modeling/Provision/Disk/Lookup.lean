import Provision.Disk.Basic
import Provision.PathText

/-!
From the text of a path to a place on a disk. Symbolic links are followed where a path goes on
behind them, and at its end if asked; a path that ends in a slash goes on.
-/

namespace Provision

inductive DiskError where
  | notFound
  | alreadyExists
  | notADirectory
  | isADirectory
  | notEmpty
  | nameTooLong
  | symlinkLoop
  | accessDenied
  | notPermitted
  | busy
  | invalidArgument
  | nulInPath
  deriving DecidableEq, Repr

structure Spot where
  location : Location
  node : Option Node
  deriving DecidableEq, Repr

namespace Disk

def maxName : Nat := 255

def maxPath : Nat := 4096

def maxLinks : Nat := 40

def steps (p : String) : List String :=
  (Text.split '/' p).filter (· ≠ "") ++ if PathText.endsWithSlash p then ["."] else []

/-- A walk as far as the first symbolic link that is to be followed. `beyond` goes on from there:
from the directory that holds the link, by its target and then by the rest of the path. -/
def stretch (d : Disk) (follow : Bool)
    (beyond : Location → String → List String → Except DiskError Spot) (here : Location) :
    List String → Except DiskError Spot
  | [] => .ok ⟨here, some .directory⟩
  | s :: r =>
    if s = "." then d.stretch follow beyond here r
    else if s = ".." then d.stretch follow beyond here.tail r
    else if maxName < s.utf8ByteSize then .error .nameTooLong
    else match d.nodeAt (s :: here) with
      | none => if r = [] then .ok ⟨s :: here, none⟩ else .error .notFound
      | some .directory => d.stretch follow beyond (s :: here) r
      | some (.file id) => if r = [] then .ok ⟨s :: here, some (.file id)⟩ else .error .notADirectory
      | some (.symlink t) =>
        if r = [] && !follow then .ok ⟨s :: here, some (.symlink t)⟩ else beyond here t r

def walk (d : Disk) (follow : Bool) : Nat → Location → List String → Except DiskError Spot
  | 0 => d.stretch follow fun _ _ _ => .error .symlinkLoop
  | links + 1 => d.stretch follow fun here t r =>
      d.walk follow links (if PathText.isAbsolute t then [] else here) (steps t ++ r)

def locate (d : Disk) (cwd : Location) (follow : Bool) (p : String) : Except DiskError Spot :=
  if p = "" then .error .notFound
  else if p.toList.contains '\x00' then .error .nulInPath
  else if maxPath ≤ p.utf8ByteSize then .error .nameTooLong
  else d.walk follow maxLinks (if PathText.isAbsolute p then [] else cwd) (steps p)

/-- The directory in which a path names something, and the name: none for a path that ends in `.`
or `..` or is the root. -/
structure Slot where
  parent : Location
  name : Option String
  slashed : Bool
  deriving DecidableEq, Repr

def slot (d : Disk) (cwd : Location) (p : String) : Except DiskError Slot :=
  if p = "" then .error .notFound
  else if p.toList.contains '\x00' then .error .nulInPath
  else if maxPath ≤ p.utf8ByteSize then .error .nameTooLong
  else
    let ws := (Text.split '/' p).filter (· ≠ "")
    match d.walk true maxLinks (if PathText.isAbsolute p then [] else cwd) (ws.dropLast ++ ["."]) with
    | .error e => .error e
    | .ok spot =>
      match ws.getLast? with
      | none => .ok ⟨spot.location, none, true⟩
      | some s =>
        if s = "." || s = ".." then .ok ⟨spot.location, none, true⟩
        else if maxName < s.utf8ByteSize then .error .nameTooLong
        else .ok ⟨spot.location, some s, PathText.endsWithSlash p⟩

def nodeOf? (d : Disk) (cwd : Location) (p : String) : Option Spot :=
  match d.locate cwd true p with
  | .ok spot => if spot.node.isSome then some spot else none
  | .error _ => none

def isDir (d : Disk) (cwd : Location) (p : String) : Bool :=
  (d.nodeOf? cwd p).any fun spot => spot.node = some .directory

def isFile (d : Disk) (cwd : Location) (p : String) : Bool :=
  (d.nodeOf? cwd p).any fun spot => match spot.node with
    | some (.file _) => true
    | _ => false

def isPresent (d : Disk) (cwd : Location) (p : String) : Bool := (d.nodeOf? cwd p).isSome

end Disk
end Provision
