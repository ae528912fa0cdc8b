import Provision.Archive.Tarball
import Provision.Archive.ZipFile
import Provision.Table

/-!
A disk: a tree of directories, symbolic links and names of files. A place in the tree is its
`Location`; it passes through no symbolic link. Two names with one `FileId` are hard links to one
file. A directory's mode decides whether names can be made and removed in it; a name can be looked
up in every directory, and every directory can be listed.
-/

namespace Provision

/-- The names on the way from the root to a place, innermost first. -/
abbrev Location := List String

namespace Location

def text (p : Location) : String := "/" ++ "/".intercalate p.reverse

def isWithin (p d : Location) : Bool := d.isSuffixOf p

end Location

inductive Content where
  | data (b : Bytes)
  | tarball (t : Tarball)
  | zip (z : ZipFile)
  deriving DecidableEq, Repr

def Content.bytes : Content → Bytes
  | .data b => b
  | _ => []

def Content.text? : Content → Option String
  | .data b => Text.decode? b
  | _ => none

abbrev FileId := Nat

structure FileData where
  mode : Nat
  content : Content
  deriving DecidableEq, Repr

namespace FileData

def isReadable (f : FileData) : Bool := f.mode &&& 0o400 ≠ 0

def isWritable (f : FileData) : Bool := f.mode &&& 0o200 ≠ 0

def isExecutable (f : FileData) : Bool := f.mode &&& 0o100 ≠ 0

end FileData

inductive Node where
  | directory
  | file (id : FileId)
  | symlink (target : String)
  deriving DecidableEq, Repr

def Node.isFile : Node → Bool
  | .file _ => true
  | _ => false

structure Disk where
  nodes : Table Location Node
  files : Table FileId FileData
  /-- No file has this number yet, nor a greater one. -/
  next : FileId
  /-- The modes of directories that are not that of a new one. -/
  modes : Table Location Nat
  deriving DecidableEq

namespace Disk

def empty : Disk := ⟨[], [], 0, []⟩

def nodeAt (d : Disk) : Location → Option Node
  | [] => some .directory
  | p => d.nodes.get? p

def fileAt (d : Disk) (p : Location) : Option FileData :=
  match d.nodeAt p with
  | some (.file id) => d.files.get? id
  | _ => none

/-- The mode of a new directory, under the umask 022. -/
def directoryMode : Nat := 0o755

def modeAt (d : Disk) (p : Location) : Nat := (d.modes.get? p).getD directoryMode

/-- Names can be made and removed in the directory: it can be written and searched. -/
def mayWrite (d : Disk) (p : Location) : Bool := d.modeAt p &&& 0o300 = 0o300

def put (d : Disk) (p : Location) (n : Node) : Disk := { d with nodes := d.nodes.set p n }

def remove (d : Disk) (p : Location) : Disk := { d with nodes := d.nodes.erase p }

def ofDirectory : Location → Disk
  | [] => empty
  | n :: p => (ofDirectory p).put (n :: p) .directory

def removeAll (d : Disk) (p : Location) : Disk :=
  { d with
    nodes := d.nodes.filter fun e => !Location.isWithin e.1 p
    modes := d.modes.filter fun e => !Location.isWithin e.1 p }

def setModeAt (d : Disk) (p : Location) (mode : Nat) : Disk :=
  { d with modes := d.modes.set p mode }

def setFile (d : Disk) (id : FileId) (f : FileData) : Disk :=
  { d with files := d.files.set id f }

def addFile (d : Disk) (p : Location) (f : FileData) : Disk × FileId :=
  ({ d with
    nodes := d.nodes.set p (.file d.next)
    files := d.files.set d.next f
    next := d.next + 1 }, d.next)

def children (d : Disk) (p : Location) : List (String × Node) :=
  d.nodes.filterMap fun
    | (name :: q, n) => if q = p then some (name, n) else none
    | _ => none

def namesOf (d : Disk) (id : FileId) : List Location :=
  (d.nodes.keys.filter fun l => d.nodeAt l = some (.file id)).eraseDups

def linkCount (d : Disk) (id : FileId) : Nat := (d.namesOf id).length

end Disk
end Provision
