import Provision.Disk.Lookup

namespace Provision

inductive Opened where
  | directory
  | file (c : Content)
  deriving DecidableEq, Repr

namespace Disk

def openForReading (d : Disk) (cwd : Location) (p : String) : Except DiskError Opened := do
  let spot ← d.locate cwd true p
  match spot.node with
  | none => .error .notFound
  | some (.file id) =>
    match d.files.get? id with
    | none => .error .notFound
    | some f => if f.isReadable then .ok (.file f.content) else .error .accessDenied
  | some _ => .ok .directory

def read (d : Disk) (cwd : Location) (p : String) : Except DiskError Content := do
  match ← d.openForReading cwd p with
  | .directory => .error .isADirectory
  | .file c => .ok c

end Disk
end Provision
