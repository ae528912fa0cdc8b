import Provision.Disk.Lookup

namespace Provision.Disk

/-- The mode of a file that is created without one, under the umask 022. -/
def plainMode : Nat := 0o644

def makeDirectory (d : Disk) (cwd : Location) (p : String) : Except DiskError Disk := do
  let s ← d.slot cwd p
  match s.name with
  | none => .error .alreadyExists
  | some n =>
    if (d.nodeAt (n :: s.parent)).isSome then .error .alreadyExists
    else if !d.mayWrite s.parent then .error .accessDenied
    else .ok (d.put (n :: s.parent) .directory)

def openForWriting (d : Disk) (cwd : Location) (p : String) : Except DiskError (Disk × FileId) := do
  if PathText.endsWithSlash p then
    let _ ← d.slot cwd p
    .error .isADirectory
  else
    let spot ← d.locate cwd true p
    match spot.node with
    | none =>
      if d.mayWrite spot.location.tail then .ok (d.addFile spot.location ⟨plainMode, .data []⟩)
      else .error .accessDenied
    | some (.file id) =>
      match d.files.get? id with
      | none => .error .notFound
      | some f =>
        if f.isWritable then .ok (d.setFile id { f with content := .data [] }, id)
        else .error .accessDenied
    | some _ => .error .isADirectory

def makeFile (d : Disk) (cwd : Location) (p : String) : Except DiskError (Disk × FileId) := do
  let s ← d.slot cwd p
  match s.name with
  | none => .error .alreadyExists
  | some n =>
    if s.slashed then .error .isADirectory
    else if (d.nodeAt (n :: s.parent)).isSome then .error .alreadyExists
    else if !d.mayWrite s.parent then .error .accessDenied
    else .ok (d.addFile (n :: s.parent) ⟨plainMode, .data []⟩)

def setContent (d : Disk) (id : FileId) (c : Content) : Disk :=
  match d.files.get? id with
  | none => d
  | some f => d.setFile id { f with content := c }

def appendData (d : Disk) (id : FileId) (b : Bytes) : Disk :=
  match d.files.get? id with
  | none => d
  | some f => d.setFile id { f with content := .data (f.content.bytes ++ b) }

def setModeOf (d : Disk) (id : FileId) (mode : Nat) : Disk :=
  match d.files.get? id with
  | none => d
  | some f => d.setFile id { f with mode }

def setMode (d : Disk) (cwd : Location) (p : String) (mode : Nat) : Except DiskError Disk := do
  let spot ← d.locate cwd true p
  match spot.node with
  | none => .error .notFound
  | some (.file id) => .ok (d.setModeOf id mode)
  | some .directory => .ok (d.setModeAt spot.location mode)
  | some (.symlink _) => .error .symlinkLoop

def makeSymlink (d : Disk) (cwd : Location) (target p : String) : Except DiskError Disk := do
  if target = "" then .error .notFound
  else if maxPath ≤ target.utf8ByteSize then .error .nameTooLong
  else
    let s ← d.slot cwd p
    match s.name with
    | none => .error .alreadyExists
    | some n =>
      if (d.nodeAt (n :: s.parent)).isSome then .error .alreadyExists
      else if s.slashed then .error .notFound
      else if !d.mayWrite s.parent then .error .accessDenied
      else .ok (d.put (n :: s.parent) (.symlink target))

def unlink (d : Disk) (cwd : Location) (p : String) : Except DiskError Disk := do
  let s ← d.slot cwd p
  match s.name with
  | none => .error .isADirectory
  | some n =>
    match d.nodeAt (n :: s.parent) with
    | none => .error .notFound
    | some node =>
      if s.slashed then .error (if node = .directory then .isADirectory else .notADirectory)
      else if !d.mayWrite s.parent then .error .accessDenied
      else if node = .directory then .error .isADirectory
      else .ok (d.remove (n :: s.parent))

/-- A second name for what `existing` names, itself and not through a link at its end. -/
def makeHardLink (d : Disk) (cwd : Location) (existing link : String) : Except DiskError Disk := do
  let spot ← d.locate cwd false existing
  match spot.node with
  | none => .error .notFound
  | some node =>
    let s ← d.slot cwd link
    match s.name with
    | none => .error .alreadyExists
    | some n =>
      if (d.nodeAt (n :: s.parent)).isSome then .error .alreadyExists
      else if s.slashed then .error .notFound
      else if !d.mayWrite s.parent then .error .accessDenied
      else if node = .directory then .error .notPermitted
      else .ok (d.put (n :: s.parent) node)

def moveName (d : Disk) (cwd : Location) (source target : String) : Except DiskError Disk := do
  let s ← d.slot cwd source
  let t ← d.slot cwd target
  match s.name, t.name with
  | some n, some m =>
    match d.nodeAt (n :: s.parent) with
    | none => .error .notFound
    | some .directory => .error .invalidArgument
    | some node =>
      if s.slashed || t.slashed then .error .notADirectory
      else if d.nodeAt (m :: t.parent) = some node && node.isFile then .ok d
      else if !d.mayWrite s.parent || !d.mayWrite t.parent then .error .accessDenied
      else if d.nodeAt (m :: t.parent) = some .directory then .error .isADirectory
      else .ok ((d.remove (n :: s.parent)).put (m :: t.parent) node)
  | _, _ => .error .busy

def list (d : Disk) (cwd : Location) (p : String) : Except DiskError (List String) := do
  let spot ← d.locate cwd true p
  match spot.node with
  | none => .error .notFound
  | some .directory => .ok ((d.children spot.location).map (·.1))
  | some _ => .error .notADirectory

end Provision.Disk
