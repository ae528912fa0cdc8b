import Provision.Text.Utf8

/-!
Tape archives as what a reader meets: compressed members, each a run of records. A record is an
entry or the end marker; nothing after an end marker is read.
-/

namespace Provision

inductive TarKind where
  | regular
  | directory
  | symlink
  | hardLink
  | fifo
  | characterDevice
  | blockDevice
  | contiguous
  | globalHeader
  | unknown
  deriving DecidableEq, Repr

structure TarEntry where
  name : String
  kind : TarKind
  mode : Nat
  data : Bytes
  link : String
  sound : Bool
  /-- The size the header states, where it is not that of the data. -/
  stated : Option Nat
  ustar : Bool := false
  deriving DecidableEq, Repr

/-- Under an older header, a name that ends in a slash is a directory's, whatever the kind of an
entry that is written like a file. -/
def TarEntry.isOldDirectory (e : TarEntry) : Bool :=
  !e.ustar && e.name.toList.getLast? = some '/' &&
    !(e.kind matches .directory | .symlink | .hardLink | .globalHeader)

def TarEntry.isDirectory (e : TarEntry) : Bool := e.kind = .directory || e.isOldDirectory

def TarEntry.isCut (e : TarEntry) : Bool := e.stated.any (e.data.length < ·)

inductive TarRecord where
  | entry (e : TarEntry)
  | endMarker
  deriving DecidableEq, Repr

inductive Compression where
  | xz
  | gzip
  | plain
  deriving DecidableEq, Repr

structure Tarball where
  compression : Compression
  members : List (List TarRecord)
  deriving DecidableEq, Repr

def entriesOf : List TarRecord → List TarEntry
  | [] => []
  | .endMarker :: _ => []
  | .entry e :: r => e :: entriesOf r

def Tarball.entries (t : Tarball) : List TarEntry := entriesOf t.members.flatten

/-- What a reader of one compression gets: the entries it reads, and whether the stream then
stops short. The gzip reader ends after the first member; the xz reader fails there, unless an end
marker came before. -/
structure TarStream where
  entries : List TarEntry
  broken : Bool
  deriving DecidableEq, Repr

def Tarball.stream (t : Tarball) (reader : Compression) : TarStream :=
  if t.compression ≠ reader then ⟨[], true⟩
  else match t.members with
    | [] => ⟨[], false⟩
    | m :: rest =>
      ⟨entriesOf m, reader = .xz && !rest.isEmpty && !m.contains .endMarker⟩

end Provision
