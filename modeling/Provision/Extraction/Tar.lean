import Provision.Extraction.EntryPath
import Provision.World

namespace Provision

def Compression.ofName? (archive : String) : Option Compression :=
  let ends (suffix : String) : Bool := suffix.toList.isSuffixOf archive.toList
  if ends ".tar.xz" || ends ".txz" then some .xz
  else if ends ".tar.gz" || ends ".tgz" then some .gzip
  else none

namespace Tarball

variable {σ : Type}

open Provision.Action

/-- Makes a file at a path; a name that is no directory's makes way for it. -/
def createNew (p : String) : StateM (World σ) (Except DiskError FileId) := do
  match ← changeWith (·.makeFile · p) with
  | .ok id => return .ok id
  | .error .alreadyExists =>
    match ← change (·.unlink · p) with
    | .ok () | .error .notFound => changeWith (·.makeFile · p)
    | .error e => return .error e
  | .error e => return .error e

def createLink (target p : String) : StateM (World σ) (Except DiskError Unit) := do
  match ← change (·.makeSymlink · target p) with
  | .ok () => return .ok ()
  | .error .alreadyExists =>
    match ← change (·.unlink · p) with
    | .ok () | .error .notFound => change (·.makeSymlink · target p)
    | .error e => return .error e
  | .error e => return .error e

def unpackFile (e : TarEntry) (p : String) : Action σ Unit := do
  let id ← step (.extract p) (createNew p)
  changeDisk (·.setContent id (.data e.data))
  if e.isCut then throw (.step (.extract p) .damaged)
  changeDisk (·.setModeOf id (e.mode &&& 0o777))

def createDirectory (p : String) : StateM (World σ) (Except DiskError Unit) := do
  match ← change (·.makeDirectory · p) with
  | .ok () => return .ok ()
  | .error .alreadyExists =>
    if (← get).isDir p then return .ok () else return .error .alreadyExists
  | .error e => return .error e

def unpackDirectory (e : TarEntry) (p : String) : Action σ Unit := do
  step (.extract p) (createDirectory p)
  step (.extract p) (change (·.setMode · p (e.mode &&& 0o777)))

def unpack (e : TarEntry) (p : String) : Action σ Unit :=
  match e.kind with
  | .globalHeader => return ()
  | .symlink =>
    if e.link = "" then throw (.step (.extract p) .damaged)
    else step (.extract p) (createLink e.link p)
  | _ => if e.isOldDirectory then unpackDirectory e p else unpackFile e p

/-- Makes `link` a second name of `existing`; what `link` led to before makes way. -/
def linkFile (existing link : String) : Action σ Unit := do
  createParents link
  if (← get).isPresent link then step (.replace link) (change (·.unlink · link))
  step (.hardLink existing link) (change (·.makeHardLink · existing link))

def requireSafe (p : String) : Action σ Unit :=
  if EntryPath.isSafe p then return () else throw (.unsafePath p)

def extractEntry (dest : String) (e : TarEntry) : Action σ Bool := do
  requireSafe e.name
  match EntryPath.stripFirst? e.name with
  | none => return false
  | some relative =>
    let p := PathText.join dest relative
    if e.kind = .directory then createDirectories p
    else if e.kind = .hardLink then
      if e.link = "" then throw (.linkWithoutTarget e.name)
      requireSafe e.link
      match EntryPath.stripFirst? e.link with
      | none => throw (.linkToRoot e.name)
      | some target => linkFile (PathText.join dest target) p
    else
      createParents p
      unpack e p
    return true

/-- Writes entries one by one and counts them. Behind an entry that is cut short nothing can be
read. -/
def extractEntries (archive dest : String) (broken : Bool) : Nat → List TarEntry → Action σ Nat
  | n, [] => if broken then throw (.step (.readTarEntry archive) .damaged) else return n
  | n, e :: r => do
    if !e.sound then throw (.step (.readTarEntry archive) .damaged)
    let written ← extractEntry dest e
    if e.isCut then throw (.step (.readTarEntry archive) .damaged)
    extractEntries archive dest broken (if written then n + 1 else n) r

def streamOf (reader : Compression) : Content → TarStream
  | .tarball t => t.stream reader
  | _ => ⟨[], true⟩

def extract (archive dest : String) : Action σ Unit := do
  let opened ← step (.openArchive archive) (ask (·.openForReading · archive))
  match Compression.ofName? archive with
  | none => throw (.unsupportedArchive archive)
  | some reader =>
    createDirectories dest
    match opened with
    | .directory => throw (.step (.readTarEntry archive) (.disk .isADirectory))
    | .file c =>
      let s := streamOf reader c
      let n ← extractEntries archive dest s.broken 0 s.entries
      tell .debug "Tar extraction finished" [("entries", toString n)]

end Tarball
end Provision
