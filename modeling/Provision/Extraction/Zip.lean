import Provision.Extraction.EntryPath
import Provision.World

namespace Provision.ZipFile

variable {σ : Type}

open Provision.Action

def marker : String := "bin"

/-- The first component that all names share; none where there is no such, or where an entry cannot
be opened. -/
def sharedRoot? (es : List ZipEntry) : Option String :=
  match es with
  | [] => none
  | e :: r => do
    let root ← rootOf? e
    if r.all (rootOf? · = some root) then some root else none
where
  rootOf? (e : ZipEntry) : Option String :=
    if e.opens then e.enclosed? >>= (·.head?) else none

def wrapper? (es : List ZipEntry) : Option String :=
  (sharedRoot? es).filter fun root =>
    es.any (fun e => e.enclosed?.any (1 < ·.length)) && root ≠ marker

def relative? (wrapper : Option String) (segments : List String) : Option (List String) :=
  match wrapper, segments with
  | some root, s :: r => if s = root then (if r = [] then none else some r) else some (s :: r)
  | _, segments => some segments

def writeFile (e : ZipEntry) (p : String) : Action σ Unit := do
  createParents p
  let id ← step (.createFile p) (changeWith (·.openForWriting · p))
  changeDisk (·.setContent id (.data e.data))
  if !e.sound then throw (.step (.extract p) .damaged)
  match e.unixMode with
  | none => return ()
  | some mode => step (.setPermissions p) (change (·.setMode · p (mode &&& 0o7777)))

def extractEntry (dest : String) (wrapper : Option String) (i : Nat) (e : ZipEntry) :
    Action σ Unit := do
  if !e.opens then throw (.step (.readZipEntry i) .damaged)
  match e.enclosed? with
  | none => throw (.invalidEntryPath i)
  | some segments =>
    let name := "/".intercalate segments
    if !EntryPath.isSafe name then throw (.unsafePath name)
    match relative? wrapper segments with
    | none => return ()
    | some segments =>
      let p := PathText.join dest ("/".intercalate segments)
      if e.isDirectory then createDirectories p else writeFile e p

def extractEntries (dest : String) (wrapper : Option String) : Nat → List ZipEntry → Action σ Unit
  | _, [] => return ()
  | i, e :: r => do
    extractEntry dest wrapper i e
    extractEntries dest wrapper (i + 1) r

def extract (archive dest : String) : Action σ Unit := do
  match ← step (.openArchive archive) (ask (·.openForReading · archive)) with
  | .directory => throw (.step (.readZip archive) (.disk .isADirectory))
  | .file (.zip z) =>
    if !z.isReadable then throw (.step (.readZip archive) .damaged)
    createDirectories dest
    extractEntries dest (wrapper? z.listing) 0 z.listing
  | .file _ => throw (.step (.readZip archive) .damaged)

end Provision.ZipFile
