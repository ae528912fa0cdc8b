import Provision.Disk.Lookup
import Provision.Feature

namespace Provision

namespace DiskError

def reason : DiskError → String
  | .notFound => "No such file or directory"
  | .alreadyExists => "File exists"
  | .notADirectory => "Not a directory"
  | .isADirectory => "Is a directory"
  | .notEmpty => "Directory not empty"
  | .nameTooLong => "File name too long"
  | .symlinkLoop => "Too many levels of symbolic links"
  | .accessDenied => "Permission denied"
  | .notPermitted => "Operation not permitted"
  | .busy => "Device or resource busy"
  | .invalidArgument => "Invalid argument"
  | .nulInPath => "file name contained an unexpected NUL byte"

def number? : DiskError → Option Nat
  | .notPermitted => some 1
  | .notFound => some 2
  | .accessDenied => some 13
  | .busy => some 16
  | .alreadyExists => some 17
  | .notADirectory => some 20
  | .isADirectory => some 21
  | .invalidArgument => some 22
  | .nameTooLong => some 36
  | .notEmpty => some 39
  | .symlinkLoop => some 40
  | .nulInPath => none

def message (e : DiskError) : String :=
  match e.number? with
  | some n => e.reason ++ " (os error " ++ toString n ++ ")"
  | none => e.reason

end DiskError

inductive Cause where
  | disk (e : DiskError)
  | emptyPath
  | damaged
  deriving DecidableEq, Repr

def Cause.message : Cause → String
  | .disk e => e.message
  | .emptyPath => "cannot make an empty path absolute"
  | .damaged => "invalid data"

inductive Step where
  | resolvePath (p : String)
  | resolve (p : String)
  | createDirectory (p : String)
  | createFile (p : String)
  | openArchive (p : String)
  | readTarEntry (p : String)
  | readZip (p : String)
  | readZipEntry (i : Nat)
  | extract (p : String)
  | setPermissions (p : String)
  | replace (p : String)
  | hardLink (existing link : String)
  | rename (source target : String)
  | write (p : String)
  | read (p : String)
  | parse (p : String)
  deriving DecidableEq, Repr

def Step.message : Step → String
  | .resolvePath p => "Failed to resolve path: " ++ p
  | .resolve p => "Failed to resolve " ++ p
  | .createDirectory p => "Failed to create directory: " ++ p
  | .createFile p => "Failed to create file: " ++ p
  | .openArchive p => "Failed to open archive: " ++ p
  | .readTarEntry p => "Failed to read tar entry: " ++ p
  | .readZip p => "Failed to read ZIP archive: " ++ p
  | .readZipEntry i => "Failed to read archive entry " ++ toString i
  | .extract p => "Failed to extract: " ++ p
  | .setPermissions p => "Failed to set permissions: " ++ p
  | .replace p => "Failed to replace: " ++ p
  | .hardLink existing link => "Failed to hard link " ++ existing ++ " to " ++ link
  | .rename source target => "Failed to rename " ++ source ++ " to " ++ target
  | .write p => "Failed to write " ++ p
  | .read p => "Failed to read " ++ p
  | .parse p => "Failed to parse " ++ p

inductive DownloadFault where
  | unusableUrl (url : String) (parsed : Option String)
  | noAnswer (url target : String)
  | badStatus (url : String) (code : Nat) (reason : String)
  | brokenBody (url : String)
  | stated (text : String)
  deriving DecidableEq, Repr

def DownloadFault.message : DownloadFault → String
  | .unusableUrl url none => "failed to connect to " ++ url ++ ": builder error"
  | .unusableUrl url (some parsed) =>
    "failed to connect to " ++ url ++ ": builder error for url (" ++ parsed ++ ")"
  | .noAnswer url target =>
    "failed to connect to " ++ url ++ ": error sending request for url (" ++ target ++ ")"
  | .badStatus url code reason => "HTTP " ++ toString code ++ " " ++ reason ++ " for " ++ url
  | .brokenBody url => "failed reading " ++ url ++ ": error decoding response body"
  | .stated text => text

inductive Stage where
  | download (f : Feature)
  | build (f : Feature)
  deriving DecidableEq, Repr

def Stage.message : Stage → String
  | .download f => "Failed to download LLVM " ++ f.tag
  | .build f => "Failed to build LLVM " ++ f.tag

inductive Failure where
  | unsupportedFeature (tag : String)
  | missingExternalDir (path : String)
  | downloadDisabled
  | missingArchive (path : String)
  | probeNotFound (binDir : String)
  | versionUnreadable (output : String)
  | commandFailed (command : String) (attempts : UInt32) (output : String)
  | downloadFailed (fault : DownloadFault)
  | unsupportedArchive (path : String)
  | unsafePath (path : String)
  | linkWithoutTarget (entry : String)
  | linkToRoot (entry : String)
  | invalidEntryPath (i : Nat)
  | step (s : Step) (c : Cause)
  | refused (e : DiskError)
  | stated (text : String)
  | during (s : Stage) (inner : Failure)
  /-- More attempts are due than can be counted. -/
  | endlessRetry
  deriving DecidableEq, Repr

namespace Failure

def message : Failure → String
  | .unsupportedFeature tag =>
    "unsupported LLVM feature '" ++ tag ++ "' (supported: " ++ Feature.supported ++ ")"
  | .missingExternalDir path => "external LLVM directory does not exist: " ++ path
  | .downloadDisabled =>
    "downloading LLVM is disabled; set RSQL_DOWNLOAD_LLVM=true or use the build operation"
  | .missingArchive path => "LLVM archive not found: " ++ path
  | .probeNotFound binDir => "no llvm-config executable found in " ++ binDir
  | .versionUnreadable output => "could not parse LLVM version from '" ++ output ++ "'"
  | .commandFailed command attempts output =>
    "command `" ++ command ++ "` failed after " ++ toString attempts.toNat ++ " attempt(s): " ++
      output
  | .downloadFailed fault => "download error: " ++ fault.message
  | .unsupportedArchive path => "Unsupported archive format: " ++ path
  | .unsafePath path =>
    "Refusing to extract path with parent directory or absolute reference: " ++ path
  | .linkWithoutTarget entry => "Hard link without target: " ++ entry
  | .linkToRoot entry => "Hard link points at the archive root: " ++ entry
  | .invalidEntryPath i => "Invalid entry path in archive: entry " ++ toString i
  | .step s _ => s.message
  | .refused e => e.message
  | .stated text => text
  | .during s _ => s.message
  | .endlessRetry => "retrying without end"

def causes : Failure → List String
  | .step _ c => [c.message]
  | .during _ inner => inner.message :: inner.causes
  | _ => []

/-- The failure that names the kind: the one inside all stages. -/
def core : Failure → Failure
  | .during _ inner => inner.core
  | f => f

def chain (f : Failure) : String := ": ".intercalate (f.message :: f.causes)

def indented (first rest : String) (s : String) : String :=
  match Text.split '\n' s with
  | [] => first
  | l :: ls => "\n".intercalate ((first ++ l) :: ls.map (rest ++ ·))

def spaces (n : Nat) : String := String.ofList (List.replicate n ' ')

def numbered (i : Nat) (s : String) : String :=
  let n := toString i
  indented (spaces (5 - n.length) ++ n ++ ": ") (spaces 7) s

def report (f : Failure) : String :=
  "Error: " ++ f.message ++
    match f.causes with
    | [] => ""
    | [c] => "\n\nCaused by:\n" ++ indented (spaces 4) (spaces 4) c
    | cs => "\n\nCaused by:\n" ++ "\n".intercalate (cs.mapIdx numbered)

end Failure
end Provision
