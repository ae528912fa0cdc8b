namespace Provision

inductive Platform where
  | linux
  | macos
  | windows
  deriving DecidableEq, Repr

namespace Platform

def name : Platform → String
  | .linux => "linux"
  | .macos => "macos"
  | .windows => "windows"

def isWindows (p : Platform) : Bool := p = .windows

end Platform

inductive ArchiveFormat where
  | tar
  | zip
  deriving DecidableEq, Repr

namespace ArchiveFormat

def name : ArchiveFormat → String
  | .tar => "Tar"
  | .zip => "Zip"

def of (p : Platform) : ArchiveFormat := if p.isWindows then .zip else .tar

end ArchiveFormat
end Provision
