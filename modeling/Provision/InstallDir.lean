import Provision.Config

namespace Provision

inductive Origin where
  | external
  | cache
  | standard
  deriving DecidableEq, Repr

def Origin.name : Origin → String
  | .external => "external"
  | .cache => "cache"
  | .standard => "default"

structure InstallDir where
  path : String
  origin : Origin
  deriving DecidableEq, Repr

namespace InstallDir

variable {σ : Type}

def isExternal (d : InstallDir) : Bool := d.origin = .external

def standardRoot (home : String) : String := PathText.join (PathText.join home ".rsql") "llvm"

def absolute (w : World σ) (p : String) : Except Failure String :=
  match w.absolute? p with
  | some q => .ok q
  | none => .error (.step (.resolvePath p) .emptyPath)

def resolve (c : Config) (w : World σ) : Except Failure InstallDir := do
  match c.externalDir, c.cacheDir with
  | some p, _ => if w.isDir p then return ⟨← absolute w p, .external⟩ else throw (.missingExternalDir p)
  | none, some p => return ⟨← absolute w p, .cache⟩
  | none, none =>
    let root := c.defaultRoot.getD (standardRoot w.home)
    return ⟨← absolute w (PathText.join root c.feature.tag), .standard⟩

end InstallDir
end Provision
