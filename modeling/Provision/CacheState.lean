import Provision.Extraction.Zip

namespace Provision

inductive CacheState where
  | absent
  | partiallyFetched
  | complete
  deriving DecidableEq, Repr

namespace CacheState

variable {σ : Type}

def name : CacheState → String
  | .absent => "Absent"
  | .partiallyFetched => "PartiallyFetched"
  | .complete => "Complete"

def text : CacheState → String
  | .absent => "absent"
  | .partiallyFetched => "archive downloaded, not extracted"
  | .complete => "installed"

def inspect (w : World σ) (dir archive : String) : CacheState :=
  if w.isDir (PathText.join dir ZipFile.marker) then .complete
  else if w.isFile (PathText.join dir archive) then .partiallyFetched
  else .absent

end CacheState
end Provision
