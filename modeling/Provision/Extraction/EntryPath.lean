import Provision.PathText

namespace Provision.EntryPath

open PathText

def isSafe (p : String) : Bool := !isAbsolute p && !(components p).contains .parent

/-- The path without its first component, `.` aside; none where nothing is left. -/
def stripFirst? (p : String) : Option String :=
  match ((components p).filter (· ≠ .current)).drop 1 with
  | [] => none
  | cs => some (ofComponents cs)

end Provision.EntryPath
