import Provision.Shell.Session
import Provision.Shell.Wildcard

namespace Provision.Shell

/-- The fields that words have become so far, last first, and the one that is still open, whose
marks stand last first too. Without separators nothing is split. -/
structure Fields where
  separators : Option (List Char)
  done : List (List Mark)
  current : Option (List Mark)

namespace Fields

def start (separators : Option (List Char)) : Fields := ⟨separators, [], none⟩

def append (f : Fields) (quoted : Bool) (s : String) : Fields :=
  { f with current := some ((Mark.ofString quoted s).reverse ++ f.current.getD []) }

def close (f : Fields) : Fields :=
  match f.current with
  | some ms => { f with done := ms.reverse :: f.done, current := none }
  | none => f

def isBlank (c : Char) : Bool := c = ' ' || c = '\t' || c = '\n'

def appendValue (separators : List Char) (f : Fields) (c : Char) : Fields :=
  if !separators.contains c then { f with current := some (⟨c, false⟩ :: f.current.getD []) }
  else if isBlank c then f.close
  else { f with current := some (f.current.getD []) }.close

def add (f : Fields) (quoted : Bool) (s : String) : Fields :=
  match f.separators with
  | none => f.append quoted s
  | some separators => if quoted then f.append true s else s.toList.foldl (appendValue separators) f

def addEach (f : Fields) : List String → Fields
  | [] => f
  | [s] => f.append true s
  | s :: r =>
    match f.separators with
    | none => addEach ((f.append true s).append true " ") r
    | some _ => addEach (f.append true s).close r

def toList (f : Fields) : List (List Mark) := f.close.done.reverse

def joined (f : Fields) : List Mark := f.toList.flatten

end Fields

namespace Wildcard

def segments : List Mark → List (List Mark)
  | [] => [[]]
  | m :: r =>
    if m.char = '/' then [] :: segments r
    else match segments r with
      | [] => [[m]]
      | s :: ss => (m :: s) :: ss

def startsWithDot (s : List Mark) : Bool := (s.head?.map Mark.char) = some '.'

def names (d : Disk) (cwd : Location) (dir : String) (s : List Mark) : List String :=
  let all : List String := match d.list cwd (if dir = "" then "." else dir) with
    | .ok names => if startsWithDot s then "." :: ".." :: names else names
    | .error _ => []
  let shown := all.filter fun name =>
    (!name.startsWith "." || startsWithDot s) && isMatch (ofMarks s) name.toList
  shown.mergeSort (· ≤ ·)

def below (d : Disk) (cwd : Location) (base : String) (s : List Mark) : List String :=
  if isPlain (ofMarks s) then
    if s.isEmpty || d.isPresent cwd (base ++ Mark.text s) then [base ++ Mark.text s] else []
  else (names d cwd base s).map (base ++ ·)

def paths (d : Disk) (cwd : Location) (base : String) : List (List Mark) → List String
  | [] => if d.isPresent cwd base then [base] else []
  | [s] => below d cwd base s
  | s :: ss => (below d cwd base s).flatMap fun p => paths d cwd (p ++ "/") ss

def expand (d : Disk) (cwd : Location) (field : List Mark) : List String :=
  if isPlain (ofMarks field) then [Mark.text field]
  else match paths d cwd "" (segments field) with
    | [] => [Mark.text field]
    | found => found

end Wildcard
end Provision.Shell
