import Provision.Text.Split

/-!
Paths as text, with `/` between segments. Empty segments mean nothing, and neither does `.` except
where a relative path starts with it. Nothing here looks at a disk: `..` is kept.
-/

namespace Provision.PathText

inductive Component where
  | root
  | current
  | parent
  | name (s : String)
  deriving DecidableEq, Repr

def isAbsolute (p : String) : Bool := p.toList.head? = some '/'

def endsWithSlash (p : String) : Bool := p.toList.getLast? = some '/'

def isIdle (s : String) : Bool := s = "" || s = "."

def segments (p : String) : List String := (Text.split '/' p).filter (!isIdle ·)

def Component.ofSegment (s : String) : Component := if s = ".." then .parent else .name s

def startsWithDot (p : String) : Bool := (Text.split '/' p).head? = some "."

def components (p : String) : List Component :=
  let body := (segments p).map .ofSegment
  if isAbsolute p then .root :: body
  else if startsWithDot p then .current :: body
  else body

def Component.text : Component → String
  | .root => "/"
  | .current => "."
  | .parent => ".."
  | .name s => s

def join (p q : String) : String :=
  if isAbsolute q then q
  else if p = "" || endsWithSlash p then p ++ q
  else p ++ "/" ++ q

def ofComponents (cs : List Component) : String := cs.foldl (fun p c => join p c.text) ""

/-- The part of a path that holds neither its root nor the `.` it starts with. -/
def body (p : String) : String × List String :=
  if isAbsolute p then ("/", Text.split '/' (.ofList (p.toList.drop 1)))
  else if startsWithDot p then (".", Text.split '/' (.ofList (p.toList.drop 1)))
  else ("", Text.split '/' p)

def dropLastName? (ws : List String) : Option (List String) :=
  match ws.reverse.dropWhile isIdle with
  | [] => none
  | _ :: rest => some (rest.dropWhile isIdle).reverse

def parent? (p : String) : Option String :=
  let (start, ws) := body p
  match dropLastName? ws with
  | some ws => some (start ++ "/".intercalate ws)
  | none => if start = "." then some "" else none

def fileName? (p : String) : Option String :=
  match (components p).getLast? with
  | some (.name s) => some s
  | _ => none

def splitExtension (name : String) : String × Option String :=
  match Text.splitOnce? '.' name.toList.reverse with
  | some (ext, stem) =>
    if stem = [] || name = ".." then (name, none)
    else (.ofList stem.reverse, some (.ofList ext.reverse))
  | none => (name, none)

/-- A path made absolute against the directory `cwd`. Only an empty path has no such form. Two
slashes at the start stay two, more count as one, and a trailing slash stays. -/
def absolute? (cwd p : String) : Option String :=
  if p = "" then none
  else
    let cs := (components p).filter fun c => c ≠ .root && c ≠ .current
    let start :=
      if !isAbsolute p then cwd
      else if p.startsWith "//" && !p.startsWith "///" then "//" else "/"
    let q := cs.foldl (fun p c => join p c.text) start
    some (if endsWithSlash p then join q "" else q)

end Provision.PathText
