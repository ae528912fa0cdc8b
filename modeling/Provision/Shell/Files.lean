import Provision.Shell.Search

namespace Provision.Shell.Files

open Provision.Shell.Filter (splitFlags hasFlag)

def each (f : String → Job Nat) (args : List String) : Job Nat := do
  let statuses ← args.mapM f
  return if statuses.all (· = 0) then 0 else 1

def refuse (text : String) (e : DiskError) : Job Nat := do
  Job.complain (text ++ ": " ++ e.reason ++ "\n")
  return 1

def settle (text : String) (r : Except DiskError Unit) : Job Nat :=
  match r with
  | .ok () => return 0
  | .error e => refuse text e

def quoted (p : String) : String := "'" ++ p ++ "'"

def basename : Tool
  | [] => do
    Job.complain "basename: missing operand\n"
    return 1
  | p :: r => do
    let name := (PathText.segments p).getLast?.getD (if p = "" then "" else "/")
    let suffix := (r.head?.getD "").toList
    let cs := name.toList
    let cut := if suffix.isSuffixOf cs && suffix.length < cs.length
      then cs.take (cs.length - suffix.length)
      else cs
    Job.print (.ofList cut ++ "\n")
    return 0

def dirname : Tool := each fun p => do
  let d := (PathText.parent? p).getD (if PathText.isAbsolute p then "/" else ".")
  Job.print ((if d = "" then "." else d) ++ "\n")
  return 0

def pwd : Tool := fun _ => do
  Job.print ((← get).cwd.text ++ "\n")
  return 0

def ls : Tool := fun args => do
  let (flags, paths) := splitFlags args
  each (fun p => do
    let w ← get
    match w.disk.list w.cwd p with
    | .ok names =>
      let names := names.filter fun n => hasFlag flags 'a' || !n.startsWith "."
      let dots := if hasFlag flags 'a' then [".", ".."] else []
      if hasFlag flags 'd' then
        Job.print (p ++ "\n")
        return 0
      Job.print (String.join ((dots ++ names.mergeSort (· ≤ ·)).map (· ++ "\n")))
      return 0
    | .error .notADirectory =>
      Job.print (p ++ "\n")
      return 0
    | .error e =>
      let _ ← refuse ("ls: cannot access " ++ quoted p) e
      return 2) (if paths.isEmpty then ["."] else paths)

def lineage : Nat → String → List String
  | 0, _ => []
  | n + 1, p => (match PathText.parent? p with
    | some q => if q = "" then [] else lineage n q
    | none => []) ++ [p]

def mkdir : Tool := fun args => do
  let (flags, paths) := splitFlags args
  each (fun p => do
    let failed := "mkdir: cannot create directory " ++ quoted p
    if hasFlag flags 'p' then
      let rs ← (lineage (p.length + 1) p).mapM fun q => do
        if ← Job.isDir q then return 0
        else settle failed (← Job.change (·.makeDirectory · q))
      return if rs.all (· = 0) then 0 else 1
    else settle failed (← Job.change (·.makeDirectory · p))) paths

def modeOf? (old : Nat) (s : String) : Option Nat :=
  let cs := s.toList
  if !cs.isEmpty && cs.all Print.isOctal then
    some (cs.foldl (fun n c => 8 * n + (c.toNat - 48)) 0)
  else
    let who := cs.takeWhile fun c => "ugoa".toList.contains c
    let mask := if who.isEmpty || who.contains 'a' then 0o777
      else (if who.contains 'u' then 0o700 else 0) ||| (if who.contains 'g' then 0o70 else 0) |||
        (if who.contains 'o' then 0o7 else 0)
    match cs.drop who.length with
    | op :: what =>
      let bits := (if what.contains 'r' then 0o444 else 0) ||| (if what.contains 'w' then 0o222 else 0)
        ||| (if what.contains 'x' then 0o111 else 0)
      let bits := if who.isEmpty then bits &&& mask &&& 0o755 else bits &&& mask
      if !what.all fun c => "rwx".toList.contains c then none
      else if op = '+' then some (old ||| bits)
      else if op = '-' then some (old - (old &&& bits))
      else if op = '=' then some (old - (old &&& mask) ||| bits)
      else none
    | [] => none

def chmod : Tool
  | mode :: paths => each (fun p => do
      let w ← get
      match w.disk.locate w.cwd true p with
      | .error e => refuse ("chmod: cannot access " ++ quoted p) e
      | .ok spot =>
        let old := match spot.node with
          | some (.file id) => ((w.disk.files.get? id).map (·.mode)).getD 0
          | _ => w.disk.modeAt spot.location
        match (Text.split ',' mode).foldlM modeOf? old with
        | none =>
          Job.complain ("chmod: invalid mode: " ++ quoted mode ++ "\n")
          return 1
        | some m => settle ("chmod: cannot access " ++ quoted p) (← Job.change (·.setMode · p m)))
      paths
  | [] => do
    Job.complain "chmod: missing operand\n"
    return 1

def rm : Tool := fun args => do
  let (flags, paths) := splitFlags args
  let deep := hasFlag flags 'r' || hasFlag flags 'R'
  each (fun p => do
    let w ← get
    match w.disk.locate w.cwd false p with
    | .ok ⟨l, some .directory⟩ =>
      if !deep then refuse ("rm: cannot remove " ++ quoted p) .isADirectory
      else if w.disk.nodes.all fun e => !Location.isWithin e.1 l || w.disk.mayWrite e.1.tail then
        set { w with disk := w.disk.removeAll l }
        return 0
      else refuse ("rm: cannot remove " ++ quoted p) .accessDenied
    | .ok ⟨_, some _⟩ => settle ("rm: cannot remove " ++ quoted p) (← Job.change (·.unlink · p))
    | .ok ⟨_, none⟩ =>
      if hasFlag flags 'f' then return 0 else refuse ("rm: cannot remove " ++ quoted p) .notFound
    | .error e =>
      if hasFlag flags 'f' then return 0 else refuse ("rm: cannot remove " ++ quoted p) e) paths

def rmdir : Tool := each fun p => do
  let w ← get
  match w.disk.locate w.cwd false p with
  | .ok ⟨l, some .directory⟩ =>
    if !(w.disk.children l).isEmpty then refuse ("rmdir: failed to remove " ++ quoted p) .notEmpty
    else if w.disk.mayWrite l.tail then
      set { w with disk := w.disk.removeAll l }
      return 0
    else refuse ("rmdir: failed to remove " ++ quoted p) .accessDenied
  | .ok ⟨_, some _⟩ => refuse ("rmdir: failed to remove " ++ quoted p) .notADirectory
  | .ok ⟨_, none⟩ => refuse ("rmdir: failed to remove " ++ quoted p) .notFound
  | .error e => refuse ("rmdir: failed to remove " ++ quoted p) e

def touch : Tool := each fun p => do
  if ← Job.isPresent p then return 0
  match ← Job.openFile true p with
  | .ok _ => return 0
  | .error e => refuse ("touch: cannot touch " ++ quoted p) e

/-- Where something lands that is put to `target`: inside it, where that is a directory. -/
def landing (source target : String) : Job String := do
  if ← Job.isDir target then
    return PathText.join target ((PathText.segments source).getLast?.getD "")
  else return target

def cp : Tool := fun args => do
  match (splitFlags args).2 with
  | [source, target] =>
    let target ← landing source target
    let w ← get
    match w.disk.locate w.cwd true source, w.disk.read w.cwd source with
    | .ok ⟨_, some (.file id)⟩, .ok c =>
      let mode := ((w.disk.files.get? id).map (·.mode)).getD Disk.plainMode
      let fresh := !(w.disk.isPresent w.cwd target)
      match w.disk.openForWriting w.cwd target with
      | .ok (d, new) =>
        let d := d.setContent new c
        set { w with disk := if fresh then d.setModeOf new (mode &&& 0o755) else d }
        return 0
      | .error e => refuse ("cp: cannot create regular file " ++ quoted target) e
    | _, .error .isADirectory =>
      Job.complain ("cp: -r not specified; omitting directory " ++ quoted source ++ "\n")
      return 1
    | _, .error e => refuse ("cp: cannot stat " ++ quoted source) e
    | _, _ => refuse ("cp: cannot stat " ++ quoted source) .notFound
  | _ =>
    Job.complain "cp: missing file operand\n"
    return 1

def mv : Tool := fun args => do
  match (splitFlags args).2 with
  | [source, target] =>
    if !(← Job.isPresent source) then return ← refuse ("mv: cannot stat " ++ quoted source) .notFound
    let target ← landing source target
    settle ("mv: cannot move " ++ quoted source ++ " to " ++ quoted target)
      (← Job.change (·.moveName · source target))
  | _ =>
    Job.complain "mv: missing file operand\n"
    return 1

def ln : Tool := fun args => do
  let (flags, paths) := splitFlags args
  match paths with
  | [source, target] =>
    let target ← landing source target
    if hasFlag flags 'f' then
      let _ ← Job.change (·.unlink · target)
    if hasFlag flags 's' then
      settle ("ln: failed to create symbolic link " ++ quoted target)
        (← Job.change (·.makeSymlink · source target))
    else
      settle ("ln: failed to create hard link " ++ quoted target)
        (← Job.change (·.makeHardLink · source target))
  | _ =>
    Job.complain "ln: missing file operand\n"
    return 1

def fileTest (c : Char) (p : String) : Job (Option Bool) := do
  let w ← get
  let spot? := w.disk.nodeOf? w.cwd p
  let data? := spot?.bind fun s => w.disk.fileAt s.location
  let isDir := w.disk.isDir w.cwd p
  let allows (bit : Nat) : Bool := spot?.any fun s =>
    isDir && w.disk.modeAt s.location &&& bit ≠ 0
  match c with
  | 'e' => return some spot?.isSome
  | 'f' => return some (w.disk.isFile w.cwd p)
  | 'd' => return some isDir
  | 's' => return some (isDir || data?.any fun f => !f.content.bytes.isEmpty)
  | 'r' => return some (allows 0o400 || data?.any (·.isReadable))
  | 'w' => return some (allows 0o200 || data?.any (·.isWritable))
  | 'x' => return some (allows 0o100 || data?.any (·.isExecutable))
  | 'L' | 'h' =>
    return some (match w.disk.locate w.cwd false p with
      | .ok ⟨_, some (.symlink _)⟩ => true
      | _ => false)
  | 'z' => return some (p = "")
  | 'n' => return some (p ≠ "")
  | _ => return none

def compare? (a op b : String) : Option (Except String Bool) :=
  let numbers (f : Int → Int → Bool) : Option (Except String Bool) :=
    match (Text.trim a).toInt?, (Text.trim b).toInt? with
    | some x, some y => some (.ok (f x y))
    | none, _ => some (.error ("Illegal number: " ++ a))
    | _, none => some (.error ("Illegal number: " ++ b))
  match op with
  | "=" | "==" => some (.ok (a = b))
  | "!=" => some (.ok (a ≠ b))
  | "<" => some (.ok (a < b))
  | ">" => some (.ok (b < a))
  | "-eq" => numbers (· = ·)
  | "-ne" => numbers (· ≠ ·)
  | "-lt" => numbers (· < ·)
  | "-le" => numbers (· ≤ ·)
  | "-gt" => numbers (fun a b => b < a)
  | "-ge" => numbers (fun a b => b ≤ a)
  | _ => none

abbrev Condition := ExceptT String Job

def primary : Nat → List String → Condition (Bool × List String)
  | 0, args => throw (args.headD "" ++ ": unexpected operator")
  | n + 1, args => do
    match args with
    | [] => return (false, [])
    | a :: op :: b :: r =>
      match compare? a op b with
      | some (.ok v) => return (v, r)
      | some (.error e) => throw e
      | none => single n a (op :: b :: r)
    | a :: r => single n a r
where
  single (n : Nat) (a : String) (r : List String) : Condition (Bool × List String) := do
    match a, r with
    | "!", b :: r => do
      let (v, rest) ← primary n (b :: r)
      return (!v, rest)
    | _, b :: rest =>
      match a.toList with
      | ['-', c] =>
        match ← (fileTest c b : Job _) with
        | some v => return (v, rest)
        | none => return (a ≠ "", r)
      | _ => return (a ≠ "", r)
    | _, [] => return (a ≠ "", [])

def condition : Nat → Bool → Bool → List String → Condition Bool
  | 0, _, _, args => throw (args.headD "" ++ ": unexpected operator")
  | n + 1, before, all, args => do
    let (v, rest) ← primary (args.length + 1) args
    let v := all && v
    match rest with
    | [] => return before || v
    | "-a" :: r => condition n before v r
    | "-o" :: r => condition n (before || v) true r
    | _ => throw (args.headD "" ++ ": unexpected operator")

def testAs (name : String) (args : List String) : Job Nat := do
  match ← (condition (args.length + 1) false true args).run with
  | .ok true => return 0
  | .ok false => return 1
  | .error e =>
    Job.explain (name ++ ": " ++ e)
    return 2

def test : Tool := testAs "test"

def bracket : Tool := fun args => do
  if args.getLast? = some "]" then testAs "[" args.dropLast
  else
    Job.explain "[: missing ]"
    return 2

def readlink : Tool := fun args => each (fun p => do
  let w ← get
  match w.disk.locate w.cwd false p with
  | .ok ⟨_, some (.symlink target)⟩ =>
    Job.print (target ++ "\n")
    return 0
  | _ => return 1) (splitFlags args).2

def property (p : String) (mode size : Nat) : Char → String
  | 'a' => String.ofList (Nat.toDigits 8 mode)
  | 's' => toString size
  | 'n' => p
  | c => .ofList ['%', c]

def formatted (p : String) (mode size : Nat) : List Char → String
  | '%' :: c :: r => property p mode size c ++ formatted p mode size r
  | c :: r => .singleton c ++ formatted p mode size r
  | [] => "\n"

def stat : Tool := fun args => do
  let format := (Filter.optionOf 'c' args).getD "%n"
  each (fun p => do
    let w ← get
    match w.disk.nodeOf? w.cwd p with
    | none => refuse ("stat: cannot statx " ++ quoted p) .notFound
    | some spot =>
      let (mode, size) := match w.disk.fileAt spot.location with
        | some f => (f.mode, f.content.bytes.length)
        | none => (w.disk.modeAt spot.location, 4096)
      Job.print (formatted p mode size format.toList)
      return 0) (Filter.withoutValues args)

def expr : Tool := fun args => do
  let say (s : String) : Job Nat := do
    Job.print (s ++ "\n")
    return if s = "" || s = "0" then 1 else 0
  let truth (b : Bool) : String := if b then "1" else "0"
  match args with
  | [a] => say a
  | [a, op, b] =>
    match a.toInt?, op, b.toInt? with
    | some x, "+", some y => say (toString (x + y))
    | some x, "-", some y => say (toString (x - y))
    | some x, "*", some y => say (toString (x * y))
    | some x, "/", some y =>
      if y = 0 then
        Job.complain "expr: division by zero\n"
        return 2
      else say (toString (x.tdiv y))
    | some x, "%", some y =>
      if y = 0 then
        Job.complain "expr: division by zero\n"
        return 2
      else say (toString (x.tmod y))
    | some x, "<", some y => say (truth (x < y))
    | some x, "<=", some y => say (truth (x ≤ y))
    | some x, ">", some y => say (truth (y < x))
    | some x, ">=", some y => say (truth (y ≤ x))
    | _, "=", _ => say (truth (a = b))
    | _, "!=", _ => say (truth (a ≠ b))
    | _, _, _ => do
      Job.complain "expr: non-integer argument\n"
      return 2
  | _ => do
    Job.complain "expr: syntax error\n"
    return 2

def printenv : Tool := fun args => do
  let w ← get
  let inherited := w.values.filter fun v => w.exported.contains v.1
  match args with
  | [] => do
    Job.print (String.join (inherited.map fun v => v.1 ++ "=" ++ v.2 ++ "\n"))
    return 0
  | names =>
    let found := names.filterMap fun k => Table.get? inherited k
    Job.print (String.join (found.map (· ++ "\n")))
    return if found.length = names.length then 0 else 1

end Provision.Shell.Files
