import Provision.Pattern
import Provision.Shell.Filter

namespace Provision.Shell.Search

open Provision.Shell.Filter (splitFlags hasFlag readAll text)

/-- A basic expression in the form of an extended one: what is special there behind a backslash is
special here without it, and the other way round. -/
def extended : List Char → List Char
  | '\\' :: c :: r =>
    if "+?|(){}".toList.contains c then c :: extended r else '\\' :: c :: extended r
  | c :: r => if "+?|()\x7b\x7d".toList.contains c then '\\' :: c :: extended r else c :: extended r
  | [] => []

def literally (s : List Char) : List Char :=
  s.flatMap fun c => if c.isAlphanum || 0x80 ≤ c.toNat then [c] else ['\\', c]

def regex? (flags : List String) (s : String) : Option Pattern.Regex :=
  let body := if hasFlag flags 'F' then literally s.toList
    else if hasFlag flags 'E' then s.toList else extended s.toList
  Pattern.Regex.ofText? (.ofList ((if hasFlag flags 'i' then "(?i)".toList else []) ++ body))

def occurrences (r : Pattern.Regex) (s : Array Char) : Nat → Nat → List String
  | 0, _ => []
  | n + 1, i =>
    if s.size ≤ i then []
    else match (r.ends s [i]).getLast? with
      | some j =>
        if i < j then .ofList ((s.toList.drop i).take (j - i)) :: occurrences r s n j
        else occurrences r s n (i + 1)
      | none => occurrences r s n (i + 1)

def shown (flags : List String) (r : Pattern.Regex) (label : String) (l : String) (number : Nat) :
    String :=
  let front := label ++ if hasFlag flags 'n' then toString number ++ ":" else ""
  if hasFlag flags 'o' then
    String.join ((occurrences r l.toList.toArray (l.length + 1) 0).map fun o => front ++ o ++ "\n")
  else front ++ l ++ "\n"

def grepFor (flags : List String) (p : String) (files : List String) : Job Nat := do
  let p := if hasFlag flags 'x' then "^\\(" ++ p ++ "\\)$" else p
  match regex? flags p with
  | none =>
    Job.complain "grep: Invalid regular expression\n"
    return 2
  | some r =>
    let pattern : Pattern := ⟨p, r⟩
    let (found, status) ← readAll "grep" files
    let matching : List (String × List (String × Nat)) := found.map fun (name, b) =>
      (name, (text b).zipIdx.filter fun e => pattern.isMatch e.1 != hasFlag flags 'v')
    let label (name : String) : String := if files.length ≤ 1 then "" else name ++ ":"
    if hasFlag flags 'l' then
      matching.forM fun (name, ls) => if ls.isEmpty then return () else Job.print (name ++ "\n")
    else if !hasFlag flags 'q' then
      matching.forM fun (name, ls) =>
        if hasFlag flags 'c' then Job.print (label name ++ toString ls.length ++ "\n")
        else Job.print (String.join (ls.map fun (l, i) => shown flags r (label name) l (i + 1)))
    if status ≠ 0 then return 2
    else return if matching.all (·.2.isEmpty) then 1 else 0

def grep : Tool := fun args => do
  let (flags, rest) := splitFlags args
  match Filter.optionOf 'e' args, rest with
  | some p, files => grepFor (flags.filter (· ≠ "-e")) p (files.drop 1)
  | none, p :: files => grepFor flags p files
  | none, [] => do
    Job.complain "Usage: grep [OPTION]... PATTERNS [FILE]...\n"
    return 2

/-- Replaces the longest match at each place, from the left: only the match with a number, or with
`every` it and all that follow. -/
def substitute (r : Pattern.Regex) (new : List Char) (every : Bool) (s : Array Char) :
    Nat → Nat → Nat → List Char
  | 0, _, _ => []
  | n + 1, skip, i =>
    let rest := s.toList.drop i
    match (r.ends s [i]).getLast? with
    | some j =>
      let matched := rest.take (j - i)
      let out := if 0 < skip then matched else new.flatMap fun c => if c = '&' then matched else [c]
      if skip = 0 && !every then out ++ s.toList.drop j
      else if j = i then
        match rest with
        | [] => out
        | c :: _ => out ++ c :: substitute r new every s n (skip - 1) (i + 1)
      else if s.size ≤ j then out
      else out ++ substitute r new every s n (skip - 1) j
    | none =>
      match rest with
      | [] => []
      | c :: _ => c :: substitute r new every s n skip (i + 1)

inductive Address where
  | line (n : Nat)
  | last
  | matching (p : Pattern)

def Address.holds (a : Address) (l : String) (number : Nat) (isLast : Bool) : Bool :=
  match a with
  | .line n => n = number
  | .last => isLast
  | .matching p => p.isMatch l

inductive Edit where
  | substitute (r : Pattern.Regex) (new : List Char) (every : Bool) (skip : Nat) (shows : Bool)
  | print
  | delete
  | quit

structure Instruction where
  start : Option Address
  stop : Option Address
  negated : Bool
  edit : Edit
  isOpen : Bool

def cutAt (mark : Char) : List Char → List Char → Option (List Char × List Char)
  | _, [] => none
  | acc, '\\' :: c :: r => cutAt mark (if c = mark then c :: acc else c :: '\\' :: acc) r
  | acc, c :: r => if c = mark then some (acc.reverse, r) else cutAt mark (c :: acc) r

def address? (flags : List String) (s : List Char) : Option (Option Address × List Char) :=
  match s with
  | '$' :: r => some (some .last, r)
  | '/' :: r => do
    let (body, rest) ← cutAt '/' [] r
    let regex ← regex? flags (.ofList body)
    return (some (.matching ⟨.ofList body, regex⟩), rest)
  | _ =>
    let ds := s.takeWhile Char.isDigit
    if ds.isEmpty then some (none, s)
    else some (((String.ofList ds).toNat?.map .line), s.drop ds.length)

def unescapeNew : List Char → List Char
  | '\\' :: 'n' :: r => '\n' :: unescapeNew r
  | c :: r => c :: unescapeNew r
  | [] => []

def edit? (flags : List String) (s : List Char) : Option (Edit × List Char) :=
  match s with
  | 'p' :: r => some (.print, r)
  | 'd' :: r => some (.delete, r)
  | 'q' :: r => some (.quit, r)
  | 's' :: mark :: r => do
    let (old, r) ← cutAt mark [] r
    let (new, r) ← cutAt mark [] r
    let options := r.takeWhile fun c => c ≠ ';' && c ≠ '\n'
    let ignoreCase := options.contains 'I' || options.contains 'i'
    let regex ← regex? (if ignoreCase then "-i" :: flags else flags) (.ofList old)
    let nth := ((String.ofList (options.filter Char.isDigit)).toNat?.getD 1) - 1
    return (.substitute regex (unescapeNew new) (options.contains 'g') nth (options.contains 'p'),
      r.drop options.length)
  | _ => none

def instructions? (flags : List String) : Nat → List Char → Option (List Instruction)
  | 0, _ => none
  | n + 1, s => do
    match s.dropWhile fun c => c = ';' || c = ' ' || c = '\n' with
    | [] => return []
    | s =>
      let (start, s) ← address? flags s
      let (stop, s) ← match s with
        | ',' :: r => address? flags r
        | r => some (none, r)
      let s := s.dropWhile (· = ' ')
      let (negated, s) := match s with
        | '!' :: r => (true, r)
        | r => (false, r)
      let (edit, s) ← edit? flags s
      return ⟨start, stop, negated, edit, false⟩ :: (← instructions? flags n s)

def Instruction.applies (i : Instruction) (l : String) (number : Nat) (isLast : Bool) :
    Bool × Instruction :=
  let (here, i) := match i.start, i.stop with
    | none, _ => (true, i)
    | some a, none => (a.holds l number isLast, i)
    | some a, some b =>
      if i.isOpen then (true, { i with isOpen := !b.holds l number isLast })
      else
        let starts := a.holds l number isLast
        let closes : Bool := match b with
          | .line n => n ≤ number
          | .last => isLast
          | .matching _ => false
        (starts, { i with isOpen := starts && !closes })
  (here != i.negated, i)

structure Edited where
  line : String
  printed : List String
  deleted : Bool
  last : Bool

def Edit.apply (e : Edit) (d : Edited) : Edited :=
  match e with
  | .print => { d with printed := d.printed ++ [d.line] }
  | .delete => { d with deleted := true }
  | .quit => { d with last := true }
  | .substitute r new every skip shows =>
    let cs := d.line.toList.toArray
    let line := String.ofList (Search.substitute r new every cs (cs.size + 2) skip 0)
    { d with line, printed := if shows && line ≠ d.line then d.printed ++ [line] else d.printed }

def editLine (number : Nat) (isLast : Bool) : List Instruction → Edited → Edited × List Instruction
  | [], d => (d, [])
  | i :: is, d =>
    if d.deleted || d.last then (d, i :: is)
    else
      let (here, i) := i.applies d.line number isLast
      let (d, is) := editLine number isLast is (if here then i.edit.apply d else d)
      (d, i :: is)

def editLines (quiet : Bool) : Nat → List Instruction → List (String × Bool) → List String
  | _, _, [] => []
  | number, is, (l, ended) :: r =>
    let (d, is) := editLine number r.isEmpty is ⟨l, [], false, false⟩
    let ending := if ended then "\n" else ""
    let out := d.printed.map (· ++ "\n") ++ if quiet || d.deleted then [] else [d.line ++ ending]
    if d.last then out else out ++ editLines quiet (number + 1) is r

def scripts : List String → List String × List String
  | "-e" :: s :: r =>
    let (found, rest) := scripts r
    (s :: found, rest)
  | a :: r =>
    let (found, rest) := scripts r
    (found, a :: rest)
  | [] => ([], [])

def sed : Tool := fun args => do
  let (given, args) := scripts args
  let (flags, rest) := splitFlags args
  let (script, files) := match given, rest with
    | [], s :: files => (some s, files)
    | [], [] => (none, [])
    | _, files => (some ("\n".intercalate given), files)
  match script with
  | none => do
    Job.complain "Usage: sed [OPTION]... \x7bscript-only-if-no-other-script\x7d [input-file]...\n"
    return 1
  | some script =>
    let style := if hasFlag flags 'E' || hasFlag flags 'r' then ["-E"] else []
    match instructions? style (script.length + 1) script.toList with
    | none =>
      Job.complain "sed: -e expression #1, char 1: unknown command\n"
      return 1
    | some is =>
      let (found, status) ← readAll "sed" files
      let lines := (Text.lines (found.flatMap (·.2))).map fun l =>
        (Text.decodeLossy (l.filter (· ≠ Text.newline)), l.contains Text.newline)
      Job.print (String.join (editLines (hasFlag flags 'n') 1 is lines))
      return status

end Provision.Shell.Search
