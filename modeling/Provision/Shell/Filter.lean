import Provision.Shell.Print
import Provision.Command.Tail

namespace Provision.Shell.Filter

def unreadable (tool p : String) (e : DiskError) : String :=
  if tool = "head" || tool = "tail" then
    tool ++ ": cannot open '" ++ p ++ "' for reading: " ++ e.reason ++ "\n"
  else tool ++ ": " ++ p ++ ": " ++ e.reason ++ "\n"

def readOne (tool p : String) : Job (Option Bytes) := do
  if p = "-" then return some (← get).input
  else match ← Job.readFile p with
    | .ok b => return some b
    | .error e =>
      Job.complain (unreadable tool p e)
      return none

def readAll (tool : String) (files : List String) : Job (List (String × Bytes) × Nat) := do
  let files := if files.isEmpty then ["-"] else files
  let found ← files.mapM fun p => return (p, ← readOne tool p)
  let good := found.filterMap fun (p, b) => b.map (p, ·)
  return (good, if good.length = found.length then 0 else 1)

def splitFlags (args : List String) : List String × List String :=
  let flags := args.takeWhile fun a => a.startsWith "-" && a ≠ "-" && a ≠ "--"
  let rest := args.drop flags.length
  (flags, if rest.head? = some "--" then rest.drop 1 else rest)

def hasFlag (flags : List String) (c : Char) : Bool := flags.any (·.toList.contains c)

def column (width n : Nat) : String :=
  let s := toString n
  Failure.spaces (width - s.length) ++ s

def cat : Tool := fun args => do
  let (flags, files) := splitFlags args
  let (found, status) ← readAll "cat" files
  let b := found.flatMap (·.2)
  if hasFlag flags 'n' then
    (Text.lines b).zipIdx.forM fun (l, i) =>
      Job.printBytes (Text.bytes (column 6 (i + 1) ++ "\t") ++ l)
  else Job.printBytes b
  return status

structure Amount where
  octets : Bool
  sign : Option Char
  count : Nat

def Amount.ofText (octets : Bool) (s : String) : Amount :=
  match s.toList with
  | c :: r =>
    if c = '+' || c = '-' then ⟨octets, some c, (String.ofList r).toNat?.getD 0⟩
    else ⟨octets, none, s.toNat?.getD 0⟩
  | [] => ⟨octets, none, 0⟩

def amount (args : List String) : Amount × List String :=
  match args with
  | "-n" :: n :: r => (.ofText false n, r)
  | "-c" :: n :: r => (.ofText true n, r)
  | a :: r =>
    match a.toList with
    | '-' :: 'n' :: cs => (.ofText false (.ofList cs), r)
    | '-' :: 'c' :: cs => (.ofText true (.ofList cs), r)
    | '-' :: c :: cs =>
      if c.isDigit then (.ofText false (.ofList (c :: cs)), r) else (⟨false, none, 10⟩, args)
    | _ => (⟨false, none, 10⟩, args)
  | [] => (⟨false, none, 10⟩, [])

def Amount.pieces (a : Amount) (b : Bytes) : List Bytes :=
  if a.octets then b.map fun x => [x] else Text.lines b

def head : Tool := fun args => do
  let (a, files) := amount args
  let (found, status) ← readAll "head" files
  found.forM fun (_, b) =>
    let ps := a.pieces b
    Job.printBytes (ps.take (if a.sign = some '-' then ps.length - a.count else a.count)).flatten
  return status

def tail : Tool := fun args => do
  let (a, files) := amount args
  let (found, status) ← readAll "tail" files
  found.forM fun (_, b) =>
    let ps := a.pieces b
    Job.printBytes (ps.drop (if a.sign = some '+' then a.count - 1 else ps.length - a.count)).flatten
  return status

def tac : Tool := fun files => do
  let (found, status) ← readAll "tac" files
  found.forM fun (_, b) => Job.printBytes (Text.lines b).reverse.flatten
  return status

def yes : Tool := fun args => do
  let line := Text.bytes (" ".intercalate (if args.isEmpty then ["y"] else args) ++ "\n")
  Job.printBytes (List.replicate (Job.endless / 8) line).flatten
  return 0

def tee : Tool := fun args => do
  let (flags, files) := splitFlags args
  let b := (← get).input
  Job.printBytes b
  let opened ← files.mapM fun p => do
    match ← Job.openFile (hasFlag flags 'a') p with
    | .ok s =>
      Job.emit s b
      return true
    | .error e =>
      Job.complain ("tee: " ++ p ++ ": " ++ e.reason ++ "\n")
      return false
  return if opened.all id then 0 else 1

def items (b : Bytes) : List String :=
  let cs := (Text.decodeChars b).map fun c => if c.isWhitespace then ' ' else c
  (Text.split ' ' (.ofList cs)).filter (· ≠ "")

def wc : Tool := fun args => do
  let (flags, files) := splitFlags args
  let (found, status) ← readAll "wc" files
  let all := flags.isEmpty
  let counts (b : Bytes) : List Nat :=
    (if all || hasFlag flags 'l' then [b.count Text.newline] else []) ++
    (if all || hasFlag flags 'w' then [(items b).length] else []) ++
    (if all || hasFlag flags 'c' || hasFlag flags 'm' then [b.length] else [])
  let rows := found.map fun (p, b) => (p, counts b)
  let total (ns : List Nat) (r : String × List Nat) : List Nat := ns.zipWith (· + ·) r.2
  let rows := match rows with
    | (p, ns) :: r :: rs => (p, ns) :: r :: rs ++ [("total", (r :: rs).foldl total ns)]
    | rs => rs
  let widest := (rows.flatMap fun r => r.2.map fun n => (toString n).length).foldl max 1
  let width := match rows with
    | [(_, [_])] => 1
    | _ => if files.isEmpty then 7 else widest
  rows.forM fun (p, ns) =>
    Job.print (" ".intercalate (ns.map (column width)) ++
      (if p = "-" && files.isEmpty then "" else " " ++ p) ++ "\n")
  return status

def text (b : Bytes) : List String :=
  (Text.lines b).map fun l => Text.decodeLossy (l.filter (· ≠ Text.newline))

def leadingNumber (s : String) : Int :=
  let cs := s.toList.dropWhile (· = ' ')
  let ds := cs.dropWhile (· = '-')
  let n : Int := ((String.ofList (ds.takeWhile Char.isDigit)).toNat?.getD 0 : Nat)
  if cs.head? = some '-' then -n else n

def sort : Tool := fun args => do
  let (flags, files) := splitFlags args
  let (found, status) ← readAll "sort" files
  let lines := found.flatMap fun (_, b) => text b
  let before (a b : String) : Bool :=
    if hasFlag flags 'n' && leadingNumber a ≠ leadingNumber b then leadingNumber a ≤ leadingNumber b
    else a ≤ b
  let lines := lines.mergeSort before
  let lines := if hasFlag flags 'r' then lines.reverse else lines
  let lines := if hasFlag flags 'u' then lines.eraseDups else lines
  Job.print (String.join (lines.map (· ++ "\n")))
  return status

def rev : Tool := fun files => do
  let (found, status) ← readAll "rev" files
  found.forM fun (_, b) =>
    Job.print (String.join ((text b).map fun l => .ofList ('\n' :: l.toList).reverse))
  return status

def groups : List String → List (String × Nat)
  | [] => []
  | l :: r =>
    match groups r with
    | (m, n) :: gs => if l = m then (m, n + 1) :: gs else (l, 1) :: (m, n) :: gs
    | [] => [(l, 1)]

def uniq : Tool := fun args => do
  let (flags, files) := splitFlags args
  let (found, status) ← readAll "uniq" files
  let all := groups (found.flatMap fun (_, b) => text b)
  let shown := if hasFlag flags 'd' then all.filter (1 < ·.2)
    else if hasFlag flags 'u' then all.filter (·.2 = 1) else all
  Job.print (String.join (shown.map fun (l, n) =>
    (if hasFlag flags 'c' then column 7 n ++ " " else "") ++ l ++ "\n"))
  return status

def isChosen (choice : String) (i : Nat) : Bool :=
  (Text.split ',' choice).any fun part =>
    match Text.split '-' part with
    | [a] => a.toNat? = some i
    | [a, b] => (a = "" || a.toNat?.any (· ≤ i)) && (b = "" || b.toNat?.any (i ≤ ·))
    | _ => false

def optionOf (c : Char) : List String → Option String
  | [] => none
  | a :: r =>
    match a.toList with
    | '-' :: d :: cs =>
      if c = d then (if cs.isEmpty then r.head? else some (.ofList cs)) else optionOf c r
    | _ => optionOf c r

def withoutValues : List String → List String
  | [] => []
  | a :: r =>
    if a.startsWith "-" && a ≠ "-" then
      if a.length = 2 && a ≠ "-s" then withoutValues (r.drop 1) else withoutValues r
    else a :: r
  termination_by args => args.length
  decreasing_by all_goals simp; try omega

def chosen {α : Type} (choice : String) (xs : List α) : List α :=
  (xs.zipIdx.filter fun (_, i) => isChosen choice (i + 1)).map (·.1)

def cut : Tool := fun args => do
  let (found, status) ← readAll "cut" (withoutValues args)
  let mark := ((optionOf 'd' args).bind (·.toList.head?)).getD '\t'
  let shorten (l : String) : String :=
    match optionOf 'f' args, (optionOf 'c' args).or (optionOf 'b' args) with
    | some choice, _ =>
      if l.toList.contains mark then
        (String.singleton mark).intercalate (chosen choice (Text.split mark l))
      else l
    | none, some choice => .ofList (chosen choice l.toList)
    | none, none => l
  found.forM fun (_, b) => Job.print (String.join ((text b).map fun l => shorten l ++ "\n"))
  return status

def batchOptions : List String → Option Nat × List String
  | "-n" :: n :: r => (n.toNat?, r)
  | a :: r =>
    if a.startsWith "-n" then ((a.drop 2).toString.toNat?, r)
    else if a.startsWith "-" then batchOptions r
    else (none, a :: r)
  | [] => (none, [])

def batchesOf (size : Nat) : Nat → List String → List (List String)
  | 0, _ => []
  | _, [] => []
  | n + 1, xs => xs.take (max 1 size) :: batchesOf size n (xs.drop (max 1 size))

def batches (limit : Option Nat) (xs : List String) : List (List String) :=
  match limit with
  | none => [xs]
  | some size => batchesOf size xs.length xs

def expandSet : Nat → List Char → List Char
  | 0, _ => []
  | _, [] => []
  | n + 1, '\\' :: 'n' :: r => '\n' :: expandSet n r
  | n + 1, '\\' :: 't' :: r => '\t' :: expandSet n r
  | n + 1, '\\' :: 'r' :: r => '\r' :: expandSet n r
  | n + 1, '\\' :: c :: r =>
    if Print.isOctal c then
      let ds := ((c :: r).take 3).takeWhile Print.isOctal
      Char.ofNat (Print.octal ds).toNat :: expandSet n ((c :: r).drop ds.length)
    else c :: expandSet n r
  | n + 1, a :: '-' :: b :: r =>
    (List.range (b.toNat + 1 - a.toNat)).map (fun i => Char.ofNat (a.toNat + i)) ++ expandSet n r
  | n + 1, c :: r =>
    let named (name chars : String) (rest : List Char) : Option (List Char) :=
      let s := ("[:" ++ name ++ ":]").toList
      if s.isPrefixOf (c :: r) then some (chars.toList ++ expandSet n rest) else none
    let rest := (c :: r).drop 9
    (named "space" " \t\n\r\x0b\x0c" rest).getD <|
      (named "digit" "0123456789" rest).getD <|
      (named "upper" "ABCDEFGHIJKLMNOPQRSTUVWXYZ" rest).getD <|
      (named "lower" "abcdefghijklmnopqrstuvwxyz" rest).getD <| c :: expandSet n r

def set (s : String) : List Char := expandSet (s.length + 1) s.toList

def translate (a b : List Char) (c : Char) : Char :=
  match a.idxOf? c with
  | some i => (b[i]?.or b.getLast?).getD c
  | none => c

def squeeze (s : List Char) : List Char → List Char
  | c :: d :: r => if c = d && s.contains c then squeeze s (d :: r) else c :: squeeze s (d :: r)
  | r => r

def tr : Tool := fun args => do
  let (flags, sets) := splitFlags args
  let input := Text.decodeChars (← get).input
  let output := match sets.map set, hasFlag flags 'd', hasFlag flags 's' with
    | a :: _, true, _ => input.filter fun c => !a.contains c
    | [a], _, true => squeeze a input
    | a :: b :: _, _, s =>
      let cs := input.map (translate a b)
      if s then squeeze b cs else cs
    | _, _, _ => input
  Job.print (.ofList output)
  return 0

end Provision.Shell.Filter
