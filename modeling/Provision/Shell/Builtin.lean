import Provision.Shell.Program
import Provision.Shell.Field

namespace Provision.Shell.Job

def processId : String := "4242"

def watchLetters (w : Watch) : String :=
  (if w.failures then "e" else "") ++ (if w.names then "u" else "") ++
    (if w.commands then "x" else "")

def separators : Job (List Char) := return ((← lookup "IFS").getD " \t\n").toList

def valueOf (name : String) : Job (Option String) := do
  let w ← get
  match name with
  | "#" => return some (toString w.args.length)
  | "?" => return some (toString w.status)
  | "$" => return some processId
  | "@" => return some (" ".intercalate w.args)
  | "*" => return some ((String.ofList ((← separators).take 1)).intercalate w.args)
  | "-" => return some (watchLetters w.watch)
  | "!" => return none
  | "0" => return some w.name
  | _ =>
    match name.toNat? with
    | some n => return w.args[n - 1]?
    | none => lookup name

def abandon {α : Type} (text : String) : Job α := do
  explain text
  throw (.exit 2)

def setStatus (n : Nat) : Job Nat := do
  modify fun w => { w with status := n }
  return n

/-- Keeps the status of a command. A failure that nobody looks at ends the script, where that is
watched for. -/
def settle (n : Nat) : Job Nat := do
  let w ← get
  set { w with status := n }
  if n ≠ 0 && w.watch.failures && !w.tested then throw (.exit n) else return n

def watchFor (on : Bool) (letters : List Char) : Job Unit :=
  modify fun w => { w with watch :=
    { failures := if letters.contains 'e' then on else w.watch.failures
      names := if letters.contains 'u' then on else w.watch.names
      commands := if letters.contains 'x' then on else w.watch.commands } }

def letterOf : String → List Char
  | "errexit" => ['e']
  | "nounset" => ['u']
  | "xtrace" => ['x']
  | _ => []

def setOptions : List String → Job Unit
  | [] => return ()
  | "--" :: r => modify fun w => { w with args := r }
  | [a] => do option a ""
  | a :: b :: r => do
    if a = "-o" || a = "+o" then
      option a b
      setOptions r
    else if a.startsWith "-" || a.startsWith "+" then
      option a ""
      setOptions (b :: r)
    else modify fun w => { w with args := a :: b :: r }
where
  option (a name : String) : Job Unit :=
    match a.toList with
    | '-' :: letters => watchFor true (letters ++ letterOf name)
    | '+' :: letters => watchFor false (letters ++ letterOf name)
    | _ => modify fun w => { w with args := [a] }

def statusOf (command : String) : Option String → Job Nat
  | none => return (← get).status
  | some s =>
    match s.toNat? with
    | some n => return n % 256
    | none => abandon (command ++ ": Illegal number: " ++ s)

def binding? (s : String) : Option (String × String) :=
  (Text.splitOnce? '=' s.toList).map fun (k, v) => (.ofList k, .ofList v)

def changeDirectory (p : String) : Job Nat := do
  let w ← get
  match w.disk.locate w.cwd true p with
  | .ok ⟨l, some .directory⟩ =>
    set { w with cwd := l }
    assign "OLDPWD" w.cwd.text
    assign "PWD" l.text
    return 0
  | _ =>
    explain ("cd: can't cd to " ++ p)
    return 2

def declare (args : List String) (mark : String → Job Unit) : Job Nat := do
  args.forM fun a => do
    match binding? a with
    | some (k, v) =>
      assign k v
      mark k
    | none => mark a
  return 0

def shadow (name : String) : Job Unit :=
  modify fun w => { w with shadowed := (name, w.values.get? name) :: w.shadowed }

def restore : List (String × Option String) → Table String String → Table String String
  | [], t => t
  | (k, some v) :: r, t => restore r (t.set k v)
  | (k, none) :: r, t => restore r (t.erase k)

def call (args : List String) (body : Job Nat) : Job Nat := do
  let w ← get
  set { w with args, loops := 0, shadowed := [], inFunction := true }
  let r ← attempt body
  modify fun v => { v with
    args := w.args
    loops := w.loops
    shadowed := w.shadowed
    inFunction := w.inFunction
    values := restore v.shadowed v.values }
  match r with
  | .ok n | .error (.returned n) => return n
  | .error e => throw e

def leaveLoops (stop : Nat → Stop) (arg : Option String) : Job Nat := do
  let n := (← get).loops
  if n = 0 then return 0
  else throw (stop (min n (max 1 ((arg.bind String.toNat?).getD 1))))

def signals : List (String × Nat) :=
  [("EXIT", 0), ("HUP", 1), ("INT", 2), ("QUIT", 3), ("ABRT", 6), ("KILL", 9), ("USR1", 10),
   ("SEGV", 11), ("USR2", 12), ("PIPE", 13), ("ALRM", 14), ("TERM", 15)]

def signalOf (s : String) : Option Nat :=
  let name := if s.startsWith "SIG" then (s.drop 3).toString else s
  s.toNat?.or (Table.get? signals name)

def setTrap : List String → Job Nat
  | "-" :: names => do
    modify fun w => { w with
      traps := w.traps.filter fun t => !(names.filterMap signalOf).contains t.1 }
    return 0
  | command :: names => do
    (names.filterMap signalOf).forM fun n =>
      modify fun w => { w with traps := w.traps.set n command }
    return 0
  | [] => return 0

def distribute (separators : List Char) : Nat → List Char → List (List Char)
  | 0, _ => []
  | 1, s =>
    let blank (c : Char) : Bool := separators.contains c && Fields.isBlank c
    [((s.dropWhile blank).reverse.dropWhile blank).reverse]
  | n + 1, s =>
    let blank (c : Char) : Bool := separators.contains c && Fields.isBlank c
    let s := s.dropWhile blank
    let w := s.takeWhile fun c => !separators.contains c
    let rest := (s.drop w.length).dropWhile blank
    let rest := match rest with
      | c :: r => if separators.contains c && !Fields.isBlank c then r else rest
      | [] => []
    w :: distribute separators n rest

def readLine (args : List String) : Job Nat := do
  let w ← get
  let (l, rest) := Text.firstLine w.input
  set { w with input := rest }
  let text := (Text.decodeChars (l.filter (· ≠ Text.newline)))
  let text := if args.contains "-r" then text else text.filter (· ≠ '\\')
  let names := args.filter (!·.startsWith "-")
  let values := distribute (← separators) names.length text
  (names.zip values).forM fun (k, v) => assign k (.ofList v)
  return if l.contains Text.newline then 0 else 1

def shiftArguments (arg : Option String) : Job Nat := do
  let w ← get
  let n := (arg.bind String.toNat?).getD 1
  if w.args.length < n then abandon "shift: can't shift that many"
  set { w with args := w.args.drop n }
  return 0

def builtin? (name : String) (args : List String) : Option (Job Nat) :=
  match name with
  | ":" => some (return 0)
  | "exit" => some do throw (.exit (← statusOf name args.head?))
  | "return" => some do throw (.returned (← statusOf name args.head?))
  | "break" => some (leaveLoops .leave args.head?)
  | "continue" => some (leaveLoops .again args.head?)
  | "cd" => some do
    match args.filter fun a => a ≠ "-P" && a ≠ "-L" && a ≠ "--" with
    | [] => changeDirectory ((← lookup "HOME").getD "/")
    | "-" :: _ => do
      let status ← changeDirectory ((← lookup "OLDPWD").getD "/")
      print ((← get).cwd.text ++ "\n")
      return status
    | p :: _ => changeDirectory p
  | "export" => some do
    if args.isEmpty then
      let w ← get
      let lines := (w.values.filter fun v => w.exported.contains v.1).map fun v =>
        "export " ++ v.1 ++ "='" ++ v.2 ++ "'\n"
      print (String.join (lines.mergeSort (· ≤ ·)))
    declare args exportName
  | "readonly" => some (declare args fun _ => return ())
  | "local" => some do
    if !(← get).inFunction then abandon "local: not in a function"
    args.forM fun a => shadow (((binding? a).map (·.1)).getD a)
    declare args fun _ => return ()
  | "unset" => some do
    modify fun w => { w with
      values := w.values.filter fun v => !args.contains v.1
      functions := if args.contains "-f" then w.functions.filter fun v => !args.contains v.1
        else w.functions }
    return 0
  | "shift" => some (shiftArguments args.head?)
  | "set" => some do
    setOptions args
    return 0
  | "umask" => some do
    if args.isEmpty then print "0022\n"
    return 0
  | "trap" => some (setTrap args)
  | "wait" | "ulimit" | "alias" | "unalias" | "hash" | "times" => some (return 0)
  | "read" => some (readLine args)
  | "echo" => some (Print.echo args)
  | "printf" | "test" | "[" | "pwd" | "true" | "false" =>
    (Table.get? Program.tools name).map (· args)
  | _ => none

def isBuiltin (name : String) : Bool :=
  (builtin? name []).isSome || [".", "eval", "exec", "command", "kill", "type"].contains name

end Provision.Shell.Job
