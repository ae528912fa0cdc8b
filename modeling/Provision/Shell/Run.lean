import Provision.Shell.Arithmetic
import Provision.Shell.Builtin
import Provision.Shell.Reader

namespace Provision.Shell

namespace Job

def tilde : Word → Job Word
  | .text s false :: r => do
    match s.toList, ← lookup "HOME" with
    | ['~'], some home => return .text home true :: r
    | '~' :: '/' :: cs, some home => return .text home true :: .text (.ofList ('/' :: cs)) false :: r
    | _, _ => return .text s false :: r
  | w => return w

def wordOf (quoted : Bool) (s : String) : Job Word :=
  match Token.wordOf quoted s with
  | .ok w => return w
  | .error e => abandon ("Syntax error: " ++ e)

def calculate (text : String) : Job String := do
  let failed (reason : String) : String :=
    "arithmetic expression: " ++ reason ++ ": \"" ++ text ++ "\""
  match Arithmetic.ofText text with
  | .error e => abandon (failed e)
  | .ok a =>
    match (Arithmetic.evaluate a).run (← get).values with
    | .ok (v, values) =>
      modify fun w => { w with values }
      return Arithmetic.decimal v
    | .error .divisionByZero => abandon (failed "division by zero")
    | .error (.notNumber s) => abandon ("Illegal number: " ++ s)

def isMissing (orEmpty : Bool) (v : Option String) : Bool := v.isNone || (orEmpty && v = some "")

def trace (words : List String) : Job Unit := do
  if (← get).watch.commands then complain ("+ " ++ " ".intercalate words ++ "\n")

def sinkOf (fd : Nat) : Job (Option Sink) := do
  let w ← get
  return if fd = 1 then some w.out else if fd = 2 then some w.err else none

def setSink (fd : Nat) (s : Sink) : Job Unit :=
  modify fun w =>
    if fd = 1 then { w with out := s } else if fd = 2 then { w with err := s } else w

def refuseLaunch (name : String) (e : DiskError) : Job Nat := do
  explain (name ++ ": " ++ if e = .notFound then "not found" else e.reason)
  return if e = .notFound then 127 else 126

def whereabouts (name : String) : Job (Option String) := do
  let w ← get
  if (w.functions.get? name).isSome || isBuiltin name then return some name
  else if name.toList.contains '/' then return if w.disk.isFile w.cwd name then some name else none
  else
    let dirs := Text.split ':' ((w.values.get? "PATH").getD "/bin:/usr/bin")
    return (dirs.map (PathText.join · name)).find? fun p =>
      (Program.plan w.disk w.cwd Program.maxInterpreters name p []) matches .ok _

def signalSelf (n : Nat) : Job (Option String) := do
  match (← get).traps.get? n with
  | some command => if n = 9 then throw (.killed n) else return some command
  | none => throw (.killed n)

def killRequest (args : List String) : Option Nat × List String :=
  match args with
  | "-s" :: s :: r => (signalOf s, r)
  | a :: r =>
    if a.startsWith "-" && a ≠ "--" then (signalOf (a.drop 1).toString, r) else (some 15, args)
  | [] => (some 15, [])

def endOf (r : Except Stop Nat) : Job Nat := do
  match r with
  | .error (.killed 9) => complain "Killed\n"
  | .error (.killed 15) => complain "Terminated\n"
  | _ => pure ()
  ended r

def round {α : Type} (x : Job α) : Job (Except Stop α) := do
  let n := (← get).loops
  modify fun w => { w with loops := n + 1 }
  let r ← attempt x
  modify fun w => { w with loops := n }
  return r

def outward : Stop → Option Stop
  | .again 1 => none
  | .again (n + 2) => some (.again (n + 1))
  | .leave (n + 2) => some (.leave (n + 1))
  | e => some e

end Job

mutual

def expand : Nat → Fields → Word → Job Fields
  | 0, _, _ => throw .timeout
  | _, f, [] => return f
  | n + 1, f, p :: r => do
    match p with
    | .text s quoted => expand n (if s = "" && !quoted then f else f.append quoted s) r
    | .variable "@" .plain true => expand n (f.addEach (← get).args) r
    | .variable name treatment quoted =>
      let v ← Job.valueOf name
      let found := v.getD ""
      match treatment with
      | .plain =>
        if v.isNone && (← get).watch.names then Job.abandon (name ++ ": parameter not set")
        expand n (f.add quoted found) r
      | .length => expand n (f.add quoted (toString found.utf8ByteSize)) r
      | .fallback orEmpty word =>
        if Job.isMissing orEmpty v then expand n f ((← Job.wordOf quoted word) ++ r)
        else expand n (f.add quoted found) r
      | .supply orEmpty word =>
        if Job.isMissing orEmpty v then
          let s ← expandText n (← Job.wordOf quoted word)
          Job.assign name s
          expand n (f.add quoted s) r
        else expand n (f.add quoted found) r
      | .demand orEmpty word =>
        if Job.isMissing orEmpty v then
          let s ← expandText n (← Job.wordOf quoted word)
          Job.abandon (name ++ ": " ++ if s = "" then "parameter not set" else s)
        else expand n (f.add quoted found) r
      | .instead orEmpty word =>
        if Job.isMissing orEmpty v then expand n f r
        else expand n f ((← Job.wordOf quoted word) ++ r)
      | .cut fromEnd longest pattern =>
        let is := Wildcard.ofMarks (← expandMarks n (← Job.wordOf false pattern))
        expand n (f.add quoted (.ofList (Wildcard.cut fromEnd longest is found.toList))) r
    | .output source quoted =>
      let (result, b) ← Job.capturing (Job.isolated do
        modify fun w => { w with tested := false }
        runText n (← get).line source)
      let outputStatus ← Job.ended result
      modify fun w => { w with outputStatus }
      let text := Text.decodeLossy (b.filter (· ≠ 0))
      let text := String.ofList (text.toList.reverse.dropWhile (· = '\n')).reverse
      expand n (f.add quoted text) r
    | .arithmetic source quoted =>
      let text ← expandText n (← Job.wordOf true source)
      expand n (f.add quoted (← Job.calculate text)) r

def expandAll : Nat → List Word → Job (List String)
  | 0, _ => throw .timeout
  | _, [] => return []
  | n + 1, w :: ws => do
    let fs ← expand n (.start (some (← Job.separators))) (← Job.tilde w)
    let v ← get
    return fs.toList.flatMap (Wildcard.expand v.disk v.cwd) ++ (← expandAll n ws)

def expandMarks : Nat → Word → Job (List Mark)
  | 0, _ => throw .timeout
  | n + 1, w => do return (← expand n (.start none) (← Job.tilde w)).joined

def expandText : Nat → Word → Job String
  | 0, _ => throw .timeout
  | n + 1, w => do return Mark.text (← expandMarks n w)

def redirect : Nat → List Redirection → Job Bool
  | 0, _ => throw .timeout
  | _, [] => return true
  | n + 1, r :: rs => do
    match r with
    | .copy fd source =>
      if let some s ← Job.sinkOf source then Job.setSink fd s
      redirect n rs
    | .close fd =>
      if fd = 0 then modify fun w => { w with input := [] } else Job.setSink fd .nowhere
      redirect n rs
    | .here word =>
      let text ← expandText n word
      modify fun w => { w with input := Text.bytes text }
      redirect n rs
    | .input word =>
      let p ← expandText n word
      match ← Job.readFile p with
      | .ok b =>
        modify fun w => { w with input := b }
        redirect n rs
      | .error e =>
        Job.explain ("cannot open " ++ p ++ ": " ++
          if e = .notFound then "No such file" else e.reason)
        return false
    | .write fd append word =>
      let p ← expandText n word
      match ← Job.openFile append p with
      | .ok s =>
        Job.setSink fd s
        redirect n rs
      | .error e =>
        Job.explain ("cannot create " ++ p ++ ": " ++
          if e = .notFound then "Directory nonexistent" else e.reason)
        return false

def redirected : Nat → List Redirection → Job Nat → Job Nat
  | 0, _, _ => throw .timeout
  | n + 1, redirections, x => do
    let w ← get
    if ← redirect n redirections then
      let r ← Job.attempt x
      modify fun v => { v with
        out := w.out
        err := w.err
        input := if redirections.any (·.isInput) then w.input else v.input }
      MonadExcept.ofExcept r
    else
      modify fun v => { v with out := w.out, err := w.err, input := w.input }
      return 2

def runScript : Nat → String → Job Nat
  | 0, _ => throw .timeout
  | n + 1, source => do
    let r ← Job.attempt (runText n 1 source)
    match (← get).traps.get? 0, r with
    | some command, .ok _ | some command, .error (.exit _) => do
      let status ← Job.ended r
      let _ ← Job.setStatus status
      let _ ← runText n 1 command
      return status
    | _, _ => MonadExcept.ofExcept r

def runPlan : Nat → Plan → Job Nat
  | 0, _ => throw .timeout
  | n + 1, plan => Job.isolated do
    modify fun w => { w with
      values := w.values.filter fun v => w.exported.contains v.1
      functions := []
      inFunction := false
      loops := 0
      watch := .none
      tested := false
      traps := w.traps.filter (·.2 = "")
      name := plan.name
      args := plan.args
      line := 0 }
    match plan.program with
    | .tool t => t plan.args
    | .env =>
      let flags := plan.args.takeWhile (·.startsWith "-")
      let flags := flags ++
        if flags.contains "-u" then (plan.args.drop flags.length).take 1 else []
      let inherited := (← get).values
      let kept := inherited.filter fun v => !flags.contains "-i" && !flags.contains v.1
      modify fun w => { w with values := kept }
      let rest := plan.args.drop flags.length
      let settings := rest.takeWhile fun a => a.toList.contains '='
      (settings.filterMap Job.binding?).forM fun (k, v) => do
        Job.assign k v
        Job.exportName k
      match rest.drop settings.length with
      | [] => do
        let w ← get
        let lines := (w.values.filter fun v => w.exported.contains v.1).map fun v =>
          v.1 ++ "=" ++ v.2 ++ "\n"
        Job.print (String.join lines)
        return 0
      | name :: args =>
        let w ← get
        match Program.resolve w.disk w.cwd (w.values.get? "PATH") name args with
        | .ok inner => runPlan n inner
        | .error (.disk e) => do
          Job.complain ("env: '" ++ name ++ "': " ++ e.reason ++ "\n")
          return if e = .notFound then 127 else 126
        | .error .format => do
          Job.complain ("env: '" ++ name ++ "': Exec format error\n")
          return 126
    | .batches =>
      let (limit, command) := Filter.batchOptions plan.args
      let items := Filter.items (← get).input
      modify fun w => { w with input := [] }
      runBatches n command (Filter.batches limit items)
    | .shell =>
      let isOption (a : String) : Bool :=
        (a.startsWith "-" || a.startsWith "+") && a ≠ "-" && a ≠ "--"
      let options := plan.args.takeWhile isOption
      let rest := plan.args.drop options.length
      let letters := options.flatMap fun a => a.toList.drop 1
      Job.watchFor true letters
      if letters.contains 'c' then
        match rest with
        | [] => do
          Job.complain (plan.name ++ ": 0: -c requires an argument\n")
          return 2
        | source :: names => do
          modify fun w => { w with name := names.head?.getD plan.name, args := names.drop 1 }
          runScript n source
      else match letters.contains 's', rest with
        | false, first :: more =>
          match ← Job.readFile first with
          | .ok b =>
            modify fun w => { w with name := first, args := more }
            runScript n (Text.decodeLossy b)
          | .error e =>
            Job.complain (plan.name ++ ": 0: cannot open " ++ first ++ ": " ++
              (if e = .notFound then "No such file" else e.reason) ++ "\n")
            return 2
        | _, args =>
          let source := Text.decodeLossy (← get).input
          modify fun w => { w with args, input := [] }
          runScript n source

def runBatches : Nat → List String → List (List String) → Job Nat
  | 0, _, _ => throw .timeout
  | _, _, [] => return 0
  | n + 1, command, b :: bs => do
    let first ← runNamed n (command.head?.getD "echo") (command.drop 1 ++ b)
    let rest ← runBatches n command bs
    return if first = 0 then rest else 123

def runNamed : Nat → String → List String → Job Nat
  | 0, _, _ => throw .timeout
  | n + 1, name, args => do
    let w ← get
    match Program.resolve w.disk w.cwd (w.values.get? "PATH") name args with
    | .ok plan => Job.endOf (← Job.attempt (runPlan n plan))
    | .error .format => Job.endOf (← Job.attempt (runPlan n ⟨.shell, name, name :: args⟩))
    | .error (.disk e) => Job.refuseLaunch name e

def invoke : Nat → List (String × String) → String → List String → Job Nat
  | 0, _, _, _ => throw .timeout
  | n + 1, values, name, args => do
    match (← get).functions.get? name with
    | some body => Job.withValues values (Job.call args (run n body))
    | none =>
      match name, args with
      | "eval", _ => Job.withValues values (runText n 1 (" ".intercalate args))
      | ".", p :: _ =>
        match ← Job.readFile (if p.toList.contains '/' then p else "") with
        | .ok b =>
          let r ← Job.attempt (runText n 1 (Text.decodeLossy b))
          match r with
          | .error (.returned k) => return k
          | _ => MonadExcept.ofExcept r
        | .error e =>
          if p.toList.contains '/' then
            Job.abandon (".: cannot open " ++ p ++ ": " ++
              if e = .notFound then "No such file" else e.reason)
          else Job.abandon (".: " ++ p ++ ": not found")
      | "command", "-v" :: name :: _ =>
        match ← Job.whereabouts name with
        | some p => do
          Job.print (p ++ "\n")
          return 0
        | none => return 127
      | "command", name :: args => invoke n values name args
      | "type", _ =>
        let statuses ← args.mapM fun name => do
          match ← Job.whereabouts name with
          | some p =>
            Job.print (name ++ (if p = name then " is a shell builtin" else " is " ++ p) ++ "\n")
            return 0
          | none =>
            Job.print (name ++ ": not found\n")
            return 127
        return (statuses.find? (· ≠ 0)).getD 0
      | "kill", _ =>
        match Job.killRequest args with
        | (some 0, pids) => return if pids.contains Job.processId then 0 else 1
        | (some s, pids) =>
          if pids.contains Job.processId then
            match ← Job.signalSelf s with
            | some command => runText n 1 command
            | none => return 0
          else
            Job.explain "kill: No such process"
            return 1
        | (none, _) =>
          Job.explain "kill: bad signal"
          return 2
      | _, _ =>
        match Job.builtin? name args with
        | some job => Job.withValues values job
        | none => Job.isolated do
          values.forM fun (k, v) => do
            Job.assign k v
            Job.exportName k
          runNamed n name args

def run : Nat → Code → Job Nat
  | 0, _ => throw .timeout
  | n + 1, c => do
    match c with
    | .nothing => return (← get).status
    | .malformed line reason =>
      modify fun w => { w with line }
      Job.abandon ("Syntax error: " ++ reason)
    | .define name body =>
      modify fun w => { w with functions := w.functions.set name body }
      Job.setStatus 0
    | .simple line assignments words redirections =>
      modify fun w => { w with line, outputStatus := 0 }
      let fields ← expandAll n words
      match fields with
      | [] =>
        let values ← assignAll n assignments
        values.forM fun (k, v) => Job.assign k v
        Job.trace (values.map fun (k, v) => k ++ "=" ++ v)
        let status := (← get).outputStatus
        Job.settle (← redirected n redirections (return status))
      | "exec" :: rest =>
        if ← redirect n redirections then
          match rest with
          | [] => Job.setStatus 0
          | name :: args =>
            let w ← get
            match Program.resolve w.disk w.cwd (w.values.get? "PATH") name args with
            | .error (.disk e) => throw (.exit (← Job.refuseLaunch ("exec: " ++ name) e))
            | _ => throw (.exit (← runNamed n name args))
        else throw (.exit 2)
      | name :: args =>
        let values ← assignAll n assignments
        Job.trace (values.map (fun (k, v) => k ++ "=" ++ v) ++ fields)
        Job.settle (← redirected n redirections (invoke n values name args))
    | .block isolated body redirections =>
      if isolated then
        Job.settle (← redirected n redirections (Job.isolated do
          modify fun w => { w with traps := w.traps.filter (·.2 = "") }
          run n body))
      else Job.setStatus (← redirected n redirections (run n body))
    | .seq a b =>
      let _ ← run n a
      run n b
    | .both a b => if (← Job.tested (run n a)) = 0 then run n b else return (← get).status
    | .either a b => if (← Job.tested (run n a)) = 0 then return 0 else run n b
    | .pipe a b =>
      let (result, data) ← Job.capturing (Job.isolated (run n a))
      let _ ← Job.ended result
      let w ← get
      set { w with input := data }
      let status ← Job.isolated (run n b)
      modify fun v => { v with input := w.input }
      Job.settle status
    | .negation a => Job.setStatus (if (← Job.tested (run n a)) = 0 then 1 else 0)
    | .branch test yes no =>
      let found ← Job.tested (run n test)
      let _ ← Job.setStatus 0
      if found = 0 then run n yes else run n no
    | .loop wanted test body => runLoop n wanted test body 0
    | .each name words body =>
      let fields ← expandAll n words
      let _ ← Job.setStatus 0
      runEach n name fields body
    | .choice word arms =>
      let s ← expandText n word
      let _ ← Job.setStatus 0
      runArms n s.toList arms

def runArms : Nat → List Char → List (List Word × Code) → Job Nat
  | 0, _, _ => throw .timeout
  | _, _, [] => return 0
  | n + 1, s, (patterns, body) :: arms => do
    if ← matchesAny n s patterns then run n body else runArms n s arms

def matchesAny : Nat → List Char → List Word → Job Bool
  | 0, _, _ => throw .timeout
  | _, _, [] => return false
  | n + 1, s, p :: ps => do
    if Wildcard.isMatch (Wildcard.ofMarks (← expandMarks n p)) s then return true
    else matchesAny n s ps

def assignAll : Nat → List (String × Word) → Job (List (String × String))
  | 0, _ => throw .timeout
  | _, [] => return []
  | n + 1, (k, w) :: r => do
    let v ← expandText n w
    return (k, v) :: (← assignAll n r)

def runLoop : Nat → Bool → Code → Code → Nat → Job Nat
  | 0, _, _, _, _ => throw .timeout
  | n + 1, wanted, test, body, last => do
    let r ← Job.round do
      if ((← Job.tested (run n test)) = 0) = wanted then return some (← run n body)
      else return none
    match r with
    | .ok (some status) => runLoop n wanted test body status
    | .ok none => Job.setStatus last
    | .error (.leave 1) => Job.setStatus 0
    | .error e =>
      match Job.outward e with
      | none => runLoop n wanted test body 0
      | some e => throw e

def runEach : Nat → String → List String → Code → Job Nat
  | 0, _, _, _ => throw .timeout
  | _, _, [], _ => return (← get).status
  | n + 1, name, v :: vs, body => do
    Job.assign name v
    match ← Job.round (run n body) with
    | .ok _ => runEach n name vs body
    | .error (.leave 1) => Job.setStatus 0
    | .error e =>
      match Job.outward e with
      | none => do
        let _ ← Job.setStatus 0
        runEach n name vs body
      | some e => throw e

def runText : Nat → Nat → String → Job Nat
  | 0, _, _ => throw .timeout
  | n + 1, start, source => do
    match Code.ofText start source with
    | .nothing => Job.setStatus 0
    | c => run n c

end

/-- How many steps a script may take inside one another. -/
def budget : Nat := 20000

end Provision.Shell
