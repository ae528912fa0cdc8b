import Provision.Shell.Token

namespace Provision.Shell

structure SyntaxError where
  line : Nat
  reason : String
  deriving DecidableEq, Repr

abbrev Reader := StateT (List Lexeme) (Except SyntaxError)

namespace Reader

def front : Reader Lexeme := return (← get).head?.getD ⟨1, .ending⟩

def peek : Reader Token := return (← front).token

def skip : Reader Unit := modify (·.drop 1)

def bareWord? : Token → Option String
  | .word [.text s false] => some s
  | _ => none

def peekBare : Reader (Option String) := return bareWord? (← peek)

def reserved : List String :=
  ["if", "then", "else", "elif", "fi", "do", "done", "case", "esac", "while", "until", "for",
   "\x7b", "\x7d", "!"]

def inQuotes (s : String) : String := "\"" ++ s ++ "\""

def nameOf : Token → String
  | .word w =>
    match bareWord? (.word w) with
    | some s => if reserved.contains s then inQuotes s else "word"
    | none => "word"
  | .operator s => inQuotes s
  | .redirect _ _ => "redirection"
  | .newline => "newline"
  | .ending => "end of file"
  | .broken reason => reason

def refuse {α : Type} (line : Nat) (reason : String) : Reader α := throw ⟨line, reason⟩

def unexpected {α : Type} (wanted : Option String) : Reader α := do
  let t ← front
  match t.token with
  | .broken reason => refuse t.line reason
  | token =>
    refuse t.line (nameOf token ++ " unexpected" ++
      match wanted with
      | some s => " (expecting " ++ inQuotes s ++ ")"
      | none => "")

def takeOperator (s : String) : Reader Bool := do
  if (← peek) = .operator s then
    skip
    return true
  else return false

def expectOperator (s : String) : Reader Unit := do
  if ← takeOperator s then return () else unexpected s

def expectBare (s : String) : Reader Unit := do
  if (← peekBare) = some s then skip else unexpected s

def newlines : Nat → Reader Unit
  | 0 => return ()
  | n + 1 => do
    if (← peek) = .newline then
      skip
      newlines n

def skipNewlines : Reader Unit := do newlines (← get).length

def isCloser (s : String) : Bool :=
  ["then", "else", "elif", "fi", "do", "done", "esac", "\x7d"].contains s

def word : Reader Word := do
  match ← peek with
  | .word w =>
    skip
    return w
  | _ => unexpected none

def copied (fd : Nat) (line : Nat) : Word → Reader Redirection
  | [.text "-" _] => return .close fd
  | [.text s _] =>
    match s.toNat? with
    | some n => return .copy fd n
    | none => refuse line "Bad fd number"
  | _ => refuse line "Bad fd number"

def redirection (fd : Option Nat) (op : String) : Reader Redirection := do
  let line := (← front).line
  skip
  let w ← word
  match op with
  | "<" => return .input w
  | "<<" => return .here w
  | ">" | ">|" => return .write (fd.getD 1) false w
  | ">>" => return .write (fd.getD 1) true w
  | ">&" => copied (fd.getD 1) line w
  | _ => copied (fd.getD 0) line w

def redirections : Nat → Reader (List Redirection)
  | 0 => return []
  | n + 1 => do
    match ← peek with
    | .redirect fd op =>
      let r ← redirection fd op
      return r :: (← redirections n)
    | _ => return []

def assignment? : Word → Option (String × Word)
  | .text s false :: r =>
    match Text.splitOnce? '=' s.toList with
    | some (name, value) =>
      if Token.isName name then
        let rest := if value.isEmpty then r else .text (.ofList value) false :: r
        some (.ofList name, rest)
      else none
    | none => none
  | _ => none

def simple (line : Nat) : Nat → List (String × Word) → List Word → List Redirection → Reader Code
  | 0, _, _, _ => unexpected none
  | n + 1, as, ws, rs => do
    match ← peek with
    | .word w =>
      skip
      match ws, assignment? w with
      | [], some a => simple line n (a :: as) ws rs
      | _, _ => simple line n as (w :: ws) rs
    | .redirect fd op =>
      let r ← redirection fd op
      simple line n as ws (r :: rs)
    | _ =>
      if as.isEmpty && ws.isEmpty && rs.isEmpty then unexpected none
      else return .simple line as.reverse ws.reverse rs.reverse

def wordsUntilEnd : Nat → Reader (List Word)
  | 0 => unexpected none
  | n + 1 => do
    match ← peek with
    | .word w =>
      skip
      return w :: (← wordsUntilEnd n)
    | .operator ";" | .newline =>
      skip
      return []
    | _ => unexpected none

def patterns : Nat → Reader (List Word)
  | 0 => unexpected none
  | n + 1 => do
    let w ← word
    if ← takeOperator "|" then return w :: (← patterns n)
    else
      expectOperator ")"
      return [w]

def definedName? : List Lexeme → Option String
  | ⟨_, .word [.text s false]⟩ :: ⟨_, .operator "("⟩ :: ⟨_, .operator ")"⟩ :: _ =>
    if Token.isName s.toList then some s else none
  | _ => none

mutual

def list : Nat → Reader Code
  | 0 => unexpected none
  | n + 1 => do
    skipNewlines
    match ← peek with
    | .ending | .operator ")" | .operator ";;" => return .nothing
    | t =>
      if (bareWord? t).any isCloser then return .nothing
      let a ← conditional n
      match ← peek with
      | .operator ";" | .operator "&" | .newline =>
        skip
        return .seq a (← list n)
      | _ => return a

def someList : Nat → String → Reader Code
  | 0, _ => unexpected none
  | n + 1, closer => do
    match ← list n with
    | .nothing => if (← peek) = .ending then unexpected closer else unexpected none
    | c => return c

def conditional : Nat → Reader Code
  | 0 => unexpected none
  | n + 1 => do conditionals n (← pipeline n)

def conditionals : Nat → Code → Reader Code
  | 0, _ => unexpected none
  | n + 1, a => do
    if ← takeOperator "&&" then
      skipNewlines
      conditionals n (.both a (← pipeline n))
    else if ← takeOperator "||" then
      skipNewlines
      conditionals n (.either a (← pipeline n))
    else return a

def pipeline : Nat → Reader Code
  | 0 => unexpected none
  | n + 1 => do
    if (← peekBare) = some "!" then
      skip
      return .negation (← pipeline n)
    pipes n (← command n)

def pipes : Nat → Code → Reader Code
  | 0, _ => unexpected none
  | n + 1, a => do
    if ← takeOperator "|" then
      skipNewlines
      pipes n (.pipe a (← command n))
    else return a

def command : Nat → Reader Code
  | 0 => unexpected none
  | n + 1 => do
    if ← takeOperator "(" then
      let body ← someList n ")"
      expectOperator ")"
      return .block true body (← redirections n)
    match ← peekBare with
    | some "\x7b" =>
      skip
      let body ← someList n "\x7d"
      expectBare "\x7d"
      return .block false body (← redirections n)
    | some "if" =>
      skip
      let c ← branches n
      return .block false c (← redirections n)
    | some "while" => loop n true
    | some "until" => loop n false
    | some "for" => each n
    | some "case" => choice n
    | some s =>
      match definedName? (← get) with
      | some name =>
        modify (·.drop 3)
        skipNewlines
        return .define name (← command n)
      | none =>
        if isCloser s then unexpected none else simple (← front).line (n + 1) [] [] []
    | none => simple (← front).line (n + 1) [] [] []

def each : Nat → Reader Code
  | 0 => unexpected none
  | n + 1 => do
    skip
    match bareWord? (← peek) with
    | none => refuse (← front).line "Bad for loop variable"
    | some name =>
      if !Token.isName name.toList then refuse (← front).line "Bad for loop variable"
      skip
      skipNewlines
      let words ← if (← peekBare) = some "in" then
          skip
          wordsUntilEnd n
        else
          let _ ← takeOperator ";"
          pure [[.variable "@" .plain true]]
      skipNewlines
      expectBare "do"
      let body ← someList n "done"
      expectBare "done"
      return .block false (.each name words body) (← redirections n)

def choice : Nat → Reader Code
  | 0 => unexpected none
  | n + 1 => do
    skip
    let w ← word
    skipNewlines
    expectBare "in"
    let found ← arms n
    return .block false (.choice w found) (← redirections n)

def arms : Nat → Reader (List (List Word × Code))
  | 0 => unexpected none
  | n + 1 => do
    skipNewlines
    if (← peekBare) = some "esac" then
      skip
      return []
    if (← peek) = .ending then unexpected (some ")")
    let _ ← takeOperator "("
    let ps ← patterns n
    let body ← list n
    if ← takeOperator ";;" then return (ps, body) :: (← arms n)
    else
      expectBare "esac"
      return [(ps, body)]

def loop : Nat → Bool → Reader Code
  | 0, _ => unexpected none
  | n + 1, wanted => do
    skip
    let test ← someList n "do"
    expectBare "do"
    let body ← someList n "done"
    expectBare "done"
    return .block false (.loop wanted test body) (← redirections n)

def branches : Nat → Reader Code
  | 0 => unexpected none
  | n + 1 => do
    let test ← someList n "then"
    expectBare "then"
    let yes ← someList n "fi"
    match ← peekBare with
    | some "else" =>
      skip
      let no ← someList n "fi"
      expectBare "fi"
      return .branch test yes no
    | some "elif" =>
      skip
      return .branch test yes (← branches n)
    | _ =>
      expectBare "fi"
      return .branch test yes .nothing

end

def line : Nat → Reader Code
  | 0 => unexpected none
  | n + 1 => do
    let a ← conditional n
    match ← peek with
    | .operator ";" | .operator "&" =>
      skip
      match ← peek with
      | .newline | .ending => return a
      | _ => return .seq a (← line n)
    | .newline | .ending => return a
    | _ => unexpected none

def lines (fuel : Nat) : Nat → List Lexeme → Code
  | 0, _ => .nothing
  | n + 1, ts =>
    match ts.dropWhile (·.token = .newline) with
    | [] | ⟨_, .ending⟩ :: _ => .nothing
    | ts =>
      match (line fuel).run ts with
      | .ok (c, rest) => .seq c (lines fuel n rest)
      | .error e => .malformed e.line e.reason

end Reader

def Code.ofText (start : Nat) (s : String) : Code :=
  let ts := (Token.ofText s).map fun t => { t with line := t.line + (start - 1) }
  Reader.lines (10 * ts.length + 20) (ts.length + 1) ts

end Provision.Shell
