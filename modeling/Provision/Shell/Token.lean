import Provision.Shell.Syntax
import Provision.Text.Split

namespace Provision.Shell

inductive Token where
  | word (w : Word)
  | operator (s : String)
  | redirect (fd : Option Nat) (s : String)
  | newline
  | ending
  | broken (reason : String)
  deriving DecidableEq, Repr

structure Lexeme where
  line : Nat
  token : Token
  deriving Repr

namespace Token

def isNameStart (c : Char) : Bool := c.isAlpha || c = '_'

def isNameChar (c : Char) : Bool := c.isAlphanum || c = '_'

def isName : List Char → Bool
  | c :: r => isNameStart c && r.all isNameChar
  | [] => false

def isSpecial (c : Char) : Bool := c.isDigit || "#*@?$!-".toList.contains c

def quoteMark : Char := '\x27'

def backQuote : Char := '\x60'

def endsWord (c : Char) : Bool := " \t\n;&|<>()".toList.contains c

def unterminated : String := "Unterminated quoted string"

def missingBrace : String := "Missing '\x7d'"

def closing : Nat → Nat → List Char → List Char → Option (List Char × List Char)
  | 0, _, _, _ => none
  | _, _, _, [] => none
  | n + 1, depth, acc, c :: r =>
    if c = ')' then
      match depth with
      | 0 => some (acc.reverse, r)
      | depth + 1 => closing n depth (c :: acc) r
    else if c = '(' then closing n (depth + 1) (c :: acc) r
    else if c = quoteMark then
      match Text.splitOnce? quoteMark r with
      | some (s, rest) => closing n depth (quoteMark :: s.reverse ++ c :: acc) rest
      | none => none
    else if c = '\\' then
      match r with
      | d :: r => closing n depth (d :: c :: acc) r
      | [] => none
    else closing n depth (c :: acc) r

def closingBrace : Nat → Nat → List Char → List Char → Option (List Char × List Char)
  | 0, _, _, _ => none
  | _, _, _, [] => none
  | n + 1, depth, acc, c :: r =>
    if c = '\x7d' then
      match depth with
      | 0 => some (acc.reverse, r)
      | depth + 1 => closingBrace n depth (c :: acc) r
    else if c = '\\' then
      match r with
      | d :: r => closingBrace n depth (d :: c :: acc) r
      | [] => none
    else match c, r with
      | '$', '{' :: r => closingBrace n (depth + 1) ('\x7b' :: c :: acc) r
      | _, _ => closingBrace n depth (c :: acc) r

def treatment? (s : List Char) : Option Treatment :=
  let orEmpty := s.head? = some ':'
  let word (r : List Char) : String := .ofList r
  match if orEmpty then s.drop 1 else s with
  | [] => if orEmpty then none else some .plain
  | '-' :: r => some (.fallback orEmpty (word r))
  | '=' :: r => some (.supply orEmpty (word r))
  | '?' :: r => some (.demand orEmpty (word r))
  | '+' :: r => some (.instead orEmpty (word r))
  | '#' :: '#' :: r => if orEmpty then none else some (.cut false true (word r))
  | '#' :: r => if orEmpty then none else some (.cut false false (word r))
  | '%' :: '%' :: r => if orEmpty then none else some (.cut true true (word r))
  | '%' :: r => if orEmpty then none else some (.cut true false (word r))
  | _ => none

def nameOf (s : List Char) : List Char :=
  match s with
  | c :: _ =>
    if isNameStart c then s.takeWhile isNameChar
    else if c.isDigit then s.takeWhile Char.isDigit
    else if isSpecial c then [c]
    else []
  | [] => []

def braced? (quoted : Bool) (s : List Char) : Option Part :=
  match s with
  | '#' :: r =>
    let name := nameOf r
    if r.isEmpty then some (.variable "#" .plain quoted)
    else if name.length = r.length then some (.variable (.ofList r) .length quoted)
    else (treatment? r).map (.variable "#" · quoted)
  | _ =>
    let name := nameOf s
    if name.isEmpty then none
    else (treatment? (s.drop name.length)).map (.variable (.ofList name) · quoted)

def dollar (quoted : Bool) (r : List Char) : Except String (Part × List Char) :=
  match r with
  | '(' :: '(' :: r =>
    match closing (r.length + 1) 1 [] r with
    | some (source, rest) =>
      if source.getLast? = some ')' then
        .ok (.arithmetic (.ofList source.dropLast) quoted, rest)
      else .ok (.output (.ofList ('(' :: source)) quoted, rest)
    | none => .error "Missing '))'"
  | '(' :: r =>
    match closing (r.length + 1) 0 [] r with
    | some (source, rest) => .ok (.output (.ofList source) quoted, rest)
    | none => .error "end of file unexpected (expecting \")\")"
  | '{' :: r =>
    match closingBrace (r.length + 1) 0 [] r with
    | some (inside, rest) =>
      match braced? quoted inside with
      | some p => .ok (p, rest)
      | none => .error "Bad substitution"
    | none => .error missingBrace
  | c :: rest =>
    if isNameStart c then
      let name := r.takeWhile isNameChar
      .ok (.variable (.ofList name) .plain quoted, r.drop name.length)
    else if isSpecial c then .ok (.variable (.singleton c) .plain quoted, rest)
    else .ok (.text "$" quoted, r)
  | [] => .ok (.text "$" quoted, [])

def backQuoted (quoted : Bool) : Nat → List Char → List Char → Except String (Part × List Char)
  | n + 1, acc, '\\' :: c :: r =>
    if c = backQuote || c = '\\' || c = '$' || (c = '"' && quoted) then
      backQuoted quoted n (c :: acc) r
    else backQuoted quoted n (c :: '\\' :: acc) r
  | n + 1, acc, c :: r =>
    if c = backQuote then .ok (.output (.ofList acc.reverse) quoted, r)
    else backQuoted quoted n (c :: acc) r
  | _, _, _ => .error "EOF in backquote substitution"

/-- The parts of a text between double quotes, last first in `acc`. Where the text is not between
quotes, it ends with the input. -/
def quotedParts (closed : Bool) : Nat → Word → List Char → Except String (Word × List Char)
  | 0, _, _ => .error unterminated
  | _, acc, [] => if closed then .error unterminated else .ok (acc, [])
  | n + 1, acc, c :: r =>
    if c = '"' && closed then .ok (acc, r)
    else if c = '\\' then
      match r with
      | [] => if closed then .error unterminated else .ok (.text "\\" true :: acc, [])
      | d :: r =>
        if d = '\n' then quotedParts closed n acc r
        else if d = '$' || d = backQuote || d = '\\' || (d = '"' && closed) then
          quotedParts closed n (.text (.singleton d) true :: acc) r
        else quotedParts closed n (.text (.ofList ['\\', d]) true :: acc) r
    else if c = '$' then do
      let (p, r) ← dollar true r
      quotedParts closed n (p :: acc) r
    else if c = backQuote then do
      let (p, r) ← backQuoted true n [] r
      quotedParts closed n (p :: acc) r
    else quotedParts closed n (.text (.singleton c) true :: acc) r

def wordParts (ends : Char → Bool) : Nat → Word → List Char → Except String (Word × List Char)
  | 0, _, _ => .error unterminated
  | _, acc, [] => .ok (acc, [])
  | n + 1, acc, c :: r =>
    if ends c then .ok (acc, c :: r)
    else if c = '\\' then
      match r with
      | [] => .ok (.text "\\" true :: acc, [])
      | d :: r =>
        if d = '\n' then wordParts ends n acc r
        else wordParts ends n (.text (.singleton d) true :: acc) r
    else if c = quoteMark then
      match Text.splitOnce? quoteMark r with
      | some (s, r) => wordParts ends n (.text (.ofList s) true :: acc) r
      | none => .error unterminated
    else if c = '"' then do
      let (acc, r) ← quotedParts true n (.text "" true :: acc) r
      wordParts ends n acc r
    else if c = '$' then do
      let (p, r) ← dollar false r
      wordParts ends n (p :: acc) r
    else if c = backQuote then do
      let (p, r) ← backQuoted false n [] r
      wordParts ends n (p :: acc) r
    else wordParts ends n (.text (.singleton c) false :: acc) r

def joinTexts : Word → Word
  | .text s q :: r =>
    match joinTexts r with
    | .text t q' :: r' => if q = q' then .text (s ++ t) q :: r' else .text s q :: .text t q' :: r'
    | r' => .text s q :: r'
  | p :: r => p :: joinTexts r
  | [] => []

def withoutQuotes : List Char → List Char
  | '\\' :: c :: r => '\\' :: c :: withoutQuotes r
  | c :: r => if c = '"' then withoutQuotes r else c :: withoutQuotes r
  | [] => []

def wordOf (quoted : Bool) (s : String) : Except String Word := do
  let (parts, _) ← if quoted then quotedParts false (s.length + 1) [] (withoutQuotes s.toList)
    else wordParts (fun _ => false) (s.length + 1) [] s.toList
  return joinTexts parts.reverse

def operators : List String := ["&&", "||", ";;", ";", "&", "|", "(", ")"]

def redirections : List String := ["<<-", "<<", ">>", ">&", "<&", ">|", ">", "<"]

def next? (texts : List String) (s : List Char) : Option (String × List Char) :=
  (texts.find? fun t => t.toList.isPrefixOf s).map fun t => (t, s.drop t.length)

def hereLines (tabs : Bool) (mark : List Char) :
    Nat → List (List Char) → List Char → List (List Char) × List Char
  | 0, acc, s => (acc.reverse, s)
  | n + 1, acc, s =>
    if s.isEmpty then (acc.reverse, [])
    else
      let l := s.takeWhile (· ≠ '\n')
      let rest := s.drop (l.length + 1)
      let l' := if tabs then l.dropWhile (· = '\t') else l
      let ends := if l.length < s.length then ['\n'] else []
      if l' = mark then (acc.reverse, rest)
      else hereLines tabs mark n ((l' ++ ends) :: acc) rest

def literal (w : Word) : List Char :=
  w.flatMap fun
    | .text s _ => s.toList
    | _ => []

def isQuoted (w : Word) : Bool := w.any fun p => p matches .text _ true

/-- Cuts a script into tokens. `skipped` counts the lines that texts in the script take up behind
this one. -/
def lex : Nat → Nat → Nat → List Char → List Lexeme
  | 0, line, _, _ => [⟨line, .ending⟩]
  | _, line, skipped, [] => [⟨line + skipped, .ending⟩]
  | n + 1, line, skipped, c :: r =>
    if c = ' ' || c = '\t' then lex n line skipped r
    else if c = '\n' then ⟨line, .newline⟩ :: lex n (line + 1 + skipped) 0 r
    else if c = '\\' && r.head? = some '\n' then lex n (line + 1) skipped (r.drop 1)
    else if c = '#' then lex n line skipped (r.dropWhile (· ≠ '\n'))
    else
      let ds := (c :: r).takeWhile Char.isDigit
      let fd := if ds.isEmpty then none else (String.ofList ds).toNat?
      match next? redirections ((c :: r).drop ds.length), next? operators (c :: r) with
      | some (op, rest), _ =>
        if op = "<<" || op = "<<-" then
          let rest := rest.dropWhile fun c => c = ' ' || c = '\t'
          match wordParts endsWord (rest.length + 1) [] rest with
          | .error e => [⟨line, .broken e⟩]
          | .ok (mark, rest) =>
            let sameLine := rest.takeWhile (· ≠ '\n')
            let below := rest.drop (sameLine.length + 1)
            let (ls, after) :=
              hereLines (op = "<<-") (literal mark.reverse) (below.length + 1) [] below
            let text := ls.flatten
            let used := below.length - after.length
            let lines := (below.take used).count '\n'
            match if isQuoted mark then .ok ([.text (.ofList text) true], [])
                else quotedParts false (text.length + 1) [] text with
            | .error e => [⟨line, .broken e⟩]
            | .ok (parts, _) =>
              ⟨line, .redirect fd "<<"⟩ :: ⟨line, .word (joinTexts parts.reverse)⟩ ::
                lex n line (skipped + lines) (sameLine ++ '\n' :: after)
        else ⟨line, .redirect fd op⟩ :: lex n line skipped rest
      | none, some (op, rest) => ⟨line, .operator op⟩ :: lex n line skipped rest
      | none, none =>
        match wordParts endsWord (r.length + 2) [] (c :: r) with
        | .error e => [⟨line + r.count '\n', .broken e⟩]
        | .ok (parts, rest) =>
          let used := (c :: r).take ((c :: r).length - rest.length)
          ⟨line, .word (joinTexts parts.reverse)⟩ :: lex n (line + used.count '\n') skipped rest

def ofText (s : String) : List Lexeme := lex (s.length + 1) 1 0 s.toList

end Token
end Provision.Shell
