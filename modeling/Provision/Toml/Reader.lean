import Provision.Toml.Scalar

namespace Provision.Toml

abbrev Reader := StateT (List Char) Option

namespace Reader

def orFail {α : Type} : Option α → Reader α
  | some a => pure a
  | none => failure

def peek : Reader (Option Char) := return (← get).head?

def next : Reader Char := do
  match ← get with
  | c :: r =>
    set r
    return c
  | [] => failure

def take? (s : String) : Reader Bool := do
  let r ← get
  if s.toList.isPrefixOf r then
    set (r.drop s.length)
    return true
  else return false

def expect (s : String) : Reader Unit := do
  if ← take? s then return () else failure

def span (p : Char → Bool) : Reader (List Char) := do
  let r ← get
  set (r.dropWhile p)
  return r.takeWhile p

def blanks : Reader Unit := do let _ ← span fun c => c = ' ' || c = '\t'

def newline? : Reader Bool := do
  if ← take? "\n" then return true else take? "\r\n"

def isControl (c : Char) : Bool := (c.toNat < 0x20 && c ≠ '\t') || c.toNat = 0x7F

def comment : Reader Unit := do
  if (← peek) = some '#' then let _ ← span fun c => !isControl c

def gap : Nat → Reader Unit
  | 0 => return ()
  | n + 1 => do
    blanks
    comment
    if ← newline? then gap n

def skipGap : Reader Unit := do gap ((← get).length + 1)

def endOfLine : Reader Unit := do
  blanks
  comment
  if (← get).isEmpty then return ()
  if ← newline? then return () else failure

def hexDigits : Nat → Nat → Reader Nat
  | 0, acc => pure acc
  | n + 1, acc => do
    let c ← next
    if Scalar.isHexDigit c then hexDigits n (16 * acc + Scalar.digitValue c) else failure

def charOf (n : Nat) : Reader Char := if n.isValidChar then pure (.ofNat n) else failure

def escape : Reader Char := do
  match ← next with
  | 'b' => return '\x08'
  | 't' => return '\t'
  | 'n' => return '\n'
  | 'f' => return '\x0C'
  | 'r' => return '\r'
  | 'e' => return '\x1B'
  | '"' => return '"'
  | '\\' => return '\\'
  | 'x' => charOf (← hexDigits 2 0)
  | 'u' => charOf (← hexDigits 4 0)
  | 'U' => charOf (← hexDigits 8 0)
  | _ => failure

def basicString : Nat → List Char → Reader String
  | 0, _ => failure
  | n + 1, acc => do
    let c ← next
    if c = '"' then return .ofList acc.reverse
    else if c = '\\' then basicString n ((← escape) :: acc)
    else if isControl c then failure
    else basicString n (c :: acc)

def literalString : Reader String := do
  let s ← span fun c => c ≠ '\'' && !isControl c
  expect "'"
  return .ofList s

def continuation : Reader Unit := do
  blanks
  if ← newline? then gapLines ((← get).length + 1) else failure
where
  gapLines : Nat → Reader Unit
    | 0 => return ()
    | n + 1 => do
      blanks
      if ← newline? then gapLines n

/-- The rest of a string over several lines. Up to two quotes may stand right before its end. -/
def longString (quote : Char) (escapes : Bool) : Nat → List Char → Reader String
  | 0, _ => failure
  | n + 1, acc => do
    let quotes ← span (· = quote)
    if 3 ≤ quotes.length then
      if quotes.length ≤ 5 then return .ofList ((quotes.drop 3 ++ acc).reverse) else failure
    else if !quotes.isEmpty then longString quote escapes n (quotes ++ acc)
    else if ← newline? then longString quote escapes n ('\n' :: acc)
    else
      let c ← next
      if c = '\\' && escapes then
        let p ← peek
        if p = some ' ' || p = some '\t' || p = some '\n' || p = some '\r' then
          continuation
          longString quote escapes n acc
        else longString quote escapes n ((← escape) :: acc)
      else if isControl c then failure
      else longString quote escapes n (c :: acc)

def startLong (quote : Char) (escapes : Bool) : Reader String := do
  let _ ← newline?
  longString quote escapes ((← get).length + 1) []

def quoted? : Reader (Option String) := do
  if ← take? "\"\"\"" then some <$> startLong '"' true
  else if ← take? "'''" then some <$> startLong '\'' false
  else if ← take? "\"" then some <$> do basicString ((← get).length + 1) []
  else if ← take? "'" then some <$> literalString
  else return none

def isBare (c : Char) : Bool := c.isAlphanum || c = '_' || c = '-'

def simpleKey : Reader String := do
  if ← take? "\"" then basicString ((← get).length + 1) []
  else if ← take? "'" then literalString
  else
    let s ← span isBare
    if s.isEmpty then failure else return .ofList s

def moreKeys : Nat → List String → Reader (List String)
  | 0, _ => failure
  | n + 1, acc => do
    blanks
    if ← take? "." then
      blanks
      moreKeys n ((← simpleKey) :: acc)
    else return acc.reverse

def key : Reader (List String) := do
  let k ← simpleKey
  moreKeys ((← get).length + 1) [k]

def scalar : Reader Value := do
  let s ← span Scalar.isPart
  let s ← if Scalar.isSplitDate s (← get) then
      let _ ← next
      pure (s ++ ' ' :: (← span Scalar.isPart))
    else pure s
  orFail (Scalar.value? s)

def items {α : Type} (close : String) (item : Reader α) : Nat → List α → Reader (List α)
  | 0, _ => failure
  | n + 1, acc => do
    skipGap
    if ← take? close then return acc.reverse
    let a ← item
    skipGap
    if ← take? "," then items close item n (a :: acc)
    else
      expect close
      return (a :: acc).reverse

def member (value : Reader Value) : Reader (List String × Value) := do
  let path ← key
  expect "="
  blanks
  return (path, ← value)

def value : Nat → Reader Value
  | 0 => simple
  | depth + 1 => do
    if ← take? "[" then .array <$> do items "]" (value depth) ((← get).length + 1) []
    else if ← take? "\x7b" then
      let entries ← items "\x7d" (member (value depth)) ((← get).length + 1) []
      .table .inline <$> orFail (Members.ofInline entries)
    else simple
where
  simple : Reader Value := do
    match ← quoted? with
    | some s => return .text s
    | none => scalar

def maxDepth : Nat := 80

structure Progress where
  root : Members
  current : List String

def statement (p : Progress) : Reader Progress := do
  if ← take? "[[" then
    blanks
    let path ← key
    expect "]]"
    return ⟨← orFail (p.root.openElement path), path⟩
  else if ← take? "[" then
    blanks
    let path ← key
    expect "]"
    return ⟨← orFail (p.root.openTable path), path⟩
  else
    let (path, v) ← member (value maxDepth)
    let root ← orFail (p.root.within false (fun _ ms => ms.insert path v .header) p.current .header)
    return { p with root }

def statements : Nat → Progress → Reader Members
  | 0, _ => failure
  | n + 1, p => do
    skipGap
    if (← get).isEmpty then return p.root
    let p ← statement p
    endOfLine
    statements n p

end Reader

def Members.ofText? (s : String) : Option Members :=
  let cs := match s.toList with
    | '\uFEFF' :: r => r
    | r => r
  ((Reader.statements (cs.length + 1) ⟨[], []⟩).run cs).map (·.1)

end Provision.Toml
