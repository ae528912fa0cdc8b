import Provision.Pattern.Property
import Provision.Pattern.Regex
import Provision.Text.Split

namespace Provision.Pattern

inductive Flag where
  | ignoreCase
  | multiLine
  | dotAll
  | swapGreed
  | unicode
  | carriageReturn
  | verbose
  deriving DecidableEq, Repr

def Flag.ofChar? : Char → Option Flag
  | 'i' => some .ignoreCase
  | 'm' => some .multiLine
  | 's' => some .dotAll
  | 'U' => some .swapGreed
  | 'u' => some .unicode
  | 'R' => some .carriageReturn
  | 'x' => some .verbose
  | _ => none

abbrev Flags := List Flag

structure Reading where
  rest : List Char
  flags : Flags
  names : List String

abbrev Reader := StateT Reading Option

namespace Reader

def has (f : Flag) : Reader Bool := return (← get).flags.contains f

def peek : Reader (Option Char) := return (← get).rest.head?

def peekSecond : Reader (Option Char) := return ((← get).rest.drop 1).head?

def drop (n : Nat) : Reader Unit := modify fun s => { s with rest := s.rest.drop n }

def skipIdle : Nat → List Char → List Char
  | 0, r => r
  | _ + 1, [] => []
  | n + 1, c :: r =>
    if Text.isBlank c then skipIdle n r
    else if c = '#' then skipIdle n ((r.dropWhile (· ≠ '\n')).drop 1)
    else c :: r

def skip : Reader Unit := do
  if ← has .verbose then modify fun s => { s with rest := skipIdle s.rest.length s.rest }

def advance : Reader Unit := do
  drop 1
  skip

def orFail {α : Type} : Option α → Reader α
  | some a => pure a
  | none => failure

def take? (s : String) : Reader Bool := do
  if s.toList.isPrefixOf (← get).rest then
    drop s.length
    return true
  else return false

def expect (c : Char) : Reader Unit := do
  if (← peek) = some c then return () else failure

def top : Reader Nat := return if ← has .unicode then 0x10FFFF else 0xFF

/-- A set that matches whole characters only: octets above ASCII are parts of characters. -/
def whole (s : CharSet) : Reader CharSet := do
  if (← has .unicode) || s.isAscii then return s else failure

def fold (s : CharSet) : Reader CharSet := do
  if !(← has .ignoreCase) then return s
  else if ← has .unicode then return s.foldCase
  else return s.foldAscii

def negateIf (negated : Bool) (s : CharSet) : Reader CharSet := do
  if negated then return s.complement (← top) else return s

def words : Reader CharSet := return if ← has .unicode then .word else .asciiWord

inductive Atom where
  | literal (c : Char)
  | set (s : CharSet)
  | look (l : Look)

def hexValue (c : Char) : Option Nat :=
  if c.isDigit then some (c.toNat - 48)
  else if 'a' ≤ c ∧ c ≤ 'f' then some (c.toNat - 87)
  else if 'A' ≤ c ∧ c ≤ 'F' then some (c.toNat - 55)
  else none

def charOf (n : Nat) : Reader Char := if n.isValidChar then pure (.ofNat n) else failure

def hexDigits : Nat → Nat → Reader Nat
  | 0, acc => pure acc
  | n + 1, acc => do
    let d ← orFail ((← peek).bind hexValue)
    advance
    hexDigits n (16 * acc + d)

def hexUntilBrace : Nat → Option Nat → Reader Nat
  | 0, _ => failure
  | n + 1, acc => do
    let c ← orFail (← peek)
    if c = '}' then
      advance
      orFail acc
    else
      let d ← orFail (hexValue c)
      advance
      hexUntilBrace n (some (16 * acc.getD 0 + d))

/-- A character by its number. Two digits alone stand for an octet where characters are octets. -/
def hexLiteral (kind : Char) : Reader Char := do
  advance
  if (← peek) = some '{' then
    advance
    charOf (← hexUntilBrace ((← get).rest.length + 1) none)
  else
    let digits := if kind = 'x' then 2 else if kind = 'u' then 4 else 8
    let n ← hexDigits digits 0
    if kind = 'x' && !(← has .unicode) && 0x7F < n then failure
    charOf n

def untilBrace : Nat → List Char → Reader (List Char)
  | 0, _ => failure
  | n + 1, acc => do
    let c ← orFail (← peek)
    if c = '}' then
      drop 1
      return acc.reverse
    else
      advance
      untilBrace n (c :: acc)

def splitProperty (s : List Char) : String × Option String × Bool :=
  match Text.splitOnce? '!' s with
  | some (name, '=' :: value) => (.ofList name, some (.ofList value), true)
  | _ =>
    match Text.splitOnce? ':' s, Text.splitOnce? '=' s with
    | some (name, value), _ => (.ofList name, some (.ofList value), false)
    | none, some (name, value) => (.ofList name, some (.ofList value), false)
    | none, none => (.ofList s, none, false)

def property : Reader CharSet := do
  let negated := (← peek) = some 'P'
  advance
  let c ← orFail (← peek)
  let (name, value, differs) ←
    if c = '{' then
      advance
      pure (splitProperty (← untilBrace ((← get).rest.length + 1) []))
    else if c = '\\' then failure
    else
      advance
      pure (String.singleton c, none, false)
  if !(← has .unicode) then failure
  negateIf (negated != differs) (← fold (← orFail (Property.lookup? name value)))

def classLetter (c : Char) : Reader CharSet := do
  let unicode ← has .unicode
  let s : CharSet := match c.toLower with
    | 'd' => if unicode then .digit else .asciiDigit
    | 's' => if unicode then .space else .asciiSpace
    | _ => if unicode then .word else .asciiWord
  whole (← negateIf c.isUpper s)

def boundary? : String → Option Look
  | "start" => some .wordStart
  | "end" => some .wordEnd
  | "start-half" => some .afterNoWord
  | "end-half" => some .beforeNoWord
  | _ => none

def isBoundaryChar (c : Char) : Bool := c.isAlpha || c = '-'

def boundaryName : Nat → List Char → Reader (List Char)
  | 0, _ => failure
  | n + 1, acc => do
    let c ← orFail (← peek)
    if isBoundaryChar c then
      advance
      boundaryName n (c :: acc)
    else return acc.reverse

/-- The condition `\b`, or the one named in braces behind it. Braces that hold no name are left to
count repetitions. -/
def wordBoundary : Reader Look := do
  if (← peek) ≠ some '{' then return .wordEdge
  let start ← get
  advance
  let c ← orFail (← peek)
  if isBoundaryChar c then
    let name ← boundaryName ((← get).rest.length + 1) []
    expect '}'
    drop 1
    orFail (boundary? (.ofList name))
  else
    set start
    return .wordEdge

def isMeta (c : Char) : Bool := "\\.+*?()|[]\x7b\x7d^$#&-~".toList.contains c

def escape : Reader Atom := do
  let c ← orFail (← peek)
  match c with
  | 'x' | 'u' | 'U' => .literal <$> hexLiteral c
  | 'p' | 'P' => .set <$> property
  | 'd' | 's' | 'w' | 'D' | 'S' | 'W' =>
    drop 1
    .set <$> classLetter c
  | _ =>
    drop 1
    if isMeta c then return .literal c
    match c with
    | 'a' => return .literal '\x07'
    | 'f' => return .literal '\x0C'
    | 't' => return .literal '\t'
    | 'n' => return .literal '\n'
    | 'r' => return .literal '\r'
    | 'v' => return .literal '\x0B'
    | 'A' => return .look .textStart
    | 'z' => return .look .textEnd
    | 'b' => .look <$> wordBoundary
    | 'B' => return .look .noWordEdge
    | '<' => return .look .wordStart
    | '>' => return .look .wordEnd
    | _ => if c.toNat < 0x80 && !c.isAlphanum then return .literal c else failure

inductive SetOp where
  | inter
  | diff
  | symDiff

def SetOp.apply (top : Nat) : SetOp → CharSet → CharSet → CharSet
  | .inter => CharSet.inter top
  | .diff => CharSet.diff top
  | .symDiff => CharSet.symDiff top

structure Bracket where
  negated : Bool
  left : Option (SetOp × CharSet)
  items : CharSet

def Bracket.add (b : Bracket) (s : CharSet) : Bracket := { b with items := b.items ++ s }

def Bracket.value (b : Bracket) : Reader CharSet := do
  let right ← fold (.ofRanges b.items)
  match b.left with
  | none => return right
  | some (op, left) => return op.apply (← top) (← fold left) right

def openBracket : Reader Bracket := do
  advance
  let negated := (← peek) = some '^'
  if negated then advance
  let b ← dashes ((← get).rest.length) ⟨negated, none, []⟩
  if b.items.isEmpty && (← peek) = some ']' then
    advance
    return b.add (.single ']')
  else return b
where
  dashes : Nat → Bracket → Reader Bracket
    | 0, b => pure b
    | n + 1, b => do
      if (← peek) = some '-' then
        advance
        dashes n (b.add (.single '-'))
      else return b

def namedClass? : Reader (Option CharSet) := do
  let rest := (← get).rest
  match rest with
  | '[' :: ':' :: r =>
    let negated := r.head? = some '^'
    let r := if negated then r.drop 1 else r
    let name := r.takeWhile (· ≠ ':')
    match r.drop name.length, CharSet.ofAsciiName? (.ofList name) with
    | ':' :: ']' :: after, some s =>
      modify fun st => { st with rest := after }
      return some (← negateIf negated s)
    | _, _ => return none
  | _ => return none

def bracketAtom : Reader Atom := do
  let c ← orFail (← peek)
  if c = '\\' then
    drop 1
    escape
  else
    drop 1
    return .literal c

def literalIn : Atom → Reader Nat
  | .literal c => do
    if (← has .unicode) || c.toNat < 0x80 then return c.toNat else failure
  | _ => failure

def bracketItem : Reader CharSet := do
  let first ← bracketAtom
  skip
  let c ← orFail (← peek)
  let isRange ← if c = '-' then do
      let rest := ((← get).rest).drop 1
      let rest := if ← has .verbose then skipIdle rest.length rest else rest
      pure (rest.head? ≠ some ']' && rest.head? ≠ some '-')
    else pure false
  if isRange then
    advance
    let last ← bracketAtom
    let low ← literalIn first
    let high ← literalIn last
    if low ≤ high then return [(low, high)] else failure
  else
    match first with
    | .set s => return s
    | a => let n ← literalIn a; return [(n, n)]

def operator? (c d : Option Char) : Option SetOp :=
  match c, d with
  | some '&', some '&' => some .inter
  | some '-', some '-' => some .diff
  | some '~', some '~' => some .symDiff
  | _, _ => none

def brackets : Nat → Bracket → List Bracket → Reader CharSet
  | 0, _, _ => failure
  | n + 1, b, outer => do
    skip
    let c ← orFail (← peek)
    if c = '[' then
      match ← namedClass? with
      | some s => brackets n (b.add s) outer
      | none => brackets n (← openBracket) (b :: outer)
    else if c = ']' then
      drop 1
      let s ← whole (← negateIf b.negated (← b.value))
      match outer with
      | [] => return s
      | o :: outer => brackets n (o.add s) outer
    else match operator? c (← peekSecond) with
      | some op =>
        let left ← b.value
        drop 2
        brackets n { b with left := some (op, left), items := [] } outer
      | none => brackets n (b.add (← bracketItem)) outer

def skipBlank : Reader Unit := modify fun s => { s with rest := Text.dropBlank s.rest }

def digits : Nat → List Char → Reader (List Char)
  | 0, acc => pure acc.reverse
  | n + 1, acc => do
    match ← peek with
    | some c =>
      if c.isDigit then
        advance
        digits n (c :: acc)
      else return acc.reverse
    | none => return acc.reverse

def count : Reader Nat := do
  skipBlank
  let ds ← digits (← get).rest.length []
  skipBlank
  skip
  let n ← orFail (String.ofList ds).toNat?
  if n < UInt32.size then return n else failure

def bounds : Reader (Nat × Option Nat) := do
  advance
  let low ← count
  let high ←
    if (← peek) = some ',' then
      advance
      if (← peek) = some '}' then pure none else some <$> count
    else pure (some low)
  expect '}'
  advance
  if high.all (low ≤ ·) then return (low, high) else failure

def isNameStart (c : Char) : Bool :=
  c = '_' || ((Property.binary? "alphabetic").any (·.contains c.toNat))

def isNameChar (c : Char) : Bool :=
  c = '_' || c = '.' || c = '[' || c = ']' || isNameStart c ||
    (CharSet.ofSpans Property.number).contains c.toNat

def groupName : Reader Unit := do
  let rest := (← get).rest
  let name := rest.takeWhile (· ≠ '>')
  match rest.drop name.length, name with
  | '>' :: after, c :: cs =>
    if isNameStart c && cs.all isNameChar && !(← get).names.contains (.ofList name) then
      modify fun s => { s with rest := after, names := .ofList name :: s.names }
    else failure
  | _, _ => failure

def flagList : Nat → List (Flag × Bool) → Bool → Bool → Reader (List (Flag × Bool))
  | 0, _, _, _ => failure
  | n + 1, fs, off, last => do
    let c ← orFail (← peek)
    if c = ':' || c = ')' then
      if last then failure else return fs
    else if c = '-' then
      if off then failure
      drop 1
      flagList n fs true true
    else
      let f ← orFail (Flag.ofChar? c)
      if fs.any (·.1 = f) then failure
      drop 1
      flagList n ((f, !off) :: fs) off false

def setFlags (fs : List (Flag × Bool)) : Reader Unit :=
  modify fun s =>
    let kept := s.flags.filter fun f => !fs.any (·.1 = f)
    { s with flags := kept ++ (fs.filter (·.2)).map (·.1) }

/-- A group that is being read: the flags to go back to behind it, its alternatives so far and the
items of the last one, both last first. An item that only changes flags is none. -/
structure Level where
  outside : Flags
  finished : List Regex
  items : List (Option Regex)

def Level.sequence (l : Level) : Regex := .all (l.items.reverse.filterMap id)

def Level.value (l : Level) : Regex := .any (l.sequence :: l.finished).reverse

def Level.push (l : Level) (r : Regex) : Level := { l with items := some r :: l.items }

def openGroup (l : Level) (outer : List Level) : Reader (Level × List Level) := do
  drop 1
  skip
  let opened : Level := ⟨(← get).flags, [], []⟩
  if (← take? "?=") || (← take? "?!") || (← take? "?<=") || (← take? "?<!") then failure
  if (← take? "?P<") || (← take? "?<") then
    groupName
    return (opened, l :: outer)
  else if ← take? "?" then
    let fs ← flagList ((← get).rest.length + 1) [] false false
    let c ← peek
    drop 1
    setFlags fs
    if c = some ')' then
      if fs.isEmpty then failure
      return ({ l with items := none :: l.items }, outer)
    else return (opened, l :: outer)
  else return (opened, l :: outer)

def maxDepth : Nat := 250

def quantify (l : Level) (low : Nat) (high : Option Nat) : Reader Level :=
  match l.items with
  | some r :: items => pure { l with items := some (r.repeated low high) :: items }
  | _ => failure

/-- A question mark behind a repetition asks for short matches; it does not change whether there
is one. -/
def skipLazy : Reader Unit := do
  if (← peek) = some '?' then drop 1

def dot : Reader Regex := do
  if !(← has .unicode) then failure
  let returns ← has .carriageReturn
  let excluded : CharSet :=
    if ← has .dotAll then []
    else if returns then [(0xA, 0xA), (0xD, 0xD)]
    else [(0xA, 0xA)]
  return .chars (excluded.complement (← top))

def lineLook (plain single any : Look) : Reader Regex := do
  let returns ← has .carriageReturn
  let l := if !(← has .multiLine) then plain else if returns then any else single
  return .look (← words) l

def literal (c : Char) : Reader Regex := return .chars (← fold (.single c))

def atom : Atom → Reader Regex
  | .literal c => literal c
  | .set s => pure (.chars s)
  | .look l => return .look (← words) l

def regex : Nat → Level → List Level → Reader Regex
  | 0, _, _ => failure
  | n + 1, l, outer => do
    skip
    match ← peek with
    | none => if outer.isEmpty then return l.value else failure
    | some '(' =>
      let (l, outer) ← openGroup l outer
      if maxDepth < outer.length then failure
      regex n l outer
    | some ')' =>
      drop 1
      modify fun s => { s with flags := l.outside }
      match outer with
      | [] => failure
      | o :: outer => regex n (o.push l.value) outer
    | some '|' =>
      drop 1
      regex n { l with finished := l.sequence :: l.finished, items := [] } outer
    | some '[' =>
      let b ← openBracket
      let s ← brackets ((← get).rest.length + 1) b []
      regex n (l.push (.chars s)) outer
    | some '?' =>
      drop 1
      skipLazy
      regex n (← quantify l 0 (some 1)) outer
    | some '*' =>
      drop 1
      skipLazy
      regex n (← quantify l 0 none) outer
    | some '+' =>
      drop 1
      skipLazy
      regex n (← quantify l 1 none) outer
    | some '{' =>
      let (low, high) ← bounds
      skipLazy
      regex n (← quantify l low high) outer
    | some '\\' =>
      drop 1
      regex n (l.push (← atom (← escape))) outer
    | some '.' =>
      drop 1
      regex n (l.push (← dot)) outer
    | some '^' =>
      drop 1
      regex n (l.push (← lineLook .textStart .lineStart .anyLineStart)) outer
    | some '$' =>
      drop 1
      regex n (l.push (← lineLook .textEnd .lineEnd .anyLineEnd)) outer
    | some c =>
      drop 1
      regex n (l.push (← literal c)) outer

end Reader

def Regex.ofText? (s : String) : Option Regex :=
  let start : Reading := ⟨s.toList, [.unicode], []⟩
  ((Reader.regex (s.length + 1) ⟨[.unicode], [], []⟩ []).run start).map (·.1)

end Provision.Pattern
