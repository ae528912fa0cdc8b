import Provision.Shell.Arithmetic

namespace Provision.Shell

abbrev Tool := List String → Job Nat

namespace Print

def isOctal (c : Char) : Bool := '0' ≤ c && c ≤ '7'

def octal (ds : List Char) : UInt8 :=
  .ofNat (ds.foldl (fun n c => 8 * n + (c.toNat - 48)) 0)

def letter? : Char → Option UInt8
  | 'a' => some 7
  | 'b' => some 8
  | 't' => some 9
  | 'n' => some 10
  | 'v' => some 11
  | 'f' => some 12
  | 'r' => some 13
  | '\\' => some 92
  | _ => none

def charBytes (c : Char) : Bytes := Text.bytes (.singleton c)

/-- A text with its escapes carried out, and whether printing goes on behind it. An octal number
starts with a zero of its own where that is asked for. -/
def unescape (zero : Bool) : Nat → List Char → Bytes × Bool
  | 0, _ => ([], true)
  | _, [] => ([], true)
  | n + 1, '\\' :: c :: r =>
    let (b, r) :=
      if c = '0' && zero then
        let ds := (r.take 3).takeWhile isOctal
        ([octal ds], r.drop ds.length)
      else if isOctal c && !zero then
        let ds := ((c :: r).take 3).takeWhile isOctal
        ([octal ds], (c :: r).drop ds.length)
      else match letter? c with
        | some b => ([b], r)
        | none => if c = '"' && !zero then ([34], r) else (92 :: charBytes c, r)
    if c = 'c' then ([], false)
    else
      let (rest, more) := unescape zero n r
      (b ++ rest, more)
  | n + 1, c :: r =>
    let (rest, more) := unescape zero n r
    (charBytes c ++ rest, more)

def unescaped (zero : Bool) (s : String) : Bytes × Bool := unescape zero (s.length + 1) s.toList

def echoWith (escapes ends : Bool) (args : List String) : Job Nat := do
  let text := " ".intercalate args
  let (b, more) := if escapes then unescaped true text else (Text.bytes text, true)
  Job.printBytes (if more && ends then b ++ [Text.newline] else b)
  return 0

def echo : Tool
  | "-n" :: args => echoWith true false args
  | args => echoWith true true args

def isEchoFlag (a : String) : Bool :=
  match a.toList with
  | '-' :: c :: r => (c :: r).all fun c => c = 'n' || c = 'e' || c = 'E'
  | _ => false

def echoProgram : Tool := fun args => do
  let flags := args.takeWhile isEchoFlag
  let letters := flags.flatMap String.toList
  let escapes := (letters.reverse.find? fun c => c = 'e' || c = 'E') = some 'e'
  echoWith escapes (!letters.contains 'n') (args.drop flags.length)

structure Layout where
  left : Bool
  plus : Bool
  space : Bool
  zeros : Bool
  width : Nat
  precision : Option Nat

def pad (l : Layout) (b : Bytes) : Bytes :=
  let fill := List.replicate (l.width - b.length) (if l.zeros && !l.left then (48 : UInt8) else 32)
  if l.left then b ++ fill else fill ++ b

def layout (s : List Char) : Layout × List Char :=
  let flags := s.takeWhile fun c => c = '-' || c = '0' || c = '+' || c = ' ' || c = '#'
  let s := s.drop flags.length
  let width := s.takeWhile Char.isDigit
  let s := s.drop width.length
  let (precision, s) := match s with
    | '.' :: r =>
      let ds := r.takeWhile Char.isDigit
      (some ((String.ofList ds).toNat?.getD 0), r.drop ds.length)
    | r => (none, r)
  let width := (String.ofList width).toNat?.getD 0
  let has (c : Char) : Bool := flags.contains c
  (⟨has '-', has '+', has ' ', has '0', width, precision⟩, s)

/-- The number at the start of an argument, whether it begins with one, and whether nothing follows.
`0x` starts base sixteen, a zero base eight. -/
def number (s : String) : Int × Bool × Bool :=
  let (sign, cs) : Int × List Char := match s.toList with
    | '-' :: r => (-1, r)
    | '+' :: r => (1, r)
    | r => (1, r)
  let (n, rest) := Arithmetic.numeral cs
  (sign * n, cs.head?.any Char.isDigit, rest.isEmpty)

def complaint? (s : String) : Option String :=
  match number s with
  | (_, true, true) => none
  | (_, true, false) => some "not completely converted"
  | (_, false, _) => if s = "" then none else some "expected numeric value"

def signed (l : Layout) (n : Int) : String :=
  if 0 ≤ n && l.plus then "+" ++ toString n
  else if 0 ≤ n && l.space then " " ++ toString n
  else toString n

def inBase (b : Nat) (n : Int) : String := String.ofList (Nat.toDigits b n.toNat)

def convert (l : Layout) (c : Char) (arg : String) : Option (Bytes × Bool) :=
  match c with
  | 's' =>
    let b := Text.bytes arg
    let b := match l.precision with
      | some p => b.take p
      | none => b
    some (pad { l with zeros := false } b, true)
  | 'b' =>
    let (b, more) := unescaped true arg
    some (pad { l with zeros := false } b, more)
  | 'c' => some (pad { l with zeros := false } ((Text.bytes arg).take 1), true)
  | 'x' => some (pad l (Text.bytes (inBase 16 (number arg).1)), true)
  | 'X' => some (pad l (Text.bytes (inBase 16 (number arg).1).toUpper), true)
  | 'o' => some (pad l (Text.bytes (inBase 8 (number arg).1)), true)
  | 'd' | 'i' | 'u' => some (pad l (Text.bytes (signed l (number arg).1)), true)
  | _ => none

def isNumeric (c : Char) : Bool := "xXodiu".toList.contains c

structure Progress where
  args : List String
  more : Bool
  status : Nat

def formatOnce : Nat → List Char → List String → Nat → Job Progress
  | 0, _, args, status => return ⟨args, true, status⟩
  | _, [], args, status => return ⟨args, true, status⟩
  | n + 1, '%' :: '%' :: r, args, status => do
    Job.printBytes [37]
    formatOnce n r args status
  | n + 1, '%' :: f, args, status => do
    let (l, r) := layout f
    let directive := String.ofList ('%' :: f.take (f.length - r.length + 1))
    match r with
    | [] =>
      Job.explain "printf: %: invalid directive"
      return ⟨[], false, 2⟩
    | c :: r =>
      match convert l c (args.head?.getD "") with
      | none =>
        Job.explain ("printf: " ++ directive ++ ": invalid directive")
        return ⟨[], false, 2⟩
      | some (b, more) =>
        let wrong := if isNumeric c then complaint? (args.head?.getD "") else none
        if let some text := wrong then Job.explain ("printf: " ++ args.headD "" ++ ": " ++ text)
        Job.printBytes b
        let status := if wrong.isSome then 1 else status
        if more then formatOnce n r args.tail status else return ⟨[], false, status⟩
  | n + 1, c :: r, args, status => do
    let plain := (c :: r).takeWhile (· ≠ '%')
    let (b, more) := unescape false (plain.length + 1) plain
    Job.printBytes b
    if more then formatOnce n ((c :: r).drop plain.length) args status
    else return ⟨[], false, status⟩

def format : Nat → List Char → List String → Nat → Job Nat
  | 0, _, _, status => return status
  | n + 1, f, args, status => do
    let p ← formatOnce (f.length + 1) f args status
    if p.more && !p.args.isEmpty && p.args.length < args.length then format n f p.args p.status
    else return p.status

def printf : Tool
  | "--" :: f :: args => format (args.length + 1) f.toList args 0
  | f :: args => format (args.length + 1) f.toList args 0
  | [] => do
    Job.explain "printf: usage: printf format [arg ...]"
    return 2

def count (step : Int) : Nat → Int → List String
  | 0, _ => []
  | n + 1, i => toString i :: count step n (i + step)

def seqOptions : String → Bool → List String → String × Bool × List String
  | separator, even, a :: r =>
    if a = "-w" then seqOptions separator true r
    else if a = "-s" then
      match r with
      | s :: r => seqOptions s even r
      | [] => (separator, even, [])
    else if a.startsWith "-s" then seqOptions (a.drop 2).toString even r
    else (separator, even, a :: r)
  | separator, even, [] => (separator, even, [])

def widen (width : Nat) (s : String) : String :=
  .ofList (List.replicate (width - s.length) '0') ++ s

def seq : Tool := fun args => do
  let (separator, even, numbers) := seqOptions "\n" false args
  let run (first step last : Int) : Job Nat := do
    let n := if step = 0 then 0 else (last - first).tdiv step
    let n := if (0 < step && last < first) || (step < 0 && first < last) then 0 else n.toNat + 1
    let items := count step n first
    let width := items.foldl (fun w s => max w s.length) 0
    let items := if even then items.map (widen width) else items
    if !items.isEmpty then Job.print (separator.intercalate items ++ "\n")
    return 0
  match numbers.map String.toInt? with
  | [some last] => run 1 1 last
  | [some first, some last] => run first 1 last
  | [some first, some step, some last] => run first step last
  | _ => do
    Job.complain "seq: invalid floating point argument\n"
    return 1

end Print
end Provision.Shell
