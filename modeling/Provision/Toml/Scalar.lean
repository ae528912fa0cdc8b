import Provision.Toml.Value
import Provision.Text.Split

namespace Provision.Toml.Scalar

def isPart (c : Char) : Bool := c.isAlphanum || "_+-.:".toList.contains c

def digits? (isDigit : Char → Bool) : List Char → Option (List Char)
  | [] => none
  | [c] => if isDigit c then some [c] else none
  | c :: '_' :: r => if isDigit c then (digits? isDigit r).map (c :: ·) else none
  | c :: r => if isDigit c then (digits? isDigit r).map (c :: ·) else none

def digitValue (c : Char) : Nat :=
  if c.isDigit then c.toNat - 48 else if c.isLower then c.toNat - 87 else c.toNat - 55

def ofDigits (base : Nat) (ds : List Char) : Nat :=
  ds.foldl (fun n c => n * base + digitValue c) 0

def isHexDigit (c : Char) : Bool := c.isDigit || ('a' ≤ c && c ≤ 'f') || ('A' ≤ c && c ≤ 'F')

def isOctalDigit (c : Char) : Bool := '0' ≤ c && c ≤ '7'

def isBinaryDigit (c : Char) : Bool := c = '0' || c = '1'

def decimal? (s : List Char) : Option (List Char) :=
  match digits? Char.isDigit s with
  | some ds => if 1 < ds.length && ds.head? = some '0' then none else some ds
  | none => none

def signed (s : List Char) : Bool × List Char :=
  match s with
  | '-' :: r => (true, r)
  | '+' :: r => (false, r)
  | r => (false, r)

def integer? (s : List Char) : Option Int :=
  match s with
  | '0' :: 'x' :: r => (digits? isHexDigit r).map fun ds => ofDigits 16 ds
  | '0' :: 'o' :: r => (digits? isOctalDigit r).map fun ds => ofDigits 8 ds
  | '0' :: 'b' :: r => (digits? isBinaryDigit r).map fun ds => ofDigits 2 ds
  | s =>
    let (negative, r) := signed s
    (decimal? r).map fun ds => if negative then -(ofDigits 10 ds : Int) else ofDigits 10 ds

/-- The least number that a binary floating-point number of 53 digits rounds to infinity. -/
def floatBound : Nat := 1 <<< 1024 - 1 <<< 970

def isFinite (m : Nat) (e : Int) : Bool :=
  if m = 0 then true
  else if 310 < e then false
  else if 0 ≤ e then m * Nat.pow 10 e.toNat < floatBound
  else if (m.log2 : Int) < 1000 - e then true
  else m < floatBound * Nat.pow 10 (-e).toNat

def isFloat (s : List Char) : Bool :=
  let r := (signed s).2
  if r = "inf".toList || r = "nan".toList then true
  else
    let mantissa := r.takeWhile fun c => c ≠ 'e' && c ≠ 'E'
    let exponent := r.drop mantissa.length
    let (whole, fraction) := match Text.splitOnce? '.' mantissa with
      | some (w, f) => (w, some f)
      | none => (mantissa, none)
    if fraction.isNone && exponent.isEmpty then false
    else
      let power? : Option Int := match exponent with
        | [] => some 0
        | _ :: e =>
          let (negative, e) := signed e
          (digits? Char.isDigit e).map fun ds =>
            if negative then -(ofDigits 10 ds : Int) else ofDigits 10 ds
      let fraction? := match fraction with
        | none => some []
        | some f => digits? Char.isDigit f
      match decimal? whole, fraction?, power? with
      | some w, some f, some e => isFinite (ofDigits 10 (w ++ f)) (e - f.length)
      | _, _, _ => false

def isLeapYear (y : Nat) : Bool := y % 4 = 0 && (y % 100 ≠ 0 || y % 400 = 0)

def daysIn (y m : Nat) : Nat :=
  if m = 2 then (if isLeapYear y then 29 else 28)
  else if m = 4 || m = 6 || m = 9 || m = 11 then 30
  else 31

def fixed? (n : Nat) (s : List Char) : Option Nat :=
  if s.length = n && s.all Char.isDigit then some (ofDigits 10 s) else none

def isDate (s : List Char) : Bool :=
  match fixed? 4 (s.take 4), s.drop 4 with
  | some y, '-' :: r =>
    match fixed? 2 (r.take 2), r.drop 2 with
    | some m, '-' :: d =>
      match fixed? 2 d with
      | some d => 1 ≤ m && m ≤ 12 && 1 ≤ d && d ≤ daysIn y m
      | none => false
    | _, _ => false
  | _, _ => false

def isTime (s : List Char) : Bool :=
  match fixed? 2 (s.take 2), s.drop 2 with
  | some h, ':' :: r =>
    let seconds := match r.drop 2 with
      | [] => true
      | ':' :: s =>
        (fixed? 2 (s.take 2)).any (· ≤ 60) &&
          match s.drop 2 with
          | [] => true
          | '.' :: f => !f.isEmpty && f.all Char.isDigit
          | _ => false
      | _ => false
    h ≤ 23 && (fixed? 2 (r.take 2)).any (· ≤ 59) && seconds
  | _, _ => false

def isOffset (s : List Char) : Bool :=
  match s with
  | ['Z'] | ['z'] => true
  | sign :: r =>
    (sign = '+' || sign = '-') && r.length = 5 && (fixed? 2 (r.take 2)).any (· ≤ 23) &&
      (r.drop 2).head? = some ':' && (fixed? 2 (r.drop 3)).any (· ≤ 59)
  | [] => false

def isTimeWithOffset (s : List Char) : Bool :=
  let time := s.takeWhile fun c => c.isDigit || c = ':' || c = '.'
  let offset := s.drop time.length
  isTime time && (offset.isEmpty || isOffset offset)

def isDateTime (s : List Char) : Bool :=
  isTime s || (isDate (s.take 10) &&
    match s.drop 10 with
    | [] => true
    | c :: r => (c = 'T' || c = 't' || c = ' ') && isTimeWithOffset r)

def value? (s : List Char) : Option Value :=
  if s = "true".toList then some (.boolean true)
  else if s = "false".toList then some (.boolean false)
  else match integer? s with
    | some i => some (.integer i)
    | none =>
      if isFloat s then some .float
      else if isDateTime s then some .dateTime
      else none

def isSplitDate (s rest : List Char) : Bool :=
  isDate s && match rest with
    | ' ' :: a :: b :: ':' :: _ => a.isDigit && b.isDigit
    | _ => false

end Provision.Toml.Scalar
