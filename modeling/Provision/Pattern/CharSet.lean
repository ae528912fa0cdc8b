import Provision.Text.Blank
import Provision.Text.CaseFold
import Provision.Text.Script

namespace Provision.Pattern

abbrev CharSet := List (Nat × Nat)

namespace CharSet

def merge : CharSet → CharSet
  | [] => []
  | [r] => [r]
  | (a, b) :: (c, d) :: r =>
    if c ≤ b + 1 then merge ((a, max b d) :: r) else (a, b) :: merge ((c, d) :: r)
termination_by s => s.length

def ofRanges (rs : List (Nat × Nat)) : CharSet :=
  merge (rs.mergeSort fun p q => p.1 ≤ q.1)

def ofSpans (ss : List Text.Span) : CharSet :=
  ofRanges <| ss.flatMap fun (low, high, step) =>
    if step = 1 then [(low, high)]
    else (List.range ((high - low) / step + 1)).map fun i => (low + i * step, low + i * step)

def single (c : Char) : CharSet := [(c.toNat, c.toNat)]

def contains (s : CharSet) (n : Nat) : Bool := Text.inRanges s n

def union (s t : CharSet) : CharSet := ofRanges (s ++ t)

def gaps (top : Nat) : Nat → CharSet → CharSet
  | low, [] => if low ≤ top then [(low, top)] else []
  | low, (a, b) :: r => (if low < a then [(low, a - 1)] else []) ++ gaps top (max low (b + 1)) r

def complement (top : Nat) (s : CharSet) : CharSet := gaps top 0 s

def inter (top : Nat) (s t : CharSet) : CharSet :=
  complement top (union (complement top s) (complement top t))

def diff (top : Nat) (s t : CharSet) : CharSet := inter top s (complement top t)

def symDiff (top : Nat) (s t : CharSet) : CharSet := union (diff top s t) (diff top t s)

def foldCase (s : CharSet) : CharSet :=
  let pairs := Text.CaseFold.pairs.flatMap fun ((low, high, step), far) =>
    (List.range ((high - low) / step + 1)).flatMap fun i =>
      let n := low + i * step
      (if s.contains n then [(n + far, n + far)] else []) ++
      (if s.contains (n + far) then [(n, n)] else [])
  let groups := Text.CaseFold.groups.flatMap fun g =>
    if g.any s.contains then g.map fun n => (n, n) else []
  union s (pairs ++ groups)

def foldAscii (s : CharSet) : CharSet :=
  union s <| (List.range 26).flatMap fun i =>
    (if s.contains (0x41 + i) then [(0x61 + i, 0x61 + i)] else []) ++
    (if s.contains (0x61 + i) then [(0x41 + i, 0x41 + i)] else [])

def isAscii (s : CharSet) : Bool := s.all fun r => r.2 < 0x80

def digit : CharSet := ofSpans Text.Category.decimalNumber

def space : CharSet := ofRanges Text.blankRanges

def word : CharSet :=
  open Text.Category in
  union [(0x200C, 0x200D)] <| ofSpans <|
    uppercaseLetter ++ lowercaseLetter ++ titlecaseLetter ++ modifierLetter ++ otherLetter ++
    letterNumber ++ otherAlphabetic ++ nonspacingMark ++ enclosingMark ++ spacingMark ++
    decimalNumber ++ connectorPunctuation

def asciiDigit : CharSet := [(0x30, 0x39)]

def asciiSpace : CharSet := [(0x9, 0xD), (0x20, 0x20)]

def asciiWord : CharSet := [(0x30, 0x39), (0x41, 0x5A), (0x5F, 0x5F), (0x61, 0x7A)]

def ofAsciiName? : String → Option CharSet
  | "alnum" => some [(0x30, 0x39), (0x41, 0x5A), (0x61, 0x7A)]
  | "alpha" => some [(0x41, 0x5A), (0x61, 0x7A)]
  | "ascii" => some [(0x0, 0x7F)]
  | "blank" => some [(0x9, 0x9), (0x20, 0x20)]
  | "cntrl" => some [(0x0, 0x1F), (0x7F, 0x7F)]
  | "digit" => some asciiDigit
  | "graph" => some [(0x21, 0x7E)]
  | "lower" => some [(0x61, 0x7A)]
  | "print" => some [(0x20, 0x7E)]
  | "punct" => some [(0x21, 0x2F), (0x3A, 0x40), (0x5B, 0x60), (0x7B, 0x7E)]
  | "space" => some asciiSpace
  | "upper" => some [(0x41, 0x5A)]
  | "word" => some asciiWord
  | "xdigit" => some [(0x30, 0x39), (0x41, 0x46), (0x61, 0x66)]
  | _ => none

end CharSet
end Provision.Pattern
