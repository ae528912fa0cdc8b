import Provision.Pattern.CharSet

/-!
Regular expressions and where they match. `ends` carries a set of places in a text to all places
at which a match that starts in the set can stop, so no choice is ever taken back.
-/

namespace Provision.Pattern

inductive Look where
  | textStart
  | textEnd
  | lineStart
  | lineEnd
  | anyLineStart
  | anyLineEnd
  | wordEdge
  | noWordEdge
  | wordStart
  | wordEnd
  | afterNoWord
  | beforeNoWord
  deriving DecidableEq, Repr

inductive Regex where
  | empty
  | chars (s : CharSet)
  | look (words : CharSet) (l : Look)
  | seq (a b : Regex)
  | alt (a b : Regex)
  | star (a : Regex)
  | times (n : Nat) (a : Regex)
  | upTo (n : Nat) (a : Regex)
  deriving Repr

abbrev Places := List Nat

namespace Places

def union : Places → Places → Places
  | [], q => q
  | p, [] => p
  | a :: p, b :: q =>
    if a < b then a :: union p (b :: q)
    else if b < a then b :: union (a :: p) q
    else a :: union p q
termination_by p q => p.length + q.length

def marks (size : Nat) (p : Places) : Array Bool :=
  p.foldl (fun m i => m.setIfInBounds i true) (Array.replicate (size + 1) false)

def ofMarks (m : Array Bool) : Places := (List.range m.size).filter fun i => m.getD i false

/-- All places that at most `n` steps lead to. Only places that are new are stepped from. -/
def grow (step : Places → Places) : Nat → Array Bool → Places → Array Bool
  | 0, seen, _ => seen
  | _ + 1, seen, [] => seen
  | n + 1, seen, fresh =>
    let next := (step fresh).filter fun i => !seen.getD i true
    grow step n (next.foldl (fun m i => m.setIfInBounds i true) seen) next

def reach (size : Nat) (step : Places → Places) (n : Nat) (p : Places) : Places :=
  if p.isEmpty then [] else ofMarks (grow step n (marks size p) p)

end Places

namespace Look

def holdsBetween (words : CharSet) (before after : Option Char) : Look → Bool
  | .textStart => before.isNone
  | .textEnd => after.isNone
  | .lineStart => before.all (· = '\n')
  | .lineEnd => after.all (· = '\n')
  | .anyLineStart => before.all fun c => c = '\n' || (c = '\r' && after ≠ some '\n')
  | .anyLineEnd => after.all fun c => c = '\r' || (c = '\n' && before ≠ some '\r')
  | .wordEdge => isWord before != isWord after
  | .noWordEdge => isWord before == isWord after
  | .wordStart => !isWord before && isWord after
  | .wordEnd => isWord before && !isWord after
  | .afterNoWord => !isWord before
  | .beforeNoWord => !isWord after
where
  isWord (c : Option Char) : Bool := c.any fun c => words.contains c.toNat

def holds (words : CharSet) (text : Array Char) (i : Nat) (l : Look) : Bool :=
  l.holdsBetween words (if i = 0 then none else text[i - 1]?) text[i]?

end Look

namespace Regex

def ends (text : Array Char) : Regex → Places → Places
  | .empty, p => p
  | .chars s, p => p.filterMap fun i =>
    match text[i]? with
    | some c => if s.contains c.toNat then some (i + 1) else none
    | none => none
  | .look words l, p => p.filter fun i => l.holds words text i
  | .seq a b, p => ends text b (ends text a p)
  | .alt a b, p => Places.union (ends text a p) (ends text b p)
  | .star a, p => Places.reach text.size (ends text a) (text.size + 1) p
  | .times n a, p => Nat.repeat (ends text a) n p
  | .upTo n a, p => Places.reach text.size (ends text a) n p

def all : List Regex → Regex
  | [] => .empty
  | [r] => r
  | r :: rs => .seq r (all rs)

def any : List Regex → Regex
  | [] => .empty
  | [r] => r
  | r :: rs => .alt r (any rs)

def isThin : Regex → Bool
  | .empty | .look _ _ => true
  | .chars _ => false
  | .seq a b | .alt a b => isThin a && isThin b
  | .star a | .times _ a | .upTo _ a => isThin a

/-- At least `low` times, and at most `high` times if there is a bound. An expression that takes no
character need not be repeated. -/
def repeated (low : Nat) (high : Option Nat) (r : Regex) : Regex :=
  let cap (n : Nat) : Nat := if isThin r then min n 1 else n
  match high with
  | none => .seq (.times (cap low) r) (.star r)
  | some h => .seq (.times (cap low) r) (.upTo (cap h - cap low) r)

def weight : Regex → Nat
  | .empty => 0
  | .chars s => if s.isAscii then 1 else 2 * s.length
  | .look _ _ => 1
  | .seq a b => weight a + weight b
  | .alt a b => weight a + weight b + 1
  | .star a => weight a + 1
  | .times n a => n * weight a
  | .upTo n a => n * (weight a + 1)

def maxWeight : Nat := 327680

end Regex
end Provision.Pattern
