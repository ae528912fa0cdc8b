namespace Provision.Shell

structure Mark where
  char : Char
  quoted : Bool
  deriving DecidableEq, Repr

namespace Mark

def ofString (quoted : Bool) (s : String) : List Mark := s.toList.map (⟨·, quoted⟩)

def text (ms : List Mark) : String := .ofList (ms.map (·.char))

end Mark

namespace Wildcard

inductive Item where
  | one (c : Char)
  | any
  | many
  | among (negated : Bool) (ranges : List (Char × Char))
  deriving DecidableEq, Repr

def named : String → List (Char × Char)
  | "digit" => [('0', '9')]
  | "lower" => [('a', 'z')]
  | "upper" => [('A', 'Z')]
  | "alpha" => [('a', 'z'), ('A', 'Z')]
  | "alnum" => [('a', 'z'), ('A', 'Z'), ('0', '9')]
  | "space" => [(' ', ' '), ('\t', '\r')]
  | _ => []

def ranges : Nat → Bool → List Mark → Option (List (Char × Char) × List Mark)
  | 0, _, _ => none
  | _, _, [] => none
  | n + 1, first, m :: r =>
    if m.char = ']' && !m.quoted && !first then some ([], r)
    else match m.char, r with
      | '[', ⟨':', _⟩ :: r' => do
        let name := (r'.map (·.char)).takeWhile (· ≠ ':')
        let (rs, rest) ← ranges n false (r'.drop (name.length + 2))
        return (named (.ofList name) ++ rs, rest)
      | a, ⟨'-', false⟩ :: b :: r' =>
        if b.char = ']' && !b.quoted then do
          let (rs, rest) ← ranges n false r
          return ((a, a) :: rs, rest)
        else do
          let (rs, rest) ← ranges n false r'
          return ((a, b.char) :: rs, rest)
      | a, _ => do
        let (rs, rest) ← ranges n false r
        return ((a, a) :: rs, rest)

def items : Nat → List Mark → List Item
  | 0, _ => []
  | _, [] => []
  | n + 1, m :: r =>
    if m.quoted then .one m.char :: items n r
    else match m.char with
      | '*' => .many :: items n r
      | '?' => .any :: items n r
      | '[' =>
        let (negated, inside) := match r with
          | ⟨'!', false⟩ :: r => (true, r)
          | r => (false, r)
        match ranges (inside.length + 1) true inside with
        | some (rs, rest) => .among negated rs :: items n rest
        | none => .one '[' :: items n r
      | c => .one c :: items n r

def ofMarks (ms : List Mark) : List Item := items (ms.length + 1) ms

def isPlain (is : List Item) : Bool := is.all fun i => i matches .one _

def Item.accepts : Item → Char → Bool
  | .one c, d => c = d
  | .any, _ => true
  | .many, _ => true
  | .among negated rs, d => rs.any (fun (a, b) => a ≤ d && d ≤ b) != negated

def isMatch : List Item → List Char → Bool
  | [], s => s.isEmpty
  | .many :: is, s => (List.range (s.length + 1)).any fun k => isMatch is (s.drop k)
  | i :: is, s =>
    match s with
    | [] => false
    | c :: r => i.accepts c && isMatch is r

def cut (fromEnd longest : Bool) (is : List Item) (s : List Char) : List Char :=
  let counts := List.range (s.length + 1)
  let found (k : Nat) : Bool := isMatch is (if fromEnd then s.drop (s.length - k) else s.take k)
  match (if longest then counts.reverse else counts).find? found with
  | some k => if fromEnd then s.take (s.length - k) else s.drop k
  | none => s

end Wildcard
end Provision.Shell
