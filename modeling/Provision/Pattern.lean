import Provision.Pattern.Reader

namespace Provision

structure Pattern where
  text : String
  regex : Pattern.Regex

namespace Pattern

inductive Refusal where
  | malformed
  | tooLarge
  deriving DecidableEq, Repr

def ofText (s : String) : Except Refusal Pattern :=
  match Regex.ofText? s with
  | none => .error .malformed
  | some r => if r.weight ≤ Regex.maxWeight then .ok ⟨s, r⟩ else .error .tooLarge

def isMatch (p : Pattern) (s : String) : Bool :=
  let text := s.toList.toArray
  !(p.regex.ends text (List.range (text.size + 1))).isEmpty

end Pattern
end Provision
