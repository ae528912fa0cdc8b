namespace Provision.Shell

/-- What is made of a variable's value. The texts are words that are read when they are needed;
`orEmpty` says whether an empty value counts as none. -/
inductive Treatment where
  | plain
  | length
  | fallback (orEmpty : Bool) (word : String)
  | supply (orEmpty : Bool) (word : String)
  | demand (orEmpty : Bool) (word : String)
  | instead (orEmpty : Bool) (word : String)
  | cut (fromEnd longest : Bool) (pattern : String)
  deriving DecidableEq, Repr

inductive Part where
  | text (s : String) (quoted : Bool)
  | variable (name : String) (treatment : Treatment) (quoted : Bool)
  | output (source : String) (quoted : Bool)
  | arithmetic (source : String) (quoted : Bool)
  deriving DecidableEq, Repr

abbrev Word := List Part

inductive Redirection where
  | input (w : Word)
  | here (w : Word)
  | write (fd : Nat) (append : Bool) (w : Word)
  | copy (fd source : Nat)
  | close (fd : Nat)
  deriving DecidableEq, Repr

def Redirection.isInput : Redirection → Bool
  | .input _ | .here _ => true
  | .write .. | .copy .. | .close _ => false

inductive Code where
  | nothing
  | simple (line : Nat) (assignments : List (String × Word)) (words : List Word)
      (redirections : List Redirection)
  | block (isolated : Bool) (body : Code) (redirections : List Redirection)
  | seq (a b : Code)
  | both (a b : Code)
  | either (a b : Code)
  | pipe (a b : Code)
  | negation (a : Code)
  | branch (test yes no : Code)
  | loop (wanted : Bool) (test body : Code)
  | each (name : String) (words : List Word) (body : Code)
  | choice (word : Word) (arms : List (List Word × Code))
  | define (name : String) (body : Code)
  | malformed (line : Nat) (reason : String)
  deriving Repr

end Provision.Shell
