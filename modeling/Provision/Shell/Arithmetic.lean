import Provision.Shell.Session
import Provision.Shell.Token

namespace Provision.Shell

inductive Arithmetic where
  | number (n : Int)
  | variable (name : String)
  | unary (op : String) (a : Arithmetic)
  | binary (op : String) (a b : Arithmetic)
  | assign (op name : String) (a : Arithmetic)
  | choice (test yes no : Arithmetic)
  deriving DecidableEq, Repr

namespace Arithmetic

inductive Symbol where
  | number (n : Int)
  | name (s : String)
  | op (s : String)
  deriving DecidableEq, Repr

def operators : List String :=
  ["<<=", ">>=", "<<", ">>", "<=", ">=", "==", "!=", "&&", "||", "+=", "-=", "*=", "/=", "%=", "&=",
   "|=", "^=", "+", "-", "*", "/", "%", "<", ">", "=", "&", "|", "^", "~", "!", "?", ":", "(", ")"]

def assignments : List String :=
  ["=", "+=", "-=", "*=", "/=", "%=", "&=", "|=", "^=", "<<=", ">>="]

def level? : String → Option Nat
  | "||" => some 1
  | "&&" => some 2
  | "|" => some 3
  | "^" => some 4
  | "&" => some 5
  | "==" | "!=" => some 6
  | "<" | "<=" | ">" | ">=" => some 7
  | "<<" | ">>" => some 8
  | "+" | "-" => some 9
  | "*" | "/" | "%" => some 10
  | _ => none

def digit (c : Char) : Nat :=
  if c.isDigit then c.toNat - 48
  else if 'a' ≤ c && c ≤ 'f' then c.toNat - 87
  else if 'A' ≤ c && c ≤ 'F' then c.toNat - 55
  else 16

def inBase (b : Nat) (cs : List Char) : Int := (cs.foldl (fun n c => b * n + digit c) 0 : Nat)

def numeral (s : List Char) : Int × List Char :=
  match s with
  | '0' :: x :: r =>
    let hex := r.takeWhile fun c => digit c < 16
    if (x = 'x' || x = 'X') && !hex.isEmpty then (inBase 16 hex, r.drop hex.length)
    else
      let octal := s.takeWhile fun c => digit c < 8
      (inBase 8 octal, s.drop octal.length)
  | _ =>
    let ds := s.takeWhile Char.isDigit
    (inBase 10 ds, s.drop ds.length)

def symbols : Nat → List Char → Option (List Symbol)
  | 0, _ => none
  | _, [] => some []
  | n + 1, c :: r =>
    if c = ' ' || c = '\t' || c = '\n' then symbols n r
    else if c.isDigit then do
      let (v, rest) := numeral (c :: r)
      return .number v :: (← symbols n rest)
    else if Token.isNameStart c then do
      let name := (c :: r).takeWhile Token.isNameChar
      return .name (.ofList name) :: (← symbols n ((c :: r).drop name.length))
    else do
      let (op, rest) ← Token.next? operators (c :: r)
      return .op op :: (← symbols n rest)

abbrev Reading := StateT (List Symbol) (Except String)

def takeOp (s : String) : Reading Bool := do
  if (← get).head? = some (.op s) then
    modify (·.drop 1)
    return true
  else return false

mutual

def expression : Nat → Reading Arithmetic
  | 0 => throw "expecting primary"
  | n + 1 => do
    match ← get with
    | .name x :: .op op :: r =>
      if assignments.contains op then
        set r
        return .assign op x (← expression n)
      else conditional n
    | _ => conditional n

def conditional : Nat → Reading Arithmetic
  | 0 => throw "expecting primary"
  | n + 1 => do
    let test ← operand n
    let c ← chain n 1 test
    if ← takeOp "?" then
      let yes ← expression n
      if ← takeOp ":" then return .choice c yes (← expression n) else throw "expecting ':'"
    else return c

def chain : Nat → Nat → Arithmetic → Reading Arithmetic
  | 0, _, _ => throw "expecting primary"
  | n + 1, least, a => do
    match ← get with
    | .op s :: r =>
      match level? s with
      | some l =>
        if least ≤ l then
          set r
          let b ← operand n
          let b ← chain n (l + 1) b
          chain n least (.binary s a b)
        else return a
      | none => return a
    | _ => return a

def operand : Nat → Reading Arithmetic
  | 0 => throw "expecting primary"
  | n + 1 => do
    match ← get with
    | .number v :: r =>
      set r
      return .number v
    | .name x :: r =>
      set r
      return .variable x
    | .op "(" :: r =>
      set r
      let a ← expression n
      if ← takeOp ")" then return a else throw "expecting ')'"
    | .op s :: r =>
      if ["-", "+", "~", "!"].contains s then
        set r
        return .unary s (← operand n)
      else throw "expecting primary"
    | [] => throw "expecting primary"

end

def ofText (s : String) : Except String Arithmetic :=
  match symbols (s.length + 1) s.toList with
  | none => .error "expecting EOF"
  | some ss =>
    match (expression (20 * ss.length + 20)).run ss with
    | .ok (a, []) => .ok a
    | .ok _ => .error "expecting EOF"
    | .error e => .error e

def wrap (n : Int) : Int := n.bmod UInt64.size

def truth (b : Bool) : Int := if b then 1 else 0

def bits (n : Int) : Nat := (n % UInt64.size).toNat

def combine (op : String) (a b : Int) : Option Int :=
  match op with
  | "+" => some (wrap (a + b))
  | "-" => some (wrap (a - b))
  | "*" => some (wrap (a * b))
  | "/" => if b = 0 then none else some (wrap (a.tdiv b))
  | "%" => if b = 0 then none else some (wrap (a.tmod b))
  | "<<" => some (wrap (a <<< (bits b % 64)))
  | ">>" => some (a >>> (bits b % 64))
  | "&" => some (wrap (bits a &&& bits b))
  | "|" => some (wrap (bits a ||| bits b))
  | "^" => some (wrap (bits a ^^^ bits b))
  | "<" => some (truth (a < b))
  | "<=" => some (truth (a ≤ b))
  | ">" => some (truth (b < a))
  | ">=" => some (truth (b ≤ a))
  | "==" => some (truth (a = b))
  | "!=" => some (truth (a ≠ b))
  | _ => some b

inductive Trouble where
  | divisionByZero
  | notNumber (s : String)
  deriving DecidableEq, Repr

def valueOf (s : String) : Except Trouble Int :=
  let cs := Text.trimChars s.toList
  let (sign, cs) : Int × List Char := match cs with
    | '-' :: r => (-1, r)
    | '+' :: r => (1, r)
    | r => (1, r)
  if s = "" then .ok 0
  else if !(cs.head?.any Char.isDigit) then .error (.notNumber s)
  else match numeral cs with
    | (n, []) => .ok (sign * n)
    | _ => .error (.notNumber s)

def decimal (n : Int) : String := toString n

abbrev Evaluation := StateT (Table String String) (Except Trouble)

def evaluate : Arithmetic → Evaluation Int
  | .number n => return wrap n
  | .variable x => do
    match (← get).get? x with
    | some s => valueOf s
    | none => return 0
  | .unary op a => do
    let v ← evaluate a
    match op with
    | "-" => return wrap (-v)
    | "~" => return -v - 1
    | "!" => return truth (v = 0)
    | _ => return v
  | .binary op a b => do
    let v ← evaluate a
    if op = "&&" then
      if v = 0 then return 0 else return truth ((← evaluate b) ≠ 0)
    else if op = "||" then
      if v ≠ 0 then return 1 else return truth ((← evaluate b) ≠ 0)
    else match combine op v (← evaluate b) with
      | some r => return r
      | none => throw .divisionByZero
  | .assign op x a => do
    let v ← evaluate a
    let old ← match (← get).get? x with
      | some s => if op = "=" then pure 0 else valueOf s
      | none => pure 0
    match combine (op.dropEnd 1).toString old v with
    | some r =>
      modify (·.set x (decimal r))
      return r
    | none => throw .divisionByZero
  | .choice c a b => do if (← evaluate c) ≠ 0 then evaluate a else evaluate b

end Arithmetic
end Provision.Shell
