/-!
Sizes for people. A size is first rounded to the nearest binary floating-point number of 53 digits
(ties to even), then written in the largest unit it reaches, with two decimal places (ties to even).
-/

namespace Provision.Size

def roundDiv (a b : Nat) : Nat :=
  let q := a / b
  let r := a % b
  if 2 * r < b then q
  else if b < 2 * r then q + 1
  else q + q % 2

/-- The number of 53 binary digits nearest to `n`. -/
def nearest (n : Nat) : Nat :=
  let unit := 1 <<< (n.log2 + 1 - 53)
  roundDiv n unit * unit

inductive Unit where
  | bytes
  | kilo
  | mega
  | giga
  deriving DecidableEq, Repr

def Unit.size : Unit → Nat
  | .bytes => 1
  | .kilo => 1 <<< 10
  | .mega => 1 <<< 20
  | .giga => 1 <<< 30

def Unit.symbol : Unit → String
  | .bytes => "B"
  | .kilo => "KB"
  | .mega => "MB"
  | .giga => "GB"

def Unit.of (n : Nat) : Unit :=
  let x := nearest n
  if Unit.size .giga ≤ x then .giga
  else if Unit.size .mega ≤ x then .mega
  else if Unit.size .kilo ≤ x then .kilo
  else .bytes

def hundredths (u : Unit) (n : Nat) : Nat := roundDiv (nearest n * 100) u.size

def twoDigits (n : Nat) : String := if n < 10 then "0" ++ toString n else toString n

def text (n : UInt64) : String :=
  match Unit.of n.toNat with
  | .bytes => toString n.toNat ++ " " ++ Unit.symbol .bytes
  | u =>
    let h := hundredths u n.toNat
    toString (h / 100) ++ "." ++ twoDigits (h % 100) ++ " " ++ u.symbol

end Provision.Size
