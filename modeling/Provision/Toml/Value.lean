import Provision.Table

/-!
TOML values, and how statements build up a table. A table remembers what made it, because that
decides which later statements may add to it.
-/

namespace Provision.Toml

inductive Origin where
  | inline
  | header
  | implied
  | dotted
  deriving DecidableEq, Repr

inductive Value where
  | text (s : String)
  | integer (i : Int)
  | float
  | boolean (b : Bool)
  | dateTime
  | array (items : List Value)
  /-- An array of tables, the last one first: only that one is still open. -/
  | tables (items : List Value)
  | table (origin : Origin) (members : List (String × Value))

abbrev Members := Table String Value

namespace Value

def asText? : Value → Option String
  | .text s => some s
  | _ => none

def asTable? : Value → Option Members
  | .table _ ms => some ms
  | _ => none

mutual

def allIntegers (p : Int → Bool) : Value → Bool
  | .integer i => p i
  | .array xs => allIntegersOf p xs
  | .tables xs => allIntegersOf p xs
  | .table _ ms => allIntegersIn p ms
  | _ => true

def allIntegersOf (p : Int → Bool) : List Value → Bool
  | [] => true
  | v :: vs => allIntegers p v && allIntegersOf p vs

def allIntegersIn (p : Int → Bool) : List (String × Value) → Bool
  | [] => true
  | (_, v) :: ms => allIntegers p v && allIntegersIn p ms

end

end Value

namespace Members

/-- Works on the table that some keys lead to, making it on the way where it is missing. Dotted
keys may only pass through tables that no header and no brace has made. -/
def within (isDotted : Bool) (f : Origin → Members → Option Members) :
    List String → Origin → Members → Option Members
  | [], o, ms => f o ms
  | k :: ks, _, ms =>
    match ms.get? k with
    | none =>
      let o : Origin := if isDotted then .dotted else .implied
      (within isDotted f ks o []).map fun inner => ms.set k (.table o inner)
    | some (.table o inner) =>
      if o = .inline then none
      else if isDotted && o = .header then none
      else (within isDotted f ks o inner).map fun inner => ms.set k (.table o inner)
    | some (.tables (.table o inner :: others)) =>
      if isDotted then none
      else (within isDotted f ks o inner).map fun inner =>
        ms.set k (.tables (.table o inner :: others))
    | some _ => none

def insert (path : List String) (v : Value) (o : Origin) (ms : Members) : Option Members :=
  match path.getLast? with
  | none => none
  | some k =>
    within true (fun o ms =>
      if decide (o = .dotted) != decide (1 < path.length) then none
      else if (ms.get? k).isSome then none
      else some (ms.set k v)) path.dropLast o ms

def openTable (path : List String) (ms : Members) : Option Members :=
  match path.getLast? with
  | none => none
  | some k =>
    within false (fun _ ms =>
      match ms.get? k with
      | none => some (ms.set k (.table .header []))
      | some (.table .implied inner) => some (ms.set k (.table .header inner))
      | some _ => none) path.dropLast .header ms

def openElement (path : List String) (ms : Members) : Option Members :=
  match path.getLast? with
  | none => none
  | some k =>
    within false (fun _ ms =>
      match ms.get? k with
      | none => some (ms.set k (.tables [.table .header []]))
      | some (.tables ts) => some (ms.set k (.tables (.table .header [] :: ts)))
      | some _ => none) path.dropLast .header ms

def ofInline (entries : List (List String × Value)) : Option Members :=
  entries.foldlM (fun ms (path, v) => insert path v .inline ms) []

end Members
end Provision.Toml
