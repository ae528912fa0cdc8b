import Provision.Toml.Quoted
import Provision.Toml.Reader
import Provision.World

namespace Provision

structure Binding where
  key : String
  value : String
  deriving DecidableEq, Repr

namespace Binding

variable {σ : Type}

def keyStart : String := "LLVM_SYS_"

def keyEnd : String := "_PREFIX"

def ofMajor (major : UInt32) (dir : String) : Binding :=
  ⟨keyStart ++ toString major.toNat ++ "0" ++ keyEnd, dir⟩

def configPath (buildDir : String) : String :=
  PathText.join (PathText.join buildDir ".cargo") "config.toml"

def configText (b : Binding) : String :=
  "[env]\n" ++ b.key ++ " = " ++ Toml.Quoted.text b.value ++ "\n"

def writeFile (p text : String) : Action σ Unit := do
  let id ← Action.step (.write p) (Action.changeWith (·.openForWriting · p))
  Action.changeDisk (·.setContent id (.data (Text.bytes text)))

def write (buildDir : String) (b : Binding) : Action σ String := do
  let p := configPath buildDir
  Action.createParents p
  writeFile p b.configText
  return p

def isKey (k : String) : Bool :=
  keyStart.toList.isPrefixOf k.toList && keyEnd.toList.isSuffixOf k.toList

/-- The least binding among some members whose value is a string. -/
def find? (ms : Toml.Members) : Option Binding :=
  let found := ms.filterMap fun (k, v) =>
    if isKey k then v.asText?.map fun s => (⟨k, s⟩ : Binding) else none
  (found.mergeSort fun a b => a.key ≤ b.key).head?

def isSmall (i : Int) : Bool := Int64.minValue.toInt ≤ i && i ≤ Int64.maxValue.toInt

def isMedium (i : Int) : Bool := -(Nat.pow 2 127 : Int) ≤ i && i < Nat.pow 2 128

/-- The table `env` of a document, empty where there is none. Its numbers are of 64 bits, those
elsewhere of 128. -/
def environment? (ms : Toml.Members) : Option Toml.Members :=
  if !Toml.Value.allIntegersIn isMedium (ms.filter (·.1 ≠ "env")) then none
  else match Table.get? ms "env" with
    | none => some []
    | some v => if v.allIntegers isSmall then v.asTable? else none

def ofText? (s : String) : Option (Option Binding) := do
  return find? (← environment? (← Toml.Members.ofText? s))

def read (buildDir : String) : Action σ (Option Binding) := do
  let p := configPath buildDir
  if (← get).isFile p then
    match (← Action.step (.read p) (Action.ask (·.read · p))).text? with
    | none => throw (.step (.read p) .damaged)
    | some s =>
      match ofText? s with
      | none => throw (.step (.parse p) .damaged)
      | some b => return b
  else return none

end Binding
end Provision
