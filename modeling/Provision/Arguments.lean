import Provision.Config

/-!
Reading a command line. Options may stand anywhere before `--`; those that are not given are looked
up in the environment. The first fault from the left is the one that counts, and the environment
comes last.
-/

namespace Provision

inductive Topic where
  | program
  | install
  | status
  | help
  deriving DecidableEq, Repr

def Topic.usage : Topic → String
  | .program => "Usage: install-llvm <COMMAND>"
  | .install => "Usage: install-llvm install [OPTIONS] <BUILD_DIR>"
  | .status => "Usage: install-llvm status [OPTIONS] <BUILD_DIR>"
  | .help => "Usage: install-llvm help [COMMAND]..."

inductive Setting where
  | operation
  | retries
  | retryPattern
  | feature
  | externalDir
  | cacheDir
  | defaultRoot
  | downloadGate
  deriving DecidableEq, Repr

namespace Setting

def all : List Setting :=
  [.operation, .retries, .retryPattern, .feature, .externalDir, .cacheDir, .defaultRoot,
   .downloadGate]

def long : Setting → String
  | .operation => "operation"
  | .retries => "retries"
  | .retryPattern => "retry-pattern"
  | .feature => "feature"
  | .externalDir => "external-dir"
  | .cacheDir => "cache-dir"
  | .defaultRoot => "default-root"
  | .downloadGate => "download-llvm"

def valueName : Setting → String
  | .operation => "OPERATION"
  | .retries => "N"
  | .retryPattern => "REGEX"
  | .feature => "FEATURE"
  | .externalDir | .cacheDir | .defaultRoot => "DIR"
  | .downloadGate => "BOOL"

def envName? : Setting → Option String
  | .feature => some "RSQL_LLVM_FEATURE_VERSION"
  | .externalDir => some "RSQL_LLVM_EXTERNAL_DIR"
  | .cacheDir => some "RSQL_CACHE_DIR"
  | .downloadGate => some "RSQL_DOWNLOAD_LLVM"
  | _ => none

def isForInstall : Setting → Bool
  | .operation | .retries | .retryPattern => true
  | _ => false

def label (s : Setting) : String := "--" ++ s.long ++ " <" ++ s.valueName ++ ">"

end Setting

inductive UsageError where
  | help (t : Topic)
  | version
  | noCommand
  | unknownCommand (s : String)
  | unexpected (s : String)
  | unexpectedValue (value option : String)
  | valueMissing (label : String)
  | invalidChoice (value label : String)
  | invalidValue (value label reason : String)
  | repeated (label : String)
  | argumentMissing
  deriving DecidableEq, Repr

namespace UsageError

def programName : String := "install-llvm"

def versionText : String := "0.0.1 (unknown)"

def message : UsageError → String
  | .help t => t.usage
  | .version => programName ++ " " ++ versionText
  | .noCommand => Topic.program.usage
  | .unknownCommand s => "error: unrecognized subcommand '" ++ s ++ "'"
  | .unexpected s => "error: unexpected argument '" ++ s ++ "' found"
  | .unexpectedValue value option =>
    "error: unexpected value '" ++ value ++ "' for '" ++ option ++
      "' found; no more were expected"
  | .valueMissing label =>
    "error: a value is required for '" ++ label ++ "' but none was supplied"
  | .invalidChoice value label => "error: invalid value '" ++ value ++ "' for '" ++ label ++ "'"
  | .invalidValue value label reason =>
    "error: invalid value '" ++ value ++ "' for '" ++ label ++ "': " ++ reason
  | .repeated label => "error: the argument '" ++ label ++ "' cannot be used multiple times"
  | .argumentMissing => "error: the following required arguments were not provided:"

def firstLine (e : UsageError) : String := ((Text.split '\n' e.message).head?).getD ""

def exitCode : UsageError → Nat
  | .help _ | .version => 0
  | _ => 2

end UsageError

inductive NumberError where
  | empty
  | invalidDigit
  | tooLarge
  | tooSmall
  | outOfRange (n : Int)
  deriving DecidableEq, Repr

def NumberError.message : NumberError → String
  | .empty => "cannot parse integer from empty string"
  | .invalidDigit => "invalid digit found in string"
  | .tooLarge => "number too large to fit in target type"
  | .tooSmall => "number too small to fit in target type"
  | .outOfRange n => toString n ++ " is not in 0..=4294967295"

namespace RetryCount

/-- Reads digits from the left, as long as the number so far fits into 64 bits with a sign. -/
def digits (negative : Bool) : Nat → List Char → Except NumberError Int
  | n, [] => .ok (if negative then -(n : Int) else n)
  | n, c :: r =>
    if !c.isDigit then .error .invalidDigit
    else
      let m := 10 * n + (c.toNat - 48)
      if negative then
        (if -(m : Int) < Int64.minValue.toInt then .error .tooSmall else digits negative m r)
      else if Int64.maxValue.toInt < m then .error .tooLarge
      else digits negative m r

def ofText (s : String) : Except NumberError UInt32 := do
  let n ← match s.toList with
    | [] => .error .empty
    | ['-'] | ['+'] => .error .invalidDigit
    | '-' :: r => digits true 0 r
    | '+' :: r => digits false 0 r
    | r => digits false 0 r
  if 0 ≤ n ∧ n < UInt32.size then .ok (.ofNat n.toNat) else .error (.outOfRange n)

def standard : UInt32 := 2

end RetryCount

structure Given where
  buildDir : Option String
  operation : Option Operation
  retries : Option UInt32
  retryPattern : Option Pattern
  settings : Settings

namespace Given

def empty : Given := ⟨none, none, none, none, ⟨none, none, none, none, none⟩⟩

def has (g : Given) : Setting → Bool
  | .operation => g.operation.isSome
  | .retries => g.retries.isSome
  | .retryPattern => g.retryPattern.isSome
  | .feature => g.settings.feature.isSome
  | .externalDir => g.settings.externalDir.isSome
  | .cacheDir => g.settings.cacheDir.isSome
  | .defaultRoot => g.settings.defaultRoot.isSome
  | .downloadGate => g.settings.downloadGate.isSome

def pathValue (label value : String) : Except UsageError String :=
  if value = "" then .error (.valueMissing label) else .ok value

def refusalText : Pattern.Refusal → String
  | .malformed => "regex parse error:"
  | .tooLarge => "Compiled regex exceeds size limit of 10485760 bytes."

def set (g : Given) (s : Setting) (value : String) : Except UsageError Given :=
  match s with
  | .operation =>
    if value = "" then .error (.valueMissing s.label)
    else match Operation.ofName? value with
      | some o => .ok { g with operation := some o }
      | none => .error (.invalidChoice value s.label)
  | .retries =>
    match RetryCount.ofText value with
    | .ok n => .ok { g with retries := some n }
    | .error e => .error (.invalidValue value s.label e.message)
  | .retryPattern =>
    match Pattern.ofText value with
    | .ok p => .ok { g with retryPattern := some p }
    | .error r => .error (.invalidValue value s.label (refusalText r))
  | .feature => .ok { g with settings := { g.settings with feature := some value } }
  | .externalDir => do
    let p ← pathValue s.label value
    return { g with settings := { g.settings with externalDir := some p } }
  | .cacheDir => do
    let p ← pathValue s.label value
    return { g with settings := { g.settings with cacheDir := some p } }
  | .defaultRoot => do
    let p ← pathValue s.label value
    return { g with settings := { g.settings with defaultRoot := some p } }
  | .downloadGate => .ok { g with settings := { g.settings with downloadGate := some value } }

def setOnce (g : Given) (s : Setting) (value : String) : Except UsageError Given :=
  if g.has s then .error (.repeated s.label) else g.set s value

end Given

/-- An argument that has been met but not yet taken up. -/
inductive Pending where
  | nothing
  | awaiting (s : Setting)
  | option (s : Setting) (value : String)
  | buildDir (value : String)
  deriving DecidableEq, Repr

structure Reading where
  given : Given
  pending : Pending
  placed : Bool

namespace Reading

def buildDirLabel : String := "<BUILD_DIR>"

def resolve (r : Reading) : Except UsageError Reading :=
  match r.pending with
  | .nothing => .ok r
  | .awaiting s => .error (.valueMissing s.label)
  | .option s value => do return { r with given := ← r.given.setOnce s value, pending := .nothing }
  | .buildDir value => do
    let p ← Given.pathValue buildDirLabel value
    return { r with given := { r.given with buildDir := some p }, pending := .nothing }

def place (r : Reading) (value : String) : Except UsageError Reading := do
  if r.placed then .error (.unexpected value)
  else
    let r ← r.resolve
    return { r with pending := .buildDir value, placed := true }

end Reading

namespace Arguments

def long? (a : String) : Option (String × Option String) :=
  match a.toList with
  | '-' :: '-' :: c :: r =>
    match Text.splitOnce? '=' (c :: r) with
    | some (name, value) => some (.ofList name, some (.ofList value))
    | none => some (.ofList (c :: r), none)
  | _ => none

def short? (a : String) : Option Char :=
  match a.toList with
  | '-' :: c :: _ => if c = '-' then none else some c
  | _ => none

def settingOf? (forInstall : Bool) (name : String) : Option Setting :=
  Setting.all.find? fun s => s.long = name && (forInstall || !s.isForInstall)

def readLong (topic : Topic) (r : Reading) (name : String) (value : Option String) :
    Except UsageError Reading :=
  if name = "help" then
    match value with
    | none => do
      let _ ← r.resolve
      .error (.help topic)
    | some v => .error (.unexpectedValue v "--help")
  else match settingOf? (topic = .install) name, value with
    | none, _ => .error (.unexpected ("--" ++ name))
    | some s, some v => do
      let r ← r.resolve
      return { r with given := ← r.given.setOnce s v }
    | some s, none => do
      let r ← r.resolve
      return { r with pending := .awaiting s }

def readAll (topic : Topic) (isOpen : Bool) : Reading → List String → Except UsageError Reading
  | r, [] => r.resolve
  | r, a :: as =>
    if !isOpen then do readAll topic false (← r.place a) as
    else if a = "--" then readAll topic false r as
    else match long? a, short? a with
      | some (name, value), _ => do readAll topic true (← readLong topic r name value) as
      | none, some c => do
        if c = 'h' then
          let _ ← r.resolve
          .error (.help topic)
        else .error (.unexpected (.ofList ['-', c]))
      | none, none =>
        match r.pending with
        | .awaiting s => readAll topic true { r with pending := .option s a } as
        | _ => do readAll topic true (← r.place a) as

def fillIn (env : Table String String) : List Setting → Given → Except UsageError Given
  | [], g => .ok g
  | s :: ss, g =>
    match g.has s, s.envName?.bind env.get? with
    | false, some value => do fillIn env ss (← g.set s value)
    | _, _ => fillIn env ss g

end Arguments

inductive Invocation where
  | install (buildDir : String) (operation : Option Operation) (retryPolicy : RetryPolicy)
      (settings : Settings)
  | status (buildDir : String) (settings : Settings)

namespace Invocation

def readCommand (topic : Topic) (env : Table String String) (args : List String) :
    Except UsageError (String × Given) := do
  let r ← Arguments.readAll topic true ⟨.empty, .nothing, false⟩ args
  let g ← Arguments.fillIn env Setting.all r.given
  match g.buildDir with
  | some b => return (b, g)
  | none => .error .argumentMissing

def ofCommand? (name : String) : Option Topic :=
  match name with
  | "install" => some .install
  | "status" => some .status
  | "help" => some .help
  | _ => none

def helpTopic (names : List String) : UsageError :=
  match names with
  | [] => .help .program
  | n :: rest =>
    match ofCommand? n, rest with
    | none, _ => .unknownCommand n
    | some t, [] => .help t
    | some _, m :: _ => .unknownCommand m

def ofArguments (env : Table String String) (args : List String) :
    Except UsageError Invocation :=
  match args with
  | [] | ["--"] => .error .noCommand
  | "--" :: a :: _ =>
    .error (if (ofCommand? a).isSome then .unexpected a else .unknownCommand a)
  | a :: rest =>
    match Arguments.long? a, Arguments.short? a with
    | some ("help", none), _ => .error (.help .program)
    | some ("version", none), _ => .error .version
    | some (name, some v), _ =>
      .error (if name = "help" || name = "version" then .unexpectedValue v ("--" ++ name)
        else .unexpected ("--" ++ name))
    | some (name, none), _ => .error (.unexpected ("--" ++ name))
    | none, some c =>
      .error (if c = 'h' then .help .program else if c = 'V' then .version
        else .unexpected (.ofList ['-', c]))
    | none, none =>
      match ofCommand? a with
      | none => .error (.unknownCommand a)
      | some .install => do
        let (b, g) ← readCommand .install env rest
        return .install b g.operation ⟨g.retries.getD RetryCount.standard, g.retryPattern⟩ g.settings
      | some .status => do
        let (b, g) ← readCommand .status env rest
        return .status b g.settings
      | some _ => .error (helpTopic rest)

end Invocation
end Provision
