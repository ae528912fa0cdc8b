import Provision.Command.Retry

namespace Provision

inductive Operation where
  | download
  | build
  deriving DecidableEq, Repr

def Operation.name : Operation → String
  | .download => "download"
  | .build => "build"

def Operation.ofName? : String → Option Operation
  | "download" => some .download
  | "build" => some .build
  | _ => none

structure Settings where
  feature : Option String
  externalDir : Option String
  cacheDir : Option String
  defaultRoot : Option String
  /-- Downloads are allowed by this text alone: `true`. -/
  downloadGate : Option String
  deriving DecidableEq, Repr

structure Config where
  buildDir : String
  feature : Feature
  externalDir : Option String
  cacheDir : Option String
  defaultRoot : Option String
  downloadEnabled : Bool
  operation : Option Operation
  retryPolicy : RetryPolicy

namespace Config

def featureOf (tag : Option String) : Except Failure Feature :=
  match tag with
  | none => .ok .standard
  | some tag =>
    match Feature.ofTag? tag with
    | some f => .ok f
    | none => .error (.unsupportedFeature (Text.trim tag))

def opensGate (gate : Option String) : Bool := gate.any (Text.trim · = "true")

def ofSettings (buildDir : String) (s : Settings) (operation : Option Operation)
    (retryPolicy : RetryPolicy) : Except Failure Config := do
  let feature ← featureOf s.feature
  return { s with
    buildDir, feature, operation, retryPolicy
    downloadEnabled := opensGate s.downloadGate }

def effectiveOperation (c : Config) : Operation :=
  c.operation.getD (if c.downloadEnabled then .download else .build)

end Config
end Provision
