import Provision.Shell.Files

namespace Provision.Shell

inductive Program where
  | shell
  | env
  | batches
  | tool (t : Tool)

inductive LaunchError where
  | disk (e : DiskError)
  | format
  deriving DecidableEq, Repr

def LaunchError.message : LaunchError → String
  | .disk e => e.message
  | .format => "Exec format error (os error 8)"

structure Plan where
  program : Program
  name : String
  args : List String

namespace Program

def succeed : Tool := fun _ => return 0

def fail : Tool := fun _ => return 1

def tools : List (String × Tool) :=
  [("[", Files.bracket), ("basename", Files.basename), ("cat", Filter.cat), ("chmod", Files.chmod),
   ("cp", Files.cp), ("dirname", Files.dirname), ("echo", Print.echoProgram), ("false", fail),
   ("grep", Search.grep), ("cut", Filter.cut), ("expr", Files.expr),
   ("head", Filter.head), ("ln", Files.ln), ("ls", Files.ls),
   ("mkdir", Files.mkdir), ("mv", Files.mv), ("printf", Print.printf), ("pwd", Files.pwd),
   ("rm", Files.rm), ("rmdir", Files.rmdir), ("sed", Search.sed), ("rev", Filter.rev),
   ("printenv", Files.printenv), ("readlink", Files.readlink), ("seq", Print.seq), ("stat", Files.stat),
   ("tac", Filter.tac), ("tee", Filter.tee), ("uniq", Filter.uniq), ("yes", Filter.yes),
   ("sleep", succeed), ("sort", Filter.sort), ("tail", Filter.tail), ("test", Files.test),
   ("touch", Files.touch), ("tr", Filter.tr), ("true", succeed), ("wc", Filter.wc)]

def standard? (name : String) : Option Program :=
  if name = "sh" || name = "dash" || name = "bash" then some .shell
  else if name = "env" then some .env
  else if name = "xargs" then some .batches
  else (Table.get? tools name).map .tool

def standardDirs : List String := ["/usr/bin", "/bin"]

def at? (p : String) : Option Program :=
  match PathText.parent? p, PathText.fileName? p with
  | some d, some n => if standardDirs.contains d then standard? n else none
  | _, _ => none

def interpreter? (b : Bytes) : Option (Option (String × List String)) :=
  match b with
  | 35 :: 33 :: r =>
    let line := Text.trim (Text.decodeLossy (r.takeWhile (· ≠ Text.newline)))
    let name := line.toList.takeWhile fun c => c ≠ ' ' && c ≠ '\t'
    let rest := Text.trim (.ofList (line.toList.drop name.length))
    if name.isEmpty then some none
    else some (some (.ofList name, if rest = "" then [] else [rest]))
  | _ => none

def plan (d : Disk) (cwd : Location) :
    Nat → String → String → List String → Except LaunchError Plan
  | 0, _, _, _ => .error (.disk .symlinkLoop)
  | n + 1, name, p, args =>
    match at? p with
    | some program => .ok ⟨program, name, args⟩
    | none =>
      match d.locate cwd true p with
      | .error e => .error (.disk e)
      | .ok ⟨_, none⟩ => .error (.disk .notFound)
      | .ok ⟨_, some (.file id)⟩ =>
        match d.files.get? id with
        | none => .error (.disk .notFound)
        | some f =>
          if !f.isExecutable then .error (.disk .accessDenied)
          else match interpreter? f.content.bytes with
            | some (some (i, extra)) => plan d cwd n i i (extra ++ p :: args)
            | _ => .error .format
      | .ok ⟨_, some _⟩ => .error (.disk .accessDenied)

def maxInterpreters : Nat := 5

/-- Tries the directories of a search path one after the other. A program that may not be started
counts only if no other is found. -/
def search (d : Disk) (cwd : Location) (name : String) (args : List String) :
    List String → Bool → Except LaunchError Plan
  | [], denied => .error (.disk (if denied then .accessDenied else .notFound))
  | dir :: dirs, denied =>
    let p := PathText.join (if dir = "" then "." else dir) name
    match plan d cwd maxInterpreters name p args with
    | .ok plan => .ok plan
    | .error (.disk .accessDenied) => search d cwd name args dirs true
    | .error (.disk .notFound) | .error (.disk .notADirectory) => search d cwd name args dirs denied
    | .error e => .error e

def resolve (d : Disk) (cwd : Location) (path : Option String) (name : String)
    (args : List String) : Except LaunchError Plan :=
  if name = "" then .error (.disk .notFound)
  else if name.toList.contains '/' then plan d cwd maxInterpreters name name args
  else search d cwd name args (Text.split ':' (path.getD "/bin:/usr/bin")) false

end Program
end Provision.Shell
