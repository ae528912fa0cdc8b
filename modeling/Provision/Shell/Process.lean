import Provision.Command.Retry
import Provision.Command.Tail
import Provision.Shell.Run

/-!
Starting a command as a process. It gets nothing to read and works on the disk directly; what it
prints is captured or forwarded.
-/

namespace Provision.Shell

variable {σ : Type}

def holdsNul (c : Command) (dir : Option String) : Bool :=
  let texts := c.program :: c.args ++ c.env.flatMap (fun (k, v) => [k, v]) ++ dir.toList
  texts.any (·.toList.contains '\x00')

def startDirectory (w : World σ) : Option String → Except DiskError Location
  | none => .ok w.cwd
  | some p =>
    match w.disk.locate w.cwd true p with
    | .ok ⟨l, some .directory⟩ => .ok l
    | .ok ⟨_, none⟩ => .error .notFound
    | .ok ⟨_, some _⟩ => .error .notADirectory
    | .error e => .error e

def startSession (w : World σ) (environment : Table String String) (cwd : Location) : Session where
  disk := w.disk
  cwd := cwd
  values := environment.set "PWD" cwd.text
  exported := "PWD" :: environment.map (·.1)
  name := "sh"
  args := []
  status := 0
  outputStatus := 0
  line := 0
  functions := []
  shadowed := []
  inFunction := false
  loops := 0
  watch := .none
  tested := false
  traps := []
  input := []
  out := .pipe 0
  err := .pipe 1
  pipes := []
  nextPipe := 2

def piped (s : Session) (n : Nat) : Bytes := ((s.pipes.get? n).getD []).reverse.flatten

def received (mode : OutputMode) (b : Bytes) : String × Bytes :=
  match mode with
  | .capture => (Text.decodeLossy b, [])
  | .stream => ((Forwarded.ofBytes b).text, (Forwarded.ofBytes b).bytes)

def runner (environment : Table String String) : Runner σ := fun c dir => do
  let w ← get
  if holdsNul c dir then return .error "nul byte found in provided data"
  match startDirectory w dir with
  | .error e => return .error e.message
  | .ok cwd =>
    let environment := c.env.foldl (fun t (k, v) => t.set k v) environment
    match Program.resolve w.disk cwd (environment.get? "PATH") c.program c.args with
    | .error e => return .error e.message
    | .ok plan =>
      let (result, s) := (runPlan budget plan).run.run (startSession w environment cwd)
      let (out, copiedOut) := received c.mode (piped s 0)
      let (err, copiedErr) := received c.mode (piped s 1)
      set { w with
        disk := s.disk
        past := w.disk :: w.past
        out := w.out ++ copiedOut
        err := w.err ++ copiedErr }
      return .ok ⟨result matches .ok 0, out, err⟩

end Provision.Shell
