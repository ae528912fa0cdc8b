import Provision.Command.Retry
import Provision.Download
import Provision.Extraction
import Provision.Proofs.World.Failing

namespace Provision

variable {σ α : Type}

namespace Failure

/-- The settings ask for what is not there. -/
def isUnfounded : Failure → Bool
  | .unsupportedFeature _ | .missingExternalDir _ => true
  | .step (.resolvePath _) .emptyPath | .step (.resolve _) .emptyPath => true
  | _ => false

/-- What is needed may not be downloaded, or has not been put where it should be. -/
def isUnstocked : Failure → Bool
  | .downloadDisabled | .missingArchive _ => true
  | _ => false

structure Late (f : Failure) : Prop where
  founded : f.core.isUnfounded = false
  stocked : f.core.isUnstocked = false

theorem late_disk (s : Step) (e : DiskError) : Late (.step s (.disk e)) := by
  cases s <;> exact ⟨rfl, rfl⟩

theorem Late.during {f : Failure} (s : Stage) (h : f.Late) : Late (.during s f) := ⟨h.1, h.2⟩

end Failure

namespace Action

open Failure

theorem late_step (s : Step) (x : StateM (World σ) (Except DiskError α)) :
    Fails Late (Action.step s x) := .step (late_disk s) x

theorem late_createDirectories (p : String) : Fails (σ := σ) Late (createDirectories p) :=
  late_step _ _

theorem late_createParents (p : String) : Fails (σ := σ) Late (createParents p) := by
  simp only [createParents]
  split
  · exact late_createDirectories _
  · exact .pure _

end Action

open Failure Provision.Action

namespace Tarball

theorem late_unpackFile (e : TarEntry) (p : String) : Fails (σ := σ) Late (unpackFile e p) := by
  refine .bind (late_step _ _) fun id => .bind (.changeDisk _) fun _ => ?_
  dsimp only
  split
  · exact .thrown ⟨rfl, rfl⟩ _
  · exact .changeDisk _

theorem late_unpackDirectory (e : TarEntry) (p : String) :
    Fails (σ := σ) Late (unpackDirectory e p) :=
  .bind (late_step _ _) fun _ => late_step _ _

theorem late_unpack (e : TarEntry) (p : String) : Fails (σ := σ) Late (unpack e p) := by
  simp only [unpack]
  split
  · exact .pure _
  · split
    · exact .throw ⟨rfl, rfl⟩
    · exact late_step _ _
  · split
    · exact late_unpackDirectory e p
    · exact late_unpackFile e p

theorem late_linkFile (existing link : String) : Fails (σ := σ) Late (linkFile existing link) := by
  refine .bind (late_createParents link) fun _ => .get fun w => ?_
  dsimp only
  split
  · exact .bind (late_step _ _) fun _ => late_step _ _
  · exact late_step _ _

theorem late_requireSafe (p : String) : Fails (σ := σ) Late (requireSafe p) := by
  simp only [requireSafe]
  split
  · exact .pure _
  · exact .throw ⟨rfl, rfl⟩

theorem late_extractEntry (dest : String) (e : TarEntry) :
    Fails (σ := σ) Late (extractEntry dest e) := by
  refine .bind (late_requireSafe _) fun _ => ?_
  dsimp only
  split
  · exact .pure _
  · split
    · exact .bind (late_createDirectories _) fun _ => .pure _
    · split
      · split
        · exact .thrown ⟨rfl, rfl⟩ _
        · refine .bind (late_requireSafe _) fun _ => ?_
          split
          · exact .thrown ⟨rfl, rfl⟩ _
          · exact .bind (late_linkFile _ _) fun _ => .pure _
      · exact .bind (late_createParents _) fun _ => .bind (late_unpack e _) fun _ => .pure _

theorem late_extractEntries (archive dest : String) (broken : Bool) (n : Nat) (es : List TarEntry) :
    Fails (σ := σ) Late (extractEntries archive dest broken n es) := by
  induction es generalizing n with
  | nil =>
    simp only [extractEntries]
    split
    · exact .throw ⟨rfl, rfl⟩
    · exact .pure _
  | cons e es ih =>
    simp only [extractEntries]
    split
    · exact .thrown ⟨rfl, rfl⟩ _
    · refine .bind (late_extractEntry dest e) fun written => ?_
      split
      · exact .thrown ⟨rfl, rfl⟩ _
      · exact ih _

theorem late_extract (archive dest : String) : Fails (σ := σ) Late (extract archive dest) := by
  refine .bind (late_step _ _) fun opened => ?_
  split
  · exact .throw ⟨rfl, rfl⟩
  · refine .bind (late_createDirectories dest) fun _ => ?_
    split
    · exact .throw ⟨rfl, rfl⟩
    · exact .bind (late_extractEntries archive dest _ 0 _) fun n => .tell _ _ _

end Tarball

namespace ZipFile

theorem late_writeFile (e : ZipEntry) (p : String) : Fails (σ := σ) Late (writeFile e p) := by
  refine .bind (late_createParents p) fun _ => .bind (late_step _ _) fun id => ?_
  refine .bind (.changeDisk _) fun _ => ?_
  dsimp only
  split
  · exact .thrown ⟨rfl, rfl⟩ _
  · split
    · exact .pure _
    · exact late_step _ _

theorem late_extractEntry (dest : String) (wrapper : Option String) (i : Nat) (e : ZipEntry) :
    Fails (σ := σ) Late (extractEntry dest wrapper i e) := by
  simp only [extractEntry]
  split
  · exact .thrown ⟨rfl, rfl⟩ _
  cases e.enclosed? with
  | none => exact .throw ⟨rfl, rfl⟩
  | some segments =>
    dsimp only
    split
    · exact .thrown ⟨rfl, rfl⟩ _
    cases relative? wrapper segments with
    | none => exact .pure _
    | some segments =>
      dsimp only
      split
      · exact late_createDirectories _
      · exact late_writeFile e _

theorem late_extractEntries (dest : String) (wrapper : Option String) (i : Nat)
    (es : List ZipEntry) : Fails (σ := σ) Late (extractEntries dest wrapper i es) := by
  induction es generalizing i with
  | nil => exact .pure _
  | cons e es ih => exact .bind (late_extractEntry dest wrapper i e) fun _ => ih (i + 1)

theorem late_extract (archive dest : String) : Fails (σ := σ) Late (extract archive dest) := by
  refine .bind (late_step _ _) fun opened => ?_
  split
  · exact .throw ⟨rfl, rfl⟩
  · split
    · exact .thrown ⟨rfl, rfl⟩ _
    · exact .bind (late_createDirectories dest) fun _ => late_extractEntries dest _ 0 _
  · exact .throw ⟨rfl, rfl⟩

end ZipFile

theorem ArchiveFormat.late_extractor (f : ArchiveFormat) (archive dest : String) :
    Fails (σ := σ) Late (f.extractor archive dest) := by
  refine .bind (.tell _ _ _) fun _ => ?_
  cases f with
  | tar => exact Tarball.late_extract archive dest
  | zip => exact ZipFile.late_extract archive dest

namespace Download

theorem fails_outside {P : Failure → Prop} (x : StateM σ α) : Fails P (outside x) :=
  .get fun _ => .bind (.lift _) fun _ => .pure _

theorem fails_writeChunks {P : Failure → Prop} (id : FileId) (chunks : List Bytes) :
    Fails (σ := σ) P (writeChunks id chunks) := by
  induction chunks with
  | nil => exact .pure _
  | cons c chunks ih => exact .bind (.changeDisk _) fun _ => ih

theorem late_once (net : Network σ) (url temp : String) : Fails Late (once net url temp) := by
  simp only [once]
  split
  · exact .throw ⟨rfl, rfl⟩
  · split
    · exact .thrown ⟨rfl, rfl⟩ _
    refine .bind (fails_outside _) fun response => ?_
    split
    · exact .throw ⟨rfl, rfl⟩
    split
    · exact .thrown ⟨rfl, rfl⟩ _
    refine .bind (late_step _ _) fun id => .bind (fails_writeChunks id _) fun _ => ?_
    split
    · exact .thrown ⟨rfl, rfl⟩ _
    · exact .pure _

theorem late_attempt (net : Network σ) (policy : RetryPolicy) (url dest : String) (n : Nat)
    (made : UInt32) : Fails Late (attempt net policy url dest n made) := by
  induction n generalizing made with
  | zero => exact .throw ⟨rfl, rfl⟩
  | succ n ih =>
    rw [attempt]
    refine .bind (.tell _ _ _) fun _ => .caught (late_once net url _) fun r hr => ?_
    cases r with
    | ok size => exact .bind (late_step _ _) fun _ => .tell _ _ _
    | error f =>
      refine .bind (.lift _) fun _ => ?_
      dsimp only
      split
      · refine .bind (fails_outside _) fun drawn => .bind (.tell _ _ _) fun _ => ?_
        exact .bind (.nap _) fun _ => ih _
      · exact .throw (hr f rfl)

theorem late_fetch (net : Network σ) (policy : RetryPolicy) (url dest : String) :
    Fails Late (fetch net policy url dest) :=
  .bind (late_createParents dest) fun _ => late_attempt net policy url dest _ _

end Download

theorem Runner.late_attempt (r : Runner σ) (policy : RetryPolicy) (c : Command)
    (dir : Option String) (n : Nat) (made : UInt32) :
    Fails Late (r.attempt policy c dir n made) := by
  induction n generalizing made with
  | zero => exact .throw ⟨rfl, rfl⟩
  | succ n ih =>
    refine .bind (.tell _ _ _) fun _ => .bind (.lift _) fun a => ?_
    cases a with
    | error reason => exact .bind (.tell _ _ _) fun _ => .throw ⟨rfl, rfl⟩
    | ok output =>
      dsimp only
      split
      · exact .bind (.tell _ _ _) fun _ => .pure _
      split
      · exact .bind (.tell _ _ _) fun _ => ih _
      · exact .throw ⟨rfl, rfl⟩

end Provision
