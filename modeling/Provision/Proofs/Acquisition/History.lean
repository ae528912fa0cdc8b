import Provision.Proofs.Acquisition.Watch

namespace Provision

variable {σ : Type}

def markerPath (dir : String) : String := PathText.join dir ZipFile.marker

def archivePath (dir : String) (f : Feature) : String := PathText.join dir f.release.archiveName

namespace Acquirer

variable (a : Acquirer σ) (dir : String) (f : Feature)

def stagedPath : String := PathText.join a.buildDir f.stagedArchive

def watched : Acquirer (Watched σ) where
  fetch url dest := Action.watch (.fetch url dest) (a.fetch url dest)
  extract archive dest := Action.watch (.extract archive dest) (a.extract archive dest)
  runner := a.runner.watched
  platform := a.platform
  buildDir := a.buildDir
  downloadEnabled := a.downloadEnabled
  policy := a.policy

open Provision.Action in
theorem unpackStaged_watched :
    Mirrors (a.watched.unpackStaged dir f) (a.unpackStaged dir f) := by
  refine .get fun w l => ?_
  exact .ite (.bind (.watch _ _) fun _ => .pure _) (.throw _)

open Provision.Action in
theorem unpackRelease_watched (state : CacheState) :
    Mirrors (a.watched.unpackRelease dir f state) (a.unpackRelease dir f state) := by
  refine .ite (.bind (.during _ (.watch _ _)) fun _ => ?_) (.bind (.tell _ _ _) fun _ => ?_)
  · exact .bind (.watch _ _) fun _ => .pure _
  · exact .bind (.watch _ _) fun _ => .pure _

open Provision.Action in
theorem download_watched : Mirrors (a.watched.download dir f) (a.download dir f) := by
  refine .ite (.bind (.throw _) fun _ => ?_) ?_
  all_goals
    refine .get fun w l => .bind (.tell _ _ _) fun _ => ?_
    refine .ite (.bind (.tell _ _ _) fun _ => .pure _) ?_
    exact .ite (a.unpackStaged_watched dir f) (a.unpackRelease_watched dir f _)

theorem acquire_watched (dir : InstallDir) :
    Action.Mirrors (a.watched.acquire dir f .download) (a.acquire dir f .download) := by
  refine .ite (.bind (.tell _ _ _) fun _ => .pure _) ?_
  refine .bind (fun w l => ⟨[], Action.createDirectories_watched _ w l⟩) fun _ => ?_
  exact a.download_watched dir.path f

end Acquirer

structure Report (σ : Type) where
  start : World σ
  outcome : Except Failure Acquisition
  calls : List Call
  finish : World σ

def Acquirer.report (a : Acquirer σ) (dir : InstallDir) (f : Feature) (w : World σ) : Report σ :=
  let (r, v) := (a.watched.acquire dir f .download).run.run (w.watched [])
  ⟨w, r, v.outside.calls.reverse, v.bare⟩

/-- What a run does once its directory is there: what comes of it, its calls, and where it ends. -/
inductive Course (a : Acquirer σ) (dir : String) (f : Feature) (w : World σ) :
    Except Failure Acquisition → List Call → World σ → Prop where
  | complete {v : World σ} (marked : w.isDir (markerPath dir) = true) (quiet : w.Quiet v) :
    Course a dir f w (.ok .alreadyInstalled) [] v
  | unstaged {v : World σ} {e : Failure} (windows : a.platform.isWindows = true)
      (unmarked : w.isDir (markerPath dir) = false) (quiet : w.Quiet v) :
    Course a dir f w (.error e) [] v
  | staged {u v : World σ} {r : Except Failure Unit} (windows : a.platform.isWindows = true)
      (unmarked : w.isDir (markerPath dir) = false) (quiet : w.Quiet u)
      (extraction : (a.extract (a.stagedPath f) dir).run.run u = (r, v)) :
    Course a dir f w (r.map fun _ => .extracted false) [.extract (a.stagedPath f) dir r.isOk] v
  | reused {u v : World σ} {r : Except Failure Unit} (posix : a.platform.isWindows = false)
      (unmarked : w.isDir (markerPath dir) = false)
      (present : w.isFile (archivePath dir f) = true) (quiet : w.Quiet u)
      (extraction : (a.extract (archivePath dir f) dir).run.run u = (r, v)) :
    Course a dir f w (r.map fun _ => .extracted false) [.extract (archivePath dir f) dir r.isOk] v
  | unfetched {u v : World σ} {e : Failure} (posix : a.platform.isWindows = false)
      (unmarked : w.isDir (markerPath dir) = false)
      (missing : w.isFile (archivePath dir f) = false) (quiet : w.Quiet u)
      (fetching : (a.fetch f.release.url (archivePath dir f)).run.run u = (.error e, v)) :
    Course a dir f w (.error (.during (.download f) e))
      [.fetch f.release.url (archivePath dir f) false] v
  | fetched {u t v : World σ} {r : Except Failure Unit} (posix : a.platform.isWindows = false)
      (unmarked : w.isDir (markerPath dir) = false)
      (missing : w.isFile (archivePath dir f) = false) (quiet : w.Quiet u)
      (fetching : (a.fetch f.release.url (archivePath dir f)).run.run u = (.ok (), t))
      (extraction : (a.extract (archivePath dir f) dir).run.run t = (r, v)) :
    Course a dir f w (r.map fun _ => .extracted true)
      [.fetch f.release.url (archivePath dir f) true, .extract (archivePath dir f) dir r.isOk] v

namespace Acquirer

open Provision.Action

variable {a : Acquirer σ} {f : Feature}

theorem unpackStaged_course {w u : World σ} {dir : String}
    (windows : a.platform.isWindows = true) (unmarked : w.isDir (markerPath dir) = false)
    (quiet : w.Quiet u) :
    Ends (a.watched.unpackStaged dir f) (u.watched []) fun r v =>
      Course a dir f w r v.outside.calls.reverse v.bare := by
  refine Ends.get ?_
  split
  · refine Ends.bind (Ends.watch (Ends.intro fun r v hr => ?_))
    have h := Course.staged windows unmarked quiet hr
    cases r with
    | error e => exact h
    | ok => exact Ends.pure h
  · exact Ends.throw (Course.unstaged windows unmarked quiet)

theorem unpackRelease_course {w u : World σ} {dir : String} {state : CacheState}
    (posix : a.platform.isWindows = false) (unmarked : w.isDir (markerPath dir) = false)
    (hstate : state = .absent ↔ w.isFile (archivePath dir f) = false) (quiet : w.Quiet u) :
    Ends (a.watched.unpackRelease dir f state) (u.watched []) fun r v =>
      Course a dir f w r v.outside.calls.reverse v.bare := by
  simp only [unpackRelease]
  by_cases hs : state = .absent
  · simp only [hs, decide_true, ↓reduceIte]
    refine Ends.bind (Ends.during (Ends.watch (Ends.intro fun r t hr => ?_)))
    have missing := hstate.1 hs
    cases r with
    | error e => exact Course.unfetched posix unmarked missing quiet hr
    | ok =>
      refine Ends.bind (Ends.watch (Ends.intro fun r v hv => ?_))
      have h := Course.fetched posix unmarked missing quiet hr hv
      cases r with
      | error e => exact h
      | ok => exact Ends.pure h
  · simp only [hs, decide_false, ↓reduceIte]
    have present : w.isFile (archivePath dir f) = true := by simpa [hs] using hstate
    refine Ends.bind (Ends.tell (Ends.bind (Ends.watch (Ends.intro fun r v hr => ?_))))
    have h := Course.reused posix unmarked present (quiet.told _) hr
    cases r with
    | error e => exact h
    | ok => exact Ends.pure h

theorem inspect_eq_complete_iff {w : World σ} {dir : String} :
    CacheState.inspect w dir f.release.archiveName = .complete ↔ w.isDir (markerPath dir) = true := by
  simp only [CacheState.inspect, markerPath]
  split
  · simp [*]
  · split <;> simp [*]

theorem inspect_eq_absent_iff {w : World σ} {dir : String}
    (unmarked : w.isDir (markerPath dir) = false) :
    CacheState.inspect w dir f.release.archiveName = .absent ↔
      w.isFile (archivePath dir f) = false := by
  simp only [markerPath] at unmarked
  simp only [CacheState.inspect, unmarked, archivePath]
  cases w.isFile (PathText.join dir f.release.archiveName) <;> simp

theorem download_course {dir : String} (hopen : a.downloadEnabled = true) (w : World σ) :
    Ends (a.watched.download dir f) (w.watched []) fun r v =>
      Course a dir f w r v.outside.calls.reverse v.bare := by
  have hclosed : ¬ (!a.watched.downloadEnabled) = true := by simpa [watched] using hopen
  rw [download, if_neg hclosed]
  refine Ends.get (Ends.bind (Ends.tell ?_))
  have quiet : ∀ e, w.Quiet (w.told e) := fun e => (World.Quiet.refl w).told e
  by_cases hc : CacheState.inspect w dir f.release.archiveName = .complete
  · change Ends (if CacheState.inspect w dir f.release.archiveName = .complete then _ else _) _ _
    rw [if_pos hc]
    refine Ends.bind (Ends.tell (Ends.pure ?_))
    exact Course.complete (inspect_eq_complete_iff.1 hc) ((quiet _).told _)
  · have unmarked : w.isDir (markerPath dir) = false := by
      simpa [inspect_eq_complete_iff] using hc
    change Ends (if CacheState.inspect w dir f.release.archiveName = .complete then _ else _) _ _
    rw [if_neg hc]
    split
    · exact unpackStaged_course ‹_› unmarked (quiet _)
    · refine unpackRelease_course ?_ unmarked (inspect_eq_absent_iff unmarked) (quiet _)
      simpa [watched] using ‹¬ a.watched.platform.isWindows = true›

inductive Ran (a : Acquirer σ) (dir : String) (f : Feature) : Report σ → Prop where
  | unmade {w : World σ} {e : Failure} (making : ((createDirectories dir).run.run w).1 = .error e) :
    Ran a dir f ⟨w, .error e, [], w.prepared dir⟩
  | made {w v : World σ} {r : Except Failure Acquisition} {calls : List Call}
      (making : ((createDirectories dir).run.run w).1 = .ok ())
      (course : Course a dir f (w.prepared dir) r calls v) :
    Ran a dir f ⟨w, r, calls, v⟩

theorem ran_report {dir : InstallDir} (hdir : dir.isExternal = false)
    (hopen : a.downloadEnabled = true) (w : World σ) : Ran a dir.path f (a.report dir f w) := by
  have h : Ends (a.watched.acquire dir f .download) (w.watched []) fun r v =>
      Ran a dir.path f ⟨w, r, v.outside.calls.reverse, v.bare⟩ := by
    simp only [acquire, hdir, Bool.false_eq_true, ↓reduceIte]
    refine Ends.bind (Ends.intro fun r v hr => ?_)
    rw [createDirectories_watched] at hr
    obtain ⟨hmaking, hv⟩ := Prod.mk.inj hr
    subst hv
    cases r with
    | error e => exact .unmade hmaking
    | ok => exact (download_course hopen _).mono fun _ _ h => .made hmaking h
  exact h

end Acquirer

/-- One run of a history, and what others do before it. -/
structure Round (σ : Type) where
  meanwhile : World σ → World σ
  acquirer : Acquirer σ

def history (dir : InstallDir) (f : Feature) : List (Round σ) → World σ → List (Report σ)
  | [], _ => []
  | x :: xs, w =>
    let r := x.acquirer.report dir f (x.meanwhile w)
    r :: history dir f xs r.finish

def storing (c : Content) : Fetcher σ := fun _ dest => do
  let id ← Action.step (.createFile dest) (Action.changeWith (·.openForWriting · dest))
  Action.changeDisk (·.setContent id c)

theorem storing_ends (c : Content) (url dest : String) (w : World σ) :
    Action.Ends (storing c url dest) w fun r v =>
      (∀ P : Disk → Prop, (∀ d d', Disk.Grows d d' → Disk.Keeps d' d → P d → P d') →
        World.Lasts P w v) ∧
      (r = .ok () → v.isFile dest = true) := by
  refine Action.Ends.bind (Action.Ends.step (Runs.changeWith ?_ ?_))
  · intro d id hd
    obtain ⟨hgrows, hkeeps, l, hl⟩ := Disk.openForWriting_grows hd
    have hfile : d.isFile w.cwd dest = true := Disk.isFile_iff.2 ⟨l, id, hl⟩
    have hset := Disk.grows_setContent d id c
    refine Action.Ends.changeDisk ⟨fun P hP => ?_, fun _ => hset.isFile hfile⟩
    exact (World.Lasts.changed (hP _ _ hgrows hkeeps)).trans
      (World.Lasts.changed (hP _ _ hset (Disk.keeps_of_setContent d id c)))
  · intro e he
    exact ⟨fun P hP => .refl w, fun h => by cases h⟩

end Provision
