import Provision.Proofs.Acquisition.History
import Provision.Proofs.Path.Relative

namespace Provision

open PathText World

variable {σ : Type} {w v : World σ} {dir : String} {f : Feature}

def Disk.Marked (cwd : Location) (dir : String) (d : Disk) : Prop :=
  d.isDir cwd (markerPath dir) = true

def Disk.Archived (cwd : Location) (dir : String) (f : Feature) (d : Disk) : Prop :=
  d.isFile cwd (archivePath dir f) = true

theorem isSegment_marker : IsSegment ZipFile.marker := ⟨by decide +kernel, by decide +kernel⟩

theorem isSegment_archiveName (f : Feature) :
    IsSegment f.release.archiveName ∧ f.release.archiveName ≠ ".." := by
  have hlong : 2 < f.release.archiveName.toList.length := by cases f <;> decide +kernel
  have hne : ∀ s : String, s.toList.length ≤ 2 → f.release.archiveName ≠ s := by
    rintro s hs rfl
    omega
  have hslash : '/' ∉ f.release.archiveName.toList := by
    intro h
    have hmem : '/' ∈ (Release.dropSlashes f.releasePath.toList).reverse.takeWhile (· ≠ '/') := by
      simpa [Feature.release, Release.ofParts, Release.lastSegment] using h
    simpa using List.all_eq_true.1 List.all_takeWhile _ hmem
  exact ⟨⟨by simp [isIdle, hne], hslash⟩, hne ".." (by decide)⟩

theorem isDir_of_marked (h : w.isDir (markerPath dir) = true) : dir = "" ∨ w.isDir dir = true := by
  obtain ⟨X, hX⟩ := Disk.isDir_iff.1 h
  exact Disk.isDir_of_locate_join isSegment_marker.isAbsolute isSegment_marker.steps_ne_nil
    (Disk.locate_eq_directory_iff.2 hX)

theorem isDir_of_archived (h : w.isFile (archivePath dir f) = true) :
    dir = "" ∨ w.isDir dir = true := by
  obtain ⟨l, id, hl⟩ := Disk.isFile_iff.1 h
  have hname := (isSegment_archiveName f).1
  exact Disk.isDir_of_locate_join hname.isAbsolute hname.steps_ne_nil hl

theorem prepared_of_isDir (h : dir = "" ∨ w.isDir dir = true) :
    ((Action.createDirectories dir).run.run w).1 = .ok () ∧ w.prepared dir = w :=
  Action.createDirectories_of_isDir h

section

variable {name : String} (hwf : w.disk.WellFormed) (hcwd : w.disk.nodeAt w.cwd = some .directory)
  (hup : ".." ∉ segments dir)
include hwf hcwd hup

end

theorem lasts_marked_prepared (w : World σ) (c : Location) (dir : String) :
    Lasts (Disk.Marked c dir) w (w.prepared dir) :=
  Action.createDirectories_lasts fun _ _ h => h.keeps.isDir

theorem lasts_archived_prepared (w : World σ) (c : Location) (dir : String) (f : Feature) :
    Lasts (Disk.Archived c dir f) w (w.prepared dir) :=
  Action.createDirectories_lasts fun _ _ h => h.isFile

namespace Report

def Fetched (r : Report σ) : Prop := ∃ url dest, Call.fetch url dest true ∈ r.calls

def Fetches (r : Report σ) : Prop := ∃ url dest ok, Call.fetch url dest ok ∈ r.calls

/-- The run has found everything installed, has called nobody and has changed nothing. -/
structure Idle (r : Report σ) : Prop where
  outcome : r.outcome = .ok .alreadyInstalled
  calls : r.calls = []
  quiet : r.start.Quiet r.finish

/-- It was so at some moment of the run. -/
def Met (r : Report σ) (P : Disk → Prop) : Prop :=
  ∃ l, r.finish.past = l ++ r.start.past ∧ ∃ d ∈ r.finish.disk :: r.start.disk :: l, P d

theorem Met.last {r : Report σ} {P : Disk → Prop} (h : r.Met P)
    (hl : Lasts P r.start r.finish) : P r.finish.disk := by
  obtain ⟨l, hpast, d, hd, hP⟩ := h
  obtain ⟨m, hm, hlast⟩ := hl.after
  obtain rfl : l = m := List.append_cancel_right (hpast.symm.trans hm)
  obtain rfl | hd := List.mem_cons.1 hd
  · exact hP
  · exact hlast d hd hP

end Report

/-- A round on a system that downloads, with a fetcher that leaves a file when it succeeds and an
extractor that undoes nothing, and with nobody else at work in the directory. -/
structure Round.Steady (x : Round σ) (dir : String) (f : Feature) : Prop where
  posix : x.acquirer.platform.isWindows = false
  opened : x.acquirer.downloadEnabled = true
  stays : ∀ w, (x.meanwhile w).cwd = w.cwd
  leavesMarker : ∀ w, w.isDir (markerPath dir) = true → (x.meanwhile w).isDir (markerPath dir) = true
  leavesArchive : ∀ w, w.isFile (archivePath dir f) = true →
    (x.meanwhile w).isFile (archivePath dir f) = true
  stores : ∀ w, Action.Ends (x.acquirer.fetch f.release.url (archivePath dir f)) w fun r v =>
    r = .ok () → v.isFile (archivePath dir f) = true
  fetchLasts : ∀ w, Action.Ends (x.acquirer.fetch f.release.url (archivePath dir f)) w fun _ v =>
    Lasts (Disk.Marked w.cwd dir) w v
  extractLasts : ∀ w, Action.Ends (x.acquirer.extract (archivePath dir f) dir) w fun _ v =>
    Lasts (Disk.Marked w.cwd dir) w v ∧ Lasts (Disk.Archived w.cwd dir f) w v

theorem Acquirer.Ran.idle {a : Acquirer σ} {r : Report σ} (hr : a.Ran dir f r)
    (hw : r.start.isDir (markerPath dir) = true) : r.Idle := by
  cases hr with
  | unmade making =>
    rw [(prepared_of_isDir (isDir_of_marked hw)).1] at making
    cases making
  | made making course =>
    rw [(prepared_of_isDir (isDir_of_marked hw)).2] at course
    cases course with
    | complete marked quiet => exact ⟨rfl, rfl, quiet⟩
    | unstaged windows unmarked quiet => simp_all
    | staged windows unmarked quiet extraction => simp_all
    | reused posix unmarked present quiet extraction => simp_all
    | unfetched posix unmarked missing quiet fetching => simp_all
    | fetched posix unmarked missing quiet fetching extraction => simp_all

theorem Acquirer.Ran.not_fetches {a : Acquirer σ} {r : Report σ} (hr : a.Ran dir f r)
    (hw : r.start.isFile (archivePath dir f) = true) : ¬ r.Fetches := by
  cases hr with
  | unmade making => simp [Report.Fetches]
  | made making course =>
    rw [(prepared_of_isDir (isDir_of_archived hw)).2] at course
    cases course <;> simp_all [Report.Fetches]

namespace Round.Steady

variable {x : Round σ} {r : Report σ} {o : Except Failure Acquisition} {calls : List Call}

theorem course_marked (h : x.Steady dir f) (hc : Course x.acquirer dir f w o calls v) :
    Lasts (Disk.Marked w.cwd dir) w v := by
  have hext : ∀ {u t e}, u.cwd = w.cwd →
      (x.acquirer.extract (archivePath dir f) dir).run.run u = (e, t) →
        Lasts (Disk.Marked w.cwd dir) u t := fun hu ht => hu ▸ ((h.extractLasts _).of_run ht).1
  have hfetch : ∀ {u t e}, u.cwd = w.cwd →
      (x.acquirer.fetch f.release.url (archivePath dir f)).run.run u = (e, t) →
        Lasts (Disk.Marked w.cwd dir) u t := fun hu ht => hu ▸ (h.fetchLasts _).of_run ht
  have hquiet : ∀ {u}, w.Quiet u → Lasts (Disk.Marked w.cwd dir) w u := (Lasts.refl w).quiet
  cases hc with
  | complete marked quiet => exact hquiet quiet
  | unstaged windows unmarked quiet => exact hquiet quiet
  | staged windows unmarked quiet extraction => simp [h.posix] at windows
  | reused posix unmarked present quiet extraction =>
    exact (hquiet quiet).trans (hext quiet.cwd extraction)
  | unfetched posix unmarked missing quiet fetching =>
    exact (hquiet quiet).trans (hfetch quiet.cwd fetching)
  | fetched posix unmarked missing quiet fetching extraction =>
    have ht := (hquiet quiet).trans (hfetch quiet.cwd fetching)
    exact ht.trans (hext ht.cwd extraction)

theorem lasts_marked (h : x.Steady dir f) (hr : x.acquirer.Ran dir f r) :
    Lasts (Disk.Marked r.start.cwd dir) r.start r.finish := by
  cases hr with
  | unmade making => exact lasts_marked_prepared _ _ _
  | @made w _ _ _ making course =>
    have hp := lasts_marked_prepared w w.cwd dir
    exact hp.trans (hp.cwd ▸ h.course_marked course)

theorem course_archived (h : x.Steady dir f) (hc : Course x.acquirer dir f w o calls v)
    (hw : w.isFile (archivePath dir f) = true ∨ ∃ url dest, Call.fetch url dest true ∈ calls) :
    v.isFile (archivePath dir f) = true := by
  have hext : ∀ {u t e}, u.isFile (archivePath dir f) = true →
      (x.acquirer.extract (archivePath dir f) dir).run.run u = (e, t) →
        t.isFile (archivePath dir f) = true := by
    intro u t e hu ht
    have hl := ((h.extractLasts u).of_run ht).2
    have := hl.last hu
    rw [← hl.cwd] at this
    exact this
  cases hc with
  | complete marked quiet => simpa [quiet.isFile] using hw
  | unstaged windows unmarked quiet => simp [h.posix] at windows
  | staged windows unmarked quiet extraction => simp [h.posix] at windows
  | reused posix unmarked present quiet extraction =>
    exact hext (by rw [quiet.isFile, present]) extraction
  | unfetched posix unmarked missing quiet fetching => simp [missing] at hw
  | fetched posix unmarked missing quiet fetching extraction =>
    exact hext ((h.stores _).of_run fetching rfl) extraction

theorem archived (h : x.Steady dir f) (hr : x.acquirer.Ran dir f r)
    (hw : r.start.isFile (archivePath dir f) = true ∨ r.Fetched) :
    r.finish.isFile (archivePath dir f) = true := by
  have hprep : ∀ {w : World σ}, w.isFile (archivePath dir f) = true →
      (w.prepared dir).isFile (archivePath dir f) = true := by
    intro w hw
    have hl := lasts_archived_prepared w w.cwd dir f
    have := hl.last hw
    rw [← hl.cwd] at this
    exact this
  cases hr with
  | unmade making => exact hprep (by simpa [Report.Fetched] using hw)
  | made making course => exact h.course_archived course (hw.imp_left hprep)

theorem unpacks (h : x.Steady dir f) (hr : x.acquirer.Ran dir f r)
    (hw : r.start.isFile (archivePath dir f) = true)
    (hm : r.start.isDir (markerPath dir) = false) :
    ∃ ok, r.calls = [.extract (archivePath dir f) dir ok] := by
  have hp := prepared_of_isDir (isDir_of_archived hw)
  cases hr with
  | unmade making => simp [hp.1] at making
  | made making course =>
    rw [hp.2] at course
    cases course with
    | complete marked quiet => simp [hm] at marked
    | unstaged windows unmarked quiet => simp [h.posix] at windows
    | staged windows unmarked quiet extraction => simp [h.posix] at windows
    | reused posix unmarked present quiet extraction => exact ⟨_, rfl⟩
    | unfetched posix unmarked missing quiet fetching => simp [hw] at missing
    | fetched posix unmarked missing quiet fetching extraction => simp [hw] at missing

end Round.Steady

section History

variable {dir : InstallDir} {rounds : List (Round σ)}

theorem idle_of_mem_history (hdir : dir.isExternal = false)
    (h : ∀ x ∈ rounds, x.Steady dir.path f) (hw : w.isDir (markerPath dir.path) = true) :
    ∀ r ∈ history dir f rounds w, r.Idle := by
  induction rounds generalizing w with
  | nil => simp [history]
  | cons x xs ih =>
    have hx := h x (by simp)
    have hran := x.acquirer.ran_report (f := f) hdir hx.opened (x.meanwhile w)
    have hidle := hran.idle (hx.leavesMarker w hw)
    simp only [history, List.mem_cons, forall_eq_or_imp]
    refine ⟨hidle, ih (fun y hy => h y (by simp [hy])) ?_⟩
    rw [hidle.quiet.isDir]
    exact hx.leavesMarker w hw

theorem not_fetches_of_mem_history (hdir : dir.isExternal = false)
    (h : ∀ x ∈ rounds, x.Steady dir.path f) (hw : w.isFile (archivePath dir.path f) = true) :
    ∀ r ∈ history dir f rounds w, ¬ r.Fetches := by
  induction rounds generalizing w with
  | nil => simp [history]
  | cons x xs ih =>
    have hx := h x (by simp)
    have hran := x.acquirer.ran_report (f := f) hdir hx.opened (x.meanwhile w)
    have hw' := hx.leavesArchive w hw
    simp only [history, List.mem_cons, forall_eq_or_imp]
    exact ⟨hran.not_fetches hw', ih (fun y hy => h y (by simp [hy])) (hx.archived hran (.inl hw'))⟩

/-- Work that is done is not done again. -/
theorem work_not_repeated (hdir : dir.isExternal = false)
    (h : ∀ x ∈ rounds, x.Steady dir.path f) (w : World σ) :
    ((history dir f rounds w).Pairwise fun a b => a.Fetched → ¬ b.Fetches) ∧
    (∀ r ∈ history dir f rounds w, r.start.isFile (archivePath dir.path f) = true →
      r.start.isDir (markerPath dir.path) = false →
        ∃ ok, r.calls = [.extract (archivePath dir.path f) dir.path ok]) ∧
    (∀ r ∈ history dir f rounds w, r.start.isDir (markerPath dir.path) = true → r.Idle) ∧
    ((history dir f rounds w).Pairwise fun a b =>
      a.Met (Disk.Marked w.cwd dir.path) → b.Idle) := by
  induction rounds generalizing w with
  | nil => simp [history]
  | cons x xs ih =>
    have hx := h x (by simp)
    have hxs : ∀ y ∈ xs, y.Steady dir.path f := fun y hy => h y (by simp [hy])
    have hran := x.acquirer.ran_report (f := f) hdir hx.opened (x.meanwhile w)
    have hlasts := hx.lasts_marked hran
    have hcwd : (x.acquirer.report dir f (x.meanwhile w)).finish.cwd = w.cwd :=
      hlasts.cwd.trans (hx.stays w)
    obtain ⟨hfetch, hunpack, hidle, hmet⟩ := ih hxs (x.acquirer.report dir f (x.meanwhile w)).finish
    simp only [history, List.pairwise_cons, List.mem_cons, forall_eq_or_imp]
    refine ⟨⟨?_, hfetch⟩, ⟨hx.unpacks hran, hunpack⟩, ⟨hran.idle, hidle⟩, ?_, hcwd ▸ hmet⟩
    · intro b hb hfetched
      exact not_fetches_of_mem_history hdir hxs (hx.archived hran (.inr hfetched)) b hb
    · intro b hb hseen
      refine idle_of_mem_history hdir hxs ?_ b hb
      rw [← hx.stays w] at hseen
      have hlast := hseen.last hlasts
      rw [hx.stays w, ← hcwd] at hlast
      exact hlast

end History

section Trial

open Provision.Action

def marking : Extractor Bool := fun _ dest => do
  let w ← get
  if w.outside then createDirectories (markerPath dest)
  else
    set { w with outside := true }
    throw (.step (.extract dest) .damaged)

theorem marking_ends {P : Disk → Prop} (hP : ∀ d d', Disk.Grows d d' → P d → P d')
    (archive dest : String) (w : World Bool) :
    Ends (marking archive dest) w fun _ v => Lasts P w v := by
  refine Ends.get ?_
  split
  · exact createDirectories_lasts hP
  · exact (Lasts.refl w).quiet ⟨rfl, rfl, rfl⟩

def trialRound : Round Bool where
  meanwhile := id
  acquirer :=
    { fetch := storing (.data [])
      extract := marking
      runner := fun _ _ => return .error ""
      platform := .linux
      buildDir := "build"
      downloadEnabled := true
      policy := .none }

theorem steady_trialRound (dir : String) (f : Feature) : trialRound.Steady dir f where
  posix := rfl
  opened := rfl
  stays _ := rfl
  leavesMarker _ h := h
  leavesArchive _ h := h
  stores w := (storing_ends _ f.release.url (archivePath dir f) w).mono fun _ _ h => h.2
  fetchLasts w := (storing_ends _ f.release.url (archivePath dir f) w).mono fun _ _ h =>
    h.1 _ fun _ _ hg _ => hg.keeps.isDir
  extractLasts w :=
    ⟨marking_ends (fun _ _ hg => hg.keeps.isDir) (archivePath dir f) dir w,
      marking_ends (fun _ _ hg => hg.isFile) (archivePath dir f) dir w⟩

theorem work_not_repeated_trial :
    let dir : InstallDir := ⟨"llvm", .cache⟩
    let reports := history dir .llvm14 (List.replicate 4 trialRound) (.fresh ["home"] "" false)
    (reports.map fun r => r.calls.map fun
      | .fetch _ _ ok => ("fetch", ok)
      | .extract _ _ ok => ("extract", ok)) =
        [[("fetch", true), ("extract", false)], [("extract", true)], [], []] ∧
    (reports.Pairwise fun a b => a.Fetched → ¬ b.Fetches) ∧
    (∀ r ∈ reports, r.start.isDir (markerPath dir.path) = true → r.Idle) := by
  intro dir reports
  have hsteady : ∀ x ∈ List.replicate 4 trialRound, x.Steady dir.path .llvm14 :=
    fun x hx => List.eq_of_mem_replicate hx ▸ steady_trialRound _ _
  have h := work_not_repeated rfl hsteady (.fresh ["home"] "" false)
  exact ⟨by decide +kernel, h.1, h.2.2.1⟩

end Trial
end Provision
