import Provision.Proofs.Acquisition.Marker

/-!
Runs for several versions in one directory. An archive is named for its version, but the marker is
not: a directory keeps the programs of the first version that has been unpacked into it, and every
later run takes them for its own.
-/

namespace Provision

open PathText World Provision.Action

/-- What is seen at a place. Two disks may number their files differently. -/
inductive Sight where
  | directory
  | file (g : Option FileData)
  | symlink (target : String)
  deriving DecidableEq, Repr

variable {σ : Type} {w v : World σ} {dir : InstallDir} {f : Feature} {a : Acquirer σ}
  {ps : Location → Option Sight}

def Disk.sightAt (d : Disk) (l : Location) : Option Sight :=
  (d.nodeAt l).map fun
    | .directory => .directory
    | .file id => .file (d.files.get? id)
    | .symlink t => .symlink t

def World.programs (w : World σ) (dir : String) : Option (Location → Option Sight) :=
  match w.disk.locate w.cwd true (markerPath dir) with
  | .ok ⟨X, some .directory⟩ => some fun l => w.disk.sightAt (l ++ X)
  | _ => none

theorem World.isDir_of_programs {dir : String} (h : w.programs dir = some ps) :
    w.isDir (markerPath dir) = true := by
  simp only [programs] at h
  split at h
  · exact Disk.isDir_iff.2 ⟨_, Disk.locate_eq_directory_iff.1 ‹_›⟩
  · cases h

theorem World.Quiet.programs (h : w.Quiet v) (dir : String) : v.programs dir = w.programs dir := by
  rw [World.programs, World.programs, h.disk, h.cwd]

def succession (dir : InstallDir) : List (Feature × Acquirer σ) → World σ → List (Feature × Report σ)
  | [], _ => []
  | (f, a) :: xs, w => (f, a.report dir f w) :: succession dir xs (a.report dir f w).finish

def Call.ok : Call → Bool
  | .fetch _ _ ok => ok
  | .extract _ _ ok => ok

namespace Report

/-- Every call has succeeded, and to unpack an archive has brought these programs. -/
structure Supplied (dir : String) (ps : Location → Option Sight) (r : Report σ) : Prop where
  calls : ∀ c ∈ r.calls, c.ok = true
  programs : r.unpacked dir = true → r.finish.programs dir = some ps

variable (programs : Feature → Location → Option Sight)

/-- Whoever has been told that all is well finds the programs of the version asked for. -/
def Faithful (dir : String) (rs : List (Feature × Report σ)) : Prop :=
  ∀ x ∈ rs, x.2.outcome.isOk = true → x.2.finish.programs dir = some (programs x.1)

/-- All that have been told so have asked for versions with the same programs. -/
def Uniform (rs : List (Feature × Report σ)) : Prop :=
  ∀ x ∈ rs, ∀ y ∈ rs, x.2.outcome.isOk = true → y.2.outcome.isOk = true →
    programs x.1 = programs y.1

def first? (rs : List (Feature × Report σ)) : Option Feature :=
  (rs.find? (·.2.outcome.isOk)).map (·.1)

end Report

theorem Acquisition.isOk_map {α : Type} (r : Except Failure α) (o : Acquisition) :
    (r.map fun _ => o).isOk = r.isOk := by
  cases r <;> rfl

namespace Acquirer

variable (own : dir.isExternal = false)
include own

theorem report_closed (closed : a.downloadEnabled = false) (w : World σ) :
    ∃ e, a.report dir f w = ⟨w, .error e, [], w.prepared dir.path⟩ := by
  have h : Ends (a.watched.acquire dir f .download) (w.watched []) fun r v =>
      ∃ e, (⟨w, r, v.outside.calls.reverse, v.bare⟩ : Report σ) =
        ⟨w, .error e, [], w.prepared dir.path⟩ := by
    have hclosed : (!a.watched.downloadEnabled) = true := by simp [watched, closed]
    simp only [acquire, own, Bool.false_eq_true, ↓reduceIte]
    refine Ends.bind (Ends.intro fun r v hr => ?_)
    rw [createDirectories_watched] at hr
    obtain ⟨-, rfl⟩ := Prod.mk.inj hr
    cases r with
    | error e => exact ⟨e, rfl⟩
    | ok =>
      simp only [download, hclosed, ↓reduceIte]
      exact Ends.bind (Ends.throw ⟨.downloadDisabled, rfl⟩)
  exact h

theorem programs_report (hw : w.programs dir.path = some ps) :
    (a.report dir f w).finish.programs dir.path = some ps := by
  have marked := isDir_of_programs hw
  cases hopen : a.downloadEnabled with
  | false =>
    obtain ⟨e, he⟩ := report_closed (f := f) own hopen w
    rw [he, (prepared_of_isDir (isDir_of_marked marked)).2, hw]
  | true =>
    have hidle := (a.ran_report (f := f) own hopen w).idle marked
    rw [hidle.quiet.programs]
    exact hw

theorem report_supplied (made : ((createDirectories dir.path).run.run w).1 = .ok ())
    (unmarked : (w.prepared dir.path).isDir (markerPath dir.path) = false)
    (supplied : (a.report dir f w).Supplied dir.path ps) :
    ((a.report dir f w).outcome.isOk = false ∧ (w.prepared dir.path).Quiet (a.report dir f w).finish) ∨
      ((a.report dir f w).outcome.isOk = true ∧
        (a.report dir f w).finish.programs dir.path = some ps) := by
  cases hopen : a.downloadEnabled with
  | false =>
    obtain ⟨e, he⟩ := report_closed (f := f) own hopen w
    rw [he]
    exact .inl ⟨rfl, .refl _⟩
  | true =>
    have hran := a.ran_report (f := f) own hopen w
    have hstart : (a.report dir f w).start = w := rfl
    obtain ⟨r, hr⟩ : ∃ r, a.report dir f w = r := ⟨_, rfl⟩
    rw [hr] at hran supplied hstart ⊢
    obtain ⟨hcalls, hprograms⟩ := supplied
    cases hran with
    | unmade making =>
      subst hstart
      cases making.symm.trans made
    | made making course =>
      subst hstart
      cases course
      case complete marked quiet => simp [unmarked] at marked
      case unstaged windows unmarked quiet => exact .inl ⟨rfl, quiet⟩
      case unfetched posix unmarked missing quiet fetching => simp [Call.ok] at hcalls
      -- Wherever the archive comes from, its last call is the one that unpacks it.
      case staged | reused | fetched =>
        simp only [List.mem_cons, List.not_mem_nil, or_false, forall_eq_or_imp, forall_eq, Call.ok,
          true_and] at hcalls
        refine .inr ⟨by rw [Acquisition.isOk_map, hcalls], hprograms ?_⟩
        simp [Report.unpacked, Call.unpacked, hcalls]

end Acquirer

section Succession

variable {runs : List (Feature × Acquirer σ)} {programs : Feature → Location → Option Sight}
  (own : dir.isExternal = false)
include own

theorem programs_of_mem_succession (hw : w.programs dir.path = some ps) :
    ∀ x ∈ succession dir runs w, x.2.finish.programs dir.path = some ps := by
  induction runs generalizing w with
  | nil => simp [succession]
  | cons y ys ih =>
    obtain ⟨f, a⟩ := y
    have hy : (a.report dir f w).finish.programs dir.path = some ps := a.programs_report own hw
    simp only [succession, List.mem_cons, forall_eq_or_imp]
    exact ⟨hy, ih hy⟩

theorem first?_of_mem_succession (made : ((createDirectories dir.path).run.run w).1 = .ok ())
    (unmarked : (w.prepared dir.path).isDir (markerPath dir.path) = false)
    (supplied : ∀ x ∈ succession dir runs w, x.2.Supplied dir.path (programs x.1)) :
    ∀ x ∈ succession dir runs w, x.2.outcome.isOk = true →
      ∃ f, Report.first? (succession dir runs w) = some f ∧
        x.2.finish.programs dir.path = some (programs f) := by
  induction runs generalizing w with
  | nil => simp [succession]
  | cons y ys ih =>
    obtain ⟨f, a⟩ := y
    simp only [succession, List.mem_cons, forall_eq_or_imp] at supplied ⊢
    obtain ⟨hfailed, hquiet⟩ | ⟨hok, hprograms⟩ :=
      a.report_supplied own made unmarked supplied.1
    · -- Nothing has happened but that the directory is there, and the next run starts as this one.
      have hdir : dir.path = "" ∨ (w.prepared dir.path).isDir dir.path = true := by
        have h : Ends (createDirectories dir.path) w fun r v =>
            r = .ok () → dir.path = "" ∨ v.isDir dir.path = true := by
          refine (createDirectories_run (composes_lasts fun _ => True) ?_).mono ?_
          · exact fun _ _ _ _ _ => .changed id
          · rintro r v ⟨-, hr⟩ rfl
            exact hr
        obtain ⟨v, hv⟩ := exists_run made
        have hprepared : w.prepared dir.path = v := congrArg Prod.snd hv
        exact hprepared ▸ h.of_run hv rfl
      rw [← hquiet.isDir] at hdir
      obtain ⟨hmade, hprepared⟩ := prepared_of_isDir hdir
      have hnext := ih hmade (by rw [hprepared, hquiet.isDir, unmarked]) supplied.2
      refine ⟨by simp [hfailed], fun x hx hok => ?_⟩
      simpa [Report.first?, hfailed] using hnext x hx hok
    · have hfirst : Report.first? ((f, a.report dir f w) ::
          succession dir ys (a.report dir f w).finish) = some f := by simp [Report.first?, hok]
      refine ⟨fun _ => ⟨f, hfirst, hprograms⟩, fun x hx _ => ⟨f, hfirst, ?_⟩⟩
      exact programs_of_mem_succession own hprograms x hx

end Succession

theorem Report.exists_first? {rs : List (Feature × Report σ)} (h : first? rs = some f) :
    ∃ x ∈ rs, x.1 = f ∧ x.2.outcome.isOk = true := by
  obtain ⟨x, hx, rfl⟩ := Option.map_eq_some_iff.1 h
  have hok := List.find?_some (p := fun x : Feature × Report σ => x.2.outcome.isOk) hx
  exact ⟨x, List.mem_of_find?_eq_some hx, rfl, hok⟩

/-- Every run that ends well leaves the programs of the version for which the first one did. So the
runs are faithful exactly where they have all asked for the same programs. -/
theorem faithful_iff_uniform {runs : List (Feature × Acquirer σ)} {rs : List (Feature × Report σ)}
    {programs : Feature → Location → Option Sight} (hrs : succession dir runs w = rs)
    (own : dir.isExternal = false) (made : ((createDirectories dir.path).run.run w).1 = .ok ())
    (unmarked : (w.prepared dir.path).isDir (markerPath dir.path) = false)
    (supplied : ∀ x ∈ rs, x.2.Supplied dir.path (programs x.1)) :
    (∀ x ∈ rs, x.2.outcome.isOk = true → ∃ f, Report.first? rs = some f ∧
      x.2.finish.programs dir.path = some (programs f)) ∧
    (Report.Faithful programs dir.path rs ↔ Report.Uniform programs rs) := by
  subst hrs
  have hfirst := first?_of_mem_succession own made unmarked supplied
  refine ⟨hfirst, fun h x hx y hy hxok hyok => ?_, fun h x hx hxok => ?_⟩
  · obtain ⟨f, hf, hxf⟩ := hfirst x hx hxok
    obtain ⟨g, hg, hyg⟩ := hfirst y hy hyok
    obtain rfl : f = g := Option.some.inj (hf.symm.trans hg)
    have hx' : programs x.1 = programs f := Option.some.inj ((h x hx hxok).symm.trans hxf)
    have hy' : programs y.1 = programs f := Option.some.inj ((h y hy hyok).symm.trans hyg)
    exact hx'.trans hy'.symm
  · obtain ⟨f, hf, hxf⟩ := hfirst x hx hxok
    obtain ⟨y, hy, rfl, hyok⟩ := Report.exists_first? hf
    rw [hxf, h x hx y hy hxok hyok]

section Trial

def smallRelease (f : Feature) : Content := .tarball ⟨.xz, [[.entry
  ⟨"top/bin/llvm-config", .regular, 0o755, Text.bytes f.tag, "", true, none, false⟩]]⟩

def depot (f : Feature) : Feature × Acquirer Unit := (f, (storingRound (smallRelease f)).acquirer)

def alone (f : Feature) : Location → Option Sight :=
  ((((depot f).2.report ⟨"llvm", .cache⟩ f (.fresh ["home"] "" ())).finish.programs "llvm").getD
    fun _ => none)

def twoVersions : List (Feature × Report Unit) :=
  succession ⟨"llvm", .cache⟩ [depot .llvm13, depot .llvm14] (.fresh ["home"] "" ())

theorem seen_twoVersions : twoVersions.map
    (fun x => (x.1, x.2.outcome, x.2.calls.all Call.ok, x.2.unpacked "llvm")) =
      [(.llvm13, .ok (.extracted true), true, true),
        (.llvm14, .ok .alreadyInstalled, true, false)] := by
  decide +kernel

theorem ok_of_mem_twoVersions : ∀ x ∈ twoVersions,
    x.2.outcome.isOk = true ∧ x.2.calls.all Call.ok = true := by
  intro x hx
  have hseen := List.mem_map_of_mem
    (f := fun x => (x.1, x.2.outcome, x.2.calls.all Call.ok, x.2.unpacked "llvm")) hx
  simp only [seen_twoVersions, List.mem_cons, Prod.mk.injEq, List.not_mem_nil, or_false] at hseen
  obtain ⟨-, ho, hc, -⟩ | ⟨-, ho, hc, -⟩ := hseen
  · exact ⟨ho ▸ rfl, hc⟩
  · exact ⟨ho ▸ rfl, hc⟩

theorem first?_twoVersions : Report.first? twoVersions = some .llvm13 := by
  have hfirst (rs : List (Feature × Report Unit)) : Report.first? rs = ((rs.map fun x =>
      (x.1, x.2.outcome, x.2.calls.all Call.ok, x.2.unpacked "llvm")).find? (·.2.1.isOk)).map
        (·.1) := by
    simp [Report.first?, List.find?_map, Function.comp_def]
  rw [hfirst, seen_twoVersions]
  rfl

theorem supplied_twoVersions : ∀ x ∈ twoVersions, x.2.Supplied "llvm" (alone x.1) := by
  have hidle : twoVersions.tail.map (·.2.unpacked "llvm") = [false] := by
    simpa [← List.map_tail, Function.comp_def] using
      congrArg (fun l => l.tail.map (·.2.2.2)) seen_twoVersions
  have hsome : (((depot .llvm13).2.report ⟨"llvm", .cache⟩ .llvm13
      (.fresh ["home"] "" ())).finish.programs "llvm").isSome = true := by
    decide +kernel
  intro x hx
  refine ⟨List.all_eq_true.1 (ok_of_mem_twoVersions x hx).2, fun hunpacked => ?_⟩
  obtain rfl | hx := List.mem_cons.1 hx
  · obtain ⟨ps, hps⟩ := Option.isSome_iff_exists.1 hsome
    have halone : alone .llvm13 = ps := by rw [alone, hps]; rfl
    exact halone ▸ hps
  · have hx : x ∈ twoVersions.tail := hx
    have hnone := List.mem_map_of_mem (f := (·.2.unpacked "llvm")) hx
    rw [hidle, List.mem_singleton] at hnone
    simp [hnone] at hunpacked

theorem faithful_iff_uniform_two :
    twoVersions.map (fun x => (x.1, x.2.outcome)) =
      [(.llvm13, .ok (.extracted true)), (.llvm14, .ok .alreadyInstalled)] ∧
    (∀ x ∈ twoVersions, x.2.finish.programs "llvm" = some (alone .llvm13)) ∧
    (Report.Faithful alone "llvm" twoVersions ↔ Report.Uniform alone twoVersions) := by
  have hout : twoVersions.map (fun x => (x.1, x.2.outcome)) =
      [(.llvm13, .ok (.extracted true)), (.llvm14, .ok .alreadyInstalled)] := by
    simpa [Function.comp_def] using congrArg (List.map fun x => (x.1, x.2.1)) seen_twoVersions
  have htwo : succession ⟨"llvm", .cache⟩ [depot .llvm13, depot .llvm14] (.fresh ["home"] "" ()) =
      twoVersions := rfl
  obtain ⟨hall, hiff⟩ := faithful_iff_uniform htwo rfl (by decide +kernel) (by decide +kernel)
    supplied_twoVersions
  refine ⟨hout, fun x hx => ?_, hiff⟩
  obtain ⟨f, hf, hprograms⟩ := hall x hx (ok_of_mem_twoVersions x hx).1
  obtain rfl := Option.some.inj (first?_twoVersions.symm.trans hf)
  exact hprograms

/-- A directory in which one version has been installed is taken for an installation of another. -/
theorem not_faithful_two :
    ¬ ∀ (versions : List Feature) (w : World Unit) (rs : List (Feature × Report Unit)),
      succession ⟨"llvm", .cache⟩ (versions.map depot) w = rs →
      w.disk = .ofDirectory w.cwd → (∀ x ∈ rs, x.2.Supplied "llvm" (alone x.1)) →
        Report.Faithful alone "llvm" rs := by
  intro h
  have hfaithful := h [.llvm13, .llvm14] (.fresh ["home"] "" ()) twoVersions rfl rfl
    supplied_twoVersions
  obtain ⟨x, hx, h14⟩ : ∃ x ∈ twoVersions, x.1 = .llvm14 :=
    ⟨_, List.mem_cons_of_mem _ (List.mem_singleton.2 rfl), rfl⟩
  have hok := (ok_of_mem_twoVersions x hx).1
  obtain ⟨f, hf, hprograms⟩ := first?_of_mem_succession rfl (by decide +kernel) (by decide +kernel)
    supplied_twoVersions x hx hok
  obtain rfl := Option.some.inj (first?_twoVersions.symm.trans hf)
  have hsame : alone .llvm13 = alone .llvm14 :=
    Option.some.inj (hprograms.symm.trans (h14 ▸ hfaithful x hx hok))
  have hdiffer : alone .llvm13 ["llvm-config"] ≠ alone .llvm14 ["llvm-config"] := by
    decide +kernel
  exact hdiffer (congrFun hsame _)

end Trial
end Provision
