import Provision.CommandLine
import Provision.Proofs.Installation.External
import Provision.Proofs.Installation.Late
import Provision.Proofs.Installation.Survey

namespace Provision

open PathText Failure Provision.Action

variable {σ α : Type} {w u v : World σ} {c : Config} {s : Services σ} {l : List (Errand σ)}
  {es : List (Errand σ)} {dir : InstallDir} {f : Failure}

/-- Neither fetching nor unpacking fails with what should have been found out early. -/
structure Services.Late (s : Services σ) : Prop where
  fetcher : ∀ policy url dest, Fails Failure.Late (s.fetcher policy url dest)
  extractor : ∀ archive dest, Fails Failure.Late (s.extractor archive dest)

theorem Action.Twins.fails {x : Action (Logged σ) α} {y : Action σ α} {P : Failure → Prop}
    {Q : List (Errand σ) → Except Failure α → World σ → Prop} (h : Twins x y w l Q)
    (hy : Fails P y) : Twins x y w l fun es r v => Q es r v ∧ ∀ f, r = .error f → P f := by
  obtain ⟨es, r, v, hx, hr, hQ⟩ := h
  exact ⟨es, r, v, hx, hr, hQ, (hy w).of_run hr⟩

/-- What has failed from there has failed late, or for want of an archive and before anything was
done. -/
def Stopped (w : World σ) (es : List (Errand σ)) (r : Except Failure α) (v : World σ) : Prop :=
  ∀ f, r = .error f → f.Late ∨ f.core.isUnfounded = false ∧ es = [] ∧ w.Rests v

theorem Action.Logs.stopped {x : Action (Logged σ) α} {y : Action σ α} (h : Logs x y)
    (hy : Fails Late y) : Twins x y w l (Stopped u) :=
  ((h w l).fails hy).mono fun _ _ _ hr f hf => .inl (hr.2 f hf)

namespace Acquirer

variable (hs : s.Late) {d : String} {t : Feature}
include hs

theorem unpackStaged_stopped (hu : u.Rests w) :
    Twins ((s.logged.acquirer c).unpackStaged d t) ((s.acquirer c).unpackStaged d t) w l
      (Stopped u) := by
  refine Twins.get ?_
  by_cases hfile : w.isFile ((s.acquirer c).stagedPath t) = true
  · refine Twins.pos hfile hfile ?_
    refine Logs.stopped (.bind (.log _ _) fun _ => .pure _) ?_
    exact .bind (hs.extractor _ _) fun _ => .pure _
  · refine Twins.neg hfile hfile (Twins.throw ?_)
    rintro _ ⟨⟩
    exact .inr ⟨rfl, rfl, hu⟩

theorem late_unpackRelease (state : CacheState) :
    Fails Late ((s.acquirer c).unpackRelease d t state) := by
  simp only [unpackRelease]
  split
  · refine .bind (.during (fun f => Late.during _) (hs.fetcher _ _ _)) fun _ => ?_
    exact .bind (hs.extractor _ _) fun _ => .pure _
  · exact .bind (.tell _ _ _) fun _ => .bind (hs.extractor _ _) fun _ => .pure _

omit hs in
theorem late_build : Fails Late ((s.acquirer c).build d t) := by
  refine .bind (.tell _ _ _) fun _ => .bind (.during (fun f => Late.during _) ?_) fun _ => .pure _
  exact Runner.late_attempt _ _ _ _ _ _

theorem download_stopped (hu : u.Rests w) :
    Twins ((s.logged.acquirer c).download d t) ((s.acquirer c).download d t) w l (Stopped u) := by
  cases hopen : c.downloadEnabled with
  | false =>
    have hclosed : (!c.downloadEnabled) = true := by simp [hopen]
    refine Twins.pos hclosed hclosed (Twins.bind (Twins.throw ?_))
    rintro _ ⟨⟩
    exact .inr ⟨rfl, rfl, hu⟩
  | true =>
    have hclosed : ¬ (!c.downloadEnabled) = true := by simp [hopen]
    have htold : ∀ e, u.Rests (w.told e) := fun e => ⟨⟨hu.cwd, hu.home⟩, hu.disk⟩
    refine Twins.neg hclosed hclosed (Twins.get (Twins.bind (Twins.tell ?_)))
    by_cases hc : CacheState.inspect w d t.release.archiveName = .complete
    · refine Twins.pos hc hc (Twins.bind (Twins.tell (Twins.pure ?_)))
      exact fun _ h => by cases h
    refine Twins.neg hc hc ?_
    by_cases hw : s.platform.isWindows = true
    · exact Twins.pos hw hw (unpackStaged_stopped hs (htold _))
    · exact Twins.neg hw hw (Logs.stopped (unpackRelease_logs s c d t _) (late_unpackRelease hs _))

theorem acquire_stopped (own : dir.isExternal = false) (operation : Operation) :
    Twins ((s.logged.acquirer c).acquire dir t operation) ((s.acquirer c).acquire dir t operation)
      w l (Stopped (w.prepared dir.path)) := by
  simp only [acquire, own, Bool.false_eq_true, ↓reduceIte]
  have hmake := createDirectories_mimics (World.likeness_logged l) dir.path
  refine Twins.bind (Twins.mimics hmake (Ends.intro fun r v hr => ?_))
  have hv : w.prepared dir.path = v := congrArg Prod.snd hr
  subst hv
  cases r with
  | error e =>
    -- The directory cannot be made, and perhaps some above it have been: that is late already.
    rintro _ ⟨⟩
    exact .inl ((late_createDirectories dir.path w).of_run hr _ rfl)
  | ok =>
    cases operation with
    | download => exact download_stopped hs ⟨⟨rfl, rfl⟩, rfl⟩
    | build => exact Logs.stopped (build_logs s c dir.path t) late_build

end Acquirer

namespace InstallDir

theorem resolve_eq_error (h : resolve c w = .error f) :
    f.core.isUnfounded = true ∧ f.core.isUnstocked = false := by
  have habs : ∀ {p o}, (absolute w p).map (⟨·, o⟩ : String → InstallDir) = .error f →
      f = .step (.resolvePath p) .emptyPath := by
    intro p o h
    cases hp : w.absolute? p with
    | none => simpa [absolute, hp, Except.map, eq_comm] using h
    | some q => simp [absolute, hp, Except.map] at h
  simp only [resolve] at h
  split at h
  · split at h
    · obtain rfl := habs (o := .external) h
      exact ⟨rfl, rfl⟩
    · cases h
      exact ⟨rfl, rfl⟩
  · obtain rfl := habs (o := .cache) h
    exact ⟨rfl, rfl⟩
  · obtain rfl := habs (o := .standard) h
    exact ⟨rfl, rfl⟩

end InstallDir

/-- What a failure leaves that is found out early: nothing, or the directory for the toolchain. -/
structure Early (c : Config) (w : World σ) (es : List (Errand σ)) (f : Failure) (v : World σ) :
    Prop where
  unfounded : f.core.isUnfounded = true → es = [] ∧ v = w
  unstocked : f.core.isUnstocked = true → es = [] ∧
    ∃ dir, InstallDir.resolve c w = .ok dir ∧ (w.prepared dir.path).Rests v

theorem Early.of_late (h : f.Late) : Early c w es f v :=
  ⟨fun hf => absurd hf (by simp [h.founded]), fun hf => absurd hf (by simp [h.stocked])⟩

theorem provide_early (hs : s.Late) : Twins (provide s.logged c) (provide s c) w l fun es r v =>
    ∀ f, r = .error f → Early c w es f v := by
  refine Twins.get (Twins.bind (Twins.ofExcept (r := InstallDir.resolve c w) rfl rfl ?_))
  cases resolved : InstallDir.resolve c w with
  | error f =>
    obtain ⟨hunfounded, hstocked⟩ := InstallDir.resolve_eq_error resolved
    rintro _ ⟨⟩
    exact ⟨fun _ => ⟨rfl, rfl⟩, by simp [hstocked]⟩
  | ok dir =>
    refine Twins.bind (Twins.tell (Twins.bind ?_))
    cases hdir : dir.isExternal with
    | true =>
      refine (Acquirer.acquire_external s _ _ _ hdir).mono ?_
      rintro es r v ⟨rfl, rfl, -⟩
      exact Twins.bind (Twins.tell (Twins.pure fun _ h => by cases h))
    | false =>
      refine (Acquirer.acquire_stopped hs hdir _).mono fun es r v hstopped => ?_
      rw [(Likeness.told _).prepared w dir.path] at hstopped
      cases r with
      | ok o => exact Twins.bind (Twins.tell (Twins.pure fun _ h => by cases h))
      | error f =>
        rintro _ ⟨⟩
        obtain hlate | ⟨hfounded, rfl, hv⟩ := hstopped f rfl
        · exact .of_late hlate
        · exact ⟨by simp [hfounded], fun _ => ⟨rfl, dir, resolved, ⟨hv.cwd, hv.home⟩, hv.disk⟩⟩

namespace Probe

theorem late_run (r : Runner σ) (d : String) : Fails Late (run r d) := by
  have hfind : ∀ {w : World σ} {b : String} {e : Failure}, find b w = .error e → e.Late := by
    intro w b e h
    simp only [find] at h
    split at h
    · cases h
      exact ⟨rfl, rfl⟩
    · split at h
      · cases h
      · cases h
        exact ⟨rfl, rfl⟩
  refine .get fun w => .bind (.ofExcept fun e => hfind) fun probe => .bind (.tell _ _ _) fun _ => ?_
  refine .bind (Runner.late_attempt r _ _ _ _ _) fun o => .bind (.ofExcept fun e h => ?_) fun _ =>
    .pure _
  simp only [parseMajor] at h
  split at h
  · cases h
  · cases h
    exact ⟨rfl, rfl⟩

theorem late_bindingFor (r : Runner σ) {d : String} (hd : d ≠ "") :
    Fails Late (bindingFor r d) := by
  refine .bind (late_run r d) fun t => .get fun w => ?_
  simp only [World.absolute?, absolute?_eq hd]
  exact .pure _

theorem late_save (buildDir : String) (t : Toolchain) (b : Binding) :
    Fails (σ := σ) Late (save buildDir t b) := by
  refine .bind (.bind (late_createParents _) fun _ => .bind ?_ fun _ => .pure _) fun _ => .tell _ _ _
  exact .bind (late_step _ _) fun _ => .changeDisk _

end Probe

theorem prepare_early (hs : s.Late) : Twins (prepare s.logged c) (prepare s c) w l fun es r v =>
    ∀ f, r = .error f → Early c w es f v := by
  refine Twins.bind (((provide_ran s c w l).and (provide_early hs)).mono ?_)
  rintro es r v ⟨provided, hearly⟩
  cases r with
  | error e =>
    rintro _ ⟨⟩
    exact hearly e rfl
  | ok dir =>
    have hdir : dir.path ≠ "" := by
      intro h
      simpa [h] using InstallDir.isAbsolute_resolve provided.resolved
    have hinquiry := (Probe.bindingFor_ran s.runner dir.path v (es.reverse ++ l)).fails
      (Probe.late_bindingFor s.runner hdir)
    exact hinquiry.mono fun ds r u hr f hf => .of_late (hr.2 f hf)

theorem install_early (hs : s.Late) : Twins (install s.logged c) (install s c) w l fun es r v =>
    ∀ f, r = .error f → Early c w es f v := by
  refine (install_after (prepare_early hs)).mono ?_
  rintro es r v ⟨installed, t, u, hrun, hearly⟩ f rfl
  cases installed with
  | unprepared preparing prepared =>
    obtain ⟨rfl, rfl⟩ := Prod.mk.inj (preparing.symm.trans hrun)
    exact hearly f rfl
  | unsaved preparing prepared saving =>
    exact .of_late ((Probe.late_save _ _ _ _).of_run saving f rfl)

structure Transcript (σ : Type) where
  outcome : Except Failure Unit
  errands : List (Errand σ)
  finish : World σ

def transcript (s : Services σ) (i : Invocation) (w : World σ) : Transcript σ where
  outcome := ((CommandLine.execute s i).run.run w).1
  errands := ((CommandLine.execute s.logged i).run.run (w.logged [])).2.outside.errands.reverse
  finish := ((CommandLine.execute s i).run.run w).2

theorem Action.Twins.transcript {i : Invocation}
    {Q : List (Errand σ) → Except Failure Unit → World σ → Prop}
    (h : Twins (CommandLine.execute s.logged i) (CommandLine.execute s i) w [] Q) :
    Q (transcript s i w).errands (transcript s i w).outcome (transcript s i w).finish := h.seen

theorem Feature.ofTag?_eq_none {tag : String} :
    ofTag? tag = none ↔ ∀ f : Feature, f.tag ≠ Text.trim tag := by
  have hall : ∀ f, f ∈ all := by
    intro f
    cases f <;> decide
  simp [ofTag?, List.find?_eq_none, hall]

section

variable {buildDir : String} {settings : Settings} {operation : Option Operation}
  {policy : RetryPolicy}

theorem Config.ofSettings_eq_error
    (h : ofSettings buildDir settings operation policy = .error f) :
    ∃ tag, settings.feature = some tag ∧ f = .unsupportedFeature (Text.trim tag) := by
  cases hf : settings.feature with
  | none => simp [ofSettings, featureOf, hf, bind, Except.bind, pure, Except.pure] at h
  | some tag =>
    cases ht : Feature.ofTag? tag with
    | none =>
      simp only [ofSettings, featureOf, hf, ht, bind, Except.bind, Except.error.injEq] at h
      exact ⟨tag, rfl, h.symm⟩
    | some g => simp [ofSettings, featureOf, hf, ht, bind, Except.bind, pure, Except.pure] at h

theorem Config.ofSettings_unsupported {tag : String} (h : settings.feature = some tag)
    (ht : ∀ f : Feature, f.tag ≠ Text.trim tag) :
    ofSettings buildDir settings operation policy = .error (.unsupportedFeature (Text.trim tag)) := by
  simp only [ofSettings, featureOf, h, Feature.ofTag?_eq_none.2 ht]
  rfl

end

theorem execute_install_early (hs : s.Late) (w : World σ) (buildDir : String) (settings : Settings)
    (operation : Option Operation) (policy : RetryPolicy) :
    Twins (CommandLine.execute s.logged (.install buildDir operation policy settings))
      (CommandLine.execute s (.install buildDir operation policy settings)) w l fun es r v =>
      match Config.ofSettings buildDir settings operation policy with
      | .error f => r = .error f ∧ es = [] ∧ v = w
      | .ok c => ∀ f, r = .error f → Early c w es f v := by
  refine Twins.bind (Twins.ofExcept
    (r := Config.ofSettings buildDir settings operation policy) rfl rfl ?_)
  cases Config.ofSettings buildDir settings operation policy with
  | error f => exact ⟨rfl, rfl, rfl⟩
  | ok c =>
    refine Twins.bind ((install_early hs).mono fun es r v hearly => ?_)
    cases r with
    | error f =>
      rintro _ ⟨⟩
      exact hearly f rfl
    | ok b => exact Twins.pure fun _ h => by cases h

/-- A marked installation has its probe asked, and nothing else is done. -/
structure Inspected (w : World σ) (dir : String) (e : Errand σ) (v : World σ) : Prop where
  marked : w.isDir (markerPath dir) = true
  asked : ∃ probe, Probe.find (join dir "bin") w = .ok probe ∧ e.Asks probe
  before : e.before.disk = w.disk
  after : v.disk = e.after.disk

theorem Surveyed.spares {r : Except Failure StatusReport} (h : Surveyed c w es r v)
    (hu : u.disk = v.disk) : es = [] ∧ u.disk = w.disk ∨
      ∃ dir e, InstallDir.resolve c w = .ok dir ∧ es = [e] ∧ Inspected w dir.path e u := by
  have hlooked : ∀ {d o}, Looked c d w es o v →
      es = [] ∧ u.disk = w.disk ∨ ∃ e, es = [e] ∧ Inspected w d e u := by
    intro d o looked
    cases looked with
    | vacant state => exact .inl ⟨rfl, hu⟩
    | complete state probed =>
      have marked := Acquirer.inspect_eq_complete_iff.1 state
      cases probed with
      | unfound found trail => exact .inl ⟨rfl, hu.trans trail.rests.disk⟩
      | refused found asked before after =>
        exact .inr ⟨_, rfl, marked, ⟨_, found, asked⟩, before.rests.disk, hu.trans after.rests.disk⟩
      | answered found asked before after =>
        exact .inr ⟨_, rfl, marked, ⟨_, found, asked⟩, before.rests.disk, hu.trans after.rests.disk⟩
  cases h with
  | unresolved resolved => exact .inl ⟨rfl, hu⟩
  | unread resolved looked => exact (hlooked looked).imp_right fun ⟨e, he⟩ => ⟨_, e, resolved, he⟩
  | gathered resolved looked => exact (hlooked looked).imp_right fun ⟨e, he⟩ => ⟨_, e, resolved, he⟩

theorem execute_status_spares {buildDir : String} {settings : Settings} :
    Twins (CommandLine.execute s.logged (.status buildDir settings))
      (CommandLine.execute s (.status buildDir settings)) w l fun es _ v =>
      es = [] ∧ v.disk = w.disk ∨ ∃ c dir e, Config.ofSettings buildDir settings none .none = .ok c ∧
        InstallDir.resolve c w = .ok dir ∧ es = [e] ∧ Inspected w dir.path e v := by
  refine Twins.bind (Twins.ofExcept (r := Config.ofSettings buildDir settings none .none) rfl rfl ?_)
  cases Config.ofSettings buildDir settings none .none with
  | error f => exact .inl ⟨rfl, rfl⟩
  | ok c =>
    refine Twins.bind ((StatusReport.gather_ran s.runner c w _).mono fun es r v surveyed => ?_)
    cases r with
    | error f =>
      refine (surveyed.spares rfl).imp_right ?_
      exact fun ⟨dir, e, hdir, he⟩ => ⟨c, dir, e, rfl, hdir, he⟩
    | ok report =>
      refine ⟨[], .ok (), v.printed report.text, rfl, rfl, ?_⟩
      simp only [List.nil_append, List.append_nil]
      refine (surveyed.spares (u := v.printed report.text) rfl).imp_right ?_
      exact fun ⟨dir, e, hdir, he⟩ => ⟨c, dir, e, rfl, hdir, he⟩

def Services.online (net : Network σ) (runner : Runner σ) (platform : Platform) : Services σ where
  fetcher := Download.fetch net
  runner := runner
  platform := platform

theorem Services.late_online (net : Network σ) (runner : Runner σ) (platform : Platform) :
    (online net runner platform).Late :=
  ⟨Download.late_fetch net, ArchiveFormat.late_extractor _⟩

/-- A command that fails because of its settings has done nothing at all; one that fails for want of
an archive has made its directory, and nothing else. A survey asks the probe of a marked
installation, and does nothing besides. -/
theorem command_traceless (net : Network σ) (runner : Runner σ) (platform : Platform) (w : World σ)
    (buildDir : String) (settings : Settings) :
    let s := Services.online net runner platform
    (∀ operation policy t, transcript s (.install buildDir operation policy settings) w = t →
      (∀ tag, settings.feature = some tag → (∀ f : Feature, f.tag ≠ Text.trim tag) →
        t.outcome = .error (.unsupportedFeature (Text.trim tag))) ∧
      ∀ f, t.outcome = .error f →
        (f.core.isUnfounded = true → t.errands = [] ∧ t.finish = w) ∧
        (f.core.isUnstocked = true → t.errands = [] ∧
          ∃ c dir, Config.ofSettings buildDir settings operation policy = .ok c ∧
            InstallDir.resolve c w = .ok dir ∧
            Disk.Paves w.disk t.finish.disk w.cwd dir.path)) ∧
    ∀ t, transcript s (.status buildDir settings) w = t →
      t.errands = [] ∧ t.finish.disk = w.disk ∨
        ∃ c dir e, Config.ofSettings buildDir settings none .none = .ok c ∧
          InstallDir.resolve c w = .ok dir ∧ t.errands = [e] ∧
          Inspected w dir.path e t.finish := by
  intro s
  have hs : s.Late := Services.late_online net runner platform
  refine ⟨fun operation policy t ht => ?_, fun t ht => ht ▸ execute_status_spares.transcript⟩
  have hearly := (execute_install_early hs w buildDir settings operation policy).transcript
  rw [ht] at hearly
  cases hc : Config.ofSettings buildDir settings operation policy with
  | error e =>
    obtain ⟨tag, hfeature, rfl⟩ := Config.ofSettings_eq_error hc
    simp only [hc] at hearly
    obtain ⟨houtcome, hnothing⟩ := hearly
    constructor
    · intro tag' hfeature' _
      obtain rfl := Option.some.inj (hfeature.symm.trans hfeature')
      exact houtcome
    · intro f hf
      obtain rfl := Except.error.inj (houtcome.symm.trans hf)
      exact ⟨fun _ => hnothing, fun h => by cases h⟩
  | ok c =>
    simp only [hc] at hearly
    constructor
    · intro tag hfeature hunsupported
      cases hc.symm.trans (Config.ofSettings_unsupported hfeature hunsupported)
    · intro f hf
      obtain ⟨hunfounded, hunstocked⟩ := hearly f hf
      refine ⟨hunfounded, fun h => ?_⟩
      obtain ⟨hnone, dir, hdir, hrests⟩ := hunstocked h
      exact ⟨hnone, c, dir, rfl, hdir, hrests.disk ▸ w.paves_prepared dir.path⟩

section Trial

def smallSettings : Settings where
  feature := none
  externalDir := none
  cacheDir := some "new/llvm"
  defaultRoot := none
  downloadGate := none

def deafNetwork : Network Unit where
  respond _ := return .silence
  draw n := return n

def steadyRunner : Runner Unit := fun _ _ => return .ok ⟨true, "14.0.6\n", ""⟩

theorem command_traceless_small :
    let run platform settings := transcript (.online deafNetwork steadyRunner platform)
      (.install "build" (some .download) .none settings) smallWorld
    let odd := run .linux { smallSettings with feature := some " llvm99-0 " }
    let gone := run .linux { smallSettings with externalDir := some "nowhere" }
    let blank := run .linux { smallSettings with cacheDir := some "" }
    let closed := run .linux smallSettings
    let bare := run .windows { smallSettings with downloadGate := some " true " }
    let shown := transcript (.online deafNetwork steadyRunner .linux)
      (.status "build" { smallSettings with cacheDir := some "llvm" }) smallWorld
    (odd.outcome = .error (.unsupportedFeature "llvm99-0") ∧
      odd.errands = [] ∧ odd.finish = smallWorld) ∧
    (gone.outcome = .error (.missingExternalDir "nowhere") ∧
      gone.errands = [] ∧ gone.finish = smallWorld) ∧
    (blank.outcome = .error (.step (.resolvePath "") .emptyPath) ∧
      blank.errands = [] ∧ blank.finish = smallWorld) ∧
    (closed.outcome = .error .downloadDisabled ∧ closed.errands = [] ∧
      Disk.Paves smallWorld.disk closed.finish.disk smallWorld.cwd "/home/new/llvm") ∧
    (bare.outcome = .error (.missingArchive "build/llvm14-0.zip") ∧ bare.errands = [] ∧
      Disk.Paves smallWorld.disk bare.finish.disk smallWorld.cwd "/home/new/llvm") ∧
    ∃ e, shown.errands = [e] ∧ e.before.disk = smallWorld.disk ∧
      shown.finish.disk = e.after.disk := by
  intro run odd gone blank closed bare shown
  have early (platform : Platform) (settings : Settings) :=
    (command_traceless deafNetwork steadyRunner platform smallWorld "build" settings).1
      (some .download) .none
  have spared := (command_traceless deafNetwork steadyRunner .linux smallWorld "build"
    { smallSettings with cacheDir := some "llvm" }).2 shown rfl
  obtain ⟨hgone, hblank, hclosed, hbare, hshown⟩ :
      gone.outcome = .error (.missingExternalDir "nowhere") ∧
      blank.outcome = .error (.step (.resolvePath "") .emptyPath) ∧
      closed.outcome = .error .downloadDisabled ∧
      bare.outcome = .error (.missingArchive "build/llvm14-0.zip") ∧ shown.errands.length = 1 := by
    decide +kernel
  have hnew : smallWorld.absolute? "new/llvm" = some "/home/new/llvm" := by decide +kernel
  have hpath {gate : Option String} {c : Config} {dir : InstallDir} (hc : Config.ofSettings "build"
      { smallSettings with downloadGate := gate } (some .download) .none = .ok c)
      (hdir : InstallDir.resolve c smallWorld = .ok dir) : dir.path = "/home/new/llvm" := by
    cases hc
    simp only [InstallDir.resolve, InstallDir.absolute, smallSettings, hnew] at hdir
    cases hdir
    rfl
  have hodd := early .linux _ odd rfl
  have hfeature : odd.outcome = .error (.unsupportedFeature "llvm99-0") :=
    hodd.1 " llvm99-0 " rfl fun f => by cases f <;> decide +kernel
  obtain ⟨hclosednone, c, dir, hc, hdir, hclosedpaves⟩ :=
    ((early .linux smallSettings closed rfl).2 _ hclosed).2 rfl
  obtain ⟨hbarenone, c', dir', hc', hdir', hbarepaves⟩ := ((early .windows _ bare rfl).2 _ hbare).2 rfl
  refine ⟨⟨hfeature, (hodd.2 _ hfeature).1 rfl⟩,
    ⟨hgone, ((early .linux _ gone rfl).2 _ hgone).1 rfl⟩,
    ⟨hblank, ((early .linux _ blank rfl).2 _ hblank).1 rfl⟩,
    ⟨hclosed, hclosednone, hpath hc hdir ▸ hclosedpaves⟩,
    ⟨hbare, hbarenone, hpath hc' hdir' ▸ hbarepaves⟩, ?_⟩
  obtain ⟨hnone, -⟩ | ⟨c, dir, e, -, -, he, inspected⟩ := spared
  · simp [hnone] at hshown
  · exact ⟨e, he, inspected.before, inspected.after⟩

end Trial

end Provision
