import Mathlib.Control.Monad.Basic
import Provision.Proofs.Acquisition.Progress
import Provision.Proofs.Installation.Journal
import Provision.Proofs.Installation.Probing

/-!
Installing again. An installation that has succeeded leaves a settled world: its directory is found,
the marker and a probe are there, and so is the configuration. In such a world another installation
does no more than to ask the probe.
-/

namespace Provision

open PathText Provision.Action

variable {σ : Type} {w v : World σ} {c : Config} {s : Services σ} {dir : InstallDir} {major : UInt32}
  {value : String} {b : Binding}

namespace Errand

def IsQuestion (e : Errand σ) : Prop := ∃ probe, e.Asks probe

def said (e : Errand σ) : Option (Bool × String) := e.answer.map fun o => (o.success, o.out)

theorem Tells.unique {e : Errand σ} {n m : UInt32} (h : e.Tells n) (h' : e.Tells m) : n = m := by
  obtain ⟨o, ho, -, hn⟩ := h
  obtain ⟨o', ho', -, hm⟩ := h'
  obtain rfl := Option.some.inj (ho.symm.trans ho')
  exact Option.some.inj (hn.symm.trans hm)

theorem Tells.of_said {e e' : Errand σ} (h : e.Tells major) (hsaid : e'.said = e.said) :
    e'.Tells major := by
  obtain ⟨o, ho, hs, hm⟩ := h
  simp only [said, ho, Option.map_some, Option.map_eq_some_iff, Prod.mk.injEq] at hsaid
  obtain ⟨o', ho', hsuccess, hout⟩ := hsaid
  exact ⟨o', ho', hsuccess.trans hs, by rw [hout, hm]⟩

end Errand

namespace Inquiry

variable {dir : String} {es : List (Errand σ)} {r : Except Failure (Toolchain × Binding)}
  {t : Toolchain}

theorem questions (h : Inquiry dir w es r v) : ∀ e ∈ es, e.IsQuestion := by
  cases h with
  | unfound found trail => simp
  | refused found asked before after untold => simpa using ⟨_, asked⟩
  | answered found asked before after told absolute => simpa using ⟨_, asked⟩

theorem answers (h : Inquiry dir w es r v)
    (found : ∃ probe, Probe.find (join dir "bin") w = .ok probe)
    (tells : ∀ e ∈ es, e.Tells major) (absolute : v.absolute? dir = some value) :
    (∃ t, r = .ok (t, .ofMajor major value)) ∧ ∃ e, es = [e] := by
  obtain ⟨probe, found⟩ := found
  cases h with
  | unfound unfound trail => cases found.symm.trans unfound
  | refused found asked before after untold =>
    exact absurd absolute (untold major value (tells _ (by simp)))
  | answered found asked before after told absolute' =>
    obtain rfl := told.unique (tells _ (by simp))
    obtain rfl := Option.some.inj (absolute'.symm.trans absolute)
    exact ⟨⟨_, rfl⟩, _, rfl⟩

theorem missing (h : Inquiry dir w es r v)
    (hmissing : ∀ probe, Probe.find (join dir "bin") w ≠ .ok probe) :
    r = .error (.probeNotFound (join dir "bin")) := by
  cases h with
  | unfound found trail => rw [Probe.find_eq_error found]
  | refused found => exact absurd found (hmissing _)
  | answered found => exact absurd found (hmissing _)

theorem told (h : Inquiry dir w es (.ok (t, b)) v) :
    (∃ probe, Probe.find (join dir "bin") w = .ok probe) ∧ ∃ e ∈ es, e.Tells t.major := by
  cases h with
  | answered found asked before after told absolute => exact ⟨⟨_, found⟩, _, by simp, told⟩

end Inquiry

/-- A world in which everything is installed and configured. -/
structure Settled (c : Config) (w : World σ) (dir : InstallDir) (major : UInt32) (value : String) :
    Prop where
  resolved : InstallDir.resolve c w = .ok dir
  ready : dir.isExternal = false → c.effectiveOperation = .download ∧ c.downloadEnabled = true ∧
    w.isDir (markerPath dir.path) = true
  found : ∃ probe, Probe.find (join dir.path "bin") w = .ok probe
  absolute : w.absolute? dir.path = some value
  saved : (Binding.ofMajor major value).Saved c.buildDir w

theorem Provided.leads {es : List (Errand σ)} (h : Provided c w es (.ok dir) v)
    (hstays : ∀ e ∈ es, e.before.Stays e.after) :
    w.Stays v ∧ (dir.isExternal = true → v.disk = w.disk) ∧
      (dir.isExternal = false → c.effectiveOperation = .download → c.downloadEnabled = true) := by
  have hw : w.Stays v := h.keeps composes_stays (fun _ _ => ⟨rfl, rfl⟩)
    (fun dir _ _ => createDirectories_stays (w := w) (p := dir.path)) hstays
  cases h with
  | external resolved external trail =>
    exact ⟨hw, fun _ => trail.rests.disk, by simp [external]⟩
  | acquired resolved own opened trail => exact ⟨hw, by simp [own], fun _ => opened⟩

theorem Installed.leaves {j : Journal σ} (h : Installed s c w j) (ok : j.outcome = .ok b)
    (stays : ∀ e ∈ j.errands, e.before.Stays e.after)
    (quiet : ∀ e ∈ j.errands, e.IsQuestion → e.after.disk = e.before.disk) :
    ∃ dir major value, b = .ofMajor major value ∧ w.Stays j.finish ∧
      InstallDir.resolve c j.finish = .ok dir ∧
      (dir.isExternal = false → c.effectiveOperation = .download → c.downloadEnabled = true) ∧
      (∃ probe, Probe.find (join dir.path "bin") j.finish = .ok probe) ∧
      j.finish.absolute? dir.path = some value ∧ b.Saved c.buildDir j.finish ∧
      ∃ e ∈ j.errands, e.IsQuestion ∧ e.Tells major := by
  cases h with
  | unprepared => cases ok
  | unsaved => cases ok
  | @saved es t b' u v text preparing prepared saving =>
    obtain rfl : b' = b := Except.ok.inj ok
    cases prepared with
    | @inquired dir es ds u₁ _ _ provided inquiry =>
      cases inquiry with
      | @answered probe version value major e _ found asked before after told absolute =>
        have hmem : e ∈ es ++ [e] := by simp
        have resolved := provided.resolved
        obtain ⟨hw, hext, hopened⟩ :=
          provided.leads fun d hd => stays d (List.mem_append_left _ hd)
        obtain ⟨hv, hgrows, hsaved⟩ := Probe.save_ends.of_run saving
        -- The probe leaves the disk, and what is written after that is new.
        have hu : u₁.Rests u := by
          have he : e.before.Rests e.after := ⟨stays e hmem, quiet e hmem ⟨probe, asked⟩⟩
          exact composes_rests.trans before.rests (composes_rests.trans he after.rests)
        have hfinish : v.Rests (v.printed text) := ⟨⟨rfl, rfl⟩, rfl⟩
        have hstays : u.Stays (v.printed text) := composes_stays.trans hv hfinish.toStays
        have hall : w.Stays (v.printed text) :=
          composes_stays.trans hw (composes_stays.trans hu.toStays hstays)
        have hgrows₁ : Disk.Grows u₁.disk (v.printed text).disk := hu.disk ▸ hgrows
        have hcwd₁ : (v.printed text).cwd = u₁.cwd := hstays.cwd.trans hu.cwd
        refine ⟨dir, major, value, rfl, hall, ?_, hopened, ?_, ?_, ?_, e, hmem, ⟨probe, asked⟩, told⟩
        · exact InstallDir.resolve_again resolved hall fun h => hext h ▸ hgrows₁
        · exact Probe.find_grows found hcwd₁ hgrows₁
        · rw [hstays.absolute?, absolute]
        · exact (hsaved rfl).rests hfinish

theorem Installed.settled {j : Journal σ} (h : Installed s c w j) (ok : j.outcome = .ok b)
    (mode : c.externalDir.isSome = true ∨ c.effectiveOperation = .download)
    (stays : ∀ e ∈ j.errands, e.before.Stays e.after)
    (quiet : ∀ e ∈ j.errands, e.IsQuestion → e.after.disk = e.before.disk) :
    ∃ dir major value, b = .ofMajor major value ∧ Settled c j.finish dir major value ∧
      ∃ e ∈ j.errands, e.IsQuestion ∧ e.Tells major := by
  obtain ⟨dir, major, value, rfl, -, resolved, hopened, ⟨probe, found⟩, absolute, saved, he⟩ :=
    h.leaves ok stays quiet
  refine ⟨dir, major, value, rfl, ⟨resolved, fun hown => ?_, ⟨probe, found⟩, absolute, saved⟩, he⟩
  have hop : c.effectiveOperation = .download := by
    refine mode.resolve_left fun hsome => ?_
    simp [(InstallDir.resolve_eq_ok resolved).2.2 hsome] at hown
  exact ⟨hop, hopened hown hop, Probe.isDir_of_find found⟩

theorem Acquirer.download_marked (s : Services σ) (f : Feature) (l : List (Errand σ)) {dir : String}
    (opened : c.downloadEnabled = true) (marked : w.isDir (markerPath dir) = true) :
    Twins ((s.logged.acquirer c).download dir f) ((s.acquirer c).download dir f)
      w l fun es r v => es = [] ∧ r = .ok .alreadyInstalled ∧ w.Rests v := by
  have hclosed : ¬ (!c.downloadEnabled) = true := by simp [opened]
  have hcomplete : CacheState.inspect w dir f.release.archiveName = .complete :=
    inspect_eq_complete_iff.2 marked
  refine Twins.neg hclosed hclosed (Twins.get (Twins.bind (Twins.tell ?_)))
  exact Twins.pos hcomplete hcomplete
    (Twins.bind (Twins.tell (Twins.pure ⟨rfl, rfl, ⟨rfl, rfl⟩, rfl⟩)))

theorem Acquirer.acquire_marked (s : Services σ) (f : Feature) (l : List (Errand σ))
    (own : dir.isExternal = false) (opened : c.downloadEnabled = true)
    (marked : w.isDir (markerPath dir.path) = true) :
    Twins ((s.logged.acquirer c).acquire dir f .download) ((s.acquirer c).acquire dir f .download)
      w l fun es r v => es = [] ∧ r = .ok .alreadyInstalled ∧ w.Rests v := by
  have hmake := createDirectories_mimics (World.likeness_logged l) dir.path
  simp only [acquire, own, Bool.false_eq_true, ↓reduceIte]
  refine Twins.bind (Twins.mimics hmake ?_)
  refine (createDirectories_of_isDir (isDir_of_marked marked)).mono ?_
  rintro r v ⟨rfl, rfl⟩
  exact download_marked s f l opened marked

section

variable (resolved : InstallDir.resolve c w = .ok dir)
  (ready : dir.isExternal = false → c.effectiveOperation = .download ∧ c.downloadEnabled = true ∧
    w.isDir (markerPath dir.path) = true)
include resolved ready

theorem provide_ready (s : Services σ) (l : List (Errand σ)) :
    Twins (provide s.logged c) (provide s c) w l fun es r v => es = [] ∧ r = .ok dir ∧ w.Rests v := by
  refine Twins.get (Twins.bind (Twins.ofExcept resolved resolved ?_))
  refine Twins.bind (Twins.tell ?_)
  refine Twins.bind ?_
  cases hdir : dir.isExternal with
  | true =>
    refine (Acquirer.acquire_external s _ _ _ hdir).mono ?_
    rintro es r v ⟨rfl, rfl, htrail⟩
    exact Twins.bind (Twins.tell (Twins.pure ⟨rfl, rfl,
      (Trail.told _ (.trans (.told _ (.refl w)) htrail)).rests⟩))
  | false =>
    obtain ⟨hop, hopened, hmarked⟩ := ready hdir
    rw [hop]
    refine (Acquirer.acquire_marked (w := w.told _) s _ _ hdir hopened hmarked).mono ?_
    rintro es r v ⟨rfl, rfl, hv⟩
    exact Twins.bind (Twins.tell (Twins.pure ⟨rfl, rfl, ⟨hv.cwd, hv.home⟩, hv.disk⟩))

theorem prepare_ready (s : Services σ) (l : List (Errand σ)) :
    Twins (prepare s.logged c) (prepare s c) w l fun es r v =>
      ∃ u, w.Rests u ∧ Inquiry dir.path u es r v := by
  refine Twins.bind ((provide_ready resolved ready s l).mono ?_)
  rintro es r u ⟨rfl, rfl, hu⟩
  exact (Probe.bindingFor_ran s.runner dir.path u _).mono fun _ _ _ inquiry => ⟨u, hu, inquiry⟩

end

theorem prepare_settled (h : Settled c w dir major value) (s : Services σ) (l : List (Errand σ)) :
    Twins (prepare s.logged c) (prepare s c) w l fun es r v =>
      (∀ e ∈ es, e.before.Stays e.after) →
      (∀ e ∈ es, e.IsQuestion → e.after.disk = e.before.disk ∧ e.Tells major) →
      (∃ t, r = .ok (t, .ofMajor major value)) ∧ w.Rests v ∧ ∃ e, es = [e] ∧ e.IsQuestion := by
  refine (prepare_ready h.resolved h.ready s l).mono ?_
  rintro es r v ⟨u, hu, inquiry⟩ stays tells
  have htells : ∀ e ∈ es, e.after.disk = e.before.disk ∧ e.Tells major :=
    fun e he => tells e he (inquiry.questions e he)
  have hv : w.Rests v := composes_rests.trans hu (inquiry.trail.keeps composes_rests
    (fun _ _ => ⟨⟨rfl, rfl⟩, rfl⟩) fun e he => ⟨stays e he, (htells e he).1⟩)
  obtain ⟨probe, hprobe⟩ := h.found
  have hfound := Probe.find_grows hprobe hu.cwd (hu.disk ▸ Disk.Grows.refl _)
  obtain ⟨ht, e, rfl⟩ := inquiry.answers hfound (fun e he => (htells e he).2)
    ((hv.absolute? dir.path).trans h.absolute)
  exact ⟨ht, hv, e, rfl, inquiry.questions e (by simp)⟩

theorem install_settled (h : Settled c w dir major value) (s : Services σ) (l : List (Errand σ)) :
    Twins (install s.logged c) (install s c) w l fun es r v =>
      (∀ e ∈ es, e.before.Stays e.after) →
      (∀ e ∈ es, e.IsQuestion → e.after.disk = e.before.disk ∧ e.Tells major) →
      r = .ok (.ofMajor major value) ∧ w.Rests v ∧ ∃ e, es = [e] ∧ e.IsQuestion := by
  refine (install_after (prepare_settled h s l)).mono ?_
  rintro es r v ⟨installed, r', u, hprepare, hready⟩ stays tells
  obtain ⟨⟨t, rfl⟩, hu, he⟩ := hready stays tells
  have hsaved := h.saved.rests hu
  cases installed with
  | unprepared preparing prepared => cases hprepare.symm.trans preparing
  | unsaved preparing prepared saving =>
    cases hprepare.symm.trans preparing
    cases ((Probe.save_again hsaved).of_run saving).1
  | saved preparing prepared saving =>
    cases hprepare.symm.trans preparing
    -- What has been saved before is saved again, and that changes nothing.
    obtain ⟨-, hv⟩ := (Probe.save_again hsaved).of_run saving
    have hall := composes_rests.trans hu hv
    exact ⟨rfl, ⟨⟨hall.cwd, hall.home⟩, hall.disk⟩, he⟩

/-- Installing again asks the probe once more and changes nothing. It is said of `two`, an
installation with the same configuration where `one` has ended. -/
theorem install_idempotent {s s' : Services σ} {one two : Journal σ}
    (first : journal s c w = one) (second : journal s' c one.finish = two)
    (mode : c.externalDir.isSome = true ∨ c.effectiveOperation = .download)
    (ok : one.outcome = .ok b)
    (stays : ∀ e ∈ one.errands ++ two.errands, e.before.Stays e.after)
    (quiet : ∀ e ∈ one.errands ++ two.errands, e.IsQuestion → e.after.disk = e.before.disk)
    (same : ∀ e ∈ one.errands, e.IsQuestion → ∀ e' ∈ two.errands, e'.IsQuestion → e'.said = e.said) :
    two.outcome = .ok b ∧ two.finish.disk = one.finish.disk ∧
      ∃ e, two.errands = [e] ∧ e.IsQuestion := by
  have hone := first ▸ installed_journal s c w
  obtain ⟨dir, major, value, rfl, hsettled, e, he, hasks, htells⟩ := hone.settled ok mode
    (fun e he => stays e (List.mem_append_left _ he))
    (fun e he => quiet e (List.mem_append_left _ he))
  have htwo := (install_settled hsettled s' []).journal
  rw [second] at htwo
  obtain ⟨hr, hv, hquestion⟩ := htwo (fun e he => stays e (List.mem_append_right _ he))
    fun e' he' hasks' => ⟨quiet e' (List.mem_append_right _ he') hasks',
      htells.of_said (same e he hasks e' he' hasks')⟩
  exact ⟨hr, hv.disk, hquestion⟩

section Trial

def smallServices (answer : String) : Services Unit where
  fetcher _ := storing (.tarball ⟨.xz, [[.entry
    ⟨"top/bin/llvm-config", .regular, 0o755, [0], "", true, none, false⟩]]⟩)
  runner _ _ := return .ok ⟨true, answer, ""⟩
  platform := .linux

def smallConfig : Config where
  buildDir := "build"
  feature := .llvm14
  externalDir := none
  cacheDir := some "llvm"
  defaultRoot := none
  downloadEnabled := true
  operation := none
  retryPolicy := .none

def Errand.isCalm (e : Errand Unit) : Bool :=
  e.after.cwd = e.before.cwd && e.after.home = e.before.home &&
    match e.request with
    | .run _ _ => e.after.disk = e.before.disk && e.said = some (true, "14.0.6\n")
    | _ => true

theorem Errand.stays_of_calm {e : Errand Unit} (h : e.isCalm = true) : e.before.Stays e.after := by
  simp only [isCalm, Bool.and_eq_true, decide_eq_true_eq] at h
  exact ⟨h.1.1, h.1.2⟩

theorem Errand.said_of_calm {e : Errand Unit} (h : e.isCalm = true) (he : e.IsQuestion) :
    e.after.disk = e.before.disk ∧ e.said = some (true, "14.0.6\n") := by
  obtain ⟨probe, hreq⟩ := he
  simp only [Asks] at hreq
  simp only [isCalm, hreq, Bool.and_eq_true, decide_eq_true_eq] at h
  exact h.2

theorem install_idempotent_small :
    let one := journal (smallServices "14.0.6\n") smallConfig (.fresh ["home"] "" ())
    let two := journal (smallServices "14.0.6\n") smallConfig one.finish
    one.errands.length = 3 ∧ two.outcome = .ok ⟨"LLVM_SYS_140_PREFIX", "/home/llvm"⟩ ∧
      two.finish.disk = one.finish.disk ∧ ∃ e, two.errands = [e] ∧ e.IsQuestion := by
  intro one two
  obtain ⟨hlength, hok, hone, htwo⟩ : one.errands.length = 3 ∧
      one.outcome = .ok ⟨"LLVM_SYS_140_PREFIX", "/home/llvm"⟩ ∧
      (∀ e ∈ one.errands, e.isCalm = true) ∧ ∀ e ∈ two.errands, e.isCalm = true := by
    decide +kernel
  have hcalm : ∀ e ∈ one.errands ++ two.errands, e.isCalm = true := by
    intro e he
    exact (List.mem_append.1 he).elim (hone e) (htwo e)
  exact ⟨hlength, install_idempotent rfl rfl (.inr rfl) hok
    (fun e he => Errand.stays_of_calm (hcalm e he))
    (fun e he hq => (Errand.said_of_calm (hcalm e he) hq).1)
    fun e he hq e' he' hq' => (Errand.said_of_calm (htwo e' he') hq').2.trans
      (Errand.said_of_calm (hone e he) hq).2.symm⟩

end Trial
end Provision
