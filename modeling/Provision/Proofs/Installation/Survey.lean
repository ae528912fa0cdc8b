import Provision.Proofs.Installation.Idempotence
import Provision.Status

namespace Provision

open Provision.Action

variable {σ τ α : Type} {w v : World σ} {c : Config} {buildDir : String}

theorem Binding.read_mimics {m : World σ → World τ} (hm : Likeness m) (buildDir : String) :
    Mimics m (read buildDir).run (read buildDir).run := by
  refine .look fun w => ?_
  rw [hm.isFile]
  refine .ite (.seq (.step _ (.ask hm _)) fun content => ?_) (.pure _)
  cases content.text? with
  | none => exact fun _ => rfl
  | some s =>
    simp only
    cases ofText? s with
    | none => exact fun _ => rfl
    | some b => exact .pure _

theorem Binding.read_leaves : Ends (read buildDir) w fun _ v => v = w := by
  refine Ends.get ?_
  split
  · refine Ends.bind (Ends.step (Runs.ask ?_))
    cases w.disk.read w.cwd (configPath buildDir) with
    | error e => rfl
    | ok content =>
      simp only
      split
      · exact Ends.throw rfl
      · split
        · exact Ends.throw rfl
        · exact Ends.pure rfl
  · exact Ends.pure rfl

theorem Binding.read_ran (buildDir : String) (w : World σ) (l : List (Errand σ)) :
    Twins (read buildDir) (read buildDir) w l fun es r v =>
      es = [] ∧ v = w ∧ (read buildDir).run.run w = (r, w) := by
  refine Twins.mimics (read_mimics (World.likeness_logged l) buildDir) (Ends.intro fun r v hv => ?_)
  obtain rfl := read_leaves.of_run hv
  exact ⟨rfl, rfl, hv⟩

theorem StatusReport.attempt_run (x : Action σ α) (w : World σ) :
    (some <$> attempt x).run.run w = (.ok (some (x.run.run w).1), (x.run.run w).2) := rfl

theorem Action.Twins.attempt {x : Action (Logged σ) α} {y : Action σ α}
    {Q : List (Errand σ) → Except Failure (Option (Except Failure α)) → World σ → Prop}
    (h : Twins x y w l fun es r v => Q es (.ok (some r)) v) :
    Twins (some <$> StatusReport.attempt x) (some <$> StatusReport.attempt y) w l Q := by
  obtain ⟨es, r, v, hx, hy, h⟩ := h
  exact ⟨es, .ok (some r), v, by rw [StatusReport.attempt_run, hx],
    by rw [StatusReport.attempt_run, hy], h⟩

namespace Probed

variable {dir : String} {es : List (Errand σ)} {r : Except Failure Toolchain} {t : Toolchain}

theorem questions (h : Probed dir w es r v) : ∀ e ∈ es, e.IsQuestion := by
  cases h with
  | unfound found trail => simp
  | refused found asked before after untold => simpa using ⟨_, asked⟩
  | answered found asked before after told => simpa using ⟨_, asked⟩

theorem answers {major : UInt32} (h : Probed dir w es r v)
    (found : ∃ probe, Probe.find (PathText.join dir "bin") w = .ok probe)
    (tells : ∀ e ∈ es, e.Tells major) : ∃ t, r = .ok t ∧ t.major = major := by
  obtain ⟨probe, found⟩ := found
  cases h with
  | unfound unfound trail => cases found.symm.trans unfound
  | refused found asked before after untold => exact absurd (tells _ (by simp)) (untold major)
  | answered found asked before after told => exact ⟨_, rfl, told.unique (tells _ (by simp))⟩

theorem told (h : Probed dir w es (.ok t) v) :
    (∃ probe, Probe.find (PathText.join dir "bin") w = .ok probe) ∧ ∃ e ∈ es, e.Tells t.major := by
  cases h with
  | answered found asked before after told => exact ⟨⟨_, found⟩, _, by simp, told⟩

end Probed

inductive Looked (c : Config) (dir : String) (w : World σ) :
    List (Errand σ) → Option (Except Failure Toolchain) → World σ → Prop where
  | vacant (state : CacheState.inspect w dir c.feature.release.archiveName ≠ .complete) :
    Looked c dir w [] none w
  | complete {es : List (Errand σ)} {r : Except Failure Toolchain} {v : World σ}
      (state : CacheState.inspect w dir c.feature.release.archiveName = .complete)
      (probed : Probed dir w es r v) : Looked c dir w es (some r) v

inductive Surveyed (c : Config) (w : World σ) :
    List (Errand σ) → Except Failure StatusReport → World σ → Prop where
  | unresolved {f : Failure} (resolved : InstallDir.resolve c w = .error f) :
    Surveyed c w [] (.error f) w
  | unread {dir : InstallDir} {es : List (Errand σ)} {o : Option (Except Failure Toolchain)}
      {f : Failure} {v : World σ} (resolved : InstallDir.resolve c w = .ok dir)
      (looked : Looked c dir.path w es o v)
      (reading : (Binding.read c.buildDir).run.run v = (.error f, v)) : Surveyed c w es (.error f) v
  | gathered {dir : InstallDir} {es : List (Errand σ)} {o : Option (Except Failure Toolchain)}
      {b : Option Binding} {v : World σ} (resolved : InstallDir.resolve c w = .ok dir)
      (looked : Looked c dir.path w es o v)
      (reading : (Binding.read c.buildDir).run.run v = (.ok b, v)) :
    Surveyed c w es (.ok ⟨c.feature, dir,
      CacheState.inspect w dir.path c.feature.release.archiveName, c.downloadEnabled, o, b⟩) v

theorem Looked.of_complete {dir : String} {es : List (Errand σ)}
    {o : Option (Except Failure Toolchain)} (h : Looked c dir w es o v)
    (hstate : CacheState.inspect w dir c.feature.release.archiveName = .complete) :
    ∃ r, o = some r ∧ Probed dir w es r v := by
  cases h with
  | vacant state => exact absurd hstate state
  | complete state probed => exact ⟨_, rfl, probed⟩

theorem Surveyed.complete {dir : InstallDir} {es : List (Errand σ)} {q : Except Failure StatusReport}
    (h : Surveyed c w es q v) (resolved : InstallDir.resolve c w = .ok dir)
    (hstate : CacheState.inspect w dir.path c.feature.release.archiveName = .complete) :
    ∃ r, Probed dir.path w es r v ∧ ∀ b, (Binding.read c.buildDir).run.run v = (.ok b, v) →
      q = .ok ⟨c.feature, dir, .complete, c.downloadEnabled, some r, b⟩ := by
  cases h with
  | unresolved unresolved => cases resolved.symm.trans unresolved
  | unread resolved' looked reading =>
    obtain rfl := Except.ok.inj (resolved'.symm.trans resolved)
    obtain ⟨r, rfl, probed⟩ := looked.of_complete hstate
    exact ⟨r, probed, fun b hb => by cases reading.symm.trans hb⟩
  | gathered resolved' looked reading =>
    obtain rfl := Except.ok.inj (resolved'.symm.trans resolved)
    obtain ⟨r, rfl, probed⟩ := looked.of_complete hstate
    refine ⟨r, probed, fun b hb => ?_⟩
    cases reading.symm.trans hb
    rw [hstate]

theorem StatusReport.gather_ran (r : Runner σ) (c : Config) (w : World σ) (l : List (Errand σ)) :
    Twins (gather r.logged c) (gather r c) w l (Surveyed c w) := by
  refine Twins.get (Twins.bind (Twins.ofExcept (r := InstallDir.resolve c w) rfl rfl ?_))
  cases resolved : InstallDir.resolve c w with
  | error f => exact .unresolved resolved
  | ok dir =>
    let state := CacheState.inspect w dir.path c.feature.release.archiveName
    let report (o : Option (Except Failure Toolchain)) (b : Option Binding) : StatusReport :=
      ⟨c.feature, dir, state, c.downloadEnabled, o, b⟩
    have hread : ∀ {es o v} {l : List (Errand σ)}, Looked c dir.path w es o v →
        Twins (do return report o (← Binding.read c.buildDir))
          (do return report o (← Binding.read c.buildDir)) v l fun ds => Surveyed c w (es ++ ds) := by
      intro es o v l looked
      refine Twins.bind ((Binding.read_ran c.buildDir v l).mono ?_)
      rintro ds b u ⟨rfl, rfl, reading⟩
      rw [← es.append_nil] at looked
      cases b with
      | error f => exact .unread resolved looked reading
      | ok b => exact Twins.pure (.gathered resolved looked reading)
    refine Twins.get ?_
    by_cases hc : state = .complete
    · refine Twins.pos hc hc (Twins.bind (Twins.attempt ((Probe.run_ran r dir.path w _).mono ?_)))
      exact fun es r v probed => hread (.complete hc probed)
    · exact Twins.neg hc hc (Twins.bind (Twins.pure (hread (.vacant hc))))

structure Survey (σ : Type) where
  outcome : Except Failure StatusReport
  errands : List (Errand σ)
  finish : World σ

def survey (r : Runner σ) (c : Config) (w : World σ) : Survey σ where
  outcome := ((StatusReport.gather r c).run.run w).1
  errands := ((StatusReport.gather r.logged c).run.run (w.logged [])).2.outside.errands.reverse
  finish := ((StatusReport.gather r c).run.run w).2

theorem surveyed_survey (r : Runner σ) (c : Config) (w : World σ) :
    Surveyed c w (survey r c w).errands (survey r c w).outcome (survey r c w).finish :=
  (StatusReport.gather_ran r c w []).seen

end Provision
