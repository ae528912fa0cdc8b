import Provision.Proofs.Installation.ReadBack
import Provision.Proofs.Installation.Survey

namespace Provision

open PathText Provision.Action

variable {σ : Type} {w : World σ} {c : Config} {s : Services σ} {b : Binding}

/-- An installation that has succeeded is confirmed by a survey where it has ended, whatever has
been fetched, unpacked or built: it is complete, the probe tells the version that has been bound, and
the binding is read as it is. -/
theorem survey_confirms {r : Runner σ} {j : Journal σ} {y : Survey σ}
    (first : journal s c w = j) (second : survey r c j.finish = y) (ok : j.outcome = .ok b)
    (here : ∀ s ∈ w.cwd, IsSegment s)
    (legible : j.finish.disk.Legible j.finish.cwd (Binding.configPath c.buildDir))
    (stays : ∀ e ∈ j.errands ++ y.errands, e.before.Stays e.after)
    (quiet : ∀ e ∈ j.errands ++ y.errands, e.IsQuestion → e.after.disk = e.before.disk)
    (same : ∀ e ∈ j.errands, e.IsQuestion → ∀ e' ∈ y.errands, e'.IsQuestion → e'.said = e.said) :
    ∃ report t, y.outcome = .ok report ∧ report.state = .complete ∧
      report.toolchain = some (.ok t) ∧ (Binding.ofMajor t.major report.dir.path).key = b.key ∧
      report.configured = some b ∧ report.dir.path = b.value := by
  have hjournal := first ▸ installed_journal s c w
  obtain ⟨dir, major, value, rfl, hstays, resolved, -, ⟨probe, found⟩, absolute, saved, e, he, hasks,
    htells⟩ := hjournal.leaves ok (fun e he => stays e (List.mem_append_left _ he))
      fun e he => quiet e (List.mem_append_left _ he)
  have hcomplete : CacheState.inspect j.finish dir.path c.feature.release.archiveName = .complete :=
    Acquirer.inspect_eq_complete_iff.2 (Probe.isDir_of_find found)
  obtain ⟨q, probed, hreport⟩ := (second ▸ surveyed_survey r c j.finish).complete resolved hcomplete
  obtain ⟨t, rfl, ht⟩ := probed.answers ⟨probe, found⟩ fun e' he' =>
    htells.of_said (same e he hasks e' he' (probed.questions e' he'))
  -- Asking changes nothing, and so the configuration is read as the installation has left it.
  have hrests : j.finish.Rests y.finish :=
    probed.trail.keeps composes_rests (fun _ _ => ⟨⟨rfl, rfl⟩, rfl⟩) fun e he =>
      ⟨stays e (List.mem_append_right _ he),
        quiet e (List.mem_append_right _ he) (probed.questions e he)⟩
  have hlegible : y.finish.disk.Legible y.finish.cwd (Binding.configPath c.buildDir) := by
    rw [hrests.disk, hrests.cwd]
    exact legible
  obtain ⟨hread, hfinish⟩ := (saved.rests hrests).read hlegible (Binding.isBareKey_ofMajor major value)
    (Binding.isKey_ofMajor major value)
  obtain ⟨⟨p, hp⟩, -⟩ := InstallDir.resolve_eq_ok resolved
  have hhere : ∀ s ∈ j.finish.cwd, IsSegment s := by rwa [hstays.cwd]
  have hvalue : j.finish.absolute? dir.path = some dir.path := absolute?_absolute? hhere hp
  obtain rfl : dir.path = value := Option.some.inj (hvalue.symm.trans absolute)
  exact ⟨_, t, hreport _ (Prod.ext hread hfinish), rfl, rfl, by rw [ht], rfl, rfl⟩

section Trial

def guardedWorld (mode : Nat) : World Unit :=
  { smallWorld with disk := smallWorld.disk.setFile 1 ⟨mode, .data [0]⟩ }

theorem survey_confirms_small :
    let j := journal (smallServices "14.0.6\n") smallConfig (guardedWorld 0o600)
    let y := survey (smallServices "14.0.6\n").runner smallConfig j.finish
    j.outcome = .ok ⟨"LLVM_SYS_140_PREFIX", "/home/llvm"⟩ ∧
      ∃ report t, y.outcome = .ok report ∧ report.state = .complete ∧
        report.toolchain = some (.ok t) ∧
        (Binding.ofMajor t.major report.dir.path).key = "LLVM_SYS_140_PREFIX" ∧
        report.configured = some ⟨"LLVM_SYS_140_PREFIX", "/home/llvm"⟩ ∧
        report.dir.path = "/home/llvm" := by
  intro j y
  obtain ⟨hok, hj, hy, hlegible⟩ :
      j.outcome = .ok ⟨"LLVM_SYS_140_PREFIX", "/home/llvm"⟩ ∧
      (∀ e ∈ j.errands, e.isCalm = true) ∧ (∀ e ∈ y.errands, e.isCalm = true) ∧
      j.finish.disk.Legible j.finish.cwd (Binding.configPath "build") := by
    decide +kernel
  have hcalm : ∀ e ∈ j.errands ++ y.errands, e.isCalm = true := fun e he =>
    (List.mem_append.1 he).elim (hj e) (hy e)
  have hcwd : (guardedWorld 0o600).cwd = segments "home" := by decide +kernel
  exact ⟨hok, survey_confirms (j := j) (y := y) rfl rfl hok (hcwd ▸ fun s => isSegment_of_mem)
    hlegible (fun e he => Errand.stays_of_calm (hcalm e he))
    (fun e he hq => (Errand.said_of_calm (hcalm e he) hq).1)
    fun e he hq e' he' hq' => (Errand.said_of_calm (hy e' he') hq').2.trans
      (Errand.said_of_calm (hj e he) hq).2.symm⟩

/-- A configuration that may be written and not read keeps its permissions, and then no report is
given. -/
theorem not_survey_confirms_locked : ¬ ∀ (c : Config) (w : World Unit) (b : Binding),
    let j := journal (smallServices "14.0.6\n") c w
    j.outcome = .ok b →
      (∀ dir D l, InstallDir.resolve c w = .ok dir → j.finish.Points dir.path D →
        j.finish.Points (Binding.configPath c.buildDir) l → ¬ D <:+ l) →
      ∃ report, (survey (smallServices "14.0.6\n").runner c j.finish).outcome = .ok report := by
  intro h
  have hlocked := h smallConfig (guardedWorld 0o200) ⟨"LLVM_SYS_140_PREFIX", "/home/llvm"⟩
  obtain ⟨hok, hdir, hplace, hconfig, herror⟩ :
      let j := journal (smallServices "14.0.6\n") smallConfig (guardedWorld 0o200)
      j.outcome = .ok ⟨"LLVM_SYS_140_PREFIX", "/home/llvm"⟩ ∧
      InstallDir.resolve smallConfig (guardedWorld 0o200) = .ok ⟨"/home/llvm", .cache⟩ ∧
      (∀ f, (j.finish.disk.locate j.finish.cwd f "/home/llvm").map (·.location) = .ok ["llvm", "home"]) ∧
      (∀ f, (j.finish.disk.locate j.finish.cwd f (Binding.configPath smallConfig.buildDir)).map
        (·.location) = .ok ["config.toml", ".cargo", "build", "home"]) ∧
      (survey (smallServices "14.0.6\n").runner smallConfig j.finish).outcome.isOk = false := by
    decide +kernel
  obtain ⟨report, hreport⟩ := hlocked hok fun dir D l hresolve hD hl => by
    cases hdir.symm.trans hresolve
    obtain ⟨f, n, hD⟩ := hD
    obtain ⟨g, m, hl⟩ := hl
    obtain rfl : D = ["llvm", "home"] := by simpa [hD, Except.map] using hplace f
    obtain rfl : l = ["config.toml", ".cargo", "build", "home"] := by
      simpa [hl, Except.map] using hconfig g
    decide
  rw [hreport] at herror
  cases herror

end Trial
end Provision
