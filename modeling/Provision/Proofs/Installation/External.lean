import Provision.Proofs.Installation.Configured

namespace Provision

open PathText Provision.Action

variable {σ : Type} {w v : World σ} {c : Config} {s : Services σ} {p : String} {t : Toolchain}
  {b : Binding} {j : Journal σ} {es : List (Errand σ)}

namespace Binding

theorem writeFile_rewrites {text : String} : Ends (writeFile p text) w fun _ v =>
    ∀ m, Disk.Same w.disk v.disk m ∨ Disk.Rewritten w.disk v.disk w.cwd p m := by
  refine Ends.bind (Ends.step (Runs.changeWith ?_ ?_))
  · exact fun d id hd => Ends.changeDisk (Disk.same_or_rewritten hd _)
  · exact fun _ _ m => .inl (.refl _ m)

theorem write_writes {buildDir : String} : Ends (b.write buildDir) w fun _ v =>
    Disk.Writes w.disk v.disk w.cwd (configPath buildDir) := by
  refine Ends.bind ((createParents_stays.and createParents_makes).mono ?_)
  rintro (e | ⟨⟩) u ⟨hstays, hmakes⟩
  · exact Disk.writes_of_parts hmakes (.refl _) fun m => .inl (.refl _ m)
  refine Ends.bind ((writeFile_ends.and writeFile_rewrites).mono ?_)
  rintro (e | ⟨⟩) v ⟨⟨-, hgrows, -⟩, hrewrites⟩
  · exact Disk.writes_of_parts hmakes hgrows (hstays.cwd ▸ hrewrites)
  · exact Ends.pure (Disk.writes_of_parts hmakes hgrows (hstays.cwd ▸ hrewrites))

end Binding

theorem Probe.save_writes {buildDir : String} : Ends (save buildDir t b) w fun _ v =>
    Disk.Writes w.disk v.disk w.cwd (Binding.configPath buildDir) := by
  refine Ends.bind (Binding.write_writes.mono ?_)
  rintro (e | path) v hv
  · exact hv
  · exact Ends.tell hv

theorem Probe.find_rests (h : w.Rests v) (bin : String) : find bin v = find bin w := by
  simp only [find, World.isFile, h.disk, h.cwd]

namespace InstallDir

variable (external : c.externalDir = some p)
include external

theorem resolve_missing (h : w.isDir p = false) : resolve c w = .error (.missingExternalDir p) := by
  simp only [resolve, external, h]
  rfl

theorem resolve_external (h : w.isDir p = true) :
    ∃ q, w.absolute? p = some q ∧ resolve c w = .ok ⟨q, .external⟩ := by
  obtain ⟨X, hu, -⟩ := Disk.isDir_iff.1 h
  have hq : absolute? w.cwd.text p = some _ := absolute?_eq hu.ne_empty
  refine ⟨_, hq, ?_⟩
  simp only [resolve, external, h, ↓reduceIte, absolute, World.absolute?, hq]
  rfl

end InstallDir

theorem Provided.missed {r : Except Failure InstallDir} {f : Failure} (h : Provided c w es r v)
    (unresolved : InstallDir.resolve c w = .error f) : es = [] ∧ r = .error f ∧ v = w := by
  cases h with
  | unresolved unresolved' =>
    cases unresolved.symm.trans unresolved'
    exact ⟨rfl, rfl, rfl⟩
  | external resolved => cases unresolved.symm.trans resolved
  | failed resolved => cases unresolved.symm.trans resolved
  | acquired resolved => cases unresolved.symm.trans resolved

theorem Prepared.missed {r : Except Failure (Toolchain × Binding)} {f : Failure}
    (h : Prepared c w es r v) (unresolved : InstallDir.resolve c w = .error f) :
    es = [] ∧ r = .error f ∧ v = w := by
  cases h with
  | unprovided provided =>
    obtain ⟨rfl, hr, rfl⟩ := provided.missed unresolved
    cases hr
    exact ⟨rfl, rfl, rfl⟩
  | inquired provided => cases (provided.missed unresolved).2.1

theorem Provided.external_or_own {r : Except Failure InstallDir} {dir : InstallDir}
    (h : Provided c w es r v) (resolved : InstallDir.resolve c w = .ok dir) :
    dir.isExternal = true ∧ es = [] ∧ r = .ok dir ∧ Trail w [] v ∨
      dir.isExternal = false ∧ Trail (w.prepared dir.path) es v := by
  cases h with
  | unresolved unresolved => cases resolved.symm.trans unresolved
  | external resolved' external trail =>
    obtain rfl := Except.ok.inj (resolved.symm.trans resolved')
    exact .inl ⟨external, rfl, rfl, trail⟩
  | failed resolved' own trail =>
    obtain rfl := Except.ok.inj (resolved.symm.trans resolved')
    exact .inr ⟨own, trail⟩
  | acquired resolved' own opened trail =>
    obtain rfl := Except.ok.inj (resolved.symm.trans resolved')
    exact .inr ⟨own, trail⟩

theorem Provided.taken {r : Except Failure InstallDir} {dir : InstallDir} (h : Provided c w es r v)
    (resolved : InstallDir.resolve c w = .ok dir) (external : dir.isExternal = true) :
    es = [] ∧ r = .ok dir ∧ w.Rests v := by
  obtain ⟨-, rfl, rfl, trail⟩ | ⟨own, -⟩ := h.external_or_own resolved
  · exact ⟨rfl, rfl, trail.rests⟩
  · simp [external] at own

def lastDisk (w : World σ) (es : List (Errand σ)) : Disk :=
  (es.getLast?.map (·.after.disk)).getD w.disk

theorem Inquiry.once {dir : String} {r : Except Failure (Toolchain × Binding)}
    (h : Inquiry dir w es r v) :
    (∀ e ∈ es, es = [e] ∧ w.Rests e.before ∧
      ∃ probe, Probe.find (join dir "bin") w = .ok probe ∧ e.Asks probe) ∧
    ((∀ e ∈ es, ∀ major, ¬ e.Tells major) → ∃ f, r = .error f) ∧ v.disk = lastDisk w es := by
  cases h with
  | unfound found trail => exact ⟨by simp, fun _ => ⟨_, rfl⟩, trail.rests.disk⟩
  | @refused probe e _ _ found asked before after untold =>
    refine ⟨?_, fun _ => ⟨_, rfl⟩, after.rests.disk⟩
    simpa using ⟨before.rests, probe, found, asked⟩
  | @answered probe version value major e _ found asked before after told absolute =>
    refine ⟨?_, fun untold => absurd told (untold e (by simp) major), after.rests.disk⟩
    simpa using ⟨before.rests, probe, found, asked⟩

theorem Prepared.once {dir : InstallDir} {r : Except Failure (Toolchain × Binding)}
    (h : Prepared c w es r v) (resolved : InstallDir.resolve c w = .ok dir)
    (external : dir.isExternal = true) :
    (∀ e ∈ es, es = [e] ∧ e.before.disk = w.disk ∧
      ∃ probe, Probe.find (join dir.path "bin") w = .ok probe ∧ e.Asks probe) ∧
    ((∀ e ∈ es, ∀ major, ¬ e.Tells major) → ∃ f, r = .error f) ∧ v.disk = lastDisk w es := by
  cases h with
  | unprovided provided =>
    obtain ⟨-, hr, -⟩ := provided.taken resolved external
    cases hr
  | @inquired dir' es ds u _ _ provided inquiry =>
    obtain ⟨rfl, hdir, hu⟩ := provided.taken resolved external
    obtain rfl := Except.ok.inj hdir
    obtain ⟨hasked, huntold, hv⟩ := inquiry.once
    refine ⟨fun e he => ?_, huntold, ?_⟩
    · obtain ⟨rfl, hbefore, hprobe⟩ := hasked e he
      rw [Probe.find_rests hu] at hprobe
      exact ⟨rfl, hbefore.disk.trans hu.disk, hprobe⟩
    · rw [hv, List.nil_append, lastDisk, lastDisk, hu.disk]

theorem Installed.writes (h : Installed s c w j) : ∃ r u, Prepared c w j.errands r u ∧
    (∀ f, r = .error f → j.outcome = .error f ∧ j.finish = u) ∧
    Disk.Writes u.disk j.finish.disk j.finish.cwd (Binding.configPath c.buildDir) := by
  cases h with
  | unprepared preparing prepared =>
    refine ⟨_, _, prepared, ?_, .refl _ _ _⟩
    rintro _ ⟨⟩
    exact ⟨rfl, rfl⟩
  | unsaved preparing prepared saving =>
    have hwrites := Probe.save_writes.of_run saving
    have hstays := (Probe.save_ends.of_run saving).1
    exact ⟨_, _, prepared, fun _ h => (by cases h), hstays.cwd ▸ hwrites⟩
  | saved preparing prepared saving =>
    have hwrites := Probe.save_writes.of_run saving
    have hstays := (Probe.save_ends.of_run saving).1
    exact ⟨_, _, prepared, fun _ h => (by cases h), hstays.cwd ▸ hwrites⟩

/-- An external installation is never acquired into. At most its probe is asked, once, and all that
is changed besides is the configuration, after the probe has told its version. -/
theorem external_kept (external : c.externalDir = some p) (hj : journal s c w = j) :
    (w.isDir p = false →
      j.outcome = .error (.missingExternalDir p) ∧ j.errands = [] ∧ j.finish = w) ∧
    (w.isDir p = true → ∃ dir, w.absolute? p = some dir ∧
      (∀ e ∈ j.errands, j.errands = [e] ∧ e.before.disk = w.disk ∧
        ∃ probe, Probe.find (join dir "bin") w = .ok probe ∧ e.Asks probe) ∧
      ((∀ e ∈ j.errands, ∀ major, ¬ e.Tells major) →
        (∃ f, j.outcome = .error f) ∧ j.finish.disk = lastDisk w j.errands) ∧
      Disk.Writes (lastDisk w j.errands) j.finish.disk j.finish.cwd
        (Binding.configPath c.buildDir)) := by
  obtain ⟨r, u, prepared, hfailed, hwrites⟩ := (hj ▸ installed_journal s c w).writes
  constructor
  · intro hdir
    obtain ⟨hnone, hr, rfl⟩ := prepared.missed (InstallDir.resolve_missing external hdir)
    obtain ⟨hout, hfinish⟩ := hfailed _ hr
    exact ⟨hout, hnone, hfinish⟩
  · intro hdir
    obtain ⟨dir, habs, resolved⟩ := InstallDir.resolve_external external hdir
    obtain ⟨hasked, huntold, hu⟩ := prepared.once resolved rfl
    refine ⟨dir, habs, hasked, fun untold => ?_, hu ▸ hwrites⟩
    obtain ⟨f, hf⟩ := huntold untold
    obtain ⟨hout, rfl⟩ := hfailed f hf
    exact ⟨⟨f, hout⟩, hu⟩

section Trial

def borrowing (dir : String) : Config :=
  { smallConfig with externalDir := some dir, defaultRoot := some "root", operation := some .build }

theorem external_kept_small :
    let gone := journal (smallServices "14.0.6\n") (borrowing "nowhere") smallWorld
    let kept := journal (smallServices "14.0.6\n") (borrowing "llvm") smallWorld
    (gone.outcome = .error (.missingExternalDir "nowhere") ∧ gone.errands = [] ∧
      gone.finish = smallWorld) ∧
    kept.outcome = .ok ⟨"LLVM_SYS_140_PREFIX", "/home/llvm"⟩ ∧
    ∃ e, kept.errands = [e] ∧ e.Asks "/home/llvm/bin/llvm-config" ∧
      e.before.disk = smallWorld.disk ∧
      Disk.Writes e.after.disk kept.finish.disk kept.finish.cwd "build/.cargo/config.toml" := by
  intro gone kept
  have hgone := (external_kept (c := borrowing "nowhere") rfl (j := gone) rfl).1 (by decide +kernel)
  obtain ⟨dir, hdir, hasked, -, hwrites⟩ :=
    (external_kept (c := borrowing "llvm") rfl (j := kept) rfl).2 (by decide +kernel)
  obtain ⟨hok, hlength, hprobe, hpath⟩ :
      kept.outcome = .ok ⟨"LLVM_SYS_140_PREFIX", "/home/llvm"⟩ ∧ kept.errands.length = 1 ∧
      (∀ e ∈ kept.errands, e.Asks "/home/llvm/bin/llvm-config") ∧
      Binding.configPath "build" = "build/.cargo/config.toml" := by
    decide +kernel
  obtain ⟨e, he⟩ := List.length_eq_one_iff.1 hlength
  have hmem : e ∈ kept.errands := by simp [he]
  refine ⟨hgone, hok, e, he, hprobe e hmem, (hasked e hmem).2.1, ?_⟩
  rw [he] at hwrites
  exact hpath ▸ hwrites

end Trial

end Provision
