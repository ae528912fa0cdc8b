import Provision.Proofs.Installation.Idempotence
import Provision.Proofs.Path.Absolute
import Provision.Proofs.World.Footprint

namespace Provision

open PathText Provision.Action

variable {σ : Type} {w v : World σ} {c : Config} {s : Services σ} {p : String} {b : Binding}
  {d d' : Disk} {cwd C : Location}

namespace Disk

def SameBelow (d d' : Disk) (C : Location) : Prop := ∀ m, C <:+ m → Same d d' m

/-- A path passes through a place, or ends there, or goes on below it. -/
def Crosses (d : Disk) (cwd : Location) (p : String) (C : Location) : Prop :=
  ∃ q ∈ lineage (p.length + 1) p, ∃ X k, d.Rooted cwd q X k ∧ C <:+ X

def reachesBelow (d : Disk) (X : Location) (ws : List String) (C : Location) : Bool :=
  match d.reach maxLinks X ws with
  | .ok (Y, _) => C.isSuffixOf Y
  | .error _ => false

theorem reachesBelow_iff {X : Location} {ws : List String} :
    d.reachesBelow X ws C = true ↔ ∃ Y k, d.reach maxLinks X ws = .ok (Y, k) ∧ C <:+ Y := by
  rw [reachesBelow]
  cases d.reach maxLinks X ws with
  | error e => simp
  | ok Z => obtain ⟨Z, k⟩ := Z; simp

instance : Decidable (d.Crosses cwd p C) :=
  decidable_of_iff
    ((lineage (p.length + 1) p).any fun q => d.reachesBelow (origin cwd q) (segments q) C)
    (by simp [Crosses, Rooted, reachesBelow_iff])

/-- A path leads to a file that holds just that. -/
def Contains (d : Disk) (cwd : Location) (p : String) (c : Content) : Prop :=
  ∃ l id mode, d.locate cwd true p = .ok ⟨l, some (.file id)⟩ ∧ d.files.get? id = some ⟨mode, c⟩

theorem Wrote.contains {c : Content} (h : d.Wrote cwd p c) : d.Contains cwd p c := by
  obtain ⟨e, l, id, mode, rfl, -, hl⟩ := h
  exact ⟨l, id, mode, hl, by simp [get?_setFile]⟩

end Disk

/-- A place to which a path leads, whether a link at its end is followed or not. -/
def World.Points (w : World σ) (p : String) (C : Location) : Prop :=
  ∃ f n, w.disk.locate w.cwd f p = .ok ⟨C, n⟩

theorem World.prepared_sameBelow (h : ¬ (w.prepared p).disk.Crosses w.cwd p C) :
    Disk.SameBelow w.disk (w.prepared p).disk C := by
  intro m hm
  obtain hsame | hmade := w.paves_prepared p m
  · exact hsame
  · obtain ⟨q, hq, k, hk⟩ := hmade.passed
    exact absurd ⟨q, hq, m, k, hk, hm⟩ h

theorem Prepared.sameBelow {es : List (Errand σ)} {r : Except Failure (Toolchain × Binding)}
    (h : Prepared c w es r v)
    (hdir : ∀ dir, InstallDir.resolve c w = .ok dir → dir.isExternal = false →
      ¬ (w.prepared dir.path).disk.Crosses w.cwd dir.path C)
    (he : ∀ e ∈ es, Disk.SameBelow e.before.disk e.after.disk C) :
    Disk.SameBelow w.disk v.disk C := by
  refine h.keeps (R := fun w v => Disk.SameBelow w.disk v.disk C)
    ⟨fun w m _ => .refl _ _, fun h h' m hm => (h m hm).trans (h' m hm)⟩
    (fun w e m _ => .refl _ _) ?_ he
  exact fun dir resolved own => World.prepared_sameBelow (hdir dir resolved own)

def Journal.CargoAt (j : Journal σ) (w : World σ) (buildDir : String) (C : Location) : Prop :=
  w.Points (join buildDir ".cargo") C ∨ j.finish.Points (join buildDir ".cargo") C

theorem configText_ofMajor (major : UInt32) (dir : String) :
    (Binding.ofMajor major dir).configText =
      "[env]\nLLVM_SYS_" ++ toString major.toNat ++ "0_PREFIX = " ++ Toml.Quoted.text dir ++
        "\n" := by
  apply String.toList_injective
  simp [Binding.configText, Binding.ofMajor, Binding.keyStart, Binding.keyEnd]

namespace InstallDir

theorem isAbsolute_resolve {dir : InstallDir} (h : resolve c w = .ok dir) :
    isAbsolute dir.path = true := by
  obtain ⟨⟨p, hp⟩, -⟩ := resolve_eq_ok h
  exact isAbsolute_absolute? hp

theorem absolute?_resolve {dir : InstallDir} (here : ∀ s ∈ w.cwd, IsSegment s)
    (h : resolve c w = .ok dir) (cwd : String) : absolute? cwd dir.path = some dir.path := by
  obtain ⟨⟨p, hp⟩, -⟩ := resolve_eq_ok h
  exact absolute?_absolute? here hp

end InstallDir

theorem Prepared.bound {es : List (Errand σ)} {t : Toolchain} (here : ∀ s ∈ w.cwd, IsSegment s)
    (h : Prepared c w es (.ok (t, b)) v) : ∃ dir probe e major,
      InstallDir.resolve c w = .ok dir ∧ es.getLast? = some e ∧ e.Asks probe ∧ e.Tells major ∧
      b = .ofMajor major dir.path := by
  cases h with
  | @inquired dir _ _ _ _ _ provided inquiry =>
    cases inquiry with
    | @answered probe version value major e _ found asked before after told absolute =>
      have hvalue := InstallDir.absolute?_resolve here provided.resolved v.cwd.text
      obtain rfl : dir.path = value := Option.some.inj (hvalue.symm.trans absolute)
      exact ⟨dir, probe, e, major, provided.resolved, by simp, asked, told, rfl⟩

/-- The configuration is written when everything else has been done, and not before: where something
before it fails, its directory is as it was. -/
theorem configured_last {j : Journal σ} (hj : journal s c w = j) (here : ∀ s ∈ w.cwd, IsSegment s)
    (apart : ∀ dir, InstallDir.resolve c w = .ok dir → dir.isExternal = false →
      ∀ C, j.CargoAt w c.buildDir C → ¬ (w.prepared dir.path).disk.Crosses w.cwd dir.path C)
    (untouched : ∀ e ∈ j.errands, ∀ C, j.CargoAt w c.buildDir C →
      Disk.SameBelow e.before.disk e.after.disk C) :
    (∀ f v, (prepare s c).run.run w = (.error f, v) → j.outcome = .error f ∧
      ∀ C, j.CargoAt w c.buildDir C → Disk.SameBelow w.disk j.finish.disk C) ∧
    ∀ b, j.outcome = .ok b → ∃ dir probe e major,
      InstallDir.resolve c w = .ok dir ∧ j.errands.getLast? = some e ∧ e.Asks probe ∧
      e.Tells major ∧ b = .ofMajor major dir.path ∧
      j.finish.disk.Contains j.finish.cwd (Binding.configPath c.buildDir) (.data (Text.bytes
        ("[env]\nLLVM_SYS_" ++ toString major.toNat ++ "0_PREFIX = " ++ Toml.Quoted.text dir.path ++
          "\n"))) := by
  have h := hj ▸ installed_journal s c w
  -- Only the first way is a failure before the write, and only the last one ends well.
  cases h with
  | unprepared preparing prepared =>
    refine ⟨fun f v hf => ?_, by simp⟩
    obtain ⟨hr, -⟩ := Prod.mk.inj (preparing.symm.trans hf)
    obtain rfl := Except.error.inj hr
    exact ⟨rfl, fun C hC => prepared.sameBelow (fun dir hdir own => apart dir hdir own C hC)
      fun e he => untouched e he C hC⟩
  | unsaved preparing prepared saving =>
    refine ⟨fun f v hf => ?_, by simp⟩
    obtain ⟨hr, -⟩ := Prod.mk.inj (preparing.symm.trans hf)
    cases hr
  | saved preparing prepared saving =>
    refine ⟨fun f v hf => ?_, ?_⟩
    · obtain ⟨hr, -⟩ := Prod.mk.inj (preparing.symm.trans hf)
      cases hr
    · rintro b hb
      obtain rfl := Except.ok.inj hb
      obtain ⟨dir, probe, e, major, resolved, hlast, asked, told, rfl⟩ := prepared.bound here
      have hsaved := ((Probe.save_ends.of_run saving).2.2 rfl).file.contains
      rw [configText_ofMajor] at hsaved
      exact ⟨dir, probe, e, major, resolved, hlast, asked, told, rfl, hsaved⟩

section Trial

def smallWorld : World Unit :=
  let bin := ((Disk.ofDirectory ["bin", "llvm", "home"]).addFile
    ["llvm-config", "bin", "llvm", "home"] ⟨0o755, .data [0]⟩).1
  let cargo := (bin.put ["build", "home"] .directory).put [".cargo", "build", "home"] .directory
  { World.fresh ["home"] "" () with
    disk := (cargo.addFile ["config.toml", ".cargo", "build", "home"] ⟨0o644, .data [0]⟩).1 }

def smallCargo : Spot := ⟨[".cargo", "build", "home"], some .directory⟩

def Journal.Calm (j : Journal Unit) : Prop :=
  (∀ e ∈ j.errands, e.after.disk = e.before.disk) ∧
    ∀ f, j.finish.disk.locate j.finish.cwd f "build/.cargo" = .ok smallCargo

instance (j : Journal Unit) : Decidable j.Calm := inferInstanceAs (Decidable (_ ∧ _))

theorem Journal.Calm.cargoAt {j : Journal Unit} (h : j.Calm) (hC : j.CargoAt smallWorld "build" C) :
    C = smallCargo.location := by
  have hw : ∀ f, smallWorld.disk.locate smallWorld.cwd f "build/.cargo" = .ok smallCargo := by
    decide +kernel
  obtain ⟨f, n, hC⟩ | ⟨f, n, hC⟩ := hC
  · exact congrArg Spot.location (Except.ok.inj (hC.symm.trans (hw f)))
  · exact congrArg Spot.location (Except.ok.inj (hC.symm.trans (h.2 f)))

theorem Journal.Calm.untouched {j : Journal Unit} (h : j.Calm) :
    ∀ e ∈ j.errands, Disk.SameBelow e.before.disk e.after.disk C :=
  fun e he m _ => h.1 e he ▸ .refl _ m

theorem apart_small (hC : C = smallCargo.location) {dir : InstallDir}
    (h : InstallDir.resolve smallConfig smallWorld = .ok dir) :
    ¬ (smallWorld.prepared dir.path).disk.Crosses smallWorld.cwd dir.path C := by
  have hdir : InstallDir.resolve smallConfig smallWorld = .ok ⟨"/home/llvm", .cache⟩ := by
    decide +kernel
  obtain rfl := Except.ok.inj (hdir.symm.trans h)
  subst hC
  decide +kernel

theorem configured_last_small :
    let mute := journal (smallServices "") smallConfig smallWorld
    let newer := journal (smallServices "15.0.1\n") smallConfig smallWorld
    mute.outcome = .error (.versionUnreadable "") ∧
      Disk.SameBelow smallWorld.disk mute.finish.disk smallCargo.location ∧
      newer.outcome = .ok ⟨"LLVM_SYS_150_PREFIX", "/home/llvm"⟩ ∧
      newer.finish.disk.Contains newer.finish.cwd "build/.cargo/config.toml"
        (.data (Text.bytes "[env]\nLLVM_SYS_150_PREFIX = \"/home/llvm\"\n")) := by
  intro mute newer
  obtain ⟨hmute, hbad, hplace⟩ : mute.Calm ∧
      ((prepare (smallServices "") smallConfig).run.run smallWorld).1 =
        .error (.versionUnreadable "") ∧
      smallWorld.disk.locate smallWorld.cwd true "build/.cargo" = .ok smallCargo := by
    decide +kernel
  obtain ⟨hnewer, hok, hpath, htext⟩ : newer.Calm ∧
      newer.outcome = .ok ⟨"LLVM_SYS_150_PREFIX", "/home/llvm"⟩ ∧
      Binding.configPath smallConfig.buildDir = "build/.cargo/config.toml" ∧
      Binding.configText ⟨"LLVM_SYS_150_PREFIX", "/home/llvm"⟩ =
        "[env]\nLLVM_SYS_150_PREFIX = \"/home/llvm\"\n" := by
    decide +kernel
  have hcwd : smallWorld.cwd = segments "home" := by decide +kernel
  have here : ∀ s ∈ smallWorld.cwd, IsSegment s := hcwd ▸ fun s => isSegment_of_mem
  obtain ⟨hmuted, -⟩ := configured_last (j := mute) rfl here
    (fun dir h _ C hC => apart_small (hmute.cargoAt hC) h) (fun e he C _ => hmute.untouched e he)
  obtain ⟨-, hnew⟩ := configured_last (j := newer) rfl here
    (fun dir h _ C hC => apart_small (hnewer.cargoAt hC) h) (fun e he C _ => hnewer.untouched e he)
  obtain ⟨hfailed, hsame⟩ := hmuted (.versionUnreadable "")
    ((prepare (smallServices "") smallConfig).run.run smallWorld).2 (Prod.ext hbad rfl)
  obtain ⟨dir, probe, e, major, -, -, -, -, hb, hfile⟩ := hnew _ hok
  rw [← configText_ofMajor, ← hb, hpath, htext] at hfile
  exact ⟨hfailed, hsame _ (.inl ⟨true, smallCargo.node, hplace⟩), hok, hfile⟩

end Trial

end Provision
