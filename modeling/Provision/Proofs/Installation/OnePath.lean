import Provision.Proofs.Acquisition.History
import Provision.Proofs.Installation.External
import Provision.Proofs.Installation.ReadBack

namespace Provision

open PathText Provision.Action

variable {σ α β : Type} {w v : World σ} {c : Config} {s : Services σ} {l es : List (Errand σ)}
  {dir : InstallDir} {j : Journal σ}

/-- How the directory of an installation is named in what others are asked to do. -/
inductive Request.Names (c : Config) (dir : String) (w : World σ) : Request → Prop where
  | fetch : Names c dir w (.fetch c.feature.release.url (archivePath dir c.feature))
  | unpack : Names c dir w (.extract (archivePath dir c.feature) dir)
  | unpackStaged : Names c dir w (.extract (join c.buildDir c.feature.stagedArchive) dir)
  | build : Names c dir w (.run (buildCommand dir c.feature) (some c.buildDir))
  | probe {probe : String} (found : Probe.find (join dir "bin") w = .ok probe) :
    Names c dir w (.run (Probe.question probe) none)

def Errand.Names (c : Config) (dir : String) (e : Errand σ) : Prop := e.request.Names c dir e.before

namespace Action

def Orders (P : Errand σ → Prop) (x : Action (Logged σ) α) : Prop :=
  ∀ w, (∀ e ∈ w.outside.errands, P e) → Ends x w fun _ v => ∀ e ∈ v.outside.errands, P e

namespace Orders

variable {P : Errand σ → Prop} {x : Action (Logged σ) α}

theorem pure (a : α) : Orders P (Pure.pure a) := fun _ h => Ends.pure h

theorem throw (e : Failure) : Orders P (throwThe Failure e : Action (Logged σ) α) :=
  fun _ h => Ends.throw h

theorem tell (level : Level) (message : String) (fields : List (String × String)) :
    Orders P (Action.tell level message fields) := fun _ h => Ends.tell h

theorem bind {f : α → Action (Logged σ) β} (h : Orders P x) (hf : ∀ a, Orders P (f a)) :
    Orders P (x >>= f) := fun w hw => Ends.seq (h w hw) hf

theorem get {f : World (Logged σ) → Action (Logged σ) β} (hf : ∀ w, Orders P (f w)) :
    Orders P (MonadState.get >>= f) := fun w => hf w w

theorem ite {y : Action (Logged σ) α} {p : Prop} [Decidable p] (h : Orders P x) (h' : Orders P y) :
    Orders P (if p then x else y) := by
  split
  · exact h
  · exact h'

theorem during (s : Stage) (h : Orders P x) : Orders P (Action.during s x) :=
  fun w hw => Ends.during (h w hw)

theorem log {q : Request} {y : Action σ α} (h : ∀ w v, P ⟨q, w, v, none⟩) :
    Orders P (Action.log q y) := fun _ hw => List.forall_mem_cons.2 ⟨h _ _, hw⟩

theorem call {r : Runner σ} {c : Command} {d : Option String}
    (h : ∀ w v a, P ⟨.run c d, w, v, a⟩) : Orders P (ExceptT.lift (r.logged c d)) :=
  fun _ hw => List.forall_mem_cons.2 ⟨h _ _ _, hw⟩

theorem createDirectories (p : String) : Orders P (Action.createDirectories p) := by
  intro w hw
  have hR : Composes (σ := Logged σ) fun w v => v.outside = w.outside :=
    ⟨fun _ => rfl, fun h h' => h'.trans h⟩
  refine (createDirectories_run hR fun _ _ _ _ _ => rfl).mono fun _ v hv => ?_
  rw [hv.1]
  exact hw

end Orders

theorem Twins.orders {P : Errand σ → Prop} {x : Action (Logged σ) α} {y : Action σ α}
    {Q : List (Errand σ) → Except Failure α → World σ → Prop} (h : Twins x y w [] Q)
    (hx : Ends x (w.logged []) fun _ v => ∀ e ∈ v.outside.errands, P e) :
    Twins x y w [] fun es r v => Q es r v ∧ ∀ e ∈ es, P e := by
  obtain ⟨es, r, v, hlogged, hbare, hQ⟩ := h
  refine ⟨es, r, v, hlogged, hbare, hQ, fun e he => hx.of_run hlogged e ?_⟩
  simpa [World.logged] using he

end Action

theorem Runner.attempt_orders {P : Errand σ → Prop} (r : Runner σ) (policy : RetryPolicy)
    {c : Command} {d : Option String} (h : ∀ w v a, P ⟨.run c d, w, v, a⟩) (n : Nat)
    (made : UInt32) : Orders P (r.logged.attempt policy c d n made) := by
  induction n generalizing made with
  | zero => exact .throw _
  | succ n ih =>
    refine .bind (.tell _ _ _) fun _ => .bind (.call h) fun a => ?_
    cases a with
    | error reason => exact .bind (.tell _ _ _) fun _ => .throw _
    | ok output =>
      refine .ite (.bind (.tell _ _ _) fun _ => .pure _) (.ite ?_ (.throw _))
      exact .bind (.tell _ _ _) fun _ => ih _

namespace Acquirer

variable (s : Services σ) (c : Config) (d : String)

theorem unpackStaged_orders :
    Orders (·.Names c d) ((s.logged.acquirer c).unpackStaged d c.feature) := by
  refine .get fun w => .ite (.bind (.log ?_) fun _ => .pure _) (.throw _)
  exact fun _ _ => .unpackStaged

theorem unpackRelease_orders (state : CacheState) :
    Orders (·.Names c d) ((s.logged.acquirer c).unpackRelease d c.feature state) := by
  have hfetch : ∀ w v, Errand.Names (σ := σ) c d
      ⟨.fetch c.feature.release.url (archivePath d c.feature), w, v, none⟩ := fun _ _ => .fetch
  have hunpack : ∀ w v, Errand.Names (σ := σ) c d
      ⟨.extract (archivePath d c.feature) d, w, v, none⟩ := fun _ _ => .unpack
  refine .ite (.bind (.during _ (.log hfetch)) fun _ => ?_) (.bind (.tell _ _ _) fun _ => ?_)
  · exact .bind (.log hunpack) fun _ => .pure _
  · exact .bind (.log hunpack) fun _ => .pure _

theorem download_orders :
    Orders (·.Names c d) ((s.logged.acquirer c).download d c.feature) := by
  refine .ite (.bind (.throw _) fun _ => ?_) ?_
  all_goals
    refine .get fun w => .bind (.tell _ _ _) fun _ => ?_
    refine .ite (.bind (.tell _ _ _) fun _ => .pure _) ?_
    exact .ite (unpackStaged_orders s c d) (unpackRelease_orders s c d _)

theorem build_orders : Orders (·.Names c d) ((s.logged.acquirer c).build d c.feature) := by
  refine .bind (.tell _ _ _) fun _ => .bind (.during _ ?_) fun _ => .pure _
  exact s.runner.attempt_orders _ (fun _ _ _ => .build) _ _

theorem acquire_orders (dir : InstallDir) (operation : Operation) :
    Orders (·.Names c dir.path) ((s.logged.acquirer c).acquire dir c.feature operation) := by
  refine .ite (.bind (.tell _ _ _) fun _ => .pure _) (.bind (.createDirectories _) fun _ => ?_)
  cases operation with
  | download => exact download_orders s c dir.path
  | build => exact build_orders s c dir.path

end Acquirer

theorem Inquiry.names {d : String} {r : Except Failure (Toolchain × Binding)}
    (h : Inquiry d w es r v) : ∀ e ∈ es, e.Names c d := by
  have hasked : ∀ {e : Errand σ} {probe}, e.Asks probe → w.Rests e.before →
      Probe.find (join d "bin") w = .ok probe → e.Names c d := by
    intro e probe asked before found
    rw [Errand.Names, asked]
    exact .probe ((Probe.find_rests before _).trans found)
  cases h with
  | unfound found trail => simp
  | refused found asked before after untold => simpa using hasked asked before.rests found
  | answered found asked before after told absolute =>
    simpa using hasked asked before.rests found

section

variable (resolved : InstallDir.resolve c w = .ok dir)
include resolved

theorem provide_names : Twins (provide s.logged c) (provide s c) w [] fun es r v =>
    Provided c w es r v ∧ ∀ e ∈ es, e.Names c dir.path := by
  refine (provide_ran s c w []).orders (Ends.get ?_)
  have hresolved : InstallDir.resolve c (w.logged []) = .ok dir := resolved
  rw [hresolved]
  refine Ends.bind (Ends.pure (Orders.bind (.tell _ _ _) (fun _ => .bind ?_ fun _ => ?_) _ ?_))
  · exact Acquirer.acquire_orders s c dir _
  · exact .bind (.tell _ _ _) fun _ => .pure _
  · simp [World.logged]

theorem prepare_names : Twins (prepare s.logged c) (prepare s c) w [] fun es _ _ =>
    ∀ e ∈ es, e.Names c dir.path := by
  refine Twins.bind ((provide_names resolved).mono ?_)
  rintro es r u ⟨provided, hnames⟩
  cases r with
  | error f => exact hnames
  | ok dir' =>
    obtain rfl := Except.ok.inj (provided.resolved.symm.trans resolved)
    refine (Probe.bindingFor_ran s.runner _ u _).mono fun ds r v inquiry e he => ?_
    exact (List.mem_append.1 he).elim (hnames e) (inquiry.names e)

end

def World.readied (w : World σ) (dir : InstallDir) : World σ :=
  if dir.isExternal then w else w.prepared dir.path

theorem Provided.trail {r : Except Failure InstallDir} (h : Provided c w es r v)
    (resolved : InstallDir.resolve c w = .ok dir) : Trail (w.readied dir) es v := by
  obtain ⟨external, rfl, -, trail⟩ | ⟨own, trail⟩ := h.external_or_own resolved
  · rwa [World.readied, if_pos external]
  · rwa [World.readied, if_neg (by simp [own])]

theorem Prepared.trail {r : Except Failure (Toolchain × Binding)} (h : Prepared c w es r v)
    (resolved : InstallDir.resolve c w = .ok dir) : Trail (w.readied dir) es v := by
  cases h with
  | unprovided provided => exact provided.trail resolved
  | inquired provided inquiry => exact (provided.trail resolved).trans inquiry.trail

/-- A resolved directory is named by the same absolute path wherever it is used: it is made under
that path, everybody is told that path, and that path is read from the configuration. -/
theorem journal_one_path (resolved : InstallDir.resolve c w = .ok dir)
    (here : ∀ s ∈ w.cwd, IsSegment s) (hj : journal s c w = j) :
    isAbsolute dir.path = true ∧ (∀ cwd, absolute? cwd dir.path = some dir.path) ∧
    (∀ (d : Disk) cwd cwd' f, d.locate cwd f dir.path = d.locate cwd' f dir.path) ∧
    (∀ e ∈ j.errands, e.Names c dir.path) ∧
    (∃ v, Trail (w.readied dir) j.errands v ∧
      Disk.Writes v.disk j.finish.disk j.finish.cwd (Binding.configPath c.buildDir)) ∧
    ∀ b, j.outcome = .ok b → b.value = dir.path ∧ ∃ text,
      j.finish.disk.Contains j.finish.cwd (Binding.configPath c.buildDir)
        (.data (Text.bytes text)) ∧
      Binding.ofText? text = some (some b) := by
  have habs := InstallDir.isAbsolute_resolve resolved
  obtain ⟨-, -, -, -, hnames⟩ := hj ▸ (install_after (prepare_names (s := s) resolved)).journal
  have installed := hj ▸ installed_journal s c w
  refine ⟨habs, InstallDir.absolute?_resolve here resolved, ?_, hnames, ?_, ?_⟩
  · intro d cwd cwd' f
    simp [Disk.locate, habs]
  · obtain ⟨r, u, prepared, -, hwrites⟩ := installed.writes
    exact ⟨u, prepared.trail resolved, hwrites⟩
  · rintro b hb
    cases installed with
    | unprepared => cases hb
    | unsaved => cases hb
    | saved preparing prepared saving =>
      obtain rfl := Except.ok.inj hb
      -- The directory has been made absolute once more before it was bound.
      obtain ⟨dir', probe, e, major, resolved', -, -, -, rfl⟩ := prepared.bound here
      obtain rfl := Except.ok.inj (resolved.symm.trans resolved')
      refine ⟨rfl, _, ((Probe.save_ends.of_run saving).2.2 rfl).file.contains, ?_⟩
      exact Binding.ofText?_configText (Binding.isBareKey_ofMajor major _)
        (Binding.isKey_ofMajor major _)

section Trial

def windingConfig : Config :=
  { smallConfig with cacheDir := some "./build//../llvm/", operation := some .build }

theorem journal_one_path_winding :
    let j := journal (smallServices "14.0.6\n") windingConfig smallWorld
    j.outcome = .ok ⟨"LLVM_SYS_140_PREFIX", "/home/build/../llvm/"⟩ ∧
      j.errands.map (·.request) =
        [.run (buildCommand "/home/build/../llvm/" .llvm14) (some "build"),
          .run (Probe.question "/home/build/../llvm/bin/llvm-config") none] ∧
      (∀ e ∈ j.errands, e.Names windingConfig "/home/build/../llvm/") ∧
      (∀ cwd, absolute? cwd "/home/build/../llvm/" = some "/home/build/../llvm/") ∧
      ∃ text, j.finish.disk.Contains j.finish.cwd "build/.cargo/config.toml"
          (.data (Text.bytes text)) ∧
        Binding.ofText? text = some (some ⟨"LLVM_SYS_140_PREFIX", "/home/build/../llvm/"⟩) := by
  intro j
  obtain ⟨hok, hrequests, hresolved, hcwd, hpath⟩ :
      j.outcome = .ok ⟨"LLVM_SYS_140_PREFIX", "/home/build/../llvm/"⟩ ∧
      j.errands.map (·.request) =
        [.run (buildCommand "/home/build/../llvm/" .llvm14) (some "build"),
          .run (Probe.question "/home/build/../llvm/bin/llvm-config") none] ∧
      InstallDir.resolve windingConfig smallWorld = .ok ⟨"/home/build/../llvm/", .cache⟩ ∧
      smallWorld.cwd = segments "home" ∧
      Binding.configPath windingConfig.buildDir = "build/.cargo/config.toml" := by
    decide +kernel
  have here : ∀ s ∈ smallWorld.cwd, IsSegment s := hcwd ▸ fun s => isSegment_of_mem
  obtain ⟨-, habsolute, -, hnames, -, hbound⟩ := journal_one_path (j := j) hresolved here rfl
  obtain ⟨-, text, hcontains, hread⟩ := hbound _ hok
  exact ⟨hok, hrequests, hnames, habsolute, text, hpath ▸ hcontains, hread⟩

end Trial

end Provision
