import Provision.Proofs.Installation.Errands

namespace Provision

open Provision.Action

variable {σ α : Type} {w v u : World σ} {c : Config} {dir : InstallDir} {es : List (Errand σ)}

namespace InstallDir

theorem absolute_again (hs : w.Stays v) (p : String) : absolute v p = absolute w p := by
  rw [absolute, absolute, hs.absolute?]

theorem resolve_eq_ok (h : resolve c w = .ok dir) :
    (∃ p, w.absolute? p = some dir.path) ∧ (dir.isExternal = true ↔ c.externalDir.isSome = true) := by
  have habs : ∀ {p o}, (absolute w p).map (⟨·, o⟩) = .ok dir →
      (∃ p, w.absolute? p = some dir.path) ∧ dir.origin = o := by
    intro p o h
    cases hp : w.absolute? p with
    | none => simp [absolute, hp, Except.map] at h
    | some q =>
      obtain rfl : InstallDir.mk q o = dir := by simpa [absolute, hp, Except.map] using h
      exact ⟨⟨p, hp⟩, rfl⟩
  simp only [resolve] at h
  split at h
  · split at h
    · obtain ⟨hp, ho⟩ := habs (o := .external) h
      exact ⟨hp, by simp [isExternal, *]⟩
    · cases h
  · obtain ⟨hp, ho⟩ := habs (o := .cache) h
    exact ⟨hp, by simp [isExternal, *]⟩
  · obtain ⟨hp, ho⟩ := habs (o := .standard) h
    exact ⟨hp, by simp [isExternal, *]⟩

theorem resolve_again (h : resolve c w = .ok dir) (hs : w.Stays v)
    (hg : dir.isExternal = true → Disk.Grows w.disk v.disk) : resolve c v = .ok dir := by
  have hext := (resolve_eq_ok h).2
  cases hp : c.externalDir with
  | some p =>
    have hg := hg (hext.2 (by simp [hp]))
    simp only [resolve, hp] at h ⊢
    split at h
    · rename_i hdir
      have hdir' : v.isDir p = true := by
        rw [World.isDir, hs.cwd]
        exact hg.keeps.isDir hdir
      rw [if_pos hdir', absolute_again hs]
      exact h
    · cases h
  | none =>
    cases hq : c.cacheDir with
    | some q => simpa only [resolve, hp, hq, absolute_again hs] using h
    | none => simpa only [resolve, hp, hq, absolute_again hs, hs.home] using h

end InstallDir

/-- How the toolchain is brought into its directory. An external one is there already. -/
inductive Provided (c : Config) (w : World σ) :
    List (Errand σ) → Except Failure InstallDir → World σ → Prop where
  | unresolved {f : Failure} (resolved : InstallDir.resolve c w = .error f) :
    Provided c w [] (.error f) w
  | external {dir : InstallDir} {v : World σ} (resolved : InstallDir.resolve c w = .ok dir)
      (external : dir.isExternal = true) (trail : Trail w [] v) : Provided c w [] (.ok dir) v
  | failed {dir : InstallDir} {es : List (Errand σ)} {f : Failure} {v : World σ}
      (resolved : InstallDir.resolve c w = .ok dir) (own : dir.isExternal = false)
      (trail : Trail (w.prepared dir.path) es v) : Provided c w es (.error f) v
  | acquired {dir : InstallDir} {es : List (Errand σ)} {v : World σ}
      (resolved : InstallDir.resolve c w = .ok dir) (own : dir.isExternal = false)
      (opened : c.effectiveOperation = .download → c.downloadEnabled = true)
      (trail : Trail (w.prepared dir.path) es v) : Provided c w es (.ok dir) v

theorem Provided.resolved (h : Provided c w es (.ok dir) v) : InstallDir.resolve c w = .ok dir := by
  cases h <;> assumption

theorem Provided.keeps {R : World σ → World σ → Prop} {r : Except Failure InstallDir}
    (hR : Composes R) (htold : ∀ w e, R w (w.told e)) (h : Provided c w es r v)
    (hmake : ∀ dir, InstallDir.resolve c w = .ok dir → dir.isExternal = false →
      R w (w.prepared dir.path))
    (he : ∀ e ∈ es, R e.before e.after) : R w v := by
  cases h with
  | unresolved => exact hR.refl w
  | external resolved external trail => exact trail.keeps hR htold he
  | failed resolved own trail => exact hR.trans (hmake _ resolved own) (trail.keeps hR htold he)
  | acquired resolved own opened trail =>
    exact hR.trans (hmake _ resolved own) (trail.keeps hR htold he)

theorem Acquirer.download_opened {a : Acquirer σ} {dir : String} {f : Feature} :
    Ends (a.download dir f) w fun r _ => ∀ o, r = .ok o → a.downloadEnabled = true := by
  rw [Acquirer.download]
  split
  · exact Ends.bind (Ends.throw (by simp))
  · exact Ends.intro fun _ _ _ _ _ => by simpa using ‹¬ (!a.downloadEnabled) = true›

theorem Acquirer.acquire_external (s : Services σ) (f : Feature) (operation : Operation)
    (l : List (Errand σ)) (external : dir.isExternal = true) :
    Twins ((s.logged.acquirer c).acquire dir f operation) ((s.acquirer c).acquire dir f operation)
      w l fun es r v => es = [] ∧ r = .ok .external ∧ Trail w [] v := by
  simp only [acquire, external, ↓reduceIte]
  exact Twins.bind (Twins.tell (Twins.pure ⟨rfl, rfl, .told _ (.refl w)⟩))

theorem Acquirer.acquire_own (s : Services σ) (f : Feature) (operation : Operation)
    (l : List (Errand σ)) (own : dir.isExternal = false) :
    Twins ((s.logged.acquirer c).acquire dir f operation) ((s.acquirer c).acquire dir f operation)
      w l fun es r v => Trail (w.prepared dir.path) es v ∧
        (operation = .download → ∀ o, r = .ok o → c.downloadEnabled = true) := by
  simp only [acquire, own, Bool.false_eq_true, ↓reduceIte]
  have hmake := createDirectories_mimics (World.likeness_logged l) dir.path
  refine Twins.bind (Twins.mimics hmake (Ends.intro fun r v hr => ?_))
  have hv : w.prepared dir.path = v := congrArg Prod.snd hr
  cases r with
  | error e => exact ⟨hv ▸ .refl v, by simp⟩
  | ok =>
    cases operation with
    | download =>
      obtain ⟨es, r, u, hx, hy, htrail⟩ := download_logs s c dir.path f v l
      exact ⟨es, r, u, hx, hy, hv ▸ htrail, fun _ => download_opened.of_run hy⟩
    | build => exact (build_logs s c dir.path f v l).mono fun _ _ _ htrail => ⟨hv ▸ htrail, by simp⟩

theorem provide_ran (s : Services σ) (c : Config) (w : World σ) (l : List (Errand σ)) :
    Twins (provide s.logged c) (provide s c) w l (Provided c w) := by
  refine Twins.get (Twins.bind (Twins.ofExcept (r := InstallDir.resolve c w) rfl rfl ?_))
  cases resolved : InstallDir.resolve c w with
  | error f => exact .unresolved resolved
  | ok dir =>
    refine Twins.bind (Twins.tell ?_)
    refine Twins.bind ?_
    cases hdir : dir.isExternal with
    | true =>
      refine (Acquirer.acquire_external s _ _ _ hdir).mono ?_
      rintro es r v ⟨rfl, rfl, htrail⟩
      refine Twins.bind (Twins.tell (Twins.pure (.external resolved hdir (.told _ ?_))))
      exact .trans (.told _ (.refl w)) htrail
    | false =>
      refine (Acquirer.acquire_own s _ _ _ hdir).mono ?_
      rintro es r v ⟨htrail, hopened⟩
      rw [(Likeness.told _).prepared w dir.path] at htrail
      have htrail := Trail.trans (.told _ (.refl _)) htrail
      cases r with
      | error f => exact .failed resolved hdir htrail
      | ok o =>
        refine Twins.bind (Twins.tell (Twins.pure ?_))
        simp only [List.nil_append, List.append_nil]
        exact .acquired resolved hdir (fun h => hopened h o rfl) (.told _ htrail)

def Errand.Tells (e : Errand σ) (major : UInt32) : Prop :=
  ∃ o, e.answer = some o ∧ o.success = true ∧ Probe.majorOf? (Text.trim o.out) = some major

def Errand.Asks (e : Errand σ) (probe : String) : Prop :=
  e.request = .run (Probe.question probe) none

instance (e : Errand σ) (probe : String) : Decidable (e.Asks probe) :=
  inferInstanceAs (Decidable (_ = _))

theorem Errand.not_tells {e : Errand σ} {o : CommandOutput} (ho : e.answer = some o)
    (h : Probe.majorOf? (Text.trim o.out) = none) (major : UInt32) : ¬ e.Tells major := by
  rintro ⟨o', ho', -, hm⟩
  obtain rfl : o = o' := Option.some.inj (ho.symm.trans ho')
  cases h.symm.trans hm

inductive Probed (dir : String) (w : World σ) :
    List (Errand σ) → Except Failure Toolchain → World σ → Prop where
  | unfound {f : Failure} {v : World σ} (found : Probe.find (PathText.join dir "bin") w = .error f)
    (trail : Trail w [] v) : Probed dir w [] (.error f) v
  | refused {probe : String} {e : Errand σ} {f : Failure} {v : World σ}
      (found : Probe.find (PathText.join dir "bin") w = .ok probe) (asked : e.Asks probe)
      (before : Trail w [] e.before) (after : Trail e.after [] v)
      (untold : ∀ major, ¬ e.Tells major) : Probed dir w [e] (.error f) v
  | answered {probe version : String} {major : UInt32} {e : Errand σ} {v : World σ}
      (found : Probe.find (PathText.join dir "bin") w = .ok probe) (asked : e.Asks probe)
      (before : Trail w [] e.before) (after : Trail e.after [] v) (told : e.Tells major) :
    Probed dir w [e] (.ok ⟨version, major, probe⟩) v

inductive Inquiry (dir : String) (w : World σ) :
    List (Errand σ) → Except Failure (Toolchain × Binding) → World σ → Prop where
  | unfound {f : Failure} {v : World σ} (found : Probe.find (PathText.join dir "bin") w = .error f)
    (trail : Trail w [] v) : Inquiry dir w [] (.error f) v
  | refused {probe : String} {e : Errand σ} {f : Failure} {v : World σ}
      (found : Probe.find (PathText.join dir "bin") w = .ok probe) (asked : e.Asks probe)
      (before : Trail w [] e.before) (after : Trail e.after [] v)
      (untold : ∀ major value, e.Tells major → v.absolute? dir ≠ some value) :
    Inquiry dir w [e] (.error f) v
  | answered {probe version value : String} {major : UInt32} {e : Errand σ} {v : World σ}
      (found : Probe.find (PathText.join dir "bin") w = .ok probe) (asked : e.Asks probe)
      (before : Trail w [] e.before) (after : Trail e.after [] v)
      (told : e.Tells major) (absolute : v.absolute? dir = some value) :
    Inquiry dir w [e] (.ok (⟨version, major, probe⟩, .ofMajor major value)) v

theorem Probed.trail {dir : String} {r : Except Failure Toolchain} (h : Probed dir w es r v) :
    Trail w es v := by
  cases h with
  | unfound found trail => exact trail
  | refused found asked before after untold => simpa using (Trail.errand _ before).trans after
  | answered found asked before after told => simpa using (Trail.errand _ before).trans after

theorem Inquiry.trail {dir : String} {r : Except Failure (Toolchain × Binding)}
    (h : Inquiry dir w es r v) : Trail w es v := by
  cases h with
  | unfound found trail => exact trail
  | refused found asked before after untold => simpa using (Trail.errand _ before).trans after
  | answered found asked before after told absolute => simpa using (Trail.errand _ before).trans after

theorem Runner.run_once (r : Runner σ) (c : Command) (dir : Option String) (w : World σ)
    (l : List (Errand σ)) :
    Twins (r.logged.run .none c dir) (r.run .none c dir) w l fun es a v =>
      ∃ e, es = [e] ∧ e.request = .run c dir ∧ Trail w [] e.before ∧ Trail e.after [] v ∧
        ∀ o, a = .ok o ↔ e.answer = some o ∧ o.success = true := by
  refine Twins.bind (Twins.tell (Twins.bind (Twins.call fun a v _ => ?_)))
  have hbefore (e : Event) : Trail w [] (w.told e) := .told e (.refl w)
  have hafter (e : Event) : Trail v [] (v.told e) := .told e (.refl v)
  cases a with
  | error reason =>
    refine Twins.bind (Twins.tell (Twins.throw ⟨_, rfl, rfl, hbefore _, hafter _, fun o => ?_⟩))
    simp [Except.toOption]
  | ok output =>
    cases hs : output.success with
    | true =>
      simp only [hs, ↓reduceIte]
      refine Twins.bind (Twins.tell (Twins.pure ⟨_, rfl, rfl, hbefore _, hafter _, fun o => ?_⟩))
      simp only [Except.toOption, Except.ok.injEq, Option.some.injEq, iff_self_and]
      rintro rfl
      exact hs
    | false =>
      have hstop : RetryPolicy.none.shouldRetry (0 + 1) output.combined = false := rfl
      simp only [hs, hstop, Bool.false_eq_true, ↓reduceIte]
      refine Twins.throw ⟨_, rfl, rfl, hbefore _, .refl _, fun o => ?_⟩
      simp only [Except.toOption, Option.some.injEq, reduceCtorEq, false_iff, not_and]
      rintro rfl
      simp [hs]

theorem Probe.run_ran (r : Runner σ) (dir : String) (w : World σ) (l : List (Errand σ)) :
    Twins (run r.logged dir) (run r dir) w l (Probed dir w) := by
  let found? := find (PathText.join dir "bin") w
  refine Twins.get (Twins.bind (Twins.ofExcept (r := found?) rfl rfl ?_))
  cases found : found? with
  | error f => exact .unfound found (.refl w)
  | ok probe =>
    refine Twins.bind (Twins.tell (Twins.bind ?_))
    refine (Runner.run_once r (question probe) none _ _).mono ?_
    rintro es a v ⟨e, rfl, asked, before, after, ha⟩
    have before := Trail.trans (.told _ (.refl w)) before
    cases a with
    | error f =>
      refine .refused found asked before after ?_
      rintro major ⟨o, ho, hs, -⟩
      cases (ha o).2 ⟨ho, hs⟩
    | ok o =>
      obtain ⟨ho, hs⟩ := (ha o).1 rfl
      refine Twins.bind (Twins.ofExcept (r := parseMajor (Text.trim o.out)) rfl rfl ?_)
      cases hm : majorOf? (Text.trim o.out) with
      | none =>
        simp only [parseMajor, hm]
        exact .refused found asked before after (e.not_tells ho hm)
      | some major =>
        simp only [parseMajor, hm]
        exact Twins.pure (.answered found asked before after ⟨o, ho, hs, hm⟩)

theorem Probe.bindingFor_ran (r : Runner σ) (dir : String) (w : World σ) (l : List (Errand σ)) :
    Twins (bindingFor r.logged dir) (bindingFor r dir) w l (Inquiry dir w) := by
  refine Twins.bind ((run_ran r dir w l).mono fun es a v probed => ?_)
  cases probed with
  | unfound found trail => exact .unfound found trail
  | refused found asked before after untold =>
    exact .refused found asked before after fun major _ h => absurd h (untold major)
  | answered found asked before after told =>
    refine Twins.get ?_
    cases hv : v.absolute? dir with
    | none =>
      simp only [World.absolute?_logged, hv]
      exact Twins.throw (.refused found asked before after fun _ _ _ => by simp [hv])
    | some value =>
      simp only [World.absolute?_logged, hv]
      exact Twins.pure (.answered found asked before after told hv)

end Provision
