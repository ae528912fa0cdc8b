import Provision.Proofs.Installation.Saving
import Provision.Proofs.Installation.Stages

namespace Provision

open Provision.Action

variable {σ : Type} {w v u : World σ} {c : Config} {s : Services σ}

/-- How everything before the configuration goes. -/
inductive Prepared (c : Config) (w : World σ) :
    List (Errand σ) → Except Failure (Toolchain × Binding) → World σ → Prop where
  | unprovided {es : List (Errand σ)} {f : Failure} {v : World σ}
      (provided : Provided c w es (.error f) v) : Prepared c w es (.error f) v
  | inquired {dir : InstallDir} {es ds : List (Errand σ)} {u v : World σ}
      {r : Except Failure (Toolchain × Binding)} (provided : Provided c w es (.ok dir) u)
      (inquiry : Inquiry dir.path u ds r v) : Prepared c w (es ++ ds) r v

theorem Prepared.keeps {R : World σ → World σ → Prop} {es : List (Errand σ)}
    {r : Except Failure (Toolchain × Binding)} (hR : Composes R) (htold : ∀ w e, R w (w.told e))
    (h : Prepared c w es r v)
    (hmake : ∀ dir, InstallDir.resolve c w = .ok dir → dir.isExternal = false →
      R w (w.prepared dir.path))
    (he : ∀ e ∈ es, R e.before e.after) : R w v := by
  cases h with
  | unprovided provided => exact provided.keeps hR htold hmake he
  | inquired provided inquiry =>
    have hu := provided.keeps hR htold hmake fun e h => he e (List.mem_append_left _ h)
    exact hR.trans hu (inquiry.trail.keeps hR htold fun e h => he e (List.mem_append_right _ h))

theorem prepare_ran (s : Services σ) (c : Config) (w : World σ) (l : List (Errand σ)) :
    Twins (prepare s.logged c) (prepare s c) w l (Prepared c w) := by
  refine Twins.bind ((provide_ran s c w l).mono ?_)
  intro es r u provided
  cases r with
  | error f => exact .unprovided provided
  | ok dir => exact (Probe.bindingFor_ran s.runner dir.path u _).mono fun _ _ _ => .inquired provided

structure Journal (σ : Type) where
  outcome : Except Failure Binding
  errands : List (Errand σ)
  finish : World σ

def journal (s : Services σ) (c : Config) (w : World σ) : Journal σ where
  outcome := ((install s c).run.run w).1
  errands := ((install s.logged c).run.run (w.logged [])).2.outside.errands.reverse
  finish := ((install s c).run.run w).2

def World.printed (w : World σ) (text : String) : World σ :=
  { w with out := w.out ++ Text.bytes text }

/-- How an installation goes, once everything before the configuration has been done or not. -/
inductive Installed (s : Services σ) (c : Config) (w : World σ) : Journal σ → Prop where
  | unprepared {es : List (Errand σ)} {f : Failure} {v : World σ}
      (preparing : (prepare s c).run.run w = (.error f, v))
      (prepared : Prepared c w es (.error f) v) :
    Installed s c w ⟨.error f, es, v⟩
  | unsaved {es : List (Errand σ)} {t : Toolchain} {b : Binding} {u v : World σ} {f : Failure}
      (preparing : (prepare s c).run.run w = (.ok (t, b), u))
      (prepared : Prepared c w es (.ok (t, b)) u)
      (saving : (Probe.save c.buildDir t b).run.run u = (.error f, v)) :
    Installed s c w ⟨.error f, es, v⟩
  | saved {es : List (Errand σ)} {t : Toolchain} {b : Binding} {u v : World σ} {text : String}
      (preparing : (prepare s c).run.run w = (.ok (t, b), u))
      (prepared : Prepared c w es (.ok (t, b)) u)
      (saving : (Probe.save c.buildDir t b).run.run u = (.ok (), v)) :
    Installed s c w ⟨.ok b, es, v.printed text⟩

theorem install_after {l : List (Errand σ)}
    {P : List (Errand σ) → Except Failure (Toolchain × Binding) → World σ → Prop}
    (h : Twins (prepare s.logged c) (prepare s c) w l P) :
    Twins (install s.logged c) (install s c) w l fun es r v => Installed s c w ⟨r, es, v⟩ ∧
      ∃ t u, (prepare s c).run.run w = (t, u) ∧ P es t u := by
  obtain ⟨es, r, u, hlogged, hbare, prepared, hP⟩ := (prepare_ran s c w l).and h
  have hprepared : ∃ t u, (prepare s c).run.run w = (t, u) ∧ P es t u := ⟨r, u, hbare, hP⟩
  rw [install_eq, install_eq]
  refine Twins.bind ⟨es, r, u, hlogged, hbare, ?_⟩
  cases r with
  | error f => exact ⟨.unprepared hbare prepared, hprepared⟩
  | ok tb =>
    obtain ⟨t, b⟩ := tb
    refine Twins.bind (Twins.mimics (Probe.save_mimics _ c.buildDir t b) (Ends.intro ?_))
    intro r v saving
    cases r with
    | error f =>
      simp only [List.append_nil]
      exact ⟨.unsaved hbare prepared saving, hprepared⟩
    | ok =>
      refine ⟨[], .ok b, v.printed _, rfl, rfl, ?_⟩
      simp only [List.append_nil]
      exact ⟨.saved hbare prepared saving, hprepared⟩

theorem Action.Twins.journal {Q : List (Errand σ) → Except Failure Binding → World σ → Prop}
    (h : Twins (install s.logged c) (install s c) w [] Q) :
    Q (journal s c w).errands (journal s c w).outcome (journal s c w).finish := h.seen

theorem installed_journal (s : Services σ) (c : Config) (w : World σ) :
    Installed s c w (journal s c w) :=
  (install_after (prepare_ran s c w [])).journal.1

end Provision
