import Provision.Proofs.Installation.Configured
import Provision.Proofs.Installation.Survey

namespace Provision

open PathText Provision.Action

variable {σ : Type} {w : World σ} {c : Config} {s : Services σ} {dir : InstallDir} {j : Journal σ}

section

variable {dir value : String} {u v x : World σ} {es ds : List (Errand σ)} {t : Toolchain}

end

theorem Installed.failed {v : World σ} {f : Failure} (h : Installed s c w j)
    (hprepare : (prepare s c).run.run w = (.error f, v)) : j.outcome = .error f := by
  cases h with
  | unprepared preparing prepared =>
    cases preparing.symm.trans hprepare
    rfl
  | unsaved preparing prepared saving => cases preparing.symm.trans hprepare
  | saved preparing prepared saving => cases preparing.symm.trans hprepare

theorem Installed.wrote {v : World σ} {t : Toolchain} {b b' : Binding} (h : Installed s c w j)
    (hprepare : (prepare s c).run.run w = (.ok (t, b), v)) (ok : j.outcome = .ok b') :
    b' = b ∧ j.finish.disk.Contains j.finish.cwd (Binding.configPath c.buildDir)
      (.data (Text.bytes b.configText)) := by
  cases h with
  | unprepared preparing prepared => cases ok
  | unsaved preparing prepared saving => cases ok
  | saved preparing prepared saving =>
    cases preparing.symm.trans hprepare
    exact ⟨(Except.ok.inj ok).symm, ((Probe.save_ends.of_run saving).2.2 rfl).file.contains⟩

section Trial

end Trial
end Provision
