import Provision.Proofs.World.Run

namespace Provision

variable {σ α β : Type}

namespace Action

def Fails (P : Failure → Prop) (x : Action σ α) : Prop :=
  ∀ w, Ends x w fun r _ => ∀ f, r = .error f → P f

namespace Fails

variable {P : Failure → Prop} {x : Action σ α} {f : α → Action σ β}

theorem pure (a : α) : Fails P (Pure.pure a : Action σ α) := fun _ => Ends.pure fun _ h => by cases h

theorem throw {e : Failure} (h : P e) : Fails P (throwThe Failure e : Action σ α) := by
  refine fun w => Ends.throw ?_
  rintro _ ⟨⟩
  exact h

theorem tell (level : Level) (message : String) (fields : List (String × String)) :
    Fails (σ := σ) P (Action.tell level message fields) := fun _ => Ends.tell fun _ h => by cases h

theorem nap (n : Nat) : Fails (σ := σ) P (Action.nap n) := fun _ => Ends.nap fun _ h => by cases h

theorem changeDisk (f : Disk → Disk) : Fails (σ := σ) P (Action.changeDisk f) :=
  fun _ => Ends.changeDisk fun _ h => by cases h

theorem lift (x : StateM (World σ) α) : Fails P (ExceptT.lift x : Action σ α) :=
  fun _ => Ends.lift (Runs.intro fun _ _ _ _ h => by cases h)

theorem bind (h : Fails P x) (hf : ∀ a, Fails P (f a)) : Fails P (x >>= f) := by
  refine fun w => Ends.bind ((h w).mono fun r v hr => ?_)
  cases r with
  | ok a => exact hf a v
  | error e =>
    rintro _ ⟨⟩
    exact hr e rfl

theorem ofExcept {r : Except Failure α} (h : ∀ e, r = .error e → P e) :
    Fails (σ := σ) P (MonadExcept.ofExcept r) := by
  cases r with
  | ok a => exact .pure a
  | error e => exact .throw (h e rfl)

theorem thrown {e : Failure} (h : P e) (f : α → Action σ β) :
    Fails P ((throwThe Failure e : Action σ α) >>= f) := by
  refine fun w => Ends.bind (Ends.throw ?_)
  rintro _ ⟨⟩
  exact h

theorem get {f : World σ → Action σ β} (hf : ∀ w, Fails P (f w)) :
    Fails P (MonadState.get >>= f : Action σ β) := fun w => hf w w

theorem caught {f : Except Failure α → Action σ β} (h : Fails P x)
    (hf : ∀ r, (∀ e, r = .error e → P e) → Fails P (f r)) :
    Fails P (ExceptT.lift x.run >>= f) :=
  fun w => Ends.bind (Ends.lift (Runs.intro fun r v hv => hf r ((h w).of_run hv) v))

theorem step {s : Step} (h : ∀ e, P (.step s (.disk e)))
    (x : StateM (World σ) (Except DiskError α)) : Fails P (Action.step s x) := by
  refine fun w => Ends.step (Runs.intro fun r v _ => ?_)
  cases r with
  | ok a => exact fun _ h => by cases h
  | error e =>
    rintro _ ⟨⟩
    exact h e

theorem during {s : Stage} (hs : ∀ f, P f → P (.during s f)) (h : Fails P x) :
    Fails P (Action.during s x) := by
  refine fun w => Ends.during ((h w).mono fun r v hr => ?_)
  cases r with
  | ok a => exact fun _ h => by cases h
  | error e =>
    rintro _ ⟨⟩
    exact hs e (hr e rfl)

end Fails

end Action
end Provision
