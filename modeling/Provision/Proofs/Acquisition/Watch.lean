import Provision.Acquisition
import Provision.Proofs.World.Likeness

namespace Provision

variable {σ α β : Type}

inductive Call where
  | fetch (url dest : String) (ok : Bool)
  | extract (archive dest : String) (ok : Bool)
  deriving DecidableEq, Repr

structure Watched (σ : Type) where
  inner : σ
  calls : List Call

namespace World

def watched (w : World σ) (calls : List Call) : World (Watched σ) :=
  { w with outside := ⟨w.outside, calls⟩ }

def bare (w : World (Watched σ)) : World σ := { w with outside := w.outside.inner }

end World

def Runner.watched (r : Runner σ) : Runner (Watched σ) := fun c dir w =>
  let (a, v) := (r c dir).run w.bare
  (a, v.watched w.outside.calls)

namespace Action

def watch (call : Bool → Call) (x : Action σ α) : Action (Watched σ) α := ExceptT.mk fun w =>
  let (r, v) := x.run.run w.bare
  (r, v.watched (call r.isOk :: w.outside.calls))

theorem Ends.watch {call : Bool → Call} {x : Action σ α} {w : World (Watched σ)}
    {Q : Except Failure α → World (Watched σ) → Prop}
    (h : Ends x w.bare fun r v => Q r (v.watched (call r.isOk :: w.outside.calls))) :
    Ends (watch call x) w Q := h

def Mirrors (x : Action (Watched σ) α) (y : Action σ α) : Prop :=
  ∀ w l, ∃ cs, x.run.run (w.watched l) = ((y.run.run w).1, (y.run.run w).2.watched (cs ++ l))

namespace Mirrors

variable {x : Action (Watched σ) α} {y : Action σ α}

theorem pure (a : α) : Mirrors (Pure.pure a : Action (Watched σ) α) (Pure.pure a) :=
  fun _ _ => ⟨[], rfl⟩

theorem throw (e : Failure) :
    Mirrors (throwThe Failure e : Action (Watched σ) α) (throwThe Failure e) :=
  fun _ _ => ⟨[], rfl⟩

theorem tell (level : Level) (message : String) (fields : List (String × String)) :
    Mirrors (Action.tell (σ := Watched σ) level message fields) (Action.tell level message fields) :=
  fun _ _ => ⟨[], rfl⟩

theorem watch (call : Bool → Call) (y : Action σ α) : Mirrors (Action.watch call y) y :=
  fun w _ => ⟨[call (y.run.run w).1.isOk], rfl⟩

theorem get {f : World (Watched σ) → Action (Watched σ) α} {g : World σ → Action σ α}
    (h : ∀ w l, Mirrors (f (w.watched l)) (g w)) :
    Mirrors (MonadState.get >>= f) (MonadState.get >>= g) :=
  fun w l => h w l w l

theorem bind {f : α → Action (Watched σ) β} {g : α → Action σ β} (h : Mirrors x y)
    (hf : ∀ a, Mirrors (f a) (g a)) : Mirrors (x >>= f) (y >>= g) := by
  intro w l
  obtain ⟨cs, hcs⟩ := h w l
  rw [bind_run, bind_run, hcs]
  generalize y.run.run w = r
  obtain ⟨e | a, v⟩ := r
  · exact ⟨cs, rfl⟩
  · obtain ⟨ds, hds⟩ := hf a v (cs ++ l)
    exact ⟨ds ++ cs, by rw [List.append_assoc]; exact hds⟩

theorem ite {x' : Action (Watched σ) α} {y' : Action σ α} {c : Prop} [Decidable c]
    (h : Mirrors x y) (h' : Mirrors x' y') :
    Mirrors (if c then x else x') (if c then y else y') := by
  split
  · exact h
  · exact h'

theorem during (s : Stage) (h : Mirrors x y) :
    Mirrors (Action.during s x) (Action.during s y) := by
  intro w l
  obtain ⟨cs, hcs⟩ := h w l
  exact ⟨cs, by rw [during_run, during_run, hcs]⟩

end Mirrors

theorem likeness_watched (l : List Call) : Likeness (σ := σ) (·.watched l) where
  disk _ := rfl
  cwd _ := rfl
  changed _ _ := rfl

theorem createDirectories_watched (p : String) (w : World σ) (l : List Call) :
    (createDirectories p).run.run (w.watched l) =
      (((createDirectories p).run.run w).1, ((createDirectories p).run.run w).2.watched l) :=
  createDirectories_mimics (likeness_watched l) p w

end Action
end Provision
