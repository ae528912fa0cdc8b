import Provision.Proofs.World.Directories

/-!
Worlds that differ only in what a change does not look at, such as the events told so far or what is
outside: the change does the same in both.
-/

namespace Provision

variable {σ τ α β : Type} {m : World σ → World τ}

/-- Another world with the same disk, which changes as that of the first does. -/
structure Likeness (m : World σ → World τ) : Prop where
  disk : ∀ w, (m w).disk = w.disk
  cwd : ∀ w, (m w).cwd = w.cwd
  changed : ∀ w d, m (w.changed d) = (m w).changed d

namespace Likeness

theorem told (e : Event) : Likeness (σ := σ) (·.told e) :=
  ⟨fun _ => rfl, fun _ => rfl, fun _ _ => rfl⟩

theorem isDir (h : Likeness m) (w : World σ) (p : String) : (m w).isDir p = w.isDir p := by
  rw [World.isDir, World.isDir, h.disk, h.cwd]

theorem isFile (h : Likeness m) (w : World σ) (p : String) : (m w).isFile p = w.isFile p := by
  rw [World.isFile, World.isFile, h.disk, h.cwd]

end Likeness

def Mimics (m : World σ → World τ) (x : StateM (World τ) α) (y : StateM (World σ) α) : Prop :=
  ∀ w, x.run (m w) = ((y.run w).1, m (y.run w).2)

namespace Mimics

section

variable {x : StateM (World τ) α} {y : StateM (World σ) α}

theorem pure (a : α) : Mimics m (Pure.pure a) (Pure.pure a) := fun _ => rfl

theorem bind {f : α → StateM (World τ) β} {g : α → StateM (World σ) β} (h : Mimics m x y)
    (hf : ∀ a, Mimics m (f a) (g a)) : Mimics m (x >>= f) (y >>= g) := by
  intro w
  have hx : (x >>= f).run (m w) = (f (x.run (m w)).1).run (x.run (m w)).2 := rfl
  rw [hx, h w]
  exact hf _ _

theorem get {f : World τ → StateM (World τ) α} {g : World σ → StateM (World σ) α}
    (h : ∀ w, Mimics m (f (m w)) (g w)) :
    Mimics m (MonadState.get >>= f) (MonadState.get >>= g) :=
  fun w => h w w

theorem ite {x' : StateM (World τ) α} {y' : StateM (World σ) α} {c : Prop} [Decidable c]
    (h : Mimics m x y) (h' : Mimics m x' y') :
    Mimics m (if c then x else x') (if c then y else y') := by
  split
  · exact h
  · exact h'

end

section

variable (hm : Likeness m)
include hm

theorem change (f : Disk → Location → Except DiskError Disk) :
    Mimics m (Action.change f) (Action.change f) := by
  refine get fun w => ?_
  rw [hm.disk, hm.cwd]
  cases f w.disk w.cwd with
  | ok d => exact fun v => congrArg (Prod.mk _) (hm.changed v d).symm
  | error e => exact pure _

theorem changeWith (f : Disk → Location → Except DiskError (Disk × α)) :
    Mimics m (Action.changeWith f) (Action.changeWith f) := by
  refine get fun w => ?_
  rw [hm.disk, hm.cwd]
  cases f w.disk w.cwd with
  | ok r => exact fun v => congrArg (Prod.mk _) (hm.changed v r.1).symm
  | error e => exact pure _

theorem ask (f : Disk → Location → Except DiskError α) :
    Mimics m (Action.ask f) (Action.ask f) := by
  refine get fun w => ?_
  rw [hm.disk, hm.cwd]
  exact pure _

theorem ifDir (p : String) (a b : α) :
    Mimics m (do if (← MonadState.get).isDir p then return a else return b)
      (do if (← MonadState.get).isDir p then return a else return b) := by
  refine get fun w => ?_
  rw [hm.isDir]
  exact ite (pure a) (pure b)

theorem make (p : String) : Mimics m (Action.makeFirst.make p) (Action.makeFirst.make p) := by
  refine bind (change hm _) fun r => ?_
  cases r with
  | ok => exact pure _
  | error e => exact ifDir hm p _ _

theorem makeFirst (ps : List String) : Mimics m (Action.makeFirst ps) (Action.makeFirst ps) := by
  induction ps with
  | nil => exact pure _
  | cons p ps ih =>
    simp only [Action.makeFirst]
    refine ite (pure _) (bind (change hm _) fun r => ?_)
    split
    · exact pure _
    · cases ps with
      | nil => exact pure _
      | cons q qs =>
        refine bind ih fun r => ?_
        cases r with
        | ok => exact make hm p
        | error e => exact pure _
    · exact ifDir hm p _ _

end

section

variable {x : Action τ α} {y : Action σ α}

theorem look {f : World τ → Action τ α} {g : World σ → Action σ α}
    (h : ∀ w, Mimics m (f (m w)).run (g w).run) :
    Mimics m (MonadState.get >>= f : Action τ α).run (MonadState.get >>= g : Action σ α).run :=
  fun w => h w w

theorem seq {f : α → Action τ β} {g : α → Action σ β} (h : Mimics m x.run y.run)
    (hf : ∀ a, Mimics m (f a).run (g a).run) : Mimics m (x >>= f).run (y >>= g).run := by
  intro w
  rw [Action.bind_run, Action.bind_run, h w]
  obtain ⟨e | a, v⟩ := y.run.run w
  · rfl
  · exact hf a v

theorem step {x : StateM (World τ) (Except DiskError α)} {y : StateM (World σ) (Except DiskError α)}
    (s : Step) (h : Mimics m x y) : Mimics m (Action.step s x).run (Action.step s y).run := by
  intro w
  simp only [Action.step_run, h w]

theorem changeDisk (hm : Likeness m) (f : Disk → Disk) :
    Mimics m (Action.changeDisk f).run (Action.changeDisk f).run := by
  intro w
  have h : (m w).changed (f (m w).disk) = m (w.changed (f w.disk)) := by rw [hm.disk, hm.changed]
  exact congrArg (Prod.mk _) h

end

end Mimics

namespace Action

theorem createDirectories_mimics (hm : Likeness m) (p : String) :
    Mimics m (createDirectories p).run (createDirectories p).run :=
  .step _ (.makeFirst hm _)

theorem createParents_mimics (hm : Likeness m) (p : String) :
    Mimics m (createParents p).run (createParents p).run := by
  simp only [createParents]
  split
  · exact createDirectories_mimics hm _
  · exact .pure _

end Action

theorem Likeness.prepared (hm : Likeness m) (w : World σ) (p : String) :
    (m w).prepared p = m (w.prepared p) :=
  congrArg Prod.snd (Action.createDirectories_mimics hm p w)

end Provision
