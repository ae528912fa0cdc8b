import Provision.Install
import Provision.Proofs.World.Likeness

/-!
Errands: what an installation has others do, which is to fetch, to unpack and to run programs. Each is
written down with the worlds before and after it. A logged run ends like the bare one.
-/

namespace Provision

variable {σ α β : Type} {w v u : World σ}

inductive Request where
  | fetch (url dest : String)
  | extract (archive dest : String)
  | run (c : Command) (dir : Option String)
  deriving DecidableEq, Repr

structure Errand (σ : Type) where
  request : Request
  before : World σ
  after : World σ
  answer : Option CommandOutput

structure Logged (σ : Type) where
  inner : σ
  errands : List (Errand σ)

namespace World

def logged (w : World σ) (l : List (Errand σ)) : World (Logged σ) :=
  { w with outside := ⟨w.outside, l⟩ }

def unlogged (w : World (Logged σ)) : World σ := { w with outside := w.outside.inner }

@[simp] theorem absolute?_logged (w : World σ) (l : List (Errand σ)) (p : String) :
    (w.logged l).absolute? p = w.absolute? p := rfl

theorem likeness_logged (l : List (Errand σ)) : Likeness (σ := σ) (·.logged l) where
  disk _ := rfl
  cwd _ := rfl
  changed _ _ := rfl

end World

structure World.Stays (w v : World σ) : Prop where
  cwd : v.cwd = w.cwd
  home : v.home = w.home

structure World.Rests (w v : World σ) : Prop extends w.Stays v where
  disk : v.disk = w.disk

def Runner.logged (r : Runner σ) : Runner (Logged σ) := fun c dir w =>
  let (a, v) := (r c dir).run w.unlogged
  (a, v.logged (⟨.run c dir, w.unlogged, v, a.toOption⟩ :: w.outside.errands))

def Action.log (q : Request) (x : Action σ α) : Action (Logged σ) α := ExceptT.mk fun w =>
  let (r, v) := x.run.run w.unlogged
  (r, v.logged (⟨q, w.unlogged, v, none⟩ :: w.outside.errands))

def Services.logged (s : Services σ) : Services (Logged σ) where
  fetcher policy url dest := Action.log (.fetch url dest) (s.fetcher policy url dest)
  runner := s.runner.logged
  platform := s.platform
  extractor archive dest := Action.log (.extract archive dest) (s.extractor archive dest)

theorem World.Stays.absolute? (h : w.Stays v) (p : String) : v.absolute? p = w.absolute? p := by
  rw [World.absolute?, World.absolute?, h.cwd]

theorem composes_stays : Action.Composes (σ := σ) World.Stays where
  refl _ := ⟨rfl, rfl⟩
  trans h h' := ⟨h'.cwd.trans h.cwd, h'.home.trans h.home⟩

theorem composes_rests : Action.Composes (σ := σ) World.Rests where
  refl _ := ⟨⟨rfl, rfl⟩, rfl⟩
  trans h h' := ⟨composes_stays.trans h.toStays h'.toStays, h'.disk.trans h.disk⟩

/-- From one world to another by some errands, in their order. Between them only events are told. -/
inductive Trail : World σ → List (Errand σ) → World σ → Prop where
  | refl (w : World σ) : Trail w [] w
  | told {w v : World σ} {es : List (Errand σ)} (e : Event) (h : Trail w es v) : Trail w es (v.told e)
  | errand {w : World σ} {es : List (Errand σ)} (e : Errand σ) (h : Trail w es e.before) :
    Trail w (es ++ [e]) e.after

namespace Trail

variable {es ds : List (Errand σ)}

theorem trans (h : Trail w es v) (h' : Trail v ds u) : Trail w (es ++ ds) u := by
  induction h' with
  | refl => simpa using h
  | told e _ ih => exact .told e ih
  | errand e _ ih =>
    rw [← List.append_assoc]
    exact .errand e ih

theorem keeps {R : World σ → World σ → Prop} (hR : Action.Composes R) (htold : ∀ w e, R w (w.told e))
    (h : Trail w es v) (he : ∀ e ∈ es, R e.before e.after) : R w v := by
  induction h with
  | refl => exact hR.refl _
  | told e _ ih => exact hR.trans (ih he) (htold _ e)
  | errand e _ ih =>
    exact hR.trans (ih fun d hd => he d (List.mem_append_left _ hd)) (he e (by simp))

theorem rests (h : Trail w [] v) : w.Rests v :=
  h.keeps composes_rests (fun _ _ => ⟨⟨rfl, rfl⟩, rfl⟩) (by simp)

end Trail

namespace Action

/-- A logged run and the bare one end alike, the one with some errands more in its log. These and the
end are as told. -/
def Twins (x : Action (Logged σ) α) (y : Action σ α) (w : World σ) (l : List (Errand σ))
    (Q : List (Errand σ) → Except Failure α → World σ → Prop) : Prop :=
  ∃ es r v, x.run.run (w.logged l) = (r, v.logged (es.reverse ++ l)) ∧ y.run.run w = (r, v) ∧ Q es r v

namespace Twins

variable {x : Action (Logged σ) α} {y : Action σ α} {l : List (Errand σ)}
  {Q R : List (Errand σ) → Except Failure α → World σ → Prop}

theorem mono (h : Twins x y w l Q) (hQ : ∀ es r v, Q es r v → R es r v) : Twins x y w l R := by
  obtain ⟨es, r, v, hx, hy, hr⟩ := h
  exact ⟨es, r, v, hx, hy, hQ es r v hr⟩

theorem and (h : Twins x y w l Q) (h' : Twins x y w l R) :
    Twins x y w l fun es r v => Q es r v ∧ R es r v := by
  obtain ⟨es, r, v, hx, hy, hQ⟩ := h
  obtain ⟨es', r', v', hx', hy', hR⟩ := h'
  obtain ⟨rfl, rfl⟩ := Prod.mk.inj (hy.symm.trans hy')
  have hlog := congrArg (·.2.outside.errands) (hx.symm.trans hx')
  obtain rfl : es = es' := by simpa [World.logged] using hlog
  exact ⟨es, r, v, hx, hy, hQ, hR⟩

theorem seen (h : Twins x y w [] Q) :
    Q (x.run.run (w.logged [])).2.outside.errands.reverse (y.run.run w).1 (y.run.run w).2 := by
  obtain ⟨es, r, v, hx, hy, hQ⟩ := h
  have herrands : (v.logged (es.reverse ++ [])).outside.errands.reverse = es := by
    simp [World.logged]
  rw [hx, hy, herrands]
  exact hQ

theorem pure {a : α} (h : Q [] (.ok a) w) : Twins (Pure.pure a) (Pure.pure a) w l Q :=
  ⟨[], .ok a, w, rfl, rfl, h⟩

theorem throw {e : Failure} (h : Q [] (.error e) w) :
    Twins (throwThe Failure e) (throwThe Failure e) w l Q :=
  ⟨[], .error e, w, rfl, rfl, h⟩

theorem bind {f : α → Action (Logged σ) β} {g : α → Action σ β}
    {Q : List (Errand σ) → Except Failure β → World σ → Prop}
    (h : Twins x y w l fun es r v => match r with
      | .ok a => Twins (f a) (g a) v (es.reverse ++ l) fun ds => Q (es ++ ds)
      | .error e => Q es (.error e) v) : Twins (x >>= f) (y >>= g) w l Q := by
  obtain ⟨es, e | a, v, hx, hy, h⟩ := h
  · exact ⟨es, .error e, v, by rw [bind_run, hx], by rw [bind_run, hy], h⟩
  · obtain ⟨ds, r, u, hf, hg, h⟩ := h
    refine ⟨es ++ ds, r, u, ?_, by rw [bind_run, hy]; exact hg, h⟩
    rw [bind_run, hx, List.reverse_append, List.append_assoc]
    exact hf

theorem get {f : World (Logged σ) → Action (Logged σ) α} {g : World σ → Action σ α}
    (h : Twins (f (w.logged l)) (g w) w l Q) :
    Twins (MonadState.get >>= f) (MonadState.get >>= g) w l Q := h

theorem ofExcept {s t r : Except Failure α} (hs : s = r) (ht : t = r) (h : Q [] r w) :
    Twins (MonadExcept.ofExcept s) (MonadExcept.ofExcept t) w l Q := by
  rw [hs, ht]
  cases r with
  | ok a => exact pure h
  | error e => exact throw h

theorem tell {level : Level} {message : String} {fields : List (String × String)}
    {Q : List (Errand σ) → Except Failure Unit → World σ → Prop}
    (h : Q [] (.ok ()) (w.told ⟨level, message, fields⟩)) :
    Twins (Action.tell level message fields) (Action.tell level message fields) w l Q :=
  ⟨[], .ok (), _, rfl, rfl, h⟩

theorem during {s : Stage} (h : Twins x y w l fun es r v => Q es (r.mapError (.during s)) v) :
    Twins (Action.during s x) (Action.during s y) w l Q := by
  obtain ⟨es, r, v, hx, hy, h⟩ := h
  exact ⟨es, _, v, by rw [during_run, hx], by rw [during_run, hy], h⟩

theorem pos {x' : Action (Logged σ) α} {y' : Action σ α} {p q : Prop} [Decidable p] [Decidable q]
    (hp : p) (hq : q) (h : Twins x y w l Q) :
    Twins (if p then x else x') (if q then y else y') w l Q := by
  rw [if_pos hp, if_pos hq]
  exact h

theorem neg {x' : Action (Logged σ) α} {y' : Action σ α} {p q : Prop} [Decidable p] [Decidable q]
    (hp : ¬ p) (hq : ¬ q) (h : Twins x' y' w l Q) :
    Twins (if p then x else x') (if q then y else y') w l Q := by
  rw [if_neg hp, if_neg hq]
  exact h

theorem log {q : Request}
    (h : Q [⟨q, w, (y.run.run w).2, none⟩] (y.run.run w).1 (y.run.run w).2) :
    Twins (Action.log q y) y w l Q :=
  ⟨_, _, _, rfl, rfl, h⟩

theorem call {r : Runner σ} {c : Command} {dir : Option String}
    {Q : List (Errand σ) → Except Failure (Except String CommandOutput) → World σ → Prop}
    (h : ∀ a v, (r c dir).run w = (a, v) → Q [⟨.run c dir, w, v, a.toOption⟩] (.ok a) v) :
    Twins (ExceptT.lift (r.logged c dir)) (ExceptT.lift (r c dir)) w l Q :=
  ⟨_, _, _, rfl, rfl, h _ _ rfl⟩

theorem mimics (hx : Mimics (·.logged l) x.run y.run) (h : Ends y w (Q [])) : Twins x y w l Q :=
  ⟨[], _, _, hx w, rfl, h⟩

end Twins

def Logs (x : Action (Logged σ) α) (y : Action σ α) : Prop :=
  ∀ w l, Twins x y w l fun es _ v => Trail w es v

namespace Logs

variable {x : Action (Logged σ) α} {y : Action σ α}

theorem pure (a : α) : Logs (Pure.pure a : Action (Logged σ) α) (Pure.pure a) :=
  fun w _ => .pure (.refl w)

theorem throw (e : Failure) : Logs (throwThe Failure e : Action (Logged σ) α) (throwThe Failure e) :=
  fun w _ => .throw (.refl w)

theorem tell (level : Level) (message : String) (fields : List (String × String)) :
    Logs (Action.tell (σ := Logged σ) level message fields) (Action.tell level message fields) :=
  fun w _ => .tell (.told _ (.refl w))

theorem log (q : Request) (y : Action σ α) : Logs (Action.log q y) y :=
  fun w _ => .log (.errand ⟨q, w, _, _⟩ (.refl w))

theorem call (r : Runner σ) (c : Command) (dir : Option String) :
    Logs (ExceptT.lift (r.logged c dir)) (ExceptT.lift (r c dir)) :=
  fun w _ => .call fun _ _ _ => .errand ⟨.run c dir, w, _, _⟩ (.refl w)

theorem get {f : World (Logged σ) → Action (Logged σ) α} {g : World σ → Action σ α}
    (h : ∀ w l, Logs (f (w.logged l)) (g w)) :
    Logs (MonadState.get >>= f) (MonadState.get >>= g) :=
  fun w l => .get (h w l w l)

theorem bind {f : α → Action (Logged σ) β} {g : α → Action σ β} (h : Logs x y)
    (hf : ∀ a, Logs (f a) (g a)) : Logs (x >>= f) (y >>= g) := by
  refine fun w l => .bind ((h w l).mono fun es r v htrail => ?_)
  cases r with
  | error e => exact htrail
  | ok a => exact (hf a v _).mono fun ds _ u hu => htrail.trans hu

theorem ite {x' : Action (Logged σ) α} {y' : Action σ α} {c : Prop} [Decidable c]
    (h : Logs x y) (h' : Logs x' y') : Logs (if c then x else x') (if c then y else y') := by
  split
  · exact h
  · exact h'

theorem during (s : Stage) (h : Logs x y) : Logs (Action.during s x) (Action.during s y) :=
  fun w l => .during (h w l)

end Logs
end Action

open Provision.Action

theorem Runner.attempt_logs (r : Runner σ) (policy : RetryPolicy) (c : Command) (dir : Option String)
    (n : Nat) (made : UInt32) :
    Logs (r.logged.attempt policy c dir n made) (r.attempt policy c dir n made) := by
  induction n generalizing made with
  | zero => exact .throw _
  | succ n ih =>
    refine .bind (.tell _ _ _) fun _ => .bind (.call r c dir) fun a => ?_
    cases a with
    | error reason => exact .bind (.tell _ _ _) fun _ => .throw _
    | ok output =>
      refine .ite (.bind (.tell _ _ _) fun _ => .pure _) (.ite ?_ (.throw _))
      exact .bind (.tell _ _ _) fun _ => ih _

namespace Acquirer

variable (s : Services σ) (c : Config) (dir : String) (f : Feature)

theorem unpackStaged_logs :
    Logs ((s.logged.acquirer c).unpackStaged dir f) ((s.acquirer c).unpackStaged dir f) := by
  refine .get fun w l => ?_
  exact .ite (.bind (.log _ _) fun _ => .pure _) (.throw _)

theorem unpackRelease_logs (state : CacheState) :
    Logs ((s.logged.acquirer c).unpackRelease dir f state)
      ((s.acquirer c).unpackRelease dir f state) := by
  refine .ite (.bind (.during _ (.log _ _)) fun _ => ?_) (.bind (.tell _ _ _) fun _ => ?_)
  · exact .bind (.log _ _) fun _ => .pure _
  · exact .bind (.log _ _) fun _ => .pure _

theorem download_logs :
    Logs ((s.logged.acquirer c).download dir f) ((s.acquirer c).download dir f) := by
  refine .ite (.bind (.throw _) fun _ => ?_) ?_
  all_goals
    refine .get fun w l => .bind (.tell _ _ _) fun _ => ?_
    refine .ite (.bind (.tell _ _ _) fun _ => .pure _) ?_
    exact .ite (unpackStaged_logs s c dir f) (unpackRelease_logs s c dir f _)

theorem build_logs : Logs ((s.logged.acquirer c).build dir f) ((s.acquirer c).build dir f) := by
  refine .bind (.tell _ _ _) fun _ => .bind (.during _ ?_) fun _ => .pure _
  exact Runner.attempt_logs s.runner _ _ _ _ _

end Acquirer
end Provision
