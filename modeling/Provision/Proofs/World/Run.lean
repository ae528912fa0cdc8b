import Provision.Proofs.Disk.Growth
import Provision.World

/-!
How actions run. `Runs` and `Ends` say that what a run gives, and the world in which it ends, are as
told; there is one rule for each way to build an action. `Along` follows the disk through a run.
-/

namespace Provision

variable {σ α β : Type} {w v u : World σ}

def Runs (x : StateM (World σ) α) (w : World σ) (Q : α → World σ → Prop) : Prop :=
  Q (x.run w).1 (x.run w).2

namespace Runs

variable {x : StateM (World σ) α} {Q R : α → World σ → Prop}

theorem intro (h : ∀ a v, x.run w = (a, v) → Q a v) : Runs x w Q := h _ _ rfl

theorem mono (h : Runs x w Q) (hQ : ∀ a v, Q a v → R a v) : Runs x w R := hQ _ _ h

theorem pure {a : α} (h : Q a w) : Runs (Pure.pure a) w Q := h

theorem bind {f : α → StateM (World σ) β} {Q : β → World σ → Prop}
    (h : Runs x w fun a v => Runs (f a) v Q) : Runs (x >>= f) w Q := h

theorem get {f : World σ → StateM (World σ) β} {Q : β → World σ → Prop} (h : Runs (f w) w Q) :
    Runs (MonadState.get >>= f) w Q := h

end Runs

namespace World

def changed (w : World σ) (d : Disk) : World σ := { w with disk := d, past := w.disk :: w.past }

@[simp] theorem changed_disk (w : World σ) (d : Disk) : (w.changed d).disk = d := rfl

@[simp] theorem changed_past (w : World σ) (d : Disk) : (w.changed d).past = w.disk :: w.past := rfl

def told (w : World σ) (e : Event) : World σ := { w with events := e :: w.events }

def napped (w : World σ) (n : Nat) : World σ := { w with naps := n :: w.naps }

structure Quiet (w v : World σ) : Prop where
  disk : v.disk = w.disk
  past : v.past = w.past
  cwd : v.cwd = w.cwd

namespace Quiet

theorem refl (w : World σ) : Quiet w w := ⟨rfl, rfl, rfl⟩

theorem isDir (h : Quiet w v) (p : String) : v.isDir p = w.isDir p := by
  rw [World.isDir, World.isDir, h.disk, h.cwd]

theorem isFile (h : Quiet w v) (p : String) : v.isFile p = w.isFile p := by
  rw [World.isFile, World.isFile, h.disk, h.cwd]

theorem told (h : Quiet w v) (e : Event) : Quiet w (v.told e) := ⟨h.disk, h.past, h.cwd⟩

end Quiet

/-- From one world to another the disk is always as told, and nobody moves. -/
structure Along (I : Disk → Prop) (w v : World σ) : Prop where
  cwd : v.cwd = w.cwd
  now : I v.disk
  before : ∃ l, v.past = l ++ w.past ∧ w.disk ∈ v.disk :: l ∧ ∀ d ∈ l, I d

namespace Along

variable {I J K : Disk → Prop}

theorem refl (h : I w.disk) : Along I w w := ⟨rfl, h, [], rfl, by simp, by simp⟩

theorem start (h : Along I w v) : I w.disk := by
  obtain ⟨l, -, hw, hI⟩ := h.before
  obtain hw | hw := List.mem_cons.1 hw
  · exact hw ▸ h.now
  · exact hI _ hw

theorem trans (h : Along I w v) (h' : Along I v u) : Along I w u := by
  obtain ⟨l, hl, hw, hI⟩ := h.before
  obtain ⟨m, hm, hv, hJ⟩ := h'.before
  refine ⟨h'.cwd.trans h.cwd, h'.now, m ++ l, by rw [hm, hl, List.append_assoc], ?_, ?_⟩
  · obtain hw | hw := List.mem_cons.1 hw
    · rw [hw, ← List.cons_append]
      exact List.mem_append_left l hv
    · simp [hw]
  · intro d hd
    obtain hd | hd := List.mem_append.1 hd
    · exact hJ d hd
    · exact hI d hd

theorem mono (h : Along I w v) (hI : ∀ d, I d → J d) : Along J w v := by
  obtain ⟨l, hl, hw, hd⟩ := h.before
  exact ⟨h.cwd, hI _ h.now, l, hl, hw, fun d hm => hI d (hd d hm)⟩

theorem changed {d : Disk} (h : Along I w v) (hd : I d) : Along I w (v.changed d) := by
  obtain ⟨l, hl, hw, hI⟩ := h.before
  refine ⟨h.cwd, hd, v.disk :: l, by simp [hl], List.mem_cons_of_mem d hw, ?_⟩
  intro e he
  obtain rfl | he := List.mem_cons.1 he
  · exact h.now
  · exact hI e he

theorem quiet (h : Along I w v) (hq : Quiet v u) : Along I w u := by
  obtain ⟨l, hl, hw, hI⟩ := h.before
  exact ⟨hq.cwd.trans h.cwd, hq.disk ▸ h.now, l, hq.past.trans hl, hq.disk ▸ hw, hI⟩

theorem and (h : Along I w v) (h' : Along J w v) : Along (fun d => I d ∧ J d) w v := by
  obtain ⟨l, hl, hw, hI⟩ := h.before
  obtain ⟨m, hm, -, hJ⟩ := h'.before
  obtain rfl : l = m := List.append_cancel_right (hl.symm.trans hm)
  exact ⟨h.cwd, ⟨h.now, h'.now⟩, l, hl, hw, fun d hd => ⟨hI d hd, hJ d hd⟩⟩

theorem split (h : Along I w u) (hv : Along J w v) (hu : Along K v u) :
    Along I w v ∧ Along I v u := by
  obtain ⟨l, hl, -, hI⟩ := h.before
  obtain ⟨m, hm, hw, -⟩ := hv.before
  obtain ⟨n, hn, hv', -⟩ := hu.before
  obtain rfl : l = n ++ m := by
    rw [hn, hm, ← List.append_assoc] at hl
    exact (List.append_cancel_right hl).symm
  have hnow : I v.disk := by
    obtain hv' | hv' := List.mem_cons.1 hv'
    · exact hv' ▸ h.now
    · exact hI _ (List.mem_append_left m hv')
  exact ⟨⟨hv.cwd, hnow, m, hm, hw, fun d hd => hI d (List.mem_append_right n hd)⟩,
    ⟨hu.cwd, h.now, n, hn, hv', fun d hd => hI d (List.mem_append_left m hd)⟩⟩

end Along

structure Lasts (P : Disk → Prop) (w v : World σ) : Prop where
  cwd : v.cwd = w.cwd
  after : ∃ l, v.past = l ++ w.past ∧ ∀ d ∈ w.disk :: l, P d → P v.disk

namespace Lasts

variable {P : Disk → Prop}

theorem last (h : Lasts P w v) (hw : P w.disk) : P v.disk := by
  obtain ⟨l, -, hl⟩ := h.after
  exact hl _ (by simp) hw

theorem refl (w : World σ) : Lasts P w w := ⟨rfl, [], rfl, by simp⟩

theorem trans (h : Lasts P w v) (h' : Lasts P v u) : Lasts P w u := by
  obtain ⟨l, hl, hP⟩ := h.after
  obtain ⟨m, hm, hP'⟩ := h'.after
  refine ⟨h'.cwd.trans h.cwd, m ++ l, by rw [hm, hl, List.append_assoc], ?_⟩
  intro d hd hPd
  simp only [List.mem_cons, List.mem_append] at hd hP hP'
  obtain rfl | hd | hd := hd
  · exact h'.last (h.last hPd)
  · exact hP' d (.inr hd) hPd
  · exact h'.last (hP d (.inr hd) hPd)

theorem changed {d : Disk} (h : P w.disk → P d) : Lasts P w (w.changed d) :=
  ⟨rfl, [w.disk], rfl, by simpa using h⟩

theorem quiet (h : Lasts P w v) (hq : Quiet v u) : Lasts P w u := by
  obtain ⟨l, hl, hP⟩ := h.after
  exact ⟨hq.cwd.trans h.cwd, l, hq.past.trans hl, by rwa [hq.disk]⟩

end Lasts
end World

namespace Action

variable {x : Action σ α} {Q R : Except Failure α → World σ → Prop}

theorem step_run (s : Step) (x : StateM (World σ) (Except DiskError α)) (w : World σ) :
    (step s x).run.run w = ((x.run w).1.mapError fun e => .step s (.disk e), (x.run w).2) := by
  obtain ⟨r, v, hx⟩ : ∃ r v, x.run w = (r, v) := ⟨_, _, rfl⟩
  have hlift : (liftM x : Action σ (Except DiskError α)).run = Except.ok <$> x := rfl
  rw [step, ExceptT.run_bind, hlift, StateT.run_bind, StateT.run_map, hx]
  cases r with
  | ok a => rfl
  | error e => rfl

theorem change_run (f : Disk → Location → Except DiskError Disk) (w : World σ) :
    (change f).run w = match f w.disk w.cwd with
      | .ok d => (.ok (), w.changed d)
      | .error e => (.error e, w) := by
  have h : (change f).run w = (match f w.disk w.cwd with
    | .ok d => (do putDisk d; return .ok ())
    | .error e => return .error e : StateM (World σ) (Except DiskError Unit)).run w := rfl
  rw [h]
  cases f w.disk w.cwd <;> rfl

theorem bind_run (x : Action σ α) (f : α → Action σ β) (w : World σ) :
    (x >>= f).run.run w = match x.run.run w with
      | (.ok a, v) => (f a).run.run v
      | (.error e, v) => (.error e, v) := by
  have h : (x >>= f).run.run w = (ExceptT.bindCont f (x.run.run w).1).run (x.run.run w).2 := rfl
  rw [h]
  obtain ⟨_ | a, v⟩ := x.run.run w
  · rfl
  · rfl

theorem during_run (s : Stage) (x : Action σ α) (w : World σ) :
    (during s x).run.run w = ((x.run.run w).1.mapError (.during s), (x.run.run w).2) := rfl

theorem exists_run {r : Except Failure α} (h : (x.run.run w).1 = r) : ∃ v, x.run.run w = (r, v) :=
  ⟨_, Prod.ext h rfl⟩

def Ends (x : Action σ α) (w : World σ) (Q : Except Failure α → World σ → Prop) : Prop :=
  Runs x.run w Q

namespace Ends

theorem intro (h : ∀ r v, x.run.run w = (r, v) → Q r v) : Ends x w Q := h _ _ rfl

theorem of_run {r : Except Failure α} (h : Ends x w Q) (hx : x.run.run w = (r, v)) : Q r v := by
  rw [Ends, Runs, hx] at h
  exact h

theorem mono (h : Ends x w Q) (hQ : ∀ r v, Q r v → R r v) : Ends x w R := hQ _ _ h

theorem iff_of_run {r : Except Failure α} (hx : x.run.run w = (r, v)) : Ends x w Q ↔ Q r v := by
  rw [Ends, Runs, hx]

theorem and (h : Ends x w Q) (h' : Ends x w R) : Ends x w fun r v => Q r v ∧ R r v := ⟨h, h'⟩

theorem pure {a : α} (h : Q (.ok a) w) : Ends (Pure.pure a : Action σ α) w Q := h

theorem throw {f : Failure} (h : Q (.error f) w) : Ends (throwThe Failure f : Action σ α) w Q := h

theorem ofExcept {r : Except Failure α} (h : Q r w) : Ends (MonadExcept.ofExcept r) w Q := by
  cases r with
  | error e => exact throw h
  | ok a => exact pure h

theorem bind_iff {f : α → Action σ β} {Q : Except Failure β → World σ → Prop} :
    Ends (x >>= f) w Q ↔ Ends x w fun r v => match r with
      | .ok a => Ends (f a) v Q
      | .error e => Q (.error e) v := by
  simp only [Ends, Runs, bind_run]
  generalize x.run.run w = r
  obtain ⟨_ | a, v⟩ := r
  · exact Iff.rfl
  · exact Iff.rfl

theorem bind {f : α → Action σ β} {Q : Except Failure β → World σ → Prop}
    (h : Ends x w fun r v => match r with
      | .ok a => Ends (f a) v Q
      | .error e => Q (.error e) v) : Ends (x >>= f) w Q := bind_iff.2 h

theorem seq {f : α → Action σ β} {P : World σ → Prop} (h : Ends x w fun _ v => P v)
    (hf : ∀ a v, P v → Ends (f a) v fun _ u => P u) : Ends (x >>= f) w fun _ u => P u := by
  refine bind (h.mono fun r v hv => ?_)
  cases r with
  | error e => exact hv
  | ok a => exact hf a v hv

theorem get_iff {f : World σ → Action σ β} {Q : Except Failure β → World σ → Prop} :
    Ends (MonadState.get >>= f) w Q ↔ Ends (f w) w Q := Iff.rfl

theorem get {f : World σ → Action σ β} {Q : Except Failure β → World σ → Prop}
    (h : Ends (f w) w Q) : Ends (MonadState.get >>= f) w Q := get_iff.2 h

theorem tell {level : Level} {message : String} {fields : List (String × String)}
    {Q : Except Failure Unit → World σ → Prop}
    (h : Q (.ok ()) (w.told ⟨level, message, fields⟩)) :
    Ends (Action.tell level message fields) w Q := h

theorem nap {n : Nat} {Q : Except Failure Unit → World σ → Prop}
    (h : Q (.ok ()) (w.napped n)) : Ends (Action.nap n) w Q := h

theorem changeDisk {f : Disk → Disk} {Q : Except Failure Unit → World σ → Prop}
    (h : Q (.ok ()) (w.changed (f w.disk))) : Ends (Action.changeDisk f) w Q := h

theorem lift {x : StateM (World σ) α} (h : Runs x w fun a v => Q (.ok a) v) :
    Ends (ExceptT.lift x) w Q := h

theorem step {s : Step} {x : StateM (World σ) (Except DiskError α)}
    (h : Runs x w fun r v => match r with
      | .ok a => Q (.ok a) v
      | .error e => Q (.error (.step s (.disk e))) v) : Ends (Action.step s x) w Q := by
  refine bind (x := ExceptT.lift x) (lift (h.mono ?_))
  rintro (e | a) v hv
  · exact throw hv
  · exact pure hv

theorem during {s : Stage} (h : Ends x w fun r v => Q (r.mapError (.during s)) v) :
    Ends (Action.during s x) w Q := by
  simp only [Ends, Runs, during_run] at h ⊢
  exact h

theorem step_change_iff {s : Step} {f : Disk → Location → Except DiskError Disk}
    {P : World σ → Prop} : Ends (Action.step s (change f)) w (fun r v => r = .ok () ∧ P v) ↔
      ∃ d, f w.disk w.cwd = .ok d ∧ P (w.changed d) := by
  rw [Ends, Runs, step_run, change_run]
  cases f w.disk w.cwd with
  | ok d =>
    refine ⟨fun h => ⟨d, rfl, h.2⟩, ?_⟩
    rintro ⟨_, ⟨⟩, h⟩
    exact ⟨rfl, h⟩
  | error e =>
    refine iff_of_false (fun h => by cases h.1) ?_
    rintro ⟨_, ⟨⟩, _⟩

theorem step_change_bind_iff {s : Step} {f : Disk → Location → Except DiskError Disk}
    {g : Unit → Action σ α} {a : α} {P : World σ → Prop} :
    Ends (Action.step s (change f) >>= g) w (fun r v => r = .ok a ∧ P v) ↔
      ∃ d, f w.disk w.cwd = .ok d ∧ Ends (g ()) (w.changed d) fun r v => r = .ok a ∧ P v := by
  rw [Ends.bind_iff, Ends, Runs, step_run, change_run]
  cases f w.disk w.cwd with
  | ok d =>
    refine ⟨fun h => ⟨d, rfl, h⟩, ?_⟩
    rintro ⟨_, ⟨⟩, h⟩
    exact h
  | error e =>
    refine iff_of_false (fun h => by cases h.1) ?_
    rintro ⟨_, ⟨⟩, _⟩

end Ends
end Action

namespace Runs

open Provision.Action

theorem change {f : Disk → Location → Except DiskError Disk}
    {Q : Except DiskError Unit → World σ → Prop}
    (hok : ∀ d, f w.disk w.cwd = .ok d → Q (.ok ()) (w.changed d))
    (herr : ∀ e, f w.disk w.cwd = .error e → Q (.error e) w) : Runs (Action.change f) w Q := by
  refine get ?_
  split
  · exact hok _ ‹_›
  · exact herr _ ‹_›

theorem changeWith {f : Disk → Location → Except DiskError (Disk × α)}
    {Q : Except DiskError α → World σ → Prop}
    (hok : ∀ d a, f w.disk w.cwd = .ok (d, a) → Q (.ok a) (w.changed d))
    (herr : ∀ e, f w.disk w.cwd = .error e → Q (.error e) w) : Runs (Action.changeWith f) w Q := by
  refine get ?_
  split
  · exact hok _ _ ‹_›
  · exact herr _ ‹_›

theorem change_ok {f : Disk → Location → Except DiskError Disk} {d : Disk}
    {Q : Except DiskError Unit → World σ → Prop} (h : f w.disk w.cwd = .ok d)
    (hQ : Q (.ok ()) (w.changed d)) : Runs (Action.change f) w Q := by
  refine change ?_ ?_
  · intro e he
    cases h.symm.trans he
    exact hQ
  · intro e he
    cases h.symm.trans he

theorem changeWith_ok {f : Disk → Location → Except DiskError (Disk × α)} {d : Disk} {a : α}
    {Q : Except DiskError α → World σ → Prop} (h : f w.disk w.cwd = .ok (d, a))
    (hQ : Q (.ok a) (w.changed d)) : Runs (Action.changeWith f) w Q := by
  refine changeWith ?_ ?_
  · intro e b he
    cases h.symm.trans he
    exact hQ
  · intro e he
    cases h.symm.trans he

theorem ask {f : Disk → Location → Except DiskError α} {Q : Except DiskError α → World σ → Prop}
    (h : Q (f w.disk w.cwd) w) : Runs (Action.ask f) w Q := h

end Runs

namespace Action

open World

def Maintains (I : Disk → Prop) (c : Location) (x : StateM (World σ) α) : Prop :=
  ∀ w, w.cwd = c → I w.disk → Runs x w fun _ v => Along I w v

namespace Maintains

variable {I : Disk → Prop} {c : Location}

section

variable {x : StateM (World σ) α} {f : α → StateM (World σ) β}

theorem pure (a : α) : Maintains I c (Pure.pure a : StateM (World σ) α) :=
  fun _ _ hI => .refl hI

theorem bind (h : Maintains I c x) (hf : ∀ a, Maintains I c (f a)) :
    Maintains I c (x >>= f) := by
  intro w hc hI
  refine Runs.bind ((h w hc hI).mono fun a v hv => ?_)
  exact (hf a v (hv.cwd.trans hc) hv.now).mono fun b u hu => hv.trans hu

theorem change {f : Disk → Location → Except DiskError Disk}
    (h : ∀ {d d'}, I d → f d c = .ok d' → I d') : Maintains (σ := σ) I c (Action.change f) := by
  rintro w rfl hI
  refine Runs.change ?_ ?_
  · exact fun d hd => (Along.refl hI).changed (h hI hd)
  · exact fun _ _ => .refl hI

theorem changeWith {f : Disk → Location → Except DiskError (Disk × α)}
    (h : ∀ {d d' a}, I d → f d c = .ok (d', a) → I d') :
    Maintains (σ := σ) I c (Action.changeWith f) := by
  rintro w rfl hI
  refine Runs.changeWith ?_ ?_
  · exact fun d a hd => (Along.refl hI).changed (h hI hd)
  · exact fun _ _ => .refl hI

end

variable {x : Action σ α} {f : α → Action σ β}

theorem ret (a : α) : Maintains I c (Pure.pure a : Action σ α).run := fun _ _ hI => .refl hI

theorem throw (e : Failure) : Maintains I c (throwThe Failure e : Action σ α).run :=
  fun _ _ hI => .refl hI

theorem thrown (e : Failure) (f : α → Action σ β) :
    Maintains I c ((throwThe Failure e : Action σ α) >>= f).run :=
  fun _ _ hI => Ends.bind (Ends.throw (Along.refl hI))

theorem changeDisk {f : Disk → Disk} (h : ∀ {d}, I d → I (f d)) :
    Maintains I c (Action.changeDisk (σ := σ) f).run :=
  fun _ _ hI => (Along.refl hI).changed (h hI)

theorem step {x : StateM (World σ) (Except DiskError α)} (s : Step) (h : Maintains I c x) :
    Maintains I c (Action.step s x).run := by
  intro w hc hI
  refine Ends.step ((h w hc hI).mono fun r v hv => ?_)
  cases r <;> exact hv

theorem seq (h : Maintains I c x.run) (hf : ∀ a, Maintains I c (f a).run) :
    Maintains I c (x >>= f).run := by
  intro w hc hI
  refine Ends.seq (h w hc hI) fun a v hv => ?_
  exact (hf a v (hv.cwd.trans hc) hv.now).mono fun _ u hu => hv.trans hu

theorem get {f : World σ → Action σ β} (hf : ∀ w, Maintains I c (f w).run) :
    Maintains I c (MonadState.get >>= f : Action σ β).run :=
  fun w hc hI => hf w w hc hI

end Maintains
end Action
end Provision
