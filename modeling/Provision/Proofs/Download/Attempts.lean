import Mathlib.Algebra.Group.Nat.Defs
import Provision.Proofs.Download.TempFile
import Provision.Proofs.Retry.Turns

namespace Provision.Download

open Provision.Action RetryPolicy World

variable {σ : Type} {net : Network σ} {policy : RetryPolicy} {url dest temp : String}
  {made : UInt32} {w u v : World σ} {r : Except Failure Unit}

theorem outside_ends {α : Type} {x : StateM σ α} {Q : Except Failure α → World σ → Prop}
    (h : Q (.ok (x.run w.outside).1) { w with outside := (x.run w.outside).2 }) :
    Ends (outside x) w Q := h

/-- Asked in this world, the server gives a successful answer, to be read to its end. -/
def Received (net : Network σ) (url : String) (w : World σ) (body : Bytes) : Prop :=
  ∃ u status chunks, Url.ofText? url = some u ∧ u.isFetchable = true ∧ isSuccess status = true ∧
    ((net.respond u).run w.outside).1 = .answer status chunks true ∧ body = chunks.flatten

section Once

open Disk

variable {P : Disk} {c X : Location} {x : String} {id : FileId} {body : Bytes}

theorem writeChunks_staged {T : Location} (chunks : List Bytes) (hw : Staged P T w.disk)
    (hf : Filled w.disk T id body) :
    Ends (writeChunks id chunks) w fun r v =>
      r = .ok () ∧ Along (Staged P T) w v ∧ Filled v.disk T id (body ++ chunks.flatten) := by
  induction chunks generalizing w body with
  | nil => exact Ends.pure ⟨rfl, .refl hw, by simpa using hf⟩
  | cons b bs ih =>
    obtain ⟨hstaged, hfilled⟩ := hw.appendData hf b
    refine Ends.bind (Ends.changeDisk ((ih hstaged hfilled).mono ?_))
    rintro r v ⟨rfl, hv, hbody⟩
    refine ⟨rfl, ((Along.refl hw).changed hstaged).trans hv, ?_⟩
    rwa [List.flatten_cons, ← List.append_assoc]

theorem once_along {I : Disk → Prop} {G : Disk → Bytes → Prop} (hw : I w.disk)
    (hwrite : ∀ d id, w.disk.openForWriting w.cwd temp = .ok (d, id) → I d ∧
      ∀ chunks u, u.disk = d → Ends (writeChunks (σ := σ) id chunks) u fun r v =>
        r = .ok () ∧ Along I u v ∧ G v.disk chunks.flatten) :
    Ends (once net url temp) w fun r v => Along I w v ∧
      ∀ n, r = .ok n → ∃ body, Received net url w body ∧ G v.disk body ∧ n = body.length := by
  rw [once]
  cases hu : Url.ofText? url with
  | none => exact Ends.throw ⟨.refl hw, fun _ h => by cases h⟩
  | some u =>
    dsimp only
    split
    · exact Ends.bind (Ends.throw ⟨.refl hw, fun _ h => by cases h⟩)
    rename_i hfetch
    refine Ends.bind (outside_ends ?_)
    have hquiet : Along I w { w with outside := ((net.respond u).run w.outside).2 } :=
      (Along.refl hw).quiet ⟨rfl, rfl, rfl⟩
    dsimp only
    split
    · exact Ends.throw ⟨hquiet, fun _ h => by cases h⟩
    rename_i status chunks complete hanswer
    split
    · exact Ends.bind (Ends.throw ⟨hquiet, fun _ h => by cases h⟩)
    rename_i hsuccess
    refine Ends.bind (Ends.step (Runs.changeWith ?_ ?_))
    · intro d id hd
      obtain ⟨hopened, hchunks⟩ := hwrite d id hd
      refine Ends.bind ((hchunks chunks _ rfl).mono ?_)
      rintro r v ⟨rfl, hv, hbody⟩
      have hall := (hquiet.changed hopened).trans hv
      dsimp only
      split
      · exact Ends.bind (Ends.throw ⟨hall, fun _ h => by cases h⟩)
      · rename_i hcomplete
        refine Ends.pure ⟨hall, fun n hn => ?_⟩
        obtain rfl : complete = true := by simpa using hcomplete
        refine ⟨chunks.flatten, ⟨u, status, chunks, hu, by simpa using hfetch,
          by simpa using hsuccess, hanswer, rfl⟩, hbody, ?_⟩
        cases hn
        rw [List.length_flatten]
    · intro e he
      exact ⟨hquiet, fun _ h => by cases h⟩

theorem once_staged (hP : P.Alone (x :: X)) (hX : P.nodeAt X = some .directory)
    (hslot : P.slot w.cwd temp = .ok ⟨X, some x, false⟩) (hw : Staged P (x :: X) w.disk) :
    Ends (once net url temp) w fun r v => Along (Staged P (x :: X)) w v ∧
      ∀ n, r = .ok n → ∃ body, Received net url w body ∧
        (∃ id, Filled v.disk (x :: X) id body) ∧ n = body.length := by
  have hkeeps := hw.keeps hP
  refine once_along (G := fun d body => ∃ id, Filled d (x :: X) id body) hw ?_
  intro d id hd
  obtain ⟨hd, hfilled⟩ := hw.openForWriting (hkeeps.directory hX) (hkeeps.slot hslot) hd
  refine ⟨hd, ?_⟩
  rintro chunks u rfl
  exact (writeChunks_staged chunks hd hfilled).mono fun r v h => ⟨h.1, h.2.1, id, h.2.2⟩

theorem once_stuck {e : DiskError} (hslot : P.slot w.cwd temp = .error e) (hw : w.disk = P) :
    Ends (once net url temp) w fun r v => Along (· = P) w v ∧ ∀ n, r ≠ .ok n := by
  have hnot : ∀ f spot, P.locate w.cwd f temp ≠ .ok spot := by
    intro f spot h
    obtain ⟨sl, hsl⟩ := slot_of_locate h
    cases hslot.symm.trans hsl
  refine (once_along (I := (· = P)) (G := fun _ _ => False) hw ?_).mono ?_
  · intro d id hd
    obtain ⟨l, hl, -⟩ | ⟨l, g, hl, -⟩ := openForWriting_eq_ok hd
    · exact absurd (hw ▸ hl) (hnot _ _)
    · exact absurd (hw ▸ hl) (hnot _ _)
  · rintro r v ⟨hv, hr⟩
    refine ⟨hv, fun n hn => ?_⟩
    obtain ⟨body, -, hfalse, -⟩ := hr n hn
    exact hfalse

end Once

structure Try (σ : Type) where
  start : World σ
  result : Except Failure Nat
  finish : World σ

variable {ts : List (Try σ)}

def Try.Made (t : Try σ) (net : Network σ) (url temp : String) : Prop :=
  (once net url temp).run.run t.start = (t.result, t.finish)

def announcement (url dest : String) (k : Nat) : Event :=
  ⟨.info, "Downloading LLVM archive", [("url", url), ("attempt", toString k), ("dest", dest)]⟩

def tried (net : Network σ) (url dest : String) (n : UInt32) (w : World σ) : Try σ :=
  let start := w.told (announcement url dest n.toNat)
  ⟨start, ((once net url (tempPath dest)).run.run start).1,
    ((once net url (tempPath dest)).run.run start).2⟩

def cleared (temp : String) (w : World σ) : World σ :=
  ((change (σ := σ) (·.unlink · temp)).run w).2

def paused (net : Network σ) (retry : UInt32) (f : Failure) (w : World σ) : World σ :=
  let (drawn, s) := (net.draw (2 * jitter retry)).run w.outside
  let pause := delay retry drawn
  let event : Event := ⟨.warn, "Download failed, retrying",
    [("error", f.message), ("retry_in_ms", toString pause)]⟩
  ({ w with outside := s }.told event).napped pause

def finish (dest : String) (size : Nat) : Action σ Unit := do
  Action.step (.rename (tempPath dest) dest) (Action.change (·.moveName · (tempPath dest) dest))
  Action.tell .info "Download complete" [("size", Size.text (.ofNat size))]

def conclude (net : Network σ) (dest : String) (attempts : UInt32) :
    Except Failure Nat → World σ → Turn σ Unit
  | .ok size, v => .settled ((finish dest size).run.run v).1 ((finish dest size).run.run v).2
  | .error f, v => .failed f.chain f (cleared (tempPath dest) v)
      (paused net (attempts - 1) f (cleared (tempPath dest) v))

def turn (net : Network σ) (url dest : String) (attempts : UInt32) (w : World σ) : Turn σ Unit :=
  let t := tried net url dest attempts w
  conclude net dest attempts t.result t.finish

theorem attempt_turns (net : Network σ) (p : RetryPolicy) (url dest : String) (n : Nat)
    (made : UInt32) (w : World σ) : Ends (attempt net p url dest n made) w fun r v =>
      (r, v) = p.turns (turn net url dest) n made w := by
  induction n generalizing made w with
  | zero => exact Ends.throw rfl
  | succ n ih =>
    refine Ends.bind (Ends.tell (Ends.bind (Ends.lift (Runs.intro fun r v hrun => ?_))))
    have hturn : turn net url dest (made + 1) w = conclude net dest (made + 1) r v := by
      have hmade : (once net url (tempPath dest)).run.run
          (w.told (announcement url dest (made + 1).toNat)) = (r, v) := hrun
      simp only [turn, tried, hmade]
    cases r with
    | ok size =>
      rw [turns_settled hturn]
      exact Ends.intro (x := finish dest size) fun r v h => h.symm
    | error f =>
      rw [turns_failed hturn]
      refine Ends.bind (Ends.lift (Runs.intro fun a u hu => ?_))
      have hclear : cleared (tempPath dest) v = u := congrArg Prod.snd hu
      rw [hclear]
      dsimp only
      cases p.shouldRetry (made + 1) f.chain with
      | true =>
        refine Ends.bind (outside_ends (Ends.bind (Ends.tell (Ends.bind (Ends.nap ?_)))))
        exact ih _ _
      | false => exact Ends.throw rfl

theorem attempts_turns {Q : Except Failure Unit → World σ → Prop} :
    Ends (attempt net policy url dest policy.attempts 0) w Q ↔
      Q (policy.turns (turn net url dest) policy.attempts 0 w).1
        (policy.turns (turn net url dest) policy.attempts 0 w).2 :=
  Ends.iff_of_run (attempt_turns net policy url dest policy.attempts 0 w)

/-- What comes of the last attempt, and where that ends. -/
inductive Conclusion (policy : RetryPolicy) (dest : String) (made : UInt32) (t : Try σ) :
    Except Failure Unit → World σ → Prop where
  | moved {size : Nat} {d : Disk} (whole : t.result = .ok size)
      (moving : t.finish.disk.moveName t.finish.cwd (tempPath dest) dest = .ok d) :
    Conclusion policy dest made t (.ok ()) ((t.finish.changed d).told
      ⟨.info, "Download complete", [("size", Size.text (.ofNat size))]⟩)
  | unmoved {size : Nat} {e : DiskError} (whole : t.result = .ok size)
      (moving : t.finish.disk.moveName t.finish.cwd (tempPath dest) dest = .error e) :
    Conclusion policy dest made t (.error (.step (.rename (tempPath dest) dest) (.disk e))) t.finish
  | failed {f : Failure} (failure : t.result = .error f)
      (last : policy.shouldRetry (made + 1) f.chain = false) :
    Conclusion policy dest made t (.error f) (cleared (tempPath dest) t.finish)

/-- How attempts go after those `made`: which there are, what comes of them, and where they end. -/
inductive Course (net : Network σ) (policy : RetryPolicy) (url dest : String) :
    UInt32 → World σ → List (Try σ) → Except Failure Unit → World σ → Prop where
  | last {made : UInt32} {w v : World σ} {t : Try σ} {r : Except Failure Unit}
      (begun : t.start = w.told (announcement url dest (made + 1).toNat))
      (attempt : t.Made net url (tempPath dest)) (conclusion : Conclusion policy dest made t r v) :
    Course net policy url dest made w [t] r v
  | retried {made : UInt32} {w v : World σ} {t : Try σ} {ts : List (Try σ)} {f : Failure}
      {r : Except Failure Unit}
      (begun : t.start = w.told (announcement url dest (made + 1).toNat))
      (attempt : t.Made net url (tempPath dest)) (failure : t.result = .error f)
      (again : policy.shouldRetry (made + 1) f.chain = true)
      (rest : Course net policy url dest (made + 1)
        (paused net made f (cleared (tempPath dest) t.finish)) ts r v) :
    Course net policy url dest made w (t :: ts) r v

theorem conclusion_finish {t : Try σ} {size : Nat} (whole : t.result = .ok size) :
    Ends (finish dest size) t.finish fun r v => Conclusion policy dest made t r v :=
  Ends.bind (Ends.step (Runs.change (fun _ hd => Ends.tell (.moved whole hd))
    fun _ he => .unmoved whole he))

theorem Course.of_turn (h : (turn net url dest (made + 1) w).next? policy = .none ∨
      ¬ made + 1 ≤ policy.maxRetries) :
    Course net policy url dest made w [tried net url dest (made + 1) w]
      (turn net url dest (made + 1) w).outcome.1 (turn net url dest (made + 1) w).outcome.2 := by
  refine .last rfl rfl ?_
  rw [turn] at h ⊢
  cases hr : (tried net url dest (made + 1) w).result with
  | ok size => exact conclusion_finish hr
  | error f =>
    refine .failed hr ?_
    obtain h | h := h
    · simp only [hr, conclude, Turn.next?] at h
      split at h
      · cases h
      · simp [shouldRetry, *]
    · simp [shouldRetry, h]

theorem Course.of_next (h : (turn net url dest (made + 1) w).next? policy = some u)
    (hle : made + 1 ≤ policy.maxRetries) (hrest : Course net policy url dest (made + 1) u ts r v) :
    Course net policy url dest made w (tried net url dest (made + 1) w :: ts) r v := by
  rw [turn] at h
  cases hr : (tried net url dest (made + 1) w).result with
  | ok size => simp [hr, conclude, Turn.next?] at h
  | error f =>
    simp only [hr, conclude, Turn.next?, UInt32.add_sub_cancel] at h
    split at h
    · rename_i hmatch
      obtain rfl := Option.some.inj h
      exact .retried rfl rfl hr (by simp [shouldRetry, hle, hmatch]) hrest
    · cases h

/-- The attempts that are worn out come before those that are made from there. -/
theorem Course.of_worn {i : Nat} (hi : i ≤ policy.maxRetries.toNat)
    (hworn : policy.worn (turn net url dest) i w = some u)
    (h : Course net policy url dest (.ofNat i) u ts r v) :
    ∃ ts, Course net policy url dest 0 w ts r v := by
  induction i generalizing u ts with
  | zero =>
    obtain rfl : w = u := Option.some.inj hworn
    exact ⟨ts, h⟩
  | succ i ih =>
    obtain ⟨v, hv, hnext⟩ := Option.bind_eq_some_iff.1 hworn
    rw [← ofNat_succ] at h hnext
    have hle : UInt32.ofNat i + 1 ≤ policy.maxRetries := ofNat_succ i ▸ ofNat_le_maxRetries hi
    exact ih (by omega) hv (h.of_next hnext hle)

theorem attempt_course (hmax : policy.maxRetries.toNat < 2 ^ 32 - 1) :
    Ends (attempt net policy url dest policy.attempts 0) w fun r v =>
      ∃ ts, Course net policy url dest 0 w ts r v := by
  have hnot : ¬ policy.Wraps (turn net url dest) w := fun h => by
    have hcount := h.1
    omega
  obtain ⟨i, u, hl⟩ := exists_last hnot
  rw [attempts_turns, hl.turns, ← ofNat_succ]
  refine Course.of_worn hl.bounded hl.worn (.of_turn ?_)
  rw [ofNat_succ]
  refine hl.last.imp_right ?_
  rintro rfl
  rw [UInt32.le_iff_toNat_le, UInt32.toNat_ofNat_of_lt' hl.counted]
  omega

theorem along_cleared {I : Disk → Prop} {c : Location} (h : Along I w v) (hc : w.cwd = c)
    (hunlink : ∀ d d', I d → d.unlink c temp = .ok d' → I d') : Along I w (cleared temp v) := by
  refine Runs.change (Q := fun _ u => Along I w u) ?_ fun _ _ => h
  exact fun d hd => h.changed (hunlink _ _ h.now (h.cwd.trans hc ▸ hd))

theorem Course.keeps {ts : List (Try σ)} {I : Disk → Prop} {c : Location}
    (h : Course net policy url dest made w ts r v) (hw : I w.disk) (hc : w.cwd = c)
    (honce : ∀ u, u.cwd = c → I u.disk →
      Ends (once net url (tempPath dest)) u fun _ v => Along I u v)
    (hunlink : ∀ d d', I d → d.unlink c (tempPath dest) = .ok d' → I d') :
    ∃ t made, ts.getLast? = some t ∧ t.Made net url (tempPath dest) ∧ Along I w t.start ∧
      Along I t.start t.finish ∧ Conclusion policy dest made t r v := by
  induction h with
  | @last made w v t r begun attempt conclusion =>
    have hstart : Along I w t.start := begun ▸ (Along.refl hw).quiet ((Quiet.refl w).told _)
    exact ⟨t, made, rfl, attempt, hstart,
      (honce _ (hstart.cwd.trans hc) hstart.now).of_run attempt, conclusion⟩
  | @retried made w v t ts f r begun attempt failure again rest ih =>
    have hstart : Along I w t.start := begun ▸ (Along.refl hw).quiet ((Quiet.refl w).told _)
    have hfinish := hstart.trans ((honce _ (hstart.cwd.trans hc) hstart.now).of_run attempt)
    have hpause : Along I w (paused net made f (cleared (tempPath dest) t.finish)) :=
      (along_cleared hfinish hc hunlink).quiet ⟨rfl, rfl, rfl⟩
    obtain ⟨u, n, hu, hmade, hbefore, hlast, hend⟩ := ih hpause.now (hpause.cwd.trans hc)
    refine ⟨u, n, ?_, hmade, hpause.trans hbefore, hlast, hend⟩
    cases ts with
    | nil => cases hu
    | cons t' ts => simpa using hu

end Provision.Download
