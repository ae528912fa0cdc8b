import Provision.Proofs.Download.Attempts
import Provision.Proofs.Installation.Late
import Provision.Proofs.World.Directories

namespace Provision

structure Network.Records {σ : Type} (net : Network σ) (asked : σ → List Url) : Prop where
  respond : ∀ u s, asked ((net.respond u).run s).2 = asked s ++ [u]
  draw : ∀ n s, asked ((net.draw n).run s).2 = asked s

namespace Download

open Provision.Action RetryPolicy World

variable {σ : Type} {net : Network σ} {p : RetryPolicy} {url dest temp : String} {w u v : World σ}

def requested (url : String) : List Url := ((Url.ofText? url).filter (·.isFetchable)).toList

def asking (net : Network σ) (url : String) (w : World σ) : World σ :=
  match (Url.ofText? url).filter (·.isFetchable) with
  | .none => w
  | some u => { w with outside := ((net.respond u).run w.outside).2 }

theorem events_asking (net : Network σ) (url : String) (w : World σ) :
    (asking net url w).events = w.events := by
  rw [asking]
  split <;> rfl

theorem naps_asking (net : Network σ) (url : String) (w : World σ) :
    (asking net url w).naps = w.naps := by
  rw [asking]
  split <;> rfl

structure Untold (w v : World σ) : Prop where
  events : v.events = w.events
  naps : v.naps = w.naps
  outside : v.outside = w.outside

namespace Untold

theorem refl (w : World σ) : Untold w w := ⟨rfl, rfl, rfl⟩

theorem changed (w : World σ) (d : Disk) : Untold w (w.changed d) := ⟨rfl, rfl, rfl⟩

theorem composes : Composes (Untold (σ := σ)) :=
  ⟨refl, fun h h' => ⟨h'.events.trans h.events, h'.naps.trans h.naps, h'.outside.trans h.outside⟩⟩

theorem trans (h : Untold w v) (h' : Untold v u) : Untold w u := composes.trans h h'

theorem writeChunks (id : FileId) (chunks : List Bytes) :
    Ends (writeChunks id chunks) w fun _ v => Untold w v := by
  induction chunks generalizing w with
  | nil => exact Ends.pure (refl w)
  | cons b bs ih => exact Ends.bind (Ends.changeDisk (ih.mono fun _ _ h => (changed w _).trans h))

theorem cleared (temp : String) (w : World σ) : Untold w (cleared temp w) := by
  rw [Download.cleared, change_run]
  split
  · exact changed w _
  · exact refl w

theorem createParents (p : String) :
    Ends (createParents p) w fun r v => Untold w v ∧ r ≠ .error .endlessRetry := by
  simp only [Action.createParents]
  split
  · refine (createDirectories_run composes fun _ _ w d _ => changed w d).mono ?_
    rintro r v ⟨hv, hr⟩
    cases r with
    | ok => exact ⟨hv, by simp⟩
    | error e =>
      obtain ⟨x, rfl⟩ := hr
      exact ⟨hv, by simp⟩
  · exact Ends.pure ⟨refl w, by simp⟩

theorem once : Ends (once net url temp) w fun _ v => Untold (asking net url w) v := by
  rw [Download.once, asking]
  cases hu : Url.ofText? url with
  | none => exact Ends.throw (refl w)
  | some u =>
    dsimp only
    cases hf : u.isFetchable with
    | false =>
      simp only [Option.filter_some, hf, Bool.false_eq_true, ↓reduceIte]
      exact Ends.bind (Ends.throw (refl w))
    | true =>
      simp only [Option.filter_some, hf, ↓reduceIte]
      refine Ends.bind (outside_ends ?_)
      dsimp only
      split
      · exact Ends.throw (refl _)
      split
      · exact Ends.bind (Ends.throw (refl _))
      refine Ends.bind (Ends.step (Runs.changeWith ?_ fun _ _ => refl _))
      intro d id _
      refine Ends.seq ((writeChunks id _).mono fun _ v h => (changed _ d).trans h) fun _ v h => ?_
      split
      · exact Ends.bind (Ends.throw h)
      · exact Ends.pure h

end Untold

section

variable {asked : σ → List Url}

structure Unasked (url dest : String) (asked : σ → List Url) (w v : World σ) : Prop where
  said : said (announcement url dest 0).message v = said (announcement url dest 0).message w
  asked : asked v.outside = asked w.outside

theorem Untold.unasked (h : Untold w v) : Unasked url dest asked w v :=
  ⟨said_of_events _ h.events, congrArg asked h.outside⟩

theorem unasked_finish (size : Nat) :
    Ends (finish dest size) w fun _ v => Unasked url dest asked w v := by
  refine Ends.bind (Ends.step (Runs.change ?_ ?_))
  · intro d hd
    exact Ends.tell ⟨said_told_of_ne (by simp [announcement]) _, rfl⟩
  · exact fun _ _ => ⟨rfl, rfl⟩

variable (h : net.Records asked)
include h

theorem unasked_paused (retry : UInt32) (f : Failure) (w : World σ) :
    Unasked url dest asked w (paused net retry f w) :=
  ⟨said_told_of_ne (by simp [announcement])
      { w with outside := ((net.draw (2 * jitter retry)).run w.outside).2 },
    h.draw _ _⟩

theorem unasked_conclude {n : UInt32} {r : Except Failure Nat}
    (hv : v = (conclude net dest n r u).outcome.2 ∨ (conclude net dest n r u).next? p = some v) :
    Unasked url dest asked u v := by
  cases r with
  | ok size =>
    obtain rfl | hv := hv
    · exact unasked_finish size
    · cases hv
  | error f =>
    have hclear : Unasked url dest asked u (cleared (tempPath dest) u) :=
      (Untold.cleared _ _).unasked
    obtain rfl | hv := hv
    · exact hclear
    · rw [conclude, Turn.next?] at hv
      split at hv
      · obtain rfl := Option.some.inj hv
        have hpause : Unasked url dest asked _ _ :=
          unasked_paused h (n - 1) f (cleared (tempPath dest) u)
        exact ⟨hpause.said.trans hclear.said, hpause.asked.trans hclear.asked⟩
      · cases hv

theorem asked_asking (w : World σ) :
    asked (asking net url w).outside = asked w.outside ++ requested url := by
  rw [asking, requested]
  cases (Url.ofText? url).filter (·.isFetchable) with
  | none => exact (List.append_nil _).symm
  | some u => exact h.respond u w.outside

theorem turn_asks {n : UInt32} (hv : v = (turn net url dest n w).outcome.2 ∨
      (turn net url dest n w).next? p = some v) :
    said (announcement url dest 0).message v =
        said (announcement url dest 0).message w ++ [announcement url dest n.toNat] ∧
      asked v.outside = asked w.outside ++ requested url := by
  have honce : Untold (asking net url (tried net url dest n w).start)
    (tried net url dest n w).finish := Untold.once
  have hafter : Unasked url dest asked (tried net url dest n w).finish v := unasked_conclude h hv
  constructor
  · rw [hafter.said, said_of_events _ (honce.events.trans (events_asking _ _ _))]
    exact said_told (e := announcement url dest n.toNat) rfl w
  · rw [hafter.asked, honce.outside, asked_asking h]
    rfl

theorem turn_announces : p.Announces (turn net url dest) (announcement url dest) where
  outcome _ _ := (turn_asks (p := p) h (.inl rfl)).1
  next _ _ _ hu := (turn_asks h (.inr hu)).1

theorem turn_logs :
    p.Logs (turn net url dest) (fun w => asked w.outside) fun _ => requested url where
  outcome _ _ := (turn_asks (p := p) h (.inl rfl)).2
  next _ _ _ hu := (turn_asks h (.inr hu)).2

end

theorem once_ends (net : Network σ) (url temp : String) :
    Fails (· ≠ .endlessRetry) (once net url temp) := by
  simp only [once]
  split
  · exact .throw (by simp)
  · split
    · exact .thrown (by simp) _
    refine .bind (fails_outside _) fun response => ?_
    split
    · exact .throw (by simp)
    split
    · exact .thrown (by simp) _
    refine .bind (.step (by simp) _) fun id => .bind (fails_writeChunks id _) fun _ => ?_
    split
    · exact .thrown (by simp) _
    · exact .pure _

theorem turn_ends (net : Network σ) (url dest : String) (n : UInt32) (w : World σ) :
    (turn net url dest n w).outcome.1 ≠ .error .endlessRetry := by
  have honce : Fails (· ≠ .endlessRetry) (once net url (tempPath dest)) := once_ends _ _ _
  rw [turn]
  cases hr : (tried net url dest n w).result with
  | ok size =>
    have hfinish : Fails (· ≠ .endlessRetry) (finish (σ := σ) dest size) :=
      .bind (.step (by simp) _) fun _ => .tell _ _ _
    exact fun h => hfinish _ _ h rfl
  | error f =>
    rintro ⟨⟩
    exact honce _ _ hr rfl

end Download
end Provision
