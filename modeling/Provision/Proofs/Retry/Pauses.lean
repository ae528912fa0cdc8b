import Provision.Proofs.Retry.Counter

namespace Provision.Download

open Provision.Action RetryPolicy World

variable {σ : Type} {net : Network σ} {policy : RetryPolicy} {url dest temp : String}
  {w v : World σ} {made : UInt32} {k n : Nat} {pauses : List Nat}

def word (n : Nat) : Option Nat := if n < 2 ^ 64 then some n else none

theorem baseDelay_eq (retry : UInt32) : baseDelay retry = 1000 * 2 ^ doublings retry :=
  Nat.shiftLeft_eq _ _

theorem delay_mem (retry : UInt32) (drawn : Nat) :
    750 * 2 ^ doublings retry ≤ delay retry drawn ∧
      delay retry drawn ≤ 1250 * 2 ^ doublings retry := by
  have hdrawn : drawn % (2 * jitter retry + 1) < 2 * jitter retry + 1 := Nat.mod_lt _ (by omega)
  have hjitter : jitter retry = 250 * 2 ^ doublings retry := by
    rw [jitter, baseDelay_eq]
    omega
  rw [delay, baseDelay_eq]
  omega

def InRange (retry n : Nat) : Prop := 750 * 2 ^ min retry 10 ≤ n ∧ n ≤ 1250 * 2 ^ min retry 10

theorem delay_inRange (drawn : Nat) : InRange made.toNat (delay made drawn) := delay_mem made drawn

/-- Pauses that double, each drawn within its range. -/
def Backoff (pauses : List Nat) : Prop := ∀ i (h : i < pauses.length), InRange i pauses[i]

namespace Backoff

theorem nil : Backoff [] := fun _ h => absurd h (Nat.not_lt_zero _)

theorem concat (h : Backoff pauses) (hn : InRange pauses.length n) : Backoff (pauses ++ [n]) := by
  intro i hi
  rw [List.getElem_append]
  split
  · exact h i ‹_›
  · have hlast : i = pauses.length := by
      rw [List.length_append, List.length_singleton] at hi
      omega
    subst hlast
    simpa using hn

end Backoff

/-- Since `w` so many attempts have been announced and these pauses been made. -/
structure Since (url dest : String) (w : World σ) (k : Nat) (pauses : List Nat) (v : World σ) :
    Prop where
  announced : Announced (announcement url dest) k w v
  naps : v.naps = pauses.reverse ++ w.naps

namespace Since

variable {u : World σ}

theorem refl (w : World σ) : Since url dest w 0 [] w := ⟨by simp [Announced, announcements], rfl⟩

theorem still (h : Since url dest w k pauses v) (hevents : u.events = v.events)
    (hnaps : u.naps = v.naps) : Since url dest w k pauses u :=
  ⟨(said_of_events _ hevents).trans h.announced, hnaps.trans h.naps⟩

theorem untold (h : Since url dest w k pauses v) (hu : Untold v u) : Since url dest w k pauses u :=
  h.still hu.events hu.naps

theorem once {t : Try σ} (h : Since url dest w k pauses t.start)
    (ht : t.Made net url (tempPath dest)) : Since url dest w k pauses t.finish := by
  have hasking : Since url dest w k pauses (asking net url t.start) :=
    h.still (events_asking _ _ _) (naps_asking _ _ _)
  exact hasking.untold (Untold.once.of_run ht)

theorem told {e : Event} (h : Since url dest w k pauses v)
    (he : e.message ≠ (announcement url dest 0).message) : Since url dest w k pauses (v.told e) :=
  ⟨(said_told_of_ne he v).trans h.announced, h.naps⟩

theorem attempt (h : Since url dest w k pauses v) :
    Since url dest w (k + 1) pauses (v.told (announcement url dest (k + 1))) := by
  refine ⟨?_, h.naps⟩
  rw [Announced, announcements_succ, ← List.append_assoc, ← h.announced]
  exact said_told (e := announcement url dest (k + 1)) rfl v

theorem napped (h : Since url dest w k pauses v) (n : Nat) :
    Since url dest w k (pauses ++ [n]) (v.napped n) :=
  ⟨h.announced, by simp [World.napped, h.naps]⟩

theorem pause (h : Since url dest w k pauses v) (hk : pauses.length = made.toNat)
    (hback : Backoff pauses) (net : Network σ) (f : Failure) : ∃ n, Backoff (pauses ++ [n]) ∧
      Since url dest w k (pauses ++ [n]) (paused net made f v) := by
  let drawn := (net.draw (2 * jitter made)).run v.outside
  refine ⟨delay made drawn.1, hback.concat (hk ▸ delay_inRange _), napped (told ?_ ?_) _⟩
  · exact h.still (u := { v with outside := drawn.2 }) rfl rfl
  · simp [announcement]

theorem conclusion {t : Try σ} {r : Except Failure Unit}
    (h : Since url dest w k pauses t.finish) (hr : Conclusion policy dest made t r v) :
    Since url dest w k pauses v := by
  cases hr with
  | moved => exact told (h.untold (.changed _ _)) (by simp [announcement])
  | unmoved => exact h
  | failed => exact h.untold (.cleared _ _)

end Since

/-- Since `w` these attempts have been made, and these pauses: when an attempt starts it is told by
its number, and there has been one pause for each attempt before it. -/
structure Paced (net : Network σ) (url dest : String) (w : World σ) (ts : List (Try σ))
    (pauses : List Nat) (v : World σ) : Prop where
  attempts : ∀ t ∈ ts, t.Made net url (tempPath dest)
  started : ∀ i (h : i < ts.length), Since url dest w (i + 1) (pauses.take i) ts[i].start
  ended : Since url dest w ts.length pauses v
  backoff : Backoff pauses

namespace Paced

variable {u : World σ} {ts : List (Try σ)} {t : Try σ}

theorem refl (w : World σ) : Paced net url dest w [] [] w :=
  ⟨by simp, fun _ h => absurd h (Nat.not_lt_zero _), .refl w, .nil⟩

theorem attempt (h : Paced net url dest w ts pauses u) (hcount : pauses.length = ts.length)
    (hnumber : (made + 1).toNat = ts.length + 1)
    (begun : t.start = u.told (announcement url dest (made + 1).toNat))
    (hmade : t.Made net url (tempPath dest)) : Paced net url dest w (ts ++ [t]) pauses t.finish := by
  have hbegun : Since url dest w (ts.length + 1) pauses t.start := by
    rw [begun, hnumber]
    exact h.ended.attempt
  refine ⟨?_, ?_, ?_, h.backoff⟩
  · intro t' ht'
    obtain ht' | ht' := List.mem_append.1 ht'
    · exact h.attempts t' ht'
    · exact List.mem_singleton.1 ht' ▸ hmade
  · intro i hi
    rw [List.getElem_append]
    split
    · exact h.started i ‹_›
    · have hlast : i = ts.length := by
        rw [List.length_append, List.length_singleton] at hi
        omega
      subst hlast
      simpa [← hcount] using hcount ▸ hbegun
  · rw [List.length_append, List.length_singleton]
    exact hbegun.once hmade

theorem pause (h : Paced net url dest w ts pauses u) (hcount : pauses.length + 1 = ts.length)
    (hmade : pauses.length = made.toNat) (f : Failure) :
    ∃ n, Paced net url dest w ts (pauses ++ [n]) (paused net made f u) := by
  obtain ⟨n, hback, hended⟩ := h.ended.pause hmade h.backoff net f
  refine ⟨n, h.attempts, fun i hi => ?_, hended, hback⟩
  rw [List.take_append_of_le_length (by omega)]
  exact h.started i hi

theorem quiet (h : Paced net url dest w ts pauses u) (hv : Since url dest w ts.length pauses v) :
    Paced net url dest w ts pauses v := ⟨h.attempts, h.started, hv, h.backoff⟩

end Paced

theorem Course.ne_nil {ts : List (Try σ)} {r : Except Failure Unit}
    (h : Course net policy url dest made w ts r v) : ts ≠ [] := by
  cases h <;> exact List.cons_ne_nil _ _

example : ((fetch Network.silent ⟨3, .none⟩ "http://h/a" "d/f").run.run
    (.fresh [] "/" [])).2.naps = [3000, 1500, 750] := by
  decide +kernel

end Provision.Download
