import Provision.Proofs.Disk.Passing
import Provision.Proofs.Extraction.Written

namespace Provision

open PathText Provision.Action World

namespace Disk

variable {d e : Disk} {cwd X Y l m : Location} {p q s t : String} {id : FileId}

/-- What stands at a place, if anything does, makes way for a hard link. -/
structure MakesWay (d : Disk) (cwd : Location) (link : String) (l : Location) : Prop where
  plain : endsWithSlash link = false
  other : d.nodeAt l ≠ some .directory
  /-- A symbolic link leads somewhere. -/
  live : ∀ t, d.nodeAt l = some (.symlink t) → d.isPresent cwd link = true
  /-- The path does not lead through the place itself. -/
  spared : l ∉ d.above cwd link
  writable : d.mayWrite l.tail = true

def Vacated (d e : Disk) (l : Location) : Prop := e.nodeAt l = none ∧ ∀ m, m ≠ l → Same d e m

theorem vacated_of_none (h : d.nodeAt l = none) : Vacated d d l := ⟨h, fun m _ => .refl d m⟩

theorem vacated_remove (d : Disk) (s : String) (X : Location) :
    Vacated d (d.remove (s :: X)) (s :: X) :=
  ⟨by rw [nodeAt_remove, if_pos rfl], fun _ hm => same_remove hm⟩

theorem Vacated.slot {sl : Slot} (h : Vacated d e l) (hp : d.slot cwd p = .ok sl)
    (hl : l ∉ d.above cwd p) : e.slot cwd p = .ok sl :=
  slot_congr hp fun m hm => (h.2 m fun heq => hl (heq ▸ hm)).1

/-- At `m` the file at `l` has got another name, and nothing else has changed. -/
structure Joined (d e : Disk) (cwd : Location) (q p : String) (l m : Location) (id : FileId) :
    Prop where
  first : e.locate cwd false q = .ok ⟨l, some (.file id)⟩
  second : e.locate cwd false p = .ok ⟨m, some (.file id)⟩
  data : e.fileAt m = d.fileAt l
  same : ∀ n, n ≠ m → Same d e n

theorem Vacated.joined (h : Vacated d e (s :: X)) (hq : d.slot cwd q = .ok ⟨Y, some t, false⟩)
    (hfile : d.nodeAt (t :: Y) = some (.file id)) (hp : d.slot cwd p = .ok ⟨X, some s, false⟩)
    (hne : t :: Y ≠ s :: X) (hqs : s :: X ∉ d.above cwd q) (hps : s :: X ∉ d.above cwd p)
    (hmay : d.mayWrite X = true) :
    ∃ x, e.makeHardLink cwd q p = .ok x ∧ Joined d x cwd q p (t :: Y) (s :: X) id := by
  have hq' := h.slot hq hqs
  have hp' := h.slot hp hps
  have hmake := makeHardLink_of_slot hq' ((h.2 _ hne).1.trans hfile) hp' h.1
    ((mayWrite_congr (h.2 X (by simp)).mode).trans hmay)
  have hkeeps := (grows_put h.1 (.file id)).keeps
  have hsame : ∀ n, n ≠ s :: X → Same d (e.put (s :: X) (.file id)) n :=
    fun n hn => (h.2 n hn).trans (same_put hn _)
  have hfirst : (e.put (s :: X) (.file id)).nodeAt (t :: Y) = some (.file id) :=
    (hsame _ hne).1.trans hfile
  have hsecond : (e.put (s :: X) (.file id)).nodeAt (s :: X) = some (.file id) := by
    simp [nodeAt_put]
  refine ⟨_, hmake, ?_, ?_, ?_, hsame⟩
  · rw [locate_of_slot (hkeeps.slot hq'), hfirst]
  · rw [locate_of_slot (hkeeps.slot hp'), hsecond]
  · rw [← (hsame _ hne).file, fileAt, fileAt, hfirst, hsecond]

namespace MakesWay

variable {link : String}

theorem none_of_absent (h : MakesWay d cwd link (s :: X))
    (hlink : d.slot cwd link = .ok ⟨X, some s, false⟩) (habsent : d.isPresent cwd link = false) :
    d.nodeAt (s :: X) = none := by
  have hsym : ∀ t, d.nodeAt (s :: X) ≠ some (.symlink t) := fun t ht => by
    simp [h.live t ht] at habsent
  simpa [isPresent_of_slot hlink hsym] using habsent

theorem unlink_of_present (h : MakesWay d cwd link (s :: X))
    (hlink : d.slot cwd link = .ok ⟨X, some s, false⟩) (hpresent : d.isPresent cwd link = true) :
    d.unlink cwd link = .ok (d.remove (s :: X)) := by
  cases hn : d.nodeAt (s :: X) with
  | none => simp [isPresent_of_slot hlink, hn] at hpresent
  | some n =>
    have hother : n ≠ .directory := fun hdir => h.other (hn.trans (congrArg some hdir))
    exact unlink_of_slot hlink hn hother h.writable

end MakesWay

end Disk

namespace Tarball

open Disk

variable {σ : Type} {w v u : World σ} {original link : String} {X Y : Location} {s t : String}
  {b : Bool} {id : FileId} {Q : World σ → Prop}

theorem linkFile_iff (hparents : (createParents link).run.run w = (.ok (), u)) :
    Ends (linkFile original link) w (fun r v => r = .ok () ∧ Q v) ↔
      if u.isPresent link then ∃ d e, u.disk.unlink u.cwd link = .ok d ∧
        d.makeHardLink u.cwd original link = .ok e ∧ Q ((u.changed d).changed e)
      else ∃ e, u.disk.makeHardLink u.cwd original link = .ok e ∧ Q (u.changed e) := by
  rw [linkFile, Ends.bind_iff, Ends.iff_of_run hparents]
  refine Iff.trans Ends.get_iff ?_
  dsimp only
  split
  · rw [Ends.step_change_bind_iff]
    simp only [Ends.step_change_iff, changed_disk, exists_and_left]
    rfl
  · rw [Ends.step_change_iff]

theorem makesWay_of_linkFile (hparents : (createParents link).run.run w = (.ok (), u))
    (hlink : u.disk.slot u.cwd link = .ok ⟨X, some s, b⟩)
    (h : Ends (linkFile original link) w fun r v => r = .ok () ∧ Q v) :
    MakesWay u.disk u.cwd link (s :: X) := by
  have hplain : b = endsWithSlash link := (slot_eq_some_iff.1 hlink).2.2.2.2.1
  rw [linkFile_iff hparents] at h
  split at h
  · rename_i hpresent
    obtain ⟨d, e, hunlink, hmake, -⟩ := h
    obtain ⟨s', X', n, hslot, hn, hdir, rfl⟩ := unlink_eq_ok hunlink
    cases hlink.symm.trans hslot
    obtain ⟨s', X', l, m, hslot', -, hmay, -⟩ := makeHardLink_eq_ok hmake
    have hspared : s :: X ∉ u.disk.above u.cwd link := fun hl =>
      -- A path through the place names nothing any more once the place is empty.
      not_slot hl (fun m hm => (same_remove hm).1) (vacated_remove u.disk s X).1 _ hslot'
    have hback := (grows_of_remove u.disk s X).keeps.slot hslot'
    cases hlink.symm.trans hback
    exact ⟨hplain.symm, by simpa [hn] using hdir, fun _ _ => hpresent, hspared, hmay⟩
  · obtain ⟨e, hmake, -⟩ := h
    obtain ⟨s', X', l, m, hslot, hnone, hmay, -⟩ := makeHardLink_eq_ok hmake
    cases hlink.symm.trans hslot
    exact ⟨hplain.symm, by simp [hnone], by simp [hnone],
      fun hl => nodeAt_of_mem_above hlink hl hnone, hmay⟩

/-- A hard link is made, as a second name of a file and with no other change but the directories made
above it, just where what stands in its place makes way. -/
theorem linkFile_joins_iff
    (horiginal : w.disk.slot w.cwd original = .ok ⟨Y, some t, false⟩)
    (hfile : w.disk.nodeAt (t :: Y) = some (.file id))
    (hparents : (createParents link).run.run w = (.ok (), u))
    (hlink : u.disk.slot w.cwd link = .ok ⟨X, some s, b⟩) (hne : s :: X ≠ t :: Y)
    (hpast : s :: X ∉ w.disk.above w.cwd original) :
    (∀ m, Same w.disk u.disk m ∨ ∃ q, parent? link = some q ∧ Disk.Made w.disk u.disk w.cwd q m) ∧
      (Ends (linkFile original link) w (fun r v => r = .ok () ∧ v.cwd = w.cwd ∧
          Joined u.disk v.disk w.cwd original link (t :: Y) (s :: X) id) ↔
        MakesWay u.disk w.cwd link (s :: X)) := by
  obtain ⟨hcwd, hleft⟩ := createParents_leaves.of_run hparents
  refine ⟨createParents_makes.of_run hparents, fun h => ?_, fun hway => ?_⟩
  · exact hcwd ▸ makesWay_of_linkFile hparents (hcwd ▸ hlink) h
  -- Making directories has changed nothing about where the file is.
  have habove : ∀ l ∈ w.disk.above w.cwd original, u.disk.nodeAt l = w.disk.nodeAt l :=
    fun l hl => (hleft l (nodeAt_of_mem_above horiginal hl)).1
  have horiginal' := slot_congr horiginal habove
  have hfile' : u.disk.nodeAt (t :: Y) = some (.file id) :=
    (hleft _ (by simp [hfile])).1.trans hfile
  have hpast' : s :: X ∉ u.disk.above w.cwd original := by
    rw [above, (reach_congr habove).2]
    exact hpast
  obtain rfl : b = false := (slot_eq_some_iff.1 hlink).2.2.2.2.1.trans hway.plain
  have hjoined : ∀ d, Vacated u.disk d (s :: X) → ∃ e, d.makeHardLink w.cwd original link = .ok e ∧
      Joined u.disk e w.cwd original link (t :: Y) (s :: X) id :=
    fun d hd => hd.joined horiginal' hfile' hlink hne.symm hpast' hway.spared hway.writable
  rw [linkFile_iff hparents, World.isPresent, hcwd]
  split
  · obtain ⟨e, hmake, he⟩ := hjoined _ (vacated_remove u.disk s X)
    exact ⟨_, e, hway.unlink_of_present hlink ‹_›, hmake, hcwd, he⟩
  · rename_i habsent
    have hnone := hway.none_of_absent hlink ((Bool.not_eq_true _).mp habsent)
    obtain ⟨e, hmake, he⟩ := hjoined _ (vacated_of_none hnone)
    exact ⟨e, hmake, hcwd, he⟩

section Trial

def beside (n : Node) : World Unit :=
  let w := World.fresh [] "" ()
  { w with disk := (w.disk.addFile ["old"] ⟨0o644, .data [120]⟩).1.put ["new"] n }

theorem linkFile_joins_iff_live :
    Ends (linkFile "old" "new") (beside (.symlink "old")) fun r v => r = .ok () ∧ v.cwd = [] ∧
      Joined (beside (.symlink "old")).disk v.disk [] "old" "new" ["old"] ["new"] 0 := by
  refine (linkFile_joins_iff (w := beside (.symlink "old")) (u := beside (.symlink "old"))
    (b := false) (by decide +kernel) (by decide +kernel) (by rfl) (by decide +kernel)
    (by decide) (by decide +kernel)).2.2 ⟨by decide +kernel, by decide +kernel,
    fun _ _ => by decide +kernel, by decide +kernel, by decide +kernel⟩

/-- A symbolic link that leads nowhere is not removed, and is in the way. -/
theorem not_linkFile_joins_dangling : ¬ ∀ (original link s t : String) (X Y : Location) (id : FileId)
    (w u : World Unit), w.disk.WellFormed →
    w.disk.slot w.cwd original = .ok ⟨Y, some t, false⟩ → w.disk.nodeAt (t :: Y) = some (.file id) →
    (createParents link).run.run w = (.ok (), u) →
    u.disk.slot w.cwd link = .ok ⟨X, some s, false⟩ → u.disk.nodeAt (s :: X) ≠ some .directory →
    s :: X ≠ t :: Y → s :: X ∉ w.disk.above w.cwd original → s :: X ∉ u.disk.above w.cwd link →
    Ends (linkFile original link) w fun r v => r = .ok () ∧ v.cwd = w.cwd ∧
      Joined u.disk v.disk w.cwd original link (t :: Y) (s :: X) id := by
  intro h
  let w := beside (.symlink "gone")
  have hwf : w.disk.WellFormed :=
    ((wellFormed_ofDirectory []).addFile rfl (by decide)).put rfl (by decide) (by simp)
  have hends := h "old" "new" "new" "old" [] [] 0 w w hwf (by decide +kernel) (by decide +kernel)
    (by rfl) (by decide +kernel) (by decide +kernel) (by decide) (by decide +kernel)
    (by decide +kernel)
  have hfailed : ((linkFile "old" "new").run.run w).1 =
      .error (.step (.hardLink "old" "new") (.disk .alreadyExists)) := by decide +kernel
  cases hends.1.symm.trans hfailed

end Trial

end Tarball
end Provision
