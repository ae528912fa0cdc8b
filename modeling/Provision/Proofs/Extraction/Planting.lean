import Provision.Proofs.Disk.Tree
import Provision.Proofs.World.Paving

namespace Provision

open PathText Provision.Action World Disk

variable {σ : Type} {w v : World σ} {P d : Disk} {cwd D : Location} {dest p s : String} {k : Nat}
  {is : List Item} {us ws : List String} {f : FileData} {c : Content} {mode : Nat}

namespace Disk

/-- Where a tree grows: a directory to which a destination leads and in which names can be made. -/
structure Ground (P : Disk) (cwd : Location) (dest : String) (D : Location) (k : Nat) : Prop where
  wellFormed : P.WellFormed
  here : P.nodeAt cwd = some .directory
  rooted : P.Rooted cwd dest D k
  writable : P.mayWrite D = true

theorem Ground.directory (h : P.Ground cwd dest D k) : P.nodeAt D = some .directory :=
  h.wellFormed.reach (nodeAt_origin h.here dest) h.rooted

theorem setContent_addFile (d : Disk) (l : Location) (f : FileData) (c : Content) :
    (d.addFile l f).1.setContent d.next c = (d.addFile l { f with content := c }).1 := by
  simp [setContent, addFile, setFile]

theorem setModeOf_addFile (d : Disk) (l : Location) (f : FileData) (mode : Nat) :
    (d.addFile l f).1.setModeOf d.next mode = (d.addFile l { f with mode }).1 := by
  simp [setModeOf, addFile, setFile]

end Disk

def pathBelow (dest : String) (place : List String) : String := join dest ("/".intercalate place)

structure Reachable (dest : String) (place : List String) : Prop where
  segments : ∀ s ∈ place, IsSegment s
  usable : Usable (pathBelow dest place)

namespace Reachable

variable {place : List String} (h : Reachable dest place)
include h

theorem extended (hne : place ≠ []) : Extends dest (pathBelow dest place) place where
  path := by
    rw [pathBelow, segments_join (isAbsolute_of_isSegment h.segments),
      segments_of_isSegment h.segments]
  absolute := isAbsolute_join (isAbsolute_of_isSegment h.segments)
  named _ := endsInName_join h.segments hne dest
  usable _ := h.usable

theorem endsWithSlash (hne : place ≠ []) : endsWithSlash (pathBelow dest place) = false := by
  rw [pathBelow, endsWithSlash_join (isAbsolute_of_isSegment h.segments)
    (intercalate_ne_empty h.segments hne), endsWithSlash_of_isSegment h.segments]

end Reachable

/-- So far the tree of some items has grown. -/
structure Planted (P : Disk) (dest : String) (D : Location) (k : Nat) (is : List Item)
    (w : World σ) : Prop where
  ground : P.Ground w.cwd dest D k
  orderly : Item.Orderly is
  reachable : ∀ i ∈ is, Reachable dest i.place
  grown : P.Grown D is w.disk

structure Next (P : Disk) (dest : String) (D : Location) (is : List Item) (i : Item) : Prop where
  fits : i.Fits is
  spared : P.Spares D i
  reachable : Reachable dest i.place

structure Awaits (P : Disk) (D : Location) (is : List Item) (us : List String) (s p : String)
    (w : World σ) : Prop where
  grown : P.Grown D (⟨us ++ [s], .nothing⟩ :: is) w.disk
  slot : w.disk.slot w.cwd p = .ok ⟨us.reverse ++ D, some s, false⟩
  vacant : w.disk.nodeAt (s :: (us.reverse ++ D)) = none
  writable : w.disk.mayWrite (us.reverse ++ D) = true
  untargeted : ∀ j ∈ is, j.piece ≠ .hardLink (us ++ [s])

namespace Planted

variable {i : Item} (h : Planted P dest D k is w) (hi : Next P dest D is i)
include h hi

theorem mayWrite (hus : us <+: i.place) : w.disk.mayWrite (us.reverse ++ D) = true :=
  h.grown.mayWrite h.ground.wellFormed hi.fits hi.spared h.ground.writable hus

theorem way : w.disk.Way w.cwd dest D k i.place where
  rooted := h.ground.rooted.keeps h.grown.grows.keeps
  directory := h.grown.grows _ _ h.ground.directory
  clear := h.grown.clear h.ground.wellFormed hi.fits hi.spared h.ground.directory List.prefix_rfl
  names := hi.fits.names
  writable us s hus _ := h.mayWrite hi ((List.prefix_append us [s]).trans hus)

theorem add (hv : v.cwd = w.cwd) (hg : P.Grown D (i :: is) v.disk) :
    Planted P dest D k (i :: is) v where
  ground := hv.symm ▸ h.ground
  orderly := ⟨hi.fits, h.orderly⟩
  reachable := by simpa using ⟨hi.reachable, h.reachable⟩
  grown := hg

theorem paved (hx : i.piece = .directory none) (hv : World.Into w (w.disk.pave D i.place) v) :
    Planted P dest D k (i :: is) v := by
  refine h.add hi hv.cwd (hv.disk ▸ ?_)
  exact h.grown.pave (h.way hi).directory (h.way hi).clear (.inr hx) (by simp [hx])

theorem createDirectories (hx : i.piece = .directory none) :
    Ends (createDirectories (pathBelow dest i.place)) w fun r v =>
      r = .ok () ∧ Planted P dest D k (i :: is) v := by
  refine (createDirectories_pave (h.way hi) (hi.reachable.extended hi.fits.ne_nil)).mono ?_
  rintro r v ⟨rfl, hv⟩
  exact ⟨rfl, h.paved hi hx hv⟩

theorem awaits (hx : i.piece.isDirectory = false) (hplace : i.place = us ++ [s])
    (hv : World.Into w (w.disk.pave D us) v) : Awaits P D is us s (pathBelow dest i.place) v := by
  have hway := h.way hi
  have hext := hi.reachable.extended hi.fits.ne_nil
  have hslash := hi.reachable.endsWithSlash hi.fits.ne_nil
  have hvacant := h.grown.vacant h.ground.wellFormed hi.fits hi.spared hx
  have huntargeted := h.orderly.untargeted hi.fits
  have hmay : w.disk.mayWrite (us.reverse ++ D) = true :=
    h.mayWrite hi (hplace ▸ List.prefix_append us [s])
  rw [hplace] at hway hext hslash hvacant huntargeted ⊢
  have hus := hway.of_prefix (List.prefix_append us [s])
  refine ⟨?_, ?_, ?_, ?_, huntargeted⟩
  · rw [hv.disk]
    refine h.grown.pave hus.directory hus.clear (.inl rfl) fun ws => ?_
    rw [List.prefix_concat_iff]
    constructor
    · intro hws
      refine ⟨.inr hws, fun he => ?_⟩
      have hlen := hws.length_le
      rw [← he, List.length_append] at hlen
      exact absurd hlen (by simp)
    · rintro ⟨rfl | hws, hne⟩
      · exact absurd (hne rfl) (by simp)
      · exact hws
  · rw [hv.cwd, hv.disk, hway.slot_pave hext, hslash]
  · rw [hv.disk, (same_pave fun vs _ hvs he => ?_).1]
    · simpa using hvacant
    · have hlen := congrArg List.length he
      have := hvs.length_le
      simp at hlen
      omega
  · rwa [hv.disk, mayWrite_pave]

theorem createParents (hx : i.piece.isDirectory = false) (hplace : i.place = us ++ [s]) :
    Ends (createParents (pathBelow dest i.place)) w fun r v =>
      r = .ok () ∧ v.cwd = w.cwd ∧ Awaits P D is us s (pathBelow dest i.place) v := by
  have hway := h.way hi
  have hext := hi.reachable.extended hi.fits.ne_nil
  rw [hplace] at hway hext
  have hus := hway.of_prefix (List.prefix_append us [s])
  have hmade := createParents_pave hus hext
  rw [← hplace] at hmade
  refine hmade.mono ?_
  rintro r v ⟨rfl, hv⟩
  exact ⟨rfl, hv.cwd, h.awaits hi hx hplace hv⟩

end Planted

namespace Awaits

variable (h : Awaits P D is us s p w)
include h

theorem locate (follow : Bool) :
    w.disk.locate w.cwd follow p = .ok ⟨s :: (us.reverse ++ D), none⟩ := by
  rw [locate_of_slot_plain h.slot (by simp [h.vacant]), h.vacant]

theorem addFile (f : FileData) :
    P.Grown D (⟨us ++ [s], .file f⟩ :: is) (w.disk.addFile (s :: (us.reverse ++ D)) f).1 := by
  refine h.grown.makeFile h.vacant h.untargeted ?_ (fun _ => rfl) (fun _ => rfl) rfl
  exact h.grown.wellFormed.addFile h.grown.parent (by simp [h.vacant])

end Awaits

theorem Planted.locate {j : Item} (h : Planted P dest D k is w) (hj : j ∈ is)
    (hg : P.Grown D (⟨us ++ [s], .nothing⟩ :: is) d) :
    d.locate w.cwd false (pathBelow dest j.place) =
      .ok ⟨j.place.reverse ++ D, d.nodeAt (j.place.reverse ++ D)⟩ := by
  have hreach := h.reachable j hj
  obtain ⟨js, hfits⟩ := h.orderly.fits hj
  have hext := hreach.extended hfits.ne_nil
  have hslash := hreach.endsWithSlash hfits.ne_nil
  obtain ⟨vs, t, hplace⟩ : ∃ vs t, j.place = vs ++ [t] :=
    ⟨_, _, (List.dropLast_concat_getLast hfits.ne_nil).symm⟩
  have hnames : ∀ q ∈ vs ++ [t], IsName q := hplace ▸ hfits.names
  have hdirs : d.reach k D vs = .ok (vs.reverse ++ D, k) := by
    refine reach_directories (fun q hq => hnames q (by simp [hq])) k fun qs _ hqs => ?_
    refine hg.directory qs (Item.directory_cons.2 (.inr ⟨j, hj, ?_, fun he => ?_⟩))
    · exact hplace ▸ hqs.trans (List.prefix_append vs [t])
    · have hlen := hqs.length_le
      rw [← he, hplace, List.length_append] at hlen
      exact absurd hlen (by simp)
  have hroot := h.ground.rooted.keeps hg.grows.keeps
  rw [hplace] at hext hslash ⊢
  have hslot := slot_of_rooted hroot (hext.usable hext.ne_empty) (hext.named (by simp)) hext.path
    hext.absolute (hnames t (by simp))
  rw [hdirs, hslash] at hslot
  simpa using locate_of_slot hslot

/-- A destination that can be made and written, with room for what is to be put there. -/
structure Room (w : World σ) (dest : String) (D : Location) (k : Nat) (is : List Item) : Prop where
  made : Ends (createDirectories dest) w fun r _ => r = .ok ()
  rooted : (w.prepared dest).disk.Rooted w.cwd dest D k
  writable : (w.prepared dest).disk.mayWrite D = true
  spared : ∀ i ∈ is, (w.prepared dest).disk.Spares D i

theorem Room.prepared (h : Room w dest D k is) :
    Ends (createDirectories dest) w fun r v => r = .ok () ∧ v = w.prepared dest :=
  h.made.and rfl

theorem Room.isDir (h : Room w dest D k is) : dest = "" ∨ (w.prepared dest).isDir dest = true := by
  have hrun := createDirectories_run (w := w) (p := dest) (composes_lasts fun _ => True)
    fun _ _ _ _ _ => .changed id
  refine (hrun.and h.made).mono (R := fun _ v => dest = "" ∨ v.isDir dest = true) ?_
  rintro r v ⟨⟨-, hv⟩, rfl⟩
  exact hv

theorem Room.planted (h : Room w dest D k is) (hwf : w.disk.WellFormed)
    (here : w.disk.nodeAt w.cwd = some .directory) :
    Planted (w.prepared dest).disk dest D k [] (w.prepared dest) := by
  have hmade : Along (fun d => d.WellFormed ∧ d.nodeAt w.cwd = some .directory) w
      (w.prepared dest) := by
    refine (createDirectories_along (w := w) (p := dest) ⟨hwf, here⟩ ?_).1
    rintro q - d d' ⟨hd, hc⟩ hmake
    exact ⟨hd.makeDirectory hc hmake, makeDirectory_grows hmake _ _ hc⟩
  obtain ⟨hwf', here'⟩ := hmade.now
  exact ⟨⟨hwf', hmade.cwd ▸ here', hmade.cwd ▸ h.rooted, h.writable⟩, trivial, by simp,
    .refl hwf' D⟩

theorem room_of_isDir (h : dest = "" ∨ w.isDir dest = true) (hroot : w.disk.Rooted w.cwd dest D k)
    (hmay : w.disk.mayWrite D = true) (hs : ∀ i ∈ is, w.disk.Spares D i) : Room w dest D k is := by
  have hsame : w.prepared dest = w := (createDirectories_of_isDir h).2
  refine ⟨(createDirectories_of_isDir h).mono fun _ _ h => h.1, ?_, ?_, ?_⟩
  all_goals rwa [hsame]

theorem room_of_missing {base : String} {B : Location} (hwf : w.disk.WellFormed)
    (h : w.disk.Way w.cwd base B k ws) (hext : Extends base dest ws)
    (hmissing : w.disk.nodeAt (ws.reverse ++ B) = none) (is : List Item) :
    Room w dest (ws.reverse ++ B) k is := by
  have hprep := (prepared_pave h hext).1
  refine ⟨(createDirectories_pave h hext).mono fun _ _ h => h.1, hprep ▸ h.rooted_pave hext, ?_, ?_⟩
  · rw [hprep, mayWrite_pave]
    exact hwf.mayWrite_of_none hmissing
  intro i _ s _
  rw [hprep, (same_pave fun us _ hus he => ?_).1]
  · exact hwf.below_none hmissing [s]
  · have hlen := congrArg List.length he
    have := hus.length_le
    simp at hlen
    omega

end Provision
