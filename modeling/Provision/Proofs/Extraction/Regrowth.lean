import Provision.Proofs.Disk.Leftover
import Provision.Proofs.Extraction.TarItems

/-!
A tree that grows, perhaps again where it grew before: what is left at the place of an entry makes
way for it. Beside the real disk goes a clean one without the leftovers, on which the tree grows as
if nothing had been before.
-/

namespace Provision

open PathText Provision.Action World Disk

variable {σ : Type} {w v : World σ} {P c d : Disk} {D : Location} {dest p s : String} {k : Nat}
  {is left : List Item} {i j : Item} {us : List String} {x : Piece} {n : Node}

/-- The tree of some items has grown again among the leftovers of others; `c` is the clean disk. -/
structure Regrown (P : Disk) (dest : String) (D : Location) (k : Nat) (is left : List Item)
    (c : Disk) (w : World σ) : Prop where
  planted : Planted P dest D k is (w.changed c)
  littered : Littered D left c w.disk

structure Faces (P : Disk) (D : Location) (is left : List Item) (us : List String) (s p : String)
    (x : Piece) (c : Disk) (w : World σ) : Prop where
  awaits : Awaits P D is us s p (w.changed c)
  littered : Littered D left c w.disk
  leaf : ∀ n, w.disk.nodeAt (s :: (us.reverse ++ D)) = some n → x.Remains n
  writable : w.disk.mayWrite (us.reverse ++ D) = true

namespace Regrown

variable (h : Regrown P dest D k is (i :: left) c w) (hi : Next P dest D is i)
  (hco : Item.Coherent (i :: left))
include h hi

theorem add {c' : Disk} (hv : v.cwd = w.cwd) (hg : P.Grown D (i :: is) c')
    (hl : Littered D (i :: left) c' v.disk) : Regrown P dest D k (i :: is) left c' v where
  planted := h.planted.add hi hv hg
  littered := hl.drop hg ⟨hi.fits, h.planted.orderly⟩

include hco

theorem way (hus : us <+: i.place) (hdir : us = i.place → i.piece.isDirectory = true) :
    w.disk.Way w.cwd dest D k us where
  rooted := (h.planted.way hi).rooted.keeps h.littered.grows.keeps
  directory := h.littered.grows _ _ (h.planted.way hi).directory
  clear := h.littered.clear hco hus hdir ((h.planted.way hi).clear.of_prefix hus)
  names t ht := hi.fits.names t (hus.subset ht)
  writable vs t hvs _ := by
    have hpre : vs ++ [t] <+: i.place := hvs.trans hus
    refine h.littered.mayWrite ((List.prefix_append vs [t]).trans hpre) ?_
      (h.planted.mayWrite hi ((List.prefix_append vs [t]).trans hpre))
    rintro rfl
    have hlen := hpre.length_le
    rw [List.length_append, List.length_singleton] at hlen
    omega

theorem createDirectories (hx : i.piece = .directory none) :
    Ends (createDirectories (pathBelow dest i.place)) w fun r v =>
      r = .ok () ∧ ∃ c', Regrown P dest D k (i :: is) left c' v := by
  have hway := h.way hi hco List.prefix_rfl fun _ => by simp [hx]
  refine (createDirectories_pave hway (hi.reachable.extended hi.fits.ne_nil)).mono ?_
  rintro r v ⟨rfl, hv⟩
  have hpaved := h.planted.paved hi hx (v := v.changed (c.pave D i.place)) ⟨rfl, hv.cwd⟩
  refine ⟨rfl, c.pave D i.place, h.add hi hv.cwd hpaved.grown ?_⟩
  rw [hv.disk]
  exact h.littered.pave hway.clear

theorem parents_paved (hplace : i.place = us ++ [s]) :
    Ends (Action.createParents (pathBelow dest i.place)) w fun r v =>
      r = .ok () ∧ Into w (w.disk.pave D us) v := by
  have hpre : us <+: i.place := hplace ▸ List.prefix_append us [s]
  have hway := h.way hi hco hpre fun he => by simp [hplace] at he
  have hext := hi.reachable.extended hi.fits.ne_nil
  generalize pathBelow dest i.place = p at hext ⊢
  exact createParents_pave hway (hplace ▸ hext)

theorem createParents (hx : i.piece.isDirectory = false) (hplace : i.place = us ++ [s]) :
    Ends (createParents (pathBelow dest i.place)) w fun r v => r = .ok () ∧ v.cwd = w.cwd ∧
      ∃ c', Faces P D is (i :: left) us s (pathBelow dest i.place) i.piece c' v := by
  have hpre : us <+: i.place := hplace ▸ List.prefix_append us [s]
  have hne : us ≠ i.place := fun he => by simp [hplace] at he
  have hway := h.way hi hco hpre fun he => absurd he hne
  refine (h.parents_paved hi hco hplace).mono ?_
  rintro r v ⟨rfl, hv⟩
  have hawaits := h.planted.awaits hi hx hplace (v := v.changed (c.pave D us)) ⟨rfl, hv.cwd⟩
  have hlittered : Littered D (i :: left) (c.pave D us) v.disk := by
    rw [hv.disk]
    exact h.littered.pave hway.clear
  refine ⟨rfl, hv.cwd, c.pave D us, hawaits, hlittered, fun n hn => ?_, ?_⟩
  · have hl : i.place.reverse ++ D = s :: (us.reverse ++ D) := by simp [hplace]
    exact hlittered.leaf hco hx (hl ▸ hawaits.vacant) (hl ▸ hn)
  · exact hlittered.mayWrite hpre hne hawaits.writable

end Regrown

theorem Planted.clean (h : Planted P dest D k is w) (left : List Item) :
    Regrown P dest D k is left w.disk w :=
  ⟨⟨h.ground, h.orderly, h.reachable, h.grown⟩, .refl D left w.disk⟩

theorem Regrown.finished (h : Regrown P dest D k is [] c w) : Planted P dest D k is w :=
  ⟨h.planted.ground, h.planted.orderly, h.planted.reachable, h.littered.grown h.planted.grown⟩

section

variable {js : List Item} (h : Planted P dest D k js w) (hjs : Item.Akin js is)
include h hjs

theorem Planted.regrown (hp : ∀ i ∈ is, i.Permits is) :
    Regrown (P.holding w.disk) dest D k [] is (P.holding w.disk) w := by
  have hwf := h.ground.wellFormed.holding h.grown.wellFormed h.grown.grows
  have hground : (P.holding w.disk).Ground w.cwd dest D k :=
    ⟨hwf, h.ground.here, h.ground.rooted.keeps fun _ _ _ hl => hl, h.ground.writable⟩
  exact ⟨⟨hground, trivial, by simp, .refl hwf D⟩, h.grown.littered h.orderly hjs hp⟩

theorem Planted.same (hs : ∀ i ∈ is, P.Spares D i) (m : Location) (hm : P.nodeAt m ≠ none) :
    Same P w.disk m := by
  refine h.grown.same h.orderly h.ground.wellFormed h.ground.directory (fun j hj => ?_) hm
  obtain ⟨i, hi, hplace, -⟩ := hjs j hj
  intro t ht
  exact hs i hi t (hplace ▸ ht)

end

namespace Faces

variable (h : Faces P D is left us s p x c w)
include h

theorem slot : w.disk.slot w.cwd p = .ok ⟨us.reverse ++ D, some s, false⟩ :=
  h.littered.grows.keeps.slot h.awaits.slot

theorem cleared (hn : w.disk.nodeAt (s :: (us.reverse ++ D)) = some n) :
    ∃ d, w.disk.unlink w.cwd p = .ok d ∧ d.nodeAt (s :: (us.reverse ++ D)) = none ∧
      Faces P D is left us s p x c (w.changed d) := by
  have hdir := (h.leaf n hn).node_ne
  have hnone : (w.disk.remove (s :: (us.reverse ++ D))).nodeAt (s :: (us.reverse ++ D)) = none := by
    simp [nodeAt_remove]
  refine ⟨w.disk.remove (s :: (us.reverse ++ D)), unlink_of_slot h.slot hn hdir h.writable, hnone, ?_⟩
  exact ⟨⟨h.awaits.grown, h.awaits.slot, h.awaits.vacant, h.awaits.writable, h.awaits.untargeted⟩,
    h.littered.remove h.awaits.vacant, fun n hn => by simp [hnone] at hn, h.writable⟩

end Faces

namespace Tarball

variable {e : TarEntry} {es : List TarEntry} {target : String}

theorem createNew_faced (h : Faces P D is left us s p x c w) :
    Runs (createNew p) w fun r v => ∃ d, Littered D left c d ∧ r = .ok d.next ∧ v.cwd = w.cwd ∧
      v.disk = (d.addFile (s :: (us.reverse ++ D)) ⟨plainMode, .data []⟩).1 := by
  have hfree : ∀ {w : World σ}, Faces P D is left us s p x c w →
      w.disk.nodeAt (s :: (us.reverse ++ D)) = none → w.disk.makeFile w.cwd p =
        .ok (w.disk.addFile (s :: (us.reverse ++ D)) ⟨plainMode, .data []⟩) := by
    intro w h hn
    simp [makeFile, h.slot, hn, h.writable, bind, Except.bind]
  cases hn : w.disk.nodeAt (s :: (us.reverse ++ D)) with
  | none =>
    apply Runs.bind (Runs.changeWith_ok (hfree h hn) _)
    exact Runs.pure ⟨w.disk, h.littered, rfl, rfl, rfl⟩
  | some n =>
    have htaken : w.disk.makeFile w.cwd p = .error .alreadyExists := by
      simp [makeFile, h.slot, hn, bind, Except.bind]
    obtain ⟨d, hd, hnone, hface⟩ := h.cleared hn
    refine Runs.bind (Runs.changeWith (fun _ _ hok => ?_) fun e he => ?_)
    · cases htaken.symm.trans hok
    · cases htaken.symm.trans he
      refine Runs.bind (Runs.change_ok hd ?_)
      apply Runs.changeWith_ok (hfree hface hnone)
      exact ⟨d, hface.littered, rfl, rfl, rfl⟩

theorem createLink_faced (h : Faces P D is left us s p x c w) (hne : target ≠ "")
    (hlen : target.utf8ByteSize < maxPath) :
    Runs (createLink target p) w fun r v => ∃ d, Littered D left c d ∧ r = .ok () ∧
      v.cwd = w.cwd ∧ v.disk = d.put (s :: (us.reverse ++ D)) (.symlink target) := by
  have hfree : ∀ {w : World σ}, Faces P D is left us s p x c w →
      w.disk.nodeAt (s :: (us.reverse ++ D)) = none → w.disk.makeSymlink w.cwd target p =
        .ok (w.disk.put (s :: (us.reverse ++ D)) (.symlink target)) := by
    intro w h hn
    simp [makeSymlink, hne, Nat.not_le.2 hlen, h.slot, hn, h.writable, bind, Except.bind]
  cases hn : w.disk.nodeAt (s :: (us.reverse ++ D)) with
  | none =>
    apply Runs.bind (Runs.change_ok (hfree h hn) _)
    exact Runs.pure ⟨w.disk, h.littered, rfl, rfl, rfl⟩
  | some n =>
    have htaken : w.disk.makeSymlink w.cwd target p = .error .alreadyExists := by
      simp [makeSymlink, hne, Nat.not_le.2 hlen, h.slot, hn, bind, Except.bind]
    obtain ⟨d, hd, hnone, hface⟩ := h.cleared hn
    refine Runs.bind (Runs.change (fun _ hok => ?_) fun e he => ?_)
    · cases htaken.symm.trans hok
    · cases htaken.symm.trans he
      refine Runs.bind (Runs.change_ok hd ?_)
      apply Runs.change_ok (hfree hface hnone)
      exact ⟨d, hface.littered, rfl, rfl, rfl⟩

def Adds (P : Disk) (D : Location) (is left : List Item) (w v : World σ) : Prop :=
  v.cwd = w.cwd ∧ ∃ c, P.Grown D is c ∧ Littered D left c v.disk

theorem unpackFile_faced (h : Faces P D is left us s p x c w) (hcut : e.isCut = false) :
    Ends (unpackFile e p) w fun r v => r = .ok () ∧
      Adds P D (⟨us ++ [s], .file ⟨e.mode &&& 0o777, .data e.data⟩⟩ :: is) left w v := by
  refine Ends.bind (Ends.step ((createNew_faced h).mono ?_))
  rintro r v ⟨d, hl, rfl, hcwd, hv⟩
  refine Ends.bind (Ends.changeDisk ?_)
  simp only [hcut, Bool.false_eq_true, ↓reduceIte]
  refine Ends.changeDisk ⟨rfl, hcwd, _, h.awaits.addFile ⟨e.mode &&& 0o777, .data e.data⟩, ?_⟩
  simp only [changed_disk, hv]
  rw [setContent_addFile, setModeOf_addFile]
  exact hl.addFile _

theorem unpack_faced (h : Faces P D is left us s p x c w) (hcut : e.isCut = false)
    (hold : e.isOldDirectory = false) (hdir : e.kind ≠ .directory) (hlink : e.kind ≠ .hardLink)
    (hsym : e.kind = .symlink → e.link ≠ "" ∧ e.link.utf8ByteSize < maxPath) :
    Ends (unpack e p) w fun r v =>
      r = .ok () ∧ Adds P D (⟨us ++ [s], pieceOf e⟩ :: is) left w v := by
  cases hk : e.kind with
  | globalHeader =>
    simp only [unpack, pieceOf, hk, hold, Bool.false_eq_true, ↓reduceIte]
    exact Ends.pure ⟨rfl, rfl, c, h.awaits.grown, h.littered⟩
  | symlink =>
    obtain ⟨hne, hlen⟩ := hsym hk
    simp only [unpack, pieceOf, hk, hold, hne, Bool.false_eq_true, ↓reduceIte]
    refine Ends.step ((createLink_faced h hne hlen).mono ?_)
    rintro r v ⟨d, hl, rfl, hcwd, hv⟩
    refine ⟨rfl, hcwd, _, h.awaits.grown.makeSymlink h.awaits.vacant e.link, ?_⟩
    rw [hv]
    exact hl.put _
  | hardLink => exact absurd hk hlink
  | directory => exact absurd hk hdir
  | regular | fifo | characterDevice | blockDevice | contiguous | unknown =>
    simp only [unpack, pieceOf, hk, hold, Bool.false_eq_true, ↓reduceIte]
    exact unpackFile_faced h hcut

theorem makeHardLink_faced {existing : String} {id : FileId}
    (h : Faces P D is left us s p x c w) (hnone : w.disk.nodeAt (s :: (us.reverse ++ D)) = none)
    (hloc : c.locate w.cwd false existing = .ok ⟨j.place.reverse ++ D, some (.file id)⟩)
    (hid : c.nodeAt (j.place.reverse ++ D) = some (.file id)) :
    Runs (change (·.makeHardLink · existing p)) w fun r v =>
      r = .ok () ∧ Adds P D (⟨us ++ [s], .hardLink j.place⟩ :: is) left w v := by
  have hmake : w.disk.makeHardLink w.cwd existing p =
      .ok (w.disk.put (s :: (us.reverse ++ D)) (.file id)) := by
    simp [makeHardLink, h.littered.grows.locate hloc, h.slot, hnone, h.writable, bind, Except.bind]
  apply Runs.change_ok hmake
  exact ⟨rfl, rfl, _, h.awaits.grown.makeHardLink h.awaits.vacant h.awaits.untargeted hid,
    h.littered.put _⟩

theorem unpackDirectory_ensure {X : Location} {b : Bool}
    (hslot : w.disk.slot w.cwd p = .ok ⟨X, some s, b⟩)
    (hs : w.disk.nodeAt (s :: X) = none ∨ w.disk.nodeAt (s :: X) = some .directory)
    (hmay : w.disk.nodeAt (s :: X) = none → w.disk.mayWrite X = true) :
    Ends (unpackDirectory e p) w fun r v => r = .ok () ∧
      Into w ((w.disk.ensure (s :: X)).setModeAt (s :: X) (e.mode &&& 0o777)) v := by
  obtain hmake | ⟨hmake, hsame, hdir⟩ := makeDirectory_of_slot hslot hs hmay
  · refine ends_unpackDirectory (fun Y hY => ?_) (fun Y t b hslot' hnone => ?_) fun x hno _ =>
      absurd hmake (hno _)
    · cases hmake.symm.trans (makeDirectory_of_isDir (isDir_iff.2 ⟨Y, hY⟩))
    · obtain ⟨rfl, rfl, -⟩ : X = Y ∧ s = t ∧ _ := by simpa using hslot.symm.trans hslot'
      rw [Disk.ensure, if_pos hnone]
      exact ⟨rfl, rfl, rfl⟩
  · have hthere := hs.resolve_left fun hnone => by
      simp [makeDirectory, hslot, hnone, hmay hnone, bind, Except.bind] at hmake
    have hleads : w.disk.Leads w.cwd p (s :: X) :=
      ⟨(slot_eq_some_iff.1 hslot).1, reach_of_slot hslot (.refl _) hthere⟩
    refine ends_unpackDirectory (fun Y hY => ?_) (fun Y t b hslot' hnone => ?_) fun x _ hno => ?_
    · obtain rfl : s :: X = Y := by
        simpa using (locate_eq_directory_iff.2 hleads).symm.trans (locate_eq_directory_iff.2 hY)
      rw [hsame]
      exact ⟨rfl, rfl, rfl⟩
    · obtain ⟨rfl, rfl, -⟩ : X = Y ∧ s = t ∧ _ := by simpa using hslot.symm.trans hslot'
      cases hthere.symm.trans hnone
    · cases hdir.symm.trans hno

theorem replace_faced {y : Action σ Unit} {Q : Except Failure Unit → World σ → Prop}
    (h : Faces P D is left us s p x c w) (hx : x.isFile = true)
    (hy : ∀ v, v.cwd = w.cwd → v.disk.nodeAt (s :: (us.reverse ++ D)) = none →
      Faces P D is left us s p x c v → Ends y v Q) :
    Ends (do
      if (← get).isPresent p then Action.step (.replace p) (change (·.unlink · p))
      y) w Q := by
  apply Ends.get
  have hpresent : w.isPresent p = (w.disk.nodeAt (s :: (us.reverse ++ D))).isSome := by
    refine isPresent_of_slot h.slot fun t ht => ?_
    obtain ⟨id, hid⟩ := (h.leaf _ ht).isFile hx
    cases hid
  cases hn : w.disk.nodeAt (s :: (us.reverse ++ D)) with
  | none =>
    rw [if_neg (by simp [hpresent, hn])]
    exact hy w rfl hn h
  | some n =>
    obtain ⟨d, hd, hnone, hface⟩ := h.cleared hn
    rw [if_pos (by simp [hpresent, hn])]
    exact Ends.bind (Ends.step (Runs.change_ok hd (hy _ rfl hnone hface)))

section

variable (h : Regrown P dest D k is (i :: left) c w) (hi : Next P dest D is i)
  (hco : Item.Coherent (i :: left))
include h hi

theorem Adds.regrown {y : Piece} {w' : World σ}
    (hadds : Adds P D (⟨us ++ [s], y⟩ :: is) (i :: left) w' v) (hcwd : w'.cwd = w.cwd)
    (hplace : i.place = us ++ [s]) (hpiece : i.piece = y) :
    ∃ c', Regrown P dest D k (i :: is) left c' v := by
  obtain ⟨hv, c', hg, hl⟩ := hadds
  rw [← hplace, ← hpiece] at hg
  exact ⟨c', h.add hi (hv.trans hcwd) hg hl⟩

include hco

theorem linkFile_regrown (hj : j ∈ is) (hfile : j.piece.isFile = true)
    (hpiece : i.piece = .hardLink j.place) :
    Ends (linkFile (pathBelow dest j.place) (pathBelow dest i.place)) w fun r v =>
      r = .ok () ∧ ∃ c', Regrown P dest D k (i :: is) left c' v := by
  obtain ⟨us, s, hplace⟩ : ∃ us s, i.place = us ++ [s] :=
    ⟨_, _, (List.dropLast_concat_getLast hi.fits.ne_nil).symm⟩
  refine Ends.bind ((h.createParents hi hco (by simp [hpiece]) hplace).mono ?_)
  rintro r v ⟨rfl, hcwd, c', hface⟩
  have hgrown := hface.awaits.grown
  obtain ⟨id, hid⟩ := hgrown.exists_file h.planted.orderly (List.subset_cons_self _ _) hj hfile
  have hloc := h.planted.locate hj hgrown
  rw [hid] at hloc
  generalize pathBelow dest i.place = p at hface ⊢
  apply replace_faced hface (by simp [hpiece, Piece.isFile])
  intro u hu hnone hface
  refine Ends.step ((makeHardLink_faced hface hnone ?_ hid).mono ?_)
  · rw [hu, hcwd]
    exact hloc
  · rintro r t ⟨rfl, hadds⟩
    exact ⟨rfl, hadds.regrown h hi (hu.trans hcwd) hplace hpiece⟩

theorem unpackDirectory_regrown (hpiece : i.piece = .directory (some (e.mode &&& 0o777))) :
    Ends (do
      createParents (pathBelow dest i.place)
      unpackDirectory e (pathBelow dest i.place)) w fun r v =>
        r = .ok () ∧ ∃ c', Regrown P dest D k (i :: is) left c' v := by
  obtain ⟨us, s, hplace⟩ : ∃ us s, i.place = us ++ [s] :=
    ⟨_, _, (List.dropLast_concat_getLast hi.fits.ne_nil).symm⟩
  have hdir : i.piece.isDirectory = true := by simp [hpiece]
  have hway := h.way hi hco List.prefix_rfl fun _ => hdir
  have hext := hi.reachable.extended hi.fits.ne_nil
  refine Ends.bind ((h.parents_paved hi hco hplace).mono ?_)
  rintro r v ⟨rfl, hv⟩
  generalize pathBelow dest i.place = p at hext ⊢
  have hlast : i.place.reverse ++ D = s :: (us.reverse ++ D) := by simp [hplace]
  have hpaved (d : Disk) : (d.pave D us).ensure (s :: (us.reverse ++ D)) = d.pave D i.place := by
    rw [hplace, pave_append]
    rfl
  have hmade : Ends (unpackDirectory e p) v fun r t => r = .ok () ∧
      Into v ((w.disk.pave D i.place).setModeAt (i.place.reverse ++ D) (e.mode &&& 0o777)) t := by
    have hway' := hway.pave us
    rw [hplace] at hway'
    have hslot := (hplace ▸ hway).slot_pave (hplace ▸ hext)
    rw [← hv.cwd, ← hv.disk] at hslot
    rw [hlast, ← hpaved, ← hv.disk]
    refine unpackDirectory_ensure hslot ?_ ?_
    · rw [hv.disk]
      exact hway'.clear.last
    · rw [hv.disk]
      exact hway'.writable us s List.prefix_rfl
  refine hmade.mono ?_
  rintro r t ⟨rfl, ht⟩
  have hclean := h.planted.way hi
  have hgrown := (h.planted.grown.pave hclean.directory hclean.clear (.inr rfl)
    (by simp)).setModeAt (e.mode &&& 0o777) hi.fits.fresh
  rw [← hpiece] at hgrown
  refine ⟨rfl, _, h.add hi (ht.cwd.trans hv.cwd) hgrown ?_⟩
  rw [ht.disk]
  exact (h.littered.pave hway.clear).setModeAt _ _

theorem unpackEntry_regrown (hpiece : i.piece = pieceOf e) (hcut : e.isCut = false)
    (hdir : e.kind ≠ .directory) (hlink : e.kind ≠ .hardLink)
    (hsym : e.kind = .symlink → e.link ≠ "" ∧ e.link.utf8ByteSize < maxPath) :
    Ends (do
      createParents (pathBelow dest i.place)
      unpack e (pathBelow dest i.place)) w fun r v =>
        r = .ok () ∧ ∃ c', Regrown P dest D k (i :: is) left c' v := by
  obtain ⟨us, s, hplace⟩ : ∃ us s, i.place = us ++ [s] :=
    ⟨_, _, (List.dropLast_concat_getLast hi.fits.ne_nil).symm⟩
  cases hold : e.isOldDirectory with
  | true =>
    rw [unpack_of_old hold]
    exact unpackDirectory_regrown h hi hco (by simp [hpiece, pieceOf, hold])
  | false =>
    have hne : i.piece.isDirectory = false := by simp [hpiece, TarEntry.isDirectory, hold, hdir]
    refine Ends.bind ((h.createParents hi hco hne hplace).mono ?_)
    rintro r v ⟨rfl, hcwd, c', hface⟩
    refine (unpack_faced hface hcut hold hdir hlink hsym).mono ?_
    rintro r u ⟨rfl, hadds⟩
    exact ⟨rfl, hadds.regrown h hi hcwd hplace hpiece⟩

theorem writeEntry_regrown (he : Ready P dest D is e) (hitem : item? e = some i) :
    Ends (writeEntry dest e) w fun r v =>
      r = .ok () ∧ ∃ c', Regrown P dest D k (i :: is) left c' v := by
  obtain ⟨hne, heq⟩ := item?_eq_some.1 hitem
  have hpiece : i.piece = pieceOf e := by rw [heq]
  have hplace : placeOf e = i.place := by rw [heq]
  simp only [writeEntry, hplace]
  split
  · refine h.createDirectories hi hco ?_
    simp [hpiece, pieceOf, isOldDirectory_of_kind (.inl ‹_›), ‹e.kind = _›]
  split
  · obtain ⟨j, hj, htarget, hfile, -⟩ := he.linked h.planted.orderly hitem ‹_›
    rw [← htarget]
    refine linkFile_regrown h hi hco hj hfile ?_
    rw [hpiece, pieceOf_hardLink ‹_›, htarget]
  · exact unpackEntry_regrown h hi hco hpiece he.intact.2 ‹_› ‹_› (he.symlink hne)

end

theorem extractEntry_regrown (h : Regrown P dest D k is ((item? e).toList ++ left) c w)
    (he : Ready P dest D is e) (hco : Item.Coherent ((item? e).toList ++ left)) :
    Ends (extractEntry dest e) w fun r v => (∃ b, r = .ok b) ∧
      ∃ c', Regrown P dest D k ((item? e).toList ++ is) left c' v := by
  cases hi : item? e with
  | none =>
    have hplace : placeOf e = [] := by simpa [item?] using hi
    rw [hi] at h
    rw [extractEntry_root he.safe hplace]
    exact Ends.pure ⟨⟨false, rfl⟩, c, h⟩
  | some i =>
    rw [hi] at h hco
    rw [he.extractEntry_eq h.planted.orderly hi]
    refine Ends.told ((writeEntry_regrown h (he.next i hi) hco he hi).mono ?_)
    rintro r v ⟨rfl, hv⟩
    exact ⟨⟨true, rfl⟩, hv⟩

theorem extractEntries_regrown {archive : String} {m : Nat}
    (h : Regrown P dest D k is (tree es) c w) (hco : Item.Coherent (tree es))
    (hes : ∀ as e bs, es = as ++ e :: bs → Ready P dest D ((tree as).reverse ++ is) e) :
    Ends (extractEntries archive dest false m es) w fun r v => (∃ m, r = .ok m) ∧
      ∃ c', Regrown P dest D k ((tree es).reverse ++ is) [] c' v := by
  -- What has been put again is listed last first, what is left to put in the order of the entries.
  induction es generalizing is c m w with
  | nil => exact Ends.pure ⟨⟨m, rfl⟩, c, h⟩
  | cons e es ih =>
    have he : Ready P dest D is e := hes [] e es rfl
    rw [tree_cons] at h hco
    simp only [extractEntries, he.intact, Bool.not_true, Bool.false_eq_true, ↓reduceIte]
    refine Ends.bind ((extractEntry_regrown h he hco).mono ?_)
    rintro r v ⟨⟨b, rfl⟩, c', hv⟩
    have hrev : (item? e).toList.reverse = (item? e).toList := by cases item? e <;> rfl
    have hrest := hco.sublist (List.sublist_append_right _ (tree es))
    rw [tree_cons, List.reverse_append, hrev, List.append_assoc]
    refine ih hv hrest fun as f bs hsplit => ?_
    have := hes (e :: as) f bs (by rw [hsplit, List.cons_append])
    rwa [tree_cons, List.reverse_append, hrev, List.append_assoc] at this

theorem extractEntries_grown {archive : String} {m : Nat} (h : Planted P dest D k is w)
    (hco : Item.Coherent (tree es))
    (hes : ∀ as e bs, es = as ++ e :: bs → Ready P dest D ((tree as).reverse ++ is) e) :
    Ends (extractEntries archive dest false m es) w fun r v =>
      (∃ m, r = .ok m) ∧ Planted P dest D k ((tree es).reverse ++ is) v := by
  refine (extractEntries_regrown (h.clean _) hco hes).mono ?_
  rintro r v ⟨hr, c, hv⟩
  exact ⟨hr, hv.finished⟩

theorem writeEntry_grown (h : Planted P dest D k is w) (he : Ready P dest D is e)
    (hi : item? e = some i) : Ends (writeEntry dest e) w fun r v =>
      r = .ok () ∧ Planted P dest D k (i :: is) v := by
  have hco : Item.Coherent [i] := ⟨by simp, by simp, by simp⟩
  refine (writeEntry_regrown (h.clean _) (he.next i hi) hco he hi).mono ?_
  rintro r v ⟨hr, c, hv⟩
  exact ⟨hr, hv.finished⟩

end Tarball
end Provision
