import Provision.Proofs.Disk.Tree

/-!
Leftovers of a tree, from when it was put there before and perhaps not to the end. What is left at
the place of an item makes way for it; once every item has been put again nothing is left over, and
any two disks on which one tree has grown are alike.
-/

namespace Provision

/-- What may be left of a piece: the name of a file, whatever its data, or a link, wherever it
leads. -/
def Piece.Remains : Piece → Node → Prop
  | .file _, .file _ => True
  | .hardLink _, .file _ => True
  | .symlink _, .symlink _ => True
  | _, _ => False

namespace Piece

variable {x y : Piece} {n : Node}

theorem Remains.isFile (h : x.Remains n) (hx : x.isFile = true) : ∃ id, n = .file id := by
  cases x <;> cases n <;> simp_all [Remains, Piece.isFile]

theorem Remains.node_ne (h : x.Remains n) : n ≠ .directory := by
  rintro rfl
  cases x <;> simp [Remains] at h

theorem Remains.isDirectory (h : x.Remains n) : x.isDirectory = false := by
  cases x with
  | directory mode => cases n <;> simp [Remains] at h
  | file | symlink | hardLink | nothing => rfl

theorem Remains.ne_nothing (h : x.Remains n) : x ≠ .nothing := by
  rintro rfl
  cases n <;> simp [Remains] at h

structure Kin (x y : Piece) : Prop where
  directory : ∀ mode, x = .directory mode → y = .directory mode
  remains : ∀ n, x.Remains n → y.Remains n

theorem Kin.refl (x : Piece) : Kin x x := ⟨fun _ => id, fun _ => id⟩

theorem Kin.isDirectory (h : Kin x y) (hx : x.isDirectory = true) : y.isDirectory = true := by
  cases x with
  | directory mode => rw [h.directory mode rfl, isDirectory_directory]
  | file | symlink | hardLink | nothing => cases hx

theorem kin_file (f g : FileData) : Kin (.file f) (.file g) := by
  refine ⟨by simp, fun n h => ?_⟩
  cases n <;> exact h

end Piece

namespace Item

variable {i j : Item} {is js : List Item} {us ws : List String} {D m : Location} {n : Node}

/-- What may be left at a location where items below `D` have been put before. -/
def Left (D : Location) (is : List Item) (m : Location) (n : Node) : Prop :=
  (n = .directory ∧ ∃ ws, Directory is ws ∧ ws.reverse ++ D = m) ∨
    ∃ i ∈ is, i.place.reverse ++ D = m ∧ i.piece.Remains n

/-- Names can be made in it, or there is nothing to be put below it. -/
def Permits (i : Item) (is : List Item) : Prop :=
  ∀ j ∈ is, i.place <+: j.place → i.place = j.place ∨ i.piece.admits = true

instance (i : Item) (is : List Item) : Decidable (i.Permits is) :=
  inferInstanceAs (Decidable (∀ j ∈ is, i.place <+: j.place → i.place = j.place ∨
    i.piece.admits = true))

def Given (D : Location) (is : List Item) (m : Location) (mode : Nat) : Prop :=
  ∃ i ∈ is, i.place.reverse ++ D = m ∧ i.piece = .directory (some mode) ∧ i.Permits is

def Akin (js is : List Item) : Prop := ∀ j ∈ js, ∃ i ∈ is, i.place = j.place ∧ j.piece.Kin i.piece

theorem akin_of_subset (h : js ⊆ is) : Akin js is := fun j hj => ⟨j, h hj, rfl, .refl _⟩

theorem Akin.append {ks : List Item} (h : Akin js is) (hk : Akin ks is) : Akin (js ++ ks) is := by
  intro j hj
  obtain hj | hj := List.mem_append.1 hj
  · exact h j hj
  · exact hk j hj

theorem Left.mono (h : Left D js m n) (hs : Akin js is) : Left D is m n := by
  obtain ⟨rfl, ws, ⟨j, hj, hpre, hdir⟩, rfl⟩ | ⟨j, hj, rfl, hn⟩ := h
  · obtain ⟨i, hi, hplace, hkin⟩ := hs j hj
    refine .inl ⟨rfl, ws, ⟨i, hi, hplace ▸ hpre, fun he => ?_⟩, rfl⟩
    exact hkin.isDirectory (hdir (hplace ▸ he))
  · obtain ⟨i, hi, hplace, hkin⟩ := hs j hj
    exact .inr ⟨i, hi, by rw [hplace], hkin.remains n hn⟩

theorem Coherent.sublist (h : Coherent is) (hs : js.Sublist is) : Coherent js :=
  ⟨h.distinct.sublist hs, fun i hi j hj => h.leaves i (hs.subset hi) j (hs.subset hj),
    h.admits.sublist hs⟩

theorem Coherent.ne_place (h : Coherent (i :: is)) (hj : j ∈ is) : j.place ≠ i.place :=
  fun he => List.rel_of_pairwise_cons h.distinct hj he.symm

theorem Coherent.directory_above (h : Coherent (i :: is)) (hj : j ∈ is)
    (hpre : j.place <+: i.place) : j.piece.isDirectory = true := by
  by_contra hdir
  exact h.ne_place hj (h.leaves j (by simp [hj]) i (by simp) (by simpa using hdir) hpre)

theorem Coherent.directory_of_below (h : Coherent (i :: is)) (hj : j ∈ is)
    (hpre : i.place <+: j.place) : i.piece.isDirectory = true := by
  by_contra hdir
  exact h.ne_place hj (h.leaves i (by simp) j (by simp [hj]) (by simpa using hdir) hpre).symm

theorem Orderly.sorts (h : Orderly is) (hocc : Occupied is ws) : Directory is ws ∨
    (∃ i ∈ is, i.place = ws ∧ ∃ t, i.piece = .symlink t) ∨
      ∃ j ∈ is, ∃ f, j.piece = .file f ∧ Shares is j.place ws := by
  obtain hw | ⟨i, hi, rfl, hne⟩ := hocc
  · exact .inl hw
  cases hpiece : i.piece with
  | directory => exact .inl ⟨i, hi, List.prefix_rfl, fun _ => by simp [hpiece]⟩
  | nothing => exact absurd hpiece hne
  | symlink t => exact .inr (.inl ⟨i, hi, rfl, t, hpiece⟩)
  | file | hardLink => exact .inr (.inr (h.exists_file hi (by simp [hpiece, Piece.isFile])))

end Item

namespace Disk

open Item

variable {P c d e : Disk} {D X m : Location} {i : Item} {is js : List Item} {n : Node} {s : String}
  {f : FileData} {us ws : List String}

theorem Grown.node (h : Grown P D is d) (ho : Orderly is) (hocc : Occupied is ws) :
    ∃ n, d.nodeAt (ws.reverse ++ D) = some n ∧ Left D is (ws.reverse ++ D) n := by
  have hdir : ∀ {ws}, Directory is ws → ∃ n, d.nodeAt (ws.reverse ++ D) = some n ∧
      Left D is (ws.reverse ++ D) n :=
    fun {ws} hw => ⟨.directory, h.directory ws hw, .inl ⟨rfl, ws, hw, rfl⟩⟩
  obtain hw | ⟨i, hi, rfl, hne⟩ := hocc
  · exact hdir hw
  cases hpiece : i.piece with
  | directory => exact hdir ⟨i, hi, List.prefix_rfl, fun _ => by simp [hpiece]⟩
  | nothing => exact absurd hpiece hne
  | symlink t =>
    exact ⟨_, h.symlink i hi t hpiece, .inr ⟨i, hi, rfl, by simp [hpiece, Piece.Remains]⟩⟩
  | file | hardLink =>
    obtain ⟨id, hid⟩ := h.exists_file ho (List.Subset.refl is) hi (by simp [hpiece, Piece.isFile])
    exact ⟨_, hid, .inr ⟨i, hi, rfl, by simp [hpiece, Piece.Remains]⟩⟩

theorem Grown.left (h : Grown P D is d) (ho : Orderly is) (hP : P.nodeAt m = none)
    (hm : d.nodeAt m = some n) : Left D is m n := by
  by_cases hocc : ∃ ws, Occupied is ws ∧ ws.reverse ++ D = m
  · obtain ⟨ws, hocc, rfl⟩ := hocc
    obtain ⟨n', hn', hleft⟩ := h.node ho hocc
    cases hn'.symm.trans hm
    exact hleft
  · have hsame := h.rest m fun ws hw he => hocc ⟨ws, hw, he⟩
    simp [hsame.1, hP] at hm

theorem Grown.same (h : Grown P D is d) (ho : Orderly is) (hP : P.WellFormed)
    (hD : P.nodeAt D = some .directory) (hs : ∀ i ∈ is, P.Spares D i) (hm : P.nodeAt m ≠ none) :
    Same P d m := by
  have hmode : d.modeAt m = P.modeAt m := by
    refine modeAt_congr (h.modes m ?_)
    rintro i hi mode - rfl
    obtain ⟨js, hfits⟩ := ho.fits hi
    exact hm ((hs i hi).nodeAt hP List.prefix_rfl hfits.ne_nil)
  by_cases hocc : ∃ ws, Occupied is ws ∧ ws.reverse ++ D = m
  · obtain ⟨ws, hocc, rfl⟩ := hocc
    obtain ⟨i, hi, hpre⟩ : ∃ i ∈ is, ws <+: i.place := by
      obtain ⟨i, hi, hpre, -⟩ | ⟨i, hi, rfl, -⟩ := hocc
      · exact ⟨i, hi, hpre⟩
      · exact ⟨i, hi, List.prefix_rfl⟩
    by_cases hnil : ws = []
    · have hnode : d.nodeAt D = P.nodeAt D := by rw [h.grows _ _ hD, hD]
      subst hnil
      exact ⟨hnode, fileAt_eq hnode fun id hid => by simp [List.reverse_nil, hnode, hD] at hid, hmode⟩
    · exact absurd ((hs i hi).nodeAt hP hpre hnil) hm
  · exact h.rest m fun ws hw he => hocc ⟨ws, hw, he⟩

theorem Grown.of_same {Q : Disk} (h : Grown P D is d) (hs : ∀ m, Same Q P m)
    (hmodes : P.modes = Q.modes) : Grown Q D is d where
  wellFormed := h.wellFormed
  grows l n hl := h.grows l n (by rw [(hs l).1, hl])
  directory := h.directory
  symlink := h.symlink
  given := h.given
  modes m hm := by rw [h.modes m hm, hmodes]
  file := h.file
  rest m hm := (hs m).trans (h.rest m hm)

/-- Leftovers of some items lie about on a disk, and it is another but for them. -/
structure Littered (D : Location) (is : List Item) (c d : Disk) : Prop where
  files : d.files = c.files
  next : d.next = c.next
  grows : Grows c d
  left : ∀ {m n}, c.nodeAt m = none → d.nodeAt m = some n → Left D is m n
  modes : ∀ m, d.modes.get? m = c.modes.get? m ∨
    ∃ mode, d.modes.get? m = some mode ∧ Given D is m mode

namespace Littered

theorem refl (D : Location) (is : List Item) (d : Disk) : Littered D is d d :=
  ⟨rfl, rfl, .refl d, fun hc hd => by simp [hc] at hd, fun _ => .inl rfl⟩

section

variable (h : Littered D (i :: is) c d) (hco : Coherent (i :: is))
include h hco

theorem clear (hus : us <+: i.place) (hi : us = i.place → i.piece.isDirectory = true)
    (hc : c.Clear D us) : d.Clear D us := by
  intro vs hvs n hn
  cases hc' : c.nodeAt (vs.reverse ++ D) with
  | some n' =>
    obtain rfl : n' = n := by simpa [h.grows _ _ hc'] using hn
    exact hc vs hvs _ hc'
  | none =>
    obtain ⟨rfl, -⟩ | ⟨j, hj, he, hrem⟩ := h.left hc' hn
    · rfl
    obtain rfl : j.place = vs := by simpa using he
    obtain rfl | hj := List.mem_cons.1 hj
    · exact absurd (hi (hus.eq_of_length_le hvs.length_le)) (by simp [hrem.isDirectory])
    · exact absurd (hco.directory_above hj (hvs.trans hus)) (by simp [hrem.isDirectory])

theorem leaf (hi : i.piece.isDirectory = false) (hc : c.nodeAt (i.place.reverse ++ D) = none)
    (hn : d.nodeAt (i.place.reverse ++ D) = some n) : i.piece.Remains n := by
  obtain ⟨rfl, ws, ⟨j, hj, hpre, hdir⟩, he⟩ | ⟨j, hj, he, hrem⟩ := h.left hc hn
  · obtain rfl : ws = i.place := by simpa using he
    obtain rfl | hj := List.mem_cons.1 hj
    · simp [hdir rfl] at hi
    · simp [hco.directory_of_below hj hpre] at hi
  · obtain rfl | hj := List.mem_cons.1 hj
    · exact hrem
    · exact absurd (by simpa using he) (hco.ne_place hj)

omit hco in
theorem mayWrite (hus : us <+: i.place) (hne : us ≠ i.place)
    (hc : c.mayWrite (us.reverse ++ D) = true) : d.mayWrite (us.reverse ++ D) = true := by
  obtain hsame | ⟨mode, hmode, j, hj, he, hpiece, hpermits⟩ := h.modes (us.reverse ++ D)
  · rwa [mayWrite_congr (modeAt_congr hsame)]
  · obtain rfl : j.place = us := by simpa using he
    have hadmits := (hpermits i (by simp) hus).resolve_left hne
    simpa [hpiece, Piece.admits, Disk.mayWrite, modeAt, hmode] using hadmits

end

variable (h : Littered D is c d)
include h

theorem pave (hc : d.Clear D us) : Littered D is (c.pave D us) (d.pave D us) where
  files := by simp [h.files]
  next := by simp [h.next]
  grows m n hm := by
    obtain hm | ⟨-, rfl, vs, hne, hpre, rfl⟩ := nodeAt_pave_iff.1 hm
    · exact grows_pave d D us _ _ (h.grows m n hm)
    · refine nodeAt_pave_iff.2 ?_
      cases hd : d.nodeAt (vs.reverse ++ D) with
      | none => exact .inr ⟨rfl, rfl, vs, hne, hpre, rfl⟩
      | some n => exact .inl (congrArg some (hc vs hpre n hd))
  left {m n} hm hn := by
    have hnone : c.nodeAt m = none := by
      cases hc : c.nodeAt m with
      | none => rfl
      | some n => simp [grows_pave c D us m n hc] at hm
    obtain hn | ⟨-, rfl, hway⟩ := nodeAt_pave_iff.1 hn
    · exact h.left hnone hn
    · have := nodeAt_pave_iff.2 (.inr ⟨hnone, rfl, hway⟩)
      simp [hm] at this
  modes m := by simpa only [modes_pave] using h.modes m

theorem setModeAt (l : Location) (mode : Nat) :
    Littered D is (c.setModeAt l mode) (d.setModeAt l mode) where
  files := h.files
  next := h.next
  grows := h.grows
  left := h.left
  modes m := by
    by_cases hm : l = m
    · simp [Disk.setModeAt, hm]
    · simpa [Disk.setModeAt, hm] using h.modes m

theorem remove (hc : c.nodeAt (s :: X) = none) : Littered D is c (d.remove (s :: X)) where
  files := h.files
  next := h.next
  grows m n hm := by
    rw [nodeAt_remove, if_neg, h.grows m n hm]
    rintro rfl
    simp [hc] at hm
  left {m n} hm hn := h.left hm (grows_of_remove d s X m n hn)
  modes := h.modes

theorem set {c' d' : Disk} {l : Location} (hfiles : d'.files = c'.files) (hnext : d'.next = c'.next)
    (hcmodes : c'.modes = c.modes) (hdmodes : d'.modes = d.modes)
    (hc : ∀ m, c'.nodeAt m = if l = m then some n else c.nodeAt m)
    (hd : ∀ m, d'.nodeAt m = if l = m then some n else d.nodeAt m) : Littered D is c' d' where
  files := hfiles
  next := hnext
  grows m k hm := by
    rw [hc] at hm
    rw [hd]
    split at hm
    · exact (if_pos ‹_›).trans hm
    · exact (if_neg ‹_›).trans (h.grows m k hm)
  left {m k} hm hk := by
    rw [hc] at hm
    rw [hd] at hk
    split at hm
    · cases hm
    · exact h.left hm ((if_neg ‹_›).symm.trans hk)
  modes m := by simpa only [hcmodes, hdmodes] using h.modes m

theorem put (n : Node) : Littered D is (c.put (s :: X) n) (d.put (s :: X) n) :=
  h.set h.files h.next rfl rfl (fun m => nodeAt_put c s X m n) fun m => nodeAt_put d s X m n

theorem addFile (f : FileData) :
    Littered D is (c.addFile (s :: X) f).1 (d.addFile (s :: X) f).1 := by
  refine h.set ?_ ?_ rfl rfl (fun m => nodeAt_addFile c s X m f) fun m => ?_
  · simp [Disk.addFile, h.files, h.next]
  · simp [Disk.addFile, h.next]
  · rw [nodeAt_addFile, h.next]

end Littered

theorem Littered.drop (h : Littered D (i :: is) c d) (hg : Grown P D (i :: js) c)
    (ho : Orderly (i :: js)) : Littered D is c d where
  files := h.files
  next := h.next
  grows := h.grows
  left {m n} hm hn := by
    have hput : ∀ ws, Occupied [i] ws → ws.reverse ++ D ≠ m := by
      rintro ws hocc rfl
      obtain ⟨n', hn', -⟩ := hg.node ho (occupied_cons.2 (.inl hocc))
      simp [hm] at hn'
    obtain ⟨rfl, ws, hw, rfl⟩ | ⟨j, hj, rfl, hrem⟩ := h.left hm hn
    · obtain hw | hw := directory_cons.1 hw
      · exact absurd rfl (hput ws (.inl ⟨i, by simp, hw⟩))
      · exact .inl ⟨rfl, ws, hw, rfl⟩
    · obtain rfl | hj := List.mem_cons.1 hj
      · exact absurd rfl (hput j.place (.inr ⟨j, by simp, rfl, hrem.ne_nothing⟩))
      · exact .inr ⟨j, hj, rfl, hrem⟩
  modes m := by
    obtain hsame | ⟨mode, hmode, j, hj, rfl, hpiece, hpermits⟩ := h.modes m
    · exact .inl hsame
    obtain rfl | hj := List.mem_cons.1 hj
    · exact .inl (hmode.trans (hg.given j (by simp) mode hpiece).symm)
    · exact .inr ⟨mode, hmode, j, hj, rfl, hpiece, fun l hl => hpermits l (List.mem_cons_of_mem _ hl)⟩

theorem Littered.nodeAt (h : Littered D [] c d) (m : Location) : d.nodeAt m = c.nodeAt m := by
  cases hc : c.nodeAt m with
  | some n => exact h.grows m n hc
  | none =>
    cases hd : d.nodeAt m with
    | none => rfl
    | some n => simpa [Left, Directory] using h.left hc hd

theorem Littered.modes_eq (h : Littered D [] c d) (m : Location) :
    d.modes.get? m = c.modes.get? m := by
  obtain hsame | ⟨-, -, i, hi, -⟩ := h.modes m
  · exact hsame
  · cases hi

theorem Littered.grown (h : Littered D [] c d) (hg : Grown P D is c) : Grown P D is d := by
  have hnode := h.nodeAt
  have hmodes := h.modes_eq
  have hfile : ∀ m, d.fileAt m = c.fileAt m := fun m =>
    fileAt_eq (hnode m) fun _ _ => by rw [h.files]
  refine ⟨⟨?_, ?_, ?_, ?_⟩, ?_, ?_, ?_, ?_, ?_, ?_, ?_⟩
  · intro s X n hn
    rw [hnode] at hn ⊢
    exact hg.wellFormed.parent hn
  · intro l id hl
    rw [h.files]
    exact hg.wellFormed.known (hnode l ▸ hl)
  · intro id hid
    rw [h.files]
    exact hg.wellFormed.fresh (h.next ▸ hid)
  · intro X mode hmode
    rw [hnode]
    exact hg.wellFormed.moded (hmodes X ▸ hmode)
  · exact hg.grows.trans h.grows
  · exact fun ws hw => h.grows _ _ (hg.directory ws hw)
  · exact fun i hi t ht => h.grows _ _ (hg.symlink i hi t ht)
  · simpa only [hmodes] using hg.given
  · simpa only [hmodes] using hg.modes
  · simpa only [h.files, hnode] using hg.file
  · exact fun m hm => (hg.rest m hm).trans ⟨hnode m, hfile m, modeAt_congr (hmodes m)⟩

def holding (P d : Disk) : Disk := { P with files := d.files, next := d.next }

theorem same_holding (h : ∀ m, P.nodeAt m ≠ none → Same P d m) (m : Location) :
    Same P (P.holding d) m := by
  refine ⟨rfl, fileAt_eq rfl fun id hid => ?_, rfl⟩
  have hid' : P.nodeAt m = some (.file id) := hid
  have hm := h m (by simp [hid'])
  have hfile := hm.2
  simp only [fileAt, hm.1, hid'] at hfile
  exact hfile

theorem WellFormed.holding (hP : P.WellFormed) (hd : d.WellFormed) (h : Grows P d) :
    (P.holding d).WellFormed where
  parent := hP.parent
  known hl := hd.known (h _ _ hl)
  fresh := hd.fresh
  moded := hP.moded

theorem Grown.littered (h : Grown P D js d) (ho : Orderly js) (hs : Akin js is)
    (hp : ∀ i ∈ is, i.Permits is) : Littered D is (P.holding d) d where
  files := rfl
  next := rfl
  grows := h.grows
  left hm hn := (h.left ho hm hn).mono hs
  modes m := by
    by_cases hgiven : ∃ j ∈ js, ∃ mode, j.piece = .directory (some mode) ∧ j.place.reverse ++ D = m
    · obtain ⟨j, hj, mode, hpiece, rfl⟩ := hgiven
      obtain ⟨i, hi, hplace, hkin⟩ := hs j hj
      exact .inr ⟨mode, h.given j hj mode hpiece, i, hi, by rw [hplace],
        hkin.directory _ hpiece, hp i hi⟩
    · exact .inl (h.modes m fun j hj mode hpiece he => hgiven ⟨j, hj, mode, hpiece, he⟩)

def OneFile (d : Disk) (l m : Location) : Prop :=
  ∃ id, d.nodeAt l = some (.file id) ∧ d.nodeAt m = some (.file id)

/-- The same directories, links and files with the same modes, and the same names share a file. -/
structure Alike (d e : Disk) : Prop where
  directory : ∀ m, d.nodeAt m = some .directory ↔ e.nodeAt m = some .directory
  symlink : ∀ m t, d.nodeAt m = some (.symlink t) ↔ e.nodeAt m = some (.symlink t)
  file : ∀ m, d.fileAt m = e.fileAt m
  mode : ∀ m, d.modeAt m = e.modeAt m
  shared : ∀ l m, d.OneFile l m ↔ e.OneFile l m

section

variable (hd : Grown P D is d) (he : Grown P D is e) (ho : Orderly is)
include hd ho

theorem Grown.names {id : FileId} (hocc : Occupied is ws)
    (hid : d.nodeAt (ws.reverse ++ D) = some (.file id)) :
    ∃ j ∈ is, ∃ f, j.piece = .file f ∧ ∀ m,
      d.nodeAt m = some (.file id) ↔ ∃ ws, Shares is j.place ws ∧ ws.reverse ++ D = m := by
  obtain hw | ⟨i, hi, rfl, t, ht⟩ | ⟨j, hj, f, hf, hs⟩ := ho.sorts hocc
  · simp [hd.directory ws hw] at hid
  · simp [hd.symlink i hi t ht] at hid
  · obtain ⟨k, -, hm⟩ := hd.file j hj f hf
    obtain rfl : k = id := by simpa [(hm _).2 ⟨ws, hs, rfl⟩] using hid
    exact ⟨j, hj, f, hf, hm⟩

include he

theorem Grown.level (m : Location) : d.fileAt m = e.fileAt m ∧ (d.nodeAt m = e.nodeAt m ∨
    ∃ j k, d.nodeAt m = some (.file j) ∧ e.nodeAt m = some (.file k)) := by
  have hplain : ∀ n, (∀ id, n ≠ .file id) → d.nodeAt m = some n → e.nodeAt m = some n →
      d.fileAt m = e.fileAt m ∧ d.nodeAt m = e.nodeAt m := by
    intro n hn hdn hen
    have hnode := hdn.trans hen.symm
    refine ⟨fileAt_eq hnode fun id hid => ?_, hnode⟩
    exact absurd (by simpa [hdn] using hid) (hn id)
  by_cases hocc : ∃ ws, Occupied is ws ∧ ws.reverse ++ D = m
  · obtain ⟨ws, hocc, rfl⟩ := hocc
    obtain hw | ⟨i, hi, rfl, t, ht⟩ | ⟨j, hj, f, hf, hs⟩ := ho.sorts hocc
    · exact (hplain .directory (by simp) (hd.directory ws hw) (he.directory ws hw)).imp_right .inl
    · exact (hplain _ (by simp) (hd.symlink i hi t ht) (he.symlink i hi t ht)).imp_right .inl
    · obtain ⟨id, hid, hm⟩ := hd.file j hj f hf
      obtain ⟨k, hk, hm'⟩ := he.file j hj f hf
      have hdn := (hm _).2 ⟨ws, hs, rfl⟩
      have hen := (hm' _).2 ⟨ws, hs, rfl⟩
      exact ⟨by simp [fileAt, hdn, hen, hid, hk], .inr ⟨id, k, hdn, hen⟩⟩
  · have hsame : ∀ {d}, Grown P D is d → Same P d m := fun h =>
      h.rest m fun ws hw he => hocc ⟨ws, hw, he⟩
    exact ⟨(hsame hd).file.trans (hsame he).file.symm, .inl ((hsame hd).1.trans (hsame he).1.symm)⟩

theorem Grown.oneFile {l m : Location} (h : d.OneFile l m) : e.OneFile l m := by
  obtain ⟨id, hl, hm⟩ := h
  by_cases hocc : ∃ ws, Occupied is ws ∧ (ws.reverse ++ D = l ∨ ws.reverse ++ D = m)
  · obtain ⟨ws, hocc, hws⟩ := hocc
    have hid : d.nodeAt (ws.reverse ++ D) = some (.file id) := by
      obtain h | h := hws <;> rw [h] <;> assumption
    obtain ⟨j, hj, f, hf, hnames⟩ := hd.names ho hocc hid
    obtain ⟨k, -, hnames'⟩ := he.file j hj f hf
    exact ⟨k, (hnames' l).2 ((hnames l).1 hl), (hnames' m).2 ((hnames m).1 hm)⟩
  · have hsame : ∀ x, x = l ∨ x = m → e.nodeAt x = d.nodeAt x := by
      intro x hx
      have hfree : ∀ ws, Occupied is ws → ws.reverse ++ D ≠ x :=
        fun ws hw h => hocc ⟨ws, hw, h ▸ hx⟩
      rw [(he.rest x hfree).1, (hd.rest x hfree).1]
    exact ⟨id, (hsame l (.inl rfl)).trans hl, (hsame m (.inr rfl)).trans hm⟩

omit ho in
theorem Grown.mode (m : Location) : d.modeAt m = e.modeAt m := by
  by_cases hgiven : ∃ i ∈ is, ∃ mode, i.piece = .directory (some mode) ∧ i.place.reverse ++ D = m
  · obtain ⟨i, hi, mode, hpiece, rfl⟩ := hgiven
    exact modeAt_congr ((hd.given i hi mode hpiece).trans (he.given i hi mode hpiece).symm)
  · have hrest : ∀ i ∈ is, ∀ mode, i.piece = .directory (some mode) → i.place.reverse ++ D ≠ m :=
      fun i hi mode hpiece h => hgiven ⟨i, hi, mode, hpiece, h⟩
    exact modeAt_congr ((hd.modes m hrest).trans (he.modes m hrest).symm)

theorem Grown.alike : Alike d e where
  directory m := by
    obtain ⟨-, h | ⟨j, k, hj, hk⟩⟩ := hd.level he ho m
    · rw [h]
    · simp [hj, hk]
  symlink m t := by
    obtain ⟨-, h | ⟨j, k, hj, hk⟩⟩ := hd.level he ho m
    · rw [h]
    · simp [hj, hk]
  file m := (hd.level he ho m).1
  mode := hd.mode he
  shared l m := ⟨hd.oneFile he ho, he.oneFile hd ho⟩

end

end Disk
end Provision
