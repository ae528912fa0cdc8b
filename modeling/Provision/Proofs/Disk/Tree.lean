import Provision.Proofs.Disk.Pave

/-!
Trees below a directory, told by what is put at which place; every item brings the directories above
it. A tree has grown on a disk if what its items say is there and everything else is as it was.
-/

namespace Provision

inductive Piece where
  | directory (mode : Option Nat)
  | file (f : FileData)
  | symlink (target : String)
  | hardLink (target : List String)
  /-- Only the directories above the place. -/
  | nothing
  deriving DecidableEq, Repr

def Piece.isFile : Piece → Bool
  | .file _ => true
  | .hardLink _ => true
  | _ => false

def Piece.isDirectory : Piece → Bool
  | .directory _ => true
  | _ => false

def Piece.admits : Piece → Bool
  | .directory mode => mode.all fun m => m &&& 0o300 = 0o300
  | _ => false

namespace Piece

@[simp] theorem isDirectory_directory (mode : Option Nat) : (directory mode).isDirectory = true := rfl

@[simp] theorem isDirectory_file (f : FileData) : (file f).isDirectory = false := rfl

@[simp] theorem isDirectory_symlink (t : String) : (symlink t).isDirectory = false := rfl

@[simp] theorem isDirectory_hardLink (t : List String) : (hardLink t).isDirectory = false := rfl

@[simp] theorem isDirectory_nothing : nothing.isDirectory = false := rfl

theorem isDirectory_of_admits {x : Piece} (h : x.admits = true) : x.isDirectory = true := by
  cases x <;> first | rfl | cases h

end Piece

structure Item where
  place : List String
  piece : Piece
  deriving DecidableEq, Repr

namespace Item

/-- The places that are gone to when an item is put: its own, and the one that it links to. -/
def visits (i : Item) : List (List String) :=
  i.place :: match i.piece with
    | .hardLink t => [t]
    | _ => []

variable {i j : Item} {is js : List Item} {p q r t ws : List String} {x y : Piece}

def Directory (is : List Item) (ws : List String) : Prop :=
  ∃ i ∈ is, ws <+: i.place ∧ (i.place = ws → i.piece.isDirectory = true)

def Occupied (is : List Item) (ws : List String) : Prop :=
  Directory is ws ∨ ∃ i ∈ is, i.place = ws ∧ i.piece ≠ .nothing

/-- The places that name the file of a place, by hard links. -/
inductive Shares (is : List Item) (p : List String) : List String → Prop
  | self : Shares is p p
  | link {t q : List String} : ⟨q, .hardLink t⟩ ∈ is → Shares is p t → Shares is p q

theorem directory_cons : Directory (i :: is) ws ↔
    (ws <+: i.place ∧ (i.place = ws → i.piece.isDirectory = true)) ∨ Directory is ws := by
  simp [Directory]

theorem occupied_cons :
    Occupied (i :: is) ws ↔ Occupied [i] ws ∨ Occupied is ws := by
  simp only [Occupied, directory_cons, List.mem_cons, exists_eq_or_imp]
  simp only [Directory, List.not_mem_nil, false_and, exists_false, or_false]
  exact or_or_or_comm

theorem Occupied.of_piece (h : Occupied (⟨p, y⟩ :: is) ws) (hdir : y.isDirectory = x.isDirectory)
    (hx : x ≠ .nothing) : Occupied (⟨p, x⟩ :: is) ws := by
  refine occupied_cons.2 ((occupied_cons.1 h).imp_left ?_)
  rintro (⟨i, hi, hpre, hw⟩ | ⟨i, hi, rfl, -⟩)
  · obtain rfl := List.mem_singleton.1 hi
    exact .inl ⟨_, List.mem_singleton_self _, hpre, hdir ▸ hw⟩
  · obtain rfl := List.mem_singleton.1 hi
    exact .inr ⟨_, List.mem_singleton_self _, rfl, hx⟩

theorem Shares.mono (h : Shares is p q) (hs : is ⊆ js) : Shares js p q := by
  induction h with
  | self => exact .self
  | link hmem _ ih => exact .link (hs hmem) ih

theorem shares_cons (hx : ∀ t, x ≠ .hardLink t) :
    Shares (⟨q, x⟩ :: is) p r ↔ Shares is p r := by
  refine ⟨fun h => ?_, fun h => h.mono (List.subset_cons_self _ _)⟩
  induction h with
  | self => exact .self
  | link hmem _ ih =>
    obtain he | hmem := List.mem_cons.1 hmem
    · exact absurd (congrArg piece he).symm (hx _)
    · exact .link hmem ih

theorem shares_link (hq : ∀ j ∈ is, j.piece ≠ .hardLink q) :
    Shares (⟨q, .hardLink t⟩ :: is) p r ↔ Shares is p r ∨ r = q ∧ Shares is p t := by
  constructor
  · intro h
    induction h with
    | self => exact .inl .self
    | link hmem _ ih =>
      obtain he | hmem := List.mem_cons.1 hmem
      · simp only [mk.injEq, Piece.hardLink.injEq] at he
        obtain ⟨rfl, rfl⟩ := he
        exact .inr ⟨rfl, ih.elim id And.right⟩
      · obtain ih | ⟨he, -⟩ := ih
        · exact .inl (.link hmem ih)
        · exact absurd (congrArg Piece.hardLink he) (hq _ hmem)
  · rintro (h | ⟨rfl, h⟩)
    · exact h.mono (List.subset_cons_self _ _)
    · exact .link List.mem_cons_self (h.mono (List.subset_cons_self _ _))

theorem shares_alone (hp : ∀ j ∈ is, j.piece ≠ .hardLink p) : Shares is p q ↔ q = p := by
  constructor
  · intro h
    induction h with
    | self => rfl
    | link hmem _ ih => exact absurd rfl (ih ▸ hp _ hmem)
  · rintro rfl
    exact .self

structure Fits (i : Item) (is : List Item) : Prop where
  ne_nil : i.place ≠ []
  names : ∀ s ∈ i.place, Disk.IsName s
  fresh : ∀ j ∈ is, j.place ≠ i.place
  above : ∀ j ∈ is, j.place <+: i.place → j.piece.admits = true
  below : ∀ j ∈ is, i.place <+: j.place → i.piece.isDirectory = true
  target : ∀ t, i.piece = .hardLink t → ∃ j ∈ is, j.place = t ∧ j.piece.isFile = true

/-- No two items have one place, and only a directory is above another; names can be made in it when
the other comes behind it. -/
structure Coherent (is : List Item) : Prop where
  distinct : is.Pairwise fun i j => i.place ≠ j.place
  leaves : ∀ i ∈ is, ∀ j ∈ is, i.piece.isDirectory = false → i.place <+: j.place → i.place = j.place
  admits : is.Pairwise fun i j => i.place <+: j.place → i.piece.admits = true

theorem Coherent.fits {js : List Item} (h : Coherent (is ++ i :: js)) (hne : i.place ≠ [])
    (hnames : ∀ s ∈ i.place, Disk.IsName s)
    (htarget : ∀ t, i.piece = .hardLink t → ∃ j ∈ is, j.place = t ∧ j.piece.isFile = true) :
    i.Fits is.reverse := by
  have hi : i ∈ is ++ i :: js := by simp
  have hfresh : ∀ j ∈ is.reverse, j.place ≠ i.place := by
    intro j hj
    exact (List.pairwise_append.1 h.distinct).2.2 j (List.mem_reverse.1 hj) i (by simp)
  refine ⟨hne, hnames, hfresh, ?_, ?_, by simpa using htarget⟩
  · intro j hj
    exact (List.pairwise_append.1 h.admits).2.2 j (List.mem_reverse.1 hj) i (by simp)
  · intro j hj hpre
    by_contra hdir
    have hold : j ∈ is ++ i :: js := List.mem_append_left _ (List.mem_reverse.1 hj)
    exact hfresh j hj (h.leaves i hi j hold (by simpa using hdir) hpre).symm

/-- Each item fits those that come after it in the list, which have been put before. -/
def Orderly : List Item → Prop
  | [] => True
  | i :: is => i.Fits is ∧ Orderly is

theorem Orderly.exists_target (h : Orderly is) (hi : ⟨p, .hardLink t⟩ ∈ is) :
    ∃ j ∈ is, j.place = t ∧ j.piece.isFile = true := by
  induction is with
  | nil => cases hi
  | cons i is ih =>
    obtain ⟨hfit, hrest⟩ := h
    obtain rfl | hi := List.mem_cons.1 hi
    · obtain ⟨j, hj, hjt⟩ := hfit.target t rfl
      exact ⟨j, List.mem_cons_of_mem _ hj, hjt⟩
    · obtain ⟨j, hj, hjt⟩ := ih hrest hi
      exact ⟨j, List.mem_cons_of_mem _ hj, hjt⟩

theorem Orderly.fits (h : Orderly is) (hi : i ∈ is) : ∃ js, i.Fits js := by
  induction is with
  | nil => cases hi
  | cons j is ih =>
    obtain rfl | hi := List.mem_cons.1 hi
    · exact ⟨is, h.1⟩
    · exact ih h.2 hi

theorem Orderly.untargeted (h : Orderly is) (hi : i.Fits is) :
    ∀ j ∈ is, j.piece ≠ .hardLink i.place := by
  intro j hj hpiece
  have hmem : ⟨j.place, .hardLink i.place⟩ ∈ is := by rwa [← hpiece]
  obtain ⟨j', hj', hplace, -⟩ := h.exists_target hmem
  exact hi.fresh j' hj' hplace

theorem Orderly.exists_file (h : Orderly is) (hi : i ∈ is) (hfile : i.piece.isFile = true) :
    ∃ j ∈ is, ∃ f, j.piece = .file f ∧ Shares is j.place i.place := by
  induction is generalizing i with
  | nil => cases hi
  | cons k is ih =>
    obtain ⟨hfit, hrest⟩ := h
    have hold : ∀ {l}, l ∈ is → l.piece.isFile = true →
        ∃ j ∈ k :: is, ∃ f, j.piece = .file f ∧ Shares (k :: is) j.place l.place := by
      intro l hl hlf
      obtain ⟨j, hj, f, hf, hs⟩ := ih hrest hl hlf
      exact ⟨j, List.mem_cons_of_mem k hj, f, hf, hs.mono (List.subset_cons_self k is)⟩
    obtain rfl | hi := List.mem_cons.1 hi
    · cases hpiece : i.piece with
      | file f => exact ⟨i, by simp, f, hpiece, .self⟩
      | hardLink t =>
        obtain ⟨l, hl, rfl, hlf⟩ := hfit.target t hpiece
        obtain ⟨j, hj, f, hf, hs⟩ := hold hl hlf
        refine ⟨j, hj, f, hf, .link ?_ hs⟩
        rw [← hpiece]
        exact List.mem_cons_self
      | directory => simp [hpiece, Piece.isFile] at hfile
      | symlink t => simp [hpiece, Piece.isFile] at hfile
      | nothing => simp [hpiece, Piece.isFile] at hfile
    · exact hold hi hfile

end Item

namespace Disk

open Item

variable {P d e : Disk} {D m X : Location} {i : Item} {is : List Item} {x : Piece} {n : Node}
  {s t : String} {f : FileData} {id : FileId} {p us ws : List String}

/-- The tree of some items stands below `D`, and all else is as on the disk `P`. -/
structure Grown (P : Disk) (D : Location) (is : List Item) (d : Disk) : Prop where
  wellFormed : d.WellFormed
  grows : Grows P d
  directory : ∀ ws, Directory is ws → d.nodeAt (ws.reverse ++ D) = some .directory
  symlink : ∀ i ∈ is, ∀ t, i.piece = .symlink t →
    d.nodeAt (i.place.reverse ++ D) = some (.symlink t)
  given : ∀ i ∈ is, ∀ mode, i.piece = .directory (some mode) →
    d.modes.get? (i.place.reverse ++ D) = some mode
  modes : ∀ m, (∀ i ∈ is, ∀ mode, i.piece = .directory (some mode) → i.place.reverse ++ D ≠ m) →
    d.modes.get? m = P.modes.get? m
  file : ∀ i ∈ is, ∀ f, i.piece = .file f → ∃ id, d.files.get? id = some f ∧
    ∀ m, d.nodeAt m = some (.file id) ↔ ∃ ws, Shares is i.place ws ∧ ws.reverse ++ D = m
  rest : ∀ m, (∀ ws, Occupied is ws → ws.reverse ++ D ≠ m) → Same P d m

theorem Grown.refl (h : P.WellFormed) (D : Location) : Grown P D [] P where
  wellFormed := h
  grows := .refl P
  directory ws hw := by simp [Directory] at hw
  symlink i hi := by cases hi
  given i hi := by cases hi
  modes m _ := rfl
  file i hi := by cases hi
  rest m _ := .refl P m

def Spares (P : Disk) (D : Location) (i : Item) : Prop :=
  ∀ s ∈ i.place.head?, P.nodeAt (s :: D) = none

instance (P : Disk) (D : Location) (i : Item) : Decidable (P.Spares D i) :=
  inferInstanceAs (Decidable (∀ s ∈ i.place.head?, P.nodeAt (s :: D) = none))

theorem Spares.nodeAt (hP : P.WellFormed) (hi : P.Spares D i) (hus : us <+: i.place)
    (hne : us ≠ []) : P.nodeAt (us.reverse ++ D) = none := by
  obtain ⟨s, r, rfl⟩ := List.exists_cons_of_ne_nil hne
  obtain ⟨q, hq⟩ := hus
  have hs := hi s (by simp [← hq])
  simpa using hP.below_none hs r.reverse

section

variable (h : Grown P D is d) (hP : P.WellFormed) (hi : i.Fits is) (hs : P.Spares D i)
include h hP hi hs

theorem Grown.vacant (hx : i.piece.isDirectory = false) :
    d.nodeAt (i.place.reverse ++ D) = none := by
  rw [(h.rest _ ?_).1, hs.nodeAt hP List.prefix_rfl hi.ne_nil]
  intro ws hocc he
  obtain rfl : ws = i.place := by simpa using he
  obtain ⟨j, hj, hpre, -⟩ | ⟨j, hj, hplace, -⟩ := hocc
  · simp [hi.below j hj hpre] at hx
  · exact hi.fresh j hj hplace

theorem Grown.clear (hD : P.nodeAt D = some .directory) (hus : us <+: i.place) : d.Clear D us := by
  intro vs hvs n hn
  have hpre : vs <+: i.place := hvs.trans hus
  by_cases hnil : vs = []
  · have hn' : d.nodeAt D = some n := by simpa [hnil] using hn
    rw [h.grows D _ hD] at hn'
    exact (Option.some.inj hn').symm
  by_cases hdir : Directory is vs
  · simpa [hn] using h.directory vs hdir
  · rw [(h.rest _ ?_).1, hs.nodeAt hP hpre hnil] at hn
    · cases hn
    intro ws hocc he
    obtain rfl : ws = vs := by simpa using he
    obtain hocc | ⟨j, hj, rfl, -⟩ := hocc
    · exact hdir hocc
    · exact hdir ⟨j, hj, List.prefix_rfl, fun _ => Piece.isDirectory_of_admits (hi.above j hj hpre)⟩

theorem Grown.mayWrite (hD : P.mayWrite D = true) (hus : us <+: i.place) :
    d.mayWrite (us.reverse ++ D) = true := by
  by_cases hgiven : ∃ j ∈ is, ∃ mode, j.piece = .directory (some mode) ∧ j.place = us
  · obtain ⟨j, hj, mode, hpiece, rfl⟩ := hgiven
    have hadmits := hi.above j hj hus
    simpa [hpiece, Piece.admits, Disk.mayWrite, modeAt, h.given j hj mode hpiece] using hadmits
  have hmode := modeAt_congr (h.modes (us.reverse ++ D) fun j hj mode hpiece he =>
    hgiven ⟨j, hj, mode, hpiece, by simpa using he⟩)
  rw [mayWrite_congr hmode]
  by_cases hnil : us = []
  · simpa [hnil] using hD
  · exact hP.mayWrite_of_none (hs.nodeAt hP hus hnil)

end

theorem Grown.pave (h : Grown P D is d) (hD : d.nodeAt D = some .directory) (hc : d.Clear D us)
    (hx : x = .nothing ∨ x = .directory none)
    (hiff : ∀ ws, ws <+: us ↔ ws <+: p ∧ (p = ws → x.isDirectory = true)) :
    Grown P D (⟨p, x⟩ :: is) (d.pave D us) where
  wellFormed := h.wellFormed.pave hD hc
  grows := h.grows.trans (grows_pave d D us)
  directory ws hw := by
    obtain hw | hw := directory_cons.1 hw
    · exact nodeAt_pave_of_clear hD hc ((hiff ws).2 hw)
    · exact grows_pave d D us _ _ (h.directory ws hw)
  symlink i hi t ht := by
    obtain rfl | hi := List.mem_cons.1 hi
    · obtain rfl | rfl := hx <;> cases ht
    · exact grows_pave d D us _ _ (h.symlink i hi t ht)
  given i hi mode hmode := by
    obtain rfl | hi := List.mem_cons.1 hi
    · obtain rfl | rfl := hx <;> cases hmode
    · rw [modes_pave, h.given i hi mode hmode]
  modes m hm := by
    rw [modes_pave]
    exact h.modes m fun i hi => hm i (List.mem_cons_of_mem _ hi)
  file i hi f hf := by
    have hlink : ∀ t, x ≠ .hardLink t := by
      rintro t rfl
      simp at hx
    obtain rfl | hi := List.mem_cons.1 hi
    · obtain rfl | rfl := hx <;> cases hf
    · obtain ⟨id, hid, hm⟩ := h.file i hi f hf
      refine ⟨id, by rw [files_pave, hid], fun m => ?_⟩
      simp [nodeAt_pave_iff, hm, shares_cons hlink]
  rest m hm := by
    have hold := h.rest m fun ws hw => hm ws (occupied_cons.2 (.inr hw))
    refine hold.trans (same_pave fun vs _ hvs => hm vs (.inl ?_))
    exact directory_cons.2 (.inl ((hiff vs).1 hvs))

theorem Grown.setModeAt (h : Grown P D (⟨p, .directory none⟩ :: is) d) (mode : Nat)
    (hfresh : ∀ j ∈ is, j.place ≠ p) :
    Grown P D (⟨p, .directory (some mode)⟩ :: is) (d.setModeAt (p.reverse ++ D) mode) := by
  have hget (m : Location) : (d.setModeAt (p.reverse ++ D) mode).modes.get? m =
      if p.reverse ++ D = m then some mode else d.modes.get? m := by
    simp [Disk.setModeAt]
  have hdir : ∀ ws, Directory (⟨p, .directory (some mode)⟩ :: is) ws ↔
      Directory (⟨p, .directory none⟩ :: is) ws := by
    simp [directory_cons]
  have hthere : d.nodeAt (p.reverse ++ D) = some .directory :=
    h.directory p (directory_cons.2 (.inl ⟨List.prefix_rfl, fun _ => rfl⟩))
  refine ⟨h.wellFormed.setModeAt hthere mode, h.grows, fun ws hw => h.directory ws ((hdir ws).1 hw),
    ?_, ?_, ?_, ?_, ?_⟩
  · intro i hi t ht
    obtain rfl | hi := List.mem_cons.1 hi
    · cases ht
    · exact h.symlink i (List.mem_cons_of_mem _ hi) t ht
  · intro i hi n hn
    rw [hget]
    obtain rfl | hi := List.mem_cons.1 hi
    · obtain rfl : mode = n := by simpa using hn
      exact if_pos rfl
    · rw [if_neg (by simpa using (hfresh i hi).symm), h.given i (List.mem_cons_of_mem _ hi) n hn]
  · intro m hm
    rw [hget, if_neg (hm _ List.mem_cons_self mode rfl)]
    refine h.modes m fun i hi n hn => ?_
    obtain rfl | hi := List.mem_cons.1 hi
    · cases hn
    · exact hm i (List.mem_cons_of_mem _ hi) n hn
  · intro i hi f hf
    obtain rfl | hi := List.mem_cons.1 hi
    · cases hf
    · obtain ⟨id, hid, hm⟩ := h.file i (List.mem_cons_of_mem _ hi) f hf
      refine ⟨id, hid, fun m => (hm m).trans ?_⟩
      simp [shares_cons]
  · intro m hm
    have hne : p.reverse ++ D ≠ m :=
      hm p (.inl (directory_cons.2 (.inl ⟨List.prefix_rfl, fun _ => rfl⟩)))
    have hold := h.rest m fun ws hw => hm ws (hw.of_piece rfl (by simp))
    exact hold.trans (same_setModeAt (Ne.symm hne) mode)

theorem Grown.fill (h : Grown P D (⟨p, .nothing⟩ :: is) d) (hwf : e.WellFormed)
    (hnone : d.nodeAt (p.reverse ++ D) = none)
    (hnode : ∀ m, e.nodeAt m = if p.reverse ++ D = m then some n else d.nodeAt m)
    (hfiles : ∀ m id, d.nodeAt m = some (.file id) → e.files.get? id = d.files.get? id)
    (hmodes : e.modes = d.modes) (hx : x.isDirectory = false ∧ x ≠ .nothing)
    (hlink : ∀ t, x = .symlink t → n = .symlink t)
    (hfile : ∀ i ∈ (⟨p, x⟩ :: is : List Item), ∀ f, i.piece = .file f →
      ∃ id, e.files.get? id = some f ∧ ∀ m, e.nodeAt m = some (.file id) ↔
        ∃ ws, Shares (⟨p, x⟩ :: is) i.place ws ∧ ws.reverse ++ D = m) :
    Grown P D (⟨p, x⟩ :: is) e := by
  have hgrows : Grows d e := by
    intro l n' hl
    rw [hnode, if_neg, hl]
    rintro rfl
    simp [hnone] at hl
  -- The directories were made for the place when nothing was put there yet.
  have hdir : ∀ ws, Directory (⟨p, x⟩ :: is) ws ↔ Directory (⟨p, .nothing⟩ :: is) ws := by
    intro ws
    simp [directory_cons, hx.1]
  refine ⟨hwf, h.grows.trans hgrows, fun ws hw => hgrows _ _ (h.directory ws ((hdir ws).1 hw)),
    ?_, ?_, ?_, hfile, ?_⟩
  · intro i hi t ht
    obtain rfl | hi := List.mem_cons.1 hi
    · simp [hnode, hlink t ht]
    · exact hgrows _ _ (h.symlink i (List.mem_cons_of_mem _ hi) t ht)
  · intro i hi mode hmode
    obtain rfl | hi := List.mem_cons.1 hi
    · obtain rfl : x = .directory (some mode) := hmode
      simp at hx
    · rw [hmodes, h.given i (List.mem_cons_of_mem _ hi) mode hmode]
  · intro m hm
    rw [hmodes]
    refine h.modes m fun i hi mode hmode => ?_
    obtain rfl | hi := List.mem_cons.1 hi
    · cases hmode
    · exact hm i (List.mem_cons_of_mem _ hi) mode hmode
  · intro m hm
    have hne : p.reverse ++ D ≠ m := hm p (.inr ⟨_, List.mem_cons_self, rfl, hx.2⟩)
    have hsame : e.nodeAt m = d.nodeAt m := by rw [hnode, if_neg hne]
    have hold := h.rest m fun ws hw => hm ws (hw.of_piece hx.1.symm hx.2)
    exact hold.trans ⟨hsame, fileAt_eq hsame fun id hid => hfiles m id (hsame ▸ hid),
      modeAt_congr (by rw [hmodes])⟩

section

variable (h : Grown P D (⟨us ++ [s], .nothing⟩ :: is) d)
include h

theorem Grown.parent : d.nodeAt (us.reverse ++ D) = some .directory :=
  h.directory us (directory_cons.2 (.inl ⟨List.prefix_append us [s], by simp⟩))

theorem Grown.files (hi : i ∈ is) (hf : i.piece = .file f) : ∃ id, d.files.get? id = some f ∧
    ∀ m, d.nodeAt m = some (.file id) ↔ ∃ ws, Shares is i.place ws ∧ ws.reverse ++ D = m := by
  obtain ⟨id, hid, hm⟩ := h.file i (List.mem_cons_of_mem _ hi) f hf
  refine ⟨id, hid, fun m => (hm m).trans ?_⟩
  simp only [shares_cons (x := .nothing) (by simp)]

variable (hnone : d.nodeAt (s :: (us.reverse ++ D)) = none)
include hnone

theorem Grown.makeSymlink (t : String) :
    Grown P D (⟨us ++ [s], .symlink t⟩ :: is) (d.put (s :: (us.reverse ++ D)) (.symlink t)) := by
  have hnode := fun m => nodeAt_put d s (us.reverse ++ D) m (.symlink t)
  refine h.fill (h.wellFormed.put h.parent (by simp [hnone]) (by simp)) (n := .symlink t)
    (by simpa using hnone) (by simpa using hnode) (fun _ _ _ => rfl) rfl (by simp) (by simp) ?_
  intro i hi f hf
  obtain rfl | hi := List.mem_cons.1 hi
  · cases hf
  · obtain ⟨id, hid, hm⟩ := h.files hi hf
    refine ⟨id, hid, fun m => ?_⟩
    simp only [shares_cons (x := .symlink t) (by simp), ← hm, hnode]
    split
    · simp_all
    · rfl

theorem Grown.makeHardLink (hq : ∀ j ∈ is, j.piece ≠ .hardLink (us ++ [s]))
    (hid : d.nodeAt (p.reverse ++ D) = some (.file id)) :
    Grown P D (⟨us ++ [s], .hardLink p⟩ :: is) (d.put (s :: (us.reverse ++ D)) (.file id)) := by
  have hnode := fun m => nodeAt_put d s (us.reverse ++ D) m (.file id)
  refine h.fill (h.wellFormed.put h.parent (by simp [hnone]) ?_) (n := .file id)
    (by simpa using hnone) (by simpa using hnode) (fun _ _ _ => rfl) rfl (by simp) (by simp) ?_
  · rintro j ⟨rfl⟩
    exact h.wellFormed.known hid
  intro i hi f hf
  obtain rfl | hi := List.mem_cons.1 hi
  · cases hf
  · obtain ⟨j, hj, hm⟩ := h.files hi hf
    refine ⟨j, hj, fun m => ?_⟩
    have htarget : Shares is i.place p ↔ id = j := by
      have := hm (p.reverse ++ D)
      simpa [hid] using this.symm
    simp only [shares_link hq, htarget, or_and_right, exists_or, ← hm, hnode]
    split
    · rename_i he
      subst he
      simp [hnone]
    · rename_i he
      refine ⟨.inl, ?_⟩
      rintro (hj | ⟨ws, ⟨rfl, -⟩, rfl⟩)
      · exact hj
      · exact absurd (by simp) he

theorem Grown.makeFile (hq : ∀ j ∈ is, j.piece ≠ .hardLink (us ++ [s])) (hwf : e.WellFormed)
    (hnode : ∀ m, e.nodeAt m = (d.addFile (s :: (us.reverse ++ D)) f).1.nodeAt m)
    (hfiles : ∀ id, e.files.get? id = (d.addFile (s :: (us.reverse ++ D)) f).1.files.get? id)
    (hmodes : e.modes = d.modes) :
    Grown P D (⟨us ++ [s], .file f⟩ :: is) e := by
  simp only [nodeAt_addFile] at hnode
  simp only [get?_addFile] at hfiles
  have hlt : ∀ {m id}, d.nodeAt m = some (.file id) → d.next ≠ id := fun hid =>
    Nat.ne_of_gt (h.wellFormed.lt_next hid)
  refine h.fill hwf (n := .file d.next) (by simpa using hnone) (by simpa using hnode)
    (fun m id hid => by rw [hfiles, if_neg (hlt hid)]) hmodes (by simp) (by simp) ?_
  intro i hi g hg
  simp only [shares_cons (x := .file f) (by simp)]
  -- The number of the new file is fresh: no other place names it, and the others name what they did.
  obtain rfl | hi := List.mem_cons.1 hi
  · obtain rfl : f = g := by simpa using hg
    refine ⟨d.next, by simp [hfiles], fun m => ?_⟩
    simp only [shares_alone hq, exists_eq_left, hnode]
    split
    · simp_all
    · rename_i he
      constructor
      · exact fun hid => absurd rfl (hlt hid)
      · rintro rfl
        exact absurd (by simp) he
  · obtain ⟨id, hid, hm⟩ := h.files hi hg
    have hne : d.next ≠ id := by
      rintro rfl
      simp [h.wellFormed.fresh (Nat.le_refl _)] at hid
    refine ⟨id, by rw [hfiles, if_neg hne, hid], fun m => ?_⟩
    rw [← hm, hnode]
    split
    · rename_i he
      subst he
      simp [hnone, hne]
    · rfl

end

theorem Grown.exists_file {js : List Item} (h : Grown P D js d) (ho : Orderly is) (hs : is ⊆ js)
    (hi : i ∈ is) (hf : i.piece.isFile = true) :
    ∃ id, d.nodeAt (i.place.reverse ++ D) = some (.file id) := by
  obtain ⟨j, hj, f, hjf, hshares⟩ := ho.exists_file hi hf
  obtain ⟨id, -, hm⟩ := h.file j (hs hj) f hjf
  exact ⟨id, (hm _).2 ⟨i.place, hshares.mono hs, rfl⟩⟩

theorem Grown.congr {js : List Item} (h : Grown P D is d) (hs : ∀ i, i ∈ is ↔ i ∈ js) :
    Grown P D js d := by
  have hdir : ∀ ws, Directory js ws ↔ Directory is ws := by
    intro ws
    simp [Directory, hs]
  refine ⟨h.wellFormed, h.grows, fun ws hw => h.directory ws ((hdir ws).1 hw),
    fun i hi => h.symlink i ((hs i).2 hi), fun i hi => h.given i ((hs i).2 hi),
    fun m hm => h.modes m fun i hi => hm i ((hs i).1 hi), fun i hi f hf => ?_,
    fun m hm => h.rest m fun ws hw => ?_⟩
  · obtain ⟨id, hid, hm⟩ := h.file i ((hs i).2 hi) f hf
    refine ⟨id, hid, fun m => (hm m).trans (exists_congr fun ws => and_congr_left fun _ => ?_)⟩
    exact ⟨fun h => h.mono fun i hi => (hs i).1 hi, fun h => h.mono fun i hi => (hs i).2 hi⟩
  · refine hm ws (hw.imp (hdir ws).2 ?_)
    simp [hs]

end Disk
end Provision
