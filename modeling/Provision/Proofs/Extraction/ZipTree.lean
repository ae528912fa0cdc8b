import Provision.Extraction.Zip
import Provision.Proofs.Extraction.Planting

namespace Provision

open PathText Provision.Action World Disk Item

namespace ZipEntry

variable {e : ZipEntry} {acc us ws : List String} {cs w : List Char}

theorem plain_of_mem_pieces (h : w ∈ pieces cs) : ∀ c ∈ w, isSeparator c = false := by
  induction cs generalizing w with
  | nil => simp_all [pieces]
  | cons c r ih =>
    cases hc : isSeparator c with
    | true =>
      simp only [pieces, hc, ↓reduceIte, List.mem_cons] at h
      obtain rfl | h := h
      · simp
      · exact ih h
    | false =>
      cases hr : pieces r with
      | nil => simp_all [pieces]
      | cons v vs =>
        simp only [pieces, hc, hr, Bool.false_eq_true, ↓reduceIte, List.mem_cons] at h
        obtain rfl | h := h
        · have hv := ih (w := v) (by simp [hr])
          simpa [hc] using hv
        · exact ih (by simp [hr, h])

theorem settle_segments (h : settle acc ws = some us) (hws : ∀ s ∈ ws, '/' ∉ s.toList)
    (hacc : ∀ s ∈ acc, IsSegment s ∧ s ≠ "..") : ∀ s ∈ us, IsSegment s ∧ s ≠ ".." := by
  induction ws generalizing acc with
  | nil =>
    obtain rfl : acc.reverse = us := by simpa [settle] using h
    simpa using hacc
  | cons s r ih =>
    have hr : ∀ t ∈ r, '/' ∉ t.toList := fun t ht => hws t (by simp [ht])
    simp only [settle] at h
    split at h
    · exact ih h hr hacc
    · split at h
      · cases acc with
        | nil => cases h
        | cons t acc => exact ih h hr fun q hq => hacc q (by simp [hq])
      · refine ih h hr fun q hq => ?_
        obtain rfl | hq := List.mem_cons.1 hq
        · exact ⟨⟨by simpa [isIdle] using ‹¬ (q = "" ∨ q = ".")›, hws q (by simp)⟩, ‹_›⟩
        · exact hacc q hq

theorem enclosed?_segments (h : e.enclosed? = some us) : ∀ s ∈ us, IsSegment s ∧ s ≠ ".." := by
  simp only [enclosed?] at h
  split at h
  · cases h
  · refine settle_segments h ?_ (by simp)
    intro s hs
    obtain ⟨w, hw, rfl⟩ := List.mem_map.1 hs
    intro hslash
    have := plain_of_mem_pieces hw '/' (by simpa using hslash)
    simp [isSeparator] at this

end ZipEntry

namespace ZipFile

variable {σ : Type} {w v : World σ} {P d : Disk} {D : Location} {dest archive p s root : String}
  {k n : Nat} {is : List Item} {i : Item} {us ws : List String} {e : ZipEntry} {es : List ZipEntry}
  {R : Option String}

/-- The folder that holds everything an archive has, and is not the mark of an installation. -/
structure IsWrapper (es : List ZipEntry) (root : String) : Prop where
  shared : ∀ e ∈ es, ∃ r, e.enclosed? = some (root :: r)
  deep : ∃ e ∈ es, ∃ ws, e.enclosed? = some ws ∧ 1 < ws.length
  unmarked : root ≠ marker

theorem rootOf?_eq_some (h : e.opens = true) :
    sharedRoot?.rootOf? e = some root ↔ ∃ r, e.enclosed? = some (root :: r) := by
  simp only [sharedRoot?.rootOf?, h, ↓reduceIte]
  cases e.enclosed? with
  | none => simp
  | some ws => cases ws <;> simp

theorem sharedRoot?_eq_some (h : ∀ e ∈ es, e.opens = true) :
    sharedRoot? es = some root ↔ es ≠ [] ∧ ∀ e ∈ es, ∃ r, e.enclosed? = some (root :: r) := by
  cases es with
  | nil => simp [sharedRoot?]
  | cons e es =>
    have he := h e (by simp)
    have hes : ∀ q, es.all (sharedRoot?.rootOf? · = some q) = true ↔
        ∀ f ∈ es, ∃ r, f.enclosed? = some (q :: r) := by
      intro q
      simp only [List.all_eq_true, decide_eq_true_eq]
      exact forall₂_congr fun f hf => rootOf?_eq_some (h f (by simp [hf]))
    simp only [sharedRoot?, Option.bind_eq_bind, Option.bind_eq_some_iff, List.forall_mem_cons]
    constructor
    · rintro ⟨q, hq, hall⟩
      split at hall
      · cases hall
        exact ⟨by simp, (rootOf?_eq_some he).1 hq, (hes root).1 ‹_›⟩
      · cases hall
    · rintro ⟨-, hroot, hall⟩
      exact ⟨root, (rootOf?_eq_some he).2 hroot, by rw [if_pos ((hes root).2 hall)]⟩

theorem wrapper?_eq_some (h : ∀ e ∈ es, e.opens = true) :
    wrapper? es = some root ↔ IsWrapper es root := by
  have hdeep : es.any (fun e => e.enclosed?.any (1 < ·.length)) = true ↔
      ∃ e ∈ es, ∃ ws, e.enclosed? = some ws ∧ 1 < ws.length := by
    simp [List.any_eq_true, Option.any_eq_true]
  simp only [wrapper?, Option.filter_eq_some_iff, sharedRoot?_eq_some h, Bool.and_eq_true, hdeep,
    decide_eq_true_eq]
  constructor
  · rintro ⟨⟨-, hs⟩, hd, hm⟩
    exact ⟨hs, hd, hm⟩
  · rintro ⟨hs, hd, hm⟩
    refine ⟨⟨?_, hs⟩, hd, hm⟩
    rintro rfl
    simp at hd

def nameOf (e : ZipEntry) : List String := e.enclosed?.getD []

def placeOf (R : Option String) (e : ZipEntry) : List String :=
  if R.isSome then (nameOf e).drop 1 else nameOf e

def pieceOf (e : ZipEntry) : Piece :=
  if e.isDirectory then .directory none
  else .file ⟨(e.unixMode.map (· &&& 0o7777)).getD plainMode, .data e.data⟩

theorem isDirectory_pieceOf (e : ZipEntry) : (pieceOf e).isDirectory = e.isDirectory := by
  rw [pieceOf]
  split <;> simp [*]

def item? (R : Option String) (e : ZipEntry) : Option Item :=
  if placeOf R e = [] then none else some ⟨placeOf R e, pieceOf e⟩

def tree (R : Option String) (es : List ZipEntry) : List Item := es.filterMap (item? R)

theorem item?_eq_some : item? R e = some i ↔ placeOf R e ≠ [] ∧ i = ⟨placeOf R e, pieceOf e⟩ := by
  by_cases h : placeOf R e = []
  · simp [item?, h]
  · rw [item?, if_neg h, Option.some.injEq]
    exact ⟨fun hi => ⟨h, hi.symm⟩, fun hi => hi.2.symm⟩

theorem mem_tree_iff : i ∈ tree R es ↔
    ∃ e ∈ es, placeOf R e ≠ [] ∧ i = ⟨placeOf R e, pieceOf e⟩ := by
  simp [tree, item?_eq_some]

theorem tree_cons (R : Option String) (e : ZipEntry) (es : List ZipEntry) :
    tree R (e :: es) = (item? R e).toList ++ tree R es := by
  cases h : item? R e <;> simp [tree, h]

structure Ready (P : Disk) (dest : String) (D : Location) (is : List Item) (R : Option String)
    (e : ZipEntry) : Prop where
  opens : e.opens = true
  sound : e.sound = true
  enclosed : ∃ s r, e.enclosed? = some (s :: r) ∧ ∀ root ∈ R, s = root
  next : ∀ i, item? R e = some i → Next P dest D is i

theorem relative?_eq (h : ∃ s r, e.enclosed? = some (s :: r) ∧ ∀ root ∈ R, s = root) :
    relative? R (nameOf e) = if placeOf R e = [] then none else some (placeOf R e) := by
  obtain ⟨s, r, he, hR⟩ := h
  cases R with
  | none => simp [relative?, placeOf, nameOf, he]
  | some root =>
    obtain rfl : s = root := hR root rfl
    simp [relative?, placeOf, nameOf, he]

theorem isSafe_enclosed (h : e.enclosed? = some ws) :
    EntryPath.isSafe ("/".intercalate ws) = true := by
  have hseg := ZipEntry.enclosed?_segments h
  refine EntryPath.isSafe_iff.2 ⟨isAbsolute_of_isSegment fun s hs => (hseg s hs).1, ?_⟩
  rw [segments_of_isSegment fun s hs => (hseg s hs).1]
  exact fun hup => (hseg ".." hup).2 rfl

theorem openForWriting_awaited (h : Awaits P D is us s p w) : w.disk.openForWriting w.cwd p =
    .ok ((w.disk.addFile (s :: (us.reverse ++ D)) ⟨plainMode, .data []⟩).1, w.disk.next) := by
  obtain ⟨-, -, -, -, hslash, -⟩ := slot_eq_some_iff.1 h.slot
  simp [openForWriting, ← hslash, h.locate true, h.writable, bind, Except.bind, Disk.addFile]

theorem setMode_awaited (h : Awaits P D is us s p w) (f : FileData) (mode : Nat) :
    (w.disk.addFile (s :: (us.reverse ++ D)) f).1.setMode w.cwd p mode =
      .ok (w.disk.addFile (s :: (us.reverse ++ D)) { f with mode }).1 := by
  have hloc := (grows_addFile h.vacant f).keeps.locate_new (h.locate true)
    (by rw [nodeAt_addFile, if_pos rfl])
  simp [setMode, hloc, bind, Except.bind, setModeOf_addFile]

theorem writeFile_grown (h : Planted P dest D k is w) (hi : Next P dest D is i)
    (hpiece : i.piece = pieceOf e) (hdir : e.isDirectory = false) (hsound : e.sound = true) :
    Ends (writeFile e (pathBelow dest i.place)) w fun r v =>
      r = .ok () ∧ Planted P dest D k (i :: is) v := by
  obtain ⟨us, s, hplace⟩ : ∃ us s, i.place = us ++ [s] :=
    ⟨_, _, (List.dropLast_concat_getLast hi.fits.ne_nil).symm⟩
  have hi' : i = ⟨us ++ [s], pieceOf e⟩ := by rw [← hplace, ← hpiece]
  have hne : i.piece.isDirectory = false := by rw [hpiece, isDirectory_pieceOf, hdir]
  refine Ends.bind ((h.createParents hi hne hplace).mono ?_)
  rintro r v ⟨rfl, hcwd, hv⟩
  refine Ends.bind (Ends.step (Runs.changeWith_ok (openForWriting_awaited hv) ?_))
  refine Ends.bind (Ends.changeDisk ?_)
  simp only [hsound, Bool.not_true, Bool.false_eq_true, ↓reduceIte, changed_disk]
  rw [setContent_addFile]
  cases hmode : e.unixMode with
  | none =>
    refine Ends.pure ⟨rfl, h.add hi hcwd ?_⟩
    have hgrown := hv.addFile ⟨plainMode, .data e.data⟩
    simpa [hi', pieceOf, hdir, hmode] using hgrown
  | some mode =>
    refine Ends.step (Runs.change_ok (setMode_awaited hv _ (mode &&& 0o7777)) ⟨rfl, h.add hi hcwd ?_⟩)
    have hgrown := hv.addFile ⟨mode &&& 0o7777, .data e.data⟩
    simpa [hi', pieceOf, hdir, hmode] using hgrown

theorem extractEntry_grown (h : Planted P dest D k is w) (he : Ready P dest D is R e) :
    Ends (extractEntry dest R n e) w fun r v =>
      r = .ok () ∧ Planted P dest D k ((item? R e).toList ++ is) v := by
  obtain ⟨s, r, hname, -⟩ := he.enclosed
  have hrel := relative?_eq he.enclosed
  have hnameOf : nameOf e = s :: r := by simp [nameOf, hname]
  rw [hnameOf] at hrel
  simp only [extractEntry, he.opens, hname, isSafe_enclosed hname, hrel, Bool.not_true,
    Bool.false_eq_true, ↓reduceIte]
  cases hitem : item? R e with
  | none =>
    have hplace : placeOf R e = [] := by simpa [item?] using hitem
    rw [if_pos hplace]
    exact Ends.pure ⟨rfl, h⟩
  | some i =>
    have hnext := he.next i hitem
    obtain ⟨hne, hi⟩ := item?_eq_some.1 hitem
    have hpiece : i.piece = pieceOf e := by rw [hi]
    have hplace : placeOf R e = i.place := by rw [hi]
    rw [if_neg hne, hplace]
    dsimp only [Option.toList_some, List.singleton_append]
    cases hdir : e.isDirectory with
    | true => exact h.createDirectories hnext (by simp [hpiece, pieceOf, hdir])
    | false => exact writeFile_grown h hnext hpiece hdir he.sound

theorem extractEntries_grown (h : Planted P dest D k is w)
    (hes : ∀ as e bs, es = as ++ e :: bs → Ready P dest D ((tree R as).reverse ++ is) R e) :
    Ends (extractEntries dest R n es) w fun r v =>
      r = .ok () ∧ Planted P dest D k ((tree R es).reverse ++ is) v := by
  induction es generalizing is n w with
  | nil => exact Ends.pure ⟨rfl, h⟩
  | cons e es ih =>
    refine Ends.bind ((extractEntry_grown h (hes [] e es rfl)).mono ?_)
    rintro r v ⟨rfl, hv⟩
    have hrev : (item? R e).toList.reverse = (item? R e).toList := by cases item? R e <;> rfl
    rw [tree_cons, List.reverse_append, hrev, List.append_assoc]
    refine ih hv fun as f bs hsplit => ?_
    have := hes (e :: as) f bs (by rw [hsplit, List.cons_append])
    rwa [tree_cons, List.reverse_append, hrev, List.append_assoc] at this

structure Tidy (dest : String) (R : Option String) (es : List ZipEntry) : Prop where
  intact : ∀ e ∈ es, e.opens = true ∧ e.sound = true
  named : ∀ e ∈ es, nameOf e ≠ []
  distinct : es.Pairwise fun e f => nameOf e ≠ nameOf f
  leaves : ∀ e ∈ es, ∀ f ∈ es, e.isDirectory = false → nameOf e <+: nameOf f → nameOf e = nameOf f
  usable : ∀ i ∈ tree R es, Usable (pathBelow dest i.place) ∧ ∀ s ∈ i.place, s.utf8ByteSize ≤ maxName

theorem enclosed?_of_named (h : nameOf e ≠ []) : e.enclosed? = some (nameOf e) := by
  cases he : e.enclosed? <;> simp_all [nameOf]

section

variable (hR : ∀ root, R = some root ↔ IsWrapper es root)
include hR

theorem nameOf_eq (he : e ∈ es) : nameOf e = R.toList ++ placeOf R e := by
  cases R with
  | none => simp [placeOf]
  | some root =>
    obtain ⟨r, hr⟩ := ((hR root).1 rfl).shared e he
    simp [placeOf, nameOf, hr]

theorem Tidy.places_distinct (h : Tidy dest R es) :
    (tree R es).Pairwise fun i j => i.place ≠ j.place := by
  rw [tree, List.pairwise_filterMap]
  refine h.distinct.imp_of_mem fun {e f} he hf hne i hi j hj hplace => hne ?_
  obtain ⟨-, rfl⟩ := item?_eq_some.1 hi
  obtain ⟨-, rfl⟩ := item?_eq_some.1 hj
  rw [nameOf_eq hR he, nameOf_eq hR hf]
  exact congrArg (R.toList ++ ·) hplace

theorem Tidy.kept (h : Tidy dest R es) (he : e ∈ es) :
    ⟨placeOf R e, pieceOf e⟩ ∈ tree R es ∨
      e.isDirectory = true ∧ ∃ root, R = some root ∧ nameOf e = [root] := by
  by_cases hplace : placeOf R e = []
  · right
    have hname := nameOf_eq hR he
    rw [hplace, List.append_nil] at hname
    cases R with
    | none => exact absurd hname (h.named e he)
    | some root =>
      refine ⟨?_, root, rfl, hname⟩
      obtain ⟨f, hf, ws, hws, hlen⟩ := ((hR root).1 rfl).deep
      cases hdir : e.isDirectory with
      | true => rfl
      | false =>
        have hnf := nameOf_eq hR hf
        have heq := h.leaves e he f hf hdir (by rw [hname, hnf]; exact List.prefix_append _ _)
        have hwf : nameOf f = ws := by simp [nameOf, hws]
        rw [← hwf, ← heq, hname] at hlen
        exact absurd hlen (by simp)
  · exact .inl (mem_tree_iff.2 ⟨e, he, hplace, rfl⟩)

theorem Tidy.coherent (h : Tidy dest R es) : Coherent (tree R es) := by
  have hdistinct := h.places_distinct hR
  have hleaves : ∀ i ∈ tree R es, ∀ j ∈ tree R es, i.piece.isDirectory = false →
      i.place <+: j.place → i.place = j.place := by
    intro i hi j hj hdir hpre
    obtain ⟨e, he, -, rfl⟩ := mem_tree_iff.1 hi
    obtain ⟨f, hf, -, rfl⟩ := mem_tree_iff.1 hj
    rw [isDirectory_pieceOf] at hdir
    have hne := nameOf_eq hR he
    have hnf := nameOf_eq hR hf
    have heq := h.leaves e he f hf hdir
      (by rw [hne, hnf]; exact (List.prefix_append_right_inj _).2 hpre)
    rw [hne, hnf] at heq
    exact List.append_cancel_left heq
  refine ⟨hdistinct, hleaves, hdistinct.imp_of_mem fun {i j} hi hj hne hpre => ?_⟩
  obtain ⟨e, -, -, rfl⟩ := mem_tree_iff.1 hi
  cases hdir : e.isDirectory with
  | true => simp [pieceOf, hdir, Piece.admits]
  | false => exact absurd (hleaves _ hi j hj (by rw [isDirectory_pieceOf, hdir]) hpre) hne

theorem Tidy.ready {as bs : List ZipEntry} (h : Tidy dest R es) (hes : es = as ++ e :: bs)
    (hs : ∀ i ∈ tree R es, P.Spares D i) : Ready P dest D (tree R as).reverse R e := by
  have hmem : e ∈ es := by simp [hes]
  have hname := nameOf_eq hR hmem
  have henclosed := enclosed?_of_named (h.named e hmem)
  obtain ⟨s, r, hsr⟩ := List.exists_cons_of_ne_nil (h.named e hmem)
  refine ⟨(h.intact e hmem).1, (h.intact e hmem).2, ⟨s, r, henclosed.trans (congrArg some hsr), ?_⟩,
    fun i hi => ?_⟩
  · rintro root rfl
    simpa [hsr] using congrArg List.head? hname
  · have htree : tree R es = tree R as ++ i :: tree R bs := by
      rw [hes, tree, List.filterMap_append, List.filterMap_cons, hi]
      rfl
    have hin : i ∈ tree R es := by simp [htree]
    obtain ⟨hne, rfl⟩ := item?_eq_some.1 hi
    obtain ⟨husable, hshort⟩ := h.usable _ hin
    have hsegs : ∀ t ∈ placeOf R e, IsSegment t ∧ t ≠ ".." := fun t ht =>
      ZipEntry.enclosed?_segments henclosed t (by simp [hname, ht])
    refine ⟨(htree ▸ h.coherent hR).fits hne (fun t ht => ?_) ?_, hs _ hin,
      fun t ht => (hsegs t ht).1, husable⟩
    · exact ⟨(hsegs t ht).1.ne_current, (hsegs t ht).2, hshort t ht⟩
    · intro t ht
      simp only [pieceOf] at ht
      split at ht <;> cases ht

end

/-- Unpacking an archive makes the tree that its entries stand for, in which no file is lost. -/
theorem extract_unwrapped {z : ZipFile} (hwf : w.disk.WellFormed)
    (here : w.disk.nodeAt w.cwd = some .directory)
    (hopen : w.disk.openForReading w.cwd archive = .ok (.file (.zip z)))
    (hread : z.isReadable = true)
    (hR : ∀ root, R = some root ↔ IsWrapper z.listing root) (htidy : Tidy dest R z.listing)
    (hroom : Room w dest D k (tree R z.listing)) :
    Ends (extract archive dest) w (fun r v => r = .ok () ∧
      Grown (w.prepared dest).disk D (tree R z.listing) v.disk) ∧
    ((tree R z.listing).Pairwise fun i j => i.place ≠ j.place) ∧
    ∀ e ∈ z.listing, ⟨placeOf R e, pieceOf e⟩ ∈ tree R z.listing ∨
      e.isDirectory = true ∧ ∃ root, R = some root ∧ nameOf e = [root] := by
  refine ⟨?_, htidy.places_distinct hR, fun e he => htidy.kept hR he⟩
  have hwrapper : wrapper? z.listing = R := by
    refine Option.ext fun root => ?_
    rw [wrapper?_eq_some fun e he => (htidy.intact e he).1, hR]
  refine Ends.bind (Ends.step (Runs.ask ?_))
  simp only [hopen, hread, hwrapper, Bool.not_true, Bool.false_eq_true, ↓reduceIte]
  refine Ends.bind (hroom.prepared.mono ?_)
  rintro r v ⟨rfl, rfl⟩
  refine (extractEntries_grown (hroom.planted hwf here) ?_).mono ?_
  · intro as e bs hsplit
    rw [List.append_nil]
    exact htidy.ready hR hsplit hroom.spared
  · rintro r v ⟨rfl, hv⟩
    exact ⟨rfl, hv.grown.congr (by simp)⟩

section Trial

def besideZip (es : List ZipEntry) : World Unit :=
  let w := World.fresh ["home"] "" ()
  { w with disk := (w.disk.addFile ["a.zip", "home"] ⟨0o644, .zip ⟨es⟩⟩).1 }

theorem wellFormed_besideZip (es : List ZipEntry) : (besideZip es).disk.WellFormed :=
  (wellFormed_ofDirectory ["home"]).addFile rfl (by decide)

def smallRelease : List ZipEntry :=
  [⟨"LLVM\\", [], 0, 0x10, .dos, .stored, false, true⟩,
    ⟨"LLVM/bin/clang.exe", [1, 2], 0o104755, 0, .unix, .deflated, false, true⟩,
    ⟨"C:\\LLVM\\lib\\.\\LLVM.lib", [3], 0, 0, .dos, .stored, false, true⟩,
    ⟨"LLVM/lib/", [], 0, 0x10, .dos, .stored, false, true⟩]

theorem isWrapper_smallRelease (root : String) :
    some "LLVM" = some root ↔ IsWrapper (ZipFile.mk smallRelease).listing root := by
  rw [← wrapper?_eq_some (by decide)]
  exact Eq.congr_left (by decide)

theorem extract_unwrapped_smallRelease :
    let w := besideZip smallRelease
    let items : List Item := [⟨["bin", "clang.exe"], .file ⟨0o4755, .data [1, 2]⟩⟩,
      ⟨["lib", "LLVM.lib"], .file ⟨0o644, .data [3]⟩⟩, ⟨["lib"], .directory none⟩]
    Ends (extract "a.zip" "llvm") w fun r v =>
      r = .ok () ∧ Grown (w.prepared "llvm").disk ["llvm", "home"] items v.disk := by
  intro w items
  have hmade : ((createDirectories "llvm").run.run (besideZip smallRelease)).1 = .ok () := by rfl
  have htree : tree (some "LLVM") (ZipFile.mk smallRelease).listing = items := by decide
  have h := @extract_unwrapped Unit w ["llvm", "home"] "llvm" "a.zip" 40 (some "LLVM")
    ⟨smallRelease⟩ (wellFormed_besideZip smallRelease) rfl (by decide +kernel) (by decide)
    isWrapper_smallRelease (by constructor <;> decide +kernel)
    ⟨hmade, by rw [Rooted]; decide +kernel, by decide +kernel, by decide +kernel⟩
  rw [htree] at h
  exact h.1

def besideLocked (es : List ZipEntry) : World Unit :=
  let d := (besideZip es).disk.put ["out", "home"] .directory
  { besideZip es with disk := d.setModeAt ["out", "home"] 0o555 }

theorem wellFormed_besideLocked (es : List ZipEntry) : (besideLocked es).disk.WellFormed := by
  have hnone : (besideZip es).disk.nodeAt ["out", "home"] = none := rfl
  exact ((wellFormed_besideZip es).put rfl (by simp [hnone]) (by simp)).setModeAt rfl 0o555

/-- A file is in the way of the destination; or the destination may not be written. -/
theorem not_unwrapped_anywhere :
    (¬ ∀ (archive dest : String) (R : Option String) (z : ZipFile) (w : World Unit),
      w.disk.WellFormed → w.disk.nodeAt w.cwd = some .directory →
      w.disk.openForReading w.cwd archive = .ok (.file (.zip z)) → z.isReadable = true →
      (∀ root, R = some root ↔ IsWrapper z.listing root) → Tidy dest R z.listing →
      w.isPresent dest = false → Ends (extract archive dest) w fun r _ => r = .ok ()) ∧
    ¬ ∀ (archive dest : String) (R : Option String) (z : ZipFile) (w : World Unit) (D : Location),
      w.disk.WellFormed → w.disk.nodeAt w.cwd = some .directory →
      w.disk.openForReading w.cwd archive = .ok (.file (.zip z)) → z.isReadable = true →
      (∀ root, R = some root ↔ IsWrapper z.listing root) → Tidy dest R z.listing →
      w.disk.locate w.cwd true dest = .ok ⟨D, some .directory⟩ →
      (∀ s, w.disk.nodeAt (s :: D) = none) →
        Ends (extract archive dest) w fun r _ => r = .ok () := by
  refine ⟨?_, ?_⟩
  · intro h
    have hfail := h "a.zip" "a.zip/llvm" (some "LLVM") ⟨smallRelease⟩ (besideZip smallRelease)
      (wellFormed_besideZip _) rfl (by decide +kernel) (by decide) isWrapper_smallRelease
      (by constructor <;> decide +kernel) (by decide +kernel)
    have herror : ((extract "a.zip" "a.zip/llvm").run.run (besideZip smallRelease)).1 =
        .error (.step (.createDirectory "a.zip/llvm") (.disk .notADirectory)) := by rfl
    exact absurd (hfail.symm.trans herror) (by simp)
  · intro h
    have hempty : ∀ s, (besideLocked smallRelease).disk.nodeAt [s, "out", "home"] = none := by
      intro s
      simp only [besideLocked, besideZip, World.fresh, Disk.ofDirectory, nodeAt_setModeAt,
        nodeAt_addFile, nodeAt_put]
      simp [Disk.empty, nodeAt]
    have hfail := h "a.zip" "out" (some "LLVM") ⟨smallRelease⟩ (besideLocked smallRelease)
      ["out", "home"] (wellFormed_besideLocked _) rfl (by decide +kernel) (by decide)
      isWrapper_smallRelease (by constructor <;> decide +kernel) (by decide +kernel) hempty
    have herror : ((extract "a.zip" "out").run.run (besideLocked smallRelease)).1 ≠ .ok () := by
      decide +kernel
    exact herror hfail

end Trial

end ZipFile
end Provision
