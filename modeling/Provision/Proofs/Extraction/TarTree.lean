import Provision.Proofs.Extraction.Regrowth

namespace Provision.Tarball

open PathText Provision.Action World Disk Item

variable {σ : Type} {w u : World σ} {P : Disk} {D : Location} {dest archive : String} {k : Nat}
  {e : TarEntry} {es : List TarEntry}

/-- The entries of a sound archive, which can all be where they belong at once. -/
structure Neat (dest : String) (es : List TarEntry) : Prop where
  intact : ∀ e ∈ es, e.sound = true ∧ e.isCut = false
  relative : ∀ e ∈ es, isAbsolute e.name = false ∧ ".." ∉ segments e.name
  usable : ∀ i ∈ tree es, Usable (pathBelow dest i.place) ∧ ∀ s ∈ i.place, s.utf8ByteSize ≤ maxName
  distinct : (tree es).Pairwise fun i j => i.place ≠ j.place
  leaves : ∀ i ∈ tree es, ∀ j ∈ tree es, i.piece.isDirectory = false → i.place <+: j.place →
    i.place = j.place
  /-- Nothing comes behind a directory that may not be written and searched and goes below it. -/
  admits : (tree es).Pairwise fun i j => i.piece.isDirectory = true →
    (∃ ws ∈ j.visits, i.place <+: ws) → i.piece.admits = true
  symlink : ∀ e ∈ es, e.kind = .symlink → e.link ≠ ""
  hardLink : ∀ n, (hn : n < es.length) → es[n].kind = .hardLink → placeOf es[n] ≠ [] →
    isAbsolute es[n].link = false ∧ ".." ∉ segments es[n].link ∧
      ∃ i ∈ tree (es.take n), i.place = (segments es[n].link).drop 1 ∧ i.piece.isFile = true

/-- Nor is a link longer than a path can be. -/
structure Tidy (dest : String) (es : List TarEntry) : Prop extends Neat dest es where
  short : ∀ e ∈ es, e.kind = .symlink → e.link.utf8ByteSize < maxPath

theorem Neat.coherent (h : Neat dest es) : Coherent (tree es) := by
  refine ⟨h.distinct, h.leaves, (h.distinct.and h.admits).imp_of_mem ?_⟩
  rintro i j hi hj ⟨hne, hadmits⟩ hpre
  cases hdir : i.piece.isDirectory with
  | true => exact hadmits hdir ⟨j.place, by simp [visits], hpre⟩
  | false => exact absurd (h.leaves i hi j hj hdir hpre) hne

theorem Neat.link {as bs : List TarEntry} (h : Neat dest (as ++ e :: bs)) (hk : e.kind = .hardLink)
    (hne : placeOf e ≠ []) : isAbsolute e.link = false ∧ ".." ∉ segments e.link ∧
      ∃ i ∈ tree as, i.place = (segments e.link).drop 1 ∧ i.piece.isFile = true := by
  have := h.hardLink as.length (by simp)
  simpa [hk, hne] using this

theorem Tidy.ready {as bs : List TarEntry} (h : Tidy dest (as ++ e :: bs))
    (hs : ∀ i ∈ tree (as ++ e :: bs), P.Spares D i) : Ready P dest D (tree as).reverse e := by
  have hmem : e ∈ as ++ e :: bs := by simp
  refine ⟨h.intact e hmem, EntryPath.isSafe_iff.2 (h.relative e hmem), fun i hi => ?_,
    fun _ hk => ⟨h.symlink e hmem hk, h.short e hmem hk⟩, fun hne hk => ?_⟩
  · have htree : tree (as ++ e :: bs) = tree as ++ i :: tree bs := by
      rw [tree, List.filterMap_append, List.filterMap_cons, hi]
      rfl
    have hin : i ∈ tree (as ++ e :: bs) := by simp [htree]
    obtain ⟨hne, rfl⟩ := item?_eq_some.1 hi
    obtain ⟨husable, hshort⟩ := h.usable _ hin
    have hcoherent : Coherent (tree as ++ ⟨placeOf e, pieceOf e⟩ :: tree bs) :=
      htree ▸ h.coherent
    refine ⟨hcoherent.fits hne (fun s hs => ⟨?_, ?_, hshort s hs⟩) ?_, hs _ hin,
      fun s hs => isSegment_of_mem (List.mem_of_mem_drop hs), husable⟩
    · exact fun hc => current_notMem_placeOf e (hc ▸ hs)
    · exact fun hp => (h.relative e hmem).2 (hp ▸ List.mem_of_mem_drop hs)
    · intro t ht
      have hk : e.kind = .hardLink ∧ t = (segments e.link).drop 1 := by
        simp only [pieceOf] at ht
        split at ht
        · cases ht
        · split at ht <;> simp_all
      obtain ⟨-, -, j, hj, hplace, hfile⟩ := h.link hk.1 hne
      exact ⟨j, hj, hplace.trans hk.2.symm, hfile⟩
  · obtain ⟨ha, hu, -⟩ := h.link hk hne
    exact EntryPath.isSafe_iff.2 ⟨ha, hu⟩

theorem extract_ends {reader : Compression} {records : List TarRecord} {I : Disk → Prop}
    (hopen : w.disk.openForReading w.cwd archive = .ok (.file (.tarball ⟨reader, [records]⟩)))
    (hname : Compression.ofName? archive = some reader)
    (hmade : Ends (createDirectories dest) w fun r v => r = .ok () ∧ v = u)
    (h : Ends (extractEntries archive dest false 0 (entriesOf records)) u fun r v =>
      (∃ n, r = .ok n) ∧ I v.disk) :
    Ends (extract archive dest) w fun r v => r = .ok () ∧ I v.disk := by
  refine Ends.bind (Ends.step (Runs.ask ?_))
  simp only [hopen, hname]
  refine Ends.bind (hmade.mono ?_)
  rintro r v ⟨rfl, rfl⟩
  have hstream : streamOf reader (.tarball ⟨reader, [records]⟩) = ⟨entriesOf records, false⟩ := by
    simp [streamOf, Tarball.stream]
  simp only [hstream]
  refine Ends.bind (h.mono ?_)
  rintro r v ⟨⟨n, rfl⟩, hv⟩
  exact Ends.tell ⟨rfl, hv⟩

/-- An archive of one member whose suffix tells its compression, and a directory to work from. -/
structure Handed (w : World σ) (archive : String) (reader : Compression)
    (records : List TarRecord) : Prop where
  wellFormed : w.disk.WellFormed
  here : w.disk.nodeAt w.cwd = some .directory
  opened : w.disk.openForReading w.cwd archive = .ok (.file (.tarball ⟨reader, [records]⟩))
  suffix : Compression.ofName? archive = some reader

/-- Unpacking a sound archive makes the tree that its entries stand for. -/
theorem extract_grown {reader : Compression} {records : List TarRecord}
    (hw : Handed w archive reader records) (htidy : Tidy dest (entriesOf records))
    (hroom : Room w dest D k (tree (entriesOf records))) :
    Ends (extract archive dest) w fun r v => r = .ok () ∧
      Grown (w.prepared dest).disk D (tree (entriesOf records)) v.disk := by
  refine extract_ends hw.opened hw.suffix hroom.prepared ?_
  refine (extractEntries_grown (hroom.planted hw.wellFormed hw.here) htidy.coherent ?_).mono ?_
  · intro as e bs hsplit
    rw [List.append_nil]
    exact (hsplit ▸ htidy).ready (hsplit ▸ hroom.spared)
  · rintro r v ⟨hr, hv⟩
    exact ⟨hr, hv.grown.congr (by simp)⟩

section Trial

def smallRelease : List TarEntry :=
  [⟨"./top/", .directory, 0o755, [], "", true, none, false⟩,
    ⟨"top/./bin//clang", .regular, 0o4755, [1, 2], "", true, none, false⟩,
    ⟨"top/bin/clang++", .hardLink, 0o644, [], "top/bin/clang", true, none, false⟩,
    ⟨"top/lib/libLLVM.so", .symlink, 0o777, [], "../nowhere", true, none, false⟩,
    ⟨"top/lib/", .directory, 0o755, [], "", true, none, false⟩,
    ⟨"top/share/", .regular, 0o750, [], "", true, none, false⟩,
    ⟨"top/share/doc", .regular, 0o644, [3], "", true, none, false⟩]

theorem tidy_smallRelease : Tidy "llvm" smallRelease :=
  ⟨by constructor <;> decide +kernel, by decide +kernel⟩

theorem handed_smallRelease :
    Handed (besideOut smallRelease) "a.tar.xz" .xz (smallRelease.map .entry) :=
  ⟨wellFormed_besideOut _, rfl, by decide +kernel, by decide +kernel⟩

theorem room_smallRelease :
    Room (besideOut smallRelease) "llvm" ["llvm", "home"] 40 (tree smallRelease) :=
  ⟨by rfl, by rw [Rooted]; decide +kernel, by decide +kernel, by decide +kernel⟩

theorem extract_grown_smallRelease : Ends (extract "a.tar.xz" "llvm") (besideOut smallRelease)
    fun r v => r = .ok () ∧ Grown ((besideOut smallRelease).prepared "llvm").disk ["llvm", "home"]
      (tree smallRelease) v.disk :=
  extract_grown handed_smallRelease tidy_smallRelease room_smallRelease

def besideLocked (es : List TarEntry) : World Unit :=
  { besideOut es with disk := (besideOut es).disk.setModeAt ["out", "home"] 0o555 }

theorem wellFormed_besideLocked (es : List TarEntry) : (besideLocked es).disk.WellFormed :=
  (wellFormed_besideOut es).setModeAt rfl 0o555

theorem besideLocked_empty (es : List TarEntry) (s : String) :
    (besideLocked es).disk.nodeAt [s, "out", "home"] = none := by
  simp only [besideLocked, besideOut, World.fresh, Disk.ofDirectory, nodeAt_setModeAt,
    nodeAt_addFile, nodeAt_put]
  simp [Disk.empty, nodeAt]

theorem handed_besideLocked :
    Handed (besideLocked smallRelease) "a.tar.xz" .xz (smallRelease.map .entry) :=
  ⟨wellFormed_besideLocked _, rfl, by decide +kernel, by decide +kernel⟩

/-- Written like a file, but under an older header and with a slash at the end of its name. -/
def olderDirectory : TarEntry := ⟨"top/share/", .regular, 0o750, [], "", true, none, false⟩

/-- A file is in the way of the destination; the destination may not be written; and what is written
like a file makes a directory. -/
theorem not_extracted_anywhere :
    (¬ ∀ (archive dest : String) (reader : Compression) (records : List TarRecord) (w : World Unit),
      Handed w archive reader records → Tidy dest (entriesOf records) →
      w.isPresent dest = false → Ends (extract archive dest) w fun r _ => r = .ok ()) ∧
    (¬ ∀ (archive dest : String) (reader : Compression) (records : List TarRecord) (w : World Unit)
      (D : Location), Handed w archive reader records → Tidy dest (entriesOf records) →
      w.disk.locate w.cwd true dest = .ok ⟨D, some .directory⟩ →
      (∀ s, w.disk.nodeAt (s :: D) = none) →
        Ends (extract archive dest) w fun r _ => r = .ok ()) ∧
    ¬ ∀ (archive dest : String) (reader : Compression) (e : TarEntry) (w : World Unit)
      (D : Location) (k : Nat), Handed w archive reader [.entry e] → Tidy dest [e] →
      Room w dest D k (tree [e]) → e.kind = .regular → placeOf e ≠ [] →
        Ends (extract archive dest) w fun _ v =>
          ∃ id, v.disk.nodeAt ((placeOf e).reverse ++ D) = some (.file id) := by
  refine ⟨?_, ?_, ?_⟩
  · intro h
    have hfail := h "a.tar.xz" "a.tar.xz/llvm" .xz (smallRelease.map .entry) (besideOut smallRelease)
      handed_smallRelease ⟨by constructor <;> decide +kernel, by decide +kernel⟩ (by decide +kernel)
    have herror : ((extract "a.tar.xz" "a.tar.xz/llvm").run.run (besideOut smallRelease)).1 =
        .error (.step (.createDirectory "a.tar.xz/llvm") (.disk .notADirectory)) := by rfl
    exact absurd (hfail.symm.trans herror) (by simp)
  · intro h
    have hfail := h "a.tar.xz" "out" .xz (smallRelease.map .entry) (besideLocked smallRelease)
      ["out", "home"] handed_besideLocked ⟨by constructor <;> decide +kernel, by decide +kernel⟩
      (by decide +kernel) (besideLocked_empty smallRelease)
    have herror : ((extract "a.tar.xz" "out").run.run (besideLocked smallRelease)).1 ≠ .ok () := by
      decide +kernel
    exact herror hfail
  · intro h
    obtain ⟨id, hid⟩ := h "a.tar.xz" "llvm" .xz olderDirectory (besideOut [olderDirectory])
      ["llvm", "home"] 40 ⟨wellFormed_besideOut _, rfl, by decide +kernel, by decide +kernel⟩
      ⟨by constructor <;> decide +kernel, by decide +kernel⟩
      ⟨by rfl, by rw [Rooted]; decide +kernel, by decide +kernel, by decide +kernel⟩ rfl (by decide)
    have hdir : ((extract "a.tar.xz" "llvm").run.run (besideOut [olderDirectory])).2.disk.nodeAt
        ["share", "llvm", "home"] = some .directory := by decide +kernel
    exact absurd (hid.symm.trans hdir) (by simp)

end Trial

end Provision.Tarball
