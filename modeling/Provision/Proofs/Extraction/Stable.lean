import Provision.Extraction.Tar
import Provision.Proofs.World.Directories

namespace Provision

open PathText Provision.Action World

structure Disk.Stable (I : Disk → Prop) (c : Location) : Prop where
  makeDirectory : ∀ {d d' p}, I d → d.makeDirectory c p = .ok d' → I d'
  makeFile : ∀ {d d' p id}, I d → d.makeFile c p = .ok (d', id) → I d'
  makeSymlink : ∀ {d d' t p}, I d → d.makeSymlink c t p = .ok d' → I d'
  makeHardLink : ∀ {d d' q p}, I d → d.makeHardLink c q p = .ok d' → I d'
  unlink : ∀ {d d' p}, I d → d.unlink c p = .ok d' → I d'
  setContent : ∀ {d id x}, I d → I (d.setContent id x)
  setModeOf : ∀ {d id n}, I d → I (d.setModeOf id n)
  setMode : ∀ {d d' p n}, I d → d.setMode c p n = .ok d' → I d'

theorem Disk.stable_true (c : Location) : Disk.Stable (fun _ => True) c :=
  ⟨fun _ _ => trivial, fun _ _ => trivial, fun _ _ => trivial, fun _ _ => trivial,
    fun _ _ => trivial, fun _ => trivial, fun _ => trivial, fun _ _ => trivial⟩

namespace Disk

theorem setModeOf_nodeAt (d : Disk) (id : FileId) (n : Nat) (l : Location) :
    (d.setModeOf id n).nodeAt l = d.nodeAt l := by
  rw [setModeOf]
  split <;> rfl

theorem setMode_nodeAt {d d' : Disk} {c l : Location} {p : String} {n : Nat}
    (h : d.setMode c p n = .ok d') : d'.nodeAt l = d.nodeAt l := by
  obtain ⟨l, id, -, rfl⟩ | ⟨X, -, rfl⟩ := setMode_eq_ok h
  · rw [setModeOf_nodeAt]
  · rfl

theorem WellFormed.setModeOf {d : Disk} (h : d.WellFormed) (id : FileId) (n : Nat) :
    (d.setModeOf id n).WellFormed := by
  rw [Disk.setModeOf]
  split
  · exact h
  · exact h.setFile (by simp [*])

theorem stable_sound (c : Location) :
    Stable (fun d => d.WellFormed ∧ d.nodeAt c = some .directory) c where
  makeDirectory hd hmake :=
    ⟨hd.1.makeDirectory hd.2 hmake, makeDirectory_grows hmake _ _ hd.2⟩
  makeFile hd hmake := by
    obtain ⟨s, X, hslot, hnone, rfl, -⟩ := makeFile_eq_ok hmake
    exact ⟨hd.1.addFile (hd.1.slot hd.2 hslot) (by simp [hnone]), grows_addFile hnone _ _ _ hd.2⟩
  makeSymlink hd hmake := by
    obtain ⟨s, X, hslot, hnone, rfl⟩ := makeSymlink_eq_ok hmake
    exact ⟨hd.1.put (hd.1.slot hd.2 hslot) (by simp [hnone]) (by simp), grows_put hnone _ _ _ hd.2⟩
  makeHardLink hd hmake := by
    obtain ⟨s, X, l, n, hslot, hnone, -, hl, -, rfl⟩ := makeHardLink_eq_ok hmake
    refine ⟨hd.1.put (hd.1.slot hd.2 hslot) (by simp [hnone]) ?_, grows_put hnone _ _ _ hd.2⟩
    rintro id rfl
    obtain ⟨hn, -⟩ : _ = some (Node.file id) ∧ l ≠ [] := by simpa using locate_node hl
    exact hd.1.known hn
  unlink hd hunlink := by
    obtain ⟨s, X, n, -, hn, hdir, rfl⟩ := unlink_eq_ok hunlink
    refine ⟨hd.1.remove (by simpa [hn] using hdir), ?_⟩
    rw [nodeAt_remove, if_neg, hd.2]
    rintro rfl
    exact hdir (Option.some.inj (hn.symm.trans hd.2))
  setContent {d id x} hd := by
    rw [setContent_nodeAt]
    refine ⟨?_, hd.2⟩
    rw [setContent]
    split
    · exact hd.1
    · exact hd.1.setFile (by simp [*])
  setModeOf {d id n} hd := by
    rw [setModeOf_nodeAt]
    exact ⟨hd.1.setModeOf id n, hd.2⟩
  setMode {d d' p n} hd hset := by
    rw [setMode_nodeAt hset]
    refine ⟨?_, hd.2⟩
    obtain ⟨l, id, -, rfl⟩ | ⟨X, hX, rfl⟩ := setMode_eq_ok hset
    · exact hd.1.setModeOf id n
    · exact hd.1.setModeAt (hd.1.leads hd.2 hX) n

theorem stable_directories (P : Disk) (c : Location) :
    Stable (fun d => ∀ m, P.nodeAt m = some .directory → d.nodeAt m = some .directory) c where
  makeDirectory hd hmake m hm := makeDirectory_grows hmake m _ (hd m hm)
  makeFile hd hmake m hm := by
    obtain ⟨s, X, -, hnone, rfl, -⟩ := makeFile_eq_ok hmake
    exact grows_addFile hnone _ m _ (hd m hm)
  makeSymlink hd hmake m hm := by
    obtain ⟨s, X, -, hnone, rfl⟩ := makeSymlink_eq_ok hmake
    exact grows_put hnone _ m _ (hd m hm)
  makeHardLink hd hmake m hm := by
    obtain ⟨s, X, l, n, -, hnone, -, -, -, rfl⟩ := makeHardLink_eq_ok hmake
    exact grows_put hnone _ m _ (hd m hm)
  unlink hd hunlink m hm := by
    obtain ⟨s, X, n, -, hn, hdir, rfl⟩ := unlink_eq_ok hunlink
    rw [nodeAt_remove, if_neg, hd m hm]
    rintro rfl
    rw [hd _ hm] at hn
    exact hdir (Option.some.inj hn).symm
  setContent hd m hm := by rw [setContent_nodeAt, hd m hm]
  setModeOf hd m hm := by rw [setModeOf_nodeAt, hd m hm]
  setMode hd hset m hm := by rw [setMode_nodeAt hset, hd m hm]

end Disk

namespace Tarball

variable {σ : Type} {I : Disk → Prop} {c : Location} (h : Disk.Stable I c)
include h

theorem maintains_createNew (p : String) : Maintains (σ := σ) I c (createNew p) := by
  refine .bind (.changeWith h.makeFile) fun r => ?_
  split
  · exact .pure _
  · refine .bind (.change h.unlink) fun r => ?_
    split
    · exact .changeWith h.makeFile
    · exact .changeWith h.makeFile
    · exact .pure _
  · exact .pure _

theorem maintains_createLink (target p : String) :
    Maintains (σ := σ) I c (createLink target p) := by
  refine .bind (.change h.makeSymlink) fun r => ?_
  split
  · exact .pure _
  · refine .bind (.change h.unlink) fun r => ?_
    split
    · exact .change h.makeSymlink
    · exact .change h.makeSymlink
    · exact .pure _
  · exact .pure _

theorem maintains_unpackFile (e : TarEntry) (p : String) :
    Maintains I c (unpackFile (σ := σ) e p).run := by
  refine .seq (.step _ (maintains_createNew h p)) fun id => .seq (.changeDisk h.setContent) fun _ => ?_
  dsimp only
  split
  · exact .thrown _ _
  · exact .changeDisk h.setModeOf

theorem maintains_createDirectory (p : String) :
    Maintains (σ := σ) I c (createDirectory p) := by
  refine .bind (.change h.makeDirectory) fun r => ?_
  split
  · exact .pure _
  · intro w _ hI
    refine Runs.get ?_
    split
    · exact Runs.pure (.refl hI)
    · exact Runs.pure (.refl hI)
  · exact .pure _

theorem maintains_unpackDirectory (e : TarEntry) (p : String) :
    Maintains I c (unpackDirectory (σ := σ) e p).run :=
  .seq (.step _ (maintains_createDirectory h p)) fun _ => .step _ (.change h.setMode)

theorem maintains_unpack (e : TarEntry) (p : String) :
    Maintains I c (unpack (σ := σ) e p).run := by
  simp only [unpack]
  split
  · exact .ret _
  · split
    · exact .throw _
    · exact .step _ (maintains_createLink h _ p)
  · split
    · exact maintains_unpackDirectory h e p
    · exact maintains_unpackFile h e p

theorem maintains_createDirectories (p : String) :
    Maintains I c (createDirectories (σ := σ) p).run := by
  rintro w rfl hI
  exact (createDirectories_along hI fun _ _ _ _ => h.makeDirectory).mono fun _ _ h => h.1

theorem maintains_createParents (p : String) : Maintains I c (createParents (σ := σ) p).run := by
  rintro w rfl hI
  exact (createParents_along hI fun _ _ _ _ _ _ => h.makeDirectory).mono fun _ _ h => h.1

theorem maintains_linkFile (existing link : String) :
    Maintains I c (linkFile (σ := σ) existing link).run := by
  refine .seq (maintains_createParents h link) fun _ => .get fun w => ?_
  dsimp only
  split
  · exact .seq (.step _ (.change h.unlink)) fun _ => .step _ (.change h.makeHardLink)
  · exact .step _ (.change h.makeHardLink)

omit h in
theorem maintains_requireSafe (p : String) : Maintains I c (requireSafe (σ := σ) p).run := by
  simp only [requireSafe]
  split
  · exact .ret _
  · exact .throw _

theorem maintains_extractEntry (dest : String) (e : TarEntry) :
    Maintains I c (extractEntry (σ := σ) dest e).run := by
  refine .seq (maintains_requireSafe _) fun _ => ?_
  dsimp only
  split
  · exact .ret _
  · split
    · exact .seq (maintains_createDirectories h _) fun _ => .ret _
    · split
      · split
        · exact .thrown _ _
        · refine .seq (maintains_requireSafe _) fun _ => ?_
          split
          · exact .thrown _ _
          · exact .seq (maintains_linkFile h _ _) fun _ => .ret _
      · exact .seq (maintains_createParents h _) fun _ =>
          .seq (maintains_unpack h e _) fun _ => .ret _

theorem maintains_extractEntries (archive dest : String) (broken : Bool) (n : Nat)
    (es : List TarEntry) :
    Maintains I c (extractEntries (σ := σ) archive dest broken n es).run := by
  induction es generalizing n with
  | nil =>
    simp only [extractEntries]
    split
    · exact .throw _
    · exact .ret _
  | cons e es ih =>
    simp only [extractEntries]
    split
    · exact .thrown _ _
    · refine .seq (maintains_extractEntry h dest e) fun written => ?_
      split
      · exact .thrown _ _
      · exact ih _

end Tarball
end Provision
