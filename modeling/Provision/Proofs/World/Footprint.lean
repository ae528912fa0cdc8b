import Provision.Proofs.Disk.Landing
import Provision.Proofs.World.Directories

namespace Provision

open PathText Provision.Action

variable {σ : Type} {w : World σ} {d d' e : Disk} {cwd m : Location} {p q : String} {id : FileId}

namespace Disk

structure Made (d d' : Disk) (cwd : Location) (p : String) (m : Location) : Prop where
  missing : d.nodeAt m = none
  directory : d'.nodeAt m = some .directory
  passed : ∃ q ∈ lineage (p.length + 1) p, ∃ k, d'.Rooted cwd q m k

def Paves (d d' : Disk) (cwd : Location) (p : String) : Prop :=
  ∀ m, Same d d' m ∨ Made d d' cwd p m

/-- Here is a name of the file that a path leads to; the path's own may be new. -/
def Rewritten (d d' : Disk) (cwd : Location) (p : String) (m : Location) : Prop :=
  ∃ l id, d'.locate cwd true p = .ok ⟨l, some (.file id)⟩ ∧ d'.nodeAt m = some (.file id) ∧
    (d.nodeAt m = some (.file id) ∨ m = l ∧ d.nodeAt m = none)

/-- Nothing has happened but that a file has been written, and missing directories above it made. -/
def Writes (d d' : Disk) (cwd : Location) (p : String) : Prop :=
  ∀ m, Same d d' m ∨ (∃ q, parent? p = some q ∧ Made d d' cwd q m) ∨ Rewritten d d' cwd p m

theorem Paves.refl (d : Disk) (cwd : Location) (p : String) : Paves d d cwd p :=
  fun m => .inl (.refl d m)

theorem Writes.refl (d : Disk) (cwd : Location) (p : String) : Writes d d cwd p :=
  fun m => .inl (.refl d m)

theorem Made.grows (h : Made d d' cwd p m) (hg : Grows d' e) : Made d e cwd p m := by
  obtain ⟨q, hq, k, hk⟩ := h.passed
  exact ⟨h.missing, hg _ _ h.directory, q, hq, k, hk.keeps hg.keeps⟩

theorem Paves.trans (h : Paves d d' cwd p) (hg : Grows d' e) (h' : Paves d' e cwd p) :
    Paves d e cwd p := by
  intro m
  obtain hm | hm := h m
  · obtain hm' | hm' := h' m
    · exact .inl (hm.trans hm')
    · exact .inr ⟨hm.1 ▸ hm'.missing, hm'.directory, hm'.passed⟩
  · exact .inr (hm.grows hg)

theorem paves_makeDirectory (hq : q ∈ lineage (p.length + 1) p)
    (h : d.makeDirectory cwd q = .ok d') : Paves d d' cwd p := by
  obtain ⟨s, X, b, hslot, hnone, rfl⟩ := makeDirectory_eq_ok h
  intro m
  by_cases hm : m = s :: X
  · subst hm
    have hnew : (d.put (s :: X) .directory).nodeAt (s :: X) = some .directory := by
      simp [nodeAt_put]
    exact .inr ⟨hnone, hnew, q, hq, reach_of_slot hslot (grows_put hnone .directory).keeps hnew⟩
  · exact .inl (same_put hm .directory)

theorem get?_setContent {j : FileId} (hne : id ≠ j) (d : Disk) (c : Content) :
    (d.setContent id c).files.get? j = d.files.get? j := by
  rw [setContent]
  split
  · rfl
  · rw [get?_setFile, if_neg hne]

theorem openForWriting_touches (h : d.openForWriting cwd p = .ok (d', id)) :
    ∃ l, d'.locate cwd true p = .ok ⟨l, some (.file id)⟩ ∧
      (∀ m, d'.nodeAt m = d.nodeAt m ∨ m = l ∧ d.nodeAt m = none) ∧
      (∀ j, id ≠ j → d'.files.get? j = d.files.get? j) ∧ ∀ m, d'.modeAt m = d.modeAt m := by
  obtain ⟨-, -, l', hl'⟩ := openForWriting_grows h
  obtain ⟨l, hl, -, rfl, rfl⟩ | ⟨l, g, hl, -, -, rfl⟩ := openForWriting_eq_ok h
  · obtain ⟨hn, hne⟩ : d.nodeAt l = none ∧ l ≠ [] := by simpa using locate_node hl
    obtain ⟨s, X, rfl⟩ := List.exists_cons_of_ne_nil hne
    have hlocate : (d.addFile (s :: X) ⟨plainMode, .data []⟩).1.locate cwd true p =
        .ok ⟨s :: X, some (.file d.next)⟩ :=
      (grows_addFile hn _).keeps.locate_new hl (by simp [nodeAt_addFile])
    refine ⟨s :: X, hlocate, fun m => ?_, fun j hj => by rw [get?_addFile, if_neg hj],
      fun _ => rfl⟩
    by_cases hm : s :: X = m
    · exact .inr ⟨hm.symm, hm ▸ hn⟩
    · exact .inl (by rw [nodeAt_addFile, if_neg hm])
  · exact ⟨l', hl', fun m => .inl rfl, fun j hj => by rw [get?_setFile, if_neg hj], fun _ => rfl⟩

theorem same_or_rewritten (h : d.openForWriting cwd p = .ok (d', id)) (c : Content) (m : Location) :
    Same d (d'.setContent id c) m ∨ Rewritten d (d'.setContent id c) cwd p m := by
  obtain ⟨l, hl, hnode, hfiles, hmodes⟩ := openForWriting_touches h
  have hlocate := (grows_setContent d' id c).locate hl
  by_cases hm : d'.nodeAt m = some (.file id)
  · refine .inr ⟨l, id, hlocate, by rw [setContent_nodeAt, hm], ?_⟩
    exact (hnode m).imp_left fun hsame => hsame.symm.trans hm
  · left
    have hsame : d'.nodeAt m = d.nodeAt m := by
      refine (hnode m).resolve_right ?_
      rintro ⟨rfl, -⟩
      obtain ⟨hfile, -⟩ : d'.nodeAt m = some (.file id) ∧ m ≠ [] := by simpa using locate_node hl
      exact hm hfile
    refine ⟨by rw [setContent_nodeAt, hsame], ?_, by rw [modeAt_setContent, hmodes]⟩
    refine fileAt_eq (by rw [setContent_nodeAt, hsame]) fun j hj => ?_
    rw [setContent_nodeAt] at hj
    have hne : id ≠ j := by
      rintro rfl
      exact hm hj
    rw [get?_setContent hne, hfiles j hne]

theorem writes_of_parts (h : ∀ m, Same d d' m ∨ ∃ q, parent? p = some q ∧ Made d d' cwd q m)
    (hg : Grows d' e) (h' : ∀ m, Same d' e m ∨ Rewritten d' e cwd p m) : Writes d e cwd p := by
  intro m
  obtain hm | ⟨q, hq, hm⟩ := h m
  · obtain hm' | ⟨l, id, hl, hid, hm'⟩ := h' m
    · exact .inl (hm.trans hm')
    · exact .inr (.inr ⟨l, id, hl, hid, hm.1 ▸ hm'⟩)
  · exact .inr (.inl ⟨q, hq, hm.grows hg⟩)

end Disk

namespace Action

theorem composes_paves (p : String) : Composes (σ := σ) fun w v =>
    v.cwd = w.cwd ∧ Disk.Grows w.disk v.disk ∧ Disk.Paves w.disk v.disk w.cwd p where
  refl _ := ⟨rfl, .refl _, .refl _ _ _⟩
  trans h h' := ⟨h'.1.trans h.1, h.2.1.trans h'.2.1, h.2.2.trans h'.2.1 (h.1 ▸ h'.2.2)⟩

theorem createDirectories_paves :
    Ends (createDirectories p) w fun _ v => Disk.Paves w.disk v.disk w.cwd p := by
  refine (createDirectories_run (composes_paves p) ?_).mono fun _ _ h => h.1.2.2
  intro q hq w d hd
  exact ⟨rfl, Disk.makeDirectory_grows hd, Disk.paves_makeDirectory hq hd⟩

theorem createParents_makes : Ends (createParents p) w fun _ v =>
    ∀ m, Disk.Same w.disk v.disk m ∨
      ∃ q, parent? p = some q ∧ Disk.Made w.disk v.disk w.cwd q m := by
  simp only [createParents]
  cases hq : parent? p with
  | none => exact Ends.pure fun m => .inl (.refl _ m)
  | some q =>
    refine createDirectories_paves.mono fun _ _ h m => (h m).imp_right fun hm => ?_
    exact ⟨q, rfl, hm⟩

end Action

theorem World.paves_prepared (w : World σ) (p : String) :
    Disk.Paves w.disk (w.prepared p).disk w.cwd p :=
  createDirectories_paves (w := w) (p := p)

end Provision
