import Provision.Proofs.Disk.Join
import Provision.Proofs.Installation.Errands

namespace Provision

open PathText Provision.Action

variable {σ : Type} {w v : World σ} {p text buildDir : String} {c : Content} {t : Toolchain}
  {b : Binding}

namespace Action

theorem createDirectories_stays : Ends (createDirectories p) w fun _ v => w.Stays v :=
  (createDirectories_run composes_stays fun _ _ _ _ _ => ⟨rfl, rfl⟩).mono fun _ _ h => h.1

theorem createParents_stays : Ends (createParents p) w fun _ v => w.Stays v :=
  createParents_run composes_stays fun _ _ => ⟨rfl, rfl⟩

theorem createParents_ends : Ends (createParents p) w fun r v => Disk.Grows w.disk v.disk ∧
    (r = .ok () → ∀ q, parent? p = some q → q = "" ∨ v.isDir q = true) := by
  refine (createParents_along (I := Disk.Grows w.disk) (.refl _) ?_).mono ?_
  · exact fun _ _ _ _ _ _ hg hd => hg.trans (Disk.makeDirectory_grows hd)
  · rintro r v ⟨hv, hr⟩
    refine ⟨hv.now, ?_⟩
    rintro rfl
    exact hr

theorem createParents_of_isDir (h : ∀ q, parent? p = some q → q = "" ∨ w.isDir q = true) :
    Ends (createParents p) w fun r v => r = .ok () ∧ v = w := by
  simp only [createParents]
  split
  · exact createDirectories_of_isDir (h _ ‹_›)
  · exact Ends.pure ⟨rfl, rfl⟩

end Action

namespace Disk

def Wrote (d : Disk) (cwd : Location) (p : String) (c : Content) : Prop :=
  ∃ (e : Disk) (l : Location) (id : FileId) (mode : Nat), d = e.setFile id ⟨mode, c⟩ ∧
    FileData.isWritable ⟨mode, c⟩ = true ∧ d.locate cwd true p = .ok ⟨l, some (.file id)⟩

theorem wrote_setContent {d d' : Disk} {cwd : Location} {id : FileId}
    (h : d.openForWriting cwd p = .ok (d', id)) : (d'.setContent id c).Wrote cwd p c := by
  have hplain : decide (plainMode &&& 0o200 ≠ 0) = true := by decide
  have hfile : ∃ mode, d'.files.get? id = some ⟨mode, .data []⟩ ∧
      FileData.isWritable ⟨mode, c⟩ = true := by
    obtain ⟨l, -, -, rfl, rfl⟩ | ⟨l, g, -, -, hw, rfl⟩ := openForWriting_eq_ok h
    · exact ⟨plainMode, by simp [get?_addFile], hplain⟩
    · exact ⟨g.mode, by simp [get?_setFile], hw⟩
  obtain ⟨mode, hget, hmode⟩ := hfile
  have hset : d'.setContent id c = d'.setFile id ⟨mode, c⟩ := by simp [setContent, hget]
  obtain ⟨-, -, l, hl⟩ := openForWriting_grows h
  rw [hset]
  exact ⟨d', l, id, mode, rfl, hmode, (grows_setFile d' id _).locate hl⟩

theorem Wrote.again {d : Disk} {cwd : Location} (h : d.Wrote cwd p c)
    (hp : endsWithSlash p = false) :
    ∃ d' id, d.openForWriting cwd p = .ok (d', id) ∧ d'.setContent id c = d := by
  obtain ⟨e, l, id, mode, rfl, hw, hl⟩ := h
  have hget : (e.setFile id ⟨mode, c⟩).files.get? id = some ⟨mode, c⟩ := by simp [get?_setFile]
  refine ⟨(e.setFile id ⟨mode, c⟩).setFile id ⟨mode, .data []⟩, id, ?_, ?_⟩
  · simp [openForWriting, hp, hl, hget, hw, bind, Except.bind]
  · simp [setContent, setFile]

end Disk

namespace Binding

structure Saved (buildDir : String) (b : Binding) (w : World σ) : Prop where
  parent : ∀ q, parent? (configPath buildDir) = some q → q = "" ∨ w.isDir q = true
  file : w.disk.Wrote w.cwd (configPath buildDir) (.data (Text.bytes b.configText))

theorem endsWithSlash_configPath (buildDir : String) :
    endsWithSlash (configPath buildDir) = false := by
  rw [configPath, endsWithSlash_join (by decide) (by decide)]
  decide

theorem writeFile_ends : Ends (writeFile p text) w fun r v =>
    w.Stays v ∧ Disk.Grows w.disk v.disk ∧
      (r = .ok () → v.disk.Wrote v.cwd p (.data (Text.bytes text))) := by
  refine Ends.bind (Ends.step (Runs.changeWith ?_ ?_))
  · intro d id hd
    have hgrows := (Disk.openForWriting_grows hd).1.trans
      (Disk.grows_setContent d id (.data (Text.bytes text)))
    exact Ends.changeDisk ⟨⟨rfl, rfl⟩, hgrows, fun _ => Disk.wrote_setContent hd⟩
  · exact fun e _ => ⟨⟨rfl, rfl⟩, .refl _, by simp⟩

theorem writeFile_again (h : w.disk.Wrote w.cwd p (.data (Text.bytes text)))
    (hp : endsWithSlash p = false) :
    Ends (writeFile p text) w fun r v => r = .ok () ∧ w.Rests v := by
  obtain ⟨d, id, hd, hset⟩ := h.again hp
  exact Ends.bind (Ends.step (Runs.changeWith_ok hd (Ends.changeDisk ⟨rfl, ⟨rfl, rfl⟩, hset⟩)))

theorem write_ends : Ends (b.write buildDir) w fun r v =>
    w.Stays v ∧ Disk.Grows w.disk v.disk ∧ ((∃ p, r = .ok p) → b.Saved buildDir v) := by
  refine Ends.bind ((createParents_stays.and createParents_ends).mono ?_)
  rintro (e | ⟨⟩) u ⟨hstays, hgrows, hparent⟩
  · exact ⟨hstays, hgrows, by simp⟩
  refine Ends.bind (writeFile_ends.mono ?_)
  rintro (e | ⟨⟩) v ⟨hstays', hgrows', hfile⟩
  · exact ⟨composes_stays.trans hstays hstays', hgrows.trans hgrows', by simp⟩
  refine Ends.pure ⟨composes_stays.trans hstays hstays', hgrows.trans hgrows',
    fun _ => ⟨?_, hfile rfl⟩⟩
  intro q hq
  rw [World.isDir, hstays'.cwd]
  exact (hparent rfl q hq).imp_right hgrows'.keeps.isDir

theorem write_again (h : b.Saved buildDir w) : Ends (b.write buildDir) w fun r v =>
    r = .ok (configPath buildDir) ∧ w.Rests v := by
  refine Ends.bind ((createParents_of_isDir h.parent).mono ?_)
  rintro r u ⟨rfl, rfl⟩
  refine Ends.bind ((writeFile_again h.file (endsWithSlash_configPath buildDir)).mono ?_)
  rintro r v ⟨rfl, hv⟩
  exact Ends.pure ⟨rfl, hv⟩

theorem Saved.rests (h : b.Saved buildDir w) (hv : w.Rests v) : b.Saved buildDir v where
  parent := by
    simp only [World.isDir, hv.cwd, hv.disk]
    exact h.parent
  file := by
    rw [hv.cwd, hv.disk]
    exact h.file

end Binding

namespace Probe

theorem save_ends : Ends (save buildDir t b) w fun r v =>
    w.Stays v ∧ Disk.Grows w.disk v.disk ∧ (r = .ok () → b.Saved buildDir v) := by
  refine Ends.bind (Binding.write_ends.mono ?_)
  rintro (e | p) v ⟨hstays, hgrows, hsaved⟩
  · exact ⟨hstays, hgrows, by simp⟩
  · exact Ends.tell ⟨⟨hstays.cwd, hstays.home⟩, hgrows,
      fun _ => (hsaved ⟨p, rfl⟩).rests ⟨⟨rfl, rfl⟩, rfl⟩⟩

theorem save_again (h : b.Saved buildDir w) : Ends (save buildDir t b) w fun r v =>
    r = .ok () ∧ w.Rests v := by
  refine Ends.bind ((Binding.write_again h).mono ?_)
  rintro r v ⟨rfl, hv⟩
  exact Ends.tell ⟨rfl, ⟨hv.cwd, hv.home⟩, hv.disk⟩

theorem save_mimics (l : List (Errand σ)) (buildDir : String) (t : Toolchain) (b : Binding) :
    Mimics (·.logged l) (save (σ := Logged σ) buildDir t b).run (save buildDir t b).run := by
  have hm := World.likeness_logged l
  refine .seq ?_ fun _ _ => rfl
  refine .seq (createParents_mimics hm _) fun _ => .seq ?_ fun _ => .pure _
  exact .seq (.step _ (.changeWith hm _)) fun _ => .changeDisk hm _

end Probe
end Provision
