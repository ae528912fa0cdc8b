import Provision.Proofs.Extraction.Planting
import Provision.Proofs.Extraction.Confinement
import Provision.Proofs.World.Footprint

namespace Provision

open PathText Provision.Action World

namespace Disk

variable {d d' e x : Disk} {cwd X l m : Location} {p q s t : String} {n : Node} {f : FileData}

def Cleared (d : Disk) (cwd : Location) (p : String) (x : Disk) : Prop :=
  x = d ∨ d.unlink cwd p = .ok x

theorem Cleared.wellFormed (h : Cleared d cwd p x) (hwf : d.WellFormed) : x.WellFormed := by
  obtain rfl | h := h
  · exact hwf
  · obtain ⟨s, X, n, -, hn, hdir, rfl⟩ := unlink_eq_ok h
    exact hwf.remove (by simpa [hn] using hdir)

structure Puts (d e : Disk) (cwd : Location) (p : String) (l : Location) (n : Node) : Prop where
  node : e.nodeAt l = some n
  led : e.locate cwd false p = .ok ⟨l, some n⟩
  same : ∀ m, m ≠ l → d.nodeAt m ≠ none → Same d e m

theorem Cleared.puts (h : Cleared d cwd p x) (hslot : x.slot cwd p = .ok ⟨X, some s, false⟩)
    (hgrows : Grows x e) (hnode : e.nodeAt (s :: X) = some n)
    (hsame : ∀ m, m ≠ s :: X → Same x e m) : Puts d e cwd p (s :: X) n where
  node := hnode
  led := by rw [locate_of_slot (hgrows.keeps.slot hslot), hnode]
  same m hm _ := by
    obtain rfl | h := h
    · exact hsame m hm
    · obtain ⟨t, Y, k, hslot', -, -, rfl⟩ := unlink_eq_ok h
      have hback := (grows_of_remove d t Y).keeps.slot hslot
      rw [hslot', Except.ok.injEq, Slot.mk.injEq, Option.some.injEq] at hback
      obtain ⟨rfl, rfl, -⟩ := hback
      exact (same_remove hm).trans (hsame m hm)

theorem Cleared.put (h : Cleared d cwd p x) (hslot : x.slot cwd p = .ok ⟨X, some s, false⟩)
    (hnone : x.nodeAt (s :: X) = none) (n : Node) : Puts d (x.put (s :: X) n) cwd p (s :: X) n :=
  h.puts hslot (grows_put hnone n) (by simp [nodeAt_put]) fun _ hm => same_put hm n

theorem Cleared.addFile (h : Cleared d cwd p x) (hwf : d.WellFormed)
    (hslot : x.slot cwd p = .ok ⟨X, some s, false⟩) (hnone : x.nodeAt (s :: X) = none)
    (f : FileData) : Puts d (x.addFile (s :: X) f).1 cwd p (s :: X) (.file x.next) :=
  h.puts hslot (grows_addFile hnone f) (by simp [nodeAt_addFile]) fun _ hm =>
    same_addFile (h.wellFormed hwf) hm f

end Disk

namespace Tarball

open Disk

variable {σ : Type} {w v u : World σ} {p q target dest archive : String} {e : TarEntry}
  {es : List TarEntry} {b : Bool} {r : Except Failure Bool}

def NewFile (p : String) (w v : World σ) (id : FileId) : Prop :=
  v.cwd = w.cwd ∧ ∃ x s X, Cleared w.disk w.cwd p x ∧ x.slot w.cwd p = .ok ⟨X, some s, false⟩ ∧
    x.nodeAt (s :: X) = none ∧ id = x.next ∧
      v.disk = (x.addFile (s :: X) ⟨plainMode, .data []⟩).1

theorem makeFile_new (hcwd : u.cwd = w.cwd) (hu : Cleared w.disk w.cwd p u.disk) :
    Runs (changeWith (·.makeFile · p)) u fun r v => ∀ id, r = .ok id → NewFile p w v id := by
  refine Runs.changeWith ?_ fun _ _ _ h => by cases h
  rintro d id hd _ ⟨⟩
  obtain ⟨s, X, hslot, hnone, rfl, rfl⟩ := makeFile_eq_ok hd
  exact ⟨hcwd, u.disk, s, X, hu, hcwd ▸ hslot, hnone, rfl, rfl⟩

theorem createNew_new : Runs (createNew p) w fun r v => ∀ id, r = .ok id → NewFile p w v id := by
  refine Runs.bind (Runs.changeWith ?_ ?_)
  · intro d id hd
    obtain ⟨s, X, hslot, hnone, rfl, rfl⟩ := makeFile_eq_ok hd
    refine Runs.pure ?_
    rintro _ ⟨⟩
    exact ⟨rfl, w.disk, s, X, .inl rfl, hslot, hnone, rfl, rfl⟩
  · intro x _
    split
    · exact absurd ‹_› (by simp)
    · refine Runs.bind (Runs.change ?_ ?_)
      · exact fun d hd => makeFile_new rfl (.inr hd)
      · intro y _
        split
        · exact makeFile_new rfl (.inl rfl)
        · exact makeFile_new rfl (.inl rfl)
        · exact Runs.pure fun _ h => by cases h
    · exact Runs.pure fun _ h => by cases h

theorem makeSymlink_puts (hcwd : u.cwd = w.cwd) (hu : Cleared w.disk w.cwd p u.disk) :
    Runs (change (·.makeSymlink · target p)) u fun r v => r = .ok () →
      v.cwd = w.cwd ∧ ∃ l, Puts w.disk v.disk w.cwd p l (.symlink target) := by
  refine Runs.change ?_ fun _ _ h => by cases h
  intro d hd _
  obtain ⟨s, X, hslot, hnone, rfl⟩ := makeSymlink_eq_ok hd
  exact ⟨hcwd, s :: X, hu.put (hcwd ▸ hslot) hnone _⟩

theorem createLink_puts : Runs (createLink target p) w fun r v => r = .ok () →
    v.cwd = w.cwd ∧ ∃ l, Puts w.disk v.disk w.cwd p l (.symlink target) := by
  refine Runs.bind (Runs.change ?_ ?_)
  · intro d hd
    obtain ⟨s, X, hslot, hnone, rfl⟩ := makeSymlink_eq_ok hd
    exact Runs.pure fun _ => ⟨rfl, s :: X, Cleared.put (.inl rfl) hslot hnone _⟩
  · intro x _
    split
    · exact absurd ‹_› (by simp)
    · refine Runs.bind (Runs.change ?_ ?_)
      · exact fun d hd => makeSymlink_puts rfl (.inr hd)
      · intro y _
        split
        · exact makeSymlink_puts rfl (.inl rfl)
        · exact makeSymlink_puts rfl (.inl rfl)
        · exact Runs.pure fun h => by cases h
    · exact Runs.pure fun h => by cases h

theorem unpackFile_puts (hwf : w.disk.WellFormed) : Ends (unpackFile e p) w fun r v => r = .ok () →
    v.cwd = w.cwd ∧ ∃ l id, Puts w.disk v.disk w.cwd p l (.file id) := by
  refine Ends.bind (Ends.step (createNew_new.mono ?_))
  rintro (x | id) v hnew
  · exact fun h => by cases h
  obtain ⟨hcwd, x, s, X, hx, hslot, hnone, rfl, hv⟩ := hnew id rfl
  refine Ends.bind (Ends.changeDisk ?_)
  dsimp only
  split
  · exact Ends.bind (Ends.throw fun h => by cases h)
  · refine Ends.changeDisk fun _ => ⟨hcwd, s :: X, x.next, ?_⟩
    rw [changed_disk, changed_disk, hv, setContent_addFile, setModeOf_addFile]
    exact hx.addFile hwf hslot hnone _

def Stands (e : TarEntry) (n : Node) : Prop :=
  if e.isDirectory then n = .directory
  else match e.kind with
    | .symlink => n = .symlink e.link
    | .hardLink => n ≠ .directory
    | _ => ∃ id, n = .file id

def Wanted (e : TarEntry) : Prop := placeOf e ≠ [] ∧ e.kind ≠ .globalHeader

theorem unpack_puts (hwf : w.disk.WellFormed) (hdir : e.isDirectory = false)
    (hlink : e.kind ≠ .hardLink) (hheader : e.kind ≠ .globalHeader) :
    Ends (unpack e p) w fun r v => r = .ok () →
      v.cwd = w.cwd ∧ ∃ l n, Puts w.disk v.disk w.cwd p l n ∧ Stands e n := by
  have hfile : Ends (unpackFile e p) w fun r v => r = .ok () → v.cwd = w.cwd ∧
      ∃ l n, Puts w.disk v.disk w.cwd p l n ∧ ∃ id, n = .file id :=
    (unpackFile_puts hwf).mono fun r v h hr => by
      obtain ⟨hcwd, l, id, hputs⟩ := h hr
      exact ⟨hcwd, l, .file id, hputs, id, rfl⟩
  have hold : e.isOldDirectory = false := (Bool.or_eq_false_iff.1 hdir).2
  cases hk : e.kind with
  | globalHeader => exact absurd hk hheader
  | symlink =>
    simp only [unpack, Stands, hk, hdir, Bool.false_eq_true, ↓reduceIte]
    split
    · exact Ends.throw fun h => by cases h
    · refine Ends.step (createLink_puts.mono ?_)
      rintro (x | a) v hv
      · exact fun h => by cases h
      · obtain ⟨hcwd, l, hputs⟩ := hv rfl
        exact fun _ => ⟨hcwd, l, _, hputs, rfl⟩
  | hardLink => exact absurd hk hlink
  | directory => simp [TarEntry.isDirectory, hk] at hdir
  | regular | fifo | characterDevice | blockDevice | contiguous | unknown =>
    simpa only [unpack, Stands, hk, hdir, hold, Bool.false_eq_true, ↓reduceIte] using hfile

/-- Whatever stood somewhere stands there as it was. -/
def Leaves (w v : World σ) : Prop :=
  v.cwd = w.cwd ∧ ∀ m, w.disk.nodeAt m ≠ none → Same w.disk v.disk m

theorem createParents_leaves : Ends (createParents p) w fun _ v => Leaves w v := by
  have hall := maintains_createParents (σ := σ) (stable_true w.cwd) p w rfl trivial
  refine (createParents_makes.and hall).mono fun _ v hv => ⟨hv.2.cwd, fun m hm => ?_⟩
  obtain hsame | ⟨q, -, hmade⟩ := hv.1 m
  · exact hsame
  · exact absurd hmade.missing hm

theorem createDirectories_leaves : Ends (createDirectories p) w fun _ v => Leaves w v := by
  have hall := maintains_createDirectories (σ := σ) (stable_true w.cwd) p w rfl trivial
  refine (createDirectories_paves.and hall).mono fun _ v hv => ⟨hv.2.cwd, fun m hm => ?_⟩
  obtain hsame | hmade := hv.1 m
  · exact hsame
  · exact absurd hmade.missing hm

theorem linkFile_puts : Ends (linkFile q p) w fun r v => r = .ok () →
    ∃ u, Leaves w u ∧ v.cwd = w.cwd ∧ ∃ l n, Puts u.disk v.disk w.cwd p l n ∧ n ≠ .directory := by
  refine Ends.bind (createParents_leaves.mono fun r u hu => ?_)
  cases r with
  | error x => exact fun h => by cases h
  | ok =>
    have hlink : ∀ t : World σ, t.cwd = u.cwd → Cleared u.disk u.cwd p t.disk →
        Ends (Action.step (.hardLink q p) (change (·.makeHardLink · q p))) t fun r v =>
          r = .ok () → ∃ u, Leaves w u ∧ v.cwd = w.cwd ∧
            ∃ l n, Puts u.disk v.disk w.cwd p l n ∧ n ≠ .directory := by
      intro t hcwd ht
      refine Ends.step (Runs.change ?_ fun _ _ h => by cases h)
      intro d hd _
      obtain ⟨s, X, l, n, hslot, hnone, -, -, hdir, rfl⟩ := makeHardLink_eq_ok hd
      exact ⟨u, hu, hcwd.trans hu.1, s :: X, n, hu.1 ▸ ht.put (hcwd ▸ hslot) hnone n, hdir⟩
    refine Ends.get ?_
    dsimp only
    split
    · refine Ends.bind (Ends.step (Runs.change ?_ fun _ _ h => by cases h))
      exact fun d hd => hlink (u.changed d) rfl (.inr hd)
    · exact hlink u rfl (.inl rfl)

/-- What an entry leaves that has been written at a path. -/
structure Wrote (p : String) (e : TarEntry) (w v : World σ) : Prop where
  cwd : v.cwd = w.cwd
  led : Wanted e → ∃ l n, v.disk.nodeAt l = some n ∧ Stands e n ∧
    v.disk.locate v.cwd e.isDirectory p = .ok ⟨l, some n⟩
  kept : ∀ m, w.disk.nodeAt m ≠ none → v.disk.nodeAt m ≠ none ∧
    (Same w.disk v.disk m ∨
      ∃ n, v.disk.locate v.cwd e.isOldDirectory p = .ok ⟨m, n⟩)

theorem Leaves.kept (h : Leaves w v) (m : Location) (hm : w.disk.nodeAt m ≠ none) :
    v.disk.nodeAt m ≠ none ∧ (Same w.disk v.disk m ∨
      ∃ n, v.disk.locate v.cwd e.isOldDirectory p = .ok ⟨m, n⟩) :=
  ⟨(h.2 m hm).1 ▸ hm, .inl (h.2 m hm)⟩

theorem Leaves.wrote {l : Location} {n : Node} (h : Leaves w u) (hcwd : v.cwd = w.cwd)
    (hputs : Puts u.disk v.disk w.cwd p l n)
    (hdir : e.isDirectory = false) (hn : Stands e n) : Wrote p e w v where
  cwd := hcwd
  led _ := ⟨l, n, hputs.node, hn, by rw [hdir, hcwd, hputs.led]⟩
  kept m hm := by
    have hold : e.isOldDirectory = false := (Bool.or_eq_false_iff.1 hdir).2
    have hu := h.2 m hm
    by_cases he : m = l
    · rw [he, hputs.node, hcwd, hold]
      exact ⟨by simp, .inr ⟨some n, hputs.led⟩⟩
    · have hv := hu.trans (hputs.same m he (hu.1 ▸ hm))
      exact ⟨hv.1 ▸ hm, .inl hv⟩

def Sound (w : World σ) : Prop := w.disk.WellFormed ∧ w.disk.nodeAt w.cwd = some .directory

theorem pathBelow_ne_empty (dest : String) (h : placeOf e ≠ []) :
    pathBelow dest (placeOf e) ≠ "" := by
  have hsegments : ∀ s ∈ placeOf e, IsSegment s :=
    fun s hs => isSegment_of_mem (List.mem_of_mem_drop hs)
  intro hempty
  have hpath := segments_join (p := dest) (isAbsolute_of_isSegment hsegments)
  rw [segments_of_isSegment hsegments, ← pathBelow, hempty] at hpath
  simp [h] at hpath

theorem writeDirectory_wrote (hw : Sound w) (hp : p ≠ "") (hdir : e.isDirectory = true) :
    Ends (createDirectories p) w fun r v => r = .ok () → Wrote p e w v := by
  have hmade := createDirectories_run (w := w) (p := p) (composes_lasts fun _ => True)
    fun _ _ _ _ _ => .changed id
  have hsound := maintains_createDirectories (stable_sound w.cwd) p w rfl hw
  refine ((createDirectories_leaves.and hmade).and hsound).mono ?_
  rintro r v ⟨⟨hv, -, hdirectory⟩, halong⟩ rfl
  refine ⟨hv.1, fun _ => ?_, hv.kept⟩
  obtain ⟨X, hX⟩ := isDir_iff.1 (hdirectory.resolve_left hp)
  obtain ⟨k, hk⟩ := hX.2
  have hnode := halong.now.1.reach (nodeAt_origin (hv.1 ▸ halong.now.2) _) hk
  exact ⟨X, .directory, hnode, by simp [Stands, hdir], hdir ▸ locate_eq_directory_iff.2 hX⟩

theorem Leaves.moded {X : Location} {d : Disk} {mode : Nat} (h : Leaves w u)
    (hold : e.isOldDirectory = true) (hX : d.nodeAt X = some .directory) (hleads : d.Leads u.cwd p X)
    (hd : ∀ m, m ≠ X → u.disk.nodeAt m ≠ none → Same u.disk d m) (hcwd : v.cwd = u.cwd)
    (hv : v.disk = d.setModeAt X mode) : Wrote p e w v := by
  have hdir : e.isDirectory = true := by simp [TarEntry.isDirectory, hold]
  have hkeeps : Keeps d (d.setModeAt X mode) := fun _ _ _ hm => hm
  have hlocate : v.disk.locate v.cwd true p = .ok ⟨X, some .directory⟩ := by
    rw [hv, hcwd]
    exact locate_eq_directory_iff.2 (hkeeps.leads hleads)
  rw [← nodeAt_setModeAt d X X mode, ← hv] at hX
  have hstands : Stands e .directory := by simp [Stands, hdir]
  refine ⟨hcwd.trans h.1, fun _ => ⟨X, .directory, hX, hstands, hdir ▸ hlocate⟩, fun m hm => ?_⟩
  have hu := h.2 m hm
  by_cases hm' : m = X
  · subst hm'
    exact ⟨by simp [hX], .inr ⟨_, hold ▸ hlocate⟩⟩
  · have hsame := (hu.trans (hd m hm' (hu.1 ▸ hm))).trans (same_setModeAt hm' mode)
    rw [← hv] at hsame
    exact ⟨hsame.1 ▸ hm, .inl hsame⟩

theorem writeOlder_wrote (hw : Sound w) (hold : e.isOldDirectory = true) :
    Ends (do
      createParents p
      unpackDirectory e p) w fun r v => r = .ok () → Wrote p e w v := by
  have hsound := maintains_createParents (stable_sound w.cwd) p w rfl hw
  refine Ends.bind ((createParents_leaves.and hsound).mono ?_)
  rintro (x | a) u ⟨hu, halong⟩
  · exact fun h => by cases h
  obtain ⟨hwf, here⟩ := halong.now
  rw [← hu.1] at here
  refine ends_unpackDirectory (fun X hX _ => ?_) (fun X s b hslot hnone _ => ?_) fun _ _ _ h => by
    cases h
  · exact hu.moded hold (hwf.leads here hX) hX (fun m _ _ => .refl _ m) rfl rfl
  · exact hu.moded hold (by simp [nodeAt_put]) (leads_of_slot hslot hnone)
      (fun m hm _ => same_put hm _) rfl rfl

theorem writeLink_wrote (hdir : e.isDirectory = false) (hk : e.kind = .hardLink) :
    Ends (linkFile q p) w fun r v => r = .ok () → Wrote p e w v := by
  refine linkFile_puts.mono fun r v h hr => ?_
  obtain ⟨u, hu, hcwd, l, n, hputs, hn⟩ := h hr
  exact hu.wrote hcwd hputs hdir (by simpa [Stands, hdir, hk] using hn)

theorem writeOther_wrote (hw : Sound w) (hdir : e.isDirectory = false) (hk : e.kind ≠ .hardLink) :
    Ends (do
      createParents p
      unpack e p) w fun r v => r = .ok () → Wrote p e w v := by
  have hsound := maintains_createParents (stable_sound w.cwd) p w rfl hw
  refine Ends.bind ((createParents_leaves.and hsound).mono ?_)
  rintro (x | a) u ⟨hu, halong⟩
  · exact fun h => by cases h
  dsimp only
  by_cases hheader : e.kind = .globalHeader
  · simp only [unpack, hheader]
    exact Ends.pure fun _ => ⟨hu.1, fun h => absurd hheader h.2, hu.kept⟩
  · refine (unpack_puts halong.now.1 hdir hk hheader).mono fun r v h hr => ?_
    obtain ⟨hcwd, l, n, hputs, hn⟩ := h hr
    exact hu.wrote (hcwd.trans hu.1) (hu.1 ▸ hputs) hdir hn

theorem Aims.eq_pathBelow (h : Aims dest e p) :
    placeOf e ≠ [] ∧ p = pathBelow dest (placeOf e) := by
  obtain ⟨relative, hs, rfl⟩ := h.path
  have hstrip : EntryPath.stripFirst? e.name =
      if placeOf e = [] then none else some ("/".intercalate (placeOf e)) :=
    EntryPath.stripFirst?_safe h.safe
  rw [hs] at hstrip
  split at hstrip
  · cases hstrip
  · exact ⟨‹_›, congrArg (join dest) (Option.some.inj hstrip)⟩

theorem extractEntry_wrote (hw : Sound w) : Ends (extractEntry dest e) w fun r v =>
    ∀ b, r = .ok b → Wrote (pathBelow dest (placeOf e)) e w v := by
  have hwrote {q : String} (hq : Aims dest e q) {r : Except Failure Unit} {v : World σ}
      (h : r = .ok () → Wrote q e w v) (b : Bool) (hb : r.map (fun _ => true) = .ok b) :
      Wrote (pathBelow dest (placeOf e)) e w v := by
    cases r with
    | error x => cases hb
    | ok => exact hq.eq_pathBelow.2 ▸ h rfl
  refine ends_extractEntry (fun _ => nofun) (fun hsafe hbare _ _ => ?_) (fun hp hdir => ?_)
    (fun hp hold hk => ?_) (fun hp hold => (writeOlder_wrote hw hold).mono fun _ _ => hwrote hp)
    (fun hp hold hdir hk => ?_)
  · have hplace : placeOf e = [] := by
      rw [EntryPath.stripFirst?_safe hsafe, ← placeOf] at hbare
      simpa using hbare
    have hself : Leaves w w := ⟨rfl, fun m _ => .refl _ m⟩
    exact ⟨rfl, fun h => absurd hplace h.1, hself.kept⟩
  · obtain ⟨hplace, rfl⟩ := hp.eq_pathBelow
    have hdir' : e.isDirectory = true := by simp [TarEntry.isDirectory, hdir]
    exact (writeDirectory_wrote hw (pathBelow_ne_empty dest hplace) hdir').mono fun _ _ => hwrote hp
  · have hdir : e.isDirectory = false := by simp [TarEntry.isDirectory, hold, hk]
    exact (writeLink_wrote hdir hk).mono fun _ _ => hwrote hp
  · have hdir' : e.isDirectory = false := by simp [TarEntry.isDirectory, hold, hdir]
    exact (writeOther_wrote hw hdir' hk).mono fun _ _ => hwrote hp

theorem isSafe_of_extractEntry (h : (extractEntry dest e).run.run w = (.ok b, v)) :
    EntryPath.isSafe e.name = true := by
  cases hsafe : EntryPath.isSafe e.name with
  | true => rfl
  | false =>
    have hfails : Ends (extractEntry dest e) w fun r _ => r = .error (.unsafePath e.name) := by
      refine Ends.bind ?_
      rw [requireSafe, hsafe]
      exact Ends.throw rfl
    cases hfails.of_run h

end Tarball
end Provision
