import Provision.Extraction.Tar
import Provision.Proofs.Disk.Landing
import Provision.Proofs.Extraction.EntryPath
import Provision.Proofs.World.Directories

namespace Provision

open PathText

namespace Disk

variable {d e e' : Disk} {cwd D X l : Location} {k : Nat} {ws : List String}
  {p q s t dest : String} {b : Bool} {n : Node} {id : FileId}

structure Moved (d : Disk) (T : Location → Prop) (e : Disk) : Prop where
  wellFormed : e.WellFormed
  frame : e = d ∨ ∃ l, T l ∧ Frame d e l

structure Paved (d : Disk) (k : Nat) (D : Location) (ws : List String) (e : Disk) : Prop where
  wellFormed : e.WellFormed
  grows : Grows d e
  frame : e = d ∨ ∃ l, d.Lands k D ws l ∧ e.Lands k D ws l ∧ Frame d e l
  new : ∀ {m n}, e.nodeAt m = some n → d.nodeAt m = some n ∨ n = .directory

theorem Paved.refl (h : d.WellFormed) (k : Nat) (D : Location) (ws : List String) :
    Paved d k D ws d := ⟨h, .refl d, .inl rfl, .inl⟩

theorem Paved.moved (h : Paved d k D ws e) : Moved d (d.Lands k D ws) e := by
  refine ⟨h.wellFormed, h.frame.imp_right ?_⟩
  rintro ⟨l, hl, -, hf⟩
  exact ⟨l, hl, hf⟩

theorem Paved.lands (hc : "." ∉ ws) (hu : ".." ∉ ws) (h : Paved d k D ws e)
    (hl : e.Lands k D ws l) : d.Lands k D ws l ∧ Frame d e l := by
  obtain rfl | ⟨m, hm, hm', hf⟩ := h.frame
  · exact ⟨hl, .refl _ _⟩
  · obtain rfl := hl.unique hc hu hm'
    exact ⟨hm, hf⟩

theorem Moved.mono {T U : Location → Prop} (h : Moved d T e) (hT : ∀ l, T l → U l) : Moved d U e :=
  ⟨h.wellFormed, h.frame.imp_right fun ⟨l, hl, hf⟩ => ⟨l, hT l hl, hf⟩⟩

theorem Paved.makeDirectory (hc : "." ∉ ws) (hu : ".." ∉ ws) (h : Paved d k D ws e)
    (hcwd : d.nodeAt cwd = some .directory) (hroot : d.Rooted cwd dest D k)
    (hq : segments q <+: segments dest ++ ws) (ha : isAbsolute q = isAbsolute dest)
    (hmake : e.makeDirectory cwd q = .ok e') : Paved d k D ws e' := by
  have hwf := h.wellFormed.makeDirectory (h.grows _ _ hcwd) hmake
  have hgrows := h.grows.trans (makeDirectory_grows hmake)
  have hnew : ∀ {m n}, e'.nodeAt m = some n → d.nodeAt m = some n ∨ n = .directory := by
    intro m n hm
    obtain hm | hm := makeDirectory_new hmake hm
    · exact h.new hm
    · exact .inr hm
  obtain ⟨s, X, b, hslot, hnone, rfl⟩ := makeDirectory_eq_ok hmake
  obtain ⟨us, r, j, rfl, -, hX⟩ | ⟨n, hn⟩ := below_of_slot (hroot.keeps h.grows.keeps) hq ha hslot
  · obtain ⟨-, hsc, hsu, hlen, -, -⟩ := slot_eq_some_iff.1 hslot
    have hl : e.Lands k D (us ++ s :: r) (r.reverse ++ s :: X) :=
      ⟨us, s, r, X, j, rfl, hX, rfl, .inr hnone⟩
    obtain ⟨hland, hframe⟩ := h.lands hc hu hl
    exact ⟨hwf, hgrows, .inr ⟨_, hland, lands_put h.wellFormed hsc hsu hlen hX hnone r,
      hframe.makeDirectory (List.suffix_append _ _) hnone⟩, hnew⟩
  · simp [hn] at hnone

/-- A name that is about to be made, with nothing done yet that would keep it from where it lands. -/
structure Ready (d : Disk) (cwd : Location) (k : Nat) (D : Location) (ws : List String) (p : String)
    (e : Disk) : Prop where
  moved : Moved d (d.Lands k D ws) e
  here : e.nodeAt cwd = some .directory
  slot : ∀ {X s b}, e.slot cwd p = .ok ⟨X, some s, b⟩ →
    d.Lands k D ws (s :: X) ∧ Frame d e (s :: X)

theorem Paved.ready (hc : "." ∉ ws) (hu : ".." ∉ ws) (h : Paved d k D ws e)
    (hcwd : d.nodeAt cwd = some .directory) (hroot : d.Rooted cwd dest D k)
    (hp : segments p = segments dest ++ ws) (hne : ws ≠ []) (ha : isAbsolute p = isAbsolute dest) :
    Ready d cwd k D ws p e where
  moved := h.moved
  here := h.grows _ _ hcwd
  slot hs := h.lands hc hu (lands_of_slot (hroot.keeps h.grows.keeps) hp hne ha hs)

namespace Ready

variable (h : Ready d cwd k D ws p e)
include h

theorem unlink (hd : e.unlink cwd p = .ok e') : Ready d cwd k D ws p e' := by
  obtain ⟨s, X, n, hslot, hn, hdir, rfl⟩ := unlink_eq_ok hd
  obtain ⟨hl, hf⟩ := h.slot hslot
  have hold : e.nodeAt (s :: X) ≠ some .directory := by simpa [hn] using hdir
  have hf' := hf.remove hold
  have hgrows := grows_of_remove e s X
  refine ⟨⟨h.moved.wellFormed.remove hold, .inr ⟨_, hl, hf'⟩⟩, ?_, ?_⟩
  · rw [nodeAt_remove, if_neg, h.here]
    rintro rfl
    exact hold h.here
  · intro Y t b ht
    have ht' := hgrows.keeps.slot ht
    rw [hslot, Except.ok.injEq, Slot.mk.injEq, Option.some.injEq] at ht'
    obtain ⟨rfl, rfl, -⟩ := ht'
    exact ⟨hl, hf'⟩

theorem put (hslot : e.slot cwd p = .ok ⟨X, some s, b⟩) (hnone : e.nodeAt (s :: X) = none)
    (hfile : ∀ id, n = .file id → (e.files.get? id).isSome) :
    Moved d (d.Lands k D ws) (e.put (s :: X) n) := by
  obtain ⟨hl, hf⟩ := h.slot hslot
  have hX := h.moved.wellFormed.slot h.here hslot
  exact ⟨h.moved.wellFormed.put hX (by simp [hnone]) hfile,
    .inr ⟨_, hl, hf.put (by simp [hnone]) n⟩⟩

theorem makeSymlink (hd : e.makeSymlink cwd t p = .ok e') : Moved d (d.Lands k D ws) e' := by
  obtain ⟨s, X, hslot, hnone, rfl⟩ := makeSymlink_eq_ok hd
  exact h.put hslot hnone (by simp)

theorem makeHardLink (hd : e.makeHardLink cwd q p = .ok e') : Moved d (d.Lands k D ws) e' := by
  obtain ⟨s, X, l, n, hslot, hnone, -, hl, hdir, rfl⟩ := makeHardLink_eq_ok hd
  refine h.put hslot hnone ?_
  rintro id rfl
  obtain ⟨hn, -⟩ : e.nodeAt l = some (.file id) ∧ l ≠ [] := by simpa using locate_node hl
  exact h.moved.wellFormed.known hn

end Ready

structure Written (d : Disk) (k : Nat) (D : Location) (ws : List String) (id : FileId) (e : Disk) :
    Prop where
  wellFormed : e.WellFormed
  frame : ∃ l, d.Lands k D ws l ∧ Frame d e l ∧ ∀ m, e.nodeAt m = some (.file id) → m = l

theorem Written.moved (h : Written d k D ws id e) : Moved d (d.Lands k D ws) e := by
  obtain ⟨l, hl, hf, -⟩ := h.frame
  exact ⟨h.wellFormed, .inr ⟨l, hl, hf⟩⟩

theorem Written.setFile (h : Written d k D ws id e) (hid : (e.files.get? id).isSome) (f : FileData) :
    Written d k D ws id (e.setFile id f) := by
  obtain ⟨l, hl, hf, honly⟩ := h.frame
  exact ⟨h.wellFormed.setFile hid, l, hl, hf.setFile honly f, honly⟩

theorem Written.setContent (h : Written d k D ws id e) (c : Content) :
    Written d k D ws id (e.setContent id c) := by
  rw [Disk.setContent]
  split
  · exact h
  · exact h.setFile (by simp [*]) _

theorem Written.setModeOf (h : Written d k D ws id e) (mode : Nat) :
    Written d k D ws id (e.setModeOf id mode) := by
  rw [Disk.setModeOf]
  split
  · exact h
  · exact h.setFile (by simp [*]) _

theorem Ready.makeFile (h : Ready d cwd k D ws p e) (hd : e.makeFile cwd p = .ok (e', id)) :
    Written d k D ws id e' := by
  obtain ⟨s, X, hslot, hnone, rfl, rfl⟩ := makeFile_eq_ok hd
  obtain ⟨hl, hf⟩ := h.slot hslot
  have hwf := h.moved.wellFormed
  refine ⟨hwf.addFile (hwf.slot h.here hslot) (by simp [hnone]), _, hl,
    hf.addFile hwf (by simp [hnone]) _, fun m hm => ?_⟩
  rw [nodeAt_addFile] at hm
  split at hm
  · exact Eq.symm ‹_›
  · exact absurd (hwf.lt_next hm) (Nat.lt_irrefl _)

end Disk

namespace Tarball

open Provision.Action World Disk

variable {σ : Type} {d : Disk} {u w : World σ} {D : Location} {k : Nat} {ws : List String}
  {p q dest : String}

theorem makeFile_along (h : Ready d u.cwd k D ws p u.disk) :
    Runs (changeWith (·.makeFile · p)) u fun r v => Along (Moved d (d.Lands k D ws)) u v ∧
      ∀ id, r = .ok id → Written d k D ws id v.disk := by
  have hu : Along (Moved d (d.Lands k D ws)) u u := .refl h.moved
  refine Runs.changeWith ?_ ?_
  · intro e id hd
    have he := h.makeFile hd
    exact ⟨hu.changed he.moved, fun _ hid => Except.ok.inj hid ▸ he⟩
  · exact fun _ _ => ⟨hu, fun _ hid => by cases hid⟩

theorem createNew_along (h : Ready d u.cwd k D ws p u.disk) :
    Runs (createNew p) u fun r v => Along (Moved d (d.Lands k D ws)) u v ∧
      ∀ id, r = .ok id → Written d k D ws id v.disk := by
  have hu : Along (Moved d (d.Lands k D ws)) u u := .refl h.moved
  refine Runs.bind (Runs.changeWith ?_ ?_)
  · intro e id hd
    have he := h.makeFile hd
    exact Runs.pure ⟨hu.changed he.moved, fun _ hid => Except.ok.inj hid ▸ he⟩
  · intro x hx
    split
    · exact absurd ‹_› (by simp)
    · refine Runs.bind (Runs.change ?_ ?_)
      · intro e he
        have hr := h.unlink he
        refine (makeFile_along (u := u.changed e) hr).mono fun r v hv => ?_
        exact ⟨(hu.changed hr.moved).trans hv.1, hv.2⟩
      · intro y hy
        split
        · exact makeFile_along h
        · exact makeFile_along h
        · exact Runs.pure ⟨hu, fun _ hid => by cases hid⟩
    · exact Runs.pure ⟨hu, fun _ hid => by cases hid⟩

theorem makeSymlink_along {target : String} (h : Ready d u.cwd k D ws p u.disk) :
    Runs (change (·.makeSymlink · target p)) u fun _ v => Along (Moved d (d.Lands k D ws)) u v :=
  Runs.change (fun _ he => (Along.refl h.moved).changed (h.makeSymlink he)) fun _ _ => .refl h.moved

theorem createLink_along {target : String} (h : Ready d u.cwd k D ws p u.disk) :
    Runs (createLink target p) u fun _ v => Along (Moved d (d.Lands k D ws)) u v := by
  have hu : Along (Moved d (d.Lands k D ws)) u u := .refl h.moved
  refine Runs.bind (Runs.change ?_ ?_)
  · exact fun e he => Runs.pure (hu.changed (h.makeSymlink he))
  · intro x hx
    split
    · exact absurd ‹_› (by simp)
    · refine Runs.bind (Runs.change ?_ ?_)
      · intro e he
        have hr := h.unlink he
        refine (makeSymlink_along (u := u.changed e) hr).mono fun r v hv => ?_
        exact (hu.changed hr.moved).trans hv
      · intro y hy
        split
        · exact makeSymlink_along h
        · exact makeSymlink_along h
        · exact Runs.pure hu
    · exact Runs.pure hu

theorem unpackFile_along {e : TarEntry} (h : Ready d u.cwd k D ws p u.disk) :
    Ends (unpackFile e p) u fun _ v => Along (Moved d (d.Lands k D ws)) u v := by
  refine Ends.bind (Ends.step ((createNew_along h).mono ?_))
  rintro (x | id) v ⟨hv, hid⟩
  · exact hv
  · have hw := hid id rfl
    have hdata := hw.setContent (.data e.data)
    refine Ends.bind (Ends.changeDisk ?_)
    dsimp only
    split
    · refine Ends.bind (Ends.throw ?_)
      exact hv.changed hdata.moved
    · refine Ends.changeDisk ?_
      exact (hv.changed hdata.moved).changed (hdata.setModeOf _).moved

theorem unpack_along {e : TarEntry} (hold : e.isOldDirectory = false)
    (h : Ready d u.cwd k D ws p u.disk) :
    Ends (unpack e p) u fun _ v => Along (Moved d (d.Lands k D ws)) u v := by
  have hu : Along (Moved d (d.Lands k D ws)) u u := .refl h.moved
  simp only [unpack, hold, Bool.false_eq_true, ↓reduceIte]
  split
  · exact Ends.pure hu
  · split
    · exact Ends.throw hu
    · refine Ends.step ((createLink_along h).mono ?_)
      rintro (x | a) v hv
      · exact hv
      · exact hv
  · exact unpackFile_along h

theorem unpack_of_old {e : TarEntry} (h : e.isOldDirectory = true) :
    unpack (σ := σ) e p = unpackDirectory e p := by
  cases hk : e.kind with
  | directory | symlink | hardLink | globalHeader => simp [TarEntry.isOldDirectory, hk] at h
  | regular | fifo | characterDevice | blockDevice | contiguous | unknown =>
    simp only [unpack, hk, h, ↓reduceIte]

theorem createDirectory_runs : Runs (createDirectory p) w fun r v =>
    (∃ d, w.disk.makeDirectory w.cwd p = .ok d ∧ r = .ok () ∧ v = w.changed d) ∨
      (∀ d, w.disk.makeDirectory w.cwd p ≠ .ok d) ∧ v = w ∧ (r = .ok () ↔ w.isDir p = true) := by
  refine Runs.bind (Runs.change (fun d hd => Runs.pure (.inl ⟨d, hd, rfl, rfl⟩)) fun x hx => ?_)
  have hno : ∀ d, w.disk.makeDirectory w.cwd p ≠ .ok d := by simp [hx]
  have htaken : w.isDir p = true → x = .alreadyExists := fun hdir =>
    Except.error.inj (hx.symm.trans (makeDirectory_of_isDir hdir))
  split
  · exact absurd ‹_› (by simp)
  · refine Runs.get ?_
    split
    · exact Runs.pure (.inr ⟨hno, rfl, by simp [*]⟩)
    · exact Runs.pure (.inr ⟨hno, rfl, by simp [*]⟩)
  · rename_i y hy he
    refine Runs.pure (.inr ⟨hno, rfl, by simp, fun hdir => ?_⟩)
    exact absurd (htaken hdir) (by simpa [Except.error.inj he] using hy)

theorem ends_unpackDirectory {e : TarEntry} {Q : Except Failure Unit → World σ → Prop}
    (there : ∀ X, w.disk.Leads w.cwd p X →
      Q (.ok ()) (w.changed (w.disk.setModeAt X (e.mode &&& 0o777))))
    (made : ∀ X s b, w.disk.slot w.cwd p = .ok ⟨X, some s, b⟩ → w.disk.nodeAt (s :: X) = none →
      Q (.ok ()) ((w.changed (w.disk.put (s :: X) .directory)).changed
        ((w.disk.put (s :: X) .directory).setModeAt (s :: X) (e.mode &&& 0o777))))
    (failed : ∀ x, (∀ d, w.disk.makeDirectory w.cwd p ≠ .ok d) → w.isDir p = false →
      Q (.error x) w) : Ends (unpackDirectory e p) w Q := by
  refine Ends.bind (Ends.step (createDirectory_runs.mono ?_))
  rintro r v (⟨d, hd, rfl, rfl⟩ | ⟨hno, rfl, hr⟩)
  · obtain ⟨s, X, b, hslot, hnone, rfl⟩ := makeDirectory_eq_ok hd
    have hset := setMode_of_leads (leads_of_slot hslot hnone) (e.mode &&& 0o777)
    exact Ends.step (Runs.change_ok hset (made X s b hslot hnone))
  · cases r with
    | error x => exact failed _ hno (by simpa using hr)
    | ok =>
      obtain ⟨X, hX⟩ := isDir_iff.1 (hr.1 rfl)
      exact Ends.step (Runs.change_ok (setMode_of_leads hX _) (there X hX))

def placeOf (e : TarEntry) : List String := (segments e.name).drop 1

theorem current_notMem_placeOf (e : TarEntry) : "." ∉ placeOf e := by
  intro hm
  have := not_isIdle_of_mem_segments (List.mem_of_mem_drop hm)
  simp [isIdle] at this

structure Below (w : World σ) (dest : String) (D : Location) (k : Nat) (p : String)
    (ws : List String) : Prop where
  wellFormed : w.disk.WellFormed
  here : w.disk.nodeAt w.cwd = some .directory
  rooted : w.disk.Rooted w.cwd dest D k
  path : segments p = segments dest ++ ws
  absolute : isAbsolute p = isAbsolute dest
  ne_nil : ws ≠ []
  current : "." ∉ ws
  parent : ".." ∉ ws

section

variable (h : Below w dest D k p ws)
include h

theorem Below.ready {v : World σ} (hv : Along (Paved w.disk k D ws) w v) :
    Ready w.disk v.cwd k D ws p v.disk := by
  rw [hv.cwd]
  exact hv.now.ready h.current h.parent h.here h.rooted h.path h.ne_nil h.absolute

theorem createParents_paved :
    Ends (createParents p) w fun _ v => Along (Paved w.disk k D ws) w v := by
  refine (createParents_along (Paved.refl h.wellFormed k D ws) ?_).mono fun _ _ h => h.1
  intro q hq hqa _ e e' he hmake
  refine he.makeDirectory h.current h.parent h.here h.rooted ?_ (hqa.trans h.absolute) hmake
  rw [← h.path]
  exact hq.trans (List.dropLast_prefix _)

theorem createDirectories_paved :
    Ends (createDirectories p) w fun _ v => Along (Paved w.disk k D ws) w v := by
  refine (createDirectories_along (Paved.refl h.wellFormed k D ws) ?_).mono fun _ _ h => h.1
  intro q hq e e' he hmake
  obtain ⟨-, hqa, hpre⟩ := mem_lineage hq
  exact he.makeDirectory h.current h.parent h.here h.rooted (h.path ▸ hpre) (hqa.trans h.absolute) hmake

theorem unpackDirectory_there {e : TarEntry} {r : Location × Nat}
    (hr : w.disk.reach k D ws = .ok r) : Ends (do
      createParents p
      unpackDirectory e p) w fun _ v => Along (Moved w.disk (· = r.1)) w v := by
  have hw : Along (Moved w.disk (· = r.1)) w w := .refl ⟨h.wellFormed, .inl rfl⟩
  have htaken {q : String} (hq : segments q <+: segments dest ++ ws)
      (ha : isAbsolute q = isAbsolute dest) {s : String} {X : Location} {b : Bool}
      (hslot : w.disk.slot w.cwd q = .ok ⟨X, some s, b⟩) : w.disk.nodeAt (s :: X) ≠ none := by
    obtain ⟨n, hn⟩ := exists_of_reach_below h.rooted hq ha hslot hr
    simp [hn]
  have hstill : Ends (createParents p) w fun _ v => Along (· = w.disk) w v := by
    refine (createParents_along (I := (· = w.disk)) rfl ?_).mono fun _ _ h => h.1
    rintro q hq hqa - d d' rfl hmake
    obtain ⟨s, X, b, hslot, hnone, -⟩ := makeDirectory_eq_ok hmake
    refine absurd hnone (htaken ?_ (hqa.trans h.absolute) hslot)
    exact h.path ▸ hq.trans (List.dropLast_prefix _)
  refine Ends.bind (hstill.mono fun x v hv => ?_)
  have hm := hv.mono fun d (hd : d = w.disk) => (hd ▸ hw.now : Moved w.disk (· = r.1) d)
  cases x with
  | error x => exact hm
  | ok =>
    refine ends_unpackDirectory (fun X hX => ?_) (fun X s b hslot hnone => ?_) fun _ _ _ => hm
    · rw [hv.now, hv.cwd] at hX
      obtain ⟨j, hj⟩ := h.rooted.reach_of_leads h.path h.absolute hX
      cases hr.symm.trans hj
      have hdir := h.wellFormed.leads h.here hX
      rw [hv.now]
      exact hm.changed ⟨h.wellFormed.setModeAt hdir _, .inr ⟨X, rfl, (Frame.refl _ X).setModeAt _⟩⟩
    · rw [hv.now, hv.cwd] at hslot
      rw [hv.now] at hnone
      exact absurd hnone (htaken (h.path ▸ List.prefix_rfl) h.absolute hslot)

theorem unpackDirectory_new {e : TarEntry} (hno : ∀ r, w.disk.reach k D ws ≠ .ok r) : Ends (do
      createParents p
      unpackDirectory e p) w fun _ v => Along (Moved w.disk (w.disk.Lands k D ws)) w v := by
  let I (d : Disk) : Prop := Paved w.disk k D ws d ∧ ∀ r, d.reach k D ws ≠ .ok r
  have hparents : Ends (createParents p) w fun _ v => Along I w v := by
    refine (createParents_along (I := I) ⟨.refl h.wellFormed k D ws, hno⟩ ?_).mono fun _ _ h => h.1
    rintro q hq hqa - d d' ⟨hd, hdno⟩ hmake
    have ha := hqa.trans h.absolute
    have hpre : segments q <+: segments dest ++ ws := h.path ▸ hq.trans (List.dropLast_prefix _)
    refine ⟨hd.makeDirectory h.current h.parent h.here h.rooted hpre ha hmake, ?_⟩
    obtain ⟨s, X, b, hslot, hnone, rfl⟩ := makeDirectory_eq_ok hmake
    obtain ⟨us, t, j, rfl, hsegs, hX⟩ | ⟨n, hn⟩ :=
      below_of_slot (h.rooted.keeps hd.grows.keeps) hpre ha hslot
    · have ht : t ≠ [] := by
        rintro rfl
        have hlen := hq.length_le
        simp only [h.path, hsegs, List.length_append, List.length_cons, List.length_nil,
          List.length_dropLast] at hlen
        omega
      exact not_reach_below_new hd.wellFormed hX hnone ht h.current h.parent
    · simp [hn] at hnone
  refine Ends.bind (hparents.mono fun x v hv => ?_)
  have hm := hv.mono fun d hd => hd.1.moved
  cases x with
  | error x => exact hm
  | ok =>
    obtain ⟨hpaved, hvno⟩ := hv.now
    have hroot := h.rooted.keeps hpaved.grows.keeps
    refine ends_unpackDirectory (fun X hX => ?_) (fun X s b hslot hnone => ?_) fun _ _ _ => hm
    · rw [hv.cwd] at hX
      obtain ⟨j, hj⟩ := hroot.reach_of_leads h.path h.absolute hX
      exact absurd hj (hvno _)
    · have hready := h.ready (hv.mono fun _ hd => hd.1)
      have hdir := hready.put (n := .directory) hslot hnone (by simp)
      obtain ⟨hl, hf⟩ := hready.slot hslot
      refine (hm.changed hdir).changed ⟨hdir.wellFormed.setModeAt (by simp [nodeAt_put]) _, ?_⟩
      exact .inr ⟨_, hl, (hf.put (by simp [hnone]) .directory).setModeAt _⟩

theorem linkFile_along {existing : String} :
    Ends (linkFile existing p) w fun _ v => Along (Moved w.disk (w.disk.Lands k D ws)) w v := by
  refine Ends.bind ((createParents_paved h).mono ?_)
  rintro (x | a) v hv
  · exact hv.mono fun _ hd => hd.moved
  · have hr := h.ready hv
    have hmoved := hv.mono fun _ hd => hd.moved
    have hlink : ∀ {t}, Along (Moved w.disk (w.disk.Lands k D ws)) w t →
        Ready w.disk t.cwd k D ws p t.disk →
        Ends (Action.step (.hardLink existing p) (change (·.makeHardLink · existing p))) t
          fun _ v => Along (Moved w.disk (w.disk.Lands k D ws)) w v := by
      intro t ht hrt
      refine Ends.step (Runs.change ?_ ?_)
      · exact fun d hd => ht.changed (hrt.makeHardLink hd)
      · exact fun _ _ => ht
    refine Ends.get ?_
    dsimp only
    split
    · refine Ends.bind (Ends.step (Runs.change ?_ ?_))
      · intro d hd
        have hd' := hr.unlink hd
        exact hlink (hmoved.changed hd'.moved) hd'
      · exact fun _ _ => hmoved
    · exact hlink hmoved hr

end

theorem below_of_stripFirst {e : TarEntry} {relative : String} (hwf : w.disk.WellFormed)
    (here : w.disk.nodeAt w.cwd = some .directory) (hroot : w.disk.Rooted w.cwd dest D k)
    (hsafe : EntryPath.isSafe e.name = true) (hs : EntryPath.stripFirst? e.name = some relative) :
    Below w dest D k (join dest relative) (placeOf e) := by
  obtain ⟨ha, hsegs, hne, hup⟩ := EntryPath.stripFirst?_eq_some hsafe hs
  rw [← placeOf] at hsegs
  rw [hsegs] at hne hup
  exact { wellFormed := hwf
          here := here
          rooted := hroot
          path := by rw [segments_join ha, hsegs]
          absolute := isAbsolute_join ha
          ne_nil := hne
          current := current_notMem_placeOf e
          parent := hup }

theorem extractEntry_refused {e : TarEntry} (h : EntryPath.isSafe e.name = false) :
    Ends (extractEntry dest e) w fun _ v => v = w := by
  refine Ends.bind ?_
  rw [requireSafe, h]
  exact Ends.throw rfl

theorem Ends.told {x : Action σ Unit} {Q : Except Failure Bool → World σ → Prop}
    (hx : Ends x w fun r v => Q (r.map fun _ => true) v) : Ends (do
      x
      return true) w Q := by
  refine Ends.bind (hx.mono ?_)
  rintro (e | a) v hv
  · exact hv
  · exact Ends.pure hv

structure Aims (dest : String) (e : TarEntry) (p : String) : Prop where
  safe : EntryPath.isSafe e.name = true
  path : ∃ relative, EntryPath.stripFirst? e.name = some relative ∧ p = join dest relative

theorem ends_extractEntry {e : TarEntry} {Q : Except Failure Bool → World σ → Prop}
    (refused : ∀ x, Q (.error x) w) (bare : EntryPath.isSafe e.name = true →
      EntryPath.stripFirst? e.name = none → Q (.ok false) w)
    (directory : ∀ {p}, Aims dest e p → e.kind = .directory →
      Ends (createDirectories p) w fun r v => Q (r.map fun _ => true) v)
    (hardLink : ∀ {p existing}, Aims dest e p → e.isOldDirectory = false → e.kind = .hardLink →
      Ends (linkFile existing p) w fun r v => Q (r.map fun _ => true) v)
    (older : ∀ {p}, Aims dest e p → e.isOldDirectory = true → Ends (do
        createParents p
        unpackDirectory e p) w fun r v => Q (r.map fun _ => true) v)
    (other : ∀ {p}, Aims dest e p → e.isOldDirectory = false → e.kind ≠ .directory →
      e.kind ≠ .hardLink → Ends (do
        createParents p
        unpack e p) w fun r v => Q (r.map fun _ => true) v) : Ends (extractEntry dest e) w Q := by
  have safely {p : String} {x : Action σ Bool} (h : EntryPath.isSafe p = true → Ends x w Q) :
      Ends (requireSafe p >>= fun _ => x) w Q := by
    rw [requireSafe]
    split
    · exact Ends.bind (Ends.pure (h ‹_›))
    · exact Ends.bind (Ends.throw (refused _))
  refine safely fun hsafe => ?_
  split
  · exact Ends.pure (bare hsafe ‹_›)
  have hp : Aims dest e (join dest _) := ⟨hsafe, _, ‹_›, rfl⟩
  dsimp only
  split
  · exact Ends.told (directory hp ‹_›)
  split
  · split
    · exact Ends.bind (Ends.throw (refused _))
    refine safely fun _ => ?_
    split
    · exact Ends.bind (Ends.throw (refused _))
    · exact Ends.told (hardLink hp (by simp [TarEntry.isOldDirectory, *]) ‹_›)
  · cases hold : e.isOldDirectory with
    | true =>
      have holder := Ends.told (older hp hold)
      rwa [bind_assoc, ← unpack_of_old hold] at holder
    | false =>
      have hother := Ends.told (other hp hold ‹_› ‹_›)
      rwa [bind_assoc] at hother

/-- The place that an entry can change, directories on the way aside: the one where its name lands, or
the one to which the name of an older directory leads already. -/
inductive Touches (d : Disk) (k : Nat) (D : Location) (e : TarEntry) : Location → Prop
  | lands {l : Location} : (e.isOldDirectory = true → ∀ r, d.reach k D (placeOf e) ≠ .ok r) →
      d.Lands k D (placeOf e) l → Touches d k D e l
  | leads {l : Location} {j : Nat} : e.isOldDirectory = true →
      d.reach k D (placeOf e) = .ok (l, j) → Touches d k D e l

theorem Touches.unique {e : TarEntry} {l m : Location} (hup : ".." ∉ placeOf e)
    (h : Touches d k D e l) (h' : Touches d k D e m) : l = m := by
  cases h with
  | lands hno hl =>
    cases h' with
    | lands _ hm => exact hl.unique (current_notMem_placeOf e) hup hm
    | leads hold hr => exact absurd hr (hno hold _)
  | leads hold hr =>
    cases h' with
    | lands hno _ => exact absurd hr (hno hold _)
    | leads _ hr' =>
      cases hr.symm.trans hr'
      rfl

theorem extractEntry_along {e : TarEntry} (hwf : w.disk.WellFormed)
    (here : w.disk.nodeAt w.cwd = some .directory) (hroot : w.disk.Rooted w.cwd dest D k) :
    Ends (extractEntry dest e) w fun _ v => Along (Moved w.disk (Touches w.disk k D e)) w v := by
  have hw : Along (Moved w.disk (Touches w.disk k D e)) w w := .refl ⟨hwf, .inl rfl⟩
  have hbelow {p : String} (hp : Aims dest e p) : Below w dest D k p (placeOf e) := by
    obtain ⟨relative, hs, rfl⟩ := hp.path
    exact below_of_stripFirst hwf here hroot hp.safe hs
  have hlands {v : World σ} (hno : e.isOldDirectory = false)
      (hv : Along (Moved w.disk (w.disk.Lands k D (placeOf e))) w v) :
      Along (Moved w.disk (Touches w.disk k D e)) w v :=
    hv.mono fun _ hd => hd.mono fun _ hl => .lands (by simp [hno]) hl
  refine ends_extractEntry (fun _ => hw) (fun _ _ => hw) (fun hp hdir => ?_)
    (fun hp hold hlink => ?_) (fun hp hold => ?_) (fun hp hold _ _ => ?_)
  · have hold : e.isOldDirectory = false := by simp [TarEntry.isOldDirectory, hdir]
    exact (createDirectories_paved (hbelow hp)).mono fun r v hv =>
      hlands hold (hv.mono fun _ hd => hd.moved)
  · exact (linkFile_along (hbelow hp)).mono fun r v hv => hlands hold hv
  · cases hr : w.disk.reach k D (placeOf e) with
    | ok r =>
      refine (unpackDirectory_there (hbelow hp) hr).mono fun _ v hv => hv.mono fun _ hd => ?_
      refine hd.mono ?_
      rintro l rfl
      exact .leads hold hr
    | error x =>
      refine (unpackDirectory_new (hbelow hp) (by simp [hr])).mono fun _ v hv => ?_
      exact hv.mono fun _ hd => hd.mono fun _ hl => .lands (by simp [hr]) hl
  · refine Ends.bind ((createParents_paved (hbelow hp)).mono fun r v hv => ?_)
    have hm := hv.mono fun _ hd => hd.moved
    cases r with
    | error x => exact hlands hold hm
    | ok =>
      exact (unpack_along hold ((hbelow hp).ready hv)).mono fun r u hu =>
        hlands hold (hm.trans hu)

/-- What a run over entries comes to at the first of them: it is damaged, fails, is cut short, or is
followed by the others. -/
structure Opens (archive dest : String) (broken : Bool) (n : Nat) (e : TarEntry)
    (es : List TarEntry) (w : World σ) (Q : Except Failure Nat → World σ → Prop) : Prop where
  damaged : e.sound = false → Q (.error (.step (.readTarEntry archive) .damaged)) w
  failed : e.sound = true → ∀ {x v}, (extractEntry dest e).run.run w = (.error x, v) →
    Q (.error x) v
  cut : e.sound = true → e.isCut = true → ∀ {b v}, (extractEntry dest e).run.run w = (.ok b, v) →
    Q (.error (.step (.readTarEntry archive) .damaged)) v
  next : e.sound = true → e.isCut = false → ∀ {b v},
    (extractEntry dest e).run.run w = (.ok b, v) →
      Ends (extractEntries archive dest broken (if b then n + 1 else n) es) v Q

theorem ends_cons_iff {archive : String} {broken : Bool} {n : Nat} {e : TarEntry}
    {es : List TarEntry} {Q : Except Failure Nat → World σ → Prop} :
    Ends (extractEntries archive dest broken n (e :: es)) w Q ↔
      Opens archive dest broken n e es w Q := by
  rw [extractEntries]
  constructor
  · refine fun h => ⟨fun hs => ?_, fun hs x v hrun => ?_, fun hs hcut b v hrun => ?_,
      fun hs hcut b v hrun => ?_⟩
    · rw [hs] at h
      exact h
    all_goals
      simp only [hs, Bool.not_true, Bool.false_eq_true, ↓reduceIte, Ends.bind_iff] at h
      have hv := h.of_run hrun
    · exact hv
    · simp only [hcut, ↓reduceIte] at hv
      exact hv
    · simpa only [hcut, Bool.false_eq_true, ↓reduceIte] using hv
  · intro h
    cases hs : e.sound with
    | false => exact Ends.bind (Ends.throw (h.damaged hs))
    | true =>
      refine Ends.bind (Ends.intro fun r v hrun => ?_)
      cases r with
      | error x => exact h.failed hs hrun
      | ok b =>
        dsimp only
        cases hcut : e.isCut with
        | true => exact Ends.bind (Ends.throw (h.cut hs hcut hrun))
        | false => exact h.next hs hcut hrun

end Tarball
end Provision
