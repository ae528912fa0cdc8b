import Provision.Proofs.Disk.Pave
import Provision.Proofs.World.Directories

namespace Provision

variable {σ : Type} {w v u : World σ} {d e : Disk}

structure World.Into (w : World σ) (d : Disk) (v : World σ) : Prop where
  disk : v.disk = d
  cwd : v.cwd = w.cwd

theorem World.Into.trans (h : World.Into w d v) (h' : World.Into v e u) : World.Into w e u :=
  ⟨h'.disk, h'.cwd.trans h.cwd⟩

namespace Disk

open PathText

variable {base p q s : String} {us ws : List String}

structure Extends (base p : String) (ws : List String) : Prop where
  path : segments p = segments base ++ ws
  absolute : isAbsolute p = isAbsolute base
  named : ws ≠ [] → EndsInName p
  usable : p ≠ "" → Usable p

theorem Extends.parent (h : Extends base p (us ++ [s])) (hq : parent? p = some q) :
    Extends base q us := by
  obtain ⟨⟨t, rfl⟩, ha, hs⟩ := parent?_eq_some hq
  have hpath : segments q = segments base ++ us := by
    rw [hs, h.path, ← List.append_assoc, List.dropLast_concat]
  refine ⟨hpath, ha.trans h.absolute, fun hne => endsInName_parent hq (by simp [hpath, hne]), ?_⟩
  intro hne
  exact (h.usable (by simp [hne])).cut hne

theorem Extends.exists_parent (h : Extends base p (us ++ [s])) : ∃ q, parent? p = some q := by
  cases hq : parent? p with
  | some q => exact ⟨q, rfl⟩
  | none => simpa [segments_of_parent_none hq] using h.path

theorem Extends.ne_empty (h : Extends base p (us ++ [s])) : p ≠ "" := by
  rintro rfl
  simpa using h.path

theorem Extends.length_lt (h : Extends base p ws) : ws.length < p.length + 1 := by
  have hle := length_segments_le p
  rw [h.path, List.length_append] at hle
  omega

/-- A directory from which names can be gone down: nothing but directories is in the way, and those
that are missing can be made. -/
structure Way (d : Disk) (cwd : Location) (base : String) (D : Location) (k : Nat)
    (ws : List String) : Prop where
  rooted : d.Rooted cwd base D k
  directory : d.nodeAt D = some .directory
  clear : d.Clear D ws
  names : ∀ s ∈ ws, IsName s
  writable : ∀ us s, us ++ [s] <+: ws → d.nodeAt (s :: (us.reverse ++ D)) = none →
    d.mayWrite (us.reverse ++ D) = true

namespace Way

variable {cwd D : Location} {k : Nat} (h : d.Way cwd base D k ws)
include h

theorem of_prefix (hu : us <+: ws) : d.Way cwd base D k us :=
  ⟨h.rooted, h.directory, h.clear.of_prefix hu, fun t ht => h.names t (hu.subset ht),
    fun vs s hvs => h.writable vs s (hvs.trans hu)⟩

theorem pave (vs : List String) : (d.pave D vs).Way cwd base D k ws where
  rooted := h.rooted.keeps (grows_pave d D vs).keeps
  directory := grows_pave d D vs _ _ h.directory
  clear := h.clear.pave vs
  names := h.names
  writable us s hus hnone := by
    rw [mayWrite_pave]
    refine h.writable us s hus ?_
    cases hn : d.nodeAt (s :: (us.reverse ++ D)) with
    | none => rfl
    | some n => simp [grows_pave d D vs _ _ hn] at hnone

theorem reach : (d.pave D ws).reach k D ws = .ok (ws.reverse ++ D, k) :=
  reach_pave h.names k h.directory h.clear

theorem rooted_pave (hp : Extends base p ws) :
    (d.pave D ws).Rooted cwd p (ws.reverse ++ D) k := by
  have ho : origin cwd p = origin cwd base := by rw [origin, origin, hp.absolute]
  rw [Rooted, hp.path, ho, reach_append, (h.pave ws).rooted]
  exact h.reach

end Way

theorem Way.slot {cwd D : Location} {k : Nat} (h : d.Way cwd base D k (us ++ [s]))
    (hp : Extends base p (us ++ [s])) : d.slot cwd p =
      (d.reach k D us).map fun (Y, _) => ⟨Y, some s, endsWithSlash p⟩ :=
  slot_of_rooted h.rooted (hp.usable hp.ne_empty) (hp.named (by simp)) hp.path hp.absolute
    (h.names s (by simp))

theorem Way.slot_pave {cwd D : Location} {k : Nat} (h : d.Way cwd base D k (us ++ [s]))
    (hp : Extends base p (us ++ [s])) :
    (d.pave D us).slot cwd p = .ok ⟨us.reverse ++ D, some s, endsWithSlash p⟩ := by
  rw [(h.pave us).slot hp, (h.of_prefix (List.prefix_append us [s])).reach]
  rfl

end Disk

namespace Action

open Disk PathText World

variable {base p s : String} {D : Location} {k n : Nat} {us ws : List String}

theorem isDir_of_extends (hroot : w.disk.Rooted w.cwd base D k) (h : Extends base p []) :
    p = "" ∨ w.isDir p = true := by
  by_cases hp : p = ""
  · exact .inl hp
  · have ho : origin w.cwd p = origin w.cwd base := by rw [origin, origin, h.absolute]
    refine .inr (isDir_iff.2 ⟨D, h.usable hp, k, ?_⟩)
    rw [h.path, List.append_nil, ho, hroot]

theorem makeDirectory_of_slot {b : Bool} (hslot : d.slot w.cwd p = .ok ⟨D, some s, b⟩)
    (hs : d.nodeAt (s :: D) = none ∨ d.nodeAt (s :: D) = some .directory)
    (hmay : d.nodeAt (s :: D) = none → d.mayWrite D = true) :
    d.makeDirectory w.cwd p = .ok (d.ensure (s :: D)) ∨
      d.makeDirectory w.cwd p = .error .alreadyExists ∧ d.ensure (s :: D) = d ∧
        d.isDir w.cwd p = true := by
  obtain hn | hn := hs
  · exact .inl (by simp [makeDirectory, hslot, hn, hmay hn, bind, Except.bind, Disk.ensure])
  · have hdir := isDir_iff.2 ⟨s :: D, (slot_eq_some_iff.1 hslot).1, reach_of_slot hslot (.refl d) hn⟩
    exact .inr ⟨makeDirectory_of_isDir hdir, ensure_of_some hn, hdir⟩

theorem make_ensure {b : Bool} (hslot : w.disk.slot w.cwd p = .ok ⟨D, some s, b⟩)
    (hs : w.disk.nodeAt (s :: D) = none ∨ w.disk.nodeAt (s :: D) = some .directory)
    (hmay : w.disk.nodeAt (s :: D) = none → w.disk.mayWrite D = true) :
    Runs (makeFirst.make p) w fun r v => r = .ok () ∧ Into w (w.disk.ensure (s :: D)) v := by
  refine Runs.bind (Runs.change ?_ ?_)
  · intro d hd
    obtain hok | ⟨herr, -⟩ := makeDirectory_of_slot hslot hs hmay
    · cases hok.symm.trans hd
      exact Runs.pure ⟨rfl, rfl, rfl⟩
    · cases herr.symm.trans hd
  · intro e he
    obtain hok | ⟨-, hsame, hdir⟩ := makeDirectory_of_slot hslot hs hmay
    · cases hok.symm.trans he
    · refine Runs.get ?_
      rw [if_pos (by exact hdir), hsame]
      exact Runs.pure ⟨rfl, rfl, rfl⟩

theorem makeFirst_pave (h : w.disk.Way w.cwd base D k ws) (hp : Extends base p ws)
    (hlen : ws.length < n) :
    Runs (makeFirst (lineage n p)) w fun r v => r = .ok () ∧ Into w (w.disk.pave D ws) v := by
  -- From the innermost directory outwards, as the lineage of a path is listed.
  induction ws using List.reverseRecOn generalizing p n with
  | nil =>
    obtain ⟨n, rfl⟩ := Nat.exists_eq_add_of_lt hlen
    rw [lineage]
    refine (makeFirst_of_isDir (isDir_of_extends h.rooted hp)).mono ?_
    rintro r v ⟨rfl, rfl⟩
    exact ⟨rfl, rfl, rfl⟩
  | append_singleton us s ih =>
    obtain ⟨n, rfl⟩ := Nat.exists_eq_add_of_lt hlen
    obtain ⟨q, hq⟩ := hp.exists_parent
    have hus := h.of_prefix (List.prefix_append us [s])
    have hpave : w.disk.pave D (us ++ [s]) = (w.disk.pave D us).ensure (s :: (us.reverse ++ D)) := by
      rw [pave_append]
      rfl
    have hslot := h.slot hp
    have hqlen : us.length < (us ++ [s]).length + n := by simp; omega
    rw [lineage, hq]
    refine makeFirst_cons (fun hempty => absurd hempty hp.ne_empty) (fun _ hfound => ?_)
      (fun _ _ hnil => ?_) (fun _ hfail _ => ?_)
    · obtain ⟨hreach, hsame⟩ | hmissing := reach_clear hus.names k hus.clear
      · rw [hreach] at hslot
        rw [hpave, hsame]
        exact make_ensure hslot h.clear.last (h.writable us s List.prefix_rfl)
      · rw [hmissing] at hslot
        exact absurd (by rw [Disk.makeDirectory, hslot]; rfl) hfound
    · have hline : lineage ((us ++ [s]).length + n) q ≠ [] := by
        rw [List.length_append, List.length_singleton, Nat.add_right_comm]
        simp [lineage]
      exact absurd hnil hline
    · refine (ih hus (hp.parent hq) hqlen).mono ?_
      rintro r v ⟨rfl, hv⟩
      have hslot' := h.slot_pave hp
      rw [← hv.cwd, ← hv.disk] at hslot'
      refine (make_ensure hslot' ?_ ?_).mono ?_
      · rw [hv.disk]
        exact (h.pave us).clear.last
      · rw [hv.disk]
        exact (h.pave us).writable us s List.prefix_rfl
      · rintro r u ⟨rfl, hu⟩
        exact ⟨rfl, hpave ▸ hv.trans (hv.disk ▸ hu)⟩

theorem createDirectories_pave (h : w.disk.Way w.cwd base D k ws) (hp : Extends base p ws) :
    Ends (createDirectories p) w fun r v => r = .ok () ∧ Into w (w.disk.pave D ws) v := by
  refine Ends.step ((makeFirst_pave h hp hp.length_lt).mono ?_)
  rintro r v ⟨rfl, hv⟩
  exact ⟨rfl, hv⟩

theorem createParents_pave (h : w.disk.Way w.cwd base D k us) (hp : Extends base p (us ++ [s])) :
    Ends (createParents p) w fun r v => r = .ok () ∧ Into w (w.disk.pave D us) v := by
  obtain ⟨q, hq⟩ := hp.exists_parent
  simp only [createParents, hq]
  exact createDirectories_pave h (hp.parent hq)

theorem prepared_pave (h : w.disk.Way w.cwd base D k ws) (hp : Extends base p ws) :
    (w.prepared p).disk = w.disk.pave D ws ∧ (w.prepared p).cwd = w.cwd :=
  ⟨(createDirectories_pave h hp).2.disk, (createDirectories_pave h hp).2.cwd⟩

end Action
end Provision
