import Provision.Probe
import Provision.Proofs.Disk.Growth

namespace Provision

open PathText

variable {σ : Type} {w v : World σ} {d : Disk} {X : Location} {s bin probe : String}
  {files : List String}

namespace Disk

theorem mem_children_iff :
    s ∈ (d.children X).map (·.1) ↔ ∃ n, d.nodeAt (s :: X) = some n := by
  have hkeys : s ∈ (d.children X).map (·.1) ↔ ∃ e ∈ d.nodes, e.1 = s :: X := by
    simp only [children, List.mem_map, List.mem_filterMap]
    constructor
    · rintro ⟨⟨t, n⟩, ⟨⟨l, m⟩, hmem, hl⟩, rfl⟩
      cases l with
      | nil => simp at hl
      | cons u q =>
        obtain ⟨rfl, rfl, rfl⟩ : q = X ∧ u = t ∧ m = n := by simpa using hl
        exact ⟨_, hmem, rfl⟩
    · rintro ⟨⟨l, n⟩, hmem, rfl⟩
      exact ⟨(s, n), ⟨_, hmem, by simp⟩, rfl⟩
  have hnode : d.nodeAt (s :: X) = d.nodes.get? (s :: X) := rfl
  rw [hkeys, hnode, Table.get?]
  simp only [Option.map_eq_some_iff]
  constructor
  · rintro ⟨e, hmem, he⟩
    obtain ⟨e', he'⟩ : ∃ e', d.nodes.find? (fun p => decide (p.1 = s :: X)) = some e' :=
      Option.isSome_iff_exists.1 (List.find?_isSome.2 ⟨e, hmem, by simpa using he⟩)
    exact ⟨e'.2, e', he', rfl⟩
  · rintro ⟨n, e, he, -⟩
    exact ⟨e, List.mem_of_find?_eq_some he, by simpa using List.find?_some he⟩

theorem list_eq_ok_iff {cwd : Location} {p : String} {names : List String} :
    d.list cwd p = .ok names ↔
      ∃ X, d.locate cwd true p = .ok ⟨X, some .directory⟩ ∧ names = (d.children X).map (·.1) := by
  simp only [list, bind, Except.bind]
  cases d.locate cwd true p with
  | error e => simp
  | ok spot =>
    obtain ⟨l, n⟩ := spot
    cases n with
    | none => simp
    | some n => cases n <;> simp [eq_comm]

end Disk

namespace Probe

theorem choose?_eq_some (h : choose? files = some s) :
    s ∈ files ∧ name.toList.isPrefixOf s.toList = true := by
  have hmem : s ∈ (files.filter fun f => name.toList.isPrefixOf f.toList).mergeSort (· ≤ ·) := by
    simp only [choose?, Option.or_eq_some_iff] at h
    obtain h | ⟨-, h⟩ := h
    · exact List.mem_of_find?_eq_some h
    · exact List.mem_of_head? h
  simpa using hmem

theorem exists_choose? (hs : s ∈ files) (hname : name.toList.isPrefixOf s.toList = true) :
    ∃ t, choose? files = some t := by
  have hmem : s ∈ (files.filter fun f => name.toList.isPrefixOf f.toList).mergeSort (· ≤ ·) :=
    List.mem_mergeSort.2 (List.mem_filter.2 ⟨hs, hname⟩)
  simp only [choose?]
  obtain ⟨t, ht⟩ := Option.isSome_iff_exists.1 (List.isSome_head?.2 (List.ne_nil_of_mem hmem))
  rw [ht]
  cases List.find? isExact _ with
  | none => exact ⟨t, rfl⟩
  | some u => exact ⟨u, rfl⟩

theorem find_eq_ok_iff : (∃ probe, find bin w = .ok probe) ↔
    ∃ X n m, w.disk.locate w.cwd true bin = .ok ⟨X, some .directory⟩ ∧
      w.disk.nodeAt (n :: X) = some m ∧ name.toList.isPrefixOf n.toList = true ∧
      w.isFile (join bin n) = true := by
  constructor
  · rintro ⟨probe, h⟩
    simp only [find] at h
    split at h
    · cases h
    · rename_i names hlist
      obtain ⟨X, hX, rfl⟩ := Disk.list_eq_ok_iff.1 hlist
      split at h
      · rename_i n hn
        obtain ⟨hmem, hname⟩ := choose?_eq_some hn
        rw [List.mem_filter] at hmem
        obtain ⟨m, hm⟩ := Disk.mem_children_iff.1 hmem.1
        exact ⟨X, n, m, hX, hm, hname, hmem.2⟩
      · cases h
  · rintro ⟨X, n, m, hX, hm, hname, hfile⟩
    have hlist := Disk.list_eq_ok_iff.2 ⟨X, hX, rfl⟩
    have hmem : n ∈ ((w.disk.children X).map (·.1)).filter fun n => w.isFile (join bin n) :=
      List.mem_filter.2 ⟨Disk.mem_children_iff.2 ⟨m, hm⟩, hfile⟩
    obtain ⟨t, ht⟩ := exists_choose? hmem hname
    exact ⟨join bin t, by simp only [find, hlist, ht]⟩

theorem find_eq_error {f : Failure} (h : find bin w = .error f) : f = .probeNotFound bin := by
  simp only [find] at h
  split at h
  · exact (Except.error.inj h).symm
  · split at h
    · cases h
    · exact (Except.error.inj h).symm

theorem find_grows (h : find bin w = .ok probe) (hc : v.cwd = w.cwd)
    (hg : Disk.Grows w.disk v.disk) : ∃ probe', find bin v = .ok probe' := by
  obtain ⟨X, n, m, hX, hn, hname, hfile⟩ := find_eq_ok_iff.1 ⟨probe, h⟩
  refine find_eq_ok_iff.2 ⟨X, n, m, ?_, hg _ _ hn, hname, ?_⟩
  · rw [hc]
    exact hg.locate hX
  · rw [World.isFile, hc]
    exact hg.isFile hfile

theorem isDir_of_find (h : find bin w = .ok probe) : w.isDir bin = true := by
  obtain ⟨X, n, m, hX, -⟩ := find_eq_ok_iff.1 ⟨probe, h⟩
  exact Disk.isDir_iff.2 ⟨X, Disk.locate_eq_directory_iff.1 hX⟩

end Probe
end Provision
