import Provision.Download
import Provision.Proofs.Table
import Provision.Proofs.Disk.Landing

namespace Provision

namespace Disk

open PathText Download

variable {P d d' : Disk} {cwd l X T : Location} {dest p s t : String} {f b : Bool} {id : FileId}
  {body c : Bytes}

theorem ne_append_ending (s : String) : s ≠ s ++ ".tmp" := by
  intro h
  have hlen := congrArg String.length h
  have hending : ".tmp".length = 4 := by decide
  rw [String.length_append, hending] at hlen
  omega

theorem append_tmp_ne {u : String} (hu : u.length < 4) (s : String) : s ++ ".tmp" ≠ u := by
  rintro rfl
  have hending : ".tmp".length = 4 := by decide
  rw [String.length_append, hending] at hu
  omega

/-- The temporary file has the destination's name with an ending; a destination without a name gets
it inside. -/
theorem names_tempPath (dest : String) :
    names (tempPath dest) = names dest ++ [".tmp"] ∧ (dest = "" ∨ endsWithSlash dest = true) ∨
      ∃ ws s, names dest = ws ++ [s] ∧ names (tempPath dest) = ws ++ [s ++ ".tmp"] ∧
        dest ≠ "" ∧ endsWithSlash dest = false := by
  obtain ⟨ws, w, hw, hwt⟩ := Text.split_append_plain dest (t := ".tmp") (by decide)
  have hne : w ++ ".tmp" ≠ "" := by simp
  simp only [names, tempPath, hw, hwt]
  by_cases hempty : w = ""
  · subst hempty
    exact .inl ⟨by simp, eq_of_last_empty hw⟩
  · refine .inr ⟨ws.filter (· ≠ ""), w, by simp [hempty], by simp [hne], ?_, ?_⟩
    · rintro rfl
      have hlast := congrArg List.getLast? hw
      rw [List.getLast?_concat] at hlast
      exact hempty (by simpa [Text.split, Text.splitChars] using hlast.symm)
    · cases hs : endsWithSlash dest with
      | false => rfl
      | true =>
        obtain ⟨vs, hvs⟩ := last_of_endsWithSlash hs
        exact absurd (List.append_inj' (hw.symm.trans hvs) rfl).2 (by simpa using hempty)

theorem segments_tempPath (dest : String) : ∃ ws t, segments (tempPath dest) = ws ++ [t] ∧
    (segments dest).dropLast <+: ws ∧ ws <+: segments dest ∧ t ≠ ".." := by
  simp only [← filter_names]
  obtain ⟨hnames, -⟩ | ⟨ws, s, hd, ht, -⟩ := names_tempPath dest
  · refine ⟨(names dest).filter (· ≠ "."), ".tmp", ?_, List.dropLast_prefix _, List.prefix_rfl,
      by decide⟩
    rw [hnames, List.filter_append]
    rfl
  · refine ⟨ws.filter (· ≠ "."), s ++ ".tmp", ?_, ?_, ?_, append_tmp_ne (by decide) s⟩
    · simp [ht, append_tmp_ne (u := ".") (by decide) s]
    · by_cases hs : s = "."
      · simp [hd, hs, List.dropLast_prefix]
      · simp [hd, hs]
    · rw [hd, List.filter_append]
      exact List.prefix_append _ _

theorem isAbsolute_tempPath (h : dest ≠ "") : isAbsolute (tempPath dest) = isAbsolute dest :=
  isAbsolute_append ".tmp" h

theorem endsWithSlash_tempPath (dest : String) : endsWithSlash (tempPath dest) = false := by
  simp [endsWithSlash, tempPath, List.getLast?_append]

theorem origin_tempPath (cwd : Location) (h : dest ≠ "") :
    origin cwd (tempPath dest) = origin cwd dest := by
  rw [origin, origin, isAbsolute_tempPath h]

theorem slot_tempPath {sl : Slot} (h : d.slot cwd (tempPath dest) = .ok sl) :
    ∃ X t, sl = ⟨X, some t, false⟩ ∧ (dest = "" ∨
      (∃ l, d.locate cwd false dest = .ok ⟨l, some .directory⟩) ∨
        ∃ s, t = s ++ ".tmp" ∧ d.slot cwd dest = .ok ⟨X, some s, false⟩) := by
  have husable : dest ≠ "" → Usable dest := (usable_of_slot h).cut
  obtain ⟨hnames, hdest⟩ | ⟨ws, s, hd, ht, hne, hslash⟩ := names_tempPath dest
  · obtain ⟨X, k, hr, -, rfl⟩ := exists_slot hnames (by decide) (by decide) h
    refine ⟨X, ".tmp", by rw [endsWithSlash_tempPath], ?_⟩
    by_cases hempty : dest = ""
    · exact .inl hempty
    · rw [origin_tempPath cwd hempty] at hr
      have hsteps : steps dest = names dest ++ ["."] := by
        rw [steps_eq, hdest.resolve_left hempty, if_pos rfl]
      exact .inr (.inl (locate_of_idle (husable hempty) hsteps (.inl rfl) hr))
  · obtain ⟨X, k, hr, hlen, rfl⟩ :=
      exists_slot ht (append_tmp_ne (by decide) s) (append_tmp_ne (by decide) s) h
    rw [origin_tempPath cwd hne] at hr
    refine ⟨X, s ++ ".tmp", by rw [endsWithSlash_tempPath], .inr ?_⟩
    by_cases hs : s = "." ∨ s = ".."
    · have hsteps : steps dest = ws ++ [s] := by simp [steps_eq, hslash, hd]
      exact .inl (locate_of_idle (husable hne) hsteps hs hr)
    · simp only [not_or] at hs
      have hshort : s.utf8ByteSize ≤ maxName := by
        simp only [String.utf8ByteSize_append] at hlen
        omega
      exact .inr ⟨s, rfl, slot_eq_some_iff.2
        ⟨husable hne, hs.1, hs.2, hshort, hslash.symm, ws, hd, k, hr⟩⟩

theorem isDir_of_slot_tempPath {q : String} {sl : Slot} (h : d.slot cwd (tempPath dest) = .ok sl)
    (hq : parent? dest = some q) : q = "" ∨ d.isDir cwd q = true := by
  by_cases hne : q = ""
  · exact .inl hne
  right
  obtain ⟨⟨u, rfl⟩, habs, hsegs⟩ := parent?_eq_some hq
  have hdest : q ++ u ≠ "" := by simp [hne]
  have husable : Usable q := by
    have hu := usable_of_slot h
    rw [tempPath, String.append_assoc] at hu
    exact hu.cut hne
  obtain ⟨X, t, rfl, -⟩ := slot_tempPath h
  obtain ⟨-, -, -, ws, hws, k, hk⟩ := slot_segments h
  obtain ⟨vs, hvs⟩ : segments q <+: ws := by
    obtain ⟨us, t', ht, hus, -⟩ := segments_tempPath (q ++ u)
    obtain ⟨rfl, -⟩ := List.append_inj' (hws.symm.trans ht) rfl
    exact hsegs ▸ hus
  rw [origin_tempPath cwd hdest, origin, ← habs, ← hvs, reach_append] at hk
  cases hr : d.reach maxLinks (origin cwd q) (segments q) with
  | error e => simp [← origin.eq_1, hr, bind, Except.bind] at hk
  | ok r => exact isDir_iff.2 ⟨r.1, husable, r.2, hr⟩

theorem mem_namesOf : l ∈ d.namesOf id ↔ d.nodeAt l = some (.file id) := by
  simp only [namesOf, List.mem_eraseDups, List.mem_filter, decide_eq_true_eq, and_iff_right_iff_imp]
  intro hl
  cases l with
  | nil => cases hl
  | cons s X => exact Table.mem_keys_of_get? hl

theorem linkCount_eq_one_iff (hl : d.nodeAt l = some (.file id)) :
    d.linkCount id = 1 ↔ ∀ m, d.nodeAt m = some (.file id) → m = l := by
  simp only [linkCount, List.length_eq_one_iff, ← mem_namesOf]
  rw [← mem_namesOf] at hl
  constructor
  · rintro ⟨m, hm⟩
    simp_all
  · intro honly
    have hall := List.eq_replicate_of_mem honly
    have hnodup : (d.namesOf id).Nodup := Table.nodup_eraseDups _
    rw [hall, List.nodup_replicate] at hnodup
    have hpos := List.length_pos_of_mem hl
    exact ⟨l, by rw [hall, show (d.namesOf id).length = 1 by omega]; rfl⟩

def Alone (d : Disk) (l : Location) : Prop :=
  ∀ n, d.nodeAt l = some n → ∃ id, n = .file id ∧ ∀ m, d.nodeAt m = some (.file id) → m = l

/-- Nothing has changed but for a file that has no other name, and that is not made where the
directory may not be written. -/
structure Staged (P : Disk) (T : Location) (d : Disk) : Prop where
  wellFormed : d.WellFormed
  same : ∀ m, m ≠ T → Same P d m
  alone : d.Alone T
  made : P.nodeAt T = none → P.mayWrite T.tail = false → d.nodeAt T = none

def Filled (d : Disk) (l : Location) (id : FileId) (body : Bytes) : Prop :=
  d.nodeAt l = some (.file id) ∧ ∃ g, d.files.get? id = some g ∧ g.content = .data body

theorem Alone.not_directory (h : d.Alone T) : d.nodeAt T ≠ some .directory := by
  intro hn
  obtain ⟨id, hid, -⟩ := h _ hn
  cases hid

theorem Alone.not_symlink (h : d.Alone T) (t : String) : d.nodeAt T ≠ some (.symlink t) := by
  intro hn
  obtain ⟨id, hid, -⟩ := h _ hn
  cases hid

theorem Alone.only (h : d.Alone T) (hT : d.nodeAt T = some (.file id)) {m : Location}
    (hm : d.nodeAt m = some (.file id)) : m = T := by
  obtain ⟨j, hj, honly⟩ := h _ hT
  obtain rfl : id = j := by injection hj
  exact honly m hm

namespace Staged

theorem refl (hwf : P.WellFormed) (h : P.Alone T) : Staged P T P :=
  ⟨hwf, fun m _ => .refl P m, h, fun hn _ => hn⟩

theorem keeps (h : Staged P T d) (hP : P.Alone T) : Keeps P d := by
  intro l n hn hl
  by_cases hT : l = T
  · subst hT
    obtain ⟨id, rfl, -⟩ := hP _ hl
    exact absurd rfl (hn id)
  · rw [(h.same l hT).1, hl]

theorem step (h : Staged P T d) (hwf : d'.WellFormed) (hs : ∀ m, m ≠ T → Same d d' m)
    (ha : d'.Alone T) (hmade : P.mayWrite T.tail = false → d.nodeAt T = none → d'.nodeAt T = none) :
    Staged P T d' :=
  ⟨hwf, fun m hm => (h.same m hm).trans (hs m hm), ha, fun hn hmay => hmade hmay (h.made hn hmay)⟩

theorem mayWrite (h : Staged P (t :: X) d) : d.mayWrite X = P.mayWrite X :=
  mayWrite_congr (h.same X (by simp)).mode

theorem setFile (h : Staged P T d) (hT : d.nodeAt T = some (.file id)) (g : FileData) :
    Staged P T (d.setFile id g) :=
  h.step (h.wellFormed.setFile (h.wellFormed.known hT))
    (fun _ hm => same_setFile (fun _ => h.alone.only hT) hm g) h.alone fun _ hn => hn

theorem openForWriting (h : Staged P (t :: X) d) (hX : d.nodeAt X = some .directory)
    (hslot : d.slot cwd p = .ok ⟨X, some t, false⟩)
    (ho : d.openForWriting cwd p = .ok (d', id)) :
    Staged P (t :: X) d' ∧ Filled d' (t :: X) id [] := by
  have hloc := locate_of_slot_plain (f := true) hslot h.alone.not_symlink
  obtain ⟨l, hl, hmay, rfl, rfl⟩ | ⟨l, g, hl, hg, -, rfl⟩ := openForWriting_eq_ok ho
  · obtain ⟨rfl, hn⟩ : t :: X = l ∧ d.nodeAt (t :: X) = none := by simpa using hloc.symm.trans hl
    refine ⟨h.step (h.wellFormed.addFile hX h.alone.not_directory)
      (fun _ hm => same_addFile h.wellFormed hm _) ?_ ?_, by simp [nodeAt_addFile], _,
      by rw [get?_addFile, if_pos rfl], rfl⟩
    rotate_left
    · intro hnot _
      rw [List.tail_cons, ← h.mayWrite] at hnot
      exact absurd (hmay.symm.trans hnot) (by simp)
    intro n hn'
    refine ⟨d.next, by simpa [nodeAt_addFile] using hn'.symm, fun m hm => ?_⟩
    by_cases he : t :: X = m
    · exact he.symm
    · rw [nodeAt_addFile, if_neg he] at hm
      exact absurd (h.wellFormed.lt_next hm) (Nat.lt_irrefl _)
  · obtain ⟨rfl, hn⟩ : t :: X = l ∧ d.nodeAt (t :: X) = some (.file id) := by
      simpa using hloc.symm.trans hl
    exact ⟨h.setFile hn _, hn, _, by rw [get?_setFile, if_pos rfl], rfl⟩

theorem appendData (h : Staged P T d) (hf : Filled d T id body) (c : Bytes) :
    Staged P T (d.appendData id c) ∧ Filled (d.appendData id c) T id (body ++ c) := by
  obtain ⟨hT, g, hg, hbody⟩ := hf
  simp only [Disk.appendData, hg]
  exact ⟨h.setFile hT _, hT, _, by rw [get?_setFile, if_pos rfl], by simp [hbody, Content.bytes]⟩

theorem unlink (h : Staged P (t :: X) d) (hslot : d.slot cwd p = .ok ⟨X, some t, false⟩) :
    (∀ d', d.unlink cwd p = .ok d' → Staged P (t :: X) d' ∧ d'.nodeAt (t :: X) = none) ∧
      ∀ e, d.unlink cwd p = .error e → d.nodeAt (t :: X) = none ∨
        P.nodeAt (t :: X) ≠ none ∧ P.mayWrite X = false := by
  constructor
  · intro d' hd
    obtain ⟨s, Y, n, hs, hn, hdir, rfl⟩ := unlink_eq_ok hd
    obtain ⟨rfl, rfl⟩ : X = Y ∧ t = s := by simpa using hslot.symm.trans hs
    have hnone : (d.remove (t :: X)).nodeAt (t :: X) = none := by simp [nodeAt_remove]
    refine ⟨h.step (h.wellFormed.remove h.alone.not_directory) (fun _ hm => same_remove hm) ?_
      (fun _ _ => hnone), hnone⟩
    intro n hn
    simp [hnone] at hn
  · intro e he
    cases hn : d.nodeAt (t :: X) with
    | none => exact .inl rfl
    | some n =>
      right
      have hmay : P.mayWrite X = false := by
        obtain ⟨id, rfl, -⟩ := h.alone n hn
        rw [← h.mayWrite]
        refine Bool.eq_false_iff.2 fun hmay => ?_
        simp [unlink_of_slot hslot hn (by simp) hmay] at he
      exact ⟨fun hP => by simp [h.made hP hmay] at hn, hmay⟩

theorem moveName {s : String} (h : Staged P (t :: X) d) (hf : Filled d (t :: X) id body)
    (hslot : d.slot cwd p = .ok ⟨X, some t, false⟩)
    (hdest : d.slot cwd dest = .ok ⟨X, some s, false⟩) (hne : s ≠ t)
    (hold : ∀ n, d.nodeAt (s :: X) = some n → ∃ j, n = .file j)
    (hmove : d.moveName cwd p dest = .ok d') :
    d'.nodeAt (t :: X) = none ∧ Filled d' (s :: X) id body ∧ Keeps d d' := by
  obtain ⟨hT, g, hg, hbody⟩ := hf
  have hlt : ¬ s :: X = t :: X := by simp [hne]
  obtain ⟨t', X', s', Y', n, hp, hq, hn, -, -, hmoved⟩ := moveName_eq_ok hmove
  obtain ⟨rfl, rfl⟩ : X = X' ∧ t = t' := by simpa using hslot.symm.trans hp
  obtain ⟨rfl, rfl⟩ : X = Y' ∧ s = s' := by simpa using hdest.symm.trans hq
  obtain rfl : Node.file id = n := Option.some.inj (hT.symm.trans hn)
  obtain ⟨-, hs⟩ | ⟨-, -, rfl⟩ := hmoved
  · exact absurd (h.alone.only hT hs) hlt
  refine ⟨?_, ⟨?_, g, hg, hbody⟩, ?_⟩
  · rw [nodeAt_put, if_neg hlt, nodeAt_remove, if_pos rfl]
  · rw [nodeAt_put, if_pos rfl]
  · intro l n hn hl
    have hs : ¬ s :: X = l := by
      rintro rfl
      obtain ⟨j, rfl⟩ := hold n hl
      exact hn j rfl
    have ht : ¬ t :: X = l := by
      rintro rfl
      obtain ⟨j, rfl, -⟩ := h.alone n hl
      exact hn j rfl
    rw [nodeAt_put, if_neg hs, nodeAt_remove, if_neg ht, hl]

end Staged
end Disk
end Provision
