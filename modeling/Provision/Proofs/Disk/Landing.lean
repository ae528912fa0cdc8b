import Provision.Proofs.Disk.Join

/-!
Where a new name lands, and what a change leaves as it was. Missing directories are made by name, so
a path lands below the last directory that it leads to, wherever symbolic links have led it.
-/

namespace Provision.Disk

open PathText

variable {d d' e : Disk} {k j : Nat} {cwd X Y D l m : Location} {p q s dest : String} {n : Node}
  {f : FileData} {id : FileId} {us ws r : List String} {b : Bool}

/-- Where segments would name something if the directories that are missing were made. -/
def Lands (d : Disk) (k : Nat) (X : Location) (ws : List String) (l : Location) : Prop :=
  ∃ us s r Y j, ws = us ++ s :: r ∧ d.reach k X us = .ok (Y, j) ∧ l = r.reverse ++ s :: Y ∧
    (r = [] ∨ d.nodeAt (s :: Y) = none)

theorem exists_of_reach_cons {t : Location × Nat} (hc : s ≠ ".") (hu : s ≠ "..")
    (h : d.reach k X (s :: r) = .ok t) : ∃ n, d.nodeAt (s :: X) = some n := by
  rw [reach_name d k X r hc hu] at h
  split at h
  · cases h
  · cases hn : d.nodeAt (s :: X) with
    | none => simp [hn] at h
    | some n => exact ⟨n, rfl⟩

theorem reach_append_of_ok {t : Location × Nat} (h : d.reach k X us = .ok (Y, j))
    (ht : d.reach k X (us ++ ws) = .ok t) : d.reach j Y ws = .ok t := by
  rw [reach_append, h] at ht
  exact ht

theorem nil_of_reach {t : Location × Nat} (hc : s ≠ ".") (hu : s ≠ "..")
    (hY : d.reach k X us = .ok (Y, j)) (hr : r = [] ∨ d.nodeAt (s :: Y) = none)
    (ht : d.reach k X (us ++ s :: ws) = .ok t) : r = [] := by
  obtain ⟨n, hn⟩ := exists_of_reach_cons hc hu (reach_append_of_ok hY ht)
  exact hr.resolve_right (by simp [hn])

theorem Lands.unique (hc : "." ∉ ws) (hu : ".." ∉ ws) (h : d.Lands k X ws l)
    (h' : d.Lands k X ws m) : l = m := by
  have hne : ∀ {us s r}, ws = us ++ s :: r → s ≠ "." ∧ s ≠ ".." := by
    rintro us s r rfl
    constructor
    · rintro rfl
      simp at hc
    · rintro rfl
      simp at hu
  obtain ⟨us, s, r, Y, j, hws, hY, rfl, hr⟩ := h
  obtain ⟨vs, t, q, Z, i, hws', hZ, rfl, hq⟩ := h'
  -- One of the two parts that are walked starts the other; it is no shorter.
  obtain ⟨as, has, hrest⟩ | ⟨as, has, hrest⟩ := List.append_eq_append_iff.1 (hws.symm.trans hws')
  · cases as with
    | nil =>
      obtain rfl : us = vs := by simpa using has.symm
      obtain ⟨rfl, rfl⟩ : s = t ∧ r = q := by simpa using hrest
      cases hY.symm.trans hZ
      rfl
    | cons a as =>
      obtain ⟨rfl, htail⟩ := List.cons.inj hrest
      have hnil := nil_of_reach (hne hws).1 (hne hws).2 hY hr (has ▸ hZ)
      simp [hnil] at htail
  · cases as with
    | nil =>
      obtain rfl : us = vs := by simpa using has
      obtain ⟨rfl, rfl⟩ : t = s ∧ q = r := by simpa using hrest
      cases hY.symm.trans hZ
      rfl
    | cons a as =>
      obtain ⟨rfl, htail⟩ := List.cons.inj hrest
      have hnil := nil_of_reach (hne hws').1 (hne hws').2 hZ hq (has ▸ hY)
      simp [hnil] at htail

theorem reach_plain (hc : "." ∉ ws) (hu : ".." ∉ ws)
    (hlinks : ∀ vs t, vs ≠ [] → vs <+: ws → d.nodeAt (vs.reverse ++ D) ≠ some (.symlink t))
    (h : d.reach k D ws = .ok (X, j)) : X = ws.reverse ++ D := by
  induction ws generalizing D with
  | nil =>
    obtain ⟨rfl, -⟩ : D = X ∧ k = j := by simpa using h
    rfl
  | cons s ws ih =>
    have hs : s ≠ "." ∧ s ≠ ".." := by
      constructor
      · rintro rfl
        simp at hc
      · rintro rfl
        simp at hu
    rw [reach_name d k D ws hs.1 hs.2] at h
    split at h
    · cases h
    cases hn : d.nodeAt (s :: D) with
    | none => simp [hn] at h
    | some n =>
      cases n with
      | file id => simp [hn] at h
      | symlink t => exact absurd hn (hlinks [s] t (by simp) (by simp))
      | directory =>
        simp only [hn] at h
        rw [ih (by simp_all) (by simp_all) ?_ h]
        · simp
        · intro vs t _ hvs
          simpa using hlinks (s :: vs) t (by simp) (by simpa using hvs)

theorem Lands.plain (hc : "." ∉ ws) (hu : ".." ∉ ws)
    (hlinks : ∀ vs rest t, vs ≠ [] → rest ≠ [] → ws = vs ++ rest →
      d.nodeAt (vs.reverse ++ D) ≠ some (.symlink t))
    (h : d.Lands k D ws l) : l = ws.reverse ++ D := by
  obtain ⟨us, s, r, X, j, rfl, hX, rfl, -⟩ := h
  rw [reach_plain (by simp_all) (by simp_all) ?_ hX]
  · simp
  · rintro vs t hne ⟨rest, rfl⟩
    exact hlinks vs (rest ++ s :: r) t hne (by simp) (by simp)

theorem lands_put (hwf : d.WellFormed) (hc : s ≠ ".") (hu : s ≠ "..")
    (hlen : s.utf8ByteSize ≤ maxName) (hY : d.reach k X us = .ok (Y, j))
    (hnone : d.nodeAt (s :: Y) = none) (r : List String) :
    (d.put (s :: Y) .directory).Lands k X (us ++ s :: r) (r.reverse ++ s :: Y) := by
  have hY' := (grows_put hnone .directory).keeps.reach hY
  cases r with
  | nil => exact ⟨us, s, [], Y, j, rfl, hY', rfl, .inl rfl⟩
  | cons t r =>
    refine ⟨us ++ [s], t, r, s :: Y, j, by simp, ?_, by simp, .inr ?_⟩
    · rw [reach_append, hY']
      simp [bind, Except.bind, reach_name _ j Y [] hc hu, Nat.not_lt.2 hlen, nodeAt_put]
    · rw [nodeAt_put, if_neg (by simp)]
      exact hwf.below_none hnone [t]

/-- A path leads to a directory, behind whichever links; `k` more may be followed. -/
def Rooted (d : Disk) (cwd : Location) (p : String) (X : Location) (k : Nat) : Prop :=
  d.reach maxLinks (origin cwd p) (segments p) = .ok (X, k)

theorem Rooted.keeps (h : d.Rooted cwd p X k) (hk : Keeps d d') : d'.Rooted cwd p X k := hk.reach h

theorem exists_rooted (h : p = "" ∨ d.isDir cwd p = true) : ∃ X k, d.Rooted cwd p X k := by
  obtain rfl | h := h
  · exact ⟨cwd, maxLinks, by simp [Rooted, origin]⟩
  · obtain ⟨X, -, k, hk⟩ := isDir_iff.1 h
    exact ⟨X, k, hk⟩

theorem below_of_slot (hroot : d.Rooted cwd dest D k) (hq : segments q <+: segments dest ++ ws)
    (ha : isAbsolute q = isAbsolute dest) (h : d.slot cwd q = .ok ⟨X, some s, b⟩) :
    (∃ us r j, ws = us ++ s :: r ∧ segments q = segments dest ++ us ++ [s] ∧
      d.reach k D us = .ok (X, j)) ∨ ∃ n, d.nodeAt (s :: X) = some n := by
  obtain ⟨-, hc, hu, vs, hvs, i, hi⟩ := slot_segments h
  have ho : origin cwd q = origin cwd dest := by rw [origin, origin, ha]
  rw [ho] at hi
  obtain ⟨t, ht⟩ := hq
  rw [hvs, List.append_assoc] at ht
  rw [Rooted] at hroot
  obtain ⟨us, hus, hws⟩ | ⟨us, hus, hws⟩ := List.append_eq_append_iff.1 ht.symm
  · left
    rw [hus] at hi
    exact ⟨us, t, i, hws, by rw [hvs, hus], reach_append_of_ok hroot hi⟩
  · cases us with
    | nil =>
      left
      simp only [List.append_nil] at hus
      rw [hus] at hroot
      cases hi.symm.trans hroot
      exact ⟨[], t, k, by simpa using hws.symm, by rw [hvs, hus, List.append_nil], by simp⟩
    | cons u us =>
      right
      obtain ⟨rfl, -⟩ := List.cons.inj hws
      rw [hus] at hroot
      exact exists_of_reach_cons hc hu (reach_append_of_ok hi hroot)

theorem lands_of_slot (hroot : d.Rooted cwd dest D k) (hp : segments p = segments dest ++ ws)
    (hne : ws ≠ []) (ha : isAbsolute p = isAbsolute dest)
    (h : d.slot cwd p = .ok ⟨X, some s, b⟩) : d.Lands k D ws (s :: X) := by
  obtain ⟨-, -, -, vs, hvs, i, hi⟩ := slot_segments h
  have ho : origin cwd p = origin cwd dest := by rw [origin, origin, ha]
  obtain ⟨us, t, rfl⟩ : ∃ us t, ws = us ++ [t] := ⟨_, _, (List.dropLast_concat_getLast hne).symm⟩
  rw [hp, ← List.append_assoc] at hvs
  obtain ⟨rfl, ht⟩ := List.append_inj' hvs rfl
  obtain rfl : t = s := by simpa using ht
  rw [ho] at hi
  exact ⟨us, t, [], X, i, rfl, reach_append_of_ok hroot hi, rfl, .inl rfl⟩

theorem exists_of_reach_below {t : Location × Nat} (hroot : d.Rooted cwd dest D k)
    (hq : segments q <+: segments dest ++ ws) (ha : isAbsolute q = isAbsolute dest)
    (hslot : d.slot cwd q = .ok ⟨X, some s, b⟩) (h : d.reach k D ws = .ok t) :
    ∃ n, d.nodeAt (s :: X) = some n := by
  obtain ⟨us, r, j, rfl, -, hX⟩ | hn := below_of_slot hroot hq ha hslot
  · obtain ⟨-, hc, hu, -⟩ := slot_segments hslot
    exact exists_of_reach_cons hc hu (reach_append_of_ok hX h)
  · exact hn

theorem Rooted.reach_of_leads (hroot : d.Rooted cwd dest D k)
    (hp : segments p = segments dest ++ ws) (ha : isAbsolute p = isAbsolute dest)
    (h : d.Leads cwd p X) : ∃ j, d.reach k D ws = .ok (X, j) := by
  obtain ⟨-, j, hj⟩ := h
  have ho : origin cwd p = origin cwd dest := by rw [origin, origin, ha]
  rw [hp, ho] at hj
  exact ⟨j, reach_append_of_ok hroot hj⟩

theorem not_reach_below_new (hwf : d.WellFormed) (hX : d.reach k D us = .ok (X, j))
    (hnone : d.nodeAt (s :: X) = none) (hr : r ≠ []) (hc : "." ∉ us ++ s :: r)
    (hu : ".." ∉ us ++ s :: r) (t : Location × Nat) :
    (d.put (s :: X) .directory).reach k D (us ++ s :: r) ≠ .ok t := by
  intro h
  obtain ⟨a, r, rfl⟩ := List.exists_cons_of_ne_nil hr
  have hnew : (d.put (s :: X) .directory).nodeAt (a :: s :: X) = none := by
    rw [nodeAt_put, if_neg (by simp)]
    exact hwf.below_none hnone [a]
  have hs : s ≠ "." ∧ s ≠ ".." := by grind
  have ha : a ≠ "." ∧ a ≠ ".." := by grind
  have hX' := (grows_put hnone .directory).keeps.reach hX
  have hgo := reach_append_of_ok hX' h
  rw [reach_name _ _ _ _ hs.1 hs.2, nodeAt_put, if_pos rfl] at hgo
  split at hgo
  · cases hgo
  · obtain ⟨n, hn⟩ := exists_of_reach_cons ha.1 ha.2 hgo
    simp [hnew] at hn

structure Same (d d' : Disk) (l : Location) : Prop where
  node : d'.nodeAt l = d.nodeAt l
  file : d'.fileAt l = d.fileAt l
  mode : d'.modeAt l = d.modeAt l

theorem Same.refl (d : Disk) (l : Location) : Same d d l := ⟨rfl, rfl, rfl⟩

theorem Same.symm (h : Same d d' l) : Same d' d l := ⟨h.1.symm, h.2.symm, h.3.symm⟩

theorem Same.trans (h : Same d d' l) (h' : Same d' e l) : Same d e l :=
  ⟨h'.1.trans h.1, h'.2.trans h.2, h'.3.trans h.3⟩

theorem same_of_directory (hd : d.nodeAt l = some .directory) (hd' : d'.nodeAt l = some .directory)
    (hmode : d'.modeAt l = d.modeAt l) : Same d d' l :=
  ⟨hd'.trans hd.symm, by simp [fileAt, hd, hd'], hmode⟩

section

variable {m : Location}

theorem same_put (hm : m ≠ s :: X) (n : Node) : Same d (d.put (s :: X) n) m := by
  have hn : (d.put (s :: X) n).nodeAt m = d.nodeAt m := by rw [nodeAt_put, if_neg (Ne.symm hm)]
  exact ⟨hn, fileAt_eq hn fun _ _ => rfl, rfl⟩

theorem same_remove (hm : m ≠ s :: X) : Same d (d.remove (s :: X)) m := by
  have hn : (d.remove (s :: X)).nodeAt m = d.nodeAt m := by rw [nodeAt_remove, if_neg (Ne.symm hm)]
  exact ⟨hn, fileAt_eq hn fun _ _ => rfl, rfl⟩

theorem same_addFile (hwf : d.WellFormed) (hm : m ≠ s :: X) (f : FileData) :
    Same d (d.addFile (s :: X) f).1 m := by
  have hn : (d.addFile (s :: X) f).1.nodeAt m = d.nodeAt m := by
    rw [nodeAt_addFile, if_neg (Ne.symm hm)]
  refine ⟨hn, fileAt_eq hn fun id hid => ?_, rfl⟩
  rw [get?_addFile, if_neg (Nat.ne_of_gt (hwf.lt_next (hn ▸ hid)))]

theorem same_setFile (honly : ∀ m, d.nodeAt m = some (.file id) → m = l) (hm : m ≠ l)
    (f : FileData) : Same d (d.setFile id f) m := by
  refine ⟨rfl, fileAt_eq rfl fun j hj => ?_, rfl⟩
  rw [get?_setFile, if_neg]
  rintro rfl
  exact hm (honly m hj)

theorem same_setModeAt (hm : m ≠ l) (mode : Nat) : Same d (d.setModeAt l mode) m :=
  ⟨rfl, rfl, by rw [modeAt_setModeAt, if_neg (Ne.symm hm)]⟩

end

/-- Nothing has changed but at one location, and on the way to it where nothing was. -/
structure Frame (d d' : Disk) (l : Location) : Prop where
  directory : ∀ {m}, d.nodeAt m = some .directory → d'.nodeAt m = some .directory
  same : ∀ {m}, m ≠ l → (m <:+ l → d.nodeAt m ≠ none) → Same d d' m

namespace Frame

theorem refl (d : Disk) (l : Location) : Frame d d l := ⟨id, fun _ _ => .refl d _⟩

theorem step (h : Frame d d' l) (hl : d'.nodeAt l ≠ some .directory)
    (hs : ∀ m, m ≠ l → Same d' e m) : Frame d e l where
  directory := by
    intro m hm
    have hm' := h.directory hm
    by_cases he : m = l
    · exact absurd (he ▸ hm') hl
    · rw [(hs m he).1, hm']
  same := fun he hm => (h.same he hm).trans (hs _ he)

theorem put (h : Frame d d' (s :: X)) (hl : d'.nodeAt (s :: X) ≠ some .directory) (n : Node) :
    Frame d (d'.put (s :: X) n) (s :: X) :=
  h.step hl fun _ hm => same_put hm n

theorem remove (h : Frame d d' (s :: X)) (hl : d'.nodeAt (s :: X) ≠ some .directory) :
    Frame d (d'.remove (s :: X)) (s :: X) :=
  h.step hl fun _ hm => same_remove hm

theorem addFile (h : Frame d d' (s :: X)) (hwf : d'.WellFormed)
    (hl : d'.nodeAt (s :: X) ≠ some .directory) (f : FileData) :
    Frame d (d'.addFile (s :: X) f).1 (s :: X) :=
  h.step hl fun _ hm => same_addFile hwf hm f

theorem setFile (h : Frame d d' l) (honly : ∀ m, d'.nodeAt m = some (.file id) → m = l)
    (f : FileData) : Frame d (d'.setFile id f) l :=
  ⟨h.directory, fun hm hs => (h.same hm hs).trans (same_setFile honly hm f)⟩

theorem setModeAt (h : Frame d d' l) (mode : Nat) : Frame d (d'.setModeAt l mode) l :=
  ⟨h.directory, fun hm hs => (h.same hm hs).trans (same_setModeAt hm mode)⟩

theorem makeDirectory (h : Frame d d' l) (hm : s :: X <:+ l) (hnone : d'.nodeAt (s :: X) = none) :
    Frame d (d'.put (s :: X) .directory) l where
  directory hdir := (grows_put hnone .directory) _ _ (h.directory hdir)
  same := by
    intro m hne hsome
    have hms : m ≠ s :: X := by
      rintro rfl
      exact hsome hm ((h.same hne hsome).1 ▸ hnone)
    exact (h.same hne hsome).trans (same_put hms .directory)

end Frame

end Provision.Disk
