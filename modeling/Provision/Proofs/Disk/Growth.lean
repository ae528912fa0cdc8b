import Provision.Proofs.Disk.Effect

namespace Provision.Disk

open PathText

variable {d d' e : Disk} {cwd X Y l : Location} {p q s t : String} {n : Node} {f : Bool} {k : Nat}
  {ws : List String}

/-- Every directory and every symbolic link stays where it is. -/
def Keeps (d d' : Disk) : Prop :=
  ∀ l n, (∀ id, n ≠ .file id) → d.nodeAt l = some n → d'.nodeAt l = some n

theorem Keeps.refl (d : Disk) : Keeps d d := fun _ _ _ h => h

theorem Keeps.directory (h : Keeps d d') (hl : d.nodeAt l = some .directory) :
    d'.nodeAt l = some .directory :=
  h l .directory (by simp) hl

theorem Keeps.symlink (h : Keeps d d') (hl : d.nodeAt l = some (.symlink t)) :
    d'.nodeAt l = some (.symlink t) :=
  h l (.symlink t) (by simp) hl

theorem Keeps.reach {r : Location × Nat} (h : Keeps d d') (hr : d.reach k X ws = .ok r) :
    d'.reach k X ws = .ok r := by
  induction k, X, ws using walk_induction with
  | nil k X => simpa using hr
  | current k X vs ih => simpa using ih (by simpa using hr)
  | parent k X vs ih => simpa using ih (by simpa using hr)
  | name k X s vs hc hu ih ihl =>
    rw [reach_name d k X vs hc hu] at hr
    rw [reach_name d' k X vs hc hu]
    split at hr
    · cases hr
    · rename_i hlen
      rw [if_neg hlen]
      cases hn : d.nodeAt (s :: X) with
      | none => simp [hn] at hr
      | some n =>
        cases n with
        | directory =>
          rw [h.directory hn]
          exact ih (by simpa [hn] using hr)
        | file id => simp [hn] at hr
        | symlink t =>
          rw [h.symlink hn]
          cases k with
          | zero => simp [hn] at hr
          | succ k => exact ihl k _ _ rfl (by simpa [hn] using hr)

theorem Keeps.leads (h : Keeps d d') (hp : d.Leads cwd p X) : d'.Leads cwd p X := by
  obtain ⟨hu, k, hk⟩ := hp
  exact ⟨hu, k, h.reach hk⟩

theorem Keeps.isDir (h : Keeps d d') (hp : d.isDir cwd p = true) : d'.isDir cwd p = true := by
  obtain ⟨X, hX⟩ := isDir_iff.1 hp
  exact isDir_iff.2 ⟨X, h.leads hX⟩

theorem Keeps.slot {sl : Slot} (h : Keeps d d') (hp : d.slot cwd p = .ok sl) :
    d'.slot cwd p = .ok sl := by
  have husable := usable_of_slot hp
  rw [slot_of_usable d cwd husable] at hp
  rw [slot_of_usable d' cwd husable]
  cases hr : d.reach maxLinks (origin cwd p) (names p).dropLast with
  | error e => simp [hr, bind, Except.bind] at hp
  | ok r => rwa [h.reach hr, ← hr]

theorem Keeps.walk_spot {n n' : Option Node} (h : Keeps d d') (hw : d.walk f k X ws = .ok ⟨Y, n⟩)
    (hkept : ∀ m, n = some m → (∀ id, m ≠ .file id) → n' = some m)
    (hfile : (∀ m, n = some m → ∃ id, m = .file id) →
      ∃ id, n' = some (.file id) ∧ d'.nodeAt Y = some (.file id)) :
    d'.walk f k X ws = .ok ⟨Y, n'⟩ := by
  induction k, X, ws using walk_induction with
  | nil k X =>
    obtain ⟨rfl, rfl⟩ : X = Y ∧ some .directory = n := by simpa using hw
    rw [hkept _ rfl (by simp), walk_nil]
  | current k X vs ih => simpa using ih (by simpa using hw)
  | parent k X vs ih => simpa using ih (by simpa using hw)
  | name k X s vs hc hu ih ihl =>
    rw [walk_name d f k X vs hc hu] at hw
    rw [walk_name d' f k X vs hc hu]
    split at hw
    · cases hw
    rename_i hlen
    rw [if_neg hlen]
    cases hn : d.nodeAt (s :: X) with
    -- With nothing there, or with a file, a walk goes no further: this is the place where it ends.
    | none =>
      simp only [hn] at hw
      split at hw
      · cases hw
        obtain ⟨id, rfl, hY⟩ := hfile (by simp)
        simp [*]
      · cases hw
    | some m =>
      cases m with
      | directory =>
        rw [h.directory hn]
        exact ih (by simpa [hn] using hw)
      | file j =>
        simp only [hn] at hw
        split at hw
        · cases hw
          obtain ⟨id, rfl, hY⟩ := hfile (by simp)
          simp [*]
        · cases hw
      | symlink t =>
        rw [h.symlink hn]
        simp only [hn] at hw
        dsimp only
        split at hw
        · cases hw
          rw [if_pos ‹_›, hkept _ rfl (by simp)]
        · rw [if_neg ‹_›]
          cases k with
          | zero => cases hw
          | succ k => exact ihl k _ _ rfl hw

theorem Keeps.walk (h : Keeps d d') (hw : d.walk f k X ws = .ok ⟨Y, some n⟩)
    (hY : ∀ id, n = .file id → d'.nodeAt Y = some n) : d'.walk f k X ws = .ok ⟨Y, some n⟩ := by
  refine h.walk_spot hw (fun m hm _ => hm) fun hfile => ?_
  obtain ⟨id, rfl⟩ := hfile n rfl
  exact ⟨id, rfl, hY id rfl⟩

theorem Keeps.locate (h : Keeps d d') (hp : d.locate cwd f p = .ok ⟨Y, some n⟩)
    (hY : ∀ id, n = .file id → d'.nodeAt Y = some n) : d'.locate cwd f p = .ok ⟨Y, some n⟩ := by
  have hu := usable_of_locate hp
  rw [locate_of_usable d cwd f hu] at hp
  rw [locate_of_usable d' cwd f hu]
  exact h.walk hp hY

theorem Keeps.walk_new {id : FileId} (h : Keeps d d') (hw : d.walk f k X ws = .ok ⟨Y, none⟩)
    (hY : d'.nodeAt Y = some (.file id)) : d'.walk f k X ws = .ok ⟨Y, some (.file id)⟩ :=
  h.walk_spot hw nofun fun _ => ⟨id, rfl, hY⟩

theorem Keeps.locate_new {id : FileId} (h : Keeps d d') (hp : d.locate cwd f p = .ok ⟨Y, none⟩)
    (hY : d'.nodeAt Y = some (.file id)) : d'.locate cwd f p = .ok ⟨Y, some (.file id)⟩ := by
  have hu := usable_of_locate hp
  rw [locate_of_usable d cwd f hu] at hp
  rw [locate_of_usable d' cwd f hu]
  exact h.walk_new hp hY

def Grows (d d' : Disk) : Prop := ∀ l n, d.nodeAt l = some n → d'.nodeAt l = some n

theorem Grows.refl (d : Disk) : Grows d d := fun _ _ h => h

theorem Grows.trans (h : Grows d d') (h' : Grows d' e) : Grows d e :=
  fun l n hl => h' l n (h l n hl)

theorem Grows.keeps (h : Grows d d') : Keeps d d' := fun l n _ => h l n

theorem grows_put (h : d.nodeAt (s :: X) = none) (n : Node) : Grows d (d.put (s :: X) n) := by
  intro l m hl
  rw [nodeAt_put, if_neg, hl]
  rintro rfl
  simp [h] at hl

theorem grows_addFile (h : d.nodeAt (s :: X) = none) (g : FileData) :
    Grows d (d.addFile (s :: X) g).1 := by
  intro l m hl
  rw [nodeAt_addFile, if_neg, hl]
  rintro rfl
  simp [h] at hl

theorem grows_of_remove (d : Disk) (s : String) (X : Location) : Grows (d.remove (s :: X)) d := by
  intro l m hl
  rw [nodeAt_remove] at hl
  split at hl
  · cases hl
  · exact hl

theorem makeDirectory_grows (h : d.makeDirectory cwd p = .ok d') : Grows d d' := by
  obtain ⟨s, X, b, -, hn, rfl⟩ := makeDirectory_eq_ok h
  exact grows_put hn .directory

theorem makeDirectory_new (h : d.makeDirectory cwd p = .ok d') (hl : d'.nodeAt l = some n) :
    d.nodeAt l = some n ∨ n = .directory := by
  obtain ⟨s, X, b, -, -, rfl⟩ := makeDirectory_eq_ok h
  rw [nodeAt_put] at hl
  split at hl
  · exact .inr (Option.some.inj hl).symm
  · exact .inl hl

theorem walk_node {spot : Spot} (h : d.walk f k X ws = .ok spot) :
    spot.node = some .directory ∨ d.nodeAt spot.location = spot.node ∧ spot.location ≠ [] := by
  induction k, X, ws using walk_induction with
  | nil k X =>
    simp only [walk_nil, Except.ok.injEq] at h
    exact .inl (by rw [← h])
  | current k X vs ih => exact ih (by simpa using h)
  | parent k X vs ih => exact ih (by simpa using h)
  | name k X s vs hc hu ih ihl =>
    rw [walk_name d f k X vs hc hu] at h
    split at h
    · cases h
    · cases hn : d.nodeAt (s :: X) with
      | none =>
        simp only [hn] at h
        split at h
        · cases h
          exact .inr ⟨hn, by simp⟩
        · cases h
      | some m =>
        cases m with
        | directory => exact ih (by simpa [hn] using h)
        | file id =>
          simp only [hn] at h
          split at h
          · cases h
            exact .inr ⟨hn, by simp⟩
          · cases h
        | symlink t =>
          simp only [hn] at h
          split at h
          · cases h
            exact .inr ⟨hn, by simp⟩
          · cases k with
            | zero => cases h
            | succ k => exact ihl k _ _ rfl h

theorem locate_node {spot : Spot} (h : d.locate cwd f p = .ok spot) :
    spot.node = some .directory ∨ d.nodeAt spot.location = spot.node ∧ spot.location ≠ [] := by
  rw [locate_of_usable d cwd f (usable_of_locate h)] at h
  exact walk_node h

theorem Grows.locate (h : Grows d d') (hp : d.locate cwd f p = .ok ⟨Y, some n⟩) :
    d'.locate cwd f p = .ok ⟨Y, some n⟩ := by
  refine h.keeps.locate hp fun id hn => ?_
  subst hn
  obtain ⟨hY, -⟩ : d.nodeAt Y = some (.file id) ∧ Y ≠ [] := by simpa using locate_node hp
  exact h Y _ hY

theorem isFile_iff :
    d.isFile cwd p = true ↔ ∃ l id, d.locate cwd true p = .ok ⟨l, some (.file id)⟩ := by
  simp only [isFile, nodeOf?]
  cases h : d.locate cwd true p with
  | error e => simp
  | ok spot =>
    obtain ⟨l, n⟩ := spot
    cases n with
    | none => simp
    | some n => cases n <;> simp

theorem Grows.isFile (h : Grows d d') (hp : d.isFile cwd p = true) : d'.isFile cwd p = true := by
  obtain ⟨l, id, hl⟩ := isFile_iff.1 hp
  exact isFile_iff.2 ⟨l, id, h.locate hl⟩

theorem grows_setFile (d : Disk) (id : FileId) (g : FileData) : Grows d (d.setFile id g) :=
  fun _ _ h => h

theorem setContent_nodeAt (d : Disk) (id : FileId) (c : Content) (l : Location) :
    (d.setContent id c).nodeAt l = d.nodeAt l := by
  rw [setContent]
  split <;> rfl

@[simp] theorem modeAt_setContent (d : Disk) (id : FileId) (c : Content) (l : Location) :
    (d.setContent id c).modeAt l = d.modeAt l := by
  rw [setContent]
  split <;> rfl

theorem grows_setContent (d : Disk) (id : FileId) (c : Content) : Grows d (d.setContent id c) :=
  fun l _ h => by rw [setContent_nodeAt, h]

theorem keeps_of_addFile (d : Disk) (s : String) (X : Location) (g : FileData) :
    Keeps (d.addFile (s :: X) g).1 d := by
  intro l n hn hl
  rw [nodeAt_addFile] at hl
  split at hl
  · exact absurd (Option.some.inj hl).symm (hn d.next)
  · exact hl

theorem keeps_of_setContent (d : Disk) (id : FileId) (c : Content) :
    Keeps (d.setContent id c) d :=
  fun l _ _ h => by rw [← h, setContent_nodeAt]

theorem openForWriting_grows {id : FileId} (h : d.openForWriting cwd p = .ok (d', id)) :
    Grows d d' ∧ Keeps d' d ∧ ∃ l, d'.locate cwd true p = .ok ⟨l, some (.file id)⟩ := by
  obtain ⟨l, hl, -, rfl, rfl⟩ | ⟨l, g, hl, hg, -, rfl⟩ := openForWriting_eq_ok h
  · obtain ⟨hn, hne⟩ : d.nodeAt l = none ∧ l ≠ [] := by simpa using locate_node hl
    obtain ⟨s, X, rfl⟩ := List.exists_cons_of_ne_nil hne
    have hgrows := grows_addFile hn ⟨plainMode, .data []⟩
    refine ⟨hgrows, keeps_of_addFile d s X _, s :: X, ?_⟩
    exact hgrows.keeps.locate_new hl (by simp [nodeAt_addFile])
  · have hgrows := grows_setFile d id { g with content := .data [] }
    exact ⟨hgrows, fun _ _ _ h => h, l, hgrows.locate hl⟩

def Absent (d : Disk) (cwd : Location) (p : String) : Prop :=
  ∀ f spot, d.locate cwd f p = .ok spot → spot.node = none

theorem Absent.isDir (h : d.Absent cwd p) : d.isDir cwd p = false := by
  cases hd : d.isDir cwd p with
  | false => rfl
  | true =>
    obtain ⟨X, hX⟩ := isDir_iff.1 hd
    simpa using h true _ (locate_eq_directory_iff.2 hX)

theorem Absent.isFile (h : d.Absent cwd p) : d.isFile cwd p = false := by
  cases hd : d.isFile cwd p with
  | false => rfl
  | true =>
    obtain ⟨l, id, hl⟩ := isFile_iff.1 hd
    simpa using h true _ hl

theorem walk_in_empty {spot : Spot} (hX : ∀ t, d.nodeAt (t :: X) = none)
    (hne : ws.filter (· ≠ ".") ≠ []) (hup : ".." ∉ ws) (h : d.walk f k X ws = .ok spot) :
    spot.node = none := by
  induction ws with
  | nil => simp at hne
  | cons s r ih =>
    by_cases hc : s = "."
    · subst hc
      exact ih (by simpa using hne) (by simp_all) (by simpa using h)
    · have hu : s ≠ ".." := by
        rintro rfl
        simp at hup
      rw [walk_name d f k X r hc hu, hX] at h
      split at h
      · cases h
      · simp only at h
        split at h
        · cases h
          rfl
        · cases h

theorem makeDirectory_of_isDir (h : d.isDir cwd p = true) :
    d.makeDirectory cwd p = .error .alreadyExists := by
  obtain ⟨Y, hu, k, hk⟩ := isDir_iff.1 h
  rw [← filter_names, reach_filter] at hk
  rw [makeDirectory, slot_of_usable d cwd hu]
  by_cases hnil : names p = []
  · simp [hnil, bind, Except.bind]
  · obtain ⟨ws, s, hws⟩ : ∃ ws s, names p = ws ++ [s] :=
      ⟨_, _, (List.dropLast_concat_getLast hnil).symm⟩
    rw [hws, reach_append] at hk
    rw [hws]
    simp only [List.dropLast_concat, List.getLast?_concat]
    cases hr : d.reach maxLinks (origin cwd p) ws with
    | error e => simp [hr, bind, Except.bind] at hk
    | ok r =>
      obtain ⟨X, j⟩ := r
      simp only [hr, bind, Except.bind] at hk ⊢
      by_cases hd : s = "." ∨ s = ".."
      · simp [hd]
      · simp only [not_or] at hd
        rw [reach_name d j X [] hd.1 hd.2] at hk
        split at hk
        · cases hk
        · simp only [or_self, ↓reduceIte, *]
          cases hn : d.nodeAt (s :: X) with
          | none => simp [hn] at hk
          | some n => simp

theorem reach_of_slot {b : Bool} (hslot : d.slot cwd p = .ok ⟨X, some s, b⟩) (h : Keeps d d')
    (hdir : d'.nodeAt (s :: X) = some .directory) :
    ∃ k, d'.reach maxLinks (origin cwd p) (segments p) = .ok (s :: X, k) := by
  obtain ⟨-, hc, hd, hlen, -, ws, hws, k, hk⟩ := slot_eq_some_iff.1 hslot
  refine ⟨k, ?_⟩
  rw [← filter_names, reach_filter, hws, reach_append, h.reach hk]
  simp [bind, Except.bind, reach_name _ k X [] hc hd, Nat.not_lt.2 hlen, hdir]

theorem leads_of_slot {b : Bool} (hslot : d.slot cwd p = .ok ⟨X, some s, b⟩)
    (hnone : d.nodeAt (s :: X) = none) : (d.put (s :: X) .directory).Leads cwd p (s :: X) :=
  ⟨(slot_eq_some_iff.1 hslot).1,
    reach_of_slot hslot (grows_put hnone .directory).keeps (by simp [nodeAt_put])⟩

theorem isDir_of_makeDirectory (h : d.makeDirectory cwd p = .ok d') : d'.isDir cwd p = true := by
  obtain ⟨s, X, b, hslot, hnone, rfl⟩ := makeDirectory_eq_ok h
  exact isDir_iff.2 ⟨s :: X, leads_of_slot hslot hnone⟩

theorem locate_behind (cwd : Location) {vs : List String} (hsegs : segments p = segments q ++ vs)
    (habs : isAbsolute p = isAbsolute q) (hne : vs ≠ []) :
    ∃ post, post.filter (· ≠ ".") = vs ∧ ∀ (e : Disk) (f : Bool), Usable p → e.locate cwd f p =
      e.reach maxLinks (origin cwd q) (segments q) >>= fun r => e.walk f r.2 r.1 post := by
  obtain ⟨pre, post, hsteps, hpre, hpost⟩ :=
    List.filter_eq_append_iff.1 ((filter_steps p).trans hsegs)
  have horigin : origin cwd p = origin cwd q := by simp [origin, habs]
  have hpostne : post ≠ [] := by
    rintro rfl
    simp [← hpost] at hne
  refine ⟨post, hpost, fun e f hp => ?_⟩
  rw [locate_of_usable e cwd f hp, hsteps, walk_append e f _ _ _ hpostne, ← reach_filter, hpre,
    horigin]

theorem absent_of_makeDirectory (hwf : d.WellFormed) (h : d.makeDirectory cwd q = .ok d')
    {vs : List String} (hsegs : segments p = segments q ++ vs) (hne : vs ≠ []) (hup : ".." ∉ vs)
    (habs : isAbsolute p = isAbsolute q) : d'.Absent cwd p := by
  obtain ⟨s, X, b, hslot, hnone, rfl⟩ := makeDirectory_eq_ok h
  obtain ⟨-, hc, hu, ws, hws, k, hk⟩ := slot_segments hslot
  obtain ⟨post, hpost, hwalk⟩ := locate_behind cwd hsegs habs hne
  simp only [hws, reach_append] at hwalk
  intro f spot hspot
  have hnew : (d.put (s :: X) .directory).nodeAt (s :: X) = some .directory := by
    simp [nodeAt_put]
  have hempty : ∀ t, (d.put (s :: X) .directory).nodeAt (t :: s :: X) = none := by
    intro t
    rw [nodeAt_put, if_neg (by simp)]
    exact hwf.below_none hnone [t]
  have hpostup : ".." ∉ post := fun hm => hup (hpost ▸ List.mem_filter.2 ⟨hm, by decide⟩)
  rw [hwalk _ f (usable_of_locate hspot), (grows_put hnone .directory).keeps.reach hk] at hspot
  simp only [bind, Except.bind, reach_name _ k X [] hc hu, hnew, reach_nil] at hspot
  split at hspot
  · cases hspot
  · rename_i r hr
    split at hr
    · cases hr
    · cases hr
      exact walk_in_empty hempty (hpost ▸ hne) hpostup hspot

end Provision.Disk
