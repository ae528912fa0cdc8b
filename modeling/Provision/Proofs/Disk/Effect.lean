import Provision.Disk.Change
import Provision.Proofs.Disk.Place

namespace Provision.Disk

open PathText

variable {d d' : Disk} {cwd X Y l m : Location} {p q s t : String} {n : Node} {f : FileData}
  {id : FileId}

theorem nodeAt_put (d : Disk) (s : String) (X l : Location) (n : Node) :
    (d.put (s :: X) n).nodeAt l = if s :: X = l then some n else d.nodeAt l := by
  cases l <;> simp [nodeAt, put]

theorem nodeAt_remove (d : Disk) (s : String) (X l : Location) :
    (d.remove (s :: X)).nodeAt l = if s :: X = l then none else d.nodeAt l := by
  cases l <;> simp [nodeAt, remove]

theorem nodeAt_addFile (d : Disk) (s : String) (X l : Location) (f : FileData) :
    (d.addFile (s :: X) f).1.nodeAt l =
      if s :: X = l then some (.file d.next) else d.nodeAt l := by
  cases l <;> simp [nodeAt, addFile]

@[simp] theorem nodeAt_setModeAt (d : Disk) (l m : Location) (mode : Nat) :
    (d.setModeAt l mode).nodeAt m = d.nodeAt m := rfl

theorem modeAt_setModeAt (d : Disk) (l m : Location) (mode : Nat) :
    (d.setModeAt l mode).modeAt m = if l = m then mode else d.modeAt m := by
  by_cases hl : l = m <;> simp [modeAt, setModeAt, hl]

theorem modeAt_congr (h : d'.modes.get? l = d.modes.get? l) : d'.modeAt l = d.modeAt l := by
  rw [modeAt, h, modeAt]

theorem mayWrite_congr (h : d'.modeAt l = d.modeAt l) : d'.mayWrite l = d.mayWrite l := by
  simp only [mayWrite, h]

theorem get?_setFile (d : Disk) (id j : FileId) (f : FileData) :
    (d.setFile id f).files.get? j = if id = j then some f else d.files.get? j := by
  simp [setFile]

theorem get?_addFile (d : Disk) (l : Location) (j : FileId) (f : FileData) :
    (d.addFile l f).1.files.get? j = if d.next = j then some f else d.files.get? j := by
  simp [addFile]

theorem fileAt_eq (h : d.nodeAt l = d'.nodeAt l) (hf : ∀ id, d.nodeAt l = some (.file id) →
    d.files.get? id = d'.files.get? id) : d.fileAt l = d'.fileAt l := by
  simp only [fileAt, ← h]
  split
  · exact hf _ ‹_›
  · rfl

structure WellFormed (d : Disk) : Prop where
  parent : ∀ {s X n}, d.nodeAt (s :: X) = some n → d.nodeAt X = some .directory
  known : ∀ {l id}, d.nodeAt l = some (.file id) → (d.files.get? id).isSome
  fresh : ∀ {id}, d.next ≤ id → d.files.get? id = none
  moded : ∀ {X mode}, d.modes.get? X = some mode → d.nodeAt X = some .directory

theorem WellFormed.modeAt_of_none (h : d.WellFormed) (hl : d.nodeAt l = none) :
    d.modeAt l = directoryMode := by
  cases hm : d.modes.get? l with
  | none => simp [modeAt, hm]
  | some mode => simp [h.moded hm] at hl

theorem WellFormed.mayWrite_of_none (h : d.WellFormed) (hl : d.nodeAt l = none) :
    d.mayWrite l = true := by
  simp [mayWrite, h.modeAt_of_none hl, directoryMode]

theorem WellFormed.lt_next (h : d.WellFormed) (hl : d.nodeAt l = some (.file id)) : id < d.next := by
  refine Nat.lt_of_not_le fun hn => ?_
  have hk := h.known hl
  simp [h.fresh hn] at hk

theorem WellFormed.below_none (h : d.WellFormed) (hl : d.nodeAt l = none) (r : Location) :
    d.nodeAt (r ++ l) = none := by
  induction r with
  | nil => exact hl
  | cons s r ih =>
    cases hn : d.nodeAt (s :: (r ++ l)) with
    | none => exact hn
    | some n => simp [h.parent hn] at ih

theorem WellFormed.tail (h : d.WellFormed) (hX : d.nodeAt X = some .directory) :
    d.nodeAt X.tail = some .directory := by
  cases X with
  | nil => rfl
  | cons s X => exact h.parent hX

theorem WellFormed.reach (h : d.WellFormed) {k j : Nat} {ws : List String}
    (hX : d.nodeAt X = some .directory) (hr : d.reach k X ws = .ok (Y, j)) :
    d.nodeAt Y = some .directory := by
  induction k, X, ws using walk_induction with
  | nil k X => simp_all
  | current k X r ih => exact ih hX (by simpa using hr)
  | parent k X r ih => exact ih (h.tail hX) (by simpa using hr)
  | name k X s r hc hu ih ihl =>
    rw [reach_name d k X r hc hu] at hr
    split at hr
    · cases hr
    · split at hr
      · cases hr
      · exact ih ‹_› hr
      · cases hr
      · cases hr
      · refine ihl _ _ _ rfl ?_ hr
        split
        · rfl
        · exact hX

theorem nodeAt_origin (h : d.nodeAt cwd = some .directory) (p : String) :
    d.nodeAt (origin cwd p) = some .directory := by
  simp only [Disk.origin]
  split
  · rfl
  · exact h

theorem directory_of_put {o : Option Node} (hold : d.nodeAt (s :: X) ≠ some .directory)
    (hput : ∀ l, d'.nodeAt l = if s :: X = l then o else d.nodeAt l)
    (hY : d.nodeAt Y = some .directory) : d'.nodeAt Y = some .directory := by
  rw [hput, if_neg, hY]
  rintro rfl
  exact hold hY

theorem WellFormed.parent_of_put (h : d.WellFormed) (hX : d.nodeAt X = some .directory)
    (hold : d.nodeAt (s :: X) ≠ some .directory)
    (hput : ∀ l, d'.nodeAt l = if s :: X = l then some n else d.nodeAt l) {Y : Location} {m : Node}
    (hm : d'.nodeAt (t :: Y) = some m) : d'.nodeAt Y = some .directory := by
  refine directory_of_put hold hput ?_
  rw [hput] at hm
  split at hm
  · rename_i he
    obtain ⟨-, rfl⟩ := List.cons.inj he
    exact hX
  · exact h.parent hm

theorem WellFormed.put (h : d.WellFormed) (hX : d.nodeAt X = some .directory)
    (hold : d.nodeAt (s :: X) ≠ some .directory)
    (hfile : ∀ id, n = .file id → (d.files.get? id).isSome) : (d.put (s :: X) n).WellFormed where
  parent := h.parent_of_put hX hold fun l => nodeAt_put d s X l n
  known := by
    intro l id hl
    rw [nodeAt_put] at hl
    split at hl
    · exact hfile id (by simpa using hl)
    · exact h.known hl
  fresh := h.fresh
  moded := fun hm => directory_of_put hold (fun l => nodeAt_put d s X l n) (h.moded hm)

theorem WellFormed.remove (h : d.WellFormed) (hold : d.nodeAt (s :: X) ≠ some .directory) :
    (d.remove (s :: X)).WellFormed where
  parent := by
    intro t Z m hm
    refine directory_of_put hold (fun l => nodeAt_remove d s X l) ?_
    rw [nodeAt_remove] at hm
    split at hm
    · cases hm
    · exact h.parent hm
  known := by
    intro l id hl
    rw [nodeAt_remove] at hl
    split at hl
    · cases hl
    · exact h.known hl
  fresh := h.fresh
  moded := fun hm => directory_of_put hold (fun l => nodeAt_remove d s X l) (h.moded hm)

theorem WellFormed.setFile (h : d.WellFormed) (hid : (d.files.get? id).isSome) :
    (d.setFile id f).WellFormed where
  parent := h.parent
  known := by
    intro l j hl
    rw [get?_setFile]
    split
    · rfl
    · exact h.known hl
  fresh := by
    intro j hj
    have hn := h.fresh hj
    rw [get?_setFile, if_neg, hn]
    rintro rfl
    simp [hn] at hid
  moded := h.moded

theorem WellFormed.setModeAt (h : d.WellFormed) (hX : d.nodeAt X = some .directory) (mode : Nat) :
    (d.setModeAt X mode).WellFormed where
  parent := h.parent
  known := h.known
  fresh := h.fresh
  moded := by
    intro Y m hm
    rw [Disk.setModeAt, Table.get?_set] at hm
    split at hm
    · exact ‹X = Y› ▸ hX
    · exact h.moded hm

theorem WellFormed.addFile (h : d.WellFormed) (hX : d.nodeAt X = some .directory)
    (hold : d.nodeAt (s :: X) ≠ some .directory) : (d.addFile (s :: X) f).1.WellFormed where
  parent := h.parent_of_put hX hold fun l => nodeAt_addFile d s X l f
  known := by
    intro l id hl
    rw [nodeAt_addFile] at hl
    rw [get?_addFile]
    split at hl
    · obtain rfl : d.next = id := by simpa using hl
      simp
    · rw [if_neg (Nat.ne_of_gt (h.lt_next hl))]
      exact h.known hl
  fresh := by
    intro j hj
    have hlt : d.next < j := hj
    rw [get?_addFile, if_neg (Nat.ne_of_lt hlt)]
    exact h.fresh (Nat.le_of_lt hlt)
  moded := fun hm => directory_of_put hold (fun l => nodeAt_addFile d s X l f) (h.moded hm)

theorem nodeAt_ofDirectory (p l : Location) :
    (ofDirectory p).nodeAt l = if l <:+ p then some .directory else none := by
  induction p with
  | nil => cases l <;> simp [ofDirectory, nodeAt, empty]
  | cons n p ih =>
    rw [ofDirectory, nodeAt_put, ih]
    by_cases hl : n :: p = l
    · simp [← hl]
    · simp [hl, Ne.symm hl, List.suffix_cons_iff]

theorem wellFormed_ofDirectory (p : Location) : (ofDirectory p).WellFormed := by
  induction p with
  | nil =>
    refine ⟨?_, ?_, fun _ => rfl, ?_⟩
    · intro s X n h
      simp [nodeAt_ofDirectory] at h
    · intro l id h
      simp [nodeAt_ofDirectory] at h
    · intro X mode h
      simp [ofDirectory, empty] at h
  | cons n p ih =>
    refine ih.put (by simp [nodeAt_ofDirectory]) ?_ (by simp)
    rw [nodeAt_ofDirectory, if_neg]
    · simp
    · intro h
      exact absurd h.length_le (by simp)

theorem makeDirectory_eq_ok (h : d.makeDirectory cwd p = .ok d') :
    ∃ s X b, d.slot cwd p = .ok ⟨X, some s, b⟩ ∧ d.nodeAt (s :: X) = none ∧
      d' = d.put (s :: X) .directory := by
  simp only [makeDirectory, bind, Except.bind] at h
  split at h
  · cases h
  · rename_i sl hsl
    obtain ⟨X, _ | s, b⟩ := sl
    · cases h
    · cases hn : d.nodeAt (s :: X) with
      | some n => simp [hn] at h
      | none =>
        simp only [hn, Option.isSome_none, Bool.false_eq_true, ↓reduceIte] at h
        split at h
        · cases h
        · exact ⟨s, X, b, hsl, hn, (Except.ok.inj h).symm⟩

theorem WellFormed.slot {b : Bool} (h : d.WellFormed) (hcwd : d.nodeAt cwd = some .directory)
    (hp : d.slot cwd p = .ok ⟨X, some s, b⟩) : d.nodeAt X = some .directory := by
  obtain ⟨-, -, -, -, -, ws, -, k, hk⟩ := slot_eq_some_iff.1 hp
  exact h.reach (nodeAt_origin hcwd p) hk

theorem WellFormed.leads (h : d.WellFormed) (hcwd : d.nodeAt cwd = some .directory)
    (hp : d.Leads cwd p X) : d.nodeAt X = some .directory := by
  obtain ⟨-, k, hk⟩ := hp
  exact h.reach (nodeAt_origin hcwd p) hk

theorem WellFormed.walk {b : Bool} {k : Nat} {ws : List String} (h : d.WellFormed)
    (hX : d.nodeAt X = some .directory) (hw : d.walk b k X ws = .ok ⟨s :: Y, none⟩) :
    d.nodeAt Y = some .directory := by
  induction k, X, ws using walk_induction with
  | nil k X => simp at hw
  | current k X r ih => exact ih hX (by simpa using hw)
  | parent k X r ih => exact ih (h.tail hX) (by simpa using hw)
  | name k X t r hc hu ih ihl =>
    rw [walk_name d b k X r hc hu] at hw
    split at hw
    · cases hw
    split at hw
    · split at hw
      · obtain ⟨-, rfl⟩ : t = s ∧ X = Y := by simpa using hw
        exact hX
      · cases hw
    · exact ih ‹_› hw
    · split at hw
      · cases hw
      · cases hw
    · split at hw
      · cases hw
      split at hw
      · cases hw
      · refine ihl _ _ _ rfl ?_ hw
        split
        · rfl
        · exact hX

theorem WellFormed.locate {b : Bool} (h : d.WellFormed) (hcwd : d.nodeAt cwd = some .directory)
    (hp : d.locate cwd b p = .ok ⟨s :: X, none⟩) : d.nodeAt X = some .directory := by
  rw [locate_of_usable d cwd b (usable_of_locate hp)] at hp
  exact h.walk (nodeAt_origin hcwd p) hp

theorem WellFormed.makeDirectory (h : d.WellFormed) (hcwd : d.nodeAt cwd = some .directory)
    (hd : d.makeDirectory cwd p = .ok d') : d'.WellFormed := by
  obtain ⟨s, X, b, hs, hn, rfl⟩ := makeDirectory_eq_ok hd
  exact h.put (h.slot hcwd hs) (by simp [hn]) (by simp)

theorem makeFile_eq_ok (h : d.makeFile cwd p = .ok (d', id)) :
    ∃ s X, d.slot cwd p = .ok ⟨X, some s, false⟩ ∧ d.nodeAt (s :: X) = none ∧
      d' = (d.addFile (s :: X) ⟨plainMode, .data []⟩).1 ∧ id = d.next := by
  simp only [makeFile, bind, Except.bind] at h
  split at h
  · cases h
  · rename_i sl hsl
    obtain ⟨X, _ | s, b⟩ := sl
    · cases h
    · cases b with
      | true => simp at h
      | false =>
        cases hn : d.nodeAt (s :: X) with
        | some n => simp [hn] at h
        | none =>
          simp only [hn, Option.isSome_none, Bool.false_eq_true, ↓reduceIte] at h
          split at h
          · cases h
          · simp only [Except.ok.injEq, Prod.ext_iff] at h
            exact ⟨s, X, hsl, hn, h.1.symm, h.2.symm⟩

theorem makeSymlink_eq_ok (h : d.makeSymlink cwd t p = .ok d') :
    ∃ s X, d.slot cwd p = .ok ⟨X, some s, false⟩ ∧ d.nodeAt (s :: X) = none ∧
      d' = d.put (s :: X) (.symlink t) := by
  simp only [makeSymlink, bind, Except.bind] at h
  split at h
  · cases h
  split at h
  · cases h
  split at h
  · cases h
  · rename_i sl hsl
    obtain ⟨X, _ | s, b⟩ := sl
    · cases h
    · cases hn : d.nodeAt (s :: X) with
      | some n => simp [hn] at h
      | none =>
        cases b with
        | true => simp [hn] at h
        | false =>
          simp only [hn, Option.isSome_none, Bool.false_eq_true, ↓reduceIte] at h
          split at h
          · cases h
          · exact ⟨s, X, hsl, hn, (Except.ok.inj h).symm⟩

theorem unlink_eq_ok (h : d.unlink cwd p = .ok d') :
    ∃ s X n, d.slot cwd p = .ok ⟨X, some s, false⟩ ∧ d.nodeAt (s :: X) = some n ∧
      n ≠ .directory ∧ d' = d.remove (s :: X) := by
  simp only [unlink, bind, Except.bind] at h
  split at h
  · cases h
  · rename_i sl hsl
    obtain ⟨X, _ | s, b⟩ := sl
    · cases h
    · cases hn : d.nodeAt (s :: X) with
      | none => simp [hn] at h
      | some n =>
        cases b with
        | true => simp [hn] at h
        | false =>
          simp only [hn, Bool.false_eq_true, ↓reduceIte] at h
          split at h
          · cases h
          split at h
          · cases h
          · exact ⟨s, X, n, hsl, hn, ‹_›, (Except.ok.inj h).symm⟩

theorem unlink_of_slot (h : d.slot cwd p = .ok ⟨X, some s, false⟩)
    (hn : d.nodeAt (s :: X) = some n) (hdir : n ≠ .directory) (hmay : d.mayWrite X = true) :
    d.unlink cwd p = .ok (d.remove (s :: X)) := by
  simp [unlink, h, hn, hdir, hmay, bind, Except.bind]

theorem makeHardLink_eq_ok (h : d.makeHardLink cwd q p = .ok d') :
    ∃ s X l n, d.slot cwd p = .ok ⟨X, some s, false⟩ ∧ d.nodeAt (s :: X) = none ∧
      d.mayWrite X = true ∧ d.locate cwd false q = .ok ⟨l, some n⟩ ∧ n ≠ .directory ∧
      d' = d.put (s :: X) n := by
  simp only [makeHardLink, bind, Except.bind] at h
  split at h
  · cases h
  rename_i spot hspot
  obtain ⟨l, _ | n⟩ := spot
  · cases h
  simp only at h
  split at h
  · cases h
  · rename_i sl hsl
    obtain ⟨X, _ | s, b⟩ := sl
    · cases h
    · cases hn : d.nodeAt (s :: X) with
      | some m => simp [hn] at h
      | none =>
        cases b with
        | true => simp [hn] at h
        | false =>
          simp only [hn, Option.isSome_none, Bool.false_eq_true, ↓reduceIte] at h
          split at h
          · cases h
          split at h
          · cases h
          · exact ⟨s, X, l, n, hsl, hn, by simpa using ‹¬ (!d.mayWrite X) = true›, hspot, ‹_›,
              (Except.ok.inj h).symm⟩

theorem makeHardLink_of_slot (hq : d.slot cwd q = .ok ⟨Y, some t, false⟩)
    (hfile : d.nodeAt (t :: Y) = some (.file id)) (hp : d.slot cwd p = .ok ⟨X, some s, false⟩)
    (hnone : d.nodeAt (s :: X) = none) (hmay : d.mayWrite X = true) :
    d.makeHardLink cwd q p = .ok (d.put (s :: X) (.file id)) := by
  simp [makeHardLink, locate_of_slot hq, hfile, hp, hnone, hmay, bind, Except.bind]

theorem moveName_eq_ok (h : d.moveName cwd p q = .ok d') :
    ∃ s X t Y n, d.slot cwd p = .ok ⟨X, some s, false⟩ ∧ d.slot cwd q = .ok ⟨Y, some t, false⟩ ∧
      d.nodeAt (s :: X) = some n ∧ n ≠ .directory ∧ d.nodeAt (t :: Y) ≠ some .directory ∧
      (d' = d ∧ d.nodeAt (t :: Y) = some n ∨ d.mayWrite X = true ∧ d.mayWrite Y = true ∧
        d' = (d.remove (s :: X)).put (t :: Y) n) := by
  simp only [moveName, bind, Except.bind] at h
  split at h
  · cases h
  rename_i sl hsl
  split at h
  · cases h
  rename_i sm hsm
  obtain ⟨X, _ | s, b⟩ := sl
  · cases h
  obtain ⟨Y, _ | t, c⟩ := sm
  · cases h
  simp only at h
  cases hn : d.nodeAt (s :: X) with
  | none => simp [hn] at h
  | some n =>
    have hd : n ≠ .directory := by
      rintro rfl
      simp [hn] at h
    have hslash : (b || c) = false := by
      cases n <;> cases b <;> cases c <;> simp_all
    simp only [Bool.or_eq_false_iff] at hslash
    obtain ⟨rfl, rfl⟩ := hslash
    simp only [hn, Bool.or_self, Bool.false_eq_true, ↓reduceIte] at h
    refine ⟨s, X, t, Y, n, hsl, hsm, hn, hd, ?_⟩
    split at h
    · rename_i hsame
      simp only [Bool.and_eq_true, decide_eq_true_eq] at hsame
      exact ⟨by simp [hsame.1, hd], .inl ⟨(Except.ok.inj h).symm, hsame.1⟩⟩
    split at h
    · cases h
    rename_i hmay
    split at h
    · cases h
    · exact ⟨‹_›, .inr ⟨by simp_all, by simp_all, (Except.ok.inj h).symm⟩⟩

theorem setMode_eq_ok {mode : Nat} (h : d.setMode cwd p mode = .ok d') :
    (∃ l id, d.locate cwd true p = .ok ⟨l, some (.file id)⟩ ∧ d' = d.setModeOf id mode) ∨
      ∃ X, d.Leads cwd p X ∧ d' = d.setModeAt X mode := by
  simp only [setMode, bind, Except.bind] at h
  split at h
  · cases h
  rename_i spot hspot
  obtain ⟨l, _ | n⟩ := spot
  · cases h
  cases n with
  | directory => exact .inr ⟨l, locate_eq_directory_iff.1 hspot, (Except.ok.inj h).symm⟩
  | file id => exact .inl ⟨l, id, hspot, (Except.ok.inj h).symm⟩
  | symlink t => cases h

theorem setMode_of_leads (h : d.Leads cwd p X) (mode : Nat) :
    d.setMode cwd p mode = .ok (d.setModeAt X mode) := by
  simp [setMode, locate_eq_directory_iff.2 h, bind, Except.bind]

theorem openForWriting_eq_ok (h : d.openForWriting cwd p = .ok (d', id)) :
    (∃ l, d.locate cwd true p = .ok ⟨l, none⟩ ∧ d.mayWrite l.tail = true ∧
      d' = (d.addFile l ⟨plainMode, .data []⟩).1 ∧ id = d.next) ∨
    ∃ l f, d.locate cwd true p = .ok ⟨l, some (.file id)⟩ ∧ d.files.get? id = some f ∧
      f.isWritable = true ∧ d' = d.setFile id { f with content := .data [] } := by
  simp only [openForWriting, bind, Except.bind] at h
  split at h
  · split at h <;> cases h
  split at h
  · cases h
  rename_i spot hspot
  obtain ⟨l, _ | n⟩ := spot
  · simp only at h
    split at h
    · simp only [Except.ok.injEq, Prod.ext_iff] at h
      exact .inl ⟨l, hspot, ‹_›, h.1.symm, h.2.symm⟩
    · cases h
  cases n with
  | directory => cases h
  | symlink t => cases h
  | file j =>
    cases hf : d.files.get? j with
    | none => simp [hf] at h
    | some f =>
      simp only [hf] at h
      split at h
      · simp only [Except.ok.injEq, Prod.mk.injEq] at h
        obtain ⟨rfl, rfl⟩ := h
        exact .inr ⟨l, f, hspot, hf, ‹_›, rfl⟩
      · cases h

end Provision.Disk
