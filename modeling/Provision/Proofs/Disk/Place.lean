import Provision.Proofs.Disk.Walk

namespace Provision.Disk

open PathText

variable {d d' : Disk} {cwd X Y : Location} {p q s : String} {f : Bool} {k : Nat} {ws : List String}

structure Usable (p : String) : Prop where
  ne_empty : p ≠ ""
  no_nul : '\x00' ∉ p.toList
  short : p.utf8ByteSize < maxPath

instance (p : String) : Decidable (Usable p) :=
  decidable_of_iff (p ≠ "" ∧ '\x00' ∉ p.toList ∧ p.utf8ByteSize < maxPath)
    ⟨fun h => ⟨h.1, h.2.1, h.2.2⟩, fun h => ⟨h.ne_empty, h.no_nul, h.short⟩⟩

theorem Usable.cut {t : String} (h : Usable (q ++ t)) (hq : q ≠ "") : Usable q where
  ne_empty := hq
  no_nul := fun hn => h.no_nul (by simp [hn])
  short := by
    have := h.short
    simp only [String.utf8ByteSize_append] at this
    omega

def origin (cwd : Location) (p : String) : Location := if isAbsolute p then [] else cwd

def names (p : String) : List String := (Text.split '/' p).filter (· ≠ "")

theorem filter_names (p : String) : (names p).filter (· ≠ ".") = segments p := by
  simp only [names, segments, List.filter_filter]
  apply List.filter_congr
  intro s _
  simp [isIdle, Bool.and_comm]

theorem steps_eq (p : String) : steps p = names p ++ if endsWithSlash p then ["."] else [] := rfl

theorem filter_steps (p : String) : (steps p).filter (· ≠ ".") = segments p := by
  rw [steps_eq, List.filter_append, filter_names]
  split <;> simp

theorem locate_of_usable (d : Disk) (cwd : Location) (f : Bool) (h : Usable p) :
    d.locate cwd f p = d.walk f maxLinks (origin cwd p) (steps p) := by
  have hs : ¬ maxPath ≤ p.utf8ByteSize := Nat.not_le.2 h.short
  simp [locate, h.ne_empty, h.no_nul, hs, origin]

theorem usable_of_locate {f : Bool} {spot : Spot} (h : d.locate cwd f p = .ok spot) : Usable p := by
  simp only [locate] at h
  split at h
  · cases h
  split at h
  · cases h
  split at h
  · cases h
  · exact ⟨‹_›, by simpa using ‹¬ p.toList.contains '\x00' = true›, Nat.lt_of_not_le ‹_›⟩

def Leads (d : Disk) (cwd : Location) (p : String) (X : Location) : Prop :=
  Usable p ∧ ∃ k, d.reach maxLinks (origin cwd p) (segments p) = .ok (X, k)

theorem locate_eq_directory_iff :
    d.locate cwd true p = .ok ⟨X, some .directory⟩ ↔ d.Leads cwd p X := by
  constructor
  · intro h
    have hu := usable_of_locate h
    rw [locate_of_usable d cwd true hu, walk_eq_directory_iff] at h
    obtain ⟨k, hk⟩ := h
    rw [← reach_filter, filter_steps] at hk
    exact ⟨hu, k, hk⟩
  · rintro ⟨hu, k, hk⟩
    rw [locate_of_usable d cwd true hu, walk_eq_directory_iff]
    exact ⟨k, by rw [← reach_filter, filter_steps, hk]⟩

theorem isDir_iff : d.isDir cwd p = true ↔ ∃ X, d.Leads cwd p X := by
  simp only [← locate_eq_directory_iff, isDir, nodeOf?]
  cases h : d.locate cwd true p with
  | error e => simp
  | ok spot =>
    obtain ⟨l, n⟩ := spot
    cases n <;> simp

theorem walk_dot (d : Disk) (k : Nat) (X : Location) (ws : List String) :
    d.walk true k X (ws ++ ["."]) = (d.reach k X ws).map fun (Y, _) => ⟨Y, some .directory⟩ := by
  rw [walk_append d true k X ws (by simp)]
  cases d.reach k X ws with
  | error e => rfl
  | ok r => simp [Except.map, bind, Except.bind]

theorem slot_of_usable (d : Disk) (cwd : Location) (h : Usable p) :
    d.slot cwd p = d.reach maxLinks (origin cwd p) (names p).dropLast >>= fun (X, _) =>
      match (names p).getLast? with
      | none => .ok ⟨X, none, true⟩
      | some s =>
        if s = "." ∨ s = ".." then .ok ⟨X, none, true⟩
        else if maxName < s.utf8ByteSize then .error .nameTooLong
        else .ok ⟨X, some s, endsWithSlash p⟩ := by
  have hs : ¬ maxPath ≤ p.utf8ByteSize := Nat.not_le.2 h.short
  have hn : ¬ p.toList.contains '\x00' = true := by simpa using h.no_nul
  rw [slot, if_neg h.ne_empty, if_neg hn, if_neg hs]
  have hnames : (Text.split '/' p).filter (· ≠ "") = names p := rfl
  have horigin : (if isAbsolute p then [] else cwd) = origin cwd p := rfl
  simp only [hnames, horigin, walk_dot]
  cases d.reach maxLinks (origin cwd p) (names p).dropLast with
  | error e => rfl
  | ok r => cases (names p).getLast? <;> simp [Except.map, bind, Except.bind]

theorem usable_of_slot {sl : Slot} (h : d.slot cwd p = .ok sl) : Usable p := by
  simp only [slot] at h
  split at h
  · cases h
  split at h
  · cases h
  split at h
  · cases h
  · exact ⟨‹_›, by simpa using ‹¬ p.toList.contains '\x00' = true›, Nat.lt_of_not_le ‹_›⟩

theorem exists_slot {vs : List String} {sl : Slot} (hnames : names p = vs ++ [s]) (hc : s ≠ ".")
    (hu : s ≠ "..") (h : d.slot cwd p = .ok sl) :
    ∃ X k, d.reach maxLinks (origin cwd p) vs = .ok (X, k) ∧ s.utf8ByteSize ≤ maxName ∧
      sl = ⟨X, some s, endsWithSlash p⟩ := by
  rw [slot_of_usable d cwd (usable_of_slot h), hnames, List.dropLast_concat,
    List.getLast?_concat] at h
  cases hr : d.reach maxLinks (origin cwd p) vs with
  | error e => simp [hr, bind, Except.bind] at h
  | ok r =>
    simp only [hr, bind, Except.bind, hc, hu, or_self, ↓reduceIte] at h
    split at h
    · cases h
    · exact ⟨r.1, r.2, rfl, Nat.not_lt.1 ‹_›, (Except.ok.inj h).symm⟩

theorem locate_of_idle (h : Usable p) (hs : steps p = ws ++ [s]) (hidle : s = "." ∨ s = "..")
    (hr : d.reach maxLinks (origin cwd p) ws = .ok (X, k)) :
    ∃ l, d.locate cwd false p = .ok ⟨l, some .directory⟩ := by
  rw [locate_of_usable d cwd false h, hs, walk_append d false _ _ _ (by simp), hr]
  obtain rfl | rfl := hidle
  · exact ⟨X, by simp [bind, Except.bind]⟩
  · exact ⟨X.tail, by simp [bind, Except.bind]⟩

theorem slot_eq_some_iff {b : Bool} : d.slot cwd p = .ok ⟨X, some s, b⟩ ↔
    Usable p ∧ s ≠ "." ∧ s ≠ ".." ∧ s.utf8ByteSize ≤ maxName ∧ b = endsWithSlash p ∧
      ∃ ws, names p = ws ++ [s] ∧ ∃ k, d.reach maxLinks (origin cwd p) ws = .ok (X, k) := by
  constructor
  · intro h
    have hu := usable_of_slot h
    rw [slot_of_usable d cwd hu] at h
    cases hr : d.reach maxLinks (origin cwd p) (names p).dropLast with
    | error e => simp [hr, bind, Except.bind] at h
    | ok r =>
      obtain ⟨Y, k⟩ := r
      cases hl : (names p).getLast? with
      | none => simp [hr, hl, bind, Except.bind] at h
      | some t =>
        simp only [hr, hl, bind, Except.bind] at h
        split at h
        · simp at h
        · split at h
          · simp at h
          · rename_i hd hn
            simp only [Except.ok.injEq, Slot.mk.injEq, Option.some.injEq] at h
            obtain ⟨rfl, rfl, rfl⟩ := h
            simp only [not_or] at hd
            obtain ⟨ws, hw⟩ := List.getLast?_eq_some_iff.1 hl
            refine ⟨hu, hd.1, hd.2, Nat.not_lt.1 hn, rfl, ws, hw, k, ?_⟩
            simpa [hw] using hr
  · rintro ⟨hu, hc, hp, hn, rfl, ws, hw, k, hk⟩
    rw [slot_of_usable d cwd hu, hw]
    simp [hk, hc, hp, Nat.not_lt.2 hn, bind, Except.bind]

theorem slot_segments {b : Bool} (h : d.slot cwd p = .ok ⟨X, some s, b⟩) :
    Usable p ∧ s ≠ "." ∧ s ≠ ".." ∧
      ∃ ws, segments p = ws ++ [s] ∧ ∃ k, d.reach maxLinks (origin cwd p) ws = .ok (X, k) := by
  obtain ⟨hu, hc, hp, -, -, ws, hw, k, hk⟩ := slot_eq_some_iff.1 h
  refine ⟨hu, hc, hp, ws.filter (· ≠ "."), ?_, k, by rw [reach_filter, hk]⟩
  rw [← filter_names, hw]
  simp [hc]

theorem locate_of_slot (h : d.slot cwd p = .ok ⟨X, some s, false⟩) :
    d.locate cwd false p = .ok ⟨s :: X, d.nodeAt (s :: X)⟩ := by
  obtain ⟨hu, hc, hp, hn, hb, ws, hw, k, hk⟩ := slot_eq_some_iff.1 h
  have hsteps : steps p = ws ++ [s] := by simp [steps_eq, ← hb, hw]
  rw [locate_of_usable d cwd false hu, hsteps, walk_append _ _ _ _ _ (by simp), hk]
  simp only [bind, Except.bind]
  rw [walk_name d false k X [] hc hp, if_neg (Nat.not_lt.2 hn)]
  cases hnode : d.nodeAt (s :: X) with
  | none => rfl
  | some n => cases n <;> simp

theorem slot_of_locate {spot : Spot} (h : d.locate cwd f p = .ok spot) :
    ∃ sl, d.slot cwd p = .ok sl := by
  have hu := usable_of_locate h
  rw [slot_of_usable d cwd hu]
  by_cases hnil : names p = []
  · exact ⟨⟨origin cwd p, none, true⟩, by simp [hnil, bind, Except.bind]⟩
  obtain ⟨ws, s, hws⟩ : ∃ ws s, names p = ws ++ [s] :=
    ⟨_, _, (List.dropLast_concat_getLast hnil).symm⟩
  rw [locate_of_usable d cwd f hu, steps_eq, hws, List.append_assoc,
    walk_append d f _ _ _ (by simp)] at h
  rw [hws, List.dropLast_concat, List.getLast?_concat]
  cases hr : d.reach maxLinks (origin cwd p) ws with
  | error e => simp [hr, bind, Except.bind] at h
  | ok r =>
    obtain ⟨X, k⟩ := r
    simp only [hr, bind, Except.bind] at h ⊢
    split
    · exact ⟨_, rfl⟩
    rename_i hd
    simp only [not_or] at hd
    rw [List.singleton_append, walk_name d f k X _ hd.1 hd.2] at h
    split at h
    · cases h
    · rw [if_neg ‹_›]
      exact ⟨_, rfl⟩

theorem locate_of_slot_plain (h : d.slot cwd p = .ok ⟨X, some s, false⟩)
    (hn : ∀ t, d.nodeAt (s :: X) ≠ some (.symlink t)) :
    d.locate cwd f p = .ok ⟨s :: X, d.nodeAt (s :: X)⟩ := by
  cases f with
  | false => exact locate_of_slot h
  | true =>
    obtain ⟨hu, hc, hp, hlen, hb, ws, hw, k, hk⟩ := slot_eq_some_iff.1 h
    have hsteps : steps p = ws ++ [s] := by simp [steps_eq, ← hb, hw]
    rw [locate_of_usable d cwd true hu, hsteps, walk_append _ _ _ _ _ (by simp), hk]
    simp only [bind, Except.bind]
    rw [walk_name d true k X [] hc hp, if_neg (Nat.not_lt.2 hlen)]
    cases hnode : d.nodeAt (s :: X) with
    | none => rfl
    | some n =>
      cases n with
      | directory => simp
      | file id => rfl
      | symlink t => exact absurd hnode (hn t)

theorem isPresent_of_slot (h : d.slot cwd p = .ok ⟨X, some s, false⟩)
    (hn : ∀ t, d.nodeAt (s :: X) ≠ some (.symlink t)) :
    d.isPresent cwd p = (d.nodeAt (s :: X)).isSome := by
  rw [isPresent, nodeOf?, locate_of_slot_plain h hn]
  cases d.nodeAt (s :: X) <;> simp

end Provision.Disk
