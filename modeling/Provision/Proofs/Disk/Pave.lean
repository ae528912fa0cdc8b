import Provision.Proofs.Disk.Landing
import Provision.Proofs.Path.Relative

namespace Provision.Disk

open PathText

variable {d : Disk} {cwd D X Y m : Location} {p s base : String} {n : Node} {j k : Nat}
  {us ws r : List String}

def ensure (d : Disk) (l : Location) : Disk :=
  if d.nodeAt l = none then d.put l .directory else d

/-- Makes each directory that is missing on the way down from a place. -/
def pave (d : Disk) (X : Location) : List String → Disk
  | [] => d
  | s :: r => (d.ensure (s :: X)).pave (s :: X) r

structure IsName (s : String) : Prop where
  not_current : s ≠ "."
  not_parent : s ≠ ".."
  short : s.utf8ByteSize ≤ maxName

theorem IsName.reach (h : IsName s) (d : Disk) (k : Nat) (X : Location) (r : List String)
    (hn : d.nodeAt (s :: X) = some .directory) : d.reach k X (s :: r) = d.reach k (s :: X) r := by
  rw [reach_name d k X r h.not_current h.not_parent, if_neg (Nat.not_lt.2 h.short), hn]

theorem IsName.reach_none (h : IsName s) (d : Disk) (k : Nat) (X : Location) (r : List String)
    (hn : d.nodeAt (s :: X) = none) : d.reach k X (s :: r) = .error .notFound := by
  rw [reach_name d k X r h.not_current h.not_parent, if_neg (Nat.not_lt.2 h.short), hn]

theorem nodeAt_ensure (d : Disk) (s : String) (X m : Location) :
    (d.ensure (s :: X)).nodeAt m =
      if d.nodeAt m = none ∧ s :: X = m then some .directory else d.nodeAt m := by
  rw [ensure]
  by_cases hm : s :: X = m
  · subst hm
    split <;> simp [nodeAt_put, *]
  · split <;> simp [nodeAt_put, hm]

theorem ensure_of_some (h : d.nodeAt X = some n) : d.ensure X = d := by simp [ensure, h]

theorem nodeAt_pave_iff : (d.pave X ws).nodeAt m = some n ↔ d.nodeAt m = some n ∨
    d.nodeAt m = none ∧ n = .directory ∧ ∃ us, us ≠ [] ∧ us <+: ws ∧ us.reverse ++ X = m := by
  induction ws generalizing d X with
  | nil =>
    simp only [pave, List.prefix_nil, iff_self_or]
    rintro ⟨-, -, us, hne, hus, -⟩
    exact absurd hus hne
  | cons s r ih =>
    have hiff : (∃ us, us ≠ [] ∧ us <+: s :: r ∧ us.reverse ++ X = m) ↔
        s :: X = m ∨ ∃ us, us ≠ [] ∧ us <+: r ∧ us.reverse ++ s :: X = m := by
      constructor
      · rintro ⟨us, hne, hus, rfl⟩
        obtain ⟨t, vs, rfl⟩ := List.exists_cons_of_ne_nil hne
        obtain ⟨rfl, hvs⟩ := List.cons_prefix_cons.1 hus
        by_cases hnil : vs = []
        · exact .inl (by simp [hnil])
        · exact .inr ⟨vs, hnil, hvs, by simp⟩
      · rintro (rfl | ⟨us, -, hus, rfl⟩)
        · exact ⟨[s], by simp, by simp, by simp⟩
        · exact ⟨s :: us, by simp, by simpa using hus, by simp⟩
    rw [pave, ih, nodeAt_ensure, hiff]
    by_cases hm : s :: X = m
    · cases hnone : d.nodeAt m with
      | none => simp [hm, eq_comm (a := n)]
      | some _ => simp
    · simp [hm]

@[simp] theorem files_ensure (d : Disk) (l : Location) : (d.ensure l).files = d.files := by
  rw [ensure]
  split <;> rfl

@[simp] theorem next_ensure (d : Disk) (l : Location) : (d.ensure l).next = d.next := by
  rw [ensure]
  split <;> rfl

@[simp] theorem modes_ensure (d : Disk) (l : Location) : (d.ensure l).modes = d.modes := by
  rw [ensure]
  split <;> rfl

@[simp] theorem files_pave (d : Disk) (X : Location) (ws : List String) :
    (d.pave X ws).files = d.files := by
  induction ws generalizing d X with
  | nil => rfl
  | cons s r ih => simp [pave, ih]

@[simp] theorem next_pave (d : Disk) (X : Location) (ws : List String) :
    (d.pave X ws).next = d.next := by
  induction ws generalizing d X with
  | nil => rfl
  | cons s r ih => simp [pave, ih]

@[simp] theorem modes_pave (d : Disk) (X : Location) (ws : List String) :
    (d.pave X ws).modes = d.modes := by
  induction ws generalizing d X with
  | nil => rfl
  | cons s r ih => simp [pave, ih]

@[simp] theorem modeAt_pave (d : Disk) (X : Location) (ws : List String) (m : Location) :
    (d.pave X ws).modeAt m = d.modeAt m := by
  rw [modeAt, modes_pave, modeAt]

@[simp] theorem mayWrite_pave (d : Disk) (X : Location) (ws : List String) (m : Location) :
    (d.pave X ws).mayWrite m = d.mayWrite m := mayWrite_congr (modeAt_pave d X ws m)

theorem pave_append (d : Disk) (X : Location) (us vs : List String) :
    d.pave X (us ++ vs) = (d.pave X us).pave (us.reverse ++ X) vs := by
  induction us generalizing d X with
  | nil => rfl
  | cons s r ih => simp [pave, ih]

theorem grows_pave (d : Disk) (X : Location) (ws : List String) : Grows d (d.pave X ws) := by
  intro l n hl
  exact nodeAt_pave_iff.2 (.inl hl)

theorem same_pave (hm : ∀ us, us ≠ [] → us <+: ws → us.reverse ++ X ≠ m) :
    Same d (d.pave X ws) m := by
  have hn : (d.pave X ws).nodeAt m = d.nodeAt m := by
    refine Option.ext fun n => ?_
    rw [nodeAt_pave_iff, or_iff_left]
    rintro ⟨-, -, us, hne, hus, he⟩
    exact hm us hne hus he
  exact ⟨hn, fileAt_eq hn fun id _ => by rw [files_pave], by simp⟩

/-- On the way down there is nothing but directories, as far as there is anything. -/
def Clear (d : Disk) (X : Location) (ws : List String) : Prop :=
  ∀ us, us <+: ws → ∀ n, d.nodeAt (us.reverse ++ X) = some n → n = .directory

theorem Clear.of_prefix (h : d.Clear X ws) (hu : us <+: ws) : d.Clear X us :=
  fun vs hv => h vs (hv.trans hu)

theorem Clear.tail (h : d.Clear X (s :: r)) : d.Clear (s :: X) r := by
  intro us hus n hn
  exact h (s :: us) (by simpa using hus) n (by simpa using hn)

theorem Clear.head (h : d.Clear X (s :: r)) :
    d.nodeAt (s :: X) = none ∨ d.nodeAt (s :: X) = some .directory := by
  cases hn : d.nodeAt (s :: X) with
  | none => exact .inl rfl
  | some n => exact .inr (congrArg some (h [s] (by simp) n (by simpa using hn)))

theorem Clear.last (h : d.Clear X (us ++ [s])) :
    d.nodeAt (s :: (us.reverse ++ X)) = none ∨
      d.nodeAt (s :: (us.reverse ++ X)) = some .directory := by
  cases hn : d.nodeAt (s :: (us.reverse ++ X)) with
  | none => exact .inl rfl
  | some n => exact .inr (congrArg some (h (us ++ [s]) List.prefix_rfl n (by simpa using hn)))

theorem Clear.pave (h : d.Clear X ws) (vs : List String) : (d.pave X vs).Clear X ws := by
  intro us hus n hn
  obtain hn | ⟨-, hn, -⟩ := nodeAt_pave_iff.1 hn
  · exact h us hus n hn
  · exact hn

theorem WellFormed.ensure (h : d.WellFormed) (hX : d.nodeAt X = some .directory) (s : String) :
    (d.ensure (s :: X)).WellFormed := by
  rw [Disk.ensure]
  split
  · exact h.put hX (by simp [*]) (by simp)
  · exact h

theorem WellFormed.pave (h : d.WellFormed) (hX : d.nodeAt X = some .directory)
    (hc : d.Clear X ws) : (d.pave X ws).WellFormed := by
  induction ws generalizing d X with
  | nil => exact h
  | cons s r ih =>
    have hs : (d.ensure (s :: X)).nodeAt (s :: X) = some .directory := by
      rw [nodeAt_ensure]
      obtain hn | hn := hc.head <;> simp [hn]
    refine ih (h.ensure hX s) hs fun us hus n hn => ?_
    rw [nodeAt_ensure] at hn
    split at hn
    · exact (Option.some.inj hn).symm
    · exact hc.tail us hus n hn

theorem nodeAt_pave_of_clear (hX : d.nodeAt X = some .directory) (hc : d.Clear X ws)
    (hu : us <+: ws) : (d.pave X ws).nodeAt (us.reverse ++ X) = some .directory := by
  cases hn : d.nodeAt (us.reverse ++ X) with
  | some n => exact nodeAt_pave_iff.2 (.inl (hn.trans (congrArg some (hc us hu n hn))))
  | none =>
    refine nodeAt_pave_iff.2 (.inr ⟨hn, rfl, us, ?_, hu, rfl⟩)
    rintro rfl
    simp [hX] at hn

section

variable (hn : ∀ s ∈ ws, IsName s)
include hn

theorem reach_directories (k : Nat) (h : ∀ us, us ≠ [] → us <+: ws →
    d.nodeAt (us.reverse ++ X) = some .directory) :
    d.reach k X ws = .ok (ws.reverse ++ X, k) := by
  induction ws generalizing X with
  | nil => simp
  | cons s r ih =>
    have hs : d.nodeAt (s :: X) = some .directory := h [s] (by simp) (by simp)
    rw [(hn s (by simp)).reach d k X r hs, ih fun t ht => hn t (by simp [ht])]
    · simp
    · intro us _ hus
      simpa using h (s :: us) (by simp) (by simpa using hus)

theorem reach_pave (k : Nat) (hX : d.nodeAt X = some .directory) (hc : d.Clear X ws) :
    (d.pave X ws).reach k X ws = .ok (ws.reverse ++ X, k) :=
  reach_directories hn k fun _ _ hu => nodeAt_pave_of_clear hX hc hu

theorem reach_clear (k : Nat) (hc : d.Clear X ws) :
    d.reach k X ws = .ok (ws.reverse ++ X, k) ∧ d.pave X ws = d ∨
      d.reach k X ws = .error .notFound := by
  induction ws generalizing X with
  | nil => exact .inl ⟨by simp, rfl⟩
  | cons s r ih =>
    have hs := hn s (by simp)
    obtain hnone | hdir := hc.head
    · exact .inr (hs.reach_none d k X r hnone)
    · rw [hs.reach d k X r hdir, Disk.pave, ensure_of_some hdir]
      simpa using ih (fun t ht => hn t (by simp [ht])) hc.tail

end

theorem slot_of_rooted (hroot : d.Rooted cwd base D k) (hu : Usable p) (he : EndsInName p)
    (hp : segments p = segments base ++ (us ++ [s])) (ha : isAbsolute p = isAbsolute base)
    (hs : IsName s) : d.slot cwd p = (d.reach k D us).map fun (Y, _) =>
      ⟨Y, some s, endsWithSlash p⟩ := by
  obtain ⟨vs, hvs, hfilter⟩ := he.segments (hp.trans (List.append_assoc _ _ _).symm)
  have ho : origin cwd p = origin cwd base := by rw [origin, origin, ha]
  have hreach : d.reach maxLinks (origin cwd p) vs = d.reach k D us := by
    rw [← reach_filter, hfilter, reach_append, ho, hroot]
    rfl
  rw [slot_of_usable d cwd hu, hvs, List.dropLast_concat, List.getLast?_concat, hreach]
  cases d.reach k D us with
  | error e => rfl
  | ok r => simp [Except.map, bind, Except.bind, hs.not_current, hs.not_parent, Nat.not_lt.2 hs.short]

end Provision.Disk
