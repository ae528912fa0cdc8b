import Provision.Proofs.Disk.Growth

namespace Provision

namespace PathText

theorem endsWithSlash_append {p q : String} (hq : q ≠ "") :
    endsWithSlash (p ++ q) = endsWithSlash q := by
  simp [endsWithSlash, List.getLast?_append, hq]

theorem exists_join {p q : String} (hq : isAbsolute q = false) :
    ∃ t, join p q = p ++ t ++ q := by
  simp only [join, hq, Bool.false_eq_true, ↓reduceIte]
  split
  · exact ⟨"", by simp⟩
  · exact ⟨"/", rfl⟩

theorem endsWithSlash_join {p q : String} (ha : isAbsolute q = false) (hq : q ≠ "") :
    endsWithSlash (join p q) = endsWithSlash q := by
  obtain ⟨t, ht⟩ := exists_join (p := p) ha
  rw [ht, endsWithSlash_append hq]

end PathText

namespace Disk

open PathText

variable {d : Disk} {cwd X Y l : Location} {p q s : String} {n : Node} {f : Bool} {k : Nat}

theorem names_append (p q : String) : names (p ++ "/" ++ q) = names p ++ names q := by
  simp [names, Text.split_append]

theorem names_join (hq : isAbsolute q = false) : names (join p q) = names p ++ names q := by
  simp only [join, hq, Bool.false_eq_true, ↓reduceIte, Bool.or_eq_true, decide_eq_true_eq]
  by_cases hp : p = ""
  · simp [hp, names, Text.split, Text.splitChars]
  · by_cases hs : endsWithSlash p = true
    · obtain ⟨r, rfl⟩ := exists_of_endsWithSlash hs
      have hr : names (r ++ "/") = names r := by
        simpa [names, Text.split, Text.splitChars] using names_append r ""
      rw [if_pos (.inr hs), names_append, hr]
    · rw [if_neg (by simp [hp, hs]), names_append]

theorem origin_join (cwd : Location) (hq : isAbsolute q = false) :
    origin cwd (join p q) = origin cwd p := by
  rw [origin, origin, isAbsolute_join hq]

theorem steps_join (ha : isAbsolute q = false) (hq : q ≠ "") :
    steps (join p q) = names p ++ steps q := by
  rw [steps_eq, steps_eq, names_join ha, endsWithSlash_join ha hq, List.append_assoc]

theorem locate_join (ha : isAbsolute q = false) (hq : steps q ≠ []) (hu : Usable (join p q)) :
    d.locate cwd f (join p q) =
      d.reach maxLinks (origin cwd p) (names p) >>= fun (X, k) => d.walk f k X (steps q) := by
  have hne : q ≠ "" := by
    rintro rfl
    exact hq (by decide)
  rw [locate_of_usable d cwd f hu, steps_join ha hne, origin_join cwd ha, walk_append d f _ _ _ hq]

theorem Usable.of_join (ha : isAbsolute q = false) (hu : Usable (join p q)) (hp : p ≠ "") :
    Usable p := by
  obtain ⟨t, ht⟩ := exists_join (p := p) ha
  rw [ht, String.append_assoc] at hu
  exact hu.cut hp

theorem isDir_of_locate_join {spot : Spot} (ha : isAbsolute q = false) (hq : steps q ≠ [])
    (h : d.locate cwd f (join p q) = .ok spot) : p = "" ∨ d.isDir cwd p = true := by
  by_cases hp : p = ""
  · exact .inl hp
  · right
    have hu := usable_of_locate h
    rw [locate_join ha hq hu] at h
    cases hr : d.reach maxLinks (origin cwd p) (names p) with
    | error e => simp [hr, bind, Except.bind] at h
    | ok r =>
      obtain ⟨X, k⟩ := r
      refine isDir_iff.2 ⟨X, hu.of_join ha hp, k, ?_⟩
      rw [← filter_names, reach_filter, hr]

end Disk
end Provision
