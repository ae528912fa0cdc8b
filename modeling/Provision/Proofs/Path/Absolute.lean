import Provision.Proofs.Path.Relative

namespace Provision.PathText

variable {cwd p q start : String} {ws : List String} {slash : Bool}

def spelled (start : String) (ws : List String) (slash : Bool) : String :=
  if slash then join (ws.foldl join start) "" else ws.foldl join start

def startOf (cwd p : String) : String :=
  if !isAbsolute p then cwd
  else if p.startsWith "//" && !p.startsWith "///" then "//" else "/"

theorem absolute?_eq (hp : p ≠ "") :
    absolute? cwd p = some (spelled (startOf cwd p) (segments p) (endsWithSlash p)) := by
  have hbody : (components p).filter (fun c => c ≠ .root && c ≠ .current) =
      (segments p).map .ofSegment := by
    have hroot : ((segments p).map Component.ofSegment).filter (· ≠ .root) =
        (segments p).map .ofSegment := by
      refine List.filter_eq_self.2 fun c hc => ?_
      obtain ⟨s, -, rfl⟩ := List.mem_map.1 hc
      simp only [Component.ofSegment]
      split <;> simp
    have hfilter : (components p).filter (fun c => c ≠ .root && c ≠ .current) =
        ((components p).filter (· ≠ .current)).filter (· ≠ .root) := by
      simp [List.filter_filter]
    rw [hfilter, EntryPath.components_filter, List.filter_append, hroot]
    split <;> simp
  rw [absolute?, if_neg hp]
  simp only [hbody, List.foldl_map, EntryPath.text_ofSegment]
  rfl

theorem isAbsolute_spelled (h : isAbsolute start = true) :
    isAbsolute (spelled start ws slash) = true := by
  have hjoin : ∀ p q, isAbsolute p = true → isAbsolute (join p q) = true := by
    intro p q hp
    cases hq : isAbsolute q with
    | true => simp [join, hq]
    | false => rw [isAbsolute_join hq, hp]
  have hfold : isAbsolute (ws.foldl join start) = true :=
    List.foldlRecOn ws join h fun p hp q _ => hjoin p q hp
  cases slash with
  | false => exact hfold
  | true => exact hjoin _ "" hfold

theorem isAbsolute_absolute? {c : Location} (h : absolute? c.text p = some q) :
    isAbsolute q = true := by
  have hp : p ≠ "" := by
    rintro rfl
    simp [absolute?] at h
  rw [absolute?_eq hp, Option.some.injEq] at h
  subst h
  apply isAbsolute_spelled
  rw [startOf]
  split
  · simp [Location.text, isAbsolute]
  · split <;> decide

def IsRoot (start : String) : Prop := start = "/" ∨ start = "//"

theorem IsRoot.endsWithSlash (h : IsRoot start) : endsWithSlash start = true := by
  obtain rfl | rfl := h <;> decide

theorem spelled_root (hs : IsRoot start) (h : ∀ s ∈ ws, IsSegment s) :
    spelled start ws slash =
      start ++ "/".intercalate ws ++ if slash && ws ≠ [] then "/" else "" := by
  have hfold : ws.foldl join start = start ++ "/".intercalate ws := by
    by_cases hne : ws = []
    · simp [hne]
    · rw [foldl_join_of_ne_nil h hne, join, isAbsolute_of_isSegment h]
      simp [hs.endsWithSlash]
  rw [spelled, hfold]
  cases slash with
  | false => simp
  | true =>
    by_cases hne : ws = []
    · simp [hne, join, hs.endsWithSlash]
    · have hslash : PathText.endsWithSlash (start ++ "/".intercalate ws) = false := by
        rw [endsWithSlash_append (intercalate_ne_empty h hne), endsWithSlash_of_isSegment h]
      simp [hne, join, hslash, intercalate_ne_empty h hne]

theorem startOf_root (hs : IsRoot start) (hp : isAbsolute p = false) :
    startOf cwd (start ++ p) = start := by
  have hno : ¬ ['/'] <+: p.toList := by
    rintro ⟨r, hr⟩
    simp [isAbsolute, ← hr] at hp
  have habs : isAbsolute (start ++ p) = true := by
    obtain rfl | rfl := hs <;> simp [isAbsolute]
  have htwo : (start ++ p).startsWith "//" = decide (start = "//") := by
    rw [Bool.eq_iff_iff, String.startsWith_string_iff]
    obtain rfl | rfl := hs <;> simp [hno]
  have hthree : (start ++ p).startsWith "///" = false := by
    rw [String.startsWith_string_eq_false_iff]
    have hnone : ¬ ['/', '/'] <+: p.toList := fun h => hno ((List.prefix_append ['/'] ['/']).trans h)
    obtain rfl | rfl := hs <;> simp [hno, hnone]
  obtain rfl | rfl := hs <;> simp [startOf, habs, htwo, hthree]

theorem segments_rooted (hs : IsRoot start) (p : String) : segments (start ++ p) = segments p := by
  obtain rfl | rfl := hs
  · exact segments_root p
  · have htwo : "//" ++ p = "/" ++ ("/" ++ p) := by
      apply String.toList_injective
      simp
    rw [htwo, segments_root, segments_root]

theorem absolute?_spelled (hs : IsRoot start) (h : ∀ s ∈ ws, IsSegment s) :
    absolute? cwd (spelled start ws slash) = some (spelled start ws slash) := by
  by_cases hnil : ws = []
  · have htext (b : Bool) : spelled start [] b = start ++ "" := by simp [spelled_root hs]
    have hne : start ++ "" ≠ "" := by obtain rfl | rfl := hs <;> decide
    rw [hnil, htext, absolute?_eq hne, startOf_root hs isAbsolute_empty, segments_rooted hs,
      segments_empty, htext]
  · let t := "/".intercalate ws ++ if slash then "/" else ""
    have htext : spelled start ws slash = start ++ t := by
      simp [spelled_root hs h, hnil, t, String.append_assoc]
    have hempty := intercalate_ne_empty h hnil
    have ht : isAbsolute t = false := by rw [isAbsolute_append _ hempty, isAbsolute_of_isSegment h]
    have hsegs : segments t = ws := by
      cases slash <;> simp [t, segments_slash, segments_of_isSegment h]
    have hslash : PathText.endsWithSlash (start ++ t) = slash := by
      rw [endsWithSlash_append (by simp [t, hempty])]
      cases slash with
      | false => simpa [t] using endsWithSlash_of_isSegment h
      | true => exact endsWithSlash_append (by decide)
    rw [htext, absolute?_eq (by simp [t, hempty]), startOf_root hs ht, segments_rooted hs, hsegs,
      hslash, htext]

theorem absolute?_absolute? {c : Location} (hc : ∀ s ∈ c, IsSegment s)
    (h : absolute? c.text p = some q) : absolute? cwd q = some q := by
  have hp : p ≠ "" := by
    rintro rfl
    simp [absolute?] at h
  have hsegs : ∀ s ∈ segments p, IsSegment s := fun s => isSegment_of_mem
  rw [absolute?_eq hp, Option.some.injEq] at h
  subst h
  rw [startOf]
  split
  · have hrev : ∀ s ∈ c.reverse, IsSegment s := fun s hs => hc s (List.mem_reverse.1 hs)
    have hfold : c.text = c.reverse.foldl join "/" := by
      have htext : spelled "/" c.reverse false = _ := spelled_root (.inl rfl) hrev
      simpa [spelled, Location.text] using htext.symm
    have hall : spelled c.text (segments p) (PathText.endsWithSlash p) =
        spelled "/" (c.reverse ++ segments p) (PathText.endsWithSlash p) := by
      simp only [spelled, hfold, List.foldl_append]
    rw [hall]
    refine absolute?_spelled (.inl rfl) fun s hs => ?_
    exact (List.mem_append.1 hs).elim (hrev s) (hsegs s)
  · split
    · exact absolute?_spelled (.inr rfl) hsegs
    · exact absolute?_spelled (.inl rfl) hsegs

end Provision.PathText
