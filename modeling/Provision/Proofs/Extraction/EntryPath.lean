import Provision.Extraction.EntryPath
import Provision.Proofs.Path.Segments

namespace Provision.EntryPath

open PathText

variable {p q s name relative : String} {ws : List String}

theorem components_filter (p : String) : (components p).filter (· ≠ .current) =
    (if isAbsolute p then [.root] else []) ++ (segments p).map .ofSegment := by
  have hbody : ((segments p).map Component.ofSegment).filter (· ≠ .current) =
      (segments p).map Component.ofSegment := by
    refine List.filter_eq_self.2 fun c hc => ?_
    obtain ⟨s, -, rfl⟩ := List.mem_map.1 hc
    simp only [Component.ofSegment]
    split <;> simp
  simp only [components]
  split
  · simpa using hbody
  · split
    · simpa using hbody
    · simpa using hbody

theorem isSafe_iff : isSafe p = true ↔ isAbsolute p = false ∧ ".." ∉ segments p := by
  have hmem : Component.parent ∈ components p ↔ ".." ∈ segments p := by
    have hfilter : Component.parent ∈ components p ↔
        Component.parent ∈ (components p).filter (· ≠ .current) := by simp
    rw [hfilter, components_filter]
    simp only [List.mem_append, List.mem_map, Component.ofSegment]
    constructor
    · rintro (h | ⟨s, hs, h⟩)
      · split at h <;> simp at h
      · split at h
        · simp_all
        · cases h
    · exact fun h => .inr ⟨"..", h, by simp⟩
  simp [isSafe, ← hmem]

theorem segments_of_mem (h : s ∈ segments p) : segments s = [s] := by
  have hi := not_isIdle_of_mem_segments h
  have hs : segments ("/".intercalate [s]) = [s].filter (!isIdle ·) :=
    segments_intercalate (by simpa using not_mem_of_mem_segments h)
  simpa [hi] using hs

theorem isAbsolute_of_mem (h : s ∈ segments p) : isAbsolute s = false := by
  have hn := not_mem_of_mem_segments h
  cases hs : s.toList with
  | nil => simp [isAbsolute, hs]
  | cons c r =>
    have hc : c ≠ '/' := by
      rintro rfl
      simp [hs] at hn
    simp [isAbsolute, hs, hc]

theorem segments_foldl_join (h : ∀ s ∈ ws, s ∈ segments p) (q : String) :
    segments (ws.foldl join q) = segments q ++ ws ∧
      isAbsolute (ws.foldl join q) = isAbsolute q := by
  induction ws generalizing q with
  | nil => simp
  | cons s ws ih =>
    have hs := h s (by simp)
    obtain ⟨hsegs, habs⟩ := ih (fun t ht => h t (by simp [ht])) (join q s)
    simp only [List.foldl_cons]
    rw [hsegs, habs, segments_join (isAbsolute_of_mem hs), isAbsolute_join (isAbsolute_of_mem hs),
      segments_of_mem hs]
    simp

theorem text_ofSegment (s : String) : (Component.ofSegment s).text = s := by
  simp only [Component.ofSegment]
  split <;> simp_all [Component.text]

theorem stripFirst?_eq_some (hsafe : isSafe name = true) (h : stripFirst? name = some relative) :
    isAbsolute relative = false ∧ segments relative = (segments name).drop 1 ∧
      segments relative ≠ [] ∧ ".." ∉ segments relative := by
  obtain ⟨ha, hu⟩ := isSafe_iff.1 hsafe
  simp only [stripFirst?, components_filter, ha, Bool.false_eq_true, ↓reduceIte, List.nil_append,
    ← List.map_drop] at h
  have hmem : ∀ s ∈ (segments name).drop 1, s ∈ segments name := fun s hs => List.mem_of_mem_drop hs
  split at h
  · cases h
  · rename_i hne
    have hrel : relative = ((segments name).drop 1).foldl join "" := by
      simp only [Option.some.injEq] at h
      rw [← h, ofComponents, List.foldl_map]
      simp only [text_ofSegment]
    obtain ⟨hsegs, habs⟩ := segments_foldl_join hmem ""
    rw [← hrel] at hsegs habs
    simp only [segments_empty, List.nil_append, isAbsolute_empty] at hsegs habs
    refine ⟨habs, hsegs, ?_, ?_⟩
    · rw [hsegs]
      intro hnil
      exact hne (by simp [hnil])
    · rw [hsegs]
      exact fun hm => hu (hmem _ hm)

end Provision.EntryPath
