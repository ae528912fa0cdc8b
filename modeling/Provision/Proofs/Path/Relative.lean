import Mathlib.Data.List.Induction
import Provision.Proofs.Disk.Join
import Provision.Proofs.Extraction.EntryPath

namespace Provision

namespace PathText

variable {p q s start : String} {ws us vs : List String}

structure IsSegment (s : String) : Prop where
  not_idle : isIdle s = false
  no_slash : '/' ∉ s.toList

theorem isSegment_of_mem (h : s ∈ segments p) : IsSegment s :=
  ⟨not_isIdle_of_mem_segments h, not_mem_of_mem_segments h⟩

theorem IsSegment.ne_empty (h : IsSegment s) : s ≠ "" := by
  rintro rfl
  exact absurd h.not_idle (by decide)

theorem IsSegment.ne_current (h : IsSegment s) : s ≠ "." := by
  rintro rfl
  exact absurd h.not_idle (by decide)

theorem IsSegment.split (h : IsSegment s) : Text.split '/' s = [s] := by
  have hsplit : Text.split '/' ("/".intercalate [s]) = [s] :=
    Text.split_intercalate (by simp) (by simpa using h.no_slash)
  simpa using hsplit

section

variable (h : ∀ s ∈ ws, IsSegment s)
include h

theorem segments_of_isSegment : segments ("/".intercalate ws) = ws := by
  rw [segments_intercalate fun s hs => (h s hs).no_slash, List.filter_eq_self]
  exact fun s hs => by simp [(h s hs).not_idle]

theorem names_of_isSegment : Disk.names ("/".intercalate ws) = ws := by
  by_cases hne : ws = []
  · subst hne
    decide
  · rw [Disk.names, Text.split_intercalate hne fun s hs => (h s hs).no_slash, List.filter_eq_self]
    exact fun s hs => by simp [(h s hs).ne_empty]

theorem isAbsolute_of_isSegment : isAbsolute ("/".intercalate ws) = false := by
  cases ws with
  | nil => rfl
  | cons s r =>
    have hs := h s (by simp)
    cases hl : s.toList with
    | nil => exact absurd (String.toList_injective hl) hs.ne_empty
    | cons c cs =>
      have hc : c ≠ '/' := by
        rintro rfl
        exact hs.no_slash (by simp [hl])
      cases r <;> simp [isAbsolute, hl, hc]

theorem endsWithSlash_of_isSegment : endsWithSlash ("/".intercalate ws) = false := by
  cases hs : endsWithSlash ("/".intercalate ws) with
  | false => rfl
  | true =>
    obtain ⟨vs, hvs⟩ := last_of_endsWithSlash hs
    by_cases hne : ws = []
    · simp [hne, endsWithSlash] at hs
    · rw [Text.split_intercalate hne fun s hs => (h s hs).no_slash] at hvs
      exact absurd rfl (h "" (by simp [hvs])).ne_empty

end

theorem IsSegment.isAbsolute (h : IsSegment s) : isAbsolute s = false := by
  simpa using isAbsolute_of_isSegment (List.forall_mem_singleton.2 h)

theorem IsSegment.segments (h : IsSegment s) : segments s = [s] := by
  simpa using segments_of_isSegment (List.forall_mem_singleton.2 h)

theorem IsSegment.steps_ne_nil (h : IsSegment s) : Disk.steps s ≠ [] := by
  have hnames := names_of_isSegment (List.forall_mem_singleton.2 h)
  rw [String.intercalate_singleton] at hnames
  simp [Disk.steps_eq, hnames]

theorem intercalate_ne_empty (h : ∀ s ∈ ws, IsSegment s) (hne : ws ≠ []) :
    "/".intercalate ws ≠ "" := by
  intro he
  have := segments_of_isSegment h
  rw [he, segments_empty] at this
  exact hne this.symm

theorem join_append (ha : isAbsolute q = false) (hq : q ≠ "") (t : String) :
    join p (q ++ t) = join p q ++ t := by
  simp only [join, isAbsolute_append t hq, ha, Bool.false_eq_true, ↓reduceIte]
  split
  · rw [String.append_assoc]
  · simp only [String.append_assoc]

theorem foldl_join_of_ne_nil (h : ∀ s ∈ ws, IsSegment s) (hne : ws ≠ []) (p : String) :
    ws.foldl join p = join p ("/".intercalate ws) := by
  induction ws using List.reverseRecOn with
  | nil => exact absurd rfl hne
  | append_singleton us s ih =>
    have hus : ∀ t ∈ us, IsSegment t := fun t ht => h t (by simp [ht])
    rw [List.foldl_append, List.foldl_cons, List.foldl_nil]
    by_cases hnil : us = []
    · simp [hnil]
    · have ha := isAbsolute_of_isSegment hus
      have hs : isAbsolute ("/".intercalate [s]) = false :=
        isAbsolute_of_isSegment (by simpa using h s (by simp))
      rw [String.intercalate_singleton] at hs
      have hslash : endsWithSlash (join p ("/".intercalate us)) = false := by
        rw [endsWithSlash_join ha (intercalate_ne_empty hus hnil), endsWithSlash_of_isSegment hus]
      have hempty : join p ("/".intercalate us) ≠ "" := by
        obtain ⟨t, ht⟩ := exists_join (p := p) ha
        simp [ht, intercalate_ne_empty hus hnil]
      rw [ih hus hnil, String.intercalate_append_of_ne_nil hnil (by simp), String.append_assoc,
        join_append ha (intercalate_ne_empty hus hnil), join, hs]
      simp [hslash, hempty, String.append_assoc]

theorem foldl_join (h : ∀ s ∈ ws, IsSegment s) : ws.foldl join "" = "/".intercalate ws := by
  by_cases hne : ws = []
  · simp [hne]
  · simp [foldl_join_of_ne_nil h hne, join, isAbsolute_of_isSegment h]

theorem length_filter_splitChars (sep : Char) (s : List Char) :
    ((Text.splitChars sep s).filter (· ≠ [])).length ≤ s.length := by
  induction s with
  | nil => simp [Text.splitChars]
  | cons c r ih =>
    by_cases hc : c = sep
    · simpa [Text.splitChars, hc] using Nat.le_succ_of_le ih
    · cases hr : Text.splitChars sep r with
      | nil => simp [Text.splitChars, hc, hr]
      | cons w ws =>
        have hle : (ws.filter (· ≠ [])).length ≤ ((w :: ws).filter (· ≠ [])).length :=
          ((List.sublist_cons_self w ws).filter _).length_le
        rw [hr] at ih
        simpa [Text.splitChars, hc, hr] using Nat.le_trans hle ih

theorem length_segments_le (p : String) : (segments p).length ≤ p.length := by
  have hnames : (Disk.names p).length ≤ p.length := by
    have h := length_filter_splitChars '/' p.toList
    rw [String.length_toList] at h
    simpa [Disk.names, Text.split, List.filter_map, Function.comp_def] using h
  rw [← Disk.filter_names]
  exact Nat.le_trans (List.length_filter_le _ _) hnames

def EndsInName (p : String) : Prop := ∃ vs s, Disk.names p = vs ++ [s] ∧ s ≠ "."

theorem EndsInName.segments (h : EndsInName p) (hp : segments p = ws ++ [s]) :
    ∃ vs, Disk.names p = vs ++ [s] ∧ vs.filter (· ≠ ".") = ws := by
  obtain ⟨vs, t, hvs, ht⟩ := h
  have hf := Disk.filter_names p
  have ht' : [t].filter (· ≠ ".") = [t] := by simp [ht]
  rw [hvs, hp, List.filter_append, ht'] at hf
  obtain ⟨hw, hs⟩ := List.append_inj' hf rfl
  obtain rfl : t = s := by simpa using hs
  exact ⟨vs, hvs, hw⟩

theorem endsInName_join (h : ∀ s ∈ ws, IsSegment s) (hne : ws ≠ []) (p : String) :
    EndsInName (join p ("/".intercalate ws)) := by
  obtain ⟨us, s, rfl⟩ : ∃ us s, ws = us ++ [s] := ⟨_, _, (List.dropLast_concat_getLast hne).symm⟩
  refine ⟨Disk.names p ++ us, s, ?_, (h s (by simp)).ne_current⟩
  rw [Disk.names_join (isAbsolute_of_isSegment h), names_of_isSegment h, List.append_assoc]

theorem dropLastName?_last (h : dropLastName? ws = some us) :
    us = [] ∨ ∃ vs s, us = vs ++ [s] ∧ isIdle s = false := by
  cases hd : ws.reverse.dropWhile isIdle with
  | nil => simp [dropLastName?, hd] at h
  | cons s rest =>
    simp only [dropLastName?, hd, Option.some.injEq] at h
    cases hr : rest.dropWhile isIdle with
    | nil => simp [← h, hr]
    | cons t r =>
      have ht : isIdle t = false := by
        simpa [hr] using List.head_dropWhile_not isIdle (l := rest) (by simp [hr])
      exact .inr ⟨r.reverse, t, by simp [← h, hr], ht⟩

theorem Cut.split_last (h : Cut p start ws) (hu : us <+: ws) (hus : us = vs ++ [s])
    (hs : isIdle s = false) : ∃ as, Text.split '/' (start ++ "/".intercalate us) = as ++ [s] := by
  have hseg : IsSegment s := ⟨hs, h.plain s (hu.subset (by simp [hus]))⟩
  by_cases hvs : vs = []
  · obtain rfl : us = [s] := by simpa [hvs] using hus
    obtain hstart | ⟨-, hhead⟩ | ⟨hstart, -⟩ := h.start
    · refine ⟨[""], ?_⟩
      have := Text.split_append "" s
      rw [hseg.split] at this
      simpa [hstart, Text.split, Text.splitChars] using this
    · obtain ⟨t, rfl⟩ := hu
      obtain rfl : s = "" := by simpa using hhead
      exact absurd rfl hseg.ne_empty
    · exact ⟨[], by simp [hstart, hseg.split]⟩
  · refine ⟨Text.split '/' (start ++ "/".intercalate vs), ?_⟩
    have := Text.split_append (start ++ "/".intercalate vs) s
    rw [hseg.split] at this
    rw [hus, String.intercalate_append_of_ne_nil hvs (by simp), ← this]
    simp [String.append_assoc]

theorem endsInName_parent (h : parent? p = some q) (hq : segments q ≠ []) : EndsInName q := by
  have hc := cut_body p
  simp only [parent?] at h
  cases hd : dropLastName? (body p).2 with
  | some us =>
    obtain ⟨hu, -⟩ := dropLastName?_eq_some hd
    simp only [hd, Option.some.injEq] at h
    obtain rfl | ⟨vs, s, hus, hs⟩ := dropLastName?_last hd
    · have := hc.segments_prefix hu
      simp_all
    · obtain ⟨as, has⟩ := hc.split_last hu hus hs
      have hseg : s ≠ "" ∧ s ≠ "." := by simpa [isIdle] using hs
      exact ⟨as.filter (· ≠ ""), s, by simp [Disk.names, ← h, has, hseg.1], hseg.2⟩
  | none =>
    simp only [hd] at h
    obtain ⟨-, rfl⟩ : (body p).1 = "." ∧ "" = q := by simpa using h
    exact absurd segments_empty hq

theorem segments_of_parent_none (h : parent? p = none) : segments p = [] := by
  have hc := cut_body p
  have hsegs := hc.segments_prefix List.prefix_rfl
  rw [← hc.text] at hsegs
  simp only [parent?] at h
  cases hd : dropLastName? (body p).2 with
  | some us => simp [hd] at h
  | none => rw [hsegs, dropLastName?_eq_none hd]

end PathText

namespace EntryPath

open PathText

variable {name relative : String}

theorem stripFirst?_safe (h : isSafe name = true) :
    stripFirst? name = if (segments name).drop 1 = [] then none
      else some ("/".intercalate ((segments name).drop 1)) := by
  obtain ⟨ha, -⟩ := isSafe_iff.1 h
  have hseg : ∀ s ∈ (segments name).drop 1, IsSegment s :=
    fun s hs => isSegment_of_mem (List.mem_of_mem_drop hs)
  simp only [stripFirst?, components_filter, ha, Bool.false_eq_true, ↓reduceIte, List.nil_append,
    ← List.map_drop]
  split
  · rw [if_pos (List.map_eq_nil_iff.1 ‹_›)]
  · rename_i hne
    rw [if_neg (mt List.map_eq_nil_iff.2 hne), ofComponents, List.foldl_map, ← foldl_join hseg]
    simp only [text_ofSegment]

end EntryPath
end Provision
