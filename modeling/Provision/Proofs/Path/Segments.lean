import Provision.PathText

namespace Provision

namespace Text

theorem splitChars_eq_splitOn (sep : Char) (s : List Char) : splitChars sep s = s.splitOn sep := by
  induction s with
  | nil => rfl
  | cons c r ih =>
    rw [List.splitOn_cons_eq_if_modifyHead, splitChars, ih]
    by_cases h : c = sep
    · simp [h]
    · cases hr : r.splitOn sep with
      | nil => exact absurd hr (List.splitOn_ne_nil sep r)
      | cons w ws => simp [h]

theorem splitChars_append (sep : Char) (s t : List Char) :
    splitChars sep (s ++ sep :: t) = splitChars sep s ++ splitChars sep t := by
  simp only [splitChars_eq_splitOn, List.splitOn_append_cons_self]

theorem splitChars_append_plain {sep : Char} (s : List Char) {t : List Char} (h : sep ∉ t) :
    ∃ ws w, splitChars sep s = ws ++ [w] ∧ splitChars sep (s ++ t) = ws ++ [w ++ t] := by
  induction s with
  | nil =>
    refine ⟨[], [], rfl, ?_⟩
    rw [splitChars_eq_splitOn]
    exact List.splitOn_eq_singleton h
  | cons c r ih =>
    obtain ⟨ws, w, hw, hwt⟩ := ih
    simp only [splitChars, List.cons_append, hw, hwt]
    split
    · exact ⟨[] :: ws, w, rfl, rfl⟩
    · cases ws with
      | nil => exact ⟨[], c :: w, rfl, rfl⟩
      | cons v vs => exact ⟨(c :: v) :: vs, w, rfl, rfl⟩

theorem not_mem_of_mem_splitChars {sep : Char} {s w : List Char} (h : w ∈ splitChars sep s) :
    sep ∉ w := by
  induction s generalizing w with
  | nil => simp_all [splitChars]
  | cons c r ih =>
    by_cases hc : c = sep
    · simp only [splitChars, hc, ↓reduceIte, List.mem_cons] at h
      obtain rfl | h := h
      · simp
      · exact ih h
    · cases hr : splitChars sep r with
      | nil => exact absurd hr (splitChars_ne_nil sep r)
      | cons v vs =>
        simp only [splitChars, hc, ↓reduceIte, hr, List.mem_cons] at h
        obtain rfl | h := h
        · have := ih (w := v) (by simp [hr])
          simp [this, Ne.symm hc]
        · exact ih (by simp [hr, h])

theorem split_append (s t : String) : split '/' (s ++ "/" ++ t) = split '/' s ++ split '/' t := by
  simp [split, splitChars_append]

theorem split_append_plain (p : String) {t : String} (h : '/' ∉ t.toList) :
    ∃ ws w, split '/' p = ws ++ [w] ∧ split '/' (p ++ t) = ws ++ [w ++ t] := by
  obtain ⟨ws, w, hw, hwt⟩ := splitChars_append_plain p.toList h
  exact ⟨ws.map .ofList, .ofList w, by simp [split, hw], by simp [split, hwt]⟩

theorem not_mem_of_mem_split {sep : Char} {s w : String} (h : w ∈ split sep s) :
    sep ∉ w.toList := by
  obtain ⟨v, hv, rfl⟩ := List.mem_map.1 h
  simpa using not_mem_of_mem_splitChars hv

theorem split_intercalate {ws : List String} (hne : ws ≠ []) (h : ∀ w ∈ ws, '/' ∉ w.toList) :
    split '/' ("/".intercalate ws) = ws := by
  have hs : splitChars '/' (['/'].intercalate (ws.map String.toList)) = ws.map String.toList := by
    rw [splitChars_eq_splitOn, List.splitOn_intercalate '/' (by simpa using h) (by simpa using hne)]
  simp [split, hs]

end Text

namespace PathText

@[simp] theorem isAbsolute_empty : isAbsolute "" = false := rfl

@[simp] theorem segments_empty : segments "" = [] := rfl

theorem not_isIdle_of_mem_segments {s p : String} (h : s ∈ segments p) : isIdle s = false := by
  simpa using (List.mem_filter.1 h).2

theorem not_mem_of_mem_segments {s p : String} (h : s ∈ segments p) : '/' ∉ s.toList :=
  Text.not_mem_of_mem_split (List.mem_filter.1 h).1

theorem segments_append (p q : String) : segments (p ++ "/" ++ q) = segments p ++ segments q := by
  simp [segments, Text.split_append]

theorem exists_of_endsWithSlash {p : String} (h : endsWithSlash p = true) : ∃ q, p = q ++ "/" := by
  simp only [endsWithSlash, decide_eq_true_eq] at h
  obtain ⟨s, hs⟩ := List.getLast?_eq_some_iff.1 h
  exact ⟨.ofList s, String.toList_injective (by simp [hs])⟩

theorem segments_slash (p : String) : segments (p ++ "/") = segments p := by
  simpa using segments_append p ""

theorem segments_join {p q : String} (hq : isAbsolute q = false) :
    segments (join p q) = segments p ++ segments q := by
  simp only [join, hq, Bool.false_eq_true, ↓reduceIte, Bool.or_eq_true, decide_eq_true_eq]
  by_cases hp : p = ""
  · simp [hp]
  · by_cases hs : endsWithSlash p = true
    · obtain ⟨r, rfl⟩ := exists_of_endsWithSlash hs
      simp [hs, segments_append, segments_slash]
    · simp [hp, hs, segments_append]

theorem isAbsolute_append {p : String} (q : String) (hp : p ≠ "") :
    isAbsolute (p ++ q) = isAbsolute p := by
  have h : p.toList ≠ [] := by simpa using hp
  cases hl : p.toList with
  | nil => exact absurd hl h
  | cons c r => simp [isAbsolute, hl]

theorem isAbsolute_join {p q : String} (hq : isAbsolute q = false) :
    isAbsolute (join p q) = isAbsolute p := by
  simp only [join, hq, Bool.false_eq_true, ↓reduceIte, Bool.or_eq_true, decide_eq_true_eq]
  by_cases hp : p = ""
  · simp [hp, hq]
  · split
    · exact isAbsolute_append q hp
    · rw [isAbsolute_append q (by simp [hp]), isAbsolute_append "/" hp]

theorem head?_split_append (p q : String) :
    (Text.split '/' (p ++ "/" ++ q)).head? = (Text.split '/' p).head? := by
  have hne : Text.split '/' p ≠ [] := by simp [Text.split, Text.splitChars_ne_nil]
  obtain ⟨s, ws, hs⟩ := List.exists_cons_of_ne_nil hne
  rw [Text.split_append, hs]
  rfl

theorem startsWithDot_join {p q : String} (ha : isAbsolute q = false)
    (hq : p = "" → startsWithDot q = false) : startsWithDot (join p q) = startsWithDot p := by
  simp only [join, ha, Bool.false_eq_true, ↓reduceIte, Bool.or_eq_true, decide_eq_true_eq]
  by_cases hp : p = ""
  · simp [hp, hq hp]
    decide
  · by_cases hs : endsWithSlash p = true
    · obtain ⟨r, rfl⟩ := exists_of_endsWithSlash hs
      have hr := head?_split_append r ""
      rw [String.append_empty] at hr
      rw [if_pos (.inr hs), startsWithDot, startsWithDot, head?_split_append, hr]
    · rw [if_neg (by simp [hp, hs]), startsWithDot, startsWithDot, head?_split_append]

theorem components_join {p q : String} (ha : isAbsolute q = false)
    (hq : p = "" → startsWithDot q = false) :
    components (join p q) = components p ++ (segments q).map .ofSegment := by
  simp only [components, isAbsolute_join ha, startsWithDot_join ha hq, segments_join ha,
    List.map_append]
  split
  · rfl
  · split <;> rfl

theorem split_plain {q : String} (h : '/' ∉ q.toList) : Text.split '/' q = [q] := by
  rw [Text.split, Text.splitChars_eq_splitOn, List.splitOn_eq_singleton h]
  simp

theorem exists_components_join (p : String) {q : String} (h : '/' ∉ q.toList) :
    ∃ c : Option Component, components (join p q) = components p ++ c.toList := by
  have ha : isAbsolute q = false :=
    decide_eq_false fun hhead => h (List.mem_of_mem_head? (Option.mem_def.2 hhead))
  by_cases hdot : p = "" ∧ q = "."
  · obtain ⟨rfl, rfl⟩ := hdot
    exact ⟨some .current, by decide⟩
  · have hq : p = "" → startsWithDot q = false := by
      intro hp
      simpa [startsWithDot, split_plain h] using fun hq => hdot ⟨hp, hq⟩
    rw [components_join ha hq, segments, split_plain h]
    by_cases hidle : isIdle q = true
    · exact ⟨none, by simp [hidle]⟩
    · exact ⟨some (.ofSegment q), by simp [hidle]⟩

theorem filter_dropWhile_isIdle (ws : List String) :
    (ws.dropWhile isIdle).filter (!isIdle ·) = ws.filter (!isIdle ·) := by
  induction ws with
  | nil => rfl
  | cons w ws ih =>
    by_cases h : isIdle w = true
    · simpa [h] using ih
    · simp [h]

theorem dropLastName?_eq_some {ws us : List String} (h : dropLastName? ws = some us) :
    us <+: ws ∧ ∃ s, ws.filter (!isIdle ·) = us.filter (!isIdle ·) ++ [s] := by
  cases hd : ws.reverse.dropWhile isIdle with
  | nil => simp [dropLastName?, hd] at h
  | cons s rest =>
    simp only [dropLastName?, hd, Option.some.injEq] at h
    subst h
    constructor
    · have hr : rest.dropWhile isIdle <:+ ws.reverse :=
        (List.dropWhile_suffix _).trans ((List.suffix_cons s rest).trans (hd ▸ List.dropWhile_suffix _))
      rw [← List.reverse_prefix] at hr
      simpa using hr
    · have hs : isIdle s = false := by
        simpa [hd] using List.head_dropWhile_not isIdle (l := ws.reverse) (by simp [hd])
      have hf : (ws.filter (!isIdle ·)).reverse = s :: rest.filter (!isIdle ·) := by
        rw [← List.filter_reverse, ← filter_dropWhile_isIdle, hd]
        simp [hs]
      refine ⟨s, List.reverse_inj.1 ?_⟩
      simp [hf, ← List.filter_reverse, filter_dropWhile_isIdle]

theorem dropLastName?_eq_none {ws : List String} (h : dropLastName? ws = none) :
    ws.filter (!isIdle ·) = [] := by
  cases hd : ws.reverse.dropWhile isIdle with
  | nil =>
    have hf := filter_dropWhile_isIdle ws.reverse
    simpa [hd, List.filter_reverse] using hf.symm
  | cons s rest => simp [dropLastName?, hd] at h

theorem segments_root (p : String) : segments ("/" ++ p) = segments p := by
  simpa using segments_append "" p

theorem segments_current (p : String) : segments ("./" ++ p) = segments p := by
  have h : segments "." = [] := by decide
  have hs : "./" ++ p = "." ++ "/" ++ p := rfl
  rw [hs, segments_append, h, List.nil_append]

theorem segments_intercalate {ws : List String} (h : ∀ w ∈ ws, '/' ∉ w.toList) :
    segments ("/".intercalate ws) = ws.filter (!isIdle ·) := by
  by_cases hne : ws = []
  · simp [hne]
  · rw [segments, Text.split_intercalate hne h]

theorem eq_of_startsWithDot {p : String} (h : startsWithDot p = true) :
    p = "." ∨ ∃ r, p = "./" ++ r := by
  simp only [startsWithDot, Text.split, Text.splitChars_eq_splitOn, List.head?_map,
    decide_eq_true_eq, Option.map_eq_some_iff] at h
  obtain ⟨w, hw, hd⟩ := h
  have hp : ['/'].intercalate (p.toList.splitOn '/') = p.toList := List.intercalate_splitOn '/'
  cases hs : p.toList.splitOn '/' with
  | nil => simp [hs] at hw
  | cons v vs =>
    rw [hs] at hw hp
    obtain rfl : v = w := by simpa using hw
    have hv : v = ['.'] := by simpa using congrArg String.toList hd
    subst hv
    by_cases hvs : vs = []
    · left
      exact String.toList_injective (by simpa [hvs] using hp.symm)
    · right
      rw [List.intercalate_cons_of_ne_nil hvs] at hp
      exact ⟨.ofList (['/'].intercalate vs), String.toList_injective (by simp [← hp])⟩

theorem eq_of_isAbsolute {p : String} (h : isAbsolute p = true) : ∃ r, p = "/" ++ r := by
  simp only [isAbsolute, decide_eq_true_eq] at h
  obtain ⟨r, hr⟩ := List.head?_eq_some_iff.1 h
  exact ⟨.ofList r, String.toList_injective (by simp [hr])⟩

/-- What `body` makes of a path: a start that is kept, and segments behind it. -/
structure Cut (p start : String) (ws : List String) : Prop where
  text : p = start ++ "/".intercalate ws
  plain : ∀ w ∈ ws, '/' ∉ w.toList
  start : start = "/" ∨ start = "." ∧ ws.head? = some "" ∨ start = "" ∧ isAbsolute p = false

theorem intercalate_split (p : String) : "/".intercalate (Text.split '/' p) = p := by
  apply String.toList_injective
  simp [Text.split, Text.splitChars_eq_splitOn, Function.comp_def]

theorem eq_of_last_empty {p : String} {ws : List String} (h : Text.split '/' p = ws ++ [""]) :
    p = "" ∨ endsWithSlash p = true := by
  have hp := intercalate_split p
  rw [h] at hp
  by_cases hws : ws = []
  · left
    simpa [hws] using hp.symm
  · right
    rw [String.intercalate_append_of_ne_nil hws (by simp)] at hp
    simp [endsWithSlash, ← hp, List.getLast?_append]

theorem last_of_endsWithSlash {p : String} (h : endsWithSlash p = true) :
    ∃ ws, Text.split '/' p = ws ++ [""] := by
  obtain ⟨q, rfl⟩ := exists_of_endsWithSlash h
  exact ⟨Text.split '/' q, by simpa [Text.split, Text.splitChars] using Text.split_append q ""⟩

theorem cut_body (p : String) : Cut p (body p).1 (body p).2 := by
  by_cases ha : isAbsolute p = true
  · obtain ⟨r, rfl⟩ := eq_of_isAbsolute ha
    have hr : String.ofList (("/" ++ r).toList.drop 1) = r := by simp
    rw [body, if_pos ha, hr]
    exact ⟨by rw [intercalate_split], fun w => Text.not_mem_of_mem_split, .inl rfl⟩
  · by_cases hd : startsWithDot p = true
    · rw [body, if_neg ha, if_pos hd]
      obtain rfl | ⟨r, rfl⟩ := eq_of_startsWithDot hd
      · exact ⟨by decide, by decide, .inr (.inl (by decide))⟩
      · have hr : String.ofList (("./" ++ r).toList.drop 1) = "" ++ "/" ++ r := by
          apply String.toList_injective
          simp
        rw [hr]
        refine ⟨?_, fun w => Text.not_mem_of_mem_split, .inr (.inl ⟨rfl, ?_⟩)⟩
        · rw [intercalate_split]
          rfl
        · rw [Text.split_append]
          rfl
    · rw [body, if_neg ha, if_neg hd]
      refine ⟨by simp [intercalate_split], fun w => Text.not_mem_of_mem_split, .inr (.inr ⟨rfl, ?_⟩)⟩
      simpa using ha

theorem Cut.segments_prefix {p start : String} {ws us : List String} (h : Cut p start ws)
    (hu : us <+: ws) :
    segments (start ++ "/".intercalate us) = us.filter (!isIdle ·) := by
  have hplain : ∀ w ∈ us, '/' ∉ w.toList := fun w hw => h.plain w (hu.subset hw)
  obtain hs | ⟨hs, hhead⟩ | ⟨hs, -⟩ := h.start
  · rw [hs, segments_root, segments_intercalate hplain]
  · rw [hs]
    match us, hu with
    | [], _ => decide
    | u :: vs, hu =>
      obtain ⟨t, rfl⟩ := hu
      obtain rfl : u = "" := by simpa using hhead
      by_cases hv : vs = []
      · rw [hv]
        decide
      · have ht : "." ++ "/".intercalate ("" :: vs) = "./" ++ "/".intercalate vs := by
          rw [String.intercalate_cons_of_ne_nil hv]
          apply String.toList_injective
          simp
        rw [ht, segments_current, segments_intercalate fun w hw => hplain w (by simp [hw])]
        simp [isIdle]
  · rw [hs, String.empty_append, segments_intercalate hplain]

theorem Cut.append_prefix {p start : String} {ws us : List String} (h : Cut p start ws)
    (hu : us <+: ws) : ∃ t, p = start ++ "/".intercalate us ++ t := by
  obtain ⟨vs, rfl⟩ := hu
  by_cases hus : us = []
  · exact ⟨"/".intercalate vs, by simp [h.text, hus]⟩
  by_cases hvs : vs = []
  · exact ⟨"", by simp [h.text, hvs]⟩
  · refine ⟨"/" ++ "/".intercalate vs, ?_⟩
    rw [h.text, String.intercalate_append_of_ne_nil hus hvs]
    simp only [String.append_assoc]

theorem parent?_eq_some {p q : String} (h : parent? p = some q) :
    (∃ t, p = q ++ t) ∧ isAbsolute q = isAbsolute p ∧ segments q = (segments p).dropLast := by
  have hc := cut_body p
  have hsegs := hc.segments_prefix List.prefix_rfl
  rw [← hc.text] at hsegs
  simp only [parent?] at h
  cases hd : dropLastName? (body p).2 with
  | some us =>
    obtain ⟨hu, s, hf⟩ := dropLastName?_eq_some hd
    simp only [hd, Option.some.injEq] at h
    subst h
    obtain ⟨t, ht⟩ := hc.append_prefix hu
    refine ⟨⟨t, ht⟩, ?_, by rw [hc.segments_prefix hu, hsegs, hf, List.dropLast_concat]⟩
    by_cases hq : (body p).1 ++ "/".intercalate us = ""
    · have hp : isAbsolute p = false := by
        obtain hs | ⟨hs, -⟩ | ⟨-, hp⟩ := hc.start
        · simp [hs] at hq
        · simp [hs] at hq
        · exact hp
      rw [hq, hp, isAbsolute_empty]
    · exact ((congrArg isAbsolute ht).trans (isAbsolute_append t hq)).symm
  | none =>
    simp only [hd] at h
    obtain ⟨hs, rfl⟩ : (body p).1 = "." ∧ "" = q := by simpa using h
    refine ⟨⟨p, by simp⟩, ?_, ?_⟩
    · have hp : isAbsolute (body p).1 = false := by rw [hs]; decide
      rw [hc.text, isAbsolute_append _ (by simp [hs]), hp, isAbsolute_empty]
    · rw [hsegs, dropLastName?_eq_none hd, List.dropLast_nil, segments_empty]

end PathText
end Provision
