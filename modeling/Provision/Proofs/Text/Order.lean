import Provision.Text.Utf8

/-!
The order of texts. Octet by octet they stand in the same order as character by character, because a
greater character has the greater octets. What is found first in a sorted list is the first of its
kind, in whatever order the list was before.
-/

namespace Provision.Text

variable {c d : Char} {cs ds : List Char} {s t : String}

theorem bytes_eq (s : String) : bytes s = s.toList.flatMap String.utf8EncodeChar := by
  have hencode := String.toByteArray_ofList (l := s.toList)
  rw [String.ofList_toList, List.utf8Encode] at hencode
  simp [bytes, hencode]

theorem encodeChar_lt (h : c < d) (x y : Bytes) :
    String.utf8EncodeChar c ++ x < String.utf8EncodeChar d ++ y := by
  have hlt : c.val.toNat < d.val.toNat := h
  have hmax : d.val.toNat < 0x110000 := by
    obtain hd | hd := d.valid <;> omega
  simp only [String.utf8EncodeChar]
  -- The two characters may differ in length, or in any of their octets.
  repeat' split
  all_goals
    simp (disch := omega) only [List.cons_append, List.nil_append, List.cons_lt_cons_iff,
      UInt8.lt_iff_toNat_lt, ← UInt8.toNat_inj, UInt8.toNat_ofNat', Nat.mod_eq_of_lt]
    omega

theorem encode_lt (h : cs < ds) :
    cs.flatMap String.utf8EncodeChar < ds.flatMap String.utf8EncodeChar := by
  induction h with
  | @nil d ds =>
    obtain ⟨b, r, hb⟩ := List.exists_cons_of_ne_nil (String.utf8EncodeChar_ne_nil (c := d))
    simp [hb]
  | rel h => exact encodeChar_lt h _ _
  | cons _ ih => exact List.append_left_lt ih

theorem bytes_lt (h : s < t) : bytes s < bytes t := by
  rw [bytes_eq, bytes_eq]
  exact encode_lt h

theorem bytes_le_iff : bytes s ≤ bytes t ↔ s ≤ t := by
  rw [← List.not_lt, ← String.not_lt]
  refine not_congr ⟨fun h => Decidable.byContradiction fun hts => ?_, bytes_lt⟩
  by_cases hst : s < t
  · exact List.lt_asymm h (bytes_lt hst)
  · obtain rfl : s = t := String.le_antisymm hts hst
    exact List.lt_irrefl _ h

def IsFirst (p : String → Prop) (s : String) : Prop := p s ∧ ∀ t, p t → bytes s ≤ bytes t

theorem IsFirst.unique {p : String → Prop} (h : IsFirst p s) (h' : IsFirst p t) : s = t :=
  String.le_antisymm (bytes_le_iff.1 (h.2 t h'.1)) (bytes_le_iff.1 (h'.2 s h.1))

section Sorted

variable {α : Type} {f : α → String} {p : α → Bool} {l : List α} {a : α}

theorem pairwise_mergeSort (f : α → String) (l : List α) :
    (l.mergeSort fun a b => f a ≤ f b).Pairwise fun a b => f a ≤ f b := by
  have htrans (a b c : α) (hab : decide (f a ≤ f b) = true) (hbc : decide (f b ≤ f c) = true) :
      decide (f a ≤ f c) = true :=
    decide_eq_true (String.le_trans (of_decide_eq_true hab) (of_decide_eq_true hbc))
  have htotal (a b : α) : (decide (f a ≤ f b) || decide (f b ≤ f a)) = true := by
    simpa using String.le_total (f a) (f b)
  exact (List.pairwise_mergeSort htrans htotal l).imp of_decide_eq_true

theorem find?_mergeSort (h : (l.mergeSort fun a b => f a ≤ f b).find? p = some a) :
    a ∈ l ∧ p a = true ∧ ∀ b ∈ l, p b = true → bytes (f a) ≤ bytes (f b) := by
  have hmem : a ∈ l := List.mem_mergeSort.1 (List.mem_of_find?_eq_some h)
  obtain ⟨ha, before, after, hl, hbefore⟩ := List.find?_eq_some_iff_append.1 h
  have hsorted := pairwise_mergeSort f l
  rw [hl, List.pairwise_append, List.pairwise_cons] at hsorted
  refine ⟨hmem, ha, fun b hb hp => bytes_le_iff.2 ?_⟩
  have hb : b ∈ before ++ a :: after := hl ▸ List.mem_mergeSort.2 hb
  simp only [List.mem_append, List.mem_cons] at hb
  obtain hb | rfl | hb := hb
  · exact absurd hp (by simpa using hbefore b hb)
  · exact String.le_refl _
  · exact hsorted.2.1.1 b hb

theorem head?_mergeSort (h : (l.mergeSort fun a b => f a ≤ f b).head? = some a) :
    a ∈ l ∧ ∀ b ∈ l, bytes (f a) ≤ bytes (f b) := by
  have hfind : (l.mergeSort fun a b => f a ≤ f b).find? (fun _ => true) = some a := by
    obtain ⟨r, hr⟩ := List.head?_eq_some_iff.1 h
    simp [hr]
  obtain ⟨ha, -, hleast⟩ := find?_mergeSort hfind
  exact ⟨ha, fun b hb => hleast b hb rfl⟩

end Sorted

end Provision.Text
