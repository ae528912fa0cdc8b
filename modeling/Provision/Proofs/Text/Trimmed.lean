import Mathlib.Data.List.DropRight
import Provision.Text.Blank

namespace Provision.Text

variable {a l : List Char} {s t : String}

structure Trimmed (s t : String) : Prop where
  around : ∃ a b, s.toList = a ++ t.toList ++ b ∧ (∀ c ∈ a, isBlank c = true) ∧
    ∀ c ∈ b, isBlank c = true
  head : ∀ c ∈ t.toList.head?, isBlank c = false
  last : ∀ c ∈ t.toList.getLast?, isBlank c = false

theorem dropBlank_append (ha : ∀ c ∈ a, isBlank c = true)
    (hl : ∀ c ∈ l.head?, isBlank c = false) : dropBlank (a ++ l) = l := by
  rw [dropBlank, List.dropWhile_append_of_pos ha]
  cases l with
  | nil => rfl
  | cons c r => exact List.dropWhile_cons_of_neg (by simp [hl c rfl])

theorem dropBlankEnd_append (ha : ∀ c ∈ a, isBlank c = true)
    (hl : ∀ c ∈ l.getLast?, isBlank c = false) : dropBlankEnd (l ++ a) = l := by
  have hdrop : dropBlank (a.reverse ++ l.reverse) = l.reverse :=
    dropBlank_append (by simpa using ha) (by simpa using hl)
  rw [dropBlankEnd, List.reverse_append, hdrop, List.reverse_reverse]

theorem exists_dropBlank (l : List Char) : ∃ a, l = a ++ dropBlank l ∧
    (∀ c ∈ a, isBlank c = true) ∧ ∀ c ∈ (dropBlank l).head?, isBlank c = false := by
  refine ⟨l.takeWhile isBlank, List.takeWhile_append_dropWhile.symm,
    fun c => List.mem_takeWhile_imp, fun c hc => ?_⟩
  have hhead := List.head?_dropWhile_not isBlank l
  rwa [← dropBlank, Option.mem_def.1 hc] at hhead

theorem exists_dropBlankEnd (l : List Char) : ∃ b, l = dropBlankEnd l ++ b ∧
    (∀ c ∈ b, isBlank c = true) ∧ ∀ c ∈ (dropBlankEnd l).getLast?, isBlank c = false := by
  obtain ⟨b, hb, hblank, hhead⟩ := exists_dropBlank l.reverse
  refine ⟨b.reverse, ?_, by simpa using hblank, by simpa [dropBlankEnd] using hhead⟩
  rw [dropBlankEnd, ← List.reverse_append, ← hb, List.reverse_reverse]

theorem trimmed_trim (s : String) : Trimmed s (trim s) := by
  obtain ⟨a, hs, ha, hhead⟩ := exists_dropBlank s.toList
  obtain ⟨b, hl, hb, hlast⟩ := exists_dropBlankEnd (dropBlank s.toList)
  rw [← trimChars, ← toList_trim] at hl hlast
  refine ⟨⟨a, b, ?_, ha, hb⟩, fun c hc => hhead c ?_, hlast⟩
  · rw [List.append_assoc, ← hl, ← hs]
  · rw [hl, List.head?_append, Option.mem_def.1 hc]
    rfl

theorem Trimmed.eq_trim (h : Trimmed s t) : t = trim s := by
  obtain ⟨a, b, hs, ha, hb⟩ := h.around
  have hend : dropBlankEnd (t.toList ++ b) = t.toList := dropBlankEnd_append hb h.last
  apply String.toList_injective
  rw [toList_trim, hs, trimChars, List.append_assoc]
  by_cases hnil : t.toList = []
  · -- Everything is blank, so all of it is dropped at the start.
    have hall : dropBlank (a ++ b ++ []) = [] := dropBlank_append
      (fun c hc => (List.mem_append.1 hc).elim (ha c) (hb c)) (by simp)
    rw [hnil, List.nil_append, ← List.append_nil (a ++ b), hall]
    rfl
  · obtain ⟨c, r, hc⟩ := List.exists_cons_of_ne_nil hnil
    rw [dropBlank_append ha (by simpa [hc] using h.head), hend]

theorem trim_trim (s : String) : trim (trim s) = trim s := by
  have h := trimmed_trim s
  exact (Trimmed.eq_trim ⟨⟨[], [], by simp, by simp, by simp⟩, h.head, h.last⟩).symm

end Provision.Text
