import Mathlib.Data.List.DropRight
import Provision.Proofs.Path.Segments
import Provision.Release

namespace Provision.Release

open PathText

variable {l t : List Char} {b s : String} {r : Release}

theorem dropSlashes_eq_iff :
    dropSlashes l = t ↔ (∃ n, l = .replicate n '/' ++ t) ∧ t.head? ≠ some '/' := by
  constructor
  · rintro rfl
    have hall : l.takeWhile (· = '/') = .replicate (l.takeWhile (· = '/')).length '/' :=
      List.eq_replicate_of_mem fun c hc => by simpa using List.mem_takeWhile_imp hc
    refine ⟨⟨(l.takeWhile (· = '/')).length, ?_⟩, fun hhead => ?_⟩
    · rw [← hall]
      exact List.takeWhile_append_dropWhile.symm
    · have hnot := List.head?_dropWhile_not (· = '/') l
      rw [← dropSlashes, hhead] at hnot
      simp at hnot
  · rintro ⟨⟨n, rfl⟩, hhead⟩
    rw [dropSlashes, List.dropWhile_append_of_pos fun c hc => by simp [List.eq_of_mem_replicate hc]]
    cases t with
    | nil => rfl
    | cons c r => exact List.dropWhile_cons_of_neg (by simpa using hhead)

theorem dropSlashesEnd_eq_iff :
    dropSlashesEnd l = t ↔ (∃ n, l = t ++ .replicate n '/') ∧ t.getLast? ≠ some '/' := by
  rw [dropSlashesEnd, List.reverse_eq_iff, dropSlashes_eq_iff, List.head?_reverse]
  refine and_congr_left' (exists_congr fun n => ?_)
  rw [List.reverse_eq_iff, List.reverse_append, List.reverse_reverse, List.reverse_replicate]

structure IsLast (t l : List Char) : Prop where
  plain : '/' ∉ t
  last : l = t ∨ ∃ a, l = a ++ '/' :: t

theorem exists_isLast (l : List Char) : ∃ t, IsLast t l := by
  by_cases h : '/' ∈ l
  · obtain ⟨t, a, hl, ht⟩ := List.eq_append_cons_of_mem (List.mem_reverse.2 h)
    refine ⟨t.reverse, by simpa using ht, .inr ⟨a.reverse, ?_⟩⟩
    rw [List.reverse_eq_iff.1 hl]
    simp
  · exact ⟨l, h, .inl rfl⟩

theorem IsLast.lastSegment_eq (h : IsLast t l) : lastSegment l = t := by
  have hall : ∀ c ∈ t.reverse, decide (c ≠ '/') = true := fun c hc =>
    decide_eq_true fun heq => h.plain (heq ▸ List.mem_reverse.1 hc)
  rw [lastSegment, List.reverse_eq_iff]
  obtain rfl | ⟨a, rfl⟩ := h.last
  · exact List.takeWhile_eq_self_iff.2 hall
  · rw [List.reverse_append, List.reverse_cons, List.append_assoc, List.takeWhile_append_of_pos hall]
    simp

theorem lastSegment_eq_iff : lastSegment l = t ↔ IsLast t l := by
  obtain ⟨u, hu⟩ := exists_isLast l
  constructor
  · rintro rfl
    rwa [hu.lastSegment_eq]
  · exact IsLast.lastSegment_eq

def slashes (n : Nat) : String := .ofList (.replicate n '/')

/-- A host without slashes at its end, a path without slashes at its start, and the name that the
path ends in. -/
structure IsNormal (r : Release) : Prop where
  baseUrl : r.baseUrl.toList.getLast? ≠ some '/'
  suffix : r.suffix.toList.head? ≠ some '/'
  archiveName : IsLast r.archiveName.toList r.suffix.toList

/-- A release in normal form, with nothing of the host and the path lost but slashes where the two
meet. -/
structure Normalises (b s : String) (r : Release) : Prop where
  baseUrl : ∃ n, b = r.baseUrl ++ slashes n
  suffix : ∃ n, s = slashes n ++ r.suffix
  normal : r.IsNormal

theorem ofParts_eq_iff : ofParts b s = r ↔ Normalises b s r := by
  have hb : dropSlashesEnd b.toList = r.baseUrl.toList ↔
      (∃ n, b = r.baseUrl ++ slashes n) ∧ r.baseUrl.toList.getLast? ≠ some '/' := by
    simp [dropSlashesEnd_eq_iff, ← String.toList_inj, slashes]
  have hs : dropSlashes s.toList = r.suffix.toList ↔
      (∃ n, s = slashes n ++ r.suffix) ∧ r.suffix.toList.head? ≠ some '/' := by
    simp [dropSlashes_eq_iff, ← String.toList_inj, slashes]
  have heq : ofParts b s = r ↔ dropSlashesEnd b.toList = r.baseUrl.toList ∧
      dropSlashes s.toList = r.suffix.toList ∧
      lastSegment (dropSlashes s.toList) = r.archiveName.toList := by
    cases r
    simp [ofParts, ← String.toList_inj]
  rw [heq, hb]
  constructor
  · rintro ⟨⟨hbase, hend⟩, hpath, hname⟩
    rw [hpath, lastSegment_eq_iff] at hname
    obtain ⟨hsuffix, hstart⟩ := hs.1 hpath
    exact ⟨hbase, hsuffix, hend, hstart, hname⟩
  · rintro ⟨hbase, hsuffix, hend, hstart, hname⟩
    have hpath := hs.2 ⟨hsuffix, hstart⟩
    exact ⟨⟨hbase, hend⟩, hpath, by rw [hpath, hname.lastSegment_eq]⟩

theorem IsNormal.normalises (h : r.IsNormal) : Normalises r.baseUrl r.suffix r :=
  ⟨⟨0, String.append_empty.symm⟩, ⟨0, String.empty_append.symm⟩, h⟩

theorem slashes_add (m n : Nat) : slashes (m + n) = slashes m ++ slashes n := by
  rw [slashes, List.replicate_add, String.ofList_append]
  rfl

theorem Normalises.padded (h : Normalises b s r) (i j : Nat) :
    Normalises (b ++ slashes i) (slashes j ++ s) r := by
  obtain ⟨m, hb⟩ := h.baseUrl
  obtain ⟨n, hs⟩ := h.suffix
  refine ⟨⟨m + i, ?_⟩, ⟨j + n, ?_⟩, h.normal⟩
  · rw [hb, slashes_add, String.append_assoc]
  · rw [hs, slashes_add, String.append_assoc]

/-- Every host and path make a release in normal form. It has the address that its parts spell, its
archive goes into a directory under one name at most, its own parts make it again, and so do the host
and the path with more slashes between them. -/
theorem ofParts_normalised (b s : String) :
    Normalises b s (ofParts b s) ∧
    (ofParts b s).url = (ofParts b s).baseUrl ++ "/" ++ (ofParts b s).suffix ∧
    (∀ dir, ∃ c : Option Component,
      components (join dir (ofParts b s).archiveName) = components dir ++ c.toList) ∧
    ofParts (ofParts b s).baseUrl (ofParts b s).suffix = ofParts b s ∧
    ∀ i j, ofParts (b ++ slashes i) (slashes j ++ s) = ofParts b s := by
  have h : Normalises b s (ofParts b s) := ofParts_eq_iff.1 rfl
  refine ⟨h, rfl, fun dir => ?_, ?_, fun i j => ?_⟩
  · exact exists_components_join dir h.normal.archiveName.plain
  · exact ofParts_eq_iff.2 h.normal.normalises
  · exact ofParts_eq_iff.2 (h.padded i j)

example : ofParts "https://example.com//" "//a//b.tar.gz/" =
    ⟨"https://example.com", "a//b.tar.gz/", ""⟩ := by decide +kernel

end Provision.Release
