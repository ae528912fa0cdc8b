import Mathlib.Data.List.DropRight
import Provision.Proofs.Text.Lines

namespace Provision.Forwarded

open Text

variable {f : Forwarded} {ls : List Bytes} {l : Bytes} {ts : List String}

theorem trimEnd_newline (s : List Char) : trimEnd (.ofList (s ++ ['\n'])) = trimEnd (.ofList s) := by
  have hblank : isBlank '\n' = true := by decide
  simp [trimEnd, dropBlankEnd, dropBlank, hblank]

theorem lineText_newline (l : Bytes) : lineText (l ++ [newline]) = lineText l := by
  rw [lineText, decodeLossy, decodeChars_newline, decodeChars_nil, trimEnd_newline]
  rfl

theorem map_lineText_lines (b : Bytes) :
    (lines b).map lineText = (linesOf newline b).map fun l => trimEnd (decodeLossy l) := by
  induction b using line_induction newline with
  | nil => simp [lines_nil, linesOf_nil]
  | last b hne h =>
    rw [lines_last hne h, linesOf_last hne h]
    rfl
  | line l r h ih =>
    rw [lines_append h, linesOf_append h, List.map_cons, List.map_cons, ih, lineText_newline]
    rfl

theorem kept_push (h : f.kept = ts.rtake tailLength) (l : Bytes) :
    (f.push l).kept = (ts ++ [lineText l]).rtake tailLength := by
  have hlen : f.kept.length = ts.length - (ts.length - tailLength) := by simp [h, List.rtake]
  simp only [push]
  split
  · rename_i hfull
    have hpos : 0 < tailLength := by decide
    have hnext : ts.length + 1 - tailLength = ts.length - tailLength + 1 := by omega
    rw [h, List.rtake, List.rtake, List.drop_drop, List.length_append, List.length_singleton,
      hnext, List.drop_append_of_le_length (by omega)]
  · rename_i hspare
    have hall : ts.length < tailLength := by omega
    rw [h, List.rtake, List.rtake, List.length_append, List.length_singleton,
      Nat.sub_eq_zero_of_le (Nat.le_of_lt hall), Nat.sub_eq_zero_of_le hall]
    rfl

theorem kept_foldl (h : f.kept = ts.rtake tailLength) (ls : List Bytes) :
    (ls.foldl push f).kept = (ts ++ ls.map lineText).rtake tailLength := by
  induction ls generalizing f ts with
  | nil => simpa using h
  | cons l ls ih => simpa using ih (kept_push h l)

theorem copied_foldl (f : Forwarded) (ls : List Bytes) :
    (ls.foldl push f).copied = ls.reverse ++ f.copied := by
  induction ls generalizing f with
  | nil => rfl
  | cons l ls ih => simp [ih, push]

/-- Whatever octets come, the same octets go on. Of their lines the last ones are kept, each decoded
and without the blanks at its end. To decode line by line is to decode all and then cut. -/
theorem ofBytes_complete (b : Bytes) :
    (ofBytes b).bytes = b ∧
    (ofBytes b).text = "\n".intercalate
      (((linesOf newline b).map fun l => trimEnd (decodeLossy l)).rtake tailLength) ∧
    (linesOf newline b).map decodeLossy = (linesOf '\n' (decodeLossy b).toList).map .ofList := by
  have hkept : (ofBytes b).kept = ((lines b).map lineText).rtake tailLength :=
    @kept_foldl empty [] rfl (lines b)
  refine ⟨?_, ?_, ?_⟩
  · rw [bytes, ofBytes, copied_foldl]
    simpa [empty] using flatten_lines b
  · rw [text, hkept, map_lineText_lines]
  · simp [decodeLossy, linesOf_decodeChars, Function.comp_def]

end Provision.Forwarded
