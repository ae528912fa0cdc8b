import Mathlib.Data.List.TakeWhile
import Provision.Command.Tail
import Provision.Proofs.Path.Segments

/-!
Lines of octets and lines of text. The octet that ends a line is never part of a longer character,
and no other octets stand for the end of a line. So it is all the same whether octets are cut into
lines before they are decoded or after.
-/

namespace Provision.Text

variable {α : Type} [DecidableEq α] {sep : α} {l r : List α}

/-- What stands between the separators of a list, and what stands behind the last one unless that
is nothing. -/
def linesOf (sep : α) (l : List α) : List (List α) :=
  let parts := l.splitOn sep
  if parts.getLast? = some [] then parts.dropLast else parts

theorem linesOf_nil (sep : α) : linesOf sep [] = [] := by
  simp [linesOf]

theorem linesOf_last (hne : l ≠ []) (h : sep ∉ l) : linesOf sep l = [l] := by
  simp [linesOf, List.splitOn_eq_singleton h, hne]

theorem linesOf_append (h : sep ∉ l) (r : List α) :
    linesOf sep (l ++ sep :: r) = l :: linesOf sep r := by
  obtain ⟨w, ws, hw⟩ := List.exists_cons_of_ne_nil (List.splitOn_ne_nil sep r)
  simp only [linesOf, List.splitOn_append_cons_self, List.splitOn_eq_singleton h, hw,
    List.singleton_append, List.getLast?_cons_cons, List.dropLast_cons_cons]
  split <;> rfl

theorem line_induction (sep : α) {motive : List α → Prop} (nil : motive [])
    (last : ∀ l, l ≠ [] → sep ∉ l → motive l)
    (line : ∀ l r, sep ∉ l → motive r → motive (l ++ sep :: r)) (l : List α) : motive l := by
  by_cases hsep : sep ∈ l
  · obtain ⟨x, r, hl, hx⟩ := List.eq_append_cons_of_mem hsep
    have hlt : r.length < l.length := by simp [hl]; omega
    exact hl ▸ line x r hx (line_induction sep nil last line r)
  · by_cases hne : l = []
    · exact hne ▸ nil
    · exact last l hne hsep
termination_by l.length

section Lines

variable {b x : Bytes}

theorem lines_nil : lines [] = [] := by
  rw [lines]

theorem lines_cons (hb : b ≠ []) : lines b = (firstLine b).1 :: lines (firstLine b).2 := by
  obtain ⟨a, r, rfl⟩ := List.exists_cons_of_ne_nil hb
  rw [lines]

theorem firstLine_last (h : newline ∉ b) : firstLine b = (b, []) := by
  have hall : ∀ a ∈ b, decide (a ≠ newline) = true := fun a ha => by
    simpa using ne_of_mem_of_not_mem ha h
  simp only [firstLine, List.takeWhile_eq_self_iff.2 hall, List.dropWhile_eq_nil_iff.2 hall,
    List.take_nil, List.drop_nil, List.append_nil]

theorem firstLine_append (h : newline ∉ x) (r : Bytes) :
    firstLine (x ++ newline :: r) = (x ++ [newline], r) := by
  have hall : ∀ a ∈ x, decide (a ≠ newline) = true := fun a ha => by
    simpa using ne_of_mem_of_not_mem ha h
  simp only [firstLine, List.takeWhile_append_of_pos hall, List.dropWhile_append_of_pos hall]
  simp

theorem lines_last (hne : b ≠ []) (h : newline ∉ b) : lines b = [b] := by
  rw [lines_cons hne, firstLine_last h, lines_nil]

theorem lines_append (h : newline ∉ x) (r : Bytes) :
    lines (x ++ newline :: r) = (x ++ [newline]) :: lines r := by
  rw [lines_cons (by simp), firstLine_append h]

theorem flatten_lines (b : Bytes) : (lines b).flatten = b := by
  induction b using line_induction newline with
  | nil => simp [lines_nil]
  | last b hne h => simp [lines_last hne h]
  | line x r h ih => simp [lines_append h, ih]

end Lines

section Decoding

variable {a : UInt8} {b r x : Bytes} {n acc : Nat}

theorem not_follows_newline {low high : UInt8} (h : 0x80 ≤ low) : ¬ (low ≤ newline ∧ newline ≤ high) :=
  fun hn => absurd (UInt8.le_trans h hn.1) (by decide)

theorem finish_newline (n acc : Nat) (r s : Bytes) :
    finish n acc (r ++ newline :: s) =
      ((finish n acc r).1, (finish n acc r).2 ++ newline :: s) := by
  induction n generalizing acc r with
  | zero => rfl
  | succ n ih =>
    cases r with
    | nil => simp [finish, not_follows_newline (UInt8.le_refl 0x80)]
    | cons b r =>
      simp only [finish, List.cons_append]
      split
      · exact ih _ r
      · rfl

theorem Lead.of?_table : ∀ n < 256, ∀ l ∈ Lead.of? (.ofNat n), 0x80 ≤ l.low ∧
    (0 < n % (1 <<< (5 - l.more)) ∨ 0x90 ≤ l.low ∧ l.high ≤ 0xBF) := by
  decide +kernel

theorem Lead.of?_bounds {l : Lead} (h : Lead.of? a = some l) : 0x80 ≤ l.low ∧
    (0 < a.toNat % (1 <<< (5 - l.more)) ∨ 0x90 ≤ l.low ∧ l.high ≤ 0xBF) :=
  Lead.of?_table a.toNat a.toNat_lt l (by rwa [UInt8.ofNat_toNat])

theorem decodeHead_newline (a : UInt8) (r s : Bytes) :
    decodeHead a (r ++ newline :: s) =
      ((decodeHead a r).1, (decodeHead a r).2 ++ newline :: s) := by
  simp only [decodeHead]
  split
  · rfl
  cases hlead : Lead.of? a with
  | none => rfl
  | some l =>
    cases r with
    | nil => simp [not_follows_newline (Lead.of?_bounds hlead).1]
    | cons b r =>
      simp only [List.cons_append]
      split
      · rw [finish_newline]
      · rfl

theorem decodeChars_nil : decodeChars [] = [] := by
  rw [decodeChars]

theorem decodeChars_cons (a : UInt8) (r : Bytes) :
    decodeChars (a :: r) = (decodeHead a r).1 :: decodeChars (decodeHead a r).2 := by
  rw [decodeChars]

theorem decodeChars_newline (x r : Bytes) :
    decodeChars (x ++ newline :: r) = decodeChars x ++ '\n' :: decodeChars r := by
  induction x using decodeChars.induct with
  | case1 =>
    rw [List.nil_append, decodeChars_cons, decodeChars_nil]
    rfl
  | case2 a x ih =>
    rw [List.cons_append, decodeChars_cons, decodeHead_newline, ih, decodeChars_cons,
      List.cons_append]

theorem finish_suffix (n acc : Nat) (r : Bytes) : (finish n acc r).2 <:+ r := by
  induction n generalizing acc r with
  | zero => exact List.suffix_refl r
  | succ n ih =>
    cases r with
    | nil => exact List.suffix_refl []
    | cons b r =>
      simp only [finish]
      split
      · exact (ih _ r).trans (List.suffix_cons b r)
      · exact List.suffix_refl _

theorem decodeHead_suffix (a : UInt8) (r : Bytes) : (decodeHead a r).2 <:+ r := by
  simp only [decodeHead]
  split
  · exact List.suffix_refl r
  cases Lead.of? a with
  | none => exact List.suffix_refl r
  | some l =>
    cases r with
    | nil => exact List.suffix_refl []
    | cons b r =>
      dsimp only
      split
      · exact (finish_suffix _ _ r).trans (List.suffix_cons b r)
      · exact List.suffix_refl _

theorem ofNat_ne_newline (h : n ≠ 10) : Char.ofNat n ≠ '\n' := by
  intro heq
  by_cases hvalid : n.isValidChar
  · rw [Char.ofNat, dif_pos hvalid] at heq
    exact h (congrArg Char.toNat heq)
  · rw [Char.ofNat, dif_neg hvalid] at heq
    exact absurd heq (by decide)

theorem finish_ne_newline (h : 10 < acc) : (finish n acc r).1 ≠ some '\n' := by
  induction n generalizing acc r with
  | zero => simpa [finish] using ofNat_ne_newline (Nat.ne_of_gt h)
  | succ n ih =>
    cases r with
    | nil => simp [finish]
    | cons b r =>
      simp only [finish]
      split
      · exact ih (by omega)
      · simp

/-- No character is spelled with more octets than it needs, so a longer one is no end of a line. -/
theorem Lead.lt_bits {l : Lead} {b : UInt8} (h : Lead.of? a = some l) (hb : l.low ≤ b ∧ b ≤ l.high) :
    10 < a.toNat % (1 <<< (5 - l.more)) * 64 + tailBits b := by
  obtain ⟨-, hown | ⟨hlow, hhigh⟩⟩ := Lead.of?_bounds h
  · omega
  · have hmin := UInt8.le_iff_toNat_le.1 (UInt8.le_trans hlow hb.1)
    have hmax := UInt8.le_iff_toNat_le.1 (UInt8.le_trans hb.2 hhigh)
    simp only [tailBits]
    simp at hmin hmax
    omega

theorem replacement_ne_newline : replacement ≠ '\n' := by decide

theorem decodeHead_ne_newline (h : a ≠ newline) (r : Bytes) : (decodeHead a r).1 ≠ '\n' := by
  simp only [decodeHead]
  split
  · exact ofNat_ne_newline fun heq => h (UInt8.toNat_inj.1 heq)
  cases hlead : Lead.of? a with
  | none => exact replacement_ne_newline
  | some l =>
    cases r with
    | nil => exact replacement_ne_newline
    | cons b r =>
      dsimp only
      split
      · rename_i hb
        have hfinish := finish_ne_newline (n := l.more) (r := r) (Lead.lt_bits hlead hb)
        cases hc : (finish l.more (a.toNat % (1 <<< (5 - l.more)) * 64 + tailBits b) r).1 with
        | none => exact replacement_ne_newline
        | some c => simpa [hc] using hfinish
      · exact replacement_ne_newline

theorem newline_notMem_decodeChars (h : newline ∉ x) : '\n' ∉ decodeChars x := by
  induction x using decodeChars.induct with
  | case1 => simp [decodeChars_nil]
  | case2 a x ih =>
    have ha : a ≠ newline := fun heq => h (by simp [heq])
    have hx : newline ∉ (decodeHead a x).2 := fun hmem =>
      h (List.mem_cons_of_mem a ((decodeHead_suffix a x).subset hmem))
    rw [decodeChars_cons, List.mem_cons, not_or]
    exact ⟨(decodeHead_ne_newline ha x).symm, ih hx⟩

theorem decodeChars_ne_nil (h : x ≠ []) : decodeChars x ≠ [] := by
  obtain ⟨a, r, rfl⟩ := List.exists_cons_of_ne_nil h
  simp [decodeChars_cons]

theorem linesOf_decodeChars (b : Bytes) :
    linesOf '\n' (decodeChars b) = (linesOf newline b).map decodeChars := by
  induction b using line_induction newline with
  | nil => simp [decodeChars_nil, linesOf_nil]
  | last b hne h =>
    rw [linesOf_last hne h, linesOf_last (decodeChars_ne_nil hne) (newline_notMem_decodeChars h)]
    rfl
  | line x r h ih =>
    rw [decodeChars_newline, linesOf_append (newline_notMem_decodeChars h), linesOf_append h, ih]
    rfl

end Decoding

end Provision.Text
