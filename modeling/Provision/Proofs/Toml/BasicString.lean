import Provision.Toml.Quoted
import Provision.Toml.Reader

namespace Provision.Toml

open Scalar (isHexDigit digitValue ofDigits)

def Reader.Reads {α : Type} (x : Reader α) (cs : List Char) (a : α) (r : List Char) : Prop :=
  x.run cs = some (a, r)

namespace Reader.Reads

variable {α β : Type} {x : Reader α} {f : α → Reader β} {cs r t w : List Char} {a : α} {b : β}
  {c : Char} {s : String} {p : Char → Bool}

theorem pure (a : α) (cs : List Char) : Reads (Pure.pure a) cs a cs := rfl

theorem bind (h : Reads x cs a r) (hf : Reads (f a) r b t) : Reads (x >>= f) cs b t := by
  simp only [Reads, StateT.run_bind] at h hf ⊢
  rw [h]
  exact hf

theorem map {f : α → β} (h : Reads x cs a r) : Reads (f <$> x) cs (f a) r := by
  simp only [Reads, StateT.run_map] at h ⊢
  rw [h]
  rfl

theorem get {f : List Char → Reader β} (h : Reads (f cs) cs b t) :
    Reads (MonadState.get >>= f) cs b t := h

theorem next (c : Char) (r : List Char) : Reads next (c :: r) c r := rfl

theorem peek (cs : List Char) : Reads peek cs cs.head? cs := rfl

theorem take (s : String) (r : List Char) : Reads (take? s) (s.toList ++ r) true r := by
  simp only [Reads, take?, StateT.run_bind, StateT.run_get]
  simp [← String.length_toList]

theorem take_none (h : ¬ s.toList <+: cs) : Reads (take? s) cs false cs := by
  simp only [Reads, take?, StateT.run_bind, StateT.run_get]
  simp [h]

theorem expect (s : String) (r : List Char) : Reads (expect s) (s.toList ++ r) () r :=
  (take s r).bind rfl

theorem span (hw : ∀ c ∈ w, p c = true) (hr : ∀ c ∈ r.head?, p c = false) :
    Reads (span p) (w ++ r) w r := by
  have hstop : r.takeWhile p = [] ∧ r.dropWhile p = r := by
    cases r with
    | nil => simp
    | cons c r => simp [hr c (by simp)]
  simp [Reads, Reader.span, List.takeWhile_append_of_pos hw, List.dropWhile_append_of_pos hw, hstop]

theorem blanks (hw : ∀ c ∈ w, c = ' ') (hr : ∀ c ∈ r.head?, c ≠ ' ' ∧ c ≠ '\t') :
    Reads blanks (w ++ r) () r :=
  (span (fun c hc => by simp [hw c hc]) fun c hc => by simp [hr c hc]).bind rfl

end Reader.Reads

def IsUnescaped (c : Char) : Prop :=
  c = '\t' ∨ (0x20 ≤ c.toNat ∧ c.toNat ≠ 0x7F ∧ c ≠ '"' ∧ c ≠ '\\')

def shortEscapes : List (Char × Char) :=
  [('b', '\x08'), ('t', '\t'), ('n', '\n'), ('f', '\x0C'), ('r', '\r'), ('"', '"'), ('\\', '\\')]

def longEscapes : List (Char × Nat) := [('u', 4), ('U', 8)]

/-- What may stand between the quotes of a basic string, and the text that it stands for. -/
inductive BasicString : List Char → List Char → Prop where
  | nil : BasicString [] []
  | plain {c : Char} {body s : List Char} (hc : IsUnescaped c) (h : BasicString body s) :
    BasicString (c :: body) (c :: s)
  | short {e c : Char} {body s : List Char} (he : (e, c) ∈ shortEscapes) (h : BasicString body s) :
    BasicString ('\\' :: e :: body) (c :: s)
  | long {e : Char} {n : Nat} {ds body s : List Char} (he : (e, n) ∈ longEscapes)
    (hlen : ds.length = n) (hds : ∀ d ∈ ds, isHexDigit d = true)
    (hvalid : (ofDigits 16 ds).isValidChar) (h : BasicString body s) :
    BasicString ('\\' :: e :: ds ++ body) (.ofNat (ofDigits 16 ds) :: s)

section

variable {body s t r : List Char} {n : Nat}

theorem digitValue_hexDigit : ∀ n < 16,
    isHexDigit (Quoted.hexDigit n) = true ∧ digitValue (Quoted.hexDigit n) = n := by decide

theorem ofDigits_hex4 (h : n < 0x10000) : ofDigits 16 (Quoted.hex4 n) = n := by
  have hdigit : ∀ m, digitValue (Quoted.hexDigit (m % 16)) = m % 16 := fun m =>
    (digitValue_hexDigit (m % 16) (by omega)).2
  simp only [ofDigits, Quoted.hex4, List.foldl, hdigit]
  omega

theorem isUnescaped_of_plain {c : Char} (hq : c ≠ '"') (hb : c ≠ '\\')
    (h : Quoted.isControl c = false) : IsUnescaped c := by
  simp [Quoted.isControl] at h
  exact .inr ⟨by omega, by omega, hq, hb⟩

theorem BasicString.escapeChar (c : Char) (h : BasicString body s) :
    BasicString (Quoted.escapeChar c ++ body) (c :: s) := by
  have hshort : ∀ e, (e, c) ∈ shortEscapes → BasicString (['\\', e] ++ body) (c :: s) :=
    fun e he => .short he h
  rw [Quoted.escapeChar]
  split
  · exact hshort '\\' (by simp [*, shortEscapes])
  split
  · exact hshort '"' (by simp [*, shortEscapes])
  split
  · exact hshort 'n' (by simp [*, shortEscapes])
  split
  · exact hshort 'r' (by simp [*, shortEscapes])
  split
  · exact hshort 't' (by simp [*, shortEscapes])
  split
  · rename_i hcontrol
    have hsmall : c.toNat < 0xA0 := by
      simp [Quoted.isControl] at hcontrol
      omega
    have hvalue : ofDigits 16 (Quoted.hex4 c.toNat) = c.toNat := ofDigits_hex4 (by omega)
    have hhex : ∀ d ∈ Quoted.hex4 c.toNat, isHexDigit d = true := by
      simp only [Quoted.hex4, List.mem_cons, List.not_mem_nil, or_false]
      rintro d (rfl | rfl | rfl | rfl) <;> exact (digitValue_hexDigit _ (by omega)).1
    have hvalid : (ofDigits 16 (Quoted.hex4 c.toNat)).isValidChar := by
      rw [hvalue]
      exact c.valid
    have hchar : BasicString ('\\' :: 'u' :: Quoted.hex4 c.toNat ++ body)
        (.ofNat (ofDigits 16 (Quoted.hex4 c.toNat)) :: s) :=
      .long (n := 4) (by simp [longEscapes]) rfl hhex hvalid h
    rwa [hvalue, Char.ofNat_toNat] at hchar
  · exact .plain (isUnescaped_of_plain ‹_› ‹_› (by simpa using ‹¬ Quoted.isControl c = true›)) h

theorem basicString_escape (s : List Char) : BasicString (Quoted.escape s) s := by
  induction s with
  | nil => exact .nil
  | cons c s ih => exact ih.escapeChar c

end

namespace Reader

variable {body s r acc : List Char} {n : Nat}

theorem reads_hexDigits {ds : List Char} (hds : ∀ d ∈ ds, isHexDigit d = true) (acc : Nat)
    (r : List Char) : Reads (hexDigits ds.length acc) (ds ++ r)
      (ds.foldl (fun n d => n * 16 + digitValue d) acc) r := by
  induction ds generalizing acc with
  | nil => exact .pure acc r
  | cons d ds ih =>
    refine (Reads.next d (ds ++ r)).bind ?_
    rw [if_pos (hds d (by simp)), Nat.mul_comm 16 acc]
    exact ih (fun d hd => hds d (by simp [hd])) _

theorem reads_charOf (h : n.isValidChar) (r : List Char) : Reads (charOf n) r (.ofNat n) r := by
  rw [charOf, if_pos h]
  exact .pure _ r

theorem reads_short {e c : Char} (he : (e, c) ∈ shortEscapes) (r : List Char) :
    Reads escape (e :: r) c r := by
  simp only [shortEscapes, List.mem_cons, Prod.mk.injEq, List.not_mem_nil, or_false] at he
  rcases he with h | h | h | h | h | h | h <;> obtain ⟨rfl, rfl⟩ := h <;> rfl

theorem reads_long {e : Char} {ds : List Char} (he : (e, ds.length) ∈ longEscapes)
    (hds : ∀ d ∈ ds, isHexDigit d = true) (hvalid : (ofDigits 16 ds).isValidChar) (r : List Char) :
    Reads escape (e :: ds ++ r) (.ofNat (ofDigits 16 ds)) r := by
  have hdigits := reads_hexDigits hds 0 r
  simp only [longEscapes, List.mem_cons, Prod.mk.injEq, List.not_mem_nil, or_false] at he
  rcases he with ⟨rfl, hlen⟩ | ⟨rfl, hlen⟩
  · rw [hlen] at hdigits
    exact (Reads.next 'u' _).bind (hdigits.bind (reads_charOf hvalid r))
  · rw [hlen] at hdigits
    exact (Reads.next 'U' _).bind (hdigits.bind (reads_charOf hvalid r))

theorem reads_basicString (h : BasicString body s) (hn : body.length < n) (acc r : List Char) :
    Reads (basicString n acc) (body ++ '"' :: r) (.ofList (acc.reverse ++ s)) r := by
  induction h generalizing n acc with
  | nil =>
    obtain ⟨n, rfl⟩ := Nat.exists_eq_succ_of_ne_zero (Nat.ne_of_gt hn)
    rw [List.append_nil]
    exact (Reads.next '"' r).bind rfl
  | @plain c body s hc _ ih =>
    obtain ⟨n, rfl⟩ := Nat.exists_eq_succ_of_ne_zero (Nat.ne_of_gt (Nat.zero_lt_of_lt hn))
    have hplain : c ≠ '"' ∧ c ≠ '\\' ∧ isControl c = false := by
      obtain rfl | ⟨hlow, hdel, hquote, hback⟩ := hc
      · decide
      · exact ⟨hquote, hback, by simp [isControl, hdel]; omega⟩
    refine (Reads.next c (body ++ '"' :: r)).bind ?_
    simp only [hplain, ↓reduceIte, Bool.false_eq_true]
    simpa using ih (by simpa using hn) (c :: acc)
  | @short e c body s he _ ih =>
    obtain ⟨n, rfl⟩ := Nat.exists_eq_succ_of_ne_zero (Nat.ne_of_gt (Nat.zero_lt_of_lt hn))
    refine (Reads.next '\\' (e :: body ++ '"' :: r)).bind ((reads_short he _).bind ?_)
    simpa using ih (by simp at hn; omega) (c :: acc)
  | @long e _ ds body s he hlen hds hvalid _ ih =>
    subst hlen
    obtain ⟨n, rfl⟩ := Nat.exists_eq_succ_of_ne_zero (Nat.ne_of_gt (Nat.zero_lt_of_lt hn))
    rw [List.append_assoc]
    refine (Reads.next '\\' (e :: ds ++ (body ++ '"' :: r))).bind ((reads_long he hds hvalid _).bind ?_)
    simpa using ih (by simp at hn; omega) (.ofNat (ofDigits 16 ds) :: acc)

end Reader

theorem BasicString.unique {body body' s s' r r' : List Char} (h : BasicString body s)
    (h' : BasicString body' s') (ht : body ++ '"' :: r = body' ++ '"' :: r') :
    body = body' ∧ s = s' ∧ r = r' := by
  have hn : body.length < body.length + body'.length + 1 := by omega
  have hread := Reader.reads_basicString h hn [] r
  rw [ht] at hread
  have heq := hread.symm.trans (Reader.reads_basicString h' (by omega) [] r')
  obtain ⟨hs, rfl⟩ : s = s' ∧ r = r' := by simpa [String.ofList_inj] using heq
  exact ⟨List.append_cancel_right ht, hs, rfl⟩

end Provision.Toml
