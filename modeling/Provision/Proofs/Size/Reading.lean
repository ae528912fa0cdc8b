import Mathlib.Tactic.FieldSimp
import Provision.Proofs.Size.Double
import Provision.Text.Split

namespace Provision.Size

variable {n m : ℕ} {s t : List Char} {number : String} {u : Unit}

def isNumeral (s : List Char) : Bool := !s.isEmpty && s.all Char.isDigit

def decimal? (s : List Char) : Option ℚ :=
  match Text.splitOnce? '.' s with
  | none => if isNumeral s then some (Nat.ofDigitChars 10 s 0) else none
  | some (whole, rest) =>
    if isNumeral whole && isNumeral rest then
      some (Nat.ofDigitChars 10 whole 0 + Nat.ofDigitChars 10 rest 0 / 10 ^ rest.length)
    else none

def Unit.ofSymbol? : String → Option Unit
  | "B" => some .bytes
  | "KB" => some .kilo
  | "MB" => some .mega
  | "GB" => some .giga
  | _ => none

def read? (t : String) : Option (ℚ × Unit) :=
  match Text.splitOnce? ' ' t.toList with
  | none => none
  | some (number, symbol) =>
    match decimal? number, Unit.ofSymbol? (.ofList symbol) with
    | some v, some u => some (v, u)
    | _, _ => none

def quantity? (t : String) : Option ℚ := (read? t).map fun (v, u) => v * u.size

section Numeral

theorem isNumeral_iff : isNumeral s = true ↔ s ≠ [] ∧ ∀ c ∈ s, c.isDigit = true := by
  simp [isNumeral]

theorem notMem_of_isNumeral {c : Char} (hs : isNumeral s = true) (hc : c.isDigit = false) :
    c ∉ s := by
  intro h
  have := (isNumeral_iff.1 hs).2 c h
  simp [hc] at this

theorem isNumeral_toDigits (n : ℕ) : isNumeral (Nat.toDigits 10 n) = true :=
  isNumeral_iff.2 ⟨Nat.toDigits_ne_nil, fun _ => Nat.isDigit_of_mem_toDigits (by decide) le_rfl⟩

theorem decimal?_whole (hs : isNumeral s = true) :
    decimal? s = some (Nat.ofDigitChars 10 s 0 : ℚ) := by
  rw [decimal?, Text.splitOnce?_plain (notMem_of_isNumeral hs (by decide))]
  simp [hs]

theorem decimal?_point (hs : isNumeral s = true) (ht : isNumeral t = true) :
    decimal? (s ++ '.' :: t) =
      some (Nat.ofDigitChars 10 s 0 + Nat.ofDigitChars 10 t 0 / 10 ^ t.length : ℚ) := by
  rw [decimal?, Text.splitOnce?_append (notMem_of_isNumeral hs (by decide))]
  simp [hs, ht]

theorem toList_twoDigits (hn : n < 100) :
    (twoDigits n).toList = [(n / 10).digitChar, (n % 10).digitChar] := by
  rw [twoDigits, Nat.toString_eq_repr]
  split
  · rename_i hlt
    rw [String.toList_append, Nat.toList_repr, Nat.toDigits_of_lt_base hlt, Nat.div_eq_of_lt hlt,
      Nat.mod_eq_of_lt hlt]
    rfl
  · rename_i hle
    rw [Nat.toList_repr, Nat.toDigits_of_base_le (by decide) (not_lt.1 hle),
      Nat.toDigits_of_lt_base (by omega)]
    rfl

theorem isNumeral_twoDigits (hn : n < 100) : isNumeral (twoDigits n).toList = true := by
  rw [toList_twoDigits hn, isNumeral_iff]
  have hlt : n / 10 < 10 := by omega
  simp [Nat.isDigit_digitChar, hlt, Nat.mod_lt]

theorem ofDigitChars_twoDigits (hn : n < 100) :
    Nat.ofDigitChars 10 (twoDigits n).toList 0 = n := by
  rw [toList_twoDigits hn, Nat.ofDigitChars_cons_digitChar_of_lt_ten (by omega),
    Nat.ofDigitChars_cons_digitChar_of_lt_ten (by omega), Nat.ofDigitChars_nil]
  omega

end Numeral

theorem ofSymbol?_symbol (u : Unit) : Unit.ofSymbol? u.symbol = some u := by
  cases u <;> rfl

theorem read?_append (h : ' ' ∉ number.toList) :
    read? (number ++ " " ++ u.symbol) = (decimal? number.toList).map (·, u) := by
  have ht : (number ++ " " ++ u.symbol).toList = number.toList ++ ' ' :: u.symbol.toList := by simp
  rw [read?, ht, Text.splitOnce?_append h]
  simp only [String.ofList_toList, ofSymbol?_symbol]
  cases decimal? number.toList <;> rfl

theorem read?_whole (n : ℕ) (u : Unit) : read? (toString n ++ " " ++ u.symbol) = some (↑n, u) := by
  have hs := isNumeral_toDigits n
  rw [Nat.toString_eq_repr, read?_append, Nat.toList_repr, decimal?_whole hs,
    Nat.ofDigitChars_ten_toDigits]
  · rfl
  · rw [Nat.toList_repr]
    exact notMem_of_isNumeral hs (by decide)

theorem read?_places (h : ℕ) (u : Unit) :
    read? (toString (h / 100) ++ "." ++ twoDigits (h % 100) ++ " " ++ u.symbol) =
      some ((h : ℚ) / 100, u) := by
  have hlt : h % 100 < 100 := Nat.mod_lt h (by decide)
  have hwhole := isNumeral_toDigits (h / 100)
  have hrest := isNumeral_twoDigits hlt
  have hlist : (toString (h / 100) ++ "." ++ twoDigits (h % 100)).toList =
      Nat.toDigits 10 (h / 100) ++ '.' :: (twoDigits (h % 100)).toList := by
    simp [Nat.toString_eq_repr, Nat.toList_repr]
  rw [read?_append, hlist, decimal?_point hwhole hrest, Nat.ofDigitChars_ten_toDigits,
    ofDigitChars_twoDigits hlt, toList_twoDigits hlt]
  · have hsum : (h : ℚ) = 100 * (h / 100 : ℕ) + (h % 100 : ℕ) := mod_cast (Nat.div_add_mod h 100).symm
    have hval : ((h / 100 : ℕ) : ℚ) + (h % 100 : ℕ) / 10 ^ 2 = h / 100 := by
      rw [hsum]
      ring
    simpa using hval
  · rw [hlist, List.mem_append, List.mem_cons]
    rintro (h | h | h)
    · exact notMem_of_isNumeral hwhole (by decide) h
    · exact absurd h (by decide)
    · exact notMem_of_isNumeral hrest (by decide) h

def shown (n : ℕ) : ℚ := hundredths (Unit.of n) n / 100

/-- The number of bytes that the text of `n` tells. -/
def quantity (n : ℕ) : ℚ := shown n * (Unit.of n).size

theorem size_pos (u : Unit) : 0 < u.size := by
  cases u <;> decide

theorem cast_size_pos (u : Unit) : (0 : ℚ) < u.size := by
  exact_mod_cast size_pos u

theorem roundsTo_hundredths (u : Unit) (n : ℕ) :
    RoundsTo (nearest n / u.size * 100) (hundredths u n) := by
  have h := roundsTo_roundDiv (size_pos u) (nearest n * 100)
  rwa [Nat.cast_mul, Nat.cast_ofNat, mul_div_right_comm] at h

section Units

variable (hn : n < 2 ^ 64)

include hn

theorem of_iff :
    (Unit.of n = .bytes ↔ n < 2 ^ 10) ∧ (Unit.of n = .kilo ↔ 2 ^ 10 ≤ n ∧ n < 2 ^ 20) ∧
      (Unit.of n = .mega ↔ 2 ^ 20 ≤ n ∧ n < 2 ^ 30) ∧ (Unit.of n = .giga ↔ 2 ^ 30 ≤ n) := by
  have hkilo : Unit.size .kilo ≤ nearest n ↔ 2 ^ 10 ≤ n := le_nearest_iff (by decide) hn
  have hmega : Unit.size .mega ≤ nearest n ↔ 2 ^ 20 ≤ n := le_nearest_iff (by decide) hn
  have hgiga : Unit.size .giga ≤ nearest n ↔ 2 ^ 30 ≤ n := le_nearest_iff (by decide) hn
  simp only [Unit.of, hkilo, hmega, hgiga]
  split_ifs <;> simp <;> omega

theorem shown_bytes (hu : Unit.of n = .bytes) : shown n = n := by
  have hlt : n < 2 ^ 10 := (of_iff hn).1.1 hu
  have hround := roundsTo_hundredths .bytes n
  rw [nearest_of_lt (hlt.trans (by decide))] at hround
  have hexact : RoundsTo (n / Unit.size .bytes * 100) (n * 100) := by
    simpa [Unit.size] using roundsTo_natCast (n * 100)
  rw [shown, hu, hround.unique hexact]
  push_cast
  exact mul_div_cancel_right₀ _ (by norm_num)

theorem size_le (hu : Unit.of n ≠ .bytes) : (Unit.of n).size ≤ n := by
  obtain ⟨-, hkilo, hmega, hgiga⟩ := of_iff hn
  cases hcase : Unit.of n with
  | bytes => exact absurd hcase hu
  | kilo => exact (hkilo.1 hcase).1
  | mega => exact (hmega.1 hcase).1
  | giga => exact hgiga.1 hcase

theorem lt_size (hu : Unit.of n ≠ .giga) : n < 1024 * (Unit.of n).size := by
  obtain ⟨hbytes, hkilo, hmega, -⟩ := of_iff hn
  cases hcase : Unit.of n with
  | bytes => exact hbytes.1 hcase
  | kilo => exact (hkilo.1 hcase).2
  | mega => exact (hmega.1 hcase).2
  | giga => exact absurd hcase hu

theorem size_le_quantity (hu : Unit.of n ≠ .bytes) : (Unit.of n).size ≤ quantity n := by
  have hpos := cast_size_pos (Unit.of n)
  have hle : (Unit.of n).size ≤ nearest n :=
    (le_nearest_iff (by cases Unit.of n <;> decide) hn).2 (size_le hn hu)
  have hround : 100 ≤ hundredths (Unit.of n) n := by
    refine (roundsTo_natCast 100).mono (roundsTo_hundredths _ n) ?_
    have hone : (1 : ℚ) ≤ nearest n / (Unit.of n).size := by
      rw [one_le_div hpos]
      exact_mod_cast hle
    push_cast
    linarith
  have hround' : (100 : ℚ) ≤ hundredths (Unit.of n) n := mod_cast hround
  rw [quantity, shown]
  exact le_mul_of_one_le_left hpos.le (by linarith)

theorem quantity_le (hu : Unit.of n ≠ .giga) : quantity n ≤ 1024 * (Unit.of n).size := by
  have hpos := cast_size_pos (Unit.of n)
  have hlt : n < 1024 * (Unit.of n).size := lt_size hn hu
  have hexact : nearest n = n :=
    nearest_of_lt (hlt.trans (by cases Unit.of n <;> decide))
  have hround : hundredths (Unit.of n) n ≤ 102400 := by
    refine (roundsTo_hundredths _ n).mono (roundsTo_natCast 102400) ?_
    have hle : (n : ℚ) / (Unit.of n).size ≤ 1024 := by
      rw [div_le_iff₀ hpos]
      exact_mod_cast hlt.le
    rw [hexact]
    push_cast
    linarith
  have hround' : (hundredths (Unit.of n) n : ℚ) ≤ 102400 := mod_cast hround
  rw [quantity, shown]
  exact mul_le_mul_of_nonneg_right (by linarith) hpos.le

end Units

theorem size_le_of_ne (hnm : n ≤ m) (hm : m < 2 ^ 64) (hne : Unit.of n ≠ Unit.of m) :
    Unit.of n ≠ .giga ∧ Unit.of m ≠ .bytes ∧ 1024 * (Unit.of n).size ≤ (Unit.of m).size := by
  have hn := of_iff (hnm.trans_lt hm)
  have hm' := of_iff hm
  cases hun : Unit.of n <;> cases hum : Unit.of m <;> simp_all [Unit.size] <;> omega

theorem quantity_mono (hnm : n ≤ m) (hm : m < 2 ^ 64) : quantity n ≤ quantity m := by
  by_cases hu : Unit.of n = Unit.of m
  · have hpos := cast_size_pos (Unit.of m)
    have hle : (nearest n : ℚ) ≤ nearest m := mod_cast nearest_mono hnm hm
    have hround : hundredths (Unit.of m) n ≤ hundredths (Unit.of m) m :=
      (roundsTo_hundredths _ n).mono (roundsTo_hundredths _ m) (by gcongr)
    rw [quantity, quantity, shown, shown, hu]
    gcongr
  · obtain ⟨hun, hum, hsize⟩ := size_le_of_ne hnm hm hu
    calc quantity n ≤ 1024 * (Unit.of n).size := quantity_le (hnm.trans_lt hm) hun
      _ ≤ (Unit.of m).size := mod_cast hsize
      _ ≤ quantity m := size_le_quantity hm hum

theorem read?_text (n : UInt64) : read? (text n) = some (shown n.toNat, Unit.of n.toNat) := by
  unfold text
  split
  · rename_i hu
    rw [read?_whole, shown_bytes n.toNat_lt hu, hu]
  · exact read?_places _ _

/-- What a text should tell of `n`, where `x` is the floating-point number nearest to `n`. -/
structure Accurate (n : ℕ) (x v : ℚ) (u : Unit) : Prop where
  bytes_iff : u = .bytes ↔ n < 2 ^ 10
  kilo_iff : u = .kilo ↔ 2 ^ 10 ≤ n ∧ n < 2 ^ 20
  mega_iff : u = .mega ↔ 2 ^ 20 ≤ n ∧ n < 2 ^ 30
  giga_iff : u = .giga ↔ 2 ^ 30 ≤ n
  exact : u = .bytes → v = n
  near : u ≠ .bytes → |v * u.size - x| ≤ u.size / 200
  rounded : u ≠ .bytes → ∃ h : ℕ, v = h / 100 ∧ RoundsTo (x / u.size * 100) h

theorem accurate_shown (hn : n < 2 ^ 64) : Accurate n (nearest n) (shown n) (Unit.of n) := by
  obtain ⟨hbytes, hkilo, hmega, hgiga⟩ := of_iff hn
  have hround := roundsTo_hundredths (Unit.of n) n
  refine ⟨hbytes, hkilo, hmega, hgiga, shown_bytes hn, fun _ => ?_, fun _ => ⟨_, rfl, hround⟩⟩
  have hpos := cast_size_pos (Unit.of n)
  have hdiff : shown n * (Unit.of n).size - nearest n =
      -(nearest n / (Unit.of n).size * 100 - hundredths (Unit.of n) n) *
        ((Unit.of n).size / 100) := by
    rw [shown]
    field_simp
    ring
  rw [hdiff, abs_mul, abs_neg, abs_of_pos (by positivity : (0 : ℚ) < (Unit.of n).size / 100)]
  calc _ ≤ 1 / 2 * ((Unit.of n).size / 100 : ℚ) :=
        mul_le_mul_of_nonneg_right hround.near (by positivity)
    _ = (Unit.of n).size / 200 := by ring

/-- The text of a size names the unit that the size reaches and tells the floating-point number
nearest to it to half a hundredth of that unit; the text of a greater size tells as much or more. -/
theorem text_accurate (n : UInt64) : ∃ (d : Double) (v : ℚ) (u : Unit),
    d.IsNearest n.toNat ∧ (∀ c : Double, c.IsNearest n.toNat → c.value = d.value) ∧
    read? (text n) = some (v, u) ∧ Accurate n.toNat d.value v u ∧
    ∀ m, n ≤ m → ∃ q, quantity? (text m) = some q ∧ v * u.size ≤ q := by
  have hn : n.toNat < 2 ^ 64 := n.toNat_lt
  obtain ⟨d, hd⟩ := exists_isNearest hn
  have hval := (isNearest_iff_nearest hn).1 hd
  refine ⟨d, shown n.toNat, Unit.of n.toNat, hd, fun c hc => ?_, read?_text n, ?_, fun m hm => ?_⟩
  · rw [(isNearest_iff_nearest hn).1 hc, hval]
  · rw [hval]
    exact accurate_shown hn
  · exact ⟨quantity m.toNat, by rw [quantity?, read?_text]; rfl,
      quantity_mono (UInt64.le_iff_toNat_le.1 hm) m.toNat_lt⟩

theorem text_accurate_full : (1048575 : UInt64) ≤ 1048576 ∧ text 1048575 = "1024.00 KB" ∧
    text 1048576 = "1.00 MB" ∧
    ∃ p q, quantity? "1024.00 KB" = some p ∧ quantity? "1.00 MB" = some q ∧ p ≤ q := by
  have hle : (1048575 : UInt64) ≤ 1048576 := by decide
  have hkilo : text 1048575 = "1024.00 KB" := by decide +kernel
  have hmega : text 1048576 = "1.00 MB" := by decide +kernel
  obtain ⟨d, v, u, -, -, hread, -, hrise⟩ := text_accurate 1048575
  obtain ⟨q, hq, hvq⟩ := hrise 1048576 hle
  rw [hkilo] at hread
  rw [hmega] at hq
  exact ⟨hle, hkilo, hmega, v * u.size, q, by rw [quantity?, hread]; rfl, hq, hvq⟩

example : text 18446744073709551615 = "17179869184.00 GB" := by decide +kernel

end Provision.Size
