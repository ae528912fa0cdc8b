import Mathlib.Data.Nat.Digits.Defs
import Provision.Proofs.Installation.Configured
import Provision.Proofs.Text.Trimmed

namespace Provision.Probe

open PathText Provision.Action

variable {σ : Type} {ds : List Char} {s t probe dir : String} {n : Nat} {w v : World σ}
  {R : Runner σ}

def digitsValue (ds : List Char) : Nat :=
  Nat.ofDigits 10 (ds.reverse.map fun c => c.toNat - '0'.toNat)

def HasMajor (t : String) (n : Nat) : Prop :=
  ∃ ds rest, t.toList = ds ++ '.' :: rest ∧ ds ≠ [] ∧ (∀ c ∈ ds, c.isDigit = true) ∧
    n = digitsValue ds

theorem decimal_eq_digitsValue (ds : List Char) : decimal ds = digitsValue ds := by
  induction ds using List.reverseRecOn with
  | nil => rfl
  | append_singleton ds c ih =>
    have hlast : decimal (ds ++ [c]) = 10 * decimal ds + (c.toNat - 48) := by simp [decimal]
    rw [hlast, ih, digitsValue, digitsValue, List.reverse_concat, List.map_cons, Nat.ofDigits_cons]
    exact Nat.add_comm _ _

theorem point_notMem (h : ∀ c ∈ ds, c.isDigit = true) : '.' ∉ ds := by
  intro hm
  exact absurd (h _ hm) (by decide)

theorem majorOf?_eq_some_iff {n : UInt32} :
    majorOf? s = some n ↔ HasMajor (Text.trim s) n.toNat := by
  rw [majorOf?, HasMajor, Text.toList_trim]
  constructor
  · intro h
    split at h
    · cases h
    · rename_i ds rest hsplit
      split at h
      · cases h
      · rename_i hdigits
        split at h
        · rename_i hlt
          obtain rfl := Option.some.inj h
          refine ⟨ds, rest, Text.splitOnce?_eq_some hsplit, ?_, ?_, ?_⟩
          · rintro rfl
            simp at hdigits
          · simp_all
          · rw [UInt32.toNat_ofNat_of_lt' hlt, decimal_eq_digitsValue]
        · cases h
  · rintro ⟨ds, rest, hs, hne, hds, hn⟩
    have hlt : decimal ds < UInt32.size := by
      rw [decimal_eq_digitsValue, ← hn]
      exact n.toNat_lt
    have hdigits : (ds.isEmpty || !ds.all Char.isDigit) = false := by
      simpa [hne] using hds
    rw [hs, Text.splitOnce?_append (point_notMem hds)]
    simp only [hdigits, hlt, Bool.false_eq_true, ↓reduceIte, Option.some.injEq]
    rw [decimal_eq_digitsValue, ← hn, UInt32.ofNat_toNat]

/-- What a text comes to that is to tell a version: the number, or a failure that quotes the text. -/
structure Judged (t : String) (r : Except Failure UInt32) : Prop where
  accepted : ∀ n, r = .ok n ↔ HasMajor t n.toNat
  refused : ∀ f, r = .error f ↔ f = .versionUnreadable t ∧ ∀ n < 2 ^ 32, ¬ HasMajor t n

theorem judged_parseMajor (s : String) : Judged (Text.trim s) (parseMajor s) := by
  have hnone : majorOf? s = none ↔ ∀ n < 2 ^ 32, ¬ HasMajor (Text.trim s) n := by
    rw [Option.eq_none_iff_forall_not_mem]
    constructor
    · intro h n hn hmajor
      refine h (.ofNat n) (majorOf?_eq_some_iff.2 ?_)
      rwa [UInt32.toNat_ofNat_of_lt' hn]
    · intro h n hn
      exact h _ n.toNat_lt (majorOf?_eq_some_iff.1 hn)
  constructor
  · intro n
    rw [← majorOf?_eq_some_iff, parseMajor]
    cases majorOf? s <;> simp
  · intro f
    rw [← hnone, parseMajor]
    cases majorOf? s <;> simp [eq_comm]

theorem parseMajor_trim (s : String) : parseMajor (Text.trim s) = parseMajor s := by
  rw [parseMajor, parseMajor, majorOf?, majorOf?, ← Text.toList_trim, ← Text.toList_trim,
    Text.trim_trim]

structure Says (R : Runner σ) (dir : String) (w : World σ) (probe s : String) (v : World σ) :
    Prop where
  found : find (join dir "bin") w = .ok probe
  said : Ends (R.run .none (question probe) none)
    (w.told ⟨.debug, "Found llvm-config", [("probe", probe)]⟩) fun r u =>
      u = v ∧ ∃ output, r = .ok output ∧ output.out = s

theorem Says.run (h : Says R dir w probe s v) : Ends (run R dir) w fun r u =>
    u = v ∧ r = (parseMajor s).map fun n => ⟨Text.trim s, n, probe⟩ := by
  refine Ends.get (Ends.bind (Ends.ofExcept ?_))
  rw [h.found]
  refine Ends.bind (Ends.tell (Ends.bind (h.said.mono ?_)))
  rintro _ u ⟨rfl, output, rfl, rfl⟩
  dsimp only
  rw [parseMajor_trim]
  generalize parseMajor output.out = major
  refine Ends.bind (Ends.ofExcept ?_)
  cases major with
  | error f => exact ⟨rfl, rfl⟩
  | ok n => exact Ends.pure ⟨rfl, rfl⟩

/-- A version is accepted just where a number stands before its first point and is not too great, by
the reader and for an installation that tells it alike; what is refused is quoted without the
blanks around it. -/
theorem major_read_iff (h : Text.Trimmed s t) : Judged t (parseMajor s) ∧
    ∀ (R : Runner σ) dir w probe v, Says R dir w probe s v → Ends (run R dir) w fun r u =>
      u = v ∧ ∃ major, Judged t major ∧ r = major.map fun n => ⟨t, n, probe⟩ := by
  obtain rfl := h.eq_trim
  refine ⟨judged_parseMajor s, fun R dir w probe v hsays => hsays.run.mono ?_⟩
  rintro _ u ⟨rfl, rfl⟩
  exact ⟨rfl, parseMajor s, judged_parseMajor s, rfl⟩

example : majorOf? "4294967295." = some 4294967295 ∧ majorOf? "4294967296." = none := by decide +kernel

section Trial

def paddedVersion : String := "\u00a0\n014.0.6git\t\u2003"

theorem trimmed_paddedVersion : Text.Trimmed paddedVersion "014.0.6git" where
  around := ⟨['\u00a0', '\n'], ['\t', '\u2003'], by decide,
    List.all_eq_true.1 (by decide), List.all_eq_true.1 (by decide)⟩
  head := by
    rintro _ ⟨⟩
    decide
  last := by
    rintro _ ⟨⟩
    decide

def sayingRunner (s : String) : Runner Unit := fun _ _ => return .ok ⟨true, s, ""⟩

theorem says_sayingRunner (s : String) : ∃ v,
    Says (sayingRunner s) "llvm" smallWorld "llvm/bin/llvm-config" s v :=
  ⟨_, by decide +kernel, rfl, ⟨true, s, ""⟩, rfl, rfl⟩

theorem hasMajor_padded : HasMajor "014.0.6git" 14 :=
  ⟨['0', '1', '4'], ['0', '.', '6', 'g', 'i', 't'], by decide, by decide,
    List.all_eq_true.1 (by decide), by decide⟩

theorem major_read_iff_padded :
    Text.Trimmed paddedVersion "014.0.6git" ∧ parseMajor paddedVersion = .ok 14 ∧
      Ends (run (sayingRunner paddedVersion) "llvm") smallWorld fun r _ =>
        r = .ok ⟨"014.0.6git", 14, "llvm/bin/llvm-config"⟩ := by
  obtain ⟨hread, hrun⟩ := major_read_iff (σ := Unit) trimmed_paddedVersion
  obtain ⟨v, hsays⟩ := says_sayingRunner paddedVersion
  refine ⟨trimmed_paddedVersion, (hread.accepted 14).2 hasMajor_padded, ?_⟩
  refine (hrun _ _ _ _ _ hsays).mono ?_
  rintro _ _ ⟨-, major, hmajor, rfl⟩
  rw [(hmajor.accepted 14).2 hasMajor_padded]
  rfl

end Trial

end Provision.Probe
