import Mathlib.Data.List.Infix
import Provision.Proofs.Installation.ReadBack
import Provision.Proofs.Text.Order
import Provision.Proofs.Toml.Distinct

/-!
Which binding is read from a configuration. It is the first among the keys of the documented form
whose value is a string. One more key passes for such a key, in which the fixed start and the fixed
end share a character, and only that key can be read in place of what is documented.
-/

namespace Provision.Binding

open Text Provision.Action

variable {σ : Type} {w : World σ} {b : Binding} {buildDir text k s : String}
  {env env' : Toml.Members} {c : Content}

def IsDocumented (k : String) : Prop := ∃ x, k = keyStart ++ x ++ keyEnd

def overlap : String := "LLVM_SYS_PREFIX"

theorem isKey_iff : isKey k = true ↔ IsDocumented k ∨ k = overlap := by
  rw [isKey, Bool.and_eq_true, List.isPrefixOf_iff_prefix, List.isSuffixOf_iff_suffix]
  constructor
  · rintro ⟨⟨t, ht⟩, ⟨s, hs⟩⟩
    have hends {u : List Char} (hk : keyStart.toList ++ u ++ keyEnd.toList = k.toList) :
        IsDocumented k :=
      ⟨.ofList u, String.toList_injective (by simp [← hk])⟩
    obtain ⟨u, hstart, hend⟩ | ⟨u, rfl, -⟩ := List.append_eq_append_iff.1 (hs.trans ht.symm)
    · have hshared : ∀ u ∈ keyStart.toList.tails, u <+: keyEnd.toList → u = [] ∨ u = ['_'] := by
        decide
      obtain rfl | rfl := hshared u ((List.mem_tails _ _).2 ⟨s, hstart.symm⟩) ⟨t, hend.symm⟩
      · rw [List.append_nil] at hstart
        exact .inl (hends (u := []) (by rw [List.append_nil, hstart, hs]))
      · refine .inr (String.toList_injective ?_)
        obtain rfl : t = "PREFIX".toList := (List.cons.inj hend).2.symm
        rw [← ht]
        rfl
    · exact .inl (hends hs)
  · rintro (⟨x, rfl⟩ | rfl)
    · simp only [String.toList_append]
      exact ⟨⟨x.toList ++ keyEnd.toList, by rw [List.append_assoc]⟩, List.suffix_append _ _⟩
    · decide

theorem not_isDocumented_overlap : ¬ IsDocumented overlap := by
  rintro ⟨x, hx⟩
  have hlength := congrArg String.length hx
  simp only [String.length_append] at hlength
  have hshort : overlap.length < keyStart.length + keyEnd.length := by decide
  omega

def HasText (env : Toml.Members) (k s : String) : Prop := env.get? k = some (.text s)

/-- What there is to read in a table: of the documented keys with a string, the first one. -/
def Documented (env : Toml.Members) : Option Binding → Prop
  | some b => HasText env b.key b.value ∧
      IsFirst (fun k => IsDocumented k ∧ ∃ s, HasText env k s) b.key
  | none => ∀ k s, IsDocumented k → ¬ HasText env k s

/-- The undocumented key has a string, and no documented key with a string comes before it. -/
def Shadowed (env : Toml.Members) : Prop :=
  (∃ s, HasText env overlap s) ∧
    ∀ k s, IsDocumented k → HasText env k s → bytes overlap ≤ bytes k

/-- A text is a document with this table `env`, empty where there is none. Its numbers are of 64
bits, those elsewhere of 128. -/
def Configures (text : String) (env : Toml.Members) : Prop :=
  ∃ ms, Toml.Members.ofText? text = some ms ∧
    Toml.Value.allIntegersIn isMedium (ms.filter (·.1 ≠ "env")) = true ∧
    (Table.get? ms "env" = none ∧ env = [] ∨
      ∃ o, Table.get? ms "env" = some (.table o env) ∧ Toml.Value.allIntegersIn isSmall env = true)

theorem Configures.distinct (h : Configures text env) : env.Distinct := by
  obtain ⟨ms, hms, -, ⟨-, rfl⟩ | ⟨o, henv, -⟩⟩ := h
  · exact .nil
  · exact Toml.Members.distinct_of_table ((Toml.Members.distinct_ofText? hms).get henv)

theorem Configures.ofText? (h : Configures text env) : ofText? text = some (find? env) := by
  obtain ⟨ms, hms, hothers, henv⟩ := h
  have henvironment : environment? ms = some env := by
    rw [environment?, hothers]
    obtain ⟨henv, rfl⟩ | ⟨o, henv, hsmall⟩ := henv
    · simp [henv]
    · simp [henv, Toml.Value.allIntegers, hsmall, Toml.Value.asTable?]
  simp [Binding.ofText?, hms, henvironment]

def candidates (ms : Toml.Members) : List Binding :=
  ms.filterMap fun (k, v) => if isKey k then v.asText?.map fun s => ⟨k, s⟩ else none

theorem find?_eq_head? (ms : Toml.Members) :
    find? ms = ((candidates ms).mergeSort fun a b => a.key ≤ b.key).head? := rfl

theorem mem_candidates (h : env.Distinct) :
    b ∈ candidates env ↔ isKey b.key = true ∧ HasText env b.key b.value := by
  obtain ⟨k, s⟩ := b
  simp only [candidates, List.mem_filterMap, HasText, Table.get?_eq_some_iff h.keys]
  constructor
  · rintro ⟨⟨j, v⟩, hmem, hv⟩
    dsimp only at hv
    split at hv
    · rename_i hkey
      obtain ⟨t, ht, heq⟩ := Option.map_eq_some_iff.1 hv
      cases heq
      cases v with
      | text t' =>
        cases ht
        exact ⟨hkey, hmem⟩
      | _ => cases ht
    · cases hv
  · rintro ⟨hkey, hmem⟩
    exact ⟨_, hmem, by simp [hkey, Toml.Value.asText?]⟩

theorem find?_eq_none (h : env.Distinct) (hnone : find? env = none) (hkey : isKey k = true) :
    ¬ HasText env k s := by
  intro hs
  have hmem : (⟨k, s⟩ : Binding) ∈ candidates env := (mem_candidates h).2 ⟨hkey, hs⟩
  have hsorted := List.mergeSort_perm (candidates env) fun a b => a.key ≤ b.key
  rw [find?_eq_head?, List.head?_eq_none_iff] at hnone
  rw [hnone] at hsorted
  exact absurd (hsorted.mem_iff.2 hmem) List.not_mem_nil

theorem find?_eq_some_iff (h : env.Distinct) : find? env = some b ↔
    HasText env b.key b.value ∧
      IsFirst (fun k => isKey k = true ∧ ∃ s, HasText env k s) b.key := by
  have hfound {b : Binding} (hb : find? env = some b) : HasText env b.key b.value ∧
      IsFirst (fun k => isKey k = true ∧ ∃ s, HasText env k s) b.key := by
    rw [find?_eq_head?] at hb
    obtain ⟨hmem, hleast⟩ := head?_mergeSort hb
    obtain ⟨hkey, htext⟩ := (mem_candidates h).1 hmem
    refine ⟨htext, ⟨hkey, _, htext⟩, ?_⟩
    rintro k ⟨hkey, s, hs⟩
    exact hleast ⟨k, s⟩ ((mem_candidates h).2 ⟨hkey, hs⟩)
  refine ⟨hfound, fun ⟨htext, hfirst⟩ => ?_⟩
  cases hfind : find? env with
  | none => exact absurd htext (find?_eq_none h hfind hfirst.1.1)
  | some a =>
    obtain ⟨htext', hfirst'⟩ := hfound hfind
    obtain ⟨k, s⟩ := a
    obtain ⟨k', s'⟩ := b
    obtain rfl : k = k' := hfirst'.unique hfirst
    cases htext'.symm.trans htext
    rfl

theorem find?_shadowed (h : env.Distinct) (hs : Shadowed env) :
    ∃ s, HasText env overlap s ∧ find? env = some ⟨overlap, s⟩ := by
  obtain ⟨⟨s, hs⟩, hbefore⟩ := hs
  refine ⟨s, hs, (find?_eq_some_iff h).2 ⟨hs, ⟨isKey_iff.2 (.inr rfl), s, hs⟩, ?_⟩⟩
  rintro k ⟨hkey, t, ht⟩
  obtain hk | rfl := isKey_iff.1 hkey
  · exact hbefore k t hk ht
  · exact List.le_refl _

theorem find?_perm (hperm : env'.Perm env) (h : env.Distinct) : find? env' = find? env := by
  have h' : env'.Distinct :=
    ⟨(hperm.map Prod.fst).nodup_iff.2 h.keys, fun m hm => h.values m (hperm.mem_iff.1 hm)⟩
  have htext : HasText env' = HasText env := by
    funext k s
    rw [HasText, HasText, Table.get?_perm hperm h.keys]
  ext b
  rw [find?_eq_some_iff h', find?_eq_some_iff h, htext]

theorem documented_find?_iff (h : env.Distinct) : Documented env (find? env) ↔ ¬ Shadowed env := by
  constructor
  · intro hdocumented hshadowed
    obtain ⟨s, -, hfind⟩ := find?_shadowed h hshadowed
    rw [hfind] at hdocumented
    exact not_isDocumented_overlap hdocumented.2.1.1
  · intro hnot
    cases hfind : find? env with
    | none => exact fun k s hk => find?_eq_none h hfind (isKey_iff.2 (.inl hk))
    | some b =>
      obtain ⟨htext, ⟨hkey, -⟩, hleast⟩ := (find?_eq_some_iff h).1 hfind
      have hfirst (k s : String) (hk : IsDocumented k) (hs : HasText env k s) :
          bytes b.key ≤ bytes k :=
        hleast k ⟨isKey_iff.2 (.inl hk), s, hs⟩
      obtain hk | hoverlap := isKey_iff.1 hkey
      · exact ⟨htext, ⟨hk, _, htext⟩, fun k ⟨hk, s, hs⟩ => hfirst k s hk hs⟩
      · exact absurd ⟨⟨_, hoverlap ▸ htext⟩, hoverlap ▸ hfirst⟩ hnot

theorem read_configured (h : Configures text env)
    (hread : w.disk.read w.cwd (configPath buildDir) = .ok c) (hc : c.text? = some text) :
    (read buildDir).run.run w = (.ok (find? env), w) := by
  have hfile : w.isFile (configPath buildDir) = true := Disk.isFile_of_read hread
  have hends : Ends (read buildDir) w fun r v => r = .ok (find? env) ∧ v = w := by
    refine Ends.get ?_
    rw [if_pos hfile]
    refine Ends.bind (Ends.step (Runs.ask ?_))
    simp only [hread, hc, h.ofText?]
    exact Ends.pure ⟨rfl, rfl⟩
  exact Prod.ext hends.1 hends.2

/-- A configuration that may be read is read as the binding that it documents exactly where the key
in which start and end overlap does not come before it. The order of its keys does not matter. -/
theorem read_documented_iff (hread : w.disk.read w.cwd (configPath buildDir) = .ok c)
    (hc : c.text? = some text) (config : Configures text env) :
    ∃ r, (read buildDir).run.run w = (.ok r, w) ∧ (Documented env r ↔ ¬ Shadowed env) ∧
      (Shadowed env → ∃ s, HasText env overlap s ∧ r = some ⟨overlap, s⟩) ∧
      ∀ (v : World σ) (dir text' : String) (c' : Content) (env' : Toml.Members),
        v.disk.read v.cwd (configPath dir) = .ok c' → c'.text? = some text' →
        Configures text' env' → env'.Perm env → (read dir).run.run v = (.ok r, v) := by
  refine ⟨_, read_configured config hread hc, documented_find?_iff config.distinct, ?_, ?_⟩
  · exact find?_shadowed config.distinct
  · intro v dir text' c' env' hread' hc' config' hperm
    rw [read_configured config' hread' hc', find?_perm hperm config.distinct]

section Trial

theorem configures_configText (hk : Toml.IsBareKey b.key) :
    Configures b.configText [(b.key, .text b.value)] :=
  ⟨_, (single_configText hk).read, rfl, .inr ⟨_, rfl, rfl⟩⟩

def withConfig (text : String) : World Unit :=
  let w := oldConfig 0o644
  { w with disk := w.disk.setContent 0 (.data (bytes text)) }

theorem read_withConfig (text : String) :
    (withConfig text).disk.read (withConfig text).cwd (configPath "build") =
      .ok (.data (bytes text)) := by
  have hlocate : (oldConfig 0o644).disk.locate (oldConfig 0o644).cwd true (configPath "build") =
      .ok ⟨["config.toml", ".cargo", "build", "home"], some (.file 0)⟩ := by decide
  have hthere := (Disk.grows_setContent _ 0 (.data (bytes text))).locate hlocate
  have hget : (withConfig text).disk.files.get? 0 = some ⟨0o644, .data (bytes text)⟩ := rfl
  have hreadable : FileData.isReadable ⟨0o644, .data (bytes text)⟩ = true := by
    simp [FileData.isReadable]
  rw [Disk.read, Disk.openForReading]
  simp only [withConfig] at hget ⊢
  simp only [bind, Except.bind, hthere, hget, hreadable]
  rfl

theorem read_documented_iff_empty :
    ((read "build").run.run (withConfig (configText ⟨"LLVM_SYS__PREFIX", ""⟩))).1 =
      .ok (some ⟨"LLVM_SYS__PREFIX", ""⟩) := by
  have hkey : Toml.IsBareKey "LLVM_SYS__PREFIX" :=
    ⟨by decide, List.all_eq_true.1 (by decide)⟩
  obtain ⟨r, hrun, hdocumented, -, -⟩ := read_documented_iff (read_withConfig _) (decode?_bytes _)
    (configures_configText (b := ⟨_, ""⟩) hkey)
  have hnot : ¬ Shadowed [("LLVM_SYS__PREFIX", .text "")] := by
    rintro ⟨⟨s, hs⟩, -⟩
    simp [HasText, overlap] at hs
  have hr := hdocumented.2 hnot
  rw [hrun]
  cases r with
  | none => exact absurd rfl (hr "LLVM_SYS__PREFIX" "" ⟨"", rfl⟩)
  | some b =>
    obtain ⟨k, s⟩ := b
    have htext := hr.1
    simp only [HasText, Table.get?_cons, Table.get?_nil] at htext
    split at htext
    · rename_i hk
      cases htext
      exact hk ▸ rfl
    · cases htext

/-- The key without anything between its start and its end is read as one that is documented. -/
theorem not_read_documented_overlap : ¬ ∀ (text : String) (env : Toml.Members) (w : World Unit)
    (c : Content) (r : Option Binding), w.disk.read w.cwd (configPath "build") = .ok c →
      c.text? = some text → Configures text env → (read "build").run.run w = (.ok r, w) →
      Documented env r := by
  intro h
  have hkey : Toml.IsBareKey overlap := ⟨by decide, List.all_eq_true.1 (by decide)⟩
  have config := configures_configText (b := ⟨overlap, "/opt/llvm"⟩) hkey
  have hread := read_withConfig (configText ⟨overlap, "/opt/llvm"⟩)
  have hrun := read_configured config hread (decode?_bytes _)
  have hdocumented := h _ _ _ _ _ hread (decode?_bytes _) config hrun
  have hshadowed : Shadowed [(overlap, .text "/opt/llvm")] := by
    refine ⟨⟨_, rfl⟩, fun k s _ hs => ?_⟩
    by_cases hk : overlap = k
    · exact hk ▸ List.le_refl _
    · simp [HasText, hk] at hs
  exact (documented_find?_iff config.distinct).1 hdocumented hshadowed

end Trial

end Provision.Binding
