import Provision.Extraction.Tar
import Provision.Proofs.Path.Relative
import Provision.Proofs.World.Run

namespace Provision.Tarball

open PathText EntryPath Provision.Action

variable {σ : Type} {p dest relative : String} {ns : List String} {w : World σ}

def Escapes (p : String) : Prop := p.toList.head? = some '/' ∨ ".." ∈ Text.split '/' p

instance : Decidable (Escapes p) := inferInstanceAs (Decidable (_ ∨ _))

theorem isSafe_iff_not_escapes : isSafe p = true ↔ ¬ Escapes p := by
  have hup : ".." ∈ segments p ↔ ".." ∈ Text.split '/' p := by
    simp [segments, isIdle]
  rw [isSafe_iff, hup, Escapes, not_or, isAbsolute, decide_eq_false_iff_not]

/-- A path is another with at least one more name behind it. -/
structure GoesOn (dest p : String) (ns : List String) : Prop where
  components : components p = components dest ++ ns.map .name
  ne_nil : ns ≠ []
  names : ∀ n ∈ ns, IsSegment n ∧ n ≠ ".."

theorem goesOn_join (hseg : ∀ n ∈ ns, IsSegment n) (hup : ".." ∉ ns) (hne : ns ≠ []) :
    GoesOn dest (join dest ("/".intercalate ns)) ns where
  components := by
    have hdot : startsWithDot ("/".intercalate ns) = false := by
      obtain ⟨n, r, rfl⟩ := List.exists_cons_of_ne_nil hne
      have hn := (hseg n (by simp)).ne_current
      rw [startsWithDot, Text.split_intercalate hne fun n hn => (hseg n hn).no_slash]
      simpa using hn
    rw [components_join (isAbsolute_of_isSegment hseg) fun _ => hdot, segments_of_isSegment hseg]
    congr 1
    refine List.map_congr_left fun n hn => ?_
    have hn' : n ≠ ".." := fun h => hup (h ▸ hn)
    rw [Component.ofSegment, if_neg hn']
  ne_nil := hne
  names n hn := ⟨hseg n hn, fun h => hup (h ▸ hn)⟩

theorem requireSafe_run (p : String) (w : World σ) : Ends (requireSafe p) w fun r v => v = w ∧
    (Escapes p ∧ r = .error (.unsafePath p) ∨ ¬ Escapes p ∧ r = .ok ()) := by
  rw [requireSafe]
  split
  · exact Ends.pure ⟨rfl, .inr ⟨isSafe_iff_not_escapes.1 ‹_›, rfl⟩⟩
  · exact Ends.throw ⟨rfl, .inl ⟨not_not.1 (mt isSafe_iff_not_escapes.2 ‹_›), rfl⟩⟩

theorem stripFirst?_of_not_escapes (h : ¬ Escapes p) :
    (stripFirst? p = none ↔ (segments p).length ≤ 1) ∧ ∀ relative,
      stripFirst? p = some relative ↔
        1 < (segments p).length ∧ relative = "/".intercalate ((segments p).drop 1) := by
  have hnil : (segments p).drop 1 = [] ↔ (segments p).length ≤ 1 := List.drop_eq_nil_iff
  rw [stripFirst?_safe (isSafe_iff_not_escapes.2 h)]
  by_cases hdrop : (segments p).drop 1 = []
  · have hle := hnil.1 hdrop
    simp [hdrop, hle, Nat.not_lt.2 hle]
  · have hlt : 1 < (segments p).length := Nat.lt_of_not_le (mt hnil.2 hdrop)
    rw [if_neg hdrop]
    refine ⟨iff_of_false (by simp) (Nat.not_le.2 hlt), fun relative => ?_⟩
    rw [Option.some.injEq, and_iff_right hlt, eq_comm]

/-- A name is refused if it starts at the root or goes up; what is left of any other is its segments
but the first, and goes on below every destination. -/
theorem entryName_exact (p : String) (w : World σ) :
    Ends (requireSafe p) w (fun r v => v = w ∧
      (Escapes p ∧ r = .error (.unsafePath p) ∨ ¬ Escapes p ∧ r = .ok ())) ∧
    (¬ Escapes p →
      (stripFirst? p = none ↔ (segments p).length ≤ 1) ∧
      (∀ relative, stripFirst? p = some relative ↔
        1 < (segments p).length ∧ relative = "/".intercalate ((segments p).drop 1)) ∧
      ∀ dest relative, stripFirst? p = some relative →
        GoesOn dest (join dest relative) ((segments p).drop 1)) := by
  refine ⟨requireSafe_run p w, fun h => ?_⟩
  obtain ⟨hnone, hsome⟩ := stripFirst?_of_not_escapes h
  refine ⟨hnone, hsome, fun dest relative hrel => ?_⟩
  obtain ⟨hlt, rfl⟩ := (hsome relative).1 hrel
  have hup := (isSafe_iff.1 (isSafe_iff_not_escapes.2 h)).2
  refine goesOn_join (fun n hn => isSegment_of_mem (List.mem_of_mem_drop hn))
    (fun hm => hup (List.mem_of_mem_drop hm)) fun hnil => ?_
  exact absurd (List.drop_eq_nil_iff.1 hnil) (Nat.not_le.2 hlt)

theorem entryName_exact_dotted :
    let name := ".//top/./...//bin/."
    Ends (requireSafe name) (World.fresh [] "" ()) (fun r _ => r = .ok ()) ∧
      stripFirst? name = some ".../bin" ∧
      GoesOn "../llvm" "../llvm/.../bin" ["...", "bin"] := by
  intro name
  have hsafe : ¬ Escapes name := by decide
  have hsegments : segments name = ["top", "...", "bin"] := by decide
  obtain ⟨hrun, hname⟩ := entryName_exact name (World.fresh [] "" ())
  obtain ⟨-, hsome, hjoin⟩ := hname hsafe
  have hrel : stripFirst? name = some ".../bin" := (hsome _).2 (by rw [hsegments]; decide)
  refine ⟨hrun.mono fun r v h => ?_, hrel, ?_⟩
  · exact (h.2.resolve_left fun hbad => hsafe hbad.1).2
  · have hbelow := hjoin "../llvm" _ hrel
    rw [hsegments] at hbelow
    exact hbelow

end Provision.Tarball
