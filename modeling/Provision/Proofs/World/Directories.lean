import Provision.Proofs.World.Run

namespace Provision

def World.prepared {σ : Type} (w : World σ) (dir : String) : World σ :=
  ((Action.createDirectories dir).run.run w).2

namespace Action

open PathText World

variable {σ : Type} {w v : World σ} {I : Disk → Prop} {p q : String} {ps : List String} {n : Nat}

theorem mem_lineage (h : q ∈ lineage n p) :
    (∃ t, p = q ++ t) ∧ isAbsolute q = isAbsolute p ∧ segments q <+: segments p := by
  induction n generalizing p with
  | zero => simp [lineage] at h
  | succ n ih =>
    simp only [lineage, List.mem_cons] at h
    obtain rfl | h := h
    · exact ⟨⟨"", by simp⟩, rfl, List.prefix_rfl⟩
    · cases hp : parent? p with
      | none => simp [hp] at h
      | some r =>
        obtain ⟨⟨t, ht⟩, ha, hs⟩ := parent?_eq_some hp
        obtain ⟨⟨u, hu⟩, hb, hv⟩ := ih (by simpa [hp] using h)
        refine ⟨⟨u ++ t, by rw [ht, hu, String.append_assoc]⟩, hb.trans ha, hv.trans ?_⟩
        rw [hs]
        exact List.dropLast_prefix _

theorem makeFirst_cons {Q : Except DiskError Unit → World σ → Prop} (empty : p = "" → Q (.ok ()) w)
    (alone : p ≠ "" → w.disk.makeDirectory w.cwd p ≠ .error .notFound →
      Runs (makeFirst.make p) w Q)
    (orphan : p ≠ "" → w.disk.makeDirectory w.cwd p = .error .notFound → ps = [] →
      Q (.error .notFound) w)
    (others : p ≠ "" → w.disk.makeDirectory w.cwd p = .error .notFound → ps ≠ [] →
      Runs (makeFirst ps) w fun r v => match r with
        | .ok () => Runs (makeFirst.make p) v Q
        | .error e => Q (.error e) v) : Runs (makeFirst (p :: ps)) w Q := by
  rw [makeFirst.eq_def]
  by_cases hp : p = ""
  · simpa [hp] using Runs.pure (empty hp)
  simp only [hp, ↓reduceIte]
  refine Runs.bind (Runs.change ?_ ?_)
  · intro d hd
    have hmade := alone hp (by simp [hd])
    rw [makeFirst.make, Runs, StateT.run_bind, change_run, hd] at hmade
    exact hmade
  · intro e he
    cases e with
    | notFound =>
      cases ps with
      | nil => exact Runs.pure (orphan hp he rfl)
      | cons q qs =>
        refine Runs.bind ((others hp he (by simp)).mono ?_)
        rintro (e | a) v hv
        · exact Runs.pure hv
        · exact hv
    | _ =>
      have hmade := alone hp (by simp [he])
      rw [makeFirst.make, Runs, StateT.run_bind, change_run, he] at hmade
      exact hmade

structure Composes (R : World σ → World σ → Prop) : Prop where
  refl : ∀ w, R w w
  trans : ∀ {w v u}, R w v → R v u → R w u

section

variable {R : World σ → World σ → Prop}

theorem make_run (hR : Composes R)
    (hstep : ∀ w d, w.disk.makeDirectory w.cwd p = .ok d → R w (w.changed d)) :
    Runs (makeFirst.make p) w fun r v => R w v ∧ (r = .ok () → v.isDir p = true) := by
  refine Runs.bind (Runs.change ?_ ?_)
  · intro d hd
    exact Runs.pure ⟨hstep w d hd, fun _ => Disk.isDir_of_makeDirectory hd⟩
  · intro e he
    refine Runs.get ?_
    split
    · exact Runs.pure ⟨hR.refl w, fun _ => ‹_›⟩
    · exact Runs.pure ⟨hR.refl w, fun h => by cases h⟩

theorem makeFirst_run (hR : Composes R)
    (hstep : ∀ p ∈ ps, ∀ w d, w.disk.makeDirectory w.cwd p = .ok d → R w (w.changed d)) :
    Runs (makeFirst ps) w fun r v =>
      R w v ∧ (r = .ok () → ∀ p, ps.head? = some p → p = "" ∨ v.isDir p = true) := by
  induction ps generalizing w with
  | nil => exact Runs.pure ⟨hR.refl w, by simp⟩
  | cons p ps ih =>
    simp only [List.head?_cons, Option.some.injEq, forall_eq']
    have hmake (v : World σ) := make_run (w := v) hR (hstep p (by simp))
    refine makeFirst_cons (fun hp => ⟨hR.refl w, fun _ => .inl hp⟩) (fun _ _ => ?_)
      (fun _ _ _ => ⟨hR.refl w, nofun⟩) (fun _ _ _ => ?_)
    · exact (hmake w).mono fun r v hv => ⟨hv.1, fun hr => .inr (hv.2 hr)⟩
    · refine (ih fun q hq => hstep q (by simp [hq])).mono ?_
      rintro (e | a) v ⟨hv, -⟩
      · exact ⟨hv, nofun⟩
      · exact (hmake v).mono fun r u hu => ⟨hR.trans hv hu.1, fun hr => .inr (hu.2 hr)⟩

theorem createDirectories_run (hR : Composes R)
    (hstep : ∀ q ∈ lineage (p.length + 1) p, ∀ w d,
      w.disk.makeDirectory w.cwd q = .ok d → R w (w.changed d)) :
    Ends (createDirectories p) w fun r v => R w v ∧ match r with
      | .ok () => p = "" ∨ v.isDir p = true
      | .error e => ∃ x, e = .step (.createDirectory p) (.disk x) := by
  refine Ends.step ((makeFirst_run hR hstep).mono ?_)
  rintro (e | ⟨⟩) v ⟨hv, hr⟩
  · exact ⟨hv, e, rfl⟩
  · exact ⟨hv, hr rfl p (by simp [lineage])⟩

theorem createParents_run (hR : Composes R) (hchange : ∀ (w : World σ) d, R w (w.changed d)) :
    Ends (createParents p) w fun _ v => R w v := by
  rw [createParents]
  split
  · exact (createDirectories_run hR fun _ _ w d _ => hchange w d).mono fun _ _ h => h.1
  · exact Ends.pure (hR.refl w)

end

theorem composes_along (I : Disk → Prop) (c : Location) :
    Composes (σ := σ) fun w v => w.cwd = c → I w.disk → Along I w v where
  refl _ _ hI := .refl hI
  trans h h' hc hI := (h hc hI).trans (h' ((h hc hI).cwd.trans hc) (h hc hI).now)

theorem createDirectories_along (hI : I w.disk)
    (hstep : ∀ q ∈ lineage (p.length + 1) p, ∀ d d', I d →
      d.makeDirectory w.cwd q = .ok d' → I d') :
    Ends (createDirectories p) w fun r v => Along I w v ∧ match r with
      | .ok () => p = "" ∨ v.isDir p = true
      | .error e => ∃ x, e = .step (.createDirectory p) (.disk x) := by
  refine (createDirectories_run (composes_along I w.cwd) ?_).mono ?_
  · intro q hq v d hd hc hv
    exact (Along.refl hv).changed (hstep q hq _ _ hv (hc ▸ hd))
  · rintro r v ⟨hv, hr⟩
    exact ⟨hv rfl hI, hr⟩

theorem composes_lasts (P : Disk → Prop) : Composes (σ := σ) (Lasts P) := ⟨.refl, .trans⟩

theorem createDirectories_lasts {P : Disk → Prop} (hP : ∀ d d', Disk.Grows d d' → P d → P d') :
    Ends (createDirectories p) w fun _ v => Lasts P w v := by
  refine (createDirectories_run (composes_lasts P) ?_).mono fun _ _ h => h.1
  intro q _ v d hd
  exact .changed (hP _ _ (Disk.makeDirectory_grows hd))

theorem createDirectories_grows :
    Ends (createDirectories p) w fun _ v => Along (fun d => Disk.Grows d v.disk) w v := by
  have hlasts : ∀ d, Ends (createDirectories p) w fun _ v => Lasts (Disk.Grows d) w v := fun d =>
    createDirectories_lasts fun _ _ hg h => h.trans hg
  have hall : Ends (createDirectories p) w fun _ v => Along (fun _ => True) w v :=
    (createDirectories_along trivial fun _ _ _ _ _ _ => trivial).mono fun _ _ h => h.1
  refine Ends.intro fun r v hr => ?_
  have hv := hall.of_run hr
  obtain ⟨l, hl, hw, -⟩ := hv.before
  refine ⟨hv.cwd, .refl _, l, hl, hw, fun d hd => ?_⟩
  obtain ⟨m, hm, hlast⟩ := ((hlasts d).of_run hr).after
  obtain rfl : l = m := List.append_cancel_right (hl.symm.trans hm)
  exact hlast d (List.mem_cons_of_mem _ hd) (.refl d)

theorem makeFirst_of_isDir (h : p = "" ∨ w.isDir p = true) :
    Runs (makeFirst (p :: ps)) w fun r v => r = .ok () ∧ v = w := by
  rw [makeFirst.eq_def]
  simp only
  split
  · exact Runs.pure ⟨rfl, rfl⟩
  · have hp : w.isDir p = true := h.resolve_left ‹_›
    refine Runs.bind (Runs.change ?_ ?_)
    · intro d hd
      rw [Disk.makeDirectory_of_isDir (by exact hp)] at hd
      cases hd
    · intro e he
      rw [Disk.makeDirectory_of_isDir (by exact hp)] at he
      cases he
      refine Runs.get ?_
      rw [if_pos hp]
      exact Runs.pure ⟨rfl, rfl⟩

theorem createDirectories_of_isDir (h : p = "" ∨ w.isDir p = true) :
    Ends (createDirectories p) w fun r v => r = .ok () ∧ v = w := by
  refine Ends.step ((makeFirst_of_isDir h).mono ?_)
  rintro r v ⟨rfl, rfl⟩
  exact ⟨rfl, rfl⟩

theorem isDir_parent (hq : parent? p = some q) (h : w.isDir p = true) :
    q = "" ∨ w.isDir q = true := by
  obtain ⟨⟨t, rfl⟩, ha, hs⟩ := parent?_eq_some hq
  by_cases hne : q = ""
  · exact .inl hne
  · right
    obtain ⟨X, hu, k, hk⟩ := Disk.isDir_iff.1 h
    obtain ⟨vs, hvs⟩ : segments q <+: segments (q ++ t) := hs ▸ List.dropLast_prefix _
    have ho : Disk.origin w.cwd (q ++ t) = Disk.origin w.cwd q := by
      rw [Disk.origin, Disk.origin, ha]
    rw [← hvs, Disk.reach_append, ho] at hk
    cases hr : w.disk.reach Disk.maxLinks (Disk.origin w.cwd q) (segments q) with
    | error e => simp [hr, bind, Except.bind] at hk
    | ok r => exact Disk.isDir_iff.2 ⟨r.1, hu.cut hne, r.2, hr⟩

theorem make_failed : Runs (makeFirst.make p) w fun r v =>
    ∀ e, r = .error e → v.isDir p = false := by
  refine Runs.bind (Runs.change ?_ ?_)
  · intro d hd
    exact Runs.pure fun _ h => by cases h
  · intro e he
    refine Runs.get ?_
    split
    · exact Runs.pure fun _ h => by cases h
    · exact Runs.pure fun _ _ => by simpa using ‹¬ w.isDir p = true›

theorem makeFirst_failed : Runs (makeFirst (lineage n p)) w fun r v =>
    ∀ e, r = .error e → p ≠ "" ∧ v.isDir p = false := by
  induction n generalizing w p with
  | zero => exact Runs.pure nofun
  | succ n ih =>
    rw [lineage]
    have hmissing (he : w.disk.makeDirectory w.cwd p = .error .notFound) : w.isDir p = false := by
      cases hd : w.isDir p with
      | false => rfl
      | true => cases (Disk.makeDirectory_of_isDir hd).symm.trans he
    refine makeFirst_cons (fun _ => nofun) (fun hp _ => ?_)
      (fun hp he _ _ _ => ⟨hp, hmissing he⟩) (fun hp _ hps => ?_)
    · exact make_failed.mono fun r v hr e he => ⟨hp, hr e he⟩
    · cases hq : parent? p with
      | none => simp [hq] at hps
      | some q =>
        refine ih.mono ?_
        rintro (e | a) v hv
        · refine fun _ _ => ⟨hp, ?_⟩
          obtain ⟨hne, hdir⟩ := hv e rfl
          cases hd : v.isDir p with
          | false => rfl
          | true => simpa [hne, hdir] using isDir_parent hq hd
        · exact make_failed.mono fun r u hr e he => ⟨hp, hr e he⟩

theorem createDirectories_failed : Ends (createDirectories p) w fun r v =>
    ∀ e, r = .error e → p ≠ "" ∧ v.isDir p = false := by
  refine Ends.step (makeFirst_failed.mono ?_)
  rintro (e | a) v hv
  · exact fun _ _ => hv e rfl
  · exact fun _ h => by cases h

theorem createParents_along (hI : I w.disk)
    (hstep : ∀ q, segments q <+: (segments p).dropLast → isAbsolute q = isAbsolute p →
      (∃ t, p = q ++ t) → ∀ d d', I d → d.makeDirectory w.cwd q = .ok d' → I d') :
    Ends (createParents p) w fun r v => Along I w v ∧ match r with
      | .ok () => ∀ q, parent? p = some q → q = "" ∨ v.isDir q = true
      | .error e => ∃ q x, parent? p = some q ∧ e = .step (.createDirectory q) (.disk x) := by
  simp only [createParents]
  cases hp : parent? p with
  | none => exact Ends.pure ⟨Along.refl hI, by simp⟩
  | some q =>
    obtain ⟨⟨t, ht⟩, ha, hs⟩ := parent?_eq_some hp
    refine (createDirectories_along hI ?_).mono ?_
    · intro r hr
      obtain ⟨⟨u, hu⟩, hb, hv⟩ := mem_lineage hr
      exact hstep r (hs ▸ hv) (hb.trans ha) ⟨u ++ t, by rw [ht, hu, String.append_assoc]⟩
    · rintro (e | ⟨⟩) v ⟨hv, hr⟩
      · obtain ⟨x, rfl⟩ := hr
        exact ⟨hv, q, x, rfl, rfl⟩
      · refine ⟨hv, fun q' hq' => ?_⟩
        obtain rfl := Option.some.inj hq'
        exact hr

end Action
end Provision
