import Mathlib.Control.Monad.Basic
import Provision.Proofs.Extraction.Entry
import Provision.Proofs.Extraction.Stable

/-!
Extraction and what lies outside of its destination. Only the name of an entry is checked, so an
entry may be led elsewhere by a symbolic link that an earlier one has made; those archives are
confined in which no such entry is written.
-/

namespace Provision

open PathText

namespace Disk

variable {P d e : Disk} {cwd D l m : Location} {k : Nat} {ws : List String} {dest : String}

structure Site (P : Disk) (cwd : Location) (dest : String) (D : Location) (k : Nat) : Prop where
  wellFormed : P.WellFormed
  here : P.nodeAt cwd = some .directory
  rooted : P.Rooted cwd dest D k
  unlinked : ∀ m t, D <:+ m → P.nodeAt m ≠ some (.symlink t)

theorem Site.directory (h : Site P cwd dest D k) : P.nodeAt D = some .directory :=
  h.wellFormed.reach (nodeAt_origin h.here dest) h.rooted

structure Spared (P : Disk) (D : Location) (d : Disk) : Prop where
  wellFormed : d.WellFormed
  directory : ∀ {m}, P.nodeAt m = some .directory → d.nodeAt m = some .directory
  outside : ∀ {m}, ¬ D <:+ m → Same P d m

theorem Spared.refl (h : P.WellFormed) : Spared P D P := ⟨h, id, fun _ => .refl P _⟩

theorem keeps_of_site (hsite : Site P cwd dest D k)
    (hdir : ∀ m, P.nodeAt m = some .directory → d.nodeAt m = some .directory)
    (hout : ∀ {m}, ¬ D <:+ m → Same P d m) : Keeps P d := by
  intro m n hn hm
  cases n with
  | directory => exact hdir m hm
  | file id => exact absurd rfl (hn id)
  | symlink t =>
    have houtside : ¬ D <:+ m := fun hD => hsite.unlinked m t hD hm
    rw [(hout houtside).1, hm]

theorem Spared.keeps (h : Spared P D d) (hsite : Site P cwd dest D k) : Keeps P d :=
  keeps_of_site hsite (fun _ => h.directory) h.outside

theorem Moved.directory {T : Location → Prop} (h : Moved d T e) (hm : d.nodeAt m = some .directory) :
    e.nodeAt m = some .directory := by
  obtain rfl | ⟨l, -, hf⟩ := h.frame
  · exact hm
  · exact hf.directory hm

theorem Moved.same {T : Location → Prop} (h : Moved d T e)
    (hm : ∀ l, T l → m ≠ l ∧ (m <:+ l → d.nodeAt m ≠ none)) : Same d e m := by
  obtain rfl | ⟨l, hl, hf⟩ := h.frame
  · exact .refl _ m
  · exact hf.same (hm l hl).1 (hm l hl).2

theorem WellFormed.of_suffix (h : d.WellFormed) (hD : d.nodeAt D = some .directory)
    (hl : D <:+ l) (hm : ¬ D <:+ m) : m ≠ l ∧ (m <:+ l → d.nodeAt m ≠ none) := by
  refine ⟨fun he => hm (he ▸ hl), fun hml hnone => ?_⟩
  obtain ⟨r, rfl⟩ := (List.suffix_or_suffix_of_suffix hl hml).resolve_left hm
  simp [h.below_none hnone r] at hD

end Disk

namespace Tarball

open Provision.Action World Disk

variable {σ : Type} {w v : World σ} {P : Disk} {D : Location} {k : Nat} {dest archive : String}
  {e : TarEntry} {es : List TarEntry}

/-- The place that an entry touches, behind whichever links are there at the moment, is below a
directory; or the entry changes nothing. -/
def Spares (dest : String) (D : Location) (w : World σ) (e : TarEntry) : Prop :=
  (∀ k l, w.disk.Rooted w.cwd dest D k → Touches w.disk k D e l → D <:+ l) ∨
    Ends (extractEntry dest e) w fun _ v => Along (fun d => ∀ m, Same w.disk d m) w v

def Guarded (dest : String) (D : Location) : List TarEntry → World σ → Prop
  | [], _ => True
  | e :: r, w => e.sound = true → Spares dest D w e ∧
      ∀ b v, (extractEntry dest e).run.run w = (.ok b, v) → e.isCut = false → Guarded dest D r v

theorem spares_iff (hs : Spared P D w.disk) (hD : P.nodeAt D = some .directory)
    (here : w.disk.nodeAt w.cwd = some .directory) (hroot : w.disk.Rooted w.cwd dest D k) :
    Spares dest D w e ↔
      Ends (extractEntry dest e) w fun _ v => Along (fun d => ∀ m, ¬ D <:+ m → Same P d m) w v := by
  have hmoved := extractEntry_along (e := e) hs.wellFormed here hroot
  constructor
  · rintro (hin | hstill)
    · refine hmoved.mono fun _ v hv => hv.mono fun d hd m hm => (hs.outside hm).trans ?_
      exact hd.same fun l hl =>
        hs.wellFormed.of_suffix (hs.directory hD) (hin k l hroot hl) hm
    · exact hstill.mono fun _ v hv => hv.mono fun d hd m hm => (hs.outside hm).trans (hd m)
  · intro h
    by_cases hin : ∀ k l, w.disk.Rooted w.cwd dest D k → Touches w.disk k D e l → D <:+ l
    · exact .inl hin
    right
    cases hsafe : EntryPath.isSafe e.name with
    | false =>
      refine (extractEntry_refused hsafe).mono fun _ v hv => ?_
      rw [hv]
      exact .refl fun m => .refl _ m
    | true =>
      have hup : ".." ∉ placeOf e := fun hm =>
        (EntryPath.isSafe_iff.1 hsafe).2 (List.mem_of_mem_drop hm)
      simp only [Classical.not_forall] at hin
      obtain ⟨i, l, hi, hl, hout⟩ := hin
      cases hi.symm.trans hroot
      refine (hmoved.and h).mono fun _ v hv => (hv.1.and hv.2).mono fun d hd m => ?_
      obtain ⟨hd, hsame⟩ := hd
      obtain rfl | ⟨l', hl', hf⟩ := hd.frame
      · exact .refl _ m
      obtain rfl := hl.unique hup hl'
      by_cases hm : D <:+ m
      · refine hf.same (fun he => hout (he ▸ hm)) fun hml => absurd (hm.trans hml) hout
      · exact (hs.outside hm).symm.trans (hsame m hm)

theorem rooted_of_spared (hs : Spared P D w.disk) (hsite : Site P w.cwd dest D k) :
    w.disk.nodeAt w.cwd = some .directory ∧ w.disk.Rooted w.cwd dest D k :=
  ⟨hs.directory hsite.here, hsite.rooted.keeps (hs.keeps hsite)⟩

theorem spared_extractEntry {r : Except Failure Bool} (hs : Spared P D w.disk)
    (here : w.disk.nodeAt w.cwd = some .directory) (hroot : w.disk.Rooted w.cwd dest D k)
    (hrun : (extractEntry dest e).run.run w = (r, v))
    (hv : ∀ m, ¬ D <:+ m → Same P v.disk m) : Spared P D v.disk := by
  have hm := (extractEntry_along (e := e) hs.wellFormed here hroot).of_run hrun
  exact ⟨hm.now.wellFormed, fun h => hm.now.directory (hs.directory h), fun {m} h => hv m h⟩

theorem guarded_iff {broken : Bool} {n : Nat} (hs : Spared P D w.disk)
    (hsite : Site P w.cwd dest D k) :
    Guarded dest D es w ↔ Ends (extractEntries archive dest broken n es) w fun _ v =>
      Along (fun d => ∀ m, ¬ D <:+ m → Same P d m) w v := by
  have hw : ∀ m, ¬ D <:+ m → Same P w.disk m := fun m hm => hs.outside hm
  induction es generalizing w n with
  | nil =>
    simp only [extractEntries, Guarded, true_iff]
    split
    · exact Ends.throw (.refl hw)
    · exact Ends.pure (.refl hw)
  | cons e es ih =>
    obtain ⟨here', hroot'⟩ := rooted_of_spared hs hsite
    obtain ⟨r, v, hrun⟩ : ∃ r v, (extractEntry dest e).run.run w = (r, v) := ⟨_, _, rfl⟩
    have hentry := spares_iff (e := e) hs hsite.directory here' hroot'
    have hmoved := (extractEntry_along (e := e) hs.wellFormed here' hroot').of_run hrun
    have hrest (hv : ∀ m, ¬ D <:+ m → Same P v.disk m) (n : Nat) : Guarded dest D es v ↔
        Ends (extractEntries archive dest broken n es) v fun _ u =>
          Along (fun d => ∀ m, ¬ D <:+ m → Same P d m) v u :=
      ih (spared_extractEntry hs here' hroot' hrun hv) (hmoved.cwd ▸ hsite) hv
    rw [Ends.iff_of_run hrun] at hentry
    rw [ends_cons_iff, Guarded, hentry]
    constructor
    · intro h
      refine ⟨fun _ => .refl hw, fun hsound _ _ hrun' => ?_, fun hsound _ _ _ hrun' => ?_,
        fun hsound hcut b _ hrun' => ?_⟩
      all_goals obtain ⟨rfl, rfl⟩ := Prod.mk.inj (hrun.symm.trans hrun')
      · exact (h hsound).1
      · exact (h hsound).1
      · obtain ⟨hv, hguarded⟩ := h hsound
        exact ((hrest hv.now _).1 (hguarded b _ hrun hcut)).mono fun _ u hu => hv.trans hu
    · intro h hsound
      cases r with
      | error x => exact ⟨h.failed hsound hrun, fun b u hu => by cases hrun.symm.trans hu⟩
      | ok b =>
        cases hcut : e.isCut with
        | true => exact ⟨h.cut hsound hcut hrun, fun b u _ hwhole => by cases hwhole⟩
        | false =>
          -- What is so all along the run of the others was so already when this entry had ended.
          have hall := maintains_extractEntries (stable_true v.cwd) archive dest broken
            (if b then n + 1 else n) es v rfl trivial
          have hsplit := ((h.next hsound hcut hrun).and hall).mono fun _ u hu =>
            hu.1.split hmoved hu.2
          have hv : Along (fun d => ∀ m, ¬ D <:+ m → Same P d m) w v := hsplit.1
          refine ⟨hv, fun b' u hu _ => ?_⟩
          cases hrun.symm.trans hu
          exact (hrest hv.now _).2 (hsplit.mono fun _ _ hu => hu.2)

def Made (dest : String) (w : World σ) (m : Location) : Prop :=
  w.disk.nodeAt m = none ∧ (w.prepared dest).disk.nodeAt m = some .directory ∧
    ∃ q ∈ lineage (dest.length + 1) dest, ∃ k, (w.prepared dest).disk.Rooted w.cwd q m k

def Outside (dest : String) (w : World σ) (m : Location) : Prop :=
  ∀ D k, (w.prepared dest).disk.Rooted w.cwd dest D k → ¬ D <:+ m

/-- As it was, or a directory that has been made on the way and has the mode of a new one. -/
def Kept (dest : String) (w : World σ) (d : Disk) (m : Location) : Prop :=
  Same w.disk d m ∨ Made dest w m ∧ d.nodeAt m = some .directory ∧ d.modeAt m = directoryMode

/-- Outside of the destination everything is as it was, but for directories made on the way. -/
def Untouched (dest : String) (w : World σ) (d : Disk) : Prop :=
  ∀ m, Outside dest w m → Kept dest w d m

def Confined (archive dest : String) (w : World σ) : Prop :=
  Ends (extract archive dest) w fun _ v => Along (Untouched dest w) w v

theorem prepared_along (dest : String) (hwf : w.disk.WellFormed)
    (here : w.disk.nodeAt w.cwd = some .directory) :
    Along (fun d => d.WellFormed ∧ Grows w.disk d ∧ ∀ m, Kept dest w d m) w (w.prepared dest) := by
  let I (d : Disk) : Prop := d.WellFormed ∧ Grows w.disk d ∧ ∀ m, Same w.disk d m ∨
    w.disk.nodeAt m = none ∧ (d.nodeAt m = some .directory ∧ d.modeAt m = directoryMode) ∧
      ∃ q ∈ lineage (dest.length + 1) dest, ∃ k, d.Rooted w.cwd q m k
  have hI : Along I w (w.prepared dest) := by
    refine (createDirectories_along (w := w) (p := dest) ⟨hwf, .refl _, fun m => .inl (.refl _ m)⟩ ?_).1
    rintro q hq d d' ⟨hd, hgrows, hsame⟩ hmake
    have hgrows' := makeDirectory_grows hmake
    refine ⟨hd.makeDirectory (hgrows _ _ here) hmake, hgrows.trans hgrows', fun m => ?_⟩
    obtain ⟨s, X, b, hslot, hnone, rfl⟩ := makeDirectory_eq_ok hmake
    by_cases hm : s :: X = m
    · subst hm
      refine .inr ⟨?_, ⟨by simp [nodeAt_put], hd.modeAt_of_none hnone⟩, q, hq, ?_⟩
      · cases hn : w.disk.nodeAt (s :: X) with
        | none => rfl
        | some n => simp [hgrows _ _ hn] at hnone
      · exact reach_of_slot hslot hgrows'.keeps (by simp [nodeAt_put])
    · have hput := same_put (d := d) (Ne.symm hm) .directory
      obtain hm | ⟨hnone', ⟨hdir, hmode⟩, q', hq', k, hk⟩ := hsame m
      · exact .inl (hm.trans hput)
      · exact .inr ⟨hnone', ⟨hput.node.trans hdir, hmode⟩, q', hq', k, hk.keeps hgrows'.keeps⟩
  refine (hI.and createDirectories_grows).mono fun d hd => ?_
  obtain ⟨⟨hd, hgrows, hsame⟩, hend⟩ := hd
  refine ⟨hd, hgrows, fun m => (hsame m).imp_right ?_⟩
  rintro ⟨hnone, hdir, q, hq, k, hk⟩
  exact ⟨⟨hnone, hend _ _ hdir.1, q, hq, k, hk.keeps hend.keeps⟩, hdir⟩

theorem untouched_prepared (hwf : w.disk.WellFormed)
    (here : w.disk.nodeAt w.cwd = some .directory) :
    Along (Untouched dest w) w (w.prepared dest) :=
  (prepared_along dest hwf here).mono fun _ hd m _ => hd.2.2 m

theorem outside_iff {m : Location} (hroot : (w.prepared dest).disk.Rooted w.cwd dest D k) :
    Outside dest w m ↔ ¬ D <:+ m := by
  constructor
  · exact fun h => h D k hroot
  · intro h E j hj
    cases hroot.symm.trans hj
    exact h

theorem untouched_iff {d : Disk} (hwf : w.disk.WellFormed)
    (here : w.disk.nodeAt w.cwd = some .directory)
    (hroot : (w.prepared dest).disk.Rooted w.cwd dest D k)
    (hdirs : ∀ m, (w.prepared dest).disk.nodeAt m = some .directory → d.nodeAt m = some .directory) :
    Untouched dest w d ↔ ∀ m, ¬ D <:+ m → Same (w.prepared dest).disk d m := by
  have hprepared := (prepared_along dest hwf here).now.2.2
  constructor
  · intro h m hm
    obtain hd | ⟨⟨hnone, hmade, hway⟩, hdir, hmode⟩ := h m ((outside_iff hroot).2 hm)
    · obtain hP | ⟨⟨hnone, -⟩, hP, -⟩ := hprepared m
      · exact hP.symm.trans hd
      · have := hdirs m hP
        simp [hd.1, hnone] at this
    · obtain hP | ⟨-, -, hP⟩ := hprepared m
      · simp [hP.1, hnone] at hmade
      · exact same_of_directory hmade hdir (hmode.trans hP.symm)
  · intro h m hm
    have hd := h m ((outside_iff hroot).1 hm)
    obtain hP | ⟨hmade, hP, hmode⟩ := hprepared m
    · exact .inl (hP.trans hd)
    · exact .inr ⟨hmade, hdirs m hP, hd.mode.trans hmode⟩

theorem site_prepared (hwf : w.disk.WellFormed) (here : w.disk.nodeAt w.cwd = some .directory)
    (hroot : (w.prepared dest).disk.Rooted w.cwd dest D k)
    (hlinks : ∀ m t, D <:+ m → w.disk.nodeAt m ≠ some (.symlink t)) :
    Site (w.prepared dest).disk (w.prepared dest).cwd dest D k := by
  have hprepared := prepared_along dest hwf here
  obtain ⟨hPwf, hPgrows, hPsame⟩ := hprepared.now
  rw [hprepared.cwd]
  refine ⟨hPwf, hPgrows _ _ here, hroot, fun m t hm hnode => ?_⟩
  obtain hs | ⟨-, hdir, -⟩ := hPsame m
  · exact hlinks m t hm (hs.1 ▸ hnode)
  · simp [hdir] at hnode

theorem guarded_prepared_iff {broken : Bool} {n : Nat} (hwf : w.disk.WellFormed)
    (here : w.disk.nodeAt w.cwd = some .directory)
    (hroot : (w.prepared dest).disk.Rooted w.cwd dest D k)
    (hlinks : ∀ m t, D <:+ m → w.disk.nodeAt m ≠ some (.symlink t)) :
    Guarded dest D es (w.prepared dest) ↔
      Ends (extractEntries archive dest broken n es) (w.prepared dest) fun _ v =>
        Along (Untouched dest w) w v := by
  have hprepared := prepared_along dest hwf here
  have hsite := site_prepared hwf here hroot hlinks
  have hiff : ∀ d, (∀ m, (w.prepared dest).disk.nodeAt m = some .directory →
      d.nodeAt m = some .directory) →
        (Untouched dest w d ↔ ∀ m, ¬ D <:+ m → Same (w.prepared dest).disk d m) :=
    fun d => untouched_iff hwf here hroot
  have hdirs := maintains_extractEntries (stable_directories (w.prepared dest).disk
    (w.prepared dest).cwd) archive dest broken n es (w.prepared dest) rfl
    fun _ h => h
  have hprep : Along (Untouched dest w) w (w.prepared dest) := untouched_prepared hwf here
  rw [guarded_iff (.refl hsite.wellFormed) hsite]
  constructor
  · refine fun h => (h.and hdirs).mono fun _ v hv => hprep.trans ?_
    exact (hv.1.and hv.2).mono fun d hd => (hiff d hd.2).2 hd.1
  · refine fun h => (h.and hdirs).mono fun _ v hv => ?_
    have hsplit := (hv.1.split hprepared hv.2).2
    exact (hsplit.and hv.2).mono fun d hd => (hiff d hd.2).1 hd.1

theorem extract_along_iff {I : Disk → Prop} (hprep : Along I w (w.prepared dest)) :
    (Ends (extract archive dest) w fun _ v => Along I w v) ↔ ∀ c reader,
      w.disk.openForReading w.cwd archive = .ok (.file c) →
      Compression.ofName? archive = some reader →
      ((createDirectories dest).run.run w).1 = .ok () →
        Ends (extractEntries archive dest (streamOf reader c).broken 0 (streamOf reader c).entries)
          (w.prepared dest) fun _ v => Along I w v := by
  have hw : Along I w w := .refl hprep.start
  have hask : (step (.openArchive archive) (ask (·.openForReading · archive))).run.run w =
      ((w.disk.openForReading w.cwd archive).mapError fun e => .step (.openArchive archive) (.disk e),
        w) := step_run _ _ _
  rw [extract, Ends.bind_iff, Ends.iff_of_run hask]
  cases hopen : w.disk.openForReading w.cwd archive with
  | error e => exact iff_of_true hw fun _ _ h => by cases h
  | ok opened =>
    simp only [Except.mapError]
    cases hname : Compression.ofName? archive with
    | none => exact iff_of_true (Ends.throw hw) fun _ _ _ h => by cases h
    | some reader =>
      obtain ⟨r, hr⟩ : ∃ r, (createDirectories dest).run.run w = (r, w.prepared dest) := ⟨_, rfl⟩
      rw [Ends.bind_iff, Ends.iff_of_run hr, hr]
      cases r with
      | error e => exact iff_of_true hprep fun _ _ _ _ h => by cases h
      | ok _ =>
        cases opened with
        | directory => exact iff_of_true (Ends.throw hprep) fun _ _ h => by cases h
        | file c =>
          dsimp only
          rw [Ends.bind_iff]
          constructor
          · rintro h c' reader' hc hreader -
            obtain rfl : reader = reader' := Option.some.inj hreader
            obtain rfl : c = c' := by injection hc with hc; injection hc
            refine h.mono fun r v hv => ?_
            cases r with
            | error e => exact hv
            | ok n => exact hv.quiet ⟨rfl, rfl, rfl⟩
          · intro h
            refine (h c reader rfl rfl rfl).mono fun r v hv => ?_
            cases r with
            | error e => exact hv
            | ok n => exact Ends.tell (hv.quiet ⟨rfl, rfl, rfl⟩)

theorem exists_rooted_prepared (hmade : ((createDirectories dest).run.run w).1 = .ok ()) :
    ∃ D k, (w.prepared dest).disk.Rooted w.cwd dest D k := by
  have h := createDirectories_along (w := w) (p := dest) (I := fun _ => True) trivial
    fun _ _ _ _ _ _ => trivial
  obtain ⟨hall, hdir⟩ := h.of_run (Prod.ext hmade rfl)
  refine exists_rooted ?_
  rw [← hall.cwd]
  exact hdir

/-- An extraction is confined just where each entry that is reached lands below the destination,
behind whichever links are then on disk, or is not written. -/
theorem confined_iff (hwf : w.disk.WellFormed) (here : w.disk.nodeAt w.cwd = some .directory)
    (hlinks : ∀ D k, (w.prepared dest).disk.Rooted w.cwd dest D k →
      ∀ m t, D <:+ m → w.disk.nodeAt m ≠ some (.symlink t)) :
    Confined archive dest w ↔ ∀ c reader D k,
      w.disk.openForReading w.cwd archive = .ok (.file c) →
      Compression.ofName? archive = some reader →
      ((createDirectories dest).run.run w).1 = .ok () →
      (w.prepared dest).disk.Rooted w.cwd dest D k →
        Guarded dest D (streamOf reader c).entries (w.prepared dest) := by
  rw [Confined, extract_along_iff (untouched_prepared hwf here)]
  constructor
  · intro h c reader D k hc hreader hmade hroot
    exact (guarded_prepared_iff hwf here hroot (hlinks D k hroot)).2 (h c reader hc hreader hmade)
  · intro h c reader hc hreader hmade
    obtain ⟨D, k, hroot⟩ := exists_rooted_prepared hmade
    exact (guarded_prepared_iff hwf here hroot (hlinks D k hroot)).1
      (h c reader D k hc hreader hmade hroot)

section Trial

def besideOut (es : List TarEntry) : World Unit :=
  let w := World.fresh ["home"] "" ()
  let archive : Content := .tarball ⟨.xz, [es.map .entry]⟩
  { w with disk := ((w.disk.put ["out", "home"] .directory).addFile ["a.tar.xz", "home"]
      ⟨0o644, archive⟩).1 }

theorem wellFormed_besideOut (es : List TarEntry) : (besideOut es).disk.WellFormed :=
  ((wellFormed_ofDirectory ["home"]).put rfl (by decide) (by simp)).addFile rfl (by decide)

theorem besideOut_links (es : List TarEntry) (m : Location) (t : String) :
    (besideOut es).disk.nodeAt m ≠ some (.symlink t) := by
  simp only [besideOut, World.fresh, Disk.ofDirectory, nodeAt_addFile, nodeAt_put]
  repeat' split
  all_goals cases m <;> simp [Disk.empty, nodeAt]

theorem confined_iff_file :
    let w := besideOut [⟨"top/bin/clang", .regular, 0o755, [0], "", true, none, false⟩]
    w.disk.WellFormed ∧ (Confined "a.tar.xz" "dest" w ↔ ∀ c reader D k,
      w.disk.openForReading w.cwd "a.tar.xz" = .ok (.file c) →
      Compression.ofName? "a.tar.xz" = some reader →
      ((createDirectories "dest").run.run w).1 = .ok () →
      (w.prepared "dest").disk.Rooted w.cwd "dest" D k →
        Guarded "dest" D (streamOf reader c).entries (w.prepared "dest")) :=
  ⟨wellFormed_besideOut _, confined_iff (wellFormed_besideOut _) rfl fun _ _ _ m t _ =>
    besideOut_links _ m t⟩

/-- A symbolic link to a directory outside, and then a file behind it. -/
theorem not_confined_link :
    ¬ ∀ (archive dest : String) (w : World Unit), w.disk.WellFormed →
      w.disk.nodeAt w.cwd = some .directory →
      (∀ m t, w.disk.nodeAt m ≠ some (.symlink t)) → Confined archive dest w := by
  intro h
  let w := besideOut [⟨"top/link", .symlink, 0o777, [], "/home/out", true, none, false⟩,
    ⟨"top/link/file", .regular, 0o644, [120], "", true, none, false⟩]
  have hw := h "a.tar.xz" "dest" w (wellFormed_besideOut _) rfl (besideOut_links _)
  have houtside : Outside "dest" w ["file", "out", "home"] := by
    have hroot : (w.prepared "dest").disk.Rooted w.cwd "dest" ["dest", "home"] 40 := by
      rw [Rooted]
      decide +kernel
    exact (outside_iff hroot).2 (by decide)
  obtain hsame | ⟨-, hdir, -⟩ := hw.now _ houtside
  · exact absurd hsame.1 (by decide +kernel)
  · exact absurd hdir (by decide +kernel)

end Trial

end Tarball
end Provision
