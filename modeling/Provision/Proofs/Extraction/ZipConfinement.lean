import Provision.Proofs.Extraction.Confinement
import Provision.Proofs.Extraction.ZipTree

/-!
Unpacking a ZIP archive changes nothing outside of its destination. The names of entries never lead
up, and as no entry makes a link, what a name leads to is below the destination at every moment.
-/

namespace Provision

open PathText Provision.Action World

namespace Disk

variable {P d d' : Disk} {cwd D X Y : Location} {j k mode : Nat} {ws : List String}
  {p q s dest : String} {f : FileData} {c : Content} {id : FileId} {follow : Bool} {spot : Spot}

/-- No link leads out of a directory: no symbolic link stands in it, and no file in it has a name
elsewhere. -/
structure Secluded (d : Disk) (D : Location) : Prop where
  unlinked : ∀ m t, D <:+ m → d.nodeAt m ≠ some (.symlink t)
  inward : ∀ l m id, D <:+ l → d.nodeAt l = some (.file id) → d.nodeAt m = some (.file id) → D <:+ m

structure Contained (P : Disk) (D : Location) (d : Disk) : Prop extends P.Spared D d where
  secluded : d.Secluded D

theorem walk_within (hlinks : ∀ m t, D <:+ m → d.nodeAt m ≠ some (.symlink t)) (hX : D <:+ X)
    (hup : ".." ∉ ws) (h : d.walk follow k X ws = .ok spot) : D <:+ spot.location := by
  induction ws generalizing X with
  | nil =>
    obtain rfl : Spot.mk X (some .directory) = spot := by simpa using h
    exact hX
  | cons s r ih =>
    obtain ⟨hs, hr⟩ : ".." ≠ s ∧ ".." ∉ r := by simpa using hup
    by_cases hc : s = "."
    · subst hc
      exact ih hX hr (by simpa using h)
    have hsX : D <:+ s :: X := hX.trans (List.suffix_cons s X)
    rw [walk_name d follow k X r hc hs.symm] at h
    split at h
    · cases h
    cases hn : d.nodeAt (s :: X) with
    | none =>
      simp only [hn] at h
      split at h
      · obtain rfl := Except.ok.inj h
        exact hsX
      · cases h
    | some n =>
      cases n with
      | directory =>
        simp only [hn] at h
        exact ih hsX hr h
      | file id =>
        simp only [hn] at h
        split at h
        · obtain rfl := Except.ok.inj h
          exact hsX
        · cases h
      | symlink t => exact absurd hn (hlinks _ t hsX)

theorem reach_within (hlinks : ∀ m t, D <:+ m → d.nodeAt m ≠ some (.symlink t)) (hup : ".." ∉ ws)
    (h : d.reach k D ws = .ok (X, j)) : D <:+ X :=
  walk_within hlinks List.suffix_rfl hup (walk_eq_directory_iff.2 ⟨j, h⟩)

theorem locate_within (hlinks : ∀ m t, D <:+ m → d.nodeAt m ≠ some (.symlink t))
    (hroot : d.Rooted cwd dest D k) (hp : segments p = segments dest ++ ws)
    (ha : isAbsolute p = isAbsolute dest) (hup : ".." ∉ ws)
    (h : d.locate cwd true p = .ok spot) : D <:+ spot.location := by
  have ho : origin cwd p = origin cwd dest := by rw [origin, origin, ha]
  obtain ⟨pre, post, hsteps, hpre, hpost⟩ :=
    List.filter_eq_append_iff.1 ((filter_steps p).trans hp)
  have hreach : d.reach maxLinks (origin cwd p) pre = .ok (D, k) := by
    rw [← reach_filter, hpre, ho, hroot]
  rw [locate_of_usable d cwd true (usable_of_locate h), hsteps] at h
  by_cases hnil : post = []
  · have hwalk := walk_eq_directory_iff.2 ⟨k, hreach⟩
    rw [hnil, List.append_nil, hwalk] at h
    obtain rfl := Except.ok.inj h
    exact List.suffix_rfl
  · rw [walk_append d true _ _ _ hnil, hreach] at h
    refine walk_within hlinks List.suffix_rfl (fun hm => hup ?_) h
    rw [← hpost]
    exact List.mem_filter.2 ⟨hm, by simp⟩

namespace Contained

theorem refl (hwf : P.WellFormed) (h : P.Secluded D) : Contained P D P := ⟨.refl hwf, h⟩

variable (h : Contained P D d)
include h

theorem putDirectory (hX : d.nodeAt X = some .directory) (hin : D <:+ s :: X)
    (hnone : d.nodeAt (s :: X) = none) : Contained P D (d.put (s :: X) .directory) := by
  have hnew : ∀ {m n}, (d.put (s :: X) .directory).nodeAt m = some n → n ≠ .directory →
      d.nodeAt m = some n := by
    intro m n hm hn
    rw [nodeAt_put] at hm
    split at hm
    · exact absurd (Option.some.inj hm).symm hn
    · exact hm
  have hgrows := grows_put hnone .directory
  refine ⟨⟨h.wellFormed.put hX (by simp [hnone]) (by simp), fun hm => hgrows _ _ (h.directory hm),
    fun hm => (h.outside hm).trans (same_put ?_ _)⟩, fun m t hm hn => ?_, fun l m id hl hid hm => ?_⟩
  · rintro rfl
    exact hm hin
  · exact h.secluded.unlinked m t hm (hnew hn (by simp))
  · exact h.secluded.inward l m id hl (hnew hid (by simp)) (hnew hm (by simp))

theorem addFile (hX : d.nodeAt X = some .directory) (hin : D <:+ s :: X)
    (hnone : d.nodeAt (s :: X) = none) (f : FileData) :
    Contained P D (d.addFile (s :: X) f).1 ∧
      ∀ m, (d.addFile (s :: X) f).1.nodeAt m = some (.file d.next) → D <:+ m := by
  have hfresh : ∀ {m}, d.nodeAt m ≠ some (.file d.next) := fun hm =>
    absurd (h.wellFormed.lt_next hm) (Nat.lt_irrefl _)
  have hnew : ∀ {m n}, (d.addFile (s :: X) f).1.nodeAt m = some n →
      d.nodeAt m = some n ∨ m = s :: X ∧ n = .file d.next := by
    intro m n hm
    rw [nodeAt_addFile] at hm
    split at hm
    · exact .inr ⟨Eq.symm ‹_›, (Option.some.inj hm).symm⟩
    · exact .inl hm
  have hown : ∀ m, (d.addFile (s :: X) f).1.nodeAt m = some (.file d.next) → D <:+ m := by
    intro m hm
    obtain hm | ⟨rfl, -⟩ := hnew hm
    · exact absurd hm hfresh
    · exact hin
  have hgrows := grows_addFile hnone f
  refine ⟨⟨⟨h.wellFormed.addFile hX (by simp [hnone]), fun hm => hgrows _ _ (h.directory hm),
    fun hm => (h.outside hm).trans (same_addFile h.wellFormed ?_ f)⟩, fun m t hm hn => ?_,
    fun l m id hl hid hm => ?_⟩, hown⟩
  · rintro rfl
    exact hm hin
  · obtain hn | ⟨-, hn⟩ := hnew hn
    · exact h.secluded.unlinked m t hm hn
    · cases hn
  · obtain hm' | ⟨rfl, -⟩ := hnew hm
    · obtain hid' | ⟨-, hid'⟩ := hnew hid
      · exact h.secluded.inward l m id hl hid' hm'
      · obtain rfl : id = d.next := by simpa using hid'
        exact hown m hm
    · exact hin

theorem setFile (hid : (d.files.get? id).isSome) (hin : ∀ m, d.nodeAt m = some (.file id) → D <:+ m)
    (f : FileData) : Contained P D (d.setFile id f) := by
  refine ⟨⟨h.wellFormed.setFile hid, h.directory, fun {m} hm => (h.outside hm).trans ⟨rfl, ?_, rfl⟩⟩,
    h.secluded.unlinked, h.secluded.inward⟩
  refine fileAt_eq rfl fun i hi => ?_
  rw [get?_setFile, if_neg]
  rintro rfl
  exact hm (hin m hi)

theorem setContent (hin : ∀ m, d.nodeAt m = some (.file id) → D <:+ m) (c : Content) :
    Contained P D (d.setContent id c) := by
  rw [Disk.setContent]
  split
  · exact h
  · exact h.setFile (by simp [*]) hin _

theorem setModeOf (hin : ∀ m, d.nodeAt m = some (.file id) → D <:+ m) (mode : Nat) :
    Contained P D (d.setModeOf id mode) := by
  rw [Disk.setModeOf]
  split
  · exact h
  · exact h.setFile (by simp [*]) hin _

theorem setModeAt (hX : d.nodeAt X = some .directory) (hin : D <:+ X) (mode : Nat) :
    Contained P D (d.setModeAt X mode) := by
  refine ⟨⟨h.wellFormed.setModeAt hX mode, h.directory,
    fun hm => (h.outside hm).trans (same_setModeAt ?_ mode)⟩, h.secluded.unlinked, h.secluded.inward⟩
  rintro rfl
  exact hm hin

section

variable (hsite : P.Site cwd dest D k) (ha : isAbsolute p = isAbsolute dest) (hup : ".." ∉ ws)
include hsite ha hup

theorem makeDirectory (hp : segments p <+: segments dest ++ ws)
    (hmake : d.makeDirectory cwd p = .ok d') : Contained P D d' := by
  have here := h.directory hsite.here
  obtain ⟨s, X, b, hslot, hnone, rfl⟩ := makeDirectory_eq_ok hmake
  obtain ⟨us, r, j, rfl, -, hX⟩ | ⟨n, hn⟩ :=
    below_of_slot (hsite.rooted.keeps (h.keeps hsite)) hp ha hslot
  · have hin : D <:+ X := reach_within h.secluded.unlinked (fun hm => hup (by simp [hm])) hX
    exact h.putDirectory (h.wellFormed.slot here hslot) (hin.trans (List.suffix_cons s X)) hnone
  · simp [hn] at hnone

variable (hp : segments p = segments dest ++ ws)
include hp

theorem locate (hloc : d.locate cwd true p = .ok spot) : D <:+ spot.location :=
  locate_within h.secluded.unlinked (hsite.rooted.keeps (h.keeps hsite)) hp ha hup hloc

theorem names {l m : Location} (hloc : d.locate cwd true p = .ok ⟨l, some (.file id)⟩)
    (hm : d.nodeAt m = some (.file id)) : D <:+ m := by
  obtain ⟨hl, -⟩ : d.nodeAt l = some (.file id) ∧ l ≠ [] := by simpa using locate_node hloc
  exact h.secluded.inward l m id (h.locate hsite ha hup hp hloc) hl hm

theorem openForWriting (hopen : d.openForWriting cwd p = .ok (d', id)) :
    Contained P D d' ∧ ∀ m, d'.nodeAt m = some (.file id) → D <:+ m := by
  obtain ⟨l, hl, -, rfl, rfl⟩ | ⟨l, f, hl, hf, -, rfl⟩ := openForWriting_eq_ok hopen
  · obtain ⟨hnone, hne⟩ : d.nodeAt l = none ∧ l ≠ [] := by simpa using locate_node hl
    obtain ⟨s, X, rfl⟩ := List.exists_cons_of_ne_nil hne
    have here := h.directory hsite.here
    exact h.addFile (h.wellFormed.locate here hl) (h.locate hsite ha hup hp hl) hnone _
  · have hin : ∀ m, d.nodeAt m = some (.file id) → D <:+ m := fun m hm =>
      h.names hsite ha hup hp hl hm
    exact ⟨h.setFile (by simp [hf]) hin _, hin⟩

theorem setMode (hset : d.setMode cwd p mode = .ok d') : Contained P D d' := by
  obtain ⟨l, id, hl, rfl⟩ | ⟨X, hX, rfl⟩ := setMode_eq_ok hset
  · exact h.setModeOf (fun m hm => h.names hsite ha hup hp hl hm) mode
  · have hin := h.locate hsite ha hup hp (locate_eq_directory_iff.2 hX)
    exact h.setModeAt (h.wellFormed.leads (h.directory hsite.here) hX) hin mode

end

end Contained

theorem Secluded.of_same (h : P.Secluded D)
    (hsame : ∀ m, Same P d m ∨ d.nodeAt m = some .directory) : d.Secluded D := by
  have hold : ∀ {m n}, d.nodeAt m = some n → n ≠ .directory → P.nodeAt m = some n := by
    intro m n hm hn
    obtain hs | hdir := hsame m
    · rw [← hs.1, hm]
    · exact absurd (Option.some.inj (hm.symm.trans hdir)) hn
  refine ⟨fun m t hm hn => ?_, fun l m id hl hid hm => ?_⟩
  · exact h.unlinked m t hm (hold hn (by simp))
  · exact h.inward l m id hl (hold hid (by simp)) (hold hm (by simp))

end Disk

namespace ZipFile

open Disk

variable {σ : Type} {w : World σ} {P : Disk} {c D : Location} {dest archive p : String} {k n : Nat}
  {ws us : List String} {e : ZipEntry} {es : List ZipEntry} {R : Option String}

theorem relative?_subset (h : relative? R ws = some us) : us ⊆ ws := by
  simp only [relative?] at h
  split at h
  · split at h
    · split at h
      · cases h
      · obtain rfl := Option.some.inj h
        exact List.subset_cons_self _ _
    · obtain rfl := Option.some.inj h
      exact List.Subset.refl _
  · obtain rfl := Option.some.inj h
    exact List.Subset.refl _

section

variable (hsite : P.Site c dest D k)
include hsite

section

variable (hp : segments p = segments dest ++ ws) (ha : isAbsolute p = isAbsolute dest)
  (hup : ".." ∉ ws)
include hp ha hup

theorem contained_createDirectories :
    Maintains (σ := σ) (P.Contained D) c (createDirectories p).run := by
  rintro w rfl hI
  refine (createDirectories_along hI ?_).mono fun _ _ h => h.1
  intro q hq d d' hd hmake
  obtain ⟨-, hqa, hpre⟩ := mem_lineage hq
  exact hd.makeDirectory hsite (hqa.trans ha) hup (hp ▸ hpre) hmake

theorem contained_createParents :
    Maintains (σ := σ) (P.Contained D) c (createParents p).run := by
  rintro w rfl hI
  refine (createParents_along hI ?_).mono fun _ _ h => h.1
  intro q hq hqa _ d d' hd hmake
  refine hd.makeDirectory hsite (hqa.trans ha) hup ?_ hmake
  exact hp ▸ hq.trans (List.dropLast_prefix _)

theorem contained_writeFile (e : ZipEntry) :
    Maintains (σ := σ) (P.Contained D) c (writeFile e p).run := by
  refine .seq (contained_createParents hsite hp ha hup) fun _ => ?_
  rintro w rfl hI
  refine Ends.bind (Ends.step (Runs.changeWith ?_ fun _ _ => .refl hI))
  intro d id hopen
  -- The file that has been opened has no name elsewhere, so its data may change.
  obtain ⟨hd, hin⟩ := hI.openForWriting hsite ha hup hp hopen
  have hdata := hd.setContent hin (.data e.data)
  have halong := ((Along.refl hI).changed hd).changed hdata
  refine Ends.bind (Ends.changeDisk ?_)
  dsimp only
  split
  · exact Ends.bind (Ends.throw halong)
  · split
    · exact Ends.pure halong
    · refine Ends.step (Runs.change ?_ fun _ _ => halong)
      exact fun d' hset => halong.changed (hdata.setMode hsite ha hup hp hset)

end

theorem contained_extractEntry (R : Option String) (n : Nat) (e : ZipEntry) :
    Maintains (σ := σ) (P.Contained D) c (extractEntry dest R n e).run := by
  simp only [extractEntry]
  split
  · exact .thrown _ _
  cases henclosed : e.enclosed? with
  | none => exact .throw _
  | some ws =>
    dsimp only
    split
    · exact .thrown _ _
    cases hrel : relative? R ws with
    | none => exact .ret _
    | some us =>
      have hsegs : ∀ s ∈ us, IsSegment s ∧ s ≠ ".." := fun s hs =>
        ZipEntry.enclosed?_segments henclosed s (relative?_subset hrel hs)
      have hrelative := isAbsolute_of_isSegment fun s hs => (hsegs s hs).1
      have hp : segments (join dest ("/".intercalate us)) = segments dest ++ us := by
        rw [segments_join hrelative, segments_of_isSegment fun s hs => (hsegs s hs).1]
      have ha : isAbsolute (join dest ("/".intercalate us)) = isAbsolute dest :=
        isAbsolute_join hrelative
      have hup : ".." ∉ us := fun hm => (hsegs _ hm).2 rfl
      dsimp only
      split
      · exact contained_createDirectories hsite hp ha hup
      · exact contained_writeFile hsite hp ha hup e

theorem contained_extractEntries (R : Option String) (n : Nat) (es : List ZipEntry) :
    Maintains (σ := σ) (P.Contained D) c (extractEntries dest R n es).run := by
  induction es generalizing n with
  | nil => exact .ret _
  | cons e es ih => exact .seq (contained_extractEntry hsite R n e) fun _ => ih (n + 1)

end

def Confined (dest : String) (w : World σ) (d : Disk) : Prop :=
  Tarball.Untouched dest w d ∧ ∀ D k, d.Rooted w.cwd dest D k → d.Secluded D

section

variable (hwf : w.disk.WellFormed) (here : w.disk.nodeAt w.cwd = some .directory)
  (hdest : ∀ D k, (w.prepared dest).disk.Rooted w.cwd dest D k → w.disk.Secluded D)
include hwf here hdest

theorem confined_prepared : Along (Confined dest w) w (w.prepared dest) := by
  refine ((Tarball.prepared_along dest hwf here).and createDirectories_grows).mono ?_
  rintro d ⟨⟨-, -, hsame⟩, hgrows⟩
  refine ⟨fun m _ => hsame m, fun D k hroot => ?_⟩
  exact (hdest D k (hroot.keeps hgrows.keeps)).of_same fun m => (hsame m).imp_right fun h => h.2.1

theorem confined_extractEntries (hroot : (w.prepared dest).disk.Rooted w.cwd dest D k)
    (R : Option String) (n : Nat) (es : List ZipEntry) :
    Ends (extractEntries dest R n es) (w.prepared dest) fun _ v => Along (Confined dest w) w v := by
  have hprep := confined_prepared hwf here hdest
  have hsite := Tarball.site_prepared hwf here hroot (hdest D k hroot).unlinked
  have hstart : (w.prepared dest).disk.Contained D (w.prepared dest).disk :=
    .refl hsite.wellFormed (hprep.now.2 D k hroot)
  refine (contained_extractEntries hsite R n es _ rfl hstart).mono fun _ v hv => hprep.trans ?_
  refine hv.mono fun d hd => ⟨?_, fun E j hE => ?_⟩
  · exact (Tarball.untouched_iff hwf here hroot fun m => hd.directory).2 fun m => hd.outside
  · cases (hroot.keeps (hd.keeps hsite)).symm.trans hE
    exact hd.secluded

/-- It is so at every moment, whatever an archive holds and however its unpacking ends. -/
theorem extract_confined :
    Ends (extract archive dest) w fun _ v => Along (Confined dest w) w v := by
  have hprep := confined_prepared hwf here hdest
  have hw : Along (Confined dest w) w w := .refl hprep.start
  refine Ends.bind (Ends.step (Runs.ask ?_))
  cases w.disk.openForReading w.cwd archive with
  | error x => exact hw
  | ok opened =>
    dsimp only
    split
    · exact Ends.throw hw
    · split
      · exact Ends.bind (Ends.throw hw)
      obtain ⟨r, hr⟩ : ∃ r, (createDirectories dest).run.run w = (r, w.prepared dest) := ⟨_, rfl⟩
      rw [Ends.bind_iff, Ends.iff_of_run hr]
      cases r with
      | error x => exact hprep
      | ok _ =>
        obtain ⟨D, k, hroot⟩ := Tarball.exists_rooted_prepared (congrArg Prod.fst hr)
        exact confined_extractEntries hwf here hdest hroot _ _ _
    · exact Ends.throw hw

end

section Trial

def besideDest (es : List ZipEntry) : World Unit :=
  let w := World.fresh ["home"] "" ()
  let d := (w.disk.put ["llvm", "home"] .directory).addFile ["old", "llvm", "home"]
    ⟨0o644, .data [7]⟩
  { w with disk := (d.1.addFile ["a.zip", "home"] ⟨0o644, .zip ⟨es⟩⟩).1 }

theorem wellFormed_besideDest (es : List ZipEntry) : (besideDest es).disk.WellFormed :=
  (((wellFormed_ofDirectory ["home"]).put rfl (by decide) (by simp)).addFile rfl
    (by decide)).addFile rfl (by decide)

theorem secluded_besideDest (es : List ZipEntry) :
    (besideDest es).disk.Secluded ["llvm", "home"] := by
  have hnode : ∀ m, (besideDest es).disk.nodeAt m =
      if ["a.zip", "home"] = m then some (.file 1)
      else if ["old", "llvm", "home"] = m then some (.file 0)
      else if ["llvm", "home"] = m then some .directory
      else if m <:+ ["home"] then some .directory else none := by
    intro m
    simp only [besideDest, World.fresh, nodeAt_addFile, nodeAt_put, nodeAt_ofDirectory]
    rfl
  refine ⟨fun m t _ hm => ?_, fun l m id hl hid hm => ?_⟩
  · rw [hnode] at hm
    grind
  · rw [hnode] at hid hm
    have hout : ¬ ["llvm", "home"] <:+ ["a.zip", "home"] := by decide
    have hin : ["llvm", "home"] <:+ ["old", "llvm", "home"] := by decide
    grind

/-- A name with a drive, the mode of a symbolic link, a way up inside of a name and one out of the
destination. -/
def hostileZip : List ZipEntry :=
  [⟨"C:\\old", [1], 0, 0, .dos, .stored, false, true⟩,
    ⟨"link", [47], 0o120777, 0, .unix, .stored, false, true⟩,
    ⟨"link\\..\\lib/./a", [2], 0, 0, .dos, .deflated, false, true⟩,
    ⟨"..\\evil", [3], 0, 0, .dos, .stored, false, true⟩]

theorem extract_confined_hostileZip :
    let w := besideDest hostileZip
    (∀ D k, (w.prepared "llvm").disk.Rooted w.cwd "llvm" D k → w.disk.Secluded D) ∧
      Ends (extract "a.zip" "llvm") w fun _ v => Along (Confined "llvm" w) w v := by
  intro w
  have hdest : ∀ D k, (w.prepared "llvm").disk.Rooted w.cwd "llvm" D k → w.disk.Secluded D := by
    intro D k hroot
    have hroot' : (w.prepared "llvm").disk.Rooted w.cwd "llvm" ["llvm", "home"] 40 := by
      rw [Rooted]
      decide +kernel
    cases hroot.symm.trans hroot'
    exact secluded_besideDest hostileZip
  exact ⟨hdest, extract_confined (wellFormed_besideDest hostileZip) rfl hdest⟩

end Trial

end ZipFile
end Provision
