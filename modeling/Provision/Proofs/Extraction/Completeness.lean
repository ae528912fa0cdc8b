import Provision.Proofs.Extraction.TarTree
import Provision.Proofs.Extraction.Written

/-!
What an extraction that succeeds has written: every entry that the reader comes to, each in its turn
and to stay. Whether these are all the entries depends on how the stream is cut into members.
-/

namespace Provision

open PathText Provision.Action World

theorem entriesOf_prefix (rs ss : List TarRecord) : entriesOf rs <+: entriesOf (rs ++ ss) := by
  induction rs with
  | nil => exact List.nil_prefix
  | cons r rs ih =>
    cases r with
    | endMarker => exact List.prefix_rfl
    | entry e => exact List.prefix_cons_inj e |>.2 ih

theorem entriesOf_of_endMarker {rs : List TarRecord} (h : .endMarker ∈ rs) (ss : List TarRecord) :
    entriesOf (rs ++ ss) = entriesOf rs := by
  induction rs with
  | nil => cases h
  | cons r rs ih =>
    cases r with
    | endMarker => rfl
    | entry e => exact congrArg (e :: ·) (ih (by simpa using h))

namespace Disk

variable {d : Disk} {cwd X l : Location} {p s : String} {n : Node}

def Straight (d : Disk) (D : Location) (ws : List String) : Prop :=
  ∀ vs rest t, vs ≠ [] → rest ≠ [] → ws = vs ++ rest →
    d.nodeAt (vs.reverse ++ D) ≠ some (.symlink t)

theorem occupied_of_locate {dest : String} {D : Location} {k : Nat} {ws : List String} {b : Bool}
    (hroot : d.Rooted cwd dest D k) (hne : ws ≠ []) (hsegments : ∀ s ∈ ws, IsSegment s)
    (hup : ".." ∉ ws) (hstraight : d.Straight D ws)
    (h : d.locate cwd b (pathBelow dest ws) = .ok ⟨l, some n⟩) :
    d.nodeAt (ws.reverse ++ D) ≠ none := by
  obtain ⟨us, s, rfl⟩ : ∃ us s, ws = us ++ [s] := ⟨_, _, (List.dropLast_concat_getLast hne).symm⟩
  have hc : "." ∉ us ++ [s] := fun hm => (hsegments "." hm).ne_current rfl
  have hnames : names (pathBelow dest (us ++ [s])) = (names dest ++ us) ++ [s] := by
    rw [pathBelow, names_join (isAbsolute_of_isSegment hsegments), names_of_isSegment hsegments,
      List.append_assoc]
  have hpath : segments (pathBelow dest (us ++ [s])) = segments dest ++ (us ++ [s]) := by
    rw [pathBelow, segments_join (isAbsolute_of_isSegment hsegments),
      segments_of_isSegment hsegments]
  have hslash : endsWithSlash (pathBelow dest (us ++ [s])) = false := by
    rw [pathBelow, endsWithSlash_join (isAbsolute_of_isSegment hsegments)
      (intercalate_ne_empty hsegments hne), endsWithSlash_of_isSegment hsegments]
  obtain ⟨sl, hsl⟩ := slot_of_locate h
  obtain ⟨X, -, -, -, rfl⟩ := exists_slot hnames (hsegments s (by simp)).ne_current
    (fun hs => hup (by simp [hs])) hsl
  have hlands := lands_of_slot hroot hpath hne
    (isAbsolute_join (isAbsolute_of_isSegment hsegments)) hsl
  have hplace := Lands.plain hc hup hstraight hlands
  rw [hslash] at hsl
  intro hnone
  rw [← hplace] at hnone
  rw [locate_of_slot_plain hsl (by simp [hnone]), hnone] at h
  cases h

end Disk

namespace Tarball

open Disk

variable {σ : Type} {w v u : World σ} {dest archive : String} {e : TarEntry} {es : List TarEntry}
  {b : Bool}

inductive Turns (dest : String) : List TarEntry → World σ → World σ → Prop where
  | nil (w : World σ) : Turns dest [] w w
  | cons {e : TarEntry} {es : List TarEntry} {w v u : World σ} {b : Bool} (sound : e.sound = true)
      (whole : e.isCut = false) (turn : (extractEntry dest e).run.run w = (.ok b, v))
      (rest : Turns dest es v u) : Turns dest (e :: es) w u

theorem extractEntries_turns (archive dest : String) (broken : Bool) (n : Nat)
    (es : List TarEntry) (w : World σ) : Ends (extractEntries archive dest broken n es) w fun r u =>
      ∀ m, r = .ok m → broken = false ∧ Turns dest es w u := by
  induction es generalizing n w with
  | nil =>
    rw [extractEntries]
    cases broken with
    | true => exact Ends.throw fun _ h => by cases h
    | false => exact Ends.pure fun _ _ => ⟨rfl, .nil w⟩
  | cons e es ih =>
    have hfailed {x : Failure} {v : World σ} (m : Nat) (h : .error x = Except.ok m) :
        broken = false ∧ Turns dest (e :: es) w v := by cases h
    refine ends_cons_iff.2 ⟨fun _ => hfailed, fun _ _ _ _ => hfailed, fun _ _ _ _ _ => hfailed,
      fun hsound hcut b v hturn => ?_⟩
    refine (ih _ v).mono fun r u hu m hr => ?_
    obtain ⟨hbroken, hrest⟩ := hu m hr
    exact ⟨hbroken, .cons hsound hcut hturn hrest⟩

theorem Sound.extractEntry {r : Except Failure Bool} (h : Sound w)
    (hrun : (Tarball.extractEntry dest e).run.run w = (r, v)) : Sound v := by
  have hall : Ends (Tarball.extractEntry dest e) w fun _ v => Along _ w v :=
    maintains_extractEntry (stable_sound w.cwd) dest e w rfl h
  have hv := hall.of_run hrun
  exact ⟨hv.now.1, hv.cwd ▸ hv.now.2⟩

/-- In its turn none of some entries is written at a location. -/
def Misses (dest : String) (l : Location) : List TarEntry → World σ → Prop
  | [], _ => True
  | e :: r, w => ∀ b v, (extractEntry dest e).run.run w = (.ok b, v) →
      (∀ n, v.disk.locate v.cwd e.isOldDirectory (pathBelow dest (placeOf e)) ≠ .ok ⟨l, n⟩) ∧
        Misses dest l r v

namespace Turns

variable {as bs : List TarEntry} {m : Location}

theorem split (h : Turns dest (as ++ e :: bs) w u) : ∃ v v' b, Turns dest as w v ∧
    (extractEntry dest e).run.run v = (.ok b, v') ∧ Turns dest bs v' u := by
  induction as generalizing w with
  | nil =>
    obtain _ | ⟨-, -, hturn, hrest⟩ := h
    exact ⟨w, _, _, .nil w, hturn, hrest⟩
  | cons a as ih =>
    obtain _ | ⟨hsound, hwhole, hturn, hrest⟩ := h
    obtain ⟨v, v', b, hv, hentry, hbs⟩ := ih hrest
    exact ⟨v, v', b, .cons hsound hwhole hturn hv, hentry, hbs⟩

theorem sound (h : Turns dest es w u) (hw : Sound w) : Sound u := by
  induction h with
  | nil => exact hw
  | cons _ _ hturn _ ih => exact ih (hw.extractEntry hturn)

theorem occupied (h : Turns dest es w u) (hw : Sound w) (hm : w.disk.nodeAt m ≠ none) :
    u.disk.nodeAt m ≠ none := by
  induction h with
  | nil => exact hm
  | cons _ _ hturn _ ih =>
    have hwrote := (extractEntry_wrote hw).of_run hturn _ rfl
    exact ih (hw.extractEntry hturn) (hwrote.kept m hm).1

theorem same (h : Turns dest es w u) (hw : Sound w) (hm : w.disk.nodeAt m ≠ none)
    (hmisses : Misses dest m es w) : Same w.disk u.disk m := by
  induction h with
  | nil => exact .refl _ m
  | cons _ _ hturn _ ih =>
    obtain ⟨hmiss, hrest⟩ := hmisses _ _ hturn
    obtain ⟨hv, hsame⟩ := ((extractEntry_wrote hw).of_run hturn _ rfl).kept m hm
    have hfirst := hsame.resolve_right fun ⟨n, hn⟩ => hmiss n hn
    exact hfirst.trans (ih (hw.extractEntry hturn) hv hrest)

end Turns

/-- What has been written for an entry in its turn is there in the end, after some others. -/
structure Stays (dest : String) (e : TarEntry) (bs : List TarEntry) (v u : World σ) : Prop where
  standing : ∃ l n, Stands e n ∧
    v.disk.locate v.cwd e.isDirectory (pathBelow dest (placeOf e)) = .ok ⟨l, some n⟩ ∧
      u.disk.nodeAt l ≠ none ∧ (Misses dest l bs v → Same v.disk u.disk l)
  below : ∀ D k, v.disk.Rooted v.cwd dest D k → v.disk.Straight D (placeOf e) →
    u.disk.nodeAt ((placeOf e).reverse ++ D) ≠ none

def Written (dest : String) (as : List TarEntry) (e : TarEntry) (bs : List TarEntry)
    (w u : World σ) : Prop :=
  ∃ v v' b, Turns dest as w v ∧ (extractEntry dest e).run.run v = (.ok b, v') ∧
    Turns dest bs v' u ∧ Stays dest e bs v' u

theorem Turns.written {as bs : List TarEntry} (h : Turns dest (as ++ e :: bs) w u) (hw : Sound w)
    (he : Wanted e) : Written dest as e bs w u := by
  obtain ⟨v, v', b, hv, hturn, hrest⟩ := h.split
  have hsound := hv.sound hw
  have hsound' := hsound.extractEntry hturn
  obtain ⟨l, n, hnode, hstands, hlocate⟩ := ((extractEntry_wrote hsound).of_run hturn _ rfl).led he
  have hoccupied : v'.disk.nodeAt l ≠ none := by simp [hnode]
  refine ⟨v, v', b, hv, hturn, hrest, ⟨l, n, hstands, hlocate, hrest.occupied hsound' hoccupied,
    hrest.same hsound' hoccupied⟩, fun D k hroot hstraight => hrest.occupied hsound' ?_⟩
  have hup : ".." ∉ placeOf e := fun hm =>
    (EntryPath.isSafe_iff.1 (isSafe_of_extractEntry hturn)).2 (List.mem_of_mem_drop hm)
  exact occupied_of_locate hroot he.1 (fun s hs => isSegment_of_mem (List.mem_of_mem_drop hs)) hup
    hstraight hlocate

variable {t : Tarball} {reader : Compression}

/-- The entries of the whole stream to which a reader does not come. -/
def unread (t : Tarball) (reader : Compression) : List TarEntry :=
  t.entries.drop (t.stream reader).entries.length

theorem entries_eq (t : Tarball) (reader : Compression) :
    t.entries = (t.stream reader).entries ++ t.unread reader := by
  have hprefix : (t.stream reader).entries <+: t.entries := by
    rw [stream]
    split
    · exact List.nil_prefix
    · rw [entries]
      split
      · exact List.nil_prefix
      · rename_i m rest hmembers
        rw [hmembers, List.flatten_cons]
        exact entriesOf_prefix m rest.flatten
  obtain ⟨rest, hrest⟩ := hprefix
  rw [unread, ← hrest, List.drop_left]

theorem unread_xz (h : (t.stream .xz).broken = false) : t.unread .xz = [] := by
  have hall : (t.stream .xz).entries = t.entries := by
    rw [stream] at h ⊢
    split at h
    · cases h
    · rw [if_neg ‹_›, entries]
      split at h
      · rename_i hmembers
        simp [hmembers, entriesOf]
      · rename_i m rest hmembers
        rw [hmembers, List.flatten_cons]
        cases rest with
        | nil => simp
        | cons r rest =>
          have hmarker : .endMarker ∈ m := by simpa using h
          exact (entriesOf_of_endMarker hmarker _).symm
  rw [unread, hall, List.drop_length]

theorem sound_prepared (hw : Sound w) (dest : String) : Sound (w.prepared dest) := by
  have hall : Ends (createDirectories dest) w fun _ v => Along _ w v :=
    maintains_createDirectories (stable_sound w.cwd) dest w rfl hw
  exact ⟨hall.now.1, hall.cwd ▸ hall.now.2⟩

theorem extract_turns : Ends (extract archive dest) w fun r u => r = .ok () →
    ∃ t reader v, w.disk.openForReading w.cwd archive = .ok (.file (.tarball t)) ∧
      Compression.ofName? archive = some reader ∧ (t.stream reader).broken = false ∧
        Turns dest (t.stream reader).entries (w.prepared dest) v ∧ u.disk = v.disk := by
  refine Ends.bind (Ends.step (Runs.ask ?_))
  cases hopen : w.disk.openForReading w.cwd archive with
  | error x => exact fun h => by cases h
  | ok opened =>
    dsimp only
    cases hname : Compression.ofName? archive with
    | none => exact Ends.throw fun h => by cases h
    | some reader =>
      refine Ends.bind (Ends.intro fun r v hmade => ?_)
      obtain rfl : w.prepared dest = v := congrArg Prod.snd hmade
      cases r with
      | error x => exact fun h => by cases h
      | ok =>
        cases opened with
        | directory => exact Ends.throw fun h => by cases h
        | file c =>
          refine Ends.bind ((extractEntries_turns archive dest _ 0 _ _).mono fun r v hv => ?_)
          cases r with
          | error x => exact fun h => by cases h
          | ok n =>
            obtain ⟨hbroken, hturns⟩ := hv n rfl
            cases c with
            | tarball t => exact Ends.tell fun _ => ⟨t, reader, v, rfl, rfl, hbroken, hturns, rfl⟩
            | data b => cases hbroken
            | zip z => cases hbroken

/-- Every entry of the whole stream that stands for something has been read, and been written in its
turn to stay. -/
def Complete (t : Tarball) (reader : Compression) (dest : String) (w u : World σ) : Prop :=
  ∀ as e cs, t.entries = as ++ e :: cs → Wanted e → ∃ bs,
    (t.stream reader).entries = as ++ e :: bs ∧ ∃ v, u.disk = v.disk ∧ Written dest as e bs w v

/-- An extraction that succeeds is complete just where nothing that the reader does not come to
stands for anything. -/
theorem complete_iff (hwf : w.disk.WellFormed) (here : w.disk.nodeAt w.cwd = some .directory)
    (hrun : (extract archive dest).run.run w = (.ok (), u)) : ∃ t reader,
      w.disk.openForReading w.cwd archive = .ok (.file (.tarball t)) ∧
      Compression.ofName? archive = some reader ∧
      (t.Complete reader dest (w.prepared dest) u ↔ ∀ e ∈ t.unread reader, ¬ Wanted e) ∧
      (reader = .xz → t.unread reader = []) := by
  obtain ⟨t, reader, v, hopen, hname, hbroken, hturns, hdisk⟩ := extract_turns.of_run hrun rfl
  refine ⟨t, reader, hopen, hname, ⟨fun hcomplete e he hwanted => ?_, fun hunread => ?_⟩, ?_⟩
  · obtain ⟨bs, cs, hsplit⟩ := List.append_of_mem he
    have hentries := t.entries_eq reader
    rw [hsplit, ← List.append_assoc] at hentries
    obtain ⟨ds, hread, -⟩ := hcomplete _ e cs hentries hwanted
    have hlength := congrArg List.length hread
    simp only [List.length_append, List.length_cons] at hlength
    omega
  · intro as e cs hentries hwanted
    rw [t.entries_eq reader] at hentries
    obtain ⟨bs, hread⟩ : ∃ bs, (t.stream reader).entries = as ++ e :: bs := by
      obtain ⟨ds, has, hds⟩ | ⟨ds, hread, hds⟩ := List.append_eq_append_iff.1 hentries
      · exact absurd hwanted (hunread e (by simp [hds]))
      · cases ds with
        | nil =>
          rw [List.nil_append] at hds
          exact absurd hwanted (hunread e (by simp [← hds]))
        | cons d ds =>
          obtain ⟨rfl, -⟩ := List.cons.inj hds
          exact ⟨ds, hread⟩
    refine ⟨bs, hread, v, hdisk, ?_⟩
    exact (hread ▸ hturns).written (sound_prepared ⟨hwf, here⟩ dest) hwanted
  · rintro rfl
    exact unread_xz hbroken

section Trial

theorem run_of_result {α : Type} {x : Action σ α} {r : Except Failure α}
    (h : (x.run.run w).1 = r) : x.run.run w = (r, (x.run.run w).2) := Prod.ext h rfl

theorem complete_iff_smallRelease : ∃ t reader,
    (besideOut smallRelease).disk.openForReading (besideOut smallRelease).cwd "a.tar.xz" =
        .ok (.file (.tarball t)) ∧
      t.Complete reader "llvm" ((besideOut smallRelease).prepared "llvm")
        ((extract "a.tar.xz" "llvm").run.run (besideOut smallRelease)).2 := by
  obtain ⟨t, reader, hopen, hname, hiff, hxz⟩ := complete_iff (wellFormed_besideOut smallRelease) rfl
    (run_of_result (x := extract "a.tar.xz" "llvm") (r := .ok ()) (by decide +kernel))
  obtain rfl : reader = .xz := by
    have hname' : Compression.ofName? "a.tar.xz" = some .xz := by decide +kernel
    exact Option.some.inj (hname.symm.trans hname')
  exact ⟨t, .xz, hopen, hiff.2 (by simp [hxz rfl])⟩

def twoMembers : Tarball where
  compression := .gzip
  members := [[.entry ⟨"top/a", .regular, 0o644, [97], "", true, none, false⟩],
    [.entry ⟨"top/b", .regular, 0o644, [98], "", true, none, false⟩]]

/-- The reader ends behind the first member as if the archive ended there. -/
theorem not_complete_twoMembers : ¬ ∀ (archive dest : String) (w u : World Unit) (t : Tarball),
    w.disk.WellFormed → w.disk.nodeAt w.cwd = some .directory →
    w.disk.openForReading w.cwd archive = .ok (.file (.tarball t)) →
    (extract archive dest).run.run w = (.ok (), u) → (t.entries.map placeOf).Nodup →
    ∀ e ∈ t.entries, Wanted e →
      ∃ l n, u.disk.locate u.cwd false (pathBelow dest (placeOf e)) = .ok ⟨l, some n⟩ := by
  intro h
  let w : World Unit :=
    let empty := World.fresh ["home"] "" ()
    { empty with disk := (empty.disk.addFile ["a.tar.gz", "home"] ⟨0o644, .tarball twoMembers⟩).1 }
  let e : TarEntry := ⟨"top/b", .regular, 0o644, [98], "", true, none, false⟩
  have hwf : w.disk.WellFormed := (wellFormed_ofDirectory ["home"]).addFile rfl (by decide)
  have hrun := run_of_result (x := extract "a.tar.gz" "dest") (w := w) (r := .ok ())
    (by decide +kernel)
  obtain ⟨l, n, hl⟩ := h "a.tar.gz" "dest" w _ twoMembers hwf rfl (by decide +kernel) hrun
    (by decide +kernel) e (by decide +kernel) ⟨by decide +kernel, by decide⟩
  have hmissing : ((extract "a.tar.gz" "dest").run.run w).2.disk.locate
      ((extract "a.tar.gz" "dest").run.run w).2.cwd false (pathBelow "dest" (placeOf e)) =
        .ok ⟨["b", "dest", "home"], none⟩ := by decide +kernel
  cases hl.symm.trans hmissing

end Trial

end Tarball
end Provision
