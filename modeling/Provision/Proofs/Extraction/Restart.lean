import Provision.Proofs.Extraction.Completeness
import Provision.Proofs.Extraction.Regrowth

namespace Provision

open PathText Provision.Action World Disk

variable {σ : Type} {w v u : World σ} {P : Disk} {D : Location} {dest archive target p s : String}
  {k m n : Nat} {part : Option Nat} {is : List Item} {i : Item} {us : List String}
  {e : TarEntry} {es : List TarEntry}

def TarEntry.cut (e : TarEntry) (n : Nat) : TarEntry :=
  { e with data := e.data.take n, stated := some (e.data.length + 1) }

@[simp] theorem TarEntry.isCut_cut (e : TarEntry) (n : Nat) : (e.cut n).isCut = true := by
  have hlen : (e.data.take n).length < e.data.length + 1 :=
    Nat.lt_succ_of_le (List.length_take_le' n e.data)
  exact decide_eq_true hlen

theorem Next.file {f g : FileData} (h : Next P dest D is i) (hf : i.piece = .file f) :
    Next P dest D is ⟨i.place, .file g⟩ where
  fits :=
    { ne_nil := h.fits.ne_nil
      names := h.fits.names
      fresh := h.fits.fresh
      above := h.fits.above
      below := fun j hj hpre => absurd (h.fits.below j hj hpre) (by simp [hf])
      target := by simp }
  spared := h.spared
  reachable := h.reachable

namespace Tarball

theorem extractEntries_append (archive dest : String) (broken : Bool) (n : Nat)
    (as bs : List TarEntry) : extractEntries (σ := σ) archive dest broken n (as ++ bs) =
      (extractEntries archive dest false n as >>= fun m =>
        extractEntries archive dest broken m bs) := by
  induction as generalizing n with
  | nil => simp [extractEntries]
  | cons e as ih =>
    simp only [List.cons_append, extractEntries, ih]
    split
    · simp
    · rw [bind_assoc]
      congr 1
      funext written
      split
      · simp
      · rfl

theorem unpack_of_file {f : FileData} (hf : pieceOf e = .file f) : e.isOldDirectory = false ∧
    e.kind ≠ .directory ∧ e.kind ≠ .hardLink ∧ unpack (σ := σ) e = unpackFile e := by
  have hdir : e.isDirectory = false := by rw [← isDirectory_pieceOf, hf, Piece.isDirectory_file]
  obtain ⟨hkind, hold⟩ := Bool.or_eq_false_iff.1 hdir
  have hne : e.kind ≠ .directory := by simpa using hkind
  refine ⟨hold, hne, ?_⟩
  cases hk : e.kind with
  | regular | fifo | characterDevice | blockDevice | contiguous | unknown =>
    refine ⟨by simp, ?_⟩
    funext p
    simp only [unpack, hk, hold, Bool.false_eq_true, ↓reduceIte]
  | directory => exact absurd hk hne
  | symlink | hardLink | globalHeader => simp [pieceOf, hold, hk] at hf

theorem pieceOf_cut {f : FileData} (hf : pieceOf e = .file f) (n : Nat) :
    pieceOf (e.cut n) = .file ⟨e.mode &&& 0o777, .data (e.data.take n)⟩ := by
  obtain ⟨hold, hdir, hlink, -⟩ := unpack_of_file (σ := Unit) hf
  have hold' : (e.cut n).isOldDirectory = false := hold
  have hkind : (e.cut n).kind = e.kind := rfl
  cases hk : e.kind with
  | symlink | globalHeader => simp [pieceOf, hold, hk] at hf
  | hardLink => exact absurd hk hlink
  | directory => exact absurd hk hdir
  | regular | fifo | characterDevice | blockDevice | contiguous | unknown =>
    simp only [pieceOf, hold', hkind, hk, Bool.false_eq_true, ↓reduceIte]
    rfl

theorem unpack_cut (hdir : e.kind ≠ .directory) (hlink : e.kind ≠ .hardLink)
    (hfile : ∀ f, pieceOf e ≠ .file f) (n : Nat) : unpack (σ := σ) (e.cut n) = unpack e := by
  cases hold : e.isOldDirectory with
  | true =>
    have hold' : (e.cut n).isOldDirectory = true := hold
    funext p
    rw [unpack_of_old hold, unpack_of_old hold']
    rfl
  | false =>
    funext p
    cases hk : e.kind with
    | globalHeader | symlink => simp only [unpack, TarEntry.cut, hk]
    | hardLink => exact absurd hk hlink
    | directory => exact absurd hk hdir
    | regular | fifo | characterDevice | blockDevice | contiguous | unknown =>
      simp [pieceOf, hold, hk] at hfile

theorem writeEntry_cut (hfile : ∀ f, pieceOf e ≠ .file f) (n : Nat) :
    writeEntry (σ := σ) dest (e.cut n) = writeEntry dest e := by
  have hplace : placeOf (e.cut n) = placeOf e := rfl
  have hkind : (e.cut n).kind = e.kind := rfl
  have hlink : (e.cut n).link = e.link := rfl
  simp only [writeEntry, hplace, hkind, hlink]
  split
  · rfl
  split
  · rfl
  · rw [unpack_cut ‹_› ‹_› hfile]

theorem unpackFile_torn {c : Disk} {left : List Item} {x : Piece}
    (h : Faces P D is left us s p x c w) (hcut : e.isCut = true) :
    Ends (unpackFile e p) w fun _ v =>
      Adds P D (⟨us ++ [s], .file ⟨plainMode, .data e.data⟩⟩ :: is) left w v := by
  refine Ends.bind (Ends.step ((createNew_faced h).mono ?_))
  rintro r v ⟨d, hl, rfl, hcwd, hv⟩
  apply Ends.bind
  apply Ends.changeDisk
  simp only [hcut, ↓reduceIte]
  refine Ends.bind (Ends.throw ⟨hcwd, _, h.awaits.addFile ⟨plainMode, .data e.data⟩, ?_⟩)
  simp only [changed_disk, hv]
  rw [setContent_addFile]
  exact hl.addFile _

theorem writeEntry_torn {f g : FileData} (h : Planted P dest D k is w) (hi : Next P dest D is i)
    (hplace : placeOf e = i.place) (hf : pieceOf e = .file f) (hpiece : i.piece = .file g)
    (hcut : e.isCut = true) : Ends (writeEntry dest e) w fun _ v =>
      Planted P dest D k (⟨i.place, .file ⟨plainMode, .data e.data⟩⟩ :: is) v := by
  obtain ⟨us, s, hus⟩ : ∃ us s, i.place = us ++ [s] :=
    ⟨_, _, (List.dropLast_concat_getLast hi.fits.ne_nil).symm⟩
  obtain ⟨-, hdir, hlink, hunpack⟩ := unpack_of_file (σ := σ) hf
  have hnext := hi.file (g := ⟨plainMode, .data e.data⟩) hpiece
  have hclean := h.clean [⟨i.place, .file ⟨plainMode, .data e.data⟩⟩]
  simp only [writeEntry, hplace, hdir, hlink, hunpack, ↓reduceIte]
  refine Ends.bind ((hclean.createParents hnext ⟨by simp, by simp, by simp⟩ (by simp) hus).mono ?_)
  rintro r v ⟨rfl, hcwd, c, hface⟩
  refine (unpackFile_torn hface hcut).mono fun r u hadds => ?_
  obtain ⟨c', hc'⟩ := hadds.regrown hclean hnext hcwd hus rfl
  exact hc'.finished

/-- What an entry leaves that is cut short is kin to its item. -/
theorem extractEntry_cut (h : Planted P dest D k is w) (he : Ready P dest D is e) (n : Nat) :
    Ends (extractEntry dest (e.cut n)) w fun _ v => ∃ js,
      Planted P dest D k (js ++ is) v ∧ Item.Akin js (item? e).toList := by
  cases hi : item? e with
  | none =>
    have hplace : placeOf e = [] := by simpa [item?] using hi
    rw [extractEntry_root (e := e.cut n) he.safe hplace]
    exact Ends.pure ⟨[], h, Item.akin_of_subset (List.nil_subset _)⟩
  | some i =>
    have hnext := he.next i hi
    obtain ⟨hne, hitem⟩ := item?_eq_some.1 hi
    have hwrite : extractEntry (σ := σ) dest (e.cut n) = do
        writeEntry dest (e.cut n)
        return true := by
      refine extractEntry_safe (e := e.cut n) he.safe hne fun hk => ⟨he.hardLink hne hk, ?_⟩
      obtain ⟨j, -, hplace, -, hj⟩ := he.linked h.orderly hi hk
      exact hplace ▸ hj
    rw [hwrite]
    apply Ends.told
    by_cases hfile : ∃ f, pieceOf e = .file f
    · obtain ⟨f, hf⟩ := hfile
      have hpiece : i.piece = .file f := by rw [hitem, hf]
      have hplace : placeOf (e.cut n) = i.place := by rw [hitem]; rfl
      have htorn := writeEntry_torn h hnext hplace (pieceOf_cut hf n) hpiece (by simp)
      refine htorn.mono fun _ v hv => ⟨[_], hv, ?_⟩
      intro j hj
      obtain rfl := List.mem_singleton.1 hj
      exact ⟨i, by simp, rfl, hpiece ▸ Piece.kin_file _ f⟩
    · rw [writeEntry_cut (fun f hf => hfile ⟨f, hf⟩)]
      refine (writeEntry_grown h he hi).mono ?_
      rintro r v ⟨-, hv⟩
      exact ⟨[i], hv, Item.akin_of_subset (List.Subset.refl _)⟩

/-- What can be read of some entries if the run breaks off behind the first `k`, or within the data
of the next. -/
def brokenOff (es : List TarEntry) (k : Nat) : Option Nat → List TarEntry
  | none => es.take k
  | some n => es.take k ++ (es[k]?.map (·.cut n)).toList

def interrupted (archive dest : String) (es : List TarEntry) (k : Nat) (part : Option Nat)
    (w : World σ) : World σ :=
  ((extractEntries archive dest false 0 (brokenOff es k part)).run.run (w.prepared dest)).2

theorem brokenOff_planted (h : Planted P dest D k [] w) (hco : Item.Coherent (tree es))
    (hes : ∀ as e bs, es = as ++ e :: bs → Ready P dest D (tree as).reverse e) :
    Ends (extractEntries archive dest false n (brokenOff es m part)) w fun _ v =>
      ∃ js, Planted P dest D k js v ∧ Item.Akin js (tree es) := by
  have hsub : (tree (es.take m)).Sublist (tree es) := (List.take_sublist m es).filterMap item?
  have htaken : Ends (extractEntries archive dest false n (es.take m)) w fun r v =>
      (∃ l, r = .ok l) ∧ Planted P dest D k (tree (es.take m)).reverse v := by
    refine (extractEntries_grown h (hco.sublist hsub) fun as e bs hs => ?_).mono fun r v hv => ?_
    · rw [List.append_nil]
      refine hes as e (bs ++ es.drop m) ?_
      rw [← List.cons_append, ← List.append_assoc, ← hs, List.take_append_drop]
    · rwa [List.append_nil] at hv
  have hold : Item.Akin (tree (es.take m)).reverse (tree es) :=
    Item.akin_of_subset fun j hj => hsub.subset (List.mem_reverse.1 hj)
  -- Behind the whole entries there is nothing more, or one that is cut.
  cases part with
  | none => exact htaken.mono fun r v hv => ⟨_, hv.2, hold⟩
  | some l =>
    cases he : es[m]? with
    | none =>
      simp only [brokenOff, he, Option.map_none, Option.toList_none, List.append_nil]
      exact htaken.mono fun r v hv => ⟨_, hv.2, hold⟩
    | some e =>
      obtain ⟨hm, rfl⟩ := List.getElem?_eq_some_iff.1 he
      have hsplit : es = es.take m ++ es[m] :: es.drop (m + 1) := by simp
      have hready := hes _ _ _ hsplit
      simp only [brokenOff, he, Option.map_some, Option.toList_some, extractEntries_append]
      refine Ends.bind (htaken.mono ?_)
      rintro r v ⟨⟨c, rfl⟩, hv⟩
      have hsound : (es[m].cut l).sound = true := hready.intact.1
      simp only [extractEntries, hsound, Bool.not_true, Bool.false_eq_true, ↓reduceIte,
        TarEntry.isCut_cut]
      refine Ends.bind ((extractEntry_cut hv hready l).mono ?_)
      rintro r u ⟨js, hu, hjs⟩
      have hall : Item.Akin (js ++ (tree (es.take m)).reverse) (tree es) := by
        refine Item.Akin.append (fun j hj => ?_) hold
        obtain ⟨i, hi, hkin⟩ := hjs j hj
        exact ⟨i, List.mem_filterMap.2 ⟨_, List.getElem_mem hm, Option.mem_toList.1 hi⟩, hkin⟩
      cases r with
      | error x => exact ⟨_, hu, hall⟩
      | ok b => exact Ends.bind (Ends.throw ⟨_, hu, hall⟩)

theorem openForReading_same {c : Content} (h : Leaves w v)
    (hopen : w.disk.openForReading w.cwd archive = .ok (.file c)) :
    v.disk.openForReading v.cwd archive = .ok (.file c) := by
  have hgrows : Grows w.disk v.disk := fun l n hl => by
    rw [(h.2 l (by simp [hl])).1, hl]
  simp only [openForReading, bind, Except.bind] at hopen ⊢
  cases hl : w.disk.locate w.cwd true archive with
  | error x => simp [hl] at hopen
  | ok spot =>
    obtain ⟨l, node⟩ := spot
    cases node with
    | none => simp [hl] at hopen
    | some node =>
      rw [h.1, hgrows.locate hl]
      cases node with
      | directory | symlink => simp [hl] at hopen
      | file id =>
        obtain ⟨hn, -⟩ : w.disk.nodeAt l = some (.file id) ∧ l ≠ [] := by
          simpa using locate_node hl
        have hfile := (h.2 l (by simp [hn])).2
        simp only [fileAt, hn, hgrows _ _ hn] at hfile
        simp only [hl] at hopen
        simpa only [hfile] using hopen

section

variable {reader : Compression} {records : List TarRecord}
  (hname : Compression.ofName? archive = some reader) (htidy : Tidy dest (entriesOf records))
include hname htidy

theorem extract_regrown {js : List Item} (hs : ∀ i ∈ tree (entriesOf records), P.Spares D i)
    (hp : ∀ i ∈ tree (entriesOf records), i.Permits (tree (entriesOf records)))
    (hw : Planted P dest D k js w) (hjs : Item.Akin js (tree (entriesOf records)))
    (hopen : w.disk.openForReading w.cwd archive = .ok (.file (.tarball ⟨reader, [records]⟩)))
    (hdest : dest = "" ∨ w.isDir dest = true) :
    Ends (extract archive dest) w fun r v =>
      r = .ok () ∧ P.Grown D (tree (entriesOf records)).reverse v.disk := by
  refine extract_ends hopen hname (createDirectories_of_isDir hdest) ?_
  refine (extractEntries_regrown (hw.regrown hjs hp) htidy.coherent ?_).mono ?_
  · intro as e bs hsplit
    rw [List.append_nil]
    exact (hsplit ▸ htidy).ready (hsplit ▸ hs)
  · rintro r v ⟨hr, c, hc⟩
    have hgrown := (hc.littered.grown hc.planted.grown).of_same (same_holding (hw.same hjs hs))
      rfl
    rw [List.append_nil] at hgrown
    exact ⟨hr, hgrown⟩

end

theorem interrupted_along (archive dest : String) (es : List TarEntry) (m : Nat)
    (part : Option Nat) (w : World σ) :
    Along (fun _ => True) (w.prepared dest) (interrupted archive dest es m part w) :=
  maintains_extractEntries (stable_true (w.prepared dest).cwd) archive dest false 0
    (brokenOff es m part) (w.prepared dest) rfl trivial

/-- A run that has been broken off can be started again: it succeeds and leaves what one run alone
would have left. -/
theorem extract_restarted {reader : Compression} {records : List TarRecord}
    (hw : Handed w archive reader records) (htidy : Tidy dest (entriesOf records))
    (hp : ∀ i ∈ tree (entriesOf records), i.Permits (tree (entriesOf records)))
    (hroom : Room w dest D k (tree (entriesOf records))) (m : Nat) (part : Option Nat) :
    Ends (extract archive dest) w fun r v => r = .ok () ∧
      Ends (extract archive dest) (interrupted archive dest (entriesOf records) m part w)
        fun r' v' => r' = .ok () ∧ Alike v.disk v'.disk := by
  have hplanted := hroom.planted hw.wellFormed hw.here
  have hes : ∀ as e bs, entriesOf records = as ++ e :: bs →
      Ready (w.prepared dest).disk dest D (tree as).reverse e :=
    fun as e bs hsplit => (hsplit ▸ htidy).ready (hsplit ▸ hroom.spared)
  have hco : Item.Coherent (tree (entriesOf records)) := htidy.coherent
  have hwhole : Ends (extractEntries archive dest false 0 (entriesOf records)) (w.prepared dest)
      fun r v => (∃ n, r = .ok n) ∧ Planted (w.prepared dest).disk dest D k
        (tree (entriesOf records)).reverse v := by
    refine (extractEntries_grown hplanted hco (by simpa using hes)).mono fun r v hv => ?_
    rwa [List.append_nil] at hv
  have halone := extract_ends hw.opened hw.suffix hroom.prepared
    (hwhole.mono fun r v hv => ⟨hv.1, hv.2.grown⟩)
  obtain ⟨js, hu, hjs⟩ : ∃ js, Planted (w.prepared dest).disk dest D k js
      (interrupted archive dest (entriesOf records) m part w) ∧
        Item.Akin js (tree (entriesOf records)) :=
    brokenOff_planted hplanted hco hes
  have halong := interrupted_along archive dest (entriesOf records) m part w
  -- Neither run has touched the archive, which was there before.
  have hmade : Leaves w (w.prepared dest) := createDirectories_leaves
  have hleft : Leaves w (interrupted archive dest (entriesOf records) m part w) := by
    refine ⟨halong.cwd.trans hmade.1, fun l hl => ?_⟩
    have hprep := hmade.2 l hl
    exact hprep.trans (hu.same hjs hroom.spared l (hprep.1 ▸ hl))
  have hdest : dest = "" ∨
      (interrupted archive dest (entriesOf records) m part w).isDir dest = true := by
    refine hroom.isDir.imp_right fun h => ?_
    rw [World.isDir, halong.cwd]
    exact hu.grown.grows.keeps.isDir h
  have hagain := extract_regrown hw.suffix htidy hroom.spared hp hu hjs
    (openForReading_same hleft hw.opened) hdest
  refine halone.mono fun r v hv => ⟨hv.1, hagain.mono fun r' v' hv' => ⟨hv'.1, ?_⟩⟩
  exact hv.2.alike hv'.2 hwhole.2.orderly

theorem createLink_short : Runs (createLink target p) w fun r _ => r = .ok () →
    target.utf8ByteSize < maxPath := by
  have hshort : ∀ {d d' : Disk} {c : Location}, d.makeSymlink c target p = .ok d' →
      target.utf8ByteSize < maxPath := by
    intro d d' c h
    by_contra hlong
    rw [makeSymlink] at h
    split at h
    · cases h
    · rw [if_pos (Nat.not_lt.1 hlong)] at h
      cases h
  have hlink : ∀ v : World σ, Runs (change (·.makeSymlink · target p)) v fun r _ => r = .ok () →
      target.utf8ByteSize < maxPath :=
    fun v => Runs.change (fun d hd _ => hshort hd) fun _ _ h => by cases h
  refine Runs.bind (Runs.change (fun d hd => Runs.pure fun _ => hshort hd) fun x _ => ?_)
  split
  · exact absurd ‹_› (by simp)
  · apply Runs.bind
    apply Runs.change
    · exact fun d _ => hlink _
    · intro y _
      split
      · exact hlink w
      · exact hlink w
      · exact Runs.pure fun h => by cases h
  · exact Runs.pure fun h => by cases h

theorem extractEntry_short {b : Bool} (h : (extractEntry dest e).run.run w = (.ok b, v))
    (hk : e.kind = .symlink) (hne : placeOf e ≠ []) : e.link.utf8ByteSize < maxPath := by
  have hends : Ends (extractEntry dest e) w fun r _ =>
      ∀ b, r = .ok b → e.link.utf8ByteSize < maxPath := by
    rw [extractEntry_safe (isSafe_of_extractEntry h) hne (by simp [hk])]
    apply Ends.told
    simp only [writeEntry, hk, unpack, reduceCtorEq, ↓reduceIte]
    generalize pathBelow dest (placeOf e) = p
    refine Ends.bind (Ends.intro fun r u _ => ?_)
    cases r with
    | error x => exact fun _ h => by cases h
    | ok =>
      dsimp only
      split
      · exact Ends.throw fun _ h => by cases h
      · refine Ends.step (createLink_short.mono ?_)
        rintro (x | a) u hu
        · exact fun _ h => by cases h
        · exact fun _ _ => hu rfl
  exact hends.of_run h b rfl

theorem extract_short {reader : Compression} {t : Tarball}
    (hopen : w.disk.openForReading w.cwd archive = .ok (.file (.tarball t)))
    (hname : Compression.ofName? archive = some reader)
    (h : Ends (extract archive dest) w fun r _ => r = .ok ()) (he : e ∈ (t.stream reader).entries)
    (hk : e.kind = .symlink) (hne : placeOf e ≠ []) : e.link.utf8ByteSize < maxPath := by
  obtain ⟨u, hrun⟩ := exists_run h
  obtain ⟨t', reader', v, hopen', hname', -, hturns, -⟩ := extract_turns.of_run hrun rfl
  cases hopen.symm.trans hopen'
  cases hname.symm.trans hname'
  obtain ⟨as, bs, hsplit⟩ := List.append_of_mem he
  obtain ⟨_, _, _, -, hturn, -⟩ := (hsplit ▸ hturns).split
  exact extractEntry_short hturn hk hne

section Trial

theorem extract_restarted_smallRelease :
    Ends (extract "a.tar.xz" "llvm") (besideOut smallRelease) fun r v => r = .ok () ∧
      Ends (extract "a.tar.xz" "llvm")
        (interrupted "a.tar.xz" "llvm" smallRelease 1 (some 1) (besideOut smallRelease))
          fun r' v' => r' = .ok () ∧ Alike v.disk v'.disk :=
  extract_restarted handed_smallRelease tidy_smallRelease (by decide +kernel) room_smallRelease 1
    (some 1)

def longLink : String := String.ofList (List.replicate 4096 'a')

theorem utf8ByteSize_replicate (n : Nat) :
    (String.ofList (List.replicate n 'a')).utf8ByteSize = n := by
  induction n with
  | zero => rfl
  | succ n ih =>
    have hone : (String.singleton 'a').utf8ByteSize = 1 := rfl
    rw [List.replicate_succ, String.ofList_cons, String.utf8ByteSize_append, ih, hone]
    omega

theorem utf8ByteSize_longLink : longLink.utf8ByteSize = 4096 := utf8ByteSize_replicate 4096

def longRelease : List TarEntry :=
  [⟨"top/bin/clang", .regular, 0o755, [120], "", true, none, false⟩,
    ⟨"top/lib/link", .symlink, 0o777, [], longLink, true, none, false⟩]

theorem neat_longRelease : Neat "dest" longRelease := by
  constructor
  case symlink =>
    have hne : longLink ≠ "" := by
      intro h
      have hsize := utf8ByteSize_longLink
      simp [h] at hsize
    simp [longRelease, hne]
  all_goals decide +kernel

theorem openForReading_besideOut (es : List TarEntry) :
    (besideOut es).disk.openForReading (besideOut es).cwd "a.tar.xz" =
      .ok (.file (.tarball ⟨.xz, [es.map .entry]⟩)) := by
  have hgrows : Grows (besideOut []).disk (besideOut es).disk := fun _ _ h => h
  have hloc : (besideOut []).disk.locate (besideOut []).cwd true "a.tar.xz" =
      .ok ⟨["a.tar.xz", "home"], some (.file 0)⟩ := by decide +kernel
  have hfile : (besideOut es).disk.files.get? 0 =
      some ⟨0o644, .tarball ⟨.xz, [es.map .entry]⟩⟩ := rfl
  have hcwd : (besideOut es).cwd = (besideOut []).cwd := rfl
  simp [openForReading, hcwd, hgrows.locate hloc, hfile, FileData.isReadable, bind, Except.bind]

/-- Without a bound on the links not even a run into an empty directory comes to its end, nor does
one into an empty directory that may not be written. -/
theorem not_restarted_anywhere :
    (¬ ∀ (archive dest : String) (reader : Compression) (records : List TarRecord) (w : World Unit)
      (D : Location) (k m : Nat) (part : Option Nat), Handed w archive reader records →
      Neat dest (entriesOf records) → Room w dest D k (tree (entriesOf records)) →
        Ends (extract archive dest) (interrupted archive dest (entriesOf records) m part w)
          fun r _ => r = .ok ()) ∧
    ¬ ∀ (archive dest : String) (reader : Compression) (records : List TarRecord) (w : World Unit)
      (D : Location) (m : Nat) (part : Option Nat), Handed w archive reader records →
      Tidy dest (entriesOf records) → w.disk.locate w.cwd true dest = .ok ⟨D, some .directory⟩ →
      (∀ s, w.disk.nodeAt (s :: D) = none) →
        Ends (extract archive dest) (interrupted archive dest (entriesOf records) m part w)
          fun r _ => r = .ok () := by
  refine ⟨?_, ?_⟩
  · intro h
    have hopen := openForReading_besideOut longRelease
    have hname : Compression.ofName? "a.tar.xz" = some .xz := by decide +kernel
    have hroom : Room (besideOut longRelease) "dest" ["dest", "home"] 40 (tree longRelease) :=
      ⟨by rfl, by rw [Rooted]; decide +kernel, by decide +kernel, by decide +kernel⟩
    have hends := h "a.tar.xz" "dest" .xz (longRelease.map .entry) (besideOut longRelease)
      ["dest", "home"] 40 0 none ⟨wellFormed_besideOut _, rfl, hopen, hname⟩ neat_longRelease hroom
    have hleaves : Leaves (besideOut longRelease)
        (interrupted "a.tar.xz" "dest" longRelease 0 none (besideOut longRelease)) :=
      createDirectories_leaves
    have hread : ⟨"top/lib/link", .symlink, 0o777, [], longLink, true, none, false⟩ ∈
        ((⟨.xz, [longRelease.map .entry]⟩ : Tarball).stream .xz).entries := by
      simp [Tarball.stream, longRelease, entriesOf]
    have hshort := extract_short (openForReading_same hleaves hopen) hname hends hread rfl
      (by decide +kernel)
    rw [utf8ByteSize_longLink] at hshort
    exact absurd hshort (by decide)
  · intro h
    have hends := h "a.tar.xz" "out" .xz (smallRelease.map .entry) (besideLocked smallRelease)
      ["out", "home"] 0 none handed_besideLocked
      ⟨by constructor <;> decide +kernel, by decide +kernel⟩ (by decide +kernel)
      (besideLocked_empty smallRelease)
    have herror : ((extract "a.tar.xz" "out").run.run (interrupted "a.tar.xz" "out" smallRelease 0
        none (besideLocked smallRelease))).1 ≠ .ok () := by decide +kernel
    exact herror hends

end Trial

end Tarball
end Provision
