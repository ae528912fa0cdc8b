import Provision.Proofs.Download.Atomic
import Provision.Proofs.Installation.Configured
import Provision.Proofs.Toml.Document

namespace Provision

open PathText Provision.Action

variable {σ : Type} {w v : World σ} {b : Binding} {buildDir dir p text : String} {major : UInt32}
  {d d' : Disk} {cwd : Location} {id : FileId} {c : Content}

theorem Text.decode?_bytes (s : String) : Text.decode? (Text.bytes s) = some s := by
  have hbytes : (⟨s.toUTF8.data.toList.toArray⟩ : ByteArray) = s.toUTF8 := by simp
  have hvalid : s.toUTF8.IsValidUTF8 := s.isValidUTF8
  rw [Text.decode?, Text.bytes, hbytes, String.fromUTF8?, dif_pos hvalid]
  rfl

namespace Binding

theorem isBareKey_ofMajor (major : UInt32) (dir : String) :
    Toml.IsBareKey (ofMajor major dir).key := by
  refine ⟨by simp [ofMajor, keyStart], fun c hc => ?_⟩
  simp only [ofMajor, String.toList_append, List.mem_append] at hc
  obtain ((hc | hc) | hc) | hc := hc
  · exact List.all_eq_true.1 (by decide +kernel : keyStart.toList.all Toml.Reader.isBare = true) c hc
  · have hdigits : c ∈ Nat.toDigits 10 major.toNat := by simpa using hc
    have hdigit := Nat.isDigit_of_mem_toDigits (by decide) (by decide) hdigits
    simp [Toml.Reader.isBare, Char.isAlphanum, hdigit]
  · exact List.all_eq_true.1 (by decide +kernel : "0".toList.all Toml.Reader.isBare = true) c hc
  · exact List.all_eq_true.1 (by decide +kernel : keyEnd.toList.all Toml.Reader.isBare = true) c hc

theorem isKey_ofMajor (major : UInt32) (dir : String) : isKey (ofMajor major dir).key = true := by
  simp only [isKey, ofMajor, Bool.and_eq_true, List.isPrefixOf_iff_prefix, List.isSuffixOf_iff_suffix,
    String.toList_append, List.append_assoc]
  exact ⟨List.prefix_append _ _, ((List.suffix_append _ _).trans (List.suffix_append _ _)).trans
    (List.suffix_append _ _)⟩

theorem single_configText (hk : Toml.IsBareKey b.key) :
    Toml.Single b.configText "env" b.key b.value := by
  refine ⟨⟨by decide, List.all_eq_true.1 (by decide +kernel)⟩, hk, _,
    Toml.basicString_escape b.value.toList, ?_⟩
  apply String.toList_injective
  simp [configText, Toml.Quoted.text]

theorem ofText?_configText (hk : Toml.IsBareKey b.key) (hkey : isKey b.key = true) :
    ofText? b.configText = some (some b) := by
  have hread := (single_configText hk).read
  simp [ofText?, hread, environment?, find?, hkey, Toml.Value.allIntegers, Toml.Value.allIntegersIn,
    Toml.Value.asTable?, Toml.Value.asText?]

end Binding

/-- If a path leads to a file, its owner may read it. -/
def Disk.Legible (d : Disk) (cwd : Location) (p : String) : Prop :=
  ∀ l id f, d.locate cwd true p = .ok ⟨l, some (.file id)⟩ → d.files.get? id = some f →
    f.isReadable = true

instance : Decidable (d.Legible cwd p) :=
  decidable_of_iff ((match d.locate cwd true p with
    | .ok ⟨_, some (.file id)⟩ => (d.files.get? id).all (·.isReadable)
    | _ => true) = true) <| by
    rw [Disk.Legible]
    split
    · simp only [*, Except.ok.injEq, Spot.mk.injEq, Option.some.injEq, Node.file.injEq,
        Option.all_eq_true, and_imp]
      exact ⟨fun h _ _ f _ hid hf => h f (hid ▸ hf), fun h f hf => h _ _ f rfl rfl hf⟩
    · simp_all

namespace Disk

theorem isFile_of_read (h : d.read cwd p = .ok c) : d.isFile cwd p = true := by
  cases hl : d.locate cwd true p with
  | error e => simp [Disk.read, openForReading, hl, bind, Except.bind] at h
  | ok spot =>
    obtain ⟨l, _ | n⟩ := spot
    · simp [Disk.read, openForReading, hl, bind, Except.bind] at h
    cases n with
    | file id => simp [Disk.isFile, nodeOf?, hl]
    | directory => simp [Disk.read, openForReading, hl, bind, Except.bind] at h
    | symlink t => simp [Disk.read, openForReading, hl, bind, Except.bind] at h

theorem legible_setContent (h : d.Legible cwd p) (hopen : d.openForWriting cwd p = .ok (d', id))
    (c : Content) : (d'.setContent id c).Legible cwd p := by
  have hplain : FileData.isReadable ⟨plainMode, .data []⟩ = true := by decide
  obtain ⟨f, hget, hread⟩ : ∃ f, d'.files.get? id = some f ∧ f.isReadable = true := by
    obtain ⟨l, -, -, rfl, rfl⟩ | ⟨l, f, hl, hf, -, rfl⟩ := openForWriting_eq_ok hopen
    · exact ⟨_, by simp [get?_addFile], hplain⟩
    · exact ⟨{ f with content := .data [] }, by simp [get?_setFile], h l id f hl hf⟩
  obtain ⟨-, -, l, hl⟩ := openForWriting_grows hopen
  have hset : d'.setContent id c = d'.setFile id { f with content := c } := by simp [setContent, hget]
  have hloc := (grows_setContent d' id c).locate hl
  intro l' id' g hl' hg
  obtain ⟨rfl, rfl⟩ : l = l' ∧ id = id' := by simpa using hloc.symm.trans hl'
  rw [hset, get?_setFile, if_pos rfl, Option.some.injEq] at hg
  exact hg ▸ hread

theorem Wrote.read (h : d.Wrote cwd p c) (hl : d.Legible cwd p) : d.read cwd p = .ok c := by
  obtain ⟨l, id, mode, hloc, hget⟩ := h.contains
  have hread := hl l id _ hloc hget
  simp [Disk.read, openForReading, hloc, hget, hread, bind, Except.bind]

end Disk

namespace Binding

theorem write_path : Ends (b.write buildDir) w fun r _ => ∀ p, r = .ok p → p = configPath buildDir := by
  refine Ends.bind (Ends.intro fun r u _ => ?_)
  cases r with
  | error e => simp
  | ok _ =>
    refine Ends.bind (Ends.intro fun r u _ => ?_)
    cases r with
    | error e => simp
    | ok _ => exact Ends.pure fun p hp => (Except.ok.inj hp).symm

theorem writeFile_legible (h : w.disk.Legible w.cwd p) :
    Ends (writeFile p text) w fun _ v => v.disk.Legible v.cwd p := by
  refine Ends.bind (Ends.step (Runs.changeWith ?_ ?_))
  · exact fun d id hopen => Ends.changeDisk (Disk.legible_setContent h hopen _)
  · exact fun _ _ => h

theorem write_legible (h : (w.housed (configPath buildDir)).disk.Legible w.cwd (configPath buildDir)) :
    Ends (b.write buildDir) w fun _ v => v.disk.Legible v.cwd (configPath buildDir) := by
  have hhoused : Ends (createParents (configPath buildDir)) w fun _ u =>
      w.Stays u ∧ u = w.housed (configPath buildDir) := createParents_stays.and rfl
  refine Ends.seq (hhoused.mono ?_) fun _ u hu => Ends.seq (writeFile_legible hu) fun _ _ h =>
    Ends.pure h
  rintro r u ⟨hstays, rfl⟩
  rwa [hstays.cwd]

theorem Saved.read (h : b.Saved buildDir w) (hl : w.disk.Legible w.cwd (configPath buildDir))
    (hk : Toml.IsBareKey b.key) (hkey : isKey b.key = true) :
    Ends (read buildDir) w fun r v => r = .ok (some b) ∧ v = w := by
  have hread := h.file.read hl
  have hfile : w.isFile (configPath buildDir) = true := Disk.isFile_of_read hread
  refine Ends.get ?_
  rw [if_pos hfile]
  refine Ends.bind (Ends.step (Runs.ask ?_))
  simp only [hread, Content.text?, Text.decode?_bytes, ofText?_configText hk hkey]
  exact Ends.pure ⟨rfl, rfl⟩

/-- What has been written for a build is a document of one table and one key, whatever the prefix
and whatever the file has held. As long as the file may be read, it is read back as it was. -/
theorem read_written (written : ((ofMajor major dir).write buildDir).run.run w = (.ok p, v)) :
    p = configPath buildDir ∧ ∃ text,
      v.disk.Contains v.cwd p (.data (Text.bytes text)) ∧
      Toml.Single text "env" (ofMajor major dir).key dir ∧
      Toml.Members.ofText? text =
        some [("env", .table .header [((ofMajor major dir).key, .text dir)])] ∧
      ((w.housed p).disk.Legible w.cwd p →
        (read buildDir).run.run v = (.ok (some (ofMajor major dir)), v)) := by
  have hkey := isBareKey_ofMajor major dir
  have hsingle := single_configText (b := ofMajor major dir) hkey
  have hsaved := (write_ends.of_run written).2.2 ⟨p, rfl⟩
  have hcontains := hsaved.file.contains
  obtain rfl := write_path.of_run written p rfl
  refine ⟨rfl, _, hcontains, hsingle, hsingle.read, fun legible => ?_⟩
  have hback := hsaved.read ((write_legible legible).of_run written) hkey (isKey_ofMajor major dir)
  exact Prod.ext hback.1 hback.2

section Trial

def oldConfig (mode : Nat) : World Unit :=
  let w := World.fresh ["home"] "" ()
  let cargo := (w.disk.put ["build", "home"] .directory).put [".cargo", "build", "home"] .directory
  { w with disk := (cargo.addFile ["config.toml", ".cargo", "build", "home"] ⟨mode, .data [0]⟩).1 }

def oddPrefix : String := "C:\\llvm \"14\"\n\x00\x7f\u0085𝄞"

theorem read_written_odd :
    ∃ v, ((ofMajor 14 oddPrefix).write "build").run.run (oldConfig 0o644) =
        (.ok "build/.cargo/config.toml", v) ∧
      (read "build").run.run v = (.ok (some (ofMajor 14 oddPrefix)), v) := by
  have legible : ((oldConfig 0o644).housed "build/.cargo/config.toml").disk.Legible
      (oldConfig 0o644).cwd "build/.cargo/config.toml" := by
    decide +kernel
  have hok : (((ofMajor 14 oddPrefix).write "build").run.run (oldConfig 0o644)).1 =
      .ok "build/.cargo/config.toml" := by
    decide +kernel
  obtain ⟨v, written⟩ := exists_run hok
  obtain ⟨-, -, -, -, -, hread⟩ := read_written written
  exact ⟨v, written, hread legible⟩

/-- A file that may be written and not read keeps its permissions. -/
theorem not_read_written_locked : ¬ ∀ (major : UInt32) (dir buildDir p : String) (w v : World Unit),
    ((ofMajor major dir).write buildDir).run.run w = (.ok p, v) →
      ((read buildDir).run.run v).1 = .ok (some (ofMajor major dir)) := by
  intro h
  have hok : (((ofMajor 14 "/opt/llvm").write "build").run.run (oldConfig 0o200)).1 =
      .ok "build/.cargo/config.toml" := by
    decide +kernel
  have herror : ((read "build").run.run
      (((ofMajor 14 "/opt/llvm").write "build").run.run (oldConfig 0o200)).2).1 =
        .error (.step (.read "build/.cargo/config.toml") (.disk .accessDenied)) := by
    decide +kernel
  obtain ⟨v, written⟩ := exists_run hok
  rw [written] at herror
  have hread := h 14 "/opt/llvm" "build" _ _ v written
  exact absurd (hread.symm.trans herror) (by simp)

end Trial

end Binding
end Provision
