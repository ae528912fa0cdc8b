import Mathlib.Control.Monad.Basic
import Provision.Proofs.Download.Attempts
import Provision.Proofs.World.Directories

namespace Provision

open PathText

namespace Disk

open Download

variable {P d d' : Disk} {cwd X : Location} {p s : String} {n : Node} {id : FileId} {body : Bytes}

def dataOf (d : Disk) : Node → Option FileData
  | .file id => d.files.get? id
  | _ => none

/-- What a path names, links at its end not followed, with the data of a file. -/
def entry (d : Disk) (cwd : Location) (p : String) : Option (Node × Option FileData) :=
  match d.locate cwd false p with
  | .ok ⟨_, some n⟩ => some (n, d.dataOf n)
  | _ => none

/-- A path names nothing or a file. -/
def Vacant (d : Disk) (cwd : Location) (p : String) : Prop :=
  ∀ l n, d.locate cwd false p = .ok ⟨l, some n⟩ → ∃ id, n = .file id

/-- A path names nothing, or a file that has one name. -/
def Exclusive (d : Disk) (cwd : Location) (p : String) : Prop :=
  ∀ l n, d.locate cwd false p = .ok ⟨l, some n⟩ → ∃ id, n = .file id ∧ d.linkCount id = 1

theorem vacant_iff : d.Vacant cwd p ↔ ∀ x, d.entry cwd p = some x → ∃ id, x.1 = .file id := by
  constructor
  · intro h x hx
    simp only [entry] at hx
    split at hx
    · rw [← Option.some.inj hx]
      exact h _ _ ‹_›
    · cases hx
  · intro h l n hl
    exact h (n, d.dataOf n) (by rw [entry, hl])

/-- A path names a file with this content. -/
def Holds (d : Disk) (cwd : Location) (p : String) (body : Bytes) : Prop :=
  ∃ id g, d.entry cwd p = some (.file id, some g) ∧ g.content = .data body

theorem entry_eq_none_iff : d.entry cwd p = none ↔ ∀ l n, d.locate cwd false p ≠ .ok ⟨l, some n⟩ := by
  rw [entry]
  split
  · rename_i l n h
    simp [h]
  · rename_i h
    simpa using h

theorem vacant_of_none (h : d.entry cwd p = none) : d.Vacant cwd p :=
  fun l n hl => absurd hl (entry_eq_none_iff.1 h l n)

theorem exclusive_of_none (h : d.entry cwd p = none) : d.Exclusive cwd p :=
  fun l n hl => absurd hl (entry_eq_none_iff.1 h l n)

theorem entry_of_slot (h : d.slot cwd p = .ok ⟨X, some s, false⟩) :
    d.entry cwd p = (d.nodeAt (s :: X)).map fun n => (n, d.dataOf n) := by
  rw [entry, locate_of_slot h]
  cases d.nodeAt (s :: X) <;> rfl

theorem entry_of_slot_error {e : DiskError} (h : d.slot cwd p = .error e) : d.entry cwd p = none := by
  refine entry_eq_none_iff.2 fun l n hl => ?_
  obtain ⟨sl, hsl⟩ := slot_of_locate hl
  cases h.symm.trans hsl

theorem entry_eq_of_same (h : d.slot cwd p = .ok ⟨X, some s, false⟩) (hk : Keeps d d')
    (hs : Same d d' (s :: X)) : d'.entry cwd p = d.entry cwd p := by
  obtain ⟨hn, hf, -⟩ := hs
  rw [entry_of_slot h, entry_of_slot (hk.slot h), hn]
  cases hd : d.nodeAt (s :: X) with
  | none => rfl
  | some n =>
    cases n with
    | directory => rfl
    | symlink t => rfl
    | file id =>
      simp only [fileAt, hn, hd] at hf
      simp [dataOf, hf]

theorem Filled.holds (hf : Filled d (s :: X) id body) (h : d.slot cwd p = .ok ⟨X, some s, false⟩) :
    d.Holds cwd p body := by
  obtain ⟨hn, g, hg, hbody⟩ := hf
  refine ⟨id, g, ?_, hbody⟩
  rw [entry_of_slot h, hn]
  simp [dataOf, hg]

theorem entry_of_grows (h : Grows d d') (hf : d'.files = d.files) {x : Node × Option FileData}
    (hx : d.entry cwd p = some x) : d'.entry cwd p = some x := by
  simp only [entry] at hx
  split at hx
  · rename_i l n hl
    rw [entry, h.locate hl, ← hx]
    cases n <;> simp [dataOf, hf]
  · cases hx

/-- A path names something in a directory that may not be written. -/
def Locked (d : Disk) (cwd : Location) (p : String) : Prop :=
  ∃ X s, d.slot cwd p = .ok ⟨X, some s, false⟩ ∧ d.nodeAt (s :: X) ≠ none ∧ d.mayWrite X = false

/-- Where a destination and its temporary file lie, if they lie anywhere: in one directory, the one
with the name of the other and an ending. -/
structure Beside (P : Disk) (cwd : Location) (dest : String) (X : Location) (x : String) : Prop where
  temp : P.slot cwd (tempPath dest) = .ok ⟨X, some x, false⟩
  named : dest = "" ∨ ∃ s, x = s ++ ".tmp" ∧ P.slot cwd dest = .ok ⟨X, some s, false⟩
  vacant : P.Vacant cwd dest
  alone : P.Alone (x :: X)

theorem exists_beside {sl : Slot} (h : d.slot cwd (tempPath dest) = .ok sl)
    (hdest : d.Vacant cwd dest) (htemp : d.Exclusive cwd (tempPath dest)) :
    ∃ X x, d.Beside cwd dest X x := by
  obtain ⟨X, x, rfl, hempty | ⟨l, hl⟩ | hs⟩ := slot_tempPath h
  all_goals
    have halone : d.Alone (x :: X) := by
      intro n hn
      obtain ⟨id, rfl, hone⟩ := htemp _ n (by rw [locate_of_slot h, hn])
      exact ⟨id, rfl, (linkCount_eq_one_iff hn).1 hone⟩
  · exact ⟨X, x, h, .inl hempty, hdest, halone⟩
  · obtain ⟨id, hid⟩ := hdest _ _ hl
    cases hid
  · exact ⟨X, x, h, .inr hs, hdest, halone⟩

namespace Beside

variable {x : String} (h : P.Beside cwd dest X x) (hd : Staged P (x :: X) d)
include h hd

theorem slot : d.slot cwd (tempPath dest) = .ok ⟨X, some x, false⟩ :=
  (hd.keeps h.alone).slot h.temp

theorem entry : d.entry cwd dest = P.entry cwd dest := by
  obtain rfl | ⟨s, rfl, hs⟩ := h.named
  · rfl
  · exact entry_eq_of_same hs (hd.keeps h.alone) (hd.same _ (by simp [ne_append_ending]))

theorem unlinked : (∀ d', d.unlink cwd (tempPath dest) = .ok d' → Staged P (x :: X) d' ∧
      d'.entry cwd (tempPath dest) = none) ∧
    ∀ e, d.unlink cwd (tempPath dest) = .error e →
      d.entry cwd (tempPath dest) = none ∨ P.Locked cwd (tempPath dest) := by
  obtain ⟨hgone, hmissing⟩ := hd.unlink (h.slot hd)
  constructor
  · intro d' hd'
    obtain ⟨hstaged, hnone⟩ := hgone d' hd'
    refine ⟨hstaged, ?_⟩
    rw [entry_of_slot (h.slot hstaged), hnone]
    rfl
  · intro e he
    obtain hnone | ⟨hthere, hmay⟩ := hmissing e he
    · left
      rw [entry_of_slot (h.slot hd), hnone]
      rfl
    · exact .inr ⟨X, x, h.temp, hthere, hmay⟩

theorem moved (hf : Filled d (x :: X) id body)
    (hmove : d.moveName cwd (tempPath dest) dest = .ok d') :
    d'.Holds cwd dest body ∧ d'.entry cwd (tempPath dest) = none := by
  obtain rfl | ⟨s, rfl, hs⟩ := h.named
  · obtain ⟨_, _, _, _, _, -, hempty, -⟩ := moveName_eq_ok hmove
    cases hempty
  · have hslot := (hd.keeps h.alone).slot hs
    have hold : ∀ n, d.nodeAt (s :: X) = some n → ∃ j, n = .file j := by
      intro n hn
      rw [(hd.same (s :: X) (by simp [ne_append_ending])).1] at hn
      exact h.vacant _ n (by rw [locate_of_slot hs, hn])
    obtain ⟨hnone, hfilled, hkept⟩ := hd.moveName hf (h.slot hd) hslot (ne_append_ending s) hold hmove
    refine ⟨hfilled.holds (hkept.slot hslot), ?_⟩
    rw [entry_of_slot (hkept.slot (h.slot hd)), hnone]
    rfl

end Beside

structure Roomier (d d' : Disk) : Prop where
  wellFormed : d'.WellFormed
  grows : Grows d d'
  files : d'.files = d.files
  modes : d'.modes = d.modes
  new : ∀ {m n}, d'.nodeAt m = some n → d.nodeAt m = some n ∨ n = .directory

namespace Roomier

theorem refl (h : d.WellFormed) : Roomier d d := ⟨h, .refl d, rfl, rfl, .inl⟩

theorem makeDirectory (h : Roomier d d') (hcwd : d.nodeAt cwd = some .directory)
    {e : Disk} (he : d'.makeDirectory cwd p = .ok e) : Roomier d e := by
  obtain ⟨hfiles, hmodes⟩ : e.files = d'.files ∧ e.modes = d'.modes := by
    obtain ⟨s, X, b, -, -, rfl⟩ := makeDirectory_eq_ok he
    exact ⟨rfl, rfl⟩
  refine ⟨h.wellFormed.makeDirectory (h.grows _ _ hcwd) he, h.grows.trans (makeDirectory_grows he),
    hfiles.trans h.files, hmodes.trans h.modes, fun hm => ?_⟩
  obtain hm | hm := makeDirectory_new he hm
  · exact h.new hm
  · exact .inr hm

end Roomier

end Disk

def World.housed {σ : Type} (w : World σ) (p : String) : World σ :=
  ((Action.createParents p).run.run w).2

namespace Action

open World Disk

variable {σ : Type} {w : World σ} {p q : String}

theorem createParents_grows :
    Ends (createParents p) w fun _ v => Along (fun d => Disk.Grows d v.disk) w v := by
  simp only [createParents]
  cases parent? p with
  | none => exact Ends.pure (.refl (.refl _))
  | some q => exact createDirectories_grows

theorem createParents_failed : Ends (createParents p) w fun r v => ∀ e, r = .error e →
    ∃ q x, parent? p = some q ∧ e = .step (.createDirectory q) (.disk x) ∧ q ≠ "" ∧
      v.isDir q = false := by
  have hmade := createParents_along (w := w) (p := p) (I := fun _ => True) trivial
    fun _ _ _ _ _ _ _ _ => trivial
  refine Ends.intro fun r v hr e he => ?_
  subst he
  obtain ⟨-, q, x, hq, rfl⟩ := hmade.of_run hr
  simp only [createParents, hq] at hr
  obtain ⟨hne, hdir⟩ := createDirectories_failed.of_run hr _ rfl
  exact ⟨q, x, hq, rfl, hne, hdir⟩

theorem createParents_roomier (hwf : w.disk.WellFormed)
    (here : w.disk.nodeAt w.cwd = some .directory) :
    Along (fun d => Roomier w.disk d ∧ Grows d (w.housed p).disk) w (w.housed p) := by
  have hroomier : Along (Roomier w.disk) w (w.housed p) :=
    (createParents_along (w := w) (p := p) (Roomier.refl hwf)
      fun _ _ _ _ _ _ hd he => hd.makeDirectory here he).1
  have hgrows : Along (fun d => Disk.Grows d (w.housed p).disk) w (w.housed p) :=
    createParents_grows (p := p)
  exact hroomier.and hgrows

end Action

namespace Download

open Provision.Action World Disk

variable {σ : Type} {net : Network σ} {policy : RetryPolicy} {url dest p : String}
  {w v : World σ} {ts : List (Try σ)} {r : Except Failure Unit}

/-- How a download goes: the directory above the destination cannot be made, or attempts are. -/
inductive Fetched (net : Network σ) (policy : RetryPolicy) (url dest : String) (w : World σ) :
    List (Try σ) → Except Failure Unit → World σ → Prop where
  | unhoused {e : Failure} (making : ((createParents dest).run.run w).1 = .error e) :
    Fetched net policy url dest w [] (.error e) (w.housed dest)
  | housed {ts : List (Try σ)} {r : Except Failure Unit} {v : World σ}
      (making : ((createParents dest).run.run w).1 = .ok ())
      (course : Course net policy url dest 0 (w.housed dest) ts r v) :
    Fetched net policy url dest w ts r v

theorem fetch_fetched (hmax : policy.maxRetries.toNat < 2 ^ 32 - 1) :
    Ends (fetch net policy url dest) w fun r v => ∃ ts, Fetched net policy url dest w ts r v := by
  refine Ends.bind (Ends.intro fun r v hr => ?_)
  obtain ⟨hmaking, rfl⟩ := Prod.mk.inj hr
  cases r with
  | error e => exact ⟨[], .unhoused hmaking⟩
  | ok _ =>
    refine (attempt_course hmax).mono fun r u h => ?_
    obtain ⟨ts, hts⟩ := h
    exact ⟨ts, .housed hmaking hts⟩

/-- Directories that are made above a destination bring nothing to a path. -/
def Undisturbed (w : World σ) (dest p : String) : Prop :=
  w.disk.entry w.cwd p = none → (w.housed dest).disk.entry w.cwd p = none

/-- The destination is as it was, or it holds an answer to an attempt, whole; it holds the answer to
the last attempt where the download succeeds, and is as it was where the download fails, but for a
failure to move what has come. A temporary file stays only where it was from the start and cannot be
removed. -/
structure Atomic (net : Network σ) (url dest : String) (w : World σ) (ts : List (Try σ))
    (r : Except Failure Unit) (v : World σ) : Prop where
  always : Along (fun d => d.entry w.cwd dest = w.disk.entry w.cwd dest ∨
    ∃ t ∈ ts, ∃ body, Received net url t.start body ∧ d.Holds w.cwd dest body) w v
  success : r = .ok () → ∃ t body, ts.getLast? = some t ∧ t.result = .ok body.length ∧
    Received net url t.start body ∧ v.disk.Holds w.cwd dest body ∧
      v.disk.entry w.cwd (tempPath dest) = none
  failure : ∀ e, r = .error e → (∃ x, e = .step (.rename (tempPath dest) dest) (.disk x)) ∨
    v.disk.entry w.cwd dest = w.disk.entry w.cwd dest ∧
      (v.disk.entry w.cwd (tempPath dest) = none ∨ w.disk.Locked w.cwd (tempPath dest)) ∧
        ((∃ q x, parent? dest = some q ∧ e = .step (.createDirectory q) (.disk x)) ∨
          ∃ t, ts.getLast? = some t ∧ t.result = .error e)

theorem entry_housed (hwf : w.disk.WellFormed) (here : w.disk.nodeAt w.cwd = some .directory)
    (h : Undisturbed w dest p) :
    Along (fun d => d.entry w.cwd p = w.disk.entry w.cwd p) w (w.housed dest) := by
  have hall := createParents_roomier (p := dest) hwf here
  refine hall.mono fun d hd => ?_
  obtain ⟨hd, hend⟩ := hd
  cases hw : w.disk.entry w.cwd p with
  | some x => exact entry_of_grows hd.grows hd.files hw
  | none =>
    cases hx : d.entry w.cwd p with
    | none => rfl
    | some x =>
      have hlast := entry_of_grows hend (hall.now.1.files.trans hd.files.symm) hx
      rw [h hw] at hlast
      cases hlast

theorem Course.atomic_of_stuck {made : UInt32} {e : DiskError}
    (h : Course net policy url dest made w ts r v)
    (hslot : w.disk.slot w.cwd (tempPath dest) = .error e) : Atomic net url dest w ts r v := by
  have honce : ∀ u, u.cwd = w.cwd → u.disk = w.disk → Ends (once net url (tempPath dest)) u
      fun r v => Along (· = w.disk) u v ∧ ∀ n, r ≠ .ok n :=
    fun u hu hd => once_stuck (hu ▸ hslot) hd
  have hunlink : ∀ d d', d = w.disk → d.unlink w.cwd (tempPath dest) = .ok d' → d' = w.disk := by
    rintro d d' rfl hd
    obtain ⟨s, X, n, hs, -⟩ := unlink_eq_ok hd
    cases hs.symm.trans hslot
  obtain ⟨t, made, ht, hmade, hstart, hfinish, hend⟩ :=
    h.keeps (I := (· = w.disk)) rfl rfl (fun u hu hd => (honce u hu hd).mono fun _ _ h => h.1) hunlink
  have hnot := ((honce t.start hstart.cwd hstart.now).of_run hmade).2
  cases hend with
  | moved whole moving => exact absurd whole (hnot _)
  | unmoved whole moving => exact absurd whole (hnot _)
  | failed failure last =>
    have hall := along_cleared (hstart.trans hfinish) rfl hunlink
    refine ⟨hall.mono fun d hd => .inl (by rw [hd]), nofun, fun f hf => .inr ?_⟩
    obtain rfl := Except.error.inj hf
    refine ⟨by rw [hall.now], .inl ?_, .inr ⟨t, ht, failure⟩⟩
    rw [hall.now]
    exact entry_of_slot_error hslot

theorem Course.atomic {made : UInt32} (h : Course net policy url dest made w ts r v)
    (hwf : w.disk.WellFormed) (here : w.disk.nodeAt w.cwd = some .directory)
    (hdest : w.disk.Vacant w.cwd dest) (htemp : w.disk.Exclusive w.cwd (tempPath dest)) :
    Atomic net url dest w ts r v := by
  cases hslot : w.disk.slot w.cwd (tempPath dest) with
  | error e => exact h.atomic_of_stuck hslot
  | ok sl =>
    obtain ⟨X, x, hbeside⟩ := exists_beside hslot hdest htemp
    have hX := hwf.slot here hbeside.temp
    have honce : ∀ u, u.cwd = w.cwd → Staged w.disk (x :: X) u.disk →
        Ends (once net url (tempPath dest)) u fun r v => Along (Staged w.disk (x :: X)) u v ∧
          ∀ n, r = .ok n → ∃ body, Received net url u body ∧
            (∃ id, Filled v.disk (x :: X) id body) ∧ n = body.length :=
      fun u hu hd => once_staged hbeside.alone hX (hu ▸ hbeside.temp) hd
    have hunlink : ∀ d d', Staged w.disk (x :: X) d → d.unlink w.cwd (tempPath dest) = .ok d' →
        Staged w.disk (x :: X) d' := fun d d' hd h => ((hbeside.unlinked hd).1 d' h).1
    -- Only the temporary file has changed until the last attempt is over.
    obtain ⟨t, made, ht, hmade, hstart, hfinish, hend⟩ := h.keeps (.refl hwf hbeside.alone) rfl
      (fun u hu hd => (honce u hu hd).mono fun _ _ h => h.1) hunlink
    have hbody := ((honce t.start hstart.cwd hstart.now).of_run hmade).2
    have hall := hstart.trans hfinish
    cases hend with
    | @moved size d whole moving =>
      obtain ⟨body, hreceived, ⟨id, hfilled⟩, rfl⟩ := hbody size whole
      rw [hall.cwd] at moving
      obtain ⟨hholds, hgone⟩ := hbeside.moved hall.now hfilled moving
      refine ⟨?_, fun _ => ⟨t, body, ht, whole, hreceived, hholds, hgone⟩, nofun⟩
      refine Along.quiet (Along.changed ?_ (.inr ⟨t, List.mem_of_getLast? ht, body, hreceived,
        hholds⟩)) ((Quiet.refl _).told _)
      exact hall.mono fun d hd => .inl (hbeside.entry hd)
    | unmoved whole moving =>
      refine ⟨hall.mono fun d hd => .inl (hbeside.entry hd), nofun, fun f hf => .inl ?_⟩
      exact ⟨_, (Except.error.inj hf).symm⟩
    | failed failure last =>
      have hcleared := along_cleared hall rfl hunlink
      have hgone : (cleared (tempPath dest) t.finish).disk.entry w.cwd (tempPath dest) = none ∨
          w.disk.Locked w.cwd (tempPath dest) := by
        have hunlinked := hbeside.unlinked hall.now
        rw [← hall.cwd] at hunlinked ⊢
        refine Runs.change (Q := fun _ u => u.disk.entry t.finish.cwd (tempPath dest) = none ∨
          w.disk.Locked t.finish.cwd (tempPath dest)) ?_ ?_
        · exact fun d hd => .inl (hunlinked.1 d hd).2
        · exact hunlinked.2
      refine ⟨hcleared.mono fun d hd => .inl (hbeside.entry hd), nofun, fun f hf => .inr ?_⟩
      obtain rfl := Except.error.inj hf
      exact ⟨hbeside.entry hcleared.now, hgone, .inr ⟨t, ht, failure⟩⟩

theorem undisturbed_of_below (hwf : w.disk.WellFormed) (here : w.disk.nodeAt w.cwd = some .directory)
    (hup : ".." ∉ segments p) (habs : dest ≠ "" → isAbsolute p = isAbsolute dest)
    (hbelow : (segments dest).dropLast <+: (segments p).dropLast) : Undisturbed w dest p := by
  intro hw
  let I (d : Disk) : Prop :=
    d.WellFormed ∧ d.nodeAt w.cwd = some .directory ∧ d.entry w.cwd p = none
  refine (createParents_along (w := w) (p := dest) (I := I) ⟨hwf, here, hw⟩ ?_).1.now.2.2
  rintro q hq hqabs ⟨t, ht⟩ d d' ⟨hd, hc, -⟩ hmake
  obtain ⟨s, X, b, hslot, -⟩ := makeDirectory_eq_ok hmake
  obtain ⟨-, -, -, us, hus, -⟩ := slot_segments hslot
  have hqne : q ≠ "" := by
    rintro rfl
    simp at hus
  obtain ⟨vs, hvs⟩ := hq.trans (hbelow.trans (List.dropLast_prefix _))
  have hvsne : vs ≠ [] := by
    rintro rfl
    have hle := (hq.trans hbelow).length_le
    have hlen := congrArg List.length hvs
    simp only [hus, List.length_dropLast, List.length_append, List.length_cons, List.length_nil]
      at hle hlen
    omega
  have hvsup : ".." ∉ vs := fun hm => hup (hvs ▸ List.mem_append_right _ hm)
  have hpabs : isAbsolute p = isAbsolute q := by
    rw [hqabs, habs]
    rintro rfl
    obtain ⟨hempty, -⟩ : q = "" ∧ t = "" := by simpa using ht.symm
    exact hqne hempty
  refine ⟨hd.makeDirectory hc hmake, makeDirectory_grows hmake _ _ hc, ?_⟩
  refine entry_eq_none_iff.2 fun l n hl => ?_
  have hnone := absent_of_makeDirectory hd hmake hvs.symm hvsne hvsup hpabs _ _ hl
  cases hnone

theorem undisturbed_of_no_parent (hwf : w.disk.WellFormed)
    (here : w.disk.nodeAt w.cwd = some .directory) (hup : ".." ∉ segments dest) :
    Undisturbed w dest dest ∧ Undisturbed w dest (tempPath dest) := by
  refine ⟨undisturbed_of_below hwf here hup (fun _ => rfl) List.prefix_rfl, ?_⟩
  obtain ⟨ws, t, ht, hbelow, hws, hne⟩ := segments_tempPath dest
  refine undisturbed_of_below hwf here ?_ isAbsolute_tempPath ?_
  · rw [ht, List.mem_append, List.mem_singleton]
    exact not_or.2 ⟨fun hm => hup (hws.subset hm), Ne.symm hne⟩
  · rwa [ht, List.dropLast_concat]

theorem undisturbed_of_isDir (h : ∀ q, parent? dest = some q → q = "" ∨ w.isDir q = true) :
    Undisturbed w dest p := by
  have hsame : w.housed dest = w := by
    cases hq : parent? dest with
    | none => simp only [World.housed, createParents, hq]; rfl
    | some q =>
      have hmade := createDirectories_of_isDir (h q hq)
      simp only [World.housed, createParents, hq]
      exact hmade.2
  rw [Undisturbed, hsame]
  exact id

theorem vacant_housed (hwf : w.disk.WellFormed) (here : w.disk.nodeAt w.cwd = some .directory)
    (h : Undisturbed w dest p) (hp : w.disk.Vacant w.cwd p) :
    (w.housed dest).disk.Vacant w.cwd p := by
  rw [vacant_iff] at hp ⊢
  rw [(entry_housed hwf here h).now]
  exact hp

theorem exclusive_housed (hwf : w.disk.WellFormed) (here : w.disk.nodeAt w.cwd = some .directory)
    (h : Undisturbed w dest p) (hp : w.disk.Exclusive w.cwd p) :
    (w.housed dest).disk.Exclusive w.cwd p := by
  have hroom := (createParents_roomier (p := dest) hwf here).now.1
  intro l n hl
  cases hw : w.disk.entry w.cwd p with
  | none => exact absurd hl (entry_eq_none_iff.1 (h hw) l n)
  | some x =>
    simp only [entry] at hw
    split at hw
    · rename_i l' n' hl'
      obtain ⟨rfl, rfl⟩ : l' = l ∧ n' = n := by
        simpa using (hroom.grows.locate hl').symm.trans hl
      obtain ⟨id, rfl, hone⟩ := hp _ _ hl'
      obtain ⟨hthere, -⟩ := (locate_node hl').resolve_left (by simp)
      have honly := (linkCount_eq_one_iff hthere).1 hone
      refine ⟨id, rfl, (linkCount_eq_one_iff (hroom.grows _ _ hthere)).2 fun m hm => ?_⟩
      exact honly m ((hroom.new hm).resolve_right (by simp))
    · cases hw

theorem locked_of_housed (hwf : w.disk.WellFormed) (here : w.disk.nodeAt w.cwd = some .directory)
    (hup : Undisturbed w dest p) (h : (w.housed dest).disk.Locked w.cwd p) :
    w.disk.Locked w.cwd p := by
  obtain ⟨X, s, hslot, hthere, hmay⟩ := h
  have hroom := (createParents_roomier (p := dest) hwf here).now.1
  have hentry := entry_of_slot hslot
  cases hw : w.disk.entry w.cwd p with
  | none =>
    rw [hup hw, eq_comm, Option.map_eq_none_iff] at hentry
    exact absurd hentry hthere
  | some x =>
    cases hsl : w.disk.slot w.cwd p with
    | error e => simp [entry_of_slot_error hsl] at hw
    | ok sl =>
      obtain rfl := Except.ok.inj ((hroom.grows.keeps.slot hsl).symm.trans hslot)
      refine ⟨X, s, hsl, fun hn => ?_, ?_⟩
      · simp [entry_of_slot hsl, hn] at hw
      · rw [← hmay]
        exact mayWrite_congr (by simp [modeAt, hroom.modes])

/-- A download is atomic, and leaves no temporary file behind where it does not fail to move it. -/
theorem fetch_atomic (hwf : w.disk.WellFormed) (here : w.disk.nodeAt w.cwd = some .directory)
    (hmax : policy.maxRetries.toNat < 2 ^ 32 - 1) (hdest : w.disk.Vacant w.cwd dest)
    (htemp : w.disk.Exclusive w.cwd (tempPath dest)) (hdestUp : Undisturbed w dest dest)
    (htempUp : Undisturbed w dest (tempPath dest)) :
    Ends (fetch net policy url dest) w fun r v => ∃ ts,
      Fetched net policy url dest w ts r v ∧ Atomic net url dest w ts r v := by
  refine fetch_fetched hmax |>.mono fun r v hts => ?_
  obtain ⟨ts, hts⟩ := hts
  refine ⟨ts, hts, ?_⟩
  have hbefore := entry_housed hwf here hdestUp
  have hroom := (createParents_roomier (p := dest) hwf here).now.1
  cases hts with
  | @unhoused e making =>
    refine ⟨hbefore.mono fun _ => .inl, nofun, fun f hf => .inr ⟨hbefore.now, .inl ?_, .inl ?_⟩⟩
    all_goals obtain ⟨q, x, hq, he, hne, hdir⟩ := createParents_failed (p := dest) (w := w) e making
    · cases hslot : (w.housed dest).disk.slot w.cwd (tempPath dest) with
      | error _ => exact entry_of_slot_error hslot
      | ok sl =>
        obtain h | h := isDir_of_slot_tempPath hslot hq
        · exact absurd h hne
        · rw [← hbefore.cwd] at h
          exact absurd (h.symm.trans hdir) (by simp)
    · exact ⟨q, x, hq, (Except.error.inj hf).symm.trans he⟩
  | housed making course =>
    have hcwd := hbefore.cwd
    have hatomic := course.atomic hroom.wellFormed (hcwd ▸ hroom.grows _ _ here)
      (hcwd ▸ vacant_housed hwf here hdestUp hdest) (hcwd ▸ exclusive_housed hwf here htempUp htemp)
    obtain ⟨always, success, failure⟩ := hatomic
    rw [hcwd, hbefore.now] at always failure
    rw [hcwd] at success
    refine ⟨(hbefore.mono fun _ => .inl).trans always, success, fun e he => ?_⟩
    exact (failure e he).imp_right fun ⟨hsame, hgone, herror⟩ =>
      ⟨hsame, hgone.imp_right (locked_of_housed hwf here htempUp), herror⟩

section Trial

def answering (status : Nat) (chunks : List Bytes) : Network Unit where
  respond _ := return .answer status chunks true
  draw _ := return 0

theorem fetch_atomic_fresh :
    let w : World Unit := .fresh ["home"] "" ()
    let net := answering 200 [[1, 2], [3]]
    (w.disk.entry w.cwd "cache/a.tar.xz" = none ∧ w.disk.entry w.cwd "cache/a.tar.xz.tmp" = none) ∧
      Ends (fetch net .none "http://host/a" "cache/a.tar.xz") w fun r v => ∃ ts,
        Fetched net .none "http://host/a" "cache/a.tar.xz" w ts r v ∧
          Atomic net "http://host/a" "cache/a.tar.xz" w ts r v := by
  intro w net
  have hwf : w.disk.WellFormed := wellFormed_ofDirectory ["home"]
  have hdest : w.disk.entry w.cwd "cache/a.tar.xz" = none := by decide +kernel
  have htemp : w.disk.entry w.cwd "cache/a.tar.xz.tmp" = none := by decide +kernel
  have hup : Undisturbed w "cache/a.tar.xz" "cache/a.tar.xz" ∧
      Undisturbed w "cache/a.tar.xz" (tempPath "cache/a.tar.xz") :=
    undisturbed_of_no_parent hwf rfl (by decide +kernel)
  exact ⟨⟨hdest, htemp⟩, fetch_atomic hwf rfl (by decide) (vacant_of_none hdest)
    (exclusive_of_none htemp) hup.1 hup.2⟩

def withFile (name : String) : World Unit :=
  let w := World.fresh ["home"] "" ()
  { w with disk := (w.disk.addFile [name, "home"] ⟨Disk.plainMode, .data []⟩).1 }

theorem wellFormed_withFile (name : String) : (withFile name).disk.WellFormed := by
  refine (wellFormed_ofDirectory ["home"]).addFile rfl ?_
  rw [nodeAt_ofDirectory, if_neg]
  · simp
  · intro h
    exact absurd h.length_le (by simp)

/-- Where no directory can be made above the destination there is no attempt to fail; a destination
that goes up from a missing directory is found once that is made; and in a directory that may not be
written an old temporary file stays. -/
theorem not_atomic_unhoused :
    (¬ ∀ (net : Network Unit) (policy : RetryPolicy) (url dest : String) (w : World Unit),
      w.disk.WellFormed → w.disk.nodeAt w.cwd = some .directory →
      policy.maxRetries.toNat < 2 ^ 32 - 1 → w.disk.Vacant w.cwd dest →
      w.disk.Exclusive w.cwd (tempPath dest) → Ends (fetch net policy url dest) w fun r v =>
        ∃ ts, Fetched net policy url dest w ts r v ∧ ∀ e, r = .error e →
          (∃ x, e = .step (.rename (tempPath dest) dest) (.disk x)) ∨
            ∃ t, ts.getLast? = some t ∧ t.result = .error e) ∧
    (¬ ∀ (net : Network Unit) (policy : RetryPolicy) (url dest : String) (w : World Unit),
      w.disk.WellFormed → w.disk.nodeAt w.cwd = some .directory →
      policy.maxRetries.toNat < 2 ^ 32 - 1 → w.disk.Vacant w.cwd dest →
      w.disk.Exclusive w.cwd (tempPath dest) → Ends (fetch net policy url dest) w fun r v =>
        ∀ e, r = .error e → (∃ x, e = .step (.rename (tempPath dest) dest) (.disk x)) ∨
          v.disk.entry w.cwd dest = w.disk.entry w.cwd dest) ∧
    ¬ ∀ (net : Network Unit) (policy : RetryPolicy) (url dest : String) (w : World Unit),
      w.disk.WellFormed → w.disk.nodeAt w.cwd = some .directory →
      policy.maxRetries.toNat < 2 ^ 32 - 1 → w.disk.Vacant w.cwd dest →
      w.disk.Exclusive w.cwd (tempPath dest) → Ends (fetch net policy url dest) w fun r v =>
        ∀ e, r = .error e → (∃ x, e = .step (.rename (tempPath dest) dest) (.disk x)) ∨
          v.disk.entry w.cwd (tempPath dest) = none := by
  refine ⟨?_, ?_, ?_⟩
  · intro h
    have hends := h (answering 404 []) .none "http://host/a" "x/y" (withFile "x")
      (wellFormed_withFile "x") rfl (by decide) (vacant_of_none (by decide +kernel))
      (exclusive_of_none (by decide +kernel))
    have hmake : ((createParents "x/y").run.run (withFile "x")).1 =
      .error (.step (.createDirectory "x") (.disk .alreadyExists)) := by decide +kernel
    obtain ⟨r, v, hrun⟩ : ∃ r v, (fetch (answering 404 []) .none "http://host/a" "x/y").run.run
      (withFile "x") = (r, v) := ⟨_, _, rfl⟩
    obtain ⟨ts, hts, hr⟩ := hends.of_run hrun
    cases hts with
    | unhoused making =>
      obtain rfl := Except.error.inj (making.symm.trans hmake)
      obtain ⟨x, hx⟩ | ⟨t, ht, -⟩ := hr _ rfl
      · cases hx
      · cases ht
    | housed making course => cases making.symm.trans hmake
  · intro h
    have hends := h (answering 404 []) .none "http://host/a" "a/../f" (withFile "f")
      (wellFormed_withFile "f") rfl (by decide) (vacant_of_none (by decide +kernel))
      (exclusive_of_none (by decide +kernel))
    obtain ⟨x, hx⟩ | hsame := hends
      (.downloadFailed (.badStatus "http://host/a" 404 "Not Found")) (by decide +kernel)
    · cases hx
    · exact absurd hsame (by decide +kernel)
  · intro h
    have hwf := (wellFormed_withFile "a.tmp").setModeAt (X := ["home"]) rfl 0o555
    have hthere : (withFile "a.tmp").disk.locate ["home"] false "a.tmp" =
      .ok ⟨["a.tmp", "home"], some (.file 0)⟩ := by decide +kernel
    have hends := h (answering 404 []) .none "http://host/a" "a"
      { withFile "a.tmp" with disk := (withFile "a.tmp").disk.setModeAt ["home"] 0o555 }
      hwf rfl (by decide) (vacant_of_none (by decide +kernel)) (by
        intro l n hl
        obtain ⟨rfl, rfl⟩ : ["a.tmp", "home"] = l ∧ .file 0 = n := by simpa using hthere.symm.trans hl
        exact ⟨0, rfl, by decide +kernel⟩)
    obtain ⟨x, hx⟩ | hgone := hends
      (.downloadFailed (.badStatus "http://host/a" 404 "Not Found")) (by decide +kernel)
    · cases hx
    · exact absurd hgone (by decide +kernel)

end Trial

end Download
end Provision
