import Provision.Extraction.Tar
import Provision.Proofs.Extraction.Confinement
import Provision.Proofs.Extraction.Planting

namespace Provision.Tarball

open PathText Provision.Action World Disk Item

variable {σ : Type} {w : World σ} {P : Disk} {D : Location} {dest : String} {is : List Item}
  {i : Item} {e : TarEntry} {es : List TarEntry}

def pieceOf (e : TarEntry) : Piece :=
  if e.isOldDirectory then .directory (some (e.mode &&& 0o777))
  else match e.kind with
    | .directory => .directory none
    | .symlink => .symlink e.link
    | .hardLink => .hardLink ((segments e.link).drop 1)
    | .globalHeader => .nothing
    | _ => .file ⟨e.mode &&& 0o777, .data e.data⟩

@[simp] theorem isDirectory_pieceOf (e : TarEntry) : (pieceOf e).isDirectory = e.isDirectory := by
  simp only [pieceOf, TarEntry.isDirectory]
  split
  · simp [*]
  · cases e.kind <;> simp [*]

theorem isOldDirectory_of_kind (hk : e.kind = .directory ∨ e.kind = .hardLink ∨ e.kind = .symlink) :
    e.isOldDirectory = false := by
  obtain hk | hk | hk := hk <;> simp [TarEntry.isOldDirectory, hk]

def item? (e : TarEntry) : Option Item :=
  if placeOf e = [] then none else some ⟨placeOf e, pieceOf e⟩

def tree (es : List TarEntry) : List Item := es.filterMap item?

theorem item?_eq_some : item? e = some i ↔ placeOf e ≠ [] ∧ i = ⟨placeOf e, pieceOf e⟩ := by
  by_cases h : placeOf e = []
  · simp [item?, h]
  · rw [item?, if_neg h, Option.some.injEq]
    exact ⟨fun hi => ⟨h, hi.symm⟩, fun hi => hi.2.symm⟩

theorem tree_cons (e : TarEntry) (es : List TarEntry) :
    tree (e :: es) = (item? e).toList ++ tree es := by
  cases h : item? e <;> simp [tree, h]

structure Ready (P : Disk) (dest : String) (D : Location) (is : List Item) (e : TarEntry) :
    Prop where
  intact : e.sound = true ∧ e.isCut = false
  safe : EntryPath.isSafe e.name = true
  next : ∀ i, item? e = some i → Next P dest D is i
  symlink : placeOf e ≠ [] → e.kind = .symlink → e.link ≠ "" ∧ e.link.utf8ByteSize < maxPath
  hardLink : placeOf e ≠ [] → e.kind = .hardLink → EntryPath.isSafe e.link = true

def writeEntry (dest : String) (e : TarEntry) : Action σ Unit :=
  let p := pathBelow dest (placeOf e)
  if e.kind = .directory then createDirectories p
  else if e.kind = .hardLink then linkFile (pathBelow dest ((segments e.link).drop 1)) p
  else do
    createParents p
    unpack e p

section

variable (hsafe : EntryPath.isSafe e.name = true)
include hsafe

theorem extractEntry_root (hplace : placeOf e = []) :
    extractEntry (σ := σ) dest e = pure false := by
  have hstrip : EntryPath.stripFirst? e.name = none := by
    rw [EntryPath.stripFirst?_safe hsafe]
    exact if_pos hplace
  simp only [extractEntry, requireSafe, hsafe, hstrip, ↓reduceIte, pure_bind]

theorem extractEntry_safe (hplace : placeOf e ≠ []) (hlink : e.kind = .hardLink →
      EntryPath.isSafe e.link = true ∧ (segments e.link).drop 1 ≠ []) :
    extractEntry (σ := σ) dest e = do
      writeEntry dest e
      return true := by
  have hstrip : EntryPath.stripFirst? e.name = some ("/".intercalate (placeOf e)) := by
    rw [EntryPath.stripFirst?_safe hsafe]
    exact if_neg hplace
  simp only [extractEntry, requireSafe, hsafe, hstrip, writeEntry, pathBelow, ↓reduceIte, pure_bind]
  split
  · rfl
  split
  · obtain ⟨hl, hne⟩ := hlink ‹_›
    have hempty : e.link ≠ "" := by
      intro h
      simp [h] at hne
    have htarget : EntryPath.stripFirst? e.link =
        some ("/".intercalate ((segments e.link).drop 1)) := by
      rw [EntryPath.stripFirst?_safe hl]
      exact if_neg hne
    simp only [hempty, hl, htarget, ↓reduceIte, pure_bind]
  · simp only [bind_assoc]

end

theorem pieceOf_hardLink (hk : e.kind = .hardLink) :
    pieceOf e = .hardLink ((segments e.link).drop 1) := by
  simp [pieceOf, isOldDirectory_of_kind, hk]

section

variable (he : Ready P dest D is e) (ho : Orderly is) (hi : item? e = some i)
include he ho hi

theorem Ready.linked (hk : e.kind = .hardLink) :
    ∃ j ∈ is, j.place = (segments e.link).drop 1 ∧ j.piece.isFile = true ∧ j.place ≠ [] := by
  obtain ⟨-, rfl⟩ := item?_eq_some.1 hi
  obtain ⟨j, hj, hplace, hfile⟩ := (he.next _ hi).fits.target _ (pieceOf_hardLink hk)
  obtain ⟨js, hfits⟩ := ho.fits hj
  exact ⟨j, hj, hplace, hfile, hfits.ne_nil⟩

theorem Ready.extractEntry_eq : extractEntry (σ := σ) dest e = do
    writeEntry dest e
    return true := by
  have hne := (item?_eq_some.1 hi).1
  refine extractEntry_safe he.safe hne fun hk => ⟨he.hardLink hne hk, ?_⟩
  obtain ⟨j, -, hplace, -, hj⟩ := he.linked ho hi hk
  rwa [← hplace]

end

end Provision.Tarball
