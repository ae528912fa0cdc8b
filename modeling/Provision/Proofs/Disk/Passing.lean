import Provision.Proofs.Disk.Effect

/-!
What a walk looks at: the entries that it passes, behind symbolic links too. As long as these are as
they were, it leads where it did; where one of them is gone, it leads nowhere.
-/

namespace Provision.Disk

open PathText

variable {d d' : Disk} {k : Nat} {cwd X Y l : Location} {ws : List String} {p s : String}

def pace (d : Disk) (beyond : Location → String → List String → List Location) (here : Location) :
    List String → List Location
  | [] => []
  | s :: r =>
    if s = "." then d.pace beyond here r
    else if s = ".." then d.pace beyond here.tail r
    else (s :: here) :: match d.nodeAt (s :: here) with
      | some .directory => d.pace beyond (s :: here) r
      | some (.symlink t) => beyond here t r
      | _ => []

/-- The entries that a walk passes, in their order, and the one at which it cannot go on. -/
def passed (d : Disk) : Nat → Location → List String → List Location
  | 0 => d.pace fun _ _ _ => []
  | links + 1 => d.pace fun here t r =>
      d.passed links (if isAbsolute t then [] else here) (steps t ++ r)

def above (d : Disk) (cwd : Location) (p : String) : List Location :=
  d.passed maxLinks (origin cwd p) (names p).dropLast

@[simp] theorem passed_nil (d : Disk) (k : Nat) (X : Location) : d.passed k X [] = [] := by
  cases k <;> rfl

@[simp] theorem passed_current (d : Disk) (k : Nat) (X : Location) (r : List String) :
    d.passed k X ("." :: r) = d.passed k X r := by
  cases k <;> simp [passed, pace]

@[simp] theorem passed_parent (d : Disk) (k : Nat) (X : Location) (r : List String) :
    d.passed k X (".." :: r) = d.passed k X.tail r := by
  cases k <;> simp [passed, pace]

theorem passed_name (d : Disk) (k : Nat) (X : Location) {s : String} (r : List String)
    (hc : s ≠ ".") (hu : s ≠ "..") :
    d.passed k X (s :: r) = (s :: X) :: match d.nodeAt (s :: X), k with
      | some .directory, k => d.passed k (s :: X) r
      | some (.symlink t), k + 1 =>
        d.passed k (if isAbsolute t then [] else X) (steps t ++ r)
      | _, _ => [] := by
  cases k with
  | zero =>
    simp only [passed, pace, hc, hu, ↓reduceIte]
    cases d.nodeAt (s :: X) with
    | none => rfl
    | some n => cases n <;> rfl
  | succ k =>
    simp only [passed, pace, hc, hu, ↓reduceIte]
    cases d.nodeAt (s :: X) with
    | none => rfl
    | some n => cases n <;> rfl

theorem reach_congr (h : ∀ l ∈ d.passed k X ws, d'.nodeAt l = d.nodeAt l) :
    d'.reach k X ws = d.reach k X ws ∧ d'.passed k X ws = d.passed k X ws := by
  induction k, X, ws using walk_induction with
  | nil k X => simp
  | current k X r ih => simpa using ih (by simpa using h)
  | parent k X r ih => simpa using ih (by simpa using h)
  | name k X s r hc hu ih ihl =>
    rw [passed_name d k X r hc hu, List.forall_mem_cons] at h
    obtain ⟨hnode, hrest⟩ := h
    rw [reach_name d' k X r hc hu, reach_name d k X r hc hu, passed_name d' k X r hc hu,
      passed_name d k X r hc hu, hnode]
    cases hn : d.nodeAt (s :: X) with
    | none => simp
    | some n =>
      rw [hn] at hrest
      cases n with
      | directory => simp [ih hrest]
      | file id => simp
      | symlink t =>
        cases k with
        | zero => simp
        | succ k => simp [ihl k _ (steps t) rfl hrest]

theorem not_reach (hl : l ∈ d.passed k X ws) (hrest : ∀ m, m ≠ l → d'.nodeAt m = d.nodeAt m)
    (hgone : d'.nodeAt l = none) (r : Location × Nat) : d'.reach k X ws ≠ .ok r := by
  induction k, X, ws using walk_induction with
  | nil k X => simp at hl
  | current k X vs ih => simpa using ih (by simpa using hl)
  | parent k X vs ih => simpa using ih (by simpa using hl)
  | name k X s vs hc hu ih ihl =>
    intro h
    rw [reach_name d' k X vs hc hu] at h
    split at h
    · cases h
    by_cases hhere : s :: X = l
    · simp [hhere, hgone] at h
    rw [passed_name d k X vs hc hu] at hl
    have hl := (List.mem_cons.1 hl).resolve_left (Ne.symm hhere)
    rw [hrest _ hhere] at h
    cases hn : d.nodeAt (s :: X) with
    | none => simp [hn] at h
    | some n =>
      rw [hn] at h hl
      cases n with
      | directory => exact ih hl h
      | file id => simp at h
      | symlink t =>
        cases k with
        | zero => simp at h
        | succ k => exact ihl k _ (steps t) rfl hl h

theorem slot_congr {sl : Slot} (hp : d.slot cwd p = .ok sl)
    (h : ∀ l ∈ d.above cwd p, d'.nodeAt l = d.nodeAt l) : d'.slot cwd p = .ok sl := by
  have hu := usable_of_slot hp
  rw [slot_of_usable d cwd hu] at hp
  rw [slot_of_usable d' cwd hu, (reach_congr h).1]
  exact hp

theorem not_slot (hl : l ∈ d.above cwd p) (hrest : ∀ m, m ≠ l → d'.nodeAt m = d.nodeAt m)
    (hgone : d'.nodeAt l = none) (sl : Slot) : d'.slot cwd p ≠ .ok sl := by
  intro h
  rw [slot_of_usable d' cwd (usable_of_slot h)] at h
  cases hr : d'.reach maxLinks (origin cwd p) (names p).dropLast with
  | error e => simp [hr, bind, Except.bind] at h
  | ok r => exact not_reach hl hrest hgone r hr

theorem nodeAt_of_mem_above {sl : Slot} (hp : d.slot cwd p = .ok sl) (hl : l ∈ d.above cwd p) :
    d.nodeAt l ≠ none :=
  fun hnone => not_slot hl (fun _ _ => rfl) hnone sl hp

end Provision.Disk
