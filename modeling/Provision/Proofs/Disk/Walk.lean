import Provision.Disk.Lookup
import Provision.Proofs.Path.Segments

/-!
Walks in parts. `reach` is a walk that has to end at a directory and tells how many symbolic links
may still be followed, so that another walk can go on from there.
-/

namespace Provision.Disk

variable {d d' : Disk} {k j : Nat} {X Y : Location} {ws vs : List String}

def stride (d : Disk) (beyond : Location → String → List String → Except DiskError (Location × Nat))
    (links : Nat) (here : Location) : List String → Except DiskError (Location × Nat)
  | [] => .ok (here, links)
  | s :: r =>
    if s = "." then d.stride beyond links here r
    else if s = ".." then d.stride beyond links here.tail r
    else if maxName < s.utf8ByteSize then .error .nameTooLong
    else match d.nodeAt (s :: here) with
      | none => .error .notFound
      | some .directory => d.stride beyond links (s :: here) r
      | some (.file _) => .error .notADirectory
      | some (.symlink t) => beyond here t r

/-- The directory that segments lead to, and the number of links left. -/
def reach (d : Disk) : Nat → Location → List String → Except DiskError (Location × Nat)
  | 0 => d.stride (fun _ _ _ => .error .symlinkLoop) 0
  | links + 1 => d.stride (fun here t r =>
      d.reach links (if PathText.isAbsolute t then [] else here) (steps t ++ r)) (links + 1)

@[simp] theorem reach_nil (d : Disk) (k : Nat) (X : Location) : d.reach k X [] = .ok (X, k) := by
  cases k <;> rfl

@[simp] theorem reach_current (d : Disk) (k : Nat) (X : Location) (r : List String) :
    d.reach k X ("." :: r) = d.reach k X r := by
  cases k <;> simp [reach, stride]

@[simp] theorem reach_parent (d : Disk) (k : Nat) (X : Location) (r : List String) :
    d.reach k X (".." :: r) = d.reach k X.tail r := by
  cases k <;> simp [reach, stride]

theorem reach_name (d : Disk) (k : Nat) (X : Location) {s : String} (r : List String)
    (hc : s ≠ ".") (hu : s ≠ "..") :
    d.reach k X (s :: r) =
      if maxName < s.utf8ByteSize then .error .nameTooLong
      else match d.nodeAt (s :: X), k with
        | none, _ => .error .notFound
        | some .directory, k => d.reach k (s :: X) r
        | some (.file _), _ => .error .notADirectory
        | some (.symlink _), 0 => .error .symlinkLoop
        | some (.symlink t), k + 1 =>
          d.reach k (if PathText.isAbsolute t then [] else X) (steps t ++ r) := by
  cases k with
  | zero =>
    simp only [reach, stride, hc, hu, ↓reduceIte]
    cases d.nodeAt (s :: X) with
    | none => rfl
    | some n => cases n <;> rfl
  | succ k =>
    simp only [reach, stride, hc, hu, ↓reduceIte]
    cases d.nodeAt (s :: X) with
    | none => rfl
    | some n => cases n <;> rfl

@[simp] theorem walk_nil (d : Disk) (f : Bool) (k : Nat) (X : Location) :
    d.walk f k X [] = .ok ⟨X, some .directory⟩ := by
  cases k <;> rfl

@[simp] theorem walk_current (d : Disk) (f : Bool) (k : Nat) (X : Location) (r : List String) :
    d.walk f k X ("." :: r) = d.walk f k X r := by
  cases k <;> simp [walk, stretch]

@[simp] theorem walk_parent (d : Disk) (f : Bool) (k : Nat) (X : Location) (r : List String) :
    d.walk f k X (".." :: r) = d.walk f k X.tail r := by
  cases k <;> simp [walk, stretch]

theorem walk_name (d : Disk) (f : Bool) (k : Nat) (X : Location) {s : String} (r : List String)
    (hc : s ≠ ".") (hu : s ≠ "..") :
    d.walk f k X (s :: r) =
      if maxName < s.utf8ByteSize then .error .nameTooLong
      else match d.nodeAt (s :: X), k with
        | none, _ => if r = [] then .ok ⟨s :: X, none⟩ else .error .notFound
        | some .directory, k => d.walk f k (s :: X) r
        | some (.file id), _ =>
          if r = [] then .ok ⟨s :: X, some (.file id)⟩ else .error .notADirectory
        | some (.symlink t), k =>
          if r = [] && !f then .ok ⟨s :: X, some (.symlink t)⟩
          else match k with
            | 0 => .error .symlinkLoop
            | k + 1 => d.walk f k (if PathText.isAbsolute t then [] else X) (steps t ++ r) := by
  cases k with
  | zero =>
    simp only [walk, stretch, hc, hu, ↓reduceIte]
    cases d.nodeAt (s :: X) with
    | none => rfl
    | some n => cases n <;> rfl
  | succ k =>
    simp only [walk, stretch, hc, hu, ↓reduceIte]
    cases d.nodeAt (s :: X) with
    | none => rfl
    | some n => cases n <;> rfl

theorem walk_induction {motive : Nat → Location → List String → Prop}
    (nil : ∀ k X, motive k X [])
    (current : ∀ k X r, motive k X r → motive k X ("." :: r))
    (parent : ∀ k X r, motive k X.tail r → motive k X (".." :: r))
    (name : ∀ k X s r, s ≠ "." → s ≠ ".." → motive k (s :: X) r →
      (∀ j Y t, k = j + 1 → motive j Y (t ++ r)) → motive k X (s :: r))
    (k : Nat) (X : Location) (ws : List String) : motive k X ws := by
  induction k generalizing X ws with
  | zero =>
    induction ws generalizing X with
    | nil => exact nil 0 X
    | cons s r ih =>
      by_cases hc : s = "."
      · exact hc ▸ current 0 X r (ih X)
      by_cases hu : s = ".."
      · exact hu ▸ parent 0 X r (ih X.tail)
      exact name 0 X s r hc hu (ih (s :: X)) fun j Y t h => absurd h (by omega)
  | succ k ihk =>
    induction ws generalizing X with
    | nil => exact nil (k + 1) X
    | cons s r ih =>
      by_cases hc : s = "."
      · exact hc ▸ current (k + 1) X r (ih X)
      by_cases hu : s = ".."
      · exact hu ▸ parent (k + 1) X r (ih X.tail)
      refine name (k + 1) X s r hc hu (ih (s :: X)) fun j Y t h => ?_
      obtain rfl : k = j := by omega
      exact ihk Y (t ++ r)

theorem reach_append (d : Disk) (k : Nat) (X : Location) (ws vs : List String) :
    d.reach k X (ws ++ vs) = d.reach k X ws >>= fun (Y, j) => d.reach j Y vs := by
  induction k, X, ws using walk_induction with
  | nil k X => simp; rfl
  | current k X r ih => simpa using ih
  | parent k X r ih => simpa using ih
  | name k X s r hc hu ih ihl =>
    rw [List.cons_append, reach_name d k X _ hc hu, reach_name d k X _ hc hu]
    by_cases hl : maxName < s.utf8ByteSize
    · simp only [hl, ↓reduceIte]
      rfl
    simp only [hl, ↓reduceIte]
    cases hn : d.nodeAt (s :: X) with
    | none => rfl
    | some n =>
      cases n with
      | directory => exact ih
      | file id => rfl
      | symlink t =>
        cases k with
        | zero => rfl
        | succ k => simpa only [List.append_assoc] using ihl k _ (steps t) rfl

theorem walk_append (d : Disk) (f : Bool) (k : Nat) (X : Location) (ws : List String)
    {vs : List String} (hvs : vs ≠ []) :
    d.walk f k X (ws ++ vs) = d.reach k X ws >>= fun (Y, j) => d.walk f j Y vs := by
  induction k, X, ws using walk_induction with
  | nil k X => simp; rfl
  | current k X r ih => simpa using ih
  | parent k X r ih => simpa using ih
  | name k X s r hc hu ih ihl =>
    have hr : r ++ vs ≠ [] := by simp [hvs]
    rw [List.cons_append, walk_name d f k X _ hc hu, reach_name d k X _ hc hu]
    by_cases hl : maxName < s.utf8ByteSize
    · simp only [hl, ↓reduceIte]
      rfl
    simp only [hl, hr, ↓reduceIte, decide_false, Bool.false_and, Bool.false_eq_true]
    cases hn : d.nodeAt (s :: X) with
    | none => rfl
    | some n =>
      cases n with
      | directory => exact ih
      | file id => rfl
      | symlink t =>
        cases k with
        | zero => rfl
        | succ k => simpa only [List.append_assoc] using ihl k _ (steps t) rfl

theorem walk_eq_directory_iff {d : Disk} {k : Nat} {X Y : Location} {ws : List String} :
    d.walk true k X ws = .ok ⟨Y, some .directory⟩ ↔ ∃ j, d.reach k X ws = .ok (Y, j) := by
  induction k, X, ws using walk_induction with
  | nil k X => simp
  | current k X r ih => simpa using ih
  | parent k X r ih => simpa using ih
  | name k X s r hc hu ih ihl =>
    rw [walk_name d true k X _ hc hu, reach_name d k X _ hc hu]
    by_cases hl : maxName < s.utf8ByteSize
    · simp [hl]
    simp only [hl, ↓reduceIte, Bool.not_true, Bool.and_false, Bool.false_eq_true]
    cases hn : d.nodeAt (s :: X) with
    | none => by_cases hr : r = [] <;> simp [hr]
    | some n =>
      cases n with
      | directory => exact ih
      | file id => by_cases hr : r = [] <;> simp [hr]
      | symlink t =>
        cases k with
        | zero => simp
        | succ k => exact ihl k _ (steps t) rfl

theorem reach_filter (d : Disk) (k : Nat) (X : Location) (ws : List String) :
    d.reach k X (ws.filter (· ≠ ".")) = d.reach k X ws := by
  induction ws generalizing k X with
  | nil => rfl
  | cons s r ih =>
    by_cases hc : s = "."
    · simpa [hc] using ih k X
    · have h₁ : (s :: r).filter (· ≠ ".") = [s] ++ r.filter (· ≠ ".") := by simp [hc]
      have h₂ : s :: r = [s] ++ r := rfl
      rw [h₁, h₂, reach_append, reach_append]
      simp only [ih]

end Provision.Disk
