import Mathlib.Control.Monad.Basic
import Provision.Proofs.Installation.Probing
import Provision.Proofs.Table
import Provision.Proofs.Text.Order

namespace Provision

open PathText Text

variable {σ : Type} {w v : World σ} {d e : Disk} {dir n m p : String} {files : List String}
  {fs : String → Prop} {f : Failure}

namespace Disk

/-- The same tree with the same files, told in another order. Each place is told once. -/
structure Reordered (d e : Disk) : Prop where
  nodes : d.nodes.Perm e.nodes
  distinct : e.nodes.keys.Nodup
  files : d.files = e.files

theorem Reordered.symm (h : Reordered d e) : Reordered e d :=
  ⟨h.nodes.symm, (h.nodes.map Prod.fst).nodup_iff.2 h.distinct, h.files.symm⟩

theorem Reordered.nodeAt (h : Reordered d e) (l : Location) : d.nodeAt l = e.nodeAt l := by
  cases l with
  | nil => rfl
  | cons s X => exact Table.get?_perm h.nodes h.distinct (s :: X)

theorem Reordered.grows (h : Reordered d e) : Grows d e := fun l _ hl => h.nodeAt l ▸ hl

end Disk

def World.HasFile (w : World σ) (dir n : String) : Prop :=
  (∃ names, w.disk.list w.cwd dir = .ok names ∧ n ∈ names) ∧ w.isFile (join dir n) = true

theorem World.hasFile_iff : w.HasFile dir n ↔
    ∃ X k, w.disk.locate w.cwd true dir = .ok ⟨X, some .directory⟩ ∧
      w.disk.nodeAt (n :: X) = some k ∧ w.isFile (join dir n) = true := by
  constructor
  · rintro ⟨⟨names, hlist, hmem⟩, hfile⟩
    obtain ⟨X, hX, rfl⟩ := Disk.list_eq_ok_iff.1 hlist
    obtain ⟨k, hk⟩ := Disk.mem_children_iff.1 hmem
    exact ⟨X, k, hX, hk, hfile⟩
  · rintro ⟨X, k, hX, hk, hfile⟩
    exact ⟨⟨_, Disk.list_eq_ok_iff.2 ⟨X, hX, rfl⟩, Disk.mem_children_iff.2 ⟨k, hk⟩⟩, hfile⟩

theorem World.HasFile.grows (h : w.HasFile dir n) (hc : v.cwd = w.cwd)
    (hg : Disk.Grows w.disk v.disk) : v.HasFile dir n := by
  obtain ⟨X, k, hX, hk, hfile⟩ := hasFile_iff.1 h
  refine hasFile_iff.2 ⟨X, k, ?_, hg _ _ hk, ?_⟩
  · rw [hc]
    exact hg.locate hX
  · rw [isFile, hc]
    exact hg.isFile hfile

namespace Probe

/-- The probe's name with the extension of a Windows program, in small letters or capitals. -/
def IsProgram (file : String) : Prop :=
  ∃ a b c, a ∈ ['e', 'E'] ∧ b ∈ ['x', 'X'] ∧ c ∈ ['e', 'E'] ∧
    file = name ++ "." ++ .ofList [a, b, c]

inductive Chosen (files : String → Prop) : String → Prop where
  | own (h : files name) : Chosen files name
  | program {n : String} (hown : ¬ files name) (h : IsFirst (fun m => files m ∧ IsProgram m) n) :
    Chosen files n
  | versioned {n : String} (hown : ¬ files name) (hprogram : ∀ m, files m → ¬ IsProgram m)
    (h : IsFirst (fun m => files m ∧ name.toList <+: m.toList) n) : Chosen files n

theorem Chosen.unique (h : Chosen fs n) (h' : Chosen fs m) : n = m := by
  cases h with
  | own hown =>
    cases h' with
    | own _ => rfl
    | program hnot _ => exact absurd hown hnot
    | versioned hnot _ _ => exact absurd hown hnot
  | program hnot hfirst =>
    cases h' with
    | own hown => exact absurd hown hnot
    | program _ hfirst' => exact hfirst.unique hfirst'
    | versioned _ hnone _ => exact absurd hfirst.1.2 (hnone n hfirst.1.1)
  | versioned hnot hnone hfirst =>
    cases h' with
    | own hown => exact absurd hown hnot
    | program _ hfirst' => exact absurd hfirst'.1.2 (hnone m hfirst'.1.1)
    | versioned _ _ hfirst' => exact hfirst.unique hfirst'

theorem IsProgram.starts (h : IsProgram n) : name.toList <+: n.toList := by
  obtain ⟨a, b, c, -, -, -, rfl⟩ := h
  simp

section Trial

end Trial

end Probe
end Provision
