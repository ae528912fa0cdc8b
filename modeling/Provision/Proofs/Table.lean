import Provision.Table

namespace Provision.Table

variable {α β : Type} [DecidableEq α] {t u : Table α β} {k : α} {v : β}

theorem get?_eq_some_iff (h : t.keys.Nodup) : t.get? k = some v ↔ (k, v) ∈ t := by
  induction t with
  | nil => simp
  | cons p t ih =>
    obtain ⟨hp, ht⟩ := List.nodup_cons.1 h
    obtain ⟨j, w⟩ := p
    rw [get?_cons, List.mem_cons, Prod.mk.injEq]
    split
    · rename_i hk
      obtain rfl : j = k := hk
      have hnot : (j, v) ∉ t := fun hmem => hp (List.mem_map.2 ⟨_, hmem, rfl⟩)
      simp [hnot, eq_comm]
    · rename_i hk
      rw [ih ht]
      simp [Ne.symm hk]

theorem nodup_eraseDups {γ : Type} [BEq γ] [LawfulBEq γ] (l : List γ) : l.eraseDups.Nodup := by
  match l with
  | [] => simp
  | a :: l =>
    rw [List.eraseDups_cons, List.nodup_cons]
    exact ⟨by simp, nodup_eraseDups _⟩
termination_by l.length
decreasing_by
  have hle := List.length_filter_le (fun b => !b == a) l
  rw [List.length_cons]
  omega

theorem mem_keys_of_get? (h : t.get? k = some v) : k ∈ t.keys := by
  induction t with
  | nil => simp at h
  | cons p t ih =>
    rw [get?_cons] at h
    split at h
    · simp [keys, *]
    · exact List.mem_cons_of_mem _ (ih h)

theorem get?_perm (h : t.Perm u) (hu : u.keys.Nodup) (k : α) : t.get? k = u.get? k := by
  have ht : t.keys.Nodup := (h.map Prod.fst).nodup_iff.2 hu
  apply Option.ext
  intro v
  rw [get?_eq_some_iff ht, get?_eq_some_iff hu, h.mem_iff]

theorem nodup_keys_set (h : t.keys.Nodup) (k : α) (v : β) : (t.set k v).keys.Nodup := by
  refine List.nodup_cons.2 ⟨?_, h.sublist (List.filter_sublist.map _)⟩
  simp [erase]

theorem mem_of_mem_set {p : α × β} (h : p ∈ t.set k v) : p = (k, v) ∨ p ∈ t := by
  obtain h | h := List.mem_cons.1 h
  · exact .inl h
  · exact .inr (List.mem_filter.1 h).1

end Provision.Table
