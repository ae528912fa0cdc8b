namespace Provision

/-- Pairs of a key and a value; the first pair with a key counts. -/
abbrev Table (α β : Type) := List (α × β)

namespace Table

variable {α β : Type} [DecidableEq α]

def get? (t : Table α β) (k : α) : Option β := (t.find? (·.1 = k)).map (·.2)

def erase (t : Table α β) (k : α) : Table α β := t.filter (·.1 ≠ k)

def set (t : Table α β) (k : α) (v : β) : Table α β := (k, v) :: erase t k

def keys (t : Table α β) : List α := t.map (·.1)

@[simp] theorem get?_nil (k : α) : get? ([] : Table α β) k = none := rfl

@[simp] theorem get?_cons (p : α × β) (t : Table α β) (k : α) :
    get? (p :: t) k = if p.1 = k then some p.2 else get? t k := by
  by_cases h : p.1 = k <;> simp [get?, h]

@[simp] theorem get?_erase (t : Table α β) (k j : α) :
    get? (erase t k) j = if k = j then none else get? t j := by
  induction t with
  | nil => simp [erase]
  | cons p t ih =>
    simp only [erase] at ih ⊢
    by_cases h : p.1 = k
    · simp only [List.filter_cons, h, ne_eq, not_true_eq_false, decide_false, Bool.false_eq_true,
        ↓reduceIte, ih, get?_cons]
      split <;> rfl
    · simp only [List.filter_cons, ne_eq, h, not_false_eq_true, decide_true, ↓reduceIte,
        get?_cons, ih]
      by_cases hk : k = j
      · subst hk
        simp [h]
      · simp [hk]

@[simp] theorem get?_set (t : Table α β) (k j : α) (v : β) :
    get? (set t k v) j = if k = j then some v else get? t j := by
  by_cases h : k = j <;> simp [set, h]

@[simp] theorem set_set (t : Table α β) (k : α) (u v : β) : set (set t k u) k v = set t k v := by
  simp [set, erase, List.filter_filter]

end Table
end Provision
