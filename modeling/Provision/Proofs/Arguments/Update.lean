import Provision.Arguments

namespace Provision.Given

variable {g e : Given} {s t : Setting} {v : String}

def adopt (g : Given) (s : Setting) (e : Given) : Given :=
  match s with
  | .operation => { g with operation := e.operation }
  | .retries => { g with retries := e.retries }
  | .retryPattern => { g with retryPattern := e.retryPattern }
  | .feature => { g with settings := { g.settings with feature := e.settings.feature } }
  | .externalDir => { g with settings := { g.settings with externalDir := e.settings.externalDir } }
  | .cacheDir => { g with settings := { g.settings with cacheDir := e.settings.cacheDir } }
  | .defaultRoot => { g with settings := { g.settings with defaultRoot := e.settings.defaultRoot } }
  | .downloadGate =>
    { g with settings := { g.settings with downloadGate := e.settings.downloadGate } }

theorem adopt_house (g : Given) (s : Setting) (e : Given) (p : Option String) :
    { g with buildDir := p }.adopt s e = { g.adopt s e with buildDir := p } := by
  cases s <;> rfl

theorem adopt_comm (h : t ≠ s) (g e e' : Given) :
    (g.adopt s e).adopt t e' = (g.adopt t e').adopt s e := by
  cases s <;> cases t <;> first | rfl | exact absurd rfl h

theorem has_adopt (g : Given) (s : Setting) (e : Given) (t : Setting) :
    (g.adopt s e).has t = if t = s then e.has s else g.has t := by
  cases s <;> cases t <;> rfl

theorem set_eq (g : Given) (s : Setting) (v : String) :
    g.set s v = (empty.set s v).map (g.adopt s) := by
  cases s <;> simp only [set, pathValue] <;> repeat' split
  all_goals rfl

theorem adopt_of_set (h : empty.set s v = .ok e) : empty.adopt s e = e := by
  have hadopt := set_eq empty s v
  rw [h] at hadopt
  exact (Except.ok.inj hadopt).symm

theorem setOnce_empty (s : Setting) (v : String) : empty.setOnce s v = empty.set s v := by
  cases s <;> rfl

theorem has_of_set (h : g.set s v = .ok e) : e.has s = true := by
  cases s <;> simp only [set, pathValue] at h <;> repeat' split at h
  all_goals cases h <;> rfl

theorem set_adopt (h : t ≠ s) (g e : Given) (v : String) :
    (g.adopt s e).set t v = (g.set t v).map (·.adopt s e) := by
  rw [set_eq, set_eq g]
  cases empty.set t v with
  | error f => rfl
  | ok e' => exact congrArg Except.ok (adopt_comm h g e e')

theorem setOnce_adopt (h : t ≠ s) (g e : Given) (v : String) :
    (g.adopt s e).setOnce t v = (g.setOnce t v).map (·.adopt s e) := by
  rw [setOnce, setOnce, has_adopt, if_neg h]
  split
  · rfl
  · exact set_adopt h g e v

theorem has_set (h : g.set s v = .ok e) (t : Setting) : e.has t = (decide (s = t) || g.has t) := by
  by_cases hts : t = s
  · subst hts
    simp [has_of_set h]
  · rw [set_eq] at h
    cases hset : empty.set s v with
    | error f =>
      rw [hset] at h
      cases h
    | ok e' =>
      rw [hset] at h
      cases h
      simp [has_adopt, hts, Ne.symm hts]

theorem has_set_other (h : g.set t v = .ok e) (ht : t ≠ s) : e.has s = g.has s := by
  rw [has_set h, decide_eq_false ht, Bool.false_or]

theorem has_setOnce (h : g.setOnce s v = .ok e) (t : Setting) :
    (e.has t).toNat = (g.has t).toNat + (decide (s = t)).toNat := by
  rw [setOnce] at h
  split at h
  · cases h
  · rename_i hfresh
    rw [has_set h]
    by_cases hst : s = t
    · subst hst
      simp [hfresh]
    · simp [hst]

end Provision.Given
