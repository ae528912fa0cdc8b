namespace Provision.Text

def splitChars (sep : Char) : List Char → List (List Char)
  | [] => [[]]
  | c :: r =>
    if c = sep then [] :: splitChars sep r
    else match splitChars sep r with
      | [] => [[c]]
      | w :: ws => (c :: w) :: ws

def split (sep : Char) (s : String) : List String := (splitChars sep s.toList).map .ofList

theorem splitChars_ne_nil (sep : Char) (s : List Char) : splitChars sep s ≠ [] := by
  induction s with
  | nil => simp [splitChars]
  | cons c r ih =>
    simp only [splitChars]
    split
    · simp
    · split <;> simp

def splitOnce? (sep : Char) (s : List Char) : Option (List Char × List Char) :=
  match s.dropWhile (· ≠ sep) with
  | [] => none
  | _ :: rest => some (s.takeWhile (· ≠ sep), rest)

theorem splitOnce?_append {sep : Char} {a : List Char} (h : sep ∉ a) (b : List Char) :
    splitOnce? sep (a ++ sep :: b) = some (a, b) := by
  have hall : ∀ c ∈ a, decide (c ≠ sep) = true := fun c hc => by
    simpa using fun heq : c = sep => h (heq ▸ hc)
  simp only [splitOnce?, List.takeWhile_append_of_pos hall, List.dropWhile_append_of_pos hall]
  simp

theorem splitOnce?_eq_some {sep : Char} {s a b : List Char} (h : splitOnce? sep s = some (a, b)) :
    s = a ++ sep :: b := by
  by_cases hsep : sep ∈ s
  · obtain ⟨x, r, rfl, hx⟩ := List.eq_append_cons_of_mem hsep
    rw [splitOnce?_append hx] at h
    cases h
    rfl
  · have hall : ∀ c ∈ s, decide (c ≠ sep) = true := fun c hc => by
      simpa using fun heq : c = sep => hsep (heq ▸ hc)
    have hdrop : (s ++ []).dropWhile (fun c => decide (c ≠ sep)) = [].dropWhile _ :=
      List.dropWhile_append_of_pos hall
    rw [List.append_nil, List.dropWhile_nil] at hdrop
    simp only [splitOnce?, hdrop] at h
    cases h

theorem splitOnce?_plain {sep : Char} {s : List Char} (h : sep ∉ s) : splitOnce? sep s = none := by
  cases hs : splitOnce? sep s with
  | none => rfl
  | some p => exact absurd (splitOnce?_eq_some hs ▸ by simp) h

def replaceFrom (fuel : Nat) (old new : List Char) (s : List Char) : List Char :=
  match fuel, s with
  | 0, s => s
  | _ + 1, [] => []
  | fuel + 1, c :: r =>
    if old.isPrefixOf (c :: r) then new ++ replaceFrom fuel old new ((c :: r).drop old.length)
    else c :: replaceFrom fuel old new r

def replace (old new s : String) : String :=
  if old.isEmpty then s
  else .ofList (replaceFrom s.length old.toList new.toList s.toList)

end Provision.Text
