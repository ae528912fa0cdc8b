import Provision.Proofs.Arguments.Update

namespace Provision

variable {α β ε : Type} {r r' : Reading} {s t : Setting} {e : Given} {a name v : String}
  {value : Option String} {topic : Topic} {isOpen : Bool} {args : List String}

theorem bind_eq_ok {x : Except ε α} {f : α → Except ε β} {b : β} :
    x >>= f = .ok b ↔ ∃ a, x = .ok a ∧ f a = .ok b := by
  cases x <;> simp [bind, Except.bind]

theorem map_eq_ok {x : Except ε α} {f : α → β} {b : β} :
    x.map f = .ok b ↔ ∃ a, x = .ok a ∧ f a = b := by
  cases x <;> simp [Except.map]

theorem bind_ok (x : Except ε α) (f : α → β) : (x >>= fun a => .ok (f a)) = x.map f := by
  cases x <;> rfl

theorem map_bind_comm {x : Except ε α} {f : α → α} {k : α → Except ε β} {g : β → β}
    (h : ∀ a, x = .ok a → k (f a) = (k a).map g) : x.map f >>= k = (x >>= k).map g := by
  cases x with
  | error e => rfl
  | ok a => exact h a rfl

theorem Setting.long_injective (h : s.long = t.long) : s = t := by
  cases s <;> cases t <;> first | rfl | exact absurd h (by decide)

def Pending.setting? : Pending → Option Setting
  | .awaiting s | .option s _ => some s
  | .nothing | .buildDir _ => none

namespace Reading

/-- How often an option has been given, or is about to be. -/
def times (r : Reading) (s : Setting) : Nat :=
  (r.given.has s).toNat + (decide (r.pending.setting? = some s)).toNat

def adopt (r : Reading) (s : Setting) (e : Given) : Reading :=
  { r with given := r.given.adopt s e }

theorem resolve_times (h : r.resolve = .ok r') :
    r'.pending = .nothing ∧ ∀ s, (r'.given.has s).toNat = r.times s := by
  obtain ⟨g, p, placed⟩ := r
  cases p with
  | nothing =>
    cases h
    exact ⟨rfl, fun s => by simp [times, Pending.setting?]⟩
  | awaiting t => cases h
  | option t v =>
    obtain ⟨g', hset, h⟩ := bind_eq_ok.1 h
    cases h
    exact ⟨rfl, fun s => by simp [times, Pending.setting?, Given.has_setOnce hset]⟩
  | buildDir v =>
    obtain ⟨p, -, h⟩ := bind_eq_ok.1 h
    cases h
    refine ⟨rfl, fun s => ?_⟩
    cases s <;> simp [times, Pending.setting?, Given.has]

theorem resolve_adopt (h : r.times s = 0) (e : Given) :
    (r.adopt s e).resolve = r.resolve.map (·.adopt s e) := by
  obtain ⟨g, p, placed⟩ := r
  cases p with
  | nothing => rfl
  | awaiting t => rfl
  | option t v =>
    have hts : t ≠ s := by
      rintro rfl
      simp [times, Pending.setting?] at h
    simp only [resolve, adopt, Given.setOnce_adopt hts]
    cases g.setOnce t v <;> rfl
  | buildDir v =>
    simp only [resolve, adopt]
    cases Given.pathValue buildDirLabel v with
    | error f => rfl
    | ok p => simp [bind, Except.bind, pure, Except.pure, Except.map, Given.adopt_house]

theorem place_times (h : r.place v = .ok r') (s : Setting) : r'.times s = r.times s := by
  simp only [place] at h
  split at h
  · cases h
  · obtain ⟨r₁, hr, h⟩ := bind_eq_ok.1 h
    cases h
    rw [← (resolve_times hr).2]
    simp [times, Pending.setting?]

theorem place_adopt (h : r.times s = 0) (e : Given) (v : String) :
    (r.adopt s e).place v = (r.place v).map (·.adopt s e) := by
  simp only [place, show (r.adopt s e).placed = r.placed from rfl]
  split
  · rfl
  · rw [resolve_adopt h]
    exact map_bind_comm fun _ _ => rfl

end Reading

namespace Arguments

open Reading

theorem settingOf?_eq_some {forInstall : Bool} (h : settingOf? forInstall name = some s) :
    s.long = name := by
  have hs := List.find?_some h
  simp only [Bool.and_eq_true, decide_eq_true_eq] at hs
  exact hs.1

theorem readLong_times (h : readLong topic r name value = .ok r') (s : Setting) :
    r'.times s = r.times s + (decide (name = s.long)).toNat := by
  have hlong {t : Setting} (ht : t.long = name) : decide (name = s.long) = decide (t = s) :=
    decide_eq_decide.2 ⟨fun heq => Setting.long_injective (ht.trans heq), fun heq => heq ▸ ht.symm⟩
  simp only [readLong] at h
  split at h
  · split at h
    · obtain ⟨_, -, h⟩ := bind_eq_ok.1 h
      cases h
    · cases h
  split at h
  · cases h
  · rename_i t v hname
    obtain ⟨r₁, hr, h⟩ := bind_eq_ok.1 h
    obtain ⟨g, hset, h⟩ := bind_eq_ok.1 h
    cases h
    obtain ⟨hnothing, htimes⟩ := resolve_times hr
    rw [hlong (settingOf?_eq_some hname), ← htimes]
    simp [times, hnothing, Pending.setting?, Given.has_setOnce hset]
  · rename_i t hname
    obtain ⟨r₁, hr, h⟩ := bind_eq_ok.1 h
    cases h
    rw [← (resolve_times hr).2, hlong (settingOf?_eq_some hname)]
    simp [times, Pending.setting?]

theorem readLong_adopt (h : r.times s = 0) (hname : name ≠ s.long) (e : Given) :
    readLong topic (r.adopt s e) name value =
      (readLong topic r name value).map (·.adopt s e) := by
  simp only [readLong, resolve_adopt h]
  split
  · split
    · cases r.resolve <;> rfl
    · rfl
  split
  · rfl
  · rename_i t v ht
    have hts : t ≠ s := fun heq => hname (heq ▸ (settingOf?_eq_some ht).symm)
    refine map_bind_comm fun r _ => ?_
    simp only [adopt, Given.setOnce_adopt hts]
    cases r.given.setOnce t v <;> rfl
  · exact map_bind_comm fun _ _ => rfl

def isNamed (s : Setting) (a : String) : Bool := (long? a).any (·.1 = s.long)

def mentions (s : Setting) : List String → Nat
  | [] => 0
  | a :: as => (isNamed s a).toNat + if a = "--" then 0 else mentions s as

def step (topic : Topic) (isOpen : Bool) (r : Reading) (a : String) :
    Except UsageError (Bool × Reading) :=
  if !isOpen then do return (false, ← r.place a)
  else if a = "--" then return (false, r)
  else match long? a, short? a with
    | some (name, value), _ => do return (true, ← readLong topic r name value)
    | none, some c =>
      if c = 'h' then do
        let _ ← r.resolve
        .error (.help topic)
      else .error (.unexpected (.ofList ['-', c]))
    | none, none =>
      match r.pending with
      | .awaiting s => return (true, { r with pending := .option s a })
      | _ => do return (true, ← r.place a)

theorem readAll_cons (topic : Topic) (isOpen : Bool) (r : Reading) (a : String) (as : List String) :
    readAll topic isOpen r (a :: as) =
      step topic isOpen r a >>= fun p => readAll topic p.1 p.2 as := by
  rw [readAll, step]
  split
  · cases r.place a <;> rfl
  split
  · rfl
  cases hlong : long? a with
  | some p => cases h : readLong topic r p.1 p.2 <;> simp only [h] <;> rfl
  | none =>
    cases hshort : short? a with
    | some c =>
      dsimp only
      split
      · cases r.resolve <;> rfl
      · rfl
    | none =>
      cases hpending : r.pending
      case awaiting s => rfl
      all_goals cases r.place a <;> rfl

theorem step_times {next : Bool} (h : step topic isOpen r a = .ok (next, r')) :
    next = (isOpen && a ≠ "--") ∧ ∀ s, r'.times s = r.times s + (isOpen && isNamed s a).toNat := by
  rw [step] at h
  split at h
  · rename_i hopen
    obtain rfl : isOpen = false := by simpa using hopen
    obtain ⟨r₁, hplace, h⟩ := bind_eq_ok.1 h
    cases h
    simp [place_times hplace]
  rename_i hopen
  obtain rfl : isOpen = true := by simpa using hopen
  split at h
  · rename_i ha
    cases h
    simp [ha, isNamed, long?]
  rename_i ha
  cases hlong : long? a with
  | some p =>
    obtain ⟨name, value⟩ := p
    simp only [hlong] at h
    obtain ⟨r₁, hread, h⟩ := bind_eq_ok.1 h
    cases h
    simp [ha, isNamed, hlong, readLong_times hread]
  | none =>
    have hnone (s : Setting) : isNamed s a = false := by simp [isNamed, hlong]
    cases hshort : short? a with
    | some c =>
      simp only [hlong, hshort] at h
      split at h
      · obtain ⟨_, -, h⟩ := bind_eq_ok.1 h
        cases h
      · cases h
    | none =>
      simp only [hlong, hshort] at h
      split at h
      · rename_i t hpending
        cases h
        simp [ha, hnone, times, hpending, Pending.setting?]
      · obtain ⟨r₁, hplace, h⟩ := bind_eq_ok.1 h
        cases h
        simp [ha, hnone, place_times hplace]

theorem tag_adopt (x : Except UsageError Reading) (next : Bool) (s : Setting) (e : Given) :
    (do return (next, ← x.map (·.adopt s e)) : Except UsageError (Bool × Reading)) =
      (do return (next, ← x) : Except UsageError (Bool × Reading)).map
        fun p => (p.1, p.2.adopt s e) := by
  cases x <;> rfl

theorem step_adopt (h : r.times s = 0) (hname : (isOpen && isNamed s a) = false) (e : Given) :
    step topic isOpen (r.adopt s e) a =
      (step topic isOpen r a).map fun p => (p.1, p.2.adopt s e) := by
  simp only [step, place_adopt h, resolve_adopt h]
  split
  · exact tag_adopt (r.place a) false s e
  rename_i hopen
  split
  · rfl
  cases hlong : long? a with
  | some p =>
    obtain ⟨name, value⟩ := p
    have hother : name ≠ s.long := by
      rintro rfl
      have hnamed : isNamed s a = true := by simp [isNamed, hlong]
      rw [hnamed, Bool.and_true] at hname
      simp [hname] at hopen
    simp only [readLong_adopt h hother]
    exact tag_adopt _ true s e
  | none =>
    cases hshort : short? a with
    | some c =>
      dsimp only
      split
      · cases r.resolve <;> rfl
      · rfl
    | none =>
      have hplace := tag_adopt (r.place a) true s e
      obtain ⟨g, p, placed⟩ := r
      cases p
      case awaiting t => rfl
      all_goals exact hplace

theorem readAll_times (h : readAll topic isOpen r args = .ok r') (s : Setting) :
    (r'.given.has s).toNat = r.times s + if isOpen then mentions s args else 0 := by
  induction args generalizing isOpen r with
  | nil => simp [(resolve_times h).2, mentions]
  | cons a as ih =>
    rw [readAll_cons] at h
    obtain ⟨⟨next, r₁⟩, hstep, h⟩ := bind_eq_ok.1 h
    obtain ⟨rfl, htimes⟩ := step_times hstep
    rw [ih h, htimes]
    cases isOpen with
    | false => simp
    | true => simp [mentions, Nat.add_assoc]

theorem readAll_adopt (h : r.times s = 0) (hmentions : isOpen = true → mentions s args = 0)
    (e : Given) : readAll topic isOpen (r.adopt s e) args =
      (readAll topic isOpen r args).map (·.adopt s e) := by
  induction args generalizing isOpen r with
  | nil => exact resolve_adopt h e
  | cons a as ih =>
    have hname : (isOpen && isNamed s a) = false := by
      cases isOpen with
      | false => rfl
      | true => simpa using (Nat.add_eq_zero_iff.1 (hmentions rfl)).1
    rw [readAll_cons, readAll_cons, step_adopt h hname]
    cases hstep : step topic isOpen r a with
    | error f => rfl
    | ok p =>
      obtain ⟨next, r₁⟩ := p
      obtain ⟨rfl, htimes⟩ := step_times hstep
      refine ih (by rw [htimes, h, hname]; rfl) fun hnext => ?_
      simp only [Bool.and_eq_true, decide_eq_true_eq] at hnext
      have hrest := (Nat.add_eq_zero_iff.1 (hmentions hnext.1)).2
      rwa [if_neg hnext.2] at hrest

end Arguments
end Provision
