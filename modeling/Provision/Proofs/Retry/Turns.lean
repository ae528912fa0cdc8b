import Mathlib.Algebra.Group.Nat.Defs
import Provision.Command.Retry
import Provision.Proofs.World.Run

/-!
Attempts under a policy, whatever is attempted: one turn after the other until one settles the matter
or the policy gives up. The counter of the attempts is right as long as it does not start anew, and
it starts anew just where the greatest number of retries is allowed and used up.
-/

namespace Provision

variable {σ α β : Type}

inductive Turn (σ α : Type) where
  | settled (r : Except Failure α) (v : World σ)
  /-- It has failed, with a text that the policy looks at. If there is another attempt that starts in
  `next`; if not, the failure stands and the world is `v`. -/
  | failed (text : String) (f : Failure) (v next : World σ)

namespace Turn

def outcome : Turn σ α → Except Failure α × World σ
  | settled r v => (r, v)
  | failed _ f v _ => (.error f, v)

def next? (p : RetryPolicy) : Turn σ α → Option (World σ)
  | settled _ _ => none
  | failed text _ _ next => if p.pattern.all (·.isMatch text) then some next else none

end Turn

namespace RetryPolicy

variable (p : RetryPolicy) (turn : UInt32 → World σ → Turn σ α)

def turns : Nat → UInt32 → World σ → Except Failure α × World σ
  | 0, _, w => (.error .endlessRetry, w)
  | n + 1, made, w =>
    let t := turn (made + 1) w
    match t.next? p with
    | some next => if made + 1 ≤ p.maxRetries then turns n (made + 1) next else t.outcome
    | .none => t.outcome

/-- Where so many turns lead that each give reason for another. -/
def worn : Nat → World σ → Option (World σ)
  | 0, w => some w
  | i + 1, w => (worn i w).bind fun u => (turn (.ofNat (i + 1)) u).next? p

/-- There is reason for more attempts than the counter can count. -/
def Wraps (w : World σ) : Prop :=
  p.maxRetries.toNat + 1 = 2 ^ 32 ∧ (p.worn turn p.maxRetries.toNat w).isSome

variable {p turn} {w u v : World σ} {i n : Nat} {made : UInt32}

theorem turns_settled {r : Except Failure α} (h : turn (made + 1) w = .settled r v) :
    p.turns turn (n + 1) made w = (r, v) := by
  simp only [turns, h]
  rfl

theorem turns_failed {text : String} {f : Failure} {next : World σ}
    (h : turn (made + 1) w = .failed text f v next) : p.turns turn (n + 1) made w =
      if p.shouldRetry (made + 1) text then p.turns turn n (made + 1) next else (.error f, v) := by
  simp only [turns, h, Turn.next?, shouldRetry]
  by_cases hp : p.pattern.all (·.isMatch text) = true
  · simp [hp, Turn.outcome]
  · simp [hp, Turn.outcome]

theorem ofNat_succ (i : Nat) : UInt32.ofNat i + 1 = .ofNat (i + 1) := by
  rw [UInt32.ofNat_add]
  rfl

theorem ofNat_le_maxRetries (hi : i ≤ p.maxRetries.toNat) : UInt32.ofNat i ≤ p.maxRetries := by
  have hlt := p.maxRetries.toNat_lt
  rw [UInt32.le_iff_toNat_le, UInt32.toNat_ofNat_of_lt' (show i < 2 ^ 32 by omega)]
  exact hi

theorem turns_worn (hi : i ≤ p.maxRetries.toNat) (h : p.worn turn i w = some u) (n : Nat) :
    p.turns turn (i + n) 0 w = p.turns turn n (.ofNat i) u := by
  induction i generalizing u n with
  | zero =>
    obtain rfl : w = u := Option.some.inj h
    rw [Nat.zero_add]
    rfl
  | succ i ih =>
    obtain ⟨v, hv, hnext⟩ := Option.bind_eq_some_iff.1 h
    rw [Nat.add_assoc, Nat.add_comm 1 n, ih (by omega) hv]
    simp only [turns, ofNat_succ, hnext, ofNat_le_maxRetries hi, ↓reduceIte]

theorem worn_or_last (p : RetryPolicy) (turn : UInt32 → World σ → Turn σ α) (w : World σ)
    (n : Nat) :
    (∃ u, p.worn turn n w = some u) ∨
      ∃ i < n, ∃ u, p.worn turn i w = some u ∧ (turn (.ofNat (i + 1)) u).next? p = .none := by
  induction n with
  | zero => exact .inl ⟨w, rfl⟩
  | succ n ih =>
    obtain ⟨u, hu⟩ | ⟨i, hi, hlast⟩ := ih
    · cases hnext : (turn (.ofNat (n + 1)) u).next? p with
      | none => exact .inr ⟨n, Nat.lt_succ_self n, u, hu, hnext⟩
      | some next => exact .inl ⟨next, by rw [worn, hu, Option.bind_some, hnext]⟩
    · exact .inr ⟨i, Nat.lt_succ_of_lt hi, hlast⟩

structure Last (p : RetryPolicy) (turn : UInt32 → World σ → Turn σ α) (w : World σ) (i : Nat)
    (u : World σ) : Prop where
  bounded : i ≤ p.maxRetries.toNat
  counted : i + 1 < 2 ^ 32
  worn : p.worn turn i w = some u
  last : (turn (.ofNat (i + 1)) u).next? p = .none ∨ i = p.maxRetries.toNat
  turns : p.turns turn p.attempts 0 w = (turn (.ofNat (i + 1)) u).outcome

theorem exists_last (h : ¬ p.Wraps turn w) : ∃ i u, p.Last turn w i u := by
  have hlt := p.maxRetries.toNat_lt
  obtain ⟨i, u, hi, hcount, hu, hlast⟩ : ∃ i u, i ≤ p.maxRetries.toNat ∧ i + 1 < 2 ^ 32 ∧
      p.worn turn i w = some u ∧
        ((turn (.ofNat (i + 1)) u).next? p = .none ∨ i = p.maxRetries.toNat) := by
    obtain ⟨u, hu⟩ | ⟨i, hi, u, hu, hlast⟩ := worn_or_last p turn w p.maxRetries.toNat
    · refine ⟨_, u, Nat.le_refl _, Nat.lt_of_not_le fun hmax => ?_, hu, .inr rfl⟩
      exact h ⟨by omega, by simp [hu]⟩
    · exact ⟨i, u, Nat.le_of_lt hi, by omega, hu, .inl hlast⟩
  refine ⟨i, u, hi, hcount, hu, hlast, ?_⟩
  obtain ⟨n, hn⟩ : ∃ n, p.attempts = i + (n + 1) :=
    ⟨p.maxRetries.toNat - i, by rw [RetryPolicy.attempts]; omega⟩
  rw [hn, turns_worn hi hu, RetryPolicy.turns, ofNat_succ]
  obtain hlast | rfl := hlast
  · simp only [hlast]
  · have hover : ¬ UInt32.ofNat (p.maxRetries.toNat + 1) ≤ p.maxRetries := by
      rw [UInt32.le_iff_toNat_le, UInt32.toNat_ofNat_of_lt' hcount]
      omega
    simp only [hover, ↓reduceIte]
    split <;> rfl

theorem turns_wrapped (h : p.Wraps turn w) : ∃ u, p.worn turn p.maxRetries.toNat w = some u ∧
    ∀ n, p.turns turn (p.maxRetries.toNat + (n + 1)) 0 w =
      match (turn 0 u).next? p with
      | some next => p.turns turn n 0 next
      | .none => (turn 0 u).outcome := by
  obtain ⟨u, hu⟩ := Option.isSome_iff_exists.1 h.2
  refine ⟨u, hu, fun n => ?_⟩
  have hzero : UInt32.ofNat (p.maxRetries.toNat + 1) = 0 := by
    rw [h.1]
    rfl
  rw [turns_worn (Nat.le_refl _) hu, RetryPolicy.turns, ofNat_succ, hzero]
  split
  · exact if_pos (UInt32.le_iff_toNat_le.2 (Nat.zero_le _))
  · rfl

theorem isSome_worn (hnext : ∀ n w, ((turn n w).next? p).isSome) (i : Nat) (w : World σ) :
    (p.worn turn i w).isSome := by
  induction i with
  | zero => rfl
  | succ i ih =>
    obtain ⟨u, hu⟩ := Option.isSome_iff_exists.1 ih
    rw [worn, hu]
    exact hnext _ u

structure Logs (p : RetryPolicy) (turn : UInt32 → World σ → Turn σ α) (log : World σ → List β)
    (entry : UInt32 → List β) : Prop where
  outcome : ∀ n w, log (turn n w).outcome.2 = log w ++ entry n
  next : ∀ n w u, (turn n w).next? p = some u → log u = log w ++ entry n

def entries (entry : UInt32 → List β) : Nat → List β
  | 0 => []
  | i + 1 => entries entry i ++ entry (.ofNat (i + 1))

theorem entries_const (l : List β) (i : Nat) :
    entries (fun _ => l) i = (List.replicate i l).flatten := by
  induction i with
  | zero => rfl
  | succ i ih => rw [entries, ih, List.replicate_succ', List.flatten_concat]

namespace Logs

variable {log : World σ → List β} {entry : UInt32 → List β} (h : p.Logs turn log entry)
include h

theorem worn (hu : p.worn turn i w = some u) : log u = log w ++ entries entry i := by
  induction i generalizing u with
  | zero =>
    obtain rfl : w = u := Option.some.inj hu
    exact (List.append_nil _).symm
  | succ i ih =>
    obtain ⟨v, hv, hnext⟩ := Option.bind_eq_some_iff.1 hu
    rw [h.next _ _ _ hnext, ih hv, List.append_assoc]
    rfl

theorem last (hl : p.Last turn w i u) :
    log (p.turns turn p.attempts 0 w).2 = log w ++ entries entry (i + 1) := by
  rw [hl.turns, h.outcome, h.worn hl.worn, List.append_assoc]
  rfl

theorem endless (hmax : ∀ n, n ≤ p.maxRetries) (hnext : ∀ n w, ((turn n w).next? p).isSome)
    {l : List β} (hentry : ∀ n, entry n = l) (n : Nat) (made : UInt32) (w : World σ) :
    (p.turns turn n made w).1 = .error .endlessRetry ∧
      log (p.turns turn n made w).2 = log w ++ (List.replicate n l).flatten := by
  induction n generalizing made w with
  | zero => exact ⟨rfl, (List.append_nil _).symm⟩
  | succ n ih =>
    obtain ⟨u, hu⟩ := Option.isSome_iff_exists.1 (hnext (made + 1) w)
    simp only [turns, hu, hmax, ↓reduceIte]
    refine ⟨(ih _ _).1, ?_⟩
    rw [(ih _ _).2, h.next _ _ _ hu, hentry, List.replicate_succ, List.flatten_cons,
      List.append_assoc]

end Logs

def said (message : String) (w : World σ) : List Event :=
  (w.events.filter (·.message = message)).reverse

theorem said_told {e : Event} {message : String} (h : e.message = message) (w : World σ) :
    said message (w.told e) = said message w ++ [e] := by
  simp [said, World.told, h]

theorem said_told_of_ne {e : Event} {message : String} (h : e.message ≠ message) (w : World σ) :
    said message (w.told e) = said message w := by
  simp [said, World.told, h]

theorem said_of_events (message : String) (h : v.events = w.events) :
    said message v = said message w := by
  rw [said, said, h]

def announcements (announce : Nat → Event) (k : Nat) : List Event :=
  (List.range k).map fun i => announce (i + 1)

theorem announcements_succ (announce : Nat → Event) (k : Nat) :
    announcements announce (k + 1) = announcements announce k ++ [announce (k + 1)] := by
  simp [announcements, List.range_succ]

theorem entries_announcements {k : Nat} (hk : k < 2 ^ 32) (announce : Nat → Event) :
    entries (fun n => [announce n.toNat]) k = announcements announce k := by
  induction k with
  | zero => rfl
  | succ k ih =>
    rw [entries, ih (by omega), announcements_succ, UInt32.toNat_ofNat_of_lt' hk]

def Announced (announce : Nat → Event) (k : Nat) (w v : World σ) : Prop :=
  said (announce 0).message v = said (announce 0).message w ++ announcements announce k

def Announces (p : RetryPolicy) (turn : UInt32 → World σ → Turn σ α) (announce : Nat → Event) :
    Prop :=
  p.Logs turn (said (announce 0).message) fun n => [announce n.toNat]

variable {announce : Nat → Event}

theorem Announces.last (h : p.Announces turn announce) (hl : p.Last turn w i u) :
    Announced announce (i + 1) w (p.turns turn p.attempts 0 w).2 := by
  rw [Announced, ← entries_announcements hl.counted]
  exact Logs.last h hl

theorem Announces.wrapped (h : p.Announces turn announce) (hw : p.Wraps turn w)
    (hzero : announce 0 ≠ announce (2 ^ 32)) {k : Nat}
    (hends : (p.turns turn p.attempts 0 w).1 ≠ .error .endlessRetry) :
    ¬ Announced announce k w (p.turns turn p.attempts 0 w).2 := by
  obtain ⟨u, hu, hturns⟩ := turns_wrapped hw
  have hrun : p.turns turn p.attempts 0 w = _ := hturns 0
  cases hnext : (turn 0 u).next? p with
  | some next =>
    rw [hrun, hnext] at hends
    exact absurd rfl hends
  | none =>
    intro hannounced
    have hcount := hw.1
    rw [hrun, hnext, Announced, h.outcome, Logs.worn h hu, entries_announcements (by omega),
      List.append_assoc, List.append_cancel_left_eq] at hannounced
    have hlength := congrArg List.length hannounced
    simp only [announcements, List.length_append, List.length_map, List.length_range,
      List.length_singleton] at hlength
    rw [← hlength, announcements_succ, List.append_cancel_left_eq, hcount] at hannounced
    exact hzero (List.singleton_inj.1 hannounced)

end RetryPolicy
end Provision
