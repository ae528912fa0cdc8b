import Mathlib.Order.Bounds.Basic
import Provision.Proofs.Retry.Turns

namespace Provision

open Provision.Action RetryPolicy

variable {σ : Type} {R : Runner σ} {p : RetryPolicy} {c : Command} {dir : Option String}
  {w u : World σ} {i n : Nat}

namespace Runner

def announcement (c : Command) (attempts : Nat) : Event :=
  ⟨.info, "Running `" ++ c.text ++ "`", [("attempt", toString attempts)]⟩

def judge (p : RetryPolicy) (c : Command) (attempts : UInt32) :
    Except String CommandOutput → World σ → Turn σ CommandOutput
  | .error reason, v => .settled (.error (.commandFailed c.text attempts reason))
      (v.told ⟨.warn, "Failed to start `" ++ c.program ++ "`", [("error", reason)]⟩)
  | .ok output, v =>
    if output.success then .settled (.ok output)
      (v.told ⟨.debug, "`" ++ c.text ++ "` succeeded", [("attempts", toString attempts.toNat)]⟩)
    else .failed output.combined (.commandFailed c.text attempts output.combined) v
      (v.told ⟨.warn, "`" ++ c.text ++ "` failed, retrying", [("attempt", toString attempts.toNat),
        ("max_retries", toString p.maxRetries.toNat)]⟩)

def turn (R : Runner σ) (p : RetryPolicy) (c : Command) (dir : Option String) (attempts : UInt32)
    (w : World σ) : Turn σ CommandOutput :=
  let answered := R c dir (w.told (announcement c attempts.toNat))
  judge p c attempts answered.1 answered.2

theorem judge_succeeded {output : CommandOutput} (h : output.success = true) (attempts : UInt32)
    (v : World σ) : judge p c attempts (.ok output) v = .settled (.ok output)
      (v.told ⟨.debug, "`" ++ c.text ++ "` succeeded", [("attempts", toString attempts.toNat)]⟩) :=
  if_pos h

theorem judge_failed {output : CommandOutput} (h : output.success = false) (attempts : UInt32)
    (v : World σ) : judge p c attempts (.ok output) v =
      .failed output.combined (.commandFailed c.text attempts output.combined) v
        (v.told ⟨.warn, "`" ++ c.text ++ "` failed, retrying", [("attempt", toString attempts.toNat),
          ("max_retries", toString p.maxRetries.toNat)]⟩) :=
  if_neg (by simp [h])

theorem attempt_turns (R : Runner σ) (p : RetryPolicy) (c : Command) (dir : Option String) (n : Nat)
    (made : UInt32) (w : World σ) : Ends (R.attempt p c dir n made) w fun r v =>
      (r, v) = p.turns (R.turn p c dir) n made w := by
  induction n generalizing made w with
  | zero => exact Ends.throw rfl
  | succ n ih =>
    refine Ends.bind (Ends.tell (Ends.bind (Ends.lift (Runs.intro fun a v hrun => ?_))))
    have hturn : R.turn p c dir (made + 1) w = judge p c (made + 1) a v := by
      have hrun : R c dir (w.told (announcement c (made + 1).toNat)) = (a, v) := hrun
      simp only [turn, hrun]
    cases a with
    | error reason =>
      rw [turns_settled hturn]
      exact Ends.bind (Ends.tell (Ends.throw rfl))
    | ok output =>
      dsimp only
      cases hs : output.success with
      | true =>
        rw [turns_settled (hturn.trans (judge_succeeded hs _ _))]
        exact Ends.bind (Ends.tell (Ends.pure rfl))
      | false =>
        rw [turns_failed (hturn.trans (judge_failed hs _ _))]
        cases p.shouldRetry (made + 1) output.combined with
        | true => exact Ends.bind (Ends.tell (ih _ _))
        | false => exact Ends.throw rfl

theorem run_turns {Q : Except Failure CommandOutput → World σ → Prop} :
    Ends (R.run p c dir) w Q ↔ Q (p.turns (R.turn p c dir) p.attempts 0 w).1
      (p.turns (R.turn p c dir) p.attempts 0 w).2 :=
  Ends.iff_of_run (attempt_turns R p c dir p.attempts 0 w)

end Runner

def RetryPolicy.Retries (p : RetryPolicy) (a : Except String CommandOutput) : Prop :=
  ∃ o, a = .ok o ∧ o.success = false ∧ p.pattern.all (·.isMatch o.combined) = true

/-- What settles the matter at an attempt. -/
inductive RetryPolicy.Settles (p : RetryPolicy) (i : Nat) : Except String CommandOutput → Prop where
  | unstarted (reason : String) : Settles p i (.error reason)
  | succeeded {o : CommandOutput} (success : o.success = true) : Settles p i (.ok o)
  | unmatched {o : CommandOutput} {x : Pattern} (failed : o.success = false)
    (pattern : p.pattern = some x) (unmatched : x.isMatch o.combined = false) : Settles p i (.ok o)
  | exhausted {o : CommandOutput} (exhausted : i = p.maxRetries.toNat + 1) : Settles p i (.ok o)

theorem RetryPolicy.settles_iff {a : Except String CommandOutput} :
    p.Settles i a ↔ ¬ p.Retries a ∨ i = p.maxRetries.toNat + 1 := by
  constructor
  · intro h
    cases h with
    | unstarted reason => exact .inl (by simp [Retries])
    | succeeded success => exact .inl (by simp [Retries, success])
    | unmatched _ pattern unmatched => exact .inl (by simp [Retries, pattern, unmatched])
    | exhausted exhausted => exact .inr exhausted
  · intro h
    cases a with
    | error reason => exact .unstarted reason
    | ok o =>
      obtain h | h := h
      · cases hs : o.success with
        | true => exact .succeeded hs
        | false =>
          have hp : p.pattern.all (·.isMatch o.combined) ≠ true := fun hp => h ⟨o, rfl, hs, hp⟩
          cases hpattern : p.pattern with
          | none => simp [hpattern] at hp
          | some x => exact .unmatched hs hpattern (by simpa [hpattern] using hp)
      · exact .exhausted h

def Command.result (c : Command) (attempts : UInt32) :
    Except String CommandOutput → Except Failure CommandOutput
  | .error reason => .error (.commandFailed c.text attempts reason)
  | .ok o => if o.success then .ok o else .error (.commandFailed c.text attempts o.combined)

namespace Command

variable {a : Except String CommandOutput} {attempts : UInt32}

theorem attempts_result {m : UInt32} {line text : String}
    (h : c.result attempts a = .error (.commandFailed line m text)) : m = attempts := by
  cases a with
  | error reason =>
    cases h
    rfl
  | ok o =>
    rw [result] at h
    split at h
    · cases h
    · cases h
      rfl

theorem result_ends (c : Command) (attempts : UInt32) (a : Except String CommandOutput) :
    c.result attempts a ≠ .error .endlessRetry := by
  cases a with
  | error reason => simp [result]
  | ok o =>
    rw [result]
    split <;> simp

end Command

namespace Runner

section

variable (p c) (attempts : UInt32) (a : Except String CommandOutput) (v : World σ)

theorem isSome_next_judge : ((judge p c attempts a v).next? p).isSome ↔ p.Retries a := by
  cases a with
  | error reason => simp [judge, Turn.next?, Retries]
  | ok o =>
    cases hs : o.success with
    | true => simp [judge_succeeded hs, Turn.next?, Retries, hs]
    | false => simp [judge_failed hs, Turn.next?, Retries, hs]

theorem outcome_judge : (judge p c attempts a v).outcome.1 = c.result attempts a := by
  cases a with
  | error reason => rfl
  | ok o =>
    cases hs : o.success with
    | true => simp [judge_succeeded hs, Turn.outcome, Command.result, hs]
    | false => simp [judge_failed hs, Turn.outcome, Command.result, hs]

def Remarked (c : Command) (v u : World σ) : Prop :=
  u = v ∨ ∃ e, u = v.told e ∧ e.message ≠ (announcement c 0).message

theorem remarked_outcome : Remarked c v (judge p c attempts a v).outcome.2 := by
  cases a with
  | error reason =>
    refine .inr ⟨_, rfl, fun h => ?_⟩
    simpa [announcement] using congrArg (·.toList.head?) h
  | ok o =>
    cases hs : o.success with
    | true =>
      rw [judge_succeeded hs]
      refine .inr ⟨_, rfl, fun h => ?_⟩
      simpa [announcement] using congrArg (·.toList.head?) h
    | false =>
      rw [judge_failed hs]
      exact .inl rfl

variable {p c attempts a v}

theorem remarked_next (h : (judge p c attempts a v).next? p = some u) : Remarked c v u := by
  cases a with
  | error reason => cases h
  | ok o =>
    cases hs : o.success with
    | true =>
      rw [judge_succeeded hs] at h
      cases h
    | false =>
      rw [judge_failed hs, Turn.next?] at h
      split at h
      · refine .inr ⟨_, (Option.some.inj h).symm, fun h => ?_⟩
        simpa [announcement] using congrArg (·.toList.head?) h
      · cases h

theorem Remarked.outside (h : Remarked c v u) : u.outside = v.outside := by
  obtain rfl | ⟨e, rfl, -⟩ := h
  · rfl
  · rfl

theorem Remarked.said (h : Remarked c v u) :
    said (announcement c 0).message u = said (announcement c 0).message v := by
  obtain rfl | ⟨e, rfl, he⟩ := h
  · rfl
  · exact said_told_of_ne he v

end

/-- A runner remembers what it is asked, whatever it does besides. -/
def Records (R : Runner σ) (asked : σ → List (Command × Option String)) : Prop :=
  ∀ c dir w, asked (R c dir w).2.outside = asked w.outside ++ [(c, dir)]

theorem Records.logs {asked : σ → List (Command × Option String)} (h : R.Records asked) :
    p.Logs (R.turn p c dir) (fun w => asked w.outside) fun _ => [(c, dir)] where
  outcome n w := by
    rw [turn, (remarked_outcome _ _ _ _ _).outside, h]
    rfl
  next n w u hu := by
    rw [(remarked_next hu).outside, h]
    rfl

structure Plays (R : Runner σ) (script : Nat → Except String CommandOutput)
    (asked : σ → List (Command × Option String)) : Prop where
  records : R.Records asked
  answer : ∀ c dir w, (R c dir w).1 = script ((asked w.outside).length + 1)

section

variable {script : Nat → Except String CommandOutput} {asked : σ → List (Command × Option String)}
  (h : R.Plays script asked) (hw : asked w.outside = [])
include h hw

theorem Plays.turn (hu : p.worn (R.turn p c dir) i w = some u) (n : UInt32) :
    ∃ v, R.turn p c dir n u = judge p c n (script (i + 1)) v := by
  have hasked : asked (u.told (announcement c n.toNat)).outside = List.replicate i (c, dir) := by
    have hworn := h.records.logs.worn hu
    rwa [hw, entries_const, List.flatten_replicate_singleton, List.nil_append] at hworn
  refine ⟨(R c dir (u.told (announcement c n.toNat))).2, ?_⟩
  rw [Runner.turn, h.answer, hasked, List.length_replicate]

theorem Plays.retries (hu : p.worn (R.turn p c dir) i w = some u) {j : Nat} (hj : 0 < j)
    (hji : j ≤ i) : p.Retries (script j) := by
  induction i generalizing u with
  | zero => omega
  | succ i ih =>
    obtain ⟨v, hv, hnext⟩ := Option.bind_eq_some_iff.1 hu
    by_cases hlast : j = i + 1
    · obtain ⟨x, hx⟩ := h.turn hw hv (.ofNat (i + 1))
      rw [hx] at hnext
      rw [hlast, ← isSome_next_judge p c (.ofNat (i + 1)) (script (i + 1)) x, hnext]
      rfl
    · exact ih hv (by omega)

end

/-- The first answer that settles the matter ends the run, and no call is made after it. -/
theorem run_settles {script : Nat → Except String CommandOutput}
    {asked : σ → List (Command × Option String)} (h : R.Plays script asked)
    (hw : asked w.outside = []) (hmax : p.maxRetries.toNat < 2 ^ 32 - 1) :
    ∃ k, IsLeast {i | 0 < i ∧ p.Settles i (script i)} k ∧ ∃ n : UInt32, n.toNat = k ∧
      Ends (R.run p c dir) w fun r v =>
        asked v.outside = List.replicate k (c, dir) ∧ r = c.result n (script k) := by
  have hcounted : ¬ p.Wraps (R.turn p c dir) w := fun hwraps => by
    have := hwraps.1
    omega
  obtain ⟨i, u, hl⟩ := exists_last hcounted
  obtain ⟨x, hx⟩ := h.turn hw hl.worn (.ofNat (i + 1))
  refine ⟨i + 1, ⟨⟨Nat.succ_pos i, ?_⟩, ?_⟩, .ofNat (i + 1),
    UInt32.toNat_ofNat_of_lt' hl.counted, ?_⟩
  · refine settles_iff.2 (hl.last.imp (fun hnone => ?_) (congrArg Nat.succ))
    rw [hx] at hnone
    rw [← isSome_next_judge p c (.ofNat (i + 1)) _ x, hnone]
    exact Bool.false_ne_true
  · rintro j ⟨hj, hsettles⟩
    by_contra hlt
    obtain hretries | hlast := settles_iff.1 hsettles
    · exact hretries (h.retries hw hl.worn hj (by omega))
    · have := hl.bounded
      omega
  · refine run_turns.2 ⟨?_, by rw [hl.turns, hx, outcome_judge]⟩
    rw [h.records.logs.last hl, hw, entries_const, List.flatten_replicate_singleton,
      List.nil_append]

def scripted (script : Nat → Except String CommandOutput) :
    Runner (List (Command × Option String)) :=
  fun c dir w => (script (w.outside.length + 1), { w with outside := w.outside ++ [(c, dir)] })

theorem plays_scripted (script : Nat → Except String CommandOutput) :
    (scripted script).Plays script id :=
  ⟨fun _ _ _ => rfl, fun _ _ _ => rfl⟩

def thirdTime : Nat → Except String CommandOutput
  | 1 => .ok ⟨false, "", "boom"⟩
  | 2 => .ok ⟨false, "out", " boom "⟩
  | _ => .ok ⟨true, "done", ""⟩

theorem run_settles_thirdTime :
    Ends ((scripted thirdTime).run ⟨2, .none⟩ ⟨"git", ["pull"], [], .capture⟩ (some "/work"))
      (.fresh [] "/" []) fun r v =>
        v.outside = List.replicate 3 (⟨"git", ["pull"], [], .capture⟩, some "/work") ∧
          r = .ok ⟨true, "done", ""⟩ := by
  obtain ⟨k, hk, n, -, hends⟩ := run_settles (p := ⟨2, .none⟩) (c := ⟨"git", ["pull"], [], .capture⟩)
    (plays_scripted thirdTime) (w := .fresh [] "/" []) rfl (by decide)
  obtain rfl : k = 3 := by
    have hle : k ≤ 3 := hk.2 ⟨by omega, .succeeded rfl⟩
    obtain ⟨hpos, hsettles⟩ := hk.1
    obtain rfl | rfl | rfl : k = 1 ∨ k = 2 ∨ k = 3 := by omega
    · exact absurd (settles_iff.1 hsettles) (by simp [thirdTime, RetryPolicy.Retries])
    · exact absurd (settles_iff.1 hsettles) (by simp [thirdTime, RetryPolicy.Retries])
    · rfl
  exact hends

end Runner
end Provision
