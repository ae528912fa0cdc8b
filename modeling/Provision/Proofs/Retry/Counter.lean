import Provision.Proofs.Retry.Commands
import Provision.Proofs.Retry.Downloads

namespace Provision

open Provision.Action

variable {σ α : Type} {p : RetryPolicy} {w v : World σ}

namespace RetryPolicy

/-- The attempts have ended, their numbers were those from 1, and there are not more than allowed. -/
structure Counts (p : RetryPolicy) (announce : Nat → Event) (k : Nat) (r : Except Failure α)
    (w v : World σ) : Prop where
  ended : r ≠ .error .endlessRetry
  announced : Announced announce k w v
  allowed : k ≤ p.maxRetries.toNat + 1

theorem toString_ne : toString (0 : Nat) ≠ toString (2 ^ 32 : Nat) := by decide

end RetryPolicy

namespace Runner

open RetryPolicy

variable {R : Runner σ} {asked : σ → List (Command × Option String)} {c : Command}
  {dir : Option String}

/-- As many calls are made as are counted, and a failure says how many. -/
def Counted (R : Runner σ) (asked : σ → List (Command × Option String)) (p : RetryPolicy)
    (c : Command) (dir : Option String) (w : World σ) : Prop :=
  Ends (R.run p c dir) w fun r v => ∃ k, p.Counts (announcement c) k r w v ∧
    asked v.outside = asked w.outside ++ List.replicate k (c, dir) ∧
    ∀ line n text, r = .error (.commandFailed line n text) → n.toNat = k

def Silent (R : Runner σ) : Prop := ∀ c dir w, (R c dir w).2.events = w.events

theorem Silent.announces (h : R.Silent) : p.Announces (R.turn p c dir) (announcement c) where
  outcome n w := by
    rw [turn, (remarked_outcome _ _ _ _ _).said, said_of_events _ (h _ _ _)]
    exact said_told (e := announcement c n.toNat) rfl w
  next n w u hu := by
    rw [(remarked_next hu).said, said_of_events _ (h _ _ _)]
    exact said_told (e := announcement c n.toNat) rfl w

theorem announcement_ne (c : Command) : announcement c 0 ≠ announcement c (2 ^ 32) :=
  fun h => toString_ne (congrArg (fun e => (e.fields.getD 0 ("", "")).2) h)

theorem outcome_turn (R : Runner σ) (p : RetryPolicy) (c : Command) (dir : Option String)
    (n : UInt32) (w : World σ) : ∃ a, (R.turn p c dir n w).outcome.1 = c.result n a :=
  ⟨_, outcome_judge _ _ _ _ _⟩

theorem counted_iff (h : R.Silent) (hasked : R.Records asked) :
    R.Counted asked p c dir w ↔ ¬ p.Wraps (R.turn p c dir) w := by
  rw [Counted, run_turns]
  constructor
  · rintro ⟨k, hcounts, -⟩ hwraps
    exact h.announces.wrapped hwraps (announcement_ne c) hcounts.ended hcounts.announced
  · intro hcounted
    obtain ⟨i, u, hl⟩ := exists_last hcounted
    obtain ⟨a, hresult⟩ := outcome_turn R p c dir (.ofNat (i + 1)) u
    rw [← hl.turns] at hresult
    refine ⟨i + 1, ⟨?_, h.announces.last hl, Nat.succ_le_succ hl.bounded⟩, ?_, ?_⟩
    · rw [hresult]
      exact c.result_ends _ a
    · rw [hasked.logs.last hl, entries_const, List.flatten_replicate_singleton]
    · intro line n text hfailed
      rw [Command.attempts_result (hresult.symm.trans hfailed)]
      exact UInt32.toNat_ofNat_of_lt' hl.counted

end Runner

namespace Download

open RetryPolicy World

variable {net : Network σ} {asked : σ → List Url} {url dest : String}

/-- An attempt that is counted asks the server, if the address is one that can be asked for. -/
def Counted (net : Network σ) (asked : σ → List Url) (p : RetryPolicy) (url dest : String)
    (w : World σ) : Prop :=
  Ends (fetch net p url dest) w fun r v => ∃ k, p.Counts (announcement url dest) k r w v ∧
    asked v.outside = asked w.outside ++ (List.replicate k (requested url)).flatten

def Wraps (net : Network σ) (p : RetryPolicy) (url dest : String) (w : World σ) : Prop :=
  Ends (createParents dest) w fun r v => r = .ok () ∧ p.Wraps (turn net url dest) v

theorem announcement_ne (url dest : String) :
    announcement url dest 0 ≠ announcement url dest (2 ^ 32) :=
  fun h => toString_ne (congrArg (fun e => (e.fields.getD 1 ("", "")).2) h)

theorem counted_iff (h : net.Records asked) :
    Counted net asked p url dest w ↔ ¬ Wraps net p url dest w := by
  obtain ⟨r, u, hrun⟩ : ∃ r u, (createParents dest).run.run w = (r, u) := ⟨_, _, rfl⟩
  obtain ⟨hu, hr⟩ := (Untold.createParents dest).of_run hrun
  rw [Counted, fetch, Ends.bind_iff, Wraps, Ends.iff_of_run hrun, Ends.iff_of_run hrun]
  have hsaid : said (announcement url dest 0).message u = said (announcement url dest 0).message w :=
    said_of_events _ hu.events
  cases r with
  | error e =>
    refine iff_of_true ⟨0, ⟨?_, ?_, Nat.zero_le _⟩, ?_⟩ fun hwraps => by cases hwraps.1
    · simpa using hr
    · simpa [Announced, announcements] using hsaid
    · simp [hu.outside]
  | ok =>
    simp only [true_and]
    rw [attempts_turns]
    constructor
    · rintro ⟨k, hcounts, -⟩ hwraps
      refine (turn_announces h).wrapped hwraps (announcement_ne url dest) (k := k) hcounts.ended ?_
      rw [Announced, hsaid]
      exact hcounts.announced
    · intro hcounted
      obtain ⟨i, v, hl⟩ := exists_last hcounted
      refine ⟨i + 1, ⟨?_, ?_, Nat.succ_le_succ hl.bounded⟩, ?_⟩
      · rw [hl.turns]
        exact turn_ends net url dest _ _
      · rw [Announced, ← hsaid]
        exact (turn_announces h).last hl
      · rw [← hu.outside, (turn_logs h).last hl, entries_const]

end Download

/-- Both loops count right unless the counter starts anew. -/
theorem counts_iff {τ : Type} {R : Runner σ} {asked : σ → List (Command × Option String)}
    {net : Network τ} {requested : τ → List Url} (hsilent : R.Silent) (hR : R.Records asked)
    (hnet : net.Records requested) (p : RetryPolicy) :
    (∀ c dir w, R.Counted asked p c dir w ↔ ¬ p.Wraps (R.turn p c dir) w) ∧
      ∀ url dest w, Download.Counted net requested p url dest w ↔ ¬ Download.Wraps net p url dest w :=
  ⟨fun _ _ _ => Runner.counted_iff hsilent hR, fun _ _ _ => Download.counted_iff hnet⟩

def Network.silent : Network (List Url) := ⟨fun u s => (.silence, s ++ [u]), fun _ s => (0, s)⟩

theorem Network.records_silent : Network.silent.Records id := ⟨fun _ _ => rfl, fun _ _ => rfl⟩

theorem Runner.silent_scripted (script : Nat → Except String CommandOutput) :
    (scripted script).Silent := fun _ _ _ => rfl

theorem counts_iff_thirdTime : (Runner.scripted Runner.thirdTime).Counted id ⟨2, none⟩
      ⟨"git", ["pull"], [], .capture⟩ none (.fresh [] "/" []) ∧
    Download.Counted Network.silent id ⟨2, none⟩ "http://h/a" "d/f" (.fresh [] "/" []) := by
  obtain ⟨hcommands, hdownloads⟩ := counts_iff (Runner.silent_scripted Runner.thirdTime)
    (Runner.plays_scripted _).records Network.records_silent ⟨2, none⟩
  exact ⟨(hcommands _ _ _).2 fun h => absurd h.1 (by decide),
    (hdownloads _ _ _).2 fun h => absurd h.2.1 (by decide)⟩

def RetryPolicy.greatest : RetryPolicy := ⟨4294967295, .none⟩

theorem RetryPolicy.le_greatest (n : UInt32) : n ≤ greatest.maxRetries := by
  have hn := n.toNat_lt
  have hmax : greatest.maxRetries.toNat = 4294967295 := rfl
  rw [UInt32.le_iff_toNat_le]
  omega

namespace Runner

open RetryPolicy

def failing : Runner (List (Command × Option String)) := scripted fun _ => .ok ⟨false, "", "boom"⟩

theorem isSome_next_failing (c : Command) (dir : Option String) (n : UInt32)
    (w : World (List (Command × Option String))) :
    ((failing.turn greatest c dir n w).next? greatest).isSome :=
  (isSome_next_judge greatest c n (.ok ⟨false, "", "boom"⟩) _).2 ⟨_, rfl, rfl, rfl⟩

theorem failing_wraps (c : Command) (dir : Option String)
    (w : World (List (Command × Option String))) :
    greatest.Wraps (failing.turn greatest c dir) w :=
  ⟨rfl, isSome_worn (isSome_next_failing c dir) _ w⟩

theorem failing_endless (c : Command) (dir : Option String)
    (w : World (List (Command × Option String))) (n : Nat) :
    Ends (failing.attempt greatest c dir n 0) w fun r v =>
      r = .error .endlessRetry ∧ v.outside = w.outside ++ List.replicate n (c, dir) := by
  refine (attempt_turns failing greatest c dir n 0 w).mono fun r v hrv => ?_
  obtain ⟨hend, hasked⟩ := (plays_scripted _).records.logs.endless le_greatest
    (isSome_next_failing c dir) (fun _ => rfl) n 0 w
  rw [List.flatten_replicate_singleton] at hasked
  exact ⟨(congrArg Prod.fst hrv).trans hend, (congrArg (·.2.outside) hrv).trans hasked⟩

theorem not_counted_failing :
    ¬ failing.Counted id greatest ⟨"git", ["pull"], [], .capture⟩ .none (.fresh [] "/" []) ∧
      ∀ n, Ends (failing.attempt greatest ⟨"git", ["pull"], [], .capture⟩ .none n 0)
        (.fresh [] "/" []) fun r v => r = .error .endlessRetry ∧
          v.outside = List.replicate n (⟨"git", ["pull"], [], .capture⟩, .none) := by
  refine ⟨fun hcounted => ?_, fun n => failing_endless _ _ _ n⟩
  obtain ⟨k, hcounts, -⟩ := run_turns.1 hcounted
  exact (silent_scripted _).announces.wrapped (failing_wraps _ _ _) (announcement_ne _)
    hcounts.ended hcounts.announced

end Runner
end Provision
