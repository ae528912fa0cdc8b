import Provision.CommandLine
import Provision.Proofs.Arguments.Reading

namespace Provision

open Arguments

variable {σ : Type} {s t : Setting} {env env' : Table String String} {ss : List Setting}
  {g g' e : Given} {v var name : String} {args : List String} {topic : Topic}

namespace Setting

def inherited? (s : Setting) (env : Table String String) : Option String := s.envName?.bind env.get?

theorem envName?_injective (hs : s.envName? = some var) (ht : t.envName? = some var) : s = t := by
  cases s <;> cases t <;> first | rfl | exact absurd (hs.trans ht.symm) (by decide) | exact nomatch hs

theorem inherited?_congr (hs : s.envName? = some var)
    (henv : ∀ k, k ≠ var → env'.get? k = env.get? k) (ht : t ≠ s) :
    t.inherited? env' = t.inherited? env := by
  rw [inherited?, inherited?]
  cases hk : t.envName? with
  | none => rfl
  | some k => exact henv k fun heq => ht (envName?_injective (heq ▸ hk) hs)

end Setting

namespace Arguments

theorem fillIn_given (h : g.has s = true) : fillIn env (s :: ss) g = fillIn env ss g := by
  simp [fillIn, h]

theorem fillIn_absent (h : s.inherited? env = none) : fillIn env (s :: ss) g = fillIn env ss g := by
  rw [Setting.inherited?] at h
  simp [fillIn, h]

theorem fillIn_found (hg : g.has s = false) (h : s.inherited? env = some v) :
    fillIn env (s :: ss) g = g.set s v >>= fillIn env ss := by
  rw [Setting.inherited?] at h
  simp [fillIn, hg, h]

theorem fillIn_congr (h : ∀ t, g.has t = false → t.inherited? env' = t.inherited? env) :
    fillIn env' ss g = fillIn env ss g := by
  induction ss generalizing g with
  | nil => rfl
  | cons t ss ih =>
    cases hg : g.has t with
    | true => rw [fillIn_given hg, fillIn_given hg, ih h]
    | false =>
      cases hv : t.inherited? env with
      | none => rw [fillIn_absent hv, fillIn_absent ((h t hg).trans hv), ih h]
      | some v =>
        rw [fillIn_found hg hv, fillIn_found hg ((h t hg).trans hv)]
        cases hset : g.set t v with
        | error f => rfl
        | ok k =>
          refine ih fun u hu => h u ?_
          rw [Given.has_set hset, Bool.or_eq_false_iff] at hu
          exact hu.2

theorem fillIn_adopt (hset : Given.empty.set s v = .ok e) (hs : s ∈ ss) (hg : g.has s = false)
    (hv : s.inherited? env = some v) (hothers : ∀ t, t ≠ s → t.inherited? env' = t.inherited? env) :
    fillIn env' ss (g.adopt s e) = fillIn env ss g := by
  induction ss generalizing g with
  | nil => cases hs
  | cons t ss ih =>
    by_cases ht : t = s
    · subst ht
      have hgiven : (g.adopt t e).has t = true := by simp [Given.has_adopt, Given.has_of_set hset]
      have hother (u : Setting) (hu : (g.adopt t e).has u = false) : u ≠ t := by
        rintro rfl
        cases hgiven.symm.trans hu
      rw [fillIn_found hg hv, Given.set_eq, hset, fillIn_given hgiven]
      exact fillIn_congr fun u hu => hothers u (hother u hu)
    · have hs : s ∈ ss := (List.mem_cons.1 hs).resolve_left (Ne.symm ht)
      have hsame : (g.adopt s e).has t = g.has t := by rw [Given.has_adopt, if_neg ht]
      cases hgiven : g.has t with
      | true => rw [fillIn_given hgiven, fillIn_given (hsame.trans hgiven), ih hs hg]
      | false =>
        cases hu : t.inherited? env with
        | none => rw [fillIn_absent hu, fillIn_absent ((hothers t ht).trans hu), ih hs hg]
        | some u =>
          rw [fillIn_found hgiven hu, fillIn_found (hsame.trans hgiven) ((hothers t ht).trans hu),
            Given.set_adopt ht]
          cases hk : g.set t u with
          | error f => rfl
          | ok k => exact ih hs ((Given.has_set_other hk ht).trans hg)

theorem fillIn_refused {f : UsageError} (hset : Given.empty.set s v = .error f) (hs : s ∈ ss)
    (hg : g.has s = false) (hv : s.inherited? env = some v) : fillIn env ss g ≠ .ok g' := by
  induction ss generalizing g with
  | nil => cases hs
  | cons t ss ih =>
    intro h
    by_cases ht : t = s
    · subst ht
      rw [fillIn_found hg hv, Given.set_eq, hset] at h
      cases h
    · have hs : s ∈ ss := (List.mem_cons.1 hs).resolve_left (Ne.symm ht)
      cases hgiven : g.has t with
      | true => exact ih hs hg (fillIn_given hgiven ▸ h)
      | false =>
        cases hu : t.inherited? env with
        | none => exact ih hs hg (fillIn_absent hu ▸ h)
        | some u =>
          rw [fillIn_found hgiven hu] at h
          obtain ⟨k, hk, h⟩ := bind_eq_ok.1 h
          exact ih hs ((Given.has_set_other hk ht).trans hg) h

def argument (s : Setting) (v : String) : String := "--" ++ s.long ++ "=" ++ v

theorem long?_argument (s : Setting) (v : String) : long? (argument s v) = some (s.long, some v) := by
  have hlong : '=' ∉ s.long.toList := by cases s <;> decide
  obtain ⟨c, r, hc⟩ : ∃ c r, s.long.toList = c :: r := by cases s <;> exact ⟨_, _, rfl⟩
  have hsplit := Text.splitOnce?_append hlong v.toList
  rw [hc, List.cons_append] at hsplit
  have hname : String.ofList (c :: r) = s.long := by rw [← hc, String.ofList_toList]
  simp [long?, argument, hc, hsplit, hname]

theorem settingOf?_long (hs : s.envName? = some var) (forInstall : Bool) :
    settingOf? forInstall s.long = some s := by
  cases s <;> cases forInstall <;> first | rfl | exact nomatch hs

def blank : Reading := ⟨.empty, .nothing, false⟩

@[simp] theorem times_blank (s : Setting) : blank.times s = 0 := by
  cases s <;> rfl

theorem readAll_argument (hs : s.envName? = some var) (topic : Topic) (v : String)
    (args : List String) : readAll topic true blank (argument s v :: args) =
      Given.empty.set s v >>= fun e => readAll topic true (blank.adopt s e) args := by
  have hdashes : argument s v ≠ "--" := by
    intro h
    cases (congrArg long? h).symm.trans (long?_argument s v)
  have hhelp : s.long ≠ "help" := by cases s <;> decide
  have hread : readLong topic blank s.long (some v) =
      Given.empty.set s v >>= fun e => .ok { blank with given := e } := by
    have hresolve : blank.resolve = .ok blank := rfl
    simp only [readLong, if_neg hhelp, settingOf?_long hs, hresolve, ← Given.setOnce_empty]
    rfl
  rw [readAll_cons, step, if_neg hdashes, long?_argument]
  simp only [hread]
  cases hset : Given.empty.set s v with
  | error f => rfl
  | ok e =>
    have hadopt : blank.adopt s e = { blank with given := e } := by
      simp only [Reading.adopt, blank, Given.adopt_of_set hset]
    exact congrArg (readAll topic true · args) hadopt.symm

end Arguments

namespace Invocation

theorem readCommand_eq (topic : Topic) (env : Table String String) (args : List String) :
    readCommand topic env args = readAll topic true blank args >>= fun r =>
      fillIn env Setting.all r.given >>= fun g =>
        match g.buildDir with
        | some b => .ok (b, g)
        | none => .error .argumentMissing := rfl

theorem readCommand_named {x : String × Given} (hs : s.envName? = some var)
    (henv : ∀ k, k ≠ var → env'.get? k = env.get? k) (hnamed : 0 < mentions s args)
    (h : readCommand topic env args = .ok x) : readCommand topic env' args = .ok x := by
  rw [readCommand_eq] at h ⊢
  obtain ⟨r, hread, h⟩ := bind_eq_ok.1 h
  have htimes := readAll_times hread s
  have hother (t : Setting) (ht : r.given.has t = false) : t ≠ s := by
    rintro rfl
    simp [ht] at htimes
    omega
  refine bind_eq_ok.2 ⟨r, hread, ?_⟩
  rw [fillIn_congr fun t ht => Setting.inherited?_congr hs henv (hother t ht)]
  exact h

/-- Where an option is not named, its variable does what the option does. -/
theorem readCommand_unnamed {x : String × Given} (hs : s.envName? = some var)
    (henv : ∀ k, k ≠ var → env'.get? k = env.get? k) (hnamed : mentions s args = 0)
    (hv : env.get? var = some v) :
    readCommand topic env args = .ok x ↔ readCommand topic env' (argument s v :: args) = .ok x := by
  have hvalue : s.inherited? env = some v := by rw [Setting.inherited?, hs]; exact hv
  have hall : s ∈ Setting.all := by cases s <;> decide
  have hnone {r : Reading} (hread : readAll topic true blank args = .ok r) :
      r.given.has s = false := by
    simpa [hnamed] using readAll_times hread s
  rw [readCommand_eq, readCommand_eq, readAll_argument hs]
  cases hset : Given.empty.set s v with
  | error f =>
    refine iff_of_false (fun h => ?_) nofun
    obtain ⟨r, hread, h⟩ := bind_eq_ok.1 h
    obtain ⟨g, hfill, -⟩ := bind_eq_ok.1 h
    exact fillIn_refused hset hall (hnone hread) hvalue hfill
  | ok e =>
    have hothers (t : Setting) (ht : t ≠ s) : t.inherited? env' = t.inherited? env :=
      Setting.inherited?_congr hs henv ht
    simp only [bind, Except.bind, readAll_adopt (times_blank s) fun _ => hnamed]
    cases hread : readAll topic true blank args with
    | error f => exact Iff.rfl
    | ok r =>
      have hfill := fillIn_adopt hset hall (hnone hread) hvalue hothers
      simp only [Except.map, Reading.adopt, hfill]

theorem readCommand_repeated {x : String × Given} (hs : s.envName? = some var)
    (hnamed : 0 < mentions s args) : readCommand topic env (argument s v :: args) ≠ .ok x := by
  intro h
  rw [readCommand_eq, readAll_argument hs] at h
  obtain ⟨r, hread, -⟩ := bind_eq_ok.1 h
  obtain ⟨e, hset, hread⟩ := bind_eq_ok.1 hread
  have htimes := readAll_times hread s
  have hgiven : (blank.adopt s e).given.has s = true := by
    simp only [Reading.adopt, blank, Given.adopt_of_set hset, Given.has_of_set hset]
  have hbound : (r.given.has s).toNat ≤ 1 := Bool.toNat_le _
  simp [Reading.times, hgiven] at htimes
  omega

def IsCommand (name : String) : Prop := name = "install" ∨ name = "status"

theorem ofArguments_command (h : IsCommand name) :
    ∃ (topic : Topic) (f : String × Given → Invocation), ∀ env args,
      ofArguments env (name :: args) = (readCommand topic env args).map f := by
  obtain rfl | rfl := h
  · exact ⟨.install, fun x => .install x.1 x.2.operation
      ⟨x.2.retries.getD RetryCount.standard, x.2.retryPattern⟩ x.2.settings,
      fun env args => bind_ok (readCommand .install env args) _⟩
  · exact ⟨.status, fun x => .status x.1 x.2.settings,
      fun env args => bind_ok (readCommand .status env args) _⟩

def config : Invocation → Except Failure Config
  | .install buildDir operation retryPolicy settings =>
    Config.ofSettings buildDir settings operation retryPolicy
  | .status buildDir settings => Config.ofSettings buildDir settings none .none

def perform (services : Services σ) : Invocation → Config → Action σ Unit
  | .install .., c => do let _ ← Provision.install services c
  | .status .., c => do
    let report ← StatusReport.gather services.runner c
    Action.print report.text

theorem execute_eq (services : Services σ) (i : Invocation) :
    CommandLine.execute services i = ofExcept i.config >>= i.perform services := by
  cases i <;> rfl

def configured (env : Table String String) (args : List String) :
    Except UsageError (Invocation × Except Failure Config) :=
  (ofArguments env args).map fun i => (i, i.config)

theorem configured_command (h : IsCommand name) :
    ∃ (topic : Topic) (f : String × Given → Invocation × Except Failure Config), ∀ env args,
      configured env (name :: args) = (readCommand topic env args).map f := by
  obtain ⟨topic, f, hf⟩ := ofArguments_command h
  refine ⟨topic, fun x => (f x, (f x).config), fun env args => ?_⟩
  rw [configured, hf]
  cases readCommand topic env args <;> rfl

/-- An option that is named in a command line hides its variable. Otherwise the variable does what
the option does with the same value, whether that is good or not: the arguments are the same, and so
is the configuration, or the reason why there is none. -/
theorem configured_layered (hs : s.envName? = some var) (hname : IsCommand name)
    (henv : ∀ k, k ≠ var → env'.get? k = env.get? k) :
    (0 < mentions s args → ∀ x, configured env (name :: args) = .ok x →
      configured env' (name :: args) = .ok x) ∧
    ((0 < mentions s args → ∀ x, configured env (name :: args) ≠ .ok x) →
      ∀ v, env.get? var = some v → ∀ x, configured env (name :: args) = .ok x ↔
        configured env' (name :: argument s v :: args) = .ok x) := by
  obtain ⟨topic, f, hf⟩ := configured_command hname
  refine ⟨fun hnamed x h => ?_, fun hnot v hv x => ?_⟩
  · rw [hf] at h ⊢
    obtain ⟨a, ha, hx⟩ := map_eq_ok.1 h
    exact map_eq_ok.2 ⟨a, readCommand_named hs henv hnamed ha, hx⟩
  · obtain hnone | hnamed := Nat.eq_zero_or_pos (mentions s args)
    · simp only [hf, map_eq_ok, readCommand_unnamed hs henv hnone hv]
    · refine iff_of_false (hnot hnamed x) fun h => ?_
      rw [hf] at h
      obtain ⟨a, ha, -⟩ := map_eq_ok.1 h
      exact readCommand_repeated hs hnamed ha

section Trial

theorem configured_layered_feature :
    (∃ x, configured [] ["install", "build", "--feature", "llvm14-0"] = .ok x ∧
      configured [("RSQL_LLVM_FEATURE_VERSION", "none")]
        ["install", "build", "--feature", "llvm14-0"] = .ok x) ∧
    ∃ x, configured [("RSQL_LLVM_FEATURE_VERSION", "none")] ["install", "build"] = .ok x ∧
      configured [] ["install", "--feature=none", "build"] = .ok x := by
  have hother (k : String) (hk : k ≠ "RSQL_LLVM_FEATURE_VERSION") :
      Table.get? [("RSQL_LLVM_FEATURE_VERSION", "none")] k = Table.get? [] k := by
    simp [Ne.symm hk]
  have hcommand : IsCommand "install" := .inl rfl
  refine ⟨⟨_, rfl, ?_⟩, ?_⟩
  · exact (configured_layered (s := .feature) rfl hcommand hother).1 (by decide) _ rfl
  · have hnone : mentions .feature ["build"] = 0 := by decide
    have hsame := (configured_layered (s := .feature) rfl hcommand
      fun k hk => (hother k hk).symm).2 fun hnamed => absurd hnone (Nat.ne_of_gt hnamed)
    exact ⟨_, rfl, (hsame "none" rfl _).1 rfl⟩

end Trial

end Invocation
end Provision
