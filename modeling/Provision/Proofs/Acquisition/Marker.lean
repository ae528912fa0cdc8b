import Mathlib.Control.Monad.Basic
import Provision.Proofs.Acquisition.Progress

namespace Provision

open PathText World

variable {σ : Type} {w v : World σ} {dir : String} {f : Feature}

namespace Call

def unpacked (dir : String) : Call → Bool
  | .extract _ dest ok => dest = dir && ok
  | .fetch _ _ _ => false

def spoiled (dir : String) : Call → Bool
  | .extract _ dest ok => dest = dir && !ok
  | .fetch _ _ _ => false

end Call

namespace Report

def unpacked (dir : String) (r : Report σ) : Bool := r.calls.any (·.unpacked dir)

def spoiled (dir : String) (r : Report σ) : Bool := r.calls.any (·.spoiled dir)

/-- An installation is reported only after a run that has unpacked an archive. -/
def Sound (dir : String) (rs : List (Report σ)) : Prop :=
  ∀ as r bs, rs = as ++ r :: bs → r.outcome = .ok .alreadyInstalled →
    ∃ q ∈ as, q.unpacked dir = true

/-- As long as nothing has been unpacked, no run that fails to unpack leaves a marker to another,
and none finds one in the directory that it has just made. -/
def Clean (dir : String) (rs : List (Report σ)) : Prop :=
  ∀ as r bs, rs = as ++ r :: bs → (∀ q ∈ as, q.unpacked dir = false) →
    (r.start.isDir (markerPath dir) = false →
      (r.start.prepared dir).isDir (markerPath dir) = false) ∧
    (r.spoiled dir = true → bs ≠ [] → r.finish.isDir (markerPath dir) = false)

variable {r : Report σ} {rs : List (Report σ)}

theorem forall_split_cons {α : Type} {x : α} {xs : List α} {P : List α → α → List α → Prop} :
    (∀ as r bs, x :: xs = as ++ r :: bs → P as r bs) ↔
      P [] x xs ∧ ∀ as r bs, xs = as ++ r :: bs → P (x :: as) r bs := by
  constructor
  · intro h
    exact ⟨h [] x xs rfl, fun as r bs hxs => h (x :: as) r bs (by rw [hxs]; rfl)⟩
  · rintro ⟨hnil, hcons⟩ as r bs hxs
    cases as with
    | nil =>
      obtain ⟨rfl, rfl⟩ := List.cons.inj hxs
      exact hnil
    | cons y as =>
      obtain ⟨rfl, htail⟩ := List.cons.inj hxs
      exact hcons as r bs htail

theorem sound_nil (dir : String) : Sound dir ([] : List (Report σ)) := by
  intro as r bs h
  simp at h

theorem clean_nil (dir : String) : Clean dir ([] : List (Report σ)) := by
  intro as r bs h
  simp at h

theorem sound_cons : Sound dir (r :: rs) ↔
    r.outcome ≠ .ok .alreadyInstalled ∧ (r.unpacked dir = false → Sound dir rs) := by
  rw [Sound, forall_split_cons]
  cases hr : r.unpacked dir with
  | false => simp [Sound, hr]
  | true => simp [hr]

theorem clean_cons : Clean dir (r :: rs) ↔
    (r.start.isDir (markerPath dir) = false →
      (r.start.prepared dir).isDir (markerPath dir) = false) ∧
    (r.spoiled dir = true → rs ≠ [] → r.finish.isDir (markerPath dir) = false) ∧
    (r.unpacked dir = false → Clean dir rs) := by
  rw [Clean, forall_split_cons]
  cases hr : r.unpacked dir with
  | false => simp [Clean, hr, and_assoc]
  | true => simp [hr]

end Report

namespace Acquirer.Ran

variable {a : Acquirer σ} {r : Report σ}

theorem outcome_eq_alreadyInstalled_iff (hr : a.Ran dir f r) :
    r.outcome = .ok .alreadyInstalled ↔
      (r.start.prepared dir).isDir (markerPath dir) = true := by
  cases hr with
  | @unmade w e making =>
    obtain ⟨hne, hdir⟩ := Action.createDirectories_failed (p := dir) (w := w) e making
    constructor
    · intro h
      cases h
    · intro h
      obtain h | h := isDir_of_marked h
      · exact absurd h hne
      · have hnot : (w.prepared dir).isDir dir = false := hdir
        simp [hnot] at h
  | made making course =>
    cases course with
    | complete marked quiet => simp [marked]
    | unstaged windows unmarked quiet => simp [unmarked]
    | @staged u v r windows unmarked quiet extraction => cases r <;> simp [unmarked, Except.map]
    | @reused u v r posix unmarked present quiet extraction =>
      cases r <;> simp [unmarked, Except.map]
    | unfetched posix unmarked missing quiet fetching => simp [unmarked]
    | @fetched u t v r posix unmarked missing quiet fetching extraction =>
      cases r <;> simp [unmarked, Except.map]

theorem not_spoiled (hr : a.Ran dir f r) (hu : r.unpacked dir = true) : r.spoiled dir = false := by
  cases hr with
  | unmade making => rfl
  | made making course =>
    cases course <;>
      simp_all [Report.unpacked, Report.spoiled, Call.unpacked, Call.spoiled]

theorem unmarked (hr : a.Ran dir f r)
    (hfetch : ∀ w, w.isDir (markerPath dir) = false →
      Action.Ends (a.fetch f.release.url (archivePath dir f)) w fun _ v =>
        v.isDir (markerPath dir) = false)
    (hp : (r.start.prepared dir).isDir (markerPath dir) = false)
    (hu : r.unpacked dir = false) (hs : r.spoiled dir = false) :
    r.finish.isDir (markerPath dir) = false := by
  cases hr with
  | unmade making => exact hp
  | made making course =>
    cases course with
    | complete marked quiet => rwa [quiet.isDir]
    | unstaged windows unmarked quiet => rwa [quiet.isDir]
    | @staged u v r windows unmarked quiet extraction =>
      cases h : r.isOk <;>
        simp [Report.unpacked, Report.spoiled, Call.unpacked, Call.spoiled, h] at hu hs
    | @reused u v r posix unmarked present quiet extraction =>
      cases h : r.isOk <;>
        simp [Report.unpacked, Report.spoiled, Call.unpacked, Call.spoiled, h] at hu hs
    | unfetched posix unmarked missing quiet fetching =>
      exact (hfetch _ (by rw [quiet.isDir, unmarked])).of_run fetching
    | @fetched u t v r posix unmarked missing quiet fetching extraction =>
      cases h : r.isOk <;>
        simp [Report.unpacked, Report.spoiled, Call.unpacked, Call.spoiled, h] at hu hs

end Acquirer.Ran

/-- A round that downloads, with a fetcher that never makes the marker, and with nobody else at
work on it. -/
structure Round.Fair (x : Round σ) (dir : String) (f : Feature) : Prop where
  opened : x.acquirer.downloadEnabled = true
  meanwhile : ∀ w, (x.meanwhile w).isDir (markerPath dir) = w.isDir (markerPath dir)
  fetches : ∀ w, w.isDir (markerPath dir) = false →
    Action.Ends (x.acquirer.fetch f.release.url (archivePath dir f)) w fun _ v =>
      v.isDir (markerPath dir) = false

/-- The marker can be trusted in those histories in which no failed extraction leaves it. -/
theorem sound_iff_clean {dir : InstallDir} {rounds : List (Round σ)}
    (hdir : dir.isExternal = false) (h : ∀ x ∈ rounds, x.Fair dir.path f)
    (hw : w.isDir (markerPath dir.path) = false) :
    Report.Sound dir.path (history dir f rounds w) ↔
      Report.Clean dir.path (history dir f rounds w) := by
  induction rounds generalizing w with
  | nil => simp only [history, Report.sound_nil, Report.clean_nil]
  | cons x xs ih =>
    have hx := h x (by simp)
    have hxs : ∀ y ∈ xs, y.Fair dir.path f := fun y hy => h y (by simp [hy])
    have hran := x.acquirer.ran_report (f := f) hdir hx.opened (x.meanwhile w)
    have hstart : (x.meanwhile w).isDir (markerPath dir.path) = false := by rw [hx.meanwhile, hw]
    simp only [history, Report.sound_cons, Report.clean_cons]
    obtain ⟨r, hr⟩ : ∃ r, x.acquirer.report dir f (x.meanwhile w) = r := ⟨_, rfl⟩
    have hrs : r.start = x.meanwhile w := by rw [← hr]; rfl
    rw [hr] at hran ⊢
    rw [← hrs] at hstart
    have hout := hran.outcome_eq_alreadyInstalled_iff
    cases hp : (r.start.prepared dir.path).isDir (markerPath dir.path) with
    | true => simp [hout.2 hp, hstart]
    | false =>
      have hne : r.outcome ≠ .ok .alreadyInstalled := by simp [hout, hp]
      cases hu : r.unpacked dir.path with
      | true => simp [hne, hran.not_spoiled hu]
      | false =>
        cases hm : r.finish.isDir (markerPath dir.path) with
        | false => simp [hne, ih hxs hm]
        | true =>
          have hs : r.spoiled dir.path = true := by
            cases hs : r.spoiled dir.path with
            | true => rfl
            | false => simp [hran.unmarked hx.fetches hp hu hs] at hm
          cases xs with
          | nil => simp [history, Report.sound_nil, Report.clean_nil, hne]
          | cons y ys =>
            -- The next run meets the marker, and nothing has been unpacked.
            have hy := hxs y (by simp)
            have hnext := y.acquirer.ran_report (f := f) hdir hy.opened (y.meanwhile r.finish)
            have hidle := hnext.idle (by
              change (y.meanwhile r.finish).isDir _ = true
              rw [hy.meanwhile, hm])
            simp [history, Report.sound_cons, hidle.outcome, hs]

section Trial

def storingRound (c : Content) : Round Unit where
  meanwhile := id
  acquirer :=
    { fetch := storing c
      extract := (ArchiveFormat.of .linux).extractor
      runner := fun _ _ => return .error ""
      platform := .linux
      buildDir := "build"
      downloadEnabled := true
      policy := .none }

theorem fair_storingRound (c : Content) (dir : String) (f : Feature) :
    (storingRound c).Fair dir f where
  opened := rfl
  meanwhile _ := rfl
  fetches w hw := by
    refine (storing_ends c f.release.url (archivePath dir f) w).mono fun r v h => ?_
    have hl := h.1 (fun d => ¬ Disk.Marked w.cwd dir d) fun d d' _ hkeeps hd hd' =>
      hd (hkeeps.isDir hd')
    have hlast := hl.last ((Bool.not_eq_true _).mpr hw)
    rw [← hl.cwd] at hlast
    exact (Bool.not_eq_true _).mp hlast

def plainEntry (name : String) (sound : Bool) : TarRecord :=
  .entry ⟨name, .regular, 0o755, [0], "", sound, none, false⟩

theorem sound_iff_clean_whole :
    let dir : InstallDir := ⟨"llvm", .cache⟩
    let c : Content := .tarball ⟨.xz, [[plainEntry "top/bin/llvm-config" true]]⟩
    let reports := history dir .llvm14 [storingRound c, storingRound c] (.fresh ["home"] "" ())
    reports.map (·.outcome) = [.ok (.extracted true), .ok .alreadyInstalled] ∧
      (Report.Sound dir.path reports ↔ Report.Clean dir.path reports) := by
  intro dir c reports
  exact ⟨by decide +kernel, sound_iff_clean rfl (by simp [fair_storingRound]) (by decide +kernel)⟩

/-- An archive whose second entry is damaged is taken for an installation in the second run. -/
theorem not_sound_damaged :
    ¬ ∀ (rounds : List (Round Unit)) (w : World Unit),
      (∀ x ∈ rounds, x.Fair "llvm" .llvm14 ∧
        x.acquirer.extract = (ArchiveFormat.of x.acquirer.platform).extractor) →
      w.isDir (markerPath "llvm") = false →
        Report.Sound "llvm" (history ⟨"llvm", .cache⟩ .llvm14 rounds w) := by
  intro h
  let c : Content := .tarball
    ⟨.xz, [[plainEntry "top/bin/llvm-config" true, plainEntry "top/lib/libLLVM.so" false]]⟩
  let w : World Unit := .fresh ["home"] "" ()
  have hfair : ∀ x ∈ [storingRound c, storingRound c], x.Fair "llvm" .llvm14 ∧
      x.acquirer.extract = (ArchiveFormat.of x.acquirer.platform).extractor := by
    intro x hx
    obtain rfl : x = storingRound c := by simpa using hx
    exact ⟨fair_storingRound c _ _, rfl⟩
  have hs := h _ w hfair (by decide +kernel)
  simp only [history, Report.sound_cons] at hs
  exact (hs.2 (by decide +kernel)).1 (by decide +kernel)

end Trial
end Provision
