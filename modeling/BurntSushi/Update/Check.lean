import BurntSushi.Toast
import Mathlib.Order.Lattice.Nat

/-! `update`: the marker file that says when the last check was made, and the attempts that it
makes the program skip. -/
namespace BurntSushi.Update

open Lts
open BurntSushi.Toast (askForApproval)

/-- `UPDATE_CHECK_INTERVAL` in nanoseconds, as all times here. -/
def updateCheckInterval : Nat := 168 * 60 * 60 * 1000000000

/-- What becomes of an awaited operation: the program may end before it is ready. -/
inductive Awaited (α : Type) where
  | ready (x : α)
  | dropped

/-- The `fs::write` of the marker; one that is not done may still have opened the file. -/
inductive Write where
  | done
  | failed (touched : Bool)
  | dropped (touched : Bool)
  deriving DecidableEq, Repr

def Write.touched : Write → Bool
  | .done => true
  | .failed touched => touched
  | .dropped touched => touched

structure Release where
  version : String
  deriving DecidableEq, Repr

/-- `lenient_semver::parse`, and `APP_VERSION` as it parses. -/
structure Semver (V : Type) where
  parse : String → Option V
  appVersion : V

/-- One call of `update`, with what the environment answers at each step it may come to. -/
structure Attempt where
  now : Nat
  metered : Bool
  /-- `data_local_dir` has a value. -/
  markerPath : Bool
  /-- `fs::metadata` on a marker that is there. -/
  metadata : Awaited Bool
  /-- `metadata.modified()` has a value. -/
  modified : Bool
  write : Write
  loadReleases : Awaited (Except String (List Release))
  toastShow : Awaited (Option Bool)
  performUpdate : Awaited (Except String Bool)
  restart : Except String Unit

/-- The time of the marker file, and that of the last attempt. -/
structure LastCheck where
  marker : Option Nat
  clock : Nat
  deriving DecidableEq, Repr

/-- `elapsed()` is an error for a time in the future. -/
def elapsedBelow (modified now interval : Nat) : Bool := modified ≤ now && now - modified < interval

def checkedRecently (marker : Option Nat) (a : Attempt) : Awaited Bool :=
  match a.metadata with
  | .dropped => .dropped
  | .ready readable => .ready <| match marker with
    | none => false
    | some modified => readable && a.modified && elapsedBelow modified a.now updateCheckInterval

def touchCheckMarker (marker : Option Nat) (a : Attempt) : Awaited Unit × Option Nat :=
  (match a.write with
    | .dropped _ => .dropped
    | _ => .ready (),
    if a.write.touched then some a.now else marker)

def shouldCheckForUpdate (marker : Option Nat) (a : Attempt) : Awaited Bool × Option Nat :=
  if a.metered then (.ready false, marker)
  else if a.markerPath then
    match checkedRecently marker a with
    | .dropped => (.dropped, marker)
    | .ready true => (.ready false, marker)
    | .ready false => match touchCheckMarker marker a with
      | (.dropped, marker) => (.dropped, marker)
      | (.ready (), marker) => (.ready true, marker)
  else (.ready true, marker)

section Versions

variable {V : Type} [LinearOrder V]

/-- `max_by` on the versions, which keeps the last of several greatest. -/
def latest : List (Release × V) → Option (Release × V)
  | [] => none
  | r :: rs => some (rs.foldl (fun best r => if r.2 < best.2 then best else r) r)

def findLatestRelease (S : Semver V) (releases : List Release) :
    Except String (Option Release) :=
  match latest (releases.filterMap fun r => (S.parse r.version).map fun v => (r, v)) with
  | none => .error "No valid release found"
  | some (release, version) =>
    if version ≤ S.appVersion then .ok none else .ok (some release)

/-- The part of `update` after its check has been let through. -/
def checkForUpdate (S : Semver V) (a : Attempt) : Awaited (Except String Bool) :=
  match a.loadReleases with
  | .dropped => .dropped
  | .ready (.error _) => .ready (.error "Failed to load releases")
  | .ready (.ok releases) => match findLatestRelease S releases with
    | .error e => .ready (.error e)
    | .ok none => .ready (.ok false)
    | .ok (some _) => match a.toastShow with
      | .dropped => .dropped
      | .ready shown =>
        if askForApproval shown then
          match a.performUpdate with
          | .dropped => .dropped
          | .ready (.error e) => .ready (.error e)
          | .ready (.ok _) => .ready (a.restart.map fun _ => true)
        else .ready (.ok false)

def update (S : Semver V) (marker : Option Nat) (a : Attempt) :
    Awaited (Except String Bool) × Option Nat :=
  match shouldCheckForUpdate marker a with
  | (.dropped, marker) => (.dropped, marker)
  | (.ready false, marker) => (.ready (.ok false), marker)
  | (.ready true, marker) => (checkForUpdate S a, marker)

/-- No attempt is made before the last one. -/
def LastCheck.step (S : Semver V) (s : LastCheck) (a : Attempt) : Option LastCheck :=
  if s.clock ≤ a.now then some ⟨(update S s.marker a).2, a.now⟩ else none

def LastCheck.initial : LastCheck := ⟨none, 0⟩

/-- The attempt is given up although the connection is not metered. -/
def SkippedByMarker (marker : Option Nat) (a : Attempt) : Prop :=
  a.metered = false ∧ (shouldCheckForUpdate marker a).1 = .ready false

/-- The attempt gets to the list of the releases. -/
def SeesReleases (marker : Option Nat) (a : Attempt) : Prop :=
  (shouldCheckForUpdate marker a).1 = .ready true ∧
    ∃ releases, a.loadReleases = .ready (.ok releases)

/-- The release lookup of the attempt is made and succeeds. -/
def LookedUp (S : Semver V) (marker : Option Nat) (a : Attempt) : Prop :=
  (shouldCheckForUpdate marker a).1 = .ready true ∧
    ∃ releases r, a.loadReleases = .ready (.ok releases) ∧ findLatestRelease S releases = .ok r

/-- The attempt is not given up, but is over before it has seen the list of the releases. -/
def FailsUnseen (marker : Option Nat) (a : Attempt) : Prop :=
  (shouldCheckForUpdate marker a).1 ≠ .ready false ∧ ¬ SeesReleases marker a

/-- The attempt does not read a recent marker, and its write reaches the file. -/
def Touches (marker : Option Nat) (a : Attempt) : Prop :=
  a.metered = false ∧ a.markerPath = true ∧ checkedRecently marker a = .ready false ∧
    a.write.touched = true

/-- An attempt that touches the marker goes on to load a list with a version that parses. -/
def TouchConfirmed (S : Semver V) (s : LastCheck) (a : Attempt) : Prop :=
  Touches s.marker a → (∀ touched, a.write ≠ .dropped touched) ∧
    ∃ releases, a.loadReleases = .ready (.ok releases) ∧
      ∃ r ∈ releases, (S.parse r.version).isSome

/-- What an attempt may be skipped for, and what may not be the reason for it. -/
structure LawfulAt (S : Semver V) (tr : List (LastCheck × Attempt)) (s : LastCheck)
    (a : Attempt) : Prop where
  preceded : SkippedByMarker s.marker a → ∃ x ∈ tr, LookedUp S x.1.marker x.2 ∧
    x.2.now ≤ a.now ∧ a.now - x.2.now < updateCheckInterval
  unsuppressed : ∀ r b, tr.getLast? = some (r, b) → FailsUnseen r.marker b →
    SkippedByMarker s.marker a → SkippedByMarker r.marker a

def Lawful (S : Semver V) : List (LastCheck × Attempt) → Prop := AlongPast (LawfulAt S)

variable {S : Semver V} {marker marker' : Option Nat} {a b : Attempt} {s t : LastCheck}
  {tr : List (LastCheck × Attempt)} {releases : List Release}

theorem latest_eq_none_iff {rs : List (Release × V)} : latest rs = none ↔ rs = [] := by
  cases rs <;> simp [latest]

/-- The lookup fails on a loaded list only when none of its versions parses. -/
theorem findLatestRelease_ok_iff :
    (∃ r, findLatestRelease S releases = .ok r) ↔
      ∃ r ∈ releases, (S.parse r.version).isSome := by
  have hnil : (releases.filterMap fun r => (S.parse r.version).map fun v => (r, v)) = [] ↔
      ¬ ∃ r ∈ releases, (S.parse r.version).isSome := by
    simp [List.filterMap_eq_nil_iff]
  rw [← not_iff_comm.mp hnil.symm, ← latest_eq_none_iff]
  simp only [findLatestRelease]
  cases latest (releases.filterMap fun r => (S.parse r.version).map fun v => (r, v)) with
  | none => simp
  | some best =>
    simp only [reduceCtorEq, not_false_eq_true, iff_true]
    split
    · exact ⟨none, rfl⟩
    · exact ⟨some best.1, rfl⟩

theorem skippedByMarker_iff : SkippedByMarker marker a ↔
    a.metered = false ∧ a.markerPath = true ∧ checkedRecently marker a = .ready true := by
  simp only [SkippedByMarker, shouldCheckForUpdate, touchCheckMarker]
  cases a.metered <;> cases a.markerPath <;> rcases checkedRecently marker a with (_ | _) | _ <;>
    cases a.write <;> simp

/-- A marker that is read as recent is. -/
theorem checkedRecently_ready (h : checkedRecently marker a = .ready true) :
    ∃ m, marker = some m ∧ m ≤ a.now ∧ a.now - m < updateCheckInterval := by
  simp only [checkedRecently] at h
  cases hm : a.metadata with
  | dropped => simp [hm] at h
  | ready readable =>
    cases marker with
    | none => simp [hm] at h
    | some m =>
      simp only [hm, elapsedBelow, Awaited.ready.injEq, Bool.and_eq_true, decide_eq_true_eq] at h
      exact ⟨m, rfl, h.2.1, h.2.2⟩

theorem marker_update_of_touches (h : Touches marker a) : (update S marker a).2 = some a.now := by
  obtain ⟨hmetered, hpath, hrecent, htouched⟩ := h
  cases hw : a.write <;>
    simp_all [update, shouldCheckForUpdate, touchCheckMarker, Write.touched]

theorem marker_update_of_not_touches (h : ¬ Touches marker a) : (update S marker a).2 = marker := by
  simp only [Touches, not_and, Bool.not_eq_true] at h
  simp only [update, shouldCheckForUpdate, touchCheckMarker]
  cases hmetered : a.metered
  · cases hpath : a.markerPath
    · simp
    · rcases hrecent : checkedRecently marker a with (_ | _) | _
      · have ht := h hmetered hpath hrecent
        cases hw : a.write <;> simp_all [Write.touched]
      · simp
      · simp
  · simp

theorem checks_iff_of_touches (h : Touches marker a) :
    (shouldCheckForUpdate marker a).1 = .ready true ↔ ∀ touched, a.write ≠ .dropped touched := by
  obtain ⟨hmetered, hpath, hrecent, htouched⟩ := h
  cases hw : a.write <;>
    simp [shouldCheckForUpdate, touchCheckMarker, hmetered, hpath, hrecent, hw]

/-- An attempt that touches the marker is confirmed by a lookup that succeeds. -/
theorem lookedUp_iff_of_touches (h : Touches s.marker a) :
    LookedUp S s.marker a ↔ TouchConfirmed S s a := by
  simp only [LookedUp, TouchConfirmed, h, true_imp_iff, checks_iff_of_touches h,
    ← findLatestRelease_ok_iff]
  simp only [exists_and_left]

theorem step_eq_some (h : s.step S a = some t) :
    s.clock ≤ a.now ∧ t.clock = a.now ∧ t.marker = (update S s.marker a).2 := by
  simp only [LastCheck.step, Option.ite_none_right_eq_some, Option.some.injEq] at h
  obtain ⟨hle, rfl⟩ := h
  exact ⟨hle, rfl, rfl⟩

/-- Where the marker comes from in a run that confirms every touch, and which attempts have left
it alone. -/
structure Marked (S : Semver V) (tr : List (LastCheck × Attempt)) (s : LastCheck) : Prop where
  lookedUp : ∀ m, s.marker = some m → ∃ x ∈ tr, LookedUp S x.1.marker x.2 ∧ x.2.now = m
  untouched : ∀ r b, tr.getLast? = some (r, b) → FailsUnseen r.marker b → s.marker = r.marker

theorem not_touches_of_failsUnseen (hC : TouchConfirmed S s a) (h : FailsUnseen s.marker a) :
    ¬ Touches s.marker a := by
  intro ht
  obtain ⟨hchecks, releases, r, hload, -⟩ := (lookedUp_iff_of_touches ht).mpr hC
  exact h.2 ⟨hchecks, releases, hload⟩

theorem Marked.step (h : Marked S tr s) (hC : TouchConfirmed S s a) (hs : s.step S a = some t) :
    Marked S (tr ++ [(s, a)]) t := by
  obtain ⟨-, -, hmarker⟩ := step_eq_some hs
  constructor
  · intro m hm
    by_cases ht : Touches s.marker a
    · rw [hmarker, marker_update_of_touches ht, Option.some.injEq] at hm
      exact ⟨(s, a), by simp, (lookedUp_iff_of_touches ht).mpr hC, hm⟩
    · rw [hmarker, marker_update_of_not_touches ht] at hm
      obtain ⟨x, hx, hlook⟩ := h.lookedUp m hm
      exact ⟨x, List.mem_append_left _ hx, hlook⟩
  · intro r b hlast hfails
    rw [List.getLast?_concat, Option.some.injEq, Prod.mk.injEq] at hlast
    obtain ⟨rfl, rfl⟩ := hlast
    rw [hmarker, marker_update_of_not_touches (not_touches_of_failsUnseen hC hfails)]

theorem Marked.lawfulAt (h : Marked S tr s) : LawfulAt S tr s a := by
  constructor
  · intro hskip
    obtain ⟨-, -, hrecent⟩ := skippedByMarker_iff.mp hskip
    obtain ⟨m, hm, hle, hlt⟩ := checkedRecently_ready hrecent
    obtain ⟨x, hx, hlook, rfl⟩ := h.lookedUp m hm
    exact ⟨x, hx, hlook, hle, hlt⟩
  · intro r b hlast hfails hskip
    rwa [h.untouched r b hlast hfails] at hskip

theorem marked (h : Trace (LastCheck.step S) LastCheck.initial tr s)
    (hC : Along (TouchConfirmed S) tr) : Marked S tr s := by
  induction h with
  | refl => exact ⟨by simp [LastCheck.initial], by simp⟩
  | snoc _ hs ih =>
    obtain ⟨hC, ha⟩ := along_concat.mp hC
    exact (ih hC).step ha hs

theorem lawful (h : Trace (LastCheck.step S) LastCheck.initial tr s)
    (hC : Along (TouchConfirmed S) tr) : Lawful S tr := by
  induction h with
  | refl => exact alongPast_nil
  | snoc h _ ih =>
    obtain ⟨hC, -⟩ := along_concat.mp hC
    exact alongPast_concat.mpr ⟨ih hC, (marked h hC).lawfulAt⟩

/-- The attempt made just before the interval after `a` is over. -/
def Attempt.weekAfter (a : Attempt) : Attempt :=
  { a with
    now := a.now + (updateCheckInterval - 1)
    metered := false
    markerPath := true
    metadata := .ready true
    modified := true }

/-- After a touch that is not confirmed, an attempt within the interval is skipped without a lookup
that has succeeded since. -/
theorem not_lawful_of_unconfirmed (hC : ¬ TouchConfirmed S s a) (hs : s.step S a = some t)
    (hearlier : ∀ x ∈ tr, x.2.now < a.now) :
    (t.step S a.weekAfter).isSome ∧
      ¬ Lawful S (tr ++ [(s, a)] ++ [(t, a.weekAfter)]) := by
  obtain ⟨-, hclock, hmarker⟩ := step_eq_some hs
  have ht : Touches s.marker a := by
    by_contra hn
    exact hC fun h => absurd h hn
  rw [marker_update_of_touches ht] at hmarker
  constructor
  · simp [LastCheck.step, hclock, Attempt.weekAfter]
  · intro hlaw
    have hskip : SkippedByMarker t.marker a.weekAfter := by
      rw [skippedByMarker_iff]
      refine ⟨rfl, rfl, ?_⟩
      simp [checkedRecently, hmarker, elapsedBelow, Attempt.weekAfter, updateCheckInterval]
    obtain ⟨x, hx, hlook, -, hlt⟩ := (alongPast_concat.mp hlaw).2.preceded hskip
    have hnow : a.now ≤ x.2.now := by
      simp only [Attempt.weekAfter, updateCheckInterval] at hlt
      omega
    rcases List.mem_append.mp hx with hx | hx
    · have := hearlier x hx
      omega
    · obtain rfl := List.mem_singleton.mp hx
      exact hC ((lookedUp_iff_of_touches ht).mp hlook)

end Versions

/-- When every touch of the marker is confirmed by a lookup, no attempt is skipped without a recent
one. The first touch that is not can make the program skip an attempt without. -/
theorem update_skips_after_lookup {V : Type} [LinearOrder V] {S : Semver V}
    {tr : List (LastCheck × Attempt)} {s : LastCheck}
    (h : Trace (LastCheck.step S) LastCheck.initial tr s) :
    (Along (TouchConfirmed S) tr → Lawful S tr) ∧
      ∀ a t, s.step S a = some t → ¬ TouchConfirmed S s a → (∀ x ∈ tr, x.2.now < a.now) →
        ∃ b u, t.step S b = some u ∧ ¬ Lawful S (tr ++ [(s, a)] ++ [(t, b)]) := by
  refine ⟨lawful h, ?_⟩
  intro a t hs hC hearlier
  obtain ⟨hb, hlaw⟩ := not_lawful_of_unconfirmed hC hs hearlier
  obtain ⟨u, hu⟩ := Option.isSome_iff_exists.mp hb
  exact ⟨a.weekAfter, u, hu, hlaw⟩

section Runs

/-- Versions that are plain numbers. -/
def numbered : Semver Nat := ⟨Toast.parseUsize, 5⟩

/-- An attempt at `now` that gets this answer to its lookup and is declined by the user. -/
def attemptAt (now : Nat) (loaded : Except String (List Release)) : Attempt where
  now := now
  metered := false
  markerPath := true
  metadata := .ready true
  modified := true
  write := .done
  loadReleases := .ready loaded
  toastShow := .ready (some false)
  performUpdate := .dropped
  restart := .ok ()

def hour : Nat := 60 * 60 * 1000000000

theorem skipped_hour_later : SkippedByMarker (some hour) (attemptAt (2 * hour) (.ok [])) :=
  skippedByMarker_iff.mpr ⟨rfl, rfl, by
    simp [checkedRecently, attemptAt, elapsedBelow, hour, updateCheckInterval]⟩

/-- A lookup that succeeds, and an attempt an hour later. -/
theorem update_skips_after_lookup_online :
    let online := attemptAt hour (.ok [⟨"6"⟩])
    let s : LastCheck := ⟨some hour, hour⟩
    Lawful numbered [(LastCheck.initial, online), (s, attemptAt (2 * hour) (.ok []))] ∧
      SkippedByMarker s.marker (attemptAt (2 * hour) (.ok [])) := by
  intro online s
  have hskip := skipped_hour_later
  have hfirst : LastCheck.initial.step numbered online = some s := rfl
  have hsecond : s.step numbered (attemptAt (2 * hour) (.ok [])) = some ⟨some hour, 2 * hour⟩ := rfl
  have h := (Trace.refl.snoc hfirst).snoc hsecond
  refine ⟨(update_skips_after_lookup h).1 ?_, hskip⟩
  refine along_concat.mpr ⟨along_concat.mpr ⟨along_nil, ?_⟩, ?_⟩
  · intro _
    exact ⟨by simp [online, attemptAt], [⟨"6"⟩], rfl, ⟨"6"⟩, by simp, by decide⟩
  · rintro ⟨-, -, hrecent, -⟩
    have hready := (skippedByMarker_iff.mp hskip).2.2.symm.trans hrecent
    simp at hready

/-- A lookup that fails, and an attempt an hour later. -/
theorem update_skips_after_offline :
    ¬ ∀ tr s, Trace (LastCheck.step numbered) LastCheck.initial tr s → Lawful numbered tr := by
  intro hall
  have hfirst : LastCheck.initial.step numbered (attemptAt hour (.error "offline")) =
      some ⟨some hour, hour⟩ := rfl
  have hsecond : LastCheck.step numbered ⟨some hour, hour⟩ (attemptAt (2 * hour) (.ok [])) =
      some ⟨some hour, 2 * hour⟩ := rfl
  have hlaw := hall _ _ ((Trace.refl.snoc hfirst).snoc hsecond)
  obtain ⟨x, hx, hlook, -⟩ := (alongPast_concat.mp hlaw).2.preceded skipped_hour_later
  obtain rfl := List.mem_singleton.mp hx
  obtain ⟨-, releases, r, hload, -⟩ := hlook
  simp [attemptAt] at hload

end Runs

end BurntSushi.Update
