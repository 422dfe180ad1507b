import BurntSushi.AdBlocker.Step

/-! The hook state follows the state that the scanner published last. -/
namespace BurntSushi.AdBlocker

open Lts
open Scanner (SpotifyProcessScanner SpotifyState SpotifyInfo OwnedProcess IoError)

/-- Hooked to the process of the running Spotify, or unhooked while none runs. -/
def SpotifyHookState.Agrees : SpotifyHookState → SpotifyState → Prop
  | .hooked state, .running info => state.syringe = info.process
  | .unhooked, .stopped => True
  | _, _ => False

/-- The handler in progress, if any, is the one for the published state. -/
def Consumer.Handles : Consumer → SpotifyState → Prop
  | .hooking spotify _, .running info => info.process = spotify
  | .hooking _ _, .stopped => False
  | .unhooking (.hook spotify) _ _, .running info => info.process = spotify
  | .unhooking (.hook _) _ _, .stopped => False
  | .unhooking .loop _ _, .running _ => False
  | _, _ => True

namespace SpotifyAdBlocker

/-- A handler keeps the state it was started for from being overwritten, and a consumer that has
seen the last version agrees with it. -/
structure Current (s : SpotifyAdBlocker) : Prop where
  seen : s.seen ≤ s.scanner.notifier.version
  guarded : s.consumer.holdsGuard = true → s.scanner.notifier.readers ≠ 0 ∧
    s.seen = s.scanner.notifier.version ∧ s.consumer.Handles s.scanner.notifier.value
  settled : s.consumer = .changed → s.seen = s.scanner.notifier.version →
    s.state.Agrees s.scanner.notifier.value

/-- `changed()` can return, whatever the clone of the state gives, and the state published last is
then seen. -/
def Wakes (shutdown : Bool) (s : SpotifyAdBlocker) : Prop :=
  ∀ tryClone, ∃ t, step shutdown s (.wake tryClone) = some t ∧
    t.scanner.notifier.value = s.scanner.notifier.value ∧
    t.scanner.notifier.version = s.scanner.notifier.version ∧
    t.seen = s.scanner.notifier.version

variable {shutdown : Bool} {s t : SpotifyAdBlocker} {l : Label}

theorem current_new (processes : Processes) : (new processes).Current :=
  ⟨Nat.le_refl _, by simp [new, Consumer.holdsGuard], fun _ _ => trivial⟩

/-- The consumer neither handles a state nor waits for one. -/
theorem Current.over (hI : s.Current) (hs : t.scanner.notifier.version = s.scanner.notifier.version)
    (hv : t.seen = s.seen) (hg : t.consumer.holdsGuard = false) (hc : t.consumer ≠ .changed) :
    t.Current := by
  refine ⟨?_, ?_, fun h => absurd h hc⟩
  · rw [hs, hv]
    exact hI.seen
  · intro h
    rw [hg] at h
    simp at h

/-- A handler goes on for the same published state. -/
theorem Current.handle (hI : s.Current) (hg : s.consumer.holdsGuard = true)
    (hs : t.scanner = s.scanner) (hv : t.seen = s.seen) (hc : t.consumer ≠ .changed)
    (hh : ∀ value, s.consumer.Handles value → t.consumer.Handles value) : t.Current := by
  obtain ⟨hr, hseen, hhandles⟩ := hI.guarded hg
  refine ⟨?_, ?_, fun h => absurd h hc⟩
  · rw [hs, hv]
    exact hI.seen
  · intro _
    rw [hs, hv]
    exact ⟨hr, hseen, hh _ hhandles⟩

/-- `changed()` has returned, and the guard is taken for the last version. -/
theorem current_wake (hs : t.scanner.notifier.version = s.scanner.notifier.version)
    (hv : t.seen = s.scanner.notifier.version)
    (hr : t.scanner.notifier.readers = s.scanner.notifier.readers + 1)
    (hc : t.consumer ≠ .changed) (hh : t.consumer.Handles t.scanner.notifier.value) :
    t.Current := by
  refine ⟨by omega, fun _ => ⟨by omega, by omega, hh⟩, fun h => absurd h hc⟩

/-- The guard is dropped once the hook state agrees with the published one. -/
theorem Current.settle (hI : s.Current) (hs : t.scanner = s.unlock.scanner) (hv : t.seen = s.seen)
    (hg : t.consumer.holdsGuard = false) (ha : t.state.Agrees s.scanner.notifier.value) :
    t.Current := by
  refine ⟨?_, ?_, ?_⟩
  · rw [hs, hv]
    exact hI.seen
  · intro h
    rw [hg] at h
    simp at h
  · intro _ _
    rw [hs]
    exact ha

theorem current_panic {processes : Processes} {e : Option AppError} (hI : s.Current) :
    ({ s with processes }.panic e).Current :=
  hI.over rfl rfl rfl (by simp [panic])

theorem current_stop (hI : s.Current) : s.stop.Current :=
  hI.over (by rw [stop_scanner]) stop_seen stop_holdsGuard stop_ne_changed

theorem current_scanner {l : Scanner.Label} {scanner : SpotifyProcessScanner} (hI : s.Current)
    (hl : l ≠ .dropReceiver) (h : s.scanner.Step l scanner) : (s.afterScanner scanner).Current := by
  have hn := SpotifyProcessScanner.notifier_step hl h
  have hle : s.seen ≤ scanner.notifier.version := by
    rcases hn with hn | ⟨-, hlt⟩
    · exact hn ▸ hI.seen
    · exact Nat.le_trans hI.seen (Nat.le_of_lt hlt)
  have hkeep : ({ s with scanner } : SpotifyAdBlocker).Current := by
    rcases hn with hn | ⟨hr, hlt⟩
    · exact ⟨hle, fun hg => hn ▸ hI.guarded hg, fun hc hv => hn ▸ hI.settled hc (hn ▸ hv)⟩
    · refine ⟨hle, fun hg => absurd hr (hI.guarded hg).1, ?_⟩
      intro _ hv
      have hseen := hI.seen
      dsimp only at hv
      omega
  rcases s.afterScanner_cases scanner with he | he <;> rw [he]
  · exact hkeep
  · exact hkeep.over rfl rfl rfl (by simp [panic])

/-- A handler has hooked the process of the published state. -/
theorem current_hookOk {spotify : OwnedProcess} {pc : HookPc} {c : Call} {processes : Processes}
    {state : HookState} (hI : s.Current) (hc : s.consumer = .hooking spotify pc)
    (hs : hookStep spotify s.processes pc c = some (processes, .ok state)) :
    ({ s.unlock with processes, state := .hooked state, consumer := .changed } :
      SpotifyAdBlocker).Current := by
  refine hI.settle rfl rfl rfl ?_
  have hh := (hI.guarded (by simp [hc, Consumer.holdsGuard])).2.2
  have hp : state.syringe = spotify := by
    cases hookStep_cases hs
    rfl
  rw [hc] at hh
  cases hv : s.scanner.notifier.value with
  | running info =>
    rw [hv] at hh
    exact hp.trans hh.symm
  | stopped =>
    rw [hv] at hh
    exact absurd hh id

/-- An unhooking ends: the handler goes on to hook, or is for a state in which none runs. -/
theorem current_unhooked {after : Unhooking} {state : HookState} {pc : UnhookPc}
    {processes : Processes} (hI : s.Current) (hc : s.consumer = .unhooking after state pc) :
    (unhooked shutdown { s with processes } after).Current := by
  cases after with
  | stop => exact hI.over rfl rfl rfl (by simp [unhooked])
  | hook spotify =>
    refine hI.handle (by simp [hc, Consumer.holdsGuard]) rfl rfl (by simp [unhooked]) ?_
    intro value h
    rw [hc] at h
    cases value <;> exact h
  | loop =>
    refine hI.settle rfl rfl ?_ ?_
    · cases shutdown <;> simp [unhooked, endStopped, Consumer.holdsGuard]
    · have hh := (hI.guarded (by simp [hc, Consumer.holdsGuard])).2.2
      rw [hc] at hh
      cases hv : s.scanner.notifier.value with
      | running info =>
        rw [hv] at hh
        exact absurd hh id
      | stopped => trivial

theorem current_step (hI : s.Current) (h : Step shutdown s l t) : t.Current := by
  cases h with
  | scanner hl ha hs => exact current_scanner hI hl hs
  | wakePanicked hc hv hw =>
    exact ⟨Nat.le_refl _, by simp [panic, Consumer.holdsGuard], by simp [panic]⟩
  | @wakeRunning info hc hv hw hr =>
    rcases hookSpotify_cases { s with seen := s.scanner.notifier.version }.lock info.process with
      ⟨state, -, he⟩ | ⟨-, he⟩ <;> rw [he]
    all_goals
      refine current_wake (s := s) rfl rfl rfl (by simp) ?_
      simp [lock, hr, Consumer.Handles]
  | wakeHooked hc hv hw hr hs =>
    refine current_wake (s := s) rfl rfl rfl (by simp) ?_
    simp [lock, hr, Consumer.Handles]
  | wakeUnhooked hc hv hw hr hs =>
    refine ⟨Nat.le_refl _, ?_, ?_⟩
    · cases shutdown <;> simp [endStopped, Consumer.holdsGuard]
    · intro _ _
      simp [endStopped, lock, unlock, hs, hr, SpotifyHookState.Agrees]
  | @hookNext spotify _ _ _ _ hc hw hs =>
    refine hI.handle (by simp [hc, Consumer.holdsGuard]) rfl rfl (by simp) ?_
    intro value h
    rw [hc] at h
    cases value <;> exact h
  | hookOk hc hw hs => exact current_hookOk hI hc hs
  | hookErr hc hw hs => exact current_panic hI
  | hookPanicked hc hw hs => exact current_panic hI
  | @unhookNext after _ _ _ _ _ hc hw hs =>
    cases after with
    | stop => exact hI.over rfl rfl rfl (by simp)
    | hook | loop =>
      refine hI.handle (by simp [hc, Consumer.holdsGuard]) rfl rfl (by simp) ?_
      intro value h
      rw [hc] at h
      cases value <;> exact h
  | unhookDone hc hw hs => exact current_unhooked hI hc
  | unhookPanicked hc hw hs => exact current_panic hI
  | dropFinished hc => exact current_stop hI
  | drop ha hw =>
    split
    · exact hI.over (by rw [stop_scanner]; rfl) stop_seen stop_holdsGuard stop_ne_changed
    · exact current_stop hI
  | exit => exact ⟨hI.seen, hI.guarded, hI.settled⟩

/-- The consumer waits for nothing else, so a version it has not seen wakes it as soon as the
scanner's branch awaits. -/
theorem wakes_of_unseen (hc : s.consumer = .changed) (hv : s.seen ≠ s.scanner.notifier.version)
    (hsc : scannerAwaits s.scanner = true) : s.Wakes shutdown := by
  intro tryClone
  have hn : ¬(s.seen = s.scanner.notifier.version ∨ scannerAwaits s.scanner = false) := by
    simp [hv, hsc]
  simp only [step, wake, hc, if_neg hn]
  cases hr : s.scanner.notifier.value with
  | running info =>
    cases tryClone with
    | error e => simp [lock, panic, hr]
    | ok _ => simp [hookSpotify_scanner, hookSpotify_seen, lock, hr]
  | stopped =>
    cases s.state with
    | hooked state => simp [lock, hr]
    | unhooked => simp [lock, endStopped, unlock, hr]

/-- Whenever the consumer waits in `changed()`, the hook state agrees with the last published state
if it has seen it, and otherwise it can wake for it. -/
theorem agrees_of_seen (shutdown : Bool) (processes : Processes)
    {tr : List (SpotifyAdBlocker × Label)} {s : SpotifyAdBlocker}
    (h : Trace (step shutdown) (new processes) tr s) (hc : s.consumer = .changed) :
    (s.seen = s.scanner.notifier.version → s.state.Agrees s.scanner.notifier.value) ∧
      (s.seen ≠ s.scanner.notifier.version → scannerAwaits s.scanner = true →
        s.Wakes shutdown) := by
  have hI : s.Current := h.invariant (current_new processes)
    fun _ _ _ hI hs => current_step hI (step_cases hs)
  exact ⟨hI.settled hc, wakes_of_unseen hc⟩

/-- Spotify starts and gets hooked. -/
def hookSpotifyRun : List Label := beforeInject ++ .call (.inject (.ok ())) :: afterInject

/-- After its first three steps the consumer can wake, and at its end Spotify is hooked and the last
version is seen. -/
theorem agrees_of_seen_hookSpotifyRun :
    (∃ s, run (step false) (new cleanProcesses) (hookSpotifyRun.take 3) = some s ∧
      s.Wakes false) ∧
    ∃ s, run (step false) (new cleanProcesses) hookSpotifyRun = some s ∧
      s.consumer = .changed ∧ (∃ state, s.state = .hooked state) ∧
      s.state.Agrees s.scanner.notifier.value := by
  have htrace : ∀ labels, (run (step false) (new cleanProcesses) labels).isSome = true →
      Trace (step false) (new cleanProcesses) (trail (step false) (new cleanProcesses) labels)
        (after (step false) (new cleanProcesses) labels) := fun _ h => trace_after h
  refine ⟨⟨_, rfl, ?_⟩, _, rfl, rfl, ⟨_, rfl⟩, ?_⟩
  · exact (agrees_of_seen false cleanProcesses (htrace (hookSpotifyRun.take 3) rfl) rfl).2
      (by decide) rfl
  · exact (agrees_of_seen false cleanProcesses (htrace hookSpotifyRun rfl) rfl).1 rfl

end SpotifyAdBlocker

end BurntSushi.AdBlocker
