import BurntSushi.AdBlocker.Step

/-! The read guard that the consumer keeps across its awaits, and the scanner's write lock. -/
namespace BurntSushi

open Lts

namespace Scanner

/-- Polled at least once, and not waiting for the write lock. -/
def Pc.Quiet : Pc → Prop
  | .start => False
  | .blocked _ => False
  | _ => True

namespace SpotifyProcessScanner

variable {s : SpotifyProcessScanner} {e : EventView} {newState : SpotifyState}

theorem changeState_quiet (h : s.notifier.readers = 0) : (s.changeState newState).pc.Quiet := by
  simp [changeState, h, Pc.Quiet]

theorem changeState_blocked (h : s.notifier.readers ≠ 0) :
    (s.changeState newState).pc = .blocked newState := by
  simp [changeState, h, goto]

theorem quiet_iterate {tryClone : Except IoError Unit} {threadId : Nat}
    {pid : Except IoError Nat} : (s.iterate tryClone threadId pid).pc.Quiet := by
  obtain ⟨pc, h, hpc⟩ := s.iterate_cases tryClone threadId pid
  rw [h]
  rcases hpc with rfl | ⟨res, rfl⟩ | ⟨listener, rfl⟩ <;> trivial

theorem quiet_eventStopped (hp : s.pc.Quiet) : (s.eventStopped e).pc.Quiet := by
  rcases s.eventStopped_cases e with h | ⟨pc, h, rfl | ⟨newState, rfl⟩⟩ <;> rw [h]
  · exact hp
  · trivial
  · trivial

theorem quiet_eventRunning {info : SpotifyInfo} {threadId : Nat} (hp : s.pc.Quiet) :
    (s.eventRunning info threadId e).pc.Quiet := by
  rcases s.eventRunning_cases info threadId e with h | ⟨pc, h, rfl | ⟨newState, rfl⟩⟩ <;> rw [h]
  · exact hp
  · trivial
  · trivial

end SpotifyProcessScanner

end Scanner

namespace AdBlocker

open Scanner (SpotifyProcessScanner SpotifyState OwnedProcess IoError Pc)

namespace SpotifyAdBlocker

/-- The one thread waits in `send` for the guard that its own consumer holds. -/
def Deadlocked (s : SpotifyAdBlocker) : Prop :=
  s.consumer.holdsGuard = true ∧ ∃ newState, s.scanner.pc = .blocked newState

/-- The scanner reports that Spotify started or stopped only while the consumer is in
`changed()`, not while one of its handlers is suspended. -/
def ReportsIdle (s : SpotifyAdBlocker) : Label → Prop
  | .scanner (.unhooked (.ok ())) =>
    ∀ newState, s.scanner.pc = .unhooking (some newState) → s.consumer = .changed
  | _ => True

variable {shutdown : Bool} {s t : SpotifyAdBlocker} {l : Label}

/-- From a deadlock on, the application does nothing more. -/
theorem deadlocked_stuck (hd : s.Deadlocked) (h : step shutdown s l = some t) :
    ∃ process, l = .exit process := by
  obtain ⟨hg, newState, hb⟩ := hd
  have hsc : scannerAwaits s.scanner ≠ true := by simp [scannerAwaits, hb]
  cases step_cases h with
  | scanner hl _ hs => cases hs <;> simp_all
  | wakePanicked _ _ hw | wakeRunning _ _ hw | wakeHooked _ _ hw | wakeUnhooked _ _ hw =>
    exact absurd hw hsc
  | hookNext _ hw | hookOk _ hw | hookErr _ hw | hookPanicked _ hw | drop _ hw =>
    exact absurd hw hsc
  | unhookNext hc hw | unhookDone hc hw | unhookPanicked hc hw =>
    exact absurd (hw (by rintro rfl; simp [hc, Consumer.holdsGuard] at hg)) hsc
  | dropFinished hc => simp [hc, Consumer.holdsGuard] at hg
  | exit => exact ⟨_, rfl⟩

/-- No deadlock, one guard exactly where the consumer is known to hold it, and nothing received
from a scanner that has not been polled. -/
structure Sound (s : SpotifyAdBlocker) : Prop where
  unblocked : ∀ newState, s.scanner.pc ≠ .blocked newState
  readers : (∀ e, s.consumer ≠ .panicked e) →
    s.scanner.notifier.readers = if s.consumer.holdsGuard then 1 else 0
  unpolled : s.scanner.pc = .start →
    s.seen = s.scanner.notifier.version ∧ s.consumer.holdsGuard = false

theorem sound_new (processes : Processes) : (new processes).Sound :=
  ⟨by simp [new, SpotifyProcessScanner.new], fun _ => rfl, fun _ => ⟨rfl, rfl⟩⟩

/-- A step of the scanner leaves it without the write lock only while a guard is held. -/
theorem quiet_scanner {l : Scanner.Label} {scanner : SpotifyProcessScanner} (hI : s.Sound)
    (hC : s.ReportsIdle (.scanner l)) (hl : l ≠ .dropReceiver) (ha : s.consumer.awaits = true)
    (h : s.scanner.Step l scanner) : scanner.pc.Quiet := by
  have hr := hI.readers (by intro e he; simp [he, Consumer.awaits] at ha)
  cases h with
  | scanFound hp => exact SpotifyProcessScanner.changeState_quiet (by simp [hr, hI.unpolled hp])
  | publish hp =>
    have hc := hC _ hp
    exact SpotifyProcessScanner.changeState_quiet (by simp [hr, hc, Consumer.holdsGuard])
  | iterate => exact SpotifyProcessScanner.quiet_iterate
  | eventStopped hp => exact SpotifyProcessScanner.quiet_eventStopped (by simp [hp, Pc.Quiet])
  | eventRunning hp => exact SpotifyProcessScanner.quiet_eventRunning (by simp [hp, Pc.Quiet])
  | dropReceiver => exact absurd rfl hl
  | _ => trivial

theorem Sound.of_quiet (hq : t.scanner.pc.Quiet)
    (hr : (∀ e, t.consumer ≠ .panicked e) →
      t.scanner.notifier.readers = if t.consumer.holdsGuard then 1 else 0) : t.Sound := by
  refine ⟨?_, hr, ?_⟩
  · intro newState h
    simp [h, Pc.Quiet] at hq
  · intro h
    simp [h, Pc.Quiet] at hq

theorem Sound.quiet (hI : s.Sound) (hp : s.scanner.pc ≠ .start) : s.scanner.pc.Quiet := by
  simp only [Pc.Quiet]
  split
  · exact hp (by assumption)
  · exact hI.unblocked _ (by assumption)
  · trivial

theorem Sound.quiet_of_holdsGuard (hI : s.Sound) (hg : s.consumer.holdsGuard = true) :
    s.scanner.pc.Quiet := by
  apply hI.quiet
  intro hp
  simp [(hI.unpolled hp).2] at hg

/-- Neither the scanner nor what the consumer holds of it has changed. -/
theorem Sound.keep (hI : s.Sound) (hs : t.scanner = s.scanner) (hv : t.seen = s.seen)
    (hc : t.consumer.holdsGuard = s.consumer.holdsGuard)
    (hp : ∀ e, s.consumer = .panicked e → t.consumer = .panicked e) : t.Sound := by
  refine ⟨by simpa [hs] using hI.unblocked, ?_, by simpa [hs, hv, hc] using hI.unpolled⟩
  intro hn
  rw [hs, hc]
  exact hI.readers fun e he => hn e (hp e he)

theorem sound_stop (hI : s.Sound) (hg : s.consumer.holdsGuard = false)
    (hp : ∀ e, s.consumer ≠ .panicked e) : s.stop.Sound :=
  hI.keep stop_scanner stop_seen (stop_holdsGuard.trans hg.symm) fun e he => absurd he (hp e)

theorem sound_unlock_stop (hI : s.Sound) (hg : s.consumer.holdsGuard = true)
    (hp : ∀ e, s.consumer ≠ .panicked e) : s.unlock.stop.Sound := by
  refine Sound.of_quiet ?_ ?_
  · rw [stop_scanner]
    exact hI.quiet_of_holdsGuard hg
  · intro _
    simp [stop_scanner, stop_holdsGuard, unlock, hI.readers hp, hg]

/-- `changed()` returns only after the scanner has sent something. -/
theorem sound_wake (hI : s.Sound) (hc : s.consumer = .changed)
    (hv : s.seen ≠ s.scanner.notifier.version) (hs : t.scanner.pc = s.scanner.pc)
    (hr : (∀ e, t.consumer ≠ .panicked e) → t.scanner.notifier.readers =
      s.scanner.notifier.readers + if t.consumer.holdsGuard then 1 else 0) : t.Sound := by
  refine Sound.of_quiet ?_ ?_
  · rw [hs]
    exact hI.quiet fun hp => hv (hI.unpolled hp).1
  · intro hp
    have hr0 : s.scanner.notifier.readers = 0 := by
      simpa [hc, Consumer.holdsGuard] using hI.readers (by simp [hc])
    simp [hr hp, hr0]

/-- The end of a handler that held the guard. -/
theorem sound_endStopped (hI : s.Sound) (hg : s.consumer.holdsGuard = true)
    (hp : ∀ e, s.consumer ≠ .panicked e) (hs : t.scanner = s.unlock.scanner)
    (hc : t.consumer.holdsGuard = false) : t.Sound := by
  refine Sound.of_quiet ?_ ?_
  · rw [hs]
    exact hI.quiet_of_holdsGuard hg
  · intro _
    simp [hs, unlock, hI.readers hp, hg, hc]

theorem sound_panic {processes : Processes} {e : Option AppError} (hI : s.Sound) :
    ({ s with processes }.panic e).Sound :=
  ⟨hI.unblocked, fun hp => absurd rfl (hp e), fun h => ⟨(hI.unpolled h).1, rfl⟩⟩

theorem sound_step (hI : s.Sound) (hC : s.ReportsIdle l) (h : Step shutdown s l t) : t.Sound := by
  cases h with
  | scanner hl ha hs =>
    have hr := SpotifyProcessScanner.readers_step hs
    refine Sound.of_quiet ?_ ?_
    · rw [afterScanner_scanner]
      exact quiet_scanner hI hC hl ha hs
    · intro hp
      have hc := afterScanner_consumer hp
      rw [afterScanner_scanner, hr, hc]
      exact hI.readers (hc ▸ hp)
  | wakePanicked hc hv hw => exact sound_wake hI hc hv rfl fun hp => absurd rfl (hp none)
  | wakeRunning hc hv hw hr =>
    refine sound_wake hI hc hv (by rw [hookSpotify_scanner]; rfl) ?_
    intro _
    simp [hookSpotify_scanner, hookSpotify_holdsGuard, lock]
  | wakeHooked hc hv hw hr hs => exact sound_wake hI hc hv rfl fun _ => rfl
  | wakeUnhooked hc hv hw hr hs =>
    refine sound_wake hI hc hv rfl ?_
    intro _
    cases shutdown <;> simp [endStopped, unlock, lock, Consumer.holdsGuard]
  | hookNext hc hw hs =>
    exact hI.keep rfl rfl (by simp [hc, Consumer.holdsGuard]) (by simp [hc])
  | hookOk hc hw hs =>
    exact sound_endStopped hI (by simp [hc, Consumer.holdsGuard]) (by simp [hc]) rfl rfl
  | hookErr hc hw hs => exact sound_panic hI
  | hookPanicked hc hw hs => exact sound_panic hI
  | @unhookNext after state pc pc' _ _ hc hw hs =>
    refine hI.keep rfl rfl ?_ (by simp [hc])
    cases after <;> simp [hc, Consumer.holdsGuard]
  | @unhookDone after state pc _ _ _ hc hw hs =>
    cases after with
    | hook => exact hI.keep rfl rfl (by simp [hc, Consumer.holdsGuard, unhooked]) (by simp [hc])
    | loop =>
      refine sound_endStopped hI (by simp [hc, Consumer.holdsGuard]) (by simp [hc]) rfl ?_
      cases shutdown <;> simp [endStopped, unhooked, Consumer.holdsGuard]
    | stop => exact hI.keep rfl rfl (by simp [hc, Consumer.holdsGuard, unhooked]) (by simp [hc])
  | unhookPanicked hc hw hs => exact sound_panic hI
  | dropFinished hc =>
    exact sound_stop hI (by simp [hc, Consumer.holdsGuard]) (by simp [hc])
  | drop ha hw =>
    have hp : ∀ e, s.consumer ≠ .panicked e := by
      intro e he
      simp [he, Consumer.awaits] at ha
    split
    · exact sound_unlock_stop hI (by assumption) hp
    · rename_i hg
      exact sound_stop hI (by simpa using hg) hp
  | exit => exact hI.keep rfl rfl rfl fun _ he => he

/-- Reporting a change while a handler is suspended is the deadlock. -/
theorem deadlocked_of_report (hI : s.Sound) (hC : ¬ s.ReportsIdle l)
    (h : Step shutdown s l t) : t.Deadlocked := by
  simp only [ReportsIdle] at hC
  split at hC
  · push Not at hC
    obtain ⟨newState, hp, hc⟩ := hC
    cases h with
    | scanner hl ha hs =>
      have hg := (Consumer.eq_changed_or_holdsGuard ha).resolve_left hc
      have hn : ∀ e, s.consumer ≠ .panicked e := by
        intro e he
        simp [he, Consumer.awaits] at ha
      cases hs with
      | finish hp' => simp [hp] at hp'
      | publish hp' =>
        have hb : (s.scanner.changeState newState).pc = .blocked newState :=
          SpotifyProcessScanner.changeState_blocked (by simp [hI.readers hn, hg])
        obtain rfl : newState = _ := by simpa [hp] using hp'
        have ht : s.afterScanner (s.scanner.changeState newState) =
            { s with scanner := s.scanner.changeState newState } := by
          simp [afterScanner, hb]
        rw [ht]
        exact ⟨hg, newState, hb⟩
  · exact absurd trivial hC

/-- A run never deadlocks if and only if in it the scanner reports a start or a stop of Spotify
only while the consumer is in `changed()`. -/
theorem not_deadlocked_iff_reportsIdle {processes : Processes}
    {tr : List (SpotifyAdBlocker × Label)} (h : Trace (step shutdown) (new processes) tr s) :
    Always (fun s => ¬ s.Deadlocked) tr s ↔ Along ReportsIdle tr :=
  h.always_iff_along (I := Sound) (D := fun _ _ => True) (fun _ _ => trivial)
    (sound_new processes) (fun _ hI hd => hd.2.elim hI.unblocked)
    (fun _ _ _ hI _ hC hs => sound_step hI hC (step_cases hs))
    (fun _ _ _ hI _ hC hs => not_not.mpr (deadlocked_of_report hI hC (step_cases hs)))

theorem not_deadlocked_startOfSpotify :
    Always (fun s => ¬ s.Deadlocked) (trail (step false) (new cleanProcesses) startOfSpotify)
      (after (step false) (new cleanProcesses) startOfSpotify) :=
  (not_deadlocked_iff_reportsIdle (trace_after rfl)).mpr <|
    along_trail_cons rfl trivial <| along_trail_cons rfl trivial <|
    along_trail_cons rfl trivial <| along_trail_cons rfl trivial <|
    along_trail_cons rfl trivial along_nil

/-- Spotify closes its main window while `hook_spotify` awaits the filter config. -/
theorem deadlocked_endWhileHooking :
    ∃ tr s, Trace (step false) (new cleanProcesses) tr s ∧ s.Deadlocked :=
  ⟨_, after (step false) (new cleanProcesses) (startOfSpotify ++ endOfSpotify), trace_after rfl,
    rfl, .stopped, rfl⟩

end SpotifyAdBlocker

end AdBlocker

end BurntSushi
