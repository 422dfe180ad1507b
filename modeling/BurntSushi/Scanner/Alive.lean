import BurntSushi.Scanner.Step

/-! When `run` goes on for as long as its receiver exists. Its calls are those of the OS; the log
line about a window that it has found, which can panic as well, is not one of its steps. -/
namespace BurntSushi.Scanner

open Lts

namespace SpotifyProcessScanner

/-- `run` has neither returned nor panicked. -/
def Alive (s : SpotifyProcessScanner) : Prop :=
  match s.pc with
  | .returned _ => False
  | .panicked => False
  | _ => True

/-- The receiver stays, the event hooks install, and an installed hook keeps delivering the
events that pass its filter. -/
def HooksDeliver (s : SpotifyProcessScanner) : Label → Prop
  | .hooked res => res = .ok ()
  | .event e => ∃ e', e = some e' ∧
    ∀ info threadId processId, s.pc = .listening (.running info threadId processId) →
      e'.threadId = threadId
  | .dropReceiver => False
  | _ => True

/-- No other call of the OS fails: the scan reads all it needs, the recorded Spotify process can
be cloned and asked for its id while its window exists, the window of an event is still there,
and the hook is removed. -/
def CallsSucceed (s : SpotifyProcessScanner) : Label → Prop
  | .scan view => Scannable view
  | .iterate tryClone threadId pid => ∀ info, s.notifier.value = .running info →
    tryClone = .ok () ∧ threadId ≠ 0 ∧ ∃ processId, pid = .ok processId
  | .event e => ∀ e', e = some e' → s.pc = .listening .stopped →
    ∀ window, e'.windowHandle = some window → e'.processId ≠ 0
  | .unhooked res => res = .ok ()
  | _ => True

variable {s t : SpotifyProcessScanner} {l : Label} {e : EventView}

theorem alive_changeState (newState : SpotifyState) : (s.changeState newState).Alive := by
  simp only [changeState]
  split <;> trivial

theorem receiver_changeState (newState : SpotifyState) :
    (s.changeState newState).notifier.receiver = s.notifier.receiver := by
  simp only [changeState]
  split
  · simp only [Watch.send]
    split <;> rfl
  · rfl

theorem alive_iterate {tryClone : Except IoError Unit} {threadId : Nat} {pid : Except IoError Nat}
    (hr : s.notifier.receiver = true) :
    (s.iterate tryClone threadId pid).Alive ↔ s.CallsSucceed (.iterate tryClone threadId pid) := by
  simp only [iterate, CallsSucceed]
  cases hv : s.notifier.value with
  | stopped => simp [hr, Alive, goto]
  | running info =>
    rcases tryClone with e | _
    · simp [hr, Alive, goto]
    · by_cases ht : threadId = 0
      · simp [hr, Alive, goto, ht]
      · cases pid <;> simp [hr, Alive, goto, ht]

theorem alive_eventStopped (hs : s.pc = .listening .stopped) :
    (s.eventStopped e).Alive ↔ ∀ window, e.windowHandle = some window → e.processId ≠ 0 := by
  simp only [eventStopped]
  cases hw : e.windowHandle with
  | none => simp [Alive, hs]
  | some window =>
    by_cases hp : e.processId = 0
    · simp [hp, Alive, goto]
    · cases e.fromPid with
      | error _ => simp [hp, Alive, hs]
      | ok process =>
        simp only [hp, if_false]
        split <;> simp [Alive, goto, hs, hp]

theorem alive_eventRunning {info : SpotifyInfo} {threadId processId : Nat}
    (hs : s.pc = .listening (.running info threadId processId)) (he : e.threadId = threadId) :
    (s.eventRunning info threadId e).Alive := by
  simp only [eventRunning]
  simp only [he, ne_eq, not_true_eq_false, if_false]
  split <;> simp [Alive, goto, hs]

theorem changeState_pc_ne (newState : SpotifyState) :
    (s.changeState newState).pc ≠ .unhooking none := by
  simp only [changeState]
  split <;> simp [goto]

/-- `run` goes on and has not lost its event hook. -/
structure Listens (s : SpotifyProcessScanner) : Prop where
  alive : s.Alive
  receiver : s.notifier.receiver = true
  delivers : s.pc ≠ .unhooking none

/-- A step goes on exactly if the calls it makes succeed. -/
theorem alive_step (hI : s.Listens) (hd : s.HooksDeliver l) (h : Step s l t) :
    t.Alive ↔ s.CallsSucceed l := by
  cases h with
  | scanFailed hp h => simp [Alive, goto, CallsSucceed, ← scan_isOk, h]
  | scanNothing hp h => simp [Alive, goto, CallsSucceed, ← scan_isOk, h]
  | scanFound hp h => simp [alive_changeState, CallsSucceed, ← scan_isOk, h]
  | iterate hp => exact alive_iterate hI.receiver
  | hooked hp => simp [Alive, goto, CallsSucceed]
  | hookFailed hp => simp [HooksDeliver] at hd
  | closed hp => simp [HooksDeliver] at hd
  | eventStopped hp =>
    rw [alive_eventStopped hp]
    simp [CallsSucceed, hp]
  | eventRunning hp =>
    obtain ⟨e, he, ht⟩ := hd
    obtain rfl := Option.some.inj he
    simp [alive_eventRunning hp (ht _ _ _ hp), CallsSucceed, hp]
  | unhookFailed hp => simp [Alive, goto, CallsSucceed]
  | finish hp => exact absurd hp hI.delivers
  | publish hp => simp [alive_changeState, CallsSucceed]
  | dropReceiver => exact absurd hd id

theorem receiver_step (hd : s.HooksDeliver l) (h : Step s l t) :
    t.notifier.receiver = s.notifier.receiver := by
  cases h with
  | scanFound => exact receiver_changeState _
  | publish => exact receiver_changeState _
  | iterate => rw [notifier_iterate]
  | eventStopped => rw [notifier_eventStopped]
  | eventRunning => rw [notifier_eventRunning]
  | dropReceiver => exact absurd hd id
  | _ => rfl

theorem delivers_step (hI : s.Listens) (hd : s.HooksDeliver l) (h : Step s l t) :
    t.pc ≠ .unhooking none := by
  cases h with
  | scanFound => exact changeState_pc_ne _
  | publish => exact changeState_pc_ne _
  | @iterate tryClone threadId pid hp =>
    obtain ⟨pc, h, hpc⟩ := s.iterate_cases tryClone threadId pid
    rw [h]
    rcases hpc with rfl | ⟨res, rfl⟩ | ⟨listener, rfl⟩ <;> simp [goto]
  | @eventStopped e hp =>
    rcases s.eventStopped_cases e with h | ⟨pc, h, rfl | ⟨newState, rfl⟩⟩ <;> rw [h] <;>
      simp [goto, hp]
  | @eventRunning e info threadId processId hp =>
    rcases s.eventRunning_cases info threadId e with h | ⟨pc, h, rfl | ⟨newState, rfl⟩⟩ <;>
      rw [h] <;> simp [goto, hp]
  | closed => simp [HooksDeliver] at hd
  | dropReceiver => exact hI.delivers
  | _ => simp [goto]

theorem listens_new : new.Listens := ⟨trivial, rfl, by simp [new]⟩

/-- While the event hooks install and deliver and the receiver exists, `run` neither returns nor
panics in any state of a run if and only if every other OS call in it succeeds. -/
theorem alive_iff_callsSucceed {tr : List (SpotifyProcessScanner × Label)}
    {s : SpotifyProcessScanner} (h : Trace step new tr s) (hd : Along HooksDeliver tr) :
    Always Alive tr s ↔ Along CallsSucceed tr :=
  h.always_iff_along (I := Listens) hd listens_new (fun _ hI => hI.alive)
    (fun _ _ _ hI hd hc hs => ⟨(alive_step hI hd (step_cases hs)).mpr hc,
      (receiver_step hd (step_cases hs)).trans hI.receiver,
      delivers_step hI hd (step_cases hs)⟩)
    (fun _ _ _ hI hd hc hs ha => hc ((alive_step hI hd (step_cases hs)).mp ha))

/-- Spotify runs, its main window is destroyed, and a new one is shown. -/
def restartOfSpotify : List Label :=
  [.scan [spotify (.ok 9) [.ok ⟨9, 5, [⟨mainWindow, []⟩]⟩]], .iterate (.ok ()) 5 (.ok 9),
    .hooked (.ok ()), .event (some (mainWindowEvent 0)), .unhooked (.ok ()),
    .iterate (.ok ()) 0 (.ok 0), .hooked (.ok ()), .event (some (mainWindowEvent 9))]

/-- A Spotify process exits between the listing of the processes and the query of its id. -/
def exitDuringScan : List Label := [.scan [spotify (.error "exited") []]]

/-- A window is destroyed between its event and the query of its process. -/
def destroyedAfterShow : List Label :=
  [.scan [], .iterate (.ok ()) 0 (.ok 0), .hooked (.ok ()), .event (some (mainWindowEvent 0))]

theorem hooksDeliver_restartOfSpotify :
    Along HooksDeliver (trail step new restartOfSpotify) := by
  refine along_trail_cons rfl trivial <| along_trail_cons rfl trivial <|
    along_trail_cons rfl rfl <| along_trail_cons rfl ⟨_, rfl, ?_⟩ <|
    along_trail_cons rfl trivial <| along_trail_cons rfl trivial <|
    along_trail_cons rfl rfl <| along_trail_cons rfl ⟨_, rfl, ?_⟩ along_nil
  · intro info threadId processId h
    injection h with h
    injection h
  · intro info threadId processId h
    injection h with h
    injection h

theorem alive_iff_restartOfSpotify :
    Always Alive (trail step new restartOfSpotify) (after step new restartOfSpotify) ↔
      Along CallsSucceed (trail step new restartOfSpotify) :=
  alive_iff_callsSucceed (trace_after rfl) hooksDeliver_restartOfSpotify

/-- `scan` returns the error, or `get_window_process_id` unwraps the id zero. -/
theorem not_alive_exitDuringScan :
    (∃ tr s, Trace step new tr s ∧ Along HooksDeliver tr ∧ s.pc = .returned (.error "exited")) ∧
    ∃ tr s, Trace step new tr s ∧ Along HooksDeliver tr ∧ s.pc = .panicked := by
  constructor
  · exact ⟨trail step new exitDuringScan, after step new exitDuringScan, trace_after rfl,
      along_trail_cons rfl trivial along_nil, rfl⟩
  · refine ⟨trail step new destroyedAfterShow, after step new destroyedAfterShow,
      trace_after rfl, along_trail_cons rfl trivial <| along_trail_cons rfl trivial <|
      along_trail_cons rfl rfl <| along_trail_cons rfl ⟨_, rfl, ?_⟩ along_nil, rfl⟩
    intro info threadId processId h
    injection h with h
    injection h

end SpotifyProcessScanner

end BurntSushi.Scanner
