import BurntSushi.Lts
import BurntSushi.Scanner.Windows

/-! `SpotifyProcessScanner::run` as a step relation over the answers of the OS. -/
namespace BurntSushi.Scanner

/-- `tokio::sync::watch`: the last value sent, how often one was sent, the read guards that are
held and whether the receiver exists. -/
structure Watch (α : Type) where
  value : α
  version : Nat
  readers : Nat
  receiver : Bool
  deriving DecidableEq, Repr

/-- `send` once it has the write lock; without a receiver it keeps the old value. -/
def Watch.send {α : Type} (ch : Watch α) (value : α) : Watch α :=
  if ch.receiver then { ch with value, version := ch.version + 1 } else ch

/-- What a WinEvent hook reports, and what the OS then answers about the window: the process id
that `GetWindowThreadProcessId` leaves, the process opened from it and its name. -/
structure EventView where
  threadId : Nat
  windowHandle : Option WindowHandle
  processId : Nat
  fromPid : Except IoError OwnedProcess
  baseName : Except IoError (List Char)
  window : WindowView

/-- The two `listen` functions; a running one has its filter for thread and process. -/
inductive Listener where
  | stopped
  | running (info : SpotifyInfo) (threadId processId : Nat)
  deriving DecidableEq, Repr

/-- Where `run` is; `blocked` waits for the write lock of the channel. -/
inductive Pc where
  | start
  | loop
  | hooking (listener : Listener)
  | listening (listener : Listener)
  | unhooking (newState : Option SpotifyState)
  | blocked (newState : SpotifyState)
  | returned (res : Except IoError Unit)
  | panicked

structure SpotifyProcessScanner where
  pc : Pc
  notifier : Watch SpotifyState

inductive Label where
  | scan (view : List ProcessView)
  | iterate (tryClone : Except IoError Unit) (threadId : Nat) (pid : Except IoError Nat)
  | hooked (res : Except IoError Unit)
  | event (e : Option EventView)
  | unhooked (res : Except IoError Unit)
  | dropReceiver

namespace SpotifyProcessScanner

def new : SpotifyProcessScanner := ⟨.start, ⟨.stopped, 0, 0, true⟩⟩

def goto (s : SpotifyProcessScanner) (pc : Pc) : SpotifyProcessScanner := { s with pc }

def changeState (s : SpotifyProcessScanner) (newState : SpotifyState) : SpotifyProcessScanner :=
  if s.notifier.readers = 0 then ⟨.loop, s.notifier.send newState⟩
  else s.goto (.blocked newState)

/-- The loop condition and the part of an iteration before its first await. -/
def iterate (s : SpotifyProcessScanner) (tryClone : Except IoError Unit) (threadId : Nat)
    (pid : Except IoError Nat) : SpotifyProcessScanner :=
  if !s.notifier.receiver then s.goto (.returned (.ok ()))
  else match s.notifier.value with
    | .stopped => s.goto (.hooking .stopped)
    | .running info =>
      match tryClone with
      | .error e => s.goto (.returned (.error e))
      | .ok () =>
        if threadId = 0 then s.goto .panicked
        else match pid with
          | .error e => s.goto (.returned (.error e))
          | .ok processId => s.goto (.hooking (.running info threadId processId))

/-- An event in `listen_stopped`. -/
def eventStopped (s : SpotifyProcessScanner) (e : EventView) : SpotifyProcessScanner :=
  match e.windowHandle with
  | none => s
  | some window =>
    if e.processId = 0 then s.goto .panicked
    else match e.fromPid with
      | .error _ => s
      | .ok process =>
        if !isSpotifyProcess e.baseName || !e.window.isMainSpotifyWindow then s
        else s.goto (.unhooking (some (.running ⟨process, window⟩)))

/-- An event in `listen_running`. -/
def eventRunning (s : SpotifyProcessScanner) (info : SpotifyInfo) (threadId : Nat)
    (e : EventView) : SpotifyProcessScanner :=
  if e.threadId ≠ threadId then s.goto .panicked
  else if e.windowHandle ≠ some info.mainWindow then s
  else s.goto (.unhooking (some .stopped))

def step (s : SpotifyProcessScanner) : Label → Option SpotifyProcessScanner
  | .scan view =>
    match s.pc with
    | .start =>
      match Scanner.scan view with
      | .error e => some (s.goto (.returned (.error e)))
      | .ok none => some (s.goto .loop)
      | .ok (some newState) => some (s.changeState newState)
    | _ => none
  | .iterate tryClone threadId pid =>
    match s.pc with
    | .loop => some (s.iterate tryClone threadId pid)
    | _ => none
  | .hooked res =>
    match s.pc, res with
    | .hooking listener, .ok () => some (s.goto (.listening listener))
    | .hooking _, .error e => some (s.goto (.returned (.error e)))
    | _, _ => none
  | .event e =>
    match s.pc, e with
    | .listening _, none => some (s.goto (.unhooking none))
    | .listening .stopped, some e => some (s.eventStopped e)
    | .listening (.running info threadId _), some e => some (s.eventRunning info threadId e)
    | _, _ => none
  | .unhooked res =>
    match s.pc, res with
    | .unhooking _, .error e => some (s.goto (.returned (.error e)))
    | .unhooking none, .ok () => some (s.goto (.returned (.ok ())))
    | .unhooking (some newState), .ok () => some (s.changeState newState)
    | _, _ => none
  | .dropReceiver => some { s with notifier := { s.notifier with receiver := false } }

/-- The cases of `step`. -/
inductive Step (s : SpotifyProcessScanner) : Label → SpotifyProcessScanner → Prop
  | scanFailed {view : List ProcessView} {e : IoError} (hp : s.pc = .start)
      (h : Scanner.scan view = .error e) : Step s (.scan view) (s.goto (.returned (.error e)))
  | scanNothing {view : List ProcessView} (hp : s.pc = .start)
      (h : Scanner.scan view = .ok none) : Step s (.scan view) (s.goto .loop)
  | scanFound {view : List ProcessView} {newState : SpotifyState} (hp : s.pc = .start)
      (h : Scanner.scan view = .ok (some newState)) :
      Step s (.scan view) (s.changeState newState)
  | iterate {tryClone : Except IoError Unit} {threadId : Nat} {pid : Except IoError Nat}
      (hp : s.pc = .loop) :
      Step s (.iterate tryClone threadId pid) (s.iterate tryClone threadId pid)
  | hooked {listener : Listener} (hp : s.pc = .hooking listener) :
      Step s (.hooked (.ok ())) (s.goto (.listening listener))
  | hookFailed {listener : Listener} {e : IoError} (hp : s.pc = .hooking listener) :
      Step s (.hooked (.error e)) (s.goto (.returned (.error e)))
  | closed {listener : Listener} (hp : s.pc = .listening listener) :
      Step s (.event none) (s.goto (.unhooking none))
  | eventStopped {e : EventView} (hp : s.pc = .listening .stopped) :
      Step s (.event (some e)) (s.eventStopped e)
  | eventRunning {e : EventView} {info : SpotifyInfo} {threadId processId : Nat}
      (hp : s.pc = .listening (.running info threadId processId)) :
      Step s (.event (some e)) (s.eventRunning info threadId e)
  | unhookFailed {newState : Option SpotifyState} {e : IoError} (hp : s.pc = .unhooking newState) :
      Step s (.unhooked (.error e)) (s.goto (.returned (.error e)))
  | finish (hp : s.pc = .unhooking none) :
      Step s (.unhooked (.ok ())) (s.goto (.returned (.ok ())))
  | publish {newState : SpotifyState} (hp : s.pc = .unhooking (some newState)) :
      Step s (.unhooked (.ok ())) (s.changeState newState)
  | dropReceiver :
      Step s .dropReceiver { s with notifier := { s.notifier with receiver := false } }

variable {s t : SpotifyProcessScanner} {l : Label} {e : EventView}

theorem step_cases (h : s.step l = some t) :
    Step s l t := by
  cases l with
  | scan view =>
    simp only [step] at h
    split at h
    · rename_i hp
      split at h <;> obtain rfl := Option.some.inj h
      · exact .scanFailed hp (by assumption)
      · exact .scanNothing hp (by assumption)
      · exact .scanFound hp (by assumption)
    · simp at h
  | iterate tryClone threadId pid =>
    simp only [step] at h
    split at h
    · obtain rfl := Option.some.inj h
      exact .iterate (by assumption)
    · simp at h
  | hooked res =>
    simp only [step] at h
    split at h
    · obtain rfl := Option.some.inj h
      exact .hooked (by assumption)
    · obtain rfl := Option.some.inj h
      exact .hookFailed (by assumption)
    · simp at h
  | event e =>
    simp only [step] at h
    split at h
    · obtain rfl := Option.some.inj h
      exact .closed (by assumption)
    · obtain rfl := Option.some.inj h
      exact .eventStopped (by assumption)
    · obtain rfl := Option.some.inj h
      exact .eventRunning (by assumption)
    · simp at h
  | unhooked res =>
    simp only [step] at h
    split at h
    · obtain rfl := Option.some.inj h
      exact .unhookFailed (by assumption)
    · obtain rfl := Option.some.inj h
      exact .finish (by assumption)
    · obtain rfl := Option.some.inj h
      exact .publish (by assumption)
    · simp at h
  | dropReceiver =>
    obtain rfl := Option.some.inj h
    exact .dropReceiver

theorem readers_changeState (newState : SpotifyState) :
    (s.changeState newState).notifier.readers = s.notifier.readers := by
  simp only [changeState, Watch.send]
  repeat' split
  all_goals rfl

/-- An iteration ends `run`, or comes to installing an event hook. -/
theorem iterate_cases (s : SpotifyProcessScanner) (tryClone : Except IoError Unit) (threadId : Nat)
    (pid : Except IoError Nat) : ∃ pc, s.iterate tryClone threadId pid = s.goto pc ∧
      (pc = .panicked ∨ (∃ res, pc = .returned res) ∨ ∃ listener, pc = .hooking listener) := by
  simp only [iterate]
  split
  · exact ⟨_, rfl, .inr (.inl ⟨_, rfl⟩)⟩
  · cases s.notifier.value with
    | stopped => exact ⟨_, rfl, .inr (.inr ⟨_, rfl⟩)⟩
    | running info =>
      cases tryClone with
      | error e => exact ⟨_, rfl, .inr (.inl ⟨_, rfl⟩)⟩
      | ok =>
        by_cases ht : threadId = 0
        · exact ⟨.panicked, by simp only [if_pos ht], .inl rfl⟩
        · simp only [if_neg ht]
          cases pid with
          | error e => exact ⟨_, rfl, .inr (.inl ⟨_, rfl⟩)⟩
          | ok processId => exact ⟨_, rfl, .inr (.inr ⟨_, rfl⟩)⟩

/-- The listener goes on, panics, or has a state to publish. -/
theorem eventStopped_cases (s : SpotifyProcessScanner) (e : EventView) :
    s.eventStopped e = s ∨ ∃ pc, s.eventStopped e = s.goto pc ∧
      (pc = .panicked ∨ ∃ newState, pc = .unhooking (some newState)) := by
  simp only [eventStopped]
  cases e.windowHandle with
  | none => exact .inl rfl
  | some window =>
    by_cases hp : e.processId = 0
    · exact .inr ⟨.panicked, by simp only [if_pos hp], .inl rfl⟩
    · simp only [if_neg hp]
      cases e.fromPid with
      | error _ => exact .inl rfl
      | ok process =>
        dsimp only
        split
        · exact .inl rfl
        · exact .inr ⟨_, rfl, .inr ⟨_, rfl⟩⟩

theorem eventRunning_cases (s : SpotifyProcessScanner) (info : SpotifyInfo) (threadId : Nat)
    (e : EventView) :
    s.eventRunning info threadId e = s ∨ ∃ pc, s.eventRunning info threadId e = s.goto pc ∧
      (pc = .panicked ∨ ∃ newState, pc = .unhooking (some newState)) := by
  simp only [eventRunning]
  split
  · exact .inr ⟨_, rfl, .inl rfl⟩
  · split
    · exact .inl rfl
    · exact .inr ⟨_, rfl, .inr ⟨_, rfl⟩⟩

theorem notifier_iterate {tryClone : Except IoError Unit} {threadId : Nat}
    {pid : Except IoError Nat} : (s.iterate tryClone threadId pid).notifier = s.notifier := by
  obtain ⟨pc, h, -⟩ := s.iterate_cases tryClone threadId pid
  rw [h]
  rfl

theorem notifier_eventStopped : (s.eventStopped e).notifier = s.notifier := by
  rcases s.eventStopped_cases e with h | ⟨pc, h, -⟩ <;> rw [h]
  rfl

theorem notifier_eventRunning {info : SpotifyInfo} {threadId : Nat} :
    (s.eventRunning info threadId e).notifier = s.notifier := by
  rcases s.eventRunning_cases info threadId e with h | ⟨pc, h, -⟩ <;> rw [h]
  rfl

theorem notifier_changeState (newState : SpotifyState) :
    (s.changeState newState).notifier = s.notifier ∨
      (s.notifier.readers = 0 ∧
        s.notifier.version < (s.changeState newState).notifier.version) := by
  simp only [changeState, Watch.send]
  repeat' split
  all_goals simp_all [goto]

theorem readers_step (h : Step s l t) : t.notifier.readers = s.notifier.readers := by
  cases h with
  | scanFound => exact readers_changeState _
  | publish => exact readers_changeState _
  | iterate => rw [notifier_iterate]
  | eventStopped => rw [notifier_eventStopped]
  | eventRunning => rw [notifier_eventRunning]
  | _ => rfl

/-- While a guard is held the channel stays as it is; otherwise its version may go up. -/
theorem notifier_step (hl : l ≠ .dropReceiver) (h : Step s l t) :
    t.notifier = s.notifier ∨
      (s.notifier.readers = 0 ∧ s.notifier.version < t.notifier.version) := by
  cases h with
  | scanFound => exact notifier_changeState _
  | publish => exact notifier_changeState _
  | iterate => exact .inl notifier_iterate
  | eventStopped => exact .inl notifier_eventStopped
  | eventRunning => exact .inl notifier_eventRunning
  | dropReceiver => exact absurd rfl hl
  | _ => exact .inl rfl

end SpotifyProcessScanner

/-- An event about the main window. -/
def mainWindowEvent (processId : Nat) : EventView :=
  ⟨5, some 100, processId, .ok 9, .ok "Spotify.exe".toList, mainWindow⟩

end BurntSushi.Scanner
