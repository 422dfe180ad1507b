import BurntSushi.Scanner.Step

/-! The scanner among main Spotify windows that come and go. -/
namespace BurntSushi.Scanner

open Lts

/-- The thread and the process of each window. -/
structure Desktop where
  threadOf : WindowHandle → Nat
  processOf : WindowHandle → OwnedProcess

/-- The scanner, the main windows there are, and the events of the installed hook that it has not
received. -/
structure World where
  scanner : SpotifyProcessScanner
  windows : List WindowHandle
  queue : List WindowHandle

inductive WorldLabel where
  | create (window : WindowHandle)
  | destroy (window : WindowHandle)
  | scanner (l : Label)

namespace World

variable (D : Desktop)

/-- The instant at which the scanner starts. -/
def init (windows : List WindowHandle) : World := ⟨.new, windows, []⟩

/-- The answer of `get_window_thread_id`, zero for a window that is gone. -/
def threadId (s : World) (window : WindowHandle) : Nat :=
  if window ∈ s.windows then D.threadOf window else 0

/-- Whether `listen_stopped` accepts the window of an event. -/
def accepts (e : EventView) (process : OwnedProcess) : Bool :=
  e.processId ≠ 0 && e.fromPid.toOption = some process && isSpotifyProcess e.baseName &&
    e.window.isMainSpotifyWindow

/-- Whether the OS answers a step of the scanner so in this state: `scan` finds a main window when
there is one, and an event is about the first window in the queue, which is accepted if it still
exists and has no title otherwise. -/
def agrees (s : World) : Label → Bool
  | .scan view =>
    match Scanner.scan view with
    | .ok none => s.windows = []
    | .ok (some (.running info)) =>
      info.mainWindow ∈ s.windows && info.process = D.processOf info.mainWindow
    | .ok (some .stopped) => false
    | .error _ => true
  | .iterate _ threadId pid =>
    match s.scanner.notifier.value with
    | .running info =>
      threadId = s.threadId D info.mainWindow &&
        (match pid with
        | .ok processId => processId = info.process
        | .error _ => true)
    | .stopped => true
  | .event (some e) =>
    match s.queue with
    | window :: _ => e.windowHandle = some window && e.threadId = D.threadOf window &&
      if window ∈ s.windows then accepts e (D.processOf window) else !e.window.isMainSpotifyWindow
    | [] => false
  | .event none => false
  | _ => true

/-- The events still queued after a step: a new hook has its own channel. -/
def queueAfter (s : World) : Label → List WindowHandle
  | .hooked _ => []
  | .event _ => s.queue.tail
  | _ => s.queue

/-- Whether the installed hook reports the creation of a window. -/
def reportsShow : Pc → Bool
  | .listening .stopped => true
  | _ => false

/-- Whether the installed hook reports the destruction of a window. -/
def reportsDestroy (window : WindowHandle) : Pc → Bool
  | .listening (.running _ threadId processId) =>
    D.threadOf window = threadId && D.processOf window = processId
  | _ => false

def step (s : World) : WorldLabel → Option World
  | .create window =>
    if window ∈ s.windows then none
    else some { s with
      windows := window :: s.windows
      queue := if reportsShow s.scanner.pc then s.queue ++ [window] else s.queue }
  | .destroy window =>
    if window ∈ s.windows then
      some { s with
        windows := s.windows.filter (· ≠ window)
        queue := if reportsDestroy D window s.scanner.pc then s.queue ++ [window] else s.queue }
    else none
  | .scanner l =>
    if s.agrees D l then
      (s.scanner.step l).map fun scanner => { s with scanner, queue := s.queueAfter l }
    else none

/-- Nothing is lost: with its hook installed and no event queued, a waiting scanner knows whether
there is a main window. -/
def Tracks (s : World) : Prop :=
  match s.scanner.pc with
  | .listening .stopped => s.queue = [] → s.windows = []
  | .listening (.running info _ _) => s.queue = [] → info.mainWindow ∈ s.windows
  | _ => True

/-- When an event hook gets installed, the state it was chosen for still holds. -/
def Undisturbed (s : World) : WorldLabel → Prop
  | .scanner (.hooked (.ok ())) =>
    match s.scanner.pc with
    | .hooking .stopped => s.windows = []
    | .hooking (.running info _ _) => info.mainWindow ∈ s.windows
    | _ => True
  | _ => True

/-- The recorded process is that of the recorded window. -/
def InfoOk (info : SpotifyInfo) : Prop := info.process = D.processOf info.mainWindow

def StateOk : SpotifyState → Prop
  | .running info => InfoOk D info
  | .stopped => True

/-- The filter of the destroy hook is that of the tracked window. -/
def ListenerOk : Listener → Prop
  | .running info threadId processId =>
    threadId = D.threadOf info.mainWindow ∧ processId = D.processOf info.mainWindow
  | .stopped => True

/-- What the scanner has recorded on the way. -/
def PcOk : Pc → Prop
  | .hooking listener => ListenerOk D listener
  | .listening listener => ListenerOk D listener
  | .unhooking newState => ∀ state, newState = some state → StateOk D state
  | .blocked newState => StateOk D newState
  | _ => True

/-- What a waiting scanner does not know yet is in the queue. -/
def Aware (windows queue : List WindowHandle) : Pc → Prop
  | .listening .stopped => ∀ window ∈ windows, window ∈ queue
  | .listening (.running info _ _) => info.mainWindow ∈ windows ∨ info.mainWindow ∈ queue
  | _ => True

structure Consistent (s : World) : Prop where
  value : StateOk D s.scanner.notifier.value
  pc : PcOk D s.scanner.pc
  aware : Aware s.windows s.queue s.scanner.pc

variable {D} {s t : World} {l : WorldLabel} {window : WindowHandle} {pc : Pc}
  {windows queue : List WindowHandle}

theorem tracks_of_consistent (h : s.Consistent D) : s.Tracks := by
  have ha := h.aware
  simp only [Tracks]
  split
  · rename_i hp
    rw [hp] at ha
    intro hq
    exact List.eq_nil_iff_forall_not_mem.mpr fun w hw => by simpa [hq] using ha w hw
  · rename_i hp
    rw [hp] at ha
    intro hq
    exact ha.resolve_right (by simp [hq])
  · trivial

/-- A hook that is not installed misses nothing. -/
theorem aware_of_not_listening (h : ∀ listener, pc ≠ .listening listener) :
    Aware windows queue pc := by
  cases pc with
  | listening listener => exact absurd rfl (h listener)
  | _ => trivial

theorem aware_create (h : Aware windows queue pc) :
    Aware (window :: windows) (if reportsShow pc then queue ++ [window] else queue) pc := by
  cases pc with
  | listening listener =>
    cases listener with
    | stopped =>
      intro w hw
      rcases List.mem_cons.mp hw with rfl | hw
      · simp [reportsShow]
      · simpa [reportsShow] using .inl (h w hw)
    | running info threadId processId => exact h.imp_left (List.mem_cons_of_mem _)
  | _ => trivial

theorem aware_destroy (h : Aware windows queue pc) (hpc : PcOk D pc) :
    Aware (windows.filter (· ≠ window))
      (if reportsDestroy D window pc then queue ++ [window] else queue) pc := by
  cases pc with
  | listening listener =>
    cases listener with
    | stopped => exact fun w hw => h w (List.mem_filter.mp hw).1
    | running info threadId processId =>
      by_cases hm : info.mainWindow = window
      · subst hm
        exact .inr (by simp [reportsDestroy, hpc.1, hpc.2])
      · refine h.imp (fun hw => List.mem_filter.mpr ⟨hw, by simpa using hm⟩) ?_
        intro hw
        split
        · exact List.mem_append_left _ hw
        · exact hw
  | _ => trivial

theorem consistent_changeState {newState : SpotifyState} (h : s.Consistent D)
    (hn : StateOk D newState) :
    Consistent D { s with scanner := s.scanner.changeState newState, queue } := by
  simp only [SpotifyProcessScanner.changeState]
  split
  · refine ⟨?_, trivial, trivial⟩
    simp only [Watch.send]
    split
    · exact hn
    · exact h.value
  · exact ⟨h.value, hn, trivial⟩

/-- A step to a place where no event hook is installed. -/
theorem consistent_goto (h : s.Consistent D) (hp : PcOk D pc)
    (hn : ∀ listener, pc ≠ .listening listener) :
    Consistent D { s with scanner := s.scanner.goto pc, queue } :=
  ⟨h.value, hp, aware_of_not_listening hn⟩

theorem stateOk_of_scan {view : List ProcessView} {newState : SpotifyState}
    (ha : s.agrees D (.scan view) = true) (h : Scanner.scan view = .ok (some newState)) :
    StateOk D newState := by
  cases newState with
  | stopped => trivial
  | running info =>
    simp only [agrees, h, Bool.and_eq_true, decide_eq_true_eq] at ha
    exact ha.2

theorem consistent_iterate {tryClone : Except IoError Unit} {threadId : Nat}
    {pid : Except IoError Nat} (h : s.Consistent D)
    (ha : s.agrees D (.iterate tryClone threadId pid) = true) :
    Consistent D { s with scanner := s.scanner.iterate tryClone threadId pid, queue } := by
  simp only [SpotifyProcessScanner.iterate]
  split
  · exact consistent_goto h trivial (by simp)
  · split
    · exact consistent_goto h trivial (by simp)
    · rename_i info hv
      split
      · exact consistent_goto h trivial (by simp)
      · split
        · exact consistent_goto h trivial (by simp)
        · rename_i hz
          split
          · exact consistent_goto h trivial (by simp)
          · refine consistent_goto h ?_ (by simp)
            simp only [agrees, hv, Bool.and_eq_true, decide_eq_true_eq] at ha
            have hval := h.value
            rw [hv] at hval
            refine ⟨?_, ha.2.trans hval⟩
            have ht := ha.1
            simp only [World.threadId] at ht
            split at ht
            · exact ht
            · exact absurd ht hz

/-- The window of the next event, and what the OS says about it. -/
theorem queue_of_agrees {e : EventView} (ha : s.agrees D (.event (some e)) = true) :
    ∃ window rest, s.queue = window :: rest ∧ e.windowHandle = some window ∧
      if window ∈ s.windows then accepts e (D.processOf window) = true
      else e.window.isMainSpotifyWindow = false := by
  cases hq : s.queue with
  | nil => simp [agrees, hq] at ha
  | cons window rest =>
    simp only [agrees, hq, Bool.and_eq_true, decide_eq_true_eq] at ha
    refine ⟨window, rest, rfl, ha.1.1, ?_⟩
    by_cases hm : window ∈ s.windows
    · simpa [hm] using ha.2
    · simpa [hm] using ha.2

theorem consistent_eventStopped {e : EventView} (h : s.Consistent D)
    (hp : s.scanner.pc = .listening .stopped) (ha : s.agrees D (.event (some e)) = true) :
    Consistent D { s with scanner := s.scanner.eventStopped e, queue := s.queue.tail } := by
  obtain ⟨window, rest, hq, hw, hacc⟩ := queue_of_agrees ha
  have haw := h.aware
  rw [hp, hq] at haw
  simp only [SpotifyProcessScanner.eventStopped]
  simp only [hw, hq, List.tail_cons]
  by_cases hm : window ∈ s.windows
  · simp only [hm, if_true, accepts, Bool.and_eq_true, decide_eq_true_eq] at hacc
    obtain ⟨⟨⟨hpid, hproc⟩, hspot⟩, hmain⟩ := hacc
    have hfrom : e.fromPid = .ok (D.processOf window) := by
      cases hf : e.fromPid with
      | error _ => simp [hf, Except.toOption] at hproc
      | ok process => simpa [hf, Except.toOption] using hproc
    simp only [hpid, if_false, hfrom, hspot, hmain]
    exact consistent_goto h (by rintro state ⟨⟩; rfl) (by simp)
  · have hstay : Consistent D { s with queue := rest } := by
      refine ⟨h.value, h.pc, ?_⟩
      rw [hp]
      intro w hw'
      rcases List.mem_cons.mp (haw w hw') with rfl | hr
      · exact absurd hw' hm
      · exact hr
    simp only [hm, if_false] at hacc
    split
    · exact consistent_goto h trivial (by simp)
    · split
      · exact hstay
      · simp only [hacc, Bool.not_false, Bool.or_true, if_true]
        exact hstay

theorem consistent_eventRunning {e : EventView} {info : SpotifyInfo} {threadId processId : Nat}
    (h : s.Consistent D) (hp : s.scanner.pc = .listening (.running info threadId processId))
    (ha : s.agrees D (.event (some e)) = true) :
    Consistent D
      { s with scanner := s.scanner.eventRunning info threadId e, queue := s.queue.tail } := by
  obtain ⟨window, rest, hq, hw, -⟩ := queue_of_agrees ha
  have haw := h.aware
  rw [hp, hq] at haw
  simp only [SpotifyProcessScanner.eventRunning]
  simp only [hw, hq, List.tail_cons]
  split
  · exact consistent_goto h trivial (by simp)
  · split
    · rename_i hne
      refine ⟨h.value, h.pc, ?_⟩
      rw [hp]
      apply haw.imp_right
      intro hmem
      rcases List.mem_cons.mp hmem with hm | hm
      · exact absurd (congrArg some hm.symm) hne
      · exact hm
    · exact consistent_goto h (by rintro state ⟨⟩; trivial) (by simp)

theorem consistent_hooked {listener : Listener} (h : s.Consistent D)
    (hp : s.scanner.pc = .hooking listener) (hu : s.Undisturbed (.scanner (.hooked (.ok ())))) :
    Consistent D { s with scanner := s.scanner.goto (.listening listener), queue := [] } := by
  have hpc := h.pc
  rw [hp] at hpc
  simp only [Undisturbed, hp] at hu
  refine ⟨h.value, hpc, ?_⟩
  cases listener with
  | stopped => simp [SpotifyProcessScanner.goto, Aware, hu]
  | running info threadId processId => exact .inl hu

theorem consistent_scanner {l : Label} {scanner : SpotifyProcessScanner} (h : s.Consistent D)
    (hu : s.Undisturbed (.scanner l)) (ha : s.agrees D l = true)
    (hs : SpotifyProcessScanner.Step s.scanner l scanner) :
    Consistent D { s with scanner, queue := s.queueAfter l } := by
  cases hs with
  | scanFailed => exact consistent_goto h trivial (by simp)
  | scanNothing => exact consistent_goto h trivial (by simp)
  | scanFound _ hscan => exact consistent_changeState h (stateOk_of_scan ha hscan)
  | iterate => exact consistent_iterate h ha
  | hooked hp => exact consistent_hooked h hp hu
  | hookFailed => exact consistent_goto h trivial (by simp)
  | closed => simp [agrees] at ha
  | eventStopped hp => exact consistent_eventStopped h hp ha
  | eventRunning hp => exact consistent_eventRunning h hp ha
  | unhookFailed => exact consistent_goto h trivial (by simp)
  | finish => exact consistent_goto h trivial (by simp)
  | publish hp =>
    have hpc := h.pc
    rw [hp] at hpc
    exact consistent_changeState h (hpc _ rfl)
  | dropReceiver => exact ⟨h.value, h.pc, h.aware⟩

theorem consistent_step (h : s.Consistent D) (hu : s.Undisturbed l) (hs : s.step D l = some t) :
    t.Consistent D := by
  cases l with
  | create window =>
    simp only [step] at hs
    split at hs
    · simp at hs
    · obtain rfl := Option.some.inj hs
      exact ⟨h.value, h.pc, aware_create h.aware⟩
  | destroy window =>
    simp only [step] at hs
    split at hs
    · obtain rfl := Option.some.inj hs
      exact ⟨h.value, h.pc, aware_destroy h.aware h.pc⟩
    · simp at hs
  | scanner l =>
    simp only [step] at hs
    split at hs
    · rename_i ha
      obtain ⟨scanner, hsc, rfl⟩ := Option.map_eq_some_iff.mp hs
      exact consistent_scanner h hu ha (SpotifyProcessScanner.step_cases hsc)
    · simp at hs

/-- A hook that is installed too late leaves the scanner waiting in the wrong state at once. -/
theorem not_tracks_step (hu : ¬ s.Undisturbed l) (hs : s.step D l = some t) : ¬ t.Tracks := by
  simp only [Undisturbed] at hu
  split at hu
  · simp only [step] at hs
    split at hs
    · obtain ⟨scanner, hsc, rfl⟩ := Option.map_eq_some_iff.mp hs
      cases SpotifyProcessScanner.step_cases hsc with
      | @hooked listener hp =>
        simp only [hp] at hu
        cases listener with
        | stopped => exact fun h => hu (h rfl)
        | running info threadId processId => exact fun h => hu (h rfl)
    · simp at hs
  · exact absurd trivial hu

theorem consistent_init (windows : List WindowHandle) : (init windows).Consistent D :=
  ⟨trivial, trivial, trivial⟩

/-- No start or exit is lost in a run, with whatever windows it begins, if and only if at each
installation of an event hook the state it was chosen for still holds. -/
theorem tracks_iff_undisturbed (D : Desktop) (windows : List WindowHandle)
    {tr : List (World × WorldLabel)} {s : World} (h : Trace (step D) (init windows) tr s) :
    Always Tracks tr s ↔ Along Undisturbed tr :=
  h.always_iff_along (I := Consistent D) (D := fun _ _ => True) (fun _ _ => trivial)
    (consistent_init windows) (fun _ => tracks_of_consistent)
    (fun _ _ _ hI _ hu hs => consistent_step hI hu hs)
    (fun _ _ _ _ _ hu hs => not_tracks_step hu hs)

/-- Every window belongs to one thread of one process. -/
def oneSpotify : Desktop := ⟨fun _ => 5, fun _ => 9⟩

/-- Spotify starts and exits while the scanner listens. -/
def startAndExit : List WorldLabel :=
  [.scanner (.scan []), .scanner (.iterate (.ok ()) 0 (.ok 0)), .scanner (.hooked (.ok ())),
    .create 100, .scanner (.event (some (mainWindowEvent 9))), .scanner (.unhooked (.ok ())),
    .scanner (.iterate (.ok ()) 5 (.ok 9)), .scanner (.hooked (.ok ())), .destroy 100,
    .scanner (.event (some { mainWindowEvent 0 with window := ⟨100, 0, 1400, [], []⟩ }))]

/-- The main window appears between the scan and the installation of the show hook. -/
def lateShow : List WorldLabel :=
  [.scanner (.scan []), .scanner (.iterate (.ok ()) 0 (.ok 0)), .create 100,
    .scanner (.hooked (.ok ()))]

/-- The main window goes away between the scan and the installation of the destroy hook. -/
def lateDestroy : List WorldLabel :=
  [.scanner (.scan [spotify (.ok 9) [.ok ⟨9, 5, [⟨mainWindow, []⟩]⟩]]),
    .scanner (.iterate (.ok ()) 5 (.ok 9)), .destroy 100, .scanner (.hooked (.ok ()))]

theorem tracks_iff_startAndExit :
    Always Tracks (trail (step oneSpotify) (init []) startAndExit)
        (after (step oneSpotify) (init []) startAndExit) ↔
      Along Undisturbed (trail (step oneSpotify) (init []) startAndExit) :=
  tracks_iff_undisturbed oneSpotify [] (trace_after rfl)

theorem not_tracks_lateShow :
    (∃ tr s, Trace (step oneSpotify) (init []) tr s ∧ ¬ s.Tracks) ∧
      ∃ tr s, Trace (step oneSpotify) (init [100]) tr s ∧ ¬ s.Tracks := by
  refine ⟨⟨trail (step oneSpotify) (init []) lateShow, after (step oneSpotify) (init []) lateShow,
    trace_after rfl, ?_⟩, trail (step oneSpotify) (init [100]) lateDestroy,
    after (step oneSpotify) (init [100]) lateDestroy, trace_after rfl, ?_⟩
  · intro h
    have hw : ([100] : List WindowHandle) = [] := h rfl
    simp at hw
  · intro h
    have hw : (100 : WindowHandle) ∈ ([] : List WindowHandle) := h rfl
    simp at hw

end World

end BurntSushi.Scanner
