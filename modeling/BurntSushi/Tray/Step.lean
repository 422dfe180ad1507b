import BurntSushi.Channel
import BurntSushi.Lts

/-! `SystemTrayManager` and its UI thread, in the `run` of `main` that starts and stops them. -/
namespace BurntSushi.Tray

open Lts
open Channel (Oneshot Watch)

/-- Where the closure of the UI thread is; `menu` is the popup of `show_menu`, which holds the mutex
of the logger, `left` is past the dispatch of events, and `aborted` is the end of the process. -/
inductive Ui where
  | building
  | failed
  | failedSent
  | built
  | dispatching
  | menu
  | left
  | returning
  | ended
  | panicked
  | aborted
  deriving DecidableEq, Repr

/-- Where `wait_for_exit` is. -/
inductive Wait where
  | entered
  | changed
  | joining
  deriving DecidableEq, Repr

/-- Where `run` is. -/
inductive Main where
  | awaitStart
  | select (wait : Wait)
  | shuttingDown
  | stopping
  | posting
  | exit (wait : Wait)
  | exiting
  | returned
  | panicked
  | aborted
  deriving DecidableEq, Repr

/-- The task that `run` spawns for `update`. -/
inductive UpdateTask where
  | running
  | ended
  | panicked
  deriving DecidableEq, Repr

/-- The branches of the `select!` that do not belong to the tray. -/
inductive Branch where
  | app
  | ctrlC
  | update
  deriving DecidableEq, Repr

structure Run where
  ui : Ui
  /-- `WM_QUIT` is in the queue of the UI thread. -/
  quit : Bool
  start : Oneshot Bool
  exit : Watch Bool
  uiThread : Bool
  main : Main
  updateRestart : Oneshot Unit
  updateTask : UpdateTask
  /-- The thread id was posted to when the system was free to give it to another thread. -/
  stray : Bool
  deriving DecidableEq, Repr

inductive Label where
  | buildUi (ok : Bool)
  | sendStart
  | showMenu
  | closeMenu (exit : Bool)
  | quit
  | sendExit
  | dropSender
  | start
  | branch (b : Branch)
  | waitForExit
  | shuttingDown
  | stop
  | post
  | exiting
  | unwind
  | abort
  | update (res : Except String Bool)

namespace Run

def initial : Run where
  ui := .building
  quit := false
  start := .new
  exit := .new false
  uiThread := true
  main := .awaitStart
  updateRestart := .new
  updateTask := .running
  stray := false

/-- `start_tx.send(_).unwrap()`. -/
def sendStart (s : Run) (built : Bool) (next : Ui) : Run :=
  match s.start.send built with
  | some start => { s with start, ui := next }
  | none => { s with ui := .panicked, exit := s.exit.dropSender }

/-- `exit_tx.send(true).unwrap()`. -/
def sendExit (s : Run) : Run :=
  match s.exit.send true with
  | some exit => { s with exit, ui := .returning }
  | none => { s with ui := .panicked, exit := s.exit.dropSender }

/-- `run` unwinds, and its receivers and the handle of the UI thread are dropped. -/
def unwind (s : Run) : Run :=
  { s with
    main := .panicked
    start := s.start.dropReceiver
    exit := s.exit.dropReceiver
    uiThread := false
    updateRestart := s.updateRestart.dropReceiver }

/-- Whether `run` is where something besides the tray can panic: a poll of `app.run()`, `app.stop()`
or a log line, which waits for the menu to let go of the logger. -/
def panics (logs : Bool) (s : Run) : Bool :=
  match s.main with
  | .select .entered => true
  | .select .changed => true
  | .stopping => true
  | .shuttingDown => logs && s.ui ≠ .menu
  | .exiting => logs && s.ui ≠ .menu
  | _ => false

/-- A handler of the tray icon panics, at a poisoned logger or a console that cannot be opened; it
is called from outside Rust, and so the process ends. -/
def abort (s : Run) : Run := { s.unwind with main := .aborted, ui := .aborted }

/-- `start_rx.await.unwrap()?` and the rest of `build_and_run`, which `run` unwraps. -/
def awaitStart (s : Run) : Option Run :=
  match s.start.poll with
  | .pending => none
  | .closed => some s.unwind
  | .ready false => some s.unwind
  | .ready true => some { s with main := .select .entered, start := s.start.dropReceiver }

/-- The `select!` is left, and its other futures are dropped. -/
def leaveSelect (s : Run) : Run :=
  { s with main := .shuttingDown, updateRestart := s.updateRestart.dropReceiver }

/-- One poll of `wait_for_exit`, with what `run` does when it is over and where it goes on. -/
def waitForExit (s : Run) (wait : Wait) (finish : Run → Run) (main : Wait → Main) : Option Run :=
  match wait with
  | .entered =>
    if !s.uiThread || s.exit.value then some (finish s) else some { s with main := main .changed }
  | .changed =>
    match s.exit.changed with
    | .pending => none
    | .closed => some s.unwind
    | .ready exit =>
      if s.uiThread then some { s with exit, uiThread := false, main := main .joining }
      else some (finish { s with exit })
  | .joining =>
    if s.ui = .ended then some (finish s)
    else if s.ui = .panicked then some s.unwind
    else none

/-- The end of `exit`, which drops the manager. -/
def endExit (s : Run) : Run :=
  { s with main := .exiting, uiThread := false, exit := s.exit.dropReceiver }

/-- A branch of the `select!`; that of the update is disabled once its sender is gone. -/
def branch (s : Run) (b : Branch) : Option Run :=
  if s.main = .select .entered ∨ s.main = .select .changed then
    match b with
    | .app => some s.leaveSelect
    | .ctrlC => some s.leaveSelect
    | .update => if s.updateRestart.poll = .ready () then some s.leaveSelect else none
  else none

/-- The main thread is at an await, where the spawned task gets its turn. -/
def awaits (s : Run) : Bool :=
  match s.main with
  | .select .changed => true
  | .stopping => true
  | .exit .changed => true
  | _ => false

/-- What the task does with the result of `update`. -/
def update (s : Run) (res : Except String Bool) : Run :=
  match res with
  | .ok true =>
    match s.updateRestart.send () with
    | some updateRestart => { s with updateRestart, updateTask := .ended }
    | none => { s with updateRestart := s.updateRestart.dropSender, updateTask := .panicked }
  | _ => { s with updateRestart := s.updateRestart.dropSender, updateTask := .ended }

/-- `PostThreadMessageW`; the id is reserved while the thread runs or its handle is open. -/
def post (s : Run) : Run :=
  let gone := s.ui = .ended ∨ s.ui = .panicked
  { s with
    main := .exit .entered
    quit := s.quit || !gone
    stray := s.stray || (gone && !s.uiThread) }

/-- A line is logged, for which the menu must not hold the logger. -/
def log (logs : Bool) (s : Run) (main : Main) : Option Run :=
  if logs && s.ui = .menu then none else some { s with main }

/-- `logs` says that the level of the log admits `info!`. -/
def step (logs : Bool) (s : Run) : Label → Option Run
  | .buildUi ok =>
    if s.ui = .building then some { s with ui := if ok then .built else .failed } else none
  | .sendStart =>
    if s.ui = .built then some (s.sendStart true .dispatching)
    else if s.ui = .failed then some (s.sendStart false .failedSent)
    else none
  | .showMenu => if s.ui = .dispatching then some { s with ui := .menu } else none
  | .closeMenu exit =>
    if s.ui = .menu then some { s with ui := .dispatching, quit := s.quit || exit } else none
  | .quit =>
    if s.ui = .dispatching ∧ s.quit = true then some { s with ui := .left, quit := false }
    else none
  | .sendExit => if s.ui = .left ∨ s.ui = .failedSent then some s.sendExit else none
  | .dropSender =>
    if s.ui = .returning then some { s with ui := .ended, exit := s.exit.dropSender } else none
  | .start => if s.main = .awaitStart then s.awaitStart else none
  | .branch b => s.branch b
  | .waitForExit =>
    match s.main with
    | .select wait => s.waitForExit wait leaveSelect .select
    | .exit wait => s.waitForExit wait endExit .exit
    | _ => none
  | .shuttingDown => if s.main = .shuttingDown then s.log logs .stopping else none
  | .stop => if s.main = .stopping then some { s with main := .posting } else none
  | .post => if s.main = .posting then some s.post else none
  | .exiting => if s.main = .exiting then s.log logs .returned else none
  | .unwind => if s.panics logs then some s.unwind else none
  | .abort => if s.ui = .dispatching then some s.abort else none
  | .update res =>
    if s.updateTask = .running ∧ s.awaits = true then some (s.update res) else none

/-- `build_ui` does not fail. -/
def Builds (_ : Run) (l : Label) : Prop := l ≠ .buildUi false

/-- Nothing but the unwraps around the two channels and the join panics. -/
def Calm (_ : Run) (l : Label) : Prop := l ≠ .unwind ∧ l ≠ .abort

/-- Whether the handle of the UI thread is still there, by where `run` is. -/
def Held (main : Main) (uiThread : Bool) : Prop :=
  match main with
  | .awaitStart => uiThread = true
  | .select .joining => uiThread = false
  | .select _ => uiThread = true
  | .exit .changed => uiThread = true
  | .exit .joining => uiThread = false
  | .exiting => uiThread = false
  | .returned => uiThread = false
  | .panicked => False
  | .aborted => False
  | _ => True

/-- The state of the two threads as long as `build_ui` has not failed and nothing has panicked. -/
structure Inv (s : Run) : Prop where
  ui : s.ui ≠ .failed ∧ s.ui ≠ .failedSent ∧ s.ui ≠ .panicked ∧ s.ui ≠ .aborted
  start : s.main = .awaitStart → s.start =
    if s.ui = .building ∨ s.ui = .built then .new else ⟨some true, false, true⟩
  started : s.main ≠ .awaitStart → s.ui ≠ .building ∧ s.ui ≠ .built
  value : s.exit.value = true ↔ s.ui = .returning ∨ s.ui = .ended
  version : s.exit.version = s.exit.value.toNat
  sender : s.exit.sender = false → s.ui = .ended
  receiver : s.uiThread = true → s.exit.receiver = some 0
  taken : s.uiThread = false → s.exit.value = true
  held : Held s.main s.uiThread

/-- The state of the UI thread once `run` has panicked with a tray that was built. -/
structure Over (s : Run) : Prop where
  main : s.main = .panicked ∨ s.main = .aborted ∧ s.ui = .aborted
  ui : s.ui ≠ .building ∧ s.ui ≠ .built ∧ s.ui ≠ .failed ∧ s.ui ≠ .failedSent
  receiver : s.exit.receiver = none

/-- The cases of `step`. -/
inductive Step (logs : Bool) (s : Run) : Label → Run → Prop
  | buildUi {ok : Bool} (h : s.ui = .building) :
      Step logs s (.buildUi ok) { s with ui := if ok then .built else .failed }
  | sendStart (h : s.ui = .built) : Step logs s .sendStart (s.sendStart true .dispatching)
  | sendFailed (h : s.ui = .failed) : Step logs s .sendStart (s.sendStart false .failedSent)
  | showMenu (h : s.ui = .dispatching) : Step logs s .showMenu { s with ui := .menu }
  | closeMenu {exit : Bool} (h : s.ui = .menu) :
      Step logs s (.closeMenu exit) { s with ui := .dispatching, quit := s.quit || exit }
  | quit (h : s.ui = .dispatching) (hq : s.quit = true) :
      Step logs s .quit { s with ui := .left, quit := false }
  | sendExit (h : s.ui = .left ∨ s.ui = .failedSent) : Step logs s .sendExit s.sendExit
  | dropSender (h : s.ui = .returning) :
      Step logs s .dropSender { s with ui := .ended, exit := s.exit.dropSender }
  | start {t : Run} (hm : s.main = .awaitStart) (ht : s.awaitStart = some t) :
      Step logs s .start t
  | branch {b : Branch} (hm : s.main = .select .entered ∨ s.main = .select .changed)
      (hb : b = .update → s.updateRestart.poll = .ready ()) : Step logs s (.branch b) s.leaveSelect
  | waitSelect {wait : Wait} {t : Run} (hm : s.main = .select wait)
      (ht : s.waitForExit wait leaveSelect .select = some t) : Step logs s .waitForExit t
  | waitExit {wait : Wait} {t : Run} (hm : s.main = .exit wait)
      (ht : s.waitForExit wait endExit .exit = some t) : Step logs s .waitForExit t
  | shuttingDown (hm : s.main = .shuttingDown) (hl : logs = true → s.ui ≠ .menu) :
      Step logs s .shuttingDown { s with main := .stopping }
  | stop (hm : s.main = .stopping) : Step logs s .stop { s with main := .posting }
  | post (hm : s.main = .posting) : Step logs s .post s.post
  | exiting (hm : s.main = .exiting) (hl : logs = true → s.ui ≠ .menu) :
      Step logs s .exiting { s with main := .returned }
  | unwind (h : s.panics logs = true) : Step logs s .unwind s.unwind
  | abort (h : s.ui = .dispatching) : Step logs s .abort s.abort
  | update {res : Except String Bool} (h : s.updateTask = .running) (ha : s.awaits = true) :
      Step logs s (.update res) (s.update res)

variable {logs : Bool} {s t : Run} {l : Label} {tr tr' : List (Run × Label)} {wait : Wait}

theorem log_eq_some {main : Main} : s.log logs main = some t ↔
    (logs = true → s.ui ≠ .menu) ∧ t = { s with main } := by
  simp only [log]
  cases logs <;> by_cases hu : s.ui = .menu <;> simp [hu, eq_comm]

theorem branch_eq_some {b : Branch} : s.branch b = some t ↔
    (s.main = .select .entered ∨ s.main = .select .changed) ∧
      (b = .update → s.updateRestart.poll = .ready ()) ∧ t = s.leaveSelect := by
  simp only [branch]
  cases b <;> split <;> simp_all [eq_comm]

theorem step_iff : step logs s l = some t ↔ Step logs s l t := by
  constructor
  · intro h
    cases l with
    | buildUi ok =>
      simp only [step, Option.ite_none_right_eq_some, Option.some.injEq] at h
      obtain ⟨hu, rfl⟩ := h
      exact .buildUi hu
    | sendStart =>
      simp only [step] at h
      split at h
      · rename_i hu
        cases h
        exact .sendStart hu
      · simp only [Option.ite_none_right_eq_some, Option.some.injEq] at h
        obtain ⟨hu, rfl⟩ := h
        exact .sendFailed hu
    | showMenu =>
      simp only [step, Option.ite_none_right_eq_some, Option.some.injEq] at h
      obtain ⟨hu, rfl⟩ := h
      exact .showMenu hu
    | closeMenu exit =>
      simp only [step, Option.ite_none_right_eq_some, Option.some.injEq] at h
      obtain ⟨hu, rfl⟩ := h
      exact .closeMenu hu
    | quit =>
      simp only [step, Option.ite_none_right_eq_some, Option.some.injEq] at h
      obtain ⟨⟨hu, hq⟩, rfl⟩ := h
      exact .quit hu hq
    | sendExit =>
      simp only [step, Option.ite_none_right_eq_some, Option.some.injEq] at h
      obtain ⟨hu, rfl⟩ := h
      exact .sendExit hu
    | dropSender =>
      simp only [step, Option.ite_none_right_eq_some, Option.some.injEq] at h
      obtain ⟨hu, rfl⟩ := h
      exact .dropSender hu
    | start =>
      simp only [step, Option.ite_none_right_eq_some] at h
      exact .start h.1 h.2
    | branch b =>
      obtain ⟨hm, hb, rfl⟩ := branch_eq_some.mp h
      exact .branch hm hb
    | waitForExit =>
      simp only [step] at h
      split at h
      · rename_i hm
        exact .waitSelect hm h
      · rename_i hm
        exact .waitExit hm h
      · cases h
    | shuttingDown =>
      simp only [step, Option.ite_none_right_eq_some, log_eq_some] at h
      obtain ⟨hm, hl, rfl⟩ := h
      exact .shuttingDown hm hl
    | stop =>
      simp only [step, Option.ite_none_right_eq_some, Option.some.injEq] at h
      obtain ⟨hm, rfl⟩ := h
      exact .stop hm
    | post =>
      simp only [step, Option.ite_none_right_eq_some, Option.some.injEq] at h
      obtain ⟨hm, rfl⟩ := h
      exact .post hm
    | exiting =>
      simp only [step, Option.ite_none_right_eq_some, log_eq_some] at h
      obtain ⟨hm, hl, rfl⟩ := h
      exact .exiting hm hl
    | unwind =>
      simp only [step, Option.ite_none_right_eq_some, Option.some.injEq] at h
      obtain ⟨hp, rfl⟩ := h
      exact .unwind hp
    | abort =>
      simp only [step, Option.ite_none_right_eq_some, Option.some.injEq] at h
      obtain ⟨hu, rfl⟩ := h
      exact .abort hu
    | update res =>
      simp only [step, Option.ite_none_right_eq_some, Option.some.injEq] at h
      obtain ⟨⟨ht, ha⟩, rfl⟩ := h
      exact .update ht ha
  · intro h
    cases h with
    | branch hm hb => exact branch_eq_some.mpr ⟨hm, hb, rfl⟩
    | waitSelect hm ht => simp only [step, hm, ht]
    | waitExit hm ht => simp only [step, hm, ht]
    | sendFailed hu => simp [step, hu]
    | start hm ht => simp [step, hm, ht]
    | _ => simp_all [step, log_eq_some]

theorem inv_initial : Inv initial := by
  constructor <;> simp [initial, Held, Watch.new]

/-- The UI thread has the flag to send until `exit_tx` is used. -/
theorem Inv.uiThread (hI : Inv s) (hu : s.ui ≠ .returning ∧ s.ui ≠ .ended) :
    s.uiThread = true ∧ s.exit.value = false := by
  have hv : s.exit.value = false := by simpa [hu] using hI.value
  refine ⟨?_, hv⟩
  cases ht : s.uiThread with
  | false => simp [hI.taken ht] at hv
  | true => rfl

/-- A step of the UI thread that leaves the channels alone. -/
theorem Inv.of_ui (hI : Inv s) {ui : Ui} {quit : Bool}
    (hu : ui = .built ∧ s.ui = .building ∨
      (ui = .dispatching ∨ ui = .menu ∨ ui = .left) ∧ (s.ui = .dispatching ∨ s.ui = .menu)) :
    Inv { s with ui, quit } := by
  obtain ⟨hui, hstart, hstarted, hvalue, hversion, hsender, hreceiver, htaken, hheld⟩ := hI
  refine ⟨?_, ?_, ?_, ?_, hversion, ?_, hreceiver, htaken, hheld⟩
  all_goals rcases hu with ⟨rfl, hu⟩ | ⟨rfl | rfl | rfl, hu | hu⟩ <;> simp_all

/-- The id is sent to a `build_and_run` that still waits for it. -/
theorem sendStart_eq (hI : Inv s) (hu : s.ui = .built) :
    s.main = .awaitStart ∧ s.sendStart true .dispatching =
      { s with start := ⟨some true, false, true⟩, ui := .dispatching } := by
  have hm : s.main = .awaitStart := by
    by_contra hm
    exact (hI.started hm).2 hu
  have hstart : s.start = .new := by simpa [hu] using hI.start hm
  refine ⟨hm, ?_⟩
  simp [Run.sendStart, hstart, Oneshot.send, Oneshot.new]

theorem Inv.sendStart (hI : Inv s) (hu : s.ui = .built) : Inv (s.sendStart true .dispatching) := by
  rw [(sendStart_eq hI hu).2]
  obtain ⟨hui, -, hstarted, hvalue, hversion, hsender, hreceiver, htaken, hheld⟩ := hI
  refine ⟨by simp, by simp, by simp, ?_, hversion, ?_, hreceiver, htaken, hheld⟩ <;> simp_all

/-- The flag is sent to a receiver that is still there. -/
theorem sendExit_eq (hI : Inv s) (hu : s.ui = .left) :
    s.sendExit = { s with exit.value := true, exit.version := 1, ui := .returning } := by
  obtain ⟨hthread, hv⟩ := hI.uiThread (by simp [hu])
  have hversion : s.exit.version = 0 := by simpa [hv] using hI.version
  simp [Run.sendExit, Watch.send, hI.receiver hthread, hversion]

theorem Inv.sendExit (hI : Inv s) (hu : s.ui = .left) : Inv s.sendExit := by
  have hr := hI.receiver (hI.uiThread (by simp [hu])).1
  rw [sendExit_eq hI hu]
  obtain ⟨-, hstart, hstarted, -, -, hsender, -, -, hheld⟩ := hI
  refine ⟨by simp, ?_, by simp, by simp, rfl, ?_, fun _ => hr, fun _ => rfl, hheld⟩ <;> simp_all

theorem Inv.dropSender (hI : Inv s) (hu : s.ui = .returning) :
    Inv { s with ui := .ended, exit := s.exit.dropSender } := by
  obtain ⟨-, hstart, -, hvalue, hversion, -, hreceiver, htaken, hheld⟩ := hI
  refine ⟨by simp, ?_, by simp, ?_, hversion, fun _ => rfl, hreceiver, htaken, hheld⟩
  · simpa [hu] using hstart
  · simpa [hu] using hvalue

/-- `build_and_run` returns once the UI thread has sent its id, and not before. -/
theorem awaitStart_eq_some (hI : Inv s) (hm : s.main = .awaitStart) :
    s.awaitStart = some t ↔ (s.ui ≠ .building ∧ s.ui ≠ .built) ∧
      t = { s with main := .select .entered, start := s.start.dropReceiver } := by
  have hstart := hI.start hm
  by_cases hu : s.ui = .building ∨ s.ui = .built
  · have hn : ¬ (s.ui ≠ .building ∧ s.ui ≠ .built) := fun hn => not_or.mpr hn hu
    simp [Run.awaitStart, Oneshot.poll, hstart, hu, Oneshot.new, hn]
  · rw [if_neg hu] at hstart
    simp [Run.awaitStart, Oneshot.poll, hstart, not_or.mp hu, eq_comm]

theorem Inv.awaitStart (hI : Inv s) (hm : s.main = .awaitStart) (h : s.awaitStart = some t) :
    Inv t := by
  obtain ⟨hu, rfl⟩ := (awaitStart_eq_some hI hm).mp h
  obtain ⟨hui, -, -, hvalue, hversion, hsender, hreceiver, htaken, hheld⟩ := hI
  rw [hm] at hheld
  exact ⟨hui, by simp, fun _ => hu, hvalue, hversion, hsender, hreceiver, htaken, hheld⟩

/-- A step of `run` that changes nothing but where it is. -/
theorem Inv.of_main (hI : Inv s) {main : Main} {quit stray : Bool} (hm : s.main ≠ .awaitStart)
    (hm' : main ≠ .awaitStart) (hheld : Held main s.uiThread) :
    Inv { s with main, quit, stray } :=
  ⟨hI.ui, fun he => absurd he hm', fun _ => hI.started hm, hI.value, hI.version, hI.sender,
    hI.receiver, hI.taken, hheld⟩

/-- A poll of `wait_for_exit` does not panic, and is over once the UI thread has sent its flag. -/
theorem waitForExit_cases {finish : Run → Run} {main : Wait → Main} (hI : Inv s)
    (hm : s.main = main wait) (hh : wait = .changed → s.uiThread = true)
    (h : s.waitForExit wait finish main = some t) :
    (wait = .entered ∧ s.exit.value = true ∧ t = finish s) ∨
    (wait = .entered ∧ s.uiThread = true ∧ t = { s with main := main .changed }) ∨
    (wait = .changed ∧ s.uiThread = true ∧ s.exit.value = true ∧
      t = { s with
        exit := { s.exit with receiver := some s.exit.version }
        uiThread := false
        main := main .joining }) ∨
    (wait = .joining ∧ s.ui = .ended ∧ t = finish s) := by
  cases wait with
  | entered =>
    simp only [waitForExit] at h
    split at h
    · rename_i hv
      cases h
      have hv : s.exit.value = true := by
        cases ht : s.uiThread with
        | false => exact hI.taken ht
        | true => simpa [ht] using hv
      exact .inl ⟨rfl, hv, rfl⟩
    · rename_i hv
      cases h
      exact .inr (.inl ⟨rfl, by simp_all, rfl⟩)
  | changed =>
    have hthread := hh rfl
    have hr := hI.receiver hthread
    have hversion := hI.version
    simp only [waitForExit] at h
    cases hc : s.exit.changed with
    | pending => simp [hc] at h
    | closed =>
      obtain ⟨hseen, hs⟩ := Watch.changed_eq_closed.mp hc
      have hv := hI.value.mpr (.inr (hI.sender hs))
      simp [hr, hversion, hv] at hseen
    | ready exit =>
      obtain ⟨hne, rfl⟩ := Watch.changed_eq_ready.mp hc
      simp only [hc, hthread, if_true, Option.some.injEq] at h
      refine .inr (.inr (.inl ⟨rfl, hthread, ?_, h.symm⟩))
      cases hv : s.exit.value with
      | true => rfl
      | false => simp [hr, hversion, hv] at hne
  | joining =>
    simp only [waitForExit] at h
    split at h
    · rename_i hu
      cases h
      exact .inr (.inr (.inr ⟨rfl, hu, rfl⟩))
    · simp [hI.ui] at h

theorem Inv.changed (hI : Inv s) (hm : s.main = .select wait ∨ s.main = .exit wait) :
    wait = .changed → s.uiThread = true := by
  rintro rfl
  have hheld := hI.held
  rcases hm with hm | hm <;> rw [hm] at hheld <;> exact hheld

/-- In the `select!`, the handle is taken to join the thread. -/
theorem Inv.joining_iff (hI : Inv s) (hm : s.main = .select wait) :
    wait = .joining ↔ s.uiThread = false := by
  have hheld := hI.held
  rw [hm] at hheld
  cases wait <;> simp_all [Held]

theorem Inv.leaveSelect (hI : Inv s) (hm : s.main ≠ .awaitStart) : Inv s.leaveSelect :=
  ⟨hI.ui, fun he => by simp [Run.leaveSelect] at he, fun _ => hI.started hm, hI.value, hI.version,
    hI.sender, hI.receiver, hI.taken, trivial⟩

theorem Inv.endExit (hI : Inv s) (hm : s.main ≠ .awaitStart) (hv : s.exit.value = true) :
    Inv s.endExit :=
  ⟨hI.ui, fun he => by simp [Run.endExit] at he, fun _ => hI.started hm, hI.value, hI.version,
    hI.sender, fun he => by simp [Run.endExit] at he, fun _ => hv, rfl⟩

theorem Inv.takeThread (hI : Inv s) {main : Main} (hm : s.main ≠ .awaitStart)
    (hm' : main ≠ .awaitStart) (hv : s.exit.value = true) (hheld : Held main false) :
    Inv { s with
      exit := { s.exit with receiver := some s.exit.version }
      uiThread := false
      main } :=
  ⟨hI.ui, fun he => absurd he hm', fun _ => hI.started hm, hI.value, hI.version, hI.sender,
    fun he => by simp at he, fun _ => hv, hheld⟩

theorem update_eq (res : Except String Bool) :
    ∃ updateRestart updateTask, s.update res = { s with updateRestart, updateTask } := by
  simp only [Run.update]
  split
  · split <;> exact ⟨_, _, rfl⟩
  · exact ⟨_, _, rfl⟩

theorem inv_step (hI : Inv s) (hb : Builds s l) (hc : Calm s l) (h : Step logs s l t) : Inv t := by
  cases h with
  | @buildUi ok hu =>
    cases ok with
    | true => exact hI.of_ui (.inl ⟨rfl, hu⟩)
    | false => exact absurd rfl hb
  | sendStart hu => exact hI.sendStart hu
  | sendFailed hu => exact absurd hu hI.ui.1
  | showMenu hu => exact hI.of_ui (.inr ⟨by simp, .inl hu⟩)
  | closeMenu hu => exact hI.of_ui (.inr ⟨by simp, .inr hu⟩)
  | quit hu hq => exact hI.of_ui (.inr ⟨by simp, .inl hu⟩)
  | sendExit hu => exact hI.sendExit (hu.resolve_right hI.ui.2.1)
  | dropSender hu => exact hI.dropSender hu
  | start hm ht => exact hI.awaitStart hm ht
  | branch hm hb => exact hI.leaveSelect (by rcases hm with hm | hm <;> simp [hm])
  | @waitSelect wait _ hm ht =>
    have hne : s.main ≠ .awaitStart := by simp [hm]
    rcases waitForExit_cases hI hm (hI.changed (.inl hm)) ht with
      ⟨-, -, rfl⟩ | ⟨-, hu, rfl⟩ | ⟨-, -, hv, rfl⟩ | ⟨-, -, rfl⟩
    · exact hI.leaveSelect hne
    · exact hI.of_main hne (by simp) hu
    · exact hI.takeThread hne (by simp) hv rfl
    · exact hI.leaveSelect hne
  | @waitExit wait _ hm ht =>
    have hne : s.main ≠ .awaitStart := by simp [hm]
    rcases waitForExit_cases hI hm (hI.changed (.inr hm)) ht with
      ⟨-, hv, rfl⟩ | ⟨-, hu, rfl⟩ | ⟨-, -, hv, rfl⟩ | ⟨-, hu, rfl⟩
    · exact hI.endExit hne hv
    · exact hI.of_main hne (by simp) hu
    · exact hI.takeThread hne (by simp) hv rfl
    · exact hI.endExit hne (hI.value.mpr (.inr hu))
  | shuttingDown hm hl => exact hI.of_main (by simp [hm]) (by simp) trivial
  | stop hm => exact hI.of_main (by simp [hm]) (by simp) trivial
  | post hm => exact hI.of_main (by simp [hm]) (by simp) trivial
  | exiting hm hl =>
    have hheld := hI.held
    rw [hm] at hheld
    exact hI.of_main (by simp [hm]) (by simp) hheld
  | unwind hp => exact absurd rfl hc.1
  | abort hu => exact absurd rfl hc.2
  | @update res hu ha =>
    obtain ⟨updateRestart, updateTask, he⟩ := s.update_eq res
    rw [he]
    exact ⟨hI.ui, hI.start, hI.started, hI.value, hI.version, hI.sender, hI.receiver, hI.taken,
      hI.held⟩

/-- Besides the tray, `run` panics behind its start. -/
theorem not_awaitStart_of_panics (h : s.panics logs = true) : s.main ≠ .awaitStart := by
  intro hm
  simp [panics, hm] at h

theorem over_of_panics (hI : Inv s) (hc : ¬ Calm s l) (h : Step logs s l t) : Over t := by
  cases h with
  | unwind hp =>
    obtain ⟨hb, hb'⟩ := hI.started (not_awaitStart_of_panics hp)
    exact ⟨.inl rfl, ⟨hb, hb', hI.ui.1, hI.ui.2.1⟩, rfl⟩
  | abort hu => exact ⟨.inr ⟨rfl, rfl⟩, by simp [Run.abort], rfl⟩
  | _ => simp [Calm] at hc

/-- Behind the end of `run` there are only the user and the UI thread, whose flag has no
receiver. -/
theorem over_cases (hO : Over s) (h : Step logs s l t) :
    (l = .showMenu ∧ s.ui = .dispatching ∧ t = { s with ui := .menu }) ∨
    (∃ exit, l = .closeMenu exit ∧ s.ui = .menu ∧
      t = { s with ui := .dispatching, quit := s.quit || exit }) ∨
    (l = .quit ∧ s.ui = .dispatching ∧ t = { s with ui := .left, quit := false }) ∨
    (l = .sendExit ∧ s.ui = .left ∧ t = { s with ui := .panicked, exit := s.exit.dropSender }) ∨
    (l = .dropSender ∧ s.ui = .returning ∧
      t = { s with ui := .ended, exit := s.exit.dropSender }) ∨
    (l = .abort ∧ s.ui = .dispatching ∧ t = s.abort) := by
  obtain ⟨hm, hu, hr⟩ := hO
  cases h with
  | showMenu hd => exact .inl ⟨rfl, hd, rfl⟩
  | @closeMenu exit hd => exact .inr (.inl ⟨exit, rfl, hd, rfl⟩)
  | quit hd hq => exact .inr (.inr (.inl ⟨rfl, hd, rfl⟩))
  | sendExit hd =>
    have hd := hd.resolve_right hu.2.2.2
    refine .inr (.inr (.inr (.inl ⟨rfl, hd, ?_⟩)))
    simp [Run.sendExit, Watch.send, hr]
  | dropSender hd => exact .inr (.inr (.inr (.inr (.inl ⟨rfl, hd, rfl⟩))))
  | abort hd => exact .inr (.inr (.inr (.inr (.inr ⟨rfl, hd, rfl⟩))))
  | buildUi hd => exact absurd hd hu.1
  | sendStart hd => exact absurd hd hu.2.1
  | sendFailed hd => exact absurd hd hu.2.2.1
  | branch hs => rcases hm with hm | ⟨hm, -⟩ <;> simp [hm] at hs
  | unwind hp => rcases hm with hm | ⟨hm, -⟩ <;> simp [panics, hm] at hp
  | update _ ha => rcases hm with hm | ⟨hm, -⟩ <;> simp [awaits, hm] at ha
  | start hs | waitSelect hs | waitExit hs | shuttingDown hs | stop hs | post hs | exiting hs =>
    rcases hm with hm | ⟨hm, -⟩ <;> simp [hm] at hs

theorem over_step (hO : Over s) (h : Step logs s l t) : Over t := by
  obtain ⟨hm, hu, hr⟩ := hO
  have hend {ui : Ui} (hs : s.ui ≠ .aborted) :
      s.main = .panicked ∨ s.main = .aborted ∧ ui = .aborted :=
    hm.imp_right fun h => absurd h.2 hs
  rcases over_cases ⟨hm, hu, hr⟩ h with ⟨-, hd, rfl⟩ | ⟨exit, -, hd, rfl⟩ | ⟨-, hd, rfl⟩ |
    ⟨-, hd, rfl⟩ | ⟨-, hd, rfl⟩ | ⟨-, hd, rfl⟩
  · exact ⟨hend (by simp [hd]), by simp, hr⟩
  · exact ⟨hend (by simp [hd]), by simp, hr⟩
  · exact ⟨hend (by simp [hd]), by simp, hr⟩
  · exact ⟨hend (by simp [hd]), by simp, hr⟩
  · exact ⟨hend (by simp [hd]), by simp, hr⟩
  · exact ⟨.inr ⟨rfl, rfl⟩, by simp [Run.abort], rfl⟩

/-- With a tray that is built, `run` goes on or is over. -/
theorem inv_or_over (hb : Builds s l) (hs : Inv s ∨ Over s) (h : Step logs s l t) :
    Inv t ∨ Over t := by
  rcases hs with hI | hO
  · by_cases hc : Calm s l
    · exact .inl (inv_step hI hb hc h)
    · exact .inr (over_of_panics hI hc h)
  · exact .inr (over_step hO h)

end Run

end BurntSushi.Tray
