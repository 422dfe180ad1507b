import BurntSushi.Logger.Global
import BurntSushi.Resource

/-! The handles and the helper process behind the console of the logger, over the runs of it. -/
namespace BurntSushi.ConsoleLog

open Lts Resource

/-- Kernel objects, by the handles to them; a process that has ended is one as long as it has a
handle. -/
inductive Object where
  | readPipe
  | writePipe
  | thread
  | process (child : Nat)
  | child (running : Bool)
  deriving DecidableEq, Repr

inductive ConsoleImpl where
  | attach
  | alloc
  | piped (process pipe : Nat)
  deriving DecidableEq, Repr

def ConsoleImpl.isPiped : ConsoleImpl → Bool
  | .piped _ _ => true
  | _ => false

/-- What the system answers to the calls of `piped`. -/
structure PipedIo where
  createPipe : Except String Unit
  setHandleInformation : Except String Unit
  createProcess : Except String Unit

/-- The first error. -/
def PipedIo.result (io : PipedIo) : Except String Unit := do
  io.createPipe
  io.setHandleInformation
  io.createProcess

/-- `Console::piped`: the read end is closed at its end, the write end on its errors only. -/
def piped (io : PipedIo) : Code Object (Except String ConsoleImpl) :=
  match io.createPipe with
  | .error e => pure (.error e)
  | .ok () => do
    let readPipe ← acquire .readPipe
    let writePipe ← acquire .writePipe
    owning (release readPipe) do
      let _ ← use writePipe
      match io.setHandleInformation with
      | .error e =>
        release writePipe
        return .error e
      | .ok () =>
        let _ ← use readPipe
        match io.createProcess with
        | .error e =>
          release writePipe
          return .error e
        | .ok () =>
          let child ← acquire (.child true)
          let process ← acquire (.process child)
          let thread ← acquire .thread
          release thread
          return .ok (.piped process writePipe)

/-- The process that a handle is to. -/
def childOf (process : Nat) : Code Object Nat := do
  match ← use process with
  | .process child => return child
  | _ =>
    require False
    return 0

/-- `kill`; it fails on a process that has ended, and does nothing to it. -/
def kill (process : Nat) : Code Object Unit := do
  let child ← childOf process
  set child (.child false)

/-- `CloseHandle` on the last handle of a process. -/
def closeProcess (process : Nat) : Code Object Unit := do
  let child ← childOf process
  match ← use child with
  | .child true => release process
  | _ =>
    release child
    release process

/-- The drop of a `Console` and of its fields; `kills` is whether `kill` can end the process. -/
def drop (kills : Bool) : ConsoleImpl → Code Object Unit
  | .attach => pure ()
  | .alloc => pure ()
  | .piped process pipe => do
    (if kills then kill process else pure ())
    closeProcess process
    release pipe

/-- The write end of the pipe is what a line goes through. -/
def println : ConsoleImpl → Code Object Unit
  | .piped _ pipe => do
    let _ ← use pipe
  | _ => pure ()

/-- Whether the process is alive. -/
def isAlive (h : Heap Object) (process : Nat) : Bool :=
  match h.live process with
  | some (.process child) => h.live child = some (.child true)
  | _ => false

/-- What the sinks see of a console. -/
def view (h : Heap Object) : ConsoleImpl → Console
  | .attach => .attach
  | .alloc => .alloc
  | .piped process _ => .piped (isAlive h process)

/-- The logger with its handles; `fault` is a use or a close of one that is not open. -/
structure Holder where
  console : Option ConsoleImpl
  file : Option FileLog
  poisoned : Bool
  fs : Fs
  shown : List String
  hasConsole : Bool
  heap : Heap Object
  fault : Bool

/-- What happens to the logger until `main` ends with `unset`. -/
inductive Label where
  | log (record : Record) (io : RecordIo)
  | showMenu
  | showConsole (io : PipedIo)
  | closed
  | unset (kills : Bool)

/-- What the sinks see of a step; `none` is `unset`. -/
def Label.erase : Label → Option GlobalLoggerHolder.Label
  | .log record io => some (.log record io)
  | .showMenu => some .showMenu
  | .showConsole io => some (.showConsole io.result)
  | .closed => some .closed
  | .unset _ => none

/-- A step of the two sinks, or `unset`, which panics on a poisoned mutex. -/
def sinksStep (s : GlobalLoggerHolder) : Option GlobalLoggerHolder.Label → Option GlobalLoggerHolder
  | some l => s.step l
  | none => some (if s.poisoned then s else { s with logger := ⟨none, none⟩ })

namespace Holder

/-- Without the handles, the logger is that of the two sinks. -/
def erase (s : Holder) : GlobalLoggerHolder where
  logger := ⟨s.console.map (view s.heap), s.file⟩
  poisoned := s.poisoned
  fs := s.fs
  shown := s.shown

def setUp (attach alloc : Bool) (logFile : Option Path) (fs : Fs) : Holder where
  console := if alloc then some .alloc else if attach then some .attach else none
  file := logFile.map .new
  poisoned := false
  fs := fs
  shown := []
  hasConsole := attach || alloc
  heap := .empty
  fault := false

/-- Run code on the handles. -/
def exec {α : Type} (s : Holder) (code : Code Object α) (k : α → Holder → Holder) : Holder :=
  match code s.heap with
  | none => { s with fault := true }
  | some (x, heap) => k x { s with heap }

/-- The line for the console, and then that for the file. -/
def log (record : Record) (io : RecordIo) (s : Holder) : Holder :=
  let r := (s.erase.log record io).1
  let s' := { s with file := r.logger.file, poisoned := r.poisoned, fs := r.fs, shown := r.shown }
  match s.console with
  | some console =>
    if GlobalLoggerHolder.Relevant record ∧ s.poisoned = false then
      s'.exec (println console) fun _ s' => s'
    else s'
  | none => s'

def showConsole (io : PipedIo) (s : Holder) : Holder :=
  if s.poisoned ∨ s.console.isSome then s
  else s.exec (piped io) fun res s => match res with
    | .error _ => { s with poisoned := true }
    | .ok console => { s with console := some console }

/-- The user closes the window of the helper process. -/
def close (s : Holder) : Option Holder :=
  match s.console with
  | some (.piped process _) =>
    match s.heap.live process with
    | some (.process child) =>
      if isAlive s.heap process then
        some { s with heap := s.heap.set child (.child false) }
      else none
    | _ => none
  | _ => none

/-- `unset`, which panics on a poisoned mutex. -/
def unset (kills : Bool) (s : Holder) : Holder :=
  if s.poisoned then s
  else match s.console with
    | none => { s with file := none }
    | some console =>
      { s with hasConsole := s.hasConsole && console ≠ ConsoleImpl.alloc }.exec (drop kills console)
        fun _ s => { s with console := none, file := none }

def step (s : Holder) : Label → Option Holder
  | .log record io => some (s.log record io)
  | .showMenu => some s
  | .showConsole io => some (s.showConsole io)
  | .closed => s.close
  | .unset kills => some (s.unset kills)

end Holder

/-- The objects of a piped console. -/
def objects (process pipe child : Nat) (running : Bool) : Nat → Option Object :=
  Function.update (Function.update (Function.update (fun _ => none) pipe (some .writePipe)) child
    (some (.child running))) process (some (.process child))

/-- What a console owns, with whether its process runs. -/
def Owned (running : Bool) : Option ConsoleImpl → (Nat → Option Object) → Prop
  | some (.piped process pipe), own => ∃ child, process ≠ child ∧ pipe ≠ child ∧ pipe ≠ process ∧
      own = objects process pipe child running
  | _, own => own = fun _ => none

variable {process pipe child : Nat} {running kills : Bool} {own frame : Nat → Option Object}
  {h : Heap Object} {console : ConsoleImpl}

@[simp] theorem objects_process :
    objects process pipe child running process = some (.process child) := by
  simp [objects]

theorem objects_child (hne : process ≠ child) :
    objects process pipe child running child = some (.child running) := by
  simp [objects, hne.symm]

theorem objects_pipe (hpc : pipe ≠ child) (hpp : pipe ≠ process) :
    objects process pipe child running pipe = some .writePipe := by
  simp [objects, hpc, hpp]

theorem update_objects (hne : process ≠ child) (running' : Bool) :
    Function.update (objects process pipe child running) child (some (.child running')) =
      objects process pipe child running' := by
  rw [objects, Function.update_comm hne, Function.update_idem]
  rfl

/-- The two ends of the pipe, before one of them goes into the console. -/
def ends (readPipe writePipe : Nat) : Nat → Option Object :=
  Function.update (Function.update (fun _ => none) readPipe (some .readPipe)) writePipe
    (some .writePipe)

theorem ends_read {readPipe writePipe : Nat} (hne : writePipe ≠ readPipe) :
    ends readPipe writePipe readPipe = some .readPipe := by
  simp [ends, hne.symm]

theorem ends_write {readPipe writePipe : Nat} :
    ends readPipe writePipe writePipe = some .writePipe := by
  simp [ends]

/-- An error of `piped` leaves nothing open. -/
theorem triple_closeEnds {readPipe writePipe : Nat} {res : Except String ConsoleImpl}
    {Q : Except String ConsoleImpl → (Nat → Option Object) → Prop} (hne : writePipe ≠ readPipe)
    (hq : Q res fun _ => none) :
    Triple (ends readPipe writePipe) (do release writePipe; return res) fun res own =>
      Triple own (release readPipe) fun _ => Q res := by
  apply Triple.bind (triple_release ends_write (Q := fun _ own =>
    own = Function.update (fun _ => none) readPipe (some .readPipe)) ?_)
  · rintro _ own rfl
    apply triple_pure
    apply triple_release (Function.update_self ..)
    simpa using hq
  · rw [ends, Function.update_idem, Function.update_eq_self_iff]
    simp [hne]

/-- The process is created with both ends open; the read end is closed after it. -/
theorem triple_created {readPipe writePipe : Nat} {Q : Except String ConsoleImpl →
    (Nat → Option Object) → Prop} (hne : writePipe ≠ readPipe)
    (hq : ∀ process own, Owned true (some (.piped process writePipe)) own →
      Q (.ok (.piped process writePipe)) own) :
    Triple (ends readPipe writePipe) (do
      let child ← acquire (.child true)
      let process ← acquire (.process child)
      let thread ← acquire .thread
      release thread
      return .ok (.piped process writePipe)) fun res own =>
        Triple own (release readPipe) fun _ => Q res := by
  apply Triple.bind (triple_acquire (Q := fun child own => ends readPipe writePipe child = none ∧
    own = Function.update (ends readPipe writePipe) child (some (.child true)))
      fun _ hchild => ⟨hchild, rfl⟩)
  rintro child own ⟨hchild, rfl⟩
  apply Triple.bind (triple_acquire (Q := fun process own' =>
    Function.update (ends readPipe writePipe) child (some (.child true)) process = none ∧
      own' = Function.update (Function.update (ends readPipe writePipe) child (some (.child true)))
        process (some (.process child))) fun _ hprocess => ⟨hprocess, rfl⟩)
  rintro process own ⟨hprocess, rfl⟩
  have hcr : child ≠ readPipe := by
    rintro rfl
    simp [ends_read hne] at hchild
  have hcw : child ≠ writePipe := by
    rintro rfl
    simp [ends_write] at hchild
  have hpc : process ≠ child := by
    rintro rfl
    simp at hprocess
  rw [Function.update_of_ne hpc] at hprocess
  have hpr : process ≠ readPipe := by
    rintro rfl
    simp [ends_read hne] at hprocess
  have hpw : process ≠ writePipe := by
    rintro rfl
    simp [ends_write] at hprocess
  generalize howned : Function.update (Function.update (ends readPipe writePipe) child _) process
    _ = owned
  apply Triple.bind (triple_acquire (Q := fun thread own => owned thread = none ∧
    own = Function.update owned thread (some .thread)) fun _ hthread => ⟨hthread, rfl⟩)
  rintro thread own ⟨hthread, rfl⟩
  apply Triple.bind (triple_release (Function.update_self ..) (Q := fun _ own => own = owned) ?_)
  · rintro _ own rfl
    apply triple_pure
    apply triple_release (r := .readPipe)
    · rw [← howned]
      simp [hcr.symm, hpr.symm, ends_read hne]
    · apply hq
      refine ⟨child, hpc, hcw.symm, hpw.symm, ?_⟩
      rw [← howned]
      funext id
      simp only [objects, ends, Function.update_apply]
      split_ifs <;> simp_all
  · simp [← hthread]

theorem triple_piped (io : PipedIo) :
    Triple (fun _ => none) (piped io) fun res own =>
      (∃ e, res = .error e ∧ io.result = .error e ∧ own = fun _ => none) ∨
      ∃ console, res = .ok console ∧ io.result = .ok () ∧ (∃ process pipe,
        console = .piped process pipe) ∧ Owned true (some console) own := by
  simp only [piped]
  cases hc : io.createPipe with
  | error e => exact triple_pure (.inl ⟨e, rfl, by simp [PipedIo.result, hc]; rfl, rfl⟩)
  | ok =>
    apply Triple.bind (triple_acquire (Q := fun readPipe own =>
      own = Function.update (fun _ => none) readPipe (some .readPipe)) fun _ _ => rfl)
    rintro readPipe own rfl
    apply Triple.bind (triple_acquire (Q := fun writePipe own =>
      writePipe ≠ readPipe ∧ own = ends readPipe writePipe) ?_)
    · rintro writePipe own ⟨hne, rfl⟩
      apply Triple.owning
      apply Triple.bind
        (triple_use ends_write (Q := fun _ own => own = ends readPipe writePipe) rfl)
      rintro _ own rfl
      cases hs : io.setHandleInformation with
      | error e =>
        exact triple_closeEnds hne (.inl ⟨e, rfl, by simp [PipedIo.result, hc, hs]; rfl, rfl⟩)
      | ok =>
        apply Triple.bind (triple_use (ends_read hne)
          (Q := fun _ own => own = ends readPipe writePipe) rfl)
        rintro _ own rfl
        cases hp : io.createProcess with
        | error e =>
          exact triple_closeEnds hne (.inl ⟨e, rfl, by simp [PipedIo.result, hc, hs, hp]; rfl, rfl⟩)
        | ok =>
          exact triple_created hne fun _ _ ho =>
            .inr ⟨_, rfl, by simp [PipedIo.result, hc, hs, hp]; rfl, ⟨_, _, rfl⟩, ho⟩
    · intro writePipe hfree
      refine ⟨?_, rfl⟩
      rintro rfl
      simp at hfree

theorem triple_childOf (hp : own process = some (.process child)) :
    Triple own (childOf process) fun child' own' => child' = child ∧ own' = own := by
  apply Triple.bind (triple_use hp (Q := fun r own' => r = .process child ∧ own' = own) ⟨rfl, rfl⟩)
  rintro r own' ⟨rfl, rfl⟩
  exact triple_pure ⟨rfl, rfl⟩

theorem triple_setEnded (hne : process ≠ child) :
    Triple (objects process pipe child running) (set child (.child false)) fun _ own =>
      own = objects process pipe child false :=
  triple_set (objects_child hne) (update_objects hne false)

theorem triple_kill (hne : process ≠ child) :
    Triple (objects process pipe child running) (kill process) fun _ own =>
      own = objects process pipe child false := by
  apply (triple_childOf objects_process).bind
  rintro child' own ⟨rfl, rfl⟩
  exact triple_setEnded hne

/-- What is left of a console: its process, if that runs on without a handle. -/
def remains (child : Nat) (running : Bool) : Nat → Option Object :=
  if running then Function.update (fun _ => none) child (some (.child true)) else fun _ => none

theorem eq_of_remains {id : Nat} {r : Object} (hr : remains child running id = some r) :
    running = true ∧ r = .child true := by
  cases running with
  | true =>
    simp only [remains, if_true, Function.update_apply] at hr
    split_ifs at hr
    exact ⟨rfl, (Option.some.inj hr).symm⟩
  | false => cases hr

theorem triple_closeProcess (hpc : process ≠ child) (hwc : pipe ≠ child) (hwp : pipe ≠ process) :
    Triple (objects process pipe child running) (closeProcess process) fun _ own =>
      ∃ child, pipe ≠ child ∧
        own = Function.update (remains child running) pipe (some .writePipe) := by
  apply (triple_childOf objects_process).bind
  rintro child' own ⟨rfl, rfl⟩
  apply Triple.bind (triple_use (objects_child hpc) (Q := fun r own => r = .child running ∧
    own = objects process pipe child' running) ⟨rfl, rfl⟩)
  rintro r own ⟨rfl, rfl⟩
  cases running with
  | true =>
    apply triple_release objects_process
    refine ⟨child', hwc, ?_⟩
    funext id
    simp only [objects, remains, if_true, Function.update_apply]
    split_ifs <;> simp_all
  | false =>
    apply Triple.bind (triple_release (objects_child hpc) (Q := fun _ own =>
      own = Function.update (objects process pipe child' false) child' none) rfl)
    rintro _ own rfl
    apply triple_release (r := .process child')
    · simp [hpc]
    · refine ⟨child', hwc, ?_⟩
      funext id
      simp only [objects, remains, Bool.false_eq_true, if_false, Function.update_apply]
      split_ifs <;> simp_all

/-- The drop closes what the console owns; a process that it cannot end runs on. -/
theorem triple_drop (hown : Owned running (some console) own) :
    Triple own (drop kills console) fun _ own' =>
      ∃ child, own' = remains child (running && !kills && console.isPiped) := by
  cases console with
  | attach => exact triple_pure ⟨0, by simpa [Owned, remains, ConsoleImpl.isPiped] using hown⟩
  | alloc => exact triple_pure ⟨0, by simpa [Owned, remains, ConsoleImpl.isPiped] using hown⟩
  | piped process pipe =>
    obtain ⟨child, hpc, hwc, hwp, rfl⟩ := hown
    apply Triple.bind (Q := fun _ own => own = objects process pipe child (running && !kills))
    · cases kills with
      | true => simpa using triple_kill hpc
      | false => exact triple_pure (by simp)
    · rintro _ own rfl
      apply (triple_closeProcess hpc hwc hwp).bind
      rintro _ own ⟨child, hwc, rfl⟩
      apply triple_release (Function.update_self ..)
      refine ⟨child, ?_⟩
      have hpipe : remains child (running && !kills) pipe = none := by
        simp only [remains]
        split <;> simp [hwc]
      rw [Function.update_idem, ConsoleImpl.isPiped, Bool.and_true, ← hpipe,
        Function.update_eq_self]

theorem isAlive_eq (hs : h.Splits (objects process pipe child running) frame)
    (hpc : process ≠ child) : isAlive h process = running := by
  simp [isAlive, hs.live_of_own objects_process, hs.live_of_own (objects_child hpc)]

theorem println_run (hs : h.Splits own frame) (ho : Owned running (some console) own) :
    println console h = some ((), h) := by
  cases console with
  | attach => rfl
  | alloc => rfl
  | piped process pipe =>
    obtain ⟨child, -, hwc, hwp, rfl⟩ := ho
    simp [println, use, bind, hs.live_of_own (objects_pipe hwc hwp), pure]

/-- An `unset` that cannot end the process of the console. -/
def Abandons (s : Holder) (l : Label) : Prop :=
  l = .unset false ∧ s.poisoned = false ∧ s.erase.logger.console = some (.piped true)

/-- No handle is used or closed that is not open; what is open belongs to the console, and any
other process has been abandoned. -/
structure Accounted (tr : List (Holder × Label)) (s : Holder) : Prop where
  fault : s.fault = false
  heap : ∃ running own orphans, s.heap.Splits own orphans ∧ Owned running s.console own ∧
    ∀ id r, orphans id = some r → r = .child true ∧ ∃ x ∈ tr, Abandons x.1 x.2

/-- What is left of the console of `s` after the `unset` to `t`. -/
structure Left (kills : Bool) (s t : Holder) : Prop where
  helper : (∃ id, t.heap.live id = some (.child true)) ↔
    s.erase.logger.console = some (.piped true) ∧ (s.poisoned = true ∨ kills = false)
  handles : (∃ id r, t.heap.live id = some r ∧ r ≠ .child true) ↔
    s.poisoned = true ∧ ∃ process pipe, s.console = some (.piped process pipe)
  window : t.hasConsole = true ↔
    s.hasConsole = true ∧ (s.poisoned = true ∨ s.console ≠ some .alloc)

namespace Holder

variable {s t : Holder} {l : Label} {tr : List (Holder × Label)} {io : PipedIo}

theorem exec_of_triple {α : Type} {code : Code Object α} {k : α → Holder → Holder}
    {Q : α → (Nat → Option Object) → Prop} (hs : s.heap.Splits own frame)
    (hc : Triple own code Q) :
    ∃ x heap own', s.exec code k = k x { s with heap } ∧ heap.Splits own' frame ∧ Q x own' := by
  obtain ⟨x, heap, own', hrun, ht, hx⟩ := hc s.heap frame hs
  exact ⟨x, heap, own', by simp [exec, hrun], ht, hx⟩

theorem accounted_setUp {attach alloc : Bool} {logFile : Option Path} {fs : Fs} :
    Accounted [] (setUp attach alloc logFile fs) := by
  refine ⟨rfl, false, fun _ => none, fun _ => none, ⟨fun _ => rfl, fun _ => .inl rfl⟩, ?_, by simp⟩
  cases alloc <;> cases attach <;> rfl

theorem log_eq (hA : Accounted tr s) (record : Record) (io : RecordIo) :
    s.log record io = { s with
      file := (s.erase.log record io).1.logger.file
      poisoned := (s.erase.log record io).1.poisoned
      fs := (s.erase.log record io).1.fs
      shown := (s.erase.log record io).1.shown } := by
  obtain ⟨running, own, orphans, hs, ho, -⟩ := hA.heap
  simp only [log]
  split
  · rename_i console hc
    rw [hc] at ho
    split
    · simp [exec, println_run hs ho]
    · rfl
  · rfl

theorem orphans_append {tr' : List (Holder × Label)}
    (horphans : ∀ id r, frame id = some r → r = .child true ∧ ∃ x ∈ tr, Abandons x.1 x.2) :
    ∀ id r, frame id = some r → r = .child true ∧ ∃ x ∈ tr ++ tr', Abandons x.1 x.2 := by
  intro id r hr
  obtain ⟨hr, x, hx, ha⟩ := horphans id r hr
  exact ⟨hr, x, List.mem_append_left _ hx, ha⟩

/-- The same console over the same handles, after more steps. -/
theorem accounted_of_eq {tr' : List (Holder × Label)} (hA : Accounted tr s)
    (hfault : t.fault = s.fault) (hheap : t.heap = s.heap) (hc : t.console = s.console) :
    Accounted (tr ++ tr') t := by
  obtain ⟨hf, running, own, orphans, hs, ho, horphans⟩ := hA
  exact ⟨hfault.trans hf, running, own, orphans, hheap ▸ hs, hc ▸ ho, orphans_append horphans⟩

theorem accounted_showConsole (hA : Accounted tr s) (io : PipedIo) :
    Accounted (tr ++ [(s, .showConsole io)]) (s.showConsole io) := by
  simp only [showConsole]
  split
  · exact accounted_of_eq hA rfl rfl rfl
  · rename_i hn
    obtain ⟨-, hnone⟩ : s.poisoned = false ∧ s.console = none := by simpa using hn
    obtain ⟨hf, running, own, orphans, hs, ho, horphans⟩ := hA
    rw [hnone] at ho
    obtain rfl : own = fun _ => none := ho
    obtain ⟨res, heap, own', hrun, hs', hres⟩ := exec_of_triple hs (triple_piped io)
    rw [hrun]
    rcases hres with ⟨e, rfl, -, rfl⟩ | ⟨console, rfl, -, -, ho'⟩
    · refine ⟨hf, running, _, orphans, hs', ?_, orphans_append horphans⟩
      simp [hnone, Owned]
    · exact ⟨hf, true, own', orphans, hs', ho', orphans_append horphans⟩

theorem close_eq (hs : s.heap.Splits own frame) (ho : Owned running s.console own)
    (h : s.close = some t) : running = true ∧ ∃ heap own', t = { s with heap } ∧
      heap.Splits own' frame ∧ Owned false s.console own' ∧
        ∃ process pipe, s.console = some (.piped process pipe) := by
  simp only [close] at h
  split at h
  · rename_i process pipe hc
    rw [hc] at ho
    obtain ⟨child, hpc, hwc, hwp, rfl⟩ := ho
    rw [hs.live_of_own objects_process] at h
    simp only [isAlive_eq hs hpc, Option.ite_none_right_eq_some, Option.some.injEq] at h
    obtain ⟨hrun, rfl⟩ := h
    obtain ⟨⟨⟩, heap, own', hrun', hs', rfl⟩ := triple_setEnded hpc s.heap frame hs
    simp only [Resource.set, hs.live_of_own (objects_child hpc), Option.isSome_some, if_true,
      Option.some.injEq, Prod.mk.injEq, true_and] at hrun'
    subst hrun'
    refine ⟨hrun, _, _, rfl, hs', ?_, process, pipe, hc⟩
    rw [hc]
    exact ⟨child, hpc, hwc, hwp, rfl⟩
  · cases h

theorem accounted_close (hA : Accounted tr s) (h : s.close = some t) :
    Accounted (tr ++ [(s, .closed)]) t := by
  obtain ⟨hf, running, own, orphans, hs, ho, horphans⟩ := hA
  obtain ⟨-, heap, own', rfl, hs', ho', -⟩ := close_eq hs ho h
  exact ⟨hf, false, own', orphans, hs', ho', orphans_append horphans⟩

theorem erase_piped (hs : s.heap.Splits own frame) (hc : s.console = some (.piped process pipe))
    (ho : Owned running s.console own) : s.erase.logger.console = some (.piped running) := by
  rw [hc] at ho
  obtain ⟨child, hpc, -, -, rfl⟩ := ho
  simp [erase, hc, view, isAlive_eq hs hpc]

theorem erase_running {console : ConsoleImpl} (hs : s.heap.Splits own frame)
    (hc : s.console = some console) (ho : Owned running s.console own) :
    s.erase.logger.console = some (.piped true) ↔ (running && console.isPiped) = true := by
  cases console with
  | attach => simp [erase, hc, view, ConsoleImpl.isPiped]
  | alloc => simp [erase, hc, view, ConsoleImpl.isPiped]
  | piped process pipe => simp [erase_piped hs hc ho, ConsoleImpl.isPiped]

/-- `unset` leaves nothing but a process that it should have ended. -/
theorem unset_eq (hs : s.heap.Splits own frame) (ho : Owned running s.console own)
    (hlive : s.poisoned = false) (kills : Bool) : ∃ heap child,
      s.unset kills = { s with
        console := none
        file := none
        heap
        hasConsole := s.hasConsole && s.console ≠ some .alloc } ∧
      heap.Splits (remains child
        (!kills && s.erase.logger.console = some (.piped true))) frame := by
  cases hc : s.console with
  | none =>
    rw [hc] at ho
    obtain rfl : own = fun _ => none := ho
    refine ⟨s.heap, 0, ?_, ?_⟩
    · simp [unset, hlive, hc]
    · simpa [erase, hc, remains] using hs
  | some console =>
    have hrun := erase_running hs hc ho
    rw [hc] at ho
    have hd : Triple own (drop kills console) _ := triple_drop ho
    obtain ⟨⟨⟩, heap, own', he, hs', child, rfl⟩ := hd s.heap frame hs
    have hleft : (!kills && s.erase.logger.console = some (.piped true)) =
        (running && !kills && console.isPiped) := by
      simp only [hrun, Bool.decide_eq_true]
      cases running <;> cases kills <;> cases console.isPiped <;> rfl
    refine ⟨heap, child, ?_, ?_⟩
    · simp [unset, exec, hlive, hc, he]
    · rw [hleft]
      exact hs'

theorem accounted_unset (hA : Accounted tr s) (kills : Bool) :
    Accounted (tr ++ [(s, .unset kills)]) (s.unset kills) := by
  cases hlive : s.poisoned with
  | true =>
    have hu : s.unset kills = s := by simp [unset, hlive]
    exact accounted_of_eq hA (by rw [hu]) (by rw [hu]) (by rw [hu])
  | false =>
    obtain ⟨hf, running, own, orphans, hs, ho, horphans⟩ := hA
    obtain ⟨heap, child, hu, hs'⟩ := unset_eq hs ho hlive kills
    rw [hu]
    refine ⟨hf, false, _, _, heap.splits_frame, rfl, ?_⟩
    intro id r hr
    have hr : heap.live id = some r := hr
    rw [hs'.live id] at hr
    cases hid : remains child (!kills && s.erase.logger.console = some (.piped true)) id with
    | none =>
      rw [hid, Option.none_or] at hr
      exact orphans_append horphans id r hr
    | some r' =>
      obtain rfl : r' = r := by simpa [hid] using hr
      obtain ⟨hleft, rfl⟩ := eq_of_remains hid
      obtain ⟨rfl, hpiped⟩ : kills = false ∧ s.erase.logger.console = some (.piped true) := by
        simpa using hleft
      exact ⟨rfl, (s, .unset false), by simp, rfl, hlive, hpiped⟩

theorem accounted_step (hA : Accounted tr s) (h : step s l = some t) :
    Accounted (tr ++ [(s, l)]) t := by
  cases l with
  | log record io =>
    obtain rfl := Option.some.inj h
    rw [log_eq hA record io]
    exact accounted_of_eq hA rfl rfl rfl
  | showMenu =>
    obtain rfl := Option.some.inj h
    exact accounted_of_eq hA rfl rfl rfl
  | showConsole io =>
    obtain rfl := Option.some.inj h
    exact accounted_showConsole hA io
  | closed => exact accounted_close hA h
  | unset kills =>
    obtain rfl := Option.some.inj h
    exact accounted_unset hA kills

theorem console_log (s : GlobalLoggerHolder) (record : Record) (io : RecordIo) :
    (s.log record io).1.logger.console = s.logger.console := by
  have hconsole : (s.logConsole record io).1.logger = s.logger := by
    simp only [GlobalLoggerHolder.logConsole]
    split
    · rfl
    · split <;> rfl
  have hfile : ∀ s : GlobalLoggerHolder, (s.logFile record io).1.logger.console =
      s.logger.console := by
    intro s
    simp only [GlobalLoggerHolder.logFile]
    split <;> rfl
  simp only [GlobalLoggerHolder.log]
  split
  · split
    · rfl
    · rcases hc : s.logConsole record io with ⟨t, e | ⟨⟨⟩⟩⟩
      · rw [hc] at hconsole
        exact congrArg GlobalLogger.console hconsole
      · rw [hc] at hconsole
        have hf := hfile t
        have ht := hf.trans (congrArg GlobalLogger.console hconsole)
        rcases hl : t.logFile record io with ⟨u, e | ⟨⟨⟩⟩⟩
        · rw [hl] at ht
          simpa only [hl] using ht
        · rw [hl] at ht
          simpa only [hl] using ht
  · rfl

theorem erase_showConsole (hA : Accounted tr s) (io : PipedIo) :
    (s.showConsole io).erase = (s.erase.showConsole io.result).1 := by
  simp only [showConsole, GlobalLoggerHolder.showConsole]
  by_cases hp : s.poisoned = true
  · simp [hp, erase]
  · cases hc : s.console with
    | some console => simp [hp, hc, erase]
    | none =>
      obtain ⟨-, running, own, orphans, hs, ho, -⟩ := hA
      rw [hc] at ho
      obtain rfl : own = fun _ => none := ho
      obtain ⟨res, heap, own', hrun, hs', hres⟩ := exec_of_triple hs (triple_piped io)
      simp only [hp, Option.isSome_none, Bool.false_eq_true, or_self, if_false]
      rw [hrun]
      rcases hres with ⟨e, rfl, he, -⟩ | ⟨console, rfl, he, ⟨process, pipe, rfl⟩, ho'⟩
      · simp [he, erase, hc, hp]
      · have hview := erase_piped (s := { s with console := some (.piped process pipe), heap })
          hs' rfl ho'
        simp [he, erase, hc, hp] at hview ⊢
        exact hview

/-- Without the handles, a step is one of the sinks. -/
theorem sinksStep_erase (hA : Accounted tr s) (h : step s l = some t) :
    sinksStep s.erase l.erase = some t.erase := by
  cases l with
  | log record io =>
    obtain rfl := Option.some.inj h
    rw [log_eq hA record io]
    have hr : ∀ r : GlobalLoggerHolder, r.logger.console = s.erase.logger.console →
        r = Holder.erase { s with
          file := r.logger.file
          poisoned := r.poisoned
          fs := r.fs
          shown := r.shown } := by
      rintro ⟨⟨console, file⟩, poisoned, fs, shown⟩ hc
      obtain rfl : console = s.erase.logger.console := hc
      rfl
    exact congrArg some (hr _ (console_log s.erase record io))
  | showMenu =>
    obtain rfl := Option.some.inj h
    rfl
  | showConsole io =>
    obtain rfl := Option.some.inj h
    exact congrArg some (erase_showConsole hA io).symm
  | closed =>
    obtain ⟨-, running, own, orphans, hs, ho, -⟩ := hA
    obtain ⟨rfl, heap, own', rfl, hs', ho', process, pipe, hc⟩ := close_eq hs ho h
    have hbefore := erase_piped hs hc ho
    have hafter := erase_piped (s := { s with heap }) hs' hc ho'
    have he : ({ s with heap } : Holder).erase =
        { s.erase with logger := ⟨some (.piped false), s.file⟩ } := by
      rw [← hafter]
      rfl
    rw [he]
    simp only [Label.erase, sinksStep, GlobalLoggerHolder.step, hbefore, if_true]
    rfl
  | unset kills =>
    obtain rfl := Option.some.inj h
    cases hlive : s.poisoned with
    | true => simp [Label.erase, sinksStep, unset, erase, hlive]
    | false =>
      obtain ⟨-, running, own, orphans, hs, ho, -⟩ := hA
      obtain ⟨heap, child, hu, -⟩ := unset_eq hs ho hlive kills
      rw [hu]
      simp [Label.erase, sinksStep, erase, hlive]

variable {attach alloc : Bool} {logFile : Option Path} {fs : Fs}

theorem erase_setUp : (setUp attach alloc logFile fs).erase =
    GlobalLoggerHolder.setUp attach alloc logFile fs := by
  cases alloc <;> cases attach <;> rfl

theorem accounted_of_trace (h : Trace step (setUp attach alloc logFile fs) tr s) :
    Accounted tr s := by
  induction h with
  | refl => exact accounted_setUp
  | snoc _ hs ih => exact accounted_step ih hs

/-- In every run, no handle is used or closed that is not open, all that is open belongs to the
console, and the helper process of any other is one that could not be killed. -/
theorem accounted_trace (h : Trace step (setUp attach alloc logFile fs) tr s) : Accounted tr s :=
  accounted_of_trace h

/-- Without its handles, every run of the logger is one of the two sinks. -/
theorem erase_trace (h : Trace step (setUp attach alloc logFile fs) tr s) :
    Trace sinksStep (GlobalLoggerHolder.setUp attach alloc logFile fs)
      (tr.map fun x => (x.1.erase, x.2.erase)) s.erase := by
  rw [← erase_setUp]
  exact h.simulate erase Label.erase fun _ _ _ _ h hs => sinksStep_erase (accounted_of_trace h) hs

theorem owned_cases {console : Option ConsoleImpl} (ho : Owned running console own) :
    (own = (fun _ => none) ∧ ∀ process pipe, console ≠ some (.piped process pipe)) ∨
    ∃ process pipe child, console = some (.piped process pipe) ∧ process ≠ child ∧ pipe ≠ child ∧
      pipe ≠ process ∧ own = objects process pipe child running := by
  rcases console with _ | _ | _ | ⟨process, pipe⟩
  · exact .inl ⟨ho, by simp⟩
  · exact .inl ⟨ho, by simp⟩
  · exact .inl ⟨ho, by simp⟩
  · obtain ⟨child, hpc, hwc, hwp, rfl⟩ := ho
    exact .inr ⟨process, pipe, child, rfl, hpc, hwc, hwp, rfl⟩

theorem not_erase_piped (hc : ∀ process pipe, s.console ≠ some (.piped process pipe)) :
    s.erase.logger.console ≠ some (.piped running) := by
  intro he
  obtain ⟨console, hconsole, hv⟩ := Option.map_eq_some_iff.mp he
  cases console with
  | attach => cases hv
  | alloc => cases hv
  | piped process pipe => exact hc process pipe hconsole

theorem left_of_poisoned (hs : s.heap.Splits own fun _ => none)
    (ho : Owned running s.console own) (hp : s.poisoned = true) (kills : Bool) :
    Left kills s s := by
  have hlive : ∀ id, s.heap.live id = own id := fun id => by rw [hs.live id, Option.or_none]
  rcases owned_cases ho with ⟨rfl, hc⟩ | ⟨process, pipe, child, hc, hpc, hwc, hwp, rfl⟩
  · refine ⟨?_, ?_, by simp [hp]⟩
    · simp [hlive, not_erase_piped hc]
    · simp [hlive, hc]
  · have hpiped := erase_piped hs hc ho
    refine ⟨?_, ?_, by simp [hp]⟩
    · simp only [hlive, hpiped, hp, Option.some.injEq, Console.piped.injEq, true_or, and_true]
      constructor
      · rintro ⟨id, hid⟩
        simp only [objects, Function.update_apply] at hid
        split_ifs at hid <;> simp_all
      · rintro rfl
        exact ⟨child, objects_child hpc⟩
    · simp only [hlive, hp, hc, true_and]
      exact iff_of_true ⟨pipe, _, objects_pipe hwc hwp, by simp⟩ ⟨process, pipe, rfl⟩

/-- After an `unset` at the end of the program, the helper process runs on exactly if the mutex is
poisoned or the process cannot be killed, and handles stay open exactly with a poisoned mutex. -/
theorem left_unset (h : Trace step (setUp attach alloc logFile fs) tr s)
    (hu : ∀ x ∈ tr, ∀ kills, x.2 ≠ .unset kills) (kills : Bool) : Left kills s (s.unset kills) := by
  obtain ⟨-, running, own, orphans, hs, ho, horphans⟩ := accounted_of_trace h
  obtain rfl : orphans = fun _ => none := by
    funext id
    apply Option.eq_none_iff_forall_ne_some.mpr
    intro r hr
    obtain ⟨-, x, hx, hl, -⟩ := horphans id r hr
    exact hu x hx false hl
  cases hp : s.poisoned with
  | true =>
    have hunset : s.unset kills = s := by simp [unset, hp]
    rw [hunset]
    exact left_of_poisoned hs ho hp kills
  | false =>
    obtain ⟨heap, child, he, hs'⟩ := unset_eq hs ho hp kills
    rw [he]
    have hlive : ∀ id, heap.live id = remains child
        (!kills && s.erase.logger.console = some (.piped true)) id := by
      intro id
      rw [hs'.live id, Option.or_none]
    refine ⟨?_, ?_, by simp [hp]⟩
    · constructor
      · rintro ⟨id, hid⟩
        obtain ⟨hleft, -⟩ := eq_of_remains ((hlive id).symm.trans hid)
        obtain ⟨hk, hc⟩ : kills = false ∧ s.erase.logger.console = some (.piped true) := by
          simpa using hleft
        exact ⟨hc, .inr hk⟩
      · rintro ⟨hc, hk⟩
        have hk : kills = false := by simpa [hp] using hk
        exact ⟨child, (hlive child).trans (by simp [remains, hc, hk])⟩
    · constructor
      · rintro ⟨id, r, hid, hne⟩
        exact absurd (eq_of_remains ((hlive id).symm.trans hid)).2 hne
      · rintro ⟨hp', -⟩
        exact absurd (hp.symm.trans hp') (by simp)

/-- The user opens the console from the tray, and a line is written to it. -/
def opened : List Label :=
  [.showMenu, .showConsole ⟨.ok (), .ok (), .ok ()⟩,
    .log ⟨"BurntSushi::tray", "INFO", "Shutting down..."⟩ ⟨.ok (), "", .succeeding⟩]

theorem accounted_opened :
    Accounted (trail step (setUp false false none fun _ => none) opened)
      (after step (setUp false false none fun _ => none) opened) :=
  accounted_trace (trace_after rfl)

theorem left_opened :
    Left true (after step (setUp false false none fun _ => none) opened)
      ((after step (setUp false false none fun _ => none) opened).unset true) := by
  apply left_unset (trace_after rfl)
  intro x hx kills
  have hmem := mem_trail hx
  simp only [opened, List.mem_cons, List.not_mem_nil, or_false] at hmem
  rcases hmem with h | h | h <;> simp [h]

theorem erase_opened :
    Trace sinksStep (GlobalLoggerHolder.setUp false false none fun _ => none)
      ((trail step (setUp false false none fun _ => none) opened).map fun x =>
        (x.1.erase, x.2.erase)) (after step (setUp false false none fun _ => none) opened).erase :=
  erase_trace (trace_after rfl)

end Holder

end BurntSushi.ConsoleLog
