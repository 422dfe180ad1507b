import BurntSushi.Logger.FileLog
import BurntSushi.Lts

/-! The global logger: a console and a file behind one mutex, which a panic of either poisons. -/
namespace BurntSushi

open Lts

def appName : String := "BurntSushi"

/-- A piped console is the window of another process, which its user can close. -/
inductive Console where
  | attach
  | alloc
  | piped (alive : Bool)
  deriving DecidableEq, Repr

/-- `println!` panics where a pipe returns its error. -/
def Console.println (io : Except String Unit) : Console → Except String Unit
  | .piped false => .error "The pipe is being closed."
  | _ => io

structure Record where
  target : String
  level : String
  args : String
  deriving DecidableEq, Repr

/-- What the system answers to the calls of one `log`. -/
structure RecordIo where
  console : Except String Unit
  dateTime : String
  file : LogIo

structure GlobalLogger where
  console : Option Console
  file : Option FileLog
  deriving DecidableEq, Repr

/-- The logger and its mutex, with the lines that consoles have shown. -/
structure GlobalLoggerHolder where
  logger : GlobalLogger
  poisoned : Bool
  fs : Fs
  shown : List String

namespace GlobalLoggerHolder

def consoleMessage (record : Record) : String := "[" ++ record.level ++ "] " ++ record.args

def fileMessage (dateTime : String) (record : Record) : String :=
  dateTime ++ " [" ++ record.level ++ "] " ++ record.args

def logConsole (record : Record) (io : RecordIo) (s : GlobalLoggerHolder) :
    GlobalLoggerHolder × Except LogError Unit :=
  match s.logger.console with
  | none => (s, .ok ())
  | some console =>
    match console.println io.console with
    | .error e => (s, .error (.panic e))
    | .ok () => ({ s with shown := s.shown ++ [consoleMessage record] }, .ok ())

def logFile (record : Record) (io : RecordIo) (s : GlobalLoggerHolder) :
    GlobalLoggerHolder × Except LogError Unit :=
  match s.logger.file with
  | none => (s, .ok ())
  | some file =>
    let (fs, file, res) := file.log io.file (fileMessage io.dateTime record) s.fs
    ({ s with fs, logger := { s.logger with file := some file } }, res)

def Relevant (record : Record) : Prop := appName.toList <+: record.target.toList

instance (record : Record) : Decidable (Relevant record) :=
  inferInstanceAs (Decidable (_ <+: _))

/-- A panic while the mutex is held poisons it. -/
def log (record : Record) (io : RecordIo) (s : GlobalLoggerHolder) :
    GlobalLoggerHolder × Except LogError Unit :=
  if Relevant record then
    if s.poisoned then (s, .error (.panic "PoisonError"))
    else
      match s.logConsole record io with
      | (s, .error e) => ({ s with poisoned := true }, .error e)
      | (s, .ok ()) =>
        match s.logFile record io with
        | (s, .error e) => ({ s with poisoned := true }, .error e)
        | (s, .ok ()) => (s, .ok ())
  else (s, .ok ())

/-- Whether the menu offers to show a console. -/
def showMenu (s : GlobalLoggerHolder) : Except LogError Bool :=
  if s.poisoned then .error (.panic "PoisonError") else .ok s.logger.console.isNone

def showConsole (piped : Except String Unit) (s : GlobalLoggerHolder) :
    GlobalLoggerHolder × Except LogError Unit :=
  if s.poisoned then (s, .error (.panic "PoisonError"))
  else if s.logger.console.isSome then (s, .ok ())
  else
    match piped with
    | .error e => ({ s with poisoned := true }, .error (.panic e))
    | .ok () => ({ s with logger := { s.logger with console := some (.piped true) } }, .ok ())

/-- The logger once `main` has set it up; the file is not open yet. -/
def setUp (attach alloc : Bool) (logFile : Option Path) (fs : Fs) : GlobalLoggerHolder where
  logger := {
    console := if alloc then some .alloc else if attach then some .attach else none
    file := logFile.map .new }
  poisoned := false
  fs := fs
  shown := []

inductive Label where
  | log (record : Record) (io : RecordIo)
  | showMenu
  | showConsole (piped : Except String Unit)
  | closed

def step (s : GlobalLoggerHolder) : Label → Option GlobalLoggerHolder
  | .log record io => some (s.log record io).1
  | .showMenu => some s
  | .showConsole piped => some (s.showConsole piped).1
  | .closed =>
    if s.logger.console = some (.piped true) then
      some { s with logger := { s.logger with console := some (.piped false) } }
    else none

/-- The write to the console, if there is one, succeeds. -/
def ConsoleWrites (io : RecordIo) (s : GlobalLoggerHolder) : Prop :=
  ∀ console, s.logger.console = some console → console.println io.console = .ok ()

/-- The opening of the log file and the write to it, if there is one, succeed. -/
def FileWrites (io : RecordIo) (s : GlobalLoggerHolder) : Prop :=
  ∀ file, s.logger.file = some file → file.Writes io.file s.fs

/-- A call neither panics nor poisons the mutex, and its record reaches both sinks. -/
structure Delivers (record : Record) (io : RecordIo) (s : GlobalLoggerHolder) : Prop where
  returns : (s.log record io).2 = .ok ()
  poisoned : (s.log record io).1.poisoned = s.poisoned
  console : Relevant record → ∀ console, s.logger.console = some console →
    console.println io.console = .ok () →
    (s.log record io).1.shown = s.shown ++ [consoleMessage record]
  file : Relevant record → ∀ file, s.logger.file = some file → file.Writes io.file s.fs →
    ∃ before, (s.log record io).1.fs file.path =
      some (before ++ asBytes ((fileMessage io.dateTime record).toList ++ ['\n']))

def Resilient (s : GlobalLoggerHolder) : Label → Prop
  | .log record io => Delivers record io s
  | _ => True

/-- The mutex is not poisoned, and neither sink fails. -/
def Healthy (s : GlobalLoggerHolder) : Label → Prop
  | .log record io => Relevant record →
      s.poisoned = false ∧ ConsoleWrites io s ∧ FileWrites io s
  | _ => True

/-- Show Console fails to open its pipe. -/
def PipeFails (s : GlobalLoggerHolder) : Label → Prop
  | .showConsole (.error _) => s.logger.console = none
  | _ => False

/-- Neither sink fails, and no Show Console has failed to open its pipe before. -/
def SinksWork (past : List (GlobalLoggerHolder × Label)) (s : GlobalLoggerHolder) : Label → Prop
  | .log record io => Relevant record →
      (∀ x ∈ past, ¬ PipeFails x.1 x.2) ∧ ConsoleWrites io s ∧ FileWrites io s
  | _ => True

/-- Until the mutex is poisoned, an open log file has its handle at its end. -/
def Inv (s : GlobalLoggerHolder) : Prop :=
  s.poisoned = false → ∀ file, s.logger.file = some file → file.Ready s.fs

variable {s t : GlobalLoggerHolder} {record : Record} {io : RecordIo} {l : Label} {fs : Fs}
  {tr : List (GlobalLoggerHolder × Label)} {attach alloc : Bool} {logFile : Option Path}

theorem logConsole_of_writes (h : ConsoleWrites io s) (record : Record) :
    ∃ shown, s.logConsole record io = ({ s with shown }, .ok ()) ∧
      ∀ console, s.logger.console = some console → shown = s.shown ++ [consoleMessage record] := by
  cases hconsole : s.logger.console with
  | none =>
    refine ⟨s.shown, ?_, ?_⟩
    · simp only [logConsole, hconsole]
    · rintro console ⟨⟩
  | some console =>
    refine ⟨_, ?_, fun _ _ => rfl⟩
    simp only [logConsole, hconsole, h console hconsole]

theorem consoleWrites_of_ok (h : s.logConsole record io = (t, .ok ())) : ConsoleWrites io s := by
  intro console hconsole
  cases hio : console.println io.console with
  | error e =>
    simp only [logConsole, hconsole, hio] at h
    cases h
  | ok => rfl

theorem logFile_of_writes (hready : ∀ file, s.logger.file = some file → file.Ready s.fs)
    (h : FileWrites io s) (record : Record) :
    ∃ fs file, s.logFile record io = ({ s with fs, logger := { s.logger with file } }, .ok ()) ∧
      (∀ log, file = some log → log.Ready fs) ∧
      ∀ log, s.logger.file = some log → ∃ before, fs log.path =
        some (before ++ asBytes ((fileMessage io.dateTime record).toList ++ ['\n'])) := by
  cases hfile : s.logger.file with
  | none =>
    refine ⟨s.fs, none, ?_, ?_, ?_⟩
    · simp only [logFile, hfile]
      rw [← hfile]
    · rintro log ⟨⟩
    · rintro log ⟨⟩
  | some log =>
    obtain ⟨fs, writer, before, hlog, hpath, hend⟩ :=
      FileLog.log_of_writes (hready log hfile) (h log hfile) (fileMessage io.dateTime record)
    refine ⟨fs, some { log with file := some writer }, ?_, ?_, ?_⟩
    · simp only [logFile, hfile, hlog]
    · rintro _ ⟨⟩ _ ⟨⟩
      exact ⟨hpath, _, hend⟩
    · rintro _ ⟨⟩
      exact ⟨before, hpath ▸ hend.content⟩

theorem fileWrites_of_ok (h : s.logFile record io = (t, .ok ())) : FileWrites io s := by
  intro file hfile
  simp only [logFile, hfile, Prod.mk.injEq] at h
  exact FileLog.writes_of_log_ok (Prod.ext rfl (Prod.ext rfl h.2))

theorem log_irrelevant (hrecord : ¬ Relevant record) : s.log record io = (s, .ok ()) := by
  simp only [log, if_neg hrecord]

/-- What a call does that nothing hinders. -/
theorem log_of_writes (hI : Inv s) (hrecord : Relevant record) (hlive : s.poisoned = false)
    (hconsole : ConsoleWrites io s) (hfile : FileWrites io s) :
    ∃ t, s.log record io = (t, .ok ()) ∧ t.poisoned = false ∧ Inv t ∧
      (∀ console, s.logger.console = some console →
        t.shown = s.shown ++ [consoleMessage record]) ∧
      ∀ file, s.logger.file = some file → ∃ before, t.fs file.path =
        some (before ++ asBytes ((fileMessage io.dateTime record).toList ++ ['\n'])) := by
  obtain ⟨shown, hcon, hshown⟩ := logConsole_of_writes hconsole record
  obtain ⟨fs, file, hlog, hready, hreached⟩ :=
    @logFile_of_writes { s with shown } io (hI hlive) hfile record
  have hnot : ¬ s.poisoned = true := by simp [hlive]
  refine ⟨{ s with shown, fs, logger := { s.logger with file } }, ?_, hlive, fun _ => hready,
    hshown, hreached⟩
  simp only [log, if_pos hrecord, if_neg hnot, hcon, hlog]

theorem writes_of_log_ok (hrecord : Relevant record) (h : (s.log record io).2 = .ok ()) :
    s.poisoned = false ∧ ConsoleWrites io s ∧ FileWrites io s := by
  simp only [log, if_pos hrecord] at h
  split at h
  · cases h
  · rename_i hlive
    split at h
    · cases h
    · rename_i s' hcon
      split at h
      · cases h
      · rename_i t hlog
        have hconsole := consoleWrites_of_ok hcon
        obtain ⟨shown, hcon', -⟩ := logConsole_of_writes hconsole record
        obtain ⟨rfl, -⟩ := Prod.mk.inj (hcon.symm.trans hcon')
        have hfile : FileWrites io { s with shown } := fileWrites_of_ok hlog
        exact ⟨Bool.not_eq_true _ ▸ hlive, hconsole, hfile⟩

/-- A call that panics leaves the mutex poisoned. -/
theorem poisoned_of_log_error {e : LogError} (h : (s.log record io).2 = .error e) :
    (s.log record io).1.poisoned = true := by
  by_cases hrecord : Relevant record
  · simp only [log, if_pos hrecord] at h ⊢
    by_cases hpoisoned : s.poisoned = true
    · rw [if_pos hpoisoned]
      exact hpoisoned
    · rw [if_neg hpoisoned] at h ⊢
      rcases hcon : s.logConsole record io with ⟨s', e' | _⟩
      · rfl
      · rcases hlog : s'.logFile record io with ⟨t, e' | _⟩
        · simp only [hlog]
        · simp only [hcon, hlog] at h
          cases h
  · rw [log_irrelevant hrecord] at h
    cases h

theorem resilient_iff (hI : Inv s) (l : Label) : Resilient s l ↔ Healthy s l := by
  cases l with
  | log record io =>
    constructor
    · intro h hrecord
      exact writes_of_log_ok hrecord h.returns
    · intro h
      by_cases hrecord : Relevant record
      · obtain ⟨hlive, hconsole, hfile⟩ := h hrecord
        obtain ⟨t, hlog, hlive', -, hshown, hreached⟩ :=
          log_of_writes hI hrecord hlive hconsole hfile
        refine ⟨?_, ?_, ?_, ?_⟩
        · rw [hlog]
        · rw [hlog, hlive, hlive']
        · intro _ console hconsole' _
          rw [hlog]
          exact hshown console hconsole'
        · intro _ file hfile' _
          rw [hlog]
          exact hreached file hfile'
      · have hlog := @log_irrelevant s record io hrecord
        refine ⟨?_, ?_, ?_, ?_⟩
        · rw [hlog]
        · rw [hlog]
        · intro h
          exact absurd h hrecord
        · intro h
          exact absurd h hrecord
  | showMenu => exact Iff.rfl
  | showConsole piped => exact Iff.rfl
  | closed => exact Iff.rfl

theorem inv_setUp : Inv (setUp attach alloc logFile fs) := by
  intro _ file hfile writer hwriter
  obtain ⟨path, -, rfl⟩ := Option.map_eq_some_iff.mp hfile
  cases hwriter

theorem inv_step (hI : Inv s) (l : Label) (h : step s l = some t) : Inv t := by
  cases l with
  | log record io =>
    cases h
    by_cases hrecord : Relevant record
    · cases hok : (s.log record io).2 with
      | ok =>
        obtain ⟨hlive, hconsole, hfile⟩ := writes_of_log_ok hrecord hok
        obtain ⟨t, hlog, -, hI', -⟩ := log_of_writes hI hrecord hlive hconsole hfile
        rw [hlog]
        exact hI'
      | error e =>
        intro hlive
        cases hlive.symm.trans (poisoned_of_log_error hok)
    · rw [log_irrelevant hrecord]
      exact hI
  | showMenu =>
    cases h
    exact hI
  | showConsole piped =>
    cases h
    simp only [showConsole]
    split
    · exact hI
    · split
      · exact hI
      · split
        · rintro ⟨⟩
        · exact hI
  | closed =>
    simp only [step] at h
    split at h
    · cases h
      exact hI
    · cases h

/-- Apart from a call that panics, only a Show Console without its pipe poisons the mutex. -/
theorem poisoned_step (hres : Resilient s l) (h : step s l = some t) :
    t.poisoned = true ↔ s.poisoned = true ∨ PipeFails s l := by
  cases l with
  | log record io =>
    cases h
    rw [hres.poisoned]
    simp [PipeFails]
  | showMenu =>
    cases h
    simp [PipeFails]
  | showConsole piped =>
    cases h
    by_cases hpoisoned : s.poisoned = true
    · simp [showConsole, hpoisoned]
    · cases hconsole : s.logger.console with
      | none => cases piped <;> simp [showConsole, PipeFails, hpoisoned, hconsole]
      | some console => cases piped <;> simp [showConsole, PipeFails, hpoisoned, hconsole]
  | closed =>
    simp only [step] at h
    split at h
    · cases h
      simp [PipeFails]
    · cases h

theorem poisoned_trace (h : Trace step (setUp attach alloc logFile fs) tr s)
    (hres : Along Resilient tr) : s.poisoned = true ↔ ∃ x ∈ tr, PipeFails x.1 x.2 := by
  induction h with
  | refl => simp [setUp]
  | snoc h hs ih =>
    obtain ⟨hres, hlast⟩ := along_concat.mp hres
    rw [poisoned_step hlast hs, ih hres]
    simp [or_and_right, exists_or]

theorem healthy_iff (hpoisoned : s.poisoned = true ↔ ∃ x ∈ tr, PipeFails x.1 x.2) (l : Label) :
    Healthy s l ↔ SinksWork tr s l := by
  have hlive : s.poisoned = false ↔ ∀ x ∈ tr, ¬ PipeFails x.1 x.2 := by
    rw [← Bool.not_eq_true, hpoisoned]
    simp
  cases l with
  | log record io => simp only [Healthy, SinksWork, hlive]
  | showMenu => exact Iff.rfl
  | showConsole piped => exact Iff.rfl
  | closed => exact Iff.rfl

/-- In every run, all calls return with their records delivered exactly if neither sink fails when
a record of the program is logged, and no Show Console has failed before. -/
theorem resilient_run_iff (h : Trace step (setUp attach alloc logFile fs) tr s) :
    Along Resilient tr ↔ AlongPast SinksWork tr := by
  induction h with
  | refl => exact iff_of_true along_nil alongPast_nil
  | snoc h hs ih =>
    rw [along_concat, alongPast_concat, ← ih]
    apply and_congr_right
    intro hres
    have hI : Inv _ := h.invariant inv_setUp fun _ l _ hI hstep => inv_step hI l hstep
    rw [resilient_iff hI, healthy_iff (poisoned_trace h hres)]

def hooked : Label :=
  .log ⟨"BurntSushi::blocker", "INFO", "Blocker up and running!"⟩
    ⟨.ok (), "2024-01-01 12:00:00", .succeeding⟩

def logFilePath : Path := ⟨"logs", "BurntSushi.log"⟩

theorem resilient_run_hooked :
    Along Resilient (trail step (setUp false false (some logFilePath) fun _ => none)
      [.showConsole (.ok ()), hooked]) := by
  apply (resilient_run_iff (trace_after rfl)).mpr
  have hrun : run step (setUp false false (some logFilePath) fun _ => none)
      [.showConsole (.ok ())] = some _ := rfl
  rw [← List.singleton_append, trail_concat hrun rfl, alongPast_concat]
  refine ⟨alongPast_concat.mpr ⟨alongPast_nil, trivial⟩, ?_⟩
  intro _
  refine ⟨?_, ?_, ?_⟩
  · rintro x hx
    obtain rfl := List.mem_singleton.mp hx
    rintro ⟨⟩
  · rintro _ ⟨⟩
    rfl
  · rintro _ ⟨⟩
    refine ⟨?_, rfl⟩
    intro _
    exact ⟨FileLog.clears_succeeding.toAppends, fun hlt => absurd hlt (by decide)⟩

/-- The user closes the console that the tray has opened. -/
def closing : List Label := [.showConsole (.ok ()), .closed]

theorem not_resilient_closing :
    ¬ ∀ tr s, Trace step (setUp false false (some logFilePath) fun _ => none) tr s →
      Along Resilient tr := by
  have hrun : run step (setUp false false (some logFilePath) fun _ => none) closing = some _ := rfl
  apply not_along_of_run (a := hooked) hrun rfl
  intro hlast
  cases hlast.returns

end GlobalLoggerHolder

end BurntSushi
