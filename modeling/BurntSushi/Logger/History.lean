import BurntSushi.Logger.FileLog
import BurntSushi.Lts

/-! The runs of the program that log to one path, one after the other, and what the file keeps of
their messages. -/
namespace BurntSushi

open Lts

/-- The log of the current run, with the messages of all runs and those of the current one. -/
structure LogRuns where
  fs : Fs
  log : FileLog
  panicked : Bool
  history : List String
  current : List String

namespace LogRuns

inductive Label where
  | start
  | log (message : String)
  deriving DecidableEq, Repr

/-- The first run has created its log. -/
def initial (path : Path) (fs : Fs) : LogRuns := ⟨fs, .new path, false, [], []⟩

/-- All file operations succeed. -/
def step (s : LogRuns) : Label → Option LogRuns
  | .start => some { s with log := .new s.log.path, panicked := false, current := [] }
  | .log message =>
    if s.panicked then none
    else
      let (fs, log, res) := s.log.log .succeeding message s.fs
      some {
        fs
        log
        panicked := !res.isOk
        history := s.history ++ [message]
        current := s.current ++ [message] }

/-- The messages, each followed by a newline. -/
def text (messages : List String) : List Char :=
  messages.flatMap fun message => message.toList ++ ['\n']

/-- The file holds the end of the history, from its beginning or a newline on, with all messages of
the current run in it. -/
structure Kept (path : Path) (s : LogRuns) : Prop where
  live : s.panicked = false
  file : ∃ lost kept, s.fs path = some kept ∧ asBytes (text s.history) = lost ++ kept ∧
    (lost = [] ∨ ∃ before, lost = before ++ [0x0A]) ∧ asBytes (text s.current) <:+ kept

/-- A line begins behind `lost`. -/
def LineStart (lost : List Char) : Prop := lost = [] ∨ ∃ before, lost = before ++ ['\n']

/-- `kept` is what a log call will find in the file, or has left there. -/
structure Holds (path : Path) (s : LogRuns) (lost kept : List Char) : Prop where
  history : text s.history = lost ++ kept
  lineStart : LineStart lost
  current : text s.current <:+ kept
  fs : (s.fs path).getD [] = asBytes kept
  writer : ∀ writer, s.log.file = some writer →
    writer.inner.path = path ∧ writer.AtEnd s.fs (asBytes kept)
  unopened : s.log.file = none → s.current = []

structure Inv (path : Path) (s : LogRuns) : Prop where
  live : s.panicked = false
  logPath : s.log.path = path
  holds : ∃ lost kept, Holds path s lost kept

variable {path : Path} {fs : Fs} {s t : LogRuns} {tr : List (LogRuns × Label)}
  {lost kept : List Char} {messages : List String} {message : String}

theorem text_concat :
    text (messages ++ [message]) = text messages ++ (message.toList ++ ['\n']) := by
  simp [text]

theorem lineStart_text (messages : List String) : LineStart (text messages) := by
  rcases List.eq_nil_or_concat messages with rfl | ⟨messages, message, rfl⟩
  · exact .inl rfl
  · rw [List.concat_eq_append, text_concat, ← List.append_assoc]
    exact .inr ⟨_, rfl⟩

/-- A rotation cuts at a newline too. -/
theorem lineStart_opened (hlost : LineStart lost) (hall : LineStart (lost ++ kept)) :
    ∃ lost', lost ++ kept = lost' ++ FileLog.opened kept ∧ LineStart lost' := by
  simp only [FileLog.opened]
  split
  · rcases FileLog.afterNewline_eq kept with hnil | ⟨pre, hpre⟩
    · exact ⟨lost ++ kept, by rw [hnil, List.append_nil], hall⟩
    · refine ⟨lost ++ pre ++ ['\n'], ?_, .inr ⟨_, rfl⟩⟩
      calc lost ++ kept
        _ = lost ++ (pre ++ '\n' :: FileLog.afterNewline kept) := congrArg (lost ++ ·) hpre
        _ = lost ++ pre ++ ['\n'] ++ FileLog.afterNewline kept := by simp
  · exact ⟨lost, rfl, hlost⟩

theorem asBytes_lineStart (h : LineStart lost) :
    asBytes lost = [] ∨ ∃ before, asBytes lost = before ++ [0x0A] := by
  rcases h with rfl | ⟨before, rfl⟩
  · exact .inl rfl
  · exact .inr ⟨asBytes before, asBytes_append⟩

theorem inv_initial (hfs : fs path = none ∨ fs path = some []) : Inv path (initial path fs) := by
  refine ⟨rfl, rfl, [], [], rfl, .inl rfl, List.suffix_refl _, ?_, by simp [initial, FileLog.new],
    fun _ => rfl⟩
  rcases hfs with hfs | hfs <;> simp [initial, hfs]

theorem step_log {fs' : Fs} {log : FileLog} (hlive : s.panicked = false)
    (hlog : s.log.log .succeeding message s.fs = (fs', log, .ok ())) :
    step s (.log message) =
      some ⟨fs', log, false, s.history ++ [message], s.current ++ [message]⟩ := by
  simp only [step, hlive, hlog]
  rfl

/-- The handle of a run, whether this call opens the file or an earlier one has. -/
theorem Inv.openFile (hI : Inv path s) :
    ∃ fs' writer lost kept, s.log.openFile .succeeding s.fs = (fs', .ok writer) ∧
      writer.inner.path = path ∧ writer.AtEnd fs' (asBytes kept) ∧
      text s.history = lost ++ kept ∧ LineStart lost ∧ text s.current <:+ kept := by
  obtain ⟨-, hpath, lost, kept, hH⟩ := hI
  cases hfile : s.log.file with
  | none =>
    have hfs : (s.fs s.log.path).getD [] = asBytes kept := by rw [hpath, hH.fs]
    obtain ⟨fs', writer, hopen, hp, hend⟩ := FileLog.openFile_succeeding hfile hfs
    obtain ⟨lost', hcut, hline⟩ :=
      lineStart_opened hH.lineStart (hH.history ▸ lineStart_text s.history)
    refine ⟨fs', writer, lost', _, hopen, hp.trans hpath, hend, hH.history.trans hcut, hline, ?_⟩
    rw [hH.unopened hfile]
    exact List.nil_suffix
  | some writer =>
    obtain ⟨hp, hend⟩ := hH.writer writer hfile
    refine ⟨s.fs, writer, lost, kept, ?_, hp, hend, hH.history, hH.lineStart, hH.current⟩
    simp only [FileLog.openFile, hfile]

/-- A log call returns and leaves its message at the end of the file. -/
theorem Inv.log (hI : Inv path s) (message : String) :
    ∃ t, step s (.log message) = some t ∧ Inv path t ∧ Kept path t := by
  obtain ⟨fs', writer, lost, kept, hopen, hp, hend, hhistory, hline, hcurrent⟩ := hI.openFile
  obtain ⟨fs'', writer', hlog, hp', hend⟩ := FileLog.log_of_openFile message hopen hend rfl
  rw [← asBytes_append] at hend
  have hpath : writer'.inner.path = path := hp'.trans hp
  have hfs : fs'' path = some (asBytes (kept ++ (message.toList ++ ['\n']))) :=
    hpath ▸ hend.content
  have hall : text (s.history ++ [message]) = lost ++ (kept ++ (message.toList ++ ['\n'])) := by
    rw [text_concat, hhistory, List.append_assoc]
  have hsuffix : text (s.current ++ [message]) <:+ kept ++ (message.toList ++ ['\n']) := by
    obtain ⟨earlier, hearlier⟩ := hcurrent
    exact ⟨earlier, by rw [text_concat, ← List.append_assoc, hearlier]⟩
  have hbytes : asBytes (text (s.current ++ [message])) <:+
      asBytes (kept ++ (message.toList ++ ['\n'])) := by
    obtain ⟨earlier, hearlier⟩ := hsuffix
    exact ⟨asBytes earlier, by rw [← hearlier, asBytes_append]⟩
  refine ⟨_, step_log hI.live hlog,
    ⟨rfl, hI.logPath, lost, _, hall, hline, hsuffix, ?_, ?_, ?_⟩, ?_⟩
  · exact congrArg (Option.getD · []) hfs
  · rintro _ ⟨⟩
    exact ⟨hpath, hend⟩
  · rintro ⟨⟩
  · refine ⟨rfl, asBytes lost, _, hfs, ?_, asBytes_lineStart hline, hbytes⟩
    rw [← asBytes_append]
    exact congrArg asBytes hall

theorem inv_step (hI : Inv path s) (l : Label) (h : step s l = some t) : Inv path t := by
  cases l with
  | start =>
    obtain ⟨-, hpath, lost, kept, hH⟩ := hI
    cases h
    refine ⟨rfl, hpath, lost, kept, hH.history, hH.lineStart, List.nil_suffix, hH.fs, ?_,
      fun _ => rfl⟩
    simp [FileLog.new]
  | log message =>
    obtain ⟨t', ht, hI', -⟩ := hI.log message
    cases ht.symm.trans h
    exact hI'

/-- Whatever runs there have been, a log call does not panic, and after it the file holds the end
of the history. -/
theorem log_kept (h : Trace step (initial path fs) tr s)
    (hfs : fs path = none ∨ fs path = some []) (message : String) :
    ∃ t, step s (.log message) = some t ∧ Kept path t := by
  have hI : Inv path s := h.invariant (inv_initial hfs) fun _ l _ hI => inv_step hI l
  obtain ⟨t, ht, -, hK⟩ := hI.log message
  exact ⟨t, ht, hK⟩

def logPath : Path := ⟨"logs", "BurntSushi.log"⟩

/-- Two runs; the second has logged a message of two lines. -/
def twoRuns : List Label := [.log "started", .log "stopped", .start, .log "hooked\n✓"]

theorem log_kept_twoRuns :
    ∃ t, step (after step (initial logPath fun _ => none) twoRuns) (.log "stopped") = some t ∧
      Kept logPath t :=
  log_kept (trace_after (by decide)) (.inl rfl) "stopped"

end LogRuns

end BurntSushi
