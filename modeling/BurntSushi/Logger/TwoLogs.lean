import BurntSushi.Logger.History
import BurntSushi.Logger.Rotation
import BurntSushi.Lts

/-! Two instances of the program that log to one file: a handle that has rotated the file writes
where it stands, whatever the other instance has appended. -/
namespace BurntSushi

open Lts LogRuns

inductive Instance where
  | first
  | second
  deriving DecidableEq, Repr

/-- The logs of both instances, with what the file held when the later of them was opened and the
messages since. -/
structure TwoLogs where
  path : Path
  fs : Fs
  logs : Instance → FileLog
  base : List UInt8
  logged : List String

namespace TwoLogs

/-- A `log` call on a log that is not open yet is an `openFile` and then a `log`. -/
inductive Label where
  | found (text : List Char)
  | openFile (i : Instance)
  | log (i : Instance) (message : String)
  deriving DecidableEq, Repr

def BothOpen (s : TwoLogs) : Prop := ∀ i, (s.logs i).file.isSome

instance (s : TwoLogs) : Decidable s.BothOpen :=
  decidable_of_iff ((s.logs .first).file.isSome ∧ (s.logs .second).file.isSome)
    ⟨fun h i => by cases i <;> simp [h], fun h => ⟨h .first, h .second⟩⟩

def initial (path : Path) (fs : Fs) : TwoLogs := ⟨path, fs, fun _ => .new path, [], []⟩

/-- All file operations succeed; until both logs are open, the file may be found with any text. -/
def step (s : TwoLogs) : Label → Option TwoLogs
  | .found text =>
    if s.BothOpen then none
    else some { s with fs := Function.update s.fs s.path (some (asBytes text)) }
  | .openFile i =>
    if (s.logs i).file.isSome then none
    else
      match (s.logs i).openFile .succeeding s.fs with
      | (_, .error _) => none
      | (fs, .ok file) =>
        some { s with
          fs
          logs := Function.update s.logs i { s.logs i with file := some file }
          base := (fs s.path).getD []
          logged := [] }
  | .log i message =>
    if (s.logs i).file.isSome then
      let (fs, log, _) := (s.logs i).log .succeeding message s.fs
      some { s with
        fs
        logs := Function.update s.logs i log
        logged := s.logged ++ [message] }
    else none

/-- Every message since both logs are open is in the file, in the order of the calls. -/
def Intact (s : TwoLogs) : Prop :=
  s.BothOpen → s.fs s.path = some (s.base ++ asBytes (text s.logged))

instance (s : TwoLogs) : Decidable s.Intact :=
  inferInstanceAs (Decidable (s.BothOpen → s.fs s.path = some (s.base ++ asBytes (text s.logged))))

/-- A call writes through an append handle, or through one that stands at the end of the file. -/
def WritesAtEnd (s : TwoLogs) : Label → Prop
  | .log i _ => s.BothOpen → ∀ file, (s.logs i).file = some file →
      file.inner.append = true ∨ (s.fs s.path).map List.length = some file.inner.position
  | _ => True

/-- An open handle is on the file, which exists, and has nothing left to write. -/
structure Inv (s : TwoLogs) : Prop where
  path : ∀ i, (s.logs i).path = s.path
  file : ∀ i file, (s.logs i).file = some file →
    file.inner.path = s.path ∧ file.buf = [] ∧ ∃ content, s.fs s.path = some content
  intact : s.Intact

variable {s t : TwoLogs} {path : Path} {fs fs' : Fs} {tr : List (TwoLogs × Label)} {i : Instance}
  {l : Label} {message : String} {content bytes : List UInt8} {position : Nat} {log : FileLog}
  {file : BufWriter}

/-- A write changes the length by as much as it writes only at the end. -/
theorem overwrite_eq_append (hbytes : bytes ≠ [])
    (h : overwrite content position bytes = content ++ bytes) : position = content.length := by
  have hlen := congrArg List.length h
  have hpos := List.length_pos_iff.mpr hbytes
  simp only [overwrite, List.length_append, List.takeD_length, List.length_drop] at hlen
  omega

theorem asBytes_text_concat {messages : List String} : asBytes (text (messages ++ [message])) =
    asBytes (text messages) ++ asBytes (message.toList ++ ['\n']) := by
  rw [text_concat, asBytes_append]

theorem asBytes_line_ne_nil : asBytes (message.toList ++ ['\n']) ≠ [] := by
  rw [asBytes_append]
  exact List.append_ne_nil_of_right_ne_nil _ (by decide)

/-- An open log writes a message where its handle stands. -/
theorem log_open (hfile : log.file = some file) (hbuf : file.buf = [])
    (hfs : fs file.inner.path = some content) (message : String) :
    ∃ file', log.log .succeeding message fs =
        (Function.update fs file.inner.path (some (overwrite content
          (if file.inner.append then content.length else file.inner.position)
          (asBytes (message.toList ++ ['\n'])))), { log with file := some file' }, .ok ()) ∧
      file'.inner.path = file.inner.path ∧ file'.buf = [] := by
  simp only [FileLog.log, FileLog.openFile, hfile, LogIo.succeeding, BufWriter.write,
    BufWriter.flush, File.writeAll, File.write, hfs, hbuf, List.nil_append]
  exact ⟨_, rfl, rfl, rfl⟩

theorem openFile_ok (hfile : log.file = none) (h : log.openFile .succeeding fs = (fs', .ok file)) :
    file.inner.path = log.path ∧ file.buf = [] ∧ ∃ content, fs' log.path = some content := by
  have hopening := FileLog.openFile_opening .succeeding fs hfile
  rw [h] at hopening
  obtain ⟨hpath, content, hend⟩ := hopening.atEnd
  exact ⟨hpath, hend.flushed, content, hpath ▸ hend.content⟩

theorem step_openFile (h : step s (.openFile i) = some t) :
    (s.logs i).file = none ∧ ∃ fs' file,
      (s.logs i).openFile .succeeding s.fs = (fs', .ok file) ∧
      t = { s with
        fs := fs'
        logs := Function.update s.logs i { s.logs i with file := some file }
        base := (fs' s.path).getD []
        logged := [] } := by
  simp only [step] at h
  split at h
  · cases h
  · rename_i hfile
    refine ⟨Option.not_isSome_iff_eq_none.mp hfile, ?_⟩
    split at h
    · cases h
    · rename_i fs' file hopen
      exact ⟨fs', file, hopen, (Option.some.inj h).symm⟩

/-- What a `log` step does to the file. -/
theorem Inv.step_log (hI : Inv s) (h : step s (.log i message) = some t) :
    ∃ file file' content, (s.logs i).file = some file ∧ s.fs s.path = some content ∧
      file'.inner.path = s.path ∧ file'.buf = [] ∧
      t = { s with
        fs := Function.update s.fs s.path (some (overwrite content
          (if file.inner.append then content.length else file.inner.position)
          (asBytes (message.toList ++ ['\n']))))
        logs := Function.update s.logs i { s.logs i with file := some file' }
        logged := s.logged ++ [message] } := by
  simp only [step] at h
  split at h
  · rename_i hopen
    obtain ⟨file, hfile⟩ := Option.isSome_iff_exists.mp hopen
    obtain ⟨hpath, hbuf, content, hcontent⟩ := hI.file i file hfile
    have hfs : s.fs file.inner.path = some content := hpath ▸ hcontent
    obtain ⟨file', hlog, hpath', hbuf'⟩ := log_open hfile hbuf hfs message
    rw [hlog, hpath] at h
    exact ⟨file, file', content, hfile, hcontent, hpath'.trans hpath, hbuf',
      (Option.some.inj h).symm⟩
  · cases h

theorem inv_initial (path : Path) (fs : Fs) : Inv (initial path fs) := by
  refine ⟨fun _ => rfl, ?_, ?_⟩
  · rintro i file ⟨⟩
  · intro hopen
    cases hopen .first

theorem Inv.found {text : List Char} (hI : Inv s) (h : step s (.found text) = some t) : Inv t := by
  simp only [step] at h
  split at h
  · cases h
  · rename_i hclosed
    obtain rfl := Option.some.inj h
    refine ⟨hI.path, ?_, fun hopen => absurd hopen hclosed⟩
    intro i file hfile
    obtain ⟨hpath, hbuf, -⟩ := hI.file i file hfile
    exact ⟨hpath, hbuf, _, Function.update_self ..⟩

theorem Inv.openFile (hI : Inv s) (h : step s (.openFile i) = some t) : Inv t := by
  obtain ⟨hfile, fs', file, hopen, rfl⟩ := step_openFile h
  obtain ⟨hpath, hbuf, content, hcontent⟩ := openFile_ok hfile hopen
  rw [hI.path i] at hpath hcontent
  refine ⟨?_, ?_, ?_⟩
  · intro j
    rcases eq_or_ne j i with rfl | hj
    · simpa using hI.path j
    · simpa [hj] using hI.path j
  · intro j file' hfile'
    rcases eq_or_ne j i with rfl | hj
    · simp only [Function.update_self, Option.some.injEq] at hfile'
      exact hfile' ▸ ⟨hpath, hbuf, content, hcontent⟩
    · simp only [Function.update_of_ne hj] at hfile'
      obtain ⟨hpath', hbuf', -⟩ := hI.file j file' hfile'
      exact ⟨hpath', hbuf', content, hcontent⟩
  · intro _
    simp [hcontent, text]

/-- A `log` step opens and closes nothing. -/
theorem bothOpen_log (hI : Inv s) (h : step s (.log i message) = some t) :
    t.BothOpen ↔ s.BothOpen := by
  obtain ⟨file, file', content, hfile, -, -, -, rfl⟩ := hI.step_log h
  apply forall_congr'
  intro j
  rcases eq_or_ne j i with rfl | hj
  · simp [hfile]
  · simp [hj]

theorem Inv.writeAtEnd (hI : Inv s) (hend : WritesAtEnd s (.log i message))
    (h : step s (.log i message) = some t) : Inv t := by
  have hboth := (bothOpen_log hI h).mp
  obtain ⟨file, file', content, hfile, hcontent, hpath, hbuf, rfl⟩ := hI.step_log h
  refine ⟨?_, ?_, ?_⟩
  · intro j
    rcases eq_or_ne j i with rfl | hj
    · simpa using hI.path j
    · simpa [hj] using hI.path j
  · intro j file'' hfile''
    rcases eq_or_ne j i with rfl | hj
    · simp only [Function.update_self, Option.some.injEq] at hfile''
      exact hfile'' ▸ ⟨hpath, hbuf, _, Function.update_self ..⟩
    · simp only [Function.update_of_ne hj] at hfile''
      obtain ⟨hpath', hbuf', -⟩ := hI.file j file'' hfile''
      exact ⟨hpath', hbuf', _, Function.update_self ..⟩
  · intro hopen
    have hbase := hI.intact (hboth hopen)
    have hpos : (if file.inner.append then content.length else file.inner.position) =
        content.length := by
      rcases hend (hboth hopen) file hfile with happend | hposition
      · rw [if_pos happend]
      · rw [hcontent, Option.map_some, Option.some.injEq] at hposition
        rw [hposition, ite_self]
    obtain rfl := Option.some.inj (hcontent.symm.trans hbase)
    simp only [Function.update_self, hpos, overwrite_length, asBytes_text_concat,
      List.append_assoc]

theorem inv_step (hI : Inv s) (hend : WritesAtEnd s l) (h : step s l = some t) : Inv t := by
  cases l with
  | found text => exact hI.found h
  | openFile i => exact hI.openFile h
  | log i message => exact hI.writeAtEnd hend h

/-- A write elsewhere than at the end loses something. -/
theorem not_intact_step (hI : Inv s) (hend : ¬ WritesAtEnd s l) (h : step s l = some t) :
    ¬ t.Intact := by
  cases l with
  | found text => exact absurd trivial hend
  | openFile i => exact absurd trivial hend
  | log i message =>
    simp only [WritesAtEnd, not_forall, not_or] at hend
    obtain ⟨hopen, file, hfile, happend, hposition⟩ := hend
    have hopen' := (bothOpen_log hI h).mpr hopen
    obtain ⟨file₀, file', content, hfile₀, hcontent, -, -, rfl⟩ := hI.step_log h
    cases hfile.symm.trans hfile₀
    have hbase := hcontent.symm.trans (hI.intact hopen)
    intro hintact
    have hall := hintact hopen'
    simp only [Function.update_self, if_neg happend] at hall
    rw [asBytes_text_concat, ← List.append_assoc, ← Option.some.inj hbase] at hall
    have hpos := overwrite_eq_append asBytes_line_ne_nil (Option.some.inj hall)
    rw [hcontent, Option.map_some, hpos] at hposition
    exact hposition rfl

/-- In every run the file holds all messages since both logs are open, in order, exactly if every
message since then is written at the end of the file. -/
theorem always_intact_iff (h : Trace step (initial path fs) tr s) :
    Always Intact tr s ↔ Along WritesAtEnd tr := by
  apply h.always_iff_along (D := fun _ _ => True) (fun _ _ => trivial) (inv_initial path fs)
  · intro s hI
    exact hI.intact
  · intro s l t hI _ hend h
    exact inv_step hI hend h
  · intro s l t hI _ hend h
    exact not_intact_step hI hend h

def unrotated : List Label :=
  [.openFile .first, .openFile .second, .log .second "hooked", .log .first "✓"]

theorem always_intact_iff_unrotated :
    Always Intact (trail step (initial logPath fun _ => none) unrotated)
        (after step (initial logPath fun _ => none) unrotated) ↔
      Along WritesAtEnd (trail step (initial logPath fun _ => none) unrotated) :=
  always_intact_iff (trace_after (by decide))

/-- The first instance has cut the log down to one byte. -/
def rotated : TwoLogs where
  path := FileLog.grownPath
  fs := Function.update FileLog.grownFs FileLog.grownPath (some (asBytes ['b']))
  logs := Function.update (fun _ => .new FileLog.grownPath) .first
    ⟨FileLog.grownPath, some (.new ⟨FileLog.grownPath, false, 1⟩)⟩
  base := asBytes ['b']
  logged := []

theorem step_opened (hfile : (s.logs i).file = none)
    (hopen : (s.logs i).openFile .succeeding s.fs = (fs', .ok file)) :
    step s (.openFile i) = some { s with
      fs := fs'
      logs := Function.update s.logs i { s.logs i with file := some file }
      base := (fs' s.path).getD []
      logged := [] } := by
  simp only [step, hfile, hopen, Option.isSome_none, Bool.false_eq_true, if_false]

theorem step_rotated :
    step (initial FileLog.grownPath FileLog.grownFs) (.openFile .first) = some rotated := by
  have hopen := FileLog.openFile_grown FileLog.clears_succeeding
  have hstep := step_opened (s := initial FileLog.grownPath FileLog.grownFs) (i := .first) rfl hopen
  simp only [initial, Function.update_self, Option.getD_some] at hstep
  exact hstep

/-- The first instance then writes over what the second one has appended. -/
def overwriting : List Label := [.openFile .second, .log .second "x", .log .first "y"]

theorem not_intact_overwriting :
    ¬ ∀ tr s, Trace step (initial FileLog.grownPath FileLog.grownFs) tr s → s.Intact := by
  intro hall
  have hrest : (run step rotated overwriting).isSome := by decide
  have hlost : ¬ (after step rotated overwriting).Intact := by decide
  exact hlost (hall _ _ ((trace_after hrest).cons step_rotated))

end TwoLogs

end BurntSushi
