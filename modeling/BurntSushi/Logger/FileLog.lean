import BurntSushi.Except
import BurntSushi.Fs
import BurntSushi.Lts
import BurntSushi.Text
import Mathlib.Data.List.TakeDrop

/-! `FileLog`, which cuts a log file that has grown too long when it opens it, and the runs of the
program that log to one path. -/
namespace BurntSushi

/-- What becomes of a `write_all`; one that fails has written `n` bytes. -/
inductive WriteAll where
  | done
  | failed (e : String) (n : Nat)
  deriving DecidableEq, Repr

/-- An open `File`; in append mode every write goes to the end. -/
structure File where
  path : Path
  append : Bool
  position : Nat
  deriving DecidableEq, Repr

/-- A `BufWriter<File>`; its capacity only decides how many writes a `flush` takes. -/
structure BufWriter where
  inner : File
  buf : List UInt8
  deriving DecidableEq, Repr

/-- A write at `position`; a gap before it is filled with zeros. -/
def overwrite (content : List UInt8) (position : Nat) (bytes : List UInt8) : List UInt8 :=
  content.takeD position 0 ++ bytes ++ content.drop (position + bytes.length)

theorem overwrite_length (content bytes : List UInt8) :
    overwrite content content.length bytes = content ++ bytes := by
  simp [overwrite, List.takeD_eq_take]

namespace File

def write (file : File) (bytes : List UInt8) (fs : Fs) : Fs × File :=
  match fs file.path with
  | none => (fs, file)
  | some content =>
    let position := if file.append then content.length else file.position
    (Function.update fs file.path (some (overwrite content position bytes)),
      { file with position := position + bytes.length })

def writeAll (io : WriteAll) (file : File) (bytes : List UInt8) (fs : Fs) :
    Fs × File × Except String Unit :=
  match io with
  | .done =>
    let (fs, file) := file.write bytes fs
    (fs, file, .ok ())
  | .failed e n =>
    let (fs, file) := file.write (bytes.take n) fs
    (fs, file, .error e)

end File

namespace BufWriter

def new (file : File) : BufWriter := ⟨file, []⟩

def write (writer : BufWriter) (bytes : List UInt8) : BufWriter :=
  { writer with buf := writer.buf ++ bytes }

def flush (io : WriteAll) (writer : BufWriter) (fs : Fs) : Fs × BufWriter × Except String Unit :=
  let (fs, inner, res) := writer.inner.writeAll io writer.buf fs
  match io with
  | .done => (fs, ⟨inner, []⟩, res)
  | .failed _ n => (fs, ⟨inner, writer.buf.drop n⟩, res)

/-- What is written next goes to the end of the file, which holds `bytes`. -/
structure AtEnd (writer : BufWriter) (fs : Fs) (bytes : List UInt8) : Prop where
  content : fs writer.inner.path = some bytes
  flushed : writer.buf = []
  position : writer.inner.append = true ∨ writer.inner.position = bytes.length

variable {writer : BufWriter} {fs : Fs} {bytes : List UInt8}

theorem AtEnd.flush (h : writer.AtEnd fs bytes) (new : List UInt8) :
    ∃ fs' writer', (writer.write new).flush .done fs = (fs', writer', .ok ()) ∧
      writer'.inner.path = writer.inner.path ∧ writer'.AtEnd fs' (bytes ++ new) := by
  obtain ⟨hc, hb, hp⟩ := h
  have hpos : (if writer.inner.append then bytes.length else writer.inner.position) =
      bytes.length := by
    split
    · rfl
    · rename_i ha
      exact hp.resolve_left ha
  simp only [BufWriter.write, BufWriter.flush, File.writeAll, File.write, hc, hb, hpos,
    List.nil_append, overwrite_length]
  exact ⟨_, _, rfl, rfl, by simp, rfl, .inr (by simp)⟩

end BufWriter

/-- An error that is returned with its context, or a panic. -/
inductive LogError where
  | err (context source : String)
  | panic (message : String)
  deriving DecidableEq, Repr

/-- What the system answers to the calls of one `log`. -/
structure LogIo where
  createDirAll : Except String Unit
  openAppend : Except String Unit
  metadata : Except String Unit
  reopen : Except String Unit
  read : Except String Unit
  seek : Except String Unit
  setLen : Except String Unit
  rewrite : WriteAll
  write : WriteAll

/-- All file operations succeed. -/
def LogIo.succeeding : LogIo where
  createDirAll := .ok ()
  openAppend := .ok ()
  metadata := .ok ()
  reopen := .ok ()
  read := .ok ()
  seek := .ok ()
  setLen := .ok ()
  rewrite := .done
  write := .done

structure FileLog where
  path : Path
  file : Option BufWriter
  deriving DecidableEq, Repr

namespace FileLog

def maxLen : Nat := 10 * 1024 * 1024

def keptLen : Nat := 1024 * 1024

def new (path : Path) : FileLog := ⟨path, none⟩

def context {α : Type} (msg : String) (res : Except String α) : Except LogError α :=
  res.mapError (.err msg)

/-- `file.read_to_string(&mut contents)`. -/
def readToString (io : LogIo) (bytes : List UInt8) : Except String (List Char) := do
  io.read
  match fromUtf8 bytes with
  | none => throw "stream did not contain valid UTF-8"
  | some contents => return contents

/-- The loop over the newlines at `indices`. -/
def truncated (contents : List Char) : List Nat → Except LogError (List Char)
  | [] => return []
  | index :: indices => do
    match sliceFrom contents (index + 1) with
    | none => throw (.panic "byte index is not a char boundary")
    | some succeeding =>
      if (asBytes succeeding).length > keptLen then truncated contents indices
      else return succeeding

/-- The rotation up to `set_len`: until that has succeeded the file is as it was. -/
def truncatedContents (io : LogIo) (bytes : List UInt8) : Except LogError (List Char) := do
  context "Failed to open or create log file." io.reopen
  let contents ← context "Failed to read log file." (readToString io bytes)
  let truncatedContents ← truncated contents (matchIndices '\n' 0 contents)
  context "Failed to seek in log file." io.seek
  context "Failed to clear log file." io.setLen
  return truncatedContents

/-- The rotation of the file at `path`, which holds `bytes`. -/
def rotate (io : LogIo) (path : Path) (bytes : List UInt8) (fs : Fs) : Fs × Except LogError File :=
  match truncatedContents io bytes with
  | .error e => (fs, .error e)
  | .ok contents =>
    let cleared := Function.update fs path (some [])
    match File.writeAll io.rewrite ⟨path, false, 0⟩ (asBytes contents) cleared with
    | (fs, _, .error e) => (fs, .error (.err "Failed to write log file." e))
    | (fs, file, .ok ()) => (fs, .ok file)

def openFile (io : LogIo) (log : FileLog) (fs : Fs) : Fs × Except LogError BufWriter :=
  match log.file with
  | some file => (fs, .ok file)
  | none =>
    match context "Failed to create parent directories for log file." io.createDirAll,
        context "Failed to open or create log file." io.openAppend with
    | .error e, _ => (fs, .error e)
    | .ok (), .error e => (fs, .error e)
    | .ok (), .ok () =>
      let bytes := (fs log.path).getD []
      let fs := Function.update fs log.path (some bytes)
      match io.metadata with
      | .error e => (fs, .error (.panic e))
      | .ok () =>
        if bytes.length > maxLen then
          let (fs, file) := rotate io log.path bytes fs
          (fs, file.map .new)
        else (fs, .ok (.new ⟨log.path, true, 0⟩))

def log (io : LogIo) (log : FileLog) (message : String) (fs : Fs) :
    Fs × FileLog × Except LogError Unit :=
  match log.openFile io fs with
  | (fs, .error (.err _ _)) => (fs, log, .error (.panic "Failed to prepare log file."))
  | (fs, .error (.panic e)) => (fs, log, .error (.panic e))
  | (fs, .ok file) =>
    match (file.write (asBytes (message.toList ++ ['\n']))).flush io.write fs with
    | (fs, file, .error e) => (fs, { log with file := some file }, .error (.panic e))
    | (fs, file, .ok ()) => (fs, { log with file := some file }, .ok ())

/-- What a rotation keeps: the text after the first newline that has few enough bytes behind it. -/
def afterNewline : List Char → List Char
  | [] => []
  | c :: text =>
    if c = '\n' ∧ (asBytes text).length ≤ keptLen then text else afterNewline text

/-- What the file holds once it is open. -/
def opened (text : List Char) : List Char :=
  if (asBytes text).length > maxLen then afterNewline text else text

/-- The file opens in append mode. -/
structure Appends (io : LogIo) : Prop where
  createDirAll : io.createDirAll = .ok ()
  openAppend : io.openAppend = .ok ()
  metadata : io.metadata = .ok ()

/-- No step before the rewriting fails. -/
structure Clears (io : LogIo) : Prop extends Appends io where
  reopen : io.reopen = .ok ()
  read : io.read = .ok ()
  seek : io.seek = .ok ()
  setLen : io.setLen = .ok ()

/-- How the opening of the file at `path`, which holds `bytes`, can end. -/
inductive Opening (io : LogIo) (path : Path) (bytes : List UInt8) (fs : Fs) :
    Fs → Except LogError BufWriter → Prop
  | failed {fs' : Fs} {e : LogError} (hfs : fs' = fs ∨ fs' = Function.update fs path (some bytes))
      (hio : Appends io → maxLen < bytes.length ∧ (Clears io → fromUtf8 bytes = none)) :
      Opening io path bytes fs fs' (.error e)
  | appending (hlen : bytes.length ≤ maxLen) (hio : Appends io) :
      Opening io path bytes fs (Function.update fs path (some bytes)) (.ok (.new ⟨path, true, 0⟩))
  | rotated {text : List Char} (hlen : maxLen < bytes.length)
      (htext : fromUtf8 bytes = some text) (hclears : Clears io) (hio : io.rewrite = .done) :
      Opening io path bytes fs (Function.update fs path (some (asBytes (afterNewline text))))
        (.ok (.new ⟨path, false, (asBytes (afterNewline text)).length⟩))
  | torn {text : List Char} {e : String} {n : Nat} (hlen : maxLen < bytes.length)
      (htext : fromUtf8 bytes = some text) (hclears : Clears io) (hio : io.rewrite = .failed e n) :
      Opening io path bytes fs
        (Function.update fs path (some ((asBytes (afterNewline text)).take n)))
        (.error (.err "Failed to write log file." e))

variable {text pre : List Char} {fs : Fs} {path : Path} {log : FileLog} {writer : BufWriter}
  {bytes : List UInt8} {io : LogIo}

theorem afterNewline_eq (text : List Char) :
    afterNewline text = [] ∨ ∃ pre, text = pre ++ '\n' :: afterNewline text := by
  induction text with
  | nil => exact .inl rfl
  | cons c text ih =>
    simp only [afterNewline]
    split
    · rename_i h
      exact .inr ⟨[], by simp [h.1]⟩
    · rcases ih with ih | ⟨pre, ih⟩
      · exact .inl ih
      · exact .inr ⟨c :: pre, congrArg (c :: ·) ih⟩

/-- Every slice that the loop takes begins behind a newline, so none of them panics. -/
theorem truncated_matchIndices (pre text : List Char) :
    truncated (pre ++ text) (matchIndices '\n' (asBytes pre).length text) =
      .ok (afterNewline text) := by
  induction text generalizing pre with
  | nil => rfl
  | cons c text ih =>
    have hrest := ih (pre ++ [c])
    rw [length_asBytes_concat, List.append_assoc, List.singleton_append] at hrest
    rcases eq_or_ne c '\n' with rfl | hc
    · simp only [matchIndices, if_true, truncated, sliceFrom_newline, afterNewline, true_and]
      by_cases hk : (asBytes text).length ≤ keptLen
      · rw [if_neg (Nat.not_lt.mpr hk), if_pos hk]
        rfl
      · rw [if_pos (Nat.lt_of_not_le hk), if_neg hk]
        exact hrest
    · simpa [matchIndices, hc, afterNewline] using hrest

theorem truncated_eq (text : List Char) :
    truncated text (matchIndices '\n' 0 text) = .ok (afterNewline text) :=
  truncated_matchIndices [] text

theorem clears_succeeding : Clears .succeeding := ⟨⟨rfl, rfl, rfl⟩, rfl, rfl, rfl, rfl⟩

theorem context_eq_ok {α : Type} {msg : String} {res : Except String α} {a : α} :
    context msg res = .ok a ↔ res = .ok a := by
  cases res <;> simp [context, Except.mapError]

theorem readToString_eq_ok :
    readToString io bytes = .ok text ↔ io.read = .ok () ∧ fromUtf8 bytes = some text := by
  cases hread : io.read with
  | error e => simp [readToString, hread, bind, Except.bind]
  | ok =>
    cases htext : fromUtf8 bytes <;>
      simp [readToString, hread, htext, bind, Except.bind, pure, Except.pure, throw, throwThe,
        MonadExceptOf.throw]

theorem truncatedContents_eq_ok {contents : List Char} :
    truncatedContents io bytes = .ok contents ↔
      ∃ text, fromUtf8 bytes = some text ∧ contents = afterNewline text ∧ io.reopen = .ok () ∧
        io.read = .ok () ∧ io.seek = .ok () ∧ io.setLen = .ok () := by
  simp only [truncatedContents, Except.bind_eq_ok, context_eq_ok, readToString_eq_ok,
    Except.pure_eq_ok]
  constructor
  · rintro ⟨_, hreopen, text, ⟨hread, htext⟩, kept, hkept, _, hseek, _, hset, rfl⟩
    rw [truncated_eq] at hkept
    cases hkept
    exact ⟨text, htext, rfl, hreopen, hread, hseek, hset⟩
  · rintro ⟨text, htext, rfl, hreopen, hread, hseek, hset⟩
    exact ⟨(), hreopen, text, ⟨hread, htext⟩, _, truncated_eq text, (), hseek, (), hset, rfl⟩

theorem openFile_opening (io : LogIo) (fs : Fs) (hfile : log.file = none) :
    Opening io log.path ((fs log.path).getD []) fs (log.openFile io fs).1
      (log.openFile io fs).2 := by
  simp only [openFile, hfile]
  cases hdir : io.createDirAll with
  | error e =>
    refine .failed (.inl rfl) ?_
    intro hio
    cases hdir.symm.trans hio.createDirAll
  | ok =>
    cases hopen : io.openAppend with
    | error e =>
      refine .failed (.inl rfl) ?_
      intro hio
      cases hopen.symm.trans hio.openAppend
    | ok =>
      cases hmeta : io.metadata with
      | error e =>
        refine .failed (.inr rfl) ?_
        intro hio
        cases hmeta.symm.trans hio.metadata
      | ok =>
        by_cases hlen : ((fs log.path).getD []).length > maxLen
        · simp only [context, Except.mapError, if_pos hlen, rotate]
          cases hcontents : truncatedContents io ((fs log.path).getD []) with
          | error e =>
            refine .failed (.inr rfl) ?_
            intro hio
            refine ⟨hlen, ?_⟩
            intro hclears
            cases htext : fromUtf8 ((fs log.path).getD []) with
            | none => rfl
            | some text =>
              cases hcontents.symm.trans (truncatedContents_eq_ok.mpr
                ⟨text, htext, rfl, hclears.reopen, hclears.read, hclears.seek, hclears.setLen⟩)
          | ok contents =>
            obtain ⟨text, htext, rfl, hreopen, hread, hseek, hset⟩ :=
              truncatedContents_eq_ok.mp hcontents
            have hclears : Clears io :=
              ⟨⟨hdir, hopen, hmeta⟩, hreopen, hread, hseek, hset⟩
            cases hrewrite : io.rewrite with
            | done =>
              have h := @Opening.rotated _ log.path _ fs _ hlen htext hclears hrewrite
              simpa [File.writeAll, File.write, overwrite, Except.map] using h
            | failed e n =>
              have h := @Opening.torn _ log.path _ fs _ _ _ hlen htext hclears hrewrite
              simpa [File.writeAll, File.write, overwrite, Except.map] using h
        · simp only [context, Except.mapError, if_neg hlen]
          exact .appending (Nat.le_of_not_lt hlen) ⟨hdir, hopen, hmeta⟩

/-- What has to succeed for an opening to succeed. -/
def Opens (io : LogIo) (bytes : List UInt8) : Prop :=
  Appends io ∧ (maxLen < bytes.length →
    Clears io ∧ (fromUtf8 bytes).isSome ∧ io.rewrite = .done)

theorem Opening.opens_iff {fs' : Fs} {res : Except LogError BufWriter}
    (h : Opening io path bytes fs fs' res) : (∃ file, res = .ok file) ↔ Opens io bytes := by
  cases h with
  | failed _ hio =>
    constructor
    · rintro ⟨_, ⟨⟩⟩
    · rintro ⟨happends, hlong⟩
      obtain ⟨hlen, hnone⟩ := hio happends
      obtain ⟨hclears, htext, -⟩ := hlong hlen
      rw [hnone hclears] at htext
      cases htext
  | appending hlen hio =>
    refine ⟨?_, fun _ => ⟨_, rfl⟩⟩
    intro _
    exact ⟨hio, fun hlt => absurd hlen (Nat.not_le.mpr hlt)⟩
  | rotated hlen htext hclears hio =>
    refine ⟨?_, fun _ => ⟨_, rfl⟩⟩
    intro _
    exact ⟨hclears.toAppends, fun _ => ⟨hclears, Option.isSome_of_eq_some htext, hio⟩⟩
  | torn hlen htext hclears hio =>
    constructor
    · rintro ⟨_, ⟨⟩⟩
    · rintro ⟨-, hlong⟩
      cases hio.symm.trans (hlong hlen).2.2

/-- A handle that an opening returns is at the end of the file. -/
theorem Opening.atEnd {fs' : Fs} (h : Opening io path bytes fs fs' (.ok writer)) :
    writer.inner.path = path ∧ ∃ content, writer.AtEnd fs' content := by
  cases h with
  | appending _ _ => exact ⟨rfl, bytes, Function.update_self .., rfl, .inl rfl⟩
  | rotated _ _ _ _ => exact ⟨rfl, _, Function.update_self .., rfl, .inr rfl⟩

/-- The handle that a log keeps from its first call on. -/
theorem openFile_succeeding (hfile : log.file = none)
    (hfs : (fs log.path).getD [] = asBytes text) :
    ∃ fs' writer, log.openFile .succeeding fs = (fs', .ok writer) ∧
      writer.inner.path = log.path ∧ writer.AtEnd fs' (asBytes (opened text)) := by
  have h := openFile_opening .succeeding fs hfile
  rw [hfs] at h
  generalize log.openFile .succeeding fs = res at h ⊢
  obtain ⟨fs', res⟩ := res
  cases h with
  | failed _ hio =>
    have htext := (hio clears_succeeding.toAppends).2 clears_succeeding
    rw [fromUtf8_asBytes] at htext
    cases htext
  | appending hlen _ =>
    rw [opened, if_neg (Nat.not_lt.mpr hlen)]
    exact ⟨_, _, rfl, rfl, by simp [BufWriter.new], rfl, .inl rfl⟩
  | rotated hlen htext _ _ =>
    rw [fromUtf8_asBytes] at htext
    cases htext
    rw [opened, if_pos hlen]
    exact ⟨_, _, rfl, rfl, by simp [BufWriter.new], rfl, .inr rfl⟩
  | torn _ _ _ hio => cases hio

/-- What a call writes goes to the end of what the file holds when it has been opened. -/
theorem log_of_openFile {fs' : Fs} (message : String)
    (hopen : log.openFile io fs = (fs', .ok writer)) (hend : writer.AtEnd fs' bytes)
    (hio : io.write = .done) :
    ∃ fs'' writer', log.log io message fs = (fs'', { log with file := some writer' }, .ok ()) ∧
      writer'.inner.path = writer.inner.path ∧
      writer'.AtEnd fs'' (bytes ++ asBytes (message.toList ++ ['\n'])) := by
  obtain ⟨fs'', writer', hflush, hp, hend⟩ := hend.flush (asBytes (message.toList ++ ['\n']))
  refine ⟨fs'', writer', ?_, hp, hend⟩
  simp only [FileLog.log, hopen, hio, hflush]

/-- What has to succeed for a call to succeed. -/
def Writes (io : LogIo) (log : FileLog) (fs : Fs) : Prop :=
  (log.file = none → Opens io ((fs log.path).getD [])) ∧ io.write = .done

/-- The handle of a log that is open is at the end of the file. -/
def Ready (log : FileLog) (fs : Fs) : Prop :=
  ∀ writer, log.file = some writer →
    writer.inner.path = log.path ∧ ∃ content, writer.AtEnd fs content

theorem openFile_ready (hready : log.Ready fs)
    (hopens : log.file = none → Opens io ((fs log.path).getD [])) :
    ∃ fs' writer content, log.openFile io fs = (fs', .ok writer) ∧
      writer.inner.path = log.path ∧ writer.AtEnd fs' content := by
  cases hfile : log.file with
  | some writer =>
    obtain ⟨hpath, content, hend⟩ := hready writer hfile
    refine ⟨fs, writer, content, ?_, hpath, hend⟩
    simp only [openFile, hfile]
  | none =>
    have hopening := openFile_opening io fs hfile
    obtain ⟨writer, hwriter⟩ := hopening.opens_iff.mpr (hopens hfile)
    rw [hwriter] at hopening
    obtain ⟨hpath, content, hend⟩ := hopening.atEnd
    exact ⟨_, writer, content, Prod.ext rfl hwriter, hpath, hend⟩

theorem log_of_writes (hready : log.Ready fs) (hio : log.Writes io fs) (message : String) :
    ∃ fs' writer before, log.log io message fs = (fs', { log with file := some writer }, .ok ()) ∧
      writer.inner.path = log.path ∧
      writer.AtEnd fs' (before ++ asBytes (message.toList ++ ['\n'])) := by
  obtain ⟨hopens, hwrite⟩ := hio
  obtain ⟨fs', writer, content, hopen, hpath, hend⟩ := openFile_ready hready hopens
  obtain ⟨fs'', writer', hlog, hpath', hend'⟩ := log_of_openFile message hopen hend hwrite
  exact ⟨fs'', writer', content, hlog, hpath'.trans hpath, hend'⟩

theorem writes_of_log_ok {fs' : Fs} {log' : FileLog} {message : String}
    (h : log.log io message fs = (fs', log', .ok ())) : log.Writes io fs := by
  simp only [FileLog.log] at h
  split at h
  · cases h
  · cases h
  · rename_i fs₁ writer hopen
    constructor
    · intro hfile
      have hopening := openFile_opening io fs hfile
      rw [hopen] at hopening
      exact hopening.opens_iff.mp ⟨writer, rfl⟩
    · cases hwrite : io.write with
      | done => rfl
      | failed e n =>
        simp [hwrite, BufWriter.flush, File.writeAll] at h

end FileLog

end BurntSushi
