import BurntSushi.Fs

/-! `update_via_exe_swap`, whose task can fail or be dropped at each of its awaits. -/
namespace BurntSushi.Update

structure OsError where
  rawOsError : Option Int
  deriving DecidableEq, Repr

/-- An error with its `context`. -/
structure UpdateError where
  context : String
  source : OsError
  deriving DecidableEq, Repr

/-- What becomes of an awaited `fs::rename`. When the task is dropped there, the blocking thread
has moved the file or never will. -/
inductive Rename where
  | done
  | failed (e : OsError)
  | dropped (moved : Bool)
  deriving DecidableEq, Repr

/-- What becomes of an awaited `fs::copy`, with the bytes it has written if it has opened the
target. -/
inductive Copy where
  | done
  | failed (e : OsError) (written : Option Nat)
  | dropped (written : Option Nat)
  deriving DecidableEq, Repr

/-- The file operations of one call, in their order. -/
structure Schedule where
  moveOut : Rename
  moveIn : Rename
  copy : Copy

/-- How the call is over. -/
inductive End where
  | returned (res : Except UpdateError Unit)
  | dropped

def copyPart (fs : Fs) (src dst : Path) : Option Nat → Fs
  | none => fs
  | some n => fs.copyFirst src dst n

/-- `fs::copy(tmp_bin_path, current_exe)`. -/
def copyIn (copy : Copy) (tmpBinPath currentExe : Path) (fs : Fs) : Fs × End :=
  match copy with
  | .done => (fs.copy tmpBinPath currentExe, .returned (.ok ()))
  | .failed e written =>
    (copyPart fs tmpBinPath currentExe written, .returned (.error
      ⟨"Failed to copy updated executable to current executable path", e⟩))
  | .dropped written => (copyPart fs tmpBinPath currentExe written, .dropped)

/-- `fs::rename(tmp_bin_path, current_exe)` and what follows it. -/
def moveIn (s : Schedule) (tmpBinPath currentExe : Path) (fs : Fs) : Fs × End :=
  match s.moveIn with
  | .done => (fs.rename tmpBinPath currentExe, .returned (.ok ()))
  | .failed e =>
    if e.rawOsError = some 17 then copyIn s.copy tmpBinPath currentExe fs
    else (fs, .returned (.error
      ⟨"Failed to move updated executable to current executable path", e⟩))
  | .dropped moved => (if moved then fs.rename tmpBinPath currentExe else fs, .dropped)

def updateViaExeSwap (s : Schedule) (tmpBinPath currentExe : Path) (fs : Fs) : Fs × End :=
  let movedBin := currentExe.withExtension "exe.bak"
  match s.moveOut with
  | .done => moveIn s tmpBinPath currentExe (fs.rename currentExe movedBin)
  | .failed e => (fs, .returned (.error ⟨"Failed to move current executable", e⟩))
  | .dropped moved => (if moved then fs.rename currentExe movedBin else fs, .dropped)

/-- A complete executable is at `currentExe`: the new one after success, the old one after an
error, either of them when the task was dropped. -/
def Complete (currentExe : Path) (old new : List UInt8) : Fs × End → Prop
  | (fs, .returned (.ok ())) => fs currentExe = some new
  | (fs, .returned (.error _)) => fs currentExe = some old
  | (fs, .dropped) => fs currentExe = some old ∨ fs currentExe = some new

/-- The file has been moved. -/
def Rename.Moves (r : Rename) : Prop := r = .done ∨ r = .dropped true

/-- The copy leaves a complete executable behind; one that is cut short does so only by chance. -/
def Copy.Completes (old new : List UInt8) : Copy → Prop
  | .done => True
  | .failed _ written => written.map new.take = some old
  | .dropped written => written.map new.take = some old ∨ written.map new.take = some new

/-- The running executable is not moved away, or the new one takes its place. -/
def Schedule.Completes (old new : List UInt8) (s : Schedule) : Prop :=
  ¬ s.moveOut.Moves ∨ s.moveOut = .done ∧
    (s.moveIn.Moves ∨ s.moveIn = .failed ⟨some 17⟩ ∧ s.copy.Completes old new)

variable {s : Schedule} {fs : Fs} {tmpBinPath currentExe : Path} {old new : List UInt8}

theorem copyPart_currentExe {written : Option Nat} (hcur : fs currentExe = none)
    (htmp : fs tmpBinPath = some new) :
    copyPart fs tmpBinPath currentExe written currentExe = written.map new.take := by
  cases written <;> simp [copyPart, hcur, htmp, Fs.copyFirst]

theorem complete_copyIn (copy : Copy) (hcur : fs currentExe = none)
    (htmp : fs tmpBinPath = some new) :
    Complete currentExe old new (copyIn copy tmpBinPath currentExe fs) ↔
      copy.Completes old new := by
  cases copy with
  | done => simp [copyIn, Complete, Copy.Completes, htmp]
  | failed e written =>
    rw [copyIn, Complete, copyPart_currentExe hcur htmp, Copy.Completes]
  | dropped written =>
    rw [copyIn, Complete, copyPart_currentExe hcur htmp, Copy.Completes]

theorem complete_moveIn (hne : tmpBinPath ≠ currentExe) (hcur : fs currentExe = none)
    (htmp : fs tmpBinPath = some new) :
    Complete currentExe old new (moveIn s tmpBinPath currentExe fs) ↔
      s.moveIn.Moves ∨ s.moveIn = .failed ⟨some 17⟩ ∧ s.copy.Completes old new := by
  simp only [moveIn]
  cases hm : s.moveIn with
  | done => simp [Complete, Rename.Moves, Fs.rename_dst hne, htmp]
  | dropped moved =>
    cases moved <;> simp [Complete, Rename.Moves, Fs.rename_dst hne, hcur, htmp]
  | failed e =>
    obtain ⟨code⟩ := e
    by_cases hc : code = some 17
    · simp [hc, Rename.Moves, complete_copyIn s.copy hcur htmp]
    · simp [hc, Complete, Rename.Moves, hcur]

/-- After the swap a complete executable is in place if and only if the running one was not moved
away or the new one has taken its place. -/
theorem complete_iff (s : Schedule) (fs : Fs) (tmpBinPath currentExe : Path)
    (old new : List UInt8) (hdir : tmpBinPath.parent ≠ currentExe.parent)
    (hcur : fs currentExe = some old) (htmp : fs tmpBinPath = some new) :
    Complete currentExe old new (updateViaExeSwap s tmpBinPath currentExe fs) ↔
      s.Completes old new := by
  have hne : tmpBinPath ≠ currentExe := fun h => hdir (congrArg Path.parent h)
  have hbak : currentExe ≠ currentExe.withExtension "exe.bak" :=
    (Path.withExtension_ne (by decide)).symm
  have htb : tmpBinPath ≠ currentExe.withExtension "exe.bak" := by
    intro h
    subst h
    exact hdir rfl
  simp only [updateViaExeSwap, Schedule.Completes]
  cases hm : s.moveOut with
  | done =>
    have hcur' := @Fs.rename_src fs _ _ hbak
    have htmp' := (@Fs.rename_of_ne fs _ _ _ hne htb).trans htmp
    simp [Rename.Moves, complete_moveIn hne hcur' htmp']
  | failed e => simp [Complete, Rename.Moves, hcur]
  | dropped moved => cases moved <;> simp [Complete, Rename.Moves, Fs.rename_src hbak, hcur]

def installedExe : Path := ⟨"C:\\Tools", "BurntSushi.exe"⟩

def downloadedExe : Path := ⟨"C:\\Temp\\BurntSushi1a2b", "BurntSushi.exe"⟩

/-- The running executable and the download, one byte each. -/
def downloaded : Fs := fun path =>
  if path = installedExe then some [1] else if path = downloadedExe then some [2] else none

/-- Both renames succeed. -/
def swapped : Schedule := ⟨.done, .done, .done⟩

/-- The new executable may not be moved, for another reason than being on another volume. -/
def accessDenied : Schedule := ⟨.done, .failed ⟨some 5⟩, .done⟩

/-- The application shuts down between the two renames. -/
def interrupted : Schedule := ⟨.done, .dropped false, .done⟩

theorem complete_iff_swapped :
    Complete installedExe [1] [2] (updateViaExeSwap swapped downloadedExe installedExe downloaded)
      ↔ swapped.Completes [1] [2] :=
  complete_iff swapped downloaded downloadedExe installedExe [1] [2] (by decide) rfl rfl

theorem accessDenied_incomplete :
    ¬ Complete installedExe [1] [2]
      (updateViaExeSwap accessDenied downloadedExe installedExe downloaded) ∧
    ¬ Complete installedExe [1] [2]
      (updateViaExeSwap interrupted downloadedExe installedExe downloaded) := by
  have hgone : downloaded.rename installedExe (installedExe.withExtension "exe.bak") installedExe
      = none := Fs.rename_src (Path.withExtension_ne (by decide)).symm
  constructor
  · intro h
    exact absurd (hgone.symm.trans h) (by simp)
  · intro h
    rcases h with h | h
    · exact absurd (hgone.symm.trans h) (by simp)
    · exact absurd (hgone.symm.trans h) (by simp)

end BurntSushi.Update
