import BurntSushi.Singleton

/-! The hand-over of a portable update: the process that has been updated, the one that it starts,
and the old executable, which the new process tries to remove once. -/
namespace BurntSushi.Update

open Lts
open BurntSushi.Singleton (Pid Main System)

/-- The task that runs `remove_file` for `--update-old-bin`: it is first polled when `main` awaits,
and the deletion itself is then done on another thread. -/
inductive Removal where
  | absent
  | spawned
  | polled
  | finished
  deriving DecidableEq, Repr

/-- The singleton mutex with its two processes, and whether the old executable, whose image is the
`.bak` file, is there. -/
structure HandOver where
  system : System
  removal : Removal
  oldBin : Bool

namespace HandOver

def oldProcess : Pid := 0

def newProcess : Pid := 1

/-- The steps of the processes past their start are those of `Singleton`. -/
inductive Label where
  | restart
  | spawnRemoval
  | main (l : Singleton.Label)
  | pollRemoval
  | removeFile
  deriving DecidableEq, Repr

/-- The old process is in `run`. -/
def updated (waitForShutdown : Bool) : HandOver where
  system := after System.step System.initial
    [.start oldProcess waitForShutdown, .tryLock oldProcess false]
  removal := .absent
  oldBin := true

def setSystem (s : HandOver) (system : System) : HandOver := { s with system }

/-- The new process takes its first `try_lock` after it has spawned the task. -/
def enabled (s : HandOver) : Singleton.Label → Bool
  | .start _ _ => false
  | .tryLock p _ => p = oldProcess || p = newProcess && s.removal ≠ .absent
  | .leaveRun p => p = oldProcess || p = newProcess
  | .dropGuard p => p = oldProcess || p = newProcess
  | .quit p => p = oldProcess || p = newProcess
  | .exit p => p = oldProcess || p = newProcess
  | .kill p => p = oldProcess || p = newProcess

def step (s : HandOver) : Label → Option HandOver
  | .restart =>
    if s.system.main oldProcess = .running then
      (s.system.step (.start newProcess true)).map s.setSystem
    else none
  | .spawnRemoval =>
    if s.system.main newProcess = .starting ∧ s.removal = .absent then
      some { s with removal := .spawned }
    else none
  | .main l => if s.enabled l then (s.system.step l).map s.setSystem else none
  | .pollRemoval =>
    if (s.system.main newProcess = .polling ∨ s.system.main newProcess = .running) ∧
        s.removal = .spawned then
      some { s with removal := .polled }
    else none
  | .removeFile =>
    if s.system.main newProcess ≠ .ended ∧ s.removal = .polled then
      some { s with
        removal := .finished
        oldBin := s.oldBin && s.system.main oldProcess ≠ .ended }
    else none

/-- The new process has entered `run`, the old one has exited, and the task is finished. -/
structure Complete (s : HandOver) : Prop where
  running : s.system.main newProcess = .running
  exited : s.system.main oldProcess = .ended
  removal : s.removal = .finished

/-- The file is not removed while the old process still runs from it. -/
def RemovesAfterExit (s : HandOver) (l : Label) : Prop :=
  l = .removeFile → s.system.main oldProcess = .ended

/-- The old executable is there until the attempt, and after one that came too early. -/
def Inv (tr : List (HandOver × Label)) (s : HandOver) : Prop :=
  if s.removal = .finished then s.oldBin = false ↔ Along RemovesAfterExit tr
  else s.oldBin = true ∧ Along RemovesAfterExit tr

variable {s t : HandOver} {l : Label} {tr : List (HandOver × Label)} {waitForShutdown : Bool}

/-- A step other than the attempt. -/
theorem inv_of_ne (hI : Inv tr s) (hl : l ≠ .removeFile) (hb : t.oldBin = s.oldBin)
    (hr : t.removal = .finished ↔ s.removal = .finished) : Inv (tr ++ [(s, l)]) t := by
  have hA : Along RemovesAfterExit (tr ++ [(s, l)]) ↔ Along RemovesAfterExit tr := by
    rw [along_concat]
    exact and_iff_left fun he => absurd he hl
  simp only [Inv] at hI ⊢
  rw [hA, hb]
  simpa only [hr] using hI

theorem inv_step (hI : Inv tr s) (h : step s l = some t) : Inv (tr ++ [(s, l)]) t := by
  cases l with
  | restart =>
    simp only [step, Option.ite_none_right_eq_some] at h
    obtain ⟨system, -, rfl⟩ := Option.map_eq_some_iff.mp h.2
    exact inv_of_ne hI (by simp) rfl Iff.rfl
  | spawnRemoval =>
    simp only [step, Option.ite_none_right_eq_some, Option.some.injEq] at h
    obtain ⟨⟨-, hr⟩, rfl⟩ := h
    exact inv_of_ne hI (by simp) rfl (by simp [hr])
  | main l =>
    simp only [step, Option.ite_none_right_eq_some] at h
    obtain ⟨system, -, rfl⟩ := Option.map_eq_some_iff.mp h.2
    exact inv_of_ne hI (by simp) rfl Iff.rfl
  | pollRemoval =>
    simp only [step, Option.ite_none_right_eq_some, Option.some.injEq] at h
    obtain ⟨⟨-, hr⟩, rfl⟩ := h
    exact inv_of_ne hI (by simp) rfl (by simp [hr])
  | removeFile =>
    simp only [step, Option.ite_none_right_eq_some, Option.some.injEq] at h
    obtain ⟨⟨-, hr⟩, rfl⟩ := h
    have hI : s.oldBin = true ∧ Along RemovesAfterExit tr := by simpa [Inv, hr] using hI
    rw [Inv, if_pos rfl, along_concat]
    simp [hI.1, hI.2, RemovesAfterExit]

/-- Once the hand-over is complete, the old executable is gone exactly if the attempt to remove it
was made after the old process had exited. -/
theorem oldBin_removed_iff (h : Trace step (updated waitForShutdown) tr s) (hc : s.Complete) :
    s.oldBin = false ↔ Along RemovesAfterExit tr := by
  have hI : Inv tr s := by
    clear hc
    induction h with
    | refl => exact ⟨rfl, along_nil⟩
    | snoc _ hs ih => exact inv_step ih hs
  simpa [Inv, hc.removal] using hI

/-- The new process gets the mutex at its second `try_lock`. -/
def beforeRemoval : List Label :=
  [.restart, .spawnRemoval, .main (.tryLock newProcess false), .pollRemoval]

def shutdown : List Label :=
  [.main (.leaveRun oldProcess), .main (.dropGuard oldProcess),
    .main (.tryLock newProcess false), .main (.exit oldProcess)]

def removedLate : List Label := beforeRemoval ++ shutdown ++ [.removeFile]

def removedEarly : List Label := beforeRemoval ++ [.removeFile] ++ shutdown

theorem oldBin_removed_iff_late :
    (after step (updated false) removedLate).oldBin = false ↔
      Along RemovesAfterExit (trail step (updated false) removedLate) :=
  oldBin_removed_iff (trace_after (by decide)) ⟨by decide, by decide, by decide⟩

/-- The attempt is made while the new process waits for the old one, and there is no other. -/
theorem oldBin_kept_early :
    let s := after step (updated false) removedEarly
    Trace step (updated false) (trail step (updated false) removedEarly) s ∧ s.Complete ∧
      s.oldBin = true :=
  ⟨trace_after (by decide), ⟨by decide, by decide, by decide⟩, by decide⟩

end HandOver

end BurntSushi.Update
