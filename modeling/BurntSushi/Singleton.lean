import BurntSushi.Lts
import Mathlib.Logic.Function.Basic

/-! The singleton mutex of `main`, tried, held and released by any number of processes. -/
namespace BurntSushi.Singleton

open Lts

abbrev Pid := Nat

/-- A named mutex of the OS: the process whose main thread owns it, how often that has locked it,
and whether its last owner died with it. -/
structure NamedMutex where
  owner : Option Pid
  count : Nat
  abandoned : Bool
  deriving DecidableEq, Repr

inductive WaitResult where
  | object0
  | abandoned
  | timeout
  | failed
  deriving DecidableEq, Repr

namespace NamedMutex

def created : NamedMutex := ⟨none, 0, false⟩

/-- `WaitForSingleObject` without a timeout. -/
def wait (m : NamedMutex) (p : Pid) (failed : Bool) : NamedMutex × WaitResult :=
  if failed then (m, .failed)
  else
    match m.owner with
    | none => (⟨some p, 1, false⟩, if m.abandoned then .abandoned else .object0)
    | some q => if q = p then ({ m with count := m.count + 1 }, .object0) else (m, .timeout)

/-- `try_lock`; `some true` comes with a guard, `none` is an error. -/
def tryLock (m : NamedMutex) (p : Pid) (failed : Bool) : NamedMutex × Option Bool :=
  match m.wait p failed with
  | (m, .object0) => (m, some true)
  | (m, .abandoned) => (m, some true)
  | (m, .timeout) => (m, some false)
  | (m, .failed) => (m, none)

/-- `ReleaseMutex`, which only the owner may call. -/
def release (m : NamedMutex) (p : Pid) : Option NamedMutex :=
  if m.owner = some p then
    some (if m.count = 1 then ⟨none, 0, false⟩ else { m with count := m.count - 1 })
  else none

/-- The end of a process. -/
def abandon (m : NamedMutex) (p : Pid) : NamedMutex :=
  if m.owner = some p then ⟨none, 0, true⟩ else m

end NamedMutex

/-- Where `main` is: before its first `try_lock`, asleep between two of them, in `run`, before the
drop of the guard, and after that. -/
inductive Main where
  | absent
  | starting
  | polling
  | running
  | dropping
  | leaving
  | ended
  deriving DecidableEq, Repr

structure Proc where
  main : Main
  waitForShutdown : Bool
  guards : Nat
  deriving DecidableEq, Repr

structure System where
  procs : Pid → Proc
  mutex : NamedMutex

/-- `leaveRun` is the return of `run` or a panic in it, `quit` any other way past the mutex. -/
inductive Label where
  | start (p : Pid) (waitForShutdown : Bool)
  | tryLock (p : Pid) (failed : Bool)
  | leaveRun (p : Pid)
  | dropGuard (p : Pid)
  | quit (p : Pid)
  | exit (p : Pid)
  | kill (p : Pid)
  deriving DecidableEq, Repr

namespace System

def initial : System := ⟨fun _ => ⟨.absent, false, 0⟩, .created⟩

def main (s : System) (p : Pid) : Main := (s.procs p).main

def setMain (s : System) (p : Pid) (main : Main) : System :=
  { s with procs := Function.update s.procs p { s.procs p with main } }

def setGuards (s : System) (p : Pid) (guards : Nat) : System :=
  { s with procs := Function.update s.procs p { s.procs p with guards } }

/-- What `main` does with the result of `try_lock`. -/
def tryLock (s : System) (p : Pid) (failed : Bool) : System :=
  match s.mutex.tryLock p failed with
  | (mutex, some true) =>
    ({ s with mutex }.setGuards p ((s.procs p).guards + 1)).setMain p .running
  | (mutex, some false) =>
    { s with mutex }.setMain p (if (s.procs p).waitForShutdown then .polling else .leaving)
  | (mutex, none) => { s with mutex }.setMain p .leaving

/-- `NamedMutexGuard::drop`. -/
def dropGuard (s : System) (p : Pid) : System :=
  ({ s with mutex := (s.mutex.release p).getD s.mutex }.setGuards p
    ((s.procs p).guards - 1)).setMain p .leaving

/-- The end of a process, whose guards are not dropped. -/
def finish (s : System) (p : Pid) : System :=
  ({ s with mutex := s.mutex.abandon p }.setGuards p 0).setMain p .ended

def step (s : System) : Label → Option System
  | .start p waitForShutdown =>
    if s.main p = .absent then
      some { s with procs := Function.update s.procs p ⟨.starting, waitForShutdown, 0⟩ }
    else none
  | .tryLock p failed =>
    if s.main p = .starting ∨ s.main p = .polling then some (s.tryLock p failed) else none
  | .leaveRun p => if s.main p = .running then some (s.setMain p .dropping) else none
  | .dropGuard p => if s.main p = .dropping then some (s.dropGuard p) else none
  | .quit p =>
    if s.main p = .starting ∨ s.main p = .polling then some (s.setMain p .leaving) else none
  | .exit p => if s.main p = .leaving then some (s.finish p) else none
  | .kill p => if s.main p = .absent ∨ s.main p = .ended then none else some (s.finish p)

/-- The step gives a process the mutex. -/
def acquires (p : Pid) (x : System × Label) : Bool :=
  match x.2 with
  | .tryLock q failed => q = p && (x.1.mutex.tryLock q failed).2 = some true
  | _ => false

/-- The step takes the mutex from a process: its guard is dropped, or it ends while it is the
owner. -/
def releases (p : Pid) (x : System × Label) : Bool :=
  match x.2 with
  | .dropGuard q => q = p && (x.1.mutex.release q).isSome
  | .exit q => q = p && x.1.mutex.owner = some q
  | .kill q => q = p && x.1.mutex.owner = some q
  | _ => false

/-- A process between its successful `try_lock` and the drop of the guard. -/
def Holds (s : System) (p : Pid) : Prop := s.main p = .running ∨ s.main p = .dropping

/-- The owner is the process that is between its `try_lock` and the drop of its one guard. -/
structure Inv (s : System) : Prop where
  owner : ∀ p, s.mutex.owner = some p ↔ s.Holds p
  guards : ∀ p, (s.procs p).guards = if s.mutex.owner = some p then 1 else 0
  count : ∀ p, s.mutex.owner = some p → s.mutex.count = 1

/-- The cases of `step`. -/
inductive Step (s : System) : Label → System → Prop
  | start {p : Pid} {waitForShutdown : Bool} (h : s.main p = .absent) :
      Step s (.start p waitForShutdown)
        { s with procs := Function.update s.procs p ⟨.starting, waitForShutdown, 0⟩ }
  | locked {p : Pid} (h : s.main p = .starting ∨ s.main p = .polling)
      (ho : s.mutex.owner = none) :
      Step s (.tryLock p false)
        (({ s with mutex := ⟨some p, 1, false⟩ }.setGuards p ((s.procs p).guards + 1)).setMain p
          .running)
  | relocked {p : Pid} (h : s.main p = .starting ∨ s.main p = .polling)
      (ho : s.mutex.owner = some p) :
      Step s (.tryLock p false)
        (({ s with mutex.count := s.mutex.count + 1 }.setGuards p
          ((s.procs p).guards + 1)).setMain p .running)
  | timedOut {p q : Pid} (h : s.main p = .starting ∨ s.main p = .polling)
      (ho : s.mutex.owner = some q) (hq : q ≠ p) :
      Step s (.tryLock p false)
        (s.setMain p (if (s.procs p).waitForShutdown then .polling else .leaving))
  | failed {p : Pid} (h : s.main p = .starting ∨ s.main p = .polling) :
      Step s (.tryLock p true) (s.setMain p .leaving)
  | leaveRun {p : Pid} (h : s.main p = .running) :
      Step s (.leaveRun p) (s.setMain p .dropping)
  | dropGuard {p : Pid} (h : s.main p = .dropping) : Step s (.dropGuard p) (s.dropGuard p)
  | quit {p : Pid} (h : s.main p = .starting ∨ s.main p = .polling) :
      Step s (.quit p) (s.setMain p .leaving)
  | exit {p : Pid} (h : s.main p = .leaving) : Step s (.exit p) (s.finish p)
  | kill {p : Pid} (h : s.main p ≠ .absent) (h' : s.main p ≠ .ended) :
      Step s (.kill p) (s.finish p)

variable {s t : System} {p q : Pid} {l : Label} {tr : List (System × Label)}

theorem step_cases (h : step s l = some t) : Step s l t := by
  cases l with
  | start p waitForShutdown =>
    simp only [step, Option.ite_none_right_eq_some, Option.some.injEq] at h
    obtain ⟨hp, rfl⟩ := h
    exact .start hp
  | tryLock p failed =>
    simp only [step, Option.ite_none_right_eq_some, Option.some.injEq] at h
    obtain ⟨hp, rfl⟩ := h
    cases failed with
    | true => exact .failed hp
    | false =>
      cases ho : s.mutex.owner with
      | none =>
        have hs : s.tryLock p false = ({ s with mutex := ⟨some p, 1, false⟩ }.setGuards p
            ((s.procs p).guards + 1)).setMain p .running := by
          cases ha : s.mutex.abandoned <;>
            simp [tryLock, NamedMutex.tryLock, NamedMutex.wait, ho, ha]
        exact hs ▸ .locked hp ho
      | some q =>
        by_cases hq : q = p
        · subst hq
          have hs : s.tryLock q false = ({ s with mutex.count := s.mutex.count + 1 }.setGuards q
              ((s.procs q).guards + 1)).setMain q .running := by
            simp [tryLock, NamedMutex.tryLock, NamedMutex.wait, ho]
          exact hs ▸ .relocked hp ho
        · have hs : s.tryLock p false =
              s.setMain p (if (s.procs p).waitForShutdown then .polling else .leaving) := by
            simp [tryLock, NamedMutex.tryLock, NamedMutex.wait, ho, hq]
          exact hs ▸ .timedOut hp ho hq
  | leaveRun p =>
    simp only [step, Option.ite_none_right_eq_some, Option.some.injEq] at h
    obtain ⟨hp, rfl⟩ := h
    exact .leaveRun hp
  | dropGuard p =>
    simp only [step, Option.ite_none_right_eq_some, Option.some.injEq] at h
    obtain ⟨hp, rfl⟩ := h
    exact .dropGuard hp
  | quit p =>
    simp only [step, Option.ite_none_right_eq_some, Option.some.injEq] at h
    obtain ⟨hp, rfl⟩ := h
    exact .quit hp
  | exit p =>
    simp only [step, Option.ite_none_right_eq_some, Option.some.injEq] at h
    obtain ⟨hp, rfl⟩ := h
    exact .exit hp
  | kill p =>
    simp only [step, Option.ite_none_left_eq_some, Option.some.injEq] at h
    obtain ⟨hp, rfl⟩ := h
    exact .kill (fun he => hp (.inl he)) fun he => hp (.inr he)

@[simp] theorem mutex_setMain (main : Main) : (s.setMain p main).mutex = s.mutex := rfl

@[simp] theorem mutex_setGuards (guards : Nat) : (s.setGuards p guards).mutex = s.mutex := rfl

@[simp] theorem main_setMain (main : Main) :
    (s.setMain p main).main q = if q = p then main else s.main q := by
  by_cases hq : q = p
  · subst hq
    simp [setMain, System.main]
  · simp [setMain, System.main, hq]

@[simp] theorem main_setGuards (guards : Nat) : (s.setGuards p guards).main q = s.main q := by
  by_cases hq : q = p
  · subst hq
    simp [setGuards, System.main]
  · simp [setGuards, System.main, hq]

@[simp] theorem guards_setMain (main : Main) :
    ((s.setMain p main).procs q).guards = (s.procs q).guards := by
  by_cases hq : q = p
  · subst hq
    simp [setMain]
  · simp [setMain, hq]

@[simp] theorem guards_setGuards (guards : Nat) :
    ((s.setGuards p guards).procs q).guards = if q = p then guards else (s.procs q).guards := by
  by_cases hq : q = p
  · subst hq
    simp [setGuards]
  · simp [setGuards, hq]

theorem Inv.owner_of_holds (hI : Inv s) (h : s.Holds p) : s.mutex.owner = some p :=
  (hI.owner p).mpr h

theorem inv_initial : Inv initial where
  owner p := by simp [initial, NamedMutex.created, Holds, System.main]
  guards p := by simp [initial, NamedMutex.created]
  count p h := by simp [initial, NamedMutex.created] at h

/-- A step of `p` that leaves the mutex alone and moves `p` neither into nor out of its hold. -/
theorem Inv.of_main (hI : Inv s) {main : Main}
    (hm : main = .running ∨ main = .dropping ↔ s.Holds p) : Inv (s.setMain p main) where
  owner q := by
    rw [mutex_setMain, hI.owner q]
    by_cases hq : q = p
    · subst hq
      rw [← hm]
      simp [Holds]
    · simp [Holds, hq]
  guards q := by rw [guards_setMain, mutex_setMain, hI.guards q]
  count q ho := hI.count q ho

theorem inv_start (hI : Inv s) (h : s.main p = .absent) (waitForShutdown : Bool) :
    Inv { s with procs := Function.update s.procs p ⟨.starting, waitForShutdown, 0⟩ } where
  owner q := by
    rw [hI.owner q]
    by_cases hq : q = p
    · subst hq
      have hm : (s.procs q).main = .absent := h
      simp [Holds, System.main, hm]
    · simp [Holds, hq, System.main]
  guards q := by
    have hg := hI.guards q
    by_cases hq : q = p
    · subst hq
      have hn : s.mutex.owner ≠ some q := by
        intro ho
        simpa [Holds, h] using (hI.owner q).mp ho
      simp [hn]
    · simp [hq, hg]
  count q ho := hI.count q ho

theorem not_holds_of_starting (h : s.main p = .starting ∨ s.main p = .polling) :
    ¬ s.Holds p := by
  rcases h with h | h <;> simp [Holds, h]

theorem inv_locked (hI : Inv s) (ho : s.mutex.owner = none) :
    Inv (({ s with mutex := ⟨some p, 1, false⟩ }.setGuards p ((s.procs p).guards + 1)).setMain p
      .running) where
  owner q := by
    by_cases hq : q = p
    · subst hq
      simp [Holds]
    · have hn : ¬ s.Holds q := by
        intro hh
        simpa [ho] using hI.owner_of_holds hh
      have hn' : ¬ ({ s with mutex := ⟨some p, 1, false⟩ } : System).Holds q := hn
      simpa [Holds, hq, Ne.symm hq] using hn'
  guards q := by
    have hg := hI.guards q
    by_cases hq : q = p
    · subst hq
      simp [hg, ho]
    · simp [hq, Ne.symm hq, hg, ho]
  count q _ := rfl

/-- The guard is dropped, or its process ends. -/
theorem inv_freed (hI : Inv s) (hs : s.mutex.owner = some p) {mutex : NamedMutex}
    (ho : mutex.owner = none) {guards : Nat} (hg : guards = 0) {main : Main}
    (hm : main ≠ .running ∧ main ≠ .dropping) :
    Inv (({ s with mutex }.setGuards p guards).setMain p main) where
  owner q := by
    by_cases hq : q = p
    · subst hq
      simp [Holds, hm, ho]
    · have hn : ¬ s.Holds q := by
        intro hh
        have ho := hI.owner_of_holds hh
        exact hq (Option.some.inj (ho.symm.trans hs))
      have hn' : ¬ ({ s with mutex } : System).Holds q := hn
      simpa [Holds, hq, ho] using hn'
  guards q := by
    have hgq := hI.guards q
    by_cases hq : q = p
    · subst hq
      simp [hg, ho]
    · simp [hq, ho, hgq, hs, Ne.symm hq]
  count q hq := by simp [ho] at hq

theorem inv_finish (hI : Inv s) (p : Pid) : Inv (s.finish p) := by
  simp only [finish, NamedMutex.abandon]
  by_cases ho : s.mutex.owner = some p
  · rw [if_pos ho]
    exact inv_freed hI ho rfl rfl (by simp)
  · rw [if_neg ho]
    have hs : ¬ s.Holds p := by
      intro hh
      exact ho (hI.owner_of_holds hh)
    have hg : (s.procs p).guards = 0 := by simpa [ho] using hI.guards p
    have he : s.setGuards p 0 = s := by
      simp only [setGuards, ← hg, Function.update_eq_self]
    change Inv ((s.setGuards p 0).setMain p .ended)
    rw [he]
    exact hI.of_main (by simp [hs])

theorem inv_step (hI : Inv s) (h : Step s l t) : Inv t := by
  cases h with
  | start h => exact inv_start hI h _
  | locked h ho => exact inv_locked hI ho
  | relocked h ho => exact absurd ((hI.owner _).mp ho) (not_holds_of_starting h)
  | timedOut h ho hq =>
    apply hI.of_main
    have hn := not_holds_of_starting h
    split <;> simp [hn]
  | failed h => exact hI.of_main (by simp [not_holds_of_starting h])
  | leaveRun h => exact hI.of_main (by simp [Holds, h])
  | dropGuard h =>
    rename_i p
    have ho : s.mutex.owner = some p := hI.owner_of_holds (.inr h)
    have hg : (s.procs p).guards = 1 := by simpa [ho] using hI.guards p
    simp only [dropGuard, NamedMutex.release]
    rw [if_pos ho, if_pos (hI.count p ho), hg]
    exact inv_freed hI ho rfl rfl (by simp)
  | quit h => exact hI.of_main (by simp [not_holds_of_starting h])
  | exit h => exact inv_finish hI _
  | kill h h' => exact inv_finish hI _

theorem inv_trace (h : Trace step initial tr s) : Inv s :=
  h.invariant inv_initial fun _ _ _ hI hs => inv_step hI (step_cases hs)

theorem owner_finish (hn : s.mutex.owner ≠ some p) : (s.finish p).mutex.owner = s.mutex.owner := by
  simp [finish, NamedMutex.abandon, hn]

/-- What a step does to the ownership: nothing, it takes the free mutex, or it frees it. -/
theorem owner_step (hI : Inv s) (h : Step s l t) :
    (t.mutex.owner = s.mutex.owner ∧
      ∀ q, acquires q (s, l) = false ∧ releases q (s, l) = false) ∨
    (∃ p, s.mutex.owner = none ∧ t.mutex.owner = some p ∧
      ∀ q, acquires q (s, l) = decide (p = q) ∧ releases q (s, l) = false) ∨
    ∃ p, s.mutex.owner = some p ∧ t.mutex.owner = none ∧
      ∀ q, acquires q (s, l) = false ∧ releases q (s, l) = decide (p = q) := by
  cases h with
  | start h => exact .inl ⟨rfl, fun q => ⟨rfl, rfl⟩⟩
  | locked h ho =>
    refine .inr (.inl ⟨_, ho, rfl, fun q => ⟨?_, rfl⟩⟩)
    cases ha : s.mutex.abandoned <;>
      simp [acquires, NamedMutex.tryLock, NamedMutex.wait, ho, ha]
  | relocked h ho => exact absurd ((hI.owner _).mp ho) (not_holds_of_starting h)
  | timedOut h ho hq =>
    refine .inl ⟨rfl, fun q => ⟨?_, rfl⟩⟩
    simp [acquires, NamedMutex.tryLock, NamedMutex.wait, ho, hq]
  | failed h =>
    refine .inl ⟨rfl, fun q => ⟨?_, rfl⟩⟩
    simp [acquires, NamedMutex.tryLock, NamedMutex.wait]
  | leaveRun h => exact .inl ⟨rfl, fun q => ⟨rfl, rfl⟩⟩
  | dropGuard h =>
    rename_i p
    have ho : s.mutex.owner = some p := hI.owner_of_holds (.inr h)
    refine .inr (.inr ⟨p, ho, ?_, fun q => ⟨rfl, ?_⟩⟩)
    · simp [dropGuard, NamedMutex.release, ho, hI.count p ho]
    · simp [releases, NamedMutex.release, ho]
  | quit h => exact .inl ⟨rfl, fun q => ⟨rfl, rfl⟩⟩
  | exit h =>
    rename_i p
    have hn : s.mutex.owner ≠ some p := by
      intro ho
      simpa [Holds, h] using (hI.owner p).mp ho
    exact .inl ⟨owner_finish hn, fun q => ⟨rfl, by simp [releases, hn]⟩⟩
  | kill h h' =>
    rename_i p
    by_cases ho : s.mutex.owner = some p
    · refine .inr (.inr ⟨p, ho, ?_, fun q => ⟨rfl, ?_⟩⟩)
      · simp [finish, NamedMutex.abandon, ho]
      · simp [releases, ho]
    · exact .inl ⟨owner_finish ho, fun q => ⟨rfl, by simp [releases, ho]⟩⟩

/-- Every acquisition has been released once, but for the one of the owner. -/
def Ledger (tr : List (System × Label)) (s : System) : Prop :=
  ∀ p, tr.countP (acquires p) =
    tr.countP (releases p) + if s.mutex.owner = some p then 1 else 0

theorem ledger_step (hI : Inv s) (hL : Ledger tr s) (h : Step s l t) :
    Ledger (tr ++ [(s, l)]) t := by
  intro q
  have hq := hL q
  simp only [List.countP_append, List.countP_singleton]
  rcases owner_step hI h with ⟨ho, ha⟩ | ⟨p, hs, ht, ha⟩ | ⟨p, hs, ht, ha⟩
  · rw [ho, (ha q).1, (ha q).2]
    simpa using hq
  · rw [hs] at hq
    rw [ht, (ha q).1, (ha q).2]
    by_cases hp : p = q <;> simp_all
  · rw [hs] at hq
    rw [ht, (ha q).1, (ha q).2]
    by_cases hp : p = q <;> simp_all

theorem ledger_trace (h : Trace step initial tr s) : Ledger tr s := by
  induction h with
  | refl =>
    intro p
    simp [initial, NamedMutex.created]
  | snoc h hs ih => exact ledger_step (inv_trace h) ih (step_cases hs)

/-- The process has not got past its first successful `try_lock`. -/
def Fresh (s : System) (p : Pid) : Prop :=
  s.main p = .absent ∨ s.main p = .starting ∨ s.main p = .polling

theorem fresh_of_setMain {main : Main} (hp : s.Fresh p) (hf : (s.setMain p main).Fresh q) :
    s.Fresh q := by
  by_cases hq : q = p
  · exact hq ▸ hp
  · simpa [Fresh, hq] using hf

/-- Where a step leaves a process past the beginning of its `main`, the others are where they
were. -/
theorem Fresh.of_past {main : Main} (hm : main ≠ .absent ∧ main ≠ .starting ∧ main ≠ .polling)
    (hf : (s.setMain p main).Fresh q) : q ≠ p ∧ s.Fresh q := by
  by_cases hq : q = p
  · subst hq
    simp [Fresh, hm] at hf
  · exact ⟨hq, by simpa [Fresh, hq] using hf⟩

theorem fresh_setGuards {mutex : NamedMutex} {guards : Nat} :
    ({ s with mutex }.setGuards p guards).Fresh q ↔ s.Fresh q := by
  simp only [Fresh, main_setGuards]
  rfl

/-- A process leaves the beginning of its `main` for good, at the latest when it gets the mutex. -/
theorem fresh_step (hI : Inv s) (h : Step s l t) (hf : t.Fresh q) :
    s.Fresh q ∧ acquires q (s, l) = false := by
  cases h with
  | start h =>
    rename_i p wait
    refine ⟨?_, rfl⟩
    by_cases hq : q = p
    · exact hq ▸ .inl h
    · simpa [Fresh, System.main, hq] using hf
  | locked h ho =>
    obtain ⟨hq, hf⟩ := hf.of_past (by simp)
    exact ⟨fresh_setGuards.mp hf, by simp [acquires, Ne.symm hq]⟩
  | relocked h ho => exact absurd ((hI.owner _).mp ho) (not_holds_of_starting h)
  | timedOut h ho hq =>
    refine ⟨fresh_of_setMain (.inr h) hf, ?_⟩
    simp [acquires, NamedMutex.tryLock, NamedMutex.wait, ho, hq]
  | failed h =>
    refine ⟨fresh_of_setMain (.inr h) hf, ?_⟩
    simp [acquires, NamedMutex.tryLock, NamedMutex.wait]
  | leaveRun h => exact ⟨(hf.of_past (by simp)).2, rfl⟩
  | dropGuard h => exact ⟨fresh_setGuards.mp (hf.of_past (by simp)).2, rfl⟩
  | quit h => exact ⟨fresh_of_setMain (.inr h) hf, rfl⟩
  | exit h => exact ⟨fresh_setGuards.mp (hf.of_past (by simp)).2, rfl⟩
  | kill h h' => exact ⟨fresh_setGuards.mp (hf.of_past (by simp)).2, rfl⟩

/-- Only a process at the beginning of its `main` gets the mutex. -/
theorem fresh_of_acquires (h : step s l = some t) (ha : acquires q (s, l) = true) :
    s.Fresh q := by
  cases l with
  | tryLock p failed =>
    simp only [acquires, Bool.and_eq_true, decide_eq_true_eq] at ha
    obtain ⟨rfl, -⟩ := ha
    simp only [step, Option.ite_none_right_eq_some] at h
    exact .inr h.1
  | _ => simp [acquires] at ha

/-- A process gets the mutex at most once. -/
theorem countP_acquires_le (h : Trace step initial tr s) (q : Pid) :
    tr.countP (acquires q) ≤ 1 ∧ (s.Fresh q → tr.countP (acquires q) = 0) := by
  induction h with
  | refl => simp
  | snoc h hs ih =>
    simp only [List.countP_append, List.countP_singleton]
    constructor
    · split
      · rename_i ha
        simp [ih.2 (fresh_of_acquires hs ha)]
      · exact ih.1
    · intro hf
      obtain ⟨hf, ha⟩ := fresh_step (inv_trace h) (step_cases hs) hf
      simp [ih.2 hf, ha]

/-- A release is the drop of a guard after `run`, or the death of the owner. -/
theorem releases_cases (hI : Inv s) (h : Step s l t) (hr : releases q (s, l) = true) :
    s.main q = .dropping ∧ l = .dropGuard q ∨ l = .kill q := by
  cases h with
  | dropGuard h =>
    simp only [releases, Bool.and_eq_true, decide_eq_true_eq] at hr
    obtain ⟨rfl, -⟩ := hr
    exact .inl ⟨h, rfl⟩
  | exit h =>
    simp only [releases, Bool.and_eq_true, decide_eq_true_eq] at hr
    obtain ⟨rfl, ho⟩ := hr
    simpa [Holds, h] using (hI.owner _).mp ho
  | kill h h' =>
    simp only [releases, Bool.and_eq_true, decide_eq_true_eq] at hr
    exact .inr (congrArg Label.kill hr.1)
  | _ => simp [releases] at hr

/-- What the mutex guarantees along a run of the processes. -/
structure Exclusive (tr : List (System × Label)) (s : System) : Prop where
  exclusive : ∀ p q, s.main p = .running → s.main q = .running → p = q
  owner : ∀ p, s.main p = .running → s.mutex.owner = some p
  acquired : ∀ p, tr.countP (acquires p) ≤ 1
  released : ∀ p, tr.countP (acquires p) =
    tr.countP (releases p) + if s.mutex.owner = some p then 1 else 0
  release : ∀ p, ∀ x ∈ tr, releases p x = true →
    x.1.main p = .dropping ∧ x.2 = .dropGuard p ∨ x.2 = .kill p
  ended : ∀ p, s.main p = .ended → tr.countP (releases p) = tr.countP (acquires p)

/-- Any processes, with and without waiting for each other, take the mutex one at a time for
`run`, and what one of them gets it releases once. -/
theorem exclusive_trace (h : Trace step initial tr s) : Exclusive tr s where
  exclusive p q hp hq := by
    have hI := inv_trace h
    exact Option.some.inj ((hI.owner_of_holds (.inl hp)).symm.trans (hI.owner_of_holds (.inl hq)))
  owner p hp := (inv_trace h).owner_of_holds (.inl hp)
  acquired p := (countP_acquires_le h p).1
  released p := ledger_trace h p
  release p := by
    induction h with
    | refl => simp
    | snoc h hs ih =>
      intro x hx hr
      rcases List.mem_append.mp hx with hx | hx
      · exact ih x hx hr
      · obtain rfl := List.mem_singleton.mp hx
        exact releases_cases (inv_trace h) (step_cases hs) hr
  ended p hp := by
    have hL := ledger_trace h p
    have hn : s.mutex.owner ≠ some p := by
      intro ho
      simpa [Holds, hp] using ((inv_trace h).owner p).mp ho
    rw [if_neg hn] at hL
    exact hL.symm

/-- The second process waits until the first has dropped its guard; a third one is killed. -/
def handOver : List Label :=
  [.start 0 false, .tryLock 0 false, .start 1 true, .tryLock 1 false, .leaveRun 0, .dropGuard 0,
    .tryLock 1 false, .start 2 true, .tryLock 2 false, .kill 2, .exit 0]

theorem exclusive_handOver :
    Exclusive (trail step initial handOver) (after step initial handOver) :=
  exclusive_trace (trace_after (by decide))

end System

end BurntSushi.Singleton
