import BurntSushi.Singleton

/-! Instances that terminate the other ones before they try the mutex. -/
namespace BurntSushi.Singleton

open Lts

/-- Where `main` is with `terminate_other_instances`; `unforced` is without `--force-restart`. -/
inductive Phase where
  | listing
  | terminating (rest : List Pid)
  | waiting (p : Pid) (rest : List Pid)
  | failed
  | ready
  | unforced
  deriving DecidableEq, Repr

/-- The instances, and where each of them is. -/
structure Instances where
  sys : System
  phase : Pid → Phase

/-- `processes` are those that are found under the name of the executable, whatever they are: an
instance whose file has another name or that cannot be opened is not found. `signaled` is a
`WaitForSingleObject` that has seen the process end; its result is ignored. -/
inductive Act where
  | sys (l : Label)
  | unforced (me : Pid)
  | findAllByName (me : Pid) (processes : List Pid)
  | terminate (me : Pid) (opened killed : Bool)
  | wait (me : Pid) (signaled : Bool)

namespace Instances

def initial : Instances := ⟨.initial, fun _ => .listing⟩

def alive (s : Instances) (p : Pid) : Bool :=
  s.sys.main p ≠ Main.absent ∧ s.sys.main p ≠ Main.ended

def setPhase (s : Instances) (me : Pid) (phase : Phase) : Instances :=
  { s with phase := Function.update s.phase me phase }

/-- The next process of the loop. -/
def next : List Pid → Phase
  | [] => .ready
  | p :: rest => .terminating (p :: rest)

/-- `main` tries the mutex after `terminate_other_instances` only. -/
def permits (s : Instances) : Label → Bool
  | .tryLock p _ => s.phase p = .ready ∨ s.phase p = .unforced
  | _ => true

def step (s : Instances) : Act → Option Instances
  | .sys l =>
    if s.permits l then (s.sys.step l).map fun sys => { s with sys } else none
  | .unforced me =>
    if s.phase me = .listing ∧ s.sys.main me = .starting then some (s.setPhase me .unforced)
    else none
  | .findAllByName me processes =>
    if s.phase me = .listing ∧ s.sys.main me = .starting then
      some (s.setPhase me (next (processes.filter (· ≠ me))))
    else none
  | .terminate me opened killed =>
    match s.phase me with
    | .terminating (p :: rest) =>
      if s.sys.main me = .starting then
        some (s.setPhase me
          (if opened ∧ killed ∧ s.sys.main p ≠ .ended then .waiting p rest else .failed))
      else none
    | _ => none
  | .wait me signaled =>
    match s.phase me with
    | .waiting p rest =>
      if s.sys.main me = .starting ∧ (signaled → s.alive p = false) then
        some (s.setPhase me (next rest))
      else none
    | _ => none

/-- An instance has been started after the processes that are terminated were listed, it was not
among them, or the wait for its end has failed. -/
def Missed (me : Pid) (tr : List (Instances × Act)) (p : Pid) : Prop :=
  Since (fun _ a => ∃ wait, a = .sys (.start p wait))
    (fun _ a => ∃ ps, a = .findAllByName me ps) tr ∨
  (∃ x ∈ tr, ∃ ps, x.2 = .findAllByName me ps ∧ x.1.alive p = true ∧ p ∉ ps) ∨
  ∃ x ∈ tr, x.2 = .wait me false ∧ ∃ rest, x.1.phase me = .waiting p rest

/-- A process cannot be opened or killed, or it has already ended. -/
def Fails (me : Pid) (s : Instances) (a : Act) : Prop :=
  ∃ opened killed p rest, a = .terminate me opened killed ∧ s.phase me = .terminating (p :: rest) ∧
    ¬ (opened = true ∧ killed = true ∧ s.sys.main p ≠ .ended)

/-- What `terminate_other_instances` guarantees to the instance that has called it. -/
structure Forced (me : Pid) (tr : List (Instances × Act)) (s : Instances) : Prop where
  self : ∀ x ∈ tr, ∀ rest, x.1.phase me ≠ .terminating (me :: rest)
  failed : s.phase me = .failed ↔ ∃ x ∈ tr, Fails me x.1 x.2
  others : s.phase me = .ready → ∀ p, p ≠ me → s.alive p = true → Missed me tr p
  running : s.sys.main me = .running → (s.phase me = .ready ∨ s.phase me = .unforced) ∧
    ∀ p, s.sys.main p = .running → p = me
  denied : s.phase me = .ready → s.sys.main me = .starting ∨ s.sys.main me = .polling →
    (s.sys.mutex.tryLock me false).2 = some false →
      ∃ p, s.sys.mutex.owner = some p ∧ Missed me tr p

/-- The processes that are still to be terminated are all others there are, but for the missed. -/
def Covers (me : Pid) (tr : List (Instances × Act)) (s : Instances) (rest : List Pid) : Prop :=
  me ∉ rest ∧ ∀ p, p ≠ me → s.alive p = true → p ∈ rest ∨ Missed me tr p

def PhaseInv (me : Pid) (tr : List (Instances × Act)) (s : Instances) : Prop :=
  match s.phase me with
  | .listing => True
  | .terminating rest => Covers me tr s rest
  | .waiting p rest => me ≠ p ∧ Covers me tr s (p :: rest)
  | .failed => True
  | .ready => Covers me tr s []
  | .unforced => True

variable {s t : Instances} {a : Act} {tr : List (Instances × Act)} {me p : Pid}

@[simp] theorem phase_setPhase (phase : Phase) : (s.setPhase p phase).phase me =
    if me = p then phase else s.phase me := by
  simp only [setPhase, Function.update_apply]

@[simp] theorem alive_setPhase (phase : Phase) : (s.setPhase me phase).alive p = s.alive p := rfl

/-- An instance waits for the mutex or holds it. -/
def Past (s : System) (p : Pid) : Prop := s.main p = .polling ∨ s.Holds p

/-- A step moves one process, which it starts or which is alive. -/
theorem main_step {s t : System} {l : Label} (h : System.Step s l t) :
    ∃ q main, (s.main q ≠ .absent ∧ s.main q ≠ .ended ∨ ∃ wait, l = .start q wait) ∧
      (main = .polling ∨ main = .running ∨ main = .dropping →
        Past s q ∨ ∃ failed, l = .tryLock q failed) ∧
      ∀ p, t.main p = if p = q then main else s.main p := by
  have hof : ∀ {q : Pid}, s.main q = .starting ∨ s.main q = .polling →
      s.main q ≠ .absent ∧ s.main q ≠ .ended := by
    rintro q (hm | hm) <;> simp [hm]
  have hmain : ∀ (mutex : NamedMutex) (p q : Pid) (guards : Nat) (main : Main),
      (({ s with mutex } : System).setGuards q guards |>.setMain q main).main p =
        if p = q then main else s.main p := by
    intro mutex p q guards main
    rw [System.main_setMain, System.main_setGuards]
    rfl
  cases h with
  | start hm =>
    rename_i q wait
    refine ⟨q, .starting, .inr ⟨wait, rfl⟩, by simp, fun p => ?_⟩
    by_cases hp : p = q
    · subst hp
      simp [System.main]
    · simp [System.main, hp]
  | locked hm ho => exact ⟨_, _, .inl (hof hm), fun _ => .inr ⟨_, rfl⟩, fun p => hmain _ p _ _ _⟩
  | relocked hm ho =>
    exact ⟨_, _, .inl (hof hm), fun _ => .inr ⟨_, rfl⟩, fun p => hmain _ p _ _ _⟩
  | timedOut hm ho hne =>
    exact ⟨_, _, .inl (hof hm), fun _ => .inr ⟨_, rfl⟩, fun p => System.main_setMain _⟩
  | failed hm => exact ⟨_, _, .inl (hof hm), by simp, fun p => System.main_setMain _⟩
  | leaveRun hm =>
    exact ⟨_, _, .inl (by simp [hm]), fun _ => .inl (.inr (.inl hm)),
      fun p => System.main_setMain _⟩
  | dropGuard hm => exact ⟨_, _, .inl (by simp [hm]), by simp, fun p => hmain _ p _ _ _⟩
  | quit hm => exact ⟨_, _, .inl (hof hm), by simp, fun p => System.main_setMain _⟩
  | exit hm => exact ⟨_, _, .inl (by simp [hm]), by simp, fun p => hmain _ p _ _ _⟩
  | kill hm hm' => exact ⟨_, _, .inl ⟨hm, hm'⟩, by simp, fun p => hmain _ p _ _ _⟩

theorem alive_iff : s.alive p = true ↔ s.sys.main p ≠ .absent ∧ s.sys.main p ≠ .ended := by
  simp [alive]

/-- A process lives from its start on. -/
theorem alive_sys {sys : System} {l : Label} (h : s.sys.step l = some sys)
    (ha : ({ s with sys } : Instances).alive p = true) :
    s.alive p = true ∨ ∃ wait, l = .start p wait := by
  obtain ⟨q, main, hq, -, hmain⟩ := main_step (System.step_cases h)
  by_cases hp : p = q
  · subst hp
    rcases hq with hq | hq
    · exact .inl (alive_iff.mpr hq)
    · exact .inr hq
  · have hm := hmain p
    rw [if_neg hp] at hm
    rw [alive_iff] at ha ⊢
    exact .inl (hm ▸ ha)

/-- The cases of `step`. -/
inductive Step (s : Instances) : Act → Instances → Prop
  | sys {l : Label} {sys : System} (hp : s.permits l = true) (h : s.sys.step l = some sys) :
      Step s (.sys l) { s with sys }
  | unforced {me : Pid} (h : s.phase me = .listing) (hm : s.sys.main me = .starting) :
      Step s (.unforced me) (s.setPhase me .unforced)
  | findAllByName {me : Pid} {processes : List Pid} (h : s.phase me = .listing)
      (hm : s.sys.main me = .starting) :
      Step s (.findAllByName me processes) (s.setPhase me (next (processes.filter (· ≠ me))))
  | terminated {me p : Pid} {rest : List Pid} (h : s.phase me = .terminating (p :: rest))
      (hm : s.sys.main me = .starting) (he : s.sys.main p ≠ .ended) :
      Step s (.terminate me true true) (s.setPhase me (.waiting p rest))
  | failed {me p : Pid} {rest : List Pid} {opened killed : Bool}
      (h : s.phase me = .terminating (p :: rest)) (hm : s.sys.main me = .starting)
      (hf : ¬ (opened = true ∧ killed = true ∧ s.sys.main p ≠ .ended)) :
      Step s (.terminate me opened killed) (s.setPhase me .failed)
  | wait {me p : Pid} {rest : List Pid} {signaled : Bool} (h : s.phase me = .waiting p rest)
      (hm : s.sys.main me = .starting) (hs : signaled = true → s.alive p = false) :
      Step s (.wait me signaled) (s.setPhase me (next rest))

theorem step_cases (h : step s a = some t) : Step s a t := by
  cases a with
  | sys l =>
    simp only [step, Option.ite_none_right_eq_some, Option.map_eq_some_iff] at h
    obtain ⟨hp, sys, hs, rfl⟩ := h
    exact .sys hp hs
  | unforced me =>
    simp only [step, Option.ite_none_right_eq_some, Option.some.injEq] at h
    obtain ⟨⟨hp, hm⟩, rfl⟩ := h
    exact .unforced hp hm
  | findAllByName me processes =>
    simp only [step, Option.ite_none_right_eq_some, Option.some.injEq] at h
    obtain ⟨⟨hp, hm⟩, rfl⟩ := h
    exact .findAllByName hp hm
  | terminate me opened killed =>
    simp only [step] at h
    split at h
    · rename_i p rest hp
      simp only [Option.ite_none_right_eq_some, Option.some.injEq] at h
      obtain ⟨hm, rfl⟩ := h
      by_cases hk : opened = true ∧ killed = true ∧ s.sys.main p ≠ .ended
      · rw [if_pos hk]
        obtain ⟨rfl, rfl, he⟩ := hk
        exact .terminated hp hm he
      · rw [if_neg hk]
        exact .failed hp hm hk
    · cases h
  | wait me signaled =>
    simp only [step] at h
    split at h
    · rename_i p rest hp
      simp only [Option.ite_none_right_eq_some, Option.some.injEq] at h
      obtain ⟨⟨hm, hs⟩, rfl⟩ := h
      exact .wait hp hm hs
    · cases h

theorem alive_step (h : Step s a t) (ha : t.alive p = true) :
    s.alive p = true ∨ ∃ wait, a = .sys (.start p wait) := by
  cases h with
  | sys hp hs =>
    rcases alive_sys hs ha with ha | ⟨wait, rfl⟩
    · exact .inl ha
    · exact .inr ⟨wait, rfl⟩
  | _ => exact .inl ha

theorem Missed.concat (hM : Missed me tr p) (hne : ∀ ps, a ≠ .findAllByName me ps) :
    Missed me (tr ++ [(s, a)]) p := by
  rcases hM with hS | ⟨x, hx, hl⟩ | ⟨x, hx, hw⟩
  · refine .inl (since_concat.mpr (.inr ⟨?_, hS⟩))
    rintro ⟨ps, rfl⟩
    exact hne ps rfl
  · exact .inr (.inl ⟨x, List.mem_append_left _ hx, hl⟩)
  · exact .inr (.inr ⟨x, List.mem_append_left _ hx, hw⟩)

theorem Covers.concat {rest : List Pid} (hC : Covers me tr s rest) (h : Step s a t)
    (hne : ∀ ps, a ≠ .findAllByName me ps) : Covers me (tr ++ [(s, a)]) t rest := by
  refine ⟨hC.1, ?_⟩
  intro p hp ha
  rcases alive_step h ha with ha | ⟨wait, rfl⟩
  · exact (hC.2 p hp ha).imp_right fun hM => hM.concat hne
  · exact .inr (.inl (since_concat.mpr (.inl ⟨wait, rfl⟩)))

/-- A step that leaves an instance where it is in its loop. -/
theorem PhaseInv.concat (hP : PhaseInv me tr s) (h : Step s a t)
    (hne : ∀ ps, a ≠ .findAllByName me ps) (hph : t.phase me = s.phase me) :
    PhaseInv me (tr ++ [(s, a)]) t := by
  simp only [PhaseInv, hph] at hP ⊢
  cases hs : s.phase me with
  | listing => trivial
  | terminating rest =>
    rw [hs] at hP
    exact hP.concat h hne
  | waiting p rest =>
    rw [hs] at hP
    exact ⟨hP.1, hP.2.concat h hne⟩
  | failed => trivial
  | ready =>
    rw [hs] at hP
    exact hP.concat h hne
  | unforced => trivial

theorem phaseInv_next {rest : List Pid} (hC : Covers me tr t rest)
    (hph : t.phase me = next rest) : PhaseInv me tr t := by
  cases rest with
  | nil =>
    simp only [PhaseInv, hph, next]
    exact hC
  | cons p rest =>
    simp only [PhaseInv, hph, next]
    exact hC

theorem phaseInv_step (hP : PhaseInv me tr s) (h : Step s a t) :
    PhaseInv me (tr ++ [(s, a)]) t := by
  have h' := h
  cases h with
  | sys hp hs => exact hP.concat h' (by simp) rfl
  | unforced hph hm =>
    rename_i q
    by_cases hq : me = q
    · simp [PhaseInv, hq]
    · exact hP.concat h' (by simp) (by simp [hq])
  | findAllByName hph hm =>
    rename_i q processes
    by_cases hq : me = q
    · subst hq
      have hnext : (s.setPhase me (next (processes.filter (· ≠ me)))).phase me =
          next (processes.filter (· ≠ me)) := by simp only [phase_setPhase, if_true]
      refine phaseInv_next ⟨by simp, ?_⟩ hnext
      intro p hp ha
      by_cases hmem : p ∈ processes
      · exact .inl (List.mem_filter.mpr ⟨hmem, by simpa using hp⟩)
      · exact .inr (.inr (.inl ⟨_, List.mem_concat_self .., processes, rfl, ha, hmem⟩))
    · exact hP.concat h' (by simp [Ne.symm hq]) (by simp [hq])
  | terminated hph hm he =>
    rename_i q p rest
    by_cases hq : me = q
    · subst hq
      simp only [PhaseInv, hph] at hP
      have hC := hP.concat h' (by simp)
      simp only [PhaseInv, phase_setPhase, if_true]
      refine ⟨?_, hC⟩
      rintro rfl
      exact hP.1 List.mem_cons_self
    · exact hP.concat h' (by simp) (by simp [hq])
  | failed hph hm hf =>
    rename_i q p rest opened killed
    by_cases hq : me = q
    · simp [PhaseInv, hq]
    · exact hP.concat h' (by simp) (by simp [hq])
  | wait hph hm hs =>
    rename_i q p rest signaled
    by_cases hq : me = q
    · subst hq
      simp only [PhaseInv, hph] at hP
      have hC := hP.2.concat h' (by simp)
      refine phaseInv_next ⟨fun hmem => hC.1 (List.mem_cons_of_mem _ hmem), ?_⟩
        (by simp only [phase_setPhase, if_true])
      intro r hr ha
      rcases hC.2 r hr ha with hmem | hM
      · rcases List.mem_cons.mp hmem with rfl | hmem
        · cases signaled with
          | true =>
            have hd := hs rfl
            rw [alive_setPhase] at ha
            exact absurd (ha.symm.trans hd) (by simp)
          | false =>
            have hmem : (s, Act.wait me false) ∈ tr ++ [(s, .wait me false)] := by simp
            exact .inr (.inr (.inr ⟨_, hmem, rfl, rest, hph⟩))
        · exact .inl hmem
      · exact .inr hM
    · exact hP.concat h' (by simp) (by simp [hq])

theorem past_step {s t : System} {l : Label} (h : System.Step s l t) (hp : Past t p) :
    Past s p ∨ ∃ failed, l = .tryLock p failed := by
  obtain ⟨q, main, -, hq, hmain⟩ := main_step h
  have hm := hmain p
  by_cases hpq : p = q
  · subst hpq
    rw [if_pos rfl] at hm
    apply hq
    simpa only [Past, System.Holds, hm] using hp
  · left
    rw [if_neg hpq] at hm
    simpa only [Past, System.Holds, hm] using hp

/-- Only an instance that has terminated the other ones, or need not, tries the mutex. -/
def Permitted (s : Instances) : Prop :=
  ∀ p, Past s.sys p → s.phase p = .ready ∨ s.phase p = .unforced

theorem not_past_of_starting (hm : s.sys.main me = .starting) : ¬ Past s.sys me := by
  simp [Past, System.Holds, hm]

/-- An instance that is still in its loop goes on in it. -/
theorem Permitted.setPhase (hP : Permitted s) (hm : s.sys.main me = .starting) (phase : Phase) :
    Permitted (s.setPhase me phase) := by
  intro p hp
  have hne : p ≠ me := by
    rintro rfl
    exact not_past_of_starting hm hp
  simpa [hne] using hP p hp

theorem permitted_step (hP : Permitted s) (h : Step s a t) : Permitted t := by
  cases h with
  | sys hp hs =>
    intro p hpast
    rcases past_step (System.step_cases hs) hpast with hpast | ⟨failed, rfl⟩
    · exact hP p hpast
    · simpa [permits] using hp
  | unforced hph hm => exact hP.setPhase hm _
  | findAllByName hph hm => exact hP.setPhase hm _
  | terminated hph hm he => exact hP.setPhase hm _
  | failed hph hm hf => exact hP.setPhase hm _
  | wait hph hm hs => exact hP.setPhase hm _

theorem failed_step (h : Step s a t) :
    t.phase me = .failed ↔ s.phase me = .failed ∨ Fails me s a := by
  cases h with
  | sys hp hs => simp [Fails]
  | unforced hph hm =>
    rename_i q
    by_cases hq : me = q
    · subst hq
      simp [Fails, hph]
    · simp [Fails, hq]
  | findAllByName hph hm =>
    rename_i q processes
    by_cases hq : me = q
    · subst hq
      cases hf : processes.filter (· ≠ me) <;> simp [Fails, hph, next]
    · simp [Fails, hq]
  | terminated hph hm he =>
    rename_i q p rest
    by_cases hq : me = q
    · subst hq
      simp [Fails, hph, he]
    · simp [Fails, hq, Ne.symm hq]
  | failed hph hm hf =>
    rename_i q p rest opened killed
    by_cases hq : me = q
    · subst hq
      simp only [phase_setPhase, if_true, true_iff]
      exact .inr ⟨opened, killed, p, rest, rfl, hph, hf⟩
    · simp [Fails, hq, Ne.symm hq]
  | wait hph hm hs =>
    rename_i q p rest signaled
    by_cases hq : me = q
    · subst hq
      cases rest <;> simp [Fails, hph, next]
    · simp [Fails, hq]

theorem inv_sys (h : Trace step initial tr s) : System.Inv s.sys := by
  refine h.invariant (P := fun s => System.Inv s.sys) System.inv_initial ?_
  intro s a t hI hs
  cases step_cases hs with
  | sys _ hsys => exact System.inv_step hI (System.step_cases hsys)
  | _ => exact hI

/-- A `try_lock` that times out has another owner. -/
theorem owner_of_timeout {m : NamedMutex} (h : (m.tryLock me false).2 = some false) :
    ∃ p, m.owner = some p ∧ p ≠ me := by
  cases ho : m.owner with
  | none => cases ha : m.abandoned <;> simp [NamedMutex.tryLock, NamedMutex.wait, ho, ha] at h
  | some p =>
    refine ⟨p, rfl, ?_⟩
    rintro rfl
    simp [NamedMutex.tryLock, NamedMutex.wait, ho] at h

theorem phaseInv_trace (h : Trace step initial tr s) (me : Pid) :
    Permitted s ∧ PhaseInv me tr s := by
  induction h with
  | refl =>
    refine ⟨?_, trivial⟩
    intro p hp
    simp [Past, System.Holds, initial, System.initial, System.main] at hp
  | snoc _ hs ih =>
    obtain ⟨hR, hP⟩ := ih
    have hs := step_cases hs
    exact ⟨permitted_step hR hs, phaseInv_step hP hs⟩

theorem alive_of_owner (hI : System.Inv s.sys) (ho : s.sys.mutex.owner = some p) :
    s.alive p = true := by
  rcases (hI.owner p).mp ho with hm | hm <;> simp [alive, hm]

theorem self_trace (h : Trace step initial tr s) (me : Pid) :
    ∀ x ∈ tr, ∀ rest, x.1.phase me ≠ .terminating (me :: rest) := by
  induction h with
  | refl => simp
  | @snoc tr u t a h _ ih =>
    intro x hx rest hph
    rcases List.mem_append.mp hx with hx | hx
    · exact ih x hx rest hph
    · obtain rfl := List.mem_singleton.mp hx
      have hph : u.phase me = .terminating (me :: rest) := hph
      obtain ⟨-, hP⟩ := phaseInv_trace h me
      simp only [PhaseInv, hph] at hP
      exact hP.1 List.mem_cons_self

theorem failed_trace (h : Trace step initial tr s) (me : Pid) :
    s.phase me = .failed ↔ ∃ x ∈ tr, Fails me x.1 x.2 := by
  induction h with
  | refl => simp [initial]
  | snoc _ hs ih =>
    rw [failed_step (step_cases hs), ih]
    simp [or_and_right, exists_or]

/-- The second instance terminates the first one, which holds the mutex, and is done before that
has ended. -/
def forcing : List Act :=
  [.sys (.start 0 false), .unforced 0, .sys (.tryLock 0 false), .sys (.start 1 false),
    .findAllByName 1 [0, 1], .terminate 1 true true, .wait 1 false]

example : ((after step initial forcing).sys.mutex.tryLock 1 false).2 = some false := by decide

end Instances

end BurntSushi.Singleton
