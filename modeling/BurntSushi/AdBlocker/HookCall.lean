import BurntSushi.Lts
import BurntSushi.AdBlocker.Hook

/-! One call of `hook_spotify`, from any state, while processes exit at any time. -/
namespace BurntSushi.AdBlocker

open Lts
open Client (FilterConfig)
open Scanner (OwnedProcess)

inductive CallPc where
  | unhooking (state : HookState) (pc : UnhookPc)
  | hooking (pc : HookPc)
  | returned (res : Except AppError Unit)
  | panicked

/-- `state` is the `SpotifyHookState` that the call borrows. -/
structure HookCall where
  pc : CallPc
  state : SpotifyHookState
  processes : Processes

namespace HookCall

inductive Label where
  | call (c : Call)
  | exit (process : OwnedProcess)

/-- The entry of `hook_spotify`. -/
def start (state : SpotifyHookState) (processes : Processes) : HookCall :=
  match state with
  | .hooked st => ⟨.unhooking st .lookupStop, .unhooked, processes⟩
  | .unhooked => ⟨.hooking .findPrevious, .unhooked, processes⟩

def step (p : OwnedProcess) (s : HookCall) : Label → Option HookCall
  | .call c =>
    match s.pc with
    | .unhooking st pc =>
      (unhookStep st s.processes pc c).map fun (processes, next) =>
        match next with
        | .next pc => { s with processes, pc := .unhooking st pc }
        | .done _ => { s with processes, state := .unhooked, pc := .hooking .findPrevious }
        | .panic => { s with processes, pc := .panicked }
    | .hooking pc =>
      (hookStep p s.processes pc c).map fun (processes, next) =>
        match next with
        | .next pc => { s with processes, pc := .hooking pc }
        | .ok st => { s with processes, state := .hooked st, pc := .returned (.ok ()) }
        | .err e => { s with processes, pc := .returned (.error e) }
        | .panic => { s with processes, pc := .panicked }
    | _ => none
  | .exit process =>
    some { s with
      processes := Function.update s.processes process
        { s.processes process with alive := false } }

/-- The cases of `step`. -/
inductive Step (p : OwnedProcess) (s : HookCall) : Label → HookCall → Prop
  | unhooking {st : HookState} {pc pc' : UnhookPc} {c : Call} {ps : Processes}
      (h : s.pc = .unhooking st pc)
      (hs : unhookStep st s.processes pc c = some (ps, .next pc')) :
      Step p s (.call c) { s with processes := ps, pc := .unhooking st pc' }
  | unhooked {st : HookState} {pc : UnhookPc} {c : Call} {ps : Processes}
      {res : Except SyringeError Unit} (h : s.pc = .unhooking st pc)
      (hs : unhookStep st s.processes pc c = some (ps, .done res)) :
      Step p s (.call c)
        { s with processes := ps, state := .unhooked, pc := .hooking .findPrevious }
  | unhookPanicked {st : HookState} {pc : UnhookPc} {c : Call} {ps : Processes}
      (h : s.pc = .unhooking st pc) (hs : unhookStep st s.processes pc c = some (ps, .panic)) :
      Step p s (.call c) { s with processes := ps, pc := .panicked }
  | hooking {pc pc' : HookPc} {c : Call} {ps : Processes} (h : s.pc = .hooking pc)
      (hs : HookStep p s.processes pc c ps (.next pc')) :
      Step p s (.call c) { s with processes := ps, pc := .hooking pc' }
  | ok {pc : HookPc} {c : Call} {ps : Processes} {st : HookState} (h : s.pc = .hooking pc)
      (hs : HookStep p s.processes pc c ps (.ok st)) :
      Step p s (.call c)
        { s with processes := ps, state := .hooked st, pc := .returned (.ok ()) }
  | err {pc : HookPc} {c : Call} {ps : Processes} {e : AppError} (h : s.pc = .hooking pc)
      (hs : HookStep p s.processes pc c ps (.err e)) :
      Step p s (.call c) { s with processes := ps, pc := .returned (.error e) }
  | hookPanicked {pc : HookPc} {c : Call} {ps : Processes} (h : s.pc = .hooking pc)
      (hs : HookStep p s.processes pc c ps .panic) :
      Step p s (.call c) { s with processes := ps, pc := .panicked }
  | exit {process : OwnedProcess} :
      Step p s (.exit process)
        { s with
          processes := Function.update s.processes process
            { s.processes process with alive := false } }

variable {p : OwnedProcess} {s t : HookCall} {l : Label} {state : SpotifyHookState}
  {ps : Processes} {tr : List (HookCall × Label)}

theorem step_cases (h : step p s l = some t) : Step p s l t := by
  cases l with
  | exit process =>
    obtain rfl := Option.some.inj h
    exact .exit
  | call c =>
    simp only [step] at h
    split at h
    · obtain ⟨⟨ps, next⟩, hs, rfl⟩ := Option.map_eq_some_iff.mp h
      cases next with
      | next pc => exact .unhooking (by assumption) hs
      | done res => exact .unhooked (by assumption) hs
      | panic => exact .unhookPanicked (by assumption) hs
    · obtain ⟨⟨ps, next⟩, hs, rfl⟩ := Option.map_eq_some_iff.mp h
      cases next with
      | next pc => exact .hooking (by assumption) (hookStep_cases hs)
      | ok st => exact .ok (by assumption) (hookStep_cases hs)
      | err e => exact .err (by assumption) (hookStep_cases hs)
      | panic => exact .hookPanicked (by assumption) (hookStep_cases hs)
    · simp at h

theorem Step.hookStep {c : Call} {pc : HookPc} (h : Step p s (.call c) t)
    (hpc : s.pc = .hooking pc) : ∃ next, HookStep p s.processes pc c t.processes next := by
  cases h with
  | unhooking h hs => cases hpc.symm.trans h
  | unhooked h hs => cases hpc.symm.trans h
  | unhookPanicked h hs => cases hpc.symm.trans h
  | hooking h hs => exact ⟨_, CallPc.hooking.inj (hpc.symm.trans h) ▸ hs⟩
  | ok h hs => exact ⟨_, CallPc.hooking.inj (hpc.symm.trans h) ▸ hs⟩
  | err h hs => exact ⟨_, CallPc.hooking.inj (hpc.symm.trans h) ▸ hs⟩
  | hookPanicked h hs => exact ⟨_, CallPc.hooking.inj (hpc.symm.trans h) ▸ hs⟩

/-- The step injects a payload. -/
def Injects (payload : Path) (s : HookCall) (l : Label) : Prop :=
  ∃ filterConfig, s.pc = .hooking (.inject filterConfig payload) ∧ l = .call (.inject (.ok ()))

/-- A look-up of `start_rpc` finds it. -/
def FindsStartRpc (s : HookCall) (l : Label) : Prop :=
  ∀ filterConfig payload res, s.pc = .hooking (.lookupStart filterConfig payload) →
    l = .call (.getPayloadProcedure res) → res = .ok true

/-- The payloads that were injected on the way and are still loaded. -/
def LeftLoaded (p : OwnedProcess) (tr : List (HookCall × Label)) (s : HookCall) : Prop :=
  ∃ payload, (∃ x ∈ tr, Injects payload x.1 x.2) ∧ s.processes.Loaded p payload

/-- Nothing has been injected yet. -/
def NoneInjected (tr : List (HookCall × Label)) : Prop :=
  ∀ payload, ∀ x ∈ tr, ¬ Injects payload x.1 x.2

/-- What the calls so far have done, by where `hook_spotify` is. -/
def Inv (p : OwnedProcess) (tr : List (HookCall × Label)) (s : HookCall) : Prop :=
  match s.pc with
  | .unhooking _ _ => s.state = .unhooked ∧ NoneInjected tr ∧ Along FindsStartRpc tr
  | .hooking pc => s.state = .unhooked ∧ Along FindsStartRpc tr ∧
    match pc.injected with
    | none => NoneInjected tr
    | some payload =>
      (∃ x ∈ tr, Injects payload x.1 x.2) ∧ payload ∈ (s.processes p).modules
  | .returned (.error _) => s.state = .unhooked ∧
    (NoneInjected tr ∧ Along FindsStartRpc tr ∨
      ¬ Along FindsStartRpc tr ∧
        ∃ payload, (∃ x ∈ tr, Injects payload x.1 x.2) ∧ payload ∈ (s.processes p).modules)
  | _ => True

theorem noneInjected_concat : NoneInjected (tr ++ [(s, l)]) ↔
    NoneInjected tr ∧ ∀ payload, ¬ Injects payload s l := by
  simp only [NoneInjected, List.mem_append, List.mem_singleton]
  constructor
  · intro h
    constructor
    · intro payload x hx
      exact h payload x (.inl hx)
    · intro payload
      exact h payload (s, l) (.inr rfl)
  · rintro ⟨h, hl⟩ payload x (hx | rfl)
    · exact h payload x hx
    · exact hl payload

theorem injects_of_mem {payload : Path} (h : ∃ x ∈ tr, Injects payload x.1 x.2) :
    ∃ x ∈ tr ++ [(s, l)], Injects payload x.1 x.2 := by
  obtain ⟨x, hx, hi⟩ := h
  exact ⟨x, List.mem_append_left _ hx, hi⟩

theorem findsStartRpc_next {pc pc' : HookPc} {c : Call} {ps' : Processes}
    (hpc : s.pc = .hooking pc) (h : HookStep p ps pc c ps' (.next pc')) :
    FindsStartRpc s (.call c) := by
  rintro filterConfig payload res he hl
  obtain rfl := CallPc.hooking.inj (hpc.symm.trans he)
  obtain rfl := Label.call.inj hl
  cases h with
  | lookupStart => rfl

theorem not_injects_of_ne {pc : HookPc} (hpc : s.pc = .hooking pc)
    (h : ∀ filterConfig payload, pc ≠ .inject filterConfig payload) (payload : Path) :
    ¬ Injects payload s l := by
  rintro ⟨filterConfig, he, -⟩
  exact h filterConfig payload (CallPc.hooking.inj (hpc.symm.trans he))

/-- While the call unhooks, it neither injects nor looks for `start_rpc`. -/
theorem unhooking_concat {st : HookState} {pc : UnhookPc} (hpc : s.pc = .unhooking st pc)
    (l : Label) (hN : NoneInjected tr) (hA : Along FindsStartRpc tr) :
    NoneInjected (tr ++ [(s, l)]) ∧ Along FindsStartRpc (tr ++ [(s, l)]) := by
  constructor
  · refine noneInjected_concat.mpr ⟨hN, ?_⟩
    rintro payload ⟨filterConfig, he, -⟩
    simp [hpc] at he
  · refine along_concat.mpr ⟨hA, ?_⟩
    intro filterConfig payload res he
    simp [hpc] at he

theorem modules_exit (ps : Processes) (process p : OwnedProcess) :
    (Function.update ps process { ps process with alive := false } p).modules = (ps p).modules := by
  by_cases hp : p = process
  · subst hp
    simp
  · simp [Function.update_of_ne hp]

theorem inv_exit (process : OwnedProcess) (hI : Inv p tr s) :
    Inv p (tr ++ [(s, .exit process)])
      { s with
        processes := Function.update s.processes process
          { s.processes process with alive := false } } := by
  have hn : ∀ payload, ¬ Injects payload s (.exit process) := by
    rintro payload ⟨filterConfig, -, hl⟩
    simp at hl
  have hF : FindsStartRpc s (.exit process) := by
    intro filterConfig payload res _ hl
    simp at hl
  have hN' : NoneInjected tr → NoneInjected (tr ++ [(s, .exit process)]) := by
    intro hN
    exact noneInjected_concat.mpr ⟨hN, hn⟩
  have hA' : Along FindsStartRpc tr → Along FindsStartRpc (tr ++ [(s, .exit process)]) := by
    intro hA
    exact along_concat.mpr ⟨hA, hF⟩
  simp only [Inv] at hI ⊢
  cases hpc : s.pc with
  | unhooking st pc =>
    rw [hpc] at hI
    obtain ⟨hst, hN, hA⟩ := hI
    exact ⟨hst, hN' hN, hA' hA⟩
  | hooking pc =>
    rw [hpc] at hI
    obtain ⟨hst, hA, hinj⟩ := hI
    refine ⟨hst, hA' hA, ?_⟩
    cases hp : pc.injected with
    | none =>
      rw [hp] at hinj
      exact hN' hinj
    | some payload =>
      rw [hp] at hinj
      obtain ⟨hx, hm⟩ := hinj
      exact ⟨injects_of_mem hx, by simpa [modules_exit] using hm⟩
  | returned res =>
    cases res with
    | ok u => trivial
    | error e =>
      rw [hpc] at hI
      obtain ⟨hst, ⟨hN, hA⟩ | ⟨hA, payload, hx, hm⟩⟩ := hI
      · exact ⟨hst, .inl ⟨hN' hN, hA' hA⟩⟩
      · refine ⟨hst, .inr ⟨?_, payload, injects_of_mem hx, ?_⟩⟩
        · intro h
          exact hA (along_append.mp h).1
        · simpa [modules_exit] using hm
  | panicked => trivial

theorem inv_hooking {pc pc' : HookPc} {c : Call} (hI : Inv p tr s) (h : s.pc = .hooking pc)
    (hs : HookStep p s.processes pc c ps (.next pc')) :
    Inv p (tr ++ [(s, .call c)]) { s with processes := ps, pc := .hooking pc' } := by
  simp only [Inv, h] at hI
  obtain ⟨hst, hA, hinj⟩ := hI
  have hA' := along_concat.mpr ⟨hA, findsStartRpc_next h hs⟩
  refine ⟨hst, hA', ?_⟩
  rcases hookStep_injected hs with ⟨filterConfig, payload, rfl, rfl, rfl, he⟩ | ⟨hn, he, hps⟩
  · rw [he]
    refine ⟨⟨(s, _), by simp, filterConfig, h, rfl⟩, ?_⟩
    simp [Processes.inject, TargetProcess.inject]
  · rw [he]
    cases hp : pc.injected with
    | none =>
      rw [hp] at hinj
      exact noneInjected_concat.mpr ⟨hinj, not_injects_of_ne h hn⟩
    | some payload =>
      rw [hp] at hinj
      have hsame := hps.resolve_right (by simp [hp])
      subst hsame
      exact ⟨injects_of_mem hinj.1, hinj.2⟩

/-- An error before the injection, or after it because `start_rpc` is not found. -/
theorem inv_err {pc : HookPc} {c : Call} {e : AppError} (hI : Inv p tr s)
    (h : s.pc = .hooking pc) (hs : HookStep p s.processes pc c ps (.err e)) :
    Inv p (tr ++ [(s, .call c)]) { s with processes := ps, pc := .returned (.error e) } := by
  simp only [Inv, h] at hI
  obtain ⟨hst, hA, hinj⟩ := hI
  refine ⟨hst, ?_⟩
  obtain ⟨rfl, ⟨hn, hc⟩ | ⟨filterConfig, payload, res, rfl, rfl, hr⟩⟩ := hookStep_err hs
  · rw [hn] at hinj
    have hnot : ∀ payload, ¬ Injects payload s (.call c) := by
      rintro payload ⟨filterConfig, -, hl⟩
      exact hc (Label.call.inj hl)
    have hfinds : FindsStartRpc s (.call c) := by
      intro filterConfig payload res he
      obtain rfl := CallPc.hooking.inj (h.symm.trans he)
      simp [HookPc.injected] at hn
    exact .inl ⟨noneInjected_concat.mpr ⟨hinj, hnot⟩, along_concat.mpr ⟨hA, hfinds⟩⟩
  · have hmissed : ¬ Along FindsStartRpc (tr ++ [(s, .call (.getPayloadProcedure res))]) := by
      intro hA
      have hfinds : FindsStartRpc s (.call (.getPayloadProcedure res)) := (along_concat.mp hA).2
      exact hr (hfinds filterConfig payload res h rfl)
    exact .inr ⟨hmissed, payload, injects_of_mem hinj.1, hinj.2⟩

theorem inv_step (hI : Inv p tr s) (h : Step p s l t) : Inv p (tr ++ [(s, l)]) t := by
  cases h with
  | unhooking h hs =>
    simp only [Inv, h] at hI
    obtain ⟨hst, hN, hA⟩ := hI
    obtain ⟨hN', hA'⟩ := unhooking_concat h (.call _) hN hA
    exact ⟨hst, hN', hA'⟩
  | unhooked h hs =>
    simp only [Inv, h] at hI
    obtain ⟨-, hN, hA⟩ := hI
    obtain ⟨hN', hA'⟩ := unhooking_concat h (.call _) hN hA
    exact ⟨rfl, hA', hN'⟩
  | unhookPanicked h hs => trivial
  | hooking h hs => exact inv_hooking hI h hs
  | ok h hs => trivial
  | err h hs => exact inv_err hI h hs
  | hookPanicked h hs => trivial
  | exit => exact inv_exit _ hI

theorem inv_start (state : SpotifyHookState) (ps : Processes) : Inv p [] (start state ps) := by
  cases state with
  | hooked st => exact ⟨rfl, by simp [NoneInjected], along_nil⟩
  | unhooked => exact ⟨rfl, along_nil, by simp [HookPc.injected, NoneInjected]⟩

theorem inv_trace (h : Trace (step p) (start state ps) tr s) : Inv p tr s := by
  induction h with
  | refl => exact inv_start state ps
  | snoc _ hs ih => exact inv_step ih (step_cases hs)

/-- When `hook_spotify` has returned an error, the state is unhooked, and what the call has
injected is gone exactly if looking up `start_rpc` was not what failed, or the process has
exited. -/
theorem hook_err_iff (h : Trace (step p) (start state ps) tr s) {e : AppError}
    (he : s.pc = .returned (.error e)) :
    (s.state = .unhooked ∧ ¬ LeftLoaded p tr s) ↔
      (Along FindsStartRpc tr ∨ (s.processes p).alive = false) := by
  have hI := inv_trace h
  simp only [Inv, he] at hI
  obtain ⟨hst, ⟨hN, hA⟩ | ⟨hA, payload, hx, hm⟩⟩ := hI
  · have hnone : ¬ LeftLoaded p tr s := by
      rintro ⟨payload, ⟨x, hx, hi⟩, -⟩
      exact hN payload x hx hi
    exact iff_of_true ⟨hst, hnone⟩ (.inl hA)
  · constructor
    · rintro ⟨-, hl⟩
      right
      rw [Bool.eq_false_iff]
      intro ha
      exact hl ⟨payload, hx, ha, hm⟩
    · rintro (hA' | ha)
      · exact absurd hA' hA
      · refine ⟨hst, ?_⟩
        rintro ⟨_, -, ha', -⟩
        simp [ha] at ha'

/-- The calls of `hook_spotify` before the injection, in a process without a blocker. -/
def callsBeforeInject : List Label :=
  [.call (.findModuleByName (.ok ())), .call (.resolveFilterConfig (.ok ⟨[], []⟩)),
    .call (.resolveBlocker (.ok ⟨"Temp", defaultBlockerFileName⟩))]

def noModules : Processes := fun _ => ⟨true, []⟩

/-- The run of the sample whose look-up of `start_rpc` has the given result. -/
def lookupRun (res : Except SyringeError Bool) : List Label :=
  callsBeforeInject ++ [.call (.inject (.ok ())), .call (.getPayloadProcedure res)]

theorem hook_err_iff_noStartRpc :
    let tr := trail (step 0) (start .unhooked noModules) (lookupRun (.ok false))
    let s := after (step 0) (start .unhooked noModules) (lookupRun (.ok false))
    (s.state = .unhooked ∧ ¬ LeftLoaded 0 tr s) ↔
      (Along FindsStartRpc tr ∨ (s.processes 0).alive = false) :=
  hook_err_iff (trace_after rfl) (e := ⟨"Failed to find start_rpc in blocker module.", none⟩) rfl

/-- Without `start_rpc` in the module, the call fails and leaves it loaded. -/
theorem hook_err_leaves_module :
    let tr := trail (step 0) (start .unhooked noModules) (lookupRun (.ok false))
    let s := after (step 0) (start .unhooked noModules) (lookupRun (.ok false))
    Trace (step 0) (start .unhooked noModules) tr s ∧
      s.pc = .returned (.error ⟨"Failed to find start_rpc in blocker module.", none⟩) ∧
      LeftLoaded 0 tr s := by
  refine ⟨trace_after rfl, rfl, ⟨"Temp", defaultBlockerFileName⟩, ?_, rfl, by decide⟩
  have hrun : run (step 0) (start .unhooked noModules) callsBeforeInject = some _ := rfl
  exact ⟨_, mem_trail_append hrun rfl, ⟨[], []⟩, rfl, rfl⟩

end HookCall

end BurntSushi.AdBlocker
