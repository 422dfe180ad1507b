import BurntSushi.AdBlocker.HookCall
import BurntSushi.Resolver.Blocker

/-! Instances of the application that run one after another with the same `--blocker`, and the
blockers they leave in the processes they inject into. -/
namespace BurntSushi.AdBlocker

open Lts
open Scanner (OwnedProcess)
open Resolver (Embedded ResolveEnv resolveBlocker resolveBlocker_eq_ok)

/-- What `find_module_by_name` takes for the default file name. -/
def hasDefaultName (path : Path) : Bool :=
  asciiLowercase path.fileName.toList = asciiLowercase defaultBlockerFileName.toList

/-- The paths that a blocker can be injected from. -/
def isBlocker (provided : Option Path) (path : Path) : Bool :=
  provided = some path || hasDefaultName path

/-- The loads of blocker modules; a module is there once for each of its loads. -/
def TargetProcess.blockers (provided : Option Path) (p : TargetProcess) : List Path :=
  p.modules.filter (isBlocker provided)

/-- The loads of blocker modules under another file name than the default one. -/
def TargetProcess.renamed (provided : Option Path) (p : TargetProcess) : List Path :=
  p.modules.filter fun path => isBlocker provided path && !hasDefaultName path

/-- What the instance that runs is doing with Spotify. -/
inductive Phase where
  | absent
  | idle (state : SpotifyHookState)
  | hooking (p : OwnedProcess) (pc : CallPc)
  | unhooking (state : HookState) (pc : UnhookPc)

structure Instances where
  phase : Phase
  fs : Fs
  processes : Processes

namespace Instances

inductive Label where
  | start
  | hookSpotify (p : OwnedProcess)
  | unhookSpotify
  | call (c : Call)
  | resolveBlocker (env : ResolveEnv)
  | kill
  | exit (process : OwnedProcess)

def initial (fs : Fs) (processes : Processes) : Instances := ⟨.absent, fs, processes⟩

/-- Where an instance is after a step of `hook_spotify`; an error or a panic ends it. -/
def settle (p : OwnedProcess) (call : HookCall) : Phase :=
  match call.pc with
  | .returned (.ok ()) => .idle call.state
  | .returned (.error _) => .absent
  | .panicked => .absent
  | pc => .hooking p pc

/-- The next call of the handler in progress. -/
def advance (s : Instances) (c : Call) : Option Instances :=
  match s.phase with
  | .hooking p pc =>
    (HookCall.step p ⟨pc, .unhooked, s.processes⟩ (.call c)).map fun call =>
      { s with phase := settle p call, processes := call.processes }
  | .unhooking state pc =>
    (unhookStep state s.processes pc c).map fun (processes, next) =>
      match next with
      | .next pc => { s with processes, phase := .unhooking state pc }
      | .done _ => { s with processes, phase := .idle .unhooked }
      | .panic => { s with processes, phase := .absent }
  | _ => none

def step (build : Embedded) (provided : Option Path) (s : Instances) : Label → Option Instances
  | .start =>
    match s.phase with
    | .absent => some { s with phase := .idle .unhooked }
    | _ => none
  | .hookSpotify p =>
    match s.phase with
    | .idle state => some { s with phase := .hooking p (HookCall.start state s.processes).pc }
    | _ => none
  | .unhookSpotify =>
    match s.phase with
    | .idle (.hooked state) => some { s with phase := .unhooking state .lookupStop }
    | .idle .unhooked => some s
    | _ => none
  | .call (.resolveBlocker _) => none
  | .call c => s.advance c
  | .resolveBlocker env =>
    let (fs, res) := resolveBlocker build provided env s.fs
    { s with fs }.advance (.resolveBlocker res)
  | .kill =>
    match s.phase with
    | .absent => none
    | _ => some { s with phase := .absent }
  | .exit process =>
    some { s with
      processes := Function.update s.processes process
        { s.processes process with alive := false } }

/-- The cases of `advance`. -/
inductive Advance (s : Instances) (c : Call) : Instances → Prop
  | hooking {p : OwnedProcess} {pc : CallPc} {call : HookCall} (h : s.phase = .hooking p pc)
      (hs : HookCall.Step p ⟨pc, .unhooked, s.processes⟩ (.call c) call) :
      Advance s c { s with phase := settle p call, processes := call.processes }
  | unhooking {state : HookState} {pc pc' : UnhookPc} {processes : Processes}
      (h : s.phase = .unhooking state pc)
      (hs : unhookStep state s.processes pc c = some (processes, .next pc')) :
      Advance s c { s with processes, phase := .unhooking state pc' }
  | unhooked {state : HookState} {pc : UnhookPc} {processes : Processes}
      {res : Except SyringeError Unit} (h : s.phase = .unhooking state pc)
      (hs : unhookStep state s.processes pc c = some (processes, .done res)) :
      Advance s c { s with processes, phase := .idle .unhooked }
  | unhookPanicked {state : HookState} {pc : UnhookPc} {processes : Processes}
      (h : s.phase = .unhooking state pc)
      (hs : unhookStep state s.processes pc c = some (processes, .panic)) :
      Advance s c { s with processes, phase := .absent }

/-- The cases of `step`. -/
inductive Step (build : Embedded) (provided : Option Path) (s : Instances) :
    Label → Instances → Prop
  | start (h : s.phase = .absent) :
      Step build provided s .start { s with phase := .idle .unhooked }
  | hookSpotify {p : OwnedProcess} {state : SpotifyHookState} (h : s.phase = .idle state) :
      Step build provided s (.hookSpotify p)
        { s with phase := .hooking p (HookCall.start state s.processes).pc }
  | unhookSpotify {state : HookState} (h : s.phase = .idle (.hooked state)) :
      Step build provided s .unhookSpotify { s with phase := .unhooking state .lookupStop }
  | unhookNothing (h : s.phase = .idle .unhooked) : Step build provided s .unhookSpotify s
  | call {c : Call} {t : Instances} (hc : ∀ res, c ≠ .resolveBlocker res) (h : Advance s c t) :
      Step build provided s (.call c) t
  | resolveBlocker {env : ResolveEnv} {fs : Fs} {res : Except String Path} {t : Instances}
      (hres : resolveBlocker build provided env s.fs = (fs, res))
      (h : Advance { s with fs } (.resolveBlocker res) t) :
      Step build provided s (.resolveBlocker env) t
  | kill (h : s.phase ≠ .absent) : Step build provided s .kill { s with phase := .absent }
  | exit {process : OwnedProcess} :
      Step build provided s (.exit process)
        { s with
          processes := Function.update s.processes process
            { s.processes process with alive := false } }

theorem advance_cases {s t : Instances} {c : Call} (h : s.advance c = some t) :
    Advance s c t := by
  simp only [advance] at h
  split at h
  · obtain ⟨call, hs, rfl⟩ := Option.map_eq_some_iff.mp h
    exact .hooking (by assumption) (HookCall.step_cases hs)
  · obtain ⟨⟨processes, next⟩, hs, rfl⟩ := Option.map_eq_some_iff.mp h
    cases next with
    | next pc => exact .unhooking (by assumption) hs
    | done res => exact .unhooked (by assumption) hs
    | panic => exact .unhookPanicked (by assumption) hs
  · cases h

theorem step_cases {build : Embedded} {provided : Option Path} {s t : Instances} {l : Label}
    (h : step build provided s l = some t) : Step build provided s l t := by
  cases l with
  | start =>
    simp only [step] at h
    split at h
    · obtain rfl := Option.some.inj h
      exact .start (by assumption)
    · cases h
  | hookSpotify p =>
    simp only [step] at h
    split at h
    · obtain rfl := Option.some.inj h
      exact .hookSpotify (by assumption)
    · cases h
  | unhookSpotify =>
    simp only [step] at h
    split at h
    · obtain rfl := Option.some.inj h
      exact .unhookSpotify (by assumption)
    · obtain rfl := Option.some.inj h
      exact .unhookNothing (by assumption)
    · cases h
  | call c =>
    cases c with
    | resolveBlocker res => cases h
    | _ => exact .call (by simp) (advance_cases h)
  | resolveBlocker env => exact .resolveBlocker rfl (advance_cases h)
  | kill =>
    simp only [step] at h
    split at h
    · cases h
    · obtain rfl := Option.some.inj h
      exact .kill (by assumption)
  | exit process =>
    obtain rfl := Option.some.inj h
    exact .exit

end Instances

/-- The previous blocker that the loop is dealing with. -/
def HookPc.previous : HookPc → Option Path
  | .lookupStop prevPayload => some prevPayload
  | .callStop prevPayload => some prevPayload
  | .ejectPrevious prevPayload => some prevPayload
  | _ => none

/-- How far `hook_spotify` is with a process in which `renamed` blockers were loaded under other
names when it started to search. -/
structure Search (provided : Option Path) (renamed : List Path) (pc : HookPc) (p : TargetProcess) :
    Prop where
  previous : ∀ path, pc.previous = some path → hasDefaultName path = true
  kept : pc.injected = none → p.renamed provided = renamed
  cleared : pc.cleared = true → ∀ path ∈ p.modules, hasDefaultName path = false
  chosen : ∀ filterConfig path, pc = .inject filterConfig path → isBlocker provided path = true
  injected : ∀ path, pc.injected = some path → p.blockers provided = renamed ++ [path]

/-- The choice of a blocker is one that `resolve_blocker` can make. -/
def Call.Resolves (provided : Option Path) (c : Call) : Prop :=
  ∀ path, c = .resolveBlocker (.ok path) → isBlocker provided path = true

section Search

variable {provided : Option Path} {renamed : List Path} {p : OwnedProcess} {tp : TargetProcess}
  {ps ps' : Processes} {pc pc' : HookPc} {c : Call} {path : Path}

theorem renamed_eject (h : hasDefaultName path = true) :
    (tp.eject path).renamed provided = tp.renamed provided := by
  simp only [TargetProcess.renamed, TargetProcess.eject]
  rw [← List.erase_filter, List.erase_eq_self_iff]
  simp [h]

/-- Without a module of the default name, the renamed blockers are all there are. -/
theorem blockers_eq_renamed (h : ∀ path ∈ tp.modules, hasDefaultName path = false) :
    tp.blockers provided = tp.renamed provided := by
  simp only [TargetProcess.blockers, TargetProcess.renamed]
  apply List.filter_congr
  intro path hm
  simp [h path hm]

theorem blockers_inject (h : isBlocker provided path = true) :
    (tp.inject path).blockers provided = tp.blockers provided ++ [path] := by
  simp [TargetProcess.blockers, TargetProcess.inject, h]

theorem hasDefaultName_of_find (h : tp.findModuleByName defaultBlockerFileName = some path) :
    hasDefaultName path = true :=
  List.find?_some h

theorem not_hasDefaultName_of_find (h : tp.findModuleByName defaultBlockerFileName = none) :
    ∀ path ∈ tp.modules, hasDefaultName path = false :=
  fun path hm => Bool.eq_false_iff.mpr (List.find?_eq_none.mp h path hm)

theorem Search.of_modules {tp' : TargetProcess} (h : Search provided renamed pc tp)
    (hm : tp'.modules = tp.modules) : Search provided renamed pc tp' where
  previous := h.previous
  kept hi := by rw [TargetProcess.renamed, hm, ← h.kept hi, TargetProcess.renamed]
  cleared hc := hm ▸ h.cleared hc
  chosen := h.chosen
  injected path hp := by
    rw [TargetProcess.blockers, hm, ← h.injected path hp, TargetProcess.blockers]

/-- The search starts, or starts again. -/
theorem search_findPrevious (h : tp.renamed provided = renamed) :
    Search provided renamed .findPrevious tp :=
  ⟨by simp [HookPc.previous], fun _ => h, by simp [HookPc.cleared], by simp,
    by simp [HookPc.injected]⟩

theorem search_previous (h : tp.renamed provided = renamed) (hd : hasDefaultName path = true)
    (hp : pc.previous = some path) : Search provided renamed pc tp := by
  have hc : pc.cleared = false := by
    cases pc <;> simp_all [HookPc.previous, HookPc.cleared]
  have hi : pc.injected = none := by
    cases pc <;> simp_all [HookPc.previous, HookPc.injected]
  refine ⟨?_, fun _ => h, by simp [hc], ?_, by simp [hi]⟩
  · intro x hx
    obtain rfl := Option.some.inj (hp.symm.trans hx)
    exact hd
  · rintro filterConfig x rfl
    simp [HookPc.cleared] at hc

/-- The search has found no blocker of the default name. -/
theorem search_cleared (hc : pc.cleared = true) (h : tp.renamed provided = renamed)
    (hd : ∀ path ∈ tp.modules, hasDefaultName path = false)
    (hb : ∀ filterConfig path, pc = .inject filterConfig path → isBlocker provided path = true) :
    Search provided renamed pc tp := by
  have hp : pc.previous = none := by
    cases pc <;> simp_all [HookPc.previous, HookPc.cleared]
  have hi : pc.injected = none := by
    cases pc <;> simp_all [HookPc.cleared, HookPc.injected]
  exact ⟨by simp [hp], fun _ => h, fun _ => hd, hb, by simp [hi]⟩

theorem search_injected (hi : pc.injected = some path)
    (hb : tp.blockers provided = renamed ++ [path]) : Search provided renamed pc tp := by
  have hp : pc.previous = none := by
    cases pc <;> simp_all [HookPc.previous, HookPc.injected]
  have hc : pc.cleared = false := by
    cases pc <;> simp_all [HookPc.cleared, HookPc.injected]
  refine ⟨by simp [hp], by simp [hi], by simp [hc], ?_, ?_⟩
  · rintro filterConfig x rfl
    simp [HookPc.injected] at hi
  · intro x hx
    obtain rfl := Option.some.inj (hi.symm.trans hx)
    exact hb

theorem search_step (hs : HookStep p ps pc c ps' (.next pc')) (hc : c.Resolves provided)
    (h : Search provided renamed pc (ps p)) : Search provided renamed pc' (ps' p) := by
  cases hs with
  | found hf => exact search_previous (h.kept rfl) (hasDefaultName_of_find hf) rfl
  | notFound hf => exact search_cleared rfl (h.kept rfl) (not_hasDefaultName_of_find hf) (by simp)
  | lookupStop => exact search_previous (h.kept rfl) (h.previous _ rfl) rfl
  | callStop => exact search_previous (h.kept rfl) (h.previous _ rfl) rfl
  | ejectPrevious =>
    apply search_findPrevious
    rw [Processes.eject, Function.update_self, renamed_eject (h.previous _ rfl), h.kept rfl]
  | ejectPreviousFailed => exact search_findPrevious (h.kept rfl)
  | filterConfig => exact search_cleared rfl (h.kept rfl) (h.cleared rfl) (by simp)
  | blocker =>
    apply search_cleared rfl (h.kept rfl) (h.cleared rfl)
    rintro filterConfig path he
    simp only [HookPc.inject.injEq] at he
    exact hc path (by rw [he.2])
  | inject =>
    apply search_injected rfl
    rw [Processes.inject, Function.update_self, blockers_inject (h.chosen _ _ rfl),
      blockers_eq_renamed (h.cleared rfl), h.kept rfl]
  | lookupStart => exact search_injected rfl (h.injected _ rfl)
  | callStart => exact search_injected rfl (h.injected _ rfl)

end Search

section Modules

variable {p q : OwnedProcess} {ps ps' : Processes} {path payload : Path} {c : Call}

theorem mem_modules_eject (h : path ∈ (ps.eject p payload q).modules) : path ∈ (ps q).modules := by
  simp only [Processes.eject] at h
  by_cases hq : q = p
  · subst hq
    rw [Function.update_self] at h
    exact List.mem_of_mem_erase h
  · rwa [Function.update_of_ne hq] at h

theorem mem_modules_inject (h : path ∈ (ps.inject p payload q).modules) :
    path ∈ (ps q).modules ∨ (q = p ∧ path = payload) := by
  simp only [Processes.inject] at h
  by_cases hq : q = p
  · subst hq
    rw [Function.update_self] at h
    rcases List.mem_append.mp h with h | h
    · exact .inl h
    · exact .inr ⟨rfl, List.mem_singleton.mp h⟩
  · rw [Function.update_of_ne hq] at h
    exact .inl h

theorem hookStep_mem {pc : HookPc} {next : HookNext} (hs : HookStep p ps pc c ps' next)
    (h : path ∈ (ps' q).modules) : path ∈ (ps q).modules ∨
      (q = p ∧ c = .inject (.ok ()) ∧ ∃ filterConfig, pc = .inject filterConfig path) := by
  cases hs with
  | ejectPrevious => exact .inl (mem_modules_eject h)
  | inject =>
    rcases mem_modules_inject h with h | ⟨rfl, rfl⟩
    · exact .inl h
    · exact .inr ⟨rfl, rfl, _, rfl⟩
  | _ => exact .inl h

theorem unhookStep_mem {state : HookState} {pc : UnhookPc} {next : UnhookNext}
    (hs : unhookStep state ps pc c = some (ps', next)) (h : path ∈ (ps' q).modules) :
    path ∈ (ps q).modules := by
  cases unhookStep_cases hs with
  | eject => exact mem_modules_eject h
  | _ => exact h

end Modules

namespace Instances

/-- The step injects a blocker into `p`. -/
def Injects (p : OwnedProcess) (path : Path) (s : Instances) (l : Label) : Prop :=
  ∃ filterConfig, s.phase = .hooking p (.hooking (.inject filterConfig path)) ∧
    l = .call (.inject (.ok ()))

/-- `hook_spotify` has not returned, and it is past its own unhooking. -/
def Searching (p : OwnedProcess) (s : Instances) : Prop :=
  ∃ pc, s.phase = .hooking p (.hooking pc)

/-- One blocker is loaded in the process that is hooked, it is loaded once, and ejecting the
payload removes it. -/
structure Unique (provided : Option Path) (processes : Processes) (state : HookState) : Prop where
  loaded : (processes state.syringe).blockers provided = [state.payload]
  unhooked :
    (processes.eject state.syringe state.payload state.syringe).blockers provided = []

/-- What holds in a call that began to search with `renamed` blockers left, and on its return. -/
def CallInv (provided : Option Path) (renamed : List Path) (p : OwnedProcess) (s : Instances) :
    Prop :=
  match s.phase with
  | .hooking _ (.hooking pc) => Search provided renamed pc (s.processes p)
  | .idle (.hooked state) => state.syringe = p ∧
    (s.processes p).blockers provided = renamed ++ [state.payload]
  | _ => True

variable {build : Embedded} {provided : Option Path} {p q : OwnedProcess} {s t u : Instances}
  {l : Label} {c : Call} {path : Path} {renamed : List Path} {state : HookState} {fs : Fs}
  {ps : Processes} {tr pre post : List (Instances × Label)}

theorem callInv_advance {pc : HookPc} (hpc : s.phase = .hooking p (.hooking pc))
    (hc : c.Resolves provided) (hI : Search provided renamed pc (s.processes p))
    (h : Advance s c t) : CallInv provided renamed p t := by
  cases h with
  | hooking h hs =>
    obtain ⟨rfl, rfl⟩ := Phase.hooking.inj (hpc.symm.trans h)
    cases hs with
    | unhooking h hs => cases h
    | unhooked h hs => cases h
    | unhookPanicked h hs => cases h
    | hooking h hs =>
      obtain rfl := CallPc.hooking.inj h
      exact search_step hs hc hI
    | ok h hs =>
      obtain rfl := CallPc.hooking.inj h
      cases hs with
      | ownPayload => exact ⟨rfl, hI.injected _ rfl⟩
    | err h hs => trivial
    | hookPanicked h hs => trivial
  | unhooking h hs => cases hpc.symm.trans h
  | unhooked h hs => cases hpc.symm.trans h
  | unhookPanicked h hs => cases hpc.symm.trans h

theorem callInv_step (hI : CallInv provided renamed p s) (hs : Searching p s)
    (h : Step build provided s l t) : CallInv provided renamed p t := by
  obtain ⟨pc, hpc⟩ := hs
  simp only [CallInv, hpc] at hI
  cases h with
  | start h => cases hpc.symm.trans h
  | hookSpotify h => cases hpc.symm.trans h
  | unhookSpotify h => cases hpc.symm.trans h
  | unhookNothing h => cases hpc.symm.trans h
  | call hc h =>
    apply callInv_advance hpc ?_ hI h
    rintro path rfl
    exact absurd rfl (hc _)
  | @resolveBlocker env fs res t hres h =>
    have hpc' : ({ s with fs } : Instances).phase = .hooking p (.hooking pc) := hpc
    apply callInv_advance hpc' ?_ hI h
    rintro path ⟨⟩
    rcases resolveBlocker_eq_ok (congrArg Prod.snd hres) with hp | hd
    · simp [isBlocker, hp]
    · simp [isBlocker, hasDefaultName, hd]
  | kill h => trivial
  | @exit process =>
    simp only [CallInv, hpc]
    exact hI.of_modules (HookCall.modules_exit s.processes process p)

theorem callInv_trace (hu : u.phase = .hooking p (.hooking .findPrevious))
    (h : Trace (step build provided) u post t) (hin : Along (fun s _ => Searching p s) post) :
    CallInv provided ((u.processes p).renamed provided) p t := by
  have h₀ : CallInv provided ((u.processes p).renamed provided) p u := by
    simp only [CallInv, hu]
    exact search_findPrevious rfl
  apply h.invariant_along hin h₀
  intro s l t hI hs hstep
  exact callInv_step hI hs (step_cases hstep)

theorem hookCall_mem {pc : CallPc} {call : HookCall}
    (hs : HookCall.Step p ⟨pc, .unhooked, ps⟩ (.call c) call)
    (hm : path ∈ (call.processes q).modules) : path ∈ (ps q).modules ∨
      q = p ∧ c = .inject (.ok ()) ∧ ∃ filterConfig, pc = .hooking (.inject filterConfig path) := by
  cases pc with
  | hooking pc =>
    obtain ⟨next, hs⟩ := hs.hookStep rfl
    rcases hookStep_mem hs hm with hm | ⟨rfl, hc, filterConfig, rfl⟩
    · exact .inl hm
    · exact .inr ⟨rfl, hc, filterConfig, rfl⟩
  | unhooking state pc =>
    left
    cases hs with
    | unhooking h hs => exact unhookStep_mem hs hm
    | unhooked h hs => exact unhookStep_mem hs hm
    | unhookPanicked h hs => exact unhookStep_mem hs hm
    | hooking h hs => cases h
    | ok h hs => cases h
    | err h hs => cases h
    | hookPanicked h hs => cases h
  | returned res => cases hs <;> contradiction
  | panicked => cases hs <;> contradiction

theorem advance_mem (h : Advance s c t) (hm : path ∈ (t.processes q).modules) :
    path ∈ (s.processes q).modules ∨ (c = .inject (.ok ()) ∧
      ∃ filterConfig, s.phase = .hooking q (.hooking (.inject filterConfig path))) := by
  cases h with
  | hooking h hs =>
    rcases hookCall_mem hs hm with hm | ⟨rfl, hc, filterConfig, rfl⟩
    · exact .inl hm
    · exact .inr ⟨hc, filterConfig, h⟩
  | unhooking h hs => exact .inl (unhookStep_mem hs hm)
  | unhooked h hs => exact .inl (unhookStep_mem hs hm)
  | unhookPanicked h hs => exact .inl (unhookStep_mem hs hm)

/-- Only an injection adds a module. -/
theorem step_mem (h : Step build provided s l t) (hm : path ∈ (t.processes q).modules) :
    path ∈ (s.processes q).modules ∨ Injects q path s l := by
  cases h with
  | call hc h =>
    rcases advance_mem h hm with hm | ⟨rfl, filterConfig, hp⟩
    · exact .inl hm
    · exact .inr ⟨filterConfig, hp, rfl⟩
  | resolveBlocker hres h =>
    rcases advance_mem h hm with hm | ⟨hc, -⟩
    · exact .inl hm
    · cases hc
  | exit =>
    rw [HookCall.modules_exit] at hm
    exact .inl hm
  | _ => exact .inl hm

/-- A blocker in a process that started without one has been injected by an instance. -/
theorem injected_of_mem (hfresh : ∀ p, (ps p).blockers provided = [])
    (h : Trace (step build provided) (initial fs ps) tr s)
    (hm : path ∈ (s.processes q).modules) (hb : isBlocker provided path = true) :
    ∃ x ∈ tr, Injects q path x.1 x.2 := by
  induction h with
  | refl =>
    have hn := List.filter_eq_nil_iff.mp (hfresh q) path hm
    exact absurd hb hn
  | snoc _ hs ih =>
    rcases step_mem (step_cases hs) hm with hm | hi
    · obtain ⟨x, hx, hi⟩ := ih hm
      exact ⟨x, List.mem_append_left _ hx, hi⟩
    · exact ⟨_, List.mem_append_right _ (List.mem_singleton_self _), hi⟩

theorem unique_iff (hp : state.syringe = p)
    (hb : (ps p).blockers provided = renamed ++ [state.payload]) :
    Unique provided ps state ↔ renamed = [] := by
  subst hp
  constructor
  · rintro ⟨hl, -⟩
    rw [hb] at hl
    simpa using hl
  · rintro rfl
    refine ⟨hb, ?_⟩
    rw [List.nil_append] at hb
    rw [Processes.eject, Function.update_self, TargetProcess.eject, TargetProcess.blockers,
      ← List.erase_filter]
    have hb' : (ps state.syringe).modules.filter (isBlocker provided) = [state.payload] := hb
    simp [hb']

/-- After any history of instances, a call of `hook_spotify` that returns leaves the one blocker it
has injected exactly if none was loaded under another file name than the default one when it began
to search; such a blocker is the provided one, and an earlier injection left it. -/
theorem hook_unique_iff (hfresh : ∀ p, (ps p).blockers provided = [])
    (hpre : Trace (step build provided) (initial fs ps) pre u)
    (hu : u.phase = .hooking p (.hooking .findPrevious))
    (hcall : Trace (step build provided) u post t)
    (hin : Along (fun s _ => Searching p s) post) (ht : t.phase = .idle (.hooked state)) :
    (Unique provided t.processes state ↔ (u.processes p).renamed provided = []) ∧
      ∀ path ∈ (u.processes p).renamed provided, provided = some path ∧
        hasDefaultName path = false ∧ ∃ x ∈ pre, Injects p path x.1 x.2 := by
  constructor
  · have hI := callInv_trace hu hcall hin
    simp only [CallInv, ht] at hI
    exact unique_iff hI.1 hI.2
  · intro path hm
    obtain ⟨hm, hb⟩ := List.mem_filter.mp hm
    rw [Bool.and_eq_true, Bool.not_eq_true'] at hb
    refine ⟨?_, hb.2, injected_of_mem hfresh hpre hm hb.1⟩
    simpa [isBlocker, hb.2] using hb.1

def sampleBuild : Embedded := ⟨[0x4D, 0x5A], fun _ => some (0, 3, 3, 0)⟩

/-- Every write succeeds, and only the provided and the temporary path are there. -/
def sampleEnv : ResolveEnv :=
  let env : Resolver.TryEnv := ⟨true, true, .ok (), .done⟩
  ⟨.error "not found", some "AppData", env, env, env⟩

/-- A call of `hook_spotify` in which everything succeeds, in a process without a blocker that
the search would find. -/
def hookCalls : List Label :=
  [.call (.findModuleByName (.ok ())), .call (.resolveFilterConfig (.ok ⟨[], []⟩)),
    .resolveBlocker sampleEnv, .call (.inject (.ok ())),
    .call (.getPayloadProcedure (.ok true)), .call (.startRpc (.ok (.localhost 5))),
    .call (.tryToOwned (.ok ()))]

def beginHook : List Label := [.start, .hookSpotify 0]

def sampleInitial : Instances := initial (fun _ => none) fun _ => ⟨true, []⟩

def renamedBlocker : Path := ⟨"Tools", "custom.dll"⟩

theorem searching_hookCalls :
    Along (fun s _ => Searching 0 s) (trail (step sampleBuild none)
      (after (step sampleBuild none) sampleInitial beginHook) hookCalls) :=
  along_trail_cons rfl ⟨_, rfl⟩ <| along_trail_cons rfl ⟨_, rfl⟩ <|
  along_trail_cons rfl ⟨_, rfl⟩ <| along_trail_cons rfl ⟨_, rfl⟩ <|
  along_trail_cons rfl ⟨_, rfl⟩ <| along_trail_cons rfl ⟨_, rfl⟩ <|
  along_trail_cons rfl ⟨_, rfl⟩ along_nil

theorem hook_unique_iff_first :
    let step := step sampleBuild none
    let u := after step sampleInitial beginHook
    let t := after step u hookCalls
    let payload : Path := ⟨"AppData\\OpenByteDev\\BurntSushi v0.3.3", defaultBlockerFileName⟩
    (Unique none t.processes ⟨0, payload, ⟨.localhost 5, ⟨[], []⟩⟩⟩ ↔
        (u.processes 0).renamed none = []) ∧
      ∀ path ∈ (u.processes 0).renamed none, none = some path ∧ hasDefaultName path = false ∧
        ∃ x ∈ trail step sampleInitial beginHook, Injects 0 path x.1 x.2 :=
  hook_unique_iff (fun _ => rfl) (trace_after rfl) rfl (trace_after rfl)
    searching_hookCalls rfl

/-- The second of two instances does not find the renamed blocker that the first has left. -/
theorem hook_twice_of_renamed :
    let step := step sampleBuild (some renamedBlocker)
    let labels := beginHook ++ hookCalls ++ [.kill] ++ beginHook ++ hookCalls
    let s := after step sampleInitial labels
    Trace step sampleInitial (trail step sampleInitial labels) s ∧
      s.phase = .idle (.hooked ⟨0, renamedBlocker, ⟨.localhost 5, ⟨[], []⟩⟩⟩) ∧
      (s.processes 0).blockers (some renamedBlocker) = [renamedBlocker, renamedBlocker] :=
  ⟨trace_after rfl, rfl, by decide⟩

end Instances

end BurntSushi.AdBlocker
