import BurntSushi.AdBlocker.Step

/-! What stays injected once `stop` has returned. -/
namespace BurntSushi.AdBlocker

open Lts
open Client (FilterConfig)
open Scanner (SpotifyProcessScanner OwnedProcess)

namespace Processes

variable {ps ps' : Processes} {p q : OwnedProcess} {path payload : Path}

/-- Processes have only exited, and modules have only been ejected. -/
def Within (ps' ps : Processes) : Prop :=
  ∀ p, (ps' p).alive = true → (ps p).alive = true ∧ (ps' p).modules.Sublist (ps p).modules

theorem within_refl : Within ps ps := fun _ ha => ⟨ha, .refl _⟩

theorem within_eject : Within (ps.eject p payload) ps := by
  intro q ha
  simp only [eject] at ha ⊢
  by_cases hq : q = p
  · subst hq
    simp only [Function.update_self] at ha ⊢
    exact ⟨ha, List.erase_sublist⟩
  · simp only [Function.update_of_ne hq] at ha ⊢
    exact ⟨ha, .refl _⟩

theorem within_exit : Within (Function.update ps p { ps p with alive := false }) ps := by
  intro q ha
  by_cases hq : q = p
  · subst hq
    simp at ha
  · simp only [Function.update_of_ne hq] at ha ⊢
    exact ⟨ha, .refl _⟩

theorem Within.loaded (h : Within ps' ps) (hl : ps'.Loaded p path) : ps.Loaded p path :=
  ⟨(h p hl.1).1, (h p hl.1).2.subset hl.2⟩

theorem Within.count_le (h : Within ps' ps) (hl : ps'.Loaded p path) :
    (ps' p).modules.count path ≤ (ps p).modules.count path :=
  (h p hl.1).2.count_le path

/-- The last load of a module goes with its `eject`. -/
theorem not_loaded_eject (h : (ps p).modules.count path = 1) :
    ¬ (ps.eject p path).Loaded p path := by
  rintro ⟨-, hm⟩
  simp only [eject, Function.update_self, TargetProcess.eject] at hm
  have hc := List.count_pos_iff.mpr hm
  rw [List.count_erase_self, h] at hc
  omega

theorem loaded_inject (h : (ps.inject p payload).Loaded q path) :
    ps.Loaded q path ∨ (q = p ∧ path = payload) := by
  obtain ⟨ha, hm⟩ := h
  simp only [inject] at ha hm
  by_cases hq : q = p
  · subst hq
    simp only [Function.update_self, TargetProcess.inject, List.mem_append,
      List.mem_singleton] at ha hm
    exact hm.imp (fun hm => ⟨ha, hm⟩) fun he => ⟨rfl, he⟩
  · simp only [Function.update_of_ne hq] at ha hm
    exact .inl ⟨ha, hm⟩

theorem count_inject (h : path ∉ (ps p).modules) :
    ((ps.inject p path) p).modules.count path = 1 := by
  simp [inject, TargetProcess.inject, List.count_eq_zero.mpr h]

end Processes

/-- The process and the payload that a state has to unhook. -/
def SpotifyHookState.held : SpotifyHookState → Option (OwnedProcess × Path)
  | .hooked state => some (state.syringe, state.payload)
  | .unhooked => none

/-- No module has the default name of the blocker. -/
def TargetProcess.Cleared (p : TargetProcess) : Prop :=
  ∀ path ∈ p.modules, path.fileName ≠ defaultBlockerFileName

theorem TargetProcess.cleared_of_findModuleByName {p : TargetProcess}
    (h : p.findModuleByName defaultBlockerFileName = none) : p.Cleared := by
  intro path hm he
  have hn := List.find?_eq_none.mp h path hm
  simp [he] at hn

/-- No injector or remote call fails, and the task that runs `rpc::run` ends normally. -/
def Call.Succeeds : Call → Prop
  | .findModuleByName res => res = .ok ()
  | .getPayloadProcedure res => res = .ok true
  | .stopRpc res => res = .ok ()
  | .eject res => res = .ok ()
  | .inject res => res = .ok ()
  | .startRpc res => ∃ socketAddr, res = .ok socketAddr
  | .tryToOwned res => res = .ok ()
  | .join res => res = .ok ()
  | _ => True

section Calls

variable {p : OwnedProcess} {ps ps' : Processes} {c : Call}

theorem hookStep_cleared {pc pc' : HookPc} (h : HookStep p ps pc c ps' (.next pc'))
    (hc : pc.cleared = true → (ps p).Cleared) (hc' : pc'.cleared = true) : (ps' p).Cleared := by
  cases h with
  | notFound h => exact TargetProcess.cleared_of_findModuleByName h
  | filterConfig => exact hc rfl
  | blocker => exact hc rfl
  | _ => simp [HookPc.cleared] at hc'

theorem hookStep_ok {pc : HookPc} {state : HookState} (h : HookStep p ps pc c ps' (.ok state)) :
    state.syringe = p ∧ pc.injected = some state.payload ∧ ps' = ps := by
  cases h with
  | ownPayload => exact ⟨rfl, rfl, rfl⟩

theorem unhookStep_next {state : HookState} {pc pc' : UnhookPc}
    (h : unhookStep state ps pc c = some (ps', .next pc')) : ps' = ps := by
  cases unhookStep_cases h with
  | lookupStop => rfl
  | callStop => rfl
  | join _ => rfl

/-- Where no call fails, `unhook_spotify` ejects the payload, or its process has died. -/
theorem unhookStep_done {state : HookState} {pc : UnhookPc} {res : Except SyringeError Unit}
    (hc : c.Succeeds) (h : unhookStep state ps pc c = some (ps', .done res)) :
    ps' = ps.eject state.syringe state.payload ∨
      (ps' = ps ∧ (ps state.syringe).alive = false) := by
  cases unhookStep_cases h with
  | inaccessible => cases hc
  | callStopFailed => cases hc
  | joinDead hdead => exact .inr ⟨rfl, hdead⟩
  | ejectFailed => cases hc
  | eject => exact .inl rfl

end Calls

namespace SpotifyAdBlocker

/-- What the blocker has injected and is going to eject. -/
def held (s : SpotifyAdBlocker) : Option (OwnedProcess × Path) :=
  match s.consumer with
  | .hooking spotify pc => pc.injected.map (spotify, ·)
  | .unhooking _ state _ => some (state.syringe, state.payload)
  | .changed => s.state.held
  | .finished => s.state.held
  | _ => none

/-- The injection that a step carries out. -/
def injects (s : SpotifyAdBlocker) : Label → Option (OwnedProcess × Path)
  | .call (.inject (.ok ())) =>
    match s.consumer with
    | .hooking spotify (.inject _ payloadPath) => some (spotify, payloadPath)
    | _ => none
  | _ => none

/-- The injections of a run. -/
def Injected (tr : List (SpotifyAdBlocker × Label)) (p : OwnedProcess) (path : Path) : Prop :=
  ∃ x ∈ tr, x.1.injects x.2 = some (p, path)

def CallsSucceed (_ : SpotifyAdBlocker) : Label → Prop
  | .call c => c.Succeeds
  | _ => True

/-- `run` is not dropped while `unhook_spotify` awaits the task of a process that still lives, and
a payload with a name of its own goes only into a process that does not have it loaded. -/
def Undisturbed (s : SpotifyAdBlocker) : Label → Prop
  | .drop => ∀ after state, s.consumer = .unhooking after state .join →
    (s.processes state.syringe).alive = false
  | .call (.inject (.ok ())) => ∀ spotify filterConfig payloadPath,
    s.consumer = .hooking spotify (.inject filterConfig payloadPath) →
      payloadPath.fileName ≠ defaultBlockerFileName →
        payloadPath ∉ (s.processes spotify).modules
  | _ => True

variable {shutdown : Bool} {s t : SpotifyAdBlocker} {l : Label}
  {tr : List (SpotifyAdBlocker × Label)} {p : OwnedProcess} {path : Path}

/-- While a blocker is on its way to a process, no module there has its default name. -/
def Cleared (s : SpotifyAdBlocker) : Prop :=
  ∀ spotify pc, s.consumer = .hooking spotify pc → pc.cleared = true →
    (s.processes spotify).Cleared

theorem cleared_of_not_hooking (h : ∀ spotify pc, t.consumer ≠ .hooking spotify pc) : t.Cleared :=
  fun spotify pc hc => absurd hc (h spotify pc)

theorem cleared_of_findPrevious {spotify : OwnedProcess}
    (h : t.consumer = .hooking spotify .findPrevious) : t.Cleared := by
  intro spotify pc hc hp
  rw [h] at hc
  injection hc with _ hc
  simp [← hc, HookPc.cleared] at hp

theorem cleared_stop : s.stop.Cleared := by
  rcases s.stop_cases with ⟨state, -, h⟩ | ⟨-, h⟩ <;> rw [h]
  · exact cleared_of_not_hooking (by simp)
  · exact cleared_of_not_hooking (by simp)

theorem cleared_step (hK : s.Cleared) (h : Step shutdown s l t) : t.Cleared := by
  cases h with
  | @scanner _ scanner hl ha hs =>
    rcases s.afterScanner_cases scanner with he | he <;> rw [he]
    · exact hK
    · exact cleared_of_not_hooking (by simp [panic])
  | wakePanicked | hookErr | hookPanicked | unhookPanicked =>
    exact cleared_of_not_hooking (by simp [panic])
  | @wakeRunning info hc hv hw hr =>
    rcases hookSpotify_cases { s with seen := s.scanner.notifier.version }.lock info.process with
      ⟨state, -, he⟩ | ⟨-, he⟩ <;> rw [he]
    · exact cleared_of_not_hooking (by simp)
    · exact cleared_of_findPrevious rfl
  | wakeHooked | hookOk | unhookNext => exact cleared_of_not_hooking (by simp)
  | wakeUnhooked =>
    cases shutdown <;> exact cleared_of_not_hooking (by simp [endStopped])
  | hookNext hc hw hs =>
    intro spotify pc hc' hp
    simp only [Consumer.hooking.injEq] at hc'
    obtain ⟨rfl, rfl⟩ := hc'
    exact hookStep_cleared (hookStep_cases hs) (hK _ _ hc) hp
  | @unhookDone after _ _ _ _ _ hc hw hs =>
    cases after with
    | hook => exact cleared_of_findPrevious rfl
    | loop => cases shutdown <;> exact cleared_of_not_hooking (by simp [unhooked, endStopped])
    | stop => exact cleared_of_not_hooking (by simp [unhooked])
  | dropFinished => exact cleared_stop
  | drop =>
    split
    · exact cleared_stop
    · exact cleared_stop
  | @exit process =>
    intro spotify pc hc hp
    by_cases hq : spotify = process
    · subst hq
      simpa [TargetProcess.Cleared] using hK spotify pc hc hp
    · simpa [hq] using hK spotify pc hc hp

theorem injected_concat :
    Injected (tr ++ [(s, l)]) p path ↔ Injected tr p path ∨ s.injects l = some (p, path) := by
  simp [Injected, or_and_right, exists_or]

/-- What is injected and still loaded is held, and loaded once; a handler has taken the state. -/
structure Accounted (tr : List (SpotifyAdBlocker × Label)) (s : SpotifyAdBlocker) : Prop where
  taken : (∃ spotify pc, s.consumer = .hooking spotify pc) ∨
    (∃ after state pc, s.consumer = .unhooking after state pc) → s.state = .unhooked
  held : (∀ e, s.consumer ≠ .panicked e) → ∀ p path, Injected tr p path →
    s.processes.Loaded p path →
      s.held = some (p, path) ∧ (s.processes p).modules.count path = 1

theorem accounted_new (processes : Processes) : Accounted [] (new processes) :=
  ⟨by simp [new], fun _ _ _ hi => by simp [Injected] at hi⟩

/-- Nothing is injected, and what is held stays held. -/
theorem Accounted.keep (hI : Accounted tr s) (hn : s.injects l = none)
    (hw : t.processes.Within s.processes) (hh : t.held = s.held)
    (ht : (∃ spotify pc, t.consumer = .hooking spotify pc) ∨
      (∃ after state pc, t.consumer = .unhooking after state pc) → t.state = .unhooked)
    (hp : ∀ e, s.consumer = .panicked e → t.consumer = .panicked e) :
    Accounted (tr ++ [(s, l)]) t := by
  refine ⟨ht, ?_⟩
  intro hne p path hi hl
  rw [injected_concat, hn] at hi
  have hi := hi.resolve_right (by simp)
  obtain ⟨hs, hc⟩ := hI.held (fun e he => hne e (hp e he)) p path hi (hw.loaded hl)
  have hle := hw.count_le hl
  have hpos := List.count_pos_iff.mpr hl.2
  exact ⟨hh.trans hs, by omega⟩

/-- Nothing is injected, and what was held has gone. -/
theorem Accounted.release (hI : Accounted tr s) (hn : s.injects l = none)
    (hw : t.processes.Within s.processes)
    (hg : ∀ p path, s.held = some (p, path) → (s.processes p).modules.count path = 1 →
      ¬ t.processes.Loaded p path)
    (ht : t.state = .unhooked) (hp : ∀ e, s.consumer ≠ .panicked e) :
    Accounted (tr ++ [(s, l)]) t := by
  refine ⟨fun _ => ht, ?_⟩
  intro _ p path hi hl
  rw [injected_concat, hn] at hi
  have hi := hi.resolve_right (by simp)
  obtain ⟨hs, hc⟩ := hI.held hp p path hi (hw.loaded hl)
  exact absurd hl (hg p path hs hc)

theorem Accounted.panicked {e : Option AppError} (ht : t.consumer = .panicked e) :
    Accounted tr t :=
  ⟨by simp [ht], fun hp => absurd ht (hp e)⟩

theorem injects_call {c : Call}
    (h : ∀ spotify filterConfig payloadPath,
      s.consumer ≠ .hooking spotify (.inject filterConfig payloadPath)) :
    s.injects (.call c) = none := by
  unfold injects
  split
  · split
    · exact absurd (by assumption) (h _ _ _)
    · rfl
  · rfl

theorem accounted_inject {spotify : OwnedProcess} {filterConfig : FilterConfig}
    {payloadPath : Path} {pc : HookPc} (hI : Accounted tr s)
    (hc : s.consumer = .hooking spotify (.inject filterConfig payloadPath))
    (hn : payloadPath ∉ (s.processes spotify).modules) (hp : pc.injected = some payloadPath) :
    Accounted (tr ++ [(s, .call (.inject (.ok ())))])
      { s with
        processes := s.processes.inject spotify payloadPath, consumer := .hooking spotify pc } := by
  refine ⟨fun _ => hI.taken (.inl ⟨_, _, hc⟩), ?_⟩
  intro _ q path hi hl
  have hnot : ∀ q path, Injected tr q path → ¬ s.processes.Loaded q path := by
    intro q path hi hl
    have hs := (hI.held (by simp [hc]) q path hi hl).1
    simp [held, hc, HookPc.injected] at hs
  have hs : s.injects (.call (.inject (.ok ()))) = some (spotify, payloadPath) := by
    simp [injects, hc]
  rw [injected_concat, hs] at hi
  rcases Processes.loaded_inject hl with hl | ⟨rfl, rfl⟩
  · rcases hi with hi | hi
    · exact absurd hl (hnot q path hi)
    · simp only [Option.some.injEq, Prod.mk.injEq] at hi
      obtain ⟨rfl, rfl⟩ := hi
      exact absurd hl.2 hn
  · exact ⟨by simp [held, hp], Processes.count_inject hn⟩

theorem unhooked_processes {after : Unhooking} :
    (unhooked shutdown s after).processes = s.processes := by
  cases after <;> rfl

theorem unhooked_state {after : Unhooking} : (unhooked shutdown s after).state = .unhooked := by
  cases after <;> rfl

/-- `stop` unhooks what is hooked. -/
theorem accounted_stop (hI : Accounted tr s) (hc : s.consumer = .changed ∨ s.consumer = .finished) :
    Accounted (tr ++ [(s, .drop)]) s.stop := by
  have hs : s.held = s.state.held := by
    rcases hc with hc | hc <;> simp [held, hc]
  have hp : ∀ e, s.consumer ≠ .panicked e := by
    rcases hc with hc | hc <;> simp [hc]
  rcases s.stop_cases with ⟨state, hst, h⟩ | ⟨hst, h⟩ <;> rw [h]
  · exact hI.keep rfl Processes.within_refl (by rw [hs, hst]; rfl) (fun _ => rfl)
      fun e he => absurd he (hp e)
  · exact hI.keep rfl Processes.within_refl (by rw [hs, hst]; rfl) (by simp)
      fun e he => absurd he (hp e)

theorem stop_of_unhooked (h : s.state = .unhooked) : s.stop = { s with consumer := .stopped } := by
  simp [stop, h]

theorem accounted_hookNext {spotify : OwnedProcess} {pc pc' : HookPc} {c : Call}
    {processes : Processes} (hI : Accounted tr s) (hK : s.Cleared) (hU : s.Undisturbed (.call c))
    (hc : s.consumer = .hooking spotify pc)
    (hs : hookStep spotify s.processes pc c = some (processes, .next pc')) :
    Accounted (tr ++ [(s, .call c)]) { s with processes, consumer := .hooking spotify pc' } := by
  rcases hookStep_injected (hookStep_cases hs) with ⟨_, _, rfl, rfl, rfl, hp⟩ | ⟨hn, hi, hps⟩
  · refine accounted_inject hI hc ?_ hp
    intro hm
    exact hU _ _ _ hc (hK _ _ hc rfl _ hm) hm
  · refine hI.keep (injects_call ?_) ?_ (by simp [held, hc, hi])
      (fun _ => hI.taken (.inl ⟨_, _, hc⟩)) (by simp [hc])
    · intro spotify filterConfig payloadPath he
      rw [hc] at he
      injection he with _ he
      exact hn filterConfig payloadPath he
    · rcases hps with rfl | ⟨-, prevPayload, rfl⟩
      · exact Processes.within_refl
      · exact Processes.within_eject

theorem accounted_unhookDone {after : Unhooking} {state : HookState} {pc : UnhookPc} {c : Call}
    {processes : Processes} {res : Except SyringeError Unit} (hI : Accounted tr s)
    (hS : c.Succeeds) (hc : s.consumer = .unhooking after state pc)
    (hs : unhookStep state s.processes pc c = some (processes, .done res)) :
    Accounted (tr ++ [(s, .call c)]) (unhooked shutdown { s with processes } after) := by
  refine hI.release (injects_call (by simp [hc])) ?_ ?_ unhooked_state (by simp [hc])
  · rw [unhooked_processes]
    rcases unhookStep_done hS hs with rfl | ⟨rfl, -⟩
    · exact Processes.within_eject
    · exact Processes.within_refl
  · intro p path hh hcount
    simp only [held, hc, Option.some.injEq, Prod.mk.injEq] at hh
    obtain ⟨rfl, rfl⟩ := hh
    rw [unhooked_processes]
    rcases unhookStep_done hS hs with rfl | ⟨rfl, hd⟩
    · exact Processes.not_loaded_eject hcount
    · exact fun hl => Bool.false_ne_true (hd.symm.trans hl.1)

/-- A handler that is dropped holds nothing, or what has died. -/
theorem accounted_drop (hI : Accounted tr s) (hU : s.Undisturbed .drop)
    (ha : s.consumer.awaits = true) :
    Accounted (tr ++ [(s, .drop)]) (if s.consumer.holdsGuard then s.unlock.stop else s.stop) := by
  cases hc : s.consumer with
  | changed => exact accounted_stop hI (.inl hc)
  | hooking spotify pc =>
    have hs := hI.taken (.inl ⟨_, _, hc⟩)
    have hp : pc.injected = none := by
      cases pc <;> simp_all [Consumer.awaits, HookPc.injected]
    have hu : s.unlock.stop = _ := stop_of_unhooked hs
    rw [Consumer.holdsGuard, if_pos rfl, hu]
    exact hI.keep rfl Processes.within_refl (by simp [held, hc, hp]) (by simp) (by simp [hc])
  | unhooking after state pc =>
    have hs := hI.taken (.inr ⟨_, _, _, hc⟩)
    have hg : (Consumer.unhooking after state pc).holdsGuard = true ∧ pc = .join := by
      cases after <;> cases pc <;> simp_all [Consumer.awaits, Consumer.holdsGuard]
    obtain ⟨hg, rfl⟩ := hg
    have hu : s.unlock.stop = _ := stop_of_unhooked hs
    rw [if_pos hg, hu]
    refine hI.release rfl Processes.within_refl ?_ hs (by simp [hc])
    intro p path hh _ hl
    simp only [held, hc, Option.some.injEq, Prod.mk.injEq] at hh
    obtain ⟨rfl, rfl⟩ := hh
    exact Bool.false_ne_true ((hU after state hc).symm.trans hl.1)
  | finished | stopped | panicked => simp [hc, Consumer.awaits] at ha

theorem accounted_step (hI : Accounted tr s) (hK : s.Cleared) (hS : s.CallsSucceed l)
    (hU : s.Undisturbed l) (h : Step shutdown s l t) : Accounted (tr ++ [(s, l)]) t := by
  cases h with
  | @scanner l scanner hl ha hs =>
    rcases s.afterScanner_cases scanner with he | he <;> rw [he]
    · exact hI.keep rfl Processes.within_refl rfl hI.taken fun _ he => he
    · exact .panicked rfl
  | wakePanicked hc hv hw => exact .panicked rfl
  | @wakeRunning info hc hv hw hr =>
    rcases hookSpotify_cases { s with seen := s.scanner.notifier.version }.lock info.process with
      ⟨state, hs, he⟩ | ⟨hs, he⟩ <;> rw [he]
    · have hs : s.state = .hooked state := hs
      exact hI.keep rfl Processes.within_refl (by simp [held, hc, hs, SpotifyHookState.held])
        (fun _ => rfl) (by simp [hc])
    · have hs : s.state = .unhooked := hs
      exact hI.keep rfl Processes.within_refl
        (by simp [held, hc, hs, SpotifyHookState.held, HookPc.injected])
        (fun _ => hs) (by simp [hc])
  | wakeHooked hc hv hw hr hs =>
    exact hI.keep rfl Processes.within_refl (by simp [held, hc, hs, SpotifyHookState.held])
      (fun _ => rfl) (by simp [hc])
  | wakeUnhooked hc hv hw hr hs =>
    refine hI.keep rfl Processes.within_refl ?_ (fun _ => hs) (by simp [hc])
    cases shutdown <;> simp [held, hc, endStopped, unlock, lock]
  | hookNext hc hw hs => exact accounted_hookNext hI hK hU hc hs
  | hookOk hc hw hs =>
    obtain ⟨rfl, hp, rfl⟩ := hookStep_ok (hookStep_cases hs)
    refine hI.keep (injects_call ?_) Processes.within_refl
      (by simp [held, hc, hp, SpotifyHookState.held]) (by simp) (by simp [hc])
    intro spotify filterConfig payloadPath he
    rw [hc] at he
    injection he with _ he
    simp [he, HookPc.injected] at hp
  | hookErr hc hw hs => exact .panicked rfl
  | hookPanicked hc hw hs => exact .panicked rfl
  | unhookNext hc hw hs =>
    obtain rfl := unhookStep_next hs
    exact hI.keep (injects_call (by simp [hc])) Processes.within_refl (by simp [held, hc])
      (fun _ => hI.taken (.inr ⟨_, _, _, hc⟩)) (by simp [hc])
  | unhookDone hc hw hs => exact accounted_unhookDone hI hS hc hs
  | unhookPanicked hc hw hs => exact .panicked rfl
  | dropFinished hc => exact accounted_stop hI (.inr hc)
  | drop ha hw => exact accounted_drop hI hU ha
  | exit =>
    exact hI.keep rfl Processes.within_exit rfl hI.taken fun _ he => he

/-- The bookkeeping holds in every state that such a run reaches. -/
theorem accounted_of_trace {processes : Processes} (h : Trace (step shutdown) (new processes) tr s)
    (hS : Along CallsSucceed tr) (hU : Along Undisturbed tr) : Accounted tr s := by
  induction h with
  | refl => exact accounted_new processes
  | snoc h hs ih =>
    obtain ⟨hS, hSl⟩ := along_concat.mp hS
    obtain ⟨hU, hUl⟩ := along_concat.mp hU
    have hK := h.invariant (P := Cleared) (cleared_of_not_hooking (by simp [new]))
      fun _ _ _ hK hs => cleared_step hK (step_cases hs)
    exact accounted_step (ih hS hU) hK hSl hUl (step_cases hs)

/-- Where the calls succeed and every step is undisturbed, nothing that the run injected into a
process that still lives is loaded there after `stop`. -/
theorem not_loaded_of_stopped {processes : Processes}
    (h : Trace (step shutdown) (new processes) tr s) (hS : Along CallsSucceed tr)
    (hU : Along Undisturbed tr) (hs : s.consumer = .stopped) (p : OwnedProcess) (path : Path)
    (hi : Injected tr p path) : ¬ s.processes.Loaded p path := by
  intro hl
  have hh := ((accounted_of_trace h hS hU).held (by simp [hs]) p path hi hl).1
  simp [held, hs] at hh

/-- `run` is dropped in `changed()`, and `stop` unhooks. -/
def dropWhileIdle : List Label :=
  beforeInject ++ .call (.inject (.ok ())) :: (afterInject ++ [.drop,
    .call (.getPayloadProcedure (.ok true)), .call (.stopRpc (.ok ())), .call (.join (.ok ())),
    .call (.eject (.ok ()))])

/-- Spotify closes its main window, and `run` is dropped while `unhook_spotify` awaits. -/
def dropWhileUnhooking : List Label :=
  beforeInject ++ .call (.inject (.ok ())) :: (afterInject ++ endOfSpotify ++
    [.scanner (.iterate (.ok ()) 0 (.ok 0)), .scanner (.hooked (.ok ())), .wake (.ok ()),
      .call (.getPayloadProcedure (.ok true)), .call (.stopRpc (.ok ())), .drop])

theorem undisturbed_dropWhileIdle :
    Along Undisturbed (trail (step false) (new cleanProcesses) dropWhileIdle) := by
  refine along_trail_append rfl (along_trail ?_) <| along_trail_cons rfl ?_ <|
    along_trail_append rfl (along_trail ?_) <| along_trail_cons rfl ?_ <| along_trail ?_
  · simp [beforeInject, startOfSpotify, Undisturbed]
  · intro _ _ _ _ _
    exact List.not_mem_nil
  · simp [afterInject, Undisturbed]
  · intro _ _ h
    injection h
  · simp [Undisturbed]

theorem not_loaded_dropWhileIdle :
    ¬ (after (step false) (new cleanProcesses) dropWhileIdle).processes.Loaded 9 samplePayload :=
  not_loaded_of_stopped (trace_after rfl)
    (along_trail (by
      simp [dropWhileIdle, beforeInject, startOfSpotify, afterInject, CallsSucceed,
        Call.Succeeds]))
    undisturbed_dropWhileIdle rfl 9 samplePayload
    ⟨_, mem_trail_append (s := new cleanProcesses) rfl rfl, rfl⟩

theorem loaded_dropWhileUnhooking :
    ∃ tr s p path, Trace (step false) (new cleanProcesses) tr s ∧ Along CallsSucceed tr ∧
      s.consumer = .stopped ∧ Injected tr p path ∧ s.processes.Loaded p path :=
  ⟨trail (step false) (new cleanProcesses) dropWhileUnhooking,
    after (step false) (new cleanProcesses) dropWhileUnhooking, 9, samplePayload, trace_after rfl,
    along_trail (by
      simp [dropWhileUnhooking, beforeInject, startOfSpotify, afterInject, endOfSpotify,
        CallsSucceed, Call.Succeeds]),
    rfl, ⟨_, mem_trail_append (s := new cleanProcesses) rfl rfl, rfl⟩, rfl, .head _⟩

end SpotifyAdBlocker

end BurntSushi.AdBlocker
