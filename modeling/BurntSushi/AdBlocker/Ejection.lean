import BurntSushi.AdBlocker.Instances

/-! The order of `stop_rpc` and `eject`, when unhooking and for the blockers of earlier
instances. -/
namespace BurntSushi.AdBlocker

open Lts
open Resolver (Embedded resolveBlocker)
open Scanner (OwnedProcess)

/-- The module that is ejected when the state is unhooked. -/
def HookState.blocker (state : HookState) : OwnedProcess × Path := (state.syringe, state.payload)

/-- `unhook_spotify` has called `stop_rpc`. -/
def UnhookPc.stopped : UnhookPc → Bool
  | .join => true
  | .eject => true
  | _ => false

namespace Phase

/-- The module whose `stop_rpc` is called next. -/
def stopping : Phase → Option (OwnedProcess × Path)
  | .hooking p (.hooking (.callStop prevPayload)) => some (p, prevPayload)
  | .hooking _ (.unhooking state .callStop) => some state.blocker
  | .unhooking state .callStop => some state.blocker
  | _ => none

/-- The module that is ejected next. -/
def ejecting : Phase → Option (OwnedProcess × Path)
  | .hooking p (.hooking (.ejectPrevious prevPayload)) => some (p, prevPayload)
  | .hooking _ (.unhooking state .eject) => some state.blocker
  | .unhooking state .eject => some state.blocker
  | _ => none

/-- The module whose `stop_rpc` the handler in progress has called, and that it has not yet
ejected. -/
def stopped : Phase → Option (OwnedProcess × Path)
  | .hooking p (.hooking (.ejectPrevious prevPayload)) => some (p, prevPayload)
  | .hooking _ (.unhooking state pc) => if pc.stopped then some state.blocker else none
  | .unhooking state pc => if pc.stopped then some state.blocker else none
  | _ => none

theorem stopped_of_ejecting {phase : Phase} {b : OwnedProcess × Path}
    (h : phase.ejecting = some b) : phase.stopped = some b := by
  simp only [ejecting] at h
  split at h
  · exact h
  · exact h
  · exact h
  · cases h

end Phase

namespace Instances

/-- A call of `stop_rpc` on the module, with its outcome. -/
def Stops (b : OwnedProcess × Path) (res : Except SyringeError Unit) (s : Instances) (l : Label) :
    Prop :=
  s.phase.stopping = some b ∧ l = .call (.stopRpc res)

def Ejects (b : OwnedProcess × Path) (s : Instances) (l : Label) : Prop :=
  s.phase.ejecting = some b ∧ ∃ res, l = .call (.eject res)

/-- The last call of `stop_rpc` on the module was successful. -/
def Stopped (b : OwnedProcess × Path) (tr : List (Instances × Label)) : Prop :=
  Since (Stops b (.ok ())) (fun s l => ∃ e, Stops b (.error e) s l) tr

/-- No module is ejected unless the last call of `stop_rpc` on it was successful. -/
def StopsFirst (tr : List (Instances × Label)) : Prop :=
  AlongPast (fun pre s l => ∀ b, Ejects b s l → Stopped b pre) tr

/-- `stop_rpc` of a previous blocker does not fail. -/
def PreviousStops (s : Instances) (l : Label) : Prop :=
  ∀ p prevPayload res, s.phase = .hooking p (.hooking (.callStop prevPayload)) →
    l = .call (.stopRpc res) → res = .ok ()

/-- The handler is about to eject a previous blocker. -/
def Removing (s : Instances) : Prop :=
  ∃ p prevPayload, s.phase = .hooking p (.hooking (.ejectPrevious prevPayload))

/-- The application is not killed between the calls of `stop_rpc` and `eject` on a previous
blocker. -/
def Uninterrupted (s : Instances) (l : Label) : Prop := s.Removing → l ≠ .kill

variable {build : Embedded} {provided : Option Path} {p : OwnedProcess} {s t : Instances}
  {l : Label} {c : Call} {fs : Fs} {ps ps' : Processes} {tr : List (Instances × Label)}
  {b : OwnedProcess × Path}

/-- The steps after which `stop_rpc` has been called on the module that is ejected next: a
successful call, a failed one from which the removal of previous blockers goes on, or a step
between the two calls. -/
def StopsBefore (b : OwnedProcess × Path) (s : Instances) (l : Label) : Prop :=
  Stops b (.ok ()) s l ∨
  (s.phase = .hooking b.1 (.hooking (.callStop b.2)) ∧ ∃ e, l = .call (.stopRpc (.error e))) ∨
  s.phase.stopped = some b ∧ ∀ res, l ≠ .call (.stopRpc res)

theorem unhookStep_stopped {state : HookState} {pc pc' : UnhookPc}
    (h : unhookStep state ps pc c = some (ps', .next pc')) (hstopped : pc'.stopped = true) :
    pc = .callStop ∧ c = .stopRpc (.ok ()) ∨ pc.stopped = true ∧ ∀ res, c ≠ .stopRpc res := by
  cases unhookStep_cases h with
  | lookupStop => cases hstopped
  | callStop => exact .inl ⟨rfl, rfl⟩
  | join _ => exact .inr ⟨rfl, by simp⟩

/-- Only the call of `stop_rpc` leads to the ejection of a previous blocker. -/
theorem hookStep_ejectPrevious {pc : HookPc} {prevPayload : Path}
    (h : HookStep p ps pc c ps' (.next (.ejectPrevious prevPayload))) :
    pc = .callStop prevPayload ∧ ∃ res, c = .stopRpc res := by
  cases h with
  | callStop => exact ⟨rfl, _, rfl⟩

theorem stopped_unhooking {state : HookState} {pc : UnhookPc}
    (h : (Phase.unhooking state pc).stopped = some b) : pc.stopped = true ∧ state.blocker = b := by
  simp only [Phase.stopped] at h
  split at h
  · exact ⟨by assumption, Option.some.inj h⟩
  · cases h

theorem stopped_hooking {pc : HookPc} (h : (Phase.hooking p (.hooking pc)).stopped = some b) :
    p = b.1 ∧ pc = .ejectPrevious b.2 := by
  simp only [Phase.stopped] at h
  split at h
  · rename_i heq
    obtain ⟨rfl, hpc⟩ := Phase.hooking.inj heq
    obtain rfl := CallPc.hooking.inj hpc
    obtain rfl := Option.some.inj h
    exact ⟨rfl, rfl⟩
  all_goals simp_all

/-- A call of the unhooking, on its own or at the start of `hook_spotify`. -/
theorem stopsBefore_unhook {state : HookState} {pc pc' : UnhookPc}
    (hphase : s.phase = .unhooking state pc ∨ s.phase = .hooking p (.unhooking state pc))
    (h : unhookStep state s.processes pc c = some (ps', .next pc'))
    (hstopped : pc'.stopped = true) : StopsBefore state.blocker s (.call c) := by
  rcases unhookStep_stopped h hstopped with ⟨rfl, rfl⟩ | ⟨hpc, hc⟩
  · left
    rcases hphase with hphase | hphase <;> simp [Stops, hphase, Phase.stopping]
  · refine .inr (.inr ⟨?_, ?_⟩)
    · rcases hphase with hphase | hphase <;> simp [hphase, Phase.stopped, hpc]
    · intro res hl
      exact hc res (Label.call.inj hl)

theorem advance_stopped (h : Advance s c t) (hb : t.phase.stopped = some b) :
    StopsBefore b s (.call c) := by
  cases h with
  | @hooking p pc call hphase hs =>
    cases hs with
    | unhooking hpc hs =>
      obtain ⟨hstopped, rfl⟩ := stopped_unhooking hb
      subst hpc
      exact stopsBefore_unhook (.inr hphase) hs hstopped
    | unhooked hpc hs => cases hb
    | unhookPanicked hpc hs => cases hb
    | hooking hpc hs =>
      obtain ⟨rfl, rfl⟩ := stopped_hooking hb
      obtain ⟨rfl, res, rfl⟩ := hookStep_ejectPrevious hs
      subst hpc
      cases res with
      | ok => exact .inl ⟨by rw [hphase]; rfl, rfl⟩
      | error e => exact .inr (.inl ⟨hphase, e, rfl⟩)
    | ok hpc hs => cases hb
    | err hpc hs => cases hb
    | hookPanicked hpc hs => cases hb
  | @unhooking state pc pc' processes hphase hs =>
    obtain ⟨hstopped, rfl⟩ := stopped_unhooking hb
    exact stopsBefore_unhook (p := state.syringe) (.inl hphase) hs hstopped
  | unhooked hphase hs => cases hb
  | unhookPanicked hphase hs => cases hb

theorem step_stopped (h : Step build provided s l t) (hb : t.phase.stopped = some b) :
    StopsBefore b s l := by
  cases h with
  | start hphase => cases hb
  | @hookSpotify p state hphase =>
    cases state with
    | hooked st => cases hb
    | unhooked => cases hb
  | unhookSpotify hphase => cases hb
  | unhookNothing hphase => exact .inr (.inr ⟨hb, by simp⟩)
  | call hc h => exact advance_stopped h hb
  | resolveBlocker hres h =>
    rcases advance_stopped h hb with ⟨-, hl⟩ | ⟨-, e, hl⟩ | ⟨hphase, -⟩
    · cases hl
    · cases hl
    · exact .inr (.inr ⟨hphase, by simp⟩)
  | kill hphase => cases hb
  | exit => exact .inr (.inr ⟨hb, by simp⟩)

theorem not_stops_of_ne (h : ∀ res, l ≠ .call (.stopRpc res)) (res : Except SyringeError Unit) :
    ¬ Stops b res s l := by
  rintro ⟨-, hl⟩
  exact h res hl

/-- While no `stop_rpc` of a previous blocker fails, the one of the module that is ejected next
was successful. -/
theorem stopped_trace (h : Trace (step build provided) (initial fs ps) tr s)
    (hprevious : Along PreviousStops tr) (hb : s.phase.stopped = some b) : Stopped b tr := by
  induction h generalizing b with
  | refl => cases hb
  | snoc h hs ih =>
    obtain ⟨hprevious, hlast⟩ := along_concat.mp hprevious
    rcases step_stopped (step_cases hs) hb with hok | ⟨hphase, e, hl⟩ | ⟨hb, hl⟩
    · exact since_concat.mpr (.inl hok)
    · cases hlast _ _ _ hphase hl
    · refine since_concat.mpr (.inr ⟨?_, ih hprevious hb⟩)
      rintro ⟨e, he⟩
      exact not_stops_of_ne hl _ he

theorem stopsFirst_trace (h : Trace (step build provided) (initial fs ps) tr s)
    (hprevious : Along PreviousStops tr) : StopsFirst tr := by
  induction h with
  | refl => exact alongPast_nil
  | snoc h hs ih =>
    obtain ⟨hprevious, -⟩ := along_concat.mp hprevious
    refine alongPast_concat.mpr ⟨ih hprevious, ?_⟩
    rintro b ⟨hb, -⟩
    exact stopped_trace h hprevious (Phase.stopped_of_ejecting hb)

theorem advance_callStop {prevPayload : Path} {res : Except SyringeError Unit}
    (hphase : s.phase = .hooking p (.hooking (.callStop prevPayload)))
    (h : s.advance (.stopRpc res) = some t) :
    t.phase = .hooking p (.hooking (.ejectPrevious prevPayload)) := by
  simp only [advance, hphase, HookCall.step, hookStep, Option.map_some, Option.some.injEq] at h
  subst h
  rfl

/-- The only call that a handler makes on a previous blocker it has stopped is to eject it. -/
theorem advance_removing {prevPayload : Path}
    (hphase : s.phase = .hooking p (.hooking (.ejectPrevious prevPayload)))
    (h : Advance s c t) : ∃ res, c = .eject res := by
  cases h with
  | @hooking _ _ call h hs =>
    obtain ⟨rfl, rfl⟩ := Phase.hooking.inj (hphase.symm.trans h)
    obtain ⟨next, hs⟩ := hs.hookStep rfl
    generalize call.processes = ps' at hs
    cases hs with
    | ejectPrevious => exact ⟨_, rfl⟩
    | ejectPreviousFailed => exact ⟨_, rfl⟩
  | unhooking h hs => cases hphase.symm.trans h
  | unhooked h hs => cases hphase.symm.trans h
  | unhookPanicked h hs => cases hphase.symm.trans h

/-- Once `stop_rpc` of a previous blocker has returned, the next call ejects it. -/
theorem step_removing {prevPayload : Path}
    (hphase : s.phase = .hooking p (.hooking (.ejectPrevious prevPayload)))
    (h : Step build provided s l t) :
    l = .kill ∨ (∃ res, l = .call (.eject res)) ∨
      t.phase = s.phase ∧ ∀ res, l ≠ .call (.stopRpc res) := by
  cases h with
  | start h => cases hphase.symm.trans h
  | hookSpotify h => cases hphase.symm.trans h
  | unhookSpotify h => cases hphase.symm.trans h
  | unhookNothing h => cases hphase.symm.trans h
  | call hc h =>
    obtain ⟨res, rfl⟩ := advance_removing hphase h
    exact .inr (.inl ⟨res, rfl⟩)
  | @resolveBlocker env fs res t hres h =>
    have hphase' : ({ s with fs } : Instances).phase =
        .hooking p (.hooking (.ejectPrevious prevPayload)) := hphase
    obtain ⟨_, he⟩ := advance_removing hphase' h
    cases he
  | kill h => exact .inl rfl
  | exit => exact .inr (.inr ⟨rfl, by simp⟩)

theorem not_stopped_of_fails {e : SyringeError} (hb : s.phase.stopping = some b) :
    ¬ Stopped b (tr ++ [(s, .call (.stopRpc (.error e)))]) := by
  rw [Stopped, since_concat]
  rintro (⟨-, hl⟩ | ⟨hne, -⟩)
  · cases hl
  · exact hne ⟨e, hb, rfl⟩

/-- A failed `stop_rpc` of a previous blocker is the last call before the blocker is ejected. -/
theorem previousStops_or_removing (h : Trace (step build provided) (initial fs ps) tr s)
    (hun : Along Uninterrupted tr) (hfirst : StopsFirst tr) :
    Along PreviousStops tr ∨ ∃ p prevPayload,
      s.phase = .hooking p (.hooking (.ejectPrevious prevPayload)) ∧
        ¬ Stopped (p, prevPayload) tr := by
  induction h with
  | refl => exact .inl along_nil
  | @snoc tr s t l h hs ih =>
    obtain ⟨hun, hkill⟩ := along_concat.mp hun
    obtain ⟨hfirst, hejects⟩ := alongPast_concat.mp hfirst
    rcases ih hun hfirst with hprevious | ⟨p, prevPayload, hphase, hnot⟩
    · by_cases hlast : PreviousStops s l
      · exact .inl (along_concat.mpr ⟨hprevious, hlast⟩)
      · simp only [PreviousStops, not_forall] at hlast
        obtain ⟨p, prevPayload, res, hphase, rfl, hres⟩ := hlast
        cases res with
        | ok => exact absurd rfl hres
        | error e =>
          refine .inr ⟨p, prevPayload, advance_callStop hphase hs, ?_⟩
          exact not_stopped_of_fails (by rw [hphase]; rfl)
    · right
      rcases step_removing hphase (step_cases hs) with rfl | ⟨res, rfl⟩ | ⟨hsame, hl⟩
      · exact absurd rfl (hkill ⟨p, prevPayload, hphase⟩)
      · have hstopped := hejects (p, prevPayload) ⟨by rw [hphase]; rfl, res, rfl⟩
        exact absurd hstopped hnot
      · refine ⟨p, prevPayload, hsame.trans hphase, ?_⟩
        rw [Stopped, since_concat]
        rintro (hok | ⟨-, hearlier⟩)
        · exact not_stops_of_ne hl _ hok
        · exact hnot hearlier

/-- In any run of instances, no blocker is ejected before it has been stopped if no `stop_rpc` of a
previous blocker fails; and only then, but for an application that is killed right after it. -/
theorem stopsFirst_iff (h : Trace (step build provided) (initial fs ps) tr s) :
    (Along PreviousStops tr → StopsFirst tr) ∧
      (Along Uninterrupted tr → ¬ s.Removing → StopsFirst tr → Along PreviousStops tr) := by
  refine ⟨stopsFirst_trace h, ?_⟩
  intro hun hend hfirst
  rcases previousStops_or_removing h hun hfirst with hprevious | ⟨p, prevPayload, hphase, -⟩
  · exact hprevious
  · exact absurd ⟨p, prevPayload, hphase⟩ hend

def leftBlocker : Path := ⟨"C:\\BurntSushi", defaultBlockerFileName⟩

/-- An earlier instance has left its blocker in the process. -/
def leftInitial : Instances := initial (fun _ => none) fun _ => ⟨true, [leftBlocker]⟩

/-- The removal of the blocker, up to the call of `stop_rpc`. -/
def beginRemoval : List Label :=
  beginHook ++ [.call (.findModuleByName (.ok ())), .call (.getPayloadProcedure (.ok true))]

/-- The blocker that was left is stopped and ejected; then the new one is injected, stopped and
ejected again. -/
def stopsTwice : List Label :=
  beginRemoval ++ [.call (.stopRpc (.ok ())), .call (.eject (.ok ()))] ++ hookCalls ++
    [.unhookSpotify, .call (.getPayloadProcedure (.ok true)), .call (.stopRpc (.ok ())),
      .call (.join (.ok ())), .call (.eject (.ok ()))]

theorem previousStops_stopsTwice :
    Along PreviousStops (trail (step sampleBuild none) leftInitial stopsTwice) := by
  apply along_trail
  intro l hl s p prevPayload res hphase he
  subst he
  simpa [stopsTwice, beginRemoval, beginHook, hookCalls] using hl

theorem stopsFirst_iff_stopsTwice :
    let tr := trail (step sampleBuild none) leftInitial stopsTwice
    StopsFirst tr ∧ (Along Uninterrupted tr → Along PreviousStops tr) := by
  obtain ⟨hstops, hconv⟩ := stopsFirst_iff (s := after (step sampleBuild none) leftInitial
    stopsTwice) (trace_after rfl)
  have hfirst := hstops previousStops_stopsTwice
  refine ⟨hfirst, ?_⟩
  intro hun
  exact hconv hun (by rintro ⟨p, prevPayload, ⟨⟩⟩) hfirst

/-- The blocker that an earlier instance has left is ejected although it could not be stopped. -/
theorem not_stopsFirst_running :
    let step := step sampleBuild none
    let labels := beginRemoval ++ [.call (.stopRpc (.error .processInaccessible))] ++
      [.call (.eject (.ok ()))]
    Trace step leftInitial (trail step leftInitial labels) (after step leftInitial labels) ∧
      ¬ StopsFirst (trail step leftInitial labels) := by
  refine ⟨trace_after rfl, ?_⟩
  intro hfirst
  have hrun : run (step sampleBuild none) leftInitial beginRemoval = some _ := rfl
  have hrun' : run (step sampleBuild none) leftInitial
      (beginRemoval ++ [.call (.stopRpc (.error .processInaccessible))]) = some _ := rfl
  rw [trail_concat hrun' rfl] at hfirst
  have hstopped := (alongPast_concat.mp hfirst).2 (0, leftBlocker) ⟨rfl, .ok (), rfl⟩
  rw [trail_concat hrun rfl] at hstopped
  exact not_stopped_of_fails rfl hstopped

end Instances

end BurntSushi.AdBlocker
