import BurntSushi.Tray.Step

/-! `wait_for_ctrl_c`, the handler that it installs, and the `select!` of `run` around it. -/
namespace BurntSushi.Tray.CtrlC

open Lts
open Channel (Oneshot)

/-- Where the future of `wait_for_ctrl_c` is; `dropped` once another branch has ended the
`select!`. -/
inductive Future where
  | entered
  | awaiting
  | returned
  | dropped
  | panicked
  deriving DecidableEq, Repr

/-- The handler on the thread of `ctrlc`, whose first call takes the sender. -/
inductive Handler where
  | unset
  | armed
  | taken
  | panicked
  deriving DecidableEq, Repr

structure State where
  run : Run
  future : Future
  handler : Handler
  channel : Oneshot Unit

inductive Label where
  | run (l : Tray.Label)
  | setHandler (ok : Bool)
  | poll
  | signal

def initial : State := ⟨.initial, .entered, .unset, .new⟩

/-- Whether `run` is before its `select!`, in it or past it. -/
def stage : Main → Nat
  | .awaitStart => 0
  | .select _ => 1
  | _ => 2

/-- `run` polls the futures of its `select!`. -/
def polls : Main → Bool
  | .select .entered => true
  | .select .changed => true
  | _ => false

namespace State

/-- A step of the rest of `run`, which drops the future where it leaves the `select!`. -/
def advance (s : State) (run : Run) : State :=
  if stage s.run.main = 1 ∧ stage run.main ≠ 1 then
    ⟨run, .dropped, s.handler, s.channel.dropReceiver⟩
  else { s with run }

/-- `ctrlc::set_handler(_)?`, whose error ends the future like a signal. -/
def setHandler (s : State) (ok : Bool) : Option State :=
  if ok then
    if polls s.run.main then some { s with future := .awaiting, handler := .armed } else none
  else
    (s.run.branch .ctrlC).map fun run =>
      ⟨run, .returned, .unset, s.channel.dropSender.dropReceiver⟩

/-- `rx.await.unwrap()`. -/
def poll (s : State) : Option State :=
  match s.channel.poll with
  | .pending => none
  | .closed => some { s with future := .panicked }
  | .ready () =>
    (s.run.branch .ctrlC).map fun run =>
      { s with run, future := .returned, channel := s.channel.dropReceiver }

/-- Ctrl-C; without a handler it ends the process. -/
def signal (s : State) : Option State :=
  match s.handler with
  | .unset => none
  | .armed =>
    match s.channel.send () with
    | some channel => some { s with handler := .taken, channel }
    | none => some { s with handler := .panicked, channel := s.channel.dropSender }
  | _ => some s

end State

/-- `logs` says that the level of the log admits `info!`. -/
def step (logs : Bool) (s : State) : Label → Option State
  | .run (.branch .ctrlC) => none
  | .run l => (s.run.step logs l).map s.advance
  | .setHandler ok => if s.future = .entered then s.setHandler ok else none
  | .poll => if s.future = .awaiting then s.poll else none
  | .signal => s.signal

/-- The step of `run` that a step is. -/
def Label.seen : Label → Option Tray.Label
  | .run l => some l
  | .setHandler ok => if ok then none else some (.branch .ctrlC)
  | .poll => some (.branch .ctrlC)
  | .signal => none

/-- The first Ctrl-C comes when nothing waits for it any more. -/
def Late (s : State) (l : Label) : Prop :=
  l = .signal ∧ s.handler = .armed ∧ s.future ≠ .awaiting

/-- Ctrl-C comes while it is waited for, or the handler cannot be installed. -/
def Stops (s : State) (l : Label) : Prop :=
  l = .setHandler false ∨ l = .signal ∧ s.future = .awaiting

structure Inv (s : State) : Prop where
  future : s.future ≠ .panicked
  entered : s.future = .entered → s.handler = .unset ∧ s.channel = .new
  awaiting : s.future = .awaiting → stage s.run.main = 1 ∧
    (s.handler = .armed ∧ s.channel = .new ∨
      s.handler = .taken ∧ s.channel = ⟨some (), false, true⟩)
  left : s.future = .dropped ∨ s.future = .returned →
    stage s.run.main = 2 ∧ s.channel.receiver = false

variable {logs : Bool} {s t : State} {l : Label} {tr : List (State × Label)}

theorem inv_initial : Inv initial :=
  ⟨by simp [initial], by simp [initial], by simp [initial], by simp [initial]⟩

theorem branch_ctrlC (s : Run) :
    s.branch .ctrlC = if polls s.main then some s.leaveSelect else none := by
  simp only [Run.branch]
  rcases s.main with _ | (_ | _ | _) | _ | _ | _ | _ | _ | _ | _ <;> simp [polls]

theorem stage_of_polls {main : Main} (h : polls main = true) : stage main = 1 := by
  cases main with
  | select wait => rfl
  | _ => cases h

theorem stage_le (main : Main) : stage main ≤ 2 := by
  cases main <;> simp [stage]

theorem stage_waitForExit {s t : Run} {wait : Wait} {finish : Run → Run} {main : Wait → Main}
    {n : Nat} (hn : n ≤ 2) (hfinish : ∀ s, n ≤ stage (finish s).main)
    (hmain : ∀ wait, n ≤ stage (main wait))
    (h : s.waitForExit wait finish main = some t) : n ≤ stage t.main := by
  cases wait with
  | entered =>
    simp only [Run.waitForExit] at h
    split at h
    · cases h
      exact hfinish s
    · cases h
      exact hmain .changed
  | changed =>
    simp only [Run.waitForExit] at h
    split at h
    · cases h
    · cases h
      exact hn
    · split at h
      · cases h
        exact hmain .joining
      · cases h
        exact hfinish _
  | joining =>
    simp only [Run.waitForExit] at h
    split at h
    · cases h
      exact hfinish s
    · split at h
      · cases h
        exact hn
      · cases h

/-- `run` does not come back to its `select!`. -/
theorem stage_step {s t : Run} {l : Tray.Label} (h : Run.Step logs s l t) :
    stage s.main ≤ stage t.main := by
  cases h with
  | buildUi hu => exact Nat.le_refl _
  | sendStart hu =>
    simp only [Run.sendStart]
    split <;> exact Nat.le_refl _
  | sendFailed hu =>
    simp only [Run.sendStart]
    split <;> exact Nat.le_refl _
  | showMenu hu => exact Nat.le_refl _
  | closeMenu hu => exact Nat.le_refl _
  | quit hu hq => exact Nat.le_refl _
  | sendExit hu =>
    simp only [Run.sendExit]
    split <;> exact Nat.le_refl _
  | dropSender hu => exact Nat.le_refl _
  | start hm ht =>
    rw [hm]
    exact Nat.zero_le _
  | branch hm hb => exact stage_le _
  | waitSelect hm ht =>
    rw [hm]
    exact stage_waitForExit (by simp [stage]) (fun _ => by simp [stage, Run.leaveSelect])
      (fun _ => by simp [stage]) ht
  | waitExit hm ht =>
    rw [hm]
    exact stage_waitForExit (by simp [stage]) (fun _ => by simp [stage, Run.endExit])
      (fun _ => by simp [stage]) ht
  | shuttingDown hm hl => exact stage_le _
  | stop hm => exact stage_le _
  | post hm => exact stage_le _
  | exiting hm hl => exact stage_le _
  | unwind hp => exact stage_le _
  | abort hu => exact stage_le _
  | update hu ha =>
    simp only [Run.update]
    split
    · split <;> exact Nat.le_refl _
    · exact Nat.le_refl _

theorem step_run {l : Tray.Label} (h : step logs s (.run l) = some t) :
    ∃ run, s.run.step logs l = some run ∧ t = s.advance run := by
  simp only [step] at h
  split at h
  · cases h
  · rename_i heq
    obtain rfl := Label.run.inj heq
    obtain ⟨run, hrun, rfl⟩ := Option.map_eq_some_iff.mp h
    exact ⟨run, hrun, rfl⟩
  all_goals rename_i heq; cases heq

/-- The handler is installed, or its error ends the `select!`. -/
theorem step_setHandler {ok : Bool} (h : step logs s (.setHandler ok) = some t) :
    s.future = .entered ∧ polls s.run.main = true ∧
      t = if ok then { s with future := .awaiting, handler := .armed }
        else ⟨s.run.leaveSelect, .returned, .unset, s.channel.dropSender.dropReceiver⟩ := by
  simp only [step, Option.ite_none_right_eq_some, State.setHandler, branch_ctrlC] at h
  obtain ⟨hf, h⟩ := h
  cases ok with
  | true =>
    simp only [if_true, Option.ite_none_right_eq_some, Option.some.injEq] at h
    exact ⟨hf, h.1, h.2.symm⟩
  | false =>
    simp only [Bool.false_eq_true, if_false] at h
    obtain ⟨run, hrun, rfl⟩ := Option.map_eq_some_iff.mp h
    simp only [Option.ite_none_right_eq_some, Option.some.injEq] at hrun
    exact ⟨hf, hrun.1, by simp [hrun.2]⟩

/-- The future returns once the handler has sent. -/
theorem step_poll (hI : Inv s) (h : step logs s .poll = some t) :
    s.future = .awaiting ∧ polls s.run.main = true ∧ s.handler = .taken ∧
      t = { s with
        run := s.run.leaveSelect, future := .returned, channel := s.channel.dropReceiver } := by
  simp only [step, Option.ite_none_right_eq_some] at h
  obtain ⟨hf, h⟩ := h
  simp only [State.poll] at h
  rcases (hI.awaiting hf).2 with ⟨-, hc⟩ | ⟨hh, hc⟩
  · simp [hc, Oneshot.poll, Oneshot.new] at h
  · simp only [hc, Oneshot.poll, branch_ctrlC] at h
    obtain ⟨run, hrun, rfl⟩ := Option.map_eq_some_iff.mp h
    simp only [Option.ite_none_right_eq_some, Option.some.injEq] at hrun
    exact ⟨hf, hrun.1, hh, by rw [← hrun.2, hc]⟩

/-- A handler that was not called and that nothing waits for has lost its receiver. -/
theorem Inv.closed (hI : Inv s) (hh : s.handler = .armed) (hf : s.future ≠ .awaiting) :
    s.channel.receiver = false := by
  cases hfuture : s.future with
  | entered =>
    have hunset := (hI.entered hfuture).1
    rw [hh] at hunset
    cases hunset
  | awaiting => exact absurd hfuture hf
  | returned => exact (hI.left (.inr hfuture)).2
  | dropped => exact (hI.left (.inl hfuture)).2
  | panicked => exact absurd hfuture hI.future

/-- The first call of the handler sends if the future waits and panics otherwise; the others do
nothing. -/
theorem step_signal (hI : Inv s) (h : step logs s .signal = some t) :
    s.handler = .armed ∧ s.future = .awaiting ∧
      t = { s with handler := .taken, channel := ⟨some (), false, true⟩ } ∨
    s.handler = .armed ∧ s.future ≠ .awaiting ∧
      t = { s with handler := .panicked, channel := s.channel.dropSender } ∨
    (s.handler = .taken ∨ s.handler = .panicked) ∧ t = s := by
  simp only [step, State.signal] at h
  cases hh : s.handler with
  | unset => simp [hh] at h
  | armed =>
    simp only [hh] at h
    by_cases hf : s.future = .awaiting
    · rcases (hI.awaiting hf).2 with ⟨-, hc⟩ | ⟨htaken, -⟩
      · rw [hc] at h
        exact .inl ⟨rfl, hf, (Option.some.inj h).symm⟩
      · rw [hh] at htaken
        cases htaken
    · have hclosed := hI.closed hh hf
      simp only [Oneshot.send, hclosed, Bool.false_eq_true, if_false, Option.some.injEq] at h
      exact .inr (.inl ⟨rfl, hf, h.symm⟩)
  | taken =>
    simp only [hh, Option.some.injEq] at h
    exact .inr (.inr ⟨.inl rfl, h.symm⟩)
  | panicked =>
    simp only [hh, Option.some.injEq] at h
    exact .inr (.inr ⟨.inr rfl, h.symm⟩)

theorem inv_advance (hI : Inv s) {run : Run} (hstage : stage s.run.main ≤ stage run.main) :
    Inv (s.advance run) := by
  have hle := stage_le run.main
  simp only [State.advance]
  split
  · rename_i hleft
    refine ⟨by simp, by simp, by simp, ?_⟩
    intro _
    exact ⟨by simp only; omega, rfl⟩
  · rename_i hstays
    refine ⟨hI.future, hI.entered, ?_, ?_⟩
    · intro hf
      obtain ⟨hselects, hchannel⟩ := hI.awaiting hf
      exact ⟨by simp only; omega, hchannel⟩
    · intro hf
      obtain ⟨hpast, hclosed⟩ := hI.left hf
      exact ⟨by simp only; omega, hclosed⟩

theorem inv_step (hI : Inv s) (h : step logs s l = some t) : Inv t := by
  cases l with
  | run l =>
    obtain ⟨run, hrun, rfl⟩ := step_run h
    exact inv_advance hI (stage_step (Run.step_iff.mp hrun))
  | setHandler ok =>
    obtain ⟨hf, hp, rfl⟩ := step_setHandler h
    cases ok with
    | true =>
      refine ⟨by simp, by simp, ?_, by simp⟩
      intro _
      exact ⟨stage_of_polls hp, .inl ⟨rfl, (hI.entered hf).2⟩⟩
    | false => exact ⟨by simp, by simp, by simp, fun _ => ⟨rfl, rfl⟩⟩
  | poll =>
    obtain ⟨-, -, -, rfl⟩ := step_poll hI h
    exact ⟨by simp, by simp, by simp, fun _ => ⟨rfl, rfl⟩⟩
  | signal =>
    rcases step_signal hI h with ⟨-, hf, rfl⟩ | ⟨hh, hf, rfl⟩ | ⟨-, rfl⟩
    · refine ⟨hI.future, ?_, ?_, ?_⟩
      · intro hentered
        cases hf.symm.trans hentered
      · intro _
        exact ⟨(hI.awaiting hf).1, .inr ⟨rfl, rfl⟩⟩
      · intro hleft
        rw [hf] at hleft
        simp at hleft
    · refine ⟨hI.future, ?_, fun ha => absurd ha hf, ?_⟩
      · intro hentered
        have hunset := (hI.entered hentered).1
        rw [hh] at hunset
        cases hunset
      · intro hleft
        exact hI.left hleft
    · exact hI

theorem inv_trace (h : Trace (step logs) initial tr s) : Inv s :=
  h.invariant inv_initial fun _ _ _ hI hs => inv_step hI hs

/-- A step is one of `run` that Ctrl-C may end, or changes nothing of it. -/
theorem seen_step (hI : Inv s) (h : step logs s l = some t) :
    (l.seen = none ∧ t.run = s.run) ∨
      ∃ b, l.seen = some b ∧ s.run.step logs b = some t.run := by
  cases l with
  | run l =>
    obtain ⟨run, hrun, rfl⟩ := step_run h
    refine .inr ⟨l, rfl, ?_⟩
    simp only [State.advance]
    split <;> exact hrun
  | setHandler ok =>
    obtain ⟨-, hp, rfl⟩ := step_setHandler h
    cases ok with
    | true => exact .inl ⟨rfl, rfl⟩
    | false => exact .inr ⟨.branch .ctrlC, rfl, by simp [Run.step, branch_ctrlC, hp]⟩
  | poll =>
    obtain ⟨-, hp, -, rfl⟩ := step_poll hI h
    exact .inr ⟨.branch .ctrlC, rfl, by simp [Run.step, branch_ctrlC, hp]⟩
  | signal =>
    left
    rcases step_signal hI h with ⟨-, -, rfl⟩ | ⟨-, -, rfl⟩ | ⟨-, rfl⟩ <;> exact ⟨rfl, rfl⟩

theorem panicked_step (hI : Inv s) (h : step logs s l = some t) :
    t.handler = .panicked ↔ s.handler = .panicked ∨ Late s l := by
  cases l with
  | run l =>
    obtain ⟨run, -, rfl⟩ := step_run h
    simp only [State.advance, Late]
    split <;> simp
  | setHandler ok =>
    obtain ⟨hf, -, rfl⟩ := step_setHandler h
    have hunset := (hI.entered hf).1
    cases ok <;> simp [Late, hunset]
  | poll =>
    obtain ⟨-, -, hh, rfl⟩ := step_poll hI h
    simp [Late, hh]
  | signal =>
    rcases step_signal hI h with ⟨hh, hf, rfl⟩ | ⟨hh, hf, rfl⟩ | ⟨hh, rfl⟩
    · simp [Late, hh, hf]
    · simp [Late, hh, hf]
    · rcases hh with hh | hh <;> simp [Late, hh]

/-- The handler has sent, or the future has returned. -/
def Stopped (s : State) : Prop := s.handler = .taken ∨ s.future = .returned

theorem stopped_step (hI : Inv s) (h : step logs s l = some t) (ht : Stopped t) :
    Stopped s ∨ Stops s l := by
  cases l with
  | run l =>
    obtain ⟨run, -, rfl⟩ := step_run h
    left
    simp only [State.advance] at ht
    split at ht
    · rcases ht with ht | ht
      · exact .inl ht
      · cases ht
    · exact ht
  | setHandler ok =>
    obtain ⟨-, -, rfl⟩ := step_setHandler h
    cases ok with
    | true => rcases ht with ht | ht <;> cases ht
    | false => exact .inr (.inl rfl)
  | poll =>
    obtain ⟨-, -, hh, -⟩ := step_poll hI h
    exact .inl (.inl hh)
  | signal =>
    rcases step_signal hI h with ⟨-, hf, -⟩ | ⟨-, -, rfl⟩ | ⟨-, rfl⟩
    · exact .inr (.inr ⟨rfl, hf⟩)
    · rcases ht with ht | ht
      · cases ht
      · exact .inl (.inr ht)
    · exact .inl ht

theorem late_trace (h : Trace (step logs) initial tr s) :
    s.handler = .panicked ↔ ∃ x ∈ tr, Late x.1 x.2 := by
  induction h with
  | refl => simp [initial]
  | snoc h hs ih =>
    rw [panicked_step (inv_trace h) hs, ih]
    simp [or_and_right, exists_or]

theorem caused_trace (h : Trace (step logs) initial tr s) (hs : Stopped s) :
    ∃ x ∈ tr, Stops x.1 x.2 := by
  induction h with
  | refl => rcases hs with hs | hs <;> cases hs
  | snoc h hs' ih =>
    rcases stopped_step (inv_trace h) hs' hs with hstopped | hstops
    · obtain ⟨x, hx, hx'⟩ := ih hstopped
      exact ⟨x, List.mem_append_left _ hx, hx'⟩
    · exact ⟨_, List.mem_concat_self .., hstops⟩

/-- What Ctrl-C does in a run. -/
structure Heard (logs : Bool) (tr : List (State × Label)) (s : State) : Prop where
  seen : Trace (Run.step logs) .initial
    (tr.filterMap fun x => x.2.seen.map (x.1.run, ·)) s.run
  sound : s.future ≠ .panicked
  late : s.handler = .panicked ↔ ∃ x ∈ tr, Late x.1 x.2
  caused : Stopped s → ∃ x ∈ tr, Stops x.1 x.2
  ends : s.handler = .taken → s.future = .awaiting → polls s.run.main = true →
    ∃ t, step logs s .poll = some t ∧ t.run = s.run.leaveSelect

/-- In every interleaving of `run`, its tray and Ctrl-C: the run is one of `run` with its tray, and
its `unwrap` does not panic; the handler panics exactly if its first call comes when another branch
has ended the `select!`; and the branch of Ctrl-C is taken only after a call that came in time, or
where there is no handler, and can be taken then. -/
theorem heard_trace (h : Trace (step logs) initial tr s) : Heard logs tr s := by
  have hI := inv_trace h
  refine ⟨?_, hI.future, late_trace h, caused_trace h, ?_⟩
  · exact h.refine State.run Label.seen fun _ _ _ _ h hs => seen_step (inv_trace h) hs
  · intro hh hf hp
    rcases (hI.awaiting hf).2 with ⟨harmed, -⟩ | ⟨-, hc⟩
    · rw [hh] at harmed
      cases harmed
    · refine ⟨{ s with run := s.run.leaveSelect, future := .returned,
                       channel := s.channel.dropReceiver }, ?_, rfl⟩
      simp [step, State.poll, hf, hc, Oneshot.poll, branch_ctrlC, hp]

/-- The user exits from the menu, and Ctrl-C comes while the blocker stops. -/
def lateCtrlC : List Label :=
  [.run (.buildUi true), .run .sendStart, .run .start, .setHandler true, .run .waitForExit,
    .run .showMenu, .run (.closeMenu true), .run .quit, .run .sendExit, .run .dropSender,
    .run .waitForExit, .run .waitForExit, .run .shuttingDown, .signal]

theorem heard_lateCtrlC : Heard true (trail (step true) initial lateCtrlC)
    (after (step true) initial lateCtrlC) :=
  heard_trace (trace_after rfl)

end BurntSushi.Tray.CtrlC
