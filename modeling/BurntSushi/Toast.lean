import BurntSushi.Decimal
import BurntSushi.Lts

/-! `toast::show`: the buttons of a toast, and the one-slot channel that its callbacks send to. -/
namespace BurntSushi.Toast

open Lts Decimal

/-- The first number that is not a `usize`, of 64 bits. -/
def usizeEnd : Nat := 0x10000000000000000

/-- The slice of `(label, id)` pairs. -/
structure Actions (Id : Type*) where
  toList : List (String × Id)
  length_le : toList.length ≤ usizeEnd

/-- A button of the toast. -/
structure Action where
  content : String
  arguments : String
  deriving DecidableEq, Repr

/-- What the operating system calls back with. -/
inductive Callback where
  | activated (res : Except String String)
  | dismissed (res : Except String String)
  | failed (err : String)

variable {Id : Type*}

/-- The buttons that the toast is built with. -/
def buttons (actions : Actions Id) : List Action :=
  actions.toList.zipIdx.map fun (action, i) => ⟨action.1, toString i⟩

/-- `id.parse::<usize>().ok()`. -/
def parseUsize (id : String) : Option Nat := parse usizeEnd id.toList

/-- What a callback tries to send. -/
def sent : Callback → Option Nat
  | .activated (.ok id) => parseUsize id
  | .activated (.error _) => none
  | .dismissed _ => none
  | .failed _ => none

/-- `actions.get(index)` on what was received. -/
def select (actions : Actions Id) (clicked : Option Nat) : Option Id :=
  clicked.bind fun index => actions.toList[index]?.map Prod.snd

/-- A call of `show`; `callbacks` says that the closures with the senders are still there. -/
structure Show (Id : Type*) where
  registered : Bool
  callbacks : Bool
  slot : Option (Option Nat)
  result : Option (Option Id)

inductive Label where
  | register (shown : Bool)
  | callback (c : Callback)
  | dropCallbacks
  | recv

namespace Show

def initial : Show Id := ⟨false, true, none, none⟩

/-- `try_send` fails on a full channel, and after `show` has returned on a closed one. -/
def trySend (s : Show Id) (clicked : Option Nat) : Show Id :=
  if s.result.isSome || s.slot.isSome then s else { s with slot := some clicked }

/-- One poll of `rx.recv()`, and the rest of `show` when it is ready. -/
def recv (actions : Actions Id) (s : Show Id) : Option (Show Id) :=
  match s.slot with
  | some clicked => some { s with slot := none, result := some (select actions clicked) }
  | none => if s.callbacks then none else some { s with result := some none }

def step (actions : Actions Id) (s : Show Id) : Label → Option (Show Id)
  | .register shown =>
    if s.registered || s.result.isSome then none
    else if shown then some { s with registered := true }
    else some { s with result := some none }
  | .callback c => if s.registered && s.callbacks then some (s.trySend (sent c)) else none
  | .dropCallbacks =>
    if s.registered && s.callbacks then some { s with callbacks := false } else none
  | .recv => if s.registered && s.result.isNone then s.recv actions else none

/-- The call once its task has been polled. -/
def polled (actions : Actions Id) (s : Show Id) : Show Id := (step actions s .recv).getD s

end Show

/-- The callbacks of an execution, in their order. -/
def delivered (tr : List (Show Id × Label)) : List Callback :=
  tr.filterMap fun x => match x.2 with
    | .callback c => some c
    | _ => none

/-- The `ask_for_approval` buttons. -/
def approvalActions : Actions Bool := ⟨[("Update", true), ("Ignore", false)], by decide⟩

/-- `ask_for_approval` on what `show` resolves to. -/
def askForApproval (shown : Option Bool) : Bool := shown.getD false

/-- The first callback is an activation whose argument denotes an index of the slice, and `id`
is the one of the action there. -/
def Chosen (actions : Actions Id) (callbacks : List Callback) (id : Id) : Prop :=
  ∃ arg i action, callbacks.head? = some (.activated (.ok arg)) ∧ Denotes arg.toList i ∧
    actions.toList[i]? = some action ∧ action.2 = id

/-- The call returns what the first callback has chosen, and nothing later changes that. -/
structure AnswersFirst (actions : Actions Id) (tr : List (Show Id × Label)) (s : Show Id) :
    Prop where
  chosen : ∀ id, s.result = some (some id) → Chosen actions (delivered tr) id
  returns : ∀ id, (s.polled actions).result = some (some id) ↔ Chosen actions (delivered tr) id
  kept : ∀ r tr' t, Trace (Show.step actions) s tr' t → s.result = some r → t.result = some r
  settled : delivered tr ≠ [] → ∃ r, ∀ tr' t, Trace (Show.step actions) s tr' t →
    (t.polled actions).result = some r

variable {actions : Actions Id} {s t : Show Id} {tr tr' : List (Show Id × Label)} {l : Label}
  {c : Callback} {clicked : Option Nat} {id : Id} {i : Nat} {r : Option Id}

theorem getElem?_buttons {button : Action} :
    (buttons actions)[i]? = some button ↔
      ∃ action, actions.toList[i]? = some action ∧ button = ⟨action.1, toString i⟩ := by
  simp only [buttons, List.getElem?_map, List.getElem?_zipIdx, Option.map_map,
    Option.map_eq_some_iff, Function.comp_apply, Nat.zero_add]
  grind

theorem parseUsize_eq_some_iff {arg : String} :
    parseUsize arg = some i ↔ Denotes arg.toList i ∧ i < usizeEnd :=
  parse_eq_some_iff (by decide)

theorem lt_usizeEnd {action : String × Id} (ha : actions.toList[i]? = some action) :
    i < usizeEnd := by
  have hi := (List.getElem?_eq_some_iff.mp ha).1
  have hle := actions.length_le
  omega

/-- What is selected for the first callback is what it has chosen. -/
theorem select_sent_eq_some_iff {callbacks : List Callback} :
    (∃ c, callbacks.head? = some c ∧ select actions (sent c) = some id) ↔
      Chosen actions callbacks id := by
  constructor
  · rintro ⟨c, hc, hs⟩
    obtain ⟨i, hi, hs⟩ := Option.bind_eq_some_iff.mp hs
    obtain ⟨action, ha, hid⟩ := Option.map_eq_some_iff.mp hs
    cases c with
    | activated res =>
      cases res with
      | ok arg => exact ⟨arg, i, action, hc, (parseUsize_eq_some_iff.mp hi).1, ha, hid⟩
      | error => simp [sent] at hi
    | dismissed => simp [sent] at hi
    | failed => simp [sent] at hi
  · rintro ⟨arg, i, action, hc, hd, ha, rfl⟩
    have hparse := parseUsize_eq_some_iff.mpr ⟨hd, lt_usizeEnd ha⟩
    exact ⟨_, hc, by simp [sent, select, hparse, ha]⟩

/-- How far a call has come after the execution `tr`: the first callback waits in the channel or
has been answered. -/
structure Answered (actions : Actions Id) (tr : List (Show Id × Label)) (s : Show Id) : Prop where
  unregistered : s.registered = false → delivered tr = []
  pending : s.result = none → s.slot = (delivered tr).head?.map sent
  returned : ∀ r, s.result = some r →
    r = (delivered tr).head?.bind fun c => select actions (sent c)
  silent : s.result.isSome → delivered tr = [] → s.registered = false ∨ s.callbacks = false

theorem trySend_of_returned (h : s.result.isSome) : s.trySend clicked = s := by
  simp [Show.trySend, h]

theorem trySend_of_full (h : s.slot.isSome) : s.trySend clicked = s := by
  simp [Show.trySend, h]

theorem trySend_of_empty (hr : s.result = none) (hs : s.slot = none) :
    s.trySend clicked = { s with slot := some clicked } := by
  simp [Show.trySend, hr, hs]

theorem delivered_concat_callback :
    delivered (tr ++ [(s, .callback c)]) = delivered tr ++ [c] := by
  simp [delivered]

theorem delivered_concat (hl : ∀ c, l ≠ .callback c) :
    delivered (tr ++ [(s, l)]) = delivered tr := by
  cases l with
  | callback c => exact absurd rfl (hl c)
  | _ => simp [delivered]

namespace Answered

theorem register (h : Answered actions tr s) {shown : Bool}
    (hs : s.step actions (.register shown) = some t) :
    Answered actions (tr ++ [(s, .register shown)]) t := by
  simp only [Show.step, Option.ite_none_left_eq_some, Bool.or_eq_true, not_or,
    Bool.not_eq_true, Option.isSome_eq_false_iff, Option.isNone_iff_eq_none] at hs
  obtain ⟨⟨hreg, hres⟩, hs⟩ := hs
  have hnil := h.unregistered hreg
  have htr : delivered (tr ++ [(s, .register shown)]) = [] := by
    rw [delivered_concat (by simp), hnil]
  have hslot := h.pending hres
  rw [hnil] at hslot
  cases shown with
  | true =>
    obtain rfl := Option.some.inj hs
    exact ⟨fun _ => htr, fun _ => by rw [htr]; exact hslot, by simp [hres], by simp [hres]⟩
  | false =>
    obtain rfl := Option.some.inj hs
    exact ⟨fun _ => htr, by simp, by simp [htr], fun _ _ => .inl hreg⟩

theorem callback (h : Answered actions tr s) (hs : s.step actions (.callback c) = some t) :
    Answered actions (tr ++ [(s, .callback c)]) t := by
  simp only [Show.step, Option.ite_none_right_eq_some, Bool.and_eq_true,
    Option.some.injEq] at hs
  obtain ⟨⟨hreg, hcallbacks⟩, rfl⟩ := hs
  have hkept : delivered tr ≠ [] →
      (delivered (tr ++ [(s, .callback c)])).head? = (delivered tr).head? := by
    intro hne
    rw [delivered_concat_callback, List.head?_append_of_ne_nil _ hne]
  have hconcat : delivered (tr ++ [(s, .callback c)]) ≠ [] := by
    simp [delivered_concat_callback]
  cases hres : s.result with
  | some r =>
    have hne : delivered tr ≠ [] := by
      intro hnil
      rcases h.silent (by simp [hres]) hnil with hf | hf
      · simp [hreg] at hf
      · simp [hcallbacks] at hf
    rw [trySend_of_returned (by simp [hres])]
    refine ⟨by simp [hreg], by simp [hres], ?_, fun _ hnil => absurd hnil hconcat⟩
    rw [hkept hne]
    exact h.returned
  | none =>
    have hslot := h.pending hres
    cases hd : delivered tr with
    | nil =>
      rw [hd] at hslot
      rw [trySend_of_empty hres hslot]
      refine ⟨by simp [hreg], ?_, by simp [hres], by simp [hres]⟩
      intro _
      simp [delivered_concat_callback, hd]
    | cons first rest =>
      rw [hd] at hslot
      rw [trySend_of_full (by simp [hslot])]
      refine ⟨by simp [hreg], ?_, by simp [hres], by simp [hres]⟩
      intro _
      rw [hkept (by simp [hd]), hd]
      exact hslot

theorem dropCallbacks (h : Answered actions tr s)
    (hs : s.step actions .dropCallbacks = some t) :
    Answered actions (tr ++ [(s, .dropCallbacks)]) t := by
  simp only [Show.step, Option.ite_none_right_eq_some, Option.some.injEq] at hs
  obtain ⟨-, rfl⟩ := hs
  have htr : delivered (tr ++ [(s, .dropCallbacks)]) = delivered tr := delivered_concat (by simp)
  constructor
  · rw [htr]
    exact h.unregistered
  · rw [htr]
    exact h.pending
  · rw [htr]
    exact h.returned
  · exact fun _ _ => .inr rfl

theorem recv (h : Answered actions tr s) (hs : s.step actions .recv = some t) :
    Answered actions (tr ++ [(s, .recv)]) t := by
  simp only [Show.step, Option.ite_none_right_eq_some, Bool.and_eq_true,
    Option.isNone_iff_eq_none] at hs
  obtain ⟨⟨hreg, hres⟩, hs⟩ := hs
  have htr : delivered (tr ++ [(s, .recv)]) = delivered tr := delivered_concat (by simp)
  have hslot := h.pending hres
  cases hd : delivered tr with
  | nil =>
    rw [hd] at hslot htr
    simp only [Show.recv, hslot, List.head?_nil, Option.map_none, Option.ite_none_left_eq_some,
      Bool.not_eq_true, Option.some.injEq] at hs
    obtain ⟨hcallbacks, rfl⟩ := hs
    exact ⟨by simp [hreg], by simp, by simp [htr], fun _ _ => .inr hcallbacks⟩
  | cons first rest =>
    rw [hd] at hslot htr
    simp only [Show.recv, hslot, List.head?_cons, Option.map_some, Option.some.injEq] at hs
    obtain rfl := hs
    exact ⟨by simp [hreg], by simp, by simp [htr], by simp [htr]⟩

theorem step (h : Answered actions tr s) (hs : s.step actions l = some t) :
    Answered actions (tr ++ [(s, l)]) t := by
  cases l with
  | register shown => exact h.register hs
  | callback c => exact h.callback hs
  | dropCallbacks => exact h.dropCallbacks hs
  | recv => exact h.recv hs

end Answered

theorem answered (h : Trace (Show.step actions) Show.initial tr s) : Answered actions tr s := by
  induction h with
  | refl => exact ⟨fun _ => rfl, fun _ => rfl, by simp [Show.initial], by simp [Show.initial]⟩
  | snoc _ hs ih => exact ih.step hs

/-- The result of a call is never changed. -/
theorem result_step (hs : s.step actions l = some t) (hr : s.result = some r) :
    t.result = some r := by
  cases l with
  | register shown => simp [Show.step, hr] at hs
  | callback c =>
    simp only [Show.step, Option.ite_none_right_eq_some, Option.some.injEq] at hs
    obtain ⟨-, rfl⟩ := hs
    rw [trySend_of_returned (by simp [hr]), hr]
  | dropCallbacks =>
    simp only [Show.step, Option.ite_none_right_eq_some, Option.some.injEq] at hs
    obtain ⟨-, rfl⟩ := hs
    exact hr
  | recv => simp [Show.step, hr] at hs

theorem result_trace (h : Trace (Show.step actions) s tr t) (hr : s.result = some r) :
    t.result = some r :=
  h.invariant (P := fun s => s.result = some r) hr fun _ _ _ hr hs => result_step hs hr

theorem polled_of_result (hr : s.result = some r) : s.polled actions = s := by
  simp [Show.polled, Show.step, hr]

/-- Once a callback has come, a poll ends the call with what it has sent. -/
theorem Answered.polled_of_first (h : Answered actions tr s)
    (hc : (delivered tr).head? = some c) :
    (s.polled actions).result = some (select actions (sent c)) := by
  cases hres : s.result with
  | some r =>
    rw [polled_of_result hres, hres, h.returned r hres, hc]
    rfl
  | none =>
    have hslot := h.pending hres
    rw [hc] at hslot
    have hreg : s.registered = true := by
      by_contra hn
      simp [h.unregistered (by simpa using hn)] at hc
    simp [Show.polled, Show.step, Show.recv, hreg, hres, hslot]

theorem Answered.polled_of_none (h : Answered actions tr s) (hn : (delivered tr).head? = none) :
    (s.polled actions).result ≠ some (some id) := by
  cases hres : s.result with
  | some r =>
    rw [polled_of_result hres, hres, h.returned r hres, hn]
    simp
  | none =>
    have hslot := h.pending hres
    rw [hn] at hslot
    simp only [Show.polled, Show.step, hres]
    cases hreg : s.registered with
    | false => simp [hres]
    | true => cases hcallbacks : s.callbacks <;> simp [Show.recv, hslot, hcallbacks, hres]

theorem Answered.returns_iff (h : Answered actions tr s) :
    (s.polled actions).result = some (some id) ↔ Chosen actions (delivered tr) id := by
  rw [← select_sent_eq_some_iff]
  cases hc : (delivered tr).head? with
  | none => simp [h.polled_of_none hc]
  | some c => simp [h.polled_of_first hc]

theorem delivered_append : delivered (tr ++ tr') = delivered tr ++ delivered tr' :=
  List.filterMap_append

theorem answersFirst (h : Trace (Show.step actions) Show.initial tr s) :
    AnswersFirst actions tr s := by
  have ha := answered h
  constructor
  · intro id hid
    rw [← ha.returns_iff, polled_of_result hid]
    exact hid
  · exact fun id => ha.returns_iff
  · exact fun r tr' t h' hr => result_trace h' hr
  · intro hne
    obtain ⟨c, hc⟩ := Option.isSome_iff_exists.mp (List.isSome_head?.mpr hne)
    refine ⟨select actions (sent c), ?_⟩
    intro tr' t h'
    apply (answered (h.append h')).polled_of_first
    rw [delivered_append, List.head?_append_of_ne_nil _ hne, hc]

/-- The argument of a button denotes the index of its action. -/
theorem buttons_roundtrip {action : String × Id} (ha : actions.toList[i]? = some action) :
    ∃ button, (buttons actions)[i]? = some button ∧ button.content = action.1 ∧
      parseUsize button.arguments = some i ∧
      ∀ j, Denotes button.arguments.toList j ↔ j = i := by
  have hparse := parseUsize_eq_some_iff.mpr ⟨denotes_toString_iff.mpr rfl, lt_usizeEnd ha⟩
  exact ⟨_, getElem?_buttons.mpr ⟨action, ha, rfl⟩, rfl, hparse, fun j => denotes_toString_iff⟩

theorem chosen_approval_iff {callbacks : List Callback} :
    Chosen approvalActions callbacks true ↔
      ∃ arg, callbacks.head? = some (.activated (.ok arg)) ∧ Denotes arg.toList 0 := by
  constructor
  · rintro ⟨arg, i, action, hc, hd, ha, hid⟩
    match i with
    | 0 => exact ⟨arg, hc, hd⟩
    | 1 =>
      obtain rfl := Option.some.inj ha
      simp at hid
    | i + 2 => simp [approvalActions] at ha
  · rintro ⟨arg, hc, hd⟩
    exact ⟨arg, 0, ("Update", true), hc, hd, rfl, rfl⟩

theorem askForApproval_iff {shown : Option (Option Bool)} :
    shown.map askForApproval = some true ↔ shown = some (some true) := by
  rcases shown with _ | _ | _ <;> simp [askForApproval]

/-- Every call answers with the first of its callbacks, every button leads back to its action, and
an update is approved by nothing but a first click on its button. -/
theorem show_first_callback {actions : Actions Id} {tr : List (Show Id × Label)} {s : Show Id}
    (h : Trace (Show.step actions) Show.initial tr s) :
    AnswersFirst actions tr s ∧
    (∀ i action, actions.toList[i]? = some action → ∃ button, (buttons actions)[i]? = some button ∧
      button.content = action.1 ∧ parseUsize button.arguments = some i ∧
      ∀ j, Denotes button.arguments.toList j ↔ j = i) ∧
    ∀ tr s, Trace (Show.step approvalActions) Show.initial tr s →
      ((s.polled approvalActions).result.map askForApproval = some true ↔
        ∃ arg, (delivered tr).head? = some (.activated (.ok arg)) ∧ Denotes arg.toList 0) := by
  refine ⟨answersFirst h, fun i action ha => buttons_roundtrip ha, ?_⟩
  intro tr s h'
  rw [askForApproval_iff, (answered h').returns_iff, chosen_approval_iff]

/-- The button is clicked, and the toast is then dismissed before `show` is polled. -/
theorem show_first_callback_update :
    let ls : List Label := [.register true, .callback (.activated (.ok "0")),
      .callback (.dismissed (.ok "UserCanceled")), .recv]
    let tr := trail (Show.step approvalActions) Show.initial ls
    let s := after (Show.step approvalActions) Show.initial ls
    AnswersFirst approvalActions tr s ∧ s.result = some (some true) := by
  intro ls tr s
  have h : Trace (Show.step approvalActions) Show.initial tr s := trace_after (by decide)
  exact ⟨(show_first_callback h).1, by decide⟩

end BurntSushi.Toast
