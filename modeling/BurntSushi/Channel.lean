import Mathlib.Tactic.Common

/-! Channels between a sender and a receiver, each of which may be dropped: one for a single value,
and one for the last of several. -/
namespace Channel

variable {α : Type*}

/-- What a receiver gets at once. -/
inductive Polled (β : Type*) where
  | pending
  | ready (x : β)
  | closed
  deriving DecidableEq, Repr

/-- A channel for one value; sending it uses up the sender. -/
structure Oneshot (α : Type*) where
  value : Option α
  sender : Bool
  receiver : Bool
  deriving DecidableEq, Repr

namespace Oneshot

def new : Oneshot α := ⟨none, true, true⟩

/-- `none` when nobody is there to receive the value. -/
def send (c : Oneshot α) (x : α) : Option (Oneshot α) :=
  if c.receiver then some { c with value := some x, sender := false } else none

def poll (c : Oneshot α) : Polled α :=
  match c.value with
  | some x => .ready x
  | none => if c.sender then .pending else .closed

def dropSender (c : Oneshot α) : Oneshot α := { c with sender := false }

def dropReceiver (c : Oneshot α) : Oneshot α := { c with receiver := false }

end Oneshot

/-- A channel for the last value, with the version of it that its receiver has seen. -/
structure Watch (α : Type*) where
  value : α
  version : Nat
  sender : Bool
  receiver : Option Nat
  deriving DecidableEq, Repr

namespace Watch

def new (x : α) : Watch α := ⟨x, 0, true, some 0⟩

/-- `none` when nobody is there to receive the value. -/
def send (c : Watch α) (x : α) : Option (Watch α) :=
  if c.receiver.isSome then some { c with value := x, version := c.version + 1 } else none

/-- Wait for a version that has not been seen, and see it. -/
def changed (c : Watch α) : Polled (Watch α) :=
  if c.receiver ≠ some c.version then .ready { c with receiver := some c.version }
  else if c.sender then .pending
  else .closed

def dropSender (c : Watch α) : Watch α := { c with sender := false }

def dropReceiver (c : Watch α) : Watch α := { c with receiver := none }

variable {c : Watch α}

@[simp] theorem value_dropSender : c.dropSender.value = c.value := rfl

@[simp] theorem value_dropReceiver : c.dropReceiver.value = c.value := rfl

/-- A receiver that has not seen the last version is not told that the sender is gone. -/
theorem changed_eq_closed : c.changed = .closed ↔
    c.receiver = some c.version ∧ c.sender = false := by
  simp only [changed]
  by_cases hr : c.receiver = some c.version
  · cases c.sender <;> simp [hr]
  · simp [hr]

theorem changed_eq_ready {d : Watch α} : c.changed = .ready d ↔
    c.receiver ≠ some c.version ∧ d = { c with receiver := some c.version } := by
  simp only [changed]
  by_cases hr : c.receiver = some c.version
  · cases c.sender <;> simp [hr]
  · simp [hr, eq_comm]

end Watch

end Channel
