import Mathlib.Logic.Basic

/-! Code that may read through a null pointer or panic, and `catch_unwind` around it. -/
namespace Unwind

/-- What stops a piece of code; only a panic unwinds. -/
inductive Fault (ε : Type) where
  | nullRead
  | panic (info : ε)

/-- Code that acts on a state, which a fault leaves as it is by then. -/
def Code (ε σ α : Type) := σ → Except (Fault ε) α × σ

variable {ε σ α β : Type}

instance : Monad (Code ε σ) where
  pure x s := (.ok x, s)
  bind code k s := match code s with
    | (.ok x, t) => k x t
    | (.error fault, t) => (.error fault, t)

/-- Run the code from a state. -/
def Code.run (code : Code ε σ α) (s : σ) : Except (Fault ε) α × σ := code s

def update (f : σ → σ) : Code ε σ Unit := fun s => (.ok (), f s)

/-- A read through a pointer. -/
def deref : Option α → Code ε σ α
  | some x => pure x
  | none => fun s => (.error .nullRead, s)

/-- A call that returns or panics. -/
def call : Except ε α → Code ε σ α
  | .ok x => pure x
  | .error info => fun s => (.error (.panic info), s)

def catchUnwind (body : Code ε σ α) : Code ε σ (Except ε α) := fun s =>
  match body.run s with
  | (.ok x, t) => (.ok (.ok x), t)
  | (.error (.panic info), t) => (.ok (.error info), t)
  | (.error .nullRead, t) => (.error .nullRead, t)

variable {code : Code ε σ α} {k : α → Code ε σ β} {f : σ → σ} {s t : σ} {x : α} {info : ε}
  {fault : Fault ε}

@[simp] theorem run_pure : Code.run (pure x : Code ε σ α) s = (.ok x, s) := rfl

@[simp] theorem run_update : Code.run (update f : Code ε σ Unit) s = (.ok (), f s) := rfl

@[simp] theorem run_deref_some : Code.run (deref (some x) : Code ε σ α) s = (.ok x, s) := rfl

@[simp] theorem run_deref_none :
    Code.run (deref none : Code ε σ α) s = (.error .nullRead, s) := rfl

@[simp] theorem run_call_ok : Code.run (call (.ok x) : Code ε σ α) s = (.ok x, s) := rfl

@[simp] theorem run_call_error :
    Code.run (call (.error info) : Code ε σ α) s = (.error (.panic info), s) := rfl

theorem run_bind_ok (h : code.run s = (.ok x, t)) : (code >>= k).run s = (k x).run t := by
  simp only [Code.run] at h
  simp [Code.run, bind, h]

theorem run_bind_error (h : code.run s = (.error fault, t)) :
    (code >>= k).run s = (.error fault, t) := by
  simp only [Code.run] at h
  simp [Code.run, bind, h]

theorem run_catchUnwind_ok (h : code.run s = (.ok x, t)) :
    (catchUnwind code).run s = (.ok (.ok x), t) := by
  simp only [Code.run, catchUnwind] at h ⊢
  simp [h]

theorem run_catchUnwind_panic (h : code.run s = (.error (.panic info), t)) :
    (catchUnwind code).run s = (.ok (.error info), t) := by
  simp only [Code.run, catchUnwind] at h ⊢
  simp [h]

/-- `catch_unwind` does not stop a read through a null pointer. -/
theorem run_catchUnwind_nullRead (h : code.run s = (.error .nullRead, t)) :
    (catchUnwind code).run s = (.error .nullRead, t) := by
  simp only [Code.run, catchUnwind] at h ⊢
  simp [h]

end Unwind
