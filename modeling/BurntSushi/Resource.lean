import Mathlib.Logic.Function.Basic

/-! Resources that are used while they are held and released once: code over a heap of them, and
triples whose frame is what else is held. -/
namespace Resource

/-- The resources that are held; no identifier is given out twice. -/
structure Heap (κ : Type) where
  live : Nat → Option κ
  next : Nat
  fresh : ∀ id, next ≤ id → live id = none

namespace Heap

variable {κ : Type}

def empty : Heap κ := ⟨fun _ => none, 0, fun _ _ => rfl⟩

def acquire (h : Heap κ) (r : κ) : Heap κ where
  live := Function.update h.live h.next (some r)
  next := h.next + 1
  fresh id hid := by
    have hne : id ≠ h.next := by omega
    rw [Function.update_of_ne hne]
    exact h.fresh id (by omega)

def release (h : Heap κ) (id : Nat) : Heap κ where
  live := Function.update h.live id none
  next := h.next
  fresh id' hid := by
    by_cases hne : id' = id
    · simp [hne]
    · rw [Function.update_of_ne hne]
      exact h.fresh id' hid

def set (h : Heap κ) (id : Nat) (r : κ) : Heap κ where
  live := Function.update h.live id ((h.live id).map fun _ => r)
  next := h.next
  fresh id' hid := by
    by_cases hne : id' = id
    · subst hne
      simp [h.fresh id' hid]
    · rw [Function.update_of_ne hne]
      exact h.fresh id' hid

/-- The heap consists of what is owned and of the frame. -/
structure Splits (h : Heap κ) (own frame : Nat → Option κ) : Prop where
  live : ∀ id, h.live id = (own id).or (frame id)
  disjoint : ∀ id, own id = none ∨ frame id = none

theorem Splits.live_of_own {h : Heap κ} {own frame : Nat → Option κ} {id : Nat} {r : κ}
    (hs : h.Splits own frame) (ho : own id = some r) : h.live id = some r := by
  simp [hs.live id, ho]

/-- Nothing is owned, or all of it belongs to the frame. -/
theorem splits_frame (h : Heap κ) : h.Splits (fun _ => none) h.live :=
  ⟨fun _ => rfl, fun _ => .inl rfl⟩

theorem Splits.live_eq_iff {h : Heap κ} {own frame : Nat → Option κ} (hs : h.Splits own frame) :
    h.live = frame ↔ own = fun _ => none := by
  constructor
  · rintro rfl
    funext id
    rcases hs.disjoint id with ho | hf
    · exact ho
    · have hl := hs.live id
      rw [hf, Option.or_none] at hl
      exact hl.symm
  · rintro rfl
    exact funext hs.live

end Heap

/-- `none` is a use or a release of what is not held. -/
def Code (κ α : Type) := Heap κ → Option (α × Heap κ)

variable {κ α β : Type}

instance : Monad (Code κ) where
  pure x h := some (x, h)
  bind code k h := match code h with
    | none => none
    | some (x, t) => k x t

def acquire (r : κ) : Code κ Nat := fun h => some (h.next, h.acquire r)

def use (id : Nat) : Code κ κ := fun h => (h.live id).map fun r => (r, h)

def set (id : Nat) (r : κ) : Code κ Unit := fun h =>
  if (h.live id).isSome then some ((), h.set id r) else none

def release (id : Nat) : Code κ Unit := fun h =>
  if (h.live id).isSome then some ((), h.release id) else none

/-- An access that is in bounds. -/
def require (p : Prop) [Decidable p] : Code κ Unit := fun h => if p then some ((), h) else none

/-- A scope whose owner is dropped at its end, whatever it returns. -/
def owning (drop : Code κ Unit) (body : Code κ α) : Code κ α := do
  let x ← body
  drop
  return x

/-- From what it owns, the code returns, and owns then what is said of its result; whatever else is
held stays as it is. -/
def Triple (own : Nat → Option κ) (code : Code κ α) (Q : α → (Nat → Option κ) → Prop) : Prop :=
  ∀ h frame, h.Splits own frame →
    ∃ x t own', code h = some (x, t) ∧ t.Splits own' frame ∧ Q x own'

variable {own : Nat → Option κ} {code : Code κ α} {Q Q' : α → (Nat → Option κ) → Prop}
  {id : Nat} {r : κ}

/-- What is not owned is the frame. -/
theorem Triple.run (hc : Triple (fun _ => none) code Q) (h : Heap κ) :
    ∃ x t own', code h = some (x, t) ∧ t.Splits own' h.live ∧ Q x own' :=
  hc h h.live h.splits_frame

theorem Triple.mono (hc : Triple own code Q) (hp : ∀ x own', Q x own' → Q' x own') :
    Triple own code Q' := by
  intro h frame hs
  obtain ⟨x, t, own', hrun, ht, hx⟩ := hc h frame hs
  exact ⟨x, t, own', hrun, ht, hp x own' hx⟩

theorem triple_pure {x : α} (hp : Q x own) : Triple own (pure x) Q :=
  fun h _ hs => ⟨x, h, own, rfl, hs, hp⟩

theorem Triple.bind {k : α → Code κ β} {Q' : β → (Nat → Option κ) → Prop}
    (hc : Triple own code Q) (hk : ∀ x own', Q x own' → Triple own' (k x) Q') :
    Triple own (code >>= k) Q' := by
  intro h frame hs
  obtain ⟨x, t, own', hrun, ht, hx⟩ := hc h frame hs
  obtain ⟨y, u, own'', hrun', hu, hy⟩ := hk x own' hx t frame ht
  refine ⟨y, u, own'', ?_, hu, hy⟩
  simp only [Bind.bind, hrun]
  exact hrun'

theorem triple_acquire {Q : Nat → (Nat → Option κ) → Prop}
    (hp : ∀ id, own id = none → Q id (Function.update own id (some r))) :
    Triple own (acquire r) Q := by
  intro h frame hs
  have hnone := hs.live h.next
  rw [h.fresh h.next (Nat.le_refl _)] at hnone
  obtain ⟨hown, hframe⟩ := Option.or_eq_none_iff.mp hnone.symm
  refine ⟨h.next, h.acquire r, _, rfl, ⟨fun id => ?_, fun id => ?_⟩, hp h.next hown⟩
  · by_cases hid : id = h.next
    · simp [Heap.acquire, hid]
    · simpa [Heap.acquire, hid] using hs.live id
  · by_cases hid : id = h.next
    · exact .inr (hid ▸ hframe)
    · simpa [hid] using hs.disjoint id

theorem triple_use {Q : κ → (Nat → Option κ) → Prop} (hr : own id = some r) (hp : Q r own) :
    Triple own (use id) Q := by
  intro h frame hs
  refine ⟨r, h, own, ?_, hs, hp⟩
  simp [use, hs.live id, hr]

theorem triple_set {Q : Unit → (Nat → Option κ) → Prop} {r' : κ} (hr : own id = some r)
    (hp : Q () (Function.update own id (some r'))) : Triple own (set id r') Q := by
  intro h frame hs
  have hlive := hs.live_of_own hr
  have hframe : frame id = none := by simpa [hr] using hs.disjoint id
  refine ⟨(), h.set id r', _, ?_, ⟨fun id' => ?_, fun id' => ?_⟩, hp⟩
  · simp [set, hlive]
  · by_cases hid : id' = id
    · simp [Heap.set, hid, hlive]
    · simpa [Heap.set, hid] using hs.live id'
  · by_cases hid : id' = id
    · exact .inr (hid ▸ hframe)
    · simpa [hid] using hs.disjoint id'

theorem triple_release {Q : Unit → (Nat → Option κ) → Prop} (hr : own id = some r)
    (hp : Q () (Function.update own id none)) : Triple own (release id) Q := by
  intro h frame hs
  have hlive := hs.live_of_own hr
  have hframe : frame id = none := by simpa [hr] using hs.disjoint id
  refine ⟨(), h.release id, _, ?_, ⟨fun id' => ?_, fun id' => ?_⟩, hp⟩
  · simp [release, hlive]
  · by_cases hid : id' = id
    · simp [Heap.release, hid, hframe]
    · simpa [Heap.release, hid] using hs.live id'
  · by_cases hid : id' = id
    · exact .inr (hid ▸ hframe)
    · simpa [hid] using hs.disjoint id'

theorem triple_require {p : Prop} [Decidable p] {Q : Unit → (Nat → Option κ) → Prop} (hp : p)
    (hpost : Q () own) : Triple own (require p) Q :=
  fun h _ hs => ⟨(), h, own, by simp [require, hp], hs, hpost⟩

/-- The drop sees what the body owns at its end. -/
theorem Triple.owning {drop : Code κ Unit}
    (hb : Triple own code fun x own' => Triple own' drop fun _ => Q x) :
    Triple own (owning drop code) Q :=
  hb.bind fun _ _ hd => hd.bind fun _ _ hp => triple_pure hp

/-- A search that stops at the first hit, with an invariant for what it owns. -/
theorem triple_anyM {f : α → Code κ Bool} {P : α → Prop} {xs : List α}
    (hf : ∀ x ∈ xs, Triple own (f x) fun b own' => own' = own ∧ (b = true ↔ P x)) :
    Triple own (xs.anyM f) fun b own' => own' = own ∧ (b = true ↔ ∃ x ∈ xs, P x) := by
  induction xs with
  | nil => exact triple_pure ⟨rfl, by simp⟩
  | cons x xs ih =>
    simp only [List.anyM]
    apply (hf x List.mem_cons_self).bind
    rintro b own' ⟨rfl, hb⟩
    cases b with
    | true =>
      have hx : P x := hb.mp rfl
      exact triple_pure ⟨rfl, by simp [hx]⟩
    | false =>
      have hx : ¬ P x := by simpa using hb
      apply (ih fun y hy => hf y (List.mem_cons_of_mem x hy)).mono
      rintro b own' ⟨rfl, hb'⟩
      exact ⟨rfl, by simp [hb', hx]⟩

end Resource
