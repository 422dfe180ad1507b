import Mathlib.Data.List.Basic

/-! Finite executions of a partial step function, and rules for what holds along them. -/
namespace Lts

variable {σ : Type*} {α : Type*}

/-- An execution from `s₀`, with each label next to the state in which it was taken. -/
inductive Trace (step : σ → α → Option σ) (s₀ : σ) : List (σ × α) → σ → Prop
  | refl : Trace step s₀ [] s₀
  | snoc {tr : List (σ × α)} {s t : σ} {a : α} (h : Trace step s₀ tr s)
      (hs : step s a = some t) : Trace step s₀ (tr ++ [(s, a)]) t

/-- Every step of the execution meets `C`, a condition on the state before it and its label. -/
def Along (C : σ → α → Prop) (tr : List (σ × α)) : Prop := ∀ x ∈ tr, C x.1 x.2

/-- Every state of the execution that ends in `s` satisfies `P`. -/
def Always (P : σ → Prop) (tr : List (σ × α)) (s : σ) : Prop := (∀ x ∈ tr, P x.1) ∧ P s

/-- An `E`-step was taken, and no `K`-step after it. -/
def Since (E K : σ → α → Prop) (tr : List (σ × α)) : Prop :=
  ∃ pre s a post, tr = pre ++ (s, a) :: post ∧ E s a ∧ ∀ x ∈ post, ¬ K x.1 x.2

/-- Every step of the execution meets `C`, a condition on the steps before it as well. -/
def AlongPast (C : List (σ × α) → σ → α → Prop) (tr : List (σ × α)) : Prop :=
  ∀ pre s a post, tr = pre ++ (s, a) :: post → C pre s a

/-- Take the labels in order; `none` when one of them is not enabled. -/
def run (step : σ → α → Option σ) : σ → List α → Option σ
  | s, [] => some s
  | s, a :: as => (step s a).bind fun t => run step t as

/-- The labels of `run`, each next to the state in which it is taken. -/
def trail (step : σ → α → Option σ) : σ → List α → List (σ × α)
  | _, [] => []
  | s, a :: as => match step s a with
    | none => []
    | some t => (s, a) :: trail step t as

/-- The state that `run` ends in; `s` itself when one of the labels is not enabled. -/
def after (step : σ → α → Option σ) (s : σ) (as : List α) : σ := (run step s as).getD s

variable {step : σ → α → Option σ} {s₀ s t u : σ} {a : α} {tr tr' : List (σ × α)}
  {P : σ → Prop} {C D E K : σ → α → Prop}

namespace Trace

theorem single (hs : step s a = some t) : Trace step s [(s, a)] t := by
  simpa using Trace.refl.snoc hs

theorem append (h : Trace step s₀ tr s) (h' : Trace step s tr' t) :
    Trace step s₀ (tr ++ tr') t := by
  induction h' with
  | refl => simpa using h
  | snoc _ hs ih =>
    rw [← List.append_assoc]
    exact .snoc ih hs

theorem cons (hs : step s a = some t) (h : Trace step t tr u) :
    Trace step s ((s, a) :: tr) u :=
  (single hs).append h

theorem invariant (h : Trace step s₀ tr s) (h₀ : P s₀)
    (hstep : ∀ s a t, P s → step s a = some t → P t) : P s := by
  induction h with
  | refl => exact h₀
  | snoc _ hs ih => exact hstep _ _ _ ih hs

/-- The execution of another system that is seen through `f`; a step without a label there changes
nothing that is seen. -/
theorem refine {τ : Type*} {β : Type*} {step' : τ → β → Option τ} (f : σ → τ) (g : α → Option β)
    (h : Trace step s₀ tr s) (hsim : ∀ tr s a t, Trace step s₀ tr s → step s a = some t →
      (g a = none ∧ f t = f s) ∨ ∃ b, g a = some b ∧ step' (f s) b = some (f t)) :
    Trace step' (f s₀) (tr.filterMap fun x => (g x.2).map (f x.1, ·)) (f s) := by
  induction h with
  | refl => exact .refl
  | snoc h hs ih =>
    rw [List.filterMap_append]
    rcases hsim _ _ _ _ h hs with ⟨hg, hf⟩ | ⟨b, hg, hstep⟩
    · simpa [hg, hf] using ih
    · simpa [hg] using ih.snoc hstep

/-- An execution of another system, whose steps those of this one are. -/
theorem simulate {τ : Type*} {β : Type*} {step' : τ → β → Option τ} (f : σ → τ) (g : α → β)
    (h : Trace step s₀ tr s) (hsim : ∀ tr s a t, Trace step s₀ tr s → step s a = some t →
      step' (f s) (g a) = some (f t)) :
    Trace step' (f s₀) (tr.map fun x => (f x.1, g x.2)) (f s) := by
  have hrefine := h.refine f (fun a => some (g a))
    fun tr s a t h hs => .inr ⟨g a, rfl, hsim tr s a t h hs⟩
  rwa [← List.filterMap_eq_map]

/-- A rank that every step lowers bounds the length of an execution. -/
theorem length_add_le (h : Trace step s₀ tr s) (rank : σ → Nat)
    (hstep : ∀ s a t, step s a = some t → rank t < rank s) : tr.length + rank s ≤ rank s₀ := by
  induction h with
  | refl => simp
  | snoc _ hs ih =>
    have hlt := hstep _ _ _ hs
    simp only [List.length_append, List.length_singleton]
    omega

end Trace

theorem along_nil : Along C ([] : List (σ × α)) := by simp [Along]

theorem along_append : Along C (tr ++ tr') ↔ Along C tr ∧ Along C tr' := by
  simp only [Along, List.mem_append]
  exact ⟨fun h => ⟨fun x hx => h x (.inl hx), fun x hx => h x (.inr hx)⟩,
    fun h x hx => hx.elim (h.1 x) (h.2 x)⟩

theorem along_concat : Along C (tr ++ [(s, a)]) ↔ Along C tr ∧ C s a := by
  rw [along_append]
  simp [Along]

theorem always_concat : Always P (tr ++ [(s, a)]) t ↔ Always P tr s ∧ P t := by
  simp only [Always, List.mem_append, List.mem_singleton]
  constructor
  · intro h
    exact ⟨⟨fun x hx => h.1 x (.inl hx), h.1 (s, a) (.inr rfl)⟩, h.2⟩
  · rintro ⟨⟨hx, hs⟩, ht⟩
    refine ⟨?_, ht⟩
    rintro x (h | rfl)
    · exact hx x h
    · exact hs

/-- The invariant rule for executions whose steps all meet a condition. -/
theorem Trace.invariant_along (h : Trace step s₀ tr s) (hC : Along C tr) (h₀ : P s₀)
    (hstep : ∀ s a t, P s → C s a → step s a = some t → P t) : P s := by
  induction h with
  | refl => exact h₀
  | snoc _ hs ih =>
    obtain ⟨hC, ha⟩ := along_concat.mp hC
    exact hstep _ _ _ (ih hC) ha hs

/-- A property that an inductive invariant gives holds in every state on the way. -/
theorem Trace.always_of_along {I : σ → Prop} (h : Trace step s₀ tr s) (hC : Along C tr)
    (h₀ : I s₀) (hP : ∀ s, I s → P s)
    (hstep : ∀ s a t, I s → C s a → step s a = some t → I t) : Always P tr s := by
  induction h with
  | refl => exact ⟨by simp, hP _ h₀⟩
  | snoc h hs ih =>
    obtain ⟨hC, ha⟩ := along_concat.mp hC
    exact always_concat.mpr
      ⟨ih hC, hP _ (hstep _ _ _ (h.invariant_along hC h₀ hstep) ha hs)⟩

/-- A rank that no step raises and that every counted step lowers bounds how many are taken. -/
theorem Trace.countP_add_le {I : σ → Prop} (h : Trace step s₀ tr s) (hC : Along C tr) (h₀ : I s₀)
    (counted : σ × α → Bool) (rank : σ → Nat)
    (hstep : ∀ s a t, I s → C s a → step s a = some t →
      I t ∧ rank t + (if counted (s, a) then 1 else 0) ≤ rank s) :
    I s ∧ tr.countP counted + rank s ≤ rank s₀ := by
  induction h with
  | refl => simpa using h₀
  | snoc _ hs ih =>
    obtain ⟨hC, ha⟩ := along_concat.mp hC
    obtain ⟨hI, hle⟩ := ih hC
    obtain ⟨hI', hle'⟩ := hstep _ _ _ hI ha hs
    refine ⟨hI', ?_⟩
    simp only [List.countP_append, List.countP_singleton]
    omega

/-- When a step leads from the invariant to a bad state exactly if it misses `C`, an execution
under the assumption `D` has only good states exactly if all its steps meet `C`. -/
theorem Trace.always_iff_along {I : σ → Prop} (h : Trace step s₀ tr s) (hD : Along D tr)
    (h₀ : I s₀) (hP : ∀ s, I s → P s)
    (hok : ∀ s a t, I s → D s a → C s a → step s a = some t → I t)
    (hbad : ∀ s a t, I s → D s a → ¬ C s a → step s a = some t → ¬ P t) :
    Always P tr s ↔ Along C tr := by
  constructor
  · intro hP'
    suffices hh : Along C tr ∧ I s from hh.1
    induction h with
    | refl => exact ⟨along_nil, h₀⟩
    | snoc _ hs ih =>
      obtain ⟨hD, hd⟩ := along_concat.mp hD
      obtain ⟨hA, hp⟩ := always_concat.mp hP'
      obtain ⟨hC, hI⟩ := ih hD hA
      have hc := by_contra fun hn => hbad _ _ _ hI hd hn hs hp
      exact ⟨along_concat.mpr ⟨hC, hc⟩, hok _ _ _ hI hd hc hs⟩
  · intro hC
    have hDC : Along (fun s a => D s a ∧ C s a) tr := fun x hx => ⟨hD x hx, hC x hx⟩
    exact h.always_of_along hDC h₀ hP (fun s a t hI hdc => hok s a t hI hdc.1 hdc.2)

/-- Two conditions that agree on the states of an invariant, which steps that meet the first one
keep, hold along the same executions. -/
theorem Trace.along_iff_along {I : σ → Prop} (h : Trace step s₀ tr s) (h₀ : I s₀)
    (hiff : ∀ s a, I s → (C s a ↔ D s a))
    (hI : ∀ s a t, I s → C s a → step s a = some t → I t) : Along C tr ↔ Along D tr := by
  suffices hh : (Along C tr ↔ Along D tr) ∧ (Along C tr → I s) from hh.1
  induction h with
  | refl => exact ⟨⟨fun _ => along_nil, fun _ => along_nil⟩, fun _ => h₀⟩
  | snoc _ hs ih =>
    obtain ⟨ih, hI'⟩ := ih
    rw [along_concat, along_concat]
    refine ⟨?_, fun hC => hI _ _ _ (hI' hC.1) hC.2 hs⟩
    constructor
    · rintro ⟨htr, ha⟩
      exact ⟨ih.mp htr, (hiff _ _ (hI' htr)).mp ha⟩
    · rintro ⟨htr, ha⟩
      have htr' := ih.mpr htr
      exact ⟨htr', (hiff _ _ (hI' htr')).mpr ha⟩

section Past

variable {C : List (σ × α) → σ → α → Prop}

theorem alongPast_nil : AlongPast C [] := by
  intro pre s a post h
  simp at h

theorem alongPast_concat : AlongPast C (tr ++ [(s, a)]) ↔ AlongPast C tr ∧ C tr s a := by
  constructor
  · intro h
    refine ⟨?_, h tr s a [] rfl⟩
    rintro pre u b post rfl
    exact h pre u b (post ++ [(s, a)]) (by simp)
  · rintro ⟨htr, ha⟩ pre u b post he
    rcases List.eq_nil_or_concat post with rfl | ⟨post, x, rfl⟩
    · obtain ⟨rfl, hx⟩ := List.append_inj' he rfl
      simp only [List.cons.injEq, Prod.mk.injEq, and_true] at hx
      obtain ⟨rfl, rfl⟩ := hx
      exact ha
    · rw [List.concat_eq_append, ← List.cons_append, ← List.append_assoc] at he
      obtain ⟨rfl, -⟩ := List.append_inj' he rfl
      exact htr pre u b post rfl

end Past

theorem not_since_nil : ¬ Since E K ([] : List (σ × α)) := by
  rintro ⟨pre, s, a, post, h, -⟩
  simp at h

/-- The last step decides: it is an `E`-step itself, or it leaves an earlier one standing. -/
theorem since_concat :
    Since E K (tr ++ [(s, a)]) ↔ E s a ∨ (¬ K s a ∧ Since E K tr) := by
  constructor
  · rintro ⟨pre, u, b, post, he, hE, hK⟩
    rcases List.eq_nil_or_concat post with rfl | ⟨post, x, rfl⟩
    · obtain ⟨_, hx⟩ := List.append_inj' he rfl
      simp only [List.cons.injEq, Prod.mk.injEq, and_true] at hx
      obtain ⟨rfl, rfl⟩ := hx
      exact .inl hE
    · rw [List.concat_eq_append, ← List.cons_append, ← List.append_assoc] at he
      obtain ⟨htr, hx⟩ := List.append_inj' he rfl
      obtain rfl := List.singleton_inj.mp hx
      refine .inr ⟨hK (s, a) (by simp), pre, u, b, post, htr, hE, ?_⟩
      intro x hx
      exact hK x (by simp [hx])
  · rintro (hE | ⟨hK, pre, u, b, post, rfl, hE, hpost⟩)
    · exact ⟨tr, s, a, [], rfl, hE, by simp⟩
    · refine ⟨pre, u, b, post ++ [(s, a)], by simp, hE, ?_⟩
      intro x hx
      rcases List.mem_append.mp hx with hx | hx
      · exact hpost x hx
      · obtain rfl := List.mem_singleton.mp hx
        exact hK

theorem mem_trail {as : List α} {x : σ × α} (h : x ∈ trail step s as) : x.2 ∈ as := by
  induction as generalizing s with
  | nil => simp [trail] at h
  | cons a as ih =>
    simp only [trail] at h
    split at h
    · simp at h
    · rcases List.mem_cons.mp h with rfl | h
      · simp
      · exact List.mem_cons_of_mem _ (ih h)

theorem mem_trail_append {as bs : List α} (h : run step s as = some t) (ha : step t a = some u) :
    (t, a) ∈ trail step s (as ++ a :: bs) := by
  induction as generalizing s with
  | nil =>
    obtain rfl := Option.some.inj h
    simp [trail, ha]
  | cons b as ih =>
    obtain ⟨v, hv, h⟩ := Option.bind_eq_some_iff.mp h
    simp only [List.cons_append, trail, hv]
    exact List.mem_cons_of_mem _ (ih h)

theorem along_trail {as : List α} (h : ∀ a ∈ as, ∀ s, C s a) : Along C (trail step s as) :=
  fun x hx => h x.2 (mem_trail hx) x.1

theorem along_trail_cons {as : List α} (hs : step s a = some t) (ha : C s a)
    (h : Along C (trail step t as)) : Along C (trail step s (a :: as)) := by
  simp only [trail, hs]
  exact List.forall_mem_cons.mpr ⟨ha, h⟩

theorem along_trail_append {as bs : List α} (h : run step s as = some t)
    (has : Along C (trail step s as)) (hbs : Along C (trail step t bs)) :
    Along C (trail step s (as ++ bs)) := by
  induction as generalizing s with
  | nil =>
    obtain rfl := Option.some.inj h
    exact hbs
  | cons a as ih =>
    obtain ⟨u, hu, h⟩ := Option.bind_eq_some_iff.mp h
    simp only [trail, hu] at has
    obtain ⟨ha, has⟩ := List.forall_mem_cons.mp has
    exact along_trail_cons hu ha (ih h has)

/-- A successful run is an execution along its trail. -/
theorem trace_of_run {as : List α} (h : run step s as = some t) :
    Trace step s (trail step s as) t := by
  induction as generalizing s with
  | nil =>
    simp only [run, Option.some.injEq] at h
    subst h
    exact .refl
  | cons a as ih =>
    obtain ⟨u, hu, h⟩ := Option.bind_eq_some_iff.mp h
    simp only [trail, hu]
    exact .cons hu (ih h)

/-- A run with a last step that misses the condition. -/
theorem not_along_of_run {as : List α} (h : run step s as = some t) (ha : step t a = some u)
    (hn : ¬ C t a) : ¬ ∀ tr v, Trace step s tr v → Along C tr := by
  intro hall
  have htrace := (trace_of_run h).snoc ha
  exact hn (along_concat.mp (hall _ _ htrace)).2

theorem trace_after {as : List α} (h : (run step s as).isSome = true) :
    Trace step s (trail step s as) (after step s as) := by
  obtain ⟨t, ht⟩ := Option.isSome_iff_exists.mp h
  rw [after, ht]
  exact trace_of_run ht

theorem trail_concat {as : List α} (h : run step s as = some t) (ha : step t a = some u) :
    trail step s (as ++ [a]) = trail step s as ++ [(t, a)] := by
  induction as generalizing s with
  | nil =>
    obtain rfl := Option.some.inj h
    simp [trail, ha]
  | cons b as ih =>
    obtain ⟨v, hv, h⟩ := Option.bind_eq_some_iff.mp h
    simp [trail, hv, ih h]

/-- A run that ends with an `E`-step. -/
theorem since_trail (as : List α) (h : run step s as = some t) (ha : step t a = some u)
    (hE : E t a) : Since E K (trail step s (as ++ [a])) :=
  ⟨trail step s as, t, a, [], trail_concat h ha, hE, by simp⟩

end Lts
