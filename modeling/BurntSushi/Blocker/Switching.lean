import BurntSushi.Blocker.Hooks
import BurntSushi.Lts

/-! Runs of `hooks::enable` and `hooks::disable`: when a call that fails leaves one detour switched
and the other one not. -/
namespace BurntSushi.Blocker

open Lts

namespace Hooks

variable {γ : Type}

inductive Call (γ : Type) where
  | enable (env : HookEnv) (captured : γ)
  | disable (env : HookEnv)

def call (h : Hooks γ) : Call γ → Hooks γ × Except HookError Unit
  | .enable env captured => h.enable env captured
  | .disable env => h.disable env

def Call.Requested : Call γ → Hooks γ → Prop
  | .enable _ _, h => h.Enabled
  | .disable _, h => h.Disabled

def callStep (h : Hooks γ) (l : Call γ) : Option (Hooks γ) := some (h.call l).1

/-- Both detours are enabled, or both are not. -/
def Together (h : Hooks γ) : Prop := h.Enabled ∨ h.Disabled

/-- A call switches both detours as requested, or fails and switches none. -/
structure AllOrNothing (h : Hooks γ) (l : Call γ) : Prop where
  together : (h.call l).1.Together
  ok : (h.call l).2 = .ok () → l.Requested (h.call l).1
  error : ∀ e, (h.call l).2 = .error e →
    ∀ k, ((h.call l).1.detour k).isEnabled = (h.detour k).isEnabled

/-- Once the first detour has been switched, switching the second one succeeds. -/
def SecondSwitches (h : Hooks γ) : Call γ → Prop
  | .enable env _ => h.Disabled → h.Installable env → env.enable .getAddrInfo = .ok () →
      env.enable .cefUrlRequestCreate = .ok ()
  | .disable env => h.Enabled → env.disable .getAddrInfo = .ok () →
      env.disable .cefUrlRequestCreate = .ok ()

end Hooks

namespace Detour

variable {γ : Type} {d : Detour γ}

theorem enable_of_isEnabled (h : d.isEnabled = true) (res : Except HookError Unit) :
    d.enable res = .ok d := by
  rcases d with _ | ⟨c, _ | _⟩
  · cases h
  · cases h
  · rfl

theorem enable_of_not_isEnabled (hinit : d ≠ .uninit) (h : d.isEnabled = false) :
    ∃ d', d'.isEnabled = true ∧ ∀ res, d.enable res = res.map fun _ => d' := by
  rcases d with _ | ⟨c, _ | _⟩
  · exact absurd rfl hinit
  · exact ⟨.ready c true, rfl, fun _ => rfl⟩
  · cases h

theorem disable_of_isEnabled (h : d.isEnabled = true) (res : Except HookError Unit) :
    d.disable res = res.map fun _ => d.off := by
  rcases d with _ | ⟨c, _ | _⟩
  · cases h
  · cases h
  · rfl

theorem disable_of_not_isEnabled (h : d.isEnabled = false) (res : Except HookError Unit) :
    d.disable res = .ok d := by
  rcases d with _ | ⟨c, _ | _⟩
  · rfl
  · rfl
  · cases h

end Detour

namespace Hooks

variable {γ : Type} {env : HookEnv} {h h' : Hooks γ} {c : γ} {l : Call γ}
  {tr : List (Hooks γ × Call γ)}

theorem set_detour (h : Hooks γ) (hook : FilterHook) : h.set hook (h.detour hook) = h :=
  Hooks.ext (Function.update_eq_self ..)

theorem switchOn_of_enabled (hon : h.Enabled) : switchOn env h = (h, .ok ()) := by
  rw [switchOn, tryUpdate_of_ok (Detour.enable_of_isEnabled (hon .getAddrInfo) _), set_detour,
    tryUpdate_of_ok (Detour.enable_of_isEnabled (hon .cefUrlRequestCreate) _), set_detour]

/-- One detour after the other, as `enable` and `disable` switch them. -/
def updateBoth (f g : Detour γ → Except HookError (Detour γ)) (h : Hooks γ) :
    Hooks γ × Except HookError Unit :=
  h.tryUpdate .getAddrInfo f fun h =>
  h.tryUpdate .cefUrlRequestCreate g fun h =>
  (h, .ok ())

/-- Two detours that are not `on` are updated to be so: only a failure at the second one leaves them
apart. -/
theorem updateBoth_cases {f g : Detour γ → Except HookError (Detour γ)} {d₁ d₂ : Detour γ}
    {res₁ res₂ : Except HookError Unit} {on : Bool}
    (hf : f (h.detour .getAddrInfo) = res₁.map fun _ => d₁)
    (hg : g (h.detour .cefUrlRequestCreate) = res₂.map fun _ => d₂)
    (h₀ : ∀ k, (h.detour k).isEnabled = !on) (h₁ : d₁.isEnabled = on) (h₂ : d₂.isEnabled = on) :
    (∃ e, res₁ = .error e ∧ updateBoth f g h = (h, .error e)) ∨
    (∃ e h', res₁ = .ok () ∧ res₂ = .error e ∧ updateBoth f g h = (h', .error e) ∧
      ¬ h'.Together) ∨
    (∃ h', res₂ = .ok () ∧ updateBoth f g h = (h', .ok ()) ∧
      ∀ k, (h'.detour k).isEnabled = on) := by
  cases res₁ with
  | error e =>
    refine .inl ⟨e, rfl, ?_⟩
    rw [updateBoth, tryUpdate_of_error hf]
  | ok =>
    have hcef : (h.set .getAddrInfo d₁).detour .cefUrlRequestCreate =
        h.detour .cefUrlRequestCreate := by simp
    have hfirst : ((h.set .getAddrInfo d₁).detour .getAddrInfo).isEnabled = on := by simpa using h₁
    cases res₂ with
    | error e =>
      refine .inr (.inl ⟨e, h.set .getAddrInfo d₁, rfl, rfl, ?_, ?_⟩)
      · rw [updateBoth, tryUpdate_of_ok hf, tryUpdate_of_error (hcef ▸ hg)]
      · have hsecond := h₀ .cefUrlRequestCreate
        rw [← hcef] at hsecond
        have hapart : on ≠ !on := by cases on <;> simp
        rintro (hon | hoff)
        · exact hapart (hfirst.symm.trans ((hon _).trans ((hon _).symm.trans hsecond)))
        · exact hapart (hfirst.symm.trans ((hoff _).trans ((hoff _).symm.trans hsecond)))
    | ok =>
      refine .inr (.inr ⟨(h.set .getAddrInfo d₁).set .cefUrlRequestCreate d₂, rfl, ?_, ?_⟩)
      · rw [updateBoth, tryUpdate_of_ok hf, tryUpdate_of_ok (hcef ▸ hg)]
      · intro k
        cases k
        · simpa using h₁
        · simpa using h₂

theorem switchOn_of_disabled (env : HookEnv) (hinit : ∀ k, h.detour k ≠ .uninit)
    (hoff : h.Disabled) :
    (∃ e, env.enable .getAddrInfo = .error e ∧ switchOn env h = (h, .error e)) ∨
    (∃ e h', env.enable .getAddrInfo = .ok () ∧ env.enable .cefUrlRequestCreate = .error e ∧
      switchOn env h = (h', .error e) ∧ ¬ h'.Together) ∨
    (∃ h', env.enable .cefUrlRequestCreate = .ok () ∧ switchOn env h = (h', .ok ()) ∧
      h'.Enabled) := by
  obtain ⟨d₁, hon₁, hd₁⟩ :=
    Detour.enable_of_not_isEnabled (hinit .getAddrInfo) (hoff .getAddrInfo)
  obtain ⟨d₂, hon₂, hd₂⟩ :=
    Detour.enable_of_not_isEnabled (hinit .cefUrlRequestCreate) (hoff .cefUrlRequestCreate)
  exact updateBoth_cases (hd₁ _) (hd₂ _) hoff hon₁ hon₂

theorem disable_of_disabled (hoff : h.Disabled) : disable env h = (h, .ok ()) := by
  rw [disable, tryUpdate_of_ok (Detour.disable_of_not_isEnabled (hoff .getAddrInfo) _), set_detour,
    tryUpdate_of_ok (Detour.disable_of_not_isEnabled (hoff .cefUrlRequestCreate) _), set_detour]

theorem disable_of_enabled (env : HookEnv) (hon : h.Enabled) :
    (∃ e, env.disable .getAddrInfo = .error e ∧ disable env h = (h, .error e)) ∨
    (∃ e h', env.disable .getAddrInfo = .ok () ∧ env.disable .cefUrlRequestCreate = .error e ∧
      disable env h = (h', .error e) ∧ ¬ h'.Together) ∨
    (∃ h', env.disable .cefUrlRequestCreate = .ok () ∧ disable env h = (h', .ok ()) ∧
      h'.Disabled) := by
  have hd₁ := Detour.disable_of_isEnabled (hon .getAddrInfo)
  have hd₂ := Detour.disable_of_isEnabled (hon .cefUrlRequestCreate)
  exact updateBoth_cases (hd₁ _) (hd₂ _) hon (Detour.isEnabled_off _) (Detour.isEnabled_off _)

theorem allOrNothing_of_ok (hr : h.call l = (h', .ok ())) (ht : h'.Together)
    (hreq : l.Requested h') : AllOrNothing h l := by
  refine ⟨?_, ?_, ?_⟩
  · rw [hr]
    exact ht
  · rw [hr]
    exact fun _ => hreq
  · rw [hr]
    rintro e ⟨⟩

theorem Together.congr (ht : h.Together)
    (hsame : ∀ k, (h'.detour k).isEnabled = (h.detour k).isEnabled) : h'.Together := by
  rcases ht with hon | hoff
  · exact .inl fun k => (hsame k).trans (hon k)
  · exact .inr fun k => (hsame k).trans (hoff k)

theorem allOrNothing_of_error {e : HookError} (hr : h.call l = (h', .error e)) (ht : h.Together)
    (hsame : ∀ k, (h'.detour k).isEnabled = (h.detour k).isEnabled) : AllOrNothing h l := by
  refine ⟨?_, ?_, ?_⟩
  · rw [hr]
    exact ht.congr hsame
  · rw [hr]
    rintro ⟨⟩
  · rw [hr]
    exact fun _ _ => hsame

theorem not_allOrNothing {res : Except HookError Unit} (hr : h.call l = (h', res))
    (ht : ¬ h'.Together) : ¬ AllOrNothing h l := by
  intro hall
  have htogether := hall.together
  rw [hr] at htogether
  exact ht htogether

theorem not_disabled (hon : h.Enabled) : ¬ h.Disabled := by
  intro hoff
  cases (hon .getAddrInfo).symm.trans (hoff .getAddrInfo)

theorem allOrNothing_enable_iff (ht : h.Together) (env : HookEnv) (c : γ) :
    AllOrNothing h (.enable env c) ↔ SecondSwitches h (.enable env c) := by
  rcases enable_initialized env c h with ⟨hinst, h', hcall, hinit⟩ | ⟨hnot, h', e, hcall, hsame⟩
  · have hsame := fun k => (hinit k).2
    rcases ht with hon | hoff
    · have hon' : h'.Enabled := fun k => (hsame k).trans (hon k)
      have hr := hcall.trans (switchOn_of_enabled hon')
      have hall := allOrNothing_of_ok (l := .enable env c) hr (.inl hon') hon'
      exact ⟨fun _ hoff => absurd hoff (not_disabled hon), fun _ => hall⟩
    · have hoff' : h'.Disabled := fun k => (hsame k).trans (hoff k)
      rcases switchOn_of_disabled env (fun k => (hinit k).1) hoff' with
        ⟨e, hfirst, hon⟩ | ⟨e, h'', hfirst, hsecond, hon, hmixed⟩ | ⟨h'', hsecond, hon, hon'⟩
      · have hall := allOrNothing_of_error (l := .enable env c) (hcall.trans hon) (.inr hoff) hsame
        refine ⟨?_, fun _ => hall⟩
        intro _ _ _ hok
        cases hfirst.symm.trans hok
      · have hnot := not_allOrNothing (l := .enable env c) (hcall.trans hon) hmixed
        refine ⟨fun hall => absurd hall hnot, ?_⟩
        intro hswitch
        cases hsecond.symm.trans (hswitch hoff hinst hfirst)
      · have hall := allOrNothing_of_ok (l := .enable env c) (hcall.trans hon) (.inl hon') hon'
        exact ⟨fun _ _ _ _ => hsecond, fun _ => hall⟩
  · have hall := allOrNothing_of_error (l := .enable env c) hcall ht hsame
    exact ⟨fun _ _ hinst => absurd hinst hnot, fun _ => hall⟩

theorem allOrNothing_disable_iff (ht : h.Together) (env : HookEnv) :
    AllOrNothing h (.disable env) ↔ SecondSwitches h (.disable env) := by
  rcases ht with hon | hoff
  · rcases disable_of_enabled env hon with
      ⟨e, hfirst, hr⟩ | ⟨e, h', hfirst, hsecond, hr, hmixed⟩ | ⟨h', hsecond, hr, hoff⟩
    · have hall := allOrNothing_of_error (l := .disable env) hr (.inl hon) fun _ => rfl
      refine ⟨?_, fun _ => hall⟩
      intro _ _ hok
      cases hfirst.symm.trans hok
    · have hnot := not_allOrNothing (l := .disable env) hr hmixed
      refine ⟨fun hall => absurd hall hnot, ?_⟩
      intro hswitch
      cases hsecond.symm.trans (hswitch hon hfirst)
    · have hall := allOrNothing_of_ok (l := .disable env) hr (.inr hoff) hoff
      exact ⟨fun _ _ _ => hsecond, fun _ => hall⟩
  · have hall := allOrNothing_of_ok (l := .disable env) (disable_of_disabled hoff) (.inr hoff) hoff
    exact ⟨fun _ hon => absurd hoff (not_disabled hon), fun _ => hall⟩

/-- From disabled detours on, every call of a run is all or nothing exactly if in none of them the
first detour is switched and the second one refuses to be. -/
theorem allOrNothing_run_iff (hr : Trace callStep h tr h') (hoff : h.Disabled) :
    Along AllOrNothing tr ↔ Along SecondSwitches tr := by
  apply hr.along_iff_along (I := Together) (.inr hoff)
  · intro h l ht
    cases l with
    | enable env c => exact allOrNothing_enable_iff ht env c
    | disable env => exact allOrNothing_disable_iff ht env
  · intro h l h' _ hall hstep
    cases hstep
    exact hall.together

theorem disabled_unloaded : (unloaded : Hooks γ).Disabled := fun _ => rfl

theorem allOrNothing_run_allOk :
    Along AllOrNothing (trail callStep (unloaded : Hooks Unit)
      [.enable .allOk (), .enable .allOk (), .disable .allOk]) := by
  apply (allOrNothing_run_iff (trace_after rfl) disabled_unloaded).mpr
  apply along_trail
  intro l hl h
  simp only [List.mem_cons, List.not_mem_nil, or_false] at hl
  rcases hl with rfl | rfl | rfl
  · exact fun _ _ _ => rfl
  · exact fun _ _ _ => rfl
  · exact fun _ _ => rfl

/-- The second detour cannot be patched. -/
def cefRefuses : HookEnv :=
  { HookEnv.allOk with
    enable := fun
      | .getAddrInfo => .ok ()
      | .cefUrlRequestCreate => .error "out of memory" }

theorem not_allOrNothing_cefRefuses :
    ¬ ∀ tr h, Trace callStep (unloaded : Hooks Unit) tr h → Along AllOrNothing tr := by
  have hrun : run callStep (unloaded : Hooks Unit) [] = some unloaded := rfl
  apply not_along_of_run (a := .enable cefRefuses ()) hrun rfl
  intro hlast
  rcases hlast.together with hon | hoff
  · cases hon .cefUrlRequestCreate
  · cases hoff .getAddrInfo

end Hooks

end BurntSushi.Blocker
