import BurntSushi.Except
import BurntSushi.Blocker.Filters

/-! The two detours of `hooks.rs`, switching them on and off, and what their closures do. -/
namespace BurntSushi.Blocker

abbrev HookError := String

/-- What the OS and `retour` answer during one call of `enable` or `disable`. -/
structure HookEnv where
  findLocalByName : String → Except HookError Bool
  getLocalProcedure : String → Except HookError Unit
  initDetour : FilterHook → Except HookError Unit
  enable : FilterHook → Except HookError Unit
  disable : FilterHook → Except HookError Unit

/-- Every call succeeds and every module is found. -/
def HookEnv.allOk : HookEnv :=
  ⟨fun _ => .ok true, fun _ => .ok (), fun _ => .ok (), fun _ => .ok (), fun _ => .ok ()⟩

/-- `OwnedProcessModule::find_local_by_name(name)?.ok_or("<name> not found")?`. -/
def HookEnv.requireModule (env : HookEnv) (name : String) : Except HookError Unit :=
  match env.findLocalByName name with
  | .error e => .error e
  | .ok false => .error (name ++ " not found")
  | .ok true => .ok ()

/-- Every detour that is asked to switch does so. -/
structure HookEnv.Switches (env : HookEnv) : Prop where
  enable : ∀ hook, env.enable hook = .ok ()
  disable : ∀ hook, env.disable hook = .ok ()

theorem HookEnv.switches_allOk : HookEnv.allOk.Switches := ⟨fun _ => rfl, fun _ => rfl⟩

/-- A static detour with its `OnceLock`: the lock is set exactly when `initialize`, the last
step of the guarded closure, has stored the closure with what it captured. -/
inductive Detour (γ : Type) where
  | uninit
  | ready (captured : γ) (enabled : Bool)
  deriving DecidableEq, Repr

namespace Detour

variable {γ : Type}

def isEnabled : Detour γ → Bool
  | .uninit => false
  | .ready _ enabled => enabled

def captured? : Detour γ → Option γ
  | .uninit => none
  | .ready c _ => some c

/-- `OnceLock::get_or_try_init`. -/
def getOrTryInit (init : Except HookError γ) : Detour γ → Except HookError (Detour γ)
  | .uninit => init.map (.ready · false)
  | .ready c enabled => .ok (.ready c enabled)

/-- `retour` leaves a detour that is already enabled alone. -/
def enable (res : Except HookError Unit) : Detour γ → Except HookError (Detour γ)
  | .uninit => .error "detour is not initialized"
  | .ready c true => .ok (.ready c true)
  | .ready c false => res.map fun _ => .ready c true

/-- `if hook.is_enabled() { hook.disable()? }`. -/
def disable (res : Except HookError Unit) : Detour γ → Except HookError (Detour γ)
  | .ready c true => res.map fun _ => .ready c false
  | d => .ok d

/-- The detour with its patch taken out. -/
def off : Detour γ → Detour γ
  | .uninit => .uninit
  | .ready c _ => .ready c false

@[simp] theorem isEnabled_off (d : Detour γ) : d.off.isEnabled = false := by
  cases d <;> rfl

@[simp] theorem captured?_off (d : Detour γ) : d.off.captured? = d.captured? := by
  cases d <;> rfl

theorem disable_ok (d : Detour γ) : d.disable (.ok ()) = .ok d.off := by
  rcases d with _ | ⟨c, _ | _⟩ <;> rfl

/-- Nothing but the first initialization sets what a closure captured. -/
def Follows (c : γ) (d d' : Detour γ) : Prop :=
  d'.captured? = d.captured? ∨ d.captured? = none ∧ d'.captured? = some c

theorem Follows.refl (c : γ) (d : Detour γ) : Follows c d d := .inl rfl

theorem Follows.trans {c : γ} {d d' d'' : Detour γ} (h : Follows c d d')
    (h' : Follows c d' d'') : Follows c d d'' := by
  rcases h with h | ⟨h, h₁⟩ <;> rcases h' with h' | ⟨h', h₂⟩
  · exact .inl (h'.trans h)
  · exact .inr ⟨h.symm.trans h', h₂⟩
  · exact .inr ⟨h, h'.trans h₁⟩
  · simp [h₁] at h'

/-- What a closure captured is never replaced. -/
theorem Follows.captured {c x : γ} {d d' : Detour γ} (h : Follows c d d')
    (hx : d.captured? = some x) : d'.captured? = some x := by
  rcases h with h | ⟨h, -⟩
  · rw [h, hx]
  · simp [h] at hx

variable {d d' : Detour γ} {c : γ} {res : Except HookError Unit} {init : Except HookError γ}

/-- A detour that `get_or_try_init` lets through is initialized and as enabled as before. -/
theorem getOrTryInit_eq_ok (h : d.getOrTryInit init = .ok d') (hc : ∀ x, init = .ok x → x = c) :
    Follows c d d' ∧ d'.isEnabled = d.isEnabled ∧ d' ≠ .uninit := by
  cases d with
  | uninit =>
    cases init with
    | error e => simp [getOrTryInit, Except.map] at h
    | ok x =>
      obtain rfl := hc x rfl
      simp only [getOrTryInit, Except.map, Except.ok.injEq] at h
      subst h
      exact ⟨.inr ⟨rfl, rfl⟩, rfl, by simp⟩
  | ready x enabled =>
    simp only [getOrTryInit, Except.ok.injEq] at h
    subst h
    exact ⟨.inl rfl, rfl, by simp⟩

theorem getOrTryInit_isOk :
    (∃ d', d.getOrTryInit init = .ok d') ↔ d ≠ .uninit ∨ ∃ x, init = .ok x := by
  cases d with
  | uninit => cases init <;> simp [getOrTryInit, Except.map]
  | ready c enabled => simp [getOrTryInit]

theorem enable_eq_ok (h : d.enable res = .ok d') :
    d'.captured? = d.captured? ∧ d'.isEnabled = true := by
  rcases d with _ | ⟨c, _ | _⟩
  · simp [enable] at h
  · cases res <;> simp [enable, Except.map] at h
    subst h
    exact ⟨rfl, rfl⟩
  · simp only [enable, Except.ok.injEq] at h
    subst h
    exact ⟨rfl, rfl⟩

theorem disable_eq_ok (h : d.disable res = .ok d') : d'.captured? = d.captured? := by
  rcases d with _ | ⟨c, _ | _⟩
  · simp only [disable, Except.ok.injEq] at h
    rw [← h]
  · simp only [disable, Except.ok.injEq] at h
    rw [← h]
  · obtain ⟨_, _, rfl⟩ := Except.map_eq_ok.mp h
    rfl

theorem enable_ok (hd : d ≠ .uninit) : ∃ d', d.enable (.ok ()) = .ok d' := by
  rcases d with _ | ⟨c, _ | _⟩
  · exact absurd rfl hd
  · exact ⟨_, rfl⟩
  · exact ⟨_, rfl⟩

end Detour

/-- The process-wide detours of the blocker module. -/
@[ext]
structure Hooks (γ : Type) where
  detour : FilterHook → Detour γ

namespace Hooks

variable {γ : Type}

/-- The detours of a freshly loaded module. -/
def unloaded : Hooks γ := ⟨fun _ => .uninit⟩

def set (h : Hooks γ) (hook : FilterHook) (d : Detour γ) : Hooks γ :=
  ⟨Function.update h.detour hook d⟩

/-- One fallible step on a detour, and what follows it unless `?` returns its error. -/
def tryUpdate (h : Hooks γ) (hook : FilterHook)
    (f : Detour γ → Except HookError (Detour γ))
    (next : Hooks γ → Hooks γ × Except HookError Unit) : Hooks γ × Except HookError Unit :=
  match f (h.detour hook) with
  | .error e => (h, .error e)
  | .ok d => next (h.set hook d)

def initGetAddrInfoHook (env : HookEnv) (captured : γ) : Except HookError γ := do
  env.requireModule "WS2_32.dll"
  env.getLocalProcedure "getaddrinfo"
  env.initDetour .getAddrInfo
  pure captured

def initCefUrlRequestCreateHook (env : HookEnv) (captured : γ) : Except HookError γ := do
  env.requireModule "libcef.dll"
  env.getLocalProcedure "cef_urlrequest_create"
  env.getLocalProcedure "cef_string_userfree_utf16_free"
  env.initDetour .cefUrlRequestCreate
  pure captured

def enable (env : HookEnv) (captured : γ) (h : Hooks γ) : Hooks γ × Except HookError Unit :=
  h.tryUpdate .getAddrInfo (·.getOrTryInit (initGetAddrInfoHook env captured)) fun h =>
  h.tryUpdate .cefUrlRequestCreate
    (·.getOrTryInit (initCefUrlRequestCreateHook env captured)) fun h =>
  h.tryUpdate .getAddrInfo (·.enable (env.enable .getAddrInfo)) fun h =>
  h.tryUpdate .cefUrlRequestCreate (·.enable (env.enable .cefUrlRequestCreate)) fun h =>
  (h, .ok ())

def disable (env : HookEnv) (h : Hooks γ) : Hooks γ × Except HookError Unit :=
  h.tryUpdate .getAddrInfo (·.disable (env.disable .getAddrInfo)) fun h =>
  h.tryUpdate .cefUrlRequestCreate (·.disable (env.disable .cefUrlRequestCreate)) fun h =>
  (h, .ok ())

/-- Each detour is initialized or finds what its initialization needs. -/
def Installable (env : HookEnv) (h : Hooks γ) : Prop :=
  (h.detour .getAddrInfo ≠ .uninit ∨ initGetAddrInfoHook env () = .ok ()) ∧
    (h.detour .cefUrlRequestCreate ≠ .uninit ∨ initCefUrlRequestCreateHook env () = .ok ())

def Enabled (h : Hooks γ) : Prop := ∀ hook, (h.detour hook).isEnabled = true

def Disabled (h : Hooks γ) : Prop := ∀ hook, (h.detour hook).isEnabled = false

variable {env : HookEnv} {h h' h'' : Hooks γ} {c : γ} {hook : FilterHook}

@[simp] theorem detour_set (h : Hooks γ) (hook k : FilterHook) (d : Detour γ) :
    (h.set hook d).detour k = if k = hook then d else h.detour k := by
  simp [set, Function.update_apply]

/-- The detours of `h'` come from those of `h` by switching and first initializations. -/
def Follows (c : γ) (h h' : Hooks γ) : Prop := ∀ k, (h.detour k).Follows c (h'.detour k)

variable {f : Detour γ → Except HookError (Detour γ)}
  {next : Hooks γ → Hooks γ × Except HookError Unit}

/-- What each detour keeps, whether a guarded step and the steps after it succeed or not. -/
theorem tryUpdate_keeps {r : Detour γ → Detour γ → Prop} (hrefl : ∀ d, r d d)
    (htrans : ∀ a b c, r a b → r b c → r a c)
    (hf : ∀ d, f (h.detour hook) = .ok d → r (h.detour hook) d)
    (hnext : ∀ (h' : Hooks γ) k, r (h'.detour k) ((next h').1.detour k)) (k : FilterHook) :
    r (h.detour k) ((h.tryUpdate hook f next).1.detour k) := by
  simp only [tryUpdate]
  cases hd : f (h.detour hook) with
  | error e => exact hrefl _
  | ok d =>
    refine htrans _ _ _ ?_ (hnext _ k)
    by_cases hk : k = hook
    · subst hk
      simpa using hf d hd
    · simpa [hk] using hrefl _

theorem tryUpdate_follows (hf : ∀ d, f (h.detour hook) = .ok d → (h.detour hook).Follows c d)
    (hnext : ∀ h' : Hooks γ, h'.Follows c (next h').1) : h.Follows c (h.tryUpdate hook f next).1 :=
  tryUpdate_keeps (Detour.Follows.refl c) (fun _ _ _ => Detour.Follows.trans) hf hnext

theorem tryUpdate_captured
    (hf : ∀ d, f (h.detour hook) = .ok d → d.captured? = (h.detour hook).captured?)
    (hnext : ∀ (h' : Hooks γ) k, ((next h').1.detour k).captured? = (h'.detour k).captured?)
    (k : FilterHook) :
    ((h.tryUpdate hook f next).1.detour k).captured? = (h.detour k).captured? :=
  tryUpdate_keeps (r := fun d d' => d'.captured? = d.captured?) (fun _ => rfl)
    (fun _ _ _ h h' => h'.trans h) hf hnext k

theorem tryUpdate_of_error {e : HookError} (he : f (h.detour hook) = .error e) :
    h.tryUpdate hook f next = (h, .error e) := by
  simp [tryUpdate, he]

theorem tryUpdate_of_ok {d : Detour γ} (hd : f (h.detour hook) = .ok d) :
    h.tryUpdate hook f next = next (h.set hook d) := by
  simp [tryUpdate, hd]

/-- A guarded step that reports success has updated its detour and let the rest succeed. -/
theorem tryUpdate_eq_ok (hr : (h.tryUpdate hook f next).2 = .ok ()) :
    ∃ d, f (h.detour hook) = .ok d ∧ h.tryUpdate hook f next = next (h.set hook d) ∧
      (next (h.set hook d)).2 = .ok () := by
  cases hd : f (h.detour hook) with
  | error e => simp [tryUpdate, hd] at hr
  | ok d =>
    have he : h.tryUpdate hook f next = _ := tryUpdate_of_ok hd
    exact ⟨d, rfl, he, he ▸ hr⟩

theorem initGetAddrInfoHook_eq_ok {x : γ} (h : initGetAddrInfoHook env c = .ok x) : x = c := by
  obtain ⟨_, _, h⟩ := Except.bind_eq_ok.mp h
  obtain ⟨_, _, h⟩ := Except.bind_eq_ok.mp h
  obtain ⟨_, _, h⟩ := Except.bind_eq_ok.mp h
  exact (Except.pure_eq_ok.mp h).symm

theorem initCefUrlRequestCreateHook_eq_ok {x : γ}
    (h : initCefUrlRequestCreateHook env c = .ok x) : x = c := by
  obtain ⟨_, _, h⟩ := Except.bind_eq_ok.mp h
  obtain ⟨_, _, h⟩ := Except.bind_eq_ok.mp h
  obtain ⟨_, _, h⟩ := Except.bind_eq_ok.mp h
  obtain ⟨_, _, h⟩ := Except.bind_eq_ok.mp h
  exact (Except.pure_eq_ok.mp h).symm

theorem initGetAddrInfoHook_isOk :
    (∃ x, initGetAddrInfoHook env c = .ok x) ↔ initGetAddrInfoHook env () = .ok () := by
  simp only [initGetAddrInfoHook, Except.bind_eq_ok, Except.pure_eq_ok]
  constructor
  · rintro ⟨_, u, hm, v, hp, w, hd, _⟩
    exact ⟨u, hm, v, hp, w, hd, trivial⟩
  · rintro ⟨u, hm, v, hp, w, hd, _⟩
    exact ⟨c, u, hm, v, hp, w, hd, rfl⟩

theorem initCefUrlRequestCreateHook_isOk :
    (∃ x, initCefUrlRequestCreateHook env c = .ok x) ↔
      initCefUrlRequestCreateHook env () = .ok () := by
  simp only [initCefUrlRequestCreateHook, Except.bind_eq_ok, Except.pure_eq_ok]
  constructor
  · rintro ⟨_, u, hm, v, hp, w, hf, x, hd, _⟩
    exact ⟨u, hm, v, hp, w, hf, x, hd, trivial⟩
  · rintro ⟨u, hm, v, hp, w, hf, x, hd, _⟩
    exact ⟨c, u, hm, v, hp, w, hf, x, hd, rfl⟩

theorem enable_follows (env : HookEnv) (c : γ) (h : Hooks γ) :
    h.Follows c (enable env c h).1 := by
  refine tryUpdate_follows ?_ fun h => tryUpdate_follows ?_ fun h => tryUpdate_follows ?_ fun h =>
    tryUpdate_follows ?_ fun h k => .refl c (h.detour k)
  · intro d hd
    exact (Detour.getOrTryInit_eq_ok hd fun _ => initGetAddrInfoHook_eq_ok).1
  · intro d hd
    exact (Detour.getOrTryInit_eq_ok hd fun _ => initCefUrlRequestCreateHook_eq_ok).1
  · intro d hd
    exact .inl (Detour.enable_eq_ok hd).1
  · intro d hd
    exact .inl (Detour.enable_eq_ok hd).1

theorem captured?_disable (env : HookEnv) (h : Hooks γ) (k : FilterHook) :
    ((disable env h).1.detour k).captured? = (h.detour k).captured? :=
  tryUpdate_captured (fun _ => Detour.disable_eq_ok)
    (fun _ => tryUpdate_captured (fun _ => Detour.disable_eq_ok) fun _ _ => rfl) k

theorem disable_follows (env : HookEnv) (c : γ) (h : Hooks γ) :
    h.Follows c (disable env h).1 :=
  fun k => .inl (captured?_disable env h k)

/-- A successful `enable` leaves both detours enabled. -/
theorem enable_eq_ok (h : Hooks γ) (hr : (enable env c h).2 = .ok ()) :
    (enable env c h).1.Enabled := by
  obtain ⟨d₁, h₁, he, hr⟩ := tryUpdate_eq_ok hr
  rw [enable, he]
  obtain ⟨d₂, h₂, he, hr⟩ := tryUpdate_eq_ok hr
  rw [he]
  obtain ⟨d₃, h₃, he, hr⟩ := tryUpdate_eq_ok hr
  rw [he]
  obtain ⟨d₄, h₄, he, hr⟩ := tryUpdate_eq_ok hr
  rw [he]
  intro k
  cases k
  · simpa using (Detour.enable_eq_ok h₃).2
  · simpa using (Detour.enable_eq_ok h₄).2

/-- No call of `enable` takes out a patch. -/
theorem isEnabled_enable (env : HookEnv) (c : γ) (h : Hooks γ) (k : FilterHook) :
    (h.detour k).isEnabled = true → ((enable env c h).1.detour k).isEnabled = true := by
  have hkeeps {h : Hooks γ} {hook : FilterHook} {f : Detour γ → Except HookError (Detour γ)}
      {next : Hooks γ → Hooks γ × Except HookError Unit} :=
    @tryUpdate_keeps γ h hook f next (fun d d' => d.isEnabled = true → d'.isEnabled = true)
      (fun _ => id) (fun _ _ _ h h' => h' ∘ h)
  refine hkeeps ?_ (fun h => hkeeps ?_ fun h => hkeeps ?_ fun h => hkeeps ?_ fun h k => id) k
  · intro d hd
    rw [(Detour.getOrTryInit_eq_ok hd fun _ => initGetAddrInfoHook_eq_ok).2.1]
    exact id
  · intro d hd
    rw [(Detour.getOrTryInit_eq_ok hd fun _ => initCefUrlRequestCreateHook_eq_ok).2.1]
    exact id
  · exact fun d hd _ => (Detour.enable_eq_ok hd).2
  · exact fun d hd _ => (Detour.enable_eq_ok hd).2

/-- What `enable` does once both detours are initialized. -/
def switchOn (env : HookEnv) (h : Hooks γ) : Hooks γ × Except HookError Unit :=
  h.tryUpdate .getAddrInfo (·.enable (env.enable .getAddrInfo)) fun h =>
  h.tryUpdate .cefUrlRequestCreate (·.enable (env.enable .cefUrlRequestCreate)) fun h =>
  (h, .ok ())

/-- The initialization lets `enable` switch the detours on, or ends it before that. -/
theorem enable_initialized (env : HookEnv) (c : γ) (h : Hooks γ) :
    (h.Installable env ∧ ∃ h', enable env c h = switchOn env h' ∧
      ∀ k, h'.detour k ≠ .uninit ∧ (h'.detour k).isEnabled = (h.detour k).isEnabled) ∨
    (¬ h.Installable env ∧ ∃ h' e, enable env c h = (h', .error e) ∧
      ∀ k, (h'.detour k).isEnabled = (h.detour k).isEnabled) := by
  have hcef : ∀ d, (h.set .getAddrInfo d).detour .cefUrlRequestCreate =
      h.detour .cefUrlRequestCreate := fun d => by simp
  rw [Installable, ← initGetAddrInfoHook_isOk (c := c), ← Detour.getOrTryInit_isOk,
    ← initCefUrlRequestCreateHook_isOk (c := c), ← Detour.getOrTryInit_isOk, enable]
  cases h₁ : (h.detour .getAddrInfo).getOrTryInit (initGetAddrInfoHook env c) with
  | error e =>
    refine .inr ⟨by simp, h, e, ?_, fun _ => rfl⟩
    rw [tryUpdate_of_error h₁]
  | ok d₁ =>
    obtain ⟨-, hd₁, hn₁⟩ := Detour.getOrTryInit_eq_ok h₁ fun _ => initGetAddrInfoHook_eq_ok
    cases h₂ : (h.detour .cefUrlRequestCreate).getOrTryInit
        (initCefUrlRequestCreateHook env c) with
    | error e =>
      refine .inr ⟨by simp, h.set .getAddrInfo d₁, e, ?_, ?_⟩
      · rw [tryUpdate_of_ok h₁, tryUpdate_of_error ((hcef d₁).symm ▸ h₂)]
      · intro k
        cases k <;> simp [hd₁]
    | ok d₂ =>
      obtain ⟨-, hd₂, hn₂⟩ :=
        Detour.getOrTryInit_eq_ok h₂ fun _ => initCefUrlRequestCreateHook_eq_ok
      refine .inl ⟨by simp, (h.set .getAddrInfo d₁).set .cefUrlRequestCreate d₂, ?_, ?_⟩
      · rw [tryUpdate_of_ok h₁, tryUpdate_of_ok ((hcef d₁).symm ▸ h₂)]
        rfl
      · intro k
        cases k
        · simpa using ⟨hn₁, hd₁⟩
        · simpa using ⟨hn₂, hd₂⟩

theorem switchOn_ok (henv : env.Switches) (hinit : ∀ k, h.detour k ≠ .uninit) :
    (switchOn env h).2 = .ok () := by
  obtain ⟨d₁, h₁⟩ := Detour.enable_ok (hinit .getAddrInfo)
  obtain ⟨d₂, h₂⟩ := Detour.enable_ok (hinit .cefUrlRequestCreate)
  rw [switchOn, tryUpdate_of_ok (d := d₁) (by simpa [henv.enable] using h₁),
    tryUpdate_of_ok (d := d₂) (by simpa [henv.enable] using h₂)]

/-- When the detours switch as asked, `enable` fails only before it has enabled anything. -/
theorem enable_eq_error (henv : env.Switches) (h : Hooks γ) {e : HookError}
    (hr : (enable env c h).2 = .error e) :
    ∀ k, ((enable env c h).1.detour k).isEnabled = (h.detour k).isEnabled := by
  rcases enable_initialized env c h with ⟨-, h', he, hinit⟩ | ⟨-, h', e', he, hsame⟩
  · have hok := switchOn_ok henv fun k => (hinit k).1
    rw [he, hok] at hr
    cases hr
  · rw [he]
    exact hsame

/-- When the detours switch as asked, `enable` fails only where a detour cannot be initialized. -/
theorem enable_eq_ok_iff (henv : env.Switches) (h : Hooks γ) :
    (enable env c h).2 = .ok () ↔ h.Installable env := by
  rcases enable_initialized env c h with ⟨hinst, h', he, hinit⟩ | ⟨hnot, h', e, he, -⟩
  · have hok := switchOn_ok henv fun k => (hinit k).1
    rw [he]
    exact iff_of_true hok hinst
  · rw [he]
    exact iff_of_false (by rintro ⟨⟩) hnot

/-- When the detours switch as asked, `disable` takes both patches out. -/
theorem disable_eq_off (henv : env.Switches) (h : Hooks γ) :
    disable env h = (⟨fun k => (h.detour k).off⟩, .ok ()) := by
  simp only [disable]
  rw [tryUpdate_of_ok (d := (h.detour .getAddrInfo).off)
      (by rw [henv.disable]; exact Detour.disable_ok _),
    tryUpdate_of_ok (d := (h.detour .cefUrlRequestCreate).off)
      (by simpa [henv.disable] using Detour.disable_ok _)]
  have hoff : (h.set .getAddrInfo (h.detour .getAddrInfo).off).set .cefUrlRequestCreate
      (h.detour .cefUrlRequestCreate).off = ⟨fun k => (h.detour k).off⟩ := by
    apply Hooks.ext
    funext k
    cases k <;> simp
  rw [hoff]

end Hooks

end BurntSushi.Blocker
