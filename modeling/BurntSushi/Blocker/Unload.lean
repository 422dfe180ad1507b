import BurntSushi.Blocker.Rpc

/-! What `stop_rpc` leaves behind for the unloading of the module. -/
namespace BurntSushi.Blocker

open Lts

/-- What the OS answers during a step that switches detours. -/
def Label.env : Label → Option HookEnv
  | .advance env => some env
  | .request _ (.enableFiltering env) => some env
  | .request _ (.disableFiltering env) => some env
  | .disconnectTask _ env => some env
  | _ => none

namespace Rpc

/-- Every detour that the step asks to switch does so. -/
def Switches (_ : Rpc) (l : Label) : Prop := ∀ env, l.env = some env → env.Switches

/-- An `enable_filtering` request that finds what it needs. -/
def Enables (s : Rpc) : Label → Prop
  | .request _ (.enableFiltering env) => s.dll.hooks.Installable env
  | _ => False

/-- A call of `hooks::disable` by `stop_rpc`, a request or the task of a connection. -/
def Disables (s : Rpc) : Label → Prop
  | .advance _ => ∃ state, s.call = .disabling state
  | .request _ (.disableFiltering _) => True
  | .disconnectTask _ _ => True
  | _ => False

def ThreadEnded (s : Rpc) : Prop := ∃ th, s.thread = some th ∧ th.phase = .ended true

/-- The module can be unloaded: no patch leads into it and no thread runs in it. -/
def Unloadable (s : Rpc) : Prop := s.dll.hooks.Disabled ∧ s.ThreadEnded

/-- What a step does with the detours. -/
inductive HooksStep (s t : Rpc) : Label → Prop
  | enable {client : Nat} {env : HookEnv} {x : Session} (hs : s.session = some x)
      (h : t.dll.hooks = (s.dll.hooks.enable env x.capture).1) :
      HooksStep s t (.request client (.enableFiltering env))
  | disable {l : Label} {env : HookEnv} (hd : s.Disables l) (he : l.env = some env)
      (h : t.dll.hooks = (s.dll.hooks.disable env).1) : HooksStep s t l
  | same {l : Label} (hd : ¬ s.Disables l)
      (he : ∀ client env, l ≠ .request client (.enableFiltering env))
      (h : t.dll.hooks = s.dll.hooks) : HooksStep s t l

/-- How a step changes what is enabled. -/
inductive Switched (s : Rpc) (l : Label) (t : Rpc) : Prop
  | enabled (he : s.Enables l) (h : t.dll.hooks.Enabled)
  | disabled (he : ¬ s.Enables l) (hd : s.Disables l) (h : t.dll.hooks.Disabled)
  | kept (he : ¬ s.Enables l) (hd : ¬ s.Disables l)
      (h : ∀ hook, (t.dll.hooks.detour hook).isEnabled = (s.dll.hooks.detour hook).isEnabled)

variable {R : Regex} {s t : Rpc} {l : Label} {store : Store} {channels : Channels}
  {tr : List (Rpc × Label)}

theorem disabled_of_switches {γ : Type} {env : HookEnv} (henv : env.Switches) (h : Hooks γ) :
    (h.disable env).1.Disabled := by
  intro hook
  simp [Hooks.disable_eq_off henv]

theorem session_of_thread {th : RpcThread} {server : ServerImpl} (ht : s.thread = some th)
    (hp : th.phase = .listening server) : s.session = some ⟨server, s.dll⟩ := by
  simp [session, ht, hp]

theorem hooks_step {u u' : Session} {k : SessionLabel} (hk : ∀ r, k ≠ .request r)
    (h : u.step R k = some u') : u'.dll.hooks = u.dll.hooks := by
  cases k with
  | request r => exact absurd rfl (hk r)
  | event hook params =>
    obtain ⟨c, -, rfl⟩ := Option.map_eq_some_iff.mp h
    rfl
  | forward answers =>
    obtain ⟨tx, -, h⟩ := Option.bind_eq_some_iff.mp h
    obtain ⟨x, -, h⟩ := Option.bind_eq_some_iff.mp h
    obtain rfl := Option.some.inj h
    rfl

theorem hooksStep_advance {env : HookEnv} (hc : ∀ state, s.call ≠ .disabling state)
    (h : t.dll.hooks = s.dll.hooks) : HooksStep s t (.advance env) :=
  .same (fun ⟨state, hs⟩ => hc state hs) (by simp) h

theorem hooksStep_of_step (h : Step R s l t) : HooksStep s t l := by
  cases h with
  | disabled hc => exact .disable ⟨_, hc⟩ rfl rfl
  | disableFailed hc => exact .disable ⟨_, hc⟩ rfl rfl
  | disconnectTask => exact .disable trivial rfl rfl
  | @request th server client r ht hp hm =>
    cases r with
    | registerLogger p => exact .same id (by simp) (by simp [setSession, Session.handle])
    | setRuleset p => exact .same id (by simp) (by simp [setSession, Session.handle])
    | enableFiltering env => exact .enable (session_of_thread ht hp) rfl
    | disableFiltering env => exact .disable trivial rfl rfl
  | log ht hp hl hu => exact .same id (by simp) (hooks_step hl hu)
  | started hc => exact hooksStep_advance (by simp [hc]) rfl
  | endPointDropped hc => exact hooksStep_advance (by simp [hc]) rfl
  | signalled hc => exact hooksStep_advance (by simp [hc]) rfl
  | signalFailed hc => exact hooksStep_advance (by simp [hc]) rfl
  | joined hc => exact hooksStep_advance (by simp [hc]) rfl
  | joinFailed hc => exact hooksStep_advance (by simp [hc]) rfl
  | _ => exact .same id (by simp) rfl

theorem switched_enable {client : Nat} {env : HookEnv} {c : Capture} (henv : env.Switches)
    (ht : t.dll.hooks = (s.dll.hooks.enable env c).1) :
    Switched s (.request client (.enableFiltering env)) t := by
  by_cases hi : s.dll.hooks.Installable env
  · refine .enabled hi ?_
    rw [ht]
    exact Hooks.enable_eq_ok _ ((Hooks.enable_eq_ok_iff henv _).mpr hi)
  · refine .kept hi id ?_
    intro hook
    rw [ht]
    cases hr : (s.dll.hooks.enable env c).2 with
    | ok _ => exact absurd ((Hooks.enable_eq_ok_iff henv _).mp hr) hi
    | error e => exact Hooks.enable_eq_error henv _ hr hook

theorem enables_iff : s.Enables l ↔
    ∃ client env, l = .request client (.enableFiltering env) ∧ s.dll.hooks.Installable env := by
  simp only [Enables]
  split <;> simp_all

theorem not_enables_of_disables (h : s.Disables l) : ¬ s.Enables l := by
  rw [enables_iff]
  rintro ⟨client, env, rfl, -⟩
  exact h

theorem switched_step (h : Step R s l t) (hsw : s.Switches l) : Switched s l t := by
  cases hooksStep_of_step h with
  | enable hs ht => exact switched_enable (hsw _ rfl) ht
  | disable hd he ht =>
    refine .disabled (not_enables_of_disables hd) hd ?_
    rw [ht]
    exact disabled_of_switches (hsw _ he) _
  | same hd he ht =>
    refine .kept ?_ hd fun _ => by rw [ht]
    rw [enables_iff]
    rintro ⟨client, env, rfl, -⟩
    exact he client env rfl

/-- The hooks are enabled when the last step that switched them was an `enable_filtering`
request, and disabled otherwise. -/
theorem switched_trace (h : Trace (step R) (loaded store channels) tr s)
    (hsw : Along Switches tr) :
    (Since Enables Disables tr → s.dll.hooks.Enabled) ∧
      (¬ Since Enables Disables tr → s.dll.hooks.Disabled) := by
  induction h with
  | refl => exact ⟨fun h => absurd h not_since_nil, fun _ _ => rfl⟩
  | snoc _ hs ih =>
    obtain ⟨hsw, hl⟩ := along_concat.mp hsw
    obtain ⟨hon, hoff⟩ := ih hsw
    rw [since_concat]
    cases switched_step (step_cases hs) hl with
    | enabled he h => exact ⟨fun _ => h, fun hn => absurd (.inl he) hn⟩
    | disabled he hd h => exact ⟨fun hs => by simp_all, fun _ => h⟩
    | kept he hd h =>
      constructor
      · intro hs hook
        rw [h]
        exact hon (hs.resolve_left he).2 hook
      · intro hs hook
        rw [h]
        exact hoff (fun hc => hs (.inr ⟨hd, hc⟩)) hook

/-- `stop_rpc` comes back from a running state only after joining the thread. -/
theorem threadEnded_step (h : Step R s l t) (hr : t.outcome = some (.stopped true)) :
    t.ThreadEnded := by
  cases h with
  | joined hc ht he => exact ⟨_, ht, he⟩
  | _ => simp [ret, unwind, setThread, setSession] at hr

theorem threadEnded_trace (h : Trace (step R) (loaded store channels) tr s)
    (hr : s.outcome = some (.stopped true)) : s.ThreadEnded := by
  cases h with
  | refl => simp [loaded] at hr
  | snoc _ hs => exact threadEnded_step (step_cases hs) hr

/-- When `stop_rpc` returns from a running state, the module can be unloaded if and only if every
`enable_filtering` request that could install both hooks was followed by a `hooks::disable`. -/
theorem stopRpc_unloadable_iff (R : Regex) (store : Store) (channels : Channels)
    {tr : List (Rpc × Label)} {s : Rpc} (h : Trace (step R) (loaded store channels) tr s)
    (hsw : Along Switches tr) (hr : s.outcome = some (.stopped true)) :
    s.Unloadable ↔ ¬ Since Enables Disables tr := by
  obtain ⟨hon, hoff⟩ := switched_trace h hsw
  constructor
  · rintro ⟨hd, -⟩ hs
    have he := (hd .getAddrInfo).symm.trans (hon hs .getAddrInfo)
    simp at he
  · intro hs
    exact ⟨hoff hs, threadEnded_trace h hr⟩

/-- A client enables filtering and `stop_rpc` runs without interruption. -/
def promptStop : List Label :=
  [.startRpc, .bind (.ok ()) (.ok 4000), .advance .allOk, .accept 0 (.ok ()) (.ok ()),
    .request 0 (.enableFiltering .allOk), .stopRpc, .advance .allOk, .advance .allOk, .seeSignal,
    .exit, .advance .allOk]

/-- The thread handles a request between `hooks::disable` and the disconnect signal, and the task
of the connection is dropped before it runs. -/
def lateEnable : List Label :=
  [.startRpc, .bind (.ok ()) (.ok 4000), .advance .allOk, .accept 0 (.ok ()) (.ok ()), .stopRpc,
    .advance .allOk, .request 0 (.enableFiltering .allOk), .advance .allOk, .seeSignal, .exit,
    .advance .allOk]

theorem switches_of_allOk {labels : List Label}
    (h : ∀ l ∈ labels, l.env = none ∨ l.env = some .allOk) :
    Along Switches (trail (step R) s labels) := by
  apply along_trail
  intro l hl _ env he
  rcases h l hl with hn | ha
  · simp [hn] at he
  · obtain rfl := Option.some.inj (he.symm.trans ha)
    exact HookEnv.switches_allOk

theorem stopRpc_unloadable_iff_promptStop :
    let tr := trail (step quietRegex) (loaded .empty .empty) promptStop
    ∃ s, Trace (step quietRegex) (loaded .empty .empty) tr s ∧
      (s.Unloadable ↔ ¬ Since Enables Disables tr) :=
  ⟨_, trace_of_run rfl, stopRpc_unloadable_iff quietRegex .empty .empty (trace_of_run rfl)
    (switches_of_allOk (by simp [promptStop, Label.env])) rfl⟩

theorem stopRpc_lateEnable :
    ∃ tr s, Trace (step quietRegex) (loaded .empty .empty) tr s ∧ Along Switches tr ∧
      s.outcome = some (.stopped true) ∧ ¬ s.Unloadable :=
  ⟨trail (step quietRegex) (loaded .empty .empty) lateEnable, _, trace_of_run rfl,
    switches_of_allOk (by simp [lateEnable, Label.env]), rfl,
    fun h => absurd (h.1 .getAddrInfo) (by decide)⟩

end Rpc

end BurntSushi.Blocker
