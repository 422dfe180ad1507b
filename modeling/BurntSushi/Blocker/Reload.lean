import BurntSushi.Blocker.Unload

/-! What the hooks check with and log to when the RPC server is started more than once. -/
namespace BurntSushi.Blocker

open Lts

namespace Label

def IsBind : Label → Prop
  | .bind _ _ => True
  | _ => False

/-- The ruleset that a `set_ruleset` request sets for a hook. -/
def rulesetFor (R : Regex) (hook : FilterHook) : Label → Option FilterRuleset
  | .request _ (.setRuleset params) =>
    match Session.readRuleset R params with
    | .ok (k, ruleset) => if k = hook then some ruleset else none
    | .error _ => none
  | _ => none

end Label

namespace Rpc

/-- The ruleset last set successfully for a hook. -/
def lastRuleset (R : Regex) (tr : List (Rpc × Label)) (hook : FilterHook) : FilterRuleset :=
  (tr.filterMap fun x => x.2.rulesetFor R hook).getLast?.getD .default

/-- An `enable_filtering` request that the current server answers with success. -/
def EnablesHooks (s : Rpc) : Label → Prop
  | .request _ (.enableFiltering env) =>
    ∃ x, s.session = some x ∧ (x.enableFiltering env).2 = .ok ()
  | _ => False

/-- Both hooks are enabled, answer by the rulesets set on this server and log to its channel. -/
def Serves (R : Regex) (tr : List (Rpc × Label)) (x : Session) : Prop :=
  ∀ hook, ∃ c, x.dll.hooks.detour hook = .ready c true ∧
    (∀ request, c.filters.check R x.dll.store hook request =
      (lastRuleset R tr hook).check R request) ∧
    x.server.logger.logTx = some c.logTx

variable {R : Regex} {s t u v : Rpc} {l : Label} {hook : FilterHook} {store : Store}
  {channels : Channels} {tr pre post : List (Rpc × Label)}

theorem lastRuleset_concat : lastRuleset R (tr ++ [(s, l)]) hook =
    (l.rulesetFor R hook).getD (lastRuleset R tr hook) := by
  cases h : l.rulesetFor R hook <;> simp [lastRuleset, h]

end Rpc

/-- The state of a server created when the detours were `h₀` and `n` was the next channel, after
requests that set the rulesets `rs`. -/
structure Attached (h₀ : Hooks Capture) (n : Nat) (own : Filters)
    (rs : FilterHook → FilterRuleset) (x : Session) : Prop where
  filters : x.server.filters = own
  ruleset : ∀ hook, own.load x.dll.store hook = rs hook
  fresh : n ≤ x.dll.channels.fresh
  logTx : ∀ tx, x.server.logger.logTx = some tx → n ≤ tx
  kept : ∀ hook c, (h₀.detour hook).captured? = some c →
    (x.dll.hooks.detour hook).captured? = some c
  captured : ∀ hook c, (h₀.detour hook).captured? = none →
    (x.dll.hooks.detour hook).captured? = some c →
    c.filters = own ∧ x.server.logger.logTx = some c.logTx

namespace Attached

variable {R : Regex} {h₀ : Hooks Capture} {n : Nat} {own : Filters}
  {rs : FilterHook → FilterRuleset} {x y : Session}

/-- A step that touches neither the rulesets nor what the closures know. -/
theorem frame (hA : Attached h₀ n own rs x) (hf : y.server.filters = x.server.filters)
    (hst : y.dll.store = x.dll.store) (hch : y.dll.channels.fresh = x.dll.channels.fresh)
    (htx : y.server.logger.logTx = x.server.logger.logTx)
    (hh : ∀ hook, (y.dll.hooks.detour hook).captured? = (x.dll.hooks.detour hook).captured?) :
    Attached h₀ n own rs y where
  filters := hf.trans hA.filters
  ruleset hook := by rw [hst, hA.ruleset]
  fresh := hch ▸ hA.fresh
  logTx tx h := hA.logTx tx (htx ▸ h)
  kept hook c h := by rw [hh, hA.kept hook c h]
  captured hook c h₁ h₂ := by
    rw [hh] at h₂
    rw [htx]
    exact hA.captured hook c h₁ h₂

theorem setRuleset (hA : Attached h₀ n own rs x) (client : Nat) (params : SetRulesetParams) :
    Attached h₀ n own
      (fun hook => ((Label.request client (.setRuleset params)).rulesetFor R hook).getD (rs hook))
      (x.setRuleset R params).1 where
  filters := by rw [Session.server_setRuleset, hA.filters]
  ruleset hook := by
    rw [← hA.filters, Session.load_setRuleset, hA.filters, hA.ruleset]
    simp only [Label.rulesetFor]
    cases Session.readRuleset R params with
    | error e => rfl
    | ok k => by_cases hk : k.1 = hook <;> simp [hk]
  fresh := by simpa using hA.fresh
  logTx := by simpa using hA.logTx
  kept := by simpa using hA.kept
  captured := by simpa using hA.captured

theorem enableFiltering (hA : Attached h₀ n own rs x) (env : HookEnv) :
    Attached h₀ n own rs (x.enableFiltering env).1 where
  filters := by rw [Session.filters_enableFiltering, hA.filters]
  ruleset := by simpa using hA.ruleset
  fresh := by
    rw [Session.channels_enableFiltering]
    exact Nat.le_trans hA.fresh (LoggerManager.fresh_le_logSender _ _)
  logTx tx h := by
    rw [Session.logger_enableFiltering, LoggerManager.logTx_logSender] at h
    obtain rfl := Option.some.inj h
    rcases LoggerManager.logSender_fst x.server.logger x.dll.channels with h | ⟨-, h⟩
    · exact hA.logTx _ h
    · rw [h]
      exact hA.fresh
  kept hook c h := by
    rw [Session.hooks_enableFiltering]
    exact (Hooks.enable_follows env x.capture x.dll.hooks hook).captured (hA.kept hook c h)
  captured hook c h₁ h₂ := by
    rw [Session.hooks_enableFiltering] at h₂
    rw [Session.logger_enableFiltering, LoggerManager.logTx_logSender]
    rcases Hooks.enable_follows env x.capture x.dll.hooks hook with h | ⟨-, h⟩
    · obtain ⟨hf, htx⟩ := hA.captured hook c h₁ (h ▸ h₂)
      rcases LoggerManager.logSender_fst x.server.logger x.dll.channels with h' | ⟨h', -⟩
      · exact ⟨hf, h'.symm.trans htx⟩
      · simp [h'] at htx
    · obtain rfl := Option.some.inj (h.symm.trans h₂)
      exact ⟨hA.filters, rfl⟩

/-- Switching the detours off. -/
theorem disable (hA : Attached h₀ n own rs x) (env : HookEnv) :
    Attached h₀ n own rs { x with dll.hooks := (x.dll.hooks.disable env).1 } :=
  hA.frame rfl rfl rfl rfl fun hook => Hooks.captured?_disable env x.dll.hooks hook

theorem handle (hA : Attached h₀ n own rs x) (client : Nat) (r : Request) :
    Attached h₀ n own
      (fun hook => ((Label.request client r).rulesetFor R hook).getD (rs hook))
      (x.handle R r).1 := by
  cases r with
  | registerLogger params =>
    exact hA.frame (by simp [Session.handle]) (by simp [Session.handle]) (by simp [Session.handle])
      (by simp [Session.handle]) (by simp [Session.handle])
  | setRuleset params => exact hA.setRuleset client params
  | enableFiltering env => exact hA.enableFiltering env
  | disableFiltering env => exact hA.disable env

theorem step {l : SessionLabel} (hA : Attached h₀ n own rs x) (hl : ∀ r, l ≠ .request r)
    (hs : x.step R l = some y) : Attached h₀ n own rs y := by
  cases l with
  | request r => exact absurd rfl (hl r)
  | event hook params =>
    obtain ⟨c, -, rfl⟩ := Option.map_eq_some_iff.mp hs
    exact hA.frame rfl rfl rfl rfl fun _ => rfl
  | forward answers =>
    obtain ⟨tx, -, hs⟩ := Option.bind_eq_some_iff.mp hs
    obtain ⟨⟨params, channels⟩, hrecv, hs⟩ := Option.bind_eq_some_iff.mp hs
    obtain rfl := Option.some.inj hs
    exact hA.frame rfl rfl (Channels.fresh_recv hrecv) rfl fun _ => rfl

end Attached

namespace Rpc

variable {R : Regex} {s t u v : Rpc} {l : Label} {hook : FilterHook} {store : Store}
  {channels : Channels} {tr pre post : List (Rpc × Label)} {x y : Session}

/-- How the session of the listening server goes on in a step that binds no new server. -/
inductive SessionStep (R : Regex) (s : Rpc) (y : Session) : Label → Prop
  | same {l : Label} (hs : s.session = some y) (hr : ∀ hook, l.rulesetFor R hook = none) :
      SessionStep R s y l
  | off {l : Label} {x : Session} {env : HookEnv} (hs : s.session = some x)
      (hr : ∀ hook, l.rulesetFor R hook = none)
      (hy : y = { x with dll.hooks := (x.dll.hooks.disable env).1 }) : SessionStep R s y l
  | request {client : Nat} {r : Request} {x : Session} (hs : s.session = some x)
      (hy : y = (x.handle R r).1) : SessionStep R s y (.request client r)
  | log {k : SessionLabel} {x : Session} (hs : s.session = some x) (hk : ∀ r, k ≠ .request r)
      (hy : x.step R k = some y) : SessionStep R s y (.log k)

theorem session_setSession {th : RpcThread} (ht : s.thread = some th) :
    (s.setSession x).session = some x := by
  simp [session, setSession, ht]

theorem session_unwind (cause : PanicCause) : (s.unwind cause).session = s.session := by
  cases ht : s.thread with
  | none => simp [session, unwind, ret, ht]
  | some th => cases hg : th.signal <;> simp [session, unwind, ret, ht, RpcThread.closeSignal, hg]

theorem sessionStep_of_step (h : Step R s l t) (hl : ¬ l.IsBind) (hy : t.session = some y) :
    SessionStep R s y l := by
  cases h with
  | startPoisoned => exact .same hy fun _ => rfl
  | startRunning => exact .same hy fun _ => rfl
  | spawn => simp [session, RpcThread.spawned] at hy
  | stopPoisoned => exact .same hy fun _ => rfl
  | take => exact .same hy fun _ => rfl
  | stopNone => exact .same hy fun _ => rfl
  | started => exact .same hy fun _ => rfl
  | endPointDropped => exact .same (session_unwind _ ▸ hy) fun _ => rfl
  | disabled =>
    obtain ⟨th, server, ht, hp, rfl⟩ := session_eq_some hy
    exact .off (session_of_thread (s := s) ht hp) (fun _ => rfl) rfl
  | disableFailed =>
    rw [session_unwind] at hy
    obtain ⟨th, server, ht, hp, rfl⟩ := session_eq_some hy
    exact .off (session_of_thread (s := s) ht hp) (fun _ => rfl) rfl
  | signalled hc ht =>
    obtain ⟨th, server, ht', hp, rfl⟩ := session_eq_some hy
    obtain rfl := Option.some.inj ht'
    exact .same (session_of_thread ht hp) fun _ => rfl
  | signalFailed => exact .same (session_unwind _ ▸ hy) fun _ => rfl
  | joined => exact .same hy fun _ => rfl
  | joinFailed => exact .same (session_unwind _ ▸ hy) fun _ => rfl
  | acceptFailed => simp [session, setThread] at hy
  | accepted ht hp =>
    obtain ⟨th, server, ht', hp', rfl⟩ := session_eq_some hy
    obtain rfl := Option.some.inj ht'
    exact .same (session_of_thread ht hp') fun _ => rfl
  | request ht hp =>
    rw [session_setSession ht] at hy
    exact .request (session_of_thread ht hp) (Option.some.inj hy).symm
  | log ht hp hk hu =>
    rw [session_setSession ht] at hy
    obtain rfl := Option.some.inj hy
    exact .log (session_of_thread ht hp) hk hu
  | disconnectTask ht hp =>
    obtain ⟨th, server, ht', hp', rfl⟩ := session_eq_some hy
    obtain rfl := Option.some.inj ht'
    exact .off (session_of_thread ht hp') (fun _ => rfl) rfl
  | seeSignal => simp [session, setThread] at hy
  | exit => simp [session, setThread] at hy
  | _ => exact absurd trivial hl

variable {h₀ : Hooks Capture} {n : Nat} {own : Filters}

theorem attached_step (hA : ∀ x, s.session = some x → Attached h₀ n own (lastRuleset R tr) x)
    (h : Step R s l t) (hl : ¬ l.IsBind) (hy : t.session = some y) :
    Attached h₀ n own (lastRuleset R (tr ++ [(s, l)])) y := by
  have hlast : lastRuleset R (tr ++ [(s, l)]) =
      fun hook => (l.rulesetFor R hook).getD (lastRuleset R tr hook) :=
    funext fun _ => lastRuleset_concat
  rw [hlast]
  cases sessionStep_of_step h hl hy with
  | same hs hr => simpa [hr] using hA y hs
  | off hs hr hy =>
    subst hy
    simpa [hr] using (hA _ hs).disable _
  | request hs hy =>
    subst hy
    exact (hA _ hs).handle _ _
  | log hs hk hy => exact (hA _ hs).step hk hy

end Rpc

/-- Every log channel that a closure or the server refers to has been created. -/
structure Session.Fresh (x : Session) : Prop where
  captured : ∀ hook c, (x.dll.hooks.detour hook).captured? = some c →
    c.logTx < x.dll.channels.fresh
  logTx : ∀ tx, x.server.logger.logTx = some tx → tx < x.dll.channels.fresh

namespace Session.Fresh

variable {R : Regex} {x y : Session}

theorem frame (hx : x.Fresh) (hch : y.dll.channels.fresh = x.dll.channels.fresh)
    (htx : y.server.logger.logTx = x.server.logger.logTx)
    (hh : ∀ hook, (y.dll.hooks.detour hook).captured? = (x.dll.hooks.detour hook).captured?) :
    y.Fresh where
  captured hook c h := by
    rw [hch]
    exact hx.captured hook c (hh hook ▸ h)
  logTx tx h := by
    rw [hch]
    exact hx.logTx tx (htx ▸ h)

theorem capture_lt (hx : x.Fresh) (env : HookEnv) :
    x.capture.logTx < (x.enableFiltering env).1.dll.channels.fresh := by
  rw [Session.channels_enableFiltering]
  cases htx : x.server.logger.logTx with
  | none => simp [Session.capture, LoggerManager.logSender_of_none htx]
  | some tx =>
    simpa [Session.capture, LoggerManager.logSender_of_some htx] using hx.logTx tx htx

theorem enableFiltering (hx : x.Fresh) (env : HookEnv) : (x.enableFiltering env).1.Fresh where
  captured hook c h := by
    rw [Session.hooks_enableFiltering] at h
    rcases Hooks.enable_follows env x.capture x.dll.hooks hook with h' | ⟨-, h'⟩
    · exact Nat.lt_of_lt_of_le (hx.captured hook c (h' ▸ h))
        (LoggerManager.fresh_le_logSender _ _)
    · obtain rfl := Option.some.inj (h'.symm.trans h)
      exact hx.capture_lt env
  logTx tx h := by
    rw [Session.logger_enableFiltering, LoggerManager.logTx_logSender] at h
    obtain rfl := Option.some.inj h
    exact hx.capture_lt env

theorem handle (hx : x.Fresh) (r : Request) : (x.handle R r).1.Fresh := by
  cases r with
  | registerLogger params =>
    exact hx.frame (by simp [Session.handle]) (by simp [Session.handle]) (by simp [Session.handle])
  | setRuleset params =>
    exact hx.frame (by simp [Session.handle]) (by simp [Session.handle]) (by simp [Session.handle])
  | enableFiltering env => exact hx.enableFiltering env
  | disableFiltering env => exact hx.frame rfl rfl (Hooks.captured?_disable env _)

theorem step {l : SessionLabel} (hx : x.Fresh) (hl : ∀ r, l ≠ .request r)
    (hs : x.step R l = some y) : y.Fresh := by
  cases l with
  | request r => exact absurd rfl (hl r)
  | event hook params =>
    obtain ⟨c, -, rfl⟩ := Option.map_eq_some_iff.mp hs
    exact hx.frame rfl rfl fun _ => rfl
  | forward answers =>
    obtain ⟨tx, -, hs⟩ := Option.bind_eq_some_iff.mp hs
    obtain ⟨⟨params, channels⟩, hrecv, hs⟩ := Option.bind_eq_some_iff.mp hs
    obtain rfl := Option.some.inj hs
    exact hx.frame (Channels.fresh_recv hrecv) rfl fun _ => rfl

end Session.Fresh

namespace Rpc

variable {R : Regex} {s t u v : Rpc} {l : Label} {hook : FilterHook} {store : Store}
  {channels : Channels} {tr pre post : List (Rpc × Label)} {x y : Session}

/-- The same of the whole module, whether a server listens or not. -/
structure ChannelsFresh (s : Rpc) : Prop where
  captured : ∀ hook c, (s.dll.hooks.detour hook).captured? = some c →
    c.logTx < s.dll.channels.fresh
  session : ∀ x, s.session = some x → x.Fresh

theorem fresh_listening {th : RpcThread} {server : ServerImpl} (hI : s.ChannelsFresh)
    (ht : s.thread = some th) (hp : th.phase = .listening server) :
    Session.Fresh ⟨server, s.dll⟩ :=
  hI.session _ (session_of_thread ht hp)

theorem captured_disable {env : HookEnv} (hI : s.ChannelsFresh) (hook : FilterHook) (c : Capture)
    (h : ((s.dll.hooks.disable env).1.detour hook).captured? = some c) :
    c.logTx < s.dll.channels.fresh :=
  hI.captured hook c (Hooks.captured?_disable env _ hook ▸ h)

theorem captured_step (hI : s.ChannelsFresh) (h : Step R s l t) (hook : FilterHook) (c : Capture)
    (hc : (t.dll.hooks.detour hook).captured? = some c) : c.logTx < t.dll.channels.fresh := by
  cases h with
  | disabled => exact captured_disable hI hook c hc
  | disableFailed => exact captured_disable hI hook c hc
  | disconnectTask => exact captured_disable hI hook c hc
  | request ht hp => exact ((fresh_listening hI ht hp).handle _).captured hook c hc
  | log ht hp hk hu => exact ((fresh_listening hI ht hp).step hk hu).captured hook c hc
  | _ => exact hI.captured hook c hc

theorem channelsFresh_step (hI : s.ChannelsFresh) (h : Step R s l t) : t.ChannelsFresh where
  captured := captured_step hI h
  session y hy := by
    by_cases hl : l.IsBind
    · cases h with
      | bindFailed => simp [Rpc.session, setThread] at hy
      | bound =>
        obtain rfl := Option.some.inj hy
        exact ⟨hI.captured, by simp [ServerImpl.new, LoggerManager.new]⟩
      | _ => exact absurd hl id
    · cases sessionStep_of_step h hl hy with
      | same hs => exact hI.session y hs
      | off hs hr hy =>
        subst hy
        exact (hI.session _ hs).frame rfl rfl (Hooks.captured?_disable _ _)
      | request hs hy =>
        subst hy
        exact (hI.session _ hs).handle _
      | log hs hk hy => exact (hI.session _ hs).step hk hy

theorem channelsFresh_trace (h : Trace (step R) (loaded store channels) tr s) :
    s.ChannelsFresh := by
  refine h.invariant ⟨?_, ?_⟩ fun _ _ _ hI hs => channelsFresh_step hI (step_cases hs)
  · intro hook c hc
    simp [loaded, Dll.loaded, Hooks.unloaded, Detour.captured?] at hc
  · intro x hx
    simp [Rpc.session, loaded] at hx

theorem enabled_step (h : Step R s l t)
    (he : s.EnablesHooks l ∨ ¬ s.Disables l ∧ s.dll.hooks.Enabled) : t.dll.hooks.Enabled := by
  cases hooksStep_of_step h with
  | enable hs ht =>
    rw [ht]
    rcases he with ⟨x, hx, hok⟩ | ⟨-, he⟩
    · obtain rfl := Option.some.inj (hs.symm.trans hx)
      rw [← session_dll hs]
      exact Hooks.enable_eq_ok _ (Session.enableFiltering_eq_ok.mp hok)
    · exact fun hook => Hooks.isEnabled_enable _ _ _ hook (he hook)
  | disable hd _ ht =>
    rcases he with he | ⟨hn, -⟩
    · simp only [EnablesHooks] at he
      split at he
      · exact absurd hd id
      · exact absurd he id
    · exact absurd hd hn
  | same hd hne ht =>
    rw [ht]
    rcases he with he | ⟨-, he⟩
    · unfold EnablesHooks at he
      split at he
      · exact absurd rfl (hne _ _)
      · exact absurd he id
    · exact he

theorem enabled_of_since (h : Trace (step R) v post s) (he : Since EnablesHooks Disables post) :
    s.dll.hooks.Enabled := by
  induction h with
  | refl => exact absurd he not_since_nil
  | snoc _ hs ih =>
    exact enabled_step (step_cases hs) ((since_concat.mp he).imp_right fun h => ⟨h.1, ih h.2⟩)

theorem attached_bind {listener : Except IoError Unit} {localAddr : Except IoError UInt16}
    (h : Step R u (.bind listener localAddr) v) (hy : v.session = some y) :
    Attached u.dll.hooks u.dll.channels.fresh (Filters.empty u.dll.store).1
      (lastRuleset R []) y := by
  cases h with
  | bindFailed => simp [session, setThread] at hy
  | bound =>
    obtain rfl := Option.some.inj hy
    refine ⟨rfl, fun hook => Filters.load_empty, Nat.le_refl _, ?_, fun _ _ => id, ?_⟩
    · simp [ServerImpl.new, LoggerManager.new]
    · intro hook c h₁ h₂
      simp [ServerImpl.new, h₁] at h₂

theorem attached_trace {listener : Except IoError Unit} {localAddr : Except IoError UInt16}
    (hb : step R u (.bind listener localAddr) = some v) (h : Trace (step R) v post s)
    (hn : Along (fun _ l => ¬ l.IsBind) post) (hy : s.session = some y) :
    Attached u.dll.hooks u.dll.channels.fresh (Filters.empty u.dll.store).1
      (lastRuleset R post) y := by
  induction h generalizing y with
  | refl => exact attached_bind (step_cases hb) hy
  | snoc _ hs ih =>
    obtain ⟨hn, hl⟩ := along_concat.mp hn
    exact attached_step (fun x hx => ih hn hx) (step_cases hs) hl hy

/-- Let a server be created in state `u`. Whenever one of its requests has enabled the hooks, they
answer by its rulesets and log to its channel if and only if no hook had been initialized in `u`,
by an earlier server of this load. -/
theorem serves_iff (R : Regex) (store : Store) (channels : Channels)
    {pre post : List (Rpc × Label)} {u v s : Rpc} {listener : Except IoError Unit}
    {localAddr : Except IoError UInt16} {x : Session}
    (hpre : Trace (step R) (loaded store channels) pre u)
    (hb : step R u (.bind listener localAddr) = some v) (hpost : Trace (step R) v post s)
    (hn : Along (fun _ l => ¬ l.IsBind) post) (hx : s.session = some x)
    (he : Since EnablesHooks Disables post) :
    Serves R post x ↔ ∀ hook, u.dll.hooks.detour hook = .uninit := by
  have hA := attached_trace hb hpost hn hx
  have hen := enabled_of_since hpost he
  rw [← session_dll hx] at hen
  constructor
  · intro hS hook
    obtain ⟨c, hd, -, htx⟩ := hS hook
    cases hu : u.dll.hooks.detour hook with
    | uninit => rfl
    | ready c' enabled =>
      have hc' : (u.dll.hooks.detour hook).captured? = some c' := by rw [hu]; rfl
      have hcc := hA.kept hook c' hc'
      rw [hd] at hcc
      obtain rfl := Option.some.inj hcc
      have hlt := (channelsFresh_trace hpre).captured hook c hc'
      have hle := hA.logTx _ htx
      omega
  · intro hu hook
    cases hd : x.dll.hooks.detour hook with
    | uninit =>
      have hon := hen hook
      simp [hd, Detour.isEnabled] at hon
    | ready c enabled =>
      obtain rfl : enabled = true := by simpa [hd, Detour.isEnabled] using hen hook
      obtain ⟨hf, htx⟩ := hA.captured hook c (by rw [hu]; rfl) (by rw [hd]; rfl)
      refine ⟨c, rfl, ?_, htx⟩
      intro request
      simp [Filters.check, hf, hA.ruleset]

/-- A client connects. -/
def connect : List Label := [.advance .allOk, .accept 0 (.ok ()) (.ok ())]

/-- A client connects and enables filtering. -/
def connectAndEnable : List Label := connect ++ [.request 0 (.enableFiltering .allOk)]

/-- The first server of the load enables the hooks and is stopped, and `start_rpc` begins anew. -/
def restart : List Label :=
  [.startRpc, .bind (.ok ()) (.ok 4000)] ++ connectAndEnable ++
    [.stopRpc, .advance .allOk, .advance .allOk, .disconnectTask 0 .allOk, .seeSignal, .exit,
      .advance .allOk, .startRpc]

/-- The module after some steps from its loading, and after the bind that follows them. -/
def starting (labels : List Label) : Rpc := after (step quietRegex) (loaded .empty .empty) labels

def bound (labels : List Label) : Rpc :=
  after (step quietRegex) (starting labels) [.bind (.ok ()) (.ok 4001)]

def served (labels : List Label) : Rpc :=
  after (step quietRegex) (bound labels) connectAndEnable

theorem not_isBind_connectAndEnable :
    Along (fun _ l => ¬ l.IsBind) (trail (step R) s connectAndEnable) := by
  apply along_trail
  intro l hl _
  simp only [connectAndEnable, connect, List.cons_append, List.nil_append, List.mem_cons,
    List.not_mem_nil, or_false] at hl
  rcases hl with rfl | rfl | rfl <;> exact id

theorem serves_iff_firstServer : ∃ x, (served [.startRpc]).session = some x ∧
    (Serves quietRegex (trail (step quietRegex) (bound [.startRpc]) connectAndEnable) x ↔
      ∀ hook, (starting [.startRpc]).dll.hooks.detour hook = .uninit) := by
  have hpre : Trace (step quietRegex) (loaded .empty .empty)
      (trail (step quietRegex) (loaded .empty .empty) [.startRpc]) (starting [.startRpc]) :=
    trace_after rfl
  have hb : step quietRegex (starting [.startRpc]) (.bind (.ok ()) (.ok 4001)) =
      some (bound [.startRpc]) := rfl
  have hpost : Trace (step quietRegex) (bound [.startRpc])
      (trail (step quietRegex) (bound [.startRpc]) connectAndEnable) (served [.startRpc]) :=
    trace_after rfl
  exact ⟨_, rfl, serves_iff quietRegex .empty .empty hpre hb hpost not_isBind_connectAndEnable rfl
    (since_trail connect rfl rfl ⟨_, rfl, rfl⟩)⟩

/-- After a restart the closures still log to the channel of the first server, whose task is
gone, and check with its rulesets. -/
theorem served_restart : ∃ pre post u v s x,
    Trace (step quietRegex) (loaded .empty .empty) pre u ∧
      step quietRegex u (.bind (.ok ()) (.ok 4001)) = some v ∧
      Trace (step quietRegex) v post s ∧ Along (fun _ l => ¬ l.IsBind) post ∧
      s.session = some x ∧ Since EnablesHooks Disables post ∧ ¬ Serves quietRegex post x := by
  refine ⟨_, trail (step quietRegex) (bound restart) connectAndEnable, starting restart,
    bound restart, served restart, _, trace_after rfl, rfl, trace_after rfl,
    not_isBind_connectAndEnable, rfl, since_trail connect rfl rfl ⟨_, rfl, rfl⟩, ?_⟩
  intro hS
  obtain ⟨c, hd, -, htx⟩ := hS .getAddrInfo
  have hc : c.logTx = 0 := by
    injection hd with hc _
    rw [← hc]
    rfl
  rw [hc] at htx
  injection htx with htx
  exact absurd htx (by decide)

end Rpc

end BurntSushi.Blocker
