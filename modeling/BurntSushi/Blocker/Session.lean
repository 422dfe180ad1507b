import BurntSushi.Blocker.Server

/-! Request sequences on one server, and what the enabled detours then do with a request. -/
namespace BurntSushi.Blocker

/-- The module as the loader leaves it, whatever its heap looks like. -/
def Dll.loaded (store : Store) (channels : Channels) : Dll := ⟨store, channels, .unloaded⟩

/-- A new server object in `dll`. -/
def Session.new (dll : Dll) : Session := ⟨(ServerImpl.new dll).1, (ServerImpl.new dll).2⟩

def Session.handleAll (R : Regex) : Session → List Request → Session
  | s, [] => s
  | s, r :: rs => handleAll R (s.handle R r).1 rs

/-- Whether the `getaddrinfo` detour answers a call with `WSAHOST_NOT_FOUND`. -/
def Dll.blocksHost (R : Regex) (dll : Dll) (nodeName : List UInt8) : Bool :=
  match dll.hooks.detour .getAddrInfo with
  | .ready c true =>
    ((getAddrInfoVerdict (.total (c.filters.check R dll.store)) (some nodeName)).map
      Verdict.block).getD false
  | _ => false

/-- Whether the `cef_urlrequest_create` detour answers a call with null. -/
def Dll.blocksUrl (R : Regex) (dll : Dll) (url : CefString) : Bool :=
  match dll.hooks.detour .cefUrlRequestCreate with
  | .ready c true =>
    (cefUrlRequestCreateVerdict (.total (c.filters.check R dll.store)) (some ⟨some url⟩)).block
  | _ => false

variable {R : Regex}

theorem Dll.blocksHost_eq {dll : Dll} {c : Capture} {bytes : List UInt8} {host : String}
    (hd : dll.hooks.detour .getAddrInfo = .ready c true) (hh : toStr bytes = some host) :
    dll.blocksHost R bytes = !c.filters.check R dll.store .getAddrInfo host := by
  simp [blocksHost, hd, getAddrInfoVerdict_of_decoded hh]

theorem Dll.blocksUrl_eq {dll : Dll} {c : Capture} (url : CefString)
    (hd : dll.hooks.detour .cefUrlRequestCreate = .ready c true) :
    dll.blocksUrl R url = !c.filters.check R dll.store .cefUrlRequestCreate
      (String.ofList (fromUtf16Lossy url.units)) := by
  simp [blocksUrl, hd, cefUrlRequestCreateVerdict_of_decoded]

/-- The steps around one server: a client's request, an event of an installed closure, and the
channel task forwarding one event, with the calls that loggers will answer. -/
inductive SessionLabel where
  | request (r : Request)
  | event (hook : FilterHook) (params : LogParams)
  | forward (answers : Logger → Bool)

def Session.step (R : Regex) (s : Session) : SessionLabel → Option Session
  | .request r => some (s.handle R r).1
  | .event hook params =>
    (s.dll.hooks.detour hook).captured?.map fun c =>
      { s with dll.channels := s.dll.channels.send c.logTx params }
  | .forward _ => do
    let tx ← s.server.logger.logTx
    let (_, channels) ← s.dll.channels.recv tx
    pure { s with dll.channels := channels }

namespace Session

/-- Every closure that has been installed checks with the filters of this server. -/
def OwnsHooks (s : Session) : Prop :=
  ∀ hook c, (s.dll.hooks.detour hook).captured? = some c → c.filters = s.server.filters

variable {s : Session}

theorem ownsHooks_new (store : Store) (channels : Channels) :
    (new (.loaded store channels)).OwnsHooks := by
  intro hook c hc
  simp [new, ServerImpl.new, Dll.loaded, Hooks.unloaded, Detour.captured?] at hc

theorem ownsHooks_of_follows {h : Hooks Capture} {c : Capture}
    (ho : s.OwnsHooks) (hf : s.dll.hooks.Follows c h) (hc : c.filters = s.server.filters) :
    ∀ hook x, (h.detour hook).captured? = some x → x.filters = s.server.filters := by
  intro hook x hx
  rcases hf hook with hk | ⟨-, hk⟩
  · exact ho hook x (hk ▸ hx)
  · obtain rfl := Option.some.inj (hk.symm.trans hx)
    exact hc

theorem ownsHooks_enableFiltering (ho : s.OwnsHooks) (env : HookEnv) :
    (s.enableFiltering env).1.OwnsHooks := by
  intro hook c hc
  exact ownsHooks_of_follows ho (s.dll.hooks.enable_follows env s.capture) rfl hook c hc

theorem ownsHooks_handle (ho : s.OwnsHooks) (r : Request) : (s.handle R r).1.OwnsHooks := by
  cases r with
  | registerLogger p =>
    intro hook c hc
    simpa [handle] using ho hook c (by simpa [handle] using hc)
  | setRuleset p =>
    intro hook c hc
    simpa [handle] using ho hook c (by simpa [handle] using hc)
  | enableFiltering env => exact ownsHooks_enableFiltering ho env
  | disableFiltering env =>
    intro hook c hc
    exact ownsHooks_of_follows ho (s.dll.hooks.disable_follows env s.capture) rfl hook c hc

theorem ownsHooks_handleAll (ho : s.OwnsHooks) (rs : List Request) :
    (s.handleAll R rs).OwnsHooks := by
  induction rs generalizing s with
  | nil => exact ho
  | cons r rs ih => exact ih (ownsHooks_handle ho r)

/-- Once its server has enabled the hooks, both closures check with its filters. -/
theorem ready_enableFiltering {env : HookEnv} (ho : s.OwnsHooks)
    (hok : (s.enableFiltering env).2 = .ok ()) (hook : FilterHook) :
    ∃ c, (s.enableFiltering env).1.dll.hooks.detour hook = .ready c true ∧
      c.filters = s.server.filters := by
  have he := Hooks.enable_eq_ok _ (enableFiltering_eq_ok.mp hok) hook
  rw [← hooks_enableFiltering] at he
  cases hd : (s.enableFiltering env).1.dll.hooks.detour hook with
  | uninit => simp [hd, Detour.isEnabled] at he
  | ready c enabled =>
    obtain rfl : enabled = true := by simpa [hd, Detour.isEnabled] using he
    exact ⟨c, rfl, ownsHooks_enableFiltering ho env hook c (by simp [hd, Detour.captured?])⟩

end Session

end BurntSushi.Blocker
