import BurntSushi.Client
import BurntSushi.LoggerImpl
import BurntSushi.Blocker.Contract
import BurntSushi.Blocker.Forwarding
import BurntSushi.Blocker.Switching

/-! What becomes of the calls of Spotify, and of the events that are logged for them, while a client
is connected. -/
namespace BurntSushi.Journal

open Blocker
open Client (FilterConfig Succeeded Wire)

/-- A call of a hooked function by a thread of Spotify. -/
inductive HookCall where
  | getAddrInfo (nodeName : Option (List UInt8))
  | cefUrlRequestCreate (request : Option CefRequest)

namespace HookCall

def hook : HookCall → FilterHook
  | .getAddrInfo _ => .getAddrInfo
  | .cefUrlRequestCreate _ => .cefUrlRequestCreate

def url : HookCall → Option String
  | .getAddrInfo nodeName => nodeUrl nodeName
  | .cefUrlRequestCreate request => requestUrl request

/-- The closure of the call's hook; `none` is a read through a null pointer, which ends Spotify. -/
def verdict (check : Check) : HookCall → Option Verdict
  | .getAddrInfo nodeName => getAddrInfoVerdict check nodeName
  | .cefUrlRequestCreate request => some (cefUrlRequestCreateVerdict check request)

/-- A call goes through the closure of an enabled detour, whose check and whose events are taken as
one step, and otherwise to the original function. -/
def run (R : Regex) (dll : Dll) (c : HookCall) : Option (Verdict × Channels) :=
  match dll.hooks.detour c.hook with
  | .ready captured true =>
    (c.verdict (.total (captured.filters.check R dll.store))).map fun v =>
      (v, v.log.foldl (·.send captured.logTx) dll.channels)
  | _ => some (⟨false, []⟩, dll.channels)

end HookCall

/-- The blocker module with its server, and what the client's logger has logged. -/
structure State where
  session : Session
  journal : List Record

inductive Label where
  | call (c : HookCall)
  | forward (answers : Logger → Bool)
  | request (r : Request)

variable (R : Regex) (config : FilterConfig) (maxLevel : Args.LogLevel) (client : Logger)

/-- What the client logs of the calls to its logger that succeed. -/
def logged (answers : Logger → Bool) (calls : List LogCall) : List Record :=
  (calls.filter fun call => call.logger = client && answers client).filterMap fun call =>
    LoggerImpl.record maxLevel call.params

def step (s : State) : Label → Option State
  | .call c => do
    let (_, channels) ← c.run R s.session.dll
    pure { s with session.dll.channels := channels }
  | .forward answers => do
    let session ← s.session.step R (.forward answers)
    pure ⟨session,
      s.journal ++ logged maxLevel client answers (s.session.calls (.forward answers))⟩
  | .request r => some { s with session := (s.session.handle R r).1 }

/-- No ruleset is set and the hooks are not disabled; the client does neither once it is
connected. -/
def Undisturbed (_ : State) : Label → Prop
  | .request (.setRuleset _) => False
  | .request (.disableFiltering _) => False
  | _ => True

/-- Whether the call of the client's logger succeeds, for an event that the channel task takes. -/
def Label.answered : Label → Option Bool
  | .forward answers => some (answers client)
  | _ => none

/-- The answers of the client's logger in a run, one for each event taken. -/
def answered (tr : List (State × Label)) : List Bool := tr.filterMap fun x => x.2.answered client

/-- What is logged of an event whose call to the client's logger has been answered or has failed. -/
def entry (x : LogParams × Bool) : Option Record :=
  if x.2 then LoggerImpl.record maxLevel x.1 else none

/-- The hosts and URLs that a config means to block, by hook. -/
def Blocks : FilterHook → String → Prop
  | .getAddrInfo => config.BlocksHost R
  | .cefUrlRequestCreate => config.BlocksUrl R

instance (hook : FilterHook) (url : String) : Decidable (Blocks R config hook url) :=
  match hook with
  | .getAddrInfo => inferInstanceAs (Decidable (_ ∧ _))
  | .cefUrlRequestCreate => inferInstanceAs (Decidable (∃ _ ∈ _, _))

/-- A call that the config means to block. -/
def Blocked (c : HookCall) : Prop := ∃ url, c.url = some url ∧ Blocks R config c.hook url

/-- The event that tells what the config means for a call. -/
def decision (c : HookCall) : Option LogParams :=
  c.url.map fun url => .request url (decide (Blocks R config c.hook url)) c.hook

def Label.decision : Label → Option LogParams
  | .call c => Journal.decision R config c
  | _ => none

/-- The decisions on the calls of a run. -/
def decisions (tr : List (State × Label)) : List LogParams :=
  tr.filterMap fun x => x.2.decision R config

/-- The client has configured the server and enabled the hooks, and the channel `tx` of its events
forwards to the client. -/
structure Connected (tx : Nat) (s : Session) : Prop where
  logTx : s.server.logger.logTx = some tx
  registered : (s.dll.channels.channel tx).this.loggers.count client = 1
  ready : ∀ hook, s.dll.hooks.detour hook = .ready ⟨s.server.filters, tx⟩ true
  check : ∀ hook url, s.server.filters.check R s.dll.store hook url =
    !decide (Blocks R config hook url)

/-- No client has enabled the hooks, and this one has not registered its logger. -/
structure Unclaimed (s : Session) : Prop where
  logTx : s.server.logger.logTx = none
  unregistered : client ∉ s.server.logger.loggers
  uninit : ∀ hook, s.dll.hooks.detour hook = .uninit

/-- A request of a client before this one. -/
def Harmless (r : Request) : Prop :=
  Client.enables r = false ∧ (SessionLabel.request r).registered ≠ some client

variable {R config maxLevel client} {s : Session} {st st' : State} {l : Label} {c : HookCall}
  {v : Verdict} {channels : Channels} {tx : Nat} {w : Wire} {tr : List (State × Label)}

theorem verdict_eq {check : FilterHook → String → Bool}
    (h : c.verdict (.total check) = some v) :
    v = match c.url with
      | none => ⟨false, []⟩
      | some url => ⟨!check c.hook url, [.request url (!check c.hook url) c.hook]⟩ := by
  cases c with
  | getAddrInfo nodeName =>
    cases nodeName with
    | none => cases h
    | some bytes =>
      cases hurl : toStr bytes with
      | none =>
        simp only [HookCall.verdict, getAddrInfoVerdict, Option.map_some, hurl] at h
        simp [HookCall.url, nodeUrl, hurl, ← Option.some.inj h]
      | some url =>
        simp only [HookCall.verdict, getAddrInfoVerdict_of_decoded hurl] at h
        simp [HookCall.url, nodeUrl, hurl, HookCall.hook, ← Option.some.inj h]
  | cefUrlRequestCreate request =>
    obtain rfl := Option.some.inj h
    rcases request with _ | ⟨_ | url⟩
    · rfl
    · rfl
    · rfl

/-- While the client is connected, a call gets the verdict of the config and sends its
decision. -/
theorem run_of_connected (h : Connected R config client tx s)
    (hrun : c.run R s.dll = some (v, channels)) :
    (v.block = true ↔ Blocked R config c) ∧
      channels = (decision R config c).toList.foldl (·.send tx) s.dll.channels := by
  simp only [HookCall.run, h.ready] at hrun
  obtain ⟨v', hv, hrun⟩ := Option.map_eq_some_iff.mp hrun
  obtain ⟨rfl, rfl⟩ := Prod.mk.inj hrun
  have hverdict := verdict_eq hv
  simp only [h.check, Bool.not_not] at hverdict
  cases hurl : c.url with
  | none => simp [hverdict, hurl, Blocked, decision]
  | some url => simp [hverdict, hurl, Blocked, decision]

theorem queue_send (cs : Channels) (tx : Nat) (params : LogParams) :
    ((cs.send tx params).channel tx).queue = (cs.channel tx).queue ++ [params] := by
  simp [Channels.send]

theorem enable_of_enabled {γ : Type} {h : Hooks γ} (hon : h.Enabled) (env : HookEnv)
    (captured : γ) : h.enable env captured = (h, .ok ()) := by
  have hinit (init : Except HookError γ) (k : FilterHook) :
      (h.detour k).getOrTryInit init = .ok (h.detour k) := by
    cases hk : h.detour k with
    | uninit =>
      have hon := hon k
      rw [hk] at hon
      cases hon
    | ready captured enabled => rfl
  rw [Hooks.enable, Hooks.tryUpdate_of_ok (hinit _ .getAddrInfo), Hooks.set_detour,
    Hooks.tryUpdate_of_ok (hinit _ .cefUrlRequestCreate), Hooks.set_detour]
  exact Hooks.switchOn_of_enabled hon

theorem Connected.enabled (h : Connected R config client tx s) : s.dll.hooks.Enabled := by
  intro hook
  rw [h.ready]
  rfl

/-- The events of a channel that have not been forwarded. -/
def pending (tx : Nat) (s : Session) : List LogParams := (s.dll.channels.channel tx).queue

/-- A request of another client keeps this one connected and the queue as it is. -/
theorem connected_request {r : Request} (h : Connected R config client tx s)
    (hu : Undisturbed st (.request r)) :
    Connected R config client tx (s.handle R r).1 ∧
      pending tx (s.handle R r).1 = pending tx s := by
  cases r with
  | registerLogger params =>
    have hdll : (s.registerLogger params).1.dll = s.dll := Session.dll_registerLogger params
    have hfilters : (s.registerLogger params).1.server.filters = s.server.filters :=
      Session.filters_registerLogger params
    simp only [Session.handle]
    refine ⟨⟨?_, ?_, ?_, ?_⟩, by rw [pending, hdll, pending]⟩
    · rw [Session.logTx_registerLogger, h.logTx]
    · rw [hdll]
      exact h.registered
    · rw [hdll, hfilters]
      exact h.ready
    · rw [hdll, hfilters]
      exact h.check
  | setRuleset params => exact absurd hu id
  | enableFiltering env =>
    have hsame : (s.enableFiltering env).1 = s := by
      simp only [Session.enableFiltering, LoggerManager.logSender_of_some h.logTx,
        enable_of_enabled h.enabled]
    simp only [Session.handle, hsame]
    exact ⟨h, trivial⟩
  | disableFiltering env => exact absurd hu id

/-- A call of the client's logger is logged once for each registration. -/
theorem logged_forward (answers : Logger → Bool) (loggers : List Logger) (params : LogParams) :
    logged maxLevel client answers (loggers.map (LogCall.mk · params)) =
      if answers client = true then
        (List.replicate (loggers.count client) params).filterMap (LoggerImpl.record maxLevel)
      else [] := by
  induction loggers with
  | nil => simp [logged]
  | cons logger loggers ih =>
    simp only [logged] at ih ⊢
    rw [List.map_cons, List.filter_cons, List.count_cons]
    by_cases ha : answers client = true
    · rw [if_pos ha] at ih ⊢
      by_cases hl : logger = client
      · rw [if_pos (by simp [hl, ha]), if_pos (by simp [hl]), List.replicate_succ,
          List.filterMap_cons, List.filterMap_cons, ih]
      · rw [if_neg (by simp [hl]), if_neg (by simpa using hl), ih, Nat.add_zero]
    · rw [if_neg ha] at ih ⊢
      rw [if_neg (by simp [ha]), ih]

/-- The channel task takes the next event. -/
theorem step_forward (maxLevel : Args.LogLevel) (h : Connected R config client tx s) {t : Session}
    {answers : Logger → Bool} (hs : s.step R (.forward answers) = some t) :
    ∃ params, pending tx s = params :: pending tx t ∧ Connected R config client tx t ∧
      logged maxLevel client answers (s.calls (.forward answers)) =
        (entry maxLevel (params, answers client)).toList := by
  obtain ⟨tx', htx, hs⟩ := Option.bind_eq_some_iff.mp hs
  obtain rfl := Option.some.inj (h.logTx.symm.trans htx)
  obtain ⟨⟨params, channels⟩, hrecv, hs⟩ := Option.bind_eq_some_iff.mp hs
  obtain rfl := Option.some.inj hs
  obtain ⟨hqueue, hthis⟩ := Channels.recv_eq_some hrecv
  refine ⟨params, hqueue, ⟨htx, ?_, h.ready, h.check⟩, ?_⟩
  · rw [hthis]
    exact h.registered
  · have hcalls : s.calls (.forward answers) =
        (s.dll.channels.channel tx).this.loggers.map (LogCall.mk · params) := by
      simp [Session.calls, Session.taken, htx, hqueue, LoggerManager.forward_eq_map]
    rw [hcalls, logged_forward, h.registered]
    cases answers client <;> cases hr : LoggerImpl.record maxLevel params <;> simp [entry, hr]

/-- What one step adds to the queue, takes from it and adds to the journal. -/
theorem step_connected (h : Connected R config client tx st.session) (hu : Undisturbed st l)
    (hs : step R maxLevel client st l = some st') :
    Connected R config client tx st'.session ∧ ∃ taken,
      taken ++ pending tx st'.session =
        pending tx st.session ++ (l.decision R config).toList ∧
      taken.length = (l.answered client).toList.length ∧
      st'.journal =
        st.journal ++ (taken.zip (l.answered client).toList).filterMap (entry maxLevel) := by
  cases l with
  | call c =>
    obtain ⟨⟨v, channels⟩, hrun, hs⟩ := Option.bind_eq_some_iff.mp hs
    obtain rfl := Option.some.inj hs
    obtain ⟨-, rfl⟩ := run_of_connected h hrun
    refine ⟨⟨h.logTx, ?_, h.ready, h.check⟩, [], ?_, rfl, by simp⟩
    · cases hd : decision R config c <;> simpa [hd] using h.registered
    · cases hd : decision R config c <;> simp [hd, Label.decision, pending, queue_send]
  | forward answers =>
    obtain ⟨t, ht, hs⟩ := Option.bind_eq_some_iff.mp hs
    obtain rfl := Option.some.inj hs
    obtain ⟨params, hqueue, hconnected, hlogged⟩ := step_forward maxLevel h ht
    refine ⟨hconnected, [params], by simp [hqueue, Label.decision], rfl, ?_⟩
    simp only [hlogged, Label.answered, Option.toList_some, List.zip_cons_cons, List.zip_nil_right]
    cases he : entry maxLevel (params, answers client) <;> simp [he]
  | request r =>
    obtain rfl := Option.some.inj hs
    obtain ⟨hconnected, hpending⟩ := connected_request h hu
    exact ⟨hconnected, [], by simp [hpending, Label.decision], rfl, by simp⟩

/-- The four requests of a client, answered with success. -/
def Exchanged (R : Regex) (config : FilterConfig) (w : Wire) (s t : Session) : Prop :=
  ∃ s₁ s₂ s₃, s.handle R (Client.registerLoggerRequest w.logger) = (s₁, .ok ()) ∧
    s₁.handle R (Client.setRulesetRequest .getAddrInfo (config.allowlist.map .ok) []) =
      (s₂, .ok ()) ∧
    s₂.handle R (Client.setRulesetRequest .cefUrlRequestCreate [] (config.denylist.map .ok)) =
      (s₃, .ok ()) ∧
    s₃.handle R (.enableFiltering w.env) = (t, .ok ())

theorem exchanged_configure (h : Succeeded (Client.configure R config w ⟨s, []⟩).1) :
    Exchanged R config w s (Client.configure R config w ⟨s, []⟩).1.session := by
  revert h
  simp only [Client.configure]
  let Q (x : Client.Progress × Except Client.ClientError Unit) : Prop :=
    Succeeded x.1 → Exchanged R config w s x.1.session
  apply Client.send_elim (Q := Q)
  · intro e s₁ h₁ h
    simp [Succeeded] at h
  intro s₁ h₁
  apply Client.fillList_elim (Q := Q)
  · intro h
    simp [Succeeded] at h
  apply Client.send_elim (Q := Q)
  · intro e s₂ h₂ h
    simp [Succeeded] at h
  intro s₂ h₂
  apply Client.fillList_elim (Q := Q)
  · intro h
    simp [Succeeded] at h
  apply Client.send_elim (Q := Q)
  · intro e s₃ h₃ h
    simp [Succeeded] at h
  intro s₃ h₃
  apply Client.send_elim (Q := Q)
  · intro e s₄ h₄ h
    simp [Succeeded] at h
  intro s₄ h₄ _
  exact ⟨s₁, s₂, s₃, Client.deliver_eq_ok h₁, Client.deliver_eq_ok h₂, Client.deliver_eq_ok h₃,
    Client.deliver_eq_ok h₄⟩

theorem exchanged_run (h : Succeeded (Client.run R config w s).1) :
    Exchanged R config w s (Client.run R config w s).1.session := by
  simp only [Client.run] at h ⊢
  split at h
  · simp [Succeeded] at h
  · cases hc : Client.configure R config w ⟨s, []⟩ with
    | mk p res =>
      have hexchanged := @exchanged_configure R config s w
      rw [hc] at hexchanged
      rw [hc] at h
      cases res with
      | error e => exact hexchanged h
      | ok => exact hexchanged h

theorem unclaimed_handle {r : Request} (h : Unclaimed client s) (hr : Harmless client r) :
    Unclaimed client (s.handle R r).1 := by
  cases r with
  | registerLogger params =>
    simp only [Session.handle]
    refine ⟨?_, ?_, ?_⟩
    · rw [Session.logTx_registerLogger]
      exact h.logTx
    · rw [loggers_registerLogger, List.mem_append, not_or]
      exact ⟨h.unregistered, by simpa using hr.2⟩
    · rw [Session.dll_registerLogger]
      exact h.uninit
  | setRuleset params =>
    simp only [Session.handle]
    refine ⟨?_, ?_, ?_⟩
    · rw [Session.server_setRuleset]
      exact h.logTx
    · rw [Session.server_setRuleset]
      exact h.unregistered
    · rw [Session.hooks_setRuleset]
      exact h.uninit
  | enableFiltering env => exact absurd hr.1 (by simp [Client.enables])
  | disableFiltering env =>
    have hoff : s.dll.hooks.Disabled := by
      intro hook
      rw [h.uninit]
      rfl
    simp only [Session.handle]
    refine ⟨h.logTx, h.unregistered, ?_⟩
    rw [Session.hooks_disableFiltering, Hooks.disable_of_disabled hoff]
    exact h.uninit

theorem unclaimed_new (store : Store) (chans : Channels) :
    Unclaimed client (.new (.loaded store chans)) :=
  ⟨rfl, List.not_mem_nil, fun _ => rfl⟩

theorem unclaimed_handleAll {rs : List Request} (h : Unclaimed client s)
    (hrs : ∀ r ∈ rs, Harmless client r) : Unclaimed client (s.handleAll R rs) := by
  induction rs generalizing s with
  | nil => exact h
  | cons r rs ih =>
    apply ih
    · exact unclaimed_handle h (hrs r (by simp))
    · intro r' hr'
      exact hrs r' (by simp [hr'])

theorem frame_setRuleset {params : SetRulesetParams} {t : Session} {res : Except CapnpError Unit}
    (h : s.handle R (.setRuleset params) = (t, res)) :
    t.server = s.server ∧ t.dll.channels = s.dll.channels ∧ t.dll.hooks = s.dll.hooks := by
  obtain rfl : (s.setRuleset R params).1 = t := (Prod.mk.inj h).1
  exact ⟨Session.server_setRuleset params, Session.channels_setRuleset params,
    Session.hooks_setRuleset params⟩

/-- Enabling hooks that no client has enabled. -/
theorem enableFiltering_unclaimed {env : HookEnv} {t : Session} {loggers : List Logger}
    (hloggers : s.server.logger = ⟨loggers, none⟩)
    (huninit : ∀ hook, s.dll.hooks.detour hook = .uninit) (ho : s.OwnsHooks)
    (h : s.handle R (.enableFiltering env) = (t, .ok ())) :
    ∃ tx, t.server.logger.logTx = some tx ∧ t.dll.channels.channel tx = ⟨⟨loggers, none⟩, []⟩ ∧
      (∀ hook, t.dll.hooks.detour hook = .ready ⟨t.server.filters, tx⟩ true) ∧
      t.dll.store = s.dll.store ∧ t.server.filters = s.server.filters := by
  obtain ⟨rfl, hok⟩ := Prod.mk.inj h
  change (s.enableFiltering env).2 = .ok () at hok
  have hnone : s.server.logger.logTx = none := by rw [hloggers]
  refine ⟨s.dll.channels.fresh, ?_, ?_, ?_, rfl, rfl⟩
  · change (s.enableFiltering env).1.server.logger.logTx = _
    rw [Session.logger_enableFiltering, LoggerManager.logSender_of_none hnone]
  · change (s.enableFiltering env).1.dll.channels.channel _ = _
    rw [Session.channels_enableFiltering, LoggerManager.logSender_of_none hnone, hloggers]
    simp
  · intro hook
    obtain ⟨captured, hready, -⟩ := Session.ready_enableFiltering ho hok hook
    have hcaptured : captured = s.capture := by
      rcases s.dll.hooks.enable_follows env s.capture hook with hsame | ⟨-, hnew⟩
      · rw [← Session.hooks_enableFiltering, hready, huninit] at hsame
        cases hsame
      · rw [← Session.hooks_enableFiltering, hready] at hnew
        exact Option.some.inj hnew
    have hcapture : s.capture = ⟨s.server.filters, s.dll.channels.fresh⟩ := by
      rw [Session.capture, LoggerManager.logSender_of_none hnone]
    change (s.enableFiltering env).1.dll.hooks.detour hook = _
    rw [hready, hcaptured, hcapture]

theorem eq_not_decide {b : Bool} {p : Prop} [Decidable p] (h : b = false ↔ p) :
    b = !decide p := by
  by_cases hp : p
  · simpa [hp] using h.mpr hp
  · simpa [hp] using fun hb => hp (h.mp hb)

/-- The requests of the first client that enables the hooks connect it. -/
theorem connected_of_exchanged {t : Session} (h : Unclaimed w.logger s) (ho : s.OwnsHooks)
    (he : Exchanged R config w s t) :
    ∃ tx, Connected R config w.logger tx t ∧ pending tx t = [] := by
  obtain ⟨s₁, s₂, s₃, h₁, h₂, h₃, h₄⟩ := he
  obtain ⟨ho₁, -⟩ := Client.ownsHooks_of_handle ho h₁
  obtain ⟨ho₂, -⟩ := Client.ownsHooks_of_handle ho₁ h₂
  obtain ⟨ho₃, -⟩ := Client.ownsHooks_of_handle ho₂ h₃
  obtain ⟨-, -, hload₂⟩ := @Client.setRulesetRequest_ok _ _ _ _ [] _ h₂
  obtain ⟨-, -, hload₃⟩ := @Client.setRulesetRequest_ok _ _ _ [] _ _ h₃
  obtain ⟨hserver₂, -, hhooks₂⟩ := frame_setRuleset h₂
  obtain ⟨hserver₃, -, hhooks₃⟩ := frame_setRuleset h₃
  have hlogger : s₃.server.logger = ⟨s.server.logger.loggers ++ [w.logger], none⟩ := by
    rw [hserver₃, hserver₂, ← (Prod.mk.inj h₁).1]
    change s.server.logger.addLogger w.logger = _
    rw [LoggerManager.addLogger, h.logTx]
  have huninit : ∀ hook, s₃.dll.hooks.detour hook = .uninit := by
    intro hook
    rw [hhooks₃, hhooks₂, ← (Prod.mk.inj h₁).1]
    exact h.uninit hook
  obtain ⟨tx, htx, hchannel, hready, hstore, hfilters⟩ :=
    enableFiltering_unclaimed hlogger huninit ho₃ h₄
  refine ⟨tx, ⟨htx, ?_, hready, ?_⟩, ?_⟩
  · rw [hchannel, List.count_append, List.count_eq_zero.mpr h.unregistered,
      List.count_singleton_self]
  · intro hook url
    rw [Filters.check, hstore, hfilters, hserver₃, hload₃]
    cases hook with
    | getAddrInfo =>
      rw [if_neg (by simp), hserver₂, hload₂, if_pos rfl]
      exact eq_not_decide (Client.check_allowlist config.allowlist url)
    | cefUrlRequestCreate =>
      rw [if_pos rfl]
      exact eq_not_decide (Client.check_denylist config.denylist url)
  · rw [pending, hchannel]

/-- The verdicts of a run in which the client is connected, its journal and the events on their way
to it: those of the decisions that have been taken are in the journal, in their order, exactly if
their call was answered. -/
structure Accounted (R : Regex) (config : FilterConfig) (maxLevel : Args.LogLevel)
    (client : Logger) (tr : List (State × Label)) (journal : List Record)
    (queue : List LogParams) : Prop where
  verdicts : ∀ x ∈ tr, ∀ c, x.2 = .call c → ∀ v channels,
    c.run R x.1.session.dll = some (v, channels) → (v.block = true ↔ Blocked R config c)
  taken : (answered client tr).length ≤ (decisions R config tr).length
  queue : queue = (decisions R config tr).drop (answered client tr).length
  journal : journal =
    ((decisions R config tr).zip (answered client tr)).filterMap (entry maxLevel)

theorem decisions_concat : decisions R config (tr ++ [(st, l)]) =
    decisions R config tr ++ (l.decision R config).toList := by
  cases h : l.decision R config <;> simp [decisions, h]

theorem answered_concat : answered client (tr ++ [(st, l)]) =
    answered client tr ++ (l.answered client).toList := by
  cases h : l.answered client <;> simp [answered, h]

theorem zip_append_of_length_eq {α β : Type} {xs : List α} {ys : List β}
    (h : xs.length = ys.length) (rest : List α) : (xs ++ rest).zip ys = xs.zip ys := by
  have hzip := @List.zip_append _ _ xs rest ys [] h
  rwa [List.append_nil, List.zip_nil_right, List.append_nil] at hzip

/-- Further decisions and answers pair up behind those that are paired already. -/
theorem zip_append_append {α β : Type} {xs more taken rest : List α} {ys zs : List β}
    (hlen : ys.length ≤ xs.length) (h : taken ++ rest = xs.drop ys.length ++ more)
    (htaken : taken.length = zs.length) :
    (xs ++ more).zip (ys ++ zs) = xs.zip ys ++ taken.zip zs ∧
      rest = (xs ++ more).drop (ys ++ zs).length := by
  have hsplit : xs ++ more = xs.take ys.length ++ (taken ++ rest) := by
    rw [h, ← List.append_assoc, List.take_append_drop]
  have hfirst : (xs.take ys.length).length = ys.length := by
    rw [List.length_take]
    omega
  have hxs : xs.zip ys = (xs.take ys.length).zip ys := by
    rw [← zip_append_of_length_eq hfirst (xs.drop ys.length), List.take_append_drop]
  constructor
  · rw [hsplit, List.zip_append hfirst, hxs, zip_append_of_length_eq htaken]
  · rw [hsplit, ← List.append_assoc]
    refine (List.drop_left' ?_).symm
    rw [List.length_append, List.length_append, hfirst, htaken]

theorem accounted_of_connected {st₀ : State} (h₀ : Connected R config client tx st₀.session)
    (hempty : pending tx st₀.session = []) (hjournal : st₀.journal = [])
    (h : Lts.Trace (step R maxLevel client) st₀ tr st) (hu : Lts.Along Undisturbed tr) :
    Connected R config client tx st.session ∧
      Accounted R config maxLevel client tr st.journal (pending tx st.session) := by
  induction h with
  | refl =>
    exact ⟨h₀, by simp, by simp [answered], by simp [hempty, decisions],
      by simp [hjournal, decisions]⟩
  | @snoc tr s t l h hs ih =>
    obtain ⟨hu, hl⟩ := Lts.along_concat.mp hu
    obtain ⟨hc, ha⟩ := ih hu
    obtain ⟨hc', taken, htaken, hlen, hlogged⟩ := step_connected hc hl hs
    rw [ha.queue] at htaken
    obtain ⟨hzip, hrest⟩ := zip_append_append ha.taken htaken hlen
    refine ⟨hc', ?_, ?_, ?_, ?_⟩
    · intro x hx c hcall v channels hrun
      rcases List.mem_append.mp hx with hx | hx
      · exact ha.verdicts x hx c hcall v channels hrun
      · obtain rfl := List.mem_singleton.mp hx
        exact (run_of_connected hc hrun).1
    · have hlengths := congrArg List.length htaken
      have hle := ha.taken
      simp only [List.length_append, List.length_drop] at hlengths
      rw [decisions_concat, answered_concat, List.length_append, List.length_append]
      omega
    · rw [decisions_concat, answered_concat]
      exact hrest
    · rw [decisions_concat, answered_concat, hzip, List.filterMap_append, ← ha.journal]
      exact hlogged

/-- A record in the journal is logged, and tells the event it is of. -/
theorem legible_of_accounted {journal : List Record} {queue : List LogParams} {r : Record}
    (h : Accounted R config maxLevel client tr journal queue) (hr : r ∈ journal) :
    GlobalLoggerHolder.Relevant r ∧ ∃! params, LoggerImpl.record maxLevel params = some r := by
  rw [h.journal] at hr
  obtain ⟨⟨params, answer⟩, -, hrecord⟩ := List.mem_filterMap.mp hr
  have hrecord : LoggerImpl.record maxLevel params = some r := by
    cases answer with
    | true => simpa [entry] using hrecord
    | false => simp [entry] at hrecord
  refine ⟨LoggerImpl.relevant_of_record hrecord, params, hrecord, ?_⟩
  intro params' hrecord'
  exact LoggerImpl.record_inj hrecord' hrecord

/-- From the success of the first client on: every call gets the verdict of the config, the events
on their way to the client are the decisions on the last calls, and its journal has of each earlier
decision, in their order, the record of it exactly if its call to the logger was answered. -/
theorem journal_trace (R : Regex) (config : FilterConfig) (maxLevel : Args.LogLevel) (w : Wire)
    (store : Store) (chans : Channels) (history : List Request) {tr : List (State × Label)}
    {st : State} (hhistory : ∀ r ∈ history, Harmless w.logger r)
    (hsucceeded : Succeeded (Client.run R config w
      ((Session.new (.loaded store chans)).handleAll R history)).1)
    (h : Lts.Trace (step R maxLevel w.logger) ⟨(Client.run R config w
      ((Session.new (.loaded store chans)).handleAll R history)).1.session, []⟩ tr st)
    (hu : Lts.Along Undisturbed tr) :
    ∃ tx, st.session.server.logger.logTx = some tx ∧
      Accounted R config maxLevel w.logger tr st.journal
        (st.session.dll.channels.channel tx).queue ∧
      ∀ r ∈ st.journal, GlobalLoggerHolder.Relevant r ∧
        ∃! params, LoggerImpl.record maxLevel params = some r := by
  have hunclaimed := unclaimed_handleAll (R := R) (unclaimed_new store chans) hhistory
  have ho := Session.ownsHooks_handleAll (R := R) (Session.ownsHooks_new store chans) history
  obtain ⟨tx, hconnected, hempty⟩ :=
    connected_of_exchanged hunclaimed ho (exchanged_run hsucceeded)
  obtain ⟨hconnected, haccounted⟩ := accounted_of_connected hconnected hempty rfl h hu
  exact ⟨tx, hconnected.logTx, haccounted, fun r hr => legible_of_accounted haccounted hr⟩

/-- A client all of whose requests are answered. -/
def answeredWire : Wire :=
  ⟨.ok (), .ok (), .ok (), 7, .answered, .answered, .answered, .answered, .allOk, .ok ()⟩

def spotifyOnly : FilterConfig := ⟨["spotify"], []⟩

def answeredSession : Session :=
  (Client.run quietRegex spotifyOnly answeredWire
    ((Session.new (.loaded .empty .empty)).handleAll quietRegex [])).1.session

def someCalls : List Label :=
  [.call (.cefUrlRequestCreate (some ⟨some ⟨[0x61]⟩⟩)), .call (.getAddrInfo (some [0xE9])),
    .forward fun _ => true]

theorem journal_someCalls :
    let tr := Lts.trail (step quietRegex .debug 7) ⟨answeredSession, []⟩ someCalls
    let st := Lts.after (step quietRegex .debug 7) ⟨answeredSession, []⟩ someCalls
    ∃ tx, st.session.server.logger.logTx = some tx ∧
      Accounted quietRegex spotifyOnly .debug 7 tr st.journal
        (st.session.dll.channels.channel tx).queue ∧
      ∀ r ∈ st.journal, GlobalLoggerHolder.Relevant r ∧
        ∃! params, LoggerImpl.record .debug params = some r := by
  intro tr st
  refine journal_trace quietRegex spotifyOnly .debug answeredWire .empty .empty [] ?_ ?_ ?_ ?_
  · simp
  · exact ⟨rfl, by decide⟩
  · exact Lts.trace_after rfl
  · apply Lts.along_trail
    intro l hl s
    simp only [someCalls, List.mem_cons, List.not_mem_nil, or_false] at hl
    rcases hl with rfl | rfl | rfl <;> trivial

end BurntSushi.Journal
