import BurntSushi.Blocker.Rulesets

/-! `rpc.rs`: the client that configures the blocker service and enables filtering. -/
namespace BurntSushi.Client

open Blocker

structure FilterConfig where
  allowlist : List String
  denylist : List String
  deriving DecidableEq, Repr

inductive ClientError where
  | error (e : String)
  | panicked
  deriving DecidableEq, Repr

/-- What becomes of one request: it does not reach the handler or cannot be read there, it is
handled and answered, or its answer is lost. -/
inductive Delivery where
  | lost (e : CapnpError)
  | answered
  | unanswered (e : CapnpError)

/-- The outcomes of one run of the client, and the logger capability it creates. -/
structure Wire where
  connect : Except String Unit
  peerAddr : Except String Unit
  setNodelay : Except String Unit
  logger : Logger
  registerLogger : Delivery
  setGetAddrInfo : Delivery
  setCefUrlRequestCreate : Delivery
  enableFiltering : Delivery
  env : HookEnv
  rpcSystem : Except String Unit

/-- The server's state with the requests this client has sent and their answers. -/
structure Progress where
  session : Session
  sent : List (Request × Except CapnpError Unit)

def deliver (R : Regex) (d : Delivery) (r : Request) (s : Session) :
    Session × Except CapnpError Unit :=
  match d with
  | .lost e => (s, .error e)
  | .answered => s.handle R r
  | .unanswered e => ((s.handle R r).1, .error e)

/-- `request.send().promise.await?` and what follows it. -/
def Progress.send (R : Regex) (p : Progress) (d : Delivery) (r : Request)
    (next : Progress → Progress × Except ClientError Unit) :
    Progress × Except ClientError Unit :=
  let (session, res) := deliver R d r p.session
  let p := ⟨session, p.sent ++ [(r, res)]⟩
  match res with
  | .error e => (p, .error (.error e))
  | .ok () => next p

/-- Filling a list builder of `urls.len() as u32` slots: the first index past a truncated
length fails the bounds assertion. -/
def fillList (urls : List String) (p : Progress)
    (next : List (Except CapnpError String) → Progress × Except ClientError Unit) :
    Progress × Except ClientError Unit :=
  if urls.length < UInt32.size then next (urls.map .ok)
  else (p, .error .panicked)

def registerLoggerRequest (logger : Logger) : Request :=
  .registerLogger ⟨.ok (), .ok logger⟩

def setRulesetRequest (hook : FilterHook) (whitelist blacklist : List (Except CapnpError String)) :
    Request :=
  .setRuleset ⟨.ok (), .ok hook, .ok (), .ok whitelist, .ok blacklist⟩

/-- The four requests of `run`. -/
def configure (R : Regex) (config : FilterConfig) (w : Wire) (p : Progress) :
    Progress × Except ClientError Unit :=
  p.send R w.registerLogger (registerLoggerRequest w.logger) fun p =>
  fillList config.allowlist p fun whitelist =>
  p.send R w.setGetAddrInfo (setRulesetRequest .getAddrInfo whitelist []) fun p =>
  fillList config.denylist p fun blacklist =>
  p.send R w.setCefUrlRequestCreate (setRulesetRequest .cefUrlRequestCreate [] blacklist) fun p =>
  p.send R w.enableFiltering (.enableFiltering w.env) fun p =>
  (p, .ok ())

def run (R : Regex) (config : FilterConfig) (w : Wire) (s : Session) :
    Progress × Except ClientError Unit :=
  match (do w.connect; w.peerAddr; w.setNodelay : Except String Unit) with
  | .error e => (⟨s, []⟩, .error (.error e))
  | .ok () =>
    match configure R config w ⟨s, []⟩ with
    | (p, .error e) => (p, .error e)
    | (p, .ok ()) => (p, w.rpcSystem.mapError .error)

/-- The requests of a run that goes through, in their order. -/
def requests (config : FilterConfig) (w : Wire) : List Request :=
  [registerLoggerRequest w.logger,
    setRulesetRequest .getAddrInfo (config.allowlist.map .ok) [],
    setRulesetRequest .cefUrlRequestCreate [] (config.denylist.map .ok),
    .enableFiltering w.env]

/-- The request asks for the detours to be enabled. -/
def enables : Request → Bool
  | .enableFiltering _ => true
  | _ => false

/-- All four requests of the client were answered with success. -/
def Succeeded (p : Progress) : Prop := p.sent.length = 4 ∧ ∀ x ∈ p.sent, x.2 = .ok ()

/-- Registering the logger or setting a ruleset failed. -/
def SetupFailed (p : Progress) : Prop := ∃ x ∈ p.sent, enables x.1 = false ∧ ∃ e, x.2 = .error e

/-- The client has not asked for filtering, and the detours are as they were. -/
def Untouched (s : Session) (p : Progress) : Prop :=
  (∀ x ∈ p.sent, enables x.1 = false) ∧ p.session.dll.hooks = s.dll.hooks

/-- The hosts that a config means to block. -/
def FilterConfig.BlocksHost (R : Regex) (config : FilterConfig) (host : String) : Prop :=
  config.allowlist ≠ [] ∧ ∀ pattern ∈ config.allowlist, R.isMatch pattern host = false

/-- The URLs that a config means to block. -/
def FilterConfig.BlocksUrl (R : Regex) (config : FilterConfig) (url : String) : Prop :=
  ∃ pattern ∈ config.denylist, R.isMatch pattern url = true

/-- The enabled detours implement the config. -/
structure Enforces (R : Regex) (config : FilterConfig) (dll : Dll) : Prop where
  enabled : dll.hooks.Enabled
  host : ∀ bytes host, toStr bytes = some host →
    (dll.blocksHost R bytes = true ↔ config.BlocksHost R host)
  url : ∀ url : CefString, dll.blocksUrl R url = true ↔
    config.BlocksUrl R (String.ofList (fromUtf16Lossy url.units))

variable {R : Regex} {config : FilterConfig} {w : Wire} {s : Session} {p : Progress}
  {d : Delivery} {r : Request} {next : Progress → Progress × Except ClientError Unit}

theorem check_allowlist (patterns : List String) (request : String) :
    FilterRuleset.check R ⟨⟨patterns⟩, ⟨[]⟩⟩ request = false ↔
      patterns ≠ [] ∧ ∀ pattern ∈ patterns, R.isMatch pattern request = false := by
  cases patterns <;>
    simp [FilterRuleset.check, RegexSet.isEmpty, RegexSet.isMatch]

theorem check_denylist (patterns : List String) (request : String) :
    FilterRuleset.check R ⟨⟨[]⟩, ⟨patterns⟩⟩ request = false ↔
      ∃ pattern ∈ patterns, R.isMatch pattern request = true := by
  simp [FilterRuleset.check, RegexSet.isEmpty, RegexSet.isMatch]

theorem deliver_eq_ok {s' : Session} (h : deliver R d r s = (s', .ok ())) :
    s.handle R r = (s', .ok ()) := by
  cases d with
  | lost e => simp [deliver] at h
  | answered => exact h
  | unanswered e => simp [deliver] at h

theorem hooks_deliver (hr : enables r = false) (hd : ∀ env, r ≠ .disableFiltering env) :
    (deliver R d r s).1.dll.hooks = s.dll.hooks := by
  cases r with
  | registerLogger params => cases d <;> simp [deliver, Session.handle]
  | setRuleset params => cases d <;> simp [deliver, Session.handle]
  | enableFiltering env => simp [enables] at hr
  | disableFiltering env => exact absurd rfl (hd env)

/-- The two ways a request can go, for a property of the rest of the run. -/
theorem send_elim {Q : Progress × Except ClientError Unit → Prop}
    (herr : ∀ e session, deliver R d r p.session = (session, .error e) →
      Q (⟨session, p.sent ++ [(r, .error e)]⟩, .error (.error e)))
    (hok : ∀ session, deliver R d r p.session = (session, .ok ()) →
      Q (next ⟨session, p.sent ++ [(r, .ok ())]⟩)) : Q (p.send R d r next) := by
  simp only [Progress.send]
  rcases hs : deliver R d r p.session with ⟨session, e | u⟩
  · simpa [hs] using herr e session hs
  · simpa [hs] using hok session hs

theorem fillList_elim {Q : Progress × Except ClientError Unit → Prop} {urls : List String}
    {next : List (Except CapnpError String) → Progress × Except ClientError Unit}
    (hpanic : Q (p, .error .panicked)) (hok : Q (next (urls.map .ok))) :
    Q (fillList urls p next) := by
  simp only [fillList]
  split
  · exact hok
  · exact hpanic

/-- A ruleset request of this client succeeds exactly if both lists compile. -/
theorem setRulesetRequest_eq_ok {hook : FilterHook} {whitelist blacklist : List String} :
    (s.handle R (setRulesetRequest hook (whitelist.map .ok) (blacklist.map .ok))).2 = .ok () ↔
      R.compile whitelist = .ok () ∧ R.compile blacklist = .ok () := by
  refine setRuleset_eq_ok_iff.trans ⟨?_, fun h => ⟨hook, _, _, ⟨rfl, rfl, rfl, rfl, rfl⟩, h⟩⟩
  rintro ⟨k, whites, blacks, hc, hw, hb⟩
  have hinj : Function.Injective (List.map (.ok : String → Except CapnpError String)) :=
    List.map_injective_iff.mpr fun _ _ => Except.ok.inj
  obtain rfl : whitelist = whites := hinj (Except.ok.inj hc.getWhitelist)
  obtain rfl : blacklist = blacks := hinj (Except.ok.inj hc.getBlacklist)
  exact ⟨hw, hb⟩

/-- It then stores exactly the lists it was built from. -/
theorem setRulesetRequest_ok {hook : FilterHook} {whitelist blacklist : List String} {s' : Session}
    (h : s.handle R (setRulesetRequest hook (whitelist.map .ok) (blacklist.map .ok)) =
      (s', .ok ())) :
    R.compile whitelist = .ok () ∧ R.compile blacklist = .ok () ∧
      ∀ k, s.server.filters.load s'.dll.store k =
        if hook = k then ⟨⟨whitelist⟩, ⟨blacklist⟩⟩ else s.server.filters.load s.dll.store k := by
  obtain ⟨hw, hb⟩ := setRulesetRequest_eq_ok.mp (congrArg Prod.snd h)
  refine ⟨hw, hb, ?_⟩
  intro k
  have hload := Session.load_setRuleset (R := R) (s := s)
    ⟨.ok (), .ok hook, .ok (), .ok (whitelist.map .ok), .ok (blacklist.map .ok)⟩ k
  rw [readRuleset_eq_ok.mpr ⟨⟨rfl, rfl, rfl, rfl, rfl⟩, hw, hb⟩] at hload
  exact (congrArg (fun x => s.server.filters.load x.1.dll.store k) h.symm).trans hload

theorem ownsHooks_of_handle {res : Except CapnpError Unit} {s' : Session} (ho : s.OwnsHooks)
    (h : s.handle R r = (s', res)) :
    s'.OwnsHooks ∧ s'.server.filters = s.server.filters := by
  have ho' := Session.ownsHooks_handle (R := R) ho r
  have hf := Session.filters_handle (R := R) (s := s) r
  rw [h] at ho' hf
  exact ⟨ho', hf⟩

/-- The sequence of all four requests, when every answer is a success, on a server whose filters
the installed closures use. -/
theorem enforces_of_ok {s₁ s₂ s₃ s₄ : Session} (ho : s.OwnsHooks)
    (h₁ : s.handle R (registerLoggerRequest w.logger) = (s₁, .ok ()))
    (h₂ : s₁.handle R (setRulesetRequest .getAddrInfo (config.allowlist.map .ok) []) =
      (s₂, .ok ()))
    (h₃ : s₂.handle R (setRulesetRequest .cefUrlRequestCreate [] (config.denylist.map .ok)) =
      (s₃, .ok ()))
    (h₄ : s₃.handle R (.enableFiltering w.env) = (s₄, .ok ())) : Enforces R config s₄.dll := by
  obtain ⟨ho₁, -⟩ := ownsHooks_of_handle ho h₁
  obtain ⟨ho₂, hf₂⟩ := ownsHooks_of_handle ho₁ h₂
  obtain ⟨ho₃, hf₃⟩ := ownsHooks_of_handle ho₂ h₃
  obtain ⟨-, -, hload₂⟩ := @setRulesetRequest_ok _ _ _ _ [] _ h₂
  obtain ⟨-, -, hload₃⟩ := @setRulesetRequest_ok _ _ _ [] _ _ h₃
  rw [← hf₂] at hload₂
  have hhost : s₃.server.filters.load s₃.dll.store .getAddrInfo =
      ⟨⟨config.allowlist⟩, ⟨[]⟩⟩ := by
    rw [hf₃, hload₃, hload₂]
    rfl
  have hurl : s₃.server.filters.load s₃.dll.store .cefUrlRequestCreate =
      ⟨⟨[]⟩, ⟨config.denylist⟩⟩ := by
    rw [hf₃, hload₃]
    rfl
  have hok : (s₃.enableFiltering w.env).2 = .ok () := congrArg Prod.snd h₄
  obtain rfl : (s₃.enableFiltering w.env).1 = s₄ := congrArg Prod.fst h₄
  refine ⟨?_, ?_, ?_⟩
  · exact Hooks.enable_eq_ok _ (Session.enableFiltering_eq_ok.mp hok)
  · intro bytes host hbytes
    obtain ⟨c, hc, hfc⟩ := Session.ready_enableFiltering ho₃ hok .getAddrInfo
    rw [Dll.blocksHost_eq hc hbytes, hfc, Session.store_enableFiltering, Filters.check, hhost,
      Bool.not_eq_true', check_allowlist]
    rfl
  · intro url
    obtain ⟨c, hc, hfc⟩ := Session.ready_enableFiltering ho₃ hok .cefUrlRequestCreate
    rw [Dll.blocksUrl_eq url hc, hfc, Session.store_enableFiltering, Filters.check, hurl,
      Bool.not_eq_true', check_denylist]
    rfl

/-- What a run of the client guarantees, whatever came before it on the server. -/
structure Guarantee (R : Regex) (config : FilterConfig) (w : Wire) (s : Session) (p : Progress) :
    Prop where
  sent : p.sent.map Prod.fst <+: requests config w
  enforces : Succeeded p → Enforces R config p.session.dll
  untouched : SetupFailed p → Untouched s p
  rejected : (∃ e, R.compile config.allowlist = .error e ∨ R.compile config.denylist = .error e) →
    Untouched s p

theorem untouched_send (hu : Untouched s p) (hr : enables r = false)
    (hd : ∀ env, r ≠ .disableFiltering env) {s' : Session} {res : Except CapnpError Unit}
    (h : deliver R d r p.session = (s', res)) : Untouched s ⟨s', p.sent ++ [(r, res)]⟩ := by
  refine ⟨?_, ?_⟩
  · intro x hx
    rcases List.mem_append.mp hx with hx | hx
    · exact hu.1 x hx
    · obtain rfl := List.mem_singleton.mp hx
      exact hr
  · have hh := hooks_deliver (R := R) (d := d) (s := p.session) hr hd
    rw [h] at hh
    exact hh.trans hu.2

/-- A run that stops before the last request leaves the detours alone. -/
theorem guarantee_of_untouched (hsent : p.sent.map Prod.fst <+: requests config w)
    (hu : Untouched s p) (hlen : p.sent.length < 4) : Guarantee R config w s p where
  sent := hsent
  enforces h := absurd h.1 (Nat.ne_of_lt hlen)
  untouched _ := hu
  rejected _ := hu

theorem guarantee_configure (ho : s.OwnsHooks) :
    Guarantee R config w s (configure R config w ⟨s, []⟩).1 := by
  have hu₀ : Untouched s ⟨s, []⟩ := ⟨by simp, rfl⟩
  simp only [configure]
  apply send_elim (Q := fun x => Guarantee R config w s x.1)
  · intro e s₁ h₁
    exact guarantee_of_untouched (by simp [requests])
      (untouched_send hu₀ rfl (by simp [registerLoggerRequest]) h₁) (by simp)
  intro s₁ h₁
  have hu₁ := untouched_send hu₀ rfl (by simp [registerLoggerRequest]) h₁
  apply fillList_elim (Q := fun x => Guarantee R config w s x.1)
  · exact guarantee_of_untouched (by simp [requests]) hu₁ (by simp)
  apply send_elim (Q := fun x => Guarantee R config w s x.1)
  · intro e s₂ h₂
    exact guarantee_of_untouched (by simp [requests])
      (untouched_send hu₁ rfl (by simp [setRulesetRequest]) h₂) (by simp)
  intro s₂ h₂
  have hu₂ := untouched_send hu₁ rfl (by simp [setRulesetRequest]) h₂
  apply fillList_elim (Q := fun x => Guarantee R config w s x.1)
  · exact guarantee_of_untouched (by simp [requests]) hu₂ (by simp)
  apply send_elim (Q := fun x => Guarantee R config w s x.1)
  · intro e s₃ h₃
    exact guarantee_of_untouched (by simp [requests])
      (untouched_send hu₂ rfl (by simp [setRulesetRequest]) h₃) (by simp)
  intro s₃ h₃
  have hsetup := @setRulesetRequest_ok _ _ _ _ [] _ (deliver_eq_ok h₂)
  have hsetup' := @setRulesetRequest_ok _ _ _ [] _ _ (deliver_eq_ok h₃)
  have hrejected :
      ¬ ∃ e, R.compile config.allowlist = .error e ∨ R.compile config.denylist = .error e := by
    rintro ⟨e, he | he⟩
    · simp [hsetup.1] at he
    · simp [hsetup'.2.1] at he
  apply send_elim (Q := fun x => Guarantee R config w s x.1)
  · intro e s₄ h₄
    refine ⟨by simp [requests], ?_, ?_, fun h => absurd h hrejected⟩
    · intro h
      have := h.2 (.enableFiltering w.env, .error e) (by simp)
      simp at this
    · intro h
      obtain ⟨x, hx, hen, e', he'⟩ := h
      simp only [List.nil_append, List.cons_append, List.mem_cons, List.not_mem_nil,
        or_false] at hx
      rcases hx with rfl | rfl | rfl | rfl <;> simp [enables] at he' hen
  · intro s₄ h₄
    refine ⟨by simp [requests], ?_, ?_, fun h => absurd h hrejected⟩
    · intro _
      exact enforces_of_ok ho (deliver_eq_ok h₁) (deliver_eq_ok h₂) (deliver_eq_ok h₃)
        (deliver_eq_ok h₄)
    · intro h
      obtain ⟨x, hx, -, e', he'⟩ := h
      simp only [List.nil_append, List.cons_append, List.mem_cons, List.not_mem_nil,
        or_false] at hx
      rcases hx with rfl | rfl | rfl | rfl <;> simp at he'

/-- What holds of a run is what holds of its requests, or of a run without one. -/
theorem run_elim {Q : Progress → Prop} (h₀ : Q ⟨s, []⟩) (h : Q (configure R config w ⟨s, []⟩).1) :
    Q (run R config w s).1 := by
  simp only [run]
  split
  · exact h₀
  · split <;> rename_i hc <;> rwa [hc] at h

/-- The client on a server whose filters the installed closures use: success of all four requests
means that the hooks enforce the config; a failed setup, such as a list that does not compile,
leaves the detours alone. -/
theorem guarantee_run (ho : s.OwnsHooks) (config : FilterConfig) (w : Wire) :
    Guarantee R config w s (run R config w s).1 :=
  run_elim (guarantee_of_untouched (by simp) ⟨by simp, rfl⟩ (by simp)) (guarantee_configure ho)

/-- A property of the server that each request keeps. -/
theorem run_invariant {P : Session → Prop} (h₀ : P s)
    (hstep : ∀ s r, P s → P (s.handle R r).1) : P (run R config w s).1.session := by
  have hdeliver : ∀ (d : Delivery) (r : Request) {s s' : Session} {res : Except CapnpError Unit},
      P s → deliver R d r s = (s', res) → P s' := by
    intro d r s s' res hs h
    obtain rfl : (deliver R d r s).1 = s' := congrArg Prod.fst h
    cases d with
    | lost e => exact hs
    | answered => exact hstep s r hs
    | unanswered e => exact hstep s r hs
  refine run_elim (Q := fun p => P p.session) h₀ ?_
  simp only [configure]
  apply send_elim (Q := fun x => P x.1.session)
  · exact fun e s₁ h₁ => hdeliver _ _ h₀ h₁
  intro s₁ h₁
  replace h₁ := hdeliver _ _ h₀ h₁
  refine fillList_elim (Q := fun x => P x.1.session) h₁ ?_
  apply send_elim (Q := fun x => P x.1.session)
  · exact fun e s₂ h₂ => hdeliver _ _ h₁ h₂
  intro s₂ h₂
  replace h₂ := hdeliver _ _ h₁ h₂
  refine fillList_elim (Q := fun x => P x.1.session) h₂ ?_
  apply send_elim (Q := fun x => P x.1.session)
  · exact fun e s₃ h₃ => hdeliver _ _ h₂ h₃
  intro s₃ h₃
  replace h₃ := hdeliver _ _ h₂ h₃
  apply send_elim (Q := fun x => P x.1.session)
  · exact fun e s₄ h₄ => hdeliver _ _ h₃ h₄
  · exact fun s₄ h₄ => hdeliver _ _ h₃ h₄

/-- Nothing outside the server gets in the way of a run. -/
structure Wire.AllOk (w : Wire) : Prop where
  connect : w.connect = .ok ()
  peerAddr : w.peerAddr = .ok ()
  setNodelay : w.setNodelay = .ok ()
  registerLogger : w.registerLogger = .answered
  setGetAddrInfo : w.setGetAddrInfo = .answered
  setCefUrlRequestCreate : w.setCefUrlRequestCreate = .answered
  enableFiltering : w.enableFiltering = .answered
  env : ∀ (c : Capture) (h : Hooks Capture), (h.enable w.env c).2 = .ok ()

theorem send_answered (hr : (p.session.handle R r).2 = .ok ()) :
    p.send R .answered r next = next ⟨(p.session.handle R r).1, p.sent ++ [(r, .ok ())]⟩ := by
  simp only [Progress.send, deliver]
  rw [hr]

theorem fillList_of_lt {urls : List String}
    {next : List (Except CapnpError String) → Progress × Except ClientError Unit}
    (h : urls.length < UInt32.size) : fillList urls p next = next (urls.map .ok) :=
  if_pos h

/-- Lists that compile and that a message can hold are all that a run needs then. -/
theorem succeeded_run (hw : w.AllOk) (hnil : R.compile [] = .ok ())
    (hallow : R.compile config.allowlist = .ok ()) (hdeny : R.compile config.denylist = .ok ())
    (hlen : config.allowlist.length < UInt32.size) (hlen' : config.denylist.length < UInt32.size)
    (s : Session) : Succeeded (run R config w s).1 := by
  have hconnect : (do w.connect; w.peerAddr; w.setNodelay : Except String Unit) = .ok () := by
    rw [hw.connect, hw.peerAddr, hw.setNodelay]
    rfl
  have hrun : (run R config w s).1 = (configure R config w ⟨s, []⟩).1 := by
    simp only [run, hconnect]
    split <;> rename_i h <;> rw [h]
  have hlogger : ∀ s : Session, (s.handle R (registerLoggerRequest w.logger)).2 = .ok () :=
    fun _ => rfl
  have hset : ∀ s : Session, (s.handle R
      (setRulesetRequest .getAddrInfo (config.allowlist.map .ok) [])).2 = .ok () :=
    fun _ => (@setRulesetRequest_eq_ok _ _ _ _ []).mpr ⟨hallow, hnil⟩
  have hset' : ∀ s : Session, (s.handle R
      (setRulesetRequest .cefUrlRequestCreate [] (config.denylist.map .ok))).2 = .ok () :=
    fun _ => (@setRulesetRequest_eq_ok _ _ _ [] _).mpr ⟨hnil, hdeny⟩
  have henable : ∀ s : Session, (s.handle R (.enableFiltering w.env)).2 = .ok () :=
    fun s => Session.enableFiltering_eq_ok.mpr (hw.env _ _)
  rw [hrun, configure, hw.registerLogger, send_answered (hlogger _), fillList_of_lt hlen,
    hw.setGetAddrInfo, send_answered (hset _), fillList_of_lt hlen', hw.setCefUrlRequestCreate,
    send_answered (hset' _), hw.enableFiltering, send_answered (henable _)]
  exact ⟨rfl, by simp⟩

end BurntSushi.Client
