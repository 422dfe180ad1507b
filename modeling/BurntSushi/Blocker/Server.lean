import BurntSushi.Blocker.Hooks
import BurntSushi.Blocker.Logger

/-! `ServerImpl`: the requests of the blocker service on the state of the loaded module. -/
namespace BurntSushi.Blocker

abbrev CapnpError := String

/-- `capnp::Error::failed`. -/
def failed (reason : String) : CapnpError := reason

theorem new_mapError_eq_ok {R : Regex} {patterns : List String} {set : RegexSet} :
    (RegexSet.new R patterns).mapError failed = .ok set ↔
      R.compile patterns = .ok () ∧ set = ⟨patterns⟩ := by
  simp only [RegexSet.new]
  cases hc : R.compile patterns with
  | error e => simp [Except.map, Except.mapError]
  | ok u => simp [Except.map, Except.mapError, eq_comm]

/-- What a hook closure captures: the filters to check with and the sender to log to. -/
structure Capture where
  filters : Filters
  logTx : Nat
  deriving DecidableEq, Repr

/-- The state of the loaded module that outlives a server object. -/
structure Dll where
  store : Store
  channels : Channels
  hooks : Hooks Capture

structure ServerImpl where
  logger : LoggerManager
  filters : Filters
  deriving DecidableEq, Repr

def ServerImpl.new (dll : Dll) : ServerImpl × Dll :=
  let (filters, store) := Filters.empty dll.store
  (⟨.new, filters⟩, { dll with store })

/-- The reads of `params` in `register_logger`, in their order. -/
structure RegisterLoggerParams where
  get : Except CapnpError Unit
  getLogger : Except CapnpError Logger

def RegisterLoggerParams.read (params : RegisterLoggerParams) : Except CapnpError Logger := do
  params.get
  params.getLogger

/-- The reads of `params` in `set_ruleset`. A pattern is the text that `from_utf8_lossy` makes
of the bytes sent. -/
structure SetRulesetParams where
  get : Except CapnpError Unit
  getHook : Except CapnpError FilterHook
  getRuleset : Except CapnpError Unit
  getWhitelist : Except CapnpError (List (Except CapnpError String))
  getBlacklist : Except CapnpError (List (Except CapnpError String))

inductive Request where
  | registerLogger (params : RegisterLoggerParams)
  | setRuleset (params : SetRulesetParams)
  | enableFiltering (env : HookEnv)
  | disableFiltering (env : HookEnv)

/-- A server object and the module it runs in. -/
structure Session where
  server : ServerImpl
  dll : Dll

namespace Session

variable (R : Regex) (s : Session)

def registerLogger (params : RegisterLoggerParams) : Session × Except CapnpError Unit :=
  match params.read with
  | .error e => (s, .error e)
  | .ok logger =>
    ({ s with server.logger := s.server.logger.addLogger logger }, .ok ())

/-- The closure of `set_ruleset` up to the store: the hook and its compiled ruleset. -/
def readRuleset (params : SetRulesetParams) : Except CapnpError (FilterHook × FilterRuleset) := do
  params.get
  let hook ← params.getHook
  params.get
  params.getRuleset
  let whitelist ← params.getWhitelist
  let blacklist ← params.getBlacklist
  let whitelist ← whitelist.mapM id
  let whitelist ← (RegexSet.new R whitelist).mapError failed
  let blacklist ← blacklist.mapM id
  let blacklist ← (RegexSet.new R blacklist).mapError failed
  pure (hook, { whitelist, blacklist })

def setRuleset (params : SetRulesetParams) : Session × Except CapnpError Unit :=
  match readRuleset R params with
  | .error e => (s, .error e)
  | .ok (hook, ruleset) =>
    ({ s with dll.store := s.server.filters.replaceRuleset s.dll.store hook ruleset }, .ok ())

def enableFiltering (env : HookEnv) : Session × Except CapnpError Unit :=
  let (logTx, logger, channels) := s.server.logger.logSender s.dll.channels
  let (hooks, res) := s.dll.hooks.enable env ⟨s.server.filters, logTx⟩
  ({ server := { s.server with logger }, dll := { s.dll with channels, hooks } },
    res.mapError failed)

def disableFiltering (env : HookEnv) : Session × Except CapnpError Unit :=
  let (hooks, res) := s.dll.hooks.disable env
  ({ s with dll.hooks := hooks }, res.mapError failed)

def handle : Request → Session × Except CapnpError Unit
  | .registerLogger params => s.registerLogger params
  | .setRuleset params => s.setRuleset R params
  | .enableFiltering env => s.enableFiltering env
  | .disableFiltering env => s.disableFiltering env

variable {R s}

@[simp] theorem dll_registerLogger (p : RegisterLoggerParams) :
    (s.registerLogger p).1.dll = s.dll := by
  simp only [registerLogger]
  split <;> rfl

@[simp] theorem filters_registerLogger (p : RegisterLoggerParams) :
    (s.registerLogger p).1.server.filters = s.server.filters := by
  simp only [registerLogger]
  split <;> rfl

@[simp] theorem logTx_registerLogger (p : RegisterLoggerParams) :
    (s.registerLogger p).1.server.logger.logTx = s.server.logger.logTx := by
  simp only [registerLogger]
  split <;> rfl

@[simp] theorem server_setRuleset (p : SetRulesetParams) :
    (s.setRuleset R p).1.server = s.server := by
  simp only [setRuleset]
  split <;> rfl

@[simp] theorem channels_setRuleset (p : SetRulesetParams) :
    (s.setRuleset R p).1.dll.channels = s.dll.channels := by
  simp only [setRuleset]
  split <;> rfl

@[simp] theorem hooks_setRuleset (p : SetRulesetParams) :
    (s.setRuleset R p).1.dll.hooks = s.dll.hooks := by
  simp only [setRuleset]
  split <;> rfl

/-- A ruleset is stored for its own hook as a whole, or nothing is stored. -/
theorem load_setRuleset (p : SetRulesetParams) (k : FilterHook) :
    s.server.filters.load (s.setRuleset R p).1.dll.store k =
      match readRuleset R p with
      | .ok (hook, ruleset) => if hook = k then ruleset else s.server.filters.load s.dll.store k
      | .error _ => s.server.filters.load s.dll.store k := by
  simp only [setRuleset]
  split <;> simp_all [Filters.load_replaceRuleset]

theorem setRuleset_eq_ok {p : SetRulesetParams} (h : (s.setRuleset R p).2 = .ok ()) :
    ∃ x, readRuleset R p = .ok x := by
  simp only [setRuleset] at h
  split at h
  · simp at h
  · exact ⟨_, by assumption⟩

@[simp] theorem filters_enableFiltering (env : HookEnv) :
    (s.enableFiltering env).1.server.filters = s.server.filters := rfl

@[simp] theorem store_enableFiltering (env : HookEnv) :
    (s.enableFiltering env).1.dll.store = s.dll.store := rfl

theorem logger_enableFiltering (env : HookEnv) :
    (s.enableFiltering env).1.server.logger =
      (s.server.logger.logSender s.dll.channels).2.1 := rfl

theorem channels_enableFiltering (env : HookEnv) :
    (s.enableFiltering env).1.dll.channels =
      (s.server.logger.logSender s.dll.channels).2.2 := rfl

/-- What the closures capture when this server enables the hooks now. -/
def capture (s : Session) : Capture :=
  ⟨s.server.filters, (s.server.logger.logSender s.dll.channels).1⟩

theorem hooks_enableFiltering (env : HookEnv) :
    (s.enableFiltering env).1.dll.hooks = (s.dll.hooks.enable env s.capture).1 := rfl

theorem enableFiltering_eq_ok {env : HookEnv} :
    (s.enableFiltering env).2 = .ok () ↔ (s.dll.hooks.enable env s.capture).2 = .ok () := by
  change ((s.dll.hooks.enable env s.capture).2).mapError failed = .ok () ↔ _
  cases (s.dll.hooks.enable env s.capture).2 <;> simp [Except.mapError]

@[simp] theorem server_disableFiltering (env : HookEnv) :
    (s.disableFiltering env).1.server = s.server := rfl

@[simp] theorem channels_disableFiltering (env : HookEnv) :
    (s.disableFiltering env).1.dll.channels = s.dll.channels := rfl

theorem hooks_disableFiltering (env : HookEnv) :
    (s.disableFiltering env).1.dll.hooks = (s.dll.hooks.disable env).1 := rfl

@[simp] theorem filters_handle (r : Request) :
    (s.handle R r).1.server.filters = s.server.filters := by
  cases r <;> simp [handle]

end Session

end BurntSushi.Blocker
