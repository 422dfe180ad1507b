import BurntSushi.Blocker.Closures

/-! `LoggerManager`: the registered loggers and the channel whose task forwards events. -/
namespace BurntSushi.Blocker

/-- A logger capability of a client. -/
abbrev Logger := Nat

/-- One `logRequest` or `logMessage` call that is sent to a logger. -/
structure LogCall where
  logger : Logger
  params : LogParams
  deriving DecidableEq, Repr

/-- `loggers` is the content of the `RefCell`, `logTx` that of the `OnceCell`; a sender is named
by its channel. -/
structure LoggerManager where
  loggers : List Logger
  logTx : Option Nat
  deriving DecidableEq, Repr

/-- A log channel: the manager its task has captured and the events it has not taken. -/
structure LogChannel where
  this : LoggerManager
  queue : List LogParams

/-- The channels of the module; `fresh` is the next one to be created. -/
structure Channels where
  channel : Nat → LogChannel
  fresh : Nat

def LoggerManager.new : LoggerManager := ⟨[], none⟩

namespace Channels

def empty : Channels := ⟨fun _ => ⟨.new, []⟩, 0⟩

/-- `UnboundedSender::send`. -/
def send (cs : Channels) (tx : Nat) (params : LogParams) : Channels :=
  { cs with
    channel := Function.update cs.channel tx
      { cs.channel tx with queue := (cs.channel tx).queue ++ [params] } }

/-- `rx.recv()` on a non-empty queue. -/
def recv (cs : Channels) (tx : Nat) : Option (LogParams × Channels) :=
  match (cs.channel tx).queue with
  | [] => none
  | params :: queue =>
    some (params, { cs with
      channel := Function.update cs.channel tx { cs.channel tx with queue } })

@[simp] theorem this_send (cs : Channels) (tx k : Nat) (params : LogParams) :
    ((cs.send tx params).channel k).this = (cs.channel k).this := by
  by_cases hk : k = tx
  · subst hk
    simp [send]
  · simp [send, hk]

theorem recv_eq_some {cs cs' : Channels} {tx : Nat} {params : LogParams}
    (h : cs.recv tx = some (params, cs')) :
    (cs.channel tx).queue = params :: (cs'.channel tx).queue ∧
      ∀ k, (cs'.channel k).this = (cs.channel k).this := by
  simp only [recv] at h
  split at h
  · simp at h
  · simp only [Option.some.injEq, Prod.mk.injEq] at h
    obtain ⟨rfl, rfl⟩ := h
    refine ⟨by simpa, ?_⟩
    intro k
    by_cases hk : k = tx
    · subst hk
      simp
    · simp [hk]

theorem fresh_recv {cs cs' : Channels} {tx : Nat} {params : LogParams}
    (h : cs.recv tx = some (params, cs')) : cs'.fresh = cs.fresh := by
  simp only [recv] at h
  split at h
  · simp at h
  · simp only [Option.some.injEq, Prod.mk.injEq] at h
    obtain ⟨rfl, rfl⟩ := h
    rfl

end Channels

namespace LoggerManager

def addLogger (m : LoggerManager) (logger : Logger) : LoggerManager :=
  { m with loggers := m.loggers ++ [logger] }

/-- `join_all` sends one call to each logger, whatever becomes of the others. -/
def logRequest (m : LoggerManager) (hook : FilterHook) (blocked : Bool) (url : String) :
    List LogCall :=
  m.loggers.map fun logger => ⟨logger, .request url blocked hook⟩

def logMessage (m : LoggerManager) (message : String) : List LogCall :=
  m.loggers.map fun logger => ⟨logger, .message message⟩

/-- The body of the channel task's loop. -/
def forward (m : LoggerManager) : LogParams → List LogCall
  | .request url blocked hook => m.logRequest hook blocked url
  | .message message => m.logMessage message

/-- `self.clone()` copies the vector inside the `RefCell`, so the task does not see later
registrations. -/
def spawnLogChannel (m : LoggerManager) (cs : Channels) : Nat × Channels :=
  (cs.fresh, ⟨Function.update cs.channel cs.fresh ⟨m, []⟩, cs.fresh + 1⟩)

/-- `self.log_tx.get_or_init(|| self.spawn_log_channel()).clone()`. -/
def logSender (m : LoggerManager) (cs : Channels) : Nat × LoggerManager × Channels :=
  match m.logTx with
  | some tx => (tx, m, cs)
  | none =>
    let (tx, cs) := m.spawnLogChannel cs
    (tx, { m with logTx := some tx }, cs)

theorem forward_eq_map (m : LoggerManager) (params : LogParams) :
    m.forward params = m.loggers.map (⟨·, params⟩) := by
  cases params <;> rfl

@[simp] theorem logTx_logSender (m : LoggerManager) (cs : Channels) :
    (m.logSender cs).2.1.logTx = some (m.logSender cs).1 := by
  simp only [logSender]
  split
  · assumption
  · rfl

theorem logSender_of_some {m : LoggerManager} {tx : Nat} (h : m.logTx = some tx)
    (cs : Channels) : m.logSender cs = (tx, m, cs) := by
  simp [logSender, h]

theorem logSender_of_none {m : LoggerManager} (h : m.logTx = none) (cs : Channels) :
    m.logSender cs = (cs.fresh, { m with logTx := some cs.fresh },
      ⟨Function.update cs.channel cs.fresh ⟨m, []⟩, cs.fresh + 1⟩) := by
  simp [logSender, spawnLogChannel, h]

theorem fresh_le_logSender (m : LoggerManager) (cs : Channels) :
    cs.fresh ≤ (m.logSender cs).2.2.fresh := by
  cases h : m.logTx with
  | none => simp [logSender_of_none h]
  | some tx => simp [logSender_of_some h]

/-- The sender is the one the manager has, or that of a new channel. -/
theorem logSender_fst (m : LoggerManager) (cs : Channels) :
    m.logTx = some (m.logSender cs).1 ∨ m.logTx = none ∧ (m.logSender cs).1 = cs.fresh := by
  cases h : m.logTx with
  | none => exact .inr ⟨rfl, by rw [logSender_of_none h]⟩
  | some tx => exact .inl (by rw [logSender_of_some h])

end LoggerManager

end BurntSushi.Blocker
