import BurntSushi.Lts
import BurntSushi.Blocker.Session

/-! `start_rpc`, `stop_rpc` and the RPC thread of the blocker module as one step relation. -/
namespace BurntSushi.Blocker

abbrev IoError := String

structure SocketAddrV4 where
  ip : UInt8 × UInt8 × UInt8 × UInt8
  port : UInt16
  deriving DecidableEq, Repr

/-- `SocketAddrV4::new(Ipv4Addr::LOCALHOST, port)`. -/
def SocketAddrV4.localhost (port : UInt16) : SocketAddrV4 := ⟨(127, 0, 0, 1), port⟩

/-- The oneshot channel that carries the address to `start_rpc`. -/
inductive EndPoint where
  | pending
  | sent (addr : SocketAddrV4)
  | dropped
  deriving DecidableEq, Repr

/-- The watch channel of the disconnect signal; `closed` once the sender is dropped unsent. -/
inductive Signal where
  | unsent
  | sent
  | closed
  deriving DecidableEq, Repr

/-- Where the RPC thread is: before `bind` returns, in the accept loop, between the return of
`run_rpc` and the drop of its `LocalSet`, and after that. `ok` is whether `run_rpc` returned
`Ok`; otherwise the thread ends in a panic. -/
inductive Phase where
  | binding
  | listening (server : ServerImpl)
  | returned (ok : Bool)
  | ended (ok : Bool)
  deriving DecidableEq, Repr

/-- The RPC thread; each connected client has its disconnect task in the `LocalSet`. -/
structure RpcThread where
  phase : Phase
  endPoint : EndPoint
  signal : Signal
  clients : List Nat
  deriving DecidableEq, Repr

def RpcThread.spawned : RpcThread := ⟨.binding, .pending, .unsent, []⟩

/-- Whether `watch::Sender::send` finds a receiver: the one of `run_rpc`, or the clone in a
disconnect task that has not been dropped. -/
def RpcThread.hasReceiver (th : RpcThread) : Bool :=
  match th.phase with
  | .binding => true
  | .listening _ => true
  | .returned _ => !th.clients.isEmpty
  | .ended _ => false

def RpcThread.closeSignal (th : RpcThread) : RpcThread :=
  match th.signal with
  | .unsent => { th with signal := .closed }
  | _ => th

/-- The content of `RPC_STATE`. Its join handle and its sender belong to the last thread that
was spawned. -/
structure RpcState where
  socketAddr : SocketAddrV4
  deriving DecidableEq, Repr

/-- The call that holds the lock of `RPC_STATE`, at its next blocking or fallible operation. -/
inductive Call where
  | idle
  | awaitEndPoint
  | disabling (state : RpcState)
  | signalling (state : RpcState)
  | joining (state : RpcState)
  deriving DecidableEq, Repr

/-- The `unwrap` that failed. -/
inductive PanicCause where
  | poisonedLock
  | endPoint
  | disable
  | disconnectSignal
  | join
  deriving DecidableEq, Repr

/-- How a call came back to its caller; `stopped true` after taking a running state. -/
inductive Outcome where
  | started (addr : SocketAddrV4)
  | stopped (took : Bool)
  | panicked (cause : PanicCause)
  deriving DecidableEq, Repr

/-- The loaded module. `outcome` is set by the step in which a call comes back. -/
structure Rpc where
  state : Option RpcState
  poisoned : Bool
  call : Call
  thread : Option RpcThread
  dll : Dll
  outcome : Option Outcome

inductive Label where
  | startRpc
  | stopRpc
  | advance (env : HookEnv)
  | bind (listener : Except IoError Unit) (localAddr : Except IoError UInt16)
  | accept (client : Nat) (stream nodelay : Except IoError Unit)
  | request (client : Nat) (r : Request)
  | log (l : SessionLabel)
  | disconnectTask (client : Nat) (env : HookEnv)
  | seeSignal
  | exit

namespace Rpc

def loaded (store : Store) (channels : Channels) : Rpc :=
  ⟨none, false, .idle, none, .loaded store channels, none⟩

/-- The call in progress comes back. -/
def ret (s : Rpc) (outcome : Outcome) : Rpc := { s with call := .idle, outcome := some outcome }

/-- The call in progress unwinds: the lock is poisoned and what it owned is dropped. -/
def unwind (s : Rpc) (cause : PanicCause) : Rpc :=
  { s.ret (.panicked cause) with
    poisoned := true, thread := s.thread.map RpcThread.closeSignal }

/-- `start_rpc` up to `blocking_recv`. -/
def startRpc (s : Rpc) : Option Rpc :=
  match s.call with
  | .idle =>
    if s.poisoned then some (s.ret (.panicked .poisonedLock))
    else match s.state with
      | some state => some (s.ret (.started state.socketAddr))
      | none =>
        some { s with call := .awaitEndPoint, thread := some .spawned, outcome := none }
  | _ => none

/-- `stop_rpc` up to `hooks::disable`. -/
def stopRpc (s : Rpc) : Option Rpc :=
  match s.call with
  | .idle =>
    if s.poisoned then some (s.ret (.panicked .poisonedLock))
    else match s.state with
      | some state => some { s with state := none, call := .disabling state, outcome := none }
      | none => some (s.ret (.stopped false))
  | _ => none

/-- The next operation of the call in progress; `none` while it blocks. -/
def advance (s : Rpc) (env : HookEnv) : Option Rpc :=
  match s.call, s.thread with
  | .awaitEndPoint, some th =>
    match th.endPoint with
    | .pending => none
    | .sent addr => some { s.ret (.started addr) with state := some ⟨addr⟩ }
    | .dropped => some (s.unwind .endPoint)
  | .disabling state, _ =>
    match s.dll.hooks.disable env with
    | (hooks, .ok ()) =>
      some { s with dll.hooks := hooks, call := .signalling state, outcome := none }
    | (hooks, .error _) => some ({ s with dll.hooks := hooks }.unwind .disable)
  | .signalling state, some th =>
    if th.hasReceiver then
      some { s with thread := some { th with signal := .sent }, call := .joining state,
                    outcome := none }
    else some (s.unwind .disconnectSignal)
  | .joining _, some th =>
    match th.phase with
    | .ended true => some (s.ret (.stopped true))
    | .ended false => some (s.unwind .join)
    | _ => none
  | _, _ => none

/-- The thread takes a step that changes nothing but itself. -/
def setThread (s : Rpc) (th : RpcThread) : Rpc := { s with thread := some th, outcome := none }

/-- `run_rpc` up to its loop. -/
def bind (s : Rpc) (listener : Except IoError Unit) (localAddr : Except IoError UInt16) :
    Option Rpc :=
  match s.thread with
  | some th =>
    match th.phase with
    | .binding =>
      match (do listener; localAddr : Except IoError UInt16) with
      | .error _ => some (s.setThread { th with phase := .returned false, endPoint := .dropped })
      | .ok port =>
        some { s.setThread { th with
                phase := .listening (ServerImpl.new s.dll).1
                endPoint := .sent (.localhost port) } with
               dll := (ServerImpl.new s.dll).2 }
    | _ => none
  | none => none

/-- The `listener.accept()` branch. -/
def accept (s : Rpc) (client : Nat) (stream nodelay : Except IoError Unit) : Option Rpc :=
  match s.thread with
  | some th =>
    match th.phase with
    | .listening _ =>
      match (do stream; nodelay : Except IoError Unit) with
      | .error _ => some (s.setThread { th with phase := .returned false })
      | .ok () =>
        if client ∈ th.clients then none
        else some (s.setThread { th with clients := client :: th.clients })
    | _ => none
  | none => none

/-- The session of the listening thread. -/
def session (s : Rpc) : Option Session :=
  match s.thread with
  | some th =>
    match th.phase with
    | .listening server => some ⟨server, s.dll⟩
    | _ => none
  | none => none

/-- What the listening thread's session becomes. -/
def setSession (s : Rpc) (session : Session) : Rpc :=
  { s with
    thread := s.thread.map fun th => { th with phase := .listening session.server }
    dll := session.dll, outcome := none }

def clients (s : Rpc) : List Nat := (s.thread.map RpcThread.clients).getD []

def request (R : Regex) (s : Rpc) (client : Nat) (r : Request) : Option Rpc :=
  if client ∈ s.clients then s.session.map fun session => s.setSession (session.handle R r).1
  else none

/-- Events of the hooks and their forwarding by the channel task. -/
def log (R : Regex) (s : Rpc) (l : SessionLabel) : Option Rpc :=
  match l with
  | .request _ => none
  | l => s.session.bind fun session => (session.step R l).map s.setSession

/-- The task of a connection wakes up, disables the hooks and closes the connection. -/
def disconnectTask (s : Rpc) (client : Nat) (env : HookEnv) : Option Rpc :=
  match s.thread with
  | some th =>
    match th.phase, th.signal with
    | .listening _, .sent =>
      if client ∈ th.clients then
        some { s.setThread { th with clients := th.clients.erase client } with
               dll.hooks := (s.dll.hooks.disable env).1 }
      else none
    | _, _ => none
  | none => none

/-- The `disconnect_signal.changed()` branch. -/
def seeSignal (s : Rpc) : Option Rpc :=
  match s.thread with
  | some th =>
    match th.phase, th.signal with
    | .listening _, .sent => some (s.setThread { th with phase := .returned true })
    | .listening _, .closed => some (s.setThread { th with phase := .returned true })
    | _, _ => none
  | none => none

/-- The `LocalSet` is dropped with the tasks in it, and the thread ends. -/
def exit (s : Rpc) : Option Rpc :=
  match s.thread with
  | some th =>
    match th.phase with
    | .returned ok => some (s.setThread { th with phase := .ended ok, clients := [] })
    | _ => none
  | none => none

def step (R : Regex) (s : Rpc) : Label → Option Rpc
  | .startRpc => s.startRpc
  | .stopRpc => s.stopRpc
  | .advance env => s.advance env
  | .bind listener localAddr => s.bind listener localAddr
  | .accept client stream nodelay => s.accept client stream nodelay
  | .request client r => s.request R client r
  | .log l => s.log R l
  | .disconnectTask client env => s.disconnectTask client env
  | .seeSignal => s.seeSignal
  | .exit => s.exit

/-- The cases of `step`, one for each way through the code. -/
inductive Step (R : Regex) (s : Rpc) : Label → Rpc → Prop
  | startPoisoned (hc : s.call = .idle) (hp : s.poisoned = true) :
      Step R s .startRpc (s.ret (.panicked .poisonedLock))
  | startRunning {state : RpcState} (hc : s.call = .idle) (hp : s.poisoned = false)
      (hs : s.state = some state) : Step R s .startRpc (s.ret (.started state.socketAddr))
  | spawn (hc : s.call = .idle) (hp : s.poisoned = false) (hs : s.state = none) :
      Step R s .startRpc
        { s with call := .awaitEndPoint, thread := some .spawned, outcome := none }
  | stopPoisoned (hc : s.call = .idle) (hp : s.poisoned = true) :
      Step R s .stopRpc (s.ret (.panicked .poisonedLock))
  | take {state : RpcState} (hc : s.call = .idle) (hp : s.poisoned = false)
      (hs : s.state = some state) :
      Step R s .stopRpc { s with state := none, call := .disabling state, outcome := none }
  | stopNone (hc : s.call = .idle) (hp : s.poisoned = false) (hs : s.state = none) :
      Step R s .stopRpc (s.ret (.stopped false))
  | started {th : RpcThread} {addr : SocketAddrV4} {env : HookEnv} (hc : s.call = .awaitEndPoint)
      (ht : s.thread = some th) (he : th.endPoint = .sent addr) :
      Step R s (.advance env) { s.ret (.started addr) with state := some ⟨addr⟩ }
  | endPointDropped {th : RpcThread} {env : HookEnv} (hc : s.call = .awaitEndPoint)
      (ht : s.thread = some th) (he : th.endPoint = .dropped) :
      Step R s (.advance env) (s.unwind .endPoint)
  | disabled {state : RpcState} {env : HookEnv} (hc : s.call = .disabling state)
      (hd : (s.dll.hooks.disable env).2 = .ok ()) :
      Step R s (.advance env)
        { s with dll.hooks := (s.dll.hooks.disable env).1, call := .signalling state,
                 outcome := none }
  | disableFailed {state : RpcState} {env : HookEnv} {e : HookError}
      (hc : s.call = .disabling state) (hd : (s.dll.hooks.disable env).2 = .error e) :
      Step R s (.advance env)
        ({ s with dll.hooks := (s.dll.hooks.disable env).1 }.unwind .disable)
  | signalled {state : RpcState} {th : RpcThread} {env : HookEnv}
      (hc : s.call = .signalling state) (ht : s.thread = some th) (hr : th.hasReceiver = true) :
      Step R s (.advance env)
        { s with thread := some { th with signal := .sent }, call := .joining state,
                 outcome := none }
  | signalFailed {state : RpcState} {th : RpcThread} {env : HookEnv}
      (hc : s.call = .signalling state) (ht : s.thread = some th) (hr : th.hasReceiver = false) :
      Step R s (.advance env) (s.unwind .disconnectSignal)
  | joined {state : RpcState} {th : RpcThread} {env : HookEnv} (hc : s.call = .joining state)
      (ht : s.thread = some th) (he : th.phase = .ended true) :
      Step R s (.advance env) (s.ret (.stopped true))
  | joinFailed {state : RpcState} {th : RpcThread} {env : HookEnv} (hc : s.call = .joining state)
      (ht : s.thread = some th) (he : th.phase = .ended false) :
      Step R s (.advance env) (s.unwind .join)
  | bindFailed {th : RpcThread} {listener : Except IoError Unit}
      {localAddr : Except IoError UInt16} {e : IoError} (ht : s.thread = some th)
      (hp : th.phase = .binding)
      (hb : (do listener; localAddr : Except IoError UInt16) = .error e) :
      Step R s (.bind listener localAddr)
        (s.setThread { th with phase := .returned false, endPoint := .dropped })
  | bound {th : RpcThread} {port : UInt16} (ht : s.thread = some th) (hp : th.phase = .binding) :
      Step R s (.bind (.ok ()) (.ok port))
        { s.setThread { th with
            phase := .listening (ServerImpl.new s.dll).1
            endPoint := .sent (.localhost port) } with
          dll := (ServerImpl.new s.dll).2 }
  | acceptFailed {th : RpcThread} {server : ServerImpl} {client : Nat}
      {stream nodelay : Except IoError Unit} {e : IoError} (ht : s.thread = some th)
      (hp : th.phase = .listening server)
      (ha : (do stream; nodelay : Except IoError Unit) = .error e) :
      Step R s (.accept client stream nodelay) (s.setThread { th with phase := .returned false })
  | accepted {th : RpcThread} {server : ServerImpl} {client : Nat} (ht : s.thread = some th)
      (hp : th.phase = .listening server) (hn : client ∉ th.clients) :
      Step R s (.accept client (.ok ()) (.ok ()))
        (s.setThread { th with clients := client :: th.clients })
  | request {th : RpcThread} {server : ServerImpl} {client : Nat} {r : Request}
      (ht : s.thread = some th) (hp : th.phase = .listening server) (hm : client ∈ th.clients) :
      Step R s (.request client r) (s.setSession (Session.handle R ⟨server, s.dll⟩ r).1)
  | log {th : RpcThread} {server : ServerImpl} {l : SessionLabel} {u : Session}
      (ht : s.thread = some th) (hp : th.phase = .listening server) (hl : ∀ r, l ≠ .request r)
      (hu : Session.step R ⟨server, s.dll⟩ l = some u) : Step R s (.log l) (s.setSession u)
  | disconnectTask {th : RpcThread} {server : ServerImpl} {client : Nat} {env : HookEnv}
      (ht : s.thread = some th) (hp : th.phase = .listening server) (hg : th.signal = .sent)
      (hm : client ∈ th.clients) :
      Step R s (.disconnectTask client env)
        { s.setThread { th with clients := th.clients.erase client } with
          dll.hooks := (s.dll.hooks.disable env).1 }
  | seeSignal {th : RpcThread} {server : ServerImpl} (ht : s.thread = some th)
      (hp : th.phase = .listening server) (hg : th.signal ≠ .unsent) :
      Step R s .seeSignal (s.setThread { th with phase := .returned true })
  | exit {th : RpcThread} {ok : Bool} (ht : s.thread = some th) (hp : th.phase = .returned ok) :
      Step R s .exit (s.setThread { th with phase := .ended ok, clients := [] })

variable {R : Regex} {s t : Rpc} {l : Label}

theorem session_eq_some {u : Session} (h : s.session = some u) :
    ∃ th server, s.thread = some th ∧ th.phase = .listening server ∧ u = ⟨server, s.dll⟩ := by
  simp only [Rpc.session] at h
  split at h
  · split at h
    · exact ⟨_, _, by assumption, by assumption, (Option.some.inj h).symm⟩
    · simp at h
  · simp at h

theorem session_dll {u : Session} (h : s.session = some u) : u.dll = s.dll := by
  obtain ⟨th, server, -, -, rfl⟩ := session_eq_some h
  rfl

theorem startRpc_cases (h : s.startRpc = some t) : Step R s .startRpc t := by
  simp only [startRpc] at h
  split at h
  · rename_i hc
    split at h
    · rename_i hp
      obtain rfl := Option.some.inj h
      exact .startPoisoned hc hp
    · rename_i hp
      have hp := Bool.eq_false_iff.mpr hp
      split at h
      · rename_i hs
        obtain rfl := Option.some.inj h
        exact .startRunning hc hp hs
      · rename_i hs
        obtain rfl := Option.some.inj h
        exact .spawn hc hp hs
  · simp at h

theorem stopRpc_cases (h : s.stopRpc = some t) : Step R s .stopRpc t := by
  simp only [stopRpc] at h
  split at h
  · rename_i hc
    split at h
    · rename_i hp
      obtain rfl := Option.some.inj h
      exact .stopPoisoned hc hp
    · rename_i hp
      have hp := Bool.eq_false_iff.mpr hp
      split at h
      · rename_i hs
        obtain rfl := Option.some.inj h
        exact .take hc hp hs
      · rename_i hs
        obtain rfl := Option.some.inj h
        exact .stopNone hc hp hs
  · simp at h

theorem advance_cases {env : HookEnv} (h : s.advance env = some t) :
    Step R s (.advance env) t := by
  simp only [advance] at h
  split at h
  · rename_i th hc ht
    split at h
    · simp at h
    · rename_i he
      obtain rfl := Option.some.inj h
      exact .started hc ht he
    · rename_i he
      obtain rfl := Option.some.inj h
      exact .endPointDropped hc ht he
  · rename_i state _ hc
    split at h
    · rename_i hooks hd
      obtain rfl := Option.some.inj h
      obtain rfl : (s.dll.hooks.disable env).1 = hooks := by rw [hd]
      exact .disabled hc (by rw [hd])
    · rename_i hooks e hd
      obtain rfl := Option.some.inj h
      obtain rfl : (s.dll.hooks.disable env).1 = hooks := by rw [hd]
      exact .disableFailed (e := e) hc (by rw [hd])
  · rename_i state th hc ht
    split at h
    · rename_i hr
      obtain rfl := Option.some.inj h
      exact .signalled hc ht hr
    · rename_i hr
      obtain rfl := Option.some.inj h
      exact .signalFailed hc ht (Bool.eq_false_iff.mpr hr)
  · rename_i state th hc ht
    split at h
    · rename_i he
      obtain rfl := Option.some.inj h
      exact .joined hc ht he
    · rename_i he
      obtain rfl := Option.some.inj h
      exact .joinFailed hc ht he
    · simp at h
  · simp at h

theorem bind_cases {listener : Except IoError Unit} {localAddr : Except IoError UInt16}
    (h : s.bind listener localAddr = some t) : Step R s (.bind listener localAddr) t := by
  simp only [Rpc.bind] at h
  split at h
  · rename_i th ht
    split at h
    · rename_i hp
      split at h
      · rename_i hb
        obtain rfl := Option.some.inj h
        exact .bindFailed ht hp hb
      · rename_i port hb
        obtain rfl := Option.some.inj h
        obtain ⟨_, rfl, rfl⟩ := Except.bind_eq_ok.mp hb
        exact .bound ht hp
    · simp at h
  · simp at h

theorem accept_cases {client : Nat} {stream nodelay : Except IoError Unit}
    (h : s.accept client stream nodelay = some t) :
    Step R s (.accept client stream nodelay) t := by
  simp only [accept] at h
  split at h
  · rename_i th ht
    split at h
    · rename_i server hp
      split at h
      · rename_i ha
        obtain rfl := Option.some.inj h
        exact .acceptFailed ht hp ha
      · rename_i ha
        obtain ⟨_, rfl, rfl⟩ := Except.bind_eq_ok.mp ha
        split at h
        · simp at h
        · rename_i hn
          obtain rfl := Option.some.inj h
          exact .accepted ht hp hn
    · simp at h
  · simp at h

theorem request_cases {client : Nat} {r : Request} (h : s.request R client r = some t) :
    Step R s (.request client r) t := by
  simp only [Rpc.request] at h
  split at h
  · rename_i hm
    obtain ⟨u, hu, rfl⟩ := Option.map_eq_some_iff.mp h
    obtain ⟨th, server, ht, hp, rfl⟩ := session_eq_some hu
    exact .request ht hp (by simpa [clients, ht] using hm)
  · simp at h

theorem log_cases {l : SessionLabel} (h : s.log R l = some t) : Step R s (.log l) t := by
  simp only [Rpc.log] at h
  split at h
  · simp at h
  · rename_i hl
    obtain ⟨u, hu, h⟩ := Option.bind_eq_some_iff.mp h
    obtain ⟨u', hu', rfl⟩ := Option.map_eq_some_iff.mp h
    obtain ⟨th, server, ht, hp, rfl⟩ := session_eq_some hu
    exact .log ht hp (fun r he => hl r he) hu'

theorem disconnectTask_cases {client : Nat} {env : HookEnv}
    (h : s.disconnectTask client env = some t) : Step R s (.disconnectTask client env) t := by
  simp only [Rpc.disconnectTask] at h
  split at h
  · rename_i th ht
    split at h
    · rename_i server hp hg
      split at h
      · rename_i hm
        obtain rfl := Option.some.inj h
        exact .disconnectTask ht hp hg hm
      · simp at h
    · simp at h
  · simp at h

theorem seeSignal_cases (h : s.seeSignal = some t) : Step R s .seeSignal t := by
  simp only [Rpc.seeSignal] at h
  split at h
  · rename_i th ht
    split at h
    · rename_i server hp hg
      obtain rfl := Option.some.inj h
      exact .seeSignal ht hp (by simp [hg])
    · rename_i server hp hg
      obtain rfl := Option.some.inj h
      exact .seeSignal ht hp (by simp [hg])
    · simp at h
  · simp at h

theorem exit_cases (h : s.exit = some t) : Step R s .exit t := by
  simp only [Rpc.exit] at h
  split at h
  · rename_i th ht
    split at h
    · rename_i hp
      obtain rfl := Option.some.inj h
      exact .exit ht hp
    · simp at h
  · simp at h

theorem step_cases (h : step R s l = some t) : Step R s l t := by
  cases l with
  | startRpc => exact startRpc_cases h
  | stopRpc => exact stopRpc_cases h
  | advance env => exact advance_cases h
  | bind listener localAddr => exact bind_cases h
  | accept client stream nodelay => exact accept_cases h
  | request client r => exact request_cases h
  | log l => exact log_cases h
  | disconnectTask client env => exact disconnectTask_cases h
  | seeSignal => exact seeSignal_cases h
  | exit => exact exit_cases h

end Rpc

end BurntSushi.Blocker
