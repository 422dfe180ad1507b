import BurntSushi.Client
import BurntSushi.Fs
import BurntSushi.Text
import BurntSushi.Blocker.Rpc
import BurntSushi.Scanner.Windows

/-! `hook_spotify` and `unhook_spotify`, call by call, on the processes they inject into. -/
namespace BurntSushi.AdBlocker

open Blocker (SocketAddrV4)
open Client (FilterConfig)
open Scanner (OwnedProcess)

/-- A process: whether it lives, and the full path of each load of a module that has not been
undone. A module leaves with its last load. -/
structure TargetProcess where
  alive : Bool
  modules : List Path
  deriving DecidableEq, Repr

abbrev Processes := OwnedProcess → TargetProcess

namespace TargetProcess

/-- Module names are compared without regard to ASCII case. -/
def findModuleByName (p : TargetProcess) (name : String) : Option Path :=
  p.modules.find? fun m => asciiLowercase m.fileName.toList = asciiLowercase name.toList

def inject (p : TargetProcess) (path : Path) : TargetProcess :=
  { p with modules := p.modules ++ [path] }

def eject (p : TargetProcess) (payload : Path) : TargetProcess :=
  { p with modules := p.modules.erase payload }

end TargetProcess

namespace Processes

def inject (ps : Processes) (p : OwnedProcess) (path : Path) : Processes :=
  Function.update ps p ((ps p).inject path)

def eject (ps : Processes) (p : OwnedProcess) (payload : Path) : Processes :=
  Function.update ps p ((ps p).eject payload)

def Loaded (ps : Processes) (p : OwnedProcess) (path : Path) : Prop :=
  (ps p).alive = true ∧ path ∈ (ps p).modules

end Processes

def defaultBlockerFileName : String := "BurntSushiBlocker_x64.dll"

inductive SyringeError where
  | processInaccessible
  | moduleInaccessible
  | other (e : String)
  deriving DecidableEq, Repr

/-- An `anyhow` error: the context and, where it wraps one, the error below it. -/
structure AppError where
  context : String
  source : Option String
  deriving DecidableEq, Repr

/-- The task that runs `rpc::run`. -/
structure RpcTask where
  socketAddr : SocketAddrV4
  filterConfig : FilterConfig
  deriving DecidableEq, Repr

/-- `syringe` holds the process. -/
structure HookState where
  syringe : OwnedProcess
  payload : Path
  rpcTask : RpcTask
  deriving DecidableEq, Repr

inductive SpotifyHookState where
  | hooked (state : HookState)
  | unhooked
  deriving DecidableEq, Repr

/-- What a call returns. A module lookup that succeeds finds what is loaded. -/
inductive Call where
  | findModuleByName (res : Except SyringeError Unit)
  | getPayloadProcedure (res : Except SyringeError Bool)
  | stopRpc (res : Except SyringeError Unit)
  | eject (res : Except SyringeError Unit)
  | resolveFilterConfig (res : Except String FilterConfig)
  | resolveBlocker (res : Except String Path)
  | inject (res : Except SyringeError Unit)
  | startRpc (res : Except SyringeError SocketAddrV4)
  | tryToOwned (res : Except String Unit)
  | join (res : Except String Unit)

/-- The call that `hook_spotify` makes next. -/
inductive HookPc where
  | findPrevious
  | lookupStop (prevPayload : Path)
  | callStop (prevPayload : Path)
  | ejectPrevious (prevPayload : Path)
  | resolveFilterConfig
  | resolveBlocker (filterConfig : FilterConfig)
  | inject (filterConfig : FilterConfig) (payloadPath : Path)
  | lookupStart (filterConfig : FilterConfig) (payload : Path)
  | callStart (filterConfig : FilterConfig) (payload : Path)
  | ownPayload (payload : Path) (rpcTask : RpcTask)
  deriving DecidableEq, Repr

/-- The payload that `hook_spotify` has injected and not yet recorded. -/
def HookPc.injected : HookPc → Option Path
  | .lookupStart _ payload => some payload
  | .callStart _ payload => some payload
  | .ownPayload payload _ => some payload
  | _ => none

/-- Between the check for a previous blocker and the injection. -/
def HookPc.cleared : HookPc → Bool
  | .resolveFilterConfig => true
  | .resolveBlocker _ => true
  | .inject _ _ => true
  | _ => false

/-- How `hook_spotify` goes on after a call. -/
inductive HookNext where
  | next (pc : HookPc)
  | ok (state : HookState)
  | err (e : AppError)
  | panic

def SyringeError.text : SyringeError → String
  | .processInaccessible => "process inaccessible"
  | .moduleInaccessible => "module inaccessible"
  | .other e => e

/-- `get_payload_procedure(..).context(access)?.context(missing)?`. -/
def requireProcedure (res : Except SyringeError Bool) (missing : String) (pc : HookPc) : HookNext :=
  match res with
  | .error e => .err ⟨"Failed to access spotify process.", some e.text⟩
  | .ok false => .err ⟨missing, none⟩
  | .ok true => .next pc

/-- One call of `hook_spotify` for the process `p`, once it is unhooked. -/
def hookStep (p : OwnedProcess) (ps : Processes) : HookPc → Call → Option (Processes × HookNext)
  | .findPrevious, .findModuleByName (.error e) =>
    some (ps, .err ⟨"Failed to inspect modules of Spotify process.", some e.text⟩)
  | .findPrevious, .findModuleByName (.ok ()) =>
    match (ps p).findModuleByName defaultBlockerFileName with
    | some prevPayload => some (ps, .next (.lookupStop prevPayload))
    | none => some (ps, .next .resolveFilterConfig)
  | .lookupStop prevPayload, .getPayloadProcedure res =>
    some (ps, requireProcedure res "Failed to find stop_rpc in blocker module."
      (.callStop prevPayload))
  | .callStop prevPayload, .stopRpc _ => some (ps, .next (.ejectPrevious prevPayload))
  | .ejectPrevious prevPayload, .eject (.ok ()) =>
    some (ps.eject p prevPayload, .next .findPrevious)
  | .ejectPrevious _, .eject (.error _) => some (ps, .next .findPrevious)
  | .resolveFilterConfig, .resolveFilterConfig (.error e) =>
    some (ps, .err ⟨"Failed to resolve filter config.", some e⟩)
  | .resolveFilterConfig, .resolveFilterConfig (.ok filterConfig) =>
    some (ps, .next (.resolveBlocker filterConfig))
  | .resolveBlocker _, .resolveBlocker (.error e) =>
    some (ps, .err ⟨"Failed to resolve blocker.", some e⟩)
  | .resolveBlocker filterConfig, .resolveBlocker (.ok payloadPath) =>
    some (ps, .next (.inject filterConfig payloadPath))
  | .inject _ _, .inject (.error e) => some (ps, .err ⟨"Failed to inject blocker.", some e.text⟩)
  | .inject filterConfig payloadPath, .inject (.ok ()) =>
    some (ps.inject p payloadPath, .next (.lookupStart filterConfig payloadPath))
  | .lookupStart filterConfig payload, .getPayloadProcedure res =>
    some (ps, requireProcedure res "Failed to find start_rpc in blocker module."
      (.callStart filterConfig payload))
  | .callStart _ _, .startRpc (.error _) => some (ps, .panic)
  | .callStart filterConfig payload, .startRpc (.ok socketAddr) =>
    some (ps, .next (.ownPayload payload ⟨socketAddr, filterConfig⟩))
  | .ownPayload _ _, .tryToOwned (.error _) => some (ps, .panic)
  | .ownPayload payload rpcTask, .tryToOwned (.ok ()) => some (ps, .ok ⟨p, payload, rpcTask⟩)
  | _, _ => none

/-- The call that `unhook_spotify` makes next on the state it has taken. -/
inductive UnhookPc where
  | lookupStop
  | callStop
  | join
  | eject
  deriving DecidableEq, Repr

inductive UnhookNext where
  | next (pc : UnhookPc)
  | done (res : Except SyringeError Unit)
  | panic

/-- One call of `unhook_spotify`; the payload of a process that has died is not ejected. -/
def unhookStep (state : HookState) (ps : Processes) :
    UnhookPc → Call → Option (Processes × UnhookNext)
  | .lookupStop, .getPayloadProcedure (.error e) => some (ps, .done (.error e))
  | .lookupStop, .getPayloadProcedure (.ok false) => some (ps, .panic)
  | .lookupStop, .getPayloadProcedure (.ok true) => some (ps, .next .callStop)
  | .callStop, .stopRpc (.error e) => some (ps, .done (.error e))
  | .callStop, .stopRpc (.ok ()) => some (ps, .next .join)
  | .join, .join (.error _) => some (ps, .panic)
  | .join, .join (.ok ()) =>
    if (ps state.syringe).alive then some (ps, .next .eject) else some (ps, .done (.ok ()))
  | .eject, .eject (.error e) => some (ps, .done (.error e))
  | .eject, .eject (.ok ()) => some (ps.eject state.syringe state.payload, .done (.ok ()))
  | _, _ => none

/-- The cases of `hookStep`. -/
inductive HookStep (p : OwnedProcess) (ps : Processes) :
    HookPc → Call → Processes → HookNext → Prop
  | inspectFailed {e : SyringeError} : HookStep p ps .findPrevious (.findModuleByName (.error e))
      ps (.err ⟨"Failed to inspect modules of Spotify process.", some e.text⟩)
  | found {prevPayload : Path}
      (h : (ps p).findModuleByName defaultBlockerFileName = some prevPayload) :
      HookStep p ps .findPrevious (.findModuleByName (.ok ())) ps (.next (.lookupStop prevPayload))
  | notFound (h : (ps p).findModuleByName defaultBlockerFileName = none) :
      HookStep p ps .findPrevious (.findModuleByName (.ok ())) ps (.next .resolveFilterConfig)
  | lookupStopFailed {prevPayload : Path} {res : Except SyringeError Bool} {e : AppError}
      (h : res ≠ .ok true) :
      HookStep p ps (.lookupStop prevPayload) (.getPayloadProcedure res) ps (.err e)
  | lookupStop {prevPayload : Path} :
      HookStep p ps (.lookupStop prevPayload) (.getPayloadProcedure (.ok true)) ps
        (.next (.callStop prevPayload))
  | callStop {prevPayload : Path} {res : Except SyringeError Unit} :
      HookStep p ps (.callStop prevPayload) (.stopRpc res) ps (.next (.ejectPrevious prevPayload))
  | ejectPrevious {prevPayload : Path} :
      HookStep p ps (.ejectPrevious prevPayload) (.eject (.ok ())) (ps.eject p prevPayload)
        (.next .findPrevious)
  | ejectPreviousFailed {prevPayload : Path} {e : SyringeError} :
      HookStep p ps (.ejectPrevious prevPayload) (.eject (.error e)) ps (.next .findPrevious)
  | filterConfigFailed {e : String} :
      HookStep p ps .resolveFilterConfig (.resolveFilterConfig (.error e)) ps
        (.err ⟨"Failed to resolve filter config.", some e⟩)
  | filterConfig {filterConfig : FilterConfig} :
      HookStep p ps .resolveFilterConfig (.resolveFilterConfig (.ok filterConfig)) ps
        (.next (.resolveBlocker filterConfig))
  | blockerFailed {filterConfig : FilterConfig} {e : String} :
      HookStep p ps (.resolveBlocker filterConfig) (.resolveBlocker (.error e)) ps
        (.err ⟨"Failed to resolve blocker.", some e⟩)
  | blocker {filterConfig : FilterConfig} {payloadPath : Path} :
      HookStep p ps (.resolveBlocker filterConfig) (.resolveBlocker (.ok payloadPath)) ps
        (.next (.inject filterConfig payloadPath))
  | injectFailed {filterConfig : FilterConfig} {payloadPath : Path} {e : SyringeError} :
      HookStep p ps (.inject filterConfig payloadPath) (.inject (.error e)) ps
        (.err ⟨"Failed to inject blocker.", some e.text⟩)
  | inject {filterConfig : FilterConfig} {payloadPath : Path} :
      HookStep p ps (.inject filterConfig payloadPath) (.inject (.ok ()))
        (ps.inject p payloadPath) (.next (.lookupStart filterConfig payloadPath))
  | lookupStartFailed {filterConfig : FilterConfig} {payload : Path}
      {res : Except SyringeError Bool} {e : AppError} (h : res ≠ .ok true) :
      HookStep p ps (.lookupStart filterConfig payload) (.getPayloadProcedure res) ps (.err e)
  | lookupStart {filterConfig : FilterConfig} {payload : Path} :
      HookStep p ps (.lookupStart filterConfig payload) (.getPayloadProcedure (.ok true)) ps
        (.next (.callStart filterConfig payload))
  | callStartFailed {filterConfig : FilterConfig} {payload : Path} {e : SyringeError} :
      HookStep p ps (.callStart filterConfig payload) (.startRpc (.error e)) ps .panic
  | callStart {filterConfig : FilterConfig} {payload : Path} {socketAddr : SocketAddrV4} :
      HookStep p ps (.callStart filterConfig payload) (.startRpc (.ok socketAddr)) ps
        (.next (.ownPayload payload ⟨socketAddr, filterConfig⟩))
  | ownPayloadFailed {payload : Path} {rpcTask : RpcTask} {e : String} :
      HookStep p ps (.ownPayload payload rpcTask) (.tryToOwned (.error e)) ps .panic
  | ownPayload {payload : Path} {rpcTask : RpcTask} :
      HookStep p ps (.ownPayload payload rpcTask) (.tryToOwned (.ok ())) ps
        (.ok ⟨p, payload, rpcTask⟩)

/-- The cases of `unhookStep`. -/
inductive UnhookStep (state : HookState) (ps : Processes) :
    UnhookPc → Call → Processes → UnhookNext → Prop
  | inaccessible {e : SyringeError} :
      UnhookStep state ps .lookupStop (.getPayloadProcedure (.error e)) ps (.done (.error e))
  | missing : UnhookStep state ps .lookupStop (.getPayloadProcedure (.ok false)) ps .panic
  | lookupStop :
      UnhookStep state ps .lookupStop (.getPayloadProcedure (.ok true)) ps (.next .callStop)
  | callStopFailed {e : SyringeError} :
      UnhookStep state ps .callStop (.stopRpc (.error e)) ps (.done (.error e))
  | callStop : UnhookStep state ps .callStop (.stopRpc (.ok ())) ps (.next .join)
  | joinPanicked {e : String} : UnhookStep state ps .join (.join (.error e)) ps .panic
  | join (h : (ps state.syringe).alive = true) :
      UnhookStep state ps .join (.join (.ok ())) ps (.next .eject)
  | joinDead (h : (ps state.syringe).alive = false) :
      UnhookStep state ps .join (.join (.ok ())) ps (.done (.ok ()))
  | ejectFailed {e : SyringeError} :
      UnhookStep state ps .eject (.eject (.error e)) ps (.done (.error e))
  | eject : UnhookStep state ps .eject (.eject (.ok ())) (ps.eject state.syringe state.payload)
      (.done (.ok ()))

theorem requireProcedure_cases (res : Except SyringeError Bool) (missing : String) (pc : HookPc) :
    res = .ok true ∧ requireProcedure res missing pc = .next pc ∨
      res ≠ .ok true ∧ ∃ e, requireProcedure res missing pc = .err e := by
  rcases res with e | _ | _
  · exact .inr ⟨by simp, _, rfl⟩
  · exact .inr ⟨by simp, _, rfl⟩
  · exact .inl ⟨rfl, rfl⟩

theorem hookStep_cases {p : OwnedProcess} {ps ps' : Processes} {pc : HookPc} {c : Call}
    {next : HookNext} (h : hookStep p ps pc c = some (ps', next)) :
    HookStep p ps pc c ps' next := by
  simp only [hookStep] at h
  split at h
  case h_2 =>
    split at h
    all_goals obtain ⟨rfl, rfl⟩ := Prod.mk.inj (Option.some.inj h)
    · exact .found (by assumption)
    · exact .notFound (by assumption)
  case h_18 => simp at h
  all_goals obtain ⟨rfl, rfl⟩ := Prod.mk.inj (Option.some.inj h)
  case h_3 prevPayload res =>
    rcases requireProcedure_cases res "Failed to find stop_rpc in blocker module."
      (.callStop prevPayload) with ⟨rfl, h⟩ | ⟨hn, e, h⟩
    · exact h ▸ .lookupStop
    · exact h ▸ .lookupStopFailed hn
  case h_13 filterConfig payload res =>
    rcases requireProcedure_cases res "Failed to find start_rpc in blocker module."
      (.callStart filterConfig payload) with ⟨rfl, h⟩ | ⟨hn, e, h⟩
    · exact h ▸ .lookupStart
    · exact h ▸ .lookupStartFailed hn
  all_goals constructor

theorem unhookStep_cases {state : HookState} {ps ps' : Processes} {pc : UnhookPc} {c : Call}
    {next : UnhookNext} (h : unhookStep state ps pc c = some (ps', next)) :
    UnhookStep state ps pc c ps' next := by
  simp only [unhookStep] at h
  split at h
  case h_7 =>
    split at h
    all_goals obtain ⟨rfl, rfl⟩ := Prod.mk.inj (Option.some.inj h)
    case isTrue halive => exact .join halive
    case isFalse halive => exact .joinDead (Bool.eq_false_iff.mpr halive)
  case h_10 => cases h
  all_goals
    obtain ⟨rfl, rfl⟩ := Prod.mk.inj (Option.some.inj h)
    constructor

section Injected

variable {p : OwnedProcess} {ps ps' : Processes} {pc pc' : HookPc} {c : Call}

/-- A call after which `hook_spotify` goes on is the injection, or it leaves what is injected and
at most ejects a previous blocker. -/
theorem hookStep_injected (h : HookStep p ps pc c ps' (.next pc')) :
    (∃ filterConfig payload, pc = .inject filterConfig payload ∧ c = .inject (.ok ()) ∧
      ps' = ps.inject p payload ∧ pc'.injected = some payload) ∨
    ((∀ filterConfig payload, pc ≠ .inject filterConfig payload) ∧ pc'.injected = pc.injected ∧
      (ps' = ps ∨ pc.injected = none ∧ ∃ prevPayload, ps' = ps.eject p prevPayload)) := by
  cases h with
  | inject => exact .inl ⟨_, _, rfl, rfl, rfl, rfl⟩
  | ejectPrevious => exact .inr ⟨by simp, rfl, .inr ⟨rfl, _, rfl⟩⟩
  | _ => exact .inr ⟨by simp, rfl, .inl rfl⟩

/-- An error comes before the injection, or from looking up `start_rpc`. -/
theorem hookStep_err {e : AppError} (h : HookStep p ps pc c ps' (.err e)) :
    ps' = ps ∧ ((pc.injected = none ∧ c ≠ .inject (.ok ())) ∨
      ∃ filterConfig payload res, pc = .lookupStart filterConfig payload ∧
        c = .getPayloadProcedure res ∧ res ≠ .ok true) := by
  cases h with
  | lookupStartFailed hr => exact ⟨rfl, .inr ⟨_, _, _, rfl, rfl, hr⟩⟩
  | _ => exact ⟨rfl, .inl ⟨rfl, by simp⟩⟩

end Injected

end BurntSushi.AdBlocker
