import BurntSushi.Lts
import BurntSushi.AdBlocker.Hook

/-! A hooked Spotify: the task that runs `rpc::run`, the server it talks to, and `unhook_spotify`,
which joins the task. The log lines of both, which can panic as well, are not among their steps. -/
namespace BurntSushi.AdBlocker

open Lts
open Blocker (Regex quietRegex Session Request HookEnv Hooks CapnpError Logger)
open Client (FilterConfig registerLoggerRequest setRulesetRequest setRulesetRequest_eq_ok)

/-- The requests of `rpc::run`. -/
inductive Stage where
  | registerLogger
  | setGetAddrInfo
  | setCefUrlRequestCreate
  | enableFiltering
  deriving DecidableEq, Repr

namespace Stage

def next : Stage → Option Stage
  | .registerLogger => some .setGetAddrInfo
  | .setGetAddrInfo => some .setCefUrlRequestCreate
  | .setCefUrlRequestCreate => some .enableFiltering
  | .enableFiltering => none

/-- The list that the request is filled with. -/
def urls (config : FilterConfig) : Stage → List String
  | .setGetAddrInfo => config.allowlist
  | .setCefUrlRequestCreate => config.denylist
  | _ => []

def request (config : FilterConfig) (logger : Logger) (env : HookEnv) : Stage → Request
  | .registerLogger => registerLoggerRequest logger
  | .setGetAddrInfo => setRulesetRequest .getAddrInfo (config.allowlist.map .ok) []
  | .setCefUrlRequestCreate => setRulesetRequest .cefUrlRequestCreate [] (config.denylist.map .ok)
  | .enableFiltering => .enableFiltering env

end Stage

/-- Where the task is: its request is on the way or its answer is, it serves the connection, or its
thread has ended, normally or by a panic. -/
inductive TaskPc where
  | connecting
  | sent (stage : Stage)
  | answered (stage : Stage) (res : Except CapnpError Unit)
  | serving
  | ended (normally : Bool)
  deriving DecidableEq

/-- What follows an answer; a list too long for its builder is a panic. -/
def TaskPc.enter (config : FilterConfig) : Option Stage → TaskPc
  | none => .serving
  | some stage => if (stage.urls config).length < UInt32.size then .sent stage else .ended false

inductive UnhookRun where
  | idle
  | calling (state : HookState) (pc : UnhookPc)
  | returned (res : Except SyringeError Unit)
  | panicked

structure HookedSpotify where
  task : TaskPc
  server : Session
  serving : Bool
  unhook : UnhookRun
  state : SpotifyHookState
  processes : Processes

namespace HookedSpotify

/-- `lost` is a request whose connection ends before its answer arrives. -/
inductive Label where
  | connect (res : Except String Unit)
  | handle (env : HookEnv)
  | deliver
  | lost
  | rpcEnds (res : Except String Unit)
  | unhookSpotify
  | stopServer (env : HookEnv)
  | call (c : Call)

/-- The state that `hook_spotify` returns with. -/
def hooked (state : HookState) (server : Session) (processes : Processes) : HookedSpotify :=
  ⟨.connecting, server, true, .idle, .hooked state, processes⟩

/-- The calls of `unhook_spotify` succeed; `stop_rpc` returns once the server's thread has ended,
and joining the task tells how that ended. -/
def allows (s : HookedSpotify) : Call → Bool
  | .getPayloadProcedure res => res.toOption = some true
  | .stopRpc res => res.toBool && !s.serving
  | .join (.ok ()) => s.task = .ended true
  | .join (.error _) => s.task = .ended false
  | .eject res => res.toBool
  | _ => false

variable (R : Regex) (config : FilterConfig) (logger : Logger)

def step (s : HookedSpotify) : Label → Option HookedSpotify
  | .connect res =>
    match s.task, res with
    | .connecting, .ok () => some { s with task := .enter config (some .registerLogger) }
    | .connecting, .error _ => some { s with task := .ended false }
    | _, _ => none
  | .handle env =>
    match s.task with
    | .sent stage =>
      if s.serving then
        let (server, res) := s.server.handle R (stage.request config logger env)
        some { s with server, task := .answered stage res }
      else none
    | _ => none
  | .deliver =>
    match s.task with
    | .answered stage (.ok ()) => some { s with task := .enter config stage.next }
    | .answered _ (.error _) => some { s with task := .ended false }
    | _ => none
  | .lost =>
    match s.task with
    | .sent _ => some { s with task := .ended false }
    | .answered _ _ => some { s with task := .ended false }
    | _ => none
  | .rpcEnds res =>
    match s.task with
    | .serving => some { s with task := .ended res.toBool }
    | _ => none
  | .unhookSpotify =>
    match s.unhook, s.state with
    | .idle, .hooked state =>
      some { s with unhook := .calling state .lookupStop, state := .unhooked }
    | .idle, .unhooked => some { s with unhook := .returned (.ok ()) }
    | _, _ => none
  | .stopServer env =>
    match s.unhook with
    | .calling _ .callStop =>
      if s.serving then
        match s.server.disableFiltering env with
        | (server, .ok ()) => some { s with server, serving := false }
        | (_, .error _) => none
      else none
    | _ => none
  | .call c =>
    match s.unhook with
    | .calling state pc =>
      if s.allows c then
        (unhookStep state s.processes pc c).map fun (processes, next) =>
          match next with
          | .next pc => { s with processes, unhook := .calling state pc }
          | .done res => { s with processes, unhook := .returned res, state := .unhooked }
          | .panic => { s with processes, unhook := .panicked }
      else none
    | _ => none

/-- The cases of `step` after `hook_spotify` has returned. -/
inductive Step (s : HookedSpotify) : Label → HookedSpotify → Prop
  | connect (h : s.task = .connecting) :
      Step s (.connect (.ok ())) { s with task := .enter config (some .registerLogger) }
  | connectFailed {e : String} (h : s.task = .connecting) :
      Step s (.connect (.error e)) { s with task := .ended false }
  | handle {stage : Stage} {env : HookEnv} {server : Session} {res : Except CapnpError Unit}
      (h : s.task = .sent stage)
      (hr : s.server.handle R (stage.request config logger env) = (server, res)) :
      Step s (.handle env) { s with server, task := .answered stage res }
  | deliver {stage : Stage} (h : s.task = .answered stage (.ok ())) :
      Step s .deliver { s with task := .enter config stage.next }
  | deliverFailed {stage : Stage} {e : CapnpError} (h : s.task = .answered stage (.error e)) :
      Step s .deliver { s with task := .ended false }
  | lostRequest {stage : Stage} (h : s.task = .sent stage) :
      Step s .lost { s with task := .ended false }
  | lostAnswer {stage : Stage} {res : Except CapnpError Unit} (h : s.task = .answered stage res) :
      Step s .lost { s with task := .ended false }
  | rpcEnds {res : Except String Unit} (h : s.task = .serving) :
      Step s (.rpcEnds res) { s with task := .ended res.toBool }
  | unhookSpotify {state : HookState} (h : s.unhook = .idle) (hs : s.state = .hooked state) :
      Step s .unhookSpotify { s with unhook := .calling state .lookupStop, state := .unhooked }
  | unhookUnhooked (h : s.unhook = .idle) (hs : s.state = .unhooked) :
      Step s .unhookSpotify { s with unhook := .returned (.ok ()) }
  | stopServer {state : HookState} {env : HookEnv} {server : Session}
      (h : s.unhook = .calling state .callStop) (hs : s.serving = true) :
      Step s (.stopServer env) { s with server, serving := false }
  | lookupStop {state : HookState} (h : s.unhook = .calling state .lookupStop) :
      Step s (.call (.getPayloadProcedure (.ok true))) { s with unhook := .calling state .callStop }
  | callStop {state : HookState} (h : s.unhook = .calling state .callStop)
      (hs : s.serving = false) :
      Step s (.call (.stopRpc (.ok ()))) { s with unhook := .calling state .join }
  | join {state : HookState} (h : s.unhook = .calling state .join) (ht : s.task = .ended true)
      (ha : (s.processes state.syringe).alive = true) :
      Step s (.call (.join (.ok ()))) { s with unhook := .calling state .eject }
  | joinDead {state : HookState} (h : s.unhook = .calling state .join) (ht : s.task = .ended true)
      (ha : (s.processes state.syringe).alive = false) :
      Step s (.call (.join (.ok ()))) { s with unhook := .returned (.ok ()), state := .unhooked }
  | joinPanicked {state : HookState} {e : String} (h : s.unhook = .calling state .join)
      (ht : s.task = .ended false) :
      Step s (.call (.join (.error e))) { s with unhook := .panicked }
  | eject {state : HookState} (h : s.unhook = .calling state .eject) :
      Step s (.call (.eject (.ok ())))
        { s with processes := s.processes.eject state.syringe state.payload,
                 unhook := .returned (.ok ()), state := .unhooked }

variable {R config logger} {s t : HookedSpotify} {l : Label}

theorem call_cases {c : Call} {state : HookState} {pc : UnhookPc}
    (hu : s.unhook = .calling state pc) (h : step R config logger s (.call c) = some t) :
    Step R config logger s (.call c) t := by
  simp only [step, hu] at h
  split at h
  case isFalse => simp at h
  case isTrue ha =>
    obtain ⟨⟨processes, next⟩, hstep, rfl⟩ := Option.map_eq_some_iff.mp h
    have hcases := unhookStep_cases hstep
    clear hstep
    cases hcases with
    | lookupStop => exact .lookupStop hu
    | callStop => exact .callStop hu (by simpa [allows, Except.toBool] using ha)
    | joinPanicked => exact .joinPanicked hu (by simpa [allows] using ha)
    | join halive => exact .join hu (by simpa [allows] using ha) halive
    | joinDead hdead => exact .joinDead hu (by simpa [allows] using ha) hdead
    | eject => exact .eject hu
    | _ => simp [allows, Except.toOption, Except.toBool] at ha

theorem step_cases (h : step R config logger s l = some t) : Step R config logger s l t := by
  cases l with
  | connect res =>
    simp only [step] at h
    split at h
    case h_3 => simp at h
    all_goals obtain rfl := Option.some.inj h
    · exact .connect (by assumption)
    · exact .connectFailed (by assumption)
  | handle env =>
    simp only [step] at h
    split at h
    case h_2 => simp at h
    split at h
    case isFalse => simp at h
    obtain rfl := Option.some.inj h
    exact .handle (by assumption) rfl
  | deliver =>
    simp only [step] at h
    split at h
    case h_3 => simp at h
    all_goals obtain rfl := Option.some.inj h
    · exact .deliver (by assumption)
    · exact .deliverFailed (by assumption)
  | lost =>
    simp only [step] at h
    split at h
    case h_3 => simp at h
    all_goals obtain rfl := Option.some.inj h
    · exact .lostRequest (by assumption)
    · exact .lostAnswer (by assumption)
  | rpcEnds res =>
    simp only [step] at h
    split at h
    case h_2 => simp at h
    obtain rfl := Option.some.inj h
    exact .rpcEnds (by assumption)
  | unhookSpotify =>
    simp only [step] at h
    split at h
    case h_3 => simp at h
    all_goals obtain rfl := Option.some.inj h
    · exact .unhookSpotify (by assumption) (by assumption)
    · exact .unhookUnhooked (by assumption) (by assumption)
  | stopServer env =>
    simp only [step] at h
    split at h
    case h_2 => simp at h
    split at h
    case isFalse => simp at h
    split at h
    case h_2 => simp at h
    obtain rfl := Option.some.inj h
    exact .stopServer (by assumption) (by assumption)
  | call c =>
    have hu : ∃ state pc, s.unhook = .calling state pc := by
      simp only [step] at h
      split at h
      · exact ⟨_, _, by assumption⟩
      · simp at h
    obtain ⟨state, pc, hu⟩ := hu
    exact call_cases hu h

end HookedSpotify

/-- How many steps a task can still take. -/
def Stage.rank : Stage → Nat
  | .registerLogger => 4
  | .setGetAddrInfo => 3
  | .setCefUrlRequestCreate => 2
  | .enableFiltering => 1

def TaskPc.rank : TaskPc → Nat
  | .connecting => 11
  | .sent stage => 2 * stage.rank + 2
  | .answered stage _ => 2 * stage.rank + 1
  | .serving => 2
  | .ended _ => 0

def UnhookRun.rank : UnhookRun → Nat
  | .idle => 5
  | .calling _ .lookupStop => 4
  | .calling _ .callStop => 3
  | .calling _ .join => 2
  | .calling _ .eject => 1
  | .returned _ => 0
  | .panicked => 0

def HookedSpotify.rank (s : HookedSpotify) : Nat :=
  s.task.rank + s.unhook.rank + if s.serving then 1 else 0

/-- The patterns of a list compile, and they fit a list builder. -/
def Accepts (R : Regex) (urls : List String) : Prop :=
  urls.length < UInt32.size ∧ R.compile urls = .ok ()

def AcceptsConfig (R : Regex) (config : FilterConfig) : Prop :=
  Accepts R config.allowlist ∧ Accepts R config.denylist

/-- What is known of the lists once the request of a stage has been sent. -/
def Stage.Passed (R : Regex) (config : FilterConfig) : Stage → Prop
  | .registerLogger => True
  | .setGetAddrInfo => config.allowlist.length < UInt32.size
  | .setCefUrlRequestCreate => Accepts R config.allowlist ∧ config.denylist.length < UInt32.size
  | .enableFiltering => AcceptsConfig R config

/-- The task has met no error, and what that shows of the lists. -/
def TaskPc.Sound (R : Regex) (config : FilterConfig) : TaskPc → Prop
  | .connecting => True
  | .sent stage => stage.Passed R config
  | .answered stage res =>
    res = .ok () ∧ stage.Passed R config ∧ R.compile (stage.urls config) = .ok ()
  | .serving => AcceptsConfig R config
  | .ended normally => normally = true ∧ AcceptsConfig R config

/-- The task ends in a panic, or will once it has its answer. -/
def TaskPc.Failed : TaskPc → Prop
  | .answered _ (.error _) => True
  | .ended false => True
  | _ => False

namespace HookedSpotify

/-- A step outside of the lists that does not fail: the connection comes up and no request loses
it, and the hooks can be enabled. -/
def Untroubled (s : HookedSpotify) : Label → Prop
  | .connect res => res = .ok ()
  | .handle env => s.task = .sent .enableFiltering →
    (s.server.dll.hooks.enable env s.server.capture).2 = .ok ()
  | .lost => False
  | .rpcEnds res => res = .ok ()
  | _ => True

/-- `unhook_spotify` has returned without a panic, and the payload is ejected. -/
def Ejected (state : HookState) (ps : Processes) (s : HookedSpotify) : Prop :=
  s.unhook = .returned (.ok ()) ∧ s.state = .unhooked ∧
    s.processes = ps.eject state.syringe state.payload

/-- How far `unhook_spotify` is, and how the task ended that it has joined. -/
def UnhookInv (state : HookState) (ps : Processes) (s : HookedSpotify) : Prop :=
  match s.unhook with
  | .idle => s.state = .hooked state ∧ s.processes = ps
  | .calling st pc => st = state ∧ s.state = .unhooked ∧ s.processes = ps ∧
    (pc = .eject → s.task = .ended true)
  | .returned _ => s.task = .ended true ∧ Ejected state ps s
  | .panicked => s.task = .ended false

def TaskInv (R : Regex) (config : FilterConfig) (tr : List (HookedSpotify × Label))
    (s : HookedSpotify) : Prop :=
  s.task.Sound R config ∧ Along Untroubled tr ∨
    s.task.Failed ∧ ¬ (AcceptsConfig R config ∧ Along Untroubled tr)

variable {R : Regex} {config : FilterConfig} {logger : Logger} {s t : HookedSpotify} {l : Label}
  {state : HookState} {server : Session} {ps : Processes} {tr : List (HookedSpotify × Label)}

theorem rank_enter (config : FilterConfig) (stage : Stage) :
    (TaskPc.enter config (some stage)).rank ≤ 2 * stage.rank + 2 := by
  unfold TaskPc.enter
  dsimp only
  split
  · exact Nat.le_refl _
  · exact Nat.zero_le _

theorem rank_deliver (stage : Stage) :
    (TaskPc.enter config stage.next).rank < 2 * stage.rank + 1 := by
  cases stage with
  | registerLogger =>
    have hle := rank_enter config .setGetAddrInfo
    simp only [Stage.next, Stage.rank] at hle ⊢
    omega
  | setGetAddrInfo =>
    have hle := rank_enter config .setCefUrlRequestCreate
    simp only [Stage.next, Stage.rank] at hle ⊢
    omega
  | setCefUrlRequestCreate =>
    have hle := rank_enter config .enableFiltering
    simp only [Stage.next, Stage.rank] at hle ⊢
    omega
  | enableFiltering => exact Nat.lt_succ_self 2

theorem rank_step (h : Step R config logger s l t) : t.rank < s.rank := by
  cases h with
  | connect h =>
    have hle := rank_enter config .registerLogger
    have hs : s.task.rank = 11 := by rw [h, TaskPc.rank]
    simp only [rank, hs, Stage.rank] at hle ⊢
    omega
  | connectFailed h => simp [rank, h, TaskPc.rank]
  | handle h hr => simp [rank, h, TaskPc.rank]
  | @deliver stage h =>
    have hlt := @rank_deliver config stage
    have hs : s.task.rank = 2 * stage.rank + 1 := by rw [h, TaskPc.rank]
    simp only [rank, hs]
    omega
  | deliverFailed h => simp [rank, h, TaskPc.rank]
  | lostRequest h => simp [rank, h, TaskPc.rank]
  | lostAnswer h => simp [rank, h, TaskPc.rank]
  | rpcEnds h => simp [rank, h, TaskPc.rank]
  | unhookSpotify h hs => simp [rank, h, UnhookRun.rank]
  | unhookUnhooked h hs => simp [rank, h, UnhookRun.rank]
  | stopServer h hs => simp [rank, hs]
  | lookupStop h => simp [rank, h, UnhookRun.rank]
  | callStop h hs => simp [rank, h, UnhookRun.rank]
  | join h ht ha => simp [rank, h, UnhookRun.rank]
  | joinDead h ht ha => simp [rank, h, UnhookRun.rank]
  | joinPanicked h ht => simp [rank, h, UnhookRun.rank]
  | eject h => simp [rank, h, UnhookRun.rank]

/-- Once the task has failed there is nothing left of it but its panic. -/
theorem failed_step (hf : s.task.Failed) (h : Step R config logger s l t) : t.task.Failed := by
  cases h with
  | connect h => simp [h, TaskPc.Failed] at hf
  | connectFailed h => trivial
  | handle h hr => simp [h, TaskPc.Failed] at hf
  | deliver h => simp [h, TaskPc.Failed] at hf
  | deliverFailed h => trivial
  | lostRequest h => trivial
  | lostAnswer h => trivial
  | rpcEnds h => simp [h, TaskPc.Failed] at hf
  | _ => exact hf

/-- The answer to a request tells whether its list compiles, or whether the hooks can be
enabled. -/
theorem handle_request (hnil : R.compile [] = .ok ()) {stage : Stage} {env : HookEnv}
    {session : Session} {res : Except CapnpError Unit}
    (h : server.handle R (stage.request config logger env) = (session, res)) :
    res = .ok () ↔ R.compile (stage.urls config) = .ok () ∧
      (stage = .enableFiltering → (server.dll.hooks.enable env server.capture).2 = .ok ()) := by
  obtain rfl : (server.handle R (stage.request config logger env)).2 = res := by rw [h]
  cases stage with
  | registerLogger =>
    constructor
    · intro _
      exact ⟨hnil, by simp⟩
    · intro _
      rfl
  | setGetAddrInfo =>
    refine (@setRulesetRequest_eq_ok _ _ _ config.allowlist []).trans ?_
    simp [Stage.urls, hnil]
  | setCefUrlRequestCreate =>
    refine (@setRulesetRequest_eq_ok _ _ _ [] config.denylist).trans ?_
    simp [Stage.urls, hnil]
  | enableFiltering =>
    simp [Stage.urls, hnil, Stage.request, Session.handle, Session.enableFiltering_eq_ok]

/-- What an answer without an error leads to. -/
theorem enter_next {stage : Stage} (hp : stage.Passed R config)
    (hc : R.compile (stage.urls config) = .ok ()) :
    (TaskPc.enter config stage.next).Sound R config ∨
      TaskPc.enter config stage.next = .ended false ∧ ¬ AcceptsConfig R config := by
  cases stage with
  | registerLogger =>
    by_cases hl : config.allowlist.length < UInt32.size
    · left
      simp only [Stage.next, TaskPc.enter, Stage.urls, hl, if_true]
      exact hl
    · refine .inr ⟨by simp [Stage.next, TaskPc.enter, Stage.urls, hl], ?_⟩
      rintro ⟨⟨h, -⟩, -⟩
      exact hl h
  | setGetAddrInfo =>
    by_cases hl : config.denylist.length < UInt32.size
    · left
      simp only [Stage.next, TaskPc.enter, Stage.urls, hl, if_true]
      exact ⟨⟨hp, hc⟩, hl⟩
    · refine .inr ⟨by simp [Stage.next, TaskPc.enter, Stage.urls, hl], ?_⟩
      rintro ⟨-, h, -⟩
      exact hl h
  | setCefUrlRequestCreate => exact .inl ⟨hp.1, hp.2, hc⟩
  | enableFiltering => exact .inl hp

theorem compile_urls (hnil : R.compile [] = .ok ()) (ha : AcceptsConfig R config)
    (stage : Stage) : R.compile (stage.urls config) = .ok () := by
  cases stage with
  | registerLogger => exact hnil
  | setGetAddrInfo => exact ha.1.2
  | setCefUrlRequestCreate => exact ha.2.2
  | enableFiltering => exact hnil

/-- The server answers a request that the task has sent. -/
theorem taskInv_handle (hnil : R.compile [] = .ok ()) {stage : Stage} {env : HookEnv}
    {session : Session} {res : Except CapnpError Unit} (h : s.task = .sent stage)
    (hr : s.server.handle R (stage.request config logger env) = (session, res))
    (hs : (TaskPc.sent stage).Sound R config) (hA : Along Untroubled tr) :
    TaskInv R config (tr ++ [(s, .handle env)])
      { s with server := session, task := .answered stage res } := by
  have hiff := handle_request hnil hr
  cases res with
  | ok u =>
    obtain ⟨hc, he⟩ := hiff.mp rfl
    have hU : Untroubled s (.handle env) := by
      intro ht
      rw [h] at ht
      exact he (TaskPc.sent.inj ht)
    exact .inl ⟨⟨rfl, hs, hc⟩, along_concat.mpr ⟨hA, hU⟩⟩
  | error e =>
    refine .inr ⟨trivial, ?_⟩
    rintro ⟨ha, hU⟩
    have hU' : Untroubled s (.handle env) := (along_concat.mp hU).2
    have henable : stage = .enableFiltering →
        (s.server.dll.hooks.enable env s.server.capture).2 = .ok () := by
      intro he
      exact hU' (by rw [h, he])
    have hok := hiff.mpr ⟨compile_urls hnil ha stage, henable⟩
    simp at hok

theorem taskInv_step (hnil : R.compile [] = .ok ()) (hI : TaskInv R config tr s)
    (h : Step R config logger s l t) : TaskInv R config (tr ++ [(s, l)]) t := by
  have hlast : Along Untroubled (tr ++ [(s, l)]) → Untroubled s l := by
    intro hU
    exact (along_concat.mp hU).2
  rcases hI with ⟨hs, hA⟩ | ⟨hf, hn⟩
  · have hstay : Untroubled s l → Along Untroubled (tr ++ [(s, l)]) := by
      intro hU
      exact along_concat.mpr ⟨hA, hU⟩
    cases h with
    | connect h => exact .inl ⟨trivial, hstay rfl⟩
    | connectFailed h =>
      refine .inr ⟨trivial, ?_⟩
      rintro ⟨-, hU⟩
      simpa [Untroubled] using hlast hU
    | handle h hr =>
      rw [h] at hs
      exact taskInv_handle hnil h hr hs hA
    | deliver h =>
      simp only [h, TaskPc.Sound] at hs
      obtain ⟨-, hp, hc⟩ := hs
      rcases enter_next hp hc with he | ⟨he, hn⟩
      · exact .inl ⟨he, hstay trivial⟩
      · refine .inr ⟨by simp [he, TaskPc.Failed], ?_⟩
        rintro ⟨ha, -⟩
        exact hn ha
    | deliverFailed h => simp [h, TaskPc.Sound] at hs
    | lostRequest h =>
      refine .inr ⟨trivial, ?_⟩
      rintro ⟨-, hU⟩
      exact hlast hU
    | lostAnswer h =>
      refine .inr ⟨trivial, ?_⟩
      rintro ⟨-, hU⟩
      exact hlast hU
    | rpcEnds h =>
      simp only [h, TaskPc.Sound] at hs
      rename_i res
      cases res with
      | ok u => exact .inl ⟨⟨rfl, hs⟩, hstay rfl⟩
      | error e =>
        refine .inr ⟨trivial, ?_⟩
        rintro ⟨-, hU⟩
        simpa [Untroubled] using hlast hU
    | _ => exact .inl ⟨hs, hstay trivial⟩
  · refine .inr ⟨failed_step hf h, ?_⟩
    rintro ⟨ha, hU⟩
    exact hn ⟨ha, (along_append.mp hU).1⟩

theorem taskInv_trace (hnil : R.compile [] = .ok ())
    (h : Trace (step R config logger) (hooked state server ps) tr s) : TaskInv R config tr s := by
  induction h with
  | refl => exact .inl ⟨trivial, along_nil⟩
  | snoc _ hs ih => exact taskInv_step hnil ih (step_cases hs)

/-- An ended task stays so. -/
theorem ended_step {b : Bool} (he : s.task = .ended b) (h : Step R config logger s l t) :
    t.task = .ended b := by
  cases h with
  | connect h => simp [h] at he
  | connectFailed h => simp [h] at he
  | handle h hr => simp [h] at he
  | deliver h => simp [h] at he
  | deliverFailed h => simp [h] at he
  | lostRequest h => simp [h] at he
  | lostAnswer h => simp [h] at he
  | rpcEnds h => simp [h] at he
  | _ => exact he

theorem UnhookInv.frame (hI : UnhookInv state ps s) (hu : t.unhook = s.unhook)
    (hst : t.state = s.state) (hps : t.processes = s.processes)
    (ht : ∀ b, s.task = .ended b → t.task = .ended b) : UnhookInv state ps t := by
  simp only [UnhookInv, Ejected] at hI ⊢
  rw [hu, hst, hps]
  cases hs : s.unhook with
  | idle => simpa [hs] using hI
  | calling st pc =>
    rw [hs] at hI
    obtain ⟨hstate, hunhooked, hloaded, hended⟩ := hI
    refine ⟨hstate, hunhooked, hloaded, ?_⟩
    intro he
    exact ht true (hended he)
  | returned res =>
    rw [hs] at hI
    obtain ⟨hended, hejected⟩ := hI
    exact ⟨ht true hended, hejected⟩
  | panicked =>
    rw [hs] at hI
    exact ht false hI

theorem unhookInv_step (halive : (ps state.syringe).alive = true) (hI : UnhookInv state ps s)
    (h : Step R config logger s l t) : UnhookInv state ps t := by
  have hframe := hI.frame (t := t)
  have hend : ∀ b, s.task = .ended b → t.task = .ended b := by
    intro b he
    exact ended_step he h
  cases h with
  | unhookSpotify h hs =>
    simp only [UnhookInv, h, hs, SpotifyHookState.hooked.injEq] at hI
    obtain ⟨hstate, hloaded⟩ := hI
    exact ⟨hstate, rfl, hloaded, by simp⟩
  | unhookUnhooked h hs => simp [UnhookInv, h, hs] at hI
  | lookupStop h =>
    simp only [UnhookInv, h] at hI
    obtain ⟨hstate, hunhooked, hloaded, -⟩ := hI
    exact ⟨hstate, hunhooked, hloaded, by simp⟩
  | callStop h hs =>
    simp only [UnhookInv, h] at hI
    obtain ⟨hstate, hunhooked, hloaded, -⟩ := hI
    exact ⟨hstate, hunhooked, hloaded, by simp⟩
  | join h ht ha =>
    simp only [UnhookInv, h] at hI
    obtain ⟨hstate, hunhooked, hloaded, -⟩ := hI
    exact ⟨hstate, hunhooked, hloaded, fun _ => ht⟩
  | joinDead h ht ha =>
    simp only [UnhookInv, h] at hI
    obtain ⟨rfl, -, hloaded, -⟩ := hI
    simp [hloaded, halive] at ha
  | joinPanicked h ht => exact ht
  | eject h =>
    simp only [UnhookInv, h] at hI
    obtain ⟨rfl, -, rfl, ht⟩ := hI
    exact ⟨ht trivial, rfl, rfl, rfl⟩
  | _ => exact hframe rfl rfl rfl hend

theorem unhookInv_trace (halive : (ps state.syringe).alive = true)
    (h : Trace (step R config logger) (hooked state server ps) tr s) : UnhookInv state ps s :=
  h.invariant (P := UnhookInv state ps) ⟨rfl, rfl⟩
    fun _ _ _ hI hs => unhookInv_step halive hI (step_cases hs)

/-- A run cannot stop before the task has ended and `unhook_spotify` is through. -/
theorem stuck_task (hstuck : ∀ l, step R config logger s l = none) : ∃ b, s.task = .ended b := by
  cases ht : s.task with
  | connecting => simpa [step, ht] using hstuck (.connect (.ok ()))
  | sent stage => simpa [step, ht] using hstuck .lost
  | answered stage res => simpa [step, ht] using hstuck .lost
  | serving => simpa [step, ht] using hstuck (.rpcEnds (.ok ()))
  | ended b => exact ⟨b, rfl⟩

theorem stuck_unhook (hI : UnhookInv state ps s)
    (hstuck : ∀ l, step R config logger s l = none) :
    (∃ res, s.unhook = .returned res) ∨ s.unhook = .panicked := by
  cases hu : s.unhook with
  | idle =>
    simp only [UnhookInv, hu] at hI
    simpa [step, hu, hI.1] using hstuck .unhookSpotify
  | calling st pc =>
    cases pc with
    | lookupStop =>
      simpa [step, hu, allows, Except.toOption, unhookStep]
        using hstuck (.call (.getPayloadProcedure (.ok true)))
    | callStop =>
      cases hs : s.serving with
      | true =>
        have hd := Hooks.disable_eq_off HookEnv.switches_allOk s.server.dll.hooks
        simpa [step, hu, hs, Session.disableFiltering, hd, Except.mapError]
          using hstuck (.stopServer .allOk)
      | false =>
        simpa [step, hu, hs, allows, Except.toBool, unhookStep]
          using hstuck (.call (.stopRpc (.ok ())))
    | join =>
      obtain ⟨b, ht⟩ := stuck_task hstuck
      cases b with
      | true =>
        have hj := hstuck (.call (.join (.ok ())))
        simp only [step, hu, allows, ht, unhookStep, decide_true, if_true] at hj
        split at hj <;> simp at hj
      | false =>
        simpa [step, hu, allows, ht, unhookStep] using hstuck (.call (.join (.error "panicked")))
    | eject =>
      simpa [step, hu, allows, Except.toBool, unhookStep] using hstuck (.call (.eject (.ok ())))
  | returned res => exact .inl ⟨res, rfl⟩
  | panicked => exact .inr rfl

/-- A run from the state that `hook_spotify` leaves takes at most 17 steps. Where it stops,
`unhook_spotify` has ejected the payload if the server took both lists and nothing else disturbed
the task; otherwise it has panicked. -/
theorem unhook_ejects_iff (hnil : R.compile [] = .ok ())
    (halive : (ps state.syringe).alive = true)
    (h : Trace (step R state.rpcTask.filterConfig logger) (hooked state server ps) tr s) :
    tr.length ≤ 17 ∧ ((∀ l, step R state.rpcTask.filterConfig logger s l = none) →
      (Ejected state ps s ↔
        AcceptsConfig R state.rpcTask.filterConfig ∧ Along Untroubled tr)) := by
  constructor
  · have hlen := h.length_add_le rank fun s l t hs => rank_step (step_cases hs)
    exact Nat.le_of_add_right_le hlen
  · intro hstuck
    have hU := unhookInv_trace halive h
    obtain ⟨b, ht⟩ := stuck_task hstuck
    have hend : Ejected state ps s ↔ b = true := by
      rcases stuck_unhook hU hstuck with ⟨res, hu⟩ | hu
      · simp only [UnhookInv, hu, ht, TaskPc.ended.injEq] at hU
        exact iff_of_true hU.2 hU.1
      · simp only [UnhookInv, hu, ht, TaskPc.ended.injEq] at hU
        simp [Ejected, hu, hU]
    rw [hend]
    rcases taskInv_trace hnil h with ⟨hs, hA⟩ | ⟨hf, hn⟩
    · simp only [ht, TaskPc.Sound] at hs
      obtain ⟨hb, ha⟩ := hs
      exact iff_of_true hb ⟨ha, hA⟩
    · have hb : b ≠ true := by
        rintro rfl
        simp [ht, TaskPc.Failed] at hf
      exact iff_of_false hb hn

def sampleHooked (config : FilterConfig) : HookState :=
  ⟨0, ⟨"Temp", defaultBlockerFileName⟩, ⟨.localhost 5, config⟩⟩

def sampleServer : Session := .new (.loaded .empty .empty)

/-- Each process has one blocker in it. -/
def sampleProcesses : Processes := fun _ => ⟨true, [⟨"Temp", defaultBlockerFileName⟩]⟩

def sampleStart (config : FilterConfig) : HookedSpotify :=
  hooked (sampleHooked config) sampleServer sampleProcesses

/-- The calls of `unhook_spotify` up to the join. -/
def stopCalls : List Label :=
  [.unhookSpotify, .call (.getPayloadProcedure (.ok true)), .stopServer .allOk,
    .call (.stopRpc (.ok ()))]

def acceptedRun : List Label :=
  [.connect (.ok ()), .handle .allOk, .deliver, .handle .allOk, .deliver, .handle .allOk, .deliver,
    .handle .allOk, .deliver] ++ stopCalls ++
    [.rpcEnds (.ok ()), .call (.join (.ok ())), .call (.eject (.ok ()))]

theorem unhook_ejects_iff_accepted :
    let config : FilterConfig := ⟨["spclient"], ["ads"]⟩
    let step := step quietRegex config 0
    let tr := trail step (sampleStart config) acceptedRun
    let s := after step (sampleStart config) acceptedRun
    tr.length ≤ 17 ∧ ((∀ l, step s l = none) →
      (Ejected (sampleHooked config) sampleProcesses s ↔
        AcceptsConfig quietRegex config ∧ Along Untroubled tr)) :=
  @unhook_ejects_iff quietRegex 0 _ (sampleHooked ⟨["spclient"], ["ads"]⟩) sampleServer
    sampleProcesses _ rfl rfl (trace_after rfl)

/-- A list with a group that is never closed does not compile. -/
def unclosedRegex : Regex :=
  ⟨fun patterns => if "(" ∈ patterns then .error "unclosed group" else .ok (), fun _ _ => false⟩

def rejectedRun : List Label :=
  [.connect (.ok ()), .handle .allOk, .deliver, .handle .allOk, .deliver] ++ stopCalls ++
    [.call (.join (.error "called unwrap on an Err value"))]

/-- The error about the list surfaces in `unhook_spotify`, which then leaves the module loaded. -/
theorem unhook_panics_of_rejected :
    let config : FilterConfig := ⟨["("], []⟩
    let step := step unclosedRegex config 0
    let s := after step (sampleStart config) rejectedRun
    Trace step (sampleStart config) (trail step (sampleStart config) rejectedRun) s ∧
      s.unhook = .panicked ∧ (s.processes 0).modules = [⟨"Temp", defaultBlockerFileName⟩] :=
  ⟨trace_after rfl, rfl, rfl⟩

end HookedSpotify

end BurntSushi.AdBlocker
