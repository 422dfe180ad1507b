import BurntSushi.Args
import BurntSushi.Blocker.Server
import BurntSushi.Logger.Global

/-! `LoggerImpl` of `rpc.rs`: the records of the events that the blocker module sends. -/
namespace BurntSushi

open Blocker

/-- `Display` of a hook. -/
def Blocker.FilterHook.fmt : FilterHook → String
  | .getAddrInfo => "getaddrinfo"
  | .cefUrlRequestCreate => "cef_urlrequest_create"

/-- The `LevelFilter` of a log level, as a number. -/
def Args.LogLevel.intoLevelFilter : Args.LogLevel → Nat
  | .off => 0
  | .trace => 5
  | .debug => 4
  | .info => 3
  | .warn => 2
  | .error => 1

namespace LoggerImpl

/-- `log!` in `rpc.rs` at a level, which the maximal level has to reach. -/
def log (level : Args.LogLevel) (name : String) (maxLevel : Args.LogLevel) (args : String) :
    Option Record :=
  if level.intoLevelFilter ≤ maxLevel.intoLevelFilter then some ⟨"BurntSushi::rpc", name, args⟩
  else none

def debug : Args.LogLevel → String → Option Record := log .debug "DEBUG"

def info : Args.LogLevel → String → Option Record := log .info "INFO"

/-- The reads of `params` in `log_request`. The URL is the text that `from_utf8_lossy` makes of the
bytes sent. -/
structure LogRequestParams where
  get : Except CapnpError Unit
  getRequest : Except CapnpError Unit
  getBlocked : Bool
  getHook : Except CapnpError FilterHook
  getUrl : Except CapnpError String

structure LogMessageParams where
  get : Except CapnpError Unit
  getMessage : Except CapnpError String

def blockSign (blocked : Bool) : String := if blocked then "-" else "+"

def requestLine (blocked : Bool) (hook : FilterHook) (url : String) : String :=
  "[" ++ blockSign blocked ++ "] (" ++ hook.fmt ++ ") " ++ url

def logRequest (maxLevel : Args.LogLevel) (params : LogRequestParams) :
    Except CapnpError (Option Record) := do
  params.get
  params.getRequest
  let hookName ← params.getHook
  let url ← params.getUrl
  return debug maxLevel (requestLine params.getBlocked hookName url)

def logMessage (maxLevel : Args.LogLevel) (params : LogMessageParams) :
    Except CapnpError (Option Record) := do
  params.get
  let message ← params.getMessage
  return info maxLevel message

/-- The record of a call that the blocker module has sent. -/
def record (maxLevel : Args.LogLevel) : LogParams → Option Record
  | .request url blocked hook =>
    (logRequest maxLevel ⟨.ok (), .ok (), blocked, .ok hook, .ok url⟩).toOption.join
  | .message text => (logMessage maxLevel ⟨.ok (), .ok text⟩).toOption.join

variable {maxLevel : Args.LogLevel} {params params' : LogParams} {r : Record}

theorem log_eq_some {level : Args.LogLevel} {name args : String}
    (h : log level name maxLevel args = some r) : r = ⟨"BurntSushi::rpc", name, args⟩ := by
  simp only [log] at h
  split at h
  · exact (Option.some.inj h).symm
  · cases h

theorem requestLine_inj {blocked blocked' : Bool} {hook hook' : FilterHook} {url url' : String}
    (h : requestLine blocked hook url = requestLine blocked' hook' url') :
    blocked = blocked' ∧ hook = hook' ∧ url = url' := by
  have hchars := congrArg String.toList h
  cases blocked <;> cases blocked' <;> cases hook <;> cases hook' <;>
    simp [requestLine, blockSign, FilterHook.fmt, String.toList_append] at hchars ⊢
  all_goals exact String.toList_inj.mp hchars

/-- A record tells which event it is of. -/
theorem record_inj (h : record maxLevel params = some r) (h' : record maxLevel params' = some r) :
    params = params' := by
  cases params with
  | request url blocked hook =>
    obtain rfl := log_eq_some h
    cases params' with
    | request url' blocked' hook' =>
      have hargs := congrArg Record.args (log_eq_some h')
      obtain ⟨rfl, rfl, rfl⟩ := requestLine_inj hargs
      rfl
    | message text =>
      have hlevel := congrArg Record.level (log_eq_some h')
      simp at hlevel
  | message text =>
    obtain rfl := log_eq_some h
    cases params' with
    | request url' blocked' hook' =>
      have hlevel := congrArg Record.level (log_eq_some h')
      simp at hlevel
    | message text' =>
      have hargs := congrArg Record.args (log_eq_some h')
      rw [show text = text' from hargs]

theorem relevant_of_record (h : record maxLevel params = some r) :
    GlobalLoggerHolder.Relevant r := by
  have htarget : r.target = "BurntSushi::rpc" := by
    cases params with
    | request url blocked hook => rw [log_eq_some h]
    | message text => rw [log_eq_some h]
  simp only [GlobalLoggerHolder.Relevant, htarget, appName]
  exact ⟨"::rpc".toList, by simp⟩

end LoggerImpl

end BurntSushi
