import BurntSushi.Except
import Mathlib.Logic.Function.Basic

/-! `args.rs`: the command line and the rules by which it is parsed. -/
namespace BurntSushi

/-- An `OsString` as Windows passes it: any sequence of 16-bit units. -/
abbrev OsString := List UInt16

/-- A text of ASCII characters. -/
def ascii (text : String) : OsString := text.toList.map fun c => c.val.toUInt16

/-- `OsString::into_string` succeeds: every surrogate has its partner. -/
def isUnicode : OsString → Bool
  | [] => true
  | [u] => u < 0xD800 || 0xDFFF < u
  | u :: v :: us =>
    if u < 0xD800 || 0xDFFF < u then isUnicode (v :: us)
    else u < 0xDC00 && 0xDC00 ≤ v && v ≤ 0xDFFF && isUnicode us

namespace Args

inductive LogLevel where
  | off
  | trace
  | debug
  | info
  | warn
  | error
  deriving DecidableEq, Repr

def LogLevel.all : List LogLevel := [.off, .trace, .debug, .info, .warn, .error]

def LogLevel.name : LogLevel → OsString
  | .off => ascii "off"
  | .trace => ascii "trace"
  | .debug => ascii "debug"
  | .info => ascii "info"
  | .warn => ascii "warn"
  | .error => ascii "error"

/-- The `value_enum` parser. -/
def LogLevel.parse (value : OsString) : Option LogLevel := all.find? (·.name = value)

/-- The arguments without a value. -/
inductive Flag where
  | console
  | noAttach
  | ignoreSingleton
  | shutdownWithSpotify
  | install
  | singletonWaitForShutdown
  | autostart
  | forceRestart
  deriving DecidableEq, Repr

def Flag.all : List Flag :=
  [.console, .noAttach, .ignoreSingleton, .shutdownWithSpotify, .install,
    .singletonWaitForShutdown, .autostart, .forceRestart]

def Flag.long : Flag → OsString
  | .console => ascii "console"
  | .noAttach => ascii "no-attach"
  | .ignoreSingleton => ascii "ignore-singleton"
  | .shutdownWithSpotify => ascii "shutdown-with-spotify"
  | .install => ascii "install"
  | .singletonWaitForShutdown => ascii "singleton-wait-for-shutdown"
  | .autostart => ascii "autostart"
  | .forceRestart => ascii "force-restart"

/-- The arguments with one value. -/
inductive Opt where
  | logLevel
  | logFile
  | blocker
  | filters
  | updateOldBin
  deriving DecidableEq, Repr

def Opt.all : List Opt := [.logLevel, .logFile, .blocker, .filters, .updateOldBin]

def Opt.long : Opt → OsString
  | .logLevel => ascii "log-level"
  | .logFile => ascii "log-file"
  | .blocker => ascii "blocker"
  | .filters => ascii "filters"
  | .updateOldBin => ascii "update-old-bin"

/-- The parser of a value: a log level, or any path that is not empty. -/
def Opt.accepts (value : OsString) : Opt → Bool
  | .logLevel => (LogLevel.parse value).isSome
  | _ => !value.isEmpty

/-- What the parser stops with, help and version included. -/
inductive ParseError where
  | help
  | version
  | unknownArgument (arg : OsString)
  | usedMultipleTimes (long : OsString)
  | missingValue (long : OsString)
  | invalidValue (long value : OsString)
  | unneededValue (long : OsString)
  | conflict
  deriving DecidableEq, Repr

/-- The arguments found so far. -/
structure ArgMatches where
  flags : Flag → Bool
  values : Opt → Option OsString

def ArgMatches.empty : ArgMatches := ⟨fun _ => false, fun _ => none⟩

namespace ArgMatches

def setFlag (m : ArgMatches) (f : Flag) : Except ParseError ArgMatches :=
  if m.flags f then .error (.usedMultipleTimes f.long)
  else .ok { m with flags := Function.update m.flags f true }

def setValue (m : ArgMatches) (o : Opt) (value : OsString) : Except ParseError ArgMatches :=
  if (m.values o).isSome then .error (.usedMultipleTimes o.long)
  else if o.accepts value then .ok { m with values := Function.update m.values o (some value) }
  else .error (.invalidValue o.long value)

end ArgMatches

/-- `-`. -/
def hyphen : UInt16 := 0x2D

/-- The `--` after which every argument is positional. -/
def escape : OsString := [hyphen, hyphen]

/-- `split_once('=')`. -/
def splitOnce : OsString → OsString × Option OsString
  | [] => ([], none)
  | u :: us =>
    if u = 0x3D then ([], some us)
    else
      let (name, value) := splitOnce us
      (u :: name, value)

/-- The name and the attached value of a long argument. -/
def toLong : OsString → Option (OsString × Option OsString)
  | u :: v :: rest =>
    if u = hyphen ∧ v = hyphen ∧ rest ≠ [] then some (splitOnce rest) else none
  | _ => none

/-- Whether an argument can be the value of the option before it. -/
def isValue : OsString → Bool
  | u :: _ :: _ => u ≠ hyphen
  | _ => true

/-- What an argument that is not long stops the parser with; no position takes a value. -/
def stop (arg : OsString) : ParseError :=
  match arg with
  | [u, v] =>
    if u = hyphen ∧ v = 0x68 then .help
    else if u = hyphen ∧ v = 0x56 then .version
    else .unknownArgument arg
  | _ => .unknownArgument arg

/-- What an unknown long name stops the parser with. -/
def stopLong (name : OsString) : ParseError :=
  if name = ascii "help" then .help
  else if name = ascii "version" then .version
  else .unknownArgument name

def parseArgs (m : ArgMatches) : List OsString → Except ParseError ArgMatches
  | [] => .ok m
  | arg :: rest =>
    if arg = escape then
      match rest with
      | [] => .ok m
      | next :: _ => .error (.unknownArgument next)
    else
      match toLong arg with
      | none => .error (stop arg)
      | some (name, value) =>
        match Flag.all.find? (·.long = name), Opt.all.find? (·.long = name), value, rest with
        | some f, _, none, rest => do parseArgs (← m.setFlag f) rest
        | some f, _, some _, _ => .error (.unneededValue f.long)
        | none, some o, some value, rest => do parseArgs (← m.setValue o value) rest
        | none, some o, none, value :: rest =>
          if isValue value then do parseArgs (← m.setValue o value) rest
          else .error (.missingValue o.long)
        | none, some o, none, [] => .error (.missingValue o.long)
        | none, none, _, _ => .error (stopLong name)

end Args

structure Args where
  console : Bool
  noAttach : Bool
  logLevel : Args.LogLevel
  logFile : Option OsString
  ignoreSingleton : Bool
  shutdownWithSpotify : Bool
  blocker : Option OsString
  filters : Option OsString
  install : Bool
  updateOldBin : Option OsString
  singletonWaitForShutdown : Bool
  autostart : Bool
  forceRestart : Bool
  deriving DecidableEq, Repr

namespace Args

/-- The fields of `Args`, the default log level included. -/
def ArgMatches.args (m : ArgMatches) : Args where
  console := m.flags .console
  noAttach := m.flags .noAttach
  logLevel := ((m.values .logLevel).bind LogLevel.parse).getD .debug
  logFile := m.values .logFile
  ignoreSingleton := m.flags .ignoreSingleton
  shutdownWithSpotify := m.flags .shutdownWithSpotify
  blocker := m.values .blocker
  filters := m.values .filters
  install := m.flags .install
  updateOldBin := m.values .updateOldBin
  singletonWaitForShutdown := m.flags .singletonWaitForShutdown
  autostart := m.flags .autostart
  forceRestart := m.flags .forceRestart

/-- `Args::parse` on the arguments after the name of the program. -/
def parse (args : List OsString) : Except ParseError Args := do
  let m ← parseArgs .empty args
  if m.flags .noAttach && m.flags .console then .error .conflict else .ok m.args

variable {m m' : ArgMatches} {arg next name value : OsString} {args rest extra : List OsString}
  {f : Flag} {o : Opt}

theorem ne_escape_of_toLong {x : OsString × Option OsString} (h : toLong arg = some x) :
    arg ≠ escape := by
  rintro rfl
  simp [toLong, escape] at h

theorem ne_escape_of_isValue (h : isValue value = true) : value ≠ escape := by
  rintro rfl
  simp [isValue, escape] at h

theorem parseArgs_flag (hl : toLong arg = some (name, none))
    (hf : Flag.all.find? (·.long = name) = some f) :
    parseArgs m (arg :: rest) = m.setFlag f >>= fun m => parseArgs m rest := by
  rw [parseArgs.eq_def]
  simp only [if_neg (ne_escape_of_toLong hl), hl, hf]

theorem parseArgs_attached (hl : toLong arg = some (name, some value))
    (hf : Flag.all.find? (·.long = name) = none) (ho : Opt.all.find? (·.long = name) = some o) :
    parseArgs m (arg :: rest) = m.setValue o value >>= fun m => parseArgs m rest := by
  rw [parseArgs.eq_def]
  simp only [if_neg (ne_escape_of_toLong hl), hl, hf, ho]

theorem parseArgs_separate (hl : toLong arg = some (name, none))
    (hf : Flag.all.find? (·.long = name) = none) (ho : Opt.all.find? (·.long = name) = some o)
    (hv : isValue value = true) :
    parseArgs m (arg :: value :: rest) = m.setValue o value >>= fun m => parseArgs m rest := by
  rw [parseArgs.eq_def]
  simp only [if_neg (ne_escape_of_toLong hl), hl, hf, ho, hv, if_true]

/-- Arguments after an accepted command line are parsed as if it had stood alone, unless it has an
escape: then nothing may follow. -/
theorem parseArgs_append (next : OsString) (extra : List OsString)
    (h : parseArgs m args = .ok m') :
    parseArgs m (args ++ next :: extra) =
      if escape ∈ args then .error (.unknownArgument next) else parseArgs m' (next :: extra) := by
  fun_induction parseArgs m args with
  | case1 m =>
    obtain rfl := Except.ok.inj h
    simp
  | case2 m =>
    rw [if_pos (List.mem_singleton_self _), List.singleton_append, parseArgs, if_pos rfl]
  | case5 m arg hne name f rest hf hl ih =>
    obtain ⟨m₁, hs, h⟩ := Except.bind_eq_ok.mp h
    rw [List.cons_append, parseArgs_flag hl hf, hs]
    simp only [List.mem_cons, Ne.symm hne, false_or]
    exact ih m₁ h
  | case7 m arg hne name o value rest ho hf hl ih =>
    obtain ⟨m₁, hs, h⟩ := Except.bind_eq_ok.mp h
    rw [List.cons_append, parseArgs_attached hl hf ho, hs]
    simp only [List.mem_cons, Ne.symm hne, false_or]
    exact ih m₁ h
  | case8 m arg hne name o value rest ho hf hv hl ih =>
    obtain ⟨m₁, hs, h⟩ := Except.bind_eq_ok.mp h
    rw [List.cons_append, List.cons_append, parseArgs_separate hl hf ho hv, hs]
    simp only [List.mem_cons, Ne.symm hne, (ne_escape_of_isValue hv).symm, false_or]
    exact ih m₁ h
  | _ => simp at h

theorem parse_eq_ok {opts : Args} : parse args = .ok opts ↔ ∃ m, parseArgs .empty args = .ok m ∧
    (m.flags .noAttach && m.flags .console) = false ∧ m.args = opts := by
  simp only [parse]
  rw [Except.bind_eq_ok]
  constructor
  · rintro ⟨m, hm, h⟩
    split at h
    · simp at h
    · rename_i hc
      exact ⟨m, hm, Bool.eq_false_iff.mpr hc, Except.ok.inj h⟩
  · rintro ⟨m, hm, hc, rfl⟩
    exact ⟨m, hm, by simp [hc]⟩

end Args

end BurntSushi
