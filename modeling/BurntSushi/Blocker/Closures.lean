import BurntSushi.Text
import BurntSushi.Blocker.Filters

/-! The closures that `hooks.rs` puts in front of the two hooked functions. -/
namespace BurntSushi.Blocker

/-- An event on the log channel. -/
inductive LogParams where
  | message (text : String)
  | request (url : String) (blocked : Bool) (hook : FilterHook)
  deriving DecidableEq, Repr

/-- What a panic carries, as far as `panic_info_to_string` tells it apart. -/
inductive PanicInfo where
  | str (text : String)
  | string (text : String)
  | other
  deriving DecidableEq, Repr

def panicInfoToString : PanicInfo → String
  | .str text => text
  | .string text => text
  | .other => "Unknown panic"

/-- `CStr::to_str` on the bytes before the terminating null. -/
def toStr (bytes : List UInt8) : Option String := String.fromUTF8? ⟨bytes.toArray⟩

/-- A CEF string with its UTF-16 units. -/
structure CefString where
  units : List UInt16

/-- A CEF request; `getUrl` is `none` where `get_url` returns null. -/
structure CefRequest where
  getUrl : Option CefString

/-- The verdict of a closure on one call with the events it logs. -/
structure Verdict where
  block : Bool
  log : List LogParams
  deriving DecidableEq, Repr

/-- A check that returns, or unwinds with what the panic carries. -/
abbrev Check := FilterHook → String → Except PanicInfo Bool

/-- The closure's work on a decoded request, with the `catch_unwind` around it. -/
def verdict (check : Check) (hook : FilterHook) (url : String) : Verdict :=
  match check hook url with
  | .ok pass => ⟨!pass, [.request url (!pass) hook]⟩
  | .error e => ⟨false, [.message (panicInfoToString e)]⟩

/-- `none` is a read through a null pointer, which no `catch_unwind` stops. -/
def getAddrInfoVerdict (check : Check) (nodeName : Option (List UInt8)) : Option Verdict :=
  nodeName.map fun bytes =>
    match toStr bytes with
    | none => ⟨false, []⟩
    | some url => verdict check .getAddrInfo url

def cefUrlRequestCreateVerdict (check : Check) (request : Option CefRequest) : Verdict :=
  match request with
  | none => ⟨false, []⟩
  | some request =>
    match request.getUrl with
    | none => ⟨false, []⟩
    | some url => verdict check .cefUrlRequestCreate (String.ofList (fromUtf16Lossy url.units))

/-- `WSAHOST_NOT_FOUND`. -/
def wsaHostNotFound : Int := 11001

/-- The `getaddrinfo` closure; `original` is the hooked function and `rest` its other
arguments. -/
def getAddrInfoHook {β : Type} (check : Check) (original : Option (List UInt8) → β → Int)
    (nodeName : Option (List UInt8)) (rest : β) : Option (Int × List LogParams) :=
  (getAddrInfoVerdict check nodeName).map fun v =>
    (if v.block then wsaHostNotFound else original nodeName rest, v.log)

/-- The `cef_urlrequest_create` closure; a result of `none` is the null pointer. -/
def cefUrlRequestCreateHook {β ρ : Type} (check : Check)
    (original : Option CefRequest → β → Option ρ) (request : Option CefRequest) (rest : β) :
    Option ρ × List LogParams :=
  let v := cefUrlRequestCreateVerdict check request
  (if v.block then none else original request rest, v.log)

/-- A check that never panics, as `Filters::check` is. -/
def Check.total (check : FilterHook → String → Bool) : Check := fun hook url =>
  .ok (check hook url)

variable {check : FilterHook → String → Bool} {hook : FilterHook} {url : String}

@[simp] theorem block_verdict_total : (verdict (.total check) hook url).block = !check hook url :=
  rfl

/-- A decoded host name is blocked exactly when the check rejects it. -/
theorem getAddrInfoVerdict_of_decoded {bytes : List UInt8} (hu : toStr bytes = some url) :
    getAddrInfoVerdict (.total check) (some bytes) =
      some ⟨!check .getAddrInfo url, [.request url (!check .getAddrInfo url) .getAddrInfo]⟩ := by
  simp [getAddrInfoVerdict, hu, verdict, Check.total]

theorem cefUrlRequestCreateVerdict_of_decoded (url : CefString) :
    cefUrlRequestCreateVerdict (.total check) (some ⟨some url⟩) =
      verdict (.total check) .cefUrlRequestCreate (String.ofList (fromUtf16Lossy url.units)) :=
  rfl

end BurntSushi.Blocker
