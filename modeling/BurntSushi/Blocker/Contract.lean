import BurntSushi.Unwind
import BurntSushi.Blocker.Closures

/-! The closures of `hooks.rs` statement by statement: what they read through pointers, what
unwinds, and what the callers of the hooked functions get. -/
namespace BurntSushi.Blocker

open Unwind

/-- What a closure acts on: the log channel, whose receiver may be gone, and the number of CEF
strings it has freed. -/
structure HookState where
  receiver : Bool
  log : List LogParams
  freed : Nat

/-- `log_tx.send`, whose error is ignored. -/
def HookState.send (w : HookState) (events : List LogParams) : HookState :=
  if w.receiver then { w with log := w.log ++ events } else w

abbrev HookCode := Code PanicInfo HookState

def send (event : LogParams) : HookCode Unit := update (·.send [event])

/-- `cef_string_userfree_utf16_free`. -/
def free : HookCode Unit := update fun w => { w with freed := w.freed + 1 }

/-- What both closures do with a decoded request. -/
def checkRequest (check : Check) (hook : FilterHook) (url : String) : HookCode Bool := do
  let pass ← call (check hook url)
  send (.request url (!pass) hook)
  return !pass

def getAddrInfoBody (check : Check) (nodeName : Option (List UInt8)) : HookCode Bool := do
  let bytes ← deref nodeName
  match toStr bytes with
  | none => return false
  | some url => checkRequest check .getAddrInfo url

def cefUrlRequestCreateBody (check : Check) (request : Option CefRequest) : HookCode Bool := do
  if request.isNone then return false
  else
    let r ← deref request
    if r.getUrl.isNone then return false
    else
      let cefUrl ← deref r.getUrl
      free
      checkRequest check .cefUrlRequestCreate (String.ofList (fromUtf16Lossy cefUrl.units))

/-- What `block` is after `catch_unwind`. -/
def caught : Except PanicInfo Bool → HookCode Bool
  | .ok block => return block
  | .error e => do
    send (.message (panicInfoToString e))
    return false

/-- What both closures make of their body. -/
def hookClosure {ρ : Type} (body : HookCode Bool) (blocked forwarded : ρ) : HookCode ρ := do
  let res ← catchUnwind body
  let block ← caught res
  return if block then blocked else forwarded

def getAddrInfoClosure {β : Type} (check : Check) (original : Option (List UInt8) → β → Int)
    (nodeName : Option (List UInt8)) (rest : β) : HookCode Int :=
  hookClosure (getAddrInfoBody check nodeName) wsaHostNotFound (original nodeName rest)

def cefUrlRequestCreateClosure {β ρ : Type} (check : Check)
    (original : Option CefRequest → β → Option ρ) (request : Option CefRequest) (rest : β) :
    HookCode (Option ρ) :=
  hookClosure (cefUrlRequestCreateBody check request) none (original request rest)

/-- `Filters::check`, where `panics` says on which requests it unwinds. -/
def Check.ofFilters (R : Regex) (filters : Filters) (store : Store)
    (panics : FilterHook → String → Option PanicInfo) : Check := fun hook url =>
  match panics hook url with
  | some info => .error info
  | none => .ok (filters.check R store hook url)

/-- A URL has been decoded, and the ruleset of the hook rejects it. -/
def Rejects (R : Regex) (filters : Filters) (store : Store)
    (panics : FilterHook → String → Option PanicInfo) (hook : FilterHook)
    (decoded : Option String) : Prop :=
  ∃ url, decoded = some url ∧ panics hook url = none ∧
    (filters.load store hook).check R url = false

/-- The URL that a node name or a request decodes to. -/
def nodeUrl (nodeName : Option (List UInt8)) : Option String := nodeName.bind toStr

def requestUrl (request : Option CefRequest) : Option String := do
  let r ← request
  let url ← r.getUrl
  return String.ofList (fromUtf16Lossy url.units)

/-- The closure returns to its caller, with `blocked` exactly for a rejected URL, and logs no
other verdict than the one it applies. -/
structure Fulfils {ρ : Type} (closure : HookCode ρ) (hook : FilterHook) (decoded : Option String)
    (rejects : Prop) (blocked forwarded : ρ) : Prop where
  completes : ∀ w, ∃ r t, closure.run w = (.ok r, t)
  blocks : ∀ w r t, closure.run w = (.ok r, t) → rejects → r = blocked
  forwards : ∀ w r t, closure.run w = (.ok r, t) → ¬ rejects → r = forwarded
  logs : ∀ w r t, closure.run w = (.ok r, t) → ∃ events, t.log = w.log ++ events ∧
    ∀ url b k, .request url b k ∈ events → decoded = some url ∧ k = hook ∧ (b = true ↔ rejects)

variable {β ρ : Type} {check : Check} {hook : FilterHook} {url : String} {w t : HookState}
  {body : HookCode Bool} {blocked forwarded : ρ} {block : Bool} {info : PanicInfo}
  {nodeName : Option (List UInt8)} {request : Option CefRequest} {rest : β} {v : Verdict}

@[simp] theorem send_nil : w.send [] = w := by
  simp [HookState.send]

theorem exists_log_send (events : List LogParams) :
    ∃ sent, (w.send events).log = w.log ++ sent ∧ ∀ e ∈ sent, e ∈ events := by
  simp only [HookState.send]
  split
  · exact ⟨events, rfl, fun _ he => he⟩
  · exact ⟨[], by simp, by simp⟩

theorem run_checkRequest_ok {pass : Bool} (h : check hook url = .ok pass) :
    (checkRequest check hook url).run w = (.ok !pass, w.send [.request url (!pass) hook]) := by
  simp only [checkRequest, h]
  rw [run_bind_ok run_call_ok, send, run_bind_ok run_update, run_pure]

theorem run_checkRequest_error (h : check hook url = .error info) :
    (checkRequest check hook url).run w = (.error (.panic info), w) := by
  simp only [checkRequest, h]
  exact run_bind_error run_call_error

theorem run_caught_error :
    (caught (.error info)).run w = (.ok false, w.send [.message (panicInfoToString info)]) := by
  rw [caught, send, run_bind_ok run_update, run_pure]

theorem run_hookClosure_ok (h : body.run w = (.ok block, t)) :
    (hookClosure body blocked forwarded).run w =
      (.ok (if block then blocked else forwarded), t) := by
  rw [hookClosure, run_bind_ok (run_catchUnwind_ok h), caught, run_bind_ok run_pure, run_pure]

theorem run_hookClosure_panic (h : body.run w = (.error (.panic info), t)) :
    (hookClosure body blocked forwarded).run w =
      (.ok forwarded, t.send [.message (panicInfoToString info)]) := by
  rw [hookClosure, run_bind_ok (run_catchUnwind_panic h), run_bind_ok run_caught_error, run_pure]
  rfl

theorem run_hookClosure_nullRead (h : body.run w = (.error .nullRead, t)) :
    (hookClosure body blocked forwarded).run w = (.error .nullRead, t) := by
  rw [hookClosure, run_bind_error (run_catchUnwind_nullRead h)]

/-- A closure whose body ends as the check does gives the verdict on the request. -/
theorem run_hookClosure_check (h : body.run w = (checkRequest check hook url).run t) :
    (hookClosure body blocked forwarded).run w =
      (.ok (if (verdict check hook url).block then blocked else forwarded),
        t.send (verdict check hook url).log) := by
  cases hc : check hook url with
  | ok pass =>
    rw [run_checkRequest_ok hc] at h
    rw [run_hookClosure_ok h]
    simp only [verdict, hc]
  | error info =>
    rw [run_checkRequest_error hc] at h
    rw [run_hookClosure_panic h]
    simp [verdict, hc]

/-- The closure gives the verdict that `getAddrInfoHook` describes, unless it reads through null. -/
theorem run_getAddrInfoClosure {original : Option (List UInt8) → β → Int} :
    (getAddrInfoClosure check original nodeName rest).run w =
      match getAddrInfoHook check original nodeName rest with
      | none => (.error .nullRead, w)
      | some (res, log) => (.ok res, w.send log) := by
  cases nodeName with
  | none => exact run_hookClosure_nullRead (run_bind_error run_deref_none)
  | some bytes =>
    have hbody : (getAddrInfoBody check (some bytes)).run w =
        Code.run (match toStr bytes with
          | none => return false
          | some url => checkRequest check .getAddrInfo url) w :=
      run_bind_ok run_deref_some
    cases hd : toStr bytes with
    | none =>
      simp only [hd] at hbody
      rw [getAddrInfoClosure, run_hookClosure_ok hbody]
      simp [getAddrInfoHook, getAddrInfoVerdict, hd]
    | some url =>
      simp only [hd] at hbody
      rw [getAddrInfoClosure, run_hookClosure_check hbody]
      simp [getAddrInfoHook, getAddrInfoVerdict, hd]

/-- The state in which the closure checks a request: its URL has been freed. -/
def HookState.freeUrl (w : HookState) (request : Option CefRequest) : HookState :=
  if (requestUrl request).isSome then { w with freed := w.freed + 1 } else w

theorem run_cefUrlRequestCreateClosure {original : Option CefRequest → β → Option ρ} :
    (cefUrlRequestCreateClosure check original request rest).run w =
      (.ok (cefUrlRequestCreateHook check original request rest).1,
        (w.freeUrl request).send (cefUrlRequestCreateHook check original request rest).2) := by
  rcases request with _ | ⟨_ | url⟩
  · have hbody : (cefUrlRequestCreateBody check none).run w = (.ok false, w) := rfl
    rw [cefUrlRequestCreateClosure, run_hookClosure_ok hbody]
    simp [cefUrlRequestCreateHook, cefUrlRequestCreateVerdict, HookState.freeUrl, requestUrl]
  · have hbody : (cefUrlRequestCreateBody check (some ⟨none⟩)).run w = (.ok false, w) := rfl
    rw [cefUrlRequestCreateClosure, run_hookClosure_ok hbody]
    simp [cefUrlRequestCreateHook, cefUrlRequestCreateVerdict, HookState.freeUrl, requestUrl]
  · have hbody : (cefUrlRequestCreateBody check (some ⟨some url⟩)).run w =
        (checkRequest check .cefUrlRequestCreate (String.ofList (fromUtf16Lossy url.units))).run
          { w with freed := w.freed + 1 } := rfl
    rw [cefUrlRequestCreateClosure, run_hookClosure_check hbody]
    rfl

/-- The verdict on what a call decodes to. -/
def decidedVerdict (check : Check) (hook : FilterHook) : Option String → Verdict
  | none => ⟨false, []⟩
  | some url => verdict check hook url

theorem getAddrInfoHook_eq {original : Option (List UInt8) → β → Int} (bytes : List UInt8) :
    getAddrInfoHook check original (some bytes) rest =
      let v := decidedVerdict check .getAddrInfo (nodeUrl (some bytes))
      some (if v.block then wsaHostNotFound else original (some bytes) rest, v.log) := by
  have hv : getAddrInfoVerdict check (some bytes) =
      some (decidedVerdict check .getAddrInfo (nodeUrl (some bytes))) := by
    simp only [getAddrInfoVerdict, nodeUrl, Option.bind_some, Option.map_some]
    cases toStr bytes <;> rfl
  simp only [getAddrInfoHook, hv, Option.map_some]

theorem cefUrlRequestCreateHook_eq {original : Option CefRequest → β → Option ρ} :
    cefUrlRequestCreateHook check original request rest =
      let v := decidedVerdict check .cefUrlRequestCreate (requestUrl request)
      (if v.block then none else original request rest, v.log) := by
  rcases request with _ | ⟨_ | url⟩ <;> rfl

section Filters

variable {R : Regex} {filters : Filters} {store : Store}
  {panics : FilterHook → String → Option PanicInfo} {decoded : Option String}

theorem block_decidedVerdict :
    (decidedVerdict (.ofFilters R filters store panics) hook decoded).block = true ↔
      Rejects R filters store panics hook decoded := by
  cases decoded with
  | none => simp [decidedVerdict, Rejects]
  | some url =>
    cases hp : panics hook url with
    | some info => simp [decidedVerdict, verdict, Check.ofFilters, Rejects, hp]
    | none => simp [decidedVerdict, verdict, Check.ofFilters, Rejects, Filters.check, hp]

/-- A logged request is the decoded one, with the verdict that is applied to it. -/
theorem mem_log_decidedVerdict {b : Bool} {k : FilterHook}
    (h : .request url b k ∈ (decidedVerdict check hook decoded).log) :
    decoded = some url ∧ k = hook ∧ b = (decidedVerdict check hook decoded).block := by
  cases decoded with
  | none => simp [decidedVerdict] at h
  | some decoded =>
    simp only [decidedVerdict, verdict] at h ⊢
    cases hc : check hook decoded with
    | ok pass =>
      simp only [hc, List.mem_singleton, LogParams.request.injEq] at h
      obtain ⟨rfl, rfl, rfl⟩ := h
      exact ⟨rfl, rfl, rfl⟩
    | error info => simp [hc] at h

/-- A closure that always returns with the verdict on what the call decodes to. -/
theorem fulfils_of_run {closure : HookCode ρ} (prepare : HookState → HookState)
    (hprepare : ∀ w, (prepare w).log = w.log)
    (hrun : ∀ w, closure.run w =
      let v := decidedVerdict (.ofFilters R filters store panics) hook decoded
      (.ok (if v.block then blocked else forwarded), (prepare w).send v.log)) :
    Fulfils closure hook decoded (Rejects R filters store panics hook decoded) blocked
      forwarded := by
  constructor
  · exact fun w => ⟨_, _, hrun w⟩
  · intro w r t h hrejects
    rw [hrun w] at h
    simp only [Prod.mk.injEq, Except.ok.injEq, block_decidedVerdict.mpr hrejects, if_true] at h
    exact h.1.symm
  · intro w r t h hrejects
    rw [hrun w] at h
    simp only [Prod.mk.injEq, Except.ok.injEq, if_neg (mt block_decidedVerdict.mp hrejects)] at h
    exact h.1.symm
  · intro w r t h
    rw [hrun w] at h
    obtain ⟨events, hlog, hmem⟩ := exists_log_send (w := prepare w)
      (decidedVerdict (.ofFilters R filters store panics) hook decoded).log
    have ht := (Prod.mk.inj h).2
    subst ht
    refine ⟨events, by rw [hlog, hprepare], ?_⟩
    intro url b k he
    obtain ⟨hurl, hk, hb⟩ := mem_log_decidedVerdict (hmem _ he)
    exact ⟨hurl, hk, hb ▸ block_decidedVerdict⟩

theorem fulfils_getAddrInfo {original : Option (List UInt8) → β → Int} (bytes : List UInt8) :
    Fulfils (getAddrInfoClosure (.ofFilters R filters store panics) original (some bytes) rest)
      .getAddrInfo (nodeUrl (some bytes))
      (Rejects R filters store panics .getAddrInfo (nodeUrl (some bytes)))
      wsaHostNotFound (original (some bytes) rest) := by
  apply fulfils_of_run id fun _ => rfl
  intro w
  rw [run_getAddrInfoClosure, getAddrInfoHook_eq]
  rfl

theorem fulfils_cefUrlRequestCreate {original : Option CefRequest → β → Option ρ} :
    Fulfils (cefUrlRequestCreateClosure (.ofFilters R filters store panics) original request rest)
      .cefUrlRequestCreate (requestUrl request)
      (Rejects R filters store panics .cefUrlRequestCreate (requestUrl request))
      none (original request rest) := by
  apply fulfils_of_run (HookState.freeUrl · request)
  · intro w
    simp only [HookState.freeUrl]
    split <;> rfl
  · intro w
    rw [run_cefUrlRequestCreateClosure, cefUrlRequestCreateHook_eq]

theorem not_fulfils_null {original : Option (List UInt8) → β → Int} {decoded : Option String}
    {rejects : Prop} :
    ¬ Fulfils (getAddrInfoClosure check original none rest) hook decoded rejects wsaHostNotFound
      (original none rest) := by
  intro h
  obtain ⟨r, t, hr⟩ := h.completes ⟨true, [], 0⟩
  rw [run_getAddrInfoClosure] at hr
  simp [getAddrInfoHook, getAddrInfoVerdict] at hr

end Filters

/-- The `getaddrinfo` closure does what its callers rely on exactly for a node name that is not
null, the `cef_urlrequest_create` closure for every request. -/
theorem closures_fulfil_iff {β γ ρ : Type} (R : Regex) (filters : Filters) (store : Store)
    (panics : FilterHook → String → Option PanicInfo)
    (getaddrinfo : Option (List UInt8) → β → Int) (nodeName : Option (List UInt8)) (rest : β)
    (create : Option CefRequest → γ → Option ρ) (request : Option CefRequest) (others : γ) :
    (Fulfils (getAddrInfoClosure (.ofFilters R filters store panics) getaddrinfo nodeName rest)
        .getAddrInfo (nodeUrl nodeName)
        (Rejects R filters store panics .getAddrInfo (nodeUrl nodeName))
        wsaHostNotFound (getaddrinfo nodeName rest) ↔ nodeName ≠ none) ∧
      Fulfils (cefUrlRequestCreateClosure (.ofFilters R filters store panics) create request others)
        .cefUrlRequestCreate (requestUrl request)
        (Rejects R filters store panics .cefUrlRequestCreate (requestUrl request))
        none (create request others) := by
  refine ⟨?_, fulfils_cefUrlRequestCreate⟩
  cases nodeName with
  | none => simp [not_fulfils_null]
  | some bytes => simp [fulfils_getAddrInfo]

/-- A service is looked up without a node name. -/
theorem closures_fulfil_service_only :
    ¬ ∀ (nodeName : Option (List UInt8)) (service : String),
      Fulfils
        (getAddrInfoClosure (.ofFilters quietRegex ⟨0⟩ .empty fun _ _ => none) (fun _ _ => 0)
          nodeName service)
        .getAddrInfo (nodeUrl nodeName)
        (Rejects quietRegex ⟨0⟩ .empty (fun _ _ => none) .getAddrInfo (nodeUrl nodeName))
        wsaHostNotFound 0 :=
  fun h => not_fulfils_null (h none "http")

end BurntSushi.Blocker
