import BurntSushi.Blocker.Reload
import BurntSushi.Client

/-! When the client can rely on its config: a server created before any hook was initialized. -/
namespace BurntSushi.Client

open Lts Blocker

/-- What the `regex` crate says of a pattern that is a letter. -/
structure Literal (R : Regex) : Prop where
  compileNil : R.compile [] = .ok ()
  compile : R.compile ["a"] = .ok ()
  hit : R.isMatch "a" "a" = true
  miss : R.isMatch "a" "" = false

/-- Every list compiles, and a pattern matches itself. -/
def exactRegex : Regex := ⟨fun _ => .ok (), fun pattern request => pattern == request⟩

theorem literal_exactRegex : Literal exactRegex :=
  ⟨rfl, rfl, by simp [exactRegex], by simp [exactRegex]⟩

/-- A hook checks with a ruleset that this server does not set. -/
structure Stale (hook : FilterHook) (c : Capture) (ruleset : FilterRuleset) (x : Session) :
    Prop where
  captured : (x.dll.hooks.detour hook).captured? = some c
  foreign : c.filters ≠ x.server.filters
  ruleset : c.filters.load x.dll.store hook = ruleset

/-- Every ruleset that a closure or the server refers to has been created. -/
structure CellsFresh (s : Rpc) : Prop where
  captured : ∀ hook c, (s.dll.hooks.detour hook).captured? = some c →
    c.filters.rulesets < s.dll.store.fresh
  server : ∀ x, s.session = some x → x.server.filters.rulesets < s.dll.store.fresh

variable {R : Regex} {s t u v : Rpc} {l : Label} {hook : FilterHook} {store : Store}
  {channels : Channels} {pre post : List (Rpc × Label)} {x y : Session} {c : Capture}
  {ruleset : FilterRuleset} {config : FilterConfig} {w : Wire}

theorem fresh_handle (r : Request) : (x.handle R r).1.dll.store.fresh = x.dll.store.fresh := by
  cases r with
  | setRuleset params =>
    simp only [Session.handle, Session.setRuleset]
    split <;> rfl
  | _ => simp [Session.handle, Session.disableFiltering]

theorem store_step {k : SessionLabel} (hk : ∀ r, k ≠ .request r) (h : x.step R k = some y) :
    y.dll.store = x.dll.store ∧ y.server = x.server := by
  cases k with
  | request r => exact absurd rfl (hk r)
  | event hook params =>
    obtain ⟨c, -, rfl⟩ := Option.map_eq_some_iff.mp h
    exact ⟨rfl, rfl⟩
  | forward answers =>
    obtain ⟨tx, -, h⟩ := Option.bind_eq_some_iff.mp h
    obtain ⟨z, -, h⟩ := Option.bind_eq_some_iff.mp h
    obtain rfl := Option.some.inj h
    exact ⟨rfl, rfl⟩

theorem fresh_step (h : Rpc.Step R s l t) : s.dll.store.fresh ≤ t.dll.store.fresh := by
  cases h with
  | bound => exact Nat.le_succ _
  | request ht hp => exact Nat.le_of_eq (@fresh_handle R ⟨_, s.dll⟩ _).symm
  | log ht hp hk hu => exact Nat.le_of_eq (congrArg Store.fresh (store_step hk hu).1).symm
  | _ => exact Nat.le_refl _

theorem filters_of_sessionStep (h : Rpc.SessionStep R s y l) :
    ∃ x, s.session = some x ∧ y.server.filters = x.server.filters := by
  cases h with
  | same hs => exact ⟨y, hs, rfl⟩
  | off hs hr hy =>
    subst hy
    exact ⟨_, hs, rfl⟩
  | request hs hy =>
    subst hy
    exact ⟨_, hs, Session.filters_handle _⟩
  | log hs hk hy => exact ⟨_, hs, congrArg ServerImpl.filters (store_step hk hy).2⟩

theorem cellsFresh_step (hI : CellsFresh s) (h : Rpc.Step R s l t) : CellsFresh t where
  captured hook c hc := by
    refine Nat.lt_of_lt_of_le ?_ (fresh_step h)
    cases Rpc.hooksStep_of_step h with
    | @enable client env x hs ht =>
      rw [ht] at hc
      rcases Hooks.enable_follows env x.capture s.dll.hooks hook with h' | ⟨-, h'⟩
      · exact hI.captured hook c (h' ▸ hc)
      · obtain rfl := Option.some.inj (h'.symm.trans hc)
        exact hI.server x hs
    | disable hd he ht =>
      rw [ht, Hooks.captured?_disable] at hc
      exact hI.captured hook c hc
    | same hd he ht => exact hI.captured hook c (ht ▸ hc)
  server y hy := by
    by_cases hl : l.IsBind
    · cases h with
      | bindFailed => simp [Rpc.session, Rpc.setThread] at hy
      | bound =>
        obtain rfl := Option.some.inj hy
        exact Nat.lt_succ_self _
      | _ => exact absurd hl id
    · obtain ⟨x, hx, hf⟩ := filters_of_sessionStep (Rpc.sessionStep_of_step h hl hy)
      rw [hf]
      exact Nat.lt_of_lt_of_le (hI.server x hx) (fresh_step h)

theorem cellsFresh_trace (h : Trace (Rpc.step R) (Rpc.loaded store channels) pre u) :
    CellsFresh u := by
  refine h.invariant ⟨?_, ?_⟩ fun _ _ _ hI hs => cellsFresh_step hI (Rpc.step_cases hs)
  · intro hook c hc
    simp [Rpc.loaded, Dll.loaded, Hooks.unloaded, Detour.captured?] at hc
  · intro x hx
    simp [Rpc.session, Rpc.loaded] at hx

/-- What a closure captured before this server was created is not the server's own. -/
theorem stale_of_captured {listener : Except IoError Unit} {localAddr : Except IoError UInt16}
    (hpre : Trace (Rpc.step R) (Rpc.loaded store channels) pre u)
    (hb : Rpc.step R u (.bind listener localAddr) = some v)
    (hpost : Trace (Rpc.step R) v post s) (hn : Along (fun _ l => ¬ l.IsBind) post)
    (hx : s.session = some x) (hc : (u.dll.hooks.detour hook).captured? = some c) :
    Stale hook c (c.filters.load x.dll.store hook) x := by
  have hA := Rpc.attached_trace hb hpost hn hx
  have hlt := (cellsFresh_trace hpre).captured hook c hc
  refine ⟨hA.kept hook c hc, ?_, rfl⟩
  intro hf
  rw [hf, hA.filters] at hlt
  exact Nat.lt_irrefl _ hlt

theorem Stale.handle (hx : Stale hook c ruleset x) (r : Request) :
    Stale hook c ruleset (x.handle R r).1 where
  captured := by
    cases r with
    | registerLogger params => simpa [Session.handle] using hx.captured
    | setRuleset params => simpa [Session.handle] using hx.captured
    | enableFiltering env =>
      exact (Hooks.enable_follows env x.capture x.dll.hooks hook).captured hx.captured
    | disableFiltering env => exact (Hooks.captured?_disable env _ hook).trans hx.captured
  foreign := by
    rw [Session.filters_handle]
    exact hx.foreign
  ruleset := by
    rw [← hx.ruleset]
    cases r with
    | setRuleset params =>
      simp only [Session.handle, Session.setRuleset]
      split
      · rfl
      · have hne : c.filters.rulesets ≠ x.server.filters.rulesets :=
          fun h => hx.foreign (congrArg Filters.mk h)
        simp [Filters.load, Filters.replaceRuleset, hne]
    | _ => simp [Session.handle, Session.disableFiltering]

theorem Stale.kept (hx : Stale hook c ruleset x) (config : FilterConfig) (w : Wire) :
    Stale hook c ruleset (run R config w x).1.session :=
  run_invariant (P := Stale hook c ruleset) hx fun _ r h => h.handle r

theorem Stale.ready (hx : Stale hook c ruleset x) (he : x.dll.hooks.Enabled) :
    x.dll.hooks.detour hook = .ready c true := by
  have hc := hx.captured
  have hon := he hook
  cases hd : x.dll.hooks.detour hook with
  | uninit => simp [hd, Detour.captured?] at hc
  | ready c' enabled => simp_all [Detour.captured?, Detour.isEnabled]

theorem Stale.blocksHost_iff (hx : Stale .getAddrInfo c ruleset x) (he : Enforces R config x.dll)
    (bytes : List UInt8) {host : String} (hh : toStr bytes = some host) :
    config.BlocksHost R host ↔ ruleset.check R host = false := by
  rw [← he.host bytes host hh, Dll.blocksHost_eq (hx.ready he.enabled) hh, Filters.check,
    hx.ruleset, Bool.not_eq_true']

theorem Stale.blocksUrl_iff (hx : Stale .cefUrlRequestCreate c ruleset x)
    (he : Enforces R config x.dll) (url : CefString) :
    config.BlocksUrl R (String.ofList (fromUtf16Lossy url.units)) ↔
      ruleset.check R (String.ofList (fromUtf16Lossy url.units)) = false := by
  rw [← he.url url, Dll.blocksUrl_eq url (hx.ready he.enabled), Filters.check, hx.ruleset,
    Bool.not_eq_true']

/-- No ruleset serves a config that blocks a request and one that does not. -/
theorem Stale.not_guarantee (hR : Literal R) (hw : w.AllOk) (hx : Stale hook c ruleset x) :
    ¬ ∀ config, Guarantee R config w x (run R config w x).1 := by
  intro h
  have henforces : ∀ config : FilterConfig, R.compile config.allowlist = .ok () →
      R.compile config.denylist = .ok () → config.allowlist.length < 2 →
      config.denylist.length < 2 → Enforces R config (run R config w x).1.session.dll := by
    intro config hallow hdeny hlen hlen'
    exact (h config).enforces (succeeded_run hw hR.compileNil hallow hdeny
      (Nat.lt_trans hlen (by decide)) (Nat.lt_trans hlen' (by decide)) x)
  cases hook with
  | getAddrInfo =>
    have h₀ := (hx.kept ⟨[], []⟩ w).blocksHost_iff
      (henforces ⟨[], []⟩ hR.compileNil hR.compileNil (by decide) (by decide)) [] rfl
    have h₁ := (hx.kept ⟨["a"], []⟩ w).blocksHost_iff
      (henforces ⟨["a"], []⟩ hR.compile hR.compileNil (by decide) (by decide)) [] rfl
    have hblocks : FilterConfig.BlocksHost R ⟨["a"], []⟩ "" := ⟨by simp, by simp [hR.miss]⟩
    exact (h₀.mpr (h₁.mp hblocks)).1 rfl
  | cefUrlRequestCreate =>
    have h₀ := (hx.kept ⟨[], []⟩ w).blocksUrl_iff
      (henforces ⟨[], []⟩ hR.compileNil hR.compileNil (by decide) (by decide)) ⟨[0x61]⟩
    have h₁ := (hx.kept ⟨[], ["a"]⟩ w).blocksUrl_iff
      (henforces ⟨[], ["a"]⟩ hR.compileNil hR.compile (by decide) (by decide)) ⟨[0x61]⟩
    have hblocks : FilterConfig.BlocksUrl R ⟨[], ["a"]⟩
        (String.ofList (fromUtf16Lossy [0x61])) := ⟨"a", by simp, hR.hit⟩
    obtain ⟨pattern, hmem, -⟩ := h₀.mpr (h₁.mp hblocks)
    exact absurd hmem List.not_mem_nil

theorem installable_allOk (h : Hooks Capture) : h.Installable .allOk := ⟨.inr rfl, .inr rfl⟩

/-- A run that nothing outside the server gets in the way of. -/
def Wire.answered (logger : Logger) : Wire :=
  ⟨.ok (), .ok (), .ok (), logger, .answered, .answered, .answered, .answered, .allOk, .ok ()⟩

theorem allOk_answered (logger : Logger) : (Wire.answered logger).AllOk :=
  ⟨rfl, rfl, rfl, rfl, rfl, rfl, rfl,
    fun _ h => (Hooks.enable_eq_ok_iff HookEnv.switches_allOk h).mpr (installable_allOk h)⟩

/-- Let a server be created in state `u`. If no hook had been initialized in `u`, by an earlier
server of this load, each run of the client on this server keeps its guarantee, whatever the
server has handled before. Otherwise some config is not enforced although all requests for it
succeed, after every such history. -/
theorem run_guarantee_iff (R : Regex) (store : Store) (channels : Channels)
    {pre post : List (Rpc × Label)} {u v s : Rpc} {listener : Except IoError Unit}
    {localAddr : Except IoError UInt16} {x : Session}
    (hpre : Trace (Rpc.step R) (Rpc.loaded store channels) pre u)
    (hb : Rpc.step R u (.bind listener localAddr) = some v) (hpost : Trace (Rpc.step R) v post s)
    (hn : Along (fun _ l => ¬ l.IsBind) post) (hx : s.session = some x) :
    ((∀ hook, u.dll.hooks.detour hook = .uninit) →
      ∀ config w, Guarantee R config w x (run R config w x).1) ∧
    (Literal R → (∀ config w, Guarantee R config w x (run R config w x).1) →
      ∀ hook, u.dll.hooks.detour hook = .uninit) := by
  constructor
  · intro hu
    have hA := Rpc.attached_trace hb hpost hn hx
    apply guarantee_run
    intro hook c hc
    rw [hA.filters]
    exact (hA.captured hook c (by rw [hu]; rfl) hc).1
  · intro hR hall hook
    cases hd : u.dll.hooks.detour hook with
    | uninit => rfl
    | ready c enabled =>
      have hc : (u.dll.hooks.detour hook).captured? = some c := by rw [hd]; rfl
      have hstale := stale_of_captured hpre hb hpost hn hx hc
      exact absurd (fun config => hall config _) (hstale.not_guarantee hR (allOk_answered 0))

/-- The module after some steps from its loading, and after the bind that follows them. -/
def before (labels : List Label) : Rpc :=
  after (Rpc.step exactRegex) (Rpc.loaded .empty .empty) labels

def created (labels : List Label) : Rpc :=
  after (Rpc.step exactRegex) (before labels) [.bind (.ok ()) (.ok 4001)]

def connected (labels : List Label) : Rpc :=
  after (Rpc.step exactRegex) (created labels) Rpc.connect

theorem not_isBind_connect : Along (fun _ l => ¬ l.IsBind) (trail (Rpc.step R) s Rpc.connect) := by
  apply along_trail
  intro l hl _
  simp only [Rpc.connect, List.mem_cons, List.not_mem_nil, or_false] at hl
  rcases hl with rfl | rfl <;> exact id

/-- `libcef.dll` is not loaded. -/
def withoutLibcef : HookEnv :=
  { HookEnv.allOk with findLocalByName := fun name => .ok (name != "libcef.dll") }

/-- The first server of the load fails to enable the hooks, after one of them is initialized; it
is stopped, and `start_rpc` begins anew. -/
def failedRestart : List Label :=
  [.startRpc, .bind (.ok ()) (.ok 4000)] ++ Rpc.connect ++
    .request 0 (.enableFiltering withoutLibcef) ::
    [.stopRpc, .advance .allOk, .advance .allOk, .disconnectTask 0 .allOk, .seeSignal, .exit,
      .advance .allOk, .startRpc]

/-- On the first server every config is enforced, and on the second one some config is not. -/
theorem run_guarantee_iff_twoServers :
    (∃ x, (connected [.startRpc]).session = some x ∧
      Succeeded (run exactRegex ⟨["a"], ["b"]⟩ (.answered 0) x).1 ∧
      ∀ config w, Guarantee exactRegex config w x (run exactRegex config w x).1) ∧
    ∃ x, (created failedRestart).session = some x ∧
      ¬ ∀ config w, Guarantee exactRegex config w x (run exactRegex config w x).1 := by
  have hpre : ∀ labels, (Lts.run (Rpc.step exactRegex) (Rpc.loaded .empty .empty) labels).isSome →
      Trace (Rpc.step exactRegex) (Rpc.loaded .empty .empty)
        (trail (Rpc.step exactRegex) (Rpc.loaded .empty .empty) labels) (before labels) :=
    fun _ h => trace_after h
  constructor
  · have hb : Rpc.step exactRegex (before [.startRpc]) (.bind (.ok ()) (.ok 4001)) =
        some (created [.startRpc]) := rfl
    have hpost : Trace (Rpc.step exactRegex) (created [.startRpc])
        (trail (Rpc.step exactRegex) (created [.startRpc]) Rpc.connect) (connected [.startRpc]) :=
      trace_after rfl
    refine ⟨_, rfl, succeeded_run (allOk_answered 0) rfl rfl rfl (by decide) (by decide) _, ?_⟩
    exact (run_guarantee_iff exactRegex .empty .empty (hpre [.startRpc] rfl) hb hpost
      not_isBind_connect rfl).1 fun _ => rfl
  · have hb : Rpc.step exactRegex (before failedRestart) (.bind (.ok ()) (.ok 4001)) =
        some (created failedRestart) := rfl
    refine ⟨_, rfl, fun hall => ?_⟩
    have huninit := (run_guarantee_iff exactRegex .empty .empty (hpre failedRestart rfl) hb .refl
      along_nil rfl).2 literal_exactRegex hall .getAddrInfo
    cases huninit

/-- No server has enabled the hooks before, and all four requests of the client succeed; but the
allowlist is not enforced. -/
theorem not_enforces_failedRestart : ∃ pre u v x config w,
    Trace (Rpc.step exactRegex) (Rpc.loaded .empty .empty) pre u ∧
      Along (fun s l => ¬ s.EnablesHooks l) pre ∧
      Rpc.step exactRegex u (.bind (.ok ()) (.ok 4001)) = some v ∧ v.session = some x ∧
      Succeeded (run exactRegex config w x).1 ∧
      ¬ Enforces exactRegex config (run exactRegex config w x).1.session.dll := by
  refine ⟨trail (Rpc.step exactRegex) (Rpc.loaded .empty .empty) failedRestart,
    before failedRestart, created failedRestart, _, ⟨["a"], []⟩, .answered 0, trace_after ?_,
    ?_, rfl, rfl, succeeded_run (allOk_answered 0) rfl rfl rfl (by decide) (by decide) _, ?_⟩
  · rfl
  · refine along_trail_append rfl (along_trail ?_) (along_trail_cons rfl ?_
      (along_trail ?_))
    · intro l hl s
      simp only [Rpc.connect, List.cons_append, List.nil_append, List.mem_cons, List.not_mem_nil,
        or_false] at hl
      rcases hl with rfl | rfl | rfl | rfl <;> exact id
    · rintro ⟨x, hx, hok⟩
      obtain rfl := Option.some.inj hx
      cases hok
    · intro l hl s
      simp only [List.mem_cons, List.not_mem_nil, or_false] at hl
      rcases hl with rfl | rfl | rfl | rfl | rfl | rfl | rfl | rfl <;> exact id
  · intro he
    have hblocks : FilterConfig.BlocksHost exactRegex ⟨["a"], []⟩ "" :=
      ⟨by simp, by simp [literal_exactRegex.miss]⟩
    have hno := (he.host [] "" rfl).mpr hblocks
    cases hno

end BurntSushi.Client
