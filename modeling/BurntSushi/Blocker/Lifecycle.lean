import BurntSushi.Blocker.Unload

/-! `RPC_STATE` and the life of the RPC thread over any sequence of calls. -/
namespace BurntSushi.Blocker

open Lts

namespace RpcThread

def Listening (th : RpcThread) : Prop := ∃ server, th.phase = .listening server

/-- `run_rpc` has returned an error. -/
def Dead (th : RpcThread) : Prop := th.phase = .returned false ∨ th.phase = .ended false

/-- How a step of the thread changes it; `io` is whether its socket calls succeed. -/
inductive Moves (io : Prop) (th th' : RpcThread) : Prop
  | bound {addr : SocketAddrV4} (hp : th.phase = .binding) (hp' : th'.Listening)
      (he : th'.endPoint = .sent addr) (hg : th'.signal = th.signal)
  | serves (hp : th.Listening) (hp' : th'.Listening) (he : th'.endPoint = th.endPoint)
      (hg : th'.signal = th.signal)
  | returns (hp : th.Listening) (hs : th.signal ≠ .unsent) (hp' : th'.phase = .returned true)
      (hg : th'.signal = th.signal)
  | exits {ok : Bool} (hp : th.phase = .returned ok) (hp' : th'.phase = .ended ok)
      (he : th'.endPoint = th.endPoint) (hg : th'.signal = th.signal)
  | fails (hn : ¬ io) (hp : th.phase = .binding ∨ th.Listening) (hp' : th'.phase = .returned false)
      (he : th.phase = .binding → th'.endPoint = .dropped)
      (he' : th.Listening → th'.endPoint = th.endPoint)

variable {th th' : RpcThread}

theorem Listening.not_returned {ok : Bool} (h : th.Listening) :
    th.phase ≠ .returned ok := by
  rintro hp
  obtain ⟨server, hl⟩ := h
  simp [hp] at hl

theorem Listening.not_binding (h : th.Listening) : th.phase ≠ .binding := by
  rintro hp
  obtain ⟨server, hl⟩ := h
  simp [hp] at hl

theorem Dead.not_listening (h : th.Dead) : ¬ th.Listening := by
  rintro ⟨server, hl⟩
  simp [Dead, hl] at h

/-- A listening thread that has not been signalled stays one. -/
theorem Moves.serves_of_listening (hm : th.Moves True th') (hl : th.Listening)
    (hg : th.signal = .unsent) :
    th'.Listening ∧ th'.endPoint = th.endPoint ∧ th'.signal = .unsent := by
  cases hm with
  | bound hp => exact absurd hp hl.not_binding
  | serves _ hl' he hg' => exact ⟨hl', he, hg'.trans hg⟩
  | returns _ hs => exact absurd hg hs
  | exits hp => exact absurd hp hl.not_returned
  | fails hn => exact absurd trivial hn

end RpcThread

/-- No call of the socket API fails in the step. -/
def Label.NoIoError : Label → Prop
  | .bind listener localAddr => ∃ port, (do listener; localAddr : Except IoError UInt16) = .ok port
  | .accept _ stream nodelay => (do stream; nodelay : Except IoError Unit) = .ok ()
  | _ => True

/-- The steps of `start_rpc` and `stop_rpc`; the others are those of the thread. -/
def Label.IsCall : Label → Prop
  | .startRpc => True
  | .stopRpc => True
  | .advance _ => True
  | _ => False

namespace Rpc

def NoIoError (_ : Rpc) (l : Label) : Prop := l.NoIoError

/-- A thread that accepts connections on the address is alive. -/
def ListensOn (s : Rpc) (addr : SocketAddrV4) : Prop :=
  ∃ th, s.thread = some th ∧ th.Listening ∧ th.endPoint = .sent addr

/-- What callers of `start_rpc` and `stop_rpc` rely on when a call comes back. -/
structure Sound (s : Rpc) : Prop where
  lock : s.outcome ≠ some (.panicked .poisonedLock)
  signal : s.outcome ≠ some (.panicked .disconnectSignal)
  started : ∀ addr, s.outcome = some (.started addr) → s.ListensOn addr

/-- A step of the RPC thread, which leaves the caller's side alone. -/
structure ThreadStep (io : Prop) (s t : Rpc) (th th' : RpcThread) : Prop where
  before : s.thread = some th
  after : t.thread = some th'
  moves : th.Moves io th'
  call : t.call = s.call
  state : t.state = s.state
  poisoned : t.poisoned = s.poisoned
  outcome : t.outcome = none

variable {R : Regex} {s t : Rpc} {l : Label} {th th' : RpcThread} {store : Store}
  {channels : Channels} {tr : List (Rpc × Label)}

theorem threadStep_setSession {io : Prop} {server : ServerImpl} {u : Session}
    (ht : s.thread = some th) (hp : th.phase = .listening server) :
    ThreadStep io s (s.setSession u) th { th with phase := .listening u.server } where
  before := ht
  after := by simp [setSession, ht]
  moves := .serves ⟨server, hp⟩ ⟨_, rfl⟩ rfl rfl
  call := rfl
  state := rfl
  poisoned := rfl
  outcome := rfl

/-- Every step but those of a call is one of the thread. -/
theorem threadStep_of_step (h : Step R s l t) (hl : ¬ l.IsCall) :
    ∃ th th', ThreadStep l.NoIoError s t th th' := by
  cases h with
  | bindFailed ht hp hb =>
    refine ⟨_, _, ht, rfl, .fails ?_ (.inl hp) rfl (fun _ => rfl) ?_, rfl, rfl, rfl, rfl⟩
    · simp [Label.NoIoError, hb]
    · rintro ⟨server, hl⟩
      simp [hp] at hl
  | bound ht hp =>
    exact ⟨_, _, ht, rfl, .bound hp ⟨_, rfl⟩ rfl rfl, rfl, rfl, rfl, rfl⟩
  | acceptFailed ht hp ha =>
    refine ⟨_, _, ht, rfl, .fails ?_ (.inr ⟨_, hp⟩) rfl ?_ (fun _ => rfl), rfl, rfl, rfl, rfl⟩
    · simp [Label.NoIoError, ha]
    · intro hb
      simp [hp] at hb
  | accepted ht hp hn =>
    exact ⟨_, _, ht, rfl, .serves ⟨_, hp⟩ ⟨_, hp⟩ rfl rfl, rfl, rfl, rfl, rfl⟩
  | request ht hp hm => exact ⟨_, _, threadStep_setSession ht hp⟩
  | log ht hp hl hu => exact ⟨_, _, threadStep_setSession ht hp⟩
  | disconnectTask ht hp hg hm =>
    exact ⟨_, _, ht, rfl, .serves ⟨_, hp⟩ ⟨_, hp⟩ rfl rfl, rfl, rfl, rfl, rfl⟩
  | seeSignal ht hp hg =>
    exact ⟨_, _, ht, rfl, .returns ⟨_, hp⟩ hg rfl rfl, rfl, rfl, rfl, rfl⟩
  | exit ht hp => exact ⟨_, _, ht, rfl, .exits hp rfl rfl rfl, rfl, rfl, rfl, rfl⟩
  | _ => exact absurd trivial hl

/-- Where the calls and the thread are while every socket call succeeds. -/
inductive Healthy (s : Rpc) : Prop
  | stopped (hp : s.poisoned = false) (hc : s.call = .idle) (hs : s.state = none)
      (ht : s.thread = none ∨ s.ThreadEnded)
  | starting {th : RpcThread} (hp : s.poisoned = false) (hc : s.call = .awaitEndPoint)
      (hs : s.state = none) (ht : s.thread = some th)
      (hb : th.phase = .binding ∧ th.endPoint = .pending ∨
        th.Listening ∧ ∃ addr, th.endPoint = .sent addr)
      (hg : th.signal = .unsent)
  | running {addr : SocketAddrV4} {th : RpcThread} (hp : s.poisoned = false)
      (hc : s.call = .idle) (hs : s.state = some ⟨addr⟩) (ht : s.thread = some th)
      (hl : th.Listening) (he : th.endPoint = .sent addr) (hg : th.signal = .unsent)
  | stopping {state : RpcState} {th : RpcThread} (hp : s.poisoned = false)
      (hc : s.call = .disabling state ∨ s.call = .signalling state) (hs : s.state = none)
      (ht : s.thread = some th) (hl : th.Listening) (hg : th.signal = .unsent)
  | joining {state : RpcState} {th : RpcThread} (hp : s.poisoned = false)
      (hc : s.call = .joining state) (hs : s.state = none) (ht : s.thread = some th)
      (hl : th.Listening ∨ th.phase = .returned true ∨ th.phase = .ended true)

theorem healthy_threadStep (hI : Healthy s) (h : ThreadStep True s t th th') : Healthy t := by
  obtain ⟨hb, ha, hm, hc', hs', hp', -⟩ := h
  cases hI with
  | stopped hp hc hs ht =>
    rcases ht with ht | ⟨th₁, ht, he⟩
    · simp [hb] at ht
    · obtain rfl := Option.some.inj (hb.symm.trans ht)
      cases hm <;> simp_all [RpcThread.Listening]
  | starting hp hc hs ht hl hg =>
    obtain rfl := Option.some.inj (hb.symm.trans ht)
    rcases hl with ⟨hb, hpend⟩ | ⟨hl, addr, he⟩
    · cases hm with
      | bound _ hl' he' hg' =>
        exact .starting (hp'.trans hp) (hc'.trans hc) (hs'.trans hs) ha (.inr ⟨hl', _, he'⟩)
          (hg'.trans hg)
      | serves hl => exact absurd hb hl.not_binding
      | returns hl => exact absurd hb hl.not_binding
      | exits hp => simp [hb] at hp
      | fails hn => exact absurd trivial hn
    · obtain ⟨hl', he', hg'⟩ := hm.serves_of_listening hl hg
      exact .starting (hp'.trans hp) (hc'.trans hc) (hs'.trans hs) ha
        (.inr ⟨hl', addr, he'.trans he⟩) hg'
  | running hp hc hs ht hl he hg =>
    obtain rfl := Option.some.inj (hb.symm.trans ht)
    obtain ⟨hl', he', hg'⟩ := hm.serves_of_listening hl hg
    exact .running (hp'.trans hp) (hc'.trans hc) (hs'.trans hs) ha hl' (he'.trans he) hg'
  | stopping hp hc hs ht hl hg =>
    obtain rfl := Option.some.inj (hb.symm.trans ht)
    obtain ⟨hl', -, hg'⟩ := hm.serves_of_listening hl hg
    exact .stopping (hp'.trans hp) (by rwa [hc']) (hs'.trans hs) ha hl' hg'
  | joining hp hc hs ht hl =>
    obtain rfl := Option.some.inj (hb.symm.trans ht)
    refine .joining (hp'.trans hp) (hc'.trans hc) (hs'.trans hs) ha ?_
    cases hm with
    | bound hp => simp [hp, RpcThread.Listening] at hl
    | serves _ hl' => exact .inl hl'
    | returns _ _ hr => exact .inr (.inl hr)
    | exits hr he =>
      obtain rfl : _ = true := by simpa [hr, RpcThread.Listening] using hl
      exact .inr (.inr he)
    | fails hn => exact absurd trivial hn

theorem Healthy.not_poisoned (hI : Healthy s) : s.poisoned = false := by
  cases hI <;> assumption

theorem sound_of_outcome_none (h : t.outcome = none) : Sound t :=
  ⟨by simp [h], by simp [h], by simp [h]⟩

theorem healthy_call (hI : Healthy s) (h : Step R s l t) (hl : l.IsCall)
    (hsw : s.Switches l) : Healthy t ∧ Sound t := by
  have hpois := hI.not_poisoned
  cases h with
  | startPoisoned hc hp => simp [hpois] at hp
  | stopPoisoned hc hp => simp [hpois] at hp
  | startRunning hc hp hs =>
    cases hI with
    | running _ _ hs' ht hl he hg =>
      obtain rfl := Option.some.inj (hs.symm.trans hs')
      exact ⟨.running hp rfl hs ht hl he hg, by simp [ret], by simp [ret], fun addr ha => by
        obtain rfl : _ = addr := by simpa [ret] using ha
        exact ⟨_, ht, hl, he⟩⟩
    | _ => simp_all
  | spawn hc hp hs =>
    exact ⟨.starting hp rfl hs rfl (.inl ⟨rfl, rfl⟩) rfl, sound_of_outcome_none rfl⟩
  | take hc hp hs =>
    cases hI with
    | running _ _ hs' ht hl he hg =>
      exact ⟨.stopping hp (.inl rfl) rfl ht hl hg, sound_of_outcome_none rfl⟩
    | _ => simp_all
  | stopNone hc hp hs =>
    cases hI with
    | stopped _ _ _ ht => exact ⟨.stopped hp rfl hs ht, by simp [ret], by simp [ret], by simp [ret]⟩
    | _ => simp_all
  | started hc ht he =>
    cases hI with
    | starting hp _ hs ht' hb hg =>
      obtain rfl := Option.some.inj (ht.symm.trans ht')
      have hl := (hb.resolve_left (by simp [he])).1
      exact ⟨.running hp rfl rfl ht hl he hg, by simp [ret], by simp [ret], fun addr ha => by
        obtain rfl : _ = addr := by simpa [ret] using ha
        exact ⟨_, ht, hl, he⟩⟩
    | _ => simp_all
  | endPointDropped hc ht he => cases hI <;> simp_all
  | disabled hc hd =>
    cases hI with
    | stopping hp _ hs ht hl hg =>
      exact ⟨.stopping hp (.inr rfl) hs ht hl hg, sound_of_outcome_none rfl⟩
    | _ => simp_all
  | disableFailed hc hd =>
    rw [Hooks.disable_eq_off (hsw _ rfl)] at hd
    simp at hd
  | signalled hc ht hr =>
    cases hI with
    | stopping hp _ hs ht' hl hg =>
      obtain rfl := Option.some.inj (ht.symm.trans ht')
      exact ⟨.joining hp rfl hs rfl (.inl hl), sound_of_outcome_none rfl⟩
    | _ => simp_all
  | signalFailed hc ht hr =>
    cases hI with
    | stopping hp _ hs ht' hl hg =>
      obtain rfl := Option.some.inj (ht.symm.trans ht')
      obtain ⟨server, hl⟩ := hl
      simp [RpcThread.hasReceiver, hl] at hr
    | _ => simp_all
  | joined hc ht he =>
    cases hI with
    | joining hp _ hs _ _ =>
      exact ⟨.stopped hp rfl hs (.inr ⟨_, ht, he⟩), by simp [ret], by simp [ret], by simp [ret]⟩
    | _ => simp_all
  | joinFailed hc ht he => cases hI <;> simp_all [RpcThread.Listening]
  | _ => exact absurd hl id

theorem healthy_step (hI : Healthy s) (hsw : s.Switches l) (hio : l.NoIoError)
    (hs : step R s l = some t) : Healthy t ∧ Sound t := by
  by_cases hl : l.IsCall
  · exact healthy_call hI (step_cases hs) hl hsw
  · obtain ⟨th, th', h⟩ := threadStep_of_step (step_cases hs) hl
    simp only [hio] at h
    exact ⟨healthy_threadStep hI h, sound_of_outcome_none h.outcome⟩

/-- The thread has died of a failed socket call, or the lock is poisoned: some further calls
will break what their callers rely on. -/
inductive Doomed (s : Rpc) : Prop
  | poisoned (hp : s.poisoned = true) (hc : s.call = .idle)
  | dead {th : RpcThread} (hp : s.poisoned = false) (ht : s.thread = some th) (hd : th.Dead)
      (hc : s.call = .awaitEndPoint → th.endPoint ≠ .pending)
      (hs : s.call = .idle → s.state ≠ none)

theorem healthy_loaded : Healthy (loaded store channels) := .stopped rfl rfl rfl (.inl rfl)

theorem doomed_of_healthy (hI : Healthy s) (h : Step R s l t) (hio : ¬ l.NoIoError) :
    Doomed t := by
  have hpois := hI.not_poisoned
  cases h with
  | bindFailed ht hp hb =>
    cases hI with
    | starting _ hc _ ht' =>
      exact .dead hpois rfl (.inl rfl) (by simp) (by simp [setThread, hc])
    | _ => simp_all [RpcThread.Listening, ThreadEnded]
  | acceptFailed ht hp ha =>
    cases hI with
    | starting _ hc _ ht' hb =>
      obtain rfl := Option.some.inj (ht.symm.trans ht')
      obtain ⟨-, addr, he⟩ := hb.resolve_left (by simp [hp])
      exact .dead hpois rfl (.inl rfl) (by simp [he]) (by simp [setThread, hc])
    | running _ hc hs =>
      exact .dead hpois rfl (.inl rfl) (by simp [setThread, hc]) (by simp [setThread, hs])
    | stopping _ hc =>
      exact .dead hpois rfl (.inl rfl) (by rcases hc with hc | hc <;> simp [setThread, hc])
        (by rcases hc with hc | hc <;> simp [setThread, hc])
    | joining _ hc =>
      exact .dead hpois rfl (.inl rfl) (by simp [setThread, hc]) (by simp [setThread, hc])
    | stopped _ _ _ ht' => simp_all [ThreadEnded]
  | bound => exact absurd ⟨_, rfl⟩ hio
  | accepted => exact absurd rfl hio
  | _ => exact absurd trivial hio

theorem doomed_threadStep {io : Prop} (hI : Doomed s) (h : ThreadStep io s t th th') :
    Doomed t := by
  obtain ⟨hb, ha, hm, hc', hs', hp', -⟩ := h
  cases hI with
  | poisoned hp hc => exact .poisoned (hp'.trans hp) (hc'.trans hc)
  | dead hp ht hd hc hs =>
    obtain rfl := Option.some.inj (hb.symm.trans ht)
    cases hm with
    | exits hr he hend =>
      obtain rfl : _ = false := by simpa [RpcThread.Dead, hr] using hd
      exact .dead (hp'.trans hp) ha (.inr he) (by rwa [hc', hend]) (by rwa [hc', hs'])
    | bound hp => simp [RpcThread.Dead, hp] at hd
    | serves hl => exact absurd hl hd.not_listening
    | returns hl => exact absurd hl hd.not_listening
    | fails _ hl =>
      have hb := hl.resolve_right hd.not_listening
      simp [RpcThread.Dead, hb] at hd

theorem not_sound_started {addr : SocketAddrV4} (ht : t.thread = some th) (hd : th.Dead)
    (ho : t.outcome = some (.started addr)) : ¬ Sound t := by
  intro hS
  obtain ⟨th', ht', hl, -⟩ := hS.started addr ho
  obtain rfl := Option.some.inj (ht.symm.trans ht')
  exact hd.not_listening hl

theorem doomed_step (hI : Doomed s) (h : Step R s l t) (hsw : s.Switches l) :
    Doomed t ∨ ¬ Sound t := by
  by_cases hl : l.IsCall
  · cases hI with
    | poisoned hp hc =>
      right
      cases h with
      | startPoisoned => exact fun hS => hS.lock rfl
      | stopPoisoned => exact fun hS => hS.lock rfl
      | _ => simp_all [Label.IsCall]
    | dead hp ht hd hc hs =>
      cases h with
      | startRunning => exact .inr (not_sound_started ht hd rfl)
      | take => exact .inl (.dead hp ht hd (by simp) (by simp))
      | started => exact .inr (not_sound_started ht hd rfl)
      | endPointDropped => exact .inl (.poisoned rfl rfl)
      | disabled => exact .inl (.dead hp ht hd (by simp) (by simp))
      | disableFailed => exact .inl (.poisoned rfl rfl)
      | signalled _ ht' =>
        obtain rfl := Option.some.inj (ht.symm.trans ht')
        exact .inl (.dead hp rfl hd (by simp) (by simp))
      | signalFailed => exact .inr fun hS => hS.signal rfl
      | joinFailed => exact .inl (.poisoned rfl rfl)
      | _ => simp_all [Label.IsCall, RpcThread.Dead]
  · obtain ⟨th, th', h⟩ := threadStep_of_step h hl
    exact .inl (doomed_threadStep hI h)

/-- Some further calls break what their callers rely on, with no further failing socket call. -/
def Fails (R : Regex) (s : Rpc) : Prop :=
  ∃ tr t, Trace (step R) s tr t ∧ Along Switches tr ∧ Along NoIoError tr ∧ ¬ Sound t

theorem fails_of_step (hs : step R s l = some t) (hsw : s.Switches l) (hio : l.NoIoError)
    (h : ¬ Sound t ∨ Fails R t) : Fails R s := by
  rcases h with h | ⟨tr, u, htr, hsw', hio', hu⟩
  · exact ⟨_, t, .single hs, List.forall_mem_singleton.mpr hsw,
      List.forall_mem_singleton.mpr hio, h⟩
  · refine ⟨_, u, .cons hs htr, ?_, ?_, hu⟩
    · exact List.forall_mem_cons.mpr ⟨hsw, hsw'⟩
    · exact List.forall_mem_cons.mpr ⟨hio, hio'⟩

theorem fails_of_poisoned (hp : s.poisoned = true) (hc : s.call = .idle) : Fails R s := by
  refine fails_of_step (l := .startRpc) (t := s.ret (.panicked .poisonedLock)) ?_ ?_ trivial
    (.inl fun hS => hS.lock rfl)
  · simp [step, startRpc, hc, hp]
  · intro env he
    simp [Label.env] at he

theorem switches_advance_allOk : s.Switches (.advance .allOk) := by
  rintro env ⟨⟩
  exact HookEnv.switches_allOk

theorem fails_of_joining {state : RpcState} (hc : s.call = .joining state)
    (ht : s.thread = some th) (hd : th.Dead) : Fails R s := by
  have hjoin : ∀ {s : Rpc} {th : RpcThread}, s.call = .joining state → s.thread = some th →
      th.phase = .ended false → Fails R s := by
    intro s th hc ht he
    refine fails_of_step (l := .advance .allOk) (t := s.unwind .join) ?_ switches_advance_allOk
      trivial (.inr (fails_of_poisoned rfl rfl))
    simp [step, advance, hc, ht, he]
  rcases hd with hr | he
  · refine fails_of_step (l := .exit)
      (t := s.setThread { th with phase := .ended false, clients := [] })
      ?_ (by rintro env ⟨⟩) trivial (.inr (hjoin hc rfl rfl))
    simp [step, exit, ht, hr]
  · exact hjoin hc ht he

theorem fails_of_signalling {state : RpcState} (hc : s.call = .signalling state)
    (ht : s.thread = some th) (hd : th.Dead) : Fails R s := by
  by_cases hr : th.hasReceiver = true
  · exact fails_of_step (l := .advance .allOk)
      (t := { s with thread := some { th with signal := .sent }, call := .joining state,
                     outcome := none })
      (by simp [step, advance, hc, ht, hr]) switches_advance_allOk trivial
      (.inr (fails_of_joining rfl rfl hd))
  · exact fails_of_step (l := .advance .allOk) (t := s.unwind .disconnectSignal)
      (by simp [step, advance, hc, ht, hr]) switches_advance_allOk trivial
      (.inl fun hS => hS.signal rfl)

theorem fails_of_doomed (hI : Doomed s) : Fails R s := by
  cases hI with
  | poisoned hp hc => exact fails_of_poisoned hp hc
  | @dead th hp ht hd hc hs =>
    cases hcall : s.call with
    | idle =>
      obtain ⟨state, hstate⟩ := Option.ne_none_iff_exists'.mp (hs hcall)
      exact fails_of_step (l := .startRpc) (t := s.ret (.started state.socketAddr))
        (by simp [step, startRpc, hcall, hp, hstate]) (by rintro env ⟨⟩) trivial
        (.inl (not_sound_started ht hd rfl))
    | awaitEndPoint =>
      cases hend : th.endPoint with
      | pending => exact absurd hend (hc hcall)
      | sent addr =>
        exact fails_of_step (l := .advance .allOk)
          (t := { s.ret (.started addr) with state := some ⟨addr⟩ })
          (by simp [step, advance, hcall, ht, hend]) switches_advance_allOk trivial
          (.inl (not_sound_started ht hd rfl))
      | dropped =>
        exact fails_of_step (l := .advance .allOk) (t := s.unwind .endPoint)
          (by simp [step, advance, hcall, ht, hend]) switches_advance_allOk trivial
          (.inr (fails_of_poisoned rfl rfl))
    | disabling state =>
      exact fails_of_step (l := .advance .allOk)
        (t := { s with dll.hooks := (s.dll.hooks.disable .allOk).1, call := .signalling state,
                       outcome := none })
        (by simp [step, advance, hcall, Hooks.disable_eq_off HookEnv.switches_allOk])
        switches_advance_allOk trivial (.inr (fails_of_signalling rfl ht hd))
    | signalling state => exact fails_of_signalling hcall ht hd
    | joining state => exact fails_of_joining hcall ht hd

/-- After a run, either no socket call has failed and all is well, or something is lost. -/
theorem healthy_or_doomed (h : Trace (step R) (loaded store channels) tr s)
    (hsw : Along Switches tr) :
    (Along NoIoError tr ∧ Healthy s ∧ Always Sound tr s) ∨
      (¬ Along NoIoError tr ∧ (Doomed s ∨ ¬ Always Sound tr s)) := by
  induction h with
  | refl => exact .inl ⟨along_nil, healthy_loaded, by simp, sound_of_outcome_none rfl⟩
  | @snoc tr s t l h hs ih =>
    obtain ⟨hsw, hl⟩ := along_concat.mp hsw
    rw [along_concat, always_concat]
    rcases ih hsw with ⟨hio, hI, hS⟩ | ⟨hio, hI⟩
    · by_cases hl' : l.NoIoError
      · obtain ⟨hI, hS'⟩ := healthy_step hI hl hl' hs
        exact .inl ⟨⟨hio, hl'⟩, hI, hS, hS'⟩
      · exact .inr ⟨fun hc => hl' hc.2, .inl (doomed_of_healthy hI (step_cases hs) hl')⟩
    · refine .inr ⟨fun hc => hio hc.1, ?_⟩
      rcases hI with hI | hn
      · rcases doomed_step hI (step_cases hs) hl with hI | hn
        · exact .inl hI
        · exact .inr fun hc => hn hc.2
      · exact .inr fun hc => hn hc.1

/-- Nothing that callers rely on breaks in a run or in any way it goes on without a further
failing socket call, if and only if no socket call failed in it. -/
theorem sound_iff_noIoError (R : Regex) (store : Store) (channels : Channels)
    {tr : List (Rpc × Label)} {s : Rpc} (h : Trace (step R) (loaded store channels) tr s)
    (hsw : Along Switches tr) :
    (∀ tr' t, Trace (step R) s tr' t → Along Switches tr' → Along NoIoError tr' →
      Always Sound (tr ++ tr') t) ↔ Along NoIoError tr := by
  constructor
  · intro hall
    rcases healthy_or_doomed h hsw with ⟨hio, -⟩ | ⟨-, hI | hn⟩
    · exact hio
    · obtain ⟨tr', t, htr, hsw', hio', hn⟩ := fails_of_doomed (R := R) hI
      exact absurd (hall tr' t htr hsw' hio').2 hn
    · exact absurd (by simpa using hall [] s .refl along_nil along_nil) hn
  · intro hio tr' t htr hsw' hio'
    rcases healthy_or_doomed (h.append htr) (along_append.mpr ⟨hsw, hsw'⟩) with ⟨-, -, hS⟩ | ⟨hn, -⟩
    · exact hS
    · exact absurd (along_append.mpr ⟨hio, hio'⟩) hn

/-- Unless a call is going on or `RPC_STATE` records a thread, none runs. -/
def Vacant (s : Rpc) : Prop :=
  s.poisoned = false → s.call = .idle → s.state = none → s.thread = none ∨ s.ThreadEnded

theorem vacant_step (hI : Vacant s) (h : Step R s l t) : Vacant t := by
  by_cases hl : l.IsCall
  · cases h with
    | startPoisoned hc hp => exact fun hp' => by simp [ret, hp] at hp'
    | startRunning hc hp hs => exact fun _ _ hs' => by simp [ret, hs] at hs'
    | spawn => exact fun _ hc' => by simp at hc'
    | stopPoisoned hc hp => exact fun hp' => by simp [ret, hp] at hp'
    | take => exact fun _ hc' => by simp at hc'
    | stopNone hc hp hs => exact fun _ _ _ => hI hp hc hs
    | started => exact fun _ _ hs' => by simp at hs'
    | endPointDropped => exact fun hp' => by simp [unwind] at hp'
    | disabled => exact fun _ hc' => by simp at hc'
    | disableFailed => exact fun hp' => by simp [unwind] at hp'
    | signalled => exact fun _ hc' => by simp at hc'
    | signalFailed => exact fun hp' => by simp [unwind] at hp'
    | joined hc ht he => exact fun _ _ _ => .inr ⟨_, ht, he⟩
    | joinFailed => exact fun hp' => by simp [unwind] at hp'
    | _ => exact absurd hl id
  · obtain ⟨th, th', hb, ha, hm, hc', hs', hp', -⟩ := threadStep_of_step h hl
    intro hp hc hs
    rcases hI (hp'.symm.trans hp) (hc'.symm.trans hc) (hs'.symm.trans hs) with ht | ⟨th₁, ht, he⟩
    · simp [hb] at ht
    · obtain rfl := Option.some.inj (hb.symm.trans ht)
      cases hm <;> simp_all [RpcThread.Listening]

theorem vacant_trace (h : Trace (step R) (loaded store channels) tr s) : Vacant s :=
  h.invariant (fun _ _ _ => .inl rfl) fun _ _ _ hI hs => vacant_step hI (step_cases hs)

/-- `start_rpc` spawns a thread only after the previous one has ended. -/
theorem spawn_after_end (h : Trace (step R) (loaded store channels) tr s)
    (hs : s.startRpc = some t) (hc : t.call = .awaitEndPoint) :
    s.thread = none ∨ s.ThreadEnded := by
  cases startRpc_cases (R := R) hs with
  | spawn hi hp hn => exact vacant_trace h hp hi hn
  | _ => simp [ret] at hc

/-- Two cycles of the RPC thread. -/
def twoCycles : List Label :=
  [.startRpc, .bind (.ok ()) (.ok 4000), .advance .allOk, .accept 0 (.ok ()) (.ok ()), .stopRpc,
    .advance .allOk, .advance .allOk, .disconnectTask 0 .allOk, .seeSignal, .exit,
    .advance .allOk, .startRpc, .bind (.ok ()) (.ok 4001), .advance .allOk]

/-- `bind` fails under the first call of `start_rpc`. -/
def bindRefused : List Label :=
  [.startRpc, .bind (.error "address in use") (.ok 4000), .advance .allOk, .startRpc]

/-- One connection fails to be accepted, and `start_rpc` is called again. -/
def acceptRefused : List Label :=
  [.startRpc, .bind (.ok ()) (.ok 4000), .advance .allOk, .accept 0 (.ok ()) (.error "reset"),
    .startRpc]

theorem sound_iff_noIoError_twoCycles :
    let tr := trail (step quietRegex) (loaded .empty .empty) twoCycles
    ∃ s, Trace (step quietRegex) (loaded .empty .empty) tr s ∧
      ((∀ tr' t, Trace (step quietRegex) s tr' t → Along Switches tr' → Along NoIoError tr' →
        Always Sound (tr ++ tr') t) ↔ Along NoIoError tr) :=
  ⟨_, trace_of_run rfl, sound_iff_noIoError quietRegex .empty .empty (trace_of_run rfl)
    (switches_of_allOk (by simp [twoCycles, Label.env]))⟩

theorem startRpc_bindRefused :
    (∃ tr s, Trace (step quietRegex) (loaded .empty .empty) tr s ∧ Along Switches tr ∧
      s.outcome = some (.panicked .poisonedLock)) ∧
    ∃ tr s, Trace (step quietRegex) (loaded .empty .empty) tr s ∧ Along Switches tr ∧
      s.outcome = some (.started (.localhost 4000)) ∧ ¬ s.ListensOn (.localhost 4000) := by
  constructor
  · exact ⟨trail (step quietRegex) (loaded .empty .empty) bindRefused, _, trace_of_run rfl,
      switches_of_allOk (by simp [bindRefused, Label.env]), rfl⟩
  · refine ⟨trail (step quietRegex) (loaded .empty .empty) acceptRefused, _, trace_of_run rfl,
      switches_of_allOk (by simp [acceptRefused, Label.env]), rfl, ?_⟩
    rintro ⟨th, ht, ⟨server, hl⟩, -⟩
    obtain rfl := Option.some.inj ht
    simp at hl

end Rpc

end BurntSushi.Blocker
