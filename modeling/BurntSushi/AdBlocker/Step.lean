import BurntSushi.Lts
import BurntSushi.AdBlocker.Hook
import BurntSushi.Scanner.Step

/-! `SpotifyAdBlocker`: its scanner and its consumer loop on one thread, and `stop`. -/
namespace BurntSushi.AdBlocker

open Scanner (SpotifyProcessScanner SpotifyState OwnedProcess IoError)

/-- What runs after `unhook_spotify`: the rest of `hook_spotify`, the rest of the loop body for a
stopped Spotify, or nothing more of `stop`. -/
inductive Unhooking where
  | hook (spotify : OwnedProcess)
  | loop
  | stop
  deriving DecidableEq, Repr

/-- Where the consumer is: in `changed()`, in a handler, past its loop, or after the drop of `run`
in `stop`. -/
inductive Consumer where
  | changed
  | hooking (spotify : OwnedProcess) (pc : HookPc)
  | unhooking (after : Unhooking) (state : HookState) (pc : UnhookPc)
  | finished
  | stopped
  | panicked (e : Option AppError)
  deriving DecidableEq, Repr

structure SpotifyAdBlocker where
  scanner : SpotifyProcessScanner
  seen : Nat
  consumer : Consumer
  state : SpotifyHookState
  processes : Processes

inductive Label where
  | scanner (l : Scanner.Label)
  | wake (tryClone : Except IoError Unit)
  | call (c : Call)
  | drop
  | exit (process : OwnedProcess)

namespace Consumer

/-- The consumer holds the guard of `spotify_state.borrow()`. -/
def holdsGuard : Consumer → Bool
  | .hooking _ _ => true
  | .unhooking (.hook _) _ _ => true
  | .unhooking .loop _ _ => true
  | _ => false

/-- The consumer is at an await, where the other branch of the `select!` gets its turn. -/
def awaits : Consumer → Bool
  | .changed => true
  | .hooking _ .resolveFilterConfig => true
  | .hooking _ (.resolveBlocker _) => true
  | .unhooking (.hook _) _ .join => true
  | .unhooking .loop _ .join => true
  | _ => false

end Consumer

namespace Consumer

variable {c : Consumer}

/-- In its loop, the consumer awaits either `changed()` or with the guard held. -/
theorem eq_changed_or_holdsGuard (h : c.awaits = true) : c = .changed ∨ c.holdsGuard = true := by
  simp only [awaits] at h
  split at h <;> simp_all [holdsGuard]

end Consumer

/-- The scanner is at an await, or has not been polled yet. -/
def scannerAwaits (scanner : SpotifyProcessScanner) : Bool :=
  match scanner.pc with
  | .start => true
  | .hooking _ => true
  | .listening _ => true
  | .unhooking _ => true
  | _ => false

namespace SpotifyAdBlocker

def new (processes : Processes) : SpotifyAdBlocker := ⟨.new, 0, .changed, .unhooked, processes⟩

/-- `borrow()` and the drop of its guard. -/
def lock (s : SpotifyAdBlocker) : SpotifyAdBlocker :=
  { s with scanner.notifier.readers := s.scanner.notifier.readers + 1 }

def unlock (s : SpotifyAdBlocker) : SpotifyAdBlocker :=
  { s with scanner.notifier.readers := s.scanner.notifier.readers - 1 }

def panic (s : SpotifyAdBlocker) (e : Option AppError) : SpotifyAdBlocker :=
  { s with consumer := .panicked e }

/-- The end of the loop body for a stopped Spotify. -/
def endStopped (shutdownWithSpotify : Bool) (s : SpotifyAdBlocker) : SpotifyAdBlocker :=
  { s.unlock with consumer := if shutdownWithSpotify then .finished else .changed }

/-- The entry of `hook_spotify`. -/
def hookSpotify (s : SpotifyAdBlocker) (spotify : OwnedProcess) : SpotifyAdBlocker :=
  match s.state with
  | .hooked state =>
    { s with state := .unhooked, consumer := .unhooking (.hook spotify) state .lookupStop }
  | .unhooked => { s with consumer := .hooking spotify .findPrevious }

/-- The scanner's branch of the `select!` after a step; `unreachable!` if its `run` is over. -/
def afterScanner (s : SpotifyAdBlocker) (scanner : SpotifyProcessScanner) : SpotifyAdBlocker :=
  match scanner.pc with
  | .returned _ => { s with scanner }.panic none
  | .panicked => { s with scanner }.panic none
  | _ => { s with scanner }

/-- A step of the scanner, whose receiver belongs to the blocker and outlives it. -/
def scannerStep (s : SpotifyAdBlocker) (l : Scanner.Label) : Option SpotifyAdBlocker :=
  match l with
  | .dropReceiver => none
  | l => if s.consumer.awaits then (s.scanner.step l).map s.afterScanner else none

/-- `changed()` returns, and the loop body runs up to its first call. -/
def wake (shutdownWithSpotify : Bool) (s : SpotifyAdBlocker) (tryClone : Except IoError Unit) :
    Option SpotifyAdBlocker :=
  match s.consumer with
  | .changed =>
    if s.seen = s.scanner.notifier.version ∨ scannerAwaits s.scanner = false then none
    else
      let s := { s with seen := s.scanner.notifier.version }.lock
      match s.scanner.notifier.value with
      | .running info =>
        match tryClone with
        | .error _ => some (s.panic none)
        | .ok () => some (s.hookSpotify info.process)
      | .stopped =>
        match s.state with
        | .hooked state =>
          some { s with state := .unhooked, consumer := .unhooking .loop state .lookupStop }
        | .unhooked => some (endStopped shutdownWithSpotify s)
  | _ => none

/-- The end of `unhook_spotify`. -/
def unhooked (shutdownWithSpotify : Bool) (s : SpotifyAdBlocker) :
    Unhooking → SpotifyAdBlocker
  | .hook spotify => { s with state := .unhooked, consumer := .hooking spotify .findPrevious }
  | .loop => endStopped shutdownWithSpotify { s with state := .unhooked }
  | .stop => { s with state := .unhooked, consumer := .stopped }

/-- The next call of the handler in progress returns; its result at the end of `hook_spotify` is
unwrapped. -/
def call (shutdownWithSpotify : Bool) (s : SpotifyAdBlocker) (c : Call) :
    Option SpotifyAdBlocker :=
  match s.consumer with
  | .hooking spotify pc =>
    if scannerAwaits s.scanner = false then none
    else (hookStep spotify s.processes pc c).map fun (processes, next) =>
      match next with
      | .next pc => { s with processes, consumer := .hooking spotify pc }
      | .ok state => { s.unlock with processes, state := .hooked state, consumer := .changed }
      | .err e => { s with processes }.panic (some e)
      | .panic => { s with processes }.panic none
  | .unhooking after state pc =>
    if after ≠ .stop ∧ scannerAwaits s.scanner = false then none
    else (unhookStep state s.processes pc c).map fun (processes, next) =>
      match next with
      | .next pc => { s with processes, consumer := .unhooking after state pc }
      | .done _ => unhooked shutdownWithSpotify { s with processes } after
      | .panic => { s with processes }.panic none
  | _ => none

/-- The entry of `stop`. -/
def stop (s : SpotifyAdBlocker) : SpotifyAdBlocker :=
  match s.state with
  | .hooked state => { s with state := .unhooked, consumer := .unhooking .stop state .lookupStop }
  | .unhooked => { s with consumer := .stopped }

/-- The `select!` of `main` drops `run`, at an await or when it is over, and calls `stop`. -/
def drop (s : SpotifyAdBlocker) : Option SpotifyAdBlocker :=
  match s.consumer with
  | .finished => some s.stop
  | consumer =>
    if consumer.awaits && scannerAwaits s.scanner then
      some (if consumer.holdsGuard then s.unlock.stop else s.stop)
    else none

def step (shutdownWithSpotify : Bool) (s : SpotifyAdBlocker) : Label → Option SpotifyAdBlocker
  | .scanner l => s.scannerStep l
  | .wake tryClone => wake shutdownWithSpotify s tryClone
  | .call c => call shutdownWithSpotify s c
  | .drop => s.drop
  | .exit process =>
    some { s with
      processes := Function.update s.processes process
        { s.processes process with alive := false } }

/-- The cases of `step`. -/
inductive Step (shutdown : Bool) (s : SpotifyAdBlocker) : Label → SpotifyAdBlocker → Prop
  | scanner {l : Scanner.Label} {scanner : SpotifyProcessScanner} (hl : l ≠ .dropReceiver)
      (ha : s.consumer.awaits = true) (hs : s.scanner.Step l scanner) :
      Step shutdown s (.scanner l) (s.afterScanner scanner)
  | wakePanicked {e : IoError} (hc : s.consumer = .changed)
      (hv : s.seen ≠ s.scanner.notifier.version) (hsc : scannerAwaits s.scanner = true) :
      Step shutdown s (.wake (.error e))
        ({ s with seen := s.scanner.notifier.version }.lock.panic none)
  | wakeRunning {info : Scanner.SpotifyInfo} (hc : s.consumer = .changed)
      (hv : s.seen ≠ s.scanner.notifier.version) (hsc : scannerAwaits s.scanner = true)
      (hr : s.scanner.notifier.value = .running info) :
      Step shutdown s (.wake (.ok ()))
        ({ s with seen := s.scanner.notifier.version }.lock.hookSpotify info.process)
  | wakeHooked {tryClone : Except IoError Unit} {state : HookState} (hc : s.consumer = .changed)
      (hv : s.seen ≠ s.scanner.notifier.version) (hsc : scannerAwaits s.scanner = true)
      (hr : s.scanner.notifier.value = .stopped) (hs : s.state = .hooked state) :
      Step shutdown s (.wake tryClone)
        { { s with seen := s.scanner.notifier.version }.lock with
          state := .unhooked, consumer := .unhooking .loop state .lookupStop }
  | wakeUnhooked {tryClone : Except IoError Unit} (hc : s.consumer = .changed)
      (hv : s.seen ≠ s.scanner.notifier.version) (hsc : scannerAwaits s.scanner = true)
      (hr : s.scanner.notifier.value = .stopped) (hs : s.state = .unhooked) :
      Step shutdown s (.wake tryClone)
        (endStopped shutdown { s with seen := s.scanner.notifier.version }.lock)
  | hookNext {spotify : OwnedProcess} {pc pc' : HookPc} {c : Call} {processes : Processes}
      (hc : s.consumer = .hooking spotify pc) (hsc : scannerAwaits s.scanner = true)
      (hs : hookStep spotify s.processes pc c = some (processes, .next pc')) :
      Step shutdown s (.call c) { s with processes, consumer := .hooking spotify pc' }
  | hookOk {spotify : OwnedProcess} {pc : HookPc} {c : Call} {processes : Processes}
      {state : HookState} (hc : s.consumer = .hooking spotify pc)
      (hsc : scannerAwaits s.scanner = true)
      (hs : hookStep spotify s.processes pc c = some (processes, .ok state)) :
      Step shutdown s (.call c)
        { s.unlock with processes, state := .hooked state, consumer := .changed }
  | hookErr {spotify : OwnedProcess} {pc : HookPc} {c : Call} {processes : Processes}
      {e : AppError} (hc : s.consumer = .hooking spotify pc)
      (hsc : scannerAwaits s.scanner = true)
      (hs : hookStep spotify s.processes pc c = some (processes, .err e)) :
      Step shutdown s (.call c) ({ s with processes }.panic (some e))
  | hookPanicked {spotify : OwnedProcess} {pc : HookPc} {c : Call} {processes : Processes}
      (hc : s.consumer = .hooking spotify pc) (hsc : scannerAwaits s.scanner = true)
      (hs : hookStep spotify s.processes pc c = some (processes, .panic)) :
      Step shutdown s (.call c) ({ s with processes }.panic none)
  | unhookNext {after : Unhooking} {state : HookState} {pc pc' : UnhookPc} {c : Call}
      {processes : Processes} (hc : s.consumer = .unhooking after state pc)
      (hsc : after ≠ .stop → scannerAwaits s.scanner = true)
      (hs : unhookStep state s.processes pc c = some (processes, .next pc')) :
      Step shutdown s (.call c) { s with processes, consumer := .unhooking after state pc' }
  | unhookDone {after : Unhooking} {state : HookState} {pc : UnhookPc} {c : Call}
      {processes : Processes} {res : Except SyringeError Unit}
      (hc : s.consumer = .unhooking after state pc)
      (hsc : after ≠ .stop → scannerAwaits s.scanner = true)
      (hs : unhookStep state s.processes pc c = some (processes, .done res)) :
      Step shutdown s (.call c) (unhooked shutdown { s with processes } after)
  | unhookPanicked {after : Unhooking} {state : HookState} {pc : UnhookPc} {c : Call}
      {processes : Processes} (hc : s.consumer = .unhooking after state pc)
      (hsc : after ≠ .stop → scannerAwaits s.scanner = true)
      (hs : unhookStep state s.processes pc c = some (processes, .panic)) :
      Step shutdown s (.call c) ({ s with processes }.panic none)
  | dropFinished (hc : s.consumer = .finished) : Step shutdown s .drop s.stop
  | drop (ha : s.consumer.awaits = true) (hsc : scannerAwaits s.scanner = true) :
      Step shutdown s .drop (if s.consumer.holdsGuard then s.unlock.stop else s.stop)
  | exit {process : OwnedProcess} :
      Step shutdown s (.exit process)
        { s with
          processes := Function.update s.processes process
            { s.processes process with alive := false } }

variable {shutdown : Bool} {s t : SpotifyAdBlocker} {l : Label}

theorem scannerStep_cases {l : Scanner.Label} (h : s.scannerStep l = some t) :
    Step shutdown s (.scanner l) t := by
  simp only [scannerStep] at h
  split at h
  · simp at h
  · rename_i hl
    split at h
    · rename_i ha
      obtain ⟨scanner, hs, rfl⟩ := Option.map_eq_some_iff.mp h
      exact .scanner (fun he => hl he) ha (SpotifyProcessScanner.step_cases hs)
    · simp at h

theorem wake_cases {tryClone : Except IoError Unit} (h : wake shutdown s tryClone = some t) :
    Step shutdown s (.wake tryClone) t := by
  unfold wake at h
  split at h
  · rename_i hc
    split at h
    · simp at h
    · rename_i hn
      obtain ⟨hv, hsc⟩ := not_or.mp hn
      have hsc : scannerAwaits s.scanner = true := by simpa using hsc
      dsimp only at h
      split at h
      · rename_i info hr
        cases tryClone with
        | error e =>
          obtain rfl := Option.some.inj h
          exact .wakePanicked hc hv hsc
        | ok _ =>
          obtain rfl := Option.some.inj h
          exact .wakeRunning hc hv hsc hr
      · rename_i hr
        split at h
        · rename_i state hs
          obtain rfl := Option.some.inj h
          exact .wakeHooked hc hv hsc hr hs
        · rename_i hs
          obtain rfl := Option.some.inj h
          exact .wakeUnhooked hc hv hsc hr hs
  · simp at h

theorem call_cases {c : Call} (h : call shutdown s c = some t) : Step shutdown s (.call c) t := by
  simp only [call] at h
  split at h
  · rename_i spotify pc hc
    split at h
    · simp at h
    · rename_i hsc
      have hsc : scannerAwaits s.scanner = true := by simpa using hsc
      obtain ⟨⟨processes, next⟩, hs, ht⟩ := Option.map_eq_some_iff.mp h
      cases next with
      | next pc => subst ht; exact .hookNext hc hsc hs
      | ok state => subst ht; exact .hookOk hc hsc hs
      | err e => subst ht; exact .hookErr hc hsc hs
      | panic => subst ht; exact .hookPanicked hc hsc hs
  · rename_i after state pc hc
    split at h
    · simp at h
    · rename_i hsc
      have hsc : after ≠ .stop → scannerAwaits s.scanner = true := by simpa using hsc
      obtain ⟨⟨processes, next⟩, hs, ht⟩ := Option.map_eq_some_iff.mp h
      cases next with
      | next pc => subst ht; exact .unhookNext hc hsc hs
      | done res => subst ht; exact .unhookDone hc hsc hs
      | panic => subst ht; exact .unhookPanicked hc hsc hs
  · simp at h

theorem drop_cases (h : s.drop = some t) : Step shutdown s .drop t := by
  simp only [drop] at h
  split at h
  · obtain rfl := Option.some.inj h
    exact .dropFinished (by assumption)
  · split at h
    · rename_i ha
      obtain ⟨ha, hsc⟩ := Bool.and_eq_true_iff.mp ha
      obtain rfl := Option.some.inj h
      exact .drop ha hsc
    · simp at h

theorem step_cases (h : step shutdown s l = some t) : Step shutdown s l t := by
  cases l with
  | scanner l => exact scannerStep_cases h
  | wake tryClone => exact wake_cases h
  | call c => exact call_cases h
  | drop => exact drop_cases h
  | exit process =>
    obtain rfl := Option.some.inj h
    exact .exit

theorem stop_cases (s : SpotifyAdBlocker) :
    (∃ state, s.state = .hooked state ∧
      s.stop = { s with state := .unhooked, consumer := .unhooking .stop state .lookupStop }) ∨
    (s.state = .unhooked ∧ s.stop = { s with consumer := .stopped }) := by
  cases hs : s.state with
  | hooked state => exact .inl ⟨state, rfl, by simp only [stop, hs]⟩
  | unhooked => exact .inr ⟨rfl, by simp only [stop, hs]⟩

theorem stop_scanner : s.stop.scanner = s.scanner := by
  rcases s.stop_cases with ⟨state, -, h⟩ | ⟨-, h⟩ <;> rw [h]

theorem stop_seen : s.stop.seen = s.seen := by
  rcases s.stop_cases with ⟨state, -, h⟩ | ⟨-, h⟩ <;> rw [h]

theorem stop_holdsGuard : s.stop.consumer.holdsGuard = false := by
  rcases s.stop_cases with ⟨state, -, h⟩ | ⟨-, h⟩ <;> rw [h] <;> rfl

theorem stop_ne_changed : s.stop.consumer ≠ .changed := by
  rcases s.stop_cases with ⟨state, -, h⟩ | ⟨-, h⟩ <;> rw [h] <;> simp

/-- After a step of the scanner the consumer goes on, or panics. -/
theorem afterScanner_cases (s : SpotifyAdBlocker) (scanner : SpotifyProcessScanner) :
    s.afterScanner scanner = { s with scanner } ∨
      s.afterScanner scanner = ({ s with scanner } : SpotifyAdBlocker).panic none := by
  cases hp : scanner.pc with
  | returned res => exact .inr (by simp only [afterScanner, hp])
  | panicked => exact .inr (by simp only [afterScanner, hp])
  | _ => exact .inl (by simp only [afterScanner, hp])

theorem afterScanner_scanner {scanner : SpotifyProcessScanner} :
    (s.afterScanner scanner).scanner = scanner := by
  rcases s.afterScanner_cases scanner with h | h <;> rw [h]
  rfl

theorem afterScanner_consumer {scanner : SpotifyProcessScanner}
    (h : ∀ e, (s.afterScanner scanner).consumer ≠ .panicked e) :
    (s.afterScanner scanner).consumer = s.consumer := by
  rcases s.afterScanner_cases scanner with he | he
  · rw [he]
  · rw [he] at h
    exact absurd rfl (h none)

theorem hookSpotify_cases (s : SpotifyAdBlocker) (spotify : OwnedProcess) :
    (∃ state, s.state = .hooked state ∧ s.hookSpotify spotify =
      { s with state := .unhooked, consumer := .unhooking (.hook spotify) state .lookupStop }) ∨
    (s.state = .unhooked ∧
      s.hookSpotify spotify = { s with consumer := .hooking spotify .findPrevious }) := by
  cases hs : s.state with
  | hooked state => exact .inl ⟨state, rfl, by simp only [hookSpotify, hs]⟩
  | unhooked => exact .inr ⟨rfl, by simp only [hookSpotify, hs]⟩

theorem hookSpotify_scanner {spotify : OwnedProcess} :
    (s.hookSpotify spotify).scanner = s.scanner := by
  rcases s.hookSpotify_cases spotify with ⟨state, -, h⟩ | ⟨-, h⟩ <;> rw [h]

theorem hookSpotify_seen {spotify : OwnedProcess} : (s.hookSpotify spotify).seen = s.seen := by
  rcases s.hookSpotify_cases spotify with ⟨state, -, h⟩ | ⟨-, h⟩ <;> rw [h]

theorem hookSpotify_holdsGuard {spotify : OwnedProcess} :
    (s.hookSpotify spotify).consumer.holdsGuard = true := by
  rcases s.hookSpotify_cases spotify with ⟨state, -, h⟩ | ⟨-, h⟩ <;> rw [h] <;> rfl

/-- Spotify runs and has nothing injected. -/
def startOfSpotify : List Label :=
  [.scanner (.scan [Scanner.spotify (.ok 9) [.ok ⟨9, 5, [⟨Scanner.mainWindow, []⟩]⟩]]),
    .scanner (.iterate (.ok ()) 5 (.ok 9)), .scanner (.hooked (.ok ())), .wake (.ok ()),
    .call (.findModuleByName (.ok ()))]

/-- The payload that the sample runs inject. -/
def samplePayload : Path := ⟨"Temp", defaultBlockerFileName⟩

def beforeInject : List Label :=
  startOfSpotify ++ [.call (.resolveFilterConfig (.ok ⟨[], []⟩)),
    .call (.resolveBlocker (.ok samplePayload))]

def afterInject : List Label :=
  [.call (.getPayloadProcedure (.ok true)), .call (.startRpc (.ok (.localhost 5))),
    .call (.tryToOwned (.ok ()))]

/-- Spotify closes its main window. -/
def endOfSpotify : List Label :=
  [.scanner (.event (some (Scanner.mainWindowEvent 0))), .scanner (.unhooked (.ok ()))]

def cleanProcesses : Processes := fun _ => ⟨true, []⟩

end SpotifyAdBlocker

end BurntSushi.AdBlocker
