import Mathlib.Data.List.Infix
import BurntSushi.Except
import BurntSushi.Text

/-! What the scanner sees of processes, threads and windows, and `scan`. -/
namespace BurntSushi.Scanner

abbrev IoError := String

/-- A process and a window, each named by what its handle refers to. -/
abbrev OwnedProcess := Nat

abbrev WindowHandle := Nat

/-- What the OS answers about a window; a text is empty where its call returns zero. -/
structure WindowView where
  window : WindowHandle
  textLength : Nat
  lastError : Nat
  text : List UInt16
  className : List UInt16
  deriving DecidableEq, Repr

namespace WindowView

def getWindowTitleLength (w : WindowView) : Except IoError (Option Nat) :=
  if w.textLength = 0 ∧ w.lastError ≠ 0 then .error "GetWindowTextLengthW"
  else .ok (if w.textLength = 0 then none else some w.textLength)

def getWindowTitle (w : WindowView) : Except IoError (Option (List Char)) := do
  match ← w.getWindowTitleLength with
  | none => pure none
  | some _ =>
    if w.text ≠ [] then pure (some (fromUtf16Lossy w.text))
    else .error "GetWindowTextW"

def getWindowClassName (w : WindowView) : Except IoError (List Char) :=
  if w.className = [] then .error "GetClassNameW" else .ok (fromUtf16Lossy w.className)

def isMainSpotifyWindow (w : WindowView) : Bool :=
  match w.getWindowTitle with
  | .ok (some title) =>
    if title.all isWhitespace || title = "G".toList || title = "Default IME".toList then false
    else match w.getWindowClassName with
      | .error _ => false
      | .ok className =>
        "Chrome_WidgetWin".toList.isPrefixOf className ||
          className = "Chrome_RenderWidgetHostHWND".toList ||
          className = "GDI+ Hook Window Class".toList
  | _ => false

end WindowView

/-- `is_spotify_process`, from what `base_name` returns. -/
def isSpotifyProcess (baseName : Except IoError (List Char)) : Bool :=
  match baseName with
  | .ok name => decide ("spotify".toList <:+: asciiLowercase name)
  | .error _ => false

/-- A top-level window and its descendants, in the order of their enumeration. -/
structure TopLevel where
  root : WindowView
  descendants : List WindowView

/-- An entry of the thread snapshot, with the windows of the thread. -/
structure ThreadEntry where
  ownerProcessId : Nat
  threadId : Nat
  windows : List TopLevel

/-- A process with the results of the calls that `scan` makes for it. -/
structure ProcessView where
  process : OwnedProcess
  baseName : Except IoError (List Char)
  pid : Except IoError Nat
  snapshot : Except IoError Unit
  threads : List (Except IoError ThreadEntry)

/-- `EnumThreadWindows` and `EnumChildWindows`: the callback sees one item after the other until
it returns false. -/
def enumWindows {α σ : Type} (callback : α → σ → σ × Bool) : List α → σ → σ
  | [], s => s
  | x :: xs, s =>
    match callback x s with
    | (s, true) => enumWindows callback xs s
    | (s, false) => s

/-- `enum_proc`, which returns `FALSE`. -/
def enumProc {α : Type} (x : α) (xs : List α) : List α × Bool := (xs ++ [x], false)

def listThreadWindows (thread : ThreadEntry) (includeChildren : Bool) : List WindowView :=
  let roots := enumWindows enumProc thread.windows []
  let windows := roots.map TopLevel.root
  if includeChildren then
    roots.foldl (fun windows root => enumWindows enumProc root.descendants windows) windows
  else windows

/-- The items of the iterator; it fails where it holds an error. -/
def listProcessThreads (p : ProcessView) : Except IoError (List (Except IoError ThreadEntry)) := do
  let processId ← p.pid
  p.snapshot
  pure (p.threads.filter fun
    | .ok thread => thread.ownerProcessId = processId
    | .error _ => true)

def listProcessWindows (p : ProcessView) : Except IoError (List (Except IoError WindowView)) := do
  let threads ← listProcessThreads p
  pure (threads.flatMap fun
    | .ok thread => (listThreadWindows thread true).map .ok
    | .error e => [.error e])

structure SpotifyInfo where
  process : OwnedProcess
  mainWindow : WindowHandle
  deriving DecidableEq, Repr

inductive SpotifyState where
  | running (info : SpotifyInfo)
  | stopped
  deriving DecidableEq, Repr

/-- The `while let` loop of `scan`. -/
def findMainWindow : List (Except IoError WindowView) → Except IoError (Option WindowHandle)
  | [] => .ok none
  | .error e :: _ => .error e
  | .ok w :: ws => if w.isMainSpotifyWindow then .ok (some w.window) else findMainWindow ws

/-- The state that `scan` publishes, if any. -/
def scan : List ProcessView → Except IoError (Option SpotifyState)
  | [] => .ok none
  | p :: ps =>
    if !isSpotifyProcess p.baseName then scan ps
    else do
      let windows ← listProcessWindows p
      match ← findMainWindow windows with
      | some window => pure (some (.running ⟨p.process, window⟩))
      | none => scan ps

/-- A main window is among the windows read. -/
def ShowsMain (ws : List (Except IoError WindowView)) : Prop :=
  ∃ w, .ok w ∈ ws ∧ w.isMainSpotifyWindow = true

/-- Reading the windows fails, if at all, only behind a main window. -/
def ReadableUpToMain (ws : List (Except IoError WindowView)) : Prop :=
  ∀ pre e post, ws = pre ++ .error e :: post → ShowsMain pre

namespace ProcessView

def ShowsMain (p : ProcessView) : Prop :=
  ∃ ws, listProcessWindows p = .ok ws ∧ Scanner.ShowsMain ws

/-- The process can be opened, its threads listed and its windows read up to a main window. -/
def Readable (p : ProcessView) : Prop :=
  ∃ ws, listProcessWindows p = .ok ws ∧ ReadableUpToMain ws

end ProcessView

/-- Every Spotify process before the first one with a main window, and that one, is readable. -/
def Scannable (view : List ProcessView) : Prop :=
  ∀ pre p post, view = pre ++ p :: post → isSpotifyProcess p.baseName = true →
    (∀ q ∈ pre, isSpotifyProcess q.baseName = true → ¬ q.ShowsMain) → p.Readable

variable {w : WindowView} {ws : List (Except IoError WindowView)} {e : IoError}
  {p : ProcessView} {ps : List ProcessView}

theorem showsMain_cons_ok :
    ShowsMain (.ok w :: ws) ↔ w.isMainSpotifyWindow = true ∨ ShowsMain ws := by
  simp [ShowsMain, or_and_right, exists_or]

theorem not_readableUpToMain_cons_error : ¬ ReadableUpToMain (.error e :: ws) := by
  intro h
  obtain ⟨w, hw, -⟩ := h [] e ws rfl
  simp at hw

theorem readableUpToMain_cons_ok :
    ReadableUpToMain (.ok w :: ws) ↔ w.isMainSpotifyWindow = true ∨ ReadableUpToMain ws := by
  constructor
  · intro h
    by_cases hw : w.isMainSpotifyWindow = true
    · exact .inl hw
    · right
      intro pre e post he
      exact (showsMain_cons_ok.mp (h (.ok w :: pre) e post (by rw [he]; rfl))).resolve_left hw
  · intro h pre e post he
    cases pre with
    | nil => simp at he
    | cons x pre =>
      obtain ⟨rfl, hws⟩ := List.cons.inj he
      exact showsMain_cons_ok.mpr (h.imp_right fun h => h pre e post hws)

theorem findMainWindow_isOk :
    (∃ r, findMainWindow ws = .ok r) ↔ ReadableUpToMain ws := by
  induction ws with
  | nil => simp [findMainWindow, ReadableUpToMain]
  | cons x ws ih =>
    cases x with
    | error e => simp [findMainWindow, not_readableUpToMain_cons_error]
    | ok w =>
      rw [readableUpToMain_cons_ok, ← ih]
      by_cases hw : w.isMainSpotifyWindow = true <;> simp [findMainWindow, hw]

/-- The loop finds nothing exactly where no main window is shown. -/
theorem findMainWindow_eq_none (h : findMainWindow ws = .ok none) : ¬ ShowsMain ws := by
  induction ws with
  | nil => simp [ShowsMain]
  | cons x ws ih =>
    cases x with
    | error e => simp [findMainWindow] at h
    | ok w =>
      by_cases hw : w.isMainSpotifyWindow = true
      · simp [findMainWindow, hw] at h
      · simp only [findMainWindow, hw] at h
        simpa [showsMain_cons_ok, hw] using ih h

theorem findMainWindow_eq_some {window : WindowHandle} (h : findMainWindow ws = .ok (some window)) :
    ∃ w, .ok w ∈ ws ∧ w.isMainSpotifyWindow = true ∧ w.window = window := by
  induction ws with
  | nil => simp [findMainWindow] at h
  | cons x ws ih =>
    cases x with
    | error e => simp [findMainWindow] at h
    | ok w =>
      by_cases hw : w.isMainSpotifyWindow = true
      · exact ⟨w, by simp, hw, by simpa [findMainWindow, hw] using h⟩
      · simp only [findMainWindow, hw] at h
        obtain ⟨v, hv, hm⟩ := ih h
        exact ⟨v, by simp [hv], hm⟩

theorem scannable_nil : Scannable [] := by
  intro pre p post he
  simp at he

theorem scannable_cons_of_not_spotify (hp : isSpotifyProcess p.baseName = false) :
    Scannable (p :: ps) ↔ Scannable ps := by
  constructor
  · intro h pre q post he hq hpre
    apply h (p :: pre) q post (by rw [he]; rfl) hq
    intro x hx hs
    rcases List.mem_cons.mp hx with rfl | hx
    · simp [hp] at hs
    · exact hpre x hx hs
  · intro h pre q post he hq hpre
    cases pre with
    | nil =>
      obtain ⟨rfl, -⟩ := List.cons.inj he
      simp [hp] at hq
    | cons x pre =>
      obtain ⟨rfl, hps⟩ := List.cons.inj he
      exact h pre q post hps hq fun y hy => hpre y (List.mem_cons_of_mem _ hy)

theorem scannable_cons_of_spotify (hp : isSpotifyProcess p.baseName = true) :
    Scannable (p :: ps) ↔ p.Readable ∧ (p.ShowsMain ∨ Scannable ps) := by
  constructor
  · intro h
    refine ⟨h [] p ps rfl hp (by simp), ?_⟩
    by_cases hm : p.ShowsMain
    · exact .inl hm
    · right
      intro pre q post he hq hpre
      apply h (p :: pre) q post (by rw [he]; rfl) hq
      intro x hx hs
      rcases List.mem_cons.mp hx with rfl | hx
      · exact hm
      · exact hpre x hx hs
  · rintro ⟨hr, hm⟩ pre q post he hq hpre
    cases pre with
    | nil =>
      obtain ⟨rfl, -⟩ := List.cons.inj he
      exact hr
    | cons x pre =>
      obtain ⟨rfl, hps⟩ := List.cons.inj he
      exact hm.resolve_left (hpre p (by simp) hp) pre q post hps hq fun y hy =>
        hpre y (List.mem_cons_of_mem _ hy)

theorem scan_cons_of_not_spotify (hp : isSpotifyProcess p.baseName = false) :
    scan (p :: ps) = scan ps := by
  simp [scan, hp]

/-- What the scan of a Spotify process comes to. -/
theorem scan_cons_of_spotify (hp : isSpotifyProcess p.baseName = true) {r : Option SpotifyState} :
    scan (p :: ps) = .ok r ↔ ∃ ws found, listProcessWindows p = .ok ws ∧
      findMainWindow ws = .ok found ∧
      ((∃ window, found = some window ∧ r = some (.running ⟨p.process, window⟩)) ∨
        (found = none ∧ scan ps = .ok r)) := by
  simp only [scan, hp, Bool.not_true, Bool.false_eq_true, if_false, Except.bind_eq_ok]
  constructor
  · rintro ⟨ws, hws, found, hf, h⟩
    cases found with
    | some window => exact ⟨ws, _, hws, hf, .inl ⟨window, rfl, (Except.pure_eq_ok.mp h).symm⟩⟩
    | none => exact ⟨ws, _, hws, hf, .inr ⟨rfl, h⟩⟩
  · rintro ⟨ws, found, hws, hf, ⟨window, rfl, rfl⟩ | ⟨rfl, h⟩⟩
    · exact ⟨ws, hws, _, hf, rfl⟩
    · exact ⟨ws, hws, _, hf, h⟩

/-- `scan` returns no error exactly where nothing it reads fails. -/
theorem scan_isOk (view : List ProcessView) : (∃ r, scan view = .ok r) ↔ Scannable view := by
  induction view with
  | nil => simp [scan, scannable_nil]
  | cons p ps ih =>
    cases hp : isSpotifyProcess p.baseName with
    | false => rw [scan_cons_of_not_spotify hp, scannable_cons_of_not_spotify hp, ih]
    | true =>
      simp only [scan_cons_of_spotify hp, scannable_cons_of_spotify hp]
      constructor
      · rintro ⟨r, ws, found, hws, hf, h⟩
        refine ⟨⟨ws, hws, findMainWindow_isOk.mp ⟨found, hf⟩⟩, ?_⟩
        rcases h with ⟨window, rfl, -⟩ | ⟨-, h⟩
        · obtain ⟨w, hw, hm, -⟩ := findMainWindow_eq_some hf
          exact .inl ⟨ws, hws, w, hw, hm⟩
        · exact .inr (ih.mp ⟨r, h⟩)
      · rintro ⟨⟨ws, hws, hr⟩, hm⟩
        obtain ⟨found, hf⟩ := findMainWindow_isOk.mpr hr
        cases found with
        | some window => exact ⟨_, ws, _, hws, hf, .inl ⟨window, rfl, rfl⟩⟩
        | none =>
          have hn : ¬ p.ShowsMain := by
            rintro ⟨ws', hws', hm⟩
            obtain rfl := Except.ok.inj (hws.symm.trans hws')
            exact findMainWindow_eq_none hf hm
          obtain ⟨r, h⟩ := ih.mpr (hm.resolve_left hn)
          exact ⟨r, ws, _, hws, hf, .inr ⟨rfl, h⟩⟩

/-- A Spotify process, with the thread entries of a snapshot. -/
def spotify (pid : Except IoError Nat) (threads : List (Except IoError ThreadEntry)) :
    ProcessView :=
  ⟨9, .ok "Spotify.exe".toList, pid, .ok (), threads⟩

def utf16 (text : String) : List UInt16 := text.toList.map fun c => UInt16.ofNat c.toNat

def mainWindow : WindowView := ⟨100, 7, 0, utf16 "Spotify", utf16 "Chrome_WidgetWin_0"⟩

end BurntSushi.Scanner
