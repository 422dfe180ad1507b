import BurntSushi.Scanner.Step

/-! Which main windows of a frozen system the first scan finds. -/
namespace BurntSushi.Scanner

/-- All windows of a thread: the top-level ones and their descendants. -/
def ThreadEntry.allWindows (thread : ThreadEntry) : List WindowView :=
  thread.windows.flatMap fun top => top.root :: top.descendants

/-- The windows that are reached before `enum_proc` returns `FALSE`: the first top-level window and
the first descendant of it. -/
def ThreadEntry.firstWindows (thread : ThreadEntry) : List WindowView :=
  (thread.windows.take 1).flatMap fun top => top.root :: top.descendants.take 1

namespace ProcessView

/-- The thread belongs to the process. -/
def HasThread (p : ProcessView) (thread : ThreadEntry) : Prop :=
  .ok thread ∈ p.threads ∧ p.pid = .ok thread.ownerProcessId

/-- The calls of the OS that list the threads of the process succeed. -/
structure CallsSucceed (p : ProcessView) : Prop where
  pid : ∃ processId, p.pid = .ok processId
  snapshot : p.snapshot = .ok ()
  threads : ∀ thread ∈ p.threads, ∃ entry, thread = .ok entry

end ProcessView

/-- A Spotify process of the system and one of its main windows. -/
structure MainWindow (view : List ProcessView) (p : ProcessView) (w : WindowView) : Prop where
  mem : p ∈ view
  spotify : isSpotifyProcess p.baseName = true
  owned : ∃ thread, p.HasThread thread ∧ w ∈ thread.allWindows
  main : w.isMainSpotifyWindow = true

/-- The state is the running one of a Spotify process and one of its main windows, or there is no
such pair and it is the stopped one. -/
def Describes (view : List ProcessView) : SpotifyState → Prop
  | .running info => ∃ p w, MainWindow view p w ∧ info = ⟨p.process, w.window⟩
  | .stopped => ¬ ∃ p w, MainWindow view p w

/-- Some thread of a Spotify process has a main window as its first top-level window or as the
first descendant of that. -/
def MainComesFirst (view : List ProcessView) : Prop :=
  ∃ p ∈ view, isSpotifyProcess p.baseName = true ∧ ∃ thread, p.HasThread thread ∧
    ∃ w ∈ thread.firstWindows, w.isMainSpotifyWindow = true

variable {p : ProcessView} {view : List ProcessView} {thread : ThreadEntry} {w : WindowView}

/-- The enumeration stops behind its first item. -/
theorem enumWindows_enumProc {α : Type} (xs ys : List α) :
    enumWindows enumProc xs ys = ys ++ xs.take 1 := by
  cases xs <;> simp [enumWindows, enumProc]

theorem listThreadWindows_eq : listThreadWindows thread true = thread.firstWindows := by
  cases h : thread.windows <;>
    simp [listThreadWindows, ThreadEntry.firstWindows, enumWindows_enumProc, h]

theorem firstWindows_subset (h : w ∈ thread.firstWindows) : w ∈ thread.allWindows := by
  simp only [ThreadEntry.firstWindows, ThreadEntry.allWindows, List.mem_flatMap,
    List.mem_cons] at h ⊢
  obtain ⟨top, ht, hw⟩ := h
  exact ⟨top, List.mem_of_mem_take ht, hw.imp_right List.mem_of_mem_take⟩

/-- The windows of a process that are read are the first ones of its threads. -/
theorem listProcessWindows_eq_ok (hp : p.CallsSucceed) :
    ∃ ws, listProcessWindows p = .ok ws ∧ ReadableUpToMain ws ∧
      ∀ w, .ok w ∈ ws ↔ ∃ thread, p.HasThread thread ∧ w ∈ thread.firstWindows := by
  obtain ⟨⟨processId, hid⟩, hs, hok⟩ := hp
  simp only [listProcessWindows, listProcessThreads, hid, hs, listThreadWindows_eq]
  refine ⟨_, rfl, ?_, ?_⟩
  · intro pre e post he
    have hm := List.mem_append_right pre (List.mem_cons_self (a := Except.error e) (l := post))
    rw [← he, List.mem_flatMap] at hm
    obtain ⟨thread, ht, hm⟩ := hm
    obtain ⟨entry, rfl⟩ := hok thread (List.mem_filter.mp ht).1
    simp at hm
  · intro w
    simp only [List.mem_flatMap, List.mem_filter, ProcessView.HasThread, hid, Except.ok.injEq]
    constructor
    · rintro ⟨thread, ⟨ht, hown⟩, hw⟩
      obtain ⟨entry, rfl⟩ := hok thread ht
      exact ⟨entry, ⟨ht, by simpa using Eq.symm (of_decide_eq_true hown)⟩, by simpa using hw⟩
    · rintro ⟨entry, ⟨ht, hown⟩, hw⟩
      exact ⟨.ok entry, ⟨ht, by simp [hown]⟩, by simpa using hw⟩

theorem readable_of_callsSucceed (hp : p.CallsSucceed) : p.Readable := by
  obtain ⟨ws, hws, hr, -⟩ := listProcessWindows_eq_ok hp
  exact ⟨ws, hws, hr⟩

theorem showsMain_iff (hp : p.CallsSucceed) : p.ShowsMain ↔ ∃ thread, p.HasThread thread ∧
    ∃ w ∈ thread.firstWindows, w.isMainSpotifyWindow = true := by
  obtain ⟨ws, hws, -, hm⟩ := listProcessWindows_eq_ok hp
  simp only [ProcessView.ShowsMain, hws, Except.ok.injEq, exists_eq_left', ShowsMain, hm]
  constructor
  · rintro ⟨w, ⟨thread, ht, hw⟩, hmain⟩
    exact ⟨thread, ht, w, hw, hmain⟩
  · rintro ⟨thread, ht, w, hw, hmain⟩
    exact ⟨w, ⟨thread, ht, hw⟩, hmain⟩

theorem scan_eq_none (h : scan view = .ok none) :
    ∀ p ∈ view, isSpotifyProcess p.baseName = true → ¬ p.ShowsMain := by
  induction view with
  | nil => simp
  | cons q ps ih =>
    intro p hp hs
    cases hq : isSpotifyProcess q.baseName with
    | false =>
      rw [scan_cons_of_not_spotify hq] at h
      rcases List.mem_cons.mp hp with rfl | hp
      · simp [hq] at hs
      · exact ih h p hp hs
    | true =>
      obtain ⟨ws, found, hws, hf, ⟨window, -, hn⟩ | ⟨rfl, h⟩⟩ := (scan_cons_of_spotify hq).mp h
      · simp at hn
      · rcases List.mem_cons.mp hp with rfl | hp
        · rintro ⟨ws', hws', hm⟩
          obtain rfl := Except.ok.inj (hws.symm.trans hws')
          exact findMainWindow_eq_none hf hm
        · exact ih h p hp hs

/-- What is published belongs to a Spotify process and one of the windows read of it. -/
theorem scan_eq_some {newState : SpotifyState} (h : scan view = .ok (some newState)) :
    ∃ p ∈ view, isSpotifyProcess p.baseName = true ∧ ∃ ws w, listProcessWindows p = .ok ws ∧
      .ok w ∈ ws ∧ w.isMainSpotifyWindow = true ∧ newState = .running ⟨p.process, w.window⟩ := by
  induction view with
  | nil => simp [scan] at h
  | cons q ps ih =>
    cases hq : isSpotifyProcess q.baseName with
    | false =>
      rw [scan_cons_of_not_spotify hq] at h
      obtain ⟨p, hp, hrest⟩ := ih h
      exact ⟨p, List.mem_cons_of_mem _ hp, hrest⟩
    | true =>
      obtain ⟨ws, found, hws, hf, ⟨window, rfl, hn⟩ | ⟨rfl, h⟩⟩ := (scan_cons_of_spotify hq).mp h
      · obtain ⟨w, hw, hm, rfl⟩ := findMainWindow_eq_some hf
        exact ⟨q, List.mem_cons_self, hq, ws, w, hws, hw, hm, Option.some.inj hn⟩
      · obtain ⟨p, hp, hrest⟩ := ih h
        exact ⟨p, List.mem_cons_of_mem _ hp, hrest⟩

theorem mainWindow_of_first (hp : p ∈ view) (hs : isSpotifyProcess p.baseName = true)
    (ht : p.HasThread thread) (hw : w ∈ thread.firstWindows) (hm : w.isMainSpotifyWindow = true) :
    MainWindow view p w :=
  ⟨hp, hs, ⟨thread, ht, firstWindows_subset hw⟩, hm⟩

/-- On a frozen system whose calls succeed, `scan` publishes a main window of a Spotify process
exactly if there is one, provided that one comes first in its thread or none exists. -/
theorem scan_describes_iff (view : List ProcessView) (hv : ∀ p ∈ view, p.CallsSucceed) :
    ∃ s, SpotifyProcessScanner.new.step (.scan view) = some s ∧
      (Describes view s.notifier.value ↔
        ((∃ p w, MainWindow view p w) → MainComesFirst view)) := by
  have hok : Scannable view := fun pre p post he _ _ =>
    readable_of_callsSucceed (hv p (by simp [he]))
  obtain ⟨r, hr⟩ := (scan_isOk view).mpr hok
  cases r with
  | none =>
    refine ⟨SpotifyProcessScanner.new.goto .loop, by
      simp [SpotifyProcessScanner.step, SpotifyProcessScanner.new, hr], ?_⟩
    have hnot : ¬ MainComesFirst view := by
      rintro ⟨p, hp, hs, hfirst⟩
      exact scan_eq_none hr p hp hs ((showsMain_iff (hv p hp)).mpr hfirst)
    exact ⟨fun h hm => absurd hm h, fun h hm => hnot (h hm)⟩
  | some newState =>
    refine ⟨SpotifyProcessScanner.new.changeState newState, by
      simp [SpotifyProcessScanner.step, SpotifyProcessScanner.new, hr], ?_⟩
    obtain ⟨p, hp, hs, ws, w, hws, hw, hm, rfl⟩ := scan_eq_some hr
    obtain ⟨ws', hws', -, hfirst⟩ := listProcessWindows_eq_ok (hv p hp)
    obtain rfl := Except.ok.inj (hws.symm.trans hws')
    obtain ⟨thread, ht, hw⟩ := (hfirst w).mp hw
    refine ⟨fun _ _ => ⟨p, hp, hs, thread, ht, w, hw, hm⟩, ?_⟩
    intro _
    exact ⟨p, w, mainWindow_of_first hp hs ht hw hm, rfl⟩

/-- A main window behind another top-level window of its thread. -/
def secondWindow : List ProcessView :=
  [spotify (.ok 9) [.ok ⟨9, 5, [⟨⟨99, 0, 0, [], []⟩, []⟩, ⟨mainWindow, []⟩]⟩]]

/-- A main window that is the first descendant of a first top-level window. -/
def firstDescendant : List ProcessView :=
  [spotify (.ok 9) [.ok ⟨9, 5, [⟨⟨99, 0, 0, [], []⟩, [mainWindow]⟩]⟩]]

theorem callsSucceed_spotify (processId : Nat) (entries : List ThreadEntry) :
    (spotify (.ok processId) (entries.map .ok)).CallsSucceed := by
  refine ⟨⟨_, rfl⟩, rfl, ?_⟩
  intro thread ht
  obtain ⟨entry, -, rfl⟩ := List.mem_map.mp ht
  exact ⟨entry, rfl⟩

theorem mainWindow_secondWindow : ∃ p w, MainWindow secondWindow p w :=
  ⟨_, mainWindow, List.mem_cons_self, by decide,
    ⟨⟨9, 5, [⟨⟨99, 0, 0, [], []⟩, []⟩, ⟨mainWindow, []⟩]⟩, ⟨by simp [spotify], rfl⟩,
      by simp [ThreadEntry.allWindows]⟩, by decide⟩

theorem scan_describes_iff_firstDescendant :
    ∃ s, SpotifyProcessScanner.new.step (.scan firstDescendant) = some s ∧
      (Describes firstDescendant s.notifier.value ↔
        ((∃ p w, MainWindow firstDescendant p w) → MainComesFirst firstDescendant)) :=
  scan_describes_iff firstDescendant (by
    intro p hp
    obtain rfl := List.mem_singleton.mp hp
    exact callsSucceed_spotify 9 [⟨9, 5, [⟨⟨99, 0, 0, [], []⟩, [mainWindow]⟩]⟩])

/-- The scan publishes nothing although there is a main window. -/
theorem scan_secondWindow_missed :
    (∀ p ∈ secondWindow, p.CallsSucceed) ∧
      ∃ s, SpotifyProcessScanner.new.step (.scan secondWindow) = some s ∧
        ¬ Describes secondWindow s.notifier.value := by
  refine ⟨?_, _, rfl, fun h => h mainWindow_secondWindow⟩
  intro p hp
  obtain rfl := List.mem_singleton.mp hp
  exact callsSucceed_spotify 9 [⟨9, 5, [⟨⟨99, 0, 0, [], []⟩, []⟩, ⟨mainWindow, []⟩]⟩]

end BurntSushi.Scanner
