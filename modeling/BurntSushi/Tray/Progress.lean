import BurntSushi.Tray.Step

/-! The end of `run`: how many steps it takes, and what it can wait for. -/
namespace BurntSushi.Tray

open Lts
open Channel (Oneshot Watch)

namespace Run

/-- The steps that the two threads take by themselves. -/
def own (x : Run × Label) : Bool :=
  match x.2 with
  | .sendStart => true
  | .quit => true
  | .sendExit => true
  | .dropSender => true
  | .start => true
  | .waitForExit => true
  | .shuttingDown => true
  | .stop => true
  | .post => true
  | .exiting => true
  | _ => false

/-- How far the UI thread is from its end. -/
def uiRank : Ui → Nat
  | .built => 4
  | .dispatching => 3
  | .menu => 3
  | .left => 2
  | .returning => 1
  | .building => 4
  | _ => 0

/-- How far `run` is from its end. -/
def mainRank : Main → Nat
  | .awaitStart => 11
  | .select .entered => 10
  | .select .changed => 9
  | .select .joining => 8
  | .shuttingDown => 7
  | .stopping => 6
  | .posting => 5
  | .exit .entered => 4
  | .exit .changed => 3
  | .exit .joining => 2
  | .exiting => 1
  | .returned => 0
  | .panicked => 0
  | .aborted => 0

def rank (s : Run) : Nat := uiRank s.ui + mainRank s.main

/-- Exit has been chosen in the menu, or the `select!` is left. -/
def Leaving (s : Run) : Prop :=
  s.quit = true ∨ uiRank s.ui < 3 ∨ mainRank s.main < 8

/-- A `WM_QUIT` comes after the start, and is there for as long as `exit` waits for its effect. -/
structure QuitInv (s : Run) : Prop where
  inv : Inv s
  started : s.quit = true → s.ui ≠ .building ∧ s.ui ≠ .built
  posted : mainRank s.main < 5 → s.ui = .dispatching ∨ s.ui = .menu → s.quit = true

/-- `run` has come to its end, by itself or by a panic. -/
def Done (s : Run) : Prop := s.main = .returned ∨ s.main = .panicked ∨ s.main = .aborted

/-- The two threads take at most 15 steps by themselves, and can take one from the moment on at
which Exit is chosen or the `select!` is left, until `run` has come to its end. -/
structure Completes (logs : Bool) (tr : List (Run × Label)) (s : Run) : Prop where
  steps : tr.countP own ≤ 15
  leaving : ∀ tr' t, Trace (step logs) s tr' t → s.Leaving → t.Leaving
  progress : s.Leaving → ¬ s.Done → s.ui ≠ .menu →
    ∃ l, own (s, l) = true ∧ (step logs s l).isSome = true

variable {logs : Bool} {s t : Run} {l : Label} {tr tr' : List (Run × Label)} {wait : Wait}

theorem rank_waitForExit {finish : Run → Run} {main : Wait → Main}
    (hI : Inv s) (hm : s.main = main wait) (hh : wait = .changed → s.uiThread = true)
    (h : s.waitForExit wait finish main = some t)
    (hfinish : (finish s).ui = s.ui ∧ mainRank (finish s).main < mainRank (main .joining))
    (hmain : mainRank (main .joining) < mainRank (main .changed) ∧
      mainRank (main .changed) < mainRank (main .entered)) :
    t.rank < s.rank := by
  obtain ⟨hu, hlt⟩ := hfinish
  rcases waitForExit_cases hI hm hh h with ⟨rfl, -, rfl⟩ | ⟨rfl, -, rfl⟩ | ⟨rfl, -, -, rfl⟩ |
    ⟨rfl, -, rfl⟩ <;> simp only [rank, hm, hu] <;> omega

theorem quitInv_initial : QuitInv initial :=
  ⟨inv_initial, by simp [initial], by simp [initial, mainRank]⟩

/-- A tray that is being left has been built. -/
theorem QuitInv.built (hQ : QuitInv s) (hl : s.Leaving) : s.ui ≠ .building ∧ s.ui ≠ .built := by
  rcases hl with hq | hu | hm
  · exact hQ.started hq
  · constructor
    · intro he
      simp [he, uiRank] at hu
    · intro he
      simp [he, uiRank] at hu
  · apply hQ.inv.started
    intro he
    simp [he, mainRank] at hm

/-- A step after which a later step of `run` is next. -/
theorem QuitInv.of_main (hQ : QuitInv s) (hI : Inv t) (hu : t.ui = s.ui)
    (hquit : t.quit = s.quit) (hp : mainRank t.main < 5 → mainRank s.main < 5) : QuitInv t := by
  refine ⟨hI, ?_, ?_⟩
  · rw [hu, hquit]
    exact hQ.started
  · rw [hu, hquit]
    intro hlt
    exact hQ.posted (hp hlt)

theorem leaving_of_main (hu : t.ui = s.ui) (hquit : t.quit = s.quit)
    (hm : mainRank t.main ≤ mainRank s.main) (hl : s.Leaving) : t.Leaving := by
  simp only [Leaving, hu, hquit] at hl ⊢
  rcases hl with hl | hl | hl
  · exact .inl hl
  · exact .inr (.inl hl)
  · exact .inr (.inr (by omega))

/-- Neither the user nor any other branch puts the end of `run` off. -/
theorem rank_step (hQ : QuitInv s) (hb : Builds s l) (hc : Calm s l) (h : Step logs s l t) :
    QuitInv t ∧ (s.Leaving → t.Leaving) ∧ t.rank + (if own (s, l) then 1 else 0) ≤ s.rank := by
  have hI := inv_step hQ.inv hb hc h
  cases h with
  | @buildUi ok hu =>
    cases ok with
    | false => exact absurd rfl hb
    | true =>
      refine ⟨⟨hI, fun hq => absurd hu (hQ.started hq).1, by simp⟩, ?_, ?_⟩
      · intro hl
        exact absurd hu (hQ.built hl).1
      · simp [rank, hu, uiRank, own]
  | sendStart hu =>
    obtain ⟨hm, he⟩ := sendStart_eq hQ.inv hu
    rw [he] at hI ⊢
    refine ⟨⟨hI, by simp, by simp [hm, mainRank]⟩, ?_, ?_⟩
    · intro hl
      exact absurd hu (hQ.built hl).2
    · simp only [rank, hu, uiRank, own, if_true]
      omega
  | sendFailed hu => exact absurd hu hQ.inv.ui.1
  | showMenu hu =>
    refine ⟨⟨hI, by simp, fun hm _ => hQ.posted hm (.inl hu)⟩, ?_, ?_⟩
    · simp [Leaving, hu, uiRank]
    · simp [rank, hu, uiRank, own]
  | @closeMenu exit hu =>
    refine ⟨⟨hI, by simp, fun hm _ => by simp [hQ.posted hm (.inr hu)]⟩, ?_, ?_⟩
    · simp only [Leaving, hu, uiRank, Bool.or_eq_true]
      rintro (hq | hl | hl)
      · exact .inl (.inl hq)
      · omega
      · exact .inr (.inr hl)
    · simp [rank, hu, uiRank, own]
  | quit hu hq =>
    refine ⟨⟨hI, by simp, by simp⟩, fun _ => .inr (.inl (by simp [uiRank])), ?_⟩
    simp only [rank, hu, uiRank, own, if_true]
    omega
  | sendExit hu =>
    have hu := hu.resolve_right hQ.inv.ui.2.1
    rw [sendExit_eq hQ.inv hu] at hI ⊢
    refine ⟨⟨hI, by simp, by simp⟩, fun _ => .inr (.inl (by simp [uiRank])), ?_⟩
    simp only [rank, hu, uiRank, own, if_true]
    omega
  | dropSender hu =>
    refine ⟨⟨hI, by simp, by simp⟩, fun _ => .inr (.inl (by simp [uiRank])), ?_⟩
    simp only [rank, hu, uiRank, own, if_true]
    omega
  | start hm ht =>
    obtain ⟨-, rfl⟩ := (awaitStart_eq_some hQ.inv hm).mp ht
    refine ⟨hQ.of_main hI rfl rfl ?_, leaving_of_main rfl rfl ?_, ?_⟩ <;>
      simp [rank, hm, mainRank, own]
  | branch hm hb =>
    refine ⟨hQ.of_main hI rfl rfl ?_, leaving_of_main rfl rfl ?_, ?_⟩ <;>
      rcases hm with hm | hm <;> simp [rank, hm, Run.leaveSelect, mainRank, own]
  | @waitSelect wait _ hm ht =>
    have hh := hQ.inv.changed (.inl hm)
    have hlt := rank_waitForExit hQ.inv hm hh ht ⟨rfl, by simp [leaveSelect, mainRank]⟩ (by decide)
    rcases waitForExit_cases hQ.inv hm hh ht with ⟨rfl, -, rfl⟩ | ⟨rfl, -, rfl⟩ |
        ⟨rfl, -, -, rfl⟩ | ⟨rfl, -, rfl⟩ <;>
      exact ⟨hQ.of_main hI rfl rfl (by simp [leaveSelect, mainRank]),
        leaving_of_main rfl rfl (by simp [hm, leaveSelect, mainRank]), hlt⟩
  | @waitExit wait _ hm ht =>
    have hh := hQ.inv.changed (.inr hm)
    have hlt := rank_waitForExit hQ.inv hm hh ht ⟨rfl, by simp [endExit, mainRank]⟩ (by decide)
    rcases waitForExit_cases hQ.inv hm hh ht with ⟨rfl, -, rfl⟩ | ⟨rfl, -, rfl⟩ |
        ⟨rfl, -, -, rfl⟩ | ⟨rfl, -, rfl⟩ <;>
      exact ⟨hQ.of_main hI rfl rfl (by simp [hm, mainRank]),
        leaving_of_main rfl rfl (by simp [hm, endExit, mainRank]), hlt⟩
  | shuttingDown hm hl =>
    refine ⟨hQ.of_main hI rfl rfl ?_, leaving_of_main rfl rfl ?_, ?_⟩ <;>
      simp [rank, hm, mainRank, own]
  | stop hm =>
    refine ⟨hQ.of_main hI rfl rfl ?_, leaving_of_main rfl rfl ?_, ?_⟩ <;>
      simp [rank, hm, mainRank, own]
  | post hm =>
    have hu := hQ.inv.started (by simp [hm])
    refine ⟨⟨hI, fun _ => hu, ?_⟩, fun _ => .inr (.inr (by simp [Run.post, mainRank])), ?_⟩
    · rintro - (hu | hu) <;> simp [Run.post] at hu ⊢ <;> simp [hu]
    · simp [rank, hm, Run.post, mainRank, own]
  | exiting hm hl =>
    refine ⟨hQ.of_main hI rfl rfl ?_, leaving_of_main rfl rfl ?_, ?_⟩ <;>
      simp [rank, hm, mainRank, own]
  | @update res hu ha =>
    obtain ⟨updateRestart, updateTask, he⟩ := s.update_eq res
    rw [he] at hI ⊢
    exact ⟨hQ.of_main hI rfl rfl id, leaving_of_main rfl rfl (Nat.le_refl _), by simp [rank, own]⟩
  | unwind hp => exact absurd rfl hc.1
  | abort hu => exact absurd rfl hc.2

theorem Over.mainRank (hO : Over s) : mainRank s.main = 0 := by
  rcases hO.main with hm | ⟨hm, -⟩ <;> simp [hm, Run.mainRank]

theorem Over.leaving (hO : Over s) : s.Leaving := by
  refine .inr (.inr ?_)
  rw [hO.mainRank]
  decide

/-- A panic is an end of `run` as well. -/
theorem rank_of_panics (hc : ¬ Calm s l) (h : Step logs s l t) :
    t.rank + (if own (s, l) then 1 else 0) ≤ s.rank := by
  cases h with
  | unwind hp => simp [rank, Run.unwind, Run.mainRank, own]
  | abort hu => simp [rank, Run.abort, uiRank, Run.mainRank, own]
  | _ => simp [Calm] at hc

/-- The UI thread comes to its end after a panic too. -/
theorem rank_of_over (hO : Over s) (h : Step logs s l t) :
    t.rank + (if own (s, l) then 1 else 0) ≤ s.rank := by
  have h₀ := hO.mainRank
  rcases over_cases hO h with ⟨rfl, hu, rfl⟩ | ⟨exit, rfl, hu, rfl⟩ | ⟨rfl, hu, rfl⟩ |
    ⟨rfl, hu, rfl⟩ | ⟨rfl, hu, rfl⟩ | ⟨rfl, hu, rfl⟩
  · simp [rank, h₀, hu, uiRank, own]
  · simp [rank, h₀, hu, uiRank, own]
  · simp [rank, h₀, hu, uiRank, own]
  · simp [rank, h₀, hu, uiRank, own]
  · simp [rank, h₀, hu, uiRank, own]
  · simp [rank, Run.abort, hu, uiRank, Run.mainRank, own]

/-- Once the UI thread has ended, `wait_for_exit` has nothing to wait for. -/
theorem waitForExit_isSome {finish : Run → Run} {main : Wait → Main} (hI : Inv s)
    (hu : s.ui = .ended) (hh : wait = .changed → s.uiThread = true) :
    (s.waitForExit wait finish main).isSome = true := by
  cases wait with
  | entered =>
    simp only [waitForExit]
    split <;> rfl
  | changed =>
    have hthread := hh rfl
    have hv := hI.value.mpr (.inr hu)
    have hne : s.exit.receiver ≠ some s.exit.version := by
      simp [hI.receiver hthread, hI.version, hv]
    simp [waitForExit, Watch.changed_eq_ready.mpr ⟨hne, rfl⟩, hthread]
  | joining => simp [waitForExit, hu]

/-- With the UI thread at its end, `run` can always go on. -/
theorem own_of_ended (hI : Inv s) (hu : s.ui = .ended) (hr : ¬ s.Done) :
    ∃ l, own (s, l) = true ∧ (step logs s l).isSome = true := by
  cases hm : s.main with
  | awaitStart =>
    have hstart := (awaitStart_eq_some hI hm).mpr ⟨by simp [hu], rfl⟩
    exact ⟨.start, rfl, by simp [step, hm, hstart]⟩
  | select wait =>
    refine ⟨.waitForExit, rfl, ?_⟩
    simp only [step, hm]
    exact waitForExit_isSome hI hu (hI.changed (.inl hm))
  | shuttingDown => exact ⟨.shuttingDown, rfl, by simp [step, hm, log, hu]⟩
  | stopping => exact ⟨.stop, rfl, by simp [step, hm]⟩
  | posting => exact ⟨.post, rfl, by simp [step, hm]⟩
  | exit wait =>
    refine ⟨.waitForExit, rfl, ?_⟩
    simp only [step, hm]
    exact waitForExit_isSome hI hu (hI.changed (.inr hm))
  | exiting => exact ⟨.exiting, rfl, by simp [step, hm, log, hu]⟩
  | returned => exact absurd (.inl hm) hr
  | panicked => exact absurd (.inr (.inl hm)) hr
  | aborted => exact absurd (.inr (.inr hm)) hr

/-- Without a `WM_QUIT`, it is `run` that has to go on, and it can. -/
theorem own_of_dispatching (hQ : QuitInv s) (hl : s.Leaving) (hu : s.ui = .dispatching) :
    ∃ l, own (s, l) = true ∧ (step logs s l).isSome = true := by
  cases hq : s.quit with
  | true => exact ⟨.quit, rfl, by simp [step, hu, hq]⟩
  | false =>
    have hlt : mainRank s.main < 8 := by simpa [Leaving, hq, hu, uiRank] using hl
    have hle : ¬ mainRank s.main < 5 := by
      intro hlt
      simpa [hq] using hQ.posted hlt (.inl hu)
    cases hm : s.main with
    | shuttingDown => exact ⟨.shuttingDown, rfl, by simp [step, hm, log, hu]⟩
    | stopping => exact ⟨.stop, rfl, by simp [step, hm]⟩
    | posting => exact ⟨.post, rfl, by simp [step, hm]⟩
    | select wait => cases wait <;> simp [hm, mainRank] at hlt
    | exit wait => cases wait <;> simp [hm, mainRank] at hle
    | _ => simp [hm, mainRank] at hlt hle

theorem own_of_leaving (hQ : QuitInv s) (hl : s.Leaving) (hr : ¬ s.Done) (hu : s.ui ≠ .menu) :
    ∃ l, own (s, l) = true ∧ (step logs s l).isSome = true := by
  cases hui : s.ui with
  | building => exact absurd hui (hQ.built hl).1
  | built => exact absurd hui (hQ.built hl).2
  | failed => exact absurd hui hQ.inv.ui.1
  | failedSent => exact absurd hui hQ.inv.ui.2.1
  | panicked => exact absurd hui hQ.inv.ui.2.2.1
  | aborted => exact absurd hui hQ.inv.ui.2.2.2
  | menu => exact absurd hui hu
  | dispatching => exact own_of_dispatching hQ hl hui
  | left => exact ⟨.sendExit, rfl, by simp [step, hui]⟩
  | returning => exact ⟨.dropSender, rfl, by simp [step, hui]⟩
  | ended => exact own_of_ended hQ.inv hui hr

/-- What a step keeps, whether `run` goes on or is over. -/
theorem completes_step (hb : Builds s l) (hs : QuitInv s ∨ Over s) (h : Step logs s l t) :
    (QuitInv t ∨ Over t) ∧ (s.Leaving → t.Leaving) ∧
      t.rank + (if own (s, l) then 1 else 0) ≤ s.rank := by
  rcases hs with hQ | hO
  · by_cases hc : Calm s l
    · obtain ⟨hQ', hl, hr⟩ := rank_step hQ hb hc h
      exact ⟨.inl hQ', hl, hr⟩
    · have hO' := over_of_panics hQ.inv hc h
      exact ⟨.inr hO', fun _ => hO'.leaving, rank_of_panics hc h⟩
  · have hO' := over_step hO h
    exact ⟨.inr hO', fun _ => hO'.leaving, rank_of_over hO h⟩

/-- Once Exit is chosen or the `select!` is left, whatever the user and the other branches do, there
is a next step of the two threads until `run` has returned or panicked, unless the menu is open; and
in the whole run they take no more than 15. -/
theorem completes_trace (h : Trace (step logs) initial tr s) (hb : Along Builds tr) :
    Completes logs tr s := by
  obtain ⟨hs, hle⟩ := h.countP_add_le hb (.inl quitInv_initial) own rank fun s l t hs hb h =>
    have hr := completes_step hb hs (step_iff.mp h)
    ⟨hr.1, hr.2.2⟩
  have h₀ : rank initial = 15 := rfl
  refine ⟨by omega, ?_, ?_⟩
  · intro tr' t h' hl
    refine (h'.invariant (P := fun s => (QuitInv s ∨ Over s) ∧ s.Leaving) ⟨hs, hl⟩ ?_).2
    rintro s l t ⟨hs, hl⟩ h
    have h := step_iff.mp h
    have hb : Builds s l := by
      rintro rfl
      cases h with
      | buildUi hu =>
        rcases hs with hQ | hO
        · exact (hQ.built hl).1 hu
        · exact hO.ui.1 hu
    obtain ⟨hs', hl', -⟩ := completes_step hb hs h
    exact ⟨hs', hl' hl⟩
  · intro hl hd hu
    rcases hs with hQ | hO
    · exact own_of_leaving hQ hl hd hu
    · rcases hO.main with hm | ⟨hm, -⟩
      · exact absurd (.inr (.inl hm)) hd
      · exact absurd (.inr (.inr hm)) hd

/-- The application is done, and the menu is open when Ctrl-C comes. -/
def menuOpen : List Label :=
  [.buildUi true, .sendStart, .start, .waitForExit, .showMenu, .branch .ctrlC]

theorem completes_menuOpen :
    Completes true (trail (step true) initial menuOpen) (after (step true) initial menuOpen) :=
  completes_trace (trace_after (by decide)) (along_trail (by simp [menuOpen, Builds]))

end Run

end BurntSushi.Tray
