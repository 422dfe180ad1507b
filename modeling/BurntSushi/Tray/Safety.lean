import BurntSushi.Tray.Step

/-! The unwraps of the tray and of its UI thread, with a tray that is built and with one that is
not. -/
namespace BurntSushi.Tray

open Lts
open Channel (Oneshot Watch)

namespace Run

/-- The state of the two threads once `build_ui` has failed. -/
def Failed (s : Run) : Prop :=
  s.ui = .failed ∧ s.main = .awaitStart ∧ s.start = .new ∧ s.exit.receiver.isSome = true ∨
    (s.ui = .failedSent ∨ s.ui = .returning ∨ s.ui = .ended ∨ s.ui = .panicked) ∧
      s.start.value = some false ∧
      (s.main = .awaitStart ∧ s.ui ≠ .panicked ∧ s.exit.receiver.isSome = true ∨
        s.main = .panicked ∧ s.exit.receiver = none)

/-- `run` has panicked outside the tray. -/
def Unwound (tr : List (Run × Label)) : Prop := ∃ x ∈ tr, x.2 = .unwind

/-- The tray is built, or the program does not get past that; its unwraps panic only where it is not
or where `run` has panicked before; `exit` returns to a tray that is no longer there. -/
structure Sound (tr : List (Run × Label)) (s : Run) : Prop where
  main : s.main = .panicked → ¬ Along Builds tr ∨ Unwound tr
  ui : s.ui = .panicked ↔ ∃ x ∈ tr, x.2 = .sendExit ∧ x.1.main = .panicked
  failed : ¬ Along Builds tr → s.main = .awaitStart ∨ s.main = .panicked
  exited : s.main = .exiting ∨ s.main = .returned →
    s.exit.value = true ∧ (s.ui = .returning ∨ s.ui = .ended)

/-- The `select!` has been left because the tray was, whose thread is joined there. -/
def Joined (tr : List (Run × Label)) : Prop :=
  ∃ x ∈ tr, x.1.main = .select .joining ∧ x.2 = .waitForExit

def Posted (tr : List (Run × Label)) : Prop := ∃ x ∈ tr, x.2 = .post

/-- Whether the handle is closed, before the post, and what follows from it, after it. -/
def StrayInv (tr : List (Run × Label)) (s : Run) : Prop :=
  match s.main with
  | .awaitStart => ¬ Joined tr ∧ ¬ Posted tr ∧ s.stray = false
  | .select _ => ¬ Joined tr ∧ ¬ Posted tr ∧ s.stray = false
  | .panicked => s.stray = true ↔ Posted tr ∧ Joined tr
  | .aborted => s.stray = true ↔ Posted tr ∧ Joined tr
  | .exit _ => Posted tr ∧ (s.stray = true ↔ Joined tr)
  | .exiting => Posted tr ∧ (s.stray = true ↔ Joined tr)
  | .returned => Posted tr ∧ (s.stray = true ↔ Joined tr)
  | _ => ¬ Posted tr ∧ s.stray = false ∧ (Joined tr ↔ s.uiThread = false) ∧
      (s.uiThread = false → s.ui = .ended)

/-- The futures of the `select!` are there. -/
def selects : Main → Bool
  | .awaitStart => true
  | .select _ => true
  | _ => false

/-- The restart signal of the update: its receiver is gone with the `select!`, and the task, which
sends it at most once, panics without it. -/
structure UpdateInv (tr : List (Run × Label)) (s : Run) : Prop where
  receiver : s.main ≠ .panicked → s.updateRestart.receiver = selects s.main
  sent : s.updateRestart.value = some () → ∃ x ∈ tr, x.2 = .update (.ok true)
  panicked : s.updateTask = .panicked ↔
    ∃ x ∈ tr, x.2 = .update (.ok true) ∧ x.1.main ≠ .select .changed

/-- The update ends `run` only by a restart, of which a `run` that is over already is not told. -/
structure UpdateHandled (tr : List (Run × Label)) (s : Run) : Prop where
  restarts : AlongPast (fun past _ l => l = .branch .update →
    ∃ x ∈ past, x.2 = .update (.ok true)) tr
  panicked : s.updateTask = .panicked ↔
    ∃ x ∈ tr, x.2 = .update (.ok true) ∧ x.1.main ≠ .select .changed

variable {logs : Bool} {s t : Run} {l : Label} {tr tr' : List (Run × Label)} {wait : Wait}

theorem failed_step (hF : Failed s) (h : Step logs s l t) : Failed t := by
  cases h with
  | buildUi hu => simp [Failed, hu] at hF
  | sendStart hu => simp [Failed, hu] at hF
  | sendFailed hu =>
    obtain ⟨hm, hstart, hr⟩ : s.main = .awaitStart ∧ s.start = .new ∧
        s.exit.receiver.isSome = true := by simpa [Failed, hu] using hF
    refine .inr ?_
    simp [Run.sendStart, hstart, Oneshot.send, Oneshot.new, hm, hr]
  | showMenu hu => simp [Failed, hu] at hF
  | closeMenu hu => simp [Failed, hu] at hF
  | quit hu hq => simp [Failed, hu] at hF
  | sendExit hu =>
    have hu : s.ui = .failedSent := by
      rcases hu with hu | hu
      · simp [Failed, hu] at hF
      · exact hu
    obtain ⟨hstart, hm⟩ : s.start.value = some false ∧
        (s.main = .awaitStart ∧ s.exit.receiver.isSome = true ∨
          s.main = .panicked ∧ s.exit.receiver = none) := by
      simpa [Failed, hu] using hF
    refine .inr ?_
    simp only [Run.sendExit, Watch.send]
    rcases hm with ⟨hm, hr⟩ | ⟨hm, hr⟩ <;> simp_all [Watch.dropSender]
  | dropSender hu =>
    have hm : s.start.value = some false ∧
        (s.main = .awaitStart ∧ s.exit.receiver.isSome = true ∨
          s.main = .panicked ∧ s.exit.receiver = none) := by
      simpa [Failed, hu] using hF
    exact .inr (by simpa [Watch.dropSender] using hm)
  | start hm ht =>
    rcases hF with ⟨-, -, hstart, -⟩ | ⟨hu, hstart, -⟩
    · simp [Run.awaitStart, hstart, Oneshot.poll, Oneshot.new] at ht
    · simp only [Run.awaitStart, Oneshot.poll, hstart, Option.some.injEq] at ht
      subst ht
      exact .inr ⟨hu, hstart, .inr ⟨rfl, rfl⟩⟩
  | branch hm hb => rcases hm with hm | hm <;> simp [Failed, hm] at hF
  | waitSelect hm ht => simp [Failed, hm] at hF
  | waitExit hm ht => simp [Failed, hm] at hF
  | shuttingDown hm hl => simp [Failed, hm] at hF
  | stop hm => simp [Failed, hm] at hF
  | post hm => simp [Failed, hm] at hF
  | exiting hm hl => simp [Failed, hm] at hF
  | unwind hp =>
    simp only [panics] at hp
    split at hp <;> simp_all [Failed]
  | abort hu => simp [Failed, hu] at hF
  | update hu ha =>
    simp only [awaits] at ha
    split at ha <;> simp_all [Failed]

/-- A run is one with a tray, in which `run` goes on or is over, or one in which `build_ui` has
failed. -/
inductive Went (tr : List (Run × Label)) (s : Run) : Prop
  | on (hb : Along Builds tr) (hI : Inv s) : Went tr s
  | ended (hb : Along Builds tr) (hO : Over s) (hu : s.main = .panicked → Unwound tr) : Went tr s
  | failed (hb : ¬ Along Builds tr) (hF : Failed s) : Went tr s

theorem unwound_concat : Unwound (tr ++ [(s, l)]) ↔ Unwound tr ∨ l = .unwind := by
  simp [Unwound, or_and_right, exists_or]

theorem Inv.went_step (hb : Along Builds tr) (hI : Inv s) (h : Step logs s l t) :
    Went (tr ++ [(s, l)]) t := by
  by_cases hl : Builds s l
  · have hb' : Along Builds (tr ++ [(s, l)]) := along_concat.mpr ⟨hb, hl⟩
    by_cases hc : Calm s l
    · exact .on hb' (inv_step hI hl hc h)
    · refine .ended hb' (over_of_panics hI hc h) ?_
      intro hm
      cases h with
      | unwind hp => exact unwound_concat.mpr (.inr rfl)
      | abort hu => cases hm
      | _ => simp [Calm] at hc
  · refine .failed (fun h => hl (along_concat.mp h).2) ?_
    simp only [Builds, ne_eq, not_not] at hl
    subst hl
    cases h with
    | buildUi hu =>
      have hm : s.main = .awaitStart := by
        by_contra hm
        exact (hI.started hm).1 hu
      have hr := hI.receiver (hI.uiThread (by simp [hu])).1
      refine .inl ⟨rfl, hm, ?_, by simp [hr]⟩
      simpa [hu] using hI.start hm

theorem Over.went_step (hb : Along Builds tr) (hO : Over s) (hu : s.main = .panicked → Unwound tr)
    (h : Step logs s l t) : Went (tr ++ [(s, l)]) t := by
  have hl : Builds s l := by
    rintro rfl
    cases h with
    | buildUi hd => exact hO.ui.1 hd
  refine .ended (along_concat.mpr ⟨hb, hl⟩) (over_step hO h) ?_
  intro hm
  have hs : s.main = .panicked := by
    rcases over_cases hO h with ⟨-, -, rfl⟩ | ⟨_, -, -, rfl⟩ | ⟨-, -, rfl⟩ | ⟨-, -, rfl⟩ |
      ⟨-, -, rfl⟩ | ⟨-, -, rfl⟩
    · exact hm
    · exact hm
    · exact hm
    · exact hm
    · exact hm
    · cases hm
  exact unwound_concat.mpr (.inl (hu hs))

theorem went_trace (h : Trace (step logs) initial tr s) : Went tr s := by
  induction h with
  | refl => exact .on along_nil inv_initial
  | snoc _ hs ih =>
    have hs := step_iff.mp hs
    cases ih with
    | on hb hI => exact hI.went_step hb hs
    | ended hb hO hu => exact hO.went_step hb hu hs
    | failed hb hF => exact .failed (fun h => hb (along_concat.mp h).1) (failed_step hF hs)

/-- What a poll of `wait_for_exit` comes to: its end, a panic, or a later poll. -/
theorem waitForExit_frame {finish : Run → Run} {main : Wait → Main}
    (h : s.waitForExit wait finish main = some t) :
    (∃ exit, t = finish { s with exit }) ∨ t = s.unwind ∨
      ∃ wait' exit uiThread, t = { s with main := main wait', exit, uiThread } := by
  cases wait with
  | entered =>
    simp only [waitForExit] at h
    split at h
    · cases h
      exact .inl ⟨_, rfl⟩
    · cases h
      exact .inr (.inr ⟨_, _, _, rfl⟩)
  | changed =>
    simp only [waitForExit] at h
    cases hc : s.exit.changed with
    | pending => simp [hc] at h
    | closed =>
      simp only [hc, Option.some.injEq] at h
      exact .inr (.inl h.symm)
    | ready exit =>
      simp only [hc] at h
      split at h
      · cases h
        exact .inr (.inr ⟨_, _, _, rfl⟩)
      · cases h
        exact .inl ⟨_, rfl⟩
  | joining =>
    simp only [waitForExit] at h
    split at h
    · cases h
      exact .inl ⟨_, rfl⟩
    · simp only [Option.ite_none_right_eq_some, Option.some.injEq] at h
      exact .inr (.inl h.2.symm)

/-- `exit_tx.send(true).unwrap()` panics exactly if `run` has panicked before. -/
theorem panicked_sendExit (hW : Went tr s) (hu : s.ui = .left ∨ s.ui = .failedSent) :
    s.sendExit.ui = .panicked ↔ s.main = .panicked := by
  cases hW with
  | on hb hI =>
    have hu := hu.resolve_right hI.ui.2.1
    have hm : s.main ≠ .panicked := by
      intro hm
      have hheld := hI.held
      rw [hm] at hheld
      exact hheld
    rw [sendExit_eq hI hu]
    simp [hm]
  | ended hb hO _ =>
    have hu := hu.resolve_right hO.ui.2.2.2
    have hm : s.main = .panicked := by
      rcases hO.main with hm | ⟨-, ha⟩
      · exact hm
      · cases hu.symm.trans ha
    simp [Run.sendExit, Watch.send, hO.receiver, hm]
  | failed hb hF =>
    have hm : s.start.value = some false ∧
        (s.main = .awaitStart ∧ s.exit.receiver.isSome = true ∨
          s.main = .panicked ∧ s.exit.receiver = none) := by
      rcases hu with hu | hu
      · simp [Failed, hu] at hF
      · simpa [Failed, hu] using hF
    rcases hm.2 with ⟨hm, hr⟩ | ⟨hm, hr⟩ <;> simp [Run.sendExit, Watch.send, hr, hm]

theorem panicked_step (hW : Went tr s) (h : Step logs s l t) :
    t.ui = .panicked ↔ s.ui = .panicked ∨ l = .sendExit ∧ s.main = .panicked := by
  cases h with
  | @buildUi ok hu => cases ok <;> simp [hu]
  | sendStart hu =>
    cases hW with
    | on hb hI => simp [(sendStart_eq hI hu).2, hu]
    | ended hb hO _ => exact absurd hu hO.ui.2.1
    | failed hb hF => simp [Failed, hu] at hF
  | sendFailed hu =>
    cases hW with
    | on hb hI => exact absurd hu hI.ui.1
    | ended hb hO _ => exact absurd hu hO.ui.2.2.1
    | failed hb hF =>
      have hstart : s.start = .new := by
        have hF' : s.main = .awaitStart ∧ s.start = .new ∧ s.exit.receiver.isSome = true := by
          simpa [Failed, hu] using hF
        exact hF'.2.1
      simp [Run.sendStart, hstart, Oneshot.send, Oneshot.new, hu]
  | sendExit hu =>
    rw [panicked_sendExit hW hu]
    rcases hu with hu | hu <;> simp [hu]
  | start hm ht =>
    simp only [Run.awaitStart] at ht
    split at ht <;> cases ht <;> simp [Run.unwind]
  | waitSelect hm ht =>
    rcases waitForExit_frame ht with ⟨_, rfl⟩ | rfl | ⟨_, _, _, rfl⟩ <;>
      simp [Run.leaveSelect, Run.unwind]
  | waitExit hm ht =>
    rcases waitForExit_frame ht with ⟨_, rfl⟩ | rfl | ⟨_, _, _, rfl⟩ <;>
      simp [Run.endExit, Run.unwind]
  | branch hm hb => simp [Run.leaveSelect]
  | post hm => simp [Run.post]
  | unwind hp => simp [Run.unwind]
  | abort hu => simp [Run.abort, hu]
  | @update res hu ha =>
    obtain ⟨updateRestart, updateTask, he⟩ := s.update_eq res
    simp [he]
  | showMenu hu | closeMenu hu | quit hu | dropSender hu => simp [hu]
  | _ => simp

theorem panicked_trace (h : Trace (step logs) initial tr s) :
    s.ui = .panicked ↔ ∃ x ∈ tr, x.2 = .sendExit ∧ x.1.main = .panicked := by
  induction h with
  | refl => simp [initial]
  | snoc h hs ih =>
    rw [panicked_step (went_trace h) (step_iff.mp hs), ih]
    simp [or_and_right, exists_or]

/-- In every order of the steps of the two threads, of the user and of the other branches, and with
a panic of `run` wherever one may come, the unwraps of the tray panic only when it cannot be built
or when `run` has panicked before, and `exit` returns after its thread has left its loop. -/
theorem sound_trace (h : Trace (step logs) initial tr s) : Sound tr s := by
  have hui := panicked_trace h
  cases went_trace h with
  | on hb hI =>
    refine ⟨?_, hui, fun hn => absurd hb hn, ?_⟩
    · intro hm
      have hheld := hI.held
      rw [hm] at hheld
      exact absurd hheld id
    · intro hm
      have hv : s.exit.value = true := by
        have hheld := hI.held
        rcases hm with hm | hm <;> rw [hm] at hheld <;> exact hI.taken hheld
      exact ⟨hv, hI.value.mp hv⟩
  | ended hb hO hu =>
    refine ⟨fun hm => .inr (hu hm), hui, fun hn => absurd hb hn, ?_⟩
    rintro (hm | hm) <;> rcases hO.main with hm' | ⟨hm', -⟩ <;> cases hm.symm.trans hm'
  | failed hb hF =>
    refine ⟨fun _ => .inl hb, hui, fun _ => ?_, ?_⟩
    · rcases hF with hF | ⟨-, -, hF | hF⟩ <;> simp [hF]
    · rintro (hm | hm) <;> simp [Failed, hm] at hF

theorem joined_concat : Joined (tr ++ [(s, l)]) ↔
    Joined tr ∨ s.main = .select .joining ∧ l = .waitForExit := by
  simp [Joined, or_and_right, exists_or]

theorem posted_concat : Posted (tr ++ [(s, l)]) ↔ Posted tr ∨ l = .post := by
  simp [Posted, or_and_right, exists_or]

/-- A step that is neither the post nor one of `wait_for_exit`. -/
theorem StrayInv.of_ne (hS : StrayInv tr s) (hp : l ≠ .post) (hw : l ≠ .waitForExit)
    (hm : t.main = s.main ∨ s.main = .shuttingDown ∧ t.main = .stopping ∨
      s.main = .stopping ∧ t.main = .posting ∨ s.main = .exiting ∧ t.main = .returned ∨
      s.main = .awaitStart ∧ t.main = .select .entered)
    (hu : s.ui = .ended → t.ui = .ended) (hthread : t.uiThread = s.uiThread)
    (hs : t.stray = s.stray) : StrayInv (tr ++ [(s, l)]) t := by
  have hj : Joined (tr ++ [(s, l)]) ↔ Joined tr := by simp [joined_concat, hw]
  have hp : Posted (tr ++ [(s, l)]) ↔ Posted tr := by simp [posted_concat, hp]
  simp only [StrayInv, hj, hp, hthread, hs] at hS ⊢
  rcases hm with hm | ⟨hm, hm'⟩ | ⟨hm, hm'⟩ | ⟨hm, hm'⟩ | ⟨hm, hm'⟩
  · rw [hm]
    split <;> simp_all
  all_goals
    rw [hm] at hS
    rw [hm']
    simp_all

/-- The `select!` is left, with the handle or without it. -/
theorem StrayInv.leaveSelect (hS : StrayInv tr s) (hI : Inv s) (hp : l ≠ .post)
    (hm : s.main = .select wait) (hw : wait = .joining → l = .waitForExit ∧ s.ui = .ended) :
    StrayInv (tr ++ [(s, l)]) s.leaveSelect := by
  have hj := hI.joining_iff hm
  simp only [StrayInv, hm] at hS
  simp only [StrayInv, Run.leaveSelect, joined_concat, posted_concat, hp, or_false, hm]
  obtain ⟨hjoined, hposted, hstray⟩ := hS
  refine ⟨hposted, hstray, ?_, fun ht => (hw (hj.mpr ht)).2⟩
  rw [← hj]
  simp only [hjoined, false_or, Main.select.injEq]
  exact ⟨fun h => h.1, fun h => ⟨h, (hw h).1⟩⟩

/-- A step of `wait_for_exit` that is not its last. -/
theorem StrayInv.waitForExit (hS : StrayInv tr s) {main : Wait → Main}
    (hmain : main = .select ∨ main = .exit) (hm : s.main = main wait) (hw : wait ≠ .joining)
    {wait' : Wait} {exit : Watch Bool} {uiThread : Bool} :
    StrayInv (tr ++ [(s, .waitForExit)]) { s with main := main wait', exit, uiThread } := by
  rcases hmain with rfl | rfl
  all_goals
    simp only [StrayInv, hm] at hS
    simp_all [StrayInv, joined_concat, posted_concat]

theorem strayInv_step (hI : Inv s) (hc : Calm s l) (hS : StrayInv tr s) (h : Step logs s l t) :
    StrayInv (tr ++ [(s, l)]) t := by
  cases h with
  | buildUi hu => exact hS.of_ne (by simp) (by simp) (.inl rfl) (by simp [hu]) rfl rfl
  | sendStart hu =>
    obtain ⟨-, he⟩ := sendStart_eq hI hu
    rw [he]
    exact hS.of_ne (by simp) (by simp) (.inl rfl) (by simp [hu]) rfl rfl
  | sendFailed hu => exact absurd hu hI.ui.1
  | showMenu hu => exact hS.of_ne (by simp) (by simp) (.inl rfl) (by simp [hu]) rfl rfl
  | closeMenu hu => exact hS.of_ne (by simp) (by simp) (.inl rfl) (by simp [hu]) rfl rfl
  | quit hu hq => exact hS.of_ne (by simp) (by simp) (.inl rfl) (by simp [hu]) rfl rfl
  | sendExit hu =>
    have hu := hu.resolve_right hI.ui.2.1
    rw [sendExit_eq hI hu]
    exact hS.of_ne (by simp) (by simp) (.inl rfl) (by simp [hu]) rfl rfl
  | dropSender hu => exact hS.of_ne (by simp) (by simp) (.inl rfl) (fun _ => rfl) rfl rfl
  | start hm ht =>
    obtain ⟨-, rfl⟩ := (awaitStart_eq_some hI hm).mp ht
    exact hS.of_ne (by simp) (by simp) (by simp [hm]) id rfl rfl
  | branch hm hb =>
    rcases hm with hm | hm <;> exact hS.leaveSelect hI (by simp) hm (by simp)
  | @waitSelect wait _ hm ht =>
    rcases waitForExit_cases hI hm (hI.changed (.inl hm)) ht with ⟨rfl, -, rfl⟩ | ⟨rfl, -, rfl⟩ |
      ⟨rfl, -, -, rfl⟩ | ⟨rfl, hu, rfl⟩
    · exact hS.leaveSelect hI (by simp) hm (by simp)
    · exact hS.waitForExit (.inl rfl) hm (by simp)
    · exact hS.waitForExit (.inl rfl) hm (by simp)
    · exact hS.leaveSelect hI (by simp) hm fun _ => ⟨rfl, hu⟩
  | @waitExit wait _ hm ht =>
    have hend : StrayInv (tr ++ [(s, .waitForExit)]) s.endExit := by
      simp only [StrayInv, hm] at hS
      simp only [StrayInv, endExit, joined_concat, posted_concat, hm]
      simp [hS]
    rcases waitForExit_cases hI hm (hI.changed (.inr hm)) ht with ⟨rfl, -, rfl⟩ | ⟨rfl, -, rfl⟩ |
      ⟨rfl, -, -, rfl⟩ | ⟨rfl, hu, rfl⟩
    · exact hend
    · exact hS.waitForExit (.inr rfl) hm (by simp)
    · exact hS.waitForExit (.inr rfl) hm (by simp)
    · exact hend
  | shuttingDown hm hl => exact hS.of_ne (by simp) (by simp) (by simp [hm]) id rfl rfl
  | stop hm => exact hS.of_ne (by simp) (by simp) (by simp [hm]) id rfl rfl
  | post hm =>
    simp only [StrayInv, hm] at hS
    obtain ⟨-, hstray, hj, hu⟩ := hS
    have hgone : (s.ui = .ended ∨ s.ui = .panicked) ∧ s.uiThread = false ↔ s.uiThread = false :=
      and_iff_right_of_imp fun ht => .inl (hu ht)
    simp only [StrayInv, Run.post, joined_concat, posted_concat, hm]
    simpa [hstray, hj] using hgone
  | exiting hm hl => exact hS.of_ne (by simp) (by simp) (by simp [hm]) id rfl rfl
  | unwind hp => exact absurd rfl hc.1
  | abort hu => exact absurd rfl hc.2
  | @update res hu ha =>
    obtain ⟨updateRestart, updateTask, he⟩ := s.update_eq res
    rw [he]
    exact hS.of_ne (by simp) (by simp) (.inl rfl) id rfl rfl

theorem StrayInv.iff (hS : StrayInv tr s) : s.stray = true ↔ Posted tr ∧ Joined tr := by
  simp only [StrayInv] at hS
  split at hS <;> simp [hS]

/-- A panic posts nothing. -/
theorem StrayInv.of_over (hS : StrayInv tr s) (hm : t.main = .panicked ∨ t.main = .aborted)
    (hs : t.stray = s.stray) (hp : l ≠ .post) (hw : l ≠ .waitForExit) :
    StrayInv (tr ++ [(s, l)]) t := by
  have hiff : t.stray = true ↔ Posted (tr ++ [(s, l)]) ∧ Joined (tr ++ [(s, l)]) := by
    simpa [hs, posted_concat, joined_concat, hp, hw] using hS.iff
  rcases hm with hm | hm <;> simpa only [StrayInv, hm] using hiff

theorem strayInv_of_panics (hS : StrayInv tr s) (hc : ¬ Calm s l) (h : Step logs s l t) :
    StrayInv (tr ++ [(s, l)]) t := by
  cases h with
  | unwind hp => exact hS.of_over (.inl rfl) rfl (by simp) (by simp)
  | abort hu => exact hS.of_over (.inr rfl) rfl (by simp) (by simp)
  | _ => simp [Calm] at hc

theorem strayInv_of_over (hO : Over s) (hS : StrayInv tr s) (h : Step logs s l t) :
    StrayInv (tr ++ [(s, l)]) t := by
  have hm : t.main = .panicked ∨ t.main = .aborted := (over_step hO h).main.imp_right And.left
  rcases over_cases hO h with ⟨rfl, -, rfl⟩ | ⟨_, rfl, -, rfl⟩ | ⟨rfl, -, rfl⟩ | ⟨rfl, -, rfl⟩ |
    ⟨rfl, -, rfl⟩ | ⟨rfl, -, rfl⟩ <;> exact hS.of_over hm rfl (by simp) (by simp)

/-- In every run with a tray, the `WM_QUIT` of `exit` goes to a thread id that may already belong
to another thread exactly if the tray was what ended the `select!`. -/
theorem stray_iff (h : Trace (step logs) initial tr s) (hb : Along Builds tr) :
    s.stray = true ↔ Posted tr ∧ Joined tr := by
  have hS : (Inv s ∨ Over s) ∧ StrayInv tr s := by
    induction h with
    | refl => exact ⟨.inl inv_initial, by simp [StrayInv, initial, Joined, Posted]⟩
    | @snoc tr s t l _ hs ih =>
      obtain ⟨hb, hl⟩ := along_concat.mp hb
      obtain ⟨hs', hS⟩ := ih hb
      have hs := step_iff.mp hs
      refine ⟨inv_or_over hl hs' hs, ?_⟩
      rcases hs' with hI | hO
      · by_cases hc : Calm s l
        · exact strayInv_step hI hc hS hs
        · exact strayInv_of_panics hS hc hs
      · exact strayInv_of_over hO hS hs
  exact hS.2.iff

/-- A step other than the end of the update. -/
theorem UpdateInv.of_ne (hU : UpdateInv tr s) (hl : ∀ res, l ≠ .update res)
    (hr : t.main ≠ .panicked → t.updateRestart.receiver = selects t.main)
    (hv : t.updateRestart.value = s.updateRestart.value) (ht : t.updateTask = s.updateTask) :
    UpdateInv (tr ++ [(s, l)]) t := by
  have hne := hl (.ok true)
  obtain ⟨-, hsent, hpanicked⟩ := hU
  refine ⟨hr, ?_, ?_⟩
  · rw [hv]
    intro hs
    obtain ⟨x, hx, hx'⟩ := hsent hs
    exact ⟨x, List.mem_append_left _ hx, hx'⟩
  · rw [ht, hpanicked]
    simp [or_and_right, exists_or, hne]

/-- The only await of the `select!` is that of all its branches together. -/
theorem selects_of_awaits (ha : s.awaits = true) :
    s.main ≠ .panicked ∧ (selects s.main = true ↔ s.main = .select .changed) := by
  simp only [awaits] at ha
  split at ha <;> simp_all [selects]

theorem UpdateInv.update (hU : UpdateInv tr s) {res : Except String Bool}
    (ht : s.updateTask = .running) (ha : s.awaits = true) :
    UpdateInv (tr ++ [(s, .update res)]) (s.update res) := by
  obtain ⟨hm, hselects⟩ := selects_of_awaits ha
  obtain ⟨hreceiver, hsent, hpanicked⟩ := hU
  have hnone : ¬ ∃ x ∈ tr, x.2 = .update (.ok true) ∧ x.1.main ≠ .select .changed := by
    rw [← hpanicked, ht]
    simp
  have hlast : (∃ x ∈ tr ++ [(s, .update res)],
      x.2 = .update (.ok true) ∧ x.1.main ≠ .select .changed) ↔
        res = .ok true ∧ s.updateRestart.receiver = false := by
    rw [hreceiver hm, ← Bool.not_eq_true, hselects]
    simp only [List.mem_append, List.mem_singleton, or_and_right, exists_or, hnone, false_or,
      exists_eq_left, Label.update.injEq, ne_eq]
  have hsent' : s.updateRestart.value = some () →
      ∃ x ∈ tr ++ [(s, .update res)], x.2 = .update (.ok true) := by
    intro hv
    obtain ⟨x, hx, hx'⟩ := hsent hv
    exact ⟨x, List.mem_append_left _ hx, hx'⟩
  simp only [Run.update]
  split
  · simp only [Oneshot.send]
    cases hr : s.updateRestart.receiver with
    | true =>
      refine ⟨fun _ => hr.symm.trans (hreceiver hm),
        fun _ => ⟨(s, .update (.ok true)), List.mem_append_right _ (by simp), rfl⟩, ?_⟩
      rw [hlast]
      simp [hr]
    | false =>
      refine ⟨fun _ => hreceiver hm, hsent', ?_⟩
      rw [hlast]
      simp [hr]
  · rename_i hne
    refine ⟨fun _ => hreceiver hm, hsent', ?_⟩
    rw [hlast]
    simp only [reduceCtorEq, false_iff, not_and]
    exact fun he => absurd he hne

theorem updateInv_step (hU : UpdateInv tr s) (h : Step logs s l t) :
    UpdateInv (tr ++ [(s, l)]) t := by
  cases h with
  | sendStart hu | sendFailed hu =>
    simp only [Run.sendStart]
    split <;> exact hU.of_ne (by simp) hU.receiver rfl rfl
  | sendExit hu =>
    simp only [Run.sendExit]
    split <;> exact hU.of_ne (by simp) hU.receiver rfl rfl
  | start hm ht =>
    have hr := hU.receiver (by simp [hm])
    simp only [Run.awaitStart] at ht
    split at ht <;> cases ht <;> refine hU.of_ne (by simp) ?_ rfl rfl
    · exact fun hn => absurd rfl hn
    · exact fun hn => absurd rfl hn
    · simpa [hm, selects] using hr
  | branch hm hb => exact hU.of_ne (by simp) (fun _ => rfl) rfl rfl
  | waitSelect hm ht =>
    have hr := hU.receiver (by simp [hm])
    rw [hm] at hr
    rcases waitForExit_frame ht with ⟨_, rfl⟩ | rfl | ⟨_, _, _, rfl⟩
    · exact hU.of_ne (by simp) (fun _ => rfl) rfl rfl
    · exact hU.of_ne (by simp) (fun hn => absurd rfl hn) rfl rfl
    · exact hU.of_ne (by simp) (fun _ => hr) rfl rfl
  | waitExit hm ht =>
    have hr := hU.receiver (by simp [hm])
    rw [hm] at hr
    rcases waitForExit_frame ht with ⟨_, rfl⟩ | rfl | ⟨_, _, _, rfl⟩
    · exact hU.of_ne (by simp) (fun _ => hr) rfl rfl
    · exact hU.of_ne (by simp) (fun hn => absurd rfl hn) rfl rfl
    · exact hU.of_ne (by simp) (fun _ => hr) rfl rfl
  | shuttingDown hm hl | stop hm | post hm | exiting hm hl =>
    have hr := hU.receiver (by simp [hm])
    rw [hm] at hr
    exact hU.of_ne (by simp) (fun _ => hr) rfl rfl
  | unwind hp => exact hU.of_ne (by simp) (fun hn => absurd rfl hn) rfl rfl
  | abort hu => exact hU.of_ne (by simp) (fun _ => rfl) rfl rfl
  | update ht ha => exact hU.update ht ha
  | _ => exact hU.of_ne (by simp) hU.receiver rfl rfl

/-- In every run, the branch of the update is taken only after a restart, and a restart whose
signal is sent when the `select!` has been left panics the task. -/
theorem updateHandled_trace (h : Trace (step logs) initial tr s) : UpdateHandled tr s := by
  suffices hh : UpdateInv tr s ∧ AlongPast (fun past _ l => l = .branch .update →
      ∃ x ∈ past, x.2 = .update (.ok true)) tr from ⟨hh.2, hh.1.panicked⟩
  induction h with
  | refl => exact ⟨⟨fun _ => rfl, by simp [initial, Oneshot.new], by simp [initial]⟩, alongPast_nil⟩
  | snoc _ hs ih =>
    obtain ⟨hU, hpast⟩ := ih
    have hs := step_iff.mp hs
    refine ⟨updateInv_step hU hs, alongPast_concat.mpr ⟨hpast, ?_⟩⟩
    rintro rfl
    cases hs with
    | branch hm hb =>
      apply hU.sent
      have hp := hb rfl
      simp only [Oneshot.poll] at hp
      split at hp
      · assumption
      · split at hp <;> cases hp

/-- The user chooses Exit while the main thread waits in the `select!`. -/
def exitChosen : List Label :=
  [.buildUi true, .sendStart, .start, .waitForExit, .showMenu, .closeMenu true, .quit, .sendExit,
    .waitForExit, .dropSender, .waitForExit, .shuttingDown, .stop, .post, .waitForExit, .exiting]

/-- Ctrl-C ends the `select!`, and the update is installed while the blocker stops. -/
def interrupted : List Label :=
  [.buildUi true, .sendStart, .start, .waitForExit, .branch .ctrlC, .shuttingDown,
    .update (.ok true), .stop, .post, .waitForExit, .quit, .sendExit, .waitForExit, .dropSender,
    .waitForExit, .exiting]

/-- `app.run()` panics, and the user chooses Exit while the runtime is dropped. -/
def unwound : List Label :=
  [.buildUi true, .sendStart, .start, .waitForExit, .unwind, .showMenu, .closeMenu true, .quit,
    .sendExit]

theorem sound_unwound :
    (after (step true) initial unwound).ui = .panicked ∧
      Sound (trail (step true) initial unwound) (after (step true) initial unwound) :=
  ⟨by decide, sound_trace (trace_after (by decide) : Trace (step true) _ _ _)⟩

theorem stray_iff_exitChosen :
    (after (step true) initial exitChosen).stray = true ↔
      Posted (trail (step true) initial exitChosen) ∧
        Joined (trail (step true) initial exitChosen) :=
  stray_iff (trace_after (by decide) : Trace (step true) _ _ _)
    (along_trail (by simp [exitChosen, Builds]))

theorem updateHandled_interrupted :
    UpdateHandled (trail (step true) initial interrupted)
      (after (step true) initial interrupted) :=
  updateHandled_trace (trace_after (by decide) : Trace (step true) _ _ _)

end Run

end BurntSushi.Tray
