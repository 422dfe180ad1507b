import BurntSushi.AdBlocker.Instances

/-! The loop of `hook_spotify` that removes previous blockers, on endless outcomes of its calls. -/
namespace BurntSushi.AdBlocker

open Scanner (OwnedProcess)

/-- What the calls of one iteration return. -/
structure Round where
  findModuleByName : Except SyringeError Unit
  getPayloadProcedure : Except SyringeError Bool
  stopRpc : Except SyringeError Unit
  eject : Except SyringeError Unit

namespace Round

/-- The outcome of the call that the loop makes next. -/
def call (r : Round) : HookPc → Option Call
  | .findPrevious => some (.findModuleByName r.findModuleByName)
  | .lookupStop _ => some (.getPayloadProcedure r.getPayloadProcedure)
  | .callStop _ => some (.stopRpc r.stopRpc)
  | .ejectPrevious _ => some (.eject r.eject)
  | _ => none

/-- `hook_spotify` for as many calls, while it is in the loop. -/
def follow (r : Round) (p : OwnedProcess) : Nat → Processes → HookPc → Processes × HookNext
  | 0, ps, pc => (ps, .next pc)
  | calls + 1, ps, pc =>
    match (r.call pc).bind (hookStep p ps pc) with
    | some (ps, .next pc) => r.follow p calls ps pc
    | some (ps, next) => (ps, next)
    | none => (ps, .next pc)

/-- One iteration, which makes four calls at most. -/
def iteration (r : Round) (p : OwnedProcess) (ps : Processes) : Processes × HookNext :=
  r.follow p 4 ps .findPrevious

/-- The inspection of the process or the access to `stop_rpc` fails. -/
def Fails (r : Round) : Prop :=
  r.findModuleByName ≠ .ok () ∨ r.getPayloadProcedure ≠ .ok true

end Round

/-- The loop after so many iterations, or where it has ended. -/
def loop (rounds : Nat → Round) (p : OwnedProcess) (ps : Processes) : Nat → Processes × HookNext
  | 0 => (ps, .next .findPrevious)
  | n + 1 =>
    match loop rounds p ps n with
    | (ps, .next .findPrevious) => (rounds n).iteration p ps
    | ended => ended

/-- `hook_spotify` goes on past the loop, or returns an error. -/
def HookNext.Ended (next : HookNext) : Prop :=
  next = .next .resolveFilterConfig ∨ ∃ e, next = .err e

/-- The loads of blockers that `find_module_by_name` can find. -/
def TargetProcess.previous (p : TargetProcess) : List Path := p.modules.filter hasDefaultName

/-- How many of the first ejections succeed. -/
def ejections (rounds : Nat → Round) (n : Nat) : Nat :=
  (List.range n).countP fun i => (rounds i).eject.isOk

variable {r : Round} {rounds : Nat → Round} {p : OwnedProcess} {ps ps' : Processes} {path : Path}
  {n : Nat}

theorem iteration_notFound (hfind : r.findModuleByName = .ok ())
    (h : (ps p).findModuleByName defaultBlockerFileName = none) :
    r.iteration p ps = (ps, .next .resolveFilterConfig) := by
  simp [Round.iteration, Round.follow, Round.call, hookStep, hfind, h]

theorem iteration_inspectFailed (p : OwnedProcess) (ps : Processes) {e : SyringeError}
    (hfind : r.findModuleByName = .error e) :
    ∃ e, r.iteration p ps = (ps, .err e) := by
  simp [Round.iteration, Round.follow, Round.call, hookStep, hfind]

theorem iteration_lookupFailed (hfind : r.findModuleByName = .ok ())
    (h : (ps p).findModuleByName defaultBlockerFileName = some path)
    (hlookup : r.getPayloadProcedure ≠ .ok true) : ∃ e, r.iteration p ps = (ps, .err e) := by
  rcases requireProcedure_cases r.getPayloadProcedure "Failed to find stop_rpc in blocker module."
    (.callStop path) with ⟨hok, -⟩ | ⟨-, e, he⟩
  · exact absurd hok hlookup
  · exact ⟨e, by simp [Round.iteration, Round.follow, Round.call, hookStep, hfind, h, he]⟩

/-- An iteration of which only the ejection can have failed. -/
theorem iteration_ejects (hr : ¬ r.Fails)
    (h : (ps p).findModuleByName defaultBlockerFileName = some path) :
    r.iteration p ps =
      (if r.eject.isOk then ps.eject p path else ps, .next .findPrevious) := by
  simp only [Round.Fails, not_or, not_not] at hr
  obtain ⟨hfind, hlookup⟩ := hr
  cases heject : r.eject <;>
    simp [Round.iteration, Round.follow, Round.call, hookStep, hfind, h, hlookup, heject,
      requireProcedure, Except.isOk, Except.toBool]

/-- An iteration that does not find a blocker, or cannot get at it, is the last one. -/
theorem iteration_ended
    (h : r.Fails ∨ (ps p).findModuleByName defaultBlockerFileName = none) :
    (r.iteration p ps).2.Ended := by
  cases hfind : r.findModuleByName with
  | error e =>
    obtain ⟨e', he'⟩ := iteration_inspectFailed p ps hfind
    rw [he']
    exact .inr ⟨e', rfl⟩
  | ok =>
    cases hfound : (ps p).findModuleByName defaultBlockerFileName with
    | none =>
      rw [iteration_notFound hfind hfound]
      exact .inl rfl
    | some path =>
      rcases h with (hfails | hlookup) | hnone
      · exact absurd hfind hfails
      · obtain ⟨e, he⟩ := iteration_lookupFailed hfind hfound hlookup
        rw [he]
        exact .inr ⟨e, rfl⟩
      · cases hfound.symm.trans hnone

theorem previous_eq_nil_iff {tp : TargetProcess} :
    tp.previous.length = 0 ↔ tp.findModuleByName defaultBlockerFileName = none := by
  simp [TargetProcess.previous, TargetProcess.findModuleByName, hasDefaultName]

/-- An ejection undoes one load. -/
theorem previous_eject (h : (ps p).findModuleByName defaultBlockerFileName = some path) :
    ((ps.eject p path) p).previous.length + 1 = (ps p).previous.length := by
  have hname : hasDefaultName path = true := hasDefaultName_of_find h
  have hmem : path ∈ (ps p).previous := by
    have hfound := List.mem_of_find?_eq_some h
    exact List.mem_filter.mpr ⟨hfound, hname⟩
  have hpos := List.length_pos_of_mem hmem
  have herase : ((ps.eject p path) p).previous = (ps p).previous.erase path := by
    rw [Processes.eject, Function.update_self, TargetProcess.eject, TargetProcess.previous,
      ← List.erase_filter, TargetProcess.previous]
  rw [herase, List.length_erase_of_mem hmem]
  omega

theorem ejections_succ : ejections rounds (n + 1) =
    ejections rounds n + if (rounds n).eject.isOk then 1 else 0 := by
  rw [ejections, List.range_succ, List.countP_append, List.countP_singleton, ejections]

theorem loop_of_ended (h : (loop rounds p ps n).2.Ended) :
    loop rounds p ps (n + 1) = loop rounds p ps n := by
  rcases hloop : loop rounds p ps n with ⟨ps', next⟩
  rw [hloop] at h
  rw [loop, hloop]
  rcases h with rfl | ⟨e, rfl⟩
  · rfl
  · rfl

theorem loop_succ (h : loop rounds p ps n = (ps', .next .findPrevious)) :
    loop rounds p ps (n + 1) = (rounds n).iteration p ps' := by
  rw [loop, h]

/-- The loop has ended, or every ejection so far has undone one load. -/
theorem loop_cases (rounds : Nat → Round) (p : OwnedProcess) (ps : Processes) (n : Nat) :
    (loop rounds p ps n).2.Ended ∨
      ∃ ps', loop rounds p ps n = (ps', .next .findPrevious) ∧
        ejections rounds n + (ps' p).previous.length = (ps p).previous.length := by
  induction n with
  | zero =>
    refine .inr ⟨ps, rfl, ?_⟩
    simp [ejections]
  | succ n ih =>
    rcases ih with hended | ⟨ps', hloop, hcount⟩
    · left
      rw [loop_of_ended hended]
      exact hended
    · rw [loop_succ hloop]
      cases hfound : (ps' p).findModuleByName defaultBlockerFileName with
      | none => exact .inl (iteration_ended (.inr hfound))
      | some path =>
        by_cases hfails : (rounds n).Fails
        · exact .inl (iteration_ended (.inl hfails))
        · rw [iteration_ejects hfails hfound, ejections_succ]
          refine .inr ⟨_, rfl, ?_⟩
          split
          · have hundone := previous_eject hfound
            omega
          · omega

/-- Without a failed access and with a load left after all ejections, there is no last iteration. -/
theorem loop_ongoing (hfails : ∀ i, ¬ (rounds i).Fails)
    (hleft : ∀ i, ejections rounds i < (ps p).previous.length) (n : Nat) :
    ¬ (loop rounds p ps n).2.Ended := by
  induction n with
  | zero => rintro (⟨⟨⟩⟩ | ⟨e, ⟨⟩⟩)
  | succ n ih =>
    rcases loop_cases rounds p ps n with hended | ⟨ps', hloop, hcount⟩
    · exact absurd hended ih
    · have hlt := hleft n
      have hsome : (ps' p).findModuleByName defaultBlockerFileName ≠ none := by
        intro hnone
        have hzero := previous_eq_nil_iff.mpr hnone
        omega
      obtain ⟨path, hfound⟩ := Option.ne_none_iff_exists'.mp hsome
      rw [loop_succ hloop, iteration_ejects (hfails n) hfound]
      rintro (⟨⟨⟩⟩ | ⟨e, ⟨⟩⟩)

/-- The loop ends exactly if it fails to inspect the process or to access `stop_rpc` once, or if as
many ejections succeed as there are loads. -/
theorem loop_ends_iff (rounds : Nat → Round) (p : OwnedProcess) (ps : Processes) :
    (∃ n, (loop rounds p ps n).2.Ended) ↔
      ∃ n, (rounds n).Fails ∨ (ps p).previous.length ≤ ejections rounds n := by
  constructor
  · rintro ⟨n, hended⟩
    by_contra hnever
    simp only [not_exists, not_or, not_le] at hnever
    exact loop_ongoing (fun i => (hnever i).1) (fun i => (hnever i).2) n hended
  · rintro ⟨n, hn⟩
    rcases loop_cases rounds p ps n with hended | ⟨ps', hloop, hcount⟩
    · exact ⟨n, hended⟩
    · refine ⟨n + 1, ?_⟩
      rw [loop_succ hloop]
      apply iteration_ended
      rcases hn with hfails | hall
      · exact .inl hfails
      · have hnone : (ps' p).previous.length = 0 := by omega
        exact .inr (previous_eq_nil_iff.mp hnone)

/-- One load of a blocker that an earlier instance has left. -/
def oneLoad : Processes := fun _ => ⟨true, [⟨"C:\\BurntSushi", defaultBlockerFileName⟩]⟩

/-- The blocker stops, but cannot be ejected. -/
def stuck : Round := ⟨.ok (), .ok true, .ok (), .error (.other "eject failed")⟩

/-- With the same outcomes again and again the loop goes on forever. -/
theorem loop_stuck : ¬ ∃ n, (loop (fun _ => stuck) 1 oneLoad n).2.Ended := by
  rintro ⟨n, hended⟩
  apply loop_ongoing ?_ ?_ n hended
  · rintro i (hfind | hlookup)
    · exact hfind rfl
    · exact hlookup rfl
  · intro i
    have hnone : ejections (fun _ => stuck) i = 0 := by
      simp [ejections, stuck, Except.isOk, Except.toBool]
    rw [hnone]
    decide

end BurntSushi.AdBlocker
