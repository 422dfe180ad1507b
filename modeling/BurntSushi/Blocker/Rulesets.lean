import Mathlib.Data.List.Induction
import BurntSushi.Blocker.Session

/-! What the filters of one server decide after any sequence of requests. -/
namespace BurntSushi.Blocker

/-- `#[derive(Clone)]` of `Filters` clones the `Arc`. -/
def Filters.clone (filters : Filters) : Filters := ⟨filters.rulesets⟩

/-- The verdict that two lists of patterns stand for. -/
def Passes (R : Regex) (whitelist blacklist : List String) (request : String) : Prop :=
  (whitelist = [] ∨ ∃ pattern ∈ whitelist, R.isMatch pattern request = true) ∧
    ∀ pattern ∈ blacklist, R.isMatch pattern request = false

/-- The request carries these patterns for the hook, all of them readable. -/
structure SetRulesetParams.Carries (params : SetRulesetParams) (hook : FilterHook)
    (whitelist blacklist : List String) : Prop where
  get : params.get = .ok ()
  getHook : params.getHook = .ok hook
  getRuleset : params.getRuleset = .ok ()
  getWhitelist : params.getWhitelist = .ok (whitelist.map .ok)
  getBlacklist : params.getBlacklist = .ok (blacklist.map .ok)

/-- A request with the answer that it got. -/
abbrev Answered := Request × Except CapnpError Unit

/-- The requests of a sequence with the answers of the server. -/
def Session.answers (R : Regex) : Session → List Request → List Answered
  | _, [] => []
  | s, r :: rs => (r, (s.handle R r).2) :: answers R (s.handle R r).1 rs

/-- The patterns that a request carries for a hook. -/
def SetRulesetParams.patternsFor (params : SetRulesetParams) (hook : FilterHook) :
    Option (List String × List String) :=
  match params.getHook, params.getWhitelist, params.getBlacklist with
  | .ok k, .ok whitelist, .ok blacklist =>
    if k = hook then
      some (whitelist.filterMap Except.toOption, blacklist.filterMap Except.toOption)
    else none
  | _, _, _ => none

/-- The patterns that an answered request has set for a hook. -/
def Answered.patternsFor (hook : FilterHook) : Answered → Option (List String × List String)
  | (.setRuleset params, .ok ()) => params.patternsFor hook
  | _ => none

/-- The patterns of the last request for the hook that succeeded. -/
def lastSet (hook : FilterHook) (log : List Answered) : Option (List String × List String) :=
  (log.filterMap (Answered.patternsFor hook)).getLast?

/-- The verdict of the patterns that were set last; everything passes before that. -/
def Allowed (R : Regex) (request : String) : Option (List String × List String) → Prop
  | none => True
  | some (whitelist, blacklist) => Passes R whitelist blacklist request

/-- The ruleset made of the patterns that were set last. -/
def rulesetOf : Option (List String × List String) → FilterRuleset
  | none => .default
  | some (whitelist, blacklist) => ⟨⟨whitelist⟩, ⟨blacklist⟩⟩

variable {R : Regex} {s : Session} {params : SetRulesetParams} {hook k : FilterHook}
  {whitelist blacklist : List String} {request : String} {rs : List Request}

theorem mapM_id_eq_ok {xs : List (Except CapnpError String)} {ys : List String} :
    xs.mapM id = .ok ys ↔ xs = ys.map .ok := by
  induction xs generalizing ys with
  | nil => simp [pure, Except.pure, eq_comm]
  | cons x xs ih =>
    rw [List.mapM_cons]
    constructor
    · intro h
      obtain ⟨y, hx, h⟩ := Except.bind_eq_ok.mp h
      obtain ⟨zs, hxs, h⟩ := Except.bind_eq_ok.mp h
      obtain rfl := Except.pure_eq_ok.mp h
      rw [ih.mp hxs, List.map_cons, ← hx, id]
    · intro h
      cases ys with
      | nil => simp at h
      | cons y zs =>
        obtain ⟨rfl, rfl⟩ := List.cons.inj h
        exact Except.bind_eq_ok.mpr ⟨y, rfl, Except.bind_eq_ok.mpr ⟨zs, ih.mpr rfl, rfl⟩⟩

/-- A ruleset is read exactly if the request carries its patterns and both lists compile. -/
theorem readRuleset_eq_ok :
    Session.readRuleset R params = .ok (hook, ⟨⟨whitelist⟩, ⟨blacklist⟩⟩) ↔
      params.Carries hook whitelist blacklist ∧
        R.compile whitelist = .ok () ∧ R.compile blacklist = .ok () := by
  simp only [Session.readRuleset]
  constructor
  · intro h
    obtain ⟨_, hget, h⟩ := Except.bind_eq_ok.mp h
    obtain ⟨hook', hhook, h⟩ := Except.bind_eq_ok.mp h
    obtain ⟨_, -, h⟩ := Except.bind_eq_ok.mp h
    obtain ⟨_, hruleset, h⟩ := Except.bind_eq_ok.mp h
    obtain ⟨white, hwhite, h⟩ := Except.bind_eq_ok.mp h
    obtain ⟨black, hblack, h⟩ := Except.bind_eq_ok.mp h
    obtain ⟨whites, hwhites, h⟩ := Except.bind_eq_ok.mp h
    obtain ⟨whiteSet, hwhiteSet, h⟩ := Except.bind_eq_ok.mp h
    obtain ⟨blacks, hblacks, h⟩ := Except.bind_eq_ok.mp h
    obtain ⟨blackSet, hblackSet, h⟩ := Except.bind_eq_ok.mp h
    obtain ⟨rfl, hset⟩ := Prod.mk.inj (Except.pure_eq_ok.mp h)
    obtain ⟨hw, rfl⟩ := new_mapError_eq_ok.mp hwhiteSet
    obtain ⟨hb, rfl⟩ := new_mapError_eq_ok.mp hblackSet
    obtain ⟨rfl, rfl⟩ : whites = whitelist ∧ blacks = blacklist := by simpa using hset
    exact ⟨⟨hget, hhook, hruleset, by rw [hwhite, mapM_id_eq_ok.mp hwhites],
      by rw [hblack, mapM_id_eq_ok.mp hblacks]⟩, hw, hb⟩
  · rintro ⟨hc, hw, hb⟩
    have hread : ∀ patterns : List String,
        (patterns.map (.ok : String → Except CapnpError String)).mapM id = .ok patterns :=
      fun _ => mapM_id_eq_ok.mpr rfl
    have hwhiteSet := new_mapError_eq_ok.mpr ⟨hw, rfl⟩
    have hblackSet := new_mapError_eq_ok.mpr ⟨hb, rfl⟩
    simp only [hc.get, hc.getHook, hc.getRuleset, hc.getWhitelist, hc.getBlacklist, hread,
      hwhiteSet, hblackSet, bind, Except.bind, pure, Except.pure]

theorem filterMap_toOption_map (xs : List String) :
    (xs.map (.ok : String → Except CapnpError String)).filterMap Except.toOption = xs := by
  induction xs with
  | nil => rfl
  | cons x xs ih => simp [Except.toOption, ih]

theorem SetRulesetParams.Carries.patternsFor (h : params.Carries hook whitelist blacklist) :
    params.patternsFor k = if hook = k then some (whitelist, blacklist) else none := by
  simp only [SetRulesetParams.patternsFor, h.getHook, h.getWhitelist, h.getBlacklist,
    filterMap_toOption_map]

theorem check_rulesetOf (last : Option (List String × List String)) :
    (rulesetOf last).check R request = true ↔ Allowed R request last := by
  cases last with
  | none =>
    simp [rulesetOf, Allowed, FilterRuleset.default, FilterRuleset.check, RegexSet.empty,
      RegexSet.isEmpty, RegexSet.isMatch]
  | some patterns =>
    simp [rulesetOf, Allowed, Passes, FilterRuleset.check, RegexSet.isEmpty, RegexSet.isMatch]

theorem handleAll_append (rs rs' : List Request) :
    s.handleAll R (rs ++ rs') = (s.handleAll R rs).handleAll R rs' := by
  induction rs generalizing s with
  | nil => rfl
  | cons r rs ih => exact ih

theorem answers_append (rs rs' : List Request) :
    s.answers R (rs ++ rs') = s.answers R rs ++ (s.handleAll R rs).answers R rs' := by
  induction rs generalizing s with
  | nil => rfl
  | cons r rs ih => exact congrArg (_ :: ·) ih

theorem filters_handleAll (rs : List Request) :
    (s.handleAll R rs).server.filters = s.server.filters := by
  induction rs generalizing s with
  | nil => rfl
  | cons r rs ih => exact ih.trans (Session.filters_handle r)

theorem lastSet_concat (log : List Answered) (x : Answered) :
    lastSet hook (log ++ [x]) = (x.patternsFor hook).or (lastSet hook log) := by
  cases h : x.patternsFor hook <;> simp [lastSet, h]

/-- Only a ruleset request that succeeds changes a ruleset. -/
theorem load_handle (R : Regex) (s : Session) (hook : FilterHook) (r : Request) :
    s.server.filters.load (s.handle R r).1.dll.store hook =
      match Answered.patternsFor hook (r, (s.handle R r).2) with
      | none => s.server.filters.load s.dll.store hook
      | some patterns => rulesetOf (some patterns) := by
  cases r with
  | registerLogger params =>
    simp [Session.handle, Answered.patternsFor]
  | enableFiltering env => rfl
  | disableFiltering env => rfl
  | setRuleset params =>
    have hload := Session.load_setRuleset (R := R) (s := s) params hook
    simp only [Session.handle]
    rw [hload]
    cases hr : Session.readRuleset R params with
    | error e =>
      have he : (s.setRuleset R params).2 = .error e := by simp [Session.setRuleset, hr]
      simp [he, Answered.patternsFor]
    | ok x =>
      have he : (s.setRuleset R params).2 = .ok () := by simp [Session.setRuleset, hr]
      simp only [he, Answered.patternsFor, (readRuleset_eq_ok.mp hr).1.patternsFor]
      by_cases hk : x.1 = hook
      · simp [hk, rulesetOf]
      · simp [hk]

/-- The rulesets of a server are made of the patterns set last. -/
theorem load_handleAll (store : Store) (channels : Channels) (rs : List Request)
    (hook : FilterHook) :
    let s₀ := Session.new (.loaded store channels)
    s₀.server.filters.load (s₀.handleAll R rs).dll.store hook =
      rulesetOf (lastSet hook (s₀.answers R rs)) := by
  intro s₀
  induction rs using List.reverseRecOn with
  | nil => exact Filters.load_empty
  | append_singleton rs r ih =>
    rw [handleAll_append, answers_append]
    change s₀.server.filters.load ((s₀.handleAll R rs).handle R r).1.dll.store hook =
      rulesetOf (lastSet hook (s₀.answers R rs ++ [(r, ((s₀.handleAll R rs).handle R r).2)]))
    rw [lastSet_concat]
    have hl := load_handle R (s₀.handleAll R rs) hook r
    rw [filters_handleAll] at hl
    rw [hl]
    cases Answered.patternsFor hook (r, ((s₀.handleAll R rs).handle R r).2) with
    | none => exact ih
    | some patterns => rfl

/-- A ruleset request succeeds exactly if its patterns can be read and both lists compile. -/
theorem setRuleset_eq_ok_iff : (s.setRuleset R params).2 = .ok () ↔
    ∃ k whitelist blacklist, params.Carries k whitelist blacklist ∧
      R.compile whitelist = .ok () ∧ R.compile blacklist = .ok () := by
  constructor
  · intro h
    obtain ⟨⟨k, ruleset⟩, hr⟩ := Session.setRuleset_eq_ok h
    exact ⟨k, _, _, readRuleset_eq_ok.mp hr⟩
  · rintro ⟨k, whitelist, blacklist, h⟩
    simp [Session.setRuleset, readRuleset_eq_ok.mpr h]

theorem check_setRuleset_of_error {e : CapnpError} (h : (s.setRuleset R params).2 = .error e) :
    s.server.filters.check R (s.setRuleset R params).1.dll.store hook request =
      s.server.filters.check R s.dll.store hook request := by
  rw [Filters.check, Session.load_setRuleset]
  cases hr : Session.readRuleset R params with
  | error e => rfl
  | ok x => simp [Session.setRuleset, hr] at h

theorem check_setRuleset_of_ok (h : (s.setRuleset R params).2 = .ok ()) :
    ∃ k whitelist blacklist, params.Carries k whitelist blacklist ∧
      (s.server.filters.check R (s.setRuleset R params).1.dll.store hook request = true ↔
        if k = hook then Passes R whitelist blacklist request
        else s.server.filters.check R s.dll.store hook request = true) := by
  obtain ⟨⟨k, ruleset⟩, hr⟩ := Session.setRuleset_eq_ok h
  refine ⟨k, _, _, (readRuleset_eq_ok.mp hr).1, ?_⟩
  rw [Filters.check, Session.load_setRuleset, hr]
  by_cases hk : k = hook
  · simp only [hk, if_true]
    exact check_rulesetOf (some (ruleset.whitelist.patterns, ruleset.blacklist.patterns))
  · simp only [hk, if_false]
    rfl

/-- After any requests, the filters and every clone of them decide by the patterns that were set
last for the hook; a ruleset request succeeds exactly if its patterns are readable and compile, one
that fails changes no verdict, and one that succeeds replaces both lists of its own hook. -/
theorem filters_check (R : Regex) (store : Store) (channels : Channels) (pre post : List Request)
    (hook : FilterHook) (request : String) :
    let s₀ := Session.new (.loaded store channels)
    let s := s₀.handleAll R (pre ++ post)
    let check := fun store => s.server.filters.check R store hook request
    (check s.dll.store = true ↔
      Allowed R request (lastSet hook (s₀.answers R (pre ++ post)))) ∧
    (s₀.handleAll R pre).server.filters.clone.check R s.dll.store hook request =
      check s.dll.store ∧
    ∀ params,
      ((s.setRuleset R params).2 = .ok () ↔ ∃ k whitelist blacklist,
        params.Carries k whitelist blacklist ∧
          R.compile whitelist = .ok () ∧ R.compile blacklist = .ok ()) ∧
      (∀ e, (s.setRuleset R params).2 = .error e →
        check (s.setRuleset R params).1.dll.store = check s.dll.store) ∧
      ((s.setRuleset R params).2 = .ok () → ∃ k whitelist blacklist,
        params.Carries k whitelist blacklist ∧
          (check (s.setRuleset R params).1.dll.store = true ↔
            if k = hook then Passes R whitelist blacklist request
            else check s.dll.store = true)) := by
  intro s₀ s check
  refine ⟨?_, ?_, fun params => ⟨setRuleset_eq_ok_iff, ?_, ?_⟩⟩
  · have hl := load_handleAll (R := R) store channels (pre ++ post) hook
    change (s.server.filters.load s.dll.store hook).check R request = true ↔ _
    rw [filters_handleAll]
    rw [hl]
    exact check_rulesetOf _
  · have hpre : (s₀.handleAll R pre).server.filters = s.server.filters := by
      rw [filters_handleAll, filters_handleAll]
    rw [hpre]
    rfl
  · intro e he
    exact check_setRuleset_of_error he
  · intro hok
    exact check_setRuleset_of_ok hok

/-- A list with an unclosed group does not compile, and a pattern matches itself. -/
def groupRegex : Regex :=
  ⟨fun patterns => if "(" ∈ patterns then .error "unclosed group" else .ok (), fun p r => p == r⟩

/-- The second request takes back the first one's whitelist, but does not compile. -/
def halfCompiled : List Request :=
  [.setRuleset ⟨.ok (), .ok .getAddrInfo, .ok (), .ok [.ok "a"], .ok []⟩,
    .setRuleset ⟨.ok (), .ok .getAddrInfo, .ok (), .ok [], .ok [.ok "("]⟩]

theorem filters_check_halfCompiled :
    let s := (Session.new (.loaded .empty .empty)).handleAll groupRegex halfCompiled
    s.server.filters.check groupRegex s.dll.store .getAddrInfo "a" = true ∧
      s.server.filters.check groupRegex s.dll.store .getAddrInfo "b" ≠ true ∧
      s.server.filters.check groupRegex s.dll.store .cefUrlRequestCreate "b" = true := by
  have hlast : lastSet .getAddrInfo
      ((Session.new (.loaded .empty .empty)).answers groupRegex ([] ++ halfCompiled)) =
        some (["a"], []) := rfl
  have hnone : lastSet .cefUrlRequestCreate
      ((Session.new (.loaded .empty .empty)).answers groupRegex ([] ++ halfCompiled)) =
        none := rfl
  refine ⟨?_, ?_, ?_⟩
  · refine (filters_check groupRegex .empty .empty [] halfCompiled .getAddrInfo "a").1.mpr ?_
    rw [hlast]
    exact ⟨.inr ⟨"a", by simp, by decide⟩, by simp⟩
  · intro h
    have ha := (filters_check groupRegex .empty .empty [] halfCompiled .getAddrInfo "b").1.mp h
    rw [hlast] at ha
    simp [Allowed, Passes, groupRegex] at ha
  · refine (filters_check groupRegex .empty .empty [] halfCompiled .cefUrlRequestCreate "b").1.mpr
      ?_
    rw [hnone]
    trivial

end BurntSushi.Blocker
