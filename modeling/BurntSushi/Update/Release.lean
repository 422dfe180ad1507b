import BurntSushi.Update.Check

/-! The release that `find_latest_release` offers. -/
namespace BurntSushi.Update

section Versions

variable {V : Type} [LinearOrder V]

/-- `r` is the last of those with the greatest version. -/
def LastGreatest {α : Type} (version : α → V) (rs : List α) (r : α) : Prop :=
  ∃ before after, rs = before ++ r :: after ∧ (∀ q ∈ before, version q ≤ version r) ∧
    ∀ q ∈ after, version q < version r

/-- The versions that parse, each with its release. -/
def parsed (S : Semver V) (releases : List Release) : List (Release × V) :=
  releases.filterMap fun r => (S.parse r.version).map fun v => (r, v)

/-- `release` has the version `v`, the greatest of all that parse, and is the last to have it. -/
structure Newest (S : Semver V) (releases : List Release) (release : Release) (v : V) : Prop where
  parses : S.parse release.version = some v
  last : ∃ before after, releases = before ++ release :: after ∧
    (∀ r ∈ before, ∀ w, S.parse r.version = some w → w ≤ v) ∧
    ∀ r ∈ after, ∀ w, S.parse r.version = some w → w < v

variable {rs : List (Release × V)} {r s : Release × V} {S : Semver V} {releases : List Release}
  {release : Release} {v : V}

theorem latest_concat : latest (rs ++ [s]) =
    some (match latest rs with
      | none => s
      | some r => if s.2 < r.2 then r else s) := by
  cases rs with
  | nil => rfl
  | cons q qs => simp [latest]

theorem latest_eq_some (h : latest rs = some r) : LastGreatest Prod.snd rs r := by
  induction rs using List.reverseRecOn generalizing r with
  | nil => simp [latest] at h
  | append_singleton rs s ih =>
    rw [latest_concat] at h
    cases hl : latest rs with
    | none =>
      obtain rfl := latest_eq_none_iff.mp hl
      obtain rfl : s = r := by simpa [latest] using h
      exact ⟨[], [], rfl, by simp, by simp⟩
    | some q =>
      obtain ⟨before, after, rfl, hbefore, hafter⟩ := ih hl
      replace h : (if s.2 < q.2 then q else s) = r := by simpa [hl] using h
      split at h
      · rename_i hlt
        subst h
        refine ⟨before, after ++ [s], by simp, hbefore, ?_⟩
        intro p hp
        rcases List.mem_append.mp hp with hp | hp
        · exact hafter p hp
        · obtain rfl := List.mem_singleton.mp hp
          exact hlt
      · rename_i hle
        subst h
        refine ⟨before ++ q :: after, [], by simp, ?_, by simp⟩
        have hqs : q.2 ≤ s.2 := not_lt.mp hle
        intro p hp
        rcases List.mem_append.mp hp with hp | hp
        · exact (hbefore p hp).trans hqs
        · rcases List.mem_cons.mp hp with rfl | hp
          · exact hqs
          · exact (hafter p hp).le.trans hqs

theorem LastGreatest.latest_eq (h : LastGreatest Prod.snd rs r) : latest rs = some r := by
  obtain ⟨before, after, rfl, hbefore, hafter⟩ := h
  induction after using List.reverseRecOn with
  | nil =>
    rw [latest_concat]
    cases hl : latest before with
    | none => rfl
    | some q =>
      obtain ⟨_, _, rfl, -, -⟩ := latest_eq_some hl
      have hle := hbefore q (by simp)
      simp [not_lt.mpr hle]
  | append_singleton after s ih =>
    rw [← List.cons_append, ← List.append_assoc, latest_concat,
      ih fun q hq => hafter q (List.mem_append_left _ hq)]
    have hlt := hafter s (by simp)
    simp [hlt]

omit [LinearOrder V] in
theorem mem_parsed {x : Release × V} :
    x ∈ parsed S releases ↔ x.1 ∈ releases ∧ S.parse x.1.version = some x.2 := by
  simp only [parsed, List.mem_filterMap, Option.map_eq_some_iff]
  constructor
  · rintro ⟨r, hr, w, hw, rfl⟩
    exact ⟨hr, hw⟩
  · rintro ⟨hr, hw⟩
    exact ⟨x.1, hr, x.2, hw, rfl⟩

theorem newest_iff : Newest S releases release v ↔
    LastGreatest Prod.snd (parsed S releases) (release, v) := by
  constructor
  · rintro ⟨hp, before, after, rfl, hbefore, hafter⟩
    refine ⟨parsed S before, parsed S after, ?_, ?_, ?_⟩
    · simp [parsed, hp]
    · intro x hx
      obtain ⟨hr, hw⟩ := mem_parsed.mp hx
      exact hbefore _ hr _ hw
    · intro x hx
      obtain ⟨hr, hw⟩ := mem_parsed.mp hx
      exact hafter _ hr _ hw
  · rintro ⟨before, after, he, hbefore, hafter⟩
    obtain ⟨rs, rs', rfl, hrs, hrs'⟩ := List.filterMap_eq_append_iff.mp he
    obtain ⟨rs₁, r, rs₂, rfl, hnone, hr, hrs₂⟩ := List.filterMap_eq_cons_iff.mp hrs'
    obtain ⟨w, hp, hw⟩ := Option.map_eq_some_iff.mp hr
    obtain ⟨rfl, rfl⟩ := Prod.mk.inj hw
    refine ⟨hp, rs ++ rs₁, rs₂, by simp, ?_, ?_⟩
    · intro q hq u hu
      rcases List.mem_append.mp hq with hq | hq
      · exact hbefore (q, u) (hrs ▸ mem_parsed.mpr ⟨hq, hu⟩)
      · simpa [hu] using hnone q hq
    · intro q hq u hu
      exact hafter (q, u) (hrs₂ ▸ mem_parsed.mpr ⟨hq, hu⟩)

theorem findLatestRelease_of_none (h : ∀ r ∈ releases, S.parse r.version = none) :
    findLatestRelease S releases = .error "No valid release found" := by
  have hnil : parsed S releases = [] := by
    apply List.filterMap_eq_nil_iff.mpr
    intro r hr
    simp [h r hr]
  have hl : latest (parsed S releases) = none := latest_eq_none_iff.mpr hnil
  simp only [parsed] at hl
  simp only [findLatestRelease, hl]

theorem findLatestRelease_of_newest (h : Newest S releases release v) :
    findLatestRelease S releases = .ok (if v ≤ S.appVersion then none else some release) := by
  have hl := (newest_iff.mp h).latest_eq
  simp only [parsed] at hl
  simp only [findLatestRelease, hl]
  split <;> rfl

/-- A version that parses has a greatest one. -/
theorem exists_newest {r : Release} (hr : r ∈ releases) (hp : S.parse r.version = some v) :
    ∃ release w, Newest S releases release w ∧ v ≤ w := by
  have hmem : (r, v) ∈ parsed S releases := mem_parsed.mpr ⟨hr, hp⟩
  cases hl : latest (parsed S releases) with
  | none => simp [latest_eq_none_iff.mp hl] at hmem
  | some x =>
    have hx := latest_eq_some hl
    refine ⟨x.1, x.2, newest_iff.mpr hx, ?_⟩
    obtain ⟨before, after, he, hbefore, hafter⟩ := hx
    rw [he] at hmem
    rcases List.mem_append.mp hmem with hm | hm
    · exact hbefore _ hm
    · rcases List.mem_cons.mp hm with rfl | hm
      · exact le_rfl
      · exact (hafter _ hm).le

theorem Newest.le (h : Newest S releases release v) {r : Release} (hr : r ∈ releases) {w : V}
    (hw : S.parse r.version = some w) : w ≤ v := by
  obtain ⟨hp, before, after, rfl, hbefore, hafter⟩ := h
  rcases List.mem_append.mp hr with hr | hr
  · exact hbefore r hr w hw
  · rcases List.mem_cons.mp hr with rfl | hr
    · obtain rfl := Option.some.inj (hw.symm.trans hp)
      exact le_rfl
    · exact (hafter r hr w hw).le

theorem Newest.mem (h : Newest S releases release v) : release ∈ releases := by
  obtain ⟨before, after, rfl, -, -⟩ := h.last
  simp

theorem newest_or_none (S : Semver V) (releases : List Release) :
    (∃ release v, Newest S releases release v) ∨ ∀ r ∈ releases, S.parse r.version = none := by
  by_cases hsome : ∃ r ∈ releases, ∃ v, S.parse r.version = some v
  · obtain ⟨r, hr, v, hv⟩ := hsome
    obtain ⟨release, w, hn, -⟩ := exists_newest hr hv
    exact .inl ⟨release, w, hn⟩
  · right
    intro r hr
    cases hp : S.parse r.version with
    | none => rfl
    | some v => exact absurd ⟨r, hr, v, hp⟩ hsome

theorem findLatestRelease_eq_some : findLatestRelease S releases = .ok (some release) ↔
    ∃ v, Newest S releases release v ∧ S.appVersion < v := by
  constructor
  · intro he
    rcases newest_or_none S releases with ⟨other, w, hn⟩ | hnone
    · rw [findLatestRelease_of_newest hn] at he
      split at he
      · cases he
      · rename_i hlt
        cases he
        exact ⟨w, hn, not_le.mp hlt⟩
    · rw [findLatestRelease_of_none hnone] at he
      cases he
  · rintro ⟨v, hn, hlt⟩
    rw [findLatestRelease_of_newest hn, if_neg (not_le.mpr hlt)]

theorem findLatestRelease_eq_none : findLatestRelease S releases = .ok none ↔
    (∃ r ∈ releases, (S.parse r.version).isSome) ∧
      ∀ r ∈ releases, ∀ v, S.parse r.version = some v → v ≤ S.appVersion := by
  rcases newest_or_none S releases with ⟨release, w, hn⟩ | hnone
  · rw [findLatestRelease_of_newest hn]
    constructor
    · intro he
      refine ⟨⟨release, hn.mem, by simp [hn.parses]⟩, ?_⟩
      intro q hq u hu
      split at he
      · rename_i hle
        exact (hn.le hq hu).trans hle
      · cases he
    · rintro ⟨-, hle⟩
      rw [if_pos (hle release hn.mem w hn.parses)]
  · rw [findLatestRelease_of_none hnone]
    simp only [reduceCtorEq, false_iff]
    rintro ⟨⟨r, hr, hp⟩, -⟩
    simp [hnone r hr] at hp

/-- What `find_latest_release` makes of the releases. -/
structure Offers (S : Semver V) (releases : List Release)
    (found : Except String (Option Release)) : Prop where
  offered : ∀ release, found = .ok (some release) ↔
    ∃ v, Newest S releases release v ∧ S.appVersion < v
  current : found = .ok none ↔ (∃ r ∈ releases, (S.parse r.version).isSome) ∧
    ∀ r ∈ releases, ∀ v, S.parse r.version = some v → v ≤ S.appVersion
  failed : (∃ e, found = .error e) ↔ ∀ r ∈ releases, S.parse r.version = none

/-- The release that is offered is the last one of the greatest version, which is newer than the
running one; nothing is offered exactly if there are versions and none of them is newer, and the
lookup fails exactly if none of them parses. -/
theorem offers_findLatestRelease (S : Semver V) (releases : List Release) :
    Offers S releases (findLatestRelease S releases) := by
  refine ⟨fun _ => findLatestRelease_eq_some, findLatestRelease_eq_none, ?_⟩
  rcases newest_or_none S releases with ⟨release, w, hn⟩ | hnone
  · rw [findLatestRelease_of_newest hn]
    simp only [reduceCtorEq, exists_false, false_iff]
    intro hnone
    simpa [hnone release hn.mem] using hn.parses
  · rw [findLatestRelease_of_none hnone]
    exact ⟨fun _ => hnone, fun _ => ⟨_, rfl⟩⟩

end Versions

end BurntSushi.Update
