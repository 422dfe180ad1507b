import BurntSushi.Resource
import BurntSushi.Update.Pipeline

/-! The question whether a network is metered, with the memory that its answers are stored in. -/
namespace BurntSushi.Update.Network

open Resource

structure ProfileInfo where
  adapterGuid : String
  profileName : String
  deriving DecidableEq, Repr

/-- What the `Wcm*` functions allocate. -/
inductive Block where
  | profileInfoList (numberOfItems : Nat) (profileInfo : List ProfileInfo)
  | property (bytes : List UInt8)

structure Property where
  result : UInt32
  dataSize : Nat
  data : Option (List UInt8)

/-- What the system answers: its result, and what it has stored a pointer to. -/
structure Wcm where
  getProfileList : UInt32 × Option (Nat × List ProfileInfo)
  queryProperty : ProfileInfo → Property

def costFixed : UInt32 := 0x2

def costVariable : UInt32 := 0x4

def costOverDataLimit : UInt32 := 0x10000

def costRoaming : UInt32 := 0x40000

def meteredCostMask : UInt32 := costFixed ||| costVariable ||| costRoaming ||| costOverDataLimit

/-- The size of `WCM_CONNECTION_COST_DATA`, a `u32` and an `i32`. -/
def costDataSize : Nat := 8

/-- `ConnectionCost`, the first field. -/
def connectionCost : List UInt8 → UInt32
  | a :: b :: c :: d :: _ =>
    a.toUInt32 ||| b.toUInt32 <<< 8 ||| c.toUInt32 <<< 16 ||| d.toUInt32 <<< 24
  | _ => 0

def allocate : Option Block → Code Block (Option Nat)
  | none => pure none
  | some block => do
    let data ← acquire block
    return some data

/-- The drop of a `WcmAlloc`. -/
def wcmAllocDrop : Option Nat → Code Block Unit
  | none => pure ()
  | some data => release data

/-- A read through a pointer to a property. -/
def readCost (data : Nat) : Code Block UInt32 := do
  match ← use data with
  | .profileInfoList _ _ =>
    require False
    return 0
  | .property bytes =>
    require (costDataSize ≤ bytes.length)
    return connectionCost bytes

/-- `from_raw_parts` on the items of a list. -/
def readProfiles (profileList : Nat) : Code Block (List ProfileInfo) := do
  match ← use profileList with
  | .profileInfoList numberOfItems profileInfo =>
    require (numberOfItems ≤ profileInfo.length)
    return profileInfo.take numberOfItems
  | .property _ =>
    require False
    return []

/-- The profile is a part of the list, which is read for the call. -/
def queryConnectionCost (wcm : Wcm) (profileList : Nat) (profile : ProfileInfo) :
    Code Block (Option UInt32) := do
  let _ ← use profileList
  let property := wcm.queryProperty profile
  let data ← allocate (property.data.map .property)
  owning (wcmAllocDrop data) do
    match data with
    | none => return none
    | some data =>
      if property.result ≠ 0 ∨ property.dataSize < costDataSize then return none
      else
        let cost ← readCost data
        return some cost

/-- The list has no owner before the result is looked at. -/
def isMeteredConnection (wcm : Wcm) : Code Block Bool := do
  let profileList ← allocate (wcm.getProfileList.2.map fun list => .profileInfoList list.1 list.2)
  if wcm.getProfileList.1 ≠ 0 then return false
  else
    owning (wcmAllocDrop profileList) do
      match profileList with
      | none => return false
      | some profileList =>
        let profiles ← readProfiles profileList
        profiles.anyM fun profile => do
          let cost ← queryConnectionCost wcm profileList profile
          return cost.any fun cost => cost &&& meteredCostMask ≠ 0

/-- The sizes that the system gives are those of what it has allocated. -/
structure Wcm.Sized (wcm : Wcm) : Prop where
  profiles : ∀ n profileInfo, wcm.getProfileList = (0, some (n, profileInfo)) →
    n ≤ profileInfo.length
  property : ∀ profile bytes, (wcm.queryProperty profile).result = 0 →
    (wcm.queryProperty profile).data = some bytes →
      (wcm.queryProperty profile).dataSize ≤ bytes.length

/-- The cost that the system tells of a profile. -/
def Wcm.cost (wcm : Wcm) (profile : ProfileInfo) : Option UInt32 :=
  let property := wcm.queryProperty profile
  if property.result = 0 ∧ costDataSize ≤ property.dataSize then
    property.data.map connectionCost
  else none

/-- A cost that is not unrestricted or unknown. -/
def CostsMoney (cost : UInt32) : Prop :=
  cost &&& costFixed ≠ 0 ∨ cost &&& costVariable ≠ 0 ∨ cost &&& costRoaming ≠ 0 ∨
    cost &&& costOverDataLimit ≠ 0

/-- One of the profiles is metered. -/
def Wcm.Metered (wcm : Wcm) : Prop :=
  ∃ n profileInfo, wcm.getProfileList = (0, some (n, profileInfo)) ∧
    ∃ profile ∈ profileInfo.take n, ∃ cost, wcm.cost profile = some cost ∧ CostsMoney cost

/-- A list comes with a result that is a failure. -/
def Wcm.Leaks (wcm : Wcm) : Prop := wcm.getProfileList.1 ≠ 0 ∧ wcm.getProfileList.2.isSome = true

variable {wcm : Wcm} {own : Nat → Option Block} {profile : ProfileInfo} {profileList : Nat}

theorem and_or_ne_zero (cost a b : UInt32) :
    cost &&& (a ||| b) ≠ 0 ↔ cost &&& a ≠ 0 ∨ cost &&& b ≠ 0 := by
  have hd : cost &&& (a ||| b) = cost &&& a ||| cost &&& b :=
    UInt32.toBitVec_inj.mp (by simp [BitVec.and_or_distrib_left])
  rw [hd, ne_eq, UInt32.or_eq_zero_iff, not_and_or]

theorem and_meteredCostMask (cost : UInt32) : cost &&& meteredCostMask ≠ 0 ↔ CostsMoney cost := by
  simp only [meteredCostMask, CostsMoney, and_or_ne_zero, or_assoc]

theorem triple_allocate (block : Option Block) :
    Triple own (allocate block) fun data own' =>
      (block = none ∧ data = none ∧ own' = own) ∨
      ∃ b id, block = some b ∧ data = some id ∧ own id = none ∧
        own' = Function.update own id (some b) := by
  cases block with
  | none => exact triple_pure (.inl ⟨rfl, rfl, rfl⟩)
  | some b =>
    apply Triple.bind (triple_acquire (Q := fun id own' =>
      own id = none ∧ own' = Function.update own id (some b)) fun id hid => ⟨hid, rfl⟩)
    rintro id own' ⟨hid, rfl⟩
    exact triple_pure (.inr ⟨b, id, rfl, rfl, hid, rfl⟩)

/-- The scope of what a call has allocated. -/
theorem triple_allocated {α : Type} {block : Option Block} {body : Option Nat → Code Block α}
    {P : α → Prop} (hnone : block = none → Triple own (body none) fun x own' => own' = own ∧ P x)
    (hsome : ∀ b data, block = some b → own data = none →
      Triple (Function.update own data (some b)) (body (some data)) fun x own' =>
        own' = Function.update own data (some b) ∧ P x) :
    Triple own (do let data ← allocate block; owning (wcmAllocDrop data) (body data))
      fun x own' => own' = own ∧ P x := by
  apply (triple_allocate block).bind
  rintro data own' (⟨hb, rfl, rfl⟩ | ⟨b, id, hb, rfl, hid, rfl⟩)
  · apply Triple.owning
    exact (hnone hb).mono fun x own' hx => triple_pure hx
  · apply Triple.owning
    apply (hsome b id hb hid).mono
    rintro x own' ⟨rfl, hx⟩
    apply triple_release (Function.update_self ..)
    refine ⟨?_, hx⟩
    simp [← hid]

theorem triple_readCost {data : Nat} {bytes : List UInt8} (hd : own data = some (.property bytes))
    (hb : costDataSize ≤ bytes.length) :
    Triple own (readCost data) fun cost own' => own' = own ∧ cost = connectionCost bytes := by
  apply Triple.bind (triple_use hd (Q := fun r own' => r = .property bytes ∧ own' = own)
    ⟨rfl, rfl⟩)
  rintro r own' ⟨rfl, rfl⟩
  exact Triple.bind (triple_require hb (Q := fun _ own'' => own'' = own') rfl)
    fun _ _ h => triple_pure ⟨h, rfl⟩

theorem triple_readProfiles {n : Nat} {profileInfo : List ProfileInfo}
    (hl : own profileList = some (.profileInfoList n profileInfo)) (hn : n ≤ profileInfo.length) :
    Triple own (readProfiles profileList) fun profiles own' =>
      own' = own ∧ profiles = profileInfo.take n := by
  apply Triple.bind (triple_use hl (Q := fun r own' =>
    r = .profileInfoList n profileInfo ∧ own' = own) ⟨rfl, rfl⟩)
  rintro r own' ⟨rfl, rfl⟩
  exact Triple.bind (triple_require hn (Q := fun _ own'' => own'' = own') rfl)
    fun _ _ h => triple_pure ⟨h, rfl⟩

/-- A query reads within what it is given, and frees it. -/
theorem triple_queryConnectionCost (hW : wcm.Sized) {list : Block}
    (hl : own profileList = some list) (profile : ProfileInfo) :
    Triple own (queryConnectionCost wcm profileList profile) fun cost own' =>
      own' = own ∧ cost = wcm.cost profile := by
  apply Triple.bind (triple_use hl (Q := fun _ own' => own' = own) rfl)
  rintro _ own' rfl
  apply triple_allocated
  · intro hnone
    have hdata : (wcm.queryProperty profile).data = none := by simpa using hnone
    exact triple_pure ⟨rfl, by simp [Wcm.cost, hdata]⟩
  · intro b data hsome hfree
    obtain ⟨bytes, hdata, rfl⟩ := Option.map_eq_some_iff.mp hsome
    simp only
    split
    · rename_i hfail
      refine triple_pure ⟨rfl, ?_⟩
      have hne : ¬ ((wcm.queryProperty profile).result = 0 ∧
          costDataSize ≤ (wcm.queryProperty profile).dataSize) := by
        rintro ⟨hr, hs⟩
        rcases hfail with hf | hf
        · exact hf hr
        · omega
      simp [Wcm.cost, if_neg hne]
    · rename_i hok
      obtain ⟨hr, hs⟩ : (wcm.queryProperty profile).result = 0 ∧
          costDataSize ≤ (wcm.queryProperty profile).dataSize := by
        simpa [not_or] using hok
      have hb := Nat.le_trans hs (hW.property profile bytes hr hdata)
      apply (triple_readCost (Function.update_self ..) hb).bind
      rintro cost own'' ⟨rfl, rfl⟩
      exact triple_pure ⟨rfl, by simp [Wcm.cost, hr, hs, hdata]⟩

theorem metered_iff {n : Nat} {profileInfo : List ProfileInfo}
    (hl : wcm.getProfileList = (0, some (n, profileInfo))) :
    wcm.Metered ↔ ∃ profile ∈ profileInfo.take n,
      (wcm.cost profile).any (fun cost => cost &&& meteredCostMask ≠ 0) = true := by
  simp only [Wcm.Metered, hl, Prod.mk.injEq, true_and, Option.some.injEq, Option.any_eq_true,
    decide_eq_true_eq, and_meteredCostMask]
  constructor
  · rintro ⟨_, _, ⟨rfl, rfl⟩, h⟩
    exact h
  · intro h
    exact ⟨_, _, ⟨rfl, rfl⟩, h⟩

/-- With the sizes as the system gives them, the question reads no memory that is not its own, and
is answered by the costs of the profiles. -/
theorem triple_isMeteredConnection (hW : wcm.Sized) :
    Triple (fun _ => none) (isMeteredConnection wcm) fun metered own' =>
      (metered = true ↔ wcm.Metered) ∧ ((own' = fun _ => none) ↔ ¬ wcm.Leaks) := by
  by_cases hr : wcm.getProfileList.1 = 0
  · have hn : ¬ wcm.Leaks := fun h => h.1 hr
    simp only [isMeteredConnection, hr, ne_eq, not_true_eq_false, if_false]
    apply Triple.mono (Q := fun metered own' =>
      (own' = fun _ => none) ∧ (metered = true ↔ wcm.Metered))
    · apply triple_allocated
      · intro hnone
        refine triple_pure ⟨rfl, ?_⟩
        have hl : wcm.getProfileList.2 = none := by simpa using hnone
        simp [Wcm.Metered, Prod.ext_iff, hl]
      · intro b profileList hsome _
        obtain ⟨⟨n, profileInfo⟩, hl, rfl⟩ := Option.map_eq_some_iff.mp hsome
        have hlist : wcm.getProfileList = (0, some (n, profileInfo)) := Prod.ext hr hl
        apply (triple_readProfiles (Function.update_self ..) (hW.profiles _ _ hlist)).bind
        rintro profiles own' ⟨rfl, rfl⟩
        rw [metered_iff hlist]
        apply triple_anyM
        intro profile _
        apply (triple_queryConnectionCost hW (Function.update_self ..) profile).bind
        rintro cost own' ⟨rfl, rfl⟩
        exact triple_pure ⟨rfl, Iff.rfl⟩
    · rintro metered own' ⟨hown, hm⟩
      exact ⟨hm, iff_of_true hown hn⟩
  · have hm : ¬ wcm.Metered := by
      rintro ⟨n, profileInfo, hl, -⟩
      exact hr (congrArg Prod.fst hl)
    simp only [isMeteredConnection, ne_eq, hr, not_false_eq_true, if_true]
    apply (triple_allocate _).bind
    rintro data own' (⟨hb, rfl, rfl⟩ | ⟨b, id, hb, rfl, -, rfl⟩)
    · have hl : wcm.getProfileList.2 = none := by simpa using hb
      exact triple_pure ⟨by simp [hm], by simp [Wcm.Leaks, hl]⟩
    · obtain ⟨list, hl, -⟩ := Option.map_eq_some_iff.mp hb
      have hne : Function.update (fun _ => none) id (some b) ≠ fun _ => none := by
        intro he
        simpa using congrFun he id
      exact triple_pure ⟨by simp [hm], by simp [Wcm.Leaks, hl, hr, hne]⟩

/-- The question is answered by the costs of the profiles, and whatever the answer, all of the
memory is freed once; only a list that comes with a failure stays. -/
theorem isMeteredConnection_returns (hW : wcm.Sized) (h : Heap Block) :
    ∃ metered t, isMeteredConnection wcm h = some (metered, t) ∧ (metered = true ↔ wcm.Metered) ∧
      (t.live = h.live ↔ ¬ wcm.Leaks) := by
  obtain ⟨metered, t, own', hrun, hs, hm, hown⟩ := (triple_isMeteredConnection hW).run h
  exact ⟨metered, t, hrun, hm, hs.live_eq_iff.trans hown⟩

/-- With a metered profile, `update` has no effect, not even on the marker. -/
theorem update_of_metered {V : Type} [LinearOrder V] {a : Attempt} {h t : Heap Block} (S : Semver V)
    (marker : Option Nat) (env : PerformEnv) (renv : RestartEnv) (m : Machine) (hW : wcm.Sized)
    (hM : wcm.Metered) (hm : isMeteredConnection wcm h = some (a.metered, t)) :
    m.update S marker a env renv = (m, .ready (.ok false)) ∧
      (Update.update S marker a).2 = marker := by
  obtain ⟨metered, t', own', hrun, -, hiff, -⟩ := (triple_isMeteredConnection hW).run h
  obtain ⟨rfl, -⟩ := Prod.mk.inj (Option.some.inj (hrun.symm.trans hm))
  have ha : a.metered = true := hiff.mpr hM
  simp [Machine.update, Update.update, shouldCheckForUpdate, ha]

/-- One network that is free, and one with a variable cost. -/
def hotspot : Wcm where
  getProfileList := (0, some (2, [⟨"{1}", "Home"⟩, ⟨"{2}", "Hotspot"⟩]))
  queryProperty profile :=
    ⟨0, 8, some [if profile.profileName = "Hotspot" then 4 else 1, 0, 0, 0, 1, 0, 0, 0]⟩

theorem sized_hotspot : hotspot.Sized where
  profiles n profileInfo h := by
    cases h
    decide
  property profile bytes _ h := by
    obtain rfl := Option.some.inj h
    simp [hotspot]

theorem isMeteredConnection_returns_hotspot :
    ∃ metered t, isMeteredConnection hotspot .empty = some (metered, t) ∧
      (metered = true ↔ hotspot.Metered) ∧
        (t.live = (Heap.empty : Heap Block).live ↔ ¬ hotspot.Leaks) :=
  isMeteredConnection_returns sized_hotspot .empty

example : (isMeteredConnection hotspot .empty).map Prod.fst = some true := by decide

end BurntSushi.Update.Network
