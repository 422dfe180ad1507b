import Mathlib.Logic.Function.Basic
import Mathlib.Data.List.Basic

/-! The rulesets of `filters.rs`, behind the `Arc` that every clone of a `Filters` shares. -/
namespace BurntSushi.Blocker

/-- `FilterHook` of the schema. -/
inductive FilterHook where
  | getAddrInfo
  | cefUrlRequestCreate
  deriving DecidableEq, Repr

namespace FilterHook

/-- `mem::variant_count::<FilterHook>()`. -/
abbrev length : Nat := 2

def intoUsize : FilterHook → Fin length
  | .getAddrInfo => 0
  | .cefUrlRequestCreate => 1

def fromUsize : Fin length → FilterHook
  | 0 => .getAddrInfo
  | 1 => .cefUrlRequestCreate

@[simp] theorem fromUsize_intoUsize (hook : FilterHook) : fromUsize hook.intoUsize = hook := by
  cases hook <;> rfl

theorem intoUsize_injective : Function.Injective intoUsize :=
  Function.LeftInverse.injective fromUsize_intoUsize

end FilterHook

/-- `EnumMap<FilterHook, α>`: one cell for each hook, indexed through `Enum::into_usize`. -/
structure EnumMap (α : Type*) where
  array : Vector α FilterHook.length

namespace EnumMap

variable {α : Type*}

def replicate (x : α) : EnumMap α := ⟨Vector.replicate FilterHook.length x⟩

def get (m : EnumMap α) (hook : FilterHook) : α := m.array[hook.intoUsize]

def set (m : EnumMap α) (hook : FilterHook) (x : α) : EnumMap α :=
  ⟨m.array.set hook.intoUsize x⟩

@[simp] theorem get_replicate (x : α) (hook : FilterHook) : (replicate x).get hook = x := by
  simp [get, replicate]

theorem get_set (m : EnumMap α) (hook k : FilterHook) (x : α) :
    (m.set hook x).get k = if hook = k then x else m.get k := by
  have hk : (hook.intoUsize : Nat) = k.intoUsize ↔ hook = k :=
    Fin.val_inj.trans FilterHook.intoUsize_injective.eq_iff
  simp [get, set, Vector.getElem_set, hk]

end EnumMap

/-- The `regex` crate as the blocker uses it: compiling a list of patterns may fail, and one
pattern matches a request or does not. -/
structure Regex where
  compile : List String → Except String Unit
  isMatch : String → String → Bool

/-- Every list compiles and no pattern matches anything. -/
def quietRegex : Regex := ⟨fun _ => .ok (), fun _ _ => false⟩

/-- A compiled `RegexSet`. -/
structure RegexSet where
  patterns : List String
  deriving DecidableEq, Repr

namespace RegexSet

def new (R : Regex) (patterns : List String) : Except String RegexSet :=
  (R.compile patterns).map fun _ => ⟨patterns⟩

def empty : RegexSet := ⟨[]⟩

def isEmpty (set : RegexSet) : Bool := set.patterns.isEmpty

def isMatch (R : Regex) (set : RegexSet) (request : String) : Bool :=
  set.patterns.any (R.isMatch · request)

end RegexSet

structure FilterRuleset where
  whitelist : RegexSet := .empty
  blacklist : RegexSet := .empty
  deriving DecidableEq, Repr

/-- `FilterRuleset::default()`. -/
def FilterRuleset.default : FilterRuleset := {}

def FilterRuleset.check (R : Regex) (ruleset : FilterRuleset) (request : String) : Bool :=
  (ruleset.whitelist.isEmpty || ruleset.whitelist.isMatch R request) &&
    !ruleset.blacklist.isMatch R request

/-- The heap cells behind the `Arc`s; `fresh` is the next one `Arc::new` hands out. -/
structure Store where
  cell : Nat → EnumMap FilterRuleset
  fresh : Nat

def Store.empty : Store := ⟨fun _ => .replicate .default, 0⟩

/-- A `Filters` is a pointer to its rulesets; cloning it copies the pointer. -/
structure Filters where
  rulesets : Nat
  deriving DecidableEq, Repr

namespace Filters

/-- `Filters::empty`: a new cell with the default ruleset for each hook. -/
def empty (store : Store) : Filters × Store :=
  (⟨store.fresh⟩,
    { cell := Function.update store.cell store.fresh (.replicate .default)
      fresh := store.fresh + 1 })

/-- The snapshot that `self.rulesets[hook].load()` returns. -/
def load (filters : Filters) (store : Store) (hook : FilterHook) : FilterRuleset :=
  (store.cell filters.rulesets).get hook

def replaceRuleset (filters : Filters) (store : Store) (hook : FilterHook)
    (ruleset : FilterRuleset) : Store :=
  { store with
    cell := Function.update store.cell filters.rulesets
      ((store.cell filters.rulesets).set hook ruleset) }

def check (R : Regex) (filters : Filters) (store : Store) (hook : FilterHook)
    (request : String) : Bool :=
  (filters.load store hook).check R request

variable {store : Store} {filters other : Filters} {hook k : FilterHook}
  {ruleset : FilterRuleset}

@[simp] theorem load_empty : (empty store).1.load (empty store).2 hook = .default := by
  simp [empty, load]

theorem load_replaceRuleset :
    filters.load (filters.replaceRuleset store hook ruleset) k =
      if hook = k then ruleset else filters.load store k := by
  simp [load, replaceRuleset, EnumMap.get_set]

end Filters

end BurntSushi.Blocker
