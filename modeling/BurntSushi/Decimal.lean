import Mathlib.Data.List.Basic

/-! Decimal numerals, and how an unsigned integer below a limit is parsed from one. -/
namespace Decimal

/-- The checked operations have no value from `limit` on. -/
def checked (limit n : Nat) : Option Nat := if n < limit then some n else none

def toDigit (c : Char) : Option Nat := if c.isDigit then some (c.toNat - '0'.toNat) else none

/-- The digits of a text behind the digits of `n`. -/
def readDigits (limit : Nat) : Nat → List Char → Option Nat
  | n, [] => some n
  | n, c :: text => do
    let digit ← toDigit c
    let shifted ← checked limit (10 * n)
    let m ← checked limit (shifted + digit)
    readDigits limit m text

/-- `str::parse` for an unsigned integer: a plus sign may stand before the digits. -/
def parse (limit : Nat) : List Char → Option Nat
  | [] => none
  | c :: text =>
    if c = '+' then
      if text = [] then none else readDigits limit 0 text
    else readDigits limit 0 (c :: text)

/-- The digits, at least one of them, have the value `n`. -/
def IsNumeral (digits : List Char) (n : Nat) : Prop :=
  digits ≠ [] ∧ (∀ c ∈ digits, c.isDigit) ∧ Nat.ofDigitChars 10 digits 0 = n

/-- A text denotes the value of its digits, with or without a plus sign before them. -/
def Denotes (text : List Char) (n : Nat) : Prop :=
  IsNumeral text n ∨ ∃ digits, text = '+' :: digits ∧ IsNumeral digits n

variable {limit n m i j : Nat} {c : Char} {text : List Char}

theorem checked_eq_some_iff : checked limit n = some m ↔ n = m ∧ n < limit := by
  simp only [checked]
  split <;> simp [*]

theorem toDigit_eq_some_iff : toDigit c = some m ↔ c.isDigit ∧ c.toNat - '0'.toNat = m := by
  simp only [toDigit]
  split <;> simp [*]

theorem le_ofDigitChars : n ≤ Nat.ofDigitChars 10 text n := by
  induction text generalizing n with
  | nil => simp
  | cons c text ih =>
    have hle := @ih (10 * n + (c.toNat - '0'.toNat))
    rw [Nat.ofDigitChars_cons]
    omega

/-- The value is read unless it, and then some value on the way, reaches the limit. -/
theorem readDigits_eq_some_iff (hn : n < limit) :
    readDigits limit n text = some m ↔
      (∀ c ∈ text, c.isDigit) ∧ Nat.ofDigitChars 10 text n = m ∧ m < limit := by
  induction text generalizing n with
  | nil =>
    simp only [readDigits, Option.some.injEq, List.not_mem_nil, Nat.ofDigitChars_nil]
    constructor
    · rintro rfl
      exact ⟨by simp, rfl, hn⟩
    · exact fun h => h.2.1
  | cons c text ih =>
    simp only [readDigits, Option.bind_eq_bind, Option.bind_eq_some_iff, toDigit_eq_some_iff,
      checked_eq_some_iff, List.forall_mem_cons, Nat.ofDigitChars_cons]
    constructor
    · rintro ⟨digit, ⟨hc, rfl⟩, _, ⟨rfl, -⟩, _, ⟨rfl, hlt⟩, hr⟩
      obtain ⟨htext, hm⟩ := (ih hlt).mp hr
      exact ⟨⟨hc, htext⟩, hm⟩
    · rintro ⟨⟨hc, htext⟩, hval, hm⟩
      have hle := @le_ofDigitChars (10 * n + (c.toNat - '0'.toNat)) text
      have hlt : 10 * n + (c.toNat - '0'.toNat) < limit := by omega
      exact ⟨_, ⟨hc, rfl⟩, _, ⟨rfl, by omega⟩, _, ⟨rfl, hlt⟩,
        (ih hlt).mpr ⟨htext, hval, hm⟩⟩

theorem readDigits_zero_eq_some_iff (hlimit : 0 < limit) (htext : text ≠ []) :
    readDigits limit 0 text = some n ↔ IsNumeral text n ∧ n < limit := by
  rw [readDigits_eq_some_iff hlimit]
  simp only [IsNumeral, ne_eq, htext, not_false_eq_true, true_and, and_assoc]

theorem not_isNumeral_plus : ¬ IsNumeral ('+' :: text) n := by
  intro h
  simpa using h.2.1 '+' (by simp)

theorem denotes_plus_iff : Denotes ('+' :: text) n ↔ IsNumeral text n := by
  simp [Denotes, not_isNumeral_plus]

theorem denotes_iff_of_ne_plus (hc : c ≠ '+') :
    Denotes (c :: text) n ↔ IsNumeral (c :: text) n := by
  simp [Denotes, hc]

/-- What is parsed is what the text denotes. -/
theorem parse_eq_some_iff (hlimit : 0 < limit) :
    parse limit text = some n ↔ Denotes text n ∧ n < limit := by
  cases text with
  | nil => simp [parse, Denotes, IsNumeral]
  | cons c text =>
    rcases eq_or_ne c '+' with rfl | hc
    · rw [denotes_plus_iff, parse, if_pos rfl]
      rcases eq_or_ne text [] with rfl | htext
      · simp [IsNumeral]
      · rw [if_neg htext, readDigits_zero_eq_some_iff hlimit htext]
    · rw [denotes_iff_of_ne_plus hc, parse, if_neg hc,
        readDigits_zero_eq_some_iff hlimit (List.cons_ne_nil c text)]

example : parse 256 ['+', '0', '7'] = some 7 ∧ parse 256 ['2', '5', '6'] = none := by decide

theorem Denotes.unique (hi : Denotes text i) (hj : Denotes text j) : i = j := by
  rcases hi with hi | ⟨digits, rfl, hi⟩
  · rcases hj with hj | ⟨digits, rfl, hj⟩
    · exact hi.2.2.symm.trans hj.2.2
    · exact absurd hi not_isNumeral_plus
  · have hj := denotes_plus_iff.mp hj
    exact hi.2.2.symm.trans hj.2.2

/-- A number is denoted by its decimal representation, which denotes no other. -/
theorem denotes_toString_iff : Denotes (toString i).toList j ↔ j = i := by
  have hi : Denotes (toString i).toList i := by
    refine .inl ⟨?_, ?_, ?_⟩
    · simp
    · intro c hc
      rw [Nat.toString_eq_repr, Nat.toList_repr] at hc
      exact Nat.isDigit_of_mem_toDigits (by decide) (by decide) hc
    · simp
  constructor
  · exact fun hj => hj.unique hi
  · rintro rfl
    exact hi

end Decimal
