import Mathlib.Tactic.Common

/-! Text as Rust's standard library decodes and compares it. -/
namespace BurntSushi

/-- `String::from_utf16_lossy`: a surrogate without its partner becomes U+FFFD. -/
def fromUtf16Lossy : List UInt16 → List Char
  | [] => []
  | [u] => [if 0xD800 ≤ u ∧ u ≤ 0xDFFF then Char.ofNat 0xFFFD else Char.ofNat u.toNat]
  | u :: v :: us =>
    if u < 0xD800 ∨ 0xDFFF < u then
      Char.ofNat u.toNat :: fromUtf16Lossy (v :: us)
    else if u < 0xDC00 ∧ 0xDC00 ≤ v ∧ v ≤ 0xDFFF then
      Char.ofNat (0x10000 + (u.toNat - 0xD800) * 0x400 + (v.toNat - 0xDC00)) ::
        fromUtf16Lossy us
    else
      Char.ofNat 0xFFFD :: fromUtf16Lossy (v :: us)

/-- `char::is_whitespace`, the `White_Space` property. -/
def isWhitespace (c : Char) : Bool :=
  let n := c.toNat
  (9 ≤ n && n ≤ 13) || n == 0x20 || n == 0x85 || n == 0xA0 || n == 0x1680 ||
    (0x2000 ≤ n && n ≤ 0x200A) || n == 0x2028 || n == 0x2029 || n == 0x202F || n == 0x205F ||
    n == 0x3000

/-- `make_ascii_lowercase` on a decoded text. -/
def asciiLowercase (text : List Char) : List Char :=
  text.map fun c => if 'A' ≤ c ∧ c ≤ 'Z' then Char.ofNat (c.toNat + 32) else c

/-- `str::as_bytes`. -/
def asBytes (text : List Char) : List UInt8 := text.flatMap String.utf8EncodeChar

/-- `String::from_utf8`, `none` for bytes that are not UTF-8. -/
def fromUtf8 (bytes : List UInt8) : Option (List Char) :=
  (ByteArray.utf8Decode? ⟨bytes.toArray⟩).map Array.toList

/-- The byte offsets of `match_indices` in a text that begins at `offset`. -/
def matchIndices (c : Char) (offset : Nat) : List Char → List Nat
  | [] => []
  | d :: text =>
    let indices := matchIndices c (offset + d.utf8Size) text
    if d = c then offset :: indices else indices

/-- `&text[index..]`; `none` where it panics. -/
def sliceFrom : List Char → Nat → Option (List Char)
  | text, 0 => some text
  | [], _ + 1 => none
  | c :: text, index => if c.utf8Size ≤ index then sliceFrom text (index - c.utf8Size) else none

variable {c : Char} {text pre : List Char} {n offset index : Nat} {before rest : List UInt8}

@[simp] theorem asBytes_nil : asBytes [] = [] := rfl

theorem asBytes_cons : asBytes (c :: text) = String.utf8EncodeChar c ++ asBytes text := rfl

@[simp] theorem asBytes_append : asBytes (pre ++ text) = asBytes pre ++ asBytes text :=
  List.flatMap_append

theorem length_asBytes_cons :
    (asBytes (c :: text)).length = c.utf8Size + (asBytes text).length := by
  rw [asBytes_cons, List.length_append, String.length_utf8EncodeChar]

theorem fromUtf8_asBytes : fromUtf8 (asBytes text) = some text := by
  have hb : (⟨(asBytes text).toArray⟩ : ByteArray) = List.utf8Encode text :=
    ByteArray.ext (List.data_toByteArray).symm
  rw [fromUtf8, hb, List.utf8Decode?_utf8Encode]
  simp

theorem sliceFrom_append : sliceFrom (pre ++ text) (asBytes pre).length = some text := by
  induction pre with
  | nil => cases text <;> rfl
  | cons c pre ih =>
    have hpos := Nat.add_pos_left c.utf8Size_pos (asBytes pre).length
    rw [length_asBytes_cons, List.cons_append, sliceFrom, if_pos (Nat.le_add_right _ _),
      Nat.add_sub_cancel_left, ih]
    exact Nat.ne_of_gt hpos

theorem length_asBytes_concat :
    (asBytes (pre ++ [c])).length = (asBytes pre).length + c.utf8Size := by
  rw [asBytes_append, List.length_append, length_asBytes_cons, asBytes_nil, List.length_nil,
    Nat.add_zero]

theorem sliceFrom_newline :
    sliceFrom (pre ++ '\n' :: text) ((asBytes pre).length + 1) = some text := by
  have hlen : (asBytes (pre ++ ['\n'])).length = (asBytes pre).length + 1 := length_asBytes_concat
  have hcut := @sliceFrom_append text (pre ++ ['\n'])
  rwa [hlen, List.append_assoc, List.singleton_append] at hcut

/-- A match has all of its offset before it. -/
theorem exists_of_mem_matchIndices (h : index ∈ matchIndices c offset text) :
    ∃ pre post, text = pre ++ c :: post ∧ index = offset + (asBytes pre).length := by
  induction text generalizing offset with
  | nil => simp [matchIndices] at h
  | cons d text ih =>
    have hrest : index ∈ matchIndices c (offset + d.utf8Size) text →
        ∃ pre post, d :: text = pre ++ c :: post ∧ index = offset + (asBytes pre).length := by
      intro h
      obtain ⟨pre, post, rfl, rfl⟩ := ih h
      refine ⟨d :: pre, post, rfl, ?_⟩
      rw [length_asBytes_cons]
      omega
    rcases eq_or_ne d c with rfl | hd
    · simp only [matchIndices, if_true, List.mem_cons] at h
      rcases h with rfl | h
      · exact ⟨[], text, rfl, rfl⟩
      · exact hrest h
    · simp only [matchIndices, if_neg hd] at h
      exact hrest h

theorem mod_eq_of_newline (h : (0x0A : UInt8) = UInt8.ofNat n) : n % 256 = 10 := by
  simpa using (congrArg UInt8.toNat h).symm

/-- No other character has the byte of the newline in its encoding. -/
theorem eq_newline_of_mem (h : 0x0A ∈ String.utf8EncodeChar c) : c = '\n' := by
  have hc : c.val.toNat = 10 := by
    simp only [String.utf8EncodeChar] at h
    split_ifs at h
    all_goals
      simp only [List.mem_cons, List.not_mem_nil, or_false] at h
      grind [mod_eq_of_newline]
  exact Char.ext (UInt32.toNat_inj.mp hc)

/-- A newline in the bytes of a text is its first character or one of the characters after it. -/
theorem asBytes_cons_eq (h : asBytes (c :: text) = before ++ 0x0A :: rest) :
    (c = '\n' ∧ before = [] ∧ rest = asBytes text) ∨
      ∃ before', before = String.utf8EncodeChar c ++ before' ∧
        asBytes text = before' ++ 0x0A :: rest := by
  rw [asBytes_cons] at h
  rcases List.append_eq_append_iff.mp h with ⟨mid, hbefore, htext⟩ | ⟨mid, hc, hmid⟩
  · exact .inr ⟨mid, hbefore, htext⟩
  · cases mid with
    | nil => exact .inr ⟨[], by simpa using hc.symm, by simpa using hmid.symm⟩
    | cons byte mid =>
      obtain ⟨rfl, hrest⟩ := List.cons.inj hmid
      obtain rfl := eq_newline_of_mem (c := c) (by simp [hc])
      have hlen := congrArg List.length hc
      simp only [List.length_append, List.length_cons, String.length_utf8EncodeChar] at hlen
      have hsize : '\n'.utf8Size = 1 := rfl
      obtain rfl := List.eq_nil_of_length_eq_zero (l := before) (by omega)
      obtain rfl := List.eq_nil_of_length_eq_zero (l := mid) (by omega)
      exact .inl ⟨rfl, rfl, hrest⟩

end BurntSushi
