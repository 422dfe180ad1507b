import BurntSushi.Logger.FileLog

/-! What a rotation keeps of a log file, and what is left of it when `open_file` fails. -/
namespace BurntSushi

namespace FileLog

/-- What follows directly after a newline of `bytes` and is short enough to be kept. -/
structure Admissible (bytes kept : List UInt8) : Prop where
  afterNewline : ∃ before, bytes = before ++ 0x0A :: kept
  short : kept.length ≤ keptLen

/-- `kept` is the longest admissible suffix of `bytes`, or nothing when there is none. -/
def Longest (bytes kept : List UInt8) : Prop :=
  (Admissible bytes kept ∧ ∀ other, Admissible bytes other → other.length ≤ kept.length) ∨
    (kept = [] ∧ ∀ other, ¬ Admissible bytes other)

/-- The rewriting of the cleared file fails before it has written all that the rotation keeps. -/
def Torn (io : LogIo) (bytes : List UInt8) : Prop :=
  Clears io ∧ ∃ text, fromUtf8 bytes = some text ∧
    ∃ e n, io.rewrite = .failed e n ∧ n < (asBytes (afterNewline text)).length

/-- The file holds all of its old content, or all that the rotation keeps of it. -/
def Whole (bytes : List UInt8) (content : Option (List UInt8)) : Prop :=
  content = some bytes ∨
    ∃ text, fromUtf8 bytes = some text ∧ content = some (asBytes (afterNewline text))

variable {c : Char} {text kept : List Char} {bytes other : List UInt8} {io : LogIo}
  {log : FileLog} {fs : Fs} {path : Path}

theorem Admissible.length_lt (h : Admissible bytes other) : other.length < bytes.length := by
  obtain ⟨⟨before, rfl⟩, -⟩ := h
  simp only [List.length_append, List.length_cons]
  omega

theorem not_admissible_nil : ¬ Admissible [] other := by
  intro h
  simpa using h.length_lt

/-- A character that does not let its rest be kept adds nothing that could be. -/
theorem admissible_cons (hc : ¬ (c = '\n' ∧ (asBytes text).length ≤ keptLen)) :
    Admissible (asBytes (c :: text)) other ↔ Admissible (asBytes text) other := by
  constructor
  · rintro ⟨⟨before, hbefore⟩, hshort⟩
    rcases asBytes_cons_eq hbefore with ⟨hnewline, -, rfl⟩ | ⟨before', -, hrest⟩
    · exact absurd ⟨hnewline, hshort⟩ hc
    · exact ⟨⟨before', hrest⟩, hshort⟩
  · rintro ⟨⟨before, hbefore⟩, hshort⟩
    refine ⟨⟨String.utf8EncodeChar c ++ before, ?_⟩, hshort⟩
    rw [asBytes_cons, hbefore, List.append_assoc]

/-- The first newline with few enough bytes behind it has the longest suffix behind it. -/
theorem longest_afterNewline (text : List Char) :
    Longest (asBytes text) (asBytes (afterNewline text)) := by
  induction text with
  | nil => exact .inr ⟨rfl, fun _ => not_admissible_nil⟩
  | cons c text ih =>
    by_cases hc : c = '\n' ∧ (asBytes text).length ≤ keptLen
    · obtain ⟨rfl, hshort⟩ := hc
      have hkept : afterNewline ('\n' :: text) = text := if_pos ⟨rfl, hshort⟩
      rw [hkept]
      refine .inl ⟨⟨⟨[], rfl⟩, hshort⟩, ?_⟩
      intro other hother
      have hlt := hother.length_lt
      rw [length_asBytes_cons] at hlt
      have hsize : '\n'.utf8Size = 1 := rfl
      omega
    · have hkept : afterNewline (c :: text) = afterNewline text := if_neg hc
      rw [hkept]
      rcases ih with ⟨hadm, hlongest⟩ | ⟨hnil, hnone⟩
      · refine .inl ⟨(admissible_cons hc).mpr hadm, ?_⟩
        intro other hother
        exact hlongest other ((admissible_cons hc).mp hother)
      · refine .inr ⟨hnil, ?_⟩
        intro other hother
        exact hnone other ((admissible_cons hc).mp hother)

/-- A slice behind a newline begins at a character. -/
theorem sliceFrom_isSome {index : Nat} (h : index ∈ matchIndices '\n' 0 text) :
    (sliceFrom text (index + 1)).isSome := by
  obtain ⟨pre, post, rfl, rfl⟩ := exists_of_mem_matchIndices h
  rw [Nat.zero_add, sliceFrom_newline]
  rfl

theorem context_ne_panic {α : Type} {msg message : String} {res : Except String α} :
    context msg res ≠ .error (.panic message) := by
  cases res <;> simp [context, Except.mapError]

/-- The rotation returns its errors; none of its slices panics. -/
theorem truncatedContents_ne_panic (message : String) :
    truncatedContents io bytes ≠ .error (.panic message) := by
  intro h
  rcases Except.bind_eq_error.mp h with h | ⟨_, _, h⟩
  · exact context_ne_panic h
  rcases Except.bind_eq_error.mp h with h | ⟨contents, _, h⟩
  · exact context_ne_panic h
  rcases Except.bind_eq_error.mp h with h | ⟨_, _, h⟩
  · rw [truncated_eq] at h
    cases h
  rcases Except.bind_eq_error.mp h with h | ⟨_, _, h⟩
  · exact context_ne_panic h
  rcases Except.bind_eq_error.mp h with h | ⟨_, _, h⟩
  · exact context_ne_panic h
  cases h

theorem rotate_ne_panic (message : String) :
    (rotate io path bytes fs).2 ≠ .error (.panic message) := by
  simp only [rotate]
  cases hcontents : truncatedContents io bytes with
  | error e =>
    intro h
    cases h
    exact truncatedContents_ne_panic message hcontents
  | ok contents => cases hrewrite : io.rewrite <;> simp [File.writeAll]

/-- The only panic of `open_file` is that of `file.metadata().unwrap()`. -/
theorem openFile_panic {message : String} (h : (log.openFile io fs).2 = .error (.panic message)) :
    io.metadata = .error message := by
  cases hfile : log.file with
  | some writer => simp [openFile, hfile] at h
  | none =>
    cases hdir : io.createDirAll with
    | error e => simp [openFile, hfile, hdir, context, Except.mapError] at h
    | ok =>
      cases hopen : io.openAppend with
      | error e => simp [openFile, hfile, hdir, hopen, context, Except.mapError] at h
      | ok =>
        cases hmeta : io.metadata with
        | error e =>
          simpa [openFile, hfile, hdir, hopen, hmeta, context, Except.mapError] using h
        | ok =>
          simp only [openFile, hfile, hdir, hopen, hmeta, context, Except.mapError] at h
          split at h
          · exact absurd (Except.map_eq_error.mp h) (rotate_ne_panic message)
          · cases h

/-- What is not too long stays as it is, however `open_file` ends. -/
theorem openFile_short (io : LogIo) (hfs : fs log.path = some bytes)
    (hlen : bytes.length ≤ maxLen) :
    (log.openFile io fs).1 log.path = some bytes := by
  cases hfile : log.file with
  | some writer => simpa only [openFile, hfile] using hfs
  | none =>
    have h := openFile_opening io fs hfile
    rw [hfs, Option.getD_some] at h
    generalize log.openFile io fs = res at h ⊢
    obtain ⟨fs', res⟩ := res
    cases h with
    | failed hsame _ =>
      rcases hsame with rfl | rfl
      · exact hfs
      · exact Function.update_self ..
    | appending _ _ => exact Function.update_self ..
    | rotated hlt _ _ _ => exact absurd hlen (Nat.not_le.mpr hlt)
    | torn hlt _ _ _ => exact absurd hlen (Nat.not_le.mpr hlt)

/-- An `open_file` that succeeds leaves a long text with the longest suffix that may be kept. No
`open_file` changes a file that is not too long, and none panics on a slice: each one it takes of
a text is cut at a character, and its only panic is that of `metadata`. -/
theorem openFile_rotates (io : LogIo) (hfs : fs log.path = some bytes) :
    (log.file = none → ∀ text, bytes = asBytes text → maxLen < bytes.length →
      ∀ fs' writer, log.openFile io fs = (fs', .ok writer) →
        ∃ kept, fs' log.path = some kept ∧ Longest bytes kept) ∧
    (bytes.length ≤ maxLen → (log.openFile io fs).1 log.path = some bytes) ∧
    (∀ text, bytes = asBytes text → ∀ index ∈ matchIndices '\n' 0 text,
      (sliceFrom text (index + 1)).isSome) ∧
    ∀ message, (log.openFile io fs).2 = .error (.panic message) →
      io.metadata = .error message := by
  refine ⟨?_, openFile_short io hfs, fun _ _ _ => sliceFrom_isSome, fun _ => openFile_panic⟩
  rintro hfile text rfl hlen fs' writer hopen
  have h := openFile_opening io fs hfile
  rw [hopen, hfs, Option.getD_some] at h
  cases h with
  | appending hle _ => exact absurd hle (Nat.not_le.mpr hlen)
  | rotated _ htext _ _ =>
    rw [fromUtf8_asBytes] at htext
    cases htext
    exact ⟨_, Function.update_self .., longest_afterNewline text⟩

theorem length_afterNewline_le (text : List Char) :
    (asBytes (afterNewline text)).length ≤ keptLen := by
  rcases longest_afterNewline text with ⟨hadm, -⟩ | ⟨hnil, -⟩
  · exact hadm.short
  · rw [hnil]
    exact Nat.zero_le _

/-- A proper beginning of what the rotation keeps is too short to be the old content. -/
theorem not_whole_take {n : Nat} (htext : fromUtf8 bytes = some text) (hlen : maxLen < bytes.length)
    (hn : n < (asBytes (afterNewline text)).length) :
    ¬ Whole bytes (some ((asBytes (afterNewline text)).take n)) := by
  have hkept := length_afterNewline_le text
  have hlens : keptLen < maxLen := by decide
  have htake : ((asBytes (afterNewline text)).take n).length = n := by
    rw [List.length_take]
    omega
  rintro (hold | ⟨text', htext', hnew⟩)
  · have hl := congrArg List.length (Option.some.inj hold)
    omega
  · cases htext.symm.trans htext'
    have hl := congrArg List.length (Option.some.inj hnew)
    omega

/-- An opening that ends in an error has lost something exactly if its rewriting was torn. -/
theorem Opening.whole_iff {fs' : Fs} {res : Except LogError BufWriter}
    (h : Opening io path bytes fs fs' res) (hfs : fs path = some bytes)
    (hlen : maxLen < bytes.length) :
    (∀ context source, res = .error (.err context source) → Whole bytes (fs' path)) ↔
      ¬ Torn io bytes := by
  cases h with
  | failed hsame hio =>
    constructor
    · rintro - ⟨hclears, text, htext, -⟩
      cases ((hio hclears.toAppends).2 hclears).symm.trans htext
    · intro _ context source _
      rcases hsame with rfl | rfl
      · exact .inl hfs
      · exact .inl (Function.update_self ..)
  | appending hle _ => omega
  | rotated _ _ _ hio =>
    constructor
    · rintro - ⟨-, text, -, e, n, hfailed, -⟩
      cases hio.symm.trans hfailed
    · intro _ context source herr
      cases herr
  | @torn text e n _ htext hclears hio =>
    constructor
    · rintro hwhole ⟨-, text', htext', e', n', hio', hlt⟩
      cases htext.symm.trans htext'
      cases hio.symm.trans hio'
      have hw := hwhole _ _ rfl
      rw [Function.update_self] at hw
      exact not_whole_take htext hlen hlt hw
    · intro hnot context source _
      have hle : (asBytes (afterNewline text)).length ≤ n := by
        apply Nat.le_of_not_lt
        intro hlt
        exact hnot ⟨hclears, text, htext, e, n, hio, hlt⟩
      rw [Function.update_self, List.take_of_length_le hle]
      exact .inr ⟨text, htext, rfl⟩

/-- An `open_file` of a long file that returns an error has lost something exactly if the log was
not open yet and its rewriting was torn. -/
theorem openFile_err_whole_iff (hfs : fs log.path = some bytes) (hlen : maxLen < bytes.length) :
    (∀ fs' context source, log.openFile io fs = (fs', .error (.err context source)) →
      Whole bytes (fs' log.path)) ↔ ¬ (log.file = none ∧ Torn io bytes) := by
  cases hfile : log.file with
  | some writer =>
    constructor
    · rintro - ⟨hnone, -⟩
      cases hnone
    · rintro - fs' context source hopen
      simp only [openFile, hfile] at hopen
      cases hopen
  | none =>
    have h := openFile_opening io fs hfile
    rw [hfs, Option.getD_some] at h
    have hiff := h.whole_iff hfs hlen
    simp only [true_and, ← hiff]
    constructor
    · intro hwhole context source hres
      exact hwhole _ context source (Prod.ext rfl hres)
    · intro hwhole fs' context source hopen
      rw [hopen] at hwhole
      exact hwhole context source rfl

/-- An opening in which no step before the rewriting fails. -/
theorem Opening.eq_of_clears {fs' : Fs} {res : Except LogError BufWriter}
    (h : Opening io path bytes fs fs' res) (hio : Clears io) (htext : fromUtf8 bytes = some text) :
    (fs', res) =
      if bytes.length ≤ maxLen then
        (Function.update fs path (some bytes), .ok (.new ⟨path, true, 0⟩))
      else
        match io.rewrite with
        | .done =>
          (Function.update fs path (some (asBytes (afterNewline text))),
            .ok (.new ⟨path, false, (asBytes (afterNewline text)).length⟩))
        | .failed e n =>
          (Function.update fs path (some ((asBytes (afterNewline text)).take n)),
            .error (.err "Failed to write log file." e)) := by
  cases h with
  | failed _ hnone => cases ((hnone hio.toAppends).2 hio).symm.trans htext
  | appending hle _ => rw [if_pos hle]
  | rotated hlt htext' _ hdone =>
    cases htext.symm.trans htext'
    rw [if_neg (Nat.not_le.mpr hlt), hdone]
  | torn hlt htext' _ hfailed =>
    cases htext.symm.trans htext'
    rw [if_neg (Nat.not_le.mpr hlt), hfailed]

theorem length_asBytes_replicate (n : Nat) : (asBytes (List.replicate n 'a')).length = n := by
  induction n with
  | zero => rfl
  | succ n ih =>
    have hsize : 'a'.utf8Size = 1 := rfl
    rw [List.replicate_succ, length_asBytes_cons, ih]
    omega

theorem afterNewline_replicate (n : Nat) :
    afterNewline (List.replicate n 'a' ++ text) = afterNewline text := by
  induction n with
  | zero => rfl
  | succ n ih =>
    rw [List.replicate_succ, List.cons_append, afterNewline, if_neg (by simp), ih]

/-- A long line and a short one. -/
def grown : List Char := List.replicate maxLen 'a' ++ ['\n', 'b']

def grownPath : Path := ⟨"logs", "BurntSushi.log"⟩

def grownFs : Fs := fun path => if path = grownPath then some (asBytes grown) else none

theorem grownFs_path : grownFs grownPath = some (asBytes grown) := if_pos rfl

theorem lt_length_grown : maxLen < (asBytes grown).length := by
  rw [grown, asBytes_append, List.length_append, length_asBytes_replicate]
  exact Nat.lt_add_of_pos_right (by decide)

theorem afterNewline_grown : afterNewline grown = ['b'] := by
  rw [grown, afterNewline_replicate]
  decide

theorem openFile_grown (hio : Clears io) :
    (FileLog.new grownPath).openFile io grownFs =
      match io.rewrite with
      | .done =>
        (Function.update grownFs grownPath (some (asBytes ['b'])),
          .ok (.new ⟨grownPath, false, 1⟩))
      | .failed e n =>
        (Function.update grownFs grownPath (some ((asBytes ['b']).take n)),
          .error (.err "Failed to write log file." e)) := by
  have h := @openFile_opening (.new grownPath) io grownFs rfl
  have hpath : (FileLog.new grownPath).path = grownPath := rfl
  rw [hpath, grownFs_path, Option.getD_some] at h
  have heq := h.eq_of_clears hio fromUtf8_asBytes
  rw [if_neg (Nat.not_le.mpr lt_length_grown), afterNewline_grown] at heq
  exact heq

theorem openFile_rotates_grown :
    ∃ fs' writer kept, (FileLog.new grownPath).openFile .succeeding grownFs = (fs', .ok writer) ∧
      fs' grownPath = some kept ∧ Longest (asBytes grown) kept := by
  have hfs : (grownFs grownPath).getD [] = asBytes grown := by rw [grownFs_path, Option.getD_some]
  obtain ⟨fs', writer, hopen, -⟩ := @openFile_succeeding _ _ (.new grownPath) rfl hfs
  have hrotates := (@openFile_rotates _ (.new grownPath) _ .succeeding grownFs_path).1 rfl
  obtain ⟨kept, hkept, hlongest⟩ := hrotates grown rfl lt_length_grown fs' writer hopen
  exact ⟨fs', writer, kept, hopen, hkept, hlongest⟩

/-- The disk is full when the rotation writes what it keeps. -/
def diskFull : LogIo :=
  { LogIo.succeeding with rewrite := .failed "There is not enough space on the disk." 0 }

theorem clears_diskFull : Clears diskFull := ⟨⟨rfl, rfl, rfl⟩, rfl, rfl, rfl, rfl⟩

/-- The file is empty after the error. -/
theorem openFile_diskFull_not_whole :
    ¬ ∀ fs' context source, (FileLog.new grownPath).openFile diskFull grownFs =
      (fs', .error (.err context source)) → Whole (asBytes grown) (fs' grownPath) := by
  intro hwhole
  have hlost := hwhole _ _ _ (openFile_grown clears_diskFull)
  rw [Function.update_self, ← afterNewline_grown] at hlost
  apply not_whole_take fromUtf8_asBytes lt_length_grown ?_ hlost
  rw [afterNewline_grown]
  decide

/-- The rotation fails before it clears the file. -/
def setLenDenied : LogIo := { LogIo.succeeding with setLen := .error "Access is denied." }

theorem openFile_err_whole_setLenDenied :
    ¬ Torn setLenDenied (asBytes grown) ∧
      ∀ fs' context source, (FileLog.new grownPath).openFile setLenDenied grownFs =
        (fs', .error (.err context source)) → Whole (asBytes grown) (fs' grownPath) := by
  have hnot : ¬ Torn setLenDenied (asBytes grown) := by
    rintro ⟨hclears, -⟩
    cases hclears.setLen
  refine ⟨hnot, ?_⟩
  apply (openFile_err_whole_iff grownFs_path lt_length_grown).mpr
  rintro ⟨-, htorn⟩
  exact hnot htorn

end FileLog

end BurntSushi
