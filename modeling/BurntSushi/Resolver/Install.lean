import BurntSushi.Lts
import BurntSushi.Resolver.Blocker

/-! Runs of `resolve_blocker` and `install_blocker` on one file system, with a record of what a
failed write has left behind. -/
namespace BurntSushi.Resolver

open Lts

variable (build : Embedded)

def installBlocker (path : Path) (env : TryEnv) (fs : Fs) : Fs × Except String Unit :=
  tryLoadBlocker build path true true env fs

/-- Who has written what a path holds: nobody here, or a write that has ended or failed. -/
inductive Origin where
  | initial
  | complete
  | truncated
  deriving DecidableEq, Repr

/-- The files, with the origin of their contents. -/
structure BlockerFiles where
  fs : Fs
  origin : Path → Origin

namespace BlockerFiles

/-- Whether `try_load_blocker` takes the file that is there. -/
def accepts (path : Path) (checkVersion : Bool) (env : TryEnv) (fs : Fs) : Bool :=
  match if env.metadata then fs path else none with
  | none => false
  | some content => !(checkVersion && !blockerMatchesCurrentVersion build env content)

/-- What an attempt to write leaves at a path. -/
def writtenOrigin (env : TryEnv) : Option Origin :=
  match env.createDirAll, env.write with
  | .error _, _ => none
  | .ok (), .done => some .complete
  | .ok (), .failed _ none => none
  | .ok (), .failed _ (some n) =>
    some (if n < build.payloadBytes.length then .truncated else .complete)

/-- `try_load_blocker`, with the record. -/
def tryLoad (path : Path) (checkVersion writeIfAbsent : Bool) (env : TryEnv) (s : BlockerFiles) :
    BlockerFiles × Except String Unit :=
  let (fs, res) := tryLoadBlocker build path checkVersion writeIfAbsent env s.fs
  let written :=
    if accepts build path checkVersion env s.fs || !writeIfAbsent then none
    else writtenOrigin build env
  (⟨fs, Function.update s.origin path (written.getD (s.origin path))⟩, res)

def attempt (path : Option Path) (checkVersion writeIfAbsent : Bool) (env : TryEnv)
    (next : BlockerFiles → BlockerFiles × Except String Path) (s : BlockerFiles) :
    BlockerFiles × Except String Path :=
  match path with
  | none => next s
  | some path =>
    match s.tryLoad build path checkVersion writeIfAbsent env with
    | (s, .ok ()) => (s, .ok path)
    | (s, .error _) => next s

/-- `resolve_blocker`, with the record. -/
def resolve (providedPath : Option Path) (env : ResolveEnv) :
    BlockerFiles → BlockerFiles × Except String Path :=
  attempt build providedPath false true env.provided <|
  attempt build env.siblingPath true false env.sibling <|
  attempt build env.tempPath true true env.temp fun s =>
  (s, .error "Could not find or create blocker.")

inductive Label where
  | resolve (providedPath : Option Path) (env : ResolveEnv)
  | install (path : Path) (env : TryEnv)

def initial (fs : Fs) : BlockerFiles := ⟨fs, fun _ => .initial⟩

def step (s : BlockerFiles) : Label → Option BlockerFiles
  | .resolve providedPath env => some (s.resolve build providedPath env).1
  | .install path env => some (s.tryLoad build path true true env).1

/-- A content whose version is the current one. -/
def Current (content : List UInt8) : Prop :=
  ∃ major minor patch build', build.fileVersion content = some (major, minor, patch, build') ∧
    (major, minor, patch) = appVersion

/-- A returned path is a file, which was there from the beginning and is the provided one, or has
the current version; no failed write has truncated it. -/
def Trustworthy (s : BlockerFiles) : Label → Prop
  | .resolve providedPath env => ∀ path, (s.resolve build providedPath env).2 = .ok path →
      ∃ content, (s.resolve build providedPath env).1.fs path = some content ∧
        (providedPath = some path ∧ (s.resolve build providedPath env).1.origin path = .initial ∨
          Current build content) ∧
        (s.resolve build providedPath env).1.origin path ≠ .truncated
  | .install _ _ => True

/-- The provided path, if its file is found, does not hold what a failed write has left. -/
def ProvidedWhole (s : BlockerFiles) : Label → Prop
  | .resolve providedPath env => ∀ path, providedPath = some path → env.provided.metadata = true →
      s.origin path ≠ .truncated
  | .install _ _ => True

/-- The payload has the current version, and none of its proper prefixes has a version. -/
structure Versioned : Prop where
  payload : Current build build.payloadBytes
  prefixes : ∀ n, n < build.payloadBytes.length →
    build.fileVersion (build.payloadBytes.take n) = none

/-- The record is right about what the program has written. -/
structure Inv (s : BlockerFiles) : Prop where
  complete : ∀ path, s.origin path = .complete → s.fs path = some build.payloadBytes
  truncated : ∀ path, s.origin path = .truncated →
    ∃ n, n < build.payloadBytes.length ∧ s.fs path = some (build.payloadBytes.take n)

/-- What follows an attempt keeps the record right and returns only current blockers. -/
def Sound (next : BlockerFiles → BlockerFiles × Except String Path) : Prop :=
  ∀ s, Inv build s → Inv build (next s).1 ∧ ∀ path, (next s).2 = .ok path →
    ∃ content, (next s).1.fs path = some content ∧ Current build content

variable {build} {s t : BlockerFiles} {path : Path} {check write : Bool} {env : TryEnv} {fs : Fs}
  {found : Option Path} {next : BlockerFiles → BlockerFiles × Except String Path}
  {tr : List (BlockerFiles × Label)} {res : Except String Unit}

theorem current_of_matches {content : List UInt8}
    (h : blockerMatchesCurrentVersion build env content = true) : Current build content := by
  simp only [blockerMatchesCurrentVersion] at h
  split at h
  · cases h
  · rename_i major minor patch build' hversion
    split at hversion
    · exact ⟨major, minor, patch, build', hversion, of_decide_eq_true h⟩
    · cases hversion

/-- A file that is taken stays as it is. -/
theorem tryLoad_of_accepts (write : Bool)
    (h : accepts build path check env s.fs = true) :
    s.tryLoad build path check write env = (s, .ok ()) ∧
      ∃ content, s.fs path = some content ∧ env.metadata = true ∧
        (check = true → Current build content) := by
  have hsame : Function.update s.origin path (s.origin path) = s.origin :=
    Function.update_eq_self ..
  have haccepts := h
  simp only [accepts] at h
  split at h
  · cases h
  · rename_i content hcontent
    split at hcontent
    · rename_i hmetadata
      have hmatch : ¬ (check && !blockerMatchesCurrentVersion build env content) = true := by
        intro hm
        rw [hm] at h
        cases h
      refine ⟨?_, content, hcontent, hmetadata, ?_⟩
      · simp only [tryLoad, haccepts, tryLoadBlocker, hmetadata, if_true, hcontent, if_neg hmatch,
          Bool.true_or, Option.getD_none, hsame]
      · rintro rfl
        exact current_of_matches (by simpa using hmatch)
    · cases hcontent

/-- What an attempt comes to when the file is not taken. -/
theorem tryLoad_of_not_accepts (h : accepts build path check env s.fs = false) :
    s.tryLoad build path check write env =
      if write then
        (⟨(writeBlocker build path env s.fs).1, Function.update s.origin path
            ((writtenOrigin build env).getD (s.origin path))⟩, (writeBlocker build path env s.fs).2)
      else (s, .error "Blocker not found at given path.") := by
  have hload : tryLoadBlocker build path check write env s.fs =
      if write then writeBlocker build path env s.fs
      else (s.fs, .error "Blocker not found at given path.") := by
    cases hfound : (if env.metadata = true then s.fs path else none) with
    | none => simp only [tryLoadBlocker, hfound]
    | some content =>
      simp only [accepts, hfound, Bool.not_eq_false'] at h
      simp only [tryLoadBlocker, hfound, h, if_true]
  have hsame : Function.update s.origin path (s.origin path) = s.origin :=
    Function.update_eq_self ..
  cases write with
  | true =>
    simp only [tryLoad, h, hload, if_true, Bool.not_true, Bool.or_false, Bool.false_eq_true,
      if_false]
  | false =>
    simp only [tryLoad, h, hload, Bool.not_false, Bool.or_true, if_true, Option.getD_none, hsame,
      Bool.false_eq_true, if_false]

theorem Inv.update {content : List UInt8} {origin : Origin} (hI : Inv build s) (path : Path)
    (hcomplete : origin = .complete → content = build.payloadBytes)
    (htruncated : origin = .truncated →
      ∃ n, n < build.payloadBytes.length ∧ content = build.payloadBytes.take n) :
    Inv build ⟨Function.update s.fs path (some content),
      Function.update s.origin path origin⟩ := by
  constructor
  · intro path' horigin
    rcases eq_or_ne path' path with rfl | hne
    · simp only [Function.update_self] at horigin ⊢
      rw [hcomplete horigin]
    · simp only [Function.update_of_ne hne] at horigin ⊢
      exact hI.complete path' horigin
  · intro path' horigin
    rcases eq_or_ne path' path with rfl | hne
    · simp only [Function.update_self] at horigin ⊢
      obtain ⟨n, hn, rfl⟩ := htruncated horigin
      exact ⟨n, hn, rfl⟩
    · simp only [Function.update_of_ne hne] at horigin ⊢
      exact hI.truncated path' horigin

/-- A write leaves its record right. -/
theorem Inv.writeBlocker (hI : Inv build s) (path : Path) (env : TryEnv) :
    Inv build ⟨(Resolver.writeBlocker build path env s.fs).1,
      Function.update s.origin path ((writtenOrigin build env).getD (s.origin path))⟩ := by
  have hsame : Function.update s.origin path (s.origin path) = s.origin :=
    Function.update_eq_self ..
  simp only [Resolver.writeBlocker, writtenOrigin]
  cases env.createDirAll with
  | error e => simpa [hsame] using hI
  | ok =>
    cases env.write with
    | done =>
      apply hI.update path (fun _ => rfl)
      rintro ⟨⟩
    | failed e n =>
      cases n with
      | none => simpa [hsame] using hI
      | some n =>
        simp only [Option.getD_some]
        split
        · rename_i hn
          exact hI.update path (by rintro ⟨⟩) fun _ => ⟨n, hn, rfl⟩
        · rename_i hn
          have hall : build.payloadBytes.take n = build.payloadBytes :=
            List.take_of_length_le (Nat.le_of_not_lt hn)
          exact hI.update path (fun _ => hall) (by rintro ⟨⟩)

theorem writeBlocker_eq_ok (h : (Resolver.writeBlocker build path env fs).2 = .ok ()) :
    (Resolver.writeBlocker build path env fs).1 path = some build.payloadBytes := by
  simp only [Resolver.writeBlocker] at h ⊢
  cases hdir : env.createDirAll with
  | error e =>
    rw [hdir] at h
    cases h
  | ok =>
    cases hwrite : env.write with
    | done => exact Function.update_self ..
    | failed e n =>
      rw [hdir, hwrite] at h
      cases n <;> cases h

/-- An attempt that succeeds has written the payload, or has left everything as it was. -/
theorem Inv.tryLoad (hV : Versioned build) (hI : Inv build s) (path : Path) (check write : Bool)
    (env : TryEnv) :
    Inv build (s.tryLoad build path check write env).1 ∧
      ((s.tryLoad build path check write env).2 = .ok () →
        ∃ content, (s.tryLoad build path check write env).1.fs path = some content ∧
          (Current build content ∨
            check = false ∧ env.metadata = true ∧
              (s.tryLoad build path check write env).1 = s)) := by
  cases haccepts : accepts build path check env s.fs with
  | true =>
    obtain ⟨hload, content, hcontent, hmetadata, hcurrent⟩ := 
      tryLoad_of_accepts write haccepts
    rw [hload]
    refine ⟨hI, fun _ => ⟨content, hcontent, ?_⟩⟩
    cases check with
    | true => exact .inl (hcurrent rfl)
    | false => exact .inr ⟨rfl, hmetadata, rfl⟩
  | false =>
    rw [tryLoad_of_not_accepts haccepts]
    cases write with
    | true =>
      refine ⟨hI.writeBlocker path env, ?_⟩
      intro hok
      exact ⟨build.payloadBytes, writeBlocker_eq_ok hok, .inl hV.payload⟩
    | false =>
      refine ⟨hI, ?_⟩
      rintro ⟨⟩

theorem Inv.not_truncated {content : List UInt8} (hV : Versioned build) (hI : Inv build s)
    (hcontent : s.fs path = some content) (hcurrent : Current build content) :
    s.origin path ≠ .truncated := by
  intro htruncated
  obtain ⟨n, hn, hprefix⟩ := hI.truncated path htruncated
  obtain ⟨major, minor, patch, build', hversion, -⟩ := hcurrent
  cases hcontent.symm.trans hprefix
  cases hversion.symm.trans (hV.prefixes n hn)

/-- An attempt that checks the version. -/
theorem Sound.attempt (hV : Versioned build) (hnext : Sound build next) :
    Sound build (attempt build found true write env next) := by
  intro s hI
  cases found with
  | none => exact hnext s hI
  | some path =>
    obtain ⟨hI', hok⟩ := hI.tryLoad hV path true write env
    simp only [BlockerFiles.attempt]
    rcases hload : s.tryLoad build path true write env with ⟨t, e | _⟩
    · rw [hload] at hI'
      exact hnext t hI'
    · rw [hload] at hI' hok
      refine ⟨hI', ?_⟩
      rintro _ ⟨⟩
      obtain ⟨content, hcontent, hcurrent | ⟨⟨⟩, -⟩⟩ := hok rfl
      exact ⟨content, hcontent, hcurrent⟩

theorem sound_error {e : String} : Sound build fun s => (s, .error e) := by
  intro s hI
  refine ⟨hI, ?_⟩
  rintro path ⟨⟩

theorem inv_initial (fs : Fs) : Inv build (initial fs) := by
  constructor
  · rintro path ⟨⟩
  · rintro path ⟨⟩

/-- What a call does, by how the attempt at the provided path ends. -/
theorem Inv.resolve (hV : Versioned build) (hI : Inv build s) (providedPath : Option Path)
    (env : ResolveEnv) :
    Inv build (s.resolve build providedPath env).1 ∧
      ∀ path, (s.resolve build providedPath env).2 = .ok path →
        ∃ content, (s.resolve build providedPath env).1.fs path = some content ∧
          (Current build content ∨ providedPath = some path ∧ env.provided.metadata = true ∧
            (s.resolve build providedPath env).1 = s) := by
  have hrest : Sound build (attempt build env.siblingPath true false env.sibling <|
      attempt build env.tempPath true true env.temp fun s =>
        (s, .error "Could not find or create blocker.")) := (sound_error.attempt hV).attempt hV
  simp only [BlockerFiles.resolve]
  cases providedPath with
  | none =>
    obtain ⟨hI', hok⟩ := hrest s hI
    refine ⟨hI', ?_⟩
    intro path hpath
    obtain ⟨content, hcontent, hcurrent⟩ := hok path hpath
    exact ⟨content, hcontent, .inl hcurrent⟩
  | some provided =>
    obtain ⟨hI', hok⟩ := hI.tryLoad hV provided false true env.provided
    rw [attempt]
    rcases hload : s.tryLoad build provided false true env.provided with ⟨t, e | _⟩
    · rw [hload] at hI'
      obtain ⟨hI'', hok'⟩ := hrest t hI'
      refine ⟨hI'', ?_⟩
      intro path hpath
      obtain ⟨content, hcontent, hcurrent⟩ := hok' path hpath
      exact ⟨content, hcontent, .inl hcurrent⟩
    · rw [hload] at hI' hok
      refine ⟨hI', ?_⟩
      rintro _ ⟨⟩
      obtain ⟨content, hcontent, hcurrent | ⟨-, hmetadata, hsame⟩⟩ := hok rfl
      · exact ⟨content, hcontent, .inl hcurrent⟩
      · exact ⟨content, hcontent, .inr ⟨rfl, hmetadata, hsame⟩⟩

theorem inv_step (hV : Versioned build) (hI : Inv build s) (l : Label)
    (h : step build s l = some t) : Inv build t := by
  cases l with
  | resolve providedPath env =>
    cases h
    exact (hI.resolve hV providedPath env).1
  | install path env =>
    cases h
    exact (hI.tryLoad hV path true true env).1

theorem attempt_erase {next' : Fs → Fs × Except String Path}
    (hnext : ∀ s, ((next s).1.fs, (next s).2) = next' s.fs) (s : BlockerFiles) :
    ((attempt build found check write env next s).1.fs,
      (attempt build found check write env next s).2) =
      Resolver.attempt build found check write env next' s.fs := by
  cases found with
  | none => exact hnext s
  | some path =>
    simp only [attempt, Resolver.attempt, tryLoad]
    rcases tryLoadBlocker build path check write env s.fs with ⟨fs', e | _⟩
    · exact hnext _
    · rfl

/-- Without the record, a call is `resolve_blocker`. -/
theorem resolve_erase (s : BlockerFiles) (providedPath : Option Path) (env : ResolveEnv) :
    ((s.resolve build providedPath env).1.fs, (s.resolve build providedPath env).2) =
      resolveBlocker build providedPath env s.fs := by
  apply attempt_erase
  intro s
  apply attempt_erase
  intro s
  apply attempt_erase
  intro s
  rfl

/-- Without the record, a call is `install_blocker`. -/
theorem install_erase (s : BlockerFiles) (path : Path) (env : TryEnv) :
    ((s.tryLoad build path true true env).1.fs, (s.tryLoad build path true true env).2) =
      installBlocker build path env s.fs := rfl

theorem accepts_unchecked (build : Embedded) {content : List UInt8}
    (hmetadata : env.metadata = true)
    (hcontent : fs path = some content) : accepts build path false env fs = true := by
  simp only [accepts, hmetadata, if_true, hcontent, Bool.false_and, Bool.not_false]

theorem trustworthy_iff (hV : Versioned build) (hI : Inv build s) (l : Label) :
    Trustworthy build s l ↔ ProvidedWhole s l := by
  cases l with
  | install path env => exact Iff.rfl
  | resolve providedPath env =>
    obtain ⟨hI', hok⟩ := hI.resolve hV providedPath env
    constructor
    · rintro htrust path rfl hmetadata htruncated
      obtain ⟨n, -, hcontent⟩ := hI.truncated path htruncated
      obtain ⟨hload, -⟩ := tryLoad_of_accepts true (accepts_unchecked build hmetadata hcontent)
      have hresolve : s.resolve build (some path) env = (s, .ok path) := by
        simp only [BlockerFiles.resolve, attempt, hload]
      obtain ⟨_, -, -, hnot⟩ := htrust path (congrArg Prod.snd hresolve)
      rw [hresolve] at hnot
      exact hnot htruncated
    · intro hwhole path hpath
      obtain ⟨content, hcontent, hcurrent | ⟨hprovided, hmetadata, hsame⟩⟩ := hok path hpath
      · exact ⟨content, hcontent, .inr hcurrent, hI'.not_truncated hV hcontent hcurrent⟩
      · rw [hsame] at hcontent ⊢
        have hnot := hwhole path hprovided hmetadata
        refine ⟨content, hcontent, ?_, hnot⟩
        cases horigin : s.origin path with
        | initial => exact .inl ⟨hprovided, rfl⟩
        | complete =>
          cases hcontent.symm.trans (hI.complete path horigin)
          exact .inr hV.payload
        | truncated => exact absurd horigin hnot

/-- In every run, all blockers that calls return can be trusted exactly if no provided path that is
found holds what a failed write has left there. -/
theorem trustworthy_run_iff (hV : Versioned build) (h : Trace (step build) (initial fs) tr s) :
    Along (Trustworthy build) tr ↔ Along ProvidedWhole tr := by
  apply h.along_iff_along (inv_initial fs)
  · intro s l hI
    exact trustworthy_iff hV hI l
  · intro s l t hI _ hstep
    exact inv_step hV hI l hstep

/-- A build with a payload of three bytes. -/
def smallBuild : Embedded where
  payloadBytes := [0x4D, 0x5A, 0x90]
  fileVersion content := if content = [0x4D, 0x5A, 0x90] then some (0, 3, 3, 0) else none

theorem versioned_smallBuild : Versioned smallBuild := by
  constructor
  · exact ⟨0, 3, 3, 0, by decide, rfl⟩
  · decide

def userPath : Path := ⟨"C:\\blocker", "mine.dll"⟩

/-- The OS permits everything, but there is nowhere else to look. -/
def permitting (write : Write) : ResolveEnv where
  currentExe := .error "unknown"
  tempDirParent := none
  provided := ⟨true, true, .ok (), write⟩
  sibling := ⟨true, true, .ok (), write⟩
  temp := ⟨true, true, .ok (), write⟩

theorem trustworthy_run_twice :
    Along (Trustworthy smallBuild) (trail (step smallBuild) (initial fun _ => none)
      [.resolve (some userPath) (permitting .done),
        .resolve (some userPath) (permitting .done)]) := by
  apply (trustworthy_run_iff versioned_smallBuild (trace_after rfl)).mpr
  refine along_trail_cons rfl ?_ (along_trail_cons rfl ?_ along_nil)
  · rintro path ⟨⟩ _ ⟨⟩
  · rintro path ⟨⟩ _
    decide

/-- A call in which the disk is full after the first byte. -/
def fullOnce : List Label :=
  [.resolve (some userPath)
    (permitting (.failed "There is not enough space on the disk." (some 1)))]

/-- The next call returns what has been left. -/
theorem not_trustworthy_fullOnce :
    ¬ ∀ tr s, Trace (step smallBuild) (initial fun _ => none) tr s →
      Along (Trustworthy smallBuild) tr := by
  have hrun : run (step smallBuild) (initial fun _ => none) fullOnce = some _ := rfl
  apply not_along_of_run (a := .resolve (some userPath) (permitting .done)) hrun rfl
  intro hlast
  obtain ⟨content, -, -, hnot⟩ := hlast userPath rfl
  exact hnot (by decide)

end BlockerFiles

end BurntSushi.Resolver
