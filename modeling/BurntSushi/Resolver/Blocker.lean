import BurntSushi.Fs
import BurntSushi.AdBlocker.Hook

/-! `resolve_blocker`: the three places a blocker is taken from, on a file system whose operations
may fail. -/
namespace BurntSushi.Resolver

open AdBlocker (defaultBlockerFileName)

def appAuthor : String := "OpenByteDev"

def appVersion : Nat × Nat × Nat := (0, 3, 3)

def appNameWithVersion : String := "BurntSushi v0.3.3"

/-- The payload that the build embeds, and the file version that the OS reads from a module. -/
structure Embedded where
  payloadBytes : List UInt8
  fileVersion : List UInt8 → Option (Nat × Nat × Nat × Nat)

/-- `tokio::fs::write`; a failed write has left some of the bytes if it has opened the file. -/
inductive Write where
  | done
  | failed (e : String) (written : Option Nat)
  deriving DecidableEq, Repr

/-- What the OS answers in one call of `try_load_blocker`. -/
structure TryEnv where
  metadata : Bool
  getFileVersion : Bool
  createDirAll : Except String Unit
  write : Write

variable (build : Embedded)

def blockerMatchesCurrentVersion (env : TryEnv) (content : List UInt8) : Bool :=
  match if env.getFileVersion then build.fileVersion content else none with
  | none => false
  | some (major, minor, patch, _) => (major, minor, patch) = appVersion

def writeBlocker (path : Path) (env : TryEnv) (fs : Fs) : Fs × Except String Unit :=
  match env.createDirAll with
  | .error e => (fs, .error e)
  | .ok () =>
    match env.write with
    | .done => (Function.update fs path (some build.payloadBytes), .ok ())
    | .failed e none => (fs, .error e)
    | .failed e (some n) =>
      (Function.update fs path (some (build.payloadBytes.take n)), .error e)

def tryLoadBlocker (path : Path) (checkVersion writeIfAbsent : Bool) (env : TryEnv) (fs : Fs) :
    Fs × Except String Unit :=
  let absent :=
    if writeIfAbsent then writeBlocker build path env fs
    else (fs, .error "Blocker not found at given path.")
  match if env.metadata then fs path else none with
  | none => absent
  | some content =>
    if checkVersion && !blockerMatchesCurrentVersion build env content then absent
    else (fs, .ok ())

/-- What the OS answers in one call of `resolve_blocker`. -/
structure ResolveEnv where
  currentExe : Except String Path
  tempDirParent : Option String
  provided : TryEnv
  sibling : TryEnv
  temp : TryEnv

def ResolveEnv.siblingPath (env : ResolveEnv) : Option Path :=
  env.currentExe.toOption.map fun exe => ⟨exe.parent, defaultBlockerFileName⟩

def ResolveEnv.tempPath (env : ResolveEnv) : Option Path :=
  env.tempDirParent.map fun dir =>
    ⟨dir ++ "\\" ++ appAuthor ++ "\\" ++ appNameWithVersion, defaultBlockerFileName⟩

/-- One place: its path if the blocker there can be used, otherwise what follows. -/
def attempt (path : Option Path) (checkVersion writeIfAbsent : Bool) (env : TryEnv)
    (next : Fs → Fs × Except String Path) (fs : Fs) : Fs × Except String Path :=
  match path with
  | none => next fs
  | some path =>
    match tryLoadBlocker build path checkVersion writeIfAbsent env fs with
    | (fs, .ok ()) => (fs, .ok path)
    | (fs, .error _) => next fs

def resolveBlocker (providedPath : Option Path) (env : ResolveEnv) :
    Fs → Fs × Except String Path :=
  attempt build providedPath false true env.provided <|
  attempt build env.siblingPath true false env.sibling <|
  attempt build env.tempPath true true env.temp fun fs =>
  (fs, .error "Could not find or create blocker.")

variable {build} {path : Option Path} {check write : Bool} {env : TryEnv}
  {next : Fs → Fs × Except String Path} {fs : Fs} {found : Path}

/-- A path comes from this place, or from what follows it. -/
theorem attempt_eq_ok (h : (attempt build path check write env next fs).2 = .ok found) :
    path = some found ∨ ∃ fs', (next fs').2 = .ok found := by
  simp only [attempt] at h
  cases path with
  | none => exact .inr ⟨fs, h⟩
  | some path =>
    rcases hl : tryLoadBlocker build path check write env fs with ⟨fs', e | u⟩
    · simp only [hl] at h
      exact .inr ⟨fs', h⟩
    · simp only [hl] at h
      exact .inl (congrArg some (Except.ok.inj h))

/-- The blocker that is used is at the provided path or has the default file name. -/
theorem resolveBlocker_eq_ok {providedPath : Option Path} {env : ResolveEnv}
    (h : (resolveBlocker build providedPath env fs).2 = .ok found) :
    providedPath = some found ∨ found.fileName = defaultBlockerFileName := by
  rcases attempt_eq_ok h with h | ⟨_, h⟩
  · exact .inl h
  rcases attempt_eq_ok h with h | ⟨_, h⟩
  · obtain ⟨_, _, rfl⟩ := Option.map_eq_some_iff.mp h
    exact .inr rfl
  rcases attempt_eq_ok h with h | ⟨_, h⟩
  · obtain ⟨_, _, rfl⟩ := Option.map_eq_some_iff.mp h
    exact .inr rfl
  · simp at h

end BurntSushi.Resolver
