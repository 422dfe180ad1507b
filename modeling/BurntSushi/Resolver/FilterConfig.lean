import BurntSushi.Client
import BurntSushi.Resolver.Blocker
import BurntSushi.Text

/-! `resolve_filter_config`: the three places a filter config is taken from, and what the attempts
leave of the files. -/
namespace BurntSushi.Resolver

open Client (FilterConfig)

def defaultFilterFileName : String := "filter.toml"

/-- The config that the build embeds, and the parser of configs. -/
structure EmbeddedFilters where
  defaultFilter : List Char
  parse : List Char → Option FilterConfig

/-- What the OS answers about a path, in the state that the files are in. -/
structure FilterIo where
  read : Path → Fs → Except String Unit
  createDirAll : Path → Fs → Except String Unit
  write : Path → Fs → Write

/-- A provided path; the empty one and a root have no parent, and name no file. -/
inductive FilterPath where
  | file (path : Path)
  | noParent
  deriving DecidableEq, Repr

/-- An error that the caller discards, or a panic. -/
inductive LoadError where
  | io (e : String)
  | panic (e : String)
  deriving DecidableEq, Repr

namespace FilterIo

/-- `read_to_string`; any failure is `none`. -/
def readToString (io : FilterIo) (path : Path) (fs : Fs) : Option (List Char) :=
  match io.read path fs with
  | .error _ => none
  | .ok () => (fs path).bind fromUtf8

end FilterIo

variable (build : EmbeddedFilters)

def tryLoadFilterConfigFromStr (filterConfig : List Char) : Except LoadError FilterConfig :=
  match build.parse filterConfig with
  | some filterConfig => .ok filterConfig
  | none => .error (.io "Filter config is invalid.")

def writeDefault (io : FilterIo) (path : Path) (fs : Fs) : Fs × Except String Unit :=
  match io.createDirAll path fs with
  | .error e => (fs, .error e)
  | .ok () =>
    match io.write path fs with
    | .done => (Function.update fs path (some (asBytes build.defaultFilter)), .ok ())
    | .failed e none => (fs, .error e)
    | .failed e (some n) =>
      (Function.update fs path (some ((asBytes build.defaultFilter).take n)), .error e)

def tryLoadFilterConfigFromPath (io : FilterIo) (path : Option FilterPath) (writeIfAbsent : Bool)
    (fs : Fs) : Fs × Except LoadError FilterConfig :=
  match path with
  | none => (fs, tryLoadFilterConfigFromStr build build.defaultFilter)
  | some .noParent =>
    if writeIfAbsent then
      (fs, .error (.panic "called Option::unwrap() on a None value"))
    else (fs, .error (.io "Filter config did not exist."))
  | some (.file path) =>
    match io.readToString path fs with
    | some filters => (fs, tryLoadFilterConfigFromStr build filters)
    | none =>
      if writeIfAbsent then
        match writeDefault build io path fs with
        | (fs, .error e) => (fs, .error (.io e))
        | (fs, .ok ()) => (fs, tryLoadFilterConfigFromStr build build.defaultFilter)
      else (fs, .error (.io "Filter config did not exist."))

/-- One place: its config if there is a usable one, otherwise what follows. -/
def attemptFilters (io : FilterIo) (path : Option FilterPath) (writeIfAbsent : Bool)
    (next : Fs → Fs × Except LoadError FilterConfig) (fs : Fs) :
    Fs × Except LoadError FilterConfig :=
  match path with
  | none => next fs
  | some path =>
    match tryLoadFilterConfigFromPath build io (some path) writeIfAbsent fs with
    | (fs, .ok filters) => (fs, .ok filters)
    | (fs, .error (.panic e)) => (fs, .error (.panic e))
    | (fs, .error (.io _)) => next fs

/-- What the OS answers in one call of `resolve_filter_config`. -/
structure FilterEnv where
  currentExe : Except String Path
  provided : FilterIo
  sibling : FilterIo

def FilterEnv.siblingPath (env : FilterEnv) : Option FilterPath :=
  env.currentExe.toOption.map fun exe => .file ⟨exe.parent, defaultFilterFileName⟩

/-- The answers do not depend on the attempt. -/
def FilterEnv.ofIo (currentExe : Except String Path) (io : FilterIo) : FilterEnv :=
  ⟨currentExe, io, io⟩

def resolveFilterConfig (providedPath : Option FilterPath) (env : FilterEnv) :
    Fs → Fs × Except LoadError FilterConfig :=
  attemptFilters build env.provided providedPath true <|
  attemptFilters build env.sibling env.siblingPath false <|
  tryLoadFilterConfigFromPath build env.sibling none false

/-- A file that holds `bytes` and cannot be read loses them to the default config. -/
def Clobbers (io : FilterIo) (path : Path) (fs : Fs) (bytes : List UInt8) : Prop :=
  io.readToString path fs = none ∧ io.createDirAll path fs = .ok () ∧
    ((io.write path fs = .done ∧ asBytes build.defaultFilter ≠ bytes) ∨
      ∃ e n, io.write path fs = .failed e (some n) ∧ (asBytes build.defaultFilter).take n ≠ bytes)

/-- The files change at most by a file that appears at the provided path. -/
def Keeps (providedPath : Option FilterPath) (fs fs' : Fs) : Prop :=
  ∀ path, fs' path ≠ fs path → providedPath = some (.file path) ∧ fs path = none

/-- There is a config that parses at a path. -/
def Parses (io : FilterIo) (filterPath : Option FilterPath) (fs : Fs) (config : FilterConfig) :
    Prop :=
  ∃ path text, filterPath = some (.file path) ∧ io.readToString path fs = some text ∧
    build.parse text = some config

/-- The default config takes the place of what cannot be read at the provided path. -/
def Replaced (io : FilterIo) (filterPath : Option FilterPath) (fs : Fs) : Prop :=
  ∃ path, filterPath = some (.file path) ∧ io.readToString path fs = none ∧
    (writeDefault build io path fs).2 = .ok ()

/-- The config of the first place that has a usable one. -/
inductive Chosen (default : FilterConfig) (io : FilterIo) (provided sibling : Option FilterPath)
    (fs : Fs) : FilterConfig → Prop
  | provided {config : FilterConfig} (h : Parses build io provided fs config) :
      Chosen default io provided sibling fs config
  | replaced (h : Replaced build io provided fs) : Chosen default io provided sibling fs default
  | sibling {config : FilterConfig} (hprovided : ∀ config, ¬ Parses build io provided fs config)
      (hreplaced : ¬ Replaced build io provided fs) (h : Parses build io sibling fs config) :
      Chosen default io provided sibling fs config
  | embedded (hprovided : ∀ config, ¬ Parses build io provided fs config)
      (hreplaced : ¬ Replaced build io provided fs)
      (hsibling : ∀ config, ¬ Parses build io sibling fs config) :
      Chosen default io provided sibling fs default

/-- A failed write leaves the files as they are, and what a successful one has written can be read
unless nothing at the path ever can. -/
structure Steady (io : FilterIo) : Prop where
  failed : ∀ path fs fs' e, writeDefault build io path fs = (fs', .error e) → fs' = fs
  written : ∀ path fs fs', writeDefault build io path fs = (fs', .ok ()) →
    io.readToString path fs' ≠ none ∨ ∀ fs, io.readToString path fs = none

/-- A first call has put the default config at a path of which nothing can ever be read, and a
second one, on the files that it has left, cannot put it there again. -/
def Barred (io : FilterIo) (filterPath : Option FilterPath) (fs fs' : Fs) : Prop :=
  Replaced build io filterPath fs ∧ ∃ path, filterPath = some (.file path) ∧
    (∀ fs, io.readToString path fs = none) ∧ (writeDefault build io path fs').2 ≠ .ok ()

/-- The config of a second call, on the files `fs'` that a first one with `config` has left. -/
inductive ChosenAgain (default : FilterConfig) (io : FilterIo)
    (provided sibling : Option FilterPath) (fs fs' : Fs) (config : FilterConfig) :
    FilterConfig → Prop
  | same (h : ¬ Barred build io provided fs fs') :
      ChosenAgain default io provided sibling fs fs' config config
  | sibling {config' : FilterConfig} (h : Barred build io provided fs fs')
      (hsibling : Parses build io sibling fs' config') :
      ChosenAgain default io provided sibling fs fs' config config'
  | embedded (h : Barred build io provided fs fs')
      (hsibling : ∀ config, ¬ Parses build io sibling fs' config) :
      ChosenAgain default io provided sibling fs fs' config default

variable {build} {io : FilterIo} {path : Path} {filterPath : Option FilterPath} {fs fs' : Fs}
  {env : FilterEnv} {bytes : List UInt8} {next : Fs → Fs × Except LoadError FilterConfig}

theorem tryLoadFilterConfigFromPath_fst :
    (tryLoadFilterConfigFromPath build io filterPath false fs).1 = fs := by
  rcases filterPath with _ | path | _
  · rfl
  · simp only [tryLoadFilterConfigFromPath]
    split <;> rfl
  · rfl

theorem attemptFilters_fst {write : Bool} (hnext : ∀ fs, (next fs).1 = fs) :
    (attemptFilters build io filterPath write next fs).1 =
      (tryLoadFilterConfigFromPath build io filterPath write fs).1 := by
  rcases filterPath with _ | path
  · exact hnext fs
  · simp only [attemptFilters]
    rcases tryLoadFilterConfigFromPath build io (some path) write fs with ⟨fs', (e | e) | filters⟩
    · exact hnext fs'
    · rfl
    · rfl

/-- Only the attempt at the provided path changes a file. -/
theorem resolveFilterConfig_fst :
    (resolveFilterConfig build filterPath env fs).1 =
      (tryLoadFilterConfigFromPath build env.provided filterPath true fs).1 := by
  apply attemptFilters_fst
  intro fs
  rw [attemptFilters_fst]
  · exact tryLoadFilterConfigFromPath_fst
  · intro fs
    exact tryLoadFilterConfigFromPath_fst

theorem tryLoadFilterConfigFromPath_file_fst :
    (tryLoadFilterConfigFromPath build io (some (.file path)) true fs).1 =
      if io.readToString path fs = none then (writeDefault build io path fs).1 else fs := by
  simp only [tryLoadFilterConfigFromPath]
  cases io.readToString path fs with
  | some filters => rfl
  | none =>
    simp only [if_true]
    rcases writeDefault build io path fs with ⟨fs', e | _⟩ <;> rfl

theorem writeDefault_fst_of_ne {path' : Path} (h : path' ≠ path) :
    (writeDefault build io path fs).1 path' = fs path' := by
  simp only [writeDefault]
  split
  · rfl
  · split <;> simp [h]

/-- An existing file survives the writing exactly if it is not clobbered. -/
theorem writeDefault_fst_iff (hread : io.readToString path fs = none)
    (hfs : fs path = some bytes) :
    (writeDefault build io path fs).1 path = some bytes ↔ ¬ Clobbers build io path fs bytes := by
  simp only [writeDefault, Clobbers, hread, true_and]
  cases hdir : io.createDirAll path fs with
  | error e => simp [hfs]
  | ok =>
    cases hwrite : io.write path fs with
    | done => simp
    | failed e n => cases n <;> simp [hfs]

/-- A call changes no existing file exactly if it clobbers none at the provided path. -/
theorem resolveFilterConfig_keeps_iff :
    Keeps filterPath fs (resolveFilterConfig build filterPath env fs).1 ↔
      ∀ path bytes, filterPath = some (.file path) → fs path = some bytes →
        ¬ Clobbers build env.provided path fs bytes := by
  rw [resolveFilterConfig_fst]
  constructor
  · rintro hkeeps path bytes rfl hfs hclobbers
    apply (writeDefault_fst_iff hclobbers.1 hfs).mp ?_ hclobbers
    have hchange := hkeeps path
    rw [tryLoadFilterConfigFromPath_file_fst, if_pos hclobbers.1, hfs] at hchange
    by_contra hne
    cases (hchange hne).2
  · intro hsafe path hchange
    rcases filterPath with _ | path' | _
    · exact absurd rfl hchange
    · rw [tryLoadFilterConfigFromPath_file_fst] at hchange
      split at hchange
      · rename_i hread
        obtain rfl : path = path' := by
          by_contra hne
          exact hchange (writeDefault_fst_of_ne hne)
        refine ⟨rfl, ?_⟩
        by_contra hexists
        obtain ⟨bytes, hfs⟩ := Option.ne_none_iff_exists'.mp hexists
        have hsame := (writeDefault_fst_iff hread hfs).mpr (hsafe path bytes rfl hfs)
        exact hchange (hsame.trans hfs.symm)
      · exact absurd rfl hchange
    · exact absurd rfl hchange

def emptyFilter : String := "allowlist = []\ndenylist = []\n"

def siblingFilter : String := "allowlist = []\ndenylist = [\"spclient.wg.spotify.com\"]\n"

/-- A build whose parser knows the two configs above. -/
def smallBuild : EmbeddedFilters where
  defaultFilter := emptyFilter.toList
  parse text :=
    if text = emptyFilter.toList then some ⟨[], []⟩
    else if text = siblingFilter.toList then some ⟨[], ["spclient.wg.spotify.com"]⟩
    else none

def userPath : Path := ⟨"C:\\filters", "mine.toml"⟩

/-- Everything is permitted. -/
def permitting : FilterIo := ⟨fun _ _ => .ok (), fun _ _ => .ok (), fun _ _ => .done⟩

/-- A file of the user that is not UTF-8. -/
def latin1Fs : Fs := fun path => if path = userPath then some [0xE9] else none

/-- The file is lost: it is replaced with the default config. -/
theorem not_keeps_latin1 : ¬ Keeps (some (.file userPath)) latin1Fs
    (resolveFilterConfig smallBuild (some (.file userPath))
      (.ofIo (.error "unknown") permitting) latin1Fs).1 := by
  intro hkeeps
  have hchanged : (resolveFilterConfig smallBuild (some (.file userPath))
      (.ofIo (.error "unknown") permitting) latin1Fs).1 userPath ≠ latin1Fs userPath := by
    decide
  cases (hkeeps userPath hchanged).2

theorem writeDefault_eq_ok (h : writeDefault build io path fs = (fs', .ok ())) :
    fs' = Function.update fs path (some (asBytes build.defaultFilter)) := by
  simp only [writeDefault] at h
  split at h
  · cases h
  · split at h
    · exact (Prod.mk.inj h).1.symm
    · cases h
    · cases h

theorem Parses.unique {config config' : FilterConfig} (h : Parses build io filterPath fs config)
    (h' : Parses build io filterPath fs config') : config = config' := by
  obtain ⟨path, text, rfl, hread, hparse⟩ := h
  obtain ⟨_, _, ⟨⟩, hread', hparse'⟩ := h'
  cases hread.symm.trans hread'
  exact Option.some.inj (hparse.symm.trans hparse')

variable {default : FilterConfig} {currentExe : Except String Path}

theorem Replaced.not_parses {config : FilterConfig} (h : Replaced build io filterPath fs) :
    ¬ Parses build io filterPath fs config := by
  obtain ⟨path, rfl, hread, -⟩ := h
  rintro ⟨_, text, ⟨⟩, hread', -⟩
  cases hread.symm.trans hread'

/-- The files and the answers of the OS decide which config is chosen. -/
theorem Chosen.unique {sibling : Option FilterPath} {config config' : FilterConfig}
    (h : Chosen build default io filterPath sibling fs config)
    (h' : Chosen build default io filterPath sibling fs config') : config = config' := by
  cases h with
  | provided hparses =>
    cases h' with
    | provided hparses' => exact hparses.unique hparses'
    | replaced hreplaced => exact absurd hparses hreplaced.not_parses
    | sibling hnone _ _ => exact absurd hparses (hnone _)
    | embedded hnone _ _ => exact absurd hparses (hnone _)
  | replaced hreplaced =>
    cases h' with
    | provided hparses' => exact absurd hparses' hreplaced.not_parses
    | replaced _ => rfl
    | sibling _ hkept _ => exact absurd hreplaced hkept
    | embedded _ hkept _ => exact absurd hreplaced hkept
  | sibling hnone hkept hparses =>
    cases h' with
    | provided hparses' => exact absurd hparses' (hnone _)
    | replaced hreplaced => exact absurd hreplaced hkept
    | sibling _ _ hparses' => exact hparses.unique hparses'
    | embedded _ _ hnone' => exact absurd hparses (hnone' _)
  | embedded hnone hkept hnone' =>
    cases h' with
    | provided hparses' => exact absurd hparses' (hnone _)
    | replaced hreplaced => exact absurd hreplaced hkept
    | sibling _ _ hparses' => exact absurd hparses' (hnone' _)
    | embedded _ _ _ => rfl

theorem tryLoadFilterConfigFromStr_ok {text : List Char} {config : FilterConfig}
    (h : build.parse text = some config) : tryLoadFilterConfigFromStr build text = .ok config := by
  simp only [tryLoadFilterConfigFromStr, h]

/-- An attempt at a path of which something can be read. -/
theorem attemptFilters_read {text : List Char} {write : Bool}
    (hread : io.readToString path fs = some text) :
    attemptFilters build io (some (.file path)) write next fs =
      match build.parse text with
      | some config => (fs, .ok config)
      | none => next fs := by
  simp only [attemptFilters, tryLoadFilterConfigFromPath, hread, tryLoadFilterConfigFromStr]
  cases build.parse text <;> rfl

/-- What follows the attempt at the provided path. -/
theorem attempt_sibling (io : FilterIo) (currentExe : Except String Path)
    (hdefault : build.parse build.defaultFilter = some default) (fs : Fs) :
    ∃ config, attemptFilters build io (FilterEnv.ofIo currentExe io).siblingPath false
        (tryLoadFilterConfigFromPath build io none false) fs = (fs, .ok config) ∧
      (Parses build io (FilterEnv.ofIo currentExe io).siblingPath fs config ∨
        (∀ config, ¬ Parses build io (FilterEnv.ofIo currentExe io).siblingPath fs config) ∧
          config = default) := by
  have hembedded : tryLoadFilterConfigFromPath build io none false fs = (fs, .ok default) := by
    simp only [tryLoadFilterConfigFromPath, tryLoadFilterConfigFromStr_ok hdefault]
  simp only [FilterEnv.siblingPath, FilterEnv.ofIo]
  cases currentExe.toOption with
  | none =>
    refine ⟨default, hembedded, .inr ⟨?_, rfl⟩⟩
    rintro config ⟨path, text, ⟨⟩, -⟩
  | some exe =>
    rw [Option.map_some]
    cases hread : io.readToString ⟨exe.parent, defaultFilterFileName⟩ fs with
    | none =>
      refine ⟨default, ?_, .inr ⟨?_, rfl⟩⟩
      · simp only [attemptFilters, tryLoadFilterConfigFromPath, hread]
        exact hembedded
      · rintro config ⟨_, _, ⟨⟩, hread', -⟩
        cases hread.symm.trans hread'
    | some text =>
      rw [attemptFilters_read hread]
      cases hparse : build.parse text with
      | some config => exact ⟨config, rfl, .inl ⟨_, _, rfl, hread, hparse⟩⟩
      | none =>
        refine ⟨default, hembedded, .inr ⟨?_, rfl⟩⟩
        rintro config ⟨_, _, ⟨⟩, hread', hparse'⟩
        cases hread.symm.trans hread'
        cases hparse.symm.trans hparse'

/-- The three ways in which a call gets past the attempt at the provided path. -/
theorem resolveFilterConfig_cases (currentExe : Except String Path) (fs : Fs)
    (hdefault : build.parse build.defaultFilter = some default) (hio : Steady build io)
    (hpath : filterPath ≠ some .noParent) :
    (∃ config, Parses build io filterPath fs config ∧
      resolveFilterConfig build filterPath (.ofIo currentExe io) fs = (fs, .ok config)) ∨
    (∃ path, filterPath = some (.file path) ∧ io.readToString path fs = none ∧
      ∃ fs', writeDefault build io path fs = (fs', .ok ()) ∧
        resolveFilterConfig build filterPath (.ofIo currentExe io) fs = (fs', .ok default)) ∨
    ((∀ config, ¬ Parses build io filterPath fs config) ∧ ¬ Replaced build io filterPath fs ∧
      resolveFilterConfig build filterPath (.ofIo currentExe io) fs =
        attemptFilters build io (FilterEnv.ofIo currentExe io).siblingPath false
          (tryLoadFilterConfigFromPath build io none false) fs) := by
  rcases filterPath with _ | path | _
  · refine .inr (.inr ⟨?_, ?_, rfl⟩)
    · rintro config ⟨_, _, ⟨⟩, -⟩
    · rintro ⟨_, ⟨⟩, -⟩
  · cases hread : io.readToString path fs with
    | some text =>
      have hattempt := @attemptFilters_read build _ _ _ (attemptFilters
        build io (FilterEnv.ofIo currentExe io).siblingPath false
          (tryLoadFilterConfigFromPath build io none false)) _ true hread
      cases hparse : build.parse text with
      | some config =>
        rw [hparse] at hattempt
        exact .inl ⟨config, ⟨path, text, rfl, hread, hparse⟩, hattempt⟩
      | none =>
        rw [hparse] at hattempt
        refine .inr (.inr ⟨?_, ?_, hattempt⟩)
        · rintro config ⟨_, _, ⟨⟩, hread', hparse'⟩
          cases hread.symm.trans hread'
          cases hparse.symm.trans hparse'
        · rintro ⟨_, ⟨⟩, hread', -⟩
          cases hread.symm.trans hread'
    | none =>
      rcases hwrite : writeDefault build io path fs with ⟨fs', e | _⟩
      · obtain rfl := hio.failed path fs fs' e hwrite
        refine .inr (.inr ⟨?_, ?_, ?_⟩)
        · rintro config ⟨_, _, ⟨⟩, hread', -⟩
          cases hread.symm.trans hread'
        · rintro ⟨_, ⟨⟩, -, hok⟩
          rw [hwrite] at hok
          cases hok
        · simp only [resolveFilterConfig, attemptFilters, tryLoadFilterConfigFromPath,
            FilterEnv.ofIo, hread, hwrite, if_true]
      · refine .inr (.inl ⟨path, rfl, hread, fs', hwrite, ?_⟩)
        simp only [resolveFilterConfig, attemptFilters, tryLoadFilterConfigFromPath,
          FilterEnv.ofIo, hread, hwrite, if_true, tryLoadFilterConfigFromStr_ok hdefault]
  · exact absurd rfl hpath

theorem resolveFilterConfig_noParent :
    (resolveFilterConfig build (some .noParent) env fs).2 =
      .error (.panic "called Option::unwrap() on a None value") := rfl

/-- What is read where the default config has been written is the default config. -/
theorem readToString_written {text : List Char}
    (hwrite : writeDefault build io path fs = (fs', .ok ()))
    (hread : io.readToString path fs' = some text) : text = build.defaultFilter := by
  simp only [FilterIo.readToString, writeDefault_eq_ok hwrite, Function.update_self] at hread
  split at hread
  · cases hread
  · rw [Option.bind_some, fromUtf8_asBytes] at hread
    exact (Option.some.inj hread).symm

/-- A path that takes the default config once and not again, without having it read, is never
readable. -/
theorem barred_of_not_replaced (hio : Steady build io) (hread : io.readToString path fs = none)
    (hwrite : writeDefault build io path fs = (fs', .ok ()))
    (hunread : io.readToString path fs' = none)
    (hkept : ¬ Replaced build io (some (.file path)) fs') :
    Barred build io (some (.file path)) fs fs' := by
  refine ⟨⟨path, rfl, hread, ?_⟩, path, rfl, ?_, ?_⟩
  · rw [hwrite]
  · exact (hio.written path fs fs' hwrite).resolve_left (absurd hunread)
  · intro hwrite'
    exact hkept ⟨path, rfl, hunread, hwrite'⟩

/-- On the files that a call has put the default config on, a second one puts it there again or
reads it, unless it is barred from both. -/
theorem resolveFilterConfig_replaced (currentExe : Except String Path)
    (hdefault : build.parse build.defaultFilter = some default) (hio : Steady build io)
    (hread : io.readToString path fs = none)
    (hwrite : writeDefault build io path fs = (fs', .ok ())) :
    ∃ config, resolveFilterConfig build (some (.file path)) (.ofIo currentExe io) fs' =
        (fs', .ok config) ∧
      ChosenAgain build default io (some (.file path)) (FilterEnv.ofIo currentExe io).siblingPath
        fs fs' default config := by
  have hpath : some (FilterPath.file path) ≠ some .noParent := by simp
  rcases resolveFilterConfig_cases currentExe fs' hdefault hio hpath with
    ⟨config, ⟨_, text, ⟨⟩, hread', hparse⟩, hresolve⟩ |
    ⟨_, ⟨⟩, -, fs'', hwrite', hresolve⟩ | ⟨hnone, hkept, hresolve⟩
  · rw [readToString_written hwrite hread', hdefault] at hparse
    obtain rfl := Option.some.inj hparse
    refine ⟨default, hresolve, .same ?_⟩
    rintro ⟨-, _, ⟨⟩, hnever, -⟩
    cases hread'.symm.trans (hnever fs')
  · have hsame : fs'' = fs' := by
      rw [writeDefault_eq_ok hwrite', writeDefault_eq_ok hwrite, Function.update_idem]
    refine ⟨default, hsame ▸ hresolve, .same ?_⟩
    rintro ⟨-, _, ⟨⟩, -, hfails⟩
    exact hfails (congrArg Prod.snd hwrite')
  · have hunread : io.readToString path fs' = none := by
      cases hread' : io.readToString path fs' with
      | none => rfl
      | some text =>
        have hparse : build.parse text = some default := by
          rw [readToString_written hwrite hread', hdefault]
        exact absurd ⟨path, text, rfl, hread', hparse⟩ (hnone default)
    have hbarred := barred_of_not_replaced hio hread hwrite hunread hkept
    obtain ⟨config, hattempt, hsibling⟩ := attempt_sibling io currentExe hdefault fs'
    refine ⟨config, hresolve.trans hattempt, ?_⟩
    rcases hsibling with hsibling | ⟨hsibling, rfl⟩
    · exact .sibling hbarred hsibling
    · exact .embedded hbarred hsibling

/-- A call that returns has the config of the first place with a usable one. A second call leaves
the files as they are and returns the same config, unless it is barred from the provided path: then
it has the config next to the executable if that parses, and the default again otherwise. -/
theorem resolveFilterConfig_chosen (hdefault : build.parse build.defaultFilter = some default)
    (hio : Steady build io)
    (hreturns : ∀ e, (resolveFilterConfig build filterPath (.ofIo currentExe io) fs).2 ≠
      .error (.panic e)) :
    ∃ fs' config, resolveFilterConfig build filterPath (.ofIo currentExe io) fs =
        (fs', .ok config) ∧
      Chosen build default io filterPath (FilterEnv.ofIo currentExe io).siblingPath fs config ∧
      ∃ config', resolveFilterConfig build filterPath (.ofIo currentExe io) fs' =
          (fs', .ok config') ∧
        ChosenAgain build default io filterPath (FilterEnv.ofIo currentExe io).siblingPath fs fs'
          config config' := by
  have hpath : filterPath ≠ some .noParent := by
    rintro rfl
    exact hreturns _ resolveFilterConfig_noParent
  rcases resolveFilterConfig_cases currentExe fs hdefault hio hpath with
    ⟨config, hparses, hresolve⟩ | ⟨path, rfl, hread, fs', hwrite, hresolve⟩ |
    ⟨hnone, hkept, hresolve⟩
  · have hkept : ¬ Replaced build io filterPath fs := fun h => h.not_parses hparses
    exact ⟨fs, config, hresolve, .provided hparses, config, hresolve, .same fun h => hkept h.1⟩
  · have hreplaced : Replaced build io (some (.file path)) fs :=
      ⟨path, rfl, hread, by rw [hwrite]⟩
    obtain ⟨config', hsecond, hconfig'⟩ :=
      resolveFilterConfig_replaced currentExe hdefault hio hread hwrite
    exact ⟨fs', default, hresolve, .replaced hreplaced, config', hsecond, hconfig'⟩
  · obtain ⟨config, hattempt, hsibling⟩ := attempt_sibling io currentExe hdefault fs
    have hfirst := hresolve.trans hattempt
    refine ⟨fs, config, hfirst, ?_, config, hfirst, .same fun h => hkept h.1⟩
    rcases hsibling with hsibling | ⟨hsibling, rfl⟩
    · exact .sibling hnone hkept hsibling
    · exact .embedded hnone hkept hsibling

theorem parse_emptyFilter : smallBuild.parse smallBuild.defaultFilter = some ⟨[], []⟩ := by
  simp only [smallBuild, if_true]

theorem steady_permitting : Steady smallBuild permitting := by
  constructor
  · intro path fs fs' e hwrite
    cases hwrite
  · intro path fs fs' hwrite
    left
    rw [writeDefault_eq_ok hwrite]
    simp [FilterIo.readToString, permitting, fromUtf8_asBytes]

theorem resolveFilterConfig_chosen_latin1 :
    ∃ fs' config, resolveFilterConfig smallBuild (some (.file userPath))
        (.ofIo (.error "unknown") permitting) latin1Fs = (fs', .ok config) ∧
      Chosen smallBuild ⟨[], []⟩ permitting (some (.file userPath))
        (FilterEnv.ofIo (.error "unknown") permitting).siblingPath latin1Fs config ∧
      ∃ config', resolveFilterConfig smallBuild (some (.file userPath))
          (.ofIo (.error "unknown") permitting) fs' = (fs', .ok config') ∧
        ChosenAgain smallBuild ⟨[], []⟩ permitting (some (.file userPath))
          (FilterEnv.ofIo (.error "unknown") permitting).siblingPath latin1Fs fs' config config' :=
  resolveFilterConfig_chosen parse_emptyFilter steady_permitting (by
    intro e herror
    have hok : (resolveFilterConfig smallBuild (some (.file userPath))
        (.ofIo (.error "unknown") permitting) latin1Fs).2.isOk = true := by decide
    rw [herror] at hok
    cases hok)

/-- Files can be created at the path, but neither read nor written again. -/
def dropBox : FilterIo where
  read path _ := if path = userPath then .error "Access is denied." else .ok ()
  createDirAll _ _ := .ok ()
  write path fs :=
    if path = userPath ∧ fs path ≠ none then .failed "Access is denied." none else .done

def exePath : Path := ⟨"C:\\BurntSushi", "BurntSushi.exe"⟩

def siblingFs : Fs := fun path =>
  if path = ⟨"C:\\BurntSushi", "filter.toml"⟩ then some (asBytes siblingFilter.toList) else none

theorem steady_dropBox : Steady smallBuild dropBox := by
  constructor
  · intro path fs fs' e hwrite
    simp only [writeDefault, dropBox] at hwrite
    by_cases hpath : path = userPath ∧ fs path ≠ none
    · rw [if_pos hpath] at hwrite
      exact (Prod.mk.inj hwrite).1.symm
    · rw [if_neg hpath] at hwrite
      cases (Prod.mk.inj hwrite).2
  · intro path fs fs' hwrite
    rcases eq_or_ne path userPath with rfl | hpath
    · right
      intro fs
      rfl
    · left
      rw [writeDefault_eq_ok hwrite]
      simp [FilterIo.readToString, dropBox, hpath, fromUtf8_asBytes]

/-- The second call has the config next to the executable, the first one had the default. -/
theorem second_differs_dropBox : ¬ ∀ build default io currentExe filterPath fs fs' config,
    build.parse build.defaultFilter = some default → Steady build io →
    resolveFilterConfig build filterPath (.ofIo currentExe io) fs = (fs', .ok config) →
    resolveFilterConfig build filterPath (.ofIo currentExe io) fs' = (fs', .ok config) := by
  intro hall
  have hsecond := hall smallBuild ⟨[], []⟩ dropBox (.ok exePath) (some (.file userPath)) siblingFs
    _ ⟨[], []⟩ parse_emptyFilter steady_dropBox rfl
  have hdiffers : (resolveFilterConfig smallBuild (some (.file userPath))
      (.ofIo (.ok exePath) dropBox) (Function.update siblingFs userPath
        (some (asBytes emptyFilter.toList)))).2 = .ok ⟨[], ["spclient.wg.spotify.com"]⟩ := by
    decide
  cases hdiffers.symm.trans (congrArg Prod.snd hsecond)

end BurntSushi.Resolver
