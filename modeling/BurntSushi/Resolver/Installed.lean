import BurntSushi.Resolver.Install

/-! What `--install` is for: the calls after it find the blocker next to the executable. -/
namespace BurntSushi.Resolver

open Lts
open AdBlocker (defaultBlockerFileName)

namespace BlockerFiles

variable (build : Embedded)

/-- `install` of `--install`. -/
def install (currentExe : Except String Path) (env : TryEnv) (s : BlockerFiles) :
    BlockerFiles × Except String Unit :=
  match currentExe with
  | .error _ => (s, .error "Failed to locate current executable")
  | .ok exe =>
    match s.tryLoad build ⟨exe.parent, defaultBlockerFileName⟩ true true env with
    | (s, .ok ()) => (s, .ok ())
    | (s, .error _) => (s, .error "Failed to write blocker to disk")

def CurrentAt (s : BlockerFiles) (path : Path) : Prop :=
  ∃ content, s.fs path = some content ∧ Current build content

/-- Both what is there and its version can be read. -/
def TryEnv.Readable (env : TryEnv) : Prop := env.metadata = true ∧ env.getFileVersion = true

/-- A write, if it comes to one, is not cut off. -/
def Whole (env : TryEnv) : Prop := writtenOrigin build env ≠ some .truncated

/-- No write of the call to a path is cut off. -/
def Spares (path : Path) (_ : BlockerFiles) : Label → Prop
  | .resolve providedPath env => (providedPath = some path → Whole build env.provided) ∧
      (env.tempPath = some path → Whole build env.temp)
  | .install path' env => path' = path → Whole build env

/-- The blocker at a path is current; calls that can read it leave everything as it is, and use it
if it is next to the executable. -/
structure Installed (path : Path) (s : BlockerFiles) : Prop where
  current : CurrentAt build s path
  reinstalls : ∀ env : TryEnv, TryEnv.Readable env →
    s.tryLoad build path true true env = (s, .ok ())
  resolves : ∀ env : ResolveEnv, env.siblingPath = some path → TryEnv.Readable env.sibling →
    s.resolve build none env = (s, .ok path)

variable {build} {s t : BlockerFiles} {path path' : Path} {check write : Bool} {env : TryEnv}
  {found : Option Path} {next : BlockerFiles → BlockerFiles × Except String Path}
  {tr : List (BlockerFiles × Label)}

theorem accepts_of_current (hc : CurrentAt build s path) (hr : TryEnv.Readable env) :
    accepts build path true env s.fs = true := by
  obtain ⟨content, hcontent, major, minor, patch, build', hversion, happ⟩ := hc
  simp [accepts, hr.1, hcontent, blockerMatchesCurrentVersion, hr.2, hversion, happ]

theorem installed_of_current (hc : CurrentAt build s path) : Installed build path s := by
  have hload : ∀ (env : TryEnv) (write : Bool), TryEnv.Readable env →
      s.tryLoad build path true write env = (s, .ok ()) :=
    fun env write hr => (tryLoad_of_accepts write (accepts_of_current hc hr)).1
  refine ⟨hc, fun env hr => hload env true hr, ?_⟩
  intro env hpath hr
  simp only [resolve, attempt, hpath, hload env.sibling false hr]

theorem currentAt_update (hV : Versioned build) (hc : CurrentAt build s path)
    (origin : Path → Origin) : CurrentAt build
      ⟨Function.update s.fs path' (some build.payloadBytes), origin⟩ path := by
  by_cases hp : path = path'
  · exact ⟨build.payloadBytes, by simp [hp], hV.payload⟩
  · simpa [CurrentAt, hp] using hc

/-- A write that is not cut off leaves the payload, if anything. -/
theorem currentAt_writeBlocker (hV : Versioned build) (hc : CurrentAt build s path)
    (hw : path' = path → Whole build env) (origin : Path → Origin) :
    CurrentAt build ⟨(Resolver.writeBlocker build path' env s.fs).1, origin⟩ path := by
  simp only [Resolver.writeBlocker]
  cases hd : env.createDirAll with
  | error e => exact hc
  | ok =>
    cases hwrite : env.write with
    | done => exact currentAt_update hV hc origin
    | failed e n =>
      cases n with
      | none => exact hc
      | some n =>
        by_cases hp : path' = path
        · have hn : ¬ n < build.payloadBytes.length := by
            intro hn
            exact hw hp (by simp [writtenOrigin, hd, hwrite, hn])
          simp only [List.take_of_length_le (Nat.le_of_not_lt hn)]
          exact currentAt_update hV hc origin
        · simpa [CurrentAt, Ne.symm hp] using hc

/-- An attempt changes no other file, and its own only by a write. -/
theorem currentAt_tryLoad (hV : Versioned build) (hc : CurrentAt build s path)
    (hw : write = true → path' = path → Whole build env) :
    CurrentAt build (s.tryLoad build path' check write env).1 path := by
  cases ha : accepts build path' check env s.fs with
  | true =>
    rw [(tryLoad_of_accepts write ha).1]
    exact hc
  | false =>
    rw [tryLoad_of_not_accepts ha]
    cases write with
    | false => exact hc
    | true => exact currentAt_writeBlocker hV hc (hw rfl) _

theorem currentAt_attempt (hV : Versioned build) (hc : CurrentAt build s path)
    (hw : write = true → found = some path → Whole build env)
    (hnext : ∀ t, CurrentAt build t path → CurrentAt build (next t).1 path) :
    CurrentAt build (attempt build found check write env next s).1 path := by
  cases found with
  | none => exact hnext s hc
  | some path' =>
    have hload : CurrentAt build (s.tryLoad build path' check write env).1 path :=
      currentAt_tryLoad hV hc fun hwrite hp => hw hwrite (congrArg some hp)
    simp only [attempt]
    rcases hl : s.tryLoad build path' check write env with ⟨t, e | ⟨⟨⟩⟩⟩
    · rw [hl] at hload
      exact hnext t hload
    · rw [hl] at hload
      exact hload

theorem currentAt_step (hV : Versioned build) (hc : CurrentAt build s path) {l : Label}
    (hl : Spares build path s l) (h : step build s l = some t) : CurrentAt build t path := by
  cases l with
  | resolve providedPath env =>
    obtain rfl := Option.some.inj h
    apply currentAt_attempt hV hc fun _ hp => hl.1 hp
    intro t hc
    apply currentAt_attempt hV hc (by simp)
    intro t hc
    apply currentAt_attempt hV hc fun _ hp => hl.2 hp
    exact fun t hc => hc
  | install path' env =>
    obtain rfl := Option.some.inj h
    exact currentAt_tryLoad hV hc fun _ hp => hl hp

/-- What a successful `install` leaves next to the executable. -/
theorem install_eq_ok {exe : Path} (hV : Versioned build)
    (h : s.install build (.ok exe) env = (t, .ok ())) :
    CurrentAt build t ⟨exe.parent, defaultBlockerFileName⟩ := by
  simp only [install] at h
  split at h
  · rename_i s' hload
    obtain ⟨rfl, -⟩ := Prod.mk.inj h
    cases ha : accepts build ⟨exe.parent, defaultBlockerFileName⟩ true env s.fs with
    | true =>
      obtain ⟨hl, content, hcontent, -, hcurrent⟩ := tryLoad_of_accepts true ha
      obtain ⟨rfl, -⟩ := Prod.mk.inj (hl.symm.trans hload)
      exact ⟨content, hcontent, hcurrent rfl⟩
    | false =>
      rw [tryLoad_of_not_accepts ha, if_pos rfl] at hload
      obtain ⟨rfl, hok⟩ := Prod.mk.inj hload
      exact ⟨build.payloadBytes, writeBlocker_eq_ok hok, hV.payload⟩
  · cases h

/-- After a successful `--install`, in every run of calls whose writes to that path are not cut
off, the blocker next to the executable stays current, and calls that can read it use it and write
nothing. -/
theorem installed_trace {exe : Path} (hV : Versioned build)
    (hok : s.install build (.ok exe) env = (t, .ok ())) {u : BlockerFiles}
    (h : Trace (step build) t tr u)
    (hs : Along (Spares build ⟨exe.parent, defaultBlockerFileName⟩) tr) :
    Installed build ⟨exe.parent, defaultBlockerFileName⟩ u := by
  apply installed_of_current
  refine h.invariant_along (P := fun s => CurrentAt build s _) hs (install_eq_ok hV hok) ?_
  intro s l t hc hl hstep
  exact currentAt_step hV hc hl hstep

def programExe : Path := ⟨"C:\\BurntSushi", "BurntSushi.exe"⟩

def installed : BlockerFiles :=
  ((initial fun _ => none).install smallBuild (.ok programExe) ⟨true, true, .ok (), .done⟩).1

/-- Nothing was there before the installation, and a later write to another place is cut off. -/
theorem installed_programExe :
    Installed smallBuild ⟨programExe.parent, defaultBlockerFileName⟩
      (after (step smallBuild) installed fullOnce) := by
  have hok : (initial fun _ => none).install smallBuild (.ok programExe)
      ⟨true, true, .ok (), .done⟩ = (installed, .ok ()) := rfl
  apply installed_trace versioned_smallBuild hok (trace_after rfl)
  apply along_trail
  intro l hl s
  obtain rfl := List.mem_singleton.mp hl
  refine ⟨?_, ?_⟩
  · intro hp
    exact absurd hp (by decide)
  · rintro ⟨⟩

end BlockerFiles

end BurntSushi.Resolver
