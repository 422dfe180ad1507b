import BurntSushi.Args

/-! `restart`: the command line of the new process, and what it is parsed to. -/
namespace BurntSushi.Update

open Args (ParseError ArgMatches Flag Opt)

/-- A text around the last occurrence of `sep`. -/
def splitAtLast (sep : UInt16) : OsString → Option (OsString × OsString)
  | [] => none
  | u :: us =>
    match splitAtLast sep us with
    | some (before, after) => some (u :: before, after)
    | none => if u = sep then some ([], us) else none

/-- `\`. -/
def separator : UInt16 := 0x5C

/-- `.`. -/
def dot : UInt16 := 0x2E

/-- A file name before its extension; a name that only begins with a dot has none. -/
def fileStem (name : OsString) : OsString :=
  match splitAtLast dot name with
  | some (u :: before, _) => u :: before
  | _ => name

def withExtension (path extension : OsString) : OsString :=
  match splitAtLast separator path with
  | some (dir, name) => dir ++ separator :: fileStem name ++ dot :: extension
  | none => fileStem path ++ dot :: extension

/-- What `canonicalize` returns: a path that begins with a backslash. -/
structure CanonicalPath where
  path : OsString
  rooted : path.head? = some separator

/-- The arguments that `restart` adds. -/
def addedArgs (newExe : CanonicalPath) (viaMsi : Bool) : List OsString :=
  (if viaMsi then []
    else [ascii "--update-old-bin", withExtension newExe.path (ascii "exe.bak")]) ++
    [ascii "--singleton-wait-for-shutdown"]

/-- The arguments that `restart` starts the new executable with; `none` is the panic of
`env::args` on an argument that is not Unicode, the name of the program included. -/
def restartArgs (argv : List OsString) (newExe : CanonicalPath) (viaMsi : Bool) :
    Option (List OsString) :=
  if argv.all isUnicode then some (argv.drop 1 ++ addedArgs newExe viaMsi) else none

/-- The options that the new process is meant to have. -/
def restarted (opts : Args) (newExe : CanonicalPath) (viaMsi : Bool) : Args :=
  { opts with
    updateOldBin :=
      if viaMsi then opts.updateOldBin
      else some (withExtension newExe.path (ascii "exe.bak"))
    singletonWaitForShutdown := true }

/-- The new process is started with a command line that parses to the options meant. -/
def Restarts (argv : List OsString) (opts : Args) (newExe : CanonicalPath) (viaMsi : Bool) :
    Prop :=
  ∃ args, restartArgs argv newExe viaMsi = some args ∧
    Args.parse args = .ok (restarted opts newExe viaMsi)

variable {path before after extension : OsString} {sep : UInt16} {newExe : CanonicalPath}
  {m m' : ArgMatches} {argv : List OsString} {opts : Args} {viaMsi : Bool}

theorem splitAtLast_eq_some (h : splitAtLast sep path = some (before, after)) :
    path = before ++ sep :: after := by
  induction path generalizing before with
  | nil => simp [splitAtLast] at h
  | cons u us ih =>
    simp only [splitAtLast] at h
    split at h
    · rename_i hs
      simp only [Option.some.injEq, Prod.mk.injEq] at h
      obtain ⟨rfl, rfl⟩ := h
      exact congrArg (u :: ·) (ih hs)
    · split at h
      · rename_i hu
        simp only [Option.some.injEq, Prod.mk.injEq] at h
        obtain ⟨rfl, rfl⟩ := h
        rw [hu, List.nil_append]
      · simp at h

theorem splitAtLast_ne_none (h : sep ∈ path) : splitAtLast sep path ≠ none := by
  induction path with
  | nil => simp at h
  | cons u us ih =>
    simp only [splitAtLast]
    split
    · simp
    · rename_i hs
      rcases List.mem_cons.mp h with rfl | h
      · simp
      · exact absurd hs (ih h)

/-- Another extension leaves a canonical path rooted. -/
theorem head_withExtension (newExe : CanonicalPath) (extension : OsString) :
    (withExtension newExe.path extension).head? = some separator := by
  have hr := newExe.rooted
  simp only [withExtension]
  split
  · rename_i dir name hs
    rw [splitAtLast_eq_some hs] at hr
    cases dir with
    | nil => rfl
    | cons u us => exact hr
  · rename_i hs
    exact absurd hs (splitAtLast_ne_none (List.mem_of_head? hr))

theorem oldBin_accepted (newExe : CanonicalPath) (extension : OsString) :
    Args.isValue (withExtension newExe.path extension) = true ∧
      Opt.accepts (withExtension newExe.path extension) .updateOldBin = true := by
  have hh := head_withExtension newExe extension
  cases hp : withExtension newExe.path extension with
  | nil => simp [hp] at hh
  | cons u us =>
    rw [hp] at hh
    obtain rfl := Option.some.inj hh
    refine ⟨?_, rfl⟩
    cases us with
    | nil => rfl
    | cons v vs => rfl

theorem parseArgs_wait : Args.parseArgs m [ascii "--singleton-wait-for-shutdown"] =
    m.setFlag .singletonWaitForShutdown := by
  rw [Args.parseArgs_flag (f := .singletonWaitForShutdown) rfl rfl]
  cases m.setFlag .singletonWaitForShutdown <;> rfl

theorem parseArgs_oldBin (newExe : CanonicalPath) (extension : OsString) {rest : List OsString} :
    Args.parseArgs m (ascii "--update-old-bin" :: withExtension newExe.path extension :: rest) =
      m.setValue .updateOldBin (withExtension newExe.path extension) >>= fun m =>
        Args.parseArgs m rest :=
  Args.parseArgs_separate (o := .updateOldBin) rfl rfl rfl (oldBin_accepted newExe extension).1

theorem setFlag_eq_ok {f : Flag} : m.setFlag f = .ok m' ↔
    m.flags f = false ∧ m' = { m with flags := Function.update m.flags f true } := by
  simp only [ArgMatches.setFlag]
  cases m.flags f <;> simp [eq_comm]

theorem setValue_eq_ok {o : Opt} {value : OsString} (hv : o.accepts value = true) :
    m.setValue o value = .ok m' ↔ m.values o = none ∧
      m' = { m with values := Function.update m.values o (some value) } := by
  simp only [ArgMatches.setValue]
  cases m.values o <;> simp [hv, eq_comm]

/-- The matches with what the added arguments set. -/
def addedTo (m : ArgMatches) (newExe : CanonicalPath) (viaMsi : Bool) : ArgMatches where
  flags := Function.update m.flags .singletonWaitForShutdown true
  values :=
    if viaMsi then m.values
    else Function.update m.values .updateOldBin
      (some (withExtension newExe.path (ascii "exe.bak")))

theorem parseArgs_addedArgs : Args.parseArgs m (addedArgs newExe viaMsi) = .ok m' ↔
    m.flags .singletonWaitForShutdown = false ∧
      (viaMsi = true ∨ m.values .updateOldBin = none) ∧ m' = addedTo m newExe viaMsi := by
  cases viaMsi with
  | true =>
    change Args.parseArgs m [ascii "--singleton-wait-for-shutdown"] = .ok m' ↔ _
    rw [parseArgs_wait, setFlag_eq_ok]
    simp [addedTo]
  | false =>
    change Args.parseArgs m [ascii "--update-old-bin",
      withExtension newExe.path (ascii "exe.bak"), ascii "--singleton-wait-for-shutdown"] =
        .ok m' ↔ _
    rw [parseArgs_oldBin, Except.bind_eq_ok]
    simp only [setValue_eq_ok (oldBin_accepted newExe (ascii "exe.bak")).2, parseArgs_wait,
      setFlag_eq_ok]
    constructor
    · rintro ⟨m₁, ⟨hv, rfl⟩, hf, rfl⟩
      exact ⟨hf, .inr hv, rfl⟩
    · rintro ⟨hf, hv, rfl⟩
      exact ⟨_, ⟨hv.resolve_left (by simp), rfl⟩, hf, rfl⟩

theorem args_addedTo : (addedTo m newExe viaMsi).args = restarted m.args newExe viaMsi := by
  cases viaMsi <;> simp [addedTo, restarted, ArgMatches.args, Function.update]

/-- An accepted command line can be restarted with exactly when all arguments are Unicode, no
escape is among them and none of the added arguments has been given before. -/
theorem restarts_iff (h : Args.parse (argv.drop 1) = .ok opts) (newExe : CanonicalPath)
    (viaMsi : Bool) :
    Restarts argv opts newExe viaMsi ↔
      (∀ arg ∈ argv, isUnicode arg = true) ∧ Args.escape ∉ argv.drop 1 ∧
        opts.singletonWaitForShutdown = false ∧ (viaMsi = true ∨ opts.updateOldBin = none) := by
  obtain ⟨m, hm, hc, rfl⟩ := Args.parse_eq_ok.mp h
  obtain ⟨next, extra, hadd⟩ : ∃ next extra, addedArgs newExe viaMsi = next :: extra := by
    cases viaMsi <;> exact ⟨_, _, rfl⟩
  have happ := Args.parseArgs_append next extra hm
  rw [← hadd] at happ
  constructor
  · rintro ⟨args, hargs, hp⟩
    simp only [restartArgs] at hargs
    split at hargs
    · rename_i hu
      obtain rfl := Option.some.inj hargs
      obtain ⟨m', hm', -, -⟩ := Args.parse_eq_ok.mp hp
      rw [happ] at hm'
      split at hm'
      · simp at hm'
      · rename_i he
        obtain ⟨hf, hv, -⟩ := parseArgs_addedArgs.mp hm'
        exact ⟨List.all_eq_true.mp hu, he, hf, hv⟩
    · simp at hargs
  · rintro ⟨hu, he, hf, hv⟩
    rw [if_neg he, parseArgs_addedArgs.mpr ⟨hf, hv, rfl⟩] at happ
    refine ⟨_, if_pos (List.all_eq_true.mpr hu), Args.parse_eq_ok.mpr ⟨_, happ, ?_, args_addedTo⟩⟩
    simpa [addedTo] using hc

/-- `C:\Tools\BurntSushi.exe` in the form that `canonicalize` returns. -/
def sampleExe : CanonicalPath := ⟨ascii "\\\\?\\C:\\Tools\\BurntSushi.exe", rfl⟩

def sampleOpts : Args := { ArgMatches.empty.args with console := true }

theorem restarts_iff_console :
    Restarts [ascii "BurntSushi.exe", ascii "--console"] sampleOpts sampleExe false ↔
      (∀ arg ∈ [ascii "BurntSushi.exe", ascii "--console"], isUnicode arg = true) ∧
        Args.escape ∉ [ascii "--console"] ∧ sampleOpts.singletonWaitForShutdown = false ∧
        (false = true ∨ sampleOpts.updateOldBin = none) :=
  restarts_iff rfl sampleExe false

/-- A process that `restart` has started cannot restart again. -/
theorem restart_rejected :
    let args := [ascii "--singleton-wait-for-shutdown"]
    restartArgs [ascii "BurntSushi.exe"] sampleExe true = some args ∧
      (Args.parse args).toOption.isSome = true ∧
      ∃ args', restartArgs (ascii "BurntSushi.exe" :: args) sampleExe true = some args' ∧
        Args.parse args' = .error (.usedMultipleTimes (ascii "singleton-wait-for-shutdown")) :=
  ⟨rfl, rfl, _, rfl, rfl⟩

end BurntSushi.Update
