import BurntSushi.Update.Perform

/-! The whole of `update`, from the check to the new process. -/
namespace BurntSushi.Update

open BurntSushi.Toast (askForApproval)

/-- What the environment answers in one call of `restart`. -/
structure RestartEnv where
  /-- The second `current_exe` succeeds, with the path of the first one. -/
  located : Bool
  spawn : Except String Unit

namespace Machine

/-- `restart(&current_exe()?, via_msi)`. -/
def restart (env : PerformEnv) (renv : RestartEnv) (viaMsi : Bool) (m : Machine) :
    Machine × Except String Unit :=
  match env.currentExe with
  | .error _ => (m, .error "Failed to locate current executable")
  | .ok exe =>
    if renv.located then
      match renv.spawn with
      | .error _ => (m, .error "Failed to restart with updated executable")
      | .ok () =>
        ({ m with
          started := m.started ++ [⟨exe, m.fs exe,
            if viaMsi then none else some (exe.withExtension "exe.bak")⟩] }, .ok ())
    else (m, .error "Failed to locate current executable")

section Versions

variable {V : Type} [LinearOrder V]

/-- `update`, with what it does to the machine. -/
def update (S : Semver V) (marker : Option Nat) (a : Attempt) (env : PerformEnv)
    (renv : RestartEnv) (m : Machine) : Machine × Awaited (Except String Bool) :=
  match (shouldCheckForUpdate marker a).1 with
  | .dropped => (m, .dropped)
  | .ready false => (m, .ready (.ok false))
  | .ready true =>
    match a.loadReleases with
    | .dropped => (m, .dropped)
    | .ready (.error _) => (m, .ready (.error "Failed to load releases"))
    | .ready (.ok releases) =>
      match findLatestRelease S releases with
      | .error e => (m, .ready (.error e))
      | .ok none => (m, .ready (.ok false))
      | .ok (some release) =>
        match a.toastShow with
        | .dropped => (m, .dropped)
        | .ready shown =>
          if askForApproval shown then
            match m.performUpdate env release with
            | (m, .dropped) => (m, .dropped)
            | (m, .ready (.error e)) => (m, .ready (.error e))
            | (m, .ready (.ok viaMsi)) =>
              let (m, res) := m.restart env renv viaMsi
              (m, .ready (res.map fun _ => true))
          else (m, .ready (.ok false))

/-- The check has been let through, and the user has approved of the release that it has found. -/
structure Approved (S : Semver V) (marker : Option Nat) (a : Attempt) (release : Release) :
    Prop where
  checks : (shouldCheckForUpdate marker a).1 = .ready true
  newest : ∃ releases v, a.loadReleases = .ready (.ok releases) ∧
    Newest S releases release v ∧ S.appVersion < v
  toast : ∃ shown, a.toastShow = .ready shown ∧ askForApproval shown = true

/-- What a whole `update` may have done: it has left the machine alone, or it has come to the
installation of a release that was approved of, and perhaps to the start of a new process. -/
inductive Updated (S : Semver V) (marker : Option Nat) (a : Attempt) (env : PerformEnv)
    (renv : RestartEnv) (m : Machine) : Machine → Awaited (Except String Bool) → Prop
  | untouched {res : Awaited (Except String Bool)} (hres : res ≠ .ready (.ok true)) :
      Updated S marker a env renv m m res
  | performed {release : Release} {t : Machine} {res res' : Awaited (Except String Bool)}
      (hA : Approved S marker a release) (ht : m.performUpdate env release = (t, res))
      (hres : res' ≠ .ready (.ok true)) : Updated S marker a env renv m t res'
  | restarted {release : Release} {t u : Machine} {viaMsi : Bool}
      (hA : Approved S marker a release)
      (ht : m.performUpdate env release = (t, .ready (.ok viaMsi)))
      (hu : t.restart env renv viaMsi = (u, .ok ())) :
      Updated S marker a env renv m u (.ready (.ok true))

/-- Unless `msiexec` is run, nothing but the executable, its backup and the temporary directory is
touched; it is touched, or `msiexec` run, only for a newer release that the user has approved of
and a file of it that has arrived whole. -/
structure Guarded (S : Semver V) (marker : Option Nat) (a : Attempt) (env : PerformEnv)
    (m t : Machine) : Prop where
  approved : (∃ path, Outside env path ∧ t.fs path ≠ m.fs path) ∨ t.installs ≠ m.installs ∨
    t.started ≠ m.started → ∃ release exe tmpBinPath body,
      Approved S marker a release ∧ Fetched env release exe tmpBinPath body
  frame : t.installs = m.installs → ∀ path, Outside env path → (∀ exe, env.currentExe = .ok exe →
    path ≠ exe ∧ path ≠ exe.withExtension "exe.bak") → t.fs path = m.fs path
  exe : t.installs = m.installs → ∀ exe, env.currentExe = .ok exe →
    t.fs exe = m.fs exe ∨ t.fs exe = none ∨
      ∃ release tmpBinPath body n, Fetched env release exe tmpBinPath body ∧
        t.fs exe = some (body.take n)
  installs : t.installs = m.installs ∨ ∃ release exe tmpBinPath body,
    Fetched env release exe tmpBinPath body ∧ isInstalled env.relatedProducts = true ∧
      t.installs = m.installs ++ [⟨tmpBinPath, some body, exe.parent⟩] ∧
        Installed env m t ⟨tmpBinPath, some body, exe.parent⟩
  removed : env.removes = true → ∀ dir, env.tempDir = .ok dir → ∀ path, path.parent = dir →
    t.fs path = none

/-- The new process is run from the whole download, or from what `msiexec` has left in its place. -/
structure Restarted (S : Semver V) (marker : Option Nat) (a : Attempt) (env : PerformEnv)
    (m t : Machine) (release : Release) (exe tmpBinPath : Path) (body : List UInt8) : Prop where
  approved : Approved S marker a release
  fetched : Fetched env release exe tmpBinPath body
  msi : isInstalled env.relatedProducts = true → env.msiexec = .exited true ∧
    t.installs = m.installs ++ [⟨tmpBinPath, some body, exe.parent⟩] ∧
      Installed env m t ⟨tmpBinPath, some body, exe.parent⟩ ∧
        t.started = m.started ++ [⟨exe, t.fs exe, none⟩]
  swap : isInstalled env.relatedProducts = false → t.fs exe = some body ∧
    t.fs (exe.withExtension "exe.bak") = m.fs exe ∧
      t.started = m.started ++ [⟨exe, some body, some (exe.withExtension "exe.bak")⟩]

variable {S : Semver V} {marker : Option Nat} {a : Attempt} {m t : Machine} {env : PerformEnv}
  {renv : RestartEnv} {release : Release} {viaMsi : Bool}

theorem restart_error {e : String} (h : m.restart env renv viaMsi = (t, .error e)) : t = m := by
  simp only [restart] at h
  split at h
  · cases h
    rfl
  · split at h
    · split at h <;> cases h
      rfl
    · cases h
      rfl

theorem updated_update (S : Semver V) (marker : Option Nat) (a : Attempt) (env : PerformEnv)
    (renv : RestartEnv) (m : Machine) :
    Updated S marker a env renv m (m.update S marker a env renv).1
      (m.update S marker a env renv).2 := by
  simp only [Machine.update]
  split
  · exact .untouched (by simp)
  · exact .untouched (by simp)
  · rename_i hchecks
    split
    · exact .untouched (by simp)
    · exact .untouched (by simp)
    · rename_i releases hreleases
      split
      · exact .untouched (by simp)
      · exact .untouched (by simp)
      · rename_i release hfound
        split
        · exact .untouched (by simp)
        · rename_i shown htoast
          split
          · rename_i happroved
            have hA : Approved S marker a release := by
              obtain ⟨v, hv, hlt⟩ := findLatestRelease_eq_some.mp hfound
              exact ⟨hchecks, ⟨releases, v, hreleases, hv, hlt⟩, shown, htoast, happroved⟩
            split
            · rename_i ht
              exact .performed hA ht (by simp)
            · rename_i ht
              exact .performed hA ht (by simp)
            · rename_i t viaMsi ht
              rcases hu : t.restart env renv viaMsi with ⟨u, e | ⟨⟨⟩⟩⟩
              · obtain rfl := restart_error hu
                exact .performed hA ht (by simp [Except.map])
              · exact .restarted hA ht hu
          · exact .untouched (by simp)

theorem restart_ok (h : m.restart env renv viaMsi = (t, .ok ())) :
    ∃ exe, env.currentExe = .ok exe ∧ t = { m with
      started := m.started ++ [⟨exe, m.fs exe,
        if viaMsi then none else some (exe.withExtension "exe.bak")⟩] } := by
  simp only [restart] at h
  split at h
  · cases h
  · rename_i exe he
    split at h
    · split at h <;> cases h
      exact ⟨exe, he, rfl⟩
    · cases h

theorem Performed.guarded {res : Awaited (Except String Bool)} (hA : Approved S marker a release)
    (hR : Ready env m) (ht : m.performUpdate env release = (t, res))
    {started : List Started} (hs : started = t.started ∨ ∃ viaMsi, res = .ready (.ok viaMsi)) :
    Guarded S marker a env m { t with started } := by
  have hP := performed_of_eq hR ht
  refine ⟨?_, ?_, ?_, ?_, ?_⟩
  · intro hc
    have hF := hP.fetched (by
      rcases hc with hc | hc | hc
      · exact .inl hc
      · exact .inr (.inl hc)
      · rcases hs with rfl | hs
        · exact absurd hP.started hc
        · exact .inr (.inr hs))
    obtain ⟨exe, tmpBinPath, body, hF⟩ := hF
    exact ⟨release, exe, tmpBinPath, body, hA, hF⟩
  · intro hi path ho hne
    cases hP with
    | kept hfs => exact hfs path ho
    | msi _ _ _ hinstalls => exact absurd (hinstalls.symm.trans hi) (by simp)
    | swap hF _ hfs =>
      obtain ⟨he, hb⟩ := hne _ hF.exe
      exact hfs path ho he hb
  · intro hi exe he
    have ho := hR.outside he
    cases hP with
    | kept hfs => exact .inl (hfs exe ho)
    | msi _ _ _ hinstalls => exact absurd (hinstalls.symm.trans hi) (by simp)
    | @swap exe' tmpBinPath body _ hF _ _ _ _ hexe =>
      obtain rfl := Except.ok.inj (he.symm.trans hF.exe)
      rcases hexe with hexe | hexe | ⟨n, hexe⟩
      · exact .inl hexe
      · exact .inr (.inl hexe)
      · exact .inr (.inr ⟨release, tmpBinPath, body, n, hF, hexe⟩)
  · cases hP with
    | kept _ hinstalls => exact .inl hinstalls
    | msi hF hmsi hfs hinstalls =>
      exact .inr ⟨release, _, _, _, hF, hmsi, hinstalls, hfs⟩
    | swap _ _ _ hinstalls => exact .inl hinstalls
  · intro hr dir hd path hp
    have hnone := fs_performUpdate release hR hd hr hp
    rwa [ht] at hnone

/-- The attempt with the answers that the machine gives for a release. -/
def answered (a : Attempt) (env : PerformEnv) (renv : RestartEnv) (release : Release)
    (m : Machine) : Attempt :=
  let (t, res) := m.performUpdate env release
  { a with
    performUpdate := res
    restart := match res with
      | .ready (.ok viaMsi) => (t.restart env renv viaMsi).2
      | _ => .ok () }

/-- Without the machine, this is `update` on the answers that it gives. -/
theorem update_erase (S : Semver V) (marker : Option Nat) (a : Attempt) (env : PerformEnv)
    (renv : RestartEnv) (m : Machine) : ∃ release,
    (m.update S marker a env renv).2 =
      (Update.update S marker (m.answered a env renv release)).1 := by
  have hchecks : ∀ release, shouldCheckForUpdate marker (m.answered a env renv release) =
      shouldCheckForUpdate marker a := fun _ => rfl
  have hreleases : ∀ release, (m.answered a env renv release).loadReleases = a.loadReleases :=
    fun _ => rfl
  have htoast : ∀ release, (m.answered a env renv release).toastShow = a.toastShow := fun _ => rfl
  simp only [Machine.update, Update.update, checkForUpdate, hchecks, hreleases, htoast]
  rcases shouldCheckForUpdate marker a with ⟨(_ | _) | _, marker'⟩
  · exact ⟨⟨""⟩, rfl⟩
  · rcases a.loadReleases with (_ | releases) | _
    · exact ⟨⟨""⟩, rfl⟩
    · simp only
      rcases findLatestRelease S releases with _ | (_ | release)
      · exact ⟨⟨""⟩, rfl⟩
      · exact ⟨⟨""⟩, rfl⟩
      · refine ⟨release, ?_⟩
        rcases a.toastShow with shown | _
        · simp only [answered]
          cases askForApproval shown with
          | false => rfl
          | true =>
            simp only [if_true]
            rcases m.performUpdate env release with ⟨t, (_ | viaMsi) | _⟩ <;> rfl
        · rfl
    · exact ⟨⟨""⟩, rfl⟩
  · exact ⟨⟨""⟩, rfl⟩

/-- `update` returns that the program is to shut down exactly if it has started a new process, and
then the process runs from the whole download of the newer release, next to the old executable that
it is told to remove, or after a successful `msiexec` with it. -/
theorem update_restarts (S : Semver V) (marker : Option Nat) (a : Attempt) (renv : RestartEnv)
    (hR : Ready env m) :
    ((m.update S marker a env renv).2 = .ready (.ok true) ↔
      (m.update S marker a env renv).1.started ≠ m.started) ∧
    ((m.update S marker a env renv).2 = .ready (.ok true) → ∃ release exe tmpBinPath body,
      Restarted S marker a env m (m.update S marker a env renv).1 release exe tmpBinPath body) := by
  have hU := updated_update S marker a env renv m
  generalize m.update S marker a env renv = r at hU ⊢
  obtain ⟨t, res⟩ := r
  cases hU with
  | untouched hres => simp [hres]
  | performed hA ht hres =>
    have hs := (performed_of_eq hR ht).started
    simpa [hres] using hs
  | restarted hA ht hu =>
    have hP := performed_of_eq hR ht
    obtain ⟨exe, he, rfl⟩ := restart_ok hu
    refine ⟨by simp [hP.started], fun _ => ?_⟩
    cases hP with
    | kept _ _ _ hres => exact absurd rfl (hres _)
    | @msi exe' tmpBinPath body _ hF hmsi hfs hinstalls hstarted hres =>
      obtain rfl := Except.ok.inj (he.symm.trans hF.exe)
      obtain ⟨rfl, hx⟩ := hres _ rfl
      refine ⟨_, exe, tmpBinPath, body, hA, hF, fun _ => ⟨hx, hinstalls, hfs, ?_⟩, by simp [hmsi]⟩
      simp [hstarted]
    | @swap exe' tmpBinPath body _ hF hmsi _ _ hstarted _ hres =>
      obtain rfl := Except.ok.inj (he.symm.trans hF.exe)
      obtain ⟨rfl, hexe, hbak⟩ := hres _ rfl
      refine ⟨_, exe, tmpBinPath, body, hA, hF, by simp [hmsi], fun _ => ⟨hexe, hbak, ?_⟩⟩
      simp [hstarted, hexe]

end Versions

section Runs

/-- The portable executable in its directory, and no other file. -/
def portable : Machine where
  fs path := if path = installedExe then some [1] else none
  installs := []
  started := []

/-- A release with the portable executable, which is downloaded and swapped in. -/
def portableEnv : PerformEnv where
  currentExe := .ok installedExe
  relatedProducts := 1605
  assets _ := [⟨⟨"BurntSushi.exe", by simp⟩, "BurntSushi.exe"⟩]
  tempDir := .ok downloadedExe.parent
  create := .done
  download _ := .done [2]
  msiexec := .failed
  installer _ fs := fs
  swap := swapped
  removes := true

theorem ready_portable : Ready portableEnv portable := by
  constructor
  · rintro exe ⟨⟩
    exact ⟨[1], rfl⟩
  · rintro dir ⟨⟩ path hp
    have hne : path ≠ installedExe := by
      rintro rfl
      exact absurd hp (by decide)
    simp [portable, hne]

/-- The user agrees to an update to version 6. -/
def agreed : Attempt := { attemptAt 0 (.ok [⟨"6"⟩]) with toastShow := .ready (some true) }

example : (portable.update numbered none agreed portableEnv ⟨true, .ok ()⟩).1.started =
    [⟨installedExe, some [2], some (installedExe.withExtension "exe.bak")⟩] := by decide

/-- The same with a copy that an MSI has installed; the new one replaces the executable. -/
def installedEnv : PerformEnv :=
  { portableEnv with
    relatedProducts := 0
    assets := fun _ => [⟨⟨"BurntSushi.msi", by simp⟩, "BurntSushi.msi"⟩]
    msiexec := .exited true
    installer := fun _ fs => Function.update fs installedExe (some [3]) }

theorem ready_installed : Ready installedEnv portable :=
  ⟨ready_portable.exe, ready_portable.tempDir⟩

theorem update_restarts_installed :
    (portable.update numbered none agreed installedEnv ⟨true, .ok ()⟩).1.started =
        [⟨installedExe, some [3], none⟩] ∧
      ∃ release exe tmpBinPath body, Restarted numbered none agreed installedEnv portable
        (portable.update numbered none agreed installedEnv ⟨true, .ok ()⟩).1 release exe tmpBinPath
          body :=
  ⟨by decide, (update_restarts numbered none agreed ⟨true, .ok ()⟩ ready_installed).2 rfl⟩

end Runs

end Machine

end BurntSushi.Update
