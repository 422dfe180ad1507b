import BurntSushi.Text
import BurntSushi.Update.ExeSwap
import BurntSushi.Update.Release

/-! `perform_update` on the files of the machine, from the choice of an asset to its
installation. -/
namespace BurntSushi.Update

/-- A file name in a release; GitHub keeps no separator in one. -/
structure AssetName where
  name : String
  single : ∀ c ∈ name.toList, c ≠ '/' ∧ c ≠ '\\' ∧ c ≠ ':'

structure Asset where
  name : AssetName
  downloadUrl : String

/-- What becomes of the `File::create` of the temporary file. -/
inductive Create where
  | done
  | failed (created : Bool)
  | dropped (created : Bool)
  deriving DecidableEq, Repr

/-- What becomes of `download_file` in its blocking task, with what it has written by then. -/
inductive Download where
  | done (body : List UInt8)
  | failed (written : List UInt8)
  | dropped (written : List UInt8)
  deriving DecidableEq, Repr

/-- What becomes of `msiexec`, which a dropped task does not stop. -/
inductive Msiexec where
  | exited (success : Bool)
  | failed
  | dropped (started : Bool)
  deriving DecidableEq, Repr

/-- A run of `msiexec /i`. -/
structure MsiRun where
  msiPath : Path
  content : Option (List UInt8)
  applicationFolder : String
  deriving DecidableEq, Repr

/-- A process that `restart` has started, with what it is run from and what it is to remove. -/
structure Started where
  exe : Path
  image : Option (List UInt8)
  updateOldBin : Option Path
  deriving DecidableEq, Repr

structure Machine where
  fs : Fs
  installs : List MsiRun
  started : List Started

/-- What the environment answers in one call of `perform_update`. -/
structure PerformEnv where
  currentExe : Except String Path
  /-- The result of `MsiEnumRelatedProductsW`. -/
  relatedProducts : Nat
  assets : Release → List Asset
  tempDir : Except String String
  create : Create
  download : Asset → Download
  msiexec : Msiexec
  /-- The files after a run of `msiexec`, or as far as it has got when its task is dropped. -/
  installer : MsiRun → Fs → Fs
  swap : Schedule
  /-- The drop of the `TempDir` removes it. -/
  removes : Bool

def isInstalled (relatedProducts : Nat) : Bool := relatedProducts = 0

/-- `Path::extension` of a single component. -/
def extension (name : AssetName) : Option (List Char) :=
  match splitAtDot name.name.toList with
  | some (_ :: _, ext) => some ext
  | _ => none

def targetExtension (viaMsi : Bool) : String := if viaMsi then "msi" else "exe"

def Asset.matches (viaMsi : Bool) (asset : Asset) : Bool :=
  (extension asset.name).any fun ext => asciiLowercase ext = (targetExtension viaMsi).toList

/-- What a move or copy of the new executable leaves where there was none. -/
structure MovedIn (tmpBinPath currentExe : Path) (body : List UInt8) (fs : Fs) (r : Fs × End) :
    Prop where
  frame : ∀ path, path ≠ tmpBinPath → path ≠ currentExe → r.1 path = fs path
  exe : r.1 currentExe = none ∨ ∃ n, r.1 currentExe = some (body.take n)
  ok : r.2 = .returned (.ok ()) → r.1 currentExe = some body

section Swap

variable {fs : Fs} {tmpBinPath currentExe : Path} {body : List UInt8}

theorem movedIn_copyPart (hcur : fs currentExe = none) (htmp : fs tmpBinPath = some body)
    (written : Option Nat) {e : End} (he : e ≠ .returned (.ok ())) :
    MovedIn tmpBinPath currentExe body fs (copyPart fs tmpBinPath currentExe written, e) := by
  refine ⟨?_, ?_, fun h => absurd h he⟩
  · intro path _ hpath
    cases written <;> simp [copyPart, Fs.copyFirst, hpath]
  · have hpart : ∀ w, copyPart fs tmpBinPath currentExe w currentExe = w.map body.take :=
      fun _ => copyPart_currentExe hcur htmp
    cases written with
    | none => exact .inl (hpart none)
    | some n => exact .inr ⟨n, hpart (some n)⟩

theorem movedIn_copyIn (hcur : fs currentExe = none) (htmp : fs tmpBinPath = some body)
    (copy : Copy) :
    MovedIn tmpBinPath currentExe body fs (copyIn copy tmpBinPath currentExe fs) := by
  cases copy with
  | done =>
    refine ⟨?_, .inr ⟨body.length, ?_⟩, fun _ => ?_⟩
    · intro path _ hpath
      simp [copyIn, Fs.copy, hpath]
    · simp [copyIn, htmp]
    · simp [copyIn, htmp]
  | failed e written => exact movedIn_copyPart hcur htmp written (by simp)
  | dropped written => exact movedIn_copyPart hcur htmp written (by simp)

theorem movedIn_rename (hne : tmpBinPath ≠ currentExe) (htmp : fs tmpBinPath = some body)
    (e : End) : MovedIn tmpBinPath currentExe body fs (fs.rename tmpBinPath currentExe, e) := by
  have hexe : fs.rename tmpBinPath currentExe currentExe = some body :=
    (Fs.rename_dst hne).trans htmp
  refine ⟨fun path htmp hexe => Fs.rename_of_ne htmp hexe, .inr ⟨body.length, ?_⟩, fun _ => hexe⟩
  exact hexe.trans (congrArg some List.take_length.symm)

theorem movedIn_moveIn (hne : tmpBinPath ≠ currentExe) (hcur : fs currentExe = none)
    (htmp : fs tmpBinPath = some body) (s : Schedule) :
    MovedIn tmpBinPath currentExe body fs (moveIn s tmpBinPath currentExe fs) := by
  have hkept : ∀ e : End, e ≠ .returned (.ok ()) →
      MovedIn tmpBinPath currentExe body fs (fs, e) := fun e he =>
    ⟨fun _ _ _ => rfl, .inl hcur, fun h => absurd h he⟩
  simp only [moveIn]
  split
  · exact movedIn_rename hne htmp _
  · split
    · exact movedIn_copyIn hcur htmp s.copy
    · exact hkept _ (by simp)
  · rename_i moved _
    cases moved with
    | true => exact movedIn_rename hne htmp _
    | false => exact hkept _ (by simp)

/-- What `update_via_exe_swap` leaves behind. -/
structure Swapped (tmpBinPath currentExe : Path) (body : List UInt8) (fs : Fs) (r : Fs × End) :
    Prop where
  frame : ∀ path, path ≠ tmpBinPath → path ≠ currentExe →
    path ≠ currentExe.withExtension "exe.bak" → r.1 path = fs path
  exe : r.1 currentExe = fs currentExe ∨ r.1 currentExe = none ∨
    ∃ n, r.1 currentExe = some (body.take n)
  ok : r.2 = .returned (.ok ()) → r.1 currentExe = some body ∧
    r.1 (currentExe.withExtension "exe.bak") = fs currentExe

theorem swapped_updateViaExeSwap (hdir : tmpBinPath.parent ≠ currentExe.parent)
    (htmp : fs tmpBinPath = some body) (s : Schedule) :
    Swapped tmpBinPath currentExe body fs (updateViaExeSwap s tmpBinPath currentExe fs) := by
  have hne : tmpBinPath ≠ currentExe := fun h => hdir (congrArg Path.parent h)
  have hbak : currentExe ≠ currentExe.withExtension "exe.bak" :=
    (Path.withExtension_ne (by decide)).symm
  have htb : tmpBinPath ≠ currentExe.withExtension "exe.bak" := by
    rintro rfl
    exact hdir rfl
  have hcur := @Fs.rename_src fs _ _ hbak
  have hframe : ∀ path, path ≠ currentExe → path ≠ currentExe.withExtension "exe.bak" →
      fs.rename currentExe (currentExe.withExtension "exe.bak") path = fs path :=
    fun _ h h' => Fs.rename_of_ne h h'
  simp only [updateViaExeSwap]
  split
  · obtain ⟨hf, hexe, hok⟩ := movedIn_moveIn hne hcur ((hframe _ hne htb).trans htmp) s
    refine ⟨fun path ht he hb => (hf path ht he).trans (hframe path he hb), .inr hexe, ?_⟩
    intro hr
    exact ⟨hok hr, (hf _ htb.symm hbak.symm).trans (Fs.rename_dst hbak)⟩
  · exact ⟨fun _ _ _ _ => rfl, .inl rfl, by simp⟩
  · rename_i moved _
    cases moved with
    | true => exact ⟨fun path _ he hb => hframe path he hb, .inr (.inl hcur), by simp⟩
    | false => exact ⟨fun _ _ _ _ => rfl, .inl rfl, by simp⟩

end Swap

namespace Machine

def write (m : Machine) (path : Path) (content : List UInt8) : Machine :=
  { m with fs := Function.update m.fs path (some content) }

/-- `remove_dir_all`. -/
def removeDir (m : Machine) (dir : String) : Machine :=
  { m with fs := fun path => if path.parent = dir then none else m.fs path }

/-- `msiexec /i`, which may change any file. -/
def runMsi (installer : MsiRun → Fs → Fs) (run : MsiRun) (m : Machine) : Machine :=
  { m with fs := installer run m.fs, installs := m.installs ++ [run] }

/-- `msi::upgrade`. -/
def upgrade (msiexec : Msiexec) (installer : MsiRun → Fs → Fs) (msiPath : Path)
    (installDir : String) (m : Machine) : Machine × Awaited (Except String Unit) :=
  let run := m.runMsi installer ⟨msiPath, m.fs msiPath, installDir⟩
  match msiexec with
  | .failed => (m, .ready (.error "Failed to run msiexec"))
  | .exited true => (run, .ready (.ok ()))
  | .exited false => (run, .ready (.error "msiexec exited with an error"))
  | .dropped started => (if started then run else m, .dropped)

def viaExeSwap (swap : Schedule) (tmpBinPath currentExe : Path) (m : Machine) :
    Machine × Awaited (Except String Unit) :=
  match updateViaExeSwap swap tmpBinPath currentExe m.fs with
  | (fs, .returned (.ok ())) => ({ m with fs }, .ready (.ok ()))
  | (fs, .returned (.error e)) => ({ m with fs }, .ready (.error e.context))
  | (fs, .dropped) => ({ m with fs }, .dropped)

/-- The installation of the downloaded file. -/
def install (env : PerformEnv) (viaMsi : Bool) (tmpBinPath currentExe : Path) (m : Machine) :
    Machine × Awaited (Except String Unit) :=
  if viaMsi then m.upgrade env.msiexec env.installer tmpBinPath currentExe.parent
  else m.viaExeSwap env.swap tmpBinPath currentExe

/-- The download into the open temporary file, and what follows it. -/
def download (env : PerformEnv) (viaMsi : Bool) (asset : Asset) (tmpBinPath currentExe : Path)
    (m : Machine) : Machine × Awaited (Except String Unit) :=
  match env.download asset with
  | .done body => (m.write tmpBinPath body).install env viaMsi tmpBinPath currentExe
  | .failed written =>
    (m.write tmpBinPath written, .ready (.error "Error downloading updated executable"))
  | .dropped written => (m.write tmpBinPath written, .dropped)

/-- `perform_update` between the creation of the temporary directory and its drop. -/
def inTempDir (env : PerformEnv) (viaMsi : Bool) (asset : Asset) (tmpBinPath currentExe : Path)
    (m : Machine) : Machine × Awaited (Except String Unit) :=
  match env.create with
  | .done => (m.write tmpBinPath []).download env viaMsi asset tmpBinPath currentExe
  | .failed created =>
    (if created then m.write tmpBinPath [] else m, .ready (.error "Error creating temporary file"))
  | .dropped created => (if created then m.write tmpBinPath [] else m, .dropped)

/-- `Ok(via_msi)` at the end. -/
def installed (viaMsi : Bool) : Awaited (Except String Unit) → Awaited (Except String Bool)
  | .dropped => .dropped
  | .ready res => .ready (res.map fun _ => viaMsi)

def performUpdate (env : PerformEnv) (release : Release) (m : Machine) :
    Machine × Awaited (Except String Bool) :=
  match env.currentExe with
  | .error _ => (m, .ready (.error "Failed to locate current executable"))
  | .ok currentExe =>
    let viaMsi := isInstalled env.relatedProducts
    match (env.assets release).find? (Asset.matches viaMsi) with
    | none => (m, .ready (.error "No matching release asset found"))
    | some asset =>
      match env.tempDir with
      | .error _ => (m, .ready (.error "Failed to create temporary directory"))
      | .ok dir =>
        let (m, res) := m.inTempDir env viaMsi asset ⟨dir, asset.name.name⟩ currentExe
        (if env.removes then m.removeDir dir else m, installed viaMsi res)

/-- The first file of the release for this kind of installation has been downloaded. -/
structure Fetched (env : PerformEnv) (release : Release) (exe tmpBinPath : Path)
    (body : List UInt8) : Prop where
  exe : env.currentExe = .ok exe
  asset : ∃ asset,
    (env.assets release).find? (Asset.matches (isInstalled env.relatedProducts)) = some asset ∧
      env.tempDir = .ok tmpBinPath.parent ∧ asset.name.name = tmpBinPath.fileName ∧
        env.create = .done ∧ env.download asset = .done body

/-- The path is not in the temporary directory. -/
def Outside (env : PerformEnv) (path : Path) : Prop :=
  ∀ dir, env.tempDir = .ok dir → path.parent ≠ dir

/-- The executable is there, and the temporary directory is new. -/
structure Ready (env : PerformEnv) (m : Machine) : Prop where
  exe : ∀ exe, env.currentExe = .ok exe → ∃ old, m.fs exe = some old
  tempDir : ∀ dir, env.tempDir = .ok dir → ∀ path, path.parent = dir → m.fs path = none

/-- The files outside the temporary directory are those that a run of `msiexec` has made of the old
ones. -/
def Installed (env : PerformEnv) (m t : Machine) (run : MsiRun) : Prop :=
  ∃ fs : Fs, (∀ path, Outside env path → fs path = m.fs path) ∧ fs run.msiPath = run.content ∧
    ∀ path, Outside env path → t.fs path = env.installer run fs path

/-- What `perform_update` may have done, by how far it has got. -/
inductive Performed (env : PerformEnv) (release : Release) (m t : Machine) :
    Awaited (Except String Bool) → Prop
  | kept {res : Awaited (Except String Bool)}
      (hfs : ∀ path, Outside env path → t.fs path = m.fs path)
      (hinstalls : t.installs = m.installs) (hstarted : t.started = m.started)
      (hres : ∀ viaMsi, res ≠ .ready (.ok viaMsi)) : Performed env release m t res
  | msi {exe tmpBinPath : Path} {body : List UInt8} {res : Awaited (Except String Bool)}
      (hF : Fetched env release exe tmpBinPath body) (hmsi : isInstalled env.relatedProducts = true)
      (hfs : Installed env m t ⟨tmpBinPath, some body, exe.parent⟩)
      (hinstalls : t.installs = m.installs ++ [⟨tmpBinPath, some body, exe.parent⟩])
      (hstarted : t.started = m.started)
      (hres : ∀ viaMsi, res = .ready (.ok viaMsi) →
        viaMsi = true ∧ env.msiexec = .exited true) : Performed env release m t res
  | swap {exe tmpBinPath : Path} {body : List UInt8} {res : Awaited (Except String Bool)}
      (hF : Fetched env release exe tmpBinPath body)
      (hmsi : isInstalled env.relatedProducts = false)
      (hfs : ∀ path, Outside env path → path ≠ exe → path ≠ exe.withExtension "exe.bak" →
        t.fs path = m.fs path)
      (hinstalls : t.installs = m.installs) (hstarted : t.started = m.started)
      (hexe : t.fs exe = m.fs exe ∨ t.fs exe = none ∨ ∃ n, t.fs exe = some (body.take n))
      (hres : ∀ viaMsi, res = .ready (.ok viaMsi) → viaMsi = false ∧ t.fs exe = some body ∧
        t.fs (exe.withExtension "exe.bak") = m.fs exe) : Performed env release m t res

variable {m t : Machine} {env : PerformEnv} {release : Release}
  {exe tmpBinPath path : Path} {body written : List UInt8} {viaMsi : Bool} {asset : Asset}

theorem Ready.outside (hR : Ready env m) (he : env.currentExe = .ok exe) : Outside env exe := by
  intro dir hdir hp
  obtain ⟨old, hold⟩ := hR.exe exe he
  simp [hR.tempDir dir hdir exe hp] at hold

/-- A write to the temporary file changes nothing outside. -/
theorem fs_write (hd : env.tempDir = .ok tmpBinPath.parent) (ho : Outside env path) :
    (m.write tmpBinPath written).fs path = m.fs path := by
  have hne : path ≠ tmpBinPath := by
    rintro rfl
    exact ho _ hd rfl
  simp [write, hne]

theorem fs_write_self : (m.write tmpBinPath written).fs tmpBinPath = some written := by
  simp [write]

theorem fs_removeDir {dir : String} (ho : path.parent ≠ dir) :
    (m.removeDir dir).fs path = m.fs path := by
  simp [removeDir, ho]

@[simp] theorem installed_eq_ok {res : Awaited (Except String Unit)} {b : Bool} :
    installed viaMsi res = .ready (.ok b) ↔ res = .ready (.ok ()) ∧ viaMsi = b := by
  rcases res with (e | ⟨⟨⟩⟩) | _ <;> simp [installed, Except.map]

theorem performed_upgrade (hF : Fetched env release exe tmpBinPath body)
    (hmsi : isInstalled env.relatedProducts = true)
    (hm : ∀ path, Outside env path → t.fs path = m.fs path) (htmp : t.fs tmpBinPath = some body)
    (hi : t.installs = m.installs) (hs : t.started = m.started) :
    Performed env release m (t.upgrade env.msiexec env.installer tmpBinPath exe.parent).1
      (installed true (t.upgrade env.msiexec env.installer tmpBinPath exe.parent).2) := by
  have hrun : Installed env m (t.runMsi env.installer ⟨tmpBinPath, some body, exe.parent⟩)
      ⟨tmpBinPath, some body, exe.parent⟩ := ⟨t.fs, hm, htmp, fun _ _ => rfl⟩
  have hinstalls : (t.runMsi env.installer ⟨tmpBinPath, some body, exe.parent⟩).installs =
      m.installs ++ [⟨tmpBinPath, some body, exe.parent⟩] := by rw [← hi, runMsi]
  simp only [upgrade, htmp]
  cases hx : env.msiexec with
  | failed => exact .kept hm hi hs (by simp [installed, Except.map])
  | exited success =>
    cases success with
    | true => exact .msi hF hmsi hrun hinstalls hs (by simp [installed, Except.map, hx])
    | false => exact .msi hF hmsi hrun hinstalls hs (by simp [installed, Except.map])
  | dropped started =>
    cases started with
    | true => exact .msi hF hmsi hrun hinstalls hs (by simp [installed])
    | false => exact .kept hm hi hs (by simp [installed])

theorem performed_viaExeSwap (hF : Fetched env release exe tmpBinPath body)
    (hmsi : isInstalled env.relatedProducts = false) (hd : env.tempDir = .ok tmpBinPath.parent)
    (hexe : Outside env exe) (hm : ∀ path, Outside env path → t.fs path = m.fs path)
    (htmp : t.fs tmpBinPath = some body) (hi : t.installs = m.installs)
    (hs : t.started = m.started) :
    Performed env release m (t.viaExeSwap env.swap tmpBinPath exe).1
      (installed false (t.viaExeSwap env.swap tmpBinPath exe).2) := by
  have hdir : tmpBinPath.parent ≠ exe.parent := fun h => hexe _ hd h.symm
  have hS := swapped_updateViaExeSwap hdir htmp env.swap
  have htmp' : ∀ path, Outside env path → path ≠ tmpBinPath := by
    rintro path ho rfl
    exact ho _ hd rfl
  have hframe : ∀ path, Outside env path → path ≠ exe → path ≠ exe.withExtension "exe.bak" →
      (updateViaExeSwap env.swap tmpBinPath exe t.fs).1 path = m.fs path := fun path ho he hb =>
    (hS.frame path (htmp' path ho) he hb).trans (hm path ho)
  have hcontent := hS.exe
  have hok := hS.ok
  rw [hm exe hexe] at hcontent hok
  simp only [viaExeSwap]
  split <;> rename_i hr <;> rw [hr] at hframe hcontent hok
  · exact .swap hF hmsi hframe hi hs hcontent (by simpa [installed, Except.map] using hok)
  · exact .swap hF hmsi hframe hi hs hcontent (by simp [installed, Except.map])
  · exact .swap hF hmsi hframe hi hs hcontent (by simp [installed])

/-- The part of `perform_update` with the temporary directory, before the drop of that. -/
theorem performed_inTempDir (he : env.currentExe = .ok exe)
    (hd : env.tempDir = .ok tmpBinPath.parent)
    (ha : (env.assets release).find? (Asset.matches (isInstalled env.relatedProducts)) = some asset)
    (hname : asset.name.name = tmpBinPath.fileName) (hR : Ready env m) :
    let r := m.inTempDir env (isInstalled env.relatedProducts) asset tmpBinPath exe
    Performed env release m r.1 (installed (isInstalled env.relatedProducts) r.2) := by
  have hw : ∀ {u : Machine} {content : List UInt8},
      (∀ path, Outside env path → u.fs path = m.fs path) →
        ∀ path, Outside env path → (u.write tmpBinPath content).fs path = m.fs path :=
    fun hu path ho => (fs_write hd ho).trans (hu path ho)
  have hm : ∀ path, Outside env path → m.fs path = m.fs path := fun _ _ => rfl
  simp only [inTempDir]
  cases hc : env.create with
  | failed created =>
    cases created with
    | true => exact .kept (hw hm) rfl rfl (by simp [installed, Except.map])
    | false => exact .kept hm rfl rfl (by simp [installed, Except.map])
  | dropped created =>
    cases created with
    | true => exact .kept (hw hm) rfl rfl (by simp [installed])
    | false => exact .kept hm rfl rfl (by simp [installed])
  | done =>
    simp only [download]
    cases hb : env.download asset with
    | failed written => exact .kept (hw (hw hm)) rfl rfl (by simp [installed, Except.map])
    | dropped written => exact .kept (hw (hw hm)) rfl rfl (by simp [installed])
    | done body =>
      have hF : Fetched env release exe tmpBinPath body := ⟨he, asset, ha, hd, hname, hc, hb⟩
      simp only [install]
      cases hmsi : isInstalled env.relatedProducts with
      | true => exact performed_upgrade hF hmsi (hw (hw hm)) fs_write_self rfl rfl
      | false =>
        exact performed_viaExeSwap hF hmsi hd (hR.outside he) (hw (hw hm)) fs_write_self rfl rfl

/-- The drop of the temporary directory. -/
theorem Performed.removeDir {res : Awaited (Except String Bool)} {dir : String}
    (h : Performed env release m t res) (hd : env.tempDir = .ok dir) (hR : Ready env m) :
    Performed env release m (t.removeDir dir) res := by
  have hout : ∀ path, Outside env path → (t.removeDir dir).fs path = t.fs path :=
    fun path ho => fs_removeDir (ho dir hd)
  cases h with
  | kept hfs hinstalls hstarted hres =>
    exact .kept (fun path ho => (hout path ho).trans (hfs path ho)) hinstalls hstarted hres
  | msi hF hmsi hfs hinstalls hstarted hres =>
    obtain ⟨fs, hbefore, hrun, hafter⟩ := hfs
    exact .msi hF hmsi ⟨fs, hbefore, hrun, fun path ho => (hout path ho).trans (hafter path ho)⟩
      hinstalls hstarted hres
  | @swap exe tmpBinPath body _ hF hmsi hfs hinstalls hstarted hexe hres =>
    have ho := hR.outside hF.exe
    have hbak : Outside env (exe.withExtension "exe.bak") := ho
    refine .swap hF hmsi (fun path ho he hb => (hout path ho).trans (hfs path ho he hb)) hinstalls
      hstarted ?_ ?_
    · rw [hout exe ho]
      exact hexe
    · rw [hout exe ho, hout _ hbak]
      exact hres

theorem performed_performUpdate (release : Release) (hR : Ready env m) :
    Performed env release m (m.performUpdate env release).1 (m.performUpdate env release).2 := by
  simp only [performUpdate]
  split
  · exact .kept (fun _ _ => rfl) rfl rfl (by simp)
  · rename_i exe he
    split
    · exact .kept (fun _ _ => rfl) rfl rfl (by simp)
    · rename_i asset ha
      split
      · exact .kept (fun _ _ => rfl) rfl rfl (by simp)
      · rename_i dir hd
        have hP := performed_inTempDir he hd ha (Eq.refl (Path.mk dir asset.name.name).fileName) hR
        split
        · exact hP.removeDir hd hR
        · exact hP

/-- With the drop of the temporary directory, nothing of the download stays in it. -/
theorem fs_performUpdate {dir : String} (release : Release) (hR : Ready env m)
    (hd : env.tempDir = .ok dir) (hr : env.removes = true) (hp : path.parent = dir) :
    (m.performUpdate env release).1.fs path = none := by
  have hnone := hR.tempDir dir hd path hp
  simp only [performUpdate, hd, hr, if_true]
  split
  · exact hnone
  · split
    · exact hnone
    · simp [Machine.removeDir, hp]

theorem Performed.started {res : Awaited (Except String Bool)} (h : Performed env release m t res) :
    t.started = m.started := by
  cases h with
  | kept _ _ hstarted _ => exact hstarted
  | msi _ _ _ _ hstarted _ => exact hstarted
  | swap _ _ _ _ hstarted _ _ => exact hstarted

theorem Performed.fetched {res : Awaited (Except String Bool)} (h : Performed env release m t res)
    (hc : (∃ path, Outside env path ∧ t.fs path ≠ m.fs path) ∨ t.installs ≠ m.installs ∨
      ∃ viaMsi, res = .ready (.ok viaMsi)) :
    ∃ exe tmpBinPath body, Fetched env release exe tmpBinPath body := by
  cases h with
  | kept hfs hinstalls _ hres =>
    rcases hc with ⟨path, ho, hne⟩ | hne | ⟨viaMsi, he⟩
    · exact absurd (hfs path ho) hne
    · exact absurd hinstalls hne
    · exact absurd he (hres viaMsi)
  | msi hF => exact ⟨_, _, _, hF⟩
  | swap hF => exact ⟨_, _, _, hF⟩

theorem performed_of_eq {res : Awaited (Except String Bool)} (hR : Ready env m)
    (ht : m.performUpdate env release = (t, res)) : Performed env release m t res := by
  have hP := performed_performUpdate release hR
  rwa [ht] at hP

end Machine

end BurntSushi.Update
