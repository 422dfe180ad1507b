import Mathlib.Logic.Function.Basic
import Mathlib.Tactic.Common

/-! Paths and files as `std::path` and `std::fs` treat them. -/
namespace BurntSushi

/-- A path with a file name: the directory it is in and its last component. -/
structure Path where
  parent : String
  fileName : String
  deriving DecidableEq, Repr

/-- A file name at its last dot: what is before it and what is after it. -/
def splitAtDot : List Char → Option (List Char × List Char)
  | [] => none
  | c :: cs =>
    match splitAtDot cs with
    | some (before, ext) => some (c :: before, ext)
    | none => if c = '.' then some ([], cs) else none

theorem not_mem_of_splitAtDot {name : List Char} (h : splitAtDot name = none) : '.' ∉ name := by
  induction name with
  | nil => simp
  | cons c cs ih =>
    simp only [splitAtDot] at h
    split at h
    · simp at h
    · rename_i hs
      split at h
      · simp at h
      · rename_i hc
        simp [ih hs, Ne.symm hc]

theorem splitAtDot_eq_some {name before ext : List Char}
    (h : splitAtDot name = some (before, ext)) : name = before ++ '.' :: ext ∧ '.' ∉ ext := by
  induction name generalizing before with
  | nil => simp [splitAtDot] at h
  | cons c cs ih =>
    simp only [splitAtDot] at h
    split at h
    · rename_i hs
      simp only [Option.some.injEq, Prod.mk.injEq] at h
      obtain ⟨rfl, rfl⟩ := h
      obtain ⟨he, hn⟩ := ih hs
      exact ⟨by simp [← he], hn⟩
    · rename_i hs
      split at h
      · rename_i hc
        simp only [Option.some.injEq, Prod.mk.injEq] at h
        obtain ⟨rfl, rfl⟩ := h
        exact ⟨by simp [hc], not_mem_of_splitAtDot hs⟩
      · simp at h

namespace Path

/-- `Path::file_stem`; a name that only begins with a dot has no extension. -/
def fileStem (path : Path) : List Char :=
  match splitAtDot path.fileName.toList with
  | some (c :: before, _) => c :: before
  | _ => path.fileName.toList

/-- `Path::with_extension` for an extension that is not empty. -/
def withExtension (path : Path) (extension : String) : Path :=
  { path with fileName := String.ofList (path.fileStem ++ '.' :: extension.toList) }

theorem fileStem_eq (path : Path) :
    path.fileStem = path.fileName.toList ∨
      ∃ ext, path.fileName.toList = path.fileStem ++ '.' :: ext ∧ '.' ∉ ext := by
  simp only [fileStem]
  split
  · rename_i hs
    exact .inr ⟨_, splitAtDot_eq_some hs⟩
  · exact .inl rfl

/-- An extension with a dot in it is not one that a path can already have. -/
theorem withExtension_ne {path : Path} {extension : String} (h : '.' ∈ extension.toList) :
    path.withExtension extension ≠ path := by
  intro he
  have hname : path.fileStem ++ '.' :: extension.toList = path.fileName.toList := by
    have hf := congrArg (String.toList ∘ fileName) he
    simpa [withExtension] using hf
  rcases fileStem_eq path with hs | ⟨ext, hs, hd⟩
  · have hlen := congrArg List.length hname
    simp [hs] at hlen
  · have hext := List.append_cancel_left (hname.trans hs)
    simp only [List.cons.injEq, true_and] at hext
    exact hd (hext ▸ h)

end Path

/-- The files there are, with their bytes. -/
abbrev Fs := Path → Option (List UInt8)

namespace Fs

/-- A successful `rename` of an existing file. -/
def rename (fs : Fs) (src dst : Path) : Fs :=
  if src = dst then fs else Function.update (Function.update fs dst (fs src)) src none

/-- What `copy` has done after writing `n` bytes. -/
def copyFirst (fs : Fs) (src dst : Path) (n : Nat) : Fs :=
  Function.update fs dst ((fs src).map (List.take n))

/-- A successful `copy`. -/
def copy (fs : Fs) (src dst : Path) : Fs := Function.update fs dst (fs src)

variable {fs : Fs} {src dst path : Path} {n : Nat}

theorem rename_src (h : src ≠ dst) : fs.rename src dst src = none := by
  simp [rename, h]

theorem rename_dst (h : src ≠ dst) : fs.rename src dst dst = fs src := by
  simp [rename, h, Function.update, Ne.symm h]

theorem rename_of_ne (hs : path ≠ src) (hd : path ≠ dst) : fs.rename src dst path = fs path := by
  simp only [rename]
  split <;> simp [hs, hd]

@[simp] theorem copy_dst : fs.copy src dst dst = fs src := by
  simp [copy]

end Fs

end BurntSushi
