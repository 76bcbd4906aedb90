import OverlayControl.Host

/-!
# Files that a program owns

What a program may expect of the files that it alone writes. A storage keeps such files
(`Storage.Keeps`) when replacing one of them gives it the new contents, leaves the others alone, and
changes none of them when it fails. This is asked of the sound states of the storage only, those in
which no path of an own file leads through something that is not a directory.
-/

namespace OverlayControl

namespace Storage

variable {φ : Type}

/-- The contents of a file, if it can be read. -/
def contents (files : Storage φ) (p : Path) (s : φ) : Option (List UInt8) :=
  (files.readFile p s).toOption

/-- The text of a file is that of its contents. -/
theorem readText_toOption (files : Storage φ) (p : Path) (s : φ) :
    (files.readText p s).toOption = (files.contents p s).bind Utf8.decode? := by
  unfold readText contents
  cases files.readFile p s with
  | error e => rfl
  | ok bytes =>
    simp only [Except.toOption, Option.bind_some]
    cases Utf8.decode? bytes <;> rfl

/-- Files of its own that a program may rely on, while the state of the storage is sound. -/
structure Keeps (files : Storage φ) (sound : φ → Prop) (own : List Path) : Prop where
  /-- Replacing an own file leads to a sound state, even when it fails. -/
  sound_replaceFile {s : φ} {p : Path} (bytes : List UInt8) :
    sound s → p ∈ own → sound (files.replaceFile p bytes s).2
  /-- Only under a path with a file name can a file be put. -/
  fileName_of_ok {s : φ} {p : Path} {bytes : List UInt8} :
    (files.replaceFile p bytes s).1 = .ok () → p.fileName?.isSome = true
  /-- A file that was replaced has the new contents. -/
  contents_self {s : φ} {p : Path} {bytes : List UInt8} :
    sound s → p ∈ own → (files.replaceFile p bytes s).1 = .ok () →
      files.contents p (files.replaceFile p bytes s).2 = some bytes
  /-- The other own files keep their contents. -/
  contents_other {s : φ} {p q : Path} (bytes : List UInt8) :
    sound s → p ∈ own → q ∈ own → q ≠ p →
      files.contents q (files.replaceFile p bytes s).2 = files.contents q s
  /-- A replacement that fails changes no own file. -/
  contents_failed {s : φ} {p q : Path} {bytes : List UInt8} :
    sound s → p ∈ own → q ∈ own → (files.replaceFile p bytes s).1 ≠ .ok () →
      files.contents q (files.replaceFile p bytes s).2 = files.contents q s

end Storage

/-- The files of a device are replaced beside its service. -/
theorem Device.replaceFile_ofParts {σ φ : Type} (service : Service σ) (files : Storage φ) (p : Path)
    (bytes : List UInt8) (s : σ × φ) :
    (Device.ofParts service files).replaceFile p bytes s =
      ((files.replaceFile p bytes s.2).1, (s.1, (files.replaceFile p bytes s.2).2)) := rfl

end OverlayControl
