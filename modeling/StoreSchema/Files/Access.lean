import StoreSchema.Files.Path

/-! # Access to files

What a command needs from a file system, in whatever monad the file system lives.
-/

namespace StoreSchema

inductive FileFault where
  | missing
  | taken
  | notFolder
  | folder
  | notText
  | nameTooLong
  /-- The path holds the character that ends paths. -/
  | endInside
  /-- Any other reason, in the words of the file system. -/
  | other (reason : String)
  deriving Repr, DecidableEq

def FileFault.message : FileFault → String
  | .missing => "No such file or directory (os error 2)"
  | .taken => "File exists (os error 17)"
  | .notFolder => "Not a directory (os error 20)"
  | .folder => "Is a directory (os error 21)"
  | .notText => "stream did not contain valid UTF-8"
  | .nameTooLong => "File name too long (os error 36)"
  | .endInside => "file name contained an unexpected NUL byte"
  | .other reason => reason

/-- The operations of a file system. -/
structure FileAccess (m : Type → Type) where
  read : String → m (Except FileFault ByteArray)
  write : String → String → m (Except FileFault Unit)
  /-- Creates one folder inside a folder that is there. -/
  createFolder : String → m (Except FileFault Unit)
  /-- The names in a folder, in any order. -/
  names : String → m (Except FileFault (List String))
  isFolder : String → m Bool
  /-- Whether a path leads to a file or a folder. -/
  leads : String → m Bool

namespace FileAccess

variable {m : Type → Type} [Monad m]

def readText (files : FileAccess m) (path : String) : m (Except FileFault String) := do
  match ← files.read path with
  | .error fault => pure (.error fault)
  | .ok bytes => pure ((String.fromUTF8? bytes).elim (.error .notText) .ok)

/-- Creates the first of some nested folders, listed from the inside out, and those around it that
    are not there yet. -/
def createFolders (files : FileAccess m) : List String → m (Except FileFault Unit)
  | [] => pure (.ok ())
  | path :: around => do
    let unlessThere (fault : FileFault) : m (Except FileFault Unit) := do
      if ← files.isFolder path then pure (.ok ()) else pure (.error fault)
    match ← files.createFolder path with
    | .ok () => pure (.ok ())
    | .error .missing =>
      match ← createFolders files around with
      | .error fault => pure (.error fault)
      | .ok () =>
        match ← files.createFolder path with
        | .ok () => pure (.ok ())
        | .error fault => unlessThere fault
    | .error fault => unlessThere fault

end FileAccess

end StoreSchema
