import StoreSchema.Files.Access
import StoreSchema.Files.Glob

/-! # Searching for files

The paths that match a pattern, in ascending order of their segments. A folder comes before what it
holds.
-/

namespace StoreSchema

namespace Glob

variable {m : Type → Type} [Monad m]

structure Unlisted where
  folder : String
  fault : FileFault

def Unlisted.message (e : Unlisted) : String :=
  "attempting to read `" ++ e.folder ++ "` resulted in an error: " ++ e.fault.message

/-- The path of what has a name in a folder. In the working folder that is the name alone. -/
def entryPath (folder name : String) : String :=
  if Path.isHere folder then name else Path.join folder name

/-- How many names a path can have at most. Each takes a byte and all but the last a slash. -/
def deepest : Nat := Path.longest / 2 + 1

def sortedNames (files : FileAccess m) (folder : String) : ExceptT Unlisted m (List String) := do
  match ← files.names folder with
  | .ok names => pure (names.mergeSort fun a b => decide (a ≤ b))
  | .error fault => throw ⟨folder, fault⟩

/-- The matches among an entry of a folder and all that is inside it. `continue` finds the matches
    of segments inside a folder. -/
def atEntry (files : FileAccess m)
    (inside : List (List Token) → String → ExceptT Unlisted m (List String))
    (segments : List (List Token)) (path name : String) : ExceptT Unlisted m (List String) := do
  let atName (segments : List (List Token)) : ExceptT Unlisted m (List String) :=
    match segments with
    | segment :: rest => if accepts segment name.toList then inside rest path else pure []
    | [] => pure []
  match segments.dropWhile (·.contains .folders) with
  | [] =>
    if ← files.isFolder path then
      let deeper ← inside [[.folders]] path
      pure (path :: deeper)
    else pure []
  | rest =>
    let here ← atName rest
    if rest.length < segments.length && (← files.isFolder path) then
      let deeper ← inside ([.folders] :: rest) path
      pure (here ++ deeper)
    else pure here

/-- The matches of segments inside a folder. A segment that stands for itself is looked up without
    listing the folder. The folders `.` and `..` match only a pattern that starts with a dot. -/
def matchesInside (files : FileAccess m) (foldersOnly : Bool) :
    Nat → List (List Token) → String → ExceptT Unlisted m (List String)
  | 0, _, _ => pure []
  | _, [], path => do
    if foldersOnly && !(← files.isFolder path) then pure [] else pure [path]
  | depth + 1, segment :: rest, folder =>
    match literal? segment with
    | some name => do
      let name := String.ofList name
      let path := entryPath folder name
      let found ← if name = "." ∨ name = ".." then files.isFolder folder else files.leads path
      if found then matchesInside files foldersOnly depth rest path else pure []
    | none => do
      if ← files.isFolder folder then
        let names ← sortedNames files folder
        let links := if segment.head? == some (.char '.') then
            ["..", "."].filter fun name => accepts segment name.toList
          else []
        let first ← links.flatMapM fun name =>
          matchesInside files foldersOnly depth rest (Path.join folder name)
        let others ← names.flatMapM fun name =>
          let path := entryPath folder name
          atEntry files (matchesInside files foldersOnly depth) (segment :: rest) path name
        pure (first ++ others)
      else pure []

def search (files : FileAccess m) (glob : Glob) : ExceptT Unlisted m (List String) :=
  matchesInside files glob.foldersOnly (deepest + glob.segments.length) glob.segments
    (if glob.absolute then "/" else ".")

end Glob

end StoreSchema
