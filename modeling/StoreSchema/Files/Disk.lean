import StoreSchema.Files.Access
import StoreSchema.Keyed

/-! # Files held in memory

A working folder with all that is inside it, as a file system of its own. Of the places around the
working folder nothing is known: nothing is found there, and what is written there is dropped.
-/

namespace StoreSchema

/-- The names that lead from the working folder to a place inside it. -/
abbrev Disk.Place := List String

/-- What is inside the working folder: files with their texts, and folders. -/
structure Disk where
  entries : List (Disk.Place × Option String) := []

namespace Disk

/-- Where a path leads. -/
inductive Target where
  | inside (place : Place)
  /-- A folder around the working folder. -/
  | around
  /-- Some place that is not inside. -/
  | elsewhere

inductive Content where
  | file (text : String)
  | folder
  | nothing

def content (disk : Disk) : Target → Content
  | .inside [] | .around => .folder
  | .elsewhere => .nothing
  | .inside place =>
    match disk.entries.lookup place with
    | some (some text) => .file text
    | some none => .folder
    | none => .nothing

/-- The target one segment further. -/
def Target.step (segment : String) : Target → Target
  | .elsewhere => .elsewhere
  | .around => if segment = "" ∨ segment = "." ∨ segment = ".." then .around else .elsewhere
  | .inside place =>
    match segment, place with
    | "", place | ".", place => .inside place
    | "..", [] => .around
    | "..", place => .inside place.dropLast
    | name, place => .inside (place ++ [name])

/-- Follows segments; all that is passed through has to be a folder, and no folder holds a name that
    is too long. -/
def follow (disk : Disk) (target : Target) : List String → Except FileFault Target
  | [] => .ok target
  | segment :: rest =>
    match target, disk.content target with
    | .elsewhere, _ => .ok .elsewhere
    | _, .folder =>
      if Path.longestName < segment.utf8ByteSize then .error .nameTooLong
      else follow disk (target.step segment) rest
    | _, .file _ => .error .notFolder
    | _, .nothing => .error .missing

/-- Whether a path can be followed at all. -/
def checked (path : String) : Except FileFault Unit :=
  if path.toList.contains '\x00' then .error .endInside
  else if Path.longest < path.utf8ByteSize then .error .nameTooLong
  else if path.isEmpty then .error .missing
  else .ok ()

/-- Where a path leads. Its last segment need not be there. -/
def resolve (disk : Disk) (path : String) : Except FileFault Target := do
  checked path
  follow disk (if Path.absolute path then .around else .inside []) (Path.segments path.toList)

/-- What a path leads to. -/
def contentAt (disk : Disk) (path : String) : Content :=
  match disk.resolve path with
  | .ok target => disk.content target
  | .error _ => .nothing

/-- Puts an entry at a place. -/
def put (place : Place) (entry : Option String) (disk : Disk) : Disk :=
  ⟨Keyed.put place entry disk.entries⟩

def read (disk : Disk) (path : String) : Except FileFault String := do
  let target ← disk.resolve path
  match disk.content target with
  | .file text => .ok text
  | .folder => .error .folder
  | .nothing => .error .missing

/-- Writes a file. A path that ends in a slash can only name a folder. -/
def write (disk : Disk) (path text : String) : Except FileFault Disk := do
  checked path
  if path.toList.getLast? == some '/' then .error .folder
  else
    let target ← disk.resolve path
    match disk.content target, target with
    | .folder, _ => .error .folder
    | _, .inside place => .ok (disk.put place (some text))
    | _, _ => .ok disk

/-- Creates a folder where nothing is yet. -/
def createFolder (disk : Disk) (path : String) : Except FileFault Disk := do
  let target ← disk.resolve path
  match disk.content target, target with
  | .nothing, .inside place => .ok (disk.put place none)
  | .nothing, _ => .ok disk
  | _, _ => .error .taken

def names (disk : Disk) (path : String) : Except FileFault (List String) := do
  let target ← disk.resolve path
  match disk.content target, target with
  | .folder, .inside place =>
    .ok (disk.entries.filterMap fun (entry, _) =>
      if entry.dropLast = place then entry.getLast? else none)
  | .folder, _ => .ok []
  | .file _, _ => .error .notFolder
  | .nothing, _ => .error .missing

/-- Takes a step that changes the files if it succeeds. -/
def changing (step : Disk → Except FileFault Disk) : StateM Disk (Except FileFault Unit) := do
  match step (← get) with
  | .ok disk =>
    set disk
    pure (.ok ())
  | .error fault => pure (.error fault)

/-- The file system of the files in memory. -/
def access : FileAccess (StateM Disk) where
  read path := do
    let disk ← get
    pure ((disk.read path).map String.toUTF8)
  write path text := changing fun disk => disk.write path text
  createFolder path := changing fun disk => disk.createFolder path
  names path := do
    let disk ← get
    pure (disk.names path)
  isFolder path := do
    let disk ← get
    match disk.contentAt path with
    | .folder => pure true
    | _ => pure false
  leads path := do
    let disk ← get
    match disk.contentAt path with
    | .nothing => pure false
    | _ => pure true

/-- Writes a file and creates the folders around it that are not there yet. -/
def withFile (disk : Disk) (path text : String) : Disk :=
  let step : StateM Disk Unit := do
    let _ ← access.createFolders (Path.enclosing path)
    let _ ← access.write path text
  (step.run disk).2

/-- The working folder with the files at some paths. -/
def ofFiles (files : List (String × String)) : Disk :=
  files.foldl (fun disk (path, text) => disk.withFile path text) {}

def files (disk : Disk) : List (String × String) :=
  disk.entries.filterMap fun (place, text) => text.map ("/".intercalate place, ·)

end Disk

end StoreSchema
