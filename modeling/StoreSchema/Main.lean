import StoreSchema.CommandLine.Run

/-! # The program

The command line over the files of the operating system. Results are printed, what went wrong is
said on the error output, and the exit code tells which it was.
-/

namespace StoreSchema

namespace CommandLine

/-- The refusal that an error of the operating system stands for. Some operations report its code
    with a minus. -/
def refusal : IO.Error → FileFault
  | .noFileOrDirectory _ _ _ => .missing
  | .alreadyExists _ _ _ => .taken
  | .inappropriateType _ code _ => if code = 21 then .folder else .notFolder
  | .invalidArgument _ 36 _ | .invalidArgument _ 0xffffffdc _ => .nameTooLong
  | e => .other (toString e)

/-- The outcome of an operation, with its refusal as a value. -/
def attempt (operation : IO α) : IO (Except FileFault α) := do
  try
    let value ← operation
    pure (.ok value)
  catch e => pure (.error (refusal e))

/-- The files of the operating system. -/
def systemFiles : FileAccess IO where
  read path := attempt (IO.FS.readBinFile path)
  write path text := attempt (IO.FS.writeFile path text)
  createFolder path := attempt (IO.FS.createDir path)
  names path := attempt do
    let folder ← IO.FS.realPath path
    let entries ← folder.readDir
    pure (entries.toList.map (·.fileName))
  isFolder path := do
    match ← attempt (IO.FS.realPath path) with
    | .ok place => place.isDir
    | .error _ => pure false
  leads path := do
    match ← attempt (IO.FS.realPath path) with
    | .ok place => place.pathExists
    | .error _ => pure false

/-- Says how command lines are written, and what was wrong with this one. -/
def explain (misuse : Misuse) : IO UInt32 := do
  if misuse = .helpWanted then
    IO.println Command.usage
    pure 0
  else
    IO.eprintln ("error: " ++ misuse.message ++ "\n\n" ++ Command.usage)
    pure 2

/-- Carries out a command line. -/
def carryOut (words : List String) : IO UInt32 := do
  match Command.ofWords words with
  | .error misuse => explain misuse
  | .ok command =>
    match ← (command.run systemFiles).run with
    | .ok printed =>
      if let some text := printed then IO.println text
      pure 0
    | .error failure =>
      IO.eprintln ("error: " ++ ": ".intercalate failure.chain)
      pure 1

end CommandLine

end StoreSchema

/-- Runs the program on its arguments. -/
def main (words : List String) : IO UInt32 :=
  StoreSchema.CommandLine.carryOut words
