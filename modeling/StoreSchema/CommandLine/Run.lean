import StoreSchema.CommandLine.Command
import StoreSchema.Files.Search
import StoreSchema.Types.Compile

/-! # Running commands

A command reads what it needs, and prints one document or writes it to a file. The first failure
ends it, before anything is printed or written.
-/

namespace StoreSchema

namespace CommandLine

/-- Why the files of a command cannot be told. -/
inductive InputFault where
  | pattern (fault : Glob.Fault)
  | unlisted (fault : Glob.Unlisted)
  | noMatch (input : String)

def InputFault.message : InputFault → String
  | .pattern fault => fault.message
  | .unlisted fault => fault.message
  | .noMatch input => "glob pattern matched no files: " ++ input

inductive Failure where
  | configUnread (path : String) (fault : FileFault)
  | config (path : String) (fault : Decoding.Error)
  | inputs (fault : InputFault)
  | sourceUnread (path : String) (fault : FileFault)
  | mapping (path : String) (fault : Schema.Error)
  | compilation (path : String) (fault : Compile.Fault)
  | folderNotCreated (path : String) (fault : FileFault)
  | unwritten (path : String) (fault : FileFault)
  | format (source : String) (fault : DateFormat.Fault)
  | unformatted (fault : DateFormat.ValueFault)

/-- What a failure says, from what the command was about to do down to the cause. -/
def Failure.chain : Failure → List String
  | .configUnread path fault => ["failed to read " ++ path, fault.message]
  | .config path fault =>
    ("invalid config file " ++ path) ::
      match fault.cause with
      | .ungrammatical => [fault.cause.message]
      | cause =>
        ["at JSON path " ++ Decoding.pathText fault.path ++ " → " ++ cause.message, cause.message]
  | .inputs fault => ["failed to resolve input file paths", fault.message]
  | .sourceUnread path fault => ["failed to read source file " ++ path, fault.message]
  | .mapping path fault =>
    ["invalid mapping in " ++ path,
     match fault with
     | .malformed _ .invalidText => Schema.Malformation.invalidText.message
     | fault => fault.message]
  | .compilation path fault =>
    ["failed to compile " ++ path, fault.message, fault.cause.message]
  | .folderNotCreated path fault => ["failed to create " ++ path, fault.message]
  | .unwritten path fault => ["failed to write " ++ path, fault.message]
  | .format source fault => ["invalid date format `" ++ source ++ "`", fault.message]
  | .unformatted fault => ["failed to format date", fault.message]

variable {m : Type → Type} [Monad m]

/-! ## Compiling -/

def readConfig (files : FileAccess m) (read : Document → Decoding.Result α) (path : String) :
    ExceptT Failure m α := do
  match ← files.read path with
  | .error fault => throw (.configUnread path fault)
  | .ok bytes =>
    match Decoding.ofBytes read bytes with
    | .ok value => pure value
    | .error fault => throw (.config path fault)

def configOf (files : FileAccess m) (request : CompileRequest) : ExceptT Failure m Config := do
  let global ← request.globalPolicy.mapM (readConfig files (GlobalPolicy.read .text))
  let fields ← request.overrides.mapM (readConfig files Overrides.read)
  let naming : Naming.Strategy := if request.refuseOverlap then { overlap := .refuse } else {}
  pure ⟨global.getD {}, fields.getD [], naming⟩

/-- The files that an input stands for. A path is taken as it is. -/
def pathsOf (files : FileAccess m) (input : String) : ExceptT Failure m (List String) :=
  if Glob.marks input then
    match Glob.ofText input with
    | .error fault => throw (.inputs (.pattern fault))
    | .ok glob => do
      match ← (glob.search files).run with
      | .error fault => throw (.inputs (.unlisted fault))
      | .ok [] => throw (.inputs (.noMatch input))
      | .ok paths => pure paths
  else pure [input]

def readMapping (files : FileAccess m) (path : String) : ExceptT Failure m Mapping := do
  match ← files.readText path with
  | .error fault => throw (.sourceUnread path fault)
  | .ok text =>
    match Mapping.ofText text with
    | .ok mapping => pure mapping
    | .error fault => throw (.mapping path fault)

/-- The name that a request gives to the root of a mapping. -/
def CompileRequest.rootFor (request : CompileRequest) (mapping : Mapping) : Option String :=
  match request.root, mapping.indexName with
  | some root, some index => some (if request.indexInRoot then index ++ "_" ++ root else root)
  | root, _ => root

def compileFile (files : FileAccess m) (request : CompileRequest) (config : Config)
    (path : String) : ExceptT Failure m Forest := do
  let mapping ← readMapping files path
  match Forest.ofMapping config (request.rootFor mapping) mapping with
  | .ok forest => pure forest
  | .error fault => throw (.compilation path fault)

/-- The document for the forests of all files: the one forest, or a list. -/
def forestsJson : List Forest → Json
  | [forest] => forest.toJson
  | forests => .arr (forests.map Forest.toJson)

def writeFile (files : FileAccess m) (path text : String) : ExceptT Failure m Unit := do
  if let some parent := Path.parent? path then
    if let .error fault ← files.createFolders (Path.enclosing path) then
      throw (.folderNotCreated parent fault)
  if let .error fault ← files.write path text then
    throw (.unwritten path fault)

/-- Compiles mapping files. Returns what is printed. -/
def runCompile (files : FileAccess m) (request : CompileRequest) :
    ExceptT Failure m (Option String) := do
  let config ← configOf files request
  let paths ← request.inputs.flatMapM (pathsOf files)
  let forests ← paths.mapM (compileFile files request config)
  let text := (forestsJson forests).indented
  match request.out with
  | none => pure (some text)
  | some path => do
    writeFile files path text
    pure none

/-! ## Trying a date format -/

/-- What becomes of a raw value: the moment it denotes and how that is written again, or why it
    denotes none. -/
def trial (format : DateFormat) (raw : String) : Except Failure Json :=
  match format.ofRaw raw with
  | .error fault => .ok (.obj [("raw", .str raw), ("error", .str fault.message)])
  | .ok moment =>
    match format.toJson moment with
    | .error fault => .error (.unformatted fault)
    | .ok value =>
      .ok (.obj [("raw", .str raw), ("parsed", .str moment.text), ("marshaled", value)])

/-- The report on a date format and some values. -/
def dateReport (request : DateRequest) : Except Failure Json :=
  match DateFormat.compile request.format request.preferred request.preferEpoch with
  | .error fault => .error (.format request.format fault)
  | .ok format => do
    let values ← request.values.mapM (trial format)
    pure (.obj
      [("format", .str format.source), ("layouts", Json.ofStrings format.layoutTexts),
       ("epoch", Json.ofOption (fun unit => .str unit.name) format.epoch),
       ("marshal_layout", Json.ofOption (fun layout => .str layout.canonical) format.marshalLayout),
       ("prefer_epoch", .bool format.prefersEpoch), ("values", .arr values)])

/-! ## Any command -/

def Command.run (files : FileAccess m) : Command → ExceptT Failure m (Option String)
  | .compile request => runCompile files request
  | .date request =>
    match dateReport request with
    | .ok report => pure (some report.indented)
    | .error failure => throw failure

end CommandLine

end StoreSchema
