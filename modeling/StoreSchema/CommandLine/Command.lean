import StoreSchema.CommandLine.Options

/-! # Commands

The two things that can be asked for on a command line: to compile mappings, and to try a date
format on some values.
-/

namespace StoreSchema

namespace CommandLine

structure CompileRequest where
  /-- Paths of mapping files, or patterns for them. -/
  inputs : List String
  /-- The file with the preferences for everything. -/
  globalPolicy : Option String := none
  /-- The file with the overrides of fields. -/
  overrides : Option String := none
  root : Option String := none
  /-- Whether the name of the index goes before that of the root. -/
  indexInRoot : Bool := false
  refuseOverlap : Bool := false
  /-- The file to write; without one the result is printed. -/
  out : Option String := none
  deriving Repr, DecidableEq

structure DateRequest where
  format : String
  preferred : Option String := none
  preferEpoch : Bool := false
  values : List String := []
  deriving Repr, DecidableEq

inductive Command where
  | compile (request : CompileRequest)
  | date (request : DateRequest)
  deriving Repr, DecidableEq

namespace CompileRequest

inductive Setting where
  | input
  | globalPolicy
  | overrides
  | root
  | indexInRoot
  | refuseOverlap
  | out
  deriving DecidableEq

/-- How the options of a compilation are written. -/
def parameters : List (Parameter Setting) :=
  [{ key := .input, name := "input", letter := some 'i', takes := .many, required := true },
   { key := .globalPolicy, name := "global-option", takes := .one, mayBeEmpty := false },
   { key := .overrides, name := "map-option", takes := .one, mayBeEmpty := false },
   { key := .root, name := "root-type", takes := .one },
   { key := .indexInRoot, name := "prefix-with-index-name" },
   { key := .refuseOverlap, name := "fail-on-overlap" },
   { key := .out, name := "out", letter := some 'o', takes := .one, mayBeEmpty := false }]

/-- The compilation that words ask for. -/
def ofWords (words : List String) : Except Misuse CompileRequest := do
  let settings ← Settings.ofWords parameters words
  pure
    { inputs := settings.values .input
      globalPolicy := settings.value? .globalPolicy
      overrides := settings.value? .overrides
      root := settings.value? .root
      indexInRoot := settings.sets .indexInRoot
      refuseOverlap := settings.sets .refuseOverlap
      out := settings.value? .out }

end CompileRequest

namespace DateRequest

inductive Setting where
  | format
  | preferred
  | preferEpoch
  | value
  deriving DecidableEq

/-- How the options of a trial are written. -/
def parameters : List (Parameter Setting) :=
  [{ key := .format, name := "format", takes := .one, required := true },
   { key := .preferred, name := "prefer", takes := .one },
   { key := .preferEpoch, name := "epoch" },
   { key := .value, name := "value", takes := .many }]

/-- The trial that words ask for. -/
def ofWords (words : List String) : Except Misuse DateRequest := do
  let settings ← Settings.ofWords parameters words
  match settings.value? .format with
  | none => .error .optionMissing
  | some format =>
    pure
      { format
        preferred := settings.value? .preferred
        preferEpoch := settings.sets .preferEpoch
        values := settings.values .value }

end DateRequest

namespace Command

def names : List String := ["compile", "date", "help"]

def usage : String :=
  let lines (name : String) (options : List String) : List String :=
    name :: options.map ("  " ++ ·)
  "\n".intercalate
    (lines "compile" (CompileRequest.parameters.map Parameter.usage) ++
     lines "date" (DateRequest.parameters.map Parameter.usage) ++
     lines "help" ["[compile | date]"])

/-- The help that words ask for. Help is there for each command, and commands have none inside. -/
def helpFor : List String → Misuse
  | [] => .helpWanted
  | [name] => if names.contains name then .helpWanted else .unknownCommand
  | _ => .unknownCommand

def ofWords : List String → Except Misuse Command
  | [] => .error .nothingAsked
  | "compile" :: rest => (CompileRequest.ofWords rest).map .compile
  | "date" :: rest => (DateRequest.ofWords rest).map .date
  | "help" :: rest => .error (helpFor rest)
  | word :: rest =>
    match Word.ofString word, rest with
    | .separator, [] => .error .nothingAsked
    | .separator, next :: _ =>
      .error (if names.contains next then .unknownWord else .unknownCommand)
    | .named "help" none, _ => .error .helpWanted
    | .named "help" (some _), _ => .error .valueUnwanted
    | .letters ('h' :: _), _ => .error .helpWanted
    | .named _ _, _ | .letters _, _ => .error .unknownWord
    | .plain, _ => .error .unknownCommand

end Command

end CommandLine

end StoreSchema
