/-! # Options of a command

Options are written `--name value`, `--name=value`, `-n value`, `-nvalue` or `-n=value`. The words
of a command are read from left to right, and the first that does not fit decides what is wrong.
-/

namespace StoreSchema

namespace CommandLine

/-- Why words make no command, or ask for help instead. -/
inductive Misuse where
  | helpWanted
  | nothingAsked
  | unknownCommand
  | unknownWord
  /-- An option that takes a value has none, or an empty one where that means nothing. -/
  | valueMissing
  /-- An option that takes no value has one. -/
  | valueUnwanted
  /-- An option that may come once comes again. -/
  | optionRepeated
  | optionMissing
  deriving Repr, DecidableEq

def Misuse.message : Misuse → String
  | .helpWanted => "help is wanted"
  | .nothingAsked => "a command is missing"
  | .unknownCommand => "there is no such command"
  | .unknownWord => "an argument is not expected"
  | .valueMissing => "an option has no value"
  | .valueUnwanted => "an option takes no value"
  | .optionRepeated => "an option cannot be repeated"
  | .optionMissing => "a required option is missing"

inductive Takes where
  | none
  | one
  /-- One or more, and the option may be repeated. -/
  | many
  deriving Repr, DecidableEq

structure Parameter (κ : Type) where
  key : κ
  name : String
  letter : Option Char := none
  takes : Takes := .none
  required : Bool := false
  mayBeEmpty : Bool := true

/-- How an option is written, as help shows it. -/
def Parameter.usage {κ : Type} (parameter : Parameter κ) : String :=
  let letter := parameter.letter.elim "" fun c => "-" ++ c.toString ++ ", "
  let value := match parameter.takes with
    | .none => ""
    | .one => " <VALUE>"
    | .many => " <VALUE>..."
  letter ++ "--" ++ parameter.name ++ value

/-- The options that words set, with the values of each. -/
abbrev Settings (κ : Type) := List (κ × List String)

namespace Settings

variable {κ : Type} [DecidableEq κ]

def sets (settings : Settings κ) (key : κ) : Bool :=
  settings.any (·.1 = key)

/-- All values of an option, in the order of the words. -/
def values (settings : Settings κ) (key : κ) : List String :=
  (settings.filter (·.1 = key)).flatMap (·.2)

/-- The value of an option that takes one. -/
def value? (settings : Settings κ) (key : κ) : Option String :=
  (settings.values key).head?

end Settings

/-! ## Words -/

inductive Word where
  /-- The word `--`. -/
  | separator
  | named (name : String) (value : Option String)
  | letters (letters : List Char)
  | plain
  deriving Repr, DecidableEq

/-- A text before its first equals sign, and the text behind the sign. -/
def splitEquals : List Char → List Char × Option (List Char)
  | [] => ([], none)
  | '=' :: rest => ([], some rest)
  | c :: rest =>
    match splitEquals rest with
    | (before, behind) => (c :: before, behind)

/-- What a word looks like. A lone dash is a plain word. -/
def Word.ofString (word : String) : Word :=
  match word.toList with
  | ['-', '-'] => .separator
  | '-' :: '-' :: rest =>
    match splitEquals rest with
    | (name, value) => .named (String.ofList name) (value.map String.ofList)
  | ['-'] => .plain
  | '-' :: rest => .letters rest
  | _ => .plain

/-! ## Reading -/

/-- What the words so far say. -/
structure Reading (κ : Type) where
  settings : Settings κ := []
  /-- The option that was met last, and its values so far. -/
  current : Option (Parameter κ × List String) := none

namespace Reading

variable {κ : Type} [DecidableEq κ]

/-- Sets an option. -/
def set (reading : Reading κ) (parameter : Parameter κ) (values : List String) :
    Except Misuse (Reading κ) :=
  if parameter.takes ≠ .many ∧ reading.settings.sets parameter.key then .error .optionRepeated
  else if !parameter.mayBeEmpty && values.contains "" then .error .valueMissing
  else .ok ⟨reading.settings ++ [(parameter.key, values)], none⟩

/-- Sets the option that was met last, since no more values follow. -/
def settle (reading : Reading κ) : Except Misuse (Reading κ) :=
  match reading.current with
  | none => .ok reading
  | some (_, []) => .error .valueMissing
  | some (parameter, values) => ({ reading with current := none }).set parameter values

/-- An option without a value attached. -/
def meet (reading : Reading κ) (parameter : Parameter κ) : Except Misuse (Reading κ) := do
  let reading ← reading.settle
  match parameter.takes with
  | .none => reading.set parameter []
  | _ => pure { reading with current := some (parameter, []) }

/-- An option with its value attached. -/
def meetWith (reading : Reading κ) (parameter : Parameter κ) (value : String) :
    Except Misuse (Reading κ) := do
  let reading ← reading.settle
  reading.set parameter [value]

def help (reading : Reading κ) : Except Misuse (Reading κ) := do
  let _ ← reading.settle
  .error .helpWanted

/-- A plain word: one more value of the option that was met last. -/
def plain (reading : Reading κ) (word : String) : Except Misuse (Reading κ) :=
  match reading.current with
  | some (parameter, values) =>
    if parameter.takes = .many ∨ values = [] then
      .ok { reading with current := some (parameter, values ++ [word]) }
    else .error .unknownWord
  | none => .error .unknownWord

/-- A word that names an option. -/
def named (parameters : List (Parameter κ)) (reading : Reading κ) (name : String)
    (value : Option String) : Except Misuse (Reading κ) :=
  match parameters.find? (·.name = name), value with
  | some parameter, none => reading.meet parameter
  | some parameter, some value =>
    if parameter.takes = .none then .error .valueUnwanted else reading.meetWith parameter value
  | none, value =>
    if name ≠ "help" then .error .unknownWord
    else if value.isSome then .error .valueUnwanted
    else reading.help

/-- A word of letters. Letters of options without values may stand together; what follows the
    letter of another option is its value. -/
def letters (parameters : List (Parameter κ)) (reading : Reading κ) :
    List Char → Except Misuse (Reading κ)
  | [] => .ok reading
  | c :: rest =>
    match parameters.find? (·.letter = some c) with
    | none => if c = 'h' then reading.help else .error .unknownWord
    | some parameter =>
      match parameter.takes, rest with
      | .none, rest => do
        let reading ← reading.meet parameter
        reading.letters parameters rest
      | _, [] => reading.meet parameter
      | _, '=' :: value => reading.meetWith parameter (String.ofList value)
      | _, value => reading.meetWith parameter (String.ofList value)

def finish (parameters : List (Parameter κ)) (reading : Reading κ) :
    Except Misuse (Settings κ) := do
  let reading ← reading.settle
  if parameters.all fun p => !p.required || reading.settings.sets p.key then pure reading.settings
  else .error .optionMissing

/-- Reads the words of a command. Behind `--` no options stand, and commands take nothing else. -/
def words (parameters : List (Parameter κ)) (reading : Reading κ) :
    List String → Except Misuse (Settings κ)
  | [] => reading.finish parameters
  | word :: rest =>
    match Word.ofString word with
    | .separator => if rest.isEmpty then reading.finish parameters else .error .unknownWord
    | .named name value => do
      let reading ← reading.named parameters name value
      reading.words parameters rest
    | .letters letters => do
      let reading ← reading.letters parameters letters
      reading.words parameters rest
    | .plain => do
      let reading ← reading.plain word
      reading.words parameters rest

end Reading

/-- The settings that the words of a command make. -/
def Settings.ofWords {κ : Type} [DecidableEq κ] (parameters : List (Parameter κ))
    (words : List String) : Except Misuse (Settings κ) :=
  ({} : Reading κ).words parameters words

end CommandLine

end StoreSchema
