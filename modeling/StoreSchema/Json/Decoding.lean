import StoreSchema.Json.Reader
import StoreSchema.Json.Printer
import StoreSchema.Text.Quoted

/-! # Reading typed values out of documents

A typed reader follows the document from front to back and fails at the first fault it meets. The
error says what is wrong and where; the place is a path from the root of the document.
-/

namespace StoreSchema

/-- A message about a raw value that has none of the shapes its type accepts. -/
structure ShapeError where
  raw : String
  accepted : List String
  typeName : String
  deriving Repr, DecidableEq

def ShapeError.message (e : ShapeError) : String :=
  "invalid value for " ++ e.typeName ++ ": expected one of " ++ Text.quotedList e.accepted ++
    ", got `" ++ e.raw ++ "`"

namespace Decoding

/-- How a document reaches its reader. In a text that is read on as needed, a fault of the grammar
    ends the reading; a value has no such faults, and where the text would show one its reader
    says instead what it expected. -/
inductive Delivery where
  | text
  | value
  deriving Repr, DecidableEq

/-- One step from a container to a part of it. -/
inductive Step where
  | key (name : String)
  | index (position : Nat)
  /-- The content of a tagged choice. -/
  | choice (name : String)
  /-- A member whose key is no plain text to its reader. -/
  | unnamed
  deriving Repr, DecidableEq

inductive Found where
  | null
  | bool (value : Bool)
  | int (value : Int)
  | float (value : Binary64)
  | str (value : String)
  | sequence
  | map
  /-- A choice written without content. -/
  | bareChoice
  deriving Repr, DecidableEq

inductive Cause where
  /-- The text breaks the grammar. -/
  | ungrammatical
  | wrongType (found : Found) (expected : String)
  | wrongValue (found : Found) (expected : String)
  | wrongLength (length : Nat) (expected : String)
  | unknownChoice (name : String) (known : List String)
  | repeatedField (name : String)
  /-- A value that its type refuses, in the words of that type. -/
  | refused (reason : String)
  deriving Repr, DecidableEq

/-- A fault and the place where it was met. -/
structure Error where
  path : List Step
  cause : Cause
  deriving Repr, DecidableEq

abbrev Result (α : Type) := Except Error α

/-- A fault at the place where the reader stands. -/
def fail (cause : Cause) : Result α :=
  .error ⟨[], cause⟩

/-- Reading of a part, with its place seen from the container. -/
def within (step : Step) : Result α → Result α
  | .ok value => .ok value
  | .error e => .error ⟨step :: e.path, e.cause⟩

/-- How a message names what was found. -/
def Found.text : Found → String
  | .null => "null"
  | .bool true => "boolean `true`"
  | .bool false => "boolean `false`"
  | .int value => "integer `" ++ String.ofList (Text.ofInt value) ++ "`"
  | .float value => "floating point `" ++ (Json.float value).text ++ "`"
  | .str value => "string " ++ Text.quoted value
  | .sequence => "sequence"
  | .map => "map"
  | .bareChoice => "unit variant"

/-- How a message lists the names that were possible. -/
def listChoices : List String → String
  | [] => "there are no variants"
  | [name] => "expected `" ++ name ++ "`"
  | [first, second] => "expected `" ++ first ++ "` or `" ++ second ++ "`"
  | names => "expected one of " ++ ", ".intercalate (names.map fun name => "`" ++ name ++ "`")

def Cause.message : Cause → String
  | .ungrammatical => "invalid JSON"
  | .wrongType found expected => "invalid type: " ++ found.text ++ ", expected " ++ expected
  | .wrongValue found expected => "invalid value: " ++ found.text ++ ", expected " ++ expected
  | .wrongLength length expected =>
    "invalid length " ++ String.ofList (Text.digits length) ++ ", expected " ++ expected
  | .unknownChoice name known => "unknown variant `" ++ name ++ "`, " ++ listChoices known
  | .repeatedField name => "duplicate field `" ++ name ++ "`"
  | .refused reason => reason

def Step.text : Step → String
  | .key name | .choice name => name
  | .index position => "[" ++ String.ofList (Text.digits position) ++ "]"
  | .unnamed => "?"

/-- The text of a path behind a step. -/
def pathTail : List Step → String
  | [] => ""
  | .index position :: rest => (Step.index position).text ++ pathTail rest
  | step :: rest => "." ++ step.text ++ pathTail rest

def pathText : List Step → String
  | [] => "."
  | step :: rest => step.text ++ pathTail rest

/-- What a value is to a reader that expected another. -/
def Found.ofJson : Json → Found
  | .null => .null
  | .bool value => .bool value
  | .int value => .int value
  | .float value => .float value
  | .str value => .str value
  | .arr _ => .sequence
  | .obj _ => .map

/-! ## Readers of plain values -/

/-- The fault of meeting a document where something else is expected. -/
def mismatch (document : Document) (expected : String) : Cause :=
  match document with
  | .scalar (some value) => .wrongType (.ofJson value) expected
  | .arr _ _ => .wrongType .sequence expected
  | .obj _ _ => .wrongType .map expected
  | _ => .ungrammatical

/-- The value that a document writes out. -/
def anyValue (document : Document) : Result Json :=
  match document.value? with
  | some value => .ok value
  | none => fail .ungrammatical

/-- Skips a document; it only has to follow the grammar. -/
def skip (document : Document) : Result Unit :=
  if document.complete then .ok () else fail .ungrammatical

def string (document : Document) : Result String :=
  match document with
  | .scalar (some (.str value)) => .ok value
  | other => fail (mismatch other "a string")

def nothing (document : Document) : Result Unit :=
  match document with
  | .scalar (some .null) => .ok ()
  | other => fail (mismatch other "unit")

/-- The items of a list one by one, each at its position. -/
def itemsFrom (read : Document → Result α) (position : Nat) : List Document → Result (List α)
  | [] => .ok []
  | item :: rest => do
    let value ← within (.index position) (read item)
    let values ← itemsFrom read (position + 1) rest
    pure (value :: values)

def list (read : Document → Result α) (document : Document) : Result (List α) :=
  match document with
  | .arr items ending => do
    let values ← itemsFrom read 0 items
    if ending = .closed then pure values else fail .ungrammatical
  | other => fail (mismatch other "a sequence")

/-! ## Readers of choices -/

/-- How one option is written: as a bare name, or as a name with content. -/
inductive Writing (α : Type) where
  | bare (value : α)
  | holding (read : Document → Result α)

/-- An option from the content under its name; a bare one has `null` there. -/
def Writing.read (writing : Writing α) (content : Document) : Result α :=
  match writing with
  | .bare value => do
    nothing content
    pure value
  | .holding read => read content

/-- A choice among named options: a name alone, or an object with the name as its one key. -/
def choice (delivery : Delivery) (options : List (String × Writing α)) (document : Document) :
    Result α :=
  match document with
  | .scalar (some (.str name)) =>
    match options.lookup name with
    | none => fail (.unknownChoice name (options.map (·.1)))
    | some (.bare value) => .ok value
    | some (.holding _) =>
      within (.choice name) (fail (.wrongType .bareChoice "newtype variant"))
  | .obj members ending =>
    if delivery = .value ∧ members.length ≠ 1 then
      fail (.wrongValue .map "map with a single key")
    else
      match members with
      | (some name, content) :: more =>
        match options.lookup name with
        | none => fail (.unknownChoice name (options.map (·.1)))
        | some writing => do
          let value ← within (.choice name) (writing.read content)
          if more.isEmpty && ending = .closed then pure value else fail .ungrammatical
      | _ => fail .ungrammatical
  | other =>
    match delivery with
    | .text => fail .ungrammatical
    | .value => fail (mismatch other "string or map")

/-! ## Readers of records -/

/-- A field of a record: its name and how its value changes the record. -/
structure Field (σ : Type) where
  name : String
  read : Document → σ → Result σ

/-- A field whose value is read by itself and then stored. -/
def field (name : String) (read : Document → Result α) (store : α → σ → σ) : Field σ :=
  ⟨name, fun document record => do
    let value ← read document
    pure (store value record)⟩

/-- The members of an object, in the order of the text. A key of no field is left to `other`, the
    key of a field must not come twice. -/
def membersWith (fields : List (Field σ)) (other : String → Document → σ → Result σ)
    (seen : List String) (record : σ) : List (Option String × Document) → Result σ
  | [] => .ok record
  | (none, _) :: _ => fail .ungrammatical
  | (some name, content) :: rest =>
    match fields.find? (·.name == name) with
    | none => do
      let record ← within (.key name) (other name content record)
      membersWith fields other seen record rest
    | some field =>
      if seen.contains name then fail (.repeatedField name)
      else do
        let record ← within (.key name) (field.read content record)
        membersWith fields other (name :: seen) record rest

def members (fields : List (Field σ)) (start : σ) (entries : List (Option String × Document)) :
    Result σ :=
  membersWith fields (fun _ content record => (skip content).map fun _ => record) [] start entries

/-- A record that shares its object with other fields. It is read from what those left over, once
    the whole object is known, so its faults are placed at the object. -/
def shared (fields : List (Field σ)) (start : σ) (entries : List (String × Json)) : Result σ :=
  match members fields start (Document.ofMembers entries) with
  | .ok record => .ok record
  | .error e => fail e.cause

/-- The entries of a table, in the order of the text. Each key is read before its value. -/
def entriesWith (step : String → Step) (readKey : String → Result κ) (read : Document → Result α)
    (add : κ → α → σ → σ) (table : σ) : List (Option String × Document) → Result σ
  | [] => .ok table
  | (none, _) :: _ => fail .ungrammatical
  | (some name, content) :: rest => do
    let key ← within (step name) (readKey name)
    let value ← within (step name) (read content)
    entriesWith step readKey read add (add key value table) rest

/-- The fields of a record written as a list, in the order of their declaration. Returns what is
    left over of the list. -/
def positions (position : Nat) (record : σ) :
    List (Field σ) → List Document → Result (σ × List Document)
  | field :: fields, item :: items => do
    let record ← within (.index position) (field.read item record)
    positions (position + 1) record fields items
  | _, items => .ok (record, items)

/-- A record: an object, or a list of its fields in the order of their declaration. Fields that
    are missing keep the value they have in `start`. -/
def record (delivery : Delivery) (title : String) (fields : List (Field σ)) (start : σ)
    (document : Document) : Result σ :=
  match document with
  | .obj entries ending => do
    let record ← members fields start entries
    if ending = .closed then pure record else fail .ungrammatical
  | .arr items ending => do
    let (record, left) ← positions 0 start fields items
    match left, delivery with
    | [], _ => if ending = .closed then pure record else fail .ungrammatical
    | _ :: _, .value => fail (.wrongLength items.length "fewer elements in array")
    | _ :: _, .text => fail .ungrammatical
  | other => fail (mismatch other title)

/-! ## Texts -/

/-- Reads a row of signs that holds one document and nothing behind it. -/
def ofSigns (read : Document → Result α) (text : List Text.Sign) : Result α :=
  match Document.ofSigns text with
  | (document, ended) => do
    let value ← read document
    if ended then pure value else fail .ungrammatical

/-- Reads a text that holds one document and nothing behind it. -/
def ofText (read : Document → Result α) (text : String) : Result α :=
  ofSigns read (Text.signs text)

/-- Reads bytes that hold one document and nothing behind it. -/
def ofBytes (read : Document → Result α) (bytes : ByteArray) : Result α :=
  ofSigns read (Text.signsOf bytes)

end Decoding

end StoreSchema
