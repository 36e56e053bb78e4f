import StoreSchema.Json.Basic
import StoreSchema.Keyed

/-! # JSON documents as far as they can be read

A reader that works its way through a text meets the first fault of the text only after it has
seen what stands before it. A document therefore records how far the text could be read, so that a
typed reader can say which came first: a value of the wrong type, or the end of the grammar.
-/

namespace StoreSchema

/-- How a container ends. -/
inductive Ending where
  | closed
  /-- The text breaks the grammar or ends before the closing bracket. -/
  | cut
  /-- It is closed, but nested too deeply for its parts to be read. -/
  | buried
  deriving Repr, DecidableEq

/-- A JSON document. Repeated keys are kept, and containers say how they end. -/
inductive Document where
  /-- A value without parts. It follows the grammar, but may denote nothing: a number beyond the
      doubles, or a string with half a surrogate pair or a stray byte in it. -/
  | scalar (value : Option Json)
  | arr (items : List Document) (ending : Ending)
  /-- An object; a key may denote no text as a string may. -/
  | obj (members : List (Option String × Document)) (ending : Ending)
  /-- The place where the text breaks the grammar or ends. -/
  | cut

namespace Document

mutual

/-- Whether a document follows the grammar to its end. -/
def complete : Document → Bool
  | .scalar _ => true
  | .arr items ending => itemsComplete items && ending ≠ .cut
  | .obj members ending => membersComplete members && ending ≠ .cut
  | .cut => false

def itemsComplete : List Document → Bool
  | [] => true
  | item :: rest => item.complete && itemsComplete rest

def membersComplete : List (Option String × Document) → Bool
  | [] => true
  | (_, value) :: rest => value.complete && membersComplete rest

end

/-- The number of containers that may stand inside one another. -/
def nestingLimit : Nat := 127

mutual

/-- The document with containers only down to a number of levels. A deeper one keeps no parts; if it
    follows the grammar to its end, it is buried. -/
def limited (levels : Nat) : Document → Document
  | .arr items ending =>
    match levels with
    | 0 => .arr [] (if complete (.arr items ending) then .buried else .cut)
    | inner + 1 => .arr (limitedItems inner items) ending
  | .obj members ending =>
    match levels with
    | 0 => .obj [] (if complete (.obj members ending) then .buried else .cut)
    | inner + 1 => .obj (limitedMembers inner members) ending
  | other => other

def limitedItems (levels : Nat) : List Document → List Document
  | [] => []
  | item :: rest => item.limited levels :: limitedItems levels rest

def limitedMembers (levels : Nat) :
    List (Option String × Document) → List (Option String × Document)
  | [] => []
  | (key, value) :: rest => (key, value.limited levels) :: limitedMembers levels rest

end

mutual

/-- The value that a document denotes. A repeated key keeps its first place and its last value. -/
def value? : Document → Option Json
  | .scalar value => value
  | .arr items ending =>
    if ending = .closed then (itemValues? items).map .arr else none
  | .obj members ending =>
    if ending = .closed then (memberValues? [] members).map .obj else none
  | .cut => none

def itemValues? : List Document → Option (List Json)
  | [] => some []
  | item :: rest => do
    let value ← item.value?
    let values ← itemValues? rest
    pure (value :: values)

/-- The members that an object denotes, put behind the members before them. -/
def memberValues? (before : List (String × Json)) :
    List (Option String × Document) → Option (List (String × Json))
  | [] => some before
  | (key, document) :: rest => do
    let key ← key
    let value ← document.value?
    memberValues? (Keyed.put key value before) rest

end

mutual

/-- The document that writes out a value. -/
def ofJson : Json → Document
  | .arr items => .arr (ofItems items) .closed
  | .obj members => .obj (ofMembers members) .closed
  | value => .scalar (some value)

def ofItems : List Json → List Document
  | [] => []
  | item :: rest => ofJson item :: ofItems rest

def ofMembers : List (String × Json) → List (Option String × Document)
  | [] => []
  | (key, value) :: rest => (some key, ofJson value) :: ofMembers rest

end

end Document

end StoreSchema
