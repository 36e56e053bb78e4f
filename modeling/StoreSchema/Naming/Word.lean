import StoreSchema.Text.Blank
import StoreSchema.Text.CaseMapping
import StoreSchema.Text.Category
import StoreSchema.Text.Decimal

/-! # Words of a type name

A field name turns into the words of a type name: its runs of letters and numerals, each with a
capital first character and otherwise as it stands, so that the humps of the field name survive.
-/

namespace StoreSchema.Naming

/-- Whether a character separates words: it is neither letter nor numeral. -/
def isDelimiter (c : Char) : Bool :=
  !(Text.isLetter c || Text.isNumeral c)

def capitalized : List Char → List Char
  | [] => []
  | c :: rest => Text.toCapital c ++ rest

/-- The words of a text, capitalized and joined. -/
def pascalCase (text : String) : String :=
  String.ofList ((Text.runs isDelimiter text.toList).flatMap capitalized)

/-- The word of one segment of a path, which is never empty. -/
def typeWord (segment : String) : String :=
  let word := pascalCase segment
  if word.isEmpty then "Unnamed" else word

/-- The words of all segments of a path. -/
def joinedWords (path : List String) : String :=
  String.join (path.map typeWord)

def underscored (name : String) : String :=
  match name.toList with
  | c :: _ => if c.isDigit then "_" ++ name else name
  | [] => name

def numbered (name : String) (n : Nat) : String :=
  name ++ String.ofList (Text.digits n)

end StoreSchema.Naming
