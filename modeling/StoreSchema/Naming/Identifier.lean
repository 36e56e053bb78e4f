import StoreSchema.Naming.Word
import StoreSchema.Text.Alphabetic
import StoreSchema.Text.LetterCase

/-! # Identifiers of members

A member's identifier is its name in snake case, with the escapes that make it an identifier, and
with a number where an earlier member of the record has it already.
-/

namespace StoreSchema.Naming

/-- The case that the letters before a place settled. -/
inductive Casing where
  | none
  | small
  | capital
  deriving Repr, DecidableEq

/-- The case after a character; only letters with case change it. -/
def Casing.next (before : Casing) (c : Char) : Casing :=
  if Text.isSmall c then .small else if Text.isCapital c then .capital else before

/-- The words of a run of letters and numerals. A word ends between a small and a capital letter,
    and before the last of several capitals if a small letter follows it. -/
def humps (casing : Casing) (word : List Char) : List Char → List (List Char)
  | [] => []
  | [c] => [word ++ [c]]
  | c :: d :: rest =>
    if casing.next c = .small && Text.isCapital d then
      (word ++ [c]) :: humps .none [] (d :: rest)
    else if casing = .capital && Text.isCapital c && Text.isSmall d then
      word :: humps .none [c] (d :: rest)
    else humps (casing.next c) (word ++ [c]) (d :: rest)

/-- A word in small letters; a sigma at its end takes the final form. -/
def smallWord : List Char → List Char
  | [] => []
  | ['Σ'] => ['ς']
  | c :: rest => Text.toSmall c ++ smallWord rest

/-- The words of a text in small letters, joined by underscores. -/
def snakeCase (text : String) : String :=
  let words := (Text.runs (!Text.isAlphanumeric ·) text.toList).flatMap (humps .none [])
  "_".intercalate (words.map fun word => String.ofList (smallWord word))

/-- The words that cannot stand as identifiers and are escaped. -/
def keywords : List String :=
  ["as", "async", "await", "box", "break", "const", "continue", "dyn", "else", "enum", "extern",
   "false", "fn", "for", "gen", "if", "impl", "in", "let", "loop", "match", "mod", "move", "mut",
   "pub", "ref", "return", "static", "struct", "trait", "true", "try", "type", "unsafe", "use",
   "where", "while", "yield"]

/-- An identifier from a text in snake case. -/
def escaped (text : String) : String :=
  let ident := if text.isEmpty then "field" else underscored text
  if keywords.contains ident then "r#" ++ ident else ident

/-- The identifier of a member, before others are looked at. -/
def memberIdent (name : String) : String :=
  escaped (snakeCase name)

/-- The identifier of a member beside those of the members before it: the first free one of its
    own and its own with a number behind it. -/
def uniqueIdent (taken : List String) (name : String) : String :=
  let base := memberIdent name
  if taken.contains base then
    match (List.range' 1 (taken.length + 1)).findSome? fun n =>
      if taken.contains (numbered (base ++ "_") n) then none else some (numbered (base ++ "_") n)
    with
    | some ident => ident
    | none => base
  else base

/-- The identifiers of the members of a record. -/
def uniqueIdents (names : List String) : List String :=
  names.foldl (fun taken name => taken ++ [uniqueIdent taken name]) []

end StoreSchema.Naming
