import StoreSchema.Json.Basic
import StoreSchema.Number.Shortest

/-! # Writing JSON

The compact form has no blanks and is what messages quote; the indented form is for people.
Strings escape the quote, the backslash and the control characters, and nothing else.
-/

namespace StoreSchema.Json

/-- One character of a string, escaped where the format demands it. -/
def escape (c : Char) : List Char :=
  if c == '"' then ['\\', '"']
  else if c == '\\' then ['\\', '\\']
  else if c == '\x08' then ['\\', 'b']
  else if c == '\x0c' then ['\\', 'f']
  else if c == '\n' then ['\\', 'n']
  else if c == '\r' then ['\\', 'r']
  else if c == '\t' then ['\\', 't']
  else if c.toNat < 0x20 then
    ['\\', 'u', '0', '0', Text.hexChar (c.toNat / 16), Text.hexChar (c.toNat % 16)]
  else [c]

/-- A string with its quotes. -/
def stringChars (text : String) : List Char :=
  '"' :: text.toList.flatMap escape ++ ['"']

mutual

/-- The compact form of a value. -/
def chars : Json → List Char
  | .null => ['n', 'u', 'l', 'l']
  | .bool true => ['t', 'r', 'u', 'e']
  | .bool false => ['f', 'a', 'l', 's', 'e']
  | .int value => Text.ofInt value
  | .float value => (value.text?).getD ['n', 'u', 'l', 'l']
  | .str value => stringChars value
  | .arr items => '[' :: itemsChars items ++ [']']
  | .obj members => '{' :: membersChars members ++ ['}']

def itemsChars : List Json → List Char
  | [] => []
  | [item] => item.chars
  | item :: next :: rest => item.chars ++ ',' :: itemsChars (next :: rest)

def membersChars : List (String × Json) → List Char
  | [] => []
  | [(name, value)] => stringChars name ++ ':' :: value.chars
  | (name, value) :: next :: rest =>
    stringChars name ++ ':' :: value.chars ++ ',' :: membersChars (next :: rest)

end

def text (value : Json) : String :=
  String.ofList value.chars

/-- A line break and two blanks per level. -/
def lineBreak (level : Nat) : List Char :=
  '\n' :: List.replicate (2 * level) ' '

mutual

/-- The indented form of a value that stands at a level. -/
def indentedChars (level : Nat) : Json → List Char
  | .arr (item :: rest) =>
    '[' :: indentedItems (level + 1) (item :: rest) ++ lineBreak level ++ [']']
  | .obj (member :: rest) =>
    '{' :: indentedMembers (level + 1) (member :: rest) ++ lineBreak level ++ ['}']
  | value => value.chars

/-- The items of an array, each on a line of its own. -/
def indentedItems (level : Nat) : List Json → List Char
  | [] => []
  | [item] => lineBreak level ++ item.indentedChars level
  | item :: next :: rest =>
    lineBreak level ++ item.indentedChars level ++ ',' :: indentedItems level (next :: rest)

/-- The members of an object, each on a line of its own. -/
def indentedMembers (level : Nat) : List (String × Json) → List Char
  | [] => []
  | [(name, value)] =>
    lineBreak level ++ stringChars name ++ [':', ' '] ++ value.indentedChars level
  | (name, value) :: next :: rest =>
    lineBreak level ++ stringChars name ++ [':', ' '] ++ value.indentedChars level ++
      ',' :: indentedMembers level (next :: rest)

end

def indented (value : Json) : String :=
  String.ofList (value.indentedChars 0)

end StoreSchema.Json
