import StoreSchema.Text.Blank

/-! # Date layouts

A layout is a row of items, each of which reads and writes one part of a date. Its canonical text
identifies it: layouts with the same text are the same layout.
-/

namespace StoreSchema.Date

/-- The number of digits of a fraction that has a fixed one. -/
inductive Precision where
  | millis
  | micros
  | nanos
  deriving Repr, DecidableEq

def Precision.digits : Precision → Nat
  | .millis => 3
  | .micros => 6
  | .nanos => 9

inductive NumberPart where
  | year
  | yearOfCentury
  | month
  | day
  | ordinal
  | hour
  | halfDayHour
  | minute
  | second
  deriving Repr, DecidableEq

inductive Item where
  | literal (text : List Char)
  /-- White space; it matches any. -/
  | space (text : List Char)
  /-- A number, filled up with zeros or as short as it is. -/
  | number (part : NumberPart) (padded : Bool)
  | shortMonth
  | longMonth
  | shortWeekday
  | longWeekday
  | halfDay
  /-- A fraction with its point, as long as needed. -/
  | fraction
  | pointed (precision : Precision)
  /-- The digits of a fraction, without its point. -/
  | bare (precision : Precision)
  | offset
  deriving Repr, DecidableEq

structure Layout where
  items : List Item
  deriving Repr, DecidableEq

/-- The letter of a number in canonical texts. -/
def NumberPart.letter : NumberPart → Char
  | .year => 'Y'
  | .yearOfCentury => 'y'
  | .month => 'm'
  | .day => 'd'
  | .ordinal => 'j'
  | .hour => 'H'
  | .halfDayHour => 'I'
  | .minute => 'M'
  | .second => 'S'

/-- The canonical text of an item. A percent sign begins every item that is no literal, and is
    doubled in those that are. -/
def Item.canonical : Item → List Char
  | .literal text | .space text => text.flatMap fun c => if c = '%' then ['%', '%'] else [c]
  | .number part true => ['%', part.letter]
  | .number part false => ['%', '-', part.letter]
  | .shortMonth => ['%', 'b']
  | .longMonth => ['%', 'B']
  | .shortWeekday => ['%', 'a']
  | .longWeekday => ['%', 'A']
  | .halfDay => ['%', 'p']
  | .fraction => ['%', '.', 'f']
  | .pointed .millis => ['%', '.', '3', 'f']
  | .pointed .micros => ['%', '.', '6', 'f']
  | .pointed .nanos => ['%', '.', '9', 'f']
  | .bare .millis => ['%', '3', 'f']
  | .bare .micros => ['%', '6', 'f']
  | .bare .nanos => ['%', '9', 'f']
  | .offset => ['%', ':', 'z']

def Layout.canonical (layout : Layout) : String :=
  String.ofList (layout.items.flatMap Item.canonical)

/-- The layouts whose canonical text no earlier one has. -/
def Layout.distinct (seen : List String) : List Layout → List Layout
  | [] => []
  | layout :: rest =>
    if seen.contains layout.canonical then distinct seen rest
    else layout :: distinct (layout.canonical :: seen) rest

/-! ## Literals -/

/-- What a character of a literal is to the split into items. -/
inductive LiteralClass where
  | blank
  | percent
  | other
  deriving Repr, DecidableEq

def LiteralClass.of (c : Char) : LiteralClass :=
  if Text.isBlank c then .blank else if c = '%' then .percent else .other

/-- The items of a literal: runs of white space, percent signs, and runs of the rest. -/
def literalItems : List Char → List Item
  | [] => []
  | c :: rest =>
    match LiteralClass.of c, literalItems rest with
    | .blank, .space text :: items => .space (c :: text) :: items
    | .blank, items => .space [c] :: items
    | .percent, items => .literal [c] :: items
    | .other, .literal (d :: text) :: items =>
      if d = '%' then .literal [c] :: .literal (d :: text) :: items
      else .literal (c :: d :: text) :: items
    | .other, items => .literal [c] :: items

end StoreSchema.Date
