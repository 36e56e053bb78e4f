import StoreSchema.Date.Layout
import StoreSchema.Date.Names
import StoreSchema.Date.Parts
import StoreSchema.Number.Reading

/-! # Reading dates

Each item takes its part off the front of the text and sets it. What takes something returns it
together with the rest of the text.
-/

namespace StoreSchema.Date

namespace Scan

/-- Refuses a text with fewer bytes than a number. -/
def need (bytes : Nat) (text : List Char) : Except Misread Unit :=
  if Text.byteSize text < bytes then .error .tooShort else .ok ()

def literal (expected text : List Char) : Except Misread (List Char) := do
  need (Text.byteSize expected) text
  if expected <+: text then .ok (text.drop expected.length) else .error .invalid

/-- A number of at most `most` digits; 64 bits have to hold it. -/
def number (most : Option Nat) (text : List Char) : Except Misread (Int × List Char) :=
  let digits := match most with
    | some most => (text.take most).takeWhile Char.isDigit
    | none => text.takeWhile Char.isDigit
  if text.isEmpty then .error .tooShort
  else if digits.isEmpty then .error .invalid
  else if Number.greatestInt < Text.ofDigits digits then .error .outOfRange
  else .ok (Text.ofDigits digits, text.drop digits.length)

/-- A year: four digits, or any number of them behind a sign. -/
def year (text : List Char) : Except Misread (Int × List Char) :=
  match text with
  | '-' :: rest => do
    let (value, rest) ← number none rest
    pure (-value, rest)
  | '+' :: rest => number none rest
  | _ => number (some 4) text

/-- A number of exactly `count` digits. -/
def fixedNumber (count : Nat) (text : List Char) : Except Misread (Int × List Char) := do
  need count text
  let digits := text.take count
  if digits.all Char.isDigit then pure (Text.ofDigits digits, text.drop count)
  else .error .invalid

/-- A fraction of a second behind its point, in nanoseconds. Digits after the ninth are skipped. -/
def fraction (text : List Char) : Except Misread (Int × List Char) := do
  let (value, rest) ← number (some 9) text
  let count := ((text.take 9).takeWhile Char.isDigit).length
  pure (value * Nat.pow 10 (9 - count), rest.dropWhile Char.isDigit)

/-- A fraction of a second with a fixed number of digits, in nanoseconds. -/
def fixedFraction (precision : Precision) (text : List Char) :
    Except Misread (Int × List Char) := do
  let (value, rest) ← fixedNumber precision.digits text
  pure (value * Nat.pow 10 (9 - precision.digits), rest)

/-- Whether two texts are the same but for the case of ASCII letters. -/
def sameLetters (a b : List Char) : Bool :=
  a.map Char.toLower == b.map Char.toLower

/-- The place of the name whose first three letters begin the text. -/
def shortName (names : List String) (text : List Char) : Except Misread (Nat × List Char) := do
  need 3 text
  match names.findIdx? fun name => sameLetters (name.toList.take 3) (text.take 3) with
  | some index => pure (index, text.drop 3)
  | none => .error .invalid

/-- The place of a name, written in full or by its first three letters. -/
def longName (names : List String) (text : List Char) : Except Misread (Nat × List Char) := do
  let (index, rest) ← shortName names text
  let tail := (nameAt names index).drop 3
  if sameLetters (rest.take tail.length) tail then pure (index, rest.drop tail.length)
  else pure (index, rest)

def halfDay (text : List Char) : Except Misread (Int × List Char) := do
  need 2 text
  if sameLetters (text.take 2) ['a', 'm'] then pure (0, text.drop 2)
  else if sameLetters (text.take 2) ['p', 'm'] then pure (1, text.drop 2)
  else .error .invalid

/-- The sign of an offset: whether it is a minus. -/
def sign (text : List Char) : Except Misread (Bool × List Char) :=
  match text with
  | '+' :: rest => .ok (false, rest)
  | '-' :: rest | '−' :: rest => .ok (true, rest)
  | [] => .error .tooShort
  | _ => .error .invalid

/-- The minutes of an offset. -/
def offsetMinutes (text : List Char) : Except Misread (Int × List Char) := do
  need 2 text
  match text with
  | tens :: ones :: rest =>
    if tens.isDigit && ones.isDigit then
      if '6' ≤ tens then .error .outOfRange
      else pure (Text.ofDigits [tens, ones], rest)
    else .error .invalid
  | _ => .error .invalid

/-- An offset in seconds: `Z`, or a sign, two digits, separators, and two digits. -/
def offset (text : List Char) : Except Misread (Int × List Char) :=
  match text with
  | 'Z' :: rest | 'z' :: rest => .ok (0, rest)
  | _ => do
    let (negative, rest) ← sign text
    let (hours, rest) ← fixedNumber 2 rest
    let (minutes, rest) ← offsetMinutes (rest.dropWhile fun c => c = ':' || Text.isBlank c)
    let seconds := hours * 3600 + minutes * 60
    pure (if negative then -seconds else seconds, rest)

end Scan

/-- How many digits a number has at most. -/
def NumberPart.width : NumberPart → Nat
  | .ordinal => 3
  | _ => 2

def NumberPart.set : NumberPart → Int → Parts → Except Misread Parts
  | .year => Parts.setYear
  | .yearOfCentury => Parts.setYearOfCentury
  | .month => Parts.setMonth
  | .day => Parts.setDay
  | .ordinal => Parts.setOrdinal
  | .hour => Parts.setHour
  | .halfDayHour => Parts.setHalfDayHour
  | .minute => Parts.setMinute
  | .second => Parts.setSecond

/-- Takes a number off a text. -/
def NumberPart.scan (part : NumberPart) (text : List Char) : Except Misread (Int × List Char) :=
  match part with
  | .year => Scan.year text
  | other => Scan.number (some other.width) text

/-- Takes an item off the front of a text and sets its part. -/
def Item.scan (parts : Parts) (text : List Char) :
    Item → Except Misread (Parts × List Char)
  | .literal expected => do
    let rest ← Scan.literal expected text
    pure (parts, rest)
  | .space _ => .ok (parts, Text.trimStart text)
  | .number part _ => do
    let (value, rest) ← part.scan (Text.trimStart text)
    let parts ← part.set value parts
    pure (parts, rest)
  | .shortMonth => do
    let (index, rest) ← Scan.shortName monthNames text
    let parts ← parts.setMonth (index + 1)
    pure (parts, rest)
  | .longMonth => do
    let (index, rest) ← Scan.longName monthNames text
    let parts ← parts.setMonth (index + 1)
    pure (parts, rest)
  | .shortWeekday => do
    let (index, rest) ← Scan.shortName weekdayNames text
    let parts ← parts.setWeekday index
    pure (parts, rest)
  | .longWeekday => do
    let (index, rest) ← Scan.longName weekdayNames text
    let parts ← parts.setWeekday index
    pure (parts, rest)
  | .halfDay => do
    let (value, rest) ← Scan.halfDay text
    let parts ← parts.setHalfDay value
    pure (parts, rest)
  | .fraction =>
    match text with
    | '.' :: rest => do
      let (value, rest) ← Scan.fraction rest
      let parts ← parts.setNanos value
      pure (parts, rest)
    | _ => .ok (parts, text)
  | .pointed precision =>
    match text with
    | '.' :: rest => do
      let (value, rest) ← Scan.fixedFraction precision rest
      let parts ← parts.setNanos value
      pure (parts, rest)
    | _ => .ok (parts, text)
  | .bare precision => do
    let (value, rest) ← Scan.fixedFraction precision text
    let parts ← parts.setNanos value
    pure (parts, rest)
  | .offset => do
    let (value, rest) ← Scan.offset (Text.trimStart text)
    let parts ← parts.setOffset value
    pure (parts, rest)

/-- Takes all items off a text, which has to end with them. -/
def scanItems (parts : Parts) (text : List Char) : List Item → Except Misread Parts
  | [] => if text.isEmpty then .ok parts else .error .trailing
  | item :: rest => do
    let (parts, text) ← item.scan parts text
    scanItems parts text rest

/-- The moment that a text denotes in a layout. -/
def Layout.scan (layout : Layout) (text : List Char) : Except Misread Moment := do
  let parts ← scanItems {} text layout.items
  parts.toMoment

end StoreSchema.Date
