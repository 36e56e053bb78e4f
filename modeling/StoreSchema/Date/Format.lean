import StoreSchema.Date.Named
import StoreSchema.Date.Pattern
import StoreSchema.Date.Print
import StoreSchema.Date.Scan
import StoreSchema.Json.Decoding

/-! # Date formats

A format lists the layouts that dates of a field may have, and whether they may come as numbers.
One layout, or the number, is what dates are written in.
-/

namespace StoreSchema

/-- What a date counts when it is a number. -/
inductive EpochUnit where
  | millis
  | seconds
  deriving Repr, DecidableEq

namespace EpochUnit

/-- The marker of a unit in formats. -/
def ofMarker? : String → Option EpochUnit
  | "epoch_millis" => some .millis
  | "epoch_second" => some .seconds
  | _ => none

def name : EpochUnit → String
  | .millis => "millis"
  | .seconds => "seconds"

end EpochUnit

structure DateFormat where
  source : String
  /-- The layouts in the order in which they are tried. -/
  layouts : List Date.Layout
  epoch : Option EpochUnit
  /-- The layout that texts are written in; without layouts there is none. -/
  written : Option Date.Layout
  prefersEpoch : Bool
  deriving Repr, DecidableEq

namespace DateFormat

/-- Why a format cannot be compiled. -/
inductive Fault where
  | duplicateLayout (format layout : String)
  | duplicateEpoch (format : String)
  | empty (format : String)
  | preferredNotCompiled (preferred : String) (compiled : List String)
  | badPattern (pattern : String) (fault : Date.PatternFault)
  deriving Repr, DecidableEq

def Fault.message : Fault → String
  | .duplicateLayout format layout =>
    "date format `" ++ format ++ "` lists layout `" ++ layout ++ "` more than once"
  | .duplicateEpoch format => "date format `" ++ format ++ "` has more than one epoch marker"
  | .empty format => "date format `" ++ format ++ "` has no string layout"
  | .preferredNotCompiled preferred compiled =>
    "preferred date format `" ++ preferred ++ "` is not one of " ++ Text.quotedList compiled
  | .badPattern pattern fault => "bad date pattern `" ++ pattern ++ "`: " ++ fault.message

/-! ## Compilation -/

/-- The texts between double bars. -/
def alternatives : List Char → List (List Char)
  | [] => [[]]
  | '|' :: '|' :: rest => [] :: alternatives rest
  | c :: rest =>
    match alternatives rest with
    | [] => [[c]]
    | first :: others => (c :: first) :: others

/-- The formats that a source lists; blanks around them do not count, and empty ones neither. -/
def listed (source : String) : List String :=
  ((alternatives source.toList).map Text.trim).filterMap fun text =>
    if text.isEmpty then none else some (String.ofList text)

/-- The epoch unit and the patterns among the formats that a source lists. -/
def gather (source : String) (epoch : Option EpochUnit) (patterns : List String) :
    List String → Except Fault (Option EpochUnit × List String)
  | [] => .ok (epoch, patterns)
  | name :: rest =>
    match EpochUnit.ofMarker? name with
    | some unit =>
      if epoch.isSome then .error (.duplicateEpoch source)
      else gather source (some unit) patterns rest
    | none =>
      let pattern := Date.patternOf name
      if patterns.contains pattern then .error (.duplicateLayout source pattern)
      else gather source epoch (patterns ++ [pattern]) rest

def expand (pattern : String) : Except Fault (List Date.Layout) :=
  match Date.expand pattern.toList with
  | .ok layouts => .ok layouts
  | .error fault => .error (.badPattern pattern fault)

/-- The layouts of patterns, each layout at its first place. -/
def expandAll (patterns : List String) : Except Fault (List Date.Layout) := do
  let layouts ← patterns.mapM expand
  pure (Date.Layout.distinct [] layouts.flatten)

/-- What a preferred format asks for. -/
inductive Preference where
  | nothing
  | epoch
  | layout (layout : Date.Layout)

/-- The preference that a text states, if the format allows it. -/
def preferenceOf (layouts : List Date.Layout) (epoch : Option EpochUnit) (preferred : String) :
    Except Fault Preference :=
  if preferred.isEmpty then .ok .nothing
  else if (EpochUnit.ofMarker? preferred).isSome then
    if epoch.isSome then .ok .epoch
    else .error (.preferredNotCompiled preferred (layouts.map Date.Layout.canonical))
  else do
    let wanted ← expand (Date.patternOf preferred)
    match layouts.find? fun layout =>
      wanted.head?.any (·.canonical == layout.canonical) with
    | some layout => pure (.layout layout)
    | none => .error (.preferredNotCompiled preferred (layouts.map Date.Layout.canonical))

/-- Compiles a format, with a preferred format for writing and whether numbers are preferred. -/
def compile (source : String) (preferred : Option String) (preferEpoch : Bool) :
    Except Fault DateFormat := do
  let (epoch, patterns) ← gather source none [] (listed source)
  if patterns.isEmpty && epoch.isNone then .error (.empty source)
  else
    let layouts ← expandAll patterns
    let text := String.ofList (Text.trim (preferred.getD "").toList)
    let preference ← preferenceOf layouts epoch text
    let asEpoch := layouts.isEmpty || (preferEpoch && epoch.isSome)
    match preference with
    | .nothing => pure ⟨source, layouts, epoch, layouts.head?, asEpoch⟩
    | .epoch => pure ⟨source, layouts, epoch, layouts.head?, true⟩
    | .layout layout => pure ⟨source, layouts, epoch, some layout, asEpoch⟩

def layoutTexts (format : DateFormat) : List String :=
  format.layouts.map Date.Layout.canonical

/-- The layout that dates are written in, unless they are written as numbers. -/
def marshalLayout (format : DateFormat) : Option Date.Layout :=
  if format.prefersEpoch then none else format.written

/-! ## Reading and writing dates -/

/-- The least and the greatest year that can be written. -/
def hasYear (year : Int) : Bool :=
  0 ≤ year && year ≤ 9999

/-- Why a value is no date of a format, or a date cannot be written. -/
inductive ValueFault where
  /-- No layout takes the text: the layouts that were tried, and why they failed. -/
  | parse (input : String) (attempts : List (String × Date.Misread))
  | shape (fault : ShapeError)
  | outOfRange (value : Int)
  | yearOutOfRange (year : Int)
  deriving Repr, DecidableEq

def ValueFault.message : ValueFault → String
  | .parse input attempts =>
    "`" ++ input ++ "` matches no layout: " ++
      "; ".intercalate (attempts.map fun (layout, misread) =>
        layout ++ " (" ++ misread.message ++ ")")
  | .shape fault => fault.message
  | .outOfRange value => "epoch value " ++ String.ofList (Text.ofInt value) ++ " is out of range"
  | .yearOutOfRange year =>
    "year " ++ String.ofList (Text.ofInt year) ++ " is outside 0000-9999"

/-- Tries layouts one after the other; the first that takes the text decides. -/
def tryLayouts (text : List Char) :
    List Date.Layout → Except (List (String × Date.Misread)) Moment
  | [] => .error []
  | layout :: rest =>
    match layout.scan text with
    | .ok moment => .ok moment
    | .error misread =>
      match tryLayouts text rest with
      | .ok moment => .ok moment
      | .error attempts => .error ((layout.canonical, misread) :: attempts)

/-- The moment that a text denotes. -/
def ofText (format : DateFormat) (text : String) : Except ValueFault Moment :=
  match tryLayouts text.toList format.layouts with
  | .ok moment => .ok moment
  | .error attempts => .error (.parse text attempts)

/-- The moment that a number denotes; without a unit it counts milliseconds. -/
def ofEpoch (format : DateFormat) (value : Int) : Except ValueFault Moment :=
  let moment : Moment := match format.epoch with
    | some .seconds => ⟨value, 0, 0⟩
    | _ => ⟨value / 1000, (value % 1000).toNat * 1000000, 0⟩
  if hasYear moment.year then .ok moment else .error (.outOfRange value)

/-- The number of a moment; without a unit it counts milliseconds. -/
def toEpoch (format : DateFormat) (moment : Moment) : Int :=
  match format.epoch with
  | some .seconds => moment.epochSeconds
  | _ => moment.epochMillis

/-- The text of a moment in the layout that texts are written in. -/
def toText (format : DateFormat) (moment : Moment) : Except ValueFault String :=
  match format.written with
  | none => .ok (String.ofList (Text.ofInt (format.toEpoch moment)))
  | some layout =>
    if hasYear moment.year then .ok (String.ofList (layout.print moment))
    else .error (.yearOutOfRange moment.year)

/-- A moment as a value: a number when numbers are preferred, a text otherwise. -/
def toJson (format : DateFormat) (moment : Moment) : Except ValueFault Json :=
  if format.prefersEpoch then .ok (.int (format.toEpoch moment))
  else (format.toText moment).map .str

/-- The fault of a value that is neither a text nor a number the format allows. -/
def misshaped (format : DateFormat) (raw : List Char) : ValueFault :=
  .shape
    { raw := String.ofList raw
      accepted := "date string" :: if format.epoch.isSome then ["integer epoch"] else []
      typeName := "date `" ++ format.source ++ "`" }

/-- The text between quotes, if there are any. -/
def unquoted? : List Char → Option (List Char)
  | '"' :: rest =>
    match rest.reverse with
    | '"' :: inner => some inner.reverse
    | _ => none
  | _ => none

/-- The moment that a raw value denotes: between quotes a text, taken as it stands, and otherwise a
    number, if the format allows numbers. -/
def ofRaw (format : DateFormat) (raw : String) : Except ValueFault Moment :=
  let trimmed := Text.trim raw.toList
  match unquoted? trimmed with
  | some text => format.ofText (String.ofList text)
  | none =>
    match Number.int? trimmed with
    | some value =>
      if format.epoch.isSome then format.ofEpoch value else .error (format.misshaped trimmed)
    | none => .error (format.misshaped trimmed)

def ofJson (format : DateFormat) (value : Json) : Except ValueFault Moment :=
  format.ofRaw value.text

end DateFormat

end StoreSchema
