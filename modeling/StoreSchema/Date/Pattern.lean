import StoreSchema.Date.Layout
import StoreSchema.Text.Decimal

/-! # Date patterns

A pattern describes layouts with letters, quoted literals and optional sections. Every choice of
sections gives one layout, with the longest first.
-/

namespace StoreSchema.Date

inductive PatternFault where
  | unbalanced
  | unterminated
  | unclosed
  | tooManySections
  | weekBased (letter : Char)
  | unsupported (letter : Char) (count : Nat)
  | longFraction
  | empty
  deriving Repr, DecidableEq

/-- How many optional sections a pattern may have. -/
def sectionLimit : Nat := 12

def PatternFault.message : PatternFault → String
  | .unbalanced => "unbalanced `]`"
  | .unterminated => "unterminated quoted literal"
  | .unclosed => "unclosed `[`"
  | .tooManySections =>
    "more than " ++ String.ofList (Text.digits sectionLimit) ++ " optional sections"
  | .weekBased letter => "week-based field `" ++ String.singleton letter ++ "` is not supported"
  | .unsupported letter count =>
    "unsupported pattern letter `" ++ String.ofList (List.replicate count letter) ++ "`"
  | .longFraction => "more than nine fraction digits"
  | .empty => "pattern is empty"

/-! ## Sections -/

/-- One sign of a pattern. -/
inductive Atom where
  | char (c : Char)
  | quoted (text : List Char)
  deriving Repr, DecidableEq

/-- A pattern as a row of atoms and brackets. -/
inductive Mark where
  | atom (atom : Atom)
  | opening
  | closing
  /-- A quoted literal that the pattern ends in. -/
  | unterminated
  deriving Repr, DecidableEq

mutual

/-- The marks of a pattern. Two quotes stand for one, also inside a quoted literal. -/
def marks : List Char → List Mark
  | [] => []
  | '\x27' :: '\x27' :: rest => .atom (.quoted ['\x27']) :: marks rest
  | '\x27' :: rest => quotedMarks [] rest
  | '[' :: rest => .opening :: marks rest
  | ']' :: rest => .closing :: marks rest
  | c :: rest => .atom (.char c) :: marks rest

/-- The marks of a pattern inside a quoted literal, whose text so far is given. -/
def quotedMarks (text : List Char) : List Char → List Mark
  | [] => [.unterminated]
  | '\x27' :: '\x27' :: rest => quotedMarks (text ++ ['\x27']) rest
  | '\x27' :: rest => .atom (.quoted text) :: marks rest
  | c :: rest => quotedMarks (text ++ [c]) rest

end

inductive Part where
  | atom (atom : Atom)
  | optional (parts : List Part)

/-- The parts of a row of marks. The sections that are open around the current one are given, the
    innermost first. -/
def nest (around : List (List Part)) (current : List Part) :
    List Mark → Except PatternFault (List Part)
  | [] => if around.isEmpty then .ok current else .error .unclosed
  | .atom atom :: rest => nest around (current ++ [.atom atom]) rest
  | .opening :: rest => nest (current :: around) [] rest
  | .closing :: rest =>
    match around with
    | [] => .error .unbalanced
    | outer :: around => nest around (outer ++ [.optional current]) rest
  | .unterminated :: _ => .error .unterminated

/-- The parts of a pattern. -/
def parts (pattern : List Char) : Except PatternFault (List Part) := do
  let row := marks pattern
  let parts ← nest [] [] row
  if sectionLimit < row.count .opening then .error .tooManySections else pure parts

mutual

/-- Every choice of sections, the ones with a section before the ones without. -/
def choices : List Part → List (List Atom)
  | [] => [[]]
  | part :: rest => (partChoices part).flatMap fun first => (choices rest).map (first ++ ·)

def partChoices : Part → List (List Atom)
  | .atom atom => [[atom]]
  | .optional inner => choices inner ++ [[]]

end

/-! ## Items -/

/-- The item of a run of a letter. -/
def letterItem (letter : Char) (count : Nat) : Except PatternFault Item :=
  match letter, count with
  | 'y', 2 | 'u', 2 => .ok (.number .yearOfCentury true)
  | 'y', _ | 'u', _ => .ok (.number .year true)
  | 'M', 1 => .ok (.number .month false)
  | 'M', 2 => .ok (.number .month true)
  | 'M', 3 => .ok .shortMonth
  | 'M', _ => .ok .longMonth
  | 'd', 1 => .ok (.number .day false)
  | 'd', 2 => .ok (.number .day true)
  | 'D', 1 | 'D', 2 => .ok (.number .ordinal false)
  | 'D', 3 => .ok (.number .ordinal true)
  | 'H', 1 => .ok (.number .hour false)
  | 'H', 2 => .ok (.number .hour true)
  | 'h', 1 => .ok (.number .halfDayHour false)
  | 'h', 2 => .ok (.number .halfDayHour true)
  | 'm', 1 => .ok (.number .minute false)
  | 'm', 2 => .ok (.number .minute true)
  | 's', 1 => .ok (.number .second false)
  | 's', 2 => .ok (.number .second true)
  | 'S', 3 => .ok (.bare .millis)
  | 'S', 6 => .ok (.bare .micros)
  | 'S', 9 => .ok (.bare .nanos)
  | 'a', 1 => .ok .halfDay
  | 'E', 1 | 'E', 2 | 'E', 3 => .ok .shortWeekday
  | 'E', _ => .ok .longWeekday
  | 'Z', _ | 'X', _ => .ok .offset
  | 'Y', _ | 'x', _ | 'w', _ | 'W', _ | 'e', _ => .error (.weekBased letter)
  | _, _ => .error (.unsupported letter count)

/-- The item of a point and a run of fraction digits. -/
def fractionItem (digit : Char) (count : Nat) : Except PatternFault Item :=
  match digit, count with
  | 'S', 3 => .ok (.pointed .millis)
  | 'S', 6 => .ok (.pointed .micros)
  | 'S', 9 => .ok (.pointed .nanos)
  | _, _ => if count ≤ 9 then .ok .fraction else .error .longFraction

/-- How often a character stands at the front of a row of atoms. -/
def runLength (c : Char) (atoms : List Atom) : Nat :=
  (atoms.takeWhile (· = .char c)).length

/-- Whether an atom is a digit of a fraction. -/
def fractionDigit? : List Atom → Option Char
  | .char 'S' :: _ => some 'S'
  | .char '9' :: _ => some '9'
  | _ => none

/-- The items of a row of atoms. -/
def items : List Atom → Except PatternFault (List Item)
  | [] => .ok []
  | .quoted text :: rest => do
    let others ← items rest
    pure (literalItems text ++ others)
  | .char c :: rest =>
    match if c = '.' then fractionDigit? rest else none with
    | some digit => do
      let count := runLength digit rest
      let first ← fractionItem digit count
      let others ← items (rest.drop count)
      pure (first :: others)
    | none =>
      if c.isAlpha then do
        let more := runLength c rest
        let first ← letterItem c (more + 1)
        let others ← items (rest.drop more)
        pure (first :: others)
      else do
        let others ← items rest
        pure (literalItems [c] ++ others)
termination_by atoms => atoms.length
decreasing_by all_goals simp only [List.length_cons, List.length_drop]; omega

/-- The layouts of a list of choices. -/
def layoutsOf : List (List Atom) → Except PatternFault (List Layout)
  | [] => .ok []
  | atoms :: rest => do
    let items ← items atoms
    let layouts ← layoutsOf rest
    pure (⟨items⟩ :: layouts)

/-- Every layout of a pattern, the longest first, and of equally long ones those with a section
    before those without. -/
def expand (pattern : List Char) : Except PatternFault (List Layout) := do
  let parts ← parts pattern
  let longestFirst := ((choices parts).filter (!·.isEmpty)).mergeSort
    fun a b => b.length ≤ a.length
  let layouts ← layoutsOf longestFirst
  match Layout.distinct [] layouts with
  | [] => .error .empty
  | distinct => .ok distinct

end StoreSchema.Date
