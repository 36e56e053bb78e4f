import StoreSchema.Files.Path
import StoreSchema.Text.Decimal

/-! # Patterns for paths

A pattern is matched segment by segment. In a segment `?` stands for one character, `*` for any
number of them, and brackets for one out of a set or, after `!`, outside of it. A segment `**`
stands for any number of folders.
-/

namespace StoreSchema

/-- What a part of a segment stands for. -/
inductive Glob.Token where
  | char (c : Char)
  /-- Any one character. -/
  | one
  /-- Any number of characters. -/
  | many
  /-- One character within some range, or one outside of all. -/
  | set (inside : Bool) (ranges : List (Char × Char))
  /-- Any number of folders; it fills its segment. -/
  | folders
  deriving Repr, DecidableEq

/-- A pattern for paths. -/
structure Glob where
  absolute : Bool
  segments : List (List Glob.Token)
  /-- Whether only folders match. -/
  foldersOnly : Bool
  deriving Repr, DecidableEq

namespace Glob

inductive Flaw where
  | wildcards
  | recursion
  | range
  deriving Repr, DecidableEq

/-- A flaw and how many characters stand before it. -/
structure Fault where
  position : Nat
  flaw : Flaw
  deriving Repr, DecidableEq

def Flaw.message : Flaw → String
  | .wildcards => "wildcards are either regular `*` or recursive `**`"
  | .recursion => "recursive wildcards must form a single path component"
  | .range => "invalid range pattern"

def Fault.message (fault : Fault) : String :=
  "Pattern syntax error near position " ++ String.ofList (Text.digits fault.position) ++ ": " ++
    fault.flaw.message

/-- Whether a text is meant as a pattern. An opening brace makes it one, though braces then stand
    for themselves. -/
def marks (text : String) : Bool :=
  text.toList.any fun c => c == '*' || c == '?' || c == '[' || c == '\x7b'

/-! ## Reading -/

/-- The text up to the first closing bracket, and what follows the bracket. -/
def closing? : List Char → Option (List Char × List Char)
  | [] => none
  | ']' :: rest => some ([], rest)
  | c :: rest => (closing? rest).map fun (inner, rest) => (c :: inner, rest)

theorem length_of_closing? {chars inner rest : List Char}
    (h : closing? chars = some (inner, rest)) :
    chars.length = inner.length + rest.length + 1 := by
  fun_induction closing? chars generalizing inner with
  | case1 => simp at h
  | case2 => simp_all
  | case3 c chars _ ih =>
    obtain ⟨⟨inner', rest'⟩, found, same⟩ := Option.map_eq_some_iff.1 h
    simp only [Prod.mk.injEq] at same
    obtain ⟨rfl, rfl⟩ := same
    simp [ih found]
    omega

/-- The ranges that the text between brackets lists. -/
def ranges : List Char → List (Char × Char)
  | first :: '-' :: last :: rest => (first, last) :: ranges rest
  | c :: rest => (c, c) :: ranges rest
  | [] => []

/-- A set of characters behind its opening bracket, and the text behind it. The first character
    belongs to the set even if it is a closing bracket. -/
def set? : List Char → Option (Token × List Char)
  | '!' :: first :: rest =>
    (closing? rest).map fun (inner, rest) => (.set false (ranges (first :: inner)), rest)
  | ['!'] => none
  | first :: rest =>
    (closing? rest).map fun (inner, rest) => (.set true (ranges (first :: inner)), rest)
  | [] => none

theorem length_of_set? {chars rest : List Char} {token : Token}
    (h : set? chars = some (token, rest)) :
    rest.length < chars.length := by
  unfold set? at h
  split at h
  · obtain ⟨⟨inner, rest'⟩, found, same⟩ := Option.map_eq_some_iff.1 h
    simp only [Prod.mk.injEq] at same
    obtain ⟨-, rfl⟩ := same
    simp [length_of_closing? found]
    omega
  · simp at h
  · obtain ⟨⟨inner, rest'⟩, found, same⟩ := Option.map_eq_some_iff.1 h
    simp only [Prod.mk.injEq] at same
    obtain ⟨-, rfl⟩ := same
    simp [length_of_closing? found]
    omega
  · simp at h

/-- The tokens of a text behind `position` characters; `fresh` tells whether a segment starts
    here. -/
def tokens (position : Nat) (fresh : Bool) (chars : List Char) : Except Fault (List Token) :=
  match chars with
  | [] => .ok []
  | '?' :: rest => do
    let others ← tokens (position + 1) false rest
    pure (.one :: others)
  | '*' :: '*' :: '*' :: _ => .error ⟨position + 2, .wildcards⟩
  | '*' :: '*' :: rest =>
    if fresh then
      match rest with
      | [] => .ok [.folders]
      | '/' :: rest => do
        let others ← tokens (position + 3) true rest
        pure (.folders :: others)
      | _ => .error ⟨position + 2, .recursion⟩
    else .error ⟨position - 1, .recursion⟩
  | '*' :: rest => do
    let others ← tokens (position + 1) false rest
    pure (.many :: others)
  | '[' :: rest =>
    match _found : set? rest with
    | none => .error ⟨position, .range⟩
    | some (token, behind) => do
      let others ← tokens (position + 1 + (rest.length - behind.length)) false behind
      pure (token :: others)
  | c :: rest => do
    let others ← tokens (position + 1) (c == '/') rest
    pure (.char c :: others)
  termination_by chars.length
  decreasing_by
    all_goals simp_wf
    all_goals try omega
    have := length_of_set? _found
    omega

/-- The pattern that a text writes out. The text as a whole and then each segment has to be
    sound. -/
def ofText (text : String) : Except Fault Glob := do
  let chars := text.toList
  let _ ← tokens 0 true chars
  let rooted := Path.absolute text
  let foldersOnly := chars.getLast? == some '/'
  let inner := if rooted then chars.tail else chars
  let inner := if foldersOnly then inner.dropLast else inner
  let segments ← (Path.segments inner).mapM fun segment => tokens 0 true segment.toList
  pure ⟨rooted, segments, foldersOnly⟩

/-! ## Matching -/

/-- Whether a token that stands for one character may stand for this one. -/
def Token.accepts (c : Char) : Token → Bool
  | .char expected => c == expected
  | .one => true
  | .set inside ranges => ranges.any (fun (first, last) => first ≤ c && c ≤ last) == inside
  | .many | .folders => false

/-- The endings of a text, from the whole text to the empty one. -/
def endings : List Char → List (List Char)
  | [] => [[]]
  | c :: rest => (c :: rest) :: endings rest

/-- The endings of a name that a token may leave, out of those that may be left before it. The
    longest comes first, and it has all others among its own endings. -/
def Token.leaves (before : List (List Char)) : Token → List (List Char)
  | .many =>
    match before with
    | [] => []
    | longest :: _ => endings longest
  | token => before.filterMap fun
    | [] => none
    | c :: rest => if token.accepts c then some rest else none

/-- Whether a segment matches a name: its tokens may leave nothing of it. -/
def accepts (segment : List Token) (name : List Char) : Bool :=
  (segment.foldl Token.leaves [name]).contains []

/-- The one name that a segment matches, if it stands for itself. -/
def literal? : List Token → Option (List Char)
  | [] => some []
  | .char c :: rest => (literal? rest).map (c :: ·)
  | _ => none

end Glob

end StoreSchema
