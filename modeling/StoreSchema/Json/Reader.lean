import StoreSchema.Json.Document
import StoreSchema.Json.Numeral
import StoreSchema.Text.Sign

/-! # Reading JSON text

Each step takes a part off the front of the text and says that what follows is shorter, so the
reader ends. It stops at the first fault and keeps what it has read until then. A stray byte is a
fault outside of strings; a string that holds one follows the grammar but denotes no text.
-/

namespace StoreSchema.Json.Reader

open StoreSchema.Text (Sign)

/-- A part taken off the front of a text. -/
structure Taken (α : Type) (text : List Sign) where
  part : α
  rest : List Sign
  shorter : rest.length < text.length

/-- A part read from the front of a text; without a rest, reading stopped inside the part. -/
structure Progress (α : Type) (text : List Sign) where
  part : α
  rest : Option { rest : List Sign // rest.length < text.length }

/-- Reading that stopped. -/
def stopped {text : List Sign} (part : α) : Progress α text :=
  ⟨part, none⟩

/-- The same part, seen from a longer text. -/
def Progress.within {text around : List Sign} (p : Progress α text) (f : α → β)
    (h : text.length ≤ around.length) : Progress β around :=
  ⟨f p.part, p.rest.map fun ⟨rest, shorter⟩ => ⟨rest, Nat.lt_of_lt_of_le shorter h⟩⟩

/-- The four blanks of the format. -/
def isSpace (sign : Sign) : Bool :=
  sign == some ' ' || sign == some '\n' || sign == some '\t' || sign == some '\r'

/-- The text behind its leading blanks. -/
def skipSpace (text : List Sign) : List Sign :=
  text.dropWhile isSpace

/-! ## What is left of a text -/

theorem length_lt_cons (c : Sign) (rest : List Sign) : rest.length < (c :: rest).length :=
  Nat.lt_succ_self _

theorem lt_length_cons {n : Nat} {text : List Sign} (c : Sign) (h : n < text.length) :
    n < (c :: text).length :=
  Nat.lt_succ_of_lt h

theorem lt_length_cons_of_le {n : Nat} {text : List Sign} (c : Sign) (h : n ≤ text.length) :
    n < (c :: text).length :=
  Nat.lt_succ_of_le h

theorem lt_length_code {n : Nat} {rest : List Sign} (a b c d : Char) (h : n ≤ rest.length) :
    n < (some '\\' :: some 'u' :: some a :: some b :: some c :: some d :: rest).length := by
  simp only [List.length_cons]
  omega

theorem length_le_of_skipSpace {text rest : List Sign} (h : skipSpace text = rest) :
    rest.length ≤ text.length :=
  h ▸ (List.dropWhile_suffix isSpace).length_le

theorem length_lt_of_skipSpace {text rest : List Sign} {c : Sign}
    (h : skipSpace text = c :: rest) : rest.length < text.length :=
  Nat.lt_of_lt_of_le (length_lt_cons c rest) (length_le_of_skipSpace h)

/-! ## Strings -/

/-- One unit of a string. -/
inductive StringUnit where
  /-- A character. -/
  | char (c : Char)
  /-- Half a surrogate pair or a stray byte, which denote no character. -/
  | broken
  /-- The closing quote. -/
  | close

/-- The code of four hexadecimal digits. -/
def code? (a b c d : Char) : Option Nat := do
  let a ← Text.hexValue? a
  let b ← Text.hexValue? b
  let c ← Text.hexValue? c
  let d ← Text.hexValue? d
  pure (((a * 16 + b) * 16 + c) * 16 + d)

/-- Whether a code is the first half of a surrogate pair. -/
def isLeading (code : Nat) : Bool := 0xd800 ≤ code && code ≤ 0xdbff

/-- Whether a code is the second half of a surrogate pair. -/
def isTrailing (code : Nat) : Bool := 0xdc00 ≤ code && code ≤ 0xdfff

/-- The second half of a pair, if the text goes on with its escape. -/
def takeTrailing (text : List Sign) : Option (Taken Nat text) :=
  match text with
  | some '\\' :: some 'u' :: some a :: some b :: some c :: some d :: rest =>
    match code? a b c d with
    | some code =>
      if isTrailing code then some ⟨code, rest, lt_length_code a b c d (Nat.le_refl _)⟩ else none
    | none => none
  | _ => none

/-- The character that a letter behind a backslash stands for. -/
def escape? : Char → Option Char
  | '"' => some '"'
  | '\\' => some '\\'
  | '/' => some '/'
  | 'b' => some '\x08'
  | 'f' => some '\x0c'
  | 'n' => some '\n'
  | 'r' => some '\r'
  | 't' => some '\t'
  | _ => none

/-- The next unit of a string; a control character or an unknown escape has none. -/
def takeUnit (text : List Sign) : Option (Taken StringUnit text) :=
  match text with
  | [] => none
  | none :: rest => some ⟨.broken, rest, length_lt_cons _ _⟩
  | some '"' :: rest => some ⟨.close, rest, length_lt_cons _ _⟩
  | some '\\' :: some 'u' :: some a :: some b :: some c :: some d :: rest =>
    match code? a b c d with
    | none => none
    | some code =>
      if isLeading code then
        match takeTrailing rest with
        | some pair =>
          some ⟨.char (Char.ofNat (0x10000 + (code - 0xd800) * 0x400 + (pair.part - 0xdc00))),
            pair.rest, lt_length_code a b c d (Nat.le_of_lt pair.shorter)⟩
        | none => some ⟨.broken, rest, lt_length_code a b c d (Nat.le_refl _)⟩
      else if isTrailing code then some ⟨.broken, rest, lt_length_code a b c d (Nat.le_refl _)⟩
      else some ⟨.char (Char.ofNat code), rest, lt_length_code a b c d (Nat.le_refl _)⟩
  | some '\\' :: some letter :: rest =>
    match escape? letter with
    | none => none
    | some c => some ⟨.char c, rest, lt_length_cons _ (length_lt_cons _ _)⟩
  | some c :: rest =>
    if c == '\\' || c.toNat < 0x20 then none
    else some ⟨.char c, rest, length_lt_cons _ rest⟩

/-- The characters of a string behind its opening quote, up to the closing one; with a broken unit
    among them they denote no text. -/
def takeString (text : List Sign) : Option (Taken (Option (List Char)) text) :=
  match takeUnit text with
  | none => none
  | some ⟨.close, rest, shorter⟩ => some ⟨some [], rest, shorter⟩
  | some ⟨.broken, rest, shorter⟩ =>
    match takeString rest with
    | none => none
    | some more => some ⟨none, more.rest, Nat.lt_trans more.shorter shorter⟩
  | some ⟨.char c, rest, shorter⟩ =>
    match takeString rest with
    | none => none
    | some more =>
      some ⟨more.part.map (c :: ·), more.rest, Nat.lt_trans more.shorter shorter⟩
termination_by text.length

/-! ## Numbers -/

def isDigit (sign : Sign) : Bool :=
  sign.any Char.isDigit

/-- The digits in front of a text, and what follows them. -/
def takeDigits (text : List Sign) : List Char × { rest : List Sign // rest.length ≤ text.length } :=
  ((text.takeWhile isDigit).filterMap id,
    ⟨text.dropWhile isDigit, (List.dropWhile_suffix isDigit).length_le⟩)

/-- A fraction: nothing, or a point and at least one digit. -/
def takeFraction (text : List Sign) :
    Option (Option (List Char) × { rest : List Sign // rest.length ≤ text.length }) :=
  match text with
  | some '.' :: more =>
    let (ds, ⟨rest, h⟩) := takeDigits more
    if ds.isEmpty then none
    else some (some ds, ⟨rest, Nat.le_succ_of_le h⟩)
  | other => some (none, ⟨other, Nat.le_refl _⟩)

/-- An exponent: nothing, or its letter, an optional sign and at least one digit. -/
def takeExponent (text : List Sign) :
    Option (Option Int × { rest : List Sign // rest.length ≤ text.length }) :=
  match text with
  | [] => some (none, ⟨[], Nat.le_refl _⟩)
  | c :: more =>
    if c == some 'e' || c == some 'E' then
      match more with
      | some '-' :: unsigned =>
        let (ds, ⟨rest, h⟩) := takeDigits unsigned
        if ds.isEmpty then none
        else
          some (some (-(Text.ofDigits ds : Int)), ⟨rest, Nat.le_succ_of_le (Nat.le_succ_of_le h)⟩)
      | some '+' :: unsigned =>
        let (ds, ⟨rest, h⟩) := takeDigits unsigned
        if ds.isEmpty then none
        else some (some (Text.ofDigits ds : Int), ⟨rest, Nat.le_succ_of_le (Nat.le_succ_of_le h)⟩)
      | unsigned =>
        let (ds, ⟨rest, h⟩) := takeDigits unsigned
        if ds.isEmpty then none
        else some (some (Text.ofDigits ds : Int), ⟨rest, Nat.le_succ_of_le h⟩)
    else some (none, ⟨c :: more, Nat.le_refl _⟩)

/-- The value of a number: an integer literal within 64 bits is an integer, any other number a
    double, and a number beyond the doubles has no value. A negative zero is a double. -/
def numberValue (negative : Bool) (whole : List Char) (fraction : Option (List Char))
    (exponent : Option Int) : Option Json :=
  let n := Text.ofDigits whole
  let isInteger := fraction.isNone && exponent.isNone &&
    (if negative then 0 < n && n ≤ Nat.pow 2 63 else n < Nat.pow 2 64)
  if isInteger then some (.int (if negative then -(n : Int) else n))
  else
    match Numeral.double negative whole (fraction.getD []) (exponent.getD 0) with
    | .finite sign mantissa exponent => some (.float (.finite sign mantissa exponent))
    | _ => none

/-- A number behind its sign. No digit may follow a leading zero. -/
def takeUnsigned (negative : Bool) (text : List Sign) : Option (Taken (Option Json) text) :=
  match text with
  | [] | none :: _ => none
  | some d :: more =>
    if !d.isDigit then none
    else
      let (ds, ⟨afterWhole, h₁⟩) := takeDigits more
      if d == '0' && !ds.isEmpty then none
      else
        match takeFraction afterWhole with
        | none => none
        | some (fraction, ⟨afterFraction, h₂⟩) =>
          match takeExponent afterFraction with
          | none => none
          | some (exponent, ⟨rest, h₃⟩) =>
            some ⟨numberValue negative (d :: ds) fraction exponent, rest,
              lt_length_cons_of_le (some d) (Nat.le_trans h₃ (Nat.le_trans h₂ h₁))⟩

def takeNumber (text : List Sign) : Option (Taken (Option Json) text) :=
  match text with
  | some '-' :: unsigned =>
    match takeUnsigned true unsigned with
    | none => none
    | some number => some ⟨number.part, number.rest, lt_length_cons _ number.shorter⟩
  | other => takeUnsigned false other

/-! ## Documents -/

theorem length_drop_lt {word text : List Sign} (nonempty : word ≠ []) (h : word <+: text) :
    (text.drop word.length).length < text.length := by
  have := h.length_le
  have := List.length_pos_iff.2 nonempty
  rw [List.length_drop]
  omega

/-- A word and the value it stands for, if the text begins with it. -/
def takeWord (word : List Sign) (value : Json) (text : List Sign) (nonempty : word ≠ []) :
    Option (Taken (Option Json) text) :=
  if h : word <+: text then
    some ⟨some value, text.drop word.length, length_drop_lt nonempty h⟩
  else none

/-- A value that is neither string nor container. -/
def takeScalar (text : List Sign) : Option (Taken (Option Json) text) :=
  (takeWord [some 'n', some 'u', some 'l', some 'l'] .null text (List.cons_ne_nil _ _)).orElse
    fun _ =>
  (takeWord [some 't', some 'r', some 'u', some 'e'] (.bool true) text
    (List.cons_ne_nil _ _)).orElse fun _ =>
  (takeWord [some 'f', some 'a', some 'l', some 's', some 'e'] (.bool false) text
    (List.cons_ne_nil _ _)).orElse fun _ =>
  takeNumber text

mutual

/-- A document in front of a text. -/
def readDocument (text : List Sign) : Progress Document text :=
  match h : skipSpace text with
  | [] => stopped .cut
  | c :: rest =>
    have shorter : rest.length < text.length := length_lt_of_skipSpace h
    if c == some '[' then
      match h' : skipSpace rest with
      | some ']' :: after =>
        ⟨.arr [] .closed, some ⟨after, Nat.lt_trans (length_lt_of_skipSpace h') shorter⟩⟩
      | _ =>
        (readItems rest).within (fun (items, ending) => .arr items ending) (Nat.le_of_lt shorter)
    else if c == some '{' then
      match h' : skipSpace rest with
      | some '}' :: after =>
        ⟨.obj [] .closed, some ⟨after, Nat.lt_trans (length_lt_of_skipSpace h') shorter⟩⟩
      | _ =>
        (readMembers rest).within (fun (members, ending) => .obj members ending)
          (Nat.le_of_lt shorter)
    else if c == some '"' then
      match takeString rest with
      | none => stopped .cut
      | some string =>
        ⟨.scalar (string.part.map fun cs => .str (String.ofList cs)),
          some ⟨string.rest, Nat.lt_trans string.shorter shorter⟩⟩
    else
      match takeScalar (c :: rest) with
      | none => stopped .cut
      | some scalar =>
        ⟨.scalar scalar.part, some ⟨scalar.rest,
          Nat.lt_of_lt_of_le scalar.shorter (length_le_of_skipSpace h)⟩⟩
termination_by (text.length, 0)

/-- The items of an array behind its bracket or a comma, and how the array ends. -/
def readItems (text : List Sign) : Progress (List Document × Ending) text :=
  let item := readDocument text
  match item.rest with
  | none => stopped ([item.part], .cut)
  | some ⟨after, shorter⟩ =>
    match h : skipSpace after with
    | [] => stopped ([item.part], .cut)
    | c :: rest =>
      have left : rest.length < text.length := Nat.lt_trans (length_lt_of_skipSpace h) shorter
      if c == some ',' then
        (readItems rest).within (fun (items, ending) => (item.part :: items, ending))
          (Nat.le_of_lt left)
      else if c == some ']' then ⟨([item.part], .closed), some ⟨rest, left⟩⟩
      else stopped ([item.part], .cut)
termination_by (text.length, 1)

/-- The members of an object behind its brace or a comma, and how the object ends. -/
def readMembers (text : List Sign) : Progress (List (Option String × Document) × Ending) text :=
  match h : skipSpace text with
  | some '"' :: rest =>
    match takeString rest with
    | none => stopped ([], .cut)
    | some key =>
      let name := key.part.map String.ofList
      match h' : skipSpace key.rest with
      | some ':' :: body =>
        have small : body.length < text.length :=
          Nat.lt_trans (length_lt_of_skipSpace h')
            (Nat.lt_trans key.shorter (length_lt_of_skipSpace h))
        let value := readDocument body
        match value.rest with
        | none => stopped ([(name, value.part)], .cut)
        | some ⟨after, shorter⟩ =>
          match h'' : skipSpace after with
          | [] => stopped ([(name, value.part)], .cut)
          | c :: rest =>
            have left : rest.length < text.length :=
              Nat.lt_trans (length_lt_of_skipSpace h'') (Nat.lt_trans shorter small)
            if c == some ',' then
              (readMembers rest).within
                (fun (members, ending) => ((name, value.part) :: members, ending))
                (Nat.le_of_lt left)
            else if c == some '}' then ⟨([(name, value.part)], .closed), some ⟨rest, left⟩⟩
            else stopped ([(name, value.part)], .cut)
      | _ => stopped ([(name, .cut)], .cut)
  | _ => stopped ([], .cut)
termination_by (text.length, 1)

end

end StoreSchema.Json.Reader

namespace StoreSchema

/-- The document that a row of signs begins with, and whether nothing but blanks follows it. -/
def Document.ofSigns (text : List Text.Sign) : Document × Bool :=
  let read := Json.Reader.readDocument text
  let ended := match read.rest with
    | some ⟨rest, _⟩ => (Json.Reader.skipSpace rest).isEmpty
    | none => false
  (read.part.limited Document.nestingLimit, ended)

/-- The value that a text writes out. -/
def Json.ofText? (text : String) : Option Json :=
  match Document.ofSigns (Text.signs text) with
  | (document, true) => document.value?
  | (_, false) => none

end StoreSchema
