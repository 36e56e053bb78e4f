/-! # Blank characters

What counts as white space wherever text is trimmed or skipped, and how text falls into the runs
between separators.
-/

namespace StoreSchema.Text

/-- Whether a character has the property `White_Space`. -/
def isBlank (c : Char) : Bool :=
  let code := c.toNat
  (0x9 ≤ code && code ≤ 0xd) || code == 0x20 || code == 0x85 || code == 0xa0 || code == 0x1680 ||
    (0x2000 ≤ code && code ≤ 0x200a) || code == 0x2028 || code == 0x2029 || code == 0x202f ||
    code == 0x205f || code == 0x3000

def trimStart (text : List Char) : List Char :=
  text.dropWhile isBlank

/-- The text without its leading and trailing blanks. -/
def trim (text : List Char) : List Char :=
  (trimStart (trimStart text).reverse).reverse

/-- The pieces between separators, empty ones included. -/
def pieces (isSeparator : Char → Bool) : List Char → List (List Char)
  | [] => [[]]
  | c :: rest =>
    match pieces isSeparator rest with
    | [] => [[c]]
    | piece :: more => if isSeparator c then [] :: piece :: more else (c :: piece) :: more

/-- The longest runs of characters without a separator. -/
def runs (isSeparator : Char → Bool) (text : List Char) : List (List Char) :=
  (pieces isSeparator text).filter (!·.isEmpty)

/-- The size of a text in UTF-8. -/
def byteSize : List Char → Nat
  | [] => 0
  | c :: rest => c.utf8Size + byteSize rest

end StoreSchema.Text
