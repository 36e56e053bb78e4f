/-! # Signs

What a row of bytes holds when it is read as UTF-8: characters, and stray bytes that belong to no
character.
-/

namespace StoreSchema.Text

/-- A character, or nothing for a stray byte. -/
abbrev Sign := Option Char

/-- The signs of a text, which has no stray bytes. -/
def signs (text : String) : List Sign :=
  text.toList.map some

/-- The signs that bytes hold from a position on. -/
def signsFrom (bytes : ByteArray) (position : Nat) : List Sign :=
  if position < bytes.size then
    match bytes.utf8DecodeChar? position with
    | some c => some c :: signsFrom bytes (position + c.utf8Size)
    | none => none :: signsFrom bytes (position + 1)
  else []
termination_by bytes.size - position
decreasing_by
  · have := Char.utf8Size_pos c
    omega
  · omega

def signsOf (bytes : ByteArray) : List Sign :=
  signsFrom bytes 0

end StoreSchema.Text
