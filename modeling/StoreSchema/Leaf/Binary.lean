import StoreSchema.Json.Decoding
import StoreSchema.Leaf.Base64

/-! # Binary values

A binary value is held as its written form, as its bytes, or as both. What is missing is worked out
when it is first asked for, and kept.
-/

namespace StoreSchema.Leaf

structure Binary where
  written : Option String := none
  bytes : Option (List UInt8) := none
  deriving Repr, DecidableEq

namespace Binary

/-- The bytes of a text in UTF-8. -/
def utf8 (text : String) : List UInt8 :=
  text.toUTF8.toList

/-- The bytes that a written form stands for. -/
def decode (text : String) : Except Base64.Fault (List UInt8) :=
  Base64.decode (utf8 text)

/-- The written form of a row of bytes. -/
def encode (bytes : List UInt8) : String :=
  String.ofList ((Base64.encode bytes).map fun b => Char.ofNat b.toNat)

def ofBytes (bytes : List UInt8) : Binary :=
  { bytes := some bytes }

/-- The value with a written form, which has to stand for bytes. -/
def ofText (text : String) : Except Base64.Fault Binary := do
  let bytes ← decode text
  pure ⟨some text, some bytes⟩

/-- The value with a written form that nobody has checked. -/
def unchecked (text : String) : Binary :=
  { written := some text }

/-- The written form, and the value that keeps it. -/
def getText (binary : Binary) : String × Binary :=
  match binary.written with
  | some text => (text, binary)
  | none =>
    let text := encode (binary.bytes.getD [])
    (text, { binary with written := some text })

/-- The bytes, and the value that keeps them. A written form that stands for none is reported every
    time. -/
def getBytes (binary : Binary) : Except Base64.Fault (List UInt8) × Binary :=
  match binary.bytes with
  | some bytes => (.ok bytes, binary)
  | none =>
    let (text, binary) := binary.getText
    match decode text with
    | .ok bytes => (.ok bytes, { binary with bytes := some bytes })
    | .error fault => (.error fault, binary)

/-- Values are the same when their written forms are. -/
def same (a b : Binary) : Bool :=
  a.getText.1 == b.getText.1

inductive Misfit where
  | shape (fault : ShapeError)
  | invalid (fault : Base64.Fault)
  deriving Repr, DecidableEq

def Misfit.message : Misfit → String
  | .shape fault => fault.message
  | .invalid fault => "Binary: " ++ fault.message

/-- The binary value that a value states. -/
def ofJson : Json → Except Misfit Binary
  | .str text =>
    match ofText text with
    | .ok binary => .ok binary
    | .error fault => .error (.invalid fault)
  | value => .error (.shape ⟨value.text, ["base64 string"], "Binary"⟩)

def toJson (binary : Binary) : Json :=
  .str binary.getText.1

end Binary

end StoreSchema.Leaf
