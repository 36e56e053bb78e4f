import StoreSchema.Text.Decimal

/-! # Base 64

Three bytes are written as four symbols. The last group is filled up with pads, and what it holds
beyond its bytes has to be zero, so each row of bytes has one written form.
-/

namespace StoreSchema.Base64

/-- The pad. -/
def pad : UInt8 := 0x3d

/-- The symbol of a number below 64. -/
def symbol (n : Nat) : UInt8 :=
  if n < 26 then UInt8.ofNat (0x41 + n)
  else if n < 52 then UInt8.ofNat (0x61 + (n - 26))
  else if n < 62 then UInt8.ofNat (0x30 + (n - 52))
  else if n = 62 then 0x2b
  else 0x2f

/-- The number of a symbol. -/
def value? (b : UInt8) : Option Nat :=
  let n := b.toNat
  if 0x41 ≤ n && n ≤ 0x5a then some (n - 0x41)
  else if 0x61 ≤ n && n ≤ 0x7a then some (n - 0x61 + 26)
  else if 0x30 ≤ n && n ≤ 0x39 then some (n - 0x30 + 52)
  else if n = 0x2b then some 62
  else if n = 0x2f then some 63
  else none

/-- Why a text is no written form. -/
inductive Fault where
  | invalidSymbol (symbol : UInt8) (offset : Nat)
  | invalidLength (length : Nat)
  /-- The last symbol holds more than belongs to the last byte. -/
  | invalidLastSymbol (symbol : UInt8) (offset : Nat)
  | invalidPadding
  deriving Repr, DecidableEq

/-- The text of a fault. -/
def Fault.message : Fault → String
  | .invalidSymbol symbol offset =>
    "Invalid symbol " ++ String.ofList (Text.digits symbol.toNat) ++ ", offset " ++
      String.ofList (Text.digits offset) ++ "."
  | .invalidLength length => "Invalid input length: " ++ String.ofList (Text.digits length)
  | .invalidLastSymbol symbol offset =>
    "Invalid last symbol " ++ String.ofList (Text.digits symbol.toNat) ++ ", offset " ++
      String.ofList (Text.digits offset) ++ "."
  | .invalidPadding => "Invalid padding"

/-! ## Writing -/

/-- The written form of a row of bytes. -/
def encode : List UInt8 → List UInt8
  | [] => []
  | [a] => [symbol (a.toNat / 4), symbol (a.toNat % 4 * 16), pad, pad]
  | [a, b] =>
    [symbol (a.toNat / 4), symbol (a.toNat % 4 * 16 + b.toNat / 16), symbol (b.toNat % 16 * 4), pad]
  | a :: b :: c :: rest =>
    symbol (a.toNat / 4) :: symbol (a.toNat % 4 * 16 + b.toNat / 16) ::
      symbol (b.toNat % 16 * 4 + c.toNat / 64) :: symbol (c.toNat % 64) :: encode rest

/-! ## Reading -/

/-- The bytes that groups of four numbers hold; a last group of three or two holds fewer. -/
def bytes : List Nat → List UInt8
  | a :: b :: c :: d :: rest =>
    UInt8.ofNat (a * 4 + b / 16) :: UInt8.ofNat (b % 16 * 16 + c / 4) ::
      UInt8.ofNat (c % 4 * 64 + d) :: bytes rest
  | [a, b, c] => [UInt8.ofNat (a * 4 + b / 16), UInt8.ofNat (b % 16 * 16 + c / 4)]
  | [a, b] => [UInt8.ofNat (a * 4 + b / 16)]
  | _ => []

/-- The numbers of a row of symbols that begins at an offset. -/
def values (offset : Nat) : List UInt8 → Except Fault (List Nat)
  | [] => .ok []
  | b :: rest =>
    match value? b with
    | none => .error (.invalidSymbol b offset)
    | some n => do
      let ns ← values (offset + 1) rest
      pure (n :: ns)

/-- The numbers of the last group, without its pads. Pads may follow the second symbol only, and
    nothing may follow them. -/
def lastValues (offset index : Nat) : List UInt8 → Except Fault (List Nat)
  | [] => .ok []
  | b :: rest =>
    if b = pad then
      if index < 2 || rest.any (· ≠ pad) then .error (.invalidSymbol pad (offset + index))
      else .ok []
    else
      match value? b with
      | none => .error (.invalidSymbol b (offset + index))
      | some n => do
        let ns ← lastValues offset (index + 1) rest
        pure (n :: ns)

/-- Whether the numbers of the last group hold nothing beyond its bytes. -/
def isExact : List Nat → Bool
  | [_, b] => b % 16 = 0
  | [_, _, c] => c % 4 = 0
  | _ => true

/-- Reads the last group, which begins at an offset. -/
def decodeLast (offset : Nat) (group : List UInt8) : Except Fault (List Nat) := do
  let ns ← lastValues offset 0 group
  if !group.isEmpty && ns.length < 2 then .error (.invalidLength (offset + ns.length))
  else if group.length % 4 ≠ 0 then .error .invalidPadding
  else if isExact ns then pure ns
  else
    .error (.invalidLastSymbol ((group[ns.length - 1]?).getD pad) (offset + ns.length - 1))

/-- The size of the last group, which is full unless symbols are missing. -/
def lastSize (length : Nat) : Nat :=
  if length % 4 = 0 then min length 4 else length % 4

/-- A stray byte behind full groups, such as a line break. -/
def stray? (symbols : List UInt8) : Option UInt8 :=
  if symbols.length % 4 = 1 then
    symbols.getLast?.filter fun b => b ≠ pad && (value? b).isNone
  else none

/-- The bytes that a written form stands for. -/
def decode (symbols : List UInt8) : Except Fault (List UInt8) :=
  match stray? symbols with
  | some b => .error (.invalidSymbol b (symbols.length - 1))
  | none => do
    let offset := symbols.length - lastSize symbols.length
    let first ← values 0 (symbols.take offset)
    let last ← decodeLast offset (symbols.drop offset)
    pure (bytes (first ++ last))

end StoreSchema.Base64
