/-! # Spans of code points

A character property is stored as the spans of code points that have it. Spans are inclusive at
both ends; a strided span holds every second code point, as alphabets that list capital and
small letters in turn do.
-/

namespace StoreSchema.Text

/-- Whether a code point lies in one of the spans. -/
def inSpans (spans : Array (Nat × Nat)) (code : Nat) : Bool :=
  spans.any fun (first, last) => first ≤ code && code ≤ last

/-- Whether a code point lies in one of the spans `(first, last, stride)`. -/
def inStridedSpans (spans : Array (Nat × Nat × Nat)) (code : Nat) : Bool :=
  spans.any fun (first, last, stride) =>
    first ≤ code && code ≤ last && (code - first) % stride == 0

end StoreSchema.Text
