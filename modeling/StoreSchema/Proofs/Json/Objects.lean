import StoreSchema.Json.Reader

/-! # Objects of texts

An object with one member is read from a brace, the key in quotes, a colon and a text that its value
is read from, if the other brace follows there.
-/

namespace StoreSchema

namespace Json.Reader

open StoreSchema.Text (Sign)

/-! ## Strings without escapes -/

/-- A character that stands for itself in a string. -/
def isPlain (c : Char) : Bool :=
  c ≠ '"' && c ≠ '\\' && 0x20 ≤ c.toNat

theorem takeUnit_plain {c : Char} (plain : isPlain c) (rest : List Sign) :
    takeUnit (some c :: rest) = some ⟨.char c, rest, length_lt_cons _ rest⟩ := by
  simp only [isPlain, Bool.and_eq_true, decide_eq_true_eq] at plain
  obtain ⟨⟨quote, backslash⟩, printed⟩ := plain
  rw [takeUnit]
  · exact if_neg (by simp [backslash, printed])
  · exact quote
  · exact fun _ _ _ _ _ _ => backslash
  · exact fun _ _ _ => backslash

theorem takeString_plain {text : List Char} (plain : ∀ c ∈ text, isPlain c) (rest : List Sign) :
    ∃ taken, takeString (text.map some ++ some '"' :: rest) = some taken ∧
      taken.part = some text ∧ taken.rest = rest := by
  induction text with
  | nil =>
      rw [List.map_nil, List.nil_append, takeString]
      exact ⟨_, rfl, rfl, rfl⟩
  | cons c others ih =>
      obtain ⟨here, later⟩ := List.forall_mem_cons.mp plain
      obtain ⟨taken, read, part, left⟩ := ih later
      rw [List.map_cons, List.cons_append, takeString, takeUnit_plain here]
      simp only [read]
      exact ⟨_, rfl, by rw [part]; rfl, left⟩

/-! ## Objects -/

/-- A text begins with a document, and what follows it is given. -/
def Reads (text : List Sign) (document : Document) (rest : List Sign) : Prop :=
  ∃ shorter, readDocument text = ⟨document, some ⟨rest, shorter⟩⟩

/-- The signs of an object with one member, up to its value. -/
def objectSigns (key : List Char) (body : List Sign) : List Sign :=
  some '{' :: some '"' :: (key.map some ++ some '"' :: some ':' :: body)

variable {body rest : List Sign} {document : Document} {key : List Char}

theorem Reads.lastMember (reads : Reads body document (some '}' :: rest))
    (plain : ∀ c ∈ key, isPlain c) :
    ∃ shorter, readMembers (some '"' :: (key.map some ++ some '"' :: some ':' :: body)) =
      ⟨([(some (String.ofList key), document)], .closed), some ⟨rest, shorter⟩⟩ := by
  obtain ⟨below, value⟩ := reads
  obtain ⟨taken, string, part, colon⟩ := takeString_plain plain (some ':' :: body)
  have shorter :
      rest.length < (some '"' :: (key.map some ++ some '"' :: some ':' :: body)).length := by
    simp only [List.length_cons, List.length_append] at below ⊢
    omega
  rw [readMembers]
  split
  next own shown =>
    cases shown
    simp only [string, part]
    split
    next again behind =>
      rw [colon] at behind
      cases behind
      simp only [value]
      split
      next shown => cases shown
      next c after shown =>
        cases shown
        exact ⟨shorter, rfl⟩
    next none => exact absurd (by rw [colon]; rfl) (none body)
  next none => exact absurd rfl (none _)

theorem Reads.object (reads : Reads body document (some '}' :: rest))
    (plain : ∀ c ∈ key, isPlain c) :
    Reads (objectSigns key body) (.obj [(some (String.ofList key), document)] .closed) rest := by
  obtain ⟨shorter, members⟩ := reads.lastMember plain
  rw [Reads, objectSigns, readDocument]
  split
  next shown => cases shown
  next c more shown =>
    cases shown
    refine ⟨Nat.lt_succ_of_lt shorter, ?_⟩
    rw [if_neg (by decide), if_pos (by decide)]
    split
    next after shown => cases shown
    next =>
      rw [members]
      rfl

end Json.Reader

theorem Document.ofSigns_reads {text : List Text.Sign} {document : Document}
    (reads : Json.Reader.Reads text document []) :
    (ofSigns text).1 = document.limited nestingLimit := by
  obtain ⟨shorter, read⟩ := reads
  rw [ofSigns, read]

end StoreSchema
