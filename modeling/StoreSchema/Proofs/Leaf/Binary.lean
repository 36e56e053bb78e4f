import Mathlib.Data.String.Basic
import StoreSchema.Leaf.Binary
import StoreSchema.Proofs.Leaf.Base64

/-! # What binary values answer

A binary value stands for one written form, whatever it keeps of it: what is kept is the form
itself or the bytes that it stands for, and what is missing is worked out to the same. Asking for
either does not change the form, so the answers do not depend on what was asked before, and values
with bytes are the same just where their bytes are.
-/

namespace StoreSchema.Leaf.Binary

/-! ## Texts in UTF-8 -/

theorem toList_loop (bytes : ByteArray) (position : Nat) (before : List UInt8) :
    ByteArray.toList.loop bytes position before =
      before.reverse ++ bytes.data.toList.drop position := by
  fun_induction ByteArray.toList.loop bytes position before with
  | case1 position before inside ih =>
      have shorter : position < bytes.data.toList.length := inside
      have here : bytes.get! position = bytes.data.toList[position] := by
        show bytes.data[position]! = _
        rw [getElem!_pos bytes.data position inside, Array.getElem_toList]
      rw [ih, List.drop_eq_getElem_cons shorter, here, List.reverse_cons, List.append_assoc,
        List.singleton_append]
  | case2 position before outside =>
      rw [List.drop_eq_nil_of_le (Nat.le_of_not_lt outside), List.append_nil]

theorem utf8_eq (text : String) : utf8 text = text.toByteArray.data.toList := by
  rw [utf8, String.toUTF8_eq_toByteArray, ByteArray.toList, toList_loop]
  rfl

theorem utf8_injective : Function.Injective utf8 := by
  intro one other same
  rw [utf8_eq, utf8_eq, Array.toList_inj] at same
  exact String.toByteArray_inj.mp (ByteArray.ext same)

theorem utf8_ofCodes {row : List UInt8} (ascii : ∀ b ∈ row, b.toNat < 0x80) :
    utf8 (String.ofList (row.map fun b => Char.ofNat b.toNat)) = row := by
  rw [utf8_eq, String.toByteArray_ofList, List.utf8Encode, List.toList_data_toByteArray]
  induction row with
  | nil => rfl
  | cons b rest ih =>
      obtain ⟨here, later⟩ := List.forall_mem_cons.mp ascii
      have each : ∀ code < 0x80, String.utf8EncodeChar (Char.ofNat code) = [UInt8.ofNat code] := by
        decide +kernel
      rw [List.map_cons, List.flatMap_cons, each b.toNat here, UInt8.ofNat_toNat, ih later,
        List.singleton_append]

/-! ## Written forms -/

theorem utf8_encode (row : List UInt8) : utf8 (encode row) = Base64.encode row := by
  obtain ⟨ns, spells, -⟩ := Base64.exists_spells row
  exact utf8_ofCodes spells.ascii

theorem decode_eq_ok_iff {text : String} {row : List UInt8} :
    decode text = .ok row ↔ encode row = text := by
  rw [decode, Base64.decode_eq_ok_iff_encode, ← utf8_encode, utf8_injective.eq_iff]

theorem decode_encoded (row : List UInt8) : decode (encode row) = .ok row :=
  decode_eq_ok_iff.mpr rfl

/-! ## Accesses -/

/-- What is asked of a binary value. -/
inductive Access where
  | text
  | bytes
  deriving Repr, DecidableEq

inductive Answer where
  | text (written : String)
  | bytes (read : Except Base64.Fault (List UInt8))
  deriving Repr, DecidableEq

/-- The answer to an access, and the value that has kept what was worked out. -/
def ask (binary : Binary) : Access → Answer × Binary
  | .text => (.text binary.getText.1, binary.getText.2)
  | .bytes => (.bytes binary.getBytes.1, binary.getBytes.2)

/-- The answers to accesses made one after the other. -/
def answers (binary : Binary) : List Access → List Answer
  | [] => []
  | access :: rest => (binary.ask access).1 :: answers (binary.ask access).2 rest

/-- The value after accesses made one after the other. -/
def after (binary : Binary) (accesses : List Access) : Binary :=
  accesses.foldl (fun binary access => (binary.ask access).2) binary

/-! ## The written form that a value stands for -/

/-- A value stands for a written form: what it keeps is the form or its bytes, and from bytes alone
    the form is worked out. -/
structure Stands (text : String) (binary : Binary) : Prop where
  written : ∀ kept ∈ binary.written, kept = text
  bytes : ∀ kept ∈ binary.bytes, decode text = .ok kept
  missing : binary.written = none → encode (binary.bytes.getD []) = text

/-- What a value answers that stands for a written form. -/
def answerOf (text : String) : Access → Answer
  | .text => .text text
  | .bytes => .bytes (decode text)

namespace Stands

variable {text : String} {binary : Binary}

theorem getText (stands : Stands text binary) :
    binary.getText.1 = text ∧ Stands text binary.getText.2 := by
  unfold Binary.getText
  cases kept : binary.written with
  | some own => exact ⟨stands.written own kept, stands⟩
  | none =>
      have worked := stands.missing kept
      exact ⟨worked, by simp [worked], stands.bytes, by simp⟩

theorem getBytes (stands : Stands text binary) :
    binary.getBytes.1 = decode text ∧ Stands text binary.getBytes.2 := by
  unfold Binary.getBytes
  cases kept : binary.bytes with
  | some own => exact ⟨(stands.bytes own kept).symm, stands⟩
  | none =>
      obtain ⟨same, standsStill⟩ := stands.getText
      simp only [same]
      cases read : decode text with
      | error fault => exact ⟨rfl, standsStill⟩
      | ok row =>
          refine ⟨rfl, standsStill.written, ?_, fun _ => decode_eq_ok_iff.mp read⟩
          rintro kept ⟨⟩
          exact read

/-- One access answers by the form, and the value stands for it still. -/
theorem ask (stands : Stands text binary) (access : Access) :
    (binary.ask access).1 = answerOf text access ∧ Stands text (binary.ask access).2 := by
  cases access with
  | text =>
      obtain ⟨same, standsStill⟩ := stands.getText
      exact ⟨congrArg Answer.text same, standsStill⟩
  | bytes =>
      obtain ⟨same, standsStill⟩ := stands.getBytes
      exact ⟨congrArg Answer.bytes same, standsStill⟩

theorem after (stands : Stands text binary) (accesses : List Access) :
    Stands text (binary.after accesses) := by
  induction accesses generalizing binary with
  | nil => exact stands
  | cons access rest ih => exact ih (stands.ask access).2

theorem answers (stands : Stands text binary) (accesses : List Access) :
    binary.answers accesses = accesses.map (answerOf text) := by
  induction accesses generalizing binary with
  | nil => rfl
  | cons access rest ih =>
      obtain ⟨same, standsStill⟩ := stands.ask access
      rw [Binary.answers, List.map_cons, same, ih standsStill]

theorem same_iff {other : Binary} {otherText : String} (stands : Stands text binary)
    (otherStands : Stands otherText other) : same binary other = true ↔ text = otherText := by
  rw [same, beq_iff_eq, stands.getText.1, otherStands.getText.1]

end Stands

/-! ## Where values come from -/

/-- What a binary value is made from. -/
inductive Source where
  | bytes (row : List UInt8)
  /-- A written form that has to stand for bytes. -/
  | checked (text : String)
  | unchecked (text : String)
  | nothing
  deriving Repr, DecidableEq

namespace Source

/-- The value that is made. -/
def make : Source → Except Base64.Fault Binary
  | .bytes row => .ok (ofBytes row)
  | .checked text => ofText text
  | .unchecked text => .ok (Binary.unchecked text)
  | .nothing => .ok {}

/-- The written form of a source: its own, or that of its bytes. -/
def text : Source → String
  | .bytes row => encode row
  | .checked text | .unchecked text => text
  | .nothing => ""

/-- The bytes of a source: its own, or those that its written form stands for. -/
def read : Source → Except Base64.Fault (List UInt8)
  | .bytes row => .ok row
  | .checked text | .unchecked text => decode text
  | .nothing => .ok []

/-- What a source answers. -/
def answer (source : Source) : Access → Answer
  | .text => .text source.text
  | .bytes => .bytes source.read

theorem decode_text (source : Source) : decode source.text = source.read := by
  cases source with
  | bytes row => exact decode_encoded row
  | checked text | unchecked text => rfl
  | nothing => exact decode_encoded []

theorem answerOf_text (source : Source) : answerOf source.text = source.answer := by
  funext access
  cases access with
  | text => rfl
  | bytes => exact congrArg Answer.bytes source.decode_text

theorem stands {source : Source} {binary : Binary} (made : source.make = .ok binary) :
    Stands source.text binary := by
  cases source with
  | bytes row =>
      cases made
      refine ⟨by simp [ofBytes], ?_, fun _ => rfl⟩
      rintro kept ⟨⟩
      exact decode_encoded row
  | checked text =>
      obtain ⟨row, read, done⟩ := Outcome.bind_eq_ok.mp made
      cases done
      refine ⟨?_, ?_, fun unwritten => by cases unwritten⟩
      · rintro kept ⟨⟩
        rfl
      · rintro kept ⟨⟩
        exact read
  | unchecked text =>
      cases made
      refine ⟨?_, by simp [Binary.unchecked], fun unwritten => by cases unwritten⟩
      rintro kept ⟨⟩
      rfl
  | nothing =>
      cases made
      exact ⟨by simp, by simp, fun _ => rfl⟩

theorem text_eq_iff {source other : Source} {row otherRow : List UInt8}
    (read : source.read = .ok row) (otherRead : other.read = .ok otherRow) :
    source.text = other.text ↔ row = otherRow := by
  rw [← decode_text, decode_eq_ok_iff] at read otherRead
  rw [← read, ← otherRead]
  constructor
  · intro same
    have back := congrArg decode same
    rw [decode_encoded, decode_encoded] at back
    exact Except.ok.inj back
  · exact congrArg encode

end Source

/-- What is kept never shows. A value answers by its source, whatever was asked of it before, and
    two values with bytes are the same just where their bytes are, whatever they were made from and
    asked. -/
theorem kept_parts_never_show {source : Source} {binary : Binary}
    (made : source.make = .ok binary) :
    (∀ before accesses, (binary.after before).answers accesses = accesses.map source.answer) ∧
      ∀ (other : Source) (otherBinary : Binary), other.make = .ok otherBinary →
        ∀ row otherRow, source.read = .ok row → other.read = .ok otherRow →
          ∀ asked otherAsked,
            (same (binary.after asked) (otherBinary.after otherAsked) = true ↔ row = otherRow) := by
  have stands := Source.stands made
  constructor
  · intro before accesses
    rw [(stands.after before).answers, source.answerOf_text]
  · intro other otherBinary otherMade row otherRow read otherRead asked otherAsked
    have otherStands := Source.stands otherMade
    rw [(stands.after asked).same_iff (otherStands.after otherAsked)]
    exact Source.text_eq_iff read otherRead

theorem sample_kept_parts_never_show :
    (ofBytes [0x48, 0x69]).answers [.bytes, .text, .bytes] =
        [.bytes (.ok [0x48, 0x69]), .text "SGk=", .bytes (.ok [0x48, 0x69])] ∧
      same ((ofBytes [0x48, 0x69]).after [.text]) ((unchecked "SGk=").after [.bytes]) = true := by
  have made : (Source.bytes [0x48, 0x69]).make = .ok (ofBytes [0x48, 0x69]) := rfl
  have otherMade : (Source.unchecked "SGk=").make = .ok (unchecked "SGk=") := rfl
  have otherRead : (Source.unchecked "SGk=").read = .ok [0x48, 0x69] :=
    decode_eq_ok_iff.mpr (by decide +kernel)
  obtain ⟨answered, alike⟩ := kept_parts_never_show made
  refine ⟨(answered [] [.bytes, .text, .bytes]).trans (by decide +kernel), ?_⟩
  exact (alike _ _ otherMade _ _ rfl otherRead [.text] [.bytes]).mpr rfl

end StoreSchema.Leaf.Binary
