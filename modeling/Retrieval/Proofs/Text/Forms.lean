import Retrieval.Proofs.Ident
import Retrieval.Text.Percent

/-!
# Writings of form components

A client has a choice when it writes a text into a query string. Every byte of a character may be
escaped, with digits of either case; a character without a meaning in queries may stand for itself;
a space is also a plus sign. `Writes` relates a text to all its writings, and each of them is read
back as the text (`Writes.decodeForm_eq`). None holds a character at which a query is cut
(`Writes.uncut`), so components can be joined to a query and taken apart again.
-/

namespace Retrieval.Text

theorem replace_append (old new : Char) (text rest : List Char) :
    replace old new (text ++ rest) = replace old new text ++ replace old new rest :=
  List.map_append

/-- Nothing is replaced where the character is absent. -/
theorem replace_of_not_mem {old : Char} (new : Char) {text : List Char} (h : old ∉ text) :
    replace old new text = text := by
  refine (List.map_congr_left fun c mem => if_neg ?_).trans (List.map_id' text)
  intro eq
  exact h (eq ▸ mem)

namespace Percent

/-- The characters at which a query is cut. -/
def cuts : List Char := ['&', '=', '?']

/-- The characters that mean something in a query: those at which it is cut, and the plus sign. -/
def marks : List Char := '+' :: cuts

/-- Whether a character has no meaning in a query and begins no escape, so that it may stand for
itself. -/
def isPlain (c : Char) : Bool := c ∉ '%' :: marks

/-- The writings of a byte: its character if it is unreserved, or the two digits of its value. -/
inductive WritesByte (byte : UInt8) : List Char → Prop where
  | unreserved (h : isUnreserved byte) : WritesByte byte [Char.ofNat byte.toNat]
  | escaped {high low : Char} (h : byte? high low = some byte) : WritesByte byte ['%', high, low]

/-- The writings of a text as a component of a query. -/
inductive Writes : List Char → List Char → Prop where
  | nil : Writes [] []
  | plain {c : Char} {text written : List Char} (h : isPlain c) (rest : Writes text written) :
      Writes (c :: text) (c :: written)
  | space {text written : List Char} (rest : Writes text written) :
      Writes (' ' :: text) ('+' :: written)
  | bytes {c : Char} {pieces : List (List Char)} {text written : List Char}
      (each : List.Forall₂ WritesByte (String.utf8EncodeChar c) pieces)
      (rest : Writes text written) : Writes (c :: text) (pieces.flatten ++ written)

/-- A plain character means nothing in a query. -/
theorem ne_of_isPlain {c : Char} (h : isPlain c) {d : Char} (meaning : d ∈ '%' :: marks) : c ≠ d := by
  rintro rfl
  exact of_decide_eq_true h meaning

/-! ## Bytes -/

namespace WritesByte

variable {byte : UInt8} {piece : List Char}

/-- An escape writes its byte. -/
theorem escapeByte (byte : UInt8) : WritesByte byte (escapeByte byte) := by
  rw [Percent.escapeByte]
  split
  case isTrue h => exact .unreserved h
  case isFalse => exact .escaped (byte?_hexDigit byte)

/-- What writes a byte is read as the byte, whatever stands behind. -/
theorem unescape_append (h : WritesByte byte piece) (rest : List Char) :
    unescape (piece ++ rest) = byte :: unescape rest := by
  cases h with
  | unreserved h =>
    obtain ⟨plain, single⟩ := encodeChar_of_isUnreserved h
    rw [List.singleton_append, unescape_cons plain, single, List.singleton_append]
  | escaped h =>
    rw [List.cons_append, List.cons_append, List.singleton_append, unescape, h]

/-- No mark is unreserved, and none is a digit. -/
theorem unmarked (h : WritesByte byte piece) {c : Char} (mark : c ∈ marks) : c ∉ piece := by
  have facts : marks.all fun c => (String.utf8EncodeChar c).all isUnreserved = false ∧ c ≠ '%' ∧
      hexDigit? c = none := by decide
  obtain ⟨reserved, percent, digit⟩ := of_decide_eq_true (List.all_eq_true.1 facts c mark)
  intro mem
  cases h with
  | unreserved h =>
    rw [List.mem_singleton] at mem
    rw [mem, (encodeChar_of_isUnreserved h).2, List.all_cons, h, List.all_nil] at reserved
    exact Bool.noConfusion reserved
  | @escaped high low h =>
    obtain ⟨left, high?, right, low?, -⟩ : ∃ left, hexDigit? high = some left ∧
        ∃ right, hexDigit? low = some right ∧ some (UInt8.ofNat (16 * left + right)) = some byte := by
      simpa [byte?, Option.bind_eq_some_iff] using h
    rcases List.mem_cons.1 mem with rfl | mem
    · exact percent rfl
    · rcases List.mem_pair.1 mem with rfl | rfl
      · rw [digit] at high?
        exact Option.some_ne_none left high?.symm
      · rw [digit] at low?
        exact Option.some_ne_none right low?.symm

end WritesByte

/-- The writings of bytes one behind the other are undone one by one. -/
theorem unescape_flatten {bytes : List UInt8} {pieces : List (List Char)}
    (each : List.Forall₂ WritesByte bytes pieces) (rest : List Char) :
    unescape (pieces.flatten ++ rest) = bytes ++ unescape rest := by
  induction each with
  | nil => rfl
  | cons head _ ih =>
    rw [List.flatten_cons, List.append_assoc, head.unescape_append, ih, List.cons_append]

/-- A written byte has no character that separates. -/
theorem not_mem_flatten {bytes : List UInt8} {pieces : List (List Char)}
    (each : List.Forall₂ WritesByte bytes pieces) {c : Char} (mark : c ∈ marks) :
    c ∉ pieces.flatten := by
  induction each with
  | nil => exact List.not_mem_nil
  | cons head _ ih =>
    rw [List.flatten_cons, List.mem_append, not_or]
    exact ⟨head.unmarked mark, ih⟩

/-! ## Texts -/

namespace Writes

variable {text written : List Char}

/-- The escaped form of a text is one of its writings. -/
theorem encode (text : List Char) : Writes text (encode text) := by
  induction text with
  | nil => exact .nil
  | cons c text ih =>
    have each : List.Forall₂ WritesByte (String.utf8EncodeChar c)
        ((String.utf8EncodeChar c).map Percent.escapeByte) := by
      rw [List.forall₂_map_right_iff, List.forall₂_same]
      exact fun byte _ => .escapeByte byte
    have first : Percent.encode (c :: text) =
        ((String.utf8EncodeChar c).map Percent.escapeByte).flatten ++ Percent.encode text := by
      rw [Percent.encode, Utf8.encode, List.flatMap_cons, List.flatMap_append, List.flatMap_def]
      rfl
    rw [first]
    exact .bytes each ih

/-- Texts are written one behind another. -/
theorem append {rest : List Char} {after : List Char} (h : Writes text written)
    (h' : Writes rest after) : Writes (text ++ rest) (written ++ after) := by
  induction h with
  | nil => exact h'
  | plain h _ ih => exact .plain h ih
  | space _ ih => exact .space ih
  | bytes each _ ih =>
    rw [List.append_assoc]
    exact .bytes each ih

/-- A text of plain characters may be written as it is. -/
theorem refl_of_plain (h : text.all isPlain) : Writes text text := by
  induction text with
  | nil => exact .nil
  | cons c text ih =>
    rw [List.all_cons, Bool.and_eq_true] at h
    exact .plain h.1 (ih h.2)

/-- Every writing of a text is read as the text. -/
theorem decodeForm_eq (h : Writes text written) : decodeForm written = text := by
  suffices bytes : unescape (replace '+' ' ' written) = Utf8.encode text by
    rw [decodeForm, decode, bytes, Utf8.decode_encode]
  induction h with
  | nil => rfl
  | @plain c text written h _ ih =>
    have first : replace '+' ' ' (c :: written) = c :: replace '+' ' ' written := by
      rw [replace, List.map_cons, if_neg (ne_of_isPlain h (by decide)), ← replace]
    rw [first, unescape_cons (ne_of_isPlain h (by decide)), ih, Utf8.encode, Utf8.encode, List.flatMap_cons]
  | @space text written _ ih =>
    have first : replace '+' ' ' ('+' :: written) = ' ' :: replace '+' ' ' written := rfl
    rw [first, unescape_cons (by decide), ih, Utf8.encode, Utf8.encode, List.flatMap_cons]
  | @bytes c pieces text written each _ ih =>
    rw [replace_append, replace_of_not_mem ' ' (not_mem_flatten each (by decide)),
      unescape_flatten each, ih, Utf8.encode, Utf8.encode, List.flatMap_cons]

/-- A writing may hold plus signs, but no character at which a query is cut. -/
theorem uncut (h : Writes text written) {c : Char} (cut : c ∈ cuts) : c ∉ written := by
  have mark : c ∈ marks := List.mem_cons_of_mem _ cut
  induction h with
  | nil => exact List.not_mem_nil
  | plain h _ ih =>
    rw [List.mem_cons, not_or]
    exact ⟨(ne_of_isPlain h (List.mem_cons_of_mem _ mark)).symm, ih⟩
  | space _ ih =>
    rw [List.mem_cons, not_or]
    refine ⟨?_, ih⟩
    rintro rfl
    exact absurd cut (by decide)
  | bytes each _ ih =>
    rw [List.mem_append, not_or]
    exact ⟨not_mem_flatten each mark, ih⟩

end Writes

end Percent

end Retrieval.Text
