import Retrieval.Text.Split
import Retrieval.Text.Utf8

/-!
# Percent escapes

Escapes are those of URIs: a byte is written as a percent sign and two hexadecimal digits of either
case. Web forms also write a space as a plus sign.

Where the notation leaves open what an ill-formed text means, reading is lenient and never fails. A
percent sign without two digits behind it stands for itself. Unescaping yields bytes, which are then
read as UTF-8, so escapes may spell a character in parts, and bytes that spell none are read as the
replacement character.

What is escaped when a text is written are all bytes but those of unreserved characters. Undoing the
escapes of a text gives the text back (`decode_encode`).
-/

namespace Retrieval.Text.Percent

/-- The value of a hexadecimal digit of either case. -/
def hexDigit? (c : Char) : Option Nat :=
  if '0' ≤ c ∧ c ≤ '9' then some (c.toNat - '0'.toNat)
  else if 'a' ≤ c ∧ c ≤ 'f' then some (c.toNat - 'a'.toNat + 10)
  else if 'A' ≤ c ∧ c ≤ 'F' then some (c.toNat - 'A'.toNat + 10)
  else none

/-- The byte two hexadecimal digits write. -/
def byte? (high low : Char) : Option UInt8 := do
  return UInt8.ofNat (16 * (← hexDigit? high) + (← hexDigit? low))

/-- The bytes of a text with its escapes undone. -/
def unescape : List Char → List UInt8
  | '%' :: high :: low :: rest =>
    match byte? high low with
    | some byte => byte :: unescape rest
    | none => String.utf8EncodeChar '%' ++ unescape (high :: low :: rest)
  | c :: rest => String.utf8EncodeChar c ++ unescape rest
  | [] => []

/-- The text with its escapes undone. -/
def decode (text : List Char) : List Char := Utf8.decode (unescape text)

/-- The text of a form component: plus signs are spaces, then escapes are undone. -/
def decodeForm (text : List Char) : List Char := decode (replace '+' ' ' text)

/-! ## Escaping -/

/-- Whether a byte is written as itself: an ASCII letter or digit, or one of four marks. -/
def isUnreserved (byte : UInt8) : Bool :=
  let c := Char.ofNat byte.toNat
  byte < 0x80 && (c.isAlphanum || c = '-' || c = '.' || c = '_' || c = '~')

/-- The upper-case hexadecimal digit of a value below sixteen. -/
def hexDigit (value : Nat) : Char :=
  if value < 10 then Char.ofNat ('0'.toNat + value) else Char.ofNat ('A'.toNat + (value - 10))

/-- The escape of a byte, or its character where none is needed. -/
def escapeByte (byte : UInt8) : List Char :=
  if isUnreserved byte then [Char.ofNat byte.toNat]
  else ['%', hexDigit (byte.toNat / 16), hexDigit (byte.toNat % 16)]

/-- The text with every byte escaped that is not unreserved. -/
def encode (text : List Char) : List Char := (Utf8.encode text).flatMap escapeByte

/-! ## Undoing an escape -/

/-- Every digit is read back. -/
theorem hexDigit?_hexDigit {value : Nat} (h : value < 16) :
    hexDigit? (hexDigit value) = some value := by
  revert value
  decide

/-- Two digits write their byte. -/
theorem byte?_hexDigit (byte : UInt8) :
    byte? (hexDigit (byte.toNat / 16)) (hexDigit (byte.toNat % 16)) = some byte := by
  have small := byte.toNat_lt
  rw [byte?, hexDigit?_hexDigit (by omega), hexDigit?_hexDigit (by omega)]
  change some (UInt8.ofNat (16 * (byte.toNat / 16) + byte.toNat % 16)) = some byte
  rw [Nat.div_add_mod, UInt8.ofNat_toNat]

/-- An unreserved byte is an ASCII character, and not the percent sign. -/
theorem encodeChar_of_isUnreserved {byte : UInt8} (h : isUnreserved byte) :
    Char.ofNat byte.toNat ≠ '%' ∧ String.utf8EncodeChar (Char.ofNat byte.toNat) = [byte] := by
  have ascii : ∀ n < 128, isUnreserved (UInt8.ofNat n) →
      Char.ofNat n ≠ '%' ∧ String.utf8EncodeChar (Char.ofNat n) = [UInt8.ofNat n] := by decide
  have small : byte.toNat < 128 := by
    have := (Bool.and_eq_true_iff.1 h).1
    exact UInt8.lt_iff_toNat_lt.1 (of_decide_eq_true this)
  rw [← UInt8.ofNat_toNat (x := byte)] at h
  simpa using ascii byte.toNat small h

/-- A character other than `%` stands for its bytes. -/
theorem unescape_cons {c : Char} (h : c ≠ '%') (rest : List Char) :
    unescape (c :: rest) = String.utf8EncodeChar c ++ unescape rest := by
  rw [unescape]
  intro high low tail eq
  exact absurd eq h

/-- Undoing the escape of a byte gives the byte. -/
theorem unescape_escapeByte (byte : UInt8) (rest : List Char) :
    unescape (escapeByte byte ++ rest) = byte :: unescape rest := by
  rw [escapeByte]
  split
  case isTrue h =>
    obtain ⟨plain, single⟩ := encodeChar_of_isUnreserved h
    rw [List.singleton_append, unescape_cons plain, single, List.singleton_append]
  case isFalse =>
    simp only [List.cons_append, List.nil_append]
    rw [unescape, byte?_hexDigit]

/-- Every text is read back from its escaped form. -/
theorem decode_encode (text : List Char) : decode (encode text) = text := by
  have bytes (bytes : List UInt8) : unescape (bytes.flatMap escapeByte) = bytes := by
    induction bytes with
    | nil => simp [unescape]
    | cons byte bytes ih => rw [List.flatMap_cons, unescape_escapeByte, ih]
  rw [decode, encode, bytes, Utf8.decode_encode]

end Retrieval.Text.Percent
