import Retrieval.Text.Percent
import Retrieval.Text.Scan
import Retrieval.Value.Basic
import Retrieval.Value.Numeral

/-!
# Scalars of TOML text

What stands without quotes where a value may stand: a truth value, a number, or a date or time. A
date may be followed by a time and the time by an offset; seconds may be left out.

Digits may be grouped by underscores. Whole numbers may be hexadecimal, octal or binary. A number
may have the form of one and no value: it is out of range, it has a base but no digits, or there are
other characters between the digits of its groups.
-/

namespace Retrieval.Toml

open Text (Scan scanRun?)

/-! ## Numbers -/

/-- The digits of a text without the underscores between them. -/
def ungroup? (isDigit : Char → Bool) (text : List Char) : Option (List Char) :=
  let groups := Text.split '_' text
  if groups.all fun group => !group.isEmpty && group.all isDigit then some groups.flatten else none

/-- The number that digits write in a base. -/
def ofDigits (base : Nat) (digits : List Char) : Nat :=
  digits.foldl (fun n c => base * n + (Text.Percent.hexDigit? c).getD 0) 0

/-- Whether a character is a digit in a base. -/
def isDigitOf (base : Nat) (c : Char) : Bool := (Text.Percent.hexDigit? c).any (· < base)

/-- A text without a sign, and whether the sign was a minus. -/
def unsign : List Char → Bool × List Char
  | '-' :: rest => (true, rest)
  | '+' :: rest => (false, rest)
  | text => (false, text)

/-- Whether a text begins with a zero and goes on. -/
def isPadded (text : List Char) : Bool := text.head? = some '0' && 1 < text.length

/-- Whether every underscore in a text stands between two hexadecimal digits. -/
def isGrouped : List Char → Bool
  | [] => true
  | [c] => c ≠ '_'
  | a :: b :: rest =>
    (b ≠ '_' || isDigitOf 16 a) && (a ≠ '_' || isDigitOf 16 b) && isGrouped (b :: rest)

/-- Whether a whole number fits into 128 bits, with or without a sign. -/
def isWithin (n : Int) : Bool :=
  -0x80000000000000000000000000000000 ≤ n && n ≤ 0xffffffffffffffffffffffffffffffff

/-- The value of a whole number, given how it is written. -/
def ofInt (written : List Char) (n : Int) : Value :=
  if isWithin n then .int n else .unreadable (String.ofList written)

/-- The value of a whole number in a base, given what stands behind its mark. -/
def based? (base : Nat) (word digits : List Char) : Option Value :=
  if digits.isEmpty then some (.unreadable (String.ofList word))
  else (ungroup? (isDigitOf base) digits).map fun digits => ofInt word (ofDigits base digits)

/-- The value of a decimal whole number. Behind its first digit it goes on with digits or with an
underscore; behind an underscore it may go on with anything, and then it has no value. -/
def whole? (word : List Char) : Option Value :=
  let (negative, number) := unsign word
  let rest := number.dropWhile Char.isDigit
  if number.head?.any Char.isDigit && !isPadded number && (rest.isEmpty || rest.head? = some '_')
      && isGrouped number then
    match ungroup? Char.isDigit number with
    | some digits =>
      let n := ofDigits 10 digits
      some (ofInt word (if negative then -n else n))
    | none => some (.unreadable (String.ofList word))
  else none

/-! ## Fractional numbers -/

/-- Whether a word has a fraction or an exponent. -/
def isFractional (word : List Char) : Bool := word.any ['.', 'e', 'E'].contains

/-- Whether a text is digits in groups. -/
def isDigits (text : List Char) : Bool := (ungroup? Char.isDigit text).isSome

/-- Whether a text is an exponent without its mark: digits behind an optional sign. -/
def isExponent (text : List Char) : Bool := isDigits (unsign text).2

/-- Whether a text is a number with a fraction or an exponent. -/
def isReal (text : List Char) : Bool :=
  let number := (unsign text).2
  let mantissa := number.takeWhile fun c => c ≠ 'e' && c ≠ 'E'
  let exponent := (number.drop mantissa.length).drop 1
  let scaled := mantissa.length < number.length
  let (whole, fraction) := Text.cut '.' mantissa
  (!scaled || isExponent exponent) && isDigits whole && !isPadded whole && fraction.all isDigits

/-- The value of a number with a fraction or an exponent: the nearest in double precision. One that
is too large has no value. -/
def real? (word : List Char) : Option Value := do
  let (negative, number) := unsign word
  let numeral ← Numeral.unsigned? negative (number.filter (· ≠ '_'))
  if isReal word then
    match numeral.nearest? with
    | some magnitude => return .real (.finite negative magnitude)
    | none => return .unreadable (String.ofList word)
  else none

/-! ## Dates and times -/

/-- The number of digits of a fixed count, and what follows them. -/
def field? (count : Nat) (text : List Char) : Option (Nat × List Char) := do
  let digits := text.take count
  if digits.length = count then return (← Text.readNat? digits, text.drop count) else none

/-- What follows one given character. -/
def skip? (c : Char) : List Char → Option (List Char)
  | [] => none
  | d :: rest => if d = c then some rest else none

/-- Whether a year has a leap day. -/
def isLeap (year : Nat) : Bool := year % 4 = 0 && (year % 100 ≠ 0 || year % 400 = 0)

/-- The number of days of a month. -/
def daysIn (year month : Nat) : Nat :=
  if month = 2 then (if isLeap year then 29 else 28)
  else if month = 4 ∨ month = 6 ∨ month = 9 ∨ month = 11 then 30
  else 31

/-- What follows a date. -/
def afterDate? (text : List Char) : Option (List Char) := do
  let (year, text) ← field? 4 text
  let (month, text) ← field? 2 (← skip? '-' text)
  let (day, text) ← field? 2 (← skip? '-' text)
  if 1 ≤ month ∧ month ≤ 12 ∧ 1 ≤ day ∧ day ≤ daysIn year month then return text else none

/-- What follows the hour and minute of a time. -/
def afterMinutes? (text : List Char) : Option (List Char) := do
  let (hour, text) ← field? 2 text
  let (minute, text) ← field? 2 (← skip? ':' text)
  if hour < 24 ∧ minute < 60 then return text else none

/-- What follows a time. -/
def afterTime? (text : List Char) : Option (List Char) := do
  match ← afterMinutes? text with
  | ':' :: text =>
    let (second, text) ← field? 2 text
    if second ≤ 60 then
      match text with
      | '.' :: text =>
        if (text.takeWhile Char.isDigit).isEmpty then none else return text.dropWhile Char.isDigit
      | _ => return text
    else none
  | text => return text

/-- Whether a text is an offset of a time, or empty. -/
def isOffset : List Char → Bool
  | [] => true
  | c :: rest =>
    if c = 'Z' ∨ c = 'z' then rest.isEmpty
    else (c = '+' || c = '-') && afterMinutes? rest = some []

/-- Whether a text is a date, a time, or a date and a time. -/
def isMoment (text : List Char) : Bool :=
  match afterDate? text with
  | some [] => true
  | some (mark :: rest) =>
    (mark = 'T' || mark = 't' || mark = ' ') && (afterTime? rest).any isOffset
  | none => afterTime? text = some []

/-! ## Words -/

/-- The value of a number without a base. -/
def number? (word : List Char) : Option Value :=
  let (negative, number) := unsign word
  if number = "inf".toList then some (.real (.infinite negative))
  else if number = "nan".toList then some (.real .nan)
  else if isFractional number then real? word
  else whole? word

/-- The value of a word. -/
def scalar? (word : List Char) : Option Value :=
  match word with
  | '0' :: 'x' :: digits => based? 16 word digits
  | '0' :: 'o' :: digits => based? 8 word digits
  | '0' :: 'b' :: digits => based? 2 word digits
  | _ =>
    if word = "true".toList then some (.bool true)
    else if word = "false".toList then some (.bool false)
    else if isMoment word then some (.moment (String.ofList word))
    else number? word

/-- The characters that end a word. -/
def separators : List Char :=
  ['=', ',', '[', ']', '\x7b', '\x7d', '#', ' ', '\t', '\n', '\r']

/-- Whether a character may stand in a word. -/
def isWord (c : Char) : Bool := !separators.contains c

/-- Reads a word; a date takes in a time that follows it behind one space. -/
def word? (text : List Char) : Option (Scan (List Char) text) := do
  let word ← scanRun? isWord text
  if afterDate? word.value = some [] then
    match h : word.rest with
    | ' ' :: rest =>
      match scanRun? isWord rest with
      | some time =>
        if (time.value.take 3).getLast? = some ':' then
          return ((Scan.within time (by simp [h])).map (word.value ++ ' ' :: ·) : Scan _ word.rest)
            |> word.behind
        else return word
      | none => return word
    | _ => return word
  else return word

end Retrieval.Toml
