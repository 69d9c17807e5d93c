import Retrieval.Text.Percent
import Retrieval.Text.Scan
import Retrieval.Value.Json.Number

/-!
# Tokens of JSON text

JSON text is cut into marks, texts in quotes and plain words. Blanks between tokens are the space,
the tab, the line feed and the carriage return. A plain word is a numeral or one of three constants;
two words in a row never stand in JSON text, so a word reaches as far as its characters do.
-/

namespace Retrieval.Json

open Text (Scan scanRun?)

/-- A token of JSON text. -/
inductive Token where
  | mark (c : Char)
  | text (s : String)
  | plain (value : Value)

/-! ## Text -/

/-- The character that a letter behind a backslash stands for. -/
def escaped? : Char → Option Char
  | '"' => some '"'
  | '\\' => some '\\'
  | '/' => some '/'
  | 'b' => some '\x08'
  | 'f' => some '\x0c'
  | 'n' => some '\n'
  | 'r' => some '\r'
  | 't' => some '\t'
  | _ => none

/-- Reads the code unit that four hexadecimal digits write. -/
def unit? : (text : List Char) → Option (Scan Nat text)
  | a :: b :: c :: d :: _ => do
    let digit := Text.Percent.hexDigit?
    let unit := ((16 * (← digit a) + (← digit b)) * 16 + (← digit c)) * 16 + (← digit d)
    return (Scan.first unit).inner.inner.inner
  | _ => none

/-- The character of a code unit that is not half of a pair. -/
def single? (unit : Nat) : Option Char :=
  if 0xD800 ≤ unit ∧ unit < 0xE000 then none else some (Char.ofNat unit)

/-- The character of a pair of code units. -/
def pair? (high low : Nat) : Option Char :=
  if 0xD800 ≤ high ∧ high < 0xDC00 ∧ 0xDC00 ≤ low ∧ low < 0xE000 then
    some (Char.ofNat (0x10000 + (high - 0xD800) * 0x400 + (low - 0xDC00)))
  else none

/-- The character of a pair of code units, both of them escaped; the backslash before the first is
already read. -/
def escapedPair? : (text : List Char) → Option (Scan Char text)
  | 'u' :: rest => do
    let high ← unit? rest
    match h : high.rest with
    | '\\' :: 'u' :: rest =>
      let low ← unit? rest
      let char ← pair? high.value low.value
      return (high.behind (h ▸ low.inner.inner.map fun _ => char)).inner
    | _ => none
  | _ => none

/-- Reads what follows a backslash. -/
def escape? (text : List Char) : Option (Scan Char text) :=
  (escapedPair? text).or (match text with
    | 'u' :: rest => do
      let unit ← unit? rest
      let char ← single? unit.value
      return unit.inner.map fun _ => char
    | c :: _ => (escaped? c).map .first
    | [] => none)

/-- Reads a text up to and with its closing quote. -/
def text? : (input : List Char) → Option (Scan (List Char) input)
  | [] => none
  | '"' :: _ => some (.first [])
  | '\\' :: rest => do
    let escape ← escape? rest
    have := escape.shorter
    let body ← text? escape.rest
    return (escape.behind body).inner.map (escape.value :: ·)
  | c :: rest =>
    if c < ' ' then none
    else do return (← text? rest).inner.map (c :: ·)
termination_by input => input.length
decreasing_by all_goals simp only [List.length_cons]; omega

/-! ## Words and tokens -/

/-- Whether a character may stand in a plain word. -/
def isPlain (c : Char) : Bool := c.isAlphanum || c = '-' || c = '+' || c = '.'

/-- The value of a plain word. -/
def plain? (word : List Char) : Option Value :=
  if word = "null".toList then some .null
  else if word = "true".toList then some (.bool true)
  else if word = "false".toList then some (.bool false)
  else Numeral.value? word

/-- Reads one token. -/
def token? : (input : List Char) → Option (Scan Token input)
  | [] => none
  | '"' :: rest => do return (← text? rest).inner.map (.text ∘ String.ofList)
  | c :: rest =>
    if ['[', ']', '\x7b', '\x7d', ',', ':'].contains c then some (.first (.mark c))
    else do
      let word ← scanRun? isPlain (c :: rest)
      let value ← plain? word.value
      return word.map fun _ => .plain value

/-- Whether a character may stand between tokens. -/
def isBetween (c : Char) : Bool := c = ' ' || c = '\t' || c = '\n' || c = '\r'

/-- The tokens of a text. -/
def tokens? : List Char → Option (List Token)
  | [] => some []
  | c :: rest =>
    if isBetween c then tokens? rest
    else do
      let token ← token? (c :: rest)
      have := token.shorter
      return token.value :: (← tokens? token.rest)
termination_by input => input.length
decreasing_by all_goals simp only [List.length_cons] at *; omega

end Retrieval.Json
