import Retrieval.Text.Percent
import Retrieval.Text.Scan

/-!
# Lexemes of TOML text

Keys and texts are built from characters of which no control character but the tab is one. Texts in
double quotes have escapes, texts in single quotes have none. A text in three quotes may span lines:
a line break right behind the opening quotes does not count, any other one is part of the text as it
is written, and up to two quotes may stand right before the closing ones.

A line breaks at a line feed, or at a carriage return with a line feed behind it.
-/

namespace Retrieval.Toml

open Text (Scan scanRun?)

/-! ## Blanks, comments and line breaks -/

/-- Whether a character separates words on a line. -/
def isBlank (c : Char) : Bool := c = ' ' || c = '\t'

/-- Whether a character may stand in comments and texts. -/
def isOrdinary (c : Char) : Bool := c = '\t' || (' ' ≤ c && c ≠ '\x7f')

/-- A text without the blanks at its beginning. -/
def dropBlanks (text : List Char) : List Char := text.dropWhile isBlank

theorem dropBlanks_length_le (text : List Char) : (dropBlanks text).length ≤ text.length :=
  (List.dropWhile_suffix isBlank).length_le

/-- Reads a line break. -/
def newline? : (text : List Char) → Option (Scan (List Char) text)
  | '\n' :: _ => some (.first ['\n'])
  | '\r' :: '\n' :: _ => some (.inner (.first ['\r', '\n']))
  | _ => none

/-- Reads a comment up to the end of its line. -/
def comment? : (text : List Char) → Option (Scan Unit text)
  | '#' :: rest =>
    let after := rest.dropWhile isOrdinary
    if after.isEmpty || (newline? after).isSome then
      some ⟨(), after, by
        have := (List.dropWhile_suffix isOrdinary (l := rest)).length_le
        simp only [List.length_cons, after]
        omega⟩
    else none
  | _ => none

/-- One blank or line break. -/
def breakPiece? (text : List Char) : Option (Scan Unit text) :=
  ((Text.scanChar? isBlank text).map (·.map fun _ => ())).or
    ((newline? text).map (·.map fun _ => ()))

/-- One blank, line break or comment. -/
def gapPiece? (text : List Char) : Option (Scan Unit text) :=
  (breakPiece? text).or (comment? text)

/-- A text without the pieces of one kind at its beginning. -/
def dropPieces (piece? : (text : List Char) → Option (Scan Unit text)) (text : List Char) :
    List Char :=
  match piece? text with
  | none => text
  | some piece =>
    have := piece.shorter
    dropPieces piece? piece.rest
termination_by text.length

/-- Passing over pieces does not make a text longer. -/
theorem dropPieces_length_le (piece? : (text : List Char) → Option (Scan Unit text))
    (text : List Char) : (dropPieces piece? text).length ≤ text.length := by
  fun_induction dropPieces piece? text with
  | case1 => exact Nat.le_refl _
  | case2 _ _ _ shorter ih => exact Nat.le_trans ih (Nat.le_of_lt shorter)

/-- A text without the blanks, line breaks and comments at its beginning. -/
def dropGap (text : List Char) : List Char := dropPieces gapPiece? text

theorem dropGap_length_le (text : List Char) : (dropGap text).length ≤ text.length :=
  dropPieces_length_le gapPiece? text

/-! ## Escapes -/

/-- The character that a code point of several hexadecimal digits names. -/
def codePoint? (digits : List Char) : Option Char := do
  let values ← digits.mapM Text.Percent.hexDigit?
  let point := values.foldl (fun n value => 16 * n + value) 0
  if point < 0xD800 ∨ (0xE000 ≤ point ∧ point < 0x110000) then some (Char.ofNat point) else none

/-- The character of the first few characters of a text, taken as hexadecimal digits. -/
def coded? (count : Nat) (text : List Char) : Option (Scan Char text) :=
  if h : 0 < count ∧ count ≤ text.length then do
    return ⟨← codePoint? (text.take count), text.drop count, by simp only [List.length_drop]; omega⟩
  else none

/-- The character that a letter behind a backslash stands for. -/
def escaped? : Char → Option Char
  | '"' => some '"'
  | '\\' => some '\\'
  | 'b' => some '\x08'
  | 'e' => some '\x1b'
  | 'f' => some '\x0c'
  | 'n' => some '\n'
  | 'r' => some '\r'
  | 't' => some '\t'
  | _ => none

/-- Reads what follows a backslash. -/
def escape? : (text : List Char) → Option (Scan Char text)
  | [] => none
  | c :: rest =>
    let count := if c = 'x' then 2 else if c = 'u' then 4 else if c = 'U' then 8 else 0
    if count = 0 then (escaped? c).map .first
    else (coded? count rest).map .inner

/-! ## Text on one line -/

/-- Reads a text of one line up to and with its closing double quote. -/
def basic? : (text : List Char) → Option (Scan (List Char) text)
  | [] => none
  | '"' :: _ => some (.first [])
  | '\\' :: rest => do
    let escape ← escape? rest
    have := escape.shorter
    let body ← basic? escape.rest
    return (escape.behind body).inner.map (escape.value :: ·)
  | c :: rest =>
    if isOrdinary c then do return (← basic? rest).inner.map (c :: ·) else none
termination_by text => text.length
decreasing_by all_goals simp only [List.length_cons]; omega

/-- Reads a text of one line up to and with its closing single quote. -/
def literal? : (text : List Char) → Option (Scan (List Char) text)
  | [] => none
  | '\'' :: _ => some (.first [])
  | c :: rest =>
    if isOrdinary c then do return (← literal? rest).inner.map (c :: ·) else none

/-! ## Text on several lines -/

/-- Three closing quotes with up to two more quotes before them: the quotes that belong to the
text. -/
def closing? (quote : Char) : (text : List Char) → Option (Scan (List Char) text)
  | a :: b :: c :: rest =>
    if a = quote ∧ b = quote ∧ c = quote then
      match rest with
      | d :: e :: _ =>
        if d = quote ∧ e = quote then some (Scan.first [d, e]).inner.inner.inner.inner
        else if d = quote then some (Scan.first [d]).inner.inner.inner
        else some (Scan.first []).inner.inner
      | [d] =>
        if d = quote then some (Scan.first [d]).inner.inner.inner
        else some (Scan.first []).inner.inner
      | [] => some (Scan.first []).inner.inner
    else none
  | _ => none

/-- A backslash at the end of a line, with all the blanks and line breaks behind it. -/
def continuation? : (text : List Char) → Option (Scan Unit text)
  | '\\' :: rest =>
    if (newline? (dropBlanks rest)).isSome then
      have := dropPieces_length_le breakPiece? rest
      some ⟨(), dropPieces breakPiece? rest, by simp only [List.length_cons]; omega⟩
    else none
  | _ => none

/-- Reads one character of a text that may span lines; an escape counts where escapes are undone. -/
def spanningChar? (escapes : Bool) (text : List Char) : Option (Scan (List Char) text) :=
  match newline? text with
  | some line => some line
  | none =>
    match text with
    | '\\' :: rest =>
      if escapes then
        match continuation? ('\\' :: rest) with
        | some gap => some (gap.map fun _ => [])
        | none => (escape? rest).map fun escape => escape.inner.map ([·])
      else some (.first ['\\'])
    | c :: _ => if isOrdinary c then some (.first [c]) else none
    | [] => none

/-- Reads a text that may span lines up to and with its closing quotes. -/
def spanning? (quote : Char) (text : List Char) : Option (Scan (List Char) text) :=
  match closing? quote text with
  | some closing => some closing
  | none => do
    let piece ← spanningChar? (quote = '"') text
    have := piece.shorter
    return (piece.behind (← spanning? quote piece.rest)).map (piece.value ++ ·)
termination_by text.length

/-- Reads a text behind three opening quotes; a line break right there does not count. -/
def opened? (quote : Char) (text : List Char) : Option (Scan (List Char) text) :=
  match newline? text with
  | some line => do return line.behind (← spanning? quote line.rest)
  | none => spanning? quote text

/-- Reads a text in quotes of any kind. -/
def quoted? : (text : List Char) → Option (Scan (List Char) text)
  | '"' :: '"' :: '"' :: rest => (opened? '"' rest).map (·.inner.inner.inner)
  | '\'' :: '\'' :: '\'' :: rest => (opened? '\'' rest).map (·.inner.inner.inner)
  | '"' :: rest => (basic? rest).map .inner
  | '\'' :: rest => (literal? rest).map .inner
  | _ => none

/-! ## Keys -/

/-- Whether a character may stand in a key without quotes. -/
def isBareKey (c : Char) : Bool := c.isAlphanum || c = '-' || c = '_'

/-- Reads one key, in quotes on one line or without quotes. -/
def key? : (text : List Char) → Option (Scan String text)
  | '"' :: rest => do return (← basic? rest).inner.map String.ofList
  | '\'' :: rest => do return (← literal? rest).inner.map String.ofList
  | text => do return (← scanRun? isBareKey text).map String.ofList

/-- Reads keys joined by dots, blanks around the dots allowed. -/
def keys? (text : List Char) : Option (Scan (List String) text) := do
  let first ← key? text
  have := first.shorter
  match h : dropBlanks first.rest with
  | '.' :: rest =>
    have : rest.length + 1 ≤ first.rest.length := by
      simpa [h] using dropBlanks_length_le first.rest
    have := dropBlanks_length_le rest
    let more ← keys? (dropBlanks rest)
    return (more.within (by omega)).map (first.value :: ·)
  | _ => return first.map ([·])
termination_by text.length

/-- The number of keys that may be joined by dots. -/
def maxKeys : Nat := 80

/-- Reads the path of a value or of a table: keys joined by dots, not too many. -/
def path? (text : List Char) : Option (Scan (List String) text) :=
  (keys? text).filter (·.value.length ≤ maxKeys)

end Retrieval.Toml
