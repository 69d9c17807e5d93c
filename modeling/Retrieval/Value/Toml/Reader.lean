import Retrieval.Value.Toml.Lexeme
import Retrieval.Value.Toml.Scalar
import Retrieval.Value.Toml.Table

/-!
# Reading TOML text

The texts that are read are those of version 1.1 of the TOML standard: a table on the spot may span
lines and end in a comma, and a time may leave out its seconds. Whole numbers have up to 128 bits,
and other numbers are the nearest in double precision.

A text is a sequence of lines: a key with its value, the header of a table, or the header of an
element of an array of tables. Values may be arrays and tables written on the spot, in which line
breaks and comments may stand between the parts, also around an equals sign, but not within a key.
They may be nested up to a fixed depth.
-/

namespace Retrieval.Toml

open Text (Scan)

/-- The number of arrays and tables that may be open at once within a value. -/
def maxDepth : Nat := 80

/-- A text without the space at its beginning: blanks only, or line breaks and comments as well. -/
def dropSpace (lines : Bool) (text : List Char) : List Char :=
  if lines then dropGap text else dropBlanks text

/-- Passing over space does not make a text longer. -/
theorem dropSpace_length_le (lines : Bool) (text : List Char) :
    (dropSpace lines text).length ≤ text.length := by
  cases lines
  · exact dropBlanks_length_le text
  · exact dropGap_length_le text

mutual

/-- Reads a value, given how deep values may still be nested. -/
def value? (depth : Nat) : (text : List Char) → Option (Scan Value text)
  | '[' :: rest =>
    match depth with
    | 0 => none
    | depth + 1 => do return (← items? depth rest).inner.map .list
  | '\x7b' :: rest =>
    match depth with
    | 0 => none
    | depth + 1 => do
      let entries ← entries? depth rest
      let table ← inlineTable? entries.value
      return entries.inner.map fun _ => table
  | '"' :: rest => do return (← quoted? ('"' :: rest)).map (.text ∘ String.ofList)
  | '\'' :: rest => do return (← quoted? ('\'' :: rest)).map (.text ∘ String.ofList)
  | text => do
    let word ← word? text
    let value ← scalar? word.value
    return word.map fun _ => value
termination_by text => 3 * text.length

/-- Reads the items of an array up to and with its closing bracket. -/
def items? (depth : Nat) (text : List Char) : Option (Scan (List Value) text) :=
  have := dropGap_length_le text
  match h : dropGap text with
  | ']' :: rest => some ⟨[], rest, by simp only [h, List.length_cons] at this; omega⟩
  | body => do
    have : body.length ≤ text.length := by simpa only [h] using this
    let item ← value? depth body
    have := item.shorter
    have := dropGap_length_le item.rest
    match h : dropGap item.rest with
    | ']' :: rest =>
      return ⟨[item.value], rest, by simp only [h, List.length_cons] at this; omega⟩
    | ',' :: rest =>
      have : rest.length < text.length := by simp only [h, List.length_cons] at this; omega
      return ((← items? depth rest).within (by omega)).map (item.value :: ·)
    | _ => none
termination_by 3 * text.length + 2

/-- Reads the entries of a table written on the spot up to and with its closing brace. -/
def entries? (depth : Nat) (text : List Char) : Option (Scan (List (List String × Value)) text) :=
  have := dropGap_length_le text
  match h : dropGap text with
  | '\x7d' :: rest => some ⟨[], rest, by simp only [h, List.length_cons] at this; omega⟩
  | body => do
    have : body.length ≤ text.length := by simpa only [h] using this
    let entry ← entry? true depth body
    have := entry.shorter
    have := dropGap_length_le entry.rest
    match h : dropGap entry.rest with
    | '\x7d' :: rest =>
      return ⟨[entry.value], rest, by simp only [h, List.length_cons] at this; omega⟩
    | ',' :: rest =>
      have : rest.length < text.length := by simp only [h, List.length_cons] at this; omega
      return ((← entries? depth rest).within (by omega)).map (entry.value :: ·)
    | _ => none
termination_by 3 * text.length + 2

/-- Reads a key, an equals sign and a value, given whether they may stand on several lines. -/
def entry? (lines : Bool) (depth : Nat) (text : List Char) :
    Option (Scan (List String × Value) text) := do
  let path ← path? text
  have := path.shorter
  match h : dropSpace lines path.rest with
  | '=' :: rest =>
    have : rest.length + 1 ≤ path.rest.length := by
      simpa [h] using dropSpace_length_le lines path.rest
    have := dropSpace_length_le lines rest
    let value ← value? depth (dropSpace lines rest)
    return (value.within (by omega)).map (path.value, ·)
  | _ => none
termination_by 3 * text.length + 1

end

/-! ## Lines -/

/-- What a line says. -/
inductive Line where
  | blank
  | entry (path : List String) (value : Value)
  | table (path : List String)
  | element (path : List String)

/-- Reads the path of a header and its closing brackets. -/
def header? (closing text : List Char) : Option (Scan (List String) text) := do
  have := dropBlanks_length_le text
  let path ← path? (dropBlanks text)
  have := path.shorter
  let rest ← Text.after? closing (dropBlanks path.rest)
  if h : rest.length < text.length then return ⟨path.value, rest, h⟩ else none

/-- Reads what stands on a line, up to blanks, a comment and the line break. -/
def content? : (text : List Char) → Option (Scan Line text)
  | '[' :: '[' :: rest => do return (← header? [']', ']'] rest).inner.inner.map .element
  | '[' :: rest => do return (← header? [']'] rest).inner.map .table
  | text => do return (← entry? false maxDepth text).map fun (path, value) => .entry path value

/-- Whether a line may end here, and the text behind its end. -/
def lineEnd? (text : List Char) : Option (List Char) :=
  let rest := ((comment? (dropBlanks text)).map (·.rest)).getD (dropBlanks text)
  if rest.isEmpty then some [] else (newline? rest).map (·.rest)

/-- The lines of a text. -/
def lines? (text : List Char) : Option (List Line) :=
  if text.isEmpty then some []
  else match lineEnd? text with
    | some rest => if rest.length < text.length then lines? rest else none
    | none => do
      let line ← content? (dropBlanks text)
      let rest ← lineEnd? line.rest
      if rest.length < text.length then return line.value :: (← lines? rest) else none
termination_by text.length

/-- The tables so far, and the path of the table whose keys follow. -/
structure Document where
  root : Fields
  current : List String

/-- The document with one more line. -/
def Document.add? (document : Document) : Line → Option Document
  | .blank => some document
  | .entry path value => do
    return { document with
      root := ← update? .implied (fun _ => assign? path value) document.current .opened
        document.root }
  | .table path => do return ⟨← openTable? path document.root, path⟩
  | .element path => do return ⟨← addTable? path document.root, path⟩

end Retrieval.Toml

/-- The value that TOML text writes. -/
def Retrieval.Value.ofToml? (text : String) : Option Retrieval.Value := do
  let body := Text.dropOne '\uFEFF' text.toList
  let document ← (← Toml.lines? body).foldlM Toml.Document.add? ⟨[], []⟩
  return .record (Toml.recordOf document.root)
