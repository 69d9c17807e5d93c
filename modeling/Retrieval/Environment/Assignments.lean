import Retrieval.Environment.Basic
import Retrieval.Text.Alphanumeric
import Retrieval.Text.Blank
import Retrieval.Text.Split

/-!
# Files of assignments

A file of assignments gives values to variables, `NAME=value` on each line. Within quotes a value
may go on over the end of a line. A value may refer to variables that have a value already,
but not within single quotes. A number sign behind a blank begins a comment.

The file is cut into lines first (`lines`), then each line is read on its own (`Line.ofText?`). The
first line that cannot be read ends the reading; what stands before it holds.
-/

namespace Retrieval.Assignments

open Text (isBlank isAlphanumeric)

/-! ## Lines -/

/-- What is open at a place in a line. -/
inductive Quoting where
  | plain
  /-- Nothing, and a blank stands right before. -/
  | blank
  | escaped
  | weak
  | weakEscaped
  | strong
  | strongEscaped
deriving DecidableEq

/-- What is open behind a character. -/
def Quoting.next : Quoting → Char → Quoting
  | escaped, _ => plain
  | weakEscaped, _ => weak
  | strongEscaped, _ => strong
  | weak, c => if c = '\\' then weakEscaped else if c = '"' then plain else weak
  | strong, c => if c = '\\' then strongEscaped else if c = '\'' then plain else strong
  | quoting, c =>
    if c = '\\' then escaped
    else if c = '"' then weak
    else if c = '\'' then strong
    else if quoting = plain ∧ isBlank c ∧ c ≠ '\n' ∧ c ≠ '\r' then blank
    else plain

/-- The text behind the next line break. -/
def behindBreak (text : List Char) : List Char := (text.dropWhile (· ≠ '\n')).drop 1

/-- The rest of a line, without a comment, and the text behind it. A text that ends within quotes
has no such line. -/
def restOfLine? (quoting : Quoting) : List Char → Option (List Char × List Char)
  | [] => if quoting = .plain then some ([], []) else none
  | c :: rest =>
    if quoting = .blank ∧ c = '#' then some ([], behindBreak rest)
    else if c = '\n' ∧ quoting.next c = .plain then some ([], rest)
    else (restOfLine? (quoting.next c) rest).map fun (line, rest) => (c :: line, rest)

/-- The first line and the text behind it; a line that is a comment counts as empty. -/
def line? (text : List Char) : Option (List Char × List Char) :=
  if ((text.takeWhile (· ≠ '\n')).dropWhile isBlank).head? = some '#' then
    some ([], behindBreak text)
  else restOfLine? .plain text

/-- The lines of a text, as far as they are complete. -/
def lines (text : List Char) : List (List Char) :=
  if text.isEmpty then [] else
    match line? text with
    | some (line, rest) => line :: if rest.length < text.length then lines rest else []
    | none => []
termination_by text.length

/-! ## Values -/

/-- Where a character of a value stands; a flag says whether it is within double quotes. -/
inductive Place where
  | open (quoted : Bool)
  | escaped (quoted : Bool)
  | strong
  | name (quoted : Bool) (name : List Char)
  | braced (quoted : Bool) (name : List Char)
  | closed

/-- The character that a character behind a backslash stands for. -/
def escaped? (c : Char) : Option Char :=
  if c = 'n' then some '\n' else if c ∈ ['\\', '\'', '"', '$', ' '] then some c else none

/-- The rest of a value, given the values of variables. -/
def rest? (lookup : List Char → List Char) : Place → List Char → Option (List Char)
  | .open false, [] | .escaped false, [] | .closed, [] => some []
  | .name false name, [] => some (lookup name)
  | _, [] => none
  | .closed, c :: rest =>
    if c = ' ' ∨ c = '\t' then rest? lookup .closed rest
    else if c = '#' then some []
    else none
  | .escaped quoted, c :: rest => do return (← escaped? c) :: (← rest? lookup (.open quoted) rest)
  | .strong, c :: rest =>
    if c = '\'' then rest? lookup (.open false) rest
    else do return c :: (← rest? lookup .strong rest)
  | .name quoted name, c :: rest =>
    if isAlphanumeric c then rest? lookup (.name quoted (name ++ [c])) rest
    else if c = '\x7b' ∧ name = [] then rest? lookup (.braced quoted []) rest
    else if c = '$' then do return lookup name ++ (← rest? lookup (.name quoted []) rest)
    else do return lookup name ++ c :: (← rest? lookup (.open quoted) rest)
  | .braced quoted name, c :: rest =>
    if c = '\x7d' then do return lookup name ++ (← rest? lookup (.open quoted) rest)
    else rest? lookup (.braced quoted (name ++ [c])) rest
  | .open quoted, c :: rest =>
    if c = '$' then rest? lookup (.name quoted []) rest
    else if c = '\\' then rest? lookup (.escaped quoted) rest
    else if c = '"' then rest? lookup (.open !quoted) rest
    else if quoted then do return c :: (← rest? lookup (.open quoted) rest)
    else if c = '\'' then rest? lookup .strong rest
    else if c = ' ' ∨ c = '\t' then rest? lookup .closed rest
    else do return c :: (← rest? lookup (.open quoted) rest)

/-- A value, given the values of variables. -/
def value? (lookup : List Char → List Char) (text : List Char) : Option (List Char) :=
  if text.head? = some '#' then some [] else rest? lookup (.open false) text

/-! ## Assignments -/

/-- Whether a character may begin a name. -/
def isNameStart (c : Char) : Bool := c.isAlpha || c = '_'

/-- Whether a character may stand in a name. -/
def isNameChar (c : Char) : Bool := c.isAlphanum || c = '_' || c = '.'

/-- A name, and the text behind it and the blanks that follow it. -/
def name? (text : List Char) : Option (List Char × List Char) :=
  if text.head?.any isNameStart then
    some (text.takeWhile isNameChar, (text.dropWhile isNameChar).dropWhile isBlank)
  else none

/-- The name of the variable and the text of the value. The word `export` may stand before the
name. -/
def sides? (line : List Char) : Option (List Char × List Char) := do
  match ← name? line with
  | (name, '=' :: value) => return (name, value.dropWhile isBlank)
  | (name, rest) =>
    if name = ['e', 'x', 'p', 'o', 'r', 't'] then
      match ← name? rest with
      | (name, '=' :: value) => return (name, value.dropWhile isBlank)
      | _ => none
    else none

/-- What a line says. -/
inductive Line where
  | blank
  | assignment (name value : String)
deriving DecidableEq

/-- Reads a line, given the variables that have a value already. -/
def Line.ofText? (env : Environment) (text : List Char) : Option Line :=
  let line := Text.trimBlanks text
  if line.isEmpty ∨ line.head? = some '#' then some .blank
  else do
    let (name, text) ← sides? line
    let lookup := fun name => ((env.value? (String.ofList name)).getD "").toList
    return .assignment (String.ofList name) (String.ofList (← value? lookup text))

/-- The environment with the assignments of some lines, up to the first line that cannot be
read. -/
def define (env : Environment) : List (List Char) → Environment
  | [] => env
  | line :: rest =>
    match Line.ofText? env line with
    | none => env
    | some .blank => define env rest
    | some (.assignment name value) => define (env.define name value) rest

end Retrieval.Assignments

/-- The environment with the assignments of a file for variables that have no value. -/
def Retrieval.Environment.load (env : Retrieval.Environment) (file : String) :
    Retrieval.Environment :=
  Assignments.define env (Assignments.lines (Text.dropOne '\uFEFF' file.toList))
