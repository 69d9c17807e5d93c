import Retrieval.Environment.Basic
import Retrieval.Text.Split

/-!
# Templates

A template is a text that refers to variables: a dollar sign and the name of the variable in
braces. A reference ends at the first closing brace, and every other character stands for itself.

A template is first cut into pieces (`Template.pieces`), which can be put together again
(`Template.written`). Expanding it gives every piece its own text from left to right, so the value
of a variable is never taken for a template, and the first piece that has no text decides on the
error.
-/

namespace Retrieval

/-- A piece of a template. -/
inductive Template.Piece where
  | char (c : Char)
  | reference (name : List Char)
  /-- A reference without an end; it takes up the rest of the template. -/
  | unclosed (name : List Char)
deriving DecidableEq

/-- Why a template cannot be expanded. -/
inductive Template.Error where
  | unclosed (name : String)
  | unnamed
  | unset (name : String)
deriving DecidableEq

namespace Template

/-- The wording of an error. -/
def Error.message : Error → String
  | unclosed name => s!"unterminated env var reference: $\x7b{name}"
  | unnamed => "invalid env var reference: $\x7b\x7d"
  | unset name => s!"missing env var for config expansion: {name}"

/-- The pieces of a template. -/
def pieces : List Char → List Piece
  | '$' :: '\x7b' :: rest =>
    match h : Text.cut '\x7d' rest with
    | (name, some after) =>
      have := Text.cut_rest_length h
      .reference name :: pieces after
    | (name, none) => [.unclosed name]
  | c :: rest => .char c :: pieces rest
  | [] => []
termination_by text => text.length

/-- The characters of a piece as they stand in the template. -/
def Piece.written : Piece → List Char
  | char c => [c]
  | reference name => '$' :: '\x7b' :: name ++ ['\x7d']
  | unclosed name => '$' :: '\x7b' :: name

/-- The template of some pieces. -/
def written (pieces : List Piece) : List Char := pieces.flatMap Piece.written

/-- Putting the pieces of a template together gives the template. -/
theorem written_pieces (text : List Char) : written (pieces text) = text := by
  fun_induction pieces text with
  | case1 rest name after h _ ih =>
    rw [(Text.cut_eq_some_iff.1 h).1, written, List.flatMap_cons, ← written, ih]
    simp [Piece.written]
  | case2 rest name h =>
    rw [(Text.cut_eq_none_iff.1 h).1]
    simp [Piece.written, written]
  | case3 c rest _ ih =>
    rw [written, List.flatMap_cons, ← written, ih]
    rfl
  | case4 => rfl

/-! ## Expansion -/

/-- The text that a piece stands for. -/
def Piece.expand (env : Environment) : Piece → Except Error (List Char)
  | char c => .ok [c]
  | unclosed name => .error (.unclosed (String.ofList name))
  | reference name =>
    if name.isEmpty then .error .unnamed
    else match env.value? (String.ofList name) with
      | some value => .ok value.toList
      | none => .error (.unset (String.ofList name))

/-- The text of a template with the values of its variables. -/
def expand (env : Environment) (template : String) : Except Error String := do
  return String.ofList (← (pieces template.toList).mapM (Piece.expand env)).flatten

end Template

end Retrieval
