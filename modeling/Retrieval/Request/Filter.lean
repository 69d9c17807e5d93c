import Retrieval.Text.Split
import Retrieval.Value.Basic

/-!
# Filters

A filter compares a field with a literal, or asks whether the field is null. Its text is the field,
an operator and, for a comparison, the literal:

* the field is an ASCII letter or underscore and the longest run of ASCII letters, digits and
  underscores behind it;
* the operator is one of ten, in either case; one space may stand before it and one behind it;
* the literal is all the rest and not empty; behind a question about null there is no rest.

A text of any other form is no filter.
-/

namespace Retrieval

/-- A filter on a field. -/
inductive Filter.Op where
  | eq
  | ne
  | gt
  | ge
  | lt
  | le
  | like
  | notLike
  | null
  | notNull
deriving DecidableEq, Inhabited

namespace Filter.Op

/-- Every operator, in an order in which no operator's token begins a later one's token. -/
def all : List Op := [.notLike, .notNull, .like, .null, .ge, .le, .ne, .eq, .gt, .lt]

/-- The operator as it is written in a filter. -/
def token : Op → String
  | eq => "="
  | ne => "!="
  | gt => ">"
  | ge => ">="
  | lt => "<"
  | le => "<="
  | like => "like"
  | notLike => "not like"
  | null => "null"
  | notNull => "not null"

/-- The operator as it is written in a statement. -/
def sql : Op → String
  | eq => "="
  | ne => "<>"
  | gt => ">"
  | ge => ">="
  | lt => "<"
  | le => "<="
  | like => "LIKE"
  | notLike => "NOT LIKE"
  | null => "IS NULL"
  | notNull => "IS NOT NULL"

/-- Whether the operator compares with a literal. -/
def takesValue : Op → Bool
  | null | notNull => false
  | _ => true

/-- The operator of a token. -/
def ofToken? (token : String) : Option Op := all.find? (·.token = token)

end Filter.Op

/-! ## Filters -/

/-- A field, an operator and, for a comparison, the literal. -/
structure Filter where
  field : String
  op : Filter.Op
  value : Option String
deriving DecidableEq, Inhabited

namespace Filter

/-! ## Reading -/

/-- Whether a character may begin a field. -/
def isFieldStart (c : Char) : Bool := c.isAlpha || c = '_'

/-- Whether a character may stand in a field. -/
def isFieldChar (c : Char) : Bool := c.isAlphanum || c = '_'

/-- The operator at the beginning of a text, and what follows its token. -/
def operator? (text : List Char) : Option (Op × List Char) :=
  Op.all.findSome? fun op => (Text.afterAnyCase? op.token.toList text).map (op, ·)

/-- The filter of a field, given what follows the field. -/
def condition? (field text : List Char) : Option Filter := do
  let (op, rest) ← operator? (Text.dropOne ' ' text)
  let value := Text.dropOne ' ' rest
  if value.isEmpty = op.takesValue then none
  else some ⟨String.ofList field, op, if op.takesValue then some (String.ofList value) else none⟩

/-- The filter that a text spells, if it spells one. -/
def ofText? (text : List Char) : Option Filter :=
  match text with
  | [] => none
  | c :: _ =>
    if isFieldStart c then condition? (text.takeWhile isFieldChar) (text.dropWhile isFieldChar)
    else none

/-- Reads a filter whose escapes are undone. -/
def parse? (text : String) : Option Filter := ofText? text.toList

/-! ## Writing -/

/-- The filter as a text, with one space around the operator. -/
def written (filter : Filter) : String :=
  match filter.value with
  | some value => s!"{filter.field} {filter.op.token} {value}"
  | none => s!"{filter.field} {filter.op.token}"

/-- The fields of the record of a filter; an absent literal is not written. -/
def toFields (filter : Filter) : List (String × Value) :=
  [("field", .text filter.field), ("op", .text filter.op.token)]
    ++ Value.fieldOf? "value" .text filter.value

/-- The record of a filter. -/
def toValue (filter : Filter) : Value := .record filter.toFields

end Filter

end Retrieval
