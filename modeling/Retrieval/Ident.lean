import Retrieval.Text.Split

/-!
# Identifiers

Names of tables and columns come from configuration and from requests. What reaches a statement is
an `Ident`: one or more parts, each an ASCII letter or underscore followed by ASCII letters, digits,
underscores and dollar signs. An identifier is written with every part in double quotes, so reserved
words are ordinary names and no character of a name can end the quoting.
-/

namespace Retrieval

/-- Whether a character may begin a part of an identifier. -/
def Ident.isStart (c : Char) : Bool := c = '_' || c.isAlpha

/-- Whether a character may stand later in a part of an identifier. -/
def Ident.isLater (c : Char) : Bool := c = '_' || c = '$' || c.isAlphanum

/-- Whether a text is one part of an identifier. -/
def Ident.isPart : List Char → Bool
  | [] => false
  | c :: rest => isStart c && rest.all isLater

/-- The parts of a possibly dotted name of a table or column. -/
structure Ident where
  parts : List (List Char)
  ne_nil : parts ≠ []
  valid : ∀ part ∈ parts, Ident.isPart part
deriving DecidableEq

/-! ## Errors -/

/-- Why a text is no identifier. -/
inductive IdentError where
  | empty
  | emptyPart (whole : String)
  | badStart (c : Char) (whole : String)
  | badChar (c : Char) (whole : String)
deriving DecidableEq

/-- The wording of an error. -/
def IdentError.message : IdentError → String
  | .empty => "Identifier cannot be empty"
  | .emptyPart whole => s!"Empty identifier segment in '{whole}'"
  | .badStart c whole => s!"Invalid identifier start character '{c}' in '{whole}'"
  | .badChar c whole => s!"Invalid character '{c}' in identifier '{whole}'"

namespace Ident

/-- What is wrong with one part of a text, if anything. -/
def partError? (whole : String) : List Char → Option IdentError
  | [] => some (.emptyPart whole)
  | c :: rest =>
    if isStart c then (rest.find? (!isLater ·)).map (.badChar · whole)
    else some (.badStart c whole)

/-- The check of a part passes just when the part has the form of one. -/
theorem partError?_eq_none_iff {whole : String} {part : List Char} :
    partError? whole part = none ↔ isPart part := by
  cases part with
  | nil => simp [partError?, Ident.isPart]
  | cons c rest => by_cases h : isStart c <;> simp [partError?, Ident.isPart, h]

/-! ## Reading -/

/-- The identifier of some parts, or the first error in them. -/
def ofParts (whole : String) (parts : List (List Char)) (ne_nil : parts ≠ []) :
    Except IdentError Ident :=
  match h : parts.findSome? (partError? whole) with
  | some error => .error error
  | none => .ok ⟨parts, ne_nil, fun part mem =>
      partError?_eq_none_iff.1 (List.findSome?_eq_none_iff.1 h part mem)⟩

/-- Reads a name such as title or tags.id. -/
def parse (name : String) : Except IdentError Ident :=
  if name.isEmpty then .error .empty
  else ofParts name (Text.split '.' name.toList) (Text.split_ne_nil _ _)

/-- Whether a text is the name of an identifier. -/
def isName (name : String) : Bool := (parse name).isOk

/-- Whether there is more than one part. -/
def isDotted (ident : Ident) : Bool := ident.parts.length > 1

/-- Reads the name of a column and puts a qualifier before it, unless the name is dotted. -/
def qualified (qualifier column : String) : Except IdentError Ident := do
  let ident ← parse column
  if ident.isDotted then return ident
  match h : partError? qualifier qualifier.toList with
  | some error => throw error
  | none => return ⟨qualifier.toList :: ident.parts, by simp, by
      simpa using ⟨partError?_eq_none_iff.1 h, ident.valid⟩⟩

/-! ## Writing -/

/-- The last part: the name of a column without its qualifiers. -/
def name (ident : Ident) : String := String.ofList (ident.parts.getLast ident.ne_nil)

/-- The parts joined by dots. -/
def dotted (ident : Ident) : String := String.ofList (List.intercalate ['.'] ident.parts)

/-- A part between double quotes. -/
def quotePart (part : List Char) : List Char := '"' :: part ++ ['"']

/-- The identifier as it stands in a statement: the parts in double quotes, joined by dots. -/
def quoted (ident : Ident) : String :=
  String.ofList (List.intercalate ['.'] (ident.parts.map quotePart))

end Ident

end Retrieval
