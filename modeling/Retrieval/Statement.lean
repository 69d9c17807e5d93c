import Retrieval.Failure

/-!
# Statements

A statement is a sequence of texts and placeholders together with the values that are bound to the
placeholders. It is written from left to right: text and identifiers go into the last piece if that
is text, a value is a placeholder of its own, and a fragment is spliced in with its pieces as they
are. Placeholders are numbered only when the whole is given away. That a value is bound to the
placeholder at its own place is up to the writers, and a finished statement is checked to have as
many values as placeholders.

`Step` describes the building of a statement as data: single steps, and steps that put in fragments
built on their own. A step works on the statement in place, and what it leaves is there whether or
not it fails.
-/

namespace Retrieval

/-- A value bound to a placeholder. -/
inductive Param where
  /-- A literal in the notation of texts; the database reads it as the type it needs. -/
  | text (literal : String)
  | int8 (n : Int64)
deriving DecidableEq

/-- A piece of a statement: text, or the place of a bound value. -/
inductive Part where
  | text (s : String)
  | placeholder
deriving DecidableEq

/-- Whether a piece is the place of a bound value. -/
def Part.isPlaceholder : Part → Bool
  | text _ => false
  | placeholder => true

/-- A statement, or a fragment of one: its pieces, and the bound values in the order of their
placeholders. -/
structure Statement where
  parts : List Part
  params : List Param
deriving DecidableEq

namespace Statement

/-- The fragment without pieces. -/
def empty : Statement := ⟨[], []⟩

instance : EmptyCollection Statement := ⟨empty⟩

instance : Inhabited Statement := ⟨empty⟩

/-- The fragment of a text, which may be empty. -/
def raw (text : String) : Statement := ⟨[.text text], []⟩

/-! ## Writing -/

/-- Some pieces with text behind them: in the last of them if that is text. -/
def writeTo (parts : List Part) (text : String) : List Part :=
  match parts.getLast? with
  | some (.text last) => parts.dropLast ++ [.text (last ++ text)]
  | _ => parts ++ [.text text]

/-- Adds text, if there is any. -/
def push (statement : Statement) (text : String) : Statement :=
  if text.isEmpty then statement
  else { statement with parts := writeTo statement.parts text }

/-- Adds an identifier in quotes. -/
def pushIdent (statement : Statement) (ident : Ident) : Statement :=
  { statement with parts := writeTo statement.parts ident.quoted }

/-- Binds a value. -/
def pushValue (statement : Statement) (param : Param) : Statement :=
  ⟨statement.parts ++ [.placeholder], statement.params ++ [param]⟩

/-- A fragment is spliced in as it is: text that meets text stays a piece of its own. -/
instance : Append Statement := ⟨fun a b => ⟨a.parts ++ b.parts, a.params ++ b.params⟩⟩

/-- Splices in fragments, with a text between any two. -/
def pushJoined (statement : Statement) (fragments : List Statement) (separator : String) :
    Statement :=
  match fragments with
  | [] => statement
  | first :: rest =>
    rest.foldl (fun statement fragment => statement.push separator ++ fragment) (statement ++ first)

/-! ## Text and values -/

/-- The text of some pieces, given how many placeholders are before them. -/
def textFrom (count : Nat) : List Part → String
  | [] => ""
  | .text s :: rest => s ++ textFrom count rest
  | .placeholder :: rest => s!"${count + 1}" ++ textFrom (count + 1) rest

/-- The text of a statement, its placeholders numbered from one. -/
def text (statement : Statement) : String := textFrom 0 statement.parts

/-- The number of placeholders of a statement. -/
def placeholders (statement : Statement) : Nat := statement.parts.countP Part.isPlaceholder

/-- Checks that there are as many values as placeholders. -/
def validate (statement : Statement) : Except Failure Unit :=
  if statement.placeholders = statement.params.length then .ok ()
  else .error (.unevenBinding statement.placeholders statement.params.length)

/-- Whether nothing is written and nothing is bound. -/
def isEmpty (statement : Statement) : Bool :=
  statement.parts.all fun
    | .text s => s.isEmpty
    | .placeholder => false

/-! ## Steps -/

/-- A step in the building of a statement. -/
inductive Step where
  /-- Begin again with a text. -/
  | start (text : String)
  | push (text : String)
  | bindText (literal : String)
  | bindInt (n : Int64)
  | ident (name : String)
  | column (qualifier name : String)
  | splice (steps : List Step)
  | join (fragments : List (List Step)) (separator : String)

/-- The fragment that is built from nothing, if the building of it does not fail. -/
def fragment (edit : Editing Statement Unit) : Except Failure Statement :=
  match edit.apply empty with
  | (.ok (), fragment) => .ok fragment
  | (.error failure, _) => .error failure

mutual

/-- Takes a step. A name that is no identifier is a failure, and so is a fragment with such a
name. -/
def Step.run : Step → Editing Statement Unit
  | .start text => set (raw text)
  | .push text => modify (·.push text)
  | .bindText literal => modify (·.pushValue (.text literal))
  | .bindInt n => modify (·.pushValue (.int8 n))
  | .ident name => do
    let ident ← Ident.get name
    modify (·.pushIdent ident)
  | .column qualifier name => do
    let ident ← Ident.column qualifier name
    modify (·.pushIdent ident)
  | .splice steps => do
    let fragment ← fragment (Step.runAll steps)
    modify (· ++ fragment)
  | .join fragments separator => do
    let fragments ← Step.runEach fragments
    modify (·.pushJoined fragments separator)

/-- Takes several steps, up to the first that fails. -/
def Step.runAll : List Step → Editing Statement Unit
  | [] => pure ()
  | step :: rest => do
    step.run
    Step.runAll rest

/-- The fragments that several lists of steps build, each from nothing. -/
def Step.runEach : List (List Step) → Except Failure (List Statement)
  | [] => .ok []
  | steps :: rest => do return (← fragment (Step.runAll steps)) :: (← Step.runEach rest)

end

end Statement

end Retrieval
