import Retrieval.Ident

/-!
# Failures

What stops a conversion, the rendering of a statement or the fetching of rows. Problems of a request
are not failures: they are reported with its result.
-/

namespace Retrieval

/-- Why there is no result. -/
inductive Failure where
  | unknownResource (resourceType : String)
  | missingId (resourceType : String)
  | badIdent (error : IdentError)
  | badResource (resource name : String)
  | unevenBinding (placeholders values : Nat)
  | noLookup (resourceType : String)
  | noWindow (resourceType : String)
  | query (error : String)
  | undecodable (column complaint : String)
  | other (message : String)
  /-- There is no number behind the largest one. -/
  | overflow
deriving DecidableEq

namespace Failure

/-- The wording of failures that come from data that is not as it should be. -/
def validation (what : String) : String := s!"Validation error: {what}"

/-- The wording of a failure. -/
def message : Failure → String
  | unknownResource resourceType => s!"Unknown resource type: {resourceType}"
  | missingId resourceType => s!"Missing id for show action on {resourceType}"
  | badIdent error => validation error.message
  | badResource resource name => validation s!"resource '{resource}': invalid identifier '{name}'"
  | unevenBinding placeholders values =>
    validation s!"statement has {placeholders} placeholders but {values} bound values"
  | noLookup resourceType => validation s!"plan for {resourceType} has no single-row lookup"
  | noWindow resourceType => validation s!"plan for {resourceType} has no page window"
  | query error => s!"Query error: {error}"
  | undecodable column complaint => s!"Decode error on column '{column}': {complaint}"
  | other message => message
  | overflow => "attempt to add with overflow"

end Failure

/-- Work on a state in place: it may fail, and leaves a state in either case. -/
abbrev Editing (σ α : Type) := ExceptT Failure (StateM σ) α

/-- What comes of some work on a state, and the state that it leaves. -/
def Editing.apply {σ α : Type} (edit : Editing σ α) (state : σ) : Except Failure α × σ :=
  edit.run.run state

/-- The identifier of a name, or a failure. -/
def Ident.get (name : String) : Except Failure Ident := (Ident.parse name).mapError .badIdent

/-- The identifier of a column behind a qualifier, or a failure. -/
def Ident.column (qualifier name : String) : Except Failure Ident :=
  (Ident.qualified qualifier name).mapError .badIdent

end Retrieval
